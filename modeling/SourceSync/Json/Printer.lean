/-
JSON text of a value: compact, or spread over lines with two blanks for each
level. Members are written in the order in which they are listed. Of the
characters in a string only the quote, the backslash and those below U+0020 are
escaped.
-/
import SourceSync.Json.Value

namespace SourceSync.Json

def hexDigit (n : Nat) : Char :=
  Nat.digitChar n

def escape (c : Char) : List Char :=
  if c = '"' then ['\\', '"']
  else if c = '\\' then ['\\', '\\']
  else if c.toNat = 8 then ['\\', 'b']
  else if c.toNat = 12 then ['\\', 'f']
  else if c.toNat = 10 then ['\\', 'n']
  else if c.toNat = 13 then ['\\', 'r']
  else if c.toNat = 9 then ['\\', 't']
  else if c.toNat < 32 then ['\\', 'u', '0', '0', hexDigit (c.toNat / 16), hexDigit (c.toNat % 16)]
  else [c]

def quote (s : String) : List Char :=
  '"' :: (s.toList.flatMap escape ++ ['"'])

namespace Value

mutual

/-- Compact text. -/
def render : Value → List Char
  | .null => ['n', 'u', 'l', 'l']
  | .bool true => ['t', 'r', 'u', 'e']
  | .bool false => ['f', 'a', 'l', 's', 'e']
  | .number n => n.text
  | .string s => quote s
  | .array [] => ['[', ']']
  | .array (v :: rest) => '[' :: (render v ++ renderItems rest)
  | .object [] => ['\x7b', '\x7d']
  | .object ((k, v) :: rest) => '\x7b' :: (quote k ++ ':' :: (render v ++ renderMembers rest))

/-- The items after the first, and the closing bracket. -/
def renderItems : List Value → List Char
  | [] => [']']
  | v :: rest => ',' :: (render v ++ renderItems rest)

/-- The members after the first, and the closing bracket. -/
def renderMembers : List (String × Value) → List Char
  | [] => ['\x7d']
  | (k, v) :: rest => ',' :: (quote k ++ ':' :: (render v ++ renderMembers rest))

end

/-- A line break and the blanks that open a line at some level. -/
def newLine (level : Nat) : List Char :=
  '\n' :: List.replicate (2 * level) ' '

mutual

/-- Text spread over lines, at some level. -/
def renderLines (level : Nat) : Value → List Char
  | .array [] => ['[', ']']
  | .array (v :: rest) =>
    '[' :: (newLine (level + 1) ++ renderLines (level + 1) v ++ renderItemLines level rest)
  | .object [] => ['\x7b', '\x7d']
  | .object ((k, v) :: rest) =>
    '\x7b' :: (newLine (level + 1) ++ quote k ++ ':' :: ' ' :: renderLines (level + 1) v ++
      renderMemberLines level rest)
  | v => render v

/-- The items after the first, and the closing bracket on a line of its own. -/
def renderItemLines (level : Nat) : List Value → List Char
  | [] => newLine level ++ [']']
  | v :: rest =>
    ',' :: (newLine (level + 1) ++ renderLines (level + 1) v ++ renderItemLines level rest)

/-- The members after the first, and the closing bracket on a line of its own. -/
def renderMemberLines (level : Nat) : List (String × Value) → List Char
  | [] => newLine level ++ ['\x7d']
  | (k, v) :: rest =>
    ',' :: (newLine (level + 1) ++ quote k ++ ':' :: ' ' :: renderLines (level + 1) v ++
      renderMemberLines level rest)

end

def text (v : Value) : String :=
  String.ofList (render v)

/-- The text of a value spread over lines. -/
def prettyText (v : Value) : String :=
  String.ofList (renderLines 0 v)

end Value

end SourceSync.Json
