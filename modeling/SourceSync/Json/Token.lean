/-
Tokens of JSON text. The scanner is a machine that takes one character at a time,
so its run over a text splits at every point of the text. Literals are collected
up to the first character that cannot belong to one and are then read as a whole.
A token says what is written: whether a number has a finite value, and whether the
escapes of a string make up characters, is asked only of what is used.
-/
import SourceSync.Json.Value

namespace SourceSync.Json

/-- Why a text, or a value, could not be read. -/
inductive ReadError where
  | unexpectedEnd
  | unexpected (what : String)
  | badLiteral (text : String)
  | badEscape
  | controlCharacter
  | numberOutOfRange
  | tooDeep
  | trailingText
  | missingField (name : String)
  | repeatedField (name : String)
  | wrongKind (expected found : String)
  | tooManyItems
  | unknownVariant (name : String)
  /-- Any other failure, as it words itself and its causes. -/
  | other (message : String) (causes : List String)
  deriving DecidableEq, Repr

def ReadError.message : ReadError → String
  | .unexpectedEnd => "unexpected end of text"
  | .unexpected what => s!"unexpected {what}"
  | .badLiteral text => s!"invalid literal {text}"
  | .badEscape => "invalid escape"
  | .controlCharacter => "control character in a string"
  | .numberOutOfRange => "number out of range"
  | .tooDeep => "nesting limit exceeded"
  | .trailingText => "text after the value"
  | .missingField name => s!"missing field {name}"
  | .repeatedField name => s!"repeated field {name}"
  | .wrongKind expected found => s!"expected {expected}, found {found}"
  | .tooManyItems => "too many items"
  | .unknownVariant name => s!"unknown variant {name}"
  | .other message _ => message

/-- What a reading error was caused by, outermost first. Behind a text that is wrong there is
no further cause. -/
def ReadError.causes : ReadError → List String
  | .other _ causes => causes
  | _ => []

/-- What is written between quotes: code points, and the halves of surrogate pairs as their
escapes give them. -/
abbrev Units : Type := List Nat

/-- Whether a unit is the first half of a surrogate pair. -/
def isHighSurrogate (unit : Nat) : Bool :=
  0xD800 ≤ unit && unit ≤ 0xDBFF

/-- Whether a unit is the second half of a surrogate pair. -/
def isLowSurrogate (unit : Nat) : Bool :=
  0xDC00 ≤ unit && unit ≤ 0xDFFF

/-- The characters that units make up; a surrogate without its partner makes up none. -/
def Units.chars? : Units → Option (List Char)
  | [] => some []
  | unit :: rest =>
    if isLowSurrogate unit then none
    else if isHighSurrogate unit then
      match rest with
      | low :: more =>
        if isLowSurrogate low then
          (Units.chars? more).map
            (Char.ofNat (0x10000 + (unit - 0xD800) * 0x400 + (low - 0xDC00)) :: ·)
        else none
      | [] => none
    else (Units.chars? rest).map (Char.ofNat unit :: ·)

def Units.text (units : Units) : Except ReadError String :=
  match units.chars? with
  | some cs => .ok (String.ofList cs)
  | none => .error .badEscape

/-- A token: punctuation, or a scalar as it is written. -/
inductive Token where
  | openArray
  | closeArray
  | openObject
  | closeObject
  | colon
  | comma
  | null
  | bool (b : Bool)
  | number (l : Number.Literal)
  | string (units : Units)
  deriving DecidableEq

namespace Token

/-- What has been read of a token that is not complete, last first. -/
inductive Scan where
  | between
  | literal (read : List Char)
  | string (read : Units)
  | escape (read : Units)
  /-- Inside `\u`: the digits' value so far and how many are owed. -/
  | unicode (read : Units) (value owed : Nat)

/-- Blanks between tokens. -/
def isGap (c : Char) : Bool :=
  c == ' ' || c == '\n' || c == '\t' || c == '\r'

/-- Characters that can belong to a literal. -/
def isLiteralChar (c : Char) : Bool :=
  c.isAlphanum || c == '-' || c == '+' || c == '.'

/-- The token of a complete literal. -/
def ofLiteral (cs : List Char) : Except ReadError Token :=
  if cs = ['n', 'u', 'l', 'l'] then .ok .null
  else if cs = ['t', 'r', 'u', 'e'] then .ok (.bool true)
  else if cs = ['f', 'a', 'l', 's', 'e'] then .ok (.bool false)
  else
    match Number.literal? cs with
    | none => .error (.badLiteral (String.ofList cs))
    | some l => .ok (.number l)

/-- The character of a one-letter escape. -/
def escaped? (c : Char) : Option Char :=
  if c = '"' then some '"'
  else if c = '\\' then some '\\'
  else if c = '/' then some '/'
  else if c = 'b' then some (Char.ofNat 8)
  else if c = 'f' then some (Char.ofNat 12)
  else if c = 'n' then some '\n'
  else if c = 'r' then some '\r'
  else if c = 't' then some '\t'
  else none

/-- A character met between tokens. -/
def begin (c : Char) : Except ReadError (Scan × List Token) :=
  if isGap c then .ok (.between, [])
  else if c = '[' then .ok (.between, [.openArray])
  else if c = ']' then .ok (.between, [.closeArray])
  else if c = '\x7b' then .ok (.between, [.openObject])
  else if c = '\x7d' then .ok (.between, [.closeObject])
  else if c = ':' then .ok (.between, [.colon])
  else if c = ',' then .ok (.between, [.comma])
  else if c = '"' then .ok (.string [], [])
  else if isLiteralChar c then .ok (.literal [c], [])
  else .error (.unexpected (String.singleton c))

/-- One character: the state after it and the tokens it completes. -/
def step : Scan → Char → Except ReadError (Scan × List Token)
  | .between, c => begin c
  | .literal read, c =>
    if isLiteralChar c then .ok (.literal (c :: read), [])
    else
      match ofLiteral read.reverse, begin c with
      | .error e, _ => .error e
      | _, .error e => .error e
      | .ok t, .ok (s, ts) => .ok (s, t :: ts)
  | .string read, c =>
    if c = '"' then .ok (.between, [.string read.reverse])
    else if c = '\\' then .ok (.escape read, [])
    else if c.toNat < 32 then .error .controlCharacter
    else .ok (.string (c.toNat :: read), [])
  | .escape read, c =>
    if c = 'u' then .ok (.unicode read 0 4, [])
    else
      match escaped? c with
      | some d => .ok (.string (d.toNat :: read), [])
      | none => .error .badEscape
  | .unicode read value owed, c =>
    match Text.hexValue? c with
    | none => .error .badEscape
    | some d =>
      if owed ≤ 1 then .ok (.string ((value * 16 + d) :: read), [])
      else .ok (.unicode read (value * 16 + d) (owed - 1), [])

/-- The tokens completed by the end of the text. -/
def finish : Scan → Except ReadError (List Token)
  | .between => .ok []
  | .literal read => (ofLiteral read.reverse).map ([·])
  | _ => .error .unexpectedEnd

/-- The tokens of a text, from some state on. -/
def scan : Scan → List Char → Except ReadError (List Token)
  | s, [] => finish s
  | s, c :: rest =>
    match step s c with
    | .error e => .error e
    | .ok (next, ts) => (scan next rest).map (ts ++ ·)

end Token

end SourceSync.Json
