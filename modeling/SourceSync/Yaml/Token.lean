/-
Tokens of YAML text, and the places in it. The ends of lines are all written as
line feeds, except the two separators of Unicode, which stay what they are.
-/
import SourceSync.Text.Digits
import SourceSync.Text.Utf8

namespace SourceSync.Yaml

/-- Why a text cannot be read. -/
structure Malformed where
  message : String
  deriving DecidableEq, Repr

/-- The outcome of reading. -/
abbrev Result (α : Type) : Type := Except Malformed α

/-- A text that cannot be read. -/
def malformed {α : Type} (message : String) : Result α :=
  .error ⟨message⟩

/-- How a scalar is written. -/
inductive ScalarStyle where
  | plain
  /-- In single or double quotes. -/
  | quoted
  /-- As a block that keeps its line breaks. -/
  | literal
  /-- As a block whose lines are joined. -/
  | folded
  deriving DecidableEq, Repr

/-- What a tag says: octets, since an escape in a tag names an octet. -/
abbrev Tag : Type := List UInt8

inductive Token where
  | version (major minor : Nat)
  | tagHandle (handle : List Char) (lead : Tag)
  | documentStart
  | documentEnd
  | blockSequenceStart
  | blockMappingStart
  | blockEnd
  | flowSequenceStart
  | flowSequenceEnd
  | flowMappingStart
  | flowMappingEnd
  | blockEntry
  | flowEntry
  | key
  | value
  | alias (name : List Char)
  | anchor (name : List Char)
  | tag (handle : List Char) (suffix : Tag)
  | scalar (style : ScalarStyle) (text : List Char)
  deriving DecidableEq, Repr

/-- A place in a text: its line, and what stands before it in that line, in characters
and in octets. -/
structure Place where
  line : Nat
  column : Nat
  octet : Nat
  deriving DecidableEq, Repr

namespace Place

/-- The place after one more character of the same line. -/
def right (p : Place) (c : Char) : Place :=
  { p with column := p.column + 1, octet := p.octet + c.utf8Size }

/-- The beginning of the next line. -/
def down (p : Place) : Place :=
  ⟨p.line + 1, 0, 0⟩

end Place

/-- What is left of a text, and the place where it begins. -/
structure Cursor where
  rest : List Char
  place : Place
  deriving DecidableEq, Repr

def Cursor.skip (c : Cursor) (n : Nat) : Cursor :=
  ⟨c.rest.drop n, (c.rest.take n).foldl Place.right c.place⟩

/-- Skip the characters of a class, none of them a line break. -/
def Cursor.skipWhile (c : Cursor) (p : Char → Bool) : Cursor :=
  c.skip (c.rest.takeWhile p).length

/-- A space or a tab. -/
def isBlank (c : Char) : Bool :=
  c == ' ' || c == '\t'

def isBreak (c : Char) : Bool :=
  c == '\n' || c.toNat == 0x2028 || c.toNat == 0x2029

/-- Whether the text is at an end or at white space. -/
def atGap : List Char → Bool
  | [] => true
  | c :: _ => isBlank c || isBreak c

/-- Whether the text is at an end or at the end of a line. -/
def atBreak : List Char → Bool
  | [] => true
  | c :: _ => isBreak c

/-- Whether a document marker stands here. -/
def atMarker : List Char → Bool
  | '-' :: '-' :: '-' :: rest => atGap rest
  | '.' :: '.' :: '.' :: rest => atGap rest
  | _ => false

/-- Characters of anchors and of tag handles. -/
def isWordChar (c : Char) : Bool :=
  c.isAlphanum || c == '_' || c == '-'

/-- Characters that a text may hold. -/
def isAllowed (c : Char) : Bool :=
  let n := c.toNat
  n == 0x9 || n == 0xA || n == 0xD || (0x20 ≤ n && n ≤ 0x7E) || n == 0x85 ||
    (0xA0 ≤ n && n ≤ 0xD7FF) || (0xE000 ≤ n && n ≤ 0xFFFD) || 0x10000 ≤ n

/-- The text with every end of a line written as a line feed. -/
def normalizeBreaks : List Char → List Char
  | [] => []
  | '\r' :: '\n' :: rest => '\n' :: normalizeBreaks rest
  | c :: rest => (if c == '\r' || c.toNat == 0x85 then '\n' else c) :: normalizeBreaks rest

end SourceSync.Yaml
