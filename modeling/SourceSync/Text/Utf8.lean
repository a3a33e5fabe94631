/-
UTF-8 octets. `decodeLossy` reads any octets: each maximal part that cannot
belong to a well-formed sequence becomes one replacement character.
`decode?` reads well-formed octets only.
-/

namespace SourceSync.Text.Utf8

def encode (s : String) : List UInt8 :=
  s.toUTF8.toList

/-- The character written for octets that are not UTF-8. -/
def replacement : Char := Char.ofNat 0xFFFD

/-- A sequence that has been started: the bits read so far, how many octets are
still owed, and the range the next octet has to lie in. -/
structure Pending where
  value : Nat
  owed : Nat
  low : Nat
  high : Nat

/-- What one octet between two characters begins. -/
inductive Lead where
  /-- A complete character. -/
  | single (c : Char)
  /-- The first octet of a longer sequence. -/
  | opens (p : Pending)
  /-- No sequence begins with this octet. -/
  | invalid

/-- Read an octet that stands between two characters. The ranges of the second
octet leave out overlong forms, surrogates and values above U+10FFFF. -/
def lead (b : Nat) : Lead :=
  if b < 0x80 then .single (Char.ofNat b)
  else if b < 0xC2 then .invalid
  else if b < 0xE0 then .opens ⟨b - 0xC0, 1, 0x80, 0xBF⟩
  else if b == 0xE0 then .opens ⟨0, 2, 0xA0, 0xBF⟩
  else if b == 0xED then .opens ⟨0xD, 2, 0x80, 0x9F⟩
  else if b < 0xF0 then .opens ⟨b - 0xE0, 2, 0x80, 0xBF⟩
  else if b == 0xF0 then .opens ⟨0, 3, 0x90, 0xBF⟩
  else if b < 0xF4 then .opens ⟨b - 0xF0, 3, 0x80, 0xBF⟩
  else if b == 0xF4 then .opens ⟨4, 3, 0x80, 0x8F⟩
  else .invalid

/-- One decoded item: a character, or an invalid part. -/
abbrev Item := Option Char

/-- Read octets, continuing a sequence that has been started, if there is one. -/
def scan : Option Pending → List UInt8 → List Item
  | none, [] => []
  | some _, [] => [none]
  | none, b :: rest =>
    match lead b.toNat with
    | .single c => some c :: scan none rest
    | .opens p => scan (some p) rest
    | .invalid => none :: scan none rest
  | some p, b :: rest =>
    let n := b.toNat
    if p.low ≤ n && n ≤ p.high then
      let value := p.value * 64 + (n - 0x80)
      if p.owed ≤ 1 then some (Char.ofNat value) :: scan none rest
      else scan (some ⟨value, p.owed - 1, 0x80, 0xBF⟩) rest
    else
      match lead n with
      | .single c => none :: some c :: scan none rest
      | .opens q => none :: scan (some q) rest
      | .invalid => none :: none :: scan none rest

/-- Read octets as text, with a replacement character for each invalid part. -/
def decodeLossy (octets : List UInt8) : List Char :=
  (scan none octets).map (·.getD replacement)

/-- Read well-formed octets as text. -/
def decode? (octets : List UInt8) : Option (List Char) :=
  (scan none octets).mapM id

end SourceSync.Text.Utf8
