/-
The canonical form of a text. One character can often be written in several ways, as
a composite or as a letter and marks, and the order of marks that do not touch each
other is free. The canonical form takes everything apart, puts marks in the order of
their classes, and puts together again what has a composite. Syllables of Hangul are
put together by arithmetic.
-/
import SourceSync.Text.CombiningClass
import SourceSync.Text.Composite

namespace SourceSync.Text.Normal

/-- The first syllable. -/
def syllables : Nat := 0xAC00

def syllableCount : Nat := 11172

/-- The first consonant that begins a syllable, of which there are 19. -/
def leads : Nat := 0x1100

/-- The first vowel, of which there are 21. -/
def vowels : Nat := 0x1161

/-- What would stand before the first of the 27 consonants that end a syllable. -/
def tails : Nat := 0x11A7

def isSyllable (c : Nat) : Bool :=
  syllables ≤ c && c < syllables + syllableCount

/-- The letters of a syllable. -/
def letters (c : Nat) : List Nat :=
  let i := c - syllables
  let open2 := [leads + i / 588, vowels + i % 588 / 28]
  if i % 28 = 0 then open2 else open2 ++ [tails + i % 28]

/-- A code point taken apart. What a composite begins with may be one again, up to
`steps` times. -/
def takenApart : Nat → Nat → List Nat
  | 0, c => [c]
  | steps + 1, c =>
    if c < 0xC0 then [c]
    else if isSyllable c then letters c
    else
      match Mapping.find? composites c <|> Mapping.find? variants c with
      | some (first :: rest) => takenApart steps first ++ rest
      | _ => [c]

/-- How often a composite can be taken apart. -/
def depth : Nat := 4

/-- Put a code point in front of others whose marks are in order. -/
def arrange (c : Nat) : List Nat → List Nat
  | [] => [c]
  | d :: rest =>
    if combiningClass d != 0 && combiningClass d < combiningClass c then d :: arrange c rest
    else c :: d :: rest

/-- Everything taken apart, with marks in order. -/
def decompose (cs : List Nat) : List Nat :=
  (cs.flatMap (takenApart depth)).foldr arrange []

/-- The syllable that letters make, or a syllable and a letter that ends it. -/
def syllable? (a b : Nat) : Option Nat :=
  if leads ≤ a && a < leads + 19 && vowels ≤ b && b < vowels + 21 then
    some (syllables + ((a - leads) * 21 + (b - vowels)) * 28)
  else if isSyllable a && (a - syllables) % 28 = 0 && tails < b && b < tails + 28 then
    some (a + (b - tails))
  else none

def composite? (a b : Nat) : Option Nat :=
  syllable? a b <|> (composites.find? (fun m => m.target == [a, b])).map (·.first)

/-- Composing: the character that marks join, if there is one yet, and the marks behind it
that have no composite with it, last first. -/
structure Composing where
  base : Option Nat
  marks : List Nat

namespace Composing

/-- What has been composed. -/
def text (s : Composing) : List Nat :=
  s.base.toList ++ s.marks.reverse

/-- Whether a mark of a class can reach the base: the marks before it have to be of lower
classes. -/
def isOpen (s : Composing) (k : Nat) : Bool :=
  s.marks.head?.all (fun m => combiningClass m < k)

end Composing

/-- Put together what has a composite. -/
def compose (s : Composing) : List Nat → List Nat
  | [] => s.text
  | c :: rest =>
    let k := combiningClass c
    let joined := if s.isOpen k then s.base.bind (fun b => composite? b c) else none
    match joined with
    | some b => compose { s with base := some b } rest
    | none =>
      if k = 0 then s.text ++ compose ⟨some c, []⟩ rest
      else compose { s with marks := c :: s.marks } rest

/-- The canonical form. Below the first mark everything is in it. -/
def canonical (cs : List Nat) : List Nat :=
  if cs.all (· < 0x300) then cs else compose ⟨none, []⟩ (decompose cs)

end SourceSync.Text.Normal
