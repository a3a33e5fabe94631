/-
Tables of code points, written as lines of words. In a table of ranges a word is a
code point or a range, in base 16: `AD 300-36F`. In a table of mappings it also says
what stands for the code points: `41-5A=61` is a row of letters that goes with the row
from `61` on, `100:12E=101` every second one of a row, and `DF=73.73` a single code
point that goes with two.
-/
import SourceSync.Text.Blank
import SourceSync.Text.Digits
import SourceSync.Text.Search

namespace SourceSync.Text

/-- The number that digits of base 16 stand for. -/
def base16 (cs : List Char) : Nat :=
  cs.foldl (fun n c => 16 * n + (hexValue? c).getD 0) 0

def wordsOfLines (lines : List String) : List (List Char) :=
  lines.flatMap (fun line => words line.toList)

/-- The numbers on both sides of a mark; the only one, if there is no mark. -/
def bounds (mark : Char) (word : List Char) : Nat × Nat :=
  match splitOn mark word with
  | [first, last] => (base16 first, base16 last)
  | _ => (base16 word, base16 word)

/-- Ranges of code points: the first and the last of each. -/
abbrev Ranges : Type := List (Nat × Nat)

namespace Ranges

/-- The ranges that lines list. -/
def ofLines (lines : List String) : Ranges :=
  (wordsOfLines lines).map (bounds '-')

def contains (rs : Ranges) (c : Nat) : Bool :=
  rs.any (fun r => r.1 ≤ c && c ≤ r.2)

end Ranges

/-- What goes with the code points of a row, of which every `step`-th counts. -/
structure Mapping where
  first : Nat
  last : Nat
  step : Nat
  /-- What goes with the first one; it moves with the others. -/
  target : List Nat
  deriving DecidableEq, Repr

namespace Mapping

/-- The mapping that a word writes. -/
def ofWord (word : List Char) : Mapping :=
  let (row, target) := match splitOn '=' word with
    | [row, target] => (row, target)
    | _ => (word, word)
  let step := if row.contains ':' then 2 else 1
  let (first, last) := bounds (if step = 2 then ':' else '-') row
  ⟨first, last, step, (splitOn '.' target).map base16⟩

/-- The mappings that lines list. -/
def ofLines (lines : List String) : List Mapping :=
  (wordsOfLines lines).map ofWord

/-- Whether a mapping says what goes with a code point. -/
def covers (m : Mapping) (c : Nat) : Bool :=
  m.first ≤ c && c ≤ m.last && (c - m.first) % m.step == 0

/-- What goes with a code point of the row. -/
def image (m : Mapping) (c : Nat) : List Nat :=
  m.target.map (· + (c - m.first))

/-- What goes with a code point, if anything does. -/
def find? (ms : List Mapping) (c : Nat) : Option (List Nat) :=
  (ms.find? (fun m => m.covers c)).map (fun m => m.image c)

end Mapping

end SourceSync.Text
