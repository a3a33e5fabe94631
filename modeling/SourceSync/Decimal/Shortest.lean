/-
The shortest decimal that reads back as a given number, and how it is written.
Of the decimals with the fewest digits that read back, the nearest to the number
is taken. `Layout` says where positional notation ends and how an exponent looks.
-/
import SourceSync.Decimal.Binary64

namespace SourceSync.Decimal

/-- A decimal `digits * 10 ^ exponent`. -/
structure Digits where
  digits : Nat
  exponent : Int
  deriving DecidableEq, Repr

namespace Shortest

/-- The interval of magnitudes that round to a number, in units of a quarter of
its grid step: the number itself, and its lower and upper end. The ends belong to
the interval exactly when the mantissa is even. -/
structure Interval where
  value : Nat
  low : Nat
  high : Nat
  closed : Bool
  /-- The unit is `2 ^ (unit - 1076)`. -/
  unit : Nat

/-- The interval of a number that is not zero. Below a power of two the grid is
twice as fine, so the lower end is nearer there. -/
def interval (x : Binary64) : Interval :=
  let (m, e) := x.parts
  let below := if m = binadeSize ∧ 0 < e then 1 else 2
  ⟨4 * m, 4 * m - below, 4 * m + 2, m % 2 == 0, e⟩

/-- The interval's quantities as fractions of `10 ^ exponent`: the multiplier of
its numerators and the common denominator. -/
def scale (i : Interval) (exponent : Int) : Nat × Nat :=
  let num := if 1076 ≤ i.unit then Nat.pow 2 (i.unit - 1076) else 1
  let den := if 1076 ≤ i.unit then 1 else Nat.pow 2 (1076 - i.unit)
  if 0 ≤ exponent then (num, den * Nat.pow 10 exponent.toNat)
  else (num * Nat.pow 10 (-exponent).toNat, den)

/-- The multiple of `10 ^ exponent` nearest to the number among its two
neighbours that lie in the interval; a tie goes to the even one. -/
def candidate? (i : Interval) (exponent : Int) : Option Nat :=
  let (num, den) := scale i exponent
  let value := i.value * num
  let low := i.low * num
  let high := i.high * num
  let inside := fun (k : Nat) =>
    if i.closed then decide (low ≤ k * den ∧ k * den ≤ high)
    else decide (low < k * den ∧ k * den < high)
  let down := value / den
  let up := down + 1
  match decide (0 < down) && inside down, inside up with
  | true, false => some down
  | false, true => some up
  | false, false => none
  | true, true =>
    let under := value - down * den
    let above := up * den - value
    if under < above then some down
    else if above < under then some up
    else if down % 2 = 0 then some down else some up

/-- Try grids from coarse to fine, starting at `10 ^ exponent`. -/
def search (i : Interval) : Nat → Int → Option Digits
  | 0, _ => none
  | steps + 1, exponent =>
    match candidate? i exponent with
    | some k => some ⟨k, exponent⟩
    | none => search i steps (exponent - 1)

/-- Drop trailing zeros of the digits. -/
def strip : Nat → Digits → Digits
  | 0, d => d
  | steps + 1, d =>
    if d.digits ≠ 0 ∧ d.digits % 10 = 0 then strip steps ⟨d.digits / 10, d.exponent + 1⟩ else d

end Shortest

/-- The shortest decimal that reads back as the magnitude of `x`. The first grid
tried is coarser than any number, the last one finer than any needs. -/
def shortest (x : Binary64) : Digits :=
  if x.magnitude = 0 then ⟨0, 0⟩
  else
    let i := Shortest.interval x
    let top : Int := ((i.value.log2 + i.unit : Nat) : Int) - 1076
    let first := if 0 ≤ top then top * 30103 / 100000 + 2 else top * 30102 / 100000 + 2
    match Shortest.search i 24 first with
    | some d => Shortest.strip 24 d
    | none => ⟨0, 0⟩

/-- How a decimal is written. -/
structure Layout where
  /-- The least power of ten of the leading digit that is still written positionally. -/
  least : Int
  /-- The least power of ten of the leading digit that is no longer written positionally. -/
  bound : Int

namespace Layout

def digitText (n : Nat) : List Char :=
  Nat.toDigits 10 n

/-- An exponent with its sign, without padding. -/
def exponentText (e : Int) : List Char :=
  (if e < 0 then '-' else '+') :: digitText e.natAbs

/-- Positional notation with at least one digit on each side of the point. -/
def positional (ds : List Char) (exponent : Int) : List Char :=
  if 0 ≤ exponent then ds ++ List.replicate exponent.toNat '0' ++ ['.', '0']
  else
    let places := (-exponent).toNat
    if places < ds.length then ds.take (ds.length - places) ++ '.' :: ds.drop (ds.length - places)
    else ['0', '.'] ++ List.replicate (places - ds.length) '0' ++ ds

/-- Scientific notation: one digit, a fraction if there are more digits, the exponent. -/
def scientific (ds : List Char) (power : Int) : List Char :=
  match ds with
  | [] => []
  | [d] => d :: 'e' :: exponentText power
  | d :: rest => d :: '.' :: rest ++ 'e' :: exponentText power

/-- A number written with a layout. -/
def render (layout : Layout) (x : Binary64) : List Char :=
  let d := shortest x
  let ds := digitText d.digits
  let power := d.exponent + ds.length - 1
  let body :=
    if d.digits = 0 then ['0', '.', '0']
    else if layout.least ≤ power ∧ power < layout.bound then positional ds d.exponent
    else scientific ds power
  if x.negative then '-' :: body else body

end Layout

end SourceSync.Decimal
