/-
Finite binary floating-point numbers of 64 bits, kept as a sign and the 63 bits
below it. Those bits, read as a natural number, grow with the magnitude they
stand for, so comparing two numbers is comparing two integers (`order`).
`nearest` rounds any non-negative fraction to the grid, halves going to the even
neighbour; sums of decimal digits, products and quotients are all rounded by it.
-/

namespace SourceSync.Decimal

/-- The bits of the smallest magnitude that is no longer finite. -/
def infiniteBits : Nat := 0x7FF0000000000000

/-- The number of magnitudes that share an exponent: two to the power of 52. -/
def binadeSize : Nat := 0x10000000000000

/-- A finite number: its sign and the bits of its magnitude. -/
structure Binary64 where
  negative : Bool
  magnitude : Nat
  finite : magnitude < infiniteBits
  deriving DecidableEq

namespace Binary64

/-- The number as a mantissa `m` and an exponent `e`: its magnitude is `m * 2 ^ (e - 1074)`. -/
def parts (x : Binary64) : Nat × Nat :=
  let biased := x.magnitude / binadeSize
  let fraction := x.magnitude % binadeSize
  if biased = 0 then (fraction, 0) else (binadeSize + fraction, biased - 1)

/-- An integer that orders the numbers; the two zeros share it. -/
def order (x : Binary64) : Int :=
  if x.negative then -(x.magnitude : Int) else x.magnitude

/-- Numeric equality: the two zeros are equal. -/
def same (x y : Binary64) : Bool :=
  x.order == y.order

/-- `n / d` rounded to an integer, a half going to the even neighbour. -/
def roundHalfEven (n d : Nat) : Nat :=
  let q := n / d
  let r := n % d
  if 2 * r < d then q
  else if d < 2 * r then q + 1
  else if q % 2 = 0 then q else q + 1

/-- The exponent `e` with `2 ^ e ≤ n / d < 2 ^ (e + 1)`, for a positive fraction. -/
def binaryExponent (n d : Nat) : Int :=
  let guess : Int := (n.log2 : Int) - d.log2
  let reached :=
    if 0 ≤ guess then decide (d * Nat.pow 2 guess.toNat ≤ n)
    else decide (d ≤ n * Nat.pow 2 (-guess).toNat)
  if reached then guess else guess - 1

/-- The bits of the grid number nearest to `n / d`; at or above `infiniteBits`
when the fraction is too large to be finite. -/
def nearestBits (n d : Nat) : Nat :=
  if n = 0 then 0
  else
    let quantum : Int := max (binaryExponent n d - 52) (-1074)
    let mantissa :=
      if 0 ≤ quantum then roundHalfEven n (d * Nat.pow 2 quantum.toNat)
      else roundHalfEven (n * Nat.pow 2 (-quantum).toNat) d
    (quantum + 1074).toNat * binadeSize + mantissa

/-- The number nearest to `± n / d`, if it is finite. -/
def nearest? (negative : Bool) (n d : Nat) : Option Binary64 :=
  if h : nearestBits n d < infiniteBits then some ⟨negative, nearestBits n d, h⟩ else none

def zero : Binary64 := ⟨false, 0, by decide⟩

instance : Inhabited Binary64 := ⟨zero⟩

/-- The number nearest to a natural number, if it is finite. -/
def ofNat? (n : Nat) : Option Binary64 :=
  nearest? false n 1

/-- The number nearest to an integer, if it is finite. -/
def ofInt? (n : Int) : Option Binary64 :=
  nearest? (decide (n < 0)) n.natAbs 1

/-- The same magnitude with the opposite sign. -/
def neg (x : Binary64) : Binary64 :=
  { x with negative := !x.negative }

/-- The magnitude as a fraction. -/
def fraction (x : Binary64) : Nat × Nat :=
  let (m, e) := x.parts
  if 1074 ≤ e then (m * Nat.pow 2 (e - 1074), 1) else (m, Nat.pow 2 (1074 - e))

/-- The product, if it is finite. -/
def mul? (x y : Binary64) : Option Binary64 :=
  let (a, b) := x.fraction
  let (c, d) := y.fraction
  nearest? (x.negative != y.negative) (a * c) (b * d)

/-- The quotient, if the divisor is not zero and the result is finite. -/
def div? (x y : Binary64) : Option Binary64 :=
  let (a, b) := x.fraction
  let (c, d) := y.fraction
  if c = 0 then none else nearest? (x.negative != y.negative) (a * d) (b * c)

/-- The number nearest to `± digits * 10 ^ exponent`, if it is finite. Exponents
far outside the range are answered without computing the power. -/
def ofDecimal? (negative : Bool) (digits : Nat) (exponent : Int) : Option Binary64 :=
  if digits = 0 then some ⟨negative, 0, by decide⟩
  else if 400 < exponent then none
  else if exponent + (digits.log2 : Int) < -1200 then some ⟨negative, 0, by decide⟩
  else if 0 ≤ exponent then nearest? negative (digits * Nat.pow 10 exponent.toNat) 1
  else nearest? negative digits (Nat.pow 10 (-exponent).toNat)

end Binary64

end SourceSync.Decimal
