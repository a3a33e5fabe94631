/-
Numbers of JSON text. A literal without fraction and exponent that fits 64 bits,
signed or unsigned, is a whole number; every other literal is a binary
floating-point number. The two kinds are never equal, but they are ordered
together. `Number.text` and `ofLiteral?` are writing and reading.
-/
import SourceSync.Decimal.Shortest
import SourceSync.Text.Digits

namespace SourceSync.Json

open Decimal

/-- The range of whole numbers: from the least signed to the greatest unsigned 64-bit number. -/
def InRange (n : Int) : Prop :=
  -0x8000000000000000 ≤ n ∧ n < 0x10000000000000000

instance (n : Int) : Decidable (InRange n) :=
  inferInstanceAs (Decidable (_ ∧ _))

/-- A number: whole, or floating-point. -/
inductive Number where
  | whole (n : Int) (inRange : InRange n)
  | real (x : Binary64)
  deriving DecidableEq

namespace Number

/-- An integer as a number, rounded to floating point outside the range of whole numbers. -/
def ofInt (n : Int) : Number :=
  if h : InRange n then .whole n h else .real ((Binary64.ofInt? n).getD .zero)

def ofNat (n : Nat) : Number :=
  ofInt n

def signed? : Number → Option Int
  | .whole n _ => if n < 0x8000000000000000 then some n else none
  | .real _ => none

def unsigned? : Number → Option Nat
  | .whole n _ => if 0 ≤ n then some n.toNat else none
  | .real _ => none

/-- The value in floating point; every whole number in range has a finite neighbour. -/
def toReal : Number → Binary64
  | .whole n _ => (Binary64.ofInt? n).getD .zero
  | .real x => x

/-- Equality of numbers: kinds differ, the two floating-point zeros do not. -/
def same : Number → Number → Bool
  | .whole a _, .whole b _ => a == b
  | .real x, .real y => x.same y
  | _, _ => false

/-- Floating-point numbers are written positionally from `0.00001` up to below `1e16`. -/
def layout : Layout := ⟨-5, 16⟩

/-- The digits of an integer, with a minus sign below zero. -/
def integerText (n : Int) : List Char :=
  if n < 0 then '-' :: Layout.digitText n.natAbs else Layout.digitText n.natAbs

def text : Number → List Char
  | .whole n _ => integerText n
  | .real x => layout.render x

/-- A numeric literal taken apart: sign, integer digits, fraction digits, exponent.
The fraction and the exponent are absent or have at least one digit. -/
structure Literal where
  negative : Bool
  integer : List Char
  fraction : Option (List Char)
  exponent : Option (Bool × List Char)
  deriving DecidableEq

/-- The digits at the front, and the rest. -/
def takeDigits (cs : List Char) : List Char × List Char :=
  (cs.takeWhile Char.isDigit, cs.dropWhile Char.isDigit)

/-- Whether there is a minus sign at the front, and the rest. -/
def takeSign (cs : List Char) : Bool × List Char :=
  match cs with
  | '-' :: rest => (true, rest)
  | cs => (false, cs)

/-- The digits behind a point at the front, if there is one, and the rest. -/
def takeFraction (cs : List Char) : Option (List Char) × List Char :=
  match cs with
  | '.' :: rest => (some (takeDigits rest).1, (takeDigits rest).2)
  | cs => (none, cs)

/-- Digits at the front that may have a sign, true unless it is a minus, and the rest. -/
def takeSigned (cs : List Char) : (Bool × List Char) × List Char :=
  match cs with
  | '+' :: ds => ((true, (takeDigits ds).1), (takeDigits ds).2)
  | '-' :: ds => ((false, (takeDigits ds).1), (takeDigits ds).2)
  | ds => ((true, (takeDigits ds).1), (takeDigits ds).2)

/-- The exponent at the front, if there is one, and the rest. -/
def takeExponent (cs : List Char) : Option (Bool × List Char) × List Char :=
  match cs with
  | 'e' :: rest => (some (takeSigned rest).1, (takeSigned rest).2)
  | 'E' :: rest => (some (takeSigned rest).1, (takeSigned rest).2)
  | cs => (none, cs)

/-- Whether there are digits, and no zero that leads others. -/
def isInteger (ds : List Char) : Bool :=
  match ds with
  | [] => false
  | '0' :: _ :: _ => false
  | _ => true

/-- Take a literal apart; leading zeros and missing digits are refused. -/
def literal? (cs : List Char) : Option Literal :=
  let (negative, cs) := takeSign cs
  let (integer, cs) := takeDigits cs
  let (fraction, cs) := takeFraction cs
  let (exponent, cs) := takeExponent cs
  let digitsOk := isInteger integer && fraction != some [] && (exponent.map (·.2)) != some []
  if digitsOk && cs.isEmpty then some ⟨negative, integer, fraction, exponent⟩ else none

/-- The leading digits of a number that fit an unsigned 64-bit word, and how many
digits came after them. -/
def significand : Nat → Bool → Nat → List Char → Nat × Nat
  | n, _, dropped, [] => (n, dropped)
  | n, full, dropped, c :: rest =>
    let next := n * 10 + Text.digitValue c
    if full || decide (0x10000000000000000 ≤ next) then significand n true (dropped + 1) rest
    else significand next false dropped rest

/-- A power of ten in floating point. -/
def power10 (k : Nat) : Binary64 :=
  (Binary64.ofDecimal? false 1 k).getD .zero

/-- `x * 10 ^ exponent`, scaled by at most `10 ^ 308` at a time; `none` if it overflows. -/
def scale? : Nat → Binary64 → Int → Option Binary64
  | 0, x, _ => some x
  | steps + 1, x, exponent =>
    if exponent.natAbs ≤ 308 then
      if 0 ≤ exponent then x.mul? (power10 exponent.natAbs) else x.div? (power10 exponent.natAbs)
    else if x.magnitude = 0 then some x
    else if 0 ≤ exponent then none
    else (x.div? (power10 308)).bind (fun y => scale? steps y (exponent + 308))

/-- The exponent written in a literal. -/
def Literal.writtenExponent (l : Literal) : Int :=
  match l.exponent with
  | none => 0
  | some (true, ds) => Text.naturalValue ds
  | some (false, ds) => -(Text.naturalValue ds : Int)

/-- The floating-point value of a literal: its leading digits, as many as fit an
unsigned 64-bit word, scaled by the power of ten that the rest of it says. -/
def Literal.real? (l : Literal) : Option Binary64 :=
  let (head, droppedInteger) := significand 0 false 0 l.integer
  let fraction := l.fraction.getD []
  let (digits, droppedFraction) := significand head false 0 fraction
  let point : Int := (droppedInteger : Int) - (fraction.length - droppedFraction : Nat)
  let exponent := point + l.writtenExponent
  let start := (Binary64.ofNat? digits).getD .zero
  (scale? 4 start exponent).map (fun x => if l.negative then x.neg else x)

/-- The number a literal stands for, if it is finite. -/
def Literal.number? (l : Literal) : Option Number :=
  if l.fraction.isNone && l.exponent.isNone then
    let n : Int :=
      if l.negative then -(Text.naturalValue l.integer : Int) else Text.naturalValue l.integer
    if h : InRange n then
      if l.negative && n == 0 then l.real?.map .real else some (.whole n h)
    else l.real?.map .real
  else l.real?.map .real

end Number

end SourceSync.Json
