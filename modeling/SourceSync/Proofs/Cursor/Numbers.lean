/-
How numbers compare as cursor values. Each number has an exact value. Two whole numbers that fit
64 bits with a sign compare by it, all others by what their values are rounded to. Rounding may
make two values equal, but it never turns them around; so the comparison is exact but for pairs
that are blurred, and these pass for equal.
-/
import Mathlib.Algebra.Order.Field.Power
import Mathlib.Algebra.Order.Ring.Rat
import Mathlib.Order.Compare
import Mathlib.Tactic.NormNum
import SourceSync.Proofs.Cursor
import SourceSync.Proofs.Decimal.Nearest

namespace SourceSync

open Decimal Json

/-- The exact value of a floating-point number. -/
def Decimal.Binary64.value (x : Binary64) : ℚ :=
  (if x.negative then -1 else 1) * (x.parts.1 * 2 ^ ((x.parts.2 : ℤ) - 1074))

theorem Decimal.Binary64.value_mul_unitSteps (x : Binary64) :
    x.value * unitSteps = grid x.order := by
  have hmagnitude : (x.parts.1 * 2 ^ ((x.parts.2 : ℤ) - 1074) : ℚ) * unitSteps =
      (stepsOf x.magnitude : ℤ) := by
    have hunit : (2 : ℚ) ^ (1074 : ℤ) = unitSteps := by
      rw [unitSteps, Nat.cast_pow, Nat.cast_ofNat]
      exact zpow_natCast 2 1074
    rw [Binary64.stepsOf_magnitude, zpow_sub₀ two_ne_zero, zpow_natCast, hunit, mul_assoc,
      div_mul_cancel₀ _ (Nat.cast_ne_zero.mpr unitSteps_pos.ne'), Int.cast_natCast, Nat.cast_mul,
      Nat.cast_pow, Nat.cast_ofNat]
  rw [value, mul_assoc, hmagnitude, order]
  by_cases hnegative : x.negative = true
  · rw [if_pos hnegative, if_pos hnegative, grid_neg, grid_natCast, neg_one_mul, Int.cast_neg]
  · rw [if_neg hnegative, if_neg hnegative, grid_natCast, one_mul]

namespace Json.Number

variable {a b : Number}

/-- The exact value of a number. -/
def value : Number → ℚ
  | .whole n _ => n
  | .real x => x.value

/-- The exact value of a number, counted in steps of `2 ^ -1074`. -/
def steps : Number → Int
  | .whole n _ => n * unitSteps
  | .real x => grid x.order

theorem value_mul_unitSteps (a : Number) : a.value * unitSteps = a.steps := by
  cases a with
  | whole n hrange =>
      rw [value, steps, Int.cast_mul, Int.cast_natCast]
  | real x => exact x.value_mul_unitSteps

theorem cmp_value (a b : Number) : cmp a.value b.value = cmp a.steps b.steps := by
  have hpos : (0 : ℚ) < unitSteps := Nat.cast_pos.mpr unitSteps_pos
  rw [← cmp_mul_pos_right hpos, value_mul_unitSteps, value_mul_unitSteps]
  exact (Int.cast_strictMono (R := ℚ)).cmp_map_eq a.steps b.steps

theorem natAbs_lt_of_inRange {n : Int} (hrange : InRange n) : n.natAbs < 0x10000000000000000 := by
  obtain ⟨hleast, hmost⟩ := hrange
  omega

/-- A number is taken in floating point at a nearest place. -/
theorem isNearest_toReal (a : Number) : IsNearest a.steps a.toReal.order := by
  cases a with
  | whole n hrange => exact Binary64.isNearest_ofInt? (natAbs_lt_of_inRange hrange)
  | real x => exact IsNearest.grid_self x.order

/-- Numbers of one value are the same number in floating point. -/
theorem order_eq_of_steps_eq (hsame : a.steps = b.steps) : a.toReal.order = b.toReal.order := by
  cases a with
  | real x =>
      have hnearest := isNearest_toReal b
      rw [← hsame] at hnearest
      exact hnearest.eq_of_grid.symm
  | whole m hm =>
      cases b with
      | real y =>
          have hnearest := isNearest_toReal (.whole m hm)
          rw [hsame] at hnearest
          exact hnearest.eq_of_grid
      | whole n hn =>
          have hpos : (unitSteps : Int) ≠ 0 := by exact_mod_cast unitSteps_pos.ne'
          have hmn : m = n := Int.eq_of_mul_eq_mul_right hpos hsame
          subst hmn
          rfl

theorem order_eq_of_value_eq (hsame : a.value = b.value) : a.toReal.order = b.toReal.order := by
  rw [← cmp_eq_eq_iff, cmp_value, cmp_eq_eq_iff] at hsame
  exact order_eq_of_steps_eq hsame

/-- Numbers are not turned around when they are taken in floating point. -/
theorem order_le_of_value_lt (hlt : a.value < b.value) : a.toReal.order ≤ b.toReal.order := by
  rw [← cmp_eq_lt_iff, cmp_value, cmp_eq_lt_iff] at hlt
  exact (isNearest_toReal a).le_of_lt (isNearest_toReal b) hlt

/-- A whole number with more than 53 binary digits. -/
def IsGreat : Number → Prop
  | .whole n _ => 0x20000000000000 < n.natAbs
  | .real _ => False

/-- All other numbers are what they are in floating point. -/
theorem grid_toReal (ha : ¬ a.IsGreat) : grid a.toReal.order = a.steps := by
  cases a with
  | whole n hrange => exact Binary64.grid_ofInt? (Nat.not_lt.mp ha)
  | real x => rfl

/-- Numbers of different values that cannot be told apart: not both fit 64 bits with a sign, and
in floating point they are the same. -/
structure Blurred (a b : Number) : Prop where
  differ : a.value ≠ b.value
  rounded : a.toReal.order = b.toReal.order
  unsigned : a.signed? = none ∨ b.signed? = none

/-- Only great numbers are blurred. -/
theorem Blurred.isGreat (hblurred : Blurred a b) : a.IsGreat ∨ b.IsGreat := by
  by_contra hneither
  obtain ⟨ha, hb⟩ := not_or.mp hneither
  apply hblurred.differ
  rw [← cmp_eq_eq_iff, cmp_value, cmp_eq_eq_iff, ← grid_toReal ha, ← grid_toReal hb,
    hblurred.rounded]

end Json.Number

namespace Cursor

variable {a b c : Number}

/-- Numbers that do not both fit 64 bits with a sign compare in floating point. -/
theorem compareNumbers_of_unsigned (hunsigned : a.signed? = none ∨ b.signed? = none) :
    compareNumbers a b = cmp a.toReal.order b.toReal.order := by
  rw [cmp_eq_compare, compareNumbers]
  split
  · next x y hx hy => simp [hx, hy] at hunsigned
  · rfl

theorem compareNumbers_of_blurred (hblurred : a.Blurred b) : compareNumbers a b = .eq := by
  rw [compareNumbers_of_unsigned hblurred.unsigned]
  exact (cmp_eq_eq_iff _ _).mpr hblurred.rounded

/-- All but blurred numbers compare by their exact values. -/
theorem compareNumbers_of_not_blurred (hclear : ¬ a.Blurred b) :
    compareNumbers a b = cmp a.value b.value := by
  by_cases hunsigned : a.signed? = none ∨ b.signed? = none
  · have hapart : a.value ≠ b.value → a.toReal.order ≠ b.toReal.order := by
      intro hdiffer hrounded
      exact hclear ⟨hdiffer, hrounded, hunsigned⟩
    rw [compareNumbers_of_unsigned hunsigned]
    rcases lt_trichotomy a.value b.value with hlt | heq | hlt
    · rw [(cmp_eq_lt_iff _ _).mpr hlt, cmp_eq_lt_iff]
      exact lt_of_le_of_ne (Number.order_le_of_value_lt hlt) (hapart hlt.ne)
    · rw [(cmp_eq_eq_iff _ _).mpr heq, cmp_eq_eq_iff]
      exact Number.order_eq_of_value_eq heq
    · rw [(cmp_eq_gt_iff _ _).mpr hlt, cmp_eq_gt_iff]
      exact lt_of_le_of_ne (Number.order_le_of_value_lt hlt) (hapart hlt.ne').symm
  · obtain ⟨ha, hb⟩ := not_or.mp hunsigned
    obtain ⟨x, hx⟩ := Option.ne_none_iff_exists'.mp ha
    obtain ⟨y, hy⟩ := Option.ne_none_iff_exists'.mp hb
    have hcompare : compareNumbers a b = compare x y := by simp only [compareNumbers, hx, hy]
    obtain ⟨hxrange, rfl⟩ := number_of_signed? hx
    obtain ⟨hyrange, rfl⟩ := number_of_signed? hy
    rw [hcompare, ← cmp_eq_compare]
    exact ((Int.cast_strictMono (R := ℚ)).cmp_map_eq x y).symm

theorem compareNumbers_eq_lt_iff :
    compareNumbers a b = .lt ↔ a.value < b.value ∧ ¬ a.Blurred b := by
  by_cases hblurred : a.Blurred b
  · simp [compareNumbers_of_blurred hblurred, hblurred]
  · rw [compareNumbers_of_not_blurred hblurred, cmp_eq_lt_iff]
    exact (and_iff_left hblurred).symm

theorem compareNumbers_eq_gt_iff :
    compareNumbers a b = .gt ↔ b.value < a.value ∧ ¬ a.Blurred b := by
  by_cases hblurred : a.Blurred b
  · simp [compareNumbers_of_blurred hblurred, hblurred]
  · rw [compareNumbers_of_not_blurred hblurred, cmp_eq_gt_iff]
    exact (and_iff_left hblurred).symm

/-- Being smaller is transitive: two numbers that floating point does not tell apart have none
between them that it does. -/
theorem compareNumbers_lt_trans (hab : compareNumbers a b = .lt) (hbc : compareNumbers b c = .lt) :
    compareNumbers a c = .lt := by
  obtain ⟨hltab, hclearab⟩ := compareNumbers_eq_lt_iff.mp hab
  obtain ⟨hltbc, hclearbc⟩ := compareNumbers_eq_lt_iff.mp hbc
  rw [compareNumbers_eq_lt_iff]
  refine ⟨hltab.trans hltbc, ?_⟩
  intro hblurred
  -- were the ends rounded to one place, then so was the number between them
  have hrounded := hblurred.rounded
  have hleab := Number.order_le_of_value_lt hltab
  have hlebc := Number.order_le_of_value_lt hltbc
  rcases hblurred.unsigned with ha | hc
  · exact hclearab ⟨hltab.ne, by omega, Or.inl ha⟩
  · exact hclearbc ⟨hltbc.ne, by omega, Or.inr hc⟩

section Advance

variable {f : CursorField} {state record : Object} {latest stored : Number}

theorem replaces_number_iff :
    replaces (.number latest) (some (.number stored)) = true ↔
      stored.value < latest.value ∧ ¬ latest.Blurred stored := by
  rw [replaces_some_iff rfl, compareNumbers_eq_gt_iff]

/-- A state that holds a number keeps it or takes that of the record: it never falls, and what it
then holds is no smaller than the record's number unless that is blurred with the stored one. -/
theorem advance_number (hlatest : f.valueIn? record = some (.number latest))
    (hstored : Table.get? f.stateKey state = some (.number stored)) :
    ∃ kept : Number, Table.get? f.stateKey (advance f state record) = some (.number kept) ∧
      stored.value ≤ kept.value ∧
      (latest.value ≤ kept.value ∨ kept = stored ∧ latest.Blurred stored) := by
  have hcounted : f.counted? record = some (.number latest) := by
    rw [CursorField.counted?, hlatest]
    rfl
  rw [advance_eq, hcounted]
  simp only [raise, hstored]
  by_cases hreplaces : replaces (.number latest) (some (.number stored)) = true
  · obtain ⟨hlt, -⟩ := replaces_number_iff.mp hreplaces
    rw [if_pos hreplaces, Table.get?_put_self]
    exact ⟨latest, rfl, hlt.le, Or.inl le_rfl⟩
  · rw [if_neg hreplaces]
    refine ⟨stored, hstored, le_rfl, ?_⟩
    by_cases hblurred : latest.Blurred stored
    · exact Or.inr ⟨rfl, hblurred⟩
    · exact Or.inl (not_lt.mp fun hlt => hreplaces (replaces_number_iff.mpr ⟨hlt, hblurred⟩))

end Advance

/-- Two numbers compare by their exact values unless they are blurred, which takes a great number;
then they pass for equal. So no two numbers are ever turned around, being smaller is transitive,
and a state that takes in a record's number never falls and stays below that number only where the
two are blurred. -/
theorem compare_numbers_unless_blurred (a b c : Number) :
    (¬ a.Blurred b → compare? (.number a) (.number b) = some (cmp a.value b.value)) ∧
    (a.Blurred b → compare? (.number a) (.number b) = some .eq ∧ (a.IsGreat ∨ b.IsGreat)) ∧
    (compare? (.number a) (.number b) = some .lt → compare? (.number b) (.number c) = some .lt →
      compare? (.number a) (.number c) = some .lt) ∧
    ∀ (f : CursorField) (state record : Object), f.valueIn? record = some (.number a) →
      Table.get? f.stateKey state = some (.number b) →
        ∃ kept : Number, Table.get? f.stateKey (advance f state record) = some (.number kept) ∧
          b.value ≤ kept.value ∧ (a.value ≤ kept.value ∨ kept = b ∧ a.Blurred b) := by
  refine ⟨?_, ?_, ?_, ?_⟩
  · intro hclear
    exact congrArg some (compareNumbers_of_not_blurred hclear)
  · intro hblurred
    exact ⟨congrArg some (compareNumbers_of_blurred hblurred), hblurred.isGreat⟩
  · intro hab hbc
    exact congrArg some (compareNumbers_lt_trans (Option.some.inj hab) (Option.some.inj hbc))
  · intro f state record hrecord hstate
    exact advance_number hrecord hstate

namespace NumbersExample

/-- Two to the power of 53 in floating point. -/
def power : Number := .real ⟨false, 0x4340000000000000, by decide⟩

def wholePower : Number := .whole 0x20000000000000 (by decide)

def following : Number := .whole 0x20000000000001 (by decide)

def penultimate : Number := .whole 0xFFFFFFFFFFFFFFFE (by decide)

def ultimate : Number := .whole 0xFFFFFFFFFFFFFFFF (by decide)

theorem value_power : power.value = 0x20000000000000 := by
  have hparts : (⟨false, 0x4340000000000000, by decide⟩ : Binary64).parts = (2 ^ 52, 1075) := by
    decide +kernel
  rw [power, Number.value, Binary64.value, hparts]
  norm_num

theorem value_lt_ultimate : penultimate.value < ultimate.value := by
  norm_num [penultimate, ultimate, Number.value]

theorem blurred_following : following.Blurred power where
  differ := by
    rw [value_power]
    norm_num [following, Number.value]
  rounded := by decide +kernel
  unsigned := Or.inr rfl

end NumbersExample

open NumbersExample in
/-- A whole number that is blurred with the floating-point number before it, and not with the
greatest whole number. -/
theorem compare_numbers_unless_blurred_following :
    following.Blurred power ∧ compare? (.number following) (.number power) = some .eq ∧
    ¬ following.Blurred ultimate ∧
    compare? (.number following) (.number ultimate) = some (cmp following.value ultimate.value) ∧
    ∃ kept : Number, Table.get? "seq" (advance (.field "seq") [("seq", .number ultimate)]
        [("seq", .number following)]) = some (.number kept) ∧ ultimate.value ≤ kept.value := by
  have hclear : ¬ following.Blurred ultimate := by
    rintro ⟨-, hrounded, -⟩
    exact absurd hrounded (by decide +kernel)
  obtain ⟨-, hequal, -⟩ := compare_numbers_unless_blurred following power ultimate
  obtain ⟨hexact, -, -, hadvance⟩ := compare_numbers_unless_blurred following ultimate power
  obtain ⟨kept, hkept, hle, -⟩ := hadvance (.field "seq") [("seq", .number ultimate)]
    [("seq", .number following)] rfl rfl
  exact ⟨blurred_following, (hequal blurred_following).1, hclear, hexact hclear, kept, hkept, hle⟩

open NumbersExample in
/-- Great numbers of different values pass for equal. So the comparison is not transitive, and a
state keeps a number although the record's number is greater. -/
theorem great_numbers_pass_for_equal :
    compare? (.number penultimate) (.number ultimate) = some .eq ∧
    penultimate.value < ultimate.value ∧
    compare? (.number following) (.number power) = some .eq ∧
    compare? (.number power) (.number wholePower) = some .eq ∧
    compare? (.number following) (.number wholePower) = some .gt ∧
    advance (.field "seq") [("seq", .number penultimate)] [("seq", .number ultimate)] =
      [("seq", .number penultimate)] := by
  have hequal : compareNumbers penultimate ultimate = .eq := by decide +kernel
  have hequal' : compare? (.number ultimate) (.number penultimate) = some .eq := by
    have hback : compareNumbers ultimate penultimate = .eq := by decide +kernel
    exact congrArg some hback
  refine ⟨congrArg some hequal, value_lt_ultimate,
    congrArg some (compareNumbers_of_blurred blurred_following), ?_, rfl, ?_⟩
  · have hsame : compareNumbers power wholePower = .eq := by decide +kernel
    exact congrArg some hsame
  · have hkeeps : ¬ replaces (.number ultimate) (some (.number penultimate)) = true := by
      rw [replaces_some_iff hequal']
      decide
    rw [advance_eq]
    exact if_neg hkeeps

end Cursor

end SourceSync
