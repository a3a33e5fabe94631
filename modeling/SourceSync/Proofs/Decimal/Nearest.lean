/-
Rounding of integers to binary floating point. Numbers lie on a grid: counted in steps of
`2 ^ -1074`, each of them is an integer, and a greater place in their order has more steps. The
place that an integer is rounded to is a nearest one, so rounding never turns an order around, and
an integer that lies on the grid stays where it is.
-/
import Mathlib.Algebra.Order.Ring.Int
import Mathlib.Data.Int.ConditionallyCompleteOrder
import Mathlib.Order.Monotone.Basic
import Mathlib.Tactic.Linarith
import Mathlib.Tactic.Positivity
import Mathlib.Tactic.Ring
import SourceSync.Decimal.Binary64

namespace SourceSync.Decimal

/-- The magnitude with some bits, counted in steps of `2 ^ -1074`. -/
def stepsOf (bits : Nat) : Nat :=
  if bits / binadeSize = 0 then bits % binadeSize
  else (binadeSize + bits % binadeSize) * 2 ^ (bits / binadeSize - 1)

/-- One, counted in these steps. -/
def unitSteps : Nat := 2 ^ 1074

theorem unitSteps_pos : 0 < unitSteps := by
  unfold unitSteps
  positivity

theorem Binary64.stepsOf_magnitude (x : Binary64) :
    stepsOf x.magnitude = x.parts.1 * 2 ^ x.parts.2 := by
  unfold stepsOf Binary64.parts
  by_cases hleast : x.magnitude / binadeSize = 0
  · simp [hleast]
  · simp [hleast]

/-- Bits given as an exponent and a mantissa, which may have just outgrown its binade. -/
theorem stepsOf_binade {e k : Nat} (hlow : binadeSize ≤ k) (hhigh : k ≤ 2 * binadeSize) :
    stepsOf (e * binadeSize + k) = k * 2 ^ e := by
  simp only [binadeSize] at hlow hhigh
  unfold stepsOf binadeSize
  -- a full mantissa spills into the next binade
  by_cases hfull : k = 2 * 0x10000000000000
  · have hquotient : (e * 0x10000000000000 + k) / 0x10000000000000 = e + 2 := by omega
    have hrest : (e * 0x10000000000000 + k) % 0x10000000000000 = 0 := by omega
    rw [hquotient, hrest, if_neg (by omega), hfull, show e + 2 - 1 = e + 1 from rfl, pow_succ]
    ring
  · have hquotient : (e * 0x10000000000000 + k) / 0x10000000000000 = e + 1 := by omega
    have hrest : (e * 0x10000000000000 + k) % 0x10000000000000 = k - 0x10000000000000 := by omega
    rw [hquotient, hrest, if_neg (by omega), Nat.add_sub_cancel' hlow, Nat.add_sub_cancel]

/-- The gap behind each number: its exponent says how wide it is. -/
theorem stepsOf_succ (bits : Nat) :
    stepsOf (bits + 1) = stepsOf bits + 2 ^ (bits / binadeSize - 1) := by
  have hparts := Nat.div_add_mod bits binadeSize
  have hrest : bits % binadeSize < binadeSize := Nat.mod_lt _ (by decide)
  generalize hq : bits / binadeSize = q at hparts ⊢
  generalize hr : bits % binadeSize = r at hparts hrest
  cases q with
  | zero =>
      have hbits : stepsOf bits = bits := by
        rw [stepsOf, if_pos hq, hr]
        omega
      have hnext : stepsOf (bits + 1) = bits + 1 := by
        by_cases hfull : bits + 1 = binadeSize
        · rw [hfull]
          rfl
        · have hlt : bits + 1 < binadeSize := by omega
          rw [stepsOf, if_pos (Nat.div_eq_of_lt hlt), Nat.mod_eq_of_lt hlt]
      rw [hbits, hnext, Nat.zero_sub, pow_zero]
  | succ e =>
      rw [show bits = e * binadeSize + (binadeSize + r) by rw [← hparts]; ring, Nat.add_assoc,
        stepsOf_binade (by omega) (by omega), stepsOf_binade (by omega) (by omega),
        Nat.add_sub_cancel]
      ring

theorem stepsOf_strictMono : StrictMono stepsOf := by
  apply strictMono_nat_of_lt_succ
  intro bits
  rw [stepsOf_succ]
  exact Nat.lt_add_of_pos_right (by positivity)

/-- The number at a place in the order, counted in steps of `2 ^ -1074`. -/
def grid (place : Int) : Int :=
  if place < 0 then -(stepsOf place.natAbs) else stepsOf place.natAbs

theorem grid_natCast (bits : Nat) : grid bits = stepsOf bits := by
  simp [grid]

theorem grid_neg (place : Int) : grid (-place) = -grid place := by
  unfold grid
  rw [Int.natAbs_neg]
  by_cases hzero : place = 0
  · subst hzero
    rfl
  · by_cases hneg : place < 0
    · rw [if_pos hneg, if_neg (by omega), neg_neg]
    · rw [if_neg hneg, if_pos (by omega)]

theorem grid_strictMono : StrictMono grid := by
  intro p q hpq
  have hpos {m n : Nat} (hmn : m < n) : (stepsOf m : Int) < stepsOf n :=
    Int.ofNat_lt.mpr (stepsOf_strictMono hmn)
  unfold grid
  by_cases hp : p < 0
  · by_cases hq : q < 0
    · rw [if_pos hp, if_pos hq]
      exact neg_lt_neg (hpos (by omega))
    · rw [if_pos hp, if_neg hq]
      have hzero : (0 : Int) < stepsOf p.natAbs := hpos (m := 0) (by omega)
      omega
  · rw [if_neg hp, if_neg (by omega)]
    exact hpos (by omega)

/-- The place is one of those nearest to so many steps. -/
def IsNearest (steps place : Int) : Prop :=
  (∀ other < place, grid other + grid place ≤ 2 * steps) ∧
    ∀ other > place, 2 * steps ≤ grid place + grid other

namespace IsNearest

variable {m n p q : Int}

theorem grid_self (p : Int) : IsNearest (grid p) p := by
  constructor
  · intro other hother
    have := grid_strictMono hother
    omega
  · intro other hother
    have := grid_strictMono hother
    omega

theorem neg (hnearest : IsNearest n p) : IsNearest (-n) (-p) := by
  obtain ⟨hbelow, habove⟩ := hnearest
  constructor
  · intro other hother
    have := habove (-other) (by omega)
    rw [grid_neg] at this ⊢
    omega
  · intro other hother
    have := hbelow (-other) (by omega)
    rw [grid_neg] at this ⊢
    omega

/-- Rounding never turns an order around. -/
theorem le_of_lt (hm : IsNearest m p) (hn : IsNearest n q) (hlt : m < n) : p ≤ q := by
  by_contra hqp
  have hbelow := hm.1 q (by omega)
  have habove := hn.2 p (by omega)
  omega

/-- What lies on the grid is its own nearest place. -/
theorem eq_of_grid (hnearest : IsNearest (grid q) p) : p = q := by
  rcases lt_trichotomy p q with hlt | heq | hlt
  · have habove := hnearest.2 q hlt
    have := grid_strictMono hlt
    omega
  · exact heq
  · have hbelow := hnearest.1 q hlt
    have := grid_strictMono hlt
    omega

/-- A mantissa is a nearest place if it is off by at most half a gap. Where the binade begins the
gap below is smaller, so there nothing may be missing. -/
theorem of_binade {e k : Nat} {n : Int} (hlow : binadeSize ≤ k) (hhigh : k ≤ 2 * binadeSize)
    (hmost : 2 * n ≤ 2 * (k * 2 ^ e) + 2 ^ e) (hleast : 2 * (k * 2 ^ e) ≤ 2 * n + 2 ^ e)
    (hbegin : k = binadeSize → k * 2 ^ e ≤ n) :
    IsNearest n ((e * binadeSize + k : Nat) : Int) := by
  have hhere : grid ((e * binadeSize + k : Nat) : Int) = k * 2 ^ e := by
    rw [grid_natCast, stepsOf_binade hlow hhigh]
    push_cast
    rfl
  constructor
  · intro other hother
    by_cases hedge : k = binadeSize
    · have := grid_strictMono hother
      have := hbegin hedge
      omega
    · have hprevious :
          grid ((e * binadeSize + (k - 1) : Nat) : Int) = (k * 2 ^ e : Int) - 2 ^ e := by
        rw [grid_natCast, stepsOf_binade (by omega) (by omega)]
        push_cast [show 1 ≤ k by simp only [binadeSize] at hlow; omega]
        ring
      have := grid_strictMono.monotone
        (show other ≤ ((e * binadeSize + (k - 1) : Nat) : Int) by omega)
      omega
  · intro other hother
    have hgap : (2 : Int) ^ e ≤ 2 ^ ((e * binadeSize + k) / binadeSize - 1) := by
      apply pow_le_pow_right₀ (by decide)
      simp only [binadeSize] at hlow ⊢
      omega
    have hnext : grid ((e * binadeSize + k + 1 : Nat) : Int) =
        (k * 2 ^ e : Int) + 2 ^ ((e * binadeSize + k) / binadeSize - 1) := by
      rw [← hhere, grid_natCast, grid_natCast, stepsOf_succ]
      push_cast
      rfl
    have := grid_strictMono.monotone
      (show ((e * binadeSize + k + 1 : Nat) : Int) ≤ other by push_cast; omega)
    omega

end IsNearest

namespace Binary64

theorem roundHalfEven_cases (n d : Nat) :
    roundHalfEven n d = n / d ∧ 2 * (n % d) ≤ d ∨
      roundHalfEven n d = n / d + 1 ∧ d ≤ 2 * (n % d) := by
  unfold roundHalfEven
  grind

/-- Rounding is off by at most a half. -/
theorem roundHalfEven_near (n : Nat) {d : Nat} (hd : 0 < d) :
    2 * n ≤ 2 * (roundHalfEven n d * d) + d ∧ 2 * (roundHalfEven n d * d) ≤ 2 * n + d := by
  have hparts := Nat.div_add_mod' n d
  have hrest := Nat.mod_lt n hd
  rcases roundHalfEven_cases n d with ⟨heq, hhalf⟩ | ⟨heq, hhalf⟩
  · rw [heq]
    omega
  · rw [heq, Nat.add_mul, Nat.one_mul]
    omega

/-- Rounding stays between the integers that a fraction lies between. -/
theorem roundHalfEven_mem {n d low high : Nat} (hd : 0 < d) (hlow : low * d ≤ n)
    (hhigh : n < high * d) : low ≤ roundHalfEven n d ∧ roundHalfEven n d ≤ high := by
  have hleast : low ≤ n / d := (Nat.le_div_iff_mul_le hd).mpr hlow
  have hmost : n / d < high := (Nat.div_lt_iff_lt_mul hd).mpr hhigh
  rcases roundHalfEven_cases n d with ⟨heq, -⟩ | ⟨heq, -⟩
  · omega
  · omega

theorem roundHalfEven_one (n : Nat) : roundHalfEven n 1 = n := by
  simp [roundHalfEven, Nat.mod_one]

section Naturals

variable {n : Nat}

theorem binaryExponent_one (hn : n ≠ 0) : binaryExponent n 1 = n.log2 := by
  have hreached : 2 ^ n.log2 ≤ n := Nat.log2_self_le hn
  simpa [binaryExponent, show Nat.log2 1 = 0 by decide] using hreached

/-- The mantissa of a natural number: what lies below its 53 leading binary digits is rounded. -/
def mantissaOf (n : Nat) : Nat :=
  if 52 ≤ n.log2 then roundHalfEven n (2 ^ (n.log2 - 52)) else n * 2 ^ (52 - n.log2)

theorem nearestBits_one (hn : n ≠ 0) :
    nearestBits n 1 = (n.log2 + 1022) * binadeSize + mantissaOf n := by
  have hquantum : max ((n.log2 : Int) - 52) (-1074) = n.log2 - 52 := by omega
  unfold nearestBits mantissaOf
  rw [if_neg hn]
  simp only [binaryExponent_one hn, hquantum]
  by_cases hwide : 52 ≤ n.log2
  · rw [if_pos (by omega), if_pos hwide, Nat.one_mul,
      show ((n.log2 : Int) - 52).toNat = n.log2 - 52 by omega,
      show ((n.log2 : Int) - 52 + 1074).toNat = n.log2 + 1022 by omega]
    rfl
  · rw [if_neg (by omega), if_neg hwide, roundHalfEven_one,
      show (-((n.log2 : Int) - 52)).toNat = 52 - n.log2 by omega,
      show ((n.log2 : Int) - 52 + 1074).toNat = n.log2 + 1022 by omega]
    rfl

theorem mantissaOf_mem (hn : n ≠ 0) :
    binadeSize ≤ mantissaOf n ∧ mantissaOf n ≤ 2 * binadeSize := by
  have hleast : 2 ^ n.log2 ≤ n := Nat.log2_self_le hn
  have hmost : n < 2 ^ (n.log2 + 1) := Nat.lt_log2_self
  have hsize : binadeSize = 2 ^ 52 := rfl
  unfold mantissaOf
  by_cases hwide : 52 ≤ n.log2
  · rw [if_pos hwide]
    obtain ⟨q, hq⟩ := Nat.exists_eq_add_of_le hwide
    rw [hq] at hleast hmost ⊢
    rw [Nat.add_sub_cancel_left]
    apply roundHalfEven_mem (by positivity)
    · rw [hsize, ← pow_add]
      exact hleast
    · rw [hsize, ← pow_succ', ← pow_add, show 52 + 1 + q = 52 + q + 1 by omega]
      exact hmost
  · rw [if_neg hwide]
    obtain ⟨p, hp⟩ := Nat.exists_eq_add_of_le (Nat.le_of_not_le hwide)
    rw [show 52 - n.log2 = p by omega]
    constructor
    · calc binadeSize = 2 ^ n.log2 * 2 ^ p := by rw [hsize, ← pow_add, ← hp]
        _ ≤ n * 2 ^ p := Nat.mul_le_mul_right _ hleast
    · calc n * 2 ^ p ≤ 2 ^ (n.log2 + 1) * 2 ^ p := Nat.mul_le_mul_right _ hmost.le
        _ = 2 * binadeSize := by
          rw [hsize, ← pow_add, ← pow_succ', show n.log2 + 1 + p = 52 + 1 by omega]

/-- The mantissa is off by at most half a gap, and by nothing where the gaps are narrow. -/
theorem mantissaOf_near (n : Nat) :
    2 * (n * unitSteps) ≤ 2 * (mantissaOf n * 2 ^ (n.log2 + 1022)) + 2 ^ (n.log2 + 1022) ∧
      2 * (mantissaOf n * 2 ^ (n.log2 + 1022)) ≤ 2 * (n * unitSteps) + 2 ^ (n.log2 + 1022) := by
  unfold mantissaOf
  by_cases hwide : 52 ≤ n.log2
  · rw [if_pos hwide]
    obtain ⟨q, hq⟩ := Nat.exists_eq_add_of_le hwide
    obtain ⟨hmost, hleast⟩ := roundHalfEven_near n (d := 2 ^ q) (by positivity)
    have hgap : 2 ^ (52 + q + 1022) = 2 ^ q * unitSteps := by
      rw [unitSteps, ← pow_add, show 52 + q + 1022 = q + 1074 by omega]
    rw [hq, Nat.add_sub_cancel_left, hgap]
    generalize roundHalfEven n (2 ^ q) = k at hmost hleast ⊢
    constructor
    · calc 2 * (n * unitSteps) = 2 * n * unitSteps := by ring
        _ ≤ (2 * (k * 2 ^ q) + 2 ^ q) * unitSteps := Nat.mul_le_mul_right _ hmost
        _ = 2 * (k * (2 ^ q * unitSteps)) + 2 ^ q * unitSteps := by ring
    · calc 2 * (k * (2 ^ q * unitSteps)) = 2 * (k * 2 ^ q) * unitSteps := by ring
        _ ≤ (2 * n + 2 ^ q) * unitSteps := Nat.mul_le_mul_right _ hleast
        _ = 2 * (n * unitSteps) + 2 ^ q * unitSteps := by ring
  · have hexact : n * 2 ^ (52 - n.log2) * 2 ^ (n.log2 + 1022) = n * unitSteps := by
      rw [unitSteps, Nat.mul_assoc, ← pow_add, show 52 - n.log2 + (n.log2 + 1022) = 1074 by omega]
    rw [if_neg hwide, hexact]
    exact ⟨Nat.le_add_right _ _, Nat.le_add_right _ _⟩

/-- The bits that a natural number is rounded to are at a nearest place. -/
theorem isNearest_nearestBits (n : Nat) :
    IsNearest ((n * unitSteps : Nat) : Int) ((nearestBits n 1 : Nat) : Int) := by
  by_cases hn : n = 0
  · have hzero := IsNearest.grid_self 0
    rw [hn, Nat.zero_mul]
    exact hzero
  · obtain ⟨hlow, hhigh⟩ := mantissaOf_mem hn
    obtain ⟨hmost, hleast⟩ := mantissaOf_near n
    rw [nearestBits_one hn]
    refine IsNearest.of_binade hlow hhigh (by exact_mod_cast hmost) (by exact_mod_cast hleast) ?_
    intro hbegin
    have hpower : 2 ^ n.log2 ≤ n := Nat.log2_self_le hn
    have hbinade : binadeSize * 2 ^ (n.log2 + 1022) = 2 ^ n.log2 * unitSteps := by
      rw [unitSteps, show binadeSize = 2 ^ 52 from rfl, ← pow_add, ← pow_add,
        show 52 + (n.log2 + 1022) = n.log2 + 1074 by omega]
    have hreached : binadeSize * 2 ^ (n.log2 + 1022) ≤ n * unitSteps := by
      rw [hbinade]
      exact Nat.mul_le_mul_right unitSteps hpower
    rw [hbegin]
    exact_mod_cast hreached

theorem nearestBits_finite (hn : n < 0x10000000000000000) : nearestBits n 1 < infiniteBits := by
  by_cases hzero : n = 0
  · subst hzero
    decide
  · have hlog : n.log2 < 64 := (Nat.log2_lt hzero).mpr hn
    have hmantissa := (mantissaOf_mem hzero).2
    rw [nearestBits_one hzero]
    simp only [binadeSize, infiniteBits] at hmantissa ⊢
    omega

/-- Natural numbers with at most 53 binary digits lie on the grid. -/
theorem stepsOf_nearestBits (hn : n ≤ 0x20000000000000) :
    stepsOf (nearestBits n 1) = n * unitSteps := by
  by_cases hzero : n = 0
  · subst hzero
    rw [Nat.zero_mul]
    rfl
  by_cases hnext : n = 0x20000000000000
  · subst hnext
    decide +kernel
  have hlog : n.log2 < 53 := (Nat.log2_lt hzero).mpr (by omega)
  have hexact : mantissaOf n = n * 2 ^ (52 - n.log2) := by
    unfold mantissaOf
    by_cases hwide : 52 ≤ n.log2
    · rw [if_pos hwide, show n.log2 - 52 = 0 by omega, show 52 - n.log2 = 0 by omega, pow_zero,
        roundHalfEven_one, Nat.mul_one]
    · rw [if_neg hwide]
  obtain ⟨hlow, hhigh⟩ := mantissaOf_mem hzero
  rw [nearestBits_one hzero, stepsOf_binade hlow hhigh, hexact, Nat.mul_assoc, ← pow_add,
    unitSteps, show 52 - n.log2 + (n.log2 + 1022) = 1074 by omega]

end Naturals

/-- The place of an integer in the order, once it is rounded. -/
theorem order_ofInt? {n : Int} (hn : n.natAbs < 0x10000000000000000) :
    ((ofInt? n).getD .zero).order =
      if n < 0 then -(nearestBits n.natAbs 1 : Int) else nearestBits n.natAbs 1 := by
  rw [ofInt?, nearest?, dif_pos (nearestBits_finite hn), Option.getD_some, order]
  simp only [decide_eq_true_eq]

/-- An integer in steps, by the same cases. -/
theorem mul_unitSteps_eq (n : Int) :
    n * unitSteps =
      if n < 0 then -((n.natAbs * unitSteps : Nat) : Int) else (n.natAbs * unitSteps : Nat) := by
  by_cases hneg : n < 0
  · rw [if_pos hneg, Nat.cast_mul, Int.ofNat_natAbs_of_nonpos hneg.le, neg_mul, neg_neg]
  · rw [if_neg hneg, Nat.cast_mul, Int.natAbs_of_nonneg (Int.not_lt.mp hneg)]

/-- Integers of 64 bits are rounded to a nearest place. -/
theorem isNearest_ofInt? {n : Int} (hn : n.natAbs < 0x10000000000000000) :
    IsNearest (n * unitSteps) ((ofInt? n).getD .zero).order := by
  have hnatural := isNearest_nearestBits n.natAbs
  rw [order_ofInt? hn, mul_unitSteps_eq]
  by_cases hneg : n < 0
  · rw [if_pos hneg, if_pos hneg]
    exact hnatural.neg
  · rw [if_neg hneg, if_neg hneg]
    exact hnatural

/-- Integers of at most 53 binary digits are not changed by rounding. -/
theorem grid_ofInt? {n : Int} (hn : n.natAbs ≤ 0x20000000000000) :
    grid ((ofInt? n).getD .zero).order = n * unitSteps := by
  have hnatural : grid (nearestBits n.natAbs 1) = (n.natAbs * unitSteps : Nat) := by
    rw [grid_natCast, stepsOf_nearestBits hn]
  rw [order_ofInt? (Nat.lt_of_le_of_lt hn (by decide)), mul_unitSteps_eq]
  by_cases hneg : n < 0
  · rw [if_pos hneg, if_pos hneg, grid_neg, hnatural]
  · rw [if_neg hneg, if_neg hneg, hnatural]

end Binary64

end SourceSync.Decimal
