/-
The waits between attempts. A wait is the first one doubled from retry to retry, exactly, until it
reaches the longest wait allowed, and a server that asks for patience gets no more than that. Spans
are exact numbers here. A machine keeps one in two words; working in such words comes to the same
spans, and no step of it overflows unseen.
-/
import Mathlib.Algebra.Group.Nat.Defs
import SourceSync.Http.Retry

namespace SourceSync.Http

namespace Duration

theorem le_longest (d : Duration) : d.nanoseconds ≤ longest.nanoseconds :=
  d.fits

theorem nanoseconds_longest :
    longest.nanoseconds = 0xFFFFFFFFFFFFFFFF * 1000000000 + 999999999 :=
  rfl

theorem shorter_of_le {a b : Duration} (hle : a.nanoseconds ≤ b.nanoseconds) : a.shorter b = a :=
  if_pos hle

theorem nanoseconds_shorter (a b : Duration) :
    (a.shorter b).nanoseconds = min a.nanoseconds b.nanoseconds := by
  rw [shorter]
  split <;> omega

theorem shorter_of_ge {a b : Duration} (hge : b.nanoseconds ≤ a.nanoseconds) : a.shorter b = b := by
  ext
  rw [nanoseconds_shorter, Nat.min_eq_right hge]

theorem shorter_le (a b : Duration) : (a.shorter b).nanoseconds ≤ b.nanoseconds := by
  rw [nanoseconds_shorter]
  exact Nat.min_le_right _ _

theorem nanoseconds_times (d : Duration) (factor : Nat) :
    (d.times factor).nanoseconds = min (d.nanoseconds * factor) longest.nanoseconds :=
  rfl

end Duration

namespace RetryPolicy

/-- The factor is a power of two, cut off at the largest number of 32 bits. -/
theorem factor_eq_min (retry : Nat) : factor retry = min (2 ^ retry) 0xFFFFFFFF := by
  rw [factor]
  split
  · next hsmall =>
      have hpower : 2 ^ retry ≤ 2 ^ 31 :=
        Nat.pow_le_pow_right Nat.two_pos (Nat.le_of_lt_succ hsmall)
      exact (Nat.min_eq_left (Nat.le_trans hpower (by decide))).symm
  · next hlarge =>
      have hpower : 2 ^ 32 ≤ 2 ^ retry :=
        Nat.pow_le_pow_right Nat.two_pos (Nat.le_of_not_lt hlarge)
      exact (Nat.min_eq_right (Nat.le_trans (by decide) hpower)).symm

theorem factor_of_le {retry : Nat} (hsmall : retry ≤ 31) : factor retry = 2 ^ retry :=
  if_pos (Nat.lt_succ_of_le hsmall)

theorem factor_of_ge {retry : Nat} (hlarge : 32 ≤ retry) : factor retry = 0xFFFFFFFF :=
  if_neg (Nat.not_lt.mpr hlarge)

theorem factor_mono {m n : Nat} (hle : m ≤ n) : factor m ≤ factor n := by
  rw [factor_eq_min, factor_eq_min]
  have hpower : 2 ^ m ≤ 2 ^ n := Nat.pow_le_pow_right Nat.two_pos hle
  omega

variable {p : RetryPolicy}

/-- The product is cut off twice, but the second time counts: a policy allows no wait that is
longer than any span. -/
theorem nanoseconds_delay (p : RetryPolicy) (retry : Nat) :
    (p.delay retry).nanoseconds =
      min (p.baseDelay.nanoseconds * factor retry) p.maxDelay.nanoseconds := by
  rw [delay, Duration.nanoseconds_shorter, Duration.nanoseconds_times, Nat.min_assoc,
    Nat.min_eq_right p.maxDelay.le_longest]

theorem delay_mono (p : RetryPolicy) {m n : Nat} (hle : m ≤ n) :
    (p.delay m).nanoseconds ≤ (p.delay n).nanoseconds := by
  rw [nanoseconds_delay, nanoseconds_delay]
  have hproduct : p.baseDelay.nanoseconds * factor m ≤ p.baseDelay.nanoseconds * factor n :=
    Nat.mul_le_mul_left _ (factor_mono hle)
  omega

theorem delay_of_ge {retry : Nat} (hlarge : 32 ≤ retry)
    (hreached : p.maxDelay.nanoseconds ≤ p.baseDelay.nanoseconds * (2 ^ 32 - 1)) :
    p.delay retry = p.maxDelay := by
  have hcapped : p.maxDelay.nanoseconds ≤ p.baseDelay.nanoseconds * factor retry := by
    rw [factor_of_ge hlarge]
    exact hreached
  ext
  rw [nanoseconds_delay, Nat.min_eq_right hcapped]

theorem wait_le (p : RetryPolicy) (requested : Option Duration) (retry : Nat) :
    (p.wait requested retry).nanoseconds ≤ p.maxDelay.nanoseconds := by
  cases requested with
  | none => exact Duration.shorter_le _ _
  | some d => exact Duration.shorter_le _ _

end RetryPolicy

/-- The product of two words, unless it overflows. -/
def mulChecked (a b : UInt64) : Option UInt64 :=
  if a.toNat * b.toNat < 2 ^ 64 then some (a * b) else none

/-- The sum of two words, unless it overflows. -/
def addChecked (a b : UInt64) : Option UInt64 :=
  if a.toNat + b.toNat < 2 ^ 64 then some (a + b) else none

/-- The nanoseconds of the last second fit into 32 bits. -/
theorem toNat_restOf (nanoseconds : UInt64) :
    (nanoseconds % 1000000000).toUInt32.toNat = nanoseconds.toNat % 1000000000 := by
  have hlt : nanoseconds.toNat % 1000000000 < 1000000000 := Nat.mod_lt _ (by decide)
  rw [UInt64.toNat_toUInt32, UInt64.toNat_mod]
  exact Nat.mod_eq_of_lt (Nat.lt_trans hlt (by decide))

theorem mulChecked_cases (a b : UInt64) :
    (∃ c, mulChecked a b = some c ∧ c.toNat = a.toNat * b.toNat) ∨
      mulChecked a b = none ∧ 2 ^ 64 ≤ a.toNat * b.toNat := by
  by_cases hfits : a.toNat * b.toNat < 2 ^ 64
  · refine Or.inl ⟨a * b, if_pos hfits, ?_⟩
    rw [UInt64.toNat_mul, Nat.mod_eq_of_lt hfits]
  · exact Or.inr ⟨if_neg hfits, Nat.le_of_not_lt hfits⟩

theorem addChecked_cases (a b : UInt64) :
    (∃ c, addChecked a b = some c ∧ c.toNat = a.toNat + b.toNat) ∨
      addChecked a b = none ∧ 2 ^ 64 ≤ a.toNat + b.toNat := by
  by_cases hfits : a.toNat + b.toNat < 2 ^ 64
  · refine Or.inl ⟨a + b, if_pos hfits, ?_⟩
    rw [UInt64.toNat_add, Nat.mod_eq_of_lt hfits]
  · exact Or.inr ⟨if_neg hfits, Nat.le_of_not_lt hfits⟩

/-- A span as a machine keeps it: whole seconds in a word of 64 bits and the nanoseconds of the
last one, which is not whole, in a word of 32. -/
structure Clock where
  seconds : UInt64
  rest : UInt32
  rest_lt : rest.toNat < 1000000000

namespace Clock

/-- The span that a clock holds. -/
def span (c : Clock) : Duration :=
  ⟨c.seconds.toNat * 1000000000 + c.rest.toNat, by
    have hseconds : c.seconds.toNat < 2 ^ 64 := c.seconds.toNat_lt
    have hrest := c.rest_lt
    omega⟩

/-- All that two words can hold. -/
def longest : Clock :=
  ⟨0xFFFFFFFFFFFFFFFF, 999999999, by decide⟩

/-- Whole seconds, and nanoseconds that may make up more of them. -/
def carry? (seconds nanoseconds : UInt64) : Option Clock :=
  (addChecked seconds (nanoseconds / 1000000000)).map (fun whole =>
    ⟨whole, (nanoseconds % 1000000000).toUInt32, by
      rw [toNat_restOf]
      exact Nat.mod_lt _ (by decide)⟩)

/-- A multiple of a span, word by word. The nanoseconds are multiplied in 64 bits, without a check;
seconds are multiplied, and what is carried is added to them, with one. -/
def times? (c : Clock) (factor : UInt32) : Option Clock :=
  (mulChecked c.seconds factor.toUInt64).bind (fun seconds =>
    carry? seconds (c.rest.toUInt64 * factor.toUInt64))

/-- A multiple of a span, or all that fits. -/
def times (c : Clock) (factor : UInt32) : Clock :=
  (c.times? factor).getD longest

/-- The shorter of two spans, by seconds first. -/
def shorter (a b : Clock) : Clock :=
  if a.seconds < b.seconds ∨ a.seconds = b.seconds ∧ a.rest ≤ b.rest then a else b

/-- A power of two in 32 bits, or the largest number of them. -/
def power (exponent : UInt32) : UInt32 :=
  if exponent < 32 then 1 <<< exponent else 0xFFFFFFFF

/-- The wait before a retry, in words. -/
def delay (base longestWait : Clock) (retry : UInt32) : Clock :=
  (base.times (power retry)).shorter longestWait

variable {base longestWait c : Clock}

theorem span_longest : longest.span = Duration.longest :=
  rfl

theorem nanoseconds_span (c : Clock) :
    c.span.nanoseconds = c.seconds.toNat * 1000000000 + c.rest.toNat :=
  rfl

/-- Two words hold every span there is. -/
theorem exists_span_eq (d : Duration) : ∃ c : Clock, c.span = d := by
  have hfits := d.fits
  have hlt : d.nanoseconds % 1000000000 < 1000000000 := Nat.mod_lt _ (by decide)
  obtain ⟨seconds, hseconds⟩ : ∃ w : UInt64, w.toNat = d.nanoseconds / 1000000000 :=
    ⟨.ofNat _, UInt64.toNat_ofNat_of_lt' (by rw [UInt64.size]; omega)⟩
  obtain ⟨rest, hrest⟩ : ∃ w : UInt32, w.toNat = d.nanoseconds % 1000000000 :=
    ⟨.ofNat _, UInt32.toNat_ofNat_of_lt' (Nat.lt_trans hlt (by decide))⟩
  refine ⟨⟨seconds, rest, hrest ▸ hlt⟩, ?_⟩
  ext
  rw [nanoseconds_span, hseconds, hrest, Nat.mul_comm, Nat.div_add_mod]

/-- The nanoseconds below a second fit into 64 bits also when they are multiplied. -/
theorem toNat_rest_mul (c : Clock) (factor : UInt32) :
    (c.rest.toUInt64 * factor.toUInt64).toNat = c.rest.toNat * factor.toNat := by
  have hproduct : c.rest.toNat * factor.toNat ≤ 1000000000 * 2 ^ 32 :=
    Nat.mul_le_mul (Nat.le_of_lt c.rest_lt) (Nat.le_of_lt factor.toNat_lt)
  rw [UInt64.toNat_mul, UInt32.toNat_toUInt64, UInt32.toNat_toUInt64]
  exact Nat.mod_eq_of_lt (Nat.lt_of_le_of_lt hproduct (by decide))

/-- What is carried is right, or more than two words hold. -/
theorem carry?_cases (seconds nanoseconds : UInt64) :
    (∃ d, carry? seconds nanoseconds = some d ∧
      d.span.nanoseconds = seconds.toNat * 1000000000 + nanoseconds.toNat) ∨
    carry? seconds nanoseconds = none ∧
      Duration.longest.nanoseconds < seconds.toNat * 1000000000 + nanoseconds.toNat := by
  have hparts := Nat.div_add_mod nanoseconds.toNat 1000000000
  have hcarried : (nanoseconds / 1000000000).toNat = nanoseconds.toNat / 1000000000 :=
    UInt64.toNat_div nanoseconds 1000000000
  rcases addChecked_cases seconds (nanoseconds / 1000000000) with
    ⟨whole, hadd, hsum⟩ | ⟨hadd, hover⟩
  · rw [carry?, hadd]
    refine Or.inl ⟨_, rfl, ?_⟩
    rw [nanoseconds_span, hsum, hcarried, toNat_restOf]
    omega
  · rw [carry?, hadd]
    refine Or.inr ⟨rfl, ?_⟩
    rw [hcarried] at hover
    rw [Duration.nanoseconds_longest]
    omega

/-- A product is right, or more than two words hold. -/
theorem times?_cases (c : Clock) (factor : UInt32) :
    (∃ d, c.times? factor = some d ∧ d.span.nanoseconds = c.span.nanoseconds * factor.toNat) ∨
    c.times? factor = none ∧
      Duration.longest.nanoseconds < c.span.nanoseconds * factor.toNat := by
  have hproduct : c.span.nanoseconds * factor.toNat =
      c.seconds.toNat * factor.toNat * 1000000000 + c.rest.toNat * factor.toNat := by
    rw [nanoseconds_span, Nat.add_mul, Nat.mul_right_comm]
  rw [hproduct, ← toNat_rest_mul, ← UInt32.toNat_toUInt64 factor]
  rcases mulChecked_cases c.seconds factor.toUInt64 with ⟨whole, hmul, hseconds⟩ | ⟨hmul, hover⟩
  · rw [times?, hmul, ← hseconds]
    exact carry?_cases whole _
  · rw [times?, hmul]
    refine Or.inr ⟨rfl, ?_⟩
    rw [Duration.nanoseconds_longest]
    omega

/-- Multiplying words multiplies the span. -/
theorem span_times (c : Clock) (factor : UInt32) :
    (c.times factor).span = c.span.times factor.toNat := by
  ext
  rw [Duration.nanoseconds_times]
  rcases c.times?_cases factor with ⟨d, htimes, hproduct⟩ | ⟨htimes, hover⟩
  · rw [times, htimes, Option.getD_some, ← hproduct, Nat.min_eq_left d.span.le_longest]
  · rw [times, htimes, Option.getD_none, span_longest, Nat.min_eq_right (Nat.le_of_lt hover)]

/-- Comparing words, seconds first, compares the spans. -/
theorem span_shorter (a b : Clock) : (a.shorter b).span = a.span.shorter b.span := by
  have ha := a.rest_lt
  have hb := b.rest_lt
  rw [shorter]
  split
  · next hle =>
      rw [UInt64.lt_iff_toNat_lt, ← UInt64.toNat_inj, UInt32.le_iff_toNat_le] at hle
      refine (Duration.shorter_of_le ?_).symm
      rw [nanoseconds_span, nanoseconds_span]
      omega
  · next hgt =>
      rw [UInt64.lt_iff_toNat_lt, ← UInt64.toNat_inj, UInt32.le_iff_toNat_le] at hgt
      refine (Duration.shorter_of_ge ?_).symm
      rw [nanoseconds_span, nanoseconds_span]
      omega

theorem toNat_power (retry : UInt32) : (power retry).toNat = RetryPolicy.factor retry.toNat := by
  have hiff : retry < 32 ↔ retry.toNat < 32 := UInt32.lt_iff_toNat_lt
  rw [power, RetryPolicy.factor]
  by_cases hsmall : retry < 32
  · have hlt : retry.toNat < 32 := hiff.mp hsmall
    have hpower : 2 ^ retry.toNat < 2 ^ 32 := Nat.pow_lt_pow_right Nat.one_lt_two hlt
    rw [if_pos hsmall, if_pos hlt, UInt32.toNat_shiftLeft, Nat.mod_eq_of_lt hlt]
    change 1 <<< retry.toNat % 2 ^ 32 = 2 ^ retry.toNat
    rw [Nat.one_shiftLeft, Nat.mod_eq_of_lt hpower]
  · rw [if_neg hsmall, if_neg (fun h => hsmall (hiff.mpr h))]
    rfl

/-- The wait before a retry comes out the same in words of a machine. -/
theorem span_delay (base longestWait : Clock) (retry : UInt32) (maxRetries : Nat) :
    (base.delay longestWait retry).span =
      RetryPolicy.delay ⟨maxRetries, base.span, longestWait.span⟩ retry.toNat := by
  rw [delay, span_shorter, span_times, toNat_power, RetryPolicy.delay]

end Clock

namespace RetryPolicy

/-- Waits are bounded by the longest one allowed and never become shorter from retry to retry. They
double exactly up to retry 31 and stay at the bound from retry 32 on, if the largest factor of 32
bits reaches it. A wait that a server asks for is granted within the bound. Computed in words of a
machine all of them are the same, for every base, every bound and every retry that words hold. -/
theorem delay_doubles (p : RetryPolicy) :
    (∀ retry, (p.delay retry).nanoseconds ≤ p.maxDelay.nanoseconds) ∧
    (∀ m n, m ≤ n → (p.delay m).nanoseconds ≤ (p.delay n).nanoseconds) ∧
    (∀ retry ≤ 31, (p.delay retry).nanoseconds =
      min (p.baseDelay.nanoseconds * 2 ^ retry) p.maxDelay.nanoseconds) ∧
    (∀ retry ≥ 32, p.maxDelay.nanoseconds ≤ p.baseDelay.nanoseconds * (2 ^ 32 - 1) →
      p.delay retry = p.maxDelay) ∧
    (∀ requested retry, (p.wait requested retry).nanoseconds ≤ p.maxDelay.nanoseconds) ∧
    (∀ d retry, d.nanoseconds ≤ p.maxDelay.nanoseconds → p.wait (some d) retry = d) ∧
    (∀ retry, p.wait none retry = p.delay retry) ∧
    ∃ base bound : Clock, base.span = p.baseDelay ∧ bound.span = p.maxDelay ∧
      ∀ retry : UInt32, (base.delay bound retry).span = p.delay retry.toNat := by
  obtain ⟨base, hbaseSpan⟩ := Clock.exists_span_eq p.baseDelay
  obtain ⟨bound, hboundSpan⟩ := Clock.exists_span_eq p.maxDelay
  refine ⟨fun retry => p.wait_le none retry, fun m n hle => p.delay_mono hle, ?_,
    fun retry hlarge hreached => delay_of_ge hlarge hreached, p.wait_le, ?_,
    fun retry => rfl, base, bound, hbaseSpan, hboundSpan, ?_⟩
  · intro retry hsmall
    rw [nanoseconds_delay, factor_of_le hsmall]
  · intro d retry hle
    exact Duration.shorter_of_le hle
  · intro retry
    rw [Clock.span_delay base bound retry p.maxRetries, hbaseSpan, hboundSpan]

/-- A tenth of a second, doubled up to ten seconds, and a base that cannot be doubled at all. -/
theorem delay_doubles_capped :
    let p : RetryPolicy := ⟨3, .ofMilliseconds 100, .ofSeconds 10⟩
    let q : RetryPolicy := ⟨3, .longest, .longest⟩
    (p.delay 3).nanoseconds = 800000000 ∧ p.delay 40 = .ofSeconds 10 ∧
    p.wait (some (.ofSeconds 7)) 0 = .ofSeconds 7 ∧
    (p.wait (some (.ofSeconds 120)) 0).nanoseconds ≤ 10000000000 ∧
    (∃ base bound : Clock, base.span = .longest ∧ (base.delay bound 1).span = q.delay 1) ∧
    (q.delay 1).nanoseconds = Duration.longest.nanoseconds := by
  intro p q
  obtain ⟨-, -, hdoubles, hstays, hwithin, hgranted, -⟩ := p.delay_doubles
  obtain ⟨-, -, hsaturates, -, -, -, -, base, bound, hlongest, -, hwords⟩ := q.delay_doubles
  have hthird : (p.delay 3).nanoseconds = 800000000 := by
    rw [hdoubles 3 (by omega)]
    decide
  refine ⟨hthird, hstays 40 (by omega) (by decide), hgranted _ 0 (by decide),
    hwithin _ 0, ⟨base, bound, hlongest, hwords 1⟩, ?_⟩
  have hover : q.maxDelay.nanoseconds ≤ q.baseDelay.nanoseconds * 2 ^ 1 :=
    Nat.le_mul_of_pos_right _ (by decide)
  rw [hsaturates 1 (by omega), Nat.min_eq_right hover]

end RetryPolicy

end SourceSync.Http
