/-
Spans of time and the waits between attempts. Waits double from retry to retry
until they reach the longest one allowed. No span is longer than `longest`, so
doubling saturates there.
-/

namespace SourceSync.Http

/-- A span of time: as many seconds as 64 bits hold, and less than another one. -/
@[ext]
structure Duration where
  nanoseconds : Nat
  fits : nanoseconds ≤ 0xFFFFFFFFFFFFFFFF * 1000000000 + 999999999
  deriving DecidableEq, Repr

namespace Duration

def longest : Duration := ⟨0xFFFFFFFFFFFFFFFF * 1000000000 + 999999999, Nat.le_refl _⟩

/-- A number of nanoseconds, or the longest span if there are more. -/
def ofNanoseconds (n : Nat) : Duration := ⟨min n longest.nanoseconds, Nat.min_le_right _ _⟩

def ofSeconds (n : Nat) : Duration := ofNanoseconds (n * 1000000000)

def ofMilliseconds (n : Nat) : Duration := ofNanoseconds (n * 1000000)

def seconds (d : Duration) : Nat := d.nanoseconds / 1000000000

def milliseconds (d : Duration) : Nat := d.nanoseconds / 1000000

def microseconds (d : Duration) : Nat := d.nanoseconds / 1000

def shorter (a b : Duration) : Duration := if a.nanoseconds ≤ b.nanoseconds then a else b

/-- A multiple of a span, at most the longest one. -/
def times (d : Duration) (factor : Nat) : Duration := ofNanoseconds (d.nanoseconds * factor)

/-- The digits behind the decimal point, without trailing zeros. -/
def fraction (width n : Nat) : List Char :=
  let digits := Nat.toDigits 10 n
  ((List.replicate (width - digits.length) '0' ++ digits).reverse.dropWhile (· == '0')).reverse

/-- A number with a unit; `width` decimal digits stand for `part`. -/
def withUnit (whole width part : Nat) (unit : String) : String :=
  match fraction width part with
  | [] => toString whole ++ unit
  | digits => toString whole ++ "." ++ String.ofList digits ++ unit

/-- How a span is shown to developers: in its largest unit. -/
def describe (d : Duration) : String :=
  let n := d.nanoseconds
  if 1000000000 ≤ n then withUnit (n / 1000000000) 9 (n % 1000000000) "s"
  else if 1000000 ≤ n then withUnit (n / 1000000) 6 (n % 1000000) "ms"
  else if 1000 ≤ n then withUnit (n / 1000) 3 (n % 1000) "µs"
  else withUnit n 0 0 "ns"

end Duration

/-- How failed requests are repeated: how often, the wait before the first retry, and
the longest wait. -/
structure RetryPolicy where
  maxRetries : Nat
  baseDelay : Duration
  maxDelay : Duration
  deriving DecidableEq, Repr

namespace RetryPolicy

/-- The policy used unless another one is chosen. -/
def standard : RetryPolicy :=
  ⟨3, Duration.ofMilliseconds 100, Duration.ofSeconds 60⟩

/-- How many times the first wait a later one is: a power of two, at most the largest
number of 32 bits. -/
def factor (retry : Nat) : Nat :=
  if retry < 32 then Nat.pow 2 retry else 0xFFFFFFFF

/-- The wait before a retry, counted from zero. -/
def delay (p : RetryPolicy) (retry : Nat) : Duration :=
  (p.baseDelay.times (factor retry)).shorter p.maxDelay

/-- The wait before a retry when the server may have asked for one. -/
def wait (p : RetryPolicy) (requested : Option Duration) (retry : Nat) : Duration :=
  match requested with
  | some d => d.shorter p.maxDelay
  | none => p.delay retry

/-- How a policy is shown to developers. -/
def describe (p : RetryPolicy) : String :=
  s!"RetryPolicy \x7b max_retries: {p.maxRetries}, base_delay: {p.baseDelay.describe}, " ++
    s!"max_delay: {p.maxDelay.describe} \x7d"

end RetryPolicy

end SourceSync.Http
