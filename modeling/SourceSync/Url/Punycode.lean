/-
Punycode: a label of any characters written in ASCII. The characters outside
ASCII are coded in ascending order as differences, each a run of digits in base
36 whose thresholds follow an adaptive bias.
-/

namespace SourceSync.Url.Punycode

def digitChar (d : Nat) : Char :=
  if d < 26 then Char.ofNat (97 + d) else Char.ofNat (48 + (d - 26))

def digitValue? (c : Char) : Option Nat :=
  let n := c.toNat
  if 97 ≤ n ∧ n ≤ 122 then some (n - 97)
  else if 65 ≤ n ∧ n ≤ 90 then some (n - 65)
  else if 48 ≤ n ∧ n ≤ 57 then some (n - 22)
  else none

def threshold (k bias : Nat) : Nat :=
  if k ≤ bias then 1 else if bias + 26 ≤ k then 26 else k - bias

/-- Scale a difference down until it is small, counting positions. -/
def settle : Nat → Nat → Nat → Nat
  | 0, k, delta => k + 36 * delta / (delta + 38)
  | steps + 1, k, delta =>
    if 455 < delta then settle steps (k + 36) (delta / 35) else k + 36 * delta / (delta + 38)

/-- The bias after a difference; `count` characters have been coded. -/
def adapt (delta count : Nat) (first : Bool) : Nat :=
  let scaled := if first then delta / 700 else delta / 2
  settle 64 0 (scaled + scaled / count)

def digits (bias : Nat) : Nat → Nat → Nat → List Char
  | 0, _, _ => []
  | steps + 1, k, q =>
    let t := threshold k bias
    if q < t then [digitChar q]
    else digitChar (t + (q - t) % (36 - t)) :: digits bias steps (k + 36) ((q - t) / (36 - t))

/-- The coder between two characters. -/
structure Coder where
  delta : Nat
  bias : Nat
  handled : Nat
  basic : Nat
  output : List Char

/-- Pass over the whole label for the code point `m`. -/
def pass (m : Nat) : List Nat → Coder → Coder
  | [], s => s
  | c :: rest, s =>
    if c < m then pass m rest { s with delta := s.delta + 1 }
    else if c = m then
      pass m rest
        { s with
          output := s.output ++ digits s.bias 64 36 s.delta
          bias := adapt s.delta (s.handled + 1) (s.handled == s.basic)
          delta := 0
          handled := s.handled + 1 }
    else pass m rest s

/-- Code the remaining code points, in ascending order; all below `n` are done. -/
def codePoints (label : List Nat) : List Nat → Nat → Coder → Coder
  | [], _, s => s
  | m :: rest, n, s =>
    let s := pass m label { s with delta := s.delta + (m - n) * (s.handled + 1) }
    codePoints label rest (m + 1) { s with delta := s.delta + 1 }

/-- A label in Punycode, without the `xn--` that marks it. -/
def encode (label : List Char) : List Char :=
  let points := label.map Char.toNat
  let basic := label.filter (fun c => c.toNat < 128)
  let others := ((points.filter (fun n => 128 ≤ n)).mergeSort (· ≤ ·)).eraseReps
  let opening := if basic.isEmpty then [] else basic ++ ['-']
  let start : Coder := ⟨0, 72, basic.length, basic.length, opening⟩
  (codePoints points others 128 start).output

/-- Numbers while a label is read have to fit 32 bits. -/
def fits (n : Nat) : Bool :=
  n < 0x100000000

/-- Read one difference and add it: the sum and the rest. -/
def readDelta (bias : Nat) : Nat → Nat → Nat → List Char → Option (Nat × List Char)
  | _, _, _, [] => none
  | k, weight, sum, c :: rest =>
    match digitValue? c with
    | none => none
    | some d =>
      let t := threshold k bias
      let sum := sum + d * weight
      if !fits sum then none
      else if d < t then some (sum, rest)
      else if fits (weight * (36 - t)) then readDelta bias (k + 36) (weight * (36 - t)) sum rest
      else none

def insertAt (c : Char) : Nat → List Char → List Char
  | 0, cs => c :: cs
  | _, [] => [c]
  | i + 1, d :: cs => d :: insertAt c i cs

/-- Read the differences that follow the basic characters. -/
def readFrom : Nat → Nat → Nat → Nat → List Char → List Char → Option (List Char)
  | _, _, _, _, out, [] => some out
  | 0, _, _, _, _, _ :: _ => none
  | steps + 1, n, i, bias, out, c :: cs =>
    match readDelta bias 36 1 i (c :: cs) with
    | none => none
    | some (place, rest) =>
      let count := out.length + 1
      let n := n + place / count
      if n < 0x110000 ∧ ¬ (0xD800 ≤ n ∧ n ≤ 0xDFFF) then
        readFrom steps n (place % count + 1) (adapt (place - i) count (i == 0))
          (insertAt (Char.ofNat n) (place % count) out) rest
      else none

/-- The label a Punycode text stands for: the characters before the last hyphen stand in it
as they are, and a hyphen that has none before it is no digit. -/
def decode? (cs : List Char) : Option (List Char) :=
  let tail := (cs.reverse.takeWhile (· != '-')).reverse
  let basic := cs.take (cs.length - tail.length - 1)
  if basic.isEmpty then readFrom cs.length 128 0 72 [] cs
  else readFrom cs.length 128 0 72 basic tail

end SourceSync.Url.Punycode
