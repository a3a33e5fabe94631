/-
The text of a value is scanned into its tokens. A literal ends at the first character that
cannot belong to one, so what follows it has to be closed; a string protects everything between
its quotes. Numbers have to be read as they were written, which whole numbers are.
-/
import SourceSync.Json.Reader

namespace SourceSync.Json

/-- A text that cannot go on a literal before it. -/
def Closed (cs : List Char) : Prop :=
  ∀ c ∈ cs.head?, Token.isLiteralChar c = false

theorem Closed.nil : Closed [] := nofun

theorem Closed.cons {c : Char} {cs : List Char} (hc : Token.isLiteralChar c = false) :
    Closed (c :: cs) := by
  intro d hd
  cases hd
  exact hc

namespace Number

section Literals

theorem isLiteralChar_of_isDigit {c : Char} (hc : c.isDigit = true) :
    Token.isLiteralChar c = true := by
  simp [Token.isLiteralChar, Char.isAlphanum, hc]

theorem takeDigits_of_digits {ds : List Char} (hds : ∀ c ∈ ds, c.isDigit = true) :
    takeDigits ds = (ds, []) := by
  have htake : (ds ++ []).takeWhile Char.isDigit = ds ++ [] := List.takeWhile_append_of_pos hds
  have hdrop : (ds ++ []).dropWhile Char.isDigit = [] := List.dropWhile_append_of_pos hds
  rw [List.append_nil] at htake hdrop
  rw [takeDigits, htake, hdrop]

def AllLiteral (cs : List Char) : Prop :=
  ∀ c ∈ cs, Token.isLiteralChar c = true

theorem AllLiteral.cons {c : Char} {cs : List Char} (hc : Token.isLiteralChar c = true)
    (hcs : AllLiteral cs) : AllLiteral (c :: cs) := by
  intro d hd
  rcases List.mem_cons.mp hd with rfl | hd
  · exact hc
  · exact hcs d hd

variable {cs : List Char}

theorem allLiteral_of_takeDigits (hrest : AllLiteral (takeDigits cs).2) : AllLiteral cs := by
  intro c hc
  have hsplit : cs = (takeDigits cs).1 ++ (takeDigits cs).2 :=
    List.takeWhile_append_dropWhile.symm
  rw [hsplit] at hc
  rcases List.mem_append.mp hc with hdigit | hc
  · have hdigits := List.all_takeWhile (p := Char.isDigit) (l := cs)
    exact isLiteralChar_of_isDigit (List.all_eq_true.mp hdigits c hdigit)
  · exact hrest c hc

theorem allLiteral_of_takeSigned (hrest : AllLiteral (takeSigned cs).2) : AllLiteral cs := by
  unfold takeSigned at hrest
  split at hrest
  · exact .cons rfl (allLiteral_of_takeDigits hrest)
  · exact .cons rfl (allLiteral_of_takeDigits hrest)
  · exact allLiteral_of_takeDigits hrest

theorem allLiteral_of_takeExponent (hrest : AllLiteral (takeExponent cs).2) : AllLiteral cs := by
  unfold takeExponent at hrest
  split at hrest
  · exact .cons rfl (allLiteral_of_takeSigned hrest)
  · exact .cons rfl (allLiteral_of_takeSigned hrest)
  · exact hrest

theorem allLiteral_of_takeFraction (hrest : AllLiteral (takeFraction cs).2) : AllLiteral cs := by
  unfold takeFraction at hrest
  split at hrest
  · exact .cons rfl (allLiteral_of_takeDigits hrest)
  · exact hrest

theorem allLiteral_of_takeSign (hrest : AllLiteral (takeSign cs).2) : AllLiteral cs := by
  unfold takeSign at hrest
  split at hrest
  · exact .cons rfl hrest
  · exact hrest

/-- A text that is taken apart as a literal has no other characters. -/
theorem allLiteral_of_literal? {l : Literal} (hliteral : literal? cs = some l) :
    AllLiteral cs := by
  simp only [literal?] at hliteral
  split at hliteral
  · next hread =>
      obtain ⟨-, hrest⟩ := Bool.and_eq_true_iff.mp hread
      have hnone : AllLiteral (takeExponent (takeFraction (takeDigits (takeSign cs).2).2).2).2 := by
        rw [List.isEmpty_iff.mp hrest]
        exact nofun
      exact allLiteral_of_takeSign (allLiteral_of_takeDigits
        (allLiteral_of_takeFraction (allLiteral_of_takeExponent hnone)))
  · cases hliteral

end Literals

/-- A number is read again as it was written. -/
def ReadsBack (n : Number) : Prop :=
  (literal? n.text).bind Literal.number? = some n

instance (n : Number) : Decidable n.ReadsBack :=
  inferInstanceAs (Decidable (_ = _))

/-- The literal a number is written as. -/
def literal (n : Number) : Literal :=
  (literal? n.text).getD ⟨false, [], none, none⟩

theorem ReadsBack.literal_eq {n : Number} (hn : n.ReadsBack) :
    literal? n.text = some n.literal ∧ n.literal.number? = some n := by
  obtain ⟨l, hliteral, hnumber⟩ := Option.bind_eq_some_iff.mp hn
  have hl : n.literal = l := by rw [literal, hliteral, Option.getD_some]
  exact ⟨hl ▸ hliteral, hl ▸ hnumber⟩

section Whole

/-- Only zero is written with a leading zero. -/
theorem head_digits_ne_zero {n : Nat} (hn : 0 < n) (rest : List Char) :
    Nat.toDigits 10 n ≠ '0' :: rest := by
  induction n using Nat.strongRecOn generalizing rest with
  | _ n ih =>
      by_cases hsmall : n < 10
      · rw [Nat.toDigits_of_lt_base hsmall]
        intro hzero
        exact Nat.ne_of_gt hn (Nat.digitChar_eq_zero.mp (List.cons.inj hzero).1)
      · rw [Nat.toDigits_of_base_le (by decide) (Nat.le_of_not_lt hsmall)]
        intro hzero
        -- The front is that of the digits without the last one.
        cases hfront : Nat.toDigits 10 (n / 10) with
        | nil => exact Nat.toDigits_ne_nil hfront
        | cons d ds =>
            rw [hfront] at hzero
            obtain ⟨rfl, -⟩ := List.cons.inj hzero
            exact ih (n / 10) (by omega) (by omega) ds hfront

theorem isInteger_digits (n : Nat) : isInteger (Nat.toDigits 10 n) = true := by
  rcases Nat.eq_zero_or_pos n with rfl | hn
  · rfl
  · unfold isInteger
    split
    · next hnil => exact absurd hnil Nat.toDigits_ne_nil
    · next c rest hzero => exact absurd hzero (head_digits_ne_zero hn _)
    · rfl

theorem naturalValue_digits (n : Nat) : Text.naturalValue (Nat.toDigits 10 n) = n := by
  have hvalue : ∀ ds : List Char, Text.naturalValue ds = Nat.ofDigitChars 10 ds 0 := by
    intro ds
    simp only [Text.naturalValue, Nat.ofDigitChars, Text.digitValue, Nat.mul_comm 10]
    rfl
  rw [hvalue, Nat.ofDigitChars_ten_toDigits]

theorem takeSign_integerText (n : Int) :
    takeSign (integerText n) = (decide (n < 0), Nat.toDigits 10 n.natAbs) := by
  unfold integerText
  by_cases hnegative : n < 0
  · rw [if_pos hnegative, decide_eq_true hnegative]
    rfl
  · rw [if_neg hnegative, decide_eq_false hnegative]
    unfold takeSign
    split
    · next rest hminus =>
        have hmem : '-' ∈ Nat.toDigits 10 n.natAbs := by
          rw [show Nat.toDigits 10 n.natAbs = '-' :: rest from hminus]
          exact List.mem_cons_self
        exact absurd (Nat.isDigit_of_mem_toDigits (by decide) (by decide) hmem) (by decide)
    · rfl

theorem literal?_integerText (n : Int) :
    literal? (integerText n) = some ⟨decide (n < 0), Nat.toDigits 10 n.natAbs, none, none⟩ := by
  have hdigits : takeDigits (Nat.toDigits 10 n.natAbs) = (Nat.toDigits 10 n.natAbs, []) :=
    takeDigits_of_digits (fun c hc => Nat.isDigit_of_mem_toDigits (by decide) (by decide) hc)
  simp only [literal?, takeSign_integerText, hdigits, isInteger_digits]
  rfl

theorem whole_readsBack (n : Int) (h : InRange n) : (whole n h).ReadsBack := by
  have hvalue : (if decide (n < 0) = true then -(n.natAbs : Int) else (n.natAbs : Int)) = n := by
    by_cases hnegative : n < 0
    · rw [if_pos (by simpa using hnegative)]
      omega
    · rw [if_neg (by simpa using hnegative)]
      omega
  have hsign : (decide (n < 0) && n == 0) = false := by
    by_cases hnegative : n < 0
    · simp [Int.ne_of_lt hnegative]
    · simp [hnegative]
  simp only [ReadsBack, text, literal?_integerText, Option.bind_some, Literal.number?,
    naturalValue_digits, hvalue, Option.isNone_none, Bool.and_self, if_true, hsign, h, dite_true]
  rfl

/-- Of numbers only the floating-point ones have to be trusted. -/
theorem readsBack_of_reals {ns : List Number} (hreals : ∀ x, .real x ∈ ns → (real x).ReadsBack) :
    ∀ n ∈ ns, n.ReadsBack := by
  intro n hn
  cases n with
  | whole k hrange => exact whole_readsBack k hrange
  | real x => exact hreals x hn

end Whole

end Number

namespace Token

section Steps

variable {s next : Scan} {c : Char} {rest : List Char}

theorem scan_cons {ts : List Token} (hstep : step s c = .ok (next, ts)) :
    scan s (c :: rest) = (scan next rest).map (ts ++ ·) := by
  simp only [scan, hstep]

/-- A character that completes no token. -/
theorem scan_cons_quiet (hstep : step s c = .ok (next, [])) :
    scan s (c :: rest) = scan next rest := by
  rw [scan_cons hstep]
  cases scan next rest <;> rfl

end Steps

section Literals

variable {cs rest : List Char} {read : List Char} {t : Token}

theorem scan_literal (hcs : ∀ c ∈ cs, isLiteralChar c = true) :
    scan (.literal read) (cs ++ rest) = scan (.literal (cs.reverse ++ read)) rest := by
  induction cs generalizing read with
  | nil => rfl
  | cons c cs ih =>
      have hc : isLiteralChar c = true := hcs c List.mem_cons_self
      have hstep : step (.literal read) c = .ok (.literal (c :: read), []) := by
        simp only [step, hc, if_true]
      rw [List.cons_append, scan_cons_quiet hstep,
        ih (fun d hd => hcs d (List.mem_cons_of_mem c hd)), List.reverse_cons, List.append_assoc]
      rfl

/-- What is closed ends a literal and is then scanned by itself. -/
theorem scan_literal_closed (ht : ofLiteral read.reverse = .ok t) (hclosed : Closed rest) :
    scan (.literal read) rest = (scan .between rest).map (t :: ·) := by
  cases rest with
  | nil => simp [scan, finish, ht, Except.map]
  | cons c rest =>
      have hc : isLiteralChar c = false := hclosed c rfl
      cases hbegin : begin c with
      | error e => simp [scan, step, hc, ht, hbegin, Except.map]
      | ok begun =>
          obtain ⟨s, ts⟩ := begun
          have hends : step (.literal read) c = .ok (s, t :: ts) := by
            simp [step, hc, ht, hbegin]
          rw [scan_cons hends, scan_cons (s := .between) hbegin]
          cases scan s rest <;> rfl

theorem begin_of_isLiteralChar {c : Char} (hc : isLiteralChar c = true) :
    begin c = .ok (.literal [c], []) := by
  have hother : ∀ d, isLiteralChar d = false → c ≠ d := by
    rintro d hd rfl
    exact absurd hc (by simp [hd])
  have hgap : isGap c = false := by
    simp [isGap, hother ' ' rfl, hother '\n' rfl, hother '\t' rfl, hother '\r' rfl]
  simp [begin, hgap, hc, hother '[' rfl, hother ']' rfl, hother '\x7b' rfl, hother '\x7d' rfl,
    hother ':' rfl, hother ',' rfl, hother '"' rfl]

/-- A literal between other tokens. -/
theorem scan_between_literal (hne : cs ≠ []) (hcs : ∀ c ∈ cs, isLiteralChar c = true)
    (ht : ofLiteral cs = .ok t) (hclosed : Closed rest) :
    scan .between (cs ++ rest) = (scan .between rest).map (t :: ·) := by
  cases cs with
  | nil => exact absurd rfl hne
  | cons c cs =>
      have hread : ofLiteral (cs.reverse ++ [c]).reverse = .ok t := by
        rw [List.reverse_append, List.reverse_reverse]
        exact ht
      rw [List.cons_append,
        scan_cons_quiet (s := .between) (begin_of_isLiteralChar (hcs c List.mem_cons_self)),
        scan_literal (fun d hd => hcs d (List.mem_cons_of_mem c hd)),
        scan_literal_closed hread hclosed]

theorem ofLiteral_of_literal? {l : Number.Literal} (hliteral : Number.literal? cs = some l) :
    ofLiteral cs = .ok (.number l) := by
  have hword : ∀ word, Number.literal? word = none → cs ≠ word := by
    rintro word hnone rfl
    cases hnone.symm.trans hliteral
  simp [ofLiteral, hword _ (rfl : Number.literal? ['n', 'u', 'l', 'l'] = none),
    hword _ (rfl : Number.literal? ['t', 'r', 'u', 'e'] = none),
    hword _ (rfl : Number.literal? ['f', 'a', 'l', 's', 'e'] = none), hliteral]

theorem scan_number {n : Number} (hn : n.ReadsBack) (hclosed : Closed rest) :
    scan .between (n.text ++ rest) = (scan .between rest).map (.number n.literal :: ·) := by
  obtain ⟨hliteral, -⟩ := hn.literal_eq
  have hne : n.text ≠ [] := by
    intro hnil
    rw [hnil] at hliteral
    cases hliteral
  exact scan_between_literal hne (Number.allLiteral_of_literal? hliteral)
    (ofLiteral_of_literal? hliteral) hclosed

end Literals

section Strings

variable {rest : List Char} {read : Units}

theorem scan_string_plain {c : Char} (hquote : c ≠ '"') (hslash : c ≠ '\\')
    (hprinted : 32 ≤ c.toNat) :
    scan (.string read) (c :: rest) = scan (.string (c.toNat :: read)) rest := by
  apply scan_cons_quiet
  simp [step, hquote, hslash, Nat.not_lt.mpr hprinted]

theorem scan_string_escaped {letter c : Char} (hletter : letter ≠ 'u')
    (hescaped : escaped? letter = some c) :
    scan (.string read) ('\\' :: letter :: rest) = scan (.string (c.toNat :: read)) rest := by
  have hslash : step (.string read) '\\' = .ok (.escape read, []) := rfl
  have hnamed : step (.escape read) letter = .ok (.string (c.toNat :: read), []) := by
    simp [step, hletter, hescaped]
  rw [scan_cons_quiet hslash, scan_cons_quiet hnamed]

theorem hexValue?_hexDigit : ∀ d < 16, Text.hexValue? (hexDigit d) = some d := by
  decide

theorem scan_string_unicode {n : Nat} (hn : n < 256) :
    scan (.string read) ('\\' :: 'u' :: '0' :: '0' :: hexDigit (n / 16) :: hexDigit (n % 16) ::
      rest) = scan (.string (n :: read)) rest := by
  have hslash : step (.string read) '\\' = .ok (.escape read, []) := rfl
  have hopen : step (.escape read) 'u' = .ok (.unicode read 0 4, []) := rfl
  have hfirst : step (.unicode read 0 4) '0' = .ok (.unicode read 0 3, []) := rfl
  have hsecond : step (.unicode read 0 3) '0' = .ok (.unicode read 0 2, []) := rfl
  have hthird : step (.unicode read 0 2) (hexDigit (n / 16)) =
      .ok (.unicode read (n / 16) 1, []) := by
    simp [step, hexValue?_hexDigit (n / 16) (by omega)]
  have hlast : step (.unicode read (n / 16) 1) (hexDigit (n % 16)) =
      .ok (.string (n :: read), []) := by
    have hsum : n / 16 * 16 + n % 16 = n := by omega
    simp [step, hexValue?_hexDigit (n % 16) (by omega), hsum]
  rw [scan_cons_quiet hslash, scan_cons_quiet hopen, scan_cons_quiet hfirst,
    scan_cons_quiet hsecond, scan_cons_quiet hthird, scan_cons_quiet hlast]

/-- Inside a string every character is scanned as it was written. -/
theorem scan_escape (c : Char) :
    scan (.string read) (escape c ++ rest) = scan (.string (c.toNat :: read)) rest := by
  unfold escape
  split
  · next h =>
      subst h
      exact scan_string_escaped (by decide) rfl
  split
  · next h =>
      subst h
      exact scan_string_escaped (by decide) rfl
  split
  · next h => exact h ▸ scan_string_escaped (c := Char.ofNat 8) (by decide) rfl
  split
  · next h => exact h ▸ scan_string_escaped (c := Char.ofNat 12) (by decide) rfl
  split
  · next h => exact h ▸ scan_string_escaped (c := '\n') (by decide) rfl
  split
  · next h => exact h ▸ scan_string_escaped (c := '\r') (by decide) rfl
  split
  · next h => exact h ▸ scan_string_escaped (c := '\t') (by decide) rfl
  split
  · next h => exact scan_string_unicode (by omega)
  · next hquote hslash _ _ _ _ _ hprinted =>
      exact scan_string_plain hquote hslash (Nat.le_of_not_lt hprinted)

theorem scan_escapes (cs : List Char) :
    scan (.string read) (cs.flatMap escape ++ rest) =
      scan (.string ((cs.map Char.toNat).reverse ++ read)) rest := by
  induction cs generalizing read with
  | nil => rfl
  | cons c cs ih =>
      rw [List.flatMap_cons, List.append_assoc, scan_escape, ih, List.map_cons, List.reverse_cons,
        List.append_assoc]
      rfl

theorem scan_quote (s : String) :
    scan .between (quote s ++ rest) =
      (scan .between rest).map (.string (s.toList.map Char.toNat) :: ·) := by
  have hopen : step .between '"' = .ok (.string [], []) := rfl
  have hclose : step (.string ((s.toList.map Char.toNat).reverse)) '"' =
      .ok (.between, [.string (s.toList.map Char.toNat)]) := by
    simp [step]
  rw [quote, List.cons_append, scan_cons_quiet hopen, List.append_assoc, scan_escapes,
    List.append_nil, List.singleton_append, scan_cons hclose]
  rfl

end Strings

end Token

end SourceSync.Json
