/-
Masking in lines that name their own level. What stands behind the level is split into words and
put together again with single blanks before anything is masked. The words of a secret get through
this unchanged and one blank apart, but the secret itself is found there only if that is how it is
written: one that has two blanks in a row, a line break or a blank at an end is not masked.
-/
import Mathlib.Tactic.ByContra
import SourceSync.Log
import SourceSync.Proofs.Masking.Pieces

namespace SourceSync

namespace Text

variable {c d : Char} {cs ds : List Char}

/-- The text behind its first word. -/
def afterFirstWord (cs : List Char) : List Char :=
  (trimStart cs).dropWhile (fun c => !isBlank c)

/-- The words of a text with one blank between neighbours. -/
def singleSpaced (cs : List Char) : List Char :=
  joinWith ' ' (words cs)

theorem joinWith_cons_cons (separator c : Char) (piece : List Char) (rest : List (List Char)) :
    joinWith separator ((c :: piece) :: rest) = c :: joinWith separator (piece :: rest) := by
  cases rest with
  | nil => rfl
  | cons next rest => rfl

section Words

/-- A word that has begun takes everything up to the next blank. -/
theorem wordsFrom_begun {word : List Char} (hword : word ≠ []) (cs : List Char) :
    wordsFrom word cs = (word.reverse ++ cs.takeWhile (fun c => !isBlank c)) ::
      words (cs.dropWhile (fun c => !isBlank c)) := by
  induction cs generalizing word with
  | nil => simp [wordsFrom, words, hword]
  | cons c cs ih =>
      by_cases hc : isBlank c = true
      · simp [wordsFrom, words, hword, hc]
      · have hlonger := ih (List.cons_ne_nil c word)
        simp [wordsFrom, hc, hlonger]

theorem words_cons_of_blank (hc : isBlank c = true) (cs : List Char) :
    words (c :: cs) = words cs := by
  simp [words, wordsFrom, hc]

theorem words_cons_of_letter (hc : isBlank c = false) (cs : List Char) :
    words (c :: cs) = (c :: cs.takeWhile (fun c => !isBlank c)) ::
      words (cs.dropWhile (fun c => !isBlank c)) := by
  have hbegun := wordsFrom_begun (List.cons_ne_nil c []) cs
  simpa [words, wordsFrom, hc] using hbegun

theorem words_eq_nil_iff : words cs = [] ↔ ∀ c ∈ cs, isBlank c = true := by
  induction cs with
  | nil => simp [words, wordsFrom]
  | cons c cs ih =>
      by_cases hc : isBlank c = true
      · rw [words_cons_of_blank hc, ih, List.forall_mem_cons, and_iff_right hc]
      · rw [words_cons_of_letter (Bool.eq_false_iff.mpr hc), List.forall_mem_cons]
        simp [hc]

/-- The other words are those of the text behind the first one. -/
theorem eq_words_afterFirstWord {word : List Char} {rest : List (List Char)}
    (hwords : words cs = word :: rest) : rest = words (afterFirstWord cs) := by
  induction cs with
  | nil => cases hwords
  | cons c cs ih =>
      by_cases hc : isBlank c = true
      · rw [words_cons_of_blank hc] at hwords
        rw [ih hwords, afterFirstWord, afterFirstWord, trimStart, trimStart,
          List.dropWhile_cons_of_pos hc]
      · rw [words_cons_of_letter (Bool.eq_false_iff.mpr hc)] at hwords
        rw [← (List.cons.inj hwords).2, afterFirstWord, trimStart, List.dropWhile_cons_of_neg hc,
          List.dropWhile_cons_of_pos (by simpa using hc)]

end Words

section SingleSpaced

theorem singleSpaced_cons_of_blank (hc : isBlank c = true) (cs : List Char) :
    singleSpaced (c :: cs) = singleSpaced cs := by
  rw [singleSpaced, words_cons_of_blank hc, singleSpaced]

theorem singleSpaced_singleton (hc : isBlank c = false) : singleSpaced [c] = [c] := by
  rw [singleSpaced, words_cons_of_letter hc]
  rfl

/-- Within a word nothing changes. -/
theorem singleSpaced_cons_letter (hc : isBlank c = false) (hd : isBlank d = false)
    (cs : List Char) : singleSpaced (c :: d :: cs) = c :: singleSpaced (d :: cs) := by
  rw [singleSpaced, words_cons_of_letter hc, singleSpaced, words_cons_of_letter hd,
    joinWith_cons_cons]
  simp only [List.takeWhile_cons, List.dropWhile_cons, hd, Bool.not_false, if_true]

/-- Behind a word stands one blank, if another word follows. -/
theorem singleSpaced_cons_blank (hc : isBlank c = false) (hd : isBlank d = true)
    (cs : List Char) :
    singleSpaced (c :: d :: cs) = c :: (if words cs = [] then [] else ' ' :: singleSpaced cs) := by
  have hwords : words (c :: d :: cs) = [c] :: words cs := by
    rw [words_cons_of_letter hc, ← words_cons_of_blank hd cs]
    simp only [List.takeWhile_cons, List.dropWhile_cons, hd, Bool.not_true, Bool.false_eq_true,
      if_false]
  rw [singleSpaced, hwords, singleSpaced]
  cases words cs with
  | nil => rfl
  | cons word rest => rfl

theorem letter_isPrefix_singleSpaced (hc : isBlank c = false) (cs : List Char) :
    [c] <+: singleSpaced (c :: cs) := by
  rw [singleSpaced, words_cons_of_letter hc, joinWith_cons_cons]
  exact List.cons_prefix_cons.mpr ⟨rfl, List.nil_prefix⟩

/-- What is written behind a text does not change what has been made of it. -/
theorem singleSpaced_isPrefix_append (cs ds : List Char) :
    singleSpaced cs <+: singleSpaced (cs ++ ds) := by
  induction cs with
  | nil => exact List.nil_prefix
  | cons c cs ih =>
      cases hc : isBlank c with
      | true =>
          rw [List.cons_append, singleSpaced_cons_of_blank hc, singleSpaced_cons_of_blank hc]
          exact ih
      | false =>
          match cs with
          | [] =>
              rw [singleSpaced_singleton hc]
              exact letter_isPrefix_singleSpaced hc ds
          | d :: cs =>
              rw [List.cons_append, List.cons_append] at *
              cases hd : isBlank d with
              | false =>
                  rw [singleSpaced_cons_letter hc hd, singleSpaced_cons_letter hc hd]
                  exact List.cons_prefix_cons.mpr ⟨rfl, ih⟩
              | true =>
                  rw [singleSpaced_cons_of_blank hd, singleSpaced_cons_of_blank hd] at ih
                  rw [singleSpaced_cons_blank hc hd, singleSpaced_cons_blank hc hd]
                  refine List.cons_prefix_cons.mpr ⟨rfl, ?_⟩
                  by_cases hlast : words cs = []
                  · rw [if_pos hlast]
                    exact List.nil_prefix
                  · have hmore : ¬ words (cs ++ ds) = [] := by
                      rw [words_eq_nil_iff] at hlast ⊢
                      exact fun hall => hlast (fun e he => hall e (List.mem_append_left ds he))
                    rw [if_neg hlast, if_neg hmore]
                    exact List.cons_prefix_cons.mpr ⟨rfl, ih⟩

theorem singleSpaced_isSuffix_cons (c : Char) (cs : List Char) :
    singleSpaced cs <:+ singleSpaced (c :: cs) := by
  cases hc : isBlank c with
  | true => exact (singleSpaced_cons_of_blank hc cs).symm ▸ List.suffix_rfl
  | false =>
      match cs with
      | [] => exact List.nil_suffix
      | d :: cs =>
          cases hd : isBlank d with
          | false =>
              rw [singleSpaced_cons_letter hc hd]
              exact List.suffix_cons c _
          | true =>
              rw [singleSpaced_cons_of_blank hd, singleSpaced_cons_blank hc hd]
              split
              · next hlast =>
                  rw [singleSpaced, hlast]
                  exact List.nil_suffix
              · exact (List.suffix_cons ' ' _).trans (List.suffix_cons c _)

/-- Nor does what is written before a text, a blank between the two apart. -/
theorem singleSpaced_isSuffix_append (cs ds : List Char) :
    singleSpaced ds <:+ singleSpaced (cs ++ ds) := by
  induction cs with
  | nil => exact List.suffix_rfl
  | cons c cs ih => exact ih.trans (singleSpaced_isSuffix_cons c (cs ++ ds))

/-- The words of a part stand in the whole as they are, one blank apart. -/
theorem singleSpaced_isInfix {part cs : List Char} (hpart : part <:+: cs) :
    singleSpaced part <:+: singleSpaced cs := by
  obtain ⟨before, after, rfl⟩ := hpart
  have hfront : singleSpaced (before ++ part) <+: singleSpaced (before ++ part ++ after) :=
    singleSpaced_isPrefix_append (before ++ part) after
  exact (singleSpaced_isSuffix_append before part).isInfix.trans hfront.isInfix

theorem length_singleSpaced_le (cs : List Char) : (singleSpaced cs).length ≤ cs.length := by
  match cs with
  | [] => exact Nat.le_refl 0
  | c :: cs =>
      cases hc : isBlank c with
      | true =>
          rw [singleSpaced_cons_of_blank hc]
          exact Nat.le_succ_of_le (length_singleSpaced_le cs)
      | false =>
          match cs with
          | [] => exact (singleSpaced_singleton hc).symm ▸ Nat.le_refl 1
          | d :: cs =>
              cases hd : isBlank d with
              | true =>
                  -- the blank that is written stands for `d`, which is left out
                  have hrest := length_singleSpaced_le cs
                  rw [singleSpaced_cons_blank hc hd]
                  split <;> simp only [List.length_cons, List.length_nil] <;> omega
              | false =>
                  rw [singleSpaced_cons_letter hc hd]
                  exact Nat.succ_le_succ (length_singleSpaced_le (d :: cs))

/-- A text stands in its own words, one blank apart, only if it is written like that. -/
theorem isInfix_singleSpaced_iff : cs <:+: singleSpaced cs ↔ singleSpaced cs = cs := by
  constructor
  · intro hwithin
    exact (hwithin.eq_of_length_le (length_singleSpaced_le cs)).symm
  · intro hspaced
    simp only [hspaced, List.infix_rfl]

end SingleSpaced

end Text

open Text

namespace Log

variable {line : String} {level : Level} {secrets : Secrets}

/-- The first word of the line names the level, and the part stands behind that word. -/
structure Carries (line : String) (level : Level) (part : List Char) : Prop where
  names : ∃ rest, leadingLevel? line = some (level, rest)
  behind : part <:+: afterFirstWord line.toList

theorem ofLine_eq_format (hnames : ∃ rest, leadingLevel? line = some (level, rest))
    (secrets : Secrets) (fallback : Level) :
    ofLine secrets line fallback =
      format secrets level (String.ofList (singleSpaced (afterFirstWord line.toList))) := by
  obtain ⟨rest, hleading⟩ := hnames
  have hrest : rest = words (afterFirstWord line.toList) := by
    rw [leadingLevel?] at hleading
    split at hleading
    · cases hleading
    · next hwords =>
        obtain ⟨_, _, hpair⟩ := Option.map_eq_some_iff.mp hleading
        rw [← eq_words_afterFirstWord hwords]
        exact (Prod.mk.inj hpair).2.symm
  rw [ofLine, hleading, singleSpaced, ← hrest]

/-- A line of a level's name, a blank and a part. -/
def lineAt (level : Level) (part : List Char) : String :=
  String.ofList (level.name.toList ++ ' ' :: part)

theorem leadingLevel?_lineAt (level : Level) (part : List Char) :
    leadingLevel? (lineAt level part) = some (level, words part) := by
  have hwords : words (level.name.toList ++ ' ' :: part) = level.name.toList :: words part := by
    cases level <;> simp [Level.name, words, wordsFrom, isBlank]
  have hname : Level.ofName? level.name = some level := by
    cases level <;> rfl
  simp only [leadingLevel?, lineAt, String.toList_ofList, hwords, String.ofList_toList, hname,
    Option.map_some]

theorem afterFirstWord_lineAt (level : Level) (part : List Char) :
    afterFirstWord (lineAt level part).toList = ' ' :: part := by
  rw [lineAt, String.toList_ofList]
  cases level <;> simp [Level.name, afterFirstWord, trimStart, isBlank]

theorem carries_lineAt (level : Level) (part : List Char) :
    Carries (lineAt level part) level part where
  names := ⟨words part, leadingLevel?_lineAt level part⟩
  behind := by
    rw [afterFirstWord_lineAt]
    exact (List.suffix_cons ' ' part).isInfix

/-- Words without an active secret are shown as they are. -/
theorem ofLine_lineAt {part : List Char}
    (habsent : ∀ v ∈ secrets.values, ¬ v.toList <:+: singleSpaced part) (level fallback : Level) :
    ofLine secrets (lineAt level part) fallback =
      .log level (String.ofList (singleSpaced part)) := by
  have hblank : isBlank ' ' = true := by decide
  rw [ofLine_eq_format (carries_lineAt level part).names, afterFirstWord_lineAt,
    singleSpaced_cons_of_blank hblank, format, Secrets.redact, Secrets.redactWith_absent]
  intro v hv _
  rw [String.toList_ofList]
  exact habsent v hv

/-- The message of a line that names its level never shows the words of the part, one blank apart,
when the line carries the part. -/
def HidesWords (secrets : Secrets) (part : List Char) : Prop :=
  ∀ line level fallback, Carries line level part →
    ∃ text, ofLine secrets line fallback = .log level text ∧ ¬ singleSpaced part <:+: text.toList

theorem hidesWords_iff (hplain : ∀ v ∈ secrets.values, '*' ∉ v.toList) (part : List Char) :
    HidesWords secrets part ↔ ∃ v ∈ secrets.values, v.toList <:+: singleSpaced part := by
  constructor
  · intro hhides
    by_contra hnone
    have habsent : ∀ v ∈ secrets.values, ¬ v.toList <:+: singleSpaced part :=
      fun v hv hwithin => hnone ⟨v, hv, hwithin⟩
    obtain ⟨text, htext, hhidden⟩ := hhides _ .info .info (carries_lineAt .info part)
    rw [ofLine_lineAt habsent] at htext
    rw [← (Message.log.inj htext).2, String.toList_ofList] at hhidden
    exact hhidden List.infix_rfl
  · rintro ⟨v, hv, hwithin⟩ line level fallback hcarries
    refine ⟨_, ofLine_eq_format hcarries.names secrets fallback, ?_⟩
    intro hshown
    exact secrets.hiddenIn_redact hplain _ v hv (hwithin.trans hshown)

/-- In a line that names its level, the words of a secret reach the masking as they are, one blank
apart. They are hidden in all lines exactly if the secret is written in this way itself, or
another active secret stands within its words. -/
theorem secret_words_hidden_iff (hplain : ∀ v ∈ secrets.values, '*' ∉ v.toList) {s : String}
    (hs : s ∈ secrets.values) :
    (∀ line level fallback, Carries line level s.toList →
      ∃ text, ofLine secrets line fallback = .log level (secrets.redact text) ∧
        singleSpaced s.toList <:+: text.toList) ∧
    (HidesWords secrets s.toList ↔
      singleSpaced s.toList = s.toList ∨
        ∃ v ∈ secrets.values, v ≠ s ∧ v.toList <:+: singleSpaced s.toList) := by
  refine ⟨?_, (hidesWords_iff hplain s.toList).trans ⟨?_, ?_⟩⟩
  · intro line level fallback hcarries
    refine ⟨_, ofLine_eq_format hcarries.names secrets fallback, ?_⟩
    rw [String.toList_ofList]
    exact singleSpaced_isInfix hcarries.behind
  · rintro ⟨v, hv, hwithin⟩
    by_cases hsame : v = s
    · subst hsame
      exact Or.inl (isInfix_singleSpaced_iff.mp hwithin)
    · exact Or.inr ⟨v, hv, hsame, hwithin⟩
  · rintro (hspaced | ⟨v, hv, -, hwithin⟩)
    · exact ⟨s, hs, isInfix_singleSpaced_iff.mpr hspaced⟩
    · exact ⟨v, hv, hwithin⟩

/-- A secret of two words is hidden in a warning that writes them one blank apart. -/
theorem secret_words_hidden_iff_warning :
    (∀ v ∈ (Secrets.ofList ["tok 123"]).values, '*' ∉ v.toList) ∧
    "tok 123" ∈ (Secrets.ofList ["tok 123"]).values ∧
    Carries "WARN retry  with tok 123" .warn "tok 123".toList ∧
    ∃ text, ofLine (Secrets.ofList ["tok 123"]) "WARN retry  with tok 123" .info = .log .warn text ∧
      ¬ "tok 123".toList <:+: text.toList := by
  have hplain : ∀ v ∈ (Secrets.ofList ["tok 123"]).values, '*' ∉ v.toList := by decide
  have hs : "tok 123" ∈ (Secrets.ofList ["tok 123"]).values := by decide
  have hcarries : Carries "WARN retry  with tok 123" .warn "tok 123".toList :=
    ⟨⟨_, rfl⟩, ⟨" retry  with ".toList, [], rfl⟩⟩
  have hspaced : singleSpaced "tok 123".toList = "tok 123".toList := by decide
  obtain ⟨-, hhides⟩ := secret_words_hidden_iff hplain hs
  refine ⟨hplain, hs, hcarries, ?_⟩
  rw [← hspaced]
  exact hhides.mpr (Or.inl hspaced) _ .warn .info hcarries

/-- A secret with two blanks in a row is not found any more when the line has been put together
again, and its words are shown. -/
theorem double_spaced_secret_shown :
    (∀ v ∈ (Secrets.ofList ["a  b"]).values, '*' ∉ v.toList) ∧
    "a  b" ∈ (Secrets.ofList ["a  b"]).values ∧ 'a' ∈ "a  b".toList ∧ isBlank 'a' = false ∧
    Carries "INFO a  b" .info "a  b".toList ∧
    ofLine (Secrets.ofList ["a  b"]) "INFO a  b" .info = .log .info "a b" ∧
    singleSpaced "a  b".toList <:+: "a b".toList ∧
    ¬ HidesWords (Secrets.ofList ["a  b"]) "a  b".toList := by
  have hplain : ∀ v ∈ (Secrets.ofList ["a  b"]).values, '*' ∉ v.toList := by decide
  have habsent : ∀ v ∈ (Secrets.ofList ["a  b"]).values,
      ¬ v.toList <:+: singleSpaced "a  b".toList := by decide
  have hshown := ofLine_lineAt habsent .info .info
  refine ⟨hplain, by decide, by decide, by decide, carries_lineAt .info "a  b".toList, hshown,
    by decide, ?_⟩
  intro hhides
  obtain ⟨v, hv, hwithin⟩ := (hidesWords_iff hplain _).mp hhides
  exact habsent v hv hwithin

end Log

end SourceSync
