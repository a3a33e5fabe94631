/-
Masking, piece by piece. While secrets are masked one after another, a message is a list of
pieces: characters that are kept, and secrets that have been masked. The pieces say at every
moment both what the message was and what is shown of it. At the end they cut the message at
the masked secrets, and nothing between two of them holds a secret.
-/
import SourceSync.Proofs.Masking

namespace SourceSync

namespace Text

variable {old new : List Char}

theorem replaceFrom_eq_drop (skip : Nat) (cs : List Char) :
    replaceFrom old new skip cs = replaceAll old new (cs.drop skip) := by
  induction cs generalizing skip with
  | nil => simp [replaceAll, replaceFrom]
  | cons c cs ih =>
      cases skip with
      | zero => rfl
      | succ skip => exact ih skip

theorem replaceAll_found (hold : old ≠ []) (cs : List Char) :
    replaceAll old new (old ++ cs) = new ++ replaceAll old new cs := by
  obtain ⟨o, os, rfl⟩ := List.exists_cons_of_ne_nil hold
  have hstart : startsWith (o :: os) (o :: (os ++ cs)) = true :=
    startsWith_iff.mpr (List.prefix_append (o :: os) cs)
  rw [List.cons_append, replaceAll, replaceFrom, if_pos hstart, replaceFrom_eq_drop,
    List.length_cons, Nat.add_sub_cancel, List.drop_left]

theorem replaceAll_cons {c : Char} {cs : List Char} (habsent : ¬ old <+: c :: cs) :
    replaceAll old new (c :: cs) = c :: replaceAll old new cs := by
  have hstart : ¬ startsWith old (c :: cs) = true := fun h => habsent (startsWith_iff.mp h)
  rw [replaceAll, replaceFrom, if_neg hstart, replaceAll]

/-- Characters that are foreign to a text are no part of it, so the search passes over them. -/
theorem replaceAll_foreign (hold : old ≠ []) {front : List Char} (hforeign : ∀ c ∈ front, c ∉ old)
    (cs : List Char) : replaceAll old new (front ++ cs) = front ++ replaceAll old new cs := by
  induction front with
  | nil => rfl
  | cons c front ih =>
      have habsent : ¬ old <+: c :: (front ++ cs) := by
        obtain ⟨o, os, rfl⟩ := List.exists_cons_of_ne_nil hold
        intro hbegins
        have hhead : o = c := (List.cons_prefix_cons.mp hbegins).1
        exact hforeign c List.mem_cons_self (hhead ▸ List.mem_cons_self)
      rw [List.cons_append, replaceAll_cons habsent,
        ih (fun d hd => hforeign d (List.mem_cons_of_mem c hd)), List.cons_append]

theorem replaceAll_absent {cs : List Char} (habsent : ¬ old <:+: cs) :
    replaceAll old new cs = cs := by
  induction cs with
  | nil => rfl
  | cons c cs ih =>
      have hbegins : ¬ old <+: c :: cs := fun h => habsent h.isInfix
      have hrest : ¬ old <:+: cs := fun h => habsent (List.infix_cons h)
      rw [replaceAll_cons hbegins, ih hrest]

end Text

namespace Secrets

/-- A piece of a message: a character that is kept, or a secret that is masked. -/
inductive Piece where
  | kept (c : Char)
  | masked (secret : String)
  deriving DecidableEq

def Piece.source : Piece → List Char
  | kept c => [c]
  | masked secret => secret.toList

def Piece.shown : Piece → List Char
  | kept c => [c]
  | masked _ => mask.toList

def sourceOf (ps : List Piece) : List Char :=
  ps.flatMap Piece.source

def shownOf (ps : List Piece) : List Char :=
  ps.flatMap Piece.shown

/-- A text that is kept as a whole. -/
def untouched (cs : List Char) : List Piece :=
  cs.map .kept

/-- Mask a secret wherever it is kept as a whole, from the left; the first `skip` pieces belong
to a place already masked. -/
def maskFrom (secret : String) : Nat → List Piece → List Piece
  | _, [] => []
  | 0, p :: ps =>
    if (untouched secret.toList).isPrefixOf (p :: ps) then
      .masked secret :: maskFrom secret (secret.length - 1) ps
    else p :: maskFrom secret 0 ps
  | skip + 1, _ :: ps => maskFrom secret skip ps

/-- Mask one secret after another. -/
def maskEach (secrets : List String) (ps : List Piece) : List Piece :=
  secrets.foldl (fun ps s => maskFrom s 0 ps) ps

def pieces (values : List String) (message : String) : List Piece :=
  maskEach (maskingOrder values) (untouched message.toList)

section Pieces

variable {ps qs : List Piece} {secret : String}

theorem sourceOf_cons (p : Piece) (ps : List Piece) :
    sourceOf (p :: ps) = p.source ++ sourceOf ps :=
  rfl

theorem shownOf_cons (p : Piece) (ps : List Piece) :
    shownOf (p :: ps) = p.shown ++ shownOf ps :=
  rfl

theorem sourceOf_append (ps qs : List Piece) :
    sourceOf (ps ++ qs) = sourceOf ps ++ sourceOf qs :=
  List.flatMap_append

theorem shownOf_append (ps qs : List Piece) :
    shownOf (ps ++ qs) = shownOf ps ++ shownOf qs :=
  List.flatMap_append

@[simp]
theorem sourceOf_untouched (cs : List Char) : sourceOf (untouched cs) = cs := by
  induction cs with
  | nil => rfl
  | cons c cs ih => exact congrArg (c :: ·) ih

@[simp]
theorem shownOf_untouched (cs : List Char) : shownOf (untouched cs) = cs := by
  induction cs with
  | nil => rfl
  | cons c cs ih => exact congrArg (c :: ·) ih

/-- A text without mask characters is shown only where it is kept. -/
theorem untouched_isPrefix {part : List Char} (hplain : '*' ∉ part)
    (hshown : part <+: shownOf ps) : untouched part <+: ps := by
  induction part generalizing ps with
  | nil => exact List.nil_prefix
  | cons p part ih =>
      cases ps with
      | nil => cases List.prefix_nil.mp hshown
      | cons piece ps =>
          rw [shownOf_cons] at hshown
          cases piece with
          | kept c =>
              obtain ⟨rfl, hrest⟩ := List.cons_prefix_cons.mp hshown
              have hkept := ih (fun h => hplain (List.mem_cons_of_mem p h)) hrest
              exact List.cons_prefix_cons.mpr ⟨rfl, hkept⟩
          | masked s =>
              have hstar : p = '*' := (List.cons_prefix_cons.mp hshown).1
              exact absurd List.mem_cons_self (hstar ▸ hplain)

/-- What masking a secret does: from the left, every place where the secret is kept as a whole is
masked, and all else stays. -/
inductive Masks (secret : String) : List Piece → List Piece → Prop where
  | nil : Masks secret [] []
  | found {ps qs : List Piece} (hrest : Masks secret ps qs) :
      Masks secret (untouched secret.toList ++ ps) (.masked secret :: qs)
  | passed (p : Piece) {ps qs : List Piece} (habsent : ¬ untouched secret.toList <+: p :: ps)
      (hrest : Masks secret ps qs) : Masks secret (p :: ps) (p :: qs)

theorem maskFrom_eq_drop (skip : Nat) (ps : List Piece) :
    maskFrom secret skip ps = maskFrom secret 0 (ps.drop skip) := by
  induction ps generalizing skip with
  | nil => simp [maskFrom]
  | cons p ps ih =>
      cases skip with
      | zero => rfl
      | succ skip => exact ih skip

theorem masks_maskFrom (hsecret : secret ≠ "") (ps : List Piece) :
    Masks secret ps (maskFrom secret 0 ps) := by
  -- what follows a masked place is shorter, but no tail of the list: hence on the length
  induction hlength : ps.length using Nat.strongRecOn generalizing ps with
  | ind n ih =>
      subst hlength
      match ps with
      | [] => exact .nil
      | p :: ps =>
          rw [maskFrom]
          split
          · next hfound =>
              obtain ⟨after, hafter⟩ := List.isPrefixOf_iff_prefix.mp hfound
              have hpos : 0 < secret.length := by
                rw [← String.length_toList]
                exact List.length_pos_iff.mpr (by simpa using hsecret)
              have hlength : (untouched secret.toList).length = secret.length := by
                rw [untouched, List.length_map, String.length_toList]
              have hdrop : ps.drop (secret.length - 1) = after := by
                have hcons : (p :: ps).drop secret.length = after := by
                  rw [← hafter, List.drop_left' hlength]
                rw [← hcons, ← Nat.succ_pred_eq_of_pos hpos]
                rfl
              have hshorter : after.length < (p :: ps).length := by
                rw [← hafter, List.length_append]
                omega
              rw [maskFrom_eq_drop, hdrop, ← hafter]
              exact .found (ih _ hshorter after rfl)
          · next habsent =>
              exact .passed p (fun h => habsent (List.isPrefixOf_iff_prefix.mpr h))
                (ih _ (Nat.lt_succ_self _) ps rfl)

theorem Masks.sourceOf_eq (hmasks : Masks secret ps qs) : sourceOf qs = sourceOf ps := by
  induction hmasks with
  | nil => rfl
  | found _ ih => rw [sourceOf_cons, ih, sourceOf_append, sourceOf_untouched, Piece.source]
  | passed p _ _ ih => rw [sourceOf_cons, ih, sourceOf_cons]

/-- On what is shown, masking is replacing. -/
theorem Masks.shownOf_eq (hmasks : Masks secret ps qs) (hsecret : secret ≠ "")
    (hplain : '*' ∉ secret.toList) :
    shownOf qs = Text.replaceAll secret.toList mask.toList (shownOf ps) := by
  have hne : secret.toList ≠ [] := by simpa using hsecret
  induction hmasks with
  | nil => rfl
  | found _ ih =>
      rw [shownOf_cons, ih, shownOf_append, shownOf_untouched, Text.replaceAll_found hne,
        Piece.shown]
  | passed p habsent _ ih =>
      rw [shownOf_cons, shownOf_cons, ih]
      cases p with
      | kept c => exact (Text.replaceAll_cons (fun h => habsent (untouched_isPrefix hplain h))).symm
      | masked s => exact (Text.replaceAll_foreign hne (not_mem_of_mem_mask hplain) _).symm

theorem Masks.mem_masked (hmasks : Masks secret ps qs) {s : String} (hs : .masked s ∈ qs) :
    s = secret ∨ .masked s ∈ ps := by
  induction hmasks with
  | nil => exact Or.inr hs
  | found _ ih =>
      rcases List.mem_cons.mp hs with hfirst | hs
      · exact Or.inl (Piece.masked.inj hfirst)
      · exact (ih hs).imp_right (List.mem_append_right _)
  | passed p _ _ ih =>
      rcases List.mem_cons.mp hs with hfirst | hs
      · exact Or.inr (hfirst ▸ List.mem_cons_self)
      · exact (ih hs).imp_right (List.mem_cons_of_mem _)

end Pieces

section Runs

variable {secrets : List String} {ps : List Piece}

theorem sourceOf_maskEach (hnonempty : ∀ s ∈ secrets, s ≠ "") (ps : List Piece) :
    sourceOf (maskEach secrets ps) = sourceOf ps := by
  induction secrets generalizing ps with
  | nil => rfl
  | cons s rest ih =>
      have hmasks := masks_maskFrom (hnonempty s List.mem_cons_self) ps
      calc sourceOf (maskEach (s :: rest) ps)
          = sourceOf (maskFrom s 0 ps) := ih (fun t ht => hnonempty t (List.mem_cons_of_mem s ht)) _
        _ = sourceOf ps := hmasks.sourceOf_eq

theorem shownOf_maskEach (hnonempty : ∀ s ∈ secrets, s ≠ "")
    (hplain : ∀ s ∈ secrets, '*' ∉ s.toList) (ps : List Piece) :
    shownOf (maskEach secrets ps) = maskAll secrets (shownOf ps) := by
  induction secrets generalizing ps with
  | nil => rfl
  | cons s rest ih =>
      have hne := hnonempty s List.mem_cons_self
      have hshown := (masks_maskFrom hne ps).shownOf_eq hne (hplain s List.mem_cons_self)
      calc shownOf (maskEach (s :: rest) ps)
          = maskAll rest (shownOf (maskFrom s 0 ps)) :=
            ih (fun t ht => hnonempty t (List.mem_cons_of_mem s ht))
              (fun t ht => hplain t (List.mem_cons_of_mem s ht)) _
        _ = maskAll (s :: rest) (shownOf ps) := by rw [hshown]; rfl

theorem mem_masked_maskEach (hnonempty : ∀ s ∈ secrets, s ≠ "") {t : String}
    (ht : .masked t ∈ maskEach secrets ps) : t ∈ secrets ∨ .masked t ∈ ps := by
  induction secrets generalizing ps with
  | nil => exact Or.inr ht
  | cons s rest ih =>
      have hmasks := masks_maskFrom (hnonempty s List.mem_cons_self) ps
      rcases ih (fun u hu => hnonempty u (List.mem_cons_of_mem s hu)) ht with hrest | hbefore
      · exact Or.inl (List.mem_cons_of_mem s hrest)
      · rcases hmasks.mem_masked hbefore with rfl | hbefore
        · exact Or.inl List.mem_cons_self
        · exact Or.inr hbefore

end Runs

section Redaction

variable {values : List String}

theorem ne_of_mem_maskingOrder : ∀ s ∈ maskingOrder values, s ≠ "" :=
  fun _ hs => (mem_maskingOrder.mp hs).2

theorem plain_of_mem_maskingOrder (hplain : ∀ v ∈ values, '*' ∉ v.toList) :
    ∀ s ∈ maskingOrder values, '*' ∉ s.toList :=
  fun s hs => hplain s (mem_maskingOrder.mp hs).1

@[simp]
theorem sourceOf_pieces (values : List String) (message : String) :
    sourceOf (pieces values message) = message.toList := by
  rw [pieces, sourceOf_maskEach ne_of_mem_maskingOrder, sourceOf_untouched]

theorem shownOf_pieces (hplain : ∀ v ∈ values, '*' ∉ v.toList) (message : String) :
    shownOf (pieces values message) = (redactWith values message).toList := by
  rw [pieces, shownOf_maskEach ne_of_mem_maskingOrder (plain_of_mem_maskingOrder hplain),
    shownOf_untouched, redactWith, String.toList_ofList]

theorem mem_of_masked_mem_pieces {message t : String}
    (ht : .masked t ∈ pieces values message) : t ∈ values ∧ t ≠ "" := by
  rcases mem_masked_maskEach ne_of_mem_maskingOrder ht with hlisted | huntouched
  · exact mem_maskingOrder.mp hlisted
  · obtain ⟨c, -, hc⟩ := List.mem_map.mp huntouched
    cases hc

/-- No listed secret can be found in a masked text. -/
theorem not_isInfix_redactWith (hplain : ∀ v ∈ values, '*' ∉ v.toList) {v : String}
    (hv : v ∈ values) (hne : v ≠ "") (message : String) :
    ¬ v.toList <:+: (redactWith values message).toList := by
  rw [redactWith, String.toList_ofList]
  exact not_isInfix_maskAll ne_of_mem_maskingOrder (plain_of_mem_maskingOrder hplain)
    (mem_maskingOrder.mpr ⟨hv, hne⟩) _

/-- Masking a text again that shows none of the secrets changes nothing. -/
theorem redactWith_absent {text : String}
    (habsent : ∀ v ∈ values, v ≠ "" → ¬ v.toList <:+: text.toList) :
    redactWith values text = text := by
  have hmasked (secrets : List String) (hsecrets : ∀ s ∈ secrets, ¬ s.toList <:+: text.toList) :
      maskAll secrets text.toList = text.toList := by
    induction secrets with
    | nil => rfl
    | cons s rest ih =>
        have hfirst : Text.replaceAll s.toList mask.toList text.toList = text.toList :=
          Text.replaceAll_absent (hsecrets s List.mem_cons_self)
        rw [maskAll, List.foldl_cons, hfirst]
        exact ih (fun t ht => hsecrets t (List.mem_cons_of_mem s ht))
  rw [redactWith, hmasked, String.ofList_toList]
  intro s hs
  obtain ⟨hlisted, hne⟩ := mem_maskingOrder.mp hs
  exact habsent s hlisted hne

end Redaction

/-- A message cut at the secrets that are masked in it: what stands before the first of them, and
each with what stands behind it. -/
structure Cut where
  first : List Char
  rest : List (String × List Char)

namespace Cut

variable {k : Cut}

/-- The message that is cut. -/
def text (k : Cut) : List Char :=
  k.first ++ k.rest.flatMap (fun e => e.1.toList ++ e.2)

/-- The message with a mask in the place of each secret. -/
def shown (k : Cut) : List Char :=
  k.first ++ k.rest.flatMap (fun e => mask.toList ++ e.2)

/-- What stands outside the secrets. -/
def gaps (k : Cut) : List (List Char) :=
  k.first :: k.rest.map (·.2)

/-- The cut of a message in pieces. -/
def ofPieces : List Piece → Cut
  | [] => ⟨[], []⟩
  | .kept c :: ps => ⟨c :: (ofPieces ps).first, (ofPieces ps).rest⟩
  | .masked s :: ps => ⟨[], (s, (ofPieces ps).first) :: (ofPieces ps).rest⟩

theorem text_ofPieces (ps : List Piece) : (ofPieces ps).text = sourceOf ps := by
  induction ps with
  | nil => rfl
  | cons p ps ih =>
      rw [sourceOf_cons, ← ih]
      cases p with
      | kept c => rfl
      | masked s => simp [ofPieces, text, Piece.source]

theorem shown_ofPieces (ps : List Piece) : (ofPieces ps).shown = shownOf ps := by
  induction ps with
  | nil => rfl
  | cons p ps ih =>
      rw [shownOf_cons, ← ih]
      cases p with
      | kept c => rfl
      | masked s => simp [ofPieces, shown, Piece.shown]

theorem masked_mem_of_mem_rest {ps : List Piece} {e : String × List Char}
    (he : e ∈ (ofPieces ps).rest) : .masked e.1 ∈ ps := by
  induction ps with
  | nil => cases he
  | cons p ps ih =>
      cases p with
      | kept c => exact List.mem_cons_of_mem _ (ih he)
      | masked s =>
          rcases List.mem_cons.mp he with rfl | he
          · exact List.mem_cons_self
          · exact List.mem_cons_of_mem _ (ih he)

/-- What stands outside the secrets is shown. -/
theorem isInfix_of_mem_gaps {gap : List Char} (hgap : gap ∈ k.gaps) : gap <:+: k.shown := by
  rcases List.mem_cons.mp hgap with rfl | hrest
  · exact (List.prefix_append _ _).isInfix
  · obtain ⟨e, he, rfl⟩ := List.mem_map.mp hrest
    have hpart : e.2 <:+: mask.toList ++ e.2 := (List.suffix_append _ _).isInfix
    have hrest : mask.toList ++ e.2 <:+: k.rest.flatMap (fun e => mask.toList ++ e.2) :=
      List.infix_of_mem_flatten (List.mem_map_of_mem he)
    exact (hpart.trans hrest).trans (List.suffix_append _ _).isInfix

end Cut

/-- Masking is complete and masks nothing else: the message is cut at listed secrets, each of
which is replaced by a mask, and what stands between them is kept and holds no listed secret. So
none is left to be found, and masking again changes nothing. For secrets that are registered the
same holds, whatever the list they were registered from. -/
theorem redact_cuts_at_secrets {values : List String} (hplain : ∀ v ∈ values, '*' ∉ v.toList)
    (message : String) :
    (∃ k : Cut, k.text = message.toList ∧ k.shown = (redactWith values message).toList ∧
      (∀ e ∈ k.rest, e.1 ∈ values ∧ e.1 ≠ "") ∧
      ∀ gap ∈ k.gaps, ∀ v ∈ values, v ≠ "" → ¬ v.toList <:+: gap) ∧
    (∀ v ∈ values, v ≠ "" → ¬ v.toList <:+: (redactWith values message).toList) ∧
    redactWith values (redactWith values message) = redactWith values message ∧
    (ofList values).redact message = redactWith values message := by
  have habsent : ∀ v ∈ values, v ≠ "" → ¬ v.toList <:+: (redactWith values message).toList :=
    fun v hv hne => not_isInfix_redactWith hplain hv hne message
  refine ⟨⟨.ofPieces (pieces values message), ?_, ?_, ?_, ?_⟩, habsent, ?_, ?_⟩
  · rw [Cut.text_ofPieces, sourceOf_pieces]
  · rw [Cut.shown_ofPieces, shownOf_pieces hplain]
  · intro e he
    exact mem_of_masked_mem_pieces (Cut.masked_mem_of_mem_rest he)
  · intro gap hgap v hv hne hinside
    have hshown := Cut.isInfix_of_mem_gaps hgap
    rw [Cut.shown_ofPieces, shownOf_pieces hplain] at hshown
    exact habsent v hv hne (hinside.trans hshown)
  · exact redactWith_absent habsent
  · rw [redact, redactWith, redactWith, ofList, maskingOrder, maskingOrder, List.filter_filter]
    simp only [Bool.and_self]

/-- A secret inside a longer one, listed twice and beside an empty text. -/
theorem redact_cuts_at_secrets_nested :
    (∀ v ∈ ["b", "", "abc", "b"], '*' ∉ v.toList) ∧
    redactWith ["b", "", "abc", "b"] "abcb*cab" = "*********ca****" ∧
    ∃ k : Cut, k.text = "abcb*cab".toList ∧ k.shown = "*********ca****".toList ∧
      ∀ gap ∈ k.gaps, ¬ "b".toList <:+: gap := by
  have hplain : ∀ v ∈ ["b", "", "abc", "b"], '*' ∉ v.toList := by decide
  have hlong : "abc".utf8ByteSize = 3 := rfl
  have hshort : "b".utf8ByteSize = 1 := rfl
  have horder : maskingOrder ["b", "", "abc", "b"] = ["abc", "b", "b"] := by
    simp [maskingOrder, List.mergeSort, List.MergeSort.Internal.splitInTwo, hlong, hshort]
  have hmasked : redactWith ["b", "", "abc", "b"] "abcb*cab" = "*********ca****" := by
    rw [redactWith, horder]
    rfl
  obtain ⟨⟨k, htext, hshown, -, hgaps⟩, -⟩ := redact_cuts_at_secrets hplain "abcb*cab"
  rw [hmasked] at hshown
  exact ⟨hplain, hmasked, k, htext, hshown,
    fun gap hgap => hgaps gap hgap "b" (by decide) (by decide)⟩

end Secrets

end SourceSync
