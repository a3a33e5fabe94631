/-
Secrets that overlap. Where a listed secret stands in a message, something is masked; what is
masked there is a listed secret that is no shorter, since longer ones are masked first. Either
it covers the whole occurrence, or the two cross: each has characters that the other one has
not, and then a part of the occurrence may stay visible.
-/
import Mathlib.Logic.Basic
import Mathlib.Tactic.ByContra
import SourceSync.Proofs.Masking.Pieces

namespace SourceSync

namespace Text

/-- A text stands in another one, behind so many characters. -/
def StandsAt (part : List Char) (position : Nat) (cs : List Char) : Prop :=
  ∃ before after, cs = before ++ part ++ after ∧ before.length = position

/-- The stretch of `m` characters from `p` on and that of `n` from `q` on share characters, and
neither of them lies within the other. -/
def Crosses (p m q n : Nat) : Prop :=
  p < q ∧ q < p + m ∧ p + m < q + n ∨ q < p ∧ p < q + n ∧ q + n < p + m

/-- What stands within the stretch of another text is part of that text. -/
theorem StandsAt.isInfix {part inner cs : List Char} {p q : Nat} (hpart : StandsAt part p cs)
    (hinner : StandsAt inner q cs) (hfrom : p ≤ q)
    (hto : q + inner.length ≤ p + part.length) : inner <:+: part := by
  obtain ⟨before, after, rfl, rfl⟩ := hpart
  obtain ⟨front, back, hcs, rfl⟩ := hinner
  rw [List.append_assoc, List.append_assoc] at hcs
  have hbefore : before <+: front :=
    List.prefix_of_prefix_length_le ⟨part ++ after, hcs⟩ (List.prefix_append front _) hfrom
  obtain ⟨gap, rfl⟩ := hbefore
  rw [List.append_assoc] at hcs
  have hrest : part ++ after = gap ++ inner ++ back := by
    rw [List.append_assoc]
    exact List.append_cancel_left hcs
  have hwithin : gap ++ inner <+: part := by
    refine List.prefix_of_prefix_length_le ⟨back, hrest.symm⟩ (List.prefix_append part after) ?_
    rw [List.length_append] at hto ⊢
    omega
  exact (List.suffix_append gap inner).isInfix.trans hwithin.isInfix

/-- A part of a text that is not the whole of it has fewer octets. -/
theorem utf8ByteSize_lt_of_isInfix {s t : String} (hinside : t.toList <:+: s.toList)
    (hlength : t.length < s.length) : t.utf8ByteSize < s.utf8ByteSize := by
  obtain ⟨front, back, hparts⟩ := hinside
  have hs : s = String.ofList front ++ t ++ String.ofList back := by
    rw [← String.ofList_toList (s := s), ← hparts, String.ofList_append, String.ofList_append,
      String.ofList_toList]
  have hrest : ¬ ((String.ofList front).utf8ByteSize = 0 ∧
      (String.ofList back).utf8ByteSize = 0) := by
    rintro ⟨hfront, hback⟩
    rw [String.utf8ByteSize_eq_zero_iff.mp hfront, String.utf8ByteSize_eq_zero_iff.mp hback,
      String.empty_append, String.append_empty] at hs
    exact absurd hlength (hs ▸ Nat.lt_irrefl _)
  rw [hs, String.utf8ByteSize_append, String.utf8ByteSize_append]
  omega

end Text

open Text

namespace Secrets

/-- Pieces, each with the number of characters of the message before it, from `n` on. -/
def placedFrom : Nat → List Piece → List (Nat × Piece)
  | _, [] => []
  | n, p :: ps => (n, p) :: placedFrom (n + p.source.length) ps

def placed (ps : List Piece) : List (Nat × Piece) :=
  placedFrom 0 ps

section Places

variable {ps qs : List Piece} {piece : Piece} {secret : String} {n q : Nat}

theorem placedFrom_append (n : Nat) (ps qs : List Piece) :
    placedFrom n (ps ++ qs) = placedFrom n ps ++ placedFrom (n + (sourceOf ps).length) qs := by
  induction ps generalizing n with
  | nil => rfl
  | cons p ps ih =>
      rw [List.cons_append, placedFrom, ih, placedFrom, sourceOf_cons, List.length_append,
        List.cons_append, Nat.add_assoc]

theorem mem_placedFrom_middle (n : Nat) (before : List Piece) (piece : Piece)
    (after : List Piece) :
    (n + (sourceOf before).length, piece) ∈ placedFrom n (before ++ piece :: after) := by
  rw [placedFrom_append]
  exact List.mem_append_right _ List.mem_cons_self

theorem exists_of_mem_placedFrom (hplaced : (q, piece) ∈ placedFrom n ps) :
    ∃ before after, ps = before ++ piece :: after ∧ q = n + (sourceOf before).length := by
  induction ps generalizing n with
  | nil => cases hplaced
  | cons p ps ih =>
      rcases List.mem_cons.mp hplaced with hfirst | hrest
      · cases hfirst
        exact ⟨[], ps, rfl, rfl⟩
      · obtain ⟨before, after, rfl, rfl⟩ := ih hrest
        refine ⟨p :: before, after, rfl, ?_⟩
        rw [sourceOf_cons, List.length_append, Nat.add_assoc]

theorem mem_of_mem_placed (hplaced : (q, piece) ∈ placed ps) : piece ∈ ps := by
  obtain ⟨before, after, rfl, -⟩ := exists_of_mem_placedFrom hplaced
  exact List.mem_append_right _ List.mem_cons_self

/-- A piece stands in the message where it is placed. -/
theorem standsAt_of_mem_placed (hplaced : (q, piece) ∈ placed ps) :
    StandsAt piece.source q (sourceOf ps) := by
  obtain ⟨before, after, rfl, rfl⟩ := exists_of_mem_placedFrom hplaced
  refine ⟨sourceOf before, sourceOf after, ?_, (Nat.zero_add _).symm⟩
  rw [sourceOf_append, sourceOf_cons, List.append_assoc]

/-- Two pieces are the same one, or one ends before the other begins. -/
theorem apart_of_mem_placedFrom {x y : Nat × Piece} (hx : x ∈ placedFrom n ps)
    (hy : y ∈ placedFrom n ps) :
    x = y ∨ x.1 + x.2.source.length ≤ y.1 ∨ y.1 + y.2.source.length ≤ x.1 := by
  have hbehind {m : Nat} {z : Nat × Piece} {zs : List Piece} (hz : z ∈ placedFrom m zs) :
      m ≤ z.1 := by
    obtain ⟨before, after, -, hplace⟩ := exists_of_mem_placedFrom hz
    omega
  induction ps generalizing n with
  | nil => cases hx
  | cons p ps ih =>
      rcases List.mem_cons.mp hx with rfl | hx <;> rcases List.mem_cons.mp hy with rfl | hy
      · exact Or.inl rfl
      · exact Or.inr (Or.inl (hbehind hy))
      · exact Or.inr (Or.inr (hbehind hx))
      · exact ih hx hy

/-- What is masked stays masked where it is. -/
theorem Masks.mem_placedFrom (hmasks : Masks secret ps qs) {t : String}
    (ht : (q, .masked t) ∈ placedFrom n ps) : (q, .masked t) ∈ placedFrom n qs := by
  induction hmasks generalizing n with
  | nil => cases ht
  | @found ps qs _ ih =>
      rw [placedFrom_append, List.mem_append, sourceOf_untouched] at ht
      rcases ht with hkept | hrest
      · obtain ⟨before, after, huntouched, -⟩ := exists_of_mem_placedFrom hkept
        have hmem : Piece.masked t ∈ untouched secret.toList := by
          rw [huntouched]
          exact List.mem_append_right _ List.mem_cons_self
        obtain ⟨c, -, hc⟩ := List.mem_map.mp hmem
        cases hc
      · exact List.mem_cons_of_mem _ (ih hrest)
  | passed p _ _ ih =>
      rcases List.mem_cons.mp ht with hfirst | hrest
      · exact hfirst ▸ List.mem_cons_self
      · exact List.mem_cons_of_mem _ (ih hrest)

theorem mem_placed_maskEach {secrets : List String} (hnonempty : ∀ s ∈ secrets, s ≠ "")
    {t : String} (ht : (q, .masked t) ∈ placed ps) :
    (q, .masked t) ∈ placed (maskEach secrets ps) := by
  induction secrets generalizing ps with
  | nil => exact ht
  | cons s rest ih =>
      have hmasks := masks_maskFrom (hnonempty s List.mem_cons_self) ps
      exact ih (fun u hu => hnonempty u (List.mem_cons_of_mem s hu)) (hmasks.mem_placedFrom ht)

/-- Pieces can be parted behind any number of characters, unless a masked secret lies there. -/
theorem parted_or_masked {k : Nat} (hk : k ≤ (sourceOf ps).length) (n : Nat) :
    (∃ front back, ps = front ++ back ∧ (sourceOf front).length = k) ∨
      ∃ q t, (q, .masked t) ∈ placedFrom n ps ∧ q < n + k ∧ n + k < q + t.length := by
  induction ps generalizing k n with
  | nil => exact Or.inl ⟨[], [], rfl, (Nat.le_zero.mp hk).symm⟩
  | cons p ps ih =>
      by_cases hzero : k = 0
      · exact Or.inl ⟨[], p :: ps, rfl, hzero.symm⟩
      by_cases hwithin : k < p.source.length
      · cases p with
        | kept c => exact absurd (Nat.lt_one_iff.mp hwithin) hzero
        | masked t =>
            rw [Piece.source, String.length_toList] at hwithin
            exact Or.inr ⟨n, t, List.mem_cons_self, by omega, by omega⟩
      rw [sourceOf_cons, List.length_append] at hk
      rcases ih (k := k - p.source.length) (by omega) (n + p.source.length) with
        ⟨front, back, rfl, hfront⟩ | ⟨q, t, hplaced, hbegins, hends⟩
      · refine Or.inl ⟨p :: front, back, rfl, ?_⟩
        rw [sourceOf_cons, List.length_append]
        omega
      · exact Or.inr ⟨q, t, List.mem_cons_of_mem _ hplaced, by omega, by omega⟩

theorem eq_untouched_of_kept (hkept : ∀ t, .masked t ∉ ps) : ps = untouched (sourceOf ps) := by
  induction ps with
  | nil => rfl
  | cons p ps ih =>
      have hrest := ih (fun t ht => hkept t (List.mem_cons_of_mem p ht))
      cases p with
      | kept c => exact congrArg (Piece.kept c :: ·) hrest
      | masked t => exact absurd List.mem_cons_self (hkept t)

/-- A part of the message stands for some pieces of its own, or a masked secret lies across one of
its ends. -/
theorem middle_or_masked {part : List Char} {p : Nat} (hpart : StandsAt part p (sourceOf ps)) :
    (∃ front middle back, ps = front ++ (middle ++ back) ∧ (sourceOf front).length = p ∧
      sourceOf middle = part) ∨
      ∃ q t, (q, .masked t) ∈ placed ps ∧ q < p + part.length ∧ p < q + t.length := by
  obtain ⟨before, after, hsource, rfl⟩ := hpart
  have hreach : before.length ≤ (sourceOf ps).length := by
    rw [hsource, List.append_assoc, List.length_append]
    exact Nat.le_add_right _ _
  rcases parted_or_masked hreach 0 with
    ⟨front, back, rfl, hfront⟩ | ⟨q, t, hplaced, hbegins, hends⟩
  · rw [sourceOf_append, List.append_assoc] at hsource
    obtain ⟨-, hback⟩ := List.append_inj hsource hfront
    have hwithin : part.length ≤ (sourceOf back).length := by
      rw [hback, List.length_append]
      exact Nat.le_add_right _ _
    rcases parted_or_masked hwithin (sourceOf front).length with
      ⟨middle, rest, rfl, hmiddle⟩ | ⟨q, t, hplaced, hbegins, hends⟩
    · rw [sourceOf_append] at hback
      exact Or.inl ⟨front, middle, rest, rfl, hfront, (List.append_inj hback hmiddle).1⟩
    · refine Or.inr ⟨q, t, ?_, by omega, by omega⟩
      rw [placed, placedFrom_append, Nat.zero_add]
      exact List.mem_append_right _ hplaced
  · exact Or.inr ⟨q, t, hplaced, by omega, by omega⟩

/-- A part of the message is kept as a whole, or a masked secret has characters of it. -/
theorem untouched_or_met {part : List Char} {p : Nat} (hpart : StandsAt part p (sourceOf ps))
    (hmasked : ∀ t, .masked t ∈ ps → t ≠ "") :
    untouched part <:+: ps ∨
      ∃ q t, (q, .masked t) ∈ placed ps ∧ q < p + part.length ∧ p < q + t.length := by
  rcases middle_or_masked hpart with ⟨front, middle, back, rfl, rfl, rfl⟩ | hmet
  · by_cases hkept : ∀ t, .masked t ∉ middle
    · rw [← eq_untouched_of_kept hkept]
      exact Or.inl ⟨front, back, List.append_assoc front middle back⟩
    · obtain ⟨t, ht⟩ := not_forall_not.mp hkept
      have hne := hmasked t (List.mem_append_right _ (List.mem_append_left _ ht))
      have hpos : t.length ≠ 0 := by simpa using hne
      obtain ⟨early, late, rfl⟩ := List.append_of_mem ht
      have hplaced := mem_placedFrom_middle 0 (front ++ early) (.masked t) (late ++ back)
      simp only [List.append_assoc, sourceOf_append, List.length_append, Nat.zero_add] at hplaced
      refine Or.inr ⟨_, t, by simpa [placed] using hplaced, ?_, by omega⟩
      simp only [sourceOf_append, sourceOf_cons, List.length_append, Piece.source,
        String.length_toList]
      omega
  · exact Or.inr hmet

end Places

section Occurrences

variable {secrets : List String} {ps : List Piece} {s : String} {p : Nat}

/-- A secret that has just been masked is nowhere kept as a whole. -/
theorem not_untouched_maskFrom (hne : s ≠ "") (hplain : '*' ∉ s.toList) :
    ¬ untouched s.toList <:+: maskFrom s 0 ps := by
  rintro ⟨front, back, hkept⟩
  have hshown := (masks_maskFrom hne ps).shownOf_eq hne hplain
  rw [← hkept, shownOf_append, shownOf_append, shownOf_untouched] at hshown
  exact Text.not_isInfix_replaceFrom (not_mem_of_mem_mask hplain) (by decide) (by simpa using hne) 0
    (shownOf ps) ⟨_, _, hshown⟩

/-- When secrets are masked longest first, each place of one of them is met by a masked secret
that is no shorter. -/
theorem met_of_standsAt (hnonempty : ∀ s ∈ secrets, s ≠ "")
    (hplain : ∀ s ∈ secrets, '*' ∉ s.toList)
    (hsizes : secrets.Pairwise (fun s t => t.utf8ByteSize ≤ s.utf8ByteSize))
    (hbefore : ∀ t, .masked t ∈ ps → t ≠ "" ∧ ∀ s ∈ secrets, s.utf8ByteSize ≤ t.utf8ByteSize)
    (hs : s ∈ secrets) (hstands : StandsAt s.toList p (sourceOf ps)) :
    ∃ q t, (q, .masked t) ∈ placed (maskEach secrets ps) ∧ s.utf8ByteSize ≤ t.utf8ByteSize ∧
      q < p + s.length ∧ p < q + t.length := by
  induction secrets generalizing ps with
  | nil => cases hs
  | cons first rest ih =>
      have hfirst := hnonempty first List.mem_cons_self
      have hrest : ∀ u ∈ rest, u ≠ "" := fun u hu => hnonempty u (List.mem_cons_of_mem first hu)
      have hmasks := masks_maskFrom hfirst ps
      rw [← hmasks.sourceOf_eq] at hstands
      obtain ⟨hlonger, hsizes⟩ := List.pairwise_cons.mp hsizes
      rcases List.mem_cons.mp hs with rfl | hs
      · have hmasked : ∀ t, .masked t ∈ maskFrom s 0 ps →
            t ≠ "" ∧ s.utf8ByteSize ≤ t.utf8ByteSize := by
          intro t ht
          rcases hmasks.mem_masked ht with rfl | ht
          · exact ⟨hfirst, Nat.le_refl _⟩
          · exact ⟨(hbefore t ht).1, (hbefore t ht).2 s List.mem_cons_self⟩
        rcases untouched_or_met hstands (fun t ht => (hmasked t ht).1) with
          hkept | ⟨q, t, hplaced, hbegins, hends⟩
        · exact absurd hkept (not_untouched_maskFrom hfirst (hplain s List.mem_cons_self))
        · rw [String.length_toList] at hbegins
          exact ⟨q, t, mem_placed_maskEach hrest hplaced, (hmasked t (mem_of_mem_placed hplaced)).2,
            hbegins, hends⟩
      · refine ih hrest (fun u hu => hplain u (List.mem_cons_of_mem first hu)) hsizes ?_ hs hstands
        intro t ht
        rcases hmasks.mem_masked ht with rfl | ht
        · exact ⟨hfirst, hlonger⟩
        · exact ⟨(hbefore t ht).1, fun u hu =>
            (hbefore t ht).2 u (List.mem_cons_of_mem first hu)⟩

theorem pairwise_maskingOrder (values : List String) :
    (maskingOrder values).Pairwise (fun s t => t.utf8ByteSize ≤ s.utf8ByteSize) := by
  refine (List.pairwise_mergeSort ?_ ?_ _).imp (fun h => of_decide_eq_true h)
  · intro a b c hab hbc
    exact decide_eq_true (Nat.le_trans (of_decide_eq_true hbc) (of_decide_eq_true hab))
  · intro a b
    simpa using Nat.le_total b.utf8ByteSize a.utf8ByteSize

end Occurrences

/-- Where a listed secret stands in a message, all of its characters are masked, unless it crosses
a listed secret that is masked and no shorter. -/
theorem masked_unless_crossed {values : List String} (hplain : ∀ v ∈ values, '*' ∉ v.toList)
    (message : String) :
    let ps := pieces values message
    sourceOf ps = message.toList ∧ shownOf ps = (redactWith values message).toList ∧
    ∀ s ∈ values, s ≠ "" → ∀ p, StandsAt s.toList p message.toList →
      (∀ k c, (k, .kept c) ∈ placed ps → ¬ (p ≤ k ∧ k < p + s.length)) ∨
      ∃ t ∈ values, ∃ q, (q, .masked t) ∈ placed ps ∧ StandsAt t.toList q message.toList ∧
        s.utf8ByteSize ≤ t.utf8ByteSize ∧ Crosses p s.length q t.length := by
  intro ps
  refine ⟨sourceOf_pieces values message, shownOf_pieces hplain message, ?_⟩
  intro s hs hne p hstands
  have huntouched : StandsAt s.toList p (sourceOf (untouched message.toList)) := by
    rw [sourceOf_untouched]
    exact hstands
  have hnone : ∀ t, .masked t ∉ untouched message.toList := by
    intro t ht
    obtain ⟨c, -, hc⟩ := List.mem_map.mp ht
    cases hc
  obtain ⟨q, t, hplaced, hsize, hbegins, hends⟩ := met_of_standsAt ne_of_mem_maskingOrder
    (plain_of_mem_maskingOrder hplain) (pairwise_maskingOrder values)
    (fun t ht => absurd ht (hnone t)) (mem_maskingOrder.mpr ⟨hs, hne⟩) huntouched
  have hthere : StandsAt t.toList q message.toList := by
    have hsource := standsAt_of_mem_placed hplaced
    rwa [← pieces, sourceOf_pieces] at hsource
  by_cases hcrosses : Crosses p s.length q t.length
  · have hlisted := (mem_of_masked_mem_pieces (mem_of_mem_placed hplaced)).1
    exact Or.inr ⟨t, hlisted, q, hplaced, hthere, hsize, hcrosses⟩
  · have hcovers : q ≤ p ∧ p + s.length ≤ q + t.length := by
      by_contra huncovered
      -- what neither covers nor crosses lies inside and is shorter
      have hinside : p ≤ q ∧ q + t.length ≤ p + s.length ∧ t.length < s.length := by
        rw [Crosses] at hcrosses
        omega
      obtain ⟨hfrom, hto, hshorter⟩ := hinside
      have hpart : t.toList <:+: s.toList := by
        refine hstands.isInfix hthere hfrom ?_
        rwa [String.length_toList, String.length_toList]
      exact absurd (Text.utf8ByteSize_lt_of_isInfix hpart hshorter) (Nat.not_lt.mpr hsize)
    refine Or.inl ?_
    rintro k c hkept ⟨hfrom, hto⟩
    rcases apart_of_mem_placedFrom hplaced hkept with hsame | hbehind | hahead
    · cases hsame
    · simp only [Piece.source, String.length_toList] at hbehind
      omega
    · simp only [Piece.source, List.length_singleton] at hahead
      omega

/-- A secret inside a longer one cannot cross anything, so nothing of it is kept. -/
theorem masked_unless_crossed_inside :
    (∀ v ∈ ["b", "abc"], '*' ∉ v.toList) ∧ StandsAt "b".toList 2 "xabc".toList ∧
    ∀ k c, (k, .kept c) ∈ placed (pieces ["b", "abc"] "xabc") → ¬ (2 ≤ k ∧ k < 3) := by
  have hplain : ∀ v ∈ ["b", "abc"], '*' ∉ v.toList := by decide
  have hstands : StandsAt "b".toList 2 "xabc".toList := ⟨['x', 'a'], ['c'], by decide, rfl⟩
  obtain ⟨-, -, hmasked⟩ := masked_unless_crossed hplain "xabc"
  refine ⟨hplain, hstands, ?_⟩
  have hlength : "b".length = 1 := by decide
  rcases hmasked "b" (by decide) (by decide) 2 hstands with hall | ⟨t, -, q, -, -, -, hcrosses⟩
  · rwa [hlength] at hall
  · rw [hlength, Crosses] at hcrosses
    omega

/-- Two secrets that cross: the one that is masked first takes only a part of the other one, and
the rest of that one stays visible. -/
theorem crossed_secret_visible :
    (∀ v ∈ ["abcd", "cdef"], v ≠ "" ∧ '*' ∉ v.toList) ∧
    StandsAt "cdef".toList 2 "abcdef".toList ∧
    sourceOf (pieces ["abcd", "cdef"] "abcdef") = "abcdef".toList ∧
    shownOf (pieces ["abcd", "cdef"] "abcdef") =
      (redactWith ["abcd", "cdef"] "abcdef").toList ∧
    redactWith ["abcd", "cdef"] "abcdef" = "****ef" ∧
    (4, .kept 'e') ∈ placed (pieces ["abcd", "cdef"] "abcdef") ∧ 4 < 2 + "cdef".length := by
  have horder : maskingOrder ["abcd", "cdef"] = ["abcd", "cdef"] :=
    List.mergeSort_of_pairwise (by decide)
  have hpieces : pieces ["abcd", "cdef"] "abcdef" = [.masked "abcd", .kept 'e', .kept 'f'] := by
    rw [pieces, horder]
    rfl
  have hmasked : redactWith ["abcd", "cdef"] "abcdef" = "****ef" := by
    rw [redactWith, horder]
    rfl
  refine ⟨by decide, ⟨['a', 'b'], [], by decide, rfl⟩, sourceOf_pieces _ _, ?_, hmasked, ?_,
    by decide⟩
  · exact shownOf_pieces (by decide) "abcdef"
  · rw [hpieces]
    exact List.mem_cons_of_mem _ List.mem_cons_self

end Secrets

end SourceSync
