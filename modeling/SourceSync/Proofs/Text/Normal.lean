/-
Blanks and control characters in canonical form. Nothing is made of one together with another
character, so they stay where a text is taken apart, put in order and put together again.
-/
import SourceSync.Text.Normal

namespace SourceSync.Text

namespace Mapping

/-- Lines of which every mapping meets a condition. -/
def Satisfies (p : Mapping → Bool) (lines : List String) : Prop :=
  (ofLines lines).all p = true

theorem Satisfies.nil (p : Mapping → Bool) : Satisfies p [] := rfl

/-- A table is looked at line by line. -/
theorem Satisfies.cons {p : Mapping → Bool} {line : List Char} {rest : List String}
    (hline : ((words line).map ofWord).all p = true) (hrest : Satisfies p rest) :
    Satisfies p (String.ofList line :: rest) := by
  unfold Satisfies ofLines wordsOfLines at *
  rw [List.flatMap_cons, String.toList_ofList, List.map_append, List.all_append, hline, hrest]
  rfl

end Mapping

namespace Normal

variable {a b c d : Nat} {cs : List Nat}

theorem lt_of_mem_target : ∀ m ∈ composites, ∀ c ∈ m.target, 0x20 < c := by
  have hall : composites.all (fun m => m.target.all (fun c => decide (0x20 < c))) = true := by
    change Mapping.Satisfies _ _
    repeat refine .cons (by decide +kernel) ?_
    exact .nil _
  simpa using hall

theorem syllable?_eq_none (hlow : a ≤ 0x20 ∨ b ≤ 0x20) : syllable? a b = none := by
  have hleads : 0x20 < leads := by decide
  have hvowels : 0x20 < vowels := by decide
  have htails : 0x20 < tails := by decide
  have hsyllables : 0x20 < syllables := by decide
  unfold syllable?
  split
  · next hletters =>
      simp only [Bool.and_eq_true, decide_eq_true_eq] at hletters
      omega
  · split
    · next hsyllable =>
        simp only [isSyllable, Bool.and_eq_true, decide_eq_true_eq] at hsyllable
        omega
    · rfl

/-- Blanks and control characters are no part of a composite. -/
theorem composite?_eq_none (hlow : a ≤ 0x20 ∨ b ≤ 0x20) : composite? a b = none := by
  have htable : composites.find? (fun m => m.target == [a, b]) = none := by
    rw [List.find?_eq_none]
    intro m hm htarget
    have hlt := lt_of_mem_target m hm
    rw [beq_iff_eq.mp htarget] at hlt
    have ha := hlt a (by simp)
    have hb := hlt b (by simp)
    omega
  rw [composite?, syllable?_eq_none hlow, htable]
  rfl

theorem mem_arrange : d ∈ arrange c cs ↔ d = c ∨ d ∈ cs := by
  induction cs with
  | nil => simp [arrange]
  | cons e rest ih =>
      rw [arrange]
      split
      · rw [List.mem_cons, ih, List.mem_cons, or_left_comm]
      · exact List.mem_cons

theorem takenApart_of_lt (steps : Nat) (hc : c < 0xC0) : takenApart steps c = [c] := by
  cases steps with
  | zero => rfl
  | succ steps => exact if_pos hc

theorem mem_decompose (hc : c ≤ 0x20) (hmem : c ∈ cs) : c ∈ decompose cs := by
  have hapart : c ∈ cs.flatMap (takenApart depth) := by
    have hself : takenApart depth c = [c] := takenApart_of_lt depth (by omega)
    refine List.mem_flatMap.mpr ⟨c, hmem, ?_⟩
    rw [hself]
    exact List.mem_singleton_self c
  have hfold : ∀ l : List Nat, c ∈ l → c ∈ l.foldr arrange [] := by
    intro l
    induction l with
    | nil => exact id
    | cons d rest ih =>
        intro hl
        exact mem_arrange.mpr ((List.mem_cons.mp hl).imp_right ih)
  exact hfold _ hapart

/-- A character that is part of no composite stays where others are put together. -/
theorem mem_compose (hc : c ≤ 0x20) {s : Composing} (hmem : c ∈ s.text ∨ c ∈ cs) :
    c ∈ compose s cs := by
  induction cs generalizing s with
  | nil => simpa [compose] using hmem
  | cons d rest ih =>
      rw [List.mem_cons] at hmem
      simp only [compose]
      split
      · next b hjoined =>
          -- the character is neither the base that is joined nor the mark that joins it
          split at hjoined
          · obtain ⟨base, hbase, hcomposite⟩ := Option.bind_eq_some_iff.mp hjoined
            have hlow : ¬ (base ≤ 0x20 ∨ d ≤ 0x20) := fun hlow => by
              rw [composite?_eq_none hlow] at hcomposite
              cases hcomposite
            apply ih
            simp only [Composing.text, hbase, Option.toList_some, List.mem_append,
              List.mem_singleton] at hmem ⊢
            rcases hmem with (rfl | hmarks) | rfl | hrest
            · exact absurd (Or.inl hc) hlow
            · exact Or.inl (Or.inr hmarks)
            · exact absurd (Or.inr hc) hlow
            · exact Or.inr hrest
          · cases hjoined
      · split
        · rw [List.mem_append]
          rcases hmem with htext | rfl | hrest
          · exact Or.inl htext
          · exact Or.inr (ih (Or.inl (by simp [Composing.text])))
          · exact Or.inr (ih (Or.inr hrest))
        · apply ih
          simp only [Composing.text, List.reverse_cons, List.mem_append, List.mem_singleton]
            at hmem ⊢
          rcases hmem with (hbase | hmarks) | rfl | hrest
          · exact Or.inl (Or.inl hbase)
          · exact Or.inl (Or.inr (Or.inl hmarks))
          · exact Or.inl (Or.inr (Or.inr rfl))
          · exact Or.inr hrest

/-- The canonical form of a text has the blanks and control characters of the text. -/
theorem mem_canonical (hc : c ≤ 0x20) (hmem : c ∈ cs) : c ∈ canonical cs := by
  unfold canonical
  split
  · exact hmem
  · exact mem_compose hc (Or.inr (mem_decompose hc hmem))

end Normal

end SourceSync.Text
