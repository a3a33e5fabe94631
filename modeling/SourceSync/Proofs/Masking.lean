/-
What masking leaves behind. A text without mask characters that can be found in a
masked text was already in the text before, and a masked text is never found
again; so no secret survives, in whatever order the secrets are masked.
-/
import SourceSync.Secrets

namespace SourceSync

namespace Text

theorem dropLead?_eq_some_iff {lead cs rest : List Char} :
    dropLead? lead cs = some rest ↔ cs = lead ++ rest := by
  induction lead generalizing cs with
  | nil => simp [dropLead?]
  | cons l ls ih =>
      cases cs with
      | nil => simp [dropLead?]
      | cons c cs =>
          by_cases heq : l = c
          · simp [dropLead?, heq, ih]
          · have hne : c ≠ l := fun h => heq h.symm
            simp [dropLead?, heq, hne]

theorem startsWith_iff {lead cs : List Char} :
    startsWith lead cs = true ↔ lead <+: cs := by
  rw [startsWith, Option.isSome_iff_exists]
  constructor
  · rintro ⟨rest, hrest⟩
    exact ⟨rest, (dropLead?_eq_some_iff.mp hrest).symm⟩
  · rintro ⟨rest, hrest⟩
    exact ⟨rest, dropLead?_eq_some_iff.mpr hrest.symm⟩

section Replacement

variable {old new part : List Char}

/-- A text that shares no character with the replacement cannot reach into it. -/
theorem isInfix_of_isInfix_append (hdisjoint : ∀ c ∈ new, c ∉ part) (hpart : part ≠ [])
    {cs : List Char} (hinside : part <:+: new ++ cs) : part <:+: cs := by
  induction new with
  | nil => exact hinside
  | cons n new ih =>
      rw [List.cons_append, List.infix_cons_iff] at hinside
      rcases hinside with hbegins | hrest
      · obtain ⟨p, ps, rfl⟩ := List.exists_cons_of_ne_nil hpart
        have hhead : p = n := (List.cons_prefix_cons.mp hbegins).1
        exact absurd List.mem_cons_self (hhead ▸ hdisjoint n List.mem_cons_self)
      · exact ih (fun c hc => hdisjoint c (List.mem_cons_of_mem n hc)) hrest

theorem isPrefix_of_isPrefix_replaceAll (hdisjoint : ∀ c ∈ new, c ∉ part) (hnew : new ≠ [])
    {cs : List Char} (hbegins : part <+: replaceAll old new cs) : part <+: cs := by
  induction cs generalizing part with
  | nil => exact hbegins
  | cons c cs ih =>
      cases part with
      | nil => exact List.nil_prefix
      | cons p ps =>
          rw [replaceAll, replaceFrom] at hbegins
          split at hbegins
          · obtain ⟨n, ns, rfl⟩ := List.exists_cons_of_ne_nil hnew
            have hhead : p = n := (List.cons_prefix_cons.mp hbegins).1
            exact absurd List.mem_cons_self (hhead ▸ hdisjoint n List.mem_cons_self)
          · obtain ⟨hhead, htail⟩ := List.cons_prefix_cons.mp hbegins
            have hps : ps <+: cs :=
              ih (fun d hd hmem => hdisjoint d hd (List.mem_cons_of_mem p hmem)) htail
            exact List.cons_prefix_cons.mpr ⟨hhead, hps⟩

/-- Nothing new can be found outside the replacements. -/
theorem isInfix_of_isInfix_replaceFrom (hdisjoint : ∀ c ∈ new, c ∉ part) (hnew : new ≠ [])
    (hpart : part ≠ []) {skip : Nat} {cs : List Char}
    (hinside : part <:+: replaceFrom old new skip cs) : part <:+: cs := by
  induction cs generalizing skip with
  | nil => simpa [replaceFrom] using hinside
  | cons c cs ih =>
      cases skip with
      | succ skip => exact (ih hinside).trans (List.infix_cons List.infix_rfl)
      | zero =>
          rw [replaceFrom] at hinside
          split at hinside
          · have hrest := ih (isInfix_of_isInfix_append hdisjoint hpart hinside)
            exact hrest.trans (List.infix_cons List.infix_rfl)
          · rename_i hstart
            rcases List.infix_cons_iff.mp hinside with hbegins | hrest
            · have hall : part <+: replaceAll old new (c :: cs) := by
                simpa [replaceAll, replaceFrom, hstart] using hbegins
              exact (isPrefix_of_isPrefix_replaceAll hdisjoint hnew hall).isInfix
            · exact (ih hrest).trans (List.infix_cons List.infix_rfl)

/-- What has been replaced everywhere is not found any more. -/
theorem not_isInfix_replaceFrom (hdisjoint : ∀ c ∈ new, c ∉ old) (hnew : new ≠ [])
    (hold : old ≠ []) (skip : Nat) (cs : List Char) :
    ¬ old <:+: replaceFrom old new skip cs := by
  induction cs generalizing skip with
  | nil => simpa [replaceFrom] using hold
  | cons c cs ih =>
      cases skip with
      | succ skip => exact ih skip
      | zero =>
          intro hinside
          rw [replaceFrom] at hinside
          split at hinside
          · exact ih _ (isInfix_of_isInfix_append hdisjoint hold hinside)
          · rename_i hstart
            rcases List.infix_cons_iff.mp hinside with hbegins | hrest
            · have hall : old <+: replaceAll old new (c :: cs) := by
                simpa [replaceAll, replaceFrom, hstart] using hbegins
              have hsource := isPrefix_of_isPrefix_replaceAll hdisjoint hnew hall
              exact hstart (startsWith_iff.mpr hsource)
            · exact ih 0 hrest

end Replacement

end Text

namespace Secrets

/-- No active secret can be found in the text. -/
def HiddenIn (s : Secrets) (text : String) : Prop :=
  ∀ v ∈ s.values, ¬ v.toList <:+: text.toList

theorem not_mem_of_mem_mask {part : List Char} (hplain : '*' ∉ part) :
    ∀ c ∈ mask.toList, c ∉ part := by
  intro c hc
  have hstar : c = '*' := by simpa [mask] using hc
  rwa [hstar]

theorem isInfix_of_isInfix_maskAll {part : List Char} (hplain : '*' ∉ part) (hpart : part ≠ [])
    {secrets : List String} {cs : List Char} (hinside : part <:+: maskAll secrets cs) :
    part <:+: cs := by
  induction secrets generalizing cs with
  | nil => exact hinside
  | cons s rest ih =>
      have hmasked : part <:+: Text.replaceAll s.toList mask.toList cs := ih hinside
      exact Text.isInfix_of_isInfix_replaceFrom (not_mem_of_mem_mask hplain) (by decide) hpart
        hmasked

/-- A secret is found neither right after it has been masked nor after any later
masking. -/
theorem not_isInfix_maskAll {secrets : List String} (hnonempty : ∀ s ∈ secrets, s ≠ "")
    (hplain : ∀ s ∈ secrets, '*' ∉ s.toList) {s : String} (hs : s ∈ secrets) (cs : List Char) :
    ¬ s.toList <:+: maskAll secrets cs := by
  induction secrets generalizing cs with
  | nil => simp at hs
  | cons first rest ih =>
      have hne : s.toList ≠ [] := by simpa using hnonempty s hs
      rcases List.mem_cons.mp hs with rfl | hrest
      · intro hinside
        have hmasked : s.toList <:+: Text.replaceAll s.toList mask.toList cs :=
          isInfix_of_isInfix_maskAll (hplain s hs) hne hinside
        exact Text.not_isInfix_replaceFrom (not_mem_of_mem_mask (hplain s hs)) (by decide) hne 0 cs
          hmasked
      · exact ih (fun t ht => hnonempty t (List.mem_cons_of_mem first ht))
          (fun t ht => hplain t (List.mem_cons_of_mem first ht)) hrest _

theorem mem_maskingOrder {values : List String} {s : String} :
    s ∈ maskingOrder values ↔ s ∈ values ∧ s ≠ "" := by
  simp [maskingOrder]

/-- A masked text shows no active secret. -/
theorem hiddenIn_redact (s : Secrets) (hplain : ∀ v ∈ s.values, '*' ∉ v.toList)
    (message : String) : s.HiddenIn (s.redact message) := by
  intro v hv
  have hmem : v ∈ maskingOrder s.values := mem_maskingOrder.mpr ⟨hv, s.nonempty v hv⟩
  rw [redact, redactWith, String.toList_ofList]
  apply not_isInfix_maskAll _ _ hmem
  · exact fun t ht => (mem_maskingOrder.mp ht).2
  · exact fun t ht => hplain t (mem_maskingOrder.mp ht).1

end Secrets

end SourceSync
