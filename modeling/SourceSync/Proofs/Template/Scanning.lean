/-
How a template falls into segments. A variable is written as a dotted name in double braces, with
blanks around it. Two such texts never share a character, so the scan from the left finds all of
them: the variables among the segments are exactly the places where such a text stands, and the
segments together are the template.
-/
import SourceSync.Template

namespace SourceSync.Template

/-- A word of a name: a letter or an underscore, then letters, digits and underscores. -/
inductive IsWord : List Char → Prop where
  | intro {c : Char} {cs : List Char} (hfirst : isNameStart c = true)
      (hrest : ∀ d ∈ cs, isNameChar d = true) : IsWord (c :: cs)

/-- A name: words with a dot between neighbours. -/
inductive IsName : List Char → Prop where
  | word {w : List Char} (hw : IsWord w) : IsName w
  | dotted {w name : List Char} (hw : IsWord w) (hname : IsName name) : IsName (w ++ '.' :: name)

/-- A text in the form of a variable: a name between blanks, between double braces. -/
inductive IsVariable (name : List Char) : List Char → Prop where
  | intro {before behind : List Char} (hname : IsName name)
      (hbefore : ∀ c ∈ before, Text.isBlank c = true)
      (hbehind : ∀ c ∈ behind, Text.isBlank c = true) :
      IsVariable name (['\x7b', '\x7b'] ++ before ++ name ++ behind ++ ['\x7d', '\x7d'])

section Characters

variable {c : Char}

theorem isNameChar_of_isNameStart (hstart : isNameStart c = true) : isNameChar c = true := by
  simp only [isNameStart, isNameChar, Char.isAlphanum, Bool.or_eq_true] at hstart ⊢
  exact hstart.imp_left Or.inl

/-- The characters of names lie between `0` and `z`. -/
theorem toNat_of_isNameChar (hname : isNameChar c = true) : 48 ≤ c.toNat ∧ c.toNat ≤ 122 := by
  change (decide (65 ≤ c.val ∧ c.val ≤ 90) || (decide (97 ≤ c.val) && decide (c.val ≤ 122)) ||
    (decide (48 ≤ c.val) && decide (c.val ≤ 57)) || c == '_') = true at hname
  simp only [Bool.or_eq_true, Bool.and_eq_true, decide_eq_true_eq, beq_iff_eq,
    UInt32.le_iff_toNat_le] at hname
  change (((65 ≤ c.toNat ∧ c.toNat ≤ 90) ∨ (97 ≤ c.toNat ∧ c.toNat ≤ 122)) ∨
    (48 ≤ c.toNat ∧ c.toNat ≤ 57)) ∨ c = '_' at hname
  rcases hname with hletter | rfl
  · omega
  · decide

theorem isBlank_of_isNameChar (hname : isNameChar c = true) : Text.isBlank c = false := by
  have hrange := toNat_of_isNameChar hname
  simp only [Text.isBlank, Bool.or_eq_false_iff, Bool.and_eq_false_imp, decide_eq_true_eq,
    decide_eq_false_iff_not, beq_eq_false_iff_ne]
  omega

theorem ne_brace_of_isNameChar (hname : isNameChar c = true) : c ≠ '\x7b' := by
  rintro rfl
  exact absurd hname (by decide)

end Characters

section Names

variable {w name cs rest : List Char}

/-- One more character of a name makes a word longer. -/
theorem IsWord.concat (hw : IsWord w) {c : Char} (hc : isNameChar c = true) :
    IsWord (w ++ [c]) := by
  obtain ⟨hfirst, hrest⟩ := hw
  refine .intro hfirst ?_
  intro d hd
  rcases List.mem_append.mp hd with hd | hd
  · exact hrest d hd
  · exact List.mem_singleton.mp hd ▸ hc

/-- A name begins with a character of names, so with neither a blank nor a brace. -/
theorem IsName.exists_cons (hname : IsName name) :
    ∃ c cs, name = c :: cs ∧ isNameStart c = true := by
  cases hname with
  | word hw =>
      obtain ⟨hfirst, -⟩ := hw
      exact ⟨_, _, rfl, hfirst⟩
  | dotted hw _ =>
      obtain ⟨hfirst, -⟩ := hw
      exact ⟨_, _, rfl, hfirst⟩

theorem IsWord.all (hw : IsWord w) : ∀ c ∈ w, isNameChar c = true := by
  obtain ⟨hfirst, hrest⟩ := hw
  intro c hc
  rcases List.mem_cons.mp hc with rfl | hc
  · exact isNameChar_of_isNameStart hfirst
  · exact hrest c hc

theorem IsName.brace_not_mem (hname : IsName name) : '\x7b' ∉ name := by
  induction hname with
  | word hw => exact fun hbrace => ne_brace_of_isNameChar (hw.all _ hbrace) rfl
  | dotted hw _ ih =>
      intro hbrace
      rcases List.mem_append.mp hbrace with hbrace | hbrace
      · exact ne_brace_of_isNameChar (hw.all _ hbrace) rfl
      · rcases List.mem_cons.mp hbrace with hdot | hbrace
        · exact absurd hdot (by decide)
        · exact ih hbrace

theorem dottedName_isPrefix (fresh : Bool) (cs : List Char) : dottedName fresh cs <+: cs := by
  induction cs generalizing fresh with
  | nil => cases fresh <;> exact List.nil_prefix
  | cons c cs ih =>
      cases fresh with
      | true =>
          rw [dottedName]
          split
          · exact List.cons_prefix_cons.mpr ⟨rfl, ih false⟩
          · exact List.nil_prefix
      | false =>
          rw [dottedName]
          split
          · exact List.cons_prefix_cons.mpr ⟨rfl, ih false⟩
          · split
            · next hdot =>
                split
                · exact List.nil_prefix
                · exact List.cons_prefix_cons.mpr ⟨hdot.symm, ih true⟩
            · exact List.nil_prefix

/-- What is taken for a name is nothing or a name; behind a word it makes a name with it. -/
theorem isName_dottedName (cs : List Char) :
    (dottedName true cs = [] ∨ IsName (dottedName true cs)) ∧
      ∀ w, IsWord w → IsName (w ++ dottedName false cs) := by
  induction cs with
  | nil =>
      refine ⟨Or.inl rfl, ?_⟩
      intro w hw
      rw [dottedName, List.append_nil]
      exact .word hw
  | cons c cs ih =>
      obtain ⟨hfresh, hwithin⟩ := ih
      constructor
      · rw [dottedName]
        split
        · next hc => exact Or.inr (hwithin [c] (.intro hc (fun _ hd => absurd hd List.not_mem_nil)))
        · exact Or.inl rfl
      · intro w hw
        rw [dottedName]
        split
        · next hc =>
            have hlonger := hwithin _ (hw.concat hc)
            rwa [List.append_assoc, List.singleton_append] at hlonger
        · split
          · next hdot =>
              split
              · rw [List.append_nil]
                exact .word hw
              · next hne => exact .dotted hw (hfresh.resolve_left hne)
          · rw [List.append_nil]
            exact .word hw

/-- A rest that cannot make a name longer. -/
def Ends (rest : List Char) : Prop :=
  ∀ c ∈ rest.head?, isNameChar c = false ∧ c ≠ '.'

theorem dottedName_of_ends (hends : Ends rest) : dottedName false rest = [] := by
  cases rest with
  | nil => rfl
  | cons c rest =>
      obtain ⟨hc, hdot⟩ := hends c rfl
      rw [dottedName, if_neg (Bool.eq_false_iff.mp hc), if_neg hdot]

theorem dottedName_chars (hcs : ∀ d ∈ cs, isNameChar d = true) (rest : List Char) :
    dottedName false (cs ++ rest) = cs ++ dottedName false rest := by
  induction cs with
  | nil => rfl
  | cons c cs ih =>
      rw [List.cons_append, dottedName, if_pos (hcs c List.mem_cons_self),
        ih (fun d hd => hcs d (List.mem_cons_of_mem c hd)), List.cons_append]

theorem dottedName_word (hw : IsWord w) (rest : List Char) :
    dottedName true (w ++ rest) = w ++ dottedName false rest := by
  obtain ⟨hfirst, hrest⟩ := hw
  rw [List.cons_append, dottedName, if_pos hfirst, dottedName_chars hrest, List.cons_append]

/-- A name is taken as a whole where nothing behind it makes it longer. -/
theorem dottedName_name (hname : IsName name) (hends : Ends rest) :
    dottedName true (name ++ rest) = name := by
  induction hname with
  | word hw => rw [dottedName_word hw, dottedName_of_ends hends, List.append_nil]
  | @dotted w name hw hname ih =>
      obtain ⟨c, cs, rfl, -⟩ := hname.exists_cons
      rw [List.append_assoc, dottedName_word hw, List.cons_append, dottedName,
        if_neg (by decide), if_pos rfl, ih]

end Names

section Variables

variable {name written : List Char}

/-- Behind its two opening braces a variable has no third one. -/
theorem IsVariable.exists_body (hvariable : IsVariable name written) :
    ∃ body, written = '\x7b' :: '\x7b' :: body ∧ '\x7b' ∉ body ∧ body ≠ [] := by
  obtain @⟨before, behind, hname, hbefore, hbehind⟩ := hvariable
  have hopen : Text.isBlank '\x7b' = false := by decide
  refine ⟨before ++ name ++ behind ++ ['\x7d', '\x7d'], by simp, ?_, by simp⟩
  simp only [List.mem_append, not_or]
  refine ⟨⟨⟨?_, hname.brace_not_mem⟩, ?_⟩, by decide⟩
  · intro hbrace
    exact absurd (hbefore _ hbrace) (Bool.eq_false_iff.mp hopen)
  · intro hbrace
    exact absurd (hbehind _ hbrace) (Bool.eq_false_iff.mp hopen)

/-- Blanks are skipped up to the first other character. -/
theorem takeWhile_isBlank {blanks : List Char} {c : Char}
    (hblanks : ∀ b ∈ blanks, Text.isBlank b = true) (hc : Text.isBlank c = false)
    (rest : List Char) :
    (blanks ++ c :: rest).takeWhile Text.isBlank = blanks ∧
      (blanks ++ c :: rest).dropWhile Text.isBlank = c :: rest := by
  have hstop : ¬ Text.isBlank c = true := Bool.eq_false_iff.mp hc
  rw [List.takeWhile_append_of_pos hblanks, List.dropWhile_append_of_pos hblanks,
    List.takeWhile_cons, if_neg hstop, List.dropWhile_cons, if_neg hstop, List.append_nil]
  exact ⟨rfl, rfl⟩

/-- Neither the blanks behind a name nor the braces behind these make it longer. -/
theorem ends_of_blanks {blanks : List Char} (hblanks : ∀ c ∈ blanks, Text.isBlank c = true)
    (rest : List Char) : Ends (blanks ++ '\x7d' :: '\x7d' :: rest) := by
  intro c hc
  cases blanks with
  | nil =>
      cases hc
      decide
  | cons b blanks =>
      have hb := hblanks b List.mem_cons_self
      cases hc
      constructor
      · rw [Bool.eq_false_iff]
        intro hname
        exact absurd hb (Bool.eq_false_iff.mp (isBlank_of_isNameChar hname))
      · rintro rfl
        exact absurd hb (by decide)

theorem isVariable_of_variableAt? {cs : List Char}
    (hfound : variableAt? cs = some (name, written)) :
    IsVariable name written ∧ written <+: cs := by
  have hblanks (ds : List Char) : ∀ c ∈ ds.takeWhile Text.isBlank, Text.isBlank c = true :=
    List.all_eq_true.mp List.all_takeWhile
  have hparted (ds : List Char) :
      ds.takeWhile Text.isBlank ++ ds.dropWhile Text.isBlank = ds :=
    List.takeWhile_append_dropWhile
  unfold variableAt? at hfound
  split at hfound
  · next rest =>
      have hnamed := (isName_dottedName (rest.dropWhile Text.isBlank)).1
      obtain ⟨afterName, hafterName⟩ := dottedName_isPrefix true (rest.dropWhile Text.isBlank)
      dsimp only at hfound
      generalize dottedName true (rest.dropWhile Text.isBlank) = found at *
      rw [← hafterName, List.drop_left] at hfound
      split at hfound
      · next first more tail hclosed =>
          have hname := hnamed.resolve_left (List.cons_ne_nil first more)
          cases hfound
          refine ⟨.intro hname (hblanks rest) (hblanks afterName), tail, ?_⟩
          simp only [List.append_assoc, List.cons_append, List.nil_append, List.cons.injEq,
            true_and] at hafterName ⊢
          rw [← hclosed, hparted afterName, hafterName, hparted rest]
      · cases hfound
  · cases hfound

theorem variableAt?_append (hvariable : IsVariable name written) (rest : List Char) :
    variableAt? (written ++ rest) = some (name, written) := by
  obtain @⟨before, behind, hname, hbefore, hbehind⟩ := hvariable
  obtain ⟨first, more, rfl, hfirst⟩ := hname.exists_cons
  have hplain := isBlank_of_isNameChar (isNameChar_of_isNameStart hfirst)
  have hclose : Text.isBlank '\x7d' = false := by decide
  have hfront :=
    takeWhile_isBlank hbefore hplain (more ++ (behind ++ '\x7d' :: '\x7d' :: rest))
  have hback := takeWhile_isBlank hbehind hclose ('\x7d' :: rest)
  have hnamed := dottedName_name hname (ends_of_blanks hbehind rest)
  have hparts : ['\x7b', '\x7b'] ++ before ++ first :: more ++ behind ++ ['\x7d', '\x7d'] ++ rest =
      '\x7b' :: '\x7b' ::
        (before ++ first :: (more ++ (behind ++ '\x7d' :: '\x7d' :: rest))) := by
    simp
  rw [hparts, variableAt?, hfront.1, hfront.2, ← List.cons_append, hnamed, List.drop_left, hback.1,
    hback.2]
  rfl

/-- The scan finds a variable at the front of a text exactly if the text begins with one. -/
theorem variableAt?_eq_some_iff {cs : List Char} :
    variableAt? cs = some (name, written) ↔ IsVariable name written ∧ written <+: cs := by
  constructor
  · exact isVariable_of_variableAt?
  · rintro ⟨hvariable, rest, rfl⟩
    exact variableAt?_append hvariable rest

/-- At one place of a text there is one variable at most. -/
theorem IsVariable.unique {other text rest rest' : List Char} (hvariable : IsVariable name written)
    (hother : IsVariable other text) (hsame : written ++ rest = text ++ rest') :
    name = other ∧ written = text := by
  have hfound := variableAt?_append hvariable rest
  rw [hsame, variableAt?_append hother rest'] at hfound
  cases hfound
  exact ⟨rfl, rfl⟩

/-- Of two variables in a text the one does not begin before the other one has ended. -/
theorem IsVariable.ends_before {other text rest rest' gap : List Char}
    (hvariable : IsVariable name written) (hother : IsVariable other text)
    (hplaces : written ++ rest = gap ++ (text ++ rest')) : gap = [] ∨ written <+: gap := by
  by_cases hgap : written.length ≤ gap.length
  · exact Or.inr (List.prefix_of_prefix_length_le ⟨rest, rfl⟩ ⟨_, hplaces.symm⟩ hgap)
  have hshort : gap.length < written.length := Nat.lt_of_not_le hgap
  obtain ⟨between, rfl⟩ : gap <+: written :=
    List.prefix_of_prefix_length_le ⟨_, hplaces.symm⟩ ⟨rest, rfl⟩ (Nat.le_of_lt hshort)
  rw [List.append_assoc] at hplaces
  have hbetween := List.append_cancel_left hplaces
  obtain ⟨body, hwritten, hbody, hne⟩ := hvariable.exists_body
  obtain ⟨inner, rfl, -, -⟩ := hother.exists_body
  cases between with
  | nil => simp at hshort
  | cons c between =>
      obtain ⟨rfl, hafter⟩ := List.cons.inj hbetween
      -- this opening brace of the other variable would be a third one of the first
      match gap, hwritten with
      | [], _ => exact Or.inl rfl
      | [_], hwritten =>
          obtain ⟨-, hwritten⟩ := List.cons.inj hwritten
          obtain ⟨-, rfl⟩ := List.cons.inj hwritten
          obtain ⟨d, ds, rfl⟩ := List.exists_cons_of_ne_nil hne
          obtain ⟨rfl, -⟩ := List.cons.inj hafter
          exact absurd List.mem_cons_self hbody
      | _ :: _ :: gap, hwritten =>
          obtain ⟨-, hwritten⟩ := List.cons.inj hwritten
          obtain ⟨-, rfl⟩ := List.cons.inj hwritten
          exact absurd (List.mem_append_right gap List.mem_cons_self) hbody

end Variables

section Segments

variable {name written cs before after : List Char} {segs : List Segment}

def Segment.source : Segment → List Char
  | .literal c => [c]
  | .variable _ written => written

def sourceOf (segs : List Segment) : List Char :=
  segs.flatMap Segment.source

theorem sourceOf_cons (s : Segment) (segs : List Segment) :
    sourceOf (s :: segs) = s.source ++ sourceOf segs :=
  List.flatMap_cons

theorem sourceOf_append (front back : List Segment) :
    sourceOf (front ++ back) = sourceOf front ++ sourceOf back :=
  List.flatMap_append

/-- How a text is cut: a variable where one stands, and a single character where none does. -/
inductive Cut : List Char → List Segment → Prop where
  | nil : Cut [] []
  | literal {c : Char} {cs : List Char} {segs : List Segment}
      (hnone : ∀ name written, IsVariable name written → ¬ written <+: c :: cs)
      (hrest : Cut cs segs) : Cut (c :: cs) (.literal c :: segs)
  | found {name written cs : List Char} {segs : List Segment}
      (hvariable : IsVariable name written) (hrest : Cut cs segs) :
      Cut (written ++ cs) (.variable name written :: segs)

/-- Characters to be skipped are dropped. -/
theorem segmentsFrom_eq_drop (skip : Nat) (cs : List Char) :
    segmentsFrom skip cs = segmentsFrom 0 (cs.drop skip) := by
  induction cs generalizing skip with
  | nil => cases skip <;> rfl
  | cons c cs ih =>
      cases skip with
      | zero => rfl
      | succ skip =>
          rw [segmentsFrom, List.drop_succ_cons]
          exact ih skip

/-- The scan cuts a text so. -/
theorem cut_segmentsFrom (cs : List Char) : Cut cs (segmentsFrom 0 cs) := by
  -- a variable takes several characters at once, so the induction is on the length
  induction hlength : cs.length using Nat.strongRecOn generalizing cs with
  | _ n ih =>
      subst hlength
      cases cs with
      | nil => exact .nil
      | cons c cs =>
          rw [segmentsFrom]
          split
          · next name written hfound =>
              obtain ⟨hvariable, rest, hrest⟩ := variableAt?_eq_some_iff.mp hfound
              obtain ⟨body, rfl, -, -⟩ := hvariable.exists_body
              simp only [List.cons_append, List.cons.injEq] at hrest
              obtain ⟨rfl, rfl⟩ := hrest
              have hcut := ih rest.length (by simp; omega) rest rfl
              rw [segmentsFrom_eq_drop, List.length_cons, Nat.add_sub_cancel, ← List.cons_append,
                List.drop_left]
              exact .found hvariable hcut
          · next hnone =>
              refine .literal ?_ (ih cs.length (Nat.lt_succ_self _) cs rfl)
              intro name written hvariable hprefix
              have hfound := variableAt?_eq_some_iff.mpr ⟨hvariable, hprefix⟩
              rw [hnone] at hfound
              cases hfound

theorem Cut.sourceOf_eq (hcut : Cut cs segs) : sourceOf segs = cs := by
  induction hcut with
  | nil => rfl
  | literal _ _ ih => rw [sourceOf_cons, ih, Segment.source, List.singleton_append]
  | found _ _ ih => rw [sourceOf_cons, ih, Segment.source]

theorem Cut.isVariable (hcut : Cut cs segs) (hmem : .variable name written ∈ segs) :
    IsVariable name written := by
  induction hcut with
  | nil => cases hmem
  | literal _ _ ih =>
      rcases List.mem_cons.mp hmem with heq | hmem
      · cases heq
      · exact ih hmem
  | found hvariable _ ih =>
      rcases List.mem_cons.mp hmem with heq | hmem
      · cases heq
        exact hvariable
      · exact ih hmem

/-- A variable stands in a text, between the two parts beside it. -/
structure Occurs (name before written after cs : List Char) : Prop where
  form : IsVariable name written
  parts : cs = before ++ (written ++ after)

/-- Every variable among the segments stands in the text, between what the segments before it and
behind it stand for. -/
theorem Cut.occurs {front back : List Segment}
    (hcut : Cut cs (front ++ .variable name written :: back)) :
    Occurs name (sourceOf front) written (sourceOf back) cs where
  form := hcut.isVariable (List.mem_append_right _ List.mem_cons_self)
  parts := by rw [← hcut.sourceOf_eq, sourceOf_append, sourceOf_cons, Segment.source]

/-- Every variable that stands in the text is among the segments, in its place. -/
theorem Cut.exists_segment (hcut : Cut cs segs) (hoccurs : Occurs name before written after cs) :
    ∃ front back, segs = front ++ .variable name written :: back ∧ sourceOf front = before ∧
      sourceOf back = after := by
  obtain ⟨hform, hparts⟩ := hoccurs
  induction hcut generalizing before with
  | nil =>
      obtain ⟨body, rfl, -, -⟩ := hform.exists_body
      simp at hparts
  | @literal c cs segs hnone hrest ih =>
      cases before with
      | nil => exact absurd ⟨after, hparts.symm⟩ (hnone name written hform)
      | cons b before =>
          obtain ⟨rfl, htail⟩ := List.cons.inj hparts
          obtain ⟨front, back, rfl, rfl, hback⟩ := ih htail
          exact ⟨.literal c :: front, back, rfl, rfl, hback⟩
  | @found other text cs segs hother hrest ih =>
      rcases hother.ends_before hform hparts with rfl | ⟨gap, rfl⟩
      · obtain ⟨rfl, rfl⟩ := hother.unique hform hparts
        have hafter := List.append_cancel_left hparts
        exact ⟨[], segs, rfl, rfl, hrest.sourceOf_eq.trans hafter⟩
      · rw [List.append_assoc] at hparts
        obtain ⟨front, back, rfl, rfl, hback⟩ := ih (List.append_cancel_left hparts)
        exact ⟨.variable other text :: front, back, rfl, rfl, hback⟩

/-- The variables among the segments of a template are those that stand in it. -/
theorem exists_segment_iff_occurs {template : String} :
    (∃ front back, segments template = front ++ .variable name written :: back ∧
      sourceOf front = before ∧ sourceOf back = after) ↔
      Occurs name before written after template.toList := by
  have hcut : Cut template.toList (segments template) := cut_segmentsFrom template.toList
  constructor
  · rintro ⟨front, back, hsegs, rfl, rfl⟩
    rw [hsegs] at hcut
    exact hcut.occurs
  · exact hcut.exists_segment

/-- Two variables in a text are the same one, or one has ended before the other begins. -/
theorem Occurs.apart {name₁ before₁ written₁ after₁ name₂ before₂ written₂ after₂ : List Char}
    (h₁ : Occurs name₁ before₁ written₁ after₁ cs) (h₂ : Occurs name₂ before₂ written₂ after₂ cs) :
    (name₁ = name₂ ∧ before₁ = before₂ ∧ written₁ = written₂) ∨
      before₁ ++ written₁ <+: before₂ ∨ before₂ ++ written₂ <+: before₁ := by
  obtain ⟨hform₁, hparts₁⟩ := h₁
  obtain ⟨hform₂, hparts₂⟩ := h₂
  have hsame := hparts₁.symm.trans hparts₂
  rcases List.prefix_or_prefix_of_prefix ⟨_, hsame⟩ (List.prefix_append before₂ _) with
    ⟨gap, rfl⟩ | ⟨gap, rfl⟩
  · rw [List.append_assoc] at hsame
    have hplaces := List.append_cancel_left hsame
    rcases hform₁.ends_before hform₂ hplaces with rfl | hgap
    · obtain ⟨rfl, rfl⟩ := hform₁.unique hform₂ hplaces
      exact Or.inl ⟨rfl, (List.append_nil before₁).symm, rfl⟩
    · exact Or.inr (Or.inl ((List.prefix_append_right_inj before₁).mpr hgap))
  · rw [List.append_assoc] at hsame
    have hplaces := (List.append_cancel_left hsame).symm
    rcases hform₂.ends_before hform₁ hplaces with rfl | hgap
    · obtain ⟨rfl, rfl⟩ := hform₂.unique hform₁ hplaces
      exact Or.inl ⟨rfl, List.append_nil before₂, rfl⟩
    · exact Or.inr (Or.inr ((List.prefix_append_right_inj before₂).mpr hgap))

end Segments

end SourceSync.Template
