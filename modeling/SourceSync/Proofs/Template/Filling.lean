/-
What rendering makes of a template. It succeeds exactly if every variable has a value, and then
the text is that of the segments, each variable filled in with the text of its value; a value is
never scanned, so one that looks like a variable stays as it is. Otherwise the fault names the
variables without a value, in the order in which they stand in the template.
-/
import Mathlib.Tactic.ByContra
import SourceSync.Proofs.Template.Scanning

namespace SourceSync.Template

open Json

section Rendering

variable {template : String} {c : Context} {segs : List Segment} {out : List Char}

/-- The text that segments are filled in to: literals as they are, and each variable as the text
of its value. -/
inductive Context.Fills (c : Context) : List Segment → List Char → Prop where
  | nil : Fills c [] []
  | literal {segs : List Segment} {out : List Char} (ch : Char) (hrest : Fills c segs out) :
      Fills c (.literal ch :: segs) (ch :: out)
  | value {name written : List Char} {segs : List Segment} {out : List Char} {v : Value}
      (hvalue : c.get? (String.ofList name) = some v) (hrest : Fills c segs out) :
      Fills c (.variable name written :: segs) ((valueText v).toList ++ out)

/-- The text that rendering makes of segments. -/
def Context.textOf (c : Context) (segs : List Segment) : String :=
  String.join (segs.map (fun s => (c.segmentText? s).getD ""))

theorem Context.toList_textOf_literal (c : Context) (ch : Char) (segs : List Segment) :
    (c.textOf (.literal ch :: segs)).toList = ch :: (c.textOf segs).toList := by
  simp [textOf, segmentText?]

theorem Context.toList_textOf_value {name written : List Char} {v : Value}
    (hvalue : c.get? (String.ofList name) = some v) (segs : List Segment) :
    (c.textOf (.variable name written :: segs)).toList =
      (valueText v).toList ++ (c.textOf segs).toList := by
  simp [textOf, segmentText?, hvalue]

theorem mem_variableNames_iff {name : String} :
    name ∈ variableNames template ↔
      ∃ chars written, .variable chars written ∈ segments template ∧
        String.ofList chars = name := by
  rw [variableNames, List.mem_filterMap]
  constructor
  · rintro ⟨s, hs, hname⟩
    rcases s with ch | ⟨chars, written⟩
    · cases hname
    · exact ⟨chars, written, hs, Option.some.inj hname⟩
  · rintro ⟨chars, written, hs, rfl⟩
    exact ⟨_, hs, rfl⟩

theorem undefined_eq_nil_iff :
    c.undefined template = [] ↔ ∀ name ∈ variableNames template, ∃ v, c.get? name = some v := by
  rw [Context.undefined, List.filter_eq_nil_iff]
  apply forall₂_congr
  intro name _
  rw [Option.isNone_iff_eq_none, ← ne_eq, Option.ne_none_iff_exists']

theorem render_of_defined (hdefined : c.undefined template = []) :
    render template c = .ok (c.textOf (segments template)) := by
  rw [render, hdefined]
  rfl

theorem render_of_undefined (hundefined : c.undefined template ≠ []) :
    render template c = .error (.undefinedVariable (", ".intercalate (c.undefined template))) := by
  rw [render]
  split
  · next hnone => exact absurd hnone hundefined
  · rfl

/-- Segments whose variables have values are filled in to the rendered text. -/
theorem fills_textOf
    (hdefined : ∀ name written, .variable name written ∈ segs →
      ∃ v, c.get? (String.ofList name) = some v) :
    c.Fills segs (c.textOf segs).toList := by
  induction segs with
  | nil => exact .nil
  | cons s segs ih =>
      have hrest := ih (fun name written hmem =>
        hdefined name written (List.mem_cons_of_mem s hmem))
      rcases s with ch | ⟨name, written⟩
      · rw [Context.toList_textOf_literal]
        exact .literal ch hrest
      · obtain ⟨v, hvalue⟩ := hdefined name written List.mem_cons_self
        rw [Context.toList_textOf_value hvalue]
        exact .value hvalue hrest

/-- Segments are filled in to nothing else. -/
theorem Context.Fills.eq_textOf (hfills : c.Fills segs out) : out = (c.textOf segs).toList := by
  induction hfills with
  | nil => rfl
  | literal ch _ ih => rw [toList_textOf_literal, ← ih]
  | value hvalue _ ih => rw [toList_textOf_value hvalue, ← ih]

/-- Segments are filled in only if their variables have values. -/
theorem Context.Fills.defined (hfills : c.Fills segs out) {name written : List Char}
    (hmem : .variable name written ∈ segs) : ∃ v, c.get? (String.ofList name) = some v := by
  induction hfills with
  | nil => cases hmem
  | literal _ _ ih =>
      rcases List.mem_cons.mp hmem with heq | hmem
      · cases heq
      · exact ih hmem
  | value hvalue _ ih =>
      rcases List.mem_cons.mp hmem with heq | hmem
      · cases heq
        exact ⟨_, hvalue⟩
      · exact ih hmem

theorem render_eq_ok_iff {text : String} :
    render template c = .ok text ↔ c.Fills (segments template) text.toList := by
  constructor
  · intro hrender
    by_cases hundefined : c.undefined template = []
    · rw [render_of_defined hundefined] at hrender
      cases hrender
      apply fills_textOf
      intro name written hmem
      exact undefined_eq_nil_iff.mp hundefined _
        (mem_variableNames_iff.mpr ⟨name, written, hmem, rfl⟩)
    · rw [render_of_undefined hundefined] at hrender
      cases hrender
  · intro hfills
    have hdefined : c.undefined template = [] := by
      rw [undefined_eq_nil_iff]
      intro name hname
      obtain ⟨chars, written, hmem, rfl⟩ := mem_variableNames_iff.mp hname
      exact hfills.defined hmem
    rw [render_of_defined hdefined, ← String.toList_inj.mp hfills.eq_textOf]

theorem render_eq_error_iff {f : Fault} :
    render template c = .error f ↔ c.undefined template ≠ [] ∧
      f = .undefinedVariable (", ".intercalate (c.undefined template)) := by
  by_cases hundefined : c.undefined template = []
  · rw [render_of_defined hundefined]
    simp [hundefined]
  · rw [render_of_undefined hundefined]
    simp [hundefined, eq_comm]

/-- A template is the text of its segments, and the variables among these are exactly the texts
in the form of a variable that stand in it, no two of which share a character. What is asked
about its variables and what rendering makes of it follow the same segments: it is rendered if
all variables have values, to the text in which each is filled in with its value and all else is
kept, and it fails with the names of those that have none if there are any. -/
theorem render_fills_occurrences (template : String) (c : Context) :
    sourceOf (segments template) = template.toList ∧
    (∀ name before written after,
      (∃ front back, segments template = front ++ .variable name written :: back ∧
        sourceOf front = before ∧ sourceOf back = after) ↔
        Occurs name before written after template.toList) ∧
    (∀ name₁ before₁ written₁ after₁ name₂ before₂ written₂ after₂,
      Occurs name₁ before₁ written₁ after₁ template.toList →
      Occurs name₂ before₂ written₂ after₂ template.toList →
      (name₁ = name₂ ∧ before₁ = before₂ ∧ written₁ = written₂) ∨
        before₁ ++ written₁ <+: before₂ ∨ before₂ ++ written₂ <+: before₁) ∧
    variableNames template = (segments template).filterMap Segment.name? ∧
    (hasVariables template = true ↔ variableNames template ≠ []) ∧
    ((∃ text, render template c = .ok text) ↔
      ∀ name ∈ variableNames template, ∃ v, c.get? name = some v) ∧
    (∀ text, render template c = .ok text ↔ c.Fills (segments template) text.toList) ∧
    ∀ f, render template c = .error f ↔
      let missing := (variableNames template).filter (fun name => (c.get? name).isNone)
      missing ≠ [] ∧ f = .undefinedVariable (", ".intercalate missing) := by
  refine ⟨(cut_segmentsFrom template.toList).sourceOf_eq, ?_, ?_, rfl, ?_, ?_, ?_, ?_⟩
  · intro name before written after
    exact exists_segment_iff_occurs
  · intro _ _ _ _ _ _ _ _ hfirst hsecond
    exact hfirst.apart hsecond
  · simp [hasVariables]
  · rw [← undefined_eq_nil_iff]
    constructor
    · rintro ⟨text, hrender⟩
      by_contra hundefined
      rw [render_of_undefined hundefined] at hrender
      cases hrender
    · intro hdefined
      exact ⟨_, render_of_defined hdefined⟩
  · intro text
    exact render_eq_ok_iff
  · intro f
    exact render_eq_error_iff

end Rendering

namespace FillingExample

/-- Two variables side by side, in braces of their own. -/
def template : String := "\x7b\x7b\x7b config.a \x7d\x7d\x7b\x7bstate.n\x7d\x7d\x7d"

/-- A context in which the value of the first variable looks like the second one. -/
def context : Context :=
  ⟨.object [("a", .string "\x7b\x7b state.n \x7d\x7d")], .object [("n", Value.nat 7)]⟩

def first : Segment := .variable "config.a".toList "\x7b\x7b config.a \x7d\x7d".toList

def second : Segment := .variable "state.n".toList "\x7b\x7bstate.n\x7d\x7d".toList

theorem segments_template :
    segments template = [.literal '\x7b', first, second, .literal '\x7d'] := by
  decide +kernel

end FillingExample

open FillingExample in
/-- The first variable ends where the second one begins, and its value is not rendered again. -/
theorem render_fills_occurrences_once :
    Occurs "config.a".toList ['\x7b'] "\x7b\x7b config.a \x7d\x7d".toList
      "\x7b\x7bstate.n\x7d\x7d\x7d".toList template.toList ∧
    Occurs "state.n".toList "\x7b\x7b\x7b config.a \x7d\x7d".toList
      "\x7b\x7bstate.n\x7d\x7d".toList ['\x7d'] template.toList ∧
    ['\x7b'] ++ "\x7b\x7b config.a \x7d\x7d".toList <+:
      "\x7b\x7b\x7b config.a \x7d\x7d".toList ∧
    render template context = .ok "\x7b\x7b\x7b state.n \x7d\x7d7\x7d" := by
  obtain ⟨-, hoccurs, hapart, -, -, -, hrender, -⟩ := render_fills_occurrences template context
  have hfirst := (hoccurs _ _ _ _).mp
    ⟨[.literal '\x7b'], [second, .literal '\x7d'], segments_template, rfl, rfl⟩
  have hsecond := (hoccurs _ _ _ _).mp
    ⟨[.literal '\x7b', first], [.literal '\x7d'], segments_template, rfl, rfl⟩
  refine ⟨hfirst, hsecond, ?_, ?_⟩
  · rcases hapart _ _ _ _ _ _ _ _ hfirst hsecond with ⟨hname, -, -⟩ | hbehind | hbefore
    · exact absurd hname (by decide)
    · exact hbehind
    · exact absurd hbefore (by decide)
  · rw [hrender, segments_template]
    exact .literal _ (.value (v := .string "\x7b\x7b state.n \x7d\x7d") rfl
      (.value (v := Value.nat 7) rfl (.literal _ .nil)))

end SourceSync.Template
