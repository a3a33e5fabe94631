/-
Parameters with variables that have no value. A parameter whose template reads something below the
root of the state that is not there yet waits: it is left out, whatever else its template reads.
The first parameter that does not wait and has a variable without a value is the fault of all of
them. So a variable of the configuration without a value is a fault under every state, unless its
template reads the state as well; then the fault stays hidden until that part of the state is
there.
-/
import SourceSync.Proofs.Connector.Isolation
import SourceSync.Proofs.Template.Filling

namespace SourceSync.Template

open Json ConnectorDefinition

section Parameters

variable {params : Table String} {p : String × String} {c : Context} {f : Fault}
  {query : List (String × String)}

theorem waitsOnState_iff {template : String} :
    c.waitsOnState template = true ↔
      ∃ name ∈ variableNames template, readsState name = true ∧ c.get? name = none := by
  simp only [Context.waitsOnState, List.any_eq_true, Bool.and_eq_true, Option.isNone_iff_eq_none]

/-- A parameter that cannot be rendered: it does not wait, and it has variables without a value. -/
structure Context.Blocks (c : Context) (p : String × String) : Prop where
  ready : c.waitsOnState p.2 = false
  lacking : c.undefined p.2 ≠ []

/-- The fault of a template: it names all its variables without a value. -/
def Context.lackOf (c : Context) (template : String) : Fault :=
  .undefinedVariable (", ".intercalate (c.undefined template))

theorem paramPairs_of_blocks (hblocks : c.Blocks p) : paramPairs c p = .error (c.lackOf p.2) := by
  rw [paramPairs, if_neg (Bool.eq_false_iff.mp hblocks.ready), render_of_undefined hblocks.lacking]
  rfl

theorem exists_paramPairs (hblocks : ¬ c.Blocks p) : ∃ pairs, paramPairs c p = .ok pairs := by
  rw [paramPairs]
  by_cases hwaits : c.waitsOnState p.2 = true
  · rw [if_pos hwaits]
    exact ⟨_, rfl⟩
  · have hdefined : c.undefined p.2 = [] := by
      by_contra hlacking
      exact hblocks ⟨eq_false_of_ne_true hwaits, hlacking⟩
    rw [if_neg hwaits, render_of_defined hdefined]
    exact ⟨_, rfl⟩

/-- The fault of parameters is that of the first one that cannot be rendered. -/
theorem renderParams_eq_error_iff :
    renderParams params c = .error f ↔ ∃ front p back, params = front ++ p :: back ∧
      (∀ q ∈ front, ¬ c.Blocks q) ∧ c.Blocks p ∧ f = c.lackOf p.2 := by
  constructor
  · intro hfails
    induction params with
    | nil => cases hfails
    | cons p rest ih =>
        rw [renderParams_cons] at hfails
        by_cases hblocks : c.Blocks p
        · rw [paramPairs_of_blocks hblocks] at hfails
          cases hfails
          exact ⟨[], p, rest, rfl, fun q hq => absurd hq List.not_mem_nil, hblocks, rfl⟩
        · obtain ⟨pairs, hpairs⟩ := exists_paramPairs hblocks
          rw [bind_of_ok hpairs] at hfails
          rcases cases_of_bind_error hfails with hrest | ⟨more, -, hmore⟩
          · obtain ⟨front, q, back, rfl, hfront, hq, hf⟩ := ih hrest
            refine ⟨p :: front, q, back, rfl, ?_, hq, hf⟩
            exact List.forall_mem_cons.mpr ⟨hblocks, hfront⟩
          · cases hmore
  · rintro ⟨front, p, back, rfl, hfront, hblocks, rfl⟩
    induction front with
    | nil =>
        rw [List.nil_append, renderParams_cons, paramPairs_of_blocks hblocks]
        rfl
    | cons q front ih =>
        obtain ⟨hq, hfront⟩ := List.forall_mem_cons.mp hfront
        obtain ⟨pairs, hpairs⟩ := exists_paramPairs hq
        rw [List.cons_append, renderParams_cons, hpairs, ih hfront]
        rfl

theorem not_blocks_of_renderParams (hquery : renderParams params c = .ok query) :
    ∀ p ∈ params, ¬ c.Blocks p := by
  induction params generalizing query with
  | nil => exact fun p hp => absurd hp List.not_mem_nil
  | cons p rest ih =>
      rw [renderParams_cons] at hquery
      obtain ⟨pairs, hpairs, hquery⟩ := exists_of_bind_ok hquery
      obtain ⟨more, hmore, -⟩ := exists_of_bind_ok hquery
      refine List.forall_mem_cons.mpr ⟨?_, ih hmore⟩
      intro hblocks
      rw [paramPairs_of_blocks hblocks] at hpairs
      cases hpairs

/-- Parameters fail exactly if one of them cannot be rendered. -/
theorem exists_error_iff_blocks :
    (∃ names, renderParams params c = .error (.undefinedVariable names)) ↔
      ∃ p ∈ params, c.Blocks p := by
  constructor
  · rintro ⟨names, hfails⟩
    obtain ⟨front, p, back, rfl, -, hblocks, -⟩ := renderParams_eq_error_iff.mp hfails
    exact ⟨p, List.mem_append_right _ List.mem_cons_self, hblocks⟩
  · rintro ⟨p, hp, hblocks⟩
    cases hresult : renderParams params c with
    | ok query => exact absurd hblocks (not_blocks_of_renderParams hresult p hp)
    | error f =>
        obtain ⟨front, q, back, -, -, -, rfl⟩ := renderParams_eq_error_iff.mp hresult
        exact ⟨_, rfl⟩

end Parameters

section Synced

variable {config : Value} {name : String}

/-- The context of a request under a state. -/
def underState (config : Value) (state : Object) : Context :=
  (Context.ofConfig config).withState state

/-- The root of the state always has a value. -/
theorem get?_state (config : Value) (state : Object) :
    (underState config state).get? "state" = some (.object state) := by
  have hkeys : Path.keys "state".toList = ["state"] := by decide
  rw [Context.get?, hkeys]
  rfl

/-- A variable that reads no state has a value under every state or under none. -/
theorem get?_underState (hname : isStateVariable name = false) (state : Object) :
    (underState config state).get? name = (Context.ofConfig config).get? name :=
  Context.get?_withState hname (Context.ofConfig config) state []

theorem not_isStateVariable_of_property? {key : String} (hkey : property? name = some key) :
    isStateVariable name = false := by
  unfold property? at hkey
  split at hkey
  · next first rest hkeys =>
      rw [isStateVariable, hkeys]
      rfl
  · cases hkey

/-- A state variable without a value lies below the root, so it makes its template wait. -/
theorem readsState_of_lacking {state : Object} (hname : isStateVariable name = true)
    (hlacks : (underState config state).get? name = none) : readsState name = true := by
  rcases isStateVariable_iff.mp hname with rfl | hreads
  · rw [get?_state] at hlacks
    cases hlacks
  · exact hreads

/-- A template in which a variable without a value can hide behind the state: it has one that reads
no state, and it reads the state as well. -/
structure HidesFault (config : Value) (template : String) : Prop where
  lacks : ∃ name ∈ variableNames template, isStateVariable name = false ∧
    (Context.ofConfig config).get? name = none
  reads : ∃ name ∈ variableNames template, readsState name = true

/-- A parameter that cannot be rendered lacks the value of a variable that reads no state. -/
theorem Context.Blocks.lacks {p : String × String} {state : Object}
    (hblocks : (underState config state).Blocks p) :
    ∃ name ∈ variableNames p.2, isStateVariable name = false ∧
      (Context.ofConfig config).get? name = none := by
  obtain ⟨hready, hlacking⟩ := hblocks
  obtain ⟨name, hname⟩ := List.exists_mem_of_ne_nil _ hlacking
  obtain ⟨hname, hnone⟩ := List.mem_filter.mp hname
  rw [Option.isNone_iff_eq_none] at hnone
  by_cases hstate : isStateVariable name = true
  · have hwaits := waitsOnState_iff.mpr ⟨name, hname, readsState_of_lacking hstate hnone, hnone⟩
    exact absurd hwaits (Bool.eq_false_iff.mp hready)
  · have hfree : isStateVariable name = false := eq_false_of_ne_true hstate
    rw [get?_underState hfree] at hnone
    exact ⟨name, hname, hfree, hnone⟩

/-- A parameter that lacks such a value cannot be rendered, unless it waits. -/
theorem blocks_or_waits {p : String × String} (hmem : name ∈ variableNames p.2)
    (hname : isStateVariable name = false) (hlacks : (Context.ofConfig config).get? name = none)
    (state : Object) :
    (underState config state).Blocks p ∨ (underState config state).waitsOnState p.2 = true := by
  by_cases hwaits : (underState config state).waitsOnState p.2 = true
  · exact Or.inr hwaits
  · refine Or.inl ⟨eq_false_of_ne_true hwaits, ?_⟩
    rw [ne_eq, undefined_eq_nil_iff]
    intro hdefined
    obtain ⟨v, hv⟩ := hdefined name hmem
    rw [get?_underState hname, hlacks] at hv
    cases hv

/-- Where the template of a parameter reads a property without a value, rendering the parameters
fails under every state that holds all that this template reads below the root of the state.
The fault is that of the first parameter that cannot be rendered. As long as no template has both
a variable without a value and one below the root of the state, the parameters fail under every
state or under none. -/
theorem undefined_config_fails_unless_waiting (params : Table String) (config : Value) :
    (∀ p ∈ params, ∀ name ∈ variableNames p.2, ∀ key, property? name = some key →
      (Context.ofConfig config).get? name = none → ∀ state,
        (∃ names, renderParams params (underState config state) =
          .error (.undefinedVariable names)) ∨
          ∃ other ∈ variableNames p.2, readsState other = true ∧
            (underState config state).get? other = none) ∧
    (∀ state f, renderParams params (underState config state) = .error f ↔
      ∃ front p back, params = front ++ p :: back ∧
        (∀ q ∈ front, ¬ (underState config state).Blocks q) ∧
        (underState config state).Blocks p ∧ f = (underState config state).lackOf p.2) ∧
    ((∀ p ∈ params, ¬ HidesFault config p.2) → ∀ state,
      ((∃ names, renderParams params (underState config state) =
        .error (.undefinedVariable names)) ↔
        ∃ p ∈ params, ∃ name ∈ variableNames p.2, isStateVariable name = false ∧
          (Context.ofConfig config).get? name = none)) := by
  refine ⟨?_, ?_, ?_⟩
  · intro p hp name hmem key hkey hlacks state
    have hname := not_isStateVariable_of_property? hkey
    rcases blocks_or_waits hmem hname hlacks state with hblocks | hwaits
    · exact Or.inl (exists_error_iff_blocks.mpr ⟨p, hp, hblocks⟩)
    · exact Or.inr (waitsOnState_iff.mp hwaits)
  · intro state f
    exact renderParams_eq_error_iff
  · intro hplain state
    rw [exists_error_iff_blocks]
    constructor
    · rintro ⟨p, hp, hblocks⟩
      exact ⟨p, hp, hblocks.lacks⟩
    · rintro ⟨p, hp, name, hmem, hname, hlacks⟩
      rcases blocks_or_waits hmem hname hlacks state with hblocks | hwaits
      · exact ⟨p, hp, hblocks⟩
      · obtain ⟨other, hother, hreads, -⟩ := waitsOnState_iff.mp hwaits
        exact absurd ⟨⟨name, hmem, hname, hlacks⟩, other, hother, hreads⟩ (hplain p hp)

end Synced

namespace WaitingExample

/-- Parameters of which the first reads a property and the second reads the state. -/
def apart : Table String :=
  [("key", "\x7b\x7b config.key \x7d\x7d"), ("since", "\x7b\x7b state.seq \x7d\x7d")]

/-- A template that reads both. -/
def joined : String := "\x7b\x7b config.key \x7d\x7d-\x7b\x7b state.seq \x7d\x7d"

def config : Value := .object []

def saved : Object := [("seq", Value.nat 7)]

end WaitingExample

open WaitingExample in
/-- A property without a value is a fault before and after the state is there. -/
theorem undefined_config_fails_unless_waiting_apart :
    ("key", "\x7b\x7b config.key \x7d\x7d") ∈ apart ∧
    "config.key" ∈ variableNames "\x7b\x7b config.key \x7d\x7d" ∧
    property? "config.key" = some "key" ∧ (Context.ofConfig config).get? "config.key" = none ∧
    (∀ p ∈ apart, ¬ HidesFault config p.2) ∧
    ∀ state, ∃ names, renderParams apart (underState config state) =
      .error (.undefinedVariable names) := by
  have hfirst : variableNames "\x7b\x7b config.key \x7d\x7d" = ["config.key"] := by decide +kernel
  have hsecond : variableNames "\x7b\x7b state.seq \x7d\x7d" = ["state.seq"] := by decide +kernel
  have hkey : property? "config.key" = some "key" := rfl
  have hlacks : (Context.ofConfig config).get? "config.key" = none := rfl
  have hplain : ∀ p ∈ apart, ¬ HidesFault config p.2 := by
    intro p hp hhides
    obtain ⟨⟨name, hname, hfree, -⟩, other, hother, hreads⟩ := hhides
    rcases List.mem_cons.mp hp with rfl | hp
    · rw [hfirst, List.mem_singleton] at hother
      exact absurd (hother ▸ hreads) (by decide)
    · cases List.mem_singleton.mp hp
      rw [hsecond, List.mem_singleton] at hname
      exact absurd (hname ▸ hfree) (by decide)
  have hmem : "config.key" ∈ variableNames "\x7b\x7b config.key \x7d\x7d" :=
    hfirst ▸ List.mem_singleton.mpr rfl
  refine ⟨List.mem_cons_self, hmem, hkey, hlacks, hplain, ?_⟩
  intro state
  obtain ⟨-, -, hfails⟩ := undefined_config_fails_unless_waiting apart config
  exact (hfails hplain state).mpr ⟨_, List.mem_cons_self, _, hmem, rfl, hlacks⟩

open WaitingExample in
/-- Beside a variable that waits for the state, a property without a value is no fault until the
state is there. -/
theorem waiting_hides_undefined_config :
    "config.key" ∈ variableNames joined ∧ property? "config.key" = some "key" ∧
    (Context.ofConfig config).get? "config.key" = none ∧
    renderParams [("since", joined)] (underState config []) = .ok [] ∧
    renderParams [("since", joined)] (underState config saved) =
      .error (.undefinedVariable "config.key") := by
  have hmem : "config.key" ∈ variableNames joined := by decide +kernel
  exact ⟨hmem, rfl, rfl, rfl, rfl⟩

end SourceSync.Template
