/-
Where cursor state can reach in the requests of a stream. The rules keep every variable below
the root of the state out of paths and headers, so these are rendered alike whatever the state
is; the query differs only in parameters that name a state variable. What the rules let pass is
the root itself: a path that names it is accepted, and changes with the state.
-/
import Mathlib.Tactic.ByContra
import SourceSync.Connector.Source
import SourceSync.Proofs.Masking

namespace SourceSync

open Json Http

namespace Text

variable {separator : Char}

theorem takeWhile_ne_eq_iff {part cs : List Char} (hpart : separator ∉ part) :
    cs.takeWhile (· ≠ separator) = part ↔ cs = part ∨ part ++ [separator] <+: cs := by
  induction part generalizing cs with
  | nil =>
      cases cs with
      | nil => simp
      | cons c cs => by_cases hc : c = separator <;> simp [hc, Ne.symm]
  | cons p part ih =>
      obtain ⟨hp, hpart⟩ := not_or.mp (fun h => hpart (List.mem_cons.mpr h))
      cases cs with
      | nil => simp
      | cons c cs =>
          by_cases hc : c = separator
          · subst hc
            simp [hp, Ne.symm hp]
          · rw [List.takeWhile_cons, if_pos (decide_eq_true hc), List.cons.injEq, ih hpart,
              List.cons.injEq, List.cons_append, List.cons_prefix_cons, and_or_left,
              eq_comm (a := p)]

/-- The first piece of a text is what stands before the first separator. -/
theorem head?_splitOn (separator : Char) (cs : List Char) :
    (splitOn separator cs).head? = some (cs.takeWhile (· ≠ separator)) := by
  induction cs with
  | nil => rfl
  | cons c cs ih =>
      by_cases hc : c = separator
      · simp [splitOn, hc]
      · rw [List.takeWhile_cons, if_pos (decide_eq_true hc), splitOn, if_neg hc]
        cases hpieces : splitOn separator cs with
        | nil =>
            rw [hpieces] at ih
            cases ih
        | cons piece rest =>
            rw [hpieces] at ih
            exact congrArg (fun front => some (c :: front)) (Option.some.inj ih)

end Text

namespace Template

variable {c₁ c₂ : Context}

/-- Whether a name is that of a state variable: its first part is the root of the state. -/
def isStateVariable (name : String) : Bool :=
  (Path.keys name.toList).head? == some "state"

/-- Whether a template names a state variable. -/
def namesState (template : String) : Bool :=
  (variableNames template).any isStateVariable

/-- A state variable is the root of the state, or lies below it. -/
theorem isStateVariable_iff {name : String} :
    isStateVariable name = true ↔ name = "state" ∨ readsState name = true := by
  have hplain : '.' ∉ "state".toList := by decide
  rw [isStateVariable, Path.keys, List.head?_map, Text.head?_splitOn, beq_iff_eq,
    Option.map_some, Option.some_inj, ← String.toList_inj, String.toList_ofList,
    Text.takeWhile_ne_eq_iff hplain, String.toList_inj, readsState, Text.startsWith_iff]
  rfl

/-- Only state variables change with the state. -/
theorem Context.get?_withState {name : String} (hname : isStateVariable name = false)
    (c : Context) (s₁ s₂ : Object) :
    (c.withState s₁).get? name = (c.withState s₂).get? name := by
  unfold isStateVariable at hname
  unfold Context.get?
  split
  · rfl
  · next heq =>
      rw [heq] at hname
      cases hname
  · rfl

section Agreement

variable {template : String} (hsame : ∀ name ∈ variableNames template, c₁.get? name = c₂.get? name)

include hsame

theorem undefined_congr : c₁.undefined template = c₂.undefined template :=
  List.filter_congr (fun name hname => by rw [hsame name hname])

/-- A template is rendered alike where its variables have the same values. -/
theorem render_congr : render template c₁ = render template c₂ := by
  have htexts : (segments template).map (fun s => (c₁.segmentText? s).getD "") =
      (segments template).map (fun s => (c₂.segmentText? s).getD "") := by
    apply List.map_congr_left
    rintro (c | ⟨name, written⟩) hsegment
    · rfl
    · have hname : String.ofList name ∈ variableNames template :=
        List.mem_filterMap.mpr ⟨_, hsegment, rfl⟩
      rw [Context.segmentText?, Context.segmentText?, hsame _ hname]
  rw [render, render, undefined_congr hsame, htexts]

theorem waitsOnState_congr : c₁.waitsOnState template = c₂.waitsOnState template := by
  rw [Bool.eq_iff_iff, Context.waitsOnState, Context.waitsOnState, List.any_eq_true,
    List.any_eq_true]
  apply exists_congr
  intro name
  apply and_congr_right
  intro hname
  rw [hsame name hname]

end Agreement

/-- How something may come out under two contexts when it reads the state through parameters only:
the values are alike, or both fail with the same fault, or one of them fails with the fault of a
parameter that names a state variable. -/
inductive Outcomes (params : Table String) (c₁ c₂ : Context) {α : Type} (Alike : α → α → Prop) :
    Except Fault α → Except Fault α → Prop where
  | built {a₁ a₂ : α} (halike : Alike a₁ a₂) : Outcomes params c₁ c₂ Alike (.ok a₁) (.ok a₂)
  | failed (f : Fault) : Outcomes params c₁ c₂ Alike (.error f) (.error f)
  | firstFails {f : Fault} (other : Except Fault α)
      (hparam : ∃ p ∈ params, namesState p.2 = true ∧ render p.2 c₁ = .error f) :
      Outcomes params c₁ c₂ Alike (.error f) other
  | secondFails {f : Fault} (other : Except Fault α)
      (hparam : ∃ p ∈ params, namesState p.2 = true ∧ render p.2 c₂ = .error f) :
      Outcomes params c₁ c₂ Alike other (.error f)

section Outcomes

variable {params : Table String} {α β : Type} {Alike : α → α → Prop} {Alike' : β → β → Prop}

theorem Outcomes.refl (hrefl : ∀ a, Alike a a) (x : Except Fault α) :
    Outcomes params c₁ c₂ Alike x x := by
  cases x with
  | ok a => exact .built (hrefl a)
  | error f => exact .failed f

/-- A step behind another one. -/
theorem Outcomes.bind {x₁ x₂ : Except Fault α} {next₁ next₂ : α → Except Fault β}
    (hfirst : Outcomes params c₁ c₂ Alike x₁ x₂)
    (hnext : ∀ a₁ a₂, Alike a₁ a₂ → Outcomes params c₁ c₂ Alike' (next₁ a₁) (next₂ a₂)) :
    Outcomes params c₁ c₂ Alike' (x₁ >>= next₁) (x₂ >>= next₂) := by
  cases hfirst with
  | built halike => exact hnext _ _ halike
  | failed f => exact .failed f
  | firstFails other hparam => exact .firstFails _ hparam
  | secondFails other hparam => exact .secondFails _ hparam

end Outcomes

section Parameters

variable {params : Table String} {c : Context}

/-- What one parameter adds to a query: a pair, or nothing. -/
def paramPairs (c : Context) (p : String × String) : Except Fault (List (String × String)) :=
  if c.waitsOnState p.2 then .ok []
  else (render p.2 c).map (fun value => if value.isEmpty then [] else [(p.1, value)])

theorem renderParams_cons (p : String × String) (rest : Table String) (c : Context) :
    renderParams (p :: rest) c =
      (paramPairs c p >>= fun pairs => renderParams rest c >>= fun more =>
        pure (pairs ++ more)) := by
  rw [renderParams, paramPairs]
  split
  · cases renderParams rest c <;> rfl
  · cases render p.2 c with
    | error f => rfl
    | ok value =>
        cases renderParams rest c with
        | error f => rfl
        | ok more =>
            by_cases hempty : value.isEmpty = true
            · simp [Except.map, hempty, bind, Except.bind, pure, Except.pure]
            · simp [Except.map, hempty, bind, Except.bind, pure, Except.pure]

/-- Whether a key is that of a parameter whose own template names a state variable. -/
def takesState (params : Table String) (key : String) : Bool :=
  params.any (fun p => p.1 == key && namesState p.2)

/-- The pairs of a query that belong to no such parameter. -/
def withoutState (params : Table String) (query : List (String × String)) :
    List (String × String) :=
  query.filter (fun e => !takesState params e.1)

theorem withoutState_append (query more : List (String × String)) :
    withoutState params (query ++ more) = withoutState params query ++ withoutState params more :=
  List.filter_append _ _

theorem takesState_of_mem {p : String × String} (hp : p ∈ params) (hstate : namesState p.2 = true) :
    takesState params p.1 = true :=
  List.any_eq_true.mpr ⟨p, hp, by simp [hstate]⟩

/-- A parameter that names a state variable fails by itself, or adds no other pairs. -/
theorem paramPairs_cases {p : String × String} (hp : p ∈ params) (hstate : namesState p.2 = true)
    (c : Context) :
    (∃ f, paramPairs c p = .error f ∧ render p.2 c = .error f) ∨
      ∃ pairs, paramPairs c p = .ok pairs ∧ withoutState params pairs = [] := by
  rw [paramPairs]
  split
  · exact Or.inr ⟨[], rfl, rfl⟩
  · cases render p.2 c with
    | error f => exact Or.inl ⟨f, rfl, rfl⟩
    | ok value =>
        refine Or.inr ⟨_, rfl, ?_⟩
        by_cases hempty : value.isEmpty = true
        · simp [hempty, withoutState]
        · simp [hempty, withoutState, takesState_of_mem hp hstate]

variable (hagree : ∀ name, isStateVariable name = false → c₁.get? name = c₂.get? name)

include hagree

theorem paramPairs_outcomes {p : String × String} (hp : p ∈ params) :
    Outcomes params c₁ c₂ (fun q₁ q₂ => withoutState params q₁ = withoutState params q₂)
      (paramPairs c₁ p) (paramPairs c₂ p) := by
  by_cases hstate : namesState p.2 = true
  · rcases paramPairs_cases hp hstate c₁ with ⟨f, hfails, hrender⟩ | ⟨pairs₁, hpairs₁, hnone₁⟩
    · rw [hfails]
      exact .firstFails _ ⟨p, hp, hstate, hrender⟩
    rcases paramPairs_cases hp hstate c₂ with ⟨f, hfails, hrender⟩ | ⟨pairs₂, hpairs₂, hnone₂⟩
    · rw [hfails]
      exact .secondFails _ ⟨p, hp, hstate, hrender⟩
    rw [hpairs₁, hpairs₂]
    exact .built (hnone₁.trans hnone₂.symm)
  · have hsame : ∀ name ∈ variableNames p.2, c₁.get? name = c₂.get? name := by
      intro name hname
      apply hagree
      by_contra hreads
      exact hstate (List.any_eq_true.mpr ⟨name, hname, eq_true_of_ne_false hreads⟩)
    rw [paramPairs, waitsOnState_congr hsame, render_congr hsame, ← paramPairs]
    apply Outcomes.refl
    intro query
    rfl

theorem renderParams_outcomes {part : Table String} (hpart : ∀ p ∈ part, p ∈ params) :
    Outcomes params c₁ c₂ (fun q₁ q₂ => withoutState params q₁ = withoutState params q₂)
      (renderParams part c₁) (renderParams part c₂) := by
  induction part with
  | nil => exact .built rfl
  | cons p rest ih =>
      rw [renderParams_cons, renderParams_cons]
      refine (paramPairs_outcomes hagree (hpart p List.mem_cons_self)).bind ?_
      intro pairs₁ pairs₂ hpairs
      refine (ih (fun q hq => hpart q (List.mem_cons_of_mem p hq))).bind ?_
      intro more₁ more₂ hmore
      refine .built ?_
      rw [withoutState_append, withoutState_append, hpairs, hmore]

end Parameters

end Template

namespace StreamDefinition

open Template

variable {s : StreamDefinition} {c₁ c₂ : Context}

/-- Two requests of a stream that differ only in parameters whose own templates name a state
variable: each query is what the parameters add, and behind it what asks for the page. -/
structure RequestsAlike (s : StreamDefinition) (r₁ r₂ : ApiRequest) : Prop where
  path : r₁.path = r₂.path
  headers : r₁.headers = r₂.headers
  query : ∃ query₁ query₂ page, r₁.query = query₁ ++ page ∧ r₂.query = query₂ ++ page ∧
    withoutState s.params.entries query₁ = withoutState s.params.entries query₂

/-- If the path and the headers are rendered alike, so are the requests but for such parameters. -/
theorem request_outcomes
    (hagree : ∀ name, isStateVariable name = false → c₁.get? name = c₂.get? name)
    (hpath : render s.path c₁ = render s.path c₂)
    (hheaders : ConnectorDefinition.renderAll c₁ s.headers.entries =
      ConnectorDefinition.renderAll c₂ s.headers.entries) (token : Option String) :
    Outcomes s.params.entries c₁ c₂ s.RequestsAlike (s.request c₁ token) (s.request c₂ token) := by
  unfold request
  rw [hpath, hheaders]
  refine (Outcomes.refl Eq.refl _).bind ?_
  rintro path _ rfl
  refine (renderParams_outcomes hagree (fun _ hp => hp)).bind ?_
  intro query₁ query₂ hquery
  refine (Outcomes.refl Eq.refl _).bind ?_
  rintro headers _ rfl
  exact .built ⟨rfl, rfl, query₁, query₂, _, rfl, rfl, hquery⟩

end StreamDefinition

theorem ok_of_forM {ε α : Type} {f : α → Except ε Unit} {items : List α}
    (hall : items.forM f = .ok ()) : ∀ a ∈ items, f a = .ok () := by
  induction items with
  | nil => exact nofun
  | cons first rest ih =>
      obtain ⟨⟨⟩, hfirst, hrest⟩ := exists_of_bind_ok hall
      intro a ha
      rcases List.mem_cons.mp ha with rfl | ha
      · exact hfirst
      · exact ih hrest a ha

theorem of_ensure {condition : Bool} {message : String}
    (hensured : ensure condition message = .ok ()) : condition = true := by
  unfold ensure at hensured
  split at hensured
  · assumption
  · cases hensured

namespace ConnectorDefinition

open Template

variable {d : ConnectorDefinition} {s : StreamDefinition}

/-- Under the rules, each variable of each listed template follows the rule for variables. -/
theorem validateVariable_of_valid (hvalid : d.validate = .ok ()) {t : PlacedTemplate}
    (ht : t ∈ d.templates) {name : String} (hname : name ∈ variableNames t.template) :
    validateVariable d.properties t name = .ok () := by
  obtain ⟨-, -, hvalid⟩ := exists_of_bind_ok hvalid
  obtain ⟨-, -, hvalid⟩ := exists_of_bind_ok hvalid
  obtain ⟨-, -, hvalid⟩ := exists_of_bind_ok hvalid
  obtain ⟨-, -, hvalid⟩ := exists_of_bind_ok hvalid
  obtain ⟨-, -, hvalid⟩ := exists_of_bind_ok hvalid
  obtain ⟨-, -, htemplates⟩ := exists_of_bind_ok hvalid
  exact ok_of_forM (ok_of_forM htemplates t ht) name hname

/-- Under the rules, a template that may not read the state names nothing below its root. -/
theorem not_readsState_of_valid (hvalid : d.validate = .ok ()) {t : PlacedTemplate}
    (ht : t ∈ d.templates) (hclosed : t.readsState = false) :
    ∀ name ∈ variableNames t.template, readsState name = false := by
  intro name hname
  obtain ⟨⟨⟩, hrule, -⟩ := exists_of_bind_ok (validateVariable_of_valid hvalid ht hname)
  simpa [hclosed] using of_ensure hrule

/-- The templates that lead to the path and the headers of a stream. -/
def closedTemplates (s : StreamDefinition) : List String :=
  s.path :: s.headers.entries.map (·.2)

theorem exists_template_of_closed (hs : s ∈ d.streams) {template : String}
    (htemplate : template ∈ closedTemplates s) :
    ∃ t ∈ d.templates, t.template = template ∧ t.readsState = false := by
  have hplaced : (⟨s.name, template, false⟩ : PlacedTemplate) ∈ s.templates := by
    apply List.mem_append_left
    rcases List.mem_cons.mp htemplate with rfl | hheader
    · exact List.mem_cons_self
    · obtain ⟨h, hh, rfl⟩ := List.mem_map.mp hheader
      exact List.mem_cons_of_mem _ (List.mem_map.mpr ⟨h, hh, rfl⟩)
  exact ⟨_, List.mem_append_right _ (List.mem_flatMap.mpr ⟨s, hs, hplaced⟩), rfl, rfl⟩

/-- Under the rules, the path and the headers of a stream that do not name the state as a whole
name no state variable. -/
theorem not_isStateVariable_of_valid (hvalid : d.validate = .ok ()) (hs : s ∈ d.streams)
    {template : String} (htemplate : template ∈ closedTemplates s)
    (hroot : "state" ∉ variableNames template) :
    ∀ name ∈ variableNames template, isStateVariable name = false := by
  obtain ⟨t, ht, rfl, hclosed⟩ := exists_template_of_closed hs htemplate
  intro name hname
  by_contra hstate
  rcases isStateVariable_iff.mp (eq_true_of_ne_false hstate) with rfl | hreads
  · exact hroot hname
  · exact absurd hreads (by simp [not_readsState_of_valid hvalid ht hclosed name hname])

theorem renderAll_congr {c₁ c₂ : Context} {templates : Table String}
    (hsame : ∀ e ∈ templates, render e.2 c₁ = render e.2 c₂) :
    renderAll c₁ templates = renderAll c₂ templates := by
  induction templates with
  | nil => rfl
  | cons e rest ih =>
      rw [renderAll, renderAll, hsame e List.mem_cons_self,
        ih (fun f hf => hsame f (List.mem_cons_of_mem e hf))]

/-- The requests of a stream under two states. The rules keep what lies below the root of the
state out of the path and the headers; where these do not name the root itself either, they
are rendered alike, to the same texts or with the same fault. The requests are then built alike:
they differ only in parameters whose own templates name a state variable, and if only one of
them is built, or they fail differently, it is such a parameter that failed. -/
theorem requests_isolated (hvalid : d.validate = .ok ()) (hs : s ∈ d.streams)
    (hroot : ∀ template ∈ closedTemplates s, "state" ∉ variableNames template) (config : Value)
    (token : Option String) (s₁ s₂ : Object) :
    let c₁ := (Context.ofConfig config).withState s₁
    let c₂ := (Context.ofConfig config).withState s₂
    render s.path c₁ = render s.path c₂ ∧
    renderAll c₁ s.headers.entries = renderAll c₂ s.headers.entries ∧
    Outcomes s.params.entries c₁ c₂ s.RequestsAlike (s.request c₁ token) (s.request c₂ token) := by
  intro c₁ c₂
  have hagree : ∀ name, isStateVariable name = false → c₁.get? name = c₂.get? name :=
    fun name hname => Context.get?_withState hname _ s₁ s₂
  have hrender : ∀ template ∈ closedTemplates s, render template c₁ = render template c₂ := by
    intro template htemplate
    apply render_congr
    intro name hname
    exact hagree name
      (not_isStateVariable_of_valid hvalid hs htemplate (hroot template htemplate) name hname)
  have hpath : render s.path c₁ = render s.path c₂ := hrender _ List.mem_cons_self
  have hheaders : renderAll c₁ s.headers.entries = renderAll c₂ s.headers.entries :=
    renderAll_congr (fun e he => hrender _ (List.mem_cons_of_mem _ (List.mem_map_of_mem he)))
  exact ⟨hpath, hheaders, StreamDefinition.request_outcomes hagree hpath hheaders token⟩

end ConnectorDefinition

namespace IsolationExample

open Template

/-- A stream that sends the state in a parameter, below its root. -/
def events : StreamDefinition where
  name := "events"
  path := "/events/\x7b\x7b config.account \x7d\x7d"
  params := ⟨[("limit", "10"), ("since", "\x7b\x7b state.seq \x7d\x7d")], by decide⟩
  headers := .ofEntries [("x-account", "\x7b\x7b config.account \x7d\x7d")]
  recordPath := ""
  schema := none
  pagination := some ⟨"next", "page"⟩
  incremental := some ⟨.field "seq", false, true⟩

/-- The same stream with the root of the state in its path. -/
def exposed : StreamDefinition :=
  { events with path := "/events/\x7b\x7b state \x7d\x7d" }

def definition (s : StreamDefinition) : ConnectorDefinition where
  name := "single"
  version := ConnectorDefinition.initialVersion
  baseUrl := "http://[::1]"
  properties := .ofEntries [("account", ⟨none, none, false, true, none⟩)]
  auth := .none
  http := .standard
  check := none
  headers := ∅
  streams := [s]

def config : Value := .object [("account", .string "a")]

def saved : Object := [("seq", Value.nat 7)]

/-- What a stream asks for at the second page. -/
def asks (s : StreamDefinition) (state : Object) : Except Fault ApiRequest :=
  s.request ((Context.ofConfig config).withState state) (some "p2")

theorem asks_fresh : asks events [] =
    .ok ⟨"/events/a", [("limit", "10"), ("page", "p2")], [("x-account", "a")]⟩ :=
  rfl

theorem asks_saved : asks events saved =
    .ok ⟨"/events/a", [("limit", "10"), ("since", "7"), ("page", "p2")], [("x-account", "a")]⟩ :=
  rfl

end IsolationExample

open IsolationExample in
/-- A saved state adds a parameter that names it, and changes nothing else. -/
theorem ConnectorDefinition.requests_isolated_parameter :
    (definition events).validate = .ok () ∧ events ∈ (definition events).streams ∧
    (∀ template ∈ closedTemplates events, "state" ∉ Template.variableNames template) ∧
    ∃ r₁ r₂, asks events [] = .ok r₁ ∧ asks events saved = .ok r₂ ∧
      r₁.query.length = 2 ∧ r₂.query.length = 3 ∧ events.RequestsAlike r₁ r₂ := by
  have hvalid : (definition events).validate = .ok () := rfl
  have hroot : ∀ template ∈ closedTemplates events,
      "state" ∉ Template.variableNames template := by decide +kernel
  have hs : events ∈ (definition events).streams := List.mem_singleton.mpr rfl
  obtain ⟨-, -, houtcomes⟩ := requests_isolated hvalid hs hroot config (some "p2") [] saved
  rw [← asks, ← asks, asks_fresh, asks_saved] at houtcomes
  cases houtcomes with
  | built halike => exact ⟨hvalid, hs, hroot, _, _, asks_fresh, asks_saved, rfl, rfl, halike⟩

open IsolationExample in
/-- The root of the state is accepted in a path, and the path then changes with the state. -/
theorem ConnectorDefinition.path_follows_state :
    (definition exposed).validate = .ok () ∧ exposed ∈ (definition exposed).streams ∧
    ∃ r₁ r₂, asks exposed [] = .ok r₁ ∧ asks exposed saved = .ok r₂ ∧
      r₁.path = "/events/\x7b\x7d" ∧ r₂.path = "/events/\x7b\"seq\":7\x7d" := by
  have hfresh : asks exposed [] = .ok ⟨"/events/\x7b\x7d",
      [("limit", "10"), ("page", "p2")], [("x-account", "a")]⟩ := rfl
  have hsaved : asks exposed saved = .ok ⟨"/events/\x7b\"seq\":7\x7d",
      [("limit", "10"), ("since", "7"), ("page", "p2")], [("x-account", "a")]⟩ := rfl
  exact ⟨rfl, List.mem_singleton.mpr rfl, _, _, hfresh, hsaved, rfl, rfl⟩

end SourceSync
