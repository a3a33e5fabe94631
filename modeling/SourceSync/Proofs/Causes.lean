/-
What a trace tells. From a fault, links lead to what caused it: from a description to the fault
that it was put around, from a fault that wraps an error of foreign code to that error, and from
there along the causes of that error. The trace is the wordings that are met along the links.
Descriptions put around a fault come before all of them, and leave them as they are.
-/
import SourceSync.Fault

namespace SourceSync

/-- What is met along the links: a fault, or an error of foreign code with its causes. -/
inductive Cause where
  | fault (f : Fault)
  | foreign (message : String) (causes : List String)

namespace Cause

/-- The wording of a cause alone. -/
def message : Cause → String
  | .fault f => f.message
  | .foreign message _ => message

/-- The outermost of the causes of an error of foreign code, with the others behind it. -/
def outermost? : List String → Option Cause
  | [] => none
  | message :: causes => some (.foreign message causes)

/-- Where the link of a cause leads. A description leads to the fault within it. A fault that
wraps a foreign error leads to that error. A chain stands for its outermost error, so its link is
the link of that error. -/
def source? : Cause → Option Cause
  | .foreign _ causes => outermost? causes
  | .fault (.jsonParse e) => some (.foreign e.message e.causes)
  | .fault (.http e) => some (.foreign e.message e.causes)
  | .fault (.invalidUrl e) => some (.foreign e.message [])
  | .fault (.io detail causes) => some (.foreign detail causes)
  | .fault (.context _ source) => some (.fault source)
  | .fault (.chain _ causes) => outermost? causes
  | .fault _ => none

/-- Going from link to link, up to the cause that has none, and the wordings met on the way. -/
inductive Tells : Cause → List String → Prop where
  | last {c : Cause} (hlast : c.source? = none) : Tells c [c.message]
  | link {c d : Cause} {told : List String} (hlink : c.source? = some d) (hrest : Tells d told) :
      Tells c (c.message :: told)

variable {c : Cause} {told : List String}

theorem Tells.unique {others : List String} (htells : c.Tells told) (hothers : c.Tells others) :
    told = others := by
  induction htells generalizing others with
  | @last c hlast =>
      cases hothers with
      | last => rfl
      | link hlink => cases hlast.symm.trans hlink
  | @link c d told hlink _ ih =>
      cases hothers with
      | last hlast => cases hlast.symm.trans hlink
      | link hsame hrest =>
          cases hlink.symm.trans hsame
          rw [ih hrest]

theorem tells_foreign (message : String) (causes : List String) :
    (foreign message causes).Tells (message :: causes) := by
  induction causes generalizing message with
  | nil => exact .last rfl
  | cons next rest ih => exact .link rfl (ih next)

end Cause

/-- Texts that are joined to one stand for themselves behind others. -/
theorem intercalate_append_joined (separator : String) (front : List String) {back : List String}
    (hback : back ≠ []) :
    separator.intercalate (front ++ back) =
      separator.intercalate (front ++ [separator.intercalate back]) := by
  by_cases hfront : front = []
  · rw [hfront, List.nil_append, List.nil_append, String.intercalate_singleton]
  · rw [String.intercalate_append_of_ne_nil hfront hback,
      String.intercalate_append_of_ne_nil hfront (List.cons_ne_nil _ []),
      String.intercalate_singleton]

namespace Fault

/-- The wordings of a fault and of its causes, outermost first. -/
def wordings (f : Fault) : List String :=
  f.message :: f.causes

theorem wordings_context (message : String) (source : Fault) :
    (context message source).wordings = message :: source.wordings :=
  rfl

theorem wordings_ne_nil (f : Fault) : f.wordings ≠ [] :=
  List.cons_ne_nil _ _

theorem tells_wordings (f : Fault) : (Cause.fault f).Tells f.wordings := by
  induction f with
  | context message source ih => exact .link rfl ih
  | jsonParse e => exact .link rfl (Cause.tells_foreign e.message e.causes)
  | http e => exact .link rfl (Cause.tells_foreign e.message e.causes)
  | invalidUrl e => exact .link rfl (Cause.tells_foreign e.message [])
  | io detail causes => exact .link rfl (Cause.tells_foreign detail causes)
  | chain outermost causes =>
      -- The outermost error is the chain itself, so it is not met a second time.
      cases causes with
      | nil => exact .last rfl
      | cons next rest => exact .link rfl (Cause.tells_foreign next rest)
  | _ => exact .last rfl

/-- The links of a fault lead along its wordings, and along nothing else. -/
theorem tells_iff {f : Fault} {told : List String} :
    (Cause.fault f).Tells told ↔ told = f.wordings := by
  constructor
  · intro htells
    exact htells.unique f.tells_wordings
  · rintro rfl
    exact f.tells_wordings

theorem append_causeLines (message : String) (causes : List String) :
    message ++ causeLines causes = "\n  caused by: ".intercalate (message :: causes) := by
  induction causes generalizing message with
  | nil => rw [causeLines, String.append_empty, String.intercalate_singleton]
  | cons next rest ih =>
      rw [causeLines, ih next, String.intercalate_cons_cons, String.append_assoc]

theorem trace_eq (f : Fault) : f.trace = "\n  caused by: ".intercalate f.wordings :=
  append_causeLines f.message f.causes

/-- A fault that wraps an error of foreign code: what it says itself, then the wording of that
error and of its causes. -/
inductive Wraps : Fault → String → String → List String → Prop where
  | jsonParse (e : Json.ReadError) :
      Wraps (.jsonParse e) s!"Failed to parse JSON: {e.message}" e.message e.causes
  | http (e : Http.TransportError) :
      Wraps (.http e) s!"HTTP request failed: {e.message}" e.message e.causes
  /-- Nothing is behind a text that is no URL. -/
  | invalidUrl (e : Url.ParseError) :
      Wraps (.invalidUrl e) s!"Invalid URL: {e.message}" e.message []
  | io (detail : String) (causes : List String) :
      Wraps (.io detail causes) s!"IO error: {detail}" detail causes

theorem Wraps.wordings_eq {f : Fault} {own message : String} {causes : List String}
    (hwraps : f.Wraps own message causes) : f.wordings = own :: message :: causes := by
  cases hwraps <;> rfl

/-- A description to put around a fault: a text, or one that is made when it is needed. -/
inductive Description where
  | ready (text : String)
  | deferred (make : Unit → String)

namespace Description

def text : Description → String
  | .ready text => text
  | .deferred make => make ()

/-- Put a description around the fault of an operation. -/
def around {α : Type} : Description → Except Fault α → Except Fault α
  | .ready text => Fault.within text
  | .deferred make => Fault.withinLazily make

/-- Put descriptions around the fault of an operation, the first one outermost. -/
def stacked {α : Type} (stack : List Description) (result : Except Fault α) : Except Fault α :=
  stack.foldr around result

theorem around_error {α : Type} (d : Description) (f : Fault) :
    d.around (.error f : Except Fault α) = .error (.context d.text f) := by
  cases d <;> rfl

/-- Each description that is put around a fault says one thing more, in front, and nothing else
about the fault changes. -/
theorem stacked_error {α : Type} (stack : List Description) (f : Fault) :
    ∃ g, stacked stack (.error f : Except Fault α) = .error g ∧
      g.wordings = stack.map text ++ f.wordings ∧ g.isRetryable = f.isRetryable := by
  induction stack with
  | nil => exact ⟨f, rfl, rfl, rfl⟩
  | cons d rest ih =>
      obtain ⟨g, hstacked, hwordings, hretryable⟩ := ih
      refine ⟨.context d.text g, ?_, ?_, ?_⟩
      · rw [← around_error (α := α), ← hstacked]
        rfl
      · rw [wordings_context, hwordings, List.map_cons, List.cons_append]
      · rw [isRetryable, hretryable]

end Description

open Description

/-- A fault with descriptions around it. Its trace is the texts of the descriptions, outermost
first, and behind them the trace of the fault. This is what is met from link to link, each cause
once and in its place: a chain gives all it consists of, a fault that wraps a foreign error its own
wording, that error and the causes of that error. The message is the outermost text alone, and the
fault is as retryable as it was. -/
theorem trace_stacked {α : Type} (stack : List Description) (f : Fault) :
    ∃ g told, stacked stack (.error f : Except Fault α) = .error g ∧
      g.trace = "\n  caused by: ".intercalate (stack.map text ++ [f.trace]) ∧
      f.trace = "\n  caused by: ".intercalate told ∧
      (∀ met, (Cause.fault f).Tells met ↔ met = told) ∧
      (∀ met, (Cause.fault g).Tells met ↔ met = stack.map text ++ told) ∧
      (∀ outermost causes, f = .chain outermost causes → told = outermost :: causes) ∧
      (∀ own message causes, f.Wraps own message causes → told = own :: message :: causes) ∧
      g.message = (stack.head?.map text).getD f.message ∧
      g.isRetryable = f.isRetryable := by
  obtain ⟨g, hstacked, hwordings, hretryable⟩ := stacked_error (α := α) stack f
  have hchain : ∀ outermost causes, f = .chain outermost causes →
      f.wordings = outermost :: causes := by
    rintro outermost causes rfl
    rfl
  refine ⟨g, f.wordings, hstacked, ?_, trace_eq f, fun _ => tells_iff, fun _ => ?_, hchain,
    fun _ _ _ hwraps => hwraps.wordings_eq, ?_, hretryable⟩
  · rw [trace_eq, hwordings, trace_eq, ← intercalate_append_joined _ _ f.wordings_ne_nil]
  · rw [tells_iff, hwordings]
  · -- The message is the first of the wordings.
    cases stack with
    | nil => exact (List.cons.inj hwordings).1
    | cons d rest => exact (List.cons.inj hwordings).1

/-- A file that fails while a page is stored, and a chain in its place. -/
theorem trace_stacked_page :
    let stack := [Description.ready "Sync failed", .deferred fun _ => "Storing page 2"]
    (∃ g, stacked stack (.error (.io "disk full" ["quota reached"]) : Except Fault Unit) =
        .error g ∧
      g.trace = "Sync failed\n  caused by: Storing page 2\n  caused by: IO error: disk full" ++
        "\n  caused by: disk full\n  caused by: quota reached" ∧
      g.message = "Sync failed" ∧ g.isRetryable = false) ∧
    ∃ g, stacked stack (.error (.chain "writing" ["disk full"]) : Except Fault Unit) = .error g ∧
      g.trace = "Sync failed\n  caused by: Storing page 2\n  caused by: writing" ++
        "\n  caused by: disk full" := by
  intro stack
  constructor
  · obtain ⟨g, told, hstacked, htrace, htold, -, -, -, hwraps, hmessage, hretryable⟩ :=
      trace_stacked (α := Unit) stack (.io "disk full" ["quota reached"])
    rw [hwraps _ _ _ (.io _ _)] at htold
    rw [htold] at htrace
    exact ⟨g, hstacked, htrace, hmessage, hretryable⟩
  · obtain ⟨g, told, hstacked, htrace, htold, -, -, hchain, -⟩ :=
      trace_stacked (α := Unit) stack (.chain "writing" ["disk full"])
    rw [hchain _ _ rfl] at htold
    rw [htold] at htrace
    exact ⟨g, hstacked, htrace⟩

end Fault

end SourceSync
