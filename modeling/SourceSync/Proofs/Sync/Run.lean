/-
What a sink makes of a script. A sink that takes everything gets all emissions
and the log message for the fault at the end. Any other sink gets the first of
the emissions, and behind these at most the log message for a fault.
-/
import SourceSync.Sync.Run

namespace SourceSync.Sync

variable {ω : Type}

def messagesOf (emissions : List (Emission ω)) : List Message :=
  emissions.map Emission.message

@[simp] theorem messagesOf_nil : messagesOf ([] : List (Emission ω)) = [] := rfl

@[simp] theorem messagesOf_cons (e : Emission ω) (es : List (Emission ω)) :
    messagesOf (e :: es) = e.message :: messagesOf es := rfl

@[simp] theorem messagesOf_append (es fs : List (Emission ω)) :
    messagesOf (es ++ fs) = messagesOf es ++ messagesOf fs :=
  List.map_append

theorem messagesOf_isPrefix {es fs : List (Emission ω)} (hbegins : es <+: fs) :
    messagesOf es <+: messagesOf fs :=
  hbegins.map _

/-- The log message a read ends with, if it has one. -/
def Ending.report (secrets : Secrets) : Ending → List Message
  | .finished _ => []
  | .failed context f => (reportMessage? secrets context f).toList
  | .crashed _ => []

def Ending.result : Ending → Result
  | .finished o => .finished o
  | .failed _ f => .failed f
  | .crashed c => .crashed c

theorem reportMessage?_eq_some {secrets : Secrets} {context : String} {f : Fault} {m : Message}
    (hm : reportMessage? secrets context f = some m) :
    f.isSinkClosed = false ∧ m = Log.format secrets .error (faultText context f) := by
  unfold reportMessage? at hm
  split at hm
  · cases hm
  · rename_i hopen
    exact ⟨by simpa using hopen, (Option.some.inj hm).symm⟩

theorem reportMessage?_of_open {secrets : Secrets} {context : String} {f : Fault}
    (hopen : f.isSinkClosed = false) :
    reportMessage? secrets context f = some (Log.format secrets .error (faultText context f)) := by
  simp [reportMessage?, hopen]

section Failing

variable (secrets : Secrets) (sink : Sink) (tried : Nat) (context : String) (f : Fault) (world : ω)

@[simp] theorem Run.failing_result :
    (Run.failing secrets sink tried context f world).result = .failed f := by
  unfold Run.failing
  split <;> rfl

@[simp] theorem Run.failing_world :
    (Run.failing secrets sink tried context f world).world = world := by
  unfold Run.failing
  split <;> rfl

/-- Behind a fault only its log message is written. -/
theorem Run.mem_failing_messages {m : Message}
    (hm : m ∈ (Run.failing secrets sink tried context f world).messages) :
    reportMessage? secrets context f = some m := by
  unfold Run.failing at hm
  split at hm
  · simp at hm
  · rename_i report hreport
    simp only [Sink.taken] at hm
    split at hm
    · rw [hreport, List.mem_singleton.mp hm]
    · simp at hm

@[simp] theorem Run.failing_unlimited_messages :
    (Run.failing secrets .unlimited tried context f world).messages =
      (reportMessage? secrets context f).toList := by
  unfold Run.failing
  split
  · rename_i hreport
    simp [hreport]
  · rename_i m hreport
    simp [hreport, Sink.taken, Sink.unlimited]

end Failing

namespace Script

variable (secrets : Secrets)

theorem performFrom_unlimited (ending : Ending) (world : ω) (tried : Nat)
    (es : List (Emission ω)) :
    let run := performFrom secrets .unlimited ending world tried es
    run.messages = messagesOf es ++ ending.report secrets ∧ run.result = ending.result ∧
      run.world = world := by
  induction es generalizing tried with
  | nil => cases ending <;> simp [performFrom, Ending.report, Ending.result]
  | cons e es ih =>
      have hrest := ih (tried + 1)
      simp only [performFrom, Sink.unlimited] at hrest ⊢
      exact ⟨by rw [hrest.1]; rfl, hrest.2⟩

/-- A sink that takes everything gets all emissions and the log message for the fault
at the end. -/
theorem perform_unlimited (s : Script ω) :
    let run := s.perform secrets .unlimited
    run.messages = messagesOf s.emissions ++ s.ending.report secrets ∧
      run.result = s.ending.result ∧ run.world = s.world :=
  performFrom_unlimited secrets s.ending s.world 0 s.emissions

theorem performFrom_messages (sink : Sink) (ending : Ending) (world : ω) (tried : Nat)
    (es : List (Emission ω)) :
    ∃ taken reports,
      (performFrom secrets sink ending world tried es).messages = taken ++ reports ∧
        taken <+: messagesOf es ∧
        ∀ m ∈ reports, ∃ context f, reportMessage? secrets context f = some m := by
  induction es generalizing tried with
  | nil =>
      refine ⟨[], _, rfl, List.nil_prefix, ?_⟩
      intro m hm
      cases ending with
      | finished o => simp [performFrom] at hm
      | failed context f => exact ⟨context, f, Run.mem_failing_messages _ _ _ _ _ _ hm⟩
      | crashed c => simp [performFrom] at hm
  | cons e es ih =>
      rw [performFrom]
      split
      · obtain ⟨taken, reports, hmessages, htaken, hreports⟩ := ih (tried + 1)
        refine ⟨e.message :: taken, reports, ?_, ?_, hreports⟩
        · exact congrArg (e.message :: ·) hmessages
        · exact List.cons_prefix_cons.mpr ⟨rfl, htaken⟩
      · rename_i f hrefuse
        refine ⟨[], _, rfl, List.nil_prefix, ?_⟩
        intro m hm
        split at hm
        · simp at hm
        · rename_i context hblame
          exact ⟨context, f, Run.mem_failing_messages _ _ _ _ _ _ hm⟩

/-- Any sink gets the first of the emissions, and behind these only the log message
for a fault. -/
theorem perform_messages (sink : Sink) (s : Script ω) :
    ∃ taken reports, (s.perform secrets sink).messages = taken ++ reports ∧
      taken <+: messagesOf s.emissions ∧
      ∀ m ∈ reports, ∃ context f, reportMessage? secrets context f = some m :=
  performFrom_messages secrets sink s.ending s.world 0 s.emissions

theorem performFrom_finished {sink : Sink} {ending : Ending} {world : ω} {tried : Nat}
    {es : List (Emission ω)} {o : Outcome}
    (hfinished : (performFrom secrets sink ending world tried es).result = .finished o) :
    ending = .finished o ∧
      (performFrom secrets sink ending world tried es).messages = messagesOf es := by
  induction es generalizing tried with
  | nil =>
      cases ending with
      | finished outcome =>
          cases hfinished
          exact ⟨rfl, rfl⟩
      | failed context f =>
          rw [performFrom, Run.failing_result] at hfinished
          cases hfinished
      | crashed c => cases hfinished
  | cons e es ih =>
      cases hrefuse : sink.refuse? tried e.message with
      | none =>
          simp only [performFrom, hrefuse] at hfinished ⊢
          obtain ⟨hending, hmessages⟩ := ih hfinished
          exact ⟨hending, congrArg (e.message :: ·) hmessages⟩
      | some f =>
          simp only [performFrom, hrefuse] at hfinished
          split at hfinished
          · cases hfinished
          · rw [Run.failing_result] at hfinished
            cases hfinished

/-- A read that finishes has had none of its emissions refused. -/
theorem perform_finished {sink : Sink} {s : Script ω} {o : Outcome}
    (hfinished : (s.perform secrets sink).result = .finished o) :
    s.ending = .finished o ∧ (s.perform secrets sink).messages = messagesOf s.emissions :=
  performFrom_finished secrets hfinished

end Script

end SourceSync.Sync
