/-
What a task hands over. While its items are sent a task hands over all items of
the read. When one is refused it stops at once: nothing more is read, and at most
a fault is still offered. So it leaves what the read leaves on a sink that closes
at that point.
-/
import SourceSync.Proofs.Sync.Run
import SourceSync.Sync.Channel

namespace SourceSync.Sync

variable {ω : Type}

def messagesAmong (items : List LazyItem) : List Message :=
  items.filterMap Except.toOption

theorem messagesAmong_append (xs ys : List LazyItem) :
    messagesAmong (xs ++ ys) = messagesAmong xs ++ messagesAmong ys :=
  List.filterMap_append

namespace Task

/-- What is handed over when everything is sent. -/
def items : Task ω → List LazyItem
  | .ended _ => []
  | .hand item _ sent _ => item :: sent.items

/-- The world at the end if a number of items are sent and all others are refused. -/
def worldAfter : Nat → Task ω → ω
  | _, .ended world => world
  | 0, .hand _ _ _ refused => refused.worldAfter 0
  | count + 1, .hand _ _ sent _ => sent.worldAfter count

/-- The task leaves the world as it is: it has ended, or it still hands over a fault. -/
def Stops (world : ω) (t : Task ω) : Prop :=
  t = .ended world ∨ ∃ f, t = .last f world

/-- Wherever an item is refused the task stops. -/
inductive Yields : Task ω → Prop where
  | ended (world : ω) : Yields (.ended world)
  | hand {item : LazyItem} {world : ω} {sent refused : Task ω} (hsent : sent.Yields)
      (hrefused : refused.Stops world) : Yields (.hand item world sent refused)

/-- What is left of a task when some items have been sent. -/
inductive Leads (t : Task ω) : List LazyItem → Task ω → Prop where
  | start : Leads t [] t
  | send {sent : List LazyItem} {item : LazyItem} {world : ω} {next refused : Task ω}
      (hleads : Leads t sent (.hand item world next refused)) : Leads t (sent ++ [item]) next

theorem Stops.worldAfter {world : ω} {t : Task ω} (hstops : t.Stops world) (count : Nat) :
    t.worldAfter count = world := by
  rcases hstops with rfl | ⟨f, rfl⟩
  · cases count <;> rfl
  · cases count with
    | zero => rfl
    | succ count => cases count <;> rfl

theorem yields_last (f : Fault) (world : ω) : (Task.last f world).Yields :=
  .hand (.ended world) (Or.inl rfl)

namespace Leads

variable {t rest : Task ω} {sent : List LazyItem}

theorem items (hleads : t.Leads sent rest) : sent ++ rest.items = t.items := by
  induction hleads with
  | start => rfl
  | @send sent item world next refused _ ih =>
      rw [← ih, List.append_assoc]
      rfl

theorem worldAfter (hleads : t.Leads sent rest) (count : Nat) :
    t.worldAfter (sent.length + count) = rest.worldAfter count := by
  induction hleads generalizing count with
  | start => rw [List.length_nil, Nat.zero_add]
  | send _ ih =>
      rw [List.length_append, List.length_singleton, Nat.add_assoc, Nat.add_comm 1, ih]
      rfl

theorem yields (hleads : t.Leads sent rest) (hyields : t.Yields) : rest.Yields := by
  induction hleads with
  | start => exact hyields
  | send _ ih =>
      cases ih with
      | hand hsent hrefused => exact hsent

end Leads

end Task

section Ending

variable (secrets : Secrets) (world : ω) (ending : Ending)

theorem Ending.task_items :
    (ending.task secrets world).items =
      (ending.report secrets).map .ok ++ ending.result.lastFault?.toList.map .error := by
  cases ending with
  | finished o => rfl
  | crashed c => rfl
  | failed context f =>
      cases hopen : f.isSinkClosed <;>
        simp [task, report, result, reportMessage?, Result.lastFault?, Task.last, Task.items, hopen]

theorem Ending.task_yields : (ending.task secrets world).Yields := by
  cases ending with
  | finished o => exact .ended world
  | crashed c => exact Task.yields_last c.fault world
  | failed context f =>
      rw [task]
      split
      · exact .ended world
      · exact .hand (Task.yields_last f world) (Or.inr ⟨f, rfl⟩)

/-- At its end a task does what the read does on a sink that closes. -/
theorem Ending.task_closing (tried count : Nat) :
    let run := Script.performFrom secrets (.closingAfter (tried + count) Sink.consumerGone) ending
      world tried []
    messagesAmong ((ending.task secrets world).items.take count) = run.messages ∧
      (ending.task secrets world).worldAfter count = run.world := by
  cases ending with
  | finished o => cases count <;> exact ⟨rfl, rfl⟩
  | crashed c =>
      have hstops : (Task.last c.fault world).Stops world := Or.inr ⟨_, rfl⟩
      refine ⟨?_, hstops.worldAfter count⟩
      cases count <;> simp [messagesAmong, task, Task.last, Task.items, Except.toOption,
        Script.performFrom]
  | failed context f =>
      cases hreport : reportMessage? secrets context f with
      | none =>
          simp only [Script.performFrom, Run.failing, task, hreport]
          cases count <;> exact ⟨rfl, rfl⟩
      | some m =>
          have hstops : (Task.last f world).Stops world := Or.inr ⟨_, rfl⟩
          simp only [Script.performFrom, Run.failing, task, hreport]
          cases count with
          | zero =>
              refine ⟨?_, hstops.worldAfter 0⟩
              simp [messagesAmong, Sink.taken, Sink.closingAfter]
          | succ count =>
              refine ⟨?_, hstops.worldAfter count⟩
              cases count <;>
                simp [messagesAmong, Sink.taken, Sink.closingAfter, Task.items, Task.last,
                  Except.toOption]

end Ending

namespace Script

variable (secrets : Secrets) (s : Script ω)

theorem task_items : (s.task secrets).items = (s.perform secrets .unlimited).items := by
  obtain ⟨hmessages, hresult, -⟩ := s.perform_unlimited secrets
  rw [Run.items, hmessages, hresult, List.map_append, List.append_assoc, ← Ending.task_items
    secrets s.world, task]
  generalize s.emissions = es
  induction es with
  | nil => rfl
  | cons e es ih => exact congrArg (Except.ok e.message :: ·) ih

theorem task_yields : (s.task secrets).Yields := by
  rw [task]
  generalize s.emissions = es
  induction es with
  | nil => exact Ending.task_yields secrets s.world s.ending
  | cons e es ih => exact .hand ih (Or.inl rfl)

/-- When a number of items are sent and the next one is refused, the task leaves what the
read leaves on a sink that closes there. -/
theorem task_closing (count : Nat) :
    let run := s.perform secrets (.closingAfter count Sink.consumerGone)
    messagesAmong ((s.task secrets).items.take count) = run.messages ∧
      (s.task secrets).worldAfter count = run.world := by
  suffices hfrom : ∀ tried es,
      let run := performFrom secrets (.closingAfter (tried + count) Sink.consumerGone) s.ending
        s.world tried es
      let t := Script.task secrets { s with emissions := es }
      messagesAmong (t.items.take count) = run.messages ∧ t.worldAfter count = run.world by
    have hwhole := hfrom 0 s.emissions
    rwa [Nat.zero_add] at hwhole
  intro tried es
  induction es generalizing tried count with
  | nil => exact Ending.task_closing secrets s.world s.ending tried count
  | cons e es ih =>
      cases count with
      | zero =>
          -- The emission is refused: nothing is logged, and the world is that of the emission.
          simp only [performFrom, Sink.closingAfter, Nat.add_zero, Nat.lt_irrefl, if_false]
          cases e.blame <;> exact ⟨rfl, rfl⟩
      | succ count =>
          have hlt : tried < tried + (count + 1) := by omega
          have hrest := ih count (tried + 1)
          rw [Nat.add_assoc, Nat.add_comm 1] at hrest
          simp only [performFrom, Sink.closingAfter, hlt, if_true] at hrest ⊢
          exact ⟨congrArg (e.message :: ·) hrest.1, hrest.2⟩

end Script

end SourceSync.Sync
