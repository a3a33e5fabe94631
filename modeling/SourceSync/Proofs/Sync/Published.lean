/-
What a list of messages publishes: the records in it, and its snapshots, each
with the messages before it.
-/
import SourceSync.Message

namespace SourceSync

open Json

namespace Sync

/-- The state published last, or the one before if none was published. -/
def lastSnapshot (prior : SyncState) (messages : List Message) : SyncState :=
  messages.foldl (fun s m => m.state?.getD s) prior

theorem lastSnapshot_append (prior : SyncState) (xs ys : List Message) :
    lastSnapshot prior (xs ++ ys) = lastSnapshot (lastSnapshot prior xs) ys :=
  List.foldl_append

theorem lastSnapshot_of_stateless (prior : SyncState) {messages : List Message}
    (hstateless : ∀ m ∈ messages, m.state? = none) : lastSnapshot prior messages = prior := by
  induction messages generalizing prior with
  | nil => rfl
  | cons m rest ih =>
      have hhead : m.state? = none := hstateless m List.mem_cons_self
      have hrest := ih prior (fun n hn => hstateless n (List.mem_cons_of_mem m hn))
      simpa [lastSnapshot, hhead] using hrest

def recordsIn (messages : List Message) : List Object :=
  messages.filterMap (fun m => m.record?.map StreamRecord.data)

@[simp] theorem recordsIn_append (xs ys : List Message) :
    recordsIn (xs ++ ys) = recordsIn xs ++ recordsIn ys :=
  List.filterMap_append

theorem recordsIn_cons_record (r : StreamRecord) (messages : List Message) :
    recordsIn (.record r :: messages) = r.data :: recordsIn messages := rfl

theorem recordsIn_concat_state (messages : List Message) (a : SyncState) :
    recordsIn (messages ++ [.state a]) = recordsIn messages := by
  rw [recordsIn_append]
  exact List.append_nil _

/-- The records emitted in the messages are the given ones, all of one stream. -/
def Emits (name : String) (messages : List Message) (records : List Object) : Prop :=
  recordsIn messages = records ∧ ∀ r, .record r ∈ messages → r.stream = name

namespace Emits

variable {name : String} {xs ys : List Message} {rs ss : List Object}

theorem of_recordless (hrecordless : ∀ m ∈ xs, m.record? = none) : Emits name xs [] := by
  constructor
  · exact List.filterMap_eq_nil_iff.mpr (fun m hm => by simp [hrecordless m hm])
  · intro r hr
    have hnone := hrecordless _ hr
    simp [Message.record?] at hnone

theorem cons (r : Object) (stamp : Int) (hxs : Emits name xs rs) :
    Emits name (.record ⟨name, r, stamp⟩ :: xs) (r :: rs) := by
  constructor
  · rw [recordsIn_cons_record, hxs.1]
  · intro q hq
    rcases List.mem_cons.mp hq with hhead | hrest
    · cases hhead
      rfl
    · exact hxs.2 q hrest

theorem append (hxs : Emits name xs rs) (hys : Emits name ys ss) :
    Emits name (xs ++ ys) (rs ++ ss) := by
  constructor
  · rw [recordsIn_append, hxs.1, hys.1]
  · intro r hr
    rcases List.mem_append.mp hr with hr | hr
    · exact hxs.2 r hr
    · exact hys.2 r hr

end Emits

/-- Every snapshot in the messages satisfies a property together with what was emitted
before it. -/
def EverySnapshot (P : List Message → SyncState → Prop) (messages : List Message) : Prop :=
  ∀ before a after, messages = before ++ .state a :: after → P before a

namespace EverySnapshot

variable {P Q : List Message → SyncState → Prop} {xs ys : List Message}

theorem imp (hxs : EverySnapshot P xs) (himp : ∀ before a, P before a → Q before a) :
    EverySnapshot Q xs :=
  fun before a after hsplit => himp before a (hxs before a after hsplit)

theorem and (hp : EverySnapshot P xs) (hq : EverySnapshot Q xs) :
    EverySnapshot (fun before a => P before a ∧ Q before a) xs :=
  fun before a after hsplit => ⟨hp before a after hsplit, hq before a after hsplit⟩

/-- A snapshot stands behind what was emitted before it. -/
theorem position (xs : List Message) :
    EverySnapshot (fun before a => before ++ [.state a] <+: xs) xs := by
  rintro before a after rfl
  exact ⟨after, by simp⟩

theorem of_stateless (hstateless : ∀ m ∈ xs, m.state? = none) : EverySnapshot P xs := by
  rintro before a after rfl
  have hnone := hstateless (.state a) (by simp)
  simp [Message.state?] at hnone

/-- The snapshots of two lists put together are those of the first, and those of the
second behind all of the first. -/
theorem append (hxs : EverySnapshot P xs) (hys : EverySnapshot (fun mid => P (xs ++ mid)) ys) :
    EverySnapshot P (xs ++ ys) := by
  intro before a after hsplit
  rcases List.append_eq_append_iff.mp hsplit with ⟨mid, rfl, hrest⟩ | ⟨mid, hleft, hright⟩
  · exact hys mid a after hrest
  · cases mid with
    | nil =>
        have hxs : before = xs := by simpa using hleft.symm
        subst hxs
        simpa using hys [] a after (by simpa using hright.symm)
    | cons m mid =>
        obtain ⟨rfl, hafter⟩ := List.cons.inj hright
        exact hxs before a mid hleft

theorem append_stateless (hxs : EverySnapshot P xs) (hys : ∀ m ∈ ys, m.state? = none) :
    EverySnapshot P (xs ++ ys) :=
  hxs.append (of_stateless hys)

theorem concat (hxs : EverySnapshot P xs) {a : SyncState} (ha : P xs a) :
    EverySnapshot P (xs ++ [.state a]) := by
  apply hxs.append
  intro before b after hsplit
  cases before with
  | nil =>
      obtain ⟨hstate, _⟩ := List.cons.inj hsplit
      cases hstate
      simpa using ha
  | cons m before => simp at hsplit

theorem of_prefix (hxs : EverySnapshot P xs) (hbegins : ys <+: xs) : EverySnapshot P ys := by
  obtain ⟨rest, rfl⟩ := hbegins
  rintro before a after rfl
  exact hxs before a (after ++ rest) (by simp)

end EverySnapshot

end Sync

end SourceSync
