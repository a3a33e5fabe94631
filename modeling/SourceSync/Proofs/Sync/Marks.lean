/-
The course of one chapter as it is emitted. Behind its first line, and the line for the
state it resumes from, there are only the records and the snapshots of the stream. A
chapter that comes to its end closes with the number of these records.
-/
import SourceSync.Proofs.Sync.Tracking

namespace SourceSync

open Json

def Item.record? : Item → Option Object
  | .record r => some r
  | _ => none

def recordsOf {ω : Type} (pulls : List (Pull ω)) : List Object :=
  pulls.filterMap (fun pull => pull.item.record?)

theorem recordsOf_cons_record {ω : Type} (r : Object) (world : ω) (pulls : List (Pull ω)) :
    recordsOf (⟨.record r, world⟩ :: pulls) = r :: recordsOf pulls := rfl

namespace Sync

variable {ω : Type}

/-- What is emitted of a stream's data: a record, or a snapshot. -/
inductive Mark where
  | record (stream : String) (data : Object)
  | snapshot

/-- The mark of a message, if it is a record or a snapshot. -/
def markOf? : Message → Option Mark
  | .record r => some (.record r.stream r.data)
  | .state _ => some .snapshot
  | _ => none

/-- The records and the snapshots among messages, in order. -/
def marks (messages : List Message) : List Mark :=
  messages.filterMap markOf?

@[simp] theorem marks_append (xs ys : List Message) : marks (xs ++ ys) = marks xs ++ marks ys :=
  List.filterMap_append

/-- A message without a mark is neither a record nor a snapshot. -/
theorem markOf?_eq_none_iff (m : Message) :
    markOf? m = none ↔ m.record? = none ∧ m.state? = none := by
  cases m <;> simp [markOf?, Message.record?, Message.state?]

theorem marks_of_quiet {messages : List Message}
    (hquiet : ∀ m ∈ messages, m.record? = none ∧ m.state? = none) : marks messages = [] :=
  List.filterMap_eq_nil_iff.mpr (fun m hm => (markOf?_eq_none_iff m).mpr (hquiet m hm))

theorem snapshot_not_mem_marks {messages : List Message}
    (hstateless : ∀ m ∈ messages, m.state? = none) : Mark.snapshot ∉ marks messages := by
  intro hmem
  obtain ⟨m, hm, hmark⟩ := List.mem_filterMap.mp hmem
  have hnone := hstateless m hm
  cases m <;> simp_all [markOf?, Message.state?]

theorem length_recordsIn_le (messages : List Message) :
    (recordsIn messages).length ≤ (marks messages).length := by
  induction messages with
  | nil => exact Nat.le_refl 0
  | cons m rest ih =>
      cases m with
      | record r => exact Nat.succ_le_succ ih
      | state a => exact Nat.le_succ_of_le ih
      | log level text => exact ih
      | catalog c => exact ih
      | connectionStatus s => exact ih

namespace Engine

/-- The first line of a stream. -/
def announcement (e : Engine ω) (name : String) : Message :=
  e.info s!"Syncing stream: {name}"

/-- The line for the state that a stream resumes from. -/
def resumption (e : Engine ω) (name : String) (state : Object) : Message :=
  e.info s!"Setting state of {name} stream to {(Value.object state).text}"

variable {e : Engine ω} {name : String} {incremental : Option Incremental} {s t : Position ω}
  {taken : List (Pull ω)} {es : List (Emission ω)}

theorem Takes.items_eq (htakes : e.Takes name incremental s taken es t) :
    taken.map Pull.item = (recordsOf taken).map Item.record := by
  induction htakes with
  | nil s => rfl
  | @cons s t u r world snapshot es rest _ _ ih => exact congrArg (Item.record r :: ·) ih

/-- For every record taken its message is emitted, and nothing but snapshots besides. -/
theorem Takes.recordsIn_eq (htakes : e.Takes name incremental s taken es t) :
    Sync.recordsIn (messagesOf es) = recordsOf taken := by
  obtain ⟨records, hitems, hemits⟩ := htakes.emits
  have hsame : (recordsOf taken).map Item.record = records.map Item.record :=
    htakes.items_eq.symm.trans hitems
  rw [hemits.1, (List.map_inj_right (fun _ _ => Item.record.inj)).mp hsame]

theorem Advances.records_eq {r : Object} {world : ω} {snapshot : List (Emission ω)}
    (hadvances : e.Advances name s r world incremental snapshot t) :
    t.records = s.records + 1 := by
  cases hadvances <;> rfl

theorem Takes.records_eq (htakes : e.Takes name incremental s taken es t) :
    t.records = s.records + (recordsOf taken).length := by
  induction htakes with
  | nil s => rfl
  | @cons s t u r world snapshot es rest hadvances _ ih =>
      rw [ih, hadvances.records_eq, recordsOf_cons_record, List.length_cons]
      omega

theorem Advances.marked {r : Object} {world : ω} {snapshot : List (Emission ω)}
    (hadvances : e.Advances name s r world incremental snapshot t) :
    ∀ m ∈ messagesOf (e.recordEmission name r world :: snapshot), (markOf? m).isSome := by
  cases hadvances <;> simp [messagesOf, recordEmission, emission, recordMessage, markOf?]

theorem Takes.marked (htakes : e.Takes name incremental s taken es t) :
    ∀ m ∈ messagesOf es, (markOf? m).isSome := by
  induction htakes with
  | nil s => simp
  | cons hadvances _ ih =>
      intro m hm
      rw [messagesOf_append] at hm
      exact (List.mem_append.mp hm).elim (hadvances.marked m) (ih m)

theorem Halts.marked {pulls : List (Pull ω)} {last : List (Emission ω)} {stop : Stop} {world : ω}
    (hhalts : e.Halts name incremental s pulls last stop world) :
    ∀ m ∈ messagesOf last, (markOf? m).isSome := by
  cases hhalts <;> simp [messagesOf, recordEmission, emission, recordMessage, markOf?]

end Engine

open Engine

/-- The parts of a chapter: its first line, the line for the state it resumes from, the
records and the snapshots, and the number of the records if it came to its end. -/
structure Chapter.Parts (e : Engine ω) (ch : Chapter ω) (resumed body closing : List Message) :
    Prop where
  messages : ch.messages e = e.announcement ch.stream.name :: (resumed ++ body ++ closing)
  resumes : resumed = [] ∨ ∃ state, resumed = [e.resumption ch.stream.name state]
  marked : ∀ m ∈ body, (markOf? m).isSome
  closes : (∃ q, (ch.leg e).reached = .ok q) ∧
      closing = [e.summary ch.stream.name (recordsIn body).length] ∨
    (∃ stop, (ch.leg e).reached = .error stop) ∧ closing = []

theorem heading_parts (e : Engine ω) (stream : DataStream ω) (c : ConfiguredStream)
    (p : Progress ω) :
    ∃ resumed, messagesOf (e.heading stream c p) = e.announcement stream.name :: resumed ∧
      (resumed = [] ∨ ∃ state, resumed = [e.resumption stream.name state]) := by
  cases hseed : seed? (tracking? stream c) p stream.name with
  | none => exact ⟨[], by rw [heading, hseed]; rfl, Or.inl rfl⟩
  | some state => exact ⟨_, by rw [heading, hseed]; rfl, Or.inr ⟨state, rfl⟩⟩

theorem Chapter.exists_parts (e : Engine ω) (ch : Chapter ω) :
    ∃ resumed body closing, ch.Parts e resumed body closing := by
  obtain ⟨taken, rest, es, t, -, htakes, hend⟩ := leg_cases e ch.stream ch.choice ch.start
  obtain ⟨resumed, hheading, hresumed⟩ := heading_parts e ch.stream ch.choice ch.start
  have hcount : t.records = (Sync.recordsIn (messagesOf es)).length := by
    rw [htakes.recordsIn_eq, htakes.records_eq]
    exact Nat.zero_add _
  rcases hend with ⟨-, hleg⟩ | ⟨last, stop, world, hhalts, hleg⟩
  · obtain ⟨snapshot, q, hclosing, hsnapshot⟩ := closingAt_cases e ch.stream.name
      (tracking? ch.stream ch.choice) t (readingFrom ch.stream ch.choice ch.start).finish
    rw [hclosing] at hleg
    have hquiet : recordsIn (messagesOf snapshot) = [] := by rcases hsnapshot with rfl | rfl <;> rfl
    refine ⟨resumed, messagesOf (es ++ snapshot), [e.summary ch.stream.name t.records], ?_,
      hresumed, ?_, Or.inl ⟨⟨q, by rw [leg, hleg]; rfl⟩, ?_⟩⟩
    · rw [messages, leg, hleg]
      simp [Leg.after, hheading, emission]
    · intro m hm
      rw [messagesOf_append] at hm
      refine (List.mem_append.mp hm).elim (htakes.marked m) ?_
      rcases hsnapshot with rfl | rfl <;> simp +contextual [messagesOf, emission, markOf?]
    · rw [hcount, messagesOf_append, recordsIn_append, hquiet, List.append_nil]
  · refine ⟨resumed, messagesOf (es ++ last), [], ?_, hresumed, ?_,
      Or.inr ⟨⟨_, by rw [leg, hleg]⟩, rfl⟩⟩
    · rw [messages, leg, hleg]
      simp [hheading]
    · intro m hm
      rw [messagesOf_append] at hm
      exact (List.mem_append.mp hm).elim (htakes.marked m) (hhalts.marked m)

/-- All marks of a chapter are in its body. -/
theorem Chapter.Parts.marks_eq {e : Engine ω} {ch : Chapter ω} {resumed body closing : List Message}
    (hparts : ch.Parts e resumed body closing) : marks body = marks (ch.messages e) := by
  have hresumed : Sync.marks resumed = [] := by
    rcases hparts.resumes with rfl | ⟨state, rfl⟩ <;> rfl
  have hclosing : Sync.marks closing = [] := by
    rcases hparts.closes with ⟨-, rfl⟩ | ⟨-, rfl⟩ <;> rfl
  rw [hparts.messages]
  change _ = Sync.marks (resumed ++ body ++ closing)
  rw [marks_append, marks_append, hresumed, hclosing, List.nil_append, List.append_nil]

end Sync

end SourceSync
