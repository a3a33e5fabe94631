/-
What one incremental reading publishes. An invariant ties three things together
while records are taken: the messages emitted so far, the cursor folded from the
records among them, and the aggregate state. Every snapshot in the messages is
the state published before it with that cursor merged into it.
-/
import SourceSync.Proofs.State
import SourceSync.Proofs.Sync.Chapter
import SourceSync.Proofs.Sync.Published

namespace SourceSync

open Json

/-- The cursor state folded from records, by a stream that has folded some before. -/
def Incremental.foldAll (i : Incremental) : Nat → Object → List Object → Except Stop Object
  | _, cursor, [] => .ok cursor
  | folds, cursor, r :: rest =>
    match i.fold folds cursor r with
    | .error stop => .error stop
    | .ok folded => i.foldAll (folds + 1) folded rest

theorem Incremental.foldAll_concat {i : Incremental} {folds : Nat} {seed cursor folded : Object}
    {records : List Object} {r : Object} (hcursor : i.foldAll folds seed records = .ok cursor)
    (hfold : i.fold (folds + records.length) cursor r = .ok folded) :
    i.foldAll folds seed (records ++ [r]) = .ok folded := by
  induction records generalizing folds seed with
  | nil =>
      cases hcursor
      have hfirst : i.fold folds cursor r = .ok folded := hfold
      simp only [List.nil_append, foldAll, hfirst]
  | cons first rest ih =>
      simp only [foldAll] at hcursor
      split at hcursor
      · cases hcursor
      · rename_i next hnext
        simp only [List.cons_append, foldAll, hnext]
        apply ih hcursor
        simpa [Nat.add_assoc, Nat.add_comm 1] using hfold

namespace Sync

variable {ω : Type}

/-- What a snapshot `a` of a stream says behind the messages `before`: the state
published last, with the fold of the records among them merged into it. All that has
happened to the state `base` until then belongs to the stream. -/
def Covers (i : Incremental) (name : String) (base : SyncState) (folds : Nat) (seed : Object)
    (before : List Message) (a : SyncState) : Prop :=
  ∃ cursor, i.foldAll folds seed (recordsIn before) = .ok cursor ∧
    base.Touches name (lastSnapshot base before) ∧
    a = (lastSnapshot base before).merge name cursor

/-- The invariant of an incremental reading that has emitted the given messages. -/
structure Tracks (i : Incremental) (name : String) (base : SyncState) (folds : Nat)
    (seed : Object) (messages : List Message) (s : Position ω) : Prop where
  folded : i.foldAll folds seed (recordsIn messages) = .ok s.cursor
  counted : s.progress.foldCount name = folds + (recordsIn messages).length
  published : s.progress.aggregate = lastSnapshot base messages
  touches : base.Touches name s.progress.aggregate
  covers : EverySnapshot (Covers i name base folds seed) messages

namespace Tracks

variable {i : Incremental} {name : String} {base : SyncState} {folds : Nat} {seed : Object}
  {messages : List Message} {s : Position ω}

/-- Messages that are neither records nor snapshots change nothing. -/
theorem append_quiet (htracks : Tracks i name base folds seed messages s) (quiet : List Message)
    (hrecords : recordsIn quiet = []) (hstateless : ∀ m ∈ quiet, m.state? = none) :
    Tracks i name base folds seed (messages ++ quiet) s where
  folded := by simpa [hrecords] using htracks.folded
  counted := by simpa [hrecords] using htracks.counted
  published := by
    rw [lastSnapshot_append, lastSnapshot_of_stateless _ hstateless, htracks.published]
  touches := htracks.touches
  covers := htracks.covers.append_stateless hstateless

/-- A record is emitted and folded. -/
theorem fold_record (htracks : Tracks i name base folds seed messages s) {r : StreamRecord}
    {cursor : Object} {t : Position ω}
    (hfold : i.fold (s.progress.foldCount name) s.cursor r.data = .ok cursor)
    (hcursor : t.cursor = cursor)
    (hcount : t.progress.foldCount name = s.progress.foldCount name + 1)
    (haggregate : t.progress.aggregate = s.progress.aggregate) :
    Tracks i name base folds seed (messages ++ [.record r]) t where
  folded := by
    rw [hcursor, recordsIn_append]
    exact Incremental.foldAll_concat htracks.folded (htracks.counted ▸ hfold)
  counted := by
    rw [hcount, htracks.counted, recordsIn_append, List.length_append]
    rfl
  published := by
    rw [haggregate, htracks.published, lastSnapshot_append]
    rfl
  touches := haggregate ▸ htracks.touches
  covers := htracks.covers.append_stateless (by simp [Message.state?])

/-- The cursor is published. -/
theorem publish (htracks : Tracks i name base folds seed messages s) :
    Tracks i name base folds seed
      (messages ++ [.state (s.progress.aggregate.merge name s.cursor)])
      { s with progress := s.progress.publish name s.cursor } where
  folded := by simpa only [recordsIn_concat_state] using htracks.folded
  counted := by
    rw [Progress.foldCount_publish, recordsIn_concat_state]
    exact htracks.counted
  published := by
    rw [lastSnapshot_append]
    rfl
  touches := htracks.touches.merge s.cursor
  covers := by
    apply htracks.covers.concat
    refine ⟨s.cursor, htracks.folded, ?_, ?_⟩
    · rw [← htracks.published]
      exact htracks.touches
    · rw [← htracks.published]

variable {e : Engine ω}

theorem advance (htracks : Tracks i name base folds seed messages s) {r : Object} {world : ω}
    {snapshot : List (Emission ω)} {t : Position ω}
    (hadvances : e.Advances name s r world (some i) snapshot t) :
    Tracks i name base folds seed
      (messages ++ messagesOf (e.recordEmission name r world :: snapshot)) t := by
  cases hadvances with
  | folded hfold hdue =>
      exact htracks.fold_record hfold rfl (Progress.foldCount_addFold _ name) rfl
  | published hfold hdue =>
      have hfolded := htracks.fold_record (r := ⟨name, r, e.stamp⟩) hfold
        (t := ⟨s.records + 1, _, (s.progress.addRecord world).addFold name⟩) rfl
        (Progress.foldCount_addFold _ name) rfl
      have hpublished := hfolded.publish
      rwa [List.append_assoc] at hpublished

theorem take (htracks : Tracks i name base folds seed messages s) {taken : List (Pull ω)}
    {es : List (Emission ω)} {t : Position ω}
    (htakes : e.Takes name (some i) s taken es t) :
    Tracks i name base folds seed (messages ++ messagesOf es) t := by
  induction htakes generalizing messages with
  | nil s => simpa using htracks
  | cons hadvances _ ih =>
      have hnext := ih (htracks.advance hadvances)
      rwa [List.append_assoc, ← messagesOf_append] at hnext

end Tracks

namespace Engine

variable {e : Engine ω} {name : String}

/-- What follows a record holds no other record. -/
theorem Advances.recordless {incremental : Option Incremental} {s t : Position ω} {r : Object}
    {world : ω} {snapshot : List (Emission ω)}
    (hadvances : e.Advances name s r world incremental snapshot t) :
    ∀ m ∈ messagesOf snapshot, m.record? = none := by
  cases hadvances <;> simp [messagesOf, emission, Message.record?]

/-- The records taken are the records emitted. -/
theorem Takes.emits {incremental : Option Incremental} {s t : Position ω}
    {taken : List (Pull ω)} {es : List (Emission ω)}
    (htakes : e.Takes name incremental s taken es t) :
    ∃ records, taken.map Pull.item = records.map Item.record ∧
      Emits name (messagesOf es) records := by
  induction htakes with
  | nil s => exact ⟨[], rfl, .of_recordless (by simp)⟩
  | @cons s t u r world snapshot es rest hadvances _ ih =>
      obtain ⟨records, hitems, hemits⟩ := ih
      refine ⟨r :: records, by rw [List.map_cons, List.map_cons, hitems], ?_⟩
      rw [messagesOf_append]
      exact ((Emits.of_recordless hadvances.recordless).append hemits).cons r e.stamp

/-- A reading that halts emits at most the next record. -/
theorem Halts.emits {incremental : Option Incremental} {s : Position ω} {pulls : List (Pull ω)}
    {last : List (Emission ω)} {stop : Stop} {world : ω}
    (hhalts : e.Halts name incremental s pulls last stop world) :
    ∃ records, records.map Item.record <+: pulls.map Pull.item ∧
      Emits name (messagesOf last) records := by
  cases hhalts with
  | fault f world rest => exact ⟨[], List.nil_prefix, .of_recordless (by simp)⟩
  | crash c world rest => exact ⟨[], List.nil_prefix, .of_recordless (by simp)⟩
  | @fold i r f world rest =>
      refine ⟨[r], ?_, (Emits.of_recordless (by simp)).cons r e.stamp⟩
      exact List.cons_prefix_cons.mpr ⟨rfl, List.nil_prefix⟩

variable (e name) in
theorem closingAt_recordless (incremental : Option Incremental) (finish : ω) (s : Position ω) :
    ∀ m ∈ messagesOf (e.closingAt name incremental finish s).emissions, m.record? = none := by
  obtain ⟨snapshot, q, hclosing, hsnapshot⟩ := closingAt_cases e name incremental s finish
  rw [hclosing]
  rcases hsnapshot with rfl | rfl <;>
    simp [messagesOf, emission, summary, info, Log.format, Message.record?]

/-- A full read publishes nothing. -/
theorem Takes.stateless {s t : Position ω} {taken : List (Pull ω)} {es : List (Emission ω)}
    (htakes : e.Takes name none s taken es t) :
    (∀ m ∈ messagesOf es, m.state? = none) ∧ t.progress.aggregate = s.progress.aggregate := by
  induction htakes with
  | nil s => simp
  | cons hadvances _ ih =>
      cases hadvances
      refine ⟨?_, ih.2⟩
      intro m hm
      rcases List.mem_cons.mp hm with rfl | hrest
      · rfl
      · exact ih.1 m hrest

end Engine

section Chapter

open Engine

variable {e : Engine ω} {ch : Chapter ω}

/-- Nothing is published by a full read. -/
theorem Chapter.stateless (hfull : tracking? ch.stream ch.choice = none) :
    (∀ m ∈ ch.messages e, m.state? = none) ∧
      ∀ q, (ch.leg e).reached = .ok q → q.aggregate = ch.start.aggregate := by
  obtain ⟨taken, rest, es, t, -, htakes, hend⟩ := leg_cases e ch.stream ch.choice ch.start
  rw [hfull] at htakes hend
  obtain ⟨hstateless, haggregate⟩ := htakes.stateless
  have hbody : ∀ m ∈ messagesOf (e.heading ch.stream ch.choice ch.start ++ es),
      m.state? = none := by
    intro m hm
    rw [messagesOf_append] at hm
    rcases List.mem_append.mp hm with hm | hm
    · exact (e.heading_quiet _ _ _ m hm).2
    · exact hstateless m hm
  rcases hend with ⟨rfl, hleg⟩ | ⟨last, stop, world, hhalts, hleg⟩
  · rw [closingAt_of_unpublished e (Or.inl rfl)] at hleg
    simp only [Chapter.messages, Chapter.leg, hleg, Leg.after]
    constructor
    · intro m hm
      rw [messagesOf_append] at hm
      rcases List.mem_append.mp hm with hm | hm
      · exact hbody m hm
      · rw [List.mem_singleton.mp hm]
        rfl
    · intro q hq
      cases hq
      exact haggregate
  · simp only [Chapter.messages, Chapter.leg, hleg]
    constructor
    · intro m hm
      rw [messagesOf_append] at hm
      rcases List.mem_append.mp hm with hm | hm
      · exact hbody m hm
      · cases hhalts with
        | fault => simp at hm
        | crash => simp at hm
        | fold world rest hincremental => cases hincremental
    · intro q hq
      cases hq

/-- The snapshots of an incremental read, and the state it leaves. -/
theorem Chapter.covers {i : Incremental} (hincremental : tracking? ch.stream ch.choice = some i) :
    EverySnapshot (Covers i ch.stream.name ch.start.aggregate
        (ch.start.foldCount ch.stream.name) (entry ch.stream ch.choice ch.start).cursor)
      (ch.messages e) ∧
      ∀ q, (ch.leg e).reached = .ok q →
        q.aggregate = lastSnapshot ch.start.aggregate (ch.messages e) := by
  obtain ⟨taken, rest, es, t, -, htakes, hend⟩ := leg_cases e ch.stream ch.choice ch.start
  rw [hincremental] at htakes hend
  have hentry : Tracks i ch.stream.name ch.start.aggregate (ch.start.foldCount ch.stream.name)
      (entry ch.stream ch.choice ch.start).cursor [] (entry ch.stream ch.choice ch.start) :=
    ⟨rfl, rfl, rfl, Or.inl rfl, .of_stateless (by simp)⟩
  have hheading := hentry.append_quiet
    (messagesOf (e.heading ch.stream ch.choice ch.start))
    (List.filterMap_eq_nil_iff.mpr (fun m hm => by simp [(e.heading_quiet _ _ _ m hm).1]))
    (fun m hm => (e.heading_quiet _ _ _ m hm).2)
  have htracks := hheading.take htakes
  rw [List.nil_append, ← messagesOf_append] at htracks
  rcases hend with ⟨rfl, hleg⟩ | ⟨last, stop, world, hhalts, hleg⟩
  · by_cases hcursor : t.cursor = []
    · rw [closingAt_of_unpublished e (Or.inr hcursor)] at hleg
      have hclosed := htracks.append_quiet [e.summary ch.stream.name t.records] rfl
        (by simp [summary, info, Log.format, Message.state?])
      simp only [Chapter.messages, Chapter.leg, hleg, Leg.after, messagesOf_append]
      rw [messagesOf_append] at hclosed
      exact ⟨hclosed.covers, fun q hq => by cases hq; exact hclosed.published⟩
    · rw [closingAt_of_published e rfl hcursor] at hleg
      have hclosed := htracks.publish.append_quiet
        [e.summary ch.stream.name t.records] rfl
        (by simp [summary, info, Log.format, Message.state?])
      simp only [Chapter.messages, Chapter.leg, hleg, Leg.after, messagesOf_append]
      rw [messagesOf_append, List.append_assoc] at hclosed
      exact ⟨hclosed.covers, fun q hq => by cases hq; exact hclosed.published⟩
  · simp only [Chapter.messages, Chapter.leg, hleg]
    refine ⟨?_, fun q hq => by cases hq⟩
    rw [messagesOf_append]
    apply htracks.covers.append_stateless
    cases hhalts with
    | fault => simp
    | crash => simp
    | fold world rest hincremental hfold =>
        intro m hm
        rw [List.mem_singleton.mp hm]
        rfl

variable (e ch) in
/-- The records emitted in a chapter are the first ones its stream yields. -/
theorem Chapter.emits :
    ∃ records, records.map Item.record <+:
        (readingFrom ch.stream ch.choice ch.start).pulls.map Pull.item ∧
      Emits ch.stream.name (ch.messages e) records := by
  obtain ⟨taken, rest, es, t, hpulls, htakes, hend⟩ :=
    leg_cases e ch.stream ch.choice ch.start
  obtain ⟨records, hitems, htaken⟩ := htakes.emits
  have hheading : Emits ch.stream.name
      (messagesOf (e.heading ch.stream ch.choice ch.start)) [] :=
    .of_recordless (fun m hm => (e.heading_quiet _ _ _ m hm).1)
  have hbody := hheading.append htaken
  rw [List.nil_append, ← messagesOf_append] at hbody
  rw [hpulls, List.map_append, hitems]
  rcases hend with ⟨rfl, hleg⟩ | ⟨last, stop, world, hhalts, hleg⟩
  · have hclosed := hbody.append (.of_recordless (closingAt_recordless e ch.stream.name
      (tracking? ch.stream ch.choice) (readingFrom ch.stream ch.choice ch.start).finish t))
    refine ⟨records, List.prefix_append _ _, ?_⟩
    rw [List.append_nil, ← messagesOf_append] at hclosed
    rwa [Chapter.messages, Chapter.leg, hleg]
  · obtain ⟨more, hbegins, hlast⟩ := hhalts.emits
    refine ⟨records ++ more, ?_, ?_⟩
    · rw [List.map_append]
      exact (List.prefix_append_right_inj _).mpr hbegins
    · have hhalted := hbody.append hlast
      rw [← messagesOf_append] at hhalted
      rwa [Chapter.messages, Chapter.leg, hleg]

end Chapter

end Sync

end SourceSync
