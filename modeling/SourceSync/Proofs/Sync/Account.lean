/-
The account of a read that finishes. The outcome is kept beside what is emitted and says
the same: the state published last, the number of records and of snapshots, the number
of streams; and every stream closes with the number of records emitted for it.
-/
import SourceSync.Proofs.Sync.Marks
import SourceSync.Proofs.Sync.Snapshot

namespace SourceSync.Sync

open Json

variable {ω : Type}

def snapshotsIn (messages : List Message) : List SyncState :=
  messages.filterMap Message.state?

theorem lastSnapshot_eq_getLast? (prior : SyncState) (messages : List Message) :
    lastSnapshot prior messages = (snapshotsIn messages).getLast?.getD prior := by
  induction messages generalizing prior with
  | nil => rfl
  | cons m rest ih =>
      cases hstate : m.state? with
      | none => simpa [lastSnapshot, snapshotsIn, hstate] using ih prior
      | some a => simpa [lastSnapshot, snapshotsIn, hstate, List.getLast?_cons] using ih a

/-- The counts when messages have been emitted and streams have been read to their end. -/
def Stats.after (s : Stats) (messages : List Message) (streams : Nat) : Stats :=
  { s with
    records := s.records + (recordsIn messages).length
    stateMessages := s.stateMessages + (snapshotsIn messages).length
    streams := s.streams + streams }

theorem Stats.after_after (s : Stats) (xs ys : List Message) (m n : Nat) :
    (s.after xs m).after ys n = s.after (xs ++ ys) (m + n) := by
  simp only [after, recordsIn, snapshotsIn, List.filterMap_append, List.length_append,
    Nat.add_assoc]

/-- Messages that are neither records nor snapshots are not counted. -/
theorem Stats.after_quiet_append (s : Stats) {quiet : List Message} (messages : List Message)
    (streams : Nat) (hquiet : ∀ m ∈ quiet, m.record? = none ∧ m.state? = none) :
    s.after (quiet ++ messages) streams = s.after messages streams := by
  have hrecords : recordsIn quiet = [] :=
    List.filterMap_eq_nil_iff.mpr (fun m hm => by simp [(hquiet m hm).1])
  have hsnapshots : snapshotsIn quiet = [] :=
    List.filterMap_eq_nil_iff.mpr (fun m hm => (hquiet m hm).2)
  simp only [after, recordsIn_append, snapshotsIn, List.filterMap_append] at hsnapshots ⊢
  rw [hrecords, hsnapshots, List.nil_append, List.nil_append]

namespace Engine

variable {e : Engine ω} {name : String} {incremental : Option Incremental} {s t : Position ω}

theorem Advances.stats_eq {r : Object} {world : ω} {snapshot : List (Emission ω)}
    (hadvances : e.Advances name s r world incremental snapshot t) :
    t.progress.stats =
      s.progress.stats.after (messagesOf (e.recordEmission name r world :: snapshot)) 0 := by
  cases hadvances <;> rfl

theorem Takes.stats_eq {taken : List (Pull ω)} {es : List (Emission ω)}
    (htakes : e.Takes name incremental s taken es t) :
    t.progress.stats = s.progress.stats.after (messagesOf es) 0 := by
  induction htakes with
  | nil s => rfl
  | cons hadvances _ ih => rw [ih, hadvances.stats_eq, Stats.after_after, messagesOf_append]

theorem closingAt_stats {finish : ω} {q : Progress ω}
    (hreached : (e.closingAt name incremental finish s).reached = .ok q) :
    q.stats = s.progress.stats.after
      (messagesOf (e.closingAt name incremental finish s).emissions) 1 := by
  rcases publishes_or_not incremental s.cursor with ⟨hincremental, hcursor⟩ | hnone
  · rw [closingAt_of_published e hincremental hcursor] at hreached ⊢
    cases hreached
    rfl
  · rw [closingAt_of_unpublished e hnone] at hreached ⊢
    cases hreached
    rfl

end Engine

open Engine

theorem Chapter.stats_of_reached {e : Engine ω} {ch : Chapter ω} {q : Progress ω}
    (hreached : (ch.leg e).reached = .ok q) :
    q.stats = ch.start.stats.after (ch.messages e) 1 := by
  obtain ⟨taken, rest, es, t, -, htakes, hend⟩ := leg_cases e ch.stream ch.choice ch.start
  rcases hend with ⟨-, hleg⟩ | ⟨last, stop, world, -, hleg⟩
  · rw [leg, hleg] at hreached
    have hstart : (entry ch.stream ch.choice ch.start).progress = ch.start := rfl
    rw [closingAt_stats hreached, htakes.stats_eq, hstart, Stats.after_after, messages, leg, hleg,
      Leg.after, messagesOf_append, messagesOf_append, List.append_assoc,
      Stats.after_quiet_append _ _ _ (e.heading_quiet _ _ _)]
  · rw [leg, hleg] at hreached
    cases hreached

namespace Engine

section ReadsAll

variable {e : Engine ω} {streams : List (DataStream ω)} {p q : Progress ω}
  {done : List ConfiguredStream} {es : List (Emission ω)}

theorem ReadsAll.stats_eq (hdone : e.ReadsAll streams p done es q) :
    q.stats = p.stats.after (messagesOf es) done.length := by
  induction hdone with
  | nil p => rfl
  | @cons p q u c s rest es hlookup hreached _ ih =>
      have hleg : (Chapter.leg e ⟨c, s, p⟩).reached = .ok q := hreached
      rw [ih, Chapter.stats_of_reached hleg, Stats.after_after, messagesOf_append,
        List.length_cons, Nat.add_comm 1]
      rfl

theorem ReadsAll.aggregate_eq (hdone : e.ReadsAll streams p done es q) :
    q.aggregate = lastSnapshot p.aggregate (messagesOf es) := by
  induction hdone with
  | nil p => rfl
  | @cons p q u c s rest es hlookup hreached _ ih =>
      have hleg : (Chapter.leg e ⟨c, s, p⟩).reached = .ok q := hreached
      rw [ih, Chapter.aggregate_of_reached hleg, messagesOf_append, lastSnapshot_append]
      rfl

/-- Streams that are read to their end have one chapter each. -/
theorem ReadsAll.messages_chapters (hdone : e.ReadsAll streams p done es q) :
    messagesOf es = e.messagesIn (e.chapters streams p done) ∧
      (e.chapters streams p done).map Chapter.choice = done ∧
      ∀ ch ∈ e.chapters streams p done, ∃ u, (ch.leg e).reached = .ok u := by
  induction hdone with
  | nil p => exact ⟨rfl, rfl, by simp [Engine.chapters]⟩
  | @cons p q u c s rest es hlookup hreached _ ih =>
      obtain ⟨hmessages, hchoices, hchapters⟩ := ih
      rw [chapters_cons_of_ok rest hlookup hreached, messagesOf_append, hmessages, List.map_cons,
        hchoices]
      refine ⟨rfl, rfl, ?_⟩
      intro ch hch
      rcases List.mem_cons.mp hch with rfl | hrest
      · exact ⟨q, hreached⟩
      · exact hchapters ch hrest

theorem ReadsAll.legs_eq (hdone : e.ReadsAll streams p done es q) :
    e.legs streams p done =
      ⟨es ++ [⟨e.finish, q.world, none⟩], .finished ⟨q.aggregate, q.stats⟩, q.world⟩ := by
  have hlegs := hdone.legs_append []
  rw [List.append_nil] at hlegs
  rw [hlegs]
  rfl

end ReadsAll

section Finished

variable {e : Engine ω} {config : Value} {catalog : ConfiguredCatalog}
  {state : Option SyncState} {world : ω} {streams : List (DataStream ω)}

/-- A read that finishes has read all chosen streams to their end. -/
theorem exists_readsAll_of_finished {sink : Sink} {o : Outcome}
    (hfinished : (e.read config catalog state sink world).result = .finished o) :
    ∃ streams es q, e.source.streams config = .ok streams ∧
      e.ReadsAll streams (.initial state world) catalog.streams es q ∧
      o = ⟨q.aggregate, q.stats⟩ ∧
      (e.read config catalog state sink world).messages =
        e.opening :: (messagesOf es ++ [e.finish]) := by
  obtain ⟨hending, hmessages⟩ := Script.perform_finished e.secrets hfinished
  cases hstreams : e.source.streams config with
  | error stop =>
      rw [e.script_of_error hstreams] at hending
      exact absurd hending (Ending.ofStop_ne_finished _ stop o)
  | ok streams =>
      obtain ⟨done, rest, es, q, hchoices, hdone, hend⟩ :=
        exists_readsAll e streams (.initial state world) catalog.streams
      rw [read, hmessages]
      rw [e.script_of_ok hstreams, hchoices, hdone.legs_append] at hending ⊢
      -- A stream that is not found or stops gives the script another ending.
      rcases hend with rfl | ⟨c, later, rfl, hlookup | ⟨s, stop, hlookup, hreached⟩⟩
      · cases hending
        refine ⟨streams, es, q, rfl, ?_, rfl, ?_⟩
        · rwa [List.append_nil]
        · simp [Script.after, legs, finish]
      · rw [legs_cons_of_none _ hlookup] at hending
        cases hending
      · obtain ⟨stop, after⟩ := stop
        rw [legs_cons_of_error _ hlookup hreached] at hending
        exact absurd hending (Ending.ofStop_ne_finished _ stop o)

/-- The outcome of a read that finishes, on whatever sink, says what was emitted: the state
published last, or the state before if none was published, and how many records, snapshots
and streams there were. The messages are the opening, one chapter for each chosen stream,
and the finish; every chapter closes with the number of records emitted in it. -/
theorem outcome_accounts {sink : Sink} {o : Outcome}
    (hfinished : (e.read config catalog state sink world).result = .finished o) :
    let messages := (e.read config catalog state sink world).messages
    o.state = (snapshotsIn messages).getLast?.getD (state.getD .empty) ∧
    o.stats.records = (recordsIn messages).length ∧
    o.stats.stateMessages = (snapshotsIn messages).length ∧
    o.stats.streams = catalog.streams.length ∧
    ∃ streams, e.source.streams config = .ok streams ∧
      let chapters := e.chapters streams (.initial state world) catalog.streams
      chapters.map Chapter.choice = catalog.streams ∧
      messages = e.opening :: (e.messagesIn chapters ++ [e.finish]) ∧
      ∀ ch ∈ chapters, lookup? streams ch.choice = some ch.stream ∧
        ∃ resumed body,
          ch.Parts e resumed body [e.summary ch.stream.name (recordsIn body).length] := by
  obtain ⟨streams, es, q, hstreams, hdone, rfl, hmessages⟩ := exists_readsAll_of_finished hfinished
  obtain ⟨hchapters, hchoices, hends⟩ := hdone.messages_chapters
  intro messages
  have hmessages : messages = e.opening :: (messagesOf es ++ [e.finish]) := hmessages
  have hsnapshots : snapshotsIn messages = snapshotsIn (messagesOf es) := by
    rw [hmessages]
    exact (List.filterMap_append (l := messagesOf es)).trans (List.append_nil _)
  have hrecords : recordsIn messages = recordsIn (messagesOf es) := by
    rw [hmessages]
    exact (recordsIn_append (messagesOf es) _).trans (List.append_nil _)
  rw [hsnapshots, hrecords, ← lastSnapshot_eq_getLast?, hdone.stats_eq]
  refine ⟨hdone.aggregate_eq, Nat.zero_add _, Nat.zero_add _, Nat.zero_add _, streams, hstreams,
    hchoices, hchapters ▸ hmessages, ?_⟩
  intro ch hch
  obtain ⟨u, hreached⟩ := hends ch hch
  obtain ⟨resumed, body, closing, hparts⟩ := Chapter.exists_parts e ch
  refine ⟨e.lookup?_of_mem_chapters streams hch, resumed, body, ?_⟩
  rcases hparts.closes with ⟨-, hclosing⟩ | ⟨⟨stop, hstop⟩, -⟩
  · exact hclosing ▸ hparts
  · rw [hreached] at hstop
    cases hstop

end Finished

end Engine

namespace AccountExample

open SnapshotExample

/-- The stream that takes its cursor back, chosen in both modes. -/
def catalog : ConfiguredCatalog :=
  ⟨[⟨stream.descriptor, .incremental, none⟩, ⟨stream.descriptor, .fullRefresh, none⟩]⟩

def prior : SyncState := .ofEntries [("t", [])]

def outcome : Outcome := ⟨prior.put "s" [("seq", .bool true)], ⟨4, 2, 2, 0⟩⟩

end AccountExample

open SnapshotExample AccountExample in
/-- The second snapshot of the first chapter changes nothing, and the second chapter
publishes nothing. -/
theorem Engine.outcome_accounts_both :
    let messages := (engine.read .null AccountExample.catalog (some prior) .unlimited ()).messages
    (engine.read .null AccountExample.catalog (some prior) .unlimited ()).result =
        .finished outcome ∧
      outcome.state = (snapshotsIn messages).getLast?.getD prior ∧
      (recordsIn messages).length = 4 ∧ (snapshotsIn messages).length = 2 ∧
      AccountExample.catalog.streams.length = 2 := by
  have hfinished : (engine.read .null AccountExample.catalog (some prior) .unlimited ()).result =
      .finished outcome := rfl
  obtain ⟨hstate, hrecords, hsnapshots, hstreams, -⟩ := outcome_accounts hfinished
  exact ⟨hfinished, hstate, hrecords.symm, hsnapshots.symm, hstreams.symm⟩

end SourceSync.Sync
