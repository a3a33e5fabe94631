/-
What snapshots say. Every snapshot published while a stream is being read holds
the state from before that stream with the stream's entry replaced by the fold of
exactly the records emitted for it so far; an empty fold publishes what was
published last. So a snapshot never covers a record that was not emitted, loses
no stream and changes no entry but one.
-/
import SourceSync.Proofs.Sync.Tracking

namespace SourceSync.Sync

open Json Engine

variable {ω : Type}

/-- What a snapshot says that is published in a chapter behind the messages `mine`. The
aggregate was `base` before the chapter and `last` before the snapshot. -/
structure Chapter.Publishes (ch : Chapter ω) (base last : SyncState) (mine : List Message)
    (i : Incremental) (cursor : Object) (a : SyncState) : Prop where
  /-- Only an incremental read publishes. -/
  tracked : tracking? ch.stream ch.choice = some i
  /-- The cursor is the fold of the records emitted, from the state the stream was read from. -/
  folded : i.foldAll (ch.start.foldCount ch.stream.name)
    ((base.cursorFor? ch.stream.name).getD []) (recordsIn mine) = .ok cursor
  /-- The records emitted are the first ones that the stream yields. -/
  yielded : (recordsIn mine).map Item.record <+:
    (ch.stream.read ((base.cursorFor? ch.stream.name).getD []) ch.start.world).pulls.map Pull.item
  /-- All of them were emitted under the stream's name. -/
  named : ∀ r, .record r ∈ mine → r.stream = ch.stream.name
  /-- The stream's entry is replaced by the cursor. -/
  replaced : cursor ≠ [] → base.Replaces ch.stream.name cursor a
  /-- A cursor without content leaves what was published last. -/
  kept : cursor = [] → a = last
  /-- The entries of other streams are those from before the chapter. -/
  others : ∀ other, other ≠ ch.stream.name → a.get? other = base.get? other
  /-- No stream is dropped. -/
  stored : ∀ other, (last.get? other).isSome → (a.get? other).isSome

theorem entry_cursor_of_tracked {stream : DataStream ω} {c : ConfiguredStream} {i : Incremental}
    (htracked : tracking? stream c = some i) (p : Progress ω) :
    (entry stream c p).cursor = (p.aggregate.cursorFor? stream.name).getD [] := by
  rw [entry, htracked]
  rfl

theorem Chapter.publishes (e : Engine ω) (ch : Chapter ω) :
    EverySnapshot (fun mine a => ∃ i cursor, ch.Publishes ch.start.aggregate
      (lastSnapshot ch.start.aggregate mine) mine i cursor a) (ch.messages e) := by
  cases htracked : tracking? ch.stream ch.choice with
  | none => exact .of_stateless (Chapter.stateless htracked).1
  | some i =>
      have hcovers := (Chapter.covers (e := e) htracked).1
      have hcursor := entry_cursor_of_tracked htracked ch.start
      obtain ⟨records, hrecords, hemits⟩ := Chapter.emits e ch
      refine (hcovers.and (.position _)).imp ?_
      rintro mine a ⟨⟨cursor, hfolded, htouches, rfl⟩, hposition⟩
      have hmine : mine <+: ch.messages e := (List.prefix_append _ _).trans hposition
      rw [hcursor] at hfolded
      refine ⟨i, cursor, htracked, hfolded, ?_, ?_, ?_, ?_, ?_, ?_⟩
      · rw [← hcursor]
        have hbegins : recordsIn mine <+: records := hemits.1 ▸ hmine.filterMap _
        exact (hbegins.map _).trans hrecords
      · exact fun r hr => hemits.2 r (hmine.subset hr)
      · exact htouches.merge_replaces
      · rintro rfl
        exact SyncState.merge_nil _ _
      · exact fun other hne => (htouches.merge cursor).get?_of_ne hne
      · exact fun other => SyncState.isSome_get?_merge _ _ _

theorem Chapter.aggregate_of_reached {e : Engine ω} {ch : Chapter ω} {q : Progress ω}
    (hreached : (ch.leg e).reached = .ok q) :
    q.aggregate = lastSnapshot ch.start.aggregate (ch.messages e) := by
  cases htracked : tracking? ch.stream ch.choice with
  | none =>
      obtain ⟨hstateless, haggregate⟩ := Chapter.stateless (e := e) htracked
      rw [haggregate q hreached, lastSnapshot_of_stateless _ hstateless]
  | some i => exact (Chapter.covers htracked).2 q hreached

/-- A snapshot found in a read of chosen streams: the chapter it belongs to, the messages
of that chapter before it, and what it says. -/
structure Engine.PublishedAt (e : Engine ω) (streams : List (DataStream ω)) (p : Progress ω)
    (choices : List ConfiguredStream) (before : List Message) (a : SyncState) (n : Nat)
    (ch : Chapter ω) (mine : List Message) : Prop where
  chapter : (e.chapters streams p choices)[n]? = some ch
  choice : choices[n]? = some ch.choice
  stream : lookup? streams ch.choice = some ch.stream
  earlier : before = e.messagesIn ((e.chapters streams p choices).take n) ++ mine
  within : mine ++ [.state a] <+: ch.messages e
  start : ch.start.aggregate =
    lastSnapshot p.aggregate (e.messagesIn ((e.chapters streams p choices).take n))
  publishes : ∃ i cursor, ch.Publishes ch.start.aggregate
    (lastSnapshot ch.start.aggregate mine) mine i cursor a

section Legs

variable {e : Engine ω} {streams : List (DataStream ω)} {p q : Progress ω}
  {c : ConfiguredStream} {s : DataStream ω} {rest : List ConfiguredStream}

/-- The snapshots of the first stream's chapter. -/
theorem publishedAt_zero (hlookup : lookup? streams c = some s) {chapters : List (Chapter ω)}
    (hchapters : e.chapters streams p (c :: rest) = ⟨c, s, p⟩ :: chapters) :
    EverySnapshot (fun before a => ∃ n ch mine,
      e.PublishedAt streams p (c :: rest) before a n ch mine)
      (Chapter.messages e ⟨c, s, p⟩) := by
  refine ((Chapter.publishes e ⟨c, s, p⟩).and (.position _)).imp ?_
  rintro mine a ⟨hpublishes, hposition⟩
  refine ⟨0, ⟨c, s, p⟩, mine, ?_, rfl, hlookup, ?_, hposition, ?_, hpublishes⟩
  · rw [hchapters]
    rfl
  · simp [messagesIn]
  · rfl

/-- The snapshots behind the first stream's chapter. -/
theorem publishedAt_succ (hlookup : lookup? streams c = some s)
    (hreached : (e.leg s c p).reached = .ok q) {mid : List Message} {a : SyncState} {n : Nat}
    {ch : Chapter ω} {mine : List Message}
    (hpublished : e.PublishedAt streams q rest mid a n ch mine) :
    e.PublishedAt streams p (c :: rest) (Chapter.messages e ⟨c, s, p⟩ ++ mid) a (n + 1) ch
      mine := by
  have hchapters := chapters_cons_of_ok (e := e) rest hlookup hreached
  have hleg : (Chapter.leg e ⟨c, s, p⟩).reached = .ok q := hreached
  have haggregate := Chapter.aggregate_of_reached hleg
  have hmessages : e.messagesIn ((e.chapters streams p (c :: rest)).take (n + 1)) =
      Chapter.messages e ⟨c, s, p⟩ ++ e.messagesIn ((e.chapters streams q rest).take n) := by
    rw [hchapters, List.take_succ_cons, messagesIn, List.flatMap_cons]
    rfl
  refine ⟨?_, hpublished.choice, hpublished.stream, ?_, hpublished.within, ?_,
    hpublished.publishes⟩
  · rw [hchapters]
    exact hpublished.chapter
  · rw [hmessages, hpublished.earlier, List.append_assoc]
  · rw [hmessages, lastSnapshot_append, ← haggregate]
    exact hpublished.start

theorem Engine.legs_publishedAt (e : Engine ω) (streams : List (DataStream ω)) (p : Progress ω)
    (choices : List ConfiguredStream) :
    EverySnapshot (fun before a => ∃ n ch mine,
      e.PublishedAt streams p choices before a n ch mine)
      (messagesOf (e.legs streams p choices).emissions) := by
  induction choices generalizing p with
  | nil => exact .of_stateless (by simp [legs, info, Log.format, Message.state?])
  | cons c rest ih =>
      cases hlookup : lookup? streams c with
      | none =>
          rw [legs_cons_of_none rest hlookup]
          exact .of_stateless (by simp)
      | some s =>
          cases hreached : (e.leg s c p).reached with
          | error stopped =>
              rw [legs_cons_of_error rest hlookup hreached]
              exact publishedAt_zero hlookup (chapters_cons_of_error rest hlookup hreached)
          | ok q =>
              rw [legs_cons_of_ok rest hlookup hreached, Script.after, messagesOf_append]
              refine (publishedAt_zero hlookup
                (chapters_cons_of_ok rest hlookup hreached)).append ?_
              refine (ih q).imp ?_
              rintro mid a ⟨n, ch, mine, hpublished⟩
              exact ⟨n + 1, ch, mine, publishedAt_succ hlookup hreached hpublished⟩

end Legs

theorem Engine.script_publishedAt (e : Engine ω) {config : Value} {catalog : ConfiguredCatalog}
    {state : Option SyncState} {world : ω} {streams : List (DataStream ω)}
    (hstreams : e.source.streams config = .ok streams) :
    EverySnapshot (fun before a => ∃ mid n ch mine, before = e.opening :: mid ∧
      e.PublishedAt streams (.initial state world) catalog.streams mid a n ch mine)
      (messagesOf (e.script config catalog state world).emissions) := by
  rw [script_of_ok e hstreams, Script.after, messagesOf_append]
  refine EverySnapshot.append (.of_stateless ?_) ?_
  · simp [opening, info, Log.format, Message.state?]
  · refine (e.legs_publishedAt streams (.initial state world) catalog.streams).imp ?_
    rintro mid a ⟨n, ch, mine, hpublished⟩
    exact ⟨mid, n, ch, mine, rfl, hpublished⟩

/-- The log messages behind the emissions publish nothing. -/
theorem Engine.read_everySnapshot {P : List Message → SyncState → Prop} (e : Engine ω)
    (config : Value) (catalog : ConfiguredCatalog) (state : Option SyncState) (sink : Sink)
    (world : ω) (hscript : EverySnapshot P
      (messagesOf (e.script config catalog state world).emissions)) :
    EverySnapshot P (e.read config catalog state sink world).messages := by
  obtain ⟨taken, reports, hmessages, htaken, hreports⟩ :=
    Script.perform_messages e.secrets sink (e.script config catalog state world)
  rw [read, hmessages]
  refine (hscript.of_prefix htaken).append_stateless ?_
  intro m hm
  obtain ⟨context, f, hreport⟩ := hreports m hm
  rw [(reportMessage?_eq_some hreport).2]
  rfl

/-- Every snapshot that a sink is given, in a read that finishes, fails or is broken off,
belongs to the chapter of a chosen stream, the `n`-th one, and says exactly what that
chapter has emitted before it. -/
theorem Engine.snapshot_covers_emitted (e : Engine ω) (config : Value)
    (catalog : ConfiguredCatalog) (state : Option SyncState) (sink : Sink) (world : ω)
    {before after : List Message} {a : SyncState}
    (hread : (e.read config catalog state sink world).messages = before ++ .state a :: after) :
    ∃ streams, e.source.streams config = .ok streams ∧
      ∃ n ch earlier mine,
        (e.chapters streams (.initial state world) catalog.streams)[n]? = some ch ∧
        catalog.streams[n]? = some ch.choice ∧
        lookup? streams ch.choice = some ch.stream ∧
        earlier = e.opening ::
          e.messagesIn ((e.chapters streams (.initial state world) catalog.streams).take n) ∧
        before = earlier ++ mine ∧
        mine ++ [.state a] <+: ch.messages e ∧
        ∃ i cursor, ch.Publishes (lastSnapshot (state.getD .empty) earlier)
          (lastSnapshot (state.getD .empty) before) mine i cursor a := by
  cases hstreams : e.source.streams config with
  | error f =>
      -- Only the opening and the report are emitted, and neither is a snapshot.
      have hnone := e.read_everySnapshot (P := fun _ _ => False) config catalog state sink world
        (by
          rw [script_of_error e hstreams]
          exact .of_stateless (by simp [opening, info, Log.format, Message.state?]))
      exact absurd hread (fun hsplit => hnone before a after hsplit)
  | ok streams =>
      obtain ⟨mid, n, ch, mine, hbefore, hpublished⟩ :=
        e.read_everySnapshot config catalog state sink world (e.script_publishedAt hstreams)
          before a after hread
      obtain ⟨i, cursor, hpublishes⟩ := hpublished.publishes
      have hstart : ch.start.aggregate = lastSnapshot (state.getD .empty) (e.opening ::
          e.messagesIn ((e.chapters streams (.initial state world) catalog.streams).take n)) :=
        hpublished.start
      have hsplit : before = (e.opening ::
          e.messagesIn ((e.chapters streams (.initial state world) catalog.streams).take n)) ++
            mine := by
        rw [hbefore, hpublished.earlier, List.cons_append]
      refine ⟨streams, rfl, n, ch, _, mine, hpublished.chapter, hpublished.choice,
        hpublished.stream, rfl, hsplit, hpublished.within, i, cursor, ?_⟩
      rw [hsplit, lastSnapshot_append, ← hstart]
      exact hpublishes

namespace SnapshotExample

def latest : Incremental := ⟨.field "seq", true, true, fun _ _ r => .ok r⟩

/-- A stream whose second record takes the cursor back to nothing. -/
def stream : DataStream Unit where
  name := "s"
  schema := defaultSchema
  incremental := some latest
  read _ _ := ⟨[⟨.record [("seq", .bool true)], ()⟩, ⟨.record [], ()⟩], ()⟩

def engine : Engine Unit where
  source := ⟨"source", fun _ world => (.ok .passed, world), fun _ => .ok [stream]⟩
  secrets := .none
  policy := ⟨1⟩
  stamp := 0

def catalog : ConfiguredCatalog := ⟨[⟨stream.descriptor, .incremental, none⟩]⟩

/-- The state behind the first record. -/
def held : SyncState := .ofEntries [("s", [("seq", .bool true)])]

/-- What has been emitted when the second record was folded. -/
def emitted : List Message :=
  [engine.opening, engine.info "Syncing stream: s", .record ⟨"s", [("seq", .bool true)], 0⟩,
    .state held, .record ⟨"s", [], 0⟩]

theorem read_messages :
    (engine.read .null catalog none .unlimited ()).messages =
      emitted ++ .state held :: [engine.summary "s" 2, engine.finish] := by
  rfl

end SnapshotExample

open SnapshotExample in
/-- The second snapshot of a stream that takes its cursor back to nothing. -/
theorem Engine.snapshot_covers_emitted_second :
    (engine.read .null catalog none .unlimited ()).messages =
        emitted ++ .state held :: [engine.summary "s" 2, engine.finish] ∧
      ∃ streams, engine.source.streams .null = .ok streams ∧
        ∃ n ch earlier mine,
          (engine.chapters streams (.initial none ()) catalog.streams)[n]? = some ch ∧
          catalog.streams[n]? = some ch.choice ∧
          lookup? streams ch.choice = some ch.stream ∧
          earlier = engine.opening :: engine.messagesIn
            ((engine.chapters streams (.initial none ()) catalog.streams).take n) ∧
          emitted = earlier ++ mine ∧
          mine ++ [.state held] <+: ch.messages engine ∧
          ∃ i cursor, ch.Publishes (lastSnapshot .empty earlier) (lastSnapshot .empty emitted)
            mine i cursor held :=
  ⟨read_messages, engine.snapshot_covers_emitted .null catalog none .unlimited () read_messages⟩

open SnapshotExample in
/-- A cursor without content does not always leave the state from before the chapter: what
the chapter itself has published stays. -/
theorem Engine.snapshot_keeps_published :
    (engine.read .null catalog none .unlimited ()).messages =
        emitted ++ .state held :: [engine.summary "s" 2, engine.finish] ∧
      ¬ ∃ streams, engine.source.streams .null = .ok streams ∧
        ∃ n ch mine,
          (engine.chapters streams (.initial none ()) catalog.streams)[n]? = some ch ∧
          emitted = (engine.opening :: engine.messagesIn
            ((engine.chapters streams (.initial none ()) catalog.streams).take n)) ++ mine ∧
          mine ++ [.state held] <+: ch.messages engine ∧
          ∃ i cursor, tracking? ch.stream ch.choice = some i ∧
            i.foldAll (ch.start.foldCount ch.stream.name)
              ((ch.start.aggregate.cursorFor? ch.stream.name).getD []) (recordsIn mine) =
                .ok cursor ∧
            (cursor = [] → held = ch.start.aggregate) := by
  refine ⟨read_messages, ?_⟩
  rintro ⟨streams, hstreams, n, ch, mine, hchapter, hmine, -, i, cursor, htracked, hfolded,
    hunchanged⟩
  obtain rfl : [stream] = streams := Except.ok.inj hstreams
  cases n with
  | succ n => cases hchapter
  | zero =>
      obtain rfl : (⟨⟨stream.descriptor, .incremental, none⟩, stream, .initial none ()⟩ :
        Chapter Unit) = ch := Option.some.inj hchapter
      obtain rfl : latest = i := Option.some.inj htracked
      obtain rfl : emitted.tail = mine := congrArg List.tail hmine
      have hempty : cursor = [] := (Except.ok.inj hfolded).symm
      have hnone : held.streams.entries = [] := congrArg (·.streams.entries) (hunchanged hempty)
      exact List.cons_ne_nil _ _ hnone

end SourceSync.Sync
