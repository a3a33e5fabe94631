/-
Full reads and saved state. A stream that is read in full neither reads nor writes
the aggregate state: what is emitted for it follows from what it yields from the
empty state alone. So a read of nothing but such streams is the same whatever
state it starts from, and leaves that state as it is.
-/
import SourceSync.Proofs.Sync.Cadence
import SourceSync.Proofs.Sync.Timing

namespace SourceSync.Sync

open Json

variable {ω : Type}

/-- The progress with another aggregate state. -/
def Progress.withAggregate (p : Progress ω) (a : SyncState) : Progress ω :=
  { p with aggregate := a }

def Position.withAggregate (s : Position ω) (a : SyncState) : Position ω :=
  { s with progress := s.progress.withAggregate a }

/-- The leg with another aggregate state, if it comes to its end. -/
def Leg.withAggregate (l : Leg ω) (a : SyncState) : Leg ω :=
  { l with reached := l.reached.map (fun q => q.withAggregate a) }

/-- The ending with another final state, if it has one. -/
def Ending.withState (a : SyncState) : Ending → Ending
  | .finished o => .finished { o with state := a }
  | ending => ending

@[simp] theorem Ending.withState_ofStop (a : SyncState) (context : String) (stop : Stop) :
    (Ending.ofStop context stop).withState a = .ofStop context stop := by
  cases stop <;> rfl

/-- The script with another final state, if it comes to its end. -/
def Script.withState (s : Script ω) (a : SyncState) : Script ω :=
  { s with ending := s.ending.withState a }

/-- Results that differ in nothing but the final state, which is `first` in one and `second`
in the other. -/
inductive Result.Alike (first second : SyncState) : Result → Result → Prop where
  | finished (stats : Stats) :
      Alike first second (.finished ⟨first, stats⟩) (.finished ⟨second, stats⟩)
  | failed (f : Fault) : Alike first second (.failed f) (.failed f)
  | crashed (c : Crash) : Alike first second (.crashed c) (.crashed c)

/-- Runs that differ in nothing but the times in messages and the final state. -/
structure Run.Alike (first second : SyncState) (run other : Run ω) : Prop where
  messages : other.messages.map Message.untimed = run.messages.map Message.untimed
  tried : other.tried = run.tried
  result : Result.Alike first second run.result other.result
  world : other.world = run.world

section Perform

variable {sink other : Sink} {time otherTime : Int} {first second : SyncState}

theorem Run.failing_alike (hsinks : sink.AgreesWith time other otherTime) (secrets : Secrets)
    (tried : Nat) (context : String) (f : Fault) (world : ω) :
    Run.Alike first second (Run.failing secrets sink tried context f world)
      (Run.failing secrets other tried context f world) := by
  cases hreport : reportMessage? secrets context f with
  | none =>
      simp only [Run.failing, hreport]
      exact ⟨rfl, rfl, .failed f, rfl⟩
  | some m =>
      -- A log message carries no time, so both sinks are tried with the same one.
      have hlog : other.refuse? tried m = sink.refuse? tried m := by
        have hagree := hsinks tried m
        rwa [(reportMessage?_eq_some hreport).2] at hagree ⊢
      simp only [Run.failing, hreport]
      exact ⟨by simp only [Sink.taken, hlog], rfl, .failed f, rfl⟩

/-- Scripts that differ in nothing but the times in messages and the final state are
performed alike. -/
theorem Script.performFrom_alike (hsinks : sink.AgreesWith time other otherTime)
    (secrets : Secrets) {ending : Ending} (hending : ending.withState first = ending) (world : ω)
    (tried : Nat) (es : List (Emission ω)) :
    Run.Alike first second
      (performFrom secrets sink ending world tried (stampedAll time es))
      (performFrom secrets other (ending.withState second) world tried
        (stampedAll otherTime es)) := by
  induction es generalizing tried with
  | nil =>
      cases ending with
      | finished o =>
          obtain ⟨state, stats⟩ := o
          cases hending
          exact ⟨rfl, rfl, .finished stats, rfl⟩
      | failed context f => exact Run.failing_alike hsinks secrets tried context f world
      | crashed c => exact ⟨rfl, rfl, .crashed c, rfl⟩
  | cons em es ih =>
      have hagree : other.refuse? tried (em.stamped otherTime).message =
          sink.refuse? tried (em.stamped time).message := hsinks tried em.message
      simp only [stampedAll_cons, performFrom, hagree]
      cases sink.refuse? tried (em.stamped time).message with
      | none =>
          obtain ⟨hmessages, htried, hresult, hworld⟩ := ih (tried + 1)
          refine ⟨?_, htried, hresult, hworld⟩
          simp only [List.map_cons, hmessages, Emission.stamped, Message.untimed_stamped]
      | some f =>
          simp only [Emission.stamped]
          cases em.blame with
          | none => exact ⟨rfl, rfl, .failed f, rfl⟩
          | some context => exact Run.failing_alike hsinks secrets (tried + 1) context f em.world

end Perform

namespace Engine

variable {e : Engine ω} {name : String} {s t : Position ω}

theorem Advances.withAggregate {r : Object} {world : ω} {snapshot : List (Emission ω)}
    (hadvances : e.Advances name s r world none snapshot t) (a : SyncState) :
    e.Advances name (s.withAggregate a) r world none snapshot (t.withAggregate a) := by
  cases hadvances
  exact .full

theorem Takes.withAggregate {taken : List (Pull ω)} {es : List (Emission ω)}
    (htakes : e.Takes name none s taken es t) (a : SyncState) :
    e.Takes name none (s.withAggregate a) taken es (t.withAggregate a) := by
  induction htakes with
  | nil s => exact .nil _
  | cons hadvances _ ih => exact .cons (hadvances.withAggregate a) ih

theorem Halts.withAggregate {pulls : List (Pull ω)} {last : List (Emission ω)} {stop : Stop}
    {world : ω} (hhalts : e.Halts name none s pulls last stop world) (a : SyncState) :
    e.Halts name none (s.withAggregate a) pulls last stop world := by
  cases hhalts with
  | fault f world rest => exact .fault f world rest
  | crash c world rest => exact .crash c world rest
  | fold world rest hincremental => cases hincremental

section Full

variable {stream : DataStream ω} {c : ConfiguredStream}

/-- A stream is read in full if that is chosen, or if it cannot be read otherwise. -/
def ReadInFull (streams : List (DataStream ω)) (c : ConfiguredStream) : Prop :=
  c.mode = .fullRefresh ∨ ∀ s, lookup? streams c = some s → s.incremental = none

theorem ReadInFull.tracking?_eq_none {streams : List (DataStream ω)}
    (hfull : ReadInFull streams c) (hlookup : lookup? streams c = some stream) :
    tracking? stream c = none :=
  tracking?_eq_none_iff.mpr (hfull.imp_right (fun hplain => hplain stream hlookup))

theorem entry_withAggregate (hfull : tracking? stream c = none) (p : Progress ω) (a : SyncState) :
    entry stream c (p.withAggregate a) = (entry stream c p).withAggregate a := by
  simp only [entry, hfull, seed?, Position.withAggregate]

/-- A stream that is read in full leaves the aggregate alone, and nothing else depends on
the aggregate. -/
theorem leg_withAggregate (hfull : tracking? stream c = none) (p : Progress ω) (a : SyncState) :
    e.leg stream c (p.withAggregate a) = (e.leg stream c p).withAggregate a := by
  have hentry := entry_withAggregate hfull p a
  have hreading : readingFrom stream c (p.withAggregate a) = readingFrom stream c p := by
    rw [readingFrom, hentry]
    rfl
  have hheading : e.heading stream c (p.withAggregate a) = e.heading stream c p := by
    simp only [heading, hfull, seed?]
    rfl
  obtain ⟨taken, rest, es, t, hpulls, htakes, hend⟩ := leg_cases e stream c p
  rw [hfull] at htakes hend
  have hother := htakes.withAggregate a
  rw [← hentry, ← hfull] at hother
  rcases hend with ⟨rfl, hleg⟩ | ⟨last, stop, world, hhalts, hleg⟩
  · rw [List.append_nil] at hpulls
    rw [← hreading] at hpulls
    rw [hleg, leg_of_takes (hpulls ▸ hother), hheading, hreading, hfull,
      closingAt_of_unpublished e (Or.inl rfl), closingAt_of_unpublished e (Or.inl rfl)]
    rfl
  · rw [← hreading] at hpulls
    rw [hleg, leg_of_halts hpulls hother (hfull ▸ hhalts.withAggregate a), hheading]
    rfl

end Full

section Reads

variable {streams : List (DataStream ω)}

theorem legs_withAggregate {choices : List ConfiguredStream}
    (hfull : ∀ c ∈ choices, ReadInFull streams c) (p : Progress ω) (a : SyncState) :
    e.legs streams (p.withAggregate a) choices = (e.legs streams p choices).withState a := by
  induction choices generalizing p with
  | nil => rfl
  | cons c rest ih =>
      cases hlookup : lookup? streams c with
      | none => rw [legs_cons_of_none rest hlookup, legs_cons_of_none rest hlookup]; rfl
      | some s =>
          have huntracked := (hfull c List.mem_cons_self).tracking?_eq_none hlookup
          have hleg := leg_withAggregate (e := e) huntracked p a
          cases hreached : (e.leg s c p).reached with
          | error stopped =>
              have hother : (e.leg s c (p.withAggregate a)).reached = .error stopped := by
                rw [hleg, Leg.withAggregate, hreached]
                rfl
              rw [legs_cons_of_error rest hlookup hreached, legs_cons_of_error rest hlookup hother,
                hleg, Script.withState, Ending.withState_ofStop]
              rfl
          | ok q =>
              have hother : (e.leg s c (p.withAggregate a)).reached = .ok (q.withAggregate a) := by
                rw [hleg, Leg.withAggregate, hreached]
                rfl
              rw [legs_cons_of_ok rest hlookup hreached, legs_cons_of_ok rest hlookup hother, hleg,
                ih (fun d hd => hfull d (List.mem_cons_of_mem c hd))]
              rfl

/-- A read of streams in full is the same from any state, up to the state it leaves. -/
theorem script_withState (e : Engine ω) {config : Value} {catalog : ConfiguredCatalog}
    (hfull : ∀ streams, e.source.streams config = .ok streams →
      ∀ c ∈ catalog.streams, ReadInFull streams c)
    (state other : Option SyncState) (world : ω) :
    e.script config catalog other world =
      (e.script config catalog state world).withState (other.getD .empty) := by
  cases hstreams : e.source.streams config with
  | error stop =>
      rw [e.script_of_error hstreams, e.script_of_error hstreams, Script.withState,
        Ending.withState_ofStop]
  | ok streams =>
      rw [e.script_of_ok hstreams, e.script_of_ok hstreams]
      exact congrArg (Script.after [⟨e.opening, world, none⟩])
        (legs_withAggregate (hfull streams hstreams) (.initial state world) (other.getD .empty))

end Reads

section Copies

/-- The messages for what a stream yields when it is read in full, behind some records: each
record, up to the first item that is none; if there is no such item, also their number. -/
def copies (e : Engine ω) (name : String) : Nat → List Item → List Message
  | records, [] => [e.summary name records]
  | records, .record r :: rest => e.recordMessage name r :: e.copies name (records + 1) rest
  | _, _ :: _ => []

variable (e name s) in
theorem messagesOf_pullsFrom_full (finish : ω) (pulls : List (Pull ω)) :
    messagesOf (e.pullsFrom name none finish s pulls).emissions =
      e.copies name s.records (pulls.map Pull.item) := by
  induction pulls generalizing s with
  | nil => rfl
  | cons pull rest ih =>
      obtain ⟨item, world⟩ := pull
      cases item with
      | record r =>
          have hadvances : e.Advances name s r world none [] _ := .full
          rw [hadvances.pullsFrom_cons, Leg.after, messagesOf_append, ih]
          rfl
      | fault f => rfl
      | crash c => rfl

end Copies

/-- A message that neither publishes state nor says that a stream resumes from it. -/
def KeepsState (e : Engine ω) (m : Message) : Prop :=
  m.state? = none ∧ ∀ text, m = .log .info text →
    ∃ plain, text = e.secrets.redact plain ∧ ¬ "Setting state of ".toList <+: plain.toList

theorem keepsState_info (e : Engine ω) {plain : String}
    (hplain : ¬ "Setting state of ".toList <+: plain.toList) : e.KeepsState (e.info plain) := by
  refine ⟨rfl, ?_⟩
  intro text hlog
  cases hlog
  exact ⟨plain, rfl, hplain⟩

theorem keepsState_copies (e : Engine ω) (name : String) (records : Nat) (items : List Item) :
    ∀ m ∈ e.copies name records items, e.KeepsState m := by
  induction items generalizing records with
  | nil =>
      intro m hm
      rw [List.mem_singleton.mp hm]
      exact e.keepsState_info (by simp [ToString.toString])
  | cons item rest ih =>
      intro m hm
      cases item with
      | record r =>
          rcases List.mem_cons.mp hm with rfl | hrest
          · exact ⟨rfl, fun text hlog => by cases hlog⟩
          · exact ih (records + 1) m hrest
      | fault f => cases hm
      | crash c => cases hm

end Engine

open Engine

/-- What is emitted for a stream that is read in full depends on nothing but what the stream
yields from the empty state. -/
theorem Chapter.messages_full {ch : Chapter ω} (e : Engine ω)
    (hfull : tracking? ch.stream ch.choice = none) :
    ch.messages e = e.announcement ch.stream.name ::
      e.copies ch.stream.name 0 ((ch.stream.read [] ch.start.world).pulls.map Pull.item) := by
  have hentry : entry ch.stream ch.choice ch.start = ⟨0, [], ch.start⟩ := by
    simp only [entry, hfull, seed?, Option.getD_none]
  have hheading : messagesOf (e.heading ch.stream ch.choice ch.start) =
      [e.announcement ch.stream.name] := by
    simp only [heading, hfull, seed?]
    rfl
  rw [messages, leg, leg_eq, Leg.after, messagesOf_append, hheading, hfull,
    messagesOf_pullsFrom_full, readingFrom, hentry]
  rfl

theorem Chapter.keepsState {ch : Chapter ω} (e : Engine ω)
    (hfull : tracking? ch.stream ch.choice = none) : ∀ m ∈ ch.messages e, e.KeepsState m := by
  intro m hm
  rw [ch.messages_full e hfull] at hm
  rcases List.mem_cons.mp hm with rfl | hcopies
  · exact e.keepsState_info (by simp [ToString.toString])
  · exact e.keepsState_copies _ _ _ m hcopies

namespace Engine

section Reads

variable (e : Engine ω) {config : Value} {catalog : ConfiguredCatalog}

theorem legs_keepsState {streams : List (DataStream ω)} {choices : List ConfiguredStream}
    (hfull : ∀ c ∈ choices, ReadInFull streams c) (p : Progress ω) :
    ∀ m ∈ messagesOf (e.legs streams p choices).emissions, e.KeepsState m := by
  intro m hm
  obtain ⟨ending, hmessages, hending⟩ := e.legs_messages streams p choices
  rw [hmessages] at hm
  rcases List.mem_append.mp hm with hchapters | hend
  · obtain ⟨ch, hch, hmessage⟩ := List.mem_flatMap.mp hchapters
    have hchoice : ch.choice ∈ choices :=
      (e.chapters_choices_isPrefix streams p choices).subset (List.mem_map_of_mem hch)
    have hlookup := e.lookup?_of_mem_chapters streams hch
    exact ch.keepsState e ((hfull _ hchoice).tracking?_eq_none hlookup) m hmessage
  · rcases hending with rfl | rfl
    · cases hend
    · rw [List.mem_singleton.mp hend]
      exact e.keepsState_info (by simp [ToString.toString])

theorem script_keepsState (hfull : ∀ streams, e.source.streams config = .ok streams →
      ∀ c ∈ catalog.streams, ReadInFull streams c) (state : Option SyncState) (world : ω) :
    ∀ m ∈ messagesOf (e.script config catalog state world).emissions, e.KeepsState m := by
  have hopening : e.KeepsState e.opening := e.keepsState_info (by simp [ToString.toString])
  intro m hm
  cases hstreams : e.source.streams config with
  | error f =>
      rw [e.script_of_error hstreams] at hm
      exact List.mem_singleton.mp hm ▸ hopening
  | ok streams =>
      rw [e.script_of_ok hstreams, Script.after, messagesOf_append] at hm
      rcases List.mem_append.mp hm with hfirst | hlegs
      · exact List.mem_singleton.mp hfirst ▸ hopening
      · exact e.legs_keepsState (hfull streams hstreams) _ m hlegs

/-- Whatever a sink is given of a read of streams in full, no state is published, and no
stream resumes from any. -/
theorem read_keepsState (hfull : ∀ streams, e.source.streams config = .ok streams →
      ∀ c ∈ catalog.streams, ReadInFull streams c) (state : Option SyncState) (sink : Sink)
    (world : ω) : ∀ m ∈ (e.read config catalog state sink world).messages, e.KeepsState m := by
  obtain ⟨taken, reports, hmessages, htaken, hreports⟩ :=
    Script.perform_messages e.secrets sink (e.script config catalog state world)
  intro m hm
  rw [read, hmessages] at hm
  rcases List.mem_append.mp hm with hemitted | hreport
  · exact e.script_keepsState hfull state world m (htaken.subset hemitted)
  · obtain ⟨context, f, hlogged⟩ := hreports m hreport
    rw [(reportMessage?_eq_some hlogged).2]
    exact ⟨rfl, fun text hlog => by cases hlog⟩

/-- Two reads of streams in full, from any two states and at any two times. -/
theorem read_alike (hfull : ∀ streams, e.source.streams config = .ok streams →
      ∀ c ∈ catalog.streams, ReadInFull streams c) {sink other : Sink} {time otherTime : Int}
    (hsinks : sink.AgreesWith time other otherTime) (first second : Option SyncState) (world : ω) :
    Run.Alike (first.getD .empty) (second.getD .empty)
      ((e.stamping time).read config catalog first sink world)
      ((e.stamping otherTime).read config catalog second other world) := by
  have hkept : (e.script config catalog first world).ending.withState (first.getD .empty) =
      (e.script config catalog first world).ending :=
    congrArg Script.ending (e.script_withState hfull first first world).symm
  rw [read, read, script_stamping, script_stamping, e.script_withState hfull first second world]
  exact Script.performFrom_alike hsinks e.secrets hkept _ 0 _

/-- The messages of a chapter stand together in those of the read. -/
theorem messages_isInfix_read {streams : List (DataStream ω)}
    (hstreams : e.source.streams config = .ok streams) {state : Option SyncState} {world : ω}
    {ch : Chapter ω} (hch : ch ∈ e.chapters streams (.initial state world) catalog.streams) :
    ch.messages e <:+: (e.read config catalog state .unlimited world).messages := by
  obtain ⟨rest, hmessages, -⟩ : ∃ rest, (e.read config catalog state .unlimited world).messages =
      e.opening ::
        (e.messagesIn (e.chapters streams (.initial state world) catalog.streams) ++ rest) ∧
      marks rest = [] := e.read_chapters streams hstreams
  obtain ⟨before, after, hsplit⟩ := List.append_of_mem hch
  rw [hmessages, hsplit, messagesIn, List.flatMap_append, List.flatMap_cons]
  exact ⟨e.opening :: before.flatMap (Chapter.messages e),
    after.flatMap (Chapter.messages e) ++ rest, by simp⟩

/-- Saved state has no influence on streams that are read in full. If all chosen streams are,
two reads from any two states and at any two times give sinks that do not look at the time the
same messages, publish nothing, resume from nothing, and end in the same way with the same
counts; each leaves the state it started from. If only some are, each of them has the same
messages in any two reads that reach it, as long as it yields the same items from the empty
state: what other streams do with the saved state may move the outside world. -/
theorem full_read_ignores_state (config : Value) (catalog : ConfiguredCatalog)
    (time otherTime : Int) :
    ((∀ streams, e.source.streams config = .ok streams →
        ∀ c ∈ catalog.streams, ReadInFull streams c) →
      ∀ sink other, Sink.AgreesWith sink time other otherTime → ∀ first second world,
        let run := (e.stamping time).read config catalog first sink world
        let again := (e.stamping otherTime).read config catalog second other world
        Run.Alike (first.getD .empty) (second.getD .empty) run again ∧
          (∀ m ∈ run.messages, e.KeepsState m) ∧ ∀ m ∈ again.messages, e.KeepsState m) ∧
    ∀ streams, e.source.streams config = .ok streams → ∀ first second world otherWorld,
      let run := (e.stamping time).read config catalog first .unlimited world
      let again := (e.stamping otherTime).read config catalog second .unlimited otherWorld
      ∀ ch ∈ e.chapters streams (.initial first world) catalog.streams,
      ∀ twin ∈ e.chapters streams (.initial second otherWorld) catalog.streams,
        twin.choice = ch.choice → ReadInFull streams ch.choice →
        (ch.stream.read [] twin.start.world).pulls.map Pull.item =
          (ch.stream.read [] ch.start.world).pulls.map Pull.item →
        ch.messages (e.stamping time) <:+: run.messages ∧
          twin.messages (e.stamping otherTime) <:+: again.messages ∧
          (twin.messages (e.stamping otherTime)).map Message.untimed =
            (ch.messages (e.stamping time)).map Message.untimed := by
  refine ⟨?_, ?_⟩
  · intro hfull sink other hsinks first second world run again
    exact ⟨e.read_alike hfull hsinks first second world,
      (e.stamping time).read_keepsState hfull first sink world,
      (e.stamping otherTime).read_keepsState hfull second other world⟩
  · intro streams hstreams first second world otherWorld run again ch hch twin htwin hchoice hfull
      hitems
    have hlookup := e.lookup?_of_mem_chapters streams hch
    have hstream : twin.stream = ch.stream := by
      have htwins := e.lookup?_of_mem_chapters streams htwin
      rw [hchoice, hlookup] at htwins
      exact (Option.some.inj htwins).symm
    have huntracked := hfull.tracking?_eq_none hlookup
    have hmessages : twin.messages e = ch.messages e := by
      rw [ch.messages_full e huntracked, twin.messages_full e (by rwa [hstream, hchoice]), hstream,
        hitems]
    refine ⟨?_, ?_, ?_⟩
    · exact (e.stamping time).messages_isInfix_read hstreams (by rwa [chapters_stamping])
    · exact (e.stamping otherTime).messages_isInfix_read hstreams (by rwa [chapters_stamping])
    · rw [ch.messages_stamping, twin.messages_stamping, hmessages]
      simp only [List.map_map]
      exact List.map_congr_left (fun m _ => by simp)

end Reads

end Engine

namespace FullRefreshExample

def latest : Incremental := ⟨.field "from", true, false, fun _ _ r => .ok r⟩

/-- A stream whose only record is the state it was read from. The world counts the pulls. -/
def echo (name : String) (incremental : Option Incremental) : DataStream Nat where
  name := name
  schema := defaultSchema
  incremental := incremental
  read seed pulled := ⟨[⟨.record [("from", .object seed)], pulled + 1⟩], pulled + 2⟩

def streams : List (DataStream Nat) := [echo "a" (some latest), echo "b" none]

def engine : Engine Nat where
  source := ⟨"source", fun _ world => (.ok .passed, world), fun _ => .ok streams⟩
  secrets := .none
  policy := ⟨1⟩
  stamp := 0

def catalog (mode : SyncMode) : ConfiguredCatalog :=
  ⟨[⟨(echo "a" (some latest)).descriptor, mode, none⟩,
    ⟨(echo "b" none).descriptor, .incremental, none⟩]⟩

/-- State for both streams from an earlier read. -/
def prior : SyncState := .ofEntries [("a", [("seq", .bool true)]), ("b", [("seq", .bool true)])]

/-- The second stream behind the first one, which has published its cursor. -/
def second (published : Object) (kept : SyncState) : Chapter Nat where
  choice := ⟨(echo "b" none).descriptor, .incremental, none⟩
  stream := echo "b" none
  start := ⟨kept.put "a" [("from", .object published)], ⟨1, 1, 1, 0⟩, .ofEntries [("a", 1)], 2⟩

theorem readInFull :
    ∀ found, engine.source.streams .null = .ok found →
      ∀ c ∈ (catalog .fullRefresh).streams, ReadInFull found c := by
  intro found hfound c hc
  cases hfound
  rcases List.mem_cons.mp hc with rfl | hplain
  · exact Or.inl rfl
  · refine Or.inr (fun s hs => ?_)
    rw [List.mem_singleton.mp hplain] at hs
    cases hs
    rfl

end FullRefreshExample

open FullRefreshExample in
/-- Streams that would show the state they are read from, with saved state and without. -/
theorem Engine.full_read_ignores_state_echo :
    (∀ found, engine.source.streams .null = .ok found →
      ∀ c ∈ (catalog .fullRefresh).streams, ReadInFull found c) ∧
    Sink.AgreesWith .unlimited 1 .unlimited 2 ∧
    Run.Alike prior .empty
      ((engine.stamping 1).read .null (catalog .fullRefresh) (some prior) .unlimited 0)
      ((engine.stamping 2).read .null (catalog .fullRefresh) none .unlimited 0) ∧
    engine.source.streams .null = .ok streams ∧
    second [("seq", .bool true)] prior ∈
      engine.chapters streams (.initial (some prior) 0) (catalog .incremental).streams ∧
    second [] .empty ∈ engine.chapters streams (.initial none 0) (catalog .incremental).streams ∧
    ReadInFull streams (second [] .empty).choice ∧
    ((second [] .empty).messages (engine.stamping 2)).map Message.untimed =
      ((second [("seq", .bool true)] prior).messages (engine.stamping 1)).map Message.untimed := by
  have hsinks : Sink.AgreesWith .unlimited 1 .unlimited 2 := fun _ _ => rfl
  have hsaved : second [("seq", .bool true)] prior ∈
      engine.chapters streams (.initial (some prior) 0) (catalog .incremental).streams :=
    List.mem_of_getElem? (i := 1) rfl
  have hunsaved : second [] .empty ∈
      engine.chapters streams (.initial none 0) (catalog .incremental).streams :=
    List.mem_of_getElem? (i := 1) rfl
  have hplain : ReadInFull streams (second [] .empty).choice := by
    refine Or.inr (fun s hs => ?_)
    cases hs
    rfl
  obtain ⟨hall, -⟩ := engine.full_read_ignores_state .null (catalog .fullRefresh) 1 2
  obtain ⟨-, hsome⟩ := engine.full_read_ignores_state .null (catalog .incremental) 1 2
  obtain ⟨halike, -, -⟩ := hall readInFull .unlimited .unlimited hsinks (some prior) none 0
  obtain ⟨-, -, hmessages⟩ := hsome streams rfl (some prior) none 0 0 _ hsaved _ hunsaved rfl
    hplain rfl
  exact ⟨readInFull, hsinks, halike, rfl, hsaved, hunsaved, hplain, hmessages⟩

end SourceSync.Sync
