/-
Splitting a sync over several reads. If what the streams yield depends on nothing but the
state they are read from, a read depends on what was read before it only through the
aggregate state. So the chosen streams can be divided between two reads, the second one
from the state that the first one leaves, and nothing that is emitted for them changes.
-/
import SourceSync.Proofs.Sync.Account

namespace SourceSync

open Json Sync

variable {ω : Type}

/-- A stream that yields the same items whenever it is read from the same state, and folds
a record in the same way however many it has folded before. -/
structure DataStream.Steady (s : DataStream ω) : Prop where
  items : ∀ seed world other,
    (s.read seed world).pulls.map Pull.item = (s.read seed other).pulls.map Pull.item
  fold : ∀ i, s.incremental = some i → ∀ m n, i.fold m = i.fold n

/-- A source all streams of which are steady. -/
def Source.Steady (config : Value) (source : Source ω) : Prop :=
  ∀ streams, source.streams config = .ok streams → ∀ s ∈ streams, s.Steady

namespace Sync

/-- Positions that agree in everything that later emissions can show. -/
structure Position.Alike (s t : Position ω) : Prop where
  records : t.records = s.records
  cursor : t.cursor = s.cursor
  aggregate : t.progress.aggregate = s.progress.aggregate

/-- The outcome of one read and then another: the state is that of the second one, and the
counts are added. -/
structure Outcome.Then (o₁ o₂ o : Outcome) : Prop where
  state : o.state = o₂.state
  records : o.stats.records = o₁.stats.records + o₂.stats.records
  stateMessages : o.stats.stateMessages = o₁.stats.stateMessages + o₂.stats.stateMessages
  streams : o.stats.streams = o₁.stats.streams + o₂.stats.streams

namespace Engine

variable {e : Engine ω} {name : String} {incremental : Option Incremental}
  {s s' t : Position ω}

theorem Advances.alike {r : Object} {world : ω} {snapshot : List (Emission ω)}
    (hadvances : e.Advances name s r world incremental snapshot s') (halike : s.Alike t)
    (hsteady : ∀ i, incremental = some i → ∀ m n, i.fold m = i.fold n) (other : ω) :
    ∃ snapshot' t', e.Advances name t r other incremental snapshot' t' ∧
      messagesOf snapshot' = messagesOf snapshot ∧ s'.Alike t' := by
  obtain ⟨hrecords, hcursor, haggregate⟩ := halike
  cases hadvances with
  | full => exact ⟨[], _, .full, rfl, ⟨congrArg (· + 1) hrecords, hcursor, haggregate⟩⟩
  | @folded i cursor hfold hdue =>
      rw [hsteady i rfl _ (t.progress.foldCount name), ← hcursor] at hfold
      rw [← hrecords] at hdue
      exact ⟨[], _, .folded hfold hdue, rfl, ⟨congrArg (· + 1) hrecords, rfl, haggregate⟩⟩
  | @published i cursor hfold hdue =>
      rw [hsteady i rfl _ (t.progress.foldCount name), ← hcursor] at hfold
      rw [← hrecords] at hdue
      have hmerged : t.progress.aggregate.merge name cursor =
          s.progress.aggregate.merge name cursor := by rw [haggregate]
      exact ⟨_, _, .published hfold hdue, congrArg (fun a => [Message.state a]) hmerged,
        ⟨congrArg (· + 1) hrecords, rfl, hmerged⟩⟩

theorem Takes.alike {taken pulls : List (Pull ω)} {es : List (Emission ω)}
    (htakes : e.Takes name incremental s taken es s') (halike : s.Alike t)
    (hsteady : ∀ i, incremental = some i → ∀ m n, i.fold m = i.fold n)
    (hitems : pulls.map Pull.item = taken.map Pull.item) :
    ∃ es' t', e.Takes name incremental t pulls es' t' ∧
      messagesOf es' = messagesOf es ∧ s'.Alike t' := by
  induction htakes generalizing t pulls with
  | nil s =>
      rw [List.map_eq_nil_iff.mp hitems]
      exact ⟨[], t, .nil t, rfl, halike⟩
  | @cons s u s' r world snapshot es rest hadvances _ ih =>
      cases pulls with
      | nil => cases hitems
      | cons pull pulls =>
          obtain ⟨item, other⟩ := pull
          obtain ⟨rfl, hrest⟩ := List.cons.inj hitems
          obtain ⟨snapshot', u', hadvances', hsnapshot, halike'⟩ :=
            hadvances.alike halike hsteady other
          obtain ⟨es', t', htakes', hmessages, hend⟩ := ih halike' hrest
          refine ⟨_, t', .cons hadvances' htakes', ?_, hend⟩
          simp only [messagesOf_append, messagesOf_cons, hsnapshot, hmessages]
          rfl

variable (e name incremental) in
theorem closingAt_alike (halike : s.Alike t) (finish other : ω) :
    messagesOf (e.closingAt name incremental other t).emissions =
        messagesOf (e.closingAt name incremental finish s).emissions ∧
      ∃ q, (e.closingAt name incremental other t).reached = .ok q := by
  obtain ⟨hrecords, hcursor, haggregate⟩ := halike
  rcases publishes_or_not incremental s.cursor with ⟨hincremental, hpublished⟩ | hnone
  · rw [closingAt_of_published e hincremental hpublished,
      closingAt_of_published e hincremental (hcursor ▸ hpublished), hcursor, haggregate, hrecords]
    exact ⟨rfl, _, rfl⟩
  · rw [closingAt_of_unpublished e hnone, closingAt_of_unpublished e (hcursor ▸ hnone), hrecords]
    exact ⟨rfl, _, rfl⟩

section Leg

variable {stream : DataStream ω} {c : ConfiguredStream} {p q p' : Progress ω}

variable (stream c) in
theorem entry_alike (haggregate : p'.aggregate = p.aggregate) :
    (entry stream c p).Alike (entry stream c p') := by
  have hseed : seed? (tracking? stream c) p' stream.name =
      seed? (tracking? stream c) p stream.name := by
    unfold seed?
    rw [haggregate]
  exact ⟨rfl, congrArg (·.getD []) hseed, haggregate⟩

theorem heading_alike (haggregate : p'.aggregate = p.aggregate) :
    messagesOf (e.heading stream c p') = messagesOf (e.heading stream c p) := by
  unfold heading seed?
  rw [haggregate]
  rcases tracking? stream c with _ | i
  · rfl
  · cases p.aggregate.cursorFor? stream.name <;> rfl

/-- A steady stream that is read to its end is read alike behind the same aggregate. -/
theorem leg_alike (hsteady : stream.Steady) (haggregate : p'.aggregate = p.aggregate)
    (hreached : (e.leg stream c p).reached = .ok q) :
    messagesOf (e.leg stream c p').emissions = messagesOf (e.leg stream c p).emissions ∧
      ∃ q', (e.leg stream c p').reached = .ok q' ∧ q'.aggregate = q.aggregate := by
  have hentry := entry_alike stream c haggregate
  obtain ⟨taken, rest, es, t, hpulls, htakes, hend⟩ := leg_cases e stream c p
  rcases hend with ⟨rfl, hleg⟩ | ⟨last, stop, world, -, hleg⟩
  · rw [List.append_nil] at hpulls
    -- Only the items agree: the world may be another one at every pull.
    have hitems : (readingFrom stream c p').pulls.map Pull.item = taken.map Pull.item := by
      rw [← hpulls, readingFrom, hentry.cursor]
      exact hsteady.items _ _ _
    have hfold : ∀ i, tracking? stream c = some i → ∀ m n, i.fold m = i.fold n := by
      intro i htracked
      exact hsteady.fold i (tracking?_eq_some_iff.mp htracked).2
    obtain ⟨es', t', htakes', hmessages, halike⟩ := htakes.alike hentry hfold hitems
    have hleg' := leg_of_takes htakes'
    obtain ⟨hclosing, q', hreached'⟩ := closingAt_alike e stream.name (tracking? stream c) halike
      (readingFrom stream c p).finish (readingFrom stream c p').finish
    have hsame : messagesOf (e.leg stream c p').emissions =
        messagesOf (e.leg stream c p).emissions := by
      rw [hleg', hleg]
      simp only [Leg.after, messagesOf_append, heading_alike haggregate, hmessages, hclosing]
    have hbefore : (Chapter.leg e ⟨c, stream, p⟩).reached = .ok q := hreached
    have hafter : (Chapter.leg e ⟨c, stream, p'⟩).reached = .ok q' := by
      rw [Chapter.leg, hleg']
      exact hreached'
    refine ⟨hsame, q', hafter, ?_⟩
    -- The aggregate is what was published last, and the same was published.
    rw [Chapter.aggregate_of_reached hbefore, Chapter.aggregate_of_reached hafter, haggregate]
    exact congrArg (lastSnapshot p.aggregate) hsame
  · rw [hleg] at hreached
    cases hreached

end Leg

section ReadsAll

variable {streams : List (DataStream ω)} {p q u p' : Progress ω}
  {done later : List ConfiguredStream} {es fs : List (Emission ω)}

theorem ReadsAll.alike (hsteady : ∀ s ∈ streams, s.Steady)
    (hdone : e.ReadsAll streams p done es q) (haggregate : p'.aggregate = p.aggregate) :
    ∃ es' q', e.ReadsAll streams p' done es' q' ∧ messagesOf es' = messagesOf es ∧
      q'.aggregate = q.aggregate := by
  induction hdone generalizing p' with
  | nil p => exact ⟨[], p', .nil p', rfl, haggregate⟩
  | @cons p q u c s rest es hlookup hreached _ ih =>
      have hmem : s ∈ streams := List.mem_of_find?_eq_some hlookup
      obtain ⟨hleg, q', hreached', hq⟩ := leg_alike (hsteady s hmem) haggregate hreached
      obtain ⟨es', u', hrest', hmessages, hu⟩ := ih hq
      refine ⟨_, u', .cons hlookup hreached' hrest', ?_, hu⟩
      rw [messagesOf_append, messagesOf_append, hleg, hmessages]

theorem ReadsAll.append (hdone : e.ReadsAll streams p done es q)
    (hlater : e.ReadsAll streams q later fs u) :
    e.ReadsAll streams p (done ++ later) (es ++ fs) u := by
  induction hdone with
  | nil p => exact hlater
  | cons hlookup hreached _ ih =>
      rw [List.cons_append, List.append_assoc]
      exact .cons hlookup hreached (ih hlater)

theorem ReadsAll.split (hall : e.ReadsAll streams p (done ++ later) es u) :
    ∃ q es₁ es₂, e.ReadsAll streams p done es₁ q ∧ e.ReadsAll streams q later es₂ u ∧
      es = es₁ ++ es₂ := by
  induction done generalizing p es with
  | nil => exact ⟨p, [], es, .nil p, hall, rfl⟩
  | cons c done ih =>
      cases hall with
      | @cons _ _ _ _ s _ es hlookup hreached hrest =>
          obtain ⟨q, es₁, es₂, hdone, hlater, rfl⟩ := ih hrest
          exact ⟨q, _, es₂, .cons hlookup hreached hdone, hlater, (List.append_assoc ..).symm⟩

/-- A read of streams that can be read to their end finishes, if nothing is refused. -/
theorem ReadsAll.read_finishes {config : Value} {state : Option SyncState} {world : ω}
    (hstreams : e.source.streams config = .ok streams)
    (hdone : e.ReadsAll streams (.initial state world) done es q) :
    (e.read config ⟨done⟩ state .unlimited world).result = .finished ⟨q.aggregate, q.stats⟩ ∧
      (e.read config ⟨done⟩ state .unlimited world).messages =
        e.opening :: (messagesOf es ++ [e.finish]) := by
  obtain ⟨hmessages, hresult, -⟩ :=
    (e.script config ⟨done⟩ state world).perform_unlimited e.secrets
  rw [Engine.read, hmessages, hresult, e.script_of_ok hstreams, hdone.legs_eq]
  exact ⟨rfl, by simp [Script.after, Ending.report]⟩

end ReadsAll

section Splitting

variable {streams : List (DataStream ω)} {c₁ c₂ : List ConfiguredStream}
  {state : Option SyncState} {q₁ q₂ q : Progress ω} {es₁ es₂ es : List (Emission ω)}
  {world world₁ world₂ : ω}

/-- Two reads, the second one from the state that the first one leaves, as one. -/
theorem ReadsAll.join (hsteady : ∀ s ∈ streams, s.Steady)
    (hfirst : e.ReadsAll streams (.initial state world₁) c₁ es₁ q₁)
    (hsecond : e.ReadsAll streams (.initial (some q₁.aggregate) world₂) c₂ es₂ q₂)
    (world : ω) :
    ∃ es q, e.ReadsAll streams (.initial state world) (c₁ ++ c₂) es q ∧
      messagesOf es = messagesOf es₁ ++ messagesOf es₂ ∧ q.aggregate = q₂.aggregate := by
  have hstart : (Progress.initial state world).aggregate =
      (Progress.initial state world₁).aggregate := rfl
  obtain ⟨fs₁, p₁, hbegun, hmessages₁, haggregate₁⟩ := hfirst.alike hsteady hstart
  obtain ⟨fs₂, p₂, hended, hmessages₂, haggregate₂⟩ := hsecond.alike hsteady haggregate₁
  refine ⟨fs₁ ++ fs₂, p₂, hbegun.append hended, ?_, haggregate₂⟩
  rw [messagesOf_append, hmessages₁, hmessages₂]

/-- One read as two, the second one from the state that the first one leaves. -/
theorem ReadsAll.divide (hsteady : ∀ s ∈ streams, s.Steady)
    (hall : e.ReadsAll streams (.initial state world) (c₁ ++ c₂) es q) (world₁ world₂ : ω) :
    ∃ fs₁ p₁ fs₂ p₂, e.ReadsAll streams (.initial state world₁) c₁ fs₁ p₁ ∧
      e.ReadsAll streams (.initial (some p₁.aggregate) world₂) c₂ fs₂ p₂ := by
  have hstart : (Progress.initial state world₁).aggregate =
      (Progress.initial state world).aggregate := rfl
  obtain ⟨p, es₁, es₂, hdone, hlater, -⟩ := hall.split
  obtain ⟨fs₁, p₁, hfirst, -, haggregate₁⟩ := hdone.alike hsteady hstart
  have hcut : (Progress.initial (some p₁.aggregate) world₂).aggregate = p.aggregate :=
    haggregate₁
  obtain ⟨fs₂, p₂, hsecond, -, -⟩ := hlater.alike hsteady hcut
  exact ⟨fs₁, p₁, fs₂, p₂, hfirst, hsecond⟩

/-- Two reads that finish, the second one from the state that the first one leaves, are one
read, with the messages of both between its opening and its finish. -/
theorem read_join {config : Value} (hsteady : e.source.Steady config) {o₁ o₂ : Outcome}
    (hfirst : (e.read config ⟨c₁⟩ state .unlimited world₁).result = .finished o₁)
    (hsecond : (e.read config ⟨c₂⟩ (some o₁.state) .unlimited world₂).result = .finished o₂)
    (world : ω) :
    ∃ o m₁ m₂, (e.read config ⟨c₁ ++ c₂⟩ state .unlimited world).result = .finished o ∧
      (e.read config ⟨c₁⟩ state .unlimited world₁).messages =
        e.opening :: (m₁ ++ [e.finish]) ∧
      (e.read config ⟨c₂⟩ (some o₁.state) .unlimited world₂).messages =
        e.opening :: (m₂ ++ [e.finish]) ∧
      (e.read config ⟨c₁ ++ c₂⟩ state .unlimited world).messages =
        e.opening :: (m₁ ++ m₂ ++ [e.finish]) ∧
      o₁.Then o₂ o := by
  obtain ⟨streams, es₁, q₁, hstreams, hdone₁, rfl, hmessages₁⟩ :=
    exists_readsAll_of_finished hfirst
  obtain ⟨others, es₂, q₂, hothers, hdone₂, rfl, hmessages₂⟩ :=
    exists_readsAll_of_finished hsecond
  cases hstreams.symm.trans hothers
  obtain ⟨es, q, hdone, hmessages, haggregate⟩ :=
    ReadsAll.join (hsteady streams hstreams) hdone₁ hdone₂ world
  obtain ⟨hresult, hwhole⟩ := hdone.read_finishes hstreams
  rw [hmessages] at hwhole
  have hboth : q.stats = q₁.stats.after (messagesOf es₂) c₂.length := by
    rw [hdone.stats_eq, hmessages, List.length_append, ← Stats.after_after, hdone₁.stats_eq]
    rfl
  have hlater : q₂.stats = Stats.zero.after (messagesOf es₂) c₂.length := hdone₂.stats_eq
  refine ⟨_, messagesOf es₁, messagesOf es₂, hresult, hmessages₁, hmessages₂, hwhole,
    haggregate, ?_, ?_, ?_⟩ <;>
    simp [hboth, hlater, Stats.after, Stats.zero]

variable (e) in
/-- A sync of steady streams, whatever they are, can be split over two reads: both finish,
the second one from the state that the first one leaves, exactly if the read of all of them
finishes. Then the messages between opening and finish are those of the two reads, one
behind the other, the final state is the same, and the counts add up. The world may be
another one each time. -/
theorem read_append (config : Value) (hsteady : e.source.Steady config)
    (c₁ c₂ : List ConfiguredStream) (state : Option SyncState) (world world₁ world₂ : ω) :
    let whole := e.read config ⟨c₁ ++ c₂⟩ state .unlimited world
    let first := e.read config ⟨c₁⟩ state .unlimited world₁
    let second := fun (o : Outcome) => e.read config ⟨c₂⟩ (some o.state) .unlimited world₂
    ((∃ o, whole.result = .finished o) ↔
      ∃ o₁ o₂, first.result = .finished o₁ ∧ (second o₁).result = .finished o₂) ∧
    ∀ o₁ o₂, first.result = .finished o₁ → (second o₁).result = .finished o₂ →
      ∃ o m₁ m₂, whole.result = .finished o ∧
        first.messages = e.opening :: (m₁ ++ [e.finish]) ∧
        (second o₁).messages = e.opening :: (m₂ ++ [e.finish]) ∧
        whole.messages = e.opening :: (m₁ ++ m₂ ++ [e.finish]) ∧
        o₁.Then o₂ o := by
  intro whole first second
  refine ⟨⟨?_, ?_⟩, ?_⟩
  · rintro ⟨o, hwhole⟩
    obtain ⟨streams, es, q, hstreams, hall, -, -⟩ := exists_readsAll_of_finished hwhole
    obtain ⟨fs₁, p₁, fs₂, p₂, hdone₁, hdone₂⟩ :=
      hall.divide (hsteady streams hstreams) world₁ world₂
    exact ⟨_, _, (hdone₁.read_finishes hstreams).1, (hdone₂.read_finishes hstreams).1⟩
  · rintro ⟨o₁, o₂, hfirst, hsecond⟩
    obtain ⟨o, -, -, hwhole, -⟩ := read_join hsteady hfirst hsecond world
    exact ⟨o, hwhole⟩
  · intro o₁ o₂ hfirst hsecond
    exact read_join hsteady hfirst hsecond world

end Splitting

end Engine

namespace SplittingExample

def latest : Incremental := ⟨.field "from", true, false, fun _ _ r => .ok r⟩

/-- A stream whose only record is the state it was read from. The world counts the pulls. -/
def stream : DataStream Nat where
  name := "s"
  schema := defaultSchema
  incremental := some latest
  read seed pulled := ⟨[⟨.record [("from", .object seed)], pulled + 1⟩], pulled + 2⟩

def engine : Engine Nat where
  source := ⟨"source", fun _ world => (.ok .passed, world), fun _ => .ok [stream]⟩
  secrets := .none
  policy := ⟨1⟩
  stamp := 0

def choice (mode : SyncMode) : ConfiguredStream := ⟨stream.descriptor, mode, none⟩

def once : Object := [("from", .object [])]

def twice : Object := [("from", .object once)]

theorem steady : engine.source.Steady .null := by
  intro streams hstreams s hs
  cases hstreams
  rw [List.mem_singleton.mp hs]
  refine ⟨fun _ _ _ => rfl, ?_⟩
  intro i hincremental m n
  cases hincremental
  rfl

end SplittingExample

open SplittingExample in
/-- A stream that is chosen again behind the cut, in both modes. -/
theorem Engine.read_append_echo :
    engine.source.Steady .null ∧
      (engine.read .null ⟨[choice .incremental]⟩ none .unlimited 0).result =
        .finished ⟨.ofEntries [("s", once)], ⟨1, 1, 1, 0⟩⟩ ∧
      (engine.read .null ⟨[choice .fullRefresh, choice .incremental]⟩
        (some (.ofEntries [("s", once)])) .unlimited 7).result =
          .finished ⟨.ofEntries [("s", twice)], ⟨2, 1, 2, 0⟩⟩ ∧
      ∃ o, (engine.read .null ⟨[choice .incremental, choice .fullRefresh, choice .incremental]⟩
          none .unlimited 3).result = .finished o ∧
        o.state = .ofEntries [("s", twice)] ∧ o.stats.records = 3 := by
  have hfirst : (engine.read .null ⟨[choice .incremental]⟩ none .unlimited 0).result =
      .finished ⟨.ofEntries [("s", once)], ⟨1, 1, 1, 0⟩⟩ := rfl
  have hsecond : (engine.read .null ⟨[choice .fullRefresh, choice .incremental]⟩
      (some (.ofEntries [("s", once)])) .unlimited 7).result =
        .finished ⟨.ofEntries [("s", twice)], ⟨2, 1, 2, 0⟩⟩ := rfl
  obtain ⟨-, hjoin⟩ := engine.read_append .null steady [choice .incremental]
    [choice .fullRefresh, choice .incremental] none 3 0 7
  obtain ⟨o, -, -, hwhole, -, -, -, hthen⟩ := hjoin _ _ hfirst hsecond
  exact ⟨steady, hfirst, hsecond, o, hwhole, hthen.state, hthen.records⟩

end Sync

end SourceSync
