/-
What reading one stream does. A reading takes some records one by one, each
behind its emission; then it is at the end of the stream, or it halts: at a pull
that yields no record, or at a record that cannot be folded. Everything that is
said about whole reads follows from this.
-/
import SourceSync.Proofs.Sync.Run
import SourceSync.Sync.Engine

namespace SourceSync.Sync

open Json

variable {ω : Type}

/-- Where the reading of a stream stands: the records taken, the cursor state folded
from them, and what has been reached. -/
structure Position (ω : Type) where
  records : Nat
  cursor : Object
  progress : Progress ω

namespace Progress

/-- One more record was taken, which left the world as given. -/
def addRecord (p : Progress ω) (world : ω) : Progress ω :=
  { p with world := world, stats := p.stats.addRecord }

def foldCount (p : Progress ω) (name : String) : Nat :=
  (p.folds.get? name).getD 0

def addFold (p : Progress ω) (name : String) : Progress ω :=
  { p with folds := p.folds.put name (p.foldCount name + 1) }

theorem foldCount_addFold (p : Progress ω) (name : String) :
    (p.addFold name).foldCount name = p.foldCount name + 1 := by
  simp only [addFold, foldCount, SortedTable.get?_put_self, Option.getD_some]

/-- The stream was read to its end, which left the world as given. -/
def complete (p : Progress ω) (world : ω) : Progress ω :=
  { p with world := world, stats := p.stats.addStream }

theorem foldCount_publish (p : Progress ω) (stream name : String) (cursor : Object) :
    (p.publish stream cursor).foldCount name = p.foldCount name := rfl

end Progress

/-- A leg behind more emissions. -/
def Leg.after (emissions : List (Emission ω)) (l : Leg ω) : Leg ω :=
  { l with emissions := emissions ++ l.emissions }

theorem Leg.after_after (es fs : List (Emission ω)) (l : Leg ω) :
    (l.after fs).after es = l.after (es ++ fs) := by
  simp [Leg.after]

namespace Engine

def recordEmission (e : Engine ω) (name : String) (r : Object) (world : ω) : Emission ω :=
  emission name (e.recordMessage name r) world

/-- The message for the number of records read. -/
def summary (e : Engine ω) (name : String) (records : Nat) : Message :=
  e.info s!"Read {records} records from {name} stream"

/-- The rest of a reading from a position. -/
def pullsFrom (e : Engine ω) (name : String) (incremental : Option Incremental) (finish : ω)
    (s : Position ω) (pulls : List (Pull ω)) : Leg ω :=
  e.pulls name incremental finish s.records s.cursor s.progress pulls

/-- The end of a reading at a position. -/
def closingAt (e : Engine ω) (name : String) (incremental : Option Incremental) (finish : ω)
    (s : Position ω) : Leg ω :=
  e.closing name incremental s.records s.cursor { s.progress with world := finish }

section Step

variable (e : Engine ω) (name : String) (s : Position ω) (r : Object) (world : ω)

/-- What follows the emission of a record: nothing in a full read; otherwise the record
is folded, and a snapshot is published exactly if one is due. -/
inductive Advances : Option Incremental → List (Emission ω) → Position ω → Prop where
  | full : Advances none [] ⟨s.records + 1, s.cursor, s.progress.addRecord world⟩
  | folded {i : Incremental} {cursor : Object}
      (hfold : i.fold (s.progress.foldCount name) s.cursor r = .ok cursor)
      (hdue : e.policy.isDue i.continuous (s.records + 1) = false) :
      Advances (some i) []
        ⟨s.records + 1, cursor, (s.progress.addRecord world).addFold name⟩
  | published {i : Incremental} {cursor : Object}
      (hfold : i.fold (s.progress.foldCount name) s.cursor r = .ok cursor)
      (hdue : e.policy.isDue i.continuous (s.records + 1) = true) :
      Advances (some i)
        [emission name (.state (s.progress.aggregate.merge name cursor)) world]
        ⟨s.records + 1, cursor,
          ((s.progress.addRecord world).addFold name).publish name cursor⟩

variable {e name s r world}

variable (e name s r world) in
/-- A record is followed by an advance, unless it cannot be folded. -/
theorem exists_advances (incremental : Option Incremental) :
    (∃ snapshot t, e.Advances name s r world incremental snapshot t) ∨
      ∃ i stop, incremental = some i ∧
        i.fold (s.progress.foldCount name) s.cursor r = .error stop := by
  cases incremental with
  | none => exact Or.inl ⟨_, _, .full⟩
  | some i =>
      cases hfold : i.fold (s.progress.foldCount name) s.cursor r with
      | error stop => exact Or.inr ⟨i, stop, rfl, hfold⟩
      | ok cursor =>
          cases hdue : e.policy.isDue i.continuous (s.records + 1) with
          | false => exact Or.inl ⟨_, _, .folded hfold hdue⟩
          | true => exact Or.inl ⟨_, _, .published hfold hdue⟩

theorem Advances.pullsFrom_cons {incremental : Option Incremental} {t : Position ω}
    {snapshot : List (Emission ω)}
    (hadvances : e.Advances name s r world incremental snapshot t) (finish : ω)
    (rest : List (Pull ω)) :
    e.pullsFrom name incremental finish s (⟨.record r, world⟩ :: rest) =
      (e.pullsFrom name incremental finish t rest).after
        (e.recordEmission name r world :: snapshot) := by
  cases hadvances with
  | full => rfl
  | folded hfold hdue =>
      simp only [Progress.foldCount] at hfold
      simp only [pullsFrom, pulls, track, hfold, hdue]
      rfl
  | published hfold hdue =>
      simp only [Progress.foldCount] at hfold
      simp only [pullsFrom, pulls, track, hfold, hdue]
      rfl

theorem pullsFrom_cons_of_error {i : Incremental} {stop : Stop}
    (hfold : i.fold (s.progress.foldCount name) s.cursor r = .error stop) (finish : ω)
    (rest : List (Pull ω)) :
    e.pullsFrom name (some i) finish s (⟨.record r, world⟩ :: rest) =
      ⟨[e.recordEmission name r world], .error (stop, world)⟩ := by
  simp only [Progress.foldCount] at hfold
  simp only [pullsFrom, pulls, track, hfold]
  rfl

end Step

section Closing

/-- A reading that comes to its end publishes its cursor state, or has none to publish. -/
theorem publishes_or_not (incremental : Option Incremental) (cursor : Object) :
    (incremental.isSome = true ∧ cursor ≠ []) ∨ (incremental = none ∨ cursor = []) := by
  cases incremental with
  | none => exact Or.inr (Or.inl rfl)
  | some i =>
      rcases Decidable.em (cursor = []) with hempty | hcursor
      · exact Or.inr (Or.inr hempty)
      · exact Or.inl ⟨rfl, hcursor⟩

variable (e : Engine ω) {name : String} {incremental : Option Incremental} {s : Position ω}

theorem closingAt_of_published (hincremental : incremental.isSome) (hcursor : s.cursor ≠ [])
    (finish : ω) :
    e.closingAt name incremental finish s =
      ⟨[emission name (.state (s.progress.aggregate.merge name s.cursor)) finish,
          emission name (e.summary name s.records) finish],
        .ok ((s.progress.publish name s.cursor).complete finish)⟩ := by
  have hdue : (incremental.isSome && !s.cursor.isEmpty) = true := by simp [hincremental, hcursor]
  simp only [closingAt, closing, hdue]
  rfl

theorem closingAt_of_unpublished (hnone : incremental = none ∨ s.cursor = []) (finish : ω) :
    e.closingAt name incremental finish s =
      ⟨[emission name (e.summary name s.records) finish], .ok (s.progress.complete finish)⟩ := by
  have hdue : (incremental.isSome && !s.cursor.isEmpty) = false := by
    rcases hnone with rfl | hempty
    · rfl
    · simp [hempty]
  simp only [closingAt, closing, hdue]
  rfl

variable (name incremental s) in
/-- A reading closes with at most one snapshot and with the number of records. -/
theorem closingAt_cases (finish : ω) :
    ∃ snapshot q, e.closingAt name incremental finish s =
        ⟨snapshot ++ [emission name (e.summary name s.records) finish], .ok q⟩ ∧
      (snapshot = [] ∨
        snapshot = [emission name (.state (s.progress.aggregate.merge name s.cursor)) finish]) := by
  rcases publishes_or_not incremental s.cursor with ⟨hincremental, hcursor⟩ | hnone
  · exact ⟨_, _, closingAt_of_published e hincremental hcursor finish, Or.inr rfl⟩
  · exact ⟨[], _, closingAt_of_unpublished e hnone finish, Or.inl rfl⟩

end Closing

section Reading

variable (e : Engine ω) (name : String) (incremental : Option Incremental)

/-- Records taken one after another, with everything emitted for them. -/
inductive Takes : Position ω → List (Pull ω) → List (Emission ω) → Position ω → Prop where
  | nil (s : Position ω) : Takes s [] [] s
  | cons {s t u : Position ω} {r : Object} {world : ω} {snapshot es : List (Emission ω)}
      {rest : List (Pull ω)} (hadvances : e.Advances name s r world incremental snapshot t)
      (hrest : Takes t rest es u) :
      Takes s (⟨.record r, world⟩ :: rest)
        ((e.recordEmission name r world :: snapshot) ++ es) u

/-- Why a reading halts at a position, with the emissions it still makes. -/
inductive Halts (s : Position ω) : List (Pull ω) → List (Emission ω) → Stop → ω → Prop where
  | fault (f : Fault) (world : ω) (rest : List (Pull ω)) :
      Halts s (⟨.fault f, world⟩ :: rest) [] (.fault f) world
  | crash (c : Crash) (world : ω) (rest : List (Pull ω)) :
      Halts s (⟨.crash c, world⟩ :: rest) [] (.crash c) world
  | fold {i : Incremental} {r : Object} {stop : Stop} (world : ω) (rest : List (Pull ω))
      (hincremental : incremental = some i)
      (hfold : i.fold (s.progress.foldCount name) s.cursor r = .error stop) :
      Halts s (⟨.record r, world⟩ :: rest) [e.recordEmission name r world] stop world

variable {e name incremental}

theorem Takes.pullsFrom_append {s t : Position ω} {taken : List (Pull ω)}
    {es : List (Emission ω)} (htakes : e.Takes name incremental s taken es t) (finish : ω)
    (rest : List (Pull ω)) :
    e.pullsFrom name incremental finish s (taken ++ rest) =
      (e.pullsFrom name incremental finish t rest).after es := by
  induction htakes with
  | nil s => rfl
  | cons hadvances _ ih =>
      rw [List.cons_append, hadvances.pullsFrom_cons, ih, Leg.after_after]

theorem Halts.pullsFrom_eq {s : Position ω} {pulls : List (Pull ω)} {es : List (Emission ω)}
    {stop : Stop} {world : ω} (hhalts : e.Halts name incremental s pulls es stop world)
    (finish : ω) :
    e.pullsFrom name incremental finish s pulls = ⟨es, .error (stop, world)⟩ := by
  cases hhalts with
  | fault f world rest => rfl
  | crash c world rest => rfl
  | fold world rest hincremental hfold =>
      subst hincremental
      exact pullsFrom_cons_of_error hfold finish rest

variable (e name incremental) in
/-- Records are taken until the pulls are used up or the reading halts. -/
theorem exists_takes (s : Position ω) (pulls : List (Pull ω)) :
    ∃ taken rest es t, pulls = taken ++ rest ∧ e.Takes name incremental s taken es t ∧
      (rest = [] ∨ ∃ last stop world, e.Halts name incremental t rest last stop world) := by
  induction pulls generalizing s with
  | nil => exact ⟨[], [], [], s, rfl, .nil s, Or.inl rfl⟩
  | cons pull pulls ih =>
      obtain ⟨item, world⟩ := pull
      cases item with
      | fault f => exact ⟨[], _, [], s, rfl, .nil s, Or.inr ⟨_, _, _, .fault f world pulls⟩⟩
      | crash c => exact ⟨[], _, [], s, rfl, .nil s, Or.inr ⟨_, _, _, .crash c world pulls⟩⟩
      | record r =>
          rcases exists_advances e name s r world incremental with
            ⟨snapshot, t, hadvances⟩ | ⟨i, stop, hincremental, hfold⟩
          · obtain ⟨taken, rest, es, u, hsplit, htakes, hend⟩ := ih t
            refine ⟨⟨.record r, world⟩ :: taken, rest, _, u, ?_, .cons hadvances htakes, hend⟩
            rw [hsplit, List.cons_append]
          · exact ⟨[], _, [], s, rfl, .nil s,
              Or.inr ⟨_, _, _, .fold world pulls hincremental hfold⟩⟩

end Reading

section Tracking

variable {stream : DataStream ω} {c : ConfiguredStream}

/-- A stream is read incrementally exactly if that was chosen and the stream can. -/
theorem tracking?_eq_some_iff {i : Incremental} :
    tracking? stream c = some i ↔ c.mode = .incremental ∧ stream.incremental = some i := by
  cases hmode : c.mode <;> simp [tracking?, hmode]

theorem tracking?_eq_none_iff :
    tracking? stream c = none ↔ c.mode = .fullRefresh ∨ stream.incremental = none := by
  cases hmode : c.mode <;> simp [tracking?, hmode]

end Tracking

section Leg

variable (e : Engine ω) (stream : DataStream ω) (c : ConfiguredStream) (p : Progress ω)

/-- Where the reading of a stream starts. -/
def entry (stream : DataStream ω) (c : ConfiguredStream) (p : Progress ω) : Position ω :=
  ⟨0, (seed? (tracking? stream c) p stream.name).getD [], p⟩

/-- Everything a stream yields when it is read behind what has been reached. -/
def readingFrom (stream : DataStream ω) (c : ConfiguredStream) (p : Progress ω) : Reading ω :=
  stream.read (entry stream c p).cursor p.world

/-- What is emitted before the first pull. -/
def heading : List (Emission ω) :=
  emission stream.name (e.info s!"Syncing stream: {stream.name}") p.world ::
    match seed? (tracking? stream c) p stream.name with
    | none => []
    | some state =>
      [emission stream.name
        (e.info s!"Setting state of {stream.name} stream to {(Value.object state).text}") p.world]

/-- The heading holds neither records nor snapshots. -/
theorem heading_quiet :
    ∀ m ∈ messagesOf (e.heading stream c p), m.record? = none ∧ m.state? = none := by
  intro m hm
  unfold heading at hm
  split at hm
  · simp only [messagesOf_cons, messagesOf_nil, List.mem_singleton] at hm
    exact hm ▸ ⟨rfl, rfl⟩
  · simp only [messagesOf_cons, messagesOf_nil, List.mem_cons, List.not_mem_nil,
      or_false] at hm
    rcases hm with rfl | rfl <;> exact ⟨rfl, rfl⟩

theorem leg_eq :
    e.leg stream c p =
      (e.pullsFrom stream.name (tracking? stream c) (readingFrom stream c p).finish
        (entry stream c p) (readingFrom stream c p).pulls).after (e.heading stream c p) :=
  rfl

variable {e stream c p} in
theorem leg_of_takes {es : List (Emission ω)} {t : Position ω}
    (htakes : e.Takes stream.name (tracking? stream c) (entry stream c p)
      (readingFrom stream c p).pulls es t) :
    e.leg stream c p =
      (e.closingAt stream.name (tracking? stream c) (readingFrom stream c p).finish t).after
        (e.heading stream c p ++ es) := by
  have hwhole := htakes.pullsFrom_append (readingFrom stream c p).finish []
  rw [List.append_nil] at hwhole
  rw [leg_eq, hwhole, Leg.after_after]
  rfl

variable {e stream c p} in
theorem leg_of_halts {taken rest : List (Pull ω)} {es last : List (Emission ω)} {t : Position ω}
    {stop : Stop} {world : ω} (hpulls : (readingFrom stream c p).pulls = taken ++ rest)
    (htakes : e.Takes stream.name (tracking? stream c) (entry stream c p) taken es t)
    (hhalts : e.Halts stream.name (tracking? stream c) t rest last stop world) :
    e.leg stream c p = ⟨e.heading stream c p ++ es ++ last, .error (stop, world)⟩ := by
  rw [leg_eq, hpulls, htakes.pullsFrom_append, hhalts.pullsFrom_eq, Leg.after_after]
  rfl

/-- A leg is its heading, the records taken, and then the closing or a halt. -/
theorem leg_cases :
    ∃ taken rest es t, (readingFrom stream c p).pulls = taken ++ rest ∧
      e.Takes stream.name (tracking? stream c) (entry stream c p) taken es t ∧
      ((rest = [] ∧ e.leg stream c p =
          (e.closingAt stream.name (tracking? stream c) (readingFrom stream c p).finish t).after
            (e.heading stream c p ++ es)) ∨
        ∃ last stop world, e.Halts stream.name (tracking? stream c) t rest last stop world ∧
          e.leg stream c p = ⟨e.heading stream c p ++ es ++ last, .error (stop, world)⟩) := by
  obtain ⟨taken, rest, es, t, hsplit, htakes, hend⟩ :=
    exists_takes e stream.name (tracking? stream c) (entry stream c p)
      (readingFrom stream c p).pulls
  refine ⟨taken, rest, es, t, hsplit, htakes, ?_⟩
  rcases hend with rfl | ⟨last, stop, world, hhalts⟩
  · rw [List.append_nil] at hsplit
    exact Or.inl ⟨rfl, leg_of_takes (hsplit ▸ htakes)⟩
  · exact Or.inr ⟨last, stop, world, hhalts, leg_of_halts hsplit htakes hhalts⟩

end Leg

end Engine

end SourceSync.Sync
