/-
The sync engine: discovery, connection checks and reads. A read goes through the
chosen streams in catalog order. Each stream contributes a leg: the emissions of
reading it, and either what has been reached behind it or why it stopped. Cursor
state is merged into the aggregate before it is published, so every snapshot
holds the latest state of all streams.
-/
import SourceSync.Checkpoint
import SourceSync.Sync.Run

namespace SourceSync.Sync

open Json

/-- What a read has reached between two streams: the aggregate state, the counts, how
often each stream has folded a record, and the world. -/
structure Progress (ω : Type) where
  aggregate : SyncState
  stats : Stats
  folds : SortedTable Nat
  world : ω

/-- The ending of a read that was stopped; faults are logged under the context. -/
def Ending.ofStop (context : String) : Stop → Ending
  | .fault f => .failed context f
  | .crash c => .crashed c

/-- The part of a read that belongs to one stream: its emissions, and what was
reached, or why it stopped and the world at that time. -/
structure Leg (ω : Type) where
  emissions : List (Emission ω)
  reached : Except (Stop × ω) (Progress ω)

namespace Leg

variable {ω : Type}

/-- A leg that stops without an emission. -/
def stop (s : Stop) (world : ω) : Leg ω := ⟨[], .error (s, world)⟩

/-- A leg with one more emission in front. -/
def cons (e : Emission ω) (l : Leg ω) : Leg ω := { l with emissions := e :: l.emissions }

end Leg

/-- A script with more emissions in front. -/
def Script.after {ω : Type} (emissions : List (Emission ω)) (s : Script ω) : Script ω :=
  { s with emissions := emissions ++ s.emissions }

/-- Publish the cursor state of a stream: merge it into the aggregate and count the
message that holds the result. -/
def Progress.publish {ω : Type} (p : Progress ω) (stream : String) (state : Object) : Progress ω :=
  { p with
    aggregate := p.aggregate.merge stream state
    stats := p.stats.addStateMessage }

/-- The engine: a source, the secrets masked in everything it says itself, when it
publishes cursor state, and the time it stamps on records. -/
structure Engine (ω : Type) where
  source : Source ω
  secrets : Secrets
  policy : CheckpointPolicy
  stamp : Int

namespace Engine

variable {ω : Type}

def info (e : Engine ω) (text : String) : Message :=
  Log.format e.secrets .info text

def discover (e : Engine ω) (config : Value) : Except Stop Catalog :=
  (e.source.streams config).map (fun streams => ⟨streams.map DataStream.descriptor⟩)

/-- Check the connection. A check that does not pass is a status; only a fault of
the check itself is a fault. Secrets are masked in both. -/
def check (e : Engine ω) (config : Value) (world : ω) : Except Stop ConnectionStatus × ω :=
  match e.source.check config world with
  | (.ok result, after) =>
    if result.success then (.ok ⟨true, none⟩, after)
    else (.ok ⟨false, some (e.secrets.redact (result.detail.getD ""))⟩, after)
  | (.error (.fault f), after) =>
    (.error (.fault (.connectionCheck (e.secrets.redact f.trace))), after)
  | (.error (.crash c), after) => (.error (.crash c), after)

/-- The line under which faults of a stream are logged. -/
def streamContext (name : String) : String :=
  s!"Encountered an error while reading stream {name}"

/-- An emission that belongs to a stream. -/
def emission (name : String) (m : Message) (world : ω) : Emission ω :=
  ⟨m, world, some (streamContext name)⟩

def recordMessage (e : Engine ω) (name : String) (r : Object) : Message :=
  .record ⟨name, r, e.stamp⟩

/-- The cursor tracking of a stream, if the read of it is to be incremental. A stream
without any is read in full instead. -/
def tracking? (s : DataStream ω) (c : ConfiguredStream) : Option Incremental :=
  match c.mode with
  | .incremental => s.incremental
  | .fullRefresh => none

/-- The cursor state a stream starts from, if there is some to resume from. -/
def seed? (incremental : Option Incremental) (p : Progress ω) (name : String) : Option Object :=
  match incremental with
  | some _ => p.aggregate.cursorFor? name
  | none => none

/-- The end of a stream: a last snapshot if there is cursor state, then the number of
records. -/
def closing (e : Engine ω) (name : String) (incremental : Option Incremental) (records : Nat)
    (cursor : Object) (p : Progress ω) : Leg ω :=
  let summary (p : Progress ω) : Leg ω :=
    Leg.cons (emission name (e.info s!"Read {records} records from {name} stream") p.world)
      ⟨[], .ok { p with stats := p.stats.addStream }⟩
  if incremental.isSome && !cursor.isEmpty then
    let p := p.publish name cursor
    Leg.cons (emission name (.state p.aggregate) p.world) (summary p)
  else summary p

/-- Fold a record into the cursor state and publish it if that is due after `records`
records. The emission of a snapshot, if there is one, comes with what was reached. -/
def track (e : Engine ω) (name : String) (i : Incremental) (records : Nat) (cursor r : Object)
    (p : Progress ω) : Except Stop (List (Emission ω) × Object × Progress ω) :=
  let folds := (p.folds.get? name).getD 0
  match i.fold folds cursor r with
  | .error stop => .error stop
  | .ok folded =>
    let p := { p with folds := p.folds.put name (folds + 1) }
    if e.policy.isDue i.continuous records then
      let p := p.publish name folded
      .ok ([emission name (.state p.aggregate) p.world], folded, p)
    else .ok ([], folded, p)

/-- Read the rest of a stream after `records` records, with the cursor state folded
from them. A record is emitted before it is folded. -/
def pulls (e : Engine ω) (name : String) (incremental : Option Incremental) (finish : ω) :
    Nat → Object → Progress ω → List (Pull ω) → Leg ω
  | records, cursor, p, [] => e.closing name incremental records cursor { p with world := finish }
  | records, cursor, p, pull :: rest =>
    match pull.item with
    | .fault f => Leg.stop (.fault f) pull.world
    | .crash c => Leg.stop (.crash c) pull.world
    | .record r =>
      let p := { p with world := pull.world, stats := p.stats.addRecord }
      Leg.cons (emission name (e.recordMessage name r) pull.world)
        (match incremental with
          | none => pulls e name incremental finish (records + 1) cursor p rest
          | some i =>
            match e.track name i (records + 1) cursor r p with
            | .error stop => Leg.stop stop pull.world
            | .ok (snapshot, folded, p) =>
              let l := pulls e name incremental finish (records + 1) folded p rest
              { l with emissions := snapshot ++ l.emissions })

/-- Read one stream from the state it can resume from. -/
def leg (e : Engine ω) (s : DataStream ω) (c : ConfiguredStream) (p : Progress ω) : Leg ω :=
  let incremental := tracking? s c
  let seed := seed? incremental p s.name
  let reading := s.read (seed.getD []) p.world
  let announcement := match seed with
    | none => []
    | some state =>
      [emission s.name
        (e.info s!"Setting state of {s.name} stream to {(Value.object state).text}") p.world]
  let l := e.pulls s.name incremental reading.finish 0 (seed.getD []) p reading.pulls
  Leg.cons (emission s.name (e.info s!"Syncing stream: {s.name}") p.world)
    { l with emissions := announcement ++ l.emissions }

/-- Read the chosen streams one after another, each from what was reached before it. -/
def legs (e : Engine ω) (streams : List (DataStream ω)) :
    Progress ω → List ConfiguredStream → Script ω
  | p, [] =>
    ⟨[⟨e.info s!"Finished syncing {e.source.name}", p.world, none⟩],
      .finished ⟨p.aggregate, p.stats⟩, p.world⟩
  | p, c :: rest =>
    let name := c.stream.name
    match streams.find? (fun s => s.name == name) with
    | none => ⟨[], .failed (streamContext name) (.streamNotFound name), p.world⟩
    | some s =>
      let l := e.leg s c p
      match l.reached with
      | .error (stop, world) => ⟨l.emissions, .ofStop (streamContext name) stop, world⟩
      | .ok q => Script.after l.emissions (legs e streams q rest)

/-- What a read emits when nothing is refused. -/
def script (e : Engine ω) (config : Value) (catalog : ConfiguredCatalog) (state : Option SyncState)
    (world : ω) : Script ω :=
  let opening : Emission ω := ⟨e.info s!"Starting syncing {e.source.name}", world, none⟩
  let start : Progress ω := ⟨state.getD .empty, .zero, ∅, world⟩
  Script.after [opening]
    (match e.source.streams config with
      | .error stop =>
        ⟨[], .ofStop s!"Failed to resolve the streams of {e.source.name}" stop, world⟩
      | .ok streams => e.legs streams start catalog.streams)

/-- Read the chosen streams into a sink. -/
def read (e : Engine ω) (config : Value) (catalog : ConfiguredCatalog) (state : Option SyncState)
    (sink : Sink) (world : ω) : Run ω :=
  (e.script config catalog state world).perform e.secrets sink

end Engine

end SourceSync.Sync
