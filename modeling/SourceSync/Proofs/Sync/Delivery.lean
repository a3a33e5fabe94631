/-
What a consumer learns of a fault. A consumer that stays receives everything that the
read has emitted, then the log message for the fault, and the fault itself as the
last item. One kind of fault is the exception, wherever it comes from: if it says
that nobody takes messages any more, the items end as those of a read that finished.
-/
import SourceSync.Proofs.Sync.Failure
import SourceSync.Proofs.Sync.OnDemand

namespace SourceSync.Sync

open Json

variable {ω : Type}

/-- A consumer that has not gone away can come to the end. -/
theorem Channel.completes_of_stays {c : Channel ω} (hstays : c.consumer ≠ .gone) :
    c.Completes := by
  cases hconsumer : c.consumer with
  | listening => exact completes_of_listening hconsumer
  | atEnd => exact ⟨[], c, rfl, hconsumer⟩
  | gone => exact absurd hconsumer hstays

namespace Engine

variable {e : Engine ω} {config : Value} {catalog : ConfiguredCatalog}
  {state : Option SyncState} {world : ω}

/-- Whatever moves were made, the channel is that of the script's task. -/
theorem channel_sound {moves : List Move} {c : Channel ω}
    (hrun : (e.channel config catalog state world).run? moves = some c) :
    c.Sound ((e.script config catalog state world).task e.secrets) :=
  (Channel.sound_start _ world).run (Script.task_yields e.secrets _) hrun

theorem channel_received_of_atEnd {moves : List Move} {c : Channel ω}
    (hrun : (e.channel config catalog state world).run? moves = some c)
    (hend : c.consumer = .atEnd) : c.received = e.readLazily config catalog state world := by
  rw [(channel_sound hrun).received_of_atEnd hend, Script.task_items]
  rfl

variable {begun : List ConfiguredStream} {earlier mine : List Message} {context : String}
  {f : Fault}

theorem FaultAt.readLazily
    (hfault : e.FaultAt config catalog state world begun earlier mine context f) :
    e.readLazily config catalog state world =
      (earlier ++ mine ++ (reportMessage? e.secrets context f).toList).map .ok ++
        (Ending.failed context f).result.lastFault?.toList.map .error := by
  obtain ⟨emissions, after, hscript, hmessages⟩ := hfault.script
  obtain ⟨hrun, hresult, -⟩ := (e.script config catalog state world).perform_unlimited e.secrets
  rw [Engine.readLazily, read, Run.items, hrun, hresult, hscript, hmessages]
  rfl

theorem FaultAt.readLazily_of_open
    (hfault : e.FaultAt config catalog state world begun earlier mine context f)
    (hopen : f.isSinkClosed = false) :
    e.readLazily config catalog state world = (earlier ++ mine).map .ok ++
      [.ok (.log .error (e.secrets.redact (context ++ "\n" ++ f.trace))), .error f] := by
  rw [hfault.readLazily, reportMessage?_of_open hopen]
  simp [Ending.result, Result.lastFault?, hopen, Log.format, faultText]

theorem FaultAt.readLazily_of_closed
    (hfault : e.FaultAt config catalog state world begun earlier mine context f)
    (hclosed : f.isSinkClosed = true) :
    e.readLazily config catalog state world = (earlier ++ mine).map .ok := by
  rw [hfault.readLazily]
  simp [Ending.result, Result.lastFault?, reportMessage?, hclosed]

/-- What a consumer learns of a fault of the source: of one that is met while the streams
are resolved, at a pull or at a record that cannot be folded. As long as it stays it can
come to the end. At the end it has received the messages before the fault, the log message
for the fault, and the fault as the last item, exactly if the fault does not say that nobody
takes messages any more. Such a fault leaves no trace. -/
theorem fault_delivered
    (hfault : e.FaultAt config catalog state world begun earlier mine context f)
    {moves : List Move} {c : Channel ω}
    (hrun : (e.channel config catalog state world).run? moves = some c) :
    (c.consumer ≠ .gone → ∃ more d, c.run? more = some d ∧ d.consumer = .atEnd) ∧
    (c.consumer = .atEnd → f.isSinkClosed = false →
      c.received = (earlier ++ mine).map .ok ++
        [.ok (.log .error (e.secrets.redact (context ++ "\n" ++ f.trace))), .error f]) ∧
    (c.consumer = .atEnd → f.isSinkClosed = true →
      c.received = (earlier ++ mine).map .ok ∧
        ∀ level text, .log level text ∈ earlier ++ mine → level = .info) := by
  refine ⟨Channel.completes_of_stays, ?_, ?_⟩
  · intro hend hopen
    rw [channel_received_of_atEnd hrun hend, hfault.readLazily_of_open hopen]
  · intro hend hclosed
    rw [channel_received_of_atEnd hrun hend, hfault.readLazily_of_closed hclosed]
    exact ⟨rfl, fun level text hlog => (hfault.spoken _ hlog level text rfl).1⟩

end Engine

namespace DeliveryExample

/-- A stream whose second pull fails. -/
def stream (f : Fault) : DataStream Unit where
  name := "s"
  schema := defaultSchema
  incremental := none
  read _ _ := ⟨[⟨.record [], ()⟩, ⟨.fault f, ()⟩], ()⟩

def engine (f : Fault) : Engine Unit where
  source := ⟨"source", fun _ world => (.ok .passed, world), fun _ => .ok [stream f]⟩
  secrets := .none
  policy := ⟨1⟩
  stamp := 0

/-- The fault of a pipe that the stream itself reads from. -/
def broken : Fault := .sinkClosed "upstream pipe closed"

def choice : ConfiguredStream := ⟨(stream broken).descriptor, .fullRefresh, none⟩

def emitted (f : Fault) : List Message :=
  [(engine f).info "Syncing stream: s", (engine f).recordMessage "s" []]

theorem faultAt (f : Fault) :
    (engine f).FaultAt .null ⟨[choice]⟩ none () [choice] [(engine f).opening] (emitted f)
      (Engine.streamContext "s") f := by
  have hstreams : (engine f).source.streams .null = .ok [stream f] := rfl
  have hchoices : [choice] = [] ++ choice :: [] := rfl
  have hlookup : Engine.lookup? [stream f] choice = some (stream f) := rfl
  have hpulls : (Engine.readingFrom (stream f) choice (.initial none ())).pulls =
      [⟨.record [], ()⟩] ++ [⟨.fault f, ()⟩] := rfl
  have htakes : (engine f).Takes "s" none ⟨0, [], .initial none ()⟩ [⟨.record [], ()⟩] _ _ :=
    .cons .full (.nil _)
  have hhalts : (engine f).Halts "s" none ⟨1, [], (Progress.initial none ()).addRecord ()⟩
    [⟨.fault f, ()⟩] _ (.fault f) () := .fault f () []
  have hfault := Engine.FaultAt.reading hstreams hchoices (.nil (.initial none ())) hlookup hpulls
    htakes hhalts
  exact hfault

/-- What a consumer receives. -/
def items (f : Fault) : List LazyItem :=
  ([(engine f).opening] ++ emitted f).map .ok ++
    [.ok (.log .error ((engine f).secrets.redact (Engine.streamContext "s" ++ "\n" ++ f.trace))),
      .error f]

/-- The moves of a consumer that takes a number of items as soon as they are there. -/
def taking (count : Nat) : List Move :=
  (List.replicate count [Move.offer, .send, .receive]).flatten ++ [.finish, .conclude]

/-- The channel behind these moves, if the read yields exactly these items. -/
def read (items : List LazyItem) : Channel Unit where
  producer := .done
  slot := none
  begun := items
  sent := items
  received := items
  consumer := .atEnd
  world := ()

end DeliveryExample

open DeliveryExample in
/-- The same fault with a description around it is delivered. -/
theorem Engine.fault_delivered_described :
    let f := Fault.context "while reading the page" broken
    (engine f).FaultAt .null ⟨[choice]⟩ none () [choice] [(engine f).opening] (emitted f)
        (streamContext "s") f ∧
      f.isSinkClosed = false ∧
      ∃ c, ((engine f).channel .null ⟨[choice]⟩ none ()).run? (taking 5) = some c ∧
        c.consumer = .atEnd ∧
        c.received = ([(engine f).opening] ++ emitted f).map .ok ++
          [.ok (.log .error ((engine f).secrets.redact (streamContext "s" ++ "\n" ++ f.trace))),
            .error f] := by
  intro f
  have hrun : ((engine f).channel .null ⟨[choice]⟩ none ()).run? (taking 5) =
      some (DeliveryExample.read (items f)) := rfl
  obtain ⟨-, hdelivered, -⟩ := fault_delivered (faultAt f) hrun
  exact ⟨faultAt f, rfl, _, hrun, rfl, hdelivered rfl rfl⟩

open DeliveryExample in
/-- A stream that fails because a pipe of its own was closed: to a consumer that stays, the
read looks like one that finished, and nothing is logged. -/
theorem Engine.fault_swallowed :
    (engine broken).FaultAt .null ⟨[choice]⟩ none () [choice] [(engine broken).opening]
        (emitted broken) (streamContext "s") broken ∧
      ∃ c, ((engine broken).channel .null ⟨[choice]⟩ none ()).run? (taking 3) = some c ∧
        c.consumer = .atEnd ∧
        (∀ item ∈ c.received, ∃ m, item = .ok m ∧ ∀ text, m ≠ .log .error text) := by
  refine ⟨faultAt broken, DeliveryExample.read
    (([(engine broken).opening] ++ emitted broken).map .ok), rfl, rfl, ?_⟩
  simp [DeliveryExample.read, emitted, opening, info, recordMessage, Log.format]

end SourceSync.Sync
