/-
The channel between a read on demand and its consumer. The read runs beside the
consumer as a task that hands over one item at a time through a slot that holds
one. It may work ahead until the slot is full and the next item is offered; then
it waits. A consumer may receive, or go away, at any moment. Every course of the
two is a list of moves.
-/
import SourceSync.Sync.Lazy

namespace SourceSync.Sync

/-- What a read on demand has left to do. Each item comes with the world when it is
offered, and with what is left once it was sent and once it was refused. -/
inductive Task (ω : Type) where
  | ended (world : ω)
  | hand (item : LazyItem) (world : ω) (sent refused : Task ω)

/-- Hand over a fault, sent or not, and end. -/
def Task.last {ω : Type} (f : Fault) (world : ω) : Task ω :=
  .hand (.error f) world (.ended world) (.ended world)

/-- What is left to do at the end of a read: nothing if it finished, otherwise to hand
over the log message for the fault, if it has one, and the fault. -/
def Ending.task {ω : Type} (secrets : Secrets) (world : ω) : Ending → Task ω
  | .finished _ => .ended world
  | .failed context f =>
    match reportMessage? secrets context f with
    | none => .ended world
    | some m => .hand (.ok m) world (.last f world) (.last f world)
  | .crashed c => .last c.fault world

/-- The task of a script. When an emission is refused the consumer is gone, which ends
the task without another item. -/
def Script.task {ω : Type} (secrets : Secrets) (s : Script ω) : Task ω :=
  s.emissions.foldr (fun e rest => .hand (.ok e.message) e.world rest (.ended e.world))
    (s.ending.task secrets s.world)

/-- Where the read is: on the way to its next item, waiting to put an item into the
slot, or done. -/
inductive Producer (ω : Type) where
  | working (t : Task ω)
  | offering (item : LazyItem) (sent refused : Task ω)
  | done

/-- Where the consumer is: still interested, at the end, or gone. -/
inductive Consumer where
  | listening
  | atEnd
  | gone
  deriving DecidableEq, Repr

/-- A channel with a read at one end and a consumer at the other. -/
structure Channel (ω : Type) where
  /-- Where the read is. -/
  producer : Producer ω
  /-- The slot. -/
  slot : Option LazyItem
  /-- The items the read has offered. -/
  begun : List LazyItem
  /-- The items that were put into the slot. -/
  sent : List LazyItem
  /-- What the consumer has received. -/
  received : List LazyItem
  /-- Where the consumer is. -/
  consumer : Consumer
  /-- The world as the read has left it. -/
  world : ω

/-- A move of the read or of its consumer. -/
inductive Move where
  /-- The read works up to its next item and offers it. -/
  | offer
  /-- The offered item is put into the slot. -/
  | send
  /-- The offered item is refused because the consumer is gone. -/
  | refuse
  /-- The read comes to its end and lets go of the channel. -/
  | finish
  /-- The consumer takes the item in the slot. -/
  | receive
  /-- The consumer sees that nothing will come any more. -/
  | conclude
  /-- The consumer goes away, and what is in the slot is lost. -/
  | leave
  deriving DecidableEq, Repr

namespace Channel

variable {ω : Type}

def start (t : Task ω) (world : ω) : Channel ω :=
  ⟨.working t, none, [], [], [], .listening, world⟩

/-- Make a move, if it can be made. -/
def move? (c : Channel ω) : Move → Option (Channel ω)
  | .offer =>
    match c.producer with
    | .working (.hand item world sent refused) =>
      some { c with
        producer := .offering item sent refused
        begun := c.begun ++ [item]
        world := world }
    | _ => none
  | .send =>
    match c.producer, c.slot with
    | .offering item sent _, none =>
      if c.consumer = .gone then none
      else some { c with producer := .working sent, slot := some item, sent := c.sent ++ [item] }
    | _, _ => none
  | .refuse =>
    match c.producer with
    | .offering _ _ refused =>
      if c.consumer = .gone then some { c with producer := .working refused } else none
    | _ => none
  | .finish =>
    match c.producer with
    | .working (.ended world) => some { c with producer := .done, world := world }
    | _ => none
  | .receive =>
    match c.consumer, c.slot with
    | .listening, some item => some { c with slot := none, received := c.received ++ [item] }
    | _, _ => none
  | .conclude =>
    match c.consumer, c.producer, c.slot with
    | .listening, .done, none => some { c with consumer := .atEnd }
    | _, _, _ => none
  | .leave => if c.consumer = .gone then none else some { c with slot := none, consumer := .gone }

/-- Make moves one after another, if all of them can be made. -/
def run? (c : Channel ω) : List Move → Option (Channel ω)
  | [] => some c
  | m :: rest => (c.move? m).bind (fun next => next.run? rest)

end Channel

/-- The channel of a read on demand. -/
def Engine.channel {ω : Type} (e : Engine ω) (config : Json.Value) (catalog : ConfiguredCatalog)
    (state : Option SyncState) (world : ω) : Channel ω :=
  .start ((e.script config catalog state world).task e.secrets) world

end SourceSync.Sync
