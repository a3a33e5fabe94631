/-
The time that is put on records. Nothing in a read depends on it: with another
time the same messages are emitted in the same places, up to the times in them,
and the read ends in the same way.
-/
import SourceSync.Proofs.Sync.Chapter

namespace SourceSync

open Json

/-- The message as it would have been emitted at another time: only records carry one. -/
def Message.stamped (time : Int) : Message → Message
  | .record r => .record { r with emittedAt := time }
  | m => m

/-- The message without the time of its emission. -/
def Message.untimed (m : Message) : Message := m.stamped 0

@[simp] theorem Message.untimed_stamped (time : Int) (m : Message) :
    (m.stamped time).untimed = m.untimed := by
  cases m <;> rfl

/-- Sinks that take the same messages, up to the times in them. -/
def Sink.AgreesWith (sink : Sink) (time : Int) (other : Sink) (otherTime : Int) : Prop :=
  ∀ (tried : Nat) (m : Message),
    other.refuse? tried (m.stamped otherTime) = sink.refuse? tried (m.stamped time)

namespace Sync

variable {ω : Type}

def Emission.stamped (time : Int) (em : Emission ω) : Emission ω :=
  { em with message := em.message.stamped time }

def stampedAll (time : Int) (es : List (Emission ω)) : List (Emission ω) :=
  es.map (Emission.stamped time)

@[simp] theorem stampedAll_cons (time : Int) (em : Emission ω) (es : List (Emission ω)) :
    stampedAll time (em :: es) = em.stamped time :: stampedAll time es := rfl

@[simp] theorem stampedAll_append (time : Int) (es fs : List (Emission ω)) :
    stampedAll time (es ++ fs) = stampedAll time es ++ stampedAll time fs :=
  List.map_append

theorem messagesOf_stampedAll (time : Int) (es : List (Emission ω)) :
    messagesOf (stampedAll time es) = (messagesOf es).map (Message.stamped time) := by
  simp [messagesOf, stampedAll, Emission.stamped]

def Leg.stamped (time : Int) (l : Leg ω) : Leg ω :=
  { l with emissions := stampedAll time l.emissions }

def Script.stamped (time : Int) (s : Script ω) : Script ω :=
  { s with emissions := stampedAll time s.emissions }

theorem Leg.stamped_after (time : Int) (es : List (Emission ω)) (l : Leg ω) :
    (l.after es).stamped time = (l.stamped time).after (stampedAll time es) := by
  simp [Leg.after, Leg.stamped]

theorem Script.stamped_after (time : Int) (es : List (Emission ω)) (s : Script ω) :
    (Script.after es s).stamped time = Script.after (stampedAll time es) (s.stamped time) := by
  simp [Script.after, Script.stamped]

namespace Engine

def stamping (e : Engine ω) (time : Int) : Engine ω := { e with stamp := time }

variable (e : Engine ω) (time : Int)

section Step

variable {e} {name : String} {incremental : Option Incremental} {s t : Position ω}

theorem Advances.stamped {r : Object} {world : ω} {snapshot : List (Emission ω)}
    (hadvances : e.Advances name s r world incremental snapshot t) :
    (e.stamping time).Advances name s r world incremental (stampedAll time snapshot) t := by
  cases hadvances with
  | full => exact .full
  | folded hfold hdue => exact .folded hfold hdue
  | published hfold hdue => exact .published hfold hdue

theorem Takes.stamped {taken : List (Pull ω)} {es : List (Emission ω)}
    (htakes : e.Takes name incremental s taken es t) :
    (e.stamping time).Takes name incremental s taken (stampedAll time es) t := by
  induction htakes with
  | nil s => exact .nil s
  | cons hadvances _ ih =>
      rw [stampedAll_append]
      exact .cons (hadvances.stamped time) ih

theorem Halts.stamped {pulls : List (Pull ω)} {last : List (Emission ω)} {stop : Stop} {world : ω}
    (hhalts : e.Halts name incremental s pulls last stop world) :
    (e.stamping time).Halts name incremental s pulls (stampedAll time last) stop world := by
  cases hhalts with
  | fault f world rest => exact .fault f world rest
  | crash c world rest => exact .crash c world rest
  | fold world rest hincremental hfold => exact .fold world rest hincremental hfold

variable (e name incremental s) in
theorem closingAt_stamping (finish : ω) :
    (e.stamping time).closingAt name incremental finish s =
      (e.closingAt name incremental finish s).stamped time := by
  rcases publishes_or_not incremental s.cursor with ⟨hincremental, hcursor⟩ | hnone
  · rw [closingAt_of_published _ hincremental hcursor,
      closingAt_of_published _ hincremental hcursor]
    rfl
  · rw [closingAt_of_unpublished _ hnone, closingAt_of_unpublished _ hnone]
    rfl

end Step

theorem heading_stamping (stream : DataStream ω) (c : ConfiguredStream) (p : Progress ω) :
    (e.stamping time).heading stream c p = stampedAll time (e.heading stream c p) := by
  unfold heading
  cases seed? (tracking? stream c) p stream.name <;> rfl

/-- A stream is read in the same way at any time. -/
theorem leg_stamping (stream : DataStream ω) (c : ConfiguredStream) (p : Progress ω) :
    (e.stamping time).leg stream c p = (e.leg stream c p).stamped time := by
  obtain ⟨taken, rest, es, t, hpulls, htakes, hend⟩ := leg_cases e stream c p
  rcases hend with ⟨rfl, hleg⟩ | ⟨last, stop, world, hhalts, hleg⟩
  · rw [List.append_nil] at hpulls
    rw [hleg, leg_of_takes (hpulls ▸ htakes.stamped time), closingAt_stamping, heading_stamping,
      Leg.stamped_after, stampedAll_append]
  · rw [hleg, leg_of_halts hpulls (htakes.stamped time) (hhalts.stamped time), heading_stamping]
    simp [Leg.stamped]

theorem leg_reached_stamping (stream : DataStream ω) (c : ConfiguredStream) (p : Progress ω) :
    ((e.stamping time).leg stream c p).reached = (e.leg stream c p).reached := by
  rw [leg_stamping]
  rfl

theorem legs_stamping (streams : List (DataStream ω)) (p : Progress ω)
    (choices : List ConfiguredStream) :
    (e.stamping time).legs streams p choices = (e.legs streams p choices).stamped time := by
  induction choices generalizing p with
  | nil => rfl
  | cons c rest ih =>
      cases hlookup : lookup? streams c with
      | none => rw [legs_cons_of_none rest hlookup, legs_cons_of_none rest hlookup]; rfl
      | some s =>
          have hleg := e.leg_stamping time s c p
          cases hreached : (e.leg s c p).reached with
          | error stopped =>
              have hlater := (e.leg_reached_stamping time s c p).trans hreached
              rw [legs_cons_of_error rest hlookup hreached, legs_cons_of_error rest hlookup hlater,
                hleg]
              rfl
          | ok q =>
              have hlater := (e.leg_reached_stamping time s c p).trans hreached
              rw [legs_cons_of_ok rest hlookup hreached, legs_cons_of_ok rest hlookup hlater, hleg,
                ih, Script.stamped_after]
              rfl

theorem chapters_stamping (streams : List (DataStream ω)) (p : Progress ω)
    (choices : List ConfiguredStream) :
    (e.stamping time).chapters streams p choices = e.chapters streams p choices := by
  induction choices generalizing p with
  | nil => rfl
  | cons c rest ih => simp only [chapters, leg_reached_stamping, ih]

/-- A read is the same at any time, up to the times in its messages. -/
theorem script_stamping (config : Value) (catalog : ConfiguredCatalog) (state : Option SyncState)
    (world : ω) :
    (e.stamping time).script config catalog state world =
      (e.script config catalog state world).stamped time := by
  cases hstreams : e.source.streams config with
  | error f => rw [e.script_of_error hstreams, (e.stamping time).script_of_error hstreams]; rfl
  | ok streams =>
      rw [e.script_of_ok hstreams, (e.stamping time).script_of_ok hstreams, legs_stamping,
        Script.stamped_after]
      rfl

end Engine

theorem Chapter.messages_stamping (e : Engine ω) (time : Int) (ch : Chapter ω) :
    ch.messages (e.stamping time) = (ch.messages e).map (Message.stamped time) := by
  rw [messages, leg, e.leg_stamping, Leg.stamped, messagesOf_stampedAll]
  rfl

end Sync

end SourceSync
