/-
The course of a read. What a read emits when nothing is refused is a script: the
emissions in order, each with the world at that time, and how the script ends. A
sink then cuts the script at the first emission it refuses. The first fault ends
a run; unless it says that nobody takes messages any more, it is logged before.
-/
import SourceSync.Log
import SourceSync.Sink
import SourceSync.Source
import SourceSync.State

namespace SourceSync.Sync

/-- What has been counted during a read. -/
structure Stats where
  records : Nat
  stateMessages : Nat
  streams : Nat
  milliseconds : Nat
  deriving DecidableEq, Repr

namespace Stats

def zero : Stats := ⟨0, 0, 0, 0⟩

instance : Inhabited Stats := ⟨zero⟩

def addRecord (s : Stats) : Stats := { s with records := s.records + 1 }

def addStateMessage (s : Stats) : Stats := { s with stateMessages := s.stateMessages + 1 }

def addStream (s : Stats) : Stats := { s with streams := s.streams + 1 }

/-- The time a read took. -/
def withDuration (s : Stats) (milliseconds : Nat) : Stats :=
  { s with milliseconds := milliseconds }

end Stats

/-- What a finished read leaves: the aggregate state and the counts. -/
structure Outcome where
  state : SyncState
  stats : Stats

/-- An emission: the message, the world at that time, and the line under which a
refusal is logged; refusals of the first and the last message are not logged. -/
structure Emission (ω : Type) where
  message : Message
  world : ω
  blame : Option String

/-- How a script ends: with an outcome, with a fault and the line it is logged under,
or with a crash. -/
inductive Ending where
  | finished (o : Outcome)
  | failed (context : String) (f : Fault)
  | crashed (c : Crash)

/-- The emissions of a read that meets no refusal, and its end. -/
structure Script (ω : Type) where
  emissions : List (Emission ω)
  ending : Ending
  world : ω

inductive Result where
  | finished (o : Outcome)
  | failed (f : Fault)
  | crashed (c : Crash)

/-- A run: the messages a sink has taken, the number of those it was tried with, the
result, and the world afterwards. -/
structure Run (ω : Type) where
  messages : List Message
  tried : Nat
  result : Result
  world : ω

def faultText (context : String) (f : Fault) : String :=
  context ++ "\n" ++ f.trace

/-- The log message for a fault, unless the fault says that nobody takes messages. -/
def reportMessage? (secrets : Secrets) (context : String) (f : Fault) : Option Message :=
  if f.isSinkClosed then none else some (Log.format secrets .error (faultText context f))

/-- End a run with a fault: the sink is tried with its log message, if it has one. -/
def Run.failing {ω : Type} (secrets : Secrets) (sink : Sink) (tried : Nat) (context : String)
    (f : Fault) (world : ω) : Run ω :=
  match reportMessage? secrets context f with
  | none => ⟨[], tried, .failed f, world⟩
  | some m => ⟨sink.taken tried [m], tried + 1, .failed f, world⟩

/-- Perform the rest of a script when some emissions have been tried. -/
def Script.performFrom {ω : Type} (secrets : Secrets) (sink : Sink) (ending : Ending) (world : ω) :
    Nat → List (Emission ω) → Run ω
  | tried, [] =>
    match ending with
    | .finished o => ⟨[], tried, .finished o, world⟩
    | .failed context f => .failing secrets sink tried context f world
    | .crashed c => ⟨[], tried, .crashed c, world⟩
  | tried, e :: rest =>
    match sink.refuse? tried e.message with
    | none =>
      let run := performFrom secrets sink ending world (tried + 1) rest
      { run with messages := e.message :: run.messages }
    | some f =>
      match e.blame with
      | none => ⟨[], tried + 1, .failed f, e.world⟩
      | some context => .failing secrets sink (tried + 1) context f e.world

/-- Perform a script on a sink. -/
def Script.perform {ω : Type} (secrets : Secrets) (sink : Sink) (s : Script ω) : Run ω :=
  Script.performFrom secrets sink s.ending s.world 0 s.emissions

end SourceSync.Sync
