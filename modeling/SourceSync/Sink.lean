/-
Sinks: where messages go, one at a time. A sink is known by the emissions it
refuses; it may look at the message and at the number of emissions tried before.
`Sink.text` is what a sink that writes lines has written.
-/
import SourceSync.Fault
import SourceSync.Message

namespace SourceSync

/-- Which emissions are refused, and with which fault. -/
structure Sink where
  refuse? : Nat → Message → Option Fault

namespace Sink

/-- A sink that takes every message. -/
def unlimited : Sink := ⟨fun _ _ => none⟩

/-- A sink that takes a number of messages and then refuses all others. -/
def closingAfter (count : Nat) (f : Fault) : Sink :=
  ⟨fun tried _ => if tried < count then none else some f⟩

/-- What a consumer that has gone away answers. -/
def consumerGone : Fault :=
  .sinkClosed "message stream dropped by consumer"

/-- Offer messages one after another: for each the fault it was refused with, if any. -/
def offer (s : Sink) : Nat → List Message → List (Option Fault)
  | _, [] => []
  | tried, m :: rest => s.refuse? tried m :: s.offer (tried + 1) rest

/-- The messages a sink takes when it is offered some. -/
def taken (s : Sink) : Nat → List Message → List Message
  | _, [] => []
  | tried, m :: rest =>
    match s.refuse? tried m with
    | none => m :: s.taken (tried + 1) rest
    | some _ => s.taken (tried + 1) rest

/-- How messages are written. -/
inductive Format where
  /-- One message on each line. -/
  | lines
  /-- Each message spread over lines. -/
  | pretty
  deriving DecidableEq, Repr

/-- A message as it is written, with a line break behind it. -/
def Format.write (f : Format) (m : Message) : String :=
  (match f with
    | .lines => m.line
    | .pretty => m.toJson.prettyText) ++ "\n"

/-- The text of messages written one after another. -/
def Format.text (f : Format) (messages : List Message) : String :=
  String.join (messages.map f.write)

end Sink

end SourceSync
