/-
Sources and their streams. Reading a stream is described by everything it would
yield, in order, together with the state of the outside world `ω` after each
pull; whoever reads it may stop at any point. A stream that can resume from a
cursor carries the settings for that beside it.
-/
import SourceSync.Catalog
import SourceSync.Cursor
import SourceSync.Fault

namespace SourceSync

open Json

/-- A source that broke down instead of reporting a fault; the text of the
breakdown, if it has one. -/
structure Crash where
  text : Option String
  deriving DecidableEq, Repr

/-- How a crash is described. -/
def Crash.message (c : Crash) : String :=
  c.text.getD "non-string panic payload"

/-- The fault a crash is reported as when nobody waits for the result of the run. -/
def Crash.fault (c : Crash) : Fault :=
  .other s!"Sync task panicked: {c.message}"

/-- Why a source did not do what it was asked to. -/
inductive Stop where
  | fault (f : Fault)
  | crash (c : Crash)
  deriving DecidableEq, Repr

/-- What a stream yields when it is pulled. -/
inductive Item where
  | record (r : Object)
  | fault (f : Fault)
  | crash (c : Crash)

/-- One pull: what it yields, and the world after it. -/
structure Pull (ω : Type) where
  item : Item
  world : ω

/-- All pulls of a reading, and the world once the end has been seen. -/
structure Reading (ω : Type) where
  pulls : List (Pull ω)
  finish : ω

/-- How a stream tracks a cursor. `fold` takes the number of records the stream has
folded before in the same run, the state so far and the record. -/
structure Incremental where
  cursorField : CursorField
  sourceDefined : Bool
  continuous : Bool
  fold : Nat → Object → Object → Except Stop Object

/-- The schema of a stream that does not describe its records. -/
def defaultSchema : Value :=
  .object [("additionalProperties", .bool true), ("properties", .object []),
    ("type", .string "object")]

/-- A named stream of records. -/
structure DataStream (ω : Type) where
  name : String
  schema : Value
  incremental : Option Incremental
  read : Object → ω → Reading ω

namespace DataStream

variable {ω : Type}

/-- The modes a stream can be read in. -/
def modes (s : DataStream ω) : List SyncMode :=
  if s.incremental.isSome then [.fullRefresh, .incremental] else [.fullRefresh]

def descriptor (s : DataStream ω) : CatalogStream where
  name := s.name
  schema := s.schema
  modes := s.modes
  sourceDefinedCursor := s.incremental.map (·.sourceDefined)
  defaultCursorField := s.incremental.map (fun i => i.cursorField.keys)

end DataStream

structure CheckResult where
  success : Bool
  detail : Option String
  deriving DecidableEq, Repr

namespace CheckResult

def passed : CheckResult := ⟨true, none⟩

def failed (detail : String) : CheckResult := ⟨false, some detail⟩

end CheckResult

/-- A source of streams. A check that does not pass is a result; a fault is left for
what the check itself could not handle. Whatever a source is asked, it may break down. -/
structure Source (ω : Type) where
  name : String
  check : Value → ω → Except Stop CheckResult × ω
  streams : Value → Except Stop (List (DataStream ω))

end SourceSync
