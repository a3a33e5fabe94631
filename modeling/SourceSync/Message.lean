/-
Messages on the output channel: records, state snapshots, log lines, a catalog,
or the outcome of a connection check. Each is one JSON object that names its type
first and then holds its payload, with the members in a fixed order.
-/
import SourceSync.Catalog
import SourceSync.State

namespace SourceSync

open Json

/-- The severity of a log line, most severe first. -/
inductive Level where
  | fatal
  | error
  | warn
  | info
  | debug
  | trace
  deriving DecidableEq, Repr

namespace Level

/-- All levels, most severe first. -/
def all : List Level :=
  [.fatal, .error, .warn, .info, .debug, .trace]

def name : Level → String
  | .fatal => "FATAL"
  | .error => "ERROR"
  | .warn => "WARN"
  | .info => "INFO"
  | .debug => "DEBUG"
  | .trace => "TRACE"

/-- The level with exactly this name. -/
def ofName? (s : String) : Option Level :=
  all.find? (fun l => l.name == s)

/-- The level with exactly this name, or a fault that says so. -/
def parse (s : String) : Except Fault Level :=
  match ofName? s with
  | some l => .ok l
  | none => .error (.other s!"Unknown log level: {s}")

/-- The level of diagnostics, which have nothing above errors. -/
def diagnostic : Level → Level
  | .fatal => .error
  | l => l

def decode (v : Value) : Decode.Result Level :=
  Decode.variant (all.map (fun l => (l.name, l))) v

end Level

/-- The outcome of a connection check as it is reported. -/
structure ConnectionStatus where
  succeeded : Bool
  detail : Option String
  deriving DecidableEq, Repr

namespace ConnectionStatus

def toJson (s : ConnectionStatus) : Value :=
  .object (("status", .string (if s.succeeded then "SUCCEEDED" else "FAILED")) ::
    CatalogStream.optionalMember "message" (s.detail.map .string))

def decode (v : Value) : Decode.Result ConnectionStatus := do
  let f ← Decode.fields ["status", "message"] v
  let succeeded ← f.required "status" (Decode.variant [("SUCCEEDED", true), ("FAILED", false)])
  let detail ← f.optional "message" Decode.string
  return { succeeded, detail }

end ConnectionStatus

/-- A record with its stream and the time of its emission, in milliseconds. -/
structure StreamRecord where
  stream : String
  data : Object
  emittedAt : Int

inductive Message where
  | record (r : StreamRecord)
  | state (s : SyncState)
  | log (level : Level) (text : String)
  | catalog (c : Catalog)
  | connectionStatus (s : ConnectionStatus)

namespace Message

def typeName : Message → String
  | .record _ => "RECORD"
  | .state _ => "STATE"
  | .log _ _ => "LOG"
  | .catalog _ => "CATALOG"
  | .connectionStatus _ => "CONNECTION_STATUS"

def record? : Message → Option StreamRecord
  | .record r => some r
  | _ => none

def state? : Message → Option SyncState
  | .state s => some s
  | _ => none

/-- The level and the text, of a log message. -/
def log? : Message → Option (Level × String)
  | .log level text => some (level, text)
  | _ => none

/-- The member that holds the payload, and the payload. -/
def payload : Message → String × Value
  | .record r =>
    ("record", .object [("stream", .string r.stream), ("data", .object r.data),
      ("emitted_at", Value.int r.emittedAt)])
  | .state s => ("state", .object [("data", s.toJson)])
  | .log level text =>
    ("log", .object [("level", .string level.name), ("message", .string text)])
  | .catalog c => ("catalog", c.toJson)
  | .connectionStatus s => ("connectionStatus", s.toJson)

def toJson (m : Message) : Value :=
  .object [("type", .string m.typeName), m.payload]

/-- The message on one line. -/
def line (m : Message) : String :=
  m.toJson.text

def decodeRecord (v : Value) : Decode.Result StreamRecord := do
  let f ← Decode.fields ["stream", "data", "emitted_at"] v
  let stream ← f.required "stream" Decode.string
  let data ← f.required "data" Decode.object
  let emittedAt ← f.required "emitted_at" Decode.signed
  return { stream, data, emittedAt }

def decodeState (v : Value) : Decode.Result SyncState := do
  let f ← Decode.fields ["data"] v
  f.required "data" SyncState.decode

def decodeLog (v : Value) : Decode.Result (Level × String) := do
  let f ← Decode.fields ["level", "message"] v
  let level ← f.required "level" Level.decode
  let text ← f.required "message" Decode.string
  return (level, text)

/-- The type of a message and the value that holds its payload: the other members of
an object, or the other items of an array. -/
def splitType (v : Value) : Decode.Result (String × Value) :=
  match v with
  | .object members =>
    match members.filter (fun m => m.1 == "type") with
    | [] => .error (.missingField "type")
    | [(_, t)] =>
      (Decode.string t).map (fun name => (name, .object (members.filter (fun m => m.1 != "type"))))
    | _ => .error (.repeatedField "type")
  | .array (t :: rest) => (Decode.string t).map (fun name => (name, .array rest))
  | .array [] => .error (.missingField "type")
  | v => .error (.wrongKind "message" v.kind)

def decode (v : Value) : Decode.Result Message := do
  let (name, rest) ← splitType v
  match name with
  | "RECORD" =>
    let f ← Decode.fields ["record"] rest
    return .record (← f.required "record" decodeRecord)
  | "STATE" =>
    let f ← Decode.fields ["state"] rest
    return .state (← f.required "state" decodeState)
  | "LOG" =>
    let f ← Decode.fields ["log"] rest
    let (level, text) ← f.required "log" decodeLog
    return .log level text
  | "CATALOG" =>
    let f ← Decode.fields ["catalog"] rest
    return .catalog (← f.required "catalog" Catalog.decode)
  | "CONNECTION_STATUS" =>
    let f ← Decode.fields ["connectionStatus"] rest
    return .connectionStatus (← f.required "connectionStatus" ConnectionStatus.decode)
  | name => .error (.unknownVariant name)

def ofText (s : String) : Decode.Result Message :=
  (Json.read s).bind decode

end Message

end SourceSync
