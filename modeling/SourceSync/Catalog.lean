/-
Catalogs: the streams a source has, and the streams chosen for a read together
with the way each is to be read.
-/
import SourceSync.Json.Decode

namespace SourceSync

open Json

/-- How a stream is read. -/
inductive SyncMode where
  /-- All records, every time. -/
  | fullRefresh
  /-- Only what is new since the stored cursor. -/
  | incremental
  deriving DecidableEq, Repr

namespace SyncMode

def name : SyncMode → String
  | .fullRefresh => "full_refresh"
  | .incremental => "incremental"

def decode (v : Value) : Decode.Result SyncMode :=
  Decode.variant [("full_refresh", .fullRefresh), ("incremental", .incremental)] v

end SyncMode

/-- A stream as a source describes it. -/
structure CatalogStream where
  name : String
  schema : Value
  modes : List SyncMode
  sourceDefinedCursor : Option Bool
  defaultCursorField : Option (List String)

namespace CatalogStream

def supportsIncremental (s : CatalogStream) : Bool :=
  s.modes.contains .incremental

/-- A member that is left out when there is no value. -/
def optionalMember (key : String) : Option Value → List (String × Value)
  | none => []
  | some v => [(key, v)]

def toJson (s : CatalogStream) : Value :=
  .object ([("name", .string s.name), ("json_schema", s.schema),
      ("supported_sync_modes", .array (s.modes.map (fun m => .string m.name)))] ++
    optionalMember "source_defined_cursor" (s.sourceDefinedCursor.map .bool) ++
    optionalMember "default_cursor_field" (s.defaultCursorField.map Value.strings))

/-- The parts of a text that a stream is read from. -/
def shape : Shape :=
  .fields [("name", .whole), ("json_schema", .whole), ("supported_sync_modes", .list .variant),
    ("source_defined_cursor", .whole), ("default_cursor_field", .whole)]

def decode (v : Value) : Decode.Result CatalogStream := do
  let f ← Decode.fields ["name", "json_schema", "supported_sync_modes", "source_defined_cursor",
    "default_cursor_field"] v
  let name ← f.required "name" Decode.string
  let schema ← f.withDefault "json_schema" .null (fun v => .ok v.sorted)
  let modes ← f.withDefault "supported_sync_modes" [] (Decode.list SyncMode.decode)
  let sourceDefinedCursor ← f.optional "source_defined_cursor" Decode.bool
  let defaultCursorField ← f.optional "default_cursor_field" (Decode.list Decode.string)
  return { name, schema, modes, sourceDefinedCursor, defaultCursorField }

end CatalogStream

/-- A stream chosen for a read. -/
structure ConfiguredStream where
  stream : CatalogStream
  mode : SyncMode
  cursorField : Option (List String)

namespace ConfiguredStream

def toJson (c : ConfiguredStream) : Value :=
  .object ([("stream", c.stream.toJson), ("sync_mode", .string c.mode.name)] ++
    CatalogStream.optionalMember "cursor_field" (c.cursorField.map Value.strings))

/-- The parts of a text that a choice is read from. -/
def shape : Shape :=
  .fields [("stream", CatalogStream.shape), ("sync_mode", .variant), ("cursor_field", .whole)]

def decode (v : Value) : Decode.Result ConfiguredStream := do
  let f ← Decode.fields ["stream", "sync_mode", "cursor_field"] v
  let stream ← f.required "stream" CatalogStream.decode
  let mode ← f.withDefault "sync_mode" .fullRefresh SyncMode.decode
  let cursorField ← f.optional "cursor_field" (Decode.list Decode.string)
  return { stream, mode, cursorField }

end ConfiguredStream

/-- The streams chosen for a read, in reading order. -/
structure ConfiguredCatalog where
  streams : List ConfiguredStream

namespace ConfiguredCatalog

def toJson (c : ConfiguredCatalog) : Value :=
  .object [("streams", .array (c.streams.map ConfiguredStream.toJson))]

def decode (v : Value) : Decode.Result ConfiguredCatalog := do
  let f ← Decode.fields ["streams"] v
  let streams ← f.required "streams" (Decode.list ConfiguredStream.decode)
  return { streams }

def ofText (s : String) : Decode.Result ConfiguredCatalog :=
  (Json.readParts (.fields [("streams", .list ConfiguredStream.shape)]) s).bind decode

end ConfiguredCatalog

/-- The streams of a source. -/
structure Catalog where
  streams : List CatalogStream

namespace Catalog

/-- The first stream with a name. -/
def get? (c : Catalog) (name : String) : Option CatalogStream :=
  c.streams.find? (fun s => s.name == name)

/-- Choose a stream, incrementally if it supports that. -/
def choose (s : CatalogStream) : ConfiguredStream :=
  { stream := s
    mode := if s.supportsIncremental then .incremental else .fullRefresh
    cursorField := s.defaultCursorField }

/-- Choose the streams with the given names, or all of them if no name is given. -/
def configure (c : Catalog) (names : List String) : ConfiguredCatalog :=
  ⟨(c.streams.filter (fun s => names.isEmpty || names.contains s.name)).map choose⟩

def toJson (c : Catalog) : Value :=
  .object [("streams", .array (c.streams.map CatalogStream.toJson))]

def decode (v : Value) : Decode.Result Catalog := do
  let f ← Decode.fields ["streams"] v
  let streams ← f.required "streams" (Decode.list CatalogStream.decode)
  return { streams }

def ofText (s : String) : Decode.Result Catalog :=
  (Json.readParts (.fields [("streams", .list CatalogStream.shape)]) s).bind decode

end Catalog

end SourceSync
