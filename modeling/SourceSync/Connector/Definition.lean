/-
Connector definitions: what a connector file declares. Texts that may hold
template variables are kept as they were written.
-/
import SourceSync.Catalog
import SourceSync.Cursor
import SourceSync.Http.Auth

namespace SourceSync

open Json

/-- A property of the user's configuration. -/
structure PropertyDefinition where
  /-- The name of the JSON type of its values. -/
  kind : Option String
  description : Option String
  /-- Whether values are masked in everything that is written. -/
  secret : Bool
  required : Bool
  /-- The value used when the configuration has none. -/
  default : Option Value

/-- Authentication; every text may be a template. -/
inductive AuthDefinition where
  | none
  | bearer (token : String)
  | apiKey (name value : String) (location : Http.KeyLocation)
  | basic (username password : String)
  deriving DecidableEq, Repr

structure HttpDefinition where
  timeoutSeconds : Nat
  maxRetries : Nat
  backoffMilliseconds : Nat
  maxBackoffSeconds : Nat
  userAgent : Option String
  deriving DecidableEq, Repr

/-- The settings used for everything a definition leaves out. -/
def HttpDefinition.standard : HttpDefinition := ⟨30, 3, 100, 60, none⟩

/-- The request of a connection check. -/
structure CheckDefinition where
  path : String
  params : SortedTable String

/-- Pages that follow one another by tokens. -/
structure PaginationDefinition where
  /-- Where a page holds the token of the next one. -/
  nextPagePath : String
  /-- The query parameter that carries a token. -/
  pageParam : String
  deriving DecidableEq, Repr

/-- Cursor tracking of a stream. -/
structure IncrementalDefinition where
  cursorField : CursorField
  continuous : Bool
  sourceDefined : Bool
  deriving DecidableEq, Repr

structure StreamDefinition where
  name : String
  path : String
  params : SortedTable String
  headers : SortedTable String
  /-- Where a page holds its records. -/
  recordPath : String
  schema : Option Value
  pagination : Option PaginationDefinition
  incremental : Option IncrementalDefinition

structure ConnectorDefinition where
  name : String
  version : String
  baseUrl : String
  properties : SortedTable PropertyDefinition
  auth : AuthDefinition
  http : HttpDefinition
  check : Option CheckDefinition
  headers : SortedTable String
  streams : List StreamDefinition

/-- The version of connectors that name none. -/
def ConnectorDefinition.initialVersion : String := "0.1.0"

def ConnectorDefinition.stream? (d : ConnectorDefinition) (name : String) :
    Option StreamDefinition :=
  d.streams.find? (fun s => s.name == name)

def textOrNull (s : Option String) : Value :=
  Value.ofOption (s.map .string)

/-- A table of texts as JSON. -/
def textTable (t : SortedTable String) : Value :=
  .object (t.entries.map (fun e => (e.1, .string e.2)))

def PropertyDefinition.toJson (p : PropertyDefinition) : Value :=
  .object [("type", textOrNull p.kind), ("description", textOrNull p.description),
    ("secret", .bool p.secret), ("required", .bool p.required),
    ("default", Value.ofOption p.default)]

def AuthDefinition.toJson : AuthDefinition → Value
  | .none => .object [("type", .string "none")]
  | .bearer token => .object [("type", .string "bearer"), ("token", .string token)]
  | .apiKey name value location =>
    .object [("type", .string "api_key"), ("name", .string name), ("value", .string value),
      ("location", .string location.name)]
  | .basic username password =>
    .object [("type", .string "basic"), ("username", .string username),
      ("password", .string password)]

def HttpDefinition.toJson (h : HttpDefinition) : Value :=
  .object [("timeout_secs", Value.nat h.timeoutSeconds), ("max_retries", Value.nat h.maxRetries),
    ("backoff_ms", Value.nat h.backoffMilliseconds),
    ("max_backoff_secs", Value.nat h.maxBackoffSeconds), ("user_agent", textOrNull h.userAgent)]

def CheckDefinition.toJson (c : CheckDefinition) : Value :=
  .object [("path", .string c.path), ("params", textTable c.params)]

def PaginationDefinition.toJson (p : PaginationDefinition) : Value :=
  .object [("next_page_path", .string p.nextPagePath), ("page_param", .string p.pageParam)]

def IncrementalDefinition.toJson (i : IncrementalDefinition) : Value :=
  .object [("cursor_field", i.cursorField.toJson),
    ("continuously_save_state", .bool i.continuous),
    ("source_defined_cursor", .bool i.sourceDefined)]

def StreamDefinition.toJson (s : StreamDefinition) : Value :=
  .object [("name", .string s.name), ("path", .string s.path), ("params", textTable s.params),
    ("headers", textTable s.headers), ("record_path", .string s.recordPath),
    ("schema", Value.ofOption s.schema),
    ("pagination", Value.ofOption (s.pagination.map (·.toJson))),
    ("incremental", Value.ofOption (s.incremental.map (·.toJson)))]

/-- A connector as JSON: every member is there, and absent parts are null. -/
def ConnectorDefinition.toJson (d : ConnectorDefinition) : Value :=
  .object [("name", .string d.name), ("version", .string d.version),
    ("base_url", .string d.baseUrl),
    ("spec", .object
      [("properties", .object (d.properties.entries.map (fun p => (p.1, p.2.toJson))))]),
    ("auth", d.auth.toJson), ("http", d.http.toJson),
    ("check", Value.ofOption (d.check.map (·.toJson))), ("headers", textTable d.headers),
    ("streams", .array (d.streams.map (·.toJson)))]

end SourceSync
