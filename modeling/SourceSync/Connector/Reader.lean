/-
Reading connector definitions from YAML. Texts are taken as they are written, but
in authentication and in cursor fields a plain scalar keeps the kind it spells, so
that a number is no text there.
-/
import SourceSync.Connector.Validate
import SourceSync.Yaml.Decode

namespace SourceSync

open Yaml

def PropertyDefinition.read (n : Node) : Yaml.Reading PropertyDefinition := do
  let f ← Fields.ofNode ["type", "description", "secret", "required", "default"] n
  let kind ← f.optional "type" Node.text
  let description ← f.optional "description" Node.text
  let secret ← f.withDefault "secret" false Node.bool
  let required ← f.withDefault "required" false Node.bool
  let default ← f.optional "default" (Node.json (nestingLimit - 4))
  return { kind, description, secret, required, default }

def readSpec (n : Node) : Yaml.Reading (SortedTable PropertyDefinition) := do
  let f ← Fields.ofNode ["properties"] n
  f.withDefault "properties" ∅ (Node.table PropertyDefinition.read)

def locationNamed (name : String) : Yaml.Result Http.KeyLocation :=
  match name with
  | "header" => .ok .header
  | "query" => .ok .query
  | _ => malformed "unknown variant"

/-- The location that a key names, by its name or by its number. -/
def locationOf (key : Content) : Yaml.Result Http.KeyLocation :=
  match key with
  | .text cs => locationNamed (String.ofList cs)
  | .integer n _ =>
    match [Http.KeyLocation.header, Http.KeyLocation.query][n.toNat]?, decide (0 ≤ n) with
    | some location, true => .ok location
    | _, _ => malformed "unknown variant"
  | _ => malformed "expected a name"

/-- Where a key is sent: a name, or a mapping of what names it to nothing. -/
def readLocation (c : Content) : Yaml.Result Http.KeyLocation :=
  match c with
  | .mapping [(key, .null)] => locationOf key
  | .mapping [(key, .mapping [])] => locationOf key
  | c => do locationNamed (← c.text?)

namespace AuthDefinition

def fieldNames (kind : String) : Yaml.Result (List String) :=
  match kind with
  | "none" => .ok []
  | "bearer" => .ok ["token"]
  | "api_key" => .ok ["name", "value", "location"]
  | "basic" => .ok ["username", "password"]
  | _ => malformed "unknown variant"

/-- The field that a key names, by its name or by its number; numbers that are too large
name none. -/
def fieldOf (names : List String) (key : Content) : Yaml.Result String :=
  match key with
  | .text cs => .ok (String.ofList cs)
  | .integer n _ =>
    if n < 0 then malformed "expected a field name" else .ok (names.getD n.toNat "")
  | _ => malformed "expected a field name"

def ofFields (kind : String) (f : Fields Content) : Yaml.Result AuthDefinition :=
  match kind with
  | "bearer" => do
    return .bearer (← f.required "token" Content.text?)
  | "api_key" => do
    let name ← f.required "name" Content.text?
    let value ← f.required "value" Content.text?
    let location ← f.withDefault "location" .header readLocation
    return .apiKey name value location
  | "basic" => do
    let username ← f.required "username" Content.text?
    let password ← f.withDefault "password" "" Content.text?
    return .basic username password
  | _ => .ok .none

/-- Authentication of a kind, from the entries of a mapping that are left. -/
def ofEntries (kind : String) (entries : List (Content × Content)) :
    Yaml.Result AuthDefinition := do
  let names ← fieldNames kind
  if names.isEmpty then ofFields kind ⟨fun _ => Option.none⟩
  else
    let named ← entries.mapM (fun e => do return (← fieldOf names e.1, e.2))
    ofFields kind (← Fields.ofEntries names named)

/-- Authentication of a kind, from its fields in order. -/
def ofItems (kind : String) (items : List Content) : Yaml.Result AuthDefinition := do
  let names ← fieldNames kind
  ofFields kind (← Fields.ofItems names items)

def isKindKey (key : Content) : Bool :=
  match key with
  | .text cs => cs = ['t', 'y', 'p', 'e']
  | _ => false

/-- Read authentication: a mapping with an entry for the kind, or a sequence of the kind and
the fields. -/
def read (n : Node) : Yaml.Reading AuthDefinition := do
  let left := nestingLimit - 2
  match ← n.target with
  | .mapping marks entries =>
    if Content.isLocal marks.tag then refuse "a tagged value is not expected here"
    else
      let keyed ← entries.mapM (fun e => do return (← Content.ofNode left e.1, e.2))
      let (kinds, others) := keyed.partition (fun e => isKindKey e.1)
      let others ← others.mapM (fun e => do return (e.1, ← Content.ofNode left e.2))
      match kinds with
      | [(_, kind)] => ofEntries (← kind.text) others
      | [] => refuse "missing field 'type'"
      | _ => refuse "duplicate field 'type'"
  | .sequence marks items =>
    if Content.isLocal marks.tag then refuse "a tagged value is not expected here"
    else
      match items with
      | [] => refuse "missing field 'type'"
      | kind :: others => ofItems (← kind.text) (← others.mapM (Content.ofNode left))
  | _ => refuse "expected a mapping"

end AuthDefinition

def HttpDefinition.read (n : Node) : Yaml.Reading HttpDefinition := do
  let f ← Fields.ofNode ["timeout_secs", "max_retries", "backoff_ms", "max_backoff_secs",
    "user_agent"] n
  let std := HttpDefinition.standard
  let timeoutSeconds ←
    f.withDefault "timeout_secs" std.timeoutSeconds (Node.naturalBelow 0x10000000000000000)
  let maxRetries ← f.withDefault "max_retries" std.maxRetries (Node.naturalBelow 0x100000000)
  let backoffMilliseconds ←
    f.withDefault "backoff_ms" std.backoffMilliseconds (Node.naturalBelow 0x10000000000000000)
  let maxBackoffSeconds ←
    f.withDefault "max_backoff_secs" std.maxBackoffSeconds (Node.naturalBelow 0x10000000000000000)
  let userAgent ← f.optional "user_agent" Node.text
  return { timeoutSeconds, maxRetries, backoffMilliseconds, maxBackoffSeconds, userAgent }

def CheckDefinition.read (n : Node) : Yaml.Reading CheckDefinition := do
  let f ← Fields.ofNode ["path", "params"] n
  let path ← f.required "path" Node.text
  let params ← f.withDefault "params" ∅ (Node.table Node.text)
  return { path, params }

def PaginationDefinition.read (n : Node) : Yaml.Reading PaginationDefinition := do
  let f ← Fields.ofNode ["next_page_path", "page_param"] n
  let nextPagePath ← f.required "next_page_path" Node.text
  let pageParam ← f.required "page_param" Node.text
  return { nextPagePath, pageParam }

/-- Read a cursor field: a name, or a sequence of keys. -/
def CursorField.read (n : Node) : Yaml.Reading CursorField := do
  match ← Content.ofNode (nestingLimit - 4) n with
  | .text cs => return .field (String.ofList cs)
  | .sequence items =>
    let names : Yaml.Result (List String) := items.mapM Content.text?
    return .path (← names)
  | _ => refuse "expected a name or a path"

def IncrementalDefinition.read (n : Node) : Yaml.Reading IncrementalDefinition := do
  let f ← Fields.ofNode ["cursor_field", "continuously_save_state", "source_defined_cursor"] n
  let cursorField ← f.required "cursor_field" CursorField.read
  let continuous ← f.withDefault "continuously_save_state" false Node.bool
  let sourceDefined ← f.withDefault "source_defined_cursor" true Node.bool
  return { cursorField, continuous, sourceDefined }

def StreamDefinition.read (n : Node) : Yaml.Reading StreamDefinition := do
  let f ← Fields.ofNode ["name", "path", "params", "headers", "record_path", "schema",
    "pagination", "incremental"] n
  let name ← f.required "name" Node.text
  let path ← f.required "path" Node.text
  let params ← f.withDefault "params" ∅ (Node.table Node.text)
  let headers ← f.withDefault "headers" ∅ (Node.table Node.text)
  let recordPath ← f.withDefault "record_path" "" Node.text
  let schema ← f.optional "schema" (Node.json (nestingLimit - 3))
  let pagination ← f.optional "pagination" PaginationDefinition.read
  let incremental ← f.optional "incremental" IncrementalDefinition.read
  return { name, path, params, headers, recordPath, schema, pagination, incremental }

namespace ConnectorDefinition

def read (n : Node) : Yaml.Reading ConnectorDefinition := do
  let f ← Fields.ofNode ["name", "version", "base_url", "spec", "auth", "http", "check",
    "headers", "streams"] n
  let name ← f.required "name" Node.text
  let version ← f.withDefault "version" initialVersion Node.text
  let baseUrl ← f.required "base_url" Node.text
  let properties ← f.withDefault "spec" ∅ readSpec
  let auth ← f.withDefault "auth" .none AuthDefinition.read
  let http ← f.withDefault "http" .standard HttpDefinition.read
  let check ← f.optional "check" CheckDefinition.read
  let headers ← f.withDefault "headers" ∅ (Node.table Node.text)
  let streams ← f.required "streams" (Node.list StreamDefinition.read)
  return { name, version, baseUrl, properties, auth, http, check, headers, streams }

/-- The connector that a text defines, if it follows all rules. -/
def load (text : String) : Except Fault ConnectorDefinition :=
  match (Document.ofText text).bind (fun d => d.decode read) with
  | .error e => .error (.config s!"Failed to parse connector YAML: {e.message}")
  | .ok d => d.validate.map (fun _ => d)

end ConnectorDefinition

end SourceSync
