/-
The source a connector definition declares. The user's configuration is completed
with defaults; from it come the client, the credentials and the requests. Cursor
state only ever reaches the query parameters of a stream.
-/
import SourceSync.Connector.Paging
import SourceSync.Connector.Validate
import SourceSync.Http.Client
import SourceSync.Secrets

namespace SourceSync

open Json Http

namespace ConnectorDefinition

/-- The configuration with the defaults of properties that are absent or null. -/
def completed : Table PropertyDefinition → Object → Except Fault Object
  | [], config => .ok config
  | (name, p) :: rest, config =>
    let present := (Table.get? name config).any (fun v => !v.isNull)
    if present then completed rest config
    else
      match p.default with
      | some v => completed rest (Table.put name v config)
      | none =>
        if p.required then .error (.missingConfigField name) else completed rest config

/-- The configuration that templates read: the user's, completed with defaults. -/
def resolveConfig (d : ConnectorDefinition) (config : Value) : Except Fault Value :=
  match config with
  | .object members => (completed d.properties.entries members).map .object
  | .null => (completed d.properties.entries []).map .object
  | _ => .error (.config "Connector config must be a JSON object")

/-- The authenticator, with its templates rendered. -/
def authenticator (d : ConnectorDefinition) (c : Template.Context) : Except Fault Authenticator :=
  match d.auth with
  | .none => .ok .none
  | .bearer token => do
    return .bearer (← Template.render token c)
  | .apiKey name value location => do
    return .apiKey (← Template.render name c) (← Template.render value c) location
  | .basic username password => do
    return .basic (← Template.render username c) (← Template.render password c)

/-- The text of a secret value. Null hides nothing. -/
def secretText? : Value → Option String
  | .string s => some s
  | .null => none
  | v => some v.text

def secretValues (d : ConnectorDefinition) (config : Value) : List String :=
  d.properties.entries.filterMap (fun p =>
    if p.2.secret then (config.member? p.1).bind secretText? else none)

/-- Each text once, in order. -/
def inOrder (texts : List String) : List String :=
  (Table.ofList (texts.map (fun s => (s, ())))).keys

/-- Everything that must not be shown under a configuration: the values of secret
properties, and the credentials if they can be rendered. -/
def secrets (d : ConnectorDefinition) (config : Value) : List String :=
  let credentials := match d.authenticator (.ofConfig config) with
    | .ok a => a.credentials
    | .error _ => []
  inOrder ((d.secretValues config ++ credentials).filter (fun s => !s.isEmpty))

def renderAll (c : Template.Context) : Table String → Except Fault (Table String)
  | [] => .ok []
  | (key, template) :: rest => do
    let value ← Template.render template c
    return (key, value) :: (← renderAll c rest)

def client (d : ConnectorDefinition) (c : Template.Context) : Except Fault Client := do
  let baseUrl ← Template.render d.baseUrl c
  let headers ← renderAll c d.headers.entries
  let authenticator ← d.authenticator c
  Client.build
    { baseUrl
      timeout := Duration.ofSeconds d.http.timeoutSeconds
      retry :=
        { maxRetries := d.http.maxRetries
          baseDelay := Duration.ofMilliseconds d.http.backoffMilliseconds
          maxDelay := Duration.ofSeconds d.http.maxBackoffSeconds }
      headers := .ofEntries headers
      userAgent := d.http.userAgent }
    authenticator

/-- The path and the parameters of the check: those declared for it, or else those of
the first stream. -/
def checkTarget (d : ConnectorDefinition) : Except Fault (String × SortedTable String) :=
  match d.check with
  | some check => .ok (check.path, check.params)
  | none =>
    match d.streams with
    | [] => .error (.config "Connector has no streams to check")
    | first :: _ => .ok (first.path, first.params)

def checkRequest (d : ConnectorDefinition) (c : Template.Context) : Except Fault ApiRequest := do
  let (path, params) ← d.checkTarget
  let path ← Template.render path c
  let query ← Template.renderParams params.entries c
  return ⟨path, query, []⟩

def checkParts (d : ConnectorDefinition) (config : Value) : Except Fault (Client × ApiRequest) := do
  let resolved ← d.resolveConfig config
  let client ← d.client (.ofConfig resolved)
  let request ← d.checkRequest (.ofConfig resolved)
  return (client, request)

/-- Check the connection. Whatever goes wrong is a check that does not pass. -/
def checkConnection (d : ConnectorDefinition) (config : Value) (n : Network) :
    CheckResult × Network :=
  match d.checkParts config with
  | .error f => (.failed f.message, n)
  | .ok (client, request) =>
    let sending := client.send request n
    match sending.result with
    | .ok _ => (.passed, sending.network)
    | .error f => (.failed f.message, sending.network)

end ConnectorDefinition

namespace StreamDefinition

/-- The request for a page of a stream; all but the first carry a token. -/
def request (s : StreamDefinition) (c : Template.Context) (token : Option String) :
    Except Fault ApiRequest := do
  let path ← Template.render s.path c
  let query ← Template.renderParams s.params.entries c
  let headers ← ConnectorDefinition.renderAll c s.headers.entries
  let page := match s.pagination, token with
    | some p, some t => [(p.pageParam, t)]
    | _, _ => []
  return ⟨path, query ++ page, headers⟩

def fetch (s : StreamDefinition) (client : Client) (c : Template.Context) : Paging.Fetch :=
  fun token n =>
    match s.request c token with
    | .error f => (.error f, n)
    | .ok request =>
      let (body, after) := client.fetchJson request n
      (body.bind (Paging.Page.ofBody s.recordPath (s.pagination.map (·.nextPagePath)) token), after)

def stream (s : StreamDefinition) (client : Client) (config : Value) : DataStream Network where
  name := s.name
  schema := s.schema.getD defaultSchema
  incremental := s.incremental.map (fun i =>
    { cursorField := i.cursorField
      sourceDefined := i.sourceDefined
      continuous := i.continuous
      fold := fun _ state record => .ok (Cursor.advance i.cursorField state record) })
  read := fun state n =>
    Paging.pages (s.fetch client ((Template.Context.ofConfig config).withState state)) n

end StreamDefinition

namespace ConnectorDefinition

def dataStreams (d : ConnectorDefinition) (config : Value) :
    Except Fault (List (DataStream Network)) := do
  let resolved ← d.resolveConfig config
  let client ← d.client (.ofConfig resolved)
  return d.streams.map (fun s => s.stream client resolved)

def source (d : ConnectorDefinition) : Source Network where
  name := d.name
  check := fun config n =>
    let (result, after) := d.checkConnection config n
    (.ok result, after)
  streams := fun config => (d.dataStreams config).mapError .fault

end ConnectorDefinition

end SourceSync
