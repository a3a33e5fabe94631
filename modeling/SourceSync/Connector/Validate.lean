/-
Rules for connector definitions that reading them does not enforce: nothing that
is needed may be empty, stream names differ, and templates read declared
properties only; the cursor state is open to the parameters of streams alone.
-/
import SourceSync.Connector.Definition
import SourceSync.Template
import SourceSync.Url.Parser

namespace SourceSync

/-- A rule that has to hold. -/
def ensure (condition : Bool) (message : String) : Except Fault Unit :=
  if condition then .ok () else .error (.config message)

def isBlankText (s : String) : Bool :=
  (Text.trim s.toList).isEmpty

namespace StreamDefinition

/-- Whether a cursor field leads somewhere. -/
def isUsable (f : CursorField) : Bool :=
  !f.keys.isEmpty && f.keys.all (fun key => !key.isEmpty)

def validate (s : StreamDefinition) : Except Fault Unit := do
  ensure (!isBlankText s.name) "Stream name cannot be empty"
  ensure (!s.path.isEmpty) s!"Stream '{s.name}' path cannot be empty"
  match s.pagination with
  | none => pure ()
  | some p =>
    ensure (!p.nextPagePath.isEmpty && !p.pageParam.isEmpty)
      s!"Stream '{s.name}' pagination needs both next_page_path and page_param"
  match s.incremental with
  | none => pure ()
  | some i => ensure (isUsable i.cursorField) s!"Stream '{s.name}' has an empty cursor_field"

end StreamDefinition

/-- A template of a definition: where it stands, and whether it may read the cursor
state. -/
structure PlacedTemplate where
  location : String
  template : String
  readsState : Bool
  deriving DecidableEq, Repr

def AuthDefinition.templates : AuthDefinition → List String
  | .none => []
  | .bearer token => [token]
  | .apiKey name value _ => [name, value]
  | .basic username password => [username, password]

def StreamDefinition.templates (s : StreamDefinition) : List PlacedTemplate :=
  ⟨s.name, s.path, false⟩ :: s.headers.entries.map (fun h => ⟨s.name, h.2, false⟩) ++
    s.params.entries.map (fun p => ⟨s.name, p.2, true⟩)

namespace ConnectorDefinition

/-- The templates of a connector, in the order in which they are looked at. -/
def templates (d : ConnectorDefinition) : List PlacedTemplate :=
  ⟨"base_url", d.baseUrl, false⟩ :: d.headers.entries.map (fun h => ⟨"headers", h.2, false⟩) ++
    d.auth.templates.map (fun t => ⟨"auth", t, false⟩) ++
    (match d.check with
      | none => []
      | some c => c.params.entries.map (fun p => ⟨"check", p.2, false⟩)) ++
    d.streams.flatMap StreamDefinition.templates

/-- The property that a variable reads, if it reads the configuration: its second part. -/
def property? (name : String) : Option String :=
  match Json.Path.keys name.toList with
  | "config" :: key :: _ => some key
  | _ => none

/-- The rule for one variable of a template. If no property is declared, any may be read. -/
def validateVariable (declared : SortedTable PropertyDefinition) (t : PlacedTemplate)
    (name : String) : Except Fault Unit := do
  ensure (t.readsState || !Template.readsState name)
    s!"'{name}' in {t.location} can only be used in stream params"
  match property? name with
  | none => pure ()
  | some key =>
    ensure (declared.entries.isEmpty || declared.has key)
      s!"Template in {t.location} references undeclared config property '{key}'"

def validateTemplate (declared : SortedTable PropertyDefinition) (t : PlacedTemplate) :
    Except Fault Unit :=
  (Template.variableNames t.template).forM (validateVariable declared t)

/-- The rules for the streams: each has a new name and follows its own rules. -/
def validateStreams : List String → List StreamDefinition → Except Fault Unit
  | _, [] => .ok ()
  | seen, s :: rest => do
    ensure (!seen.contains s.name) s!"Duplicate stream name: {s.name}"
    s.validate
    validateStreams (s.name :: seen) rest

/-- The rule for a base URL without variables: it has to be an absolute URL. -/
def validateBaseUrl (baseUrl : String) : Except Fault Unit :=
  if Template.hasVariables baseUrl then .ok ()
  else
    match Url.parse baseUrl with
    | .ok _ => .ok ()
    | .error e => .error (.invalidUrl e)

/-- All rules. The first one that does not hold is reported. -/
def validate (d : ConnectorDefinition) : Except Fault Unit := do
  ensure (!isBlankText d.name) "Connector name cannot be empty"
  ensure (!d.baseUrl.isEmpty) "Connector base_url cannot be empty"
  validateBaseUrl d.baseUrl
  ensure (!d.streams.isEmpty) "Connector must have at least one stream"
  validateStreams [] d.streams
  ensure (d.check.all (fun c => !c.path.isEmpty)) "Check path cannot be empty"
  d.templates.forM (validateTemplate d.properties)

end ConnectorDefinition

end SourceSync
