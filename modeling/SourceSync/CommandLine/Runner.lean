/-
Running a command. Everything a run needs is loaded first: the connector, the
configuration, then the catalog and the state. The secrets of the configuration
take the place of those registered before as soon as it is known. A fault ends the
run and is reported in a last message.
-/
import SourceSync.CommandLine.Arguments
import SourceSync.CommandLine.Files
import SourceSync.Connector.Reader
import SourceSync.Connector.Source
import SourceSync.Sync.Engine

namespace SourceSync.CommandLine

open Json

/-- What a command did: the messages the sink has taken, the number of those it was tried
with, the result, the secrets that were registered, and the network afterwards. -/
structure Report where
  messages : List Message
  tried : Nat
  result : Except Fault Unit
  secrets : Secrets
  network : Http.Network

/-- JSON text that has to be right. -/
def parseJson {α : Type} (read : String → Decode.Result α) (text : String) : Except Fault α :=
  (read text).mapError .jsonParse

namespace Invocation

def connectorPath (i : Invocation) : Except Fault String :=
  match i.connector with
  | some path => .ok path
  | none => .error (.config "Connector file not specified (use -c flag)")

def loadConnector (i : Invocation) (files : Files) : Except Fault ConnectorDefinition := do
  let path ← i.connectorPath
  ConnectorDefinition.load (← files.require "connector" path)

/-- Load the configuration; the one given in the arguments goes before the file. -/
def loadConfig (i : Invocation) (files : Files) : Except Fault Value :=
  match i.configJson, i.config with
  | some text, _ => Fault.within "Invalid config JSON" (parseJson Json.readSorted text)
  | none, some path => do
    let text ← files.require "config" path
    Fault.withinLazily (fun _ => s!"Invalid config JSON in '{path}'")
      (parseJson Json.readSorted text)
  | none, none => .ok (.object [])

/-- Load the state to start from, if one is given. -/
def loadState (i : Invocation) (files : Files) : Except Fault (Option SyncState) :=
  match i.stateJson, i.state with
  | some text, _ => (SyncState.ofText text).map some
  | none, some path => do
    let text ← files.require "state" path
    return some (← SyncState.ofText text)
  | none, none => .ok none

/-- The files that a command may read. -/
def paths (i : Invocation) : List String :=
  let catalog := match i.command with
    | .read o => o.catalog.toList
    | _ => []
  i.connector.toList ++ i.config.toList ++ i.state.toList ++ catalog

end Invocation

/-- The fault that a command ends with when its source stops it. -/
def faultOf : Stop → Fault
  | .fault f => f
  | .crash c => .other c.message

/-- Choose the streams to read: those of a catalog file, or those named among all that are
discovered. -/
def chooseStreams (o : ReadOptions) (files : Files) (discovered : Except Stop Catalog) :
    Except Fault ConfiguredCatalog :=
  match o.catalog with
  | some path => do
    let text ← files.require "catalog" path
    Fault.withinLazily (fun _ => s!"Invalid catalog JSON in '{path}'")
      (parseJson ConfiguredCatalog.ofText text)
  | none => do
    let catalog ← discovered.mapError faultOf
    match o.streams.find? (fun name => (catalog.get? name).isNone) with
    | some missing => .error (.streamNotFound missing)
    | none => return catalog.configure o.streams

/-- A connector with its configuration, ready to run. -/
structure Session where
  definition : ConnectorDefinition
  config : Value

namespace Session

def load (i : Invocation) (files : Files) : Except Fault Session := do
  let definition ← i.loadConnector files
  let config ← i.loadConfig files
  return { definition, config }

/-- The configuration as far as it can be completed. -/
def resolved (s : Session) : Value :=
  match s.definition.resolveConfig s.config with
  | .ok v => v
  | .error _ => s.config

def secrets (s : Session) : Secrets :=
  .ofList (s.definition.secrets s.resolved)

def engine (s : Session) (policy : CheckpointPolicy) (stamp : Int) : Sync.Engine Http.Network :=
  { source := s.definition.source
    secrets := s.secrets
    policy
    stamp }

end Session

/-- A report that ends before any message. -/
def Report.stopped (f : Fault) (secrets : Secrets) (n : Http.Network) : Report :=
  ⟨[], 0, .error f, secrets, n⟩

def Report.single (sink : Sink) (m : Message) (secrets : Secrets) (n : Http.Network) : Report :=
  match sink.refuse? 0 m with
  | none => ⟨[m], 1, .ok (), secrets, n⟩
  | some f => ⟨[], 1, .error f, secrets, n⟩

def Report.ofRun (r : Sync.Run Http.Network) (secrets : Secrets) : Report :=
  let result := match r.result with
    | .finished _ => .ok ()
    | .failed f => .error f
    | .crashed c => .error (faultOf (.crash c))
  ⟨r.messages, r.tried, result, secrets, r.world⟩

def runCheck (s : Session) (sink : Sink) (n : Http.Network) : Report :=
  match (s.engine .standard 0).check s.config n with
  | (.ok status, after) => .single sink (.connectionStatus status) s.secrets after
  | (.error stop, after) => .stopped (faultOf stop) s.secrets after

def runDiscover (s : Session) (sink : Sink) (n : Http.Network) : Report :=
  match (s.engine .standard 0).discover s.config with
  | .ok catalog => .single sink (.catalog catalog) s.secrets n
  | .error stop => .stopped (faultOf stop) s.secrets n

/-- Read streams; `stamp` is the time put on records. -/
def runRead (i : Invocation) (o : ReadOptions) (s : Session) (files : Files) (sink : Sink)
    (stamp : Int) (n : Http.Network) : Report :=
  let engine := s.engine ⟨o.checkpointInterval⟩ stamp
  let loaded : Except Fault (ConfiguredCatalog × Option SyncState) := do
    let catalog ← chooseStreams o files (engine.discover s.config)
    return (catalog, ← i.loadState files)
  match loaded with
  | .error f => .stopped f s.secrets n
  | .ok (catalog, state) => .ofRun (engine.read s.config catalog state sink n) s.secrets

/-- Validate the connector alone. No configuration is read, so no secrets are registered. -/
def runValidate (registered : Secrets) (i : Invocation) (files : Files) (sink : Sink)
    (n : Http.Network) : Report :=
  match i.loadConnector files with
  | .error f => .stopped f registered n
  | .ok d =>
    let text := s!"Connector '{d.name}' v{d.version} is valid with {d.streams.length} streams"
    .single sink (Log.format registered .info text) registered n

/-- Run a command up to its end or its first fault, with the secrets registered before. -/
def execute (registered : Secrets) (i : Invocation) (files : Files) (sink : Sink) (stamp : Int)
    (n : Http.Network) : Report :=
  let within := fun (run : Session → Report) =>
    match Session.load i files with
    | .error f => .stopped f registered n
    | .ok s => run s
  match i.command with
  | .check => within (fun s => runCheck s sink n)
  | .discover => within (fun s => runDiscover s sink n)
  | .read o => within (fun s => runRead i o s files sink stamp n)
  | .validate => runValidate registered i files sink n

/-- Report the fault that ended a run in a last message. -/
def Report.closing (sink : Sink) (r : Report) : Report :=
  match r.result with
  | .ok _ => r
  | .error f =>
    { r with
      messages := r.messages ++ sink.taken r.tried [Log.format r.secrets .fatal f.trace]
      tried := r.tried + 1 }

def run (registered : Secrets) (i : Invocation) (files : Files) (sink : Sink) (stamp : Int)
    (n : Http.Network) : Report :=
  (execute registered i files sink stamp n).closing sink

/-- How messages are written. -/
def OutputFormat.layout : OutputFormat → Sink.Format
  | .json => .lines
  | .pretty => .pretty

/-- What the program does with its arguments: its exit code and what it writes. -/
structure Exit where
  code : UInt32
  output : String

/-- The exit on a usage error. Asking for help or for the version is none. -/
def Exit.ofUsage : UsageError → Exit
  | .displayHelp => ⟨0, "Usage: relay-cdk [OPTIONS] <COMMAND>\n"⟩
  | .displayVersion => ⟨0, "relay-cdk 0.1.0\n"⟩
  | _ => ⟨2, ""⟩

/-- The exit of a run. -/
def Exit.ofReport (format : OutputFormat) (r : Report) : Exit :=
  ⟨match r.result with
    | .ok _ => 0
    | .error _ => 1,
    format.layout.text r.messages⟩

end SourceSync.CommandLine
