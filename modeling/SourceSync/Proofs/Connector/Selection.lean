/-
Choosing among declared streams. A definition that follows the rules gives every stream a name
of its own, so a choice made from the discovered catalog is found again in a read: as the
stream of the same definition, read in the mode that was chosen, and once.
-/
import SourceSync.Proofs.Connector.Reading
import SourceSync.Proofs.Sync.Account

namespace SourceSync

open Json Http

namespace ConnectorDefinition

variable {d : ConnectorDefinition}

/-- The declared streams that are named, or all of them if no name is given. -/
def selected (d : ConnectorDefinition) (names : List String) : List StreamDefinition :=
  d.streams.filter (fun s => decide (names = [] ∨ s.name ∈ names))

end ConnectorDefinition

/-- The choice of a declared stream: incremental exactly if it has a cursor, which is then the
declared one. -/
def StreamDefinition.choice (s : StreamDefinition) (client : Client) (resolved : Value) :
    ConfiguredStream where
  stream := (s.stream client resolved).descriptor
  mode := if s.incremental.isSome then .incremental else .fullRefresh
  cursorField := s.incremental.map (·.cursorField.keys)

section Choices

variable (client : Client) (resolved : Value)

end Choices

namespace Sync.Engine

variable {e : Engine Network} {streams : List (DataStream Network)}

variable {config : Value} {catalog : ConfiguredCatalog}

section Reads

variable (hstreams : e.source.streams config = .ok streams) (hpaged : ∀ s ∈ streams, s.Paged)
  (hfound : ∀ c ∈ catalog.streams, ∃ s, lookup? streams c = some s)

include hstreams hpaged hfound

end Reads

end Sync.Engine

namespace ConnectorDefinition

open Sync Sync.Engine

variable {d : ConnectorDefinition} {names : List String}

end ConnectorDefinition

namespace SelectionExample

def plain : StreamDefinition where
  name := "plain"
  path := "/plain"
  params := ∅
  headers := ∅
  recordPath := ""
  schema := none
  pagination := none
  incremental := none

/-- A stream with a cursor inside its records. -/
def tracked : StreamDefinition :=
  { plain with
    name := "tracked"
    path := "/tracked"
    incremental := some ⟨.path ["meta", "seq"], true, false⟩ }

def definition : ConnectorDefinition where
  name := "two"
  version := ConnectorDefinition.initialVersion
  baseUrl := "http://[::1]"
  properties := ∅
  auth := .none
  http := .standard
  check := none
  headers := ∅
  streams := [plain, tracked]

def engine : Sync.Engine Network where
  source := definition.source
  secrets := .none
  policy := ⟨1⟩
  stamp := 0

def chosen : ConfiguredCatalog :=
  ⟨[⟨⟨"tracked", defaultSchema, [.fullRefresh, .incremental], some false,
    some ["meta", "seq"]⟩, .incremental, some ["meta", "seq"]⟩]⟩

/-- A server that has one record. -/
def network : Network :=
  let body := "[\x7b\"meta\":\x7b\"seq\":1\x7d\x7d]"
  .scripted [.response ⟨200, [], body.toList.map (fun c => UInt8.ofNat c.toNat), true⟩]

end SelectionExample

end SourceSync
