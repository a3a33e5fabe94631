/-
Sync state: the cursor state of every stream synced so far. It is written as one
JSON object from stream names to cursor states, in name order, so that the text
depends on the entries alone.
-/
import SourceSync.Fault
import SourceSync.Json.Decode

namespace SourceSync

open Json

/-- The cursor state of each stream. -/
structure SyncState where
  streams : SortedTable Object

namespace SyncState

def empty : SyncState := ⟨∅⟩

instance : Inhabited SyncState := ⟨empty⟩

/-- The state with the given entries; of several for one stream the last stays. -/
def ofEntries (entries : List (String × Object)) : SyncState :=
  ⟨.ofEntries entries⟩

def get? (s : SyncState) (stream : String) : Option Object :=
  s.streams.get? stream

/-- The state a stream can resume from: the stored one, unless it is empty. -/
def cursorFor? (s : SyncState) (stream : String) : Option Object :=
  (s.get? stream).filter (fun state => !state.isEmpty)

/-- Whether merging would change the entry of a stream: empty state never replaces
what is stored, and equal state changes nothing. -/
def changes (s : SyncState) (stream : String) (state : Object) : Bool :=
  !state.isEmpty &&
    match s.get? stream with
    | some stored => !Object.same stored state
    | none => true

def merge (s : SyncState) (stream : String) (state : Object) : SyncState :=
  if s.changes stream state then ⟨s.streams.put stream state⟩ else s

def names (s : SyncState) : List String :=
  s.streams.entries.keys

def toJson (s : SyncState) : Value :=
  .object (s.streams.entries.map (fun e => (e.1, .object e.2)))

def text (s : SyncState) : String :=
  s.toJson.text

def decode (v : Value) : Decode.Result SyncState :=
  (Decode.table Decode.object v).map SyncState.mk

def ofText (s : String) : Except Fault SyncState :=
  match (Json.read s).bind decode with
  | .ok state => .ok state
  | .error e => .error (.state s!"Failed to parse state JSON: {e.message}")

/-- Equality of states, as that of their entries. -/
def same (a b : SyncState) : Bool :=
  Value.same a.toJson b.toJson

end SyncState

end SourceSync
