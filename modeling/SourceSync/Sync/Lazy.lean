/-
Reading on demand. The messages of a run come out one by one; a run that fails
ends with its fault as the last item, unless the fault is that nobody takes the
messages any more, and a run that crashes ends with a fault that says so.
-/
import SourceSync.Sync.Engine

namespace SourceSync.Sync

/-- What comes out of a read on demand: a message, or the fault that ended the run. -/
abbrev LazyItem : Type := Except Fault Message

/-- The fault that ends the items of a run, if there is one. -/
def Result.lastFault? : Result → Option Fault
  | .finished _ => none
  | .failed f => if f.isSinkClosed then none else some f
  | .crashed c => some c.fault

/-- All items of a run. -/
def Run.items {ω : Type} (r : Run ω) : List LazyItem :=
  r.messages.map .ok ++ r.result.lastFault?.toList.map .error

/-- Everything a read yields on demand. -/
def Engine.readLazily {ω : Type} (e : Engine ω) (config : Json.Value) (catalog : ConfiguredCatalog)
    (state : Option SyncState) (world : ω) : List LazyItem :=
  (e.read config catalog state .unlimited world).items

end SourceSync.Sync
