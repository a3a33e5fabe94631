/-
Reading the nodes of a document. An alias is replaced by the node it means when it
is read, so what is not read may hold any aliases. Following aliases is limited
by the size of the document: otherwise a short text could stand for a huge one.
-/
import SourceSync.Yaml.Node

namespace SourceSync.Yaml

/-- Reading a part of a document; the state is the number of aliases followed so far. -/
abbrev Reading (α : Type) : Type := ReaderT Document (StateT Nat Result) α

/-- A part that cannot be read. -/
def refuse {α : Type} (message : String) : Reading α :=
  throw ⟨message⟩

/-- How many aliases may be followed in a document. -/
def Document.aliasLimit (d : Document) : Nat :=
  d.size * 100

/-- The node that aliases of a number mean. -/
def Document.node? (d : Document) (anchor : Nat) : Option Node :=
  (d.anchored.find? (fun e => e.1 == anchor)).map (·.2)

/-- Read a document from its node on. -/
def Document.decode {α : Type} (d : Document) (root : Node → Reading α) : Result α :=
  (root d.root d).run' 0

/-- The node that an alias means, and any other node itself. -/
def Node.target (n : Node) : Reading Node := do
  match n with
  | .alias anchor =>
    let d ← read
    let followed ← get
    if d.aliasLimit ≤ followed then refuse "repetition limit exceeded"
    else
      set (followed + 1)
      match d.node? anchor with
      | some m => return m
      | none => refuse "unknown anchor"
  | n => return n

end SourceSync.Yaml
