/-
Typed reading of YAML nodes. A structure is read from a mapping, where unknown keys
are ignored and a known one may stand only once. Where a collection is expected,
nothing at all is an empty one, but a written null is none.
-/
import SourceSync.Yaml.Resolve

namespace SourceSync.Yaml

namespace Node

def isUnwritten : Node → Bool
  | .scalar _ style cs => style = .plain && cs.isEmpty
  | _ => false

def isAbsent : Node → Result Bool
  | .scalar marks style cs =>
    if style ≠ .plain then .ok false
    else if marks.tag = some (coreTag "null") then
      if isNull cs then .ok true else malformed "expected null"
    else .ok (marks.tag.isNone && (cs.isEmpty || isNull cs))
  | _ => .ok false

/-- Whether a scalar is read by its spelling: it is plain, or a block tagged as what is
expected. -/
def isSpelled (kind : String) (tag : Option Tag) (style : ScalarStyle) : Bool :=
  style = .plain || (style = .literal && tag = some (coreTag kind))

def bool (n : Node) : Reading Bool := do
  match ← n.target with
  | .scalar marks style cs =>
    match isSpelled "bool" marks.tag style, bool? cs with
    | true, some b => return b
    | _, _ => refuse "expected a boolean"
  | _ => refuse "expected a boolean"

def naturalBelow (bound : Nat) (n : Node) : Reading Nat := do
  match ← n.target with
  | .scalar marks style cs =>
    match isSpelled "int" marks.tag style, naturalBelow? bound cs with
    | true, some n => return n
    | _, _ => refuse "expected an unsigned integer"
  | _ => refuse "expected an unsigned integer"

/-- A sequence whose items are all read the same way. -/
def list {α : Type} (item : Node → Reading α) (n : Node) : Reading (List α) := do
  match ← n.target with
  | .sequence _ items => items.mapM item
  | n => if n.isUnwritten then return [] else refuse "expected a sequence"

/-- A mapping whose values are all read the same way; of entries with one key the last
stays. -/
def table {α : Type} (value : Node → Reading α) (n : Node) : Reading (SortedTable α) := do
  match ← n.target with
  | .mapping _ entries =>
    return .ofEntries (← entries.mapM (fun e => do return (← e.1.text, ← value e.2)))
  | n => if n.isUnwritten then return ∅ else refuse "expected a mapping"

end Node

/-- The fields of a structure that are present, by name. -/
structure Fields (α : Type) where
  get? : String → Option α

namespace Fields

/-- The fields among the entries of a mapping; a known one may stand only once. -/
def ofEntries {α : Type} (names : List String) (entries : List (String × α)) : Result (Fields α) :=
  if names.all (fun name => (entries.filter (fun e => e.1 == name)).length ≤ 1) then
    .ok ⟨fun name => Table.get? name entries⟩
  else malformed "duplicate field"

/-- The fields of a sequence, in declaration order. -/
def ofItems {α : Type} (names : List String) (items : List α) : Result (Fields α) :=
  if items.length ≤ names.length then .ok ⟨fun name => Table.get? name (names.zip items)⟩
  else malformed "invalid length"

/-- The fields of a structure with the given field names. -/
def ofNode (names : List String) (n : Node) : Reading (Fields Node) := do
  match ← n.target with
  | .mapping _ entries =>
    ofEntries names (← entries.mapM (fun e => do return (← e.1.text, e.2)))
  | n => if n.isUnwritten then return ⟨fun _ => none⟩ else refuse "expected a mapping"

variable {m : Type → Type} [Monad m] [MonadExceptOf Malformed m]

def required {α β : Type} (f : Fields α) (name : String) (value : α → m β) : m β :=
  match f.get? name with
  | some a => value a
  | none => throw ⟨s!"missing field '{name}'"⟩

def withDefault {α β : Type} (f : Fields α) (name : String) (default : β) (value : α → m β) :
    m β :=
  match f.get? name with
  | some a => value a
  | none => return default

/-- A field that may be absent or null. -/
def optional {β : Type} (f : Fields Node) (name : String) (value : Node → Reading β) :
    Reading (Option β) :=
  match f.get? name with
  | none => return none
  | some n => do
    let n ← n.target
    if ← n.isAbsent then return none else return some (← value n)

end Fields

end SourceSync.Yaml
