/-
Typed reading of JSON values. A structure is read from an object, where unknown
members are ignored and a known one may stand only once, or from an array of its
fields in declaration order. A variant without payload is read from its name, or
from an object with that single member holding null or an empty object.
-/
import SourceSync.Json.Reader

namespace SourceSync.Json.Decode

abbrev Result (α : Type) : Type := Except ReadError α

/-- The fields of a structure that are present, by name. -/
structure Fields where
  get? : String → Option Value

/-- The first name that stands twice among the members, of the names given. -/
def repeated? (names : List String) : List (String × Value) → Option String
  | [] => none
  | (k, _) :: rest =>
    if names.contains k && rest.any (fun m => m.1 == k) then some k else repeated? names rest

/-- The fields of a structure with the given field names. -/
def fields (names : List String) (v : Value) : Result Fields :=
  match v with
  | .object members =>
    match repeated? names members with
    | some name => .error (.repeatedField name)
    | none => .ok ⟨fun name => Table.get? name members⟩
  | .array items =>
    if names.length < items.length then .error .tooManyItems
    else .ok ⟨fun name => Table.get? name (names.zip items)⟩
  | v => .error (.wrongKind "object" v.kind)

def Fields.required {α : Type} (f : Fields) (name : String) (read : Value → Result α) : Result α :=
  match f.get? name with
  | some v => read v
  | none => .error (.missingField name)

def Fields.withDefault {α : Type} (f : Fields) (name : String) (default : α)
    (read : Value → Result α) : Result α :=
  match f.get? name with
  | some v => read v
  | none => .ok default

/-- A field that may be absent or null. -/
def Fields.optional {α : Type} (f : Fields) (name : String) (read : Value → Result α) :
    Result (Option α) :=
  match f.get? name with
  | some .null => .ok none
  | some v => (read v).map some
  | none => .ok none

def string (v : Value) : Result String :=
  match v with
  | .string s => .ok s
  | v => .error (.wrongKind "string" v.kind)

def bool (v : Value) : Result Bool :=
  match v with
  | .bool b => .ok b
  | v => .error (.wrongKind "boolean" v.kind)

def signed (v : Value) : Result Int :=
  match v with
  | .number n =>
    match n.signed? with
    | some i => .ok i
    | none => .error (.wrongKind "64-bit integer" "number")
  | v => .error (.wrongKind "64-bit integer" v.kind)

/-- An array whose items are all read the same way. -/
def list {α : Type} (read : Value → Result α) (v : Value) : Result (List α) :=
  match v with
  | .array items => items.mapM read
  | v => .error (.wrongKind "array" v.kind)

/-- An object as free-form data. -/
def object (v : Value) : Result Object :=
  match v with
  | .object _ =>
    match v.sorted with
    | .object members => .ok members
    | w => .error (.wrongKind "object" w.kind)
  | v => .error (.wrongKind "object" v.kind)

/-- An object whose member values are all read the same way; of members with one
key the last stays. -/
def table {α : Type} (read : Value → Result α) (v : Value) : Result (SortedTable α) :=
  match v with
  | .object members =>
    (members.mapM (fun m => (read m.2).map (fun a => (m.1, a)))).map .ofEntries
  | v => .error (.wrongKind "object" v.kind)

/-- The name of a variant without payload. -/
def variantName (v : Value) : Result String :=
  match v with
  | .string s => .ok s
  | .object [(name, .null)] => .ok name
  | .object [(name, .object [])] => .ok name
  | v => .error (.wrongKind "variant" v.kind)

/-- One of the given variants. -/
def variant {α : Type} (variants : List (String × α)) (v : Value) : Result α :=
  match variantName v with
  | .error e => .error e
  | .ok name =>
    match Table.get? name variants with
    | some a => .ok a
    | none => .error (.unknownVariant name)

end SourceSync.Json.Decode
