/-
Cursors: the field that orders a stream's records, and the state that remembers
the greatest value seen. Whole numbers that fit 64 bits with a sign compare exactly,
any other two numbers in floating point, strings by their characters; nothing else
compares.
-/
import SourceSync.Json.Decode
import SourceSync.Json.Path

namespace SourceSync

open Json

/-- The field of a record that a stream is ordered by: a name, or a path of keys. -/
inductive CursorField where
  | field (name : String)
  | path (keys : List String)
  deriving DecidableEq, Repr

namespace CursorField

/-- The keys that lead to the cursor value. -/
def keys : CursorField → List String
  | .field name => [name]
  | .path keys => keys

/-- The key under which the cursor value is kept in a stream's state: the last one. -/
def stateKey (f : CursorField) : String :=
  f.keys.getLastD ""

def valueIn? (f : CursorField) (record : Object) : Option Value :=
  match f.keys with
  | [] => none
  | key :: rest => (Value.object record).follow? (key :: rest)

/-- The field as JSON: a string or an array of strings. -/
def toJson : CursorField → Value
  | .field name => .string name
  | .path keys => Value.strings keys

def ofJson? (v : Value) : Option CursorField :=
  match v with
  | .string name => some (.field name)
  | v =>
    match Decode.list Decode.string v with
    | .ok keys => some (.path keys)
    | .error _ => none

end CursorField

namespace Cursor

/-- The order of two numbers: exact if both fit a signed 64-bit integer, otherwise
that of their values in floating point. -/
def compareNumbers (a b : Number) : Ordering :=
  match a.signed?, b.signed? with
  | some x, some y => compare x y
  | _, _ => compare a.toReal.order b.toReal.order

/-- The order of two cursor values of one kind. -/
def compare? : Value → Value → Option Ordering
  | .number a, .number b => some (compareNumbers a b)
  | .string a, .string b => some (compare a b)
  | _, _ => none

/-- Whether a record's value takes the place of the stored one: unless it is known
to be no greater. -/
def replaces (latest : Value) (stored : Option Value) : Bool :=
  match stored with
  | none => true
  | some s =>
    match compare? latest s with
    | some .lt => false
    | some .eq => false
    | _ => true

/-- Fold a record into a state that holds the greatest cursor value. Records whose
value is absent or null change nothing. -/
def advance (f : CursorField) (state record : Object) : Object :=
  match f.valueIn? record with
  | none => state
  | some latest =>
    if latest.isNull then state
    else if replaces latest (Table.get? f.stateKey state) then Table.put f.stateKey latest state
    else state

end Cursor

end SourceSync
