/-
JSON values. The members of an object are listed in the order in which they were
read or are to be written; `sorted` gives the form in which free-form data is
kept, where members stand in key order and every key once. Equality (`same`) is
that of the data model: `1` and `1.0` differ, `0.0` and `-0.0` do not.
-/
import SourceSync.Json.Number
import SourceSync.Table

namespace SourceSync.Json

/-- A JSON value. -/
inductive Value where
  | null
  | bool (b : Bool)
  | number (n : Number)
  | string (s : String)
  | array (items : List Value)
  | object (members : List (String × Value))

instance : Inhabited Value := ⟨.null⟩

/-- Members by key. -/
abbrev Object : Type := Table Value

namespace Value

def nat (n : Nat) : Value :=
  .number (.ofNat n)

def int (n : Int) : Value :=
  .number (.ofInt n)

def strings (ss : List String) : Value :=
  .array (ss.map .string)

def ofOption : Option Value → Value
  | none => .null
  | some v => v

def string? : Value → Option String
  | .string s => some s
  | _ => none

/-- The member of an object under a key; other values have none. -/
def member? (v : Value) (key : String) : Option Value :=
  match v with
  | .object members => Table.get? key members
  | _ => none

def isNull : Value → Bool
  | .null => true
  | _ => false

def kind : Value → String
  | .null => "null"
  | .bool _ => "boolean"
  | .number _ => "number"
  | .string _ => "string"
  | .array _ => "array"
  | .object _ => "object"

mutual

def same : Value → Value → Bool
  | .null, .null => true
  | .bool a, .bool b => a == b
  | .number a, .number b => a.same b
  | .string a, .string b => a == b
  | .array a, .array b => sameItems a b
  | .object a, .object b => sameMembers a b
  | _, _ => false

def sameItems : List Value → List Value → Bool
  | [], [] => true
  | a :: as, b :: bs => same a b && sameItems as bs
  | _, _ => false

def sameMembers : List (String × Value) → List (String × Value) → Bool
  | [], [] => true
  | (k, a) :: as, (l, b) :: bs => k == l && same a b && sameMembers as bs
  | _, _ => false

end

mutual

/-- The value with the members of every object in key order; of members with one
key the last stays. -/
def sorted : Value → Value
  | .array items => .array (sortedItems items)
  | .object members => .object (Table.ofList (sortedMembers members))
  | v => v

def sortedItems : List Value → List Value
  | [] => []
  | v :: rest => sorted v :: sortedItems rest

def sortedMembers : List (String × Value) → List (String × Value)
  | [] => []
  | (k, v) :: rest => (k, sorted v) :: sortedMembers rest

end

end Value

def Object.same (a b : Object) : Bool :=
  Value.sameMembers a b

end SourceSync.Json
