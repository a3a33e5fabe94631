/-
Reading JSON text. The tokens drive a machine with a stack of open containers; its
result is the outline of a value, with everything as it is written. A shape says
which members of an outline are read; the others only have to be well-formed. `read`
gives the whole value, with members in the order of the text; `readSorted` gives it
with members in key order and every key once.
-/
import SourceSync.Json.Token
import SourceSync.Json.Printer

namespace SourceSync.Json

/-- A value as it is written. -/
inductive Outline where
  | null
  | bool (b : Bool)
  | number (l : Number.Literal)
  | string (units : Units)
  | array (items : List Outline)
  | object (members : List (Units × Outline))

instance : Inhabited Outline := ⟨.null⟩

/-- A container that has been opened: what it holds so far, last first. -/
inductive Frame where
  | array (items : List Outline)
  | object (members : List (Units × Outline)) (key : Units)

/-- What the reader expects next. -/
inductive Expect where
  /-- A value. -/
  | value
  /-- A value, or the end of the array just opened. -/
  | firstItem
  /-- A key, or the end of the object just opened. -/
  | firstKey
  /-- A key. -/
  | key (members : List (Units × Outline))
  /-- The colon after a key. -/
  | colon (members : List (Units × Outline)) (key : Units)
  /-- A comma or the end of the array. -/
  | moreItems (items : List Outline)
  /-- A comma or the end of the object. -/
  | moreMembers (members : List (Units × Outline))
  /-- Nothing: the value is complete. -/
  | nothing (v : Outline)

/-- The reader between two tokens. -/
structure Reader where
  stack : List Frame
  expect : Expect

namespace Reader

def start : Reader := ⟨[], .value⟩

/-- A value has been completed. -/
def complete (stack : List Frame) (v : Outline) : Reader :=
  match stack with
  | [] => ⟨[], .nothing v⟩
  | .array items :: rest => ⟨rest, .moreItems (v :: items)⟩
  | .object members key :: rest => ⟨rest, .moreMembers ((key, v) :: members)⟩

/-- The wording of a token that does not fit. -/
def tokenName : Token → String
  | .openArray | .closeArray => "bracket"
  | .openObject | .closeObject => "brace"
  | .colon => "colon"
  | .comma => "comma"
  | .null => "null"
  | .bool _ => "boolean"
  | .number _ => "number"
  | .string _ => "string"

/-- A token where a value is expected. -/
def onValue (stack : List Frame) (t : Token) : Except ReadError Reader :=
  match t with
  | .null => .ok (complete stack .null)
  | .bool b => .ok (complete stack (.bool b))
  | .number l => .ok (complete stack (.number l))
  | .string units => .ok (complete stack (.string units))
  | .openArray => .ok ⟨stack, .firstItem⟩
  | .openObject => .ok ⟨stack, .firstKey⟩
  | t => .error (.unexpected (tokenName t))

/-- One token. -/
def step (r : Reader) (t : Token) : Except ReadError Reader :=
  match r.expect with
  | .value => onValue r.stack t
  | .firstItem =>
    match t with
    | .closeArray => .ok (complete r.stack (.array []))
    | t => onValue (.array [] :: r.stack) t
  | .firstKey =>
    match t with
    | .closeObject => .ok (complete r.stack (.object []))
    | .string key => .ok ⟨r.stack, .colon [] key⟩
    | t => .error (.unexpected (tokenName t))
  | .key members =>
    match t with
    | .string key => .ok ⟨r.stack, .colon members key⟩
    | t => .error (.unexpected (tokenName t))
  | .colon members key =>
    match t with
    | .colon => .ok ⟨.object members key :: r.stack, .value⟩
    | t => .error (.unexpected (tokenName t))
  | .moreItems items =>
    match t with
    | .comma => .ok ⟨.array items :: r.stack, .value⟩
    | .closeArray => .ok (complete r.stack (.array items.reverse))
    | t => .error (.unexpected (tokenName t))
  | .moreMembers members =>
    match t with
    | .comma => .ok ⟨r.stack, .key members⟩
    | .closeObject => .ok (complete r.stack (.object members.reverse))
    | t => .error (.unexpected (tokenName t))
  | .nothing _ => .error .trailingText

def run (r : Reader) : List Token → Except ReadError Reader
  | [] => .ok r
  | t :: rest =>
    match step r t with
    | .error e => .error e
    | .ok next => run next rest

def result (r : Reader) : Except ReadError Outline :=
  match r.expect with
  | .nothing v => .ok v
  | _ => .error .unexpectedEnd

end Reader

def Outline.ofChars (cs : List Char) : Except ReadError Outline :=
  match Token.scan .between cs with
  | .error e => .error e
  | .ok tokens =>
    match Reader.run .start tokens with
    | .error e => .error e
    | .ok r => r.result

/-- The value of an outline whose containers are nested at most `left` deep. -/
def Outline.value (left : Nat) (o : Outline) : Except ReadError Value :=
  match o, left with
  | .null, _ => .ok .null
  | .bool b, _ => .ok (.bool b)
  | .number l, _ =>
    match l.number? with
    | some n => .ok (.number n)
    | none => .error .numberOutOfRange
  | .string units, _ => units.text.map .string
  | .array items, left + 1 => (items.mapM (Outline.value left)).map .array
  | .object members, left + 1 => do
    let entries ← members.mapM (fun (key, o) => do
      return (← key.text, ← Outline.value left o))
    return .object entries
  | _, 0 => .error .tooDeep

/-- Which parts of a value are read. -/
inductive Shape where
  /-- All of them. -/
  | whole
  /-- A variant without payload: a name, or an object of the name and null. -/
  | variant
  /-- The items of an array. -/
  | list (item : Shape)
  /-- Some members of an object, or the items that stand for them. -/
  | fields (known : List (String × Shape))

/-- Whether an outline is an object of one member that is null, or no object. -/
def Outline.isVariant : Outline → Bool
  | .object members =>
    match members with
    | [(_, .null)] => true
    | _ => false
  | _ => true

/-- The parts of an outline that a shape names; containers are nested at most `left`
deep there. -/
def Outline.select (left : Nat) (shape : Shape) (o : Outline) : Except ReadError Value :=
  match shape, o, left with
  | .list item, .array items, left + 1 => (items.mapM (Outline.select left item)).map .array
  | .fields known, .array items, left + 1 =>
    let shapes := known.map (·.2) ++ List.replicate (items.length - known.length) .whole
    ((shapes.zip items).mapM (fun e => Outline.select left e.1 e.2)).map .array
  | .fields known, .object members, left + 1 => do
    let named ← members.mapM (fun (key, o) => do return (← key.text, o))
    let parts ← named.filterMapM (fun (key, o) =>
      match Table.get? key known with
      | some shape => do return some (key, ← Outline.select left shape o)
      | none => .ok none)
    return .object parts
  | .variant, o, left =>
    if o.isVariant then o.value left else .error (.wrongKind "variant" "object")
  | _, o, left => o.value left

def nestingLimit : Nat := 127

/-- Read a text with some nesting limit, keeping the order and the repetition of members. -/
def readWithin (limit : Nat) (cs : List Char) : Except ReadError Value :=
  (Outline.ofChars cs).bind (Outline.value limit)

/-- Read a text, keeping the order and the repetition of members. -/
def read (s : String) : Except ReadError Value :=
  readWithin nestingLimit s.toList

/-- Read the parts of a text that a shape names. -/
def readParts (shape : Shape) (s : String) : Except ReadError Value :=
  (Outline.ofChars s.toList).bind (Outline.select nestingLimit shape)

/-- Read a text as free-form data. -/
def readSorted (s : String) : Except ReadError Value :=
  (read s).map Value.sorted

end SourceSync.Json
