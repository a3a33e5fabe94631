/-
What scalars mean. A plain scalar without a tag is null, a truth value, a number or
a text, by its spelling; a quoted one is always a text. Tags of the core schema say
the kind themselves. Collections may be nested `nestingLimit` deep.
-/
import SourceSync.Json.Value
import SourceSync.Yaml.Reading

namespace SourceSync.Yaml

open Decimal

/-- How deep collections may be nested. -/
def nestingLimit : Nat := 128

/-- Spellings of null. -/
def isNull (cs : List Char) : Bool :=
  ["null", "Null", "NULL", "~"].contains (String.ofList cs)

def bool? (cs : List Char) : Option Bool :=
  if ["true", "True", "TRUE"].contains (String.ofList cs) then some true
  else if ["false", "False", "FALSE"].contains (String.ofList cs) then some false
  else none

/-- The value of a digit in a base of at most 16. -/
def digit? (base : Nat) (c : Char) : Option Nat :=
  (Text.hexValue? c).filter (fun d => d < base)

/-- The natural number that digits spell; there has to be one. -/
def natural? (base : Nat) (cs : List Char) : Option Nat :=
  if cs.isEmpty then none
  else (cs.mapM (digit? base)).map (fun ds => ds.foldl (fun n d => base * n + d) 0)

/-- The text without a sign. -/
def unsigned (cs : List Char) : List Char :=
  match cs with
  | '+' :: rest => rest
  | '-' :: rest => rest
  | cs => cs

/-- Whether a text is digits with a zero in front, which spell no number. -/
def isPadded (cs : List Char) : Bool :=
  match unsigned cs with
  | '0' :: c :: rest => (c :: rest).all Char.isDigit
  | _ => false

/-- The natural number that a text without sign spells: in base 16, 8 or 2 if that is
written in front, otherwise in base 10. -/
def magnitude? (cs : List Char) : Option Nat :=
  match cs with
  | '0' :: 'x' :: rest => natural? 16 rest
  | '0' :: 'o' :: rest => natural? 8 rest
  | '0' :: 'b' :: rest => natural? 2 rest
  | cs => if isPadded cs then none else natural? 10 cs

def integer? (cs : List Char) : Option Int :=
  match cs with
  | '+' :: rest => (magnitude? rest).map Int.ofNat
  | '-' :: rest => (magnitude? rest).map (fun n => -Int.ofNat n)
  | cs => (magnitude? cs).map Int.ofNat

/-- The natural number below a bound that a text spells. -/
def naturalBelow? (bound : Nat) (cs : List Char) : Option Nat :=
  match cs with
  | '-' :: _ => none
  | cs => (integer? cs).bind (fun n => if n < bound then some n.toNat else none)

/-- A decimal fraction taken apart: digits before and behind the point, and the exponent. -/
def decimal? (cs : List Char) : Option (List Char × List Char × Int) :=
  let whole := cs.takeWhile Char.isDigit
  let cs := cs.drop whole.length
  let (fraction, cs) := match cs with
    | '.' :: rest => (rest.takeWhile Char.isDigit, rest.dropWhile Char.isDigit)
    | cs => ([], cs)
  let exponent := match cs with
    | [] => some 0
    | c :: rest =>
      if c = 'e' ∨ c = 'E' then
        match rest with
        | '-' :: ds => (natural? 10 ds).map (fun n => -Int.ofNat n)
        | '+' :: ds => (natural? 10 ds).map Int.ofNat
        | ds => (natural? 10 ds).map Int.ofNat
      else none
  if whole.isEmpty && fraction.isEmpty then none
  else exponent.map (fun e => (whole, fraction, e))

/-- A floating-point number, or what is written for those that are not finite. -/
inductive Real where
  | finite (x : Binary64)
  | notFinite

def real? (cs : List Char) : Option Real :=
  let negative := cs.head? == some '-'
  let body := unsigned cs
  if [".inf", ".Inf", ".INF"].contains (String.ofList body) then some .notFinite
  else if [".nan", ".NaN", ".NAN"].contains (String.ofList cs) then some .notFinite
  else
    match decimal? body with
    | none => none
    | some (whole, fraction, exponent) =>
      let digits := (natural? 10 (whole ++ fraction)).getD 0
      (Binary64.ofDecimal? negative digits (exponent - fraction.length)).map .finite

/-- What a node means: like JSON, but numbers need not be finite and keys may be anything. -/
inductive Content where
  | null
  | bool (b : Bool)
  | integer (n : Int) (inRange : Json.InRange n)
  | real (x : Real)
  | text (cs : List Char)
  | sequence (items : List Content)
  | mapping (entries : List (Content × Content))

namespace Content

instance : Inhabited Content := ⟨.null⟩

/-- An integer, if it fits 64 bits. -/
def ofInteger (n : Int) : Result Content :=
  if h : Json.InRange n then .ok (.integer n h) else malformed "number out of range"

/-- Whether a whole number fits a word of 128 bits, signed or unsigned. -/
def fits128 (n : Int) : Bool :=
  decide (-0x80000000000000000000000000000000 ≤ n) &&
    decide (n < 0x100000000000000000000000000000000)

/-- What a plain scalar without a tag means. -/
def ofPlain (cs : List Char) : Result Content :=
  if cs.isEmpty || isNull cs then .ok .null
  else
    match bool? cs with
    | some b => .ok (.bool b)
    | none =>
      match integer? cs with
      | some n =>
        if fits128 n then ofInteger n
        else .ok ((real? cs).elim (.text cs) .real)
      | none =>
        if isPadded cs then .ok (.text cs)
        else .ok ((real? cs).elim (.text cs) .real)

/-- A scalar that its tag says to be of some kind. -/
def expected {α : Type} (what : String) (read : Option α) (wrap : α → Content) : Result Content :=
  match read with
  | some a => .ok (wrap a)
  | none => malformed s!"expected {what}"

/-- Whether a tag begins with an exclamation mark. -/
def hasMark (t : Tag) : Bool :=
  t.head? == Scanner.bareTag.head?

/-- Whether a tag names a kind of values of its own: it begins with an exclamation mark and
is a text. -/
def isLocal (tag : Option Tag) : Bool :=
  tag.any (fun t => hasMark t && (Text.Utf8.decode? t).isSome)

/-- What a scalar means. Kinds of their own have no meaning here. -/
def ofScalar (tag : Option Tag) (style : ScalarStyle) (cs : List Char) : Result Content :=
  match tag with
  | none => if style = .plain then ofPlain cs else .ok (.text cs)
  | some t =>
    if isLocal (some t) then malformed "a tagged value is not expected here"
    else if t = coreTag "bool" then expected "a boolean" (bool? cs) .bool
    else if t = coreTag "int" then
      match integer? cs with
      | some n => ofInteger n
      | none => malformed "expected an integer"
    else if t = coreTag "float" then expected "a float" (real? cs) .real
    else if t = coreTag "null" then
      if isNull cs then .ok .null else malformed "expected null"
    else if hasMark t && style = .plain then ofPlain cs
    else .ok (.text cs)

/-- What a node means; collections may be nested `left` deep. -/
def ofNode (left : Nat) (n : Node) : Reading Content := do
  match ← n.target, left with
  | .scalar marks style cs, _ => ofScalar marks.tag style cs
  | .sequence marks items, left + 1 =>
    if isLocal marks.tag then refuse "a tagged value is not expected here"
    else return .sequence (← items.mapM (ofNode left))
  | .mapping marks entries, left + 1 =>
    if isLocal marks.tag then refuse "a tagged value is not expected here"
    else
      return .mapping (← entries.mapM (fun e => do
        return (← ofNode left e.1, ← ofNode left e.2)))
  | _, _ => refuse "recursion limit exceeded"

def text? : Content → Result String
  | .text cs => .ok (String.ofList cs)
  | _ => malformed "expected a string"

end Content

/-- A scalar that is not null as JSON. -/
def Content.scalarJson : Content → Json.Value
  | .bool b => .bool b
  | .integer n h => .number (.whole n h)
  | .real (.finite x) => .number (.real x)
  | .text cs => .string (String.ofList cs)
  | _ => .null

/-- The text of a scalar, whatever it means. -/
def Node.text (n : Node) : Reading String := do
  match ← n.target with
  | .scalar _ _ cs => return String.ofList cs
  | _ => refuse "expected a string"

/-- A node as free-form data. Keys are read as texts, whatever they mean. -/
def Node.json (left : Nat) (n : Node) : Reading Json.Value := do
  match ← n.target, left with
  | .scalar marks style cs, _ => return (← Content.ofScalar marks.tag style cs).scalarJson
  | .sequence marks items, left + 1 =>
    if Content.isLocal marks.tag then refuse "a tagged value is not expected here"
    else return .array (← items.mapM (Node.json left))
  | .mapping marks entries, left + 1 =>
    if Content.isLocal marks.tag then refuse "a tagged value is not expected here"
    else
      let members ← entries.mapM (fun e => do return (← e.1.text, ← Node.json left e.2))
      return .object (Table.ofList members)
  | _, _ => refuse "recursion limit exceeded"

end SourceSync.Yaml
