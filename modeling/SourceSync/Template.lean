/-
Templates: text with variables in double braces. A template is a list of
segments, literal characters and variables, found by one scan from the left;
values are put in once and are never scanned again. Variables are read from two
roots, the connector's configuration and the cursor state of a stream.
-/
import SourceSync.Fault
import SourceSync.Json.Path
import SourceSync.Json.Printer
import SourceSync.Text.Blank

namespace SourceSync.Template

/-- A piece of a template: a literal character, or a variable with the characters
it was written in. -/
inductive Segment where
  | literal (c : Char)
  | variable (name written : List Char)
  deriving DecidableEq, Repr

/-- The first character of a name. -/
def isNameStart (c : Char) : Bool :=
  c.isAlpha || c == '_'

/-- The other characters of a name. -/
def isNameChar (c : Char) : Bool :=
  c.isAlphanum || c == '_'

/-- A dotted name at the front: `fresh` says that a name has to start here. -/
def dottedName : Bool → List Char → List Char
  | _, [] => []
  | true, c :: rest => if isNameStart c then c :: dottedName false rest else []
  | false, c :: rest =>
    if isNameChar c then c :: dottedName false rest
    else if c = '.' then
      match dottedName true rest with
      | [] => []
      | name => '.' :: name
    else []

/-- The variable at the front of a text: its name and all its characters. -/
def variableAt? (cs : List Char) : Option (List Char × List Char) :=
  match cs with
  | '\x7b' :: '\x7b' :: rest =>
    let before := rest.takeWhile Text.isBlank
    let afterBlank := rest.dropWhile Text.isBlank
    let name := dottedName true afterBlank
    let afterName := afterBlank.drop name.length
    let behind := afterName.takeWhile Text.isBlank
    match name, afterName.dropWhile Text.isBlank with
    | _ :: _, '\x7d' :: '\x7d' :: _ =>
      some (name, ['\x7b', '\x7b'] ++ before ++ name ++ behind ++ ['\x7d', '\x7d'])
    | _, _ => none
  | _ => none

/-- The segments of a text; the first `skip` characters belong to a variable
already found. -/
def segmentsFrom : Nat → List Char → List Segment
  | _, [] => []
  | 0, c :: cs =>
    match variableAt? (c :: cs) with
    | some (name, written) => .variable name written :: segmentsFrom (written.length - 1) cs
    | none => .literal c :: segmentsFrom 0 cs
  | skip + 1, _ :: cs => segmentsFrom skip cs

def segments (template : String) : List Segment :=
  segmentsFrom 0 template.toList

def Segment.name? : Segment → Option String
  | .literal _ => none
  | .variable name _ => some (String.ofList name)

def variableNames (template : String) : List String :=
  (segments template).filterMap Segment.name?

def hasVariables (template : String) : Bool :=
  !(variableNames template).isEmpty

/-- The values variables are read from. -/
structure Context where
  config : Json.Value
  state : Json.Value

/-- A context without cursor state. -/
def Context.ofConfig (config : Json.Value) : Context :=
  ⟨config, .object []⟩

/-- The same configuration with a stream's cursor state. -/
def Context.withState (c : Context) (state : Json.Object) : Context :=
  { c with state := .object state }

/-- The value of a dotted name: its first part names the root. -/
def Context.get? (c : Context) (name : String) : Option Json.Value :=
  match Json.Path.keys name.toList with
  | "config" :: rest => c.config.follow? rest
  | "state" :: rest => c.state.follow? rest
  | _ => none

/-- The text a value is rendered as: strings as they are, null as nothing, all
else as JSON. -/
def valueText : Json.Value → String
  | .string s => s
  | .null => ""
  | v => v.text

/-- The text of a segment, if it is defined. -/
def Context.segmentText? (c : Context) : Segment → Option String
  | .literal ch => some (String.singleton ch)
  | .variable name _ => (c.get? (String.ofList name)).map valueText

/-- The names that have no value, in order. -/
def Context.undefined (c : Context) (template : String) : List String :=
  (variableNames template).filter (fun name => (c.get? name).isNone)

/-- The template with every variable replaced by its value; a fault that names all
undefined variables if there are any. -/
def render (template : String) (c : Context) : Except Fault String :=
  match c.undefined template with
  | [] => .ok (String.join ((segments template).map (fun s => (c.segmentText? s).getD "")))
  | missing => .error (.undefinedVariable (", ".intercalate missing))

/-- Whether a name reads the cursor state. -/
def readsState (name : String) : Bool :=
  Text.startsWith "state.".toList name.toList

/-- Whether the template waits for cursor state that does not exist yet. -/
def Context.waitsOnState (c : Context) (template : String) : Bool :=
  (variableNames template).any (fun name => readsState name && (c.get? name).isNone)

/-- Render request parameters in key order. A parameter that waits for cursor state,
or whose value is empty, is left out. -/
def renderParams : Table String → Context → Except Fault (List (String × String))
  | [], _ => .ok []
  | (key, template) :: rest, c =>
    if c.waitsOnState template then renderParams rest c
    else
      match render template c with
      | .error f => .error f
      | .ok value =>
        match renderParams rest c with
        | .error f => .error f
        | .ok more => .ok (if value.isEmpty then more else (key, value) :: more)

end SourceSync.Template
