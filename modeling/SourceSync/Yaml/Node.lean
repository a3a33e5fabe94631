/-
From tokens to the one document of a text. Nodes are scalars, sequences, mappings
and aliases. Anchors are numbered: an anchor has the number of different names
before it, a name stands for its latest number, and of the nodes anchored with one
number the last of the document is meant, wherever the alias stands.
-/
import SourceSync.Yaml.Scanner

namespace SourceSync.Yaml

/-- What is written in front of a node: the number of its anchor, and its tag. -/
structure Marks where
  anchor : Option Nat
  tag : Option Tag
  deriving DecidableEq, Repr

inductive Node where
  | alias (anchor : Nat)
  | scalar (marks : Marks) (style : ScalarStyle) (text : List Char)
  | sequence (marks : Marks) (items : List Node)
  | mapping (marks : Marks) (entries : List (Node × Node))

def Marks.none : Marks := ⟨Option.none, Option.none⟩

instance : Inhabited Node := ⟨.scalar .none .plain []⟩

namespace Node

/-- The node that stands where nothing is written. -/
def empty : Node := .scalar .none .plain []

mutual

/-- The node and the nodes within it, in the order of the text, in front of others. -/
def all (n : Node) (others : List Node) : List Node :=
  match n with
  | .sequence marks items => .sequence marks items :: allItems items others
  | .mapping marks entries => .mapping marks entries :: allEntries entries others
  | n => n :: others

/-- The nodes of a sequence and the nodes within them, in front of others. -/
def allItems (items : List Node) (others : List Node) : List Node :=
  match items with
  | [] => others
  | n :: rest => n.all (allItems rest others)

/-- The nodes of a mapping and the nodes within them, in front of others. -/
def allEntries (entries : List (Node × Node)) (others : List Node) : List Node :=
  match entries with
  | [] => others
  | (key, value) :: rest => key.all (value.all (allEntries rest others))

end

/-- The number of its anchor, with the node. -/
def numbered? (n : Node) : Option (Nat × Node) :=
  match n with
  | .alias _ => none
  | .scalar marks _ _ => marks.anchor.map (·, n)
  | .sequence marks _ => marks.anchor.map (·, n)
  | .mapping marks _ => marks.anchor.map (·, n)

/-- A collection has a beginning and an end. -/
def parts (n : Node) : Nat :=
  match n with
  | .alias _ => 1
  | .scalar _ _ _ => 1
  | .sequence _ _ => 2
  | .mapping _ _ => 2

end Node

/-- A document: its node, the anchored nodes by number, last first, and how many parts
it has. -/
structure Document where
  root : Node
  anchored : List (Nat × Node)
  size : Nat

def Document.ofRoot (root : Node) : Document :=
  let nodes := root.all []
  ⟨root, (nodes.filterMap Node.numbered?).reverse, nodes.foldl (fun size n => size + n.parts) 0⟩

/-- The names of anchors and their numbers. -/
abbrev Anchors : Type := List (List Char × Nat)

/-- Number an anchor: it gets the number of different names before it. -/
def Anchors.number (a : Anchors) (name : List Char) : Anchors :=
  (name, a.length) :: a.filter (fun e => e.1 != name)

/-- The handles of tags and what they stand for. -/
abbrev TagHandles : Type := List (List Char × Tag)

/-- What has been read of the tokens: a result, the tokens left, and the anchors. -/
structure Parsed (α : Type) where
  result : α
  rest : List Token
  anchors : Anchors

/-- The properties in front of a node: an anchor and a tag, each at most once. -/
structure Properties where
  anchor : Option (List Char)
  tag : Option (List Char × Tag)

def properties : List Token → Properties × List Token
  | .anchor a :: .tag h s :: rest => (⟨some a, some (h, s)⟩, rest)
  | .anchor a :: rest => (⟨some a, none⟩, rest)
  | .tag h s :: .anchor a :: rest => (⟨some a, some (h, s)⟩, rest)
  | .tag h s :: rest => (⟨none, some (h, s)⟩, rest)
  | rest => (⟨none, none⟩, rest)

/-- The full tag that a handle and a suffix stand for. -/
def fullTag (handles : TagHandles) (handle : List Char) (suffix : Tag) : Result Tag :=
  if handle.isEmpty then .ok suffix
  else
    match handles.find? (fun h => h.1 == handle) with
    | some h => .ok (h.2 ++ suffix)
    | none => malformed "found undefined tag handle"

/-- The full tag of a node, if it has one. -/
def resolveTag (handles : TagHandles) (p : Properties) : Result (Option Tag) :=
  match p.tag with
  | none => .ok none
  | some (handle, suffix) => (fullTag handles handle suffix).map some

/-- Number the anchor of a node, if it has one. -/
def numberAnchor (anchors : Anchors) (p : Properties) : Option Nat × Anchors :=
  match p.anchor with
  | none => (none, anchors)
  | some name => (some anchors.length, anchors.number name)

def Properties.any (p : Properties) : Bool :=
  p.anchor.isSome || p.tag.isSome

/-- Whether a block value is left out in front of these tokens. -/
def endsBlockValue : List Token → Bool
  | .key :: _ => true
  | .value :: _ => true
  | .blockEnd :: _ => true
  | [] => true
  | _ => false

/-- Whether an item without indentation is left out in front of these tokens. -/
def endsPlainItem : List Token → Bool
  | .blockEntry :: _ => true
  | rest => endsBlockValue rest

/-- Whether an indented item is left out in front of these tokens. -/
def endsBlockItem : List Token → Bool
  | .blockEntry :: _ => true
  | .blockEnd :: _ => true
  | _ => false

/-- Whether a value in braces is left out in front of these tokens. -/
def endsFlowValue : List Token → Bool
  | .flowEntry :: _ => true
  | .flowMappingEnd :: _ => true
  | _ => false

/-- Whether the value of a pair in brackets is left out in front of these tokens. -/
def endsPairValue : List Token → Bool
  | .flowEntry :: _ => true
  | .flowSequenceEnd :: _ => true
  | _ => false

/-- Where a node stands: between brackets, in a block, or as the value of a block mapping,
where the items of a sequence need not be indented. -/
inductive Position where
  | flow
  | block
  | blockValue
  deriving DecidableEq, Repr

mutual

def parseNode (handles : TagHandles) : Nat → Position → List Token → Anchors → Result (Parsed Node)
  | 0, _, _, _ => malformed "the text is nested too deeply"
  | fuel + 1, position, ts, anchors =>
    match ts with
    | .alias name :: rest =>
      match anchors.find? (fun a => a.1 == name) with
      | some a => .ok ⟨.alias a.2, rest, anchors⟩
      | none => malformed "unknown anchor"
    | ts => do
      let (p, ts) := properties ts
      let tag ← resolveTag handles p
      let (anchor, anchors) := numberAnchor anchors p
      let marks : Marks := ⟨anchor, tag⟩
      match ts, position with
      | .blockEntry :: _, .blockValue =>
        let items ← parsePlainItems handles fuel ts anchors
        return ⟨.sequence marks items.result, items.rest, items.anchors⟩
      | .scalar style text :: rest, _ => return ⟨.scalar marks style text, rest, anchors⟩
      | .flowSequenceStart :: rest, _ =>
        let items ← parseFlowItems handles fuel true rest anchors
        return ⟨.sequence marks items.result, items.rest, items.anchors⟩
      | .flowMappingStart :: rest, _ =>
        let entries ← parseFlowEntries handles fuel true rest anchors
        return ⟨.mapping marks entries.result, entries.rest, entries.anchors⟩
      | .blockSequenceStart :: rest, position =>
        if position = .flow then malformed "did not find expected node content"
        else
          let items ← parseBlockItems handles fuel rest anchors
          return ⟨.sequence marks items.result, items.rest, items.anchors⟩
      | .blockMappingStart :: rest, position =>
        if position = .flow then malformed "did not find expected node content"
        else
          let entries ← parseBlockEntries handles fuel rest anchors
          return ⟨.mapping marks entries.result, entries.rest, entries.anchors⟩
      | rest, _ =>
        if p.any then return ⟨.scalar marks .plain [], rest, anchors⟩
        else malformed "did not find expected node content"

def parseBlockItems (handles : TagHandles) :
    Nat → List Token → Anchors → Result (Parsed (List Node))
  | 0, _, _ => malformed "the text is nested too deeply"
  | fuel + 1, ts, anchors =>
    match ts with
    | .blockEntry :: rest => do
      let item ←
        if endsBlockItem rest then .ok ⟨.empty, rest, anchors⟩
        else parseNode handles fuel .block rest anchors
      let more ← parseBlockItems handles fuel item.rest item.anchors
      return { more with result := item.result :: more.result }
    | .blockEnd :: rest => .ok ⟨[], rest, anchors⟩
    | _ => malformed "did not find expected '-' indicator"

/-- Read the items of a sequence that is indented no deeper than its key. -/
def parsePlainItems (handles : TagHandles) :
    Nat → List Token → Anchors → Result (Parsed (List Node))
  | 0, _, _ => malformed "the text is nested too deeply"
  | fuel + 1, ts, anchors =>
    match ts with
    | .blockEntry :: rest => do
      let item ←
        if endsPlainItem rest then .ok ⟨.empty, rest, anchors⟩
        else parseNode handles fuel .block rest anchors
      let more ← parsePlainItems handles fuel item.rest item.anchors
      return { more with result := item.result :: more.result }
    | rest => .ok ⟨[], rest, anchors⟩

def parseBlockEntries (handles : TagHandles) :
    Nat → List Token → Anchors → Result (Parsed (List (Node × Node)))
  | 0, _, _ => malformed "the text is nested too deeply"
  | fuel + 1, ts, anchors =>
    match ts with
    | .key :: rest => do
      let key ←
        if endsBlockValue rest then .ok ⟨.empty, rest, anchors⟩
        else parseNode handles fuel .blockValue rest anchors
      let value ←
        match key.rest with
        | .value :: rest =>
          if endsBlockValue rest then .ok ⟨.empty, rest, key.anchors⟩
          else parseNode handles fuel .blockValue rest key.anchors
        | rest => .ok ⟨.empty, rest, key.anchors⟩
      let more ← parseBlockEntries handles fuel value.rest value.anchors
      return { more with result := (key.result, value.result) :: more.result }
    | .blockEnd :: rest => .ok ⟨[], rest, anchors⟩
    | _ => malformed "did not find expected key"

/-- Read the items of a sequence in brackets; the first one has no comma before it. -/
def parseFlowItems (handles : TagHandles) :
    Nat → Bool → List Token → Anchors → Result (Parsed (List Node))
  | 0, _, _, _ => malformed "the text is nested too deeply"
  | fuel + 1, isFirst, ts, anchors =>
    match ts, isFirst with
    | .flowSequenceEnd :: rest, _ => .ok ⟨[], rest, anchors⟩
    | .flowEntry :: .flowSequenceEnd :: rest, false => .ok ⟨[], rest, anchors⟩
    | .flowEntry :: rest, false => parseFlowItem handles fuel rest anchors
    | _, false => malformed "did not find expected ',' or ']'"
    | ts, true => parseFlowItem handles fuel ts anchors

/-- Read an item of a sequence in brackets, and those behind it. An item may be a
mapping of a single pair. -/
def parseFlowItem (handles : TagHandles) : Nat → List Token → Anchors → Result (Parsed (List Node))
  | 0, _, _ => malformed "the text is nested too deeply"
  | fuel + 1, ts, anchors => do
    let item ←
      match ts with
      | .key :: rest => do
        let key ←
          match rest with
          | .value :: rest => .ok ⟨.empty, rest, anchors⟩
          | .flowEntry :: rest => .ok ⟨.empty, rest, anchors⟩
          | .flowSequenceEnd :: rest => .ok ⟨.empty, rest, anchors⟩
          | rest => parseNode handles fuel .flow rest anchors
        let value ←
          match key.rest with
          | .value :: rest =>
            if endsPairValue rest then .ok ⟨.empty, rest, key.anchors⟩
            else parseNode handles fuel .flow rest key.anchors
          | rest => .ok ⟨.empty, rest, key.anchors⟩
        .ok ⟨.mapping .none [(key.result, value.result)], value.rest, value.anchors⟩
      | ts => parseNode handles fuel .flow ts anchors
    let more ← parseFlowItems handles fuel false item.rest item.anchors
    return { more with result := item.result :: more.result }

/-- Read the entries of a mapping in braces; the first one has no comma before it. -/
def parseFlowEntries (handles : TagHandles) :
    Nat → Bool → List Token → Anchors → Result (Parsed (List (Node × Node)))
  | 0, _, _, _ => malformed "the text is nested too deeply"
  | fuel + 1, isFirst, ts, anchors =>
    match ts, isFirst with
    | .flowMappingEnd :: rest, _ => .ok ⟨[], rest, anchors⟩
    | .flowEntry :: .flowMappingEnd :: rest, false => .ok ⟨[], rest, anchors⟩
    | .flowEntry :: rest, false => parseFlowEntry handles fuel rest anchors
    | _, false => malformed "did not find expected ',' or '\x7d'"
    | ts, true => parseFlowEntry handles fuel ts anchors

/-- Read an entry of a mapping in braces, and those behind it. -/
def parseFlowEntry (handles : TagHandles) :
    Nat → List Token → Anchors → Result (Parsed (List (Node × Node)))
  | 0, _, _ => malformed "the text is nested too deeply"
  | fuel + 1, ts, anchors => do
    let key ←
      match ts with
      | .key :: .value :: rest => .ok ⟨.empty, .value :: rest, anchors⟩
      | .key :: rest =>
        if endsFlowValue rest then .ok ⟨.empty, rest, anchors⟩
        else parseNode handles fuel .flow rest anchors
      | ts => parseNode handles fuel .flow ts anchors
    let value ←
      match ts, key.rest with
      | .key :: _, .value :: rest =>
        if endsFlowValue rest then .ok ⟨.empty, rest, key.anchors⟩
        else parseNode handles fuel .flow rest key.anchors
      | _, rest => .ok ⟨.empty, rest, key.anchors⟩
    let more ← parseFlowEntries handles fuel false value.rest value.anchors
    return { more with result := (key.result, value.result) :: more.result }

end

/-- A tag of the core schema. -/
def coreTag (name : String) : Tag :=
  Text.Utf8.encode ("tag:yaml.org,2002:" ++ name)

/-- The handles that every document has. -/
def standardHandles : TagHandles :=
  [(['!'], Scanner.bareTag), (['!', '!'], coreTag "")]

/-- Read the directives in front of a document: whether a version has been named, and the
handles. -/
def directives : Bool → TagHandles → List Token → Result (TagHandles × List Token)
  | named, handles, .version major minor :: rest =>
    if named then malformed "found duplicate %YAML directive"
    else if major = 1 ∧ (minor = 1 ∨ minor = 2) then directives true handles rest
    else malformed "found incompatible YAML document"
  | named, handles, .tagHandle handle lead :: rest =>
    if handles.any (fun h => h.1 == handle) then malformed "found duplicate %TAG directive"
    else directives named ((handle, lead) :: handles) rest
  | _, handles, rest =>
    .ok (handles ++ standardHandles.filter (fun h => !handles.any (fun g => g.1 == h.1)), rest)

/-- What may stand behind a document: marks of its end. -/
def endsStream : List Token → Bool
  | [] => true
  | .documentEnd :: rest => endsStream rest
  | _ => false

/-- Whether the content of a document is left out in front of these tokens. -/
def endsDocument : List Token → Bool
  | [] => true
  | .version _ _ :: _ => true
  | .tagHandle _ _ :: _ => true
  | .documentStart :: _ => true
  | .documentEnd :: _ => true
  | _ => false

def parseContent (handles : TagHandles) (ts : List Token) : Result (Parsed Node) :=
  if endsDocument ts then .ok ⟨.empty, ts, []⟩
  else parseNode handles (3 * ts.length + 3) .block ts []

/-- Read the only document of a text. -/
def parseDocument (ts : List Token) : Result Document := do
  let content ←
    match ts with
    | [] => malformed "there is no document"
    | .version _ _ :: _ => explicit
    | .tagHandle _ _ :: _ => explicit
    | .documentStart :: _ => explicit
    | ts => parseNode standardHandles (3 * ts.length + 3) .block ts []
  if endsStream content.rest then return .ofRoot content.result
  else malformed "found more than one document"
where
  explicit : Result (Parsed Node) := do
    let (handles, rest) ← directives false [] ts
    match rest with
    | .documentStart :: rest => parseContent handles rest
    | _ => malformed "did not find expected <document start>"

/-- The only document of a text. -/
def Document.ofText (text : String) : Result Document := do
  parseDocument (← tokens text)

end SourceSync.Yaml
