/-
Reading absolute URLs by the rules that web browsers follow: blanks and control
characters around the text are dropped, tabs and line breaks anywhere in it, a
backslash of a special scheme counts as a slash, dot segments are resolved, and
each part is percent-encoded by its own class. Nothing goes above a segment that
looks like a drive.
-/
import SourceSync.Url.Host

namespace SourceSync.Url

/-- The text without control characters and blanks at its ends. -/
def trimmed (cs : List Char) : List Char :=
  let outer := fun (c : Char) => decide (c.toNat ≤ 32)
  ((cs.dropWhile outer).reverse.dropWhile outer).reverse

/-- Tabs and line breaks, which may stand anywhere in a URL. -/
def isBreak (c : Char) : Bool :=
  c == '\t' || c == '\n' || c == '\r'

/-- The text without tabs and line breaks. -/
def unbroken (cs : List Char) : List Char :=
  cs.filter (fun c => !isBreak c)

def isLetter (c : Char) : Bool :=
  c.isAlpha

/-- Characters of a scheme after the first. -/
def isSchemeChar (c : Char) : Bool :=
  c.isAlphanum || c == '+' || c == '-' || c == '.'

/-- The scheme in lower case, and what follows its colon. -/
def splitScheme? (cs : List Char) : Option (List Char × List Char) :=
  match cs with
  | c :: _ =>
    if isLetter c then
      match cs.dropWhile isSchemeChar with
      | ':' :: rest => some ((cs.takeWhile isSchemeChar).map Char.toLower, rest)
      | _ => none
    else none
  | [] => none

/-- How the text after a scheme is read. -/
inductive SchemeKind where
  | file
  | special
  | other
  deriving DecidableEq

def schemeKind (scheme : List Char) : SchemeKind :=
  if scheme = ['f', 'i', 'l', 'e'] then .file
  else if (defaultPort? scheme).isSome then .special
  else .other

/-- A slash, or a backslash where it counts as one. -/
def isSlash (kind : SchemeKind) (c : Char) : Bool :=
  c == '/' || (c == '\\' && kind != .other)

/-- The first character behind an authority. -/
def endsAuthority (kind : SchemeKind) (c : Char) : Bool :=
  isSlash kind c || c == '?' || c == '#'

/-- Split at the last at-sign: the part before it, if there is one, and the rest. -/
def splitCredentials (cs : List Char) : Option (List Char) × List Char :=
  if cs.contains '@' then
    let host := (cs.reverse.takeWhile (· != '@')).reverse
    (some (cs.take (cs.length - host.length - 1)), host)
  else (none, cs)

/-- The host text and what follows it; a colon inside brackets belongs to the host. -/
def splitHost : Bool → List Char → List Char × List Char
  | _, [] => ([], [])
  | inside, c :: rest =>
    if c = ':' ∧ inside = false then ([], c :: rest)
    else
      let inside := if c = '[' then true else if c = ']' then false else inside
      (c :: (splitHost inside rest).1, (splitHost inside rest).2)

/-- A port: digits up to 65535, absent if none are written or it is the scheme's own. -/
def parsePort (scheme cs : List Char) : Except ParseError (Option Nat) :=
  if cs.isEmpty then .ok none
  else if !cs.all Char.isDigit then .error .invalidPort
  else
    match Ipv4.value? 10 cs with
    | none => .error .invalidPort
    | some n =>
      if 65535 < n then .error .invalidPort
      else if defaultPort? scheme = some n then .ok none
      else .ok (some n)

def parseCredentials (cs : List Char) : List Char × Option (List Char) :=
  let name := cs.takeWhile (· != ':')
  let password := (cs.dropWhile (· != ':')).drop 1
  (percentEncode inUserinfo name,
    if password.isEmpty then none else some (percentEncode inUserinfo password))

/-- The authority of a scheme that is not `file`, and what of the text belongs to the path:
a port ends at a backslash. `more` says whether anything follows the text. A host may be
missing only where nothing depends on it. -/
def parseAuthority (kind : SchemeKind) (scheme cs : List Char) (more : Bool) :
    Except ParseError (Authority × List Char) :=
  let (credentials, rest) := splitCredentials cs
  let (hostText, portText) := splitHost false rest
  let (username, password) := parseCredentials (credentials.getD [])
  let hostNeeded := kind != .other || !username.isEmpty || password.isSome ||
    !portText.isEmpty || (more && credentials == some [])
  if hostText.isEmpty && hostNeeded then .error .emptyHost
  else
    match (if kind = .other then Host.parseOther hostText else Host.parse hostText) with
    | .error e => .error e
    | .ok host =>
      match parsePort scheme ((portText.drop 1).takeWhile (· != '\\')) with
      | .error e => .error e
      | .ok port => .ok (⟨username, password, host, port⟩, portText.dropWhile (· != '\\'))

/-- Whether a segment stands for the segment above. -/
def isDoubleDot (s : List Char) : Bool :=
  ["..", "%2e.", "%2E.", ".%2e", ".%2E", "%2e%2e", "%2e%2E", "%2E%2e", "%2E%2E"].contains
    (String.ofList s)

/-- Whether a segment stands for itself. -/
def isSingleDot (s : List Char) : Bool :=
  [".", "%2e", "%2E"].contains (String.ofList s)

def splitPath (kind : SchemeKind) : List Char → List (List Char)
  | [] => [[]]
  | c :: cs =>
    if isSlash kind c then [] :: splitPath kind cs
    else
      match splitPath kind cs with
      | [] => [[c]]
      | s :: rest => (c :: s) :: rest

/-- Whether a segment begins like a drive: a letter with a colon or a bar, and nothing but a
backslash behind them. -/
def startsDrive (s : List Char) : Bool :=
  match s with
  | [c, mark] => isLetter c && (mark == ':' || mark == '|')
  | c :: mark :: '\\' :: _ => isLetter c && (mark == ':' || mark == '|')
  | _ => false

/-- Whether a segment names a drive: a letter with a colon or a bar. -/
def isDrive (s : List Char) : Bool :=
  s.length == 2 && startsDrive s

/-- A drive and what follows it in its segment, if a break parts them. -/
def partDrive? (s : List Char) : Option (List Char × List Char) :=
  match s.dropWhile isBreak with
  | [] => none
  | c :: rest =>
    match rest.dropWhile isBreak with
    | ':' :: mark :: more =>
      if isLetter c && isBreak mark && !(unbroken more).isEmpty then
        some ([c, ':'], unbroken more)
      else none
    | _ => none

/-- A path while it is read: its segments, last first, and whether the first one is a
drive. -/
structure Trail where
  segments : List (List Char)
  hasDrive : Bool

namespace Trail

def start : Trail := ⟨[], false⟩

/-- Go up one segment, but not above what begins like a drive. -/
def goUp (t : Trail) : Trail :=
  match t.segments with
  | [] => t
  | s :: above => if startsDrive s then t else { t with segments := above }

def push (t : Trail) (s : List Char) : Trail :=
  { t with segments := percentEncode inPath s :: t.segments }

/-- One more segment as it is written. At the beginning of a `file` path, a drive is written
with a colon, and parted from what follows it behind a break. -/
def keep (kind : SchemeKind) (t : Trail) (s : List Char) : Trail :=
  if kind = .file ∧ t.segments = [] then
    match partDrive? s with
    | some (drive, rest) => (t.push drive).push rest
    | none =>
      if isDrive (unbroken s) then ⟨[(unbroken s).take 1 ++ [':']], true⟩ else t.push (unbroken s)
  else t.push (unbroken s)

/-- The path with dot segments resolved. A dot segment at the end leaves an empty last
segment. -/
def follow (kind : SchemeKind) : Trail → List (List Char) → Trail
  | t, [] => t
  | t, s :: rest =>
    let after :=
      if isDoubleDot (unbroken s) then t.goUp
      else if isSingleDot (unbroken s) then t
      else t.keep kind s
    let isDot := isDoubleDot (unbroken s) || isSingleDot (unbroken s)
    if rest.isEmpty && isDot then after.push [] else after.follow kind rest

end Trail

/-- The text behind a slash, if one comes first. -/
def afterSlash? (kind : SchemeKind) (cs : List Char) : Option (List Char) :=
  match cs.dropWhile isBreak with
  | [] => none
  | c :: rest => if isSlash kind c then some rest else none

/-- The path of a text that may begin with a slash. -/
def parseTrail (kind : SchemeKind) (cs : List Char) : Trail :=
  Trail.start.follow kind (splitPath kind ((afterSlash? kind cs).getD cs))

/-- The segments of a path. A `file` path has no empty ones at its beginning, unless it
has no others. -/
def Trail.parts (kind : SchemeKind) (t : Trail) : List (List Char) :=
  let parts := t.segments.reverse
  if kind = .file then
    match parts.dropWhile List.isEmpty with
    | [] => [[]]
    | rest => rest
  else parts

/-- The segments of a path that may begin with a slash. -/
def parseSegments (kind : SchemeKind) (cs : List Char) : List (List Char) :=
  (parseTrail kind cs).parts kind

/-- The text before a query or fragment, the query and the fragment. -/
def splitSuffix (cs : List Char) : List Char × Option (List Char) × Option (List Char) :=
  let main := cs.takeWhile (· != '#')
  let fragment := match cs.dropWhile (· != '#') with
    | [] => none
    | _ :: f => some f
  let query := match main.dropWhile (· != '?') with
    | [] => none
    | _ :: q => some q
  (main.takeWhile (· != '?'), query, fragment)

/-- The host of a `file` URL; this machine's own name counts as none. -/
def parseFileHost (cs : List Char) : Except ParseError Host :=
  if cs.isEmpty then .ok (.name [])
  else
    match Host.parse cs with
    | .ok (.name ['l', 'o', 'c', 'a', 'l', 'h', 'o', 's', 't']) => .ok (.name [])
    | r => r

/-- The authority and path of a `file` URL, as they are written. No host stands before a
drive. -/
def parseFile (cs : List Char) : Except ParseError (Option Authority × UrlPath) :=
  let located (host : Host) (t : Trail) : Option Authority × UrlPath :=
    (some ⟨[], none, if t.hasDrive then .name [] else host, none⟩, .segments (t.parts .file))
  match (afterSlash? .file cs).bind (afterSlash? .file) with
  | none => .ok (located (.name []) (parseTrail .file cs))
  | some rest =>
    let host := unbroken (rest.takeWhile (fun c => !endsAuthority .file c))
    let path := rest.dropWhile (fun c => !endsAuthority .file c)
    if isDrive host then .ok (located (.name []) (parseTrail .file rest))
    else (parseFileHost host).map (fun h => located h (parseTrail .file path))

/-- The authority and the path of what follows a scheme that is not `file`; `more` says
whether a query or fragment comes after it. -/
def parseHierarchy (kind : SchemeKind) (scheme cs : List Char) (more : Bool) :
    Except ParseError (Option Authority × UrlPath) :=
  match kind with
  | .special =>
    let rest := cs.dropWhile (isSlash kind)
    let authority := rest.takeWhile (fun c => !endsAuthority kind c)
    let path := rest.dropWhile (fun c => !endsAuthority kind c)
    (parseAuthority kind scheme authority more).map
      (fun (a, _) => (some a, .segments (parseSegments kind path)))
  | _ =>
    match cs with
    | '/' :: '/' :: rest =>
      let authority := rest.takeWhile (fun c => !endsAuthority kind c)
      let path := rest.dropWhile (fun c => !endsAuthority kind c)
      (parseAuthority kind scheme authority (more || !path.isEmpty)).map
        (fun (a, front) =>
          let path := front ++ path
          (some a, .segments (if path.isEmpty then [] else parseSegments kind path)))
    | '/' :: rest => .ok (none, .segments (parseSegments kind rest))
    | cs => .ok (none, .plain (percentEncode isControl cs))

def parse (s : String) : Except ParseError Url :=
  let written := trimmed s.toList
  match splitScheme? (unbroken written) with
  | none => .error .relativeWithoutBase
  | some (scheme, rest) =>
    let kind := schemeKind scheme
    let (body, query, fragment) := splitSuffix rest
    let parts :=
      if kind = .file then
        parseFile (splitSuffix ((written.dropWhile (· != ':')).drop 1)).1
      else parseHierarchy kind scheme body (query.isSome || fragment.isSome)
    match parts with
    | .error e => .error e
    | .ok (authority, path) =>
      .ok
        { scheme
          authority
          path
          query := query.map (percentEncode (if kind = .other then inQuery else inSpecialQuery))
          fragment := fragment.map (percentEncode inFragment) }

end SourceSync.Url
