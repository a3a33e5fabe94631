/-
From text to tokens. Outside brackets, indentation opens and closes collections.
What may turn out to be a key is remembered until the colon behind it is met or
can no longer come: the tokens for the key are then put in front of it.
-/
import SourceSync.Yaml.Scalar

namespace SourceSync.Yaml

/-- Something that is a key if a colon follows: whether it has to be one, the number of
tokens before it, and its place. -/
structure KeyCandidate where
  required : Bool
  tokensBefore : Nat
  place : Place
  deriving DecidableEq, Repr

/-- The scanner: the text ahead; the candidate outside brackets and those inside each open
bracket, innermost first; the indentations of open block collections, innermost first;
whether a key may begin here; and the tokens so far, last first. -/
structure Scanner where
  cursor : Cursor
  candidate : Option KeyCandidate
  outer : List (Option KeyCandidate)
  indents : List Nat
  keyAllowed : Bool
  tokens : List Token

namespace Scanner

def start (cs : List Char) : Scanner :=
  ⟨⟨cs, ⟨0, 0, 0⟩⟩, none, [], [], true, []⟩

def inFlow (s : Scanner) : Bool :=
  !s.outer.isEmpty

def column (s : Scanner) : Nat :=
  s.cursor.place.column

def emit (s : Scanner) (t : Token) : Scanner :=
  { s with tokens := t :: s.tokens }

/-- A token put in behind the first `before` tokens. -/
def insert (s : Scanner) (before : Nat) (t : Token) : Scanner :=
  let later := s.tokens.length - before
  { s with tokens := s.tokens.take later ++ t :: s.tokens.drop later }

def skip (s : Scanner) (n : Nat) : Scanner :=
  { s with cursor := s.cursor.skip n }

/-- Say whether a key may begin. -/
def allowKey (s : Scanner) (allowed : Bool) : Scanner :=
  { s with keyAllowed := allowed }

/-- Forget the candidate; one that had to be a key is missing its colon. -/
def dropCandidate (s : Scanner) : Result Scanner :=
  if s.candidate.any (·.required) then malformed "could not find expected ':'"
  else .ok { s with candidate := none }

/-- Remember that a key may begin here. In front of what is indented as the keys around
it, it has to. -/
def saveCandidate (s : Scanner) : Result Scanner :=
  if s.keyAllowed then do
    let required := !s.inFlow && s.indents.head? == some s.column
    let s ← s.dropCandidate
    return { s with candidate := some ⟨required, s.tokens.length, s.cursor.place⟩ }
  else .ok s

/-- Whether a candidate can no longer be a key: keys end on their line, within 1024 octets. -/
def isStale (here : Place) (k : KeyCandidate) : Bool :=
  k.place.line < here.line || k.place.octet + 1024 < here.octet

def refresh (here : Place) (k : Option KeyCandidate) : Result (Option KeyCandidate) :=
  match k with
  | none => .ok none
  | some k =>
    if isStale here k then
      if k.required then malformed "could not find expected ':'" else .ok none
    else .ok (some k)

def refreshCandidates (s : Scanner) : Result Scanner := do
  let outer ← s.outer.mapM (refresh s.cursor.place)
  let candidate ← refresh s.cursor.place s.candidate
  return { s with outer, candidate }

/-- Open a block collection at a column, if it is indented deeper than what is open. Its
token is put in behind the first `before` tokens. -/
def roll (s : Scanner) (column before : Nat) (t : Token) : Scanner :=
  if !s.inFlow && s.indents.head?.all (fun indent => indent < column) then
    { s.insert before t with indents := column :: s.indents }
  else s

/-- Close the block collections indented deeper than a column: the indentations left,
and the number of those closed. -/
def closeDeeper (column : Nat) : List Nat → List Nat × Nat
  | [] => ([], 0)
  | indent :: rest =>
    if column < indent then ((closeDeeper column rest).1, (closeDeeper column rest).2 + 1)
    else (indent :: rest, 0)

/-- Close the block collections indented deeper than a column. -/
def unroll (s : Scanner) (column : Nat) : Scanner :=
  if s.inFlow then s
  else
    let (indents, closed) := closeDeeper column s.indents
    { s with indents, tokens := List.replicate closed .blockEnd ++ s.tokens }

def unrollAll (s : Scanner) : Scanner :=
  if s.inFlow then s
  else
    { s with indents := [], tokens := List.replicate s.indents.length .blockEnd ++ s.tokens }

/-- The mark of the octet order. -/
def isOrderMark (c : Char) : Bool :=
  c.toNat == 0xFEFF

/-- Skip blanks, comments and line breaks, and a mark of the octet order at the beginning of
a line. A tab is no blank where a key may begin outside brackets, and behind a line break
one may. -/
def skipBlanks (inFlow : Bool) : Bool → Bool → List Char → Place → Cursor × Bool
  | _, allowed, [], place => (⟨[], place⟩, allowed)
  | comment, allowed, c :: rest, place =>
    if isBreak c then skipBlanks inFlow false (allowed || !inFlow) rest place.down
    else if comment || c == ' ' || (c == '\t' && (inFlow || !allowed)) ||
        (place.column == 0 && isOrderMark c) then
      skipBlanks inFlow comment allowed rest (place.right c)
    else if c == '#' then skipBlanks inFlow true allowed rest (place.right c)
    else (⟨c :: rest, place⟩, allowed)

/-- Go on to the next token. -/
def toToken (s : Scanner) : Scanner :=
  let (cursor, allowed) := skipBlanks s.inFlow false s.keyAllowed s.cursor.rest s.cursor.place
  { s with cursor, keyAllowed := allowed }

def digits (cs : List Char) : List Char :=
  cs.takeWhile Char.isDigit

/-- A version number at the front of a text, and how many characters it has. -/
def versionNumber (cs : List Char) : Result (Nat × Nat) :=
  let ds := digits cs
  if ds.isEmpty then malformed "did not find expected version number"
  else if 9 < ds.length then malformed "found extremely long version number"
  else .ok (Text.naturalValue ds, ds.length)

def isTagChar (c : Char) : Bool :=
  isWordChar c || ";/?:@&=+$.!~*\x27()%".toList.contains c

/-- Characters of tags in angle brackets. -/
def isVerbatimChar (c : Char) : Bool :=
  isTagChar c || [',', '[', ']'].contains c

/-- A tag handle at the front of a text: a word between exclamation marks, or what there
is of it. -/
def tagHandle (cs : List Char) : List Char :=
  match cs with
  | '!' :: rest =>
    let word := rest.takeWhile isWordChar
    match rest.drop word.length with
    | '!' :: _ => '!' :: (word ++ ['!'])
    | _ => '!' :: word
  | _ => []

/-- Whether a handle is more than a single mark and closed by another one. -/
def isClosedHandle (handle : List Char) : Bool :=
  1 < handle.length && handle.getLast? == some '!'

/-- The octet that two hexadecimal digits name. -/
def octet? (a b : Char) : Option UInt8 :=
  match Text.hexValue? a, Text.hexValue? b with
  | some x, some y => some (UInt8.ofNat (16 * x + y))
  | _, _ => none

/-- How many octets follow one that begins a character. -/
def followers? (octet : UInt8) : Option Nat :=
  let n := octet.toNat
  if n < 0x80 then some 0
  else if n < 0xC0 then none
  else if n < 0xE0 then some 1
  else if n < 0xF0 then some 2
  else if n < 0xF8 then some 3
  else none

/-- The octets of a tag. Escapes name octets, and those of one character follow one
another: `owed` are still to come. -/
def tagOctets (owed : Nat) (cs : List Char) : Result Tag :=
  match owed, cs with
  | 0, [] => .ok []
  | owed, '%' :: a :: b :: rest =>
    match octet? a b, owed with
    | none, _ => malformed "did not find URI escaped octet"
    | some octet, 0 =>
      match followers? octet with
      | none => malformed "found an incorrect leading UTF-8 octet"
      | some count => (tagOctets count rest).map (octet :: ·)
    | some octet, left + 1 =>
      if octet.toNat / 64 == 2 then (tagOctets left rest).map (octet :: ·)
      else malformed "found an incorrect trailing UTF-8 octet"
  | 0, c :: rest =>
    if c == '%' then malformed "did not find URI escaped octet"
    else (tagOctets 0 rest).map (UInt8.ofNat c.toNat :: ·)
  | _, _ => malformed "did not find URI escaped octet"

/-- What tag characters say: their octets up to the first zero. -/
def tagText (cs : List Char) : Result Tag :=
  (tagOctets 0 cs).map (fun octets => octets.takeWhile (· != 0))

/-- The tag that says nothing but that there is one. -/
def bareTag : Tag := [33]

/-- A tag at the front of a text, and how many characters it has. -/
def scanTag (cs : List Char) : Result (Token × Nat) :=
  match cs with
  | '!' :: '<' :: rest => do
    let name := rest.takeWhile isVerbatimChar
    if name.isEmpty then malformed "did not find expected tag URI"
    let suffix ← tagText name
    if (rest.drop name.length).head? == some '>' then return (.tag [] suffix, name.length + 3)
    malformed "did not find the expected '>'"
  | _ => do
    let handle := tagHandle cs
    let name := (cs.drop handle.length).takeWhile isTagChar
    let length := handle.length + name.length
    if isClosedHandle handle then
      if name.isEmpty then malformed "did not find expected tag URI"
      return (.tag handle (← tagText name), length)
    else
      match ← tagText (handle.drop 1 ++ name) with
      | [] => return (.tag [] bareTag, length)
      | suffix => return (.tag ['!'] suffix, length)

/-- The directive at the front of a text, and how many characters it has. -/
def scanDirective (cs : List Char) : Result (Token × Nat) :=
  let name := (cs.drop 1).takeWhile isWordChar
  let behind := cs.drop (name.length + 1)
  let blanks := behind.takeWhile isBlank
  let body := behind.drop blanks.length
  let before := name.length + 1 + blanks.length
  if !atGap behind then malformed "found unexpected non-alphabetical character"
  else if name = ['Y', 'A', 'M', 'L'] then do
    let (major, n) ← versionNumber body
    match body.drop n with
    | '.' :: rest =>
      let (minor, m) ← versionNumber rest
      return (.version major minor, before + n + 1 + m)
    | _ => malformed "did not find expected digit or '.' character"
  else if name = ['T', 'A', 'G'] then
    let handle := tagHandle body
    let rest := body.drop handle.length
    let gap := rest.takeWhile isBlank
    let lead := (rest.drop gap.length).takeWhile isVerbatimChar
    if handle.isEmpty || (handle != ['!'] && !isClosedHandle handle) then
      malformed "did not find expected '!'"
    else if gap.isEmpty || lead.isEmpty then malformed "did not find expected whitespace"
    else if !atGap (rest.drop (gap.length + lead.length)) then
      malformed "did not find expected whitespace or line break"
    else
      (tagText lead).map (fun octets =>
        (.tagHandle handle octets, before + handle.length + gap.length + lead.length))
  else malformed "found unknown directive name"

/-- Skip the blanks and the comment behind a directive, up to the end of its line. -/
def endDirective (s : Scanner) : Result Scanner :=
  let c := s.cursor.skipWhile isBlank
  let c := if c.rest.head? == some '#' then c.skipWhile (fun d => !isBreak d) else c
  if atBreak c.rest then .ok { s with cursor := c }
  else malformed "did not find expected comment or line break"

def fetchDirective (s : Scanner) : Result Scanner := do
  let s ← s.unrollAll.dropCandidate
  let (t, n) ← scanDirective s.cursor.rest
  (((s.allowKey false).emit t).skip n).endDirective

def fetchEnd (s : Scanner) : Result Scanner :=
  s.unrollAll.dropCandidate

/-- The mark at the beginning or the end of a document. -/
def fetchMarker (s : Scanner) (t : Token) : Result Scanner := do
  let s ← s.unrollAll.dropCandidate
  return ((s.allowKey false).emit t).skip 3

def fetchOpening (s : Scanner) (t : Token) : Result Scanner := do
  let s ← s.saveCandidate
  let s := { s with outer := s.candidate :: s.outer, candidate := none }
  return ((s.allowKey true).emit t).skip 1

def fetchClosing (s : Scanner) (t : Token) : Result Scanner := do
  let s ← s.dropCandidate
  let s := match s.outer with
    | [] => s
    | candidate :: outer => { s with candidate, outer }
  return ((s.allowKey false).emit t).skip 1

def fetchComma (s : Scanner) : Result Scanner := do
  let s ← s.dropCandidate
  return ((s.allowKey true).emit .flowEntry).skip 1

/-- The dash in front of an item. -/
def fetchDash (s : Scanner) : Result Scanner :=
  if !s.inFlow && !s.keyAllowed then
    malformed "block sequence entries are not allowed in this context"
  else do
    let s ← (s.roll s.column s.tokens.length .blockSequenceStart).dropCandidate
    return ((s.allowKey true).emit .blockEntry).skip 1

/-- The question mark in front of a key. -/
def fetchKey (s : Scanner) : Result Scanner :=
  if !s.inFlow && !s.keyAllowed then malformed "mapping keys are not allowed in this context"
  else do
    let s ← (s.roll s.column s.tokens.length .blockMappingStart).dropCandidate
    return ((s.allowKey (!s.inFlow)).emit .key).skip 1

def fetchColon (s : Scanner) : Result Scanner :=
  match s.candidate with
  | some k =>
    let s := (s.insert k.tokensBefore .key).roll k.place.column k.tokensBefore .blockMappingStart
    .ok ((({ s with candidate := none }.allowKey false).emit .value).skip 1)
  | none =>
    if !s.inFlow && !s.keyAllowed then
      malformed "mapping values are not allowed in this context"
    else
      let s := s.roll s.column s.tokens.length .blockMappingStart
      .ok (((s.allowKey (!s.inFlow)).emit .value).skip 1)

/-- Whether a text may follow a name behind an asterisk or an ampersand. -/
def endsName (cs : List Char) : Bool :=
  atGap cs || cs.head?.any (fun c => "?:,]\x7d%@\x60".toList.contains c)

/-- A name behind an asterisk or an ampersand. -/
def fetchName (s : Scanner) (token : List Char → Token) : Result Scanner := do
  let s ← s.saveCandidate
  let name := (s.cursor.rest.drop 1).takeWhile isWordChar
  if name.isEmpty || !endsName (s.cursor.rest.drop (name.length + 1)) then
    malformed "did not find expected alphabetic or numeric character"
  else return ((s.allowKey false).emit (token name)).skip (name.length + 1)

def fetchTag (s : Scanner) : Result Scanner := do
  let s ← s.saveCandidate
  let (t, n) ← scanTag s.cursor.rest
  let s := ((s.allowKey false).emit t).skip n
  if atGap s.cursor.rest || (s.inFlow && s.cursor.rest.head? == some ',') then return s
  else malformed "did not find expected whitespace or line break"

/-- The token for a scalar that has been read. -/
def emitScalar (s : Scanner) (style : ScalarStyle) (r : Scanned) : Scanner :=
  { s with cursor := r.cursor }.emit (.scalar style r.text)

def fetchBlock (s : Scanner) (style : ScalarStyle) : Result Scanner := do
  let s ← s.dropCandidate
  let r ← blockScalar style s.indents.head? (s.cursor.skip 1)
  return (s.allowKey true).emitScalar style r

def fetchQuoted (s : Scanner) (quote : Char) : Result Scanner := do
  let s ← s.saveCandidate
  let r ← quotedFrom quote (s.cursor.rest.drop 1) (s.cursor.place.right quote) .none .none []
  return (s.allowKey false).emitScalar .quoted r

def fetchPlain (s : Scanner) : Result Scanner := do
  let s ← s.saveCandidate
  let indent := match s.indents with
    | [] => 0
    | n :: _ => n + 1
  let r ← plainFrom s.inFlow indent s.cursor.rest s.cursor.place .none []
  return (s.allowKey r.broken).emitScalar .plain r

/-- Whether a plain scalar may begin with a character that has these behind it. -/
def beginsPlain (inFlow : Bool) (c : Char) (rest : List Char) : Bool :=
  !(isBlank c || isBreak c || "-?:,[]\x7b\x7d#&*!|>\x27\"%@\x60".toList.contains c) ||
    (c == '-' && !rest.head?.any isBlank) ||
    (!inFlow && (c == '?' || c == ':') && !atGap rest)

/-- The token that begins with a character; `rest` is what comes behind it. -/
def fetchAt (s : Scanner) (c : Char) (rest : List Char) : Result Scanner :=
  if s.column == 0 && c == '%' then s.fetchDirective
  else if s.column == 0 && c == '-' && atMarker (c :: rest) then s.fetchMarker .documentStart
  else if s.column == 0 && c == '.' && atMarker (c :: rest) then s.fetchMarker .documentEnd
  else if c == '[' then s.fetchOpening .flowSequenceStart
  else if c == '\x7b' then s.fetchOpening .flowMappingStart
  else if c == ']' then s.fetchClosing .flowSequenceEnd
  else if c == '\x7d' then s.fetchClosing .flowMappingEnd
  else if c == ',' then s.fetchComma
  else if c == '-' && atGap rest then s.fetchDash
  else if c == '?' && (s.inFlow || atGap rest) then s.fetchKey
  else if c == ':' && (s.inFlow || atGap rest) then s.fetchColon
  else if c == '*' then s.fetchName .alias
  else if c == '&' then s.fetchName .anchor
  else if c == '!' then s.fetchTag
  else if c == '|' && !s.inFlow then s.fetchBlock .literal
  else if c == '>' && !s.inFlow then s.fetchBlock .folded
  else if c == '\x27' || c == '"' then s.fetchQuoted c
  else if beginsPlain s.inFlow c rest then s.fetchPlain
  else malformed "found character that cannot start any token"

/-- All tokens from here on. Every step takes at least one character, so `fuel` need
not exceed their number. -/
def run : Nat → Scanner → Result (List Token)
  | 0, _ => malformed "found unexpected end of stream"
  | fuel + 1, s => do
    let s ← s.toToken.refreshCandidates
    let s := s.unroll s.column
    match s.cursor.rest with
    | [] => return (← s.fetchEnd).tokens.reverse
    | c :: rest => run fuel (← s.fetchAt c rest)

end Scanner

def tokens (text : String) : Result (List Token) :=
  let cs := text.toList
  if cs.all isAllowed then
    let cs := normalizeBreaks cs
    Scanner.run (cs.length + 1) (.start cs)
  else malformed "control characters are not allowed"

end SourceSync.Yaml
