/-
Scalars in all their styles. Between the words of a plain or quoted scalar stands
a gap; a gap with one line break reads as a space, one with more as all breaks but
the first. Blocks are read line by line below their indentation.
-/
import SourceSync.Yaml.Token

namespace SourceSync.Yaml

/-- What stands between two words of a scalar, last character first. -/
inductive Gap where
  | none
  | blanks (written : List Char)
  /-- Line breaks; the first one is absent if it was escaped. -/
  | breaks (first : Option Char) (more : List Char)
  deriving DecidableEq, Repr

namespace Gap

/-- One more blank; blanks behind a line break are dropped. -/
def blank (c : Char) : Gap → Gap
  | .none => .blanks [c]
  | .blanks written => .blanks (c :: written)
  | .breaks first more => .breaks first more

/-- One more line break; blanks before it are dropped. -/
def lineBreak (c : Char) : Gap → Gap
  | .breaks first more => .breaks first (c :: more)
  | _ => .breaks (some c) []

def isBroken : Gap → Bool
  | .breaks _ _ => true
  | _ => false

/-- What the gap reads as, in front of a text whose last character comes first. -/
def join (text : List Char) : Gap → List Char
  | .none => text
  | .blanks written => written ++ text
  | .breaks (some '\n') [] => ' ' :: text
  | .breaks (some '\n') more => more ++ text
  | .breaks (some c) more => more ++ c :: text
  | .breaks Option.none more => more ++ text

end Gap

/-- A scalar that has been read: its text, where reading goes on, and whether a line
break was passed at its end. -/
structure Scanned where
  text : List Char
  cursor : Cursor
  broken : Bool

/-- Characters that end a plain scalar in a flow collection. -/
def isFlowIndicator (c : Char) : Bool :=
  [',', '[', ']', '\x7b', '\x7d'].contains c

/-- Whether a plain scalar ends in front of these characters, of which the first is
neither blank nor a break. -/
def endsPlain (flow : Bool) (indent : Nat) (place : Place) (gap : Gap) (text : List Char)
    (c : Char) (rest : List Char) : Bool :=
  let fresh := gap != .none || text.isEmpty
  (gap != .none && !flow && place.column < indent) ||
    (fresh && place.column == 0 && atMarker (c :: rest)) ||
    (fresh && c == '#') || (c == ':' && atGap rest) || (flow && isFlowIndicator c)

/-- Read a plain scalar: `text` is what has been read, last character first, and `gap`
what stands behind it. -/
def plainFrom (flow : Bool) (indent : Nat) :
    List Char → Place → Gap → List Char → Result Scanned
  | [], place, gap, text => .ok ⟨text.reverse, ⟨[], place⟩, gap.isBroken⟩
  | c :: rest, place, gap, text =>
    if isBlank c then
      if c == '\t' && gap.isBroken && place.column < indent then
        malformed "found a tab character that violates indentation"
      else plainFrom flow indent rest (place.right c) (gap.blank c) text
    else if isBreak c then plainFrom flow indent rest place.down (gap.lineBreak c) text
    else if endsPlain flow indent place gap text c rest then
      .ok ⟨text.reverse, ⟨c :: rest, place⟩, gap.isBroken⟩
    else if flow && c == ':' && rest.head?.any (fun d => isFlowIndicator d || d == '?') then
      malformed "found unexpected ':'"
    else plainFrom flow indent rest (place.right c) .none (c :: gap.join text)

/-- What of an escape has been read: nothing, the quote or the backslash in front of it,
or its code up to here. -/
inductive Escape where
  | none
  | doubledQuote
  | backslash
  | code (left value : Nat)
  deriving DecidableEq, Repr

/-- What a backslash and a character stand for: a character, or a code of some digits. -/
def escapeMeaning? (c : Char) : Option (Char ⊕ Nat) :=
  match c with
  | '0' => some (.inl '\x00')
  | 'a' => some (.inl '\x07')
  | 'b' => some (.inl '\x08')
  | 't' => some (.inl '\t')
  | '\t' => some (.inl '\t')
  | 'n' => some (.inl '\n')
  | 'v' => some (.inl '\x0B')
  | 'f' => some (.inl '\x0C')
  | 'r' => some (.inl '\r')
  | 'e' => some (.inl '\x1B')
  | ' ' => some (.inl ' ')
  | '"' => some (.inl '"')
  | '/' => some (.inl '/')
  | '\\' => some (.inl '\\')
  | 'N' => some (.inl (Char.ofNat 0x85))
  | '_' => some (.inl (Char.ofNat 0xA0))
  | 'L' => some (.inl (Char.ofNat 0x2028))
  | 'P' => some (.inl (Char.ofNat 0x2029))
  | 'x' => some (.inr 2)
  | 'u' => some (.inr 4)
  | 'U' => some (.inr 8)
  | _ => Option.none

/-- Whether a number is the code of a character. -/
def isCharCode (n : Nat) : Bool :=
  !(0xD800 ≤ n && n ≤ 0xDFFF) && n ≤ 0x10FFFF

/-- Read a quoted scalar behind its first quote. -/
def quotedFrom (quote : Char) :
    List Char → Place → Gap → Escape → List Char → Result Scanned
  | [], _, _, _, _ => malformed "found unexpected end of stream"
  | c :: rest, place, _, .doubledQuote, text =>
    quotedFrom quote rest (place.right c) .none .none (c :: text)
  | c :: rest, place, _, .backslash, text =>
    if isBreak c then quotedFrom quote rest place.down (.breaks Option.none []) .none text
    else
      match escapeMeaning? c with
      | some (.inl meant) => quotedFrom quote rest (place.right c) .none .none (meant :: text)
      | some (.inr digits) => quotedFrom quote rest (place.right c) .none (.code digits 0) text
      | Option.none => malformed "found unknown escape character"
  | c :: rest, place, _, .code left value, text =>
    match Text.hexValue? c with
    | Option.none => malformed "did not find expected hexdecimal number"
    | some d =>
      let value := 16 * value + d
      if 1 < left then quotedFrom quote rest (place.right c) .none (.code (left - 1) value) text
      else if isCharCode value then
        quotedFrom quote rest (place.right c) .none .none (Char.ofNat value :: text)
      else malformed "found invalid Unicode character escape code"
  | c :: rest, place, gap, .none, text =>
    if isBlank c then quotedFrom quote rest (place.right c) (gap.blank c) .none text
    else if isBreak c then quotedFrom quote rest place.down (gap.lineBreak c) .none text
    else if place.column == 0 && atMarker (c :: rest) then
      malformed "found unexpected document indicator"
    else
      let text := gap.join text
      if c == quote then
        if quote == '\x27' && rest.head? == some '\x27' then
          quotedFrom quote rest (place.right c) .none .doubledQuote text
        else .ok ⟨text.reverse, ⟨rest, place.right c⟩, false⟩
      else if c == '\\' && quote == '"' then
        quotedFrom quote rest (place.right c) .none .backslash text
      else quotedFrom quote rest (place.right c) .none .none (c :: text)

/-- What becomes of the line breaks at the end of a block. -/
inductive Chomping where
  | strip
  | clip
  | keep
  deriving DecidableEq, Repr

/-- A block while it is read: its indentation once that is known, the widest blank
line before, the break behind the last line, the breaks of the blank lines since, last
first, whether the last line began with a blank, and the text, last character first. -/
structure BlockState where
  indent : Option Nat
  widest : Nat
  lastBreak : Option Char
  blankLines : List Char
  beganBlank : Bool
  text : List Char

namespace BlockState

/-- A line begins with this character: put the breaks before it into the text. In a
folded block a single break between two lines that begin with no blank is a space. -/
def beginLine (s : BlockState) (style : ScalarStyle) (c : Char) : BlockState :=
  let joined :=
    if style == .folded && s.lastBreak == some '\n' && !s.beganBlank && !isBlank c then
      if s.blankLines.isEmpty then ' ' :: s.text else s.text
    else s.lastBreak.toList ++ s.text
  { s with
    lastBreak := none
    blankLines := []
    beganBlank := isBlank c
    text := c :: (s.blankLines ++ joined) }

/-- The text of a block whose last line has been read. -/
def finish (s : BlockState) (chomping : Chomping) : List Char :=
  match chomping with
  | .strip => s.text.reverse
  | .clip => (s.lastBreak.toList ++ s.text).reverse
  | .keep => (s.blankLines ++ (s.lastBreak.toList ++ s.text)).reverse

end BlockState

/-- Read a block: `inLine` says whether a line has begun. `least` is the indentation it has
at least, unless it is given. -/
def blockFrom (style : ScalarStyle) (chomping : Chomping) (least : Nat) :
    List Char → Place → Bool → BlockState → Result Scanned
  | [], place, _, s => .ok ⟨s.finish chomping, ⟨[], place⟩, false⟩
  | c :: rest, place, true, s =>
    if isBreak c then
      blockFrom style chomping least rest place.down false { s with lastBreak := some c }
    else blockFrom style chomping least rest (place.right c) true { s with text := c :: s.text }
  | c :: rest, place, false, s =>
    let outside := s.indent.all (fun indent => place.column < indent)
    if outside && c == ' ' then blockFrom style chomping least rest (place.right c) false s
    else if outside && c == '\t' then
      malformed "found a tab character where an indentation space is expected"
    else if isBreak c then
      blockFrom style chomping least rest place.down false
        { s with blankLines := c :: s.blankLines, widest := max s.widest place.column }
    else
      let indent := s.indent.getD (max (max s.widest place.column) least)
      let s := { s with indent := some indent }
      if place.column == indent then
        blockFrom style chomping least rest (place.right c) true (s.beginLine style c)
      else .ok ⟨s.finish chomping, ⟨c :: rest, place⟩, false⟩

/-- The header of a block: what becomes of its last breaks, and its indentation relative to
what surrounds it, if that is given. -/
structure BlockHeader where
  chomping : Chomping
  increment : Option Nat

/-- What a sign says about the last breaks. -/
def chomping? (c : Char) : Option Chomping :=
  if c == '+' then some .keep else if c == '-' then some .strip else none

/-- Read the header of a block; the sign and the digit may stand in either order. -/
def blockHeader (cs : List Char) : Result (BlockHeader × Nat) :=
  match cs with
  | a :: b :: _ =>
    match chomping? a, a.isDigit, chomping? b, b.isDigit with
    | some k, _, _, true => sized k b 2
    | some k, _, _, false => .ok (⟨k, none⟩, 1)
    | none, true, some k, _ => sized k a 2
    | none, true, none, _ => sized .clip a 1
    | none, false, _, _ => .ok (⟨.clip, none⟩, 0)
  | [a] =>
    match chomping? a, a.isDigit with
    | some k, _ => .ok (⟨k, none⟩, 1)
    | none, true => sized .clip a 1
    | none, false => .ok (⟨.clip, none⟩, 0)
  | [] => .ok (⟨.clip, none⟩, 0)
where
  sized (k : Chomping) (digit : Char) (taken : Nat) : Result (BlockHeader × Nat) :=
    if digit == '0' then malformed "found an indentation indicator equal to 0"
    else .ok (⟨k, some (Text.digitValue digit)⟩, taken)

/-- Read a block behind its indicator; `outer` is the indentation around it, if any. -/
def blockScalar (style : ScalarStyle) (outer : Option Nat) (c : Cursor) : Result Scanned := do
  let (header, taken) ← blockHeader c.rest
  let c := (c.skip taken).skipWhile isBlank
  let c := if c.rest.head? == some '#' then c.skipWhile (fun d => !isBreak d) else c
  if atBreak c.rest then
    let least := match outer with
      | none => 1
      | some n => n + 1
    let indent := header.increment.map (fun n => (outer.getD 0) + n)
    let start : BlockState := ⟨indent, 0, none, [], false, []⟩
    match c.rest with
    | [] => .ok ⟨[], c, false⟩
    | _ :: rest => blockFrom style header.chomping least rest c.place.down false start
  else malformed "did not find expected comment or line break"

end SourceSync.Yaml
