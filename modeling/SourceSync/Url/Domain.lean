/-
Domains in ASCII form. The characters of a domain are first written as a domain
writes them and put into canonical form; then each label is looked at on its own. A
label that is not ASCII, or says that it stands for such a one, has to be well formed:
no mark begins it, joiners stand only where they may, and all labels of the domain
keep to one direction each if any is written from right to left.
-/
import SourceSync.Text.Normal
import SourceSync.Text.Utf8
import SourceSync.Url.Domain.Direction
import SourceSync.Url.Domain.Joining
import SourceSync.Url.Domain.Mapping
import SourceSync.Url.Punycode

namespace SourceSync.Url.Domain

open Text

/-- ASCII characters that no domain may hold. -/
def isRefused (c : Nat) : Bool :=
  c ≤ 0x20 || c == 0x7F || "%#/:<>?@[\\]^|".toList.any (fun d => d.toNat == c)

def isAscii (label : List Nat) : Bool :=
  label.all (· < 0x80)

/-- What stands in front of a label that is coded. -/
def codeMark : List Nat := [0x78, 0x6E, 0x2D, 0x2D]

def longestCode : Nat := 2000

/-- The length of the longest label that is coded. -/
def longestLabel : Nat := 1000

/-- The label that a code stands for: in canonical form, of characters that are written as
themselves. -/
def decoded? (code : List Nat) : Option (List Nat) :=
  if code.getLast?.all (· == 0x2D) || longestCode < code.length || !isAscii code then none
  else
    match Punycode.decode? (code.map Char.ofNat) with
    | none => none
    | some cs =>
      let label := cs.map Char.toNat
      if label.all (fun c => isWritten c && !isRefused c) && Normal.canonical label == label then
        some label
      else none

/-- The label that is meant: a code stands for another one. -/
def meant? (label : List Nat) : Option (List Nat) :=
  if codeMark.isPrefixOf label then decoded? (label.drop codeMark.length) else some label

/-- Whether a label is well formed. -/
def isWellFormed (label : List Nat) : Bool :=
  isAscii label ||
    (!label.head?.any isMark && joinersAllowed [] label && label.length ≤ longestLabel)

/-- The characters of a domain as it writes them. -/
def written (cs : List Nat) : Option (List Nat) :=
  if isAscii cs then cs.mapM (fun c => (written? c).bind List.head?)
  else (cs.mapM written?).map (fun parts => Normal.canonical parts.flatten)

def labels : List Nat → List (List Nat)
  | [] => [[]]
  | c :: rest =>
    if c == 0x2E then [] :: labels rest
    else
      match labels rest with
      | [] => [[c]]
      | label :: more => (c :: label) :: more

/-- A label in ASCII form. -/
def coded (label : List Nat) : List Char :=
  let cs := label.map Char.ofNat
  if isAscii label then cs else codeMark.map Char.ofNat ++ Punycode.encode cs

/-- A domain in ASCII form, if it is one. -/
def toAscii? (octets : List UInt8) : Option (List Char) := do
  let cs ← Utf8.decode? octets
  let text ← written (cs.map Char.toNat)
  if text.any isRefused then none
  else
    let meant ← (labels text).mapM meant?
    if meant.all isWellFormed && agreesInDirection meant then
      some (['.'].intercalate (meant.map coded))
    else none

end SourceSync.Url.Domain
