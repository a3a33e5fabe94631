/-
Absolute URLs: their parts, their text, and why a text is not one. A path is
either plain text, for schemes that have no authority and no leading slash, or a
list of segments.
-/
import SourceSync.Text.Utf8

namespace SourceSync.Url

/-- Why a text is no absolute URL. -/
inductive ParseError where
  | relativeWithoutBase
  | emptyHost
  | invalidDomain
  | invalidDomainCharacter
  | invalidPort
  | invalidIpv4
  | invalidIpv6
  /-- Any other failure, as it words itself. -/
  | other (message : String)
  deriving DecidableEq, Repr

def ParseError.message : ParseError → String
  | .relativeWithoutBase => "relative URL without a base"
  | .emptyHost => "empty host"
  | .invalidDomain => "invalid international domain name"
  | .invalidDomainCharacter => "invalid domain character"
  | .invalidPort => "invalid port number"
  | .invalidIpv4 => "invalid IPv4 address"
  | .invalidIpv6 => "invalid IPv6 address"
  | .other message => message

/-- A host: a domain or other name, or an address. -/
inductive Host where
  | name (text : List Char)
  | ipv4 (address : Nat)
  | ipv6 (pieces : List Nat)
  deriving DecidableEq, Repr

/-- The part of a URL between the two slashes and the path. -/
structure Authority where
  username : List Char
  /-- The password, absent when it is empty. -/
  password : Option (List Char)
  host : Host
  /-- The port, absent when it is the scheme's own. -/
  port : Option Nat
  deriving DecidableEq, Repr

/-- The path of a URL. -/
inductive UrlPath where
  | plain (text : List Char)
  | segments (parts : List (List Char))
  deriving DecidableEq, Repr

end Url

/-- An absolute URL in normal form. -/
structure Url where
  scheme : List Char
  authority : Option Url.Authority
  path : Url.UrlPath
  query : Option (List Char)
  fragment : Option (List Char)
  deriving DecidableEq, Repr

namespace Url

/-- The port a scheme has when none is written. -/
def defaultPort? (scheme : List Char) : Option Nat :=
  if scheme = ['h', 't', 't', 'p'] ∨ scheme = ['w', 's'] then some 80
  else if scheme = ['h', 't', 't', 'p', 's'] ∨ scheme = ['w', 's', 's'] then some 443
  else if scheme = ['f', 't', 'p'] then some 21
  else none

def numberText (base n : Nat) : List Char :=
  Nat.toDigits base n

/-- The four decimal parts of an address. -/
def ipv4Text (a : Nat) : List Char :=
  numberText 10 (a / 16777216 % 256) ++ '.' :: numberText 10 (a / 65536 % 256) ++
    '.' :: numberText 10 (a / 256 % 256) ++ '.' :: numberText 10 (a % 256)

/-- The number of zero pieces at the front. -/
def zeroRun : List Nat → Nat
  | 0 :: rest => zeroRun rest + 1
  | _ => 0

/-- The first longest run of at least two zero pieces: where it starts and its length. -/
def longestZeroRun : Nat → List Nat → Option (Nat × Nat)
  | _, [] => none
  | i, p :: rest =>
    let here := zeroRun (p :: rest)
    match longestZeroRun (i + 1) rest with
    | some (start, length) =>
      if 2 ≤ here ∧ length ≤ here then some (i, here) else some (start, length)
    | none => if 2 ≤ here then some (i, here) else none

/-- Pieces in base 16 with colons between them. -/
def piecesText : List Nat → List Char
  | [] => []
  | [p] => numberText 16 p
  | p :: rest => numberText 16 p ++ ':' :: piecesText rest

/-- The text of an address of eight pieces; the longest run of zeros is left out. -/
def ipv6Text (pieces : List Nat) : List Char :=
  match longestZeroRun 0 pieces with
  | none => piecesText pieces
  | some (start, length) =>
    piecesText (pieces.take start) ++ [':', ':'] ++ piecesText (pieces.drop (start + length))

def Host.text : Host → List Char
  | .name t => t
  | .ipv4 a => ipv4Text a
  | .ipv6 pieces => '[' :: (ipv6Text pieces ++ [']'])

def Authority.text (a : Authority) : List Char :=
  let password := match a.password with
    | none => []
    | some p => ':' :: p
  let credentials := a.username ++ password
  (if credentials.isEmpty then [] else credentials ++ ['@']) ++ a.host.text ++
    (match a.port with
      | none => []
      | some p => ':' :: numberText 10 p)

def UrlPath.text : UrlPath → List Char
  | .plain t => t
  | .segments parts => parts.flatMap (fun s => '/' :: s)

/-- The path without an authority before it: two leading slashes are kept from
being read as the start of one. -/
def pathText (u : Url) : List Char :=
  match u.authority, u.path with
  | none, .segments ([] :: s :: rest) => '/' :: '.' :: (UrlPath.segments ([] :: s :: rest)).text
  | _, p => p.text

def textWithoutFragment (u : Url) : List Char :=
  u.scheme ++ ':' ::
    ((match u.authority with
      | none => []
      | some a => '/' :: '/' :: a.text) ++ u.pathText ++
     (match u.query with
      | none => []
      | some q => '?' :: q))

def text (u : Url) : String :=
  String.ofList (u.textWithoutFragment ++
    (match u.fragment with
      | none => []
      | some f => '#' :: f))

def host? (u : Url) : Option Host :=
  u.authority.map (·.host)

def port? (u : Url) : Option Nat :=
  u.authority.bind (·.port)

def upperHex (n : Nat) : Char :=
  if n < 10 then Char.ofNat (48 + n) else Char.ofNat (55 + n)

def percentOctet (b : UInt8) : List Char :=
  ['%', upperHex (b.toNat / 16), upperHex (b.toNat % 16)]

/-- The octets of a character, each percent-encoded. -/
def percentChar (c : Char) : List Char :=
  (Text.Utf8.encode (String.singleton c)).flatMap percentOctet

/-- Percent-encode the characters that a class marks and all outside ASCII. -/
def percentEncode (marked : Char → Bool) (cs : List Char) : List Char :=
  cs.flatMap (fun c => if 128 ≤ c.toNat || marked c then percentChar c else [c])

def isControl (c : Char) : Bool :=
  c.toNat < 32 || c.toNat == 127

/-- Encoded in a fragment. -/
def inFragment (c : Char) : Bool :=
  isControl c || [' ', '"', '<', '>', '\x60'].contains c

/-- Encoded in a path. -/
def inPath (c : Char) : Bool :=
  inFragment c || ['#', '?', '\x7b', '\x7d'].contains c

/-- Encoded in user names and passwords. -/
def inUserinfo (c : Char) : Bool :=
  inPath c || ['/', ':', ';', '=', '@', '[', '\\', ']', '^', '|'].contains c

/-- Encoded in a query. -/
def inQuery (c : Char) : Bool :=
  isControl c || [' ', '"', '#', '<', '>'].contains c

/-- Encoded in the query of a special scheme. -/
def inSpecialQuery (c : Char) : Bool :=
  inQuery c || c == '\x27'

end Url

end SourceSync
