/-
Hosts of URLs. The host of a special scheme is percent-decoded and brought to
its ASCII form; if its last part is a number it has to be an IPv4 address.
Other schemes keep their host as written, apart from percent-encoding.
-/
import SourceSync.Url.Basic
import SourceSync.Url.Domain
import SourceSync.Text.Digits
import SourceSync.Text.Search

namespace SourceSync.Url

/-- The octets of a text, with `%` and two hexadecimal digits read as the octet they name. -/
def percentDecode : List Char → List UInt8
  | [] => []
  | c :: rest =>
    if c = '%' then
      match rest with
      | a :: b :: more =>
        match Text.hexValue? a, Text.hexValue? b with
        | some x, some y => UInt8.ofNat (x * 16 + y) :: percentDecode more
        | _, _ => 37 :: percentDecode (a :: b :: more)
      | short => 37 :: percentDecode short
    else Text.Utf8.encode (String.singleton c) ++ percentDecode rest

namespace Ipv4

/-- The value of a digit text in some base. -/
def value? (base : Nat) (cs : List Char) : Option Nat :=
  cs.foldlM
    (fun n c =>
      (Text.hexValue? c).bind (fun d => if d < base then some (n * base + d) else none)) 0

/-- A number in decimal, in octal after a zero, or in hexadecimal after `0x`. -/
def number? (cs : List Char) : Option Nat :=
  match cs with
  | [] => none
  | '0' :: 'x' :: ds => value? 16 ds
  | '0' :: 'X' :: ds => value? 16 ds
  | '0' :: d :: ds => value? 8 (d :: ds)
  | ds => value? 10 ds

/-- The parts between dots; an empty last part does not count. -/
def parts (cs : List Char) : List (List Char) :=
  let all := Text.splitOn '.' cs
  if 1 < all.length && all.getLast? == some [] then all.dropLast else all

/-- Whether the last part makes the host a number. -/
def endsInNumber (cs : List Char) : Bool :=
  match (parts cs).getLast? with
  | none => false
  | some last => (!last.isEmpty && last.all Char.isDigit) || (number? last).isSome

/-- The address of up to four numbers; the last one fills the octets that are left. -/
def combine? (numbers : List Nat) : Option Nat :=
  match numbers.reverse with
  | [] => none
  | last :: front =>
    if last < Nat.pow 256 (4 - front.length) && front.all (· < 256) then
      some ((front.reverse.zipIdx).foldl (fun a p => a + p.1 * Nat.pow 256 (3 - p.2)) last)
    else none

/-- Read an IPv4 address. -/
def parse (cs : List Char) : Except ParseError Host :=
  let ps := parts cs
  if 4 < ps.length then .error .invalidIpv4
  else
    match ps.mapM number? with
    | none => .error .invalidIpv4
    | some numbers =>
      match combine? numbers with
      | none => .error .invalidIpv4
      | some a => .ok (.ipv4 a)

end Ipv4

namespace Ipv6

/-- Whether the text is a decimal number without leading zero, below 256. -/
def octet? (cs : List Char) : Option Nat :=
  if cs.isEmpty || !cs.all Char.isDigit || (1 < cs.length && cs.head? == some '0') then none
  else (Ipv4.value? 10 cs).bind (fun n => if n < 256 then some n else none)

/-- A piece of at most four hexadecimal digits. -/
def piece? (cs : List Char) : Option Nat :=
  if cs.isEmpty || 4 < cs.length then none else Ipv4.value? 16 cs

/-- The pieces of a colon-separated text; the last one may be an IPv4 address. -/
def pieces? : List (List Char) → Option (List Nat)
  | [] => some []
  | [last] =>
    if last.contains '.' then
      match (Text.splitOn '.' last).mapM octet? with
      | some [a, b, c, d] => some [a * 256 + b, c * 256 + d]
      | _ => none
    else (piece? last).map ([·])
  | p :: rest =>
    match piece? p, pieces? rest with
    | some n, some ns => some (n :: ns)
    | _, _ => none

/-- Split at the first double colon. -/
def splitDouble : List Char → Option (List Char × List Char)
  | ':' :: ':' :: rest => some ([], rest)
  | c :: rest => (splitDouble rest).map (fun p => (c :: p.1, p.2))
  | [] => none

/-- The pieces of a side of a double colon; nothing written is no piece. -/
def side? (cs : List Char) : Option (List Nat) :=
  if cs.isEmpty then some [] else pieces? (Text.splitOn ':' cs)

/-- Read an IPv6 address: eight pieces, of which one run of zeros may be left out. -/
def parse (cs : List Char) : Except ParseError Host :=
  match splitDouble cs with
  | none =>
    match pieces? (Text.splitOn ':' cs) with
    | some ns => if ns.length = 8 then .ok (.ipv6 ns) else .error .invalidIpv6
    | none => .error .invalidIpv6
  | some (left, right) =>
    match side? left, side? right with
    | some a, some b =>
      if a.length + b.length < 8 && !left.contains '.' then
        .ok (.ipv6 (a ++ List.replicate (8 - a.length - b.length) 0 ++ b))
      else .error .invalidIpv6
    | _, _ => .error .invalidIpv6

end Ipv6

namespace Host

def bracketed (inner : List Char) : Except ParseError Host :=
  if inner.getLast? = some ']' then Ipv6.parse inner.dropLast else .error .invalidIpv6

/-- The host of a special scheme. -/
def parse (cs : List Char) : Except ParseError Host :=
  match cs with
  | '[' :: inner => bracketed inner
  | cs =>
    match Domain.toAscii? (percentDecode cs) with
    | none => .error .invalidDomain
    | some [] => .error .emptyHost
    | some domain => if Ipv4.endsInNumber domain then Ipv4.parse domain else .ok (.name domain)

/-- Characters the host of another scheme may not hold. -/
def isForbidden (c : Char) : Bool :=
  c.toNat == 0 || c.toNat == 9 || c.toNat == 10 || c.toNat == 13 ||
    [' ', '#', '/', ':', '<', '>', '?', '@', '[', '\\', ']', '^', '|'].contains c

/-- The host of a scheme that is not special. -/
def parseOther (cs : List Char) : Except ParseError Host :=
  match cs with
  | '[' :: inner => bracketed inner
  | cs =>
    if cs.any isForbidden then .error .invalidDomainCharacter
    else .ok (.name (percentEncode isControl cs))

end Host

end SourceSync.Url
