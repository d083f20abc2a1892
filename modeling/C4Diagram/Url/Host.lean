import C4Diagram.Url.Domain
import C4Diagram.Url.Percent

/-!
Hosts of addresses. A special scheme has a domain or a number address; any other scheme has a name
that is only checked for delimiters. Both may have a long number address in brackets.
-/

namespace C4Diagram.Url

inductive UrlError where
  | noScheme
  | emptyHost
  | invalidPort
  | invalidIpv4
  | invalidIpv6
  | invalidOpaqueHost
  | invalidDomain
deriving DecidableEq

namespace UrlError

def message : UrlError → Text
  | noScheme => "relative URL without a base".toList
  | emptyHost => "empty host".toList
  | invalidPort => "invalid port number".toList
  | invalidIpv4 => "invalid IPv4 address".toList
  | invalidIpv6 => "invalid IPv6 address".toList
  | invalidOpaqueHost => "invalid domain character".toList
  | invalidDomain => "invalid international domain name".toList

end UrlError

inductive Host where
  | empty
  | name (t : Text)
  | ipv4 (address : Nat)
  /-- Eight groups of sixteen bits. -/
  | ipv6 (groups : List Nat)
deriving DecidableEq

/-- The number that digits of a base below 17 write, if there is no other character. -/
def digits? (base : Nat) (t : Text) : Option Nat :=
  t.foldlM (fun n c => (hexValue? c).bind fun d => if d < base then some (n * base + d) else none) 0

/-- A part of a number address: hexadecimal after 0x, octal after 0, decimal otherwise. -/
def ipv4Number? (part : Text) : Option Nat :=
  match part with
  | [] => none
  | '0' :: 'x' :: r => digits? 16 r
  | '0' :: 'X' :: r => digits? 16 r
  | '0' :: d :: r => digits? 8 (d :: r)
  | _ => digits? 10 part

/-- The parts between dots, less an empty last one. -/
def dottedParts (t : Text) : List Text :=
  let parts := Text.pieces '.' t
  if parts.getLast? = some [] then parts.dropLast else parts

/-- The last part is a number, so that the domain has to be a number address. -/
def endsInNumber (domain : Text) : Bool :=
  (dottedParts domain).getLast?.any fun p => (!p.isEmpty && p.all Char.isDigit) || (ipv4Number? p).isSome

/-- Up to four numbers; all but the last are bytes, and the last fills what they leave. -/
def ipv4? (domain : Text) : Option Nat := do
  let numbers ← (dottedParts domain).mapM ipv4Number?
  let last ← numbers.getLast?
  let bytes := numbers.dropLast
  if 3 < bytes.length || bytes.any (255 < ·) || 1 <<< (8 * (4 - bytes.length)) ≤ last then none
  else some (bytes.zipIdx.foldl (fun n (b, i) => n + b <<< (8 * (3 - i))) last)

def ipv6Group? (part : Text) : Option Nat :=
  if part.isEmpty || 4 < part.length then none else digits? 16 part

/-- One of the four bytes at the end of a long address, without a leading zero. -/
def decimalByte? (part : Text) : Option Nat :=
  match part with
  | [] => none
  | '0' :: _ :: _ => none
  | _ => (digits? 10 part).filter (· ≤ 255)

/-- The groups that one part stands for; the last part may be four decimal bytes. -/
def ipv6Part? (isLast : Bool) (part : Text) : Option (List Nat) :=
  if isLast && part.contains '.' then do
    match ← (Text.pieces '.' part).mapM decimalByte? with
    | [a, b, c, d] => some [a * 256 + b, c * 256 + d]
    | _ => none
  else (ipv6Group? part).map ([·])

def ipv6Parts? : List Text → Option (List Nat)
  | [] => some []
  | [p] => ipv6Part? true p
  | p :: ps => do return (← ipv6Part? false p) ++ (← ipv6Parts? ps)

/-- The groups with zeros for the gap, if one part is empty. A gap stands for one group at least. -/
def ipv6Groups? (parts : List Text) : Option (List Nat) :=
  match parts.findIdx? List.isEmpty with
  | none => (ipv6Parts? parts).filter (·.length == 8)
  | some gap => do
    let after := parts.drop (gap + 1)
    let front ← (parts.take gap).mapM ipv6Group?
    let back ← ipv6Parts? after
    let size := front.length + back.length
    if 7 < size then none else some (front ++ List.replicate (8 - size) 0 ++ back)

/-- Groups between colons. Two colons at the start or the end make the gap there. -/
def ipv6? (t : Text) : Option (List Nat) :=
  let parts := Text.pieces ':' t
  let parts? :=
    match parts with
    | [] :: [] :: rest => some ([] :: rest)
    | [] :: _ => none
    | _ => some parts
  parts?.bind fun parts =>
    match parts.reverse with
    | [[]] => none
    | [] :: [] :: rest => ipv6Groups? ([] :: rest).reverse
    | [] :: _ => none
    | _ => ipv6Groups? parts

def isForbiddenInOpaqueHost (c : Char) : Bool := "\x00\t\n\r #/:<>?@[\\]^|".toList.contains c

def bracketedHost (t : Text) : Except UrlError Host :=
  match Text.beforeLast? ']' (t.drop 1) with
  | some inner =>
    match ipv6? inner with
    | some groups => .ok (.ipv6 groups)
    | none => .error .invalidIpv6
  | none => .error .invalidIpv6

namespace Host

/-- The host of a special scheme: percent-decoded and written as a domain. -/
def readSpecial (t : Text) : Except UrlError Host :=
  if t.head? = some '[' then bracketedHost t
  else
    match (Text.ofUtf8? ⟨(decodeBytes t).toArray⟩).bind Domain.written? with
    | none => .error .invalidDomain
    | some domain =>
      if domain.isEmpty then .error .emptyHost
      else if endsInNumber domain then
        match ipv4? domain with
        | some address => .ok (.ipv4 address)
        | none => .error .invalidIpv4
      else .ok (.name domain)

def readOpaque (t : Text) : Except UrlError Host :=
  if t.head? = some '[' then bracketedHost t
  else if t.any isForbiddenInOpaqueHost then .error .invalidOpaqueHost
  else if t.isEmpty then .ok .empty
  else .ok (.name (encode isControl t))

def hexText (n : Nat) : Text := Nat.toDigits 16 n

/-- Where the longest run of zeros starts and how long it is; the first of runs of one length. -/
def longestZeros (groups : List Nat) : Nat × Nat :=
  (List.range groups.length).foldl (fun best i =>
    let run := ((groups.drop i).takeWhile (· == 0)).length
    if best.2 < run then (i, run) else best) (0, 0)

/-- The groups between colons, where the longest run of two zeros or more becomes a gap. -/
def ipv6Text (groups : List Nat) : Text :=
  let colon (gs : List Nat) := Text.join [':'] (gs.map hexText)
  let (start, length) := longestZeros groups
  if length < 2 then colon groups
  else colon (groups.take start) ++ [':', ':'] ++ colon (groups.drop (start + length))

def written : Host → Text
  | empty => []
  | name t => t
  | ipv4 address =>
    Text.join ['.'] ([24, 16, 8, 0].map fun shift => Text.ofNat (address >>> shift % 256))
  | ipv6 groups => '[' :: ipv6Text groups ++ [']']

end Host
end C4Diagram.Url
