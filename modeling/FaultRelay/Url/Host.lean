import FaultRelay.Url.Percent

/-!
# Hosts of addresses

A host is an IPv6 address in brackets, and otherwise, in an address of a well known
scheme, a domain name or an IPv4 address, and in any other address an opaque name.
-/

namespace FaultRelay
namespace Url

open Text

/-- The number in one part of an IPv4 address: decimal, octal after `0`, hexadecimal after `0x`. -/
def ipv4Number? (cs : List Char) : Option Nat :=
  let inBase (base : Nat) (digits : List Char) : Option Nat :=
    digits.foldlM (fun n c => do
      let d ← Hex.value? c
      if d < base then some (n * base + d) else none) 0
  match cs with
  | [] => none
  | '0' :: 'x' :: digits | '0' :: 'X' :: digits => inBase 16 digits
  | '0' :: d :: digits => inBase 8 (d :: digits)
  | digits => inBase 10 digits

/-- The labels of a name, without the empty one after a last dot. -/
def labels (domain : List Char) : List (List Char) :=
  let parts := domain.splitOn '.'
  match parts.reverse with
  | [] :: rest@(_ :: _) => rest.reverse
  | _ => parts

/-- Whether a name is to be read as an IPv4 address. -/
def endsInNumber (domain : List Char) : Bool :=
  match (labels domain).getLast? with
  | some last => (!last.isEmpty && last.all Char.isDigit) || (ipv4Number? last).isSome
  | none => false

/-- The number of an IPv4 address of one to four parts; the last one fills what is left. -/
def ipv4? (domain : List Char) : Option Nat := do
  let parts ← (labels domain).mapM ipv4Number?
  match parts.reverse with
  | [] => none
  | last :: front =>
      if front.length ≤ 3 && front.all (· ≤ 255) && last < Nat.pow 256 (4 - front.length) then
        let high := front.reverse.foldl (fun n p => n * 256 + p) 0
        some (high * Nat.pow 256 (4 - front.length) + last)
      else none

/-- Four parts of a decimal IPv4 address inside an IPv6 address. -/
def embeddedIpv4 (cs : List Char) : Bool :=
  let parts := cs.splitOn '.'
  parts.length == 4 && parts.all fun p =>
    match p with
    | [] => false
    | ['0'] => true
    | '0' :: _ => false
    | _ => p.all Char.isDigit && p.length ≤ 3
        && p.foldl (fun n c => n * 10 + (c.toNat - 48)) 0 ≤ 255

/-- How many of the eight pieces a list of pieces of an IPv6 address fills. -/
def piecesSize? (allowIpv4 : Bool) : List (List Char) → Option Nat
  | [] => some 0
  | [p] =>
      if !p.isEmpty && p.length ≤ 4 && p.all (fun c => (Hex.value? c).isSome) then some 1
      else if allowIpv4 && embeddedIpv4 p then some 2
      else none
  | p :: rest =>
      if !p.isEmpty && p.length ≤ 4 && p.all (fun c => (Hex.value? c).isSome) then
        (piecesSize? allowIpv4 rest).map (· + 1)
      else none

/-- The two sides of the first `::`. -/
def splitGap : List Char → Option (List Char × List Char)
  | ':' :: ':' :: rest => some ([], rest)
  | c :: rest => (splitGap rest).map fun (before, after) => (c :: before, after)
  | [] => none

/-- The pieces between colons; none of an empty text. -/
def pieces (cs : List Char) : List (List Char) :=
  if cs.isEmpty then [] else cs.splitOn ':'

/-- Whether a text is an IPv6 address. -/
def isIpv6 (cs : List Char) : Bool :=
  match splitGap cs with
  | none =>
      match piecesSize? true (pieces cs) with
      | some n => n == 8
      | none => false
  | some (before, after) =>
      match piecesSize? false (pieces before), piecesSize? true (pieces after) with
      | some m, some n => m + n ≤ 7
      | _, _ => false

/-- A character that no host of any kind may hold. -/
def isForbidden (c : Char) : Bool :=
  "\x00\t\n\r #/:<>?@[\\]^|".toList.contains c

/-- A character that no domain name may hold. -/
def isForbiddenInDomain (c : Char) : Bool :=
  isForbidden c || c == '%' || c.toNat ≤ 0x1F || c.toNat == 0x7F || c.toNat == 0xFFFD
    || (0x80 ≤ c.toNat && c.toNat < 0xA0)

/-- A character in the form that domain names use; full width forms count as plain ones. -/
def domainChar (c : Char) : Char :=
  if 0xFF01 ≤ c.toNat ∧ c.toNat ≤ 0xFF5E then (Char.ofNat (c.toNat - 0xFEE0)).toLower
  else if c.toNat = 0x3002 ∨ c.toNat = 0xFF0E ∨ c.toNat = 0xFF61 then '.'
  else c.toLower

/-- Characters that a domain name loses. -/
def isIgnoredInDomain (c : Char) : Bool :=
  [0xAD, 0x200B, 0x2060, 0xFEFF, 0x34F, 0x180E].contains c.toNat

/-- A domain name or IPv4 address. -/
def domain? (cs : List Char) : Option (List Char) := do
  let decoded ← Utf8.decode? (decodeOctets (Utf8.encode (String.ofList cs)))
  let name := (decoded.toList.filter (!isIgnoredInDomain ·)).map domainChar
  if name.isEmpty || name.any isForbiddenInDomain then none
  else if endsInNumber name then (ipv4? name).map fun _ => name
  else some name

def bracketed? (cs : List Char) : Option (List Char) :=
  match cs.reverse with
  | ']' :: inner => if isIpv6 inner.reverse then some ('[' :: cs) else none
  | _ => none

/-- The host in an address of a well known scheme. -/
def specialHost? : List Char → Option (List Char)
  | '[' :: rest => bracketed? rest
  | cs => domain? cs

/-- The host in any other address. -/
def opaqueHost? : List Char → Option (List Char)
  | '[' :: rest => bracketed? rest
  | cs => if cs.any isForbidden then none else some (encodeChars inOpaque cs)

end Url
end FaultRelay
