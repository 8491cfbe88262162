import FaultRelay.Url.Host
import FaultRelay.Url.Path

/-!
# Addresses

An address is a scheme, then, after two slashes, credentials, a host and a number, then a
path, and last a query and a fragment.  The well known schemes always have a host.
-/

namespace FaultRelay
namespace Url

/-- An address without its query and fragment. -/
structure Address where
  scheme : List Char
  username : List Char
  password : List Char
  host : List Char
  /-- The number after the host, unless it is the one that the scheme stands for. -/
  portNumber : Option Nat
  path : Path
  deriving DecidableEq, Repr

/-- The number that a scheme stands for. -/
def defaultPort (scheme : List Char) : Option Nat :=
  match String.ofList scheme with
  | "http" | "ws" => some 80
  | "https" | "wss" => some 443
  | "ftp" => some 21
  | _ => none

/-- The structure that a scheme asks for. -/
def Family.ofScheme (scheme : List Char) : Family :=
  match String.ofList scheme with
  | "file" => .file
  | "http" | "https" | "ws" | "wss" | "ftp" => .special
  | _ => .other

/-- A text without tabs and line ends, and without control characters and blanks at its ends. -/
def cleaned (cs : List Char) : List Char :=
  let isEnd := fun c : Char => c.toNat ≤ 0x20
  let inner := ((cs.dropWhile isEnd).reverse.dropWhile isEnd).reverse
  inner.filter fun c => !(c == '\t' || c == '\n' || c == '\r')

def isSchemeChar (c : Char) : Bool :=
  c.isAlphanum || c == '+' || c == '-' || c == '.'

/-- The scheme before the first colon, in lower case, and what follows the colon. -/
def splitScheme? (cs : List Char) : Option (List Char × List Char) :=
  let scheme := cs.takeWhile isSchemeChar
  match scheme, cs.drop scheme.length with
  | c :: _, ':' :: rest => if c.isAlpha then some (scheme.map Char.toLower, rest) else none
  | _, _ => none

/-- The query in a text: what follows the first question mark, up to the fragment. -/
def query? (text : String) : Option (List Char) :=
  match ((cleaned text.toList).takeWhile (· != '#')).dropWhile (· != '?') with
  | _ :: query => some (encodeChars inQuery query)
  | [] => none

def endsPath (c : Char) : Bool :=
  c == '?' || c == '#'

/-- A character that ends credentials, host and number. -/
def endsAuthority (family : Family) (c : Char) : Bool :=
  endsPath c || family.isSlash c

/-- The two sides of the last `@`. -/
def splitLastAt (cs : List Char) : Option (List Char × List Char) :=
  if cs.contains '@' then
    let host := (cs.reverse.takeWhile (· != '@')).reverse
    some (cs.take (cs.length - host.length - 1), host)
  else none

/-- User name and password. -/
def splitCredentials (cs : List Char) : List Char × List Char :=
  let name := cs.takeWhile (· != ':')
  (encodeChars inCredentials name, encodeChars inCredentials (cs.drop (name.length + 1)))

/-- Host and what follows its colon; a colon between brackets belongs to the host. -/
def splitPort : Bool → List Char → List Char × Option (List Char)
  | _, [] => ([], none)
  | false, ':' :: rest => ([], some rest)
  | inside, c :: rest =>
      let (host, number) := splitPort (c == '[' || (inside && c != ']')) rest
      (c :: host, number)

/-- The number after a host, unless it is the one that the scheme stands for. -/
def readPort? (scheme : List Char) (cs : List Char) : Option (Option Nat) :=
  let n := cs.foldl (fun n c => n * 10 + (c.toNat - 48)) 0
  if cs.all Char.isDigit && n ≤ 65535 then
    some (if cs.isEmpty || defaultPort scheme == some n then none else some n)
  else none

def pathAfterAuthority (family : Family) (text : List Char) : Path :=
  match family, text with
  | .other, [] => .segments []
  | family, c :: rest =>
      .segments (readPath family (if family.isSlash c then rest else c :: rest))
  | family, [] => .segments (readPath family [])

/-- What follows the two slashes of an address that is not a file. -/
def withAuthority? (scheme : List Char) (cs : List Char) : Option Address := do
  let family := Family.ofScheme scheme
  let authority := cs.takeWhile (!endsAuthority family ·)
  let path := (cs.drop authority.length).takeWhile (!endsPath ·)
  let (credentials, hostPort) := (splitLastAt authority).getD ([], authority)
  if hostPort.isEmpty && authority.contains '@' then none
  let (name, password) := splitCredentials credentials
  let (hostText, portText) := splitPort false hostPort
  if hostText.isEmpty && (family == .special || portText.isSome) then none
  let host ← if family == .special then specialHost? hostText else opaqueHost? hostText
  let number ← match portText with
    | some text => readPort? scheme text
    | none => some none
  return ⟨scheme, name, password, host, number, pathAfterAuthority family path⟩

/-- The host of a file, when the text names one rather than a disk. -/
def fileHost? (cs : List Char) : Option (List Char) :=
  if cs.isEmpty then some []
  else (specialHost? cs).map fun host => if host = "localhost".toList then [] else host

/-- What follows the scheme of a file. -/
def ofFile? (scheme : List Char) (cs : List Char) : Option Address :=
  let text := cs.takeWhile (!endsPath ·)
  let slash := Family.isSlash .file
  match text with
  | a :: b :: rest =>
      if slash a && slash b then
        let hostText := rest.takeWhile (!slash ·)
        let isDisk := match hostText with
          | [c, d] => c.isAlpha && (d == ':' || d == '|')
          | _ => false
        if isDisk then some ⟨scheme, [], [], [], none, .segments (readPath .file rest)⟩
        else do
          let host ← fileHost? hostText
          return ⟨scheme, [], [], host, none,
            pathAfterAuthority .file (rest.drop hostText.length)⟩
      else some ⟨scheme, [], [], [], none, pathAfterAuthority .file text⟩
  | _ => some ⟨scheme, [], [], [], none, pathAfterAuthority .file text⟩

/-- What follows the scheme of an address of no well known scheme. -/
def ofOther? (scheme : List Char) : List Char → Option Address
  | '/' :: '/' :: rest => withAuthority? scheme rest
  | '/' :: rest =>
      some ⟨scheme, [], [], [], none, .segments (readPath .other (rest.takeWhile (!endsPath ·)))⟩
  | cs =>
      let text := encodeChars inOpaque (cs.takeWhile (!endsPath ·))
      some ⟨scheme, [], [], [], none, .opaqueText text⟩

/-- The address that a text gives. -/
def Address.parse? (text : String) : Option Address := do
  let (scheme, rest) ← splitScheme? (cleaned text.toList)
  match Family.ofScheme scheme with
  | .file => ofFile? scheme rest
  | .special => withAuthority? scheme (rest.dropWhile (Family.isSlash .special))
  | .other => ofOther? scheme rest

/-- The address without its path: scheme, host and number. -/
def Address.origin (a : Address) : String :=
  String.ofList a.scheme ++ "://" ++ String.ofList a.host ++
    match a.portNumber with
    | some number => ":" ++ toString number
    | none => ""

/-- A new segment as it is written: without tabs and line ends, everything else that has to be in code. -/
def newSegment (text : String) : List Char :=
  encodeChars inSegment (text.toList.filter fun c => !(c == '\t' || c == '\n' || c == '\r'))

/--
The address with further segments at the end of its path, of which an empty last one is
left out.  Segments that would move to another place are left out too, but not those that
do so only when they are written.  A path without structure cannot be extended.
-/
def Address.extend? (a : Address) (more : List String) : Option Address :=
  match a.path with
  | .opaqueText _ => none
  | .segments parts =>
      let front := if parts.getLast? = some [] then parts.dropLast else parts
      let written := (more.filter fun s => s != "." && s != "..").map newSegment
      let family := Family.ofScheme a.scheme
      some { a with path := .segments (written.foldl (readSegment family · · true) front) }

end Url
end FaultRelay
