import FaultRelay.Decimal.Range
import FaultRelay.Discovery.Pages
import FaultRelay.Discovery.HttpStatus
import FaultRelay.Json.Document
import FaultRelay.Text.Base64
import FaultRelay.Url.Address

/-!
# Queues that a management interface lists

A RabbitMQ server describes the queues of a virtual host over HTTP, in JSON.  The virtual
host is the one that the address of the broker names, and so are the user and the
password unless they are set.  Queues are listed in pages of a fixed size, numbered from
one; every page tells how many there are.  A request that does not reach the server is
repeated a few times.
-/

namespace FaultRelay
namespace Management

open Text Url

/-- The user, and the password, of a server that nobody has set up otherwise. -/
def defaultCredential : String := "guest"

/-- The virtual host of a server that nobody has set up otherwise. -/
def defaultVhost : String := "/"

/-- How many queues a page may have. -/
def pageSize : Nat := 500

/-- How many pages there may be. -/
def maxPages : Nat := Decimal.greatest 32

/-- Where a server is reached, and as whom. -/
structure Client where
  address : Address
  /-- What the address asks for besides. -/
  query : Option (List Char)
  vhost : String
  username : String
  password : String

/-- What a server is asked. -/
structure Request where
  path : String
  query : Option String
  authorization : String
  deriving DecidableEq, Repr

/-- What came of a request. -/
inductive Reply where
  /-- The server was not reached, or did not answer in time. -/
  | unreachable
  /-- There is no answer for any other reason. -/
  | failed (reason : String)
  | answered (status : Nat) (body : List UInt8)
  /-- The answer began, but its body did not arrive. -/
  | brokenOff (status : Nat) (reason : String)

/-- A server: what it replies, and what becomes of it. -/
abbrev Server (σ : Type) := Request → σ → Reply × σ

/-- How often a request is repeated that does not reach its server. -/
def maxRepeats : Nat := 3

/-- Sends a request, and sends it again as long as it does not reach the server. -/
def Server.send {σ : Type} (server : Server σ) (r : Request) : (repeats : Nat) → σ → Reply × σ
  | 0, state => server r state
  | repeats + 1, state =>
      match server r state with
      | (.unreachable, state) => send server r repeats state
      | replied => replied

/-- A part of an address, or what stands for an empty one. -/
def credential (part : List Char) : String :=
  if part.isEmpty then defaultCredential else String.ofList part

/-- The virtual host that an address names. -/
def vhostOf (address : Address) : String :=
  match address.path.chars.dropWhile (· == '/') with
  | [] => defaultVhost
  | name => decodeText (String.ofList name)

/-- The client that settings give. -/
def Client.ofSettings (s : AmqpSettings) : Except DiscoveryError Client :=
  match Address.parse? s.url, Address.parse? s.managementUrl with
  | none, _ => .error (.config "invalid AMQP url")
  | _, none => .error (.config "invalid management url")
  | some broker, some address => .ok {
      address
      query := query? s.managementUrl
      vhost := vhostOf broker
      username := s.username.getD (credential broker.username)
      password := s.password.getD (credential broker.password) }

namespace Client

variable {σ : Type}

/-- What is sent to tell who asks. -/
def authorization (c : Client) : String :=
  "Basic " ++ Base64.encode (Utf8.encode (c.username ++ ":" ++ c.password))

/-- A request for what stands at some segments below the address, with a query. -/
def request (c : Client) (segments : List String) (query : Option String) :
    Except DiscoveryError Request :=
  match c.address.extend? segments with
  | none => .error (.config "management url cannot be a base")
  | some address => .ok {
      path := String.ofList address.path.chars
      query := match c.query.map String.ofList, query with
        | some own, some more => some (if own.isEmpty then more else own ++ "&" ++ more)
        | own, more => own.or more
      authorization := c.authorization }

/-- The whole address of a request. -/
def target (c : Client) (r : Request) : String :=
  c.address.origin ++ r.path ++ match r.query with
    | some query => "?" ++ query
    | none => ""

/-- The body that comes with a status; it is not read when what was asked for does not exist. -/
def accept (r : Request) (status : Nat) (body : Except DiscoveryError (List UInt8)) :
    Except DiscoveryError (Option (List UInt8)) :=
  if status = HttpStatus.notFound then .ok none
  else if HttpStatus.isSuccess status then body.map some
  else .error (.response (r.path ++ " returned HTTP " ++ HttpStatus.text status))

/-- The body of a reply; there is none when what was asked for does not exist. -/
def body? (c : Client) (r : Request) : Reply → Except DiscoveryError (Option (List UInt8))
  | .unreachable => .error (.request ("error sending request for url (" ++ c.target r ++ ")"))
  | .failed reason => .error (.request reason)
  | .answered status body => accept r status (.ok body)
  | .brokenOff status reason => accept r status (.error (.response reason))

/-- Asks a server for what stands at some segments. -/
def get (c : Client) (server : Server σ) (segments : List String) (query : Option String)
    (state : σ) : Except DiscoveryError (Option (List UInt8)) × σ :=
  match c.request segments query with
  | .error e => (.error e, state)
  | .ok r =>
      let (reply, state) := server.send r maxRepeats state
      (c.body? r reply, state)

end Client

/-- A body that is not as it should be. -/
def unreadable : DiscoveryError := .response "error decoding response body"

/-- A queue as a server describes it: its name and how many messages it has. -/
def queue? (node : Json.Node) : Option (String × Nat) := do
  match ← node.fields? [["name"], ["messages"]] with
  | [some name, messages] =>
      return (← name.text?, ← match messages with
        | some count => count.natural? (Decimal.greatest 64)
        | none => some 0)
  | _ => none

/-- A number of pages, or of a page. -/
def pageNumber? : Option Json.Node → Option Nat
  | some node => node.natural? maxPages
  | none => some 0

/-- The names on a page, and how many pages there are. -/
def page? (node : Json.Node) : Option (List String × Nat) := do
  match ← node.fields? [["items"], ["page"], ["page_count"]] with
  | [items, page, count] =>
      let _ ← pageNumber? page
      let queues ← match items with
        | some (.list items) => items.mapM queue?
        | some _ => none
        | none => some []
      return (queues.map (·.1), ← pageNumber? count)
  | _ => none

/-- What is asked of a page. -/
def pageQuery (page : Nat) : String :=
  "page=" ++ toString page ++ "&page_size=" ++ toString pageSize
    ++ "&pagination=true&columns=name%2Cmessages"

namespace Client

variable {σ : Type}

/-- The segments of the queues of the virtual host. -/
def queuesSegments (c : Client) : List String :=
  ["api", "queues", c.vhost]

/-- Gets a page. -/
def fetch (c : Client) (server : Server σ) : Fetch Nat σ := fun number state =>
  match c.get server c.queuesSegments (some (pageQuery number)) state with
  | (.error e, state) => (.error e, state)
  | (.ok none, state) => (.error (.response ("vhost '" ++ c.vhost ++ "' not found")), state)
  | (.ok (some body), state) =>
      match (Json.read? body).bind page? with
      | none => (.error unreadable, state)
      | some (names, count) =>
          (.ok ⟨names, if number < count then some (number + 1) else none⟩, state)

/-- Reads pages; all of them unless a number of names is wanted. -/
def pages (c : Client) (server : Server σ) (wanted : Option Nat) (state : σ) : Pages Nat σ :=
  Pages.readFrom (c.fetch server) maxPages wanted 1 state

/-- What a server says about a queue, if it exists. -/
def find (c : Client) (server : Server σ) (queue : String) (state : σ) :
    Except DiscoveryError (Option (String × Nat)) × σ :=
  match c.get server (c.queuesSegments ++ [queue]) none state with
  | (.error e, state) => (.error e, state)
  | (.ok none, state) => (.ok none, state)
  | (.ok (some body), state) =>
      match (Json.read? body).bind queue? with
      | some described => (.ok (some described), state)
      | none => (.error unreadable, state)

def exists? (c : Client) (server : Server σ) (queue : String) (state : σ) :
    Except DiscoveryError Bool × σ :=
  let (found, state) := c.find server queue state
  (found.map Option.isSome, state)

/-- How many messages a queue has. -/
def length? (c : Client) (server : Server σ) (queue : String) (state : σ) :
    Except DiscoveryError Nat × σ :=
  match c.find server queue state with
  | (.error e, state) => (.error e, state)
  | (.ok (some (_, messages)), state) => (.ok messages, state)
  | (.ok none, state) => (.error (.response ("queue '" ++ queue ++ "' not found")), state)

end Client
end Management
end FaultRelay
