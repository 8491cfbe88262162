import Std.Data.ExtTreeMap
import Std.Data.ExtTreeSet

/-!
# Messages

A message is received from a queue and sent on as an operation: a destination, an
identity, headers, a body and transport properties.  A broker stores what it accepts.
-/

namespace FaultRelay

/-- Named texts, in the order of their names. -/
abbrev Headers := Std.ExtTreeMap String String

/-- A set of queue names, in order. -/
abbrev QueueSet := Std.ExtTreeSet String

namespace Headers

/-- The headers of a list of pairs; the last of several with one name counts. -/
def ofPairs (pairs : List (String × String)) : Headers :=
  pairs.foldl (fun h (name, value) => h.insert name value) ∅

/-- Writes the headers that have a value, in order. -/
def write (h : Headers) (values : List (String × Option String)) : Headers :=
  values.foldl (fun h (name, value) =>
    match value with
    | some value => h.insert name value
    | none => h) h

/-- Lays other headers over these. -/
def overlay (h other : Headers) : Headers :=
  other.toList.foldl (fun h (name, value) => h.insert name value) h

end Headers

structure Received where
  nativeId : String
  headers : Headers
  body : ByteArray
  address : String
  failures : Nat

namespace Property

/-- The transport property that carries the identity of a message. -/
def messageId : String := "Message-ID"

/-- The transport property that carries the content type of a message. -/
def contentType : String := "Content-Type"

end Property

/-- A message to be sent. -/
structure Operation where
  destination : String
  id : String
  headers : Headers
  body : ByteArray
  properties : Headers

/-- The identity under which a broker stores the message. -/
def Operation.nativeId (op : Operation) : String :=
  op.properties[Property.messageId]?.getD op.id

/-- A message in a queue. -/
structure Stored where
  nativeId : String
  headers : Headers
  properties : Headers
  body : ByteArray

/-- What a broker stores of an operation. -/
def Operation.stored (op : Operation) : Stored :=
  ⟨op.nativeId, op.headers, op.properties, op.body⟩

/-- A stored message as it is received from a queue. -/
def Stored.received (s : Stored) (address : String) : Received :=
  ⟨s.nativeId, s.headers, s.body, address, 0⟩

inductive BrokerKind where
  | memory
  | rabbitMq
  | amazonSqs
  deriving DecidableEq, Repr

/-- What the address of a queue starts with on a kind of broker. -/
def BrokerKind.addressScheme : BrokerKind → String
  | .rabbitMq => "exchange:"
  | .memory | .amazonSqs => "queue:"

end FaultRelay
