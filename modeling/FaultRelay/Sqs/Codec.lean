import FaultRelay.Json.Document
import FaultRelay.Json.Value
import FaultRelay.Message
import FaultRelay.Text.Base64
import FaultRelay.Text.Utf8

/-!
# Messages as SQS carries them

A message has a text and at most ten named texts, its attributes.  Headers travel as one
attribute each when they fit and none is empty, and otherwise as one JSON record.  A body
that is not text travels in base64, which an attribute tells.
-/

namespace FaultRelay
namespace Sqs

/-- The most attributes that a message may have. -/
def maxAttributes : Nat := 10

/-- The attribute that holds all headers as one JSON record. -/
def packedHeaders : String := "Headers"

/-- The attribute that tells how the body is written. -/
def bodyEncoding : String := "Body-Encoding"

/-- The attribute that holds the content type. -/
def contentTypeAttribute : String := "Content-Type"

/-- How a body that is not text is written. -/
def base64Encoding : String := "base64"

/-- Headers as one JSON record. -/
def packHeaders (headers : Headers) : String :=
  (Json.Value.record (headers.toList.map fun (name, value) => (name, .text value))).render

/-- The attributes that do not come from headers. -/
def ownAttributes (contentType : Option String) (inBase64 : Bool) : Headers :=
  Headers.write ∅ [(contentTypeAttribute, contentType),
    (bodyEncoding, if inBase64 then some base64Encoding else none)]

/-- The attributes of a message. -/
def encodeAttributes (headers : Headers) (contentType : Option String) (inBase64 : Bool) :
    Headers :=
  let own := ownAttributes contentType inBase64
  if own.size + headers.size ≤ maxAttributes && headers.toList.all (fun (_, v) => !v.isEmpty) then
    own.overlay headers
  else own.insert packedHeaders (packHeaders headers)

/-- Takes one attribute over into headers. -/
def takeAttribute (headers : Headers) (name value : String) : Option Headers :=
  if name = packedHeaders then do
    let packed ← (← Json.read? (Text.Utf8.encode value)).textRecord?
    return headers.overlay (Headers.ofPairs packed)
  else if name = bodyEncoding ∨ name = contentTypeAttribute then some headers
  else some (headers.insert name value)

/-- The headers that attributes stand for; there are none when packed ones cannot be read. -/
def decodeHeaders? (attributes : Headers) : Option Headers :=
  attributes.toList.foldlM (fun headers (name, value) => takeAttribute headers name value) ∅

/-- The text of a body, and whether it is in base64. -/
def encodeBody (body : ByteArray) : String × Bool :=
  match Text.Utf8.decode? body.toList with
  | some text => (text, false)
  | none => (Text.Base64.encode body.toList, true)

/-- The body that a text stands for; there is none when it is not the base64 it should be. -/
def decodeBody? (text : String) (attributes : Headers) : Option ByteArray :=
  if attributes[bodyEncoding]? = some base64Encoding then
    (Text.Base64.decode? text).map fun octets => ⟨octets.toArray⟩
  else some text.toUTF8

/-- Why a message cannot be read. -/
inductive Unreadable where
  | headers
  | body
  deriving DecidableEq, Repr

/-- What is said of a message that cannot be read. -/
def Unreadable.reason : Unreadable → String
  | headers => "unreadable headers"
  | body => "unreadable body"

/-- A received message, or the reason why it cannot be read and the message unread. -/
def decodeMessage (attributes : Headers) (text nativeId address : String) :
    Except (Unreadable × Received) Received :=
  let unread : Received := ⟨nativeId, attributes, text.toUTF8, address, 0⟩
  match decodeHeaders? attributes with
  | none => .error (.headers, unread)
  | some headers =>
      match decodeBody? text attributes with
      | none => .error (.body, unread)
      | some body => .ok ⟨nativeId, headers, body, address, 0⟩

end Sqs
end FaultRelay
