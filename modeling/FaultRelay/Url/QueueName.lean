import FaultRelay.Text.Blank
import FaultRelay.Text.Part
import FaultRelay.Url.Address

/-!
# The queue that an address names

An absolute address names the queue of its last segment that is not empty.  Any other
text is the name of a queue itself, even with a colon in it.
-/

namespace FaultRelay
namespace Url

/-- The schemes of short addresses. -/
def shortSchemes : List String := ["queue:", "exchange:", "topic:"]

/-- Whether a text is meant as an address. -/
def isAddress (text : String) : Bool :=
  Text.holds "://" text || shortSchemes.any (Text.beginsWith · text)

/-- The last segment of a path that is not empty. -/
def lastSegment? (path : List Char) : Option (List Char) :=
  (path.splitOn '/').reverse.find? (!·.isEmpty)

/-- The name of the queue that an address names. -/
def queueName (address : String) : String :=
  let text := Text.trim address
  if isAddress text then
    match (Address.parse? text).bind fun a => lastSegment? a.path.chars with
    | some segment => String.ofList segment
    | none => text
  else text

end Url
end FaultRelay
