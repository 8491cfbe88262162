import FaultRelay.Text.Utf8

/-!
# Variables as an environment holds them

An environment is a sequence of octets in which every variable is a name, an equals sign
and a value, and ends with a zero octet.
-/

namespace FaultRelay
namespace Cli

/-- The variable that octets spell; there is none without an equals sign. -/
def entry? (octets : List UInt8) : Option (String × String) :=
  let name := octets.takeWhile (· != 61)
  match octets.drop name.length with
  | _ :: value => some (Text.Utf8.decodeLossy name, Text.Utf8.decodeLossy value)
  | [] => none

/-- The variables of an environment. -/
def variablesOf (octets : List UInt8) : List (String × String) :=
  (octets.splitOn 0).filterMap entry?

end Cli
end FaultRelay
