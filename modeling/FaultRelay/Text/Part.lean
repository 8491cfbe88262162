/-!
# Parts of texts

Whether a text begins with, ends with or holds another one, on the characters.
-/

namespace FaultRelay
namespace Text

/-- Whether a text begins with another one. -/
def beginsWith (part s : String) : Bool :=
  part.toList.isPrefixOf s.toList

/-- Whether a text ends with another one. -/
def endsWith (part s : String) : Bool :=
  part.toList.isSuffixOf s.toList

/-- Whether a list holds another one as a run. -/
def holdsRun (part : List Char) : List Char → Bool
  | [] => part.isEmpty
  | c :: rest => part.isPrefixOf (c :: rest) || holdsRun part rest

/-- Whether a text holds another one. -/
def holds (part s : String) : Bool :=
  holdsRun part.toList s.toList

end Text
end FaultRelay
