import FaultRelay.Discovery.Filter
import FaultRelay.Text.Blank

/-!
# Queues that a file names

A file has the name of a queue on each line.  Blanks around a name do not count, and
neither do empty lines and lines that begin with `#`.  The file is read whenever queues
are listed, so that it may be changed meanwhile.
-/

namespace FaultRelay

/-- A file that names queues, with its text if it can be read. -/
structure QueueFile where
  path : String
  text : Option String

namespace QueueFile

/-- Whether a line without blanks around it names a queue. -/
def isName (line : List Char) : Bool :=
  !line.isEmpty && line.head? != some '#'

/-- The names in a text, in order. -/
def namesIn (text : String) : List String :=
  (((text.toList.splitOn '\n').map Text.trimChars).filter isName).map String.ofList

/-- The names in the file, or the failure to read it. -/
def names? (f : QueueFile) : Except DiscoveryError (List String) :=
  match f.text with
  | some text => .ok (namesIn text)
  | none => .error (.file f.path none)

/-- The names in the file, as a listing. -/
def listing (f : QueueFile) : Listing :=
  match f.names? with
  | .ok names => names.map .ok
  | .error e => [.error e]

/-- Whether the file names a queue. -/
def exists? (f : QueueFile) (queue : String) : Except DiscoveryError Bool :=
  f.names?.map (·.contains queue)

end QueueFile
end FaultRelay
