import FaultRelay.Decimal.Range
import FaultRelay.Decimal.Reading
import FaultRelay.Text.Part
import FaultRelay.Yaml.Value

/-!
# Settings as they are written, and laying one source over another

A source of settings is a table of named values.  Sources are laid over each other
value by value: a table is merged into the table of the same name, and every other
value replaces what was there.  Names have no case.

The name of a value at the outermost level may be a path of names with points between
them; it then stands for a value in nested tables.
-/

namespace FaultRelay
namespace Settings

/-- A written value. -/
inductive Tree where
  | nil
  | bool (b : Bool)
  | int (n : Int)
  | real (x : Float)
  | text (s : String)
  | list (items : List Tree)
  | table (entries : List (String × Tree))

namespace Tree

/-- Puts a value into a table under a name. -/
def put (entries : List (String × Tree)) (name : String) (value : Tree) : List (String × Tree) :=
  match entries with
  | [] => [(name, value)]
  | (n, v) :: rest => if n = name then (n, value) :: rest else (n, v) :: put rest name value

/-- The entries of a table; anything else has none. -/
def entries : Tree → List (String × Tree)
  | table entries => entries
  | _ => []

mutual

/-- Lays a value over what a table holds under a name. -/
def set (target : List (String × Tree)) (name : String) : Tree → List (String × Tree)
  | table more =>
      let key := name.toLower
      match target.lookup key with
      | some (.table inner) => put target key (.table (setAll inner more))
      | some other =>
          put target key (if more.isEmpty then other else .table (setAll [] more))
      | none => put target key (.table (setAll [] more))
  | value => put target name.toLower value

/-- Lays the entries of a table over those of another one. -/
def setAll (target : List (String × Tree)) : List (String × Tree) → List (String × Tree)
  | [] => target
  | (name, value) :: rest => setAll (set target name value) rest

end

/-- A character of a name in a path. -/
def isPathChar (c : Char) : Bool :=
  c.isAlphanum || c == ' ' || c == '_' || c == '-'

/-- The names of a path; none when the text is no path. -/
def path? (name : String) : Option (List String) :=
  let names := (name.toList.splitOn '.')
  if names.all fun n => !n.isEmpty && n.all isPathChar then some (names.map String.ofList) else none

/-- Lays a value over what stands at the end of a path; what is no table on the way is replaced. -/
def setAt (target : List (String × Tree)) : List String → Tree → List (String × Tree)
  | [], _ => target
  | [name], value => set target name value
  | name :: rest, value =>
      let inner := ((target.lookup name.toLower).map entries).getD []
      put target name.toLower (.table (setAt inner rest value))

/-- Lays an outermost entry of a source over the settings so far. -/
def setNamed (target : List (String × Tree)) (name : String) (value : Tree) :
    List (String × Tree) :=
  match path? name with
  | some names => setAt target names value
  | none => set target name value

/-- Lays a source over the settings so far. -/
def overlay (target source : List (String × Tree)) : List (String × Tree) :=
  source.foldl (fun t (name, value) => setNamed t name value) target

mutual

/-- A value of a YAML document as a written setting. -/
def ofYaml? : Yaml.Value → Option Tree
  | .null | .bad => some .nil
  | .bool b => some (.bool b)
  | .int n => some (.int n)
  | .real s => (Decimal.float? s).map .real
  | .text s => some (.text s)
  | .list items => (listOfYaml? items).map .list
  | .mapping members => (tableOfYaml? members).map .table

/-- The items of a sequence. -/
def listOfYaml? : List Yaml.Value → Option (List Tree)
  | [] => some []
  | v :: rest => do return (← ofYaml? v) :: (← listOfYaml? rest)

/-- The members of a mapping; their names are texts or whole numbers. -/
def tableOfYaml? : List (Yaml.Value × Yaml.Value) → Option (List (String × Tree))
  | [] => some []
  | (key, v) :: rest => do
      let name ← match key with
        | .text s => some s
        | .int n => some (toString n)
        | _ => none
      return (name, ← ofYaml? v) :: (← tableOfYaml? rest)

end

/-- The source that a text in YAML gives; an empty text has no entries. -/
def ofText? (text : String) : Option (List (String × Tree)) := do
  let bare := match text.toList with
    | c :: rest => if c.toNat = 0xFEFF then String.ofList rest else text
    | [] => text
  match ← Yaml.read? bare with
  | [] => some []
  | [document] =>
      match ← ofYaml? document with
      | .table entries => some entries
      | _ => none
  | _ => none

/-- What the name of every variable with settings starts with. -/
def variableStart : String := "fault_bridge__"

/-- A text with every pair of low lines replaced by a point. -/
def pointed : List Char → List Char
  | '_' :: '_' :: rest => '.' :: pointed rest
  | c :: rest => c :: pointed rest
  | [] => []

/-- The value of a variable: a truth value or number when it looks like one. -/
def ofVariable (text : String) : Tree :=
  match text.toLower with
  | "true" => .bool true
  | "false" => .bool false
  | _ =>
      match Decimal.int? (Decimal.signedRange 64).1 (Decimal.signedRange 64).2 text with
      | some n => .int n
      | none =>
          match Decimal.float? text with
          | some x => .real x
          | none => .text text

/-- The setting in a variable, when its name is that of one. -/
def entryOfVariable? (name value : String) : Option (String × Tree) :=
  let key := name.toLower
  if Text.beginsWith variableStart key then
    some (String.ofList (pointed (key.toList.drop variableStart.length)), ofVariable value)
  else none

/-- The source that the variables give. -/
def ofVariables (environment : List (String × String)) : List (String × Tree) :=
  environment.filterMap fun (name, value) => entryOfVariable? name value

end Tree
end Settings
end FaultRelay
