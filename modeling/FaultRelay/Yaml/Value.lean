import FaultRelay.Decimal.Range
import FaultRelay.Decimal.Reading
import FaultRelay.Text.Hex
import FaultRelay.Yaml.Token.Lexer

/-!
# Values of YAML documents

A document is a tree of scalars, sequences and mappings.  A plain scalar without a tag
is a null, a truth value or a number when it looks like one.  No mapping has a key
twice, and an alias stands for what its anchor marked before it.
-/

namespace FaultRelay
namespace Yaml

inductive Value where
  | null
  | bad
  | bool (b : Bool)
  | int (n : Int)
  | real (text : String)
  | text (s : String)
  | list (items : List Value)
  | mapping (members : List (Value × Value))
  deriving Repr, BEq

/-- The whole numbers that fit a number of 64 bits. -/
def intRange : Int × Int := Decimal.signedRange 64

/-- A number of digits of a base, within the whole numbers. -/
def radix? (base : Nat) (cs : List Char) : Option Int :=
  let (negative, digits) := Decimal.splitSign cs
  let n := digits.foldlM (fun n c => do
    let d ← Text.Hex.value? c
    if d < base then some (n * base + d) else none) 0
  match digits, n with
  | _ :: _, some n =>
      let v : Int := if negative then -(n : Int) else n
      if intRange.1 ≤ v ∧ v ≤ intRange.2 then some v else none
  | _, _ => none

/-- Whether a text is a floating point number. -/
def isReal (s : String) : Bool :=
  [".inf", ".Inf", ".INF", "+.inf", "+.Inf", "+.INF", "-.inf", "-.Inf", "-.INF", ".nan", "NaN",
    ".NAN"].contains s
    || (s.toList.any Char.isDigit && (Decimal.float? s).isSome)

/-- A whole number in the base that its first characters announce. -/
def basedInt? (cs : List Char) : Option Int :=
  match cs with
  | '0' :: 'x' :: digits => radix? 16 digits
  | '0' :: 'o' :: digits => radix? 8 digits
  | '+' :: digits => Decimal.int? intRange.1 intRange.2 (String.ofList digits)
  | _ => none

/-- The value of a plain scalar. -/
def Value.ofPlain (cs : List Char) : Value :=
  let s := String.ofList cs
  match basedInt? cs with
  | some n => .int n
  | none =>
      match s with
      | "~" | "null" => .null
      | "true" => .bool true
      | "false" => .bool false
      | _ =>
          match Decimal.int? intRange.1 intRange.2 s with
          | some n => .int n
          | none => if isReal s then .real s else .text s

/-- The value of a plain scalar with a tag. -/
def Value.ofTagged (handle suffix cs : List Char) : Value :=
  let s := String.ofList cs
  if handle = "tag:yaml.org,2002:".toList then
    match String.ofList suffix with
    | "bool" => if s = "true" then .bool true else if s = "false" then .bool false else .bad
    | "int" => (Decimal.int? intRange.1 intRange.2 s).elim .bad .int
    | "float" => if isReal s then .real s else .bad
    | "null" => if s = "~" ∨ s = "null" then .null else .bad
    | _ => .text s
  else .text s

/-- What a reader of values has left: lexemes, and the values that anchors mark. -/
structure Reading where
  tokens : List Token
  anchors : List (List Char × Value)

abbrev Reader := StateT Reading Option

namespace Reader

/-- The next lexeme, which is left there. -/
def peek : Reader (Option Token) := return (← get).tokens.head?

/-- Passes a lexeme. -/
def skip : Reader Unit := modify fun r => { r with tokens := r.tokens.tail }

/-- Passes a lexeme that must come next. -/
def expect (t : Token) : Reader Unit := do
  if (← peek) = some t then skip else failure

/-- Lets an anchor mark a value. -/
def mark (name : Option (List Char)) (v : Value) : Reader Value := do
  match name with
  | some name => do
      modify fun r => { r with anchors := (name, v) :: r.anchors }
      return v
  | none => return v

end Reader

open Reader

/-- The anchor and the tag in front of a value, in either order. -/
def properties : Reader (Option (List Char) × Option (List Char × List Char)) := do
  match ← peek with
  | some (.anchor name) => do
      skip
      match ← peek with
      | some (.tag handle suffix) => do
          skip
          return (some name, some (handle, suffix))
      | _ => return (some name, none)
  | some (.tag handle suffix) => do
      skip
      match ← peek with
      | some (.anchor name) => do
          skip
          return (some name, some (handle, suffix))
      | _ => return (none, some (handle, suffix))
  | _ => return (none, none)

/-- Adds a member to a mapping that has no such key yet. -/
def addMember (members : List (Value × Value)) (key value : Value) :
    Reader (List (Value × Value)) :=
  if members.any (·.1 == key) then failure else return members ++ [(key, value)]

mutual

/-- A value; `block` and `loose` tell which forms are allowed here. -/
def node (block loose : Bool) : Nat → Reader Value
  | 0 => failure
  | fuel + 1 => do
      match ← peek with
      | some (.alias name) => do
          skip
          ((← get).anchors.lookup name : Option Value)
      | _ => do
          let (name, tagged) ← properties
          match ← peek with
          | some (.scalar style text) => do
              skip
              mark name (match style, tagged with
                | .plain, some (handle, suffix) => Value.ofTagged handle suffix text
                | .plain, none => Value.ofPlain text
                | _, _ => .text (String.ofList text))
          | some .flowSequence => do
              skip
              mark name (.list (← flowItems true fuel []))
          | some .flowMapping => do
              skip
              mark name (.mapping (← flowMembers true fuel []))
          | some .blockEntry =>
              if loose then do mark name (.list (← looseItems fuel []))
              else empty name tagged
          | some .blockSequence =>
              if block then do
                skip
                mark name (.list (← blockItems fuel []))
              else empty name tagged
          | some .blockMapping =>
              if block then do
                skip
                mark name (.mapping (← blockMembers fuel []))
              else empty name tagged
          | _ => empty name tagged
where
  /-- An anchor or a tag without a value. -/
  empty (name : Option (List Char)) (tagged : Option (List Char × List Char)) : Reader Value :=
    match tagged, name with
    | some (handle, suffix), _ => mark name (Value.ofTagged handle suffix [])
    | none, some _ => mark name (.text "")
    | none, none => failure

/-- A value, or null where one of some lexemes follows. -/
def nodeOr (ends : List Token) (block loose : Bool) : Nat → Reader Value
  | 0 => failure
  | fuel + 1 => do
      match ← peek with
      | some t => if ends.contains t then return .null else node block loose fuel
      | none => return .null

/-- The items of a block sequence up to its end. -/
def blockItems : Nat → List Value → Reader (List Value)
  | 0, _ => failure
  | fuel + 1, items => do
      match ← peek with
      | some .blockEnd => do
          skip
          return items
      | some .blockEntry => do
          skip
          let v ← nodeOr [.blockEntry, .blockEnd] true false fuel
          blockItems fuel (items ++ [v])
      | _ => failure

/-- The items of a sequence that is not indented more than its key. -/
def looseItems : Nat → List Value → Reader (List Value)
  | 0, _ => failure
  | fuel + 1, items => do
      match ← peek with
      | some .blockEntry => do
          skip
          let v ← nodeOr [.blockEntry, .key, .value, .blockEnd] true false fuel
          looseItems fuel (items ++ [v])
      | _ => return items

/-- The members of a block mapping up to its end. -/
def blockMembers : Nat → List (Value × Value) → Reader (List (Value × Value))
  | 0, _ => failure
  | fuel + 1, members => do
      match ← peek with
      | some .blockEnd => do
          skip
          return members
      | some .key => do
          skip
          let key ← nodeOr [.key, .value, .blockEnd] true true fuel
          let value ← blockValue fuel
          blockMembers fuel (← addMember members key value)
      | some .value => do
          let value ← blockValue fuel
          blockMembers fuel (← addMember members .null value)
      | _ => failure

/-- The value of a member of a block mapping. -/
def blockValue : Nat → Reader Value
  | 0 => failure
  | fuel + 1 => do
      match ← peek with
      | some .value => do
          skip
          nodeOr [.key, .value, .blockEnd] true true fuel
      | _ => return .null

/-- The items of a sequence in brackets up to its end. -/
def flowItems (first : Bool) : Nat → List Value → Reader (List Value)
  | 0, _ => failure
  | fuel + 1, items => do
      if !first && (← peek) ≠ some .flowSequenceEnd then expect .flowEntry
      match ← peek with
      | some .flowSequenceEnd => do
          skip
          return items
      | some .key => do
          skip
          let key ← nodeOr [.value, .flowEntry, .flowSequenceEnd] false false fuel
          let value ← flowValue [.flowEntry, .flowSequenceEnd] fuel
          flowItems false fuel (items ++ [.mapping [(key, value)]])
      | some .value => do
          let value ← flowValue [.flowEntry, .flowSequenceEnd] fuel
          flowItems false fuel (items ++ [.mapping [(.null, value)]])
      | _ => do
          let v ← node false false fuel
          flowItems false fuel (items ++ [v])

/-- The members of a mapping in braces up to its end. -/
def flowMembers (first : Bool) : Nat → List (Value × Value) → Reader (List (Value × Value))
  | 0, _ => failure
  | fuel + 1, members => do
      if !first && (← peek) ≠ some .flowMappingEnd then expect .flowEntry
      match ← peek with
      | some .flowMappingEnd => do
          skip
          return members
      | some .key => do
          skip
          let key ← nodeOr [.value, .flowEntry, .flowMappingEnd] false false fuel
          let value ← flowValue [.flowEntry, .flowMappingEnd] fuel
          flowMembers false fuel (← addMember members key value)
      | some .value => do
          let value ← flowValue [.flowEntry, .flowMappingEnd] fuel
          flowMembers false fuel (← addMember members .null value)
      | _ => do
          let key ← node false false fuel
          flowMembers false fuel (← addMember members key .null)

/-- The value of a member between brackets. -/
def flowValue (ends : List Token) : Nat → Reader Value
  | 0 => failure
  | fuel + 1 => do
      match ← peek with
      | some .value => do
          skip
          nodeOr ends false false fuel
      | _ => return .null

end

/-- Passes directives; tells whether there were any. -/
def directives : Nat → Bool → Reader Bool
  | 0, seen => return seen
  | fuel + 1, seen => do
      if (← peek) = some .directive then
        skip
        directives fuel true
      else return seen

/-- Passes the ends of documents. -/
def documentEnds : Nat → Reader Unit
  | 0 => return ()
  | fuel + 1 => do
      if (← peek) = some .documentEnd then
        skip
        documentEnds fuel

/-- The documents of a stream; `implicit` when one may begin without being announced. -/
def documents (implicit : Bool) : Nat → Reader (List Value)
  | 0 => failure
  | fuel + 1 => do
      documentEnds fuel
      match ← peek with
      | none => return []
      | some t => do
          let announced := t = .directive || t = .documentStart
          if announced then
            let _ ← directives fuel false
            expect .documentStart
          else if !implicit then failure
          let v ← (do
            match ← peek with
            | some .directive | some .documentStart | some .documentEnd | none => return Value.null
            | _ => node true false (8 * (← get).tokens.length + 8))
          let ended ← (do
            if (← peek) = some .documentEnd then
              skip
              return true
            else if (← peek) = some .directive then failure
            else return false)
          return v :: (← documents ended fuel)

/-- The documents that a text holds. -/
def read? (text : String) : Option (List Value) := do
  let tokens ← tokens? text.toList
  let (values, _) ← (documents true (tokens.length + 2)).run ⟨tokens, []⟩
  return values

end Yaml
end FaultRelay
