import FaultRelay.Json.Token

/-!
# JSON documents as they are written

A `Node` is a document with its lists and records in place and its numbers and texts
still in source form.  A reader takes from it what it asks for, by the type that it
asks for; everything it does not ask for is only required to be well formed.
-/

namespace FaultRelay
namespace Json

open Text

/-- A document in source form. -/
inductive Node where
  | null
  | bool (b : Bool)
  | number (source : List UInt8)
  | quoted (source : List UInt8)
  | list (items : List Node)
  | record (members : List (List UInt8 × Node))
  deriving Repr

/-- A list or record that is not closed yet; what it holds is kept newest first. -/
inductive Frame where
  | list (items : List Node)
  | record (members : List (List UInt8 × Node)) (key : List UInt8)

/-- What may come next in a document. -/
inductive Expect where
  | value
  | valueOrEnd
  | key (members : List (List UInt8 × Node))
  | keyOrEnd
  | colon (members : List (List UInt8 × Node)) (key : List UInt8)
  | commaOrEnd
  | nothing (document : Node)

/-- A document that is partly read: the open lists and records, innermost first. -/
structure Reading where
  frames : List Frame
  expect : Expect

/-- Puts a finished value where it belongs. -/
def Reading.place (frames : List Frame) (value : Node) : Reading :=
  match frames with
  | [] => ⟨[], .nothing value⟩
  | .list items :: outer => ⟨.list (value :: items) :: outer, .commaOrEnd⟩
  | .record members key :: outer => ⟨.record ((key, value) :: members) key :: outer, .commaOrEnd⟩

/-- A lexeme that is or begins a value. -/
def Reading.value? (frames : List Frame) : Token → Option Reading
  | .null => some (place frames .null)
  | .bool b => some (place frames (.bool b))
  | .number source => some (place frames (.number source))
  | .quoted source => some (place frames (.quoted source))
  | .beginList => some ⟨.list [] :: frames, .valueOrEnd⟩
  | .beginRecord => some ⟨frames, .keyOrEnd⟩
  | _ => none

/-- One lexeme. -/
def Reading.step? (r : Reading) (token : Token) : Option Reading :=
  match r.expect, r.frames, token with
  | .value, frames, token => value? frames token
  | .valueOrEnd, .list items :: outer, .endList => some (place outer (.list items.reverse))
  | .valueOrEnd, frames, token => value? frames token
  | .keyOrEnd, frames, .endRecord => some (place frames (.record []))
  | .keyOrEnd, frames, .quoted key => some ⟨frames, .colon [] key⟩
  | .key members, frames, .quoted key => some ⟨frames, .colon members key⟩
  | .colon members key, frames, .colon => some ⟨.record members key :: frames, .value⟩
  | .commaOrEnd, .list items :: outer, .comma => some ⟨.list items :: outer, .value⟩
  | .commaOrEnd, .list items :: outer, .endList => some (place outer (.list items.reverse))
  | .commaOrEnd, .record members _ :: outer, .comma => some ⟨outer, .key members⟩
  | .commaOrEnd, .record members _ :: outer, .endRecord =>
      some (place outer (.record members.reverse))
  | _, _, _ => none

/-- The document that the remaining lexemes complete. -/
def Reading.run? : Reading → List Token → Option Node
  | ⟨[], .nothing document⟩, [] => some document
  | _, [] => none
  | r, token :: rest => do (← r.step? token).run? rest

/-- The document that a sequence of octets spells. -/
def read? (octets : List UInt8) : Option Node := do
  Reading.run? ⟨[], .value⟩ (← tokens? octets)

namespace Node

def text? : Node → Option String
  | .quoted source => unquote? source
  | _ => none

/-- A text, or the absence of one. -/
def optionalText? : Node → Option (Option String)
  | .null => some none
  | node => node.text?.map some

def texts? : Node → Option (List String)
  | .list items => items.mapM text?
  | _ => none

/-- The number that a run of decimal digits stands for. -/
def digitsValue (source : List UInt8) : Nat :=
  source.foldl (fun n b => n * 10 + (b.toNat - 48)) 0

/-- A whole number from zero up to a bound, written as digits alone. -/
def natural? (bound : Nat) : Node → Option Nat
  | .number source =>
      if source.all (fun b => 48 ≤ b && b ≤ 57) && digitsValue source ≤ bound then
        some (digitsValue source)
      else none
  | _ => none

def textRecord? : Node → Option (List (String × String))
  | .record members => members.mapM fun (key, value) => do
      return (← unquote? key, ← value.text?)
  | _ => none

/-- The place of a name among the spellings of the fields of a record. -/
def fieldIndex? (spellings : List (List String)) (name : String) : Option Nat :=
  spellings.findIdx? (·.contains name)

/-- Puts a value at a place that is still free. -/
def fill? : List (Option Node) → Nat → Node → Option (List (Option Node))
  | [], _, _ => none
  | none :: rest, 0, value => some (some value :: rest)
  | some _ :: _, 0, _ => none
  | slot :: rest, n + 1, value => (fill? rest n value).map (slot :: ·)

/-- The members of a record put into the places of its known fields. -/
def placeMembers? (spellings : List (List String)) :
    List (List UInt8 × Node) → List (Option Node) → Option (List (Option Node))
  | [], slots => some slots
  | (key, value) :: rest, slots => do
      match fieldIndex? spellings (← unquote? key) with
      | none => placeMembers? spellings rest slots
      | some i => placeMembers? spellings rest (← fill? slots i value)

/--
The known fields of a record, each given by its spellings.  A field may occur once
and unknown members are skipped.  A list is read as the fields in their order; it may
leave out the last ones.
-/
def fields? (spellings : List (List String)) : Node → Option (List (Option Node))
  | .record members => placeMembers? spellings members (spellings.map fun _ => none)
  | .list items =>
      if items.length ≤ spellings.length then
        some (items.map some ++ List.replicate (spellings.length - items.length) none)
      else none
  | _ => none

end Node

end Json
end FaultRelay
