import FaultRelay.Text.Hex

/-!
# JSON values and their compact form

A record keeps the order of its members.  The compact form has no blanks; in a text
only the quote, the backslash and the control characters are escaped.
-/

namespace FaultRelay
namespace Json

open Text

/-- A value to be written. -/
inductive Value where
  | null
  | bool (b : Bool)
  | int (n : Int)
  | text (s : String)
  | list (items : List Value)
  | record (members : List (String × Value))
  deriving Repr

/-- A character inside a quoted text. -/
def escapeChar (c : Char) : List Char :=
  match c with
  | '"' => ['\\', '"']
  | '\\' => ['\\', '\\']
  | '\n' => ['\\', 'n']
  | '\r' => ['\\', 'r']
  | '\t' => ['\\', 't']
  | c =>
      if c = Char.ofNat 8 then ['\\', 'b']
      else if c = Char.ofNat 12 then ['\\', 'f']
      else if c.toNat < 0x20 then '\\' :: 'u' :: Hex.padded 4 c.toNat
      else [c]

/-- A text between quotes. -/
def quote (s : String) : List Char :=
  '"' :: (s.toList.flatMap escapeChar ++ ['"'])

mutual

/-- The compact form. -/
def Value.chars : Value → List Char
  | .null => "null".toList
  | .bool true => "true".toList
  | .bool false => "false".toList
  | .int n => (toString n).toList
  | .text s => quote s
  | .list items => '[' :: (itemChars items ++ [']'])
  | .record members => '\x7b' :: (memberChars members ++ ['\x7d'])

/-- Items with commas between them. -/
def itemChars : List Value → List Char
  | [] => []
  | [v] => v.chars
  | v :: rest => v.chars ++ ',' :: itemChars rest

/-- Members with commas between them. -/
def memberChars : List (String × Value) → List Char
  | [] => []
  | [(key, v)] => quote key ++ ':' :: v.chars
  | (key, v) :: rest => quote key ++ ':' :: (v.chars ++ ',' :: memberChars rest)

end

/-- The compact form as text. -/
def Value.render (v : Value) : String :=
  String.ofList v.chars

end Json
end FaultRelay
