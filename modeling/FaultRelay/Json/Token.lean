import FaultRelay.Text.Utf8
import FaultRelay.Text.Hex

/-!
# Lexemes of JSON documents

A document is cut into lexemes by one pass over its octets.  Numbers and quoted
texts keep their source octets: what a reader never looks at need not be in range,
nor paired surrogates, nor even UTF-8.

`unquote?` reads the octets between two quotes as text.
-/

namespace FaultRelay
namespace Json

open Text

/-- A lexeme. -/
inductive Token where
  | beginList
  | endList
  | beginRecord
  | endRecord
  | comma
  | colon
  | null
  | bool (b : Bool)
  | number (source : List UInt8)
  | quoted (source : List UInt8)
  deriving DecidableEq, Repr

/-- How far a number has come. -/
inductive NumberPart where
  | sign
  | zero
  | digits
  | point
  | fraction
  | exponent
  | exponentSign
  | exponentDigits
  deriving DecidableEq, Repr

/-- A number may end here. -/
def NumberPart.complete : NumberPart → Bool
  | .zero | .digits | .fraction | .exponentDigits => true
  | _ => false

/-- What one more character makes of a number, when it belongs to it. -/
def NumberPart.next? (part : NumberPart) (c : Char) : Option NumberPart :=
  match part with
  | .sign => if c = '0' then some .zero else if c.isDigit then some .digits else none
  | .zero => if c = '.' then some .point else if c = 'e' ∨ c = 'E' then some .exponent else none
  | .digits =>
      if c.isDigit then some .digits
      else if c = '.' then some .point
      else if c = 'e' ∨ c = 'E' then some .exponent
      else none
  | .point => if c.isDigit then some .fraction else none
  | .fraction =>
      if c.isDigit then some .fraction
      else if c = 'e' ∨ c = 'E' then some .exponent
      else none
  | .exponent =>
      if c = '+' ∨ c = '-' then some .exponentSign
      else if c.isDigit then some .exponentDigits
      else none
  | .exponentSign | .exponentDigits => if c.isDigit then some .exponentDigits else none

/-- Where the lexer stands between two octets; source octets are kept newest first. -/
inductive Scan where
  | between
  | word (rest : List Char) (token : Token)
  | number (part : NumberPart) (source : List UInt8)
  | quoted (source : List UInt8)
  | escape (source : List UInt8)
  | escapeDigits (owed : Nat) (source : List UInt8)

/-- An octet that stands between lexemes or begins one, and the lexeme that it is. -/
def Scan.start? (b : UInt8) : Option (Option Token × Scan) :=
  match Char.ofNat b.toNat with
  | ' ' | '\n' | '\r' | '\t' => some (none, .between)
  | '[' => some (some .beginList, .between)
  | ']' => some (some .endList, .between)
  | '\x7b' => some (some .beginRecord, .between)
  | '\x7d' => some (some .endRecord, .between)
  | ',' => some (some .comma, .between)
  | ':' => some (some .colon, .between)
  | 'n' => some (none, .word ['u', 'l', 'l'] .null)
  | 't' => some (none, .word ['r', 'u', 'e'] (.bool true))
  | 'f' => some (none, .word ['a', 'l', 's', 'e'] (.bool false))
  | '"' => some (none, .quoted [])
  | '-' => some (none, .number .sign [b])
  | '0' => some (none, .number .zero [b])
  | c => if c.isDigit then some (none, .number .digits [b]) else none

/-- One octet: the lexemes it completes and where the lexer stands then. -/
def Scan.step? (b : UInt8) : Scan → Option (List Token × Scan)
  | .between => (start? b).map fun (t, s) => (t.toList, s)
  | .word [] _ => none
  | .word [c] token => if Char.ofNat b.toNat = c then some ([token], .between) else none
  | .word (c :: rest) token => if Char.ofNat b.toNat = c then some ([], .word rest token) else none
  | .number part source =>
      match part.next? (Char.ofNat b.toNat) with
      | some part => some ([], .number part (b :: source))
      | none =>
          if part.complete then
            (start? b).map fun (t, s) => (.number source.reverse :: t.toList, s)
          else none
  | .quoted source =>
      if b = 0x22 then some ([.quoted source.reverse], .between)
      else if b = 0x5C then some ([], .escape (b :: source))
      else if b < 0x20 then none
      else some ([], .quoted (b :: source))
  | .escape source =>
      match Char.ofNat b.toNat with
      | '"' | '\\' | '/' | 'b' | 'f' | 'n' | 'r' | 't' => some ([], .quoted (b :: source))
      | 'u' => some ([], .escapeDigits 4 (b :: source))
      | _ => none
  | .escapeDigits owed source =>
      if (Hex.value? (Char.ofNat b.toNat)).isSome then
        if owed ≤ 1 then some ([], .quoted (b :: source))
        else some ([], .escapeDigits (owed - 1) (b :: source))
      else none

/-- The lexemes that the end of a document completes. -/
def Scan.finish? : Scan → Option (List Token)
  | .between => some []
  | .number part source => if part.complete then some [.number source.reverse] else none
  | _ => none

/-- The lexemes of a document, from where the lexer stands. -/
def Scan.run? : Scan → List UInt8 → Option (List Token)
  | s, [] => s.finish?
  | s, b :: rest => do
      let (tokens, s) ← s.step? b
      return tokens ++ (← s.run? rest)

/-- The lexemes of a document. -/
def tokens? (document : List UInt8) : Option (List Token) :=
  Scan.between.run? document

/-- The four digits at the start of a list of octets as a number. -/
def escapeUnit? : List UInt8 → Option (Nat × List UInt8)
  | a :: b :: c :: d :: rest => do
      let x ← Hex.value? (Char.ofNat a.toNat)
      let y ← Hex.value? (Char.ofNat b.toNat)
      let z ← Hex.value? (Char.ofNat c.toNat)
      let w ← Hex.value? (Char.ofNat d.toNat)
      return (((x * 16 + y) * 16 + z) * 16 + w, rest)
  | _ => none

/-- The character that one or two units of sixteen bits stand for. -/
def pairUnits? (high : Nat) (rest : List UInt8) : Option (Char × List UInt8) :=
  if 0xDC00 ≤ high ∧ high ≤ 0xDFFF then none
  else if 0xD800 ≤ high ∧ high ≤ 0xDBFF then
    match rest with
    | 0x5C :: 0x75 :: rest => do
        let (low, rest) ← escapeUnit? rest
        if 0xDC00 ≤ low ∧ low ≤ 0xDFFF then
          some (Char.ofNat (0x10000 + (high - 0xD800) * 0x400 + (low - 0xDC00)), rest)
        else none
    | _ => none
  else some (Char.ofNat high, rest)

/-- The octets that the source of a quoted text stands for; at most `fuel` of its pieces. -/
def unescape? : Nat → List UInt8 → Option (List UInt8)
  | _, [] => some []
  | 0, _ :: _ => none
  | fuel + 1, 0x5C :: b :: rest =>
      let plain (octet : UInt8) := (unescape? fuel rest).map (octet :: ·)
      match Char.ofNat b.toNat with
      | 'b' => plain 8
      | 'f' => plain 12
      | 'n' => plain 10
      | 'r' => plain 13
      | 't' => plain 9
      | 'u' => do
          let (high, rest) ← escapeUnit? rest
          let (c, rest) ← pairUnits? high rest
          return Utf8.encode c.toString ++ (← unescape? fuel rest)
      | _ => plain b
  | fuel + 1, b :: rest => (unescape? fuel rest).map (b :: ·)

/-- The text that the source of a quoted text stands for. -/
def unquote? (source : List UInt8) : Option String := do
  Utf8.decode? (← unescape? source.length source)

end Json
end FaultRelay
