import FaultRelay.Json.Document

/-!
# The grammar of JSON documents

Which octets are a document, and what they spell.  In quotes any octet may stand but the quote,
the backslash and the control characters: whether it is UTF-8 matters only to who reads the text.

**Rules.**
* `IsNumber source`, `IsQuoted source`: what a number is, and what may stand in quotes.
* `Spelling source node`: octets that spell a value and begin and end with it.
* `Document source node`: the same with blanks around it.
-/

namespace FaultRelay
namespace Json

/-- A blank, a line feed, a carriage return or a tab. -/
def IsBlank (b : UInt8) : Prop :=
  b ∈ [0x20, 0x0A, 0x0D, 0x09]

def Blanks (source : List UInt8) : Prop :=
  ∀ b ∈ source, IsBlank b

def IsDigit (b : UInt8) : Prop :=
  0x30 ≤ b ∧ b ≤ 0x39

instance : DecidablePred IsDigit := fun _ => inferInstanceAs (Decidable (_ ∧ _))

def Digits (source : List UInt8) : Prop :=
  ∀ b ∈ source, IsDigit b

/-- A digit in base sixteen, in either case. -/
def IsHexDigit (b : UInt8) : Prop :=
  IsDigit b ∨ (0x41 ≤ b ∧ b ≤ 0x46) ∨ (0x61 ≤ b ∧ b ≤ 0x66)

/-- The digits before the point: no zero stands before another digit. -/
inductive Whole : List UInt8 → Prop
  | zero : Whole [0x30]
  | digits {b : UInt8} {ds : List UInt8} (hb : IsDigit b) (hne : b ≠ 0x30) (hds : Digits ds) :
      Whole (b :: ds)

/-- A point and digits, or nothing. -/
inductive Fraction : List UInt8 → Prop
  | none : Fraction []
  | digits {ds : List UInt8} (hne : ds ≠ []) (hds : Digits ds) : Fraction (0x2E :: ds)

/-- An `e` in either case, a sign that may be missing, and digits; or nothing. -/
inductive Exponent : List UInt8 → Prop
  | none : Exponent []
  | digits {e : UInt8} {sign ds : List UInt8} (he : e ∈ [0x65, 0x45])
      (hsign : sign ∈ [[], [0x2B], [0x2D]]) (hne : ds ≠ []) (hds : Digits ds) :
      Exponent (e :: (sign ++ ds))

inductive IsNumber : List UInt8 → Prop
  | intro {sign whole fraction exponent : List UInt8} (hsign : sign ∈ [[], [0x2D]])
      (hwhole : Whole whole) (hfraction : Fraction fraction) (hexponent : Exponent exponent) :
      IsNumber (sign ++ (whole ++ (fraction ++ exponent)))

/-- What stands between two quotes. -/
inductive IsQuoted : List UInt8 → Prop
  | nil : IsQuoted []
  | plain {b : UInt8} {rest : List UInt8} (hquote : b ≠ 0x22) (hescape : b ≠ 0x5C)
      (hcontrol : ¬b < 0x20) (hrest : IsQuoted rest) : IsQuoted (b :: rest)
  /-- One of the quote, the backslash, the slash, and `bfnrt`. -/
  | escape {b : UInt8} {rest : List UInt8}
      (hb : b ∈ [0x22, 0x5C, 0x2F, 0x62, 0x66, 0x6E, 0x72, 0x74]) (hrest : IsQuoted rest) :
      IsQuoted (0x5C :: b :: rest)
  /-- A `u` and four digits. -/
  | unit {ds rest : List UInt8} (hlength : ds.length = 4) (hds : ∀ b ∈ ds, IsHexDigit b)
      (hrest : IsQuoted rest) : IsQuoted (0x5C :: 0x75 :: (ds ++ rest))

/-- A key of a record, with blanks around it. -/
inductive Key : List UInt8 → List UInt8 → Prop
  | intro {before source after : List UInt8} (hbefore : Blanks before) (hsource : IsQuoted source)
      (hafter : Blanks after) : Key (before ++ (0x22 :: (source ++ [0x22]) ++ after)) source

mutual

/-- Octets that spell a value and begin and end with it. -/
inductive Spelling : List UInt8 → Node → Prop
  | null : Spelling [0x6E, 0x75, 0x6C, 0x6C] .null
  | true : Spelling [0x74, 0x72, 0x75, 0x65] (.bool Bool.true)
  | false : Spelling [0x66, 0x61, 0x6C, 0x73, 0x65] (.bool Bool.false)
  | number {source : List UInt8} (hsource : IsNumber source) : Spelling source (.number source)
  | quoted {source : List UInt8} (hsource : IsQuoted source) :
      Spelling (0x22 :: (source ++ [0x22])) (.quoted source)
  | emptyList {blanks : List UInt8} (hblanks : Blanks blanks) :
      Spelling (0x5B :: (blanks ++ [0x5D])) (.list [])
  | list {source : List UInt8} {items : List Node} (hitems : Items source items) :
      Spelling (0x5B :: (source ++ [0x5D])) (.list items)
  | emptyRecord {blanks : List UInt8} (hblanks : Blanks blanks) :
      Spelling (0x7B :: (blanks ++ [0x7D])) (.record [])
  | record {source : List UInt8} {members : List (List UInt8 × Node)}
      (hmembers : Members source members) :
      Spelling (0x7B :: (source ++ [0x7D])) (.record members)

/-- A value with blanks around it. -/
inductive Document : List UInt8 → Node → Prop
  | intro {before source after : List UInt8} {node : Node} (hbefore : Blanks before)
      (hsource : Spelling source node) (hafter : Blanks after) :
      Document (before ++ (source ++ after)) node

/-- One value or several, with commas between them. -/
inductive Items : List UInt8 → List Node → Prop
  | one {source : List UInt8} {node : Node} (hsource : Document source node) :
      Items source [node]
  | cons {source rest : List UInt8} {node : Node} {nodes : List Node}
      (hsource : Document source node) (hrest : Items rest nodes) :
      Items (source ++ 0x2C :: rest) (node :: nodes)

/-- One key or several with their values, with commas between them. -/
inductive Members : List UInt8 → List (List UInt8 × Node) → Prop
  | one {name source key : List UInt8} {node : Node} (hname : Key name key)
      (hsource : Document source node) : Members (name ++ 0x3A :: source) [(key, node)]
  | cons {name source rest key : List UInt8} {node : Node}
      {members : List (List UInt8 × Node)} (hname : Key name key)
      (hsource : Document source node) (hrest : Members rest members) :
      Members (name ++ 0x3A :: (source ++ 0x2C :: rest)) ((key, node) :: members)

end

theorem Items.ne_nil {source : List UInt8} {items : List Node} (h : Items source items) :
    items ≠ [] := by
  cases h <;> simp

theorem Members.ne_nil
    {source : List UInt8} {members : List (List UInt8 × Node)} (h : Members source members) :
    members ≠ [] := by
  cases h <;> simp

end Json
end FaultRelay
