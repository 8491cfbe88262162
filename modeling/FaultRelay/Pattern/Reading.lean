import FaultRelay.Decimal.Range
import FaultRelay.Pattern.Basic
import FaultRelay.Text.Hex

/-!
# Reading patterns

Patterns are read in one pass.  Flags that are set inside a group hold until the group
ends.  A pattern that is not well formed, or that could match half a character, is
refused.
-/

namespace FaultRelay
namespace Pattern

open Text

/-- How the characters of a pattern are meant. -/
structure Flags where
  anyCase : Bool
  multiLine : Bool
  dotMatchesLineEnd : Bool
  unicode : Bool
  spaced : Bool
  crlf : Bool
  deriving Repr

/-- The flags at the start of a pattern. -/
def Flags.initial : Flags := ⟨false, false, false, true, false, false⟩

/-- A pattern that is partly read. -/
structure Cursor where
  rest : List Char
  flags : Flags
  names : List (List Char)

/-- A reader of patterns. -/
abbrev Reader := StateT Cursor Option

namespace Reader

/-- The characters that are left. -/
def rest : Reader (List Char) := return (← get).rest

/-- Goes on with other characters. -/
def resume (cs : List Char) : Reader Unit := modify fun c => { c with rest := cs }

/-- The flags that hold. -/
def flags : Reader Flags := return (← get).flags

end Reader

open Reader

/-- A text without the blanks and remarks in front of it. -/
def skipSpace : List Char → Bool → List Char
  | [], _ => []
  | c :: rest, true => skipSpace rest (c != '\n')
  | c :: rest, false =>
      if isBlank c then skipSpace rest false
      else if c = '#' then skipSpace rest true
      else c :: rest

/-- Leaves out blanks and remarks where these have no meaning. -/
def space : Reader Unit := do
  if (← flags).spaced then resume (skipSpace (← rest) false)

def next : Reader Char := do
  match ← rest with
  | c :: cs => do
      resume cs
      return c
  | [] => failure

/-- A character that must come next. -/
def expect (c : Char) : Reader Unit := do
  if (← next) = c then return () else failure

/-- A decimal number below 2³², blanks around it. -/
def decimal : Reader Nat := do
  let cs := trimLeft (← rest)
  let digits := cs.takeWhile Char.isDigit
  let n := digits.foldl (fun n c => n * 10 + (c.toNat - 48)) 0
  if digits.isEmpty || n > Decimal.greatest 32 then failure
  resume (trimLeft (cs.drop digits.length))
  return n

/-- The bounds of a counted repetition, from behind its opening brace. -/
def bounds : Reader (Nat × Option Nat) := do
  space
  let least ← decimal
  match ← next with
  | '\x7d' => return (least, some least)
  | ',' => do
      space
      match ← rest with
      | '\x7d' :: cs => do
          resume cs
          return (least, none)
      | _ => do
          let most ← decimal
          expect '\x7d'
          if least ≤ most then return (least, some most) else failure
  | _ => failure

/-- A character by its number, when there is one. -/
def charOf? (n : Nat) : Option Char :=
  if n.isValidChar then some (Char.ofNat n) else none

/-- The number that hexadecimal digits stand for. -/
def hexValue? (cs : List Char) : Option Nat :=
  cs.foldlM (fun n c => (Hex.value? c).map (n * 16 + ·)) 0

/-- So many hexadecimal digits, blanks between them where these have no meaning. -/
def hexRun : Nat → Reader (List Char)
  | 0 => return []
  | n + 1 => do
      space
      let c ← next
      return c :: (← hexRun n)

/-- Hexadecimal digits up to the closing brace. -/
def hexBraced (spaced : Bool) : List Char → Option (List Char × List Char)
  | [] => none
  | '\x7d' :: rest => some ([], rest)
  | c :: rest =>
      if spaced && isBlank c then hexBraced spaced rest
      else (hexBraced spaced rest).map fun (digits, rest) => (c :: digits, rest)

/-- A character given by its number in so many digits, or in any number between braces. -/
def hexChar (digits : Nat) : Reader Char := do
  space
  match ← rest with
  | '\x7b' :: cs => do
      let (run, cs) ← (hexBraced (← flags).spaced cs : Option _)
      resume cs
      if run.isEmpty || run.length > 12 then failure
      charOf? (← (hexValue? run : Option Nat))
  | _ => do
      let run ← hexRun digits
      charOf? (← (hexValue? run : Option Nat))

/-- What stands for one character or for a set, or asks for a place. -/
inductive Primitive where
  | char (c : Char) (byte : Bool)
  | set (s : CharSet)
  | look (l : Look)

/-- A set or what is left without it. -/
def negatedIf (negated : Bool) (s : CharSet) : CharSet :=
  if negated then s.compl else s

/-- A set by the name of a property, from behind the letter that announces it. -/
def propertySet (negated : Bool) : Reader CharSet := do
  if !(← flags).unicode then failure
  space
  match ← next with
  | '\x7b' => do
      let cs ← rest
      let name := cs.takeWhile (· != '\x7d')
      resume (cs.drop name.length)
      expect '\x7d'
      let key := name.takeWhile fun c => c != '=' && c != ':'
      let value := name.drop (key.length + 1)
      if key.length = name.length then return negatedIf negated (← (CharSet.named? name : Option _))
      else
        match key.reverse with
        | '!' :: k => return negatedIf (!negated) (← (CharSet.valued? k.reverse value : Option _))
        | _ => return negatedIf negated (← (CharSet.valued? key value : Option _))
  | c => do
      if c = '\\' then failure
      return negatedIf negated (← (CharSet.named? [c] : Option _))

/-- The word characters under some flags. -/
def wordSet (f : Flags) : CharSet :=
  if f.unicode then CharSet.word else CharSet.asciiWord

/-- The set of a letter behind a backslash. -/
def letterSet? (f : Flags) (c : Char) : Option CharSet :=
  let base := match c.toLower with
    | 'd' => some (if f.unicode then CharSet.category 'N' 'd' else CharSet.ranges [('0', '9')])
    | 's' => some (if f.unicode then CharSet.blank else CharSet.asciiBlank)
    | 'w' => some (wordSet f)
    | _ => none
  base.map (negatedIf c.isUpper)

/-- A word boundary, which may say in braces which kind it is. -/
def boundary (word : CharSet) : Reader Look := do
  match ← rest with
  | '\x7b' :: cs => do
      let name := cs.takeWhile (· != '\x7d')
      let close := cs.drop name.length
      match String.ofList name, close with
      | "start", _ :: cs => do
          resume cs
          return .wordStart word
      | "end", _ :: cs => do
          resume cs
          return .wordEnd word
      | "start-half", _ :: cs => do
          resume cs
          return .halfStart word
      | "end-half", _ :: cs => do
          resume cs
          return .halfEnd word
      | _, _ => return .boundary word
  | _ => return .boundary word

/-- What stands behind a backslash. -/
def escape : Reader Primitive := do
  let f ← flags
  let c ← next
  match c with
  | 'x' => return .char (← hexChar 2) true
  | 'u' => return .char (← hexChar 4) true
  | 'U' => return .char (← hexChar 8) true
  | 'p' => return .set (← propertySet false)
  | 'P' => return .set (← propertySet true)
  | 'a' => return .char '\x07' false
  | 'f' => return .char '\x0c' false
  | 't' => return .char '\t' false
  | 'n' => return .char '\n' false
  | 'r' => return .char '\r' false
  | 'v' => return .char '\x0b' false
  | 'A' => return .look .start
  | 'z' => return .look .finish
  | 'b' => return .look (← boundary (wordSet f))
  | 'B' => return .look (.noBoundary (wordSet f))
  | '<' => return .look (.wordStart (wordSet f))
  | '>' => return .look (.wordEnd (wordSet f))
  | c =>
      match letterSet? f c with
      | some s => return .set s
      | none => if c.toNat < 0x80 && !c.isAlphanum then return .char c false else failure

/-- Whether a set holds octets that are no character of their own. -/
def holdsHigh (s : CharSet) : Bool :=
  (List.range 128).any fun i => s.holds (Char.ofNat (128 + i))

/-- A set as it is meant under some flags; without Unicode it may hold ASCII only. -/
def checkedSet? (f : Flags) (s : CharSet) : Option CharSet :=
  if !f.unicode && holdsHigh s then none else some s

/-- A set with both cases of its letters, where case has no meaning. -/
def withCase (f : Flags) (s : CharSet) : CharSet :=
  if f.anyCase then
    if f.unicode then s.folded
    else
      let ascii := CharSet.range 0 0x7F
      CharSet.union s (CharSet.inter ascii (CharSet.folded (CharSet.inter s ascii)))
  else s

/-- A character as a pattern. -/
def charExpr? (f : Flags) (c : Char) (byte : Bool) : Option Expr :=
  if byte && !f.unicode && c.toNat ≥ 0x80 then none
  else some (.chars (withCase f (CharSet.single c)))

/-- One item of a set: a character that may begin a range, or a set. -/
def setItem : Reader Primitive := do
  match ← next with
  | '\\' => do
      match ← escape with
      | .look _ => failure
      | p => return p
  | c => do
      if !(← flags).unicode && c.toNat ≥ 0x80 then failure
      return .char c false

/-- A set by its name between colons, from behind the opening bracket. -/
def namedSet? (cs : List Char) : Option (CharSet × List Char) :=
  match cs with
  | ':' :: cs =>
      let (negated, cs) := match cs with
        | '^' :: cs => (true, cs)
        | _ => (false, cs)
      let name := cs.takeWhile (· != ':')
      match cs.drop name.length with
      | ':' :: ']' :: rest =>
          (CharSet.asciiNamed? (String.ofList name)).map fun s => (negatedIf negated s, rest)
      | _ => none
  | _ => none

/-- An operation between two sets that stands before the one that is read. -/
inductive SetOp where
  | first
  | inter (left : CharSet)
  | diff (left : CharSet)
  | symDiff (left : CharSet)

/-- The set that an operation makes of its two sides. -/
def SetOp.apply (f : Flags) (right : CharSet) : SetOp → CharSet
  | .first => right
  | .inter left => .inter (withCase f left) (withCase f right)
  | .diff left => .diff (withCase f left) (withCase f right)
  | .symDiff left => .symDiff (withCase f left) (withCase f right)

/-- The hyphens at the start of a set, and a closing bracket that stands for itself. -/
def leading : Nat → CharSet → Bool → Reader CharSet
  | 0, s, _ => return s
  | fuel + 1, s, empty => do
      space
      match ← rest with
      | '-' :: cs => do
          resume cs
          leading fuel (s.union (CharSet.single '-')) false
      | ']' :: cs => do
          if empty then
            resume cs
            return s.union (CharSet.single ']')
          else return s
      | _ => return s

/--
The start of a set behind its bracket: whether it is a complement, and what stands for
itself.
-/
def setStart (fuel : Nat) : Reader (Bool × CharSet) := do
  space
  let negated ← (do
    match ← rest with
    | '^' :: cs => do
        resume cs
        return true
    | _ => return false)
  return (negated, ← leading fuel CharSet.none true)

/-- A character or range, from its first character on. -/
def setRange : Reader CharSet := do
  let first ← setItem
  space
  match first, ← rest with
  | .char a _, '-' :: cs => do
      let ahead := if (← flags).spaced then skipSpace cs false else cs
      match ahead with
      | ']' :: _ | '-' :: _ => return CharSet.single a
      | [] => failure
      | _ => do
          resume ahead
          match ← setItem with
          | .char b _ => if a ≤ b then return CharSet.range a.toNat b.toNat else failure
          | _ => failure
  | .char a _, _ => return CharSet.single a
  | .set s, '-' :: cs => do
      let ahead := if (← flags).spaced then skipSpace cs false else cs
      match ahead with
      | ']' :: _ | '-' :: _ => return s
      | _ => failure
  | .set s, _ => return s
  | .look _, _ => failure

/-- A set in brackets, from behind the opening one; `fuel` bounds what is left to read. -/
def bracketed : Nat → Reader CharSet
  | 0 => failure
  | fuel + 1 => do
      let (negated, s) ← setStart fuel
      let inner ← items fuel .first s
      return negatedIf negated (withCase (← flags) inner)
where
  /-- The items of a set up to its closing bracket. -/
  items : Nat → SetOp → CharSet → Reader CharSet
    | 0, _, _ => failure
    | fuel + 1, op, s => do
        let f ← flags
        space
        match ← rest with
        | [] => failure
        | '[' :: cs => do
            match namedSet? cs with
            | some (named, cs) => do
                resume cs
                items fuel op (s.union named)
            | none => do
                resume cs
                let (negated, start) ← setStart fuel
                let inner ← items fuel .first start
                items fuel op (s.union (negatedIf negated (withCase f inner)))
        | ']' :: cs => do
            resume cs
            return op.apply f s
        | '&' :: '&' :: cs => do
            resume cs
            items fuel (.inter (op.apply f s)) CharSet.none
        | '-' :: '-' :: cs => do
            resume cs
            items fuel (.diff (op.apply f s)) CharSet.none
        | '~' :: '~' :: cs => do
            resume cs
            items fuel (.symDiff (op.apply f s)) CharSet.none
        | _ => do
            let item ← setRange
            items fuel op (s.union item)

/-- Sets or clears one flag. -/
def Flags.set? (f : Flags) (c : Char) (on : Bool) : Option Flags :=
  match c with
  | 'i' => some { f with anyCase := on }
  | 'm' => some { f with multiLine := on }
  | 's' => some { f with dotMatchesLineEnd := on }
  | 'u' => some { f with unicode := on }
  | 'x' => some { f with spaced := on }
  | 'R' => some { f with crlf := on }
  | 'U' => some f
  | _ => none

/-- Flags up to a colon or the closing bracket, which is left out; a flag may occur once. -/
def readFlags (f : Flags) (on : Bool) (last : Option Char) (seen : List Char) :
    List Char → Option (Flags × Char × List Char)
  | [] => none
  | c :: rest =>
      if c = ':' ∨ c = ')' then
        if last = some '-' then none else some (f, c, rest)
      else if c = '-' then
        if on then readFlags f false (some c) seen rest else none
      else if seen.contains c then none
      else do readFlags (← f.set? c on) on (some c) (c :: seen) rest

/-- A character with which the name of a group may begin. -/
def beginsName (c : Char) : Bool :=
  c == '_' || CharSet.alphabetic.holds c

/-- A character that the name of a group may hold. -/
def isNameChar (c : Char) : Bool :=
  beginsName c || "_.[]".toList.contains c || (Text.category c).group == 'N'

/-- The name of a group up to the closing angle; no two groups have one name. -/
def groupName : Reader Unit := do
  let cs ← rest
  let name := cs.takeWhile (· != '>')
  resume (cs.drop name.length)
  expect '>'
  let legal := match name with
    | c :: more => beginsName c && more.all isNameChar
    | [] => false
  if !legal || (← get).names.contains name then failure
  modify fun c => { c with names := name :: c.names }

/-- What an opening bracket begins. -/
inductive Opening where
  | group (flags : Flags)
  | flags (flags : Flags)

/-- What stands behind an opening bracket. -/
def opening : Reader Opening := do
  let f ← flags
  space
  match ← rest with
  | '?' :: '=' :: _ | '?' :: '!' :: _ | '?' :: '<' :: '=' :: _ | '?' :: '<' :: '!' :: _ => failure
  | '?' :: 'P' :: '<' :: cs | '?' :: '<' :: cs => do
      resume cs
      groupName
      return .group f
  | '?' :: ')' :: _ => failure
  | '?' :: cs => do
      let (g, closing, cs) ← (readFlags f true none [] cs : Option _)
      resume cs
      return if closing = ':' then .group g else .flags g
  | _ => return .group f

/-- A sequence of patterns, the last one first; a flag setting is no pattern. -/
def joined (items : List (Option Expr)) : Expr :=
  items.reverse.filterMap id |>.foldr .seq .empty

/-- The pattern of a dot. -/
def dot? (f : Flags) : Option Expr :=
  if !f.unicode then none
  else if f.dotMatchesLineEnd then some (.chars CharSet.all)
  else if f.crlf then
    some (.chars (CharSet.diff CharSet.all (CharSet.ranges [('\n', '\n'), ('\r', '\r')])))
  else some (.chars (CharSet.diff CharSet.all (CharSet.single '\n')))

/-- A pattern of one character, from its first character on. -/
def primitive (fuel : Nat) : Reader Expr := do
  let f ← flags
  match ← next with
  | '.' => dot? f
  | '^' => return .look (if f.multiLine then .lineStart f.crlf else .start)
  | '$' => return .look (if f.multiLine then .lineEnd f.crlf else .finish)
  | '[' => do
      let s ← bracketed fuel
      return .chars (← (checkedSet? f s : Option _))
  | '\\' => do
      match ← escape with
      | .char c byte => charExpr? f c byte
      | .set s => return .chars (← (checkedSet? f (withCase f s) : Option _))
      | .look l => return .look l
  | c => charExpr? f c false

/-- Applies a repetition to the last pattern of a sequence. -/
def repeated (least : Nat) (most : Option Nat) :
    List (Option Expr) → Reader (List (Option Expr))
  | some e :: items => do
      match ← rest with
      | '?' :: cs => resume cs
      | _ => pure ()
      return some (.times least most e) :: items
  | _ => failure

/--
The alternatives of a group up to its end; `done` holds those before the one that is
read, of which `items` have been read.
-/
def alternatives : Nat → Nat → List Expr → List (Option Expr) → Reader Expr
  | 0, _, _, _ => failure
  | fuel + 1, depth, done, items => do
      space
      let finish := (joined items :: done).reverse
      let whole := match finish with
        | [] => Expr.empty
        | e :: more => more.foldl .either e
      match ← rest with
      | [] => if depth = 0 then return whole else failure
      | ')' :: cs => do
          if depth = 0 then failure
          resume cs
          return whole
      | '|' :: cs => do
          resume cs
          alternatives fuel depth (joined items :: done) []
      | '*' :: cs => do
          resume cs
          alternatives fuel depth done (← repeated 0 none items)
      | '+' :: cs => do
          resume cs
          alternatives fuel depth done (← repeated 1 none items)
      | '?' :: cs => do
          resume cs
          alternatives fuel depth done (← repeated 0 (some 1) items)
      | '\x7b' :: cs => do
          resume cs
          if (items.head?.bind id).isNone then failure
          let (least, most) ← bounds
          space
          alternatives fuel depth done (← repeated least most items)
      | '(' :: cs => do
          resume cs
          let outer ← flags
          match ← opening with
          | .flags f => do
              modify fun c => { c with flags := f }
              alternatives fuel depth done (none :: items)
          | .group f => do
              if depth ≥ 250 then failure
              modify fun c => { c with flags := f }
              let inner ← alternatives fuel (depth + 1) [] []
              modify fun c => { c with flags := outer }
              alternatives fuel depth done (some inner :: items)
      | _ => do
          let e ← primitive fuel
          alternatives fuel depth done (some e :: items)

/-- The greatest number of steps that a pattern may have. -/
def sizeLimit : Nat := 300000

/-- The pattern that a text gives. -/
def Expr.parse? (text : String) : Option Expr := do
  let cs := text.toList
  let (e, _) ← (alternatives (2 * cs.length + 2) 0 [] []).run ⟨cs, Flags.initial, []⟩
  if e.size ≤ sizeLimit then some e else none

end Pattern
end FaultRelay
