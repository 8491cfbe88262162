/-!
# Lexemes of YAML documents, and the state of their scanner

The scanner stands at a place of a text and knows the open indentations, the open
brackets, and for each level of brackets the place at which a key may have begun.  A
key shows itself only at the colon behind it; the lexeme that announces it is then put
where the key began.
-/

namespace FaultRelay
namespace Yaml

/-- How a scalar is written. -/
inductive Style where
  | plain
  | quotedText
  | block
  deriving DecidableEq, Repr

/-- A lexeme. -/
inductive Token where
  | directive
  | documentStart
  | documentEnd
  | blockSequence
  | blockMapping
  | blockEnd
  | flowSequence
  | flowSequenceEnd
  | flowMapping
  | flowMappingEnd
  | blockEntry
  | flowEntry
  | key
  | value
  | alias (name : List Char)
  | anchor (name : List Char)
  | tag (handle suffix : List Char)
  | scalar (style : Style) (text : List Char)
  deriving DecidableEq, Repr

/-- A place in a text; `fresh` while only blanks stand before it on its line. -/
structure Cursor where
  rest : List Char
  index : Nat
  line : Nat
  column : Nat
  fresh : Bool

/-- A place at which a key may have begun. -/
structure KeyMark where
  possible : Bool
  required : Bool
  token : Nat
  index : Nat
  line : Nat
  column : Nat

/-- An indentation that is left when this one ends; `block` when a lexeme tells its end. -/
structure Indent where
  outer : Int
  block : Bool

/-- The state of the scanner. -/
structure Scanner where
  cursor : Cursor
  tokens : Array Token
  indent : Int
  indents : List Indent
  keys : List KeyMark
  keyAllowed : Bool
  flow : List Bool
  adjacentValue : Option Nat

/-- A step of the scanner, which may refuse the text. -/
abbrev Scan := StateT Scanner Option

/-- The mark where no key has begun. -/
def KeyMark.none : KeyMark := ⟨false, false, 0, 0, 0, 0⟩

def Scanner.start (text : List Char) : Scanner :=
  ⟨⟨text, 0, 0, 0, true⟩, #[], -1, [], [KeyMark.none], true, [], none⟩

/-! ## Characters -/

/-- The mark of the end of a text. -/
def endMark : Char := '\x00'

def isBlank (c : Char) : Bool := c == ' ' || c == '\t'

def isBreak (c : Char) : Bool := c == '\n' || c == '\r'

def isEnd (c : Char) : Bool := c == endMark

def isBreakOrEnd (c : Char) : Bool := isBreak c || isEnd c

def isBlankOrEnd (c : Char) : Bool := isBlank c || isBreakOrEnd c

/-- A character that has a meaning between brackets. -/
def isFlow (c : Char) : Bool := ",[]\x7b\x7d".toList.contains c

/-- The next character, or the mark of the end. -/
def Cursor.head (c : Cursor) : Char := c.rest.headD endMark

/-- A later character, or the mark of the end. -/
def Cursor.ahead (c : Cursor) (n : Nat) : Char := c.rest.getD n endMark

/-- Whether three of one character and a blank come next. -/
def Cursor.isTriple (c : Cursor) (mark : Char) : Bool :=
  c.ahead 0 == mark && c.ahead 1 == mark && c.ahead 2 == mark && isBlankOrEnd (c.ahead 3)

/-- Whether the start or the end of a document is announced here. -/
def Cursor.atDocumentMark (c : Cursor) : Bool :=
  c.column == 0 && (c.isTriple '-' || c.isTriple '.')

/-! ## Steps over characters -/

namespace Cursor

/-- Passes a blank. -/
def skipBlank (c : Cursor) : Cursor :=
  { c with rest := c.rest.tail, index := c.index + 1, column := c.column + 1 }

/-- Passes a character that is no blank. -/
def skip (c : Cursor) : Cursor :=
  { c.skipBlank with fresh := false }

/-- Passes the end of a line. -/
def skipBreak (c : Cursor) : Cursor :=
  let size := if c.ahead 0 == '\r' && c.ahead 1 == '\n' then 2 else 1
  { rest := c.rest.drop size, index := c.index + size, line := c.line + 1, column := 0,
    fresh := true }

/-- Passes what is left of a line. -/
def skipLine : Nat → Cursor → Cursor
  | 0, c => c
  | fuel + 1, c => if isBreakOrEnd c.head then c else skipLine fuel c.skip

/--
Passes blanks and a remark; a remark has a blank before it.  Tells whether tabs and
blanks were passed.
-/
def skipToEnd (tabs : Bool) : Nat → Bool → Bool → Cursor → Option (Bool × Bool × Cursor)
  | 0, sawTab, sawBlank, c => some (sawTab, sawBlank, c)
  | fuel + 1, sawTab, sawBlank, c =>
      if c.head == ' ' then skipToEnd tabs fuel sawTab true c.skipBlank
      else if c.head == '\t' && tabs then skipToEnd tabs fuel true sawBlank c.skipBlank
      else if c.head == '#' then
        if sawTab || sawBlank then some (sawTab, sawBlank, skipLine fuel c) else none
      else some (sawTab, sawBlank, c)

end Cursor

namespace Scan

/-- The place of the scanner. -/
def cursor : Scan Cursor := return (← get).cursor

/-- Goes to another place. -/
def goTo (c : Cursor) : Scan Unit := modify fun s => { s with cursor := c }

/-- Passes one character. -/
def skip : Scan Unit := do goTo (← cursor).skip

/-- Passes so many characters. -/
def skipMany : Nat → Scan Unit
  | 0 => return ()
  | n + 1 => do
      skip
      skipMany n

/--
Passes blanks and a remark up to the end of the line; tells whether tabs and blanks were
passed.
-/
def skipToEnd (tabs : Bool) : Scan (Bool × Bool) := do
  let c ← cursor
  let (sawTab, sawBlank, c) ← (c.skipToEnd tabs (c.rest.length + 1) false false : Option _)
  goTo c
  return (sawTab, sawBlank)

/-- Adds a lexeme. -/
def push (t : Token) : Scan Unit := modify fun s => { s with tokens := s.tokens.push t }

/-- Puts a lexeme before others. -/
def insert (place : Nat) (t : Token) : Scan Unit :=
  modify fun s => { s with tokens := s.tokens.insertIdxIfInBounds place t }

/-- Tells whether a key may begin at the next lexeme. -/
def allowKey (allowed : Bool) : Scan Unit := modify fun s => { s with keyAllowed := allowed }

/-- Takes back an indentation that was kept ready and is not needed. -/
def dropReady (s : Scanner) (column : Int) : Scanner :=
  match s.indents with
  | i :: rest =>
      if s.indent ≤ column && !i.block then { s with indent := i.outer, indents := rest } else s
  | [] => s

/-- Opens a block at a column, unless it is open. -/
def openBlock (column : Nat) (place : Option Nat) (t : Token) : Scan Unit := do
  if (← get).flow.isEmpty then
    modify fun s => dropReady s column
    if (← get).indent < column then
      modify fun s =>
        { s with indents := ⟨s.indent, true⟩ :: s.indents, indent := column }
      match place with
      | some n => insert n t
      | none => push t

/-- Closes the blocks that are indented more than a column. -/
def closeBlocks (column : Int) : Scan Unit := do
  modify fun s =>
    if s.flow.isEmpty then close column s.indents.length s else s
where
  /-- Closes at most so many blocks. -/
  close (column : Int) : Nat → Scanner → Scanner
    | 0, s => s
    | n + 1, s =>
        match s.indents with
        | i :: rest =>
            if column < s.indent then
              close column n
                { s with
                  indent := i.outer
                  indents := rest
                  tokens := if i.block then s.tokens.push .blockEnd else s.tokens }
            else s
        | [] => s

/-- Keeps an indentation of one column ready for what stands behind an indicator. -/
def readyColumn : Scan Unit := modify fun s =>
  match s.flow, s.indents with
  | [], i :: _ =>
      if i.block then { s with indents := ⟨s.indent, false⟩ :: s.indents, indent := s.indent + 1 }
      else s
  | _, _ => s

/-- Takes back all indentations that were kept ready. -/
def dropAllReady : Scan Unit := modify fun s =>
  match s.indents.takeWhile (!·.block) with
  | [] => s
  | ready => { s with
      indent := (ready.getLast?.map (·.outer)).getD s.indent
      indents := s.indents.drop ready.length }

/-- Marks this place as one at which a key may begin. -/
def saveKey : Scan Unit := modify fun s =>
  if s.keyAllowed then
    let required := s.flow.isEmpty && s.indent == s.cursor.column
      && (s.indents.head?.any (·.block))
    { s with keys := ⟨true, required, s.tokens.size, s.cursor.index, s.cursor.line,
        s.cursor.column⟩ :: s.keys.tail }
  else s

/-- Forgets the key that may have begun; refused where there must be one. -/
def dropKey : Scan Unit := do
  match (← get).keys with
  | k :: rest =>
      if k.possible && k.required then failure
      set { (← get) with keys := { k with possible := false } :: rest }
  | [] => return ()

/-- Forgets keys that end on another line than they began. -/
def dropStaleKeys : Scan Unit := do
  let s ← get
  let stale (k : KeyMark) : Bool := k.possible && s.flow.isEmpty
    && (k.line < s.cursor.line || k.index + 1024 < s.cursor.index)
  if s.keys.any fun k => stale k && k.required then failure
  set { s with keys := s.keys.map fun k => if stale k then { k with possible := false } else k }

end Scan

end Yaml
end FaultRelay
