import FaultRelay.Yaml.Token.Scalar

/-!
# Cutting a YAML document into lexemes

A character at the place of the scanner decides which lexeme begins there; indentations
that end before that place are closed first.  Lexemes are cut until the document ends or
something stands there that begins no lexeme.
-/

namespace FaultRelay
namespace Yaml

open Scan

/-- Passes blanks, remarks and line ends between lexemes. -/
def skipBetween : Nat → Scan Unit
  | 0 => return ()
  | fuel + 1 => do
      let s ← get
      let c := s.cursor
      if c.head == '\t' && !s.indents.isEmpty && c.fresh && (c.column : Int) < s.indent then
        let _ ← skipToEnd true
        if !isBreakOrEnd (← cursor).head then failure
        skipBetween fuel
      else if isBlank c.head then
        goTo c.skipBlank
        skipBetween fuel
      else if isBreak c.head then
        goTo c.skipBreak
        if s.flow.isEmpty then allowKey true
        skipBetween fuel
      else if c.head == '#' then
        goTo (Cursor.skipLine (c.rest.length + 1) c)
        skipBetween fuel
      else return ()

/-- Passes what stands between lexemes. -/
def skipToNext : Scan Unit := do
  skipBetween (2 * (← cursor).rest.length + 1)

/-- A quoted scalar, with nothing behind it that could not follow one. -/
def quotedScalar (single : Bool) : Scan Unit := do
  saveKey
  allowKey false
  let s ← get
  let start := s.cursor
  let (text, c) ← (quotedText single s.indent (start.rest.length + 1) start.skip : Option _)
  goTo c
  let _ ← skipToEnd true
  let c ← cursor
  let inFlow := !s.flow.isEmpty
  let follows := isBreakOrEnd c.head
    || (inFlow && (c.head == ',' || c.head == ']' || c.head == '\x7d'))
    || (c.head == ':' && (inFlow || start.line == c.line))
  if !follows then failure
  push (.scalar .quotedText text)
  skipToNext
  modify fun s => { s with adjacentValue := some s.cursor.index }

/-- An opening bracket; `sequence` tells its kind. -/
def openFlow (sequence : Bool) : Scan Unit := do
  saveKey
  readyColumn
  modify fun s => { s with flow := sequence :: s.flow, keys := KeyMark.none :: s.keys }
  allowKey true
  skip
  let _ ← skipToEnd true
  push (if sequence then .flowSequence else .flowMapping)

/-- A closing bracket. -/
def closeFlow (sequence : Bool) : Scan Unit := do
  dropKey
  modify fun s =>
    if s.flow.isEmpty then s else { s with flow := s.flow.tail, keys := s.keys.tail }
  allowKey false
  skip
  let _ ← skipToEnd true
  modify fun s => { s with
    adjacentValue := if s.flow.isEmpty then s.adjacentValue else some s.cursor.index }
  push (if sequence then .flowSequenceEnd else .flowMappingEnd)

/-- A comma between brackets. -/
def flowEntry : Scan Unit := do
  dropKey
  allowKey true
  skip
  let _ ← skipToEnd true
  push .flowEntry

/-- A hyphen before an item of a block sequence. -/
def blockEntry : Scan Unit := do
  let s ← get
  if !s.flow.isEmpty || !s.keyAllowed then failure
  skip
  openBlock s.cursor.column none .blockSequence
  let (sawTab, _) ← skipToEnd true
  let c ← cursor
  if sawTab && c.head == '-' && isBlankOrEnd (c.ahead 1) then failure
  if isBreak c.head || isFlow c.head then readyColumn
  dropKey
  allowKey true
  push .blockEntry

/-- A question mark before a key. -/
def explicitKey : Scan Unit := do
  let s ← get
  if s.flow.isEmpty then
    if !s.keyAllowed then failure
    openBlock s.cursor.column none .blockMapping
  dropKey
  allowKey (← get).flow.isEmpty
  skip
  let _ ← skipToEnd false
  if (← cursor).head == '\t' then failure
  push .key

/-- A colon before a value. -/
def mappingValue : Scan Unit := do
  let s ← get
  let c := s.cursor
  skip
  if (← cursor).head == '\t' then
    let (_, sawBlank) ← skipToEnd true
    let d := (← cursor).head
    if !sawBlank && (d == '-' || d.isAlphanum || d == '_') then failure
  match s.keys with
  | k :: rest =>
      if k.possible then
        if s.flow.head? == some true && k.line < c.line then failure
        insert k.token .key
        openBlock k.column (some k.token) .blockMapping
        readyColumn
        modify fun s => { s with keys := { k with possible := false } :: rest }
        allowKey false
      else
        if s.flow.isEmpty then
          if !s.keyAllowed then failure
          openBlock c.column none .blockMapping
        readyColumn
        allowKey (← get).flow.isEmpty
  | [] => failure
  push .value

/-- A character of the name of an anchor. -/
def isAnchorChar (c : Char) : Bool :=
  !isBlankOrEnd c && !isFlow c

def anchor (isAlias : Bool) : Scan Unit := do
  saveKey
  allowKey false
  skip
  let name := (← cursor).rest.takeWhile isAnchorChar
  if name.isEmpty then failure
  skipMany name.length
  push (if isAlias then .alias name else .anchor name)

/-- A tag: a handle between exclamation marks, or none, and a suffix. -/
def tag : Scan Unit := do
  saveKey
  allowKey false
  let c ← cursor
  let run := c.rest.takeWhile fun d => !isBlankOrEnd d
  let inFlow := !(← get).flow.isEmpty
  let text := match run with
    | '!' :: '<' :: _ => run
    | _ => if inFlow then run.takeWhile (!isFlow ·) else run
  skipMany text.length
  match text with
  | '!' :: '<' :: more =>
      match more.reverse with
      | '>' :: uri => push (.tag [] uri.reverse)
      | _ => failure
  | '!' :: '!' :: suffix => push (.tag "tag:yaml.org,2002:".toList suffix)
  | '!' :: suffix => push (.tag ['!'] suffix)
  | _ => failure

/-- A line that announces how the document is written. -/
def directive : Scan Unit := do
  closeBlocks (-1)
  dropKey
  allowKey false
  let c ← cursor
  goTo (Cursor.skipLine (c.rest.length + 1) c)
  let name := (c.rest.drop 1).takeWhile (!isBlankOrEnd ·)
  if name = "YAML".toList || name = "TAG".toList then push .directive

/-- The start or the end of a document. -/
def documentMark (t : Token) : Scan Unit := do
  closeBlocks (-1)
  dropKey
  allowKey false
  skipMany 3
  push t
  if t = .documentEnd then
    let _ ← skipToEnd true
    if !isBreakOrEnd (← cursor).head then failure

/-- One lexeme that begins with a character. -/
def lexeme (c : Cursor) : Scan Unit := do
  let s ← get
  let inFlow := !s.flow.isEmpty
  let next := c.ahead 1
  match c.head with
  | '[' => openFlow true
  | '\x7b' => openFlow false
  | ']' => closeFlow true
  | '\x7d' => closeFlow false
  | ',' => flowEntry
  | '*' => anchor true
  | '&' => anchor false
  | '!' => tag
  | '\'' => quotedScalar true
  | '"' => quotedScalar false
  | '-' => if isBlankOrEnd next then blockEntry else plainScalar
  | '?' =>
      if isBlankOrEnd next then explicitKey else plainScalar
  | ':' =>
      if isBlankOrEnd next || (inFlow && (isFlow next || s.adjacentValue == some c.index)) then
        mappingValue
      else plainScalar
  | '|' => if inFlow then plainScalar else blockScalar true
  | '>' => if inFlow then plainScalar else blockScalar false
  | '%' | '@' | '\x60' => failure
  | _ => plainScalar

/-- All lexemes of a text. -/
def lexemes : Nat → Scan Unit
  | 0 => failure
  | fuel + 1 => do
      skipToNext
      dropStaleKeys
      closeBlocks (← cursor).column
      let c ← cursor
      if isEnd c.head then do
        modify fun s =>
          { s with cursor := { s.cursor with line := s.cursor.line + 1, column := 0 } }
        closeBlocks (-1)
        dropKey
      else if c.column == 0 && c.head == '%' then do
        directive
        lexemes fuel
      else if c.column == 0 && c.isTriple '-' then do
        documentMark .documentStart
        lexemes fuel
      else if c.column == 0 && c.isTriple '.' then do
        documentMark .documentEnd
        lexemes fuel
      else if (c.column : Int) < (← get).indent then failure
      else do
        lexeme c
        lexemes fuel

/-- The lexemes of a text. -/
def tokens? (text : List Char) : Option (List Token) := do
  let (_, s) ← (lexemes (text.length + 2)).run (Scanner.start text)
  return s.tokens.toList

end Yaml
end FaultRelay
