import FaultRelay.Text.Hex
import FaultRelay.Yaml.Token

/-!
# Scalars of YAML documents

Plain scalars end at a colon with a blank, at a remark, or where the indentation ends.
Quoted scalars end at their quote.  In both, a line end stands for a blank and further
ones for themselves.  Block scalars are lines of one indentation.
-/

namespace FaultRelay
namespace Yaml

open Scan

/-- Breaks and blanks that are read but not yet part of a scalar. -/
structure Pause where
  blanks : List Char
  firstBreak : Bool
  moreBreaks : Nat
  leading : Bool

def Pause.none : Pause := ⟨[], false, 0, false⟩

/-- What a pause inside a scalar stands for. -/
def Pause.folded (p : Pause) : List Char :=
  if p.leading then
    if p.firstBreak && p.moreBreaks == 0 then [' '] else List.replicate p.moreBreaks '\n'
  else p.blanks

/-! ## Plain scalars -/

/-- Whether the next character may stand in a plain scalar. -/
def isPlain (inFlow : Bool) (c : Cursor) : Bool :=
  if c.head == ':' && (isBlankOrEnd (c.ahead 1) || (inFlow && isFlow (c.ahead 1))) then false
  else !(inFlow && isFlow c.head)

/-- The characters of a plain scalar up to a blank. -/
def plainRun (inFlow : Bool) : Nat → Cursor → List Char × Cursor
  | 0, c => ([], c)
  | fuel + 1, c =>
      if isBlankOrEnd c.head || !isPlain inFlow c then ([], c)
      else
        let (run, c') := plainRun inFlow fuel c.skip
        (c.head :: run, c')

/-- The blanks and breaks after a run of a plain scalar. -/
def plainPause (indent : Int) : Nat → Pause → Cursor → Option (Pause × Cursor)
  | 0, p, c => some (p, c)
  | fuel + 1, p, c =>
      if isBlank c.head then
        if !p.leading then
          plainPause indent fuel { p with blanks := p.blanks ++ [c.head] } c.skipBlank
        else if (c.column : Int) < indent && c.head == '\t' then do
          let (_, _, c) ← c.skipToEnd true (c.rest.length + 1) false false
          if isBreakOrEnd c.head then plainPause indent fuel p c else none
        else plainPause indent fuel p c.skipBlank
      else if isBreak c.head then
        if p.leading then
          plainPause indent fuel { p with moreBreaks := p.moreBreaks + 1 } c.skipBreak
        else plainPause indent fuel ⟨[], true, p.moreBreaks, true⟩ c.skipBreak
      else some (p, c)

/-- A plain scalar from a place on, and whether it ended at the start of a line. -/
def plainText (inFlow : Bool) (indent : Int) :
    Nat → Pause → Cursor → Option (List Char × Bool × Cursor)
  | 0, p, c => some ([], p.leading, c)
  | fuel + 1, p, c =>
      if c.atDocumentMark || c.head == '#' then some ([], p.leading, c)
      else if inFlow && c.head == '-' && isFlow (c.ahead 1) then none
      else
        let (run, c) := plainRun inFlow (c.rest.length + 1) c
        let text := if run.isEmpty then [] else p.folded ++ run
        let p := if run.isEmpty then p else Pause.none
        if !(isBlank c.head || isBreak c.head) then some (text, p.leading, c)
        else do
          let (p, c) ← plainPause indent (c.rest.length + 1) p c
          if !inFlow && (c.column : Int) < indent then some (text, p.leading, c)
          else
            let (more, leading, c) ← plainText inFlow indent fuel p c
            return (text ++ more, leading, c)

def plainScalar : Scan Unit := do
  saveKey
  allowKey false
  dropAllReady
  let s ← get
  let indent := s.indent + 1
  let c := s.cursor
  let inFlow := !s.flow.isEmpty
  if inFlow && (c.column : Int) < indent then failure
  let (text, leading, c) ← (plainText inFlow indent (c.rest.length + 1) Pause.none c : Option _)
  goTo c
  if leading then allowKey true
  push (.scalar .plain text)

/-! ## Quoted scalars -/

/-- A character of so many hexadecimal digits. -/
def hexEscape? (digits : Nat) (c : Cursor) : Option (Char × Cursor) := do
  let run := c.rest.take digits
  let n ← run.foldlM (fun n d => (Text.Hex.value? d).map (n * 16 + ·)) 0
  if run.length = digits ∧ n.isValidChar then
    some (Char.ofNat n, (List.range digits).foldl (fun c _ => c.skip) c)
  else none

/-- The character that an escape stands for, from behind its backslash. -/
def escape? (c : Cursor) : Option (Char × Cursor) :=
  let plain (d : Char) : Option (Char × Cursor) := some (d, c.skip)
  match c.head with
  | '0' => plain '\x00'
  | 'a' => plain '\x07'
  | 'b' => plain '\x08'
  | 't' | '\t' => plain '\t'
  | 'n' => plain '\n'
  | 'v' => plain '\x0b'
  | 'f' => plain '\x0c'
  | 'r' => plain '\r'
  | 'e' => plain '\x1b'
  | ' ' => plain ' '
  | '"' => plain '"'
  | '/' => plain '/'
  | '\\' => plain '\\'
  | 'N' => plain (Char.ofNat 0x85)
  | '_' => plain (Char.ofNat 0xA0)
  | 'L' => plain (Char.ofNat 0x2028)
  | 'P' => plain (Char.ofNat 0x2029)
  | 'x' => hexEscape? 2 c.skip
  | 'u' => hexEscape? 4 c.skip
  | 'U' => hexEscape? 8 c.skip
  | _ => none

/-- The characters of a quoted scalar up to a blank or its quote; an escaped break ends them too. -/
def quotedRun (single : Bool) : Nat → Cursor → Option (List Char × Bool × Cursor)
  | 0, c => some ([], false, c)
  | fuel + 1, c =>
      let go (d : Char) (c : Cursor) : Option (List Char × Bool × Cursor) :=
        (quotedRun single fuel c).map fun (run, broken, c) => (d :: run, broken, c)
      if isBlankOrEnd c.head then some ([], false, c)
      else if single then
        if c.head == '\'' then
          if c.ahead 1 == '\'' then go '\'' c.skip.skip else some ([], false, c)
        else go c.head c.skip
      else if c.head == '"' then some ([], false, c)
      else if c.head == '\\' then
        if isBreak (c.ahead 1) then some ([], true, c.skip.skipBreak)
        else
          match escape? c.skip with
          | some (d, c) => go d c
          | none => none
      else go c.head c.skip

/-- The blanks and breaks after a run of a quoted scalar. -/
def quotedPause (indent : Int) : Nat → Pause → Cursor → Option (Pause × Cursor)
  | 0, p, c => some (p, c)
  | fuel + 1, p, c =>
      if isBlank c.head then
        if p.leading then
          if c.head == '\t' && (c.column : Int) < indent then none
          else quotedPause indent fuel p c.skipBlank
        else quotedPause indent fuel { p with blanks := p.blanks ++ [c.head] } c.skipBlank
      else if isBreak c.head then
        if p.leading then
          quotedPause indent fuel { p with moreBreaks := p.moreBreaks + 1 } c.skipBreak
        else quotedPause indent fuel ⟨[], true, p.moreBreaks, true⟩ c.skipBreak
      else some (p, c)

/-- A quoted scalar from behind its first quote up to its last one. -/
def quotedText (single : Bool) (indent : Int) : Nat → Cursor → Option (List Char × Cursor)
  | 0, _ => none
  | fuel + 1, c =>
      if c.atDocumentMark || isEnd c.head || (c.column : Int) < indent then none
      else do
        let (run, broken, c) ← quotedRun single (c.rest.length + 1) c
        if c.head == (if single then '\'' else '"') then return (run, c.skip)
        else
          let (p, c) ←
            quotedPause indent (c.rest.length + 1) { Pause.none with leading := broken } c
          let (more, c) ← quotedText single indent fuel c
          return (run ++ p.folded ++ more, c)

/-! ## Block scalars -/

/-- What becomes of the breaks at the end of a block scalar. -/
inductive Chomping where
  | clip
  | strip
  | keep
  deriving DecidableEq, Repr

/-- Indicators behind the bar or angle of a block scalar: its chomping and indentation. -/
def blockHeader? (c : Cursor) : Option (Chomping × Nat × Cursor) :=
  let chomping (d : Char) : Option Chomping :=
    if d == '+' then some .keep else if d == '-' then some .strip else none
  let digit (d : Char) : Option Nat := if d.isDigit then some (d.toNat - 48) else none
  match chomping c.head, digit c.head with
  | some ch, _ =>
      match digit (c.ahead 1) with
      | some 0 => none
      | some n => some (ch, n, c.skip.skip)
      | none => some (ch, 0, c.skip)
  | none, some 0 => none
  | none, some n =>
      match chomping (c.ahead 1) with
      | some ch => some (ch, n, c.skip.skip)
      | none => some (.clip, n, c.skip)
  | none, none => some (.clip, 0, c)

/-- Passes indentation up to a column and empty lines; counts the lines. -/
def blockIndent (column : Option Nat) : Nat → Nat → Nat → Cursor → Nat × Nat × Cursor
  | 0, deepest, breaks, c => (deepest, breaks, c)
  | fuel + 1, deepest, breaks, c =>
      if c.head == ' ' && column.all (c.column < ·) then
        blockIndent column fuel deepest breaks c.skipBlank
      else
        let deepest := max deepest c.column
        if isBreak c.head then blockIndent column fuel deepest (breaks + 1) c.skipBreak
        else (deepest, breaks, c)

/-- What is left of a line. -/
def lineText : Nat → Cursor → List Char × Cursor
  | 0, c => ([], c)
  | fuel + 1, c =>
      if isBreakOrEnd c.head then ([], c)
      else
        let (text, c') := lineText fuel (if isBlank c.head then c.skipBlank else c.skip)
        (c.head :: text, c')

/-- The lines of a block scalar that have been read. -/
structure BlockText where
  text : List Char
  broken : Bool
  breaks : Nat
  blankLine : Bool

/--
Adds the breaks between two lines; one break between two lines of text is a blank when
folded.
-/
def BlockText.join (t : BlockText) (literal blank : Bool) : List Char :=
  if !literal && t.broken && !t.blankLine && !blank then
    t.text ++ (if t.breaks == 0 then [' '] else List.replicate t.breaks '\n')
  else t.text ++ (if t.broken then ['\n'] else []) ++ List.replicate t.breaks '\n'

def blockLines (literal : Bool) (column : Nat) : Nat → BlockText → Cursor → BlockText × Cursor
  | 0, t, c => (t, c)
  | fuel + 1, t, c =>
      if c.column != column || isEnd c.head || (column == 0 && c.atDocumentMark) then (t, c)
      else
        let blank := isBlank c.head
        let start := t.join literal blank
        let (line, c) := lineText (c.rest.length + 1) c
        if isEnd c.head then (⟨start ++ line, false, 0, blank⟩, c)
        else
          let (_, breaks, c) := blockIndent (some column) (c.rest.length + 1) 0 0 c.skipBreak
          blockLines literal column fuel ⟨start ++ line, true, breaks, blank⟩ c

/-- A block scalar from behind its bar or angle. -/
def blockText (literal : Bool) (indent : Int) (start : Cursor) : Option (List Char × Cursor) := do
  let (chomping, increment, c) ← blockHeader? start
  let (_, _, c) ← c.skipToEnd true (c.rest.length + 1) false false
  if !isBreakOrEnd c.head then none
  let headBreak := isBreak c.head
  let c := if headBreak then c.skipBreak else c
  if c.head == '\t' then none
  let fixed : Nat := if increment = 0 then 0 else (max indent 0).toNat + increment
  let (deepest, breaks, c) :=
    blockIndent (if fixed = 0 then none else some fixed) (c.rest.length + 1) 0 0 c
  let column :=
    if fixed = 0 then
      let least := max deepest (indent + 1).toNat
      if indent > 0 then max least 1 else least
    else fixed
  if isEnd c.head then
    let first : List Char := if headBreak then ['\n'] else []
    let text := match chomping with
      | .strip => []
      | .clip => if c.line == start.line then [] else first
      | .keep =>
          if c.line == start.line then []
          else if breaks == 0 then first
          else List.replicate breaks '\n'
    return (text, c)
  if c.column < column && (c.column : Int) > indent then none
  let (t, c) := blockLines literal column (c.rest.length + 1) ⟨[], false, breaks, false⟩ c
  let tail : List Char := match chomping with
    | .strip => []
    | _ => (if t.broken then ['\n'] else [])
        ++ (if isEnd c.head && (max indent 1) ≤ (c.column : Int) then ['\n'] else [])
  let kept : List Char := if chomping == .keep then List.replicate t.breaks '\n' else []
  return (t.text ++ tail ++ kept, c)

def blockScalar (literal : Bool) : Scan Unit := do
  saveKey
  allowKey true
  skip
  dropAllReady
  let s ← get
  let (text, c) ← (blockText literal s.indent s.cursor : Option _)
  goTo c
  push (.scalar .block text)

end Yaml
end FaultRelay
