import FaultRelay.Pattern.CharSet

/-!
# Patterns and where they match

A pattern is matched at a place of a text and ends at some places of it.  Only whether
a pattern matches anywhere is asked for, so that the order of preference among several
matches has no meaning here.
-/

namespace FaultRelay
namespace Pattern

/-- A condition on a place between characters. -/
inductive Look where
  | start
  | finish
  | lineStart (crlf : Bool)
  | lineEnd (crlf : Bool)
  | boundary (word : CharSet)
  | noBoundary (word : CharSet)
  | wordStart (word : CharSet)
  | wordEnd (word : CharSet)
  | halfStart (word : CharSet)
  | halfEnd (word : CharSet)
  deriving Repr

/-- A pattern. -/
inductive Expr where
  | empty
  | chars (set : CharSet)
  | look (l : Look)
  | seq (a b : Expr)
  | either (a b : Expr)
  | times (least : Nat) (most : Option Nat) (a : Expr)
  deriving Repr

/-- The characters beside a place. -/
structure Place where
  before : Option Char
  after : Option Char

/-- The place before a character of a text. -/
def placeAt (text : Array Char) (i : Nat) : Place :=
  ⟨if i = 0 then none else text[i - 1]?, text[i]?⟩

/-- Whether a character is there and belongs to a set. -/
def isIn (set : CharSet) (c : Option Char) : Bool :=
  c.any set.holds

/-- Whether a condition holds at a place. -/
def Look.holds (p : Place) : Look → Bool
  | start => p.before.isNone
  | finish => p.after.isNone
  | lineStart false => p.before.isNone || p.before == some '\n'
  | lineEnd false => p.after.isNone || p.after == some '\n'
  | lineStart true =>
      p.before.isNone || p.before == some '\n' || (p.before == some '\r' && p.after != some '\n')
  | lineEnd true =>
      p.after.isNone || p.after == some '\r' || (p.after == some '\n' && p.before != some '\r')
  | boundary word => isIn word p.before != isIn word p.after
  | noBoundary word => isIn word p.before == isIn word p.after
  | wordStart word => !isIn word p.before && isIn word p.after
  | wordEnd word => isIn word p.before && !isIn word p.after
  | halfStart word => !isIn word p.before
  | halfEnd word => !isIn word p.after

/-- Adds numbers to a list that does not hold them yet. -/
def addNew (seen more : List Nat) : List Nat :=
  more.foldl (fun seen i => if seen.contains i then seen else seen ++ [i]) seen

/-- The places after exactly so many steps; ends when there are none. -/
def after (step : Nat → List Nat) : Nat → List Nat → List Nat
  | 0, places => places
  | _ + 1, [] => []
  | n + 1, places => after step n (places.foldl (fun seen i => addNew seen (step i)) [])

/-- The places after at most so many steps. -/
def within (step : Nat → List Nat) : Nat → List Nat → List Nat
  | 0, places => places
  | n + 1, places =>
      let more := places.foldl (fun seen i => addNew seen (step i)) places
      if more.length = places.length then places else within step n more

/-- The places of a text at which a match that begins at a place can end. -/
def Expr.ends (text : Array Char) : Expr → Nat → List Nat
  | empty, i => [i]
  | chars set, i => if isIn set text[i]? then [i + 1] else []
  | look l, i => if l.holds (placeAt text i) then [i] else []
  | seq a b, i => (a.ends text i).foldl (fun seen j => addNew seen (b.ends text j)) []
  | either a b, i => addNew (a.ends text i) (b.ends text i)
  | times least most a, i =>
      let step := a.ends text
      let more := match most with
        | some most => min (most - least) (text.size + 1)
        | none => text.size + 1
      within step more (after step least [i])

/-- Whether a pattern matches somewhere in a text. -/
def Expr.isMatch (e : Expr) (text : String) : Bool :=
  let cs := text.toList.toArray
  (List.range (cs.size + 1)).any fun i => !(e.ends cs i).isEmpty

/-- How many steps a pattern has with its repetitions written out. -/
def Expr.size : Expr → Nat
  | empty | chars _ | look _ => 1
  | seq a b | either a b => a.size + b.size
  | times least most a => (max 1 (max least (most.getD 0))) * a.size

end Pattern
end FaultRelay
