/-!
# Running what waits for time

Something that moves by itself does so until it waits, and knows the first time it waits
for.  Its clock stands still while it moves, and goes straight to that time when it
waits.  Times are in nanoseconds; a time that is waited for is reached at the next whole
millisecond.
-/

namespace FaultRelay

/-- Something that moves by itself and waits for times on a clock. -/
class Clocked (S : Type) where
  /-- The next thing that happens without waiting. -/
  next? : S → Option S
  /-- The first time that is waited for. -/
  due? : S → Option Nat
  clock : S → Nat
  setClock : Nat → S → S

namespace Schedule

/-- The nanoseconds of a millisecond. -/
def resolution : Nat := 1000000

/-- When a time that is waited for is reached. -/
def reached (time : Nat) : Nat :=
  (time + (resolution - 1)) / resolution * resolution

variable {S : Type} [Clocked S]

/-- Sets the clock to a time, unless it is later already. -/
def advance (time : Nat) (s : S) : S :=
  Clocked.setClock (max (Clocked.clock s) time) s

/--
Lets something move up to a time, or until it is as wanted, for at most a number of
steps.  A step is one movement or one move of the clock.
-/
def runUntil (wanted : S → Bool) (time : Nat) : Nat → S → S
  | 0, s => s
  | steps + 1, s =>
      if wanted s then s
      else match Clocked.next? s, Clocked.due? s with
        | some s, _ => runUntil wanted time steps s
        | none, some due =>
            if reached due ≤ time then runUntil wanted time steps (advance (reached due) s)
            else advance time s
        | none, none => advance time s

/-- How many steps are followed at most. -/
def maxSteps : Nat := 1000000

/-- Lets something move for a number of nanoseconds. -/
def wait (duration : Nat) (s : S) : S :=
  runUntil (fun _ => false) (Clocked.clock s + duration) maxSteps s

/-- Lets something move until it waits. -/
def settle (s : S) : S :=
  wait 0 s

end Schedule
end FaultRelay
