import FaultRelay.Message
import FaultRelay.Settings.Basic
import FaultRelay.Text.Part

/-!
# Which queues are listened to

Queues are chosen by a pattern or, when none is given, by the endings of their names.
The queues that the relay itself sends to are never chosen.
-/

namespace FaultRelay

/-- The endings of the names of queues that hold faults. -/
def errorQueueEndings : List String := ["_error", "_skipped"]

/-- Whether a name ends as the names of queues that hold faults do. -/
def isErrorQueueName (name : String) : Bool :=
  errorQueueEndings.any fun ending => Text.endsWith ending name

/-- The names that are chosen by a pattern, if there is one, without the excluded ones. -/
structure QueueFilter where
  pattern : Option Pattern.Expr
  excluded : QueueSet

namespace QueueFilter

/-- The filter that goes by the endings alone. -/
def byEnding : QueueFilter := ⟨none, ∅⟩

/-- The filter of a pattern; there is none when the pattern cannot be read. -/
def ofPattern? (source : String) : Option QueueFilter :=
  (Pattern.Expr.parse? source).map fun pattern => ⟨some pattern, ∅⟩

/-- Excludes more names. -/
def excluding (f : QueueFilter) (names : List String) : QueueFilter :=
  { f with excluded := names.foldl (·.insert ·) f.excluded }

/-- The queues of its own that the relay must not listen to. -/
def ownQueues (s : Settings) : List String :=
  [s.errorQueue, s.returnQueue, s.poisonQueue, s.controlQueue]

/-- The filter of the settings; there is none when their pattern cannot be read. -/
def ofSettings? (s : Settings) : Option QueueFilter := do
  let chosen ← match s.queueFilter with
    | some source => ofPattern? source
    | none => some byEnding
  return chosen.excluding (ownQueues s)

/-- Whether a name is chosen. -/
def accepts (f : QueueFilter) (name : String) : Bool :=
  !f.excluded.contains name &&
    match f.pattern with
    | some pattern => pattern.isMatch name
    | none => isErrorQueueName name

end QueueFilter

/-- A listing of queues is read up to its first error. -/
abbrev Listing := List (Except DiscoveryError String)

/-- The chosen names of a listing, or its first error. -/
def QueueFilter.discover (f : QueueFilter) (listing : Listing) : Except DiscoveryError QueueSet :=
  listing.foldlM (fun found entry => do
    let name ← entry
    return if f.accepts name then found.insert name else found) ∅

end FaultRelay
