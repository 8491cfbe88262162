import FaultRelay.Log
import FaultRelay.Message

/-!
# What the relay knows about itself

The latest log entries, and the queues that were found together with those of them that
are not listened to.
-/

namespace FaultRelay

/-- What is reported with every heartbeat. -/
structure Diagnostics where
  /-- The latest log entries, oldest first. -/
  logs : List LogEntry := []
  errorQueues : QueueSet := ∅
  notFound : QueueSet := ∅

namespace Diagnostics

/-- How many log entries are kept. -/
def capacity : Nat := 100

/-- Keeps one more log entry; the oldest ones make room for it. -/
def addLog (d : Diagnostics) (entry : LogEntry) : Diagnostics :=
  let logs := d.logs ++ [entry]
  { d with logs := logs.drop (logs.length - capacity) }

/-- Keeps what has to be kept of an event. -/
def observe (d : Diagnostics) (now : Time.Instant) (e : LogEvent) : Diagnostics :=
  if e.kept then d.addLog (.ofEvent now e) else d

/-- Replaces the set of queues that were found. -/
def setErrorQueues (d : Diagnostics) (queues : QueueSet) : Diagnostics :=
  { d with errorQueues := queues }

/-- Adds a queue that is not listened to. -/
def addNotFound (d : Diagnostics) (queue : String) : Diagnostics :=
  { d with notFound := d.notFound.insert queue }

/-- Forgets which queues are not listened to. -/
def clearNotFound (d : Diagnostics) : Diagnostics :=
  { d with notFound := ∅ }

/-- The queues that were found, each with whether it is listened to. -/
def ingestion (d : Diagnostics) : List (String × Bool) :=
  d.errorQueues.toList.map fun queue => (queue, !d.notFound.contains queue)

/-- One of the changes that make up a publication; each is seen on its own. -/
inductive Change where
  | setErrorQueues (queues : QueueSet)
  | clearNotFound
  | addNotFound (queue : String)

/-- The diagnostics after a change. -/
def apply (d : Diagnostics) : Change → Diagnostics
  | .setErrorQueues queues => d.setErrorQueues queues
  | .clearNotFound => d.clearNotFound
  | .addNotFound queue => d.addNotFound queue

/-- The changes that publish the queues that were found; `idle` ones are not listened to. -/
def publication (discovered idle : QueueSet) : List Change :=
  .setErrorQueues discovered :: .clearNotFound :: idle.toList.map .addNotFound

/-- Publishes the queues that were found; `idle` ones are not listened to. -/
def publish (d : Diagnostics) (discovered idle : QueueSet) : Diagnostics :=
  (publication discovered idle).foldl apply d

end Diagnostics
end FaultRelay
