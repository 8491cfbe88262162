import FaultRelay.Message

/-!
# The queues that were found

The chosen queues of the last scan, and those of them that did not exist when the
receivers were started.
-/

namespace FaultRelay

/-- What is known of the queues since the receivers were started. -/
structure Topology where
  discovered : QueueSet
  notFound : QueueSet

namespace Topology

/-- The queues with a receiver. -/
def listening (t : Topology) : QueueSet :=
  t.discovered.filter fun queue => !t.notFound.contains queue

/--
Whether the receivers have to be started anew: for another set of queues, or because
queues that did not exist do now.
-/
def requiresRestart (t : Topology) (discovered recovered : QueueSet) : Bool :=
  t.discovered.toList != discovered.toList || !recovered.isEmpty

end Topology
end FaultRelay
