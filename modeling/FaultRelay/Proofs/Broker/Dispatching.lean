import FaultRelay.Broker.Memory
import Mathlib.Tactic.Common

/-!
# What a list of operations leaves in a broker in memory

A message is refused because the broker is unavailable, because refusals of its queue are left, or
because there is no such queue, in this order.  Of a list of operations those before the first one
that is refused are stored; only a refusal that was asked for is used up.

**Results.**
* `Memory.push_stored`: what becomes of a single operation.
* `Memory.storing_append`: operations are stored one after the other.
* `Memory.dispatch_stores_accepted`: what a list of operations leaves behind, and when it is sent
  to its end.
-/

namespace FaultRelay
namespace Memory

/-- Why a message is refused. -/
inductive Refusal where
  | unavailable
  | forced
  | missing
  deriving DecidableEq, Repr

/-- How a refusal is reported. -/
def Refusal.error (queue : String) : Refusal → TransportError
  | unavailable => .connection "in-memory broker unavailable"
  | forced => .dispatch queue "forced send failure"
  | missing => .queueNotFound queue

/-- Why the next message to a queue is refused, if it is. -/
def refusal? (m : Memory) (queue : String) : Option Refusal :=
  if m.unavailable then some .unavailable
  else if 0 < m.refusals[queue]?.getD 0 then some .forced
  else if m.contains queue then none
  else some .missing

/-- The broker after a message to a queue was refused: a refusal that was asked for is used up. -/
def afterRefusal (m : Memory) (queue : String) : Refusal → Memory
  | .forced => { m with refusals := m.refusals.modify queue (· - 1) }
  | .unavailable | .missing => m

/-- What operations bring to a queue, in their order. -/
def brought (queue : String) (ops : List Operation) : List Stored :=
  (ops.filter fun op => op.destination = queue).map fun op =>
    { nativeId := op.properties["Message-ID"]?.getD op.id
      headers := op.headers
      properties := op.properties
      body := op.body }

/-- The broker with the messages of operations at the ends of their queues. -/
def storing (m : Memory) (ops : List Operation) : Memory :=
  { m with queues := m.queues.map fun queue messages => messages ++ brought queue ops }

/-- Every operation is accepted when those before it have been stored. -/
def AcceptsInTurn (m : Memory) (ops : List Operation) : Prop :=
  ∀ (sent : List Operation) (op : Operation) (unsent : List Operation),
    ops = sent ++ op :: unsent → (m.storing sent).refusal? op.destination = none

/-! ### Storing operations one after the other -/

section Storing

variable (m : Memory)

theorem brought_append (queue : String) (before after : List Operation) :
    brought queue (before ++ after) = brought queue before ++ brought queue after := by
  simp only [brought, List.filter_append, List.map_append]

theorem brought_singleton (queue : String) (op : Operation) :
    brought queue [op] = if op.destination = queue then [op.stored] else [] := by
  by_cases hqueue : op.destination = queue
  · simp only [brought, List.filter_cons, hqueue, decide_true, if_true, List.filter_nil,
      List.map_cons, List.map_nil]
    rfl
  · simp [brought, hqueue]

theorem getElem?_storing (ops : List Operation) (queue : String) :
    (m.storing ops).queues[queue]? = m.queues[queue]?.map (· ++ brought queue ops) :=
  Std.ExtTreeMap.getElem?_map

@[simp] theorem storing_nil : m.storing [] = m := by
  have hqueues : (m.storing []).queues = m.queues := by
    refine Std.ExtTreeMap.ext_getElem? fun queue => ?_
    rw [getElem?_storing]
    cases m.queues[queue]? <;> simp [brought]
  exact congrArg (fun queues => { m with queues := queues }) hqueues

theorem storing_append (before after : List Operation) :
    m.storing (before ++ after) = (m.storing before).storing after := by
  have hqueues : (m.storing (before ++ after)).queues =
      ((m.storing before).storing after).queues := by
    refine Std.ExtTreeMap.ext_getElem? fun queue => ?_
    rw [getElem?_storing, getElem?_storing, getElem?_storing, Option.map_map, brought_append]
    congr 1
    funext messages
    simp
  exact congrArg (fun queues => { m with queues := queues }) hqueues

theorem acceptsInTurn_nil : m.AcceptsInTurn [] := by
  intro sent op unsent hops
  simp at hops

theorem acceptsInTurn_cons {m : Memory} {op : Operation} {rest : List Operation} :
    m.AcceptsInTurn (op :: rest) ↔
      m.refusal? op.destination = none ∧ (m.storing [op]).AcceptsInTurn rest := by
  constructor
  · intro h
    refine ⟨?_, fun sent op' unsent hrest => ?_⟩
    · simpa using h [] op rest rfl
    · rw [← storing_append]
      exact h ([op] ++ sent) op' unsent (by rw [hrest]; rfl)
  · rintro ⟨hop, hrest⟩ sent op' unsent hops
    cases sent with
    | nil =>
        cases hops
        simpa using hop
    | cons first sent =>
        cases hops
        have hstored := hrest sent op' unsent rfl
        rw [← storing_append] at hstored
        exact hstored

end Storing

/-! ### Sending -/

section Sending

variable (m : Memory)

/-- A refusal that is used up is one less. -/
theorem afterRefusal_forced {queue : String} {times : Nat}
    (htimes : m.refusals[queue]? = some (times + 1)) :
    m.afterRefusal queue .forced = { m with refusals := m.refusals.insert queue times } := by
  have hrefusals : m.refusals.modify queue (· - 1) = m.refusals.insert queue times := by
    refine Std.ExtTreeMap.ext_getElem? fun name => ?_
    rw [Std.ExtTreeMap.getElem?_modify, Std.ExtTreeMap.getElem?_insert, htimes]
    rfl
  exact congrArg (fun refusals => { m with refusals := refusals }) hrefusals

/-- A message to a queue that exists is stored at its end. -/
theorem storing_singleton (op : Operation) :
    m.storing [op] =
      { m with queues := m.queues.modify op.destination (· ++ [op.stored]) } := by
  have hqueues : (m.storing [op]).queues =
      m.queues.modify op.destination (· ++ [op.stored]) := by
    refine Std.ExtTreeMap.ext_getElem? fun queue => ?_
    rw [getElem?_storing, Std.ExtTreeMap.getElem?_modify, brought_singleton]
    by_cases hqueue : op.destination = queue
    · simp [hqueue]
    · simp [hqueue]
  exact congrArg (fun queues => { m with queues := queues }) hqueues

/-- An operation is stored, or refused for the reason there is. -/
theorem push_stored (op : Operation) :
    m.push op.destination op.stored =
      match m.refusal? op.destination with
      | none => (.ok (), m.storing [op])
      | some why => (.error (why.error op.destination), m.afterRefusal op.destination why) := by
  unfold push
  split
  · next hunavailable =>
      rw [refusal?, if_pos hunavailable]
      rfl
  · next havailable =>
      split
      · next times htimes =>
          have hforced : 0 < m.refusals[op.destination]?.getD 0 := by simp [htimes]
          rw [refusal?, if_neg havailable, if_pos hforced]
          exact congrArg _ (afterRefusal_forced m htimes).symm
      · next hother =>
          have hunforced : ¬0 < m.refusals[op.destination]?.getD 0 := by
            cases hrefusals : m.refusals[op.destination]? with
            | none => simp
            | some times =>
                cases times with
                | zero => simp
                | succ times => exact absurd hrefusals (hother times)
          rw [refusal?, if_neg havailable, if_neg hunforced]
          split
          · exact congrArg _ (storing_singleton m op).symm
          · rfl

/-- A first operation that is accepted is stored, and the others follow. -/
theorem dispatch_cons_accepted {m : Memory} {op : Operation}
    (haccepted : m.refusal? op.destination = none) (rest : List Operation) :
    dispatch (op :: rest) m = dispatch rest (m.storing [op]) := by
  rw [dispatch, push_stored, haccepted]

/-- Nothing is sent after an operation that is refused. -/
theorem dispatch_cons_refused {m : Memory} {op : Operation} {why : Refusal}
    (hrefused : m.refusal? op.destination = some why) (rest : List Operation) :
    dispatch (op :: rest) m =
      (.error (why.error op.destination), m.afterRefusal op.destination why) := by
  rw [dispatch, push_stored, hrefused]

/-- Operations that are accepted in turn are sent to their end, whatever follows them. -/
theorem dispatch_append {m : Memory} {sent : List Operation} (haccepted : m.AcceptsInTurn sent)
    (rest : List Operation) : dispatch (sent ++ rest) m = dispatch rest (m.storing sent) := by
  induction sent generalizing m with
  | nil => rw [storing_nil]; rfl
  | cons op sent ih =>
      obtain ⟨hop, hsent⟩ := acceptsInTurn_cons.mp haccepted
      rw [List.cons_append, dispatch_cons_accepted hop, ih hsent, ← storing_append]
      rfl

/-- Operations are accepted in turn, or there is a first one that is not. -/
theorem acceptsInTurn_or_refused (ops : List Operation) :
    m.AcceptsInTurn ops ∨
      ∃ (sent : List Operation) (op : Operation) (unsent : List Operation) (why : Refusal),
        ops = sent ++ op :: unsent ∧
        m.AcceptsInTurn sent ∧
        (m.storing sent).refusal? op.destination = some why := by
  induction ops generalizing m with
  | nil => exact Or.inl m.acceptsInTurn_nil
  | cons op rest ih =>
      cases hop : m.refusal? op.destination with
      | some why => exact Or.inr ⟨[], op, rest, why, rfl, m.acceptsInTurn_nil, by simpa using hop⟩
      | none =>
          rcases ih (m.storing [op]) with hrest | ⟨sent, op', unsent, why, rfl, hsent, hrefused⟩
          · exact Or.inl (acceptsInTurn_cons.mpr ⟨hop, hrest⟩)
          · rw [← storing_append] at hrefused
            exact Or.inr ⟨op :: sent, op', unsent, why, rfl,
              acceptsInTurn_cons.mpr ⟨hop, hsent⟩, hrefused⟩

/--
Operations that are accepted in turn are all stored.  Otherwise there is a first one that is
refused: those before it are stored, its refusal is reported and, if it was asked for, used up, and
nothing else changes.
-/
theorem dispatch_stores_accepted (ops : List Operation) :
    ((dispatch ops m).1 = .ok () ↔ m.AcceptsInTurn ops) ∧
      (m.AcceptsInTurn ops ∧ dispatch ops m = (.ok (), m.storing ops) ∨
        ∃ (sent : List Operation) (op : Operation) (unsent : List Operation) (why : Refusal),
          ops = sent ++ op :: unsent ∧
          m.AcceptsInTurn sent ∧
          (m.storing sent).refusal? op.destination = some why ∧
          dispatch ops m =
            (.error (why.error op.destination),
              (m.storing sent).afterRefusal op.destination why)) := by
  rcases m.acceptsInTurn_or_refused ops with hops | ⟨sent, op, unsent, why, hops, hsent, hrefused⟩
  · have hdispatch : dispatch ops m = (.ok (), m.storing ops) := by
      have happend := dispatch_append hops []
      rw [List.append_nil] at happend
      exact happend
    exact ⟨by simp [hdispatch, hops], Or.inl ⟨hops, hdispatch⟩⟩
  · have hdispatch : dispatch ops m =
        (.error (why.error op.destination),
          (m.storing sent).afterRefusal op.destination why) := by
      rw [hops, dispatch_append hsent, dispatch_cons_refused hrefused]
    have hnot : ¬m.AcceptsInTurn ops := fun haccepted => by
      rw [haccepted sent op unsent hops] at hrefused
      cases hrefused
    exact ⟨by simp [hdispatch, hnot],
      Or.inr ⟨sent, op, unsent, why, hops, hsent, hrefused, hdispatch⟩⟩

end Sending

end Memory
end FaultRelay
