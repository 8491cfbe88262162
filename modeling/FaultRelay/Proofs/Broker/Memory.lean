import FaultRelay.Broker.Memory
import Mathlib.Tactic.Common

/-!
# The queues of a broker in memory

What each operation on a broker in memory does to the messages of every queue, and which
queues exist after it.  No operation removes a queue.

**Results.**
* `Memory.messages_push`: an accepted message is the last one of its queue.
* `Memory.messages_pop`, `Memory.messages_putBack`: a message that is taken and put back
  is the head of its queue again.
* `Memory.push_error`: a refused message changes no queue.
-/

namespace FaultRelay
namespace Memory

variable {m : Memory} {queue : String} {message : Stored}

/-- What of a broker does not depend on whether it accepts messages. -/
structure SameQueues (m m' : Memory) : Prop where
  messages_eq : ∀ queue : String, m'.messages queue = m.messages queue
  contains_of_contains : ∀ queue : String, m.contains queue = true → m'.contains queue = true

theorem SameQueues.refl (m : Memory) : m.SameQueues m :=
  ⟨fun _ => rfl, fun _ h => h⟩

theorem SameQueues.trans
    {m' m'' : Memory} (h : m.SameQueues m') (h' : m'.SameQueues m'') : m.SameQueues m'' where
  messages_eq queue := (h'.messages_eq queue).trans (h.messages_eq queue)
  contains_of_contains queue hqueue :=
    h'.contains_of_contains queue (h.contains_of_contains queue hqueue)

theorem sameQueues_declare (m : Memory) (queue : String) : m.SameQueues (m.declare queue) where
  messages_eq name := by
    simp only [messages, declare, Std.ExtTreeMap.getElem?_insertIfNew]
    split
    · rename_i hnew
      obtain ⟨hname, hnone⟩ := hnew
      have hname : queue = name := by simpa using hname
      rw [← hname, Std.ExtTreeMap.getElem?_eq_none hnone]
      rfl
    · rfl
  contains_of_contains name hname := by
    simp only [contains, declare, Std.ExtTreeMap.contains_insertIfNew, Bool.or_eq_true]
    exact Or.inr hname

theorem sameQueues_foldl
    {α : Type} {f : Memory → α → Memory} (hf : ∀ (m : Memory) (a : α), m.SameQueues (f m a))
    (l : List α) (m : Memory) : m.SameQueues (l.foldl f m) := by
  induction l generalizing m with
  | nil => exact .refl m
  | cons a l ih => exact (hf m a).trans (ih (f m a))

/-- Making queues changes none that exist. -/
theorem sameQueues_prepare
    (m : Memory) (setup : Bool) (receivers : List ReceiverSettings) (sending : List String) :
    m.SameQueues (m.prepare setup receivers sending).2.1 := by
  unfold prepare
  split
  · exact .refl m
  · split
    · refine (sameQueues_foldl ?_ receivers m).trans (sameQueues_foldl sameQueues_declare sending _)
      intro m r
      exact (sameQueues_declare m r.address).trans (sameQueues_declare _ r.errorQueue)
    · split <;> exact .refl m

theorem contains_eq_isSome (m : Memory) (queue : String) :
    m.contains queue = m.queues[queue]?.isSome :=
  Std.ExtTreeMap.contains_eq_isSome_getElem?

/-- The head of a queue is taken, and nothing else. -/
theorem messages_pop
    {m' : Memory} (h : m.pop queue = some (message, m')) :
    m.messages queue = message :: m'.messages queue ∧
      (∀ name : String, name ≠ queue → m'.messages name = m.messages name) ∧
      ∀ name : String, m'.contains name = m.contains name := by
  unfold pop at h
  cases hqueue : m.queues[queue]? with
  | none => simp [hqueue] at h
  | some stored =>
      cases stored with
      | nil => simp [hqueue] at h
      | cons head rest =>
          simp only [hqueue, Option.some.injEq, Prod.mk.injEq] at h
          obtain ⟨rfl, rfl⟩ := h
          refine ⟨?_, ?_, ?_⟩
          · simp [messages, hqueue]
          · intro name hname
            simp [messages, Std.ExtTreeMap.getElem?_insert, Ne.symm hname]
          · intro name
            rw [contains_eq_isSome, contains_eq_isSome, Std.ExtTreeMap.getElem?_insert]
            split
            · rename_i hname
              have hname : queue = name := by simpa using hname
              rw [← hname, hqueue]
              rfl
            · rfl

/-- A message is put back to the head of a queue that exists. -/
theorem messages_putBack
    (hcontains : m.contains queue = true) (message : Stored) :
    (m.putBack queue message).messages queue = message :: m.messages queue ∧
      (∀ name : String, name ≠ queue →
        (m.putBack queue message).messages name = m.messages name) ∧
      ∀ name : String, (m.putBack queue message).contains name = m.contains name := by
  rw [contains_eq_isSome, Option.isSome_iff_exists] at hcontains
  obtain ⟨stored, hstored⟩ := hcontains
  refine ⟨?_, ?_, ?_⟩
  · simp [messages, putBack, hstored]
  · intro name hname
    simp [messages, putBack, Std.ExtTreeMap.getElem?_modify, Ne.symm hname]
  · intro name
    exact Std.ExtTreeMap.contains_modify

/-- A message that is accepted is the last one of its queue. -/
theorem messages_push
    {m' : Memory} (h : m.push queue message = (.ok (), m')) :
    (∀ name : String,
      m'.messages name = m.messages name ++ if name = queue then [message] else []) ∧
      ∀ name : String, m'.contains name = m.contains name := by
  unfold push at h
  split at h
  · cases h
  · split at h
    · cases h
    · split at h
      · rename_i hcontains
        cases h
        rw [contains_eq_isSome, Option.isSome_iff_exists] at hcontains
        obtain ⟨stored, hstored⟩ := hcontains
        constructor
        · intro name
          by_cases hname : name = queue
          · simp [messages, hname, hstored]
          · simp [messages, Std.ExtTreeMap.getElem?_modify, hname, Ne.symm hname]
        · intro name
          exact Std.ExtTreeMap.contains_modify
      · cases h

/-- A message that is refused changes no queue. -/
theorem push_error
    {e : TransportError} {m' : Memory} (h : m.push queue message = (.error e, m')) :
    m.SameQueues m' := by
  unfold push at h
  split at h
  · cases h
    exact .refl m
  · split at h
    · cases h
      exact ⟨fun _ => rfl, fun _ h => h⟩
    · split at h
      · cases h
      · cases h
        exact .refl m

/-- A single operation is dispatched as it is pushed. -/
theorem dispatch_singleton (op : Operation) (m : Memory) :
    dispatch [op] m = m.push op.destination op.stored := by
  unfold dispatch
  cases hpush : m.push op.destination op.stored with
  | mk result m' =>
      cases result with
      | error e => rfl
      | ok _ => rfl

end Memory
end FaultRelay
