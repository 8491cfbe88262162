import FaultRelay.Discovery.Filter
import FaultRelay.Report.Diagnostics
import Mathlib.Tactic.Common

/-!
# The queues that are discovered and reported

**Results.**
* `QueueFilter.accepts_of_discover`, `QueueFilter.accepts_ownQueue`: only queues that the
  filter accepts are discovered, and never a queue of the relay itself.
* `Diagnostics.publish_eq`, `Diagnostics.mem_ingestion`: what is reported of the queues after
  a publication.
-/

namespace FaultRelay

namespace QueueSet

theorem mem_foldl_insert (queues : List String) (s : QueueSet) (queue : String) :
    queue ∈ queues.foldl (fun t name => t.insert name) s ↔ queue ∈ s ∨ queue ∈ queues := by
  induction queues generalizing s with
  | nil => simp
  | cons name queues ih =>
      rw [List.foldl_cons, ih, Std.ExtTreeSet.mem_insert, Std.LawfulEqCmp.compare_eq_iff_eq,
        List.mem_cons]
      grind

theorem foldl_insert_toList (s : QueueSet) :
    s.toList.foldl (fun t name => t.insert name) ∅ = s := by
  refine Std.ExtTreeSet.ext_mem fun queue => ?_
  simp [mem_foldl_insert]

theorem mem_filter (s : QueueSet) (p : String → Bool) (queue : String) :
    queue ∈ s.filter p ↔ queue ∈ s ∧ p queue = true := by
  simp [Std.ExtTreeSet.mem_filter]

theorem not_contains_eq_true (s : QueueSet) (queue : String) :
    (!s.contains queue) = true ↔ queue ∉ s := by
  rw [Bool.not_eq_true', ← Bool.not_eq_true, Std.ExtTreeSet.contains_iff_mem]

end QueueSet

namespace Diagnostics

theorem foldl_addNotFound (d : Diagnostics) (queues : List String) :
    (queues.map Change.addNotFound).foldl apply d =
      { d with notFound := queues.foldl (fun t queue => t.insert queue) d.notFound } := by
  induction queues generalizing d with
  | nil => rfl
  | cons queue queues ih =>
      rw [List.map_cons, List.foldl_cons, ih]
      rfl

/-- A publication leaves nothing of the one before. -/
theorem publish_eq (d : Diagnostics) (discovered idle : QueueSet) :
    d.publish discovered idle = { d with errorQueues := discovered, notFound := idle } := by
  rw [publish, publication, List.foldl_cons, List.foldl_cons, foldl_addNotFound]
  simp only [apply, setErrorQueues, clearNotFound, QueueSet.foldl_insert_toList]

/-- A queue is reported as listened to unless it is one of the idle ones. -/
theorem mem_ingestion (d : Diagnostics) (queue : String) (isListened : Bool) :
    (queue, isListened) ∈ d.ingestion ↔
      queue ∈ d.errorQueues ∧ isListened = !d.notFound.contains queue := by
  simp only [ingestion, List.mem_map, Std.ExtTreeSet.mem_toList, Prod.mk.injEq]
  constructor
  · rintro ⟨name, hname, rfl, hlistened⟩
    exact ⟨hname, hlistened.symm⟩
  · rintro ⟨hname, hlistened⟩
    exact ⟨queue, hname, rfl, hlistened.symm⟩

end Diagnostics

namespace QueueFilter

/-- Only queues that the filter accepts are discovered. -/
theorem accepts_of_discover
    {f : QueueFilter} {listing : Listing} {discovered : QueueSet}
    (h : f.discover listing = .ok discovered) {queue : String} (hqueue : queue ∈ discovered) :
    f.accepts queue = true := by
  have hmore : ∀ (listing : Listing) (before : QueueSet),
      listing.foldlM (fun found entry => do
        let name ← entry
        return if f.accepts name then found.insert name else found) before = .ok discovered →
      queue ∈ before ∨ f.accepts queue = true := by
    intro listing
    induction listing with
    | nil =>
        intro before hlisting
        cases hlisting
        exact Or.inl hqueue
    | cons entry listing ih =>
        intro before hlisting
        cases entry with
        | error e => cases hlisting
        | ok name =>
            rcases ih _ hlisting with hmem | haccepts
            · by_cases hname : f.accepts name = true
              · rw [if_pos hname, Std.ExtTreeSet.mem_insert,
                  Std.LawfulEqCmp.compare_eq_iff_eq] at hmem
                rcases hmem with rfl | hmem
                · exact Or.inr hname
                · exact Or.inl hmem
              · rw [if_neg hname] at hmem
                exact Or.inl hmem
            · exact Or.inr haccepts
  rcases hmore listing ∅ h with hmem | haccepts
  · exact absurd hmem Std.ExtTreeSet.not_mem_empty
  · exact haccepts

/-- The filter of the settings accepts none of the queues of the relay itself. -/
theorem accepts_ownQueue
    {s : Settings} {f : QueueFilter} (h : ofSettings? s = some f) {queue : String}
    (hqueue : queue ∈ ownQueues s) : f.accepts queue = false := by
  have hexcluded : ∀ chosen : QueueFilter,
      (chosen.excluding (ownQueues s)).accepts queue = false := by
    intro chosen
    have hmem : queue ∈ (chosen.excluding (ownQueues s)).excluded := by
      rw [excluding, QueueSet.mem_foldl_insert]
      exact Or.inr hqueue
    rw [accepts, Std.ExtTreeSet.contains_iff_mem.mpr hmem]
    rfl
  cases hfilter : s.queueFilter with
  | none =>
      simp only [ofSettings?, hfilter, Option.bind_eq_bind, Option.bind_some, Option.pure_def,
        Option.some.injEq] at h
      rw [← h]
      exact hexcluded byEnding
  | some source =>
      simp only [ofSettings?, hfilter, Option.bind_eq_bind, Option.pure_def,
        Option.bind_eq_some_iff, Option.some.injEq] at h
      obtain ⟨chosen, -, rfl⟩ := h
      exact hexcluded chosen

/-- The filter of the settings does not accept the queue of messages that come back. -/
theorem accepts_returnQueue
    {s : Settings} {f : QueueFilter} (h : ofSettings? s = some f) :
    f.accepts s.returnQueue = false :=
  accepts_ownQueue h (by simp [ownQueues])

/-- Without a pattern, only names with the endings of queues that hold faults are accepted. -/
theorem isErrorQueueName_of_accepts
    {s : Settings} {f : QueueFilter} (h : ofSettings? s = some f) (hpattern : s.queueFilter = none)
    {queue : String} (hqueue : f.accepts queue = true) : isErrorQueueName queue = true := by
  simp only [ofSettings?, hpattern, Option.bind_eq_bind, Option.bind_some, Option.pure_def,
    Option.some.injEq] at h
  rw [← h] at hqueue
  simp only [accepts, excluding, byEnding, Bool.and_eq_true] at hqueue
  exact hqueue.2

end QueueFilter

end FaultRelay
