import FaultRelay.Proofs.Discovery.Queues

/-!
# What is seen in the middle of a publication

The changes of a publication are made one after the other, and what is reported of the queues may be
read between any two of them.

**Rules.**
* `Diagnostics.during`: the diagnostics after so many changes of a publication.
* `Diagnostics.IsWhole`: whoever reads sees the report of before or that of after, and no idle queue
  as listened to.

**Results.**
* `Diagnostics.ingestion_eq_iff`: when two diagnostics report the same.
* `Diagnostics.mem_idle_of_mem_during`: a queue that is seen as not listened to is an idle one, once
  the earlier ones are forgotten.
* `Diagnostics.isWhole_iff`: the publications that are seen as a whole.
-/

namespace FaultRelay
namespace Diagnostics

section Report

variable {d e : Diagnostics} {queue : String}

/-- Every queue that was found is reported. -/
theorem mem_errorQueues_iff :
    queue ∈ d.errorQueues ↔ ∃ isListened : Bool, (queue, isListened) ∈ d.ingestion := by
  simp only [mem_ingestion, exists_and_left, exists_eq, and_true]

theorem mem_ingestion_true :
    (queue, true) ∈ d.ingestion ↔ queue ∈ d.errorQueues ∧ queue ∉ d.notFound := by
  rw [mem_ingestion, eq_comm, QueueSet.not_contains_eq_true]

theorem mem_ingestion_false :
    (queue, false) ∈ d.ingestion ↔ queue ∈ d.errorQueues ∧ queue ∈ d.notFound := by
  rw [mem_ingestion, eq_comm, Bool.not_eq_false', Std.ExtTreeSet.contains_iff_mem]

/-- The same is reported of the same queues when the same ones among them are not listened to. -/
theorem ingestion_eq_iff :
    d.ingestion = e.ingestion ↔
      d.errorQueues = e.errorQueues ∧
        ∀ queue ∈ d.errorQueues, queue ∈ d.notFound ↔ queue ∈ e.notFound := by
  constructor
  · intro hreport
    refine ⟨Std.ExtTreeSet.ext_mem fun queue => ?_, fun queue hfound => ?_⟩
    · rw [mem_errorQueues_iff, mem_errorQueues_iff, hreport]
    · constructor
      · intro hidle
        exact (mem_ingestion_false.mp (hreport ▸ mem_ingestion_false.mpr ⟨hfound, hidle⟩)).2
      · intro hidle
        by_contra hlistened
        have htrue := mem_ingestion_true.mpr ⟨hfound, hlistened⟩
        rw [hreport] at htrue
        exact (mem_ingestion_true.mp htrue).2 hidle
  · rintro ⟨hfound, hsame⟩
    rw [ingestion, ingestion, ← hfound]
    refine List.map_congr_left fun queue hqueue => ?_
    have hcontains : d.notFound.contains queue = e.notFound.contains queue := by
      rw [Bool.eq_iff_iff, Std.ExtTreeSet.contains_iff_mem, Std.ExtTreeSet.contains_iff_mem]
      exact hsame queue (Std.ExtTreeSet.mem_toList.mp hqueue)
    rw [hcontains]

end Report

/-- The diagnostics after the first changes of a publication. -/
def during (d : Diagnostics) (discovered idle : QueueSet) (changes : Nat) : Diagnostics :=
  ((publication discovered idle).take changes).foldl apply d

/--
A publication is seen as a whole: at any moment the report is the one of before or the one of after,
and since the queues that were found are known, no idle one is reported as listened to.
-/
def IsWhole (d : Diagnostics) (discovered idle : QueueSet) : Prop :=
  ∀ changes : Nat,
    (0 < changes → ∀ queue ∈ idle, (queue, true) ∉ (d.during discovered idle changes).ingestion) ∧
      ((d.during discovered idle changes).ingestion = d.ingestion ∨
        (d.during discovered idle changes).ingestion = (d.publish discovered idle).ingestion)

section During

variable (d : Diagnostics) (discovered idle : QueueSet)

theorem during_zero : d.during discovered idle 0 = d := rfl

/-- With the new queues, but with what was known of the ones before. -/
theorem during_one : d.during discovered idle 1 = { d with errorQueues := discovered } := rfl

/-- Once the earlier ones are forgotten, the idle queues are added one after the other. -/
theorem during_add_two (added : Nat) :
    d.during discovered idle (added + 2) =
      { d with
        errorQueues := discovered
        notFound := (idle.toList.take added).foldl (fun t queue => t.insert queue) ∅ } := by
  rw [during, publication, List.take_succ_cons, List.take_succ_cons, List.foldl_cons,
    List.foldl_cons, ← List.map_take, foldl_addNotFound]
  rfl

variable {d discovered idle} {queue : String} {changes : Nat}

/-- The first change makes the new queues known. -/
theorem errorQueues_during (hchanges : 0 < changes) :
    (d.during discovered idle changes).errorQueues = discovered := by
  match changes, hchanges with
  | 1, _ => rw [during_one]
  | added + 2, _ => rw [during_add_two]

theorem mem_notFound_during {added : Nat} :
    queue ∈ (d.during discovered idle (added + 2)).notFound ↔ queue ∈ idle.toList.take added := by
  rw [during_add_two, QueueSet.mem_foldl_insert]
  simp

theorem mem_idle_of_mem_notFound (hchanges : 1 < changes)
    (h : queue ∈ (d.during discovered idle changes).notFound) : queue ∈ idle := by
  obtain ⟨added, rfl⟩ := Nat.exists_eq_add_of_le' hchanges
  exact Std.ExtTreeSet.mem_toList.mp (List.mem_of_mem_take (mem_notFound_during.mp h))

/-- Once the earlier ones are forgotten, a queue that is seen as not listened to is idle. -/
theorem mem_idle_of_mem_during (hchanges : 1 < changes)
    (h : (queue, false) ∈ (d.during discovered idle changes).ingestion) : queue ∈ idle :=
  mem_idle_of_mem_notFound hchanges (mem_ingestion_false.mp h).2

/-- When all are forgotten and none is added yet, every queue is seen as listened to. -/
theorem mem_during_two (hfound : queue ∈ discovered) :
    (queue, true) ∈ (d.during discovered idle 2).ingestion := by
  refine mem_ingestion_true.mpr ⟨?_, fun hidle => ?_⟩
  · rw [errorQueues_during Nat.zero_lt_two]
    exact hfound
  · exact absurd (mem_notFound_during.mp hidle) List.not_mem_nil

/--
A publication is seen as a whole exactly when no queue is idle, and the queues are those of before
or none of them was idle before.
-/
theorem isWhole_iff (hidle : ∀ queue ∈ idle, queue ∈ discovered) :
    d.IsWhole discovered idle ↔
      (∀ queue : String, queue ∉ idle) ∧
        (d.errorQueues = discovered ∨ ∀ queue ∈ discovered, queue ∉ d.notFound) := by
  constructor
  · -- After one change the new queues are seen with the old marks, after two without any.
    intro hwhole
    have hnone : ∀ queue : String, queue ∉ idle := by
      intro queue hqueue
      exact (hwhole 2).1 Nat.zero_lt_two queue hqueue (mem_during_two (hidle queue hqueue))
    refine ⟨hnone, ?_⟩
    rcases (hwhole 1).2 with hold | hnew
    · left
      exact (ingestion_eq_iff.mp hold).1.symm
    · right
      intro queue hqueue hbefore
      rw [during_one, publish_eq] at hnew
      exact hnone queue (((ingestion_eq_iff.mp hnew).2 queue hqueue).mp hbefore)
  · rintro ⟨hnone, hbefore⟩ changes
    refine ⟨fun _ queue hqueue => absurd hqueue (hnone queue), ?_⟩
    match changes with
    | 0 =>
        left
        rw [during_zero]
    | 1 =>
        rcases hbefore with hsame | hlistened
        · left
          rw [during_one, ← hsame]
        · right
          rw [during_one, publish_eq]
          refine ingestion_eq_iff.mpr ⟨rfl, fun queue hqueue => ?_⟩
          exact iff_of_false (hlistened queue hqueue) (hnone queue)
    | added + 2 =>
        right
        rw [publish_eq]
        refine ingestion_eq_iff.mpr ⟨errorQueues_during (Nat.succ_pos _), fun queue _ => ?_⟩
        refine iff_of_false (fun hadded => ?_) (hnone queue)
        exact hnone queue (mem_idle_of_mem_notFound (Nat.one_lt_succ_succ added) hadded)

end During

/-- The first publication of a queue that is listened to and of one that is not. -/
theorem not_isWhole_first :
    let discovered : QueueSet := Std.ExtTreeSet.ofList ["error", "orders_error"]
    let idle : QueueSet := Std.ExtTreeSet.ofList ["orders_error"]
    (∀ queue ∈ idle, queue ∈ discovered) ∧ ¬({} : Diagnostics).IsWhole discovered idle := by
  intro discovered idle
  have hidle : ∀ queue ∈ idle, queue ∈ discovered := by
    intro queue hqueue
    simp_all [discovered, idle, Std.ExtTreeSet.mem_ofList]
  refine ⟨hidle, fun hwhole => ?_⟩
  exact ((isWhole_iff hidle).mp hwhole).1 "orders_error" (by simp [idle])

/--
A queue that is not listened to before and after is seen as listened to between the changes that
publish it again.
-/
theorem ingestion_during_again :
    let queues : QueueSet := Std.ExtTreeSet.ofList ["orders_error"]
    let d : Diagnostics := { errorQueues := queues, notFound := queues }
    d.ingestion = [("orders_error", false)] ∧
      (d.publish queues queues).ingestion = [("orders_error", false)] ∧
      (d.during queues queues 2).ingestion = [("orders_error", true)] := by
  decide +kernel

end Diagnostics
end FaultRelay
