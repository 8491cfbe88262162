import FaultRelay.Proofs.Discovery.Queues
import Mathlib.Data.List.Induction

/-!
# What the diagnostics keep of a history

A history is a sequence of notes: log entries and changes of what is known of the queues.

**Rules.**
* `Diagnostics.captured`: the log entries of a history.
* `Diagnostics.discovered`, `Diagnostics.IsMissing`: the set of queues that was given last, and
  the queues that were added as not listened to since that was last forgotten.

**Results.**
* `Diagnostics.logs_after`, `Diagnostics.errorQueues_after`, `Diagnostics.mem_notFound_after`: the
  diagnostics after a history, by these rules.
* `Diagnostics.discovered_topology`, `Diagnostics.isMissing_topology`: the rules after a whole
  publication.
-/

namespace FaultRelay
namespace Diagnostics

/-- Something that is noted in the diagnostics. -/
inductive Note where
  | entry (e : LogEntry)
  | change (c : Change)

/-- The diagnostics with one more note. -/
def take (d : Diagnostics) : Note → Diagnostics
  | .entry e => d.addLog e
  | .change c => d.apply c

/-- The diagnostics after a history. -/
def after (notes : List Note) : Diagnostics :=
  notes.foldl take {}

/-- The notes of a publication. -/
def topology (discovered idle : QueueSet) : List Note :=
  (publication discovered idle).map .change

def Note.entry? : Note → Option LogEntry
  | entry e => some e
  | change _ => none

/-- The set of queues that a note gives. -/
def Note.queues? : Note → Option QueueSet
  | change (.setErrorQueues queues) => some queues
  | _ => none

/-- The log entries of a history, oldest first. -/
def captured (notes : List Note) : List LogEntry :=
  notes.filterMap Note.entry?

/-- The set of queues that was given last. -/
def discovered (notes : List Note) : QueueSet :=
  (notes.filterMap Note.queues?).getLast?.getD ∅

/-- Whether a queue was added as not listened to, and this was not forgotten since. -/
def IsMissing (notes : List Note) (queue : String) : Prop :=
  ∃ before later : List Note, notes = before ++ .change (.addNotFound queue) :: later ∧
    .change .clearNotFound ∉ later

theorem after_append (notes later : List Note) :
    after (notes ++ later) = later.foldl take (after notes) :=
  List.foldl_append

/-! ### Log entries -/

/-- An entry that is past the ones to be kept makes no difference to the next ones. -/
theorem drop_concat_drop {α : Type} (l : List α) (a : α) (most : Nat) :
    (l.drop (l.length - most) ++ [a]).drop ((l.drop (l.length - most) ++ [a]).length - most) =
      (l ++ [a]).drop ((l ++ [a]).length - most) := by
  rw [← List.drop_append_of_le_length (Nat.sub_le ..), List.drop_drop, List.length_drop,
    List.length_append, List.length_singleton]
  congr 1
  omega

/-- The log keeps the end of what was captured. -/
theorem logs_after (notes : List Note) :
    (after notes).logs = (captured notes).drop ((captured notes).length - capacity) := by
  induction notes using List.reverseRecOn with
  | nil => rfl
  | append_singleton notes note ih =>
      rw [after_append, List.foldl_cons, List.foldl_nil]
      cases note with
      | entry e =>
          have hcaptured : captured (notes ++ [.entry e]) = captured notes ++ [e] := by
            simp [captured, Note.entry?]
          simp only [take, addLog, ih, hcaptured]
          exact drop_concat_drop (captured notes) e capacity
      | change c =>
          have hcaptured : captured (notes ++ [.change c]) = captured notes := by
            simp [captured, Note.entry?]
          rw [hcaptured, ← ih]
          cases c <;> rfl

theorem logs_after_suffix (notes : List Note) : (after notes).logs <:+ captured notes := by
  rw [logs_after]
  exact List.drop_suffix _ _

theorem length_logs_after_le (notes : List Note) : (after notes).logs.length ≤ capacity := by
  rw [logs_after, List.length_drop]
  omega

/-! ### Queues -/

theorem discovered_concat (notes : List Note) (note : Note) :
    discovered (notes ++ [note]) = note.queues?.getD (discovered notes) := by
  cases hqueues : note.queues? with
  | none => simp [discovered, List.filterMap_append, hqueues]
  | some queues => simp [discovered, List.filterMap_append, hqueues]

theorem errorQueues_after (notes : List Note) :
    (after notes).errorQueues = discovered notes := by
  induction notes using List.reverseRecOn with
  | nil => rfl
  | append_singleton notes note ih =>
      rw [after_append, List.foldl_cons, List.foldl_nil, discovered_concat, ← ih]
      cases note with
      | entry e => rfl
      | change c => cases c <;> rfl

theorem not_isMissing_nil (queue : String) : ¬ IsMissing [] queue := by
  rintro ⟨before, later, hnotes, -⟩
  simp at hnotes

theorem isMissing_concat (notes : List Note) (note : Note) (queue : String) :
    IsMissing (notes ++ [note]) queue ↔
      note = .change (.addNotFound queue) ∨
        IsMissing notes queue ∧ note ≠ .change .clearNotFound := by
  constructor
  · rintro ⟨before, later, hnotes, hlater⟩
    rcases List.eq_nil_or_concat later with rfl | ⟨later, last, rfl⟩
    · left
      exact (List.append_inj' hnotes rfl).2 |> List.singleton_inj.mp
    · right
      rw [List.concat_eq_append, ← List.cons_append, ← List.append_assoc] at hnotes
      obtain ⟨rfl, hlast⟩ := List.append_inj' hnotes rfl
      rw [List.singleton_inj] at hlast
      rw [List.concat_eq_append, List.mem_append, List.mem_singleton, not_or] at hlater
      exact ⟨⟨before, later, rfl, hlater.1⟩, fun hnote => hlater.2 (hnote.symm.trans hlast)⟩
  · rintro (rfl | ⟨⟨before, later, rfl, hlater⟩, hnote⟩)
    · exact ⟨notes, [], rfl, List.not_mem_nil⟩
    · refine ⟨before, later ++ [note], by simp, ?_⟩
      rw [List.mem_append, List.mem_singleton, not_or]
      exact ⟨hlater, Ne.symm hnote⟩

theorem mem_notFound_after (notes : List Note) (queue : String) :
    queue ∈ (after notes).notFound ↔ IsMissing notes queue := by
  induction notes using List.reverseRecOn with
  | nil => simp [after, not_isMissing_nil, Std.ExtTreeSet.not_mem_empty]
  | append_singleton notes note ih =>
      rw [after_append, List.foldl_cons, List.foldl_nil, isMissing_concat, ← ih]
      cases note with
      | entry e => simp [take, addLog]
      | change c =>
          cases c with
          | setErrorQueues queues => simp [take, apply, setErrorQueues]
          | clearNotFound => simp [take, apply, clearNotFound, Std.ExtTreeSet.not_mem_empty]
          | addNotFound name =>
              simp [take, apply, addNotFound, Std.ExtTreeSet.mem_insert,
                Std.LawfulEqCmp.compare_eq_iff_eq]

/-! ### Whole publications -/

theorem foldl_take_changes (d : Diagnostics) (changes : List Change) :
    (changes.map Note.change).foldl take d = changes.foldl apply d := by
  rw [List.foldl_map]
  rfl

theorem queues_foldl_addLog (d : Diagnostics) (entries : List LogEntry) :
    ((entries.map Note.entry).foldl take d).errorQueues = d.errorQueues ∧
      ((entries.map Note.entry).foldl take d).notFound = d.notFound := by
  induction entries generalizing d with
  | nil => exact ⟨rfl, rfl⟩
  | cons e entries ih => exact ih (d.addLog e)

section Topology

variable (before : List Note) (found idle : QueueSet) (entries : List LogEntry)

/-- The diagnostics after a whole publication and some log entries. -/
theorem queues_after_topology :
    (after (before ++ topology found idle ++ entries.map .entry)).errorQueues = found ∧
      (after (before ++ topology found idle ++ entries.map .entry)).notFound = idle := by
  rw [after_append, after_append, topology, foldl_take_changes, ← publish, publish_eq]
  exact queues_foldl_addLog _ entries

theorem discovered_topology :
    discovered (before ++ topology found idle ++ entries.map .entry) = found := by
  rw [← errorQueues_after]
  exact (queues_after_topology before found idle entries).1

theorem isMissing_topology (queue : String) :
    IsMissing (before ++ topology found idle ++ entries.map .entry) queue ↔ queue ∈ idle := by
  rw [← mem_notFound_after, (queues_after_topology before found idle entries).2]

end Topology

end Diagnostics
end FaultRelay
