import FaultRelay.Json.Document
import Mathlib.Data.List.Forall2

/-!
# The fields of records

**Rules.**
* `Node.IsRecord node members`: a record in source form has these members, in their order.
* `Node.Offers spellings node slots`: what a document offers for the fields of a record.

**Results.**
* `Node.fields?_record`: the known fields of a record are the members of those names.
* `Node.fields?_eq_some_iff`: no record has fields that names one of them twice or has a key that
  is no text; a list has them too, in their order.
-/

namespace FaultRelay
namespace Json

namespace Node

/-- A record in source form, with its keys read. -/
inductive IsRecord : Node → List (String × Node) → Prop
  | intro {nodes : List (List UInt8 × Node)} {members : List (String × Node)} :
      List.Forall₂ (fun p q => unquote? p.1 = some q.1 ∧ p.2 = q.2) nodes members →
      IsRecord (.record nodes) members

/-- The member of a record under one of some names. -/
def member? (names : List String) (members : List (String × Node)) : Option Node :=
  (members.find? fun p => names.contains p.1).map Prod.snd

/-- A record has one member at most under some names. -/
def Once (names : List String) (members : List (String × Node)) : Prop :=
  ((members.map Prod.fst).filter fun key => names.contains key).length ≤ 1

instance (names : List String) (members : List (String × Node)) : Decidable (Once names members) :=
  inferInstanceAs (Decidable (_ ≤ _))

section Members

variable {names : List String} {p : String × Node} {rest : List (String × Node)}

theorem member?_cons :
    member? names (p :: rest) = if names.contains p.1 then some p.2 else member? names rest := by
  rw [member?, List.find?_cons]
  split
  · simp_all
  · simp_all [member?]

theorem member?_eq_none_iff :
    member? names rest = none ↔ (rest.map Prod.fst).filter (fun key => names.contains key) = [] := by
  rw [member?, Option.map_eq_none_iff, List.find?_eq_none, List.filter_eq_nil_iff,
    List.forall_mem_map]

theorem once_cons_iff :
    Once names (p :: rest) ↔
      if names.contains p.1 then member? names rest = none else Once names rest := by
  rw [Once, List.map_cons, List.filter_cons]
  split
  · rw [List.length_cons, member?_eq_none_iff, ← List.length_eq_zero_iff]
    omega
  · rfl

theorem Once.tail (h : Once names (p :: rest)) : Once names rest := by
  rw [once_cons_iff] at h
  split at h
  · rw [Once, member?_eq_none_iff.1 h]
    exact Nat.zero_le 1
  · exact h

theorem Once.member?_tail
    (h : Once names (p :: rest)) (hp : names.contains p.1 = true) : member? names rest = none := by
  rwa [once_cons_iff, if_pos hp] at h

end Members

section Fields

variable {spellings : List (List String)} {key : String} {f : List String → Option Node}
  {node : Node}

/-- A value goes to the place of its name. -/
theorem fill?_map
    (hnodup : spellings.flatten.Nodup) {i : Nat}
    (hplace : fieldIndex? spellings key = some i)
    (hfree : ∀ names ∈ spellings, names.contains key = true → f names = none) :
    fill? (spellings.map f) i node =
      some (spellings.map fun names => if names.contains key then some node else f names) := by
  induction spellings generalizing i with
  | nil => simp [fieldIndex?] at hplace
  | cons names spellings ih =>
      rw [List.flatten_cons, List.nodup_append] at hnodup
      obtain ⟨-, hnodup, hdisjoint⟩ := hnodup
      rw [fieldIndex?, List.findIdx?_cons] at hplace
      cases hkey : names.contains key with
      | true =>
          -- No later field has a spelling in common with this one.
          have hrest : spellings.map (fun names =>
              if names.contains key then some node else f names) = spellings.map f := by
            refine List.map_congr_left fun others hothers => if_neg fun hmem => ?_
            exact hdisjoint key (List.contains_iff_mem.1 hkey) key
              (List.mem_flatten.2 ⟨others, hothers, List.contains_iff_mem.1 hmem⟩) rfl
          rw [if_pos hkey, Option.some.injEq] at hplace
          subst hplace
          simp only [List.map_cons, hfree names List.mem_cons_self hkey, fill?, hkey, if_true,
            hrest]
      | false =>
          rw [if_neg (by rw [hkey]; decide), Option.map_eq_some_iff] at hplace
          obtain ⟨j, hj, rfl⟩ := hplace
          have hrest := ih hnodup hj fun names hnames => hfree names (List.mem_cons_of_mem _ hnames)
          simp only [List.map_cons, fill?, hrest, hkey, Option.map_some]
          rfl

/-- One member is put into its field, or skipped when it has none. -/
theorem placeMembers?_cons
    (hnodup : spellings.flatten.Nodup) {source : List UInt8} (hkey : unquote? source = some key)
    (hfree : ∀ names ∈ spellings, names.contains key = true → f names = none)
    (nodes : List (List UInt8 × Node)) :
    placeMembers? spellings ((source, node) :: nodes) (spellings.map f) =
      placeMembers? spellings nodes
        (spellings.map fun names => if names.contains key then some node else f names) := by
  rw [placeMembers?, hkey, Option.bind_eq_bind, Option.bind_some]
  cases hplace : fieldIndex? spellings key with
  | none =>
      have hskip : spellings.map (fun names =>
          if names.contains key then some node else f names) = spellings.map f := by
        refine List.map_congr_left fun names hnames => if_neg ?_
        simpa using List.findIdx?_eq_none_iff.1 hplace names hnames
      rw [hskip]
  | some i =>
      simp only [fill?_map hnodup hplace hfree, Option.bind_eq_bind, Option.bind_some]

/-- The fields that are still free take the members of their names. -/
theorem placeMembers?_map
    (hnodup : spellings.flatten.Nodup)
    {nodes : List (List UInt8 × Node)} {members : List (String × Node)}
    (hkeys : List.Forall₂ (fun p q => unquote? p.1 = some q.1 ∧ p.2 = q.2) nodes members)
    (honce : ∀ names ∈ spellings, Once names members)
    (hfree : ∀ names ∈ spellings, (f names).isSome → member? names members = none) :
    placeMembers? spellings nodes (spellings.map f) =
      some (spellings.map fun names => (f names).or (member? names members)) := by
  -- What is filled so far is a function of the spellings, and a member changes that function.
  induction hkeys generalizing f with
  | nil => simp [placeMembers?, member?]
  | cons hhead _ ih =>
      rename_i p q nodes members _
      obtain ⟨source, node⟩ := p
      obtain ⟨key, other⟩ := q
      obtain ⟨hkey, rfl⟩ := hhead
      have hnone : ∀ names ∈ spellings, names.contains key = true → f names = none := by
        intro names hnames hmem
        have habsent := hfree names hnames
        rw [member?_cons, if_pos hmem] at habsent
        cases hfilled : f names with
        | none => rfl
        | some other => cases habsent (by rw [hfilled]; rfl)
      have hstill : ∀ names ∈ spellings,
          (if names.contains key then some node else f names).isSome →
            member? names members = none := by
        intro names hnames hsome
        by_cases hmem : names.contains key = true
        · exact (honce names hnames).member?_tail hmem
        · rw [if_neg hmem] at hsome
          have habsent := hfree names hnames hsome
          rw [member?_cons, if_neg hmem] at habsent
          exact habsent
      rw [placeMembers?_cons hnodup hkey hnone,
        ih (fun names hnames => (honce names hnames).tail) hstill]
      refine congrArg some (List.map_congr_left fun names hnames => ?_)
      rw [member?_cons]
      split
      · rename_i hmem
        rw [hnone names hnames hmem]
        rfl
      · rfl

/-- The known fields of a record are the members of those names. -/
theorem fields?_record
    (hnodup : spellings.flatten.Nodup) {members : List (String × Node)}
    (hnode : node.IsRecord members) (honce : ∀ names ∈ spellings, Once names members) :
    node.fields? spellings = some (spellings.map fun names => member? names members) := by
  cases hnode with
  | intro hkeys =>
      have hfields := placeMembers?_map hnodup hkeys honce
        (f := fun _ => none) (fun _ _ h => absurd h (by simp))
      rw [fields?, hfields]
      simp only [Option.none_or]

/-- A place takes a value only as long as it is free. -/
theorem free_of_fill?
    (hnodup : spellings.flatten.Nodup) {i : Nat} {slots : List (Option Node)}
    (hplace : fieldIndex? spellings key = some i)
    (h : fill? (spellings.map f) i node = some slots) :
    ∀ names ∈ spellings, names.contains key = true → f names = none := by
  induction spellings generalizing i slots with
  | nil => simp
  | cons names spellings ih =>
      rw [List.flatten_cons, List.nodup_append] at hnodup
      obtain ⟨-, hnodup, hdisjoint⟩ := hnodup
      rw [fieldIndex?, List.findIdx?_cons] at hplace
      cases hkey : names.contains key with
      | true =>
          rw [if_pos hkey, Option.some.injEq] at hplace
          subst hplace
          intro others hothers hmem
          obtain rfl | hothers := List.mem_cons.1 hothers
          · cases hfilled : f others with
            | none => rfl
            | some other => simp [fill?, hfilled] at h
          · exact absurd rfl (hdisjoint key (List.contains_iff_mem.1 hkey) key
              (List.mem_flatten.2 ⟨others, hothers, List.contains_iff_mem.1 hmem⟩))
      | false =>
          rw [if_neg (by rw [hkey]; decide), Option.map_eq_some_iff] at hplace
          obtain ⟨j, hj, rfl⟩ := hplace
          rw [List.map_cons, fill?, Option.map_eq_some_iff] at h
          obtain ⟨rest, hrest, -⟩ := h
          intro others hothers hmem
          obtain rfl | hothers := List.mem_cons.1 hothers
          · rw [hkey] at hmem
            cases hmem
          · exact ih hnodup hj hrest others hothers hmem

/-- Members that fit into the fields have readable keys, and each field one of them at most. -/
theorem exists_members_of_placeMembers?
    (hnodup : spellings.flatten.Nodup) {nodes : List (List UInt8 × Node)}
    {slots : List (Option Node)}
    (h : placeMembers? spellings nodes (spellings.map f) = some slots) :
    ∃ members : List (String × Node),
      List.Forall₂ (fun p q => unquote? p.1 = some q.1 ∧ p.2 = q.2) nodes members ∧
      ∀ names ∈ spellings, Once names members ∧
        ((f names).isSome → member? names members = none) := by
  induction nodes generalizing f with
  | nil => exact ⟨[], .nil, fun _ _ => ⟨by simp [Once], fun _ => rfl⟩⟩
  | cons p nodes ih =>
      obtain ⟨source, node⟩ := p
      have hplaced := h
      rw [placeMembers?, Option.bind_eq_bind, Option.bind_eq_some_iff] at h
      obtain ⟨key, hkey, h⟩ := h
      have hfree : ∀ names ∈ spellings, names.contains key = true → f names = none := by
        cases hplace : fieldIndex? spellings key with
        | none =>
            intro names hnames hmem
            have habsent := List.findIdx?_eq_none_iff.1 hplace names hnames
            rw [hmem] at habsent
            cases habsent
        | some i =>
            simp only [hplace, Option.bind_eq_bind, Option.bind_eq_some_iff] at h
            obtain ⟨filled, hfill, -⟩ := h
            exact free_of_fill? hnodup hplace hfill
      rw [placeMembers?_cons hnodup hkey hfree] at hplaced
      obtain ⟨members, hkeys, hmembers⟩ := ih hplaced
      refine ⟨(key, node) :: members, .cons ⟨hkey, rfl⟩ hkeys, fun names hnames => ?_⟩
      obtain ⟨honce, hlater⟩ := hmembers names hnames
      rw [once_cons_iff, member?_cons]
      by_cases hmem : names.contains key = true
      · rw [if_pos hmem] at hlater
        rw [if_pos hmem, hfree names hnames hmem]
        exact ⟨hlater rfl, nofun⟩
      · rw [if_neg hmem] at hlater
        rw [if_neg hmem, if_neg hmem]
        exact ⟨honce, hlater⟩

end Fields

/-- What a document offers for the fields of a record: its members, or its items in order. -/
inductive Offers (spellings : List (List String)) : Node → List (Option Node) → Prop
  | record {node : Node} {members : List (String × Node)} (hnode : node.IsRecord members)
      (honce : ∀ names ∈ spellings, Once names members) :
      Offers spellings node (spellings.map fun names => member? names members)
  | list {items : List Node} (hlength : items.length ≤ spellings.length) :
      Offers spellings (.list items)
        (items.map some ++ List.replicate (spellings.length - items.length) none)

/-- The known fields of a document are what it offers for them. -/
theorem fields?_eq_some_iff
    {spellings : List (List String)} (hnodup : spellings.flatten.Nodup) {node : Node}
    {slots : List (Option Node)} :
    node.fields? spellings = some slots ↔ Offers spellings node slots := by
  constructor
  · intro h
    cases node with
    | record nodes =>
        obtain ⟨members, hkeys, hmembers⟩ := exists_members_of_placeMembers? hnodup h
        have honce : ∀ names ∈ spellings, Once names members :=
          fun names hnames => (hmembers names hnames).1
        have hread := fields?_record hnodup (.intro hkeys) honce
        rw [h, Option.some.injEq] at hread
        rw [hread]
        exact .record (.intro hkeys) honce
    | list items =>
        rw [fields?] at h
        split at h
        next hlength =>
          cases h
          exact .list hlength
        next => cases h
    | _ => cases h
  · intro h
    cases h with
    | record hnode honce => exact fields?_record hnodup hnode honce
    | list hlength => rw [fields?, if_pos hlength]

end Node

end Json
end FaultRelay
