import FaultRelay.Message
import Mathlib.Data.List.Basic

/-!
# What headers hold after they are written

Headers are compared name by name.  Each way of writing headers is a fold over a list of
pairs; when no name occurs twice in that list, a name holds what the list says of it, and
otherwise what it held before.

**Results.**
* `getElem?_write`: what a name holds after some values were written.
* `mem_write`: which names are there after some values were written.
* `getElem?_overlay`: what a name holds after other headers were laid over.
-/

namespace FaultRelay
namespace Headers

/-- Headers are equal when every name holds the same. -/
theorem eq_of_getElem? {h g : Headers}
    (hg : ∀ name : String, h[name]? = g[name]?) : h = g :=
  Std.ExtTreeMap.ext_getElem? fun name => hg name

@[simp] theorem getElem?_filter
    (h : Headers) (keep : String → Bool) (name : String) :
    (h.filter fun name _ => keep name)[name]? =
      if keep name then h[name]? else none := by
  rw [Std.ExtTreeMap.getElem?_filter']
  cases hk : keep name with
  | false => simp
  | true => cases h[name]? <;> rfl

/-- A name holds what was written to it, or else what it held. -/
theorem getElem?_insert_ite
    (h : Headers) (name key value : String) :
    (h.insert key value)[name]? =
      if name = key then some value else h[name]? := by
  by_cases hkey : key = name
  · subst hkey
    simp
  · have hne : name ≠ key := fun e => hkey e.symm
    simp [Std.ExtTreeMap.getElem?_insert, hkey, hne]

@[simp] theorem write_nil (h : Headers) : h.write [] = h := rfl

@[simp] theorem write_cons_none
    (h : Headers) (key : String) (values : List (String × Option String)) :
    h.write ((key, none) :: values) = h.write values := rfl

@[simp] theorem write_cons_some
    (h : Headers) (key value : String) (values : List (String × Option String)) :
    h.write ((key, some value) :: values) = write (h.insert key value) values := rfl

/-- Writing values that do not name a header leaves it as it was. -/
theorem getElem?_write_of_notMem
    {values : List (String × Option String)} {name : String}
    (hname : name ∉ values.map Prod.fst) (h : Headers) :
    (h.write values)[name]? = h[name]? := by
  induction values generalizing h with
  | nil => rfl
  | cons pair rest ih =>
      obtain ⟨key, value⟩ := pair
      simp only [List.map_cons, List.mem_cons, not_or] at hname
      obtain ⟨hkey, hrest⟩ := hname
      cases value with
      | none => exact ih hrest h
      | some value =>
          have hwrite := ih hrest (h.insert key value)
          rw [getElem?_insert_ite, if_neg hkey] at hwrite
          exact hwrite

/-- What a name holds after some values were written, no name occurring twice among them. -/
theorem getElem?_write
    {values : List (String × Option String)}
    (hnodup : (values.map Prod.fst).Nodup) (h : Headers) (name : String) :
    (h.write values)[name]? = (values.lookup name).join.or h[name]? := by
  induction values generalizing h with
  | nil => rfl
  | cons pair rest ih =>
      obtain ⟨key, value⟩ := pair
      simp only [List.map_cons, List.nodup_cons] at hnodup
      obtain ⟨hkey, hrest⟩ := hnodup
      by_cases hname : name = key
      · subst hname
        cases value with
        | none =>
            have hwrite := getElem?_write_of_notMem hkey h
            simpa using hwrite
        | some value =>
            have hwrite := getElem?_write_of_notMem hkey (h.insert name value)
            simpa using hwrite
      · have hbeq : (name == key) = false := by simpa using hname
        cases value with
        | none => simpa [List.lookup_cons, hbeq] using ih hrest h
        | some value =>
            have hwrite := ih hrest (h.insert key value)
            rw [getElem?_insert_ite, if_neg hname] at hwrite
            simpa [List.lookup_cons, hbeq] using hwrite

/-- Headers are there after some values were written when they were there before, or were given
a value. -/
theorem mem_write
    {values : List (String × Option String)} {h : Headers} {name : String} :
    name ∈ h.write values ↔ name ∈ h ∨ ∃ value : String, (name, some value) ∈ values := by
  induction values generalizing h with
  | nil => simp
  | cons pair rest ih =>
      obtain ⟨key, value⟩ := pair
      cases value with
      | none => simp [ih]
      | some value =>
          have hinsert : name ∈ h.insert key value ↔ name = key ∨ name ∈ h := by
            rw [Std.ExtTreeMap.mem_insert, Std.LawfulEqCmp.compare_eq_iff_eq, eq_comm]
          rw [write_cons_some, ih, hinsert]
          simp only [List.mem_cons, Prod.mk.injEq, Option.some.injEq, exists_or, exists_and_left,
            exists_eq, and_true]
          rw [or_comm (a := name = key), or_assoc]

/-- No name occurs twice in the list of the headers. -/
theorem nodup_names (h : Headers) : (h.toList.map Prod.fst).Nodup := by
  rw [List.nodup_iff_pairwise_ne, List.pairwise_map]
  refine h.distinct_keys_toList.imp ?_
  intro p q hpq he
  exact hpq (by simp [he])

/-- What a list of pairs says of a name that occurs once in it. -/
theorem lookup_of_mem
    {pairs : List (String × String)} (hnodup : (pairs.map Prod.fst).Nodup) {name value : String}
    (h : (name, value) ∈ pairs) : pairs.lookup name = some value := by
  obtain ⟨before, after, rfl⟩ := List.append_of_mem h
  rw [List.map_append, List.map_cons] at hnodup
  have hdisjoint := (List.nodup_append.mp hnodup).2.2
  refine List.lookup_eq_some_iff.mpr ⟨before, after, rfl, ?_⟩
  intro p hp
  have hne : p.1 ≠ name :=
    hdisjoint _ (List.mem_map_of_mem hp) _ List.mem_cons_self
  simpa using fun e => hne e.symm

/-- The headers in any order say of every name what it holds. -/
theorem lookup_of_perm
    {order : List (String × String)} {h : Headers} (horder : order.Perm h.toList)
    (name : String) : order.lookup name = h[name]? := by
  cases hh : h[name]? with
  | none =>
      rw [List.lookup_eq_none_iff]
      intro p hp
      have hmem := Std.ExtTreeMap.mem_toList_iff_getElem?_eq_some.mp (horder.mem_iff.mp hp)
      by_contra hne
      have he : name = p.1 := by simpa using hne
      rw [he, hmem] at hh
      cases hh
  | some value =>
      have hmem := Std.ExtTreeMap.mem_toList_iff_getElem?_eq_some.mpr hh
      have hnodup : (order.map Prod.fst).Nodup := (horder.map _).nodup_iff.mpr (nodup_names h)
      exact lookup_of_mem hnodup (horder.mem_iff.mpr hmem)

theorem overlay_eq_write (h other : Headers) :
    h.overlay other = h.write (other.toList.map fun p => (p.1, some p.2)) := by
  rw [overlay, write, List.foldl_map]

/-- What a list says of a name when its values were changed by their names. -/
theorem lookup_map
    (pairs : List (String × String)) (f : String → String → Option String) (name : String) :
    ((pairs.map fun p => (p.1, f p.1 p.2)).lookup name).join = (pairs.lookup name).bind (f name) := by
  induction pairs with
  | nil => rfl
  | cons p rest ih =>
      obtain ⟨key, value⟩ := p
      by_cases hkey : name = key
      · subst hkey
        simp
      · have hbeq : (name == key) = false := by simpa using hkey
        simpa [List.lookup_cons, hbeq] using ih

/-- A name holds what the headers laid over say of it, and otherwise what it held. -/
theorem getElem?_overlay (h other : Headers) (name : String) :
    (h.overlay other)[name]? = other[name]?.or h[name]? := by
  have hnodup : ((other.toList.map fun p => (p.1, some p.2)).map Prod.fst).Nodup := by
    simpa [Function.comp_def] using nodup_names other
  rw [overlay_eq_write, getElem?_write hnodup, lookup_map _ fun _ value => some value,
    lookup_of_perm (List.Perm.refl _)]
  cases other[name]? <;> rfl

/-- Every value that is written takes one place at most. -/
theorem size_write_le (h : Headers) (values : List (String × Option String)) :
    (h.write values).size ≤ h.size + values.length := by
  induction values generalizing h with
  | nil => exact Nat.le_refl _
  | cons pair rest ih =>
      obtain ⟨key, value⟩ := pair
      cases value with
      | none =>
          have hrest := ih h
          rw [write_cons_none, List.length_cons]
          omega
      | some value =>
          have hrest := ih (h.insert key value)
          have hinsert := Std.ExtTreeMap.size_insert_le (t := h) (k := key) (v := value)
          rw [write_cons_some, List.length_cons]
          omega

theorem size_overlay_le (h other : Headers) : (h.overlay other).size ≤ h.size + other.size := by
  have hwrite := size_write_le h (other.toList.map fun p => (p.1, some p.2))
  rwa [List.length_map, Std.ExtTreeMap.length_toList, ← overlay_eq_write] at hwrite

/-- Headers that are laid over none are what is held. -/
theorem overlay_empty (h : Headers) : overlay ∅ h = h :=
  eq_of_getElem? fun name => by simp [getElem?_overlay]

end Headers
end FaultRelay
