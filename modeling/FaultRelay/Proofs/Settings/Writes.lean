import FaultRelay.Proofs.Settings.Layers
import Mathlib.Data.List.Induction

/-!
# A source as a sequence of writes

To lay a source over others is to write its values one after the other, each at the end of its path.
An empty table is written too: it takes no place but a free one.

**Rules.**
* `Tree.writes`: what a source writes, in order, each value with its path.
* `Tree.write`: one value at the end of a path.
* `Tree.effect`: what stands at the end of a path after a write, given what stood there.

**Results.**
* `Tree.overlay_eq`: a source is laid over others by its writes.
* `Tree.at?_write`, `Tree.at?_overlay`: what stands at the end of a path after a write, and after a
  whole source.
* `Tree.effects_of_decides`, `Tree.effects_of_not_decides`: a source that decides a path leaves nothing
  of what stood there; any other source leaves it.
-/

namespace FaultRelay
namespace Settings
namespace Tree

/-- A path with the value that is written at its end. -/
abbrev Write : Type := List String × Tree

/-- A write below a name. -/
def Write.below (name : String) (w : Write) : Write :=
  (name :: w.1, w.2)

mutual

/-- What a value writes, at paths from its own place. -/
def leaves : Tree → List Write
  | .table [] => [([], .table [])]
  | .table (entry :: more) => leavesOf (entry :: more)
  | value => [([], value)]

/-- What the entries of a table write, one after the other. -/
def leavesOf : List (String × Tree) → List Write
  | [] => []
  | (name, value) :: rest => (leaves value).map (Write.below name.toLower) ++ leavesOf rest

end

/-- What a source writes. -/
def writes (source : List (String × Tree)) : List Write :=
  source.flatMap fun entry => (leaves entry.2).map fun w => (pathOf entry.1 ++ w.1, w.2)

/-- Writes a value at the end of a path; what is no table on the way is replaced. -/
def write (target : List (String × Tree)) : List String → Tree → List (String × Tree)
  | [], _ => target
  | [name], .table _ => if (target.lookup name).isSome then target else put target name (.table [])
  | [name], value => put target name value
  | name :: next :: rest, value =>
      put target name (.table (write (inner target name) (next :: rest) value))

/-- Writes one after the other. -/
def writeAll (target : List (String × Tree)) (ws : List Write) : List (String × Tree) :=
  ws.foldl (fun t w => write t w.1 w.2) target

/-! ### Laying values over others by writes -/

section Put

variable {target : List (String × Tree)} {name : String} {value : Tree}

theorem put_put (target : List (String × Tree)) (name : String) (value other : Tree) :
    put (put target name value) name other = put target name other := by
  induction target with
  | nil => simp [put]
  | cons entry rest ih =>
      obtain ⟨n, v⟩ := entry
      by_cases hn : n = name
      · simp [put, hn]
      · simp [put, hn, ih]

theorem put_of_lookup (h : target.lookup name = some value) : put target name value = target := by
  induction target with
  | nil => cases h
  | cons entry rest ih =>
      obtain ⟨n, v⟩ := entry
      rw [lookup_cons_eq] at h
      by_cases hn : n = name
      · subst hn
        rw [if_pos rfl, Option.some.injEq] at h
        rw [put, if_pos rfl, ← h]
      · rw [if_neg fun heq => hn heq.symm] at h
        rw [put, if_neg hn, ih h]

/-- Writes below a name fill the table of that name. -/
theorem writeAll_below (target : List (String × Tree)) (name : String) {ws : List Write}
    (hne : ws ≠ []) (hpaths : ∀ w ∈ ws, w.1 ≠ []) :
    writeAll target (ws.map (Write.below name)) =
      put target name (.table (writeAll (inner target name) ws)) := by
  have hone : ∀ (t : List (String × Tree)) (w : Write), w.1 ≠ [] →
      write t (w.below name).1 (w.below name).2 =
        put t name (.table (write (inner t name) w.1 w.2)) := by
    rintro t ⟨_ | ⟨next, rest⟩, value⟩ hw
    · exact absurd rfl hw
    · rfl
  induction ws generalizing target with
  | nil => exact absurd rfl hne
  | cons w ws ih =>
      obtain ⟨hw, hws⟩ := List.forall_mem_cons.mp hpaths
      change writeAll (write target (w.below name).1 (w.below name).2) (ws.map (Write.below name)) =
        put target name (.table (writeAll (write (inner target name) w.1 w.2) ws))
      rw [hone target w hw]
      by_cases hmore : ws = []
      · rw [hmore]
        rfl
      · rw [ih _ hmore hws, inner_put_self, put_put]

end Put

theorem leavesOf_paths_ne_nil (entries : List (String × Tree)) : ∀ w ∈ leavesOf entries, w.1 ≠ [] := by
  induction entries with
  | nil => exact fun w hw => absurd hw (by simp [leavesOf])
  | cons entry rest ih =>
      intro w hw
      rw [leavesOf, List.mem_append, List.mem_map] at hw
      rcases hw with ⟨v, -, rfl⟩ | hw
      · exact List.cons_ne_nil _ _
      · exact ih w hw

mutual

theorem leaves_ne_nil : (value : Tree) → leaves value ≠ []
  | .table [] => List.cons_ne_nil _ _
  | .table (entry :: more) => leavesOf_ne_nil entry more
  | .nil => List.cons_ne_nil _ _
  | .bool _ => List.cons_ne_nil _ _
  | .int _ => List.cons_ne_nil _ _
  | .real _ => List.cons_ne_nil _ _
  | .text _ => List.cons_ne_nil _ _
  | .list _ => List.cons_ne_nil _ _

theorem leavesOf_ne_nil : (entry : String × Tree) → (more : List (String × Tree)) →
    leavesOf (entry :: more) ≠ []
  | (name, value), more => by
      have hvalue := leaves_ne_nil value
      simp [leavesOf, hvalue]

end

theorem writeAll_append (target : List (String × Tree)) (ws more : List Write) :
    writeAll target (ws ++ more) = writeAll (writeAll target ws) more :=
  List.foldl_append

theorem set_table_nil (target : List (String × Tree)) (name : String) :
    set target name (.table []) = write target [name.toLower] (.table []) := by
  cases hlookup : target.lookup name.toLower with
  | none => simp [set, write, hlookup, setAll]
  | some old => cases old <;> simp [set, write, hlookup, setAll, put_of_lookup hlookup]

theorem set_table_cons (target : List (String × Tree)) (name : String) (entry : String × Tree)
    (more : List (String × Tree)) :
    set target name (.table (entry :: more)) =
      put target name.toLower (.table (setAll (inner target name.toLower) (entry :: more))) := by
  cases hlookup : target.lookup name.toLower with
  | none => simp [set, inner, hlookup]
  | some old => cases old <;> simp [set, inner, entries, hlookup]

mutual

/-- A value is laid over what a table holds under a name by writes below that name. -/
theorem set_eq : (target : List (String × Tree)) → (name : String) → (value : Tree) →
    set target name value = writeAll target ((leaves value).map (Write.below name.toLower))
  | target, name, .table [] => set_table_nil target name
  | target, name, .table (entry :: more) => by
      rw [set_table_cons, setAll_eq, leaves, writeAll_below target _ (leavesOf_ne_nil entry more)
        (leavesOf_paths_ne_nil (entry :: more))]
  | target, name, .nil => rfl
  | target, name, .bool _ => rfl
  | target, name, .int _ => rfl
  | target, name, .real _ => rfl
  | target, name, .text _ => rfl
  | target, name, .list _ => rfl

theorem setAll_eq : (target entries : List (String × Tree)) →
    setAll target entries = writeAll target (leavesOf entries)
  | target, [] => rfl
  | target, (name, value) :: rest => by
      rw [setAll, leavesOf, writeAll_append, set_eq, setAll_eq]

end

theorem setAt_eq (target : List (String × Tree)) {names : List String} (hnames : names ≠ [])
    (value : Tree) :
    setAt target names value = writeAll target ((leaves value).map fun w =>
      (names.map String.toLower ++ w.1, w.2)) := by
  induction names generalizing target with
  | nil => exact absurd rfl hnames
  | cons name rest ih =>
      cases rest with
      | nil =>
          rw [setAt, set_eq]
          rfl
      | cons next rest =>
          have hbelow : (leaves value).map (fun w =>
                ((name :: next :: rest).map String.toLower ++ w.1, w.2)) =
              ((leaves value).map fun w =>
                ((next :: rest).map String.toLower ++ w.1, w.2)).map
                  (Write.below name.toLower) := by
            rw [List.map_map]
            rfl
          rw [setAt_cons, ih _ (List.cons_ne_nil _ _), hbelow, writeAll_below]
          · simpa using leaves_ne_nil value
          · intro w hw
            obtain ⟨v, -, rfl⟩ := List.mem_map.mp hw
            exact List.cons_ne_nil _ _

theorem pathOf_ne_nil (name : String) : pathOf name ≠ [] := by
  unfold pathOf path?
  dsimp only
  split
  · simp [List.splitOn_ne_nil]
  · simp

/-- A source is laid over others by its writes. -/
theorem overlay_eq (target source : List (String × Tree)) :
    overlay target source = writeAll target (writes source) := by
  induction source generalizing target with
  | nil => rfl
  | cons entry rest ih =>
      obtain ⟨name, value⟩ := entry
      have hnames : (path? name).getD [name] ≠ [] := by
        intro hnil
        exact pathOf_ne_nil name (by rw [pathOf, hnil]; rfl)
      change overlay (setNamed target name value) rest = _
      rw [ih, setNamed_eq, setAt_eq _ hnames, writes, writes, List.flatMap_cons, writeAll_append]
      rfl

theorem writes_paths_ne_nil (source : List (String × Tree)) : ∀ w ∈ writes source, w.1 ≠ [] := by
  intro w hw
  obtain ⟨entry, -, hw⟩ := List.mem_flatMap.mp hw
  obtain ⟨v, -, rfl⟩ := List.mem_map.mp hw
  exact List.append_ne_nil_of_left_ne_nil (pathOf_ne_nil entry.1) _

/-! ### What stands at the end of a path -/

/-- What stands at the end of a path after a write that does not go on from there. -/
def effect (path : List String) (old : Option Tree) (w : Write) : Option Tree :=
  if w.1 = path then
    match w.2 with
    | .table _ => some (old.getD (.table []))
    | value => some value
  else if w.1 <+: path then
    match w.2 with
    | .table _ => old
    | _ => none
  else old

/-- A write decides a path: its value is no table, and stands at the end of the path or above it. -/
def Write.Decides (w : Write) (path : List String) : Prop :=
  IsLeaf w.2 ∧ w.1 <+: path

section At

variable {target : List (String × Tree)} {path : List String} {value : Tree}

theorem at?_nil (path : List String) : at? [] path = none := by
  induction path with
  | nil => rfl
  | cons key keys ih =>
      cases keys with
      | nil => rfl
      | cons next keys => exact ih

theorem at?_cons_cons (target : List (String × Tree)) (name next : String) (rest : List String) :
    at? target (name :: next :: rest) = at? (inner target name) (next :: rest) := rfl

/-- Below a value that is no table stands nothing. -/
theorem inner_put_of_entries {name : String} (h : value.entries = []) :
    inner (put target name value) name = [] := by
  simp [inner, lookup_put, h]

theorem isLeaf_or_eq_table (value : Tree) :
    IsLeaf value ∨ ∃ entries : List (String × Tree), value = .table entries := by
  cases value with
  | table entries => exact Or.inr ⟨entries, rfl⟩
  | _ => exact Or.inl nofun

theorem IsLeaf.entries_eq_nil (hleaf : IsLeaf value) : value.entries = [] := by
  cases value with
  | table entries => exact absurd rfl (hleaf entries)
  | _ => rfl

theorem write_leaf (hleaf : IsLeaf value) (name : String) :
    write target [name] value = put target name value := by
  cases value with
  | table entries => exact absurd rfl (hleaf entries)
  | _ => rfl

theorem effect_leaf (hleaf : IsLeaf value) (names : List String) (old : Option Tree) :
    effect path old (names, value) =
      if names = path then some value else if names <+: path then none else old := by
  cases value with
  | table entries => exact absurd rfl (hleaf entries)
  | _ => rfl

theorem effect_table (names : List String) (old : Option Tree) (entries : List (String × Tree)) :
    effect path old (names, .table entries) =
      if names = path then some (old.getD (.table [])) else old := by
  simp only [effect, ite_self]

theorem at?_write_of_ne {name key : String} (hkey : key ≠ name) (rest keys : List String) :
    at? (write target (name :: rest) value) (key :: keys) = at? target (key :: keys) := by
  cases rest with
  | nil =>
      rcases isLeaf_or_eq_table value with hleaf | ⟨entries, rfl⟩
      · rw [write_leaf hleaf, at?_put_of_ne hkey]
      · rw [write]
        split
        · rfl
        · exact at?_put_of_ne hkey keys
  | cons next rest => exact at?_put_of_ne hkey keys

/-- What stands at the end of a path after a write at its first name. -/
theorem at?_write_singleton (key : String) (keys : List String) :
    at? (write target [key] value) (key :: keys) =
      effect (key :: keys) (at? target (key :: keys)) ([key], value) := by
  rcases isLeaf_or_eq_table value with hleaf | ⟨entries, rfl⟩
  · rw [write_leaf hleaf, effect_leaf hleaf]
    cases keys with
    | nil => rw [if_pos rfl, at?, lookup_put, if_pos rfl]
    | cons next keys =>
        rw [if_neg (by simp), if_pos (by simp), at?_cons_cons,
          inner_put_of_entries hleaf.entries_eq_nil, at?_nil]
  · rw [write, effect_table]
    cases keys with
    | nil =>
        cases hlookup : target.lookup key with
        | none => simp [at?, hlookup, lookup_put]
        | some old => simp [at?, hlookup]
    | cons next keys =>
        have hlonger : ¬[key] = key :: next :: keys := by simp
        rw [if_neg hlonger]
        cases hlookup : target.lookup key with
        | none =>
            have hnone : inner target key = [] := by simp [inner, hlookup]
            rw [if_neg (by simp), at?_cons_cons, at?_cons_cons, inner_put_self, hnone]
        | some old => rfl

/-- What stands at the end of a path after a write that does not go on from there. -/
theorem at?_write (hpath : path ≠ []) {names : List String} (hnames : names ≠ [])
    (hbelow : path <+: names → names = path) :
    at? (write target names value) path = effect path (at? target path) (names, value) := by
  induction names generalizing target path with
  | nil => exact absurd rfl hnames
  | cons name rest ih =>
      obtain ⟨key, keys, rfl⟩ := List.exists_cons_of_ne_nil hpath
      by_cases hkey : key = name
      · subst hkey
        cases rest with
        | nil => exact at?_write_singleton key keys
        | cons next rest =>
            cases keys with
            | nil =>
                have hsame := hbelow (List.prefix_append [key] (next :: rest))
                simp at hsame
            | cons following keys =>
                have hrest : following :: keys <+: next :: rest →
                    next :: rest = following :: keys := by
                  intro hmore
                  exact (List.cons.inj (hbelow (List.cons_prefix_cons.mpr ⟨rfl, hmore⟩))).2
                rw [write, at?_cons_cons, inner_put_self,
                  ih (List.cons_ne_nil _ _) (List.cons_ne_nil _ _) hrest]
                simp only [effect, List.cons_prefix_cons, List.cons.injEq, true_and]
                rfl
      · rw [at?_write_of_ne hkey]
        have hother : ¬name :: rest <+: key :: keys :=
          fun h => hkey (List.cons_prefix_cons.mp h).1.symm
        have hne : ¬name :: rest = key :: keys := fun h => hkey (List.cons.inj h).1.symm
        rw [effect, if_neg hne, if_neg hother]

/-- Where a path goes on there is a table. -/
theorem at?_write_below (target : List (String × Tree)) (value : Tree) (hpath : path ≠ [])
    {names : List String} (hbelow : path <+: names) (hother : names ≠ path) :
    ∃ entries : List (String × Tree), at? (write target names value) path = some (.table entries) := by
  induction path generalizing target names with
  | nil => exact absurd rfl hpath
  | cons key keys ih =>
      obtain ⟨more, rfl⟩ := hbelow
      cases keys with
      | nil =>
          cases more with
          | nil => exact absurd rfl hother
          | cons next more => exact ⟨_, by rw [List.singleton_append, write, at?, lookup_put, if_pos rfl]⟩
      | cons next keys =>
          change ∃ entries, at? (put target key _) (key :: next :: keys) = _
          rw [at?_cons_cons, inner_put_self]
          exact ih _ (List.cons_ne_nil _ _) (List.prefix_append _ _) (by simpa using hother)

end At

/-! ### Writes one after the other -/

section Run

variable {target : List (String × Tree)} {path : List String} {ws : List Write}

/-- What stands at the end of a path after writes that do not go on from there. -/
theorem at?_writeAll (hpath : path ≠ []) (hnames : ∀ w ∈ ws, w.1 ≠ [])
    (hbelow : ∀ w ∈ ws, path <+: w.1 → w.1 = path) :
    at? (writeAll target ws) path = ws.foldl (effect path) (at? target path) := by
  induction ws generalizing target with
  | nil => rfl
  | cons w ws ih =>
      obtain ⟨hname, hnames⟩ := List.forall_mem_cons.mp hnames
      obtain ⟨hfirst, hbelow⟩ := List.forall_mem_cons.mp hbelow
      change at? (writeAll (write target w.1 w.2) ws) path = _
      rw [ih hnames hbelow, at?_write hpath hname hfirst]
      rfl

/-- A write that decides a path leaves nothing of what stood there. -/
theorem effect_of_decides {w : Write} (h : w.Decides path) (old other : Option Tree) :
    effect path old w = effect path other w := by
  obtain ⟨names, value⟩ := w
  rw [effect_leaf h.1, effect_leaf h.1]
  split
  · rfl
  · rw [if_pos h.2, if_pos h.2]

/-- Any other write leaves what stood there, and fills a free place with an empty table at most. -/
theorem effect_of_not_decides {w : Write} (h : ¬w.Decides path) (old : Option Tree) :
    effect path old w = old ∨ old = none ∧ effect path old w = some (.table []) := by
  obtain ⟨names, value⟩ := w
  rcases isLeaf_or_eq_table value with hleaf | ⟨entries, rfl⟩
  · have hapart : ¬names <+: path := fun hbegins => h ⟨hleaf, hbegins⟩
    have hne : names ≠ path := by
      rintro rfl
      exact hapart (List.prefix_refl _)
    rw [effect_leaf hleaf, if_neg hne, if_neg hapart]
    exact Or.inl rfl
  · rw [effect_table]
    split
    · cases old with
      | none => exact Or.inr ⟨rfl, rfl⟩
      | some v => exact Or.inl rfl
    · exact Or.inl rfl

/-- After a write that decides a path nothing is left of what stood there before. -/
theorem effects_of_decides (h : ∃ w ∈ ws, w.Decides path) (old other : Option Tree) :
    ws.foldl (effect path) old = ws.foldl (effect path) other := by
  induction ws generalizing old other with
  | nil =>
      obtain ⟨w, hw, -⟩ := h
      cases hw
  | cons w ws ih =>
      rw [List.foldl_cons, List.foldl_cons]
      by_cases hlater : ∃ w ∈ ws, w.Decides path
      · exact ih hlater _ _
      · obtain ⟨v, hv, hdecides⟩ := h
        rcases List.mem_cons.mp hv with rfl | hv
        · rw [effect_of_decides hdecides]
        · exact absurd ⟨v, hv, hdecides⟩ hlater

/-- Without such a write it is left, and a free place holds an empty table at most. -/
theorem effects_of_not_decides (h : ∀ w ∈ ws, ¬w.Decides path) (old : Option Tree) :
    ws.foldl (effect path) old = old ∨
      old = none ∧ ws.foldl (effect path) old = some (.table []) := by
  induction ws generalizing old with
  | nil => exact Or.inl rfl
  | cons w ws ih =>
      obtain ⟨hw, hws⟩ := List.forall_mem_cons.mp h
      rw [List.foldl_cons]
      rcases effect_of_not_decides hw old with hsame | ⟨hnone, htable⟩
      · rw [hsame]
        exact ih hws old
      · rw [htable]
        rcases ih hws (some (.table [])) with hkept | ⟨hempty, -⟩
        · exact Or.inr ⟨hnone, hkept⟩
        · cases hempty

theorem at?_list_of_write (hpath : path ≠ []) {w : Write} (hname : w.1 ≠ []) {items : List Tree}
    (h : at? (write target w.1 w.2) path = some (.list items)) :
    at? target path = some (.list items) ∨ (path, .list items) = w := by
  obtain ⟨names, value⟩ := w
  by_cases hbelow : path <+: names ∧ names ≠ path
  · obtain ⟨entries, htable⟩ := at?_write_below target value hpath hbelow.1 hbelow.2
    rw [htable] at h
    cases h
  · have hends : path <+: names → names = path := by
      intro hbegins
      by_contra hne
      exact hbelow ⟨hbegins, hne⟩
    rw [at?_write hpath hname hends] at h
    rcases isLeaf_or_eq_table value with hleaf | ⟨entries, rfl⟩
    · rw [effect_leaf hleaf] at h
      split at h
      · next hsame =>
          right
          rw [← hsame, Option.some.inj h]
      · split at h
        · cases h
        · exact Or.inl h
    · rw [effect_table] at h
      split at h
      · cases hold : at? target path with
        | none =>
            rw [hold] at h
            cases h
        | some old =>
            rw [hold] at h
            exact Or.inl h
      · exact Or.inl h

/-- A list stands where it was written. -/
theorem at?_list_of_writeAll (hpath : path ≠ []) (hnames : ∀ w ∈ ws, w.1 ≠ []) {items : List Tree}
    (h : at? (writeAll target ws) path = some (.list items)) :
    at? target path = some (.list items) ∨ (path, .list items) ∈ ws := by
  induction ws generalizing target with
  | nil => exact Or.inl h
  | cons w ws ih =>
      obtain ⟨hname, hnames⟩ := List.forall_mem_cons.mp hnames
      rcases ih hnames h with hbefore | hmem
      · rcases at?_list_of_write hpath hname hbefore with hold | rfl
        · exact Or.inl hold
        · exact Or.inr (.head _)
      · exact Or.inr (.tail _ hmem)

end Run

/-! ### Sources one over the other -/

/-- A source decides a path: one of its writes does. -/
def DecidedBy (path : List String) (source : List (String × Tree)) : Prop :=
  ∃ w ∈ writes source, w.Decides path

section Sources

variable {target source : List (String × Tree)} {path : List String}

theorem at?_overlay (hpath : path ≠ []) (hbelow : ∀ w ∈ writes source, path <+: w.1 → w.1 = path) :
    at? (overlay target source) path = (writes source).foldl (effect path) (at? target path) := by
  rw [overlay_eq, at?_writeAll hpath (writes_paths_ne_nil source) hbelow]

/-- What stands at the end of a path is what the last source that decides it leaves there alone, or
else an empty table where that leaves nothing. -/
theorem at?_sources {sources : List (List (String × Tree))} (hpath : path ≠ [])
    (hbelow : ∀ source ∈ sources, ∀ w ∈ writes source, path <+: w.1 → w.1 = path) :
    ∃ alone : Option Tree,
      (at? (sources.foldl overlay []) path = alone ∨
        alone = none ∧ at? (sources.foldl overlay []) path = some (.table [])) ∧
      ((∀ source ∈ sources, ¬DecidedBy path source) ∧ alone = none ∨
        ∃ (before later : List (List (String × Tree))) (source : List (String × Tree)),
          sources = before ++ source :: later ∧ DecidedBy path source ∧
            (∀ other ∈ later, ¬DecidedBy path other) ∧ at? (overlay [] source) path = alone) := by
  induction sources using List.reverseRecOn with
  | nil => exact ⟨none, Or.inl (at?_nil path), Or.inl ⟨nofun, rfl⟩⟩
  | append_singleton sources source ih =>
      obtain ⟨alone, hstands, hlast⟩ := ih fun other hother => hbelow other (by simp [hother])
      have hsource := hbelow source (by simp)
      rw [List.foldl_append, List.foldl_cons, List.foldl_nil, at?_overlay hpath hsource]
      -- The last source decides the path, or what the ones before it leave there stays.
      by_cases hdecided : DecidedBy path source
      · refine ⟨_, Or.inl rfl, Or.inr ⟨sources, [], source, rfl, hdecided, nofun, ?_⟩⟩
        rw [at?_overlay hpath hsource]
        exact effects_of_decides hdecided _ _
      · refine ⟨alone, ?_, ?_⟩
        · rcases effects_of_not_decides (fun w hw hdecides => hdecided ⟨w, hw, hdecides⟩)
            (at? (sources.foldl overlay []) path) with hsame | ⟨hfree, htable⟩
          · rw [hsame]
            exact hstands
          · refine Or.inr ⟨?_, htable⟩
            rcases hstands with hold | ⟨hnone, -⟩
            · rw [← hold, hfree]
            · exact hnone
        · rcases hlast with ⟨hnone, halone⟩ | ⟨before, later, last, rfl, hlast, hlater, halone⟩
          · refine Or.inl ⟨?_, halone⟩
            simpa [or_imp, forall_and] using ⟨hnone, hdecided⟩
          · refine Or.inr ⟨before, later ++ [source], last, by simp, hlast, ?_, halone⟩
            simpa [or_imp, forall_and] using ⟨hlater, hdecided⟩

/-- A list stands where one of the sources writes it. -/
theorem exists_list_of_sources {sources : List (List (String × Tree))} (hpath : path ≠ [])
    {items : List Tree} (h : at? (sources.foldl overlay []) path = some (.list items)) :
    ∃ source ∈ sources, (path, .list items) ∈ writes source := by
  induction sources using List.reverseRecOn with
  | nil =>
      rw [List.foldl_nil, at?_nil] at h
      cases h
  | append_singleton sources source ih =>
      rw [List.foldl_append, List.foldl_cons, List.foldl_nil, overlay_eq] at h
      rcases at?_list_of_writeAll hpath (writes_paths_ne_nil source) h with hbefore | hmem
      · obtain ⟨other, hother, hwrite⟩ := ih hbefore
        exact ⟨other, List.mem_append_left _ hother, hwrite⟩
      · exact ⟨source, by simp, hmem⟩

end Sources

end Tree
end Settings
end FaultRelay
