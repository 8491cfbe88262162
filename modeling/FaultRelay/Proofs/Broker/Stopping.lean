import FaultRelay.Proofs.Broker.Starting

/-!
# Generations of receivers

Receivers are made together, and the latest ones are those that were made last.

**Rule.** `Station.Calmer s s'`: on the way from `s` to `s'` no receiver is made or started,
and what was told to stop stays told.

**Results.**
* `Station.calmer_work`: whatever a receiver does, the station becomes calmer.
* `Station.told_tellAllStop`: the latest receivers can be told to stop.
* `Station.newest_startAll`, `Station.isRunning_startAll`: when all receivers are over, others
  can be made and started, which are the latest ones from then on.
-/

namespace FaultRelay
namespace Station

variable {τ : Type} {s s' : Station τ}

/-- No receiver is made or started, and no receiver that was told to stop may go on. -/
structure Calmer (s s' : Station τ) : Prop where
  latest_eq : s'.latest = s.latest
  exists_before : ∀ (i : Nat) (r' : Receiver τ), s'.receivers[i]? = some r' →
    ∃ r : Receiver τ, s.receivers[i]? = some r ∧ (r'.isRunning = true → r.isRunning = true) ∧
      (r.signal = .stop → r'.signal = .stop)

/-- Only the latest receivers are running. -/
def Newest (s : Station τ) : Prop :=
  ∀ (i : Nat) (r : Receiver τ), s.receivers[i]? = some r → r.isRunning = true → s.latest ≤ i

/-- All of the latest receivers were told to stop. -/
def Told (s : Station τ) : Prop :=
  ∀ (i : Nat) (r : Receiver τ), s.receivers[i]? = some r → s.latest ≤ i → r.signal = .stop

theorem Calmer.of_receivers
    (hlatest : s'.latest = s.latest) (hreceivers : s'.receivers = s.receivers) : s.Calmer s' := by
  refine ⟨hlatest, fun i r' hr' => ⟨r', ?_, fun h => h, fun h => h⟩⟩
  rw [← hreceivers]
  exact hr'

theorem Calmer.refl (s : Station τ) : s.Calmer s :=
  .of_receivers rfl rfl

theorem Calmer.trans {s'' : Station τ} (h : s.Calmer s') (h' : s'.Calmer s'') : s.Calmer s'' := by
  refine ⟨h'.latest_eq.trans h.latest_eq, fun i r'' hr'' => ?_⟩
  obtain ⟨r', hr', hrunning', hsignal'⟩ := h'.exists_before i r'' hr''
  obtain ⟨r, hr, hrunning, hsignal⟩ := h.exists_before i r' hr'
  exact ⟨r, hr, fun hran => hrunning (hrunning' hran), fun hstop => hsignal' (hsignal hstop)⟩

/-- A station in which one receiver changes. -/
theorem Calmer.of_set
    {i : Nat} {r r' : Receiver τ} (hr : s.receivers[i]? = some r)
    (hreceivers : s'.receivers = s.receivers.set i r') (hlatest : s'.latest = s.latest)
    (hrunning : r'.isRunning = true → r.isRunning = true)
    (hsignal : r.signal = .stop → r'.signal = .stop) : s.Calmer s' := by
  refine ⟨hlatest, fun j other hother => ?_⟩
  rw [hreceivers, List.getElem?_set] at hother
  by_cases hij : i = j
  · subst hij
    rw [if_pos rfl, if_pos (List.getElem?_eq_some_iff.mp hr).1] at hother
    cases hother
    exact ⟨r, hr, hrunning, hsignal⟩
  · rw [if_neg hij] at hother
    exact ⟨other, hother, fun h => h, fun h => h⟩

theorem Calmer.newest (h : s.Calmer s') (hnewest : s.Newest) : s'.Newest := by
  intro i r' hr' hran
  obtain ⟨r, hr, hrunning, -⟩ := h.exists_before i r' hr'
  rw [h.latest_eq]
  exact hnewest i r hr (hrunning hran)

theorem Calmer.told (h : s.Calmer s') (htold : s.Told) : s'.Told := by
  intro i r' hr' hlatest
  obtain ⟨r, hr, -, hsignal⟩ := h.exists_before i r' hr'
  rw [h.latest_eq] at hlatest
  exact hsignal (htold i r hr hlatest)

/-! ### Steps of the receivers -/

theorem calmer_withTask
    {i : Nat} {r : Receiver τ} (hr : s.receivers[i]? = some r) (hrunning : r.isRunning = true)
    (h : Handler (Site Memory × τ)) (task : Task) (hlatest : s'.latest = s.latest)
    (hreceivers : s'.receivers = s.receivers.set i (r.withTask h task)) : s.Calmer s' :=
  .of_set hr hreceivers hlatest (fun _ => hrunning) fun hstop => hstop

/-- Whatever a receiver does, it starts no other one. -/
theorem calmer_work (s : Station τ) (i : Nat) : s.Calmer (s.work i) := by
  unfold work
  cases hr : s.receivers[i]? with
  | none => exact .refl s
  | some r =>
      dsimp only
      split
      · rename_i h hjob
        have hrunning : r.isRunning = true := by simp [Receiver.isRunning, hjob]
        unfold look
        split
        · exact calmer_withTask hr hrunning _ _ rfl rfl
        · split
          · exact calmer_withTask hr hrunning _ _ rfl rfl
          · split
            · exact calmer_withTask hr hrunning _ _ rfl rfl
            · split
              · exact calmer_withTask hr hrunning _ _ rfl rfl
              · exact .refl s
      · rename_i h stored d due hjob
        have hrunning : r.isRunning = true := by simp [Receiver.isRunning, hjob]
        unfold proceed
        split
        · exact calmer_withTask hr hrunning _ _ rfl rfl
        · exact calmer_withTask hr hrunning _ _ rfl rfl
        · split
          · exact calmer_withTask hr hrunning _ _ rfl rfl
          · split
            · exact calmer_withTask hr hrunning _ _ rfl rfl
            · exact .refl s
        · exact calmer_withTask hr hrunning _ _ rfl rfl
        · exact calmer_withTask hr hrunning _ _ rfl rfl
      · exact .refl s
      · exact .refl s

/-! ### Receivers that are told to stop -/

theorem calmer_tellStop (s : Station τ) (i : Nat) : s.Calmer (s.tellStop i) := by
  unfold tellStop
  cases hr : s.receivers[i]? with
  | none => exact .refl s
  | some r =>
      have hset : (s.setReceiver i { r with signal := .stop }).receivers =
          s.receivers.set i { r with signal := .stop } := rfl
      exact .of_set hr hset rfl (fun hrunning => hrunning) fun _ => rfl

theorem calmer_foldl_tellStop (places : List Nat) (s : Station τ) :
    s.Calmer (places.foldl tellStop s) := by
  induction places generalizing s with
  | nil => exact .refl s
  | cons i places ih => exact (calmer_tellStop s i).trans (ih (s.tellStop i))

theorem calmer_tellAllStop (s : Station τ) : s.Calmer s.tellAllStop :=
  calmer_foldl_tellStop s.latestPlaces s

theorem signal_tellStop {i : Nat} {r : Receiver τ} (hr : (s.tellStop i).receivers[i]? = some r) :
    r.signal = .stop := by
  unfold tellStop at hr
  cases hbefore : s.receivers[i]? with
  | none =>
      rw [hbefore] at hr
      dsimp only at hr
      rw [hbefore] at hr
      cases hr
  | some before =>
      rw [hbefore] at hr
      simp only [setReceiver] at hr
      rw [List.getElem?_set_self (List.getElem?_eq_some_iff.mp hbefore).1] at hr
      cases hr
      rfl

theorem signal_foldl_tellStop
    {places : List Nat} {i : Nat} (hi : i ∈ places) {r : Receiver τ}
    (hr : (places.foldl tellStop s).receivers[i]? = some r) : r.signal = .stop := by
  induction places generalizing s with
  | nil => cases hi
  | cons j places ih =>
      rcases List.mem_cons.mp hi with rfl | hrest
      · obtain ⟨told, htold, -, hsignal⟩ :=
          (calmer_foldl_tellStop places (s.tellStop i)).exists_before i r hr
        exact hsignal (signal_tellStop htold)
      · exact ih hrest hr

/-- The latest receivers are told to stop. -/
theorem told_tellAllStop (s : Station τ) : s.tellAllStop.Told := by
  intro i r hr hlatest
  obtain ⟨before, hbefore, -, -⟩ := (calmer_tellAllStop s).exists_before i r hr
  rw [(calmer_tellAllStop s).latest_eq] at hlatest
  refine signal_foldl_tellStop (List.mem_iff_getElem?.mpr ⟨i - s.latest, ?_⟩) hr
  have hlt : i < s.receivers.length := (List.getElem?_eq_some_iff.mp hbefore).1
  have hplace : s.latest + (i - s.latest) = i := by omega
  rw [latestPlaces, List.getElem?_drop, hplace, List.getElem?_range hlt]

/-! ### Receivers that are started -/

theorem start_settings (s : Station τ) (i : Nat) (h : Handler (Site Memory × τ)) :
    (s.start i h).2.latest = s.latest ∧
      (s.start i h).2.receivers.map Receiver.settings = s.receivers.map Receiver.settings := by
  unfold start
  cases hr : s.receivers[i]? with
  | none => exact ⟨rfl, rfl⟩
  | some r =>
      dsimp only
      split
      · exact ⟨rfl, rfl⟩
      · split
        · refine ⟨rfl, ?_⟩
          simp only [setReceiver, List.map_set]
          refine set_of_getElem? ?_
          rw [List.getElem?_map, hr, Option.map_some]
        · exact ⟨rfl, rfl⟩

theorem foldl_start_settings
    (h : ReceiverSettings → Handler (Site Memory × τ)) (pairs : List (Nat × ReceiverSettings))
    (s : Station τ) :
    (pairs.foldl (fun s p => (s.start p.1 (h p.2)).2) s).latest = s.latest ∧
      (pairs.foldl (fun s p => (s.start p.1 (h p.2)).2) s).receivers.map Receiver.settings =
        s.receivers.map Receiver.settings := by
  induction pairs generalizing s with
  | nil => exact ⟨rfl, rfl⟩
  | cons p pairs ih =>
      obtain ⟨hlatest, hsettings⟩ := ih (s.start p.1 (h p.2)).2
      obtain ⟨hlatest', hsettings'⟩ := start_settings s p.1 (h p.2)
      exact ⟨hlatest.trans hlatest', hsettings.trans hsettings'⟩

theorem getElem?_start_of_ne
    {i j : Nat} (hne : i ≠ j) (h : Handler (Site Memory × τ)) :
    (s.start i h).2.receivers[j]? = s.receivers[j]? := by
  unfold start
  cases hr : s.receivers[i]? with
  | none => rfl
  | some r =>
      dsimp only
      split
      · rfl
      · split
        · exact List.getElem?_set_ne hne
        · rfl

/-- A receiver that is running is not started again. -/
theorem getElem?_start_of_isRunning
    {i : Nat} {r : Receiver τ} (hr : s.receivers[i]? = some r) (hrunning : r.isRunning = true)
    (j : Nat) (h : Handler (Site Memory × τ)) : (s.start j h).2.receivers[i]? = some r := by
  by_cases hij : j = i
  · subst hij
    have hsome : r.running.isSome = true := by
      unfold Receiver.isRunning at hrunning
      split at hrunning
      · cases hrunning
      · cases hrunning
      · rename_i hjob
        rw [hjob]
        rfl
    unfold start
    simp only [hr, hsome, if_true]
  · rw [getElem?_start_of_ne hij, hr]

theorem isRunning_start
    {i : Nat} {r : Receiver τ} (hr : s.receivers[i]? = some r) (hnone : r.running = none)
    (hcontains : s.memory.contains r.address = true) (h : Handler (Site Memory × τ)) :
    ∃ r' : Receiver τ, (s.start i h).2.receivers[i]? = some r' ∧ r'.isRunning = true := by
  refine ⟨{ r with signal := .run, running := some (h, .idle) }, ?_, rfl⟩
  unfold start
  simp only [hr, hnone, hcontains, Option.isSome_none, Bool.false_eq_true, if_false, if_true]
  exact List.getElem?_set_self (List.getElem?_eq_some_iff.mp hr).1

theorem getElem?_foldl_start_of_isRunning
    {i : Nat} {r : Receiver τ} (hr : s.receivers[i]? = some r) (hrunning : r.isRunning = true)
    (h : ReceiverSettings → Handler (Site Memory × τ)) (pairs : List (Nat × ReceiverSettings)) :
    (pairs.foldl (fun s p => (s.start p.1 (h p.2)).2) s).receivers[i]? = some r := by
  induction pairs generalizing s with
  | nil => exact hr
  | cons p pairs ih => exact ih (getElem?_start_of_isRunning hr hrunning p.1 (h p.2))

/-- A receiver is running after it was to be started, if its queue exists. -/
theorem isRunning_foldl_start
    {i : Nat} {r : Receiver τ} (hr : s.receivers[i]? = some r) (hnone : r.running = none)
    (hcontains : s.memory.contains r.address = true)
    (h : ReceiverSettings → Handler (Site Memory × τ)) {pairs : List (Nat × ReceiverSettings)}
    {rs : ReceiverSettings} (hrs : (i, rs) ∈ pairs) :
    ∃ r' : Receiver τ,
      (pairs.foldl (fun s p => (s.start p.1 (h p.2)).2) s).receivers[i]? = some r' ∧
        r'.isRunning = true := by
  induction pairs generalizing s with
  | nil => cases hrs
  | cons p pairs ih =>
      by_cases hi : p.1 = i
      · obtain ⟨r', hr', hrunning⟩ := isRunning_start hr hnone hcontains (h p.2)
        rw [← hi] at hr' ⊢
        exact ⟨r', getElem?_foldl_start_of_isRunning hr' hrunning h pairs, hrunning⟩
      · have hrest : (i, rs) ∈ pairs := by
          rcases List.mem_cons.mp hrs with heq | hrest
          · exact absurd (congrArg Prod.fst heq).symm hi
          · exact hrest
        have hsame : (s.start p.1 (h p.2)).2.receivers[i]? = some r := by
          rw [getElem?_start_of_ne hi, hr]
        refine ih hsame ?_ hrest
        rw [(start_cases s h p).1]
        exact hcontains

section StartAll

variable {report : Option CriticalReport} {started : List ReceiverSettings}
  {h : ReceiverSettings → Handler (Site Memory × τ)}
  (hs' : s' = ((s.make report started).latestPlaces.zip started).foldl
    (fun s p => (s.start p.1 (h p.2)).2) (s.make report started))

include hs'

theorem latest_startAll : s'.latest = s.receivers.length := by
  rw [hs']
  exact (foldl_start_settings h _ _).1

/-- The receivers that were started are the latest ones. -/
theorem settings_startAll :
    (s'.receivers.drop s'.latest).map Receiver.settings = started := by
  rw [latest_startAll hs', List.map_drop, hs', (foldl_start_settings h _ _).2]
  simp [make, Function.comp_def]

theorem newest_startAll (hquiet : s.Quiet) : s'.Newest := by
  intro i r hr hrunning
  rw [latest_startAll hs']
  exact (settings_of_isRunning_startAll hs' hquiet hr hrunning).1

/-- All of them are running if their queues exist. -/
theorem isRunning_startAll
    (hcontains : ∀ rs ∈ started, s.memory.contains rs.address = true) :
    ∀ r ∈ s'.receivers.drop s'.latest, r.isRunning = true := by
  intro r hr
  obtain ⟨k, hk⟩ := List.mem_iff_getElem?.mp hr
  rw [List.getElem?_drop, latest_startAll hs'] at hk
  have hlength : s'.receivers.length = s.receivers.length + started.length := by
    have hmap := congrArg List.length (foldl_start_settings h
      ((s.make report started).latestPlaces.zip started) (s.make report started)).2
    rw [hs']
    simpa [make] using hmap
  have hlt : k < started.length := by
    have hplace := (List.getElem?_eq_some_iff.mp hk).1
    omega
  have hmade : (s.make report started).receivers[s.receivers.length + k]? =
      some { settings := started[k], report } := by
    rw [getElem?_make, if_neg (by omega), Nat.add_sub_cancel_left,
      List.getElem?_eq_getElem hlt, Option.map_some]
  have hmem : (s.receivers.length + k, started[k]) ∈
      (s.make report started).latestPlaces.zip started := by
    refine List.mem_iff_getElem?.mpr ⟨k, ?_⟩
    rw [List.getElem?_zip_eq_some]
    refine ⟨?_, List.getElem?_eq_getElem hlt⟩
    have hrange : s.receivers.length + k < (s.make report started).receivers.length := by
      simp only [make, List.length_append, List.length_map]
      omega
    rw [latestPlaces, List.getElem?_drop]
    exact List.getElem?_range hrange
  obtain ⟨r', hr', hrunning⟩ := isRunning_foldl_start hmade rfl
    (hcontains _ (List.getElem_mem hlt)) h hmem
  rw [← hs', hk] at hr'
  cases hr'
  exact hrunning

end StartAll

end Station
end FaultRelay
