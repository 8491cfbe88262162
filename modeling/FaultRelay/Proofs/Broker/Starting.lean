import FaultRelay.Proofs.Broker.Station

/-!
# Starting and stopping receivers

What is done to the receivers of a station from outside: they are told something, or new
ones are made and started when all earlier ones are over.

**Results.**
* `Station.SameWork.served`, `Station.SameWork.held_eq`: it does not matter for the work of
  the receivers what they are told.
* `Station.served_startAll`: receivers that are started on different queues make up a
  served station that holds nothing yet.
-/

namespace FaultRelay
namespace Station

variable {τ : Type} {route : ReceiverSettings → Route} {s s' : Station τ}

/-- Stations whose receivers do the same work, on a broker with the same messages. -/
structure SameWork (s s' : Station τ) : Prop where
  work_eq : (s'.receivers.map fun r => (r.settings, r.running)) =
    s.receivers.map fun r => (r.settings, r.running)
  sameQueues : s.memory.SameQueues s'.memory

/-- No receiver is running. -/
def Quiet (s : Station τ) : Prop :=
  ∀ (i : Nat) (r : Receiver τ), s.receivers[i]? = some r → r.isRunning = false

theorem quiet_of_isQuiet (h : s.isQuiet = true) : s.Quiet := by
  intro i r hr
  rw [isQuiet, List.all_eq_true] at h
  simpa using h r (List.mem_of_getElem? hr)

theorem SameWork.of_receivers
    (hreceivers : s'.receivers = s.receivers) (hsame : s.memory.SameQueues s'.memory) :
    s.SameWork s' :=
  ⟨by rw [hreceivers], hsame⟩

theorem SameWork.refl (s : Station τ) : s.SameWork s :=
  .of_receivers rfl (.refl s.memory)

theorem SameWork.trans
    {s'' : Station τ} (h : s.SameWork s') (h' : s'.SameWork s'') : s.SameWork s'' :=
  ⟨h'.work_eq.trans h.work_eq, h.sameQueues.trans h'.sameQueues⟩

theorem SameWork.exists_getElem?
    (h : s.SameWork s') {i : Nat} {r' : Receiver τ} (hr : s'.receivers[i]? = some r') :
    ∃ r : Receiver τ, s.receivers[i]? = some r ∧ r'.settings = r.settings ∧
      r'.running = r.running := by
  have hmap := congrArg (·[i]?) h.work_eq
  simp only [List.getElem?_map, hr, Option.map_some] at hmap
  cases hbefore : s.receivers[i]? with
  | none => simp [hbefore] at hmap
  | some r =>
      simp only [hbefore, Option.map_some, Option.some.injEq, Prod.mk.injEq] at hmap
      exact ⟨r, rfl, hmap.1, hmap.2⟩

theorem SameWork.quiet (h : s.SameWork s') (hquiet : s.Quiet) : s'.Quiet := by
  intro i r' hr'
  obtain ⟨r, hr, -, hrunning⟩ := h.exists_getElem? hr'
  rw [Receiver.isRunning_eq hrunning]
  exact hquiet i r hr

theorem SameWork.held_eq (h : s.SameWork s') (queue : String) : s'.held queue = s.held queue := by
  have hheld : ∀ s : Station τ, s.held queue =
      (s.receivers.map fun r => (r.settings, r.running)).flatMap fun job =>
        if job.1.address = queue then
          ({ settings := job.1, report := none, running := job.2 } : Receiver τ).held
        else [] := by
    intro s
    rw [List.flatMap_map]
    rfl
  rw [hheld, hheld, h.work_eq]

theorem SameWork.served (h : s.SameWork s') (hserved : s.Served route) : s'.Served route where
  proper i r' hr' := by
    obtain ⟨r, hr, hsettings, hrunning⟩ := h.exists_getElem? hr'
    exact (hserved.proper i r hr).of_same hsettings hrunning h.sameQueues.contains_of_contains
  exclusive i j r₁' r₂' hr₁' hr₂' := by
    obtain ⟨r₁, hr₁, hsettings₁, hrunning₁⟩ := h.exists_getElem? hr₁'
    obtain ⟨r₂, hr₂, hsettings₂, hrunning₂⟩ := h.exists_getElem? hr₂'
    rw [Receiver.isRunning_eq hrunning₁, Receiver.isRunning_eq hrunning₂, Receiver.address, Receiver.address,
      hsettings₁, hsettings₂]
    exact hserved.exclusive i j r₁ r₂ hr₁ hr₂

/-- It does not matter which messages the queues have, as long as the queues stay. -/
theorem Served.of_receivers
    (h : s.Served route) (hreceivers : s'.receivers = s.receivers)
    (hcontains : ∀ queue : String, s.memory.contains queue = true →
      s'.memory.contains queue = true) : s'.Served route where
  proper i r hr := by
    rw [hreceivers] at hr
    exact (h.proper i r hr).of_same rfl rfl hcontains
  exclusive := by
    rw [hreceivers]
    exact h.exclusive

theorem sameWork_tellStop (s : Station τ) (i : Nat) : s.SameWork (s.tellStop i) := by
  unfold tellStop
  cases hr : s.receivers[i]? with
  | none => exact .refl s
  | some r =>
      refine ⟨?_, .refl s.memory⟩
      simp only [setReceiver, List.map_set]
      refine set_of_getElem? ?_
      rw [List.getElem?_map, hr, Option.map_some]

theorem sameWork_tellAllStop (s : Station τ) : s.SameWork s.tellAllStop := by
  have hfold : ∀ (places : List Nat) (s : Station τ), s.SameWork (places.foldl tellStop s) := by
    intro places
    induction places with
    | nil => exact fun s => .refl s
    | cons i places ih => exact fun s => (sameWork_tellStop s i).trans (ih (s.tellStop i))
  exact hfold s.latestPlaces s

/-- Nothing is held while nothing is delivered. -/
theorem held_eq_nil
    (h : ∀ (i : Nat) (r : Receiver τ), s.receivers[i]? = some r → r.delivered? = none)
    (queue : String) : s.held queue = [] := by
  refine List.flatMap_eq_nil_iff.mpr fun r hr => ?_
  obtain ⟨i, hi⟩ := List.mem_iff_getElem?.mp hr
  split
  · rw [Receiver.held, h i r hi]
  · rfl

theorem Quiet.held_eq_nil (h : s.Quiet) (queue : String) : s.held queue = [] :=
  Station.held_eq_nil (fun i r hr => delivered?_of_not_isRunning (h i r hr)) queue

/-- What a receiver is after others were started. -/
def StartedFrom (h : ReceiverSettings → Handler (Site Memory × τ)) (m : Memory)
    (pairs : List (Nat × ReceiverSettings)) (i : Nat) (r r' : Receiver τ) : Prop :=
  r'.settings = r.settings ∧
    (r'.running = r.running ∨
      ∃ rs : ReceiverSettings, (i, rs) ∈ pairs ∧ r'.running = some (h rs, .idle) ∧
        m.contains r.address = true)

theorem start_cases
    (s : Station τ) (h : ReceiverSettings → Handler (Site Memory × τ)) (p : Nat × ReceiverSettings) :
    (s.start p.1 (h p.2)).2.memory = s.memory ∧
      ∀ (i : Nat) (r' : Receiver τ), (s.start p.1 (h p.2)).2.receivers[i]? = some r' →
        ∃ r : Receiver τ, s.receivers[i]? = some r ∧ StartedFrom h s.memory [p] i r r' := by
  have hsame : ∀ (i : Nat) (r' : Receiver τ), s.receivers[i]? = some r' →
      ∃ r : Receiver τ, s.receivers[i]? = some r ∧ StartedFrom h s.memory [p] i r r' :=
    fun i r' hr' => ⟨r', hr', rfl, Or.inl rfl⟩
  unfold start
  cases hr : s.receivers[p.1]? with
  | none => exact ⟨rfl, hsame⟩
  | some r =>
      dsimp only
      split
      · exact ⟨rfl, hsame⟩
      · split
        · rename_i hcontains
          refine ⟨rfl, fun i r' hr' => ?_⟩
          simp only [setReceiver, List.getElem?_set] at hr'
          by_cases hi : p.1 = i
          · subst hi
            rw [if_pos rfl, if_pos (List.getElem?_eq_some_iff.mp hr).1] at hr'
            cases hr'
            exact ⟨r, hr, rfl, Or.inr ⟨p.2, by simp, rfl, hcontains⟩⟩
          · rw [if_neg hi] at hr'
            exact hsame i r' hr'
        · exact ⟨rfl, hsame⟩

theorem foldl_start_cases
    (h : ReceiverSettings → Handler (Site Memory × τ)) (pairs : List (Nat × ReceiverSettings))
    (s : Station τ) :
    (pairs.foldl (fun s p => (s.start p.1 (h p.2)).2) s).memory = s.memory ∧
      ∀ (i : Nat) (r' : Receiver τ),
        (pairs.foldl (fun s p => (s.start p.1 (h p.2)).2) s).receivers[i]? = some r' →
          ∃ r : Receiver τ, s.receivers[i]? = some r ∧ StartedFrom h s.memory pairs i r r' := by
  induction pairs generalizing s with
  | nil => exact ⟨rfl, fun i r' hr' => ⟨r', hr', rfl, Or.inl rfl⟩⟩
  | cons p pairs ih =>
      obtain ⟨hmemory, hfirst⟩ := start_cases s h p
      obtain ⟨hmemory', hrest⟩ := ih (s.start p.1 (h p.2)).2
      refine ⟨hmemory'.trans hmemory, fun i r'' hr'' => ?_⟩
      obtain ⟨r', hr', hsettings', hrunning'⟩ := hrest i r'' hr''
      obtain ⟨r, hr, hsettings, hrunning⟩ := hfirst i r' hr'
      refine ⟨r, hr, hsettings'.trans hsettings, ?_⟩
      rcases hrunning' with hsame | ⟨rs, hrs, hstarted, hcontains⟩
      · rcases hrunning with hbefore | ⟨rs, hrs, hstarted, hcontains⟩
        · exact Or.inl (hsame.trans hbefore)
        · exact Or.inr ⟨rs, by simpa using Or.inl (List.mem_singleton.mp hrs),
            hsame.trans hstarted, hcontains⟩
      · refine Or.inr ⟨rs, List.mem_cons_of_mem p hrs, hstarted, ?_⟩
        rw [hmemory, Receiver.address, hsettings] at hcontains
        exact hcontains

/-- The latest receivers are the ones that were made last. -/
theorem getElem?_make
    (s : Station τ) (report : Option CriticalReport) (settings : List ReceiverSettings) (i : Nat) :
    (s.make report settings).receivers[i]? =
      if i < s.receivers.length then s.receivers[i]?.map fun r => { r with signal := .dropped }
      else settings[i - s.receivers.length]?.map fun rs => { settings := rs, report } := by
  simp only [make, List.getElem?_append, List.length_map, List.getElem?_map]

theorem getElem?_of_mem_zip_latestPlaces
    {report : Option CriticalReport} {settings : List ReceiverSettings} {i : Nat}
    {rs : ReceiverSettings} (h : (i, rs) ∈ (s.make report settings).latestPlaces.zip settings) :
    s.receivers.length ≤ i ∧ settings[i - s.receivers.length]? = some rs := by
  obtain ⟨k, hk⟩ := List.mem_iff_getElem?.mp h
  rw [List.getElem?_zip_eq_some] at hk
  obtain ⟨hplace, hrs⟩ := hk
  simp only [latestPlaces, make, List.getElem?_drop] at hplace
  have hi : s.receivers.length + k = i := by
    rw [List.getElem?_eq_some_iff] at hplace
    obtain ⟨hlt, hplace⟩ := hplace
    simpa using hplace
  subst hi
  refine ⟨by omega, ?_⟩
  rw [Nat.add_sub_cancel_left]
  exact hrs

/-- The receivers of a quiet station after others were made and started. -/
theorem getElem?_startAll
    {report : Option CriticalReport} {started : List ReceiverSettings}
    {h : ReceiverSettings → Handler (Site Memory × τ)} {i : Nat} {r' : Receiver τ}
    (hr' : (((s.make report started).latestPlaces.zip started).foldl
      (fun s p => (s.start p.1 (h p.2)).2) (s.make report started)).receivers[i]? = some r') :
    (∃ r : Receiver τ, s.receivers[i]? = some r ∧ r'.settings = r.settings ∧
      r'.running = r.running) ∨
    r'.running = none ∨
    (s.receivers.length ≤ i ∧ started[i - s.receivers.length]? = some r'.settings ∧
      r'.running = some (h r'.settings, .idle) ∧ s.memory.contains r'.address = true) := by
  obtain ⟨r, hr, hsettings, hrunning⟩ := (foldl_start_cases h _ _).2 i r' hr'
  rw [getElem?_make] at hr
  rcases hrunning with hsame | ⟨rs, hrs, hstarted, hcontains⟩
  · by_cases hi : i < s.receivers.length
    · rw [if_pos hi, Option.map_eq_some_iff] at hr
      obtain ⟨before, hbefore, rfl⟩ := hr
      exact Or.inl ⟨before, hbefore, hsettings, hsame⟩
    · rw [if_neg hi, Option.map_eq_some_iff] at hr
      obtain ⟨rs, -, rfl⟩ := hr
      exact Or.inr (Or.inl hsame)
  · obtain ⟨hi, hplace⟩ := getElem?_of_mem_zip_latestPlaces hrs
    rw [if_neg (by omega), hplace, Option.map_some] at hr
    cases hr
    have hsettings : r'.settings = rs := hsettings
    rw [hsettings]
    refine Or.inr (Or.inr ⟨hi, hplace, hstarted, ?_⟩)
    rw [Receiver.address, hsettings]
    exact hcontains

section StartAll

variable {report : Option CriticalReport} {started : List ReceiverSettings}
  {h : ReceiverSettings → Handler (Site Memory × τ)} {s' : Station τ}
  (hs' : s' = ((s.make report started).latestPlaces.zip started).foldl
    (fun s p => (s.start p.1 (h p.2)).2) (s.make report started))

include hs'

theorem memory_startAll : s'.memory = s.memory := by
  rw [hs']
  exact (foldl_start_cases h _ _).1

/-- When all others were quiet, only the receivers that were started are running. -/
theorem settings_of_isRunning_startAll
    (hquiet : s.Quiet) {i : Nat} {r' : Receiver τ} (hr' : s'.receivers[i]? = some r')
    (hrunning : r'.isRunning = true) :
    s.receivers.length ≤ i ∧ started[i - s.receivers.length]? = some r'.settings := by
  subst hs'
  rcases getElem?_startAll hr' with ⟨r, hr, -, hsame⟩ | hnone | ⟨hi, hplace, -, -⟩
  · rw [Receiver.isRunning_eq hsame, hquiet i r hr] at hrunning
    cases hrunning
  · simp [Receiver.isRunning, hnone] at hrunning
  · exact ⟨hi, hplace⟩

theorem delivered?_startAll
    (hquiet : s.Quiet) {i : Nat} {r' : Receiver τ} (hr' : s'.receivers[i]? = some r') :
    r'.delivered? = none := by
  subst hs'
  rcases getElem?_startAll hr' with ⟨r, hr, -, hsame⟩ | hnone | ⟨-, -, hidle, -⟩
  · refine delivered?_of_not_isRunning ?_
    rw [Receiver.isRunning_eq hsame, hquiet i r hr]
  · simp [Receiver.delivered?, hnone]
  · simp [Receiver.delivered?, hidle]

theorem quiet_startAll (hquiet : s.Quiet) (hnil : started = []) : s'.Quiet := by
  intro i r' hr'
  by_contra hnot
  rw [Bool.not_eq_false] at hnot
  have hplace := (settings_of_isRunning_startAll hs' hquiet hr' hnot).2
  simp [hnil] at hplace

theorem proper_startAll
    (hserved : s.Served route)
    (hhandler : ∀ rs : ReceiverSettings, h rs = ((route rs).handler Memory.dispatch).beside τ)
    {i : Nat} {r' : Receiver τ} (hr' : s'.receivers[i]? = some r') :
    r'.Proper route s'.memory := by
  rw [memory_startAll hs']
  subst hs'
  rcases getElem?_startAll hr' with ⟨r, hr, hsettings, hsame⟩ | hnone | ⟨-, -, hidle, hcontains⟩
  · exact (hserved.proper i r hr).of_same hsettings hsame fun queue hqueue => hqueue
  · exact {
      handler_eq := by simp [hnone]
      received_eq := by simp [Receiver.delivered?, hnone]
      contains := by simp [Receiver.isRunning, hnone] }
  · exact {
      handler_eq := by
        intro h' task hrunning
        rw [hidle] at hrunning
        cases hrunning
        exact hhandler r'.settings
      received_eq := by simp [Receiver.delivered?, hidle]
      contains := fun _ => hcontains }

/-- Receivers that are started on different queues make up a served station. -/
theorem served_startAll
    (hserved : s.Served route) (hquiet : s.Quiet)
    (hnodup : (started.map ReceiverSettings.address).Nodup)
    (hhandler : ∀ rs : ReceiverSettings, h rs = ((route rs).handler Memory.dispatch).beside τ) :
    s'.Served route where
  proper _ _ hr' := proper_startAll hs' hserved hhandler hr'
  exclusive := by
    intro i j r₁ r₂ hr₁ hr₂ hrunning₁ hrunning₂ haddress
    obtain ⟨hi, hplace₁⟩ := settings_of_isRunning_startAll hs' hquiet hr₁ hrunning₁
    obtain ⟨hj, hplace₂⟩ := settings_of_isRunning_startAll hs' hquiet hr₂ hrunning₂
    have hsame : (started.map ReceiverSettings.address)[i - s.receivers.length]? =
        (started.map ReceiverSettings.address)[j - s.receivers.length]? := by
      rw [List.getElem?_map, List.getElem?_map, hplace₁, hplace₂]
      exact congrArg some haddress
    have hlt : i - s.receivers.length < (started.map ReceiverSettings.address).length := by
      rw [List.length_map]
      exact (List.getElem?_eq_some_iff.mp hplace₁).1
    have hplaces := (List.getElem?_inj hlt hnodup).mp hsame
    omega

end StartAll

end Station
end FaultRelay
