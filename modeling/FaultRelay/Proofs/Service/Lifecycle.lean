import FaultRelay.Proofs.Broker.Stopping
import FaultRelay.Proofs.Service.Conservation
import FaultRelay.Proofs.Service.Course

/-!
# The life of the relay from its launch to its end

Anything may happen in a world while the relay lives: the moves of a world, critical errors,
and brokers that refuse to open a receiver although its queue exists.

**Invariant.** `World.Orderly w`: only receivers of the latest generation are running, and
they were told to stop before the relay does anything but listen or scan.

**Results.**
* `World.Orderly.next`: whatever happens keeps a world orderly.
* `World.lifecycle`: the published states are the course of the relay, a generation begins
  with a full set of receivers after all earlier ones are over, and nothing is left running
  when the relay has ended.
-/

namespace FaultRelay

/-- A phase in which the receivers go on with their work. -/
def Phase.IsAwake : Phase → Prop
  | .listening | .reconciling => True
  | _ => False

/-- Something that happens to a world. -/
inductive Incident (δ : Type) where
  | move (m : Move δ)
  /-- The relay opens receivers, and a broker refuses some of what it might grant. -/
  | answered (o : Opening)
  /-- A critical error is raised. -/
  | raised (c : Critical)

/-- The end of the relay is asked for, or nobody is left who could ask for it. -/
def Incident.Asks {δ : Type} : Incident δ → Prop
  | .move .shutdown | .move .drop => True
  | _ => False

namespace World

variable {δ : Type}

/-- An answer of a broker that starts no receiver without a queue. -/
def limit (w : World δ) (o : Opening) : Opening :=
  { o with start := fun receiver =>
      match o.start receiver with
      | .ok _ => w.opening.start receiver
      | .error e => .error e }

/-- The world after an incident. -/
def next (w : World δ) : Incident δ → World δ
  | .move m => w.after m
  | .answered o =>
      match w.relay.phase with
      | .opening first discovered => w.openBy first discovered (w.limit o)
      | _ => w
  | .raised c => { w with station := { w.station with raised := w.station.raised ++ [c] } }

/-- The world after a sequence of incidents. -/
def live (w : World δ) (incidents : List (Incident δ)) : World δ :=
  incidents.foldl next w

/-- The states that are published in a sequence of incidents, one after the other. -/
def published (w : World δ) : List (Incident δ) → List ServiceState
  | [] => []
  | incident :: rest =>
      Relay.announced w.relay.status.state (w.next incident).relay.status.state ++
        (w.next incident).published rest

/-- For which queues an incident opens receivers, and with which answers. -/
def opens? (w : World δ) (incident : Incident δ) : Option (Bool × QueueSet × Opening) :=
  match w.relay.phase, incident with
  | .opening first discovered, .move (.act (.job .relay)) => some (first, discovered, w.opening)
  | .opening first discovered, .answered o => some (first, discovered, w.limit o)
  | _, _ => none

/-- The receivers that were made last. -/
def latestReceivers (w : World δ) : List (Receiver Unit) :=
  w.station.receivers.drop w.station.latest

/-- An incident starts a receiver on the return queue and on every queue that exists. -/
def StartsAll (w : World δ) (incident : Incident δ) : Prop :=
  ∃ (first : Bool) (discovered : QueueSet) (o : Opening),
    w.opens? incident = some (first, discovered, o) ∧
      (w.next incident).latestReceivers.map Receiver.settings =
        Relay.wanted w.settings discovered o ∧
      ∀ r ∈ (w.next incident).latestReceivers, r.isRunning = true

/-- An incident starts a receiver. -/
def Starts (w : World δ) (incident : Incident δ) : Prop :=
  ∃ (i : Nat) (r' : Receiver Unit), (w.next incident).station.receivers[i]? = some r' ∧
    r'.isRunning = true ∧
    ∀ r : Receiver Unit, w.station.receivers[i]? = some r → r.isRunning = false

variable {w : World δ} {incident : Incident δ}

/-! ### Incidents that open receivers -/

theorem next_of_opens?
    {first : Bool} {discovered : QueueSet} {o : Opening}
    (h : w.opens? incident = some (first, discovered, o)) :
    w.relay.phase = .opening first discovered ∧
      w.next incident = w.openBy first discovered o ∧
      ∀ receiver : ReceiverSettings, o.start receiver = .ok () →
        w.memory.contains receiver.address = true := by
  have hgranted : ∀ receiver : ReceiverSettings, w.opening.start receiver = .ok () →
      w.memory.contains receiver.address = true := by
    intro receiver hstart
    by_contra hnot
    simp [opening, hnot] at hstart
  unfold opens? at h
  split at h
  · rename_i hphase
    cases h
    refine ⟨hphase, ?_, hgranted⟩
    simp only [next, after, act, actRelay, hphase, openReceivers_eq]
  · rename_i o' hphase
    cases h
    refine ⟨hphase, by simp only [next, hphase], fun receiver hstart => hgranted receiver ?_⟩
    simp only [limit] at hstart
    split at hstart
    · exact hstart
    · cases hstart
  · cases h

theorem calmer_tellStop
    {s : Station Unit} {w : World δ} (h : s.Calmer w.station) : s.Calmer w.tellStop.station := by
  unfold tellStop
  split
  · exact h.trans (Station.calmer_tellAllStop w.station)
  · exact h

/-- Once it waits for the receivers, the relay has told them to stop. -/
theorem awake_or_told_tellStop
    {w : World δ} (h : w.relay.phase.IsAwake ∨ (∃ next : Closing, w.relay.phase = .closing next) ∨
      w.station.Told) : w.tellStop.relay.phase.IsAwake ∨ w.tellStop.station.Told := by
  rw [tellStop_relay]
  rcases h with hawake | ⟨next, hphase⟩ | htold
  · exact Or.inl hawake
  · refine Or.inr ?_
    simp only [tellStop, hphase]
    exact Station.told_tellAllStop w.station
  · exact Or.inr ((calmer_tellStop (.refl w.station)).told htold)

section Opening

variable {first : Bool} {discovered : QueueSet} (o : Opening)

theorem tellStop_of_listening (h : w.relay.phase = .listening) : w.tellStop = w := by
  unfold tellStop
  rw [h]

/-- The receivers that are made are those that the relay counts as started. -/
theorem latestReceivers_openBy :
    (w.openBy first discovered o).latestReceivers.map Receiver.settings =
      (w.relay.openFor first discovered o).1.started := by
  have hmade := station_makeReceivers (w.setRelay (w.relay.openFor first discovered o))
  have hsettings := Station.settings_startAll hmade
  have hsame := (sameWork_tellStop
    (w := (w.setRelay (w.relay.openFor first discovered o)).makeReceivers) (.refl _)).work_eq
  have hlatest := (calmer_tellStop
    (w := (w.setRelay (w.relay.openFor first discovered o)).makeReceivers) (.refl _)).latest_eq
  rw [← station_openBy] at hsame hlatest
  have hmap := congrArg (List.map Prod.fst) hsame
  simp only [List.map_map, Function.comp_def] at hmap
  rw [latestReceivers, List.map_drop, hmap, hlatest, ← List.map_drop]
  exact hsettings

theorem newest_openBy (hquiet : w.station.Quiet) :
    (w.openBy first discovered o).station.Newest := by
  have hmade := station_makeReceivers (w.setRelay (w.relay.openFor first discovered o))
  rw [station_openBy]
  exact (calmer_tellStop (.refl _)).newest (Station.newest_startAll hmade hquiet)

theorem awake_or_told_openBy :
    (w.openBy first discovered o).relay.phase.IsAwake ∨
      (w.openBy first discovered o).station.Told := by
  have hmade := station_makeReceivers (w.setRelay (w.relay.openFor first discovered o))
  have hsettings := Station.settings_startAll hmade
  have hrelay : (w.openBy first discovered o).relay =
      (w.setRelay (w.relay.openFor first discovered o)).makeReceivers.tellStop.relay := by
    rw [relay_openBy, tellStop_relay]
    rfl
  rw [hrelay, station_openBy]
  refine awake_or_told_tellStop ?_
  change (w.relay.openFor first discovered o).1.phase.IsAwake ∨
    (∃ next : Closing, (w.relay.openFor first discovered o).1.phase = .closing next) ∨ _
  have hopened := Relay.opened_openFor w.relay first discovered o
  change _ = (w.relay.openFor first discovered o).1.started at hsettings
  generalize (w.relay.openFor first discovered o).1 = r at hopened hsettings ⊢
  cases hopened with
  | all hstart => exact Or.inl trivial
  | some started e hfirst hne => exact Or.inr (Or.inl ⟨_, rfl⟩)
  | none e =>
      rw [Relay.fail_started, List.map_eq_nil_iff, List.drop_eq_nil_iff] at hsettings
      refine Or.inr (Or.inr fun i r hr hlatest => ?_)
      have hlt := (List.getElem?_eq_some_iff.mp hr).1
      omega

/-- All receivers were started exactly when the relay counts another generation. -/
theorem generation_openBy
    (hcontains : ∀ receiver : ReceiverSettings, o.start receiver = .ok () →
      w.memory.contains receiver.address = true) :
    let after := w.openBy first discovered o
    let all := after.latestReceivers.map Receiver.settings = Relay.wanted w.settings discovered o ∧
      ∀ r ∈ after.latestReceivers, r.isRunning = true
    (after.relay.status.generation = w.relay.status.generation + 1 ∧ all) ∨
      (after.relay.status.generation = w.relay.status.generation ∧ ¬all) := by
  intro after all
  have hsettings : after.latestReceivers.map Receiver.settings =
      (w.relay.openFor first discovered o).1.started := latestReceivers_openBy o
  have hgeneration : after.relay.status.generation =
      (w.relay.openFor first discovered o).1.status.generation := by
    rw [show after.relay = _ from relay_openBy w first discovered o]
    rfl
  have hrunning : (w.relay.openFor first discovered o).1.phase = .listening →
      (∀ receiver ∈ (w.relay.openFor first discovered o).1.started,
        w.memory.contains receiver.address = true) →
      ∀ r ∈ after.latestReceivers, r.isRunning = true := by
    intro hphase hqueues
    have hmade := station_makeReceivers (w.setRelay (w.relay.openFor first discovered o))
    have hstation : after.station =
        (w.setRelay (w.relay.openFor first discovered o)).makeReceivers.station := by
      have hnever : (w.setRelay (w.relay.openFor first discovered o)).makeReceivers.tellStop =
          (w.setRelay (w.relay.openFor first discovered o)).makeReceivers :=
        tellStop_of_listening hphase
      rw [show after.station = _ from station_openBy w first discovered o, hnever]
    rw [latestReceivers, hstation]
    exact Station.isRunning_startAll hmade hqueues
  have hopened := Relay.opened_openFor w.relay first discovered o
  generalize (w.relay.openFor first discovered o).1 = r
    at hopened hsettings hgeneration hrunning
  cases hopened with
  | all hstart =>
      exact Or.inl ⟨hgeneration, hsettings,
        hrunning rfl fun receiver hmem => hcontains receiver (hstart receiver hmem)⟩
  | some started e hfirst hne =>
      exact Or.inr ⟨hgeneration, fun hall => hne (hsettings.symm.trans hall.1)⟩
  | none e =>
      rw [Relay.fail_started] at hsettings
      rw [Relay.fail_generation] at hgeneration
      refine Or.inr ⟨hgeneration, fun hall => ?_⟩
      exact List.cons_ne_nil _ _ (hall.1.symm.trans hsettings)

end Opening

/-! ### Incidents that open none -/

/-- Only the relay itself lets something happen to it. -/
theorem turn_next (w : World δ) (incident : Incident δ) :
    w.relay.Turn w.Admits (w.next incident).relay := by
  have hstill : w.relay.Turn w.Admits w.relay := .refl _ _
  cases incident with
  | answered o =>
      simp only [next]
      split
      · exact w.turn_openBy ‹_› (w.limit o)
      · exact hstill
  | raised c => exact hstill
  | move m =>
      cases m with
      | act a => exact w.turn_act a
      | wake reason =>
          simp only [next, after]
          split
          · split
            · exact w.turn_wake ‹_› ‹_›
            · exact hstill
          · exact hstill
      | pop queue =>
          simp only [next, after]
          split
          · exact hstill
          · exact hstill
      | startReporter r =>
          simp only [next, after, startReporter]
          rw [setReporter_relay]
          exact hstill
      | _ => exact hstill

theorem calmer_wake (w : World δ) (reason : Wake) : w.station.Calmer (w.wake reason).station := by
  cases reason with
  | shutdown => exact calmer_tellStop (w := { w with relay := _ }) (.refl w.station)
  | drop => exact calmer_tellStop (w := { w with relay := _ }) (.refl w.station)
  | scan => exact .refl w.station
  | critical =>
      unfold wake
      dsimp only
      split
      · exact calmer_tellStop (.of_receivers rfl rfl)
      · exact .refl w.station

theorem calmer_actRelay
    (hopening : ∀ (first : Bool) (discovered : QueueSet),
      w.relay.phase ≠ .opening first discovered) : w.station.Calmer w.actRelay.station := by
  unfold actRelay
  cases hphase : w.relay.phase with
  | absent => exact .refl w.station
  | finished result => exact .refl w.station
  | ready provision => exact .of_receivers rfl rfl
  | provisioning => exact .of_receivers rfl rfl
  | discovering => exact .refl w.station
  | opening first discovered => exact absurd hphase (hopening first discovered)
  | listening =>
      dsimp only [attend]
      split
      · exact calmer_wake w _
      · exact .refl w.station
  | reconciling => exact calmer_tellStop (.refl w.station)
  | closing next =>
      dsimp only
      split
      · exact .refl w.station
      · exact .refl w.station

theorem calmer_actReporter (w : World δ) (r : Report) :
    w.station.Calmer (w.actReporter r).station := by
  by_cases hreporting : w.isReporting r = true
  · obtain ⟨phase, hact⟩ := actReporter_of_isReporting hreporting
    rw [hact, setReporter_station]
    exact .of_receivers (by cases r <;> rfl) (w.station_sendReport r).1
  · rw [Bool.not_eq_true] at hreporting
    rw [(actReporter_of_not_isReporting hreporting).1]
    exact .refl w.station

/-- An incident that opens no receivers starts none. -/
theorem calmer_next (h : w.opens? incident = none) :
    w.station.Calmer (w.next incident).station := by
  cases incident with
  | answered o =>
      simp only [next]
      split
      · rename_i hphase
        simp only [opens?, hphase] at h
        cases h
      · exact .refl w.station
  | raised c => exact .of_receivers rfl rfl
  | move m =>
      cases m with
      | act a =>
          cases a with
          | receiver place =>
              exact (Station.calmer_work w.station place).trans (.of_receivers rfl rfl)
          | job j =>
              cases j with
              | report r => exact calmer_actReporter w r
              | relay =>
                  refine calmer_actRelay fun first discovered hphase => ?_
                  simp only [opens?, hphase] at h
                  cases h
      | wake reason =>
          simp only [next, after]
          split
          · split
            · exact calmer_wake w reason
            · exact .refl w.station
          · exact .refl w.station
      | pop queue =>
          simp only [next, after]
          split
          · exact .of_receivers rfl rfl
          · exact .refl w.station
      | tellStop place => exact Station.calmer_tellStop w.station place
      | startReporter r =>
          simp only [next, after, startReporter]
          rw [setReporter_station]
          exact .refl w.station
      | _ => exact .of_receivers rfl rfl

theorem awake_or_told_wake (hphase : w.relay.phase = .listening) (reason : Wake) :
    (w.wake reason).relay.phase.IsAwake ∨ (w.wake reason).station.Told := by
  cases reason with
  | shutdown => exact awake_or_told_tellStop (Or.inr (Or.inl ⟨_, rfl⟩))
  | drop => exact awake_or_told_tellStop (Or.inr (Or.inl ⟨_, rfl⟩))
  | scan => exact Or.inl trivial
  | critical =>
      unfold wake
      dsimp only
      split
      · exact awake_or_told_tellStop (Or.inr (Or.inl ⟨_, rfl⟩))
      · rw [hphase]
        exact Or.inl trivial

theorem awake_or_told_actRelay (hawake : w.relay.phase.IsAwake) :
    w.actRelay.relay.phase.IsAwake ∨ w.actRelay.station.Told := by
  unfold actRelay
  cases hphase : w.relay.phase with
  | listening =>
      dsimp only [attend]
      split
      · exact awake_or_told_wake hphase _
      · exact Or.inl hawake
  | reconciling =>
      refine awake_or_told_tellStop ?_
      change (w.relay.found w.discover.1 w.discover.2.exists?).1.phase.IsAwake ∨
        (∃ next : Closing, (w.relay.found w.discover.1 w.discover.2.exists?).1.phase =
          .closing next) ∨ _
      unfold Relay.found
      split
      · exact Or.inl trivial
      · dsimp only
        split
        · exact Or.inl trivial
        · exact Or.inr (Or.inl ⟨_, rfl⟩)
  | _ =>
      rw [hphase] at hawake
      exact hawake.elim

/-- A relay that does not listen or scan any more has told its receivers to stop. -/
theorem awake_or_told_next (hawake : w.relay.phase.IsAwake) :
    (w.next incident).relay.phase.IsAwake ∨ (w.next incident).station.Told := by
  have hstill : ∀ {w' : World δ}, w'.relay.phase = w.relay.phase →
      w'.relay.phase.IsAwake ∨ w'.station.Told := by
    intro w' hphase
    rw [hphase]
    exact Or.inl hawake
  cases incident with
  | answered o =>
      simp only [next]
      split
      · exact awake_or_told_openBy (w.limit o)
      · exact Or.inl hawake
  | raised c => exact Or.inl hawake
  | move m =>
      cases m with
      | act a =>
          cases a with
          | receiver place => exact hstill (w.turn_receiver place).still.1
          | job j =>
              cases j with
              | report r => exact hstill (w.turn_actReporter r).still.1
              | relay => exact awake_or_told_actRelay hawake
      | wake reason =>
          simp only [next, after]
          split
          · split
            · exact awake_or_told_wake ‹_› reason
            · exact Or.inl hawake
          · exact Or.inl hawake
      | pop queue =>
          simp only [next, after]
          split
          · exact Or.inl hawake
          · exact Or.inl hawake
      | startReporter r =>
          refine hstill ?_
          simp only [next, after, startReporter]
          rw [setReporter_relay]
      | _ => exact Or.inl hawake

/-! ### Who asks for the end -/

/-- Nobody asked for the end in between. -/
structure SameRequests (w w' : World δ) : Prop where
  shutdown_eq : w'.shutdown = w.shutdown
  dropped_eq : w'.dropped = w.dropped

theorem sameRequests_tellStop (w : World δ) : w.SameRequests w.tellStop := by
  unfold tellStop
  split
  · exact ⟨rfl, rfl⟩
  · exact ⟨rfl, rfl⟩

theorem SameRequests.tellStop {w w' : World δ} (h : w.SameRequests w') :
    w.SameRequests w'.tellStop :=
  ⟨(sameRequests_tellStop w').shutdown_eq.trans h.shutdown_eq,
    (sameRequests_tellStop w').dropped_eq.trans h.dropped_eq⟩

theorem sameRequests_openBy (w : World δ) (first : Bool) (discovered : QueueSet) (o : Opening) :
    w.SameRequests (w.openBy first discovered o) := by
  have hmade : w.SameRequests
      (w.setRelay (w.relay.openFor first discovered o)).makeReceivers := ⟨rfl, rfl⟩
  unfold openBy
  dsimp only
  split
  · exact ⟨hmade.tellStop.shutdown_eq, hmade.tellStop.dropped_eq⟩
  · exact hmade.tellStop

theorem sameRequests_wake (w : World δ) (reason : Wake) : w.SameRequests (w.wake reason) := by
  have hinterrupt : w.SameRequests { w with relay := w.relay.interrupt (.ok ()) } := ⟨rfl, rfl⟩
  cases reason with
  | shutdown => exact hinterrupt.tellStop
  | drop => exact hinterrupt.tellStop
  | scan => exact ⟨rfl, rfl⟩
  | critical =>
      unfold wake
      dsimp only
      split
      · refine SameRequests.tellStop ?_
        exact ⟨rfl, rfl⟩
      · exact ⟨rfl, rfl⟩

theorem sameRequests_actRelay (w : World δ) : w.SameRequests w.actRelay := by
  unfold actRelay
  split
  · exact ⟨rfl, rfl⟩
  · exact ⟨rfl, rfl⟩
  · exact ⟨rfl, rfl⟩
  · exact ⟨rfl, rfl⟩
  · exact ⟨rfl, rfl⟩
  · rename_i first discovered _
    exact sameRequests_openBy w first discovered w.opening
  · dsimp only [attend]
    split
    · exact sameRequests_wake w _
    · exact ⟨rfl, rfl⟩
  · refine SameRequests.tellStop ?_
    exact ⟨rfl, rfl⟩
  · split
    · exact ⟨rfl, rfl⟩
    · exact ⟨rfl, rfl⟩

theorem sameRequests_actReporter (w : World δ) (r : Report) :
    w.SameRequests (w.actReporter r) := by
  have hset : ∀ {w' : World δ} (phase : ReporterPhase), w.SameRequests w' →
      w.SameRequests (w'.setReporter r phase) := by
    intro w' phase h
    cases r with
    | heartbeat => exact ⟨h.shutdown_eq, h.dropped_eq⟩
    | check => exact ⟨h.shutdown_eq, h.dropped_eq⟩
  have hsame : w.SameRequests w := ⟨rfl, rfl⟩
  unfold actReporter
  split
  · exact hsame
  · exact hsame
  · split
    · exact ⟨(hset _ hsame).shutdown_eq, (hset _ hsame).dropped_eq⟩
    · exact ⟨(hset _ hsame).shutdown_eq, (hset _ hsame).dropped_eq⟩
  · split
    · exact hset _ hsame
    · split
      · refine hset _ ?_
        exact ⟨rfl, rfl⟩
      · split
        · exact hset _ hsame
        · exact hsame

theorem asked_next (w : World δ) (incident : Incident δ) :
    (w.next incident).Asked ↔ w.Asked ∨ incident.Asks := by
  have hsame : ∀ {w' : World δ}, w.SameRequests w' → ¬incident.Asks →
      (w'.Asked ↔ w.Asked ∨ incident.Asks) := by
    intro w' h hnever
    rw [Asked, Asked, h.shutdown_eq, h.dropped_eq]
    exact (or_iff_left hnever).symm
  cases incident with
  | answered o =>
      simp only [next]
      split
      · exact hsame (sameRequests_openBy w _ _ _) id
      · exact hsame ⟨rfl, rfl⟩ id
  | raised c => exact hsame ⟨rfl, rfl⟩ id
  | move m =>
      cases m with
      | shutdown => exact iff_of_true (Or.inl rfl) (Or.inr trivial)
      | drop => exact iff_of_true (Or.inr rfl) (Or.inr trivial)
      | act a =>
          cases a with
          | receiver place => exact hsame ⟨rfl, rfl⟩ id
          | job j =>
              cases j with
              | relay => exact hsame (sameRequests_actRelay w) id
              | report r => exact hsame (sameRequests_actReporter w r) id
      | wake reason =>
          simp only [next, after]
          split
          · split
            · exact hsame (sameRequests_wake w reason) id
            · exact hsame ⟨rfl, rfl⟩ id
          · exact hsame ⟨rfl, rfl⟩ id
      | pop queue =>
          simp only [next, after]
          split
          · exact hsame ⟨rfl, rfl⟩ id
          · exact hsame ⟨rfl, rfl⟩ id
      | startReporter r => cases r <;> exact hsame ⟨rfl, rfl⟩ id
      | _ => exact hsame ⟨rfl, rfl⟩ id

/-! ### Lives -/

/-- What holds of a world at any time of the life of its relay. -/
structure Orderly (w : World δ) : Prop where
  sound : w.Sound
  newest : w.station.Newest
  told : ¬w.relay.phase.IsAwake → w.station.Told
  asked : w.relay.phase.EndsWell → w.Asked

theorem Fresh.orderly {w : World δ} (h : w.Fresh) : w.Orderly := by
  obtain ⟨⟨settings, diagnostics, r, provision, hmake, hrelay⟩, hreceivers⟩ := id h
  exact {
    sound := h.sound
    newest := by simp [Station.Newest, hreceivers]
    told := by simp [Station.Told, hreceivers]
    asked := by
      rw [hrelay]
      exact False.elim }

theorem Sound.next (h : w.Sound) (incident : Incident δ) : (w.next incident).Sound := by
  cases incident with
  | move m => exact (h.kept_after m).sound
  | raised c => exact h.of_sameWork (.of_receivers rfl (.refl _)) ⟨[], rfl⟩ Or.inl
  | answered o =>
      simp only [World.next]
      split
      · rename_i hphase
        have hkept : w.Kept _ .drop [] := h.kept_openBy hphase (w.limit o)
        exact hkept.sound
      · exact h

theorem Orderly.quiet_of_opens?
    (h : w.Orderly) {first : Bool} {discovered : QueueSet} {o : Opening}
    (hopens : w.opens? incident = some (first, discovered, o)) :
    w.station.Quiet ∧ w.station.Told := by
  have hphase := (next_of_opens? hopens).1
  refine ⟨h.sound.quiet ?_, h.told ?_⟩
  · rw [hphase]
    trivial
  · rw [hphase]
    exact id

/-- Whatever happens keeps a world orderly. -/
theorem Orderly.next (h : w.Orderly) (incident : Incident δ) : (w.next incident).Orderly where
  sound := h.sound.next incident
  newest := by
    cases hopens : w.opens? incident with
    | none => exact (calmer_next hopens).newest h.newest
    | some opening =>
        obtain ⟨first, discovered, o⟩ := opening
        rw [(next_of_opens? hopens).2.1]
        exact newest_openBy o (h.quiet_of_opens? hopens).1
  told := by
    intro hnot
    by_cases hawake : w.relay.phase.IsAwake
    · exact (awake_or_told_next hawake).resolve_left hnot
    · cases hopens : w.opens? incident with
      | none => exact (calmer_next hopens).told (h.told hawake)
      | some opening =>
          obtain ⟨first, discovered, o⟩ := opening
          rw [(next_of_opens? hopens).2.1] at hnot ⊢
          exact (awake_or_told_openBy o).resolve_left hnot
  asked := by
    intro hends
    rw [asked_next]
    refine Or.inl ?_
    rcases (turn_next w incident).step with ⟨hphase, -⟩ | ⟨o, hadmits, hstep⟩
    · rw [hphase] at hends
      exact h.asked hends
    · rcases hstep.endsWell hends with hbefore | rfl
      · exact h.asked hbefore
      · exact hadmits rfl

theorem Orderly.live (h : w.Orderly) (incidents : List (Incident δ)) :
    (w.live incidents).Orderly := by
  induction incidents generalizing w with
  | nil => exact h
  | cons incident rest ih => exact ih (h.next incident)

theorem asked_live (w : World δ) (incidents : List (Incident δ)) :
    (w.live incidents).Asked ↔ w.Asked ∨ ∃ incident ∈ incidents, incident.Asks := by
  induction incidents generalizing w with
  | nil => simp [World.live]
  | cons incident rest ih =>
      have hrest : (w.live (incident :: rest)).Asked ↔ (w.next incident).Asked ∨
          ∃ incident ∈ rest, incident.Asks := ih (w.next incident)
      rw [hrest, asked_next, or_assoc]
      simp only [List.mem_cons, exists_eq_or_imp]

/-- The states that are published continue the course of the relay. -/
theorem past_live
    {provision : Bool} {states : List ServiceState}
    (h : Relay.Past provision w.relay.phase w.relay.status states)
    (incidents : List (Incident δ)) :
    Relay.Past provision (w.live incidents).relay.phase (w.live incidents).relay.status
      (states ++ w.published incidents) := by
  induction incidents generalizing w states with
  | nil =>
      rw [published, List.append_nil]
      exact h
  | cons incident rest ih =>
      rw [published, ← List.append_assoc]
      refine ih ?_
      rcases (turn_next w incident).step with ⟨hphase, hstatus⟩ | ⟨o, -, hstep⟩
      · rw [hphase, hstatus, Relay.announced_self, List.append_nil]
        exact h
      · exact hstep.past h

/-- An incident that does not open receivers lets a relay that waits for them wait. -/
theorem status_next
    {first : Bool} {discovered : QueueSet} (hphase : w.relay.phase = .opening first discovered)
    (h : w.opens? incident = none) : (w.next incident).relay.status = w.relay.status := by
  unfold opens? at h
  cases incident with
  | answered o =>
      rw [hphase] at h
      cases h
  | raised c => rfl
  | move m =>
      cases m with
      | act a =>
          cases a with
          | receiver place => exact (w.turn_receiver place).still.2
          | job j =>
              cases j with
              | report r => exact (w.turn_actReporter r).still.2
              | relay =>
                  rw [hphase] at h
                  cases h
      | wake reason => simp only [World.next, after, hphase]
      | pop queue =>
          simp only [World.next, after]
          split
          · rfl
          · rfl
      | startReporter r =>
          simp only [World.next, after, startReporter]
          rw [setReporter_relay]
      | _ => rfl

/-- A generation begins when all receivers were started, and only then. -/
theorem generation_next (w : World δ) (incident : Incident δ) :
    ((w.next incident).relay.status.generation = w.relay.status.generation + 1 ∧
        w.StartsAll incident) ∨
      ((w.next incident).relay.status.generation = w.relay.status.generation ∧
        ¬w.StartsAll incident) := by
  unfold StartsAll
  cases hopens : w.opens? incident with
  | some opening =>
      obtain ⟨first, discovered, o⟩ := opening
      obtain ⟨-, hnext, hcontains⟩ := next_of_opens? hopens
      rw [hnext]
      have hopened := @generation_openBy _ w first discovered o hcontains
      rcases hopened with ⟨hgeneration, hall⟩ | ⟨hgeneration, hnot⟩
      · exact Or.inl ⟨hgeneration, first, discovered, o, rfl, hall⟩
      · refine Or.inr ⟨hgeneration, ?_⟩
        rintro ⟨first', discovered', o', heq, hall⟩
        cases heq
        exact hnot hall
  | none =>
      refine Or.inr ⟨?_, by rintro ⟨_, _, _, heq, -⟩; cases heq⟩
      by_cases hopening : ∃ (first : Bool) (discovered : QueueSet),
          w.relay.phase = .opening first discovered
      · obtain ⟨first, discovered, hphase⟩ := hopening
        rw [status_next hphase hopens]
      · rcases (turn_next w incident).step with ⟨-, hstatus⟩ | ⟨o, -, hstep⟩
        · rw [hstatus]
        · exact hstep.generation_eq fun first discovered hphase =>
            hopening ⟨first, discovered, hphase⟩

/-- A receiver is started only when all others are over, and the latest ones were stopped. -/
theorem Orderly.of_starts (h : w.Orderly) (hstarts : w.Starts incident) :
    w.station.Quiet ∧ w.station.Told := by
  cases hopens : w.opens? incident with
  | some opening => exact h.quiet_of_opens? hopens
  | none =>
      obtain ⟨i, r', hr', hrunning', hover⟩ := hstarts
      obtain ⟨r, hr, hrunning, -⟩ := (calmer_next hopens).exists_before i r' hr'
      have hran := hrunning hrunning'
      rw [hover r hr] at hran
      cases hran

theorem phase_of_result?
    {result : Except RelayError Unit} (h : w.result? .relay = some result) :
    w.relay.phase = .finished result := by
  unfold result? at h
  dsimp only at h
  split at h
  · rename_i hphase
    cases h
    exact hphase
  · cases h

/--
In every life of the relay, whatever happens in it: the published states are the beginning of
a course; another generation is counted exactly when all of its receivers were started; only
receivers of one generation are running, and others are started after these were stopped and
are over; and when the relay has ended its course is complete, no receiver is running, none
is published, and it has ended well only if that was asked for.
-/
theorem lifecycle
    (hfresh : w.Fresh) {provision : Bool} (hready : w.relay.phase = .ready provision)
    (incidents : List (Incident δ)) :
    let now := w.live incidents
    let states := w.published incidents
    (∃ rest : List ServiceState, Relay.IsCourse provision (states ++ rest)) ∧
      (∀ incident : Incident δ,
        ((now.next incident).relay.status.generation = now.relay.status.generation + 1 ∧
            now.StartsAll incident) ∨
          ((now.next incident).relay.status.generation = now.relay.status.generation ∧
            ¬now.StartsAll incident)) ∧
      now.station.Newest ∧
      (∀ incident : Incident δ, now.Starts incident → now.station.Quiet ∧ now.station.Told) ∧
      ∀ result : Except RelayError Unit, now.result? .relay = some result →
        Relay.IsCourse provision states ∧ now.station.Quiet ∧ now.relay.status.listening = ∅ ∧
          (result = .ok () → w.Asked ∨ ∃ incident ∈ incidents, incident.Asks) := by
  intro now states
  have hnow : now.Orderly := hfresh.orderly.live incidents
  have hpast : Relay.Past provision now.relay.phase now.relay.status states := by
    obtain ⟨settings, diagnostics, r, launched, hmake, hrelay⟩ := hfresh.launched
    rw [hrelay] at hready
    cases hready
    have hbefore : Relay.Past provision w.relay.phase w.relay.status [] := by
      rw [hrelay]
      exact Relay.past_launch r provision
    exact past_live hbefore incidents
  refine ⟨hpast.exists_course, generation_next now, hnow.newest, fun _ => hnow.of_starts, ?_⟩
  intro result hresult
  have hphase := phase_of_result? hresult
  have hends := hpast
  rw [hphase] at hends
  refine ⟨hends.course.2, hnow.sound.quiet (by rw [hphase]; trivial), hends.course.1, ?_⟩
  rintro rfl
  rw [← asked_live]
  refine hnow.asked ?_
  rw [hphase]
  trivial

/--
A relay that makes its queues, listens, cannot start all receivers after a scan, listens
without any and ends on request.
-/
theorem lifecycle_refused :
    let settings : Settings := { returnQueue := "Fault.Return" }
    let r : Relay :=
      { settings, filter := QueueFilter.byEnding.excluding (QueueFilter.ownQueues settings) }
    let memory : Memory := { queues := .ofList [("error", []), ("orders_error", [])] }
    let w : World Unit :=
      { relay := r.launch true
        station := { site := ⟨memory, [], ⟨0, 0⟩⟩, rest := () }
        directory := .ofBroker
        listings := ()
        machine := "relay-1"
        messageId := toString }
    let act : Incident Unit := .move (.act (.job .relay))
    let work (place : Nat) : Incident Unit := .move (.act (.receiver place))
    let refusal : Opening :=
      { exists? := fun _ => .ok true
        create := fun _ => (.ok (), [])
        start := fun receiver =>
          if receiver.address = "orders_error" then .error (.receive "refused") else .ok () }
    let incidents : List (Incident Unit) :=
      [act, act, act, act, .move (.declare "bills_error"), .move (.advance 60000000000 ⟨60, 0⟩),
        act, act, work 0, work 1, act, .answered refusal, work 2, work 3, act, .move .shutdown,
        act, act]
    w.Fresh ∧ w.relay.phase = .ready true ∧
      w.published incidents =
        [.provisioning, .listening, .reconciling, .listening, .draining, .stopped] ∧
      (w.live incidents).relay.status.generation = 1 ∧
      (w.live incidents).station.receivers.length = 4 ∧ (w.live incidents).station.Quiet := by
  intro settings r memory w act work refusal incidents
  have hfresh : w.Fresh := {
    launched := ⟨settings, {}, r, true,
      by simp [Relay.make, QueueFilter.ofSettings?, settings, r], rfl⟩
    receivers_eq := rfl }
  have hresult : (w.live incidents).result? .relay = some (.ok ()) := by decide +kernel
  have hends := (lifecycle hfresh rfl incidents).2.2.2.2 _ hresult
  exact ⟨hfresh, rfl, by decide +kernel, by decide +kernel, by decide +kernel, hends.2.1⟩

end World
end FaultRelay
