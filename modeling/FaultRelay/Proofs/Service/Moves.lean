import FaultRelay.Proofs.Broker.Starting
import FaultRelay.Proofs.Service.Reconciliation

/-!
# Moves of a world

A run of the relay on a broker in memory is a sequence of moves: of the relay, of its
receivers, of the reporters, of the clock, and of anybody else who uses the broker.  The
moves come in any order.

**Invariant.** `World.Sound w`: the receivers of `w` are served, the relay is consistent, and
no receiver is running while the relay opens others or has ended.

**Result.** `World.Sound.kept_after`: every move keeps a world sound, and it keeps the account
of every queue that nobody else empties.
-/

namespace FaultRelay

/-- Something that happens in a world. -/
inductive Move (δ : Type) where
  /-- An actor does the next thing. -/
  | act (a : Actor)
  /-- The wait of the relay ends for any of the reasons that there are. -/
  | wake (reason : Wake)
  /-- Somebody else sends a message to a queue. -/
  | enqueue (queue : String) (message : Stored)
  /-- Somebody else takes the head of a queue. -/
  | pop (queue : String)
  | declare (queue : String)
  | refuse (queue : String) (times : Nat)
  | setUnavailable (unavailable : Bool)
  /-- The directory of queues changes. -/
  | relist (listings : δ)
  | advance (clock : Nat) (now : Time.Instant)
  /-- A receiver is told to stop. -/
  | tellStop (place : Nat)
  | shutdown
  | drop
  | startReporter (r : Report)

namespace World

variable {δ : Type}

/-- The operation by which a reporter reports next. -/
def report (w : World δ) : Report → Operation
  | .heartbeat =>
      Report.heartbeatMessage w.sender (w.messageId w.messages) w.settings.controlQueue
        w.relay.diagnostics
  | .check =>
      Report.checkMessage w.sender (w.messageId w.messages) w.settings.controlQueue
        (PoisonCheck.ofLength w.settings.poisonQueue
          (w.memory.length? w.settings.poisonQueue)).1

/-- Whether a reporter sends its report with its next step. -/
def isReporting (w : World δ) (r : Report) : Bool :=
  match w.reporter r with
  | .running next => !w.shutdown && next ≤ w.clock
  | _ => false

/-- A message that is put on a queue, if it is accepted. -/
def put (m : Memory) (queue : String) (message : Stored) : List Ledger.Entry :=
  match m.push queue message with
  | (.ok (), _) => [.put queue message]
  | (.error _, _) => []

def after (w : World δ) : Move δ → World δ
  | .act a => w.act a
  | .wake reason =>
      match w.relay.phase with
      | .listening => if w.isDue reason then w.wake reason else w
      | _ => w
  | .enqueue queue message => w.setMemory (w.memory.push queue message).2
  | .pop queue =>
      match w.memory.pop queue with
      | some (_, m) => w.setMemory m
      | none => w
  | .declare queue => w.setMemory (w.memory.declare queue)
  | .refuse queue times => w.setMemory (w.memory.refuse queue times)
  | .setUnavailable unavailable => w.setMemory (w.memory.setUnavailable unavailable)
  | .relist listings => { w with listings }
  | .advance clock now =>
      { w with station := { w.station with clock, site := { w.station.site with now } } }
  | .tellStop place => { w with station := w.station.tellStop place }
  | .shutdown => { w with shutdown := true }
  | .drop => { w with dropped := true }
  | .startReporter r => w.startReporter r

/-- What a move adds to the ledger. -/
def entries (w : World δ) : Move δ → List Ledger.Entry
  | .act (.receiver place) => w.station.accepted (w.relay.route .memory) place
  | .act (.job (.report r)) =>
      if w.isReporting r then put w.memory (w.report r).destination (w.report r).stored else []
  | .enqueue queue message => put w.memory queue message
  | _ => []

/-- The world after a sequence of moves. -/
def run (w : World δ) (moves : List (Move δ)) : World δ :=
  moves.foldl after w

/-- The ledger of a sequence of moves. -/
def ledger (w : World δ) : List (Move δ) → List Ledger.Entry
  | [] => []
  | move :: rest => w.entries move ++ (w.after move).ledger rest

/-- The messages of a queue that receivers hold. -/
def held (w : World δ) (queue : String) : List Stored :=
  w.station.held queue

/-- A world in which nothing has happened yet but that the relay was launched. -/
structure Fresh (w : World δ) : Prop where
  launched : ∃ (settings : Settings) (diagnostics : Diagnostics) (r : Relay) (provision : Bool),
    Relay.make settings diagnostics = .ok r ∧ w.relay = r.launch provision
  receivers_eq : w.station.receivers = []

/-- What holds of a world at any time. -/
structure Sound (w : World δ) : Prop where
  served : w.station.Served (w.relay.route .memory)
  consistent : ∃ discovered : QueueSet, w.relay.Consistent discovered
  quiet : w.relay.phase.IsResting → w.station.Quiet

theorem Fresh.sound {w : World δ} (h : w.Fresh) : w.Sound := by
  obtain ⟨⟨settings, diagnostics, r, provision, hmake, hrelay⟩, hreceivers⟩ := h
  exact {
    served := ⟨by simp [hreceivers], by simp [hreceivers]⟩
    consistent := ⟨∅, by rw [hrelay]; exact Relay.consistent_launch hmake provision⟩
    quiet := fun _ => by simp [Station.Quiet, hreceivers] }

/-- What a queue and its receivers had, with what arrives, is what leaves and what they have. -/
def Account (w w' : World δ) (queue : String) (entries : List Ledger.Entry) : Prop :=
  w.held queue ++ w.memory.messages queue ++ Ledger.arrivals queue entries =
    Ledger.departures queue entries ++ (w'.held queue ++ w'.memory.messages queue)

/-- The message of a completed delivery is the last one that has left its queue. -/
def Concluded (w : World δ) (entries : List Ledger.Entry) : Prop :=
  ∀ (i : Nat) (r : Receiver Unit) (stored : Stored) (d : Delivery),
    w.station.receivers[i]? = some r → r.delivered? = some (stored, d) → d.stage = .completed →
    ∃ before : List Stored, Ledger.departures r.address entries = before ++ [stored]

/-- What a move preserves, and the account that it keeps. -/
structure Kept (w w' : World δ) (move : Move δ) (entries : List Ledger.Entry) : Prop where
  sound : w'.Sound
  account : ∀ queue : String, move ≠ .pop queue → w.Account w' queue entries
  concluded : ∀ before : List Ledger.Entry, w.Concluded before →
    w'.Concluded (before ++ entries)
  relay_eq : ∃ occurrences : List Relay.Occurrence, w'.relay = w.relay.run occurrences

variable {w w' : World δ} {move : Move δ}

theorem Sound.of_sameWork
    (h : w.Sound) (hsame : w.station.SameWork w'.station)
    (hrelay : ∃ occurrences : List Relay.Occurrence, w'.relay = w.relay.run occurrences)
    (hresting : w'.relay.phase.IsResting → w.relay.phase.IsResting ∨ w.station.Quiet) :
    w'.Sound := by
  obtain ⟨occurrences, hrun⟩ := hrelay
  obtain ⟨discovered, hconsistent⟩ := h.consistent
  have hroute : w'.relay.route .memory = w.relay.route .memory := by
    rw [hrun]
    exact Relay.route_eq (Relay.settings_run _ _) .memory
  exact {
    served := by
      rw [hroute]
      exact hsame.served h.served
    consistent := ⟨_, by rw [hrun]; exact hconsistent.run occurrences⟩
    quiet := by
      intro hphase
      rcases hresting hphase with hbefore | hquiet
      · exact hsame.quiet (h.quiet hbefore)
      · exact hsame.quiet hquiet }

theorem account_of_sameWork
    (hsame : w.station.SameWork w'.station) (queue : String) : w.Account w' queue [] := by
  have hheld : w'.held queue = w.held queue := hsame.held_eq queue
  have hmessages : w'.memory.messages queue = w.memory.messages queue :=
    hsame.sameQueues.messages_eq queue
  simp [Account, hheld, hmessages]

theorem concluded_of_sameWork
    (hsame : w.station.SameWork w'.station) {before : List Ledger.Entry}
    (h : w.Concluded before) : w'.Concluded before := by
  intro i r' stored d hr' hdelivered hstage
  obtain ⟨r, hr, hsettings, hrunning⟩ := hsame.exists_getElem? hr'
  rw [Receiver.delivered?_eq hrunning] at hdelivered
  rw [Receiver.address, hsettings]
  exact h i r stored d hr hdelivered hstage

/-- A move that leaves the receivers to their work, and the queues alone. -/
theorem Sound.kept_of_sameWork
    (h : w.Sound) (hsame : w.station.SameWork w'.station)
    (hrelay : ∃ occurrences : List Relay.Occurrence, w'.relay = w.relay.run occurrences)
    (hresting : w'.relay.phase.IsResting → w.relay.phase.IsResting ∨ w.station.Quiet) :
    w.Kept w' move [] where
  sound := h.of_sameWork hsame hrelay hresting
  account queue _ := account_of_sameWork hsame queue
  concluded before hbefore := by
    rw [List.append_nil]
    exact concluded_of_sameWork hsame hbefore
  relay_eq := hrelay

/-- A message that somebody else sends is accounted for. -/
theorem account_put
    {queue : String} {message : Stored} (hreceivers : w'.station.receivers = w.station.receivers)
    (hmemory : w'.memory = (w.memory.push queue message).2) (name : String) :
    w.Account w' name (put w.memory queue message) := by
  have hheld : w'.held name = w.held name := by simp only [held, Station.held, hreceivers]
  unfold Account put
  rw [hheld, hmemory]
  cases hpush : w.memory.push queue message with
  | mk result m =>
      cases result with
      | ok _ =>
          rw [(Memory.messages_push hpush).1 name, Ledger.arrivals_put, Ledger.departures_put,
            List.nil_append, List.append_assoc]
      | error e =>
          simp [(Memory.push_error hpush).messages_eq name]

/-- It does not matter for the receivers which messages the queues have. -/
theorem Sound.of_receivers
    (h : w.Sound) (hreceivers : w'.station.receivers = w.station.receivers)
    (hcontains : ∀ queue : String, w.memory.contains queue = true →
      w'.memory.contains queue = true)
    (hrelay : ∃ occurrences : List Relay.Occurrence, w'.relay = w.relay.run occurrences)
    (hphase : w'.relay.phase = w.relay.phase) : w'.Sound := by
  obtain ⟨occurrences, hrun⟩ := hrelay
  obtain ⟨discovered, hconsistent⟩ := h.consistent
  have hroute : w'.relay.route .memory = w.relay.route .memory := by
    rw [hrun]
    exact Relay.route_eq (Relay.settings_run _ _) .memory
  exact {
    served := by
      rw [hroute]
      exact h.served.of_receivers hreceivers hcontains
    consistent := ⟨_, by rw [hrun]; exact hconsistent.run occurrences⟩
    quiet := by
      rw [hphase, Station.Quiet, hreceivers]
      exact h.quiet }

theorem contains_push
    {m : Memory} {queue : String} {message : Stored} {name : String}
    (h : m.contains name = true) : (m.push queue message).2.contains name = true := by
  cases hpush : m.push queue message with
  | mk result m' =>
      cases result with
      | ok _ => rw [(Memory.messages_push hpush).2, h]
      | error e => exact (Memory.push_error hpush).contains_of_contains name h

theorem departures_put (m : Memory) (queue : String) (message : Stored) (name : String) :
    Ledger.departures name (put m queue message) = [] := by
  unfold put
  split
  · exact Ledger.departures_put name queue message
  · rfl

/-- A move that leaves the receivers alone, and sends a message. -/
theorem Sound.kept_of_put
    (h : w.Sound) {queue : String} {message : Stored}
    (hreceivers : w'.station.receivers = w.station.receivers)
    (hmemory : w'.memory = (w.memory.push queue message).2)
    (hrelay : ∃ occurrences : List Relay.Occurrence, w'.relay = w.relay.run occurrences)
    (hphase : w'.relay.phase = w.relay.phase) :
    w.Kept w' move (put w.memory queue message) where
  sound := by
    refine h.of_receivers hreceivers (fun name hname => ?_) hrelay hphase
    rw [hmemory]
    exact contains_push hname
  account name _ := account_put hreceivers hmemory name
  concluded before hbefore := by
    intro i r stored d hr hdelivered hstage
    rw [hreceivers] at hr
    rw [Ledger.departures_append, departures_put, List.append_nil]
    exact hbefore i r stored d hr hdelivered hstage
  relay_eq := hrelay

/-! ### Moves of the relay -/

theorem sameWork_tellStop
    {s : Station Unit} {w : World δ} (h : s.SameWork w.station) : s.SameWork w.tellStop.station := by
  unfold tellStop
  split
  · exact h.trans (Station.sameWork_tellAllStop w.station)
  · exact h

theorem sameWork_wake (w : World δ) (reason : Wake) :
    w.station.SameWork (w.wake reason).station := by
  cases reason with
  | shutdown => exact sameWork_tellStop (w := { w with relay := _ }) (.refl w.station)
  | drop => exact sameWork_tellStop (w := { w with relay := _ }) (.refl w.station)
  | scan => exact .refl w.station
  | critical =>
      unfold wake
      dsimp only
      split
      · exact sameWork_tellStop (.of_receivers rfl (.refl _))
      · exact .refl w.station

/-- A relay whose wait has ended does not rest yet. -/
theorem not_isResting_wake (hphase : w.relay.phase = .listening) (reason : Wake) :
    ¬ (w.wake reason).relay.phase.IsResting := by
  cases reason with
  | shutdown =>
      unfold wake
      rw [tellStop_relay]
      exact id
  | drop =>
      unfold wake
      rw [tellStop_relay]
      exact id
  | scan => exact id
  | critical =>
      unfold wake
      dsimp only
      split
      · rw [tellStop_relay]
        exact id
      · rw [hphase]
        exact id

/-- The relay finds out whether queues have to be opened anew. -/
theorem not_isResting_found
    (r : Relay) (result : Except DiscoveryError QueueSet)
    (exists? : String → Except DiscoveryError Bool) :
    ¬ (r.found result exists?).1.phase.IsResting := by
  unfold Relay.found
  split
  · exact id
  · dsimp only
    split <;> exact id

/-- Making the queues of the relay changes none that exist. -/
theorem sameQueues_provision (s : Settings) (m : Memory) :
    m.SameQueues (Provision.run Memory.preparation s m).broker := by
  have hsame := m.sameQueues_prepare true [Provision.returnSettings s] [s.poisonQueue]
  unfold Provision.run Memory.preparation
  split
  · rename_i hprepare
    rw [hprepare] at hsame
    exact hsame
  · rename_i hprepare
    rw [hprepare] at hsame
    exact hsame

/-- Unless it opens receivers, the relay lets them do what they did. -/
theorem sameWork_actRelay
    (hopening : ∀ (first : Bool) (discovered : QueueSet),
      w.relay.phase ≠ .opening first discovered) :
    w.station.SameWork w.actRelay.station ∧
      (w.actRelay.relay.phase.IsResting → w.relay.phase.IsResting ∨ w.station.Quiet) := by
  unfold actRelay
  cases hphase : w.relay.phase with
  | absent => exact ⟨.refl w.station, fun _ => Or.inl trivial⟩
  | finished result => exact ⟨.refl w.station, fun _ => Or.inl trivial⟩
  | ready provision => exact ⟨.of_receivers rfl (.refl _), fun _ => Or.inl trivial⟩
  | provisioning =>
      exact ⟨.of_receivers rfl (sameQueues_provision w.settings w.memory),
        fun _ => Or.inl trivial⟩
  | discovering => exact ⟨.refl w.station, fun _ => Or.inl trivial⟩
  | opening first discovered => exact absurd hphase (hopening first discovered)
  | listening =>
      dsimp only [attend]
      split
      · exact ⟨sameWork_wake w _, fun hresting => absurd hresting (not_isResting_wake hphase _)⟩
      · refine ⟨.refl w.station, fun hresting => ?_⟩
        rw [hphase] at hresting
        exact hresting.elim
  | reconciling =>
      refine ⟨sameWork_tellStop (.refl w.station), fun hresting => ?_⟩
      rw [tellStop_relay] at hresting
      exact absurd hresting (not_isResting_found _ _ _)
  | closing next =>
      dsimp only
      split
      · rename_i hquiet
        exact ⟨.refl w.station, fun _ => Or.inr (Station.quiet_of_isQuiet hquiet)⟩
      · refine ⟨.refl w.station, fun hresting => ?_⟩
        rw [hphase] at hresting
        exact hresting.elim

/-- The station of a world whose relay has opened receivers. -/
theorem station_openBy (w : World δ) (first : Bool) (discovered : QueueSet) (o : Opening) :
    (w.openBy first discovered o).station =
      (w.setRelay (w.relay.openFor first discovered o)).makeReceivers.tellStop.station := by
  unfold openBy
  dsimp only
  split <;> rfl

/-- The receivers that a relay makes are the latest ones, and they are started in order. -/
theorem station_makeReceivers (w : World δ) :
    w.makeReceivers.station =
      ((w.station.make (some Relay.report) w.relay.started).latestPlaces.zip
        w.relay.started).foldl (fun s p => (s.start p.1 (w.handler p.2)).2)
        (w.station.make (some Relay.report) w.relay.started) := rfl

/-- Receivers that are opened hold nothing yet, and they work on different queues. -/
theorem Sound.kept_openBy
    (h : w.Sound) {first : Bool} {discovered : QueueSet}
    (hphase : w.relay.phase = .opening first discovered) (o : Opening) :
    w.Kept (w.openBy first discovered o) move [] := by
  obtain ⟨queues, hconsistent⟩ := h.consistent
  have hquiet : w.station.Quiet := h.quiet (by rw [hphase]; trivial)
  have hown : w.relay.settings.returnQueue ∉ discovered := by
    have hstanding := hconsistent.standing
    simp only [Relay.Standing, hphase] at hstanding
    rw [hstanding.2]
    exact hconsistent.returnQueue_notMem
  obtain ⟨hnodup, hresting⟩ := Relay.nodup_started_openFor hown first o
  have hrelay : (w.openBy first discovered o).relay =
      (w.setRelay (w.relay.openFor first discovered o)).relay := w.relay_openBy _ _ _
  have hsettings : (w.setRelay (w.relay.openFor first discovered o)).relay.settings =
      w.relay.settings := (Relay.filter_openFor w.relay first discovered o).2
  have hroute := Relay.route_eq hsettings .memory
  have hmade := station_makeReceivers (w.setRelay (w.relay.openFor first discovered o))
  have hserved := Station.served_startAll hmade h.served hquiet hnodup
    fun rs => by rw [handler, hroute]
  have hsame := sameWork_tellStop
    (w := (w.setRelay (w.relay.openFor first discovered o)).makeReceivers) (.refl _)
  rw [← station_openBy] at hsame
  obtain ⟨occurrences, hrun⟩ := (w.turn_openBy hphase o).exists_run
  have hnothing : ∀ (i : Nat) (r : Receiver Unit),
      (w.openBy first discovered o).station.receivers[i]? = some r → r.delivered? = none := by
    intro i r' hr'
    obtain ⟨r, hr, -, hrunning⟩ := hsame.exists_getElem? hr'
    rw [Receiver.delivered?_eq hrunning]
    exact Station.delivered?_startAll hmade hquiet hr
  exact {
    sound := {
      served := by
        rw [hrelay, hroute]
        exact hsame.served hserved
      consistent := ⟨_, by rw [hrun]; exact hconsistent.run occurrences⟩
      quiet := by
        rw [hrelay]
        exact fun hrest => hsame.quiet (Station.quiet_startAll hmade hquiet (hresting hrest)) }
    account := by
      intro queue _
      have hheld : (w.openBy first discovered o).held queue = w.held queue := by
        rw [held, held, Station.held_eq_nil hnothing, hquiet.held_eq_nil]
      have hmessages : (w.openBy first discovered o).memory.messages queue =
          w.memory.messages queue := by
        refine (hsame.sameQueues.messages_eq queue).trans ?_
        exact congrArg (·.messages queue) (Station.memory_startAll hmade)
      simp [Account, hheld, hmessages]
    concluded := by
      intro before _ i r stored d hr hdelivered
      rw [hnothing i r hr] at hdelivered
      cases hdelivered
    relay_eq := ⟨occurrences, hrun⟩ }

theorem Sound.kept_actRelay (h : w.Sound) : w.Kept w.actRelay move [] := by
  by_cases hopening : ∃ (first : Bool) (discovered : QueueSet),
      w.relay.phase = .opening first discovered
  · obtain ⟨first, discovered, hphase⟩ := hopening
    have hact : w.actRelay = w.openBy first discovered w.opening := by
      simp only [actRelay, hphase, openReceivers_eq]
    rw [hact]
    exact h.kept_openBy hphase w.opening
  · have hother : ∀ (first : Bool) (discovered : QueueSet),
        w.relay.phase ≠ .opening first discovered :=
      fun first discovered hphase => hopening ⟨first, discovered, hphase⟩
    obtain ⟨hsame, hresting⟩ := sameWork_actRelay hother
    exact h.kept_of_sameWork hsame w.turn_actRelay.exists_run hresting

/-! ### Moves of the reporters -/

theorem setReporter_relay (w : World δ) (r : Report) (phase : ReporterPhase) :
    (w.setReporter r phase).relay = w.relay := by
  cases r <;> rfl

theorem setReporter_station (w : World δ) (r : Report) (phase : ReporterPhase) :
    (w.setReporter r phase).station = w.station := by
  cases r <;> rfl

/-- A report is one message to the control queue. -/
theorem station_sendReport (w : World δ) (r : Report) :
    (w.sendReport r).station.receivers = w.station.receivers ∧
      (w.sendReport r).memory =
        (w.memory.push (w.report r).destination (w.report r).stored).2 ∧
      (w.sendReport r).relay.phase = w.relay.phase := by
  rw [← Memory.dispatch_singleton]
  cases r with
  | heartbeat =>
      refine ⟨rfl, ?_, rfl⟩
      simp only [sendReport, Report.sendHeartbeat, report]
      cases Memory.dispatch [Report.heartbeatMessage w.sender (w.messageId w.messages)
        w.settings.controlQueue w.relay.diagnostics] w.memory with
      | mk result m =>
          cases result with
          | ok _ => rfl
          | error e => rfl
  | check =>
      refine ⟨rfl, ?_, rfl⟩
      simp only [sendReport, Report.sendCheck, report]
      cases Memory.dispatch [Report.checkMessage w.sender (w.messageId w.messages)
        w.settings.controlQueue (PoisonCheck.ofLength w.settings.poisonQueue
          (w.memory.length? w.settings.poisonQueue)).1] w.memory with
      | mk result m =>
          cases result with
          | ok _ => rfl
          | error e => rfl

theorem actReporter_of_isReporting {r : Report} (h : w.isReporting r = true) :
    ∃ phase : ReporterPhase, w.actReporter r = (w.sendReport r).setReporter r phase := by
  unfold isReporting at h
  unfold actReporter
  cases hreporter : w.reporter r with
  | absent => simp [hreporter] at h
  | ready => simp [hreporter] at h
  | finished result => simp [hreporter] at h
  | running next =>
      simp only [hreporter, Bool.and_eq_true, Bool.not_eq_true', decide_eq_true_eq] at h
      refine ⟨.running (ReporterPhase.following next (w.period r) w.clock), ?_⟩
      simp [h.1, h.2]

/-- A reporter that sends nothing leaves the broker and its receivers alone. -/
theorem actReporter_of_not_isReporting {r : Report} (h : w.isReporting r = false) :
    (w.actReporter r).station = w.station ∧ (w.actReporter r).relay.phase = w.relay.phase := by
  have hset : ∀ phase : ReporterPhase, (w.setReporter r phase).station = w.station ∧
      (w.setReporter r phase).relay.phase = w.relay.phase :=
    fun phase => ⟨setReporter_station w r phase, by rw [setReporter_relay]⟩
  unfold isReporting at h
  unfold actReporter
  split
  · exact ⟨rfl, rfl⟩
  · exact ⟨rfl, rfl⟩
  · split
    · exact hset _
    · exact hset _
  · rename_i next hreporter
    split
    · exact hset _
    · rename_i hshutdown
      split
      · rename_i hdue
        simp [hreporter, hshutdown, hdue] at h
      · split
        · exact hset _
        · exact ⟨rfl, rfl⟩

theorem Sound.kept_actReporter (h : w.Sound) (r : Report) :
    w.Kept (w.actReporter r) move
      (if w.isReporting r then put w.memory (w.report r).destination (w.report r).stored
        else []) := by
  have hrelay := (w.turn_actReporter r).exists_run
  by_cases hreporting : w.isReporting r = true
  · rw [if_pos hreporting]
    obtain ⟨phase, hact⟩ := actReporter_of_isReporting hreporting
    obtain ⟨hreceivers, hmemory, hphase⟩ := w.station_sendReport r
    have hstation := setReporter_station (w.sendReport r) r phase
    rw [hact] at hrelay ⊢
    refine h.kept_of_put (by rw [hstation, hreceivers]) ?_ hrelay
      (by rw [setReporter_relay, hphase])
    rw [memory, hstation]
    exact hmemory
  · rw [if_neg hreporting]
    rw [Bool.not_eq_true] at hreporting
    obtain ⟨hstation, hphase⟩ := actReporter_of_not_isReporting hreporting
    refine h.kept_of_sameWork (by rw [hstation]; exact .refl w.station) hrelay ?_
    rw [hphase]
    exact Or.inl

/-! ### Moves of others -/

/-- Whoever takes a message from a queue breaks the account of that queue only. -/
theorem Sound.kept_pop (h : w.Sound) (queue : String) :
    w.Kept (w.after (.pop queue)) (.pop queue) [] := by
  have hstill : ∃ occurrences : List Relay.Occurrence, w.relay = w.relay.run occurrences :=
    ⟨[], rfl⟩
  simp only [after]
  cases hpop : w.memory.pop queue with
  | none => exact h.kept_of_sameWork (.refl w.station) hstill Or.inl
  | some taken =>
      obtain ⟨head, m⟩ := taken
      obtain ⟨-, hothers, hcontains⟩ := Memory.messages_pop hpop
      exact {
        sound := h.of_receivers rfl (fun name hname => (hcontains name).trans hname) hstill rfl
        account := fun name hname => by
          have hmessages : m.messages name = w.memory.messages name :=
            hothers name fun heq => hname (by rw [heq])
          have hafter : (w.setMemory m).memory.messages name = w.memory.messages name := hmessages
          have hheld : (w.setMemory m).held name = w.held name := rfl
          simp [Account, hafter, hheld]
        concluded := fun before hbefore => by
          rw [List.append_nil]
          exact hbefore
        relay_eq := hstill }

/-! ### Moves of the receivers -/

/-- A receiver concludes the delivery of the message that it hands over. -/
theorem Sound.kept_worked
    (h : w.Sound) {s' : Station Unit} {i : Nat} {r r' : Receiver Unit}
    {entries : List Ledger.Entry} (hr : w.station.receivers[i]? = some r)
    (hrunning : r.isRunning = true)
    (hworked : Station.Worked (w.relay.route .memory) w.station s' i r r' entries)
    (hreceivers : w'.station.receivers = s'.receivers) (hmemory : w'.memory = s'.memory)
    (hrelay : ∃ occurrences : List Relay.Occurrence, w'.relay = w.relay.run occurrences)
    (hphase : w'.relay.phase = w.relay.phase) :
    w.Kept w' move entries := by
  obtain ⟨occurrences, hrun⟩ := hrelay
  obtain ⟨discovered, hconsistent⟩ := h.consistent
  have hroute : w'.relay.route .memory = w.relay.route .memory := by
    rw [hrun]
    exact Relay.route_eq (Relay.settings_run _ _) .memory
  have hstation : w'.station.memory = s'.memory := hmemory
  exact {
    sound := {
      served := by
        rw [hroute]
        refine (h.served.worked hr hworked).of_receivers hreceivers fun queue hqueue => ?_
        rw [hstation, hqueue]
      consistent := ⟨_, by rw [hrun]; exact hconsistent.run occurrences⟩
      quiet := by
        intro hresting
        rw [hphase] at hresting
        rw [h.quiet hresting i r hr] at hrunning
        cases hrunning }
    account := by
      intro queue _
      have hheld : w'.held queue = s'.held queue := by
        simp only [held, Station.held, hreceivers]
      rw [Account, hheld, hmemory]
      exact h.served.account hr hrunning hworked queue
    concluded := by
      intro before hbefore j other stored d hother hdelivered hstage
      rw [hreceivers] at hother
      rw [Ledger.departures_append]
      rcases Station.getElem?_worked hworked hr j other hother with ⟨rfl, rfl⟩ | ⟨hne, hsame⟩
      · obtain ⟨offer, rfl⟩ := hworked.completed stored d hdelivered hstage
        rw [Ledger.departures_sent, Receiver.address, hworked.settings_eq, if_pos rfl]
        exact ⟨_, rfl⟩
      · -- another receiver that delivers a message of this queue would have to be running
        have haddress : other.address ≠ r.address := by
          intro heq
          have hover := h.served.alone hr hrunning j other hsame hne heq
          rw [Station.delivered?_of_not_isRunning hover] at hdelivered
          cases hdelivered
        rw [hworked.accounted.departures_eq other.address haddress, List.append_nil]
        exact hbefore j other stored d hsame hdelivered hstage
    relay_eq := ⟨occurrences, hrun⟩ }

theorem Sound.kept_receiver (h : w.Sound) (place : Nat) :
    w.Kept (w.act (.receiver place)) move (w.station.accepted (w.relay.route .memory) place) := by
  have hrelay := (w.turn_receiver place).exists_run
  have hreceivers : (w.act (.receiver place)).station.receivers =
      (w.station.work place).receivers := rfl
  have hmemory : (w.act (.receiver place)).memory = (w.station.work place).memory := rfl
  have hstays : w.station.work place = w.station →
      w.station.accepted (w.relay.route .memory) place = [] →
      w.Kept (w.act (.receiver place)) move
        (w.station.accepted (w.relay.route .memory) place) := by
    intro hsame hnone
    rw [hnone]
    rw [hsame] at hreceivers hmemory
    exact h.kept_of_sameWork (.of_receivers hreceivers (by
      rw [show (w.act (.receiver place)).station.memory = w.station.memory from hmemory]
      exact .refl _)) hrelay Or.inl
  cases hr : w.station.receivers[place]? with
  | none => exact hstays (by simp only [Station.work, hr]) (by simp only [Station.accepted, hr])
  | some r =>
      by_cases hrunning : r.isRunning = true
      · obtain ⟨r', hworked⟩ := Station.worked_work hr (h.served.proper place r hr)
        exact h.kept_worked hr hrunning hworked hreceivers hmemory hrelay rfl
      · rw [Bool.not_eq_true] at hrunning
        obtain ⟨hsame, hnone⟩ :=
          Station.work_of_not_isRunning (w.relay.route .memory) hr hrunning
        exact hstays hsame hnone

/-! ### All moves -/

/-- Every move keeps a world sound, and the account of every queue that nobody else empties. -/
theorem Sound.kept_after (h : w.Sound) (move : Move δ) :
    w.Kept (w.after move) move (w.entries move) := by
  have hstill : ∃ occurrences : List Relay.Occurrence, w.relay = w.relay.run occurrences :=
    ⟨[], rfl⟩
  cases move with
  | act a =>
      cases a with
      | receiver place => exact h.kept_receiver place
      | job j =>
          cases j with
          | relay => exact h.kept_actRelay
          | report r => exact h.kept_actReporter r
  | wake reason =>
      simp only [after, entries]
      split
      · rename_i hphase
        split
        · rename_i hdue
          exact h.kept_of_sameWork (sameWork_wake w reason) (w.turn_wake hphase hdue).exists_run
            fun hresting => absurd hresting (not_isResting_wake hphase reason)
        · exact h.kept_of_sameWork (.refl w.station) hstill Or.inl
      · exact h.kept_of_sameWork (.refl w.station) hstill Or.inl
  | enqueue queue message => exact h.kept_of_put rfl rfl hstill rfl
  | pop queue => exact h.kept_pop queue
  | declare queue =>
      exact h.kept_of_sameWork (.of_receivers rfl (w.memory.sameQueues_declare queue)) hstill
        Or.inl
  | refuse queue times =>
      exact h.kept_of_sameWork (.of_receivers rfl ⟨fun _ => rfl, fun _ h => h⟩) hstill Or.inl
  | setUnavailable unavailable =>
      exact h.kept_of_sameWork (.of_receivers rfl ⟨fun _ => rfl, fun _ h => h⟩) hstill Or.inl
  | relist listings => exact h.kept_of_sameWork (.refl w.station) hstill Or.inl
  | advance clock now =>
      exact h.kept_of_sameWork (.of_receivers rfl (.refl _)) hstill Or.inl
  | tellStop place =>
      exact h.kept_of_sameWork (w.station.sameWork_tellStop place) hstill Or.inl
  | shutdown => exact h.kept_of_sameWork (.refl w.station) hstill Or.inl
  | drop => exact h.kept_of_sameWork (.refl w.station) hstill Or.inl
  | startReporter r =>
      cases r with
      | heartbeat => exact h.kept_of_sameWork (.refl w.station) hstill Or.inl
      | check => exact h.kept_of_sameWork (.refl w.station) hstill Or.inl

end World
end FaultRelay
