import FaultRelay.Service.World

/-!
# What happens to the relay

A run of the relay is a sequence of occurrences: lists of queues that arrive or fail to
arrive, answers of a broker, receivers that stop, events that are reported.  Each of them
may turn out in any way.

**Results.**
* `Relay.filter_advance`: the filter and the settings never change.
* `World.turn_act`: whatever an actor of a world does is a turn of its relay, in which at most
  one thing happens.
-/

namespace FaultRelay

namespace Relay

/-- Something that happens to the relay. -/
inductive Occurrence where
  | begun
  /-- The queues of the relay were made, or could not be made. -/
  | provisioned (succeeded : Bool)
  /-- The time has come to look for queues again. -/
  | scanned
  /-- Queues were listed, and it was asked which of the missing ones exist by now. -/
  | listed (listing : Listing) (exists? : String → Except DiscoveryError Bool)
  /-- A broker answers when receivers are to be opened. -/
  | answered (o : Opening)
  /-- The relay is to end. -/
  | interrupted (result : Except RelayError Unit)
  /-- All receivers have stopped. -/
  | stopped
  | reported (now : Time.Instant) (e : LogEvent)

/-- What the relay does when something happens; only what it waits for counts. -/
def advance (r : Relay) : Occurrence → Relay
  | .begun =>
      match r.phase with
      | .ready provision => r.begin provision
      | _ => r
  | .provisioned succeeded =>
      match r.phase with
      | .provisioning => r.provisioned succeeded
      | _ => r
  | .scanned =>
      match r.phase with
      | .listening => r.scan
      | _ => r
  | .listed listing exists? =>
      match r.phase with
      | .discovering => (r.foundFirst (r.filter.discover listing)).1
      | .reconciling => (r.found (r.filter.discover listing) exists?).1
      | _ => r
  | .answered o =>
      match r.phase with
      | .opening first discovered => (r.openFor first discovered o).1
      | _ => r
  | .interrupted result =>
      match r.phase with
      | .listening => r.interrupt result
      | _ => r
  | .stopped =>
      match r.phase with
      | .closing next => (r.closed next).1
      | _ => r
  | .reported now e => { r with diagnostics := r.diagnostics.observe now e }

/-- The relay after a sequence of occurrences. -/
def run (r : Relay) (occurrences : List Occurrence) : Relay :=
  occurrences.foldl advance r

theorem filter_found (r : Relay) (result : Except DiscoveryError QueueSet)
    (exists? : String → Except DiscoveryError Bool) :
    (r.found result exists?).1.filter = r.filter ∧
      (r.found result exists?).1.settings = r.settings := by
  unfold found
  split
  · exact ⟨rfl, rfl⟩
  · dsimp only
    split <;> exact ⟨rfl, rfl⟩

theorem filter_openFor (r : Relay) (first : Bool) (queues : QueueSet) (o : Opening) :
    (r.openFor first queues o).1.filter = r.filter ∧
      (r.openFor first queues o).1.settings = r.settings := by
  have hfail : ∀ e : TransportError, (r.fail first queues e).1.filter = r.filter ∧
      (r.fail first queues e).1.settings = r.settings := by
    intro e
    cases first <;> exact ⟨rfl, rfl⟩
  unfold openFor
  split
  dsimp only
  split
  · exact hfail _
  · split <;> exact ⟨rfl, rfl⟩

/-- The filter and the settings never change. -/
theorem filter_advance (r : Relay) (o : Occurrence) :
    (r.advance o).filter = r.filter ∧ (r.advance o).settings = r.settings := by
  cases o with
  | begun =>
      simp only [advance]
      split
      · unfold begin
        split <;> exact ⟨rfl, rfl⟩
      · exact ⟨rfl, rfl⟩
  | provisioned succeeded =>
      simp only [advance]
      split
      · cases succeeded <;> exact ⟨rfl, rfl⟩
      · exact ⟨rfl, rfl⟩
  | scanned =>
      simp only [advance]
      split <;> exact ⟨rfl, rfl⟩
  | listed listing exists? =>
      simp only [advance]
      split
      · unfold foundFirst
        split <;> exact ⟨rfl, rfl⟩
      · exact filter_found r _ exists?
      · exact ⟨rfl, rfl⟩
  | answered o =>
      simp only [advance]
      split
      · exact filter_openFor r _ _ o
      · exact ⟨rfl, rfl⟩
  | interrupted result =>
      simp only [advance]
      split <;> exact ⟨rfl, rfl⟩
  | stopped =>
      simp only [advance]
      split
      · unfold closed
        split
        · exact ⟨rfl, rfl⟩
        · rename_i first queues e _
          cases first <;> exact ⟨rfl, rfl⟩
        · exact ⟨rfl, rfl⟩
      · exact ⟨rfl, rfl⟩
  | reported now e => exact ⟨rfl, rfl⟩

theorem run_append (r : Relay) (first rest : List Occurrence) :
    r.run (first ++ rest) = (r.run first).run rest :=
  List.foldl_append

theorem filter_run (r : Relay) (occurrences : List Occurrence) :
    (r.run occurrences).filter = r.filter := by
  induction occurrences generalizing r with
  | nil => rfl
  | cons o rest ih => exact (ih (r.advance o)).trans (filter_advance r o).1

theorem settings_run (r : Relay) (occurrences : List Occurrence) :
    (r.run occurrences).settings = r.settings := by
  induction occurrences generalizing r with
  | nil => rfl
  | cons o rest ih => exact (ih (r.advance o)).trans (filter_advance r o).2

/-- What a turn of the relay comes to: at most one thing happens, and events are reported. -/
def Turn (r : Relay) (allowed : Occurrence → Prop) (r' : Relay) : Prop :=
  ∃ (o : Option Occurrence) (reports : List (Time.Instant × LogEvent)),
    (∀ x : Occurrence, o = some x → allowed x) ∧
      r' = r.run (o.toList ++ reports.map fun p => .reported p.1 p.2)

variable {r r' : Relay} {allowed : Occurrence → Prop}

theorem Turn.refl (r : Relay) (allowed : Occurrence → Prop) : r.Turn allowed r :=
  ⟨none, [], nofun, rfl⟩

theorem Turn.mono (h : r.Turn (fun _ => False) r') (allowed : Occurrence → Prop) :
    r.Turn allowed r' := by
  obtain ⟨o, reports, hallowed, hrun⟩ := h
  exact ⟨o, reports, fun x hx => (hallowed x hx).elim, hrun⟩

theorem Turn.exists_run (h : r.Turn allowed r') :
    ∃ occurrences : List Occurrence, r' = r.run occurrences := by
  obtain ⟨o, reports, -, hrun⟩ := h
  exact ⟨_, hrun⟩

theorem turn_advance
    {o : Occurrence} (hallowed : allowed o) (reports : List (Time.Instant × LogEvent)) :
    r.Turn allowed ((r.advance o).run (reports.map fun p => .reported p.1 p.2)) := by
  refine ⟨some o, reports, ?_, rfl⟩
  intro x hx
  cases hx
  exact hallowed

theorem turn_reported (r : Relay) (reports : List (Time.Instant × LogEvent)) :
    r.Turn (fun _ => False) (r.run (reports.map fun p => .reported p.1 p.2)) :=
  ⟨none, reports, nofun, rfl⟩

theorem route_eq {r r' : Relay} (h : r'.settings = r.settings) (kind : BrokerKind) :
    r'.route kind = r.route kind := by
  funext receiver
  simp only [route, h]

end Relay

namespace World

variable {δ : Type}

/-- What is observed in a world is reported to its relay. -/
theorem observe_relay (w : World δ) (events : List LogEvent) :
    (w.observe events).relay =
      w.relay.run ((events.map fun e => (w.station.site.now, e)).map
        fun p => .reported p.1 p.2) := by
  have hfold : ∀ (r : Relay),
      { r with diagnostics :=
          events.foldl (fun d e => d.observe w.station.site.now e) r.diagnostics } =
        r.run ((events.map fun e => (w.station.site.now, e)).map
          fun p => .reported p.1 p.2) := by
    induction events with
    | nil => exact fun r => rfl
    | cons e events ih =>
        intro r
        exact ih { r with diagnostics := r.diagnostics.observe w.station.site.now e }
  exact hfold w.relay

theorem tellStop_relay (w : World δ) : w.tellStop.relay = w.relay := by
  unfold tellStop
  split <;> rfl

/-- The end of the relay was asked for, or nobody is left who could ask for it. -/
def Asked (w : World δ) : Prop := w.shutdown = true ∨ w.dropped = true

/-- The relay is interrupted without an error only when its end was asked for. -/
def Admits (w : World δ) (o : Relay.Occurrence) : Prop :=
  o = .interrupted (.ok ()) → w.Asked

theorem turn_observe
    {allowed : Relay.Occurrence → Prop} {r : Relay} {w : World δ} {o : Relay.Occurrence}
    (hstep : w.relay = r.advance o) (hallowed : allowed o) (events : List LogEvent) :
    r.Turn allowed (w.observe events).relay := by
  rw [observe_relay, hstep]
  exact Relay.turn_advance hallowed _

/-- The relay opens receivers, on answers that a broker may give. -/
def openBy (w : World δ) (first : Bool) (discovered : QueueSet) (o : Opening) : World δ :=
  let w := (w.setRelay (w.relay.openFor first discovered o)).makeReceivers.tellStop
  if first then { w with nextScan := w.clock + w.scanPeriod } else w

theorem openReceivers_eq (w : World δ) (first : Bool) (discovered : QueueSet) :
    w.openReceivers first discovered = w.openBy first discovered w.opening := rfl

theorem relay_openBy (w : World δ) (first : Bool) (discovered : QueueSet) (o : Opening) :
    (w.openBy first discovered o).relay =
      (w.setRelay (w.relay.openFor first discovered o)).relay := by
  unfold openBy
  dsimp only
  split
  · exact tellStop_relay _
  · exact tellStop_relay _

theorem turn_openBy
    (w : World δ) {first : Bool} {discovered : QueueSet}
    (hphase : w.relay.phase = .opening first discovered) (o : Opening) :
    w.relay.Turn w.Admits (w.openBy first discovered o).relay := by
  rw [relay_openBy]
  exact turn_observe (o := .answered o) (by simp only [Relay.advance, hphase]) (nofun) _

theorem turn_wake
    (w : World δ) (hphase : w.relay.phase = .listening) {reason : Wake}
    (hdue : w.isDue reason = true) : w.relay.Turn w.Admits (w.wake reason).relay := by
  have hone : ∀ o : Relay.Occurrence, w.Admits o → w.relay.Turn w.Admits (w.relay.advance o) :=
    fun o hadmits => Relay.turn_advance hadmits []
  have hinterrupt : ∀ result : Except RelayError Unit,
      (result = .ok () → w.Asked) → w.relay.Turn w.Admits (w.relay.interrupt result) := by
    intro result hasked
    have hturn := hone (.interrupted result) fun heq => hasked (by cases heq; rfl)
    simpa only [Relay.advance, hphase] using hturn
  have hscan := hone .scanned nofun
  simp only [Relay.advance, hphase] at hscan
  cases reason with
  | shutdown =>
      unfold wake
      rw [tellStop_relay]
      exact hinterrupt _ fun _ => Or.inl hdue
  | drop =>
      unfold wake
      rw [tellStop_relay]
      exact hinterrupt _ fun _ => Or.inr hdue
  | scan => exact hscan
  | critical =>
      unfold wake
      dsimp only
      split
      · rw [tellStop_relay]
        exact hinterrupt _ fun heq => nomatch heq
      · exact .refl _ _

theorem turn_actRelay (w : World δ) : w.relay.Turn w.Admits w.actRelay.relay := by
  unfold actRelay
  cases hphase : w.relay.phase with
  | absent => exact .refl _ _
  | finished result => exact .refl _ _
  | ready provision =>
      have hadmits : w.Admits .begun := nofun
      have hturn : w.relay.Turn w.Admits (w.relay.advance .begun) :=
        Relay.turn_advance hadmits []
      simpa only [Relay.advance, hphase] using hturn
  | provisioning =>
      exact turn_observe
        (o := .provisioned (Provision.run Memory.preparation w.settings w.memory).succeeded)
        (by simp only [Relay.advance, hphase]) (nofun) _
  | discovering =>
      exact turn_observe
        (o := .listed (w.directory.list w.memory w.listings).1 fun _ => .ok false)
        (by simp only [Relay.advance, hphase]) (nofun) _
  | opening first discovered => exact w.turn_openBy hphase w.opening
  | listening =>
      dsimp only [attend]
      split
      · rename_i reason hreason
        exact w.turn_wake hphase (List.find?_some hreason)
      · exact .refl _ _
  | reconciling =>
      dsimp only
      rw [tellStop_relay]
      exact turn_observe
        (o := .listed (w.directory.list w.memory w.listings).1 w.discover.2.exists?)
        (by simp only [Relay.advance, hphase]; rfl) (nofun) _
  | closing next =>
      dsimp only
      split
      · exact turn_observe (o := .stopped) (by simp only [Relay.advance, hphase]) (nofun) _
      · exact .refl _ _

theorem turn_actReporter (w : World δ) (report : Report) :
    w.relay.Turn (fun _ => False) (w.actReporter report).relay := by
  have hphase : ∀ (w : World δ) (phase : ReporterPhase),
      (w.setReporter report phase).relay = w.relay := by
    intro w phase
    cases report <;> rfl
  have hobserve : ∀ (w w' : World δ) (events : List LogEvent), w'.relay = w.relay →
      w.relay.Turn (fun _ => False) (w'.observe events).relay := by
    intro w w' events heq
    rw [observe_relay, heq]
    exact Relay.turn_reported _ _
  unfold actReporter
  split
  · exact .refl _ _
  · exact .refl _ _
  · split
    · exact hobserve w _ _ (hphase _ _)
    · exact hobserve w _ _ (hphase _ _)
  · split
    · rw [hphase]
      exact .refl _ _
    · split
      · rw [hphase]
        exact hobserve w _ _ rfl
      · split
        · rw [hphase]
          exact .refl _ _
        · exact .refl _ _

theorem turn_receiver (w : World δ) (place : Nat) :
    w.relay.Turn (fun _ => False) (w.act (.receiver place)).relay := by
  change w.relay.Turn _ (World.observe _ _).relay
  rw [observe_relay]
  exact Relay.turn_reported _ _

/-- Whatever an actor does, at most one thing happens to the relay and is reported. -/
theorem turn_act (w : World δ) (a : Actor) : w.relay.Turn w.Admits (w.act a).relay := by
  cases a with
  | job j =>
      cases j with
      | relay => exact w.turn_actRelay
      | report r => exact (w.turn_actReporter r).mono _
  | receiver place => exact (w.turn_receiver place).mono _

end World
end FaultRelay
