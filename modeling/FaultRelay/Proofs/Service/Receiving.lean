import FaultRelay.Proofs.Service.Occurrences
import FaultRelay.Proofs.Service.Opening
import FaultRelay.Proofs.Settings.Validity

/-!
# Which queues the relay receives from, and which way

A receiver goes by its name: the one called `Return` gives messages back, and any other one
forwards faults.  The receiver of a queue that was discovered has the name of that queue.

**Invariant.** `Relay.Selective r`: the relay `r` receives from its return queue, and apart
from that only from queues that its filter accepts.

**Results.**
* `Relay.Selective.run`: every run of the relay keeps it selective.
* `Relay.giveBack_iff`: a receiver gives messages back when it works on the return queue,
  and also when its queue happens to be called `Return`.
* `Relay.receives_output_iff`: of the queues that the relay sends to, it receives from none
  but its control queue, and from that one when it is the return queue as well.
-/

namespace FaultRelay

/-- The queues that the relay is about to open, or was about to. -/
def Phase.queues : Phase → QueueSet
  | .opening _ queues | .closing (.restart queues) | .closing (.failed _ queues _) => queues
  | _ => ∅

namespace Relay

/-- The relay receives only from queues that were chosen for it. -/
structure Selective (r : Relay) : Prop where
  chosen : ∀ queue ∈ r.phase.queues, r.filter.accepts queue = true
  started : ∀ receiver ∈ r.started, receiver = Provision.returnSettings r.settings ∨
    receiver.id = receiver.address ∧ r.filter.accepts receiver.address = true
  listening : ∀ queue ∈ r.status.listening,
    queue = r.settings.returnQueue ∨ r.filter.accepts queue = true
  returns : r.isOpen = true → Provision.returnSettings r.settings ∈ r.started

section Step

variable {r r' : Relay} {discovered : QueueSet}

theorem notMem_empty_queues (queue : String) : queue ∉ (∅ : QueueSet) :=
  Std.ExtTreeSet.not_mem_empty

/-- A step that starts no receiver. -/
theorem Selective.of_fewer
    (h : r.Selective) (hfilter : r'.filter = r.filter) (hsettings : r'.settings = r.settings)
    (hchosen : ∀ queue ∈ r'.phase.queues, r.filter.accepts queue = true)
    (hlistening : ∀ queue ∈ r'.status.listening, queue ∈ r.status.listening)
    (hstarted : r'.started = r.started ∧ r'.isOpen = r.isOpen ∨
      r'.started = [] ∧ r'.isOpen = false) : r'.Selective where
  chosen := by
    rw [hfilter]
    exact hchosen
  started := by
    rw [hfilter, hsettings]
    rcases hstarted with ⟨hsame, -⟩ | ⟨hnil, -⟩
    · rw [hsame]
      exact h.started
    · rw [hnil]
      exact fun _ hmem => absurd hmem List.not_mem_nil
  listening := by
    rw [hfilter, hsettings]
    exact fun queue hqueue => h.listening queue (hlistening queue hqueue)
  returns := by
    rw [hsettings]
    rcases hstarted with ⟨hsame, hopen⟩ | ⟨-, hclosed⟩
    · rw [hsame, hopen]
      exact h.returns
    · rw [hclosed]
      exact fun hopen => nomatch hopen

/-- A step in which nothing changes for the receivers. -/
theorem Selective.of_same
    (h : r.Selective) (hfilter : r'.filter = r.filter) (hsettings : r'.settings = r.settings)
    (hchosen : ∀ queue ∈ r'.phase.queues, r.filter.accepts queue = true)
    (hlistening : r'.status.listening = r.status.listening) (hstarted : r'.started = r.started)
    (hopen : r'.isOpen = r.isOpen) : r'.Selective :=
  h.of_fewer hfilter hsettings hchosen (fun _ hqueue => hlistening ▸ hqueue)
    (Or.inl ⟨hstarted, hopen⟩)

/-- A relay that was just launched has no receivers. -/
theorem selective_launch (r : Relay) (provision : Bool) : (r.launch provision).Selective where
  chosen := fun queue hqueue => absurd hqueue (notMem_empty_queues queue)
  started := fun _ hmem => absurd hmem List.not_mem_nil
  listening := fun queue hqueue => absurd hqueue (notMem_empty_queues queue)
  returns := fun hopen => nomatch hopen

theorem selective_fail
    (h : r.Selective) (first : Bool) (queues : QueueSet) (e : TransportError) :
    (r.fail first queues e).1.Selective := by
  cases first with
  | true =>
      exact h.of_fewer rfl rfl (fun queue hqueue => absurd hqueue (notMem_empty_queues queue))
        (fun queue hqueue => hqueue) (Or.inr ⟨rfl, rfl⟩)
  | false =>
      exact h.of_fewer rfl rfl (fun queue hqueue => absurd hqueue (notMem_empty_queues queue))
        (fun queue hqueue => absurd hqueue (notMem_empty_queues queue)) (Or.inr ⟨rfl, rfl⟩)

/-- The receivers of a generation work on the return queue and on the queues that exist. -/
theorem mem_receivers
    (s : Settings) (present : List String) (receiver : ReceiverSettings) :
    receiver ∈ receivers s present ↔ receiver = Provision.returnSettings s ∨
      ∃ queue ∈ present, receiver = ⟨queue, queue, s.poisonQueue⟩ := by
  simp only [receivers, List.mem_cons, List.mem_map, eq_comm]

theorem selective_openFor
    (h : r.Selective) (hchosen : ∀ queue ∈ discovered, r.filter.accepts queue = true)
    (first : Bool) (o : Opening) : (r.openFor first discovered o).1.Selective := by
  have hwanted : ∀ receiver ∈ wanted r.settings discovered o,
      receiver = Provision.returnSettings r.settings ∨
        receiver.id = receiver.address ∧ r.filter.accepts receiver.address = true := by
    intro receiver hmem
    rcases (mem_receivers _ _ receiver).mp hmem with hown | ⟨queue, hqueue, rfl⟩
    · exact Or.inl hown
    · rw [Std.ExtTreeSet.mem_toList, QueueSet.mem_filter] at hqueue
      exact Or.inr ⟨rfl, hchosen queue hqueue.1⟩
  have hopened := opened_openFor r first discovered o
  generalize (r.openFor first discovered o).1 = r' at hopened ⊢
  cases hopened with
  | all hstart =>
      exact {
        chosen := fun queue hqueue => absurd hqueue (notMem_empty_queues queue)
        started := hwanted
        listening := by
          intro queue hqueue
          simp only [opened, listen, setState, goto, publish, Std.ExtTreeSet.mem_ofList] at hqueue
          rw [List.contains_iff_mem, List.mem_map] at hqueue
          obtain ⟨receiver, hmem, rfl⟩ := hqueue
          rcases hwanted receiver hmem with rfl | ⟨-, haccepts⟩
          · exact Or.inl rfl
          · exact Or.inr haccepts
        returns := fun _ => List.mem_cons_self }
  | some started e hfirst hne =>
      exact {
        chosen := hchosen
        started := fun receiver hmem => hwanted receiver (hfirst.subset hmem)
        listening := h.listening
        returns := fun hopen => nomatch hopen }
  | none e => exact selective_fail h first discovered e

theorem selective_found
    (h : r.Selective) (listing : Listing) (exists? : String → Except DiscoveryError Bool) :
    (r.found (r.filter.discover listing) exists?).1.Selective := by
  have hlisten : r.listen.Selective :=
    h.of_same rfl rfl (fun queue hqueue => absurd hqueue (notMem_empty_queues queue)) rfl rfl rfl
  unfold found
  split
  · exact hlisten
  · rename_i found hdiscover
    dsimp only
    split
    · exact hlisten
    · exact h.of_same rfl rfl
        (fun queue hqueue => QueueFilter.accepts_of_discover hdiscover hqueue) rfl rfl rfl

theorem selective_closed
    (h : r.Selective) {next : Closing} (hphase : r.phase = .closing next) :
    (r.closed next).1.Selective := by
  have hnone : ({ r with isOpen := false, started := [] } : Relay).Selective :=
    h.of_fewer rfl rfl h.chosen (fun queue hqueue => hqueue) (Or.inr ⟨rfl, rfl⟩)
  have hchosen := h.chosen
  rw [hphase] at hchosen
  cases next with
  | restart queues =>
      exact h.of_fewer rfl rfl hchosen (fun queue hqueue => hqueue) (Or.inr ⟨rfl, rfl⟩)
  | failed first queues e => exact selective_fail hnone first queues e
  | drain result =>
      exact h.of_fewer rfl rfl (fun queue hqueue => absurd hqueue (notMem_empty_queues queue))
        (fun queue hqueue => absurd hqueue (notMem_empty_queues queue)) (Or.inr ⟨rfl, rfl⟩)

/-- Every occurrence keeps the relay selective. -/
theorem Selective.advance (h : r.Selective) (o : Occurrence) : (r.advance o).Selective := by
  have hnone : ∀ queue ∈ (∅ : QueueSet), r.filter.accepts queue = true :=
    fun queue hqueue => absurd hqueue (notMem_empty_queues queue)
  cases o with
  | begun =>
      simp only [Relay.advance]
      split
      · rename_i provision hphase
        cases provision with
        | true => exact h.of_same rfl rfl hnone rfl rfl rfl
        | false => exact h.of_same rfl rfl hnone rfl rfl rfl
      · exact h
  | provisioned succeeded =>
      simp only [Relay.advance]
      split
      · cases succeeded with
        | true => exact h.of_same rfl rfl hnone rfl rfl rfl
        | false => exact h.of_same rfl rfl hnone rfl rfl rfl
      · exact h
  | scanned =>
      simp only [Relay.advance]
      split
      · exact h.of_same rfl rfl hnone rfl rfl rfl
      · exact h
  | listed listing exists? =>
      simp only [Relay.advance]
      split
      · unfold foundFirst
        split
        · rename_i queues hdiscover
          exact h.of_same rfl rfl
            (fun queue hqueue => QueueFilter.accepts_of_discover hdiscover hqueue) rfl rfl rfl
        · exact h.of_same rfl rfl hnone rfl rfl rfl
      · exact selective_found h listing exists?
      · exact h
  | answered o =>
      simp only [Relay.advance]
      split
      · rename_i first queues hphase
        have hchosen := h.chosen
        rw [hphase] at hchosen
        exact selective_openFor h hchosen first o
      · exact h
  | interrupted result =>
      simp only [Relay.advance]
      split
      · exact h.of_same rfl rfl hnone rfl rfl rfl
      · exact h
  | stopped =>
      simp only [Relay.advance]
      split
      · exact selective_closed h ‹_›
      · exact h
  | reported now e => exact h.of_same rfl rfl h.chosen rfl rfl rfl

theorem Selective.run
    (h : r.Selective) (occurrences : List Occurrence) : (r.run occurrences).Selective := by
  induction occurrences generalizing r with
  | nil => exact h
  | cons o rest ih => exact ih (h.advance o)

end Step

/-! ### Which way -/

/-- A filter that can be read is the one of the relay. -/
theorem make_eq_ok
    {settings : Settings} (h : (QueueFilter.ofSettings? settings).isSome = true)
    (diagnostics : Diagnostics) :
    make settings diagnostics = .ok {
      settings, filter := (QueueFilter.ofSettings? settings).getD .byEnding, diagnostics } := by
  unfold make
  split
  · rename_i filter hfilter
    rw [hfilter, Option.getD_some]
  · rename_i hfilter
    rw [hfilter] at h
    cases h

theorem filter_of_make
    {settings : Settings} {diagnostics : Diagnostics} {r : Relay}
    (h : make settings diagnostics = .ok r) :
    QueueFilter.ofSettings? settings = some r.filter ∧ r.settings = settings := by
  unfold make at h
  cases hfilter : QueueFilter.ofSettings? settings with
  | none => simp [hfilter] at h
  | some filter =>
      simp only [hfilter, Except.ok.injEq] at h
      rw [← h]
      exact ⟨rfl, rfl⟩

/-- A run of a relay that was made for some settings. -/
structure Made (settings : Settings) (r : Relay) : Prop where
  selective : r.Selective
  filter_eq : QueueFilter.ofSettings? settings = some r.filter
  settings_eq : r.settings = settings

theorem made_run
    {settings : Settings} {diagnostics : Diagnostics} {r : Relay}
    (hmake : make settings diagnostics = .ok r) (provision : Bool)
    (occurrences : List Occurrence) : Made settings ((r.launch provision).run occurrences) := by
  obtain ⟨hfilter, hsettings⟩ := filter_of_make hmake
  exact {
    selective := (selective_launch r provision).run occurrences
    filter_eq := by rw [filter_run]; exact hfilter
    settings_eq := by rw [settings_run]; exact hsettings }

theorem route_direction (r : Relay) (kind : BrokerKind) (receiver : ReceiverSettings) :
    (r.route kind receiver).direction = .giveBack ↔ receiver.id = Provision.returnReceiver := by
  change direction receiver = .giveBack ↔ _
  unfold direction
  split
  · simpa
  · simpa

/-- A receiver gives back when its queue is the return queue or is called as that receiver is. -/
theorem Made.direction_iff
    {settings : Settings} {r : Relay} (h : Made settings r) (kind : BrokerKind)
    {receiver : ReceiverSettings} (hmem : receiver ∈ r.started) :
    (r.route kind receiver).direction = .giveBack ↔
      receiver.address = settings.returnQueue ∨ receiver.address = Provision.returnReceiver := by
  rw [route_direction]
  rcases h.selective.started receiver hmem with hown | ⟨hname, haccepts⟩
  · rw [h.settings_eq] at hown
    rw [hown]
    exact iff_of_true rfl (Or.inl rfl)
  · have hother : receiver.address ≠ settings.returnQueue := by
      intro heq
      rw [heq, QueueFilter.accepts_returnQueue h.filter_eq] at haccepts
      cases haccepts
    rw [hname]
    exact ⟨Or.inr, fun hcalled => hcalled.resolve_left hother⟩

/-- Unless the filter accepts the name of the receiver of the return queue, no other gives back. -/
theorem Made.eq_returnSettings
    {settings : Settings} {r : Relay} (h : Made settings r)
    (hname : r.filter.accepts Provision.returnReceiver = false) (kind : BrokerKind)
    {receiver : ReceiverSettings} (hmem : receiver ∈ r.started)
    (hdirection : (r.route kind receiver).direction = .giveBack) :
    receiver = Provision.returnSettings settings := by
  rw [route_direction] at hdirection
  rcases h.selective.started receiver hmem with hown | ⟨hsame, haccepts⟩
  · rw [← h.settings_eq]
    exact hown
  · rw [← hsame, hdirection, hname] at haccepts
    cases haccepts

/--
In every generation the receiver on the return queue gives messages back.  Another receiver
does so only if its queue is called `Return`, which no queue is that is chosen by its ending.
-/
theorem giveBack_iff
    {settings : Settings} {diagnostics : Diagnostics} {r : Relay}
    (hmake : make settings diagnostics = .ok r) (provision : Bool)
    (occurrences : List Occurrence) (kind : BrokerKind) :
    let now := (r.launch provision).run occurrences
    (now.isOpen = true → Provision.returnSettings settings ∈ now.started) ∧
      (∀ receiver ∈ now.started, (now.route kind receiver).direction = .giveBack ↔
        receiver.address = settings.returnQueue ∨
          receiver.address = Provision.returnReceiver) ∧
      (now.filter.accepts Provision.returnReceiver = false →
        ∀ receiver ∈ now.started, (now.route kind receiver).direction = .giveBack ↔
          receiver = Provision.returnSettings settings) ∧
      (settings.queueFilter = none →
        now.filter.accepts Provision.returnReceiver = false) := by
  intro now
  have hmade : Made settings now := made_run hmake provision occurrences
  refine ⟨fun hopen => ?_, fun receiver hmem => hmade.direction_iff kind hmem,
    fun hname receiver hmem => ⟨hmade.eq_returnSettings hname kind hmem, ?_⟩, fun hending => ?_⟩
  · rw [← hmade.settings_eq]
    exact hmade.selective.returns hopen
  · rintro rfl
    exact (route_direction now kind _).mpr rfl
  · by_contra haccepts
    rw [Bool.not_eq_false] at haccepts
    have hname := QueueFilter.isErrorQueueName_of_accepts hmade.filter_eq hending haccepts
    revert hname
    decide

/-- What a broker answers on which all queues exist. -/
def Opening.complete : Opening where
  exists? _ := .ok true
  create _ := (.ok (), [])
  start _ := .ok ()

/-- A relay that listens to a queue with faults, which it forwards. -/
theorem giveBack_iff_orders :
    let settings : Settings := { returnQueue := "Fault.Return" }
    let r : Relay :=
      { settings, filter := QueueFilter.byEnding.excluding (QueueFilter.ownQueues settings) }
    let occurrences : List Occurrence :=
      [.begun, .listed [.ok "orders_error"] fun _ => .ok false, .answered Opening.complete]
    let now := (r.launch false).run occurrences
    let receiver : ReceiverSettings := ⟨"orders_error", "orders_error", "Fault.Return.poison"⟩
    make settings {} = .ok r ∧ receiver ∈ now.started ∧
      (now.route .rabbitMq receiver).direction ≠ .giveBack := by
  intro settings r occurrences now receiver
  have hmake : make settings {} = .ok r := by
    simp [make, QueueFilter.ofSettings?, settings, r]
  have hmem : receiver ∈ now.started := by decide +kernel
  obtain ⟨-, hiff, -⟩ := giveBack_iff hmake false occurrences .rabbitMq
  refine ⟨hmake, hmem, fun hdirection => ?_⟩
  have hnot : ¬(receiver.address = settings.returnQueue ∨
      receiver.address = Provision.returnReceiver) := by decide
  exact hnot ((hiff receiver hmem).mp hdirection)

/-- Faults in a queue called `Return` are given back although it is not the return queue. -/
theorem giveBack_misnamed :
    let settings : Settings := { returnQueue := "Retry.Return", queueFilter := some "^Return$" }
    let r : Relay :=
      { settings, filter := (QueueFilter.ofSettings? settings).getD .byEnding }
    let occurrences : List Occurrence :=
      [.begun, .listed [.ok "error", .ok "Return"] fun _ => .ok false, .answered Opening.complete]
    let now := (r.launch false).run occurrences
    let receiver : ReceiverSettings := ⟨"Return", "Return", "Retry.Return.poison"⟩
    settings.validate = .ok () ∧ make settings {} = .ok r ∧
      r.filter.accepts receiver.address = true ∧ receiver.address ≠ settings.returnQueue ∧
      receiver ∈ now.started ∧ (now.route .memory receiver).direction = .giveBack := by
  intro settings r occurrences now receiver
  have hsome : (QueueFilter.ofSettings? settings).isSome = true := by decide +kernel
  exact ⟨by decide +kernel, make_eq_ok hsome {}, by decide +kernel, by decide,
    by decide +kernel, by decide +kernel⟩

/-! ### The output of the relay -/

/-- The relay receives from a queue, or says that it does. -/
def ReceivesFrom (r : Relay) (queue : String) : Prop :=
  queue ∈ r.status.listening ∨ ∃ receiver ∈ r.started, receiver.address = queue

instance (r : Relay) (queue : String) : Decidable (r.ReceivesFrom queue) :=
  inferInstanceAs (Decidable (queue ∈ r.status.listening ∨
    ∃ receiver ∈ r.started, receiver.address = queue))

/-- Of the queues of its own the relay receives from the return queue only. -/
theorem Made.eq_returnQueue
    {settings : Settings} {r : Relay} (h : Made settings r) {queue : String}
    (hown : queue ∈ QueueFilter.ownQueues settings) (hreceives : r.ReceivesFrom queue) :
    queue = settings.returnQueue := by
  have haccepts : ∀ name : String, name = queue → r.filter.accepts name = false := by
    rintro name rfl
    exact QueueFilter.accepts_ownQueue h.filter_eq hown
  rcases hreceives with hlistening | ⟨receiver, hmem, rfl⟩
  · rcases h.selective.listening queue hlistening with hreturn | haccepted
    · rw [← h.settings_eq]
      exact hreturn
    · rw [haccepts queue rfl] at haccepted
      cases haccepted
  · rcases h.selective.started receiver hmem with hreturn | ⟨-, haccepted⟩
    · rw [hreturn, h.settings_eq]
      rfl
    · rw [haccepts _ rfl] at haccepted
      cases haccepted

theorem poisonQueue_ne_returnQueue (s : Settings) : s.poisonQueue ≠ s.returnQueue := by
  intro heq
  have hlength := congrArg String.length heq
  rw [Settings.poisonQueue, String.length_append] at hlength
  have hending : ".poison".length = 7 := rfl
  omega

theorem returnQueue_ne_errorQueue {s : Settings} (h : s.validate = .ok ()) :
    s.returnQueue ≠ s.errorQueue := by
  intro heq
  simp only [Settings.validate, bind_eq_ok] at h
  obtain ⟨_, _, _, _, _, _, _, hdifferent, _⟩ := h
  simp [Settings.refuseIf, heq] at hdifferent

/--
The relay never receives from the queues to which it forwards and where it leaves what it
cannot forward.  It receives from its control queue exactly when that is its return queue.
-/
theorem receives_output_iff
    {settings : Settings} (hvalid : settings.validate = .ok ()) {diagnostics : Diagnostics}
    {r : Relay} (hmake : make settings diagnostics = .ok r) (provision : Bool)
    (occurrences : List Occurrence) :
    let now := (r.launch provision).run occurrences
    ¬now.ReceivesFrom settings.errorQueue ∧ ¬now.ReceivesFrom settings.poisonQueue ∧
      (now.ReceivesFrom settings.controlQueue → settings.controlQueue = settings.returnQueue) ∧
      (now.isOpen = true →
        (now.ReceivesFrom settings.controlQueue ↔
          settings.controlQueue = settings.returnQueue)) := by
  intro now
  have hmade : Made settings now := made_run hmake provision occurrences
  have hcontrol : now.ReceivesFrom settings.controlQueue →
      settings.controlQueue = settings.returnQueue :=
    hmade.eq_returnQueue (by simp [QueueFilter.ownQueues])
  refine ⟨fun hreceives => ?_, fun hreceives => ?_, hcontrol, fun hopen => ⟨hcontrol, ?_⟩⟩
  · have heq := hmade.eq_returnQueue (by simp [QueueFilter.ownQueues]) hreceives
    exact returnQueue_ne_errorQueue hvalid heq.symm
  · have heq := hmade.eq_returnQueue (by simp [QueueFilter.ownQueues]) hreceives
    exact poisonQueue_ne_returnQueue settings heq
  · intro heq
    rw [heq, ← hmade.settings_eq]
    exact Or.inr ⟨_, hmade.selective.returns hopen, rfl⟩

/-- A relay with separate queues receives from none of those that it sends to. -/
theorem receives_output_separate :
    let settings : Settings := { returnQueue := "Fault.Return", queueFilter := some ".*" }
    let r : Relay := { settings, filter := (QueueFilter.ofSettings? settings).getD .byEnding }
    let occurrences : List Occurrence :=
      [.begun, .listed [.ok "error", .ok "Particular.ServiceControl", .ok "Fault.Return.poison"]
        fun _ => .ok false, .answered Opening.complete]
    settings.validate = .ok () ∧ make settings {} = .ok r ∧
      ¬((r.launch false).run occurrences).ReceivesFrom settings.controlQueue := by
  intro settings r occurrences
  have hsome : (QueueFilter.ofSettings? settings).isSome = true := by decide +kernel
  have hmake : make settings {} = .ok r := make_eq_ok hsome {}
  have hvalid : settings.validate = .ok () := by decide +kernel
  obtain ⟨-, -, hcontrol, -⟩ := receives_output_iff hvalid hmake false occurrences
  have hdifferent : settings.controlQueue ≠ settings.returnQueue := by decide
  exact ⟨hvalid, hmake, fun hreceives => hdifferent (hcontrol hreceives)⟩

/-- Settings are accepted with which the relay receives its own heartbeats. -/
theorem receives_own_heartbeats :
    let settings : Settings := { returnQueue := "Bridge", controlQueue := "Bridge" }
    let r : Relay := { settings, filter := (QueueFilter.ofSettings? settings).getD .byEnding }
    let occurrences : List Occurrence :=
      [.begun, .listed [.ok "error", .ok "orders_error"] fun _ => .ok false,
        .answered Opening.complete]
    settings.validate = .ok () ∧ make settings {} = .ok r ∧
      ((r.launch false).run occurrences).ReceivesFrom settings.controlQueue := by
  intro settings r occurrences
  have hsome : (QueueFilter.ofSettings? settings).isSome = true := by decide +kernel
  exact ⟨by decide +kernel, make_eq_ok hsome {}, by decide +kernel⟩

end Relay
end FaultRelay
