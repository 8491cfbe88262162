import FaultRelay.Proofs.Service.Occurrences
import FaultRelay.Proofs.Service.Opening

/-!
# What the relay publishes while it listens

The topology, the open generation, the published status and the diagnostics all say which
queues are listened to, and are written at different times.

**Invariant.** `Relay.Consistent r discovered`: by its phase the relay `r` agrees with the
queues that were discovered last.

**Results.**
* `Relay.Consistent.run`: every run of the relay keeps it consistent.
* `Relay.reconciled`: whenever the relay is listening, either a generation is open and the
  receivers, the published status and the diagnostics agree on the queues of the topology,
  or none is open and no queue is reported as listened to.  A scan that fails changes
  nothing.
-/

namespace FaultRelay

namespace Relay

/-- The queues that were discovered last; a first scan that fails discovers none. -/
def known (r : Relay) (before : QueueSet) : Occurrence → QueueSet
  | .listed listing _ =>
      match r.phase, r.filter.discover listing with
      | .discovering, .ok discovered => discovered
      | .discovering, .error _ => ∅
      | .reconciling, .ok discovered => discovered
      | _, _ => before
  | _ => before

/-- The queues that were discovered last in a sequence of occurrences. -/
def knownAfter (r : Relay) (before : QueueSet) : List Occurrence → QueueSet
  | [] => before
  | o :: rest => (r.advance o).knownAfter (r.known before o) rest

/-- A generation of receivers is open, and all that is published agrees with it. -/
structure Attending (r : Relay) (discovered : QueueSet) : Prop where
  isOpen : r.isOpen = true
  discovered_eq : r.topology.discovered = discovered
  notFound_subset : ∀ queue ∈ r.topology.notFound, queue ∈ r.topology.discovered
  started_eq : r.started = receivers r.settings r.topology.listening.toList
  mem_listening : ∀ queue : String, queue ∈ r.status.listening ↔
    queue = r.settings.returnQueue ∨
      queue ∈ r.topology.discovered ∧ queue ∉ r.topology.notFound
  errorQueues_eq : r.diagnostics.errorQueues = r.topology.discovered
  notFound_eq : r.diagnostics.notFound = r.topology.notFound

/-- No receiver is left, and no queue is reported as listened to. -/
structure Idle (r : Relay) (discovered : QueueSet) : Prop where
  isOpen : r.isOpen = false
  listening_eq : r.status.listening = ∅
  started_eq : r.started = []
  errorQueues_eq : r.diagnostics.errorQueues = discovered
  notFound_eq : r.diagnostics.notFound = discovered

/-- Where the relay stands; only a relay that listens says so. -/
def Standing (r : Relay) (discovered : QueueSet) : Prop :=
  match r.phase with
  | .listening =>
      r.status.state = .listening ∧ (r.Attending discovered ∨ r.Idle discovered)
  | .reconciling =>
      r.status.state ≠ .listening ∧ (r.Attending discovered ∨ r.Idle discovered)
  | .opening _ queues | .closing (.restart queues) | .closing (.failed _ queues _) =>
      r.status.state ≠ .listening ∧ queues = discovered
  | _ => r.status.state ≠ .listening

/-- The relay agrees with what was discovered last, whatever it waits for. -/
structure Consistent (r : Relay) (discovered : QueueSet) : Prop where
  returnQueue_excluded : r.filter.accepts r.settings.returnQueue = false
  returnQueue_notMem : r.settings.returnQueue ∉ discovered
  standing : r.Standing discovered

section Step

variable {r : Relay} {discovered : QueueSet}

theorem consistent_launch
    {settings : Settings} {diagnostics : Diagnostics} (hmake : make settings diagnostics = .ok r)
    (provision : Bool) : (r.launch provision).Consistent ∅ := by
  unfold make at hmake
  cases hfilter : QueueFilter.ofSettings? settings with
  | none => simp [hfilter] at hmake
  | some filter =>
      simp only [hfilter, Except.ok.injEq] at hmake
      subst hmake
      exact {
        returnQueue_excluded := QueueFilter.accepts_returnQueue hfilter
        returnQueue_notMem := Std.ExtTreeSet.not_mem_empty
        standing := by simp [Standing, launch] }

/-- Nothing that is published about queues tells two relays apart. -/
structure SameQueues (r r' : Relay) : Prop where
  settings_eq : r'.settings = r.settings
  isOpen_eq : r'.isOpen = r.isOpen
  topology_eq : r'.topology = r.topology
  started_eq : r'.started = r.started
  listening_eq : r'.status.listening = r.status.listening
  errorQueues_eq : r'.diagnostics.errorQueues = r.diagnostics.errorQueues
  notFound_eq : r'.diagnostics.notFound = r.diagnostics.notFound

theorem SameQueues.attending
    {r' : Relay} (hsame : r.SameQueues r') (h : r.Attending discovered) :
    r'.Attending discovered where
  isOpen := hsame.isOpen_eq.trans h.isOpen
  discovered_eq := by rw [hsame.topology_eq, h.discovered_eq]
  notFound_subset := by rw [hsame.topology_eq]; exact h.notFound_subset
  started_eq := by rw [hsame.started_eq, hsame.settings_eq, hsame.topology_eq, h.started_eq]
  mem_listening := by
    rw [hsame.listening_eq, hsame.settings_eq, hsame.topology_eq]
    exact h.mem_listening
  errorQueues_eq := by rw [hsame.errorQueues_eq, hsame.topology_eq, h.errorQueues_eq]
  notFound_eq := by rw [hsame.notFound_eq, hsame.topology_eq, h.notFound_eq]

theorem SameQueues.idle
    {r' : Relay} (hsame : r.SameQueues r') (h : r.Idle discovered) : r'.Idle discovered where
  isOpen := hsame.isOpen_eq.trans h.isOpen
  listening_eq := hsame.listening_eq.trans h.listening_eq
  started_eq := hsame.started_eq.trans h.started_eq
  errorQueues_eq := hsame.errorQueues_eq.trans h.errorQueues_eq
  notFound_eq := hsame.notFound_eq.trans h.notFound_eq

theorem SameQueues.attending_or_idle
    {r' : Relay} (hsame : r.SameQueues r') (h : r.Attending discovered ∨ r.Idle discovered) :
    r'.Attending discovered ∨ r'.Idle discovered := by
  rcases h with hattending | hidle
  · exact Or.inl (hsame.attending hattending)
  · exact Or.inr (hsame.idle hidle)

theorem sameQueues_listen (r : Relay) : r.SameQueues r.listen :=
  ⟨rfl, rfl, rfl, rfl, rfl, rfl, rfl⟩

theorem sameQueues_scan (r : Relay) : r.SameQueues r.scan :=
  ⟨rfl, rfl, rfl, rfl, rfl, rfl, rfl⟩

theorem sameQueues_observe (r : Relay) (now : Time.Instant) (e : LogEvent) :
    r.SameQueues { r with diagnostics := r.diagnostics.observe now e } := by
  have hqueues : (r.diagnostics.observe now e).errorQueues = r.diagnostics.errorQueues ∧
      (r.diagnostics.observe now e).notFound = r.diagnostics.notFound := by
    unfold Diagnostics.observe
    split
    · exact ⟨rfl, rfl⟩
    · exact ⟨rfl, rfl⟩
  exact ⟨rfl, rfl, rfl, rfl, rfl, hqueues.1, hqueues.2⟩

/-- Receivers for the queues that exist make up a generation. -/
theorem attending_opened
    (r : Relay) (p : String → Bool) (discovered : QueueSet) :
    (r.opened discovered (discovered.filter fun queue => !p queue)
      (receivers r.settings (discovered.filter p).toList)).Attending discovered := by
  have hmissing : ∀ queue : String,
      queue ∈ discovered.filter (fun queue => !p queue) ↔ queue ∈ discovered ∧ p queue = false := by
    intro queue
    rw [QueueSet.mem_filter, Bool.not_eq_true']
  have hpresent : ∀ queue : String, queue ∈ discovered.filter p ↔
      queue ∈ discovered ∧ queue ∉ discovered.filter fun queue => !p queue := by
    intro queue
    rw [QueueSet.mem_filter, hmissing]
    cases p queue <;> simp
  have hlistening : (Topology.mk discovered
      (discovered.filter fun queue => !p queue)).listening = discovered.filter p := by
    refine Std.ExtTreeSet.ext_mem fun queue => ?_
    rw [Topology.listening, QueueSet.mem_filter, hpresent, QueueSet.not_contains_eq_true]
  exact {
    isOpen := rfl
    discovered_eq := rfl
    notFound_subset := fun queue hqueue => Std.ExtTreeSet.mem_of_mem_filter hqueue
    started_eq := by
      simp only [opened, listen, setState, goto, publish, hlistening]
    mem_listening := by
      intro queue
      simp only [opened, listen, setState, goto, publish, ← hpresent queue]
      simp [receivers, Provision.returnSettings]
    errorQueues_eq := by
      simp only [opened, listen, setState, goto, publish, Diagnostics.publish_eq]
    notFound_eq := by
      simp only [opened, listen, setState, goto, publish, Diagnostics.publish_eq] }

theorem standing_fail
    (r : Relay) (first : Bool) (discovered : QueueSet) (e : TransportError) :
    (r.fail first discovered e).1.Standing discovered := by
  cases first with
  | true => simp [fail, Standing, setState, goto]
  | false =>
      refine ⟨rfl, Or.inr ?_⟩
      exact {
        isOpen := rfl
        listening_eq := rfl
        started_eq := rfl
        errorQueues_eq := by
          simp [fail, listen, setState, goto, publish, Diagnostics.publish_eq]
        notFound_eq := by
          simp [fail, listen, setState, goto, publish, Diagnostics.publish_eq] }

theorem standing_openFor
    (hstate : r.status.state ≠ .listening) (first : Bool) (o : Opening) :
    (r.openFor first discovered o).1.Standing discovered := by
  have hopened := opened_openFor r first discovered o
  generalize (r.openFor first discovered o).1 = r' at hopened ⊢
  cases hopened with
  | all hstart => exact ⟨rfl, Or.inl (attending_opened r (answersYes o.exists?) discovered)⟩
  | some started e hfirst hne => exact ⟨hstate, rfl⟩
  | none e => exact standing_fail r first discovered e

theorem standing_found
    (hphase : r.phase = .reconciling) (hstanding : r.Standing discovered)
    (listing : Listing) (exists? : String → Except DiscoveryError Bool) :
    (r.found (r.filter.discover listing) exists?).1.Standing
      (r.known discovered (.listed listing exists?)) := by
  unfold Standing at hstanding
  simp only [hphase] at hstanding
  obtain ⟨hstate, hqueues⟩ := hstanding
  unfold known found
  cases hdiscover : r.filter.discover listing with
  | error e =>
      simp only [hphase, hdiscover]
      exact ⟨rfl, (sameQueues_listen r).attending_or_idle hqueues⟩
  | ok found =>
      simp only [hphase, hdiscover]
      by_cases hstay : (r.isOpen && !r.topology.requiresRestart found
          (recovered exists? r.topology.notFound).1) = true
      · rw [if_pos hstay]
        rw [Bool.and_eq_true, Bool.not_eq_true', Topology.requiresRestart, Bool.or_eq_false_iff,
          bne_eq_false_iff_eq, Std.ExtTreeSet.toList_inj] at hstay
        obtain ⟨hopen, hfound, -⟩ := hstay
        have hattending : r.Attending discovered := by
          rcases hqueues with hattending | hidle
          · exact hattending
          · rw [hidle.isOpen] at hopen
            cases hopen
        -- an open generation is kept only when the same queues were discovered again
        have hsame : found = discovered := by
          rw [← hfound, hattending.discovered_eq]
        rw [hsame]
        exact ⟨rfl, Or.inl ((sameQueues_listen r).attending hattending)⟩
      · rw [if_neg hstay]
        exact ⟨hstate, rfl⟩

theorem standing_closed
    {next : Closing} (hphase : r.phase = .closing next) (hstanding : r.Standing discovered) :
    (r.closed next).1.Standing discovered := by
  unfold Standing at hstanding
  simp only [hphase] at hstanding
  cases next with
  | restart queues => exact hstanding
  | failed first queues e =>
      obtain ⟨-, rfl⟩ := hstanding
      exact standing_fail _ first queues e
  | drain result => simp [closed, Standing, goto]

theorem standing_provisioned (r : Relay) (succeeded : Bool) (hstate : r.status.state ≠ .listening) :
    (r.provisioned succeeded).Standing discovered := by
  cases succeeded with
  | true => exact hstate
  | false => simp [provisioned, Standing, goto, setState]

theorem returnQueue_notMem_known
    (h : r.Consistent discovered) (o : Occurrence) :
    r.settings.returnQueue ∉ r.known discovered o := by
  have hnone := h.returnQueue_notMem
  have hchosen : ∀ (listing : Listing) (queues : QueueSet),
      r.filter.discover listing = .ok queues → r.settings.returnQueue ∉ queues := by
    intro listing queues hqueues hmem
    have haccepts := QueueFilter.accepts_of_discover hqueues hmem
    rw [h.returnQueue_excluded] at haccepts
    cases haccepts
  unfold known
  split
  · split
    · exact hchosen _ _ ‹_›
    · exact Std.ExtTreeSet.not_mem_empty
    · exact hchosen _ _ ‹_›
    · exact hnone
  · exact hnone

theorem SameQueues.standing
    {r' : Relay} (hsame : r.SameQueues r') (hphase : r'.phase = r.phase)
    (hstate : r'.status.state = r.status.state) (hstanding : r.Standing discovered) :
    r'.Standing discovered := by
  unfold Standing at hstanding ⊢
  rw [hphase, hstate]
  split at hstanding
  · exact ⟨hstanding.1, hsame.attending_or_idle hstanding.2⟩
  · exact ⟨hstanding.1, hsame.attending_or_idle hstanding.2⟩
  · exact hstanding
  · exact hstanding
  · exact hstanding
  · exact hstanding

/-- A relay that does not wait for an occurrence stays as it is, and so does what it knows. -/
theorem standing_advance
    (hstanding : r.Standing discovered) (o : Occurrence) :
    (r.advance o).Standing (r.known discovered o) := by
  cases o with
  | begun =>
      simp only [advance, known]
      cases hphase : r.phase with
      | ready provision =>
          simp only [Standing, hphase] at hstanding
          cases provision with
          | true => simp [begin, Standing, goto, setState]
          | false => exact hstanding
      | _ => exact hstanding
  | provisioned succeeded =>
      simp only [advance, known]
      cases hphase : r.phase with
      | provisioning =>
          simp only [Standing, hphase] at hstanding
          exact standing_provisioned r succeeded hstanding
      | _ => exact hstanding
  | scanned =>
      simp only [advance, known]
      cases hphase : r.phase with
      | listening =>
          simp only [Standing, hphase] at hstanding
          refine ⟨?_, (sameQueues_scan r).attending_or_idle hstanding.2⟩
          simp [scan, goto, setState]
      | _ => exact hstanding
  | listed listing exists? =>
      simp only [advance]
      cases hphase : r.phase with
      | discovering =>
          simp only [Standing, hphase] at hstanding
          unfold known foundFirst
          cases hdiscover : r.filter.discover listing with
          | ok found =>
              simp only [hphase, hdiscover]
              exact ⟨hstanding, rfl⟩
          | error e =>
              simp only [hphase, hdiscover]
              exact ⟨hstanding, rfl⟩
      | reconciling => exact standing_found hphase hstanding listing exists?
      | _ => simpa only [known, hphase] using hstanding
  | answered o =>
      simp only [advance, known]
      cases hphase : r.phase with
      | opening first queues =>
          simp only [Standing, hphase] at hstanding
          obtain ⟨hstate, rfl⟩ := hstanding
          exact standing_openFor hstate first o
      | _ => exact hstanding
  | interrupted result =>
      simp only [advance, known]
      cases hphase : r.phase with
      | listening => simp [interrupt, Standing, goto, setState]
      | _ => exact hstanding
  | stopped =>
      simp only [advance, known]
      cases hphase : r.phase with
      | closing next => exact standing_closed hphase hstanding
      | _ => exact hstanding
  | reported now e => exact (sameQueues_observe r now e).standing rfl rfl hstanding

/-- Every occurrence keeps the relay consistent. -/
theorem Consistent.advance
    (h : r.Consistent discovered) (o : Occurrence) :
    (r.advance o).Consistent (r.known discovered o) := by
  obtain ⟨hfilter, hsettings⟩ := filter_advance r o
  exact {
    returnQueue_excluded := by rw [hfilter, hsettings, h.returnQueue_excluded]
    returnQueue_notMem := by
      rw [hsettings]
      exact returnQueue_notMem_known h o
    standing := standing_advance h.standing o }

theorem Consistent.run
    (h : r.Consistent discovered) (occurrences : List Occurrence) :
    (r.run occurrences).Consistent (r.knownAfter discovered occurrences) := by
  induction occurrences generalizing r discovered with
  | nil => exact h
  | cons o rest ih => exact ih (h.advance o)

/-- A receiver runs on the queues that are published, and on no other one. -/
theorem Attending.exists_started_iff (h : r.Attending discovered) (queue : String) :
    (∃ receiver ∈ r.started, receiver.address = queue) ↔ queue ∈ r.status.listening := by
  have hpresent : queue ∈ r.topology.listening ↔
      queue ∈ r.topology.discovered ∧ queue ∉ r.topology.notFound := by
    rw [Topology.listening, QueueSet.mem_filter, QueueSet.not_contains_eq_true]
  rw [h.mem_listening, h.started_eq, ← hpresent, ← List.mem_map]
  simp [receivers, Provision.returnSettings]

/-- A queue that was discovered is reported as listened to when a receiver runs on it. -/
theorem Attending.mem_ingestion_iff
    (h : r.Attending discovered) (hown : r.settings.returnQueue ∉ discovered) (queue : String) :
    (queue, true) ∈ r.diagnostics.ingestion ↔
      queue ∈ discovered ∧ ∃ receiver ∈ r.started, receiver.address = queue := by
  rw [h.exists_started_iff, h.mem_listening, Diagnostics.mem_ingestion, h.errorQueues_eq,
    h.notFound_eq, h.discovered_eq, eq_comm, QueueSet.not_contains_eq_true]
  constructor
  · rintro ⟨hmem, hfound⟩
    exact ⟨hmem, Or.inr ⟨hmem, hfound⟩⟩
  · rintro ⟨hmem, rfl | ⟨-, hfound⟩⟩
    · exact absurd hmem hown
    · exact ⟨hmem, hfound⟩

/-- Every queue that was discovered is reported as not listened to. -/
theorem Idle.mem_ingestion_iff (h : r.Idle discovered) (queue : String) (isListened : Bool) :
    (queue, isListened) ∈ r.diagnostics.ingestion ↔ queue ∈ discovered ∧ isListened = false := by
  rw [Diagnostics.mem_ingestion, h.errorQueues_eq, h.notFound_eq]
  constructor
  · rintro ⟨hmem, hlistened⟩
    exact ⟨hmem, by simpa [Std.ExtTreeSet.contains_iff_mem.mpr hmem] using hlistened⟩
  · rintro ⟨hmem, rfl⟩
    exact ⟨hmem, by simp [Std.ExtTreeSet.contains_iff_mem.mpr hmem]⟩

/-- Only a relay in its listening phase says that it listens. -/
theorem phase_of_standing
    (hstanding : r.Standing discovered) (hstate : r.status.state = .listening) :
    r.phase = .listening := by
  unfold Standing at hstanding
  split at hstanding
  · assumption
  · exact absurd hstate hstanding.1
  · exact absurd hstate hstanding.1
  · exact absurd hstate hstanding.1
  · exact absurd hstate hstanding.1
  · exact absurd hstate hstanding

/-- A scan that cannot find queues leaves the relay as it was. -/
theorem run_failed_scan
    (hphase : r.phase = .listening) (hstate : r.status.state = .listening)
    {listing : Listing} {e : DiscoveryError} (hlisting : r.filter.discover listing = .error e)
    (exists? : String → Except DiscoveryError Bool) :
    r.run [.scanned, .listed listing exists?] = r := by
  have hscan : r.advance .scanned = r.scan := by simp only [advance, hphase]
  have hfound : r.scan.advance (.listed listing exists?) = r.scan.listen := by
    change (r.scan.found (r.filter.discover listing) exists?).1 = r.scan.listen
    rw [hlisting]
    rfl
  have hback : r.scan.listen = { r with
      phase := .listening, status := { r.status with state := .listening } } := rfl
  rw [run, List.foldl_cons, List.foldl_cons, List.foldl_nil, hscan, hfound, hback, ← hphase,
    ← hstate]

/--
Whenever the relay listens, either a generation is open and the receivers, the published
queues and the diagnostics agree on what was discovered last, or none is open and nothing
is published as listened to.
-/
theorem reconciled
    {settings : Settings} {diagnostics : Diagnostics} {r : Relay}
    (hmake : make settings diagnostics = .ok r) (provision : Bool)
    (occurrences : List Occurrence)
    (hstate : ((r.launch provision).run occurrences).status.state = .listening) :
    let now := (r.launch provision).run occurrences
    let discovered := (r.launch provision).knownAfter ∅ occurrences
    ((now.Attending discovered ∧
        (∀ queue : String,
          (∃ receiver ∈ now.started, receiver.address = queue) ↔
            queue ∈ now.status.listening) ∧
        (∀ queue : String, (queue, true) ∈ now.diagnostics.ingestion ↔
          queue ∈ discovered ∧ ∃ receiver ∈ now.started, receiver.address = queue)) ∨
      (now.Idle discovered ∧
        ∀ (queue : String) (isListened : Bool), (queue, isListened) ∈ now.diagnostics.ingestion ↔
          queue ∈ discovered ∧ isListened = false)) ∧
    ∀ (listing : Listing) (e : DiscoveryError) (exists? : String → Except DiscoveryError Bool),
      now.filter.discover listing = .error e →
        now.run [.scanned, .listed listing exists?] = now := by
  intro now discovered
  have hconsistent : now.Consistent discovered :=
    (consistent_launch hmake provision).run occurrences
  have hphase : now.phase = .listening := phase_of_standing hconsistent.standing hstate
  refine ⟨?_, fun listing e exists? hlisting => run_failed_scan hphase hstate hlisting exists?⟩
  have hstanding := hconsistent.standing
  simp only [Standing, hphase] at hstanding
  rcases hstanding.2 with hattending | hidle
  · exact Or.inl ⟨hattending, hattending.exists_started_iff,
      hattending.mem_ingestion_iff hconsistent.returnQueue_notMem⟩
  · exact Or.inr ⟨hidle, hidle.mem_ingestion_iff⟩

/-- A relay that listens to one of two queues, after a scan that failed. -/
theorem reconciled_missing_queue :
    let settings : Settings := { returnQueue := "Fault.Return" }
    let r : Relay :=
      { settings, filter := QueueFilter.byEnding.excluding (QueueFilter.ownQueues settings) }
    let o : Opening :=
      { exists? := fun queue => .ok (queue == "orders_error")
        create := fun _ => (.ok (), [])
        start := fun _ => .ok () }
    let occurrences : List Occurrence :=
      [.begun, .listed [.ok "orders_error", .ok "lost_error", .ok "orders"] o.exists?, .answered o,
        .scanned, .listed [.error (.request "closed")] o.exists?]
    make settings {} = .ok r ∧
      ((r.launch false).run occurrences).status.state = .listening ∧
      ((r.launch false).run occurrences).diagnostics.ingestion =
        [("lost_error", false), ("orders_error", true)] ∧
      ((r.launch false).run occurrences).Attending
        ((r.launch false).knownAfter ∅ occurrences) := by
  intro settings r o occurrences
  have hmake : make settings {} = .ok r := by
    simp [make, QueueFilter.ofSettings?, settings, r]
  have hstate : ((r.launch false).run occurrences).status.state = .listening := by
    decide +kernel
  have hopen : ((r.launch false).run occurrences).isOpen = true := by decide +kernel
  refine ⟨hmake, hstate, by decide +kernel, ?_⟩
  rcases (reconciled hmake false occurrences hstate).1 with hattending | hidle
  · exact hattending.1
  · have hclosed := hidle.1.isOpen
    rw [hopen] at hclosed
    cases hclosed

end Step

end Relay
end FaultRelay
