import FaultRelay.Proofs.Service.Reconciliation

/-!
# When receivers are started anew

A relay that listens looks for queues again and again.  It compares what it finds with what it
found when its receivers were started, and with the queues that were missing then.

**Rules.**
* `Relay.Listens r discovered`: the relay listens, with a generation of receivers that is open for
  the queues that were discovered last.
* `Rescan.occurrences`: what happens to the relay when it looks for queues again.

**Results.**
* `Relay.exists_run_eq_withLogs`: what is reported changes nothing but the log.
* `Relay.Listens.run_rescan_stays`, `Relay.Listens.run_rescan_restarts`: what one scan comes to.
* `Relay.Listens.listens_run`, `Relay.Listens.generation_run`: what any number of scans comes to.
* `Relay.restarted_on_changes`: receivers are started anew exactly when other queues are
  discovered, or when one that was missing exists.
-/

namespace FaultRelay

/-- How often a set of queues differs from the one before it. -/
def QueueSet.changes (sets : List QueueSet) : Nat :=
  (sets.zip sets.tail).countP fun pair => pair.1 != pair.2

theorem QueueSet.changes_cons_cons (before after : QueueSet) (rest : List QueueSet) :
    changes (before :: after :: rest) =
      (if before = after then 0 else 1) + changes (after :: rest) := by
  simp only [changes, List.tail_cons, List.zip_cons_cons, List.countP_cons, bne_iff_ne]
  split <;> simp_all [Nat.add_comm]

/-- Transports can be made and every receiver can be started. -/
structure Opening.Succeeds (o : Opening) : Prop where
  create (receivers : List ReceiverSettings) : (o.create receivers).1 = .ok ()
  start (receiver : ReceiverSettings) : o.start receiver = .ok ()

/-- What the relay meets with when it looks for queues again. -/
structure Rescan where
  listing : Listing
  /-- Whether queues exist that were missing. -/
  exists? : String → Except DiscoveryError Bool
  opening : Opening

namespace Rescan

/-- What happens to the relay; it waits for the last two only when receivers are started anew. -/
def occurrences (t : Rescan) : List Relay.Occurrence :=
  [.scanned, .listed t.listing t.exists?, .stopped, .answered t.opening]

/-- The queues that are discovered, unless discovering them fails. -/
def found? (filter : QueueFilter) (t : Rescan) : Option QueueSet :=
  (filter.discover t.listing).toOption

theorem discover_of_found
    {filter : QueueFilter} {t : Rescan} {discovered : QueueSet}
    (h : t.found? filter = some discovered) : filter.discover t.listing = .ok discovered := by
  unfold found? at h
  cases heq : filter.discover t.listing with
  | error e => simp [heq, Except.toOption] at h
  | ok found => simpa [heq, Except.toOption] using h

/-- Every queue exists whenever it is asked for. -/
structure FindsAll (t : Rescan) : Prop where
  again (queue : String) : t.exists? queue = .ok true
  opening (queue : String) : t.opening.exists? queue = .ok true

end Rescan

namespace Relay

/-! ### Reports -/

section Reports

/-- Whether an event is reported and nothing else happens. -/
def Occurrence.isReport : Occurrence → Bool
  | .reported .. => true
  | _ => false

/-- The relay with another log. -/
def withLogs (r : Relay) (logs : List LogEntry) : Relay :=
  { r with diagnostics := { r.diagnostics with logs } }

variable (r : Relay) (logs : List LogEntry)

theorem withLogs_publish (discovered idle : QueueSet) :
    (r.withLogs logs).publish discovered idle = (r.publish discovered idle).withLogs logs := by
  simp only [publish, withLogs, Diagnostics.publish_eq]

theorem withLogs_fail (first : Bool) (discovered : QueueSet) (e : TransportError) :
    ((r.withLogs logs).fail first discovered e).1 =
      (r.fail first discovered e).1.withLogs logs := by
  unfold fail
  rw [withLogs_publish]
  cases first <;> rfl

theorem withLogs_opened (discovered notFound : QueueSet) (started : List ReceiverSettings) :
    (r.withLogs logs).opened discovered notFound started =
      (r.opened discovered notFound started).withLogs logs := by
  unfold opened
  rw [withLogs_publish]
  rfl

theorem withLogs_openFor (first : Bool) (discovered : QueueSet) (o : Opening) :
    ((r.withLogs logs).openFor first discovered o).1 =
      (r.openFor first discovered o).1.withLogs logs := by
  have hsettings : (r.withLogs logs).settings = r.settings := rfl
  unfold openFor
  rw [hsettings]
  split
  dsimp only
  split
  · exact withLogs_fail r logs first discovered _
  · split
    · exact withLogs_opened r logs discovered _ _
    · rfl

theorem withLogs_found
    (result : Except DiscoveryError QueueSet) (exists? : String → Except DiscoveryError Bool) :
    ((r.withLogs logs).found result exists?).1 = (r.found result exists?).1.withLogs logs := by
  have hopen : (r.withLogs logs).isOpen = r.isOpen := rfl
  have htopology : (r.withLogs logs).topology = r.topology := rfl
  unfold found
  split
  · rfl
  · rw [hopen, htopology]
    dsimp only
    split <;> rfl

theorem withLogs_advance {o : Occurrence} (hown : o.isReport = false) :
    (r.withLogs logs).advance o = (r.advance o).withLogs logs := by
  have hphase : (r.withLogs logs).phase = r.phase := rfl
  cases o with
  | begun =>
      simp only [advance, hphase]
      split
      · unfold begin
        split <;> rfl
      · rfl
  | provisioned succeeded =>
      simp only [advance, hphase]
      split
      · cases succeeded <;> rfl
      · rfl
  | listed listing exists? =>
      have hfilter : (r.withLogs logs).filter = r.filter := rfl
      simp only [advance, hphase, hfilter]
      split
      · unfold foundFirst
        split <;> rfl
      · exact withLogs_found r logs _ exists?
      · rfl
  | answered o =>
      simp only [advance, hphase]
      split
      · exact withLogs_openFor r logs _ _ o
      · rfl
  | stopped =>
      simp only [advance, hphase]
      split
      · rename_i next _
        cases next with
        | failed first queues e =>
            exact withLogs_fail { r with isOpen := false, started := [] } logs first queues e
        | restart | drain => rfl
      · rfl
  | reported now e => cases hown
  | scanned | interrupted result =>
      simp only [advance, hphase]
      split <;> rfl

theorem exists_advance_reported (now : Time.Instant) (e : LogEvent) :
    ∃ after : List LogEntry, (r.withLogs logs).advance (.reported now e) = r.withLogs after := by
  simp only [advance, Diagnostics.observe]
  split
  · exact ⟨_, rfl⟩
  · exact ⟨logs, rfl⟩

theorem exists_run_withLogs (occurrences : List Occurrence) :
    ∃ after : List LogEntry, (r.withLogs logs).run occurrences =
      (r.run (occurrences.filter fun o => !o.isReport)).withLogs after := by
  induction occurrences generalizing r logs with
  | nil => exact ⟨logs, rfl⟩
  | cons o rest ih =>
      cases hown : o.isReport with
      | false =>
          obtain ⟨after, hrest⟩ := ih (r.advance o) logs
          refine ⟨after, ?_⟩
          rw [List.filter_cons_of_pos (by simp [hown])]
          change ((r.withLogs logs).advance o).run rest = _
          rw [withLogs_advance r logs hown, hrest]
          rfl
      | true =>
          obtain ⟨now, e, rfl⟩ : ∃ (now : Time.Instant) (e : LogEvent), o = .reported now e := by
            cases o <;> simp_all [Occurrence.isReport]
          obtain ⟨before, hreported⟩ := r.exists_advance_reported logs now e
          obtain ⟨after, hrest⟩ := ih r before
          refine ⟨after, ?_⟩
          rw [List.filter_cons_of_neg (by simp [hown])]
          change ((r.withLogs logs).advance (.reported now e)).run rest = _
          rw [hreported, hrest]

/-- What is reported changes nothing but the log. -/
theorem exists_run_eq_withLogs (occurrences : List Occurrence) :
    ∃ after : List LogEntry,
      r.run occurrences = (r.run (occurrences.filter fun o => !o.isReport)).withLogs after :=
  r.exists_run_withLogs r.diagnostics.logs occurrences

end Reports

/-! ### Opening a generation -/

section Opening

theorem answersYes_iff {exists? : String → Except DiscoveryError Bool} {queue : String} :
    answersYes exists? queue = true ↔ exists? queue = .ok true := by
  unfold answersYes
  cases exists? queue <;> simp

/-- The relay after a full set of receivers was started. -/
def renewed (r : Relay) (discovered : QueueSet) (o : Opening) : Relay :=
  r.opened discovered (discovered.filter fun queue => !answersYes o.exists? queue)
    (wanted r.settings discovered o)

theorem generation_renewed (r : Relay) (discovered : QueueSet) (o : Opening) :
    (r.renewed discovered o).status.generation = r.status.generation + 1 := rfl

theorem mem_notFound_renewed
    {r : Relay} {discovered : QueueSet} {o : Opening} {queue : String} :
    queue ∈ (r.renewed discovered o).topology.notFound ↔
      queue ∈ discovered ∧ o.exists? queue ≠ .ok true := by
  change queue ∈ discovered.filter _ ↔ _
  rw [QueueSet.mem_filter, Bool.not_eq_true', ← Bool.not_eq_true, answersYes_iff]

/-- No queue is missing when every one of them exists. -/
theorem notFound_renewed
    {o : Opening} (ho : ∀ queue : String, o.exists? queue = .ok true) (r : Relay)
    (discovered : QueueSet) : (r.renewed discovered o).topology.notFound = ∅ := by
  simp [Std.ExtTreeSet.eq_empty_iff_forall_not_mem, mem_notFound_renewed, ho]

theorem startAll_eq
    {start : ReceiverSettings → Except TransportError Unit}
    (hstart : ∀ receiver : ReceiverSettings, start receiver = .ok ())
    (wanted : List ReceiverSettings) : startAll start wanted = (wanted, none) := by
  induction wanted with
  | nil => rfl
  | cons receiver rest ih => rw [startAll, hstart receiver, ih]

theorem openFor_eq_renewed
    {o : Opening} (ho : o.Succeeds) (r : Relay) (first : Bool) (discovered : QueueSet) :
    (r.openFor first discovered o).1 = r.renewed discovered o := by
  obtain ⟨missing, hsort⟩ := sortOut_eq o.exists? discovered
  have hcreate := ho.create (wanted r.settings discovered o)
  unfold wanted at hcreate
  simp only [openFor, hsort]
  split
  · rename_i e events heq
    rw [heq] at hcreate
    cases hcreate
  · rw [startAll_eq ho.start]
    rfl

/-- The queues that exist by now, of those that were missing. -/
theorem recovered_eq (exists? : String → Except DiscoveryError Bool) (notFound : QueueSet) :
    (recovered exists? notFound).1 = notFound.filter (answersYes exists?) := by
  have hfirst : notFound.toList.foldl (fun found queue =>
      if answersYes exists? queue then found.insert queue else found) ∅ =
        (recovered exists? notFound).1 := by
    unfold recovered
    refine @List.foldl_hom _ _ _ Prod.fst _ _ _ (∅, []) fun before queue => ?_
    unfold answersYes
    cases exists? queue with
    | error e => rfl
    | ok found => cases found <;> rfl
  rw [← hfirst, ← List.foldl_filter, ← Std.ExtTreeSet.toList_filter, QueueSet.foldl_insert_toList]

/-- Nothing is said of queues that are still missing. -/
theorem recovered_of_missing
    {exists? : String → Except DiscoveryError Bool} {notFound : QueueSet}
    (h : ∀ queue ∈ notFound, exists? queue = .ok false) :
    (recovered exists? notFound).2 = [] := by
  unfold recovered
  apply List.foldlRecOn (motive := fun before : QueueSet × List LogEvent => before.2 = [])
  · rfl
  intro before hbefore queue hmem
  rw [h queue (Std.ExtTreeSet.mem_toList.mp hmem)]
  exact hbefore

end Opening

/-! ### One scan -/

/-- Other queues are discovered, or one that was missing exists. -/
def Differs (r : Relay) (discovered : QueueSet) (exists? : String → Except DiscoveryError Bool) :
    Prop :=
  discovered ≠ r.topology.discovered ∨ ∃ queue ∈ r.topology.notFound, exists? queue = .ok true

theorem requiresRestart_iff
    (r : Relay) (discovered : QueueSet) (exists? : String → Except DiscoveryError Bool) :
    r.topology.requiresRestart discovered (recovered exists? r.topology.notFound).1 = true ↔
      r.Differs discovered exists? := by
  rw [recovered_eq, Topology.requiresRestart, Bool.or_eq_true, bne_iff_ne, Ne,
    Std.ExtTreeSet.toList_inj, Differs, ne_comm, Bool.not_eq_true', ← Bool.not_eq_true,
    Std.ExtTreeSet.isEmpty_iff]
  refine or_congr Iff.rfl ?_
  simp [Std.ExtTreeSet.eq_empty_iff_forall_not_mem, answersYes_iff]

theorem found_ok_events
    (r : Relay) (discovered : QueueSet) (exists? : String → Except DiscoveryError Bool) :
    (r.found (.ok discovered) exists?).2 = (recovered exists? r.topology.notFound).2 := by
  simp only [found]
  split <;> rfl

/-- The relay listens, with a generation that is open for the queues that were discovered. -/
structure Listens (r : Relay) (discovered : QueueSet) : Prop where
  phase_eq : r.phase = .listening
  state_eq : r.status.state = .listening
  attending : r.Attending discovered

theorem listens_renewed (r : Relay) (discovered : QueueSet) (o : Opening) :
    (r.renewed discovered o).Listens discovered :=
  ⟨rfl, rfl, attending_opened r (answersYes o.exists?) discovered⟩

section Scan

variable {r : Relay} {last : QueueSet}

theorem Listens.withLogs (h : r.Listens last) (logs : List LogEntry) :
    (r.withLogs logs).Listens last := by
  have hsame : r.SameQueues (r.withLogs logs) := ⟨rfl, rfl, rfl, rfl, rfl, rfl, rfl⟩
  exact ⟨h.phase_eq, h.state_eq, hsame.attending h.attending⟩

/-- A relay that scans and goes on listening is the one that it was. -/
theorem Listens.listen_scan (h : r.Listens last) : r.scan.listen = r := by
  have hback : r.scan.listen =
      { r with phase := .listening, status := { r.status with state := .listening } } := rfl
  rw [hback, ← h.phase_eq, ← h.state_eq]

theorem Listens.found_scan
    (h : r.Listens last) (discovered : QueueSet) (exists? : String → Except DiscoveryError Bool) :
    (r.scan.found (.ok discovered) exists?).1 =
      if r.topology.requiresRestart discovered (recovered exists? r.topology.notFound).1
        then r.scan.goto (.closing (.restart discovered)) else r := by
  have hopen : r.scan.isOpen = true := h.attending.isOpen
  have htopology : r.scan.topology = r.topology := rfl
  simp only [found, hopen, htopology, Bool.true_and, Bool.not_eq_true', h.listen_scan]
  cases r.topology.requiresRestart discovered (recovered exists? r.topology.notFound).1 <;> rfl

/-- The relay ignores that receivers stop and that a broker answers while it listens. -/
theorem Listens.run_ignored (h : r.Listens last) (o : Opening) :
    r.run [.stopped, .answered o] = r := by
  simp only [run, List.foldl_cons, List.foldl_nil, advance, h.phase_eq]

theorem Listens.run_rescan (h : r.Listens last) (t : Rescan) :
    r.run t.occurrences =
      (r.scan.found (r.filter.discover t.listing) t.exists?).1.run
        [.stopped, .answered t.opening] := by
  have hscan : r.advance .scanned = r.scan := by simp only [advance, h.phase_eq]
  rw [Rescan.occurrences, run, List.foldl_cons, List.foldl_cons, hscan]
  rfl

/-- Without a change, the relay is after the scan what it was before. -/
theorem Listens.run_rescan_stays
    (h : r.Listens last) {t : Rescan}
    (hstays : ∀ discovered : QueueSet, t.found? r.filter = some discovered →
      ¬r.Differs discovered t.exists?) : r.run t.occurrences = r := by
  rw [h.run_rescan]
  unfold Rescan.found? at hstays
  cases hdiscover : r.filter.discover t.listing with
  | error e =>
      have hfound : (r.scan.found (.error e) t.exists?).1 = r := h.listen_scan
      rw [hfound, h.run_ignored]
  | ok discovered =>
      have hno := hstays discovered (by rw [hdiscover]; rfl)
      rw [h.found_scan, if_neg fun hyes => hno ((requiresRestart_iff r _ _).mp hyes),
        h.run_ignored]

/-- After a change, the relay listens with another generation. -/
theorem Listens.run_rescan_restarts
    (h : r.Listens last) {t : Rescan} (ht : t.opening.Succeeds) {discovered : QueueSet}
    (hfound : t.found? r.filter = some discovered) (hdiffers : r.Differs discovered t.exists?) :
    r.run t.occurrences = r.renewed discovered t.opening := by
  rw [h.run_rescan, Rescan.discover_of_found hfound, h.found_scan,
    if_pos ((requiresRestart_iff r _ _).mpr hdiffers)]
  change (openFor _ false discovered t.opening).1 = _
  rw [openFor_eq_renewed ht]
  rfl

end Scan

/-! ### Any number of scans -/

section Run

variable {r : Relay} {last : QueueSet}

/-- One scan leaves the relay listening for the queues that were discovered last. -/
theorem Listens.listens_rescan
    (h : r.Listens last) {t : Rescan} (ht : t.opening.Succeeds) :
    (r.run t.occurrences).Listens ((t.found? r.filter).getD last) := by
  cases hfound : t.found? r.filter with
  | none =>
      rw [h.run_rescan_stays (by simp [hfound])]
      exact h
  | some discovered =>
      by_cases hdiffers : r.Differs discovered t.exists?
      · rw [h.run_rescan_restarts ht hfound hdiffers]
        exact listens_renewed r discovered t.opening
      · have hsame : discovered = last := by
          by_contra hne
          exact hdiffers (Or.inl (h.attending.discovered_eq ▸ hne))
        rw [h.run_rescan_stays (by simpa [hfound] using hdiffers), Option.getD_some, hsame]
        exact h

theorem Listens.listens_run
    (h : r.Listens last) {ticks : List Rescan} (hticks : ∀ t ∈ ticks, t.opening.Succeeds) :
    (r.run (ticks.flatMap Rescan.occurrences)).Listens
      ((last :: ticks.filterMap (Rescan.found? r.filter)).getLast (List.cons_ne_nil _ _)) := by
  induction ticks generalizing r last with
  | nil => exact h
  | cons t ticks ih =>
      have hstep := h.listens_rescan (hticks t List.mem_cons_self)
      have hrest := ih hstep fun other hother => hticks other (List.mem_cons_of_mem t hother)
      rw [filter_run] at hrest
      rw [List.flatMap_cons, run_append]
      cases hfound : t.found? r.filter with
      | none => simpa only [List.filterMap_cons, hfound, Option.getD_none] using hrest
      | some discovered =>
          simpa only [List.filterMap_cons, hfound, Option.getD_some, List.getLast_cons_cons]
            using hrest

/-- One scan starts receivers anew when other queues are discovered and none were missing. -/
theorem Listens.generation_rescan
    (h : r.Listens last) (hall : r.topology.notFound = ∅) {t : Rescan}
    (ht : t.opening.Succeeds) (hfinds : t.FindsAll) :
    (r.run t.occurrences).topology.notFound = ∅ ∧
      (r.run t.occurrences).status.generation =
        r.status.generation + if last = (t.found? r.filter).getD last then 0 else 1 := by
  have hdiffers : ∀ discovered : QueueSet, r.Differs discovered t.exists? ↔ discovered ≠ last := by
    intro discovered
    simp [Differs, hall, h.attending.discovered_eq]
  cases hfound : t.found? r.filter with
  | none =>
      rw [h.run_rescan_stays (by simp [hfound])]
      simpa using hall
  | some discovered =>
      by_cases hsame : last = discovered
      · have hstays : ¬r.Differs discovered t.exists? := by simp [hdiffers, hsame]
        rw [h.run_rescan_stays (by simpa [hfound] using hstays)]
        simpa [hsame] using hall
      · have hrestarts : r.Differs discovered t.exists? := (hdiffers discovered).mpr (Ne.symm hsame)
        rw [h.run_rescan_restarts ht hfound hrestarts, Option.getD_some, if_neg hsame]
        exact ⟨notFound_renewed hfinds.opening r discovered, rfl⟩

/-- Receivers are started anew as often as other queues are discovered. -/
theorem Listens.generation_run
    (h : r.Listens last) (hall : r.topology.notFound = ∅) {ticks : List Rescan}
    (hticks : ∀ t ∈ ticks, t.opening.Succeeds) (hfinds : ∀ t ∈ ticks, t.FindsAll) :
    (r.run (ticks.flatMap Rescan.occurrences)).topology.notFound = ∅ ∧
      (r.run (ticks.flatMap Rescan.occurrences)).status.generation =
        r.status.generation +
          QueueSet.changes (last :: ticks.filterMap (Rescan.found? r.filter)) := by
  induction ticks generalizing r last with
  | nil => exact ⟨hall, rfl⟩
  | cons t ticks ih =>
      have ht := hticks t List.mem_cons_self
      obtain ⟨hnone, hgeneration⟩ := h.generation_rescan hall ht (hfinds t List.mem_cons_self)
      have hrest := ih (h.listens_rescan ht) hnone
        (fun other hother => hticks other (List.mem_cons_of_mem t hother))
        (fun other hother => hfinds other (List.mem_cons_of_mem t hother))
      rw [filter_run, hgeneration] at hrest
      rw [List.flatMap_cons, run_append, List.filterMap_cons]
      refine ⟨hrest.1, hrest.2.trans ?_⟩
      cases hfound : t.found? r.filter with
      | none => simp
      | some discovered => simp [QueueSet.changes_cons_cons, Nat.add_assoc]

/-- What happens to the relay when it is started, by a broker that has its queues. -/
def firstStart (listing : Listing) (o : Opening) : List Occurrence :=
  [.begun, .provisioned true, .listed listing o.exists?, .answered o]

/-- The queues of the first start; there are none when discovering them fails. -/
def firstFound (filter : QueueFilter) (listing : Listing) : QueueSet :=
  (filter.discover listing).toOption.getD ∅

theorem run_discovering
    (hphase : r.phase = .discovering) (listing : Listing) {o : Opening} (ho : o.Succeeds) :
    r.run [.listed listing o.exists?, .answered o] =
      r.renewed (firstFound r.filter listing) o := by
  have hlisted : r.advance (.listed listing o.exists?) =
      r.goto (.opening true (firstFound r.filter listing)) := by
    simp only [advance, hphase, foundFirst, firstFound]
    cases r.filter.discover listing <;> rfl
  rw [run, List.foldl_cons, List.foldl_cons, List.foldl_nil, hlisted]
  change (openFor _ true _ o).1 = _
  rw [openFor_eq_renewed ho]
  rfl

/-- The first start opens the first generation, whether or not queues are made before. -/
theorem run_firstStart
    (r : Relay) (provision : Bool) (listing : Listing) {o : Opening} (ho : o.Succeeds) :
    (r.launch provision).run (firstStart listing o) =
      (r.launch provision).renewed (firstFound r.filter listing) o := by
  cases provision with
  | false =>
      exact run_discovering (r := (r.launch false).goto .discovering) rfl listing ho
  | true =>
      exact run_discovering
        (r := ((r.launch true).setState .provisioning).goto .discovering) rfl listing ho

end Run

/-! ### Restarts -/

section Restarts

variable {r : Relay} {last : QueueSet}

/-- Without missing queues, the relay listens to its own queue and to those discovered last. -/
theorem Listens.listening_eq (h : r.Listens last) (hall : r.topology.notFound = ∅) :
    r.status.listening = last.insert r.settings.returnQueue := by
  refine Std.ExtTreeSet.ext_mem fun queue => ?_
  rw [h.attending.mem_listening, hall, h.attending.discovered_eq, Std.ExtTreeSet.mem_insert,
    Std.LawfulEqCmp.compare_eq_iff_eq, eq_comm]
  simp

/-- While the missing queues are missing, nothing changes and nothing is reported. -/
theorem Listens.run_rescan_missing
    (h : r.Listens last) {t : Rescan} (hfound : t.found? r.filter = some last)
    (hmissing : ∀ queue ∈ r.topology.notFound, t.exists? queue ≠ .ok true) :
    r.run t.occurrences = r ∧
      ((∀ queue ∈ r.topology.notFound, t.exists? queue = .ok false) →
        (r.scan.found (r.filter.discover t.listing) t.exists?).2 = []) := by
  have hsame : ¬r.Differs last t.exists? := by
    rintro (hne | ⟨queue, hmem, hyes⟩)
    · exact hne h.attending.discovered_eq.symm
    · exact hmissing queue hmem hyes
  refine ⟨h.run_rescan_stays (by simpa [hfound] using hsame), fun hno => ?_⟩
  rw [Rescan.discover_of_found hfound, found_ok_events]
  exact recovered_of_missing hno

/-- Once a missing queue exists, one more generation is started. -/
theorem Listens.run_rescan_recovered
    (h : r.Listens last) {t : Rescan} (ht : t.opening.Succeeds) {discovered : QueueSet}
    (hfound : t.found? r.filter = some discovered)
    (hrecovered : ∃ queue ∈ r.topology.notFound, t.exists? queue = .ok true) :
    (r.run t.occurrences).Listens discovered ∧
      (r.run t.occurrences).status.generation = r.status.generation + 1 ∧
        ∀ queue : String, queue ∈ (r.run t.occurrences).topology.notFound ↔
          queue ∈ discovered ∧ t.opening.exists? queue ≠ .ok true := by
  rw [h.run_rescan_restarts ht hfound (Or.inr hrecovered)]
  exact ⟨listens_renewed r discovered t.opening, generation_renewed r discovered t.opening,
    fun queue => mem_notFound_renewed⟩

/-- The queues that are discovered, those of the first start first; failures are left out. -/
def discoveries (filter : QueueFilter) (listing : Listing) (ticks : List Rescan) : List QueueSet :=
  firstFound filter listing :: ticks.filterMap (Rescan.found? filter)

/-- Reports apart, the scans go on from the first generation. -/
theorem exists_run_eq_renewed
    (r : Relay) (provision : Bool) {listing : Listing} {o : Opening} (ho : o.Succeeds)
    {ticks : List Rescan} {occurrences : List Occurrence}
    (hoccurrences : occurrences.filter (fun x => !x.isReport) =
      firstStart listing o ++ ticks.flatMap Rescan.occurrences) :
    ∃ logs : List LogEntry, (r.launch provision).run occurrences =
      (((r.launch provision).renewed (firstFound r.filter listing) o).run
        (ticks.flatMap Rescan.occurrences)).withLogs logs := by
  obtain ⟨logs, hrun⟩ := (r.launch provision).exists_run_eq_withLogs occurrences
  rw [hoccurrences, run_append, run_firstStart r provision listing ho] at hrun
  exact ⟨logs, hrun⟩

/--
After a first start, and however often queues are looked for then, receivers were started anew
whenever the queues that were discovered differ from those before.  They are not started anew
for the same queues as long as the missing ones are missing, and once when one of these exists.
-/
theorem restarted_on_changes
    (r : Relay) (provision : Bool) (listing : Listing) (o : Opening) (ticks : List Rescan)
    (occurrences : List Occurrence)
    (hoccurrences : occurrences.filter (fun x => !x.isReport) =
      firstStart listing o ++ ticks.flatMap Rescan.occurrences)
    (ho : o.Succeeds) (hticks : ∀ t ∈ ticks, t.opening.Succeeds) :
    let now := (r.launch provision).run occurrences
    let sets := discoveries r.filter listing ticks
    let last := sets.getLast (List.cons_ne_nil _ _)
    now.Listens last ∧
    ((∀ queue : String, o.exists? queue = .ok true) → (∀ t ∈ ticks, t.FindsAll) →
      now.status.generation = 1 + QueueSet.changes sets ∧
        now.status.listening = last.insert r.settings.returnQueue) ∧
    (∀ t : Rescan, t.found? r.filter = some last →
      (∀ queue ∈ now.topology.notFound, t.exists? queue ≠ .ok true) →
        now.run t.occurrences = now ∧
          ((∀ queue ∈ now.topology.notFound, t.exists? queue = .ok false) →
            (now.scan.found (r.filter.discover t.listing) t.exists?).2 = [])) ∧
    ∀ (t : Rescan) (discovered : QueueSet), t.opening.Succeeds →
      t.found? r.filter = some discovered →
        (∃ queue ∈ now.topology.notFound, t.exists? queue = .ok true) →
          (now.run t.occurrences).Listens discovered ∧
            (now.run t.occurrences).status.generation = now.status.generation + 1 ∧
              ∀ queue : String, queue ∈ (now.run t.occurrences).topology.notFound ↔
                queue ∈ discovered ∧ t.opening.exists? queue ≠ .ok true := by
  intro now sets last
  have hfilter : now.filter = r.filter := filter_run (r.launch provision) occurrences
  have hsettings : now.settings = r.settings := settings_run (r.launch provision) occurrences
  have hfirst := listens_renewed (r.launch provision) (firstFound r.filter listing) o
  obtain ⟨logs, hnow⟩ := r.exists_run_eq_renewed provision ho hoccurrences
  change now = _ at hnow
  have hlistens : now.Listens last := by
    rw [hnow]
    exact (hfirst.listens_run hticks).withLogs logs
  refine ⟨hlistens, fun hall hfinds => ?_, fun t hfound hmissing => ?_,
    fun t discovered ht hfound => ?_⟩
  · obtain ⟨hnone, hgeneration⟩ := hfirst.generation_run (notFound_renewed hall _ _) hticks hfinds
    have hnotFound : now.topology.notFound = ∅ := by
      rw [hnow]
      exact hnone
    refine ⟨?_, hsettings ▸ hlistens.listening_eq hnotFound⟩
    rw [hnow]
    exact hgeneration
  · rw [← hfilter] at hfound ⊢
    exact hlistens.run_rescan_missing hfound hmissing
  · rw [← hfilter] at hfound
    exact hlistens.run_rescan_recovered ht hfound

/--
Three scans, of which one fails and one discovers another queue; and two scans after a start for
which a queue was missing, which it still is in the first of them.
-/
theorem restarted_for_other_queue :
    let r : Relay := { settings := { returnQueue := "Fault.Return" } }
    let o : Opening :=
      { exists? := fun _ => .ok true, create := fun _ => (.ok (), []), start := fun _ => .ok () }
    let without : Opening := { o with exists? := fun queue => .ok (queue != "b_error") }
    let first : Listing := [.ok "a_error", .ok "orders", .ok "b_error"]
    let missing : Rescan := ⟨first, without.exists?, without⟩
    let same : Rescan := ⟨first, o.exists?, o⟩
    let failed : Rescan := ⟨[.error (.request "closed")], o.exists?, o⟩
    let other : Rescan := ⟨[.ok "a_error", .ok "c_error"], o.exists?, o⟩
    let changed := (r.launch true).run
      (firstStart first o ++ [same, failed, other].flatMap Rescan.occurrences)
    let partly := (r.launch false).run (firstStart first without)
    (changed.status.generation = 2 ∧
      changed.status.listening.toList = ["Fault.Return", "a_error", "c_error"]) ∧
    partly.run missing.occurrences = partly ∧
      (partly.run same.occurrences).status.generation = partly.status.generation + 1 := by
  intro r o without first missing same failed other changed partly
  have ho : o.Succeeds := ⟨fun _ => rfl, fun _ => rfl⟩
  have hwithout : without.Succeeds := ⟨fun _ => rfl, fun _ => rfl⟩
  have hticks : ∀ t ∈ [same, failed, other], t.opening.Succeeds := by
    simp [same, failed, other, ho]
  have hfinds : ∀ t ∈ [same, failed, other], t.FindsAll := by
    have hall : ∀ listing : Listing, Rescan.FindsAll ⟨listing, o.exists?, o⟩ :=
      fun listing => ⟨fun _ => rfl, fun _ => rfl⟩
    simp [same, failed, other, hall]
  refine ⟨?_, ?_⟩
  · obtain ⟨-, hall, -⟩ := restarted_on_changes r true first o [same, failed, other]
      (firstStart first o ++ [same, failed, other].flatMap Rescan.occurrences) rfl ho hticks
    obtain ⟨hgeneration, hlistening⟩ := hall (fun _ => rfl) hfinds
    have hchanges : QueueSet.changes (discoveries r.filter first [same, failed, other]) = 1 := by
      decide +kernel
    have hlast : (((discoveries r.filter first [same, failed, other]).getLast
        (List.cons_ne_nil _ _)).insert r.settings.returnQueue).toList =
          ["Fault.Return", "a_error", "c_error"] := by decide +kernel
    refine ⟨?_, ?_⟩
    · rw [hgeneration, hchanges]
    · rw [hlistening]
      exact hlast
  · obtain ⟨-, -, hmissing, hrecovered⟩ := restarted_on_changes r false first without []
      (firstStart first without) rfl hwithout (fun t ht => absurd ht List.not_mem_nil)
    have hlost : partly.topology.notFound.toList = ["b_error"] := by decide +kernel
    have hmem : ∀ queue : String, queue ∈ partly.topology.notFound ↔ queue = "b_error" := by
      intro queue
      rw [← Std.ExtTreeSet.mem_toList, hlost, List.mem_singleton]
    have hfound : ∀ t ∈ [missing, same], t.found? r.filter =
        some ((discoveries r.filter first []).getLast (List.cons_ne_nil _ _)) := by
      decide +kernel
    have hkept := hmissing missing (hfound missing (by simp)) fun queue hqueue => by
      rw [(hmem queue).mp hqueue]
      decide
    have hanew := hrecovered same _ ho (hfound same (by simp)) ⟨"b_error", (hmem _).mpr rfl, rfl⟩
    exact ⟨hkept.1, hanew.2.1⟩

end Restarts

end Relay
end FaultRelay
