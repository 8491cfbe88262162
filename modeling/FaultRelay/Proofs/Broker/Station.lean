import FaultRelay.Proofs.Broker.Ledger

/-!
# Receivers that share a broker

The receivers of a station work through ways of the relay, at most one of them on each
queue at a time.

**Input.** `Station.Served route s`: the running receivers of `s` handle messages the way
that `route` gives for their settings, on queues that exist, and no two on one queue.

**Results.**
* `Station.worked_work`: what one step of a receiver does.
* `Station.Served.worked`: a served station stays one.
* `Station.Served.account`: a step keeps the account of every queue.
-/

namespace FaultRelay

namespace Receiver

variable {τ : Type}

/-- What is accepted of what a receiver hands over in its next step. -/
def accepted (route : ReceiverSettings → Route) (r : Receiver τ) (m : Memory)
    (now : Time.Instant) : List Ledger.Entry :=
  match r.running with
  | some (_, .delivering stored d _) =>
      match (route r.settings).offer? d now with
      | some offer =>
          match m.push offer.operation.destination offer.operation.stored with
          | (.ok (), _) => [.sent r.settings stored offer]
          | (.error _, _) => []
      | none => []
  | _ => []

/-- A receiver that works through a way of the relay, on a queue that exists. -/
structure Proper (route : ReceiverSettings → Route) (m : Memory) (r : Receiver τ) : Prop where
  handler_eq : ∀ (h : Handler (Site Memory × τ)) (task : Task), r.running = some (h, task) →
    h = ((route r.settings).handler Memory.dispatch).beside τ
  received_eq : ∀ (stored : Stored) (d : Delivery), r.delivered? = some (stored, d) →
    d.received = stored.received r.address
  contains : r.isRunning = true → m.contains r.address = true

theorem isRunning_eq {r r' : Receiver τ} (h : r'.running = r.running) :
    r'.isRunning = r.isRunning := by
  simp only [isRunning, h]

theorem delivered?_eq {r r' : Receiver τ} (h : r'.running = r.running) :
    r'.delivered? = r.delivered? := by
  simp only [delivered?, h]

/-- Only the work of a receiver decides whether it is proper, as long as no queue is removed. -/
theorem Proper.of_same
    {route : ReceiverSettings → Route} {m m' : Memory} {r r' : Receiver τ} (h : r.Proper route m)
    (hsettings : r'.settings = r.settings) (hrunning : r'.running = r.running)
    (hcontains : ∀ queue : String, m.contains queue = true → m'.contains queue = true) :
    r'.Proper route m' where
  handler_eq := by
    rw [hsettings, hrunning]
    exact h.handler_eq
  received_eq := by
    rw [address, hsettings, delivered?_eq hrunning]
    exact h.received_eq
  contains := by
    rw [address, hsettings, isRunning_eq hrunning]
    exact fun hran => hcontains _ (h.contains hran)

end Receiver

namespace Station

variable {τ : Type} (route : ReceiverSettings → Route)

/-- What is accepted of what the receiver at a place hands over in its next step. -/
def accepted (s : Station τ) (i : Nat) : List Ledger.Entry :=
  match s.receivers[i]? with
  | some r => r.accepted route s.memory s.site.now
  | none => []

/-- The messages of a queue that receivers hold. -/
def held (s : Station τ) (queue : String) : List Stored :=
  s.receivers.flatMap fun r => if r.address = queue then r.held else []

/-- The running receivers are proper, and no two of them work on one queue. -/
structure Served (s : Station τ) : Prop where
  proper : ∀ (i : Nat) (r : Receiver τ), s.receivers[i]? = some r → r.Proper route s.memory
  exclusive : ∀ (i j : Nat) (r r' : Receiver τ), s.receivers[i]? = some r →
    s.receivers[j]? = some r' → r.isRunning = true → r'.isRunning = true →
    r.address = r'.address → i = j

/-- What one step of the receiver at a place comes to. -/
structure Worked (s s' : Station τ) (i : Nat) (r r' : Receiver τ)
    (entries : List Ledger.Entry) : Prop where
  receivers_eq : s'.receivers = s.receivers.set i r'
  settings_eq : r'.settings = r.settings
  isRunning : r'.isRunning = true → r.isRunning = true
  handler_eq : ∀ (h : Handler (Site Memory × τ)) (task : Task), r'.running = some (h, task) →
    h = ((route r.settings).handler Memory.dispatch).beside τ
  received_eq : ∀ (stored : Stored) (d : Delivery), r'.delivered? = some (stored, d) →
    d.received = stored.received r.address
  /-- A delivery is completed by an operation that is accepted. -/
  completed : ∀ (stored : Stored) (d : Delivery), r'.delivered? = some (stored, d) →
    d.stage = .completed → ∃ offer : Offer, entries = [.sent r.settings stored offer]
  accounted : r.Accounted r' s.memory s'.memory entries

variable {route} {s : Station τ} {i : Nat} {r : Receiver τ}

theorem set_of_getElem? {α : Type} {l : List α} {i : Nat} {a : α} (h : l[i]? = some a) :
    l.set i a = l := by
  obtain ⟨hlt, rfl⟩ := List.getElem?_eq_some_iff.mp h
  exact List.set_getElem_self hlt

/-- A receiver that does nothing stays as it is. -/
theorem worked_of_same
    (hr : s.receivers[i]? = some r) (hproper : r.Proper route s.memory)
    (hstage : ∀ (stored : Stored) (d : Delivery), r.delivered? = some (stored, d) →
      d.stage ≠ .completed) :
    Worked route s s i r r [] where
  receivers_eq := (set_of_getElem? hr).symm
  settings_eq := rfl
  isRunning h := h
  handler_eq := hproper.handler_eq
  received_eq := hproper.received_eq
  completed stored d hdelivered hcompleted := absurd hcompleted (hstage stored d hdelivered)
  accounted := Receiver.accounted_of_same rfl (.refl s.memory)

/-- A receiver that goes on to a task without a delivery. -/
theorem worked_of_task
    {s' : Station τ} {h : Handler (Site Memory × τ)} {before task : Task}
    {entries : List Ledger.Entry} (hproper : r.Proper route s.memory)
    (hrunning : r.running = some (h, before)) (hbefore : r.isRunning = true)
    (htask : (r.withTask h task).delivered? = none)
    (hreceivers : s'.receivers = s.receivers.set i (r.withTask h task))
    (haccounted : r.Accounted (r.withTask h task) s.memory s'.memory entries) :
    Worked route s s' i r (r.withTask h task) entries where
  receivers_eq := hreceivers
  settings_eq := rfl
  isRunning _ := hbefore
  handler_eq h' task' hrunning' := by
    cases hrunning'
    exact hproper.handler_eq h before hrunning
  received_eq := by simp [htask]
  completed := by simp [htask]
  accounted := haccounted

/-- A receiver that goes on with a delivery. -/
theorem worked_of_delivering
    {s' : Station τ} {h : Handler (Site Memory × τ)} {before : Task} {stored : Stored}
    {d : Delivery} {due : Nat} {entries : List Ledger.Entry}
    (hproper : r.Proper route s.memory) (hrunning : r.running = some (h, before))
    (hbefore : r.isRunning = true) (hreceived : d.received = stored.received r.address)
    (hcompleted : d.stage = .completed → ∃ offer : Offer, entries = [.sent r.settings stored offer])
    (hreceivers : s'.receivers = s.receivers.set i (r.withTask h (.delivering stored d due)))
    (haccounted : r.Accounted (r.withTask h (.delivering stored d due)) s.memory s'.memory
      entries) :
    Worked route s s' i r (r.withTask h (.delivering stored d due)) entries where
  receivers_eq := hreceivers
  settings_eq := rfl
  isRunning _ := hbefore
  handler_eq h' task' hrunning' := by
    cases hrunning'
    exact hproper.handler_eq h before hrunning
  received_eq stored' d' hdelivered := by
    cases hdelivered
    exact hreceived
  completed stored' d' hdelivered := by
    cases hdelivered
    exact hcompleted
  accounted := haccounted

section Step

variable {h : Handler (Site Memory × τ)}

theorem worked_look
    (hr : s.receivers[i]? = some r) (hproper : r.Proper route s.memory)
    (hrunning : r.running = some (h, .idle)) :
    ∃ r' : Receiver τ, Worked route s (s.look i r h) i r r' [] := by
  have hbefore : r.isRunning = true := by simp [Receiver.isRunning, hrunning]
  have hnone : r.delivered? = none := by simp only [Receiver.delivered?, hrunning]
  have hheld : r.held = [] := by rw [Receiver.held, hnone]
  have hended : ∀ s' : Station τ, s'.memory = s.memory →
      s'.receivers = s.receivers.set i (r.withTask h .ended) →
      Worked route s s' i r (r.withTask h .ended) [] := by
    intro s' hmemory hreceivers
    refine worked_of_task hproper hrunning hbefore rfl hreceivers ?_
    rw [hmemory]
    exact Receiver.accounted_of_same hheld.symm (.refl s.memory)
  have hstays : Worked route s s i r r [] := worked_of_same hr hproper (by simp [hnone])
  unfold look
  split
  · exact ⟨_, hended _ rfl rfl⟩
  · split
    · exact ⟨_, hended _ rfl rfl⟩
    · split
      · rename_i stored m hpop
        refine ⟨_, worked_of_delivering hproper hrunning hbefore rfl (by simp [Delivery.start]) rfl ?_⟩
        refine Receiver.accounted_pop hheld hpop ?_
        simp [Receiver.held, Receiver.delivered?, Receiver.withTask, Delivery.start]
      · split
        · exact ⟨_, hended _ rfl rfl⟩
        · exact ⟨_, hstays⟩

variable {stored : Stored} {d : Delivery} {due : Nat}

/-- A receiver offers what its delivery offers. -/
theorem accepted_of_delivering
    (hrunning : r.running = some (h, .delivering stored d due)) (m : Memory)
    (now : Time.Instant) :
    r.accepted route m now =
      match (route r.settings).offer? d now with
      | some offer =>
          match m.push offer.operation.destination offer.operation.stored with
          | (.ok (), _) => [.sent r.settings stored offer]
          | (.error _, _) => []
      | none => [] := by
  simp only [Receiver.accepted, hrunning]

theorem held_of_delivering
    (hrunning : r.running = some (h, .delivering stored d due)) (hstage : d.stage ≠ .completed) :
    r.held = [stored] := by
  unfold Receiver.held Receiver.delivered?
  rw [hrunning]
  dsimp only
  split
  · exact absurd ‹_› hstage
  · rfl

/-- A receiver whose delivery offers nothing hands nothing over. -/
theorem accepted_of_offer?_eq_none
    (hrunning : r.running = some (h, .delivering stored d due)) {m : Memory} {now : Time.Instant}
    (hoffer : (route r.settings).offer? d now = none) : r.accepted route m now = [] := by
  rw [accepted_of_delivering hrunning, hoffer]

/-- A receiver goes on with a message that it still holds, and the queues stay as they are. -/
theorem worked_of_holding
    {s' : Station τ} {d' : Delivery} {due' : Nat} (hproper : r.Proper route s.memory)
    (hrunning : r.running = some (h, .delivering stored d due)) (hbefore : d.stage ≠ .completed)
    (hreceived : d'.received = stored.received r.address) (hafter : d'.stage ≠ .completed)
    (hreceivers : s'.receivers = s.receivers.set i (r.withTask h (.delivering stored d' due')))
    (hsame : s.memory.SameQueues s'.memory) :
    Worked route s s' i r (r.withTask h (.delivering stored d' due')) [] := by
  refine worked_of_delivering hproper hrunning (by simp [Receiver.isRunning, hrunning]) hreceived
    (fun hcompleted => absurd hcompleted hafter) hreceivers ?_
  refine Receiver.accounted_of_same ?_ hsame
  rw [held_of_delivering hrunning hbefore]
  exact held_of_delivering rfl hafter

/-- The handler is asked; what it hands over is accepted, or the message is still held. -/
theorem worked_ask
    (hproper : r.Proper route s.memory) (hrunning : r.running = some (h, .delivering stored d due))
    (hstage : d.stage = .attempting ∨ ∃ e : RelayError, d.stage = .failing e) (due' : Nat) :
    let after := d.work h (r.signal == .stop) (s.site, s.rest)
    let task := Task.delivering stored after.1 due'
    Worked route s ({ s with site := after.2.1, rest := after.2.2 }.setReceiver i
      (r.withTask h task)) i r (r.withTask h task) (r.accepted route s.memory s.site.now) := by
  intro after task
  have hbefore : d.stage ≠ .completed := by
    rcases hstage with hstage | ⟨e, hstage⟩ <;> simp [hstage]
  have hafter : after =
      ((d.work ((route r.settings).handler Memory.dispatch) (r.signal == .stop) s.site).1,
        (d.work ((route r.settings).handler Memory.dispatch) (r.signal == .stop) s.site).2,
        s.rest) := by
    rw [← Delivery.work_beside, ← hproper.handler_eq h _ hrunning]
  have hreceived : after.1.received = stored.received r.address := by
    rw [hafter]
    refine (Delivery.work_received _ _ _ _).trans (hproper.received_eq stored d ?_)
    simp only [Receiver.delivered?, hrunning]
  cases hoffer : (route r.settings).offer? d s.site.now with
  | none =>
      obtain ⟨hbroker, hcompleted⟩ :=
        Route.work_of_offer_none Memory.dispatch (r.signal == .stop) s.site hstage hoffer
      have hcompleted : after.1.stage ≠ .completed := by rw [hafter]; exact hcompleted
      have hmemory : after.2.1.broker = s.memory := by rw [hafter]; exact hbroker
      rw [accepted_of_offer?_eq_none hrunning hoffer]
      refine worked_of_holding hproper hrunning hbefore hreceived hcompleted rfl ?_
      change s.memory.SameQueues after.2.1.broker
      rw [hmemory]
      exact .refl s.memory
  | some offer =>
      rw [accepted_of_delivering hrunning, hoffer]
      dsimp only
      cases hpush : s.memory.push offer.operation.destination offer.operation.stored with
      | mk result m =>
          have hsent : Memory.dispatch [offer.operation] s.site.broker = (result, m) := by
            rw [Memory.dispatch_singleton]
            exact hpush
          obtain ⟨hbroker, hcompleted⟩ :=
            Route.work_of_offer_some Memory.dispatch (r.signal == .stop) s.site hoffer hsent
          have hmemory : after.2.1.broker = m := by rw [hafter]; exact hbroker
          have hcompleted : after.1.stage = .completed ↔ result = .ok () := by
            rw [hafter]; exact hcompleted
          cases result with
          | ok _ =>
              have hdone : after.1.stage = .completed := hcompleted.mpr rfl
              refine worked_of_delivering hproper hrunning
                (by simp [Receiver.isRunning, hrunning]) hreceived (fun _ => ⟨offer, rfl⟩) rfl ?_
              have hempty : (r.withTask h task).held = [] := by
                simp [Receiver.held, Receiver.delivered?, Receiver.withTask, task, hdone]
              refine Receiver.accounted_push (held_of_delivering hrunning hbefore) hempty ?_
              change s.memory.push _ _ = (.ok (), after.2.1.broker)
              rw [hmemory]
              exact hpush
          | error e =>
              have hnot : after.1.stage ≠ .completed := by
                intro hdone
                cases hcompleted.mp hdone
              refine worked_of_holding hproper hrunning hbefore hreceived hnot rfl ?_
              change s.memory.SameQueues after.2.1.broker
              rw [hmemory]
              exact Memory.push_error hpush

theorem worked_proceed
    (hr : s.receivers[i]? = some r) (hproper : r.Proper route s.memory)
    (hrunning : r.running = some (h, .delivering stored d due)) :
    ∃ r' : Receiver τ,
      Worked route s (s.proceed i r h stored d due) i r r'
        (r.accepted route s.memory s.site.now) := by
  have hbefore : r.isRunning = true := by simp [Receiver.isRunning, hrunning]
  have hdelivered : r.delivered? = some (stored, d) := by
    simp only [Receiver.delivered?, hrunning]
  have hreceived := hproper.received_eq stored d hdelivered
  unfold proceed
  cases hstage : d.stage with
  | attempting => exact ⟨_, worked_ask hproper hrunning (Or.inl hstage) _⟩
  | failing e => exact ⟨_, worked_ask hproper hrunning (Or.inr ⟨e, hstage⟩) _⟩
  | completed =>
      rw [accepted_of_offer?_eq_none hrunning (by simp only [Route.offer?, hstage])]
      refine ⟨_, worked_of_task hproper hrunning hbefore rfl rfl ?_⟩
      refine Receiver.accounted_of_same ?_ (.refl s.memory)
      have hheld : r.held = [] := by simp [Receiver.held, hdelivered, hstage]
      rw [hheld]
      rfl
  | abandoned =>
      have hheld := held_of_delivering hrunning (by simp [hstage])
      rw [accepted_of_offer?_eq_none hrunning (by simp only [Route.offer?, hstage])]
      refine ⟨_, worked_of_task hproper hrunning hbefore rfl rfl ?_⟩
      exact Receiver.accounted_putBack hheld (hproper.contains hbefore)
        (by simp [Receiver.held, Receiver.delivered?, Receiver.withTask])
  | waiting delay =>
      have hgoes : ∀ d' : Delivery, d'.received = d.received → d'.stage ≠ .completed →
          Worked route s (s.setReceiver i (r.withTask h (.delivering stored d' due))) i r
            (r.withTask h (.delivering stored d' due)) [] :=
        fun d' hsame hcompleted =>
          worked_of_holding hproper hrunning (by simp [hstage]) (hsame.trans hreceived) hcompleted
            rfl (.refl s.memory)
      rw [accepted_of_offer?_eq_none hrunning (by simp only [Route.offer?, hstage])]
      dsimp only
      split
      · exact ⟨_, hgoes d.giveUp (by simp [Delivery.giveUp, hstage])
          (by simp [Delivery.giveUp, hstage])⟩
      · split
        · exact ⟨_, hgoes d.resume (by simp [Delivery.resume, hstage])
            (by simp [Delivery.resume, hstage])⟩
        · refine ⟨_, worked_of_same hr hproper ?_⟩
          intro stored' d' hdelivered'
          rw [hdelivered] at hdelivered'
          cases hdelivered'
          simp [hstage]

end Step

theorem accepted_of_delivered?_eq_none
    (hdelivered : r.delivered? = none) (m : Memory) (now : Time.Instant) :
    r.accepted route m now = [] := by
  unfold Receiver.accepted
  split
  · rename_i hrunning
    simp [Receiver.delivered?, hrunning] at hdelivered
  · rfl

/-- What a receiver does is what its task asks for, and it keeps its accounts. -/
theorem worked_work
    (hr : s.receivers[i]? = some r) (hproper : r.Proper route s.memory) :
    ∃ r' : Receiver τ, Worked route s (s.work i) i r r' (s.accepted route i) := by
  have haccepted : s.accepted route i = r.accepted route s.memory s.site.now := by
    simp only [accepted, hr]
  rw [haccepted]
  unfold work
  simp only [hr]
  cases hrunning : r.running with
  | none =>
      have hnone : r.delivered? = none := by simp only [Receiver.delivered?, hrunning]
      rw [accepted_of_delivered?_eq_none hnone]
      exact ⟨r, worked_of_same hr hproper (by simp [hnone])⟩
  | some job =>
      obtain ⟨h, task⟩ := job
      cases task with
      | idle =>
          rw [accepted_of_delivered?_eq_none (by simp only [Receiver.delivered?, hrunning])]
          exact worked_look hr hproper hrunning
      | delivering stored d due => exact worked_proceed hr hproper hrunning
      | ended =>
          have hnone : r.delivered? = none := by simp only [Receiver.delivered?, hrunning]
          rw [accepted_of_delivered?_eq_none hnone]
          exact ⟨r, worked_of_same hr hproper (by simp [hnone])⟩

theorem delivered?_of_not_isRunning (hr : r.isRunning = false) : r.delivered? = none := by
  unfold Receiver.isRunning at hr
  unfold Receiver.delivered?
  cases hrunning : r.running with
  | none => rfl
  | some job =>
      obtain ⟨h, task⟩ := job
      cases task with
      | idle => rfl
      | delivering stored d due => simp [hrunning] at hr
      | ended => rfl

theorem held_of_not_isRunning (hr : r.isRunning = false) : r.held = [] := by
  rw [Receiver.held, delivered?_of_not_isRunning hr]

theorem flatMap_of_alone
    {α β : Type} {l : List α} {g : α → List β} {i : Nat} {a : α} (ha : l[i]? = some a)
    (halone : ∀ (j : Nat) (b : α), l[j]? = some b → j ≠ i → g b = []) : l.flatMap g = g a := by
  induction l generalizing i with
  | nil => simp at ha
  | cons b l ih =>
      cases i with
      | zero =>
          have hrest : l.flatMap g = [] := by
            refine List.flatMap_eq_nil_iff.mpr fun c hc => ?_
            obtain ⟨j, hj⟩ := List.mem_iff_getElem?.mp hc
            exact halone (j + 1) c (by simpa using hj) (by omega)
          cases ha
          rw [List.flatMap_cons, hrest, List.append_nil]
      | succ i =>
          have hhead : g b = [] := halone 0 b rfl (by omega)
          have hrest : l.flatMap g = g a := by
            refine ih (i := i) (by simpa using ha) fun j c hc hne => ?_
            exact halone (j + 1) c (by simpa using hc) (by omega)
          rw [List.flatMap_cons, hhead, hrest, List.nil_append]

/-- A receiver that is alone on its queue holds all that is held of the queue. -/
theorem held_eq
    (hr : s.receivers[i]? = some r)
    (halone : ∀ (j : Nat) (other : Receiver τ), s.receivers[j]? = some other → j ≠ i →
      other.address = r.address → other.isRunning = false) :
    s.held r.address = r.held := by
  unfold held
  rw [flatMap_of_alone hr, if_pos rfl]
  intro j other hother hne
  split
  · rename_i haddress
    exact held_of_not_isRunning (halone j other hother hne haddress)
  · rfl

/-- What is held of other queues does not depend on a receiver. -/
theorem held_set
    {s' : Station τ} {r' : Receiver τ} {queue : String}
    (hr : s.receivers[i]? = some r) (hreceivers : s'.receivers = s.receivers.set i r')
    (hsettings : r'.settings = r.settings) (hqueue : queue ≠ r.address) :
    s'.held queue = s.held queue := by
  have haddress : r'.address = r.address := congrArg ReceiverSettings.address hsettings
  have hmap : ((s.receivers.set i r').map fun r => if r.address = queue then r.held else []) =
      s.receivers.map fun r => if r.address = queue then r.held else [] := by
    rw [List.map_set, haddress, if_neg (Ne.symm hqueue)]
    refine set_of_getElem? ?_
    rw [List.getElem?_map, hr, Option.map_some, if_neg (Ne.symm hqueue)]
  rw [held, held, hreceivers, List.flatMap_def, List.flatMap_def, hmap]

section Served

variable {s' : Station τ} {r' : Receiver τ} {entries : List Ledger.Entry}

/-- A running receiver is alone on its queue. -/
theorem Served.alone
    (h : s.Served route) (hr : s.receivers[i]? = some r) (hrunning : r.isRunning = true)
    (j : Nat) (other : Receiver τ) (hother : s.receivers[j]? = some other) (hne : j ≠ i)
    (haddress : other.address = r.address) : other.isRunning = false := by
  by_contra hnot
  rw [Bool.not_eq_false] at hnot
  exact hne (h.exclusive j i other r hother hr hnot hrunning haddress)

theorem getElem?_worked
    (hworked : Worked route s s' i r r' entries) (hr : s.receivers[i]? = some r) (j : Nat)
    (other : Receiver τ) (hother : s'.receivers[j]? = some other) :
    (j = i ∧ other = r') ∨ (j ≠ i ∧ s.receivers[j]? = some other) := by
  rw [hworked.receivers_eq, List.getElem?_set] at hother
  by_cases hij : i = j
  · subst hij
    have hlt : i < s.receivers.length := (List.getElem?_eq_some_iff.mp hr).1
    rw [if_pos rfl, if_pos hlt] at hother
    exact Or.inl ⟨rfl, (Option.some.inj hother).symm⟩
  · rw [if_neg hij] at hother
    exact Or.inr ⟨Ne.symm hij, hother⟩

/-- What was running before and still exists is what runs after a step. -/
theorem exists_of_worked
    (hworked : Worked route s s' i r r' entries) (hr : s.receivers[i]? = some r) (j : Nat)
    (other : Receiver τ) (hother : s'.receivers[j]? = some other) :
    ∃ before : Receiver τ, s.receivers[j]? = some before ∧ other.address = before.address ∧
      (other.isRunning = true → before.isRunning = true) := by
  rcases getElem?_worked hworked hr j other hother with ⟨rfl, rfl⟩ | ⟨-, hsame⟩
  · exact ⟨r, hr, congrArg ReceiverSettings.address hworked.settings_eq, hworked.isRunning⟩
  · exact ⟨other, hsame, rfl, fun h => h⟩

/-- A served station stays one with every step of a receiver. -/
theorem Served.worked
    (h : s.Served route) (hr : s.receivers[i]? = some r)
    (hworked : Worked route s s' i r r' entries) : s'.Served route where
  proper j other hother := by
    rcases getElem?_worked hworked hr j other hother with ⟨rfl, rfl⟩ | ⟨-, hsame⟩
    · have haddress : other.address = r.address :=
        congrArg ReceiverSettings.address hworked.settings_eq
      exact {
        handler_eq := by rw [hworked.settings_eq]; exact hworked.handler_eq
        received_eq := by rw [haddress]; exact hworked.received_eq
        contains := fun hrunning => by
          rw [haddress]
          exact hworked.accounted.contains_of_contains _
            ((h.proper j r hr).contains (hworked.isRunning hrunning)) }
    · exact (h.proper j other hsame).of_same rfl rfl hworked.accounted.contains_of_contains
  exclusive j k other other' hother hother' hrunning hrunning' haddress := by
    obtain ⟨before, hbefore, hsame, hran⟩ := exists_of_worked hworked hr j other hother
    obtain ⟨before', hbefore', hsame', hran'⟩ := exists_of_worked hworked hr k other' hother'
    refine h.exclusive j k before before' hbefore hbefore' (hran hrunning) (hran' hrunning') ?_
    rw [← hsame, haddress, hsame']

/-- A step of a running receiver keeps the account of every queue. -/
theorem Served.account
    (h : s.Served route) (hr : s.receivers[i]? = some r) (hrunning : r.isRunning = true)
    (hworked : Worked route s s' i r r' entries) (queue : String) :
    s.held queue ++ s.memory.messages queue ++ Ledger.arrivals queue entries =
      Ledger.departures queue entries ++ (s'.held queue ++ s'.memory.messages queue) := by
  by_cases hqueue : queue = r.address
  · have hr' : s'.receivers[i]? = some r' := by
      rw [hworked.receivers_eq, List.getElem?_set_self (List.getElem?_eq_some_iff.mp hr).1]
    have haddress : r'.address = r.address :=
      congrArg ReceiverSettings.address hworked.settings_eq
    have hheld : s.held r.address = r.held := held_eq hr (h.alone hr hrunning)
    have hheld' : s'.held r'.address = r'.held := by
      refine held_eq hr' fun j other hother hne hsame => ?_
      rcases getElem?_worked hworked hr j other hother with ⟨hji, -⟩ | ⟨-, hbefore⟩
      · exact absurd hji hne
      · exact h.alone hr hrunning j other hbefore hne (hsame.trans haddress)
    rw [hqueue, hheld, ← haddress, hheld', haddress]
    exact hworked.accounted.own
  · rw [held_set hr hworked.receivers_eq hworked.settings_eq hqueue,
      hworked.accounted.messages_eq queue hqueue, hworked.accounted.departures_eq queue hqueue,
      List.nil_append, List.append_assoc]

end Served

variable (route) in
/-- A receiver that is not running does nothing. -/
theorem work_of_not_isRunning
    (hr : s.receivers[i]? = some r) (hrunning : r.isRunning = false) :
    s.work i = s ∧ s.accepted route i = [] := by
  constructor
  · unfold work
    unfold Receiver.isRunning at hrunning
    simp only [hr]
    cases hjob : r.running with
    | none => rfl
    | some job =>
        obtain ⟨h, task⟩ := job
        cases task with
        | ended => rfl
        | idle => simp [hjob] at hrunning
        | delivering stored d due => simp [hjob] at hrunning
  · simp only [accepted, hr]
    exact accepted_of_delivered?_eq_none (delivered?_of_not_isRunning hrunning) _ _

theorem length_held_le_one (r : Receiver τ) : r.held.length ≤ 1 := by
  unfold Receiver.held
  split
  · split <;> simp
  · simp

/-- At most one message of a queue is held, by one receiver. -/
theorem Served.length_held_le_one (h : s.Served route) (queue : String) :
    (s.held queue).length ≤ 1 := by
  by_cases hsome : ∃ (i : Nat) (r : Receiver τ), s.receivers[i]? = some r ∧
      r.isRunning = true ∧ r.address = queue
  · obtain ⟨i, r, hr, hrunning, rfl⟩ := hsome
    rw [held_eq hr (h.alone hr hrunning)]
    exact Station.length_held_le_one r
  · have hnone : s.held queue = [] := by
      refine List.flatMap_eq_nil_iff.mpr fun r hmem => ?_
      obtain ⟨i, hr⟩ := List.mem_iff_getElem?.mp hmem
      split
      · rename_i haddress
        refine held_of_not_isRunning ?_
        by_contra hnot
        rw [Bool.not_eq_false] at hnot
        exact hsome ⟨i, r, hr, hnot, haddress⟩
      · rfl
    simp [hnone]

/-- A message that was abandoned is the head of its queue again with the next step. -/
theorem Served.abandoned
    (h : s.Served route) (hr : s.receivers[i]? = some r) {stored : Stored} {d : Delivery}
    (hdelivered : r.delivered? = some (stored, d)) (hstage : d.stage = .abandoned) :
    (s.work i).memory.messages r.address = stored :: s.memory.messages r.address ∧
      (s.work i).held r.address = [] := by
  have hrunning : r.isRunning = true := by
    by_contra hnot
    rw [Bool.not_eq_true] at hnot
    rw [delivered?_of_not_isRunning hnot] at hdelivered
    cases hdelivered
  have hproper := h.proper i r hr
  have hheld : r.held = [stored] := by simp [Receiver.held, hdelivered, hstage]
  have hmessages : (s.work i).memory.messages r.address =
      stored :: s.memory.messages r.address := by
    unfold Receiver.delivered? at hdelivered
    split at hdelivered
    · rename_i hjob
      cases hdelivered
      simp only [work, hr, hjob, proceed, hstage]
      exact (Memory.messages_putBack (hproper.contains hrunning) stored).1
    · cases hdelivered
  have hnone : s.accepted route i = [] := by
    unfold accepted Receiver.accepted
    unfold Receiver.delivered? at hdelivered
    split at hdelivered
    · rename_i hjob
      cases hdelivered
      simp only [hr, hjob, Route.offer?, hstage]
    · cases hdelivered
  obtain ⟨r', hworked⟩ := worked_work hr hproper
  have haccount := h.account hr hrunning hworked r.address
  rw [hnone, held_eq hr (h.alone hr hrunning), hheld, hmessages] at haccount
  refine ⟨hmessages, ?_⟩
  simpa using haccount

end Station
end FaultRelay
