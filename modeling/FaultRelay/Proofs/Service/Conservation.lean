import FaultRelay.Proofs.Service.Moves

/-!
# No message is lost and none is doubled

**Results.**
* `World.account_run`: a run keeps the account of a queue that nobody else empties.
* `World.conserved`: in every run, what was put on a queue is what left it with an accepted
  operation, then what a receiver holds, then what the queue has.
-/

namespace FaultRelay
namespace World

variable {δ : Type} {w : World δ} {move : Move δ}

/-! ### What is handed over -/

/-- What a receiver may hand over for a message that it took from its queue. -/
def Handed (r : Relay) (receiver : ReceiverSettings) (message : Stored) (offer : Offer) : Prop :=
  match offer.way with
  | .converted =>
      (∃ now : Time.Instant, (r.route .memory receiver).conversion
        (message.received receiver.address) now = .ok offer.operation) ∧
      match Relay.direction receiver with
      | .forward => offer.operation.destination = r.settings.errorQueue
      | .giveBack =>
          ∃ target : String, message.headers[Fault.ServiceControl.targetAddress]? = some target ∧
            offer.operation.destination = Url.queueName target
  | .poisoned =>
      offer.operation =
        ⟨r.settings.poisonQueue, message.nativeId, message.headers, message.body,
          Headers.ofPairs [(Property.messageId, message.nativeId)]⟩

theorem handed_of_conversion
    {r : Relay} {receiver : ReceiverSettings} {message : Stored} {now : Time.Instant}
    {op : Operation} (h : (r.route .memory receiver).conversion
      (message.received receiver.address) now = .ok op) :
    Handed r receiver message ⟨.converted, op⟩ := by
  refine ⟨⟨now, h⟩, ?_⟩
  cases hdirection : Relay.direction receiver with
  | forward => exact Route.destination_of_forward _ hdirection h
  | giveBack => exact Route.destination_of_giveBack _ hdirection h

/-- A receiver hands over a conversion of its message, or the message as it was received. -/
theorem handed_of_accepted
    {r : Relay} {receiver : Receiver Unit} {m : Memory} {now : Time.Instant}
    (hproper : receiver.Proper (r.route .memory) m) {settings : ReceiverSettings}
    {message : Stored} {offer : Offer}
    (h : .sent settings message offer ∈ receiver.accepted (r.route .memory) m now) :
    Handed r settings message offer := by
  unfold Receiver.accepted at h
  split at h
  · rename_i handler stored d due hrunning
    have hreceived : d.received = stored.received receiver.address :=
      hproper.received_eq stored d (by simp only [Receiver.delivered?, hrunning])
    split at h
    · rename_i offered hoffer
      split at h
      · rw [List.mem_singleton] at h
        cases h
        unfold Route.offer? at hoffer
        split at hoffer
        · split at hoffer
          · rename_i hconversion
            cases hoffer
            rw [Delivery.message, Route.convert_message, hreceived] at hconversion
            exact handed_of_conversion hconversion
          · cases hoffer
        · split at hoffer
          · cases hoffer
            simp only [Handed, Received.toPoison, Delivery.message, hreceived, Stored.received]
            rfl
          · cases hoffer
        · cases hoffer
        · cases hoffer
        · cases hoffer
      · cases h
    · cases h
  · cases h

theorem handed_of_entries
    (h : w.Sound) {receiver : ReceiverSettings} {message : Stored} {offer : Offer}
    (hmem : .sent receiver message offer ∈ w.entries move) :
    Handed w.relay receiver message offer := by
  have hput : ∀ (queue : String) (stored : Stored),
      .sent receiver message offer ∉ put w.memory queue stored := by
    intro queue stored hput
    unfold put at hput
    split at hput
    · simp at hput
    · cases hput
  unfold entries at hmem
  split at hmem
  · rename_i place
    unfold Station.accepted at hmem
    split at hmem
    · rename_i r hr
      exact handed_of_accepted (h.served.proper place r hr) hmem
    · cases hmem
  · split at hmem
    · exact absurd hmem (hput _ _)
    · cases hmem
  · exact absurd hmem (hput _ _)
  · cases hmem

/-! ### Runs -/

theorem Sound.run (h : w.Sound) (moves : List (Move δ)) : (w.run moves).Sound := by
  induction moves generalizing w with
  | nil => exact h
  | cons move rest ih => exact ih (h.kept_after move).sound

theorem account_run
    (h : w.Sound) {queue : String} {moves : List (Move δ)} (hpop : .pop queue ∉ moves) :
    w.Account (w.run moves) queue (w.ledger moves) := by
  induction moves generalizing w with
  | nil => simp [Account, ledger, run]
  | cons move rest ih =>
      have hkept := h.kept_after move
      have hfirst : w.Account (w.after move) queue (w.entries move) :=
        hkept.account queue fun heq => hpop (by simp [heq])
      have hrest : (w.after move).Account (w.run (move :: rest)) queue
          ((w.after move).ledger rest) := ih hkept.sound fun hmem => hpop (by simp [hmem])
      unfold Account at hfirst hrest ⊢
      rw [ledger, Ledger.arrivals_append, Ledger.departures_append, ← List.append_assoc, hfirst,
        List.append_assoc, hrest, List.append_assoc]

theorem concluded_run
    (h : w.Sound) {before : List Ledger.Entry} (hbefore : w.Concluded before)
    (moves : List (Move δ)) : (w.run moves).Concluded (before ++ w.ledger moves) := by
  induction moves generalizing w before with
  | nil =>
      rw [ledger, List.append_nil]
      exact hbefore
  | cons move rest ih =>
      have hkept := h.kept_after move
      have hrest := ih hkept.sound (hkept.concluded before hbefore)
      rw [List.append_assoc] at hrest
      exact hrest

theorem handed_of_ledger
    (h : w.Sound) {moves : List (Move δ)} {receiver : ReceiverSettings} {message : Stored}
    {offer : Offer} (hmem : .sent receiver message offer ∈ w.ledger moves) :
    Handed w.relay receiver message offer := by
  induction moves generalizing w with
  | nil => cases hmem
  | cons move rest ih =>
      rcases List.mem_append.mp hmem with hfirst | hrest
      · exact handed_of_entries h hfirst
      · have hkept := h.kept_after move
        have hhanded := ih hkept.sound hrest
        obtain ⟨occurrences, hrun⟩ := hkept.relay_eq
        unfold Handed at hhanded ⊢
        rw [hrun, Relay.route_eq (Relay.settings_run _ _), Relay.settings_run] at hhanded
        exact hhanded

/--
In every run of the relay, whatever was put on a queue that nobody else empties has left it
with one accepted operation, or one receiver holds it, or it is in the queue, in the order
in which it was put there.
-/
theorem conserved
    (hfresh : w.Fresh) (moves : List (Move δ)) (queue : String) (hpop : .pop queue ∉ moves) :
    let now := w.run moves
    let ledger := w.ledger moves
    w.memory.messages queue ++ Ledger.arrivals queue ledger =
        Ledger.departures queue ledger ++ (now.held queue ++ now.memory.messages queue) ∧
      (now.held queue).length ≤ 1 ∧
      (∀ (receiver : ReceiverSettings) (message : Stored) (offer : Offer),
        .sent receiver message offer ∈ ledger → Handed w.relay receiver message offer) ∧
      ∀ (i : Nat) (r : Receiver Unit) (stored : Stored) (d : Delivery),
        now.station.receivers[i]? = some r → r.address = queue →
        r.delivered? = some (stored, d) →
        (d.stage = .completed →
          ∃ before : List Stored, Ledger.departures queue ledger = before ++ [stored]) ∧
        (d.stage = .abandoned →
          let next := now.after (.act (.receiver i))
          next.memory.messages queue = stored :: now.memory.messages queue ∧
            next.held queue = []) := by
  intro now ledger
  have hsound : w.Sound := hfresh.sound
  have hnow : now.Sound := hsound.run moves
  have hempty : w.held queue = [] := by
    simp [held, Station.held, hfresh.receivers_eq]
  have haccount : w.Account now queue ledger := account_run hsound hpop
  have hbegins : w.Concluded [] := by
    intro i r stored d hr
    simp [hfresh.receivers_eq] at hr
  refine ⟨?_, hnow.served.length_held_le_one queue, fun _ _ _ => handed_of_ledger hsound, ?_⟩
  · rw [Account, hempty, List.nil_append] at haccount
    exact haccount
  · rintro i r stored d hr rfl hdelivered
    refine ⟨fun hstage => ?_, fun hstage => ?_⟩
    · exact concluded_run hsound hbegins moves i r stored d hr hdelivered hstage
    · exact hnow.served.abandoned hr hdelivered hstage

/-- A message that cannot be converted leaves its queue for the poison queue. -/
theorem conserved_unconvertible :
    let settings : Settings := { returnQueue := "Fault.Return" }
    let r : Relay :=
      { settings, filter := QueueFilter.byEnding.excluding (QueueFilter.ownQueues settings) }
    let memory : Memory :=
      { queues := .ofList [("Fault.Return", []), ("Fault.Return.poison", []), ("orders_error", [])] }
    let w : World Unit :=
      { relay := r.launch false
        station := { site := ⟨memory, [], ⟨0, 0⟩⟩, rest := () }
        directory := .ofBroker
        listings := ()
        machine := "relay-1"
        messageId := toString }
    let message : Stored := ⟨"native-1", ∅, ∅, "raw".toUTF8⟩
    let moves : List (Move Unit) :=
      [.act (.job .relay), .act (.job .relay), .act (.job .relay),
        .enqueue "orders_error" message, .act (.receiver 1), .act (.receiver 1),
        .act (.receiver 1)]
    w.Fresh ∧ .pop "orders_error" ∉ moves ∧
      (Ledger.departures "orders_error" (w.ledger moves)).length = 1 ∧
      ((w.run moves).memory.messages "Fault.Return.poison").length = 1 ∧
      w.memory.messages "orders_error" ++ Ledger.arrivals "orders_error" (w.ledger moves) =
        Ledger.departures "orders_error" (w.ledger moves) ++
          ((w.run moves).held "orders_error" ++ (w.run moves).memory.messages "orders_error") := by
  intro settings r memory w message moves
  have hfresh : w.Fresh := {
    launched := ⟨settings, {}, r, false,
      by simp [Relay.make, QueueFilter.ofSettings?, settings, r], rfl⟩
    receivers_eq := rfl }
  have hpop : .pop "orders_error" ∉ moves := by simp [moves]
  refine ⟨hfresh, hpop, by decide +kernel, by decide +kernel, ?_⟩
  exact (conserved hfresh moves "orders_error" hpop).1

end World
end FaultRelay
