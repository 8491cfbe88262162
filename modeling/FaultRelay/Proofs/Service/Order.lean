import FaultRelay.Proofs.Service.Conservation

/-!
# The messages of a queue come in turn

A queue that the relay listens to is a line: messages are put at its end, and only the message
at its front is handed to a handler or finishes.  A message that a receiver took from the queue
stays at the front of the line until it finishes, also when it goes back to the queue and a
receiver of a later generation takes it again.

**Input.** `InTurn queue line happenings rest`: a line becomes `rest` by `happenings`, none of
which concerns any but the message at the front.

**Results.**
* `Station.work_withHandler`: a receiver asks its handler about no message but `Receiver.asking?`.
* `World.inTurn_run`: in a run, a queue that nobody else empties is a line.
* `World.in_order`: messages finish in the order in which they were put on their queue.
-/

namespace FaultRelay

/-- What happens to the messages of a queue. -/
inductive Happening where
  | put (message : Stored)
  /-- A handler is asked to process a message, or about a failure of it. -/
  | ask (message : Received)
  /-- A message was forwarded, given back or moved to the poison queue. -/
  | finish (message : Stored)

namespace Happening

def put? : Happening → Option Stored
  | put message => some message
  | ask _ | finish _ => none

def finish? : Happening → Option Stored
  | finish message => some message
  | put _ | ask _ => none

/-- The messages that were put on the queue, oldest first. -/
def arrived (happenings : List Happening) : List Stored :=
  happenings.filterMap put?

/-- The messages that have finished, in the order in which they did. -/
def finished (happenings : List Happening) : List Stored :=
  happenings.filterMap finish?

theorem arrived_append (before after : List Happening) :
    arrived (before ++ after) = arrived before ++ arrived after :=
  List.filterMap_append

theorem finished_append (before after : List Happening) :
    finished (before ++ after) = finished before ++ finished after :=
  List.filterMap_append

@[simp] theorem arrived_map_put (messages : List Stored) :
    arrived (messages.map put) = messages := by
  simp [arrived, List.filterMap_map, Function.comp_def, put?]

@[simp] theorem arrived_map_ask (messages : List Received) :
    arrived (messages.map ask) = [] := by
  simp [arrived, List.filterMap_eq_nil_iff, put?]

@[simp] theorem arrived_map_finish (messages : List Stored) :
    arrived (messages.map finish) = [] := by
  simp [arrived, List.filterMap_eq_nil_iff, put?]

@[simp] theorem finished_map_put (messages : List Stored) :
    finished (messages.map put) = [] := by
  simp [finished, List.filterMap_eq_nil_iff, finish?]

@[simp] theorem finished_map_ask (messages : List Received) :
    finished (messages.map ask) = [] := by
  simp [finished, List.filterMap_eq_nil_iff, finish?]

@[simp] theorem finished_map_finish (messages : List Stored) :
    finished (messages.map finish) = messages := by
  simp [finished, List.filterMap_map, Function.comp_def, finish?]

end Happening

open Happening (arrived finished)

/-- Messages are put at the end of a line; only the one at the front is handed over or finishes. -/
inductive InTurn (queue : String) : List Stored → List Happening → List Stored → Prop
  | nil (line : List Stored) : InTurn queue line [] line
  | put {line rest : List Stored} {message : Stored} {happenings : List Happening}
      (child : InTurn queue (line ++ [message]) happenings rest) :
      InTurn queue line (.put message :: happenings) rest
  | ask {line rest : List Stored} {front : Stored} {happenings : List Happening} (failures : Nat)
      (child : InTurn queue (front :: line) happenings rest) :
      InTurn queue (front :: line) (.ask { front.received queue with failures } :: happenings) rest
  | finish {line rest : List Stored} {front : Stored} {happenings : List Happening}
      (child : InTurn queue line happenings rest) :
      InTurn queue (front :: line) (.finish front :: happenings) rest

namespace InTurn

variable {queue : String} {line between rest : List Stored} {before after : List Happening}

theorem append
    (hbefore : InTurn queue line before between) (hafter : InTurn queue between after rest) :
    InTurn queue line (before ++ after) rest := by
  induction hbefore with
  | nil line => exact hafter
  | put child ih => exact .put (ih hafter)
  | ask failures child ih => exact .ask failures (ih hafter)
  | finish child ih => exact .finish (ih hafter)

/-- A line in the middle of what happens to it. -/
theorem exists_between (h : InTurn queue line (before ++ after) rest) :
    ∃ between : List Stored,
      InTurn queue line before between ∧ InTurn queue between after rest := by
  induction before generalizing line with
  | nil => exact ⟨line, .nil line, h⟩
  | cons happening before ih =>
      cases h with
      | put child =>
          obtain ⟨between, hbefore, hafter⟩ := ih child
          exact ⟨between, .put hbefore, hafter⟩
      | ask failures child =>
          obtain ⟨between, hbefore, hafter⟩ := ih child
          exact ⟨between, .ask failures hbefore, hafter⟩
      | finish child =>
          obtain ⟨between, hbefore, hafter⟩ := ih child
          exact ⟨between, .finish hbefore, hafter⟩

theorem puts (queue : String) (line messages : List Stored) :
    InTurn queue line (messages.map .put) (line ++ messages) := by
  induction messages generalizing line with
  | nil =>
      rw [List.append_nil]
      exact .nil line
  | cons message messages ih =>
      have hrest := ih (line ++ [message])
      rw [List.append_assoc] at hrest
      exact .put hrest

theorem finishes (queue : String) (messages line : List Stored) :
    InTurn queue (messages ++ line) (messages.map .finish) line := by
  induction messages with
  | nil => exact .nil line
  | cons message messages ih => exact .finish ih

/-- The messages of a line finish in the order in which they came to it. -/
theorem account {happenings : List Happening} (h : InTurn queue line happenings rest) :
    line ++ arrived happenings = finished happenings ++ rest := by
  induction h with
  | nil line => exact List.append_nil line
  | put child ih =>
      rw [List.append_assoc] at ih
      exact ih
  | ask failures child ih => exact ih
  | finish child ih => exact congrArg (List.cons _) ih

/-- No message is handed over before all that came to the line before it have finished. -/
theorem asked {message : Received} (h : InTurn queue line (before ++ .ask message :: after) rest) :
    ∃ (stored : Stored) (failures : Nat) (waiting : List Stored),
      message = { stored.received queue with failures } ∧
        line ++ arrived before = finished before ++ stored :: waiting := by
  obtain ⟨between, hbefore, hafter⟩ := h.exists_between
  have haccount := hbefore.account
  cases hafter with
  | ask failures child => exact ⟨_, failures, _, rfl, haccount⟩

end InTurn

/-! ### Who is asked -/

namespace Receiver

variable {τ : Type}

/-- The message about which a receiver asks its handler in its next step. -/
def asking? (r : Receiver τ) : Option Received :=
  match r.running with
  | some (_, .delivering _ d _) =>
      match d.stage with
      | .attempting | .failing _ => some d.message
      | .waiting _ | .completed | .abandoned => none
  | _ => none

/-- The receiver with another handler. -/
def withHandler (r : Receiver τ) (h : Handler (Site Memory × τ)) : Receiver τ :=
  { r with running := r.running.map fun (_, task) => (h, task) }

/-- A receiver asks about the message that it holds. -/
theorem exists_held_of_asking?
    {route : ReceiverSettings → Route} {m : Memory} {r : Receiver τ} (hproper : r.Proper route m)
    {message : Received} (h : r.asking? = some message) :
    ∃ (stored : Stored) (failures : Nat), r.isRunning = true ∧ r.held = [stored] ∧
      message = { stored.received r.address with failures } := by
  unfold asking? at h
  split at h
  · rename_i handler stored d due hrunning
    have hreceived : d.received = stored.received r.address :=
      hproper.received_eq stored d (by simp only [delivered?, hrunning])
    have hisRunning : r.isRunning = true := by simp [isRunning, hrunning]
    have hmessage : ∀ failures : Nat, { d.received with failures } =
        { stored.received r.address with failures } := by
      intro failures
      rw [hreceived]
    split at h
    · rename_i hstage
      cases h
      exact ⟨stored, d.failures, hisRunning,
        Station.held_of_delivering hrunning (by simp [hstage]), hmessage _⟩
    · rename_i e hstage
      cases h
      exact ⟨stored, d.failures, hisRunning,
        Station.held_of_delivering hrunning (by simp [hstage]), hmessage _⟩
    · cases h
    · cases h
    · cases h
  · cases h

end Receiver

namespace Station

variable {τ : Type} {s : Station τ} {i : Nat} {r : Receiver τ}

/-- The station with another handler for the receiver at a place. -/
def withHandler (s : Station τ) (i : Nat) (h : Handler (Site Memory × τ)) : Station τ :=
  { s with receivers := s.receivers.modify i (·.withHandler h) }

variable {h h' : Handler (Site Memory × τ)}

theorem withHandler_setReceiver (s : Station τ) (i : Nat) (r : Receiver τ)
    (h : Handler (Site Memory × τ)) :
    (s.setReceiver i r).withHandler i h = s.setReceiver i (r.withHandler h) := by
  simp only [withHandler, setReceiver]
  congr 1
  refine List.ext_getElem? fun j => ?_
  rw [List.getElem?_modify, List.getElem?_set, List.getElem?_set]
  by_cases hij : i = j
  · subst hij
    by_cases hlt : i < s.receivers.length <;> simp [hlt]
  · simp [hij]

theorem setReceiver_withHandler (s : Station τ) (i : Nat) (r : Receiver τ)
    (h : Handler (Site Memory × τ)) :
    (s.withHandler i h).setReceiver i r = s.setReceiver i r := by
  simp only [withHandler, setReceiver]
  congr 1
  refine List.ext_getElem? fun j => ?_
  rw [List.getElem?_set, List.getElem?_set, List.getElem?_modify, List.length_modify]
  by_cases hij : i = j <;> simp [hij]

theorem withTask_withHandler (s : Station τ) (i : Nat) (r : Receiver τ) (task : Task) :
    (s.withHandler i h').setReceiver i ((r.withHandler h').withTask h' task) =
      (s.setReceiver i (r.withTask h task)).withHandler i h' := by
  rw [withHandler_setReceiver, setReceiver_withHandler]
  rfl

theorem look_withHandler (s : Station τ) (i : Nat) (r : Receiver τ) :
    (s.withHandler i h').look i (r.withHandler h') h' = (s.look i r h).withHandler i h' := by
  have hmemory : (s.withHandler i h').memory = s.memory := rfl
  have hsignal : (r.withHandler h').signal = r.signal := rfl
  have haddress : (r.withHandler h').address = r.address := rfl
  simp only [look, hmemory, hsignal, haddress]
  split
  · exact withTask_withHandler s i r _
  · split
    · exact withTask_withHandler (s.raise r r.lost) i r _
    · split
      · exact withTask_withHandler (s.setMemory _) i r _
      · split
        · exact withTask_withHandler s i r _
        · rfl

theorem proceed_withHandler
    (s : Station τ) (i : Nat) {r : Receiver τ} {stored : Stored} {d : Delivery} {due : Nat}
    (hrunning : r.running = some (h, .delivering stored d due))
    (hagree : ∀ message : Received, r.asking? = some message →
      h'.attempt message = h.attempt message ∧ h'.judge message = h.judge message) :
    (s.withHandler i h').proceed i (r.withHandler h') h' stored d due =
      (s.proceed i r h stored d due).withHandler i h' := by
  have hsignal : (r.withHandler h').signal = r.signal := rfl
  have hclock : (s.withHandler i h').clock = s.clock := rfl
  have hsite : (s.withHandler i h').site = s.site := rfl
  have hrest : (s.withHandler i h').rest = s.rest := rfl
  have hasked : (d.stage = .attempting ∨ ∃ e : RelayError, d.stage = .failing e) →
      ∀ stopped : Bool, d.work h' stopped (s.site, s.rest) = d.work h stopped (s.site, s.rest) := by
    intro hstage stopped
    have hasking : r.asking? = some d.message := by
      rcases hstage with hstage | ⟨e, hstage⟩
      · simp only [Receiver.asking?, hrunning, hstage]
      · simp only [Receiver.asking?, hrunning, hstage]
    obtain ⟨hattempt, hjudge⟩ := hagree _ hasking
    simp only [Delivery.work, hattempt, hjudge]
  unfold proceed
  cases hstage : d.stage with
  | attempting =>
      dsimp only
      rw [hsignal, hclock, hsite, hrest, hasked (Or.inl hstage)]
      exact withTask_withHandler { s with site := _, rest := _ } i r _
  | failing e =>
      dsimp only
      rw [hsignal, hclock, hsite, hrest, hasked (Or.inr ⟨e, hstage⟩)]
      exact withTask_withHandler { s with site := _, rest := _ } i r _
  | waiting delay =>
      dsimp only
      rw [hsignal, hclock]
      split
      · exact withTask_withHandler s i r _
      · split
        · exact withTask_withHandler s i r _
        · rfl
  | completed => exact withTask_withHandler s i r _
  | abandoned => exact withTask_withHandler (s.setMemory _) i r _

/-- With a handler that answers alike about the message that is asked about, a step is the same. -/
theorem work_withHandler
    {task : Task} (hr : s.receivers[i]? = some r) (hrunning : r.running = some (h, task))
    (hagree : ∀ message : Received, r.asking? = some message →
      h'.attempt message = h.attempt message ∧ h'.judge message = h.judge message) :
    (s.withHandler i h').work i = (s.work i).withHandler i h' := by
  have hr' : (s.withHandler i h').receivers[i]? = some (r.withHandler h') := by
    simp [withHandler, hr]
  have hrunning' : (r.withHandler h').running = some (h', task) := by
    simp [Receiver.withHandler, hrunning]
  simp only [work, hr, hr', hrunning, hrunning']
  cases task with
  | idle => exact look_withHandler s i r
  | delivering stored d due => exact proceed_withHandler s i hrunning hagree
  | ended => rfl

end Station

namespace World

variable {δ : Type} {w : World δ} {move : Move δ} {queue : String}

/-- The messages of a queue that have not finished, in their order. -/
def line (w : World δ) (queue : String) : List Stored :=
  w.held queue ++ w.memory.messages queue

/-- The message of a queue about which a handler is asked with a move. -/
def asking? (w : World δ) (queue : String) : Move δ → Option Received
  | .act (.receiver place) =>
      match w.station.receivers[place]? with
      | some r => if r.address = queue then r.asking? else none
      | none => none
  | _ => none

/-- What a move does to the messages of a queue. -/
def happenings (w : World δ) (queue : String) (move : Move δ) : List Happening :=
  (w.asking? queue move).toList.map .ask ++
    ((Ledger.arrivals queue (w.entries move)).map .put ++
      (Ledger.departures queue (w.entries move)).map .finish)

/-- What a sequence of moves does to the messages of a queue. -/
def history (w : World δ) (queue : String) : List (Move δ) → List Happening
  | [] => []
  | move :: rest => w.happenings queue move ++ (w.after move).history queue rest

/-- A handler is asked about the message at the front of the line. -/
theorem Sound.exists_front
    (h : w.Sound) {message : Received} (hasking : w.asking? queue move = some message) :
    ∃ (front : Stored) (failures : Nat), w.line queue = front :: w.memory.messages queue ∧
      message = { front.received queue with failures } := by
  unfold asking? at hasking
  split at hasking
  · rename_i place
    split at hasking
    · rename_i r hr
      split at hasking
      · rename_i haddress
        subst haddress
        obtain ⟨front, failures, hrunning, hheld, hmessage⟩ :=
          Receiver.exists_held_of_asking? (h.served.proper place r hr) hasking
        refine ⟨front, failures, ?_, hmessage⟩
        rw [line, held, Station.held_eq hr (h.served.alone hr hrunning), hheld]
        rfl
      · cases hasking
    · cases hasking
  · cases hasking

/-- With every move that takes nothing from it, a queue stays a line. -/
theorem Sound.inTurn_after (h : w.Sound) (hpop : move ≠ .pop queue) :
    InTurn queue (w.line queue) (w.happenings queue move) ((w.after move).line queue) := by
  have haccount : w.Account (w.after move) queue (w.entries move) :=
    (h.kept_after move).account queue hpop
  have hputs := InTurn.puts queue (w.line queue) (Ledger.arrivals queue (w.entries move))
  have hfinishes := InTurn.finishes queue (Ledger.departures queue (w.entries move))
    ((w.after move).line queue)
  rw [Account] at haccount
  rw [line, haccount] at hputs
  have hmoved := hputs.append hfinishes
  rw [happenings]
  cases hasking : w.asking? queue move with
  | none => exact hmoved
  | some message =>
      obtain ⟨front, failures, hline, rfl⟩ := h.exists_front hasking
      rw [hline]
      refine .ask failures ?_
      rw [← hline]
      exact hmoved

/-- In every run, a queue that nobody else empties is a line. -/
theorem Sound.inTurn_run (h : w.Sound) {moves : List (Move δ)} (hpop : .pop queue ∉ moves) :
    InTurn queue (w.line queue) (w.history queue moves) ((w.run moves).line queue) := by
  induction moves generalizing w with
  | nil => exact .nil (w.line queue)
  | cons move rest ih =>
      have hmove : move ≠ .pop queue := fun heq => hpop (by simp [heq])
      have hfirst := h.inTurn_after hmove
      have hrest := ih (h.kept_after move).sound fun hmem => hpop (by simp [hmem])
      exact hfirst.append hrest

theorem arrived_happenings (w : World δ) (queue : String) (move : Move δ) :
    arrived (w.happenings queue move) = Ledger.arrivals queue (w.entries move) := by
  simp [happenings, Happening.arrived_append]

theorem finished_happenings (w : World δ) (queue : String) (move : Move δ) :
    finished (w.happenings queue move) = Ledger.departures queue (w.entries move) := by
  simp [happenings, Happening.finished_append]

/-- What is put on a queue, and what leaves it, is what the ledger says. -/
theorem ledger_history (w : World δ) (queue : String) (moves : List (Move δ)) :
    arrived (w.history queue moves) = Ledger.arrivals queue (w.ledger moves) ∧
      finished (w.history queue moves) = Ledger.departures queue (w.ledger moves) := by
  induction moves generalizing w with
  | nil => exact ⟨rfl, rfl⟩
  | cons move rest ih =>
      obtain ⟨harrived, hfinished⟩ := ih (w.after move)
      constructor
      · rw [history, ledger, Happening.arrived_append, Ledger.arrivals_append, arrived_happenings,
          harrived]
      · rw [history, ledger, Happening.finished_append, Ledger.departures_append,
          finished_happenings, hfinished]

/-- A message that has finished left its queue with an operation that was accepted. -/
theorem Sound.exists_sent_of_mem_finished
    (h : w.Sound) {moves : List (Move δ)} {message : Stored}
    (hmem : message ∈ finished (w.history queue moves)) :
    ∃ (receiver : ReceiverSettings) (offer : Offer), receiver.address = queue ∧
      .sent receiver message offer ∈ w.ledger moves ∧ Handed w.relay receiver message offer := by
  rw [(w.ledger_history queue moves).2, Ledger.departures, List.mem_filterMap] at hmem
  obtain ⟨entry, hentry, hdeparture⟩ := hmem
  cases entry with
  | put name stored => cases hdeparture
  | sent receiver stored offer =>
      simp only [Ledger.Entry.departure?, Option.ite_none_right_eq_some,
        Option.some.injEq] at hdeparture
      obtain ⟨haddress, rfl⟩ := hdeparture
      exact ⟨receiver, offer, haddress, hentry, handed_of_ledger h hentry⟩

/--
In every run of the relay, the messages of a queue that nobody else empties are forwarded, given
back or moved to the poison queue in the order in which they were put on the queue.  A handler is
asked about a message only after all messages before it have finished, and a message that is
abandoned is the head of its queue again, before the others in their order.
-/
theorem in_order
    (hfresh : w.Fresh) (moves : List (Move δ)) (queue : String) (hpop : .pop queue ∉ moves) :
    let now := w.run moves
    let history := w.history queue moves
    InTurn queue (w.memory.messages queue) history (now.line queue) ∧
      w.memory.messages queue ++ arrived history = finished history ++ now.line queue ∧
      (∀ message ∈ finished history, ∃ (receiver : ReceiverSettings) (offer : Offer),
        receiver.address = queue ∧ .sent receiver message offer ∈ w.ledger moves ∧
          Handed w.relay receiver message offer) ∧
      (∀ (before after : List Happening) (message : Received),
        history = before ++ .ask message :: after →
          ∃ (stored : Stored) (failures : Nat) (waiting : List Stored),
            message = { stored.received queue with failures } ∧
              w.memory.messages queue ++ arrived before =
                finished before ++ stored :: waiting) ∧
      ∀ (i : Nat) (r : Receiver Unit) (stored : Stored) (d : Delivery),
        now.station.receivers[i]? = some r → r.address = queue →
        r.delivered? = some (stored, d) →
        (d.stage = .completed →
          ∃ before : List Stored, finished history = before ++ [stored]) ∧
        (d.stage = .abandoned →
          let next := now.after (.act (.receiver i))
          next.memory.messages queue = stored :: now.memory.messages queue ∧
            next.held queue = []) := by
  intro now history
  have hsound : w.Sound := hfresh.sound
  have hnow : now.Sound := hsound.run moves
  have hline : w.line queue = w.memory.messages queue := by
    simp [line, held, Station.held, hfresh.receivers_eq]
  have hbegins : w.Concluded [] := by
    intro i r stored d hr
    simp [hfresh.receivers_eq] at hr
  have hinTurn := hsound.inTurn_run hpop
  rw [hline] at hinTurn
  refine ⟨hinTurn, hinTurn.account, fun _ => hsound.exists_sent_of_mem_finished, ?_, ?_⟩
  · intro before after message hhistory
    have hsplit : InTurn queue (w.memory.messages queue) (before ++ .ask message :: after)
        (now.line queue) := hhistory ▸ hinTurn
    exact hsplit.asked
  · rintro i r stored d hr rfl hdelivered
    refine ⟨fun hstage => ?_, fun hstage => hnow.served.abandoned hr hdelivered hstage⟩
    rw [show finished history = Ledger.departures r.address (w.ledger moves) from
      (w.ledger_history r.address moves).2]
    exact concluded_run hsound hbegins moves i r stored d hr hdelivered hstage

/-- A message that the poison queue refused is ahead of the next one after its receiver stopped. -/
theorem in_order_abandoned :
    let settings : Settings := { returnQueue := "Fault.Return" }
    let r : Relay :=
      { settings, filter := QueueFilter.byEnding.excluding (QueueFilter.ownQueues settings) }
    let memory : Memory :=
      { queues := .ofList
          [("Fault.Return", []), ("Fault.Return.poison", []), ("orders_error", [])] }
    let w : World Unit :=
      { relay := r.launch false
        station := { site := ⟨memory, [], ⟨0, 0⟩⟩, rest := () }
        directory := .ofBroker
        listings := ()
        machine := "relay-1"
        messageId := toString }
    let message : String → Stored := fun nativeId => ⟨nativeId, ∅, ∅, "raw".toUTF8⟩
    let moves : List (Move Unit) :=
      [.act (.job .relay), .act (.job .relay), .act (.job .relay),
        .enqueue "orders_error" (message "native-1"), .act (.receiver 1),
        .enqueue "orders_error" (message "native-2"), .refuse "Fault.Return.poison" 1,
        .act (.receiver 1), .act (.receiver 1), .tellStop 1, .act (.receiver 1), .act (.receiver 1)]
    w.Fresh ∧ .pop "orders_error" ∉ moves ∧
      (w.history "orders_error" moves).length = 4 ∧
      ((w.run moves).memory.messages "orders_error").map (·.nativeId) = ["native-1", "native-2"] ∧
      w.memory.messages "orders_error" ++ arrived (w.history "orders_error" moves) =
        finished (w.history "orders_error" moves) ++ (w.run moves).line "orders_error" := by
  intro settings r memory w message moves
  have hfresh : w.Fresh := {
    launched := ⟨settings, {}, r, false,
      by simp [Relay.make, QueueFilter.ofSettings?, settings, r], rfl⟩
    receivers_eq := rfl }
  have hpop : .pop "orders_error" ∉ moves := by simp [moves]
  refine ⟨hfresh, hpop, by decide +kernel, by decide +kernel, ?_⟩
  exact (in_order hfresh moves "orders_error" hpop).2.1

end World
end FaultRelay
