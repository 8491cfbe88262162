import FaultRelay.Proofs.Service.Occurrences
import FaultRelay.Proofs.Service.Opening

/-!
# The course of the relay

The relay publishes a state with some of its steps.  The states that it publishes one after
the other are its course.

**Rule.** `Relay.Step r o phase status`: the steps that the relay `r` can make when `o` occurs.

**Invariant.** `Relay.Past provision phase status states`: a relay in this phase has published
the states `states`.

**Results.**
* `Relay.step_advance`: every occurrence makes one of the steps.
* `Relay.Step.past`: every step continues the course.
* `Relay.Past.exists_course`, `Relay.Past.course`: what was published is the beginning of a
  course, and all of one when the relay has ended.
-/

namespace FaultRelay

/-- A phase of the relay before it listens for the first time, once its queues are made. -/
def Phase.IsFirst : Phase → Prop
  | .discovering | .opening true _ | .closing (.failed true _ _) => True
  | _ => False

/-- A phase in which the relay that has listened may exchange its receivers. -/
def Phase.IsExchange : Phase → Prop
  | .reconciling | .opening false _ | .closing (.restart _) | .closing (.failed false _ _) => True
  | _ => False

/-- A relay that ends well, or has done so. -/
def Phase.EndsWell : Phase → Prop
  | .closing (.drain (.ok _)) | .finished (.ok _) => True
  | _ => False

namespace Relay

/-- What the relay can come to with one occurrence. -/
inductive Step (r : Relay) : Occurrence → Phase → Status → Prop
  | stay (o : Occurrence) : Step r o r.phase r.status
  | provision (h : r.phase = .ready true) :
      Step r .begun .provisioning { r.status with state := .provisioning }
  | discover (h : r.phase = .ready false) : Step r .begun .discovering r.status
  | provisioned (h : r.phase = .provisioning) : Step r (.provisioned true) .discovering r.status
  | unprovisioned (h : r.phase = .provisioning) (e : RelayError) :
      Step r (.provisioned false) (.finished (.error e)) { r.status with state := .stopped }
  | discovered (h : r.phase = .discovering) (o : Occurrence) (queues : QueueSet) :
      Step r o (.opening true queues) r.status
  | scanned (h : r.phase = .listening) :
      Step r .scanned .reconciling { r.status with state := .reconciling }
  | unchanged (h : r.phase = .reconciling) (o : Occurrence) :
      Step r o .listening { r.status with state := .listening }
  | changed (h : r.phase = .reconciling) (o : Occurrence) (queues : QueueSet) :
      Step r o (.closing (.restart queues)) r.status
  | opened {first : Bool} {queues : QueueSet} (h : r.phase = .opening first queues)
      (o : Occurrence) (listening : QueueSet) :
      Step r o .listening ⟨.listening, r.status.generation + 1, listening⟩
  | unopened {first : Bool} {queues : QueueSet} (h : r.phase = .opening first queues)
      (o : Occurrence) (e : TransportError) :
      Step r o (.closing (.failed first queues e)) r.status
  | failed (h : r.phase.IsFirst) (o : Occurrence) (e : RelayError) :
      Step r o (.finished (.error e)) { r.status with state := .stopped }
  | retried (h : r.phase.IsExchange) (o : Occurrence) :
      Step r o .listening { r.status with state := .listening, listening := ∅ }
  | interrupted (h : r.phase = .listening) (result : Except RelayError Unit) :
      Step r (.interrupted result) (.closing (.drain result)) { r.status with state := .draining }
  | restarted {queues : QueueSet} (h : r.phase = .closing (.restart queues)) :
      Step r .stopped (.opening false queues) r.status
  | drained {result : Except RelayError Unit} (h : r.phase = .closing (.drain result)) :
      Step r .stopped (.finished result) { r.status with state := .stopped, listening := ∅ }

section Steps

variable {r : Relay}

theorem step_found
    (h : r.phase = .reconciling) (o : Occurrence) (result : Except DiscoveryError QueueSet)
    (exists? : String → Except DiscoveryError Bool) :
    r.Step o (r.found result exists?).1.phase (r.found result exists?).1.status := by
  unfold found
  split
  · exact .unchanged h o
  · dsimp only
    split
    · exact .unchanged h o
    · exact .changed h o _

theorem step_openFor
    {first : Bool} {queues : QueueSet} (h : r.phase = .opening first queues) (o : Opening) :
    r.Step (.answered o) (r.openFor first queues o).1.phase
      (r.openFor first queues o).1.status := by
  have hopened := opened_openFor r first queues o
  generalize (r.openFor first queues o).1 = r' at hopened ⊢
  cases hopened with
  | all hstart => exact .opened h _ _
  | some started e hprefix hne => exact .unopened h _ e
  | none e =>
      cases first with
      | true => exact .failed (by rw [h]; trivial) _ _
      | false => exact .retried (by rw [h]; trivial) _

theorem step_closed {next : Closing} (h : r.phase = .closing next) :
    r.Step .stopped (r.closed next).1.phase (r.closed next).1.status := by
  cases next with
  | restart queues => exact .restarted h
  | drain result => exact .drained h
  | failed first queues e =>
      cases first with
      | true => exact .failed (by rw [h]; trivial) _ _
      | false => exact .retried (by rw [h]; trivial) _

/-- Every occurrence makes one of the steps. -/
theorem step_advance (r : Relay) (o : Occurrence) :
    r.Step o (r.advance o).phase (r.advance o).status := by
  cases o with
  | begun =>
      simp only [advance]
      split
      · rename_i provision h
        cases provision with
        | true => exact .provision h
        | false => exact .discover h
      · exact .stay _
  | provisioned succeeded =>
      simp only [advance]
      split
      · rename_i h
        cases succeeded with
        | true => exact .provisioned h
        | false => exact .unprovisioned h _
      · exact .stay _
  | scanned =>
      simp only [advance]
      split
      · exact .scanned ‹_›
      · exact .stay _
  | listed listing exists? =>
      simp only [advance]
      split
      · rename_i h
        unfold foundFirst
        split
        · exact .discovered h _ _
        · exact .discovered h _ _
      · exact step_found ‹_› _ _ _
      · exact .stay _
  | answered o =>
      simp only [advance]
      split
      · exact step_openFor ‹_› o
      · exact .stay _
  | interrupted result =>
      simp only [advance]
      split
      · exact .interrupted ‹_› result
      · exact .stay _
  | stopped =>
      simp only [advance]
      split
      · exact step_closed ‹_›
      · exact .stay _
  | reported now e => exact .stay _

/-- What is reported changes neither the phase nor what is published. -/
theorem run_reported (r : Relay) (reports : List (Time.Instant × LogEvent)) :
    (r.run (reports.map fun p => .reported p.1 p.2)).phase = r.phase ∧
      (r.run (reports.map fun p => .reported p.1 p.2)).status = r.status := by
  induction reports generalizing r with
  | nil => exact ⟨rfl, rfl⟩
  | cons p reports ih => exact ih (r.advance (.reported p.1 p.2))

theorem Turn.step {allowed : Occurrence → Prop} {r' : Relay} (h : r.Turn allowed r') :
    (r'.phase = r.phase ∧ r'.status = r.status) ∨
      ∃ o : Occurrence, allowed o ∧ r.Step o r'.phase r'.status := by
  obtain ⟨o, reports, hallowed, rfl⟩ := h
  cases o with
  | none => exact Or.inl (run_reported r reports)
  | some o =>
      obtain ⟨hphase, hstatus⟩ := (r.advance o).run_reported reports
      refine Or.inr ⟨o, hallowed o rfl, ?_⟩
      change r.Step o ((r.advance o).run (reports.map fun p => .reported p.1 p.2)).phase
        ((r.advance o).run (reports.map fun p => .reported p.1 p.2)).status
      rw [hphase, hstatus]
      exact step_advance r o

/-- A turn in which nothing may happen changes neither the phase nor what is published. -/
theorem Turn.still {r' : Relay} (h : r.Turn (fun _ => False) r') :
    r'.phase = r.phase ∧ r'.status = r.status := by
  rcases h.step with hsame | ⟨o, hnever, -⟩
  · exact hsame
  · exact hnever.elim

end Steps

/-! ### The course -/

/-- The states that are published while queues are made. -/
def prelude (provision : Bool) : List ServiceState :=
  if provision then [.provisioning] else []

/-- The states that are published with a number of scans. -/
def rounds (n : Nat) : List ServiceState :=
  (List.replicate n [ServiceState.reconciling, .listening]).flatten

/-- All states that a relay may publish from its beginning to its end. -/
def IsCourse (provision : Bool) (states : List ServiceState) : Prop :=
  states = prelude provision ++ [.stopped] ∨
    ∃ n : Nat, states = prelude provision ++ .listening :: rounds n ++ [.draining, .stopped]

/-- The state that a step publishes. -/
def announced (before after : ServiceState) : List ServiceState :=
  if after = before then [] else [after]

/-- What was published up to a phase. -/
def Past (provision : Bool) (phase : Phase) (status : Status) (states : List ServiceState) :
    Prop :=
  match phase with
  | .absent => False
  | .ready asked =>
      asked = provision ∧ status.state = .idle ∧ status.listening = ∅ ∧ states = []
  | .provisioning =>
      provision = true ∧ status.state = .provisioning ∧ status.listening = ∅ ∧
        states = [.provisioning]
  | .discovering | .opening true _ | .closing (.failed true _ _) =>
      status.state = (if provision then .provisioning else .idle) ∧ status.listening = ∅ ∧
        states = prelude provision
  | .listening =>
      status.state = .listening ∧ ∃ n : Nat, states = prelude provision ++ .listening :: rounds n
  | .reconciling | .opening false _ | .closing (.restart _) | .closing (.failed false _ _) =>
      status.state = .reconciling ∧
        ∃ n : Nat, states = prelude provision ++ .listening :: rounds n ++ [.reconciling]
  | .closing (.drain _) =>
      status.state = .draining ∧
        ∃ n : Nat, states = prelude provision ++ .listening :: rounds n ++ [.draining]
  | .finished _ =>
      status.state = .stopped ∧ status.listening = ∅ ∧ IsCourse provision states

theorem rounds_succ (n : Nat) : rounds (n + 1) = rounds n ++ [.reconciling, .listening] := by
  rw [rounds, rounds, List.replicate_succ', List.flatten_append]
  rfl

theorem announced_self (state : ServiceState) : announced state state = [] := if_pos rfl

section Past

variable {r : Relay} {provision : Bool} {states : List ServiceState}

theorem past_launch (r : Relay) (provision : Bool) :
    Past provision (r.launch provision).phase (r.launch provision).status [] :=
  ⟨rfl, rfl, rfl, rfl⟩

theorem Past.of_isFirst
    {phase : Phase} {status : Status} (h : Past provision phase status states)
    (hfirst : phase.IsFirst) :
    status.state = (if provision then .provisioning else .idle) ∧ status.listening = ∅ ∧
      states = prelude provision := by
  unfold Phase.IsFirst at hfirst
  split at hfirst
  · exact h
  · exact h
  · exact h
  · exact hfirst.elim

theorem Past.of_isExchange
    {phase : Phase} {status : Status} (h : Past provision phase status states)
    (hexchange : phase.IsExchange) :
    status.state = .reconciling ∧
      ∃ n : Nat, states = prelude provision ++ .listening :: rounds n ++ [.reconciling] := by
  unfold Phase.IsExchange at hexchange
  split at hexchange
  · exact h
  · exact h
  · exact h
  · exact h
  · exact hexchange.elim

/-- A relay that exchanges its receivers listens again. -/
theorem past_listening
    {phase : Phase} {status : Status} (h : Past provision phase status states)
    (hexchange : phase.IsExchange) :
    ∃ n : Nat, states ++ announced status.state .listening =
      prelude provision ++ .listening :: rounds n := by
  obtain ⟨hstate, n, rfl⟩ := h.of_isExchange hexchange
  refine ⟨n + 1, ?_⟩
  rw [hstate, rounds_succ]
  simp [announced]

/-- A relay that has not listened yet announces what follows the prelude. -/
theorem announced_of_isFirst
    {phase : Phase} {status : Status} (h : Past provision phase status states)
    (hfirst : phase.IsFirst) {state : ServiceState} (hprovisioning : state ≠ .provisioning)
    (hidle : state ≠ .idle) :
    states ++ announced status.state state = prelude provision ++ [state] := by
  obtain ⟨hstate, -, rfl⟩ := h.of_isFirst hfirst
  rw [hstate]
  cases provision with
  | true => exact congrArg _ (if_neg hprovisioning)
  | false => exact congrArg _ (if_neg hidle)

/-- Every step continues the course. -/
theorem Step.past
    {o : Occurrence} {phase : Phase} {status : Status} (hstep : r.Step o phase status)
    (h : Past provision r.phase r.status states) :
    Past provision phase status (states ++ announced r.status.state status.state) := by
  cases hstep with
  | stay =>
      rw [announced_self, List.append_nil]
      exact h
  | provision hphase =>
      simp only [Past, hphase] at h
      obtain ⟨rfl, hstate, hlistening, rfl⟩ := h
      exact ⟨rfl, rfl, hlistening, by rw [hstate]; rfl⟩
  | discover hphase =>
      simp only [Past, hphase] at h
      obtain ⟨rfl, hstate, hlistening, rfl⟩ := h
      exact ⟨hstate, hlistening, by rw [announced_self]; rfl⟩
  | provisioned hphase =>
      simp only [Past, hphase] at h
      obtain ⟨rfl, hstate, hlistening, rfl⟩ := h
      exact ⟨hstate, hlistening, by rw [announced_self]; rfl⟩
  | unprovisioned hphase e =>
      simp only [Past, hphase] at h
      obtain ⟨rfl, hstate, hlistening, rfl⟩ := h
      exact ⟨rfl, hlistening, Or.inl (by rw [hstate]; rfl)⟩
  | discovered hphase o queues =>
      simp only [Past, hphase] at h
      rw [announced_self, List.append_nil]
      exact h
  | scanned hphase =>
      simp only [Past, hphase] at h
      obtain ⟨hstate, n, rfl⟩ := h
      exact ⟨rfl, n, by rw [hstate]; rfl⟩
  | unchanged hphase o => exact ⟨rfl, past_listening h (by rw [hphase]; trivial)⟩
  | changed hphase o queues =>
      simp only [Past, hphase] at h
      rw [announced_self, List.append_nil]
      exact h
  | @opened first queues hphase o listening =>
      refine ⟨rfl, ?_⟩
      cases first with
      | true =>
          exact ⟨0, announced_of_isFirst h (by rw [hphase]; trivial) nofun nofun⟩
      | false => exact past_listening h (by rw [hphase]; trivial)
  | @unopened first queues hphase o e =>
      rw [announced_self, List.append_nil]
      cases first with
      | true => exact h.of_isFirst (by rw [hphase]; trivial)
      | false => exact h.of_isExchange (by rw [hphase]; trivial)
  | failed hfirst o e =>
      have hlistening := (h.of_isFirst hfirst).2.1
      exact ⟨rfl, hlistening, Or.inl (announced_of_isFirst h hfirst nofun nofun)⟩
  | retried hexchange o => exact ⟨rfl, past_listening h hexchange⟩
  | interrupted hphase result =>
      simp only [Past, hphase] at h
      obtain ⟨hstate, n, rfl⟩ := h
      exact ⟨rfl, n, by rw [hstate]; rfl⟩
  | restarted hphase =>
      simp only [Past, hphase] at h
      rw [announced_self, List.append_nil]
      exact h
  | drained hphase =>
      simp only [Past, hphase] at h
      obtain ⟨hstate, n, rfl⟩ := h
      refine ⟨rfl, rfl, Or.inr ⟨n, ?_⟩⟩
      rw [hstate, List.append_assoc]
      rfl

theorem Past.course
    {status : Status} {result : Except RelayError Unit}
    (h : Past provision (.finished result) status states) :
    status.listening = ∅ ∧ IsCourse provision states :=
  ⟨h.2.1, h.2.2⟩

/-- What was published can always be completed to a course. -/
theorem Past.exists_course
    {phase : Phase} {status : Status} (h : Past provision phase status states) :
    ∃ rest : List ServiceState, IsCourse provision (states ++ rest) := by
  by_cases hfirst : phase.IsFirst
  · obtain ⟨-, -, rfl⟩ := h.of_isFirst hfirst
    exact ⟨[.stopped], Or.inl rfl⟩
  by_cases hexchange : phase.IsExchange
  · obtain ⟨-, n, rfl⟩ := h.of_isExchange hexchange
    refine ⟨[.listening, .draining, .stopped], Or.inr ⟨n + 1, ?_⟩⟩
    rw [rounds_succ]
    simp
  cases phase with
  | absent => exact h.elim
  | ready asked =>
      obtain ⟨-, -, -, rfl⟩ := h
      exact ⟨_, Or.inl rfl⟩
  | provisioning =>
      obtain ⟨rfl, -, -, rfl⟩ := h
      exact ⟨[.stopped], Or.inl rfl⟩
  | discovering => exact absurd trivial hfirst
  | opening first queues =>
      cases first with
      | true => exact absurd trivial hfirst
      | false => exact absurd trivial hexchange
  | listening =>
      obtain ⟨-, n, rfl⟩ := h
      exact ⟨[.draining, .stopped], Or.inr ⟨n, rfl⟩⟩
  | reconciling => exact absurd trivial hexchange
  | closing next =>
      cases next with
      | restart queues => exact absurd trivial hexchange
      | failed first queues e =>
          cases first with
          | true => exact absurd trivial hfirst
          | false => exact absurd trivial hexchange
      | drain result =>
          obtain ⟨-, n, rfl⟩ := h
          exact ⟨[.stopped], Or.inr ⟨n, by simp⟩⟩
  | finished result => exact ⟨[], by rw [List.append_nil]; exact h.2.2⟩

/-- A relay ends well only if it was interrupted to do so. -/
theorem Step.endsWell
    {o : Occurrence} {phase : Phase} {status : Status} (hstep : r.Step o phase status)
    (h : phase.EndsWell) : r.phase.EndsWell ∨ o = .interrupted (.ok ()) := by
  cases hstep with
  | stay => exact Or.inl h
  | interrupted hphase result =>
      cases result with
      | ok _ => exact Or.inr rfl
      | error e => exact h.elim
  | @drained result hphase =>
      rw [hphase]
      cases result with
      | ok _ => exact Or.inl trivial
      | error e => exact h.elim
  | _ => exact h.elim

/-- Only a full set of receivers begins another generation. -/
theorem Step.generation_eq
    {o : Occurrence} {phase : Phase} {status : Status} (hstep : r.Step o phase status)
    (hphase : ∀ (first : Bool) (queues : QueueSet), r.phase ≠ .opening first queues) :
    status.generation = r.status.generation := by
  cases hstep with
  | opened h => exact absurd h (hphase _ _)
  | _ => rfl

end Past

end Relay
end FaultRelay
