import FaultRelay.Proofs.Delivery.Rounds
import Mathlib.Data.List.Induction

/-!
# Retrying and giving up

**Result.** `Route.follow_retried`: a delivery that nobody stops is over with the first
operation that is accepted; a message that cannot be converted goes to the poison queue
after every attempt, any other one only when its conversion was refused too often; and
what goes to the poison queue is the message as it was received.
-/

namespace FaultRelay
namespace Route

variable {β : Type} {r : Route} {m : Received}
  {cs : List (Except ConversionError Operation)}

/-- The beginning of a round of a message that can be converted. -/
inductive Beginning (r : Route) (m : Received) (before : Nat) : List Deed → Prop
  | none : Beginning r m before []
  | refused (op : Operation) (hop : r.IsConversion m (.ok op)) :
      Beginning r m before [.attempted, .asked [op] false]
  | accepted (op : Operation) (hop : r.IsConversion m (.ok op)) :
      Beginning r m before [.attempted, .asked [op] true]
  | poisoned (op : Operation) (hop : r.IsConversion m (.ok op))
      (hbefore : r.backoff.maxRetries ≤ before) :
      Beginning r m before
        [.attempted, .asked [op] false, .asked [m.toPoison r.poisonQueue] true]

/-- How a delivery that nobody stops stands after a number of steps. -/
structure Retried (r : Route) (m : Received) (steps : Nat) (d : Delivery)
    (deeds : List Deed) : Prop where
  /-- It is over once something was accepted. -/
  over_iff : d.isOver = true ↔ ∃ ops : List Operation, .asked ops true ∈ deeds
  completed : d.isOver = true → d.stage = .completed
  /-- Nothing is done after something was accepted. -/
  accepted_last : ∀ (before : List Deed) (ops : List Operation) (after : List Deed),
    deeds = before ++ .asked ops true :: after → after = []
  /-- A message that cannot be converted goes to the poison queue after every attempt. -/
  unconverted : ∀ (now : Time.Instant) (e : ConversionError), r.conversion m now = .error e →
    ∃ (rounds : Nat) (last : List Deed),
      deeds = (List.replicate rounds
        [.attempted, .asked [m.toPoison r.poisonQueue] false]).flatten ++ last ∧
      last ∈ [[], [.attempted], [.attempted, .asked [m.toPoison r.poisonQueue] true]]
  /-- A conversion is refused more often than it may be tried again before the message goes
  to the poison queue, which it does after every attempt from then on. -/
  converted : ∀ (now : Time.Instant) (op : Operation), r.conversion m now = .ok op →
    ∃ (ops : List Operation) (last : List Deed),
      deeds = r.refusedRounds m (ops.map .ok) ++ last ∧
      (∀ op ∈ ops, r.IsConversion m (.ok op)) ∧ r.Beginning m ops.length last
  /-- Nothing else is sent than conversions and copies of the message as it was received. -/
  asked : ∀ (ops : List Operation) (accepted : Bool), .asked ops accepted ∈ deeds →
    (∃ op : Operation, ops = [op] ∧ r.IsConversion m (.ok op)) ∨
      ops = [⟨r.poisonQueue, m.nativeId, m.headers, m.body,
        Headers.ofPairs [(Property.messageId, m.nativeId)]⟩]
  /-- What it waits for depends on the failures; with no jitter it is the base delay. -/
  delayed : ∀ delay : Nat, d.stage = .waiting delay →
    delay = r.backoff.delayAfter r.part d.failures ∧
      (r.backoff.jitter = 0 →
        delay = r.backoff.baseDelayAfter d.failures * Backoff.nanosPerMilli)
  /-- Every third step at least asks the broker for something. -/
  progress : d.isOver = false → steps ≤ 3 * deeds.countP Deed.isAsked + 1

variable (r m cs) in
/-- Nothing is accepted in rounds in which everything is refused. -/
theorem accepted_notMem_refusedRounds (ops : List Operation) :
    .asked ops true ∉ r.refusedRounds m cs := by
  intro hmem
  obtain ⟨⟨c, before⟩, -, hround⟩ := List.mem_flatMap.mp hmem
  cases c with
  | error e => simp [refusedRound] at hround
  | ok op =>
      by_cases hbefore : before < r.backoff.maxRetries
      · simp [refusedRound, hbefore] at hround
      · simp [refusedRound, hbefore] at hround

/-- A round in which something is accepted ends with that. -/
theorem AcceptedRound.exists_eq_concat
    {before : Nat} {c : Except ConversionError Operation} {last : List Deed}
    (h : r.AcceptedRound m before c last) :
    ∃ (init : List Deed) (ops : List Operation), last = init ++ [.asked ops true] ∧
      ∀ ops' : List Operation, .asked ops' true ∉ init := by
  cases h with
  | unconverted e => exact ⟨[.attempted], _, rfl, by simp⟩
  | converted op => exact ⟨[.attempted], _, rfl, by simp⟩
  | poisoned op hbefore => exact ⟨[.attempted, .asked [op] false], _, rfl, by simp⟩

section Done

variable {steps : Nat} {d : Delivery} {deeds : List Deed}

theorem Done.isOver_iff (hdone : r.Done m cs steps d deeds) :
    d.isOver = true ↔ ∃ ops : List Operation, .asked ops true ∈ deeds := by
  have hrounds := accepted_notMem_refusedRounds r m cs
  cases hdone with
  | attempting hstage => simp [Delivery.isOver, hstage, hrounds]
  | waiting hstage => simp [Delivery.isOver, hstage, hrounds]
  | unconverted hstage => simp [Delivery.isOver, hstage, hrounds]
  | refused hstage => simp [Delivery.isOver, hstage, hrounds]
  | completed hstage hc hlast =>
      obtain ⟨init, ops, rfl, -⟩ := hlast.exists_eq_concat
      refine iff_of_true (by simp [Delivery.isOver, hstage]) ⟨ops, by simp⟩

theorem Done.accepted_last
    (hdone : r.Done m cs steps d deeds) {before after : List Deed} {ops : List Operation}
    (hsplit : deeds = before ++ .asked ops true :: after) : after = [] := by
  have hmem : .asked ops true ∈ deeds := by simp [hsplit]
  have hover := hdone.isOver_iff.mpr ⟨ops, hmem⟩
  cases hdone with
  | attempting hstage => simp [Delivery.isOver, hstage] at hover
  | waiting hstage => simp [Delivery.isOver, hstage] at hover
  | unconverted hstage => simp [Delivery.isOver, hstage] at hover
  | refused hstage => simp [Delivery.isOver, hstage] at hover
  | completed hstage hc hlast =>
      obtain ⟨init, ops', rfl, hinit⟩ := hlast.exists_eq_concat
      rcases List.eq_nil_or_concat after with hnil | ⟨after', x, hconcat⟩
      · exact hnil
      · exfalso
        rw [hconcat, List.concat_eq_append, ← List.append_assoc, ← List.cons_append,
          ← List.append_assoc] at hsplit
        have hearlier := (List.append_inj' hsplit rfl).1
        have hin : .asked ops true ∈ r.refusedRounds m cs ++ init := by simp [hearlier]
        rcases List.mem_append.mp hin with hin | hin
        · exact accepted_notMem_refusedRounds r m cs ops hin
        · exact hinit ops hin

/-- The conversions of a message that cannot be converted all fail. -/
theorem forall_error_of_conversion
    {now : Time.Instant} {e : ConversionError} (he : r.conversion m now = .error e)
    (hcs : ∀ c ∈ cs, r.IsConversion m c) :
    cs = List.replicate cs.length (.error e) := by
  refine List.eq_replicate_of_mem ?_
  intro c hc
  obtain ⟨later, hlater⟩ := hcs c hc
  rw [← hlater, conversion_eq_error r he later]

theorem refusedRounds_replicate_error (e : ConversionError) (n : Nat) :
    r.refusedRounds m (List.replicate n (.error e)) =
      (List.replicate n [.attempted, .asked [m.toPoison r.poisonQueue] false]).flatten := by
  induction n with
  | zero => rfl
  | succ n ih =>
      rw [List.replicate_succ', refusedRounds_concat, ih, refusedRound, List.replicate_succ',
        List.flatten_append, List.flatten_singleton]

/-- The conversions of a message that can be converted all succeed. -/
theorem exists_ok_of_conversion
    {now : Time.Instant} {op : Operation} (hop : r.conversion m now = .ok op)
    (hcs : ∀ c ∈ cs, r.IsConversion m c) :
    ∃ ops : List Operation, cs = ops.map .ok ∧ ∀ op ∈ ops, r.IsConversion m (.ok op) := by
  induction cs with
  | nil => exact ⟨[], rfl, by simp⟩
  | cons c cs ih =>
      obtain ⟨ops, rfl, hops⟩ := ih fun c' hc' => hcs c' (List.mem_cons_of_mem c hc')
      obtain ⟨later, hlater⟩ := hcs c List.mem_cons_self
      cases c with
      | error e =>
          rw [conversion_eq_error r hlater now] at hop
          cases hop
      | ok op' =>
          refine ⟨op' :: ops, rfl, ?_⟩
          intro op'' hmem
          rcases List.mem_cons.mp hmem with rfl | hmem
          · exact ⟨later, hlater⟩
          · exact hops op'' hmem

theorem Done.unconverted_rounds
    (hcs : ∀ c ∈ cs, r.IsConversion m c) (hdone : r.Done m cs steps d deeds)
    {now : Time.Instant} {e : ConversionError} (he : r.conversion m now = .error e) :
    ∃ (rounds : Nat) (last : List Deed),
      deeds = (List.replicate rounds
        [.attempted, .asked [m.toPoison r.poisonQueue] false]).flatten ++ last ∧
      last ∈ [[], [.attempted], [.attempted, .asked [m.toPoison r.poisonQueue] true]] := by
  have hnot : ∀ op : Operation, ¬ r.IsConversion m (.ok op) := by
    rintro op ⟨later, hlater⟩
    rw [conversion_eq_error r he later] at hlater
    cases hlater
  have hrounds : r.refusedRounds m cs = (List.replicate cs.length
      [.attempted, .asked [m.toPoison r.poisonQueue] false]).flatten := by
    rw [forall_error_of_conversion he hcs, refusedRounds_replicate_error, List.length_replicate]
  refine ⟨cs.length, ?_⟩
  rw [← hrounds]
  cases hdone with
  | attempting => exact ⟨[], (List.append_nil _).symm, by simp⟩
  | waiting => exact ⟨[], (List.append_nil _).symm, by simp⟩
  | unconverted => exact ⟨[.attempted], rfl, by simp⟩
  | refused hstage hfailures hsteps hc => exact absurd hc (hnot _)
  | completed hstage hc hlast =>
      cases hlast with
      | unconverted e' => exact ⟨_, rfl, by simp⟩
      | converted op => exact absurd hc (hnot op)
      | poisoned op => exact absurd hc (hnot op)

theorem Done.converted_rounds
    (hcs : ∀ c ∈ cs, r.IsConversion m c) (hdone : r.Done m cs steps d deeds)
    {now : Time.Instant} {op : Operation} (hop : r.conversion m now = .ok op) :
    ∃ (ops : List Operation) (last : List Deed),
      deeds = r.refusedRounds m (ops.map .ok) ++ last ∧
      (∀ op ∈ ops, r.IsConversion m (.ok op)) ∧ r.Beginning m ops.length last := by
  have hnot : ∀ e : ConversionError, ¬ r.IsConversion m (.error e) := by
    rintro e ⟨later, hlater⟩
    rw [conversion_eq_error r hlater now] at hop
    cases hop
  obtain ⟨ops, rfl, hops⟩ := exists_ok_of_conversion hop hcs
  refine ⟨ops, ?_⟩
  cases hdone with
  | attempting => exact ⟨[], (List.append_nil _).symm, hops, .none⟩
  | waiting => exact ⟨[], (List.append_nil _).symm, hops, .none⟩
  | unconverted hstage hfailures hsteps hc => exact absurd hc (hnot _)
  | refused hstage hfailures hsteps hc => exact ⟨_, rfl, hops, .refused _ hc⟩
  | completed hstage hc hlast =>
      cases hlast with
      | unconverted e => exact absurd hc (hnot e)
      | converted op => exact ⟨_, rfl, hops, .accepted op hc⟩
      | poisoned op hbefore =>
          rw [List.length_map] at hbefore
          exact ⟨_, rfl, hops, .poisoned op hc hbefore⟩

/-- Rounds in which everything is refused offer conversions and copies of the message. -/
theorem asked_eq_of_mem_refusedRounds
    (hcs : ∀ c ∈ cs, r.IsConversion m c) {ops : List Operation} {accepted : Bool}
    (hmem : .asked ops accepted ∈ r.refusedRounds m cs) :
    (∃ op : Operation, ops = [op] ∧ r.IsConversion m (.ok op)) ∨
      ops = [m.toPoison r.poisonQueue] := by
  obtain ⟨⟨c, before⟩, hc, hround⟩ := List.mem_flatMap.mp hmem
  have hconversion := hcs c (List.fst_mem_of_mem_zipIdx hc)
  cases c with
  | error e =>
      simp only [refusedRound, List.mem_cons, reduceCtorEq, Deed.asked.injEq, List.not_mem_nil,
        or_false, false_or] at hround
      exact Or.inr hround.1
  | ok op =>
      rcases List.mem_cons.mp hround with hround | hround
      · cases hround
      rcases List.mem_cons.mp hround with hround | hround
      · cases hround
        exact Or.inl ⟨op, rfl, hconversion⟩
      · by_cases hbefore : before < r.backoff.maxRetries
        · rw [if_pos hbefore] at hround
          cases hround
        · rw [if_neg hbefore, List.mem_singleton] at hround
          cases hround
          exact Or.inr rfl

/-- So does a round in which something is accepted. -/
theorem AcceptedRound.asked_eq
    {before : Nat} {c : Except ConversionError Operation} {last : List Deed}
    (h : r.AcceptedRound m before c last) (hc : r.IsConversion m c) {ops : List Operation}
    {accepted : Bool} (hmem : .asked ops accepted ∈ last) :
    (∃ op : Operation, ops = [op] ∧ r.IsConversion m (.ok op)) ∨
      ops = [m.toPoison r.poisonQueue] := by
  cases h with
  | unconverted e =>
      simp only [List.mem_cons, reduceCtorEq, Deed.asked.injEq, List.not_mem_nil, or_false,
        false_or] at hmem
      exact Or.inr hmem.1
  | converted op =>
      simp only [List.mem_cons, reduceCtorEq, Deed.asked.injEq, List.not_mem_nil, or_false,
        false_or] at hmem
      exact Or.inl ⟨op, hmem.1, hc⟩
  | poisoned op =>
      simp only [List.mem_cons, reduceCtorEq, Deed.asked.injEq, List.not_mem_nil, or_false,
        false_or] at hmem
      rcases hmem with hmem | hmem
      · exact Or.inl ⟨op, hmem.1, hc⟩
      · exact Or.inr hmem.1

theorem Done.asked_eq
    (hcs : ∀ c ∈ cs, r.IsConversion m c) (hdone : r.Done m cs steps d deeds)
    {ops : List Operation} {accepted : Bool} (hmem : .asked ops accepted ∈ deeds) :
    (∃ op : Operation, ops = [op] ∧ r.IsConversion m (.ok op)) ∨
      ops = [m.toPoison r.poisonQueue] := by
  cases hdone with
  | attempting => exact asked_eq_of_mem_refusedRounds hcs hmem
  | waiting => exact asked_eq_of_mem_refusedRounds hcs hmem
  | unconverted =>
      rcases List.mem_append.mp hmem with hmem | hmem
      · exact asked_eq_of_mem_refusedRounds hcs hmem
      · simp at hmem
  | refused hstage hfailures hsteps hc =>
      rcases List.mem_append.mp hmem with hmem | hmem
      · exact asked_eq_of_mem_refusedRounds hcs hmem
      · simp only [List.mem_cons, reduceCtorEq, Deed.asked.injEq, List.not_mem_nil, or_false,
          false_or] at hmem
        exact Or.inl ⟨_, hmem.1, hc⟩
  | completed hstage hc hlast =>
      rcases List.mem_append.mp hmem with hmem | hmem
      · exact asked_eq_of_mem_refusedRounds hcs hmem
      · exact hlast.asked_eq hc hmem

variable (r m cs) in
/-- Every refused round asks the broker for something. -/
theorem length_le_countP_refusedRounds :
    cs.length ≤ (r.refusedRounds m cs).countP Deed.isAsked := by
  induction cs using List.reverseRecOn with
  | nil => exact Nat.zero_le _
  | append_singleton cs c ih =>
      have hround : 0 < (r.refusedRound m cs.length c).countP Deed.isAsked := by
        cases c with
        | error e => simp [refusedRound, Deed.isAsked]
        | ok op => simp [refusedRound, Deed.isAsked, List.countP_cons]
      rw [refusedRounds_concat, List.countP_append, List.length_append, List.length_singleton]
      omega

theorem Done.steps_le
    (hdone : r.Done m cs steps d deeds) (hover : d.isOver = false) :
    steps ≤ 3 * deeds.countP Deed.isAsked + 1 := by
  have hrounds := length_le_countP_refusedRounds r m cs
  cases hdone with
  | attempting hstage hfailures hsteps => omega
  | waiting hstage hfailures hsteps => omega
  | unconverted hstage hfailures hsteps =>
      rw [List.countP_append]
      omega
  | refused hstage hfailures hsteps =>
      rw [List.countP_append]
      omega
  | completed hstage => simp [Delivery.isOver, hstage] at hover

theorem Done.delay_eq
    (hdone : r.Done m cs steps d deeds) {delay : Nat} (hstage : d.stage = .waiting delay) :
    delay = r.backoff.delayAfter r.part d.failures := by
  cases hdone with
  | attempting hstage' => simp [hstage'] at hstage
  | waiting hstage' hfailures =>
      rw [hstage'] at hstage
      cases hstage
      rw [hfailures]
  | unconverted hstage' => simp [hstage'] at hstage
  | refused hstage' => simp [hstage'] at hstage
  | completed hstage' => simp [hstage'] at hstage

theorem Done.stage_completed
    (hdone : r.Done m cs steps d deeds) (hover : d.isOver = true) : d.stage = .completed := by
  cases hdone with
  | attempting hstage => simp [Delivery.isOver, hstage] at hover
  | waiting hstage => simp [Delivery.isOver, hstage] at hover
  | unconverted hstage => simp [Delivery.isOver, hstage] at hover
  | refused hstage => simp [Delivery.isOver, hstage] at hover
  | completed hstage => exact hstage

end Done

/-- With no jitter a delay is the base delay. -/
theorem delayAfter_of_jitter_zero
    (b : Backoff) (hjitter : b.jitter = 0) (part : Float) (failures : Nat) :
    b.delayAfter part failures = b.baseDelayAfter failures * Backoff.nanosPerMilli := by
  have hspread : ¬ 0 < b.spread := by
    rw [Backoff.spread, hjitter]
    decide
  rw [Backoff.delayAfter, if_neg hspread]

/--
However a broker answers, a delivery that nobody stops is over with the first operation
that is accepted; whatever the attempts did to their copies of the message, what goes to
the poison queue is the message as it was received.
-/
theorem follow_retried
    (r : Route) (dispatch : Dispatch β) (m : Received) (hfailures : m.failures = 0)
    (calendar : Nat → Time.Instant) (s : Site β) (n : Nat) :
    let noted := Timed.follow (r.observed dispatch) calendar m { s with broker := (s.broker, []) } n
    r.Retried m n noted.delivery noted.deeds ∧
      noted.forget = Timed.follow (r.handler dispatch) calendar m s n ∧
      Timed.deliver (r.handler dispatch) none m s n =
        Timed.follow (r.handler dispatch) (fun _ => s.now) m s n := by
  intro noted
  obtain ⟨cs, hcs, hdone⟩ :=
    done_follow r dispatch hfailures calendar
      { s with broker := (s.broker, []) } rfl n
  refine ⟨?_, follow_forget calendar m _ n, deliver_eq_follow dispatch m s n⟩
  exact {
    over_iff := hdone.isOver_iff
    completed := hdone.stage_completed
    accepted_last := fun _ _ _ hsplit => hdone.accepted_last hsplit
    unconverted := fun _ _ he => hdone.unconverted_rounds hcs he
    converted := fun _ _ hop => hdone.converted_rounds hcs hop
    asked := fun _ _ hmem => hdone.asked_eq hcs hmem
    delayed := by
      intro delay hstage
      have hdelay := hdone.delay_eq hstage
      refine ⟨hdelay, fun hjitter => ?_⟩
      rw [hdelay, delayAfter_of_jitter_zero r.backoff hjitter]
    progress := hdone.steps_le }

/-- A message without headers cannot be returned; its first copy is refused. -/
theorem follow_retried_unconverted :
    let r : Route :=
      ⟨.giveBack, ⟨"error", "Retry.Return", .rabbitMq⟩, ⟨10, 100, 2, 0⟩, "poison", 0⟩
    let m : Received := ⟨"native-1", ∅, "raw".toUTF8, "Retry.Return", 0⟩
    let answers : Dispatch (List Bool) := fun _ script =>
      (if script.headD true then .ok () else .error (.connection "closed"), script.tail)
    let noted := Timed.follow (r.observed answers) (fun _ => ⟨0, 0⟩) m
      ⟨([false, true], []), [], ⟨0, 0⟩⟩ 5
    m.failures = 0 ∧ r.Retried m 5 noted.delivery noted.deeds ∧
      noted.deeds =
        [.attempted, .asked [m.toPoison "poison"] false,
          .attempted, .asked [m.toPoison "poison"] true] := by
  intro r m answers noted
  have hretried := follow_retried r answers m rfl (fun _ => ⟨0, 0⟩) ⟨[false, true], [], ⟨0, 0⟩⟩ 5
  exact ⟨rfl, hretried.1, rfl⟩

end Route
end FaultRelay
