import FaultRelay.Sqs.Transport
import Mathlib.Tactic.Common

/-!
# Whether a queue exists, as far as is known

The address of a queue is asked for once, and nothing is ever forgotten.  A queue that is known
is said to exist, whatever has become of it on the server.

**Input.** `Server.Truthful server has`: `has s queue` says that the queue exists on the server in
the state `s`, the server says so when it is asked, and no request deletes a queue.

**Invariant.** `Transport.learns_step`: a step that makes a queue known leaves a server on
which the queue exists.

**Results.**
* `Transport.reaches_afterCall`: every call is a sequence of steps, so that anybody else may change
  the server between any two of its requests.
* `Transport.exists_as_known`: what is answered about the existence of a queue.
-/

namespace FaultRelay
namespace Sqs

/-- A server that says of a queue what is the case, and deletes none by a request. -/
structure Server.Truthful {σ : Type} (server : Server σ) (has : σ → String → Prop) : Prop where
  found : ∀ (queue : String) (s : σ) (address? : Option String),
    (server (.queueAddress queue) s).1 = .ok address? → has s queue
  missing : ∀ (queue : String) (s : σ),
    (server (.queueAddress queue) s).1 = .error .queueMissing → ¬ has s queue
  created : ∀ (queue : String) (s : σ) (address? : Option String),
    (server (.createQueue queue) s).1 = .ok address? → has (server (.createQueue queue) s).2 queue
  kept : ∀ (r : Request) (s : σ) (queue : String), has s queue → has (server r s).2 queue

/-- A server answers a request for an address: it has one, or the queue does not exist. -/
def Server.Answers {σ : Type} (server : Server σ) (queue : String) (s : σ) : Prop :=
  (server (.queueAddress queue) s).1 = .error .queueMissing ∨
    ∃ address : String, (server (.queueAddress queue) s).1 = .ok (some address)

/-- A server that has queues and nothing in them. -/
def Server.ofQueues : Server (List String)
  | .listQueues .., queues => (.ok ⟨queues.map ("https://sqs.example/1/" ++ ·), none⟩, queues)
  | .queueAddress queue, queues =>
      (if queue ∈ queues then .ok (some ("https://sqs.example/1/" ++ queue))
        else .error .queueMissing, queues)
  | .createQueue queue, queues => (.ok (some ("https://sqs.example/1/" ++ queue)), queue :: queues)
  | .receiveMessages .., queues => (.ok [], queues)
  | .countMessages _, queues => (.ok (some "0"), queues)
  | .sendMessage .., queues | .deleteMessage .., queues | .releaseMessage .., queues =>
      (.ok (), queues)

theorem Server.truthful_ofQueues : Server.ofQueues.Truthful fun queues queue => queue ∈ queues where
  found queue queues address? h := by
    by_contra hnot
    simp [ofQueues, hnot] at h
  missing queue queues h := by
    intro hmem
    simp [ofQueues, hmem] at h
  created queue queues _ _ := List.mem_cons_self
  kept r queues queue h := by
    cases r with
    | createQueue name => exact List.mem_cons_of_mem name h
    | listQueues start token most => exact h
    | queueAddress name => exact h
    | sendMessage address text attributes => exact h
    | receiveMessages address most waitSeconds => exact h
    | deleteMessage address receipt => exact h
    | releaseMessage address receipt seconds => exact h
    | countMessages address => exact h

/-- Something that happens to an account. -/
inductive Step (σ : Type) where
  /-- The address of a queue is looked up, and asked for if it is not known. -/
  | find (queue : String)
  | ensure (queue : String)
  /-- Something else is asked of the server. -/
  | ask (r : Request)
  /-- Somebody else makes or deletes queues. -/
  | changed (state : σ)

def Step.IsOwn {σ : Type} : Step σ → Prop
  | changed _ => False
  | find _ | ensure _ | ask _ => True

theorem Step.isOwn_or_changed {σ : Type} (step : Step σ) :
    step.IsOwn ∨ ∃ state : σ, step = .changed state := by
  cases step with
  | changed state => exact Or.inr ⟨state, rfl⟩
  | find queue => exact Or.inl trivial
  | ensure queue => exact Or.inl trivial
  | ask r => exact Or.inl trivial

/-- What a transport is called for. -/
inductive Call where
  | exists? (queue : String)
  | length? (queue : String)
  | dispatch (ops : List Operation)
  | prepare (setup : Bool) (receivers : List ReceiverSettings) (sending : List String)
  | ensure (queue : String)

namespace Transport

variable {σ : Type} (t : Transport σ)

/-- An account after a call. -/
def afterCall (a : Account σ) : Call → Account σ
  | .exists? queue => (t.exists? queue a).2
  | .length? queue => (t.length? queue a).2
  | .dispatch ops => (t.dispatch ops a).2
  | .prepare setup receivers sending => (t.prepare setup receivers sending a).2.1
  | .ensure queue => (t.ensure queue a).2

def step (a : Account σ) : Step σ → Account σ
  | .find queue => (t.findAddress queue a).2
  | .ensure queue => (t.ensure queue a).2
  | .ask r => (a.ask t.server r).2
  | .changed state => { a with state }

/-- An account after a sequence of steps. -/
def after (steps : List (Step σ)) (a : Account σ) : Account σ :=
  steps.foldl t.step a

/-- An account becomes another one by requests of the transport. -/
def Reaches (a a' : Account σ) : Prop :=
  ∃ steps : List (Step σ), (∀ step ∈ steps, step.IsOwn) ∧ t.after steps a = a'

variable {t} {a a' a'' : Account σ} {queue : String}

/-! ### Calls are steps -/

theorem Reaches.refl (a : Account σ) : t.Reaches a a :=
  ⟨[], by simp, rfl⟩

theorem Reaches.trans (h : t.Reaches a a') (h' : t.Reaches a' a'') : t.Reaches a a'' := by
  obtain ⟨steps, hown, rfl⟩ := h
  obtain ⟨more, hmore, rfl⟩ := h'
  refine ⟨steps ++ more, ?_, List.foldl_append⟩
  intro step hmem
  rcases List.mem_append.mp hmem with hmem | hmem
  · exact hown step hmem
  · exact hmore step hmem

theorem reaches_step (t : Transport σ) (a : Account σ) {step : Step σ} (h : step.IsOwn) :
    t.Reaches a (t.step a step) :=
  ⟨[step], by simpa using h, rfl⟩

theorem reaches_ask {r : Request} {answer : Except Refusal r.Answer}
    (h : a.ask t.server r = (answer, a')) : t.Reaches a a' := by
  have hstep : t.Reaches a (t.step a (.ask r)) := t.reaches_step a trivial
  rw [step, h] at hstep
  exact hstep

theorem reaches_find {result : Except TransportError (Option String)}
    (h : t.findAddress queue a = (result, a')) : t.Reaches a a' := by
  have hstep : t.Reaches a (t.step a (.find queue)) := t.reaches_step a trivial
  rw [step, h] at hstep
  exact hstep

theorem reaches_ensure {result : Except TransportError Unit}
    (h : t.ensure queue a = (result, a')) : t.Reaches a a' := by
  have hstep : t.Reaches a (t.step a (.ensure queue)) := t.reaches_step a trivial
  rw [step, h] at hstep
  exact hstep

theorem reaches_exists? {result : Except DiscoveryError Bool}
    (h : t.exists? queue a = (result, a')) : t.Reaches a a' := by
  unfold exists? at h
  split at h
  · rename_i hfound
    cases h
    exact reaches_find hfound
  · rename_i hfound
    cases h
    exact reaches_find hfound

theorem reaches_address {result : Except TransportError String}
    (h : t.address queue a = (result, a')) : t.Reaches a a' := by
  unfold address at h
  split at h
  · rename_i hfound
    cases h
    exact reaches_find hfound
  · rename_i hfound
    cases h
    exact reaches_find hfound
  · rename_i hfound
    cases h
    exact reaches_find hfound

theorem reaches_length? {result : Except DiscoveryError Nat}
    (h : t.length? queue a = (result, a')) : t.Reaches a a' := by
  unfold length? at h
  split at h
  · rename_i haddress
    cases h
    exact reaches_address haddress
  · rename_i haddress
    refine (reaches_address haddress).trans ?_
    split at h
    · rename_i hcount
      cases h
      exact reaches_ask hcount
    · rename_i hcount
      cases h
      exact reaches_ask hcount
    · rename_i hcount
      -- what was counted is read without asking for more
      split at h
      · cases h
        exact reaches_ask hcount
      · cases h
        exact reaches_ask hcount

theorem reaches_send {op : Operation} {result : Except TransportError Unit}
    (h : t.send op a = (result, a')) : t.Reaches a a' := by
  unfold send at h
  split at h
  · rename_i haddress
    cases h
    exact reaches_address haddress
  · rename_i haddress
    refine (reaches_address haddress).trans ?_
    split at h
    · rename_i hsent
      cases h
      exact reaches_ask hsent
    · rename_i hsent
      cases h
      exact reaches_ask hsent

theorem reaches_dispatch {ops : List Operation} {result : Except TransportError Unit}
    (h : t.dispatch ops a = (result, a')) : t.Reaches a a' := by
  induction ops generalizing a with
  | nil =>
      cases h
      exact .refl _
  | cons op rest ih =>
      rw [dispatch] at h
      split at h
      · rename_i hsent
        exact (reaches_send hsent).trans (ih h)
      · rename_i hsent
        cases h
        exact reaches_send hsent

theorem reaches_ensureAll {queues : List String} {result : Except TransportError Unit}
    (h : t.ensureAll queues a = (result, a')) : t.Reaches a a' := by
  induction queues generalizing a with
  | nil =>
      cases h
      exact .refl _
  | cons queue rest ih =>
      rw [ensureAll] at h
      split at h
      · rename_i hensured
        exact (reaches_ensure hensured).trans (ih h)
      · rename_i hensured
        cases h
        exact reaches_ensure hensured

theorem reaches_findAll {receivers : List ReceiverSettings} {result : Except TransportError Unit}
    {events : List LogEvent} (h : t.findAll receivers a = (result, a', events)) :
    t.Reaches a a' := by
  induction receivers generalizing a with
  | nil =>
      cases h
      exact .refl _
  | cons r rest ih =>
      rw [findAll] at h
      split at h
      · rename_i hfound
        exact (reaches_find hfound).trans (ih h)
      · rename_i hfound
        cases h
        exact reaches_find hfound
      · rename_i hfound
        cases h
        exact reaches_find hfound

theorem reaches_probe {result : Except TransportError Unit} (h : t.probe a = (result, a')) :
    t.Reaches a a' := by
  unfold probe at h
  split at h
  · rename_i hlisted
    cases h
    exact reaches_ask hlisted
  · rename_i hlisted
    cases h
    exact reaches_ask hlisted

theorem reaches_connect (plan : Connecting.Plan) (text : TransportError → String)
    (more attempt delay : Nat) (a : Account σ) :
    t.Reaches a (Connecting.attemptFrom plan text t.probe more attempt delay a).state := by
  induction more generalizing attempt delay a with
  | zero =>
      unfold Connecting.attemptFrom
      split
      · rename_i hprobed
        exact reaches_probe hprobed
      · rename_i hprobed _
        exact reaches_probe hprobed
      · rename_i hnever
        cases hnever
  | succ more ih =>
      unfold Connecting.attemptFrom
      split
      · rename_i hprobed
        exact reaches_probe hprobed
      · rename_i hnever
        cases hnever
      · rename_i hprobed hmore
        cases hmore
        exact (reaches_probe hprobed).trans (ih _ _ _)

theorem reaches_prepare (setup : Bool) (receivers : List ReceiverSettings) (sending : List String)
    (a : Account σ) : t.Reaches a (t.prepare setup receivers sending a).2.1 := by
  have hconnected : t.Reaches a
      (Connecting.run t.plan TransportError.message t.probe a).state :=
    reaches_connect _ _ _ _ _ a
  unfold prepare
  dsimp only
  split
  · exact hconnected
  · split
    · exact hconnected.trans (reaches_ensureAll rfl)
    · exact hconnected.trans (reaches_findAll rfl)

/-- Whatever the transport is called for, its requests come one after the other. -/
theorem reaches_afterCall (a : Account σ) (call : Call) : t.Reaches a (t.afterCall a call) := by
  cases call with
  | exists? queue => exact reaches_exists? rfl
  | length? queue => exact reaches_length? rfl
  | dispatch ops => exact reaches_dispatch rfl
  | prepare setup receivers sending => exact reaches_prepare setup receivers sending a
  | ensure queue => exact reaches_ensure rfl

/-! ### What is known -/

theorem findAddress_of_mem (h : queue ∈ a.addresses) :
    ∃ address : String, t.findAddress queue a = (.ok (some address), a) := by
  obtain ⟨address, haddress⟩ := Option.isSome_iff_exists.mp
    (Std.ExtTreeMap.mem_iff_isSome_getElem?.mp h)
  exact ⟨address, by simp only [findAddress, haddress]⟩

theorem mem_addresses_learn {name address : String} :
    queue ∈ (a.learn name address).addresses ↔ queue = name ∨ queue ∈ a.addresses := by
  rw [Account.learn, Std.ExtTreeMap.mem_insert, Std.LawfulEqCmp.compare_eq_iff_eq, eq_comm]

/-- Nothing is forgotten, queues become known only while they exist, and none is deleted. -/
structure Learns (has : σ → String → Prop) (a a' : Account σ) : Prop where
  known : ∀ queue ∈ a.addresses, queue ∈ a'.addresses
  learned : ∀ queue ∈ a'.addresses, queue ∈ a.addresses ∨ has a'.state queue
  kept : ∀ queue : String, has a.state queue → has a'.state queue

section Truthful

variable {has : σ → String → Prop} (htruthful : t.server.Truthful has)

include htruthful

theorem learns_ask (r : Request) (a : Account σ) : Learns has a (a.ask t.server r).2 where
  known _ h := h
  learned _ h := Or.inl h
  kept queue h := htruthful.kept r a.state queue h

omit htruthful in
/-- The address of a queue that exists is kept. -/
theorem Learns.learn {name : String} (h : Learns has a a') (hname : has a'.state name)
    (address : String) : Learns has a (a'.learn name address) where
  known queue hmem := mem_addresses_learn.mpr (Or.inr (h.known queue hmem))
  learned queue hmem := by
    rcases mem_addresses_learn.mp hmem with rfl | hmem
    · exact Or.inr hname
    · exact h.learned queue hmem
  kept := h.kept

theorem learns_find (queue : String) (a : Account σ) :
    Learns has a (t.findAddress queue a).2 := by
  by_cases hmem : queue ∈ a.addresses
  · obtain ⟨address, hfound⟩ := findAddress_of_mem (t := t) hmem
    rw [hfound]
    exact ⟨fun _ h => h, fun _ h => Or.inl h, fun _ h => h⟩
  · have hask := learns_ask htruthful (.queueAddress queue) a
    simp only [findAddress, Std.ExtTreeMap.getElem?_eq_none hmem]
    cases hanswer : a.ask t.server (.queueAddress queue) with
    | mk answer a' =>
        rw [hanswer] at hask
        cases answer with
        | ok address? =>
            cases address? with
            | none => exact hask
            | some address =>
                have hexists : has a.state queue :=
                  htruthful.found queue a.state (some address) (congrArg Prod.fst hanswer)
                exact hask.learn (hask.kept queue hexists) address
        | error refusal =>
            cases refusal with
            | queueMissing => exact hask
            | failed reason => exact hask

theorem learns_ensure (queue : String) (a : Account σ) : Learns has a (t.ensure queue a).2 := by
  have hask := learns_ask htruthful (.createQueue queue) a
  unfold ensure
  cases hanswer : a.ask t.server (.createQueue queue) with
  | mk answer a' =>
      rw [hanswer] at hask
      cases answer with
      | ok address? =>
          cases address? with
          | none => exact hask
          | some address =>
              have hexists : has a'.state queue := by
                have hcreated := htruthful.created queue a.state (some address)
                  (congrArg Prod.fst hanswer)
                rwa [show (t.server (.createQueue queue) a.state).2 = a'.state from
                  congrArg (·.2.state) hanswer] at hcreated
              exact hask.learn hexists address
      | error refusal => exact hask

theorem learns_step {step : Step σ} (h : step.IsOwn) (a : Account σ) :
    Learns has a (t.step a step) := by
  cases step with
  | find queue => exact learns_find htruthful queue a
  | ensure queue => exact learns_ensure htruthful queue a
  | ask r => exact learns_ask htruthful r a
  | changed state => exact h.elim

/-! ### Histories -/

/-- Once a queue is known, it stays known. -/
theorem mem_addresses_after (steps : List (Step σ)) (h : queue ∈ a.addresses) :
    queue ∈ (t.after steps a).addresses := by
  induction steps generalizing a with
  | nil => exact h
  | cons step rest ih =>
      refine ih ?_
      rcases step.isOwn_or_changed with hown | ⟨state, rfl⟩
      · exact (learns_step htruthful hown a).known queue h
      · exact h

/-- A queue that has become known existed when it did. -/
theorem exists_before_of_mem_addresses {steps : List (Step σ)} (hnot : queue ∉ a.addresses)
    (h : queue ∈ (t.after steps a).addresses) :
    ∃ before rest : List (Step σ), steps = before ++ rest ∧ has (t.after before a).state queue := by
  induction steps generalizing a with
  | nil => exact absurd h hnot
  | cons step rest ih =>
      by_cases hmem : queue ∈ (t.step a step).addresses
      · rcases step.isOwn_or_changed with hown | ⟨state, rfl⟩
        · rcases (learns_step htruthful hown a).learned queue hmem with hbefore | hexists
          · exact absurd hbefore hnot
          · exact ⟨[step], rest, rfl, hexists⟩
        · exact absurd hmem hnot
      · obtain ⟨before, more, rfl, hexists⟩ := ih hmem h
        exact ⟨step :: before, more, rfl, hexists⟩

/-- A known queue exists, if it did at first and nobody has deleted it. -/
theorem has_of_mem_addresses {steps : List (Step σ)}
    (hdeleted : ∀ (before : List (Step σ)) (state : σ) (rest : List (Step σ)),
      steps = before ++ .changed state :: rest → has (t.after before a).state queue →
        has state queue)
    (hfirst : queue ∈ a.addresses → has a.state queue)
    (h : queue ∈ (t.after steps a).addresses) : has (t.after steps a).state queue := by
  induction steps generalizing a with
  | nil => exact hfirst h
  | cons step rest ih =>
      refine ih ?_ ?_ h
      · intro before state more hsteps
        exact hdeleted (step :: before) state more (by rw [hsteps]; rfl)
      · intro hmem
        rcases step.isOwn_or_changed with hown | ⟨state, rfl⟩
        · have hlearns := learns_step htruthful hown a
          rcases hlearns.learned queue hmem with hbefore | hexists
          · exact hlearns.kept queue (hfirst hbefore)
          · exact hexists
        · exact hdeleted [] state rest rfl (hfirst hmem)

/-! ### Answers -/

omit htruthful in
/-- A queue that is known is not asked for. -/
theorem exists?_of_mem (h : queue ∈ a.addresses) : t.exists? queue a = (.ok true, a) := by
  obtain ⟨address, hfound⟩ := findAddress_of_mem (t := t) h
  simp only [exists?, hfound, Option.isSome_some]

omit htruthful in
/-- What is answered about a queue that is not known. -/
theorem exists?_cases (h : queue ∉ a.addresses) :
    (∃ address : String, (t.server (.queueAddress queue) a.state).1 = .ok (some address) ∧
        (t.exists? queue a).1 = .ok true ∧ queue ∈ (t.exists? queue a).2.addresses) ∨
      ((t.server (.queueAddress queue) a.state).1 = .error .queueMissing ∧
        (t.exists? queue a).1 = .ok false) ∨
      (¬ t.server.Answers queue a.state ∧
        ∃ e : DiscoveryError, (t.exists? queue a).1 = .error e) := by
  simp only [exists?, Server.Answers, findAddress, Std.ExtTreeMap.getElem?_eq_none h]
  cases hanswer : a.ask t.server (.queueAddress queue) with
  | mk answer a' =>
      have hserver : (t.server (.queueAddress queue) a.state).1 = answer :=
        congrArg Prod.fst hanswer
      rw [hserver]
      cases answer with
      | ok address? =>
          cases address? with
          | none => exact Or.inr (Or.inr ⟨by simp, _, rfl⟩)
          | some address =>
              exact Or.inl ⟨address, rfl, rfl, mem_addresses_learn.mpr (Or.inl rfl)⟩
      | error refusal =>
          cases refusal with
          | queueMissing => exact Or.inr (Or.inl ⟨rfl, rfl⟩)
          | failed reason => exact Or.inr (Or.inr ⟨by simp, _, rfl⟩)

/-- What is answered about a queue that is not known is what is the case. -/
theorem exists?_of_notMem (h : queue ∉ a.addresses) {found : Bool}
    (hfound : (t.exists? queue a).1 = .ok found) :
    (found = true ↔ has a.state queue) ∧
      (found = true → queue ∈ (t.exists? queue a).2.addresses) := by
  rcases t.exists?_cases h with ⟨address, hserver, htrue, hmem⟩ | ⟨hserver, hfalse⟩ | ⟨-, e, herror⟩
  · rw [htrue] at hfound
    cases hfound
    exact ⟨by simp [htruthful.found queue a.state _ hserver], fun _ => hmem⟩
  · rw [hfalse] at hfound
    cases hfound
    exact ⟨by simp [htruthful.missing queue a.state hserver], by simp⟩
  · rw [herror] at hfound
    cases hfound

/--
What is answered about the existence of a queue, after any calls and any changes of the server.
A queue that is not known is asked for, and the answer is what is the case.  A queue that is known
has existed; it is not asked for, and from then on it is always said to exist, so that the answer is
what is the case as long as nobody deletes the queue.
-/
theorem exists_as_known (s : σ) (history : List (Step σ)) (queue : String) :
    let first : Account σ := { state := s }
    let now := t.after history first
    (queue ∈ now.addresses → t.exists? queue now = (.ok true, now) ∧
      ∃ before rest : List (Step σ), history = before ++ rest ∧
        has (t.after before first).state queue) ∧
    (queue ∉ now.addresses →
      ((∃ found : Bool, (t.exists? queue now).1 = .ok found) ↔
        t.server.Answers queue now.state) ∧
      ∀ found : Bool, (t.exists? queue now).1 = .ok found →
        (found = true ↔ has now.state queue)) ∧
    ((t.exists? queue now).1 = .ok true →
      ∀ more : List (Step σ),
        (t.exists? queue (t.after more (t.exists? queue now).2)).1 = .ok true) ∧
    ((∀ (before : List (Step σ)) (state : σ) (rest : List (Step σ)),
        history = before ++ .changed state :: rest →
          has (t.after before first).state queue → has state queue) →
      ∀ found : Bool, (t.exists? queue now).1 = .ok found →
        (found = true ↔ has now.state queue)) ∧
    ∀ call : Call, ∃ steps : List (Step σ), (∀ step ∈ steps, step.IsOwn) ∧
      t.after steps now = t.afterCall now call := by
  intro first now
  have hnot : queue ∉ first.addresses := Std.ExtTreeMap.not_mem_empty
  refine ⟨fun hmem => ?_, fun hmem => ⟨?_, ?_⟩, fun htrue more => ?_,
    fun hdeleted found hfound => ?_, reaches_afterCall now⟩
  · exact ⟨exists?_of_mem hmem, exists_before_of_mem_addresses htruthful hnot hmem⟩
  · rcases t.exists?_cases hmem with
      ⟨address, hserver, htrue, -⟩ | ⟨hserver, hfalse⟩ | ⟨hanswers, e, herror⟩
    · exact ⟨fun _ => Or.inr ⟨address, hserver⟩, fun _ => ⟨true, htrue⟩⟩
    · exact ⟨fun _ => Or.inl hserver, fun _ => ⟨false, hfalse⟩⟩
    · rw [herror]
      exact ⟨nofun, fun h => absurd h hanswers⟩
  · intro found hfound
    exact (exists?_of_notMem htruthful hmem hfound).1
  · have hlearned : queue ∈ (t.exists? queue now).2.addresses := by
      by_cases hmem : queue ∈ now.addresses
      · rw [exists?_of_mem hmem]
        exact hmem
      · exact (exists?_of_notMem htruthful hmem htrue).2 rfl
    rw [exists?_of_mem (mem_addresses_after htruthful more hlearned)]
  · by_cases hmem : queue ∈ now.addresses
    · have hexists : has now.state queue :=
        has_of_mem_addresses htruthful hdeleted (absurd · hnot) hmem
      rw [exists?_of_mem hmem] at hfound
      cases hfound
      simp [hexists]
    · exact (exists?_of_notMem htruthful hmem hfound).1

end Truthful

/-- A queue that was found and then deleted is said to exist for ever. -/
theorem exists_as_known_deleted :
    let t : Transport (List String) := ⟨{}, Server.ofQueues⟩
    let history : List (Step (List String)) := [.find "orders_error", .changed []]
    let now := t.after history { state := ["orders_error"] }
    t.server.Truthful (fun queues queue => queue ∈ queues) ∧
      t.exists? "orders_error" now = (.ok true, now) ∧
      ∀ more : List (Step (List String)),
        (t.exists? "orders_error" (t.after more now)).1 = .ok true := by
  intro t history now
  have hmem : "orders_error" ∈ now.addresses := by decide +kernel
  obtain ⟨hknown, -, hstays, -⟩ :=
    exists_as_known (t := t) Server.truthful_ofQueues ["orders_error"] history "orders_error"
  have hanswer := (hknown hmem).1
  refine ⟨Server.truthful_ofQueues, hanswer, fun more => ?_⟩
  have hmore := hstays (congrArg Prod.fst hanswer) more
  rwa [hanswer] at hmore

/-- A queue that was found and then deleted is said to exist, though the server has none. -/
theorem exists_outdated :
    let t : Transport (List String) := ⟨{}, Server.ofQueues⟩
    let found := t.afterCall { state := ["orders_error"] } (.exists? "orders_error")
    let now : Account (List String) := { found with state := [] }
    t.server.Truthful (fun queues queue => queue ∈ queues) ∧
      t.server.Answers "orders_error" now.state ∧
      ¬ ((t.exists? "orders_error" now).1 = .ok true ↔ "orders_error" ∈ now.state) := by
  intro t found now
  have hmem : "orders_error" ∈ now.addresses := by decide +kernel
  refine ⟨Server.truthful_ofQueues, Or.inl rfl, ?_⟩
  rw [exists?_of_mem hmem]
  simp [now]

end Transport
end Sqs
end FaultRelay
