import FaultRelay.Proofs.Sqs.Unreadable

/-!
# What becomes of the messages of a batch

A batch is settled message by message.  What is done with its messages is told as a list of
deeds, each of which names the place of its message in the batch.  A deed is a delivery, or what
was asked of the server and how the server answered.

**Rules.**
* `Consumer.Does c batch s d s'`: in the site `s` the consumer does the deed `d`, which leaves the
  site `s'`.
* `Fates batch fates goesOn`: what may become of the messages of a batch.  They are dealt with in
  their order, up to one whose delivery is given up, and all after it are released.

**Results.**
* `Consumer.exists_fates`: settling a batch is doing the deeds of such fates, one after the other.
* `Consumer.DoesAll.settlements_eq`: the requests that settle messages, when the consumer settles
  alone.
* `Consumer.settled`: what is deleted, released, delivered and left alone of a batch.
-/

namespace FaultRelay
namespace Sqs

/-- Something that is done with the message at a place of a batch. -/
inductive Deed where
  | deliver (place : Nat) (ending : Ending)
  /-- The message is sent to the poison queue, which accepts it or not. -/
  | poison (place : Nat) (accepted : Bool)
  | delete (place : Nat)
  /-- The message is made visible to others at once. -/
  | release (place : Nat)
  deriving DecidableEq, Repr

/-- The place of the message that something is done with. -/
def Deed.place : Deed → Nat
  | deliver place _ | poison place _ | delete place | release place => place

/-- The request that settles the message of a deed; a delivery or a copy settles nothing. -/
def Deed.settlement? (address : String) (batch : List Parcel) : Deed → Option Request
  | delete place => (batch[place]?.bind Parcel.receipt).map (.deleteMessage address)
  | release place => (batch[place]?.bind Parcel.receipt).map (.releaseMessage address · 0)
  | deliver _ _ | poison _ _ => none

theorem Deed.settlement?_delete
    {batch : List Parcel} {place : Nat} {p : Parcel} {receipt : String}
    (hplace : batch[place]? = some p) (hreceipt : p.receipt = some receipt) (address : String) :
    (delete place).settlement? address batch = some (.deleteMessage address receipt) := by
  rw [settlement?, hplace, Option.bind_some, hreceipt, Option.map_some]

theorem Deed.settlement?_release
    {batch : List Parcel} {place : Nat} {p : Parcel} {receipt : String}
    (hplace : batch[place]? = some p) (hreceipt : p.receipt = some receipt) (address : String) :
    (release place).settlement? address batch = some (.releaseMessage address receipt 0) := by
  rw [settlement?, hplace, Option.bind_some, hreceipt, Option.map_some]

/-- What becomes of a message of a batch. -/
inductive Fate where
  /-- Without a receipt, nothing can be done with it. -/
  | passedOver
  | completed
  | poisoned
  /-- The poison queue did not accept it. -/
  | left
  | abandoned
  /-- The delivery of a message before it was given up. -/
  | released
  deriving DecidableEq, Repr

/-- What is done with the message at a place. -/
def Fate.deeds (place : Nat) : Fate → List Deed
  | passedOver => []
  | completed => [.deliver place .completed, .delete place]
  | poisoned => [.poison place true, .delete place]
  | left => [.poison place false]
  | abandoned => [.deliver place .abandoned, .release place]
  | released => [.release place]

/-- The fates that ask for a deed. -/
def Deed.fates : Deed → List Fate
  | deliver _ .completed => [.completed]
  | deliver _ .abandoned => [.abandoned]
  | poison _ true => [.poisoned]
  | poison _ false => [.left]
  | delete _ => [.completed, .poisoned]
  | release _ => [.abandoned, .released]

/-- What is done with messages, the first of which stands at a place. -/
def deedsFrom : Nat → List Fate → List Deed
  | _, [] => []
  | place, f :: rest => f.deeds place ++ deedsFrom (place + 1) rest

/-- What becomes of a message after a delivery was given up. -/
def Parcel.givenUp (p : Parcel) : Fate :=
  if p.receipt.isSome then .released else .passedOver

/-- What may become of the messages of a batch, and whether more is to be received then. -/
inductive Fates : List Parcel → List Fate → Bool → Prop
  | done : Fates [] [] true
  | pass {p : Parcel} {rest : List Parcel} {fates : List Fate} {goesOn : Bool}
      (hreceipt : p.receipt = none) (h : Fates rest fates goesOn) :
      Fates (p :: rest) (.passedOver :: fates) goesOn
  | settle {p : Parcel} {rest : List Parcel} {f : Fate} {fates : List Fate} {goesOn : Bool}
      (hreceipt : p.receipt ≠ none) (hf : f ∈ [.completed, .poisoned, .left])
      (h : Fates rest fates goesOn) : Fates (p :: rest) (f :: fates) goesOn
  | giveUp {p : Parcel} {rest : List Parcel} (hreceipt : p.receipt ≠ none) :
      Fates (p :: rest) (.abandoned :: rest.map Parcel.givenUp) false

namespace Consumer

variable {σ : Type}

/--
A deed, in terms of the handler and of what is asked of the server.  A message whose deletion or
release is refused has had its request all the same.
-/
inductive Does (c : Consumer σ) (batch : List Parcel) :
    Site (Account σ) → Deed → Site (Account σ) → Prop
  | deliver {s s' : Site (Account σ)} {place : Nat} {p : Parcel} {m : Received} {ending : Ending}
      (hplace : batch[place]? = some p) (hreceipt : p.receipt ≠ none)
      (hread : decodeMessage p.attributes p.text p.nativeId c.settings.address = .ok m)
      (hdeliver : c.deliver m s = (ending, s')) :
      Does c batch s (.deliver place ending) s'
  | poison {s : Site (Account σ)} {place : Nat} {p : Parcel} {why : Unreadable}
      {unread : Received} {accepted : Bool} {a : Account σ} {events : List LogEvent}
      (hplace : batch[place]? = some p) (hreceipt : p.receipt ≠ none)
      (hread : decodeMessage p.attributes p.text p.nativeId c.settings.address =
        .error (why, unread))
      (hsent : c.transport.Sends c.settings.errorQueue p.text
        (encodeAttributes p.attributes none false) s.broker accepted a) :
      Does c batch s (.poison place accepted) ({ s with broker := a }.report events)
  | delete {s : Site (Account σ)} {place : Nat} {p : Parcel} {receipt : String}
      {answer : Except Refusal Unit} {a : Account σ} {events : List LogEvent}
      (hplace : batch[place]? = some p) (hreceipt : p.receipt = some receipt)
      (hasked : s.broker.Asks c.transport.server (.deleteMessage c.address receipt) answer a) :
      Does c batch s (.delete place) ({ s with broker := a }.report events)
  | release {s : Site (Account σ)} {place : Nat} {p : Parcel} {receipt : String}
      {answer : Except Refusal Unit} {a : Account σ}
      (hplace : batch[place]? = some p) (hreceipt : p.receipt = some receipt)
      (hasked : s.broker.Asks c.transport.server (.releaseMessage c.address receipt 0) answer a) :
      Does c batch s (.release place) { s with broker := a }

/-- Deeds, one after the other. -/
inductive DoesAll (c : Consumer σ) (batch : List Parcel) :
    Site (Account σ) → List Deed → Site (Account σ) → Prop
  | nil (s : Site (Account σ)) : DoesAll c batch s [] s
  | cons {s s' s'' : Site (Account σ)} {d : Deed} {deeds : List Deed}
      (h : c.Does batch s d s') (hrest : DoesAll c batch s' deeds s'') :
      DoesAll c batch s (d :: deeds) s''

theorem DoesAll.append
    {c : Consumer σ} {batch : List Parcel} {s s' s'' : Site (Account σ)} {deeds others : List Deed}
    (h : c.DoesAll batch s deeds s') (h' : c.DoesAll batch s' others s'') :
    c.DoesAll batch s (deeds ++ others) s'' := by
  induction h with
  | nil => exact h'
  | cons hdone _ ih => exact .cons hdone (ih h')

/-! ### One deed -/

section Doing

variable {c : Consumer σ} {batch : List Parcel} {place : Nat} {p : Parcel} {receipt : String}

theorem does_delete
    (hplace : batch[place]? = some p) (hreceipt : p.receipt = some receipt)
    (s : Site (Account σ)) : c.Does batch s (.delete place) (c.delete p receipt s) := by
  rcases hanswer : s.broker.ask c.transport.server (.deleteMessage c.address receipt) with
    ⟨answer, a⟩
  have hasked := Account.asks_of_ask hanswer
  have hask : c.ask (.deleteMessage c.address receipt) s = (answer, { s with broker := a }) := by
    simp only [ask, hanswer]
  cases answer with
  | ok _ =>
      have hdeleted : c.delete p receipt s = { s with broker := a }.report [] := by
        simp only [delete, hask, Site.report, List.append_nil]
      rw [hdeleted]
      exact .delete hplace hreceipt hasked
  | error refusal =>
      simp only [delete, hask]
      exact .delete hplace hreceipt hasked

theorem does_release
    (hplace : batch[place]? = some p) (hreceipt : p.receipt = some receipt)
    (s : Site (Account σ)) :
    c.Does batch s (.release place) (c.ask (.releaseMessage c.address receipt 0) s).2 :=
  .release hplace hreceipt (Account.asks_of_ask rfl)

/-- The copy that is sent has the text and the attributes that were received. -/
theorem does_poison
    {why : Unreadable} {unread : Received} (hplace : batch[place]? = some p)
    (hreceipt : p.receipt ≠ none)
    (hread : decodeMessage p.attributes p.text p.nativeId c.settings.address =
      .error (why, unread)) (s : Site (Account σ)) :
    c.Does batch s (.poison place (c.poison p why unread s).1) (c.poison p why unread s).2 := by
  have hsending : ∀ address : String,
      Transport.sending (unread.toPoison c.settings.errorQueue) address =
        .sendMessage address p.text (encodeAttributes p.attributes none false) := by
    intro address
    rw [eq_of_decodeMessage_eq_error hread, sending_unread]
  have hsent := c.transport.sends_send hsending (s.report [c.unreadableEvent p why]).broker
  rw [← Transport.dispatch_singleton] at hsent
  unfold poison
  dsimp only
  rcases hanswer : c.transport.dispatch [unread.toPoison c.settings.errorQueue]
    (s.report [c.unreadableEvent p why]).broker with ⟨e | _, a⟩
  · have hreported : ∀ event : LogEvent,
        ({ s.report [c.unreadableEvent p why] with broker := a }.report [event] : Site _) =
          { s with broker := a }.report [c.unreadableEvent p why, event] := by
      intro event
      simp only [Site.report, List.append_assoc, List.singleton_append]
    rw [hanswer] at hsent
    dsimp only
    rw [hreported]
    exact .poison hplace hreceipt hread hsent
  · rw [hanswer] at hsent
    exact .poison hplace hreceipt hread hsent

/-- The requests that settle messages grow by the one of the deed, if it has one. -/
theorem Does.settlements_eq
    {s s' : Site (Account σ)} {d : Deed} (halone : c.SettlesAlone) (h : c.Does batch s d s') :
    settlements s'.broker.asked =
      settlements s.broker.asked ++ (d.settlement? c.address batch).toList := by
  cases h with
  | @deliver _ place _ m ending _ _ _ hdeliver =>
      have hkept := halone m s
      rw [hdeliver] at hkept
      rw [hkept]
      exact (List.append_nil _).symm
  | poison _ _ _ hsent =>
      exact hsent.settlements_kept.trans (List.append_nil _).symm
  | delete hplace hreceipt hasked =>
      rw [Deed.settlement?_delete hplace hreceipt]
      exact hasked.settlements_eq
  | release hplace hreceipt hasked =>
      rw [Deed.settlement?_release hplace hreceipt]
      exact hasked.settlements_eq

theorem DoesAll.settlements_eq
    {s s' : Site (Account σ)} {deeds : List Deed} (halone : c.SettlesAlone)
    (h : c.DoesAll batch s deeds s') :
    settlements s'.broker.asked =
      settlements s.broker.asked ++ deeds.filterMap (Deed.settlement? c.address batch) := by
  induction h with
  | nil s => exact (List.append_nil _).symm
  | @cons s s' s'' d deeds hdone _ ih =>
      rw [ih, hdone.settlements_eq halone, List.append_assoc]
      cases hsettlement : d.settlement? c.address batch with
      | none => rw [List.filterMap_cons_none hsettlement]; rfl
      | some r => rw [List.filterMap_cons_some hsettlement]; rfl

end Doing

/-! ### Settling as deeds -/

section Settling

theorem getElem?_length_append (before : List Parcel) (p : Parcel) (rest : List Parcel) :
    (before ++ p :: rest)[before.length]? = some p := by
  simp

/-- Releasing messages is releasing one after the other. -/
theorem doesAll_release (c : Consumer σ) (before rest : List Parcel) (s : Site (Account σ)) :
    c.DoesAll (before ++ rest) s (deedsFrom before.length (rest.map Parcel.givenUp))
      (c.release rest s) := by
  induction rest generalizing before s with
  | nil => exact .nil s
  | cons p rest ih =>
      have hplace := getElem?_length_append before p rest
      have hrest := ih (before ++ [p])
      rw [List.append_assoc, List.singleton_append, List.length_append, List.length_singleton]
        at hrest
      rw [List.map_cons, deedsFrom]
      cases hreceipt : p.receipt with
      | none =>
          have hfate : p.givenUp = .passedOver := by simp [Parcel.givenUp, hreceipt]
          have hrelease : c.release (p :: rest) s = c.release rest s := by
            simp [release, hreceipt]
          rw [hfate, hrelease]
          exact hrest s
      | some receipt =>
          have hfate : p.givenUp = .released := by simp [Parcel.givenUp, hreceipt]
          have hrelease : c.release (p :: rest) s =
              c.release rest (c.ask (.releaseMessage c.address receipt 0) s).2 := by
            simp [release, hreceipt]
          rw [hfate, hrelease]
          exact .cons (does_release hplace hreceipt s) (hrest _)

/-- What is done with one message is followed by the rest of the batch, or ends the batch. -/
theorem settle_cons
    {p : Parcel} (hreceipt : p.receipt ≠ none) (c : Consumer σ) (before rest : List Parcel)
    (s : Site (Account σ)) :
    (∃ f ∈ [Fate.completed, .poisoned, .left], ∃ s' : Site (Account σ),
      c.DoesAll (before ++ p :: rest) s (f.deeds before.length) s' ∧
        c.settle (p :: rest) s = c.settle rest s') ∨
    ∃ s' : Site (Account σ),
      c.Does (before ++ p :: rest) s (.deliver before.length .abandoned) s' ∧
        c.settle (p :: rest) s = ⟨false, c.release (p :: rest) s'⟩ := by
  have hplace := getElem?_length_append before p rest
  obtain ⟨receipt, hsome⟩ := Option.ne_none_iff_exists'.mp hreceipt
  have hdelete : ∀ s : Site (Account σ),
      c.DoesAll (before ++ p :: rest) s [.delete before.length] (c.delete p receipt s) :=
    fun s => .cons (does_delete hplace hsome s) (.nil _)
  cases hread : decodeMessage p.attributes p.text p.nativeId c.settings.address with
  | ok m =>
      cases hdeliver : c.deliver m s with
      | mk ending s' =>
          have hdone := Does.deliver hplace hreceipt hread hdeliver
          cases ending with
          | completed =>
              refine Or.inl ⟨.completed, by decide, _, .cons hdone (hdelete s'), ?_⟩
              simp only [settle, hsome, hread, hdeliver]
          | abandoned =>
              refine Or.inr ⟨s', hdone, ?_⟩
              simp only [settle, hsome, hread, hdeliver]
  | error e =>
      obtain ⟨why, unread⟩ := e
      cases hpoison : c.poison p why unread s with
      | mk accepted s' =>
          have hdone := does_poison hplace hreceipt hread s
          rw [hpoison] at hdone
          cases accepted with
          | true =>
              refine Or.inl ⟨.poisoned, by decide, _, .cons hdone (hdelete s'), ?_⟩
              simp only [settle, hsome, hread, hpoison]
          | false =>
              refine Or.inl ⟨.left, by decide, s', .cons hdone (.nil s'), ?_⟩
              simp only [settle, hsome, hread, hpoison]

/-- Settling a batch is doing the deeds of the fates of its messages. -/
theorem exists_fates (c : Consumer σ) (before rest : List Parcel) (s : Site (Account σ)) :
    ∃ fates : List Fate, Fates rest fates (c.settle rest s).goesOn ∧
      c.DoesAll (before ++ rest) s (deedsFrom before.length fates) (c.settle rest s).site := by
  induction rest generalizing before s with
  | nil => exact ⟨[], .done, .nil s⟩
  | cons p rest ih =>
      have hnext : ∀ s : Site (Account σ), ∃ fates : List Fate,
          Fates rest fates (c.settle rest s).goesOn ∧
            c.DoesAll (before ++ p :: rest) s (deedsFrom (before.length + 1) fates)
              (c.settle rest s).site := by
        intro s
        simpa using ih (before ++ [p]) s
      by_cases hreceipt : p.receipt = none
      · obtain ⟨fates, hfates, hdoes⟩ := hnext s
        have hsettle : c.settle (p :: rest) s = c.settle rest s := by rw [settle, hreceipt]
        rw [hsettle]
        exact ⟨.passedOver :: fates, .pass hreceipt hfates, hdoes⟩
      · rcases settle_cons hreceipt c before rest s with
          ⟨f, hf, s', hdone, hsettle⟩ | ⟨s', hdone, hsettle⟩
        · obtain ⟨fates, hfates, hdoes⟩ := hnext s'
          rw [hsettle]
          exact ⟨f :: fates, .settle hreceipt hf hfates, hdone.append hdoes⟩
        · have hgivenUp : p.givenUp = .released := by
            simp [Parcel.givenUp, Option.isSome_iff_ne_none, hreceipt]
          have hrelease := doesAll_release c before (p :: rest) s'
          rw [List.map_cons, hgivenUp] at hrelease
          rw [hsettle]
          exact ⟨_, .giveUp hreceipt, .cons hdone hrelease⟩

end Settling

end Consumer

/-! ### What the deeds are -/

section Deeds

variable {fates : List Fate}

theorem Fate.place_of_mem {f : Fate} {place : Nat} {d : Deed} (h : d ∈ f.deeds place) :
    d.place = place := by
  cases f <;> simp only [deeds, List.mem_cons, List.not_mem_nil, or_false] at h
  · rcases h with rfl | rfl <;> rfl
  · rcases h with rfl | rfl <;> rfl
  · rw [h]
    rfl
  · rcases h with rfl | rfl <;> rfl
  · rw [h]
    rfl

theorem deedsFrom_append (place : Nat) (fates others : List Fate) :
    deedsFrom place (fates ++ others) =
      deedsFrom place fates ++ deedsFrom (place + fates.length) others := by
  induction fates generalizing place with
  | nil => rfl
  | cons f fates ih =>
      rw [List.cons_append, deedsFrom, deedsFrom, ih, List.append_assoc, List.length_cons,
        Nat.add_assoc, Nat.add_comm 1]

theorem le_place_of_mem {place : Nat} {d : Deed} (h : d ∈ deedsFrom place fates) :
    place ≤ d.place := by
  induction fates generalizing place with
  | nil => cases h
  | cons f fates ih =>
      rcases List.mem_append.mp h with h | h
      · exact Nat.le_of_eq (Fate.place_of_mem h).symm
      · exact Nat.le_of_succ_le (ih h)

/-- Nothing is done twice. -/
theorem nodup_deedsFrom (place : Nat) (fates : List Fate) : (deedsFrom place fates).Nodup := by
  induction fates generalizing place with
  | nil => exact List.nodup_nil
  | cons f fates ih =>
      rw [deedsFrom, List.nodup_append]
      refine ⟨by cases f <;> simp [Fate.deeds], ih (place + 1), ?_⟩
      rintro d hd _ hd' rfl
      have hle := le_place_of_mem hd'
      rw [Fate.place_of_mem hd] at hle
      omega

/-- What is done with a message is what its fate says, at one stretch. -/
theorem exists_deedsFrom_eq {place : Nat} {f : Fate} (h : fates[place]? = some f) :
    ∃ first last : List Deed, deedsFrom 0 fates = first ++ f.deeds place ++ last := by
  obtain ⟨hlt, rfl⟩ := List.getElem?_eq_some_iff.mp h
  have hsplit : fates = fates.take place ++ fates[place] :: fates.drop (place + 1) := by
    rw [← List.drop_eq_getElem_cons hlt, List.take_append_drop]
  refine ⟨deedsFrom 0 (fates.take place), deedsFrom (place + 1) (fates.drop (place + 1)), ?_⟩
  conv_lhs => rw [hsplit]
  rw [deedsFrom_append, deedsFrom, List.length_take, Nat.min_eq_left (Nat.le_of_lt hlt),
    Nat.zero_add, List.append_assoc]

theorem exists_of_mem_deedsFrom {place : Nat} {d : Deed} (h : d ∈ deedsFrom place fates) :
    ∃ (i : Nat) (f : Fate), fates[i]? = some f ∧ d ∈ f.deeds (place + i) := by
  induction fates generalizing place with
  | nil => cases h
  | cons f fates ih =>
      rcases List.mem_append.mp h with h | h
      · exact ⟨0, f, rfl, h⟩
      · obtain ⟨i, f', hf, hd⟩ := ih h
        refine ⟨i + 1, f', hf, ?_⟩
        rwa [Nat.add_assoc, Nat.add_comm 1] at hd

theorem mem_deeds_iff (d : Deed) (f : Fate) : d ∈ f.deeds d.place ↔ f ∈ d.fates := by
  cases d with
  | deliver place ending => cases ending <;> cases f <;> simp [Fate.deeds, Deed.fates, Deed.place]
  | poison place accepted =>
      cases accepted <;> cases f <;> simp [Fate.deeds, Deed.fates, Deed.place]
  | delete place => cases f <;> simp [Fate.deeds, Deed.fates, Deed.place]
  | release place => cases f <;> simp [Fate.deeds, Deed.fates, Deed.place]

/-- A deed is done when the fate of its message asks for it. -/
theorem mem_deedsFrom_iff (d : Deed) :
    d ∈ deedsFrom 0 fates ↔ ∃ f ∈ d.fates, fates[d.place]? = some f := by
  constructor
  · intro h
    obtain ⟨i, f, hf, hd⟩ := exists_of_mem_deedsFrom h
    rw [Nat.zero_add] at hd
    have hplace := Fate.place_of_mem hd
    rw [← hplace] at hf hd
    exact ⟨f, (mem_deeds_iff d f).mp hd, hf⟩
  · rintro ⟨f, hf, hfate⟩
    obtain ⟨first, last, heq⟩ := exists_deedsFrom_eq hfate
    rw [heq]
    exact List.mem_append_left _ (List.mem_append_right _ ((mem_deeds_iff d f).mpr hf))

end Deeds

/-! ### What the fates are -/

namespace Fates

variable {batch : List Parcel} {fates : List Fate} {goesOn : Bool} {place k : Nat}

theorem length_eq (h : Fates batch fates goesOn) : fates.length = batch.length := by
  induction h with
  | done => rfl
  | pass _ _ ih => rw [List.length_cons, List.length_cons, ih]
  | settle _ _ _ ih => rw [List.length_cons, List.length_cons, ih]
  | giveUp _ => rw [List.length_cons, List.length_cons, List.length_map]

theorem givenUp_cases (p : Parcel) :
    p.receipt = none ∧ p.givenUp = .passedOver ∨ p.receipt ≠ none ∧ p.givenUp = .released := by
  cases hreceipt : p.receipt <;> simp [Parcel.givenUp, hreceipt]

/--
Exactly the messages without a receipt are passed over, and exactly the others after a delivery
that was given up are released.
-/
theorem fate_at
    (h : Fates batch fates goesOn) {p : Parcel} (hp : batch[place]? = some p) {f : Fate}
    (hf : fates[place]? = some f) :
    (f = .passedOver ↔ p.receipt = none) ∧
      (f = .released ↔ p.receipt ≠ none ∧ .abandoned ∈ fates.take place) := by
  induction h generalizing place with
  | done => cases hp
  | pass hreceipt _ ih =>
      cases place with
      | zero =>
          cases hp
          cases hf
          simp [hreceipt]
      | succ place => simpa using ih hp hf
  | @settle _ _ fate _ _ hreceipt hmem _ ih =>
      have hpassed : fate ≠ .passedOver := ne_of_mem_of_not_mem hmem (by decide)
      have hreleased : fate ≠ .released := ne_of_mem_of_not_mem hmem (by decide)
      have habandoned : .abandoned ≠ fate := (ne_of_mem_of_not_mem hmem (by decide)).symm
      cases place with
      | zero =>
          cases hp
          cases hf
          simp [hreceipt, hpassed, hreleased]
      | succ place => simpa [habandoned] using ih hp hf
  | giveUp hreceipt =>
      cases place with
      | zero =>
          cases hp
          cases hf
          simp [hreceipt]
      | succ place =>
          rw [List.getElem?_cons_succ] at hp hf
          rw [List.getElem?_map, hp, Option.map_some, Option.some.injEq] at hf
          subst hf
          rcases givenUp_cases p with ⟨hnone, hfate⟩ | ⟨hsome, hfate⟩
          · simp [hnone, hfate]
          · simp [hsome, hfate]

/-- Nothing more is received exactly after a delivery that was given up. -/
theorem goesOn_eq_false_iff (h : Fates batch fates goesOn) :
    goesOn = false ↔ .abandoned ∈ fates := by
  induction h with
  | done => simp
  | pass _ _ ih => simpa using ih
  | @settle _ _ fate _ _ _ hmem _ ih =>
      have habandoned : .abandoned ≠ fate := (ne_of_mem_of_not_mem hmem (by decide)).symm
      simpa [habandoned] using ih
  | giveUp _ => simp

theorem mem_take_iff {f : Fate} : f ∈ fates.take k ↔ ∃ j < k, fates[j]? = some f := by
  simp [List.mem_iff_getElem?, List.getElem?_take, Option.ite_none_right_eq_some]

theorem exists_fate
    (h : Fates batch fates goesOn) {p : Parcel} (hp : batch[k]? = some p) :
    ∃ f : Fate, fates[k]? = some f := by
  have hbound : k < fates.length := h.length_eq ▸ (List.getElem?_eq_some_iff.mp hp).1
  exact ⟨fates[k], List.getElem?_eq_getElem hbound⟩

theorem passedOver_iff
    (h : Fates batch fates goesOn) {p : Parcel} (hp : batch[k]? = some p) :
    fates[k]? = some .passedOver ↔ p.receipt = none := by
  obtain ⟨f, hf⟩ := h.exists_fate hp
  rw [hf, Option.some.injEq]
  exact (h.fate_at hp hf).1

theorem released_iff
    (h : Fates batch fates goesOn) {p : Parcel} (hp : batch[k]? = some p) :
    fates[k]? = some .released ↔
      p.receipt ≠ none ∧ ∃ j < k, fates[j]? = some .abandoned := by
  obtain ⟨f, hf⟩ := h.exists_fate hp
  rw [hf, Option.some.injEq, ← mem_take_iff]
  exact (h.fate_at hp hf).2

/-- After a delivery that was given up, messages are released or passed over. -/
theorem fate_after
    (h : Fates batch fates goesOn) {j : Nat} (hgiven : fates[j]? = some .abandoned) (hlt : j < k)
    {f : Fate} (hf : fates[k]? = some f) : f = .released ∨ f = .passedOver := by
  have hbound : k < batch.length := h.length_eq ▸ (List.getElem?_eq_some_iff.mp hf).1
  have hp := List.getElem?_eq_getElem hbound
  by_cases hreceipt : batch[k].receipt = none
  · have hpassed := (h.passedOver_iff hp).mpr hreceipt
    exact Or.inr (Option.some.inj (hf.symm.trans hpassed))
  · have hreleased := (h.released_iff hp).mpr ⟨hreceipt, j, hlt, hgiven⟩
    exact Or.inl (Option.some.inj (hf.symm.trans hreleased))

end Fates

/-! ### What is done with a batch -/

/-- What the deeds done with a batch, in their order, come to. -/
structure Accounted (batch : List Parcel) (deeds : List Deed) (goesOn : Bool) : Prop where
  /-- Nothing is done twice with a message. -/
  nodup : deeds.Nodup
  /-- A message is deleted right after its delivery, or after the poison queue accepted it. -/
  deleted (k : Nat) : .delete k ∈ deeds → ∃ (first last : List Deed) (d : Deed),
    d ∈ [.deliver k .completed, .poison k true] ∧ deeds = first ++ d :: .delete k :: last
  /-- A message that was delivered, or that the poison queue accepted, is deleted. -/
  finished (k : Nat) :
    .deliver k .completed ∈ deeds ∨ .poison k true ∈ deeds → .delete k ∈ deeds
  /-- From a delivery that was given up on, exactly the messages with a receipt are released. -/
  released (k : Nat) (p : Parcel) : batch[k]? = some p →
    (.release k ∈ deeds ↔ p.receipt ≠ none ∧ ∃ j ≤ k, .deliver j .abandoned ∈ deeds)
  /-- From a delivery that was given up on, nothing is done but to release. -/
  givenUp (j : Nat) : .deliver j .abandoned ∈ deeds → ∀ d ∈ deeds, j ≤ d.place →
    d = .deliver j .abandoned ∨ d = .release d.place
  /-- No message is both deleted and released. -/
  apart (k : Nat) : .delete k ∈ deeds → .release k ∉ deeds
  /-- A message that the poison queue did not accept is left alone. -/
  leftAlone (k : Nat) : .poison k false ∈ deeds → .delete k ∉ deeds ∧ .release k ∉ deeds
  /-- Every message with a receipt has its turn, unless a delivery before it was given up. -/
  reached (k : Nat) (p : Parcel) : batch[k]? = some p → p.receipt ≠ none →
    (∃ ending, .deliver k ending ∈ deeds) ∨ (∃ accepted, .poison k accepted ∈ deeds) ∨
      ∃ j < k, .deliver j .abandoned ∈ deeds
  /-- More is received unless a delivery was given up. -/
  stopped : goesOn = false ↔ ∃ j, .deliver j .abandoned ∈ deeds

section Accounting

variable {batch : List Parcel} {fates : List Fate} {goesOn : Bool} {k : Nat}

theorem mem_delete_iff :
    .delete k ∈ deedsFrom 0 fates ↔
      fates[k]? = some .completed ∨ fates[k]? = some .poisoned := by
  simp [mem_deedsFrom_iff, Deed.fates, Deed.place]

theorem mem_release_iff :
    .release k ∈ deedsFrom 0 fates ↔
      fates[k]? = some .abandoned ∨ fates[k]? = some .released := by
  simp [mem_deedsFrom_iff, Deed.fates, Deed.place]

theorem mem_abandoned_iff :
    .deliver k .abandoned ∈ deedsFrom 0 fates ↔ fates[k]? = some .abandoned := by
  simp [mem_deedsFrom_iff, Deed.fates, Deed.place]

theorem mem_completed_iff :
    .deliver k .completed ∈ deedsFrom 0 fates ↔ fates[k]? = some .completed := by
  simp [mem_deedsFrom_iff, Deed.fates, Deed.place]

theorem mem_poison_iff (accepted : Bool) :
    .poison k accepted ∈ deedsFrom 0 fates ↔
      fates[k]? = some (if accepted then .poisoned else .left) := by
  cases accepted <;> simp [mem_deedsFrom_iff, Deed.fates, Deed.place]

/-- Deleting follows what allows it. -/
theorem exists_before_delete (h : .delete k ∈ deedsFrom 0 fates) :
    ∃ (first last : List Deed) (d : Deed), d ∈ [.deliver k .completed, .poison k true] ∧
      deedsFrom 0 fates = first ++ d :: .delete k :: last := by
  rcases mem_delete_iff.mp h with hfate | hfate
  · obtain ⟨first, last, heq⟩ := exists_deedsFrom_eq hfate
    exact ⟨first, last, .deliver k .completed, by simp, by simpa [Fate.deeds] using heq⟩
  · obtain ⟨first, last, heq⟩ := exists_deedsFrom_eq hfate
    exact ⟨first, last, .poison k true, by simp, by simpa [Fate.deeds] using heq⟩

namespace Fates

/-- From a delivery that was given up on, exactly the messages with a receipt are released. -/
theorem release_iff
    (h : Fates batch fates goesOn) {p : Parcel} (hp : batch[k]? = some p) :
    .release k ∈ deedsFrom 0 fates ↔
      p.receipt ≠ none ∧ ∃ j ≤ k, .deliver j .abandoned ∈ deedsFrom 0 fates := by
  rw [mem_release_iff, h.released_iff hp]
  simp only [mem_abandoned_iff]
  constructor
  · rintro (hgiven | ⟨hreceipt, j, hlt, hgiven⟩)
    · have hne : fates[k]? ≠ some .passedOver := by simp [hgiven]
      exact ⟨fun hnone => hne ((h.passedOver_iff hp).mpr hnone), k, Nat.le_refl k, hgiven⟩
    · exact ⟨hreceipt, j, Nat.le_of_lt hlt, hgiven⟩
  · rintro ⟨hreceipt, j, hle, hgiven⟩
    rcases Nat.eq_or_lt_of_le hle with rfl | hlt
    · exact Or.inl hgiven
    · exact Or.inr ⟨hreceipt, j, hlt, hgiven⟩

/-- From a delivery that was given up on, nothing is done but to release. -/
theorem eq_of_givenUp
    (h : Fates batch fates goesOn) {j : Nat} (hgiven : fates[j]? = some .abandoned) {d : Deed}
    (hd : d ∈ deedsFrom 0 fates) (hle : j ≤ d.place) :
    d = .deliver j .abandoned ∨ d = .release d.place := by
  obtain ⟨f, hasks, hfate⟩ := (mem_deedsFrom_iff d).mp hd
  have hmem := (mem_deeds_iff d f).mpr hasks
  rcases Nat.eq_or_lt_of_le hle with hplace | hlt
  · rw [← hplace, hgiven] at hfate
    cases hfate
    rw [← hplace] at hmem ⊢
    simpa [Fate.deeds] using hmem
  · rcases h.fate_after hgiven hlt hfate with rfl | rfl
    · exact Or.inr (List.mem_singleton.mp hmem)
    · cases hmem

/-- Every message with a receipt has its turn, unless a delivery before it was given up. -/
theorem exists_turn
    (h : Fates batch fates goesOn) {p : Parcel} (hp : batch[k]? = some p)
    (hreceipt : p.receipt ≠ none) :
    (∃ ending, .deliver k ending ∈ deedsFrom 0 fates) ∨
      (∃ accepted, .poison k accepted ∈ deedsFrom 0 fates) ∨
        ∃ j < k, .deliver j .abandoned ∈ deedsFrom 0 fates := by
  obtain ⟨f, hfate⟩ := h.exists_fate hp
  cases f with
  | passedOver => exact absurd ((h.passedOver_iff hp).mp hfate) hreceipt
  | completed => exact Or.inl ⟨.completed, mem_completed_iff.mpr hfate⟩
  | poisoned => exact Or.inr (Or.inl ⟨true, (mem_poison_iff true).mpr hfate⟩)
  | left => exact Or.inr (Or.inl ⟨false, (mem_poison_iff false).mpr hfate⟩)
  | abandoned => exact Or.inl ⟨.abandoned, mem_abandoned_iff.mpr hfate⟩
  | released =>
      obtain ⟨_, j, hlt, hgiven⟩ := (h.released_iff hp).mp hfate
      exact Or.inr (Or.inr ⟨j, hlt, mem_abandoned_iff.mpr hgiven⟩)

/-- The deeds of what may become of the messages of a batch. -/
theorem accounted (h : Fates batch fates goesOn) :
    Accounted batch (deedsFrom 0 fates) goesOn where
  nodup := nodup_deedsFrom 0 fates
  deleted _ hdelete := exists_before_delete hdelete
  finished k hdone := by
    rw [mem_completed_iff, mem_poison_iff] at hdone
    exact mem_delete_iff.mpr hdone
  released _ _ hp := h.release_iff hp
  givenUp _ hgiven _ hd hle := h.eq_of_givenUp (mem_abandoned_iff.mp hgiven) hd hle
  apart k hdelete hrelease := by
    rcases mem_delete_iff.mp hdelete with hfate | hfate <;>
      simp [mem_release_iff, hfate] at hrelease
  leftAlone k hleft := by
    have hfate := (mem_poison_iff false).mp hleft
    simp [mem_delete_iff, mem_release_iff, hfate]
  reached _ _ hp hreceipt := h.exists_turn hp hreceipt
  stopped := by
    rw [h.goesOn_eq_false_iff, List.mem_iff_getElem?]
    simp only [mem_abandoned_iff]

end Fates
end Accounting

/--
Settling a batch does with its messages what is accounted for.  When nobody but the consumer settles
messages, the requests for it are one for each message that is deleted or released, in their order.
-/
theorem Consumer.settled {σ : Type} (c : Consumer σ) (batch : List Parcel)
    (s : Site (Account σ)) :
    ∃ deeds : List Deed, c.DoesAll batch s deeds (c.settle batch s).site ∧
      Accounted batch deeds (c.settle batch s).goesOn ∧
      (c.SettlesAlone → settlements (c.settle batch s).site.broker.asked =
        settlements s.broker.asked ++ deeds.filterMap (Deed.settlement? c.address batch)) := by
  obtain ⟨fates, hfates, hdoes⟩ := c.exists_fates [] batch s
  exact ⟨deedsFrom 0 fates, hdoes, hfates.accounted, hdoes.settlements_eq⟩

/--
A way of the relay that is told to stop, and a server that refuses to take one text.  Two messages
are deleted and two released; one stays with its refused copy, and two have no receipt.
-/
theorem Consumer.settled_stopped :
    let server : Server (List String) := fun r queues => match r with
      | .sendMessage _ text _ =>
          (if text = "late" then .error (.failed "throttled") else .ok (), queues)
      | r => Server.ofQueues r queues
    let transport : Transport (List String) := ⟨{}, server⟩
    let way : Route :=
      { direction := .forward
        adapter := ⟨"orders_error", "Retry.Return", .amazonSqs⟩
        backoff := ⟨1000, 60000, 3, 0⟩
        poisonQueue := "Retry.Return.poison" }
    let address := "https://sqs.example/1/orders_error"
    let c : Consumer (List String) :=
      { transport, address
        settings := ⟨"orders_error", "orders_error", "Retry.Return.poison"⟩
        deliver := fun m s =>
          let t := Timed.deliver (way.handler transport.dispatch) (some 0) m s 4
          (match t.delivery.stage with
            | .completed => .completed
            | _ => .abandoned, t.state) }
    let unpackable := Headers.ofPairs [("Headers", "not a record")]
    let batch : List Parcel :=
      [⟨some "receipt-1", "sqs-1", "no fault", ∅⟩, ⟨some "receipt-2", "sqs-2", "raw", unpackable⟩,
        ⟨some "receipt-3", "sqs-3", "late", unpackable⟩, ⟨none, "sqs-4", "no fault", ∅⟩,
        ⟨some "receipt-5", "sqs-5", "late", ∅⟩, ⟨none, "sqs-6", "raw", unpackable⟩,
        ⟨some "receipt-7", "sqs-7", "no fault", ∅⟩]
    let s : Site (Account (List String)) := ⟨{ state := ["Retry.Return.poison"] }, [], ⟨0, 0⟩⟩
    let requests : List Request :=
      [.deleteMessage address "receipt-1", .deleteMessage address "receipt-2",
        .releaseMessage address "receipt-5" 0, .releaseMessage address "receipt-7" 0]
    c.SettlesAlone ∧ settlements (c.settle batch s).site.broker.asked = requests ∧
      ∃ deeds : List Deed, c.DoesAll batch s deeds (c.settle batch s).site ∧
        Accounted batch deeds false ∧
        deeds.filterMap (Deed.settlement? address batch) = requests := by
  intro server transport way address c unpackable batch s requests
  have halone : c.SettlesAlone := by
    refine Consumer.settlesAlone_of_courses fun m s => ?_
    obtain ⟨askings, hcourse, -⟩ :=
      Timed.course_deliver (way.handler transport.dispatch) (some 0) m s 4
    exact ⟨way, some 0, askings, _, hcourse, rfl⟩
  have hrequests : settlements (c.settle batch s).site.broker.asked = requests := by
    decide +kernel
  have hgoesOn : (c.settle batch s).goesOn = false := by decide +kernel
  obtain ⟨deeds, hdoes, haccounted, hsettled⟩ := c.settled batch s
  refine ⟨halone, hrequests, deeds, hdoes, hgoesOn ▸ haccounted, ?_⟩
  exact (hsettled halone).symm.trans hrequests

end Sqs
end FaultRelay
