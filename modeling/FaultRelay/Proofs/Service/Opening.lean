import FaultRelay.Proofs.Discovery.Queues
import FaultRelay.Service.Relay

/-!
# Opening a generation of receivers

**Results.**
* `Relay.sortOut_eq`: the queues that exist and those that do not.
* `Relay.opened_openFor`: what opening receivers can come to.
* `Relay.nodup_started_openFor`: the receivers that are started work on different queues.
-/

namespace FaultRelay

/-- A phase in which no receiver of the relay may be running. -/
def Phase.IsResting : Phase → Prop
  | .listening | .reconciling | .closing _ => False
  | _ => True

namespace Relay

/-- Whether a broker says that a queue exists; it may fail to say anything. -/
def answersYes (exists? : String → Except DiscoveryError Bool) (queue : String) : Bool :=
  match exists? queue with
  | .ok found => found
  | .error _ => false

theorem foldl_sort
    {p : String → Bool}
    {f : List String × QueueSet × List LogEvent → String → List String × QueueSet × List LogEvent}
    (hf : ∀ present notFound events queue, ∃ events' : List LogEvent,
      f (present, notFound, events) queue =
        if p queue then (present ++ [queue], notFound, events')
        else (present, notFound.insert queue, events'))
    (queues present : List String) (notFound : QueueSet) (events : List LogEvent) :
    ∃ events' : List LogEvent,
      queues.foldl f (present, notFound, events) =
        (present ++ queues.filter p,
          (queues.filter fun queue => !p queue).foldl (fun t name => t.insert name) notFound,
          events') := by
  induction queues generalizing present notFound events with
  | nil => exact ⟨events, by simp⟩
  | cons queue queues ih =>
      obtain ⟨events', hstep⟩ := hf present notFound events queue
      rw [List.foldl_cons, hstep]
      by_cases hqueue : p queue = true
      · obtain ⟨events'', hrest⟩ := ih (present ++ [queue]) notFound events'
        refine ⟨events'', ?_⟩
        simpa [hqueue] using hrest
      · obtain ⟨events'', hrest⟩ := ih present (notFound.insert queue) events'
        refine ⟨events'', ?_⟩
        simpa [hqueue] using hrest

/-- The queues that exist keep their order; all others are not found. -/
theorem sortOut_eq
    (exists? : String → Except DiscoveryError Bool) (discovered : QueueSet) :
    ∃ events : List LogEvent,
      sortOut exists? discovered =
        ((discovered.filter (answersYes exists?)).toList,
          discovered.filter fun queue => !answersYes exists? queue, events) := by
  have hsort : ∃ events : List LogEvent, sortOut exists? discovered =
      ([] ++ discovered.toList.filter (answersYes exists?),
        (discovered.toList.filter fun queue => !answersYes exists? queue).foldl
          (fun t name => t.insert name) ∅, events) := by
    refine foldl_sort ?_ discovered.toList [] ∅ []
    intro present notFound events queue
    unfold answersYes
    cases exists? queue with
    | error e => exact ⟨_, rfl⟩
    | ok found => cases found with
      | true => exact ⟨_, rfl⟩
      | false => exact ⟨_, rfl⟩
  obtain ⟨events, hsort⟩ := hsort
  refine ⟨events, ?_⟩
  rw [hsort, List.nil_append, ← Std.ExtTreeSet.toList_filter, ← Std.ExtTreeSet.toList_filter,
    QueueSet.foldl_insert_toList]

/-- Either all receivers are started, or those before one that cannot be. -/
theorem startAll_cases
    (start : ReceiverSettings → Except TransportError Unit) (wanted : List ReceiverSettings) :
    (startAll start wanted = (wanted, none) ∧ ∀ receiver ∈ wanted, start receiver = .ok ()) ∨
      ∃ (started : List ReceiverSettings) (failed : ReceiverSettings × TransportError),
        startAll start wanted = (started, some failed) ∧ started <+: wanted ∧
          started ≠ wanted := by
  induction wanted with
  | nil => exact Or.inl ⟨rfl, fun _ hmem => absurd hmem List.not_mem_nil⟩
  | cons receiver rest ih =>
      rw [startAll]
      cases hstart : start receiver with
      | error e =>
          refine Or.inr ⟨[], (receiver, e), rfl, List.nil_prefix, ?_⟩
          exact (List.cons_ne_nil receiver rest).symm
      | ok _ =>
          rcases ih with ⟨hrest, hall⟩ | ⟨started, failed, hrest, hfirst, hne⟩
          · rw [hrest]
            refine Or.inl ⟨rfl, fun other hmem => ?_⟩
            rcases List.mem_cons.mp hmem with rfl | hmem
            · exact hstart
            · exact hall other hmem
          · rw [hrest]
            refine Or.inr ⟨receiver :: started, failed, rfl, ?_, ?_⟩
            · exact List.cons_prefix_cons.mpr ⟨rfl, hfirst⟩
            · exact fun heq => hne (List.cons.inj heq).2

def wanted (s : Settings) (discovered : QueueSet) (o : Opening) : List ReceiverSettings :=
  receivers s (discovered.filter (answersYes o.exists?)).toList

/-- What opening receivers comes to: all of them are started, or some, or none can be made. -/
inductive Opened (r : Relay) (first : Bool) (discovered : QueueSet) (o : Opening) : Relay → Prop
  | all (hstart : ∀ receiver ∈ wanted r.settings discovered o, o.start receiver = .ok ()) :
      Opened r first discovered o
        (r.opened discovered (discovered.filter fun queue => !answersYes o.exists? queue)
          (wanted r.settings discovered o))
  | some (started : List ReceiverSettings) (e : TransportError)
      (hfirst : started <+: wanted r.settings discovered o)
      (hne : started ≠ wanted r.settings discovered o) :
      Opened r first discovered o
        ({ r with started, isOpen := false }.goto (.closing (.failed first discovered e)))
  | none (e : TransportError) : Opened r first discovered o (r.fail first discovered e).1

theorem opened_openFor (r : Relay) (first : Bool) (discovered : QueueSet) (o : Opening) :
    Opened r first discovered o (r.openFor first discovered o).1 := by
  obtain ⟨missing, hsort⟩ := sortOut_eq o.exists? discovered
  simp only [openFor, hsort]
  cases hcreate : o.create (receivers r.settings (discovered.filter (answersYes o.exists?)).toList) with
  | mk result events =>
      cases result with
      | error e => exact .none e
      | ok _ =>
          dsimp only
          rcases startAll_cases o.start (wanted r.settings discovered o) with
            ⟨hstart, hall⟩ | ⟨started, failed, hstart, hfirst, hne⟩
          · rw [wanted] at hstart
            rw [hstart]
            exact .all hall
          · rw [wanted] at hstart
            rw [hstart]
            exact .some started failed.2 hfirst hne

theorem fail_started (r : Relay) (first : Bool) (discovered : QueueSet) (e : TransportError) :
    (r.fail first discovered e).1.started = [] := by
  cases first <;> rfl

theorem fail_generation (r : Relay) (first : Bool) (discovered : QueueSet) (e : TransportError) :
    (r.fail first discovered e).1.status.generation = r.status.generation := by
  cases first <;> rfl

/-- The receivers of a generation work on different queues. -/
theorem nodup_receivers
    {s : Settings} {present : QueueSet} (hown : s.returnQueue ∉ present) :
    ((receivers s present.toList).map ReceiverSettings.address).Nodup := by
  have haddresses : (receivers s present.toList).map ReceiverSettings.address =
      s.returnQueue :: present.toList := by
    simp [receivers, Provision.returnSettings, Function.comp_def]
  have hpresent : present.toList.Nodup :=
    Std.ExtTreeSet.distinct_toList.imp fun hne heq => hne (by simp [heq])
  rw [haddresses, List.nodup_cons]
  exact ⟨by simpa using hown, hpresent⟩

theorem nodup_started_openFor
    {r : Relay} {discovered : QueueSet} (hown : r.settings.returnQueue ∉ discovered)
    (first : Bool) (o : Opening) :
    ((r.openFor first discovered o).1.started.map ReceiverSettings.address).Nodup ∧
      ((r.openFor first discovered o).1.phase.IsResting →
        (r.openFor first discovered o).1.started = []) := by
  have hwanted : ((wanted r.settings discovered o).map ReceiverSettings.address).Nodup :=
    nodup_receivers fun hmem => hown (Std.ExtTreeSet.mem_of_mem_filter hmem)
  have hopened := opened_openFor r first discovered o
  generalize (r.openFor first discovered o).1 = r' at hopened ⊢
  cases hopened with
  | all hstart => exact ⟨hwanted, fun hresting => hresting.elim⟩
  | some started e hfirst hne =>
      exact ⟨hwanted.sublist (hfirst.map _).sublist, fun hresting => hresting.elim⟩
  | none e =>
      rw [fail_started]
      exact ⟨List.nodup_nil, fun _ => rfl⟩

end Relay
end FaultRelay
