import FaultRelay.Proofs.Fault.ReturnTrip
import FaultRelay.Proofs.Json.ReadBack

/-!
# Which envelopes are converted

A fault without a `MessageId` header has its metadata in its body.

**Rules.**
* `IsEnvelope node members m`: a record whose members carry the metadata.
* `Documented node members`: a record in which every known field occurs once at most, and is
  missing, null or of its type.
* `InOrder node`: a document that is read although it, or its host, is a list.

**Results.**
* `ofEnvelope?_eq_some_iff`: what is read from a body, field by field.
* `convert_envelope_iff`: an envelope is converted exactly when it is documented and its message
  types are not null, or when it is read in order.
-/

namespace FaultRelay
namespace Fault

open Time Json Json.Node

/-! ### Members of an envelope -/

/-- A member that carries a text, or nothing. -/
inductive IsText : Option Node → Option String → Prop
  | absent : IsText none none
  | null : IsText (some .null) none
  | text {node : Node} {s : String} : node.text? = some s → IsText (some node) (some s)

/-- A member that carries a list of texts; an empty list may be left out. -/
inductive IsTexts : Option Node → List String → Prop
  | absent : IsTexts none []
  | list {nodes : List Node} {types : List String} :
      List.Forall₂ (fun node t => node.text? = some t) nodes types →
      IsTexts (some (.list nodes)) types

/-- The spellings of the name of a machine. -/
def machineNames : List String :=
  ["machineName", "MachineName"]

/-- A record that describes a host, by the name of its machine. -/
structure IsHost (node : Node) (members : List (String × Node)) (machine : Option String) :
    Prop where
  isRecord : node.IsRecord members
  once : Once machineNames members
  machineName : IsText (member? machineNames members) machine

/-- A member that describes the host. -/
inductive NamesMachine : Option Node → Option String → Prop
  | absent : NamesMachine none none
  | null : NamesMachine (some .null) none
  | record {node : Node} {members : List (String × Node)} {machine : Option String} :
      IsHost node members machine → NamesMachine (some node) machine

/-- A record whose members carry the metadata.  Any other members may stand between them. -/
structure IsEnvelope (node : Node) (members : List (String × Node)) (m : Metadata) : Prop where
  isRecord : node.IsRecord members
  once : ∀ names ∈ envelopeFields, Once names members
  messageId : IsText (member? ["messageId"] members) m.messageId
  conversationId : IsText (member? ["conversationId"] members) m.conversationId
  correlationId : IsText (member? ["correlationId"] members) m.correlationId
  sourceAddress : IsText (member? ["sourceAddress"] members) m.sourceAddress
  messageTypes : IsTexts (member? ["messageType"] members) m.messageTypes
  sentTime : IsText (member? ["sentTime"] members) m.sentTime
  expirationTime : IsText (member? ["expirationTime"] members) m.expirationTime
  machineName : NamesMachine (member? ["host"] members) m.machineName

/-- A list that describes a host. -/
inductive ListsMachine : List Node → Option String → Prop
  | empty : ListsMachine [] none
  | one {node : Node} {machine : Option String} (hnode : IsText (some node) machine) :
      ListsMachine [node] machine

/-- A member that describes the host, by a record or a list. -/
inductive FindsMachine : Option Node → Option String → Prop
  | named {slot : Option Node} {machine : Option String} (hslot : NamesMachine slot machine) :
      FindsMachine slot machine
  | listed {items : List Node} {machine : Option String} (hitems : ListsMachine items machine) :
      FindsMachine (some (.list items)) machine

/-- The fields of an envelope that carry the metadata, in their order. -/
inductive Carries : List (Option Node) → Metadata → Prop
  | intro {messageId conversationId correlationId sourceAddress messageType sentTime
      expirationTime host : Option Node} {m : Metadata} (hmessageId : IsText messageId m.messageId)
      (hconversationId : IsText conversationId m.conversationId)
      (hcorrelationId : IsText correlationId m.correlationId)
      (hsourceAddress : IsText sourceAddress m.sourceAddress)
      (hmessageTypes : IsTexts messageType m.messageTypes)
      (hsentTime : IsText sentTime m.sentTime)
      (hexpirationTime : IsText expirationTime m.expirationTime)
      (hmachineName : FindsMachine host m.machineName) :
      Carries [messageId, conversationId, correlationId, sourceAddress, messageType, sentTime,
        expirationTime, host] m

section Reading

variable {slot : Option Node} {node : Node}

theorem optionalText?_eq_some_iff {value : Option String} :
    optionalText? slot = some value ↔ IsText slot value := by
  constructor
  · intro h
    match slot, h with
    | none, h =>
        cases h
        exact .absent
    | some .null, h =>
        cases h
        exact .null
    | some (.quoted source), h =>
        obtain ⟨s, hs, rfl⟩ := Option.map_eq_some_iff.1 h
        exact .text hs
  · intro h
    cases h with
    | absent => rfl
    | null => rfl
    | @text node s htext =>
        cases node with
        | quoted source => exact Option.map_eq_some_iff.2 ⟨s, htext, rfl⟩
        | _ => cases htext

theorem mapM_text?_eq_some_iff {items : List Node} {types : List String} :
    items.mapM Node.text? = some types ↔
      List.Forall₂ (fun node t => node.text? = some t) items types := by
  induction items generalizing types with
  | nil => simp
  | cons v items ih =>
      simp only [List.mapM_cons, Option.bind_eq_bind, Option.bind_eq_some_iff, ih, Option.pure_def,
        Option.some.injEq]
      constructor
      · rintro ⟨t, ht, others, hothers, rfl⟩
        exact .cons ht hothers
      · rintro (_ | ⟨ht, hothers⟩)
        exact ⟨_, ht, _, hothers, rfl⟩

theorem texts?_eq_some_iff {types : List String} :
    (match slot with
      | none => some []
      | some node => node.texts?) = some types ↔ IsTexts slot types := by
  constructor
  · intro h
    match slot, h with
    | none, h =>
        cases h
        exact .absent
    | some (.list items), h => exact .list (mapM_text?_eq_some_iff.1 h)
  · intro h
    cases h with
    | absent => rfl
    | list htexts => exact mapM_text?_eq_some_iff.2 htexts

theorem hostMachine?_eq_some_iff {machine : Option String} :
    hostMachine? node = some machine ↔
      (∃ members, IsHost node members machine) ∨
        ∃ items, node = .list items ∧ ListsMachine items machine := by
  have hfields : ∀ slots : List (Option Node),
      node.fields? [machineNames] = some slots ↔ Offers [machineNames] node slots :=
    fun slots => fields?_eq_some_iff (by decide)
  change (node.fields? [machineNames]).bind _ = _ ↔ _
  rw [Option.bind_eq_some_iff]
  constructor
  · rintro ⟨slots, hslots, h⟩
    cases (hfields slots).1 hslots with
    | @record node members hnode honce =>
        exact .inl ⟨members, hnode, by simpa using honce, optionalText?_eq_some_iff.1 h⟩
    | @list items hlength =>
        refine .inr ⟨items, rfl, ?_⟩
        match items, hlength, h with
        | [], _, h =>
            cases h
            exact .empty
        | [v], _, h => exact .one (optionalText?_eq_some_iff.1 h)
  · rintro (⟨members, hnode, honce, hmachine⟩ | ⟨items, rfl, hitems⟩)
    · exact ⟨_, (hfields _).2 (.record hnode (by simpa using honce)),
        optionalText?_eq_some_iff.2 hmachine⟩
    · cases hitems with
      | empty => exact ⟨_, (hfields _).2 (.list (by decide)), rfl⟩
      | one hnode =>
          exact ⟨_, (hfields _).2 (.list (by simp)), optionalText?_eq_some_iff.2 hnode⟩

theorem machine_eq_some_iff {machine : Option String} :
    (match slot with
      | none | some .null => some none
      | some node => hostMachine? node) = some machine ↔ FindsMachine slot machine := by
  constructor
  · intro h
    have hother : ∀ node, hostMachine? node = some machine → FindsMachine (some node) machine := by
      intro node h
      obtain ⟨members, hhost⟩ | ⟨items, rfl, hitems⟩ := hostMachine?_eq_some_iff.1 h
      · exact .named (.record hhost)
      · exact .listed hitems
    match slot, h with
    | none, h =>
        cases h
        exact .named .absent
    | some .null, h =>
        cases h
        exact .named .null
    | some (.bool b), h => exact hother _ h
    | some (.number source), h => exact hother _ h
    | some (.quoted source), h => exact hother _ h
    | some (.list items), h => exact hother _ h
    | some (.record members), h => exact hother _ h
  · intro h
    cases h with
    | named hslot =>
        cases hslot with
        | absent => rfl
        | null => rfl
        | record hhost =>
            have hread := hostMachine?_eq_some_iff.2 (.inl ⟨_, hhost⟩)
            cases hhost.isRecord
            exact hread
    | listed hitems => exact hostMachine?_eq_some_iff.2 (.inr ⟨_, rfl, hitems⟩)

theorem ofFields?_eq_some_iff {slots : List (Option Node)} {m : Metadata} :
    Metadata.ofFields? slots = some m ↔ Carries slots m := by
  constructor
  · intro h
    unfold Metadata.ofFields? at h
    split at h
    · simp only [Option.bind_eq_bind, Option.bind_eq_some_iff, Option.pure_def,
        Option.some.injEq] at h
      obtain ⟨messageId, hmessageId, conversationId, hconversationId, correlationId,
        hcorrelationId, sourceAddress, hsourceAddress, messageTypes, hmessageTypes, sentTime,
        hsentTime, expirationTime, hexpirationTime, machineName, hmachineName, rfl⟩ := h
      exact .intro (optionalText?_eq_some_iff.1 hmessageId)
        (optionalText?_eq_some_iff.1 hconversationId) (optionalText?_eq_some_iff.1 hcorrelationId)
        (optionalText?_eq_some_iff.1 hsourceAddress) (texts?_eq_some_iff.1 hmessageTypes)
        (optionalText?_eq_some_iff.1 hsentTime) (optionalText?_eq_some_iff.1 hexpirationTime)
        (machine_eq_some_iff.1 hmachineName)
    · cases h
  · rintro ⟨hmessageId, hconversationId, hcorrelationId, hsourceAddress, hmessageTypes, hsentTime,
      hexpirationTime, hmachineName⟩
    refine Option.bind_eq_some_iff.2 ⟨_, optionalText?_eq_some_iff.2 hmessageId, ?_⟩
    refine Option.bind_eq_some_iff.2 ⟨_, optionalText?_eq_some_iff.2 hconversationId, ?_⟩
    refine Option.bind_eq_some_iff.2 ⟨_, optionalText?_eq_some_iff.2 hcorrelationId, ?_⟩
    refine Option.bind_eq_some_iff.2 ⟨_, optionalText?_eq_some_iff.2 hsourceAddress, ?_⟩
    refine Option.bind_eq_some_iff.2 ⟨_, texts?_eq_some_iff.2 hmessageTypes, ?_⟩
    refine Option.bind_eq_some_iff.2 ⟨_, optionalText?_eq_some_iff.2 hsentTime, ?_⟩
    refine Option.bind_eq_some_iff.2 ⟨_, optionalText?_eq_some_iff.2 hexpirationTime, ?_⟩
    exact Option.bind_eq_some_iff.2 ⟨_, machine_eq_some_iff.2 hmachineName, rfl⟩

/-- What is read from a body: what its document offers for the fields of an envelope. -/
theorem ofEnvelope?_eq_some_iff {body : ByteArray} {m : Metadata} :
    Metadata.ofEnvelope? body = some m ↔
      ∃ node, Document body.toList node ∧ ∃ slots, Offers envelopeFields node slots ∧
        Carries slots m := by
  have hnodup : envelopeFields.flatten.Nodup := by decide
  simp only [Metadata.ofEnvelope?, Option.bind_eq_bind, Option.bind_eq_some_iff,
    read?_eq_some_iff, fields?_eq_some_iff hnodup, ofFields?_eq_some_iff]

/-- An envelope is read as the record, however it is laid out. -/
theorem ofEnvelope?_eq
    {body : ByteArray} {members : List (String × Node)} {m : Metadata}
    (hbody : read? body.toList = some node) (h : IsEnvelope node members m) :
    Metadata.ofEnvelope? body = some m :=
  ofEnvelope?_eq_some_iff.2 ⟨node, read?_eq_some_iff.1 hbody, _, .record h.isRecord h.once,
    .intro h.messageId h.conversationId h.correlationId h.sourceAddress h.messageTypes h.sentTime
      h.expirationTime (.named h.machineName)⟩

end Reading

/-! ### Documented envelopes -/

/-- The fields of an envelope that hold one text each. -/
def textFields : List (List String) :=
  [["messageId"], ["conversationId"], ["correlationId"], ["sourceAddress"], ["sentTime"],
    ["expirationTime"]]

/-- A record in which every known field occurs once at most, and those for texts hold one. -/
structure HasFields (node : Node) (members : List (String × Node)) : Prop where
  isRecord : node.IsRecord members
  once : ∀ names ∈ envelopeFields, Once names members
  texts : ∀ names ∈ textFields, ∃ value : Option String, IsText (member? names members) value

/-- An envelope as it is documented: what is missing may also be null. -/
structure Documented (node : Node) (members : List (String × Node)) : Prop
    extends HasFields node members where
  types : member? ["messageType"] members = some .null ∨
    ∃ types : List String, IsTexts (member? ["messageType"] members) types
  host : ∃ machine : Option String, NamesMachine (member? ["host"] members) machine

/-- A list in place of an envelope, or of the host in one. -/
inductive InOrder : Node → Prop
  | envelope {items : List Node} {m : Metadata} (hlength : items.length ≤ 8)
      (hitems : Carries (items.map some ++ List.replicate (8 - items.length) none) m) :
      InOrder (.list items)
  | host {node : Node} {members : List (String × Node)} {types : List String}
      {items : List Node} {machine : Option String} (hfields : HasFields node members)
      (htypes : IsTexts (member? ["messageType"] members) types)
      (hhost : member? ["host"] members = some (.list items))
      (hitems : ListsMachine items machine) : InOrder node

section Documentation

variable {node : Node} {members : List (String × Node)}

/-- The fields of a record carry metadata when each is of its type. -/
theorem exists_carries_iff :
    (∃ m, Carries (envelopeFields.map fun names => member? names members) m) ↔
      (∀ names ∈ textFields, ∃ value : Option String, IsText (member? names members) value) ∧
      (∃ types : List String, IsTexts (member? ["messageType"] members) types) ∧
      ∃ machine : Option String, FindsMachine (member? ["host"] members) machine := by
  simp only [textFields, List.forall_mem_cons, List.not_mem_nil, false_imp_iff, implies_true,
    and_true]
  constructor
  · rintro ⟨m, ha, hb, hc, hd, htypes, he, hf, hmachine⟩
    exact ⟨⟨⟨_, ha⟩, ⟨_, hb⟩, ⟨_, hc⟩, ⟨_, hd⟩, ⟨_, he⟩, ⟨_, hf⟩⟩, ⟨_, htypes⟩, ⟨_, hmachine⟩⟩
  · rintro ⟨⟨⟨a, ha⟩, ⟨b, hb⟩, ⟨c, hc⟩, ⟨d, hd⟩, ⟨e, he⟩, ⟨f, hf⟩⟩, ⟨types, htypes⟩,
      ⟨machine, hmachine⟩⟩
    exact ⟨⟨a, types, e, b, c, f, d, machine⟩, .intro ha hb hc hd htypes he hf hmachine⟩

/-- What is read as an envelope is documented, its types not null, or else in order. -/
theorem exists_offers_iff :
    (∃ slots, Offers envelopeFields node slots ∧ ∃ m, Carries slots m) ↔
      (∃ members, Documented node members ∧ member? ["messageType"] members ≠ some .null) ∨
        InOrder node := by
  constructor
  · rintro ⟨slots, hslots, hcarries⟩
    cases hslots with
    | @record _ members hnode honce =>
        obtain ⟨htexts, ⟨types, htypes⟩, machine, hmachine⟩ := exists_carries_iff.1 hcarries
        have hnull : member? ["messageType"] members ≠ some .null := by
          intro hnull
          rw [hnull] at htypes
          cases htypes
        generalize hslot : member? ["host"] members = slot at hmachine
        cases hmachine with
        | named hnames =>
            rw [← hslot] at hnames
            exact .inl ⟨members, ⟨⟨hnode, honce, htexts⟩, .inr ⟨types, htypes⟩, _, hnames⟩, hnull⟩
        | listed hitems => exact .inr (.host ⟨hnode, honce, htexts⟩ htypes hslot hitems)
    | list hlength =>
        obtain ⟨m, hm⟩ := hcarries
        exact .inr (.envelope hlength hm)
  · rintro (⟨members, hdocumented, hnull⟩ | hordered)
    · obtain ⟨machine, hmachine⟩ := hdocumented.host
      refine ⟨_, .record hdocumented.isRecord hdocumented.once, exists_carries_iff.2
        ⟨hdocumented.texts, hdocumented.types.resolve_left hnull, machine, .named hmachine⟩⟩
    · cases hordered with
      | envelope hlength hitems => exact ⟨_, .list hlength, _, hitems⟩
      | host hfields htypes hhost hitems =>
          have hmachine := FindsMachine.listed hitems
          rw [← hhost] at hmachine
          exact ⟨_, .record hfields.isRecord hfields.once, exists_carries_iff.2
            ⟨hfields.texts, ⟨_, htypes⟩, _, hmachine⟩⟩

end Documentation

/-- Which bodies are read as envelopes. -/
theorem exists_ofEnvelope?_iff {body : ByteArray} :
    (∃ m, Metadata.ofEnvelope? body = some m) ↔
      ∃ node, Document body.toList node ∧
        ((∃ members, Documented node members ∧ member? ["messageType"] members ≠ some .null) ∨
          InOrder node) := by
  simp only [ofEnvelope?_eq_some_iff, ← exists_offers_iff]
  constructor
  · rintro ⟨m, node, hnode, slots, hslots, hm⟩
    exact ⟨node, hnode, slots, hslots, m, hm⟩
  · rintro ⟨node, hnode, slots, hslots, m, hm⟩
    exact ⟨m, node, hnode, slots, hslots, hm⟩

/-- A fault with its metadata in its body is converted exactly when they can be read. -/
theorem convert_enveloped
    {fault : Received}
    (hreason : fault.headers[MassTransit.reason]? = some MassTransit.faultReason)
    (hid : MassTransit.messageId ∉ fault.headers) (now : Instant) :
    (∃ m, Metadata.ofEnvelope? fault.body = some m ∧
        ∃ (converted : Received) (about : List LogEvent),
          convert fault now = .ok (converted, about)) ∨
      Metadata.ofEnvelope? fault.body = none ∧
        convert fault now = .error (.invalidFormat "body is not a MassTransit envelope") := by
  have hmark : markError? fault.headers = none := by
    simp [markError?, hreason]
  have hshape : hasEnvelope fault = true := by
    rw [hasEnvelope, Std.ExtTreeMap.contains_eq_isSome_getElem?,
      Std.ExtTreeMap.getElem?_eq_none hid]
    rfl
  cases hread : Metadata.ofEnvelope? fault.body with
  | none =>
      have hdata : metadata? fault =
          .error (.invalidFormat "body is not a MassTransit envelope") := by
        rw [metadata?, if_pos hshape, hread]
      refine .inr ⟨rfl, ?_⟩
      rw [convert, hmark, hdata]
      rfl
  | some m =>
      have hdata : metadata? fault = .ok (m, []) := by
        rw [metadata?, if_pos hshape, hread]
      exact .inl ⟨m, rfl, _, _, convert_eq_ok_iff.2 ⟨hmark, m, [], hdata, rfl, rfl⟩⟩

/--
A fault with its metadata in its body is converted exactly when the body spells a documented
envelope whose message types are not null, or one that is read in order.
-/
theorem convert_envelope_iff
    {fault : Received}
    (hreason : fault.headers[MassTransit.reason]? = some MassTransit.faultReason)
    (hid : MassTransit.messageId ∉ fault.headers) (now : Instant) :
    ((∃ (converted : Received) (about : List LogEvent),
        convert fault now = .ok (converted, about)) ↔
      ∃ node, Document fault.body.toList node ∧
        ((∃ members, Documented node members ∧ member? ["messageType"] members ≠ some .null) ∨
          InOrder node)) ∧
    ((∀ (converted : Received) (about : List LogEvent),
        convert fault now ≠ .ok (converted, about)) →
      convert fault now = .error (.invalidFormat "body is not a MassTransit envelope")) := by
  rw [← exists_ofEnvelope?_iff]
  obtain ⟨m, hread, converted, about, hconverted⟩ | ⟨hread, hrefused⟩ :=
    convert_enveloped hreason hid now
  · exact ⟨⟨fun _ => ⟨m, hread⟩, fun _ => ⟨converted, about, hconverted⟩⟩,
      fun hnone => absurd hconverted (hnone converted about)⟩
  · refine ⟨⟨?_, ?_⟩, fun _ => hrefused⟩
    · rintro ⟨converted, about, hconverted⟩
      rw [hrefused] at hconverted
      cases hconverted
    · rintro ⟨m, hm⟩
      rw [hread] at hm
      cases hm

/-- A value that is written as an envelope, with a field that is not known and none for types. -/
theorem convert_envelope_iff_sparse :
    let v : Value := .record [("messageId", .null), ("trace", .list [.int 7, .bool true]),
      ("host", .record [("MachineName", .text "web-02")])]
    let fault : Received :=
      ⟨"native-1", Headers.ofPairs [("MT-Reason", "fault")], v.render.toUTF8, "orders_error", 0⟩
    fault.headers[MassTransit.reason]? = some MassTransit.faultReason ∧
      MassTransit.messageId ∉ fault.headers ∧
      ∃ (converted : Received) (about : List LogEvent),
        convert fault ⟨0, 0⟩ = .ok (converted, about) := by
  intro v fault
  have hbody : Document fault.body.toList v.node := read?_eq_some_iff.1 (read?_render v)
  have hhost : IsHost (Value.record [("MachineName", .text "web-02")]).node
      [("MachineName", (Value.text "web-02").node)] (some "web-02") :=
    ⟨isRecord_node _, by decide, .text (unquote?_quotedSource "web-02")⟩
  have hdocumented : Documented v.node [("messageId", Value.null.node),
      ("trace", (Value.list [.int 7, .bool true]).node),
      ("host", (Value.record [("MachineName", .text "web-02")]).node)] :=
    { isRecord := isRecord_node _
      once := by decide
      texts := by
        simp only [textFields, List.forall_mem_cons]
        exact ⟨⟨_, .null⟩, ⟨_, .absent⟩, ⟨_, .absent⟩, ⟨_, .absent⟩, ⟨_, .absent⟩, ⟨_, .absent⟩,
          by simp⟩
      types := .inr ⟨[], .absent⟩
      host := ⟨_, .record hhost⟩ }
  have hreason : fault.headers[MassTransit.reason]? = some MassTransit.faultReason := by decide
  have hid : MassTransit.messageId ∉ fault.headers := by decide
  exact ⟨hreason, hid, (convert_envelope_iff hreason hid ⟨0, 0⟩).1.2
    ⟨v.node, hbody, .inl ⟨_, hdocumented, nofun⟩⟩⟩

/-- Message types that are null are refused, and a list is converted. -/
theorem convert_undocumented :
    let fault (body : String) : Received :=
      ⟨"native-1", Headers.ofPairs [("MT-Reason", "fault")], body.toUTF8, "orders_error", 0⟩
    let nulls := fault "\x7b\"messageType\":null\x7d"
    let list := fault "[]"
    (∃ node members, Document nulls.body.toList node ∧ Documented node members) ∧
      convert nulls ⟨0, 0⟩ = .error (.invalidFormat "body is not a MassTransit envelope") ∧
      (¬∃ node members, Document list.body.toList node ∧ Documented node members) ∧
      ∃ (converted : Received) (about : List LogEvent),
        convert list ⟨0, 0⟩ = .ok (converted, about) := by
  intro fault nulls list
  have hreason : (Headers.ofPairs [("MT-Reason", "fault")])[MassTransit.reason]? =
      some MassTransit.faultReason := by decide
  have hid : MassTransit.messageId ∉ Headers.ofPairs [("MT-Reason", "fault")] := by decide
  have hnullsConvert : (∃ m, Metadata.ofEnvelope? nulls.body = some m ∧ _) ∨ _ :=
    convert_enveloped hreason hid ⟨0, 0⟩
  have hlistConvert : (∃ m, Metadata.ofEnvelope? list.body = some m ∧ _) ∨ _ :=
    convert_enveloped hreason hid ⟨0, 0⟩
  have hnulls : read? nulls.body.toList = some (.record [(quotedSource "messageType", .null)]) :=
    read?_render (.record [("messageType", .null)])
  have hlist : read? list.body.toList = some (.list []) := read?_render (.list [])
  have hrecord : IsRecord (.record [(quotedSource "messageType", .null)])
      [("messageType", .null)] := .intro (.cons ⟨unquote?_quotedSource _, rfl⟩ .nil)
  have honce : ∀ names ∈ envelopeFields, Once names [("messageType", Node.null)] := by decide
  refine ⟨⟨_, _, read?_eq_some_iff.1 hnulls, ⟨hrecord, honce, ?_⟩, .inl rfl, none, .absent⟩,
    ?_, ?_, ?_⟩
  · simp only [textFields, List.forall_mem_cons]
    exact ⟨⟨_, .absent⟩, ⟨_, .absent⟩, ⟨_, .absent⟩, ⟨_, .absent⟩, ⟨_, .absent⟩, ⟨_, .absent⟩,
      by simp⟩
  · have hread : Metadata.ofEnvelope? nulls.body = none := by
      simp only [Metadata.ofEnvelope?, hnulls, Option.bind_eq_bind, Option.bind_some,
        fields?_record (by decide) hrecord honce]
      rfl
    obtain ⟨m, hm, -⟩ | ⟨-, hrefused⟩ := hnullsConvert
    · rw [hread] at hm
      cases hm
    · exact hrefused
  · rintro ⟨node, members, hnode, hdocumented⟩
    have hread := read?_eq_some_iff.2 hnode
    rw [hlist, Option.some.injEq] at hread
    subst hread
    cases hdocumented.isRecord
  · have hread : ∃ m, Metadata.ofEnvelope? list.body = some m := by
      simp only [Metadata.ofEnvelope?, hlist]
      exact ⟨_, rfl⟩
    obtain ⟨m, hm⟩ := hread
    obtain ⟨-, -, hconverted⟩ | ⟨hnone, -⟩ := hlistConvert
    · exact hconverted
    · rw [hm] at hnone
      cases hnone

end Fault
end FaultRelay
