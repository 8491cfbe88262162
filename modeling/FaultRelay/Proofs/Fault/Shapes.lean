import FaultRelay.Proofs.Fault.Envelope
import FaultRelay.Proofs.Json.ReadBack

/-!
# The two shapes of a fault

The same message may fail in one of two shapes: as an envelope, with its metadata in the body,
or flat, with its metadata in eight headers.

**Input.**  A metadata record, and two faults that carry it: an envelope with some headers, and a
flat fault with those headers and the eight of the record.

**Results.**
* `ofHeaders_eq`: the headers of a flat fault are read as the record, except that a machine
  that the record does not name is taken from a ninth header.
* `Shapes.of_record`: every record has the two shapes.
* `Shapes.converts_alike_iff`: conversion writes the same headers for both, the content type
  apart, exactly when that ninth header makes no difference.
-/

namespace FaultRelay
namespace Fault

open Text Time Json Json.Node

/-! ### The record as an envelope -/

/-- A text, or nothing. -/
def textValue : Option String → Value
  | none => .null
  | some s => .text s

theorem isText_textValue (value : Option String) :
    IsText (some (textValue value).node) value := by
  cases value with
  | none => exact .null
  | some s => exact .text (unquote?_quotedSource s)

theorem text?_itemNodes (types : List String) :
    List.Forall₂ (fun node t => node.text? = some t) (itemNodes (types.map .text)) types := by
  induction types with
  | nil => exact .nil
  | cons t types ih => exact .cons (unquote?_quotedSource t) ih

/-- The members of a description of the host of the record. -/
def Metadata.hostMembers (m : Metadata) : List (String × Value) :=
  [("machineName", textValue m.machineName)]

theorem isHost_hostMembers (m : Metadata) :
    IsHost (Value.record m.hostMembers).node [("machineName", (textValue m.machineName).node)]
      m.machineName where
  isRecord := isRecord_node m.hostMembers
  once := by
    have hone : (["machineName"].filter fun key => machineNames.contains key).length ≤ 1 := by
      decide
    exact hone
  machineName := isText_textValue m.machineName

/-- The members of an envelope of the record. -/
def Metadata.members (m : Metadata) : List (String × Value) :=
  [("messageId", textValue m.messageId), ("conversationId", textValue m.conversationId),
    ("correlationId", textValue m.correlationId), ("sourceAddress", textValue m.sourceAddress),
    ("messageType", .list (m.messageTypes.map .text)), ("sentTime", textValue m.sentTime),
    ("expirationTime", textValue m.expirationTime), ("host", .record m.hostMembers)]

theorem isEnvelope_members (m : Metadata) :
    IsEnvelope (Value.record m.members).node (m.members.map fun p => (p.1, p.2.node)) m where
  isRecord := isRecord_node m.members
  once := by
    have hone : ∀ names ∈ envelopeFields, (["messageId", "conversationId", "correlationId",
        "sourceAddress", "messageType", "sentTime", "expirationTime", "host"].filter
          fun key => names.contains key).length ≤ 1 := by
      decide
    exact hone
  messageId := isText_textValue m.messageId
  conversationId := isText_textValue m.conversationId
  correlationId := isText_textValue m.correlationId
  sourceAddress := isText_textValue m.sourceAddress
  messageTypes := .list (text?_itemNodes m.messageTypes)
  sentTime := isText_textValue m.sentTime
  expirationTime := isText_textValue m.expirationTime
  machineName := .record (isHost_hostMembers m)

/-! ### The record in headers -/

/-- A message type that can stand in a list with semicolons. -/
structure IsPlainType (t : String) : Prop where
  nonempty : t ≠ ""
  trimmed : trim t = t
  single : ';' ∉ t.toList

/-- A list with semicolons is read as the types that were joined. -/
theorem splitTypes_intercalate
    {types : List String} (hne : types ≠ []) (h : ∀ t ∈ types, IsPlainType t) :
    splitTypes (";".intercalate types) = types := by
  have hsingle : ∀ cs ∈ types.map String.toList, ';' ∉ cs := by
    intro cs hcs
    obtain ⟨t, ht, rfl⟩ := List.mem_map.1 hcs
    exact (h t ht).single
  have hsplit : (";".intercalate types).toList.splitOn ';' = types.map String.toList := by
    rw [String.toList_intercalate]
    exact List.splitOn_intercalate ';' hsingle (by simpa using hne)
  have htrim : types.map trim = types.map id :=
    List.map_congr_left fun t ht => (h t ht).trimmed
  rw [splitTypes, hsplit, List.map_map]
  change (types.map trim).filter _ = types
  rw [htrim, List.map_id, List.filter_eq_self]
  intro t ht
  simpa using (h t ht).nonempty

/-- A description of the host in a header, when the record names its machine. -/
inductive IsHostInfo : Option String → Option String → Prop
  | absent : IsHostInfo none none
  | document {info machine : String} {node : Node} {members : List (String × Node)} :
      read? (Utf8.encode info) = some node → IsHost node members (some machine) →
      IsHostInfo (some info) (some machine)

/-- A description of the host of the record. -/
def Metadata.hostInfo (m : Metadata) : Option String :=
  m.machineName.map fun _ => (Value.record m.hostMembers).render

theorem isHostInfo_hostInfo (m : Metadata) : IsHostInfo m.hostInfo m.machineName := by
  have hread := read?_render (.record m.hostMembers)
  have hhost := isHost_hostMembers m
  rw [Metadata.hostInfo]
  cases hmachine : m.machineName with
  | none => exact .absent
  | some machine =>
      rw [hmachine] at hhost
      exact .document hread hhost

/-- The headers that carry the record in a flat fault. -/
def Metadata.flatHeaders (m : Metadata) (info : Option String) : List (String × Option String) :=
  [(MassTransit.messageId, m.messageId),
    (MassTransit.messageType,
      if m.messageTypes.isEmpty then none else some (";".intercalate m.messageTypes)),
    (MassTransit.sentTime, m.sentTime),
    (MassTransit.conversationId, m.conversationId),
    (MassTransit.correlationId, m.correlationId),
    (MassTransit.expirationTime, m.expirationTime),
    (MassTransit.sourceAddress, m.sourceAddress),
    (MassTransit.hostInfo, info)]

/-- The names of those headers. -/
def flatNames : List String :=
  [MassTransit.messageId, MassTransit.messageType, MassTransit.sentTime,
    MassTransit.conversationId, MassTransit.correlationId, MassTransit.expirationTime,
    MassTransit.sourceAddress, MassTransit.hostInfo]

/-- The record with the machine that a flat fault falls back to. -/
def Metadata.withFallback (m : Metadata) (h : Headers) : Metadata :=
  { m with machineName := m.machineName.or h[MassTransit.hostMachineName]? }

section Flat

variable (m : Metadata) (info : Option String) {h : Headers}

theorem getElem?_flatHeaders
    {name : String} (hname : name ∉ flatNames) :
    (h.write (m.flatHeaders info))[name]? = h[name]? :=
  Headers.getElem?_write_of_notMem hname h

/-- A header of the record holds what the record says, when it was free. -/
theorem getElem?_flatHeaders_of_free
    (hfree : ∀ name ∈ flatNames, name ∉ h) {name : String} (hname : name ∈ flatNames) :
    (h.write (m.flatHeaders info))[name]? = ((m.flatHeaders info).lookup name).join := by
  have hnone : h[name]? = none := Std.ExtTreeMap.getElem?_eq_none (hfree name hname)
  have hnodup : ((m.flatHeaders info).map Prod.fst).Nodup := by
    change flatNames.Nodup
    decide
  rw [Headers.getElem?_write hnodup, hnone, Option.or_none]

/-- The machine of a flat fault is the one of the record, or else of a header of its own. -/
theorem machineOfHeaders_flat
    {m : Metadata} {info : Option String} (hinfo : IsHostInfo info m.machineName)
    (hfree : ∀ name ∈ flatNames, name ∉ h) :
    machineOfHeaders (h.write (m.flatHeaders info)) =
      (m.machineName.or h[MassTransit.hostMachineName]?, []) := by
  have hplain : (h.write (m.flatHeaders info))[MassTransit.hostMachineName]? =
      h[MassTransit.hostMachineName]? := getElem?_flatHeaders m info (by decide)
  have hheader : (h.write (m.flatHeaders info))[MassTransit.hostInfo]? = info :=
    getElem?_flatHeaders_of_free m info hfree (by decide)
  unfold machineOfHeaders
  rw [hplain, hheader]
  revert hinfo
  generalize m.machineName = machine
  rintro (_ | ⟨hread, hhost⟩)
  · rfl
  · simp only [hread, Option.bind_some, hostMachine?_eq_some_iff.2 (.inl ⟨_, hhost⟩), Option.some_or]

/-- The headers of a flat fault are read as the record, its machine apart. -/
theorem ofHeaders_eq
    {m : Metadata} {info : Option String} (hinfo : IsHostInfo info m.machineName)
    (hfree : ∀ name ∈ flatNames, name ∉ h) (htypes : ∀ t ∈ m.messageTypes, IsPlainType t) :
    Metadata.ofHeaders (h.write (m.flatHeaders info)) = (m.withFallback h, []) := by
  have hholds : ∀ name ∈ flatNames,
      (h.write (m.flatHeaders info))[name]? = ((m.flatHeaders info).lookup name).join :=
    fun name hname => getElem?_flatHeaders_of_free m info hfree hname
  have hid : (h.write (m.flatHeaders info))[MassTransit.messageId]? = m.messageId :=
    hholds _ (by decide)
  have hlist : (h.write (m.flatHeaders info))[MassTransit.messageType]? =
      if m.messageTypes.isEmpty then none else some (";".intercalate m.messageTypes) :=
    hholds _ (by decide)
  have hsent : (h.write (m.flatHeaders info))[MassTransit.sentTime]? = m.sentTime :=
    hholds _ (by decide)
  have hconversation : (h.write (m.flatHeaders info))[MassTransit.conversationId]? =
      m.conversationId := hholds _ (by decide)
  have hcorrelation : (h.write (m.flatHeaders info))[MassTransit.correlationId]? =
      m.correlationId := hholds _ (by decide)
  have hexpiration : (h.write (m.flatHeaders info))[MassTransit.expirationTime]? =
      m.expirationTime := hholds _ (by decide)
  have hsource : (h.write (m.flatHeaders info))[MassTransit.sourceAddress]? =
      m.sourceAddress := hholds _ (by decide)
  have hread : ((if m.messageTypes.isEmpty then none
      else some (";".intercalate m.messageTypes)).map splitTypes).getD [] = m.messageTypes := by
    by_cases hempty : m.messageTypes = []
    · rw [hempty]
      rfl
    · rw [if_neg (by simpa using hempty), Option.map_some, Option.getD_some,
        splitTypes_intercalate hempty htypes]
  rw [Metadata.ofHeaders, Metadata.withFallback, machineOfHeaders_flat hinfo hfree, hid, hlist,
    hsent, hconversation, hcorrelation, hexpiration, hsource, hread]

end Flat

/-! ### Conversion of the two shapes -/

/-- Two faults, an envelope and a flat one, that carry the same record. -/
structure Shapes (m : Metadata) (h : Headers) (enveloped flat : Received) : Prop where
  messageId : m.messageId.isSome = true
  messageTypes : ∀ t ∈ m.messageTypes, IsPlainType t
  reason : h[MassTransit.reason]? = some MassTransit.faultReason
  free : ∀ name ∈ flatNames, name ∉ h
  headers : enveloped.headers = h
  body : ∃ node members, read? enveloped.body.toList = some node ∧ IsEnvelope node members m
  flatHeaders : ∃ info, IsHostInfo info m.machineName ∧
    flat.headers = h.write (m.flatHeaders info)
  nativeId : flat.nativeId = enveloped.nativeId
  address : flat.address = enveloped.address

section Written

variable {m : Metadata} {fault other : Received} {now : Instant}

/-- A fault whose metadata can be read is converted. -/
theorem convert_eq_ok
    {odd : List LogEvent}
    (hreason : fault.headers[MassTransit.reason]? = some MassTransit.faultReason)
    (hdata : metadata? fault = .ok (m, odd)) (now : Instant) :
    ∃ about, convert fault now =
      .ok ({ fault with headers := fault.headers.write (writtenHeaders m fault now) }, about) := by
  have hmark : markError? fault.headers = none := by
    simp [markError?, hreason]
  exact ⟨_, convert_eq_ok_iff.2 ⟨hmark, m, odd, hdata, rfl, rfl⟩⟩

theorem messageHeaders_congr
    (hid : other.nativeId = fault.nativeId)
    (htime : faultTime? other.headers = faultTime? fault.headers) :
    messageHeaders m other now = messageHeaders m fault now := by
  simp only [messageHeaders, Metadata.timeToLive?, Metadata.sent?, hid, htime]

theorem lookup_messageHeaders
    {name : String} (hname : name ≠ NServiceBus.originatingMachine) (machine : Option String) :
    (messageHeaders { m with machineName := machine } fault now).lookup name =
      (messageHeaders m fault now).lookup name := by
  -- The machine is the last of these headers.
  have hlast : ∀ machine : Option String,
      messageHeaders { m with machineName := machine } fault now =
        (messageHeaders m fault now).dropLast ++ [(NServiceBus.originatingMachine, machine)] :=
    fun _ => rfl
  have hother : ∀ machine : Option String,
      [(NServiceBus.originatingMachine, machine)].lookup name = none := by
    intro machine
    have hne : (name == NServiceBus.originatingMachine) = false := by simpa using hname
    rw [List.lookup_cons, hne, List.lookup_nil]
  have hsame : messageHeaders m fault now =
      (messageHeaders m fault now).dropLast ++
        [(NServiceBus.originatingMachine, m.machineName)] := hlast m.machineName
  conv_rhs => rw [hsame]
  rw [hlast machine, List.lookup_append, List.lookup_append, hother, hother]

theorem getElem?_write_originatingMachine :
    (fault.headers.write (writtenHeaders m fault now))[NServiceBus.originatingMachine]? =
      m.machineName.or fault.headers[NServiceBus.originatingMachine]? := by
  rw [Headers.getElem?_write (nodup_writtenHeaders m fault now)]
  rfl

end Written

namespace Shapes

variable {m : Metadata} {h : Headers} {enveloped flat : Received}

/-- Only the headers of the record make a difference. -/
theorem getElem?_flat
    (s : Shapes m h enveloped flat) {name : String} (hname : name ∉ flatNames) :
    flat.headers[name]? = h[name]? := by
  obtain ⟨info, -, hheaders⟩ := s.flatHeaders
  rw [hheaders]
  exact getElem?_flatHeaders m info hname

theorem metadata?_enveloped (s : Shapes m h enveloped flat) :
    metadata? enveloped = .ok (m, []) := by
  obtain ⟨node, members, hbody, henvelope⟩ := s.body
  have hshape : hasEnvelope enveloped = true := by
    have hfree : MassTransit.messageId ∉ h := s.free _ (by decide)
    rw [hasEnvelope, s.headers, Std.ExtTreeMap.contains_eq_isSome_getElem?,
      Std.ExtTreeMap.getElem?_eq_none hfree]
    rfl
  rw [metadata?, if_pos hshape, ofEnvelope?_eq hbody henvelope]

theorem metadata?_flat (s : Shapes m h enveloped flat) :
    metadata? flat = .ok (m.withFallback h, []) := by
  obtain ⟨info, hinfo, hheaders⟩ := s.flatHeaders
  have hid : flat.headers[MassTransit.messageId]? = m.messageId := by
    rw [hheaders]
    exact getElem?_flatHeaders_of_free m info s.free (by decide)
  have hshape : hasEnvelope flat = false := by
    rw [hasEnvelope, Std.ExtTreeMap.contains_eq_isSome_getElem?, hid, s.messageId]
    rfl
  rw [metadata?, hshape, if_neg (by decide), hheaders, ofHeaders_eq hinfo s.free s.messageTypes]

/-- What is written about the failure does not depend on where the machine was found. -/
theorem failureHeaders_flat (s : Shapes m h enveloped flat) (now : Instant) :
    failureHeaders (m.withFallback h) flat now = failureHeaders m enveloped now := by
  have hsame : ∀ name ∉ flatNames, flat.headers[name]? = enveloped.headers[name]? := by
    intro name hname
    rw [s.getElem?_flat hname, s.headers]
  -- The fallback of a flat fault finds nothing that is not found first here.
  have hmachine : h[MassTransit.hostMachineName]?.or (m.withFallback h).machineName =
      h[MassTransit.hostMachineName]?.or m.machineName := by
    rw [Metadata.withFallback]
    cases h[MassTransit.hostMachineName]? with
    | none => rw [Option.or_none]
    | some machine => rfl
  have hinput : flat.headers.contains MassTransit.inputAddress =
      enveloped.headers.contains MassTransit.inputAddress := by
    rw [Std.ExtTreeMap.contains_eq_isSome_getElem?, Std.ExtTreeMap.contains_eq_isSome_getElem?,
      hsame _ (by decide)]
  simp only [failureHeaders, inputAddress, faultTime?, hinput, s.address,
    hsame MassTransit.retryCount (by decide), hsame MassTransit.inputAddress (by decide),
    hsame MassTransit.exceptionType (by decide), hsame MassTransit.exceptionMessage (by decide),
    hsame MassTransit.stackTrace (by decide), hsame MassTransit.timestamp (by decide),
    s.getElem?_flat (by decide : MassTransit.hostMachineName ∉ flatNames), hmachine, s.headers]

theorem lookup_writtenHeaders_flat
    (s : Shapes m h enveloped flat) (now : Instant) {name : String}
    (hcontent : name ≠ NServiceBus.contentType)
    (hmachine : name ≠ NServiceBus.originatingMachine) :
    (writtenHeaders (m.withFallback h) flat now).lookup name =
      (writtenHeaders m enveloped now).lookup name := by
  have htime : faultTime? flat.headers = faultTime? enveloped.headers := by
    rw [faultTime?, faultTime?, s.getElem?_flat (by decide), s.headers]
  have hother : (name == NServiceBus.contentType) = false := by simpa using hcontent
  rw [writtenHeaders, writtenHeaders, List.lookup_cons, List.lookup_cons, hother,
    s.failureHeaders_flat now]
  simp only [List.lookup_append, messageHeaders_congr s.nativeId htime, Metadata.withFallback,
    lookup_messageHeaders hmachine]

/-- Every record has the two shapes. -/
theorem of_record
    (hid : m.messageId.isSome = true) (htypes : ∀ t ∈ m.messageTypes, IsPlainType t)
    (hreason : h[MassTransit.reason]? = some MassTransit.faultReason)
    (hfree : ∀ name ∈ flatNames, name ∉ h)
    (id address : String) (body : ByteArray) (failures failures' : Nat) :
    Shapes m h ⟨id, h, (Value.record m.members).render.toUTF8, address, failures⟩
      ⟨id, h.write (m.flatHeaders m.hostInfo), body, address, failures'⟩ where
  messageId := hid
  messageTypes := htypes
  reason := hreason
  free := hfree
  headers := rfl
  body := ⟨_, _, read?_render (.record m.members), isEnvelope_members m⟩
  flatHeaders := ⟨m.hostInfo, isHostInfo_hostInfo m, rfl⟩
  nativeId := rfl
  address := rfl

/-- The two shapes are converted, and only the machine of the sender may differ. -/
theorem convert_both
    (s : Shapes m h enveloped flat) (now : Instant) :
    ∃ (fromEnvelope fromFlat : Received) (odd odd' : List LogEvent),
      convert enveloped now = .ok (fromEnvelope, odd) ∧
      convert flat now = .ok (fromFlat, odd') ∧
      (∀ name : String, Text.beginsWith NServiceBus.family name = true →
        name ≠ NServiceBus.contentType → name ≠ NServiceBus.originatingMachine →
          fromFlat.headers[name]? = fromEnvelope.headers[name]?) ∧
      fromEnvelope.headers[NServiceBus.originatingMachine]? =
        m.machineName.or h[NServiceBus.originatingMachine]? ∧
      fromFlat.headers[NServiceBus.originatingMachine]? =
        (m.machineName.or h[MassTransit.hostMachineName]?).or
          h[NServiceBus.originatingMachine]? := by
  have hreason : flat.headers[MassTransit.reason]? = some MassTransit.faultReason := by
    rw [s.getElem?_flat (by decide), s.reason]
  have hreason' : enveloped.headers[MassTransit.reason]? = some MassTransit.faultReason := by
    rw [s.headers, s.reason]
  obtain ⟨odd, henveloped⟩ := convert_eq_ok hreason' s.metadata?_enveloped now
  obtain ⟨odd', hflat⟩ := convert_eq_ok hreason s.metadata?_flat now
  refine ⟨_, _, odd, odd', henveloped, hflat, ?_, ?_, ?_⟩
  · intro name hfamily hcontent hmachine
    have hother : name ∉ flatNames := by
      intro hmem
      have hall : ∀ name ∈ flatNames, Text.beginsWith NServiceBus.family name = false := by
        decide
      rw [hall name hmem] at hfamily
      cases hfamily
    rw [Headers.getElem?_write (nodup_writtenHeaders _ _ _),
      Headers.getElem?_write (nodup_writtenHeaders _ _ _),
      s.lookup_writtenHeaders_flat now hcontent hmachine, s.getElem?_flat hother, s.headers]
  · rw [getElem?_write_originatingMachine, s.headers]
  · rw [getElem?_write_originatingMachine, s.getElem?_flat (by decide), Metadata.withFallback]

/--
Conversion succeeds for both shapes and writes the same headers, the content type apart, exactly
when the record names a machine or the header that a flat fault falls back to changes nothing.
-/
theorem converts_alike_iff
    (s : Shapes m h enveloped flat) (now : Instant) :
    ∃ (fromEnvelope fromFlat : Received) (odd odd' : List LogEvent),
      convert enveloped now = .ok (fromEnvelope, odd) ∧
      convert flat now = .ok (fromFlat, odd') ∧
      (∀ name : String, Text.beginsWith NServiceBus.family name = true →
        name ≠ NServiceBus.contentType → name ≠ NServiceBus.originatingMachine →
          fromFlat.headers[name]? = fromEnvelope.headers[name]?) ∧
      ((∀ name : String, Text.beginsWith NServiceBus.family name = true →
          name ≠ NServiceBus.contentType →
            fromFlat.headers[name]? = fromEnvelope.headers[name]?) ↔
        m.machineName.isSome = true ∨ h[MassTransit.hostMachineName]? = none ∨
          h[MassTransit.hostMachineName]? = h[NServiceBus.originatingMachine]?) := by
  obtain ⟨fromEnvelope, fromFlat, odd, odd', henveloped, hflat, hothers, hmachine, hmachine'⟩ :=
    s.convert_both now
  refine ⟨fromEnvelope, fromFlat, odd, odd', henveloped, hflat, hothers, ?_⟩
  have hiff : fromFlat.headers[NServiceBus.originatingMachine]? =
        fromEnvelope.headers[NServiceBus.originatingMachine]? ↔
      m.machineName.isSome = true ∨ h[MassTransit.hostMachineName]? = none ∨
        h[MassTransit.hostMachineName]? = h[NServiceBus.originatingMachine]? := by
    rw [hmachine, hmachine']
    cases m.machineName with
    | some machine => simp
    | none =>
        cases h[MassTransit.hostMachineName]? with
        | none => simp
        | some machine => simp
  rw [← hiff]
  constructor
  · intro hall
    exact hall _ (by decide) (by decide)
  · intro hsame name hfamily hcontent
    by_cases hname : name = NServiceBus.originatingMachine
    · rw [hname, hsame]
    · exact hothers name hfamily hcontent hname

/-- A record that names its machine, in both shapes. -/
theorem converts_alike_named :
    let m : Metadata :=
      ⟨some "msg-1", ["urn:message:Sales:OrderPlaced", "urn:message:Sales:IOrderEvent"],
        some "2024-03-05T14:07:09Z", some "conv-1", none, some "2024-03-05T14:08:39Z",
        some "rabbitmq://localhost/sales/api", some "web-02"⟩
    let h := Headers.ofPairs [("MT-Reason", "fault"), ("MT-Host-MachineName", "worker-07")]
    let enveloped : Received :=
      ⟨"native-1", h, (Value.record m.members).render.toUTF8, "orders_error", 0⟩
    let flat : Received :=
      ⟨"native-1", h.write (m.flatHeaders m.hostInfo), "raw".toUTF8, "orders_error", 0⟩
    Shapes m h enveloped flat ∧
      ∃ (fromEnvelope fromFlat : Received) (odd odd' : List LogEvent),
        convert enveloped ⟨0, 0⟩ = .ok (fromEnvelope, odd) ∧
        convert flat ⟨0, 0⟩ = .ok (fromFlat, odd') ∧
        ∀ name : String, Text.beginsWith NServiceBus.family name = true →
          name ≠ NServiceBus.contentType →
            fromFlat.headers[name]? = fromEnvelope.headers[name]? := by
  intro m h enveloped flat
  have htypes : ∀ t ∈ m.messageTypes, IsPlainType t := by
    intro t ht
    have hcases : t = "urn:message:Sales:OrderPlaced" ∨ t = "urn:message:Sales:IOrderEvent" := by
      simpa [m] using ht
    rcases hcases with rfl | rfl
    · exact ⟨by decide, by decide, by decide⟩
    · exact ⟨by decide, by decide, by decide⟩
  have s : Shapes m h enveloped flat :=
    of_record rfl htypes (by decide) (by decide) "native-1" "orders_error" "raw".toUTF8 0 0
  obtain ⟨fromEnvelope, fromFlat, odd, odd', henveloped, hflat, -, hiff⟩ :=
    s.converts_alike_iff ⟨0, 0⟩
  exact ⟨s, fromEnvelope, fromFlat, odd, odd', henveloped, hflat, hiff.2 (.inl rfl)⟩

/-- A record that does not name its machine: only the flat fault gets one. -/
theorem converts_differently :
    let m : Metadata :=
      ⟨some "msg-1", ["urn:message:Sales:OrderPlaced"], some "2024-03-05T14:07:09Z",
        some "conv-1", none, none, some "rabbitmq://localhost/sales/api", none⟩
    let h := Headers.ofPairs [("MT-Reason", "fault"), ("MT-Host-MachineName", "worker-07")]
    let enveloped : Received :=
      ⟨"native-1", h, (Value.record m.members).render.toUTF8, "orders_error", 0⟩
    let flat : Received :=
      ⟨"native-1", h.write (m.flatHeaders m.hostInfo), "raw".toUTF8, "orders_error", 0⟩
    Shapes m h enveloped flat ∧
      ∃ (fromEnvelope fromFlat : Received) (odd odd' : List LogEvent),
        convert enveloped ⟨0, 0⟩ = .ok (fromEnvelope, odd) ∧
        convert flat ⟨0, 0⟩ = .ok (fromFlat, odd') ∧
        fromEnvelope.headers["NServiceBus.OriginatingMachine"]? = none ∧
        fromFlat.headers["NServiceBus.OriginatingMachine"]? = some "worker-07" := by
  intro m h enveloped flat
  have htypes : ∀ t ∈ m.messageTypes, IsPlainType t := by
    intro t ht
    have heq : t = "urn:message:Sales:OrderPlaced" := by
      simpa [m] using ht
    subst heq
    exact ⟨by decide, by decide, by decide⟩
  have s : Shapes m h enveloped flat :=
    of_record rfl htypes (by decide) (by decide) "native-1" "orders_error" "raw".toUTF8 0 0
  obtain ⟨fromEnvelope, fromFlat, odd, odd', henveloped, hflat, -, hmachine, hmachine'⟩ :=
    s.convert_both ⟨0, 0⟩
  have hnone : h[NServiceBus.originatingMachine]? = none := by decide
  have hplain : h[MassTransit.hostMachineName]? = some "worker-07" := by decide
  rw [hnone] at hmachine
  rw [hplain] at hmachine'
  exact ⟨s, fromEnvelope, fromFlat, odd, odd', henveloped, hflat, hmachine, hmachine'⟩

end Shapes

end Fault
end FaultRelay
