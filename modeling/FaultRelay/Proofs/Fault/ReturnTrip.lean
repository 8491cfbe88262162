import FaultRelay.Fault.Adapter
import FaultRelay.Proofs.Headers
import Mathlib.Data.List.Nodup

/-!
# A fault that is forwarded and comes back

ServiceControl lays headers of its own over the headers of a forwarded fault and sends
the message back.  What the source then gets is the fault without the headers of the two
foreign families, with two exceptions and with the address of its input queue.

**Input.**  A fault that was forwarded, and the headers that a retry lays over it, all of
the family of ServiceControl.

**Results.**
* `getElem?_write_of_other_family`: what conversion leaves in the headers of a fault.
* `giveBack_forward`: the message that is returned, header by header.
-/

namespace FaultRelay
namespace Fault

open Time

/-- The names of the headers that conversion may write. -/
def writtenNames : List String :=
  [NServiceBus.contentType, NServiceBus.messageId, NServiceBus.enclosedMessageTypes,
    NServiceBus.timeSent, NServiceBus.conversationId, NServiceBus.correlationId,
    NServiceBus.timeToBeReceived, NServiceBus.originatingEndpoint,
    NServiceBus.originatingMachine, NServiceBus.retries, MassTransit.inputAddress,
    NServiceBus.processingEndpoint, NServiceBus.failedQueue, NServiceBus.processingMachine,
    NServiceBus.exceptionType, NServiceBus.exceptionMessage, NServiceBus.stackTrace,
    NServiceBus.timeOfFailure]

/-- A name of one of the two families that the source does not know. -/
def isOfForeignFamily (name : String) : Bool :=
  Text.beginsWith NServiceBus.family name || Text.beginsWith ServiceControl.family name

section Forwarded

variable (m : Metadata) (fault : Received) (now : Instant)

theorem map_fst_writtenHeaders :
    (writtenHeaders m fault now).map Prod.fst = writtenNames := rfl

theorem nodup_writtenHeaders :
    ((writtenHeaders m fault now).map Prod.fst).Nodup := by
  rw [map_fst_writtenHeaders]
  decide

/-- Of the names that are written only one is not a name of NServiceBus. -/
theorem family_of_mem_writtenNames
    {name : String} (hname : name ∈ writtenNames) :
    Text.beginsWith NServiceBus.family name = true ∨ name = MassTransit.inputAddress := by
  have hall : ∀ name ∈ writtenNames,
      Text.beginsWith NServiceBus.family name = true ∨ name = MassTransit.inputAddress := by
    decide
  exact hall name hname

/-- Conversion leaves the headers of other families alone. -/
theorem getElem?_write_of_other_family
    {name : String} (hfamily : Text.beginsWith NServiceBus.family name = false)
    (hinput : name ≠ MassTransit.inputAddress) :
    (fault.headers.write (writtenHeaders m fault now))[name]? = fault.headers[name]? := by
  apply Headers.getElem?_write_of_notMem
  rw [map_fst_writtenHeaders]
  intro hmem
  rcases family_of_mem_writtenNames hmem with h | h
  · rw [h] at hfamily
    cases hfamily
  · exact hinput h

/-- Conversion adds the input address when there is none. -/
theorem getElem?_write_inputAddress :
    (fault.headers.write (writtenHeaders m fault now))[MassTransit.inputAddress]? =
      some (fault.headers[MassTransit.inputAddress]?.getD ("queue:" ++ fault.address)) := by
  have hlookup : (writtenHeaders m fault now).lookup MassTransit.inputAddress =
      some (if fault.headers.contains MassTransit.inputAddress then none
        else some ("queue:" ++ fault.address)) := rfl
  rw [Headers.getElem?_write (nodup_writtenHeaders m fault now), hlookup]
  cases h : fault.headers[MassTransit.inputAddress]? with
  | none => simp [Std.ExtTreeMap.contains_eq_isSome_getElem?, h]
  | some address => simp [Std.ExtTreeMap.contains_eq_isSome_getElem?, h]

theorem getElem?_write_contentType :
    (fault.headers.write (writtenHeaders m fault now))[NServiceBus.contentType]? =
      some (contentType fault) := by
  rw [Headers.getElem?_write (nodup_writtenHeaders m fault now)]
  rfl

theorem getElem?_write_messageId :
    (fault.headers.write (writtenHeaders m fault now))[NServiceBus.messageId]? =
      some (m.messageId.getD fault.nativeId) := by
  rw [Headers.getElem?_write (nodup_writtenHeaders m fault now)]
  rfl

theorem contentType_eq :
    contentType fault =
      if fault.headers.contains "MessageId" then "application/json"
      else "application/vnd.masstransit+json" := by
  unfold contentType hasEnvelope
  rw [show MassTransit.messageId = "MessageId" from rfl]
  cases fault.headers.contains "MessageId" <;> rfl

end Forwarded

/-- A message is converted when it is marked as a fault and says what failed. -/
theorem convert_eq_ok_iff
    {fault converted : Received} {now : Instant} {odd : List LogEvent} :
    convert fault now = .ok (converted, odd) ↔
      markError? fault.headers = none ∧ ∃ (m : Metadata) (about : List LogEvent),
        metadata? fault = .ok (m, about) ∧
        converted = { fault with headers := fault.headers.write (writtenHeaders m fault now) } ∧
        odd = about ++ messageWarnings m fault ++ failureWarnings fault := by
  cases hmark : markError? fault.headers with
  | some e => simp [convert, hmark]
  | none =>
      cases hdata : metadata? fault with
      | error e => simp [convert, hmark, hdata, bind, Except.bind]
      | ok data =>
          obtain ⟨m, about⟩ := data
          simp only [convert, hmark, hdata, bind, Except.bind, pure, Except.pure,
            Except.ok.injEq, Prod.mk.injEq, true_and]
          constructor
          · rintro ⟨rfl, rfl⟩
            exact ⟨m, about, ⟨rfl, rfl⟩, rfl, rfl⟩
          · rintro ⟨_, _, ⟨rfl, rfl⟩, rfl, rfl⟩
            exact ⟨rfl, rfl⟩

/-- A name that a returned message may not have belongs to a foreign family. -/
theorem isForeign_of_family
    {name : String} (hack : name ≠ ServiceControl.acknowledgementQueue)
    (hunique : name ≠ ServiceControl.uniqueMessageId) :
    isForeign name = isOfForeignFamily name := by
  have hkept : keptOnReturn.contains name = false := by
    simp [keptOnReturn, hack, hunique]
  rw [isForeign, hkept]
  simp [isOfForeignFamily]

theorem getElem?_withoutForeign (h : Headers) (name : String) :
    (withoutForeign h)[name]? = if isForeign name then none else h[name]? := by
  rw [withoutForeign, Headers.getElem?_filter h fun name => !isForeign name]
  cases isForeign name <;> rfl

namespace Adapter

variable {a : Adapter} {fault sent : Received} {op : Operation} {now : Instant}
  {odd : List LogEvent}

/-- A fault is forwarded with its body, the written headers and the address for its return. -/
theorem forward_eq_ok
    (h : a.forward fault now = (sent, .ok op, odd)) :
    ∃ m : Metadata,
      op = ⟨a.errorQueue, m.messageId.getD fault.nativeId,
        (fault.headers.write (writtenHeaders m fault now)).insert
          ServiceControl.retryTo a.returnQueue,
        fault.body, ∅⟩ := by
  unfold forward at h
  cases hconvert : convert fault now with
  | error e => simp [hconvert] at h
  | ok data =>
      obtain ⟨converted, about⟩ := data
      simp only [hconvert, Prod.mk.injEq, Except.ok.injEq] at h
      obtain ⟨-, rfl, -⟩ := h
      obtain ⟨-, m, _, -, rfl, -⟩ := convert_eq_ok_iff.1 hconvert
      refine ⟨m, ?_⟩
      have hid : ((fault.headers.write (writtenHeaders m fault now)).insert
          ServiceControl.retryTo a.returnQueue)[NServiceBus.messageId]? =
            some (m.messageId.getD fault.nativeId) := by
        rw [Headers.getElem?_insert_ite, if_neg (by decide), getElem?_write_messageId]
      simp [convertedId, hid]

/--
The headers with which a fault comes back to its source, after a retry that names a queue
for the acknowledgement.
-/
def returnedHeaders (a : Adapter) (fault : Received) (retry : Headers) (queue : String) :
    Headers :=
  let own := fault.headers.filter fun name _ => !isOfForeignFamily name
  let addressed := own.insertIfNew MassTransit.inputAddress ("queue:" ++ fault.address)
  let scheme := a.broker.addressScheme
  let acknowledged := addressed.insert ServiceControl.acknowledgementQueue
    (if Text.beginsWith scheme queue then queue else scheme ++ queue)
  Headers.write acknowledged
    [(ServiceControl.uniqueMessageId,
      retry[ServiceControl.uniqueMessageId]?.or fault.headers[ServiceControl.uniqueMessageId]?)]

/-- A message that names a target and a queue for the acknowledgement is returned. -/
theorem giveBack_eq_ok
    {m : Received} {target queue : String}
    (htarget : m.headers[ServiceControl.targetAddress]? = some target)
    (hqueue : m.headers[ServiceControl.acknowledgementQueue]? = some queue) :
    ∃ left : Received,
      a.giveBack m = (left, .ok
        ⟨Url.queueName target, convertedId m,
          (withoutForeign (m.headers.erase NServiceBus.contentType)).insert
            ServiceControl.acknowledgementQueue (a.queueAddress queue),
          m.body,
          Headers.write ∅ [(Property.messageId, some (convertedId m)),
            (Property.contentType, m.headers[NServiceBus.contentType]?)]⟩) := by
  have hbare : (withoutForeign (m.headers.erase NServiceBus.contentType))[
      ServiceControl.acknowledgementQueue]? = some queue := by
    rw [getElem?_withoutForeign, if_neg (by decide), Std.ExtTreeMap.getElem?_erase,
      if_neg (by decide), hqueue]
  unfold giveBack
  rw [htarget]
  simp only [hbare]
  exact ⟨_, rfl⟩

section Retry

variable {m : Metadata} {retry : Headers} {queue : String}

/-- The headers of a retried fault, before anything is taken off them. -/
def retriedHeaders (a : Adapter) (m : Metadata) (fault : Received) (now : Instant)
    (retry : Headers) : Headers :=
  Headers.overlay
    ((fault.headers.write (writtenHeaders m fault now)).insert
      ServiceControl.retryTo a.returnQueue) retry

/-- A retry lays no header over a name that is not of its family. -/
theorem getElem?_retriedHeaders
    (hretry : ∀ name, name ∈ retry → Text.beginsWith ServiceControl.family name = true)
    {name : String} (hname : Text.beginsWith ServiceControl.family name = false) :
    (a.retriedHeaders m fault now retry)[name]? =
      (fault.headers.write (writtenHeaders m fault now))[name]? := by
  have hnone : retry[name]? = none := by
    apply Std.ExtTreeMap.getElem?_eq_none
    intro hmem
    rw [hretry name hmem] at hname
    cases hname
  have hreturn : name ≠ ServiceControl.retryTo := by
    rintro rfl
    exact absurd hname (by decide)
  rw [retriedHeaders, Headers.getElem?_overlay, hnone, Option.none_or,
    Headers.getElem?_insert_ite, if_neg hreturn]

theorem getElem?_retriedHeaders_uniqueMessageId :
    (a.retriedHeaders m fault now retry)[ServiceControl.uniqueMessageId]? =
      retry[ServiceControl.uniqueMessageId]?.or
        fault.headers[ServiceControl.uniqueMessageId]? := by
  rw [retriedHeaders, Headers.getElem?_overlay, Headers.getElem?_insert_ite,
    if_neg (by decide), getElem?_write_of_other_family m fault now (by decide) (by decide)]

/-- What a header of a returned fault holds, names with a rule of their own apart. -/
theorem getElem?_returnedHeaders
    {name : String} (hack : name ≠ ServiceControl.acknowledgementQueue)
    (hunique : name ≠ ServiceControl.uniqueMessageId) :
    (a.returnedHeaders fault retry queue)[name]? =
      if isOfForeignFamily name then none
      else if name = MassTransit.inputAddress then
        some (fault.headers[name]?.getD ("queue:" ++ fault.address))
      else fault.headers[name]? := by
  have hnotMem : name ∉ [(ServiceControl.uniqueMessageId,
      retry[ServiceControl.uniqueMessageId]?.or
        fault.headers[ServiceControl.uniqueMessageId]?)].map Prod.fst := by
    simpa using hunique
  rw [returnedHeaders, Headers.getElem?_write_of_notMem hnotMem,
    Headers.getElem?_insert_ite, if_neg hack, Std.ExtTreeMap.getElem?_insertIfNew,
    Headers.getElem?_filter fault.headers fun name => !isOfForeignFamily name]
  by_cases hinput : name = MassTransit.inputAddress
  · subst hinput
    have hown : isOfForeignFamily MassTransit.inputAddress = false := by decide
    cases h : fault.headers[MassTransit.inputAddress]? with
    | none => simp [hown, Std.ExtTreeMap.mem_iff_isSome_getElem?, h]
    | some address => simp [hown, Std.ExtTreeMap.mem_iff_isSome_getElem?, h]
  · have hne : MassTransit.inputAddress ≠ name := fun e => hinput e.symm
    cases hfamily : isOfForeignFamily name with
    | true => simp [hne]
    | false => simp [hne, hinput]

theorem getElem?_returnedHeaders_acknowledgementQueue :
    (a.returnedHeaders fault retry queue)[ServiceControl.acknowledgementQueue]? =
      some (a.queueAddress queue) := by
  have hne : ServiceControl.acknowledgementQueue ≠ ServiceControl.uniqueMessageId := by decide
  rw [returnedHeaders, Headers.getElem?_write_of_notMem (by simpa using hne)]
  simp [queueAddress]

theorem getElem?_returnedHeaders_uniqueMessageId :
    (a.returnedHeaders fault retry queue)[ServiceControl.uniqueMessageId]? =
      retry[ServiceControl.uniqueMessageId]?.or
        fault.headers[ServiceControl.uniqueMessageId]? := by
  have hinput : MassTransit.inputAddress ≠ ServiceControl.uniqueMessageId := by decide
  have hfamily : isOfForeignFamily ServiceControl.uniqueMessageId = true := by decide
  rw [returnedHeaders, Headers.getElem?_write (by simp), Headers.getElem?_insert_ite,
    if_neg (by decide), Std.ExtTreeMap.getElem?_insertIfNew,
    Headers.getElem?_filter fault.headers fun name => !isOfForeignFamily name]
  simp [hinput, hfamily]

/-- What is left of the headers of a retried fault are those that go back to the source. -/
theorem withoutForeign_retriedHeaders
    (hretry : ∀ name, name ∈ retry → Text.beginsWith ServiceControl.family name = true) :
    (withoutForeign ((a.retriedHeaders m fault now retry).erase
      NServiceBus.contentType)).insert
        ServiceControl.acknowledgementQueue (a.queueAddress queue) =
      a.returnedHeaders fault retry queue := by
  apply Headers.eq_of_getElem?
  intro name
  by_cases hack : name = ServiceControl.acknowledgementQueue
  · subst hack
    rw [getElem?_returnedHeaders_acknowledgementQueue, Headers.getElem?_insert_ite,
      if_pos rfl]
  rw [Headers.getElem?_insert_ite, if_neg hack, getElem?_withoutForeign,
    Std.ExtTreeMap.getElem?_erase]
  by_cases hunique : name = ServiceControl.uniqueMessageId
  · subst hunique
    rw [if_neg (by decide), if_neg (by decide), getElem?_retriedHeaders_uniqueMessageId,
      getElem?_returnedHeaders_uniqueMessageId]
  rw [getElem?_returnedHeaders hack hunique, isForeign_of_family hack hunique]
  cases hfamily : isOfForeignFamily name with
  | true => rfl
  | false =>
      have hnames : Text.beginsWith NServiceBus.family name = false ∧
          Text.beginsWith ServiceControl.family name = false := by
        simpa [isOfForeignFamily] using hfamily
      have hcontent : NServiceBus.contentType ≠ name := by
        rintro rfl
        exact absurd hfamily (by decide)
      rw [getElem?_retriedHeaders hretry hnames.2]
      by_cases hinput : name = MassTransit.inputAddress
      · subst hinput
        rw [getElem?_write_inputAddress]
        simp [hcontent]
      · rw [getElem?_write_of_other_family m fault now hnames.1 hinput]
        simp [hcontent, hinput]

section Properties

variable (id content : Option String)

theorem getElem?_properties_messageId :
    (Headers.write ∅ [(Property.messageId, id), (Property.contentType, content)])[
      Property.messageId]? = id := by
  have hne : Property.messageId ≠ Property.contentType := by decide
  rw [Headers.getElem?_write (by simpa using hne)]
  simp

theorem getElem?_properties_contentType :
    (Headers.write ∅ [(Property.messageId, id), (Property.contentType, content)])[
      Property.contentType]? = content := by
  have hne : Property.messageId ≠ Property.contentType := by decide
  have hbeq : (Property.contentType == Property.messageId) = false := by decide
  rw [Headers.getElem?_write (by simpa using hne)]
  simp [List.lookup_cons, hbeq]

end Properties

/-- A retried fault is returned with what its source may see of it. -/
theorem giveBack_retried
    (back : Received) {target : String}
    (hback : back.headers = a.retriedHeaders m fault now retry)
    (hretry : ∀ name, name ∈ retry → Text.beginsWith ServiceControl.family name = true)
    (htarget : retry[ServiceControl.targetAddress]? = some target)
    (hqueue : retry[ServiceControl.acknowledgementQueue]? = some queue) :
    ∃ left : Received,
      a.giveBack back = (left, .ok
        ⟨Url.queueName target, m.messageId.getD fault.nativeId,
          a.returnedHeaders fault retry queue, back.body,
          Headers.write ∅ [(Property.messageId, some (m.messageId.getD fault.nativeId)),
            (Property.contentType, some (contentType fault))]⟩) := by
  have hlaid : ∀ {name value : String}, retry[name]? = some value →
      back.headers[name]? = some value := by
    intro name value hvalue
    rw [hback, retriedHeaders, Headers.getElem?_overlay, hvalue, Option.some_or]
  have hid : convertedId back = m.messageId.getD fault.nativeId := by
    rw [convertedId, hback, getElem?_retriedHeaders hretry (by decide),
      getElem?_write_messageId, Option.getD_some]
  have hcontent : back.headers[NServiceBus.contentType]? = some (contentType fault) := by
    rw [hback, getElem?_retriedHeaders hretry (by decide), getElem?_write_contentType]
  obtain ⟨left, hgiven⟩ := giveBack_eq_ok (a := a) (hlaid htarget) (hlaid hqueue)
  rw [hid, hcontent, hback, withoutForeign_retriedHeaders hretry] at hgiven
  exact ⟨left, hgiven⟩

end Retry

/--
A forwarded fault that is retried comes back with its body and its identity, to the queue
that the retry names, and with the headers of the source.
-/
theorem giveBack_forward
    {retry : Headers} {target queue : String}
    (h : a.forward fault now = (sent, .ok op, odd))
    (hretry : ∀ name, name ∈ retry → Text.beginsWith ServiceControl.family name = true)
    (htarget : retry[ServiceControl.targetAddress]? = some target)
    (hqueue : retry[ServiceControl.acknowledgementQueue]? = some queue)
    (id address : String) (failures : Nat) :
    ∃ (left : Received) (back : Operation),
      a.giveBack ⟨id, op.headers.overlay retry, op.body, address, failures⟩ =
        (left, .ok back) ∧
      back.body = fault.body ∧
      back.id = op.id ∧
      back.properties[Property.messageId]? = some op.id ∧
      back.destination = Url.queueName target ∧
      back.properties[Property.contentType]? =
        some (if fault.headers.contains "MessageId" then "application/json"
          else "application/vnd.masstransit+json") ∧
      back.headers = a.returnedHeaders fault retry queue := by
  obtain ⟨m, hop⟩ := forward_eq_ok h
  have hheaders : op.headers.overlay retry = a.retriedHeaders m fault now retry := by
    rw [hop, retriedHeaders]
  have hid : op.id = m.messageId.getD fault.nativeId := by rw [hop]
  have hbody : op.body = fault.body := by rw [hop]
  obtain ⟨left, hgiven⟩ := giveBack_retried
    ⟨id, op.headers.overlay retry, op.body, address, failures⟩ hheaders hretry htarget hqueue
  refine ⟨left, _, hgiven, ?_⟩
  simp only [hbody, hid, getElem?_properties_messageId, getElem?_properties_contentType,
    contentType_eq, and_self]

/-- A flat fault is always forwarded. -/
theorem forward_flat
    (fault : Received) (a : Adapter) (now : Instant)
    (hreason : fault.headers[MassTransit.reason]? = some MassTransit.faultReason)
    (hflat : fault.headers.contains MassTransit.messageId = true) :
    ∃ (sent : Received) (op : Operation) (odd : List LogEvent),
      a.forward fault now = (sent, .ok op, odd) := by
  have hmark : markError? fault.headers = none := by
    simp [markError?, hreason]
  have hdata : metadata? fault = .ok (Metadata.ofHeaders fault.headers) := by
    simp [metadata?, hasEnvelope, hflat]
  simp only [forward, convert, hmark, hdata, bind, Except.bind, pure, Except.pure]
  exact ⟨_, _, _, rfl⟩

/-- A flat fault that had a foreign header of its own and is retried over RabbitMQ. -/
theorem giveBack_forward_flat :
    let fault : Received :=
      ⟨"native-1", Headers.ofPairs [("MT-Reason", "fault"), ("MessageId", "msg-1"),
        ("NServiceBus.FailedQ", "elsewhere"), ("ServiceControl.Retry.UniqueMessageId", "u-1")],
        "raw".toUTF8, "orders_error", 0⟩
    let retry := Headers.ofPairs
      [("ServiceControl.TargetEndpointAddress", "queue:orders"),
        ("ServiceControl.Retry.AcknowledgementQueue", "Particular.ServiceControl")]
    ∃ (sent : Received) (op : Operation) (odd : List LogEvent)
      (left : Received) (back : Operation),
      (⟨"error", "Retry.Return", .rabbitMq⟩ : Adapter).forward fault ⟨0, 0⟩ =
        (sent, .ok op, odd) ∧
      (⟨"error", "Retry.Return", .rabbitMq⟩ : Adapter).giveBack
        ⟨"sc-native-9", op.headers.overlay retry, op.body, "Retry.Return", 0⟩ =
        (left, .ok back) ∧
      back.id = op.id ∧ back.destination = Url.queueName "queue:orders" ∧
      back.headers = (⟨"error", "Retry.Return", .rabbitMq⟩ : Adapter).returnedHeaders
        fault retry "Particular.ServiceControl" := by
  intro fault retry
  have hreason : fault.headers[MassTransit.reason]? = some MassTransit.faultReason := by
    decide
  have hflat : fault.headers.contains MassTransit.messageId = true := by
    decide
  have hretry : ∀ name, name ∈ retry →
      Text.beginsWith ServiceControl.family name = true := by
    intro name hname
    have hnames : "ServiceControl.Retry.AcknowledgementQueue" = name ∨
        "ServiceControl.TargetEndpointAddress" = name := by
      simpa [retry, Headers.ofPairs] using hname
    rcases hnames with rfl | rfl
    · decide
    · decide
  have htarget : retry[ServiceControl.targetAddress]? = some "queue:orders" := by
    decide
  have hqueue : retry[ServiceControl.acknowledgementQueue]? =
      some "Particular.ServiceControl" := by
    decide
  obtain ⟨sent, op, odd, hsent⟩ :=
    forward_flat fault ⟨"error", "Retry.Return", .rabbitMq⟩ ⟨0, 0⟩ hreason hflat
  obtain ⟨left, back, hback, -, hid, -, hdestination, -, hheaders⟩ :=
    giveBack_forward hsent hretry htarget hqueue "sc-native-9" "Retry.Return" 0
  exact ⟨sent, op, odd, left, back, hsent, hback, hid, hdestination, hheaders⟩

end Adapter

end Fault
end FaultRelay
