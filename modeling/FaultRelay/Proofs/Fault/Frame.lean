import FaultRelay.Proofs.Fault.ReturnTrip

/-!
# What conversion may touch

Conversion writes headers of NServiceBus, and the input address when a fault has none.  It
touches nothing else of a message, and a message that it refuses is left as it was received.

**Results.**
* `mem_write_of_always`: the headers that every converted fault has.
* `convert_flat`: a flat fault is always converted, and its body is not looked at.
* `convert_within`: the frame of conversion.
-/

namespace FaultRelay
namespace Fault

open Time

/-- The headers that conversion always writes. -/
def alwaysWritten : List String :=
  [NServiceBus.contentType, NServiceBus.messageId, NServiceBus.processingEndpoint,
    NServiceBus.failedQueue, NServiceBus.timeOfFailure]

/-- A fault and the same fault after a conversion that keeps to its frame. -/
structure Within (fault converted : Received) : Prop where
  body : converted.body = fault.body
  nativeId : converted.nativeId = fault.nativeId
  address : converted.address = fault.address
  failures : converted.failures = fault.failures
  /-- Headers of other families keep their values, and none is added or taken away. -/
  others : ∀ name : String, Text.beginsWith NServiceBus.family name = false →
    name ≠ MassTransit.inputAddress → converted.headers[name]? = fault.headers[name]?
  /-- The input address is kept; a missing one is where the fault was received. -/
  inputAddress : converted.headers[MassTransit.inputAddress]? =
    some (fault.headers[MassTransit.inputAddress]?.getD ("queue:" ++ fault.address))
  /-- No header is taken away. -/
  kept : ∀ name ∈ fault.headers, name ∈ converted.headers
  written : ∀ name ∈ alwaysWritten, name ∈ converted.headers

section Written

variable (m : Metadata) (fault : Received) (now : Instant)

theorem mem_write_of_always
    {name : String} (hname : name ∈ alwaysWritten) :
    name ∈ fault.headers.write (writtenHeaders m fault now) := by
  have hvalue : ∃ value : String, (name, some value) ∈ writtenHeaders m fault now := by
    simp only [alwaysWritten, List.mem_cons, List.not_mem_nil, or_false] at hname
    simp only [writtenHeaders, messageHeaders, failureHeaders, List.mem_cons, List.mem_append]
    rcases hname with rfl | rfl | rfl | rfl | rfl
    · exact ⟨contentType fault, by simp⟩
    · exact ⟨m.messageId.getD fault.nativeId, by simp⟩
    · exact ⟨inputAddress fault, by simp⟩
    · exact ⟨inputAddress fault, by simp⟩
    · exact ⟨((faultTime? fault.headers).getD now).toWire, by simp⟩
  exact Headers.mem_write.2 (.inr hvalue)

theorem within_write :
    Within fault { fault with headers := fault.headers.write (writtenHeaders m fault now) } where
  body := rfl
  nativeId := rfl
  address := rfl
  failures := rfl
  others _ hfamily hinput := getElem?_write_of_other_family m fault now hfamily hinput
  inputAddress := getElem?_write_inputAddress m fault now
  kept _ hname := Headers.mem_write.2 (.inl hname)
  written _ hname := mem_write_of_always m fault now hname

end Written

section Flat

variable {fault : Received}

/-- A flat fault says in its headers what failed. -/
theorem metadata?_of_messageId (hid : MassTransit.messageId ∈ fault.headers) :
    metadata? fault = .ok (Metadata.ofHeaders fault.headers) := by
  have hshape : hasEnvelope fault = false := by
    rw [hasEnvelope, Std.ExtTreeMap.contains_iff_mem.2 hid]
    rfl
  rw [metadata?, if_neg (by rw [hshape]; decide)]

/-- A flat fault is converted, in the same way whatever its body is. -/
theorem convert_flat
    (hid : MassTransit.messageId ∈ fault.headers)
    (hreason : fault.headers[MassTransit.reason]? = some MassTransit.faultReason)
    (now : Instant) (body : ByteArray) :
    let m := (Metadata.ofHeaders fault.headers).1
    convert { fault with body } now =
      .ok ({ fault with body, headers := fault.headers.write (writtenHeaders m fault now) },
        (Metadata.ofHeaders fault.headers).2 ++ messageWarnings m fault
          ++ failureWarnings fault) := by
  have hmark : markError? fault.headers = none := by
    simp [markError?, hreason]
  have hdata : metadata? { fault with body } = .ok (Metadata.ofHeaders fault.headers) :=
    metadata?_of_messageId hid
  exact convert_eq_ok_iff.2 ⟨hmark, _, _, hdata, rfl, rfl⟩

end Flat

/--
A fault that is refused is left as it was.  One that is converted keeps everything but the
headers that conversion writes.  A flat fault is never refused, and its headers after the
conversion do not depend on its body.
-/
theorem convert_within (fault : Received) (now : Instant) :
    (∀ e : ConversionError, convert fault now = .error e →
      ∀ a : Adapter, a.forward fault now = (fault, .error e, [])) ∧
    (∀ (converted : Received) (odd : List LogEvent),
      convert fault now = .ok (converted, odd) → Within fault converted) ∧
    (MassTransit.messageId ∈ fault.headers →
      fault.headers[MassTransit.reason]? = some MassTransit.faultReason →
      ∃ (converted : Received) (odd : List LogEvent), convert fault now = .ok (converted, odd) ∧
        ∀ body : ByteArray,
          convert { fault with body } now = .ok ({ converted with body }, odd)) := by
  refine ⟨fun e hrefused a => ?_, fun converted odd hconverted => ?_, fun hid hreason => ?_⟩
  · rw [Adapter.forward, hrefused]
  · obtain ⟨-, m, _, -, rfl, -⟩ := convert_eq_ok_iff.1 hconverted
    exact within_write m fault now
  · exact ⟨_, _, convert_flat hid hreason now fault.body, convert_flat hid hreason now⟩

/-- A flat fault whose headers have names of both families, and no input address. -/
theorem convert_within_sparse :
    let h := Headers.ofPairs [("MT-Reason", "fault"), ("MessageId", "msg-1"),
      ("NServiceBus.FailedQ", "billing"), ("NServiceBus.Custom", "kept")]
    let fault : Received := ⟨"native-1", h, "raw".toUTF8, "orders_error", 2⟩
    "MessageId" ∈ h ∧ h["MT-Reason"]? = some "fault" ∧
      ∃ (converted : Received) (odd : List LogEvent), convert fault ⟨0, 0⟩ = .ok (converted, odd) ∧
        Within fault converted ∧ ∀ body : ByteArray,
          convert { fault with body } ⟨0, 0⟩ = .ok ({ converted with body }, odd) := by
  intro h fault
  have hid : "MessageId" ∈ h := by decide
  have hreason : h["MT-Reason"]? = some "fault" := by decide
  obtain ⟨-, hwithin, hflat⟩ := convert_within fault ⟨0, 0⟩
  obtain ⟨converted, odd, hconverted, hbody⟩ := hflat hid hreason
  exact ⟨hid, hreason, converted, odd, hconverted, hwithin converted odd hconverted, hbody⟩

end Fault
end FaultRelay
