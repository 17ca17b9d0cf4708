import Skywalking.Core.SegmentRef
import Skywalking.Remote

/-!
The `sw8` header between its writer, `SegmentRef::serialize`, and its reader,
`SegmentReference::from_text`.

* `SegmentRef.toReference`: what a reader finds in the header of a reference.
* `fromText_serialize`: the header of a reference with a span id that is not negative
  reads as exactly that; `fromText_serialize_neg`: the sign of a negative span id is one
  dash too many, and the header is refused. Together, `eq_toReference_of_fromText`:
  whatever is read from a header is what its reference says.
* `sw8_round_trip`: the round trip, field by field.
-/

namespace Skywalking

open RustStd

/-- What the header of a reference says, as its reader stores it. -/
def SegmentRef.toReference (ref : SegmentRef) : SegmentReference where
  refType := 1
  traceId := ref.traceId.toString
  parentTraceSegmentId := ref.segmentId.toString
  parentSpanId := ref.spanId
  parentService := ref.serviceName
  parentServiceInstance := ref.serviceInst
  parentEndpoint := ref.parentEndpoint.getD "Unknown"
  networkAddressUsedAtPeer := ref.addrClient

section RoundTrip

variable {b64 : Base64} (hb : b64.Lawful)

include hb

/-- No part of a header holds a dash, except for the sign of a span id. -/
lemma dash_notMem_parts {ref : SegmentRef} (hid : 0 ≤ ref.spanId.toInt) :
    ∀ p ∈ ref.parts b64, '-' ∉ p.toList := by
  have hspan : '-' ∉ (toString ref.spanId).toList := fun h =>
    absurd (isDigit_of_mem_toString hid h) (by decide)
  intro p hp
  simp only [SegmentRef.parts, List.mem_cons, List.not_mem_nil, or_false] at hp
  rcases hp with rfl | rfl | rfl | rfl | rfl | rfl | rfl | rfl
  · decide
  · exact hb.dash_notMem _
  · exact hb.dash_notMem _
  · exact hspan
  · exact hb.dash_notMem _
  · exact hb.dash_notMem _
  · exact hb.dash_notMem _
  · exact hb.dash_notMem _

/-- **The header of a reference reads as the reference**, for a span id that is not
negative. -/
theorem fromText_serialize {ref : SegmentRef} (hid : 0 ≤ ref.spanId.toInt) :
    SegmentReference.fromText b64 (ref.serialize b64) = some ref.toReference := by
  have hne : ref.parts b64 ≠ [] := by simp [SegmentRef.parts]
  have hsplit := split_join hne (dash_notMem_parts hb hid)
  rw [SegmentReference.fromText, SegmentRef.serialize, hsplit]
  simp only [SegmentRef.parts, SegmentReference.stringToId,
    SegmentReference.decodeBase64ToString, decode_encode_asBytes hb.decode_encode,
    parseI32_toString]
  rfl

/-- The sign of a negative span id splits the header into nine pieces, and the reader
refuses it. -/
theorem fromText_serialize_neg {ref : SegmentRef} (hid : ref.spanId.toInt < 0) :
    SegmentReference.fromText b64 (ref.serialize b64) = none := by
  obtain ⟨n, hn⟩ := Int.eq_negSucc_of_lt_zero hid
  -- the printed span id, cut after its sign
  have hspan : (toString ref.spanId).toList = '-' :: Nat.toDigits 10 (n + 1) := by
    rw [show toString ref.spanId = toString ref.spanId.toInt from rfl, hn,
      toList_toString_negSucc]
  let pieces : List String :=
    [sampled,
      b64.encode (asBytes ref.traceId.toString),
      b64.encode (asBytes ref.segmentId.toString),
      "",
      String.ofList (Nat.toDigits 10 (n + 1)),
      b64.encode (asBytes ref.serviceName),
      b64.encode (asBytes ref.serviceInst),
      b64.encode (asBytes (ref.parentEndpoint.getD "Unknown")),
      b64.encode (asBytes ref.addrClient)]
  have hjoin : ref.serialize b64 = join '-' pieces := by
    rw [SegmentRef.serialize, join, join, ← String.toList_inj, String.toList_intercalate,
      String.toList_intercalate]
    simp [SegmentRef.parts, pieces, hspan]
  have hdigits : '-' ∉ Nat.toDigits 10 (n + 1) := fun h =>
    absurd (isDigit_toDigits (n + 1) '-' h) (by decide)
  have hdash : ∀ p ∈ pieces, '-' ∉ p.toList := by
    intro p hp
    simp only [pieces, List.mem_cons, List.not_mem_nil, or_false] at hp
    rcases hp with rfl | rfl | rfl | rfl | rfl | rfl | rfl | rfl | rfl
    · decide
    · exact hb.dash_notMem _
    · exact hb.dash_notMem _
    · decide
    · rw [String.toList_ofList]; exact hdigits
    · exact hb.dash_notMem _
    · exact hb.dash_notMem _
    · exact hb.dash_notMem _
    · exact hb.dash_notMem _
  rw [SegmentReference.fromText, hjoin, split_join (by simp [pieces]) hdash]

/-- Whatever is read from the header of a reference is what the reference says. -/
theorem eq_toReference_of_fromText {ref : SegmentRef} {r : SegmentReference}
    (h : SegmentReference.fromText b64 (ref.serialize b64) = some r) :
    r = ref.toReference := by
  rcases lt_or_ge ref.spanId.toInt 0 with hneg | hid
  · rw [fromText_serialize_neg hb hneg] at h
    exact absurd h (by simp)
  · rw [fromText_serialize hb hid] at h
    exact (Option.some.inj h).symm

/-- **The round trip of the `sw8` header**: for a reference with a span id that is not
negative and any texts in its other fields, the reader recovers every field. -/
theorem sw8_round_trip (ref : SegmentRef) (hid : 0 ≤ ref.spanId.toInt) :
    ∃ r, SegmentReference.fromText b64 (ref.serialize b64) = some r
      ∧ r.traceId = ref.traceId.toString
      ∧ r.parentTraceSegmentId = ref.segmentId.toString
      ∧ r.parentSpanId = ref.spanId
      ∧ r.parentService = ref.serviceName
      ∧ r.parentServiceInstance = ref.serviceInst
      ∧ r.networkAddressUsedAtPeer = ref.addrClient
      ∧ r.parentEndpoint = ref.parentEndpoint.getD "Unknown" :=
  ⟨ref.toReference, fromText_serialize hb hid, rfl, rfl, rfl, rfl, rfl, rfl, rfl⟩

end RoundTrip

/-- A reference with empty texts and with texts that hold separators. -/
def SegmentRef.demo : SegmentRef where
  refType := .crossProcess
  traceId := .strID "a-b.c=#"
  segmentId := ID.new 7 (-2) 1000
  spanId := 3
  parentServiceInstanceId := 7
  entryServiceInstanceId := 7
  networkAddress := some "10.0.0.2:80"
  networkAddressId := 0
  entryEndpoint := none
  entryEndpointId := -1
  parentEndpoint := none
  parentEndpointId := -1
  serviceName := ""
  serviceInst := "знак-1"
  addrClient := "127.0.0.1:11800"

theorem sw8_round_trip_demo :
    ∃ r, SegmentReference.fromText .standard (SegmentRef.demo.serialize .standard) = some r
      ∧ r.traceId = "a-b.c=#" ∧ r.parentSpanId = 3 ∧ r.parentService = ""
      ∧ r.parentServiceInstance = "знак-1" ∧ r.parentEndpoint = "Unknown" := by
  obtain ⟨r, hr, htrace, -, hspan, hservice, hinst, -, hendpoint⟩ :=
    sw8_round_trip Base64.standard_lawful SegmentRef.demo (by decide)
  exact ⟨r, hr, htrace, hspan, hservice, hinst, hendpoint⟩

end Skywalking
