import Skywalking.Codec.Base64
import Skywalking.Core.Id

/-!
`core/segment_ref.rs`: the reference to a parent segment that an exit span sends along
with a call, and `SegmentRef.serialize`, its text in the `sw8` header; and the code of a
field that holds a text or an id.

The base64 code comes from a library and is a parameter of everything that writes or
reads a header.
-/

namespace Skywalking

open RustStd

/-- An encoded text decodes to the text. -/
lemma decode_encode_asBytes {b64 : Base64}
    (hdecode : ∀ bytes, b64.decode (b64.encode bytes) = some bytes) (s : String) :
    (b64.decode (b64.encode (asBytes s))).bind fromUtf8 = some s := by
  rw [hdecode, Option.bind_some, fromUtf8_asBytes]

/-- `SegmentRefType`. -/
inductive SegmentRefType where
  | crossProcess
  | crossThread
  deriving DecidableEq, Repr

/-- `SegmentRef`. -/
structure SegmentRef where
  refType : SegmentRefType
  traceId : ID
  segmentId : ID
  spanId : Int32
  parentServiceInstanceId : Int32
  entryServiceInstanceId : Int32
  networkAddress : Option String
  networkAddressId : Int32
  entryEndpoint : Option String
  entryEndpointId : Int32
  parentEndpoint : Option String
  parentEndpointId : Int32
  serviceName : String
  serviceInst : String
  addrClient : String
  deriving DecidableEq, Repr

/-- `SAMPLED`. -/
def sampled : String := "1"

/-- The parts of the header, in order: the sampling flag, trace id, segment id, span id,
service, service instance, parent endpoint and client address. -/
def SegmentRef.parts (b64 : Base64) (ref : SegmentRef) : List String :=
  [sampled,
    b64.encode (asBytes ref.traceId.toString),
    b64.encode (asBytes ref.segmentId.toString),
    toString ref.spanId,
    b64.encode (asBytes ref.serviceName),
    b64.encode (asBytes ref.serviceInst),
    b64.encode (asBytes (ref.parentEndpoint.getD "Unknown")),
    b64.encode (asBytes ref.addrClient)]

/-- `SegmentRef::serialize`. -/
def SegmentRef.serialize (b64 : Base64) (ref : SegmentRef) : String :=
  join '-' (ref.parts b64)

/-- `SegmentRef::string_or_id_to_encode_base64`. -/
def SegmentRef.stringOrIdToEncodeBase64 (b64 : Base64) (text : Option String) (id : Int32) :
    String :=
  b64.encode (asBytes
    (match text with
    | none => toString id
    | some t => "#" ++ t))

/-- `SegmentRef::decode_base64_to_string_or_id`: a text that starts with `#` has a second
piece. -/
def SegmentRef.decodeBase64ToStringOrId (b64 : Base64) (text : String) :
    Option (Option String × Int32) := do
  let value ← b64.decode text
  let str ← fromUtf8 value
  if h : startsWith '#' str then
    have := one_lt_length_split h
    return (some (split '#' str)[1], 0)
  else
    let id ← parseI32 str
    return (none, id)

end Skywalking
