import Skywalking.Codec.Base64
import Skywalking.RustStd.Text

/-!
`remote.rs`: the messages of the trace protocol, and the reading of the `sw8` header
into a `SegmentReference`.
-/

namespace Skywalking

open RustStd

/-- `KeyStringValuePair`. -/
structure KeyStringValuePair where
  key : String
  value : String
  deriving DecidableEq, Repr

/-- `Log`. -/
structure Log where
  time : Int64
  data : List KeyStringValuePair
  deriving DecidableEq, Repr

/-- `SpanType`. -/
inductive SpanType where
  | entry
  | exit
  | local
  deriving DecidableEq, Repr

/-- The code of a span type on the wire. -/
def SpanType.code : SpanType → Int32
  | .entry => 0
  | .exit => 1
  | .local => 2

/-- `RefType`. -/
inductive RefType where
  | crossProcess
  | crossThread
  deriving DecidableEq, Repr

/-- The code of a reference type on the wire. -/
def RefType.code : RefType → Int32
  | .crossProcess => 0
  | .crossThread => 1

/-- `SegmentReference`. -/
structure SegmentReference where
  refType : Int32
  traceId : String
  parentTraceSegmentId : String
  parentSpanId : Int32
  parentService : String
  parentServiceInstance : String
  parentEndpoint : String
  networkAddressUsedAtPeer : String
  deriving DecidableEq, Repr

/-- `SpanObject`. -/
structure SpanObject where
  spanId : Int32
  parentSpanId : Int32
  startTime : Int64
  endTime : Int64
  refs : List SegmentReference
  operationName : String
  peer : String
  spanType : Int32
  spanLayer : Int32
  componentId : Int32
  isError : Bool
  tags : List KeyStringValuePair
  logs : List Log
  skipAnalysis : Bool
  deriving DecidableEq, Repr

/-- `SegmentObject`. -/
structure SegmentObject where
  traceId : String
  traceSegmentId : String
  spans : List SpanObject
  service : String
  serviceInstance : String
  isSizeLimited : Bool
  deriving DecidableEq, Repr

namespace SegmentReference

variable (b64 : Base64)

/-- `SegmentReference::string_to_id`. -/
def stringToId (text : String) : Option String := (b64.decode text).bind fromUtf8

/-- `SegmentReference::decode_base64_to_string`. -/
def decodeBase64ToString (text : String) : Option String := (b64.decode text).bind fromUtf8

/-- `SegmentReference::from_text`: eight pieces between dashes, the first of them
ignored. -/
def fromText (value : String) : Option SegmentReference :=
  match split '-' value with
  | [_, s1, s2, s3, s4, s5, s6, s7] => do
      let traceId ← stringToId b64 s1
      let segmentId ← stringToId b64 s2
      let spanId ← parseI32 s3
      let serviceName ← decodeBase64ToString b64 s4
      let serviceInstance ← decodeBase64ToString b64 s5
      let endpoint ← decodeBase64ToString b64 s6
      let clientAddress ← decodeBase64ToString b64 s7
      return {
        refType := 1
        traceId := traceId
        parentTraceSegmentId := segmentId
        parentSpanId := spanId
        parentService := serviceName
        parentServiceInstance := serviceInstance
        parentEndpoint := endpoint
        networkAddressUsedAtPeer := clientAddress }
  | _ => none

end SegmentReference

end Skywalking
