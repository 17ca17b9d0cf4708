import Skywalking.Core.SegmentRef
import Skywalking.Core.Span

/-!
`core/context.rs`: the tracing context of one segment, its creation and the operations
of the trait `Context`, and `SegmentRef.forAcrossProcess` of `core/segment_ref.rs`,
which reads it.

* `nextSpanId` adds one to an `i32`. The model follows the release build, where the
  addition wraps; at most `2^31` spans are numbered before it does.
* `createEntrySpan` panics with `todo!()` when it is given an extractor.
* `finishSpan` looks at the end time of the span and at nothing else.
-/

namespace Skywalking

open RustStd

/-- `TracingContext`. -/
structure TracingContext where
  /-- Span id sequence: the id of the last span created. -/
  nextSeq : Int32
  primaryTraceId : Option ID
  segmentId : ID
  selfGeneratedId : Bool
  entryEndpointName : Option String
  service : String
  serviceInst : String
  addrClient : String
  firstRef : Option SegmentRef
  serviceInstanceId : Int32
  finishedSpans : List TracingSpan
  deriving DecidableEq, Repr

namespace TracingContext

/-- `TracingContext::new`; the two draws are those of the trace id and of the segment
id, in this order. -/
def new (serviceInstanceId : Option Int32) (service serviceInst addrClient : String)
    (traceDraw segmentDraw : IdDraw) : Except Panic (Option TracingContext) :=
  match serviceInstanceId with
  | none => .ok none
  | some id => do
      let primaryTraceId ← IDGenerator.newId id traceDraw
      let segmentId ← IDGenerator.newId id segmentDraw
      return some {
        nextSeq := -1
        primaryTraceId := some primaryTraceId
        segmentId := segmentId
        selfGeneratedId := true
        entryEndpointName := none
        firstRef := none
        serviceInstanceId := id
        finishedSpans := []
        service := service
        serviceInst := serviceInst
        addrClient := addrClient }

/-- A context of the service `demo`, created at the first second of the epoch. -/
def demo : TracingContext where
  nextSeq := -1
  primaryTraceId := some (ID.new 7 1 1000)
  segmentId := ID.new 7 2 1000
  selfGeneratedId := true
  entryEndpointName := none
  service := "demo"
  serviceInst := "demo@10.0.0.1"
  addrClient := "127.0.0.1:11800"
  firstRef := none
  serviceInstanceId := 7
  finishedSpans := []

lemma new_demo : new (some 7) "demo" "demo@10.0.0.1" "127.0.0.1:11800" ⟨1, ⟨10 ^ 9⟩⟩
    ⟨2, ⟨10 ^ 9⟩⟩ = .ok (some demo) := by
  decide

/-- `trace_id`. -/
def traceId (context : TracingContext) : ID := context.primaryTraceId.getD (ID.new 1 1 1)

/-- `next_span_id`: the id, and the context that has given it out. -/
def nextSpanId (context : TracingContext) : Int32 × TracingContext :=
  (context.nextSeq + 1, { context with nextSeq := context.nextSeq + 1 })

/-- `change_trace_id`. -/
def changeTraceId (context : TracingContext) (id : ID) : TracingContext :=
  { context with primaryTraceId := some id }

end TracingContext

/-- `SegmentRef::for_across_process`. -/
def SegmentRef.forAcrossProcess (context : TracingContext) (exitSpan : TracingSpan)
    (peer : String) : SegmentRef :=
  -- -1 represents that the object does not exist
  let inexistence : Int32 := -1
  let entry : Option String × Int32 :=
    match context.firstRef with
    | none =>
        match context.entryEndpointName with
        | none => (none, inexistence)
        | some endpoint => (some endpoint, 0)
    | some reference =>
        match reference.entryEndpoint with
        | none => (none, reference.entryEndpointId)
        | some endpoint => (some endpoint, 0)
  let parent : Option String × Int32 :=
    match context.entryEndpointName with
    | none => (none, inexistence)
    | some endpoint => (some endpoint, 0)
  { refType := .crossProcess
    traceId := context.traceId
    segmentId := context.segmentId
    spanId := exitSpan.spanId
    networkAddress := some peer
    networkAddressId := 0
    entryServiceInstanceId :=
      match context.firstRef with
      | none => context.serviceInstanceId
      | some reference => reference.entryServiceInstanceId
    parentServiceInstanceId := context.serviceInstanceId
    entryEndpoint := entry.1
    entryEndpointId := entry.2
    parentEndpoint := parent.1
    parentEndpointId := parent.2
    serviceName := context.service
    serviceInst := context.serviceInst
    addrClient := context.addrClient }

/-- An `Extractable`: the value of a key of the incoming headers. -/
abbrev Extractable := String → String

/-- A call of `Injectable::inject`. -/
structure Injection where
  key : String
  value : String
  deriving DecidableEq, Repr

namespace TracingContext

/-! ### The trait `Context` -/

/-- `create_entry_span`. -/
def createEntrySpan (context : TracingContext) (operationName : String)
    (parentSpanId : Option Int32) (layer : SpanLayer) (extractor : Option Extractable) :
    Except Panic (TracingSpan × TracingContext) :=
  let (spanId, context) := context.nextSpanId
  let entrySpan := TracingSpan.newEntrySpan operationName spanId (parentSpanId.getD (-1)) layer
  if extractor.isSome then .error .todo else .ok (entrySpan, context)

/-- `create_exit_span`, with the call it makes on the injector when there is one. -/
def createExitSpan (b64 : Base64) (context : TracingContext) (operationName : String)
    (parentSpanId : Option Int32) (peer : String) (layer : SpanLayer) (injector : Bool) :
    TracingSpan × Option Injection × TracingContext :=
  let (spanId, context) := context.nextSpanId
  let exitSpan :=
    TracingSpan.newExitSpan operationName spanId (parentSpanId.getD (-1)) peer layer
  let injection :=
    if injector then
      some ⟨"sw8", (SegmentRef.forAcrossProcess context exitSpan peer).serialize b64⟩
    else none
  (exitSpan, injection, context)

/-- `create_local_span`. -/
def createLocalSpan (context : TracingContext) (operationName : String)
    (parentSpanId : Option Int32) (layer : SpanLayer) : TracingSpan × TracingContext :=
  let (spanId, context) := context.nextSpanId
  (TracingSpan.newLocalSpan operationName spanId (parentSpanId.getD (-1)) layer, context)

/-- `finish_span`, at the clock reading `now` where it has to end the span itself. -/
def finishSpan (context : TracingContext) (span : TracingSpan) (now : SystemTime) :
    TracingContext :=
  let span := if !span.isEnded then span.endNow now else span
  { context with finishedSpans := context.finishedSpans ++ [span] }

end TracingContext

end Skywalking
