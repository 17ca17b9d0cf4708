import Skywalking.RustStd.Time

/-!
`core/span.rs`, with the tags of `core/tag.rs` and the log events of `core/log.rs`:
the span, its three constructors and the operations of the trait `Span` on it.

Every clock reading is an argument: `start now` and `endNow now` are `start` and
`end` at the moment `now`.

* `SpanIdentity`: the part of a span that is fixed when it is created, that is its
  operation name, its two ids, its kind and its layer.
* `SpanOp`, `SpanOp.apply`: the calls a holder of a span can make on it;
  `identity_apply` and `identity_mergeSpan` say that none of them changes the
  identity.
-/

namespace Skywalking

open RustStd

/-- A key value pair attached to a span. -/
structure Tag where
  key : String
  value : String
  deriving DecidableEq, Repr

/-- One field of a log event. -/
structure EventField where
  name : String
  value : String
  deriving DecidableEq, Repr

/-- An event that happened during a span. -/
structure LogEvent where
  timestamp : Int64
  fields : List EventField
  deriving DecidableEq, Repr

/-- `SpanLayer`. -/
inductive SpanLayer where
  | db | rpc | http | mq | cache
  deriving DecidableEq, Repr

/-- `SpanLayer::val`. -/
def SpanLayer.val : SpanLayer → Int32
  | .db => 1
  | .rpc => 2
  | .http => 3
  | .mq => 4
  | .cache => 5

/-- `TracingSpan`, but for its field `refs`, which no code reads or fills. -/
structure TracingSpan where
  operationName : String
  spanId : Int32
  parentSpanId : Int32
  startTime : UInt64
  endTime : UInt64
  isEntry : Bool
  isExit : Bool
  peer : Option String
  errorOccurred : Bool
  componentId : Option Int32
  tags : List Tag
  logs : List LogEvent
  spanLayer : SpanLayer
  deriving DecidableEq, Repr

namespace TracingSpan

/-! ### The constructors -/

/-- `TracingSpan::_new`. -/
def new (operationName : String) (spanId parentSpanId : Int32) (spanLayer : SpanLayer) :
    TracingSpan where
  operationName := operationName
  spanId := spanId
  parentSpanId := parentSpanId
  startTime := 0
  endTime := 0
  isEntry := false
  isExit := false
  peer := none
  errorOccurred := false
  componentId := none
  tags := []
  logs := []
  spanLayer := spanLayer

/-- `TracingSpan::new_entry_span`. -/
def newEntrySpan (operationName : String) (spanId parentSpanId : Int32) (layer : SpanLayer) :
    TracingSpan :=
  { new operationName spanId parentSpanId layer with isEntry := true }

/-- `TracingSpan::new_exit_span`. -/
def newExitSpan (operationName : String) (spanId parentSpanId : Int32) (peer : String)
    (layer : SpanLayer) : TracingSpan :=
  { new operationName spanId parentSpanId layer with isExit := true, peer := some peer }

/-- `TracingSpan::new_local_span`. -/
def newLocalSpan (operationName : String) (spanId parentSpanId : Int32) (layer : SpanLayer) :
    TracingSpan :=
  new operationName spanId parentSpanId layer

/-! ### The trait `Span` -/

/-- The `u64` that `start` and `end` store for a clock reading: its milliseconds since
the epoch, or the start time of the span where the clock reads before the epoch. -/
def stamp (span : TracingSpan) (time : SystemTime) : UInt64 :=
  match time.millisSinceEpoch with
  | some n => UInt64.ofNat n
  | none => span.startTime

/-- `start`, at the clock reading `now`. -/
def start (span : TracingSpan) (now : SystemTime) : TracingSpan :=
  { span with startTime := span.stamp now }

/-- `start_with_timestamp`. -/
def startWithTimestamp (span : TracingSpan) (timestamp : SystemTime) : TracingSpan :=
  { span with startTime := span.stamp timestamp }

/-- `tag`. -/
def tag (span : TracingSpan) (t : Tag) : TracingSpan :=
  { span with tags := span.tags ++ [t] }

/-- `log`. -/
def log (span : TracingSpan) (event : LogEvent) : TracingSpan :=
  { span with logs := span.logs ++ [event] }

/-- `error_occurred`. -/
def setErrorOccurred (span : TracingSpan) : TracingSpan :=
  { span with errorOccurred := true }

/-- `set_component_id`. -/
def setComponentId (span : TracingSpan) (componentId : Int32) : TracingSpan :=
  { span with componentId := some componentId }

/-- `end`, at the clock reading `now`. -/
def endNow (span : TracingSpan) (now : SystemTime) : TracingSpan :=
  { span with endTime := span.stamp now }

/-- `end_with_timestamp`. -/
def endWithTimestamp (span : TracingSpan) (timestamp : SystemTime) : TracingSpan :=
  { span with endTime := span.stamp timestamp }

/-- `is_ended`. -/
def isEnded (span : TracingSpan) : Bool := span.endTime != 0

/-- `is_error`. -/
def isError (span : TracingSpan) : Bool := span.errorOccurred

/-- `time_info`. -/
def timeInfo (span : TracingSpan) : UInt64 × UInt64 := (span.startTime, span.endTime)

/-- `merge_span`: the tags of `other`, one after the other, and its error status. -/
def mergeSpan (span other : TracingSpan) : TracingSpan :=
  let tagged := other.tags.foldl tag span
  if other.isError then tagged.setErrorOccurred else tagged

/-- `set_peer`. -/
def setPeer (span : TracingSpan) (peer : String) : TracingSpan :=
  { span with peer := some peer }

/-- `peer_info`. -/
def peerInfo (span : TracingSpan) : String :=
  match span.peer with
  | some s => s
  | none => ""

end TracingSpan

/-- A call of the trait `Span` on a held span. -/
inductive SpanOp where
  | start (now : SystemTime)
  | startWithTimestamp (timestamp : SystemTime)
  | tag (t : Tag)
  | log (event : LogEvent)
  | errorOccurred
  | setComponentId (componentId : Int32)
  | endNow (now : SystemTime)
  | endWithTimestamp (timestamp : SystemTime)
  | setPeer (peer : String)
  deriving DecidableEq, Repr

/-- The span after a call. -/
def SpanOp.apply (span : TracingSpan) : SpanOp → TracingSpan
  | .start now => span.start now
  | .startWithTimestamp timestamp => span.startWithTimestamp timestamp
  | .tag t => span.tag t
  | .log event => span.log event
  | .errorOccurred => span.setErrorOccurred
  | .setComponentId componentId => span.setComponentId componentId
  | .endNow now => span.endNow now
  | .endWithTimestamp timestamp => span.endWithTimestamp timestamp
  | .setPeer peer => span.setPeer peer

/-! ### What no call changes -/

/-- The part of a span that is fixed when the span is created. -/
structure SpanIdentity where
  operationName : String
  spanId : Int32
  parentSpanId : Int32
  isEntry : Bool
  isExit : Bool
  spanLayer : SpanLayer
  deriving DecidableEq, Repr

namespace TracingSpan

/-- The identity of a span. -/
def identity (span : TracingSpan) : SpanIdentity where
  operationName := span.operationName
  spanId := span.spanId
  parentSpanId := span.parentSpanId
  isEntry := span.isEntry
  isExit := span.isExit
  spanLayer := span.spanLayer

@[simp] lemma identity_start (span : TracingSpan) (now : SystemTime) :
    (span.start now).identity = span.identity := rfl

@[simp] lemma identity_endNow (span : TracingSpan) (now : SystemTime) :
    (span.endNow now).identity = span.identity := rfl

/-- No call of the trait changes the identity. -/
@[simp] lemma identity_apply (span : TracingSpan) (op : SpanOp) :
    (op.apply span).identity = span.identity := by
  cases op <;> rfl

/-- Tags added one after the other stand one after the other; nothing else changes. -/
lemma foldl_tag (tags : List Tag) (span : TracingSpan) :
    tags.foldl tag span = { span with tags := span.tags ++ tags } := by
  induction tags generalizing span with
  | nil => simp
  | cons t tags ih =>
      rw [List.foldl_cons, ih, tag]
      simp

/-- `merge_span` in one update. -/
lemma mergeSpan_eq (span other : TracingSpan) :
    span.mergeSpan other = { span with
      tags := span.tags ++ other.tags
      errorOccurred := span.errorOccurred || other.errorOccurred } := by
  rw [mergeSpan, foldl_tag]
  cases herror : other.errorOccurred with
  | false => simp [isError, herror]
  | true => simp [isError, setErrorOccurred, herror]

/-- Merging another span does not change the identity. -/
@[simp] lemma identity_mergeSpan (span other : TracingSpan) :
    (span.mergeSpan other).identity = span.identity := by
  rw [mergeSpan_eq]
  rfl

end TracingSpan

end Skywalking
