import Skywalking.Agent.ContextManager
import Skywalking.Machine.Mailbox
import Skywalking.Remote

/-!
`agent/reporter.rs` without the loop of its worker: the construction of the reporter, the
hand-over of a context to its channel, and the segments the worker makes of contexts.

* `Reporter.new` calls `Config::new` twice. The first configuration goes to the worker
  task, the second one into the field `config`.
* `reportTrace`: the hand-over. What `error!` writes of a context is a `LogRecord`.
* `genSegment`, `transformSegments`: the protobuf side of contexts.
-/

namespace Skywalking

open RustStd Machine

/-- What the reporter writes to the log so that it can be found on disk. -/
inductive LogRecord where
  /-- `skywalking channel is full!traceId:{:?} msg log to disk.`, and the context. -/
  | channelFull (context : TracingContext)
  /-- `skywalking channel is disconnected! … msg log to disk.`, and the context. -/
  | channelDisconnected (context : TracingContext)
  /-- `… segments backup to disk.{:?}`, with the segments. -/
  | segmentsBackup (segments : List SegmentObject)
  deriving DecidableEq, Repr

/-- `Reporter`, with the channel behind its `sender` and the configuration that its worker
task has captured. -/
structure Reporter where
  channel : Mailbox TracingContext
  config : Config
  workerConfig : Config

namespace Reporter

/-- `SKW_CHAN_SIZE`. -/
def skwChanSize : ℕ := 50000

/-- `Reporter::new`, with what its two calls of `Config::new` draw. -/
def new (env : Env) (workerDraw draw : ConfigDraw) : Reporter :=
  let config := Config.new env workerDraw
  { channel := { capacity := skwChanSize, queue := [] }
    workerConfig := config
    config := Config.new env draw }

/-- The URI that `retrieve_client` connects to. -/
def clientUri (config : Config) : String :=
  "http://" ++ config.collectorHost.getD "127.0.0.1" ++ ":" ++ config.collectorPort.getD "11800"

/-- A reporter in an empty environment. -/
def demo : Reporter := new (fun _ => none) (.demo 0) (.demo 1)

lemma exists_scope_demo : ∃ current,
    CurrentTracingContext.new demo.config ⟨1, ⟨10 ^ 9⟩⟩ ⟨2, ⟨10 ^ 9⟩⟩ = .ok current :=
  ⟨_, rfl⟩

/-- `report_trace`: what it returns, the channel after it, and what it logs. -/
def reportTrace (channel : Mailbox TracingContext) (traceInfo : TracingContext)
    (tryTimes : UInt8) : Bool × Mailbox TracingContext × List LogRecord :=
  match channel.trySend traceInfo with
  | .ok channel => (true, channel, [])
  | .error (.full ctx) =>
      (false, channel, if tryTimes > 3 then [.channelFull ctx] else [])
  | .error (.closed ctx) => (false, channel, [.channelDisconnected ctx])

/-! ### Segments -/

/-- The body of the loop of `gen_segment`. -/
def spanObject (b64 : Base64) (s : TracingSpan) : SpanObject where
  spanId := s.spanId
  parentSpanId := s.parentSpanId
  startTime := s.timeInfo.1.toInt64
  endTime := s.timeInfo.2.toInt64
  refs := s.tags.filterMap fun t =>
    if t.key = "sw8-parent" then SegmentReference.fromText b64 t.value else none
  operationName := s.operationName
  peer := s.peerInfo
  spanType := if s.isExit then 1 else if s.isEntry then 0 else 2
  spanLayer := s.spanLayer.val
  componentId := 94
  isError := s.isError
  tags := s.tags.map fun t => ⟨t.key, t.value⟩
  logs := []
  skipAnalysis := false

/-- `gen_segment`. -/
def genSegment (b64 : Base64) (ctx : TracingContext) (config : Config) : SegmentObject where
  traceId := ctx.traceId.toString
  traceSegmentId := ctx.segmentId.toString
  spans := ctx.finishedSpans.map (spanObject b64)
  service := config.serviceName
  serviceInstance := config.serviceInstance
  isSizeLimited := false

/-- `transform_segments`. -/
def transformSegments (b64 : Base64) (config : Config) (ctx : List (Option TracingContext)) :
    List SegmentObject :=
  ctx.filterMap fun v => v.map fun ctx => genSegment b64 ctx config

/-! ### Span objects -/

/-- The ids, the operation name and the type of a span object are those of the identity
of its span. -/
lemma spanObject_of_identity (b64 : Base64) {s s' : TracingSpan}
    (h : s.identity = s'.identity) :
    (spanObject b64 s).spanId = s'.spanId ∧ (spanObject b64 s).parentSpanId = s'.parentSpanId
      ∧ (spanObject b64 s).operationName = s'.operationName
      ∧ (spanObject b64 s).spanType = if s'.isExit then 1 else if s'.isEntry then 0 else 2 := by
  simp only [TracingSpan.identity, SpanIdentity.mk.injEq] at h
  obtain ⟨hname, hid, hparent, hentry, hexit, -⟩ := h
  refine ⟨hid, hparent, hname, ?_⟩
  rw [spanObject, hexit, hentry]

end Reporter

end Skywalking
