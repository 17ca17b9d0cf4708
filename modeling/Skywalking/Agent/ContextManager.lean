import Skywalking.Core.Context
import Skywalking.Agent.Config

/-!
`agent/context_manager.rs`: the context of the current task and the calls a program
makes on it.

A task sees the task-local `CTX` only inside an `async_enter` scope: `TaskLocal` is
`none` outside. A scope whose context has been handed over holds no context any more
(`CurrentTracingContext.option` is `none`). Wherever the source calls
`SKYWALKING_REPORTER.report_trace(context, 0)`, the model returns the context it hands
over.
-/

namespace Skywalking

open RustStd

/-- `WorkingContext`. -/
structure WorkingContext where
  context : TracingContext
  spanStack : List Int32
  deriving DecidableEq, Repr

/-- `CurrentTracingContext`. -/
structure CurrentTracingContext where
  option : Option WorkingContext
  deriving DecidableEq, Repr

namespace CurrentTracingContext

/-- `CurrentTracingContext::new`, for the configuration of `SKYWALKING_REPORTER`. -/
def new (config : Config) (traceDraw segmentDraw : IdDraw) :
    Except Panic CurrentTracingContext := do
  let tx ← TracingContext.new (some config.instanceId) config.serviceName
    config.serviceInstance config.getAddrClient traceDraw segmentDraw
  match tx with
  | some tx => return ⟨some ⟨tx, []⟩⟩
  | none => return ⟨none⟩

/-- `parent_span_id`. -/
def parentSpanId (current : CurrentTracingContext) : Option Int32 :=
  match current.option with
  | none => none
  | some wx => wx.spanStack.getLast?

/-- `create_entry_span`. -/
def createEntrySpan (current : CurrentTracingContext) (operationName : String)
    (parentSpanId : Option Int32) (extractor : Option Extractable) (layer : SpanLayer) :
    Except Panic (Option TracingSpan × CurrentTracingContext) :=
  match current.option with
  | none => .ok (none, current)
  | some wx => do
      let (span, context) ←
        wx.context.createEntrySpan operationName parentSpanId layer extractor
      return (some span, ⟨some ⟨context, wx.spanStack ++ [span.spanId]⟩⟩)

/-- `create_exit_span`. -/
def createExitSpan (b64 : Base64) (current : CurrentTracingContext) (operationName : String)
    (parentSpanId : Option Int32) (peer : String) (layer : SpanLayer) (injector : Bool) :
    Option TracingSpan × Option Injection × CurrentTracingContext :=
  match current.option with
  | none => (none, none, current)
  | some wx =>
      let (span, injection, context) :=
        wx.context.createExitSpan b64 operationName parentSpanId peer layer injector
      (some span, injection, ⟨some ⟨context, wx.spanStack ++ [span.spanId]⟩⟩)

/-- `create_local`. -/
def createLocal (current : CurrentTracingContext) (operationName : String)
    (parentSpanId : Option Int32) (layer : SpanLayer) :
    Option TracingSpan × CurrentTracingContext :=
  match current.option with
  | none => (none, current)
  | some wx =>
      let (span, context) := wx.context.createLocalSpan operationName parentSpanId layer
      (some span, ⟨some ⟨context, wx.spanStack ++ [span.spanId]⟩⟩)

/-- `finish_span`: the span is archived and the top of the stack is popped. -/
def finishSpan (current : CurrentTracingContext) (span : TracingSpan) (now : SystemTime) :
    CurrentTracingContext :=
  match current.option with
  | none => current
  | some wx => ⟨some ⟨wx.context.finishSpan span now, wx.spanStack.dropLast⟩⟩

/-- `finish`: the context is taken out and handed over. -/
def finish (current : CurrentTracingContext) :
    CurrentTracingContext × Option TracingContext :=
  match current.option with
  | none => (⟨none⟩, none)
  | some wx => (⟨none⟩, some wx.context)

/-- `change_trace_id`. -/
def changeTraceId (current : CurrentTracingContext) (id : ID) : CurrentTracingContext :=
  match current.option with
  | none => current
  | some wx => ⟨some { wx with context := wx.context.changeTraceId id }⟩

end CurrentTracingContext

/-- What a task finds under `CTX`: nothing outside a scope. -/
abbrev TaskLocal := Option CurrentTracingContext

/-- A context as `CurrentTracingContext::new` creates it for a configuration. -/
structure TracingContext.IsNew (config : Config) (context : TracingContext) : Prop where
  nextSeq : context.nextSeq = -1
  finishedSpans : context.finishedSpans = []
  entryEndpointName : context.entryEndpointName = none
  firstRef : context.firstRef = none
  service : context.service = config.serviceName
  serviceInst : context.serviceInst = config.serviceInstance
  addrClient : context.addrClient = config.getAddrClient

/-- Unless the clock reads before the epoch, a new scope holds a new context and an empty
span stack. -/
lemma CurrentTracingContext.eq_of_new {config : Config} {traceDraw segmentDraw : IdDraw}
    {current : CurrentTracingContext}
    (hnew : CurrentTracingContext.new config traceDraw segmentDraw = .ok current) :
    ∃ context, context.IsNew config ∧ current = ⟨some ⟨context, []⟩⟩ := by
  rw [CurrentTracingContext.new, TracingContext.new] at hnew
  cases htrace : IDGenerator.newId config.instanceId traceDraw with
  | error e => rw [htrace] at hnew; cases hnew
  | ok traceId =>
      cases hsegment : IDGenerator.newId config.instanceId segmentDraw with
      | error e => rw [htrace, hsegment] at hnew; cases hnew
      | ok segmentId =>
          rw [htrace, hsegment] at hnew
          cases hnew
          exact ⟨_, ⟨rfl, rfl, rfl, rfl, rfl, rfl, rfl⟩, rfl⟩

/-! ### A scope for examples -/

/-- A configuration. -/
def Config.demo : Config where
  collectorHost := some "127.0.0.1"
  collectorPort := some "11800"
  serviceName := "demo"
  serviceInstance := "demo@10.0.0.1"
  instanceId := 7
  ip := "10.0.0.1"

/-- What a scope of it holds that is opened at the first second of the epoch. -/
def CurrentTracingContext.demo : CurrentTracingContext := ⟨some ⟨TracingContext.demo, []⟩⟩

lemma CurrentTracingContext.new_demo :
    CurrentTracingContext.new Config.demo ⟨1, ⟨10 ^ 9⟩⟩ ⟨2, ⟨10 ^ 9⟩⟩ = .ok .demo := by
  decide

/-! ### The calls of a program

`now` is the clock reading of the call; `finishSpan` may read the clock a second time,
which is then `now'`. -/

namespace ContextManager

/-- `tracing_entry`. -/
def tracingEntry (operationName : String) (layer : SpanLayer)
    (extractor : Option Extractable) (now : SystemTime) (ctx : TaskLocal) :
    Except Panic (Option TracingSpan × TaskLocal) :=
  match ctx with
  | none => .ok (none, none)
  | some current => do
      let parentSpanId := current.parentSpanId
      let (span, current) ← current.createEntrySpan operationName parentSpanId extractor layer
      return (span.map (·.start now), some current)

/-- `tracing_exit`. -/
def tracingExit (b64 : Base64) (operationName peer : String) (layer : SpanLayer)
    (injector : Bool) (now : SystemTime) (ctx : TaskLocal) :
    Option TracingSpan × Option Injection × TaskLocal :=
  match ctx with
  | none => (none, none, none)
  | some current =>
      let parentSpanId := current.parentSpanId
      let (span, injection, current) :=
        current.createExitSpan b64 operationName parentSpanId peer layer injector
      (span.map (·.start now), injection, some current)

/-- `tracing_local`. -/
def tracingLocal (operationName : String) (layer : SpanLayer) (now : SystemTime)
    (ctx : TaskLocal) : Option TracingSpan × TaskLocal :=
  match ctx with
  | none => (none, none)
  | some current =>
      let parentSpanId := current.parentSpanId
      let (span, current) := current.createLocal operationName parentSpanId layer
      (span.map (·.start now), some current)

/-- `finish_span`, with the context it hands to `report_trace`. -/
def finishSpan (span : Option TracingSpan) (now now' : SystemTime) (ctx : TaskLocal) :
    TaskLocal × Option TracingContext :=
  match ctx, span with
  | some current, some span =>
      let span := span.endNow now
      let isFirstSpan := span.spanId == 0
      let current := current.finishSpan span now'
      if isFirstSpan then
        let (current, handed) := current.finish
        (some current, handed)
      else (some current, none)
  | ctx, _ => (ctx, none)

/-- `change_trace_id`. -/
def changeTraceId (id : ID) (ctx : TaskLocal) : Bool × TaskLocal :=
  match ctx with
  | none => (false, none)
  | some current => (true, some (current.changeTraceId id))

/-- `context_exists`. -/
def contextExists (ctx : TaskLocal) : Bool := ctx.isSome

end ContextManager

end Skywalking
