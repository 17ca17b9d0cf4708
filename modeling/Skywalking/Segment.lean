import Skywalking.Agent.Reporter
import Skywalking.Core.SpanHistory
import Skywalking.Scope.Basic

/-!
What the worker sends of a span, against the history of the span.

* `history_of_run`: every span that a scope holds or has finished has a history.
* `transformSegments_reflects`: **what a segment tells**. The tags, the error status, the
  peer and the references of a span object are those of the history of its span.
* `keepsRecords_iff`: **what a segment leaves out**. The logs of a span are dropped, and its
  component id is 94 whatever was set.

Both are about every history that leads to a span, and say of the spans that a run hands over
that there is one.
-/

namespace Skywalking

open Machine Scope

/-! ### Every span has a history -/

/-- What a creating call returns has a history. -/
lemma exists_history_newSpan (op : Op) (spanId parentSpanId : Int32) (span : TracingSpan)
    (hnew : op.newSpan spanId parentSpanId = some span) : ∃ h : SpanHistory, h.span = span := by
  cases op with
  | tracingEntry operationName layer now =>
      obtain rfl := Option.some.inj hnew
      exact ⟨.call (.newEntrySpan operationName spanId parentSpanId layer) (.start now), rfl⟩
  | tracingLocal operationName layer now =>
      obtain rfl := Option.some.inj hnew
      exact ⟨.call (.newLocalSpan operationName spanId parentSpanId layer) (.start now), rfl⟩
  | tracingExit operationName peer layer injector now =>
      obtain rfl := Option.some.inj hnew
      exact ⟨.call (.newExitSpan operationName spanId parentSpanId peer layer) (.start now), rfl⟩
  | _ => exact absurd hnew (by simp [Op.newSpan])

/-- **Every span has a history**: every span held in a scope, finished in it or handed over
with its context came to be by calls of the trait `Span`. -/
theorem history_of_run {b64 : Base64} {config : Config} {traceDraw segmentDraw : IdDraw}
    {current : CurrentTracingContext} {es : List Op} {s : Scope}
    (hnew : CurrentTracingContext.new config traceDraw segmentDraw = .ok current)
    (hrun : run (step b64) (enter current) es = some s) :
    s.AllSpans fun span => ∃ h : SpanHistory, h.span = span := by
  refine allSpans_of_run exists_history_newSpan ?_ ?_ (AllSpans.enter hnew) hrun
  · rintro _ op ⟨h, rfl⟩
    exact ⟨h.call op, rfl⟩
  · rintro _ _ ⟨h, rfl⟩ ⟨h', rfl⟩
    exact ⟨h.mergeSpan h', rfl⟩

/-- A run of some scope hands the context over. -/
def HandedOver (b64 : Base64) (context : TracingContext) : Prop :=
  ∃ config traceDraw segmentDraw current es s,
    CurrentTracingContext.new config traceDraw segmentDraw = .ok current
      ∧ run (step b64) (enter current) es = some s ∧ context ∈ s.reported

lemma HandedOver.exists_history {b64 : Base64} {context : TracingContext}
    (h : HandedOver b64 context) :
    ∀ span ∈ context.finishedSpans, ∃ history : SpanHistory, history.span = span := by
  obtain ⟨config, traceDraw, segmentDraw, current, es, s, hnew, hrun, hcontext⟩ := h
  exact (history_of_run hnew hrun).reported context hcontext

/-! ### What a segment tells -/

/-- A span object tells what the history of its span has recorded. -/
structure SpanObject.Reflects (b64 : Base64) (object : SpanObject) (h : SpanHistory) : Prop where
  tags : object.tags = h.tags.map fun t => ⟨t.key, t.value⟩
  isError : object.isError = true ↔ h.InError
  peer : object.peer = h.peersSet.getLast?.getD ""
  refs : object.refs = (h.tags.filter (·.key = "sw8-parent")).filterMap fun t =>
    SegmentReference.fromText b64 t.value

namespace Reporter

lemma reflects_spanObject (b64 : Base64) (h : SpanHistory) :
    (spanObject b64 h.span).Reflects b64 h where
  tags := by rw [spanObject, h.tags_span]
  isError := h.errorOccurred_span
  peer := by
    rw [← h.peer_span]
    cases hpeer : h.span.peer with
    | none => simp [spanObject, TracingSpan.peerInfo, hpeer]
    | some peer => simp [spanObject, TracingSpan.peerInfo, hpeer]
  refs := by
    rw [spanObject, h.tags_span, List.filterMap_filter]
    simp only [decide_eq_true_eq]

/-- One object for each finished span, in their order. -/
lemma forall₂_genSegment {b64 : Base64} {config : Config} {R : TracingSpan → SpanObject → Prop}
    (context : TracingContext)
    (hR : ∀ span ∈ context.finishedSpans, R span (spanObject b64 span)) :
    List.Forall₂ R context.finishedSpans (genSegment b64 context config).spans := by
  rw [genSegment, List.forall₂_map_right_iff, List.forall₂_same]
  exact hR

/-- The segments are those of the contexts that are present. -/
lemma transformSegments_eq (b64 : Base64) (config : Config)
    (batch : List (Option TracingContext)) :
    transformSegments b64 config batch
      = batch.reduceOption.map fun context => genSegment b64 context config := by
  rw [transformSegments, List.reduceOption, List.map_filterMap]
  rfl

/-- **What a segment tells**: there is one segment for each context present in a batch, in
order, and in it one span object for each finished span, in order. It has the ids and the
name of the span and reflects every history that leads to it; for the spans of a context that
a run of a scope has handed over there is such a history. -/
theorem transformSegments_reflects (b64 : Base64) (config : Config)
    (batch : List (Option TracingContext)) :
    List.Forall₂
      (fun context segment =>
        segment.traceSegmentId = context.segmentId.toString
        ∧ segment.traceId = context.traceId.toString
        ∧ List.Forall₂
            (fun span object =>
              object.spanId = span.spanId ∧ object.parentSpanId = span.parentSpanId
              ∧ object.operationName = span.operationName
              ∧ ∀ h : SpanHistory, h.span = span → object.Reflects b64 h)
            context.finishedSpans segment.spans)
      batch.reduceOption (transformSegments b64 config batch)
    ∧ ∀ context, HandedOver b64 context →
        List.Forall₂ (fun span object => ∃ h : SpanHistory, h.span = span ∧ object.Reflects b64 h)
          context.finishedSpans (genSegment b64 context config).spans := by
  constructor
  · rw [transformSegments_eq, List.forall₂_map_right_iff, List.forall₂_same]
    intro context _
    refine ⟨rfl, rfl, forall₂_genSegment context fun span _ => ⟨rfl, rfl, rfl, ?_⟩⟩
    rintro h rfl
    exact reflects_spanObject b64 h
  · intro context hcontext
    refine forall₂_genSegment context fun span hspan => ?_
    obtain ⟨h, rfl⟩ := hcontext.exists_history span hspan
    exact ⟨h, rfl, reflects_spanObject b64 h⟩

end Reporter

/-! ### What a segment leaves out -/

/-- The message of the protocol for a log event. -/
def LogEvent.message (event : LogEvent) : Log :=
  ⟨event.timestamp, event.fields.map fun field => ⟨field.name, field.value⟩⟩

/-- A span object keeps what was logged on its span, in order, and the component id that was
set last. -/
structure SpanObject.KeepsRecords (object : SpanObject) (h : SpanHistory) : Prop where
  logs : (h.logs.map LogEvent.message).Sublist object.logs
  componentId : ∀ componentId, h.componentIds.getLast? = some componentId →
    object.componentId = componentId

namespace Reporter

lemma keepsRecords_spanObject (b64 : Base64) (h : SpanHistory) :
    (spanObject b64 h.span).KeepsRecords h
      ↔ h.logs = [] ∧ ∀ componentId, h.componentIds.getLast? = some componentId →
        componentId = 94 := by
  constructor
  · rintro ⟨hlogs, hcomponent⟩
    refine ⟨List.map_eq_nil_iff.mp (List.sublist_nil.mp hlogs), fun componentId hlast => ?_⟩
    exact (hcomponent componentId hlast).symm
  · rintro ⟨hlogs, hcomponent⟩
    refine ⟨by rw [hlogs]; exact List.nil_sublist _, fun componentId hlast => ?_⟩
    exact (hcomponent componentId hlast).symm

/-- **What a segment leaves out**: for every history of a finished span, the object of the
span keeps what was logged and the component that was set exactly if nothing was logged and
no component other than 94 was set last; for the spans of a context that a run of a scope has
handed over there is such a history. -/
theorem keepsRecords_iff (b64 : Base64) (config : Config) (context : TracingContext) :
    List.Forall₂
      (fun span object => ∀ h : SpanHistory, h.span = span →
        (object.KeepsRecords h
          ↔ h.logs = [] ∧ ∀ componentId, h.componentIds.getLast? = some componentId →
            componentId = 94))
      context.finishedSpans (genSegment b64 context config).spans
    ∧ (HandedOver b64 context →
        List.Forall₂
          (fun span object => ∃ h : SpanHistory, h.span = span
            ∧ (object.KeepsRecords h
              ↔ h.logs = [] ∧ ∀ componentId, h.componentIds.getLast? = some componentId →
                componentId = 94))
          context.finishedSpans (genSegment b64 context config).spans) := by
  constructor
  · refine forall₂_genSegment context fun span _ => ?_
    rintro h rfl
    exact keepsRecords_spanObject b64 h
  · intro hcontext
    refine forall₂_genSegment context fun span hspan => ?_
    obtain ⟨h, rfl⟩ := hcontext.exists_history span hspan
    exact ⟨h, rfl, keepsRecords_spanObject b64 h⟩

/-- A local span with one log event and a component id, finished as the only span of its
scope: neither the event nor the component id is in the segment of the context handed over. -/
theorem log_and_component_lost :
    ∃ s context h, run (step .standard) (enter .demo)
        [.tracingLocal "load" .rpc ⟨10 ^ 9⟩, .onSpan 0 (.log ⟨1000, [⟨"event", "cache miss"⟩]⟩),
          .onSpan 0 (.setComponentId 7), .finishSpan 0 ⟨2 * 10 ^ 9⟩ ⟨2 * 10 ^ 9⟩] = some s
      ∧ s.reported = [context] ∧ context.finishedSpans = [h.span]
      ∧ h.logs = [⟨1000, [⟨"event", "cache miss"⟩]⟩] ∧ h.componentIds = [7]
      ∧ (genSegment .standard context Config.demo).spans.map (fun object =>
        (object.logs, object.componentId)) = [([], 94)]
      ∧ ¬ ∀ object ∈ (genSegment .standard context Config.demo).spans,
        object.KeepsRecords h := by
  refine ⟨_, _, .call (.call (.call (.call (.newLocalSpan "load" 0 (-1) .rpc)
    (.start ⟨10 ^ 9⟩)) (.log ⟨1000, [⟨"event", "cache miss"⟩]⟩)) (.setComponentId 7))
    (.endNow ⟨2 * 10 ^ 9⟩), rfl, rfl, rfl, rfl, rfl, rfl, ?_⟩
  intro hkeeps
  exact absurd (hkeeps _ (List.mem_singleton_self _)).logs (by decide)

end Reporter

end Skywalking
