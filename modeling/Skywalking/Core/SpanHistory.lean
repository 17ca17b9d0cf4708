import Skywalking.Core.Span

/-!
The history of a span: the constructor that made it, the calls of the trait `Span` on it
and the spans merged into it, each of which has a history of its own.

What a span has recorded is read off its history here, call by call, and compared with the
fields that the calls have filled.

* `SpanHistory`, `SpanHistory.span`: a history and the span it leads to.
* `SpanHistory.tags`, `logs`, `peersSet`, `componentIds`: what was recorded on the span, in
  the order in which it was recorded. Only tags travel with a merge.
* `SpanHistory.InError`: an error occurred on the span or on one merged into it.
-/

namespace Skywalking

/-- How a span came to be what it is. -/
inductive SpanHistory where
  /-- `TracingSpan::new_entry_span`. -/
  | newEntrySpan (operationName : String) (spanId parentSpanId : Int32) (layer : SpanLayer)
  /-- `TracingSpan::new_exit_span`. -/
  | newExitSpan (operationName : String) (spanId parentSpanId : Int32) (peer : String)
      (layer : SpanLayer)
  /-- `TracingSpan::new_local_span`. -/
  | newLocalSpan (operationName : String) (spanId parentSpanId : Int32) (layer : SpanLayer)
  /-- A call on the span. -/
  | call (history : SpanHistory) (op : SpanOp)
  /-- `merge_span` of another span into it. -/
  | mergeSpan (history other : SpanHistory)
  deriving DecidableEq, Repr

namespace SpanHistory

/-- The span that a history leads to. -/
def span : SpanHistory → TracingSpan
  | .newEntrySpan operationName spanId parentSpanId layer =>
      TracingSpan.newEntrySpan operationName spanId parentSpanId layer
  | .newExitSpan operationName spanId parentSpanId peer layer =>
      TracingSpan.newExitSpan operationName spanId parentSpanId peer layer
  | .newLocalSpan operationName spanId parentSpanId layer =>
      TracingSpan.newLocalSpan operationName spanId parentSpanId layer
  | .call history op => op.apply history.span
  | .mergeSpan history other => history.span.mergeSpan other.span

/-- The identity given to the span by its constructor. -/
def identity : SpanHistory → SpanIdentity
  | .newEntrySpan operationName spanId parentSpanId layer =>
      ⟨operationName, spanId, parentSpanId, true, false, layer⟩
  | .newExitSpan operationName spanId parentSpanId _ layer =>
      ⟨operationName, spanId, parentSpanId, false, true, layer⟩
  | .newLocalSpan operationName spanId parentSpanId layer =>
      ⟨operationName, spanId, parentSpanId, false, false, layer⟩
  | .call history _ => history.identity
  | .mergeSpan history _ => history.identity

/-- The tags in the order in which they were added, those of a merged span at the point of
the merge. -/
def tags : SpanHistory → List Tag
  | .newEntrySpan .. | .newExitSpan .. | .newLocalSpan .. => []
  | .call history (.tag t) => history.tags ++ [t]
  | .call history _ => history.tags
  | .mergeSpan history other => history.tags ++ other.tags

/-- The events passed to `log`, in order. -/
def logs : SpanHistory → List LogEvent
  | .newEntrySpan .. | .newExitSpan .. | .newLocalSpan .. => []
  | .call history (.log event) => history.logs ++ [event]
  | .call history _ => history.logs
  | .mergeSpan history _ => history.logs

/-- The peers set by the constructor of an exit span and by `set_peer`, in order. -/
def peersSet : SpanHistory → List String
  | .newEntrySpan .. | .newLocalSpan .. => []
  | .newExitSpan _ _ _ peer _ => [peer]
  | .call history (.setPeer peer) => history.peersSet ++ [peer]
  | .call history _ => history.peersSet
  | .mergeSpan history _ => history.peersSet

/-- The values passed to `set_component_id`, in order. -/
def componentIds : SpanHistory → List Int32
  | .newEntrySpan .. | .newExitSpan .. | .newLocalSpan .. => []
  | .call history (.setComponentId componentId) => history.componentIds ++ [componentId]
  | .call history _ => history.componentIds
  | .mergeSpan history _ => history.componentIds

/-- `error_occurred` was called on the span or on a span merged into it, directly or through
its own merges. -/
inductive InError : SpanHistory → Prop
  | occurred (history : SpanHistory) : InError (history.call .errorOccurred)
  | call {history : SpanHistory} (op : SpanOp) : InError history → InError (history.call op)
  | receiver {history : SpanHistory} (other : SpanHistory) :
      InError history → InError (history.mergeSpan other)
  | merged (history : SpanHistory) {other : SpanHistory} :
      InError other → InError (history.mergeSpan other)

/-! ### The fields of the span -/

variable (h : SpanHistory)

lemma identity_span : h.span.identity = h.identity := by
  induction h with
  | newEntrySpan | newExitSpan | newLocalSpan => rfl
  | call history op ih => rw [span, TracingSpan.identity_apply, ih, identity]
  | mergeSpan history other ih ih' => rw [span, TracingSpan.identity_mergeSpan, ih, identity]

lemma tags_span : h.span.tags = h.tags := by
  induction h with
  | newEntrySpan | newExitSpan | newLocalSpan => rfl
  | call history op ih =>
      cases op with
      | tag t => rw [tags, ← ih]; rfl
      | _ => exact ih
  | mergeSpan history other ih ih' => rw [span, TracingSpan.mergeSpan_eq, tags, ← ih, ← ih']

lemma logs_span : h.span.logs = h.logs := by
  induction h with
  | newEntrySpan | newExitSpan | newLocalSpan => rfl
  | call history op ih =>
      cases op with
      | log event => rw [logs, ← ih]; rfl
      | _ => exact ih
  | mergeSpan history other ih ih' => rw [span, TracingSpan.mergeSpan_eq, logs, ← ih]

/-- The last peer set is the peer of the span. -/
lemma peer_span : h.span.peer = h.peersSet.getLast? := by
  induction h with
  | newEntrySpan | newExitSpan | newLocalSpan => rfl
  | call history op ih =>
      cases op with
      | setPeer peer => rw [peersSet, List.getLast?_concat]; rfl
      | _ => exact ih
  | mergeSpan history other ih ih' => rw [span, TracingSpan.mergeSpan_eq, peersSet, ← ih]

/-- The last component id set is the one of the span. -/
lemma componentId_span : h.span.componentId = h.componentIds.getLast? := by
  induction h with
  | newEntrySpan | newExitSpan | newLocalSpan => rfl
  | call history op ih =>
      cases op with
      | setComponentId componentId => rw [componentIds, List.getLast?_concat]; rfl
      | _ => exact ih
  | mergeSpan history other ih ih' => rw [span, TracingSpan.mergeSpan_eq, componentIds, ← ih]

lemma inError_call_iff {history : SpanHistory} {op : SpanOp} :
    (history.call op).InError ↔ op = .errorOccurred ∨ history.InError := by
  constructor
  · intro herror
    cases herror with
    | occurred => exact Or.inl rfl
    | call _ herror => exact Or.inr herror
  · rintro (rfl | herror)
    · exact .occurred history
    · exact .call op herror

lemma inError_mergeSpan_iff {history other : SpanHistory} :
    (history.mergeSpan other).InError ↔ history.InError ∨ other.InError := by
  constructor
  · intro herror
    cases herror with
    | receiver _ herror => exact Or.inl herror
    | merged _ herror => exact Or.inr herror
  · rintro (herror | herror)
    · exact .receiver other herror
    · exact .merged history herror

lemma errorOccurred_span : h.span.errorOccurred = true ↔ h.InError := by
  induction h with
  | newEntrySpan | newExitSpan | newLocalSpan =>
      constructor
      · intro herror
        cases herror
      · intro herror
        cases herror
  | call history op ih =>
      rw [inError_call_iff, ← ih]
      cases op with
      | errorOccurred => exact iff_of_true rfl (Or.inl rfl)
      | _ => exact (or_iff_right (by simp)).symm
  | mergeSpan history other ih ih' =>
      rw [inError_mergeSpan_iff, ← ih, ← ih', span, TracingSpan.mergeSpan_eq, Bool.or_eq_true]

end SpanHistory

end Skywalking
