import Skywalking.Agent.ContextManager
import Skywalking.Machine.Run

/-!
One `async_enter` scope and the program that runs in it.

The program holds the spans it was given under handles, numbered in the order in which
they were returned, and makes the calls of `Op` in any order. A handle is moved when its
span is finished or merged into another one, so no handle is finished twice.

* `Scope.step`, `Scope.enter`: the machine of a scope.
* `Scope.Step`, `step_cases`: what one call can do. Every invariant of a scope is read
  off these cases.
* `origin_of_run`, `traceId_of_run`: what a run keeps of the context of the scope.
* `allSpans_of_run`: what holds of every span that a run holds or has finished.
-/

namespace Skywalking

open RustStd Machine

/-- A call of the program of a scope. Clock readings are arguments; the handles `k`, `j`
stand for the spans they hold. -/
inductive Op where
  /-- `ContextManager::tracing_entry` without an extractor. -/
  | tracingEntry (operationName : String) (layer : SpanLayer) (now : SystemTime)
  /-- `ContextManager::tracing_local`. -/
  | tracingLocal (operationName : String) (layer : SpanLayer) (now : SystemTime)
  /-- `ContextManager::tracing_exit`, with an injector or without. -/
  | tracingExit (operationName peer : String) (layer : SpanLayer) (injector : Bool)
      (now : SystemTime)
  /-- `ContextManager::finish_span` of the span under `k`. -/
  | finishSpan (k : ℕ) (now now' : SystemTime)
  /-- `ContextManager::finish_span` of the `None` that a creation returned. -/
  | finishNone (now now' : SystemTime)
  /-- `ContextManager::change_trace_id`. -/
  | changeTraceId (id : ID)
  /-- A call of the trait `Span` on the span under `k`. -/
  | onSpan (k : ℕ) (op : SpanOp)
  /-- `merge_span` of the span under `j` into the one under `k`. -/
  | mergeSpan (k j : ℕ)
  deriving DecidableEq, Repr

/-- The state of a scope and of the program in it: the task-local context, every span
ever returned (as it was returned), the spans still held, the calls made on injectors
with the handle of their exit span, and the contexts handed to `report_trace`. -/
structure Scope where
  ctx : TaskLocal
  issued : List TracingSpan
  held : List (Option TracingSpan)
  injected : List (ℕ × Injection)
  reported : List TracingContext
  deriving DecidableEq, Repr

namespace Scope

/-- The scope `async_enter` opens around a program. -/
def enter (current : CurrentTracingContext) : Scope where
  ctx := some current
  issued := []
  held := []
  injected := []
  reported := []

/-- The program takes the span a creation returned, if it returned one. -/
def receive (s : Scope) (span : Option TracingSpan) (injection : Option Injection)
    (ctx : TaskLocal) : Scope :=
  { s with
    ctx := ctx
    issued := s.issued ++ span.toList
    held := s.held ++ span.toList.map some
    injected := s.injected ++ injection.toList.map fun i => (s.issued.length, i) }

/-- The span held under a handle, `none` where the handle is unknown or was moved. -/
def span? (s : Scope) (k : ℕ) : Option TracingSpan := (s.held[k]?).join

/-- One call: `none` where it uses a handle that is not held. -/
def step (b64 : Base64) (s : Scope) : Op → Option Scope
  | .tracingEntry operationName layer now =>
      match ContextManager.tracingEntry operationName layer none now s.ctx with
      | .ok (span, ctx) => some (s.receive span none ctx)
      | .error _ => none
  | .tracingLocal operationName layer now =>
      let (span, ctx) := ContextManager.tracingLocal operationName layer now s.ctx
      some (s.receive span none ctx)
  | .tracingExit operationName peer layer injector now =>
      let (span, injection, ctx) :=
        ContextManager.tracingExit b64 operationName peer layer injector now s.ctx
      some (s.receive span injection ctx)
  | .finishSpan k now now' => do
      let span ← s.span? k
      let (ctx, handed) := ContextManager.finishSpan (some span) now now' s.ctx
      return { s with
        ctx := ctx
        held := s.held.set k none
        reported := s.reported ++ handed.toList }
  | .finishNone now now' =>
      let (ctx, handed) := ContextManager.finishSpan none now now' s.ctx
      some { s with ctx := ctx, reported := s.reported ++ handed.toList }
  | .changeTraceId id =>
      let (_, ctx) := ContextManager.changeTraceId id s.ctx
      some { s with ctx := ctx }
  | .onSpan k op => do
      let span ← s.span? k
      return { s with held := s.held.set k (some (op.apply span)) }
  | .mergeSpan k j => do
      let span ← s.span? k
      let other ← s.span? j
      if k = j then none
      else return { s with held := (s.held.set k (some (span.mergeSpan other))).set j none }

end Scope

/-! ### What a call creates -/

namespace WorkingContext

/-- The id the next span gets. -/
def nextId (wx : WorkingContext) : Int32 := wx.context.nextSeq + 1

/-- The parent id the next span gets. -/
def topId (wx : WorkingContext) : Int32 := wx.spanStack.getLast?.getD (-1)

/-- After a creation. -/
def opened (wx : WorkingContext) : WorkingContext :=
  ⟨{ wx.context with nextSeq := wx.nextId }, wx.spanStack ++ [wx.nextId]⟩

/-- The reference that an exit span created now sends along. -/
def exitRef (wx : WorkingContext) (operationName peer : String) (layer : SpanLayer) :
    SegmentRef :=
  SegmentRef.forAcrossProcess wx.opened.context
    (TracingSpan.newExitSpan operationName wx.nextId wx.topId peer layer) peer

/-- After `finish_span` of a span that was ended before. -/
def closed (wx : WorkingContext) (span : TracingSpan) (now : SystemTime) : WorkingContext :=
  ⟨wx.context.finishSpan span now, wx.spanStack.dropLast⟩

end WorkingContext

namespace Op

/-- The span a creating call returns in a scope with a context, for its id and the id of
its parent. -/
def newSpan (spanId parentSpanId : Int32) : Op → Option TracingSpan
  | .tracingEntry operationName layer now =>
      some ((TracingSpan.newEntrySpan operationName spanId parentSpanId layer).start now)
  | .tracingLocal operationName layer now =>
      some ((TracingSpan.newLocalSpan operationName spanId parentSpanId layer).start now)
  | .tracingExit operationName peer layer _ now =>
      some ((TracingSpan.newExitSpan operationName spanId parentSpanId peer layer).start now)
  | _ => none

/-- The call a creating call makes on its injector. -/
def injection (b64 : Base64) (wx : WorkingContext) : Op → Option Injection
  | .tracingExit operationName peer layer true _ =>
      some ⟨"sw8", (wx.exitRef operationName peer layer).serialize b64⟩
  | _ => none

/-- The handle a call finishes. -/
def finishes : Op → Option ℕ
  | .finishSpan k _ _ => some k
  | _ => none

/-- Whether a call is a creation does not depend on the ids. -/
lemma isSome_newSpan (op : Op) (spanId parentSpanId : Int32) :
    (op.newSpan spanId parentSpanId).isSome = (op.newSpan 0 0).isSome := by
  cases op <;> rfl

lemma creates_of_newSpan {spanId parentSpanId : Int32} {op : Op} {span : TracingSpan}
    (h : op.newSpan spanId parentSpanId = some span) : (op.newSpan 0 0).isSome := by
  rw [← op.isSome_newSpan spanId parentSpanId, h]
  rfl

/-- A creating call creates under any ids. -/
lemma exists_newSpan {op : Op} (h : (op.newSpan 0 0).isSome) (spanId parentSpanId : Int32) :
    ∃ span, op.newSpan spanId parentSpanId = some span := by
  rw [← op.isSome_newSpan spanId parentSpanId] at h
  exact Option.isSome_iff_exists.mp h

/-- A creating call finishes nothing. -/
lemma finishes_of_creates {op : Op} (h : (op.newSpan 0 0).isSome) : op.finishes = none := by
  cases op with
  | finishSpan k now now' => exact absurd h (by simp [newSpan])
  | _ => rfl

lemma spanId_newSpan {spanId parentSpanId : Int32} {op : Op} {span : TracingSpan}
    (h : op.newSpan spanId parentSpanId = some span) : span.spanId = spanId := by
  cases op <;> simp only [newSpan, Option.some.injEq, reduceCtorEq] at h <;>
    (subst h; rfl)

lemma parentSpanId_newSpan {spanId parentSpanId : Int32} {op : Op} {span : TracingSpan}
    (h : op.newSpan spanId parentSpanId = some span) : span.parentSpanId = parentSpanId := by
  cases op <;> simp only [newSpan, Option.some.injEq, reduceCtorEq] at h <;>
    (subst h; rfl)

end Op

/-! ### What a call does -/

namespace Scope

/-- The scope holds a context. -/
def Live (s : Scope) (wx : WorkingContext) : Prop := s.ctx = some ⟨some wx⟩

/-- What one call does to a scope. -/
inductive Step (b64 : Base64) (s : Scope) : Op → Scope → Prop
  /-- A creation in a scope with a context. -/
  | create {op : Op} {wx : WorkingContext} {span : TracingSpan} (live : s.Live wx)
      (new : op.newSpan wx.nextId wx.topId = some span) :
      Step b64 s op (s.receive (some span) (op.injection b64 wx) (some ⟨some wx.opened⟩))
  /-- A creation in a scope without a context returns nothing. -/
  | createNone {op : Op} (dead : ∀ wx, ¬ s.Live wx)
      (new : (op.newSpan 0 0).isSome) : Step b64 s op s
  /-- The finish of a span other than the first one archives it. -/
  | finish {k : ℕ} {now now' : SystemTime} {wx : WorkingContext} {span : TracingSpan}
      (live : s.Live wx) (held : s.span? k = some span) (first : span.spanId ≠ 0) :
      Step b64 s (.finishSpan k now now')
        { s with
          ctx := some ⟨some (wx.closed (span.endNow now) now')⟩
          held := s.held.set k none }
  /-- The finish of the first span hands the context over. -/
  | finishFirst {k : ℕ} {now now' : SystemTime} {wx : WorkingContext} {span : TracingSpan}
      (live : s.Live wx) (held : s.span? k = some span) (first : span.spanId = 0) :
      Step b64 s (.finishSpan k now now')
        { s with
          ctx := some ⟨none⟩
          held := s.held.set k none
          reported := s.reported ++ [(wx.closed (span.endNow now) now').context] }
  /-- A finish in a scope without a context drops the span. -/
  | finishDead {k : ℕ} {now now' : SystemTime} {span : TracingSpan}
      (dead : ∀ wx, ¬ s.Live wx) (held : s.span? k = some span) :
      Step b64 s (.finishSpan k now now') { s with held := s.held.set k none }
  /-- The finish of `None` does nothing. -/
  | finishNone {now now' : SystemTime} : Step b64 s (.finishNone now now') s
  /-- A change of the trace id. -/
  | changeTraceId {id : ID} {wx : WorkingContext} (live : s.Live wx) :
      Step b64 s (.changeTraceId id)
        { s with ctx := some ⟨some { wx with context := wx.context.changeTraceId id }⟩ }
  /-- A change of the trace id in a scope without a context does nothing. -/
  | changeTraceIdDead {id : ID} (dead : ∀ wx, ¬ s.Live wx) :
      Step b64 s (.changeTraceId id) s
  /-- A call on a held span. -/
  | onSpan {k : ℕ} {op : SpanOp} {span : TracingSpan} (held : s.span? k = some span) :
      Step b64 s (.onSpan k op) { s with held := s.held.set k (some (op.apply span)) }
  /-- The merge of a held span into another one. -/
  | mergeSpan {k j : ℕ} {span other : TracingSpan} (hk : s.span? k = some span)
      (hj : s.span? j = some other) (hne : k ≠ j) :
      Step b64 s (.mergeSpan k j)
        { s with held := (s.held.set k (some (span.mergeSpan other))).set j none }

lemma receive_none (s : Scope) : s.receive none none s.ctx = s := by
  simp [receive]

/-- A scope either holds a context or does not. -/
lemma live_or_dead (s : Scope) : (∃ wx, s.Live wx) ∨ ∀ wx, ¬ s.Live wx := by
  by_cases h : ∃ wx, s.Live wx
  · exact Or.inl h
  · exact Or.inr (not_exists.mp h)

/-- Without a context there is no scope at all, or one whose context was handed over. -/
lemma ctx_of_dead {s : Scope} (dead : ∀ wx, ¬ s.Live wx) : s.ctx = none ∨ s.ctx = some ⟨none⟩ := by
  rcases hctx : s.ctx with _ | ⟨_ | wx⟩
  · exact Or.inl rfl
  · exact Or.inr rfl
  · exact absurd hctx (dead wx)

lemma dead_of_ctx {s : Scope} (hctx : s.ctx = some ⟨none⟩) : ∀ wx, ¬ s.Live wx := by
  intro wx live
  rw [Live, hctx] at live
  cases live

lemma step_eq_create {b64 : Base64} {s : Scope} {op : Op} {wx : WorkingContext}
    {span : TracingSpan} (live : s.Live wx) (new : op.newSpan wx.nextId wx.topId = some span) :
    step b64 s op
      = some (s.receive (some span) (op.injection b64 wx) (some ⟨some wx.opened⟩)) := by
  rw [Live] at live
  cases op with
  | tracingEntry operationName layer now =>
      obtain rfl := Option.some.inj new
      rw [step, live]
      rfl
  | tracingLocal operationName layer now =>
      obtain rfl := Option.some.inj new
      rw [step, live]
      rfl
  | tracingExit operationName peer layer injector now =>
      obtain rfl := Option.some.inj new
      rw [step, live]
      cases injector <;> rfl
  | _ => exact absurd new (by simp [Op.newSpan])

lemma step_eq_createNone {b64 : Base64} {s : Scope} {op : Op} (dead : ∀ wx, ¬ s.Live wx)
    (new : (op.newSpan 0 0).isSome) : step b64 s op = some s := by
  have hnone : step b64 s op = some (s.receive none none s.ctx) := by
    cases op with
    | tracingEntry operationName layer now =>
        rcases ctx_of_dead dead with hctx | hctx <;> (rw [step, hctx]; rfl)
    | tracingLocal operationName layer now =>
        rcases ctx_of_dead dead with hctx | hctx <;> (rw [step, hctx]; rfl)
    | tracingExit operationName peer layer injector now =>
        rcases ctx_of_dead dead with hctx | hctx <;> (rw [step, hctx]; rfl)
    | _ => exact absurd new (by simp [Op.newSpan])
  rw [hnone, receive_none]

/-- `finish_span` of a span, in a scope with a context. -/
lemma finishSpan_live (wx : WorkingContext) (span : TracingSpan) (now now' : SystemTime) :
    ContextManager.finishSpan (some span) now now' (some ⟨some wx⟩)
      = if span.spanId = 0 then
          (some ⟨none⟩, some (wx.closed (span.endNow now) now').context)
        else (some ⟨some (wx.closed (span.endNow now) now')⟩, none) := by
  have hid : (span.endNow now).spanId = span.spanId := rfl
  by_cases h0 : span.spanId = 0
  · rw [if_pos h0]
    simp [ContextManager.finishSpan, CurrentTracingContext.finishSpan,
      CurrentTracingContext.finish, WorkingContext.closed, hid, h0]
  · rw [if_neg h0]
    simp [ContextManager.finishSpan, CurrentTracingContext.finishSpan, WorkingContext.closed,
      hid, h0]

/-- The finish of a held span, in a scope with a context. -/
lemma step_finishSpan {b64 : Base64} {s : Scope} {wx : WorkingContext} {span : TracingSpan}
    {k : ℕ} {now now' : SystemTime} (live : s.Live wx) (held : s.span? k = some span) :
    step b64 s (.finishSpan k now now')
      = some (if span.spanId = 0 then
          { s with
            ctx := some ⟨none⟩
            held := s.held.set k none
            reported := s.reported ++ [(wx.closed (span.endNow now) now').context] }
        else
          { s with
            ctx := some ⟨some (wx.closed (span.endNow now) now')⟩
            held := s.held.set k none }) := by
  rw [Live] at live
  rw [step, held, live, Option.bind_eq_bind, Option.bind_some, finishSpan_live]
  split_ifs with h0
  · rfl
  · simp

/-- The finish of a held span, in a scope without a context. -/
lemma step_finishSpan_dead {b64 : Base64} {s : Scope} {span : TracingSpan} {k : ℕ}
    {now now' : SystemTime} (dead : ∀ wx, ¬ s.Live wx) (held : s.span? k = some span) :
    step b64 s (.finishSpan k now now') = some { s with held := s.held.set k none } := by
  rcases ctx_of_dead dead with hctx | hctx
  · rw [step, held, hctx]
    simp [ContextManager.finishSpan]
  · rw [step, held, hctx]
    simp [ContextManager.finishSpan, CurrentTracingContext.finishSpan,
      CurrentTracingContext.finish]

/-- **Inversion of a step**. -/
theorem step_cases {b64 : Base64} {s s' : Scope} {op : Op} (h : step b64 s op = some s') :
    Step b64 s op s' := by
  cases hnew : op.newSpan 0 0 with
  | some _ =>
      have hsome : (op.newSpan 0 0).isSome := by rw [hnew]; rfl
      rcases s.live_or_dead with ⟨wx, live⟩ | dead
      · obtain ⟨span, new⟩ := Op.exists_newSpan hsome wx.nextId wx.topId
        rw [step_eq_create live new] at h
        obtain rfl := Option.some.inj h
        exact .create live new
      · rw [step_eq_createNone dead hsome] at h
        obtain rfl := Option.some.inj h
        exact .createNone dead hsome
  | none =>
      cases op with
      | tracingEntry operationName layer now => exact absurd hnew (by simp [Op.newSpan])
      | tracingLocal operationName layer now => exact absurd hnew (by simp [Op.newSpan])
      | tracingExit operationName peer layer injector now =>
          exact absurd hnew (by simp [Op.newSpan])
      | finishSpan k now now' =>
          cases held : s.span? k with
          | none => rw [step, held] at h; exact absurd h (by simp)
          | some span =>
              rcases s.live_or_dead with ⟨wx, live⟩ | dead
              · rw [step_finishSpan live held] at h
                obtain rfl := Option.some.inj h
                split_ifs with h0
                · exact .finishFirst live held h0
                · exact .finish live held h0
              · rw [step_finishSpan_dead dead held] at h
                obtain rfl := Option.some.inj h
                exact .finishDead dead held
      | finishNone now now' =>
          have hnone : ContextManager.finishSpan none now now' s.ctx = (s.ctx, none) := by
            cases s.ctx <;> rfl
          rw [step, hnone] at h
          obtain rfl : s = s' := by simpa using h
          exact .finishNone
      | changeTraceId id =>
          rcases s.live_or_dead with ⟨wx, live⟩ | dead
          · rw [step, show s.ctx = some ⟨some wx⟩ from live] at h
            obtain rfl := Option.some.inj h
            exact .changeTraceId live
          · have hsame : (ContextManager.changeTraceId id s.ctx).2 = s.ctx := by
              rcases ctx_of_dead dead with hctx | hctx <;> rw [hctx] <;> rfl
            rw [step] at h
            simp only [hsame] at h
            obtain rfl : s = s' := by simpa using h
            exact .changeTraceIdDead dead
      | onSpan k op =>
          cases held : s.span? k with
          | none => rw [step, held] at h; exact absurd h (by simp)
          | some span =>
              rw [step, held] at h
              obtain rfl := Option.some.inj h
              exact .onSpan held
      | mergeSpan k j =>
          cases hk : s.span? k with
          | none => rw [step, hk] at h; exact absurd h (by simp)
          | some span =>
              cases hj : s.span? j with
              | none => rw [step, hk, hj] at h; exact absurd h (by simp)
              | some other =>
                  rw [step, hk, hj] at h
                  by_cases hne : k = j
                  · exact absurd h (by simp [hne])
                  · obtain rfl := Option.some.inj (by simpa [hne] using h)
                    exact .mergeSpan hk hj hne

/-! ### What a run keeps of the context -/

/-- The context of a scope: the one it holds, or the one it handed over. -/
def context? (s : Scope) : Option TracingContext :=
  match s.ctx with
  | some ⟨some wx⟩ => some wx.context
  | _ => s.reported.getLast?

lemma context?_of_live {s : Scope} {wx : WorkingContext} (live : s.Live wx) :
    s.context? = some wx.context := by
  rw [context?, show s.ctx = some ⟨some wx⟩ from live]

/-- The finished spans of the context of a scope, handed over or not. -/
def finishedSpans? (s : Scope) : Option (List TracingSpan) :=
  s.context?.map TracingContext.finishedSpans

end Scope

/-- A context with its three changing fields blanked: the span id sequence, the trace id
and the finished spans. -/
def TracingContext.origin (context : TracingContext) : TracingContext :=
  { context with nextSeq := 0, primaryTraceId := none, finishedSpans := [] }

namespace Scope

variable {b64 : Base64} {s s' : Scope} {op : Op} {es : List Op}

/-- What depends neither on the span id sequence nor on the finished spans of a context is
changed by no call, unless it is `change_trace_id`. -/
lemma Step.map_context?_eq {γ : Type*} {f : TracingContext → γ} (h : Step b64 s op s')
    (hseq : ∀ context n, f { context with nextSeq := n } = f context)
    (hfinished : ∀ context spans, f { context with finishedSpans := spans } = f context)
    (htrace : ∀ id, op = .changeTraceId id → ∀ context, f (context.changeTraceId id) = f context) :
    s'.context?.map f = s.context?.map f := by
  cases h with
  | @create _ wx span live new =>
      rw [context?_of_live live]
      exact congrArg some (hseq wx.context wx.nextId)
  | createNone dead new => rfl
  | @finish k now now' wx span live held first =>
      rw [context?_of_live live]
      exact congrArg some (hfinished wx.context _)
  | @finishFirst k now now' wx span live held first =>
      rw [context?_of_live live, context?]
      simp only [List.getLast?_concat]
      exact congrArg some (hfinished wx.context _)
  | finishDead dead held => rfl
  | finishNone => rfl
  | @changeTraceId id wx live =>
      rw [context?_of_live live]
      exact congrArg some (htrace id rfl wx.context)
  | changeTraceIdDead dead => rfl
  | onSpan held => rfl
  | mergeSpan hk hj hne => rfl

/-- A run keeps the origin of the context. -/
theorem origin_of_run (hrun : run (step b64) s es = some s') :
    s'.context?.map TracingContext.origin = s.context?.map TracingContext.origin :=
  run_invariant (P := fun t => t.context?.map TracingContext.origin
      = s.context?.map TracingContext.origin)
    (fun _ _ _ ht hs => ((step_cases hs).map_context?_eq (fun _ _ => rfl) (fun _ _ => rfl)
      (fun _ _ _ => rfl)).trans ht) rfl hrun

/-- A run without `change_trace_id` keeps the trace id of the context. -/
theorem traceId_of_run (hrun : run (step b64) s es = some s')
    (hes : ∀ id, .changeTraceId id ∉ es) :
    s'.context?.map TracingContext.traceId = s.context?.map TracingContext.traceId := by
  refine run_induction (P := fun es t => (∀ id, .changeTraceId id ∉ es) →
      t.context?.map TracingContext.traceId = s.context?.map TracingContext.traceId)
    (fun _ => rfl) (fun es t op t' _ ih hs hes' => ?_) hrun hes
  have hstep : t'.context?.map TracingContext.traceId = t.context?.map TracingContext.traceId := by
    refine (step_cases hs).map_context?_eq (fun _ _ => rfl) (fun _ _ => rfl) ?_
    rintro id rfl
    exact absurd (List.mem_append_right _ (List.mem_singleton_self _)) (hes' id)
  exact hstep.trans (ih fun id hid => hes' id (List.mem_append_left _ hid))

/-! ### What holds of every span -/

/-- A property of every span of a scope: of those held, of those finished in its context and
of those in the contexts handed over. -/
structure AllSpans (P : TracingSpan → Prop) (s : Scope) : Prop where
  held : ∀ span, some span ∈ s.held → P span
  context : ∀ wx, s.Live wx → ∀ span ∈ wx.context.finishedSpans, P span
  reported : ∀ context ∈ s.reported, ∀ span ∈ context.finishedSpans, P span

lemma mem_held_of_span? {s : Scope} {k : ℕ} {span : TracingSpan} (h : s.span? k = some span) :
    some span ∈ s.held := by
  rw [span?, Option.join_eq_some_iff] at h
  exact List.mem_of_getElem? h

section

variable {P : TracingSpan → Prop}

/-- The spans of a context that archives one more: the span may be ended once more before it
is archived. -/
lemma forall_mem_closed {wx : WorkingContext} {span : TracingSpan} (now : SystemTime)
    (hend : ∀ span now, P span → P (TracingSpan.endNow span now))
    (hcontext : ∀ span ∈ wx.context.finishedSpans, P span) (hspan : P span) :
    ∀ archived ∈ (wx.closed span now).context.finishedSpans, P archived := by
  intro archived harchived
  rcases List.mem_append.mp harchived with harchived | harchived
  · exact hcontext archived harchived
  · rw [List.mem_singleton.mp harchived]
    by_cases hended : span.isEnded
    · rwa [hended]
    · rw [Bool.not_eq_true _ |>.mp hended]
      exact hend span now hspan

lemma AllSpans.enter {config : Config} {traceDraw segmentDraw : IdDraw}
    {current : CurrentTracingContext}
    (hnew : CurrentTracingContext.new config traceDraw segmentDraw = .ok current) :
    (enter current).AllSpans P := by
  obtain ⟨context, hcontext, rfl⟩ := CurrentTracingContext.eq_of_new hnew
  refine ⟨by simp [Scope.enter], ?_, by simp [Scope.enter]⟩
  rintro wx live span hspan
  cases live
  rw [hcontext.finishedSpans] at hspan
  exact absurd hspan List.not_mem_nil

/-- What is still held after a span was moved was held before. -/
lemma AllSpans.held_set_none (h : s.AllSpans P) {k : ℕ} {span : TracingSpan}
    (hspan : some span ∈ s.held.set k none) : P span :=
  h.held span ((List.mem_or_eq_of_mem_set hspan).resolve_right (by simp))

/-- One call keeps a property that creations give and that the calls and merges of spans
keep. Only the span that the call creates needs to have it, and of the tags only the one that
the call adds needs to keep it. -/
theorem AllSpans.step (hnew : ∀ wx span, s.Live wx →
      op.newSpan wx.nextId wx.topId = some span → P span)
    (happly : ∀ span o, (∀ t, o = .tag t → ∃ k, op = .onSpan k o) → P span →
      P (SpanOp.apply span o))
    (hmerge : ∀ span other, P span → P other → P (span.mergeSpan other))
    (h : s.AllSpans P) (hstep : Step b64 s op s') : s'.AllSpans P := by
  have hend : ∀ span now, P span → P (TracingSpan.endNow span now) :=
    fun span now => happly span (.endNow now) (fun t ht => by cases ht)
  have hspan? : ∀ {k span}, s.span? k = some span → P span :=
    fun hk => h.held _ (mem_held_of_span? hk)
  cases hstep with
  | @create _ wx span live new =>
      refine ⟨fun held hheld => ?_, ?_, h.reported⟩
      · rcases List.mem_append.mp hheld with hheld | hheld
        · exact h.held held hheld
        · obtain rfl : held = span := by simpa using hheld
          exact hnew wx held live new
      · rintro wx' live'
        cases live'
        exact h.context wx live
  | createNone dead new => exact h
  | @finish k now now' wx span live held first =>
      refine ⟨fun _ => h.held_set_none, ?_, h.reported⟩
      rintro wx' live'
      cases live'
      exact forall_mem_closed now' hend (h.context wx live) (hend span now (hspan? held))
  | @finishFirst k now now' wx span live held first =>
      refine ⟨fun _ => h.held_set_none, ?_, fun context hcontext => ?_⟩
      · rintro wx' live'
        cases live'
      · rcases List.mem_append.mp hcontext with hcontext | hcontext
        · exact h.reported context hcontext
        · rw [List.mem_singleton.mp hcontext]
          exact forall_mem_closed now' hend (h.context wx live) (hend span now (hspan? held))
  | finishDead dead held => exact ⟨fun _ => h.held_set_none, h.context, h.reported⟩
  | finishNone => exact h
  | @changeTraceId id wx live =>
      refine ⟨h.held, ?_, h.reported⟩
      rintro wx' live'
      cases live'
      exact h.context wx live
  | changeTraceIdDead dead => exact h
  | @onSpan k op span held =>
      refine ⟨fun span' hspan' => ?_, h.context, h.reported⟩
      rcases List.mem_or_eq_of_mem_set hspan' with hspan' | hspan'
      · exact h.held span' hspan'
      · obtain rfl := Option.some.inj hspan'
        exact happly span op (fun _ _ => ⟨k, rfl⟩) (hspan? held)
  | @mergeSpan k j span other hk hj hne =>
      refine ⟨fun span' hspan' => ?_, h.context, h.reported⟩
      have hset := (List.mem_or_eq_of_mem_set hspan').resolve_right (by simp)
      rcases List.mem_or_eq_of_mem_set hset with hspan' | hspan'
      · exact h.held span' hspan'
      · obtain rfl := Option.some.inj hspan'
        exact hmerge span other (hspan? hk) (hspan? hj)

/-- **Every span of a run** has a property that creations give and that the calls and merges
of spans keep. -/
theorem allSpans_of_run (hnew : ∀ op spanId parentSpanId span,
      Op.newSpan spanId parentSpanId op = some span → P span)
    (happly : ∀ span op, P span → P (SpanOp.apply span op))
    (hmerge : ∀ span other, P span → P other → P (span.mergeSpan other))
    (h : s.AllSpans P) (hrun : run (Scope.step b64) s es = some s') : s'.AllSpans P :=
  run_invariant (P := AllSpans P)
    (fun _ op _ ht hs => ht.step (fun _ span _ => hnew op _ _ span)
      (fun span o _ => happly span o) hmerge (step_cases hs)) h hrun

end

end Scope

end Skywalking
