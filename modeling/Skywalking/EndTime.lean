import Skywalking.Scope.Invariant

/-!
The end time of a span between the program, which may seal it with `end` or
`end_with_timestamp`, and the finished spans of the context.

`TracingContext::finish_span` ends a span only if that was not done before.
`ContextManager::finish_span` calls `end` without looking, before it calls the former.

* `TracingSpan.Shows`: what a clock reading makes `end` store.
* `Scope.spanFinishes`: the finishes of a run in a scope that holds its context.
* `seals_kept_iff`: **when a sealed end time is kept** by the finishes of a run.
-/

namespace Skywalking

open RustStd Machine

/-- At the clock reading `now` the end time shown is `millis`: this is the number of
milliseconds since the epoch, or the start time of the span where the clock reads before
the epoch. -/
def TracingSpan.Shows (span : TracingSpan) (now : SystemTime) (millis : UInt64) : Prop :=
  (∃ n, now.millisSinceEpoch = some n ∧ UInt64.ofNat n = millis)
    ∨ now.millisSinceEpoch = none ∧ span.startTime = millis

namespace TracingSpan

lemma stamp_eq_iff {span : TracingSpan} {now : SystemTime} {millis : UInt64} :
    span.stamp now = millis ↔ span.Shows now millis := by
  rw [stamp, Shows]
  cases now.millisSinceEpoch with
  | none => simp
  | some n => simp

instance (span : TracingSpan) (now : SystemTime) (millis : UInt64) :
    Decidable (span.Shows now millis) :=
  decidable_of_iff _ stamp_eq_iff

lemma isEnded_iff {span : TracingSpan} : span.isEnded = true ↔ span.endTime ≠ 0 := by
  rw [isEnded, bne_iff_ne]

/-- The second clock reading counts only where the first one gave the end time 0, which
means that the span was not ended. -/
lemma endTime_archived (span : TracingSpan) (now now' : SystemTime) :
    (span.archived now now').endTime
      = if span.stamp now = 0 then span.stamp now' else span.stamp now := by
  rw [archived]
  by_cases hzero : span.stamp now = 0
  · rw [if_pos hzero, if_pos (by simp [isEnded, endNow, hzero])]
    rfl
  · rw [if_neg hzero, if_neg (by simp [isEnded, endNow, hzero])]
    rfl

/-- `TracingContext::finish_span` leaves a span that was ended as it is. -/
lemma finishedSpans_finishSpan_of_isEnded {span : TracingSpan} (hended : span.isEnded = true)
    (context : TracingContext) (now : SystemTime) :
    (context.finishSpan span now).finishedSpans = context.finishedSpans ++ [span] := by
  rw [TracingContext.finishSpan, hended]
  rfl

end TracingSpan

/-! ### The finishes of a run -/

/-- A finish of a span: the span as the program held it, and the two clock readings. -/
structure SpanFinish where
  span : TracingSpan
  now : SystemTime
  now' : SystemTime

namespace SpanFinish

/-- The span as `ContextManager::finish_span` archives it. -/
def archived (f : SpanFinish) : TracingSpan := f.span.archived f.now f.now'

/-- The end time that the program had sealed is the one archived. -/
def KeepsSeal (f : SpanFinish) : Prop := f.span.isEnded → f.archived.endTime = f.span.endTime

/-- The clock still shows what the program had sealed: at the first reading, or at the second
one where the first shows 0. -/
def ShowsSeal (f : SpanFinish) : Prop :=
  f.span.isEnded → f.span.Shows f.now f.span.endTime
    ∨ f.span.Shows f.now 0 ∧ f.span.Shows f.now' f.span.endTime

instance : DecidablePred ShowsSeal := fun f =>
  inferInstanceAs (Decidable (f.span.isEnded → _ ∨ _))

/-- A sealed end time is kept exactly if the clock still shows it. -/
lemma keepsSeal_iff (f : SpanFinish) : f.KeepsSeal ↔ f.ShowsSeal := by
  refine imp_congr_right fun hended => ?_
  rw [archived, TracingSpan.endTime_archived, ← TracingSpan.stamp_eq_iff,
    ← TracingSpan.stamp_eq_iff, ← TracingSpan.stamp_eq_iff]
  have hne := TracingSpan.isEnded_iff.mp hended
  by_cases hzero : f.span.stamp f.now = 0
  · rw [if_pos hzero]
    constructor
    · exact fun h => Or.inr ⟨hzero, h⟩
    · rintro (h | ⟨-, h⟩)
      · exact absurd (h.symm.trans hzero) hne
      · exact h
  · rw [if_neg hzero]
    exact ⟨Or.inl, fun h => h.resolve_right fun ⟨h0, _⟩ => hzero h0⟩

/-- The end time archived is what the clock shows, whether the span was ended or not. -/
lemma shows_archived (f : SpanFinish) : f.span.Shows f.now f.archived.endTime
    ∨ f.span.Shows f.now 0 ∧ f.span.Shows f.now' f.archived.endTime := by
  rw [archived, TracingSpan.endTime_archived, ← TracingSpan.stamp_eq_iff,
    ← TracingSpan.stamp_eq_iff, ← TracingSpan.stamp_eq_iff]
  by_cases hzero : f.span.stamp f.now = 0
  · exact Or.inr ⟨hzero, (if_pos hzero).symm⟩
  · exact Or.inl (if_neg hzero).symm

end SpanFinish

namespace Scope

variable {b64 : Base64} {s s' : Scope} {op : Op} {es : List Op}

/-- The finish a call makes in a scope that holds its context. -/
def spanFinish? (s : Scope) : Op → Option SpanFinish
  | .finishSpan k now now' =>
      match s.ctx with
      | some ⟨some _⟩ => (s.span? k).map fun span => ⟨span, now, now'⟩
      | _ => none
  | _ => none

/-- The finishes of a run from `s` in the context of the scope, in order. -/
def spanFinishes (b64 : Base64) (s : Scope) : List Op → List SpanFinish
  | [] => []
  | op :: es =>
      (s.spanFinish? op).toList ++
        match s.step b64 op with
        | some s' => spanFinishes b64 s' es
        | none => []

lemma spanFinish?_of_finishes_eq_none (h : op.finishes = none) : s.spanFinish? op = none := by
  cases op with
  | finishSpan k now now' => cases h
  | _ => rfl

lemma finishedSpans?_of_live {wx : WorkingContext} (live : s.Live wx) :
    s.finishedSpans? = some wx.context.finishedSpans := by
  rw [finishedSpans?, context?_of_live live, Option.map_some]

/-- One call archives its finish behind the spans finished before. -/
lemma Step.finishedSpans?_eq (h : Step b64 s op s') :
    s'.finishedSpans?
      = s.finishedSpans?.map (· ++ (s.spanFinish? op).toList.map SpanFinish.archived) := by
  have hkeep : ∀ {t : Scope}, t.finishedSpans? = s.finishedSpans? → s.spanFinish? op = none →
      t.finishedSpans?
        = s.finishedSpans?.map (· ++ (s.spanFinish? op).toList.map SpanFinish.archived) := by
    intro t ht hnone
    rw [ht, hnone]
    simp
  cases h with
  | @create _ wx span live new =>
      refine hkeep ?_
        (spanFinish?_of_finishes_eq_none (Op.finishes_of_creates (Op.creates_of_newSpan new)))
      rw [finishedSpans?_of_live live]
      rfl
  | createNone dead new =>
      exact hkeep rfl (spanFinish?_of_finishes_eq_none (Op.finishes_of_creates new))
  | @finish k now now' wx span live held first =>
      rw [finishedSpans?_of_live live, spanFinish?, show s.ctx = some ⟨some wx⟩ from live, held]
      rfl
  | @finishFirst k now now' wx span live held first =>
      rw [finishedSpans?_of_live live, spanFinish?, show s.ctx = some ⟨some wx⟩ from live, held,
        finishedSpans?, context?]
      simp only [List.getLast?_concat]
      rfl
  | @finishDead k now now' span dead held =>
      refine hkeep rfl ?_
      rcases ctx_of_dead dead with hctx | hctx <;> rw [spanFinish?, hctx]
  | finishNone => exact hkeep rfl rfl
  | @changeTraceId id wx live =>
      refine hkeep ?_ rfl
      rw [finishedSpans?_of_live live]
      rfl
  | changeTraceIdDead dead => exact hkeep rfl rfl
  | onSpan held => exact hkeep rfl rfl
  | mergeSpan hk hj hne => exact hkeep rfl rfl

/-- The finishes of a run are archived behind the spans finished before it. -/
theorem finishedSpans?_of_run (hrun : run (step b64) s es = some s') :
    s'.finishedSpans?
      = s.finishedSpans?.map (· ++ (spanFinishes b64 s es).map SpanFinish.archived) := by
  induction es generalizing s with
  | nil =>
      obtain rfl : s = s' := by simpa using hrun
      simp [spanFinishes]
  | cons op es ih =>
      obtain ⟨s₁, hs, hes⟩ := run_cons_eq_some.mp hrun
      rw [ih hes, (step_cases hs).finishedSpans?_eq, Option.map_map, spanFinishes, hs]
      simp only [Function.comp_def, List.map_append, List.append_assoc]

end Scope

section Run

variable {b64 : Base64} {config : Config} {traceDraw segmentDraw : IdDraw}
  {current : CurrentTracingContext} {s : Scope} {es : List Op}

open Scope

/-- **When a sealed end time is kept**: the finished spans of a context are those of the
finishes of the run. Of a span that was ended, the end time is kept exactly if the clock
still shows it when the span is finished; so all of them are kept exactly if the clock shows
them all. A span that was not ended gets the end time that the clock shows.
`TracingContext::finish_span` keeps every span that was ended. -/
theorem seals_kept_iff
    (hnew : CurrentTracingContext.new config traceDraw segmentDraw = .ok current)
    (hrun : run (step b64) (enter current) es = some s) :
    s.finishedSpans? = some ((spanFinishes b64 (enter current) es).map SpanFinish.archived)
      ∧ (∀ f ∈ spanFinishes b64 (enter current) es, f.KeepsSeal ↔ f.ShowsSeal)
      ∧ ((∀ f ∈ spanFinishes b64 (enter current) es, f.KeepsSeal)
          ↔ ∀ f ∈ spanFinishes b64 (enter current) es, f.ShowsSeal)
      ∧ (∀ f ∈ spanFinishes b64 (enter current) es, ¬ f.span.isEnded →
          f.span.Shows f.now f.archived.endTime
            ∨ f.span.Shows f.now 0 ∧ f.span.Shows f.now' f.archived.endTime)
      ∧ ∀ (context : TracingContext) (span : TracingSpan) (now : SystemTime), span.isEnded →
          (context.finishSpan span now).finishedSpans = context.finishedSpans ++ [span] := by
  obtain ⟨context, hcontext, rfl⟩ := CurrentTracingContext.eq_of_new hnew
  refine ⟨?_, fun f _ => f.keepsSeal_iff, forall₂_congr fun f _ => f.keepsSeal_iff,
    fun f _ _ => f.shows_archived, fun context span now hended =>
      TracingSpan.finishedSpans_finishSpan_of_isEnded hended context now⟩
  rw [finishedSpans?_of_run hrun, finishedSpans?_of_live (live_enter _)]
  simp [hcontext.finishedSpans]

end Run

open Scope

/-- A span sealed at second 2 and finished in the same millisecond, in another span that is not
sealed. -/
def promptCalls : List Op :=
  [.tracingEntry "/orders" .http ⟨10 ^ 9⟩, .tracingLocal "load" .rpc ⟨10 ^ 9⟩,
    .onSpan 1 (.endWithTimestamp ⟨2 * 10 ^ 9⟩),
    .finishSpan 1 ⟨2 * 10 ^ 9 + 300000⟩ ⟨2 * 10 ^ 9 + 300000⟩,
    .finishSpan 0 ⟨3 * 10 ^ 9⟩ ⟨3 * 10 ^ 9⟩]

theorem seals_kept_demo : ∃ s, run (step .standard) (enter .demo) promptCalls = some s
    ∧ (spanFinishes .standard (enter .demo) promptCalls).map
        (fun f => (f.span.isEnded, f.span.endTime)) = [(true, 2000), (false, 0)]
    ∧ (∀ f ∈ spanFinishes .standard (enter .demo) promptCalls, f.KeepsSeal)
    ∧ s.finishedSpans?.map (·.map (·.endTime)) = some [2000, 3000] := by
  obtain ⟨s, hrun, hends⟩ : ∃ s, run (step .standard) (enter .demo) promptCalls = some s
    ∧ s.finishedSpans?.map (·.map (·.endTime)) = some [2000, 3000] := ⟨_, rfl, by decide⟩
  have hshows : ∀ f ∈ spanFinishes .standard (enter .demo) promptCalls, f.ShowsSeal := by decide
  exact ⟨s, hrun, by decide,
    (seals_kept_iff CurrentTracingContext.new_demo hrun).2.2.1.mpr hshows, hends⟩

/-- A span sealed at second 2 and finished at second 3. -/
def sealedCalls : List Op :=
  [.tracingLocal "load" .rpc ⟨10 ^ 9⟩, .onSpan 0 (.endWithTimestamp ⟨2 * 10 ^ 9⟩),
    .finishSpan 0 ⟨3 * 10 ^ 9⟩ ⟨3 * 10 ^ 9⟩]

/-- The end time sealed is overwritten with the time of the finish. The context alone would
have kept it. -/
theorem seal_overwritten : ∃ s f, run (step .standard) (enter .demo) sealedCalls = some s
    ∧ spanFinishes .standard (enter .demo) sealedCalls = [f]
    ∧ f.span.isEnded = true ∧ f.span.endTime = 2000
    ∧ s.finishedSpans?.map (·.map (·.endTime)) = some [3000] ∧ ¬ f.KeepsSeal
    ∧ (TracingContext.demo.finishSpan f.span f.now).finishedSpans.map (·.endTime) = [2000] := by
  refine ⟨_, _, rfl, rfl, by decide, by decide, by decide, ?_, by decide⟩
  intro hkeeps
  exact absurd (hkeeps (by decide)) (by decide)

end Skywalking
