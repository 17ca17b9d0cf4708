import Skywalking.Scope.Simulation

/-!
What holds of a scope after any run, whatever the order in which spans are finished.

* `SpanTree`: the ids of the spans returned are `0`, `1`, `2`, … and the parents of all
  but the first are smaller ids.
* `archive`: the finishes of a run, each with the span as the context archives it.
* `Inert`: every creation returns nothing, and no call changes the context any more.
* `any_order_run`: **the invariant of a scope**. The context is handed over at most once,
  by the finish of the first span, with the spans finished up to then in the order of
  their finishes, and the scope is inert afterwards.
-/

namespace Skywalking

open RustStd Machine

/-- The spans of a scope, in the order in which they were returned: they are numbered
without gaps, and each but the first has an earlier one as its parent. -/
structure SpanTree (spans : List TracingSpan) : Prop where
  spanId : ∀ (k : ℕ) (span : TracingSpan), spans[k]? = some span → span.spanId.toInt = k
  root : ∀ (k : ℕ) (span : TracingSpan), spans[k]? = some span →
    (span.parentSpanId = -1 ↔ k = 0)
  parent : ∀ (k : ℕ) (span : TracingSpan), spans[k]? = some span → k ≠ 0 →
    ∃ p < k, span.parentSpanId.toInt = p

/-- A span as `finish_span` archives it, at the clock readings `now` and `now'`. -/
def TracingSpan.archived (span : TracingSpan) (now now' : SystemTime) : TracingSpan :=
  let span := span.endNow now
  if !span.isEnded then span.endNow now' else span

lemma TracingSpan.identity_archived (span : TracingSpan) (now now' : SystemTime) :
    (span.archived now now').identity = span.identity := by
  rw [archived]
  split_ifs <;> rfl

lemma WorkingContext.finishedSpans_closed (wx : WorkingContext) (span : TracingSpan)
    (now now' : SystemTime) :
    (wx.closed (span.endNow now) now').context.finishedSpans
      = wx.context.finishedSpans ++ [span.archived now now'] := rfl

namespace Scope

variable {b64 : Base64} {s s' : Scope} {op : Op} {es : List Op}

/-! ### The finishes of a run -/

/-- The finish a call makes: the handle, and the span as it is archived. -/
def archives (s : Scope) : Op → Option (ℕ × TracingSpan)
  | .finishSpan k now now' => (s.span? k).map fun span => (k, span.archived now now')
  | _ => none

/-- The finishes of a run from `s`, in order. -/
def archive (b64 : Base64) (s : Scope) : List Op → List (ℕ × TracingSpan)
  | [] => []
  | op :: es =>
      (s.archives op).toList ++
        match s.step b64 op with
        | some s' => archive b64 s' es
        | none => []

lemma archive_concat (hrun : run (step b64) s es = some s') (op : Op) :
    archive b64 s (es ++ [op]) = archive b64 s es ++ (s'.archives op).toList := by
  induction es generalizing s with
  | nil =>
      obtain rfl : s = s' := by simpa using hrun
      rw [List.nil_append, archive, archive, List.nil_append]
      cases s.step b64 op <;> simp [archive]
  | cons e es ih =>
      obtain ⟨s₁, hs₁, hes⟩ := run_cons_eq_some.mp hrun
      rw [List.cons_append, archive, archive, hs₁]
      simp only [ih hes, List.append_assoc]

lemma live_enter (wx : WorkingContext) : (enter ⟨some wx⟩).Live wx := rfl

lemma archives_eq_none (h : op.finishes = none) : s.archives op = none := by
  cases op with
  | finishSpan k now now' => cases h
  | _ => rfl

/-- A call that leaves a scope with a context has archived its finish there. -/
lemma Step.finishedSpans_eq (h : Step b64 s op s') {wx' : WorkingContext}
    (live' : s'.Live wx') :
    ∃ wx, s.Live wx ∧ wx'.context.finishedSpans
      = wx.context.finishedSpans ++ (s.archives op).toList.map Prod.snd := by
  cases h with
  | @create _ wx span live new =>
      cases live'
      refine ⟨wx, live, ?_⟩
      rw [archives_eq_none (Op.finishes_of_creates (Op.creates_of_newSpan new))]
      exact (List.append_nil _).symm
  | createNone dead new => exact absurd live' (dead _)
  | @finish k now now' wx span live held first =>
      cases live'
      refine ⟨wx, live, ?_⟩
      rw [WorkingContext.finishedSpans_closed, archives, held]
      rfl
  | finishFirst live held first => cases live'
  | finishDead dead held => exact absurd live' (dead _)
  | finishNone => exact ⟨wx', live', (List.append_nil _).symm⟩
  | @changeTraceId id wx live =>
      cases live'
      exact ⟨wx, live, (List.append_nil _).symm⟩
  | changeTraceIdDead dead => exact absurd live' (dead _)
  | onSpan held => exact ⟨wx', live', (List.append_nil _).symm⟩
  | mergeSpan hk hj hne => exact ⟨wx', live', (List.append_nil _).symm⟩

/-- While a scope holds its context, the context has archived the finishes of the run. -/
theorem finishedSpans_of_run {wx₀ wx : WorkingContext} (live₀ : s.Live wx₀)
    (hempty : wx₀.context.finishedSpans = []) (hrun : run (step b64) s es = some s')
    (live : s'.Live wx) : wx.context.finishedSpans = (archive b64 s es).map Prod.snd := by
  refine run_induction (P := fun es t => ∀ wx, t.Live wx →
    wx.context.finishedSpans = (archive b64 s es).map Prod.snd) ?_ ?_ hrun wx live
  · intro wx live
    rw [Live] at live₀ live
    rw [live₀] at live
    cases live
    exact hempty
  · intro es t op t' ht ih hs wx' live'
    obtain ⟨wx, live, heq⟩ := (step_cases hs).finishedSpans_eq live'
    rw [heq, ih wx live, archive_concat ht, List.map_append]

/-- `context_exists` says yes throughout a scope, also after the context was handed over. -/
lemma contextExists_of_run (h : ContextManager.contextExists s.ctx = true)
    (hrun : run (step b64) s es = some s') : ContextManager.contextExists s'.ctx = true := by
  refine run_invariant (P := fun t => ContextManager.contextExists t.ctx = true)
    (fun t op t' ht hs => ?_) h hrun
  cases step_cases hs with
  | create live new => rfl
  | finish live held first => rfl
  | finishFirst live held first => rfl
  | changeTraceId live => rfl
  | _ => exact ht

/-- No call takes back a span. -/
lemma Step.issued_grows (h : Step b64 s op s') : s.issued <+: s'.issued := by
  cases h with
  | create live new => exact List.prefix_append _ _
  | _ => exact List.prefix_rfl

lemma issued_grows_of_run (hrun : run (step b64) s es = some s') : s.issued <+: s'.issued :=
  run_invariant (P := fun t => s.issued <+: t.issued)
    (fun _ _ _ ht hs => ht.trans (step_cases hs).issued_grows) List.prefix_rfl hrun

/-- A call returns at most one span. -/
lemma issued_length_le (hrun : run (step b64) s es = some s') :
    s'.issued.length ≤ s.issued.length + es.length := by
  refine run_induction (P := fun es t => t.issued.length ≤ s.issued.length + es.length)
    (Nat.le_add_right _ _) (fun es t op t' _ ih hs => ?_) hrun
  have hone : t'.issued.length ≤ t.issued.length + 1 := by
    cases step_cases hs with
    | create live new => simp [receive]
    | _ => exact Nat.le_succ _
  rw [List.length_append, List.length_singleton]
  omega

/-! ### A scope without a context -/

/-- Every creation is possible and returns nothing, a finish only takes the span from its
holder, and no call returns a span, changes the context or hands it over. -/
structure Inert (b64 : Base64) (s : Scope) : Prop where
  creation : ∀ op : Op, (op.newSpan 0 0).isSome → s.step b64 op = some s
  finish : ∀ k span now now', s.span? k = some span →
    s.step b64 (.finishSpan k now now') = some { s with held := s.held.set k none }
  unchanged : ∀ op s', s.step b64 op = some s' →
    s'.ctx = s.ctx ∧ s'.issued = s.issued ∧ s'.injected = s.injected ∧ s'.reported = s.reported

/-- A call changes nothing in a scope without a context but the spans held. -/
lemma Step.of_dead (h : Step b64 s op s') (dead : ∀ wx, ¬ s.Live wx) :
    ∃ held, s' = { s with held := held } := by
  cases h with
  | create live new => exact absurd live (dead _)
  | finish live held first => exact absurd live (dead _)
  | finishFirst live held first => exact absurd live (dead _)
  | changeTraceId live => exact absurd live (dead _)
  | _ => exact ⟨_, rfl⟩

lemma inert_of_dead (dead : ∀ wx, ¬ s.Live wx) : s.Inert b64 where
  creation _ new := step_eq_createNone dead new
  finish _ _ _ _ held := step_finishSpan_dead dead held
  unchanged op s' hs := by
    obtain ⟨held, rfl⟩ := (step_cases hs).of_dead dead
    exact ⟨rfl, rfl, rfl, rfl⟩

/-- A run from a scope without a context returns nothing and hands nothing over. -/
theorem run_of_dead (dead : ∀ wx, ¬ s.Live wx) (hrun : run (step b64) s es = some s') :
    s'.ctx = s.ctx ∧ s'.issued = s.issued ∧ s'.injected = s.injected
      ∧ s'.reported = s.reported := by
  refine run_invariant (P := fun t => t.ctx = s.ctx ∧ t.issued = s.issued
    ∧ t.injected = s.injected ∧ t.reported = s.reported) ?_ ⟨rfl, rfl, rfl, rfl⟩ hrun
  rintro t op t' ⟨hctx, hissued, hinjected, hreported⟩ hs
  have deadT : ∀ wx, ¬ t.Live wx := by
    intro wx live
    exact dead wx (by rw [Live, ← hctx]; exact live)
  obtain ⟨hctx', hissued', hinjected', hreported'⟩ := (inert_of_dead deadT).unchanged op t' hs
  exact ⟨hctx'.trans hctx, hissued'.trans hissued, hinjected'.trans hinjected,
    hreported'.trans hreported⟩

/-- A scope that has a context after a run had one before it. -/
lemma live_of_run_live {wx' : WorkingContext} (hrun : run (step b64) s es = some s')
    (live' : s'.Live wx') : ∃ wx, s.Live wx := by
  rcases s.live_or_dead with live | dead
  · exact live
  · have hctx := (run_of_dead dead hrun).1
    exact absurd (hctx.symm.trans live') (dead wx')

/-- A span that a call returned stays under its handle. -/
lemma getElem?_issued_of_run {s₀ : Scope} {span : TracingSpan}
    (hissued : s.issued = s₀.issued ++ [span]) (hrun : run (step b64) s es = some s') :
    s'.issued[s₀.issued.length]? = some span := by
  obtain ⟨rest, hrest⟩ := issued_grows_of_run hrun
  rw [← hrest, hissued, List.append_assoc, List.getElem?_append_right le_rfl, Nat.sub_self]
  rfl

end Scope

/-! ### The invariant of a scope -/

section Run

variable {b64 : Base64} {config : Config} {traceDraw segmentDraw : IdDraw}
  {current : CurrentTracingContext} {s : Scope} {l : Ledger} {es : List Op}

/-- The ledger of a scope that returned at most `2^31` spans has the first item as its
only root. -/
lemma Sim.rooted (h : Sim s l) {events : List LedgerEvent}
    (hevents : run (Ledger.step IsFirst) Ledger.empty events = some l)
    (hmax : s.issued.length ≤ 2 ^ 31) : l.Rooted :=
  Ledger.rooted_of_run hevents fun k hk =>
    isFirst_iff (lt_of_lt_of_le (by rw [h.issued_length]; exact hk) hmax)

/-- The spans returned by a run are numbered and linked as their items are. -/
lemma Sim.spanTree (h : Sim s l) (hr : l.Rooted) (hmax : s.issued.length ≤ 2 ^ 31) :
    SpanTree s.issued := by
  have hlt : ∀ (k : ℕ) (span : TracingSpan), s.issued[k]? = some span → k < l.created := by
    intro k span hk
    rw [← h.issued_length]
    exact (List.getElem?_eq_some_iff.mp hk).1
  rw [h.issued_length] at hmax
  have hparent : ∀ (k : ℕ) (span : TracingSpan), s.issued[k]? = some span →
      l.parents[k]?.map parentIdOf = some span.parentSpanId := by
    intro k span hk
    rw [← List.getElem?_map, ← h.issued_parent, List.getElem?_map, hk, Option.map_some]
  have hpos : ∀ (k : ℕ) (span : TracingSpan), s.issued[k]? = some span → k ≠ 0 →
      ∃ p < k, span.parentSpanId = idOf p := by
    intro k span hk hk0
    obtain ⟨p, hp, hpar⟩ := hr.parent_pos k (Nat.pos_of_ne_zero hk0) (hlt k span hk)
    have heq := hparent k span hk
    rw [hpar] at heq
    exact ⟨p, hp, (Option.some.inj heq).symm⟩
  refine ⟨?_, ?_, ?_⟩
  · intro k span hk
    rw [h.issued_spanId hk, toInt_idOf (lt_of_lt_of_le (hlt k span hk) hmax)]
  · intro k span hk
    constructor
    · intro hroot
      by_contra hk0
      obtain ⟨p, hp, hpar⟩ := hpos k span hk hk0
      rw [hroot] at hpar
      exact idOf_ne_neg_one (by have := hlt k span hk; omega) hpar.symm
    · rintro rfl
      have heq := hparent 0 span hk
      rw [hr.parent_zero (hlt 0 span hk)] at heq
      exact (Option.some.inj heq).symm
  · intro k span hk hk0
    obtain ⟨p, hp, hpar⟩ := hpos k span hk hk0
    refine ⟨p, hp, ?_⟩
    rw [hpar, toInt_idOf (by have := hlt k span hk; omega)]

/-- A finish is an event of the ledger exactly if it is a call. -/
lemma finish_mem_events_iff {k : ℕ} :
    LedgerEvent.finish k ∈ es.flatMap Op.events ↔ k ∈ es.filterMap Op.finishes := by
  rw [List.mem_flatMap, List.mem_filterMap]
  refine exists_congr fun op => and_congr_right fun _ => ?_
  cases op <;> simp [Op.events, Op.finishes, eq_comm]

lemma finishes_events (es : List Op) :
    Ledger.finishes (es.flatMap Op.events) = es.filterMap Op.finishes := by
  induction es with
  | nil => rfl
  | cons op es ih =>
      rw [List.flatMap_cons, Ledger.finishes_append, ih]
      cases op <;> rfl

/-- Without a finish of the first span the context is still in the scope. -/
lemma live_of_run (hnew : CurrentTracingContext.new config traceDraw segmentDraw = .ok current)
    (hrun : run (Scope.step b64) (Scope.enter current) es = some s)
    (hmax : s.issued.length ≤ 2 ^ 31) (hes : 0 ∉ es.filterMap Op.finishes) :
    ∃ wx, s.Live wx ∧ s.reported = [] := by
  obtain ⟨l, hevents, hsim, -⟩ := sim_of_run hnew hrun
  cases hsim.context with
  | live ctx isLive stack seq archived reported => exact ⟨_, ctx, reported⟩
  | closed ctx isLive reported archived =>
      -- a closed ledger was closed by the finish of its first item
      have hlast := (hsim.rooted hevents hmax).last_of_closed isLive
      have hmem := Ledger.mem_of_finished hevents 0 (List.mem_of_getLast? hlast)
      exact absurd (finish_mem_events_iff.mp hmem) hes

/-- The finish of the first span finds the context in the scope and hands it over. -/
lemma finishFirst_of_run
    (hnew : CurrentTracingContext.new config traceDraw segmentDraw = .ok current)
    (hrun : run (Scope.step b64) (Scope.enter current) es = some s)
    (hmax : s.issued.length ≤ 2 ^ 31) {now now' : SystemTime} {s' : Scope}
    (hs : s.step b64 (.finishSpan 0 now now') = some s') :
    ∃ wx span, s.Live wx ∧ s.span? 0 = some span ∧ s' =
      { s with
        ctx := some ⟨none⟩
        held := s.held.set 0 none
        reported := s.reported ++ [(wx.closed (span.endNow now) now').context] } := by
  obtain ⟨l, hevents, hsim, -⟩ := sim_of_run hnew hrun
  cases Scope.step_cases hs with
  | finish live held first => exact absurd (hsim.held_spanId held) first
  | finishFirst live held first => exact ⟨_, _, live, held, rfl⟩
  | finishDead dead held =>
      have hlast := (hsim.rooted hevents hmax).last_of_closed (hsim.context.of_dead dead)
      exact absurd (List.mem_of_getLast? hlast) (hsim.held_open 0 _ held)
  | create live new => exact absurd new (by simp [Op.newSpan])
  | createNone dead new => exact absurd new (by simp [Op.newSpan])

/-- What a run hands over that finishes the first span after the calls `es`. -/
theorem report_of_run
    (hnew : CurrentTracingContext.new config traceDraw segmentDraw = .ok current)
    {now now' : SystemTime} {es' : List Op}
    (hrun : run (Scope.step b64) (Scope.enter current) (es ++ .finishSpan 0 now now' :: es')
      = some s)
    (hmax : s.issued.length ≤ 2 ^ 31) :
    s.Inert b64 ∧ (es.filterMap Op.finishes ++ [0]).Nodup
      ∧ ∃ context, s.reported = [context]
        ∧ context.finishedSpans = (Scope.archive b64 (Scope.enter current)
            (es ++ [.finishSpan 0 now now'])).map Prod.snd
        ∧ Archived s.issued context.finishedSpans (es.filterMap Op.finishes ++ [0]) := by
  obtain ⟨s₁, hrun₁, hrest⟩ := run_append_eq_some.mp hrun
  obtain ⟨s₂, hs₂, hrun₂⟩ := run_cons_eq_some.mp hrest
  have hmax₁ : s₁.issued.length ≤ 2 ^ 31 :=
    (Scope.issued_grows_of_run hrest).length_le.trans hmax
  obtain ⟨wx, span, live, held, rfl⟩ := finishFirst_of_run hnew hrun₁ hmax₁ hs₂
  obtain ⟨l, hevents, hsim, hw⟩ := sim_of_run hnew hrun₁
  obtain ⟨hlive, -, -, -, hreported⟩ := hsim.context.of_live live
  -- nothing happens after the finish
  obtain ⟨hctx, hissued, -, hfinal⟩ := Scope.run_of_dead (Scope.dead_of_ctx rfl) hrun₂
  have dead : ∀ wx, ¬ s.Live wx := Scope.dead_of_ctx hctx
  -- the ledger before it has finished what the calls have finished
  obtain ⟨-, hfinished, -⟩ := Ledger.live_of_run hevents hlive
  rw [finishes_events] at hfinished
  obtain ⟨-, harchived⟩ := hsim.finish live held now now'
  refine ⟨Scope.inert_of_dead dead, ?_, _, by rw [hfinal, hreported]; rfl, ?_, ?_⟩
  · have hnodup := (hw.finish hlive (hsim.lt_created held) (hsim.held_open 0 _ held)
      true).finished_nodup
    rwa [Ledger.finish, hfinished] at hnodup
  · obtain ⟨context, hcontext, rfl⟩ := CurrentTracingContext.eq_of_new hnew
    rw [WorkingContext.finishedSpans_closed, Scope.archive_concat hrun₁, List.map_append,
      Scope.finishedSpans_of_run (Scope.live_enter _) hcontext.finishedSpans hrun₁ live,
      Scope.archives, held]
    rfl
  · rw [hissued]
    rwa [Ledger.finish, hfinished] at harchived

/-- **The invariant of a scope**: whatever calls a program makes in it, in any order, the
spans it gets form a tree, numbered as they are created. The context is handed over when
the first span is finished and not before, with the spans finished up to then as they
were finished; afterwards the scope is inert, which `context_exists` does not tell. -/
theorem any_order_run
    (hnew : CurrentTracingContext.new config traceDraw segmentDraw = .ok current)
    (hrun : run (Scope.step b64) (Scope.enter current) es = some s)
    (hmax : s.issued.length ≤ 2 ^ 31) :
    SpanTree s.issued
      ∧ ContextManager.contextExists s.ctx = true
      ∧ (0 ∉ es.filterMap Op.finishes → s.reported = [])
      ∧ ∀ es₁ now now' es₂, es = es₁ ++ .finishSpan 0 now now' :: es₂ →
          s.Inert b64 ∧ (es₁.filterMap Op.finishes ++ [0]).Nodup
            ∧ ∃ context, s.reported = [context]
              ∧ context.finishedSpans = (Scope.archive b64 (Scope.enter current)
                  (es₁ ++ [.finishSpan 0 now now'])).map Prod.snd
              ∧ Archived s.issued context.finishedSpans (es₁.filterMap Op.finishes ++ [0]) := by
  obtain ⟨l, hevents, hsim, -⟩ := sim_of_run hnew hrun
  refine ⟨hsim.spanTree (hsim.rooted hevents hmax) hmax, Scope.contextExists_of_run rfl hrun,
    ?_, ?_⟩
  · intro hes
    obtain ⟨-, -, hreported⟩ := live_of_run hnew hrun hmax hes
    exact hreported
  · rintro es₁ now now' es₂ rfl
    exact report_of_run hnew hrun hmax

/-- The calls of a scope in which the first span is finished before its last child. -/
def demoCalls : List Op :=
  [.tracingEntry "/orders" .http ⟨0⟩, .tracingLocal "price" .cache ⟨0⟩,
    .tracingExit "store" "10.0.0.2:80" .rpc false ⟨0⟩, .finishSpan 1 ⟨0⟩ ⟨0⟩]
  ++ .finishSpan 0 ⟨0⟩ ⟨0⟩ :: [.finishSpan 2 ⟨0⟩ ⟨0⟩]

theorem any_order_run_demo :
    ∃ s, run (Scope.step Base64.standard) (Scope.enter .demo) demoCalls = some s
      ∧ SpanTree s.issued ∧ s.Inert Base64.standard ∧ ∃ context, s.reported = [context]
        ∧ Archived s.issued context.finishedSpans [1, 0] := by
  obtain ⟨s, hrun⟩ : ∃ s, run (Scope.step Base64.standard) (Scope.enter .demo) demoCalls
    = some s := ⟨_, rfl⟩
  have hmax : s.issued.length ≤ 2 ^ 31 :=
    (Scope.issued_length_le hrun).trans (by decide)
  obtain ⟨htree, -, -, hreport⟩ := any_order_run CurrentTracingContext.new_demo hrun hmax
  obtain ⟨hinert, -, context, hcontext, -, harchived⟩ := hreport _ _ _ _ rfl
  exact ⟨s, hrun, htree, hinert, context, hcontext, harchived⟩

end Run

end Skywalking
