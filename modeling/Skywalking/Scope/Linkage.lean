import Skywalking.Agent.Reporter
import Skywalking.Header
import Skywalking.Scope.Invariant

/-!
The header of an exit span and the segment that is reported for its scope: the header
names the segment, and the exit span in it.

* `Archived.exists_spanObject`: a finished span has exactly one object in the segment.
* `header_of_inject`: what an exit span with an injector leaves behind.
* `header_linkage`: **the linkage**. What a reader decodes from the header is the trace
  and segment id of the reported segment, and the id of exactly one of its spans, which
  is the exit span.
-/

namespace Skywalking

open RustStd Machine

/-! ### One object for each finished span -/

/-- In a list whose elements belong to distinct keys, a test that tells the elements of
one of the keys from all others selects exactly one element. -/
lemma exists_filter_eq_singleton {α κ : Type*} [DecidableEq κ] {R : α → κ → Prop}
    {p : α → Bool} {k : κ} {as : List α} {ks : List κ} (h : List.Forall₂ R as ks)
    (hnodup : ks.Nodup) (hk : k ∈ ks) (hp : ∀ a j, R a j → (p a = true ↔ j = k)) :
    ∃ a, as.filter p = [a] ∧ R a k := by
  have hkeys : ks.filter (· = k) = [k] := by
    rw [List.filter_eq, List.count_eq_one_of_mem hnodup hk, List.replicate_one]
  have hrel : List.Forall₂ R (as.filter p) (ks.filter (· = k)) :=
    List.rel_filter (fun a j haj => (hp a j haj).trans decide_eq_true_iff.symm) h
  rw [hkeys] at hrel
  obtain ⟨a, rest, hak, hnil, heq⟩ := List.forall₂_cons_right_iff.mp hrel
  rw [List.forall₂_nil_right_iff.mp hnil] at heq
  exact ⟨a, heq, hak⟩

/-- A span among the finished ones of a context has exactly one object in its segment,
the one with the identity of the span. -/
lemma Archived.exists_spanObject {issued : List TracingSpan} {context : TracingContext}
    {ks : List ℕ} {k : ℕ} {span : TracingSpan}
    (h : Archived issued context.finishedSpans ks) (hnodup : ks.Nodup) (hk : k ∈ ks)
    (hids : ∀ (j : ℕ) (sp : TracingSpan), issued[j]? = some sp → sp.spanId = idOf j)
    (hmax : issued.length ≤ 2 ^ 31) (hspan : issued[k]? = some span) (b64 : Base64)
    (config : Config) :
    ∃ o, (Reporter.genSegment b64 context config).spans.filter (·.spanId = idOf k) = [o]
      ∧ ∃ sp, sp.identity = span.identity ∧ o = Reporter.spanObject b64 sp := by
  have hlt : ∀ (j : ℕ) (sp : TracingSpan), issued[j]? = some sp → j < 2 ^ 31 := fun j sp hj =>
    lt_of_lt_of_le (List.getElem?_eq_some_iff.mp hj).1 hmax
  obtain ⟨sp, hfilter, hsp⟩ := exists_filter_eq_singleton
    (p := fun sp => (Reporter.spanObject b64 sp).spanId = idOf k) h hnodup hk (by
      intro sp j hj
      obtain ⟨sp', hsp', hid⟩ := Option.map_eq_some_iff.mp hj
      have hspId : (Reporter.spanObject b64 sp).spanId = idOf j :=
        (congrArg SpanIdentity.spanId hid).symm.trans (hids j sp' hsp')
      rw [decide_eq_true_iff, hspId]
      exact ⟨idOf_inj (hlt j sp' hsp') (hlt k span hspan), fun hjk => by rw [hjk]⟩)
  refine ⟨Reporter.spanObject b64 sp, ?_, sp, ?_, rfl⟩
  · rw [Reporter.genSegment, List.filter_map]
    exact congrArg (List.map (Reporter.spanObject b64)) hfilter
  · rw [hspan] at hsp
    exact (Option.some.inj hsp).symm

/-! ### The linkage -/

section Run

variable {b64 : Base64} {config : Config} {traceDraw segmentDraw : IdDraw}
  {current : CurrentTracingContext} {s₁ s₂ s : Scope} {es₁ es₂ es₃ : List Op}
  {operationName peer : String} {layer : SpanLayer} {now t t' : SystemTime}

/-- What an exit span with an injector leaves behind in a scope with a context. -/
lemma header_of_inject {wx : WorkingContext} (live : s₁.Live wx)
    (hs : s₁.step b64 (.tracingExit operationName peer layer true now) = some s₂) :
    s₂.Live wx.opened
      ∧ s₂.injected = s₁.injected
          ++ [(s₁.issued.length, ⟨"sw8", (wx.exitRef operationName peer layer).serialize b64⟩)]
      ∧ s₂.issued = s₁.issued
          ++ [(TracingSpan.newExitSpan operationName wx.nextId wx.topId peer layer).start now] := by
  rw [Scope.step_eq_create live rfl] at hs
  obtain rfl := Option.some.inj hs
  exact ⟨rfl, rfl, rfl⟩

/-- The context a scope hands over when it finishes its first span has the segment id the
scope had before, and its trace id unless that was changed in between. -/
lemma handed_context {wx : WorkingContext} {context : TracingContext} (live : s₂.Live wx)
    (hrun : run (Scope.step b64) s₂ es₂ = some s₁)
    (hs : s₁.step b64 (.finishSpan 0 t t') = some s) (dead : s.ctx = some ⟨none⟩)
    (hreported : s.reported = [context]) (htrace : ∀ id, Op.changeTraceId id ∉ es₂) :
    context.traceId = wx.context.traceId ∧ context.segmentId = wx.context.segmentId := by
  have hrun' : run (Scope.step b64) s₂ (es₂ ++ [.finishSpan 0 t t']) = some s :=
    run_concat.mpr ⟨s₁, hrun, hs⟩
  have hcontext : s.context? = some context := by
    rw [Scope.context?, dead, hreported]
    rfl
  constructor
  · have h := Scope.traceId_of_run hrun' (fun id hid => by
      rcases List.mem_append.mp hid with hid | hid
      · exact htrace id hid
      · exact absurd (List.mem_singleton.mp hid) (by simp))
    rw [hcontext, Scope.context?_of_live live] at h
    exact Option.some.inj h
  · have h := Scope.origin_of_run hrun'
    rw [hcontext, Scope.context?_of_live live] at h
    have hsegment : context.origin.segmentId = wx.context.origin.segmentId :=
      congrArg TracingContext.segmentId (Option.some.inj h)
    exact hsegment

/-- **The linkage of header and segment**: an exit span is created with an injector and
finished no later than the first span, and the trace id is not changed in between. Then
the header names the reported segment, and exactly one span in it, which is the exit
span. -/
theorem header_linkage (hb : b64.Lawful)
    (hnew : CurrentTracingContext.new config traceDraw segmentDraw = .ok current)
    (hrun₁ : run (Scope.step b64) (Scope.enter current) es₁ = some s₁)
    (hinject : s₁.step b64 (.tracingExit operationName peer layer true now) = some s₂)
    (hrun₂ : run (Scope.step b64) s₂ (es₂ ++ .finishSpan 0 t t' :: es₃) = some s)
    (hmax : s.issued.length ≤ 2 ^ 31)
    (hfinish : s₁.issued.length ∈ (es₂ ++ [Op.finishSpan 0 t t']).filterMap Op.finishes)
    (htrace : ∀ id, Op.changeTraceId id ∉ es₂) (workerConfig : Config) :
    ∃ injection context r o,
      s₂.injected = s₁.injected ++ [(s₁.issued.length, injection)]
        ∧ injection.key = "sw8"
        ∧ SegmentReference.fromText b64 injection.value = some r
        ∧ s.reported = [context]
        ∧ r.traceId = (Reporter.genSegment b64 context workerConfig).traceId
        ∧ r.parentTraceSegmentId
            = (Reporter.genSegment b64 context workerConfig).traceSegmentId
        ∧ (Reporter.genSegment b64 context workerConfig).spans.filter
            (·.spanId = r.parentSpanId) = [o]
        ∧ o.spanType = SpanType.exit.code
        ∧ o.operationName = operationName := by
  obtain ⟨s₃, hrun₃, hrest⟩ := run_append_eq_some.mp hrun₂
  obtain ⟨s₄, hs₄, hrun₄⟩ := run_cons_eq_some.mp hrest
  have hto₃ : run (Scope.step b64) (Scope.enter current)
      (es₁ ++ .tracingExit operationName peer layer true now :: es₂) = some s₃ :=
    run_append_eq_some.mpr ⟨s₁, hrun₁, run_cons_eq_some.mpr ⟨s₂, hinject, hrun₃⟩⟩
  have hto : run (Scope.step b64) (Scope.enter current)
      ((es₁ ++ .tracingExit operationName peer layer true now :: es₂)
        ++ .finishSpan 0 t t' :: es₃) = some s :=
    run_append_eq_some.mpr ⟨s₃, hto₃, hrest⟩
  have hmax₃ : s₃.issued.length ≤ 2 ^ 31 :=
    (Scope.issued_grows_of_run hrest).length_le.trans hmax
  obtain ⟨wx₃, span₃, live₃, held₃, rfl⟩ := finishFirst_of_run hnew hto₃ hmax₃ hs₄
  -- the scope still has its context when the exit span is created
  obtain ⟨wx, live⟩ :=
    Scope.live_of_run_live (run_cons_eq_some.mpr ⟨s₂, hinject, hrun₃⟩) live₃
  obtain ⟨live₂, hinjected, hissued⟩ := header_of_inject live hinject
  obtain ⟨-, hnodup, context, hreported, -, harchived⟩ := report_of_run hnew hto hmax
  obtain ⟨-, -, -, hlast⟩ := Scope.run_of_dead (Scope.dead_of_ctx rfl) hrun₄
  obtain ⟨htraceId, hsegmentId⟩ :=
    handed_context live₂ hrun₃ hs₄ rfl (hlast.symm.trans hreported) htrace
  -- the id of the exit span is that of its handle
  obtain ⟨l, -, hsim, -⟩ := sim_of_run hnew hto
  obtain ⟨l₁, -, hsim₁, -⟩ := sim_of_run hnew hrun₁
  have hid : wx.nextId = idOf s₁.issued.length := by
    rw [(hsim₁.next_ids live).1, hsim₁.issued_length]
  have hspan : s.issued[s₁.issued.length]?
      = some ((TracingSpan.newExitSpan operationName wx.nextId wx.topId peer layer).start now) :=
    Scope.getElem?_issued_of_run hissued hrun₂
  have hlt : s₁.issued.length < 2 ^ 31 :=
    lt_of_lt_of_le (List.getElem?_eq_some_iff.mp hspan).1 hmax
  have hpos : 0 ≤ (wx.exitRef operationName peer layer).spanId.toInt := by
    rw [show (wx.exitRef operationName peer layer).spanId = wx.nextId from rfl, hid,
      toInt_idOf hlt]
    exact Int.natCast_nonneg _
  have hmem : s₁.issued.length ∈ (es₁ ++ .tracingExit operationName peer layer true now
      :: es₂).filterMap Op.finishes ++ [0] := by
    rw [List.filterMap_append] at hfinish ⊢
    rcases List.mem_append.mp hfinish with h | h
    · exact List.mem_append_left _ (List.mem_append_right _ h)
    · exact List.mem_append_right _ h
  obtain ⟨o, hfilter, sp, hsp, rfl⟩ := harchived.exists_spanObject hnodup hmem
    (fun j sp hj => hsim.issued_spanId hj) hmax hspan b64 workerConfig
  obtain ⟨-, -, hname, htype⟩ := Reporter.spanObject_of_identity b64 hsp
  refine ⟨_, context, _, _, hinjected, rfl, fromText_serialize hb hpos, hreported, ?_, ?_, ?_,
    htype, hname⟩
  · exact congrArg ID.toString htraceId.symm
  · exact congrArg ID.toString hsegmentId.symm
  · rw [← hid] at hfilter
    exact hfilter

/-- An exit span under an entry span, finished before it. -/
theorem header_linkage_demo : ∃ s₁ s₂ s,
    run (Scope.step .standard) (Scope.enter .demo) [.tracingEntry "/orders" .http ⟨0⟩] = some s₁
      ∧ s₁.step .standard (.tracingExit "store" "10.0.0.2:80" .rpc true ⟨0⟩) = some s₂
      ∧ run (Scope.step .standard) s₂
          ([.finishSpan 1 ⟨0⟩ ⟨0⟩] ++ .finishSpan 0 ⟨0⟩ ⟨0⟩ :: []) = some s
      ∧ ∃ injection context r o, s₂.injected = s₁.injected ++ [(s₁.issued.length, injection)]
        ∧ SegmentReference.fromText .standard injection.value = some r
        ∧ s.reported = [context]
        ∧ r.traceId = (Reporter.genSegment .standard context Config.demo).traceId
        ∧ (Reporter.genSegment .standard context Config.demo).spans.filter
            (·.spanId = r.parentSpanId) = [o]
        ∧ o.spanType = SpanType.exit.code ∧ o.operationName = "store" := by
  obtain ⟨s₁, s₂, s, hrun₁, hinject, hrun₂, hlen⟩ : ∃ s₁ s₂ s,
      run (Scope.step .standard) (Scope.enter .demo) [.tracingEntry "/orders" .http ⟨0⟩]
          = some s₁
        ∧ s₁.step .standard (.tracingExit "store" "10.0.0.2:80" .rpc true ⟨0⟩) = some s₂
        ∧ run (Scope.step .standard) s₂
            ([.finishSpan 1 ⟨0⟩ ⟨0⟩] ++ .finishSpan 0 ⟨0⟩ ⟨0⟩ :: []) = some s
        ∧ s₁.issued.length = 1 := ⟨_, _, _, rfl, rfl, rfl, rfl⟩
  have hmax : s.issued.length ≤ 2 ^ 31 :=
    (Scope.issued_length_le (run_append_eq_some.mpr
      ⟨s₁, hrun₁, run_cons_eq_some.mpr ⟨s₂, hinject, hrun₂⟩⟩)).trans (by decide)
  obtain ⟨injection, context, r, o, hinjected, -, hr, hreported, htrace, -, hspan, htype, hname⟩ :=
    header_linkage Base64.standard_lawful CurrentTracingContext.new_demo hrun₁ hinject hrun₂
      hmax (by rw [hlen]; simp [Op.finishes]) (by simp) Config.demo
  exact ⟨s₁, s₂, s, hrun₁, hinject, hrun₂, injection, context, r, o, hinjected, hr, hreported,
    htrace, hspan, htype, hname⟩

end Run

end Skywalking
