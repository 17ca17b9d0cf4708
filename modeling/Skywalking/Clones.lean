import Skywalking.Wire

/-!
Scopes in which spans are cloned.

A span is a `Box<dyn Span + Send>`, and such a box can be cloned. The clone is a span of its own
with the id of the original, and nothing keeps a program from finishing both. Each finish archives
a span and takes an id from the stack, so a span that is finished twice is twice in the segment and
takes the place of another one on the stack.

* `Scope.cloneBox`, `stepCloning`: the machine of a scope with clones.
* `Loose`, `loose_of_run`: what is left of the invariant of a scope.
* `cloned_segment`: **a segment is well formed exactly if no span is in it twice**; in any case
  its parent ids are below the ids, and it ends with the first finish of a span with the id of
  the root.
-/

namespace Skywalking

open RustStd Machine

/-- A call of the program of a scope, or the clone of the span under a handle. -/
inductive CloneOp where
  | call (op : Op)
  | cloneBox (k : ℕ)
  deriving DecidableEq, Repr

/-- What is left of the tree of a segment: a parent id is `-1` or smaller than the id of the span,
whether a span of the segment has it or not, and only the last span has the id of the root. -/
structure SegmentObject.ParentsBelow (segment : SegmentObject) : Prop where
  ends : ∃ rest last, segment.spans = rest ++ [last] ∧ last.spanId = 0
    ∧ ∀ object ∈ rest, object.spanId ≠ 0
  parent : ∀ object ∈ segment.spans, object.parentSpanId = -1
    ∨ 0 ≤ object.parentSpanId.toInt ∧ object.parentSpanId.toInt < object.spanId.toInt

lemma TracingSpan.spanId_archived (span : TracingSpan) (now now' : SystemTime) :
    (span.archived now now').spanId = span.spanId :=
  congrArg SpanIdentity.spanId (span.identity_archived now now')

namespace Scope

variable {b64 : Base64} {config : Config} {traceDraw segmentDraw : IdDraw}
  {current : CurrentTracingContext} {s s' : Scope} {op : Op} {ops : List CloneOp}

/-- `clone_box`: the program holds the clone under the next handle. -/
def cloneBox (s : Scope) (k : ℕ) : Option Scope := do
  let span ← s.span? k
  return { s with held := s.held ++ [some span] }

/-- One call, or one clone. -/
def stepCloning (b64 : Base64) (s : Scope) : CloneOp → Option Scope
  | .call op => s.step b64 op
  | .cloneBox k => s.cloneBox k

/-! ### What clones leave of the invariant -/

/-- The finished spans of a context and the spans issued: as long as no id is twice among the
former, every one of the latter but the first has a parent. -/
def TreeUnlessTwice (issued finished : List TracingSpan) : Prop :=
  (finished.map TracingSpan.spanId).Nodup →
    ∀ k span, issued[k]? = some span → k ≠ 0 → ∃ j < k, span.parentSpanId = idOf j

/-- What holds of the spans issued and the context that a scope holds: each finish has taken one id
from the stack, or it has found none. -/
structure LooseStack (issued : List TracingSpan) (wx : WorkingContext) : Prop where
  nextId : wx.nextId = idOf issued.length
  stack : ∀ id ∈ wx.spanStack, ∃ j < issued.length, id = idOf j
  length : issued.length ≤ wx.spanStack.length + wx.context.finishedSpans.length
  isOpen : ∀ span ∈ wx.context.finishedSpans, span.spanId ≠ 0
  tree : TreeUnlessTwice issued wx.context.finishedSpans

/-- What holds of the spans issued and a context that was handed over. -/
structure LooseReport (issued : List TracingSpan) (context : TracingContext) : Prop where
  ends : ∃ rest last, context.finishedSpans = rest ++ [last] ∧ last.spanId = 0
    ∧ ∀ span ∈ rest, span.spanId ≠ 0
  tree : TreeUnlessTwice issued context.finishedSpans

/-- What holds of a scope in which spans are cloned. -/
structure Loose (s : Scope) : Prop where
  whole : s.Whole
  spanId : ∀ k span, s.issued[k]? = some span → span.spanId = idOf k
  parent : ∀ k span, s.issued[k]? = some span →
    span.parentSpanId = -1 ∨ ∃ j < k, span.parentSpanId = idOf j
  copies : s.AllSpans fun span => span.identity ∈ s.issued.map TracingSpan.identity
  live : ∀ wx, s.Live wx → LooseStack s.issued wx
  reported : ∀ context ∈ s.reported, LooseReport s.issued context

lemma loose_enter
    (hnew : CurrentTracingContext.new config traceDraw segmentDraw = .ok current) :
    (enter current).Loose := by
  have hcopies := AllSpans.enter (P := fun span =>
    span.identity ∈ (enter current).issued.map TracingSpan.identity) hnew
  obtain ⟨context, hcontext, rfl⟩ := CurrentTracingContext.eq_of_new hnew
  refine ⟨Or.inl ⟨_, rfl, rfl⟩, by simp [enter], by simp [enter], hcopies, ?_, by simp [enter]⟩
  rintro wx live
  cases live
  refine ⟨?_, by simp, Nat.zero_le _, ?_, ?_⟩
  · have hfirst : (-1 : Int32) + 1 = idOf 0 := by decide
    rw [WorkingContext.nextId, hcontext.nextSeq, hfirst]
    rfl
  · intro span hspan
    rw [hcontext.finishedSpans] at hspan
    exact absurd hspan List.not_mem_nil
  · intro _ k span hspan
    exact absurd hspan (by simp [enter])

/-- What a creation appends is the last one of the spans issued. -/
lemma eq_of_getElem?_concat {issued : List TracingSpan} {new span : TracingSpan} {k : ℕ}
    (h : (issued ++ [new])[k]? = some span) :
    issued[k]? = some span ∨ k = issued.length ∧ span = new := by
  rcases Nat.lt_or_ge k issued.length with hlt | hge
  · rw [List.getElem?_append_left hlt] at h
    exact Or.inl h
  · rw [List.getElem?_append_right hge, List.getElem?_singleton] at h
    split_ifs at h with hk
    exact Or.inr ⟨by omega, (Option.some.inj h).symm⟩

lemma LooseStack.topId {issued : List TracingSpan} {wx : WorkingContext}
    (h : LooseStack issued wx) : wx.topId = -1 ∨ ∃ j < issued.length, wx.topId = idOf j := by
  rw [WorkingContext.topId]
  cases hlast : wx.spanStack.getLast? with
  | none => exact Or.inl rfl
  | some id => exact Or.inr (h.stack id (List.mem_of_getLast? hlast))

/-- As long as no id is twice among the finished spans, they are fewer than the spans issued: the
first one is not among them. So the stack has an id left for the parent of the next one. -/
lemma Loose.topId_of_nodup (h : s.Loose) {wx : WorkingContext} (live : s.Live wx)
    (hnodup : (wx.context.finishedSpans.map TracingSpan.spanId).Nodup)
    (hsome : s.issued.length ≠ 0) : ∃ j < s.issued.length, wx.topId = idOf j := by
  have hstack := h.live wx live
  have hfirst : (0 : Int32) ∉ wx.context.finishedSpans.map TracingSpan.spanId := by
    intro hmem
    obtain ⟨span, hspan, hzero⟩ := List.mem_map.mp hmem
    exact hstack.isOpen span hspan hzero
  have hsubset : 0 :: wx.context.finishedSpans.map TracingSpan.spanId
      ⊆ s.issued.map TracingSpan.spanId := by
    intro id hid
    rcases List.mem_cons.mp hid with rfl | hid
    · obtain ⟨first, hget⟩ : ∃ first, s.issued[0]? = some first :=
        ⟨_, List.getElem?_eq_getElem (Nat.pos_of_ne_zero hsome)⟩
      exact List.mem_map.mpr ⟨first, List.mem_of_getElem? hget, h.spanId 0 first hget⟩
    · obtain ⟨span, hspan, rfl⟩ := List.mem_map.mp hid
      obtain ⟨issued, hissued, hidentity⟩ :=
        List.mem_map.mp (h.copies.context wx live span hspan)
      exact List.mem_map.mpr ⟨issued, hissued, congrArg SpanIdentity.spanId hidentity⟩
  have hfewer : wx.context.finishedSpans.length + 1 ≤ s.issued.length := by
    simpa using (List.nodup_cons.mpr ⟨hfirst, hnodup⟩).length_le_of_subset hsubset
  have hlength := hstack.length
  have hne : wx.spanStack ≠ [] := by
    rintro hnil
    rw [hnil, List.length_nil] at hlength
    omega
  rw [WorkingContext.topId, List.getLast?_eq_some_getLast hne]
  exact hstack.stack _ (List.getLast_mem hne)

/-! ### One call -/

/-- What is held or was finished is a copy of a span issued. -/
lemma Loose.copies_step (h : s.Loose) (hs : s.step b64 op = some s') :
    s'.AllSpans fun span => span.identity ∈ s'.issued.map TracingSpan.identity := by
  have hstep := step_cases hs
  have hgrows := hstep.issued_grows.map TracingSpan.identity
  refine (h.copies.imp fun span hspan => hgrows.subset hspan).step ?_ ?_ ?_ hstep
  · intro wx span live new
    rw [step_eq_create live new] at hs
    obtain rfl := Option.some.inj hs
    simp [receive]
  · intro span o _ hspan
    rw [TracingSpan.identity_apply]
    exact hspan
  · intro span other hspan _
    rw [TracingSpan.identity_mergeSpan]
    exact hspan

/-- A finish of a span other than the first one. -/
lemma LooseStack.finish {issued : List TracingSpan} {wx : WorkingContext}
    (h : LooseStack issued wx) {span : TracingSpan} (first : span.spanId ≠ 0)
    (now now' : SystemTime) : LooseStack issued (wx.closed (span.endNow now) now') where
  nextId := h.nextId
  stack id hid := h.stack id (List.dropLast_subset _ hid)
  length := by
    have hlength := h.length
    rw [WorkingContext.finishedSpans_closed, WorkingContext.closed, List.length_dropLast,
      List.length_append, List.length_singleton]
    omega
  isOpen := by
    intro finished hfinished
    rw [WorkingContext.finishedSpans_closed] at hfinished
    rcases List.mem_append.mp hfinished with hfinished | hfinished
    · exact h.isOpen finished hfinished
    · rw [List.mem_singleton.mp hfinished, TracingSpan.spanId_archived]
      exact first
  tree := by
    intro hnodup
    rw [WorkingContext.finishedSpans_closed, List.map_append] at hnodup
    exact h.tree (List.nodup_append.mp hnodup).1

/-- The finish of the first span. -/
lemma LooseStack.finishFirst {issued : List TracingSpan} {wx : WorkingContext}
    (h : LooseStack issued wx) {span : TracingSpan} (first : span.spanId = 0)
    (now now' : SystemTime) :
    LooseReport issued (wx.closed (span.endNow now) now').context where
  ends := ⟨wx.context.finishedSpans, span.archived now now', rfl,
    (span.spanId_archived now now').trans first, h.isOpen⟩
  tree := by
    intro hnodup
    rw [WorkingContext.finishedSpans_closed, List.map_append] at hnodup
    exact h.tree (List.nodup_append.mp hnodup).1

/-- A creation puts its id on the stack. -/
lemma Loose.create (h : s.Loose) {wx : WorkingContext} (live : s.Live wx) {span : TracingSpan}
    (hparent : span.parentSpanId = wx.topId) :
    LooseStack (s.issued ++ [span]) wx.opened where
  nextId := by
    rw [List.length_append, List.length_singleton, idOf_succ, ← (h.live wx live).nextId]
    rfl
  stack := by
    intro id hid
    rw [List.length_append, List.length_singleton]
    rcases List.mem_append.mp hid with hid | hid
    · obtain ⟨j, hj, rfl⟩ := (h.live wx live).stack id hid
      exact ⟨j, by omega, rfl⟩
    · rw [List.mem_singleton.mp hid]
      exact ⟨s.issued.length, by omega, (h.live wx live).nextId⟩
  length := by
    have hlength := (h.live wx live).length
    simp only [WorkingContext.opened, List.length_append, List.length_singleton]
    omega
  isOpen := (h.live wx live).isOpen
  tree := by
    intro hnodup k span' hspan' hk
    rcases eq_of_getElem?_concat hspan' with hissued | ⟨rfl, rfl⟩
    · exact (h.live wx live).tree hnodup k span' hissued hk
    · rw [hparent]
      exact h.topId_of_nodup live hnodup hk

/-- A scope that holds a context has not handed one over. -/
lemma Loose.reported_eq_nil (h : s.Loose) {wx : WorkingContext} (live : s.Live wx) :
    s.reported = [] := by
  by_contra hne
  exact h.whole.reported_ne_nil_iff.mp hne wx live

theorem Loose.step (h : s.Loose) (hs : s.step b64 op = some s') : s'.Loose := by
  have hwhole := h.whole.step hs
  have hcopies := h.copies_step hs
  cases step_cases hs with
  | @create _ wx span live new =>
      have hspanId : span.spanId = idOf s.issued.length :=
        (Op.spanId_newSpan new).trans (h.live wx live).nextId
      have hparent := Op.parentSpanId_newSpan new
      refine ⟨hwhole, fun k span' hspan' => ?_, fun k span' hspan' => ?_, hcopies, ?_, ?_⟩
      · rcases eq_of_getElem?_concat hspan' with hissued | ⟨rfl, rfl⟩
        · exact h.spanId k span' hissued
        · exact hspanId
      · rcases eq_of_getElem?_concat hspan' with hissued | ⟨rfl, rfl⟩
        · exact h.parent k span' hissued
        · rw [hparent]
          exact (h.live wx live).topId
      · rintro wx' live'
        cases live'
        exact h.create live hparent
      · intro context hcontext
        have hmem : context ∈ s.reported := hcontext
        rw [h.reported_eq_nil live] at hmem
        exact absurd hmem List.not_mem_nil
  | createNone dead new => exact h
  | @finish k now now' wx span live held first =>
      refine ⟨hwhole, h.spanId, h.parent, hcopies, ?_, h.reported⟩
      rintro wx' live'
      cases live'
      exact (h.live wx live).finish first now now'
  | @finishFirst k now now' wx span live held first =>
      refine ⟨hwhole, h.spanId, h.parent, hcopies, ?_, fun context hcontext => ?_⟩
      · rintro wx' live'
        cases live'
      · rcases List.mem_append.mp hcontext with hcontext | hcontext
        · exact h.reported context hcontext
        · rw [List.mem_singleton.mp hcontext]
          exact (h.live wx live).finishFirst first now now'
  | finishDead dead held => exact ⟨hwhole, h.spanId, h.parent, hcopies, h.live, h.reported⟩
  | finishNone => exact h
  | @changeTraceId id wx live =>
      refine ⟨hwhole, h.spanId, h.parent, hcopies, ?_, h.reported⟩
      rintro wx' live'
      cases live'
      have hstack := h.live wx live
      exact ⟨hstack.nextId, hstack.stack, hstack.length, hstack.isOpen, hstack.tree⟩
  | changeTraceIdDead dead => exact h
  | onSpan held => exact ⟨hwhole, h.spanId, h.parent, hcopies, h.live, h.reported⟩
  | mergeSpan hk hj hne => exact ⟨hwhole, h.spanId, h.parent, hcopies, h.live, h.reported⟩

/-- A clone has the identity of its original. -/
theorem Loose.cloneBox {k : ℕ} (h : s.Loose) (hs : s.cloneBox k = some s') : s'.Loose := by
  obtain ⟨span, hspan, hs⟩ := Option.bind_eq_some_iff.mp hs
  obtain rfl := Option.some.inj hs
  refine ⟨h.whole, h.spanId, h.parent, ⟨fun held hheld => ?_, h.copies.context,
    h.copies.reported⟩, h.live, h.reported⟩
  rcases List.mem_append.mp hheld with hheld | hheld
  · exact h.copies.held held hheld
  · obtain rfl := Option.some.inj (List.mem_singleton.mp hheld)
    exact h.copies.held held (mem_held_of_span? hspan)

lemma loose_of_run
    (hnew : CurrentTracingContext.new config traceDraw segmentDraw = .ok current)
    (hrun : run (stepCloning b64) (enter current) ops = some s) : s.Loose := by
  refine run_invariant (fun s op s' h hs => ?_) (loose_enter hnew) hrun
  cases op with
  | call op => exact h.step hs
  | cloneBox k => exact h.cloneBox hs

/-! ### The segment -/

/-- Each object of a reported segment is that of a span issued, or of a copy of one. -/
lemma Loose.issued_of_object (h : s.Loose) (b64 : Base64) {context : TracingContext}
    (hcontext : context ∈ s.reported) (workerConfig : Config) :
    ∀ object ∈ (Reporter.genSegment b64 context workerConfig).spans,
      ∃ k span, s.issued[k]? = some span ∧ object.spanId = idOf k
        ∧ object.parentSpanId = span.parentSpanId := by
  intro object hobject
  obtain ⟨span, hspan, rfl⟩ := List.mem_map.mp hobject
  obtain ⟨issued, hissued, hidentity⟩ :=
    List.mem_map.mp (h.copies.reported context hcontext span hspan)
  obtain ⟨k, hk⟩ := List.mem_iff_getElem?.mp hissued
  refine ⟨k, issued, hk, ?_, (congrArg SpanIdentity.parentSpanId hidentity).symm⟩
  rw [← h.spanId k issued hk]
  exact (congrArg SpanIdentity.spanId hidentity).symm

lemma Loose.parentsBelow (h : s.Loose) (b64 : Base64) (hmax : s.issued.length ≤ 2 ^ 31)
    {context : TracingContext} (hcontext : context ∈ s.reported) (workerConfig : Config) :
    (Reporter.genSegment b64 context workerConfig).ParentsBelow where
  ends := by
    obtain ⟨rest, last, hspans, hlast, hrest⟩ := (h.reported context hcontext).ends
    refine ⟨rest.map (Reporter.spanObject b64), Reporter.spanObject b64 last, ?_, hlast, ?_⟩
    · rw [Reporter.genSegment, hspans, List.map_append]
      rfl
    · intro object hobject
      obtain ⟨span, hspan, rfl⟩ := List.mem_map.mp hobject
      exact hrest span hspan
  parent := by
    intro object hobject
    obtain ⟨k, span, hk, hid, hparent⟩ :=
      h.issued_of_object b64 hcontext workerConfig object hobject
    have hlt : k < 2 ^ 31 := lt_of_lt_of_le (List.getElem?_eq_some_iff.mp hk).1 hmax
    rcases h.parent k span hk with hnone | ⟨j, hj, hjparent⟩
    · exact Or.inl (hparent.trans hnone)
    · refine Or.inr ?_
      rw [hid, hparent, hjparent, toInt_idOf hlt, toInt_idOf (hj.trans hlt)]
      omega

/-- A segment in which no span is twice is well formed. -/
lemma Loose.wellFormed (h : s.Loose) (hmax : s.issued.length ≤ 2 ^ 31) {context : TracingContext}
    (hcontext : context ∈ s.reported) {workerConfig : Config}
    (hnodup : ((Reporter.genSegment b64 context workerConfig).spans.map SpanObject.spanId).Nodup) :
    (Reporter.genSegment b64 context workerConfig).WellFormed := by
  have hobjects := h.issued_of_object b64 hcontext workerConfig
  have hlt : ∀ {k span}, s.issued[k]? = some span → k < 2 ^ 31 := fun hk =>
    lt_of_lt_of_le (List.getElem?_eq_some_iff.mp hk).1 hmax
  have htree : ∀ k span, s.issued[k]? = some span → k ≠ 0 →
      ∃ j < k, span.parentSpanId = idOf j := by
    refine (h.reported context hcontext).tree ?_
    rw [Reporter.genSegment, List.map_map] at hnodup
    exact hnodup
  refine ⟨hnodup, ?_, fun object hobject => ?_, fun object hobject hne => ?_⟩
  · obtain ⟨rest, last, hspans, hlast, -⟩ := (h.parentsBelow b64 hmax hcontext workerConfig).ends
    rw [hspans, List.getLast?_concat, Option.map_some, hlast]
  · obtain ⟨k, span, hk, hid, hparent⟩ := hobjects object hobject
    rw [hid, hparent]
    constructor
    · intro hnone
      by_contra hne
      have hk0 : k ≠ 0 := by
        rintro rfl
        exact hne rfl
      obtain ⟨j, hj, hjparent⟩ := htree k span hk hk0
      exact idOf_ne_neg_one (hj.trans (hlt hk)) (hjparent.symm.trans hnone)
    · intro hzero
      obtain rfl : k = 0 := (isFirst_iff (hlt hk)).mp hzero
      exact (h.parent 0 span hk).resolve_right (by rintro ⟨j, hj, -⟩; exact Nat.not_lt_zero j hj)
  · obtain ⟨k, span, hk, hid, hparent⟩ := hobjects object hobject
    have hk0 : k ≠ 0 := by
      rintro rfl
      exact hne hid
    obtain ⟨j, hj, hjparent⟩ := htree k span hk hk0
    rw [hid, hparent, hjparent, toInt_idOf (hlt hk), toInt_idOf (hj.trans (hlt hk))]
    omega

/-- **A segment is well formed exactly if no span is in it twice**: whatever calls are made in a
scope of at most `2^31` spans, on whatever clones, the scope reports once; in the segment each
parent id is `-1` or below the id of the span, it ends with the first finish of a span with the id
of the root, and it is well formed exactly if its spans have distinct ids. -/
theorem cloned_segment
    (hnew : CurrentTracingContext.new config traceDraw segmentDraw = .ok current)
    (hrun : run (stepCloning b64) (enter current) ops = some s)
    (hmax : s.issued.length ≤ 2 ^ 31) {context : TracingContext} (hcontext : context ∈ s.reported)
    (workerConfig : Config) :
    s.reported = [context] ∧ (Reporter.genSegment b64 context workerConfig).ParentsBelow
      ∧ ((Reporter.genSegment b64 context workerConfig).WellFormed
        ↔ ((Reporter.genSegment b64 context workerConfig).spans.map SpanObject.spanId).Nodup) := by
  have hloose : s.Loose := loose_of_run hnew hrun
  have honce : s.reported = [context] := by
    rcases hloose.whole with ⟨wx, -, hnil⟩ | ⟨-, reported, hone⟩
    · rw [hnil] at hcontext
      exact absurd hcontext List.not_mem_nil
    · rw [hone] at hcontext
      rw [hone, List.mem_singleton.mp hcontext]
  exact ⟨honce, hloose.parentsBelow b64 hmax hcontext workerConfig, SegmentObject.WellFormed.ids,
    hloose.wellFormed hmax hcontext⟩

end Scope

/-- A local span is cloned, and both are finished before the next span is created, which has no
parent any more. -/
def clonedOps : List CloneOp :=
  [.call (.tracingEntry "/a" .http ⟨0⟩), .call (.tracingLocal "job" .cache ⟨0⟩), .cloneBox 1,
    .call (.finishSpan 1 ⟨0⟩ ⟨0⟩), .call (.finishSpan 2 ⟨0⟩ ⟨0⟩),
    .call (.tracingLocal "next" .cache ⟨0⟩), .call (.finishSpan 3 ⟨0⟩ ⟨0⟩),
    .call (.finishSpan 0 ⟨0⟩ ⟨0⟩)]

theorem Scope.cloned_segment_demo : ∃ s context,
    run (Scope.stepCloning .standard) (Scope.enter .demo) clonedOps = some s
      ∧ s.reported = [context]
      ∧ (Reporter.genSegment .standard context .demo).ParentsBelow
      ∧ ¬ (Reporter.genSegment .standard context .demo).WellFormed := by
  obtain ⟨s, context, hrun, hreported, hissued, hids⟩ : ∃ s context,
      run (Scope.stepCloning .standard) (Scope.enter .demo) clonedOps = some s
        ∧ s.reported = [context] ∧ s.issued.length = 3
        ∧ (Reporter.genSegment .standard context .demo).spans.map SpanObject.spanId
          = [1, 1, 2, 0] :=
    ⟨_, _, rfl, rfl, rfl, rfl⟩
  obtain ⟨-, hbelow, hiff⟩ := Scope.cloned_segment CurrentTracingContext.new_demo hrun
    (by rw [hissued]; norm_num) (by rw [hreported]; exact List.mem_singleton_self _) .demo
  refine ⟨s, context, hrun, hreported, hbelow, fun hwell => ?_⟩
  have hnodup := hiff.mp hwell
  rw [hids] at hnodup
  exact absurd hnodup (by decide)

end Skywalking
