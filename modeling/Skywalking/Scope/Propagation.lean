import Skywalking.Identity

/-!
The headers a scope takes and sends: how a trace goes on from one scope to the next.

A program keeps a header it has received in a tag of one of its spans, under `parentKey`; from
this tag the reporter makes the references of the segment.

* `Op.takes?`: the header that a call keeps. `exists_takes_of_ref`: every reference of a
  segment was read from a header that the program of its scope has kept.
* `SentBy`, `sentBy_of_injected`: the exit span with which a scope has sent a header.
* `SegmentReference.Names`, `names_of_injected`: **what a header says** of the scope that has
  sent it, whatever the scope does before and afterwards.
* `Names.exists_spanObject`: the span object it leads to.
-/

namespace Skywalking

open RustStd Machine

/-- The key of the tag under which a program keeps a header. -/
def parentKey : String := "sw8-parent"

/-- The header that a call keeps. -/
def Op.takes? : Op → Option String
  | .onSpan _ (.tag t) => if t.key = parentKey then some t.value else none
  | _ => none

namespace Scope

variable {b64 : Base64} {config : Config} {traceDraw segmentDraw : IdDraw}
  {current : CurrentTracingContext} {s₀ s : Scope} {ops : List Op}

/-! ### Headers taken -/

lemma AllSpans.imp {P Q : TracingSpan → Prop} (h : s.AllSpans P) (himp : ∀ span, P span → Q span) :
    s.AllSpans Q where
  held span hspan := himp span (h.held span hspan)
  context wx live span hspan := himp span (h.context wx live span hspan)
  reported context hcontext span hspan := himp span (h.reported context hcontext span hspan)

/-- Every tag of a span was added by a call, to the span itself or to one merged into it. -/
theorem tags_of_run (hnew : CurrentTracingContext.new config traceDraw segmentDraw = .ok current)
    (hrun : run (step b64) (enter current) ops = some s) :
    s.AllSpans fun span => ∀ t ∈ span.tags, ∃ k, Op.onSpan k (.tag t) ∈ ops := by
  refine run_induction (P := fun ops s =>
      s.AllSpans fun span => ∀ t ∈ span.tags, ∃ k, Op.onSpan k (.tag t) ∈ ops)
    (AllSpans.enter hnew) (fun ops s op s' _ ih hs => ?_) hrun
  have hbefore := ih.imp (Q := fun span => ∀ t ∈ span.tags, ∃ k, Op.onSpan k (.tag t) ∈ ops ++ [op])
    fun span hspan t ht => (hspan t ht).imp fun _ hk => List.mem_append_left _ hk
  refine hbefore.step ?_ ?_ ?_ (step_cases hs)
  · -- a new span has no tags
    intro wx span _ hspan t ht
    cases op <;> simp only [Op.newSpan, Option.some.injEq, reduceCtorEq] at hspan <;>
      (subst hspan; exact absurd ht List.not_mem_nil)
  · intro span o ho hspan t ht
    cases o with
    | tag t' =>
        rcases List.mem_append.mp ht with ht | ht
        · exact hspan t ht
        · obtain rfl := List.mem_singleton.mp ht
          obtain ⟨k, rfl⟩ := ho t rfl
          exact ⟨k, List.mem_append_right _ (List.mem_singleton_self _)⟩
    | _ => exact hspan t ht
  · intro span other hspan hother t ht
    rw [TracingSpan.mergeSpan_eq] at ht
    rcases List.mem_append.mp ht with ht | ht
    · exact hspan t ht
    · exact hother t ht

/-- **Every reference was received**: what a segment names as a parent was read from a header
that the program of its scope has kept. -/
theorem exists_takes_of_ref
    (hnew : CurrentTracingContext.new config traceDraw segmentDraw = .ok current)
    (hrun : run (step b64) (enter current) ops = some s) {context : TracingContext}
    (hcontext : context ∈ s.reported) {workerConfig : Config} {object : SpanObject}
    (hobject : object ∈ (Reporter.genSegment b64 context workerConfig).spans)
    {r : SegmentReference} (hr : r ∈ object.refs) :
    ∃ op ∈ ops, ∃ value, op.takes? = some value
      ∧ SegmentReference.fromText b64 value = some r := by
  obtain ⟨span, hspan, rfl⟩ := List.mem_map.mp hobject
  obtain ⟨t, ht, hparent⟩ := List.mem_filterMap.mp hr
  split_ifs at hparent with hkey
  obtain ⟨k, hop⟩ := (tags_of_run hnew hrun).reported context hcontext span hspan t ht
  exact ⟨_, hop, t.value, if_pos hkey, hparent⟩

/-! ### Headers sent -/

/-- The exit span under the handle `k` was created by one of the calls `ops`, which lead from
`s₀` to `s`, and has sent the header `injection`. -/
inductive SentBy (b64 : Base64) (s₀ : Scope) (ops : List Op) (s : Scope) : ℕ → Injection → Prop
  | intro {ops₁ ops₂ : List Op} {operationName peer : String} {layer : SpanLayer}
      {now : SystemTime} {s₁ s₂ : Scope} {wx : WorkingContext}
      (calls : ops = ops₁ ++ .tracingExit operationName peer layer true now :: ops₂)
      (before : run (step b64) s₀ ops₁ = some s₁) (live : s₁.Live wx)
      (create : s₁.step b64 (.tracingExit operationName peer layer true now) = some s₂)
      (after : run (step b64) s₂ ops₂ = some s) :
      SentBy b64 s₀ ops s s₁.issued.length
        ⟨"sw8", (wx.exitRef operationName peer layer).serialize b64⟩

lemma SentBy.concat {k : ℕ} {injection : Injection} (h : SentBy b64 s₀ ops s k injection)
    {op : Op} {s' : Scope} (hs : s.step b64 op = some s') :
    SentBy b64 s₀ (ops ++ [op]) s' k injection := by
  cases h with
  | intro calls before live create after =>
      refine .intro ?_ before live create (run_concat.mpr ⟨s, after, hs⟩)
      rw [calls, List.append_assoc, List.cons_append]

/-- No call takes back a header. -/
lemma Step.injected_grows {op : Op} {s' : Scope} (h : Step b64 s op s') :
    s.injected <+: s'.injected := by
  cases h with
  | create live new => exact List.prefix_append _ _
  | _ => exact List.prefix_rfl

/-- A scope has sent the headers it has sent, each with an exit span of its own. -/
theorem sentBy_of_injected (hempty : s₀.injected = []) (hrun : run (step b64) s₀ ops = some s) :
    ∀ p ∈ s.injected, SentBy b64 s₀ ops s p.1 p.2 := by
  refine run_induction (P := fun ops s => ∀ p ∈ s.injected, SentBy b64 s₀ ops s p.1 p.2) ?_ ?_ hrun
  · intro p hp
    rw [hempty] at hp
    exact absurd hp List.not_mem_nil
  · intro ops s op s' ht ih hs p hp
    have hstep := step_cases hs
    cases hstep with
    | @create _ wx span live new =>
        rcases List.mem_append.mp hp with hp | hp
        · exact (ih p hp).concat hs
        · obtain ⟨injection, hinjection, rfl⟩ := List.mem_map.mp hp
          cases op with
          | tracingExit operationName peer layer injector now =>
              cases injector with
              | false => exact absurd hinjection (by simp [Op.injection])
              | true =>
                  rw [Op.injection, Option.mem_toList] at hinjection
                  obtain rfl := Option.some.inj hinjection
                  exact .intro rfl ht live hs rfl
          | _ => exact absurd hinjection (by simp [Op.injection])
    | _ => exact (ih p hp).concat hs

/-- No handle has sent two headers. -/
lemma injected_nodup (hempty : s₀.injected = []) (hrun : run (step b64) s₀ ops = some s) :
    (s.injected.map Prod.fst).Nodup := by
  have hboth : (s.injected.map Prod.fst).Nodup ∧ ∀ p ∈ s.injected, p.1 < s.issued.length := by
    refine run_invariant (P := fun s => (s.injected.map Prod.fst).Nodup
      ∧ ∀ p ∈ s.injected, p.1 < s.issued.length) ?_ (by simp [hempty]) hrun
    rintro s op s' ⟨hnodup, hlt⟩ hs
    cases step_cases hs with
    | @create _ wx span live new =>
        simp only [receive, Option.toList_some, List.map_append, List.map_map,
          List.length_append, List.length_singleton]
        refine ⟨List.nodup_append.mpr ⟨hnodup, ?_, ?_⟩, fun p hp => ?_⟩
        · cases op.injection b64 wx <;> simp
        · rintro k hk j hj rfl
          obtain ⟨p, hp, rfl⟩ := List.mem_map.mp hk
          obtain ⟨injection, -, hsame⟩ := List.mem_map.mp hj
          exact absurd (hlt p hp) (hsame ▸ lt_irrefl _)
        · rcases List.mem_append.mp hp with hp | hp
          · exact Nat.lt_succ_of_lt (hlt p hp)
          · obtain ⟨injection, -, rfl⟩ := List.mem_map.mp hp
            exact Nat.lt_succ_self _
    | _ => exact ⟨hnodup, hlt⟩
  exact hboth.1

end Scope

/-! ### What a header says -/

/-- What a header says of the scope that has sent it: the id of its segment, the id of the exit
span under the handle `k`, and the names of its process. -/
structure SegmentReference.Names (r : SegmentReference) (config : Config) (s : Scope) (k : ℕ) :
    Prop where
  segment : s.context?.map (fun context => context.segmentId.toString)
    = some r.parentTraceSegmentId
  exit : ∃ span, s.issued[k]? = some span ∧ span.isExit = true ∧ span.spanId = r.parentSpanId
  service : r.parentService = config.serviceName
  serviceInstance : r.parentServiceInstance = config.serviceInstance

section

variable {b64 : Base64} {config : Config} {traceDraw segmentDraw : IdDraw}
  {current : CurrentTracingContext} {s : Scope} {ops : List Op} {k : ℕ} {r : SegmentReference}

/-- A run keeps the segment id of a scope with a context. -/
lemma Scope.segmentId_of_run {s₁ : Scope} {wx : WorkingContext} (live : s₁.Live wx)
    (hrun : run (Scope.step b64) s₁ ops = some s) :
    s.context?.map (fun context => context.segmentId.toString)
      = some wx.context.segmentId.toString := by
  have horigin := Scope.origin_of_run hrun
  rw [Scope.context?_of_live live] at horigin
  obtain ⟨context, hcontext, hsame⟩ := Option.map_eq_some_iff.mp horigin
  have hsegment : context.origin.segmentId = wx.context.origin.segmentId := by rw [hsame]
  rw [hcontext]
  exact congrArg (fun id => some (ID.toString id)) hsegment

/-- **What a header says**: a header names the scope that has sent it, in every state the scope
comes to afterwards. -/
theorem names_of_injected (hb : b64.Lawful)
    (hnew : CurrentTracingContext.new config traceDraw segmentDraw = .ok current)
    (hrun : run (Scope.step b64) (Scope.enter current) ops = some s) {injection : Injection}
    (hinjection : (k, injection) ∈ s.injected)
    (hr : SegmentReference.fromText b64 injection.value = some r) : r.Names config s k := by
  obtain ⟨hservice, hinst⟩ := parent_of_header hb hnew hrun hinjection hr
  have hsent := Scope.sentBy_of_injected rfl hrun _ hinjection
  cases hsent with
  | @intro ops₁ ops₂ operationName peer layer now s₁ s₂ wx calls before live create after =>
      obtain rfl := eq_toReference_of_fromText hb hr
      obtain ⟨live₂, -, hissued⟩ := header_of_inject live create
      exact ⟨Scope.segmentId_of_run live₂ after,
        ⟨_, Scope.getElem?_issued_of_run hissued after, rfl, rfl⟩, hservice, hinst⟩

/-- **Every header sent is readable**, and names its exit span by the id of its handle, as long as
the ids of the scope have not run out. -/
theorem reads_of_injected (hb : b64.Lawful)
    (hnew : CurrentTracingContext.new config traceDraw segmentDraw = .ok current)
    (hrun : run (Scope.step b64) (Scope.enter current) ops = some s)
    (hmax : s.issued.length ≤ 2 ^ 31) {injection : Injection}
    (hinjection : (k, injection) ∈ s.injected) :
    k < 2 ^ 31 ∧ ∃ r, SegmentReference.fromText b64 injection.value = some r
      ∧ r.parentSpanId = idOf k := by
  obtain ⟨l, -, hsim, -⟩ := sim_of_run hnew hrun
  have hsent := Scope.sentBy_of_injected rfl hrun _ hinjection
  cases hsent with
  | @intro ops₁ ops₂ operationName peer layer now s₁ s₂ wx calls before live create after =>
      obtain ⟨-, -, hissued⟩ := header_of_inject live create
      have hspan := Scope.getElem?_issued_of_run hissued after
      have hid : wx.nextId = idOf s₁.issued.length := hsim.issued_spanId hspan
      have hlt : s₁.issued.length < 2 ^ 31 :=
        lt_of_lt_of_le (List.getElem?_eq_some_iff.mp hspan).1 hmax
      have hpos : 0 ≤ (wx.exitRef operationName peer layer).spanId.toInt := by
        rw [show (wx.exitRef operationName peer layer).spanId = wx.nextId from rfl, hid,
          toInt_idOf hlt]
        exact Int.natCast_nonneg _
      exact ⟨hlt, _, fromText_serialize hb hpos, hid⟩

/-- A context that was handed over is the context of its scope. -/
lemma context?_of_reported
    (hnew : CurrentTracingContext.new config traceDraw segmentDraw = .ok current)
    (hrun : run (Scope.step b64) (Scope.enter current) ops = some s) {context : TracingContext}
    (hcontext : context ∈ s.reported) : s.context? = some context := by
  obtain ⟨l, -, hsim, -⟩ := sim_of_run hnew hrun
  cases hsim.context with
  | live ctx isLive stack seq archived reported =>
      rw [reported] at hcontext
      exact absurd hcontext List.not_mem_nil
  | closed ctx isLive reported archived =>
      rw [reported] at hcontext
      rw [Scope.context?, ctx, reported, List.mem_singleton.mp hcontext]
      rfl

/-- **The span object a header leads to**: if the exit span was finished no later than the first
span of its scope, the segment reported for the scope has one object with the id in the
header, and this object is that of an exit span. -/
theorem SegmentReference.Names.exists_spanObject (h : r.Names config s k)
    (hnew : CurrentTracingContext.new config traceDraw segmentDraw = .ok current)
    {t t' : SystemTime} {ops' : List Op}
    (hrun : run (Scope.step b64) (Scope.enter current) (ops ++ .finishSpan 0 t t' :: ops')
      = some s)
    (hmax : s.issued.length ≤ 2 ^ 31)
    (hfinish : k ∈ (ops ++ [Op.finishSpan 0 t t']).filterMap Op.finishes)
    (workerConfig : Config) :
    ∃ context object, s.reported = [context]
      ∧ (Reporter.genSegment b64 context workerConfig).traceSegmentId = r.parentTraceSegmentId
      ∧ (Reporter.genSegment b64 context workerConfig).spans.filter
          (·.spanId = r.parentSpanId) = [object]
      ∧ object.spanType = SpanType.exit.code := by
  obtain ⟨-, hnodup, context, hreported, -, harchived⟩ := report_of_run hnew hrun hmax
  obtain ⟨l, -, hsim, -⟩ := sim_of_run hnew hrun
  obtain ⟨span, hspan, hexit, hid⟩ := h.exit
  have hcontext : s.context? = some context :=
    context?_of_reported hnew hrun (hreported ▸ List.mem_singleton_self _)
  have hmem : k ∈ ops.filterMap Op.finishes ++ [0] := by
    rwa [List.filterMap_append] at hfinish
  obtain ⟨object, hfilter, sp, hsp, rfl⟩ := harchived.exists_spanObject hnodup hmem
    (fun j sp hj => hsim.issued_spanId hj) hmax hspan b64 workerConfig
  obtain ⟨-, -, -, htype⟩ := Reporter.spanObject_of_identity b64 hsp
  refine ⟨context, Reporter.spanObject b64 sp, hreported, ?_, ?_, ?_⟩
  · have hsegment := h.segment
    rw [hcontext] at hsegment
    exact Option.some.inj hsegment
  · rw [← hsim.issued_spanId hspan, hid] at hfilter
    exact hfilter
  · rw [htype, hexit]
    rfl

/-! ### The trace id -/

/-- A call sends a header. -/
def Op.Sends : Op → Prop
  | .tracingExit _ _ _ injector _ => injector = true
  | _ => False

/-- A program settles the trace id before it keeps or sends the first header. -/
def SettlesTrace (ops : List Op) : Prop :=
  ∃ ops₁ ops₂, ops = ops₁ ++ ops₂ ∧ (∀ op ∈ ops₁, op.takes? = none ∧ ¬ op.Sends)
    ∧ ∀ id, Op.changeTraceId id ∉ ops₂

/-- Where a header is kept or sent, the trace id is what it is in the end. -/
lemma SettlesTrace.traceId_eq {ops₁ ops₂ : List Op} {op : Op}
    (h : SettlesTrace (ops₁ ++ op :: ops₂))
    (hop : op.takes? ≠ none ∨ op.Sends) {s₁ s : Scope}
    (hrun : run (Scope.step b64) s₁ (op :: ops₂) = some s) :
    s.context?.map TracingContext.traceId = s₁.context?.map TracingContext.traceId := by
  obtain ⟨first, second, hops, hfirst, hsecond⟩ := h
  refine Scope.traceId_of_run hrun fun id hid => hsecond id ?_
  have hnot : op ∉ first := by
    intro hmem
    obtain ⟨htakes, hsends⟩ := hfirst op hmem
    rcases hop with hop | hop
    · exact hop htakes
    · exact hsends hop
  -- the call lies in the second part, and so does all that comes after it
  rcases List.append_eq_append_iff.mp hops with ⟨rest, hfirst', hrest⟩ | ⟨rest, -, hrest⟩
  · cases rest with
    | nil =>
        rw [List.nil_append] at hrest
        rwa [← hrest]
    | cons o rest =>
        obtain rfl : op = o := (List.cons_eq_cons.mp hrest).1
        exact absurd (hfirst' ▸ List.mem_append_right _ List.mem_cons_self) hnot
  · rw [hrest]
    exact List.mem_append_right _ hid

/-- **The trace id in a header** is that of its scope, if the program settles it before. -/
theorem traceId_of_injected (hb : b64.Lawful)
    (hrun : run (Scope.step b64) (Scope.enter current) ops = some s) (hsettles : SettlesTrace ops)
    {injection : Injection} (hinjection : (k, injection) ∈ s.injected)
    (hr : SegmentReference.fromText b64 injection.value = some r) :
    s.context?.map (fun context => context.traceId.toString) = some r.traceId := by
  have hsent := Scope.sentBy_of_injected rfl hrun _ hinjection
  cases hsent with
  | @intro ops₁ ops₂ operationName peer layer now s₁ s₂ wx calls before live create after =>
      obtain rfl := eq_toReference_of_fromText hb hr
      rw [calls] at hsettles
      have htrace := hsettles.traceId_eq (Or.inr rfl)
        (run_cons_eq_some.mpr ⟨s₂, create, after⟩)
      rw [Scope.context?_of_live live] at htrace
      obtain ⟨context, hcontext, hsame⟩ := Option.map_eq_some_iff.mp htrace
      rw [hcontext]
      exact congrArg (fun id => some (ID.toString id)) hsame

end

end Skywalking
