import Skywalking.Deployment
import Skywalking.IdText
import Skywalking.Machine.Causality
import Skywalking.Wire

/-!
The trace of a deployment: the reported segments of all its processes, and the references
between them.

* `segmentId_text_eq_iff`: **when two segments have one id**. `Distinct`: no two of them have.
* `one_sender`: **a header has one sender**, the exit span it was made for.
* `RefersTo`: the reported segment of one scope names that of another one as a parent.
  `Parent`: a span has another one as its parent, in the same segment or in another one.
* `trace_acyclic`: **no span is its own ancestor**, if the programs keep headers only before they
  send their first one.
* `one_trace`: **all that is connected by references has one trace id**, if the programs adopt the
  trace id of the headers they keep.
-/

namespace Skywalking

open RustStd Machine

/-- The segment id of a new context. -/
lemma CurrentTracingContext.segmentId_of_new {config : Config} {traceDraw segmentDraw : IdDraw}
    {current : CurrentTracingContext}
    (hnew : CurrentTracingContext.new config traceDraw segmentDraw = .ok current) :
    ∃ context n, current = ⟨some ⟨context, []⟩⟩
      ∧ segmentDraw.now.millisSinceEpoch = some n
      ∧ context.segmentId = ID.new config.instanceId.toInt64 segmentDraw.random.toInt64
        (Int64.ofNat n) := by
  rw [CurrentTracingContext.new, TracingContext.new] at hnew
  simp only [IDGenerator.newId] at hnew
  cases htrace : traceDraw.now.millisSinceEpoch with
  | none => rw [htrace] at hnew; cases hnew
  | some n =>
      cases hsegment : segmentDraw.now.millisSinceEpoch with
      | none => rw [htrace, hsegment] at hnew; cases hnew
      | some m =>
          rw [htrace, hsegment] at hnew
          cases hnew
          exact ⟨_, m, rfl, rfl, rfl⟩

/-- Identifiers of three numbers have one text only if they are the same. -/
lemma ID.eq_of_toString {a b c a' b' c' : Int64}
    (h : (ID.new a b c).toString = (ID.new a' b' c').toString) :
    ID.new a b c = ID.new a' b' c' := by
  have hread : (Except.ok (ID.new a b c) : Except String ID) = .ok (ID.new a' b' c') := by
    calc .ok (ID.new a b c)
        = ID.fromString (ID.new a b c).toString := (fromString_toString a b c).symm
      _ = ID.fromString (ID.new a' b' c').toString := by rw [h]
      _ = .ok (ID.new a' b' c') := fromString_toString a' b' c'
  exact Except.ok.inj hread

/-- Two numbers are one `i64` exactly if they are `2^64` apart, or a multiple of it. -/
lemma int64_ofNat_eq_iff {n m : ℕ} : Int64.ofNat n = Int64.ofNat m ↔ n % 2 ^ 64 = m % 2 ^ 64 := by
  rw [← Int64.toBitVec_inj]
  constructor
  · intro h
    simpa using congrArg BitVec.toNat h
  · intro h
    apply BitVec.eq_of_toNat_eq
    simpa using h

namespace Deployment

variable {ι : Type*} [DecidableEq ι] {b64 : Base64} {reporters : ι → Reporter}
  {clocks : ι → Instant} {es : List (ι × ProcessEvent)} {d : ι → Process} {x y : ι × ℕ}
  {s s' : Scope} {context context' : TracingContext}

/-- No two scopes have the same segment id. -/
def Distinct (d : ι → Process) : Prop :=
  ∀ x y s s' context context', scope? d x = some s → scope? d y = some s' →
    s.context? = some context → s'.context? = some context' →
    context.segmentId = context'.segmentId → x = y

/-- The reported segment of the scope at `x` names the segment of the scope at `y` as a parent. -/
inductive RefersTo (b64 : Base64) (reporters : ι → Reporter) (d : ι → Process) (x y : ι × ℕ) :
    Prop
  | intro {s s' : Scope} {context context' : TracingContext} {object : SpanObject}
      {r : SegmentReference} (source : scope? d x = some s) (reported : context ∈ s.reported)
      (target : scope? d y = some s') (parent : s'.context? = some context')
      (span : object ∈ (Reporter.genSegment b64 context (reporters x.1).workerConfig).spans)
      (ref : r ∈ object.refs)
      (names : r.parentTraceSegmentId
        = (Reporter.genSegment b64 context' (reporters y.1).workerConfig).traceSegmentId)

/-- The span object `b` is the parent of the span object `a`, both given by a scope and an id: in
the reported segment of one scope, or by a reference to that of another one. -/
inductive Parent (b64 : Base64) (reporters : ι → Reporter) (d : ι → Process) :
    (ι × ℕ) × Int32 → (ι × ℕ) × Int32 → Prop
  | within {x : ι × ℕ} {s : Scope} {context : TracingContext} {object : SpanObject}
      (source : scope? d x = some s) (reported : context ∈ s.reported)
      (span : object ∈ (Reporter.genSegment b64 context (reporters x.1).workerConfig).spans)
      (root : object.parentSpanId ≠ -1) :
      Parent b64 reporters d (x, object.spanId) (x, object.parentSpanId)
  | across {x y : ι × ℕ} {s s' : Scope} {context context' : TracingContext} {object : SpanObject}
      {r : SegmentReference} (source : scope? d x = some s) (reported : context ∈ s.reported)
      (target : scope? d y = some s') (parent : s'.context? = some context')
      (span : object ∈ (Reporter.genSegment b64 context (reporters x.1).workerConfig).spans)
      (ref : r ∈ object.refs)
      (names : r.parentTraceSegmentId
        = (Reporter.genSegment b64 context' (reporters y.1).workerConfig).traceSegmentId) :
      Parent b64 reporters d (x, object.spanId) (y, r.parentSpanId)

section Run

variable (hrun : run (step b64 reporters) (start reporters clocks) es = some d)
  (hunmoved : Unmoved es)

include hrun hunmoved

/-- The segment id of a scope is the one drawn when it was entered. -/
lemma segmentId_of_run (hx : scope? d x = some s) (hcontext : s.context? = some context) :
    ∃ draw n, (ProcessEvent.enters (on x.1 es))[x.2]? = some draw
      ∧ draw.2.now.millisSinceEpoch = some n
      ∧ context.segmentId = ID.new (reporters x.1).config.instanceId.toInt64
        draw.2.random.toInt64 (Int64.ofNat n) := by
  obtain ⟨draw, current, hdraw, hnew, hscope⟩ := scope_at hrun hunmoved hx
  obtain ⟨first, n, rfl, hmillis, hid⟩ := CurrentTracingContext.segmentId_of_new hnew
  have horigin := Scope.origin_of_run hscope
  rw [hcontext, Scope.context?_of_live (Scope.live_enter _)] at horigin
  have hsame : context.origin.segmentId = first.origin.segmentId := by
    rw [Option.some.inj horigin]
  exact ⟨draw, n, hdraw, hmillis, hsame.trans hid⟩

/-- A scope has no more spans than there are events. -/
lemma issued_length_le (hx : scope? d x = some s) : s.issued.length ≤ es.length := by
  obtain ⟨draw, current, -, -, hscope⟩ := scope_at hrun hunmoved hx
  calc s.issued.length
      ≤ (Scope.enter current).issued.length + (callsAt x es).length :=
        Scope.issued_length_le hscope
    _ = (callsAt x es).length := Nat.zero_add _
    _ ≤ (on x.1 es).length := List.length_filterMap_le _ _
    _ ≤ es.length := List.length_filterMap_le _ _

/-- The texts of distinct segment ids are distinct. -/
lemma eq_of_segmentId_text (hdistinct : Distinct d) (hx : scope? d x = some s)
    (hy : scope? d y = some s') (hcontext : s.context? = some context)
    (hcontext' : s'.context? = some context')
    (htext : context.segmentId.toString = context'.segmentId.toString) : x = y := by
  obtain ⟨draw, n, -, -, hid⟩ := segmentId_of_run hrun hunmoved hx hcontext
  obtain ⟨draw', n', -, -, hid'⟩ := segmentId_of_run hrun hunmoved hy hcontext'
  refine hdistinct x y s s' context context' hx hy hcontext hcontext' ?_
  rw [hid, hid'] at htext ⊢
  exact ID.eq_of_toString htext

/-- **When two segments have one id**: in every run of a deployment in which no span is moved to
another scope, the texts of the segment ids of two scopes, of the same process or of two, are equal
exactly if their processes have the same instance id and both scopes drew the same random word in
the same millisecond, up to a multiple of `2^64` milliseconds. -/
theorem segmentId_text_eq_iff (hx : scope? d x = some s) (hy : scope? d y = some s')
    (hcontext : s.context? = some context) (hcontext' : s'.context? = some context') :
    context.segmentId.toString = context'.segmentId.toString
      ↔ (reporters x.1).config.instanceId = (reporters y.1).config.instanceId
        ∧ ∃ draw draw' n n', (ProcessEvent.enters (on x.1 es))[x.2]? = some draw
          ∧ (ProcessEvent.enters (on y.1 es))[y.2]? = some draw'
          ∧ draw.2.random = draw'.2.random
          ∧ draw.2.now.millisSinceEpoch = some n ∧ draw'.2.now.millisSinceEpoch = some n'
          ∧ n % 2 ^ 64 = n' % 2 ^ 64 := by
  obtain ⟨draw, n, hdraw, hn, hid⟩ := segmentId_of_run hrun hunmoved hx hcontext
  obtain ⟨draw', n', hdraw', hn', hid'⟩ := segmentId_of_run hrun hunmoved hy hcontext'
  rw [hid, hid']
  constructor
  · intro htext
    have hsame := ID.eq_of_toString htext
    simp only [ID.new, ID.numID.injEq] at hsame
    obtain ⟨hinstance, hrandom, hmillis⟩ := hsame
    have hinstance' : (reporters x.1).config.instanceId = (reporters y.1).config.instanceId := by
      simpa using congrArg Int64.toInt32 hinstance
    have hrandom' : draw.2.random = draw'.2.random := by
      simpa using congrArg Int64.toUInt64 hrandom
    exact ⟨hinstance', draw, draw', n, n', hdraw, hdraw', hrandom', hn, hn',
      int64_ofNat_eq_iff.mp hmillis⟩
  · rintro ⟨hinstance, e, e', m, m', he, he', hrandom, hm, hm', hmillis⟩
    obtain rfl := Option.some.inj (hdraw.symm.trans he)
    obtain rfl := Option.some.inj (hdraw'.symm.trans he')
    obtain rfl := Option.some.inj (hn.symm.trans hm)
    obtain rfl := Option.some.inj (hn'.symm.trans hm')
    rw [hinstance, hrandom, int64_ofNat_eq_iff.mpr hmillis]

/-- **A header has one sender**: in every run of a deployment in which no span is moved to another
scope and no two scopes have the same segment id, two headers, sent by scopes of the same process
or of two, are equal exactly if one exit span has sent both. -/
theorem one_sender (hb : b64.Lawful) (hdistinct : Distinct d) (hx : scope? d x = some s)
    (hy : scope? d y = some s') (hmax : s.issued.length ≤ 2 ^ 31)
    (hmax' : s'.issued.length ≤ 2 ^ 31) {k k' : ℕ} {injection injection' : Injection}
    (hsent : (k, injection) ∈ s.injected) (hsent' : (k', injection') ∈ s'.injected) :
    injection.value = injection'.value ↔ x = y ∧ k = k' := by
  obtain ⟨draw, current, -, hnew, hscope⟩ := scope_at hrun hunmoved hx
  obtain ⟨draw', current', -, hnew', hscope'⟩ := scope_at hrun hunmoved hy
  constructor
  · intro hvalue
    obtain ⟨hk, r, hr, hid⟩ := reads_of_injected hb hnew hscope hmax hsent
    obtain ⟨hk', r', hr', hid'⟩ := reads_of_injected hb hnew' hscope' hmax' hsent'
    obtain rfl : r = r' := by
      rw [hvalue] at hr
      exact Option.some.inj (hr.symm.trans hr')
    obtain ⟨context, hcontext, htext⟩ :=
      Option.map_eq_some_iff.mp (names_of_injected hb hnew hscope hsent hr).segment
    obtain ⟨context', hcontext', htext'⟩ :=
      Option.map_eq_some_iff.mp (names_of_injected hb hnew' hscope' hsent' hr').segment
    exact ⟨eq_of_segmentId_text hrun hunmoved hdistinct hx hy hcontext hcontext'
      (htext.trans htext'.symm), idOf_inj hk hk' (hid.symm.trans hid')⟩
  · rintro ⟨rfl, rfl⟩
    obtain rfl := Option.some.inj (hx.symm.trans hy)
    have hsame := List.inj_on_of_nodup_map (Scope.injected_nodup rfl hscope) hsent hsent' rfl
    exact congrArg (fun p => p.2.value) hsame

variable (hgenuine : Along (step b64 reporters) Genuine (start reporters clocks) es)

include hgenuine

/-- **What a segment refers to was received**: a header that the scope at `x` has kept after the
scope at `y` had sent it. -/
theorem RefersTo.received (hb : b64.Lawful) (hdistinct : Distinct d)
    (h : RefersTo b64 reporters d x y) :
    ∃ r s s', Received b64 reporters clocks es x y r ∧ scope? d x = some s ∧ scope? d y = some s'
      ∧ ∃ k injection, (k, injection) ∈ s'.injected
        ∧ SegmentReference.fromText b64 injection.value = some r := by
  cases h with
  | @intro s s' context context' object r source reported target parent span ref names =>
      obtain ⟨z, hreceived⟩ :=
        received_of_ref hrun hunmoved hgenuine source reported span ref
      obtain ⟨t, k, hz, ⟨injection, hp, hreads⟩, hnames⟩ := hreceived.names hrun hunmoved hb
      obtain ⟨sender, hsender, htext⟩ := Option.map_eq_some_iff.mp hnames.segment
      obtain rfl : z = y :=
        eq_of_segmentId_text hrun hunmoved hdistinct hz target hsender parent (htext.trans names)
      exact ⟨r, s, t, hreceived, source, hz, k, injection, hp, hreads⟩

/-! ### The order of the segments -/

/-- A program keeps a header only before it sends its first one. -/
def TakesFirst (d : ι → Process) (e : ι × ProcessEvent) : Prop :=
  ∀ a op s, e.2 = .call a op → op.takes? ≠ none → scope? d (e.1, a) = some s → s.injected = []

/-- No chain of references from segment to segment leads back to where it started. -/
lemma refersTo_acyclic (hb : b64.Lawful) (hdistinct : Distinct d)
    (hfirst : Along (step b64 reporters) TakesFirst (start reporters clocks) es) (x : ι × ℕ) :
    ¬ Relation.TransGen (RefersTo b64 reporters d) x x := by
  have hedge : ∀ x y, RefersTo b64 reporters d x y →
      Precedes (step b64 reporters) HasSent (start reporters clocks) es y x := by
    intro x y h
    obtain ⟨r, -, -, hreceived, -⟩ := h.received hrun hunmoved hgenuine hb hdistinct
    cases hreceived with
    | @intro es₁ es₂ op d₁ s₁ value events before scope takes sent reads =>
        refine ⟨es₁, d₁, ⟨_, events.symm⟩, before, sent.hasSent, ?_⟩
        rintro ⟨t, ht, hne⟩
        have htakes : op.takes? ≠ none := by rw [takes]; exact Option.some_ne_none value
        exact hne (hfirst es₁ _ es₂ d₁ events before x.2 op t rfl htakes ht)
  exact not_transGen_self (fun _ _ _ _ h hs => h.step hs) hedge x

/-- **No span is its own ancestor**: in every run of a deployment in which no span is moved to
another scope, every header kept is genuine and is kept before the first one is sent, no chain of
parents leads back to where it started, neither inside a segment nor through others. -/
theorem trace_acyclic (hb : b64.Lawful) (hdistinct : Distinct d)
    (hfirst : Along (step b64 reporters) TakesFirst (start reporters clocks) es)
    (hmax : ∀ x s, scope? d x = some s → s.issued.length ≤ 2 ^ 31) (a : (ι × ℕ) × Int32) :
    ¬ Relation.TransGen (Parent b64 reporters d) a a := by
  refine not_transGen_of_fibres Prod.fst (fun a => a.2.toInt) (fun a b h => ?_)
    (refersTo_acyclic hrun hunmoved hgenuine hb hdistinct hfirst) a
  cases h with
  | @within x s context object source reported span root =>
      obtain ⟨draw, current, -, hnew, hscope⟩ := scope_at hrun hunmoved source
      have hwell := wellFormed_of_reported hnew hscope (hmax x s source) reported
        (reporters x.1).workerConfig
      exact Or.inl ⟨rfl, (hwell.parent object span (mt (hwell.root object span).mpr root)).2⟩
  | across source reported target parent span ref names =>
      exact Or.inr (.intro source reported target parent span ref names)

/-! ### The trace id -/

/-- A program keeps a header only under the trace id in it. -/
def Adopts (b64 : Base64) (d : ι → Process) (e : ι × ProcessEvent) : Prop :=
  ∀ a op value r s, e.2 = .call a op → op.takes? = some value →
    SegmentReference.fromText b64 value = some r → scope? d (e.1, a) = some s →
    s.context?.map (fun context => context.traceId.toString) = some r.traceId

/-- The trace id of the scope at an address. -/
def traceAt (d : ι → Process) (x : ι × ℕ) : Option String :=
  ((scope? d x).bind Scope.context?).map fun context => context.traceId.toString

/-- The trace id goes from a segment to all that refer to it. -/
lemma RefersTo.traceAt_eq (hb : b64.Lawful) (hdistinct : Distinct d)
    (hadopts : Along (step b64 reporters) (Adopts b64) (start reporters clocks) es)
    (hsettles : ∀ x, SettlesTrace (callsAt x es)) (h : RefersTo b64 reporters d x y) :
    traceAt d x = traceAt d y := by
  obtain ⟨r, s, s', hreceived, hx, hy, k, injection, hp, hreads⟩ :=
    h.received hrun hunmoved hgenuine hb hdistinct
  have hsender : s'.context?.map (fun context => context.traceId.toString) = some r.traceId := by
    obtain ⟨draw, current, -, -, hscope⟩ := scope_at hrun hunmoved hy
    exact traceId_of_injected hb hscope (hsettles y) hp hreads
  have hreceiver : s.context?.map (fun context => context.traceId.toString) = some r.traceId := by
    cases hreceived with
    | @intro es₁ es₂ op d₁ s₁ value events before scope takes sent reads =>
        have hthen := hadopts es₁ _ es₂ d₁ events before x.2 op value r s₁ rfl takes reads scope
        have hcalls := hsettles x
        subst events
        have hscope := scope_cut before hrun hunmoved scope hx
        rw [callsAt_cons_call] at hscope
        rw [callsAt_append, callsAt_cons_call] at hcalls
        have hkeeps := hcalls.traceId_eq (Or.inl (by rw [takes]; simp)) hscope
        rw [← hthen]
        simpa only [Option.map_map, Function.comp_def] using
          congrArg (Option.map ID.toString) hkeeps
  rw [traceAt, traceAt, hx, hy]
  exact hreceiver.trans hsender.symm

/-- **All that is connected by references has one trace id**: in every run of a deployment in which
no span is moved to another scope, every header kept is genuine and is kept under the trace id in
it, and every program settles its trace id before its first header, two reported segments that are
connected by references in any direction have the same trace id. -/
theorem one_trace (hb : b64.Lawful) (hdistinct : Distinct d)
    (hadopts : Along (step b64 reporters) (Adopts b64) (start reporters clocks) es)
    (hsettles : ∀ x, SettlesTrace (callsAt x es))
    (hconnected : Relation.EqvGen (RefersTo b64 reporters d) x y) (hx : scope? d x = some s)
    (hy : scope? d y = some s') (hreported : context ∈ s.reported)
    (hreported' : context' ∈ s'.reported) :
    (Reporter.genSegment b64 context (reporters x.1).workerConfig).traceId
      = (Reporter.genSegment b64 context' (reporters y.1).workerConfig).traceId := by
  have hsame : traceAt d x = traceAt d y := by
    clear hx hy
    induction hconnected with
    | rel x y h => exact h.traceAt_eq hrun hunmoved hgenuine hb hdistinct hadopts hsettles
    | refl x => rfl
    | symm x y _ ih => exact ih.symm
    | trans x y z _ _ ih ih' => exact ih.trans ih'
  have hcontext : s.context? = some context := by
    obtain ⟨draw, current, -, hnew, hscope⟩ := scope_at hrun hunmoved hx
    exact context?_of_reported hnew hscope hreported
  have hcontext' : s'.context? = some context' := by
    obtain ⟨draw, current, -, hnew, hscope⟩ := scope_at hrun hunmoved hy
    exact context?_of_reported hnew hscope hreported'
  rw [traceAt, traceAt, hx, hy, Option.bind_some, Option.bind_some, hcontext, hcontext'] at hsame
  exact Option.some.inj hsame

end Run

/-! ### The trace of two processes -/

/-- Two addresses in the deployment of the two processes, if there are scopes at them. -/
lemma eq_of_scope?_demo {d : Bool → Process} {t t' s : Scope} (hs : (d true).scopes = [t])
    (hs' : (d false).scopes = [t']) {x : Bool × ℕ} (hx : scope? d x = some s) :
    x = (true, 0) ∧ s = t ∨ x = (false, 0) ∧ s = t' := by
  obtain ⟨i, n⟩ := x
  rw [scope?] at hx
  cases i with
  | true =>
      rw [hs, List.getElem?_singleton] at hx
      split_ifs at hx with hn
      exact Or.inl ⟨by rw [show n = 0 from hn], (Option.some.inj hx).symm⟩
  | false =>
      rw [hs', List.getElem?_singleton] at hx
      split_ifs at hx with hn
      exact Or.inr ⟨by rw [show n = 0 from hn], (Option.some.inj hx).symm⟩

/-- Two scopes whose contexts have different segment ids are distinct. -/
lemma distinct_demo {d : Bool → Process} (hs : (d true).scopes = [s])
    (hs' : (d false).scopes = [s']) (hcontext : s.context? = some context)
    (hcontext' : s'.context? = some context')
    (hne : context.segmentId ≠ context'.segmentId) : Distinct d := by
  intro x y t t' c c' ht ht' hc hc' hsame
  rcases eq_of_scope?_demo hs hs' ht with ⟨rfl, rfl⟩ | ⟨rfl, rfl⟩ <;>
    rcases eq_of_scope?_demo hs hs' ht' with ⟨rfl, rfl⟩ | ⟨rfl, rfl⟩
  · rfl
  · obtain rfl := Option.some.inj (hc.symm.trans hcontext)
    obtain rfl := Option.some.inj (hc'.symm.trans hcontext')
    exact absurd hsame hne
  · obtain rfl := Option.some.inj (hc.symm.trans hcontext')
    obtain rfl := Option.some.inj (hc'.symm.trans hcontext)
    exact absurd hsame.symm hne
  · rfl

/-- The second segment refers to the first one, and their ids are distinct. -/
lemma exists_refersTo_demo : ∃ d s s' context context',
    run (step .standard demoReporters) (start demoReporters fun _ => 0) demoTrace = some d
      ∧ Distinct d ∧ scope? d (true, 0) = some s ∧ scope? d (false, 0) = some s'
      ∧ s.reported = [context] ∧ s'.reported = [context']
      ∧ RefersTo .standard demoReporters d (false, 0) (true, 0) := by
  obtain ⟨d, s, s', context, context', span, hrun, hs, hs', hreported, hreported', hcontext,
    hcontext', hid, hid', -, hspans, htags⟩ := exists_trace_demo
  obtain ⟨r, hr, -, -, hsegment⟩ := exists_reference_demo
  have hx : scope? d (true, 0) = some s := by rw [scope?, hs]; rfl
  have hx' : scope? d (false, 0) = some s' := by rw [scope?, hs']; rfl
  refine ⟨d, s, s', context, context', hrun,
    distinct_demo hs hs' hcontext hcontext' (by rw [hid, hid']; decide), hx, hx', hreported,
    hreported', ?_⟩
  have hspan : Reporter.spanObject .standard span
      ∈ (Reporter.genSegment .standard context' (demoReporters false).workerConfig).spans := by
    rw [Reporter.genSegment, hspans]
    exact List.mem_singleton_self _
  have href : r ∈ (Reporter.spanObject .standard span).refs := by
    simp [Reporter.spanObject, htags, parentKey, hr]
  have hmem : context' ∈ s'.reported := by rw [hreported']; exact List.mem_singleton_self _
  refine .intro hx' hmem hx hcontext hspan href ?_
  rw [hsegment, Reporter.genSegment, hid]

/-- A scope in each of two processes of one instance id, entered in the same millisecond and with
the same random word for the segment. -/
def twinEvents : List (Bool × ProcessEvent) :=
  [(true, .enter ⟨1, ⟨10 ^ 9⟩⟩ ⟨2, ⟨10 ^ 9⟩⟩), (false, .enter ⟨3, ⟨10 ^ 9⟩⟩ ⟨2, ⟨10 ^ 9 + 300000⟩⟩)]

theorem segmentId_text_eq_iff_demo :
    (∃ d s s' context context',
      run (step .standard demoReporters) (start demoReporters fun _ => 0) demoTrace = some d
        ∧ scope? d (true, 0) = some s ∧ scope? d (false, 0) = some s'
        ∧ s.context? = some context ∧ s'.context? = some context'
        ∧ context.segmentId.toString ≠ context'.segmentId.toString)
      ∧ ∃ d s s' context context',
        run (step .standard demoReporters) (start demoReporters fun _ => 0) twinEvents = some d
          ∧ scope? d (true, 0) = some s ∧ scope? d (false, 0) = some s'
          ∧ s.context? = some context ∧ s'.context? = some context'
          ∧ context.segmentId.toString = context'.segmentId.toString := by
  constructor
  · obtain ⟨d, s, s', context, context', -, hrun, hs, hs', -, -, hcontext, hcontext', -⟩ :=
      exists_trace_demo
    have hx : scope? d (true, 0) = some s := by rw [scope?, hs]; rfl
    have hx' : scope? d (false, 0) = some s' := by rw [scope?, hs']; rfl
    refine ⟨d, s, s', context, context', hrun, hx, hx', hcontext, hcontext', fun htext => ?_⟩
    obtain ⟨-, draw, draw', n, n', hdraw, hdraw', hrandom, -⟩ :=
      (segmentId_text_eq_iff hrun unmoved_demo hx hx' hcontext hcontext').mp htext
    obtain rfl : (⟨1, ⟨10 ^ 9⟩⟩, ⟨2, ⟨10 ^ 9⟩⟩) = draw := Option.some.inj hdraw
    obtain rfl : (⟨3, ⟨10 ^ 9⟩⟩, ⟨4, ⟨10 ^ 9⟩⟩) = draw' := Option.some.inj hdraw'
    exact absurd hrandom (by decide)
  · obtain ⟨d, s, s', context, context', hrun, hx, hx', hcontext, hcontext'⟩ :
        ∃ d s s' context context',
          run (step .standard demoReporters) (start demoReporters fun _ => 0) twinEvents = some d
            ∧ scope? d (true, 0) = some s ∧ scope? d (false, 0) = some s'
            ∧ s.context? = some context ∧ s'.context? = some context' :=
      ⟨_, _, _, _, _, rfl, rfl, rfl, rfl, rfl⟩
    have hunmoved : Unmoved twinEvents := by
      simp [Unmoved, twinEvents, ProcessEvent.Meddles]
    refine ⟨d, s, s', context, context', hrun, hx, hx', hcontext, hcontext', ?_⟩
    exact (segmentId_text_eq_iff hrun hunmoved hx hx' hcontext hcontext').mpr
      ⟨rfl, _, _, 1000, 1000, rfl, rfl, rfl, rfl, rfl, rfl⟩

/-- The scopes of two processes send a header each. -/
def demoSenders : List (Bool × ProcessEvent) :=
  [(true, .enter ⟨1, ⟨10 ^ 9⟩⟩ ⟨2, ⟨10 ^ 9⟩⟩), (false, .enter ⟨3, ⟨10 ^ 9⟩⟩ ⟨4, ⟨10 ^ 9⟩⟩),
    (true, .call 0 (.tracingExit "pick" "10.0.0.2:80" .rpc true ⟨0⟩)),
    (false, .call 0 (.tracingExit "pick" "10.0.0.2:80" .rpc true ⟨0⟩))]

theorem one_sender_demo : ∃ d s s' injection injection',
    run (step .standard demoReporters) (start demoReporters fun _ => 0) demoSenders = some d
      ∧ scope? d (true, 0) = some s ∧ scope? d (false, 0) = some s'
      ∧ (0, injection) ∈ s.injected ∧ (0, injection') ∈ s'.injected
      ∧ injection.value ≠ injection'.value := by
  obtain ⟨d, s, s', context, context', injection, injection', hrun, hs, hs', hcontext, hcontext',
    hid, hid', hissued, hissued', hsent, hsent'⟩ : ∃ d s s' context context' injection injection',
      run (step .standard demoReporters) (start demoReporters fun _ => 0) demoSenders = some d
        ∧ (d true).scopes = [s] ∧ (d false).scopes = [s']
        ∧ s.context? = some context ∧ s'.context? = some context'
        ∧ context.segmentId = ID.new 7 2 1000 ∧ context'.segmentId = ID.new 7 4 1000
        ∧ s.issued.length = 1 ∧ s'.issued.length = 1
        ∧ s.injected = [(0, injection)] ∧ s'.injected = [(0, injection')] :=
    ⟨_, _, _, _, _, _, _, rfl, rfl, rfl, rfl, rfl, rfl, rfl, rfl, rfl, rfl, rfl⟩
  have hx : scope? d (true, 0) = some s := by rw [scope?, hs]; rfl
  have hy : scope? d (false, 0) = some s' := by rw [scope?, hs']; rfl
  have hmem : (0, injection) ∈ s.injected := by rw [hsent]; exact List.mem_singleton_self _
  have hmem' : (0, injection') ∈ s'.injected := by rw [hsent']; exact List.mem_singleton_self _
  have hunmoved : Unmoved demoSenders := by
    simp [Unmoved, demoSenders, ProcessEvent.Meddles]
  refine ⟨d, s, s', injection, injection', hrun, hx, hy, hmem, hmem', fun hvalue => ?_⟩
  obtain ⟨hsame, -⟩ := (one_sender hrun hunmoved Base64.standard_lawful
    (distinct_demo hs hs' hcontext hcontext' (by rw [hid, hid']; decide)) hx hy
    (by rw [hissued]; norm_num) (by rw [hissued']; norm_num) hmem hmem').mp hvalue
  exact absurd hsame (by simp)

theorem trace_acyclic_demo : ∃ d a b,
    run (step .standard demoReporters) (start demoReporters fun _ => 0) demoTrace = some d
      ∧ Parent .standard demoReporters d ((false, 0), a) ((true, 0), b)
      ∧ ¬ Relation.TransGen (Parent .standard demoReporters d) ((true, 0), b) ((true, 0), b) := by
  obtain ⟨d, s, s', context, context', hrun, hdistinct, -, -, -, -, hrefers⟩ :=
    exists_refersTo_demo
  obtain ⟨d₁, t, t', hsending, -, hs', -, hinjected, -⟩ := exists_sending_demo
  have hfirst : Along (step .standard demoReporters) TakesFirst (start demoReporters fun _ => 0)
      demoTrace := by
    refine along_demo hsending ?_ ?_
    · intro e hquiet d a op s he htakes
      exact absurd (hquiet a op he) htakes
    · intro a op s he _ hs
      cases he
      rw [scope?, show demoKeeping.1 = false from rfl, hs'] at hs
      obtain rfl : t' = s := Option.some.inj hs
      exact hinjected
  have hmax : ∀ x s, scope? d x = some s → s.issued.length ≤ 2 ^ 31 := fun x s hx =>
    (issued_length_le hrun unmoved_demo hx).trans (by decide)
  cases hrefers with
  | intro source reported target parent span ref names =>
      exact ⟨d, _, _, hrun, .across source reported target parent span ref names,
        trace_acyclic hrun unmoved_demo genuine_demo Base64.standard_lawful hdistinct hfirst hmax _⟩

theorem one_trace_demo : ∃ d s s' context context',
    run (step .standard demoReporters) (start demoReporters fun _ => 0) demoTrace = some d
      ∧ scope? d (true, 0) = some s ∧ scope? d (false, 0) = some s'
      ∧ context ∈ s.reported ∧ context' ∈ s'.reported
      ∧ (Reporter.genSegment .standard context' (demoReporters false).workerConfig).traceId
        = (Reporter.genSegment .standard context (demoReporters true).workerConfig).traceId := by
  obtain ⟨d, s, s', context, context', hrun, hdistinct, hx, hx', hreported, hreported', hrefers⟩ :=
    exists_refersTo_demo
  obtain ⟨d₁, t, t', hsending, -, hs', -, -, htrace⟩ := exists_sending_demo
  obtain ⟨r, hr, htraceId, -⟩ := exists_reference_demo
  have hadopts : Along (step .standard demoReporters) (Adopts .standard)
      (start demoReporters fun _ => 0) demoTrace := by
    refine along_demo hsending ?_ ?_
    · intro e hquiet d a op value r s he htakes
      exact absurd htakes (by rw [hquiet a op he]; simp)
    · intro a op value r' s he htakes hr' hs
      cases he
      obtain rfl : demoHeader = value := by simpa [Op.takes?] using htakes
      obtain rfl : r = r' := Option.some.inj (hr.symm.trans hr')
      rw [scope?, show demoKeeping.1 = false from rfl, hs'] at hs
      obtain rfl : t' = s := Option.some.inj hs
      obtain ⟨c, hc, hid⟩ := Option.map_eq_some_iff.mp htrace
      rw [hc, Option.map_some, hid, htraceId]
  have hsettles : ∀ x, SettlesTrace (callsAt x demoTrace) := by
    rintro ⟨_ | _, _ | n⟩
    · exact ⟨[.changeTraceId (ID.new 7 1 1000)], [.tracingEntry "/pick" .http ⟨0⟩,
        .onSpan 0 (.tag ⟨parentKey, demoHeader⟩), .finishSpan 0 ⟨0⟩ ⟨0⟩], rfl,
        by simp [Op.takes?, Op.Sends], by simp⟩
    · exact ⟨[], [], rfl, by simp, by simp⟩
    · exact ⟨[], [.tracingExit "pick" "10.0.0.2:80" .rpc true ⟨0⟩, .finishSpan 0 ⟨0⟩ ⟨0⟩], rfl,
        by simp, by simp⟩
    · exact ⟨[], [], rfl, by simp, by simp⟩
  have hcontext : context ∈ s.reported := by rw [hreported]; exact List.mem_singleton_self _
  have hcontext' : context' ∈ s'.reported := by rw [hreported']; exact List.mem_singleton_self _
  exact ⟨d, s, s', context, context', hrun, hx, hx', hcontext, hcontext', one_trace hrun
    unmoved_demo genuine_demo Base64.standard_lawful hdistinct hadopts hsettles (.rel _ _ hrefers)
    hx' hx hcontext' hcontext⟩

end Deployment

end Skywalking
