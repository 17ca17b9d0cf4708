import Skywalking.Isolation
import Skywalking.Machine.Product
import Skywalking.Scope.Propagation

/-!
A deployment: any number of processes with their reporters, whose events are interleaved in any
way, and the headers that go from one to the other.

Nothing in the library carries a header: the program of an exit span sends what the injector was
given, and the program that receives it keeps it in a tag. So a header may be lost, may arrive
late or many times and in any process; it is `Genuine` if it was sent before it is kept.

* `Deployment.step`, `start`: the machine. A scope has an address, its process and its number
  there; `callsAt` is what was called in it.
* `scope_at`, `scope_cut`: a scope makes a run of its own, and goes on with it.
* `received_of_ref`: where a reference of a reported segment comes from.
* `references_lead_back`: **every reference leads back** to the exit span that has sent it.
-/

namespace Skywalking

open RustStd Machine

namespace ProcessEvent

lemma mem_callsOf {i : ℕ} {op : Op} {es : List ProcessEvent} :
    op ∈ callsOf i es ↔ .call i op ∈ es := by
  rw [callsOf, List.mem_filterMap]
  constructor
  · rintro ⟨e, he, h⟩
    cases e with
    | call j o =>
        rw [call?] at h
        split_ifs at h with hj
        obtain rfl := Option.some.inj h
        exact hj ▸ he
    | _ => cases h
  · intro he
    exact ⟨_, he, if_pos rfl⟩

lemma enters_append (es es' : List ProcessEvent) :
    enters (es ++ es') = enters es ++ enters es' := List.filterMap_append

lemma callsOf_append (i : ℕ) (es es' : List ProcessEvent) :
    callsOf i (es ++ es') = callsOf i es ++ callsOf i es' := List.filterMap_append

end ProcessEvent

/-- A scope among several is exchanged for one that has sent the same headers, or more. -/
lemma getElem?_set_grows {scopes : List Scope} {i j : ℕ} {s t t' : Scope}
    (hi : scopes[i]? = some s) (hj : scopes[j]? = some t) (ht : t.injected <+: t'.injected) :
    ∃ s', (scopes.set j t')[i]? = some s' ∧ s.injected <+: s'.injected := by
  by_cases hji : j = i
  · subst hji
    obtain rfl := Option.some.inj (hi.symm.trans hj)
    exact ⟨t', List.getElem?_set_self (List.getElem?_eq_some_iff.mp hi).1, ht⟩
  · rw [List.getElem?_set_ne hji]
    exact ⟨s, hi, List.prefix_rfl⟩

/-- No event takes a header back from a scope. -/
lemma Process.injected_grows {b64 : Base64} {reporter : Reporter} {p p' : Process}
    {e : ProcessEvent} (hs : p.step b64 reporter e = some p') {i : ℕ} {s : Scope}
    (hi : p.scopes[i]? = some s) :
    ∃ s', p'.scopes[i]? = some s' ∧ s.injected <+: s'.injected := by
  cases Process.scope_step hs with
  | enter new scopes =>
      rw [scopes, List.getElem?_append_left (List.getElem?_eq_some_iff.mp hi).1]
      exact ⟨s, hi, List.prefix_rfl⟩
  | @call j op t t' scope step scopes =>
      rw [scopes]
      exact getElem?_set_grows hi scope (Scope.step_cases step).injected_grows
  | @moved k j₁ j₂ now now' a b span source held target ne scopes =>
      have ha : a.injected <+: ({ a with held := a.held.set k none } : Scope).injected :=
        List.prefix_rfl
      have hb : b.injected <+: (b.finishForeign span now now').injected := List.prefix_rfl
      obtain ⟨s₁, hs₁, hgrows₁⟩ := getElem?_set_grows hi source ha
      rw [← List.getElem?_set_ne ne] at target
      obtain ⟨s₂, hs₂, hgrows₂⟩ := getElem?_set_grows hs₁ target hb
      rw [scopes]
      exact ⟨s₂, hs₂, hgrows₁.trans hgrows₂⟩
  | same enter call scopes =>
      rw [scopes]
      exact ⟨s, hi, List.prefix_rfl⟩

namespace Deployment

variable {ι : Type*} [DecidableEq ι] {b64 : Base64} {reporters : ι → Reporter}
  {clocks : ι → Instant} {es es₁ es₂ : List (ι × ProcessEvent)} {d d₁ : ι → Process} {x y : ι × ℕ}
  {s s₁ : Scope}

/-- The processes before the first event. -/
def start (reporters : ι → Reporter) (clocks : ι → Instant) (i : ι) : Process :=
  Process.start (reporters i) (clocks i)

/-- One event of one of the processes. -/
def step (b64 : Base64) (reporters : ι → Reporter) :
    (ι → Process) → ι × ProcessEvent → Option (ι → Process) :=
  product fun i => Process.step b64 (reporters i)

/-- The scope at an address. -/
def scope? (d : ι → Process) (x : ι × ℕ) : Option Scope := (d x.1).scopes[x.2]?

/-- The calls made in the scope at an address, in order. -/
def callsAt (x : ι × ℕ) (es : List (ι × ProcessEvent)) : List Op :=
  ProcessEvent.callsOf x.2 (on x.1 es)

/-- No span is moved from one scope to another. -/
def Unmoved (es : List (ι × ProcessEvent)) : Prop := ∀ e ∈ es, ∀ i, ¬ e.2.Meddles i

lemma mem_callsAt {op : Op} : op ∈ callsAt x es ↔ (x.1, .call x.2 op) ∈ es := by
  rw [callsAt, ProcessEvent.mem_callsOf, mem_on]

lemma callsAt_append : callsAt x (es₁ ++ es₂) = callsAt x es₁ ++ callsAt x es₂ := by
  rw [callsAt, on_append, ProcessEvent.callsOf_append]
  rfl

lemma callsAt_cons_call {op : Op} : callsAt x ((x.1, .call x.2 op) :: es) = op :: callsAt x es := by
  rw [← List.singleton_append, callsAt_append, callsAt, on_singleton_self, ProcessEvent.callsOf,
    List.filterMap_cons, ProcessEvent.call?, if_pos rfl]
  rfl

/-! ### The runs of the scopes -/

/-- A scope of a deployment makes a run of its own. -/
theorem scope_at (hrun : run (step b64 reporters) (start reporters clocks) es = some d)
    (hunmoved : Unmoved es) (hx : scope? d x = some s) :
    ∃ draw current, (ProcessEvent.enters (on x.1 es))[x.2]? = some draw
      ∧ CurrentTracingContext.new (reporters x.1).config draw.1 draw.2 = .ok current
      ∧ run (Scope.step b64) (Scope.enter current) (callsAt x es) = some s :=
  Process.scope_of_run (run_product hrun x.1) hx fun _ he => hunmoved _ (mem_on.mp he) x.2

/-- A scope of a deployment goes on with its run. -/
lemma scope_cut (hrun₁ : run (step b64 reporters) (start reporters clocks) es₁ = some d₁)
    (hrun : run (step b64 reporters) (start reporters clocks) (es₁ ++ es₂) = some d)
    (hunmoved : Unmoved (es₁ ++ es₂)) (hx₁ : scope? d₁ x = some s₁) (hx : scope? d x = some s) :
    run (Scope.step b64) s₁ (callsAt x es₂) = some s := by
  obtain ⟨draw, current, hdraw, hnew, hscope⟩ := scope_at hrun hunmoved hx
  obtain ⟨draw₁, current₁, hdraw₁, hnew₁, hscope₁⟩ :=
    scope_at hrun₁ (fun e he => hunmoved e (List.mem_append_left _ he)) hx₁
  have hsame : draw = draw₁ := by
    rw [on_append, ProcessEvent.enters_append, List.getElem?_append_left
      (List.getElem?_eq_some_iff.mp hdraw₁).1] at hdraw
    exact Option.some.inj (hdraw.symm.trans hdraw₁)
  subst hsame
  obtain rfl : current = current₁ := Except.ok.inj (hnew.symm.trans hnew₁)
  rw [callsAt_append, run_append_eq_some] at hscope
  obtain ⟨s', hs', hrest⟩ := hscope
  obtain rfl := Option.some.inj (hscope₁.symm.trans hs')
  exact hrest

/-! ### Headers on their way -/

/-- The scope at `y` has sent a header. -/
def HasSent (y : ι × ℕ) (d : ι → Process) : Prop :=
  ∃ s, scope? d y = some s ∧ s.injected ≠ []

/-- The scope at `y` has sent the header `value`. -/
def Sent (value : String) (y : ι × ℕ) (d : ι → Process) : Prop :=
  ∃ s, scope? d y = some s ∧ ∃ p ∈ s.injected, p.2.value = value

omit [DecidableEq ι] in
lemma Sent.hasSent {value : String} (h : Sent value y d) : HasSent y d := by
  obtain ⟨s, hs, p, hp, -⟩ := h
  exact ⟨s, hs, List.ne_nil_of_mem hp⟩

lemma injected_grows {d' : ι → Process} {e : ι × ProcessEvent}
    (hs : step b64 reporters d e = some d') (hx : scope? d x = some s) :
    ∃ s', scope? d' x = some s' ∧ s.injected <+: s'.injected := by
  obtain ⟨i, e⟩ := e
  obtain ⟨p, hp, rfl⟩ := product_eq_some.mp hs
  rw [scope?]
  by_cases hi : x.1 = i
  · subst hi
    rw [Function.update_self]
    exact Process.injected_grows hp hx
  · rw [Function.update_of_ne hi]
    exact ⟨s, hx, List.prefix_rfl⟩

/-- What was sent once was sent. -/
lemma HasSent.step {d' : ι → Process} {e : ι × ProcessEvent} (h : HasSent y d)
    (hs : step b64 reporters d e = some d') : HasSent y d' := by
  obtain ⟨s, hy, hne⟩ := h
  obtain ⟨s', hy', hgrows⟩ := injected_grows hs hy
  exact ⟨s', hy', List.ne_nil_of_length_pos (lt_of_lt_of_le
    (List.length_pos_iff.mpr hne) hgrows.length_le)⟩

lemma Sent.step {value : String} {d' : ι → Process} {e : ι × ProcessEvent} (h : Sent value y d)
    (hs : Deployment.step b64 reporters d e = some d') : Sent value y d' := by
  obtain ⟨s, hy, p, hp, hvalue⟩ := h
  obtain ⟨s', hy', hgrows⟩ := injected_grows hs hy
  exact ⟨s', hy', p, hgrows.subset hp, hvalue⟩

/-- A program keeps no header that no scope has sent. -/
def Genuine (d : ι → Process) (e : ι × ProcessEvent) : Prop :=
  ∀ a op value, e.2 = .call a op → op.takes? = some value → ∃ y, Sent value y d

/-- The scope at `x` has kept the header that reads as `r`; the scope at `y` had sent it
before, when the processes were in the states `d₁` and the scope at `x` in the state `s₁`. -/
inductive Received (b64 : Base64) (reporters : ι → Reporter) (clocks : ι → Instant)
    (es : List (ι × ProcessEvent)) (x y : ι × ℕ) (r : SegmentReference) : Prop
  | intro {es₁ es₂ : List (ι × ProcessEvent)} {op : Op} {d₁ : ι → Process} {s₁ : Scope}
      {value : String} (events : es = es₁ ++ (x.1, .call x.2 op) :: es₂)
      (before : run (step b64 reporters) (start reporters clocks) es₁ = some d₁)
      (scope : scope? d₁ x = some s₁) (takes : op.takes? = some value)
      (sent : Sent value y d₁) (reads : SegmentReference.fromText b64 value = some r)

section Run

variable (hrun : run (step b64 reporters) (start reporters clocks) es = some d)
  (hunmoved : Unmoved es)
  (hgenuine : Along (step b64 reporters) Genuine (start reporters clocks) es)

include hrun hunmoved hgenuine

/-- **Where a reference comes from**: the program of its scope has received it from a scope that
had sent it before. -/
theorem received_of_ref (hx : scope? d x = some s) {context : TracingContext}
    (hcontext : context ∈ s.reported) {workerConfig : Config} {object : SpanObject}
    (hobject : object ∈ (Reporter.genSegment b64 context workerConfig).spans)
    {r : SegmentReference} (hr : r ∈ object.refs) :
    ∃ y, Received b64 reporters clocks es x y r := by
  obtain ⟨draw, current, -, hnew, hscope⟩ := scope_at hrun hunmoved hx
  obtain ⟨op, hop, value, htakes, hreads⟩ :=
    Scope.exists_takes_of_ref hnew hscope hcontext hobject hr
  obtain ⟨es₁, es₂, rfl⟩ := List.append_of_mem (mem_callsAt.mp hop)
  obtain ⟨d₁, hrun₁, hrest⟩ := run_append_eq_some.mp hrun
  obtain ⟨y, hsent⟩ := hgenuine es₁ _ es₂ d₁ rfl hrun₁ _ op value rfl htakes
  -- the call was made in a scope
  obtain ⟨d₂, hs, -⟩ := run_cons_eq_some.mp hrest
  obtain ⟨p, hp, -⟩ := product_eq_some.mp hs
  obtain ⟨s₁, hs₁, -⟩ := Option.bind_eq_some_iff.mp hp
  exact ⟨y, .intro rfl hrun₁ hs₁ htakes hsent hreads⟩

omit hgenuine in
/-- What was received names the scope that has sent it, also later on. -/
lemma Received.names (hb : b64.Lawful) {r : SegmentReference}
    (h : Received b64 reporters clocks es x y r) :
    ∃ s' k, scope? d y = some s' ∧ (∃ injection, (k, injection) ∈ s'.injected
        ∧ SegmentReference.fromText b64 injection.value = some r)
      ∧ r.Names (reporters y.1).config s' k := by
  cases h with
  | @intro es₁ es₂ op d₁ s₁ value events before scope takes sent reads =>
      rw [events, run_append_eq_some] at hrun
      obtain ⟨d₁', before', hrest⟩ := hrun
      obtain rfl := Option.some.inj (before.symm.trans before')
      obtain ⟨s', hy, ⟨k, injection⟩, hp, rfl⟩ : Sent value y d :=
        run_invariant (P := Sent value y) (fun _ _ _ h hs => h.step hs) sent hrest
      have hrun' : run (step b64 reporters) (start reporters clocks) es = some d := by
        rw [events]
        exact run_append_eq_some.mpr ⟨d₁, before, hrest⟩
      obtain ⟨draw, current, -, hnew, hscope⟩ := scope_at hrun' hunmoved hy
      exact ⟨s', k, hy, ⟨injection, hp, reads⟩, names_of_injected hb hnew hscope hp reads⟩

/-- **Every reference leads back**: in every run of a deployment in which no span is moved to
another scope and every header kept is genuine, each reference in a reported segment names a
scope of the deployment that had sent it before it was received, and an exit span of this scope.
If that span was finished no later than the first one of its scope, which has at most `2^31` spans,
the segment reported for the scope has exactly one object with the id in the reference, the one of
the exit span. -/
theorem references_lead_back (hb : b64.Lawful) (hx : scope? d x = some s)
    {context : TracingContext} (hcontext : context ∈ s.reported) {workerConfig : Config}
    {object : SpanObject}
    (hobject : object ∈ (Reporter.genSegment b64 context workerConfig).spans)
    {r : SegmentReference} (hr : r ∈ object.refs) :
    ∃ y s' k, Received b64 reporters clocks es x y r ∧ scope? d y = some s'
      ∧ r.Names (reporters y.1).config s' k
      ∧ ∀ ops t t' ops', callsAt y es = ops ++ .finishSpan 0 t t' :: ops' →
          s'.issued.length ≤ 2 ^ 31 →
          k ∈ (ops ++ [Op.finishSpan 0 t t']).filterMap Op.finishes →
          ∃ context' object', s'.reported = [context']
            ∧ (Reporter.genSegment b64 context' (reporters y.1).workerConfig).traceSegmentId
                = r.parentTraceSegmentId
            ∧ (Reporter.genSegment b64 context' (reporters y.1).workerConfig).spans.filter
                (·.spanId = r.parentSpanId) = [object']
            ∧ object'.spanType = SpanType.exit.code := by
  obtain ⟨y, hreceived⟩ := received_of_ref hrun hunmoved hgenuine hx hcontext hobject hr
  obtain ⟨s', k, hy, -, hnames⟩ := hreceived.names hrun hunmoved hb
  refine ⟨y, s', k, hreceived, hy, hnames, fun ops t t' ops' hcalls hmax hfinish => ?_⟩
  obtain ⟨draw, current, -, hnew, hscope⟩ := scope_at hrun hunmoved hy
  rw [hcalls] at hscope
  exact hnames.exists_spanObject hnew hscope hmax hfinish (reporters y.1).workerConfig

end Run

/-! ### Two processes -/

/-- The two processes of a deployment: the one at `true` calls the one at `false`. -/
def demoReporters (i : Bool) : Reporter where
  channel := { capacity := 2, queue := [] }
  config := { Config.demo with serviceName := if i then "orders" else "store" }
  workerConfig := { Config.demo with serviceName := if i then "orders" else "store" }

/-- The header of the exit span of the first process. -/
def demoHeader : String :=
  (WorkingContext.exitRef ⟨{ TracingContext.demo with service := "orders" }, []⟩ "pick"
    "10.0.0.2:80" .rpc).serialize .standard

/-- A scope in each process; the second one adopts the trace of the first one. -/
def demoSending : List (Bool × ProcessEvent) :=
  [(true, .enter ⟨1, ⟨10 ^ 9⟩⟩ ⟨2, ⟨10 ^ 9⟩⟩), (false, .enter ⟨3, ⟨10 ^ 9⟩⟩ ⟨4, ⟨10 ^ 9⟩⟩),
    (true, .call 0 (.tracingExit "pick" "10.0.0.2:80" .rpc true ⟨0⟩)),
    (false, .call 0 (.changeTraceId (ID.new 7 1 1000))),
    (false, .call 0 (.tracingEntry "/pick" .http ⟨0⟩))]

/-- The second scope keeps the header. -/
def demoKeeping : Bool × ProcessEvent :=
  (false, .call 0 (.onSpan 0 (.tag ⟨parentKey, demoHeader⟩)))

/-- Both scopes finish their spans. -/
def demoFinishing : List (Bool × ProcessEvent) :=
  [(true, .call 0 (.finishSpan 0 ⟨0⟩ ⟨0⟩)), (false, .call 0 (.finishSpan 0 ⟨0⟩ ⟨0⟩))]

/-- The events of both. -/
def demoTrace : List (Bool × ProcessEvent) := demoSending ++ demoKeeping :: demoFinishing

/-- The state before the header is kept. -/
lemma exists_sending_demo : ∃ d s s',
    run (step .standard demoReporters) (start demoReporters fun _ => 0) demoSending = some d
      ∧ (d true).scopes = [s] ∧ (d false).scopes = [s']
      ∧ s.injected = [(0, ⟨"sw8", demoHeader⟩)] ∧ s'.injected = []
      ∧ s'.context?.map TracingContext.traceId = some (ID.new 7 1 1000) :=
  ⟨_, _, _, rfl, rfl, rfl, rfl, rfl, rfl⟩

/-- The state in the end. -/
lemma exists_trace_demo : ∃ d s s' context context' span,
    run (step .standard demoReporters) (start demoReporters fun _ => 0) demoTrace = some d
      ∧ (d true).scopes = [s] ∧ (d false).scopes = [s']
      ∧ s.reported = [context] ∧ s'.reported = [context']
      ∧ s.context? = some context ∧ s'.context? = some context'
      ∧ context.segmentId = ID.new 7 2 1000 ∧ context'.segmentId = ID.new 7 4 1000
      ∧ s.issued.length = 1
      ∧ context'.finishedSpans = [span] ∧ span.tags = [⟨parentKey, demoHeader⟩] :=
  ⟨_, _, _, _, _, _, rfl, rfl, rfl, rfl, rfl, rfl, rfl, rfl, rfl, rfl, rfl, rfl⟩

/-- What the header reads as. -/
lemma exists_reference_demo : ∃ r, SegmentReference.fromText .standard demoHeader = some r
    ∧ r.traceId = (ID.new 7 1 1000).toString ∧ r.parentService = "orders"
    ∧ r.parentTraceSegmentId = (ID.new 7 2 1000).toString :=
  ⟨_, fromText_serialize Base64.standard_lawful (by decide), rfl, rfl, rfl⟩

lemma unmoved_demo : Unmoved demoTrace := by
  intro e he i
  simp only [demoTrace, demoSending, demoKeeping, demoFinishing, List.cons_append, List.nil_append,
    List.mem_cons, List.not_mem_nil, or_false] at he
  rcases he with rfl | rfl | rfl | rfl | rfl | rfl | rfl | rfl <;> exact not_false

/-- What holds of events that keep no header holds along the run, if it holds where the second
scope keeps one. -/
lemma along_demo {G : (Bool → Process) → Bool × ProcessEvent → Prop} {d : Bool → Process}
    (hrun : run (step .standard demoReporters) (start demoReporters fun _ => 0) demoSending
      = some d)
    (hquiet : ∀ e, (∀ a op, e.2 = .call a op → op.takes? = none) → ∀ d, G d e)
    (hkeeps : G d demoKeeping) :
    Along (step .standard demoReporters) G (start demoReporters fun _ => 0) demoTrace := by
  have hsending : ∀ e ∈ demoSending, ∀ d, G d e := by
    intro e he
    refine hquiet e ?_
    simp only [demoSending, List.mem_cons, List.not_mem_nil, or_false] at he
    rcases he with rfl | rfl | rfl | rfl | rfl <;> simp [Op.takes?]
  have hfinishing : ∀ e ∈ demoFinishing, ∀ d, G d e := by
    intro e he
    refine hquiet e ?_
    simp only [demoFinishing, List.mem_cons, List.not_mem_nil, or_false] at he
    rcases he with rfl | rfl <;> simp [Op.takes?]
  refine (Along.of_forall hsending).append hrun ?_
  rintro (_ | ⟨e₁, es₁⟩) e es₂ t hes ht
  · obtain rfl : demoKeeping = e := (List.cons_eq_cons.mp hes).1
    obtain rfl : d = t := Option.some.inj ht
    exact hkeeps
  · exact hfinishing e ((List.cons_eq_cons.mp hes).2 ▸ by simp) t

lemma genuine_demo :
    Along (step .standard demoReporters) Genuine (start demoReporters fun _ => 0) demoTrace := by
  obtain ⟨d, s, s', hrun, hs, -, hinjected, -⟩ := exists_sending_demo
  refine along_demo hrun ?_ ?_
  · intro e hquiet d a op value he htakes
    exact absurd htakes (by rw [hquiet a op he]; simp)
  · intro a op value he htakes
    cases he
    obtain rfl : demoHeader = value := by simpa [Op.takes?] using htakes
    refine ⟨(true, 0), s, by rw [scope?, hs]; rfl, (0, ⟨"sw8", demoHeader⟩), ?_, rfl⟩
    rw [hinjected]
    exact List.mem_singleton_self _

/-- The reference in the second segment leads back to the exit span of the first one. -/
theorem references_lead_back_demo : ∃ d s s' context context' object r target,
    run (step .standard demoReporters) (start demoReporters fun _ => 0) demoTrace = some d
      ∧ scope? d (false, 0) = some s' ∧ context' ∈ s'.reported
      ∧ object ∈ (Reporter.genSegment .standard context' Config.demo).spans ∧ r ∈ object.refs
      ∧ scope? d (true, 0) = some s ∧ r.Names (demoReporters true).config s 0
      ∧ s.reported = [context]
      ∧ (Reporter.genSegment .standard context (demoReporters true).workerConfig).spans.filter
          (·.spanId = r.parentSpanId) = [target]
      ∧ target.spanType = SpanType.exit.code := by
  obtain ⟨d, t, s', -, context', span, hrun, ht, hs', -, hreported, -, -, -, -, hone, hspans,
    htags⟩ := exists_trace_demo
  obtain ⟨r, hr, -, hservice, -⟩ := exists_reference_demo
  have hx : scope? d (false, 0) = some s' := by rw [scope?, hs']; rfl
  have hcontext : context' ∈ s'.reported := by rw [hreported]; exact List.mem_singleton_self _
  have hobject : Reporter.spanObject .standard span
      ∈ (Reporter.genSegment .standard context' Config.demo).spans := by
    rw [Reporter.genSegment, hspans]
    exact List.mem_singleton_self _
  have href : r ∈ (Reporter.spanObject .standard span).refs := by
    simp [Reporter.spanObject, htags, parentKey, hr]
  obtain ⟨⟨i, j⟩, s, k, -, hy, hnames, hunique⟩ := references_lead_back hrun unmoved_demo
    genuine_demo Base64.standard_lawful hx hcontext hobject href
  -- the service in the header tells the process, which has one scope with one span
  obtain rfl : i = true := by
    have hname : "orders" = (demoReporters i).config.serviceName :=
      hservice.symm.trans hnames.service
    cases i with
    | true => rfl
    | false => exact absurd hname (by decide)
  obtain ⟨rfl, rfl⟩ : j = 0 ∧ t = s := by
    rw [scope?, ht] at hy
    cases j with
    | zero => exact ⟨rfl, Option.some.inj hy⟩
    | succ j => exact absurd hy (by simp)
  obtain rfl : k = 0 := by
    obtain ⟨exit, hexit, -⟩ := hnames.exit
    have hk := (List.getElem?_eq_some_iff.mp hexit).1
    omega
  obtain ⟨context, target, hfirst, -, hfilter, htype⟩ := hunique
    [.tracingExit "pick" "10.0.0.2:80" .rpc true ⟨0⟩] ⟨0⟩ ⟨0⟩ [] (by decide)
    (by rw [hone]; norm_num) (by decide)
  exact ⟨d, t, s', context, context', _, r, target, hrun, hx, hcontext, hobject, href, hy, hnames,
    hfirst, hfilter, htype⟩

end Deployment

end Skywalking
