import Skywalking.Process

/-!
How far the scopes of a process are isolated from each other.

A scope depends on the draws with which it was entered and on the calls made in it, as long
as no span is moved out of it or into it. What the other scopes do, how their calls are
interleaved with its own, and how far the worker gets makes no difference to it.

* `enters`, `callsOf`: what of the events of a process a scope sees.
* `scope_of_run`: **a scope makes a run of its own**.
* `scopes_isolated`: **non-interference**, between two runs of two processes.
-/

namespace Skywalking

open RustStd Machine

namespace ProcessEvent

/-- The draws with which a scope is entered. -/
def enter? : ProcessEvent → Option (IdDraw × IdDraw)
  | .enter traceDraw segmentDraw => some (traceDraw, segmentDraw)
  | _ => none

/-- The call that is made in the scope `i`. -/
def call? (i : ℕ) : ProcessEvent → Option Op
  | .call j op => if j = i then some op else none
  | _ => none

/-- A span is moved out of the scope `i`, or into it. -/
def Meddles (i : ℕ) : ProcessEvent → Prop
  | .finishForeign _ a b _ _ => a = i ∨ b = i
  | _ => False

/-- The draws with which the scopes are entered, in order. -/
def enters (es : List ProcessEvent) : List (IdDraw × IdDraw) := es.filterMap enter?

/-- The calls made in the scope `i`, in order. -/
def callsOf (i : ℕ) (es : List ProcessEvent) : List Op := es.filterMap (call? i)

lemma enters_concat (es : List ProcessEvent) (e : ProcessEvent) :
    enters (es ++ [e]) = enters es ++ e.enter?.toList := by
  rw [enters, enters, List.filterMap_append]
  cases e <;> rfl

lemma callsOf_concat (i : ℕ) (es : List ProcessEvent) (e : ProcessEvent) :
    callsOf i (es ++ [e]) = callsOf i es ++ (e.call? i).toList := by
  rw [callsOf, callsOf, List.filterMap_append, List.filterMap_cons, List.filterMap_nil]
  cases e.call? i <;> rfl

end ProcessEvent

namespace Process

variable {b64 : Base64} {reporter : Reporter} {p p' : Process} {e : ProcessEvent}

/-! ### What one event does to the scopes -/

lemma scopes_update (p : Process) (i : ℕ) (s s' : Scope) :
    (p.update i s s').scopes = p.scopes.set i s' := (foldl_handOver _ _).1

/-- **What one event does to the scopes**: a scope is entered, a call is made in one, or a span
is moved between two; else nothing changes. -/
inductive ScopeStep (b64 : Base64) (reporter : Reporter) (p p' : Process) : ProcessEvent → Prop
  | enter {traceDraw segmentDraw : IdDraw} {current : CurrentTracingContext}
      (new : CurrentTracingContext.new reporter.config traceDraw segmentDraw = .ok current)
      (scopes : p'.scopes = p.scopes ++ [Scope.enter current]) :
      ScopeStep b64 reporter p p' (.enter traceDraw segmentDraw)
  | call {i : ℕ} {op : Op} {s s' : Scope} (scope : p.scopes[i]? = some s)
      (step : s.step b64 op = some s') (scopes : p'.scopes = p.scopes.set i s') :
      ScopeStep b64 reporter p p' (.call i op)
  | moved {k i j : ℕ} {now now' : SystemTime} {a b : Scope} {span : TracingSpan}
      (source : p.scopes[i]? = some a) (held : a.span? k = some span)
      (target : p.scopes[j]? = some b) (ne : i ≠ j)
      (scopes : p'.scopes = (p.scopes.set i { a with held := a.held.set k none }).set j
        (b.finishForeign span now now')) :
      ScopeStep b64 reporter p p' (.finishForeign k i j now now')
  | same {e : ProcessEvent} (enter : e.enter? = none) (call : ∀ i, e.call? i = none)
      (scopes : p'.scopes = p.scopes) : ScopeStep b64 reporter p p' e

theorem scope_step (hs : p.step b64 reporter e = some p') : ScopeStep b64 reporter p p' e := by
  cases e with
  | enter traceDraw segmentDraw =>
      rw [Process.step] at hs
      split at hs
      · next current hnew =>
          obtain rfl := Option.some.inj hs
          exact .enter hnew rfl
      · exact absurd hs (by simp)
  | call i op =>
      obtain ⟨s, hi, hs⟩ := Option.bind_eq_some_iff.mp hs
      obtain ⟨s', hs', hs⟩ := Option.bind_eq_some_iff.mp hs
      obtain rfl := Option.some.inj hs
      exact .call hi hs' (scopes_update _ _ _ _)
  | finishForeign k i j now now' =>
      obtain ⟨a, hi, hs⟩ := Option.bind_eq_some_iff.mp hs
      obtain ⟨span, hspan, hs⟩ := Option.bind_eq_some_iff.mp hs
      obtain ⟨b, hj, hs⟩ := Option.bind_eq_some_iff.mp hs
      split_ifs at hs with hne
      obtain rfl := Option.some.inj hs
      exact .moved hi hspan hj hne (scopes_update _ _ _ _)
  | worker we =>
      cases we with
      | trySend ctx => exact absurd hs (by simp [Process.step])
      | dropSender => exact absurd hs (by simp [Process.step])
      | _ =>
          obtain ⟨worker, -, rfl⟩ := worker_step hs (by simp) (by simp)
          exact .same rfl (fun _ => rfl) rfl
  | dropReceiver =>
      obtain rfl := Option.some.inj hs
      exact .same rfl (fun _ => rfl) rfl

/-! ### A scope on its own -/

/-- A scope that was entered with the draws `draw` and has come to `s` by the calls `ops`. -/
structure Alone (b64 : Base64) (reporter : Reporter) (draw : IdDraw × IdDraw) (ops : List Op)
    (s : Scope) (current : CurrentTracingContext) : Prop where
  new : CurrentTracingContext.new reporter.config draw.1 draw.2 = .ok current
  run : run (Scope.step b64) (Scope.enter current) ops = some s

/-- What the scopes of a process are after the events `es`: there are as many as were entered,
none was called before it was entered, and each with which nobody has meddled makes a run of
its own. -/
structure Isolated (b64 : Base64) (reporter : Reporter) (es : List ProcessEvent) (p : Process) :
    Prop where
  entered : (ProcessEvent.enters es).length = p.scopes.length
  uncalled : ∀ i, p.scopes.length ≤ i → ProcessEvent.callsOf i es = []
  alone : ∀ i s, p.scopes[i]? = some s → (∀ e ∈ es, ¬ e.Meddles i) →
    ∃ draw current, (ProcessEvent.enters es)[i]? = some draw
      ∧ Alone b64 reporter draw (ProcessEvent.callsOf i es) s current

lemma Isolated.step {es : List ProcessEvent} (h : Isolated b64 reporter es p)
    (hs : p.step b64 reporter e = some p') : Isolated b64 reporter (es ++ [e]) p' := by
  have hbefore : ∀ {i}, (∀ e' ∈ es ++ [e], ¬ e'.Meddles i) → ∀ e' ∈ es, ¬ e'.Meddles i :=
    fun halone e' he' => halone e' (List.mem_append_left _ he')
  cases scope_step hs with
  | @enter traceDraw segmentDraw current new scopes =>
      refine ⟨?_, fun i hi => ?_, fun i s hi halone => ?_⟩
      · rw [ProcessEvent.enters_concat, scopes, List.length_append, List.length_append, h.entered]
        rfl
      · rw [scopes, List.length_append, List.length_singleton] at hi
        rw [ProcessEvent.callsOf_concat, h.uncalled i (by omega)]
        rfl
      · rw [scopes] at hi
        rw [ProcessEvent.enters_concat, ProcessEvent.callsOf_concat]
        rcases Nat.lt_or_ge i p.scopes.length with hlt | hge
        · rw [List.getElem?_append_left hlt] at hi
          obtain ⟨draw, current', hdraw, hrun⟩ := h.alone i s hi (hbefore halone)
          refine ⟨draw, current', ?_, ?_⟩
          · rw [List.getElem?_append_left (h.entered.symm ▸ hlt)]
            exact hdraw
          · exact (List.append_nil _).symm ▸ hrun
        · rw [List.getElem?_append_right hge] at hi
          have hlast : i = p.scopes.length := by
            by_contra hne
            rw [List.getElem?_eq_none (by rw [List.length_singleton]; omega)] at hi
            cases hi
          subst hlast
          rw [Nat.sub_self] at hi
          obtain rfl := Option.some.inj hi
          refine ⟨(traceDraw, segmentDraw), current, ?_, new, ?_⟩
          · rw [← h.entered, List.getElem?_append_right le_rfl, Nat.sub_self]
            rfl
          · rw [h.uncalled _ le_rfl]
            rfl
  | @call j op t t' scope step scopes =>
      have hlength : p'.scopes.length = p.scopes.length := by rw [scopes, List.length_set]
      refine ⟨?_, fun i hi => ?_, fun i s hi halone => ?_⟩
      · rw [ProcessEvent.enters_concat, hlength, ← h.entered]
        exact congrArg List.length (List.append_nil _)
      · rw [hlength] at hi
        have hne : j ≠ i := by
          rintro rfl
          rw [List.getElem?_eq_none hi] at scope
          cases scope
        rw [ProcessEvent.callsOf_concat, h.uncalled i hi, ProcessEvent.call?, if_neg hne]
        rfl
      · rw [ProcessEvent.enters_concat, ProcessEvent.callsOf_concat, ProcessEvent.call?,
          show (ProcessEvent.call j op).enter? = none from rfl, Option.toList_none,
          List.append_nil]
        rw [scopes] at hi
        by_cases hji : j = i
        · subst hji
          have hlt := (List.getElem?_eq_some_iff.mp scope).1
          rw [List.getElem?_set_self hlt] at hi
          obtain rfl := Option.some.inj hi
          obtain ⟨draw, current, hdraw, hrun⟩ := h.alone j t scope (hbefore halone)
          rw [if_pos rfl]
          exact ⟨draw, current, hdraw, hrun.new, run_concat.mpr ⟨t, hrun.run, step⟩⟩
        · rw [List.getElem?_set_ne hji] at hi
          rw [if_neg hji, Option.toList_none, List.append_nil]
          exact h.alone i s hi (hbefore halone)
  | @moved k a b now now' s s' span source held target ne scopes =>
      have hlength : p'.scopes.length = p.scopes.length := by
        rw [scopes, List.length_set, List.length_set]
      refine ⟨?_, fun i hi => ?_, fun i t hi halone => ?_⟩
      · rw [ProcessEvent.enters_concat, hlength, ← h.entered]
        exact congrArg List.length (List.append_nil _)
      · rw [hlength] at hi
        rw [ProcessEvent.callsOf_concat, h.uncalled i hi]
        rfl
      · have hne : ¬ (a = i ∨ b = i) := halone _ (List.mem_append_right _ List.mem_cons_self)
        rw [not_or] at hne
        rw [scopes, List.getElem?_set_ne hne.2, List.getElem?_set_ne hne.1] at hi
        rw [ProcessEvent.enters_concat, ProcessEvent.callsOf_concat]
        obtain ⟨draw, current, hdraw, hrun⟩ := h.alone i t hi (hbefore halone)
        exact ⟨draw, current, (List.append_nil _).symm ▸ hdraw, (List.append_nil _).symm ▸ hrun⟩
  | same enter call scopes =>
      refine ⟨?_, fun i hi => ?_, fun i s hi halone => ?_⟩
      · rw [ProcessEvent.enters_concat, enter, scopes, ← h.entered]
        exact congrArg List.length (List.append_nil _)
      · rw [scopes] at hi
        rw [ProcessEvent.callsOf_concat, call, h.uncalled i hi]
        rfl
      · rw [scopes] at hi
        rw [ProcessEvent.enters_concat, ProcessEvent.callsOf_concat, enter, call,
          Option.toList_none, Option.toList_none, List.append_nil, List.append_nil]
        exact h.alone i s hi (hbefore halone)

lemma isolated_of_run {clock : Instant} {es : List ProcessEvent}
    (hrun : run (Process.step b64 reporter) (start reporter clock) es = some p) :
    Isolated b64 reporter es p :=
  run_induction (P := fun es p => Isolated b64 reporter es p)
    ⟨rfl, fun _ _ => rfl, fun i s hi => absurd hi (by simp [start])⟩
    (fun _ _ _ _ _ h hs => h.step hs) hrun

/-- **A scope makes a run of its own**: in every run of a process, a scope with which no other one
has meddled is where its own calls have brought it from its own draws. -/
theorem scope_of_run {clock : Instant} {es : List ProcessEvent}
    (hrun : run (Process.step b64 reporter) (start reporter clock) es = some p) {i : ℕ} {s : Scope}
    (hi : p.scopes[i]? = some s) (halone : ∀ e ∈ es, ¬ e.Meddles i) :
    ∃ draw current, (ProcessEvent.enters es)[i]? = some draw
      ∧ CurrentTracingContext.new reporter.config draw.1 draw.2 = .ok current
      ∧ run (Scope.step b64) (Scope.enter current) (ProcessEvent.callsOf i es) = some s := by
  obtain ⟨draw, current, hdraw, hrun'⟩ := (isolated_of_run hrun).alone i s hi halone
  exact ⟨draw, current, hdraw, hrun'.new, hrun'.run⟩

/-- **Scopes do not interfere**: two scopes, in runs of two processes with the same config in which
no span is moved out of them or into them, are in the same state if they were entered with the same
draws and the same calls were made in them. The other scopes, the worker and the order in which
their events lie between those of the scope make no difference. -/
theorem scopes_isolated {reporter' : Reporter} {clock clock' : Instant}
    {es es' : List ProcessEvent} (hconfig : reporter'.config = reporter.config)
    (hrun : run (Process.step b64 reporter) (start reporter clock) es = some p)
    (hrun' : run (Process.step b64 reporter') (start reporter' clock') es' = some p')
    {i i' : ℕ} {s s' : Scope} (hi : p.scopes[i]? = some s) (hi' : p'.scopes[i']? = some s')
    (halone : ∀ e ∈ es, ¬ e.Meddles i) (halone' : ∀ e ∈ es', ¬ e.Meddles i')
    (hdraws : (ProcessEvent.enters es)[i]? = (ProcessEvent.enters es')[i']?)
    (hcalls : ProcessEvent.callsOf i es = ProcessEvent.callsOf i' es') : s = s' := by
  obtain ⟨draw, current, hdraw, hnew, hscope⟩ := scope_of_run hrun hi halone
  obtain ⟨draw', current', hdraw', hnew', hscope'⟩ := scope_of_run hrun' hi' halone'
  obtain rfl : draw = draw' := Option.some.inj (hdraw.symm.trans (hdraws.trans hdraw'))
  rw [hconfig] at hnew'
  obtain rfl : current = current' := Except.ok.inj (hnew.symm.trans hnew')
  rw [← hcalls] at hscope'
  exact Option.some.inj (hscope.symm.trans hscope')

end Process

/-- The scope of `round 0` as the second one of a process, its calls between those of another
scope and the start of the worker. -/
def interleaved : List ProcessEvent :=
  [.enter ⟨5, ⟨10 ^ 9⟩⟩ ⟨6, ⟨10 ^ 9⟩⟩, .enter ⟨1, ⟨10 ^ 9⟩⟩ ⟨2, ⟨10 ^ 9⟩⟩,
    .call 0 (.tracingEntry "/a" .http ⟨0⟩), .call 1 (.tracingLocal "job" .cache ⟨0⟩),
    .worker (.connect true), .call 0 (.finishSpan 0 ⟨0⟩ ⟨0⟩), .call 1 (.finishSpan 0 ⟨0⟩ ⟨0⟩)]

/-- The same scope as the only one of a process. -/
def undisturbed : List ProcessEvent :=
  [.enter ⟨1, ⟨10 ^ 9⟩⟩ ⟨2, ⟨10 ^ 9⟩⟩, .call 0 (.tracingLocal "job" .cache ⟨0⟩),
    .call 0 (.finishSpan 0 ⟨0⟩ ⟨0⟩)]

theorem Process.scopes_isolated_demo : ∃ p p' s s',
    run (Process.step .standard .demo) (Process.start .demo 0) undisturbed = some p
      ∧ run (Process.step .standard .demo) (Process.start .demo 7) interleaved = some p'
      ∧ p.scopes[0]? = some s ∧ p'.scopes[1]? = some s' ∧ s = s' := by
  obtain ⟨p, s, hrun, hs⟩ : ∃ p s, run (Process.step .standard .demo) (Process.start .demo 0)
    undisturbed = some p ∧ p.scopes[0]? = some s := ⟨_, _, rfl, rfl⟩
  obtain ⟨p', s', hrun', hs'⟩ : ∃ p' s', run (Process.step .standard .demo)
    (Process.start .demo 7) interleaved = some p' ∧ p'.scopes[1]? = some s' := ⟨_, _, rfl, rfl⟩
  exact ⟨p, p', s, s', hrun, hrun', hs, hs', Process.scopes_isolated rfl hrun hrun' hs hs'
    (by simp [undisturbed, ProcessEvent.Meddles]) (by simp [interleaved, ProcessEvent.Meddles])
    rfl rfl⟩

end Skywalking
