import Skywalking.Process

/-!
What becomes of a span that is finished in a scope it was not created in.

The trait `Context` documents `finish_span` with "The span is only being accept if it
belongs to this context". A span carries nothing that names its context, and neither
`TracingContext::finish_span` nor `ContextManager::finish_span` compares anything.

* `Scope.Rejected`: a finish left the scope as it was.
* `ForeignFinish`, `Process.foreignFinishes`: the foreign finishes of a run.
* `Scope.Whole.rejected_iff`: a scope that holds its context accepts every span.
* `foreign_finishes_iff`: **when foreign spans are rejected** in a run of the process.
-/

namespace Skywalking

open RustStd Machine

namespace Scope

/-- The span stack, as long as the scope holds its context. -/
def spanStack? (s : Scope) : Option (List Int32) :=
  match s.ctx with
  | some ⟨some wx⟩ => some wx.spanStack
  | _ => none

/-- A finish left the finished spans, the span stack and the reported contexts of a scope
as they were. -/
structure Rejected (s s' : Scope) : Prop where
  finishedSpans : s'.finishedSpans? = s.finishedSpans?
  spanStack : s'.spanStack? = s.spanStack?
  reported : s'.reported = s.reported

/-- A scope rejects a span exactly if its context was handed over before. -/
lemma Whole.rejected_iff {s : Scope} (h : s.Whole) (span : TracingSpan)
    (now now' : SystemTime) : s.Rejected (s.finishForeign span now now') ↔ s.reported ≠ [] := by
  rw [h.reported_ne_nil_iff]
  constructor
  · rintro hrejected wx live
    have hlive := finishForeign_live live span now now'
    by_cases h0 : span.spanId = 0
    · rw [if_pos h0] at hlive
      have hreported := hrejected.reported
      rw [hlive] at hreported
      exact absurd hreported (by simp)
    · rw [if_neg h0] at hlive
      have live' : (s.finishForeign span now now').Live (wx.closed (span.endNow now) now') := by
        rw [hlive]
        rfl
      have hfinished := hrejected.finishedSpans
      rw [finishedSpans?, finishedSpans?, context?_of_live live, context?_of_live live',
        Option.map_some, Option.map_some, WorkingContext.finishedSpans_closed] at hfinished
      exact absurd hfinished (by simp)
  · intro dead
    rw [finishForeign_dead dead]
    exact ⟨rfl, rfl, rfl⟩

end Scope

/-! ### The foreign finishes of a run -/

/-- A finish of a foreign span: the scope before and after it. -/
structure ForeignFinish where
  before : Scope
  after : Scope

/-- The finish was rejected. -/
def ForeignFinish.Rejected (f : ForeignFinish) : Prop := f.before.Rejected f.after

/-- The scope had handed its context over before. -/
def ForeignFinish.MetReported (f : ForeignFinish) : Prop := f.before.reported ≠ []

instance : DecidablePred ForeignFinish.MetReported := fun f =>
  inferInstanceAs (Decidable (f.before.reported ≠ []))

/-- The event is the finish of a foreign span. -/
def ProcessEvent.isForeign : ProcessEvent → Bool
  | .finishForeign .. => true
  | _ => false

namespace Process

/-- The foreign finish in a step from `p` to `p'`. -/
def foreignFinish? (p p' : Process) : ProcessEvent → Option ForeignFinish
  | .finishForeign _ _ j _ _ => do
      let before ← p.scopes[j]?
      let after ← p'.scopes[j]?
      return ⟨before, after⟩
  | _ => none

/-- The foreign finishes of a run from `p`, in order. -/
def foreignFinishes (b64 : Base64) (reporter : Reporter) (p : Process) :
    List ProcessEvent → List ForeignFinish
  | [] => []
  | e :: es =>
      match p.step b64 reporter e with
      | some p' => (p.foreignFinish? p' e).toList ++ foreignFinishes b64 reporter p' es
      | none => []

variable {b64 : Base64} {reporter : Reporter} {p p' : Process} {es : List ProcessEvent}

/-- A foreign finish is one of a span that another scope holds. -/
lemma foreignFinish?_of_step {k i j : ℕ} {now now' : SystemTime}
    (hs : p.step b64 reporter (.finishForeign k i j now now') = some p') :
    ∃ a span b, p.scopes[i]? = some a ∧ a.span? k = some span ∧ p.scopes[j]? = some b ∧ i ≠ j
      ∧ p.foreignFinish? p' (.finishForeign k i j now now')
        = some ⟨b, b.finishForeign span now now'⟩ := by
  obtain ⟨a, hi, hs⟩ := Option.bind_eq_some_iff.mp hs
  obtain ⟨span, hspan, hs⟩ := Option.bind_eq_some_iff.mp hs
  obtain ⟨b, hj, hs⟩ := Option.bind_eq_some_iff.mp hs
  split_ifs at hs with hne
  obtain rfl := Option.some.inj hs
  refine ⟨a, span, b, hi, hspan, hj, hne, ?_⟩
  have hlt : j < p.scopes.length := (List.getElem?_eq_some_iff.mp hj).1
  rw [foreignFinish?, hj, update, (foldl_handOver _ _).1]
  simp [hlt]

/-- Every foreign finish of a run is in the list. -/
lemma length_foreignFinishes (hrun : run (Process.step b64 reporter) p es = some p') :
    (foreignFinishes b64 reporter p es).length = es.countP ProcessEvent.isForeign := by
  induction es generalizing p with
  | nil => rfl
  | cons e es ih =>
      obtain ⟨p₁, hs, hes⟩ := run_cons_eq_some.mp hrun
      rw [foreignFinishes, hs]
      simp only [List.length_append, ih hes, List.countP_cons]
      cases e with
      | finishForeign k i j now now' =>
          obtain ⟨a, span, b, -, -, -, -, hforeign⟩ := foreignFinish?_of_step hs
          rw [hforeign, Nat.add_comm]
          rfl
      | _ => exact Nat.zero_add _

/-- From a sound process on, a foreign finish is rejected exactly if the scope had handed
its context over before. -/
lemma Sound.rejected_iff (h : p.Sound) (hrun : run (Process.step b64 reporter) p es = some p') :
    ∀ f ∈ foreignFinishes b64 reporter p es, f.Rejected ↔ f.MetReported := by
  induction es generalizing p with
  | nil => exact fun f hf => absurd hf List.not_mem_nil
  | cons e es ih =>
      obtain ⟨p₁, hs, hes⟩ := run_cons_eq_some.mp hrun
      intro f hf
      rw [foreignFinishes, hs] at hf
      rcases List.mem_append.mp hf with hf | hf
      · cases e with
        | finishForeign k i j now now' =>
            obtain ⟨a, span, b, -, -, hj, -, hforeign⟩ := foreignFinish?_of_step hs
            rw [hforeign] at hf
            obtain rfl := List.mem_singleton.mp hf
            exact (h.whole b (List.mem_of_getElem? hj)).rejected_iff span now now'
        | _ => exact absurd hf List.not_mem_nil
      · exact ih (h.step hs) hes f hf

end Process

section Run

variable {b64 : Base64} {reporter : Reporter} {clock : Instant} {p : Process}
  {es : List ProcessEvent}

/-- `TracingContext::finish_span` accepts every span. -/
lemma TracingContext.finishedSpans_finishSpan_ne (context : TracingContext)
    (span : TracingSpan) (now : SystemTime) :
    (context.finishSpan span now).finishedSpans ≠ context.finishedSpans := by
  rw [finishSpan]
  simp

/-- **When foreign spans are rejected**: in every run of the process, a scope rejects the
span of another scope exactly if its own context was handed over before; so all foreign
finishes of the run are rejected exactly if all of them came that late. The context itself,
under the trait `Context`, rejects no span. -/
theorem foreign_finishes_iff
    (hrun : run (Process.step b64 reporter) (Process.start reporter clock) es = some p) :
    (Process.foreignFinishes b64 reporter (.start reporter clock) es).length
        = es.countP ProcessEvent.isForeign
      ∧ (∀ f ∈ Process.foreignFinishes b64 reporter (.start reporter clock) es,
          f.Rejected ↔ f.MetReported)
      ∧ ((∀ f ∈ Process.foreignFinishes b64 reporter (.start reporter clock) es, f.Rejected)
          ↔ ∀ f ∈ Process.foreignFinishes b64 reporter (.start reporter clock) es,
              f.MetReported)
      ∧ ∀ (context : TracingContext) (span : TracingSpan) (now : SystemTime),
          (context.finishSpan span now).finishedSpans ≠ context.finishedSpans := by
  have hiff := (@Process.sound_of_run b64 reporter _ clock [] rfl).rejected_iff hrun
  exact ⟨Process.length_foreignFinishes hrun, hiff, forall₂_congr hiff,
    TracingContext.finishedSpans_finishSpan_ne⟩

end Run

/-- A scope that hands its context over, and only then is given a span of another one. -/
def lateCalls : List ProcessEvent :=
  [.enter ⟨1, ⟨10 ^ 9⟩⟩ ⟨2, ⟨10 ^ 9⟩⟩, .enter ⟨3, ⟨10 ^ 9⟩⟩ ⟨4, ⟨10 ^ 9⟩⟩,
    .call 0 (.tracingEntry "/a" .http ⟨0⟩), .call 0 (.tracingLocal "load" .cache ⟨0⟩),
    .call 1 (.tracingEntry "/b" .http ⟨0⟩), .call 1 (.finishSpan 0 ⟨0⟩ ⟨0⟩),
    .finishForeign 1 0 1 ⟨0⟩ ⟨0⟩, .call 0 (.finishSpan 0 ⟨0⟩ ⟨0⟩)]

theorem foreign_finishes_demo : ∃ p,
    run (Process.step .standard .demo) (Process.start .demo 0) lateCalls = some p
      ∧ (Process.foreignFinishes .standard .demo (.start .demo 0) lateCalls).length = 1
      ∧ ∀ f ∈ Process.foreignFinishes .standard .demo (.start .demo 0) lateCalls,
          f.Rejected := by
  obtain ⟨p, hrun⟩ : ∃ p, run (Process.step .standard .demo) (Process.start .demo 0)
    lateCalls = some p := ⟨_, rfl⟩
  have hlate : ∀ f ∈ Process.foreignFinishes .standard .demo (.start .demo 0) lateCalls,
      f.MetReported := by decide +kernel
  obtain ⟨hlength, -, hiff, -⟩ := foreign_finishes_iff hrun
  exact ⟨p, hrun, hlength, hiff.mpr hlate⟩

/-- Two scopes with open spans, and the finish of the first span of the one in the
other one. -/
def foreignCalls : List ProcessEvent :=
  [.enter ⟨1, ⟨10 ^ 9⟩⟩ ⟨2, ⟨10 ^ 9⟩⟩, .enter ⟨3, ⟨10 ^ 9⟩⟩ ⟨4, ⟨10 ^ 9⟩⟩,
    .call 0 (.tracingEntry "/a" .http ⟨0⟩), .call 1 (.tracingEntry "/b" .http ⟨0⟩),
    .call 1 (.tracingLocal "load" .cache ⟨0⟩), .finishForeign 0 0 1 ⟨0⟩ ⟨0⟩]

/-- The scope `/b` accepts the first span of `/a` and hands its context over, with this
span alone in it, while both of its own spans are open. -/
theorem foreign_accepted : ∃ p,
    run (Process.step .standard .demo) (Process.start .demo 0) foreignCalls = some p
      ∧ ∃ f ∈ Process.foreignFinishes .standard .demo (.start .demo 0) foreignCalls,
          ¬ f.Rejected ∧ f.before.reported = []
            ∧ f.after.reported.map (fun c => c.finishedSpans.map (·.operationName)) = [["/a"]] := by
  obtain ⟨p, hrun⟩ : ∃ p, run (Process.step .standard .demo) (Process.start .demo 0)
    foreignCalls = some p := ⟨_, rfl⟩
  have hfinishes : (Process.foreignFinishes .standard .demo (.start .demo 0) foreignCalls).map
      (fun f => (f.before.reported, f.after.reported.map
        (fun c => c.finishedSpans.map (·.operationName)))) = [([], [["/a"]])] := by
    decide +kernel
  obtain ⟨f, hf, hreported⟩ := List.mem_map.mp (hfinishes ▸ List.mem_singleton_self _)
  obtain ⟨hbefore, hafter⟩ := Prod.mk.inj hreported
  refine ⟨p, hrun, f, hf, ?_, hbefore, hafter⟩
  intro hrejected
  rw [hrejected.reported, hbefore] at hafter
  exact absurd hafter (by simp)

end Skywalking
