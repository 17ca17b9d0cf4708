import Skywalking.Agent.Conservation
import Skywalking.Scope.Invariant

/-!
The process: the scopes of its tasks, which run interleaved and may pass spans to each
other, and the reporter with its worker, to which every scope hands its context.

* `Process.step`, `Process.start`: the machine. `Process.handOver` is the call that
  `CurrentTracingContext::finish` makes, `report_trace(context, 0)`.
* `HandOver`: what such a call found and did.
* `Scope.Whole`: a scope either holds its context or has handed it over once.
* `Process.Sound`, `sound_of_run`: in every run the scopes are whole, and the hand-overs
  are those of the contexts they have reported.
* `worker_of_run`, `accounts_of_run`: as long as the receiver is there, the worker of the
  process makes a run of its own, so it can account for every context.
-/

namespace Skywalking

open RustStd Machine
open scoped List

/-- A hand-over: the context, the channel before and after it, what `report_trace`
returned, and what it logged. -/
structure HandOver where
  context : TracingContext
  before : Mailbox TracingContext
  after : Mailbox TracingContext
  returned : Bool
  logged : List LogRecord

/-- The call `SKYWALKING_REPORTER.report_trace(context, 0)`. -/
def HandOver.of (channel : Mailbox TracingContext) (context : TracingContext) : HandOver :=
  let (returned, after, logged) := Reporter.reportTrace channel context 0
  ⟨context, channel, after, returned, logged⟩

/-- The process: its scopes in the order in which they were entered, the worker with the
channel, and the hand-overs so far. -/
structure Process where
  scopes : List Scope
  worker : Worker
  handOvers : List HandOver

/-- What can happen in the process. -/
inductive ProcessEvent where
  /-- A task enters a scope. -/
  | enter (traceDraw segmentDraw : IdDraw)
  /-- The program of the scope `i` makes a call. -/
  | call (i : ℕ) (op : Op)
  /-- The span under the handle `k` of the scope `i` is moved to the task of the scope `j`
  and finished there. -/
  | finishForeign (k i j : ℕ) (now now' : SystemTime)
  /-- Something happens to the worker. -/
  | worker (e : WorkerEvent)
  /-- The worker is gone, and with it the receiver and all that is queued. -/
  | dropReceiver

/-- `ContextManager::finish_span` of a span from outside. -/
def Scope.finishForeign (s : Scope) (span : TracingSpan) (now now' : SystemTime) : Scope :=
  let (ctx, handed) := ContextManager.finishSpan (some span) now now' s.ctx
  { s with ctx := ctx, reported := s.reported ++ handed.toList }

namespace Process

/-- The process before its first scope. -/
def start (reporter : Reporter) (clock : Instant) : Process where
  scopes := []
  worker := Worker.start reporter.channel clock
  handOvers := []

/-- A context is handed over; nobody looks at what the call returns. -/
def handOver (p : Process) (context : TracingContext) : Process :=
  let h := HandOver.of p.worker.channel context
  { p with
    worker := { p.worker with
      channel := h.after
      accepted := p.worker.accepted ++ if h.returned then [context] else [] }
    handOvers := p.handOvers ++ [h] }

/-- The scope `i` changes from `s` to `s'` and hands over what it has newly reported. -/
def update (p : Process) (i : ℕ) (s s' : Scope) : Process :=
  (s'.reported.drop s.reported.length).foldl handOver { p with scopes := p.scopes.set i s' }

/-- One event: `none` where it cannot happen. -/
def step (b64 : Base64) (reporter : Reporter) (p : Process) : ProcessEvent → Option Process
  | .enter traceDraw segmentDraw =>
      match CurrentTracingContext.new reporter.config traceDraw segmentDraw with
      | .ok current => some { p with scopes := p.scopes ++ [Scope.enter current] }
      | .error _ => none
  | .call i op => do
      let s ← p.scopes[i]?
      let s' ← s.step b64 op
      return p.update i s s'
  | .finishForeign k i j now now' => do
      let a ← p.scopes[i]?
      let span ← a.span? k
      let b ← p.scopes[j]?
      if i = j then none
      else
        let moved := { p with scopes := p.scopes.set i { a with held := a.held.set k none } }
        return moved.update j b (b.finishForeign span now now')
  -- only scopes send, and the sender in the static reporter is never dropped
  | .worker (.trySend _) | .worker .dropSender => none
  | .worker e =>
      if p.worker.channel.receiverAlive then do
        let worker ← p.worker.step b64 reporter.workerConfig e
        return { p with worker := worker }
      else none
  | .dropReceiver =>
      some { p with
        worker := { p.worker with
          channel := { p.worker.channel with receiverAlive := false, queue := [] } } }

end Process

/-! ### Whole scopes -/

namespace Scope

/-- No call takes back a context that was handed over. -/
lemma Step.reported_grows {b64 : Base64} {s s' : Scope} {op : Op} (h : Step b64 s op s') :
    s.reported <+: s'.reported := by
  cases h with
  | finishFirst live held first => exact List.prefix_append _ _
  | _ => exact List.prefix_rfl

/-- A scope holds its context, or it has handed one over, once. -/
def Whole (s : Scope) : Prop :=
  (∃ wx, s.Live wx ∧ s.reported = []) ∨ (s.ctx = some ⟨none⟩ ∧ ∃ context, s.reported = [context])

lemma Whole.reported_ne_nil_iff {s : Scope} (h : s.Whole) :
    s.reported ≠ [] ↔ ∀ wx, ¬ s.Live wx := by
  rcases h with ⟨wx, live, hreported⟩ | ⟨hctx, context, hreported⟩
  · constructor
    · intro hne
      exact absurd hreported hne
    · intro dead
      exact absurd live (dead wx)
  · constructor
    · intro _
      exact dead_of_ctx hctx
    · intro _
      rw [hreported]
      exact List.cons_ne_nil _ _

/-- A scope with a context archives a foreign span; under the id of the first span, the
foreign span closes the scope. -/
lemma finishForeign_live {s : Scope} {wx : WorkingContext} (live : s.Live wx)
    (span : TracingSpan) (now now' : SystemTime) :
    s.finishForeign span now now' =
      if span.spanId = 0 then
        { s with
          ctx := some ⟨none⟩
          reported := s.reported ++ [(wx.closed (span.endNow now) now').context] }
      else { s with ctx := some ⟨some (wx.closed (span.endNow now) now')⟩ } := by
  rw [Live] at live
  rw [finishForeign, live, finishSpan_live]
  split_ifs with h0
  · rfl
  · simp

/-- A scope without a context drops a foreign span. -/
lemma finishForeign_dead {s : Scope} (dead : ∀ wx, ¬ s.Live wx) (span : TracingSpan)
    (now now' : SystemTime) : s.finishForeign span now now' = s := by
  have hsame : ContextManager.finishSpan (some span) now now' s.ctx = (s.ctx, none) := by
    rcases ctx_of_dead dead with hctx | hctx
    · rw [hctx]
      rfl
    · rw [hctx]
      simp [ContextManager.finishSpan, CurrentTracingContext.finishSpan,
        CurrentTracingContext.finish]
  rw [finishForeign, hsame]
  simp

lemma Whole.of_finishForeign {s : Scope} (h : s.Whole) (span : TracingSpan)
    (now now' : SystemTime) : (s.finishForeign span now now').Whole := by
  rcases h with ⟨wx, live, hreported⟩ | ⟨hctx, context, hreported⟩
  · rw [finishForeign_live live]
    split_ifs with h0
    · exact Or.inr ⟨rfl, _, by rw [hreported]; rfl⟩
    · exact Or.inl ⟨_, rfl, hreported⟩
  · rw [finishForeign_dead (dead_of_ctx hctx)]
    exact Or.inr ⟨hctx, context, hreported⟩

lemma Whole.step {b64 : Base64} {s s' : Scope} {op : Op} (h : s.Whole)
    (hs : s.step b64 op = some s') : s'.Whole := by
  rcases h with ⟨wx, live, hreported⟩ | ⟨hctx, context, hreported⟩
  · cases step_cases hs with
    | create live' new => exact Or.inl ⟨_, rfl, hreported⟩
    | finish live' held first => exact Or.inl ⟨_, rfl, hreported⟩
    | finishFirst live' held first => exact Or.inr ⟨rfl, _, by rw [hreported]; rfl⟩
    | changeTraceId live' => exact Or.inl ⟨_, rfl, hreported⟩
    | createNone dead new => exact absurd live (dead wx)
    | finishDead dead held => exact absurd live (dead wx)
    | changeTraceIdDead dead => exact absurd live (dead wx)
    | finishNone => exact Or.inl ⟨wx, live, hreported⟩
    | onSpan held => exact Or.inl ⟨wx, live, hreported⟩
    | mergeSpan hk hj hne => exact Or.inl ⟨wx, live, hreported⟩
  · obtain ⟨hctx', -, -, hreported'⟩ := (inert_of_dead (dead_of_ctx hctx)).unchanged op s' hs
    exact Or.inr ⟨hctx'.trans hctx, context, hreported'.trans hreported⟩

end Scope

/-! ### The hand-overs of a run -/

/-- A hand-over did what `report_trace` does. -/
def HandOver.FromReport (h : HandOver) : Prop := h = HandOver.of h.before h.context

/-- The replacement of one element by another one changes a joined list by what the new
element has more. -/
lemma perm_flatMap_set {α β : Type*} {f : α → List β} {as : List α} {i : ℕ} {a a' : α}
    {new : List β} (h : as[i]? = some a) (hf : f a' = f a ++ new) :
    ((as.set i a').flatMap f).Perm (as.flatMap f ++ new) := by
  induction as generalizing i with
  | nil => exact absurd h (by simp)
  | cons x xs ih =>
      cases i with
      | zero =>
          obtain rfl : x = a := by simpa using h
          rw [List.set_cons_zero, List.flatMap_cons, List.flatMap_cons, hf, List.append_assoc,
            List.append_assoc]
          exact List.Perm.append_left _ List.perm_append_comm
      | succ i =>
          rw [List.set_cons_succ, List.flatMap_cons, List.flatMap_cons, List.append_assoc]
          exact List.Perm.append_left _ (ih (by simpa using h))

namespace Process

variable {b64 : Base64} {reporter : Reporter} {p p' : Process} {e : ProcessEvent}

/-- What holds in the process at any time: its scopes are whole, and its hand-overs are
those of what they have reported. -/
structure Sound (p : Process) : Prop where
  whole : ∀ s ∈ p.scopes, s.Whole
  contexts : (p.handOvers.map HandOver.context).Perm (p.scopes.flatMap Scope.reported)
  fromReport : ∀ h ∈ p.handOvers, h.FromReport

lemma foldl_handOver (contexts : List TracingContext) (p : Process) :
    (contexts.foldl handOver p).scopes = p.scopes ∧ ∃ hs,
      (contexts.foldl handOver p).handOvers = p.handOvers ++ hs
        ∧ hs.map HandOver.context = contexts ∧ ∀ h ∈ hs, h.FromReport := by
  induction contexts generalizing p with
  | nil => exact ⟨rfl, [], (List.append_nil _).symm, rfl, by simp⟩
  | cons context contexts ih =>
      obtain ⟨hscopes, hs, hhandOvers, hcontexts, hfrom⟩ := ih (p.handOver context)
      refine ⟨hscopes.trans rfl, HandOver.of p.worker.channel context :: hs, ?_, ?_, ?_⟩
      · rw [List.foldl_cons, hhandOvers, handOver, List.append_assoc]
        rfl
      · rw [List.map_cons, hcontexts]
        rfl
      · intro h hh
        rcases List.mem_cons.mp hh with rfl | hh
        · rfl
        · exact hfrom h hh

/-- A scope may change as long as it stays whole and takes back nothing it has reported. -/
lemma Sound.update (h : p.Sound) {i : ℕ} {s s' : Scope} (hi : p.scopes[i]? = some s)
    (hwhole : s'.Whole) (hreported : s.reported <+: s'.reported) : (p.update i s s').Sound := by
  have hcut : s'.reported = s.reported ++ s'.reported.drop s.reported.length := by
    obtain ⟨new, hnew⟩ := hreported
    rw [← hnew, List.drop_left]
  obtain ⟨hscopes, hs, hhandOvers, hcontexts, hfrom⟩ := foldl_handOver
    (s'.reported.drop s.reported.length) { p with scopes := p.scopes.set i s' }
  refine ⟨?_, ?_, ?_⟩
  · intro t ht
    rw [Process.update, hscopes] at ht
    rcases List.mem_or_eq_of_mem_set ht with ht | rfl
    · exact h.whole t ht
    · exact hwhole
  · rw [Process.update, hscopes]
    calc ((s'.reported.drop s.reported.length).foldl handOver
            { p with scopes := p.scopes.set i s' }).handOvers.map HandOver.context
        = p.handOvers.map HandOver.context ++ s'.reported.drop s.reported.length := by
          rw [hhandOvers, List.map_append, hcontexts]
      _ ~ p.scopes.flatMap Scope.reported ++ s'.reported.drop s.reported.length :=
          h.contexts.append_right _
      _ ~ (p.scopes.set i s').flatMap Scope.reported := (perm_flatMap_set hi hcut).symm
  · intro h' hh
    rw [Process.update, hhandOvers] at hh
    rcases List.mem_append.mp hh with hh | hh
    · exact h.fromReport h' hh
    · exact hfrom h' hh

/-- A scope may lose a span it holds. -/
lemma Sound.moved (h : p.Sound) {i k : ℕ} {s : Scope} (hi : p.scopes[i]? = some s) :
    Sound { p with scopes := p.scopes.set i { s with held := s.held.set k none } } := by
  refine ⟨?_, ?_, h.fromReport⟩
  · intro t ht
    rcases List.mem_or_eq_of_mem_set ht with ht | rfl
    · exact h.whole t ht
    · exact h.whole s (List.mem_of_getElem? hi)
  · have hperm : ((p.scopes.set i { s with held := s.held.set k none }).flatMap
        Scope.reported).Perm (p.scopes.flatMap Scope.reported ++ []) :=
      perm_flatMap_set hi (List.append_nil _).symm
    rw [List.append_nil] at hperm
    exact h.contexts.trans hperm.symm

/-- What an event of the worker does to the process. -/
lemma worker_step {e : WorkerEvent} (hs : p.step b64 reporter (.worker e) = some p')
    (hsend : ∀ ctx, e ≠ .trySend ctx) (hdrop : e ≠ .dropSender) :
    ∃ worker, p.worker.step b64 reporter.workerConfig e = some worker
      ∧ p' = { p with worker := worker } := by
  rw [Process.step] at hs
  · split_ifs at hs
    obtain ⟨worker, hworker, hs⟩ := Option.bind_eq_some_iff.mp hs
    exact ⟨worker, hworker, (Option.some.inj hs).symm⟩
  · intro ctx hctx
    exact hsend ctx hctx
  · intro hctx
    exact hdrop hctx

/-- Every event keeps the process sound. -/
theorem Sound.step (h : p.Sound) (hs : p.step b64 reporter e = some p') : p'.Sound := by
  cases e with
  | enter traceDraw segmentDraw =>
      rw [Process.step] at hs
      split at hs
      · next current hnew =>
          obtain rfl := Option.some.inj hs
          obtain ⟨context, -, rfl⟩ := CurrentTracingContext.eq_of_new hnew
          refine ⟨?_, ?_, h.fromReport⟩
          · intro t ht
            rcases List.mem_append.mp ht with ht | ht
            · exact h.whole t ht
            · rw [List.mem_singleton.mp ht]
              exact Or.inl ⟨_, rfl, rfl⟩
          · rw [List.flatMap_append, List.flatMap_singleton]
            exact h.contexts.trans (by rw [Scope.enter, List.append_nil])
      · exact absurd hs (by simp)
  | call i op =>
      obtain ⟨s, hi, hs⟩ := Option.bind_eq_some_iff.mp hs
      obtain ⟨s', hs', hs⟩ := Option.bind_eq_some_iff.mp hs
      obtain rfl := Option.some.inj hs
      exact h.update hi ((h.whole s (List.mem_of_getElem? hi)).step hs')
        (Scope.step_cases hs').reported_grows
  | finishForeign k i j now now' =>
      obtain ⟨a, hi, hs⟩ := Option.bind_eq_some_iff.mp hs
      obtain ⟨span, hspan, hs⟩ := Option.bind_eq_some_iff.mp hs
      obtain ⟨b, hj, hs⟩ := Option.bind_eq_some_iff.mp hs
      split_ifs at hs with hne
      obtain rfl := Option.some.inj hs
      refine (h.moved hi).update ?_
        ((h.whole b (List.mem_of_getElem? hj)).of_finishForeign span now now')
        (List.prefix_append _ _)
      rw [List.getElem?_set_ne hne]
      exact hj
  | worker e =>
      cases e with
      | trySend ctx => exact absurd hs (by simp [Process.step])
      | dropSender => exact absurd hs (by simp [Process.step])
      | _ =>
          obtain ⟨worker, -, rfl⟩ := worker_step hs (by simp) (by simp)
          exact ⟨h.whole, h.contexts, h.fromReport⟩
  | dropReceiver =>
      obtain rfl := Option.some.inj hs
      exact ⟨h.whole, h.contexts, h.fromReport⟩

/-- The process is sound in every run. -/
theorem sound_of_run {clock : Instant} {es : List ProcessEvent}
    (hrun : run (Process.step b64 reporter) (start reporter clock) es = some p) : p.Sound :=
  run_invariant (fun _ _ _ h hs => h.step hs)
    ⟨by simp [start], List.Perm.refl _, by simp [start]⟩ hrun

/-! ### The worker of the process -/

/-- A hand-over is a `try_send` to the worker. -/
lemma worker_handOver (p : Process) (context : TracingContext) (config : Config) :
    p.worker.step b64 config (.trySend context) = some (p.handOver context).worker := by
  rw [Worker.step, handOver, HandOver.of, Reporter.reportTrace]
  cases hsend : p.worker.channel.trySend context with
  | ok channel => rfl
  | error e => cases e <;> simp

/-- Contexts that are handed over one after the other are a run of the worker. -/
lemma worker_foldl_handOver (contexts : List TracingContext) (p : Process) (config : Config) :
    run (Worker.step b64 config) p.worker (contexts.map .trySend)
      = some (contexts.foldl handOver p).worker := by
  induction contexts generalizing p with
  | nil => rfl
  | cons context contexts ih =>
      rw [List.map_cons, run_cons, worker_handOver, Option.bind_some, ih, List.foldl_cons]

/-- A change of a scope is a run of the worker, over what the scope has newly reported. -/
lemma worker_update (p : Process) (i : ℕ) (s s' : Scope) (config : Config) :
    ∃ ws, run (Worker.step b64 config) p.worker ws = some (p.update i s s').worker :=
  ⟨_, worker_foldl_handOver (s'.reported.drop s.reported.length)
    { p with scopes := p.scopes.set i s' } config⟩

/-- What the worker sees of an event. -/
lemma worker_of_step (hs : p.step b64 reporter e = some p') (he : e ≠ .dropReceiver) :
    ∃ ws, run (Worker.step b64 reporter.workerConfig) p.worker ws = some p'.worker := by
  cases e with
  | enter traceDraw segmentDraw =>
      rw [Process.step] at hs
      split at hs
      · obtain rfl := Option.some.inj hs
        exact ⟨[], rfl⟩
      · exact absurd hs (by simp)
  | call i op =>
      obtain ⟨s, -, hs⟩ := Option.bind_eq_some_iff.mp hs
      obtain ⟨s', -, hs⟩ := Option.bind_eq_some_iff.mp hs
      obtain rfl := Option.some.inj hs
      exact p.worker_update i s s' _
  | finishForeign k i j now now' =>
      obtain ⟨a, -, hs⟩ := Option.bind_eq_some_iff.mp hs
      obtain ⟨span, -, hs⟩ := Option.bind_eq_some_iff.mp hs
      obtain ⟨b, -, hs⟩ := Option.bind_eq_some_iff.mp hs
      split_ifs at hs
      obtain rfl := Option.some.inj hs
      exact worker_update { p with scopes := p.scopes.set i { a with held := a.held.set k none } }
        j b _ _
  | worker e =>
      cases e with
      | trySend ctx => exact absurd hs (by simp [Process.step])
      | dropSender => exact absurd hs (by simp [Process.step])
      | _ =>
          obtain ⟨worker, hworker, rfl⟩ := worker_step hs (by simp) (by simp)
          exact ⟨[_], by rw [run_cons, hworker]; rfl⟩
  | dropReceiver => exact absurd rfl he

/-- **The worker of a process makes a run of its own**, as long as the receiver of its
channel is not dropped. -/
theorem worker_of_run {clock : Instant} {es : List ProcessEvent}
    (hrun : run (Process.step b64 reporter) (start reporter clock) es = some p)
    (hes : .dropReceiver ∉ es) :
    ∃ ws, run (Worker.step b64 reporter.workerConfig) (Worker.start reporter.channel clock) ws
      = some p.worker := by
  refine run_induction (P := fun es p => .dropReceiver ∉ es → ∃ ws,
      run (Worker.step b64 reporter.workerConfig) (Worker.start reporter.channel clock) ws
        = some p.worker) (fun _ => ⟨[], rfl⟩) (fun es p e p' _ ih hs hes' => ?_) hrun hes
  obtain ⟨ws, hws⟩ := ih fun h => hes' (List.mem_append_left _ h)
  have he : e ≠ .dropReceiver := by
    rintro rfl
    exact hes' (List.mem_append_right _ (List.mem_singleton_self _))
  obtain ⟨ws', hws'⟩ := worker_of_step hs he
  exact ⟨ws ++ ws', run_append_eq_some.mpr ⟨p.worker, hws, hws'⟩⟩

/-- The worker of a process can account for every context its channel has accepted. -/
theorem accounts_of_run {clock : Instant} {es : List ProcessEvent}
    (hempty : reporter.channel.queue = [])
    (hrun : run (Process.step b64 reporter) (start reporter clock) es = some p)
    (hes : .dropReceiver ∉ es) : Accounts b64 reporter.workerConfig p.worker := by
  obtain ⟨ws, hws⟩ := worker_of_run hrun hes
  exact Skywalking.accounts_of_run hempty hws

end Process

end Skywalking
