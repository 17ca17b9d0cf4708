import Skywalking.Process

/-!
What becomes of a context when it is handed over.

`CurrentTracingContext::finish` calls `report_trace` with `try_times` `0` and looks at
nothing it returns; `report_trace` writes a context that a full channel refuses to the
log only from the fourth repetition on, and there are no repetitions.

* `HandOver.Kept`: the context was put in the channel, or written to the log.
* `kept_of_iff`: this fails exactly if the channel is full.
* `handOvers_kept_iff`: **when nothing is lost silently** in a run of the process.
* `run_rounds`: scopes that hand over one context each fill the channel.
-/

namespace Skywalking

open RustStd Machine

/-- The context a log record preserves. -/
def LogRecord.context? : LogRecord → Option TracingContext
  | .channelFull context => some context
  | .channelDisconnected context => some context
  | .segmentsBackup _ => none

namespace HandOver

/-- The context was put in the channel, or it was written to the log. -/
def Kept (h : HandOver) : Prop :=
  h.after.queue = h.before.queue ++ [h.context]
    ∨ ∃ record ∈ h.logged, record.context? = some h.context

/-- The channel had a receiver and no room. -/
def MetFull (h : HandOver) : Prop := h.before.receiverAlive = true ∧ h.before.IsFull

instance : DecidablePred MetFull := fun h =>
  inferInstanceAs (Decidable (h.before.receiverAlive = true ∧ h.before.IsFull))

/-- A context is lost exactly when the channel is full. -/
lemma kept_of_iff (channel : Mailbox TracingContext) (context : TracingContext) :
    (HandOver.of channel context).Kept ↔ ¬ (HandOver.of channel context).MetFull := by
  by_cases halive : channel.receiverAlive = true
  · by_cases hfull : channel.IsFull
    · have hof : HandOver.of channel context = ⟨context, channel, channel, false, []⟩ := by
        simp [HandOver.of, Reporter.reportTrace, Mailbox.trySend, halive, hfull]
      rw [hof]
      constructor
      · rintro (h | ⟨record, hrecord, -⟩)
        · exact absurd h (by simp)
        · exact absurd hrecord List.not_mem_nil
      · intro h
        exact absurd ⟨halive, hfull⟩ h
    · have hof : HandOver.of channel context
          = ⟨context, channel, { channel with queue := channel.queue ++ [context] }, true, []⟩ := by
        simp [HandOver.of, Reporter.reportTrace, Mailbox.trySend, halive, hfull]
      rw [hof]
      exact ⟨fun _ h => hfull h.2, fun _ => Or.inl rfl⟩
  · have hof : HandOver.of channel context
        = ⟨context, channel, channel, false, [.channelDisconnected context]⟩ := by
      simp [HandOver.of, Reporter.reportTrace, Mailbox.trySend, halive]
    rw [hof]
    exact ⟨fun _ h => halive h.1, fun _ => Or.inr ⟨_, List.mem_singleton_self _, rfl⟩⟩

end HandOver

section Run

variable {b64 : Base64} {reporter : Reporter} {clock : Instant} {p : Process}
  {es : List ProcessEvent}

/-- **When nothing is lost silently**: the hand-overs of a run are those of the contexts
that its scopes reported. One of them keeps its context exactly if it did not meet a full
channel, so all of them do exactly if none met one. -/
theorem handOvers_kept_iff
    (hrun : run (Process.step b64 reporter) (Process.start reporter clock) es = some p) :
    (p.handOvers.map HandOver.context).Perm (p.scopes.flatMap Scope.reported)
      ∧ (∀ h ∈ p.handOvers, h.Kept ↔ ¬ h.MetFull)
      ∧ ((∀ h ∈ p.handOvers, h.Kept) ↔ ∀ h ∈ p.handOvers, ¬ h.MetFull) := by
  have hsound := Process.sound_of_run hrun
  have hkept : ∀ h ∈ p.handOvers, h.Kept ↔ ¬ h.MetFull := by
    intro h hh
    rw [hsound.fromReport h hh]
    exact HandOver.kept_of_iff h.before h.context
  exact ⟨hsound.contexts, hkept, forall₂_congr hkept⟩

/-! ### A full channel -/

/-- The events of a scope, the `n`-th one, in which one span is created and finished. -/
def round (n : ℕ) : List ProcessEvent :=
  [.enter ⟨1, ⟨10 ^ 9⟩⟩ ⟨2, ⟨10 ^ 9⟩⟩, .call n (.tracingLocal "job" .cache ⟨0⟩),
    .call n (.finishSpan 0 ⟨0⟩ ⟨0⟩)]

/-- The events of `n` such scopes, one after the other. -/
def rounds (n : ℕ) : List ProcessEvent := (List.range n).flatMap round

/-- A scope with one span hands over one context. -/
lemma scope_round {config : Config} {current : CurrentTracingContext}
    (hnew : CurrentTracingContext.new config ⟨1, ⟨10 ^ 9⟩⟩ ⟨2, ⟨10 ^ 9⟩⟩ = .ok current) :
    ∃ s₁ s₂ context, (Scope.enter current).step b64 (.tracingLocal "job" .cache ⟨0⟩) = some s₁
      ∧ s₁.step b64 (.finishSpan 0 ⟨0⟩ ⟨0⟩) = some s₂ ∧ s₁.reported = []
      ∧ s₂.reported = [context] := by
  obtain ⟨context, hcontext, rfl⟩ := CurrentTracingContext.eq_of_new hnew
  obtain ⟨s₁, span, hcreate, live₁, held₁, hspan, hreported₁⟩ : ∃ s₁ span,
      (Scope.enter ⟨some ⟨context, []⟩⟩).step b64 (.tracingLocal "job" .cache ⟨0⟩) = some s₁
        ∧ s₁.Live (WorkingContext.opened ⟨context, []⟩) ∧ s₁.span? 0 = some span
        ∧ span.spanId = context.nextSeq + 1 ∧ s₁.reported = [] :=
    ⟨_, _, Scope.step_eq_create (Scope.live_enter ⟨context, []⟩) rfl, rfl, rfl, rfl, rfl⟩
  have hfirst : span.spanId = 0 := by
    rw [hspan, hcontext.nextSeq]
    rfl
  have hfinish := @Scope.step_finishSpan b64 _ _ _ 0 ⟨0⟩ ⟨0⟩ live₁ held₁
  rw [if_pos hfirst, hreported₁] at hfinish
  exact ⟨s₁, _, _, hcreate, hfinish, hreported₁, rfl⟩

/-- A scope with one span, in the process. -/
lemma process_round {current : CurrentTracingContext}
    (hnew : CurrentTracingContext.new reporter.config ⟨1, ⟨10 ^ 9⟩⟩ ⟨2, ⟨10 ^ 9⟩⟩ = .ok current)
    (p : Process) :
    ∃ p' context, run (Process.step b64 reporter) p (round p.scopes.length) = some p'
      ∧ p'.scopes.length = p.scopes.length + 1
      ∧ p'.handOvers = p.handOvers ++ [HandOver.of p.worker.channel context]
      ∧ p'.worker.channel = (HandOver.of p.worker.channel context).after := by
  obtain ⟨s₁, s₂, context, hcreate, hfinish, hreported₁, hreported₂⟩ :=
    @scope_round b64 _ _ hnew
  let opened : Process := { p with scopes := p.scopes ++ [s₁] }
  have henter : p.step b64 reporter (.enter ⟨1, ⟨10 ^ 9⟩⟩ ⟨2, ⟨10 ^ 9⟩⟩)
      = some { p with scopes := p.scopes ++ [Scope.enter current] } := by
    rw [Process.step, hnew]
  have hcall : Process.step b64 reporter { p with scopes := p.scopes ++ [Scope.enter current] }
      (.call p.scopes.length (.tracingLocal "job" .cache ⟨0⟩)) = some opened := by
    simp [Process.step, hcreate, Process.update, hreported₁, opened]
  have hlast : opened.step b64 reporter (.call p.scopes.length (.finishSpan 0 ⟨0⟩ ⟨0⟩))
      = some (Process.handOver { p with scopes := p.scopes ++ [s₂] } context) := by
    simp [Process.step, opened, hfinish, Process.update, hreported₁, hreported₂]
  refine ⟨Process.handOver { p with scopes := p.scopes ++ [s₂] } context, context, ?_, ?_, rfl,
    rfl⟩
  · rw [round, run_cons, henter, Option.bind_some, run_cons, hcall, Option.bind_some, run_cons,
      hlast]
    rfl
  · simp [Process.handOver]

/-- The scopes fill the channel, as long as there is room in it. -/
lemma run_rounds {current : CurrentTracingContext}
    (hnew : CurrentTracingContext.new reporter.config ⟨1, ⟨10 ^ 9⟩⟩ ⟨2, ⟨10 ^ 9⟩⟩ = .ok current)
    (hempty : reporter.channel.queue = []) (halive : reporter.channel.receiverAlive = true)
    {n : ℕ} (hn : n ≤ reporter.channel.capacity) :
    ∃ p, run (Process.step b64 reporter) (Process.start reporter clock) (rounds n) = some p
      ∧ p.scopes.length = n ∧ p.worker.channel.queue.length = n
      ∧ p.worker.channel.receiverAlive = true
      ∧ p.worker.channel.capacity = reporter.channel.capacity := by
  induction n with
  | zero => exact ⟨Process.start reporter clock, rfl, rfl, by simp [Process.start, Worker.start,
      hempty], halive, rfl⟩
  | succ n ih =>
      obtain ⟨p, hrun, hscopes, hqueue, halive', hcapacity⟩ := ih (by omega)
      obtain ⟨p', context, hrun', hscopes', -, hchannel⟩ := @process_round b64 _ _ hnew p
      have hroom : ¬ p.worker.channel.IsFull := by
        rw [Mailbox.IsFull, hqueue, hcapacity]
        omega
      have hof : (HandOver.of p.worker.channel context).after
          = { p.worker.channel with queue := p.worker.channel.queue ++ [context] } := by
        simp [HandOver.of, Reporter.reportTrace, Mailbox.trySend, halive', hroom]
      rw [hof] at hchannel
      refine ⟨p', ?_, by omega, ?_, ?_, ?_⟩
      · rw [rounds, List.range_succ, List.flatMap_append, List.flatMap_singleton]
        rw [hscopes] at hrun'
        exact run_append_eq_some.mpr ⟨p, hrun, hrun'⟩
      · rw [hchannel]
        simp [hqueue]
      · rw [hchannel]
        exact halive'
      · rw [hchannel]
        exact hcapacity

end Run

/-- Two scopes hand their contexts over while there is room. -/
theorem handOvers_kept_demo : ∃ p,
    run (Process.step .standard .demo) (Process.start .demo 0) (rounds 2) = some p
      ∧ p.handOvers.length = 2 ∧ ∀ h ∈ p.handOvers, h.Kept := by
  have hend : (run (Process.step .standard .demo) (Process.start .demo 0) (rounds 2)).map
      (fun p => (p.handOvers.length, decide (∀ h ∈ p.handOvers, ¬ h.MetFull)))
        = some (2, true) := by decide +kernel
  obtain ⟨p, hrun, hp⟩ := Option.map_eq_some_iff.mp hend
  obtain ⟨hlength, hroom⟩ := Prod.mk.inj hp
  exact ⟨p, hrun, hlength, (handOvers_kept_iff hrun).2.2.mpr (of_decide_eq_true hroom)⟩

/-- While the worker is still connecting, the scope after the first `SKW_CHAN_SIZE` ones
loses its context. -/
theorem handOver_lost : ∃ p,
    run (Process.step .standard .demo) (Process.start .demo 0) (rounds (Reporter.skwChanSize + 1))
        = some p
      ∧ ∃ h ∈ p.handOvers, ¬ h.Kept := by
  obtain ⟨current, hnew⟩ := Reporter.exists_scope_demo
  obtain ⟨p, hrun, hscopes, hqueue, halive, hcapacity⟩ :=
    @run_rounds .standard .demo 0 _ hnew rfl rfl Reporter.skwChanSize le_rfl
  obtain ⟨p', context, hrun', -, hhandOvers, -⟩ := @process_round .standard .demo _ hnew p
  refine ⟨p', ?_, HandOver.of p.worker.channel context, ?_, ?_⟩
  · rw [rounds, List.range_succ, List.flatMap_append, List.flatMap_singleton]
    rw [hscopes] at hrun'
    exact run_append_eq_some.mpr ⟨p, hrun, hrun'⟩
  · rw [hhandOvers]
    exact List.mem_append_right _ (List.mem_singleton_self _)
  · rw [HandOver.kept_of_iff, not_not]
    refine ⟨halive, ?_⟩
    change p.worker.channel.IsFull
    rw [Mailbox.IsFull, hqueue, hcapacity]
    exact le_rfl

end Skywalking
