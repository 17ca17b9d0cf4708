import Skywalking.Reporting

/-!
The process after its worker is gone.

The receiver of the channel belongs to the worker task. When the task ends, whether it panics or
its runtime is shut down, the receiver is dropped and with it all that waits. The scopes go on, and
`report_trace` writes what they hand over to the log.

* `Gone.step`, `gone_of_run`: without a receiver, the worker stays as it is and each context
  handed over is logged.
* `lost_with_worker`: **what is lost with the worker** is what waits when its receiver is dropped,
  in every run through such a moment.
-/

namespace Skywalking

open RustStd Machine
open scoped List

/-- The context was not accepted, but written to the log. -/
def HandOver.Logged (h : HandOver) : Prop :=
  h.returned = false ∧ h.logged = [.channelDisconnected h.context]

namespace Process

variable {b64 : Base64} {reporter : Reporter} {p p' : Process} {e : ProcessEvent}

/-- There is no receiver any more. -/
def Gone (p : Process) : Prop := p.worker.channel.receiverAlive = false

/-- The process `p'` has come from `p`, without a receiver: the worker is the same, and all
that was handed over in between was logged. -/
structure Logs (p p' : Process) : Prop where
  worker : p'.worker = { p.worker with channel := p'.worker.channel }
  gone : p'.Gone
  handOvers : ∃ later, p'.handOvers = p.handOvers ++ later ∧ ∀ h ∈ later, h.Logged

lemma Logs.refl (h : p.Gone) : Logs p p := ⟨rfl, h, [], (List.append_nil _).symm, by simp⟩

lemma Logs.trans {q : Process} (h : Logs p p') (h' : Logs p' q) : Logs p q := by
  obtain ⟨hworker, -, later, heq, hlogged⟩ := h
  obtain ⟨hworker', hgone, later', heq', hlogged'⟩ := h'
  refine ⟨?_, hgone, later ++ later', ?_, ?_⟩
  · rw [hworker', hworker]
  · rw [heq', heq, List.append_assoc]
  · intro h hh
    rcases List.mem_append.mp hh with hh | hh
    · exact hlogged h hh
    · exact hlogged' h hh

/-- A context that is handed over when there is no receiver is logged. -/
lemma Gone.handOver (h : p.Gone) (context : TracingContext) : Logs p (p.handOver context) := by
  have hof : HandOver.of p.worker.channel context
      = ⟨context, p.worker.channel, p.worker.channel, false, [.channelDisconnected context]⟩ := by
    simp [HandOver.of, Reporter.reportTrace, Mailbox.trySend, show _ = false from h]
  refine ⟨?_, ?_, [HandOver.of p.worker.channel context], rfl, ?_⟩
  · simp [Process.handOver, hof]
  · rw [Gone, Process.handOver, hof]
    exact h
  · intro h' hh
    rw [List.mem_singleton.mp hh, hof]
    exact ⟨rfl, rfl⟩

lemma Gone.foldl_handOver (h : p.Gone) (contexts : List TracingContext) :
    Logs p (contexts.foldl Process.handOver p) := by
  induction contexts generalizing p with
  | nil => exact .refl h
  | cons context contexts ih => exact (h.handOver context).trans (ih (h.handOver context).gone)

/-- The loss of the receiver itself hands nothing over. -/
lemma logs_of_dropReceiver (hs : p.step b64 reporter .dropReceiver = some p') : Logs p p' := by
  obtain rfl := Option.some.inj hs
  exact ⟨rfl, rfl, [], (List.append_nil _).symm, by simp⟩

/-- **An event without a receiver**: it is not one of the worker, and what it hands over is
logged. -/
theorem Gone.step (h : p.Gone) (hs : p.step b64 reporter e = some p') : Logs p p' := by
  by_cases he : e = .dropReceiver
  · subst he
    exact logs_of_dropReceiver hs
  · rcases worker_cases hs he with ⟨we, rfl, hdrop, hsend, -, -⟩ | ⟨-, q, contexts, hworker,
      hhandOvers, rfl⟩
    · -- the worker takes no step without its receiver
      cases we with
      | trySend ctx => exact absurd rfl (hsend ctx)
      | dropSender => exact absurd rfl hdrop
      | _ => simp [Process.step, show _ = false from h] at hs
    · have hq : q.Gone := by rw [Gone, hworker]; exact h
      obtain ⟨hsame, hgone, later, heq, hlogged⟩ := hq.foldl_handOver contexts
      refine ⟨?_, hgone, later, ?_, hlogged⟩
      · rw [← hworker]
        exact hsame
      · rw [heq, hhandOvers]

lemma gone_of_run (h : p.Gone) {es : List ProcessEvent}
    (hrun : run (Process.step b64 reporter) p es = some p') : Logs p p' :=
  run_invariant (P := Logs p) (fun _ _ _ ht hs => ht.trans (ht.gone.step hs)) (.refl h) hrun

/-- **What is lost with the worker**: if the receiver is dropped for the first time in the state
`p₁` of a run, then every context that the scopes ever report was in a batch disposed of before, or
was in the backlog of the worker in `p₁`, or was refused by a full channel before, or is in the
log. Nothing has an effect on the outside any more except the log; so what was buffered or queued
is lost, and of the batch being sent there is what `pending` shows. -/
theorem lost_with_worker {clock : Instant} {es₁ es₂ : List ProcessEvent} {p₁ : Process}
    (hempty : reporter.channel.queue = [])
    (hrun₁ : run (Process.step b64 reporter) (start reporter clock) es₁ = some p₁)
    (hes : .dropReceiver ∉ es₁)
    (hrun : run (Process.step b64 reporter) p₁ (.dropReceiver :: es₂) = some p) :
    ∃ ds batch pending later, Books b64 reporter.workerConfig p₁.worker ds batch pending
      ∧ p.worker.effects = p₁.worker.effects
      ∧ p.handOvers = p₁.handOvers ++ later ∧ (∀ h ∈ later, h.Logged)
      ∧ (p.scopes.flatMap Scope.reported).Perm
        ((ds.flatMap fun d => d.batch.contexts) ++ p₁.worker.backlog ++ p₁.refusals
          ++ later.map HandOver.context) := by
  obtain ⟨p₂, hs, hrun₂⟩ := run_cons_eq_some.mp hrun
  have hsound₁ := sound_of_run hrun₁
  have hsound : p.Sound := sound_of_run (run_append_eq_some.mpr ⟨p₁, hrun₁, hrun⟩)
  obtain ⟨ds, batch, pending, hbooks⟩ := accounts_of_run hempty hrun₁ hes
  have hdropped := logs_of_dropReceiver hs
  obtain ⟨hworker, -, later, heq, hlogged⟩ := hdropped.trans (gone_of_run hdropped.gone hrun₂)
  refine ⟨ds, batch, pending, later, hbooks, by rw [hworker], heq, hlogged, ?_⟩
  calc p.scopes.flatMap Scope.reported
      ~ p.handOvers.map HandOver.context := hsound.contexts.symm
    _ = p₁.handOvers.map HandOver.context ++ later.map HandOver.context := by
        rw [heq, List.map_append]
    _ ~ p₁.scopes.flatMap Scope.reported ++ later.map HandOver.context :=
        hsound₁.contexts.append_right _
    _ ~ p₁.worker.accepted ++ p₁.refusals ++ later.map HandOver.context :=
        (reported_perm hempty hrun₁ hes).append_right _
    _ = _ := by rw [hbooks.accepted_eq_backlog]

/-- Whatever happens in a run has had its effects before the receiver was dropped, if it was. -/
lemma exists_before_drop {clock : Instant} {es : List ProcessEvent}
    (hrun : run (Process.step b64 reporter) (start reporter clock) es = some p) :
    ∃ es₁ p₁, .dropReceiver ∉ es₁
      ∧ run (Process.step b64 reporter) (start reporter clock) es₁ = some p₁
      ∧ p.worker.effects = p₁.worker.effects ∧ p₁.handOvers <+: p.handOvers := by
  by_cases hes : .dropReceiver ∈ es
  · obtain ⟨es₁, es₂, rfl, hbefore⟩ := List.eq_append_cons_of_mem hes
    obtain ⟨p₁, hrun₁, hrest⟩ := run_append_eq_some.mp hrun
    obtain ⟨p₂, hs, hrun₂⟩ := run_cons_eq_some.mp hrest
    have hdropped := logs_of_dropReceiver hs
    obtain ⟨hworker, -, later, heq, -⟩ := hdropped.trans (gone_of_run hdropped.gone hrun₂)
    exact ⟨es₁, p₁, hbefore, hrun₁, by rw [hworker], later, heq.symm⟩
  · exact ⟨es, p, hes, hrun, rfl, List.prefix_rfl⟩

end Process

/-- Two scopes report their contexts; the worker ends between them, with the first one queued. -/
theorem Process.lost_with_worker_demo : ∃ p₁ p,
    run (Process.step .standard .demo) (Process.start .demo 0) (rounds 1) = some p₁
      ∧ run (Process.step .standard .demo) p₁ (.dropReceiver :: round 1) = some p
      ∧ ∃ ds batch pending later,
        Books .standard Reporter.demo.workerConfig p₁.worker ds batch pending
          ∧ p.handOvers = p₁.handOvers ++ later ∧ (∀ h ∈ later, h.Logged)
          ∧ (p.scopes.flatMap Scope.reported).Perm
            ((ds.flatMap fun d => d.batch.contexts) ++ p₁.worker.backlog ++ p₁.refusals
              ++ later.map HandOver.context) := by
  obtain ⟨p₁, p, hrun₁, hrun⟩ : ∃ p₁ p,
      run (Process.step .standard .demo) (Process.start .demo 0) (rounds 1) = some p₁
        ∧ run (Process.step .standard .demo) p₁ (.dropReceiver :: round 1) = some p :=
    ⟨_, _, rfl, rfl⟩
  obtain ⟨ds, batch, pending, later, hbooks, -, heq, hlogged, hperm⟩ :=
    Process.lost_with_worker rfl hrun₁ (by simp [rounds, round]) hrun
  exact ⟨p₁, p, hrun₁, hrun, ds, batch, pending, later, hbooks, heq, hlogged, hperm⟩

end Skywalking
