import Skywalking.Agent.Progress

/-!
What the worker has disposed of stays disposed of.

The worker never looks at what it has accepted or at the effects it has had. So a run goes
the same way whatever came before it, and the books can be continued from any state.

* `Worker.withPast`, `run_withPast`: a longer past changes nothing.
* `Books.of_run`: **the books are continued**: the disposals of a run come behind those
  before it.
-/

namespace Skywalking

open RustStd Machine

namespace Worker

variable {b64 : Base64} {config : Config} {w w' : Worker} {es : List WorkerEvent}

/-- The worker with more behind it: contexts accepted and effects had before. -/
def withPast (w : Worker) (accepted : List TracingContext) (effects : List Effect) : Worker :=
  { w with accepted := accepted ++ w.accepted, effects := effects ++ w.effects }

variable {accepted : List TracingContext} {effects : List Effect}

lemma proceed_withPast (w : Worker) :
    (w.withPast accepted effects).proceed b64 config
      = (w.proceed b64 config).map fun w' => w'.withPast accepted effects := by
  cases phase : w.phase with
  | loopHead =>
      simp only [proceed, withPast, phase]
      split_ifs <;> rfl
  | received =>
      simp only [proceed, withPast, phase]
      split_ifs <;> rfl
  | returned i batch status =>
      simp only [proceed, withPast, phase, List.append_assoc]
      split_ifs
      · rfl
      · simp
      · rfl
  | _ => simp [proceed, withPast, phase]

/-- **The worker never looks back**. -/
lemma step_withPast (w : Worker) (e : WorkerEvent) :
    (w.withPast accepted effects).step b64 config e
      = (w.step b64 config e).map fun w' => w'.withPast accepted effects := by
  cases e with
  | tick d => rfl
  | trySend ctx =>
      simp only [step, withPast]
      cases w.channel.trySend ctx with
      | ok channel => simp
      | error e => rfl
  | dropSender => rfl
  | connect ok =>
      cases phase : w.phase with
      | retrieving resume asleep =>
          simp only [step, withPast, phase]
          cases asleep with
          | none => cases ok <;> cases resume <;> rfl
          | some since => rfl
      | _ => simp [step, withPast, phase]
  | wake =>
      cases phase : w.phase with
      | retrieving resume asleep =>
          simp only [step, withPast, phase]
          cases asleep with
          | none => rfl
          | some since =>
              simp only
              split_ifs <;> rfl
      | pausing i batch since =>
          simp only [step, withPast, phase]
          split_ifs <;> rfl
      | _ => simp [step, withPast, phase]
  | recv =>
      cases phase : w.phase with
      | receiving since =>
          simp only [step, withPast, phase]
          cases w.channel.recv <;> rfl
      | _ => simp [step, withPast, phase]
  | timeout =>
      cases phase : w.phase with
      | receiving since =>
          simp only [step, withPast, phase]
          split_ifs <;> rfl
      | _ => simp [step, withPast, phase]
  | collected error =>
      cases phase : w.phase with
      | collecting i batch =>
          simp only [step, withPast, phase, List.append_assoc]
          cases error with
          | none => rfl
          | some code =>
              simp only
              split_ifs <;> rfl
      | _ => simp [step, withPast, phase]
  | proceed => exact proceed_withPast w

/-- A run goes the same way with a longer past. -/
lemma run_withPast (w : Worker) (es : List WorkerEvent) :
    run (step b64 config) (w.withPast accepted effects) es
      = (run (step b64 config) w es).map fun w' => w'.withPast accepted effects := by
  induction es generalizing w with
  | nil => rfl
  | cons e es ih =>
      rw [run_cons, run_cons, step_withPast]
      cases w.step b64 config e with
      | none => rfl
      | some w' => exact ih w'

end Worker

section Books

variable {b64 : Base64} {config : Config} {w w' : Worker} {ds : List Disposal} {batch : Batch}
  {pending : List Effect} {es : List WorkerEvent}

/-- **The books are continued**: the disposals of a run come behind those before it. -/
theorem Books.of_run (h : Books b64 config w ds batch pending)
    (hrun : run (Worker.step b64 config) w es = some w') :
    ∃ new batch' pending', Books b64 config w' (ds ++ new) batch' pending' := by
  -- the worker without what it has disposed of
  let fresh : Worker := { w with
    accepted := batch.contexts ++ (Batch.contexts w.vec ++ w.channel.queue)
    effects := pending }
  have hfresh : Accounts b64 config fresh := ⟨[], batch, pending, h.sending, rfl, rfl⟩
  have hw : w = fresh.withPast (ds.flatMap fun d => d.batch.contexts)
      (ds.flatMap (Disposal.effects b64 config)) := by
    simp only [Worker.withPast, fresh, ← h.effects_eq, ← List.append_assoc]
    rw [List.append_assoc _ (Batch.contexts w.vec), ← h.accepted_eq]
  rw [hw, Worker.run_withPast] at hrun
  obtain ⟨w₁, hrun₁, rfl⟩ := Option.map_eq_some_iff.mp hrun
  obtain ⟨new, batch', pending', hbooks⟩ :=
    run_invariant (fun _ _ _ h hs => Accounts.step h hs) hfresh hrun₁
  refine ⟨new, batch', pending', hbooks.sending, ?_, ?_⟩
  · rw [Worker.withPast, hbooks.effects_eq, List.flatMap_append, List.append_assoc]
  · simp only [Worker.withPast, hbooks.accepted_eq, List.flatMap_append, List.append_assoc]

end Books

end Skywalking
