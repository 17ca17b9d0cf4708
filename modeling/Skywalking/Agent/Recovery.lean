import Skywalking.Agent.Finality

/-!
The worker while the collector answers.

Attempts that have failed stay in the effects, before the batch they were made for. If no attempt
fails any more, then only the batch that is being sent has failed attempts left, and each one after
it is acknowledged at once.

* `Effect.Fails`, `later_of_run`: a run in which no attempt fails adds no failed attempt.
* `Disposal.AtOnce`: a batch that was acknowledged at the first attempt.
* `Books.of_answered_run`: **the books are continued with batches acknowledged at once**, but for
  the first one.
-/

namespace Skywalking

open RustStd Machine

/-- The attempt has failed. -/
def Effect.Fails : Effect → Prop
  | .collect _ (some _) => True
  | _ => False

/-- No attempt fails. -/
def Answered (es : List WorkerEvent) : Prop := ∀ code, WorkerEvent.collected (some code) ∉ es

namespace Worker

variable {b64 : Base64} {config : Config} {w w' : Worker} {e : WorkerEvent}
  {es : List WorkerEvent}

/-- Only an attempt that fails has failed. -/
lemma Step.later (h : Step b64 config w e w') (he : ∀ code, e ≠ .collected (some code)) :
    ∃ later, w'.effects = w.effects ++ later ∧ ∀ effect ∈ later, ¬ effect.Fails := by
  cases h with
  | @connected resume phase =>
      refine ⟨[], ?_, by simp⟩
      cases resume <;> exact (List.append_nil _).symm
  | collected phase => exact ⟨_, rfl, by simp [Effect.Fails]⟩
  | @failed i batch code phase transient => exact absurd rfl (he code)
  | @broken i batch code phase transient => exact absurd rfl (he code)
  | backUp phase => exact ⟨_, rfl, by simp [Effect.Fails]⟩
  | _ => exact ⟨[], (List.append_nil _).symm, by simp⟩

lemma later_of_run (hrun : run (step b64 config) w es = some w') (hes : Answered es) :
    ∃ later, w'.effects = w.effects ++ later ∧ ∀ effect ∈ later, ¬ effect.Fails := by
  refine run_induction (P := fun es w' => Answered es →
      ∃ later, w'.effects = w.effects ++ later ∧ ∀ effect ∈ later, ¬ effect.Fails)
    (fun _ => ⟨[], (List.append_nil _).symm, by simp⟩) (fun es t e t' _ ih hs hes' => ?_) hrun hes
  obtain ⟨later, heq, hlater⟩ := ih fun code h => hes' code (List.mem_append_left _ h)
  have he : ∀ code, e ≠ .collected (some code) := by
    rintro code rfl
    exact hes' code (List.mem_append_right _ (List.mem_singleton_self _))
  obtain ⟨new, heq', hnew⟩ := (step_cases hs).later he
  refine ⟨later ++ new, by rw [heq', heq, List.append_assoc], fun effect heffect => ?_⟩
  rcases List.mem_append.mp heffect with heffect | heffect
  · exact hlater effect heffect
  · exact hnew effect heffect

end Worker

/-! ### The failed attempts of a batch -/

section Batch

variable {b64 : Base64} {config : Config} {w w' : Worker} {ds : List Disposal} {batch : Batch}
  {pending : List Effect} {es : List WorkerEvent}

lemma fails_of_mem_attempts {failures : List Code} {effect : Effect}
    (h : effect ∈ attempts b64 config batch failures) : effect.Fails := by
  obtain ⟨code, -, rfl⟩ := List.mem_map.mp h
  exact trivial

/-- The batch was acknowledged at the first attempt. -/
def Disposal.AtOnce (d : Disposal) : Prop := ∃ batch few, d = .acknowledged batch [] few

/-- The last effect of a disposal is not a failed attempt. -/
lemma Disposal.exists_last (b64 : Base64) (config : Config) (d : Disposal) :
    ∃ failures last, d.effects b64 config = attempts b64 config d.batch failures ++ [last]
      ∧ ¬ last.Fails := by
  cases d with
  | acknowledged batch failures few => exact ⟨failures, _, rfl, fun h => h⟩
  | backedUp batch failures all => exact ⟨failures, _, rfl, fun h => h⟩

/-- A disposal without a failed attempt is an acknowledgement at once. -/
lemma Disposal.atOnce_of_effects {d : Disposal}
    (h : ∀ effect ∈ d.effects b64 config, ¬ effect.Fails) : d.AtOnce := by
  have hnone : ∀ failures : List Code,
      (∀ effect ∈ attempts b64 config d.batch failures, ¬ effect.Fails) → failures = [] := by
    intro failures hfails
    cases failures with
    | nil => rfl
    | cons code failures =>
        exact absurd trivial (hfails (.collect _ (some code)) List.mem_cons_self)
  cases d with
  | acknowledged batch failures few =>
      obtain rfl := hnone failures fun effect heffect => h effect (List.mem_append_left _ heffect)
      exact ⟨batch, few, rfl⟩
  | backedUp batch failures all =>
      obtain rfl := hnone failures fun effect heffect => h effect (List.mem_append_left _ heffect)
      cases all

/-- All attempts for a batch that is being sent have failed but the last one. -/
lemma Pending.fails_dropLast {phase : Phase} {vec : Batch}
    (h : Pending b64 config phase vec batch pending) :
    ∀ effect ∈ pending.dropLast, effect.Fails := by
  intro effect heffect
  cases h with
  | idle idle => exact absurd heffect List.not_mem_nil
  | succeeded hi hlength =>
      rw [List.dropLast_concat] at heffect
      exact fails_of_mem_attempts heffect
  | flushed => exact absurd heffect List.not_mem_nil
  | _ => exact fails_of_mem_attempts (List.dropLast_subset _ heffect)

/-- The effects of a batch that is being sent do not go on behind the last one of a disposal. -/
lemma Pending.eq_nil_of_append {phase : Phase} {vec : Batch}
    (h : Pending b64 config phase vec batch pending) (d : Disposal) {more : List Effect}
    (heq : pending = d.effects b64 config ++ more) : more = [] := by
  by_contra hne
  obtain ⟨failures, last, heffects, hlast⟩ := d.exists_last b64 config
  refine hlast (h.fails_dropLast last ?_)
  rw [heq, heffects, List.dropLast_append_of_ne_nil hne]
  exact List.mem_append_left _ (List.mem_append_right _ (List.mem_singleton_self _))

/-- **While the collector answers**, the books are continued with batches that are acknowledged at
once, but for the batch that is being sent at the beginning if an attempt for it has failed. -/
theorem Books.of_answered_run (h : Books b64 config w ds batch pending)
    (hrun : run (Worker.step b64 config) w es = some w') (hes : Answered es) :
    ∃ new batch' pending', Books b64 config w' (ds ++ new) batch' pending'
      ∧ (∀ d ∈ new.tail, d.AtOnce) ∧ (pending = [] → ∀ d ∈ new, d.AtOnce) := by
  obtain ⟨new, batch', pending', hbooks⟩ := h.of_run hrun
  obtain ⟨later, heq, hlater⟩ := Worker.later_of_run hrun hes
  have hsplit : new.flatMap (Disposal.effects b64 config) ++ pending' = pending ++ later := by
    have hall := hbooks.effects_eq.symm.trans heq
    rw [h.effects_eq, List.flatMap_append, List.append_assoc, List.append_assoc] at hall
    exact List.append_cancel_left hall
  have hatOnce : ∀ d : Disposal, d.effects b64 config ⊆ later → d.AtOnce := fun d hd =>
    Disposal.atOnce_of_effects fun effect heffect => hlater effect (hd heffect)
  refine ⟨new, batch', pending', hbooks, ?_, ?_⟩
  · cases new with
    | nil => exact fun d hd => absurd hd List.not_mem_nil
    | cons first rest =>
        intro d hd
        refine hatOnce d fun effect heffect => ?_
        have hmem : effect ∈ rest.flatMap (Disposal.effects b64 config) ++ pending' :=
          List.mem_append_left _ (List.mem_flatMap.mpr ⟨d, hd, heffect⟩)
        rw [List.flatMap_cons, List.append_assoc] at hsplit
        -- what had happened before belongs to the first batch
        rcases List.append_eq_append_iff.mp hsplit with ⟨more, hpending, hmore⟩ |
          ⟨more, -, hmore⟩
        · rw [h.sending.eq_nil_of_append first hpending, List.nil_append] at hmore
          rw [← hmore]
          exact hmem
        · rw [hmore]
          exact List.mem_append_right _ hmem
  · rintro rfl d hd
    refine hatOnce d fun effect heffect => ?_
    rw [List.nil_append] at hsplit
    rw [← hsplit]
    exact List.mem_append_left _ (List.mem_flatMap.mpr ⟨d, hd, heffect⟩)

end Batch

end Skywalking
