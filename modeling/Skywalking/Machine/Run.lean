import Mathlib

/-!
Runs of a machine given by a partial step function: `step s e` is the state after
the event `e`, and `none` where `e` is not enabled in `s`.

* `run`: the state after a list of events; `run_append` and `run_concat` cut a run.
* `run_induction`: what holds of the start and is kept by every step of a run holds
  at its end. The history is part of the property, so that it may speak about the
  events so far.
* `Along`: what holds of every event of a run and the state before it, decidable by running
  the machine; `along_invariant` is the rule of invariants for the runs along which a
  condition holds.
* `run_simulation`: a relation that every step carries over to a run of a second
  machine is carried over by every run.
-/

namespace Machine

variable {σ ε : Type*} {step : σ → ε → Option σ}

/-- The state after the events `es`, `none` as soon as one of them is not enabled. -/
def run (step : σ → ε → Option σ) (s : σ) (es : List ε) : Option σ := es.foldlM step s

@[simp] lemma run_nil (s : σ) : run step s [] = some s := rfl

@[simp] lemma run_cons (s : σ) (e : ε) (es : List ε) :
    run step s (e :: es) = (step s e).bind fun s' => run step s' es := by
  simp [run, List.foldlM_cons]

/-- A run over two lists of events is a run over the second after one over the first. -/
lemma run_append (s : σ) (es es' : List ε) :
    run step s (es ++ es') = (run step s es).bind fun s' => run step s' es' := by
  simp [run, List.foldlM_append]

lemma run_append_eq_some {s s'' : σ} {es es' : List ε} :
    run step s (es ++ es') = some s''
      ↔ ∃ s', run step s es = some s' ∧ run step s' es' = some s'' := by
  rw [run_append, Option.bind_eq_some_iff]

lemma run_cons_eq_some {s s'' : σ} {e : ε} {es : List ε} :
    run step s (e :: es) = some s''
      ↔ ∃ s', step s e = some s' ∧ run step s' es = some s'' := by
  rw [run_cons, Option.bind_eq_some_iff]

/-- The last event of a run is a step from the state before it. -/
lemma run_concat {s s'' : σ} {es : List ε} {e : ε} :
    run step s (es ++ [e]) = some s''
      ↔ ∃ s', run step s es = some s' ∧ step s' e = some s'' := by
  rw [run_append_eq_some]
  simp

/-- **Run induction**: a property of the history and the state that holds at the start
and is kept by every step holds after every run. -/
theorem run_induction {P : List ε → σ → Prop} {s₀ : σ} (hnil : P [] s₀)
    (hstep : ∀ es s e s', run step s₀ es = some s → P es s → step s e = some s' →
      P (es ++ [e]) s') {es : List ε} {s : σ} (hrun : run step s₀ es = some s) : P es s := by
  induction es using List.reverseRecOn generalizing s with
  | nil =>
      obtain rfl : s₀ = s := by simpa using hrun
      exact hnil
  | append_singleton es e ih =>
      obtain ⟨s', hs', he⟩ := run_concat.mp hrun
      exact hstep es s' e s hs' (ih hs') he

/-- What every step keeps, every run keeps. -/
theorem run_invariant {P : σ → Prop} (hstep : ∀ s e s', P s → step s e = some s' → P s')
    {s₀ s : σ} {es : List ε} (h₀ : P s₀) (hrun : run step s₀ es = some s) : P s :=
  run_induction (P := fun _ s => P s) h₀ (fun _ s e s' _ hs => hstep s e s' hs) hrun

/-! ### Conditions on the events of a run -/

/-- Every event of a run satisfies the condition in the state before it. -/
def Along (step : σ → ε → Option σ) (G : σ → ε → Prop) (s₀ : σ) (es : List ε) : Prop :=
  ∀ es₁ e es₂ s, es = es₁ ++ e :: es₂ → run step s₀ es₁ = some s → G s e

section Along

variable {G : σ → ε → Prop} {s₀ s : σ} {es es' : List ε}

/-- A condition along a run holds along its beginning. -/
lemma Along.left (h : Along step G s₀ (es ++ es')) : Along step G s₀ es := by
  rintro es₁ e es₂ s rfl hs
  exact h es₁ e (es₂ ++ es') s (by simp) hs

/-- A condition along a run holds along the rest of it. -/
lemma Along.right (h : Along step G s₀ (es ++ es')) (hrun : run step s₀ es = some s) :
    Along step G s es' := by
  rintro es₁ e es₂ t rfl ht
  exact h (es ++ es₁) e es₂ t (by simp) (run_append_eq_some.mpr ⟨s, hrun, ht⟩)

/-- A condition goes on to hold along one more event. -/
lemma Along.concat {e : ε} (h : Along step G s₀ es) (hrun : run step s₀ es = some s)
    (he : G s e) : Along step G s₀ (es ++ [e]) := by
  intro es₁ e' es₂ t hes ht
  rcases List.eq_nil_or_concat es₂ with rfl | ⟨es₃, e₃, rfl⟩
  · obtain ⟨rfl, hlast⟩ := List.append_inj' hes rfl
    obtain rfl := List.singleton_inj.mp hlast
    obtain rfl := Option.some.inj (hrun.symm.trans ht)
    exact he
  · rw [List.concat_eq_append, ← List.cons_append, ← List.append_assoc] at hes
    exact h es₁ e' es₃ t (List.append_inj' hes rfl).1 ht

lemma along_nil : Along step G s₀ [] := fun es₁ e es₂ _ hes _ => by simp at hes

/-- A condition holds along a run if it holds of the first event and along the rest. -/
lemma along_cons_iff {e : ε} : Along step G s₀ (e :: es)
    ↔ G s₀ e ∧ ∀ s, step s₀ e = some s → Along step G s es := by
  constructor
  · refine fun h => ⟨h [] e es s₀ rfl rfl, fun s hs => ?_⟩
    have happend : Along step G s₀ ([e] ++ es) := h
    exact happend.right (by rw [run_cons, hs]; rfl)
  · rintro ⟨he, hrest⟩ (- | ⟨e', es₁⟩) e'' es₂ t hes ht
    · obtain ⟨rfl, -⟩ := List.cons_eq_cons.mp hes
      obtain rfl := Option.some.inj ht
      exact he
    · obtain ⟨rfl, rfl⟩ := List.cons_eq_cons.mp hes
      obtain ⟨s, hs, ht⟩ := run_cons_eq_some.mp ht
      exact hrest s hs es₁ e'' es₂ t rfl ht

/-- Whether a condition holds along a run is found by running the machine. -/
instance decidableAlong [∀ s e, Decidable (G s e)] : ∀ s₀ es, Decidable (Along step G s₀ es)
  | _, [] => isTrue along_nil
  | s₀, e :: es =>
      match hs : step s₀ e with
      | none => decidable_of_iff (G s₀ e) (by simp [along_cons_iff, hs])
      | some s =>
          have := decidableAlong s es
          decidable_of_iff (G s₀ e ∧ Along step G s es) (by simp [along_cons_iff, hs])

/-- A condition that holds of some events in any state holds along them. -/
lemma Along.of_forall (h : ∀ e ∈ es, ∀ s, G s e) : Along step G s₀ es := by
  rintro es₁ e es₂ s rfl -
  exact h e (by simp) s

/-- A condition along a run goes on to hold along a second one. -/
lemma Along.append (h : Along step G s₀ es) (hrun : run step s₀ es = some s)
    (h' : Along step G s es') : Along step G s₀ (es ++ es') := by
  intro es₁ e es₂ t hes ht
  rcases List.append_eq_append_iff.mp hes with ⟨rest, rfl, hes'⟩ | ⟨rest, rfl, hrest⟩
  · obtain ⟨s', hs', hrest⟩ := run_append_eq_some.mp ht
    obtain rfl := Option.some.inj (hrun.symm.trans hs')
    exact h' rest e es₂ t hes' hrest
  · cases rest with
    | nil =>
        rw [List.append_nil] at hrun
        obtain rfl := Option.some.inj (hrun.symm.trans ht)
        exact h' [] e es₂ s (by simpa using hrest.symm) rfl
    | cons e' rest =>
        obtain ⟨rfl, -⟩ := List.cons_eq_cons.mp hrest
        exact h es₁ e rest t rfl ht

/-- **Invariants along a run**: what every step keeps that meets the condition, every run
keeps along which the condition holds. -/
theorem along_invariant {P : σ → Prop}
    (hstep : ∀ s e s', G s e → P s → step s e = some s' → P s') (h₀ : P s₀)
    (halong : Along step G s₀ es) (hrun : run step s₀ es = some s) : P s := by
  refine run_induction (P := fun es s => Along step G s₀ es → P s) (fun _ => h₀) ?_ hrun halong
  intro es s e s' hs ih he h
  exact hstep s e s' (h es e [] s rfl hs) (ih h.left) he

end Along

/-- **Simulation of runs**: when a step of the first machine is matched by a run of the
second over the events it maps to, so is every run. -/
theorem run_simulation {σ' ε' : Type*} {step' : σ' → ε' → Option σ'} (f : ε → List ε')
    {R : σ → σ' → Prop}
    (hstep : ∀ s t e s', R s t → step s e = some s' →
      ∃ t', run step' t (f e) = some t' ∧ R s' t')
    {s s' : σ} {t : σ'} {es : List ε} (hR : R s t) (hrun : run step s es = some s') :
    ∃ t', run step' t (es.flatMap f) = some t' ∧ R s' t' := by
  induction es generalizing s t with
  | nil =>
      obtain rfl : s = s' := by simpa using hrun
      exact ⟨t, by simp, hR⟩
  | cons e es ih =>
      obtain ⟨s₁, hs₁, hes⟩ := run_cons_eq_some.mp hrun
      obtain ⟨t₁, ht₁, hR₁⟩ := hstep s t e s₁ hR hs₁
      obtain ⟨t', ht', hR'⟩ := ih hR₁ hes
      exact ⟨t', by rw [List.flatMap_cons, run_append, ht₁]; exact ht', hR'⟩

end Machine
