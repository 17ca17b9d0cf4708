import Skywalking.Machine.Run

/-!
Runs that go on for ever, and what happens in them in the end.

* `Forever`: an infinite run of a machine; `run_upTo` and `invariant` carry over what is
  known of finite runs.
* `Forever.eventually`: **the rule of measures**: what keeps a measure from falling for ever
  happens.
* `Forever.follow`: the infinite run that a scheduler makes, if the event it chooses can
  always happen.
-/

namespace Machine

variable {σ ε : Type*} {step : σ → ε → Option σ}

/-- An infinite run. -/
structure Forever (step : σ → ε → Option σ) where
  state : ℕ → σ
  event : ℕ → ε
  next : ∀ n, step (state n) (event n) = some (state (n + 1))

namespace Forever

variable (r : Forever step)

/-- The first `n` events. -/
def upTo (n : ℕ) : List ε := (List.range n).map r.event

/-- The run from its `n`-th state on. -/
def after (n : ℕ) : Forever step where
  state m := r.state (n + m)
  event m := r.event (n + m)
  next m := r.next (n + m)

@[simp] lemma state_after (n m : ℕ) : (r.after n).state m = r.state (n + m) := rfl

@[simp] lemma event_after (n m : ℕ) : (r.after n).event m = r.event (n + m) := rfl

/-- What happens later happens in the rest of the run. -/
lemma exists_after (Q : ε → Prop) {n k : ℕ} (h : ∃ m ≥ n + k, Q (r.event m)) :
    ∃ m ≥ k, Q ((r.after n).event m) := by
  obtain ⟨m, hm, hQ⟩ := h
  obtain ⟨d, rfl⟩ := Nat.exists_eq_add_of_le hm
  exact ⟨k + d, Nat.le_add_right k d, by rwa [event_after, ← Nat.add_assoc]⟩

/-- Every state is the end of a finite run. -/
lemma run_upTo (n : ℕ) : run step (r.state 0) (r.upTo n) = some (r.state n) := by
  induction n with
  | zero => rfl
  | succ n ih =>
      rw [upTo, List.range_succ, List.map_append]
      exact run_concat.mpr ⟨r.state n, ih, r.next n⟩

/-- What every event of the run keeps holds at any time. -/
lemma invariant {P : σ → Prop} (h₀ : P (r.state 0))
    (hstep : ∀ n, P (r.state n) → P (r.state (n + 1))) (n : ℕ) : P (r.state n) := by
  induction n with
  | zero => exact h₀
  | succ n ih => exact hstep n ih

/-! ### What happens in the end -/

section Measure

variable {α : Type*} [Preorder α]

/-- Until `P` holds, a measure that no event raises is not raised. -/
lemma exists_or_le {P : σ → Prop} {μ : σ → α}
    (hle : ∀ n, ¬ P (r.state n) → P (r.state (n + 1)) ∨ μ (r.state (n + 1)) ≤ μ (r.state n))
    (n : ℕ) : (∃ m, P (r.state m)) ∨ μ (r.state n) ≤ μ (r.state 0) := by
  induction n with
  | zero => exact Or.inr le_rfl
  | succ n ih =>
      rcases ih with hP | hn
      · exact Or.inl hP
      · by_cases hP : P (r.state n)
        · exact Or.inl ⟨n, hP⟩
        · rcases hle n hP with hP' | hle
          · exact Or.inl ⟨n + 1, hP'⟩
          · exact Or.inr (hle.trans hn)

/-- **The rule of measures**: if no event raises a measure and time and again one lowers it,
unless `P` holds, then `P` holds at some time. -/
theorem eventually [WellFoundedLT α] (r : Forever step) {P : σ → Prop} {μ : σ → α}
    (hle : ∀ n, ¬ P (r.state n) → P (r.state (n + 1)) ∨ μ (r.state (n + 1)) ≤ μ (r.state n))
    (hlt : ∀ n, ∃ m ≥ n, ¬ P (r.state m) →
      P (r.state (m + 1)) ∨ μ (r.state (m + 1)) < μ (r.state m)) :
    ∃ m, P (r.state m) := by
  -- the measure is that of the state from which the run is considered
  induction h : μ (r.state 0) using WellFoundedLT.induction generalizing r with
  | ind a ih =>
      subst h
      obtain ⟨m, -, hm⟩ := hlt 0
      rcases r.exists_or_le hle m with hP | hfirst
      · exact hP
      by_cases hPm : P (r.state m)
      · exact ⟨m, hPm⟩
      rcases hm hPm with hP | hlower
      · exact ⟨m + 1, hP⟩
      have hrest : ∃ k, P ((r.after (m + 1)).state k) := by
        refine ih _ (lt_of_lt_of_le hlower hfirst) (r.after (m + 1)) (fun n => hle (m + 1 + n))
          (fun n => ?_) rfl
        obtain ⟨k, hk, hlow⟩ := hlt (m + 1 + n)
        obtain ⟨d, rfl⟩ := Nat.exists_eq_add_of_le hk
        exact ⟨n + d, Nat.le_add_right n d, by simpa [Nat.add_assoc] using hlow⟩
      obtain ⟨k, hk⟩ := hrest
      exact ⟨m + 1 + k, hk⟩

end Measure

/-! ### Schedulers -/

/-- The infinite run from `s₀` in which the scheduler `choose` decides what happens next. Its
choices can happen in every state with the invariant `I`, and keep it. -/
def follow (choose : σ → ε) {I : σ → Prop}
    (henabled : ∀ s, I s → ∃ s', step s (choose s) = some s' ∧ I s') {s₀ : σ} (h₀ : I s₀) :
    Forever step where
  state n := (fun s => (step s (choose s)).getD s)^[n] s₀
  event n := choose ((fun s => (step s (choose s)).getD s)^[n] s₀)
  next n := by
    have hI : ∀ n, I ((fun s => (step s (choose s)).getD s)^[n] s₀) := by
      intro n
      induction n with
      | zero => exact h₀
      | succ n ih =>
          obtain ⟨s', hs', hI'⟩ := henabled _ ih
          rw [Function.iterate_succ_apply', hs']
          exact hI'
    obtain ⟨s', hs', -⟩ := henabled _ (hI n)
    rw [Function.iterate_succ_apply', hs']
    rfl

section Follow

variable {choose : σ → ε} {I : σ → Prop}
  {henabled : ∀ s, I s → ∃ s', step s (choose s) = some s' ∧ I s'} {s₀ : σ} {h₀ : I s₀}

@[simp] lemma follow_zero : (follow choose henabled h₀).state 0 = s₀ := rfl

/-- What happens is what the scheduler chooses. -/
@[simp] lemma follow_event (n : ℕ) :
    (follow choose henabled h₀).event n = choose ((follow choose henabled h₀).state n) := rfl

end Follow

end Forever

end Machine
