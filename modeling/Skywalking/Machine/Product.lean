import Skywalking.Machine.Run

/-!
Machines side by side. Each of them has a state of its own; an event is one of theirs, and
the states of the others stay what they are.

* `product`: the machine of all of them. `on i` is what one of them sees of the events.
* `run_product`: **a run of the product is a run of each machine**, over what it sees of it.
-/

namespace Machine

variable {ι σ ε : Type*} [DecidableEq ι] {step : ι → σ → ε → Option σ}

/-- The machine `i` makes the step `e`. -/
def product (step : ι → σ → ε → Option σ) (d : ι → σ) (e : ι × ε) : Option (ι → σ) :=
  (step e.1 (d e.1) e.2).map (Function.update d e.1)

/-- The events of the machine `i`, in order. -/
def on (i : ι) (es : List (ι × ε)) : List ε :=
  es.filterMap fun e => if e.1 = i then some e.2 else none

@[simp] lemma on_append (i : ι) (es es' : List (ι × ε)) :
    on i (es ++ es') = on i es ++ on i es' := List.filterMap_append

lemma mem_on {i : ι} {e : ε} {es : List (ι × ε)} : e ∈ on i es ↔ (i, e) ∈ es := by
  rw [on, List.mem_filterMap]
  constructor
  · rintro ⟨⟨j, e'⟩, hmem, h⟩
    split_ifs at h with hj
    obtain rfl := Option.some.inj h
    subst hj
    exact hmem
  · intro hmem
    exact ⟨(i, e), hmem, if_pos rfl⟩

lemma on_singleton_self (i : ι) (e : ε) : on i [(i, e)] = [e] := by
  simp [on]

lemma on_singleton_ne {i j : ι} (h : j ≠ i) (e : ε) : on i [(j, e)] = [] := by
  simp [on, h]

lemma product_eq_some {d d' : ι → σ} {i : ι} {e : ε} :
    product step d (i, e) = some d'
      ↔ ∃ s, step i (d i) e = some s ∧ d' = Function.update d i s := by
  rw [product, Option.map_eq_some_iff]
  constructor
  · rintro ⟨s, hs, rfl⟩
    exact ⟨s, hs, rfl⟩
  · rintro ⟨s, hs, rfl⟩
    exact ⟨s, hs, rfl⟩

/-- **A run of the product is a run of each machine**: of the others, a machine sees nothing. -/
theorem run_product {d d' : ι → σ} {es : List (ι × ε)} (hrun : run (product step) d es = some d')
    (i : ι) : run (step i) (d i) (on i es) = some (d' i) := by
  refine run_induction (P := fun es d' => run (step i) (d i) (on i es) = some (d' i)) rfl ?_ hrun
  rintro es d₁ ⟨j, e⟩ d₂ - ih hs
  obtain ⟨s, hstep, rfl⟩ := product_eq_some.mp hs
  rw [on_append]
  by_cases hj : j = i
  · subst hj
    rw [on_singleton_self, run_concat, Function.update_self]
    exact ⟨d₁ j, ih, hstep⟩
  · rw [on_singleton_ne hj, List.append_nil, ih, Function.update_of_ne (Ne.symm hj)]

end Machine
