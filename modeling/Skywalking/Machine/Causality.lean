import Skywalking.Machine.Run

/-!
Why relations that follow the course of a run have no cycles.

In the course of a run some things begin, and what has begun stays begun. If an edge from
`x` to `y` was made at a moment at which `y` had begun and `x` had not, then the edges
lead back in time, and no path returns to where it started.

* `Precedes`: at some moment of the run, `y` had begun and `x` had not; it is transitive
  and irreflexive.
* `not_transGen_self`: **relations that follow it are acyclic**.
* `not_transGen_of_fibres`: a relation is acyclic if it is so between the fibres of a map and goes
  down within each of them.
-/

namespace Machine

variable {σ ε α : Type*} {step : σ → ε → Option σ} {s₀ : σ} {es : List ε}

/-- After a part `es₁` of the run `es`, which has led to the state `t`, something has begun
in `y`, but not yet in `x`. -/
def Precedes (step : σ → ε → Option σ) (Begun : α → σ → Prop) (s₀ : σ) (es : List ε)
    (y x : α) : Prop :=
  ∃ es₁ t, es₁ <+: es ∧ run step s₀ es₁ = some t ∧ Begun y t ∧ ¬ Begun x t

section

variable {Begun : α → σ → Prop}
  (hkeep : ∀ x s e s', Begun x s → step s e = some s' → Begun x s')

include hkeep

/-- What has begun after a part of a run has begun after every longer one. -/
lemma begun_of_part {es₁ es₂ : List ε} {t₁ t₂ : σ} (hpart : es₁ <+: es₂)
    (h₁ : run step s₀ es₁ = some t₁) (h₂ : run step s₀ es₂ = some t₂) {x : α}
    (hx : Begun x t₁) : Begun x t₂ := by
  obtain ⟨rest, rfl⟩ := hpart
  obtain ⟨t, ht, hrest⟩ := run_append_eq_some.mp h₂
  obtain rfl := Option.some.inj (h₁.symm.trans ht)
  exact run_invariant (P := Begun x) (fun s e s' => hkeep x s e s') hx hrest

lemma Precedes.trans {x y z : α} (hzy : Precedes step Begun s₀ es z y)
    (hyx : Precedes step Begun s₀ es y x) : Precedes step Begun s₀ es z x := by
  obtain ⟨es₁, t₁, hpart₁, h₁, hz, hy⟩ := hzy
  obtain ⟨es₂, t₂, hpart₂, h₂, hy', hx⟩ := hyx
  rcases List.prefix_or_prefix_of_prefix hpart₁ hpart₂ with hle | hle
  · exact ⟨es₂, t₂, hpart₂, h₂, begun_of_part hkeep hle h₁ h₂ hz, hx⟩
  · exact absurd (begun_of_part hkeep hle h₂ h₁ hy') hy

omit hkeep in
lemma Precedes.irrefl (x : α) : ¬ Precedes step Begun s₀ es x x := by
  rintro ⟨es₁, t, -, -, h, hnot⟩
  exact hnot h

/-- **No path leads back to where it started**, if every edge leads to what had begun
earlier. -/
theorem not_transGen_self {R : α → α → Prop}
    (hR : ∀ x y, R x y → Precedes step Begun s₀ es y x) (x : α) : ¬ Relation.TransGen R x x := by
  have hpath : ∀ y, Relation.TransGen R x y → Precedes step Begun s₀ es y x := by
    intro y hy
    induction hy with
    | single h => exact hR x _ h
    | tail _ h ih => exact (hR _ _ h).trans hkeep ih
  intro hcycle
  exact Precedes.irrefl x (hpath x hcycle)

end

/-! ### Fibres -/

/-- A relation has no cycles if an edge that stays in a fibre of `f` goes down, and the edges that
leave one follow a relation without cycles. -/
lemma not_transGen_of_fibres {β : Type*} {R : α → α → Prop} {S : β → β → Prop} (f : α → β)
    (rank : α → ℤ)
    (hR : ∀ x y, R x y → f x = f y ∧ rank y < rank x ∨ S (f x) (f y))
    (hS : ∀ b, ¬ Relation.TransGen S b b) (x : α) : ¬ Relation.TransGen R x x := by
  have hpath : ∀ y, Relation.TransGen R x y →
      f x = f y ∧ rank y < rank x ∨ Relation.TransGen S (f x) (f y) := by
    intro y hy
    induction hy with
    | single h => exact (hR x _ h).imp_right .single
    | @tail y z _ h ih =>
        rcases ih, hR y z h with ⟨⟨hxy, hlt⟩ | hxy, ⟨hyz, hlt'⟩ | hyz⟩
        · exact Or.inl ⟨hxy.trans hyz, hlt'.trans hlt⟩
        · exact Or.inr (.single (hxy ▸ hyz))
        · exact Or.inr (hyz ▸ hxy)
        · exact Or.inr (hxy.tail hyz)
  intro hcycle
  rcases hpath x hcycle with ⟨-, hlt⟩ | hcycle
  · exact absurd hlt (lt_irrefl _)
  · exact hS _ hcycle

end Machine
