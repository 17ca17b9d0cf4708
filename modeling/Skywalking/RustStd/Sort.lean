import Mathlib

/-!
`slice::sort_by` of the Rust standard library: a stable sort that asks its comparator only
whether one element is `Less` than another.

* `Smaller cmp`: the relation the sort sees. Everything here needs it to be a strict weak
  order; it need not tell equal elements from unequal ones.
* `StableSort`: what a stable sort of a list is; `sortBy` is one.
* `head?_of_stableSort`: the first element of a stable sort is the first of the smallest
  elements of the list.
* `head?_sortBy_perm_iff`: **when the first element does not depend on the order** in which
  the list is given.
* `smaller_strictWeakOrder`: the relation of a comparator that is a total order.
* `sinking p cmp`: a comparator that sends the elements of a class behind all others before
  it asks another comparator, by two early returns. It keeps strict weak orders
  (`sinking_strictWeakOrder`) and transitivity, but two elements of the class are each
  greater than the other (`sinking_swap_iff`, `sinking_eq_iff`); `smallest_sinking_iff` says
  what is smallest under it.
-/

namespace RustStd

variable {α : Type*} {cmp : α → α → Ordering} {l l' sorted : List α} {a b : α}

/-- One element is less than another, as the comparator has it. -/
def Smaller (cmp : α → α → Ordering) (a b : α) : Prop := cmp a b = .lt

instance : DecidableRel (Smaller cmp) := fun a b => inferInstanceAs (Decidable (cmp a b = .lt))

/-- No element of the list is less than this one. -/
def Smallest (cmp : α → α → Ordering) (l : List α) (a : α) : Prop :=
  ∀ b ∈ l, ¬ Smaller cmp b a

instance : DecidablePred (Smallest cmp l) :=
  fun a => inferInstanceAs (Decidable (∀ b ∈ l, ¬ Smaller cmp b a))

/-- `slice::sort_by`. -/
def sortBy (cmp : α → α → Ordering) (l : List α) : List α :=
  l.mergeSort fun a b => decide (¬ Smaller cmp b a)

/-- A stable sort of a list: no element stands behind a greater one, and those that the
comparator does not order keep their order. -/
structure StableSort (cmp : α → α → Ordering) (l sorted : List α) : Prop where
  perm : sorted.Perm l
  ordered : sorted.Pairwise fun a b => ¬ Smaller cmp b a
  stable : ∀ c : List α, c.Sublist l → c.Pairwise (fun a b => ¬ Smaller cmp b a) →
    c.Sublist sorted

lemma Smallest.perm (h : Smallest cmp l a) (hperm : l'.Perm l) : Smallest cmp l' a :=
  fun b hb => h b (hperm.subset hb)

lemma sortBy_eq_nil_iff : sortBy cmp l = [] ↔ l = [] := by
  rw [← List.length_eq_zero_iff, sortBy, List.length_mergeSort, List.length_eq_zero_iff]

section Order

variable [IsStrictWeakOrder α (Smaller cmp)]

/-- What is not less than something that is not less than a third is not less than this. -/
lemma not_smaller_trans {c : α} (hab : ¬ Smaller cmp b a) (hbc : ¬ Smaller cmp c b) :
    ¬ Smaller cmp c a := by
  intro hca
  by_cases hba : Smaller cmp a b
  · exact hbc (IsTrans.trans c a b hca hba)
  · by_cases hcb : Smaller cmp b c
    · exact hab (IsTrans.trans b c a hcb hca)
    · exact (IsStrictWeakOrder.incomp_trans a b c ⟨hba, hab⟩ ⟨hcb, hbc⟩).2 hca

/-- The model of `sort_by` sorts stably. -/
theorem stableSort_sortBy (l : List α) : StableSort cmp l (sortBy cmp l) := by
  have htrans : ∀ a b c : α, decide (¬ Smaller cmp b a) = true →
      decide (¬ Smaller cmp c b) = true → decide (¬ Smaller cmp c a) = true := by
    intro a b c hab hbc
    rw [decide_eq_true_iff] at hab hbc ⊢
    exact not_smaller_trans hab hbc
  have htotal : ∀ a b : α,
      (decide (¬ Smaller cmp b a) || decide (¬ Smaller cmp a b)) = true := by
    intro a b
    rw [Bool.or_eq_true, decide_eq_true_iff, decide_eq_true_iff]
    exact not_and_or.mp fun ⟨hba, hab⟩ => asymm hba hab
  refine ⟨List.mergeSort_perm _ _, ?_, fun c hc hpairwise => ?_⟩
  · exact (List.pairwise_mergeSort htrans htotal l).imp fun h => of_decide_eq_true h
  · exact List.sublist_mergeSort htrans htotal (hpairwise.imp fun h => decide_eq_true h) hc

/-- The first element of a stable sort is one of the smallest. -/
lemma StableSort.smallest {x : α} {rest : List α} (h : StableSort cmp l (x :: rest)) :
    Smallest cmp l x := by
  intro b hb
  rcases List.mem_cons.mp (h.perm.symm.subset hb) with rfl | hrest
  · exact irrefl b
  · exact (List.pairwise_cons.mp h.ordered).1 b hrest

/-- **The first element of a stable sort** is the first of the smallest elements. -/
theorem head?_of_stableSort (h : StableSort cmp l sorted) :
    sorted.head? = l.find? fun a => decide (Smallest cmp l a) := by
  set p : α → Bool := fun a => decide (Smallest cmp l a)
  have hp : ∀ a ∈ l.filter p, Smallest cmp l a :=
    fun a ha => of_decide_eq_true (List.mem_filter.mp ha).2
  have hpairwise : (l.filter p).Pairwise fun a b => ¬ Smaller cmp b a :=
    List.pairwise_of_forall_mem_list fun a ha b hb => hp a ha b (List.mem_filter.mp hb).1
  -- the smallest elements keep their order
  have hsub := h.stable (l.filter p) List.filter_sublist hpairwise
  rw [← List.head?_filter]
  cases sorted with
  | nil =>
      rw [List.sublist_nil.mp hsub]
  | cons x rest =>
      have hx : p x = true := decide_eq_true h.smallest
      rcases List.sublist_cons_iff.mp hsub with hrest | ⟨r, hr, -⟩
      · -- but `x` is one of them, so they do not all stand behind it
        have hcount := h.perm.countP_eq p
        rw [List.countP_cons_of_pos hx, List.countP_eq_length_filter (l := l)] at hcount
        have hle : (l.filter p).length ≤ rest.countP p := by
          calc (l.filter p).length = (l.filter p).countP p :=
                (List.countP_eq_length.mpr fun a ha => (List.mem_filter.mp ha).2).symm
            _ ≤ rest.countP p := hrest.countP_le
        omega
      · rw [hr]
        rfl

/-- The first element of `sort_by`. -/
lemma head?_sortBy (l : List α) :
    (sortBy cmp l).head? = l.find? fun a => decide (Smallest cmp l a) :=
  head?_of_stableSort (stableSort_sortBy l)

variable (cmp) in
/-- The first element of a list that is not empty is one of the smallest. -/
lemma exists_head?_sortBy (hne : l ≠ []) :
    ∃ a ∈ l, (sortBy cmp l).head? = some a ∧ Smallest cmp l a := by
  have hsort : StableSort cmp l (sortBy cmp l) := stableSort_sortBy l
  cases hsorted : sortBy cmp l with
  | nil =>
      rw [hsorted] at hsort
      exact absurd hsort.perm.symm.eq_nil hne
  | cons x rest =>
      rw [hsorted] at hsort
      exact ⟨x, hsort.perm.subset List.mem_cons_self, rfl, hsort.smallest⟩

/-- A smallest element that comes first in the list comes first in the sort. -/
lemma head?_sortBy_cons (h : Smallest cmp (a :: l) a) : (sortBy cmp (a :: l)).head? = some a := by
  rw [head?_sortBy]
  exact List.find?_cons_of_pos (decide_eq_true h)

/-- **The first element does not depend on the order** of the list exactly if the list has
no two different smallest elements. -/
theorem head?_sortBy_perm_iff [DecidableEq α] :
    (∀ l' : List α, l'.Perm l → (sortBy cmp l').head? = (sortBy cmp l).head?)
      ↔ ∀ a ∈ l, ∀ b ∈ l, Smallest cmp l a → Smallest cmp l b → a = b := by
  constructor
  · intro hsame
    -- each of them can be given first
    have hfirst : ∀ a ∈ l, Smallest cmp l a → (sortBy cmp l).head? = some a := by
      intro a ha hsmallest
      have hperm := (List.perm_cons_erase ha).symm
      rw [← hsame _ hperm]
      exact head?_sortBy_cons (hsmallest.perm hperm)
    intro a ha b hb hsa hsb
    exact Option.some.inj ((hfirst a ha hsa).symm.trans (hfirst b hb hsb))
  · intro hunique l' hperm
    cases l with
    | nil => rw [hperm.eq_nil]
    | cons x rest =>
        have hne : l' ≠ [] := by
          rintro rfl
          exact absurd hperm.symm.eq_nil (List.cons_ne_nil x rest)
        obtain ⟨a, ha, hhead, hsa⟩ := exists_head?_sortBy cmp hne
        obtain ⟨b, hb, hhead', hsb⟩ := exists_head?_sortBy cmp (List.cons_ne_nil x rest)
        rw [hhead, hhead',
          hunique a (hperm.subset ha) b hb (hsa.perm hperm.symm) hsb]

end Order

/-! ### Comparators that are total orders -/

section TotalOrder

variable [Std.TransCmp cmp]

/-- A total order answers alike along a chain of equal answers. -/
lemma cmp_trans {o : Ordering} {c : α} (hab : cmp a b = o) (hbc : cmp b c = o) :
    cmp a c = o := by
  cases o with
  | lt => exact Std.TransCmp.lt_trans hab hbc
  | eq => exact Std.TransCmp.eq_trans hab hbc
  | gt => exact Std.TransCmp.gt_trans hab hbc

/-- Neither is less than the other exactly if the answer is `Equal`. -/
lemma incomparable_iff : (¬ Smaller cmp a b ∧ ¬ Smaller cmp b a) ↔ cmp a b = .eq := by
  unfold Smaller
  rw [@Std.OrientedCmp.eq_swap α cmp _ b a]
  cases cmp a b <;> decide

instance smaller_strictWeakOrder : IsStrictWeakOrder α (Smaller cmp) where
  irrefl a h := by
    have heq : cmp a a = .eq := Std.ReflCmp.compare_self
    exact absurd (heq.symm.trans h) (by decide)
  trans _ _ _ hab hbc := Std.TransCmp.lt_trans hab hbc
  incomp_trans a b c hab hbc :=
    incomparable_iff.mpr (Std.TransCmp.eq_trans (incomparable_iff.mp hab)
      (incomparable_iff.mp hbc))

/-- A smallest element is at most every element of the list. -/
lemma smallest_iff : Smallest cmp l a ↔ ∀ b ∈ l, (cmp a b).isLE := by
  refine forall₂_congr fun b _ => ?_
  rw [Smaller, @Std.OrientedCmp.eq_swap α cmp _ b a]
  cases cmp a b <;> decide

end TotalOrder

/-! ### Sinking a class -/

variable {p : α → Bool} {o : Ordering}

/-- The elements of the class `p` go behind all others, which `cmp` compares. -/
def sinking (p : α → Bool) (cmp : α → α → Ordering) (a b : α) : Ordering :=
  if p a then .gt else if p b then .lt else cmp a b

/-- What is less than what under a comparator that sinks a class. -/
lemma smaller_sinking_iff :
    Smaller (sinking p cmp) a b ↔ p a = false ∧ (p b = true ∨ Smaller cmp a b) := by
  unfold Smaller sinking
  cases p a <;> cases p b <;> simp

/-- **Sinking a class keeps a strict weak order.** -/
theorem sinking_strictWeakOrder [IsStrictWeakOrder α (Smaller cmp)] :
    IsStrictWeakOrder α (Smaller (sinking p cmp)) where
  irrefl a h := by
    obtain ⟨hpa, hpa' | hlt⟩ := smaller_sinking_iff.mp h
    · exact absurd hpa' (by simp [hpa])
    · exact irrefl a hlt
  trans a b c hab hbc := by
    obtain ⟨hpa, hab⟩ := smaller_sinking_iff.mp hab
    obtain ⟨hpb, hbc⟩ := smaller_sinking_iff.mp hbc
    rw [hpb] at hab
    refine smaller_sinking_iff.mpr ⟨hpa, hbc.imp_right fun hbc => ?_⟩
    exact IsTrans.trans a b c (hab.resolve_left Bool.false_ne_true) hbc
  incomp_trans a b c := by
    simp only [smaller_sinking_iff]
    -- incomparable elements are both in the class or both outside of it
    cases p a <;> cases p b <;> cases p c <;> simp
    exact fun hab hba hbc hcb =>
      IsStrictWeakOrder.incomp_trans a b c ⟨hab, hba⟩ ⟨hbc, hcb⟩

/-- **Sinking a class keeps transitivity**, in each of the three answers. -/
theorem sinking_trans (htrans : ∀ {o : Ordering} {a b c : α}, cmp a b = o → cmp b c = o →
    cmp a c = o) {c : α} (hab : sinking p cmp a b = o) (hbc : sinking p cmp b c = o) :
    sinking p cmp a c = o := by
  unfold sinking at *
  cases hpa : p a <;> cases hpb : p b <;> cases hpc : p c <;>
    simp only [hpa, hpb, hpc, Bool.false_eq_true, if_true, if_false] at hab hbc ⊢
  -- only outside of the class is `cmp` asked
  case false.false.false => exact htrans hab hbc
  -- an element of the class cannot stand between two others
  case false.true.false => exact absurd (hab.trans hbc.symm) (by decide)
  all_goals assumption

/-- Two elements answer each other's reverse unless both are in the class. -/
theorem sinking_swap_iff :
    sinking p cmp a b = (sinking p cmp b a).swap
      ↔ ¬ (p a = true ∧ p b = true)
        ∧ (p a = false → p b = false → cmp a b = (cmp b a).swap) := by
  unfold sinking
  cases p a <;> cases p b <;> simp

/-- The answer is `Equal` only between elements outside of the class. -/
lemma sinking_eq_iff :
    sinking p cmp a b = .eq ↔ p a = false ∧ p b = false ∧ cmp a b = .eq := by
  unfold sinking
  cases p a <;> cases p b <;> simp

/-- **What is smallest under a comparator that sinks a class**: the smallest of the others,
and where there are no others everything. -/
theorem smallest_sinking_iff :
    Smallest (sinking p cmp) l a
      ↔ (p a = false ∧ Smallest cmp (l.filter fun b => !p b) a) ∨ ∀ b ∈ l, p b = true := by
  constructor
  · intro h
    cases hpa : p a with
    | false =>
        refine Or.inl ⟨rfl, fun b hb hlt => ?_⟩
        obtain ⟨hmem, hpb⟩ := List.mem_filter.mp hb
        exact h b hmem (smaller_sinking_iff.mpr ⟨by simpa using hpb, Or.inr hlt⟩)
    | true =>
        refine Or.inr fun b hb => ?_
        by_contra hpb
        exact h b hb (smaller_sinking_iff.mpr ⟨by simpa using hpb, Or.inl hpa⟩)
  · rintro (⟨hpa, h⟩ | hall) b hb hlt
    · obtain ⟨hpb, hpa' | hlt⟩ := smaller_sinking_iff.mp hlt
      · exact absurd hpa' (by simp [hpa])
      · exact h b (List.mem_filter.mpr ⟨hb, by simpa using hpb⟩) hlt
    · exact absurd (hall b hb) (by simp [(smaller_sinking_iff.mp hlt).1])

end RustStd
