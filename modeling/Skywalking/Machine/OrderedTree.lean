import Mathlib

/-!
Finite ordered trees with a label at every node, and the two orders in which a depth-first
walk meets the nodes: a node before its children, or after them.

* `OrderedTree.preOrder`: the labels in the first order. The position of a node there is
  its index.
* `OrderedTree.postOrder`: the nodes in the second order, each as a `Place`, that is with
  its index and the index of the node around it; `mem_postOrder` says that the indices are
  those of `preOrder`.
* `OrderedTree.induction`: induction over a tree and its lists of children.
* `OrderedTree.Nested`: a relation between every node and the nodes below it;
  `rel_of_mem_postOrder` reads it off two places, one around the other.
-/

namespace Machine

variable {α : Type*}

/-- A finite ordered tree. -/
inductive OrderedTree (α : Type*) where
  | node (label : α) (children : List (OrderedTree α))

/-- A node in a tree: its index, the index of the node around it, and its label. -/
structure Place (α : Type*) where
  index : ℕ
  parent : Option ℕ
  label : α

namespace OrderedTree

mutual

/-- The number of nodes. -/
def size : OrderedTree α → ℕ
  | node _ children => sizeAll children + 1

/-- The number of nodes of some trees. -/
def sizeAll : List (OrderedTree α) → ℕ
  | [] => 0
  | t :: ts => t.size + sizeAll ts

end

mutual

/-- The labels, those of a node before those below it. -/
def preOrder : OrderedTree α → List α
  | node label children => label :: preOrderAll children

/-- The labels of some trees. -/
def preOrderAll : List (OrderedTree α) → List α
  | [] => []
  | t :: ts => t.preOrder ++ preOrderAll ts

end

mutual

/-- The places of a tree whose first index is `n`, under the node `parent`: those below a
node before its own. -/
def postOrder : OrderedTree α → ℕ → Option ℕ → List (Place α)
  | node label children, n, parent =>
      postOrderAll children (n + 1) (some n) ++ [⟨n, parent, label⟩]

/-- The places of some trees next to each other. -/
def postOrderAll : List (OrderedTree α) → ℕ → Option ℕ → List (Place α)
  | [], _, _ => []
  | t :: ts, n, parent => t.postOrder n parent ++ postOrderAll ts (n + t.size) parent

end

/-- Induction over a tree, together with the lists of its subtrees. -/
theorem induction {P : OrderedTree α → Prop} {Q : List (OrderedTree α) → Prop}
    (node : ∀ label children, Q children → P (node label children)) (nil : Q [])
    (cons : ∀ t ts, P t → Q ts → Q (t :: ts)) : (∀ t, P t) ∧ ∀ ts, Q ts := by
  have hP : ∀ t, P t := @OrderedTree.rec α P Q node nil cons
  refine ⟨hP, fun ts => ?_⟩
  induction ts with
  | nil => exact nil
  | cons t ts ih => exact cons t ts (hP t) ih

lemma length_preOrder :
    (∀ t : OrderedTree α, t.preOrder.length = t.size)
      ∧ ∀ ts : List (OrderedTree α), (preOrderAll ts).length = sizeAll ts := by
  refine induction ?_ ?_ ?_
  · intro label children ih
    rw [preOrder, size, List.length_cons, ih]
  · rw [preOrderAll, sizeAll, List.length_nil]
  · intro t ts iht ihts
    rw [preOrderAll, sizeAll, List.length_append, iht, ihts]

lemma length_postOrder :
    (∀ (t : OrderedTree α) (n : ℕ) (parent : Option ℕ), (t.postOrder n parent).length = t.size)
      ∧ ∀ (ts : List (OrderedTree α)) (n : ℕ) (parent : Option ℕ),
        (postOrderAll ts n parent).length = sizeAll ts := by
  refine induction ?_ ?_ ?_
  · intro label children ih n parent
    rw [postOrder, size, List.length_append, List.length_singleton, ih]
  · intro n parent
    rw [postOrderAll, sizeAll, List.length_nil]
  · intro t ts iht ihts n parent
    rw [postOrderAll, sizeAll, List.length_append, iht, ihts]

/-- A place of a tree has an index from the first one on, between it and the first one the
node around it, and its label is found under its index in the other order. -/
lemma mem_postOrder_from :
    (∀ (t : OrderedTree α) (n : ℕ) (parent : Option ℕ), ∀ p ∈ t.postOrder n parent,
        (p.parent = parent ∨ ∃ q, p.parent = some q ∧ n ≤ q ∧ q < p.index)
          ∧ ∃ i, p.index = n + i ∧ t.preOrder[i]? = some p.label)
      ∧ ∀ (ts : List (OrderedTree α)) (n : ℕ) (parent : Option ℕ),
        ∀ p ∈ postOrderAll ts n parent,
          (p.parent = parent ∨ ∃ q, p.parent = some q ∧ n ≤ q ∧ q < p.index)
            ∧ ∃ i, p.index = n + i ∧ (preOrderAll ts)[i]? = some p.label := by
  refine induction ?_ ?_ ?_
  · intro label children ih n parent p hp
    rw [postOrder] at hp
    rcases List.mem_append.mp hp with hp | hp
    · obtain ⟨hparent, i, hi, hlabel⟩ := ih (n + 1) (some n) p hp
      refine ⟨Or.inr ?_, i + 1, by omega, by rw [preOrder, List.getElem?_cons_succ, hlabel]⟩
      rcases hparent with hparent | ⟨q, hq, hle, hlt⟩
      · exact ⟨n, hparent, le_rfl, by omega⟩
      · exact ⟨q, hq, by omega, hlt⟩
    · rw [List.mem_singleton.mp hp]
      exact ⟨Or.inl rfl, 0, rfl, by rw [preOrder, List.getElem?_cons_zero]⟩
  · intro n parent p hp
    rw [postOrderAll] at hp
    exact absurd hp List.not_mem_nil
  · intro t ts iht ihts n parent p hp
    rw [postOrderAll] at hp
    rcases List.mem_append.mp hp with hp | hp
    · obtain ⟨hparent, i, hi, hlabel⟩ := iht n parent p hp
      have hlt := (List.getElem?_eq_some_iff.mp hlabel).1
      exact ⟨hparent, i, hi, by rw [preOrderAll, List.getElem?_append_left hlt, hlabel]⟩
    · obtain ⟨hparent, i, hi, hlabel⟩ := ihts (n + t.size) parent p hp
      refine ⟨hparent.imp_right ?_, t.size + i, by omega, ?_⟩
      · rintro ⟨q, hq, hle, hlt⟩
        exact ⟨q, hq, by omega, hlt⟩
      rw [preOrderAll, List.getElem?_append_right (by rw [length_preOrder.1]; omega),
        length_preOrder.1, Nat.add_sub_cancel_left, hlabel]

/-- **The places of a tree**: their indices are those of `preOrder`, and the index of the
node around one is smaller. -/
theorem mem_postOrder {t : OrderedTree α} {p : Place α} (hp : p ∈ t.postOrder 0 none) :
    t.preOrder[p.index]? = some p.label ∧ p.index < t.size
      ∧ ∀ q, p.parent = some q → q < p.index := by
  obtain ⟨hparent, i, hi, hlabel⟩ := mem_postOrder_from.1 t 0 none p hp
  rw [Nat.zero_add] at hi
  subst hi
  refine ⟨hlabel, ?_, ?_⟩
  · rw [← length_preOrder.1]
    exact (List.getElem?_eq_some_iff.mp hlabel).1
  · rintro q hq
    rcases hparent with h | ⟨q', hq', -, hlt⟩
    · rw [h] at hq
      exact absurd hq (by simp)
    · rw [hq'] at hq
      obtain rfl := Option.some.inj hq
      exact hlt

/-- The indices of a tree are `size` many, from the first one on. -/
lemma index_mem_postOrder {t : OrderedTree α} {n : ℕ} {parent : Option ℕ} {p : Place α}
    (hp : p ∈ t.postOrder n parent) : n ≤ p.index ∧ p.index < n + t.size := by
  obtain ⟨-, i, hi, hlabel⟩ := mem_postOrder_from.1 t n parent p hp
  have hlt := (List.getElem?_eq_some_iff.mp hlabel).1
  rw [length_preOrder.1] at hlt
  omega

/-! ### Relations between a node and those below it -/

mutual

/-- The relation holds between every node and the nodes below it. -/
def Nested (R : α → α → Prop) : OrderedTree α → Prop
  | node label children => (∀ x ∈ preOrderAll children, R label x) ∧ NestedAll R children

/-- The relation holds so in each of some trees. -/
def NestedAll (R : α → α → Prop) : List (OrderedTree α) → Prop
  | [] => True
  | t :: ts => t.Nested R ∧ NestedAll R ts

end

/-- **A nested relation** holds between the labels of a place and of the place around it. -/
theorem rel_of_mem_postOrder {R : α → α → Prop} :
    (∀ (t : OrderedTree α) (n : ℕ) (parent : Option ℕ), t.Nested R →
        (∀ m, parent = some m → m < n) → ∀ p ∈ t.postOrder n parent,
          ∀ q ∈ t.postOrder n parent, q.parent = some p.index → R p.label q.label)
      ∧ ∀ (ts : List (OrderedTree α)) (n : ℕ) (parent : Option ℕ), NestedAll R ts →
        (∀ m, parent = some m → m < n) → ∀ p ∈ postOrderAll ts n parent,
          ∀ q ∈ postOrderAll ts n parent, q.parent = some p.index → R p.label q.label := by
  refine induction ?_ ?_ ?_
  · rintro label children ih n parent ⟨hlabel, hchildren⟩ hparent p hp q hq hpq
    rw [postOrder] at hp hq
    rcases List.mem_append.mp hp with hp | hp
    · obtain ⟨-, i, hi, -⟩ := mem_postOrder_from.2 children (n + 1) (some n) p hp
      rcases List.mem_append.mp hq with hq | hq
      · exact ih (n + 1) (some n) hchildren (by rintro m ⟨⟩; omega) p hp q hq hpq
      · -- the node itself is not below one of its children
        rw [List.mem_singleton.mp hq] at hpq
        have := hparent p.index hpq
        omega
    · rw [List.mem_singleton.mp hp] at hpq ⊢
      rcases List.mem_append.mp hq with hq | hq
      · obtain ⟨-, i, -, hi⟩ := mem_postOrder_from.2 children (n + 1) (some n) q hq
        exact hlabel q.label (List.mem_of_getElem? hi)
      · rw [List.mem_singleton.mp hq] at hpq
        exact absurd (hparent n hpq) (lt_irrefl n)
  · intro n parent _ _ p hp
    rw [postOrderAll] at hp
    exact absurd hp List.not_mem_nil
  · rintro t ts iht ihts n parent ⟨ht, hts⟩ hparent p hp q hq hpq
    rw [postOrderAll] at hp hq
    rcases List.mem_append.mp hp with hp | hp
    · rcases List.mem_append.mp hq with hq | hq
      · exact iht n parent ht hparent p hp q hq hpq
      · -- the nodes of later trees lie under `parent`, or under one another
        have hrange := index_mem_postOrder hp
        rcases (mem_postOrder_from.2 ts (n + t.size) parent q hq).1 with h | ⟨m, hm, hle, -⟩
        · have := hparent p.index (h.symm.trans hpq)
          omega
        · obtain rfl := Option.some.inj (hm.symm.trans hpq)
          omega
    · obtain ⟨-, i, hi, -⟩ := mem_postOrder_from.2 ts (n + t.size) parent p hp
      rcases List.mem_append.mp hq with hq | hq
      · have hrange := index_mem_postOrder hq
        rcases (mem_postOrder_from.1 t n parent q hq).1 with h | ⟨m, hm, -, hlt⟩
        · have := hparent p.index (h.symm.trans hpq)
          omega
        · obtain rfl := Option.some.inj (hm.symm.trans hpq)
          omega
      · have hlt : ∀ m, parent = some m → m < n + t.size := by
          intro m hm
          have := hparent m hm
          omega
        exact ihts (n + t.size) parent hts hlt p hp q hq hpq

end OrderedTree

end Machine
