import Skywalking.Machine.Run

/-!
A ledger of items that are created one after the other and finished in any order, kept
with a stack that is popped blindly: a creation pushes the new item and records the top
of the stack as its parent, and finishing any item pops the top, whatever it is.
Finishing a root item closes the ledger, and a closed ledger changes no more.

Items are numbered from `0` in the order of their creation.

* `Ledger.Wf`: the invariant for any choice of roots. The stack and the finished items
  drift apart, but their lengths still add up to the number of items created, and the
  stack stays strictly increasing.
* `Ledger.Rooted`: the invariant when the first item is the only root. It lies at the
  bottom of the stack until it is finished, so every other item has a parent, and a
  ledger is closed exactly by finishing it.
* `partner`, `live_of_run`, `getLast?_stack`: the stack is the bracket matching of the events
  so far, every finish taken as a closing bracket. The parent of the next item is the
  one whose creation no later finish matches.
-/

namespace Machine

/-- What can happen to a ledger. -/
inductive LedgerEvent where
  | create
  | finish (k : ℕ)
  deriving DecidableEq, Repr

/-- A ledger: how many items were created, the parent of each, the stack (its top last),
the finished items in order, and whether it is still live. -/
structure Ledger where
  created : ℕ
  parents : List (Option ℕ)
  stack : List ℕ
  finished : List ℕ
  live : Bool
  deriving DecidableEq, Repr

namespace Ledger

/-- The ledger before the first item. -/
def empty : Ledger := ⟨0, [], [], [], true⟩

/-- A new item, under the top of the stack. -/
def create (l : Ledger) : Ledger :=
  { l with
    created := l.created + 1
    parents := l.parents ++ [l.stack.getLast?]
    stack := l.stack ++ [l.created] }

/-- The item `k` is finished and the top of the stack is popped. -/
def finish (l : Ledger) (k : ℕ) (isRoot : Bool) : Ledger :=
  { l with
    stack := l.stack.dropLast
    finished := l.finished ++ [k]
    live := !isRoot }

section Step

variable (root : ℕ → Prop) [DecidablePred root]

/-- One event: a closed ledger ignores it, a live one refuses to finish what was not
created or was finished before. -/
def step (l : Ledger) : LedgerEvent → Option Ledger
  | .create => some (if l.live then l.create else l)
  | .finish k =>
      if l.live then
        if k < l.created ∧ k ∉ l.finished then some (l.finish k (decide (root k))) else none
      else some l

variable {root}

lemma step_of_closed {l : Ledger} (hl : l.live = false) (e : LedgerEvent) :
    step root l e = some l := by
  cases e with
  | create => rw [step, if_neg (by simp [hl])]
  | finish k => rw [step, if_neg (by simp [hl])]

/-- What one event can do. -/
lemma step_cases {l l' : Ledger} {e : LedgerEvent} (h : step root l e = some l') :
    (l.live = false ∧ l' = l)
      ∨ (l.live = true ∧ e = .create ∧ l' = l.create)
      ∨ (∃ k, l.live = true ∧ e = .finish k ∧ k < l.created ∧ k ∉ l.finished
          ∧ l' = l.finish k (decide (root k))) := by
  by_cases hl : l.live = true
  · refine Or.inr ?_
    cases e with
    | create =>
        rw [step, if_pos hl] at h
        exact Or.inl ⟨hl, rfl, (Option.some.inj h).symm⟩
    | finish k =>
        rw [step, if_pos hl] at h
        split_ifs at h with hk
        exact Or.inr ⟨k, hl, rfl, hk.1, hk.2, (Option.some.inj h).symm⟩
  · rw [step_of_closed (by simpa using hl)] at h
    exact Or.inl ⟨by simpa using hl, (Option.some.inj h).symm⟩

end Step

/-! ### The invariant for any roots -/

/-- A well-formed ledger: the items in it were created, each finished item was finished
once, parents come before their children, and while it is live its stack is strictly
increasing and as long as the number of items not finished. -/
structure Wf (l : Ledger) : Prop where
  parents_length : l.parents.length = l.created
  parent_lt : ∀ i p : ℕ, l.parents[i]? = some (some p) → p < i
  finished_nodup : l.finished.Nodup
  finished_lt : ∀ k ∈ l.finished, k < l.created
  stack_sorted : l.stack.Pairwise (· < ·)
  stack_lt : ∀ k ∈ l.stack, k < l.created
  length_add : l.live = true → l.stack.length + l.finished.length = l.created

lemma wf_empty : empty.Wf where
  parents_length := rfl
  parent_lt := by simp [empty]
  finished_nodup := List.nodup_nil
  finished_lt := by simp [empty]
  stack_sorted := List.Pairwise.nil
  stack_lt := by simp [empty]
  length_add := fun _ => rfl

/-- While some item is not finished, there is a top of the stack to be popped. -/
lemma Wf.stack_pos {l : Ledger} (h : l.Wf) (hl : l.live = true) {k : ℕ}
    (hk : k < l.created) (hfin : k ∉ l.finished) : 0 < l.stack.length := by
  have hnodup : (k :: l.finished).Nodup := List.nodup_cons.mpr ⟨hfin, h.finished_nodup⟩
  have hsub : k :: l.finished ⊆ List.range l.created := by
    intro i hi
    rcases List.mem_cons.mp hi with rfl | hi
    · exact List.mem_range.mpr hk
    · exact List.mem_range.mpr (h.finished_lt i hi)
  have hle := hnodup.length_le_of_subset hsub
  have hadd := h.length_add hl
  simp only [List.length_cons, List.length_range] at hle
  omega

lemma Wf.create {l : Ledger} (h : l.Wf) (hl : l.live = true) : l.create.Wf where
  parents_length := by simp [Ledger.create, h.parents_length]
  parent_lt := by
    intro i p hi
    rw [Ledger.create, List.getElem?_append, h.parents_length] at hi
    split_ifs at hi with hlt
    · exact h.parent_lt i p hi
    · have hi0 : i = l.created := by
        have := List.getElem?_eq_some_iff.mp hi
        obtain ⟨hlen, -⟩ := this
        simp only [List.length_singleton] at hlen
        omega
      subst hi0
      simp only [Nat.sub_self, List.getElem?_cons_zero, Option.some.injEq] at hi
      exact h.stack_lt p (List.mem_of_getLast? hi)
  finished_nodup := h.finished_nodup
  finished_lt := fun k hk => Nat.lt_succ_of_lt (h.finished_lt k hk)
  stack_sorted := by
    refine List.pairwise_append.mpr ⟨h.stack_sorted, List.pairwise_singleton _ _, ?_⟩
    intro a ha b hb
    rw [List.mem_singleton.mp hb]
    exact h.stack_lt a ha
  stack_lt := by
    intro k hk
    rcases List.mem_append.mp hk with hk | hk
    · exact Nat.lt_succ_of_lt (h.stack_lt k hk)
    · rw [List.mem_singleton.mp hk]
      exact Nat.lt_succ_self _
  length_add := by
    intro _
    have := h.length_add hl
    simp only [Ledger.create, List.length_append, List.length_singleton]
    omega

lemma Wf.finish {l : Ledger} (h : l.Wf) (hl : l.live = true) {k : ℕ} (hk : k < l.created)
    (hfin : k ∉ l.finished) (isRoot : Bool) : (l.finish k isRoot).Wf where
  parents_length := h.parents_length
  parent_lt := h.parent_lt
  finished_nodup := by
    refine List.nodup_append.mpr ⟨h.finished_nodup, List.nodup_singleton k, ?_⟩
    rintro a ha b hb rfl
    rw [List.mem_singleton.mp hb] at ha
    exact hfin ha
  finished_lt := by
    intro i hi
    rcases List.mem_append.mp hi with hi | hi
    · exact h.finished_lt i hi
    · rw [List.mem_singleton.mp hi]
      exact hk
  stack_sorted := h.stack_sorted.sublist (List.dropLast_sublist _)
  stack_lt := fun i hi => h.stack_lt i (List.dropLast_subset _ hi)
  length_add := by
    intro _
    have hadd := h.length_add hl
    have hpos := h.stack_pos hl hk hfin
    simp only [Ledger.finish, List.length_dropLast, List.length_append, List.length_singleton]
    omega

/-- Every event keeps a ledger well-formed. -/
lemma Wf.step {root : ℕ → Prop} [DecidablePred root] {l l' : Ledger} {e : LedgerEvent}
    (h : l.Wf) (hs : step root l e = some l') : l'.Wf := by
  rcases step_cases hs with ⟨-, rfl⟩ | ⟨hl, -, rfl⟩ | ⟨k, hl, -, hk, hfin, rfl⟩
  · exact h
  · exact h.create hl
  · exact h.finish hl hk hfin _

/-! ### The first item as the only root -/

/-- The ledger of a run in which the first item is the only root. -/
structure Rooted (l : Ledger) : Prop where
  open_of_live : l.live = true → 0 ∉ l.finished
  bottom : l.live = true → ∀ k, l.stack.head? = some k → k = 0
  parent_zero : 0 < l.created → l.parents[0]? = some none
  parent_pos : ∀ i : ℕ, 0 < i → i < l.created → ∃ p < i, l.parents[i]? = some (some p)
  last_of_closed : l.live = false → l.finished.getLast? = some 0

lemma rooted_empty : empty.Rooted where
  open_of_live := by simp [empty]
  bottom := by simp [empty]
  parent_zero := by simp [empty]
  parent_pos := by simp [empty]
  last_of_closed := by simp [empty]

/-- A live ledger with an item has the first one at the bottom of its stack. -/
lemma Rooted.head?_eq {l : Ledger} (hr : l.Rooted) (h : l.Wf) (hl : l.live = true)
    (hpos : 0 < l.created) : l.stack.head? = some 0 := by
  have hne := h.stack_pos hl hpos (hr.open_of_live hl)
  cases hs : l.stack with
  | nil => rw [hs] at hne; simp at hne
  | cons k rest =>
      have hk := hr.bottom hl k (by rw [hs]; rfl)
      rw [List.head?_cons, hk]

lemma Rooted.create {l : Ledger} (hr : l.Rooted) (h : l.Wf) (hl : l.live = true) :
    l.create.Rooted where
  open_of_live := fun _ => hr.open_of_live hl
  bottom := by
    intro _ k hk
    rcases Nat.eq_zero_or_pos l.created with h0 | hpos
    · have hadd := h.length_add hl
      have hnil : l.stack = [] := List.eq_nil_of_length_eq_zero (by omega)
      simp only [Ledger.create, hnil, List.nil_append, List.head?_cons, Option.some.injEq] at hk
      omega
    · rw [Ledger.create, List.head?_append, hr.head?_eq h hl hpos] at hk
      simpa using hk.symm
  parent_zero := by
    intro _
    rcases Nat.eq_zero_or_pos l.created with h0 | hpos
    · have hadd := h.length_add hl
      have hnil : l.stack = [] := List.eq_nil_of_length_eq_zero (by omega)
      have hpar : l.parents = [] := List.eq_nil_of_length_eq_zero (h.parents_length.trans h0)
      simp [Ledger.create, hnil, hpar]
    · rw [Ledger.create, List.getElem?_append_left (by rw [h.parents_length]; exact hpos)]
      exact hr.parent_zero hpos
  parent_pos := by
    intro i hi0 hi
    simp only [Ledger.create] at hi ⊢
    rcases Nat.lt_succ_iff_lt_or_eq.mp hi with hlt | rfl
    · rw [List.getElem?_append_left (by rw [h.parents_length]; exact hlt)]
      exact hr.parent_pos i hi0 hlt
    · -- the new item: its parent is the top of a stack that is not empty
      have hne : l.stack ≠ [] := by
        have := h.stack_pos hl hi0 (hr.open_of_live hl)
        exact List.ne_nil_of_length_pos this
      refine ⟨l.stack.getLast hne, h.stack_lt _ (List.getLast_mem hne), ?_⟩
      rw [← h.parents_length, List.getElem?_concat_length, List.getLast?_eq_some_getLast hne]
  last_of_closed := by
    intro hc
    rw [Ledger.create] at hc
    rw [hl] at hc
    exact absurd hc (by simp)

lemma Rooted.finish {l : Ledger} (hr : l.Rooted) (hl : l.live = true) {k : ℕ}
    {isRoot : Bool} (hroot : isRoot = true ↔ k = 0) : (l.finish k isRoot).Rooted where
  open_of_live := by
    intro hlive
    have hk0 : k ≠ 0 := by
      intro h0
      simp [Ledger.finish, hroot.mpr h0] at hlive
    simp only [Ledger.finish, List.mem_append, List.mem_singleton, not_or]
    exact ⟨hr.open_of_live hl, hk0.symm⟩
  bottom := by
    intro _ j hj
    rw [Ledger.finish, List.head?_dropLast] at hj
    split_ifs at hj with hlen
    exact hr.bottom hl j hj
  parent_zero := hr.parent_zero
  parent_pos := hr.parent_pos
  last_of_closed := by
    intro hc
    have hk0 : k = 0 := hroot.mp (by simpa [Ledger.finish] using hc)
    simp [Ledger.finish, hk0]

/-- Every event keeps a ledger rooted in its first item, as long as no other item that
was created is a root. -/
lemma Rooted.step {root : ℕ → Prop} [DecidablePred root] {l l' : Ledger} {e : LedgerEvent}
    (hr : l.Rooted) (h : l.Wf) (hroot : ∀ k < l.created, root k ↔ k = 0)
    (hs : step root l e = some l') : l'.Rooted := by
  rcases step_cases hs with ⟨-, rfl⟩ | ⟨hl, -, rfl⟩ | ⟨k, hl, -, hk, -, rfl⟩
  · exact hr
  · exact hr.create h hl
  · exact hr.finish hl (by rw [decide_eq_true_iff]; exact hroot k hk)

/-! ### Runs of a ledger -/

section Runs

variable {root : ℕ → Prop} [DecidablePred root] {es : List LedgerEvent} {l : Ledger}

lemma created_le_of_step {l l' : Ledger} {e : LedgerEvent} (hs : step root l e = some l') :
    l.created ≤ l'.created := by
  rcases step_cases hs with ⟨-, rfl⟩ | ⟨-, -, rfl⟩ | ⟨k, -, -, -, -, rfl⟩
  · exact le_rfl
  · exact Nat.le_succ _
  · exact le_rfl

theorem wf_of_run (hrun : run (step root) empty es = some l) : l.Wf :=
  run_invariant (fun _ _ _ h hs => h.step hs) wf_empty hrun

/-- A ledger in which no created item but the first is a root is rooted in the first. -/
theorem rooted_of_run (hrun : run (step root) empty es = some l)
    (hroot : ∀ k < l.created, root k ↔ k = 0) : l.Rooted := by
  refine run_induction (P := fun _ l => (∀ k < l.created, root k ↔ k = 0) → l.Rooted)
    (fun _ => rooted_empty) (fun es l e l' hl ih hs hroot' => ?_) hrun hroot
  have hroot_l : ∀ k < l.created, root k ↔ k = 0 := fun k hk =>
    hroot' k (lt_of_lt_of_le hk (created_le_of_step hs))
  exact (ih hroot_l).step (wf_of_run hl) hroot_l hs

/-- An item is finished by an event that finishes it. -/
theorem mem_of_finished (hrun : run (step root) empty es = some l) :
    ∀ k ∈ l.finished, .finish k ∈ es := by
  refine run_induction (P := fun es l => ∀ k ∈ l.finished, .finish k ∈ es)
    (fun k hk => absurd hk List.not_mem_nil) (fun es l e l' _ ih hs k hk => ?_) hrun
  rcases step_cases hs with ⟨-, rfl⟩ | ⟨-, -, rfl⟩ | ⟨j, -, rfl, -, -, rfl⟩
  · exact List.mem_append_left _ (ih k hk)
  · exact List.mem_append_left _ (ih k hk)
  · rcases List.mem_append.mp hk with hk | hk
    · exact List.mem_append_left _ (ih k hk)
    · rw [List.mem_singleton.mp hk]
      exact List.mem_append_right _ (List.mem_singleton_self _)

/-- A ledger is live as long as no event finishes a root. -/
theorem live_iff_of_run (hrun : run (step root) empty es = some l) :
    l.live = true ↔ ∀ k, .finish k ∈ es → ¬ root k := by
  refine run_induction (P := fun es l => l.live = true ↔ ∀ k, .finish k ∈ es → ¬ root k)
    ⟨fun _ k hk => absurd hk List.not_mem_nil, fun _ => rfl⟩ (fun es l e l' _ ih hs => ?_) hrun
  rcases step_cases hs with ⟨hl, rfl⟩ | ⟨hl, rfl, rfl⟩ | ⟨j, hl, rfl, -, -, rfl⟩
  · constructor
    · intro hl'
      exact absurd hl' (by simp [hl])
    · intro h
      exact ih.mpr fun k hk => h k (List.mem_append_left _ hk)
  · constructor
    · intro _ k hk
      rcases List.mem_append.mp hk with hk | hk
      · exact ih.mp hl k hk
      · exact absurd (List.mem_singleton.mp hk) (by simp)
    · intro _
      exact hl
  · constructor
    · intro hl' k hk
      rcases List.mem_append.mp hk with hk | hk
      · exact ih.mp hl k hk
      · obtain rfl : k = j := by simpa using hk
        simpa [Ledger.finish] using hl'
    · intro h
      simpa [Ledger.finish] using h j (List.mem_append_right _ (List.mem_singleton_self _))

/-! ### The stack as a bracket matching -/

/-- How many items a list of events creates. -/
def creations (es : List LedgerEvent) : ℕ := es.countP (· = .create)

/-- The items a list of events finishes, in order. -/
def finishes (es : List LedgerEvent) : List ℕ :=
  es.filterMap fun
    | .create => none
    | .finish k => some k

/-- The item whose creation no later finish matches, `n` finishes being still to be
matched; the events are given newest first. -/
def partner : ℕ → List LedgerEvent → Option ℕ
  | _, [] => none
  | 0, .create :: es => some (creations es)
  | n + 1, .create :: es => partner n es
  | n, .finish _ :: es => partner (n + 1) es

lemma creations_reverse (es : List LedgerEvent) : creations es.reverse = creations es := by
  rw [creations, creations, List.countP_reverse]

lemma finishes_append (es es' : List LedgerEvent) :
    finishes (es ++ es') = finishes es ++ finishes es' := by
  rw [finishes, List.filterMap_append]
  rfl

/-- While a ledger is live, its events tell all of it: the number of items, the finished
ones, and the stack by bracket matching. -/
theorem live_of_run (hrun : run (step root) empty es = some l) :
    l.live = true → l.created = creations es ∧ l.finished = finishes es
      ∧ ∀ n, l.stack.reverse[n]? = partner n es.reverse := by
  refine run_induction (P := fun es l => l.live = true → l.created = creations es
      ∧ l.finished = finishes es ∧ ∀ n, l.stack.reverse[n]? = partner n es.reverse)
    (fun _ => ⟨rfl, rfl, fun n => by simp [empty, partner]⟩) ?_ hrun
  intro es l e l' _ ih hs hl'
  rcases step_cases hs with ⟨hl, rfl⟩ | ⟨hl, rfl, rfl⟩ | ⟨k, hl, rfl, -, -, rfl⟩
  · exact absurd hl' (by simp [hl])
  · obtain ⟨hcreated, hfin, hstack⟩ := ih hl
    refine ⟨?_, ?_, fun n => ?_⟩
    · simp [Ledger.create, hcreated, creations]
    · rw [finishes_append]
      simp [Ledger.create, hfin, finishes]
    · rw [List.reverse_concat]
      cases n with
      | zero =>
          rw [partner, creations_reverse, ← hcreated]
          simp [Ledger.create]
      | succ n =>
          rw [partner, ← hstack n]
          simp [Ledger.create]
  · obtain ⟨hcreated, hfin, hstack⟩ := ih hl
    refine ⟨?_, ?_, fun n => ?_⟩
    · simp [Ledger.finish, hcreated, creations]
    · rw [finishes_append]
      simp [Ledger.finish, hfin, finishes]
    · rw [List.reverse_concat, partner, ← hstack (n + 1)]
      rw [Ledger.finish, ← List.tail_reverse, List.getElem?_tail]

/-- The parent of the next item is the one whose creation no later finish matches. -/
theorem getLast?_stack (hrun : run (step root) empty es = some l) (hl : l.live = true) :
    l.stack.getLast? = partner 0 es.reverse := by
  obtain ⟨-, -, hstack⟩ := live_of_run hrun hl
  rw [← hstack 0, List.getLast?_eq_head?_reverse, List.head?_eq_getElem?]

end Runs

end Ledger

end Machine
