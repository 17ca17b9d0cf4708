import Skywalking.Scope.Invariant

/-!
The parent of a new span, when spans of one scope are finished out of order.

`finish_span` pops the top of the span stack whatever span it is given. So the parent of
a new span is found by reading the calls so far as brackets: a creation opens one, and a
finish, of whatever span, closes the innermost one that is open.

* `enclosing`: the span whose bracket is the innermost one open; `topId_of_run` says that
  it is the parent.
* `EnclosingOpen`: at every creation this span is not among the finished ones.
* `parents_open_iff`: **when parents are open**. Exactly then no span gets a finished one
  as its parent.
-/

namespace Skywalking

open RustStd Machine

/-- The span that the next one is created under: the one whose creation is the innermost
bracket still open, every creation being an opening bracket and every finish a closing
one. -/
def enclosing (es : List Op) : Option ℕ := Ledger.partner 0 (es.flatMap Op.events).reverse

/-- Whenever a span is created, as long as no span with the id `0` was finished, the span
around it is not among the finished ones. -/
def EnclosingOpen (es : List Op) : Prop :=
  ∀ es₁ op es₂, es = es₁ ++ op :: es₂ → (op.newSpan 0 0).isSome →
    (∀ k ∈ es₁.filterMap Op.finishes, ¬ IsFirst k) →
    ∀ p, enclosing es₁ = some p → p ∉ es₁.filterMap Op.finishes

/-- What is looked at when the span around a new one is checked: the calls before each
creation. -/
lemma enclosingOpen_iff {es : List Op} : EnclosingOpen es ↔ ∀ i : Fin es.length,
    (es[i].newSpan 0 0).isSome → (∀ k ∈ (es.take i).filterMap Op.finishes, ¬ IsFirst k) →
      ∀ p ∈ enclosing (es.take i), p ∉ (es.take i).filterMap Op.finishes := by
  constructor
  · intro hopen i hcreates hroot
    have hsplit : es = es.take i ++ es[i] :: es.drop (i + 1) := by simp
    exact hopen _ _ _ hsplit hcreates hroot
  · rintro h es₁ op es₂ rfl hcreates hroot p hp
    have hi := h ⟨es₁.length, by simp⟩
    simp only [Fin.getElem_fin, List.getElem_append_right le_rfl, Nat.sub_self,
      List.getElem_cons_zero, List.take_left'] at hi
    exact hi hcreates hroot p hp

instance : DecidablePred EnclosingOpen := fun _ => decidable_of_iff _ enclosingOpen_iff.symm

/-- Every span that a run returns has the parent id `-1` or that of a span which was
returned before and is not finished at this moment. -/
def ParentsOpen (b64 : Base64) (current : CurrentTracingContext) (es : List Op) : Prop :=
  ∀ es₁ op es₂ s₁ s₂ span, es = es₁ ++ op :: es₂ →
    run (Scope.step b64) (Scope.enter current) es₁ = some s₁ → s₁.step b64 op = some s₂ →
    s₂.issued = s₁.issued ++ [span] →
    span.parentSpanId = -1 ∨ ∃ (k : ℕ) (other : TracingSpan), s₁.issued[k]? = some other
      ∧ other.spanId = span.parentSpanId ∧ k ∉ es₁.filterMap Op.finishes

section Run

variable {b64 : Base64} {config : Config} {traceDraw segmentDraw : IdDraw}
  {current : CurrentTracingContext} {s : Scope} {l : Ledger} {es : List Op}

/-- The parent of the next span is the one around it. -/
lemma topId_of_run (hsim : Sim s l)
    (hevents : run (Ledger.step IsFirst) Ledger.empty (es.flatMap Op.events) = some l)
    {wx : WorkingContext} (live : s.Live wx) : wx.topId = parentIdOf (enclosing es) := by
  have hlive := (hsim.context.of_live live).1
  calc wx.topId = parentIdOf l.stack.getLast? := (hsim.next_ids live).2
    _ = parentIdOf (enclosing es) := by rw [Ledger.getLast?_stack hevents hlive, enclosing]

/-- A call that returns a span is a creation in a scope with a context. -/
lemma create_of_issued {s₁ s₂ : Scope} {op : Op} {span : TracingSpan}
    (hs : s₁.step b64 op = some s₂) (hissued : s₂.issued = s₁.issued ++ [span]) :
    ∃ wx, s₁.Live wx ∧ op.newSpan wx.nextId wx.topId = some span := by
  have hne : s₁.issued ≠ s₁.issued ++ [span] := by simp
  cases Scope.step_cases hs with
  | @create _ wx sp live new =>
      obtain rfl : sp = span := by simpa [Scope.receive] using hissued
      exact ⟨wx, live, new⟩
  | _ => exact absurd hissued hne

/-- If the spans around new ones are open, then so are the parents. -/
theorem parentsOpen_of_enclosingOpen
    (hnew : CurrentTracingContext.new config traceDraw segmentDraw = .ok current)
    (hopen : EnclosingOpen es) : ParentsOpen b64 current es := by
  rintro es₁ op es₂ s₁ s₂ span rfl hrun₁ hs hissued
  obtain ⟨l, hevents, hsim, hw⟩ := sim_of_run hnew hrun₁
  obtain ⟨wx, live, new⟩ := create_of_issued hs hissued
  have hlive := (hsim.context.of_live live).1
  rw [Op.parentSpanId_newSpan new, topId_of_run hsim hevents live]
  cases hp : enclosing es₁ with
  | none => exact Or.inl rfl
  | some p =>
      refine Or.inr ?_
      have hstack : p ∈ l.stack := by
        refine List.mem_of_getLast? ?_
        rw [Ledger.getLast?_stack hevents hlive]
        exact hp
      have hlt : p < s₁.issued.length := by
        rw [hsim.issued_length]
        exact hw.stack_lt p hstack
      refine ⟨p, s₁.issued[p], List.getElem?_eq_getElem hlt,
        hsim.issued_spanId (List.getElem?_eq_getElem hlt), ?_⟩
      refine hopen es₁ op es₂ rfl ?_ (fun k hk => ?_) p hp
      · exact Op.creates_of_newSpan new
      · exact (Ledger.live_iff_of_run hevents).mp hlive k (finish_mem_events_iff.mpr hk)

/-- If parents are open, then so are the spans around new ones, as long as ids do not
repeat. -/
theorem enclosingOpen_of_parentsOpen
    (hnew : CurrentTracingContext.new config traceDraw segmentDraw = .ok current)
    (hrun : run (Scope.step b64) (Scope.enter current) es = some s)
    (hmax : s.issued.length ≤ 2 ^ 31) (hopen : ParentsOpen b64 current es) :
    EnclosingOpen es := by
  rintro es₁ op es₂ rfl hcreates hroot p hp
  obtain ⟨s₁, hrun₁, hrest⟩ := run_append_eq_some.mp hrun
  obtain ⟨s₂, hs, hrun₂⟩ := run_cons_eq_some.mp hrest
  obtain ⟨l, hevents, hsim, hw⟩ := sim_of_run hnew hrun₁
  have hmax₁ : l.created ≤ 2 ^ 31 := by
    rw [← hsim.issued_length]
    exact (Scope.issued_grows_of_run hrest).length_le.trans hmax
  have hlive : l.live = true :=
    (Ledger.live_iff_of_run hevents).mpr fun k hk => hroot k (finish_mem_events_iff.mp hk)
  obtain ⟨wx, live⟩ : ∃ wx, s₁.Live wx := by
    rcases s₁.live_or_dead with h | dead
    · exact h
    · exact absurd hlive (by simp [hsim.context.of_dead dead])
  obtain ⟨span, new⟩ := Op.exists_newSpan hcreates wx.nextId wx.topId
  rw [Scope.step_eq_create live new] at hs
  obtain rfl := Option.some.inj hs
  have hstack : p ∈ l.stack := by
    refine List.mem_of_getLast? ?_
    rw [Ledger.getLast?_stack hevents hlive]
    exact hp
  have hlt : p < 2 ^ 31 := lt_of_lt_of_le (hw.stack_lt p hstack) hmax₁
  have hparent : span.parentSpanId = idOf p := by
    rw [Op.parentSpanId_newSpan new, topId_of_run hsim hevents live, hp]
    rfl
  rcases hopen es₁ op es₂ s₁ _ span rfl hrun₁ (Scope.step_eq_create live new) rfl with h | h
  · rw [hparent] at h
    exact absurd h (idOf_ne_neg_one hlt)
  · obtain ⟨k, other, hk, hid, hfin⟩ := h
    -- below the bound the id tells which span it is
    have hklt : k < 2 ^ 31 := by
      have hk' := (List.getElem?_eq_some_iff.mp hk).1
      rw [hsim.issued_length] at hk'
      omega
    rw [hsim.issued_spanId hk, hparent] at hid
    rw [← idOf_inj hklt hlt hid]
    exact hfin

/-- **When parents are open**: if at every creation the span around the new one is open,
then no span of the run is created under a finished one; and with at most `2^31` spans
the run has no other way to avoid it. -/
theorem parents_open_iff
    (hnew : CurrentTracingContext.new config traceDraw segmentDraw = .ok current)
    (hrun : run (Scope.step b64) (Scope.enter current) es = some s) :
    (EnclosingOpen es → ParentsOpen b64 current es)
      ∧ (s.issued.length ≤ 2 ^ 31 → (ParentsOpen b64 current es ↔ EnclosingOpen es)) :=
  ⟨parentsOpen_of_enclosingOpen hnew, fun hmax =>
    ⟨enclosingOpen_of_parentsOpen hnew hrun hmax, parentsOpen_of_enclosingOpen hnew⟩⟩

/-- Two children of one span, one after the other, of which the second one has a child. -/
def demoTurns : List Op :=
  [.tracingEntry "/orders" .http ⟨0⟩, .tracingLocal "price" .cache ⟨0⟩, .finishSpan 1 ⟨0⟩ ⟨0⟩,
    .tracingLocal "order" .rpc ⟨0⟩, .tracingExit "store" "10.0.0.2:80" .rpc false ⟨0⟩,
    .finishSpan 3 ⟨0⟩ ⟨0⟩, .finishSpan 2 ⟨0⟩ ⟨0⟩, .finishSpan 0 ⟨0⟩ ⟨0⟩]

theorem parents_open_demo : ∃ s, run (Scope.step .standard) (Scope.enter .demo) demoTurns = some s
    ∧ s.issued.map TracingSpan.parentSpanId = [-1, 0, 0, 2]
    ∧ EnclosingOpen demoTurns ∧ ParentsOpen .standard .demo demoTurns := by
  obtain ⟨s, hrun, hparents⟩ : ∃ s, run (Scope.step .standard) (Scope.enter .demo) demoTurns
    = some s ∧ s.issued.map TracingSpan.parentSpanId = [-1, 0, 0, 2] := ⟨_, rfl, rfl⟩
  have hmax : s.issued.length ≤ 2 ^ 31 :=
    (Scope.issued_length_le hrun).trans (by decide)
  have hopen : EnclosingOpen demoTurns := by decide
  exact ⟨s, hrun, hparents, hopen,
    ((parents_open_iff CurrentTracingContext.new_demo hrun).2 hmax).mpr hopen⟩

/-- Two children of one span: the first one is finished while the second one is open, and
only then a third one is created. -/
def demoOverlap : List Op :=
  [.tracingEntry "/orders" .http ⟨0⟩, .tracingLocal "price" .cache ⟨0⟩,
    .tracingLocal "stock" .db ⟨0⟩, .finishSpan 1 ⟨0⟩ ⟨0⟩]
  ++ .tracingLocal "total" .cache ⟨0⟩ :: []

/-- The third child gets the finished first one as its parent. -/
theorem parent_finished :
    (∃ s, run (Scope.step .standard) (Scope.enter .demo) demoOverlap = some s)
      ∧ ¬ ParentsOpen .standard .demo demoOverlap := by
  obtain ⟨s, hrun⟩ : ∃ s, run (Scope.step .standard) (Scope.enter .demo) demoOverlap
    = some s := ⟨_, rfl⟩
  have hmax : s.issued.length ≤ 2 ^ 31 :=
    (Scope.issued_length_le hrun).trans (by decide)
  refine ⟨⟨s, hrun⟩, fun hopen => ?_⟩
  have henclosing := enclosingOpen_of_parentsOpen CurrentTracingContext.new_demo hrun hmax hopen
  exact henclosing _ _ _ rfl rfl (by decide) 1 rfl (by decide)

end Run

end Skywalking
