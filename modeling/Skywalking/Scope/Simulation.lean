import Skywalking.Machine.Ledger
import Skywalking.Scope.Basic

/-!
A scope keeps a ledger of its spans: the machine of a scope is simulated by
`Machine.Ledger`, with the spans as items, numbered by their handles, and with the spans
whose id is `0` as roots.

* `idOf`: the `i32` the span under a handle gets as its id; `idOf_inj` says that the ids
  of the first `2^31` spans are distinct, and none of them is `-1`.
* `Sim`: how the fields of a scope encode its ledger.
* `sim_step`, `sim_of_run`: every call is matched by the events of `Op.events`, hence so
  is every run.
-/

namespace Skywalking

open RustStd Machine

/-! ### Span ids -/

/-- The id of the span under the handle `k`. -/
def idOf (k : ℕ) : Int32 := Int32.ofNat k

/-- The id stored for an optional parent. -/
def parentIdOf (p : Option ℕ) : Int32 := (p.map idOf).getD (-1)

/-- The span under a handle is the first one of its scope, as `finish_span` sees it. -/
def IsFirst (k : ℕ) : Prop := idOf k = 0

instance : DecidablePred IsFirst := fun k => inferInstanceAs (Decidable (idOf k = 0))

/-- Two handles have one id exactly if they are `2^32` apart, or a multiple of it. -/
lemma idOf_eq_iff {j k : ℕ} : idOf j = idOf k ↔ j % 2 ^ 32 = k % 2 ^ 32 := by
  rw [← Int32.toBitVec_inj]
  constructor
  · intro h
    simpa [idOf] using congrArg BitVec.toNat h
  · intro h
    apply BitVec.eq_of_toNat_eq
    simpa [idOf] using h

lemma toInt_idOf {k : ℕ} (hk : k < 2 ^ 31) : (idOf k).toInt = k :=
  Int32.toInt_ofNat_of_lt hk

lemma idOf_inj {j k : ℕ} (hj : j < 2 ^ 31) (hk : k < 2 ^ 31) (h : idOf j = idOf k) : j = k := by
  rw [idOf_eq_iff] at h
  omega

lemma idOf_ne_neg_one {k : ℕ} (hk : k < 2 ^ 31) : idOf k ≠ -1 := by
  intro h
  have hint := congrArg Int32.toInt h
  rw [toInt_idOf hk] at hint
  have hneg : (-1 : Int32).toInt = -1 := by decide
  omega

lemma isFirst_iff {k : ℕ} (hk : k < 2 ^ 31) : IsFirst k ↔ k = 0 :=
  ⟨fun h => idOf_inj hk (by norm_num) h, fun h => by rw [h]; rfl⟩

/-- The id after that of the handle `k`. -/
lemma idOf_succ (k : ℕ) : idOf (k + 1) = idOf k + 1 := Int32.ofNat_add k 1

/-! ### The ledger of a scope -/

/-- The events of the ledger a call stands for. -/
def Op.events (op : Op) : List LedgerEvent :=
  match op with
  | .tracingEntry .. | .tracingLocal .. | .tracingExit .. => [.create]
  | .finishSpan k _ _ => [.finish k]
  | .finishNone .. | .changeTraceId _ | .onSpan .. | .mergeSpan .. => []

lemma Op.events_of_creates {op : Op} (h : (op.newSpan 0 0).isSome) : op.events = [.create] := by
  cases op <;> first | rfl | exact absurd h (by simp [Op.newSpan])

/-- The archived spans are the finished ones, in order: they have the identities with
which they were issued. -/
def Archived (issued archived : List TracingSpan) (ks : List ℕ) : Prop :=
  List.Forall₂ (fun span k => issued[k]?.map TracingSpan.identity = some span.identity)
    archived ks

lemma Archived.append_issued {issued archived : List TracingSpan} {ks : List ℕ}
    (h : Archived issued archived ks) (more : List TracingSpan) :
    Archived (issued ++ more) archived ks := by
  refine List.Forall₂.imp (fun span k hk => ?_) h
  obtain ⟨sp, hsp, -⟩ := Option.map_eq_some_iff.mp hk
  have hlt : k < issued.length := (List.getElem?_eq_some_iff.mp hsp).1
  rwa [List.getElem?_append_left hlt]

lemma Archived.concat {issued archived : List TracingSpan} {ks : List ℕ}
    (h : Archived issued archived ks) {span : TracingSpan} {k : ℕ}
    (hk : issued[k]?.map TracingSpan.identity = some span.identity) :
    Archived issued (archived ++ [span]) (ks ++ [k]) :=
  List.rel_append h (List.Forall₂.cons hk List.Forall₂.nil)

/-- The context side of the simulation: a live ledger is the context the scope holds, a
closed one the context it handed over. -/
inductive SimContext (s : Scope) (l : Ledger) : Prop
  | live {wx : WorkingContext} (ctx : s.Live wx) (isLive : l.live = true)
      (stack : wx.spanStack = l.stack.map idOf)
      (seq : wx.context.nextSeq = idOf l.created - 1)
      (archived : Archived s.issued wx.context.finishedSpans l.finished)
      (reported : s.reported = [])
  | closed {context : TracingContext} (ctx : s.ctx = some ⟨none⟩) (isLive : l.live = false)
      (reported : s.reported = [context])
      (archived : Archived s.issued context.finishedSpans l.finished)

/-- A scope encodes a ledger: spans were issued with the ids of their handles and of
their parents, held spans are issued ones that the ledger has not finished. -/
structure Sim (s : Scope) (l : Ledger) : Prop where
  issued_id : s.issued.map TracingSpan.spanId = (List.range l.created).map idOf
  issued_parent : s.issued.map TracingSpan.parentSpanId = l.parents.map parentIdOf
  held_length : s.held.length = l.created
  held_identity : ∀ k span, s.span? k = some span →
    s.issued[k]?.map TracingSpan.identity = some span.identity
  held_open : ∀ k span, s.span? k = some span → k ∉ l.finished
  context : SimContext s l

namespace Sim

variable {s : Scope} {l : Ledger}

lemma issued_length (h : Sim s l) : s.issued.length = l.created := by
  simpa using congrArg List.length h.issued_id

lemma lt_created (h : Sim s l) {k : ℕ} {span : TracingSpan} (hk : s.span? k = some span) :
    k < l.created := by
  obtain ⟨sp, hsp, -⟩ := Option.map_eq_some_iff.mp (h.held_identity k span hk)
  rw [← h.issued_length]
  exact (List.getElem?_eq_some_iff.mp hsp).1

/-- The span under the handle `k` has the id of `k`. -/
lemma issued_spanId (h : Sim s l) {k : ℕ} {span : TracingSpan} (hk : s.issued[k]? = some span) :
    span.spanId = idOf k := by
  have hlt : k < l.created := by
    rw [← h.issued_length]
    exact (List.getElem?_eq_some_iff.mp hk).1
  have hid := congrArg (·[k]?) h.issued_id
  simp only [List.getElem?_map, hk, Option.map_some, List.getElem?_range hlt] at hid
  exact Option.some.inj hid

lemma held_spanId (h : Sim s l) {k : ℕ} {span : TracingSpan} (hk : s.span? k = some span) :
    span.spanId = idOf k := by
  obtain ⟨sp, hsp, hid⟩ := Option.map_eq_some_iff.mp (h.held_identity k span hk)
  have hspan : sp.spanId = span.spanId := congrArg SpanIdentity.spanId hid
  rw [← hspan]
  exact h.issued_spanId hsp

end Sim

/-- A scope as `async_enter` opens it encodes the empty ledger. -/
lemma sim_enter {config : Config} {traceDraw segmentDraw : IdDraw}
    {current : CurrentTracingContext}
    (hnew : CurrentTracingContext.new config traceDraw segmentDraw = .ok current) :
    Sim (Scope.enter current) Ledger.empty := by
  obtain ⟨context, hcontext, rfl⟩ := CurrentTracingContext.eq_of_new hnew
  refine ⟨rfl, rfl, rfl, by simp [Scope.span?, Scope.enter], by simp [Ledger.empty], ?_⟩
  refine .live rfl rfl rfl ?_ ?_ rfl
  · rw [hcontext.nextSeq]
    rfl
  · rw [hcontext.finishedSpans]
    exact List.Forall₂.nil

/-! ### The simulation -/

namespace Scope

variable {s : Scope} {k j : ℕ}

lemma span?_receive (s : Scope) (span : TracingSpan) (injection : Option Injection)
    (ctx : TaskLocal) :
    (s.receive (some span) injection ctx).span? k
      = if k = s.held.length then some span else s.span? k := by
  rw [span?, receive, Option.toList_some, List.map_singleton, List.getElem?_append]
  split_ifs with h1 h2 h2
  · omega
  · rfl
  · subst h2; simp
  · rw [span?, List.getElem?_eq_none (by omega : s.held.length ≤ k),
      List.getElem?_eq_none (by simp; omega)]

lemma span?_set (s : Scope) (x : Option TracingSpan) :
    ({ s with held := s.held.set k x } : Scope).span? j
      = if k = j ∧ k < s.held.length then x else s.span? j := by
  rw [span?, span?, List.getElem?_set]
  by_cases hkj : k = j
  · subst hkj
    by_cases hlt : k < s.held.length
    · simp [hlt]
    · simp [hlt]
  · simp [hkj]

lemma lt_length_of_span? {span : TracingSpan} (h : s.span? k = some span) : k < s.held.length := by
  rw [span?, Option.join_eq_some_iff] at h
  exact (List.getElem?_eq_some_iff.mp h).1

/-- The spans held in `s'` were held in `s` under the same handles, with the same
identities. -/
def HeldFrom (s s' : Scope) : Prop :=
  s'.held.length = s.held.length ∧ ∀ j span, s'.span? j = some span →
    ∃ old, s.span? j = some old ∧ old.identity = span.identity

lemma heldFrom_set_none (s : Scope) (k : ℕ) :
    HeldFrom s { s with held := s.held.set k none } := by
  refine ⟨List.length_set, fun j span hj => ?_⟩
  rw [span?_set] at hj
  split_ifs at hj
  exact ⟨span, hj, rfl⟩

lemma heldFrom_set_some {span old : TracingSpan} (hk : s.span? k = some old)
    (hid : old.identity = span.identity) :
    HeldFrom s { s with held := s.held.set k (some span) } := by
  refine ⟨List.length_set, fun j span' hj => ?_⟩
  rw [span?_set] at hj
  split_ifs at hj with h
  · obtain rfl := Option.some.inj hj
    rw [← h.1]
    exact ⟨old, hk, hid⟩
  · exact ⟨span', hj, rfl⟩

lemma HeldFrom.trans {s₁ s₂ s₃ : Scope} (h : HeldFrom s₁ s₂) (h' : HeldFrom s₂ s₃) :
    HeldFrom s₁ s₃ := by
  refine ⟨h'.1.trans h.1, fun j span hj => ?_⟩
  obtain ⟨mid, hmid, hid⟩ := h'.2 j span hj
  obtain ⟨old, hold, hid'⟩ := h.2 j mid hmid
  exact ⟨old, hold, hid'.trans hid⟩

end Scope

namespace Sim

variable {b64 : Base64} {s s' : Scope} {l : Ledger}

/-- The simulation depends on the spans held through their identities only. -/
lemma heldFrom (h : Sim s l) (hissued : s'.issued = s.issued) (hheld : s.HeldFrom s')
    (hcontext : SimContext s' l) : Sim s' l where
  issued_id := by rw [hissued]; exact h.issued_id
  issued_parent := by rw [hissued]; exact h.issued_parent
  held_length := hheld.1.trans h.held_length
  held_identity := by
    intro j span hj
    obtain ⟨old, hold, hid⟩ := hheld.2 j span hj
    rw [hissued, h.held_identity j old hold, hid]
  held_open := by
    intro j span hj
    obtain ⟨old, hold, -⟩ := hheld.2 j span hj
    exact h.held_open j old hold
  context := hcontext

end Sim

namespace SimContext

variable {s s' : Scope} {l : Ledger} {wx : WorkingContext}

lemma congr (h : SimContext s l) (hctx : s'.ctx = s.ctx) (hissued : s'.issued = s.issued)
    (hreported : s'.reported = s.reported) : SimContext s' l := by
  cases h with
  | live ctx isLive stack seq archived reported =>
      refine .live (hctx.trans ctx) isLive stack seq ?_ (hreported.trans reported)
      rw [hissued]
      exact archived
  | closed ctx isLive reported archived =>
      refine .closed (hctx.trans ctx) isLive (hreported.trans reported) ?_
      rw [hissued]
      exact archived

/-- What the simulation says of a scope with a context. -/
lemma of_live (h : SimContext s l) (live : s.Live wx) :
    l.live = true ∧ wx.spanStack = l.stack.map idOf ∧ wx.context.nextSeq = idOf l.created - 1
      ∧ Archived s.issued wx.context.finishedSpans l.finished ∧ s.reported = [] := by
  cases h with
  | live ctx isLive stack seq archived reported =>
      rw [Scope.Live, show s.ctx = some ⟨some _⟩ from ctx] at live
      cases live
      exact ⟨isLive, stack, seq, archived, reported⟩
  | closed ctx isLive reported archived =>
      rw [Scope.Live, ctx] at live
      cases live

/-- A scope without a context has a closed ledger. -/
lemma of_dead (h : SimContext s l) (dead : ∀ wx, ¬ s.Live wx) : l.live = false := by
  cases h with
  | live ctx isLive stack seq archived reported => exact absurd ctx (dead _)
  | closed ctx isLive reported archived => exact isLive

end SimContext

namespace Sim

variable {s s' : Scope} {l : Ledger} {wx : WorkingContext}

/-- The next span gets the id of its handle, and the parent of its item. -/
lemma next_ids (h : Sim s l) (live : s.Live wx) :
    wx.nextId = idOf l.created ∧ wx.topId = parentIdOf l.stack.getLast? := by
  obtain ⟨-, hstack, hseq, -, -⟩ := h.context.of_live live
  refine ⟨?_, ?_⟩
  · rw [WorkingContext.nextId, hseq, Int32.sub_add_cancel]
  · rw [WorkingContext.topId, hstack, List.getLast?_map, parentIdOf]

/-- A creation is matched by the creation of an item. -/
lemma create (h : Sim s l) (hw : l.Wf) (live : s.Live wx) {op : Op} {span : TracingSpan}
    (new : op.newSpan wx.nextId wx.topId = some span) (injection : Option Injection) :
    Sim (s.receive (some span) injection (some ⟨some wx.opened⟩)) l.create := by
  obtain ⟨hlive, hstack, hseq, harchived, hreported⟩ := h.context.of_live live
  obtain ⟨hid, htop⟩ := h.next_ids live
  have hissued : (s.receive (some span) injection (some ⟨some wx.opened⟩)).issued
      = s.issued ++ [span] := rfl
  refine ⟨?_, ?_, ?_, ?_, ?_, ?_⟩
  · rw [hissued, List.map_append, h.issued_id, Ledger.create, List.range_succ, List.map_append,
      List.map_singleton, List.map_singleton, Op.spanId_newSpan new, hid]
  · rw [hissued, List.map_append, h.issued_parent, Ledger.create, List.map_append,
      List.map_singleton, List.map_singleton, Op.parentSpanId_newSpan new, htop]
  · simp [Scope.receive, Ledger.create, h.held_length]
  · intro k span' hk
    rw [Scope.span?_receive] at hk
    rw [hissued]
    split_ifs at hk with hlen
    · obtain rfl := Option.some.inj hk
      rw [hlen, h.held_length, ← h.issued_length, List.getElem?_concat_length]
      rfl
    · rw [List.getElem?_append_left (by rw [h.issued_length]; exact h.lt_created hk)]
      exact h.held_identity k span' hk
  · intro k span' hk
    rw [Scope.span?_receive] at hk
    split_ifs at hk with hlen
    · intro hfin
      exact absurd (hw.finished_lt k hfin) (by rw [hlen, h.held_length]; exact lt_irrefl _)
    · exact h.held_open k span' hk
  · refine .live rfl hlive ?_ ?_ (harchived.append_issued _) hreported
    · rw [WorkingContext.opened, hstack, hid, Ledger.create, List.map_append, List.map_singleton]
    · rw [Ledger.create, idOf_succ, Int32.add_sub_cancel, ← hid]
      rfl

/-- The finish of a held span in a live scope is matched by the finish of its item. -/
lemma finish (h : Sim s l) (live : s.Live wx) {k : ℕ} {span : TracingSpan}
    (held : s.span? k = some span) (now now' : SystemTime) :
    Ledger.step IsFirst l (.finish k) = some (l.finish k (decide (IsFirst k)))
      ∧ Archived s.issued (wx.closed (span.endNow now) now').context.finishedSpans
          (l.finish k (decide (IsFirst k))).finished := by
  obtain ⟨hlive, -, -, harchived, -⟩ := h.context.of_live live
  refine ⟨?_, ?_⟩
  · rw [Ledger.step, if_pos hlive,
      if_pos ⟨h.lt_created held, h.held_open k span held⟩]
  · refine harchived.concat ?_
    rw [h.held_identity k span held]
    split_ifs <;> rfl

/-- The spans held after a finish are not finished ones. -/
lemma held_open_finish (h : Sim s l) {k : ℕ} {span : TracingSpan} (held : s.span? k = some span)
    {isRoot : Bool} {j : ℕ} {other : TracingSpan}
    (hj : ({ s with held := s.held.set k none } : Scope).span? j = some other) :
    j ∉ (l.finish k isRoot).finished := by
  rw [Scope.span?_set] at hj
  split_ifs at hj with hkj
  rw [Ledger.finish, List.mem_append, List.mem_singleton, not_or]
  refine ⟨h.held_open j other hj, ?_⟩
  rintro rfl
  exact hkj ⟨rfl, Scope.lt_length_of_span? held⟩

/-- A scope that has moved a span to `finish_span` encodes the ledger with its item
finished, if its context does. -/
lemma set_finished (h : Sim s l) {k : ℕ} {span : TracingSpan} (held : s.span? k = some span)
    {isRoot : Bool} {ctx : TaskLocal} {reported : List TracingContext}
    (hcontext : SimContext { s with ctx, held := s.held.set k none, reported }
      (l.finish k isRoot)) :
    Sim { s with ctx, held := s.held.set k none, reported } (l.finish k isRoot) where
  issued_id := h.issued_id
  issued_parent := h.issued_parent
  held_length := (s.heldFrom_set_none k).1.trans h.held_length
  held_identity := by
    intro j other hj
    obtain ⟨old, hold, hid⟩ := (s.heldFrom_set_none k).2 j other hj
    rw [h.held_identity j old hold, hid]
  held_open := fun j other hj => h.held_open_finish held hj
  context := hcontext

end Sim

/-- **Every call is matched by its events**: the ledger a scope encodes makes the steps
that the call stands for. -/
theorem sim_step {b64 : Base64} {s s' : Scope} {l : Ledger} {op : Op}
    (h : Sim s l ∧ l.Wf) (hs : s.step b64 op = some s') :
    ∃ l', run (Ledger.step IsFirst) l op.events = some l' ∧ Sim s' l' ∧ l'.Wf := by
  obtain ⟨h, hw⟩ := h
  -- the ledger stays well-formed whatever its events are
  suffices hsim : ∃ l', run (Ledger.step IsFirst) l op.events = some l' ∧ Sim s' l' by
    obtain ⟨l', hrun, hsim⟩ := hsim
    exact ⟨l', hrun, hsim, run_invariant (fun _ _ _ hw hs => hw.step hs) hw hrun⟩
  cases Scope.step_cases hs with
  | create live new =>
      have hlive := (h.context.of_live live).1
      refine ⟨l.create, ?_, h.create hw live new _⟩
      rw [Op.events_of_creates (Op.creates_of_newSpan new), run_cons, Ledger.step, if_pos hlive]
      rfl
  | createNone dead new =>
      refine ⟨l, ?_, h⟩
      rw [Op.events_of_creates new, run_cons, Ledger.step_of_closed (h.context.of_dead dead)]
      rfl
  | @finish k now now' wx span live held first =>
      obtain ⟨hlive, hstack, hseq, -, hreported⟩ := h.context.of_live live
      obtain ⟨hstep, harchived⟩ := h.finish live held now now'
      have hfirst : ¬ IsFirst k := by rw [IsFirst, ← h.held_spanId held]; exact first
      refine ⟨_, by rw [Op.events, run_cons, hstep]; rfl, ?_⟩
      refine h.set_finished held
        (.live rfl (by simp [Ledger.finish, hfirst]) ?_ hseq harchived hreported)
      rw [WorkingContext.closed, hstack, Ledger.finish, List.map_dropLast]
  | @finishFirst k now now' wx span live held first =>
      obtain ⟨hlive, -, -, -, hreported⟩ := h.context.of_live live
      obtain ⟨hstep, harchived⟩ := h.finish live held now now'
      have hfirst : IsFirst k := by rw [IsFirst, ← h.held_spanId held]; exact first
      refine ⟨_, by rw [Op.events, run_cons, hstep]; rfl, ?_⟩
      exact h.set_finished held
        (.closed rfl (by simp [Ledger.finish, hfirst]) (by rw [hreported]; rfl) harchived)
  | @finishDead k now now' span dead held =>
      have hclosed := h.context.of_dead dead
      refine ⟨l, ?_, h.heldFrom rfl (s.heldFrom_set_none k) (h.context.congr rfl rfl rfl)⟩
      rw [Op.events, run_cons, Ledger.step_of_closed hclosed]
      rfl
  | finishNone => exact ⟨l, rfl, h⟩
  | @changeTraceId id wx live =>
      obtain ⟨hlive, hstack, hseq, harchived, hreported⟩ := h.context.of_live live
      refine ⟨l, rfl, h.heldFrom rfl ⟨rfl, fun j span hj => ⟨span, hj, rfl⟩⟩ ?_⟩
      exact .live rfl hlive hstack hseq harchived hreported
  | changeTraceIdDead dead => exact ⟨l, rfl, h⟩
  | @onSpan k spanOp span held =>
      have hset := Scope.heldFrom_set_some held (TracingSpan.identity_apply span spanOp).symm
      exact ⟨l, rfl, h.heldFrom rfl hset (h.context.congr rfl rfl rfl)⟩
  | @mergeSpan k j span other hk hj hne =>
      have hset := Scope.heldFrom_set_some hk (TracingSpan.identity_mergeSpan span other).symm
      have hboth := hset.trans (Scope.heldFrom_set_none _ j)
      exact ⟨l, rfl, h.heldFrom rfl hboth (h.context.congr rfl rfl rfl)⟩

/-- **Every run is matched by its events**: a run of a scope from the start is encoded by
the ledger that its events lead to. -/
theorem sim_of_run {b64 : Base64} {config : Config} {traceDraw segmentDraw : IdDraw}
    {current : CurrentTracingContext}
    (hnew : CurrentTracingContext.new config traceDraw segmentDraw = .ok current)
    {ops : List Op} {s : Scope}
    (hrun : run (Scope.step b64) (Scope.enter current) ops = some s) :
    ∃ l, run (Ledger.step IsFirst) Ledger.empty (ops.flatMap Op.events) = some l
      ∧ Sim s l ∧ l.Wf :=
  run_simulation Op.events (fun _ _ _ _ h hs => sim_step h hs)
    ⟨sim_enter hnew, Ledger.wf_empty⟩ hrun

end Skywalking
