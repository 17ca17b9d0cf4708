import Skywalking.Machine.OrderedTree
import Skywalking.Scope.Invariant

/-!
Programs that open and close their spans like nested calls: a span is created, the calls
below it are made one after the other, and the span is finished.

* `SpanCall`, `exec`: such a program, as a tree of spans, and what it does to the context
  of its task.
* `exec_outcome`: a tree leaves the stack as it was, takes as many ids as it has nodes, and
  archives its nodes after the nodes below them, until the context is handed over.
* `exec_new`: the context that a tree hands over when it is run in a new scope.
* `nested_program_reported`: **a nested program is reported as its call tree**.
-/

namespace Skywalking

open RustStd Machine OrderedTree

/-- The kind of a span, with what only the creation of this kind is given. -/
inductive SpanKind where
  | entry
  | local
  | exit (peer : String) (injector : Bool)
  deriving DecidableEq, Repr

/-- One node of a nested program: what its span is created with, and the clock readings of
its creation and its finish. -/
structure SpanCall where
  kind : SpanKind
  operationName : String
  layer : SpanLayer
  now : SystemTime
  endNow : SystemTime
  endNow' : SystemTime
  deriving DecidableEq, Repr

namespace SpanCall

/-- The creation of the span. -/
def create (b64 : Base64) (call : SpanCall) (ctx : TaskLocal) :
    Except Panic (Option TracingSpan × TaskLocal) :=
  match call.kind with
  | .entry => ContextManager.tracingEntry call.operationName call.layer none call.now ctx
  | .local => .ok (ContextManager.tracingLocal call.operationName call.layer call.now ctx)
  | .exit peer injector =>
      let (span, _, ctx) := ContextManager.tracingExit b64 call.operationName peer call.layer
        injector call.now ctx
      .ok (span, ctx)

/-- The identity the span of a node should have: its name and kind, its index as its id,
and the index of the node around it as the id of its parent. -/
def identityAt (place : Place SpanCall) : SpanIdentity where
  operationName := place.label.operationName
  spanId := idOf place.index
  parentSpanId := parentIdOf place.parent
  isEntry := place.label.kind = .entry
  isExit := match place.label.kind with
    | .exit _ _ => true
    | _ => false
  spanLayer := place.label.layer

/-- The span of a node as its creation should return it. -/
def spanAt (place : Place SpanCall) : TracingSpan :=
  match place.label.kind with
  | .entry => (TracingSpan.newEntrySpan place.label.operationName (idOf place.index)
      (parentIdOf place.parent) place.label.layer).start place.label.now
  | .local => (TracingSpan.newLocalSpan place.label.operationName (idOf place.index)
      (parentIdOf place.parent) place.label.layer).start place.label.now
  | .exit peer _ => (TracingSpan.newExitSpan place.label.operationName (idOf place.index)
      (parentIdOf place.parent) peer place.label.layer).start place.label.now

/-- The span of a node as its finish should archive it. -/
def archivedAt (place : Place SpanCall) : TracingSpan :=
  (spanAt place).archived place.label.endNow place.label.endNow'

lemma identity_spanAt (place : Place SpanCall) : (spanAt place).identity = identityAt place := by
  obtain ⟨index, parent, kind, operationName, layer, now, endNow, endNow'⟩ := place
  cases kind <;> rfl

lemma identity_archivedAt (place : Place SpanCall) :
    (archivedAt place).identity = identityAt place := by
  rw [archivedAt, TracingSpan.identity_archived, identity_spanAt]

lemma spanId_spanAt (place : Place SpanCall) : (spanAt place).spanId = idOf place.index :=
  congrArg SpanIdentity.spanId (identity_spanAt place)

end SpanCall

mutual

/-- A nested program: the spans it creates, the contexts it hands over, and the context of
its task afterwards. -/
def exec (b64 : Base64) : OrderedTree SpanCall → TaskLocal →
    Except Panic (List TracingSpan × List TracingContext × TaskLocal)
  | .node call children, ctx => do
      let (span, ctx) ← call.create b64 ctx
      let (spans, handed, ctx) ← execAll b64 children ctx
      let (ctx, last) := ContextManager.finishSpan span call.endNow call.endNow' ctx
      return (span.toList ++ spans, handed ++ last.toList, ctx)

/-- Nested programs, one after the other. -/
def execAll (b64 : Base64) : List (OrderedTree SpanCall) → TaskLocal →
    Except Panic (List TracingSpan × List TracingContext × TaskLocal)
  | [], ctx => return ([], [], ctx)
  | t :: ts, ctx => do
      let (spans, handed, ctx) ← exec b64 t ctx
      let (spans', handed', ctx) ← execAll b64 ts ctx
      return (spans ++ spans', handed ++ handed', ctx)

end

section Exec

variable {b64 : Base64}

/-- A creation in a scope with a context. -/
lemma create_live (b64 : Base64) (call : SpanCall) {wx : WorkingContext} {n : ℕ}
    {parent : Option ℕ} (hid : wx.nextId = idOf n) (htop : wx.topId = parentIdOf parent) :
    call.create b64 (some ⟨some wx⟩)
      = .ok (some (SpanCall.spanAt ⟨n, parent, call⟩), some ⟨some wx.opened⟩) := by
  obtain ⟨kind, operationName, layer, now, endNow, endNow'⟩ := call
  cases kind with
  | entry =>
      rw [SpanCall.spanAt, ← hid, ← htop]
      rfl
  | «local» =>
      rw [SpanCall.spanAt, ← hid, ← htop]
      rfl
  | exit peer injector =>
      rw [SpanCall.spanAt, ← hid, ← htop]
      rfl

/-- A creation in a scope whose context was handed over. -/
lemma create_dead (call : SpanCall) :
    call.create b64 (some ⟨none⟩) = .ok (none, some ⟨none⟩) := by
  obtain ⟨kind, operationName, layer, now, endNow, endNow'⟩ := call
  cases kind <;> rfl

/-- A computation goes on with the value of one that ends well. -/
lemma ok_bind {ε α β : Type} (a : α) (f : α → Except ε β) :
    (Except.ok a >>= f) = f a := rfl

/-- In a scope whose context was handed over a program creates and reports nothing. -/
lemma exec_dead :
    (∀ t : OrderedTree SpanCall, exec b64 t (some ⟨none⟩) = .ok ([], [], some ⟨none⟩))
      ∧ ∀ ts : List (OrderedTree SpanCall),
        execAll b64 ts (some ⟨none⟩) = .ok ([], [], some ⟨none⟩) := by
  refine OrderedTree.induction ?_ ?_ ?_
  · intro call children ih
    simp only [exec, create_dead, ok_bind, ih]
    rfl
  · rw [execAll]
    rfl
  · intro t ts iht ihts
    simp only [execAll, iht, ok_bind, ihts]
    rfl

/-- What a program does in a scope with a context, below the first span: the stack is as
before, `size` ids are given out from `n` on, and the `places` are archived. -/
structure Below (wx wx' : WorkingContext) (n size : ℕ) (places : List (Place SpanCall)) :
    Prop where
  spanStack : wx'.spanStack = wx.spanStack
  nextSeq : wx'.context.nextSeq = idOf (n + size) - 1
  finishedSpans : wx'.context.finishedSpans.map TracingSpan.identity
    = wx.context.finishedSpans.map TracingSpan.identity ++ places.map SpanCall.identityAt

/-- What a program does in a scope with a context. Its nodes are archived one after the
other until the first span among them is met, and there the context is handed over. -/
inductive Outcome (wx : WorkingContext) (n size : ℕ) (places : List (Place SpanCall)) :
    List TracingSpan × List TracingContext × TaskLocal → Prop
  /-- No node is the first span. -/
  | live {spans : List TracingSpan} {wx' : WorkingContext} (length : spans.length = size)
      (below : Below wx wx' n size places)
      (archived : wx'.context.finishedSpans
        = wx.context.finishedSpans ++ places.map SpanCall.archivedAt)
      (others : ∀ place ∈ places, ¬ IsFirst place.index) :
      Outcome wx n size places (spans, [], some ⟨some wx'⟩)
  /-- The last of the nodes reported is the first span. -/
  | handed {spans : List TracingSpan} {context : TracingContext}
      {reported : List (Place SpanCall)} (start : reported <+: places)
      (archived : context.finishedSpans
        = wx.context.finishedSpans ++ reported.map SpanCall.archivedAt)
      (first : ∃ place ∈ reported, IsFirst place.index)
      (length : reported.length = size → spans.length = size) :
      Outcome wx n size places (spans, [context], some ⟨none⟩)

/-- The ids given out and the stack, and the spans archived. -/
lemma below_of_archived {wx wx' : WorkingContext} {n size : ℕ} {places : List (Place SpanCall)}
    (hstack : wx'.spanStack = wx.spanStack) (hseq : wx'.context.nextSeq = idOf (n + size) - 1)
    (harchived : wx'.context.finishedSpans
      = wx.context.finishedSpans ++ places.map SpanCall.archivedAt) :
    Below wx wx' n size places := by
  refine ⟨hstack, hseq, ?_⟩
  rw [harchived, List.map_append, List.map_map]
  simp only [Function.comp_def, SpanCall.identity_archivedAt]

/-- The finish of a node after the calls below it. -/
lemma outcome_node {call : SpanCall} {children : List (OrderedTree SpanCall)}
    {wx : WorkingContext} {n : ℕ} {parent : Option ℕ}
    {result : List TracingSpan × List TracingContext × TaskLocal}
    (hcreate : call.create b64 (some ⟨some wx⟩)
      = .ok (some (SpanCall.spanAt ⟨n, parent, call⟩), some ⟨some wx.opened⟩))
    (hexec : execAll b64 children (some ⟨some wx.opened⟩) = .ok result)
    (houtcome : Outcome wx.opened (n + 1) (sizeAll children)
      (postOrderAll children (n + 1) (some n)) result) :
    ∃ result', exec b64 (.node call children) (some ⟨some wx⟩) = .ok result'
      ∧ Outcome wx n (OrderedTree.node call children).size
        ((OrderedTree.node call children).postOrder n parent) result' := by
  let place : Place SpanCall := ⟨n, parent, call⟩
  set span := SpanCall.spanAt place
  have hid : span.spanId = idOf n := SpanCall.spanId_spanAt place
  rw [postOrder, size]
  cases houtcome with
  | @live spans wx' length below archived others =>
      have hclosed : (wx'.closed (span.endNow call.endNow) call.endNow').context.finishedSpans
          = wx.context.finishedSpans ++ (postOrderAll children (n + 1) (some n)
            ++ [place]).map SpanCall.archivedAt := by
        rw [WorkingContext.finishedSpans_closed, archived, List.map_append, List.append_assoc]
        rfl
      by_cases hfirst : IsFirst n
      · refine ⟨(span :: spans,
          [(wx'.closed (span.endNow call.endNow) call.endNow').context], some ⟨none⟩), ?_, ?_⟩
        · simp only [exec, hcreate, ok_bind, hexec]
          rw [Scope.finishSpan_live, if_pos (hid.trans hfirst)]
          rfl
        · refine .handed List.prefix_rfl hclosed ?_ fun _ => by rw [List.length_cons, length]
          exact ⟨place, List.mem_append_right _ (List.mem_singleton_self _), hfirst⟩
      · refine ⟨(span :: spans, [],
          some ⟨some (wx'.closed (span.endNow call.endNow) call.endNow')⟩), ?_, ?_⟩
        · simp only [exec, hcreate, ok_bind, hexec]
          rw [Scope.finishSpan_live, if_neg (fun h0 => hfirst (hid.symm.trans h0))]
          rfl
        · refine .live (by rw [List.length_cons, length])
            (below_of_archived ?_ ?_ hclosed) hclosed ?_
          · rw [WorkingContext.closed, below.spanStack, WorkingContext.opened,
              List.dropLast_concat]
          · rw [show n + (sizeAll children + 1) = n + 1 + sizeAll children by omega]
            exact below.nextSeq
          · intro other hother
            rcases List.mem_append.mp hother with hother | hother
            · exact others other hother
            · rw [List.mem_singleton.mp hother]
              exact hfirst
  | @handed spans context reported start archived first length =>
      refine ⟨(span :: spans, [context], some ⟨none⟩), ?_, ?_⟩
      · have hdead : ContextManager.finishSpan (some span) call.endNow call.endNow'
            (some ⟨none⟩) = (some ⟨none⟩, none) := by
          simp [ContextManager.finishSpan, CurrentTracingContext.finishSpan,
            CurrentTracingContext.finish]
        simp only [exec, hcreate, ok_bind, hexec, hdead]
        rfl
      · refine .handed (start.trans (List.prefix_append _ _)) archived first fun hlength => ?_
        -- the node itself is not among those reported
        have hle := start.length_le
        rw [length_postOrder.2] at hle
        omega

/-- **What a program does**: it leaves the stack as it was, takes one id for each of its
nodes and archives every node after the nodes below it, unless it meets the first span and
hands the context over. -/
theorem exec_outcome :
    (∀ (t : OrderedTree SpanCall) (wx : WorkingContext) (n : ℕ) (parent : Option ℕ),
        wx.context.nextSeq = idOf n - 1 → wx.topId = parentIdOf parent →
        ∃ result, exec b64 t (some ⟨some wx⟩) = .ok result
          ∧ Outcome wx n t.size (t.postOrder n parent) result)
      ∧ ∀ (ts : List (OrderedTree SpanCall)) (wx : WorkingContext) (n : ℕ) (parent : Option ℕ),
        wx.context.nextSeq = idOf n - 1 → wx.topId = parentIdOf parent →
        ∃ result, execAll b64 ts (some ⟨some wx⟩) = .ok result
          ∧ Outcome wx n (sizeAll ts) (postOrderAll ts n parent) result := by
  refine OrderedTree.induction ?_ ?_ ?_
  · intro call children ih wx n parent hseq htop
    have hid : wx.nextId = idOf n := by rw [WorkingContext.nextId, hseq, Int32.sub_add_cancel]
    have hseq' : wx.opened.context.nextSeq = idOf (n + 1) - 1 := by
      rw [idOf_succ, Int32.add_sub_cancel, ← hid]
      rfl
    have htop' : wx.opened.topId = parentIdOf (some n) := by
      rw [WorkingContext.topId, WorkingContext.opened, List.getLast?_concat, hid]
      rfl
    obtain ⟨result, hexec, houtcome⟩ := ih wx.opened (n + 1) (some n) hseq' htop'
    exact outcome_node (create_live b64 call hid htop) hexec houtcome
  · intro wx n parent hseq _
    refine ⟨([], [], some ⟨some wx⟩), rfl, .live rfl ⟨rfl, hseq, ?_⟩ ?_ ?_⟩
    · rw [postOrderAll, List.map_nil, List.append_nil]
    · rw [postOrderAll, List.map_nil, List.append_nil]
    · rw [postOrderAll]
      exact fun place hplace => absurd hplace List.not_mem_nil
  · intro t ts iht ihts wx n parent hseq htop
    obtain ⟨result, hexec, houtcome⟩ := iht wx n parent hseq htop
    rw [postOrderAll, sizeAll]
    cases houtcome with
    | @live spans wx₁ length below archived others =>
        have htop₁ : wx₁.topId = parentIdOf parent := by
          rw [WorkingContext.topId, below.spanStack]
          exact htop
        obtain ⟨result', hexec', houtcome'⟩ := ihts wx₁ (n + t.size) parent below.nextSeq htop₁
        cases houtcome' with
        | @live spans' wx₂ length' below' archived' others' =>
            refine ⟨(spans ++ spans', [], some ⟨some wx₂⟩), ?_, ?_⟩
            · simp only [execAll, hexec, ok_bind, hexec']
              rfl
            · have harchived : wx₂.context.finishedSpans = wx.context.finishedSpans
                  ++ (t.postOrder n parent ++ postOrderAll ts (n + t.size) parent).map
                    SpanCall.archivedAt := by
                rw [archived', archived, List.map_append, List.append_assoc]
              refine .live (by rw [List.length_append, length, length'])
                (below_of_archived (below'.spanStack.trans below.spanStack) ?_ harchived)
                harchived ?_
              · rw [← Nat.add_assoc]
                exact below'.nextSeq
              · intro place hplace
                rcases List.mem_append.mp hplace with hplace | hplace
                · exact others place hplace
                · exact others' place hplace
        | @handed spans' context reported start archived' first length' =>
            refine ⟨(spans ++ spans', [context], some ⟨none⟩), ?_, ?_⟩
            · simp only [execAll, hexec, ok_bind, hexec']
              rfl
            · obtain ⟨place, hplace, hfirst⟩ := first
              have harchived : context.finishedSpans = wx.context.finishedSpans
                  ++ (t.postOrder n parent ++ reported).map SpanCall.archivedAt := by
                rw [archived', archived, List.map_append, List.append_assoc]
              refine .handed (List.prefix_append_right_inj _ |>.mpr start) harchived
                ⟨place, List.mem_append_right _ hplace, hfirst⟩ fun hlength => ?_
              · rw [List.length_append, length_postOrder.1] at hlength
                rw [List.length_append, length, length' (by omega)]
    | @handed spans context reported start archived first length =>
        refine ⟨(spans, [context], some ⟨none⟩), ?_, ?_⟩
        · simp only [execAll, hexec, ok_bind, exec_dead.2, List.append_nil]
          rfl
        · refine .handed (start.trans (List.prefix_append _ _)) archived first fun hlength => ?_
          have hle := start.length_le
          rw [length_postOrder.1] at hle
          have hall : reported.length = t.size := by omega
          rw [length hall]
          omega

/-- **A program in a new scope** hands one context over. Its finished spans are those of the
nodes in post-order, of all nodes if their indices are below `2^32`. -/
theorem exec_new {config : Config} {traceDraw segmentDraw : IdDraw}
    {current : CurrentTracingContext}
    (hnew : CurrentTracingContext.new config traceDraw segmentDraw = .ok current)
    (t : OrderedTree SpanCall) :
    ∃ reported spans context, exec b64 t (some current) = .ok (spans, [context], some ⟨none⟩)
      ∧ reported <+: t.postOrder 0 none
      ∧ context.finishedSpans = reported.map SpanCall.archivedAt
      ∧ (t.size ≤ 2 ^ 32 → reported = t.postOrder 0 none)
      ∧ (reported = t.postOrder 0 none → spans.length = t.size) := by
  obtain ⟨context, hcontext, rfl⟩ := CurrentTracingContext.eq_of_new hnew
  have hseq : context.nextSeq = idOf 0 - 1 := by rw [hcontext.nextSeq]; rfl
  obtain ⟨result, hexec, houtcome⟩ := exec_outcome.1 t ⟨context, []⟩ 0 none hseq rfl
  obtain ⟨call, children⟩ := t
  have hplaces : (node call children).postOrder 0 none
      = postOrderAll children 1 (some 0) ++ [⟨0, none, call⟩] := by rw [postOrder]
  cases houtcome with
  | live length below archived others =>
      have hroot : (⟨0, none, call⟩ : Place SpanCall) ∈ (node call children).postOrder 0 none := by
        rw [hplaces]
        exact List.mem_append_right _ (List.mem_singleton_self _)
      exact absurd rfl (others _ hroot)
  | @handed spans context' reported start archived first length =>
      rw [hcontext.finishedSpans, List.nil_append] at archived
      refine ⟨reported, spans, context', hexec, start, archived, fun hmax => ?_, ?_⟩
      · obtain ⟨place, hplace, hfirst⟩ := first
        have hlt := (index_mem_postOrder (start.subset hplace)).2
        have hzero : place.index = 0 := by
          have hmod := idOf_eq_iff.mp (show idOf place.index = idOf 0 from hfirst)
          omega
        rw [hplaces] at start ⊢
        rcases List.prefix_concat_iff.mp start with hall | hbelow
        · exact hall
        · obtain ⟨-, i, hi, -⟩ :=
            mem_postOrder_from.2 children 1 (some 0) place (hbelow.subset hplace)
          omega
      · rintro rfl
        exact length (length_postOrder.1 _ 0 none)

/-- Lists with the same images are related element by element. -/
lemma forall₂_of_map_eq {α β γ : Type*} {f : α → γ} {g : β → γ} {as : List α} {bs : List β}
    (h : as.map f = bs.map g) : List.Forall₂ (fun a b => b ∈ bs ∧ f a = g b) as bs := by
  have heq : List.Forall₂ (· = ·) (as.map f) (bs.map g) := by
    rw [List.forall₂_eq_eq_eq]
    exact h
  rw [List.forall₂_map_left_iff, List.forall₂_map_right_iff] at heq
  have hflip : List.Forall₂ (fun b a => f a = g b) bs as := heq.flip
  have hmem : List.Forall₂ (fun b a => b ∈ bs ∧ f a = g b) bs as :=
    (List.forall₂_and_left _ _).mpr ⟨fun _ hb => hb, hflip⟩
  exact hmem.flip

/-- A span records a node of a tree: its name and kind, its index in pre-order as the span
id, and the index of the node around it, or `-1`, as the id of the parent. -/
structure Records (t : OrderedTree SpanCall) (span : TracingSpan) (place : Place SpanCall) :
    Prop where
  label : t.preOrder[place.index]? = some place.label
  operationName : span.operationName = place.label.operationName
  isEntry : span.isEntry = true ↔ place.label.kind = .entry
  isExit : span.isExit = true ↔ ∃ peer injector, place.label.kind = .exit peer injector
  spanId : span.spanId.toInt = place.index
  root : place.parent = none → span.parentSpanId.toInt = -1
  parent : ∀ q, place.parent = some q → span.parentSpanId.toInt = q

/-- A span with the identity of a place of a tree records the node there. -/
lemma records_of_identity {t : OrderedTree SpanCall} (hmax : t.size ≤ 2 ^ 31)
    {span : TracingSpan} {place : Place SpanCall} (hplace : place ∈ t.postOrder 0 none)
    (h : span.identity = SpanCall.identityAt place) : Records t span place := by
  obtain ⟨hlabel, hlt, hparent⟩ := mem_postOrder hplace
  simp only [TracingSpan.identity, SpanCall.identityAt, SpanIdentity.mk.injEq] at h
  obtain ⟨hname, hid, hpid, hentry, hexit, -⟩ := h
  refine ⟨hlabel, hname, ?_, ?_, ?_, ?_, ?_⟩
  · rw [hentry, decide_eq_true_iff]
  · rw [hexit]
    cases place.label.kind <;> simp
  · rw [hid, toInt_idOf (by omega)]
  · intro hnone
    rw [hpid, hnone]
    decide
  · intro q hq
    have hqlt := hparent q hq
    rw [hpid, hq]
    exact toInt_idOf (by omega)

/-- **A nested program is reported as its call tree**: run in a new scope, it hands the
context over once, with its nodes in post-order, each under its name and kind, with its
index in pre-order as the span id and the index of the node around it as the parent id. A
program that is run afterwards creates no span and reports nothing. -/
theorem nested_program_reported {config : Config} {traceDraw segmentDraw : IdDraw}
    {current : CurrentTracingContext}
    (hnew : CurrentTracingContext.new config traceDraw segmentDraw = .ok current)
    (t : OrderedTree SpanCall) (hmax : t.size ≤ 2 ^ 31) :
    ∃ spans context, exec b64 t (some current) = .ok (spans, [context], some ⟨none⟩)
      ∧ spans.length = t.size
      ∧ List.Forall₂ (Records t) context.finishedSpans (t.postOrder 0 none)
      ∧ ∀ t' : OrderedTree SpanCall,
        exec b64 t' (some ⟨none⟩) = .ok ([], [], some ⟨none⟩) := by
  obtain ⟨reported, spans, context, hexec, hstart, harchived, hwhole, hlength⟩ :=
    @exec_new b64 _ _ _ _ hnew t
  obtain rfl := hwhole (by omega)
  refine ⟨spans, context, hexec, hlength rfl, ?_, exec_dead.1⟩
  refine (forall₂_of_map_eq (f := TracingSpan.identity) (g := SpanCall.identityAt) ?_).imp
    fun span place h => records_of_identity hmax h.1 h.2
  rw [harchived, List.map_map]
  simp only [Function.comp_def, SpanCall.identity_archivedAt]

/-- An entry span with a local span, and an exit span below that one. -/
def demoTree : OrderedTree SpanCall :=
  .node ⟨.entry, "/orders", .http, ⟨0⟩, ⟨0⟩, ⟨0⟩⟩
    [.node ⟨.local, "price", .cache, ⟨0⟩, ⟨0⟩, ⟨0⟩⟩
      [.node ⟨.exit "10.0.0.2:80" false, "store", .rpc, ⟨0⟩, ⟨0⟩, ⟨0⟩⟩ []]]

theorem nested_program_reported_demo : ∃ spans context,
    exec .standard demoTree (some .demo) = .ok (spans, [context], some ⟨none⟩)
      ∧ List.Forall₂ (Records demoTree) context.finishedSpans (demoTree.postOrder 0 none) := by
  have hsize : demoTree.size = 3 := rfl
  obtain ⟨spans, context, hexec, -, hrecords, -⟩ := @nested_program_reported Base64.standard
    _ _ _ _ CurrentTracingContext.new_demo demoTree (by rw [hsize]; norm_num)
  exact ⟨spans, context, hexec, hrecords⟩

end Exec

end Skywalking
