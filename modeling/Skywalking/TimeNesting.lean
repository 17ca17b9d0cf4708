import Skywalking.Agent.Reporter
import Skywalking.EndTime
import Skywalking.Scope.Tree

/-!
The times of a nested program in the segment it is reported as.

A clock that never goes back is read when a span is created and when it is finished, so the
span of a node lies within the span of the node around it. The times are cast to the `i64`
fields of the segment, which keeps their order as long as they fit.

* `readings`: the clock readings of a nested program, in the order in which they are taken.
* `nested_of_forward`: what a clock that never goes back means for the nodes of a tree.
* `time_nests`: **the spans of a segment are nested in time**.
-/

namespace Skywalking

open RustStd Machine OrderedTree

namespace SpanCall

/-- The milliseconds of the first reading of a finish, as `end` stores them, are 0: the span
counts as not ended, and the clock is read once more. -/
def EndsAtZero (call : SpanCall) : Prop :=
  call.endNow.millisSinceEpoch.map UInt64.ofNat = some 0

instance (call : SpanCall) : Decidable call.EndsAtZero :=
  inferInstanceAs (Decidable (_ = some 0))

/-- The clock readings of the finish. -/
def finishReadings (call : SpanCall) : List SystemTime :=
  call.endNow :: if call.EndsAtZero then [call.endNow'] else []

/-- The clock reading that gives the end time. -/
def endReading (call : SpanCall) : SystemTime :=
  if call.EndsAtZero then call.endNow' else call.endNow

lemma endReading_mem (call : SpanCall) : call.endReading ∈ call.finishReadings := by
  rw [endReading, finishReadings]
  split_ifs
  · exact List.mem_cons_of_mem _ (List.mem_singleton_self _)
  · exact List.mem_cons_self

end SpanCall

mutual

/-- The clock readings of a nested program, in the order in which they are taken. -/
def readings : OrderedTree SpanCall → List SystemTime
  | .node call children => call.now :: (readingsAll children ++ call.finishReadings)

/-- The clock readings of some programs, one after the other. -/
def readingsAll : List (OrderedTree SpanCall) → List SystemTime
  | [] => []
  | t :: ts => readings t ++ readingsAll ts

end

/-- A clock that reads after the Unix epoch and never goes back. -/
structure ClockForward (readings : List SystemTime) : Prop where
  afterEpoch : ∀ now ∈ readings, 0 ≤ now.nanos
  forward : readings.Pairwise fun now later => now.nanos ≤ later.nanos

/-- The milliseconds since the epoch fit the `i64` fields of a segment. -/
def FitsInt64 (readings : List SystemTime) : Prop :=
  ∀ now ∈ readings, ∀ millis, now.millisSinceEpoch = some millis → millis < 2 ^ 63

/-! ### What a forward clock means for the nodes -/

/-- The second node lies within the first one in time. -/
def SpanCall.Within (outer inner : SpanCall) : Prop :=
  outer.now.nanos ≤ inner.now.nanos ∧ inner.endReading.nanos ≤ outer.endReading.nanos

/-- The readings of a node are readings of its program. -/
lemma mem_readings :
    (∀ t : OrderedTree SpanCall, ∀ call ∈ t.preOrder,
        call.now ∈ readings t ∧ call.finishReadings ⊆ readings t)
      ∧ ∀ ts : List (OrderedTree SpanCall), ∀ call ∈ preOrderAll ts,
        call.now ∈ readingsAll ts ∧ call.finishReadings ⊆ readingsAll ts := by
  refine OrderedTree.induction ?_ ?_ ?_
  · intro label children ih call hcall
    rw [preOrder] at hcall
    rw [readings]
    rcases List.mem_cons.mp hcall with rfl | hcall
    · exact ⟨List.mem_cons_self,
        List.subset_cons_of_subset _ (List.subset_append_right _ _)⟩
    · obtain ⟨hnow, hfinish⟩ := ih call hcall
      exact ⟨List.mem_cons_of_mem _ (List.mem_append_left _ hnow),
        List.subset_cons_of_subset _ (List.Subset.trans hfinish (List.subset_append_left _ _))⟩
  · intro call hcall
    rw [preOrderAll] at hcall
    exact absurd hcall List.not_mem_nil
  · intro t ts iht ihts call hcall
    rw [preOrderAll] at hcall
    rw [readingsAll]
    rcases List.mem_append.mp hcall with hcall | hcall
    · obtain ⟨hnow, hfinish⟩ := iht call hcall
      exact ⟨List.mem_append_left _ hnow,
        List.Subset.trans hfinish (List.subset_append_left _ _)⟩
    · obtain ⟨hnow, hfinish⟩ := ihts call hcall
      exact ⟨List.mem_append_right _ hnow,
        List.Subset.trans hfinish (List.subset_append_right _ _)⟩

/-- **Under a forward clock** every node lies within the nodes around it, and ends after it
was created. -/
theorem nested_of_forward :
    (∀ t : OrderedTree SpanCall,
        (readings t).Pairwise (fun now later => now.nanos ≤ later.nanos) →
        t.Nested SpanCall.Within ∧ ∀ call ∈ t.preOrder, call.now.nanos ≤ call.endReading.nanos)
      ∧ ∀ ts : List (OrderedTree SpanCall),
        (readingsAll ts).Pairwise (fun now later => now.nanos ≤ later.nanos) →
        NestedAll SpanCall.Within ts
          ∧ ∀ call ∈ preOrderAll ts, call.now.nanos ≤ call.endReading.nanos := by
  refine OrderedTree.induction ?_ ?_ ?_
  · intro label children ih hforward
    rw [readings, List.pairwise_cons, List.pairwise_append] at hforward
    obtain ⟨hnow, hchildren, -, hfinish⟩ := hforward
    obtain ⟨hnested, hends⟩ := ih hchildren
    refine ⟨⟨fun call hcall => ?_, hnested⟩, fun call hcall => ?_⟩
    · obtain ⟨hmem, hsub⟩ := mem_readings.2 children call hcall
      exact ⟨hnow call.now (List.mem_append_left _ hmem), hfinish call.endReading
        (hsub call.endReading_mem) label.endReading label.endReading_mem⟩
    · rw [preOrder] at hcall
      rcases List.mem_cons.mp hcall with rfl | hcall
      · exact hnow call.endReading (List.mem_append_right _ call.endReading_mem)
      · exact hends call hcall
  · intro _
    rw [NestedAll, preOrderAll]
    exact ⟨trivial, fun call hcall => absurd hcall List.not_mem_nil⟩
  · intro t ts iht ihts hforward
    rw [readingsAll, List.pairwise_append] at hforward
    obtain ⟨ht, hts, -⟩ := hforward
    obtain ⟨hnested, hends⟩ := iht ht
    obtain ⟨hnested', hends'⟩ := ihts hts
    refine ⟨⟨hnested, hnested'⟩, fun call hcall => ?_⟩
    rw [preOrderAll] at hcall
    rcases List.mem_append.mp hcall with hcall | hcall
    · exact hends call hcall
    · exact hends' call hcall

/-! ### The times of a span object -/

/-- The span object of a node. -/
def SpanCall.objectAt (b64 : Base64) (place : Place SpanCall) : SpanObject :=
  Reporter.spanObject b64 (SpanCall.archivedAt place)

/-- The milliseconds of a clock reading after the epoch. -/
lemma millisSinceEpoch_of_nonneg {now : SystemTime} (h : 0 ≤ now.nanos) :
    now.millisSinceEpoch = some (now.nanos.toNat / 1000000) := by
  rw [SystemTime.millisSinceEpoch, if_pos h]

/-- A reading that fits is stored as its milliseconds. -/
lemma toInt_stamp {now : SystemTime} (h : 0 ≤ now.nanos)
    (hfits : ∀ millis, now.millisSinceEpoch = some millis → millis < 2 ^ 63)
    (span : TracingSpan) : (span.stamp now).toInt64.toInt = now.nanos / 1000000 := by
  have hlt := hfits _ (millisSinceEpoch_of_nonneg h)
  rw [TracingSpan.stamp, millisSinceEpoch_of_nonneg h]
  calc (UInt64.ofNat (now.nanos.toNat / 1000000)).toInt64.toInt
      = (Int64.ofNat (now.nanos.toNat / 1000000)).toInt := rfl
    _ = ((now.nanos.toNat / 1000000 : ℕ) : ℤ) := Int64.toInt_ofNat_of_lt hlt
    _ = now.nanos / 1000000 := by omega

/-- What decides whether a finish reads the clock once more. -/
lemma stamp_eq_zero_iff {call : SpanCall} (h : 0 ≤ call.endNow.nanos) (span : TracingSpan) :
    span.stamp call.endNow = 0 ↔ call.EndsAtZero := by
  rw [TracingSpan.stamp, SpanCall.EndsAtZero, millisSinceEpoch_of_nonneg h]
  simp

/-- The start time of an archived span is the one stored at its creation. -/
lemma startTime_archivedAt (place : Place SpanCall) :
    ∃ span, (SpanCall.archivedAt place).startTime = TracingSpan.stamp span place.label.now := by
  have hstart : (SpanCall.archivedAt place).startTime = (SpanCall.spanAt place).startTime := by
    rw [SpanCall.archivedAt, TracingSpan.archived]
    split_ifs <;> rfl
  obtain ⟨index, parent, kind, operationName, layer, now, endNow, endNow'⟩ := place
  cases kind with
  | entry => exact ⟨_, hstart⟩
  | «local» => exact ⟨_, hstart⟩
  | exit peer injector => exact ⟨_, hstart⟩

/-- The end time of an archived span is the reading that counts. -/
lemma endTime_archivedAt {place : Place SpanCall} (h : 0 ≤ place.label.endNow.nanos) :
    (SpanCall.archivedAt place).endTime
      = (SpanCall.spanAt place).stamp place.label.endReading := by
  rw [SpanCall.archivedAt, TracingSpan.endTime_archived, SpanCall.endReading]
  by_cases hzero : place.label.EndsAtZero
  · rw [if_pos ((stamp_eq_zero_iff h _).mpr hzero), if_pos hzero]
  · rw [if_neg (fun h0 => hzero ((stamp_eq_zero_iff h _).mp h0)), if_neg hzero]

section Times

variable {b64 : Base64} {t : OrderedTree SpanCall} {place inner : Place SpanCall}

/-- The times in the span object of a node. -/
lemma times_objectAt (b64 : Base64) (hclock : ClockForward (readings t))
    (hfits : FitsInt64 (readings t)) (hplace : place.label ∈ t.preOrder) :
    (SpanCall.objectAt b64 place).startTime.toInt = place.label.now.nanos / 1000000
      ∧ (SpanCall.objectAt b64 place).endTime.toInt
        = place.label.endReading.nanos / 1000000 := by
  obtain ⟨hnow, hsub⟩ := mem_readings.1 t place.label hplace
  have hend := hsub place.label.endReading_mem
  have hfirst := hclock.afterEpoch _ (hsub List.mem_cons_self)
  obtain ⟨span, hspan⟩ := startTime_archivedAt place
  constructor
  · calc (SpanCall.objectAt b64 place).startTime.toInt
        = (SpanCall.archivedAt place).startTime.toInt64.toInt := rfl
      _ = (span.stamp place.label.now).toInt64.toInt := by rw [hspan]
      _ = place.label.now.nanos / 1000000 :=
        toInt_stamp (hclock.afterEpoch _ hnow) (hfits _ hnow) span
  · calc (SpanCall.objectAt b64 place).endTime.toInt
        = (SpanCall.archivedAt place).endTime.toInt64.toInt := rfl
      _ = ((SpanCall.spanAt place).stamp place.label.endReading).toInt64.toInt := by
        rw [endTime_archivedAt hfirst]
      _ = place.label.endReading.nanos / 1000000 :=
        toInt_stamp (hclock.afterEpoch _ hend) (hfits _ hend) _

/-- A node ends after it was created. -/
lemma startTime_le_endTime (hclock : ClockForward (readings t))
    (hfits : FitsInt64 (readings t)) (hplace : place.label ∈ t.preOrder) :
    (SpanCall.objectAt b64 place).startTime ≤ (SpanCall.objectAt b64 place).endTime := by
  obtain ⟨hstart, hend⟩ := times_objectAt b64 hclock hfits hplace
  have hle := (nested_of_forward.1 t hclock.forward).2 place.label hplace
  rw [Int64.le_iff_toInt_le, hstart, hend]
  exact Int.ediv_le_ediv (by norm_num) hle

/-- A node lies within the one around it. -/
lemma objectAt_within (hclock : ClockForward (readings t)) (hfits : FitsInt64 (readings t))
    (hplace : place ∈ t.postOrder 0 none) (hinner : inner ∈ t.postOrder 0 none)
    (hparent : inner.parent = some place.index) :
    (SpanCall.objectAt b64 place).startTime ≤ (SpanCall.objectAt b64 inner).startTime
      ∧ (SpanCall.objectAt b64 inner).endTime ≤ (SpanCall.objectAt b64 place).endTime := by
  have hwithin : place.label.Within inner.label :=
    rel_of_mem_postOrder.1 t 0 none (nested_of_forward.1 t hclock.forward).1 (by simp)
      place hplace inner hinner hparent
  have hlabel := List.mem_of_getElem? (mem_postOrder hplace).1
  have hlabel' := List.mem_of_getElem? (mem_postOrder hinner).1
  obtain ⟨hstart, hend⟩ := times_objectAt b64 hclock hfits hlabel
  obtain ⟨hstart', hend'⟩ := times_objectAt b64 hclock hfits hlabel'
  rw [Int64.le_iff_toInt_le, Int64.le_iff_toInt_le, hstart, hend, hstart', hend']
  exact ⟨Int.ediv_le_ediv (by norm_num) hwithin.1, Int.ediv_le_ediv (by norm_num) hwithin.2⟩

/-- In a tree of fewer than `2^32` nodes a parent id is the id of the node around. -/
lemma parent_of_parentSpanId (hmax : t.size < 2 ^ 32) (hplace : place ∈ t.postOrder 0 none)
    (hinner : inner ∈ t.postOrder 0 none)
    (hid : (SpanCall.objectAt b64 inner).parentSpanId = (SpanCall.objectAt b64 place).spanId) :
    inner.parent = some place.index := by
  obtain ⟨-, hlt, -⟩ := mem_postOrder hplace
  obtain ⟨-, hlt', hparent⟩ := mem_postOrder hinner
  have hspanId : (SpanCall.objectAt b64 place).spanId = idOf place.index :=
    congrArg SpanIdentity.spanId (SpanCall.identity_archivedAt place)
  have hparentId : (SpanCall.objectAt b64 inner).parentSpanId = parentIdOf inner.parent :=
    congrArg SpanIdentity.parentSpanId (SpanCall.identity_archivedAt inner)
  rw [hspanId, hparentId] at hid
  cases hinner' : inner.parent with
  | none =>
      -- the id `-1` of no node is the one of the index `2^32 - 1`
      have hneg : parentIdOf none = idOf (2 ^ 32 - 1) := by decide
      rw [hinner', hneg, idOf_eq_iff] at hid
      omega
  | some m =>
      have hm := hparent m hinner'
      have hmid : idOf m = idOf place.index := by
        rw [hinner'] at hid
        exact hid
      rw [idOf_eq_iff] at hmid
      rw [show m = place.index by omega]

end Times

/-- **The spans of a segment are nested in time**: a nested program, run in a new scope under
a clock that reads after the epoch, never goes back and stays in the range of the fields,
hands one context over. In the segment of that context every span starts before it ends, and
lies within the span of the node around it, if that one is reported too. Up to `2^32` nodes
every node is reported; below, the parent id alone tells which node is around which. -/
theorem time_nests {b64 : Base64} {config : Config} {traceDraw segmentDraw : IdDraw}
    {current : CurrentTracingContext}
    (hnew : CurrentTracingContext.new config traceDraw segmentDraw = .ok current)
    (t : OrderedTree SpanCall) (hclock : ClockForward (readings t))
    (hfits : FitsInt64 (readings t)) :
    ∃ spans context reported, exec b64 t (some current) = .ok (spans, [context], some ⟨none⟩)
      ∧ (Reporter.genSegment b64 context config).spans = reported.map (SpanCall.objectAt b64)
      ∧ reported <+: t.postOrder 0 none
      ∧ (t.size ≤ 2 ^ 32 → reported = t.postOrder 0 none)
      ∧ (∀ object ∈ (Reporter.genSegment b64 context config).spans,
          object.startTime ≤ object.endTime)
      ∧ (∀ place ∈ reported, ∀ inner ∈ reported, inner.parent = some place.index →
          (SpanCall.objectAt b64 place).startTime ≤ (SpanCall.objectAt b64 inner).startTime
          ∧ (SpanCall.objectAt b64 inner).endTime ≤ (SpanCall.objectAt b64 place).endTime)
      ∧ (t.size < 2 ^ 32 → ∀ object ∈ (Reporter.genSegment b64 context config).spans,
          ∀ inner ∈ (Reporter.genSegment b64 context config).spans,
          inner.parentSpanId = object.spanId →
          object.startTime ≤ inner.startTime ∧ inner.endTime ≤ object.endTime) := by
  obtain ⟨reported, spans, context, hexec, hstart, harchived, hwhole, -⟩ :=
    @exec_new b64 _ _ _ _ hnew t
  have hspans : (Reporter.genSegment b64 context config).spans
      = reported.map (SpanCall.objectAt b64) := by
    rw [Reporter.genSegment, harchived, List.map_map]
    rfl
  refine ⟨spans, context, reported, hexec, hspans, hstart, hwhole, ?_, ?_, ?_⟩
  · intro object hobject
    rw [hspans] at hobject
    obtain ⟨place, hplace, rfl⟩ := List.mem_map.mp hobject
    exact startTime_le_endTime hclock hfits
      (List.mem_of_getElem? (mem_postOrder (hstart.subset hplace)).1)
  · intro place hplace inner hinner hparent
    exact objectAt_within hclock hfits (hstart.subset hplace) (hstart.subset hinner) hparent
  · intro hmax object hobject inner hinner hid
    rw [hspans] at hobject hinner
    obtain ⟨place, hplace, rfl⟩ := List.mem_map.mp hobject
    obtain ⟨place', hplace', rfl⟩ := List.mem_map.mp hinner
    exact objectAt_within hclock hfits (hstart.subset hplace) (hstart.subset hplace')
      (parent_of_parentSpanId hmax (hstart.subset hplace) (hstart.subset hplace') hid)

/-- A request that is answered in eight seconds: an entry span around a local span, and
around another one with an exit span in it. -/
def clockTree : OrderedTree SpanCall :=
  .node ⟨.entry, "/orders", .http, ⟨1 * 10 ^ 9⟩, ⟨8 * 10 ^ 9⟩, ⟨8 * 10 ^ 9⟩⟩
    [.node ⟨.local, "price", .cache, ⟨2 * 10 ^ 9⟩, ⟨3 * 10 ^ 9⟩, ⟨3 * 10 ^ 9⟩⟩ [],
      .node ⟨.local, "order", .rpc, ⟨4 * 10 ^ 9⟩, ⟨7 * 10 ^ 9⟩, ⟨7 * 10 ^ 9⟩⟩
        [.node ⟨.exit "10.0.0.2:80" true, "store", .rpc, ⟨5 * 10 ^ 9⟩, ⟨6 * 10 ^ 9⟩,
          ⟨6 * 10 ^ 9⟩⟩ []]]

/-- Its spans, in the order in which they are finished, each with its id, the id of its
parent and its times; and how they lie within each other. -/
theorem time_nests_demo : ∃ (spans : List TracingSpan) (context : TracingContext)
    (objects : List SpanObject),
    exec .standard clockTree (some .demo) = .ok (spans, [context], some ⟨none⟩)
      ∧ (Reporter.genSegment .standard context Config.demo).spans = objects
      ∧ objects.map (fun object => (object.spanId.toInt, object.parentSpanId.toInt))
        = [(1, 0), (3, 2), (2, 0), (0, -1)]
      ∧ objects.map (fun object => (object.startTime.toInt, object.endTime.toInt))
        = [(2000, 3000), (5000, 6000), (4000, 7000), (1000, 8000)]
      ∧ (∀ object ∈ objects, object.startTime ≤ object.endTime)
      ∧ ∀ object ∈ objects, ∀ inner ∈ objects, inner.parentSpanId = object.spanId →
          object.startTime ≤ inner.startTime ∧ inner.endTime ≤ object.endTime := by
  have hreadings : readings clockTree = [1, 2, 3, 4, 5, 6, 7, 8].map fun s => ⟨s * 10 ^ 9⟩ := rfl
  have hclock : ClockForward (readings clockTree) := by
    rw [hreadings]
    exact ⟨by decide, by decide⟩
  have hfits : FitsInt64 (readings clockTree) := by
    rw [hreadings]
    intro now hnow millis hmillis
    fin_cases hnow <;> (obtain rfl := Option.some.inj hmillis; decide)
  obtain ⟨spans, context, reported, hexec, hspans, -, hwhole, hends, -, hnested⟩ :=
    @time_nests Base64.standard _ _ _ _ CurrentTracingContext.new_demo clockTree hclock hfits
  have hsize : clockTree.size = 4 := rfl
  rw [hwhole (by rw [hsize]; norm_num)] at hspans
  refine ⟨spans, context, _, hexec, rfl, ?_, ?_, hends, hnested (by rw [hsize]; norm_num)⟩
  · rw [hspans]
    decide
  · rw [hspans]
    decide

/-- A span that is created in the last millisecond of the range of the fields and finished
one millisecond later. -/
def lateTree : OrderedTree SpanCall :=
  .node ⟨.local, "load", .rpc, ⟨(2 ^ 63 - 1) * 10 ^ 6⟩, ⟨2 ^ 63 * 10 ^ 6⟩, ⟨2 ^ 63 * 10 ^ 6⟩⟩ []

/-- The clock goes forward, but in the segment the span ends before it starts. -/
theorem time_not_nested : ClockForward (readings lateTree) ∧ ∃ spans context,
    exec .standard lateTree (some .demo) = .ok (spans, [context], some ⟨none⟩)
      ∧ ∃ object ∈ (Reporter.genSegment .standard context Config.demo).spans,
          ¬ object.startTime ≤ object.endTime := by
  refine ⟨⟨by decide, by decide⟩, _, _, rfl, _, List.mem_singleton_self _, by decide⟩

end Skywalking
