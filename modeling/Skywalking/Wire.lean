import Skywalking.Isolation
import Skywalking.Outage
import Skywalking.Scope.Propagation
import Skywalking.Segment

/-!
What goes over the wire: the segments in the calls of `collect` and in the backups in the log.

* `SegmentObject.WellFormed`, `wellFormed_of_reported`: a segment of a reported context is a tree
  of spans that ends with its root.
* `sent_wellFormed`: **all that a process sends is well formed**, and comes from a scope of it.
* `settled_once`: **no segment is settled twice**, that is acknowledged or backed up.
* `sent_bounded`: **no segment is sent more than `RETRY_NUM` times**.
-/

namespace Skywalking

open RustStd Machine
open scoped List

/-! ### Well-formed segments -/

/-- A segment as a backend needs it: its spans have distinct ids, the last one is the root, which
alone has no parent, and the parent of any other span has a smaller id. -/
structure SegmentObject.WellFormed (segment : SegmentObject) : Prop where
  ids : (segment.spans.map SpanObject.spanId).Nodup
  last : segment.spans.getLast?.map SpanObject.spanId = some 0
  root : ∀ object ∈ segment.spans, object.parentSpanId = -1 ↔ object.spanId = 0
  parent : ∀ object ∈ segment.spans, object.spanId ≠ 0 →
    0 ≤ object.parentSpanId.toInt ∧ object.parentSpanId.toInt < object.spanId.toInt

/-- The archived spans have the ids of their handles. -/
lemma Archived.map_spanId {issued archived : List TracingSpan} {ks : List ℕ}
    (h : Archived issued archived ks)
    (hids : ∀ (k : ℕ) (span : TracingSpan), issued[k]? = some span → span.spanId = idOf k) :
    archived.map TracingSpan.spanId = ks.map idOf := by
  induction h with
  | nil => rfl
  | @cons span k archived ks hk _ ih =>
      obtain ⟨first, hfirst, hidentity⟩ := Option.map_eq_some_iff.mp hk
      have hid : first.spanId = span.spanId := congrArg SpanIdentity.spanId hidentity
      rw [List.map_cons, List.map_cons, ih, ← hid, hids k first hfirst]

section Scope

variable {b64 : Base64} {config : Config} {traceDraw segmentDraw : IdDraw}
  {current : CurrentTracingContext} {s : Scope} {ops : List Op}

/-- **A reported segment is well formed**, whatever calls were made in its scope. -/
theorem wellFormed_of_reported
    (hnew : CurrentTracingContext.new config traceDraw segmentDraw = .ok current)
    (hrun : run (Scope.step b64) (Scope.enter current) ops = some s)
    (hmax : s.issued.length ≤ 2 ^ 31) {context : TracingContext} (hcontext : context ∈ s.reported)
    (workerConfig : Config) : (Reporter.genSegment b64 context workerConfig).WellFormed := by
  obtain ⟨l, hevents, hsim, hw⟩ := sim_of_run hnew hrun
  have hrooted := hsim.rooted hevents hmax
  have htree := hsim.spanTree hrooted hmax
  have hlt : ∀ k ∈ l.finished, k < 2 ^ 31 := fun k hk =>
    lt_of_lt_of_le (hw.finished_lt k hk) (hsim.issued_length ▸ hmax)
  obtain ⟨hlive, harchived⟩ : l.live = false
      ∧ Archived s.issued context.finishedSpans l.finished := by
    cases hsim.context with
    | live ctx isLive stack seq archived reported =>
        rw [reported] at hcontext
        exact absurd hcontext List.not_mem_nil
    | closed ctx isLive reported archived =>
        rw [reported] at hcontext
        rw [List.mem_singleton.mp hcontext]
        exact ⟨isLive, archived⟩
  have hids : (Reporter.genSegment b64 context workerConfig).spans.map SpanObject.spanId
      = l.finished.map idOf := by
    rw [Reporter.genSegment, List.map_map]
    exact harchived.map_spanId fun k span hk => hsim.issued_spanId hk
  -- every object is that of a span that was issued under some handle
  have hissued : ∀ object ∈ (Reporter.genSegment b64 context workerConfig).spans, ∃ k ∈ l.finished,
      ∃ span, s.issued[k]? = some span ∧ object.spanId = span.spanId
        ∧ object.parentSpanId = span.parentSpanId := by
    intro object hobject
    obtain ⟨span, hspan, rfl⟩ := List.mem_map.mp hobject
    obtain ⟨i, hi, rfl⟩ := List.mem_iff_getElem.mp hspan
    have hi' : i < l.finished.length := harchived.length_eq ▸ hi
    have hk := harchived.get hi hi'
    simp only [List.get_eq_getElem] at hk
    obtain ⟨first, hfirst, hidentity⟩ := Option.map_eq_some_iff.mp hk
    exact ⟨l.finished[i], List.getElem_mem hi', first, hfirst,
      congrArg SpanIdentity.spanId hidentity.symm,
      congrArg SpanIdentity.parentSpanId hidentity.symm⟩
  refine ⟨?_, ?_, ?_, ?_⟩
  · rw [hids]
    exact hw.finished_nodup.map_on fun j hj k hk h => idOf_inj (hlt j hj) (hlt k hk) h
  · rw [← List.getLast?_map, hids, List.getLast?_map, hrooted.last_of_closed hlive]
    rfl
  · intro object hobject
    obtain ⟨k, hk, span, hspan, hid, hparent⟩ := hissued object hobject
    rw [hid, hparent, htree.root k span hspan, hsim.issued_spanId hspan]
    exact (isFirst_iff (hlt k hk)).symm
  · intro object hobject h0
    obtain ⟨k, hk, span, hspan, hid, hparent⟩ := hissued object hobject
    have hk0 : k ≠ 0 := by
      rintro rfl
      exact h0 (hid.trans (hsim.issued_spanId hspan))
    obtain ⟨j, hj, hjparent⟩ := htree.parent k span hspan hk0
    rw [hid, hparent, hjparent, htree.spanId k span hspan]
    omega

end Scope

/-! ### The segments of the effects -/

/-- The segments that an effect shows to the outside. -/
def Effect.segments : Effect → List SegmentObject
  | .collect segments _ => segments
  | .log (.segmentsBackup segments) => segments
  | .log _ => []

/-- The segments that are done with after an effect: acknowledged, or backed up in the log. -/
def Effect.settled : Effect → List SegmentObject
  | .collect segments none => segments
  | .collect _ (some _) => []
  | .log (.segmentsBackup segments) => segments
  | .log _ => []

section Books

variable {b64 : Base64} {config : Config} {w : Worker} {ds : List Disposal} {batch : Batch}
  {pending : List Effect}

lemma segments_attempts {failures : List Code} {effect : Effect}
    (h : effect ∈ attempts b64 config batch failures) :
    effect.segments = batch.segments b64 config := by
  obtain ⟨code, -, rfl⟩ := List.mem_map.mp h
  rfl

lemma settled_attempts (failures : List Code) :
    (attempts b64 config batch failures).flatMap Effect.settled = [] := by
  rw [List.flatMap_eq_nil_iff]
  intro effect h
  obtain ⟨code, -, rfl⟩ := List.mem_map.mp h
  rfl

/-- All that is shown for a batch are its segments. -/
lemma Disposal.segments_eq (d : Disposal) {effect : Effect} (h : effect ∈ d.effects b64 config) :
    effect.segments = d.batch.segments b64 config := by
  cases d with
  | acknowledged batch failures few =>
      rcases List.mem_append.mp h with h | h
      · exact segments_attempts h
      · rw [List.mem_singleton.mp h]
        rfl
  | backedUp batch failures all =>
      rcases List.mem_append.mp h with h | h
      · exact segments_attempts h
      · rw [List.mem_singleton.mp h]
        rfl

/-- The disposal of a batch settles its segments once. -/
lemma Disposal.settled_eq (d : Disposal) :
    (d.effects b64 config).flatMap Effect.settled
      = d.batch.segments b64 config := by
  cases d with
  | acknowledged batch failures few =>
      rw [effects, List.flatMap_append, settled_attempts, List.nil_append]
      exact List.append_nil _
  | backedUp batch failures all =>
      rw [effects, List.flatMap_append, settled_attempts, List.nil_append]
      exact List.append_nil _

lemma Pending.segments_eq {phase : Phase} {vec : Batch}
    (h : Pending b64 config phase vec batch pending) {effect : Effect}
    (heffect : effect ∈ pending) :
    effect.segments = batch.segments b64 config := by
  cases h with
  | idle idle => exact absurd heffect List.not_mem_nil
  | succeeded hi hlength =>
      rcases List.mem_append.mp heffect with h | h
      · exact segments_attempts h
      · rw [List.mem_singleton.mp h]
        rfl
  | flushed => exact absurd heffect List.not_mem_nil
  | _ => exact segments_attempts heffect

/-- While a batch is being sent, its segments have been settled once or not yet. -/
lemma Pending.settled_sublist {phase : Phase} {vec : Batch}
    (h : Pending b64 config phase vec batch pending) :
    (pending.flatMap Effect.settled).Sublist (batch.segments b64 config) := by
  cases h with
  | idle idle => exact List.nil_sublist _
  | succeeded hi hlength =>
      rw [List.flatMap_append, settled_attempts, List.nil_append, List.flatMap_singleton]
      exact List.Sublist.refl _
  | flushed => exact List.nil_sublist _
  | _ =>
      rw [settled_attempts]
      exact List.nil_sublist _

/-- Every segment that a worker has shown is that of a context it has accepted. -/
theorem Books.exists_accepted (h : Books b64 config w ds batch pending) {effect : Effect}
    (heffect : effect ∈ w.effects) {segment : SegmentObject}
    (hsegment : segment ∈ effect.segments) :
    ∃ context ∈ w.accepted, segment = Reporter.genSegment b64 context config := by
  rw [h.effects_eq] at heffect
  rcases List.mem_append.mp heffect with hdisposed | hpending
  · obtain ⟨d, hd, hmem⟩ := List.mem_flatMap.mp hdisposed
    rw [d.segments_eq hmem] at hsegment
    obtain ⟨context, hcontext, rfl⟩ := List.mem_map.mp hsegment
    refine ⟨context, ?_, rfl⟩
    rw [h.accepted_eq]
    exact List.mem_append_left _ (List.mem_append_left _ (List.mem_flatMap.mpr ⟨d, hd, hcontext⟩))
  · rw [h.sending.segments_eq hpending] at hsegment
    obtain ⟨context, hcontext, rfl⟩ := List.mem_map.mp hsegment
    refine ⟨context, ?_, rfl⟩
    rw [h.accepted_eq]
    exact List.mem_append_left _ (List.mem_append_right _ hcontext)

/-- What a worker has settled are segments of contexts it has accepted, in their order. -/
theorem Books.settled_sublist (h : Books b64 config w ds batch pending) :
    (w.effects.flatMap Effect.settled).Sublist
      (w.accepted.map fun context => Reporter.genSegment b64 context config) := by
  have hdisposed : (ds.flatMap (Disposal.effects b64 config)).flatMap Effect.settled
      = (ds.flatMap fun d => d.batch.contexts).map
          fun context => Reporter.genSegment b64 context config := by
    rw [List.flatMap_assoc, List.map_flatMap]
    refine List.flatMap_congr fun d _ => ?_
    exact d.settled_eq
  rw [h.effects_eq, h.accepted_eq, List.flatMap_append, hdisposed, List.map_append,
    List.map_append]
  refine List.Sublist.trans ?_ (List.sublist_append_left _ _)
  exact (List.Sublist.refl _).append h.sending.settled_sublist

/-! ### How often a segment is sent -/

/-- The effect is a call of `collect` with the segment in it. -/
def Effect.Sends (segmentId : String) : Effect → Prop
  | .collect segments _ => segmentId ∈ segments.map SegmentObject.traceSegmentId
  | .log _ => False

instance (segmentId : String) : DecidablePred (Effect.Sends segmentId)
  | .collect segments _ =>
      inferInstanceAs (Decidable (segmentId ∈ segments.map SegmentObject.traceSegmentId))
  | .log _ => inferInstanceAs (Decidable False)

/-- The segment ids of a batch. -/
def Batch.segmentIds (batch : Batch) : List String :=
  batch.contexts.map fun context => context.segmentId.toString

/-- What is counted in lists with distinct keys is counted in one of them at most, if it goes with
a key. -/
lemma countP_flatMap_le {α β γ : Type*} {p : β → Bool} {f : α → List β} {g : α → List γ}
    {key : γ} {n : ℕ} (hle : ∀ a, (f a).countP p ≤ n)
    (hzero : ∀ a, key ∉ g a → (f a).countP p = 0) {l : List α} (hnodup : (l.flatMap g).Nodup) :
    (l.flatMap f).countP p ≤ n ∧ (key ∉ l.flatMap g → (l.flatMap f).countP p = 0) := by
  induction l with
  | nil => exact ⟨Nat.zero_le n, fun _ => rfl⟩
  | cons a l ih =>
      rw [List.flatMap_cons, List.nodup_append] at hnodup
      obtain ⟨-, hrest, hdisjoint⟩ := hnodup
      obtain ⟨hle', hzero'⟩ := ih hrest
      rw [List.flatMap_cons, List.flatMap_cons, List.countP_append]
      constructor
      · by_cases hkey : key ∈ g a
        · rw [hzero' fun hmem => hdisjoint key hkey key hmem rfl]
          exact hle a
        · rw [hzero a hkey, Nat.zero_add]
          exact hle'
      · intro hnone
        rw [List.mem_append, not_or] at hnone
        rw [hzero a hnone.1, hzero' hnone.2]

/-- What shows the segments of a batch sends no others. -/
lemma Effect.Sends.mem {effect : Effect} {segmentId : String} (h : effect.Sends segmentId)
    (heq : effect.segments = batch.segments b64 config) :
    segmentId ∈ batch.segmentIds := by
  cases effect with
  | log record => cases h
  | collect segments error =>
      obtain rfl : segments = _ := heq
      rw [Sends, Batch.segments, List.map_map] at h
      exact h

lemma Disposal.countP_sends_le (d : Disposal) (segmentId : String) :
    (d.effects b64 config).countP (Effect.Sends segmentId) ≤ Worker.retryNum := by
  cases d with
  | acknowledged batch failures few =>
      calc (attempts b64 config batch failures
            ++ [Effect.collect (batch.segments b64 config) none]).countP
              (Effect.Sends segmentId)
          ≤ (attempts b64 config batch failures
            ++ [Effect.collect (batch.segments b64 config) none]).length :=
            List.countP_le_length
        _ = failures.length + 1 := by simp [attempts]
        _ ≤ Worker.retryNum := few
  | backedUp batch failures all =>
      have hlog : ¬ Effect.Sends segmentId
          (.log (.segmentsBackup (batch.segments b64 config))) := fun h => h
      rw [effects, List.countP_append, List.countP_singleton,
        if_neg fun h => hlog (of_decide_eq_true h), Nat.add_zero]
      calc (attempts b64 config batch failures).countP (Effect.Sends segmentId)
          ≤ (attempts b64 config batch failures).length := List.countP_le_length
        _ = Worker.retryNum := by rw [attempts, List.length_map, all, Worker.retryNum]

lemma Pending.length_le {phase : Phase} {vec : Batch}
    (h : Pending b64 config phase vec batch pending) : pending.length ≤ Worker.retryNum := by
  cases h with
  | idle idle => exact Nat.zero_le _
  | flushed => exact Nat.zero_le _
  | collecting hi hlength => rw [attempts, List.length_map, hlength]; exact hi.le
  | succeeded hi hlength =>
      rw [List.length_append, attempts, List.length_map, hlength]
      exact hi
  | pausing hi hlength => rw [attempts, List.length_map, hlength]; exact hi.le
  | _ hi hlength => rw [attempts, List.length_map, hlength]; exact hi

/-- A worker that has accepted no segment id twice sends none more than `RETRY_NUM` times. -/
theorem Books.sends_le (h : Books b64 config w ds batch pending)
    (hnodup : (w.accepted.map fun context => context.segmentId.toString).Nodup)
    (segmentId : String) :
    w.effects.countP (Effect.Sends segmentId) ≤ Worker.retryNum := by
  rw [h.accepted_eq, List.map_append, List.map_append, List.map_flatMap] at hnodup
  obtain ⟨hdisposed, -, hdisjoint⟩ := List.nodup_append.mp (List.nodup_append.mp hnodup).1
  obtain ⟨hle, hzero⟩ := countP_flatMap_le (p := Effect.Sends segmentId)
    (f := Disposal.effects b64 config) (g := fun d => d.batch.segmentIds)
    (fun d => d.countP_sends_le segmentId)
    (fun d hkey => List.countP_eq_zero.mpr fun effect heffect hsends =>
      hkey ((of_decide_eq_true hsends).mem (d.segments_eq heffect))) hdisposed
  rw [h.effects_eq, List.countP_append]
  by_cases hkey : segmentId ∈ batch.segmentIds
  · rw [hzero fun hmem => hdisjoint segmentId hmem segmentId hkey rfl, Nat.zero_add]
    exact List.countP_le_length.trans h.sending.length_le
  · have hnone : pending.countP (Effect.Sends segmentId) = 0 :=
      List.countP_eq_zero.mpr fun effect heffect hsends =>
        hkey ((of_decide_eq_true hsends).mem (h.sending.segments_eq heffect))
    rw [hnone]
    exact hle

end Books

/-! ### The wire of a process -/

namespace Process

variable {b64 : Base64} {reporter : Reporter} {clock : Instant} {es : List ProcessEvent}
  {p : Process}

/-- **All that a process sends is well formed**: in every run in which no span is moved from one
scope to another and no scope has more than `2^31` spans, every segment in a call of `collect` or
in a backup is that of a context which a scope has reported, and it is well formed. -/
theorem sent_wellFormed (hempty : reporter.channel.queue = [])
    (hrun : run (Process.step b64 reporter) (start reporter clock) es = some p)
    (hunmoved : ∀ e ∈ es, ∀ i, ¬ e.Meddles i) (hmax : ∀ s ∈ p.scopes, s.issued.length ≤ 2 ^ 31)
    {effect : Effect} (heffect : effect ∈ p.worker.effects) {segment : SegmentObject}
    (hsegment : segment ∈ effect.segments) :
    segment.WellFormed ∧ ∃ s ∈ p.scopes, ∃ context ∈ s.reported,
      segment = Reporter.genSegment b64 context reporter.workerConfig := by
  obtain ⟨es₁, p₁, hes, hrun₁, heffects, hpart⟩ := exists_before_drop hrun
  obtain ⟨ds, batch, pending, hbooks⟩ := accounts_of_run hempty hrun₁ hes
  rw [heffects] at heffect
  obtain ⟨context, hcontext, rfl⟩ := hbooks.exists_accepted heffect hsegment
  -- the context was handed over by a scope
  have hreported₁ : context ∈ p₁.scopes.flatMap Scope.reported :=
    (reported_perm hempty hrun₁ hes).mem_iff.mpr (List.mem_append_left _ hcontext)
  have hhanded : context ∈ p.handOvers.map HandOver.context :=
    (hpart.map _).subset ((sound_of_run hrun₁).contexts.mem_iff.mpr hreported₁)
  obtain ⟨s, hs, hreported⟩ :=
    List.mem_flatMap.mp ((sound_of_run hrun).contexts.mem_iff.mp hhanded)
  obtain ⟨i, hi⟩ := List.mem_iff_getElem?.mp hs
  obtain ⟨draw, current, -, hnew, hscope⟩ := scope_of_run hrun hi fun e he => hunmoved e he i
  exact ⟨wellFormed_of_reported hnew hscope (hmax s hs) hreported _, s, hs, context, hreported,
    rfl⟩

/-- The segment ids that a worker has accepted before the receiver was dropped are distinct if those
reported are. -/
lemma exists_accepted_nodup (hempty : reporter.channel.queue = [])
    (hrun : run (Process.step b64 reporter) (start reporter clock) es = some p)
    (hdistinct : ((p.scopes.flatMap Scope.reported).map
      fun context => context.segmentId.toString).Nodup) :
    ∃ w ds batch pending, Books b64 reporter.workerConfig w ds batch pending
      ∧ p.worker.effects = w.effects
      ∧ (w.accepted.map fun context => context.segmentId.toString).Nodup := by
  obtain ⟨es₁, p₁, hes, hrun₁, heffects, hpart⟩ := exists_before_drop hrun
  obtain ⟨ds, batch, pending, hbooks⟩ := accounts_of_run hempty hrun₁ hes
  refine ⟨p₁.worker, ds, batch, pending, hbooks, heffects, ?_⟩
  have hhanded : ((p₁.handOvers.map HandOver.context).map
      fun context => context.segmentId.toString).Nodup :=
    ((hpart.sublist.map _).map _).nodup
      (((sound_of_run hrun).contexts.map _).nodup_iff.mpr hdistinct)
  have haccepted : ((p₁.worker.accepted ++ p₁.refusals).map
      fun context => context.segmentId.toString).Nodup :=
    (((sound_of_run hrun₁).contexts.trans (reported_perm hempty hrun₁ hes)).map _).nodup_iff.mp
      hhanded
  rw [List.map_append] at haccepted
  exact (List.nodup_append.mp haccepted).1

/-- **No segment is settled twice**: in every run of a process in which the reported contexts have
distinct segment ids, no segment id is acknowledged or backed up more than once, nor both. -/
theorem settled_once (hempty : reporter.channel.queue = [])
    (hrun : run (Process.step b64 reporter) (start reporter clock) es = some p)
    (hdistinct : ((p.scopes.flatMap Scope.reported).map
      fun context => context.segmentId.toString).Nodup) :
    ((p.worker.effects.flatMap Effect.settled).map SegmentObject.traceSegmentId).Nodup := by
  obtain ⟨w, ds, batch, pending, hbooks, heffects, hnodup⟩ :=
    exists_accepted_nodup hempty hrun hdistinct
  rw [heffects]
  refine (hbooks.settled_sublist.map _).nodup ?_
  rw [List.map_map]
  exact hnodup

/-- **No segment is sent more than `RETRY_NUM` times**: in every run of a process in which the
reported contexts have distinct segment ids, however the collector answers. -/
theorem sent_bounded (hempty : reporter.channel.queue = [])
    (hrun : run (Process.step b64 reporter) (start reporter clock) es = some p)
    (hdistinct : ((p.scopes.flatMap Scope.reported).map
      fun context => context.segmentId.toString).Nodup) (segmentId : String) :
    p.worker.effects.countP (Effect.Sends segmentId) ≤ Worker.retryNum := by
  obtain ⟨w, ds, batch, pending, hbooks, heffects, hnodup⟩ :=
    exists_accepted_nodup hempty hrun hdistinct
  rw [heffects]
  exact hbooks.sends_le hnodup segmentId

end Process

/-- In `reportEvents` one scope with one span reports its context, which is acknowledged. -/
lemma exists_report_demo : ∃ p s context,
    run (Process.step .standard .demo) (Process.start .demo 0) reportEvents = some p
      ∧ p.scopes = [s] ∧ s.issued.length = 1 ∧ s.reported = [context]
      ∧ p.worker.effects
        = [.collect [Reporter.genSegment .standard context Reporter.demo.workerConfig] none] := by
  have hend : ((run (Process.step .standard .demo) (Process.start .demo 0) reportEvents).map
      fun p => (p.scopes.map fun s => (s.issued.length, s.reported.length),
        decide (p.worker.effects = (p.scopes.flatMap Scope.reported).map fun context =>
          .collect [Reporter.genSegment .standard context Reporter.demo.workerConfig] none)))
      = some ([(1, 1)], true) := by decide +kernel
  obtain ⟨p, hrun, hp⟩ := Option.map_eq_some_iff.mp hend
  obtain ⟨hscopes, heffects⟩ := Prod.mk.inj hp
  obtain ⟨s, hs, hlengths⟩ := List.map_eq_singleton_iff.mp hscopes
  obtain ⟨hissued, hreported⟩ := Prod.mk.inj hlengths
  obtain ⟨context, hcontext⟩ := List.length_eq_one_iff.mp hreported
  refine ⟨p, s, context, hrun, hs, hissued, hcontext, ?_⟩
  rw [of_decide_eq_true heffects, hs]
  simp [hcontext]

theorem Process.sent_wellFormed_demo : ∃ p segment,
    run (Process.step .standard .demo) (Process.start .demo 0) reportEvents = some p
      ∧ Effect.collect [segment] none ∈ p.worker.effects ∧ segment.WellFormed
      ∧ ∃ s ∈ p.scopes, ∃ context ∈ s.reported,
        segment = Reporter.genSegment .standard context Reporter.demo.workerConfig := by
  obtain ⟨p, s, context, hrun, hscopes, hissued, -, heffects⟩ := exists_report_demo
  have heffect := heffects ▸ List.mem_singleton_self _
  have hmax : ∀ t ∈ p.scopes, t.issued.length ≤ 2 ^ 31 := by
    rw [hscopes]
    intro t ht
    rw [List.mem_singleton.mp ht, hissued]
    norm_num
  have hunmoved : ∀ e ∈ reportEvents, ∀ i, ¬ e.Meddles i := by
    simp [reportEvents, rounds, round, ProcessEvent.Meddles]
  obtain ⟨hwell, hfrom⟩ := Process.sent_wellFormed rfl hrun hunmoved hmax heffect
    (List.mem_singleton_self _)
  exact ⟨p, _, hrun, heffect, hwell, hfrom⟩

theorem Process.settled_once_demo : ∃ p,
    run (Process.step .standard .demo) (Process.start .demo 0) reportEvents = some p
      ∧ ((p.worker.effects.flatMap Effect.settled).map SegmentObject.traceSegmentId).Nodup := by
  obtain ⟨p, s, context, hrun, hscopes, -, hreported, -⟩ := exists_report_demo
  have hone : p.scopes.flatMap Scope.reported = [context] := by simp [hscopes, hreported]
  exact ⟨p, hrun, Process.settled_once rfl hrun (by rw [hone]; exact List.nodup_singleton _)⟩

/-- A scope reports its context, and the worker sends it twice: the first attempt fails. -/
def resendEvents : List ProcessEvent :=
  rounds 1 ++ ([.connect true, .proceed, .proceed, .proceed, .recv, .proceed, .proceed,
    .tick 500000000, .timeout, .proceed, .collected (some .unavailable), .proceed,
    .tick 500000000, .wake, .collected none] : List WorkerEvent).map .worker

theorem Process.sent_bounded_demo : ∃ p context,
    run (Process.step .standard .demo) (Process.start .demo 0) resendEvents = some p
      ∧ p.scopes.flatMap Scope.reported = [context]
      ∧ p.worker.effects.countP (Effect.Sends context.segmentId.toString) ≤ Worker.retryNum := by
  have hend : ((run (Process.step .standard .demo) (Process.start .demo 0) resendEvents).map
      fun p => (p.scopes.flatMap Scope.reported).length) = some 1 := by decide +kernel
  obtain ⟨p, hrun, hone⟩ := Option.map_eq_some_iff.mp hend
  obtain ⟨context, hreported⟩ := List.length_eq_one_iff.mp hone
  exact ⟨p, context, hrun, hreported, Process.sent_bounded rfl hrun
    (by rw [hreported]; exact List.nodup_singleton _) _⟩

end Skywalking
