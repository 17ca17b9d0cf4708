import Skywalking.Agent.Worker

/-!
How large the batches of the worker get, and how long a context stays in its buffer.

The buffer is flushed when it holds more than 500 entries, or when the last flush is at
least `REPORT_BUCKET` ago. A receive that times out has waited for `REPORT_BUCKET` since the
head of the loop, and the last flush was before that, so a timeout always makes a flush due.

* `Moves`: what one event does to the buffer and to the batch that is being sent.
* `Bounded`: the sizes of the buffer and of the batch that is being sent, for every phase.
* `Timed`, `Drained`: the last flush lies before the receive; after a timeout the buffer is
  empty or about to be flushed.
* `batches_bounded`: **bounded batching**, in every run of the worker.
-/

namespace Skywalking

open RustStd Machine

/-- The batch that `retry_send_skw` is working on. -/
def Phase.batch? : Phase → Option Batch
  | .retrieving (.retry _ batch) _ | .collecting _ batch | .returned _ batch _
  | .pausing _ batch _ => some batch
  | _ => none

/-- The event ends a receive. -/
def WorkerEvent.isReceive : WorkerEvent → Bool
  | .recv | .timeout => true
  | _ => false

namespace Worker

variable {b64 : Base64} {config : Config} {w w' : Worker} {e : WorkerEvent}
  {es : List WorkerEvent}

lemma batch?_retrieving (resume : Resume) (asleep asleep' : Option Instant) :
    (Phase.retrieving resume asleep).batch? = (Phase.retrieving resume asleep').batch? := by
  cases resume <;> rfl

/-- `loop_retrive_client` returns to the batch for which it was called. -/
lemma batch?_resume (w : Worker) (resume : Resume) (asleep : Option Instant) :
    (w.resume resume).phase.batch? = (Phase.retrieving resume asleep).batch? := by
  cases resume <;> rfl

lemma vec_resume (w : Worker) (resume : Resume) : (w.resume resume).vec = w.vec := by
  cases resume <;> rfl

/-! ### The buffer and the batch -/

/-- What one event does to the buffer and to the batch that is being sent. -/
inductive Moves (w : Worker) : WorkerEvent → Worker → Prop
  /-- The buffer is left alone, and no batch is begun. A received entry goes on waiting for
  the decision whether to flush. -/
  | keep {e : WorkerEvent} {w' : Worker} (vec : w'.vec = w.vec)
      (batch : ∀ batch, w'.phase.batch? = some batch → w.phase.batch? = some batch)
      (received : w.phase = .received → w'.phase = .received
        ∧ w'.lastFlushTime = w.lastFlushTime ∧ w.clock ≤ w'.clock) : Moves w e w'
  /-- What the channel gives is put into the buffer. -/
  | recv {w' : Worker} {since : Instant} {ctx : Option TracingContext}
      {channel : Mailbox TracingContext} (phase : w.phase = .receiving since)
      (received : w.channel.recv = some (ctx, channel)) (vec : w'.vec = w.vec ++ [ctx])
      (phase' : w'.phase = .received) : Moves w .recv w'
  /-- Nothing is buffered, or it is not time to flush it. -/
  | skip {w' : Worker} (notDue : w.vec = [] ∨
        ¬ (asMillis (Instant.durationSince w.clock w.lastFlushTime) ≥ reportBucket
          ∨ w.vec.length > 500)) (vec : w'.vec = w.vec)
      (phase' : w'.phase = .loopHead) : Moves w .proceed w'
  /-- The buffer becomes the batch. -/
  | flush {w' : Worker} (pending : w.vec ≠ []) (vec : w'.vec = [])
      (phase' : w'.phase = .collecting 0 w.vec) : Moves w .proceed w'
  /-- The batch is done with. -/
  | flushed {w' : Worker} (vec : w'.vec = []) (phase' : w'.phase = .loopHead) :
      Moves w .proceed w'

/-- In a phase other than `received` the buffer is left alone by what begins no batch. -/
lemma Moves.keep_of_phase {phase : Phase} (hphase : w.phase = phase) (hne : phase ≠ .received)
    (hvec : w'.vec = w.vec)
    (hbatch : ∀ batch, w'.phase.batch? = some batch → phase.batch? = some batch) :
    w.Moves e w' := by
  subst hphase
  exact .keep hvec hbatch fun hreceived => absurd hreceived hne

/-- Every event moves the buffer and the batch in one of these ways. -/
theorem Step.moves (h : Step b64 config w e w') : w.Moves e w' := by
  cases h with
  | tick => exact .keep rfl (fun _ => id) fun phase => ⟨phase, rfl, Nat.le_add_right _ _⟩
  | accept room => exact .keep rfl (fun _ => id) fun phase => ⟨phase, rfl, le_rfl⟩
  | refuse refused => exact .keep rfl (fun _ => id) fun phase => ⟨phase, rfl, le_rfl⟩
  | dropSender => exact .keep rfl (fun _ => id) fun phase => ⟨phase, rfl, le_rfl⟩
  | recv phase received => exact .recv phase received rfl rfl
  | skip phase notDue => exact .skip notDue rfl rfl
  | flush phase pending due => exact .flush pending rfl rfl
  | flushed phase => exact .flushed rfl rfl
  -- a call of `loop_retrive_client` keeps the batch for which it was made
  | connected phase =>
      refine .keep_of_phase phase (by simp) (vec_resume w _) fun batch hbatch => ?_
      exact (batch?_resume w _ none).symm.trans hbatch
  | notConnected phase =>
      refine .keep_of_phase phase (by simp) rfl fun batch hbatch => ?_
      exact (batch?_retrieving _ none _).trans hbatch
  | reconnect phase slept =>
      refine .keep_of_phase phase (by simp) rfl fun batch hbatch => ?_
      exact (batch?_retrieving _ _ none).trans hbatch
  -- the batch goes on to another phase
  | resend phase slept => exact .keep_of_phase phase (by simp) rfl fun _ => id
  | collected phase => exact .keep_of_phase phase (by simp) rfl fun _ => id
  | failed phase transient => exact .keep_of_phase phase (by simp) rfl fun _ => id
  | broken phase transient => exact .keep_of_phase phase (by simp) rfl fun _ => id
  | pause phase more => exact .keep_of_phase phase (by simp) rfl fun _ => id
  -- no batch is being sent any more
  | timeout phase elapsed => exact .keep_of_phase phase (by simp) rfl (by simp [Phase.batch?])
  | starting phase => exact .keep_of_phase phase (by simp) rfl (by simp [Phase.batch?])
  | started phase => exact .keep_of_phase phase (by simp) rfl (by simp [Phase.batch?])
  | rotate phase due => exact .keep_of_phase phase (by simp) rfl (by simp [Phase.batch?])
  | receive phase notDue => exact .keep_of_phase phase (by simp) rfl (by simp [Phase.batch?])
  | succeed phase => exact .keep_of_phase phase (by simp) rfl (by simp [Phase.batch?])
  | backUp phase => exact .keep_of_phase phase (by simp) rfl (by simp [Phase.batch?])

/-! ### Sizes -/

/-- The sizes of the buffer and of the batch that is being sent. -/
structure Bounded (w : Worker) : Prop where
  buffer : w.phase ≠ .received → w.vec.length ≤ 500
  received : w.vec.length ≤ 501
  batch : ∀ batch, w.phase.batch? = some batch →
    w.vec = [] ∧ 1 ≤ batch.length ∧ batch.length ≤ 501

lemma bounded_start (channel : Mailbox TracingContext) (clock : Instant) :
    (start channel clock).Bounded :=
  ⟨fun _ => Nat.zero_le _, Nat.zero_le _, fun _ h => by cases h⟩

/-- **Every event keeps the sizes**. -/
theorem Bounded.step (h : w.Bounded) (hs : w.step b64 config e = some w') : w'.Bounded := by
  cases (step_cases hs).moves with
  | keep vec batch received =>
      refine ⟨fun hne => ?_, ?_, fun b hb => ?_⟩
      · rw [vec]
        exact h.buffer fun hphase => hne (received hphase).1
      · rw [vec]
        exact h.received
      · rw [vec]
        exact h.batch b (batch b hb)
  | recv phase received vec phase' =>
      have hlimit := h.buffer (by rw [phase]; simp)
      refine ⟨fun hne => absurd phase' hne, ?_, fun b hb => ?_⟩
      · rw [vec, List.length_append, List.length_singleton]
        omega
      · rw [phase'] at hb
        cases hb
  | skip notDue vec phase' =>
      have hlimit : w'.vec.length ≤ 500 := by
        rw [vec]
        rcases notDue with hempty | hnotDue
        · simp [hempty]
        · exact Nat.le_of_not_lt fun hlt => hnotDue (Or.inr hlt)
      refine ⟨fun _ => hlimit, Nat.le_succ_of_le hlimit, fun b hb => ?_⟩
      rw [phase'] at hb
      cases hb
  | flush pending vec phase' =>
      refine ⟨fun _ => by simp [vec], by simp [vec], fun b hb => ?_⟩
      rw [phase'] at hb
      obtain rfl := Option.some.inj hb
      exact ⟨vec, List.length_pos_of_ne_nil pending, h.received⟩
  | flushed vec phase' =>
      refine ⟨fun _ => by simp [vec], by simp [vec], fun b hb => ?_⟩
      rw [phase'] at hb
      cases hb

/-! ### Times -/

/-- The last flush is not later than the clock and the receive that is waiting. -/
structure Timed (w : Worker) : Prop where
  clock : w.lastFlushTime ≤ w.clock
  receiving : ∀ since, w.phase = .receiving since → w.lastFlushTime ≤ since

lemma timed_start (channel : Mailbox TracingContext) (clock : Instant) :
    (start channel clock).Timed :=
  ⟨Nat.zero_le _, fun _ h => by cases h⟩

/-- Where nothing is received, only the clock counts. -/
lemma Timed.of_clock (hclock : w.lastFlushTime ≤ w.clock)
    (hphase : ∀ since, w.phase ≠ .receiving since) : w.Timed :=
  ⟨hclock, fun since h => absurd h (hphase since)⟩

lemma Timed.step (h : w.Timed) (hs : w.step b64 config e = some w') : w'.Timed := by
  cases step_cases hs with
  | tick => exact ⟨le_trans h.clock (Nat.le_add_right _ _), h.receiving⟩
  | accept room => exact ⟨h.clock, h.receiving⟩
  | refuse refused => exact h
  | dropSender => exact ⟨h.clock, h.receiving⟩
  | @connected resume phase =>
      cases resume with
      | start => exact .of_clock h.clock (by simp [resume])
      | loop =>
          refine ⟨h.clock, fun since hsince => ?_⟩
          obtain rfl := Phase.receiving.inj hsince
          exact h.clock
      | retry i batch => exact .of_clock h.clock (by simp [resume])
  | receive phase notDue =>
      refine ⟨h.clock, fun since hsince => ?_⟩
      obtain rfl := Phase.receiving.inj hsince
      exact h.clock
  | starting phase => exact .of_clock le_rfl (by simp)
  | flushed phase => exact .of_clock le_rfl (by simp)
  | _ => exact .of_clock h.clock (by simp)

/-! ### After a timeout -/

/-- The last receive of a run: its event is `recv` or `timeout`. -/
def lastReceive (es : List WorkerEvent) : Option WorkerEvent :=
  (es.filter WorkerEvent.isReceive).getLast?

lemma lastReceive_concat_of_isReceive (es : List WorkerEvent) (h : e.isReceive = true) :
    lastReceive (es ++ [e]) = some e := by
  rw [lastReceive, List.filter_append, List.filter_singleton, h]
  exact List.getLast?_concat

lemma lastReceive_concat_of_not_isReceive (es : List WorkerEvent) (h : e.isReceive = false) :
    lastReceive (es ++ [e]) = lastReceive es := by
  rw [lastReceive, List.filter_append, List.filter_singleton, h]
  simp [lastReceive]

/-- The buffer is empty, or the next thing the worker does is to flush it. -/
def Drained (w : Worker) : Prop :=
  w.vec = [] ∨ w.phase = .received
    ∧ asMillis (Instant.durationSince w.clock w.lastFlushTime) ≥ reportBucket

/-- Where nothing was received, the buffer is empty. -/
lemma Drained.vec_eq_nil (h : w.Drained) (hphase : w.phase ≠ .received) : w.vec = [] :=
  h.resolve_right fun ⟨phase, _⟩ => hphase phase

/-- A receive that times out has waited since the last flush. -/
lemma drained_of_timeout {since : Instant} (h : w.Timed) (phase : w.phase = .receiving since)
    (elapsed : since + millis reportBucket ≤ w.clock) :
    Drained { w with phase := .received } := by
  have hwaited : w.lastFlushTime + millis reportBucket ≤ w.clock :=
    le_trans (Nat.add_le_add_right (h.receiving since phase) _) elapsed
  refine Or.inr ⟨rfl, (Nat.le_div_iff_mul_le (by norm_num)).mpr ?_⟩
  exact Nat.le_sub_of_add_le' hwaited

/-- Every event but the completion of a receive keeps the buffer drained. -/
theorem Drained.step (h : w.Drained) (he : e.isReceive = false)
    (hs : w.step b64 config e = some w') : w'.Drained := by
  cases (step_cases hs).moves with
  | keep vec batch received =>
      rcases h with hnil | ⟨phase, due⟩
      · exact Or.inl (vec.trans hnil)
      · -- a flush that is due stays due
        obtain ⟨phase', hflush, hclock⟩ := received phase
        refine Or.inr ⟨phase', le_trans due ?_⟩
        rw [hflush]
        exact Nat.div_le_div_right (Nat.sub_le_sub_right hclock _)
  | recv => cases he
  | skip notDue vec phase' =>
      refine Or.inl (vec.trans ?_)
      rcases notDue with hempty | hnotDue
      · exact hempty
      · exact h.resolve_right fun ⟨_, due⟩ => hnotDue (Or.inl due)
  | flush pending vec phase' => exact Or.inl vec
  | flushed vec phase' => exact Or.inl vec

/-- After a receive that has timed out the buffer stays drained until the next receive. -/
theorem drained_of_run {channel : Mailbox TracingContext} {clock : Instant}
    (hrun : run (Worker.step b64 config) (start channel clock) es = some w)
    (hlast : lastReceive es = some .timeout) : w.Drained := by
  refine run_induction (P := fun es w => lastReceive es = some .timeout → w.Drained) ?_ ?_
    hrun hlast
  · exact fun h => absurd h (by simp [lastReceive])
  · intro es w e w' hrun ih hs hlast
    have htimed : w.Timed :=
      run_invariant (fun _ _ _ h hs => h.step hs) (timed_start channel clock) hrun
    cases hreceive : e.isReceive with
    | false =>
        rw [lastReceive_concat_of_not_isReceive es hreceive] at hlast
        exact (ih hlast).step hreceive hs
    | true =>
        rw [lastReceive_concat_of_isReceive es hreceive] at hlast
        obtain rfl := Option.some.inj hlast
        cases step_cases hs with
        | timeout phase elapsed => exact drained_of_timeout htimed phase elapsed

/-- **Bounded batching**: in every run of the worker, the buffer holds at most 500 entries
at the head of the loop, a batch that is being sent has between 1 and 501 entries, and the
buffer is empty at the head of the loop if the receive before it has timed out. -/
theorem batches_bounded {channel : Mailbox TracingContext} {clock : Instant}
    (hrun : run (Worker.step b64 config) (start channel clock) es = some w) :
    (w.phase = .loopHead → w.vec.length ≤ 500)
      ∧ (∀ i batch, w.phase = .collecting i batch → 1 ≤ batch.length ∧ batch.length ≤ 501)
      ∧ (w.phase = .loopHead → lastReceive es = some .timeout → w.vec = []) := by
  have hbounded : w.Bounded :=
    run_invariant (fun _ _ _ h hs => h.step hs) (bounded_start channel clock) hrun
  refine ⟨fun phase => hbounded.buffer (by rw [phase]; simp), fun i batch phase => ?_,
    fun phase hlast => ?_⟩
  · exact (hbounded.batch batch (by rw [phase]; rfl)).2
  · exact (drained_of_run hrun hlast).vec_eq_nil (by rw [phase]; simp)

/-- A context arrives and is sent after the next receive has timed out. -/
def idleEvents : List WorkerEvent :=
  [.connect true, .proceed, .proceed, .trySend .demo, .proceed, .recv, .proceed, .proceed,
    .tick 500000000, .timeout, .proceed, .collected none, .proceed, .proceed]

theorem batches_bounded_demo : ∃ w,
    run (Worker.step .standard Config.demo)
        (start { capacity := Reporter.skwChanSize, queue := [] } 0) idleEvents = some w
      ∧ w.phase = .loopHead ∧ lastReceive idleEvents = some .timeout ∧ w.vec = [] := by
  have hend : (run (Worker.step .standard Config.demo)
      (start { capacity := Reporter.skwChanSize, queue := [] } 0) idleEvents).map
      Worker.phase = some .loopHead := by decide +kernel
  obtain ⟨w, hrun, hhead⟩ := Option.map_eq_some_iff.mp hend
  have hlast : lastReceive idleEvents = some .timeout := by decide
  exact ⟨w, hrun, hhead, hlast, (batches_bounded hrun).2.2 hhead hlast⟩

end Worker

end Skywalking
