import Skywalking.Agent.Worker

/-!
The worker loses no context and sends none twice.

* `Batch.segments`: what is sent of a batch, one segment for each context in it.
* `Disposal`: how the worker gets rid of a batch. It is acknowledged after fewer than five
  failed attempts, or written to the log after exactly five.
* `Pending`: what of the effects belongs to a batch that is still being sent, for every
  phase of the worker.
* `Accounts`, `Accounts.step`: **the books of the worker**, and that every event keeps
  them: what the channel has accepted is what was disposed of, what is being sent, what
  is buffered and what is queued, in this order.
* `worker_conserves`: the books at the head of the loop, where no batch is being sent.
-/

namespace Skywalking

open RustStd Machine

/-- The contexts in a batch. -/
def Batch.contexts (batch : Batch) : List TracingContext := batch.filterMap id

@[simp] lemma Batch.contexts_nil : Batch.contexts [] = [] := rfl

/-- How the worker has got rid of a batch: the codes of the failed attempts, and whether
one more attempt succeeded or the batch was written to the log. -/
inductive Disposal where
  | acknowledged (batch : Batch) (failures : List Code) (few : failures.length < 5)
  | backedUp (batch : Batch) (failures : List Code) (all : failures.length = 5)

section Effects

variable (b64 : Base64) (config : Config)

/-- The segments of the contexts in a batch, in their order. -/
def Batch.segments (batch : Batch) : List SegmentObject :=
  batch.contexts.map fun context => Reporter.genSegment b64 context config

/-- What the worker makes of a batch are the segments of its contexts. -/
lemma transformSegments_eq_segments (batch : Batch) :
    Reporter.transformSegments b64 config batch = batch.segments b64 config := by
  rw [Reporter.transformSegments, Batch.segments, Batch.contexts, List.map_filterMap]
  rfl

/-- The failed attempts to send a batch, each with all of its segments. -/
def attempts (batch : Batch) (failures : List Code) : List Effect :=
  failures.map fun code => .collect (batch.segments b64 config) (some code)

namespace Disposal

/-- The batch that was disposed of. -/
def batch : Disposal → Batch
  | acknowledged batch _ _ => batch
  | backedUp batch _ _ => batch

/-- What the disposal of a batch does to the outside: the failed attempts, then one
attempt that succeeds, or a record of the whole batch in the log. -/
def effects : Disposal → List Effect
  | acknowledged batch failures _ =>
      attempts b64 config batch failures ++ [.collect (batch.segments b64 config) none]
  | backedUp batch failures _ =>
      attempts b64 config batch failures
        ++ [.log (.segmentsBackup (batch.segments b64 config))]

end Disposal

end Effects

/-! ### What is pending -/

/-- No batch is being sent, and none has just been sent. -/
def Phase.isIdle : Phase → Bool
  | .retrieving .start _ | .retrieving .loop _ | .starting | .started | .loopHead
  | .receiving _ | .received => true
  | _ => false

section Accounts

variable {b64 : Base64} {config : Config}

/-- In a phase with the buffer `vec`, the batch that is being sent, and the effects this
has had so far. -/
inductive Pending (b64 : Base64) (config : Config) :
    Phase → Batch → Batch → List Effect → Prop
  | idle {phase : Phase} {vec : Batch} (idle : phase.isIdle = true) :
      Pending b64 config phase vec [] []
  | collecting {i : ℕ} {batch : Batch} {failures : List Code} (hi : i < Worker.retryNum)
      (hlength : failures.length = i) :
      Pending b64 config (.collecting i batch) [] batch (attempts b64 config batch failures)
  | retrieving {i : ℕ} {batch : Batch} {asleep : Option Instant} {failures : List Code}
      (hi : i < Worker.retryNum) (hlength : failures.length = i + 1) :
      Pending b64 config (.retrieving (.retry i batch) asleep) [] batch
        (attempts b64 config batch failures)
  | failed {i : ℕ} {batch : Batch} {failures : List Code} (hi : i < Worker.retryNum)
      (hlength : failures.length = i + 1) :
      Pending b64 config (.returned i batch false) [] batch (attempts b64 config batch failures)
  | succeeded {i : ℕ} {batch : Batch} {failures : List Code} (hi : i < Worker.retryNum)
      (hlength : failures.length = i) :
      Pending b64 config (.returned i batch true) [] batch
        (attempts b64 config batch failures ++ [.collect (batch.segments b64 config) none])
  | pausing {i : ℕ} {batch : Batch} {since : Instant} {failures : List Code}
      (hi : i + 1 < Worker.retryNum) (hlength : failures.length = i + 1) :
      Pending b64 config (.pausing i batch since) [] batch (attempts b64 config batch failures)
  | flushed : Pending b64 config .flushed [] [] []

/-- The books of a worker: the batches disposed of explain the effects up to those for
the `batch` being sent, and together with it, the buffer and the queue they are what the
channel has accepted. -/
structure Books (b64 : Base64) (config : Config) (w : Worker) (ds : List Disposal)
    (batch : Batch) (pending : List Effect) : Prop where
  sending : Pending b64 config w.phase w.vec batch pending
  effects_eq : w.effects = ds.flatMap (Disposal.effects b64 config) ++ pending
  accepted_eq : w.accepted = (ds.flatMap fun d => d.batch.contexts) ++ batch.contexts
    ++ (Batch.contexts w.vec ++ w.channel.queue)

/-- A worker can account for every context. -/
def Accounts (b64 : Base64) (config : Config) (w : Worker) : Prop :=
  ∃ ds batch pending, Books b64 config w ds batch pending

lemma accounts_start {channel : Mailbox TracingContext} (hempty : channel.queue = [])
    (clock : Instant) : Accounts b64 config (Worker.start channel clock) := by
  refine ⟨[], [], [], .idle rfl, rfl, ?_⟩
  rw [Worker.start, hempty]
  rfl

lemma attempts_concat (batch : Batch) (failures : List Code) (code : Code) :
    attempts b64 config batch failures
        ++ [.collect (Reporter.transformSegments b64 config batch) (some code)]
      = attempts b64 config batch (failures ++ [code]) := by
  rw [attempts, attempts, List.map_append, transformSegments_eq_segments]
  rfl

/-! ### Every event keeps the books -/

variable {w w' : Worker} {ds : List Disposal} {batch : Batch} {pending : List Effect}
  {e : WorkerEvent}

lemma Pending.eq_nil {phase : Phase} {vec : Batch}
    (h : Pending b64 config phase vec batch pending) (idle : phase.isIdle = true) :
    batch = [] ∧ pending = [] := by
  cases h with
  | idle h => exact ⟨rfl, rfl⟩
  | flushed => cases idle
  | _ => cases idle

lemma Pending.of_collecting {i : ℕ} {b vec : Batch}
    (h : Pending b64 config (.collecting i b) vec batch pending) :
    vec = [] ∧ batch = b ∧ i < Worker.retryNum ∧ ∃ failures : List Code, failures.length = i
      ∧ pending = attempts b64 config b failures := by
  cases h with
  | idle h => cases h
  | @collecting _ _ failures hi hlength => exact ⟨rfl, rfl, hi, failures, hlength, rfl⟩

lemma Pending.of_retrieving {i : ℕ} {b vec : Batch} {asleep : Option Instant}
    (h : Pending b64 config (.retrieving (.retry i b) asleep) vec batch pending) :
    vec = [] ∧ batch = b ∧ i < Worker.retryNum ∧ ∃ failures : List Code,
      failures.length = i + 1 ∧ pending = attempts b64 config b failures := by
  cases h with
  | idle h => cases h
  | @retrieving _ _ _ failures hi hlength => exact ⟨rfl, rfl, hi, failures, hlength, rfl⟩

lemma Pending.of_failed {i : ℕ} {b vec : Batch}
    (h : Pending b64 config (.returned i b false) vec batch pending) :
    vec = [] ∧ batch = b ∧ i < Worker.retryNum ∧ ∃ failures : List Code,
      failures.length = i + 1 ∧ pending = attempts b64 config b failures := by
  cases h with
  | idle h => cases h
  | @failed _ _ failures hi hlength => exact ⟨rfl, rfl, hi, failures, hlength, rfl⟩

lemma Pending.of_succeeded {i : ℕ} {b vec : Batch}
    (h : Pending b64 config (.returned i b true) vec batch pending) :
    vec = [] ∧ batch = b ∧ i < Worker.retryNum ∧ ∃ failures : List Code, failures.length = i
      ∧ pending = attempts b64 config b failures ++ [.collect (b.segments b64 config) none] := by
  cases h with
  | idle h => cases h
  | @succeeded _ _ failures hi hlength => exact ⟨rfl, rfl, hi, failures, hlength, rfl⟩

lemma Pending.of_pausing {i : ℕ} {b vec : Batch} {since : Instant}
    (h : Pending b64 config (.pausing i b since) vec batch pending) :
    vec = [] ∧ batch = b ∧ i + 1 < Worker.retryNum ∧ ∃ failures : List Code,
      failures.length = i + 1 ∧ pending = attempts b64 config b failures := by
  cases h with
  | idle h => cases h
  | @pausing _ _ _ failures hi hlength => exact ⟨rfl, rfl, hi, failures, hlength, rfl⟩

lemma Pending.of_flushed {vec : Batch} (h : Pending b64 config .flushed vec batch pending) :
    vec = [] ∧ batch = [] ∧ pending = [] := by
  cases h with
  | idle h => cases h
  | flushed => exact ⟨rfl, rfl, rfl⟩

/-- A call of `loop_retrive_client` goes on waiting for what it was called for. -/
lemma Pending.of_wait {resume : Resume} {asleep asleep' : Option Instant} {vec : Batch}
    (h : Pending b64 config (.retrieving resume asleep) vec batch pending) :
    Pending b64 config (.retrieving resume asleep') vec batch pending := by
  cases resume with
  | start =>
      obtain ⟨rfl, rfl⟩ := h.eq_nil rfl
      exact .idle rfl
  | loop =>
      obtain ⟨rfl, rfl⟩ := h.eq_nil rfl
      exact .idle rfl
  | retry i b =>
      obtain ⟨rfl, rfl, hi, failures, hlength, rfl⟩ := h.of_retrieving
      exact .retrieving hi hlength

/-- A call of `loop_retrive_client` returns to what it was called for. -/
lemma Pending.of_client {resume : Resume} {asleep : Option Instant}
    (h : Pending b64 config (.retrieving resume asleep) w.vec batch pending) :
    Pending b64 config (w.resume resume).phase (w.resume resume).vec batch pending := by
  cases resume with
  | start =>
      obtain ⟨rfl, rfl⟩ := h.eq_nil rfl
      exact .idle rfl
  | loop =>
      obtain ⟨rfl, rfl⟩ := h.eq_nil rfl
      exact .idle rfl
  | retry i b =>
      obtain ⟨hvec, rfl, hi, failures, hlength, rfl⟩ := h.of_retrieving
      rw [Worker.resume, hvec]
      exact .failed hi hlength

/-- Between two idle phases the books stay the same if the buffer and the queue together
do. -/
lemma Books.of_idle (h : Books b64 config w ds batch pending) (idle : w.phase.isIdle = true)
    (idle' : w'.phase.isIdle = true) (heffects : w'.effects = w.effects)
    (haccepted : w'.accepted = w.accepted)
    (hkept : Batch.contexts w'.vec ++ w'.channel.queue
      = Batch.contexts w.vec ++ w.channel.queue) : Accounts b64 config w' := by
  obtain ⟨rfl, rfl⟩ := h.sending.eq_nil idle
  refine ⟨ds, [], [], .idle idle', heffects.trans h.effects_eq, ?_⟩
  calc w'.accepted = w.accepted := haccepted
    _ = (ds.flatMap fun d => d.batch.contexts) ++ Batch.contexts []
          ++ (Batch.contexts w.vec ++ w.channel.queue) := h.accepted_eq
    _ = (ds.flatMap fun d => d.batch.contexts) ++ Batch.contexts []
          ++ (Batch.contexts w'.vec ++ w'.channel.queue) := by rw [hkept]

/-- A batch goes on to its next phase with the effects `more`. -/
lemma Books.of_sending (h : Books b64 config w ds batch pending) {more : List Effect}
    (hsending : Pending b64 config w'.phase w'.vec batch (pending ++ more))
    (heffects : w'.effects = w.effects ++ more) (haccepted : w'.accepted = w.accepted)
    (hvec : w'.vec = w.vec) (hchannel : w'.channel = w.channel) :
    Accounts b64 config w' := by
  refine ⟨ds, batch, pending ++ more, hsending, ?_, ?_⟩
  · rw [heffects, h.effects_eq, List.append_assoc]
  · rw [haccepted, hvec, hchannel]
    exact h.accepted_eq

/-- A batch has been disposed of. -/
lemma Books.of_disposed (h : Books b64 config w ds batch pending) {more : List Effect}
    (d : Disposal) (hbatch : d.batch = batch)
    (hd : d.effects b64 config = pending ++ more)
    (hphase : w'.phase = .flushed) (hvec : w'.vec = [] ∧ w.vec = [])
    (heffects : w'.effects = w.effects ++ more) (haccepted : w'.accepted = w.accepted)
    (hchannel : w'.channel = w.channel) : Accounts b64 config w' := by
  refine ⟨ds ++ [d], [], [], ?_, ?_, ?_⟩
  · rw [hphase, hvec.1]
    exact .flushed
  · calc w'.effects = w.effects ++ more := heffects
      _ = ds.flatMap (Disposal.effects b64 config) ++ (pending ++ more) := by
          rw [h.effects_eq, List.append_assoc]
      _ = (ds ++ [d]).flatMap (Disposal.effects b64 config) ++ [] := by
          rw [List.flatMap_append, List.flatMap_singleton, hd, List.append_nil]
  · calc w'.accepted = w.accepted := haccepted
      _ = (ds.flatMap fun d => d.batch.contexts) ++ batch.contexts
            ++ (Batch.contexts w.vec ++ w.channel.queue) := h.accepted_eq
      _ = ((ds ++ [d]).flatMap fun d => d.batch.contexts) ++ Batch.contexts []
            ++ (Batch.contexts w'.vec ++ w'.channel.queue) := by
          rw [hchannel, hvec.1, hvec.2, List.flatMap_append, List.flatMap_singleton, hbatch,
            Batch.contexts_nil, List.append_nil]

/-- **Every event keeps the books**. -/
theorem Accounts.step (h : Accounts b64 config w) (hs : w.step b64 config e = some w') :
    Accounts b64 config w' := by
  obtain ⟨ds, batch, pending, h⟩ := h
  have hsending := h.sending
  cases Worker.step_cases hs with
  | tick => exact ⟨ds, batch, pending, h.sending, h.effects_eq, h.accepted_eq⟩
  | @accept ctx channel room =>
      obtain ⟨-, -, rfl⟩ := Mailbox.trySend_eq_ok.mp room
      refine ⟨ds, batch, pending, h.sending, h.effects_eq, ?_⟩
      simp only [h.accepted_eq, List.append_assoc]
  | refuse refused => exact ⟨ds, batch, pending, h⟩
  | dropSender => exact ⟨ds, batch, pending, h.sending, h.effects_eq, h.accepted_eq⟩
  | @connected resume phase =>
      rw [phase] at hsending
      refine ⟨ds, batch, pending, hsending.of_client, ?_, ?_⟩
      · cases resume <;> exact h.effects_eq
      · cases resume <;> exact h.accepted_eq
  | notConnected phase =>
      rw [phase] at hsending
      exact ⟨ds, batch, pending, hsending.of_wait, h.effects_eq, h.accepted_eq⟩
  | reconnect phase slept =>
      rw [phase] at hsending
      exact ⟨ds, batch, pending, hsending.of_wait, h.effects_eq, h.accepted_eq⟩
  | @resend i b since phase slept =>
      rw [phase] at hsending
      obtain ⟨hvec, rfl, hi, failures, hlength, rfl⟩ := hsending.of_pausing
      refine ⟨ds, batch, _, ?_, h.effects_eq, h.accepted_eq⟩
      rw [hvec]
      exact .collecting hi hlength
  | @recv since ctx channel phase received =>
      refine h.of_idle (by rw [phase]; rfl) rfl rfl rfl ?_
      -- what is taken from the queue is put behind the buffer
      rcases Mailbox.recv_cases received with ⟨a, rfl, hqueue, -⟩ | ⟨rfl, -, -, rfl⟩
      · simp [hqueue, Batch.contexts]
      · simp [Batch.contexts]
  | timeout phase elapsed => exact h.of_idle (by rw [phase]; rfl) rfl rfl rfl rfl
  | @collected i b phase =>
      rw [phase] at hsending
      obtain ⟨hvec, rfl, hi, failures, hlength, rfl⟩ := hsending.of_collecting
      refine h.of_sending ?_ rfl rfl rfl rfl
      rw [hvec, transformSegments_eq_segments]
      exact .succeeded hi hlength
  | @failed i b code phase transient =>
      rw [phase] at hsending
      obtain ⟨hvec, rfl, hi, failures, hlength, rfl⟩ := hsending.of_collecting
      refine h.of_sending ?_ rfl rfl rfl rfl
      rw [hvec, attempts_concat]
      exact .failed hi (by rw [List.length_append, hlength]; rfl)
  | @broken i b code phase transient =>
      rw [phase] at hsending
      obtain ⟨hvec, rfl, hi, failures, hlength, rfl⟩ := hsending.of_collecting
      refine h.of_sending ?_ rfl rfl rfl rfl
      rw [hvec, attempts_concat]
      exact .retrieving hi (by rw [List.length_append, hlength]; rfl)
  | starting phase => exact h.of_idle (by rw [phase]; rfl) rfl rfl rfl rfl
  | started phase => exact h.of_idle (by rw [phase]; rfl) rfl rfl rfl rfl
  | rotate phase due => exact h.of_idle (by rw [phase]; rfl) rfl rfl rfl rfl
  | receive phase notDue => exact h.of_idle (by rw [phase]; rfl) rfl rfl rfl rfl
  | skip phase notDue => exact h.of_idle (by rw [phase]; rfl) rfl rfl rfl rfl
  | flush phase full due =>
      rw [phase] at hsending
      obtain ⟨rfl, rfl⟩ := hsending.eq_nil rfl
      refine ⟨ds, w.vec, [], ?_, h.effects_eq, ?_⟩
      · exact @Pending.collecting b64 config 0 w.vec [] (by decide) rfl
      · rw [h.accepted_eq]
        simp
  | @succeed i b phase =>
      rw [phase] at hsending
      obtain ⟨hvec, rfl, hi, failures, hlength, rfl⟩ := hsending.of_succeeded
      exact h.of_disposed (.acknowledged batch failures (by rw [hlength]; exact hi)) rfl
        (List.append_nil _).symm rfl ⟨hvec, hvec⟩ (List.append_nil _).symm rfl rfl
  | @backUp b phase =>
      rw [phase] at hsending
      obtain ⟨hvec, rfl, hi, failures, hlength, rfl⟩ := hsending.of_failed
      refine h.of_disposed (.backedUp batch failures hlength) rfl rfl rfl ⟨hvec, hvec⟩ ?_ rfl rfl
      rw [transformSegments_eq_segments]
  | @pause i b phase more =>
      rw [phase] at hsending
      obtain ⟨hvec, rfl, hi, failures, hlength, rfl⟩ := hsending.of_failed
      refine ⟨ds, batch, _, ?_, h.effects_eq, h.accepted_eq⟩
      rw [hvec]
      refine .pausing ?_ hlength
      simp only [Worker.retryNum] at hi more ⊢
      omega
  | flushed phase =>
      rw [phase] at hsending
      obtain ⟨hvec, rfl, rfl⟩ := hsending.of_flushed
      refine ⟨ds, [], [], .idle rfl, h.effects_eq, ?_⟩
      rw [h.accepted_eq, hvec]

theorem accounts_of_run {channel : Mailbox TracingContext} (hempty : channel.queue = [])
    {clock : Instant} {es : List WorkerEvent}
    (hrun : run (Worker.step b64 config) (Worker.start channel clock) es = some w) :
    Accounts b64 config w :=
  run_invariant (fun _ _ _ h hs => h.step hs) (accounts_start hempty clock) hrun

/-- **The worker conserves contexts**: at the head of its loop, whatever has arrived and
however connecting and collecting went, the contexts that the channel has accepted are
those of the batches disposed of, those in the buffer and those in the queue, in this
order. Each batch was disposed of on its own: it had fewer than five failed attempts and
then a successful one, or five failed ones and then a record in the log, all with the
segments of all contexts of the batch. -/
theorem worker_conserves {channel : Mailbox TracingContext} (hempty : channel.queue = [])
    {clock : Instant} {es : List WorkerEvent}
    (hrun : run (Worker.step b64 config) (Worker.start channel clock) es = some w)
    (hhead : w.phase = .loopHead) :
    ∃ ds : List Disposal, w.effects = ds.flatMap (Disposal.effects b64 config)
      ∧ w.accepted = (ds.flatMap fun d => d.batch.contexts) ++ Batch.contexts w.vec
        ++ w.channel.queue := by
  obtain ⟨ds, batch, pending, h⟩ := accounts_of_run hempty hrun
  obtain ⟨rfl, rfl⟩ := h.sending.eq_nil (by rw [hhead]; rfl)
  refine ⟨ds, ?_, ?_⟩
  · rw [h.effects_eq, List.append_nil]
  · rw [h.accepted_eq, Batch.contexts_nil, List.append_nil, List.append_assoc]

/-- A context arrives and is sent at the second attempt. -/
def demoEvents : List WorkerEvent :=
  [.connect true, .proceed, .proceed, .trySend .demo, .proceed, .recv, .proceed, .proceed,
    .tick 500000000, .timeout, .proceed, .collected (some .unavailable), .proceed,
    .tick 500000000, .wake, .collected none, .proceed, .proceed]

theorem worker_conserves_demo : ∃ w,
    run (Worker.step .standard Config.demo)
        (Worker.start { capacity := Reporter.skwChanSize, queue := [] } 0) demoEvents = some w
      ∧ w.accepted = [.demo]
      ∧ ∃ ds : List Disposal, w.effects = ds.flatMap (Disposal.effects .standard Config.demo)
        ∧ w.accepted = (ds.flatMap fun d => d.batch.contexts) ++ Batch.contexts w.vec
          ++ w.channel.queue := by
  have hend : (run (Worker.step .standard Config.demo)
      (Worker.start { capacity := Reporter.skwChanSize, queue := [] } 0) demoEvents).map
      (fun w => (w.phase, w.accepted)) = some (.loopHead, [.demo]) := by decide +kernel
  obtain ⟨w, hrun, hw⟩ := Option.map_eq_some_iff.mp hend
  obtain ⟨hhead, haccepted⟩ := Prod.mk.inj hw
  exact ⟨w, hrun, haccepted, worker_conserves rfl hrun hhead⟩

end Accounts

end Skywalking
