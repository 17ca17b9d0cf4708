import Skywalking.Agent.Shutdown
import Skywalking.Machine.Forever

/-!
How the worker gets on with its work.

What the channel has accepted is disposed of in order, so a context has left the worker as
soon as enough contexts have. Between two disposals every event in which the task gets on
takes something off the rest of the round: an attempt for the batch, room in the buffer, or
one of the places in the loop. It may only be kept waiting from outside.

* `backlog`, `Flow`: the contexts not yet disposed of, and what one event does to them.
* `Orderly`: what holds of a worker whose channel has a sender.
* `effort`, `Orderly.effort_step`: **what an event leaves of the round**.
* `cooperate`: the scheduler with which every call succeeds at once.
-/

namespace Skywalking

open RustStd Machine

/-- The task of the worker does something. -/
def WorkerEvent.isOwn : WorkerEvent → Bool
  | .connect _ | .wake | .recv | .timeout | .collected _ | .proceed => true
  | .tick _ | .trySend _ | .dropSender => false

namespace Worker

variable {b64 : Base64} {config : Config} {w w' : Worker} {e : WorkerEvent}

/-! ### The contexts that are not yet disposed of -/

/-- The contexts that the worker has not yet disposed of: those in the batch being sent, in
the buffer and in the queue. -/
def backlog (w : Worker) : List TracingContext :=
  Batch.contexts (w.phase.batch?.getD []) ++ (Batch.contexts w.vec ++ w.channel.queue)

/-- How many contexts the worker has disposed of. -/
def disposed (w : Worker) : ℕ := w.accepted.length - w.backlog.length

/-- What one event does to the contexts accepted and to those not yet disposed of. -/
inductive Flow (w w' : Worker) : Prop
  | keep (accepted : w'.accepted = w.accepted) (backlog : w'.backlog = w.backlog)
  | accept (ctx : TracingContext) (accepted : w'.accepted = w.accepted ++ [ctx])
      (backlog : w'.backlog = w.backlog ++ [ctx])
  | dispose (batch : Batch) (sending : w.phase.batch? = some batch)
      (accepted : w'.accepted = w.accepted)
      (backlog : w.backlog = batch.contexts ++ w'.backlog)

lemma accepted_resume (w : Worker) (resume : Resume) :
    (w.resume resume).accepted = w.accepted := by
  cases resume <;> rfl

lemma channel_resume (w : Worker) (resume : Resume) :
    (w.resume resume).channel = w.channel := by
  cases resume <;> rfl

/-- In the same channel, with the same buffer and the same batch, nothing is disposed of. -/
lemma Flow.of_same (haccepted : w'.accepted = w.accepted)
    (hbatch : w'.phase.batch? = w.phase.batch?) (hvec : w'.vec = w.vec)
    (hchannel : w'.channel = w.channel) : Flow w w' := by
  refine .keep haccepted ?_
  rw [Worker.backlog, Worker.backlog, hbatch, hvec, hchannel]

/-- Between two phases in which no batch is being sent. -/
lemma Flow.of_unsent {phase : Phase} (hphase : w.phase = phase) (hnone : phase.batch? = none)
    (haccepted : w'.accepted = w.accepted) (hnone' : w'.phase.batch? = none)
    (hvec : w'.vec = w.vec) (hchannel : w'.channel = w.channel) : Flow w w' := by
  subst hphase
  exact .of_same haccepted (hnone'.trans hnone.symm) hvec hchannel

/-- **What an event does to the backlog**: it keeps it, puts one context behind it, or takes a
whole batch off its front. -/
theorem Step.flow (h : Step b64 config w e w') (hflushed : w.phase = .flushed → w.vec = []) :
    Flow w w' := by
  cases h with
  | tick => exact .of_same rfl rfl rfl rfl
  | @accept ctx channel room =>
      obtain ⟨-, -, rfl⟩ := Mailbox.trySend_eq_ok.mp room
      exact .accept ctx rfl (by simp [backlog])
  | refuse refused => exact .of_same rfl rfl rfl rfl
  | dropSender => exact .keep rfl rfl
  | @connected resume phase =>
      refine .of_same (accepted_resume w resume) ?_ (vec_resume w resume)
        (channel_resume w resume)
      rw [phase]
      exact batch?_resume w resume none
  | @notConnected resume phase =>
      refine .of_same rfl ?_ rfl rfl
      rw [phase]
      exact batch?_retrieving resume _ _
  | @reconnect resume since phase slept =>
      refine .of_same rfl ?_ rfl rfl
      rw [phase]
      exact batch?_retrieving resume _ _
  | resend phase slept => exact .of_same rfl (by rw [phase]; rfl) rfl rfl
  | @recv since ctx channel phase received =>
      refine .keep rfl ?_
      -- what is taken from the queue is put behind the buffer
      rcases Mailbox.recv_cases received with ⟨a, rfl, hqueue, -⟩ | ⟨rfl, -, -, rfl⟩
      · simp [backlog, phase, Phase.batch?, hqueue, Batch.contexts]
      · simp [backlog, phase, Phase.batch?, Batch.contexts]
  | timeout phase elapsed => exact .of_unsent phase rfl rfl rfl rfl rfl
  | collected phase => exact .of_same rfl (by rw [phase]; rfl) rfl rfl
  | failed phase transient => exact .of_same rfl (by rw [phase]; rfl) rfl rfl
  | broken phase transient => exact .of_same rfl (by rw [phase]; rfl) rfl rfl
  | starting phase => exact .of_unsent phase rfl rfl rfl rfl rfl
  | started phase => exact .of_unsent phase rfl rfl rfl rfl rfl
  | rotate phase due => exact .of_unsent phase rfl rfl rfl rfl rfl
  | receive phase notDue => exact .of_unsent phase rfl rfl rfl rfl rfl
  | skip phase notDue => exact .of_unsent phase rfl rfl rfl rfl rfl
  | flush phase pending due => exact .keep rfl (by simp [backlog, phase, Phase.batch?])
  | @succeed i batch phase =>
      refine .dispose batch (by rw [phase]; rfl) rfl ?_
      simp [backlog, phase, Phase.batch?]
  | @backUp batch phase =>
      refine .dispose batch (by rw [phase]; rfl) rfl ?_
      simp [backlog, phase, Phase.batch?]
  | pause phase more => exact .of_same rfl (by rw [phase]; rfl) rfl rfl
  | flushed phase => exact .of_unsent phase rfl rfl rfl (hflushed phase).symm rfl

end Worker

section Books

variable {b64 : Base64} {config : Config} {w : Worker} {ds : List Disposal} {batch : Batch}
  {pending : List Effect}

lemma Pending.batch_eq {phase : Phase} {vec : Batch}
    (h : Pending b64 config phase vec batch pending) : phase.batch?.getD [] = batch := by
  cases h with
  | idle idle => rw [Worker.batch?_of_isIdle idle]; rfl
  | _ => rfl

/-- What the channel has accepted is what was disposed of and the backlog. -/
lemma Books.accepted_eq_backlog (h : Books b64 config w ds batch pending) :
    w.accepted = (ds.flatMap fun d => d.batch.contexts) ++ w.backlog := by
  rw [h.accepted_eq, Worker.backlog, h.sending.batch_eq, List.append_assoc]

/-- The contexts of the batches disposed of are counted. -/
lemma Books.length_eq_disposed (h : Books b64 config w ds batch pending) :
    (ds.flatMap fun d => d.batch.contexts).length = w.disposed := by
  rw [Worker.disposed, h.accepted_eq_backlog, List.length_append]
  omega

end Books

namespace Worker

variable {b64 : Base64} {config : Config} {w w' : Worker} {e : WorkerEvent}

/-! ### What holds of a worker whose channel has a sender -/

/-- What holds of a worker at any time, as long as its channel has a sender. -/
structure Orderly (b64 : Base64) (config : Config) (w : Worker) : Prop where
  accounts : Accounts b64 config w
  bounded : w.Bounded
  timed : w.Timed
  clean : w.Clean
  sender : w.channel.senderAlive = true

lemma orderly_start {channel : Mailbox TracingContext} (hempty : channel.queue = [])
    (hsender : channel.senderAlive = true) (clock : Instant) :
    (start channel clock).Orderly b64 config :=
  ⟨accounts_start hempty clock, bounded_start channel clock, timed_start channel clock,
    clean_start channel clock, hsender⟩

/-- Only the drop of the last sender takes the sender away. -/
lemma Step.senderAlive_eq (h : Step b64 config w e w') (he : e ≠ .dropSender) :
    w'.channel.senderAlive = w.channel.senderAlive := by
  cases h with
  | accept room =>
      obtain ⟨-, -, rfl⟩ := Mailbox.trySend_eq_ok.mp room
      rfl
  | dropSender => exact absurd rfl he
  | @connected resume phase => rw [channel_resume]
  | recv phase received =>
      rcases Mailbox.recv_cases received with ⟨a, -, -, heq⟩ | ⟨-, -, -, rfl⟩
      · rw [heq]
      · rfl
  | _ => rfl

theorem Orderly.step (h : w.Orderly b64 config) (he : e ≠ .dropSender)
    (hs : w.step b64 config e = some w') : w'.Orderly b64 config := by
  have hunspent : w.ReceivesUnspent e := fun _ hspent =>
    absurd (h.sender.symm.trans hspent.1) (by simp)
  exact ⟨h.accounts.step hs, h.bounded.step hs, h.timed.step hs, h.clean.step hunspent hs,
    ((step_cases hs).senderAlive_eq he).trans h.sender⟩

lemma Orderly.vec_of_flushed (h : w.Orderly b64 config) (phase : w.phase = .flushed) :
    w.vec = [] := by
  obtain ⟨ds, batch, pending, hbooks⟩ := h.accounts
  have hsending := hbooks.sending
  rw [phase] at hsending
  exact hsending.of_flushed.1

/-- The attempts for a batch are numbered below `RETRY_NUM`, and after the last one there is
no pause. -/
lemma Orderly.attempt_lt (h : w.Orderly b64 config) {i : ℕ} {batch : Batch} {since : Instant}
    (phase : w.phase = .pausing i batch since) : i + 1 < retryNum := by
  obtain ⟨ds, batch', pending, hbooks⟩ := h.accounts
  have hsending := hbooks.sending
  rw [phase] at hsending
  exact hsending.of_pausing.2.2.1

/-- A batch that is being sent holds a context. -/
lemma Orderly.contexts_ne_nil (h : w.Orderly b64 config) {batch : Batch}
    (sending : w.phase.batch? = some batch) : batch.contexts ≠ [] := by
  obtain ⟨hne, hsome⟩ := h.clean.batch batch sending
  cases batch with
  | nil => exact absurd rfl hne
  | cons entry batch =>
      cases entry with
      | none => exact absurd List.mem_cons_self hsome
      | some context => simp [Batch.contexts]

/-- A backlog that is neither in a batch nor in the queue is in the buffer. -/
lemma vec_ne_nil (hbatch : w.phase.batch? = none) (hqueue : w.channel.queue = [])
    (hbacklog : w.backlog ≠ []) : w.vec ≠ [] := by
  rintro hnil
  rw [backlog, hbatch, hnil, hqueue] at hbacklog
  exact hbacklog rfl

lemma Orderly.length_backlog_le (h : w.Orderly b64 config) :
    w.backlog.length ≤ w.accepted.length := by
  obtain ⟨ds, batch, pending, hbooks⟩ := h.accounts
  rw [hbooks.accepted_eq_backlog, List.length_append]
  exact Nat.le_add_left _ _

/-- With a batch, contexts are disposed of. -/
lemma Orderly.disposed_lt (h : w.Orderly b64 config) {batch : Batch}
    (sending : w.phase.batch? = some batch) (haccepted : w'.accepted = w.accepted)
    (hbacklog : w.backlog = batch.contexts ++ w'.backlog) : w.disposed < w'.disposed := by
  have hpos := List.length_pos_of_ne_nil (h.contexts_ne_nil sending)
  have hle := h.length_backlog_le
  rw [disposed, disposed, haccepted, hbacklog, List.length_append]
  rw [hbacklog, List.length_append] at hle
  omega

/-- What was disposed of stays disposed of. -/
lemma Orderly.disposed_cases (h : w.Orderly b64 config) (hs : w.step b64 config e = some w') :
    w.disposed < w'.disposed ∨ w'.disposed = w.disposed := by
  cases (step_cases hs).flow h.vec_of_flushed with
  | keep accepted backlog => exact Or.inr (by rw [disposed, disposed, accepted, backlog])
  | accept ctx accepted backlog =>
      refine Or.inr ?_
      rw [disposed, disposed, accepted, backlog, List.length_append, List.length_append,
        Nat.add_sub_add_right]
  | dispose batch sending accepted backlog => exact Or.inl (h.disposed_lt sending accepted backlog)

/-! ### What is left of a round -/

/-- It is time to flush the buffer. -/
def FlushDue (w : Worker) : Prop :=
  w.vec ≠ [] ∧ (asMillis (Instant.durationSince w.clock w.lastFlushTime) ≥ reportBucket
    ∨ w.vec.length > 500)

instance (w : Worker) : Decidable w.FlushDue := inferInstanceAs (Decidable (_ ∧ _))

/-- How many entries the buffer takes before it is flushed for its size. -/
def room (w : Worker) : ℕ := 501 - w.vec.length

/-- What is left to do until the batch that is being sent is disposed of, or else until the
buffer is flushed. -/
def effort (w : Worker) : ℕ :=
  match w.phase with
  | .returned _ _ true => 1
  | .pausing i _ _ => 4 * (retryNum - 1 - i) + 1
  | .returned i _ false => 4 * (retryNum - 1 - i) + 2
  | .retrieving (.retry i _) _ => 4 * (retryNum - 1 - i) + 3
  | .collecting i _ => 4 * (retryNum - 1 - i) + 4
  | .received => if w.FlushDue then 21 else 4 * w.room + 25
  | .receiving _ => 4 * w.room + 22
  | .retrieving .loop _ => 4 * w.room + 23
  | .loopHead => 4 * w.room + 24
  | .flushed => 4 * 501 + 25
  | .started => 4 * 501 + 26
  | .starting => 4 * 501 + 27
  | .retrieving .start _ => 4 * 501 + 28

/-- The task gets on: it does something, other than to look for a client in vain. -/
def Advances (w : Worker) (e : WorkerEvent) : Prop :=
  e.isOwn = true ∧ e ≠ .connect false
    ∧ (e = .wake → ∀ resume asleep, w.phase ≠ .retrieving resume asleep)


/-- With time a flush becomes due. -/
lemma effort_tick (w : Worker) (d : ℕ) : effort { w with clock := w.clock + d } ≤ w.effort := by
  have hdue : w.FlushDue → FlushDue { w with clock := w.clock + d } := by
    rintro ⟨hvec, due⟩
    refine ⟨hvec, due.imp_left fun hage => le_trans hage ?_⟩
    exact Nat.div_le_div_right (Nat.sub_le_sub_right (Nat.le_add_right _ _) _)
  cases phase : w.phase with
  | received =>
      simp only [effort, phase, room]
      split_ifs with due' due due
      · exact le_rfl
      · omega
      · exact absurd (hdue due) due'
      · exact le_rfl
  | retrieving resume asleep => cases resume <;> simp only [effort, phase, room, le_refl]
  | returned i batch status => cases status <;> simp only [effort, phase, le_refl]
  | _ => simp only [effort, phase, room, le_refl]

/-- Without a call of `loop_retrive_client` the effort is that of the phase it returns to. -/
lemma effort_resume (w : Worker) {resume : Resume} (phase : w.phase = .retrieving resume none) :
    (w.resume resume).effort < w.effort := by
  cases resume <;> simp [effort, phase, Worker.resume, room]

/-- **What an event leaves of the round**: while there is a backlog, contexts are disposed
of, or else no event raises the effort, and every event in which the task gets on lowers it;
only a receive may not time out while something is queued. -/
theorem Orderly.effort_step (h : w.Orderly b64 config) (hs : w.step b64 config e = some w')
    (hready : e = .timeout → w.channel.queue = []) (hbacklog : w.backlog ≠ []) :
    w.disposed < w'.disposed
      ∨ w'.disposed = w.disposed ∧ w'.effort ≤ w.effort
        ∧ (w.Advances e → w'.effort < w.effort) := by
  rcases h.disposed_cases hs with hlt | heq
  · exact Or.inl hlt
  have hlower : w'.effort < w.effort → w'.effort ≤ w.effort
      ∧ (w.Advances e → w'.effort < w.effort) := fun hlt => ⟨hlt.le, fun _ => hlt⟩
  refine Or.inr ⟨heq, ?_⟩
  cases step_cases hs with
  | tick => exact ⟨effort_tick w _, fun hadv => absurd hadv.1 (by simp [WorkerEvent.isOwn])⟩
  | accept room => exact ⟨le_rfl, fun hadv => absurd hadv.1 (by simp [WorkerEvent.isOwn])⟩
  | refuse refused => exact ⟨le_rfl, fun hadv => absurd hadv.1 (by simp [WorkerEvent.isOwn])⟩
  | dropSender => exact ⟨le_rfl, fun hadv => absurd hadv.1 (by simp [WorkerEvent.isOwn])⟩
  | connected phase => exact hlower (effort_resume w phase)
  | @notConnected resume phase =>
      refine ⟨?_, fun hadv => absurd rfl hadv.2.1⟩
      cases resume <;> simp [effort, phase, room]
  | @reconnect resume since phase slept =>
      refine ⟨?_, fun hadv => absurd phase (hadv.2.2 rfl resume (some since))⟩
      cases resume <;> simp [effort, phase, room]
  | @resend i batch since phase slept =>
      have hi := h.attempt_lt phase
      refine hlower ?_
      simp only [effort, phase]
      omega
  | @recv since ctx channel phase received =>
      have hvec := h.bounded.buffer (by rw [phase]; simp)
      refine hlower ?_
      simp only [effort, phase, room, List.length_append, List.length_singleton]
      split_ifs <;> omega
  | @timeout since phase elapsed =>
      -- the receive has waited since the last flush, and what is pending is in the buffer
      have hvec := vec_ne_nil (by rw [phase]; rfl) (hready rfl) hbacklog
      have due : FlushDue { w with phase := .received } := by
        refine ⟨hvec, Or.inl ?_⟩
        exact ((drained_of_timeout h.timed phase elapsed).resolve_left hvec).2
      refine hlower ?_
      simp only [effort, phase, if_pos due]
      omega
  | collected phase =>
      refine hlower ?_
      simp only [effort, phase]
      omega
  | failed phase transient =>
      refine hlower ?_
      simp only [effort, phase]
      omega
  | broken phase transient =>
      refine hlower ?_
      simp only [effort, phase]
      omega
  | starting phase =>
      refine hlower ?_
      simp only [effort, phase]
      omega
  | started phase =>
      refine hlower ?_
      simp only [effort, phase, room]
      omega
  | rotate phase due =>
      refine hlower ?_
      simp only [effort, phase, room]
      omega
  | receive phase notDue =>
      refine hlower ?_
      simp only [effort, phase, room]
      omega
  | skip phase notDue =>
      have notDue' : ¬ w.FlushDue := by
        rintro ⟨hvec, due⟩
        exact notDue.elim hvec fun notDue => notDue due
      refine hlower ?_
      simp only [effort, phase, if_neg notDue', room]
      omega
  | flush phase pending due =>
      refine hlower ?_
      have due' : w.FlushDue := ⟨pending, due⟩
      simp only [effort, phase, if_pos due', retryNum]
      omega
  | @succeed i batch phase =>
      refine absurd heq (ne_of_gt (h.disposed_lt (by rw [phase]; rfl) rfl ?_))
      simp [backlog, phase, Phase.batch?]
  | @backUp batch phase =>
      refine absurd heq (ne_of_gt (h.disposed_lt (by rw [phase]; rfl) rfl ?_))
      simp [backlog, phase, Phase.batch?]
  | pause phase more =>
      refine hlower ?_
      simp only [effort, phase]
      omega
  | flushed phase =>
      refine hlower ?_
      simp only [effort, phase, room]
      omega

/-! ### A scheduler -/

/-- What happens next if every call succeeds at once and the clock goes on whenever the task
sleeps. -/
def cooperate (w : Worker) : WorkerEvent :=
  match w.phase with
  | .retrieving _ none => .connect true
  | .retrieving _ (some since) =>
      if since + millis 1000 ≤ w.clock then .wake else .tick (since + millis 1000 - w.clock)
  | .receiving since =>
      if w.channel.queue ≠ [] then .recv
      else if since + millis reportBucket ≤ w.clock then .timeout
      else .tick (since + millis reportBucket - w.clock)
  | .collecting _ _ => .collected none
  | .pausing _ _ since =>
      if since + millis 500 ≤ w.clock then .wake else .tick (since + millis 500 - w.clock)
  | .starting | .started | .loopHead | .received | .returned _ _ _ | .flushed => .proceed

lemma exists_recv {channel : Mailbox TracingContext} (hne : channel.queue ≠ []) :
    ∃ ctx channel', channel.recv = some (some ctx, channel') := by
  cases hqueue : channel.queue with
  | nil => exact absurd hqueue hne
  | cons ctx rest => exact ⟨ctx, { channel with queue := rest }, by rw [Mailbox.recv, hqueue]⟩

/-- What the scheduler chooses can happen. -/
lemma exists_cooperate (b64 : Base64) (config : Config) (w : Worker) :
    ∃ w', w.step b64 config w.cooperate = some w' := by
  rw [cooperate]
  cases phase : w.phase with
  | retrieving resume asleep =>
      cases asleep with
      | none => exact ⟨_, by simp [step, phase]; rfl⟩
      | some since =>
          simp only
          split_ifs with slept
          · exact ⟨_, by simp [step, phase, slept]; rfl⟩
          · exact ⟨_, rfl⟩
  | receiving since =>
      simp only
      split_ifs with queued elapsed
      · obtain ⟨ctx, channel, hrecv⟩ := exists_recv queued
        exact ⟨_, by simp [step, phase, hrecv]; rfl⟩
      · exact ⟨_, by simp [step, phase, elapsed]; rfl⟩
      · exact ⟨_, rfl⟩
  | pausing i batch since =>
      simp only
      split_ifs with slept
      · exact ⟨_, by simp [step, phase, slept]; rfl⟩
      · exact ⟨_, rfl⟩
  | collecting i batch => exact ⟨_, by simp [step, phase]; rfl⟩
  | loopHead =>
      simp only [step, proceed, phase]
      split_ifs <;> exact ⟨_, rfl⟩
  | received =>
      simp only [step, proceed, phase]
      split_ifs <;> exact ⟨_, rfl⟩
  | returned i batch status =>
      simp only [step, proceed, phase]
      split_ifs <;> exact ⟨_, rfl⟩
  | starting => exact ⟨_, by simp [step, proceed, phase]; rfl⟩
  | started => exact ⟨_, by simp [step, proceed, phase]; rfl⟩
  | flushed => exact ⟨_, by simp [step, proceed, phase]; rfl⟩

/-- The scheduler lets the task do something at once, or after the clock has gone on. -/
lemma isOwn_cooperate (w : Worker) : w.cooperate.isOwn = true ∨ ∃ d, w.cooperate = .tick d
    ∧ (cooperate { w with clock := w.clock + d }).isOwn = true := by
  have hslept : ∀ since d clock : ℕ, ¬ since + d ≤ clock →
      since + d ≤ clock + (since + d - clock) := by omega
  rw [cooperate]
  cases phase : w.phase with
  | retrieving resume asleep =>
      cases asleep with
      | none => exact Or.inl rfl
      | some since =>
          simp only
          split_ifs with slept
          · exact Or.inl rfl
          · refine Or.inr ⟨_, rfl, ?_⟩
            simp only [cooperate, if_pos (hslept _ _ _ slept)]
            rfl
  | receiving since =>
      simp only
      split_ifs with queued elapsed
      · exact Or.inl rfl
      · exact Or.inl rfl
      · refine Or.inr ⟨_, rfl, ?_⟩
        simp only [cooperate, if_neg queued, if_pos (hslept _ _ _ elapsed)]
        rfl
  | pausing i batch since =>
      simp only
      split_ifs with slept
      · exact Or.inl rfl
      · refine Or.inr ⟨_, rfl, ?_⟩
        simp only [cooperate, if_pos (hslept _ _ _ slept)]
        rfl
  | _ => exact Or.inl rfl

/-- The scheduler leaves the senders alone. -/
lemma cooperate_cases (w : Worker) : w.cooperate.isOwn = true ∨ ∃ d, w.cooperate = .tick d := by
  rcases w.isOwn_cooperate with hown | ⟨d, htick, -⟩
  · exact Or.inl hown
  · exact Or.inr ⟨d, htick⟩

lemma cooperate_ne_trySend (w : Worker) (ctx : TracingContext) : w.cooperate ≠ .trySend ctx := by
  intro heq
  rcases w.cooperate_cases with hown | ⟨d, htick⟩
  · rw [heq] at hown
    cases hown
  · rw [heq] at htick
    cases htick

lemma cooperate_ne_dropSender (w : Worker) : w.cooperate ≠ .dropSender := by
  intro heq
  rcases w.cooperate_cases with hown | ⟨d, htick⟩
  · rw [heq] at hown
    cases hown
  · rw [heq] at htick
    cases htick

/-- Every attempt succeeds. -/
lemma cooperate_ne_failed (w : Worker) (code : Code) : w.cooperate ≠ .collected (some code) := by
  intro heq
  rw [cooperate] at heq
  cases phase : w.phase with
  | retrieving resume asleep =>
      cases asleep with
      | none =>
          rw [phase] at heq
          cases heq
      | some since =>
          simp only [phase] at heq
          split_ifs at heq
  | receiving since =>
      simp only [phase] at heq
      split_ifs at heq
  | pausing i batch since =>
      simp only [phase] at heq
      split_ifs at heq
  | _ =>
      rw [phase] at heq
      cases heq

/-- Only an empty queue lets a receive time out. -/
lemma queue_of_cooperate (w : Worker) (htimeout : w.cooperate = .timeout) :
    w.channel.queue = [] := by
  by_contra hqueue
  rw [cooperate] at htimeout
  cases phase : w.phase with
  | receiving since =>
      simp only [phase, if_pos hqueue] at htimeout
      cases htimeout
  | retrieving resume asleep =>
      cases asleep with
      | none =>
          rw [phase] at htimeout
          cases htimeout
      | some since =>
          simp only [phase] at htimeout
          split_ifs at htimeout
  | pausing i batch since =>
      simp only [phase] at htimeout
      split_ifs at htimeout
  | _ =>
      rw [phase] at htimeout
      cases htimeout

end Worker

end Skywalking
