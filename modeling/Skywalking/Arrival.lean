import Skywalking.Agent.Recovery
import Skywalking.Reporting

/-!
What becomes of every reported context in the end.

The task of the worker waits for the runtime, for the clock and for the collector. As long as
none of them lets it wait for ever, and each call of `loop_retrive_client` finds a client some
day, every context that the channel has accepted is acknowledged or written to the log.

* `Process.Fair`: what the worker needs from outside.
* `remaining`, `remaining_step`: the measure that falls until enough contexts are disposed of.
* `disposed_eventually`: **every accepted context leaves**, in every fair run.
* `acknowledged_eventually`: **every accepted context is acknowledged**, at the first attempt,
  while the collector answers.
* `Cooperates.fair`, `exists_cooperates`: a fair run goes on from any state, so that a process
  can always be drained (`can_drain`).
-/

namespace Skywalking

open RustStd Machine
open scoped List

namespace Worker

variable {b64 : Base64} {config : Config} {w w' : Worker} {e : WorkerEvent}

/-- What was accepted stays accepted. -/
lemma Step.accepted_grows (h : Step b64 config w e w') : w.accepted <+: w'.accepted := by
  cases h with
  | accept room => exact List.prefix_append _ _
  | connected phase => rw [accepted_resume]
  | _ => exact List.prefix_rfl

lemma retrieving_of_connect {ok : Bool} (hs : w.step b64 config (.connect ok) = some w') :
    ∃ resume asleep, w.phase = .retrieving resume asleep := by
  cases step_cases hs with
  | connected phase => exact ⟨_, _, phase⟩
  | notConnected phase => exact ⟨_, _, phase⟩

/-- A `try_send` leaves the worker with as much to do as before. -/
lemma trySend_same {ctx : TracingContext} (hs : w.step b64 config (.trySend ctx) = some w') :
    w'.disposed = w.disposed ∧ w'.effort = w.effort := by
  cases step_cases hs with
  | accept room =>
      obtain ⟨-, -, rfl⟩ := Mailbox.trySend_eq_ok.mp room
      refine ⟨?_, rfl⟩
      simp only [disposed, backlog, List.length_append, List.length_singleton]
      omega
  | refuse refused => exact ⟨rfl, rfl⟩

end Worker

namespace Process

variable {b64 : Base64} {reporter : Reporter} {p p' : Process} {e : ProcessEvent}

/-! ### What the worker needs from outside -/

/-- The receiver stays, the task of the worker is not left waiting for ever, a call of
`loop_retrive_client` finds a client in the end, and a receive times out only when nothing is
queued, as `timeout` polls the receive first. -/
structure Fair (r : Forever (Process.step b64 reporter)) : Prop where
  receiver : ∀ n, r.event n ≠ .dropReceiver
  runs : ∀ n, ∃ m ≥ n, ∃ we, r.event m = .worker we ∧ we.isOwn = true
  connects : ∀ n resume asleep, (r.state n).worker.phase = .retrieving resume asleep →
    ∃ m ≥ n, r.event m = .worker (.connect true)
  ready : ∀ n, r.event n = .worker .timeout → (r.state n).worker.channel.queue = []

/-- A fair run is fair from any state on. -/
lemma Fair.after {r : Forever (Process.step b64 reporter)} (fair : Fair r) (n : ℕ) :
    Fair (r.after n) where
  receiver k := fair.receiver (n + k)
  runs k := r.exists_after (fun e => ∃ we, e = .worker we ∧ we.isOwn = true) (fair.runs (n + k))
  connects k resume asleep hphase :=
    r.exists_after (· = .worker (.connect true)) (fair.connects (n + k) resume asleep hphase)
  ready k := fair.ready (n + k)

/-- An event of the worker is a step of it. -/
lemma worker_of_event {r : Forever (Process.step b64 reporter)} {n : ℕ} {we : WorkerEvent}
    (hevent : r.event n = .worker we) :
    (∀ ctx, we ≠ .trySend ctx)
      ∧ (r.state n).worker.step b64 reporter.workerConfig we = some (r.state (n + 1)).worker := by
  have hnext := r.next n
  rw [hevent] at hnext
  rcases worker_cases hnext (by simp) with ⟨we', he, -, hsend, hstep, -⟩ | ⟨hne, -⟩
  · obtain rfl := ProcessEvent.worker.inj he
    exact ⟨hsend, hstep⟩
  · exact absurd rfl (hne we)

/-- **In a fair run the worker gets on** time and again. -/
theorem Fair.advances {r : Forever (Process.step b64 reporter)} (fair : Fair r) (n : ℕ) :
    ∃ m ≥ n, ∃ we, r.event m = .worker we ∧ (r.state m).worker.Advances we := by
  obtain ⟨m, hm, we, hevent, hown⟩ := fair.runs n
  -- whoever looks for a client finds one later
  have hclient : ∀ resume asleep, (r.state m).worker.phase = .retrieving resume asleep →
      ∃ m ≥ n, ∃ we, r.event m = .worker we ∧ (r.state m).worker.Advances we := by
    intro resume asleep hphase
    obtain ⟨k, hk, hconnect⟩ := fair.connects m resume asleep hphase
    exact ⟨k, hm.trans hk, _, hconnect, rfl, by simp, by simp⟩
  by_cases hphase : ∃ resume asleep, (r.state m).worker.phase = .retrieving resume asleep
  · obtain ⟨resume, asleep, hphase⟩ := hphase
    exact hclient resume asleep hphase
  · refine ⟨m, hm, we, hevent, hown, ?_, fun _ resume asleep h => hphase ⟨resume, asleep, h⟩⟩
    rintro rfl
    exact hphase (Worker.retrieving_of_connect (worker_of_event hevent).2)

/-! ### What is left to do -/

/-- What is left to do until `count` contexts are disposed of. -/
def remaining (count : ℕ) (p : Process) : ℕ ×ₗ ℕ :=
  toLex (count - p.worker.disposed, p.worker.effort)

/-- **No event adds to what is left to do**, and every event in which the worker gets on takes
something off it. -/
theorem remaining_step {count : ℕ} (horderly : p.worker.Orderly b64 reporter.workerConfig)
    (haccepted : count ≤ p.worker.accepted.length) (hleft : ¬ count ≤ p.worker.disposed)
    (hs : p.step b64 reporter e = some p') (he : e ≠ .dropReceiver)
    (hready : e = .worker .timeout → p.worker.channel.queue = []) :
    remaining count p' ≤ remaining count p
      ∧ ∀ we, e = .worker we → p.worker.Advances we → remaining count p' < remaining count p := by
  rw [remaining, remaining, Prod.Lex.toLex_le_toLex, Prod.Lex.toLex_lt_toLex]
  rcases worker_cases hs he with ⟨we, rfl, -, -, hstep, -⟩ | ⟨hne, q, contexts, hq, -, rfl⟩
  · have hbacklog : p.worker.backlog ≠ [] := by
      intro hnil
      rw [Worker.disposed, hnil] at hleft
      exact hleft haccepted
    have hready' : we = .timeout → p.worker.channel.queue = [] := fun h => hready (by rw [h])
    rcases horderly.effort_step hstep hready' hbacklog with hlt | ⟨heq, hle, hlt⟩
    · have hless : count - p'.worker.disposed < count - p.worker.disposed := by omega
      exact ⟨Or.inl hless, fun _ _ _ => Or.inl hless⟩
    · refine ⟨Or.inr ⟨by rw [heq], hle⟩, fun we' hwe hadv => Or.inr ⟨by rw [heq], ?_⟩⟩
      obtain rfl := ProcessEvent.worker.inj hwe
      exact hlt hadv
  · have hsame : ∀ q : Process, (contexts.foldl handOver q).worker.disposed = q.worker.disposed
        ∧ (contexts.foldl handOver q).worker.effort = q.worker.effort := by
      clear hs hq
      induction contexts with
      | nil => exact fun q => ⟨rfl, rfl⟩
      | cons context contexts ih =>
          intro q
          obtain ⟨hdisposed, heffort⟩ := ih (q.handOver context)
          have hsend := Worker.trySend_same (@worker_handOver b64 q context reporter.workerConfig)
          exact ⟨hdisposed.trans hsend.1, heffort.trans hsend.2⟩
    obtain ⟨hdisposed, heffort⟩ := hsame q
    rw [hq] at hdisposed heffort
    exact ⟨Or.inr ⟨by rw [hdisposed], heffort.le⟩, fun we hwe => absurd hwe (hne we)⟩

/-! ### Every accepted context leaves -/

/-- In a fair run the worker stays in order. -/
lemma Fair.orderly {r : Forever (Process.step b64 reporter)} (fair : Fair r)
    (h₀ : (r.state 0).worker.Orderly b64 reporter.workerConfig) (n : ℕ) :
    (r.state n).worker.Orderly b64 reporter.workerConfig :=
  r.invariant (P := fun p => p.worker.Orderly b64 reporter.workerConfig) h₀
    (fun k h => worker_invariant_step (P := Worker.Orderly b64 reporter.workerConfig)
      (fun _ _ _ he h hs => h.step he hs) h (r.next k) (fair.receiver k)) n

/-- In a fair run what was accepted stays accepted. -/
lemma Fair.accepted_grows {r : Forever (Process.step b64 reporter)} (fair : Fair r) (n : ℕ) :
    (r.state 0).worker.accepted <+: (r.state n).worker.accepted :=
  r.invariant (P := fun p => (r.state 0).worker.accepted <+: p.worker.accepted) List.prefix_rfl
    (fun k h => worker_invariant_step (P := fun w => (r.state 0).worker.accepted <+: w.accepted)
      (fun _ _ _ _ h hs => h.trans (Worker.step_cases hs).accepted_grows) h (r.next k)
      (fair.receiver k)) n

/-- In a fair run as many contexts are disposed of as were accepted at the start. -/
lemma Fair.exists_disposed {r : Forever (Process.step b64 reporter)} (fair : Fair r)
    (h₀ : (r.state 0).worker.Orderly b64 reporter.workerConfig) :
    ∃ m, (r.state 0).worker.accepted.length ≤ (r.state m).worker.disposed := by
  let count := (r.state 0).worker.accepted.length
  have hstep : ∀ n, ¬ count ≤ (r.state n).worker.disposed →
      remaining count (r.state (n + 1)) ≤ remaining count (r.state n)
        ∧ ∀ we, r.event n = .worker we → (r.state n).worker.Advances we →
          remaining count (r.state (n + 1)) < remaining count (r.state n) := fun n hleft =>
    remaining_step (fair.orderly h₀ n) (fair.accepted_grows n).length_le hleft (r.next n)
      (fair.receiver n) (fair.ready n)
  refine r.eventually (P := fun p => count ≤ p.worker.disposed) (μ := remaining count)
    (fun n hleft => Or.inr (hstep n hleft).1) (fun n => ?_)
  obtain ⟨m, hm, we, hevent, hadv⟩ := fair.advances n
  exact ⟨m, hm, fun hleft => Or.inr ((hstep m hleft).2 we hevent hadv)⟩

/-- What was accepted at some time of a fair run is later among what was disposed of. -/
lemma Fair.exists_settled {r : Forever (Process.step b64 reporter)} (fair : Fair r)
    (h₀ : (r.state 0).worker.Orderly b64 reporter.workerConfig) (n : ℕ) :
    ∃ m ≥ n, ∀ ds batch pending,
      Books b64 reporter.workerConfig (r.state m).worker ds batch pending →
        (r.state n).worker.accepted <+: (ds.flatMap fun d => d.batch.contexts) := by
  obtain ⟨k, hk⟩ := (fair.after n).exists_disposed (fair.orderly h₀ n)
  refine ⟨n + k, Nat.le_add_right n k, fun ds batch pending hbooks => ?_⟩
  have hgrows := (fair.after n).accepted_grows k
  rw [Forever.state_after, Forever.state_after, hbooks.accepted_eq_backlog] at hgrows
  refine List.prefix_of_prefix_length_le hgrows (List.prefix_append _ _) ?_
  rw [hbooks.length_eq_disposed]
  exact hk

/-- At any time of a fair run what was reported was accepted or refused. -/
lemma Fair.reported_perm {clock : Instant} {es : List ProcessEvent}
    {r : Forever (Process.step b64 reporter)} (fair : Fair r)
    (hempty : reporter.channel.queue = [])
    (hrun : run (Process.step b64 reporter) (start reporter clock) es = some (r.state 0))
    (hes : .dropReceiver ∉ es) (n : ℕ) :
    ((r.state n).scopes.flatMap Scope.reported).Perm
      ((r.state n).worker.accepted ++ (r.state n).refusals) := by
  have hupTo : .dropReceiver ∉ es ++ r.upTo n := by
    intro hmem
    rcases List.mem_append.mp hmem with hmem | hmem
    · exact hes hmem
    · obtain ⟨i, -, hi⟩ := List.mem_map.mp hmem
      exact fair.receiver i hi
  exact Process.reported_perm hempty
    (run_append_eq_some.mpr ⟨_, hrun, r.run_upTo n⟩) hupTo

/-- **Every accepted context leaves**: in every fair run of a process, whatever its scopes have
reported at some time was refused by the full channel, or is later found among the contexts of
the batches that were acknowledged or written to the log, in the order of acceptance. -/
theorem disposed_eventually {clock : Instant} {es : List ProcessEvent}
    {r : Forever (Process.step b64 reporter)} (fair : Fair r)
    (hempty : reporter.channel.queue = []) (hsender : reporter.channel.senderAlive = true)
    (hrun : run (Process.step b64 reporter) (start reporter clock) es = some (r.state 0))
    (hes : .dropReceiver ∉ es) (n : ℕ) :
    ∃ m ≥ n, ∃ ds batch pending settled,
      Books b64 reporter.workerConfig (r.state m).worker ds batch pending
        ∧ settled <+: (ds.flatMap fun d => d.batch.contexts)
        ∧ ((r.state n).scopes.flatMap Scope.reported).Perm (settled ++ (r.state n).refusals) := by
  have horderly := orderly_of_run hempty hsender hrun hes
  obtain ⟨m, hm, hsettled⟩ := fair.exists_settled horderly n
  obtain ⟨ds, batch, pending, hbooks⟩ := (fair.orderly horderly m).accounts
  exact ⟨m, hm, ds, batch, pending, (r.state n).worker.accepted, hbooks,
    hsettled ds batch pending hbooks, fair.reported_perm hempty hrun hes n⟩

/-! ### A collector that answers -/

/-- No attempt of the worker fails. -/
def Answers (r : Forever (Process.step b64 reporter)) : Prop :=
  ∀ n code, r.event n ≠ .worker (.collected (some code))

/-- What the worker sees of an event is the event itself, or contexts that are handed over. -/
lemma worker_run_of_step (hs : p.step b64 reporter e = some p') (he : e ≠ .dropReceiver) :
    ∃ wes, run (Worker.step b64 reporter.workerConfig) p.worker wes = some p'.worker
      ∧ ∀ we ∈ wes, e = .worker we ∨ ∃ ctx, we = .trySend ctx := by
  rcases worker_cases hs he with ⟨we, rfl, -, -, hstep, -⟩ | ⟨-, q, contexts, hworker, -, rfl⟩
  · refine ⟨[we], by rw [run_cons, hstep]; rfl, fun we' hwe => ?_⟩
    exact Or.inl (by rw [List.mem_singleton.mp hwe])
  · rw [← hworker]
    refine ⟨_, worker_foldl_handOver contexts q _, fun we hwe => ?_⟩
    obtain ⟨ctx, -, rfl⟩ := List.mem_map.mp hwe
    exact Or.inr ⟨ctx, rfl⟩

/-- The worker makes a run of its own in which no attempt fails. -/
lemma Fair.answered_run {r : Forever (Process.step b64 reporter)} (fair : Fair r)
    (answers : Answers r) (n : ℕ) :
    ∃ wes, run (Worker.step b64 reporter.workerConfig) (r.state 0).worker wes
        = some (r.state n).worker ∧ Answered wes := by
  refine r.invariant (P := fun p => ∃ wes, run (Worker.step b64 reporter.workerConfig)
    (r.state 0).worker wes = some p.worker ∧ Answered wes) ⟨[], rfl, by simp [Answered]⟩
    (fun k h => ?_) n
  obtain ⟨wes, hrun, hwes⟩ := h
  obtain ⟨more, hmore, hcases⟩ := worker_run_of_step (r.next k) (fair.receiver k)
  refine ⟨wes ++ more, run_append_eq_some.mpr ⟨_, hrun, hmore⟩, fun code hmem => ?_⟩
  rcases List.mem_append.mp hmem with hmem | hmem
  · exact hwes code hmem
  · rcases hcases _ hmem with hevent | ⟨ctx, hsend⟩
    · exact answers k code hevent
    · cases hsend

/-- **While the collector answers, every accepted context is acknowledged**: in every fair run in
which no attempt fails, whatever was disposed of before, what the scopes have reported at some time
was refused by the full channel, or is later found among the contexts of the batches disposed of.
Of these, all batches that the run has added were acknowledged at the first attempt, but for the
one that was being sent at the beginning if an attempt for it had failed. -/
theorem acknowledged_eventually {clock : Instant} {es : List ProcessEvent}
    {r : Forever (Process.step b64 reporter)} (fair : Fair r) (answers : Answers r)
    (hempty : reporter.channel.queue = []) (hsender : reporter.channel.senderAlive = true)
    (hrun : run (Process.step b64 reporter) (start reporter clock) es = some (r.state 0))
    (hes : .dropReceiver ∉ es) {before : List Disposal} {batch : Batch} {pending : List Effect}
    (hbefore : Books b64 reporter.workerConfig (r.state 0).worker before batch pending) (n : ℕ) :
    ∃ m ≥ n, ∃ new batch' pending' settled,
      Books b64 reporter.workerConfig (r.state m).worker (before ++ new) batch' pending'
        ∧ (∀ d ∈ new.tail, d.AtOnce) ∧ (pending = [] → ∀ d ∈ new, d.AtOnce)
        ∧ settled <+: ((before ++ new).flatMap fun d => d.batch.contexts)
        ∧ ((r.state n).scopes.flatMap Scope.reported).Perm (settled ++ (r.state n).refusals) := by
  obtain ⟨m, hm, hsettled⟩ :=
    fair.exists_settled (orderly_of_run hempty hsender hrun hes) n
  obtain ⟨wes, hwes, hanswered⟩ := fair.answered_run answers m
  obtain ⟨new, batch', pending', hbooks, htail, hall⟩ := hbefore.of_answered_run hwes hanswered
  exact ⟨m, hm, new, batch', pending', (r.state n).worker.accepted, hbooks, htail, hall,
    hsettled _ _ _ hbooks, fair.reported_perm hempty hrun hes n⟩

/-! ### A process can be drained -/

/-- Nothing happens but what the scheduler of the worker chooses. -/
def Cooperates (r : Forever (Process.step b64 reporter)) : Prop :=
  ∀ n, r.event n = .worker (r.state n).worker.cooperate

section Cooperates

variable {r : Forever (Process.step b64 reporter)} (h : Cooperates r)
include h

/-- Where the scheduler lets the clock go on, nothing but the clock changes. -/
lemma Cooperates.worker_of_tick {n d : ℕ} (htick : (r.state n).worker.cooperate = .tick d) :
    (r.state (n + 1)).worker
      = { (r.state n).worker with clock := (r.state n).worker.clock + d } := by
  have hstep := (worker_of_event (h n)).2
  rw [htick] at hstep
  exact (Option.some.inj hstep).symm

/-- A worker that is awake in `loop_retrive_client` connects. -/
lemma Cooperates.connects_of_awake {n : ℕ} (resume : Resume)
    (hphase : (r.state n).worker.phase = .retrieving resume none) :
    r.event n = .worker (.connect true) := by
  rw [h n, Worker.cooperate, hphase]

/-- A worker whose sleep in `loop_retrive_client` is over connects after it. -/
lemma Cooperates.connects_of_slept {n : ℕ} (resume : Resume) (since : Instant)
    (hphase : (r.state n).worker.phase = .retrieving resume (some since))
    (slept : since + Worker.millis 1000 ≤ (r.state n).worker.clock) :
    r.event (n + 1) = .worker (.connect true) := by
  have hwake : (r.state n).worker.cooperate = .wake := by
    rw [Worker.cooperate, hphase]
    exact if_pos slept
  have hstep := (worker_of_event (h n)).2
  rw [hwake, Worker.step, hphase] at hstep
  simp only [if_pos slept] at hstep
  refine h.connects_of_awake resume ?_
  rw [← Option.some.inj hstep]

/-- **The scheduler is fair**. -/
theorem Cooperates.fair : Fair r := by
  refine ⟨fun n => by rw [h n]; simp, fun n => ?_, fun n resume asleep hphase => ?_,
    fun n htimeout => ?_⟩
  · rcases (r.state n).worker.isOwn_cooperate with hown | ⟨d, htick, hown⟩
    · exact ⟨n, le_rfl, _, h n, hown⟩
    · refine ⟨n + 1, Nat.le_succ n, _, h (n + 1), ?_⟩
      rw [h.worker_of_tick htick]
      exact hown
  · cases asleep with
    | none => exact ⟨n, le_rfl, h.connects_of_awake resume hphase⟩
    | some since =>
        by_cases slept : since + Worker.millis 1000 ≤ (r.state n).worker.clock
        · exact ⟨n + 1, Nat.le_succ n, h.connects_of_slept resume since hphase slept⟩
        · have htick : (r.state n).worker.cooperate
              = .tick (since + Worker.millis 1000 - (r.state n).worker.clock) := by
            rw [Worker.cooperate, hphase]
            exact if_neg slept
          have hworker := h.worker_of_tick htick
          refine ⟨n + 1 + 1, by omega, h.connects_of_slept resume since ?_ ?_⟩
          · rw [hworker]
            exact hphase
          · rw [hworker]
            have hwait : ∀ a b : ℕ, a ≤ b + (a - b) := by omega
            exact hwait _ _
  · rw [h n] at htimeout
    exact (r.state n).worker.queue_of_cooperate (ProcessEvent.worker.inj htimeout)

/-- The scheduler lets every attempt succeed. -/
lemma Cooperates.answers : Answers r := by
  intro n code hevent
  rw [h n] at hevent
  exact (r.state n).worker.cooperate_ne_failed code (ProcessEvent.worker.inj hevent)

end Cooperates

/-- What the scheduler of the worker chooses can happen in a process with a receiver. -/
lemma exists_cooperate (halive : reporter.channel.receiverAlive = true)
    (h : p.worker.Housed reporter.channel) : ∃ p',
      p.step b64 reporter (.worker p.worker.cooperate) = some p'
        ∧ p'.worker.Housed reporter.channel := by
  obtain ⟨w, hw⟩ := Worker.exists_cooperate b64 reporter.workerConfig p.worker
  have hreceiver : p.worker.channel.receiverAlive = true := h.receiver.trans halive
  refine ⟨{ p with worker := w }, ?_, h.step hw⟩
  cases hchoice : p.worker.cooperate with
  | trySend ctx => exact absurd hchoice (p.worker.cooperate_ne_trySend ctx)
  | dropSender => exact absurd hchoice p.worker.cooperate_ne_dropSender
  | _ =>
      rw [hchoice] at hw
      rw [Process.step]
      · rw [if_pos hreceiver, hw]
        rfl
      · simp
      · simp

/-- From every state the scheduler makes an infinite run. -/
lemma exists_cooperates (b64 : Base64) (halive : reporter.channel.receiverAlive = true)
    (h : p.worker.Housed reporter.channel) :
    ∃ r : Forever (Process.step b64 reporter), r.state 0 = p ∧ Cooperates r :=
  ⟨Forever.follow (fun p => .worker p.worker.cooperate) (fun _ => exists_cooperate halive) h,
    Forever.follow_zero, Forever.follow_event⟩

/-- **A process can be drained**: from every state of a run without a drop of the receiver, the
worker alone can go on to a state in which every context that the scopes have reported was
disposed of, or was refused by the full channel. -/
theorem can_drain {clock : Instant} {es : List ProcessEvent}
    (hempty : reporter.channel.queue = []) (hsender : reporter.channel.senderAlive = true)
    (halive : reporter.channel.receiverAlive = true)
    (hrun : run (Process.step b64 reporter) (start reporter clock) es = some p)
    (hes : .dropReceiver ∉ es) :
    ∃ (wes : List WorkerEvent) (p' : Process),
      run (Process.step b64 reporter) p (wes.map ProcessEvent.worker) = some p'
      ∧ ∃ ds batch pending, Books b64 reporter.workerConfig p'.worker ds batch pending
        ∧ (p.scopes.flatMap Scope.reported).Perm
          ((ds.flatMap fun d => d.batch.contexts) ++ p.refusals) := by
  obtain ⟨r, rfl, hcooperates⟩ := exists_cooperates b64 halive (housed_of_run hempty hrun hes)
  have fair := hcooperates.fair
  have horderly := fair.orderly (orderly_of_run hempty hsender hrun hes)
  obtain ⟨m, hm⟩ := fair.exists_disposed (horderly 0)
  obtain ⟨ds, batch, pending, hbooks⟩ := (horderly m).accounts
  have hsame : (r.state m).worker.accepted = (r.state 0).worker.accepted := by
    refine r.invariant (P := fun p => p.worker.accepted = (r.state 0).worker.accepted) rfl
      (fun k hk => ?_) m
    obtain ⟨hsend, hstep⟩ := worker_of_event (hcooperates k)
    exact ((Worker.step_cases hstep).accepted_eq hsend).trans hk
  have hall : (ds.flatMap fun d => d.batch.contexts) = (r.state 0).worker.accepted := by
    have haccepted := hbooks.accepted_eq_backlog
    rw [← hbooks.length_eq_disposed, ← hsame, haccepted, List.length_append] at hm
    have hnil : (r.state m).worker.backlog = [] := List.length_eq_zero_iff.mp (by omega)
    rw [← hsame, haccepted, hnil, List.append_nil]
  refine ⟨(List.range m).map fun n => (r.state n).worker.cooperate, r.state m, ?_, ds, batch,
    pending, hbooks, ?_⟩
  · have hevents : r.upTo m
        = ((List.range m).map fun n => (r.state n).worker.cooperate).map ProcessEvent.worker := by
      rw [Forever.upTo, List.map_map]
      exact List.map_congr_left fun n _ => hcooperates n
    rw [← hevents]
    exact r.run_upTo m
  · rw [hall]
    exact reported_perm hempty hrun hes

end Process

/-- One scope has reported its context, and from then on every call succeeds at once. -/
theorem Process.disposed_eventually_demo : ∃ r : Forever (Process.step .standard .demo),
    run (Process.step .standard .demo) (Process.start .demo 0) (rounds 1) = some (r.state 0)
      ∧ (r.state 0).scopes.flatMap Scope.reported ≠ []
      ∧ ∃ m ≥ 0, ∃ ds batch pending settled,
        Books .standard Reporter.demo.workerConfig (r.state m).worker ds batch pending
          ∧ settled <+: (ds.flatMap fun d => d.batch.contexts)
          ∧ ((r.state 0).scopes.flatMap Scope.reported).Perm
            (settled ++ (r.state 0).refusals) := by
  obtain ⟨p, hrun, hreported⟩ : ∃ p, run (Process.step .standard .demo) (Process.start .demo 0)
    (rounds 1) = some p ∧ p.scopes.flatMap Scope.reported ≠ [] := ⟨_, rfl, by decide +kernel⟩
  have hes : ProcessEvent.dropReceiver ∉ rounds 1 := by simp [rounds, round]
  obtain ⟨r, rfl, hcooperates⟩ :=
    Process.exists_cooperates .standard rfl (Process.housed_of_run rfl hrun hes)
  exact ⟨r, hrun, hreported,
    Process.disposed_eventually hcooperates.fair rfl rfl hrun hes 0⟩

/-- The same, with nothing disposed of before. -/
theorem Process.acknowledged_eventually_demo : ∃ r : Forever (Process.step .standard .demo),
    run (Process.step .standard .demo) (Process.start .demo 0) (rounds 1) = some (r.state 0)
      ∧ (r.state 0).scopes.flatMap Scope.reported ≠ []
      ∧ ∃ m ≥ 0, ∃ new batch' pending' settled,
        Books .standard Reporter.demo.workerConfig (r.state m).worker ([] ++ new) batch' pending'
          ∧ (∀ d ∈ new.tail, d.AtOnce) ∧ (([] : List Effect) = [] → ∀ d ∈ new, d.AtOnce)
          ∧ settled <+: (([] ++ new).flatMap fun d => d.batch.contexts)
          ∧ ((r.state 0).scopes.flatMap Scope.reported).Perm
            (settled ++ (r.state 0).refusals) := by
  obtain ⟨p, hrun, hreported, hphase, heffects, haccepted⟩ : ∃ p,
      run (Process.step .standard .demo) (Process.start .demo 0) (rounds 1) = some p
        ∧ p.scopes.flatMap Scope.reported ≠ [] ∧ p.worker.phase.isIdle = true
        ∧ p.worker.effects = []
        ∧ p.worker.accepted = Batch.contexts p.worker.vec ++ p.worker.channel.queue :=
    ⟨_, rfl, by decide +kernel, rfl, rfl, rfl⟩
  have hes : ProcessEvent.dropReceiver ∉ rounds 1 := by simp [rounds, round]
  obtain ⟨r, rfl, hcooperates⟩ :=
    Process.exists_cooperates .standard rfl (Process.housed_of_run rfl hrun hes)
  have hbefore : Books .standard Reporter.demo.workerConfig (r.state 0).worker [] [] [] :=
    ⟨.idle hphase, heffects, haccepted⟩
  exact ⟨r, hrun, hreported, Process.acknowledged_eventually hcooperates.fair
    hcooperates.answers rfl rfl hrun hes hbefore 0⟩

theorem Process.can_drain_demo : ∃ p,
    run (Process.step .standard .demo) (Process.start .demo 0) (rounds 1) = some p
      ∧ ∃ (wes : List WorkerEvent) (p' : Process),
        run (Process.step .standard .demo) p (wes.map ProcessEvent.worker) = some p'
          ∧ ∃ ds batch pending,
            Books .standard Reporter.demo.workerConfig p'.worker ds batch pending
              ∧ (p.scopes.flatMap Scope.reported).Perm
                ((ds.flatMap fun d => d.batch.contexts) ++ p.refusals) := by
  obtain ⟨p, hrun⟩ : ∃ p, run (Process.step .standard .demo) (Process.start .demo 0)
    (rounds 1) = some p := ⟨_, rfl⟩
  exact ⟨p, hrun, Process.can_drain rfl rfl rfl hrun (by simp [rounds, round])⟩

end Skywalking
