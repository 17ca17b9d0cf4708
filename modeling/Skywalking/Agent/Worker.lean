import Skywalking.Agent.Reporter
import Skywalking.Machine.Run

/-!
The worker task of `agent/reporter.rs`: the loop in `Reporter::new` with
`retry_send_skw`, `send_to_grpc_trace_service` and `loop_retrive_client`, as a machine.

A `Phase` is a place where the task waits for something, or a piece of code it runs
without waiting. Everything that comes from outside is an event: the contexts that arrive,
the time that passes, the outcomes of connecting and of collecting.

* `Worker.step`, `Worker.start`: the machine.
* `Worker.Step`, `step_cases`: what one event can do. Every invariant of the worker is
  read off these cases.
-/

namespace Skywalking

open RustStd Machine

/-- `tonic::Code`. -/
inductive Code where
  | ok | cancelled | unknown | invalidArgument | deadlineExceeded | notFound | alreadyExists
  | permissionDenied | resourceExhausted | failedPrecondition | aborted | outOfRange
  | unimplemented | internal | unavailable | dataLoss | unauthenticated
  deriving DecidableEq, Repr

/-- The codes after which `send_to_grpc_trace_service` keeps its client. -/
def Code.isTransient : Code → Bool
  | .deadlineExceeded | .resourceExhausted | .unavailable => true
  | _ => false

/-- A `Vec<Option<Box<TracingContext>>>`. -/
abbrev Batch := List (Option TracingContext)

/-- Where a call of `loop_retrive_client` returns to. -/
inductive Resume where
  /-- The start of the task. -/
  | start
  /-- The reconnection at the head of the worker loop. -/
  | loop
  /-- The attempt `i` of `retry_send_skw`, whose call failed. -/
  | retry (i : ℕ) (batch : Batch)
  deriving DecidableEq, Repr

/-- What the worker is doing. -/
inductive Phase where
  /-- In `loop_retrive_client`: connecting, or asleep for a second since the instant. -/
  | retrieving (resume : Resume) (asleep : Option Instant)
  /-- Before `last_flush_time` is initialized. -/
  | starting
  /-- Before `last_reconnect_time` is initialized. -/
  | started
  /-- At the head of the worker loop. -/
  | loopHead
  /-- In `timeout(REPORT_BUCKET, receiver.recv())`, begun at the instant. -/
  | receiving (since : Instant)
  /-- After it. -/
  | received
  /-- In `client.collect`, at the attempt `i` for the batch. -/
  | collecting (i : ℕ) (batch : Batch)
  /-- Back in `retry_send_skw`, with the status of the attempt `i`. -/
  | returned (i : ℕ) (batch : Batch) (status : Bool)
  /-- Asleep for half a second after the attempt `i`, since the instant. -/
  | pausing (i : ℕ) (batch : Batch) (since : Instant)
  /-- After `retry_send_skw`. -/
  | flushed
  deriving DecidableEq, Repr

/-- What the worker does to the outside. -/
inductive Effect where
  /-- A call of `client.collect`, and the code of its error if it failed. -/
  | collect (segments : List SegmentObject) (error : Option Code)
  /-- A line in the log. -/
  | log (record : LogRecord)
  deriving DecidableEq, Repr

/-- The worker task and its channel, with the contexts that the channel has accepted and
the effects so far. -/
structure Worker where
  channel : Mailbox TracingContext
  clock : Instant
  phase : Phase
  vec : Batch
  lastFlushTime : Instant
  lastReconnectTime : Instant
  accepted : List TracingContext
  effects : List Effect

/-- What can happen to the worker. -/
inductive WorkerEvent where
  /-- Nanoseconds pass. -/
  | tick (d : ℕ)
  /-- A sender makes a `try_send`. -/
  | trySend (ctx : TracingContext)
  /-- The last sender is dropped. -/
  | dropSender
  /-- `retrieve_client` returns a client, or an error. -/
  | connect (ok : Bool)
  /-- A sleep ends. -/
  | wake
  /-- `receiver.recv()` completes in time. -/
  | recv
  /-- The timeout of the receive elapses. -/
  | timeout
  /-- `client.collect` completes, with the code of its error if it failed. -/
  | collected (error : Option Code)
  /-- The worker runs up to the next place where it waits or looks at the clock. -/
  | proceed
  deriving DecidableEq, Repr

namespace Worker

/-- `REPORT_BUCKET`, in milliseconds. -/
def reportBucket : ℕ := 500

/-- `RECONNECT_SECES`. -/
def reconnectSeces : ℕ := 30

/-- `RETRY_NUM`. -/
def retryNum : ℕ := 5

/-- Milliseconds as nanoseconds. -/
def millis (n : ℕ) : ℕ := n * 1000000

/-- The task as `Reporter::new` spawns it. -/
def start (channel : Mailbox TracingContext) (clock : Instant) : Worker where
  channel := channel
  clock := clock
  phase := .retrieving .start none
  vec := []
  lastFlushTime := 0
  lastReconnectTime := 0
  accepted := []
  effects := []

/-- The return of `loop_retrive_client`. -/
def resume (w : Worker) : Resume → Worker
  | .start => { w with phase := .starting }
  | .loop => { w with phase := .receiving w.clock }
  | .retry i batch => { w with phase := .returned i batch false }

/-- The code that runs without waiting. -/
def proceed (b64 : Base64) (config : Config) (w : Worker) : Option Worker :=
  match w.phase with
  | .starting => some { w with lastFlushTime := w.clock, phase := .started }
  | .started => some { w with lastReconnectTime := w.clock, phase := .loopHead }
  | .loopHead =>
      if asSecs (Instant.durationSince w.clock w.lastReconnectTime) ≥ reconnectSeces then
        some { w with lastReconnectTime := w.clock, phase := .retrieving .loop none }
      else some { w with phase := .receiving w.clock }
  | .received =>
      if w.vec.isEmpty then some { w with phase := .loopHead }
      else if asMillis (Instant.durationSince w.clock w.lastFlushTime) ≥ reportBucket
          ∨ w.vec.length > 500 then
        -- `vec` is moved into `retry_send_skw`
        some { w with vec := [], phase := .collecting 0 w.vec }
      else some { w with phase := .loopHead }
  | .returned i batch status =>
      if status then some { w with phase := .flushed }
      else if i = retryNum - 1 then
        some { w with
          effects := w.effects ++
            [.log (.segmentsBackup (Reporter.transformSegments b64 config batch))]
          phase := .flushed }
      else some { w with phase := .pausing i batch w.clock }
  | .flushed => some { w with lastFlushTime := w.clock, vec := [], phase := .loopHead }
  | _ => none

/-- One event: `none` where it cannot happen. -/
def step (b64 : Base64) (config : Config) (w : Worker) : WorkerEvent → Option Worker
  | .tick d => some { w with clock := w.clock + d }
  | .trySend ctx =>
      match w.channel.trySend ctx with
      | .ok channel => some { w with channel := channel, accepted := w.accepted ++ [ctx] }
      | .error _ => some w
  | .dropSender => some { w with channel := { w.channel with senderAlive := false } }
  | .connect ok =>
      match w.phase with
      | .retrieving resume none =>
          if ok then some (w.resume resume)
          else some { w with phase := .retrieving resume (some w.clock) }
      | _ => none
  | .wake =>
      match w.phase with
      | .retrieving resume (some since) =>
          if since + millis 1000 ≤ w.clock then some { w with phase := .retrieving resume none }
          else none
      | .pausing i batch since =>
          if since + millis 500 ≤ w.clock then some { w with phase := .collecting (i + 1) batch }
          else none
      | _ => none
  | .recv =>
      match w.phase with
      | .receiving _ => do
          let (ctx, channel) ← w.channel.recv
          return { w with channel := channel, vec := w.vec ++ [ctx], phase := .received }
      | _ => none
  | .timeout =>
      match w.phase with
      | .receiving since =>
          if since + millis reportBucket ≤ w.clock then some { w with phase := .received }
          else none
      | _ => none
  | .collected error =>
      match w.phase with
      | .collecting i batch =>
          let effect := Effect.collect (Reporter.transformSegments b64 config batch) error
          let w := { w with effects := w.effects ++ [effect] }
          match error with
          | none => some { w with phase := .returned i batch true }
          | some code =>
              if code.isTransient then some { w with phase := .returned i batch false }
              else some { w with phase := .retrieving (.retry i batch) none }
      | _ => none
  | .proceed => w.proceed b64 config

/-! ### What an event does -/

/-- What one event does to the worker. -/
inductive Step (b64 : Base64) (config : Config) (w : Worker) : WorkerEvent → Worker → Prop
  | tick {d : ℕ} : Step b64 config w (.tick d) { w with clock := w.clock + d }
  /-- The channel accepts a context. -/
  | accept {ctx : TracingContext} {channel : Mailbox TracingContext}
      (room : w.channel.trySend ctx = .ok channel) :
      Step b64 config w (.trySend ctx)
        { w with channel := channel, accepted := w.accepted ++ [ctx] }
  /-- The channel refuses a context. -/
  | refuse {ctx : TracingContext} {e : TrySendError TracingContext}
      (refused : w.channel.trySend ctx = .error e) : Step b64 config w (.trySend ctx) w
  | dropSender :
      Step b64 config w .dropSender { w with channel := { w.channel with senderAlive := false } }
  /-- There is a client. -/
  | connected {resume : Resume} (phase : w.phase = .retrieving resume none) :
      Step b64 config w (.connect true) (w.resume resume)
  /-- There is no client, and the task falls asleep. -/
  | notConnected {resume : Resume} (phase : w.phase = .retrieving resume none) :
      Step b64 config w (.connect false) { w with phase := .retrieving resume (some w.clock) }
  | reconnect {resume : Resume} {since : Instant}
      (phase : w.phase = .retrieving resume (some since)) (slept : since + millis 1000 ≤ w.clock) :
      Step b64 config w .wake { w with phase := .retrieving resume none }
  | resend {i : ℕ} {batch : Batch} {since : Instant} (phase : w.phase = .pausing i batch since)
      (slept : since + millis 500 ≤ w.clock) :
      Step b64 config w .wake { w with phase := .collecting (i + 1) batch }
  /-- The receive completes, with the oldest context or with `None`. -/
  | recv {since : Instant} {ctx : Option TracingContext} {channel : Mailbox TracingContext}
      (phase : w.phase = .receiving since) (received : w.channel.recv = some (ctx, channel)) :
      Step b64 config w .recv
        { w with channel := channel, vec := w.vec ++ [ctx], phase := .received }
  | timeout {since : Instant} (phase : w.phase = .receiving since)
      (elapsed : since + millis reportBucket ≤ w.clock) :
      Step b64 config w .timeout { w with phase := .received }
  /-- The batch is acknowledged. -/
  | collected {i : ℕ} {batch : Batch} (phase : w.phase = .collecting i batch) :
      Step b64 config w (.collected none)
        { w with
          effects := w.effects
            ++ [.collect (Reporter.transformSegments b64 config batch) none]
          phase := .returned i batch true }
  /-- The attempt fails, and the client is kept. -/
  | failed {i : ℕ} {batch : Batch} {code : Code} (phase : w.phase = .collecting i batch)
      (transient : code.isTransient = true) :
      Step b64 config w (.collected (some code))
        { w with
          effects := w.effects
            ++ [.collect (Reporter.transformSegments b64 config batch) (some code)]
          phase := .returned i batch false }
  /-- The attempt fails, and a new client is looked for. -/
  | broken {i : ℕ} {batch : Batch} {code : Code} (phase : w.phase = .collecting i batch)
      (transient : code.isTransient = false) :
      Step b64 config w (.collected (some code))
        { w with
          effects := w.effects
            ++ [.collect (Reporter.transformSegments b64 config batch) (some code)]
          phase := .retrieving (.retry i batch) none }
  | starting (phase : w.phase = .starting) :
      Step b64 config w .proceed { w with lastFlushTime := w.clock, phase := .started }
  | started (phase : w.phase = .started) :
      Step b64 config w .proceed { w with lastReconnectTime := w.clock, phase := .loopHead }
  /-- The client is replaced after thirty seconds. -/
  | rotate (phase : w.phase = .loopHead)
      (due : asSecs (Instant.durationSince w.clock w.lastReconnectTime) ≥ reconnectSeces) :
      Step b64 config w .proceed
        { w with lastReconnectTime := w.clock, phase := .retrieving .loop none }
  | receive (phase : w.phase = .loopHead)
      (notDue : ¬ asSecs (Instant.durationSince w.clock w.lastReconnectTime) ≥ reconnectSeces) :
      Step b64 config w .proceed { w with phase := .receiving w.clock }
  /-- Nothing is buffered, or it is not time to flush it. -/
  | skip (phase : w.phase = .received)
      (notDue : w.vec = [] ∨
        ¬ (asMillis (Instant.durationSince w.clock w.lastFlushTime) ≥ reportBucket
          ∨ w.vec.length > 500)) :
      Step b64 config w .proceed { w with phase := .loopHead }
  /-- The buffer becomes a batch. -/
  | flush (phase : w.phase = .received) (pending : w.vec ≠ [])
      (due : asMillis (Instant.durationSince w.clock w.lastFlushTime) ≥ reportBucket
        ∨ w.vec.length > 500) :
      Step b64 config w .proceed { w with vec := [], phase := .collecting 0 w.vec }
  | succeed {i : ℕ} {batch : Batch} (phase : w.phase = .returned i batch true) :
      Step b64 config w .proceed { w with phase := .flushed }
  /-- The last attempt has failed, and the batch is written to the log. -/
  | backUp {batch : Batch} (phase : w.phase = .returned (retryNum - 1) batch false) :
      Step b64 config w .proceed
        { w with
          effects := w.effects
            ++ [.log (.segmentsBackup (Reporter.transformSegments b64 config batch))]
          phase := .flushed }
  | pause {i : ℕ} {batch : Batch} (phase : w.phase = .returned i batch false)
      (more : i ≠ retryNum - 1) :
      Step b64 config w .proceed { w with phase := .pausing i batch w.clock }
  | flushed (phase : w.phase = .flushed) :
      Step b64 config w .proceed
        { w with lastFlushTime := w.clock, vec := [], phase := .loopHead }

/-- Inversion of `proceed`. -/
lemma proceed_cases {b64 : Base64} {config : Config} {w w' : Worker}
    (h : w.proceed b64 config = some w') : Step b64 config w .proceed w' := by
  rw [proceed] at h
  cases phase : w.phase with
  | starting =>
      rw [phase] at h
      obtain rfl := Option.some.inj h
      exact .starting phase
  | started =>
      rw [phase] at h
      obtain rfl := Option.some.inj h
      exact .started phase
  | loopHead =>
      rw [phase] at h
      simp only at h
      split_ifs at h with due
      · obtain rfl := Option.some.inj h
        exact .rotate phase due
      · obtain rfl := Option.some.inj h
        exact .receive phase due
  | received =>
      rw [phase] at h
      simp only at h
      split_ifs at h with hempty due
      · obtain rfl := Option.some.inj h
        exact .skip phase (Or.inl (List.isEmpty_iff.mp hempty))
      · obtain rfl := Option.some.inj h
        exact .flush phase (fun hnil => hempty (List.isEmpty_iff.mpr hnil)) due
      · obtain rfl := Option.some.inj h
        exact .skip phase (Or.inr due)
  | returned i batch status =>
      rw [phase] at h
      simp only at h
      split_ifs at h with hstatus hlast
      · subst hstatus
        obtain rfl := Option.some.inj h
        exact .succeed phase
      · obtain rfl : status = false := by simpa using hstatus
        subst hlast
        obtain rfl := Option.some.inj h
        exact .backUp phase
      · obtain rfl : status = false := by simpa using hstatus
        obtain rfl := Option.some.inj h
        exact .pause phase hlast
  | flushed =>
      rw [phase] at h
      obtain rfl := Option.some.inj h
      exact .flushed phase
  | _ => rw [phase] at h; exact absurd h (by simp)

/-- **Inversion of a step**. -/
theorem step_cases {b64 : Base64} {config : Config} {w w' : Worker} {e : WorkerEvent}
    (h : step b64 config w e = some w') : Step b64 config w e w' := by
  cases e with
  | tick d =>
      obtain rfl := Option.some.inj h
      exact .tick
  | trySend ctx =>
      rw [step] at h
      cases hsend : w.channel.trySend ctx with
      | ok channel =>
          rw [hsend] at h
          obtain rfl := Option.some.inj h
          exact .accept hsend
      | error e =>
          rw [hsend] at h
          obtain rfl := Option.some.inj h
          exact .refuse hsend
  | dropSender =>
      obtain rfl := Option.some.inj h
      exact .dropSender
  | connect ok =>
      rw [step] at h
      split at h
      · next resume phase =>
          cases ok with
          | true =>
              obtain rfl := Option.some.inj h
              exact .connected phase
          | false =>
              obtain rfl := Option.some.inj h
              exact .notConnected phase
      · exact absurd h (by simp)
  | wake =>
      rw [step] at h
      split at h
      · next resume since phase =>
          split_ifs at h with slept
          obtain rfl := Option.some.inj h
          exact .reconnect phase slept
      · next i batch since phase =>
          split_ifs at h with slept
          obtain rfl := Option.some.inj h
          exact .resend phase slept
      · exact absurd h (by simp)
  | recv =>
      rw [step] at h
      split at h
      · next since phase =>
          obtain ⟨⟨ctx, channel⟩, received, hw⟩ := Option.bind_eq_some_iff.mp h
          obtain rfl := Option.some.inj hw
          exact .recv phase received
      · exact absurd h (by simp)
  | timeout =>
      rw [step] at h
      split at h
      · next since phase =>
          split_ifs at h with elapsed
          obtain rfl := Option.some.inj h
          exact .timeout phase elapsed
      · exact absurd h (by simp)
  | collected error =>
      rw [step] at h
      split at h
      · next i batch phase =>
          cases error with
          | none =>
              obtain rfl := Option.some.inj h
              exact .collected phase
          | some code =>
              simp only at h
              split_ifs at h with transient
              · obtain rfl := Option.some.inj h
                exact .failed phase transient
              · obtain rfl := Option.some.inj h
                exact .broken phase (by simpa using transient)
      · exact absurd h (by simp)
  | proceed => exact proceed_cases h

end Worker

end Skywalking
