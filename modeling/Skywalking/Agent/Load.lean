import Skywalking.Agent.Backoff

/-!
How much the worker asks of the collector, in every run of it.

A batch is begun when `REPORT_BUCKET` milliseconds have passed or more than 500 entries are
buffered, and is sent `RETRY_NUM` times at most. A client is made at the start, after a failure for
good and every `RECONNECT_SECES` seconds. So the time, the entries received and the failures bound
the calls of `collect` and the number of clients.

* `Renewed`: the clients found so far. `clients_bounded`: **how many clients are made**.
* `Paced`: the batches begun so far. `calls_bounded`: **how often `collect` is called**.
-/

namespace Skywalking

open RustStd Machine

/-- The loop of the worker has not begun. -/
def Phase.beforeLoop : Phase → Bool
  | .retrieving .start _ | .starting | .started => true
  | _ => false

/-- The searches for a client that go on. -/
def Phase.searches : Phase → ℕ
  | .retrieving _ _ => 1
  | _ => 0

/-- A call of `collect` after which the client is not used again. -/
def Effect.isBroken : Effect → Bool
  | .collect _ (some code) => !code.isTransient
  | _ => false

/-- A call of `collect`. -/
def Effect.isCollect : Effect → Bool
  | .collect _ _ => true
  | .log _ => false

/-- The calls of `collect` that may follow for the batch that is being sent. -/
def Phase.callsLeft : Phase → ℕ
  | .collecting i _ => Worker.retryNum - i
  | .retrieving (.retry i _) _ | .returned i _ false | .pausing i _ _ => Worker.retryNum - (i + 1)
  | _ => 0

/-- The number of the last call that was begun, or of the one that is going to be. -/
def Phase.call : Phase → ℕ
  | .collecting i _ | .retrieving (.retry i _) _ | .returned i _ _ => i
  | .pausing i _ _ => i + 1
  | _ => 0

/-- `last_flush_time` is going to be set. -/
def Phase.stamps : Phase → Bool
  | .retrieving .start _ | .retrieving (.retry _ _) _ | .starting | .collecting _ _
  | .returned _ _ _ | .pausing _ _ _ | .flushed => true
  | _ => false

/-- Periods of `k` units fit in a time as often as they fit in its units. -/
lemma le_div_div {n k m d : ℕ} (hk : 0 < k) (hm : 0 < m) (h : n * (k * m) ≤ d) : n ≤ d / m / k := by
  rwa [Nat.le_div_iff_mul_le hk, Nat.le_div_iff_mul_le hm, Nat.mul_assoc]

namespace Worker

variable {b64 : Base64} {config : Config} {w w' : Worker} {e : WorkerEvent}
  {es : List WorkerEvent} {channel : Mailbox TracingContext} {clock : Instant}

/-! ### The number of clients -/

/-- Since the instant `clock`, `found` clients were found: one for the start, one for each broken
call and one for each rotation, but for one that is being searched for. The rotations have taken
their time. -/
structure Renewed (clock : Instant) (found rotations : ℕ) (w : Worker) : Prop where
  found : found + w.phase.searches = 1 + w.effects.countP Effect.isBroken + rotations
  spaced : w.phase.beforeLoop = true ∧ rotations = 0
    ∨ clock + rotations * (reconnectSeces * 1000000000) ≤ w.lastReconnectTime
  last : w.lastReconnectTime ≤ w.clock
  clock : clock ≤ w.clock

lemma renewed_start (channel : Mailbox TracingContext) (clock : Instant) :
    (start channel clock).Renewed clock 0 0 :=
  ⟨rfl, Or.inl ⟨rfl, rfl⟩, Nat.zero_le _, le_rfl⟩

/-- An event that starts and ends no search. -/
lemma Renewed.same {found rotations : ℕ} {phase : Phase} (h : w.Renewed clock found rotations)
    (hphase : w.phase = phase) (hsearches : w'.phase.searches = phase.searches)
    (hbefore : w'.phase.beforeLoop = phase.beforeLoop)
    (hbroken : w'.effects.countP Effect.isBroken = w.effects.countP Effect.isBroken)
    (hlast : w'.lastReconnectTime = w.lastReconnectTime) (hclock : w.clock ≤ w'.clock) :
    ∃ rotations, w'.Renewed clock found rotations := by
  subst hphase
  refine ⟨rotations, ?_, ?_, hlast.trans_le (h.last.trans hclock), h.clock.trans hclock⟩
  · rw [hsearches, hbroken]
    exact h.found
  · rw [hbefore, hlast]
    exact h.spaced

/-- In the loop the rotations have taken their time. -/
lemma Renewed.rotations_le {found rotations : ℕ} {phase : Phase}
    (h : w.Renewed clock found rotations) (hphase : w.phase = phase)
    (hloop : phase.beforeLoop = false) :
    clock + rotations * (reconnectSeces * 1000000000) ≤ w.lastReconnectTime := by
  subst hphase
  exact h.spaced.resolve_left fun hbefore => absurd (hbefore.1.symm.trans hloop) (by simp)

lemma Renewed.step {found rotations : ℕ} (h : w.Renewed clock found rotations)
    (hs : w.step b64 config e = some w') :
    ∃ rotations, w'.Renewed clock (found + [e].count (.connect true)) rotations := by
  cases step_cases hs with
  | @tick d => exact h.same rfl rfl rfl rfl rfl (Nat.le_add_right _ _)
  | accept room => exact h.same rfl rfl rfl rfl rfl le_rfl
  | refuse refused => exact h.same rfl rfl rfl rfl rfl le_rfl
  | dropSender => exact h.same rfl rfl rfl rfl rfl le_rfl
  | @connected resume phase =>
      have hfound := h.found
      rw [phase] at hfound
      cases resume with
      | start => exact ⟨rotations, hfound, h.spaced.imp_left fun h => ⟨rfl, h.2⟩, h.last, h.clock⟩
      | loop => exact ⟨rotations, hfound, Or.inr (h.rotations_le phase rfl), h.last, h.clock⟩
      | retry i batch =>
          exact ⟨rotations, hfound, Or.inr (h.rotations_le phase rfl), h.last, h.clock⟩
  | @notConnected resume phase =>
      exact h.same phase rfl (by cases resume <;> rfl) rfl rfl le_rfl
  | @reconnect resume since phase slept =>
      exact h.same phase rfl (by cases resume <;> rfl) rfl rfl le_rfl
  | resend phase slept => exact h.same phase rfl rfl rfl rfl le_rfl
  | recv phase received => exact h.same phase rfl rfl rfl rfl le_rfl
  | timeout phase elapsed => exact h.same phase rfl rfl rfl rfl le_rfl
  | collected phase =>
      exact h.same phase rfl rfl (by simp [Effect.isBroken]) rfl le_rfl
  | failed phase transient =>
      exact h.same phase rfl rfl (by simp [Effect.isBroken, transient]) rfl le_rfl
  | broken phase transient =>
      have hfound := h.found
      rw [phase] at hfound
      refine ⟨rotations, ?_, Or.inr (h.rotations_le phase rfl), h.last, h.clock⟩
      rw [List.countP_append, List.countP_singleton, if_pos (by simp [Effect.isBroken, transient])]
      calc found + 1 = 1 + w.effects.countP Effect.isBroken + rotations + 1 :=
            congrArg (· + 1) hfound
        _ = 1 + (w.effects.countP Effect.isBroken + 1) + rotations := by omega
  | starting phase => exact h.same phase rfl rfl rfl rfl le_rfl
  | started phase =>
      have hfound := h.found
      rw [phase] at hfound
      refine ⟨rotations, hfound, Or.inr ?_, le_rfl, h.clock⟩
      rcases h.spaced with ⟨-, rfl⟩ | hspaced
      · rw [Nat.zero_mul]
        exact h.clock
      · exact hspaced.trans h.last
  | rotate phase due =>
      have hfound := h.found
      rw [phase] at hfound
      refine ⟨rotations + 1, congrArg (· + 1) hfound, Or.inr ?_, le_rfl, h.clock⟩
      calc clock + (rotations + 1) * (reconnectSeces * 1000000000)
          = clock + rotations * (reconnectSeces * 1000000000) + reconnectSeces * 1000000000 := by
            rw [Nat.succ_mul, Nat.add_assoc]
        _ ≤ w.lastReconnectTime + reconnectSeces * 1000000000 :=
          Nat.add_le_add_right (h.rotations_le phase rfl) _
        _ ≤ w.clock := Nat.add_le_of_le_sub' h.last (passed_of_due due)
  | receive phase notDue => exact h.same phase rfl rfl rfl rfl le_rfl
  | skip phase notDue => exact h.same phase rfl rfl rfl rfl le_rfl
  | flush phase pending due => exact h.same phase rfl rfl rfl rfl le_rfl
  | succeed phase => exact h.same phase rfl rfl rfl rfl le_rfl
  | backUp phase => exact h.same phase rfl rfl (by simp [Effect.isBroken]) rfl le_rfl
  | pause phase more => exact h.same phase rfl rfl rfl rfl le_rfl
  | flushed phase => exact h.same phase rfl rfl rfl rfl le_rfl

/-- **How many clients are made**: in every run of the worker, at most one for the start, one for
each call of `collect` that failed with a code that is not transient, and one for each
`RECONNECT_SECES` seconds that have passed. -/
theorem clients_bounded
    (hrun : run (Worker.step b64 config) (start channel clock) es = some w) :
    es.count (.connect true) ≤ 1 + w.effects.countP Effect.isBroken
      + asSecs (Instant.durationSince w.clock clock) / reconnectSeces := by
  obtain ⟨rotations, h⟩ : ∃ rotations, w.Renewed clock (es.count (.connect true)) rotations := by
    refine run_induction (P := fun es w =>
      ∃ rotations, w.Renewed clock (es.count (.connect true)) rotations)
      ⟨0, renewed_start channel clock⟩ (fun es w e w' _ ih hs => ?_) hrun
    obtain ⟨rotations, h⟩ := ih
    rw [List.count_append]
    exact h.step hs
  have hrotations : rotations ≤ asSecs (Instant.durationSince w.clock clock) / reconnectSeces := by
    rcases h.spaced with ⟨-, rfl⟩ | hspaced
    · exact Nat.zero_le _
    · have hpassed : rotations * (reconnectSeces * 1000000000) ≤ w.clock - clock :=
        Nat.le_sub_of_add_le' (hspaced.trans h.last)
      exact le_div_div (by decide) (by norm_num) hpassed
  have hfound := h.found
  omega

theorem clients_bounded_demo : ∃ w,
    run (Worker.step .standard Config.demo) (start { capacity := Reporter.skwChanSize } 0)
        (rotateEvents ++ .proceed :: waitEvents) = some w
      ∧ (rotateEvents ++ .proceed :: waitEvents).count (.connect true) = 2
      ∧ 2 ≤ 1 + w.effects.countP Effect.isBroken
        + asSecs (Instant.durationSince w.clock 0) / reconnectSeces := by
  have hend : (run (Worker.step .standard Config.demo)
      (start { capacity := Reporter.skwChanSize } 0)
      (rotateEvents ++ .proceed :: waitEvents)).isSome := by decide +kernel
  obtain ⟨w, hrun⟩ := Option.isSome_iff_exists.mp hend
  exact ⟨w, hrun, by decide, clients_bounded hrun⟩

/-! ### The number of calls -/

lemma retryNum_pos : 0 < retryNum := by decide

/-- `last_flush_time`, or the time if it is going to be set. -/
def flushedAt (w : Worker) : Instant := if w.phase.stamps then w.clock else w.lastFlushTime

lemma flushedAt_le (h : w.lastFlushTime ≤ w.clock) : w.flushedAt ≤ w.clock := by
  rw [flushedAt]
  split_ifs
  · exact le_rfl
  · exact h

/-- Since the instant `clock`, `received` entries were received, and so many batches were begun for
the time (`timed`) and for the size of the buffer (`sized`). -/
structure Paced (clock : Instant) (received timed sized : ℕ) (w : Worker) : Prop where
  calls : w.effects.countP Effect.isCollect + w.phase.callsLeft ≤ retryNum * (timed + sized)
  call : w.phase.call < retryNum
  timed : clock + timed * millis reportBucket ≤ w.flushedAt
  sized : sized * 501 + w.vec.length ≤ received
  flush : w.lastFlushTime ≤ w.clock

lemma paced_start (channel : Mailbox TracingContext) (clock : Instant) :
    (start channel clock).Paced clock 0 0 0 :=
  ⟨le_rfl, retryNum_pos, le_rfl, le_rfl, Nat.zero_le _⟩

/-- An event that begins no batch and receives nothing. -/
lemma Paced.same {received timed sized : ℕ} {phase : Phase}
    (h : w.Paced clock received timed sized) (hphase : w.phase = phase)
    (hcalls : w'.effects.countP Effect.isCollect + w'.phase.callsLeft
      ≤ w.effects.countP Effect.isCollect + phase.callsLeft)
    (hcall : w'.phase.call < retryNum)
    (hflushed : w'.phase.stamps = true
      ∨ phase.stamps = w'.phase.stamps ∧ w'.lastFlushTime = w.lastFlushTime)
    (hvec : w'.vec.length ≤ w.vec.length) (hclock : w.clock ≤ w'.clock)
    (hlast : w'.lastFlushTime ≤ w'.clock) :
    ∃ timed sized, w'.Paced clock received timed sized := by
  subst hphase
  refine ⟨timed, sized, hcalls.trans h.calls, hcall, h.timed.trans ?_,
    (Nat.add_le_add_left hvec _).trans h.sized, hlast⟩
  rw [flushedAt, flushedAt]
  rcases hflushed with hstamps | ⟨hstamps, hsame⟩
  · rw [if_pos hstamps]
    exact (flushedAt_le h.flush).trans hclock
  · rw [hstamps, hsame]
    split_ifs
    · exact hclock
    · exact le_rfl

/-- An event that leaves the effects and the buffer alone. -/
lemma Paced.quiet {received timed sized : ℕ} {phase : Phase}
    (h : w.Paced clock received timed sized) (hphase : w.phase = phase)
    (heffects : w'.effects = w.effects) (hvec : w'.vec = w.vec) (hclock : w'.clock = w.clock)
    (hlast : w'.lastFlushTime = w.lastFlushTime) (hcalls : w'.phase.callsLeft ≤ phase.callsLeft)
    (hcall : w'.phase.call ≤ phase.call)
    (hstamps : w'.phase.stamps = true ∨ phase.stamps = w'.phase.stamps) :
    ∃ timed sized, w'.Paced clock received timed sized := by
  refine h.same hphase ?_ (hcall.trans_lt (hphase ▸ h.call))
    (hstamps.imp_right fun h => ⟨h, hlast⟩) ?_ hclock.ge ?_
  · rw [heffects]
    exact Nat.add_le_add_left hcalls _
  · rw [hvec]
  · rw [hlast, hclock]
    exact h.flush

/-- A call of `collect` uses up one of those that are left. -/
lemma Paced.called {received timed sized i : ℕ} {batch : Batch} {effect : Effect}
    (h : w.Paced clock received timed sized) (hphase : w.phase = .collecting i batch)
    (heffects : w'.effects = w.effects ++ [effect]) (hcollect : effect.isCollect = true)
    (hcalls : w'.phase.callsLeft ≤ retryNum - (i + 1)) (hcall : w'.phase.call = i)
    (hstamps : w'.phase.stamps = true) (hvec : w'.vec = w.vec) (hclock : w'.clock = w.clock)
    (hlast : w'.lastFlushTime = w.lastFlushTime) :
    ∃ timed sized, w'.Paced clock received timed sized := by
  have hlt : i < retryNum := by
    have hcall := h.call
    rwa [hphase] at hcall
  have hone : w'.effects.countP Effect.isCollect = w.effects.countP Effect.isCollect + 1 := by
    rw [heffects, List.countP_append, List.countP_singleton, if_pos hcollect]
  refine h.same hphase ?_ (hcall.trans_lt hlt) (Or.inl hstamps) (by rw [hvec]) hclock.ge ?_
  · rw [hone, Phase.callsLeft]
    omega
  · rw [hlast, hclock]
    exact h.flush

/-- A batch is begun for the time, or else for the size of the buffer. -/
lemma Paced.begin {received timed sized : ℕ} (h : w.Paced clock received timed sized)
    (hphase : w.phase = .received)
    (hdue : asMillis (Instant.durationSince w.clock w.lastFlushTime) ≥ reportBucket
      ∨ w.vec.length > 500) :
    ∃ timed sized,
      ({ w with vec := [], phase := .collecting 0 w.vec } : Worker).Paced clock received timed
        sized := by
  obtain ⟨hcalls, -, htimed, hsized, hflush⟩ := h
  rw [hphase] at hcalls
  rw [flushedAt, hphase] at htimed
  have hmore : w.effects.countP Effect.isCollect + retryNum
      ≤ retryNum * (timed + sized) + retryNum := Nat.add_le_add_right hcalls _
  rcases hdue with htime | hsize
  · have hpassed : millis reportBucket ≤ w.clock - w.lastFlushTime :=
      (Nat.le_div_iff_mul_le (by norm_num)).mp htime
    refine ⟨timed + 1, sized, ?_, retryNum_pos, ?_, ?_, hflush⟩
    · rwa [Nat.add_right_comm, Nat.mul_succ]
    · calc clock + (timed + 1) * millis reportBucket
          = clock + timed * millis reportBucket + millis reportBucket := by
            rw [Nat.succ_mul, Nat.add_assoc]
        _ ≤ w.lastFlushTime + millis reportBucket := Nat.add_le_add_right htimed _
        _ ≤ w.clock := Nat.add_le_of_le_sub' hflush hpassed
    · exact (Nat.add_le_add_left (Nat.zero_le _) _).trans hsized
  · have hroom : (sized + 1) * 501 ≤ received :=
      calc (sized + 1) * 501 = sized * 501 + 501 := Nat.succ_mul sized 501
        _ ≤ sized * 501 + w.vec.length := Nat.add_le_add_left hsize _
        _ ≤ received := hsized
    refine ⟨timed, sized + 1, ?_, retryNum_pos, htimed.trans hflush, ?_, hflush⟩
    · rwa [← Nat.add_assoc, Nat.mul_succ]
    · rwa [List.length_nil, Nat.add_zero]

lemma Paced.step {received timed sized : ℕ} (h : w.Paced clock received timed sized)
    (hs : w.step b64 config e = some w') :
    ∃ timed sized, w'.Paced clock (received + [e].count .recv) timed sized := by
  cases step_cases hs with
  | @tick d =>
      refine h.same rfl le_rfl h.call ?_ le_rfl (Nat.le_add_right _ _)
        (h.flush.trans (Nat.le_add_right _ _))
      exact Or.inr ⟨rfl, rfl⟩
  | accept room => exact h.quiet rfl rfl rfl rfl rfl le_rfl le_rfl (Or.inr rfl)
  | refuse refused => exact h.quiet rfl rfl rfl rfl rfl le_rfl le_rfl (Or.inr rfl)
  | dropSender => exact h.quiet rfl rfl rfl rfl rfl le_rfl le_rfl (Or.inr rfl)
  | @connected resume phase =>
      cases resume <;> exact h.quiet phase rfl rfl rfl rfl le_rfl le_rfl (Or.inr rfl)
  | @notConnected resume phase =>
      cases resume <;> exact h.quiet phase rfl rfl rfl rfl le_rfl le_rfl (Or.inr rfl)
  | @reconnect resume since phase slept =>
      cases resume <;> exact h.quiet phase rfl rfl rfl rfl le_rfl le_rfl (Or.inr rfl)
  | resend phase slept => exact h.quiet phase rfl rfl rfl rfl le_rfl le_rfl (Or.inl rfl)
  | @recv since ctx channel phase received =>
      obtain ⟨hcalls, -, htimed, hsized, hflush⟩ := h
      rw [phase] at hcalls
      rw [flushedAt, phase] at htimed
      refine ⟨timed, sized, hcalls, retryNum_pos, htimed, ?_, hflush⟩
      rw [List.length_append, ← Nat.add_assoc]
      exact Nat.add_le_add_right hsized 1
  | timeout phase elapsed => exact h.quiet phase rfl rfl rfl rfl le_rfl le_rfl (Or.inr rfl)
  | collected phase => exact h.called phase rfl rfl (Nat.zero_le _) rfl rfl rfl rfl rfl
  | failed phase transient => exact h.called phase rfl rfl le_rfl rfl rfl rfl rfl rfl
  | broken phase transient => exact h.called phase rfl rfl le_rfl rfl rfl rfl rfl rfl
  | starting phase =>
      obtain ⟨hcalls, -, htimed, hsized, hflush⟩ := h
      rw [phase] at hcalls
      rw [flushedAt, phase] at htimed
      exact ⟨timed, sized, hcalls, retryNum_pos, htimed, hsized, le_rfl⟩
  | started phase => exact h.quiet phase rfl rfl rfl rfl le_rfl le_rfl (Or.inr rfl)
  | rotate phase due => exact h.quiet phase rfl rfl rfl rfl le_rfl le_rfl (Or.inr rfl)
  | receive phase notDue => exact h.quiet phase rfl rfl rfl rfl le_rfl le_rfl (Or.inr rfl)
  | skip phase notDue => exact h.quiet phase rfl rfl rfl rfl le_rfl le_rfl (Or.inr rfl)
  | flush phase pending due => exact h.begin phase due
  | succeed phase => exact h.quiet phase rfl rfl rfl rfl le_rfl (Nat.zero_le _) (Or.inl rfl)
  | @backUp batch phase =>
      refine h.same phase ?_ (retryNum_pos) (Or.inl rfl) le_rfl le_rfl h.flush
      simp [Effect.isCollect, Phase.callsLeft]
  | @pause i batch phase more =>
      have hlt : i < retryNum := by
        have hcall := h.call
        rwa [phase] at hcall
      have hnext : i + 1 < retryNum := by
        simp only [retryNum] at hlt more ⊢
        omega
      exact h.same phase le_rfl hnext (Or.inl rfl) le_rfl le_rfl h.flush
  | flushed phase =>
      obtain ⟨hcalls, -, htimed, hsized, hflush⟩ := h
      rw [phase] at hcalls
      rw [flushedAt, phase] at htimed
      refine ⟨timed, sized, hcalls, retryNum_pos, htimed, ?_, le_rfl⟩
      exact (Nat.add_le_add_left (Nat.zero_le _) _).trans hsized

/-- **How often `collect` is called**: in every run of the worker, however the calls fail, at most
`RETRY_NUM` times for each `REPORT_BUCKET` milliseconds that have passed, and as often for each 501
entries that were received. -/
theorem calls_bounded
    (hrun : run (Worker.step b64 config) (start channel clock) es = some w) :
    w.effects.countP Effect.isCollect
      ≤ retryNum * (asMillis (Instant.durationSince w.clock clock) / reportBucket
        + es.count .recv / 501) := by
  obtain ⟨timed, sized, h⟩ : ∃ timed sized, w.Paced clock (es.count .recv) timed sized := by
    refine run_induction (P := fun es w =>
      ∃ timed sized, w.Paced clock (es.count .recv) timed sized)
      ⟨0, 0, paced_start channel clock⟩ (fun es w e w' _ ih hs => ?_) hrun
    obtain ⟨timed, sized, h⟩ := ih
    rw [List.count_append]
    exact h.step hs
  have htimed : timed ≤ asMillis (Instant.durationSince w.clock clock) / reportBucket := by
    have hpassed : timed * millis reportBucket ≤ w.clock - clock :=
      Nat.le_sub_of_add_le' (h.timed.trans (flushedAt_le h.flush))
    exact le_div_div (by decide) (by norm_num) hpassed
  have hsized : sized ≤ es.count .recv / 501 := by
    rw [Nat.le_div_iff_mul_le (by norm_num)]
    exact (Nat.le_add_right _ _).trans h.sized
  calc w.effects.countP Effect.isCollect
      ≤ retryNum * (timed + sized) := (Nat.le_add_right _ _).trans h.calls
    _ ≤ retryNum * (asMillis (Instant.durationSince w.clock clock) / reportBucket
        + es.count .recv / 501) := Nat.mul_le_mul_left _ (Nat.add_le_add htimed hsized)

theorem calls_bounded_demo : ∃ w,
    run (Worker.step .standard Config.demo) (start { capacity := Reporter.skwChanSize } 0)
        (collectEvents ++ [.collected (some .unavailable)]) = some w
      ∧ w.effects.countP Effect.isCollect = 1
      ∧ 1 ≤ retryNum * (asMillis (Instant.durationSince w.clock 0) / reportBucket
        + (collectEvents ++ [WorkerEvent.collected (some .unavailable)]).count .recv / 501) := by
  have hend : (run (Worker.step .standard Config.demo)
      (start { capacity := Reporter.skwChanSize } 0)
      (collectEvents ++ [.collected (some .unavailable)])).map
      (fun w => w.effects.countP Effect.isCollect) = some 1 := by decide +kernel
  obtain ⟨w, hrun, hone⟩ := Option.map_eq_some_iff.mp hend
  exact ⟨w, hrun, hone, hone ▸ calls_bounded hrun⟩

end Worker

end Skywalking
