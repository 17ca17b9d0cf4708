import Skywalking.Agent.Batching

/-!
How the worker keeps away from a collector that fails.

* `Phase.attempt?`, `Worker.asOf`: the attempt for a batch, and the time at which it was over.
* `Step.attempt`: what one event does to the attempt.
* `attempts_spaced`: **attempts are half a second apart**, with nothing else sent in between.
* `fresh_client`: **a client that failed for good is not used again**.
* `rotations_spaced`: a client is not searched for at the head of the loop more often than every
  `RECONNECT_SECES` seconds.
-/

namespace Skywalking

open RustStd Machine

/-- The attempt that `retry_send_skw` is at, and its batch. -/
def Phase.attempt? : Phase → Option (ℕ × Batch)
  | .retrieving (.retry i batch) _ | .collecting i batch | .returned i batch _
  | .pausing i batch _ => some (i, batch)
  | _ => none

namespace Worker

variable {b64 : Base64} {config : Config} {w w' : Worker} {e : WorkerEvent}
  {es : List WorkerEvent} {channel : Mailbox TracingContext} {clock : Instant}

/-- The time, or the time at which the pause after the attempt has begun. -/
def asOf (w : Worker) : Instant :=
  match w.phase with
  | .pausing _ _ since => since
  | _ => w.clock

/-- No pause begins in the future. -/
def Punctual (w : Worker) : Prop := w.asOf ≤ w.clock

lemma asOf_of_phase (h : ∀ i batch since, w.phase ≠ .pausing i batch since) :
    w.asOf = w.clock := by
  rw [asOf]
  split
  · next i batch since phase => exact absurd phase (h i batch since)
  · rfl

lemma batch?_of_attempt {phase : Phase} {i : ℕ} {batch : Batch}
    (h : phase.attempt? = some (i, batch)) : phase.batch? = some batch := by
  cases phase with
  | retrieving resume asleep =>
      cases resume with
      | retry j b =>
          obtain ⟨rfl, rfl⟩ := Prod.mk.inj (Option.some.inj h)
          rfl
      | _ => cases h
  | collecting j b =>
      obtain ⟨rfl, rfl⟩ := Prod.mk.inj (Option.some.inj h)
      rfl
  | returned j b status =>
      obtain ⟨rfl, rfl⟩ := Prod.mk.inj (Option.some.inj h)
      rfl
  | pausing j b since =>
      obtain ⟨rfl, rfl⟩ := Prod.mk.inj (Option.some.inj h)
      rfl
  | _ => cases h

/-- **What one event does to the attempt**: a batch is taken from the buffer for its first
attempt, or the attempt goes on, or the next one begins after a pause of half a second. -/
inductive Attempt (w w' : Worker) (i : ℕ) (batch : Batch) : Prop
  | first (phase' : w'.phase = .collecting 0 batch) (zero : i = 0)
  | same (attempt : w.phase.attempt? = some (i, batch)) (later : w.asOf ≤ w'.asOf)
  | next {j : ℕ} (attempt : w.phase.attempt? = some (j, batch)) (succ : i = j + 1)
      (later : w.asOf + millis 500 ≤ w'.asOf)

/-- In a phase without a pause before and after it, an attempt goes on. -/
lemma Attempt.of_phase {phase : Phase} {i : ℕ} {batch : Batch} (hphase : w.phase = phase)
    (hattempt : phase.attempt? = some (i, batch)) (hpunctual : w.Punctual)
    (hlater : w.clock ≤ w'.asOf) : Attempt w w' i batch := by
  subst hphase
  exact .same hattempt (le_trans hpunctual hlater)

theorem Step.attempt (h : Step b64 config w e w') (hpunctual : w.Punctual) {i : ℕ}
    {batch : Batch} (hattempt : w'.phase.attempt? = some (i, batch)) :
    Attempt w w' i batch := by
  cases h with
  | tick =>
      refine .same hattempt ?_
      simp only [asOf]
      split
      · exact le_rfl
      · exact Nat.le_add_right _ _
  | accept room => exact .same hattempt le_rfl
  | refuse refused => exact .same hattempt le_rfl
  | dropSender => exact .same hattempt le_rfl
  | @connected resume phase =>
      cases resume with
      | retry j b => exact .of_phase phase hattempt hpunctual le_rfl
      | _ => cases hattempt
  | @notConnected resume phase =>
      cases resume with
      | retry j b => exact .of_phase phase hattempt hpunctual le_rfl
      | _ => cases hattempt
  | @reconnect resume since phase slept =>
      cases resume with
      | retry j b => exact .of_phase phase hattempt hpunctual le_rfl
      | _ => cases hattempt
  | @resend j b since phase slept =>
      obtain ⟨rfl, rfl⟩ := Prod.mk.inj (Option.some.inj hattempt)
      refine .next (by rw [phase]; rfl) rfl ?_
      rw [asOf, phase]
      exact slept
  | collected phase => exact .of_phase phase hattempt hpunctual le_rfl
  | failed phase transient => exact .of_phase phase hattempt hpunctual le_rfl
  | broken phase transient => exact .of_phase phase hattempt hpunctual le_rfl
  | pause phase more => exact .of_phase phase hattempt hpunctual le_rfl
  | flush phase pending due =>
      obtain ⟨rfl, rfl⟩ := Prod.mk.inj (Option.some.inj hattempt)
      exact .first rfl rfl
  | _ => cases hattempt

lemma Punctual.step (h : w.Punctual) (hs : w.step b64 config e = some w') : w'.Punctual := by
  cases step_cases hs with
  | tick =>
      refine le_trans ?_ (Nat.add_le_add_right h _)
      simp only [asOf]
      split
      · exact Nat.le_add_right _ _
      · exact le_rfl
  | accept room => exact h
  | refuse refused => exact h
  | dropSender => exact h
  | @connected resume phase => cases resume <;> exact le_rfl
  | _ => exact le_rfl

lemma punctual_start (channel : Mailbox TracingContext) (clock : Instant) :
    (start channel clock).Punctual := le_rfl

/-- **Attempts are half a second apart**: in every run of the worker, when `retry_send_skw` is at
the attempt `i` for a batch, the batch was taken from the buffer at least `i` times 500
milliseconds before, and nothing else was sent since then. -/
theorem attempts_spaced
    (hrun : run (Worker.step b64 config) (start channel clock) es = some w) {i : ℕ}
    {batch : Batch} (hattempt : w.phase.attempt? = some (i, batch)) :
    ∃ es₁ es₂ w₁, es = es₁ ++ es₂
      ∧ run (Worker.step b64 config) (start channel clock) es₁ = some w₁
      ∧ w₁.phase = .collecting 0 batch
      ∧ Along (Worker.step b64 config) (fun w _ => w.phase.batch? = some batch) w₁ es₂
      ∧ w₁.clock + i * millis 500 ≤ w.clock := by
  have hpunctual : ∀ {es w}, run (Worker.step b64 config) (start channel clock) es = some w →
      w.Punctual := fun hrun =>
    run_invariant (fun _ _ _ h hs => h.step hs) (punctual_start channel clock) hrun
  -- the time counts up to the beginning of a pause
  have hspaced : ∃ es₁ es₂ w₁, es = es₁ ++ es₂
      ∧ run (Worker.step b64 config) (start channel clock) es₁ = some w₁
      ∧ w₁.phase = .collecting 0 batch
      ∧ Along (Worker.step b64 config) (fun w _ => w.phase.batch? = some batch) w₁ es₂
      ∧ w₁.clock + i * millis 500 ≤ w.asOf := by
    refine run_induction (P := fun es w => ∀ i, w.phase.attempt? = some (i, batch) →
      ∃ es₁ es₂ w₁, es = es₁ ++ es₂
        ∧ run (Worker.step b64 config) (start channel clock) es₁ = some w₁
        ∧ w₁.phase = .collecting 0 batch
        ∧ Along (Worker.step b64 config) (fun w _ => w.phase.batch? = some batch) w₁ es₂
        ∧ w₁.clock + i * millis 500 ≤ w.asOf) ?_ ?_ hrun i hattempt
    · intro i h
      cases h
    · intro es w e w' hrun ih hs i hattempt
      have hmore : ∀ j, w.phase.attempt? = some (j, batch) →
          ∃ es₁ es₂ w₁, es ++ [e] = es₁ ++ es₂
            ∧ run (Worker.step b64 config) (start channel clock) es₁ = some w₁
            ∧ w₁.phase = .collecting 0 batch
            ∧ Along (Worker.step b64 config) (fun w _ => w.phase.batch? = some batch) w₁ es₂
            ∧ w₁.clock + j * millis 500 ≤ w.asOf := by
        intro j hj
        obtain ⟨es₁, es₂, w₁, rfl, hw₁, hfirst, halong, hle⟩ := ih j hj
        obtain ⟨w₁', hw₁', hes₂⟩ := run_append_eq_some.mp hrun
        obtain rfl := Option.some.inj (hw₁.symm.trans hw₁')
        exact ⟨es₁, es₂ ++ [e], w₁, by rw [List.append_assoc], hw₁, hfirst,
          halong.concat hes₂ (batch?_of_attempt hj), hle⟩
      cases (step_cases hs).attempt (hpunctual hrun) hattempt with
      | first phase' zero =>
          refine ⟨es ++ [e], [], w', by simp, run_concat.mpr ⟨w, hrun, hs⟩, phase',
            fun _ _ _ _ h => absurd h (by simp), ?_⟩
          rw [zero, Nat.zero_mul, asOf_of_phase (by rw [phase']; simp)]
          exact le_rfl
      | same attempt later =>
          obtain ⟨es₁, es₂, w₁, hes, hw₁, hfirst, halong, hle⟩ := hmore i attempt
          exact ⟨es₁, es₂, w₁, hes, hw₁, hfirst, halong, le_trans hle later⟩
      | @next j attempt succ later =>
          obtain ⟨es₁, es₂, w₁, hes, hw₁, hfirst, halong, hle⟩ := hmore j attempt
          refine ⟨es₁, es₂, w₁, hes, hw₁, hfirst, halong, ?_⟩
          calc w₁.clock + i * millis 500 = w₁.clock + j * millis 500 + millis 500 := by
                rw [succ, Nat.succ_mul, ← Nat.add_assoc]
            _ ≤ w.asOf + millis 500 := Nat.add_le_add_right hle _
            _ ≤ w'.asOf := later
  obtain ⟨es₁, es₂, w₁, hes, hw₁, hfirst, halong, hle⟩ := hspaced
  exact ⟨es₁, es₂, w₁, hes, hw₁, hfirst, halong, le_trans hle (hpunctual hrun)⟩

/-- A context arrives, and the first attempt to send it fails. -/
def retryEvents : List WorkerEvent :=
  [.connect true, .proceed, .proceed, .trySend .demo, .proceed, .recv, .proceed, .proceed,
    .tick 500000000, .timeout, .proceed, .collected (some .unavailable), .proceed,
    .tick 500000000, .wake]

theorem attempts_spaced_demo : ∃ w,
    run (Worker.step .standard Config.demo)
        (start { capacity := Reporter.skwChanSize } 0) retryEvents = some w
      ∧ w.phase.attempt? = some (1, [some .demo])
      ∧ ∃ es₁ es₂ w₁, retryEvents = es₁ ++ es₂
        ∧ run (Worker.step .standard Config.demo)
          (start { capacity := Reporter.skwChanSize } 0) es₁ = some w₁
        ∧ w₁.phase = .collecting 0 [some .demo]
        ∧ Along (Worker.step .standard Config.demo)
          (fun w _ => w.phase.batch? = some [some .demo]) w₁ es₂
        ∧ w₁.clock + 1 * millis 500 ≤ w.clock := by
  have hend : (run (Worker.step .standard Config.demo)
      (start { capacity := Reporter.skwChanSize } 0) retryEvents).map
      (fun w => w.phase.attempt?) = some (some (1, [some .demo])) := by decide +kernel
  obtain ⟨w, hrun, hattempt⟩ := Option.map_eq_some_iff.mp hend
  exact ⟨w, hrun, hattempt, attempts_spaced hrun hattempt⟩

/-! ### The client -/

/-- The worker is in `loop_retrive_client`. -/
def Retrieving (w : Worker) : Prop := ∃ resume asleep, w.phase = .retrieving resume asleep

/-- **Only a client ends the search for one**. -/
lemma Retrieving.of_run (h : w.Retrieving)
    (hrun : run (Worker.step b64 config) w es = some w') (hes : .connect true ∉ es) :
    w'.Retrieving := by
  refine run_induction (P := fun es w' => .connect true ∉ es → w'.Retrieving) (fun _ => h)
    (fun es w e w' _ ih hs hes' => ?_) hrun hes
  obtain ⟨resume, asleep, phase⟩ := ih fun h => hes' (List.mem_append_left _ h)
  have he : e ≠ .connect true := by
    rintro rfl
    exact hes' (List.mem_append_right _ (List.mem_singleton_self _))
  cases e with
  | tick d =>
      obtain rfl := Option.some.inj hs
      exact ⟨resume, asleep, phase⟩
  | trySend ctx =>
      cases step_cases hs with
      | accept room => exact ⟨resume, asleep, phase⟩
      | refuse refused => exact ⟨resume, asleep, phase⟩
  | dropSender =>
      obtain rfl := Option.some.inj hs
      exact ⟨resume, asleep, phase⟩
  | connect ok =>
      cases step_cases hs with
      | connected phase' => exact absurd rfl he
      | notConnected phase' => exact ⟨_, _, rfl⟩
  | wake =>
      cases step_cases hs with
      | reconnect phase' slept => exact ⟨_, _, rfl⟩
      | resend phase' slept => exact absurd (phase.symm.trans phase') (by simp)
  | recv =>
      rw [step, phase] at hs
      cases hs
  | timeout =>
      rw [step, phase] at hs
      cases hs
  | collected error =>
      rw [step, phase] at hs
      cases hs
  | proceed =>
      rw [step, proceed, phase] at hs
      cases hs

/-- A call of `collect` needs a client that was found after the search for one had begun. -/
lemma Retrieving.connect_mem (h : w.Retrieving)
    (hrun : run (Worker.step b64 config) w es = some w') {error : Option Code} {w'' : Worker}
    (hcollect : w'.step b64 config (.collected error) = some w'') : .connect true ∈ es := by
  by_contra hes
  obtain ⟨resume, asleep, phase⟩ := h.of_run hrun hes
  rw [step, phase] at hcollect
  cases hcollect

/-- **A client that failed for good is not used again**: between a call of `collect` whose code is
not transient and the next call a new client is found. -/
theorem fresh_client {w₁ w₂ w₃ w₄ : Worker} {code : Code} {error : Option Code}
    (hfail : w₁.step b64 config (.collected (some code)) = some w₂)
    (hcode : code.isTransient = false)
    (hrun : run (Worker.step b64 config) w₂ es = some w₃)
    (hcollect : w₃.step b64 config (.collected error) = some w₄) : .connect true ∈ es := by
  refine Retrieving.connect_mem ?_ hrun hcollect
  cases step_cases hfail with
  | failed phase transient => exact absurd (hcode.symm.trans transient) (by simp)
  | broken phase transient => exact ⟨_, _, rfl⟩

/-- A context arrives, and the worker calls `collect`. -/
def collectEvents : List WorkerEvent :=
  [.connect true, .proceed, .proceed, .trySend .demo, .proceed, .recv, .proceed, .proceed,
    .tick 500000000, .timeout, .proceed]

theorem fresh_client_demo : ∃ w₁ w₂ w₃ w₄,
    run (Worker.step .standard Config.demo)
        (start { capacity := Reporter.skwChanSize } 0) collectEvents = some w₁
      ∧ w₁.step .standard Config.demo (.collected (some .internal)) = some w₂
      ∧ run (Worker.step .standard Config.demo) w₂
        [.connect true, .proceed, .tick 500000000, .wake] = some w₃
      ∧ w₃.step .standard Config.demo (.collected none) = some w₄
      ∧ WorkerEvent.connect true
        ∈ ([.connect true, .proceed, .tick 500000000, .wake] : List WorkerEvent) := by
  have hend : (run (Worker.step .standard Config.demo)
      (start { capacity := Reporter.skwChanSize } 0)
      (collectEvents ++ .collected (some .internal)
        :: ([.connect true, .proceed, .tick 500000000, .wake] ++ [.collected none]))).isSome := by
    decide +kernel
  obtain ⟨w₄, hall⟩ := Option.isSome_iff_exists.mp hend
  obtain ⟨w₁, hrun₁, hrest⟩ := run_append_eq_some.mp hall
  obtain ⟨w₂, hfail, hrest⟩ := run_cons_eq_some.mp hrest
  obtain ⟨w₃, hrun, hcollect⟩ := run_concat.mp hrest
  exact ⟨w₁, w₂, w₃, w₄, hrun₁, hfail, hrun, hcollect, fresh_client hfail rfl hrun hcollect⟩

/-- At the head of the loop a search for a client begins that is to replace the present one. -/
def Rotates (w w' : Worker) : Prop :=
  w.phase = .loopHead ∧ w'.phase = .retrieving .loop none

/-- When a rotation is due, `RECONNECT_SECES` seconds have passed since the last one. -/
lemma passed_of_due
    (h : reconnectSeces ≤ asSecs (Instant.durationSince w.clock w.lastReconnectTime)) :
    reconnectSeces * 1000000000 ≤ w.clock - w.lastReconnectTime :=
  (Nat.le_div_iff_mul_le (by norm_num)).mp h

/-- A rotation is due, and it is noted. -/
lemma Rotates.of_step (h : w.Rotates w') (hs : w.step b64 config .proceed = some w') :
    reconnectSeces ≤ asSecs (Instant.durationSince w.clock w.lastReconnectTime)
      ∧ w'.lastReconnectTime = w.clock ∧ w'.clock = w.clock := by
  obtain ⟨phase, phase'⟩ := h
  rw [step, proceed, phase] at hs
  simp only at hs
  split_ifs at hs with due
  · obtain rfl := Option.some.inj hs
    exact ⟨due, rfl, rfl⟩
  · obtain rfl := Option.some.inj hs
    cases phase'

/-- The last rotation is not later than the clock, and not earlier than the instant `since`. -/
structure RotatedSince (since : Instant) (w : Worker) : Prop where
  since : since ≤ w.lastReconnectTime
  clock : w.lastReconnectTime ≤ w.clock

lemma RotatedSince.step {since : Instant} (h : w.RotatedSince since)
    (hs : w.step b64 config e = some w') : w'.RotatedSince since := by
  cases step_cases hs with
  | tick => exact ⟨h.since, le_trans h.clock (Nat.le_add_right _ _)⟩
  | started phase => exact ⟨le_trans h.since h.clock, le_rfl⟩
  | rotate phase due => exact ⟨le_trans h.since h.clock, le_rfl⟩
  | @connected resume phase => cases resume <;> exact ⟨h.since, h.clock⟩
  | _ => exact ⟨h.since, h.clock⟩

/-- **Rotations are half a minute apart**: after the beginning of a search for a new client at the
head of the loop, the next one begins there only after `RECONNECT_SECES` seconds. How long a search
takes is another matter. -/
theorem rotations_spaced {w₁ w₂ w₃ w₄ : Worker}
    (hfirst : w₁.step b64 config .proceed = some w₂) (hrotates : w₁.Rotates w₂)
    (hrun : run (Worker.step b64 config) w₂ es = some w₃)
    (hagain : w₃.step b64 config .proceed = some w₄) (hrotates' : w₃.Rotates w₄) :
    w₁.clock + reconnectSeces * 1000000000 ≤ w₃.clock := by
  obtain ⟨-, hlast, hclock⟩ := hrotates.of_step hfirst
  obtain ⟨hdue, -, -⟩ := hrotates'.of_step hagain
  have hlater : w₃.RotatedSince w₁.clock :=
    run_invariant (fun _ _ _ h hs => h.step hs) ⟨hlast.ge, (hlast.trans hclock.symm).le⟩ hrun
  calc w₁.clock + reconnectSeces * 1000000000
      ≤ w₃.lastReconnectTime + reconnectSeces * 1000000000 := Nat.add_le_add_right hlater.since _
    _ ≤ w₃.clock := Nat.add_le_of_le_sub' hlater.clock (passed_of_due hdue)

/-- A receive times out, and a new client is due to be searched for. -/
def rotateEvents : List WorkerEvent :=
  [.connect true, .proceed, .proceed, .proceed, .tick 30000000000, .timeout, .proceed]

/-- The client is found, and half a minute later the next one is due. -/
def waitEvents : List WorkerEvent := [.connect true, .tick 31000000000, .timeout, .proceed]

theorem rotations_spaced_demo : ∃ w₁ w₂ w₃ w₄,
    run (Worker.step .standard Config.demo) (start { capacity := Reporter.skwChanSize } 0)
        rotateEvents = some w₁
      ∧ w₁.step .standard Config.demo .proceed = some w₂ ∧ w₁.Rotates w₂
      ∧ run (Worker.step .standard Config.demo) w₂ waitEvents = some w₃
      ∧ w₃.step .standard Config.demo .proceed = some w₄ ∧ w₃.Rotates w₄
      ∧ w₁.clock + reconnectSeces * 1000000000 ≤ w₃.clock := by
  have hphase : ∀ es phase, (run (Worker.step .standard Config.demo)
      (start { capacity := Reporter.skwChanSize } 0) es).map Worker.phase = some phase →
      ∀ w, run (Worker.step .standard Config.demo)
        (start { capacity := Reporter.skwChanSize } 0) es = some w → w.phase = phase := by
    intro es phase hmap w hw
    rw [hw] at hmap
    exact Option.some.inj hmap
  have hend : (run (Worker.step .standard Config.demo)
      (start { capacity := Reporter.skwChanSize } 0)
      (rotateEvents ++ .proceed :: (waitEvents ++ [.proceed]))).isSome := by decide +kernel
  obtain ⟨w₄, hall⟩ := Option.isSome_iff_exists.mp hend
  obtain ⟨w₁, hrun₁, hrest⟩ := run_append_eq_some.mp hall
  obtain ⟨w₂, hfirst, hrest⟩ := run_cons_eq_some.mp hrest
  obtain ⟨w₃, hrun, hagain⟩ := run_concat.mp hrest
  have hto₂ := run_concat.mpr ⟨w₁, hrun₁, hfirst⟩
  have hto₃ := run_append_eq_some.mpr ⟨w₂, hto₂, hrun⟩
  have hrotates : w₁.Rotates w₂ :=
    ⟨hphase _ .loopHead (by decide +kernel) w₁ hrun₁,
      hphase _ (.retrieving .loop none) (by decide +kernel) w₂ hto₂⟩
  have hrotates' : w₃.Rotates w₄ :=
    ⟨hphase _ .loopHead (by decide +kernel) w₃ hto₃,
      hphase _ (.retrieving .loop none) (by decide +kernel) w₄ hall⟩
  exact ⟨w₁, w₂, w₃, w₄, hrun₁, hfirst, hrotates, hrun, hagain, hrotates',
    rotations_spaced hfirst hrotates hrun hagain hrotates'⟩

end Worker

end Skywalking
