import Skywalking.Agent.Batching
import Skywalking.Agent.Conservation

/-!
The worker after the last sender is gone.

A receive on a channel that is closed and drained ends at once, with `None`. The worker takes
it for an entry of its buffer, where it makes a flush due like a context does, while
`transform_segments` leaves it out of the segments.

* `Worker.Spent`: the channel is closed and drained.
* `NoPhantoms`: neither an absent entry in the buffer nor a call without segments.
* `Settled`: nothing is left to be sent.
* `no_phantoms_iff`: **when there are no phantom batches** in a run of the worker.
-/

namespace Skywalking

open RustStd Machine

namespace Worker

variable {b64 : Base64} {config : Config} {w w' : Worker} {e : WorkerEvent}
  {es : List WorkerEvent}

/-- The channel is closed and drained. -/
def Spent (w : Worker) : Prop := w.channel.senderAlive = false ∧ w.channel.queue = []

instance : DecidablePred Spent := fun _ => inferInstanceAs (Decidable (_ ∧ _))

/-- The event is not a receive on a channel that is closed and drained. -/
def ReceivesUnspent (w : Worker) (e : WorkerEvent) : Prop := e = .recv → ¬ w.Spent

instance (w : Worker) (e : WorkerEvent) : Decidable (w.ReceivesUnspent e) :=
  inferInstanceAs (Decidable (e = .recv → ¬ w.Spent))

/-- A `try_send` needs a sender. -/
def SendsWithSender (w : Worker) (e : WorkerEvent) : Prop :=
  ∀ ctx, e = .trySend ctx → w.channel.senderAlive = true

instance (w : Worker) (e : WorkerEvent) : Decidable (w.SendsWithSender e) :=
  match e with
  | .trySend _ =>
      decidable_of_iff (w.channel.senderAlive = true) ⟨fun h _ _ => h, fun h => h _ rfl⟩
  | .tick _ | .dropSender | .connect _ | .wake | .recv | .timeout | .collected _ | .proceed =>
      isTrue (by simp [SendsWithSender])

/-- The buffer holds no absent entry, and no call of `collect` is or was made without
segments. -/
structure NoPhantoms (b64 : Base64) (config : Config) (w : Worker) : Prop where
  vec : none ∉ w.vec
  calls : ∀ i batch, w.phase = .collecting i batch →
    Reporter.transformSegments b64 config batch ≠ []
  collects : ∀ error, .collect [] error ∉ w.effects

/-- The channel is closed and drained, and no context is left in the buffer or in a batch. -/
structure Settled (w : Worker) : Prop where
  spent : w.Spent
  vec : Batch.contexts w.vec = []
  idle : w.phase.isIdle = true

instance : DecidablePred Settled := fun w =>
  decidable_of_iff (w.Spent ∧ Batch.contexts w.vec = [] ∧ w.phase.isIdle = true)
    ⟨fun ⟨hspent, hvec, hidle⟩ => ⟨hspent, hvec, hidle⟩, fun h => ⟨h.spent, h.vec, h.idle⟩⟩

/-- No state of a run has phantoms, and once the worker has settled, nothing is sent. -/
structure PhantomFree (b64 : Base64) (config : Config) (w₀ : Worker) (es : List WorkerEvent) :
    Prop where
  entries : ∀ es₁ es₂ w, es = es₁ ++ es₂ → run (step b64 config) w₀ es₁ = some w →
    w.NoPhantoms b64 config
  quiet : ∀ es₁ es₂ es₃ w w', es = es₁ ++ es₂ ++ es₃ → run (step b64 config) w₀ es₁ = some w →
    run (step b64 config) w es₂ = some w' → w.Settled →
    w'.effects = w.effects ∧ w'.phase.batch? = none

lemma effects_resume (w : Worker) (resume : Resume) : (w.resume resume).effects = w.effects := by
  cases resume <;> rfl

/-! ### A worker that receives nothing from a spent channel -/

/-- Every entry of the buffer and of the batch being sent is a context, and no batch is
empty. -/
structure Clean (w : Worker) : Prop where
  vec : none ∉ w.vec
  batch : ∀ batch, w.phase.batch? = some batch → batch ≠ [] ∧ none ∉ batch
  collects : ∀ error, .collect [] error ∉ w.effects

lemma clean_start (channel : Mailbox TracingContext) (clock : Instant) :
    (start channel clock).Clean :=
  ⟨List.not_mem_nil, fun _ h => (by cases h), fun _ => List.not_mem_nil⟩

/-- A batch with contexts only has as many segments. -/
lemma transformSegments_ne_nil {batch : Batch} (hne : batch ≠ []) (hsome : none ∉ batch) :
    Reporter.transformSegments b64 config batch ≠ [] := by
  cases batch with
  | nil => exact absurd rfl hne
  | cons entry batch =>
      cases entry with
      | none => exact absurd List.mem_cons_self hsome
      | some context => simp [Reporter.transformSegments]

/-- A clean worker has no phantoms. -/
lemma Clean.noPhantoms (h : w.Clean) : w.NoPhantoms b64 config := by
  refine ⟨h.vec, fun i batch phase => ?_, h.collects⟩
  obtain ⟨hne, hsome⟩ := h.batch batch (by rw [phase]; rfl)
  exact transformSegments_ne_nil hne hsome

/-- What one event adds to the effects: nothing, a call for the batch being sent, or a line
in the log. -/
lemma Step.effects_cases (h : Step b64 config w e w') :
    w'.effects = w.effects
      ∨ (∃ i batch error, w.phase = .collecting i batch
        ∧ w'.effects = w.effects
          ++ [.collect (Reporter.transformSegments b64 config batch) error])
      ∨ ∃ record, w'.effects = w.effects ++ [.log record] := by
  cases h with
  | connected phase => exact Or.inl (effects_resume w _)
  | @collected i batch phase => exact Or.inr (Or.inl ⟨i, batch, none, phase, rfl⟩)
  | @failed i batch code phase transient =>
      exact Or.inr (Or.inl ⟨i, batch, some code, phase, rfl⟩)
  | @broken i batch code phase transient =>
      exact Or.inr (Or.inl ⟨i, batch, some code, phase, rfl⟩)
  | backUp phase => exact Or.inr (Or.inr ⟨_, rfl⟩)
  | _ => exact Or.inl rfl

/-- No call is made without segments for a clean batch. -/
lemma Clean.collects_step (h : w.Clean) (hs : w.step b64 config e = some w') :
    ∀ error, .collect [] error ∉ w'.effects := by
  intro error hmem
  rcases (step_cases hs).effects_cases with heffects | ⟨i, batch, error', phase, heffects⟩ |
    ⟨record, heffects⟩
  · rw [heffects] at hmem
    exact h.collects error hmem
  · rw [heffects] at hmem
    rcases List.mem_append.mp hmem with hmem | hmem
    · exact h.collects error hmem
    · obtain ⟨hne, hsome⟩ := h.batch batch (by rw [phase]; rfl)
      obtain ⟨hsegments, -⟩ := Effect.collect.inj (List.mem_singleton.mp hmem)
      exact transformSegments_ne_nil hne hsome hsegments.symm
  · rw [heffects] at hmem
    rcases List.mem_append.mp hmem with hmem | hmem
    · exact h.collects error hmem
    · cases List.mem_singleton.mp hmem

/-- **Every event keeps a worker clean**, if it is not a receive on a spent channel. -/
theorem Clean.step (hunspent : w.ReceivesUnspent e) (h : w.Clean)
    (hs : w.step b64 config e = some w') : w'.Clean := by
  have hcollects := h.collects_step hs
  cases (step_cases hs).moves with
  | keep vec batch received =>
      refine ⟨?_, fun b hb => h.batch b (batch b hb), hcollects⟩
      rw [vec]
      exact h.vec
  | recv phase received vec phase' =>
      refine ⟨fun hmem => ?_, fun b hb => ?_, hcollects⟩
      · rw [vec] at hmem
        rcases List.mem_append.mp hmem with hmem | hmem
        · exact h.vec hmem
        · obtain rfl := List.mem_singleton.mp hmem
          rcases Mailbox.recv_cases received with ⟨a, ha, -⟩ | ⟨-, hqueue, hsender, -⟩
          · cases ha
          · exact absurd ⟨hsender, hqueue⟩ (hunspent rfl)
      · rw [phase'] at hb
        cases hb
  | skip notDue vec phase' =>
      refine ⟨?_, fun b hb => ?_, hcollects⟩
      · rw [vec]
        exact h.vec
      · rw [phase'] at hb
        cases hb
  | flush pending vec phase' =>
      refine ⟨by simp [vec], fun b hb => ?_, hcollects⟩
      rw [phase'] at hb
      obtain rfl := Option.some.inj hb
      exact ⟨pending, h.vec⟩
  | flushed vec phase' =>
      refine ⟨by simp [vec], fun b hb => ?_, hcollects⟩
      rw [phase'] at hb
      cases hb

/-! ### A settled worker -/

/-- Nothing is queued, buffered or being sent, and nothing will arrive. -/
structure Resting (effects : List Effect) (w : Worker) : Prop where
  spent : w.Spent
  vec : w.vec = []
  idle : w.phase.isIdle = true
  effects : w.effects = effects

/-- A settled worker that is clean is resting. -/
lemma Settled.resting (h : w.Settled) (hclean : w.Clean) : w.Resting w.effects := by
  refine ⟨h.spent, List.eq_nil_iff_forall_not_mem.mpr fun entry hentry => ?_, h.idle, rfl⟩
  cases entry with
  | none => exact hclean.vec hentry
  | some context =>
      have hmem : context ∈ Batch.contexts w.vec := List.mem_filterMap.mpr ⟨_, hentry, rfl⟩
      rw [h.vec] at hmem
      exact absurd hmem List.not_mem_nil

lemma batch?_of_isIdle {phase : Phase} (h : phase.isIdle = true) : phase.batch? = none := by
  cases phase with
  | retrieving resume asleep =>
      cases resume with
      | retry i batch => cases h
      | _ => rfl
  | collecting i batch => cases h
  | returned i batch status => cases h
  | pausing i batch since => cases h
  | _ => rfl

/-- A worker goes on resting in another phase. -/
lemma Resting.keep {effects : List Effect} (h : w.Resting effects)
    (hchannel : w'.channel = w.channel) (hvec : w'.vec = w.vec)
    (heffects : w'.effects = w.effects)
    (hidle : w.phase.isIdle = true → w'.phase.isIdle = true) : w'.Resting effects :=
  ⟨by rw [Spent, hchannel]; exact h.spent, hvec.trans h.vec, hidle h.idle,
    heffects.trans h.effects⟩

/-- A resting worker is not sending. -/
lemma Resting.not_busy {effects : List Effect} (h : w.Resting effects) {phase : Phase}
    (hphase : w.phase = phase) : phase.isIdle ≠ false := by
  rw [← hphase, h.idle]
  simp

/-- **A resting worker goes on resting**, if it receives nothing from its channel and nothing
is sent to it. -/
lemma Resting.step {effects : List Effect} (hunspent : w.ReceivesUnspent e)
    (hsender : w.SendsWithSender e) (h : w.Resting effects)
    (hs : w.step b64 config e = some w') : w'.Resting effects := by
  cases step_cases hs with
  | tick => exact ⟨h.spent, h.vec, h.idle, h.effects⟩
  | @accept ctx channel room =>
      have halive := hsender ctx rfl
      rw [h.spent.1] at halive
      cases halive
  | refuse refused => exact h
  | dropSender => exact ⟨⟨rfl, h.spent.2⟩, h.vec, h.idle, h.effects⟩
  | @connected resume phase =>
      refine h.keep ?_ (vec_resume w _) (effects_resume w _) ?_
      · cases resume <;> rfl
      · rw [phase]
        cases resume <;> exact id
  | @notConnected resume phase =>
      refine h.keep rfl rfl rfl ?_
      rw [phase]
      cases resume <;> exact id
  | @reconnect resume since phase slept =>
      refine h.keep rfl rfl rfl ?_
      rw [phase]
      cases resume <;> exact id
  | recv phase received => exact absurd h.spent (hunspent rfl)
  | flush phase pending due => exact absurd h.vec pending
  | timeout phase elapsed => exact h.keep rfl rfl rfl fun _ => rfl
  | starting phase => exact h.keep rfl rfl rfl fun _ => rfl
  | started phase => exact h.keep rfl rfl rfl fun _ => rfl
  | rotate phase due => exact h.keep rfl rfl rfl fun _ => rfl
  | receive phase notDue => exact h.keep rfl rfl rfl fun _ => rfl
  | skip phase notDue => exact h.keep rfl rfl rfl fun _ => rfl
  | resend phase slept => exact absurd rfl (h.not_busy phase)
  | collected phase => exact absurd rfl (h.not_busy phase)
  | failed phase transient => exact absurd rfl (h.not_busy phase)
  | broken phase transient => exact absurd rfl (h.not_busy phase)
  | succeed phase => exact absurd rfl (h.not_busy phase)
  | backUp phase => exact absurd rfl (h.not_busy phase)
  | pause phase more => exact absurd rfl (h.not_busy phase)
  | flushed phase => exact absurd rfl (h.not_busy phase)

/-! ### Phantom batches -/

/-- A receive on a spent channel leaves an absent entry in the buffer. -/
lemma phantom_of_spent (hspent : w.Spent) (hs : w.step b64 config .recv = some w') :
    none ∈ w'.vec := by
  cases step_cases hs with
  | recv phase received =>
      rcases Mailbox.recv_cases received with ⟨a, -, hqueue, -⟩ | ⟨rfl, -⟩
      · rw [hspent.2] at hqueue
        cases hqueue
      · exact List.mem_append_right _ (List.mem_singleton_self _)

/-- **When there are no phantom batches**: in a run of the worker there is neither an absent
entry nor a call without segments, and nothing is sent after the worker has settled, exactly
if nothing is received from a channel that is closed and drained. -/
theorem no_phantoms_iff {channel : Mailbox TracingContext} {clock : Instant}
    (hsends : Along (Worker.step b64 config) SendsWithSender (start channel clock) es)
    (hrun : run (Worker.step b64 config) (start channel clock) es = some w) :
    PhantomFree b64 config (start channel clock) es
      ↔ Along (Worker.step b64 config) ReceivesUnspent (start channel clock) es := by
  constructor
  · rintro hfree es₁ e es₂ w₁ rfl hw₁ rfl hspent
    obtain ⟨w₁', hw₁', hrest⟩ := run_append_eq_some.mp hrun
    obtain rfl := Option.some.inj (hw₁.symm.trans hw₁')
    obtain ⟨w₂, hs, -⟩ := run_cons_eq_some.mp hrest
    have hw₂ := run_concat.mpr ⟨w₁, hw₁, hs⟩
    exact (hfree.entries (es₁ ++ [.recv]) es₂ w₂ (by simp) hw₂).vec (phantom_of_spent hspent hs)
  · intro hunspent
    have hclean : ∀ es₁ es₂ w, es = es₁ ++ es₂ →
        run (Worker.step b64 config) (start channel clock) es₁ = some w → w.Clean := by
      rintro es₁ es₂ w rfl hw
      exact along_invariant (fun _ _ _ hG h hs => h.step hG hs) (clean_start channel clock)
        hunspent.left hw
    refine ⟨fun es₁ es₂ w hes hw => (hclean es₁ es₂ w hes hw).noPhantoms, ?_⟩
    rintro es₁ es₂ es₃ w w' hes hw hw' hsettled
    have hes' : es = es₁ ++ (es₂ ++ es₃) := by rw [hes, List.append_assoc]
    have hresting := hsettled.resting (hclean es₁ (es₂ ++ es₃) w hes' hw)
    rw [hes'] at hunspent hsends
    have halong : Along (Worker.step b64 config)
        (fun w e => w.ReceivesUnspent e ∧ w.SendsWithSender e) w es₂ := by
      intro es₁' e es₂' t ht hrun'
      exact ⟨(hunspent.right hw).left es₁' e es₂' t ht hrun',
        (hsends.right hw).left es₁' e es₂' t ht hrun'⟩
    have hrests := along_invariant (P := Resting w.effects)
      (fun _ _ _ hG h hs => h.step hG.1 hG.2 hs) hresting halong hw'
    exact ⟨hrests.effects, batch?_of_isIdle hrests.idle⟩

/-- A worker that starts and waits for contexts. -/
def startEvents : List WorkerEvent := [.connect true, .proceed, .proceed, .proceed]

/-- A context is sent, received and flushed half a second later, and then the last sender is
dropped. -/
def servedEvents : List WorkerEvent :=
  startEvents ++ [.trySend .demo, .recv, .proceed, .proceed, .tick 500000000, .timeout, .proceed,
    .collected none, .proceed, .proceed, .proceed, .dropSender]

theorem no_phantoms_demo : ∃ w,
    run (Worker.step .standard Config.demo)
        (start { capacity := Reporter.skwChanSize } 0) servedEvents = some w
      ∧ w.effects = [.collect [Reporter.genSegment .standard .demo .demo] none]
      ∧ PhantomFree .standard Config.demo (start { capacity := Reporter.skwChanSize } 0)
          servedEvents := by
  have hend : (run (Worker.step .standard Config.demo)
      (start { capacity := Reporter.skwChanSize } 0) servedEvents).map Worker.effects
        = some [.collect [Reporter.genSegment .standard .demo .demo] none] := by
    decide +kernel
  obtain ⟨w, hrun, heffects⟩ := Option.map_eq_some_iff.mp hend
  have hsends : Along (Worker.step .standard Config.demo) SendsWithSender
      (start { capacity := Reporter.skwChanSize } 0) servedEvents := by decide +kernel
  have hunspent : Along (Worker.step .standard Config.demo) ReceivesUnspent
      (start { capacity := Reporter.skwChanSize } 0) servedEvents := by decide +kernel
  exact ⟨w, hrun, heffects, (no_phantoms_iff hsends hrun).mpr hunspent⟩

/-- The last sender is dropped while the worker waits again, after half a second in which
nothing was sent. -/
def shutdownEvents : List WorkerEvent :=
  startEvents ++ [.tick 500000000, .timeout, .proceed, .proceed, .dropSender]

/-- The worker has settled in its receive. It takes the `None` of the closed channel into its
buffer, and as its last flush is half a second old, it sends it at once as a batch without
segments. -/
theorem phantom_batch : ∃ w₁ w₂ w₃,
    run (Worker.step .standard Config.demo) (start { capacity := Reporter.skwChanSize } 0)
        shutdownEvents = some w₁
      ∧ w₁.step .standard Config.demo .recv = some w₂
      ∧ run (Worker.step .standard Config.demo) w₂ [.proceed, .collected none] = some w₃
      ∧ w₁.Settled ∧ w₁.effects = [] ∧ none ∈ w₂.vec ∧ w₃.effects = [.collect [] none]
      ∧ ¬ PhantomFree .standard Config.demo (start { capacity := Reporter.skwChanSize } 0)
        (shutdownEvents ++ .recv :: [.proceed, .collected none]) := by
  have hend : (run (Worker.step .standard Config.demo)
      (start { capacity := Reporter.skwChanSize } 0)
      (shutdownEvents ++ .recv :: [.proceed, .collected none])).map Worker.effects
        = some [.collect [] none] := by decide +kernel
  have hbefore : (run (Worker.step .standard Config.demo)
      (start { capacity := Reporter.skwChanSize } 0) shutdownEvents).map
        (fun w => decide w.Settled && decide (w.effects = [])) = some true := by decide +kernel
  obtain ⟨w₃, hall, heffects₃⟩ := Option.map_eq_some_iff.mp hend
  obtain ⟨w₁, hrun₁, hw₁⟩ := Option.map_eq_some_iff.mp hbefore
  rw [Bool.and_eq_true, decide_eq_true_iff, decide_eq_true_iff] at hw₁
  obtain ⟨hsettled, heffects₁⟩ := hw₁
  obtain ⟨w₁', hrun₁', hrest⟩ := run_append_eq_some.mp hall
  obtain rfl := Option.some.inj (hrun₁.symm.trans hrun₁')
  obtain ⟨w₂, hrecv, hrun₃⟩ := run_cons_eq_some.mp hrest
  have hphantom := phantom_of_spent hsettled.spent hrecv
  refine ⟨w₁, w₂, w₃, hrun₁, hrecv, hrun₃, hsettled, heffects₁, hphantom, heffects₃, ?_⟩
  intro hfree
  exact (hfree.entries (shutdownEvents ++ [.recv]) [.proceed, .collected none] w₂ (by simp)
    (run_concat.mpr ⟨w₁, hrun₁, hrecv⟩)).vec hphantom

end Worker

end Skywalking
