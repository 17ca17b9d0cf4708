import Skywalking.Loss
import Skywalking.Agent.Finality
import Skywalking.Machine.Delivery

/-!
The process as a delivery service for finished segments. The scopes hand their contexts in;
the worker takes them, or the full channel refuses them; they leave in batches, of which each
is acknowledged or written to the log.

* `Process.worker_cases`: what an event is for the worker.
* `Process.Delivers`: the process is in the state of a delivery service.
* `delivers_of_run`: **the process refines the service**: each event is matched by events in
  which exactly the contexts that scopes report are handed in.
* `reported_accounted`: **where every reported context is**, and how many wait at most.
-/

namespace Skywalking

open RustStd Machine
open scoped List

namespace Process

variable {b64 : Base64} {reporter : Reporter} {p p' : Process} {e : ProcessEvent}

/-- The contexts whose hand-over was refused. -/
def refusals (p : Process) : List TracingContext :=
  (p.handOvers.filter fun h => !h.returned).map HandOver.context

/-- **What an event is for the worker**: an event of its own, or else some scopes hand over
contexts. -/
theorem worker_cases (hs : p.step b64 reporter e = some p') (he : e ≠ .dropReceiver) :
    (∃ we, e = .worker we ∧ we ≠ .dropSender ∧ (∀ ctx, we ≠ .trySend ctx)
        ∧ p.worker.step b64 reporter.workerConfig we = some p'.worker
        ∧ p'.handOvers = p.handOvers)
      ∨ (∀ we, e ≠ .worker we) ∧ ∃ (q : Process) (contexts : List TracingContext),
        q.worker = p.worker ∧ q.handOvers = p.handOvers ∧ p' = contexts.foldl handOver q := by
  cases e with
  | enter traceDraw segmentDraw =>
      rw [Process.step] at hs
      split at hs
      · next current _ =>
          obtain rfl := Option.some.inj hs
          exact Or.inr ⟨by simp, { p with scopes := p.scopes ++ [Scope.enter current] }, [], rfl,
            rfl, rfl⟩
      · exact absurd hs (by simp)
  | call i op =>
      obtain ⟨s, -, hs⟩ := Option.bind_eq_some_iff.mp hs
      obtain ⟨s', -, hs⟩ := Option.bind_eq_some_iff.mp hs
      obtain rfl := Option.some.inj hs
      exact Or.inr ⟨by simp, { p with scopes := p.scopes.set i s' }, _, rfl, rfl, rfl⟩
  | finishForeign k i j now now' =>
      obtain ⟨a, -, hs⟩ := Option.bind_eq_some_iff.mp hs
      obtain ⟨span, -, hs⟩ := Option.bind_eq_some_iff.mp hs
      obtain ⟨b, -, hs⟩ := Option.bind_eq_some_iff.mp hs
      split_ifs at hs
      obtain rfl := Option.some.inj hs
      exact Or.inr ⟨by simp, { p with
        scopes := (p.scopes.set i { a with held := a.held.set k none }).set j
          (b.finishForeign span now now') }, _, rfl, rfl, rfl⟩
  | worker we =>
      cases we with
      | trySend ctx => exact absurd hs (by simp [Process.step])
      | dropSender => exact absurd hs (by simp [Process.step])
      | _ =>
          obtain ⟨worker, hworker, rfl⟩ := worker_step hs (by simp) (by simp)
          exact Or.inl ⟨_, rfl, by simp, by simp, hworker, rfl⟩
  | dropReceiver => exact absurd rfl he

end Process

/-- Only a `try_send` makes the channel accept something. -/
lemma Worker.Step.accepted_eq {b64 : Base64} {config : Config} {w w' : Worker} {e : WorkerEvent}
    (h : Step b64 config w e w') (he : ∀ ctx, e ≠ .trySend ctx) : w'.accepted = w.accepted := by
  cases h with
  | accept room => exact absurd rfl (he _)
  | connected phase => exact accepted_resume w _
  | _ => rfl

/-! ### How much waits at most -/

namespace Worker

variable {b64 : Base64} {config : Config} {w w' : Worker} {e : WorkerEvent}
  {channel : Mailbox TracingContext}

/-- The worker still has the channel it was started with, which holds no more than it has
room for. -/
structure Housed (channel : Mailbox TracingContext) (w : Worker) : Prop where
  fits : w.channel.Fits
  capacity : w.channel.capacity = channel.capacity
  receiver : w.channel.receiverAlive = channel.receiverAlive

lemma housed_start (hempty : channel.queue = []) (clock : Instant) :
    (start channel clock).Housed channel := by
  refine ⟨?_, rfl, rfl⟩
  rw [start, Mailbox.Fits, hempty]
  exact Nat.zero_le _

lemma Housed.of_channel (h : w.Housed channel) (hchannel : w'.channel = w.channel) :
    w'.Housed channel :=
  ⟨hchannel ▸ h.fits, hchannel ▸ h.capacity, hchannel ▸ h.receiver⟩

theorem Housed.step (h : w.Housed channel) (hs : w.step b64 config e = some w') :
    w'.Housed channel := by
  cases step_cases hs with
  | accept room =>
      obtain ⟨-, -, heq⟩ := Mailbox.trySend_eq_ok.mp room
      refine ⟨.of_trySend room, ?_, ?_⟩
      · rw [heq]
        exact h.capacity
      · rw [heq]
        exact h.receiver
  | recv phase received =>
      have hfits := h.fits.of_recv received
      rcases Mailbox.recv_cases received with ⟨a, -, -, heq⟩ | ⟨-, -, -, rfl⟩
      · refine ⟨hfits, ?_, ?_⟩
        · rw [heq]
          exact h.capacity
        · rw [heq]
          exact h.receiver
      · exact ⟨hfits, h.capacity, h.receiver⟩
  | dropSender => exact ⟨h.fits, h.capacity, h.receiver⟩
  | connected phase => exact h.of_channel (channel_resume w _)
  | _ => exact h.of_channel rfl

/-- A full queue, and a buffer or a batch, wait at most. -/
lemma length_backlog_le (hhoused : w.Housed channel) (hbounded : w.Bounded) :
    w.backlog.length ≤ channel.capacity + 501 := by
  have hcontexts : ∀ batch : Batch, batch.contexts.length ≤ batch.length :=
    fun batch => List.length_filterMap_le _ _
  have hqueue : w.channel.queue.length ≤ channel.capacity := hhoused.capacity ▸ hhoused.fits
  have hvec := (hcontexts w.vec).trans hbounded.received
  rw [backlog, List.length_append, List.length_append]
  cases hbatch : w.phase.batch? with
  | none =>
      rw [Option.getD_none, Batch.contexts_nil, List.length_nil]
      omega
  | some batch =>
      obtain ⟨hnil, -, hsize⟩ := hbounded.batch batch hbatch
      have hlength := (hcontexts batch).trans hsize
      rw [hnil, Batch.contexts_nil, Option.getD_some, List.length_nil]
      omega

end Worker

/-! ### The simulation -/

namespace Process

variable {b64 : Base64} {reporter : Reporter} {p p' : Process} {e : ProcessEvent}
  {d : Delivery TracingContext Disposal}

/-- The process is in the state `d` of a delivery service: the books of its worker are about
the parcels of the service, which hold the contexts of the batches. -/
structure Delivers (b64 : Base64) (reporter : Reporter) (p : Process)
    (d : Delivery TracingContext Disposal) : Prop where
  books : ∃ batch pending,
    Books b64 reporter.workerConfig p.worker (d.settled.map Prod.fst) batch pending
  parcels : ∀ parcel ∈ d.settled, parcel.2 = parcel.1.batch.contexts
  waiting : d.waiting = p.worker.backlog
  refused : d.refused = p.refusals

/-- The parcels hold what was disposed of. -/
lemma Delivers.sent_eq (h : Delivers b64 reporter p d) :
    d.sent = (d.settled.map Prod.fst).flatMap fun disposal => disposal.batch.contexts := by
  rw [Delivery.sent, List.flatMap_map]
  exact List.flatMap_congr fun parcel hparcel => h.parcels parcel hparcel

/-- A hand-over is matched by the service, which takes the context or refuses it. -/
lemma Delivers.handOver (h : Delivers b64 reporter p d) (context : TracingContext) :
    ∃ de d', d.step de = some d' ∧ de.handedIn? = some context
      ∧ Delivers b64 reporter (p.handOver context) d' := by
  obtain ⟨batch, pending, hbooks⟩ := h.books
  cases hsend : p.worker.channel.trySend context with
  | ok channel =>
      obtain ⟨-, -, rfl⟩ := Mailbox.trySend_eq_ok.mp hsend
      have hof : HandOver.of p.worker.channel context = ⟨context, p.worker.channel,
          { p.worker.channel with queue := p.worker.channel.queue ++ [context] }, true, []⟩ := by
        rw [HandOver.of, Reporter.reportTrace, hsend]
      have hp : p.handOver context = { p with
          worker := { p.worker with
            channel := { p.worker.channel with queue := p.worker.channel.queue ++ [context] }
            accepted := p.worker.accepted ++ [context] }
          handOvers := p.handOvers ++ [HandOver.of p.worker.channel context] } := by
        rw [Process.handOver, hof]
        rfl
      refine ⟨.take context, _, rfl, rfl, ?_, h.parcels, ?_, ?_⟩
      · rw [hp]
        refine ⟨batch, pending, hbooks.sending, hbooks.effects_eq, ?_⟩
        simp only [hbooks.accepted_eq, List.append_assoc]
      · rw [hp, h.waiting]
        simp only [Worker.backlog, List.append_assoc]
      · rw [hp, h.refused, refusals, refusals, List.filter_append, hof]
        simp
  | error error =>
      have hof : HandOver.of p.worker.channel context = ⟨context, p.worker.channel,
          p.worker.channel, false, (HandOver.of p.worker.channel context).logged⟩ := by
        cases error <;> simp [HandOver.of, Reporter.reportTrace, hsend]
      have hp : p.handOver context = { p with
          handOvers := p.handOvers ++ [HandOver.of p.worker.channel context] } := by
        rw [Process.handOver, hof]
        simp
      refine ⟨.refuse context, _, rfl, rfl, ?_, h.parcels, ?_, ?_⟩
      · rw [hp]
        exact ⟨batch, pending, hbooks⟩
      · rw [hp]
        exact h.waiting
      · rw [hp, h.refused, refusals, refusals, List.filter_append, hof]
        simp

/-- Hand-overs are matched one after the other. -/
lemma Delivers.foldl_handOver (h : Delivers b64 reporter p d) (contexts : List TracingContext) :
    ∃ des d', run Delivery.step d des = some d' ∧ des.filterMap DeliveryEvent.handedIn? = contexts
      ∧ Delivers b64 reporter (contexts.foldl Process.handOver p) d' := by
  induction contexts generalizing p d with
  | nil => exact ⟨[], d, rfl, rfl, h⟩
  | cons context contexts ih =>
      obtain ⟨de, d₁, hs, hcontext, h₁⟩ := h.handOver context
      obtain ⟨des, d', hrun, hcontexts, h'⟩ := ih h₁
      exact ⟨de :: des, d', run_cons_eq_some.mpr ⟨d₁, hs, hrun⟩,
        by rw [List.filterMap_cons, hcontext, hcontexts], h'⟩

/-- An event of the worker is matched by the parcels that leave in it. -/
lemma Delivers.worker (h : Delivers b64 reporter p d) {we : WorkerEvent}
    (hwe : ∀ ctx, we ≠ .trySend ctx)
    (hs : p.worker.step b64 reporter.workerConfig we = some p'.worker)
    (hhandOvers : p'.handOvers = p.handOvers) :
    ∃ des d', run Delivery.step d des = some d' ∧ des.filterMap DeliveryEvent.handedIn? = []
      ∧ Delivers b64 reporter p' d' := by
  obtain ⟨batch, pending, hbooks⟩ := h.books
  obtain ⟨new, batch', pending', hbooks'⟩ := hbooks.of_run (run_cons_eq_some.mpr ⟨_, hs, run_nil _⟩)
  let parcels : List (Disposal × List TracingContext) := new.map fun d => (d, d.batch.contexts)
  have hleft : d.waiting = parcels.flatMap Prod.snd ++ p'.worker.backlog := by
    have haccepted := (Worker.step_cases hs).accepted_eq hwe
    rw [hbooks.accepted_eq_backlog, hbooks'.accepted_eq_backlog, List.flatMap_append,
      List.append_assoc] at haccepted
    rw [h.waiting, ← List.append_cancel_left haccepted, List.flatMap_map]
  refine ⟨_, _, Delivery.run_settles hleft, ?_, ?_, ?_, rfl, ?_⟩
  · rw [List.filterMap_map]
    exact List.filterMap_eq_nil_iff.mpr fun _ _ => rfl
  · refine ⟨batch', pending', ?_⟩
    have hfst : parcels.map Prod.fst = new := by
      rw [List.map_map]
      exact List.map_id new
    rw [List.map_append, hfst]
    exact hbooks'
  · intro parcel hparcel
    rcases List.mem_append.mp hparcel with hparcel | hparcel
    · exact h.parcels parcel hparcel
    · obtain ⟨disposal, -, rfl⟩ := List.mem_map.mp hparcel
      rfl
  · rw [refusals, hhandOvers]
    exact h.refused

/-- **An event of the process is matched by the service**, to which exactly the contexts are
handed in that are handed over in it. -/
theorem Delivers.step (h : Delivers b64 reporter p d) (hs : p.step b64 reporter e = some p')
    (he : e ≠ .dropReceiver) :
    ∃ des d', run Delivery.step d des = some d'
      ∧ p'.handOvers.map HandOver.context
        = p.handOvers.map HandOver.context ++ des.filterMap DeliveryEvent.handedIn?
      ∧ Delivers b64 reporter p' d' := by
  rcases worker_cases hs he with ⟨we, -, -, hwe, hstep, hhandOvers⟩ |
    ⟨-, q, contexts, hworker, hhandOvers, rfl⟩
  · obtain ⟨des, d', hrun, hnone, h'⟩ := h.worker hwe hstep hhandOvers
    exact ⟨des, d', hrun, by rw [hnone, hhandOvers, List.append_nil], h'⟩
  · have hq : Delivers b64 reporter q d := by
      refine ⟨?_, h.parcels, ?_, ?_⟩
      · rw [hworker]
        exact h.books
      · rw [hworker]
        exact h.waiting
      · rw [refusals, hhandOvers]
        exact h.refused
    obtain ⟨des, d', hrun, hcontexts, h'⟩ := hq.foldl_handOver contexts
    obtain ⟨-, hs, hmore, hmap, -⟩ := Process.foldl_handOver contexts q
    exact ⟨des, d', hrun, by rw [hmore, List.map_append, hmap, hhandOvers, hcontexts], h'⟩

/-! ### Where every reported context is -/

/-- What every event of the worker keeps, other than the drop of the last sender, every
event of the process keeps. -/
lemma worker_invariant_step {P : Worker → Prop} (hstep : ∀ w we w', we ≠ .dropSender → P w →
      w.step b64 reporter.workerConfig we = some w' → P w') (h : P p.worker)
    (hs : p.step b64 reporter e = some p') (he : e ≠ .dropReceiver) : P p'.worker := by
  rcases worker_cases hs he with ⟨we, -, hwe, -, hwstep, -⟩ | ⟨-, q, contexts, hworker, -, rfl⟩
  · exact hstep _ we _ hwe h hwstep
  · rw [← hworker] at h
    clear hs hworker
    induction contexts generalizing q with
    | nil => exact h
    | cons context contexts ih =>
        exact ih _ (hstep _ _ _ (by simp) h (worker_handOver q context _))

/-- **The rule of invariants of the worker in a process**. -/
theorem worker_invariant {P : Worker → Prop} {clock : Instant} {es : List ProcessEvent}
    (hstep : ∀ w we w', we ≠ .dropSender → P w →
      w.step b64 reporter.workerConfig we = some w' → P w')
    (h₀ : P (Worker.start reporter.channel clock))
    (hrun : run (Process.step b64 reporter) (start reporter clock) es = some p)
    (hes : .dropReceiver ∉ es) : P p.worker := by
  refine run_induction (P := fun es p => .dropReceiver ∉ es → P p.worker) (fun _ => h₀)
    (fun es p e p' _ ih hs hes' => ?_) hrun hes
  refine worker_invariant_step hstep (ih fun h => hes' (List.mem_append_left _ h)) hs ?_
  rintro rfl
  exact hes' (List.mem_append_right _ (List.mem_singleton_self _))

/-- The worker of a process is in order at any time. -/
lemma orderly_of_run {clock : Instant} {es : List ProcessEvent}
    (hempty : reporter.channel.queue = []) (hsender : reporter.channel.senderAlive = true)
    (hrun : run (Process.step b64 reporter) (start reporter clock) es = some p)
    (hes : .dropReceiver ∉ es) : p.worker.Orderly b64 reporter.workerConfig :=
  worker_invariant (fun _ _ _ he h hs => h.step he hs) (Worker.orderly_start hempty hsender clock)
    hrun hes

lemma housed_of_run {clock : Instant} {es : List ProcessEvent}
    (hempty : reporter.channel.queue = [])
    (hrun : run (Process.step b64 reporter) (start reporter clock) es = some p)
    (hes : .dropReceiver ∉ es) : p.worker.Housed reporter.channel :=
  worker_invariant (fun _ _ _ _ h hs => h.step hs) (Worker.housed_start hempty clock) hrun hes

/-- Every hand-over of a run found the receiver as it was at the start. -/
lemma receiverAlive_of_run {clock : Instant} {es : List ProcessEvent}
    (hempty : reporter.channel.queue = [])
    (hrun : run (Process.step b64 reporter) (start reporter clock) es = some p)
    (hes : .dropReceiver ∉ es) :
    ∀ h ∈ p.handOvers, h.before.receiverAlive = reporter.channel.receiverAlive := by
  refine run_induction (P := fun es p => .dropReceiver ∉ es →
      ∀ h ∈ p.handOvers, h.before.receiverAlive = reporter.channel.receiverAlive)
    (fun _ _ h => absurd h List.not_mem_nil) (fun es p e p' hrun ih hs hes' => ?_) hrun hes
  have hbefore : .dropReceiver ∉ es := fun h => hes' (List.mem_append_left _ h)
  have he : e ≠ .dropReceiver := by
    rintro rfl
    exact hes' (List.mem_append_right _ (List.mem_singleton_self _))
  have hhoused := housed_of_run hempty hrun hbefore
  rcases worker_cases hs he with ⟨we, -, -, -, -, hsame⟩ | ⟨-, q, contexts, hworker, hsame, rfl⟩
  · rw [hsame]
    exact ih hbefore
  · have hq := ih hbefore
    rw [← hsame] at hq
    rw [← hworker] at hhoused
    clear hs hworker hsame
    induction contexts generalizing q with
    | nil => exact hq
    | cons context contexts ih' =>
        refine ih' (q.handOver context)
          (hhoused.step (@worker_handOver b64 q context reporter.workerConfig))
          (fun h hh => ?_)
        rcases List.mem_append.mp hh with hh | hh
        · exact hq h hh
        · rw [List.mem_singleton.mp hh]
          exact hhoused.receiver

/-- As long as there is a receiver, only a full channel refuses. -/
lemma returned_eq_false_iff {clock : Instant} {es : List ProcessEvent}
    (hempty : reporter.channel.queue = []) (halive : reporter.channel.receiverAlive = true)
    (hrun : run (Process.step b64 reporter) (start reporter clock) es = some p)
    (hes : .dropReceiver ∉ es) : ∀ h ∈ p.handOvers, h.returned = false ↔ h.MetFull := by
  intro h hh
  have hreceiver := (receiverAlive_of_run hempty hrun hes h hh).trans halive
  have hfrom : h = HandOver.of h.before h.context := (sound_of_run hrun).fromReport h hh
  rw [HandOver.MetFull, and_iff_right hreceiver, hfrom]
  by_cases hfull : h.before.IsFull
  · simp [HandOver.of, Reporter.reportTrace, Mailbox.trySend, hreceiver, hfull]
  · simp [HandOver.of, Reporter.reportTrace, Mailbox.trySend, hreceiver, hfull]

/-- A run is matched by a run of the service, to which the contexts are handed in one after the
other as they are handed over. -/
lemma exists_delivery {clock : Instant} {es : List ProcessEvent}
    (hempty : reporter.channel.queue = [])
    (hrun : run (Process.step b64 reporter) (start reporter clock) es = some p)
    (hes : .dropReceiver ∉ es) :
    ∃ des d, run Delivery.step (.opened : Delivery TracingContext Disposal) des = some d
      ∧ p.handOvers.map HandOver.context = des.filterMap DeliveryEvent.handedIn?
      ∧ Delivers b64 reporter p d := by
  refine run_induction (P := fun es p => .dropReceiver ∉ es → ∃ des d,
    run Delivery.step (.opened : Delivery TracingContext Disposal) des = some d
      ∧ p.handOvers.map HandOver.context = des.filterMap DeliveryEvent.handedIn?
      ∧ Delivers b64 reporter p d) (fun _ => ?_) (fun es p e p' _ ih hs hes' => ?_) hrun hes
  · refine ⟨[], .opened, rfl, rfl, ?_, fun _ h => absurd h List.not_mem_nil, ?_, rfl⟩
    · exact ⟨[], [], .idle rfl, rfl, by rw [start, Worker.start, hempty]; rfl⟩
    · rw [start, Worker.start, Worker.backlog, hempty]
      rfl
  · obtain ⟨des, d, hdes, hcontexts, hdelivers⟩ := ih fun h => hes' (List.mem_append_left _ h)
    have he : e ≠ .dropReceiver := by
      rintro rfl
      exact hes' (List.mem_append_right _ (List.mem_singleton_self _))
    obtain ⟨more, d', hmore, hcontexts', hdelivers'⟩ := hdelivers.step hs he
    refine ⟨des ++ more, d', run_append_eq_some.mpr ⟨d, hdes, hmore⟩, ?_, hdelivers'⟩
    rw [hcontexts', hcontexts, List.filterMap_append]

/-- **The process is a delivery service**: every run of it is matched by a run of the service,
to which exactly the contexts are handed in that the scopes have reported. -/
theorem delivers_of_run {clock : Instant} {es : List ProcessEvent}
    (hempty : reporter.channel.queue = [])
    (hrun : run (Process.step b64 reporter) (start reporter clock) es = some p)
    (hes : .dropReceiver ∉ es) :
    ∃ (des : List (DeliveryEvent TracingContext Disposal))
      (d : Delivery TracingContext Disposal), run Delivery.step .opened des = some d
        ∧ (des.filterMap DeliveryEvent.handedIn?).Perm (p.scopes.flatMap Scope.reported)
        ∧ Delivers b64 reporter p d := by
  obtain ⟨des, d, hdes, hcontexts, hdelivers⟩ := exists_delivery hempty hrun hes
  exact ⟨des, d, hdes, hcontexts ▸ (sound_of_run hrun).contexts, hdelivers⟩

/-- What the scopes of a run have reported was accepted or refused. -/
lemma reported_perm {clock : Instant} {es : List ProcessEvent}
    (hempty : reporter.channel.queue = [])
    (hrun : run (Process.step b64 reporter) (start reporter clock) es = some p)
    (hes : .dropReceiver ∉ es) :
    (p.scopes.flatMap Scope.reported).Perm (p.worker.accepted ++ p.refusals) := by
  obtain ⟨des, d, hdes, hcontexts, hdelivers⟩ := exists_delivery hempty hrun hes
  obtain ⟨batch, pending, hbooks⟩ := hdelivers.books
  calc p.scopes.flatMap Scope.reported
      ~ p.handOvers.map HandOver.context := (sound_of_run hrun).contexts.symm
    _ = des.filterMap DeliveryEvent.handedIn? := hcontexts
    _ ~ d.sent ++ d.waiting ++ d.refused := (Delivery.conserved_of_run hdes).2.2
    _ = p.worker.accepted ++ p.refusals := by
        rw [hdelivers.sent_eq, hdelivers.waiting, hdelivers.refused, hbooks.accepted_eq_backlog]

/-- **Where every reported context is**: as long as the receiver is not dropped, the contexts that
the scopes of a run have reported are those of the batches disposed of, those in the backlog of the
worker, and those that were refused by a full channel. No more than the capacity of the channel and
one batch are in the backlog at any time. -/
theorem reported_accounted {clock : Instant} {es : List ProcessEvent}
    (hempty : reporter.channel.queue = []) (hsender : reporter.channel.senderAlive = true)
    (halive : reporter.channel.receiverAlive = true)
    (hrun : run (Process.step b64 reporter) (start reporter clock) es = some p)
    (hes : .dropReceiver ∉ es) :
    ∃ ds batch pending, Books b64 reporter.workerConfig p.worker ds batch pending
      ∧ (p.scopes.flatMap Scope.reported).Perm
        ((ds.flatMap fun d => d.batch.contexts) ++ p.worker.backlog ++ p.refusals)
      ∧ (∀ h ∈ p.handOvers, h.returned = false ↔ h.MetFull)
      ∧ p.worker.backlog.length ≤ reporter.channel.capacity + 501 := by
  have horderly : p.worker.Orderly b64 reporter.workerConfig :=
    orderly_of_run hempty hsender hrun hes
  obtain ⟨ds, batch, pending, hbooks⟩ := horderly.accounts
  refine ⟨ds, batch, pending, hbooks, ?_, returned_eq_false_iff hempty halive hrun hes,
    Worker.length_backlog_le (housed_of_run hempty hrun hes) horderly.bounded⟩
  rw [← hbooks.accepted_eq_backlog]
  exact reported_perm hempty hrun hes

end Process

/-- A scope reports its context, and the worker sends it half a second later. -/
def reportEvents : List ProcessEvent :=
  rounds 1 ++ ([.connect true, .proceed, .proceed, .proceed, .recv, .proceed, .proceed,
    .tick 500000000, .timeout, .proceed, .collected none, .proceed] : List WorkerEvent).map .worker

theorem Process.delivers_of_run_demo : ∃ p,
    run (Process.step .standard .demo) (Process.start .demo 0) reportEvents = some p
      ∧ ∃ (des : List (DeliveryEvent TracingContext Disposal))
        (d : Delivery TracingContext Disposal), run Delivery.step .opened des = some d
          ∧ (des.filterMap DeliveryEvent.handedIn?).Perm (p.scopes.flatMap Scope.reported)
          ∧ Process.Delivers .standard .demo p d := by
  obtain ⟨p, hrun⟩ : ∃ p, run (Process.step .standard .demo) (Process.start .demo 0)
    reportEvents = some p := Option.isSome_iff_exists.mp (by decide +kernel)
  exact ⟨p, hrun, Process.delivers_of_run rfl hrun (by simp [reportEvents, rounds, round])⟩

theorem Process.reported_accounted_demo : ∃ p,
    run (Process.step .standard .demo) (Process.start .demo 0) reportEvents = some p
      ∧ ∃ ds batch pending, Books .standard Reporter.demo.workerConfig p.worker ds batch pending
        ∧ (p.scopes.flatMap Scope.reported).Perm
          ((ds.flatMap fun d => d.batch.contexts) ++ p.worker.backlog ++ p.refusals)
        ∧ (∀ h ∈ p.handOvers, h.returned = false ↔ h.MetFull)
        ∧ p.worker.backlog.length ≤ Reporter.demo.channel.capacity + 501 := by
  obtain ⟨p, hrun⟩ : ∃ p, run (Process.step .standard .demo) (Process.start .demo 0)
    reportEvents = some p := Option.isSome_iff_exists.mp (by decide +kernel)
  exact ⟨p, hrun, Process.reported_accounted rfl rfl rfl hrun
    (by simp [reportEvents, rounds, round])⟩

end Skywalking
