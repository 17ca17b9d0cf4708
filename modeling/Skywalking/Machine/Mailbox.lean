import Mathlib

/-!
A bounded first-in first-out channel with many senders and one receiver.

* `trySend` never waits: it refuses with `closed` once the receiver is gone, else with
  `full` when no room is left, and hands the message back with the refusal.
* `recv` takes the oldest message; on an empty channel it ends with nothing once every
  sender is gone, and has to wait (`none`) before.
-/

namespace Machine

/-- A refused message, handed back to its sender. -/
inductive TrySendError (α : Type*) where
  | full (a : α)
  | closed (a : α)
  deriving DecidableEq, Repr

/-- The state of a channel: what is queued, oldest first, and whether the two sides are
still held by someone. -/
structure Mailbox (α : Type*) where
  capacity : ℕ
  queue : List α := []
  senderAlive : Bool := true
  receiverAlive : Bool := true
  deriving Repr

namespace Mailbox

variable {α : Type*}

/-- No room is left. -/
def IsFull (m : Mailbox α) : Prop := m.capacity ≤ m.queue.length

instance (m : Mailbox α) : Decidable m.IsFull := inferInstanceAs (Decidable (_ ≤ _))

/-- `Sender::try_send`. -/
def trySend (m : Mailbox α) (a : α) : Except (TrySendError α) (Mailbox α) :=
  if m.receiverAlive = false then .error (.closed a)
  else if m.IsFull then .error (.full a)
  else .ok { m with queue := m.queue ++ [a] }

/-- `Receiver::recv`: what it returns and the channel after it, `none` while it waits. -/
def recv (m : Mailbox α) : Option (Option α × Mailbox α) :=
  match m.queue with
  | a :: rest => some (some a, { m with queue := rest })
  | [] => if m.senderAlive then none else some (none, m)

/-- An accepted message is queued behind the others, and nothing else changes. -/
lemma trySend_eq_ok {m m' : Mailbox α} {a : α} :
    m.trySend a = .ok m'
      ↔ m.receiverAlive = true ∧ ¬ m.IsFull ∧ m' = { m with queue := m.queue ++ [a] } := by
  unfold trySend
  split_ifs with hr hf
  · simp [hr]
  · simp [hf]
  · simp [hr, hf, eq_comm]

/-- What `recv` can end with. -/
lemma recv_cases {m m' : Mailbox α} {r : Option α} (h : m.recv = some (r, m')) :
    (∃ a, r = some a ∧ m.queue = a :: m'.queue ∧ m' = { m with queue := m'.queue })
      ∨ (r = none ∧ m.queue = [] ∧ m.senderAlive = false ∧ m' = m) := by
  unfold recv at h
  split at h
  · next a rest hq =>
      simp only [Option.some.injEq, Prod.mk.injEq] at h
      obtain ⟨rfl, rfl⟩ := h
      exact Or.inl ⟨a, rfl, hq, rfl⟩
  · next hq =>
      split_ifs at h with hs
      simp only [Option.some.injEq, Prod.mk.injEq] at h
      obtain ⟨rfl, rfl⟩ := h
      exact Or.inr ⟨rfl, hq, by simpa using hs, rfl⟩

/-! ### How much is queued -/

/-- No more is queued than there is room for. -/
def Fits (m : Mailbox α) : Prop := m.queue.length ≤ m.capacity

lemma Fits.of_trySend {m m' : Mailbox α} {a : α} (hs : m.trySend a = .ok m') : m'.Fits := by
  obtain ⟨-, hroom, rfl⟩ := trySend_eq_ok.mp hs
  rw [Fits, List.length_append, List.length_singleton]
  exact Nat.lt_of_not_le hroom

lemma Fits.of_recv {m m' : Mailbox α} {r : Option α} (h : m.Fits) (hr : m.recv = some (r, m')) :
    m'.Fits := by
  rcases recv_cases hr with ⟨a, -, hqueue, heq⟩ | ⟨-, -, -, rfl⟩
  · rw [Fits, hqueue, List.length_cons] at h
    rw [heq, Fits]
    exact Nat.le_of_succ_le h
  · exact h

end Mailbox

end Machine
