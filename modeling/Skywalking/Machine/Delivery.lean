import Skywalking.Machine.Run

/-!
A delivery service, as its customers see it. Each item that is handed in is taken or refused
at once. What was taken waits, and leaves in the order in which it came, in parcels; each
parcel has a fate, which never changes.

* `Delivery.step`, `Delivery.opened`: the service.
* `conserved_of_run`: **nothing is lost, sent twice or overtaken**.
* `run_settles`: parcels that leave one after the other.
-/

namespace Machine

open scoped List

/-- What was taken and waits, the parcels that have left with their fates, and what was
refused. -/
structure Delivery (α φ : Type*) where
  waiting : List α
  settled : List (φ × List α)
  refused : List α

/-- What can happen. -/
inductive DeliveryEvent (α φ : Type*) where
  | take (a : α)
  | refuse (a : α)
  /-- The first `n` items that wait leave as a parcel. -/
  | settle (fate : φ) (n : ℕ)

namespace DeliveryEvent

variable {α φ : Type*}

/-- The item that was taken. -/
def taken? : DeliveryEvent α φ → Option α
  | .take a => some a
  | _ => none

/-- The item that was refused. -/
def refused? : DeliveryEvent α φ → Option α
  | .refuse a => some a
  | _ => none

/-- The item that was handed in. -/
def handedIn? : DeliveryEvent α φ → Option α
  | .take a => some a
  | .refuse a => some a
  | .settle _ _ => none

end DeliveryEvent

namespace Delivery

variable {α φ : Type*} {d d' : Delivery α φ} {es : List (DeliveryEvent α φ)}

/-- The service before anything was handed in. -/
def opened : Delivery α φ where
  waiting := []
  settled := []
  refused := []

/-- One event: `none` where not enough items wait. -/
def step (d : Delivery α φ) : DeliveryEvent α φ → Option (Delivery α φ)
  | .take a => some { d with waiting := d.waiting ++ [a] }
  | .refuse a => some { d with refused := d.refused ++ [a] }
  | .settle fate n =>
      if n ≤ d.waiting.length then
        some { d with
          waiting := d.waiting.drop n
          settled := d.settled ++ [(fate, d.waiting.take n)] }
      else none

/-- The items that have left. -/
def sent (d : Delivery α φ) : List α := d.settled.flatMap Prod.snd

/-- **Nothing is lost, sent twice or overtaken**: what was taken is what has left and what
waits, in this order, and nothing else was handed in but what was refused. -/
theorem conserved_of_run (hrun : run step (opened : Delivery α φ) es = some d) :
    es.filterMap DeliveryEvent.taken? = d.sent ++ d.waiting
      ∧ es.filterMap DeliveryEvent.refused? = d.refused
      ∧ (es.filterMap DeliveryEvent.handedIn?).Perm (d.sent ++ d.waiting ++ d.refused) := by
  refine run_induction (P := fun es d => es.filterMap DeliveryEvent.taken? = d.sent ++ d.waiting
      ∧ es.filterMap DeliveryEvent.refused? = d.refused
      ∧ (es.filterMap DeliveryEvent.handedIn?).Perm (d.sent ++ d.waiting ++ d.refused))
    ⟨rfl, rfl, List.Perm.refl _⟩ (fun es d e d' _ ih hs => ?_) hrun
  obtain ⟨htaken, hrefused, hperm⟩ := ih
  cases e with
  | take a =>
      obtain rfl := Option.some.inj hs
      refine ⟨?_, ?_, ?_⟩
      · rw [List.filterMap_append, htaken]
        exact List.append_assoc _ _ _
      · rw [List.filterMap_append, hrefused]
        exact List.append_nil _
      · rw [List.filterMap_append]
        calc es.filterMap DeliveryEvent.handedIn? ++ [a]
            ~ d.sent ++ d.waiting ++ d.refused ++ [a] := hperm.append_right _
          _ ~ d.sent ++ (d.waiting ++ [a]) ++ d.refused := by
              rw [List.append_assoc, ← List.append_assoc d.sent, List.append_assoc _ [a]]
              exact List.Perm.append_left _ List.perm_append_comm
  | refuse a =>
      obtain rfl := Option.some.inj hs
      refine ⟨?_, ?_, ?_⟩
      · rw [List.filterMap_append, htaken]
        exact List.append_nil _
      · rw [List.filterMap_append, hrefused]
        rfl
      · rw [List.filterMap_append]
        exact (hperm.append_right _).trans (by rw [List.append_assoc]; rfl)
  | settle fate n =>
      rw [step] at hs
      split_ifs at hs with hn
      obtain rfl := Option.some.inj hs
      have hsame : d.sent ++ d.waiting = sent { d with
          waiting := d.waiting.drop n
          settled := d.settled ++ [(fate, d.waiting.take n)] } ++ d.waiting.drop n := by
        rw [sent, sent, List.flatMap_append, List.flatMap_singleton, List.append_assoc,
          List.take_append_drop]
      refine ⟨?_, ?_, ?_⟩
      · rw [List.filterMap_append, htaken, hsame]
        exact List.append_nil _
      · rw [List.filterMap_append, hrefused]
        exact List.append_nil _
      · rw [hsame] at hperm
        rw [List.filterMap_append]
        exact (List.append_nil _).symm ▸ hperm

/-- Parcels leave one after the other. -/
lemma run_settles {parcels : List (φ × List α)} {rest : List α}
    (hwaiting : d.waiting = parcels.flatMap Prod.snd ++ rest) :
    run step d (parcels.map fun parcel => .settle parcel.1 parcel.2.length)
      = some { d with waiting := rest, settled := d.settled ++ parcels } := by
  induction parcels generalizing d with
  | nil =>
      obtain ⟨waiting, settled, refused⟩ := d
      obtain rfl : waiting = rest := by simpa using hwaiting
      simp
  | cons parcel parcels ih =>
      obtain ⟨fate, items⟩ := parcel
      rw [List.flatMap_cons, List.append_assoc] at hwaiting
      have hs : d.step (.settle fate items.length) = some { d with
          waiting := parcels.flatMap Prod.snd ++ rest
          settled := d.settled ++ [(fate, items)] } := by
        rw [step, hwaiting, if_pos (by simp)]
        simp
      rw [List.map_cons, run_cons, hs, Option.bind_some, ih rfl, List.append_assoc]
      rfl

end Delivery

end Machine
