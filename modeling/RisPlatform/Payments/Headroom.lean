import Mathlib.Algebra.Order.BigOperators.Group.List
import RisPlatform.Payments.Conformance

/-!
# Facility headroom

`initiatePayment` compares the amount of one payment with the available amount of the first active
facility and reserves nothing. So each payment is within the headroom, and the payments together are
within it only as many times as there are payments.
-/

namespace Ris.Payments

open Relational Concurrent

/-- The available amount of the facility that `checkFacilityAvailability` looks at. -/
def headroom (w : World) : ℤ :=
  match Facilities.getActiveFacilities w with
  | [] => 0
  | facility :: _ => facility.availableAmount

/-- Every payment is within the headroom. -/
def EachCovered (s : State World Event) : Prop :=
  ∀ p ∈ s.store.payments.rows, Covered (some p.amount) s

/-- The step lemma: a new payment is checked, the others keep their amounts and the facility its
headroom. -/
theorem EachCovered.step {s : State World Event} {t : ℕ} {e : Option Event} {d : World}
    (h : EachCovered s) (heff : Effect s t e d) : EachCovered (s.record t e d) := by
  intro p' hp'
  rcases Effect.row_origin heff (Table.get?_of_mem hp') with ⟨rfl, -⟩ | ⟨p, hp, hstep⟩
  · have hcovered : Covered (some p'.amount) s := by
      cases heff with
      | paymentCreated _ _ _ _ hfacility havailable => exact ⟨_, _, _, rfl, hfacility, havailable⟩
    exact steady_covered _ s t _ d trivial hcovered heff
  · rw [hstep.sameOrder.amount]
    exact steady_covered _ s t e d trivial (h p (Table.mem_of_get? hp)) heff

theorem Covered.le_headroom {amount : ℤ} {s : State World Event} (h : Covered (some amount) s) :
    amount ≤ headroom s.store := by
  obtain ⟨required, facility, rest, hamount, hfacility, havailable⟩ := h
  rw [Option.some.injEq] at hamount
  rw [headroom, hfacility, hamount]
  exact havailable

/-- No operation of the service changes the headroom. -/
theorem headroom_of_reaches {cfg : Config} {w : World} {s : Sys World Input Event RisError}
    (hs : Reaches (program cfg) always (Sys.init w) s) : headroom s.store = headroom w := by
  refine Protocol.invariant (P := fun s => headroom s.store = headroom w) (program_implements cfg)
    trivial rfl ?_ hs
  intro s t e d h hmove
  rw [State.record_store, headroom, Facilities.getActiveFacilities, Effect.bankFacilities hmove.effect]
  exact h

/-- **Facility headroom.** In every reachable state each payment is within the headroom of the first
active facility, and so `n` payments together are within `n` times that headroom. -/
theorem payments_within_headroom (cfg : Config) (w : World) (hw : w.payments.rows = [])
    (s : Sys World Input Event RisError) (hs : Reaches (program cfg) always (Sys.init w) s) :
    (∀ p ∈ s.store.payments.rows, p.amount ≤ headroom s.store) ∧
      s.store.payments.sum Payment.amount ≤ s.store.payments.rows.length * headroom s.store ∧
      headroom s.store = headroom w := by
  have hcovered : EachCovered s.toState := by
    refine Protocol.invariant (P := EachCovered) (program_implements cfg) trivial ?_
      (fun s t e d h hmove => h.step hmove.effect) hs
    intro p hp
    rw [hw] at hp
    cases hp
  have heach : ∀ p ∈ s.store.payments.rows, p.amount ≤ headroom s.store :=
    fun p hp => (hcovered p hp).le_headroom
  refine ⟨heach, ?_, headroom_of_reaches hs⟩
  have hsum := List.sum_le_card_nsmul (s.store.payments.rows.map Payment.amount) (headroom s.store)
    (by simpa using heach)
  rwa [List.length_map, nsmul_eq_mul] at hsum

/-- The two payments of the small world, each within the headroom of 1000. -/
theorem two_payments_within_headroom :
    ∃ s : Sys World Input Event RisError, s.store.payments.rows.length = 2 ∧
      ∀ p ∈ s.store.payments.rows, p.amount ≤ headroom s.store := by
  obtain ⟨s, hs, hP⟩ := exists_reaches (program {}) always (Sys.init smallWorld)
    (initiateAlone 0 1 "K" ++ initiateAlone 1 2 "L")
    (fun s => s.store.payments.rows.length = 2) (by decide +kernel)
  exact ⟨s, of_decide_eq_true hP, (payments_within_headroom {} smallWorld rfl s hs).1⟩

/-- Together they are not: 900 and 900 are initiated against 1000. -/
theorem headroom_oversubscribed :
    ∃ s : Sys World Input Event RisError, Reaches (program {}) always (Sys.init smallWorld) s ∧
      headroom s.store < s.store.payments.sum Payment.amount := by
  obtain ⟨s, hs, hP⟩ := exists_reaches (program {}) always (Sys.init smallWorld)
    (initiateAlone 0 1 "K" ++ initiateAlone 1 2 "L")
    (fun s => headroom s.store < s.store.payments.sum Payment.amount) (by decide +kernel)
  exact ⟨s, hs, of_decide_eq_true hP⟩

end Ris.Payments
