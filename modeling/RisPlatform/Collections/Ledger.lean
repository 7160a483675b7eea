import Mathlib.Algebra.Order.BigOperators.Group.List
import Mathlib.Algebra.Order.Group.Int
import RisPlatform.Collections.Conformance

/-!
# The collections ledger

A collection's total and the rows of `collection_payments` record the same payments. An instalment
adds its amount to the total; the closing payment assigns its amount instead. So the two agree as long
as each closing payment is the first payment on its collection, and no longer.
-/

namespace Ris.Collections

open Relational Concurrent

/-! ## The law -/

/-- The sum of the payments recorded against the collection. -/
def paidTo (w : World) (collectionId : ℕ) : ℤ :=
  w.collectionPayments.sum fun p => if p.collectionId = collectionId then p.amount else 0

/-- The total of every collection is the sum of its payments. -/
def Ledger (w : World) : Prop :=
  ∀ c ∈ w.collections.rows, c.totalCollected = paidTo w c.id

/-- The ledger, and what the constraints of `collection_payments` say. -/
structure LedgerConsistent (w : World) : Prop where
  total : Ledger w
  positive : ∀ p ∈ w.collectionPayments.rows, 0 < p.amount
  known : ∀ p ∈ w.collectionPayments.rows, ∃ c ∈ w.collections.rows, c.id = p.collectionId

/-- The collection that the payment closed. -/
def closes : Event → Option ℕ
  | .paymentReceived _ collectionId _ => some collectionId
  | _ => none

/-- A payment that closes a collection is the first one on it. -/
def FirstPayment : Cond World Event := fun s _ e =>
  ∀ collectionId ∈ closes e, ∀ p ∈ s.store.collectionPayments.rows, p.collectionId ≠ collectionId

/-! ## One step -/

section Step

variable {cfg : Config} {w₀ w w' : World} {e : Event}

/-- What the event paid to the collection. -/
def paidBy (e : Event) (collectionId : ℕ) : ℤ :=
  (paymentOf e).elim 0 fun p => if p.1 = collectionId then p.2 else 0

theorem Effect.paidTo_eq (h : Effect cfg w₀ w e w') (collectionId : ℕ) :
    paidTo w' collectionId = paidTo w collectionId + paidBy e collectionId := by
  cases hp : paymentOf e with
  | none => simp [paidTo, paidBy, hp, h.unpaid hp]
  | some payment =>
    obtain ⟨p, hid, hamount, -, hinsert⟩ := h.paid payment.1 payment.2 hp
    rw [paidTo, Table.sum_insert? hinsert, hid, hamount]
    simp [paidTo, paidBy, hp]

/-- An event pays nothing to a collection it is not about. -/
theorem paidBy_eq_zero {collectionId : ℕ} (he : e.collection? ≠ some collectionId) :
    paidBy e collectionId = 0 := by
  cases e with
  | paymentReceived i c amount =>
    have hne : c ≠ collectionId := fun h => he (congrArg some h)
    simp [paidBy, paymentOf, hne]
  | collectionPaid c amount =>
    have hne : c ≠ collectionId := fun h => he (congrArg some h)
    simp [paidBy, paymentOf, hne]
  | _ => rfl

/-- A collection that no payment names was paid nothing. -/
theorem paidTo_eq_zero {collectionId : ℕ}
    (h : ∀ p ∈ w.collectionPayments.rows, p.collectionId ≠ collectionId) :
    paidTo w collectionId = 0 := by
  have hzero : paidTo w collectionId = w.collectionPayments.sum fun _ => (0 : ℤ) :=
    Table.sum_congr fun p hp => if_neg (h p hp)
  rw [hzero, Table.sum]
  simp

/-- Conversely, as the amounts are positive, no payment names a collection that was paid nothing. -/
theorem LedgerConsistent.unpaid (hw : LedgerConsistent w) {collectionId : ℕ}
    (h : paidTo w collectionId = 0) :
    ∀ p ∈ w.collectionPayments.rows, p.collectionId ≠ collectionId := by
  intro p hp hid
  have hnonneg : ∀ x ∈ w.collectionPayments.rows.map
      (fun p => if p.collectionId = collectionId then p.amount else 0), 0 ≤ x := by
    intro x hx
    obtain ⟨q, hq, rfl⟩ := List.mem_map.1 hx
    have hpos := hw.positive q hq
    split_ifs <;> omega
  have hterm := List.all_zero_of_le_zero_le_of_sum_eq_zero hnonneg h
    (List.mem_map.2 ⟨p, hp, rfl⟩)
  rw [if_pos hid] at hterm
  exact absurd hterm (hw.positive p hp).ne'

/-- The rows of payments stay within the constraints. -/
theorem LedgerConsistent.effect (hw : LedgerConsistent w) (h : Effect cfg w₀ w e w')
    (htotal : Ledger w') : LedgerConsistent w' := by
  -- a collection that has a row keeps it
  have hrow : ∀ c ∈ w.collections.rows, ∃ c' ∈ w'.collections.rows, c'.id = c.id := by
    intro c hc
    rcases h.rows.row_stays hc with ⟨hstay, -⟩ | ⟨c', hc', hstep⟩
    · exact ⟨c, hstay, rfl⟩
    · exact ⟨c', hc', hstep.id⟩
  have hold : ∀ p ∈ w.collectionPayments.rows, ∃ c ∈ w'.collections.rows, c.id = p.collectionId := by
    intro p hp
    obtain ⟨c, hc, hid⟩ := hw.known p hp
    obtain ⟨c', hc', hid'⟩ := hrow c hc
    exact ⟨c', hc', hid'.trans hid⟩
  cases hp : paymentOf e with
  | none =>
    have hsame := h.unpaid hp
    refine ⟨htotal, ?_, ?_⟩
    · rw [hsame]
      exact hw.positive
    · rw [hsame]
      exact hold
  | some payment =>
    obtain ⟨p, hid, hamount, hpos, hinsert⟩ := h.paid payment.1 payment.2 hp
    refine ⟨htotal, fun q hq => ?_, fun q hq => ?_⟩
    · rcases (Table.mem_insert? hinsert).1 hq with hq | rfl
      · exact hw.positive q hq
      · omega
    · rcases (Table.mem_insert? hinsert).1 hq with hq | rfl
      · exact hold q hq
      · obtain ⟨c, hc, -, -, hcid, -⟩ := h.rows.exists_of_payment hp
        obtain ⟨c', hc', hid'⟩ := hrow c hc
        exact ⟨c', hc', by rw [hid', hcid, hid]⟩

/-- The step lemma: the ledger is kept exactly if the step meets the condition. -/
theorem Effect.ledger_iff {s : State World Event} {t : ℕ} (h : Effect cfg w₀ s.store e w')
    (hs : LedgerConsistent s.store) : Ledger w' ↔ FirstPayment s t e := by
  constructor
  · intro hledger collectionId hcloses
    refine hs.unpaid ?_
    cases e with
    | paymentReceived i c amount =>
      obtain rfl := Option.some.inj hcloses
      obtain ⟨row, -, row', hrow', hid, hstep⟩ := h.rows.exists_of_payment rfl
      have htotal : row'.totalCollected = amount := hstep.total
      have hsum := hledger row' hrow'
      rw [htotal, hstep.id, hid, h.paidTo_eq] at hsum
      simp only [paidBy, paymentOf, Option.elim_some, if_true] at hsum
      omega
    | _ => cases hcloses
  · intro hfirst c' hc'
    rw [h.paidTo_eq]
    rcases h.rows.row_cases hc' with ⟨hold, he⟩ | ⟨hopens, hinsert⟩ | ⟨c, hc, hstep⟩
    · rw [paidBy_eq_zero he, add_zero]
      exact hs.total c' hold
    · -- no payment can name a row that was not there
      have hunpaid : paidTo s.store c'.id = 0 := paidTo_eq_zero fun p hp hid => by
        obtain ⟨c, hc, hcid⟩ := hs.known p hp
        exact Table.key_ne_of_insert? hinsert hc (hcid.trans hid)
      have hnone : paidBy e c'.id = 0 := by
        rcases hopens with ⟨rfl, -, -, -⟩ | ⟨rfl, -, -, -⟩ <;> rfl
      rw [hopens.total, hunpaid, hnone]
      rfl
    · have hbefore := hs.total c hc
      have hevent := hstep.event
      rw [hstep.total, hstep.id]
      cases e with
      | paymentReceived i k amount =>
        obtain rfl := Option.some.inj hevent
        have hunpaid : paidTo s.store c.id = 0 := paidTo_eq_zero (hfirst c.id rfl)
        simp [nextTotal, paidBy, paymentOf, hunpaid]
      | collectionPaid k amount =>
        obtain rfl := Option.some.inj hevent
        simp [nextTotal, paidBy, paymentOf, hbefore]
      | _ => simpa [nextTotal, paidBy, paymentOf] using hbefore

end Step

/-! ## Runs -/

/-- **The collections ledger.** From a consistent ledger, the runs along which every collection's total
is the sum of its payments are exactly those in which each closing payment is the first one on its
collection. -/
theorem collections_ledger_iff (cfg : Config) (w : World) (hw : LedgerConsistent w)
    (s : Sys World Input Event RisError) :
    Relation.ReflTransGen (fun s s' => Step (program cfg) always s s' ∧ Ledger s'.store)
      (Sys.init w) s ↔ Reaches (program cfg) FirstPayment (Sys.init w) s := by
  refine Protocol.runs_iff (program_implements cfg w) (Inv.init w)
    (P := fun s => LedgerConsistent s.store) (R := fun _ s' => Ledger s'.store) hw
    (fun _ hs => hs.total) ?_ ?_ ?_ s
  · intro s t d hs hmove
    obtain rfl : d = s.store := hmove.effect
    exact hs.total
  · intro s t e d hs hmove
    exact Effect.ledger_iff hmove.effect hs
  · intro s t e d hs hmove hledger
    cases e with
    | some e => exact hs.effect hmove.effect hledger
    | none =>
      obtain rfl : d = s.store := hmove.effect
      exact hs

/-! ## Runs on one collection -/

instance (w : World) : Decidable (Ledger w) := by
  unfold Ledger
  infer_instance

instance (w : World) : Decidable (LedgerConsistent w) :=
  decidable_of_iff
    (Ledger w ∧ (∀ p ∈ w.collectionPayments.rows, 0 < p.amount) ∧
      ∀ p ∈ w.collectionPayments.rows, ∃ c ∈ w.collections.rows, c.id = p.collectionId)
    ⟨fun h => ⟨h.1, h.2.1, h.2.2⟩, fun h => ⟨h.total, h.positive, h.known⟩⟩

instance (s : State World Event) (t : ℕ) (e : Event) : Decidable (FirstPayment s t e) := by
  unfold FirstPayment
  infer_instance

/-- The whole amount in one closing payment keeps the ledger. -/
theorem ledger_of_one_payment :
    ∃ s : Sys World Input Event RisError,
      s.store.collections.rows.map Collection.totalCollected = [1000] ∧
        Relation.ReflTransGen (fun s s' => Step (program {}) always s s' ∧ Ledger s'.store)
          (Sys.init (exampleWorld .overdue (exampleCollection 1 .overdue 1 0))) s := by
  obtain ⟨s, hs, hP⟩ := exists_reaches (program {}) FirstPayment
    (Sys.init (exampleWorld .overdue (exampleCollection 1 .overdue 1 0))) (payAlone 0 1000)
    (fun s => s.store.collections.rows.map Collection.totalCollected = [1000]) (by decide)
  exact ⟨s, of_decide_eq_true hP, (collections_ledger_iff {} _ (by decide) s).2 hs⟩

/-- An instalment of 400 and a closing payment of 600: two payments of 1,000 together, and a total of
600. -/
theorem total_forgets_instalment :
    LedgerConsistent (exampleWorld .overdue (exampleCollection 1 .overdue 1 0)) ∧
      ∃ s : Sys World Input Event RisError,
        Reaches (program {}) always
          (Sys.init (exampleWorld .overdue (exampleCollection 1 .overdue 1 0))) s ∧
          ¬Ledger s.store ∧ s.store.collections.rows.map Collection.totalCollected = [600] ∧
          s.store.collectionPayments.rows.map CollectionPayment.amount = [400, 600] := by
  obtain ⟨s, hs, hP⟩ := exists_reaches (program {}) always
    (Sys.init (exampleWorld .overdue (exampleCollection 1 .overdue 1 0)))
    (payInstalmentAlone 0 400 ++ payAlone 1 600)
    (fun s => ¬Ledger s.store ∧ s.store.collections.rows.map Collection.totalCollected = [600] ∧
      s.store.collectionPayments.rows.map CollectionPayment.amount = [400, 600]) (by decide)
  exact ⟨by decide, s, hs, of_decide_eq_true hP⟩

end Ris.Collections
