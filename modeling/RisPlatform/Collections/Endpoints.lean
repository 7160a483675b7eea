import RisPlatform.Collections.Conformance

/-!
# The two ways to record a payment

`recordPaymentReceived` closes the collection and its invoice, releases the buyer's limit, adjusts its
score and starts the settlement. `recordCollectionPayment` adds to the total of the collection, and
never looks at what the total has reached. So instalments, however many, do none of what the one
payment does.
-/

namespace Ris.Collections

open Relational Concurrent

/-! ## The law -/

/-- The settlements that have been started. -/
def settlements (w : World) : List Job := w.jobs.filter fun job => job.queue = .settlement

/-- The stores agree on all that a payment in full brings about. -/
structure Agree (collectionId invoiceId : ℕ) (w w' : World) : Prop where
  collection : (w.collections.get? collectionId).map Collection.status =
    (w'.collections.get? collectionId).map Collection.status
  invoice : statusOf w invoiceId = statusOf w' invoiceId
  usedLimit : ∀ buyerId, (w.buyers.get? buyerId).map Buyer.usedLimit =
    (w'.buyers.get? buyerId).map Buyer.usedLimit
  paymentScore : ∀ buyerId, (w.buyers.get? buyerId).map Buyer.paymentScore =
    (w'.buyers.get? buyerId).map Buyer.paymentScore
  settlement : settlements w = settlements w'

theorem Agree.refl (collectionId invoiceId : ℕ) (w : World) : Agree collectionId invoiceId w w :=
  ⟨rfl, rfl, fun _ => rfl, fun _ => rfl, rfl⟩

theorem Agree.trans {collectionId invoiceId : ℕ} {w w₁ w₂ : World}
    (h : Agree collectionId invoiceId w w₁) (h' : Agree collectionId invoiceId w₁ w₂) :
    Agree collectionId invoiceId w w₂ where
  collection := h.collection.trans h'.collection
  invoice := h.invoice.trans h'.invoice
  usedLimit buyerId := (h.usedLimit buyerId).trans (h'.usedLimit buyerId)
  paymentScore buyerId := (h.paymentScore buyerId).trans (h'.paymentScore buyerId)
  settlement := h.settlement.trans h'.settlement

/-- The calls that pay instalments on the collection, each an amount and who records it. -/
def instalments (cfg : Config) (collectionId : ℕ) (op : FrontendRecordPaymentInput × ℕ) : Call Unit :=
  program cfg (.recordCollectionPayment collectionId op.1 op.2)

/-- The calls that pay in full. -/
def payments (cfg : Config) (input : RecordPaymentInput) : Call Unit :=
  program cfg (.recordPaymentReceived input)

/-! ## Instalments -/

/-- The commit of an instalment moves nothing of it. -/
theorem executeCollectionPaymentTxn_agree {cfg : Config} {i : Input} {w w' : World} {paidId : ℕ}
    {input : FrontendRecordPaymentInput} {userId : ℕ} {prevStatus : CollectionStatus} {u : Unit}
    (h : executeCollectionPaymentTxn cfg paidId input userId prevStatus i w = .ok (u, w'))
    (collectionId invoiceId : ℕ) : Agree collectionId invoiceId w w' := by
  simp only [executeCollectionPaymentTxn, Txn.bind_ok] at h
  obtain ⟨_, w₁, hpayment, _, w₂, hadd, haudit⟩ := h
  obtain ⟨p, c, hid, -, -, hc, -, hw₁⟩ := recordPaymentReceived_ok hpayment
  obtain rfl := Option.some.inj hid
  have hc₁ : w₁.collections.get? p.collectionId = some c := by rwa [hw₁]
  have hwrites := updateCollection_now_ok hadd hc₁
  have hw' : w' = { w with
      collections := w₂.collections
      collectionPayments := w₁.collectionPayments
      auditLogs := w'.auditLogs } := by
    rw [createAuditEntry_ok haudit, hwrites.world, hw₁]
  rw [hw']
  refine ⟨?_, rfl, fun _ => rfl, fun _ => rfl, rfl⟩
  have hcollections : w₁.collections = w.collections := by rw [hw₁]
  by_cases hcollection : collectionId = p.collectionId
  · rw [hcollection, hc, hwrites.row.after]
    rfl
  · rw [hwrites.row.others collectionId hcollection, hcollections]

/-- What instalments may do: move nothing of it. -/
def instalmentProtocol (collectionId invoiceId : ℕ) (w₀ : World) : Protocol World Event where
  inv s := Agree collectionId invoiceId w₀ s.store
  effect s _ _ d := Agree collectionId invoiceId s.store d
  inv_effect hs heff := hs.trans heff
  return_stable _ _ _ _ := .refl _ _ _

theorem instalments_implement (cfg : Config) (paidId collectionId invoiceId : ℕ) (w₀ : World) :
    (instalmentProtocol collectionId invoiceId w₀).Implements (instalments cfg paidId) := by
  have hstable : ∀ t, (instalmentProtocol collectionId invoiceId w₀).Stable t fun _ => True :=
    fun t => .const t True
  rintro ⟨input, userId⟩ t
  refine Protocol.Triple.conseq (A := fun _ => True) (Q := fun _ _ => True) (E := fun _ _ => True) ?_
    (fun _ _ _ => trivial) (fun _ _ _ _ => .refl _ _ _) fun _ _ _ _ => .refl _ _ _
  refine Protocol.Triple.bind (R := fun _ _ => True) (.transaction (hstable t) ?_ ?_) fun found => ?_
  · intro s i found d _ _ h
    simp only [Txn.bind_ok, connect_ok, Txn.read_ok] at h
    obtain ⟨_, _, ⟨-, rfl⟩, -, rfl⟩ := h
    exact ⟨.refl _ _ _, trivial⟩
  · exact fun _ _ _ _ _ _ => ⟨.refl _ _ _, trivial⟩
  cases found with
  | none => exact .throw fun _ _ _ => trivial
  | some collection =>
    dsimp only
    split
    · exact .throw fun _ _ _ => trivial
    · refine Protocol.Triple.bind (R := fun _ _ => True) (.transaction (hstable t) ?_ ?_) fun _ =>
        .transaction (hstable t) ?_ ?_
      · intro s i u d _ _ h
        simp only [Txn.bind_ok, connect_ok] at h
        obtain ⟨_, _, ⟨-, rfl⟩, h⟩ := h
        exact ⟨executeCollectionPaymentTxn_agree h _ _, trivial⟩
      · exact fun _ _ _ _ _ _ => ⟨.refl _ _ _, trivial⟩
      · intro s i u d _ _ h
        obtain ⟨-, rfl⟩ := connect_ok.1 h
        exact ⟨.refl _ _ _, trivial⟩
      · exact fun _ _ _ _ _ _ => ⟨.refl _ _ _, trivial⟩

/-- However many instalments are paid, they move nothing of it. -/
theorem instalments_agree {cfg : Config} {paidId : ℕ} {w : World} {s : Sys World Input Event RisError}
    (hs : Reaches (instalments cfg paidId) always (Sys.init w) s) (collectionId invoiceId : ℕ) :
    Agree collectionId invoiceId w s.store :=
  (Protocol.simulates (instalments_implement cfg paidId collectionId invoiceId w) (.refl _ _ _) hs).1.inv

/-! ## Payments in full -/

/-- A payment in full moved the invoice. -/
theorem payment_disagrees {cfg : Config} {w : World} {s : Sys World Input Event RisError}
    (hs : Reaches (payments cfg) always (Sys.init w) s) {collectionId invoiceId : ℕ}
    (hpaid : ∃ t amount, (t, some (.paymentReceived invoiceId collectionId amount)) ∈ s.hist) :
    ¬Agree collectionId invoiceId w s.store := by
  have hprog : (protocol cfg w).Implements (payments cfg) := fun input =>
    program_implements cfg w (.recordPaymentReceived input)
  -- an invoice that was collected at the start stays so; one that was paid has become so
  have hinv := Protocol.invariant (C := always) hprog (Inv.init w)
    (P := fun s => (statusOf w invoiceId = some .collected →
        statusOf s.store invoiceId = some .collected) ∧
      ((∃ t amount, (t, some (.paymentReceived invoiceId collectionId amount)) ∈ s.hist) →
        statusOf s.store invoiceId = some .collected ∧ statusOf w invoiceId ≠ some .collected))
    ⟨fun h => h, by simp⟩ ?_ hs
  · intro hagree
    obtain ⟨hcollected, hopen⟩ := hinv.2 hpaid
    exact hopen (hagree.invoice.trans hcollected)
  · rintro s t e d ⟨hkept, hpaid⟩ hmove
    cases e with
    | none =>
      obtain rfl : d = s.store := hmove.effect
      refine ⟨hkept, fun ⟨u, amount, hmem⟩ => hpaid ⟨u, amount, ?_⟩⟩
      simpa using hmem
    | some e =>
      have heff : Effect cfg w s.store e d := hmove.effect
      refine ⟨fun h => heff.collected_stays (hkept h), fun ⟨u, amount, hmem⟩ => ?_⟩
      rw [State.record_hist, List.mem_cons, Prod.mk.injEq, Option.some.injEq] at hmem
      rcases hmem with ⟨rfl, rfl⟩ | hold
      · obtain ⟨status, hstatus, hopen⟩ := heff.open_ invoiceId collectionId amount rfl
        refine ⟨?_, fun hw => ?_⟩
        · rw [State.record_store, heff.status, hstatus]
          simp [nextInvoiceStatus]
        · rw [hkept hw, Option.some.injEq] at hstatus
          exact hopen hstatus.symm
      · obtain ⟨hcollected, hopen⟩ := hpaid ⟨u, amount, hold⟩
        exact ⟨heff.collected_stays hcollected, hopen⟩

/-! ## The two compared -/

/-- **The endpoints never agree.** From the same store, a run of instalments on a collection, however
the amount is split and the calls interleave, and a run in which a payment in full for the invoice of
the collection commits, end in stores that do not agree. -/
theorem endpoints_disagree (cfg : Config) (w : World) (collectionId invoiceId : ℕ)
    (s₁ s₂ : Sys World Input Event RisError)
    (h₁ : Reaches (instalments cfg collectionId) always (Sys.init w) s₁)
    (h₂ : Reaches (payments cfg) always (Sys.init w) s₂)
    (hpaid : ∃ t amount, (t, some (.paymentReceived invoiceId collectionId amount)) ∈ s₂.hist) :
    ¬Agree collectionId invoiceId s₁.store s₂.store := fun hagree =>
  payment_disagrees h₂ hpaid ((instalments_agree h₁ collectionId invoiceId).trans hagree)

/-- An overdue invoice of 1,000, its buyer and its collection. -/
def overdueWorld : World := exampleWorld .overdue (exampleCollection 1 .overdue 1 0)

/-- 400 and 600 in instalments, one call after the other. -/
def instalmentSchedule : List (Act (FrontendRecordPaymentInput × ℕ) Input) :=
  Act.call (⟨400, .bankTransfer, none, "Buyer", 0, none⟩, 9) 0 (List.replicate 3 { uuid := 0 }) ++
    Act.call (⟨600, .bankTransfer, none, "Buyer", 0, none⟩, 9) 1 (List.replicate 3 { uuid := 1 })

/-- 1,000 at once. -/
def paymentSchedule : List (Act RecordPaymentInput Input) :=
  Act.call ⟨1, 1000, 0, 9, .bankTransfer, "Buyer", none, none⟩ 0 (List.replicate 8 {})

theorem endpoints_disagree_on_thousand :
    ∃ s₁ s₂ : Sys World Input Event RisError,
      s₁.store.collections.rows.map Collection.totalCollected = [1000] ∧
        s₂.store.collections.rows.map Collection.totalCollected = [1000] ∧
        ¬Agree 1 1 s₁.store s₂.store := by
  obtain ⟨s₁, h₁, hP₁⟩ := exists_reaches (instalments {} 1) always (Sys.init overdueWorld)
    instalmentSchedule
    (fun s => s.store.collections.rows.map Collection.totalCollected = [1000]) (by decide)
  obtain ⟨s₂, h₂, hP₂⟩ := exists_reaches (payments {}) always (Sys.init overdueWorld) paymentSchedule
    (fun s => s.store.collections.rows.map Collection.totalCollected = [1000] ∧
      (0, some (.paymentReceived 1 1 1000)) ∈ s.hist) (by decide)
  obtain ⟨htotal, hmem⟩ := of_decide_eq_true hP₂
  exact ⟨s₁, s₂, of_decide_eq_true hP₁, htotal,
    endpoints_disagree {} overdueWorld 1 1 s₁ s₂ h₁ h₂ ⟨0, 1000, hmem⟩⟩

/-- The status of the collection and of the invoice, the buyer's used limit and score, and the number of
settlements. -/
def outcome (w : World) :
    Option CollectionStatus × Option InvoiceStatus × Option (ℤ × ℤ) × ℕ :=
  ((w.collections.get? 1).map Collection.status, statusOf w 1,
    (w.buyers.get? 1).map fun b => (b.usedLimit, b.paymentScore), (settlements w).length)

/-- 1,000 of 1,000 paid in two instalments leaves everything as it was; paid at once, it collects. -/
theorem instalments_leave_overdue :
    ∃ s₁ s₂ : Sys World Input Event RisError,
      Reaches (instalments {} 1) always (Sys.init overdueWorld) s₁ ∧
        s₁.store.collectionPayments.rows.map CollectionPayment.amount = [400, 600] ∧
        outcome s₁.store = (some .overdue, some .overdue, some (1000, 50), 0) ∧
        Reaches (payments {}) always (Sys.init overdueWorld) s₂ ∧
        s₂.store.collectionPayments.rows.map CollectionPayment.amount = [1000] ∧
        outcome s₂.store = (some .collected, some .collected, some (0, 55), 1) ∧
        ¬Agree 1 1 s₁.store s₂.store := by
  obtain ⟨s₁, h₁, hP₁⟩ := exists_reaches (instalments {} 1) always (Sys.init overdueWorld)
    instalmentSchedule
    (fun s => s.store.collectionPayments.rows.map CollectionPayment.amount = [400, 600] ∧
      outcome s.store = (some .overdue, some .overdue, some (1000, 50), 0)) (by decide)
  obtain ⟨s₂, h₂, hP₂⟩ := exists_reaches (payments {}) always (Sys.init overdueWorld) paymentSchedule
    (fun s => s.store.collectionPayments.rows.map CollectionPayment.amount = [1000] ∧
      outcome s.store = (some .collected, some .collected, some (0, 55), 1)) (by decide)
  obtain ⟨hamounts₁, houtcome₁⟩ := of_decide_eq_true hP₁
  obtain ⟨hamounts₂, houtcome₂⟩ := of_decide_eq_true hP₂
  refine ⟨s₁, s₂, h₁, hamounts₁, houtcome₁, h₂, hamounts₂, houtcome₂, fun hagree => ?_⟩
  have hstatus₁ : statusOf s₁.store 1 = some .overdue := congrArg (fun o => o.2.1) houtcome₁
  have hstatus₂ : statusOf s₂.store 1 = some .collected := congrArg (fun o => o.2.1) houtcome₂
  have hinvoice := hagree.invoice
  rw [hstatus₁, hstatus₂] at hinvoice
  cases hinvoice

end Ris.Collections
