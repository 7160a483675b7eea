import RisPlatform.Invoices.Protocol
import RisPlatform.Verification.Protocol

/-!
# Confirmation and withdrawal

The supplier may withdraw a submitted invoice and its buyer may confirm it; both services look at the
invoice first. The `UPDATE` of the confirmation asks that nobody has confirmed the invoice yet, the one of
the withdrawal asks for nothing, and neither asks for the status. So the one that comes second overrides
the first, and each of the two ends is reached from the other.
-/

namespace Ris.Withdrawal

open Relational Concurrent

/-! ## The system -/

/-- The operations of the two services. -/
inductive Op
  | invoices (op : Invoices.Op)
  | verification (op : Verification.Op)

/-- The body of each operation. -/
def program (cfg : Config) : Op → Call Unit
  | .invoices op => Invoices.program cfg op
  | .verification op => Verification.program cfg op

/-! ## Effects -/

/-- What an operation that neither confirms nor withdraws does to an invoice. -/
structure Keeps (r r' : Invoice) : Prop where
  id : r'.id = r.id
  uraEfrisRef : r'.uraEfrisRef = r.uraEfrisRef
  buyerConfirmedAt : r'.buyerConfirmedAt = r.buyerConfirmedAt
  status : r'.status = r.status ∨ r.status = .draft ∧ r'.status = .submitted

/-- A new invoice. -/
structure IsNew (r : Invoice) : Prop where
  status : r.status = .draft ∨ r.status = .submitted
  buyerConfirmedAt : r.buyerConfirmedAt = none

theorem Keeps.refl (r : Invoice) : Keeps r r := ⟨rfl, rfl, rfl, Or.inl rfl⟩

theorem Keeps.trans {r r' r'' : Invoice} (h : Keeps r r') (h' : Keeps r' r'') : Keeps r r'' where
  id := h'.id.trans h.id
  uraEfrisRef := h'.uraEfrisRef.trans h.uraEfrisRef
  buyerConfirmedAt := h'.buyerConfirmedAt.trans h.buyerConfirmedAt
  status := by
    rcases h.status with hsame | ⟨hdraft, hsubmitted⟩
    · rw [← hsame]
      exact h'.status
    · rcases h'.status with hsame' | ⟨hdraft', -⟩
      · exact Or.inr ⟨hdraft, hsame'.trans hsubmitted⟩
      · rw [hsubmitted] at hdraft'
        cases hdraft'

/-- The invoice that the event confirms. -/
def confirmed? : Event → Option ℕ
  | .buyerConfirmed invoiceId => some invoiceId
  | _ => none

/-- The invoice that the event withdraws. -/
def withdrawn? : Event → Option ℕ
  | .invoiceWithdrawn invoiceId => some invoiceId
  | _ => none

/-- The rows after a confirmation. -/
def confirm (invoiceId : ℕ) (now : ℤ) (invoices : Table Invoice.id) : Table Invoice.id :=
  invoices.update (fun r => r.id = invoiceId ∧ r.buyerConfirmedAt = none)
    (Verification.setConfirmed now) (Verification.id_setConfirmed now)

/-- The rows after a withdrawal. -/
def withdraw (invoiceId : ℕ) (invoices : Table Invoice.id) : Table Invoice.id :=
  invoices.update (fun r => r.id = invoiceId) Invoices.setWithdrawn Invoices.id_setWithdrawn

/-- What an event does to the invoices. -/
inductive Effect (w : World) : Event → World → Prop
  | kept (e : Event) (w' : World) (hconfirmed : confirmed? e = none) (hwithdrawn : withdrawn? e = none)
      (hkept : ∀ r ∈ w.invoices.rows, ∃ r' ∈ w'.invoices.rows, Keeps r r')
      (hrows : ∀ r' ∈ w'.invoices.rows, (∃ r ∈ w.invoices.rows, Keeps r r') ∨ IsNew r') :
      Effect w e w'
  | confirmed (invoiceId : ℕ) (now : ℤ) (w' : World)
      (hinvoices : w'.invoices = confirm invoiceId now w.invoices) :
      Effect w (.buyerConfirmed invoiceId) w'
  | withdrawn (invoiceId : ℕ) (w' : World) (hinvoices : w'.invoices = withdraw invoiceId w.invoices) :
      Effect w (.invoiceWithdrawn invoiceId) w'

section Effects

variable {cfg : Config} {w w' : World} {e : Event}

/-- No row is new. -/
theorem Effect.of_rows (hconfirmed : confirmed? e = none) (hwithdrawn : withdrawn? e = none)
    (h : w.invoices.Rowwise Keeps w'.invoices) : Effect w e w' :=
  .kept e w' hconfirmed hwithdrawn (fun _ hr => h.exists_of_mem_left hr)
    fun _ hr' => Or.inl (h.exists_of_mem hr')

theorem Effect.silent (hconfirmed : confirmed? e = none) (hwithdrawn : withdrawn? e = none)
    (h : w'.invoices = w.invoices) : Effect w e w' := by
  apply Effect.of_rows hconfirmed hwithdrawn
  rw [h]
  exact .refl Keeps.refl _

/-- One row is new. -/
theorem Effect.of_new {r : Invoice} (hconfirmed : confirmed? e = none) (hwithdrawn : withdrawn? e = none)
    (hr : IsNew r) (h : ∀ r', r' ∈ w'.invoices.rows ↔ r' ∈ w.invoices.rows ∨ r' = r) : Effect w e w' := by
  refine .kept e w' hconfirmed hwithdrawn (fun r₀ hr₀ => ⟨r₀, (h r₀).2 (Or.inl hr₀), .refl r₀⟩) ?_
  intro r' hr'
  rcases (h r').1 hr' with hold | rfl
  · exact Or.inl ⟨r', hold, .refl r'⟩
  · exact Or.inr hr

/-- Rows are changed, and what matters here is kept. -/
theorem keeps_update {p : Invoice → Bool} {f : Invoice → Invoice} {T : Table Invoice.id}
    (hf : ∀ r, (f r).id = r.id) (h : ∀ r, p r = true → Keeps r (f r)) :
    T.Rowwise Keeps (T.update p f hf) :=
  Table.rowwise_update (fun r _ hr => h r hr) fun r _ _ => .refl r

theorem keeps_flagAbove (faceValue : ℤ) (invoiceId : ℕ) (T : Table Invoice.id) :
    T.Rowwise Keeps (Invoices.flagAbove cfg faceValue invoiceId T) := by
  unfold Invoices.flagAbove
  split
  · exact keeps_update _ fun _ _ => ⟨rfl, rfl, rfl, Or.inl rfl⟩
  · exact .refl Keeps.refl _

/-- The effects of the invoices service. -/
theorem Effect.of_invoices (h : Invoices.Effect cfg (fun _ _ => True) w e w') : Effect w e w' := by
  cases h with
  | read => exact .silent rfl rfl rfl
  | submitted data now invoices auditLogs href hinsert =>
    exact .of_new rfl rfl ⟨Or.inr rfl, rfl⟩ fun _ => Invoices.mem_flagAbove_insert? rfl hinsert
  | saved data now invoices hinsert =>
    exact .of_new rfl rfl ⟨Or.inl rfl, rfl⟩ fun _ => Table.mem_insert? hinsert
  | updated invoiceId supplierId fields =>
    exact .of_rows rfl rfl
      (keeps_update (Invoices.id_setDraftFields fields) fun _ _ => ⟨rfl, rfl, rfl, Or.inl rfl⟩)
  | promoted invoiceId faceValue now entry hdraft =>
    have hpromoted : w.invoices.Rowwise Keeps (Invoices.promote invoiceId now w.invoices) :=
      keeps_update _ fun r hr => ⟨rfl, rfl, rfl, Or.inr ⟨(of_decide_eq_true hr).2, rfl⟩⟩
    exact .of_rows rfl rfl (hpromoted.trans (keeps_flagAbove _ _ _) fun _ _ _ => .trans)
  | withdrawn invoiceId entry => exact .withdrawn invoiceId _ rfl

/-- The effects of the verification service. -/
theorem Effect.of_verification (h : Verification.Effect w e w') : Effect w e w' := by
  cases h with
  | tokenGenerated invoiceId token expiresAt entry =>
    exact .of_rows rfl rfl
      (keeps_update (Verification.id_setToken token expiresAt) fun _ _ => ⟨rfl, rfl, rfl, Or.inl rfl⟩)
  | confirmed invoiceId now entry href => exact .confirmed invoiceId now _ rfl
  | disputed invoiceId disputeId disputes entry => exact .silent rfl rfl rfl

/-- Whatever happens, a row stays and keeps its reference. -/
theorem Effect.exists_row (h : Effect w e w') {r : Invoice} (hr : r ∈ w.invoices.rows) :
    ∃ r' ∈ w'.invoices.rows, r'.id = r.id ∧ r'.uraEfrisRef = r.uraEfrisRef := by
  cases h with
  | kept e w' _ _ hkept _ =>
    obtain ⟨r', hr', hkeeps⟩ := hkept r hr
    exact ⟨r', hr', hkeeps.id, hkeeps.uraEfrisRef⟩
  | confirmed invoiceId now w' hinvoices =>
    rw [hinvoices]
    refine ⟨_, Table.mem_update.2 ⟨r, hr, rfl⟩, ?_⟩
    split <;> exact ⟨rfl, rfl⟩
  | withdrawn invoiceId w' hinvoices =>
    rw [hinvoices]
    refine ⟨_, Table.mem_update.2 ⟨r, hr, rfl⟩, ?_⟩
    split <;> exact ⟨rfl, rfl⟩

end Effects

/-! ## The protocol -/

/-- Effects depend on the store alone; a call may return at any time. -/
def protocol : Protocol World Event where
  inv _ := True
  effect s _ e d :=
    match e with
    | some event => Effect s.store event d
    | none => d = s.store
  inv_effect _ _ := trivial
  return_stable _ _ _ _ := rfl

theorem auditing : Auditing protocol where
  read _ _ := .silent rfl rfl rfl
  threw _ _ := .silent rfl rfl rfl
  logged _ _ _ := .silent rfl rfl rfl
  enqueued _ _ _ := .silent rfl rfl rfl
  leftJobs _ _ _ := .silent rfl rfl rfl
  audited _ _ _ := .silent rfl rfl rfl

theorem steady_referenced (invoiceId : ℕ) :
    protocol.Steady fun s => Verification.Referenced invoiceId s.store := by
  rintro s t e d - ⟨r, hr, href⟩ heff
  cases e with
  | none =>
    obtain rfl : d = s.store := heff
    exact ⟨r, hr, href⟩
  | some event =>
    obtain ⟨r', hr', hid, href'⟩ := Effect.exists_row heff (Table.mem_of_get? hr)
    refine ⟨r', ?_, by rwa [href']⟩
    show d.invoices.get? invoiceId = some r'
    rw [← Table.key_of_get? hr, ← hid]
    exact Table.get?_of_mem hr'

/-- Every operation follows the protocol. -/
theorem program_implements (cfg : Config) : protocol.Implements (program cfg) := by
  have hfree : ∀ op, Free protocol (program cfg op) := by
    intro op
    cases op with
    | invoices op =>
      exact Invoices.free_program auditing (fun _ _ _ _ _ h => .of_invoices h)
        (fun _ _ _ _ _ _ => trivial) (fun _ _ _ _ _ _ _ _ => trivial) op
    | verification op =>
      exact Verification.free_program auditing (fun _ _ _ _ _ h => .of_verification h)
        steady_referenced op
  exact fun op t => (hfree op t).conseq (fun _ _ _ => trivial) (fun _ _ _ _ => rfl) fun _ _ _ _ => rfl

/-! ## The law -/

/-- From one store to the next, only a submitted invoice becomes `buyer_confirmed`, a withdrawn one stays
withdrawn, and none that is confirmed becomes withdrawn. -/
structure Excludes (w w' : World) : Prop where
  confirmed : ∀ r' ∈ w'.invoices.rows, r'.status = .buyerConfirmed →
    ∃ r ∈ w.invoices.rows, r.id = r'.id ∧ (r.status = .buyerConfirmed ∨ r.status = .submitted)
  stays : ∀ r ∈ w.invoices.rows, r.status = .withdrawn →
    ∃ r' ∈ w'.invoices.rows, r'.id = r.id ∧ r'.status = .withdrawn
  withdrawn : ∀ r' ∈ w'.invoices.rows, r'.status = .withdrawn →
    ∀ r ∈ w.invoices.rows, r.id = r'.id → r.buyerConfirmedAt = none

/-- A confirmation finds the invoice still submitted, a withdrawal finds it not confirmed. -/
def Timely : Cond World Event := fun s _ e =>
  (∀ invoiceId ∈ confirmed? e, ∀ r ∈ s.store.invoices.get? invoiceId,
    r.buyerConfirmedAt = none → r.status = .submitted) ∧
  ∀ invoiceId ∈ withdrawn? e, ∀ r ∈ s.store.invoices.get? invoiceId, r.buyerConfirmedAt = none

/-- An invoice in the status is confirmed, as `chk_invoices_buyer_confirmed` asks, and a withdrawn one is
not. -/
structure Consistent (w : World) : Prop where
  confirmed : ∀ r ∈ w.invoices.rows, r.status = .buyerConfirmed → r.buyerConfirmedAt ≠ none
  withdrawn : ∀ r ∈ w.invoices.rows, r.status = .withdrawn → r.buyerConfirmedAt = none

instance (s : State World Event) (t : ℕ) (e : Event) : Decidable (Timely s t e) := by
  unfold Timely
  infer_instance

section Law

variable {w w' : World} {e : Event}

/-- A store that does not change breaks no law. -/
theorem Excludes.refl (h : Consistent w) : Excludes w w where
  confirmed r hr hstatus := ⟨r, hr, rfl, Or.inl hstatus⟩
  stays r hr hstatus := ⟨r, hr, rfl, hstatus⟩
  withdrawn r' hr' hstatus r hr hid := by
    rw [Table.eq_of_mem hr hr' hid]
    exact h.withdrawn r' hr' hstatus

/-- Neither does an operation of the other kind. -/
theorem Excludes.of_kept (h : Consistent w)
    (hkept : ∀ r ∈ w.invoices.rows, ∃ r' ∈ w'.invoices.rows, Keeps r r')
    (hrows : ∀ r' ∈ w'.invoices.rows, (∃ r ∈ w.invoices.rows, Keeps r r') ∨ IsNew r') :
    Excludes w w' where
  confirmed r' hr' hstatus := by
    rcases hrows r' hr' with ⟨r, hr, hkeeps⟩ | hnew
    · refine ⟨r, hr, hkeeps.id.symm, ?_⟩
      rcases hkeeps.status with hsame | ⟨-, hsubmitted⟩
      · exact Or.inl (hsame ▸ hstatus)
      · rw [hsubmitted] at hstatus
        cases hstatus
    · rcases hnew.status with h | h <;> rw [h] at hstatus <;> cases hstatus
  stays r hr hstatus := by
    obtain ⟨r', hr', hkeeps⟩ := hkept r hr
    refine ⟨r', hr', hkeeps.id, ?_⟩
    rcases hkeeps.status with hsame | ⟨hdraft, -⟩
    · exact hsame.trans hstatus
    · rw [hdraft] at hstatus
      cases hstatus
  withdrawn r' hr' hstatus r hr hid := by
    obtain ⟨r'', hr'', hkeeps⟩ := hkept r hr
    obtain rfl : r'' = r' := Table.eq_of_mem hr'' hr' (hkeeps.id.trans hid)
    rcases hkeeps.status with hsame | ⟨-, hsubmitted⟩
    · exact h.withdrawn r hr (hsame.symm.trans hstatus)
    · rw [hsubmitted] at hstatus
      cases hstatus

/-- A confirmation keeps the law exactly if it is timely. -/
theorem excludes_confirm_iff {invoiceId : ℕ} {now : ℤ} (h : Consistent w)
    (hinvoices : w'.invoices = confirm invoiceId now w.invoices) :
    Excludes w w' ↔ ∀ r ∈ w.invoices.get? invoiceId, r.buyerConfirmedAt = none →
      r.status = .submitted := by
  constructor
  · intro hexcludes r hr hnot
    have hmem := Table.mem_of_get? hr
    have hid : r.id = invoiceId := Table.key_of_get? hr
    have hr' : Verification.setConfirmed now r ∈ w'.invoices.rows := by
      rw [hinvoices]
      exact Table.mem_update.2 ⟨r, hmem, by simp [hid, hnot]⟩
    obtain ⟨r₀, hr₀, hid₀, hstatus⟩ := hexcludes.confirmed _ hr' rfl
    obtain rfl : r₀ = r := Table.eq_of_mem hr₀ hmem hid₀
    rcases hstatus with hconfirmed | hsubmitted
    · exact absurd hnot (h.confirmed r₀ hr₀ hconfirmed)
    · exact hsubmitted
  · intro htimely
    have hrow : ∀ r ∈ w.invoices.rows, r.id = invoiceId → r.buyerConfirmedAt = none →
        r.status = .submitted := by
      intro r hr hid
      exact htimely r (hid ▸ Table.get?_of_mem hr)
    constructor
    · intro r' hr' hstatus
      rw [hinvoices] at hr'
      obtain ⟨r, hr, rfl⟩ := Table.mem_update.1 hr'
      split at hstatus
      next hmatch =>
        obtain ⟨hid, hnot⟩ := of_decide_eq_true hmatch
        exact ⟨r, hr, by simp [hmatch, Verification.setConfirmed], Or.inr (hrow r hr hid hnot)⟩
      next hmatch => exact ⟨r, hr, by simp [hmatch], Or.inl hstatus⟩
    · intro r hr hstatus
      refine ⟨r, ?_, rfl, hstatus⟩
      rw [hinvoices]
      refine Table.mem_update.2 ⟨r, hr, ?_⟩
      have hmatch : ¬(r.id = invoiceId ∧ r.buyerConfirmedAt = none) := by
        rintro ⟨hid, hnot⟩
        rw [hrow r hr hid hnot] at hstatus
        cases hstatus
      simp [hmatch]
    · intro r' hr' hstatus r hr hid
      rw [hinvoices] at hr'
      obtain ⟨r₀, hr₀, rfl⟩ := Table.mem_update.1 hr'
      split at hstatus
      · cases hstatus
      next hmatch =>
        simp only [hmatch, Bool.false_eq_true, if_false] at hid
        rw [Table.eq_of_mem hr hr₀ hid]
        exact h.withdrawn r₀ hr₀ hstatus

/-- A withdrawal keeps the law exactly if it is timely. -/
theorem excludes_withdraw_iff {invoiceId : ℕ} (h : Consistent w)
    (hinvoices : w'.invoices = withdraw invoiceId w.invoices) :
    Excludes w w' ↔ ∀ r ∈ w.invoices.get? invoiceId, r.buyerConfirmedAt = none := by
  constructor
  · intro hexcludes r hr
    have hmem := Table.mem_of_get? hr
    have hid : r.id = invoiceId := Table.key_of_get? hr
    refine hexcludes.withdrawn (Invoices.setWithdrawn r) ?_ rfl r hmem rfl
    rw [hinvoices]
    exact Table.mem_update.2 ⟨r, hmem, by simp [hid]⟩
  · intro htimely
    constructor
    · intro r' hr' hstatus
      rw [hinvoices] at hr'
      obtain ⟨r, hr, rfl⟩ := Table.mem_update.1 hr'
      split at hstatus
      · cases hstatus
      next hmatch => exact ⟨r, hr, by simp [hmatch], Or.inl hstatus⟩
    · intro r hr hstatus
      have hr' : (if r.id = invoiceId then Invoices.setWithdrawn r else r) ∈ w'.invoices.rows := by
        rw [hinvoices]
        exact Table.mem_update.2 ⟨r, hr, by simp⟩
      refine ⟨_, hr', ?_⟩
      split
      · exact ⟨rfl, rfl⟩
      · exact ⟨rfl, hstatus⟩
    · intro r' hr' hstatus r hr hid
      rw [hinvoices] at hr'
      obtain ⟨r₀, hr₀, rfl⟩ := Table.mem_update.1 hr'
      split at hstatus
      next hmatch =>
        have hsame : r = r₀ :=
          Table.eq_of_mem hr hr₀ (by simpa [hmatch, Invoices.setWithdrawn] using hid)
        refine htimely r ?_
        rw [hsame, ← of_decide_eq_true hmatch]
        exact Table.get?_of_mem hr₀
      next hmatch =>
        simp only [hmatch, Bool.false_eq_true, if_false] at hid
        rw [Table.eq_of_mem hr hr₀ hid]
        exact h.withdrawn r₀ hr₀ hstatus

/-- The step lemma: a statement keeps the law exactly if it is timely. -/
theorem Effect.excludes_iff {s : State World Event} {t : ℕ} (h : Consistent s.store)
    (heff : Effect s.store e w') : Excludes s.store w' ↔ Timely s t e := by
  cases heff with
  | kept e w' hconfirmed hwithdrawn hkept hrows =>
    refine iff_of_true (.of_kept h hkept hrows) ⟨?_, ?_⟩
    · rw [hconfirmed]
      rintro _ ⟨⟩
    · rw [hwithdrawn]
      rintro _ ⟨⟩
  | confirmed invoiceId now w' hinvoices =>
    rw [excludes_confirm_iff h hinvoices]
    simp [Timely, confirmed?, withdrawn?]
  | withdrawn invoiceId w' hinvoices =>
    rw [excludes_withdraw_iff h hinvoices]
    simp [Timely, confirmed?, withdrawn?]

/-- A lawful step leads to a consistent store. -/
theorem Effect.consistent (h : Consistent w) (heff : Effect w e w') (hlaw : Excludes w w') :
    Consistent w' where
  confirmed r' hr' hstatus := by
    cases heff with
    | kept e w' _ _ hkept hrows =>
      rcases hrows r' hr' with ⟨r, hr, hkeeps⟩ | hnew
      · rw [hkeeps.buyerConfirmedAt]
        rcases hkeeps.status with hsame | ⟨-, hsubmitted⟩
        · exact h.confirmed r hr (hsame.symm.trans hstatus)
        · rw [hsubmitted] at hstatus
          cases hstatus
      · rcases hnew.status with h | h <;> rw [h] at hstatus <;> cases hstatus
    | confirmed invoiceId now w' hinvoices =>
      rw [hinvoices] at hr'
      obtain ⟨r, hr, rfl⟩ := Table.mem_update.1 hr'
      split at hstatus
      next hmatch => simp [hmatch, Verification.setConfirmed]
      next hmatch =>
        simp only [hmatch, Bool.false_eq_true, if_false]
        exact h.confirmed r hr hstatus
    | withdrawn invoiceId w' hinvoices =>
      rw [hinvoices] at hr'
      obtain ⟨r, hr, rfl⟩ := Table.mem_update.1 hr'
      split at hstatus
      · cases hstatus
      next hmatch =>
        simp only [hmatch, Bool.false_eq_true, if_false]
        exact h.confirmed r hr hstatus
  withdrawn r' hr' hstatus := by
    cases heff with
    | kept e w' _ _ hkept hrows =>
      rcases hrows r' hr' with ⟨r, hr, hkeeps⟩ | hnew
      · rw [hkeeps.buyerConfirmedAt]
        exact hlaw.withdrawn r' hr' hstatus r hr hkeeps.id.symm
      · exact hnew.buyerConfirmedAt
    | confirmed invoiceId now w' hinvoices =>
      rw [hinvoices] at hr'
      obtain ⟨r, hr, rfl⟩ := Table.mem_update.1 hr'
      split at hstatus
      · cases hstatus
      next hmatch =>
        simp only [hmatch, Bool.false_eq_true, if_false]
        exact h.withdrawn r hr hstatus
    | withdrawn invoiceId w' hinvoices =>
      have hrow := hr'
      rw [hinvoices] at hrow
      obtain ⟨r, hr, rfl⟩ := Table.mem_update.1 hrow
      -- a withdrawal leaves the time of the confirmation
      have hkeep : (if decide (r.id = invoiceId) = true then Invoices.setWithdrawn r else r).buyerConfirmedAt =
          r.buyerConfirmedAt := by
        split <;> rfl
      rw [hkeep]
      refine hlaw.withdrawn _ hr' hstatus r hr ?_
      split <;> rfl

end Law

/-- **Confirmation and withdrawal.** From a consistent store, the runs in which every step keeps the law
are the runs in which every confirmation finds the invoice still submitted and every withdrawal finds it
not confirmed. -/
theorem exclusion_iff_timely (cfg : Config) (w : World) (hw : Consistent w)
    (s : Sys World Input Event RisError) :
    Relation.ReflTransGen
      (fun s s' => Step (program cfg) always s s' ∧ Excludes s.store s'.store) (Sys.init w) s ↔
      Reaches (program cfg) Timely (Sys.init w) s := by
  refine Protocol.runs_iff (program_implements cfg) trivial (P := fun s => Consistent s.store)
    (R := fun s s' => Excludes s.store s'.store) hw (fun _ h => .refl h) ?_ ?_ ?_ s
  · intro s t d h hmove
    obtain rfl : d = s.store := hmove.effect
    exact .refl h
  · exact fun s t e d h hmove => Effect.excludes_iff h hmove.effect
  · intro s t e d h hmove hlaw
    cases e with
    | none =>
      obtain rfl : d = s.store := hmove.effect
      exact h
    | some event => exact Effect.consistent h hmove.effect hlaw

/-! ## A submitted invoice

Its buyer has a token. The database knows the status `'withdrawn'`, which the repository's own migrations
do not add; with them alone no withdrawal commits. -/

def awaitingConfirmation : World :=
  { World.empty with
    suppliers :=
      .single { id := 1, userId := 9, preferredPaymentMethod := "EFT", kycStatus := .approved }
    invoices := .single
      { id := 1, supplierId := 1, buyerId := 1, faceValue := 1000000, advanceAmount := none
        discountAmount := none, netPaymentToSupplier := none, status := .submitted, tenorDays := some 30
        dueDate := 30, amlFlagged := false, amlClearedAt := none, pricingAcceptedAt := none
        pricingAcceptedBy := none, pricingRejectedAt := none, pricingRejectionReason := none
        pricingDisputedAt := none, fundedAt := none, uraEfrisRef := some "EFRIS-1"
        confirmationTokenHash := some "token", confirmationTokenExpiresAt := some 172800000 } }

theorem consistent_awaitingConfirmation : Consistent awaitingConfirmation where
  confirmed r hr hstatus := by
    obtain rfl := List.mem_singleton.1 hr
    cases hstatus
  withdrawn r hr hstatus := by
    obtain rfl := List.mem_singleton.1 hr
    cases hstatus

/-- The configuration of a database that knows the status. -/
def knowsWithdrawn : Config := { withdrawnRefused := false }

def confirmation : Op := .verification (.confirmInvoice "token" {} {})

def withdrawal : Op := .invoices (.withdrawInvoice 1 9 "Mistake" {})

/-- An operation run alone as call `t`, of `n` statements. -/
def alone (op : Op) (t n : ℕ) : List (Act Op Input) := Act.call op t (List.replicate n {})

/-- A confirmation and then a withdrawal, which is too late to do anything. -/
theorem exclusion_kept_in_turn :
    ∃ s : Sys World Input Event RisError,
      s.store.invoices.rows.map Invoice.status = [.buyerConfirmed] ∧
        Relation.ReflTransGen
          (fun s s' => Step (program knowsWithdrawn) always s s' ∧ Excludes s.store s'.store)
          (Sys.init awaitingConfirmation) s := by
  obtain ⟨s, hs, hP⟩ := exists_reaches (program knowsWithdrawn) Timely (Sys.init awaitingConfirmation)
    (alone confirmation 0 5 ++ alone withdrawal 1 2)
    (fun s => s.store.invoices.rows.map Invoice.status = [.buyerConfirmed]) (by decide)
  exact ⟨s, of_decide_eq_true hP,
    (exclusion_iff_timely knowsWithdrawn _ consistent_awaitingConfirmation s).2 hs⟩

/-- The buyer's token is looked up, the supplier withdraws, and the withdrawn invoice becomes
`buyer_confirmed`; the other way round, the confirmed invoice becomes withdrawn. -/
theorem exclusion_broken :
    (∃ s₁ s₂ : Sys World Input Event RisError,
      Reaches (program knowsWithdrawn) always (Sys.init awaitingConfirmation) s₁ ∧
        Step (program knowsWithdrawn) always s₁ s₂ ∧
          s₁.store.invoices.rows.map Invoice.status = [.withdrawn] ∧
            s₂.store.invoices.rows.map Invoice.status = [.buyerConfirmed]) ∧
      ∃ s₁ s₂ : Sys World Input Event RisError,
        Reaches (program knowsWithdrawn) always (Sys.init awaitingConfirmation) s₁ ∧
          Step (program knowsWithdrawn) always s₁ s₂ ∧
            s₁.store.invoices.rows.map Invoice.status = [.buyerConfirmed] ∧
              s₂.store.invoices.rows.map Invoice.status = [.withdrawn] := by
  constructor
  · obtain ⟨s₁, s₂, h₁, h₂, hP⟩ :=
      exists_step (program knowsWithdrawn) always (Sys.init awaitingConfirmation)
        ([.start confirmation, .move 0 {}] ++ alone withdrawal 1 4) (.move 0 {})
        (fun s₁ s₂ => s₁.store.invoices.rows.map Invoice.status = [.withdrawn] ∧
          s₂.store.invoices.rows.map Invoice.status = [.buyerConfirmed]) (by decide)
    obtain ⟨hbefore, hafter⟩ := of_decide_eq_true hP
    exact ⟨s₁, s₂, h₁, h₂, hbefore, hafter⟩
  · obtain ⟨s₁, s₂, h₁, h₂, hP⟩ :=
      exists_step (program knowsWithdrawn) always (Sys.init awaitingConfirmation)
        ([.start withdrawal, .move 0 {}, .move 0 {}] ++ alone confirmation 1 5)
        (.move 0 {})
        (fun s₁ s₂ => s₁.store.invoices.rows.map Invoice.status = [.buyerConfirmed] ∧
          s₂.store.invoices.rows.map Invoice.status = [.withdrawn]) (by decide)
    obtain ⟨hbefore, hafter⟩ := of_decide_eq_true hP
    exact ⟨s₁, s₂, h₁, h₂, hbefore, hafter⟩

end Ris.Withdrawal
