import RisPlatform.Alone
import RisPlatform.Collateral.Service

/-!
# Security while money is out

A deletion is refused while the invoice is `funded`, and goes through once it is `collecting` or
`overdue`; an update never asks. So the collateral behind an outstanding invoice lasts exactly as long as
no update lowers an item and no item is deleted after the collection has begun.
-/

namespace Ris.Collateral

open Relational Concurrent

/-! ## The law -/

/-- The money is out: `status IN ('funded', 'collecting', 'overdue')`. -/
def Outstanding (invoiceId : ℕ) (w : World) : Prop :=
  ∃ invoice, w.invoices.get? invoiceId = some invoice ∧
    (invoice.status = .funded ∨ invoice.status = .collecting ∨ invoice.status = .overdue)

/-- The item counts for the coverage of the invoice. -/
def Secures (invoiceId : ℕ) (c : Collateral) : Prop :=
  c.invoiceId = some invoiceId ∧ c.isActive = true ∧ c.deletedAt = none

instance (invoiceId : ℕ) (c : Collateral) : Decidable (Secures invoiceId c) := by
  unfold Secures
  infer_instance

/-- The total has not decreased, and no active item has gone. -/
structure Kept (invoiceId : ℕ) (w w' : World) : Prop where
  total : getTotalCollateralValueForInvoice invoiceId w ≤ getTotalCollateralValueForInvoice invoiceId w'
  items : ∀ k c, w.collateral.get? k = some c → Secures invoiceId c →
    ∃ c', w'.collateral.get? k = some c' ∧ Secures invoiceId c'

/-- The call of the operation takes one store to the other, while no other call moves. -/
def Performs (op : Op) (w : World) (r : Except RisError Unit) (w' : World) : Prop :=
  ∃ t hist hist', (program op).Run (fun _ : Input => True) t ⟨w, hist⟩ r ⟨w', hist'⟩

/-- The user passes `validateInvoiceAccess`. -/
def HasAccess (invoiceId userId : ℕ) (role : String) (w : World) : Prop :=
  role = "supplier" → ownsInvoice invoiceId userId w = true

/-- The operation does not rewrite an item of the invoice to a lower value, and deletes none unless the
invoice is `funded`. -/
def Spares (invoiceId : ℕ) (w : World) : Op → Prop
  | .createCollateral _ _ _ _ => True
  | .updateCollateral userId role collateralId input _ =>
    ∀ c, w.collateral.get? collateralId = some c → Secures invoiceId c →
      HasAccess invoiceId userId role w → ∀ value, input.estimatedValue = some value → c.value ≤ value
  | .deleteCollateral userId role collateralId _ =>
    ∀ c, w.collateral.get? collateralId = some c → Secures invoiceId c →
      HasAccess invoiceId userId role w →
        ∃ invoice, w.invoices.get? invoiceId = some invoice ∧ invoice.status = .funded

/-- A call of an operation that meets the condition; or another service writes no collateral, and the
money stays out. -/
inductive Move (invoiceId : ℕ) (C : World → Op → Prop) (w : World) : World → Prop
  | operation (op : Op) (r : Except RisError Unit) (w' : World) (hC : C w op) (h : Performs op w r w') :
      Move invoiceId C w w'
  | elsewhere (w' : World) (hcollateral : w'.collateral = w.collateral) (hout : Outstanding invoiceId w') :
      Move invoiceId C w w'

/-! ## Totals -/

/-- What an item adds to the coverage of the invoice. -/
def worth (invoiceId : ℕ) (c : Collateral) : ℤ := if Secures invoiceId c then c.value else 0

theorem total_eq_sum (invoiceId : ℕ) (w : World) :
    getTotalCollateralValueForInvoice invoiceId w = w.collateral.sum (worth invoiceId) := by
  unfold getTotalCollateralValueForInvoice Table.sum
  induction w.collateral.rows with
  | nil => rfl
  | cons c cs ih =>
    rw [List.map_cons, List.sum_cons, ← ih]
    simp only [List.filter_cons, decide_eq_true_eq, worth]
    split
    next hc => rw [if_pos (show Secures invoiceId c from hc), List.map_cons, List.sum_cons]
    next hc => rw [if_neg (show ¬Secures invoiceId c from hc), zero_add]

section Kept

variable {invoiceId : ℕ} {w w' w'' : World}

theorem kept_of_eq (h : w'.collateral = w.collateral) : Kept invoiceId w w' where
  total := by rw [total_eq_sum, total_eq_sum, h]
  items k c hc hsecures := ⟨c, h ▸ hc, hsecures⟩

theorem Kept.trans (h : Kept invoiceId w w') (h' : Kept invoiceId w' w'') : Kept invoiceId w w'' where
  total := h.total.trans h'.total
  items k c hc hsecures := by
    obtain ⟨c', hc', hsecures'⟩ := h.items k c hc hsecures
    exact h'.items k c' hc' hsecures'

/-- A new item has a positive value. -/
theorem kept_of_insert {input : CreateCollateralInput} {id supplierId : ℕ}
    (h : w.collateral.insert? (input.row id supplierId) = some w'.collateral) : Kept invoiceId w w' where
  total := by
    have hnonneg : 0 ≤ worth invoiceId (input.row id supplierId) := by
      unfold worth
      split
      · exact input.estimatedValue.2.le
      · exact le_rfl
    rw [total_eq_sum, total_eq_sum, Table.sum_insert? h]
    omega
  items k c hc hsecures := by
    exact ⟨c, Table.get?_insert?_of_get? h hc, hsecures⟩

section Update

variable {k : ℕ} {c : Collateral} (hc : w.collateral.get? k = some c) (hlive : c.deletedAt = none)

include hc hlive

/-- An `UPDATE` of a live row changes the total by the change of what it is worth. -/
theorem total_update {f : Collateral → Collateral} {hf : ∀ c, (f c).id = c.id}
    (h : w'.collateral = w.collateral.update (fun c => IsLive k c) f hf) :
    getTotalCollateralValueForInvoice invoiceId w' =
      getTotalCollateralValueForInvoice invoiceId w - worth invoiceId c + worth invoiceId (f c) := by
  rw [total_eq_sum, total_eq_sum, h]
  refine Table.sum_update_key hc (fun x hx => (of_decide_eq_true hx).1) ?_ _ _ _
  exact decide_eq_true ⟨Table.key_of_get? hc, hlive⟩

theorem get?_update {f : Collateral → Collateral} {hf : ∀ c, (f c).id = c.id}
    (h : w'.collateral = w.collateral.update (fun c => IsLive k c) f hf) :
    w'.collateral.get? k = some (f c) := by
  rw [h, Table.get?_update_of_get? hc, if_pos]
  exact decide_eq_true ⟨Table.key_of_get? hc, hlive⟩

/-- An update that neither devalues nor removes what counts. -/
theorem kept_of_update {f : Collateral → Collateral} (hf : ∀ c, (f c).id = c.id)
    (h : w'.collateral = w.collateral.update (fun c => IsLive k c) f hf)
    (hsecures : Secures invoiceId (f c) ↔ Secures invoiceId c)
    (hvalue : Secures invoiceId c → c.value ≤ (f c).value) : Kept invoiceId w w' where
  total := by
    have hworth : worth invoiceId c ≤ worth invoiceId (f c) := by
      unfold worth
      by_cases hcounts : Secures invoiceId c
      · rw [if_pos hcounts, if_pos (hsecures.2 hcounts)]
        exact hvalue hcounts
      · rw [if_neg hcounts, if_neg (mt hsecures.1 hcounts)]
    rw [total_update hc hlive h]
    omega
  items j c' hc' hcounts := by
    by_cases hj : j = k
    · subst hj
      obtain rfl := Option.some.inj (hc'.symm.trans hc)
      exact ⟨f c', get?_update hc hlive h, hsecures.2 hcounts⟩
    · refine ⟨c', ?_, hcounts⟩
      rw [h, Table.get?_update_of_not fun x hx => ?_, hc']
      exact decide_eq_false fun hmatch => hj ((Table.key_of_get? hx).symm.trans hmatch.1)

end Update

end Kept

/-! ## What the operations do -/

/-- Neither the items nor the invoices have changed. -/
def Idle (w d : World) : Prop := d.collateral = w.collateral ∧ d.invoices = w.invoices

section Calls

variable {good : Input → Prop} {α β : Type} {w : World}

/-- The call leaves the items and the invoices alone. -/
def Idles (good : Input → Prop) (p : Call α) : Prop :=
  ∀ w, p.Ends good (fun _ => Idle w) (fun _ => Idle w) w

theorem idles_bind {p : Call α} {f : α → Call β} (hp : Idles good p) (hf : ∀ a, Idles good (f a)) :
    Idles good (p >>= f) := by
  refine fun w => (hp w).bind fun a d hd => (hf a d).mono ?_ ?_
  · exact fun _ _ h => ⟨h.1.trans hd.1, h.2.trans hd.2⟩
  · exact fun _ _ h => ⟨h.1.trans hd.1, h.2.trans hd.2⟩

theorem idles_pure (a : α) : Idles good (pure a : Call α) := fun _ => ⟨rfl, rfl⟩

theorem idles_statement {x : Tx α} {committed : α → Event}
    (hx : ∀ i w a d, x i w = .ok (a, d) → Idle w d) :
    Idles good (.transaction x committed fun _ => .threw) :=
  fun w => Proc.ends_transaction (fun i a d _ h => hx i w a d h) fun _ _ _ _ => ⟨rfl, rfl⟩

theorem idles_log (action : String) : Idles good (log action) :=
  idles_statement fun i w a d h => by
    obtain ⟨-, rfl⟩ := connect_ok.1 h
    exact ⟨rfl, rfl⟩

theorem idles_auditAlone (entry : AuditLog) : Idles good (auditAlone entry) :=
  idles_statement fun i w a d h => by
    simp only [Txn.bind_ok, connect_ok, createAuditEntry_ok] at h
    obtain ⟨_, _, ⟨-, rfl⟩, rfl⟩ := h
    exact ⟨rfl, rfl⟩

theorem idles_auditDeletion (userId collateralId : ℕ) (existing : Collateral) (req : Request) :
    Idles good (auditDeletion userId collateralId existing req) :=
  idles_statement fun i w a d h => by
    simp only [Txn.bind_ok, connect_ok, now_ok, createAuditEntry_ok] at h
    obtain ⟨_, _, ⟨-, rfl⟩, _, _, ⟨-, rfl⟩, rfl⟩ := h
    exact ⟨rfl, rfl⟩

theorem idles_replaceDocuments (collateralId : ℕ) (documents : Option (List ℕ)) :
    Idles good (replaceDocuments collateralId documents) := by
  cases documents with
  | none => exact idles_pure _
  | some documents =>
    refine idles_statement fun i w a d h => ?_
    simp only [replaceDocumentsTxn, insertDocuments, Txn.bind_ok, connect_ok, Txn.write_ok] at h
    obtain ⟨_, _, ⟨-, rfl⟩, _, _, rfl, rfl⟩ := h
    exact ⟨rfl, rfl⟩

/-- What comes after a statement that left `d` changes neither items nor invoices. -/
theorem Idles.ends {p : Call α} (hp : Idles good p) {Q : World → Prop} {d : World}
    (hQ : ∀ d', Idle d d' → Q d') : p.Ends good (fun _ => Q) (fun _ => Q) d :=
  (hp d).mono (fun _ d' h => hQ d' h) fun _ d' h => hQ d' h

/-- What follows the question about the access runs with a user that has it, if the answer is yes. -/
theorem ends_validateInvoiceAccess {invoiceId userId : ℕ} {role : String} {f : Bool → Call β}
    {Q : β → World → Prop} {E : RisError → World → Prop}
    (hf : ∀ hasAccess, (hasAccess = true → HasAccess invoiceId userId role w) →
      (f hasAccess).Ends good Q E w) (herr : ∀ e, E e w) :
    (validateInvoiceAccess invoiceId userId role >>= f).Ends good Q E w := by
  by_cases hrole : role = "supplier"
  · rw [validateInvoiceAccess, if_neg (not_not.2 hrole)]
    exact ends_bind_query (hf _ fun howns _ => howns) herr
  · rw [validateInvoiceAccess, if_pos hrole]
    exact hf true fun _ hsupplier => absurd hsupplier hrole

theorem ends_guardAccess {invoiceId userId : ℕ} {role message : String} {hasAccess : Bool}
    {f : Unit → Call β}
    {Q : β → World → Prop} {E : RisError → World → Prop}
    (haccess : hasAccess = true → HasAccess invoiceId userId role w)
    (hf : HasAccess invoiceId userId role w → (f ()).Ends good Q E w) (herr : ∀ e, E e w) :
    ((monadLift (guardAccess message hasAccess) : Call Unit) >>= f).Ends good Q E w := by
  cases hasAccess with
  | true => exact ends_bind_ok rfl (hf (haccess rfl))
  | false => exact ends_bind_error rfl (herr _)

theorem ends_guardCollateralAccess {userId : ℕ} {role : String} {existing : Collateral}
    {f : Unit → Call β}
    {Q : β → World → Prop} {E : RisError → World → Prop}
    (hf : (∀ i, existing.invoiceId = some i → HasAccess i userId role w) → (f ()).Ends good Q E w)
    (herr : ∀ e, E e w) : (guardCollateralAccess userId role existing >>= f).Ends good Q E w := by
  unfold guardCollateralAccess
  cases hinvoice : existing.invoiceId with
  | none => exact hf fun i hi => by rw [hinvoice] at hi; cases hi
  | some invoiceId =>
    refine Proc.Ends.bind (R := fun _ d => d = w ∧ HasAccess invoiceId userId role w) ?_ ?_
    · refine ends_validateInvoiceAccess (fun hasAccess haccess => ?_) herr
      cases hasAccess with
      | true => exact ⟨rfl, haccess rfl⟩
      | false => exact herr _
    · rintro _ d ⟨rfl, haccess⟩
      refine hf fun i hi => ?_
      obtain rfl := Option.some.inj (hinvoice.symm.trans hi)
      exact haccess

theorem ends_guardDeletion {existing : Collateral} {f : Unit → Call β} {Q : β → World → Prop}
    {E : RisError → World → Prop}
    (hf : (∀ i invoice, existing.invoiceId = some i → w.invoices.get? i = some invoice →
      invoice.status ≠ .funded) → (f ()).Ends good Q E w)
    (herr : ∀ e, E e w) : (guardDeletion existing >>= f).Ends good Q E w := by
  unfold guardDeletion
  cases hinvoice : existing.invoiceId with
  | none => exact hf fun i _ hi => by rw [hinvoice] at hi; cases hi
  | some invoiceId =>
    refine Proc.Ends.bind (R := fun _ d => d = w ∧ ∀ invoice, w.invoices.get? invoiceId = some invoice →
      invoice.status ≠ .funded) ?_ ?_
    · refine ends_bind_query ?_ herr
      unfold getInvoiceStatus
      cases hget : w.invoices.get? invoiceId with
      | none => exact ⟨rfl, fun _ h => by cases h⟩
      | some invoice =>
        by_cases hfunded : invoice.status = .funded
        · rw [guardNotFunded, if_pos hfunded]
          exact herr _
        · rw [guardNotFunded, if_neg hfunded]
          exact ⟨rfl, fun _ h => Option.some.inj h ▸ hfunded⟩
    · rintro _ d ⟨rfl, hstatus⟩
      refine hf fun i invoice hi hget => ?_
      obtain rfl := Option.some.inj (hinvoice.symm.trans hi)
      exact hstatus invoice hget

/-- What follows the search for the item runs with a row that is not deleted. -/
theorem ends_requireCollateral {collateralId : ℕ} {f : Collateral → Call β} {Q : β → World → Prop}
    {E : RisError → World → Prop}
    (hf : ∀ c, w.collateral.get? collateralId = some c → c.deletedAt = none → (f c).Ends good Q E w)
    (herr : ∀ e, E e w) :
    (query (getCollateralById collateralId) >>= fun found =>
      (monadLift (requireCollateral collateralId found) : Call Collateral) >>= f).Ends good Q E w := by
  refine ends_bind_query ?_ herr
  cases hfound : getCollateralById collateralId w with
  | none => exact ends_bind_error rfl (herr _)
  | some c =>
    obtain ⟨hget, hlive⟩ := Option.filter_eq_some_iff.1 hfound
    exact ends_bind_ok rfl (hf c hget (of_decide_eq_true hlive))

end Calls

/-! ## A call that spares the invoice's collateral -/

/-- The collateral is kept, and no invoice has moved. -/
def Safe (invoiceId : ℕ) (w d : World) : Prop := Kept invoiceId w d ∧ d.invoices = w.invoices

theorem safe_refl (invoiceId : ℕ) (w : World) : Safe invoiceId w w := ⟨kept_of_eq rfl, rfl⟩

theorem Safe.idle {invoiceId : ℕ} {w d d' : World} (h : Safe invoiceId w d) (hidle : Idle d d') :
    Safe invoiceId w d' :=
  ⟨h.1.trans (kept_of_eq hidle.1), hidle.2.trans h.2⟩

section Operations

variable {good : Input → Prop} {w : World} {invoiceId : ℕ} {userId : ℕ} {role : String} {req : Request}

theorem ends_createCollateral (input : CreateCollateralInput) :
    (createCollateral userId role input req).Ends good (fun _ => Safe invoiceId w)
      (fun _ => Safe invoiceId w) w := by
  have hsafe := safe_refl invoiceId w
  refine ends_bind_query ?_ fun _ => hsafe
  cases getInvoiceStatus input.invoiceId w with
  | none => exact ends_bind_error rfl hsafe
  | some invoice =>
    refine ends_bind_ok rfl ?_
    refine ends_validateInvoiceAccess (fun hasAccess haccess => ?_) fun _ => hsafe
    refine ends_guardAccess haccess (fun _ => ?_) fun _ => hsafe
    refine Proc.Ends.bind (R := fun _ => Safe invoiceId w)
      (Proc.ends_transaction (fun i id d _ h => ?_) fun _ _ _ _ => hsafe) fun id d hd => ?_
    · simp only [createCollateralTxn, insertDocuments, Txn.bind_ok, connect_ok, Txn.input_ok,
        Txn.read_ok] at h
      obtain ⟨_, _, ⟨-, rfl⟩, _, _, ⟨rfl, rfl⟩, _, _, ⟨rfl, rfl⟩, h⟩ := h
      cases hinsert : w.collateral.insert? (input.row i.uuid invoice.supplierId) with
      | none => simp [hinsert] at h
      | some collateral =>
        simp only [hinsert, Txn.bind_ok, Txn.write_ok, Txn.pure_ok] at h
        obtain ⟨_, _, rfl, _, _, rfl, -, rfl⟩ := h
        exact ⟨kept_of_insert hinsert, rfl⟩
    · exact (idles_bind (idles_auditAlone _) fun _ => idles_bind (idles_log _) fun _ => idles_pure _).ends
        fun _ => hd.idle

/-- The `UPDATE` of the columns, on an item that is there. -/
theorem ends_persistFields {collateralId : ℕ} {fields : CollateralFields} {c : Collateral}
    (hc : w.collateral.get? collateralId = some c) (hlive : c.deletedAt = none)
    (hvalue : Secures invoiceId c → ∀ value, fields.value = some value → c.value ≤ value) :
    (persistFields collateralId fields c).Ends good (fun _ => Safe invoiceId w)
      (fun _ => Safe invoiceId w) w := by
  unfold persistFields
  split
  · refine Proc.Ends.bind (R := fun _ => Safe invoiceId w)
      (Proc.ends_transaction (fun i updated d _ h => ?_) fun _ _ _ _ => safe_refl _ _) fun updated d hd => ?_
    · simp only [updateCollateralFields, Txn.bind_ok, connect_ok, Txn.write_ok, Txn.read_ok] at h
      obtain ⟨_, _, ⟨-, rfl⟩, _, _, rfl, -, rfl⟩ := h
      refine ⟨kept_of_update hc hlive (id_setFields _) rfl Iff.rfl fun hsecures => ?_, rfl⟩
      show c.value ≤ fields.value.getD c.value
      cases hfield : fields.value with
      | none => exact le_rfl
      | some value => exact hvalue hsecures value hfield
    · cases updated <;> exact hd
  · exact safe_refl _ _

theorem ends_updateCollateral {collateralId : ℕ} {input : UpdateCollateralInput}
    (hspares : Spares invoiceId w (.updateCollateral userId role collateralId input req)) :
    (updateCollateral userId role collateralId input req).Ends good (fun _ => Safe invoiceId w)
      (fun _ => Safe invoiceId w) w := by
  refine ends_requireCollateral (fun c hc hlive => ?_) fun _ => safe_refl _ _
  refine ends_guardCollateralAccess (fun haccess => ?_) fun _ => safe_refl _ _
  refine Proc.Ends.bind (ends_persistFields hc hlive fun hsecures value hvalue => ?_) fun updated d hd => ?_
  · obtain ⟨estimate, hestimate, rfl⟩ := Option.map_eq_some_iff.1 hvalue
    exact hspares c hc hsecures (haccess _ hsecures.1) estimate hestimate
  · exact (idles_bind (idles_replaceDocuments _ _) fun _ => idles_bind (idles_auditAlone _) fun _ =>
      idles_bind (idles_log _) fun _ => idles_pure _).ends fun _ => hd.idle

theorem ends_deleteCollateral {collateralId : ℕ}
    (hspares : Spares invoiceId w (.deleteCollateral userId role collateralId req)) :
    (deleteCollateral userId role collateralId req).Ends good (fun _ => Safe invoiceId w)
      (fun _ => Safe invoiceId w) w := by
  refine ends_requireCollateral (fun c hc hlive => ?_) fun _ => safe_refl _ _
  refine ends_guardCollateralAccess (fun haccess => ?_) fun _ => safe_refl _ _
  refine ends_guardDeletion (fun hstatus => ?_) fun _ => safe_refl _ _
  -- an item that counts is one of a funded invoice, whose deletion has been refused
  have hnot : ¬Secures invoiceId c := by
    intro hsecures
    obtain ⟨invoice, hget, hfunded⟩ := hspares c hc hsecures (haccess _ hsecures.1)
    exact hstatus _ _ hsecures.1 hget hfunded
  refine Proc.Ends.bind (R := fun _ => Safe invoiceId w)
    (Proc.ends_transaction (fun i _ d _ h => ?_) fun _ _ _ _ => safe_refl _ _) fun _ d hd => ?_
  · simp only [softDelete, Txn.bind_ok, connect_ok, now_ok, Txn.write_ok] at h
    obtain ⟨_, _, ⟨-, rfl⟩, _, _, ⟨rfl, rfl⟩, rfl⟩ := h
    refine ⟨kept_of_update hc hlive (id_setDeleted _) rfl ⟨fun h => ?_, fun h => absurd h hnot⟩
      fun h => absurd h hnot, rfl⟩
    cases h.2.2
  · exact (idles_bind (idles_auditDeletion _ _ _ _) fun _ => idles_log _).ends fun _ => hd.idle

theorem ends_program {op : Op} (hspares : Spares invoiceId w op) :
    (program op).Ends good (fun _ => Safe invoiceId w) (fun _ => Safe invoiceId w) w := by
  cases op with
  | createCollateral userId role input req =>
    exact Proc.Ends.bind (ends_createCollateral input) fun _ d hd => hd
  | updateCollateral userId role collateralId input req =>
    exact Proc.Ends.bind (ends_updateCollateral hspares) fun _ d hd => hd
  | deleteCollateral userId role collateralId req => exact ends_deleteCollateral hspares

/-- The deletion of an item of a funded invoice fails. -/
theorem ends_deleteCollateral_funded {collateralId : ℕ} {c : Collateral} {invoice : Invoice}
    (hc : w.collateral.get? collateralId = some c) (hpledged : c.invoiceId = some invoiceId)
    (hinvoice : w.invoices.get? invoiceId = some invoice) (hfunded : invoice.status = .funded) :
    (deleteCollateral userId role collateralId req).Ends good (fun _ _ => False) (fun _ d => d = w) w := by
  refine ends_requireCollateral (fun c' hc' _ => ?_) fun _ => rfl
  obtain rfl := Option.some.inj (hc.symm.trans hc')
  refine ends_guardCollateralAccess (fun _ => ?_) fun _ => rfl
  exact ends_guardDeletion (fun hstatus => absurd hfunded (hstatus _ _ hpledged hinvoice)) fun _ => rfl

end Operations

/-! ## A call that does not -/

section Outcome

variable {w : World} {α β : Type}

/-- Whatever the store, the call ends with a value, if nothing fails, and leaves the items. -/
def Completes (p : Call α) : Prop :=
  ∀ w, ∃ a d, p.outcome {} w = (.ok a, d) ∧ d.collateral = w.collateral

theorem completes_pure (a : α) : Completes (pure a : Call α) := fun w => ⟨a, w, rfl, rfl⟩

theorem Completes.bind {p : Call α} {f : α → Call β} (hp : Completes p) (hf : ∀ a, Completes (f a)) :
    Completes (p >>= f) := by
  intro w
  obtain ⟨a, w₁, h₁, hitems₁⟩ := hp w
  obtain ⟨b, w₂, h₂, hitems₂⟩ := hf a w₁
  exact ⟨b, w₂, Proc.outcome_bind_ok.2 ⟨a, w₁, h₁, h₂⟩, hitems₂.trans hitems₁⟩

theorem completes_log (action : String) : Completes (log action) := fun w => ⟨(), w, rfl, rfl⟩

theorem completes_auditAlone (entry : AuditLog) : Completes (auditAlone entry) :=
  fun _ => ⟨(), _, rfl, rfl⟩

theorem completes_auditDeletion (userId collateralId : ℕ) (existing : Collateral) (req : Request) :
    Completes (auditDeletion userId collateralId existing req) :=
  fun _ => ⟨(), _, rfl, rfl⟩

theorem completes_replaceDocuments (collateralId : ℕ) (documents : Option (List ℕ)) :
    Completes (replaceDocuments collateralId documents) := by
  cases documents with
  | none => exact completes_pure ()
  | some documents => exact fun w => ⟨(), _, rfl, rfl⟩

theorem outcome_guardCollateralAccess {userId : ℕ} {role : String} {c : Collateral} {invoiceId : ℕ}
    (hpledged : c.invoiceId = some invoiceId) (haccess : HasAccess invoiceId userId role w) :
    (guardCollateralAccess userId role c).outcome {} w = (.ok (), w) := by
  unfold guardCollateralAccess
  rw [hpledged]
  refine Proc.outcome_bind_ok.2 ⟨true, w, ?_, rfl⟩
  unfold validateInvoiceAccess
  by_cases hrole : role = "supplier"
  · rw [if_neg (not_not.2 hrole)]
    exact outcome_query_ok.2 ⟨rfl, haccess hrole, rfl⟩
  · rw [if_pos hrole]
    rfl

theorem getCollateralById_of_secures {collateralId invoiceId : ℕ} {c : Collateral}
    (hc : w.collateral.get? collateralId = some c) (hsecures : Secures invoiceId c) :
    getCollateralById collateralId w = some c := by
  rw [getCollateralById, hc]
  exact Option.filter_eq_some_iff.2 ⟨rfl, decide_eq_true hsecures.2.2⟩

/-- A call of `updateCollateral` with a value, by a user that has access, sets it. -/
theorem outcome_updateCollateral {userId : ℕ} {role : String} {collateralId invoiceId : ℕ}
    {c : Collateral}
    {input : UpdateCollateralInput} {value : EstimatedValue} (req : Request)
    (hc : w.collateral.get? collateralId = some c) (hsecures : Secures invoiceId c)
    (haccess : HasAccess invoiceId userId role w) (hvalue : input.estimatedValue = some value) :
    ∃ d, (program (.updateCollateral userId role collateralId input req)).outcome {} w = (.ok (), d) ∧
      d.collateral = w.collateral.update (fun c => IsLive collateralId c) (setFields input.fields)
        (id_setFields input.fields) := by
  have hfound := getCollateralById_of_secures hc hsecures
  have hany : input.fields.any = true := by
    simp [CollateralFields.any, UpdateCollateralInput.fields, hvalue]
  have hupdated : (w.collateral.update (fun c => IsLive collateralId c) (setFields input.fields)
      (id_setFields input.fields)).get? collateralId = some (setFields input.fields c) := by
    rw [Table.get?_update_of_get? hc, if_pos]
    exact decide_eq_true ⟨Table.key_of_get? hc, hsecures.2.2⟩
  obtain ⟨u, d, htail, hitems⟩ := ((completes_replaceDocuments collateralId input.documents).bind fun _ =>
    (completes_auditAlone (collateralAudit userId "COLLATERAL_UPDATED" collateralId
      (input.fields.oldValues c) input.fields.newValues req)).bind fun _ =>
        (completes_log "Collateral updated").bind fun _ => completes_pure (setFields input.fields c))
    { w with
      collateral := w.collateral.update (fun c => IsLive collateralId c) (setFields input.fields)
        (id_setFields input.fields) }
  refine ⟨d, Proc.outcome_bind_ok.2 ⟨u, d, ?_, rfl⟩, hitems⟩
  refine Proc.outcome_bind_ok.2 ⟨some c, w, outcome_query_ok.2 ⟨rfl, hfound, rfl⟩, ?_⟩
  refine Proc.outcome_bind_ok.2 ⟨c, w, rfl, ?_⟩
  refine Proc.outcome_bind_ok.2 ⟨(), w, outcome_guardCollateralAccess hsecures.1 haccess, ?_⟩
  refine Proc.outcome_bind_ok.2 ⟨setFields input.fields c, _, ?_, htail⟩
  unfold persistFields
  rw [if_pos hany]
  refine Proc.outcome_bind_ok.2 ⟨some (setFields input.fields c), _, ?_, rfl⟩
  refine outcome_transactionOf_ok.2 ⟨rfl, ?_⟩
  simp only [updateCollateralFields, Txn.bind_ok, Txn.write_ok, Txn.read_ok]
  refine ⟨(), _, rfl, ?_, rfl⟩
  exact Option.filter_eq_some_iff.2 ⟨hupdated, decide_eq_true hsecures.2.2⟩

/-- A call of `deleteCollateral`, by a user that has access, deletes the item unless the invoice is
`funded`. -/
theorem outcome_deleteCollateral {userId : ℕ} {role : String} {collateralId invoiceId : ℕ}
    {c : Collateral}
    {invoice : Invoice} (req : Request) (hc : w.collateral.get? collateralId = some c)
    (hsecures : Secures invoiceId c) (haccess : HasAccess invoiceId userId role w)
    (hinvoice : w.invoices.get? invoiceId = some invoice) (hstatus : invoice.status ≠ .funded) :
    ∃ d, (program (.deleteCollateral userId role collateralId req)).outcome {} w = (.ok (), d) ∧
      d.collateral = w.collateral.update (fun c => IsLive collateralId c) (setDeleted 0) (id_setDeleted 0) := by
  have hfound := getCollateralById_of_secures hc hsecures
  obtain ⟨u, d, htail, hitems⟩ := ((completes_auditDeletion userId collateralId c req).bind fun _ =>
    completes_log "Collateral soft deleted")
    { w with
      collateral := w.collateral.update (fun c => IsLive collateralId c) (setDeleted 0) (id_setDeleted 0) }
  have hdeletion : (guardDeletion c).outcome {} w = (.ok (), w) := by
    unfold guardDeletion
    rw [hsecures.1]
    refine Proc.outcome_bind_ok.2 ⟨some invoice, w, outcome_query_ok.2 ⟨rfl, hinvoice, rfl⟩, ?_⟩
    rw [guardNotFunded, if_neg hstatus]
    rfl
  refine ⟨d, ?_, hitems⟩
  refine Proc.outcome_bind_ok.2 ⟨some c, w, outcome_query_ok.2 ⟨rfl, hfound, rfl⟩, ?_⟩
  refine Proc.outcome_bind_ok.2 ⟨c, w, rfl, ?_⟩
  refine Proc.outcome_bind_ok.2 ⟨(), w, outcome_guardCollateralAccess hsecures.1 haccess, ?_⟩
  refine Proc.outcome_bind_ok.2 ⟨(), w, hdeletion, ?_⟩
  refine Proc.outcome_bind_ok.2 ⟨(), _, ?_, htail⟩
  exact outcome_transactionOf_ok.2 ⟨rfl, rfl⟩

end Outcome

theorem performs_of_outcome {op : Op} {w w' : World} {r : Except RisError Unit}
    (h : (program op).outcome {} w = (r, w')) : Performs op w r w' := by
  have hrun : ∃ hist', (program op).Run (fun _ => True) 0 ⟨w, []⟩ r ⟨w', hist'⟩ :=
    Proc.exists_run_of_outcome trivial h 0 []
  exact ⟨0, [], hrun⟩

theorem Performs.ends {op : Op} {w w' : World} {r : Except RisError Unit} (h : Performs op w r w')
    {Q : Unit → World → Prop} {E : RisError → World → Prop}
    (hends : (program op).Ends (fun _ => True) Q E w) :
    (Proc.done r : Call Unit).Ends (fun _ => True) Q E w' := by
  obtain ⟨t, hist, hist', hrun⟩ := h
  have hstart : (program op).Ends (fun _ => True) Q E (⟨w, hist⟩ : State World Event).store := hends
  exact hstart.of_run hrun

/-! ## The condition is exact -/

theorem Performs.safe {op : Op} {w w' : World} {r : Except RisError Unit} {invoiceId : ℕ}
    (h : Performs op w r w') (hspares : Spares invoiceId w op) : Safe invoiceId w w' := by
  have hends := h.ends (ends_program hspares)
  cases r with
  | ok u => exact hends
  | error e => exact hends

/-- An operation that keeps the collateral however its call goes spares it. -/
theorem spares_of_kept {invoiceId : ℕ} {w : World} {op : Op} (hout : Outstanding invoiceId w)
    (h : ∀ r w', Performs op w r w' → Kept invoiceId w w') : Spares invoiceId w op := by
  cases op with
  | createCollateral => exact trivial
  | updateCollateral userId role collateralId input req =>
    intro c hc hsecures haccess value hvalue
    obtain ⟨d, houtcome, hitems⟩ := outcome_updateCollateral req hc hsecures haccess hvalue
    have hkept := (h _ _ (performs_of_outcome houtcome)).total
    have hset : (setFields input.fields c).value = value := by
      simp [setFields, UpdateCollateralInput.fields, hvalue]
    rw [total_update hc hsecures.2.2 hitems, worth, worth, if_pos hsecures,
      if_pos (show Secures invoiceId (setFields input.fields c) from hsecures), hset] at hkept
    omega
  | deleteCollateral userId role collateralId req =>
    intro c hc hsecures haccess
    obtain ⟨invoice, hinvoice, -⟩ := hout
    refine ⟨invoice, hinvoice, ?_⟩
    by_contra hstatus
    obtain ⟨d, houtcome, hitems⟩ :=
      outcome_deleteCollateral req hc hsecures haccess hinvoice hstatus
    obtain ⟨c', hc', hsecures'⟩ := (h _ _ (performs_of_outcome houtcome)).items _ c hc hsecures
    rw [get?_update hc hsecures.2.2 hitems] at hc'
    obtain rfl := Option.some.inj hc'
    cases hsecures'.2.2

/-! ## The law of sequences -/

/-- In every sequence of operations that spare the collateral of an outstanding invoice, the total does
not decrease and no active item goes; an operation keeps them, however its call goes, exactly if it spares
them; and the deletion of an item of a funded invoice fails and changes nothing. -/
theorem security_kept (invoiceId : ℕ) (w : World) (hout : Outstanding invoiceId w) :
    (∀ w', Relation.ReflTransGen (Move invoiceId (Spares invoiceId)) w w' →
      Kept invoiceId w w' ∧ Outstanding invoiceId w') ∧
      (∀ op, (∀ r w', Performs op w r w' → Kept invoiceId w w') ↔ Spares invoiceId w op) ∧
      ∀ userId role collateralId req c invoice r w', w.collateral.get? collateralId = some c →
        c.invoiceId = some invoiceId → w.invoices.get? invoiceId = some invoice →
          invoice.status = .funded →
            Performs (.deleteCollateral userId role collateralId req) w r w' → r ≠ .ok () ∧ w' = w := by
  refine ⟨fun w' hmoves => ?_, fun op => ⟨spares_of_kept hout, fun hspares r w' h => (h.safe hspares).1⟩, ?_⟩
  · induction hmoves with
    | refl => exact ⟨kept_of_eq rfl, hout⟩
    | @tail w₁ w₂ _ hmove ih =>
      obtain ⟨hkept, hout₁⟩ := ih
      cases hmove with
      | operation op r _ hspares h =>
        obtain ⟨hkept', hinvoices⟩ := h.safe hspares
        exact ⟨hkept.trans hkept', by rwa [Outstanding, hinvoices]⟩
      | elsewhere _ hcollateral hout₂ => exact ⟨hkept.trans (kept_of_eq hcollateral), hout₂⟩
  · intro userId role collateralId req c invoice r w' hc hpledged hinvoice hfunded h
    have hends := h.ends (ends_deleteCollateral_funded hc hpledged hinvoice hfunded)
    cases r with
    | ok u => exact hends.elim
    | error e => exact ⟨fun h => (by cases h), hends⟩

/-! ## A bank guarantee -/

/-- A store with an invoice in this status, for which a bank guarantee is pledged. -/
def pledged (status : InvoiceStatus) : World :=
  { World.empty with
    invoices := .single
      { id := 1, supplierId := 2, buyerId := 3, faceValue := 60000000, advanceAmount := none
        discountAmount := none, netPaymentToSupplier := none, status, tenorDays := some 60
        dueDate := 0, amlFlagged := false, amlClearedAt := none, pricingAcceptedAt := none
        pricingAcceptedBy := none, pricingRejectedAt := none, pricingRejectionReason := none
        pricingDisputedAt := none, fundedAt := none }
    suppliers := .single { id := 2, userId := 7, preferredPaymentMethod := "EFT" }
    collateral := .single
      { id := 5, invoiceId := some 1, value := 60000000, isActive := true, deletedAt := none
        supplierId := 2, collateralType := .bankGuarantee } }

theorem outstanding_pledged_funded : Outstanding 1 (pledged .funded) := ⟨_, rfl, Or.inl rfl⟩

/-- The supplier raises the value of the guarantee, and then cannot delete it. -/
theorem guarantee_kept :
    ∃ w r w', Kept 1 (pledged .funded) w ∧ getTotalCollateralValueForInvoice 1 w = 70000000 ∧
      Performs (.deleteCollateral 7 "supplier" 5 {}) w r w' ∧ r ≠ .ok () ∧ w' = w := by
  have hraise : ∃ w, Performs (.updateCollateral 7 "supplier" 5
      { estimatedValue := some ⟨70000000, by decide⟩ } {}) (pledged .funded) (.ok ()) w ∧
        getTotalCollateralValueForInvoice 1 w = 70000000 ∧
          (w.collateral.get? 5).bind Collateral.invoiceId = some 1 ∧
            (w.invoices.get? 1).map Invoice.status = some .funded :=
    ⟨_, performs_of_outcome rfl, by decide, by decide, by decide⟩
  obtain ⟨w, hperforms, htotal, hitem, hstatus⟩ := hraise
  obtain ⟨c, hc, hpledged⟩ := Option.bind_eq_some_iff.1 hitem
  obtain ⟨invoice, hinvoice, hfunded⟩ := Option.map_eq_some_iff.1 hstatus
  have hspares : Spares 1 (pledged .funded)
      (.updateCollateral 7 "supplier" 5 { estimatedValue := some ⟨70000000, by decide⟩ } {}) := by
    intro c hc _ _ value hvalue
    obtain rfl := Option.some.inj hc
    obtain rfl := Option.some.inj hvalue
    decide
  obtain ⟨hkept, hout⟩ := (security_kept 1 (pledged .funded) outstanding_pledged_funded).1 w
    (.single (.operation _ _ _ hspares hperforms))
  obtain ⟨r, w', hdelete⟩ : ∃ r w', Performs (.deleteCollateral 7 "supplier" 5 {}) w r w' :=
    ⟨_, _, performs_of_outcome rfl⟩
  obtain ⟨hfails, hsame⟩ :=
    (security_kept 1 w hout).2.2 7 "supplier" 5 {} c invoice r w' hc hpledged hinvoice hfunded hdelete
  exact ⟨w, r, w', hkept, htotal, hdelete, hfails, hsame⟩

/-- While the invoice is funded, the supplier rewrites the guarantee to one shilling; once it is
`collecting`, the supplier deletes it. -/
theorem guarantee_withdrawn :
    (∃ w, Outstanding 1 (pledged .funded) ∧
      Performs (.updateCollateral 7 "supplier" 5 { estimatedValue := some ⟨1, by decide⟩ } {})
        (pledged .funded) (.ok ()) w ∧
        getTotalCollateralValueForInvoice 1 (pledged .funded) = 60000000 ∧
          getTotalCollateralValueForInvoice 1 w = 1 ∧ ¬Kept 1 (pledged .funded) w) ∧
      ∃ w, Outstanding 1 (pledged .collecting) ∧
        Performs (.deleteCollateral 7 "supplier" 5 {}) (pledged .collecting) (.ok ()) w ∧
          getTotalCollateralValueForInvoice 1 w = 0 ∧ ¬Kept 1 (pledged .collecting) w := by
  constructor
  · refine ⟨_, ⟨_, rfl, Or.inl rfl⟩, performs_of_outcome rfl, by decide, by decide, ?_⟩
    exact fun hkept => absurd hkept.total (by decide)
  · refine ⟨_, ⟨_, rfl, Or.inr (Or.inl rfl)⟩, performs_of_outcome rfl, by decide, ?_⟩
    exact fun hkept => absurd hkept.total (by decide)

end Ris.Collateral
