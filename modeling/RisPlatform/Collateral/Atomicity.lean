import RisPlatform.Collateral.Security

/-!
# How far an update gets

`updateCollateral` stores the columns, the documents and the audit row in three transactions, one after the
other. A failure of the second or the third does not take the earlier ones back. The update is atomic exactly
if no statement fails once the rows have changed (`update_atomic_iff`).
-/

namespace Ris.Collateral

open Relational Concurrent

/-! ## What an update stores -/

def storeFields (collateralId : ℕ) (fields : CollateralFields) (w : World) : World :=
  { w with
    collateral := w.collateral.update (fun c => IsLive collateralId c) (setFields fields)
      (id_setFields fields) }

def storeDocuments (collateralId : ℕ) (documents : Option (List ℕ)) (w : World) : World :=
  match documents with
  | none => w
  | some documents =>
    { w with
      collateralDocuments := w.collateralDocuments.filter (fun d => d.collateralId ≠ collateralId) ++
        documents.map fun documentId => { collateralId, documentId } }

/-- A user's request to rewrite an item. -/
structure UpdateRequest where
  userId : ℕ
  role : String
  collateralId : ℕ
  input : UpdateCollateralInput
  req : Request

namespace UpdateRequest

variable (u : UpdateRequest)

def call : Call Collateral := updateCollateral u.userId u.role u.collateralId u.input u.req

def audit (existing : Collateral) : AuditLog :=
  collateralAudit u.userId "COLLATERAL_UPDATED" u.collateralId (u.input.fields.oldValues existing)
    u.input.fields.newValues u.req

/-- The store with the columns and the documents. -/
def rewritten (w : World) : World :=
  storeDocuments u.collateralId u.input.documents (storeFields u.collateralId u.input.fields w)

/-- The store with everything that the request asks for. -/
def applied (existing : Collateral) (w : World) : World :=
  { u.rewritten w with auditLogs := w.auditLogs ++ [u.audit existing] }

theorem auditLogs_rewritten (w : World) : (u.rewritten w).auditLogs = w.auditLogs := by
  unfold rewritten storeDocuments
  split <;> rfl

end UpdateRequest

/-- The request is applied as a whole, or not at all. -/
def Atomic (u : UpdateRequest) (w w' : World) : Prop :=
  w' = w ∨ ∃ existing, getCollateralById u.collateralId w = some existing ∧ w' = u.applied existing w

/-! ## The statements of an update -/

section Statements

variable {ins : ℕ → Input} {n : ℕ} {w : World} {u : UpdateRequest} {existing : Collateral}

/-- An update of no column is none. -/
theorem storeFields_of_not_any {collateralId : ℕ} {fields : CollateralFields} (h : fields.any = false) :
    storeFields collateralId fields w = w := by
  have hset : setFields fields = fun c => c := by
    funext c
    simp only [CollateralFields.any, Bool.or_eq_false_iff, Option.isSome_eq_false_iff, Option.isNone_iff_eq_none] at h
    obtain ⟨⟨⟨⟨htype, hdescription⟩, hvalue⟩, hcurrency⟩, hexpiry⟩ := h
    simp [setFields, htype, hdescription, hvalue, hcurrency, hexpiry]
  have hsame : w.collateral.update (fun c => IsLive collateralId c) (setFields fields)
      (id_setFields fields) = w.collateral := by
    rw [Table.update_congr (g := fun c => c) _ (fun _ => rfl) fun c _ _ => congrFun hset c]
    exact Table.update_id _ _
  rw [storeFields, hsame]

/-- The statement that stores the columns, if there are any, fails. -/
def FieldsFail (ins : ℕ → Input) (n : ℕ) (u : UpdateRequest) : Prop :=
  u.input.fields.any = true ∧ ¬Healthy (ins n)

/-- The number of the statement after it. -/
def UpdateRequest.afterFields (u : UpdateRequest) (n : ℕ) : ℕ := n + u.input.fields.any.toNat

theorem play_persistFields (hfound : getCollateralById u.collateralId w = some existing)
    (hfields : ¬FieldsFail ins n u) :
    ∃ updated, (persistFields u.collateralId u.input.fields existing).play ins n w =
      (.ok updated, storeFields u.collateralId u.input.fields w, u.afterFields n) := by
  unfold persistFields UpdateRequest.afterFields
  cases hany : u.input.fields.any with
  | false =>
    rw [storeFields_of_not_any hany]
    exact ⟨existing, rfl⟩
  | true =>
    have hn : Healthy (ins n) := by
      by_contra hnot
      exact hfields ⟨hany, hnot⟩
    obtain ⟨hget, hlive⟩ := Option.filter_eq_some_iff.1 hfound
    have hupdated : getCollateralById u.collateralId (storeFields u.collateralId u.input.fields w) =
        some (setFields u.input.fields existing) := by
      have hmatch : IsLive u.collateralId existing := ⟨Table.key_of_get? hget, of_decide_eq_true hlive⟩
      rw [getCollateralById, storeFields, Table.get?_update_of_get? hget, if_pos (decide_eq_true hmatch)]
      exact Option.filter_eq_some_iff.2 ⟨rfl, hlive⟩
    have hstored : updateCollateralFields u.collateralId u.input.fields (ins n) w =
        .ok (some (setFields u.input.fields existing), storeFields u.collateralId u.input.fields w) := by
      simp only [updateCollateralFields, Txn.bind_ok, Txn.write_ok, Txn.read_ok]
      exact ⟨(), _, rfl, hupdated, rfl⟩
    exact ⟨setFields u.input.fields existing, Proc.play_bind_ok (play_statement hn hstored)⟩

/-- The statement that stores the documents, if there are any, fails. -/
def DocumentsFail (ins : ℕ → Input) (n : ℕ) (u : UpdateRequest) : Prop :=
  u.input.documents.isSome = true ∧ ¬Healthy (ins n)

/-- The number of the statement after it. -/
def UpdateRequest.afterDocuments (u : UpdateRequest) (n : ℕ) : ℕ := n + u.input.documents.isSome.toNat

theorem play_replaceDocuments (hdocuments : ¬DocumentsFail ins n u) :
    (replaceDocuments u.collateralId u.input.documents).play ins n w =
      (.ok (), storeDocuments u.collateralId u.input.documents w, u.afterDocuments n) := by
  unfold DocumentsFail at hdocuments
  unfold UpdateRequest.afterDocuments
  cases hsome : u.input.documents with
  | none => rfl
  | some documents =>
    have hn : Healthy (ins n) := by
      by_contra hnot
      exact hdocuments ⟨by rw [hsome]; rfl, hnot⟩
    apply play_statement hn
    simp only [replaceDocumentsTxn, insertDocuments, Txn.bind_ok, Txn.write_ok]
    exact ⟨(), _, rfl, rfl⟩

/-- The statements of an update after its checks. -/
def UpdateRequest.rewrite (u : UpdateRequest) (existing : Collateral) : Call Collateral := do
  let updated ← persistFields u.collateralId u.input.fields existing
  replaceDocuments u.collateralId u.input.documents
  auditAlone (u.audit existing)
  log "Collateral updated"
  return updated

theorem store_of_fieldsFail (hfail : FieldsFail ins n u) :
    ((u.rewrite existing).play ins n w).2.1 = w := by
  obtain ⟨hany, hn⟩ := hfail
  obtain ⟨e, he⟩ : ∃ e, (persistFields u.collateralId u.input.fields existing).play ins n w =
      (.error e, w, n + 1) := by
    unfold persistFields
    rw [if_pos hany]
    exact play_fault hn
  rw [UpdateRequest.rewrite, Proc.play_bind_error he]

theorem store_of_documentsFail (hfound : getCollateralById u.collateralId w = some existing)
    (hfields : ¬FieldsFail ins n u) (hfail : DocumentsFail ins (u.afterFields n) u) :
    ((u.rewrite existing).play ins n w).2.1 = storeFields u.collateralId u.input.fields w := by
  obtain ⟨updated, hupdated⟩ := play_persistFields hfound hfields
  obtain ⟨hsome, hn⟩ := hfail
  obtain ⟨documents, hdocuments⟩ := Option.isSome_iff_exists.1 hsome
  rw [UpdateRequest.rewrite, Proc.play_bind_ok hupdated, hdocuments]
  exact store_of_fault hn

/-- The number of the statement that writes the audit row. -/
def UpdateRequest.auditAt (u : UpdateRequest) (n : ℕ) : ℕ := u.afterDocuments (u.afterFields n)

theorem store_of_auditFail (hfound : getCollateralById u.collateralId w = some existing)
    (hfields : ¬FieldsFail ins n u) (hdocuments : ¬DocumentsFail ins (u.afterFields n) u)
    (hfail : ¬Healthy (ins (u.auditAt n))) :
    ((u.rewrite existing).play ins n w).2.1 = u.rewritten w := by
  obtain ⟨updated, hupdated⟩ := play_persistFields hfound hfields
  rw [UpdateRequest.rewrite, Proc.play_bind_ok hupdated, Proc.play_bind_ok (play_replaceDocuments hdocuments)]
  exact store_of_fault hfail

/-- The log line stores nothing. -/
theorem store_of_healthy (hfound : getCollateralById u.collateralId w = some existing)
    (hfields : ¬FieldsFail ins n u) (hdocuments : ¬DocumentsFail ins (u.afterFields n) u)
    (haudit : Healthy (ins (u.auditAt n))) :
    ((u.rewrite existing).play ins n w).2.1 = u.applied existing w := by
  obtain ⟨updated, hupdated⟩ := play_persistFields hfound hfields
  have hrow : (auditAlone (u.audit existing)).play ins (u.auditAt n) (u.rewritten w) =
      (.ok (), u.applied existing w, u.auditAt n + 1) := by
    apply play_statement haudit
    rw [UpdateRequest.applied, ← u.auditLogs_rewritten]
    rfl
  rw [UpdateRequest.rewrite, Proc.play_bind_ok hupdated, Proc.play_bind_ok (play_replaceDocuments hdocuments)]
  show ((auditAlone (u.audit existing) >>= _).play ins (u.auditAt n) (u.rewritten w)).2.1 = _
  rw [Proc.play_bind_ok hrow]
  exact store_of_log_bind (fun _ => rfl) fun _ => rfl

end Statements

/-! ## The checks -/

/-- The number of the first statement after the checks: only a supplier's access is looked up. -/
def UpdateRequest.start (u : UpdateRequest) (existing : Collateral) : ℕ :=
  if existing.invoiceId.isSome ∧ u.role = "supplier" then 2 else 1

/-- The checks let the request through, with the row that it finds. -/
structure Admitted (ins : ℕ → Input) (u : UpdateRequest) (w : World) (existing : Collateral) : Prop where
  read : Healthy (ins 0)
  found : getCollateralById u.collateralId w = some existing
  access : ∀ invoiceId, existing.invoiceId = some invoiceId → u.role = "supplier" →
    Healthy (ins 1) ∧ ownsInvoice invoiceId u.userId w = true

section Checks

variable {ins : ℕ → Input} {w : World} {u : UpdateRequest} {existing : Collateral}

theorem play_guardCollateralAccess (h : Admitted ins u w existing) :
    (guardCollateralAccess u.userId u.role existing).play ins 1 w = (.ok (), w, u.start existing) := by
  unfold guardCollateralAccess UpdateRequest.start
  have haccess := h.access
  cases hinvoice : existing.invoiceId with
  | none => rfl
  | some invoiceId =>
    dsimp only
    unfold validateInvoiceAccess
    by_cases hrole : u.role = "supplier"
    · obtain ⟨hread, howns⟩ := haccess invoiceId hinvoice hrole
      rw [if_neg (not_not.2 hrole), if_pos ⟨rfl, hrole⟩, Proc.play_bind_ok (play_query hread _), howns]
      rfl
    · rw [if_pos hrole, if_neg fun h => hrole h.2]
      rfl

/-- A user who is not let through ends the call. -/
theorem play_guardCollateralAccess_error (hread : Healthy (ins 0))
    (hfound : getCollateralById u.collateralId w = some existing) (h : ¬Admitted ins u w existing) :
    ∃ e n, (guardCollateralAccess u.userId u.role existing).play ins 1 w = (.error e, w, n) := by
  obtain ⟨invoiceId, hinvoice, hrole, hdenied⟩ : ∃ invoiceId, existing.invoiceId = some invoiceId ∧
      u.role = "supplier" ∧ ¬(Healthy (ins 1) ∧ ownsInvoice invoiceId u.userId w = true) := by
    by_contra hnone
    refine h ⟨hread, hfound, fun invoiceId hinvoice hrole => ?_⟩
    by_contra hdenied
    exact hnone ⟨invoiceId, hinvoice, hrole, hdenied⟩
  unfold guardCollateralAccess validateInvoiceAccess
  rw [hinvoice]
  simp only [if_neg (not_not.2 hrole)]
  by_cases haccess : Healthy (ins 1)
  · have howns : ownsInvoice invoiceId u.userId w = false := by
      rw [← Bool.not_eq_true]
      exact fun howns => hdenied ⟨haccess, howns⟩
    rw [Proc.play_bind_ok (play_query haccess _), howns]
    exact ⟨_, _, rfl⟩
  · obtain ⟨e, he⟩ := play_fault haccess
    exact ⟨e, 2, he⟩

/-- An update is its checks and then its statements. -/
theorem store_of_admitted (h : Admitted ins u w existing) :
    (u.call.play ins 0 w).2.1 = ((u.rewrite existing).play ins (u.start existing) w).2.1 := by
  unfold UpdateRequest.call updateCollateral
  rw [Proc.play_bind_ok (play_query h.read _), h.found]
  show ((guardCollateralAccess u.userId u.role existing >>= fun _ => u.rewrite existing).play ins 1 w).2.1 = _
  rw [Proc.play_bind_ok (play_guardCollateralAccess h)]

theorem store_of_not_admitted (h : ∀ existing, ¬Admitted ins u w existing) :
    (u.call.play ins 0 w).2.1 = w := by
  unfold UpdateRequest.call updateCollateral
  by_cases hread : Healthy (ins 0)
  · rw [Proc.play_bind_ok (play_query hread _)]
    cases hfound : getCollateralById u.collateralId w with
    | none => rfl
    | some existing =>
      obtain ⟨e, n, he⟩ := play_guardCollateralAccess_error hread hfound (h existing)
      show ((guardCollateralAccess u.userId u.role existing >>= fun _ => u.rewrite existing).play ins 1
        w).2.1 = _
      rw [Proc.play_bind_error he]
  · exact store_of_fault hread

end Checks

/-! ## When an update is atomic -/

/-- Of the statements from number `n` on, one fails after an earlier one has changed the rows. -/
def TornFrom (ins : ℕ → Input) (n : ℕ) (u : UpdateRequest) (w : World) : Prop :=
  ¬FieldsFail ins n u ∧
    ((DocumentsFail ins (u.afterFields n) u ∧ storeFields u.collateralId u.input.fields w ≠ w) ∨
      (¬DocumentsFail ins (u.afterFields n) u ∧ ¬Healthy (ins (u.auditAt n)) ∧ u.rewritten w ≠ w))

/-- A statement fails after an earlier one has changed the rows. -/
def Torn (ins : ℕ → Input) (u : UpdateRequest) (w : World) : Prop :=
  ∃ existing, Admitted ins u w existing ∧ TornFrom ins (u.start existing) u w

/-- Without its audit row an update is not applied. -/
theorem eq_of_atomic {u : UpdateRequest} {w w' : World} (h : Atomic u w w')
    (hlogs : w'.auditLogs = w.auditLogs) :
    w' = w := by
  obtain hsame | ⟨existing, -, rfl⟩ := h
  · exact hsame
  · exact absurd hlogs (by simp [UpdateRequest.applied])

/-- Which of the statements fails decides how much is stored. -/
theorem atomic_rewrite_iff {ins : ℕ → Input} {n : ℕ} {u : UpdateRequest} {w : World}
    {existing : Collateral}
    (hfound : getCollateralById u.collateralId w = some existing) :
    Atomic u w ((u.rewrite existing).play ins n w).2.1 ↔ ¬TornFrom ins n u w := by
  by_cases hfields : FieldsFail ins n u
  · rw [store_of_fieldsFail hfields]
    exact iff_of_true (Or.inl rfl) fun h => h.1 hfields
  by_cases hdocuments : DocumentsFail ins (u.afterFields n) u
  · rw [store_of_documentsFail hfound hfields hdocuments]
    constructor
    · intro h htorn
      obtain ⟨-, ⟨-, hchanged⟩ | ⟨hnot, -⟩⟩ := htorn
      · exact hchanged (eq_of_atomic h rfl)
      · exact hnot hdocuments
    · intro h
      left
      by_contra hchanged
      exact h ⟨hfields, Or.inl ⟨hdocuments, hchanged⟩⟩
  by_cases haudit : Healthy (ins (u.auditAt n))
  · rw [store_of_healthy hfound hfields hdocuments haudit]
    refine iff_of_true (Or.inr ⟨existing, hfound, rfl⟩) ?_
    rintro ⟨-, ⟨hfail, -⟩ | ⟨-, hfail, -⟩⟩
    · exact hdocuments hfail
    · exact hfail haudit
  · rw [store_of_auditFail hfound hfields hdocuments haudit]
    constructor
    · intro h htorn
      obtain ⟨-, ⟨hfail, -⟩ | ⟨-, -, hchanged⟩⟩ := htorn
      · exact hdocuments hfail
      · exact hchanged (eq_of_atomic h (u.auditLogs_rewritten w))
    · intro h
      left
      by_contra hchanged
      exact h ⟨hfields, Or.inr ⟨hdocuments, haudit, hchanged⟩⟩

/-- An update applies all of its request or nothing exactly if no statement fails after an earlier one has
changed the rows. -/
theorem update_atomic_iff (ins : ℕ → Input) (u : UpdateRequest) (w : World) :
    Atomic u w (u.call.play ins 0 w).2.1 ↔ ¬Torn ins u w := by
  by_cases hadmitted : ∃ existing, Admitted ins u w existing
  · obtain ⟨existing, h⟩ := hadmitted
    rw [store_of_admitted h, atomic_rewrite_iff h.found]
    apply not_congr
    constructor
    · intro htorn
      exact ⟨existing, h, htorn⟩
    · rintro ⟨existing', h', htorn⟩
      obtain rfl := Option.some.inj (h.found.symm.trans h'.found)
      exact htorn
  · rw [store_of_not_admitted (not_exists.1 hadmitted)]
    refine iff_of_true (Or.inl rfl) ?_
    rintro ⟨existing, h, -⟩
    exact hadmitted ⟨existing, h⟩

/-! ## An update whose audit row fails -/

/-- The supplier rewrites the guarantee of a funded invoice to one shilling. -/
def lowered : UpdateRequest where
  userId := 7
  role := "supplier"
  collateralId := 5
  input := { estimatedValue := some ⟨1, by decide⟩ }
  req := {}

/-- The fourth statement fails, which is that of the audit row. -/
def failingAudit (n : ℕ) : Input := { fault := if n = 3 then some "connection terminated" else none }

theorem lowered_torn :
    getTotalCollateralValueForInvoice 1 (pledged .funded) = 60000000 ∧
      getTotalCollateralValueForInvoice 1 (lowered.call.play failingAudit 0 (pledged .funded)).2.1 = 1 ∧
      (lowered.call.play failingAudit 0 (pledged .funded)).2.1.auditLogs = [] ∧
      ¬Atomic lowered (pledged .funded) (lowered.call.play failingAudit 0 (pledged .funded)).2.1 := by
  have hvalue :
      getTotalCollateralValueForInvoice 1 (lowered.call.play failingAudit 0 (pledged .funded)).2.1 = 1 := by
    decide
  refine ⟨by decide, hvalue, by decide, fun h => ?_⟩
  rw [eq_of_atomic h (by decide)] at hvalue
  exact absurd hvalue (by decide)

end Ris.Collateral
