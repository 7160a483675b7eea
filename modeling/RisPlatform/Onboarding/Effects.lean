import RisPlatform.Onboarding.Service

/-!
# What the review of suppliers does to the rows

The effect of each act on the rows of the suppliers, with what its call had read. The operations do
nothing else (`kycProgram_covers`).
-/

namespace Ris.Onboarding

open Relational Concurrent

/-- The call has read the supplier, with this status. -/
def HasRead (l : List (Option (Did KycAct))) (supplierId : ℕ) (status : KycStatus) : Prop :=
  ∃ s : SupplierRecord, some (.own (.supplierRead (some s))) ∈ l ∧ s.id = supplierId ∧
    s.kycStatus = status

/-- What `executeKycStatusTx` assigns. -/
def changeStatus (status : KycStatus) (userId : ℕ) (s : SupplierRecord) : SupplierRecord :=
  { s with
    kycStatus := status
    kycReviewerId := if status = .underReview then some userId else s.kycReviewerId
    kycApproverId := if status = .approved then some userId else s.kycApproverId }

/-- What the automatic paths assign. -/
def setStatus (status : KycStatus) (s : SupplierRecord) :
    SupplierRecord := { s with kycStatus := status }

theorem id_changeStatus (status : KycStatus) (userId : ℕ) (s : SupplierRecord) :
    (changeStatus status userId s).id = s.id := rfl

theorem id_setStatus (status : KycStatus) (s : SupplierRecord) : (setStatus status s).id = s.id := rfl

/-- Assign to the row of a supplier. -/
def KycRows.assign (r : KycRows) (supplierId : ℕ) (f : SupplierRecord → SupplierRecord)
    (hf : ∀ s, (f s).id = s.id) : KycRows :=
  { r with suppliers := r.suppliers.update (fun s => s.id = supplierId) f hf }

/-- The row of an uploaded file. -/
def DocumentRecord.Stores (x : DocumentRecord) (documentId supplierId : ℕ)
    (file : UploadedFile) : Prop :=
  x.id = documentId ∧ x.supplierId = supplierId ∧ x.encryptedPath = encryptedFileName documentId ∧
    x.mimeType = file.mimetype

theorem stores_documentRow (env : Env) (documentId supplierId : ℕ) (file : UploadedFile)
    (documentType : String) (userId : ℕ) :
    (documentRow env documentId supplierId file documentType userId).Stores documentId supplierId file :=
  ⟨rfl, rfl, rfl, rfl⟩

/-- What an act does to the rows. -/
inductive KycEffect (env : Env) (l : List (Option (Did KycAct))) (r : KycRows) : KycAct → KycRows → Prop
  | supplierRead (found : Option SupplierRecord)
      (hfound : ∀ s ∈ found, r.suppliers.get? s.id = some s) : KycEffect env l r (.supplierRead found) r
  | fileWritten (documentId : ℕ) (file : UploadedFile) (r' : KycRows)
      (hsuppliers : r'.suppliers = r.suppliers) (hdocuments : r'.documents = r.documents)
      (hfiles : ∃ i content, encrypt env i 0 (Base64.encode file.buffer) = .ok content ∧
        r'.files = (encryptedFileName documentId, content) :: r.files) :
      KycEffect env l r (.fileWritten documentId file) r'
  | documentCreated (documentId supplierId : ℕ) (file : UploadedFile) (r' : KycRows)
      (hsuppliers : r'.suppliers = r.suppliers) (hfiles : r'.files = r.files)
      (hread : ∃ status, HasRead l supplierId status)
      (hwritten : some (.own (.fileWritten documentId file)) ∈ l)
      (hinsert : ∃ x, x.Stores documentId supplierId file ∧ r.documents.insert? x = some r'.documents) :
      KycEffect env l r (.documentCreated documentId supplierId file) r'
  | documentReviewed (documentId : ℕ) (decision : DocumentReviewStatus) (r' : KycRows)
      (hsuppliers : r'.suppliers = r.suppliers) (hfiles : r'.files = r.files)
      (hkept : ∀ k x, r.documents.get? k = some x → ∃ y, r'.documents.get? k = some y ∧
        ∀ documentId supplierId file, x.Stores documentId supplierId file →
          y.Stores documentId supplierId file) :
      KycEffect env l r (.documentReviewed documentId decision) r'
  | statusChanged (supplierId : ℕ) (previous status : KycStatus) (userId : ℕ)
      (hread : HasRead l supplierId previous) (hedge : status ∈ allowedTransitions previous) :
      KycEffect env l r (.statusChanged supplierId previous status userId)
        (r.assign supplierId (changeStatus status userId) (id_changeStatus status userId))
  | autoAdvanced (supplierId : ℕ) (hread : HasRead l supplierId .pending) :
      KycEffect env l r (.autoAdvanced supplierId)
        (r.assign supplierId (setStatus .documentsSubmitted) (id_setStatus .documentsSubmitted))
  | autoApproved (supplierId : ℕ) (previous : KycStatus) (reviewerId : ℕ)
      (hread : HasRead l supplierId previous) (hopen : previous ≠ .approved ∧ previous ≠ .rejected) :
      KycEffect env l r (.autoApproved supplierId previous reviewerId)
        (r.assign supplierId (setStatus .approved) (id_setStatus .approved))

/-! ## Transactions -/

section Commit

variable {i : Input} {d d' : Db KycRows} {u : Unit}

theorem updateSupplier_ok {supplierId : ℕ} {f : SupplierRecord → SupplierRecord}
    {hf : ∀ s, (f s).id = s.id} :
    Repo.updateSupplier supplierId f hf i d = .ok (u, d') ↔
      { d with rows := d.rows.assign supplierId f hf } = d' := by
  simp [Repo.updateSupplier, KycRows.assign]

theorem assign_assign (r : KycRows) {supplierId : ℕ} {f g : SupplierRecord → SupplierRecord}
    (hf : ∀ s, (f s).id = s.id) (hg : ∀ s, (g s).id = s.id) :
    (r.assign supplierId f hf).assign supplierId g hg =
      r.assign supplierId (fun s => g (f s)) fun s => (hg (f s)).trans (hf s) := by
  unfold KycRows.assign
  congr 1
  exact Table.update_update r.suppliers hf hg fun s => by rw [hf]

theorem assign_congr (r : KycRows) {supplierId : ℕ} {f g : SupplierRecord → SupplierRecord}
    {hf : ∀ s, (f s).id = s.id} {hg : ∀ s, (g s).id = s.id} (h : f = g) :
    r.assign supplierId f hf = r.assign supplierId g hg := by
  subst h
  rfl

/-- The markers and the status are one assignment. -/
theorem executeKycStatusTx_ok {supplierId : ℕ} {currentStatus newStatus : KycStatus}
    {update : KycStatusUpdate} {reviewerId : ℕ} {req : Request}
    (h : executeKycStatusTx supplierId currentStatus newStatus update reviewerId req i d = .ok (u, d')) :
    d'.rows = d.rows.assign supplierId (changeStatus newStatus reviewerId)
      (id_changeStatus newStatus reviewerId) := by
  cases newStatus with
  | underReview =>
    simp only [executeKycStatusTx, setKycRoleMarkers, Repo.updateKycStatus,
      Repo.setKycReviewerWithClient, reduceCtorEq, if_true, if_false, Txn.bind_ok, updateSupplier_ok,
      Txn.pure_ok, Db.createAuditEntry_ok] at h
    obtain ⟨_, _, ⟨_, _, rfl, -, rfl⟩, _, _, rfl, rfl⟩ := h
    exact (assign_assign d.rows _ _).trans (assign_congr d.rows rfl)
  | approved =>
    simp only [executeKycStatusTx, setKycRoleMarkers, Repo.updateKycStatus,
      Repo.setKycApproverWithClient, reduceCtorEq, if_true, if_false, Txn.bind_ok, updateSupplier_ok,
      Txn.pure_ok, Db.createAuditEntry_ok] at h
    obtain ⟨_, _, ⟨_, _, ⟨-, rfl⟩, rfl⟩, _, _, rfl, rfl⟩ := h
    exact (assign_assign d.rows _ _).trans (assign_congr d.rows rfl)
  | _ =>
    simp only [executeKycStatusTx, setKycRoleMarkers, Repo.updateKycStatus, reduceCtorEq, if_false,
      Txn.bind_ok, updateSupplier_ok, Txn.pure_ok, Db.createAuditEntry_ok] at h
    obtain ⟨_, _, ⟨_, _, ⟨-, rfl⟩, -, rfl⟩, _, _, rfl, rfl⟩ := h
    exact assign_congr d.rows rfl

theorem createDocument_ok {data : DocumentRecord} (h : Repo.createDocument data i d = .ok (u, d')) :
    d'.rows.suppliers = d.rows.suppliers ∧ d'.rows.files = d.rows.files ∧
      d.rows.documents.insert? data = some d'.rows.documents := by
  simp only [Repo.createDocument, Txn.bind_ok, Db.read_ok] at h
  obtain ⟨found, _, ⟨hfound, rfl⟩, h⟩ := h
  cases found with
  | none => cases h
  | some documents =>
    obtain rfl := Db.write_ok.1 h
    exact ⟨rfl, rfl, hfound⟩

theorem encryptAndStoreFile_ok {env : Env} {file : UploadedFile} {documentId : ℕ}
    (h : encryptAndStoreFile env file i d = .ok (documentId, d')) :
    ∃ content, encrypt env i 0 (Base64.encode file.buffer) = .ok content ∧
      d'.rows = { d.rows with files := (encryptedFileName documentId, content) :: d.rows.files } := by
  simp only [encryptAndStoreFile, Txn.bind_ok, Db.uuid_ok, Txn.input_ok, Txn.lift_ok, Db.write_ok,
    Txn.pure_ok] at h
  obtain ⟨_, _, ⟨-, rfl⟩, _, _, ⟨rfl, rfl⟩, content, _, ⟨hcontent, rfl⟩, _, _, rfl, rfl, rfl⟩ := h
  exact ⟨content, hcontent, rfl⟩

theorem updateDocumentReview_ok {documentId supplierId reviewerId : ℕ} {decision : DocumentReviewStatus}
    {comments : String} {updated : Option DocumentRecord}
    (h : Repo.updateDocumentReview documentId supplierId decision reviewerId comments i d =
      .ok (updated, d')) :
    d'.rows.suppliers = d.rows.suppliers ∧ d'.rows.files = d.rows.files ∧
      ∀ k x, d.rows.documents.get? k = some x → ∃ y, d'.rows.documents.get? k = some y ∧
        ∀ documentId supplierId file, x.Stores documentId supplierId file →
          y.Stores documentId supplierId file := by
  simp only [Repo.updateDocumentReview, Txn.bind_ok, Db.now_ok, Db.read_ok, Db.write_ok,
    Txn.pure_ok] at h
  obtain ⟨_, _, ⟨-, rfl⟩, _, _, ⟨-, rfl⟩, _, _, rfl, -, rfl⟩ := h
  refine ⟨rfl, rfl, fun k x hx => ?_⟩
  dsimp only
  rw [Table.get?_update, hx]
  refine ⟨_, rfl, fun documentId supplierId file hstores => ?_⟩
  dsimp only
  split
  · exact hstores
  · exact hstores

end Commit

/-! ## Calls -/

/-- What a call does that may be anything. -/
abbrev KycDoes {α : Type} (env : Env) (Q : α → List (Option (Did KycAct)) → Prop) (p : KycCall α)
    (l : List (Option (Did KycAct))) : Prop := p.Does (Db.effects (KycEffect env)) Q l

/-- No more is said of the outcome. -/
abbrev Any {α : Type} : α → List (Option (Did KycAct)) → Prop := fun _ _ => True

/-- A supplier that was found has been read. -/
abbrev Found (found : Option SupplierRecord) (l : List (Option (Did KycAct))) : Prop :=
  ∀ s ∈ found, HasRead l s.id s.kycStatus

section Calls

variable {cfg : Config} {env : Env} {l l' : List (Option (Did KycAct))}

theorem HasRead.mono {supplierId : ℕ} {status : KycStatus} (h : HasRead l supplierId status)
    (hl : l <:+ l') : HasRead l' supplierId status := by
  obtain ⟨s, hs, hid⟩ := h
  exact ⟨s, hl.subset hs, hid⟩

theorem does_findSupplierById (supplierId : ℕ) :
    KycDoes env (fun found l => Found found l ∧ ∀ s ∈ found, s.id = supplierId)
      (Db.see (Repo.findSupplierById supplierId) .supplierRead) l := by
  refine Db.does_see fun r => ⟨.supplierRead _ ?_, ?_, ?_⟩
  · intro s hs
    rw [Table.key_of_get? hs]
    exact hs
  · rintro s hs
    exact ⟨s, hs ▸ List.mem_cons_self, rfl, rfl⟩
  · exact fun s hs => Table.key_of_get? hs

theorem does_findSupplierByUserId (userId : ℕ) :
    KycDoes env Found (Db.see (Repo.findSupplierByUserId userId) .supplierRead) l := by
  refine Db.does_see fun r => ⟨.supplierRead _ ?_, ?_⟩
  · exact fun s hs => Table.get?_of_mem (List.mem_of_find?_eq_some hs)
  · exact fun s hs => ⟨s, hs ▸ List.mem_cons_self, rfl, rfl⟩

theorem does_resolveSupplierForRequester (idParam userId : ℕ) (role : String) :
    KycDoes env Found (resolveSupplierForRequester idParam userId role) l := by
  refine (does_findSupplierById idParam).bind fun found l₁ _ hfound => ?_
  cases found with
  | some supplier => exact Proc.does_pure hfound.1
  | none =>
    show KycDoes env Found (if _ then _ else _) l₁
    split
    · exact does_findSupplierByUserId userId
    · exact Proc.does_pure fun s hs => by cases hs

theorem does_queueKycNotification (supplierId : ℕ) (newStatus : KycStatus) (comments : String) :
    KycDoes env Any (queueKycNotification cfg supplierId newStatus comments) l := by
  unfold queueKycNotification
  split
  · exact Proc.does_pure trivial
  · exact Db.does_enqueueOrWarn _ _ _

theorem does_updateKycStatus (supplierId : ℕ) (update : KycStatusUpdate) (reviewerId : ℕ)
    (req : Request) : KycDoes env Any (updateKycStatus cfg supplierId update reviewerId req) l := by
  refine (does_findSupplierById supplierId).bind fun found l₁ _ hfound => ?_
  cases found with
  | none => exact Proc.does_throw _
  | some supplier =>
    have hread := hfound.1 supplier rfl
    obtain rfl := hfound.2 supplier rfl
    refine (Proc.does_lift (Q := fun _ _ => update.status ∈ allowedTransitions supplier.kycStatus)
      ?_).bind fun _ l₂ hl₂ hedge => ?_
    · intro _ hok
      unfold validateKycTransition at hok
      split at hok
      · cases hok
      · exact not_not.1 ‹_›
    · have hcheck : KycDoes env Any
          (if update.status = .approved then enforceKycMakerChecker supplier.id reviewerId else pure ())
          l₂ := by
        split
        · refine (Db.does_query _).bind fun _ _ _ _ => ?_
          split
          · exact Proc.does_throw _
          · exact Proc.does_pure trivial
        · exact Proc.does_pure trivial
      refine hcheck.bind fun _ l₃ hl₃ _ => ?_
      refine (Db.does_commit (Q := Any) fun i d _ d' hok => ⟨?_, trivial⟩).bind fun _ _ _ _ =>
        (Db.does_log _).bind fun _ _ _ _ => does_queueKycNotification _ _ _
      rw [executeKycStatusTx_ok hok]
      exact .statusChanged _ _ _ _ ((hread.mono hl₂).mono hl₃) hedge

theorem does_maybeAutoApproveSupplierKyc {supplier : SupplierRecord} (reviewerId : ℕ) (req : Request)
    (hread : HasRead l supplier.id supplier.kycStatus) :
    KycDoes env Any (maybeAutoApproveSupplierKyc cfg supplier reviewerId req) l := by
  unfold maybeAutoApproveSupplierKyc
  split
  · exact Proc.does_pure trivial
  · rename_i hopen
    refine (Db.does_query _).bind fun _ l₁ hl₁ _ => ?_
    split
    · exact Proc.does_pure trivial
    · refine Proc.Does.tryCatch ?_ fun _ _ _ => Db.does_log _
      refine (Db.does_commit (Q := Any) fun i d _ d' hok => ⟨?_, trivial⟩).bind fun _ _ _ _ =>
        (Db.does_audit _).bind fun _ _ _ _ => (Db.does_log _).bind fun _ _ _ _ =>
          Db.does_enqueueOrWarn _ _ _
      obtain rfl := updateSupplier_ok.1 hok
      exact .autoApproved _ _ _ (hread.mono hl₁) (not_or.1 hopen)

theorem does_reviewSupplierDocument (supplierId documentId : ℕ) (decision : DocumentReviewDecision)
    (reviewerId : ℕ) (reviewerRole : String) (req : Request) :
    KycDoes env Any
      (reviewSupplierDocument cfg supplierId documentId decision reviewerId reviewerRole req) l := by
  unfold reviewSupplierDocument
  split
  · exact Proc.does_throw _
  · refine (does_findSupplierById supplierId).bind fun found l₁ _ hfound => ?_
    cases found with
    | none => exact Proc.does_throw _
    | some supplier =>
      refine (Db.does_query _).bind fun existing l₂ hl₂ _ => ?_
      cases existing with
      | none => exact Proc.does_throw _
      | some existing =>
        show KycDoes env Any (if _ then _ else _) l₂
        split
        · exact Proc.does_throw _
        · have hcommit : KycDoes env Any (Db.transaction
              (Repo.updateDocumentReview documentId supplier.id decision.decision reviewerId decision.comments)
              fun _ => .documentReviewed documentId decision.decision) l₂ := by
            refine Db.does_commit fun i d _ d' hok => ⟨?_, trivial⟩
            obtain ⟨hsuppliers, hfiles, hkept⟩ := updateDocumentReview_ok hok
            exact .documentReviewed _ _ _ hsuppliers hfiles hkept
          refine hcommit.bind fun updated l₃ hl₃ _ => ?_
          show KycDoes env Any (if _ then _ else _) l₃
          split
          · exact Proc.does_throw _
          · refine (Db.does_audit _).bind fun _ l₄ hl₄ _ => (Db.does_log _).bind fun _ l₅ hl₅ _ => ?_
            have hread := (((hfound.1 supplier rfl).mono hl₂).mono hl₃).mono (hl₄.trans hl₅)
            split
            · exact does_maybeAutoApproveSupplierKyc reviewerId req hread
            · split
              · exact (Db.does_enqueueOrWarn _ _ _).tryCatch fun _ _ _ => Db.does_log _
              · exact Proc.does_pure trivial

theorem does_autoAdvanceKycStatus (supplierId userId : ℕ) (req : Request) :
    KycDoes env Any (autoAdvanceKycStatus supplierId userId req) l := by
  have hshould : KycDoes env (fun advance l => advance = true → HasRead l supplierId .pending)
      (shouldAutoAdvance supplierId) l := by
    refine (does_findSupplierById supplierId).bind fun found l₁ _ hfound => ?_
    split
    · exact Proc.does_pure fun h => by cases h
    · rename_i hpending
      refine (Db.does_query _).bind fun _ l₂ hl₂ _ => Proc.does_pure fun _ => ?_
      cases found with
      | none => exact absurd rfl hpending
      | some supplier =>
        have hstatus : supplier.kycStatus = .pending := by simpa using hpending
        have hread := hfound.1 supplier rfl
        rw [hfound.2 supplier rfl, hstatus] at hread
        exact hread.mono hl₂
  refine hshould.bind fun advance l₁ _ hread => ?_
  split
  · refine (Db.does_commit (Q := Any) fun i d _ d' hok => ⟨?_, trivial⟩).bind fun _ _ _ _ =>
      (Db.does_audit _).bind fun _ _ _ _ => Db.does_log _
    obtain rfl := updateSupplier_ok.1 hok
    exact .autoAdvanced _ (hread ‹_›)
  · exact Proc.does_pure trivial

theorem does_addForAll (documentType : String) (recipients : List String) :
    KycDoes env Any (addForAll env documentType recipients) l := by
  induction recipients generalizing l with
  | nil => exact Proc.does_pure trivial
  | cons recipient recipients ih =>
    have hadd : KycDoes env Any (tryCatch
        (do Db.enqueueNew (uploadNotification env documentType recipient); return none)
        fun e => pure (some e) : KycCall (Option RisError)) l :=
      ((Db.does_enqueueNew _).bind fun _ _ _ _ => Proc.does_pure trivial).tryCatch
        fun _ _ _ => Proc.does_pure trivial
    refine hadd.bind fun failure _ _ _ => ih.bind fun _ _ _ _ => ?_
    cases failure with
    | none => exact Proc.does_pure trivial
    | some e => exact Proc.does_throw e

theorem does_notifyReviewersOfDocumentUpload (documentType : String) :
    KycDoes env Any (notifyReviewersOfDocumentUpload cfg env documentType) l := by
  unfold notifyReviewersOfDocumentUpload
  split
  · exact Db.does_log _
  · refine Proc.Does.tryCatch ((Db.does_query _).bind fun reviewers _ _ _ => ?_)
      fun _ _ _ => Db.does_log _
    split
    · exact Db.does_log _
    · exact (does_addForAll documentType reviewers).bind fun _ _ _ _ => Db.does_log _

/-- An upload that returns has written the file and then the row. -/
theorem does_uploadDocument (idParam userId : ℕ) (role : String) (file : UploadedFile)
    (documentType : String) (req : Request) :
    KycDoes env
      (fun documentId l => ∃ supplierId, some (.own (.documentCreated documentId supplierId file)) ∈ l)
      (uploadDocument cfg env idParam userId role file documentType req) l := by
  refine (does_resolveSupplierForRequester idParam userId role).bind fun found l₁ _ hfound => ?_
  cases found with
  | none => exact Proc.does_throw _
  | some supplier =>
    show KycDoes env _ (if _ then _ else _) l₁
    split
    · exact Proc.does_throw _
    · refine (Proc.does_lift (Q := Any) fun _ _ => trivial).bind fun _ l₂ hl₂ _ => ?_
      have hfile : KycDoes env (fun documentId l => some (.own (.fileWritten documentId file)) ∈ l)
          (Db.transaction (encryptAndStoreFile env file) fun documentId => .fileWritten documentId file) l₂ := by
        refine Db.does_commit fun i d documentId d' hok => ⟨?_, List.mem_cons_self⟩
        obtain ⟨content, hcontent, hrows⟩ := encryptAndStoreFile_ok hok
        rw [hrows]
        exact .fileWritten documentId file _ rfl rfl ⟨i, content, hcontent, rfl⟩
      refine hfile.bind fun documentId l₃ hl₃ hwritten => ?_
      have hread : HasRead l₃ supplier.id supplier.kycStatus :=
        (hfound supplier rfl).mono (hl₂.trans hl₃)
      have hrow : KycDoes env
          (fun _ l => some (.own (.documentCreated documentId supplier.id file)) ∈ l)
          (Db.transaction
            (Repo.createDocument (documentRow env documentId supplier.id file documentType userId))
            fun _ => .documentCreated documentId supplier.id file) l₃ := by
        refine Db.does_commit fun i d _ d' hok => ⟨?_, List.mem_cons_self⟩
        obtain ⟨hsuppliers, hfiles, hinsert⟩ := createDocument_ok hok
        exact .documentCreated _ _ _ _ hsuppliers hfiles ⟨_, hread⟩ hwritten
          ⟨_, stores_documentRow env _ _ _ _ _, hinsert⟩
      refine hrow.bind fun _ l₄ _ hcreated => ?_
      have haudit : KycDoes env Any
          (auditDocumentUpload env documentId supplier.id documentType file userId req) l₄ :=
        (Db.does_audit _).bind fun _ _ _ _ => does_autoAdvanceKycStatus _ _ _
      refine haudit.bind fun _ l₅ hl₅ _ => (does_notifyReviewersOfDocumentUpload documentType).bind
        fun _ l₆ hl₆ _ => Proc.does_pure ⟨supplier.id, ?_⟩
      exact (hl₅.trans hl₆).subset hcreated

end Calls

/-- The operations do what the effects say. -/
theorem kycProgram_covers (cfg : Config) (env : Env) :
    (Db.effects (KycEffect env)).Covers (kycProgram cfg env) := by
  intro op
  cases op with
  | uploadDocument idParam userId role file documentType req =>
    exact ((does_uploadDocument idParam userId role file documentType req).mono
      fun _ _ _ _ => trivial).discard
  | reviewSupplierDocument supplierId documentId decision reviewerId reviewerRole req =>
    exact does_reviewSupplierDocument supplierId documentId decision reviewerId reviewerRole req
  | updateKycStatus supplierId update reviewerId req =>
    exact does_updateKycStatus supplierId update reviewerId req

end Ris.Onboarding
