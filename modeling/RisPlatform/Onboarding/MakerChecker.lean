import RisPlatform.Onboarding.Effects

/-!
# Who reviews a supplier and who approves it

An approved supplier should have a reviewer and an approver who are different users. The check of
`updateKycStatus` reads the reviewer before the transaction, in which the row may have another, and the
automatic approval checks and records nobody. `makerChecked_iff` says which runs keep the rule.
-/

namespace Ris.Onboarding

open Relational Concurrent

/-! ## The rule -/

/-- The supplier has a reviewer and an approver, and they are two users. -/
def Separated (s : SupplierRecord) : Prop :=
  s.kycReviewerId ≠ none ∧ s.kycApproverId ≠ none ∧ s.kycReviewerId ≠ s.kycApproverId

instance (s : SupplierRecord) : Decidable (Separated s) := by
  unfold Separated
  infer_instance

/-- Every approved supplier was reviewed by one user and approved by another. -/
def MakerChecked (r : KycRows) : Prop := ∀ s ∈ r.suppliers.rows, s.kycStatus = .approved → Separated s

instance (r : KycRows) : Decidable (MakerChecked r) := by
  unfold MakerChecked
  infer_instance

/-- A manual approval is committed while the row has a reviewer, who is not the approver; an automatic
one finds a row that already has two users. -/
def TwoUsers : Cond (Db KycRows) (Did KycAct) := fun s _ e =>
  match e with
  | .own (.statusChanged supplierId _ .approved approverId) =>
    ∀ x ∈ s.store.rows.suppliers.get? supplierId,
      x.kycReviewerId ≠ none ∧ x.kycReviewerId ≠ some approverId
  | .own (.autoApproved supplierId _ _) => ∀ x ∈ s.store.rows.suppliers.get? supplierId, Separated x
  | _ => True

instance (s : State (Db KycRows) (Did KycAct)) (t : ℕ) (e : Did KycAct) :
    Decidable (TwoUsers s t e) := by
  unfold TwoUsers
  split <;> infer_instance

/-! ## One statement -/

section Step

variable {r r' : KycRows} {l : List (Option (Did KycAct))}

/-- An assignment to one supplier keeps the rule if the row that it leaves does. -/
theorem makerChecked_assign (h : MakerChecked r) {supplierId : ℕ}
    {f : SupplierRecord → SupplierRecord} (hf : ∀ s, (f s).id = s.id) :
    MakerChecked (r.assign supplierId f hf) ↔
      ∀ x ∈ r.suppliers.get? supplierId, (f x).kycStatus = .approved → Separated (f x) := by
  constructor
  · intro hrule x hx
    have hmem : f x ∈ (r.assign supplierId f hf).suppliers.rows := by
      rw [KycRows.assign, Table.rows_update]
      exact List.mem_map.2 ⟨x, Table.mem_of_get? hx, if_pos (decide_eq_true (Table.key_of_get? hx))⟩
    exact hrule (f x) hmem
  · intro hrow s hs
    rw [KycRows.assign, Table.rows_update] at hs
    obtain ⟨x, hx, rfl⟩ := List.mem_map.1 hs
    by_cases hid : x.id = supplierId
    · rw [if_pos (decide_eq_true hid)]
      exact hrow x (hid ▸ Table.get?_of_mem hx)
    · rw [if_neg (by simpa using hid)]
      exact h x hx

theorem makerChecked_of_suppliers (h : MakerChecked r) (hsuppliers : r'.suppliers = r.suppliers) :
    MakerChecked r' := by
  unfold MakerChecked
  rwa [hsuppliers]

/-- The step lemma: the condition decides whether the rule holds after a statement. -/
theorem makerChecked_step (h : MakerChecked r) {s : State (Db KycRows) (Did KycAct)}
    (hs : s.store.rows = r) {t : ℕ} {e : KycAct} (he : KycEffect env l r e r') :
    MakerChecked r' ↔ TwoUsers s t (.own e) := by
  cases he with
  | supplierRead found hfound => exact iff_of_true h trivial
  | fileWritten documentId file r' hsuppliers hdocuments hfiles =>
    exact iff_of_true (makerChecked_of_suppliers h hsuppliers) trivial
  | documentCreated documentId supplierId file r' hsuppliers hfiles hread hwritten hinsert =>
    exact iff_of_true (makerChecked_of_suppliers h hsuppliers) trivial
  | documentReviewed documentId decision r' hsuppliers hfiles hkept =>
    exact iff_of_true (makerChecked_of_suppliers h hsuppliers) trivial
  | autoAdvanced supplierId hread =>
    refine iff_of_true ?_ trivial
    rw [makerChecked_assign h]
    exact fun x _ hstatus => by cases hstatus
  | autoApproved supplierId previous reviewerId hread hopen =>
    rw [makerChecked_assign h, TwoUsers, hs]
    exact forall₂_congr fun x _ => ⟨fun hrow => hrow rfl, fun hrow _ => hrow⟩
  | statusChanged supplierId previous status userId hread hedge =>
    rw [makerChecked_assign h]
    cases status with
    | approved =>
      rw [TwoUsers, hs]
      refine forall₂_congr fun x _ => ?_
      -- the approver is the user, the reviewer that of the row
      constructor
      · exact fun hrow => ⟨(hrow rfl).1, (hrow rfl).2.2⟩
      · exact fun hrow _ => ⟨hrow.1, Option.some_ne_none userId, hrow.2⟩
    | _ => exact iff_of_true (fun x _ hstatus => by cases hstatus) trivial

end Step

/-! ## Runs -/

/-- The runs on which every approved supplier has a reviewer and another user as its approver are the
runs whose manual approvals commit over another user's review, and whose automatic ones find both users
recorded. -/
theorem makerChecked_iff (cfg : Config) (env : Env) {d : Db KycRows} (hd : MakerChecked d.rows)
    (s : Sys (Db KycRows) Input (Did KycAct) RisError) :
    Relation.ReflTransGen
        (fun s s' => Step (kycProgram cfg env) always s s' ∧ MakerChecked s'.store.rows) (Sys.init d) s ↔
      Reaches (kycProgram cfg env) TwoUsers (Sys.init d) s := by
  refine Effects.runs_iff (P := fun s => MakerChecked s.store.rows) (kycProgram_covers cfg env)
    (fun _ _ h => h) hd ?_ s
  intro s t e d' h heff
  cases e with
  | own e => exact makerChecked_step h rfl heff
  | _ =>
    refine iff_of_true ?_ trivial
    have hrows : d'.rows = s.store.rows := heff
    rwa [State.record_store, hrows]

/-! ## Samples -/

/-- The cipher and the key of the encrypted fields. -/
def sampleEnv : Env where
  gcm := Crypto.sampleGcm
  encryptionKey := Crypto.sampleEnv
  randomBytes _ _ := Crypto.sampleIv
  sha256 _ := ""

/-- An uploaded document of supplier 1. -/
def sampleDocument (id : ℕ) (documentType : String) (reviewStatus : DocumentReviewStatus) :
    DocumentRecord where
  id := id
  supplierId := 1
  documentType := documentType
  encryptedPath := []
  fileHash := ""
  fileSizeBytes := 0
  mimeType := "application/pdf"
  uploadedBy := 10
  reviewStatus := reviewStatus

/-- A supplier with its four documents, of which three are approved. -/
def sampleRows (status : KycStatus) (reviewerId : Option ℕ) : Db KycRows where
  rows :=
    { suppliers := .single { id := 1, userId := 10, kycStatus := status, kycReviewerId := reviewerId }
      documents :=
        { rows :=
            [sampleDocument 1 "certificate_of_incorporation" .approved,
              sampleDocument 2 "tax_registration" .approved, sampleDocument 3 "id_document" .approved,
              sampleDocument 4 "supplier_agreement" .pending]
          keys_nodup := by decide }
      users := .empty }

def sampleReview (reviewerId : ℕ) : KycOp :=
  .reviewSupplierDocument 1 4 { decision := .approved, comments := "Legible" } reviewerId "credit_officer" {}

def sampleChange (status : KycStatus) (userId : ℕ) : KycOp :=
  .updateKycStatus 1 { status := status, comments := "In order" } userId {}

/-- User 20 reviewed the supplier and user 30 approves it. -/
theorem sample_makerChecked_iff :
    ∃ s, Relation.ReflTransGen
        (fun s s' => Step (kycProgram {} sampleEnv) always s s' ∧ MakerChecked s'.store.rows)
        (Sys.init (sampleRows .underReview (some 20))) s ∧
      (s.store.rows.suppliers.get? 1).map SupplierRecord.kycStatus = some .approved := by
  obtain ⟨s, hs, hP⟩ := exists_reaches (kycProgram {} sampleEnv) TwoUsers
    (Sys.init (sampleRows .underReview (some 20)))
    (Act.call (sampleChange .approved 30) 0 (List.replicate 5 ({} : Input)))
    (fun s => (s.store.rows.suppliers.get? 1).map SupplierRecord.kycStatus = some .approved)
    (by decide)
  exact ⟨s, (makerChecked_iff {} sampleEnv (by decide) s).2 hs, of_decide_eq_true hP⟩

/-- User 20 approves the last document of a supplier that nobody has reviewed: it is approved with neither
a reviewer nor an approver. On the manual path, user 20 asks to approve what user 30 has under review,
passes the check, and commits after a second review of its own. -/
theorem approved_unchecked :
    MakerChecked (sampleRows .documentsSubmitted none).rows ∧
      ∀ approver ∈ [none, some 20], ∃ s,
        Reaches (kycProgram {} sampleEnv) always (Sys.init (sampleRows .documentsSubmitted none)) s ∧
          ¬MakerChecked s.store.rows ∧
          s.store.rows.suppliers.get? 1 =
            some { id := 1, userId := 10, kycStatus := .approved, kycReviewerId := approver,
                   kycApproverId := approver } := by
  refine ⟨by decide, ?_⟩
  simp only [List.forall_mem_cons, List.not_mem_nil, false_implies, implies_true, and_true]
  constructor
  · obtain ⟨s, hs, hP⟩ := exists_reaches (kycProgram {} sampleEnv) always
      (Sys.init (sampleRows .documentsSubmitted none))
      (Act.call (sampleReview 20) 0 (List.replicate 10 ({} : Input)))
      (fun s => ¬MakerChecked s.store.rows ∧ s.store.rows.suppliers.get? 1 =
        some { id := 1, userId := 10, kycStatus := .approved })
      (by decide)
    exact ⟨s, hs, of_decide_eq_true hP⟩
  · obtain ⟨s, hs, hP⟩ := exists_reaches (kycProgram {} sampleEnv) always
      (Sys.init (sampleRows .documentsSubmitted none))
      -- calls 0 and 1 both read `documents_submitted`; call 2 is checked between their commits
      (.start (sampleChange .underReview 20) :: .move 0 {} ::
        Act.call (sampleChange .underReview 30) 1 (List.replicate 3 ({} : Input)) ++
        [.start (sampleChange .approved 20), .move 2 {}, .move 2 {}, .move 0 {}, .move 2 {}])
      (fun s => ¬MakerChecked s.store.rows ∧ s.store.rows.suppliers.get? 1 =
        some { id := 1, userId := 10, kycStatus := .approved, kycReviewerId := some 20,
               kycApproverId := some 20 })
      (by decide)
    exact ⟨s, hs, of_decide_eq_true hP⟩

end Ris.Onboarding
