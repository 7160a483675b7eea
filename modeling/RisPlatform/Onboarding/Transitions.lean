import RisPlatform.Onboarding.MakerChecker

/-!
# How the status of a supplier changes

Every change of `kyc_status` is decided from a status that its call has read. From there it follows the
table of `validateKycTransition`, or it is the automatic approval, which the service allows from every
status but the last two. The `UPDATE`s do not ask for the status again, so a change follows an edge from
the status it finds in the runs in which that is the status it was decided from.
-/

namespace Ris.Onboarding

open Relational Concurrent

/-! ## Decisions -/

/-- The supplier whose status the act changes, the status it was decided from and the new one. -/
def KycAct.change? : KycAct → Option (ℕ × KycStatus × KycStatus)
  | .statusChanged supplierId previous status _ => some (supplierId, previous, status)
  | .autoAdvanced supplierId => some (supplierId, .pending, .documentsSubmitted)
  | .autoApproved supplierId previous _ => some (supplierId, previous, .approved)
  | _ => none

def KycAct.autoApproves : KycAct → Bool
  | .autoApproved _ _ _ => true
  | _ => false

/-- An edge of the table, or the automatic approval of a supplier that is not decided yet. -/
def Edge (e : KycAct) (previous status : KycStatus) : Prop :=
  status ∈ allowedTransitions previous ∨
    e.autoApproves = true ∧ status = .approved ∧ previous ≠ .approved ∧ previous ≠ .rejected

/-- The call has done `l` and changes the status of the supplier: from a status it has read, along an
edge. -/
def Decides (l : List (Option (Did KycAct))) (e : KycAct) (supplierId : ℕ) (status : KycStatus) : Prop :=
  ∃ previous, e.change? = some (supplierId, previous, status) ∧ HasRead l supplierId previous ∧
    Edge e previous status

/-- A change of a status finds the status it was decided from. -/
def UpToDate : Cond (Db KycRows) (Did KycAct) := fun s _ e =>
  match e with
  | .own e => ∀ change ∈ e.change?, ∀ x ∈ s.store.rows.suppliers.get? change.1, x.kycStatus = change.2.1
  | _ => True

instance (s : State (Db KycRows) (Did KycAct)) (t : ℕ) : ∀ e : Did KycAct, Decidable (UpToDate s t e)
  | .own e => inferInstanceAs (Decidable
      (∀ change ∈ e.change?, ∀ x ∈ s.store.rows.suppliers.get? change.1, x.kycStatus = change.2.1))
  | .read | .threw | .logged _ | .enqueued _ | .audited _ => instDecidableTrue

/-- No edge leads away from the two last statuses. -/
theorem Edge.open {e : KycAct} {previous status : KycStatus} (h : Edge e previous status) :
    previous ≠ .approved ∧ previous ≠ .rejected := by
  rcases h with hedge | ⟨-, -, hopen⟩
  · cases previous with
    | approved => cases hedge
    | rejected => cases hedge
    | _ => exact ⟨fun h => (by cases h), fun h => by cases h⟩
  · exact hopen

/-! ## One statement -/

section Step

variable {l : List (Option (Did KycAct))} {r r' : KycRows} {e : KycAct} {k : ℕ} {x x' : SupplierRecord}

theorem get?_assign {supplierId : ℕ} {f : SupplierRecord → SupplierRecord} {hf : ∀ s, (f s).id = s.id}
    (hx : r.suppliers.get? k = some x) :
    (r.assign supplierId f hf).suppliers.get? k = some (if k = supplierId then f x else x) := by
  have hkey : x.id = k := Table.key_of_get? hx
  rw [KycRows.assign, Table.get?_update, hx, Option.map_some, hkey]
  by_cases hk : k = supplierId <;> simp [hk]

/-- A row whose status an assignment changes is the one it assigns to. -/
theorem status_of_assign {supplierId : ℕ} {f : SupplierRecord → SupplierRecord}
    {hf : ∀ s, (f s).id = s.id} {status : KycStatus} (hx : r.suppliers.get? k = some x)
    (hx' : (r.assign supplierId f hf).suppliers.get? k = some x') (hne : x.kycStatus ≠ x'.kycStatus)
    (hstatus : ∀ s, (f s).kycStatus = status) : supplierId = k ∧ status = x'.kycStatus := by
  rw [get?_assign hx, Option.some.injEq] at hx'
  split at hx'
  · subst hx'
    exact ⟨Eq.symm ‹_›, (hstatus x).symm⟩
  · exact absurd (congrArg SupplierRecord.kycStatus hx') hne

/-- A change of a status is decided. -/
theorem decides_of_effect (he : KycEffect env l r e r') (hx : r.suppliers.get? k = some x)
    (hx' : r'.suppliers.get? k = some x') (hne : x.kycStatus ≠ x'.kycStatus) :
    Decides l e k x'.kycStatus := by
  have hsame : r'.suppliers ≠ r.suppliers := by
    rintro hsame
    rw [hsame, hx, Option.some.injEq] at hx'
    exact hne (congrArg SupplierRecord.kycStatus hx')
  cases he with
  | supplierRead found hfound => exact absurd rfl hsame
  | fileWritten documentId file r' hsuppliers hdocuments hfiles => exact absurd hsuppliers hsame
  | documentCreated documentId supplierId file r' hsuppliers hfiles hread hwritten hinsert =>
    exact absurd hsuppliers hsame
  | documentReviewed documentId decision r' hsuppliers hfiles hkept => exact absurd hsuppliers hsame
  | statusChanged supplierId previous status userId hread hedge =>
    obtain ⟨rfl, rfl⟩ := status_of_assign hx hx' hne fun _ => rfl
    exact ⟨previous, rfl, hread, Or.inl hedge⟩
  | autoAdvanced supplierId hread =>
    obtain ⟨rfl, hstatus⟩ := status_of_assign hx hx' hne fun _ => rfl
    refine ⟨.pending, hstatus ▸ rfl, hread, Or.inl ?_⟩
    rw [← hstatus]
    exact List.mem_singleton.2 rfl
  | autoApproved supplierId previous reviewerId hread hopen =>
    obtain ⟨rfl, hstatus⟩ := status_of_assign hx hx' hne fun _ => rfl
    exact ⟨previous, hstatus ▸ rfl, hread, Or.inr ⟨rfl, hstatus.symm, hopen⟩⟩

/-- No supplier goes away. -/
theorem exists_of_effect (he : KycEffect env l r e r') (hx : r.suppliers.get? k = some x) :
    ∃ x', r'.suppliers.get? k = some x' := by
  cases he with
  | supplierRead found hfound => exact ⟨x, hx⟩
  | fileWritten documentId file r' hsuppliers hdocuments hfiles => exact ⟨x, hsuppliers ▸ hx⟩
  | documentCreated documentId supplierId file r' hsuppliers hfiles hread hwritten hinsert =>
    exact ⟨x, hsuppliers ▸ hx⟩
  | documentReviewed documentId decision r' hsuppliers hfiles hkept => exact ⟨x, hsuppliers ▸ hx⟩
  | statusChanged supplierId previous status userId hread hedge => exact ⟨_, get?_assign hx⟩
  | autoAdvanced supplierId hread => exact ⟨_, get?_assign hx⟩
  | autoApproved supplierId previous reviewerId hread hopen => exact ⟨_, get?_assign hx⟩

/-- A decision that finds the status it was made from follows an edge from the status it finds. -/
theorem edge_of_upToDate {s : State (Db KycRows) (Did KycAct)} {t : ℕ} {status : KycStatus}
    (h : Decides l e k status) (hC : UpToDate s t (.own e))
    (hx : s.store.rows.suppliers.get? k = some x) : Edge e x.kycStatus status := by
  obtain ⟨previous, hchange, -, hedge⟩ := h
  rwa [hC _ hchange x hx]

end Step

/-! ## Runs -/

section Runs

variable {cfg : Config} {env : Env} {C : Cond (Db KycRows) (Did KycAct)} {d : Db KycRows}
  {s s' : Sys (Db KycRows) Input (Did KycAct) RisError} {k : ℕ} {x x' : SupplierRecord}

/-- A step of a run that changes the status of a supplier is a decision. -/
theorem decides_of_step (hs : Reaches (kycProgram cfg env) C (Sys.init d) s)
    (hstep : Step (kycProgram cfg env) C s s') (hx : s.store.rows.suppliers.get? k = some x)
    (hx' : s'.store.rows.suppliers.get? k = some x') (hne : x.kycStatus ≠ x'.kycStatus) :
    ∃ t e, s'.hist = (t, some (.own e)) :: s.hist ∧ C s.toState t (.own e) ∧
      Decides (own t s.hist) e k x'.kycStatus := by
  have hmoved : s'.store.rows ≠ s.store.rows := by
    intro hsame
    rw [hsame, hx, Option.some.injEq] at hx'
    exact hne (congrArg SupplierRecord.kycStatus hx')
  rcases Effects.step_cases (kycProgram_covers cfg env) hs hstep with hsame | ⟨t, e, hhist, hC, heff⟩
  · exact absurd (congrArg Db.rows hsame) hmoved
  · cases e with
    | own e => exact ⟨t, e, hhist, hC, decides_of_effect heff hx hx' hne⟩
    | _ => exact absurd heff hmoved

/-- While every change finds the status it was decided from, the two last statuses stay. -/
theorem closed_persists (hs : Reaches (kycProgram cfg env) UpToDate (Sys.init d) s)
    (hs' : Reaches (kycProgram cfg env) UpToDate s s') (hx : s.store.rows.suppliers.get? k = some x)
    (hclosed : x.kycStatus = .approved ∨ x.kycStatus = .rejected) :
    ∃ x', s'.store.rows.suppliers.get? k = some x' ∧ x'.kycStatus = x.kycStatus := by
  refine Effects.persists (kycProgram_covers cfg env)
    (P := fun s => ∃ x', s.store.rows.suppliers.get? k = some x' ∧ x'.kycStatus = x.kycStatus)
    (fun _ _ h => h) ?_ hs ⟨x, hx, rfl⟩ hs'
  rintro s t e d' ⟨y, hy, hstatus⟩ heff hC
  cases e with
  | own e =>
    obtain ⟨y', hy'⟩ := exists_of_effect heff hy
    refine ⟨y', hy', ?_⟩
    by_contra hne
    have hdecides := decides_of_effect heff hy hy' fun h => hne (h.symm.trans hstatus)
    have hopen := (edge_of_upToDate hdecides hC hy).open
    rw [hstatus] at hopen
    rcases hclosed with h | h
    · exact hopen.1 h
    · exact hopen.2 h
  | _ =>
    have hrows : d'.rows = s.store.rows := heff
    exact ⟨y, by rw [State.record_store, hrows, hy], hstatus⟩

end Runs

/-- Every change of a status is decided from a status that the call has read, along an edge of the table
or by the automatic approval. In a run whose changes find the status they were decided from, each goes
along such an edge from the status before it, and approved and rejected suppliers stay so. -/
theorem transitions (cfg : Config) (env : Env) (d : Db KycRows) :
    (∀ s s', Reaches (kycProgram cfg env) always (Sys.init d) s → Step (kycProgram cfg env) always s s' →
      ∀ k x x', s.store.rows.suppliers.get? k = some x → s'.store.rows.suppliers.get? k = some x' →
        x.kycStatus ≠ x'.kycStatus →
        ∃ t e, s'.hist = (t, some (.own e)) :: s.hist ∧ Decides (own t s.hist) e k x'.kycStatus) ∧
    (∀ s s', Reaches (kycProgram cfg env) UpToDate (Sys.init d) s →
      Step (kycProgram cfg env) UpToDate s s' →
      ∀ k x x', s.store.rows.suppliers.get? k = some x → s'.store.rows.suppliers.get? k = some x' →
        x.kycStatus ≠ x'.kycStatus →
        ∃ t e, s'.hist = (t, some (.own e)) :: s.hist ∧ Edge e x.kycStatus x'.kycStatus) ∧
    ∀ s s', Reaches (kycProgram cfg env) UpToDate (Sys.init d) s →
      Reaches (kycProgram cfg env) UpToDate s s' →
      ∀ k x, s.store.rows.suppliers.get? k = some x → x.kycStatus = .approved ∨ x.kycStatus = .rejected →
        ∃ x', s'.store.rows.suppliers.get? k = some x' ∧ x'.kycStatus = x.kycStatus := by
  refine ⟨fun s s' hs hstep k x x' hx hx' hne => ?_, fun s s' hs hstep k x x' hx hx' hne => ?_,
    fun s s' hs hs' k x hx hclosed => closed_persists hs hs' hx hclosed⟩
  · obtain ⟨t, e, hhist, -, hdecides⟩ := decides_of_step hs hstep hx hx' hne
    exact ⟨t, e, hhist, hdecides⟩
  · obtain ⟨t, e, hhist, hC, hdecides⟩ := decides_of_step hs hstep hx hx' hne
    exact ⟨t, e, hhist, edge_of_upToDate hdecides hC hx⟩

/-- User 30 approves what user 20 has reviewed, and user 20 asks to take it back. -/
theorem sample_transitions :
    ∃ s s', Reaches (kycProgram {} sampleEnv) UpToDate (Sys.init (sampleRows .underReview (some 20))) s ∧
      Reaches (kycProgram {} sampleEnv) UpToDate s s' ∧ s'.hist.length = 7 ∧
      ∃ x', s'.store.rows.suppliers.get? 1 = some x' ∧ x'.kycStatus = .approved := by
  obtain ⟨s, s', hs, hs', hP⟩ := exists_reaches_reaches (kycProgram {} sampleEnv) UpToDate
    (Sys.init (sampleRows .underReview (some 20)))
    (Act.call (sampleChange .approved 30) 0 (List.replicate 5 ({} : Input)))
    (.start (sampleChange .underReview 20) :: [.move 1 {}])
    (fun s s' => s'.hist.length = 7 ∧ s.store.rows.suppliers.get? 1 =
      some { id := 1, userId := 10, kycStatus := .approved, kycReviewerId := some 20,
             kycApproverId := some 30 })
    (by decide)
  obtain ⟨hlength, hx⟩ := of_decide_eq_true hP
  exact ⟨s, s', hs, hs', hlength, (transitions {} sampleEnv _).2.2 s s' hs hs' 1 _ hx (Or.inl rfl)⟩

/-- The review of the last document takes a supplier from `documents_submitted` to `approved`, which is no
edge of the table. And where a rejection commits between what a review read and its automatic approval,
the approval takes the supplier from `rejected` to `approved`. -/
theorem review_skipped :
    .approved ∉ allowedTransitions .documentsSubmitted ∧ .approved ∉ allowedTransitions .rejected ∧
      ∀ previous ∈ [.documentsSubmitted, .rejected], ∃ d s s',
        Reaches (kycProgram {} sampleEnv) always (Sys.init d) s ∧
          Step (kycProgram {} sampleEnv) always s s' ∧
          (s.store.rows.suppliers.get? 1).map SupplierRecord.kycStatus = some previous ∧
          (s'.store.rows.suppliers.get? 1).map SupplierRecord.kycStatus = some .approved := by
  refine ⟨by decide, by decide, ?_⟩
  simp only [List.forall_mem_cons, List.not_mem_nil, false_implies, implies_true, and_true]
  constructor
  · obtain ⟨s, s', hs, hs', hP⟩ := exists_step (kycProgram {} sampleEnv) always
      (Sys.init (sampleRows .documentsSubmitted none))
      (.start (sampleReview 20) :: List.replicate 6 (.move 0 {})) (.move 0 {})
      (fun s s' =>
        (s.store.rows.suppliers.get? 1).map SupplierRecord.kycStatus = some .documentsSubmitted ∧
          (s'.store.rows.suppliers.get? 1).map SupplierRecord.kycStatus = some .approved)
      (by decide)
    exact ⟨_, s, s', hs, hs', of_decide_eq_true hP⟩
  · obtain ⟨s, s', hs, hs', hP⟩ := exists_step (kycProgram {} sampleEnv) always
      (Sys.init (sampleRows .underReview (some 30)))
      (.start (sampleReview 20) :: List.replicate 6 (.move 0 {}) ++
        Act.call (sampleChange .rejected 30) 1 (List.replicate 4 ({} : Input))) (.move 0 {})
      (fun s s' => (s.store.rows.suppliers.get? 1).map SupplierRecord.kycStatus = some .rejected ∧
        (s'.store.rows.suppliers.get? 1).map SupplierRecord.kycStatus = some .approved)
      (by decide)
    exact ⟨_, s, s', hs, hs', of_decide_eq_true hP⟩

end Ris.Onboarding
