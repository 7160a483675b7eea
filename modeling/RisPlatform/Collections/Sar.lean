import RisPlatform.Common.Histories
import RisPlatform.Db

/-!
# Suspicious activity reports

A report is generated as a draft for a collection and then filed with the FIA. Neither `fileSarWithFia` nor
its `UPDATE` asks whether the report has been filed; but the `UPDATE` uses its first parameter at two types
and is refused. So no filing is ever committed, and `reports_immutable` says what follows: every call of
`fileSarWithFia` fails, and no report changes once it is there.
-/

namespace Ris.Collections.Sar

open Relational Concurrent

/-! ## Rows -/

/-- `report_status`. -/
inductive ReportStatus
  | draft | filed
  deriving DecidableEq

def ReportStatus.text : ReportStatus → String
  | .draft => "draft"
  | .filed => "filed"

/-- A row of `suspicious_activity_reports`. -/
structure SarRecord where
  id : ℕ
  entityType : String
  entityId : ℕ
  collectionId : Option ℕ
  invoiceId : Option ℕ
  reason : String
  reportStatus : ReportStatus
  fiaReference : Option String := none
  filedBy : Option ℕ := none
  filedAt : Option ℤ := none

structure SarRows where
  collections : Table Collection.id
  reports : Table SarRecord.id

inductive SarAct
  | reportGenerated (sarId : ℕ)
  | reportFiled (sarId : ℕ)

abbrev SarTx : Type → Type := Db.Tx SarRows

abbrev SarCall : Type → Type := Db.Call SarRows SarAct

/-! ## Repository -/

namespace Repo

def getCollectionById (id : ℕ) (r : SarRows) : Option Collection := r.collections.get? id

def getSarById (sarId : ℕ) (r : SarRows) : Option SarRecord := r.reports.get? sarId

def createSarReportWithClient (row : SarRecord) : SarTx Unit := do
  let inserted ← Db.read fun r => r.reports.insert? row
  match inserted with
  | none => Txn.abort (.runtime "duplicate key value violates unique constraint suspicious_activity_reports_pkey")
  | some reports => Db.write fun r => { r with reports := reports }

/-- `SET report_status, fia_reference, filed_by, filed_at = CASE WHEN … = 'filed' THEN NOW() ELSE filed_at`. -/
def setStatus (status : ReportStatus) (fiaRef : Option String) (filedBy : ℕ) (now : ℤ) (r : SarRecord) :
    SarRecord :=
  { r with
    reportStatus := status
    fiaReference := fiaRef
    filedBy := some filedBy
    filedAt := if status = .filed then some now else r.filedAt }

theorem id_setStatus (status : ReportStatus) (fiaRef : Option String) (filedBy : ℕ) (now : ℤ)
    (r : SarRecord) :
    (setStatus status fiaRef filedBy now r).id = r.id := rfl

/-- What the `UPDATE` asks of its parameters: `id = $4`, `$1 = 'filed'`, and then the columns that `$1`, `$2`
and `$3` are assigned to. -/
def statusUses : List (ParamUse ColumnType) :=
  [⟨4, .uuid⟩, ⟨1, .other "TEXT"⟩, ⟨1, .varchar 30⟩, ⟨2, .varchar 100⟩, ⟨3, .uuid⟩]

/-- `WHERE id = $4`, whatever the status. -/
def updateSarStatusWithClient (sarId : ℕ) (status : ReportStatus) (fiaRef : Option String)
    (filedBy : ℕ) :
    SarTx Unit := do
  prepare statusUses
  let now ← Db.now
  Db.write fun r =>
    { r with
      reports := r.reports.update (fun x => x.id = sarId) (setStatus status fiaRef filedBy now)
        (id_setStatus status fiaRef filedBy now) }

/-- `$1` is a text in one place and a `VARCHAR` in the other. -/
theorem updateSarStatusWithClient_refused (sarId : ℕ) (status : ReportStatus) (fiaRef : Option String)
    (filedBy : ℕ) : Txn.Refused (updateSarStatusWithClient sarId status fiaRef filedBy) := by
  have htext : (⟨1, .other "TEXT"⟩ : ParamUse ColumnType) ∈ statusUses := by decide
  have hcolumn : (⟨1, .varchar 30⟩ : ParamUse ColumnType) ∈ statusUses := by decide
  obtain ⟨e, he⟩ : ∃ e, prepare statusUses = .error e :=
    Parameters.analyse_eq_error _ htext hcolumn rfl (by decide)
  exact Txn.refused_bind_left (Txn.refused_lift he)

end Repo

/-! ## Service -/

def sarAudit (userId : ℕ) (action : String) (sarId : ℕ) (oldValues newValues : List (String × Json))
    (req : Request) : AuditLog where
  userId := some userId
  action := action
  tableName := "suspicious_activity_reports"
  recordId := .id sarId
  oldValues := oldValues
  newValues := newValues
  ipAddress := req.ipAddress
  userAgent := req.userAgent

/-- The row of a new report. -/
def draftRow (sarId collectionId invoiceId : ℕ) (reason : String) : SarRecord where
  id := sarId
  entityType := "collection"
  entityId := collectionId
  collectionId := some collectionId
  invoiceId := some invoiceId
  reason := reason
  reportStatus := .draft

/-- The transaction of `generateSarReport`; the new id. -/
def executeSarGenerationTxn (collectionId invoiceId userId : ℕ) (reason : String) (req : Request) :
    SarTx ℕ := do
  let sarId ← Db.uuid
  Repo.createSarReportWithClient (draftRow sarId collectionId invoiceId reason)
  Db.createAuditEntry (sarAudit userId "SAR_REPORT_GENERATED" sarId []
    [("collectionId", .id collectionId), ("reason", .text reason), ("status", .text "draft")] req)
  return sarId

/-- Generate a report in draft status for a collection; its id. -/
def generateSarReport (collectionId userId : ℕ) (reason : String) (req : Request) : SarCall ℕ := do
  match ← Db.query (Repo.getCollectionById collectionId) with
  | none => throw (.notFound "Collection" collectionId)
  | some collection => do
    let sarId ← Db.transaction (executeSarGenerationTxn collectionId collection.invoiceId userId reason req)
      .reportGenerated
    Db.log "SAR_REPORT_GENERATED"
    return sarId

/-- The transaction of `fileSarWithFia`. -/
def executeSarFilingTxn (sarId : ℕ) (fiaReference : String) (prevStatus : ReportStatus) (userId : ℕ)
    (req : Request) : SarTx Unit := do
  Repo.updateSarStatusWithClient sarId .filed (some fiaReference) userId
  Db.createAuditEntry (sarAudit userId "SAR_FILED_WITH_FIA" sarId [("status", .text prevStatus.text)]
    [("status", .text "filed"), ("fiaReference", .text fiaReference)] req)

/-- File a report with the FIA. -/
def fileSarWithFia (sarId : ℕ) (fiaReference : String) (userId : ℕ) (req : Request) : SarCall Unit := do
  match ← Db.query (Repo.getSarById sarId) with
  | none => throw (.notFound "SuspiciousActivityReport" sarId)
  | some sar => do
    Db.transaction (executeSarFilingTxn sarId fiaReference sar.reportStatus userId req)
      fun _ => .reportFiled sarId
    Db.log "SAR_FILED_WITH_FIA"

/-! ## The system -/

inductive SarOp
  | generateSarReport (collectionId userId : ℕ) (reason : String) (req : Request)
  | fileSarWithFia (sarId : ℕ) (fiaReference : String) (userId : ℕ) (req : Request)

/-- The body of an operation. -/
def sarProgram : SarOp → SarCall Unit
  | .generateSarReport collectionId userId reason req =>
    (generateSarReport collectionId userId reason req).discard
  | .fileSarWithFia sarId fiaReference userId req => fileSarWithFia sarId fiaReference userId req

/-! ## Effects -/

/-- What an act does to the rows and the audit rows; there is no filing. -/
inductive SarEffect : Db.LoggedActs SarRows SarAct
  | generated (l : Db.Deeds SarAct) (rows : SarRows) (logs : List AuditLog) (row : SarRecord)
      (reports : Table SarRecord.id) (entry : AuditLog) (hinsert : rows.reports.insert? row = some reports)
      (hentry : entry.action = "SAR_REPORT_GENERATED") :
      SarEffect l (rows, logs) (.reportGenerated row.id) ({ rows with reports := reports }, logs ++ [entry])

section Calls

variable {l : Db.Deeds SarAct}

theorem does_generateSarReport (collectionId userId : ℕ) (reason : String) (req : Request) :
    (generateSarReport collectionId userId reason req).Does (Db.loggedEffects SarEffect)
      (fun _ _ => True) l := by
  refine (Db.logged_query _).bind fun found l₁ _ _ => ?_
  cases found with
  | none => exact Proc.does_throw _
  | some collection =>
    refine Proc.Does.bind (R := fun _ _ => True) ?_ fun _ _ _ _ =>
      (Db.logged_log _).bind fun _ _ _ _ => Proc.does_pure trivial
    refine Db.logged_commit fun i d sarId d' h => ⟨?_, trivial⟩
    simp only [executeSarGenerationTxn, Repo.createSarReportWithClient, Txn.bind_ok, Db.uuid_ok,
      Db.read_ok, Txn.pure_ok, Db.createAuditEntry_ok] at h
    obtain ⟨id, _, ⟨-, rfl⟩, _, _, ⟨inserted, _, ⟨hinsert, rfl⟩, h⟩, _, _, rfl, rfl, rfl⟩ := h
    cases inserted with
    | none => cases h
    | some reports =>
      obtain rfl := Db.write_ok.1 h
      exact .generated _ _ _ _ _ _ hinsert rfl

/-- No filing returns. -/
theorem does_fileSarWithFia (sarId : ℕ) (fiaReference : String) (userId : ℕ) (req : Request) :
    (fileSarWithFia sarId fiaReference userId req).Does (Db.loggedEffects SarEffect)
      (fun _ _ => False) l := by
  refine (Db.logged_query _).bind fun found l₁ _ _ => ?_
  cases found with
  | none => exact Proc.does_throw _
  | some sar =>
    refine Proc.Does.bind (R := fun _ _ => False) ?_ fun _ _ _ hfalse => hfalse.elim
    have hrefused : Txn.Refused (executeSarFilingTxn sarId fiaReference sar.reportStatus userId req) :=
      Txn.refused_bind_left (Repo.updateSarStatusWithClient_refused _ _ _ _)
    exact Db.logged_commit fun i d _ d' h => (hrefused i d _ d' h).elim

end Calls

/-- The operations do what the effects say. -/
theorem sarProgram_covers : (Db.loggedEffects SarEffect).Covers sarProgram := by
  intro op
  cases op with
  | generateSarReport collectionId userId reason req =>
    exact (does_generateSarReport collectionId userId reason req).discard
  | fileSarWithFia sarId fiaReference userId req =>
    exact (does_fileSarWithFia sarId fiaReference userId req).mono fun _ _ _ _ => trivial

/-! ## The law -/

/-- The row of a filing of the report in the audit trail. -/
def Records (sarId : ℕ) (entry : AuditLog) : Prop :=
  entry.action = "SAR_FILED_WITH_FIA" ∧ entry.recordId = .id sarId

instance (sarId : ℕ) (entry : AuditLog) : Decidable (Records sarId entry) := by
  unfold Records
  infer_instance

/-- The rows of the audit trail for filings of the report. -/
def filings (sarId : ℕ) (logs : List AuditLog) : List AuditLog := logs.filter fun entry => Records sarId entry

/-- The reports of the store `d` are as they were, and the audit trail has no other filings. -/
structure Kept (d : Db SarRows) (s : Db.Past SarRows SarAct) : Prop where
  report : ∀ sarId, ∀ r ∈ d.rows.reports.get? sarId, s.store.rows.reports.get? sarId = some r
  filings : ∀ sarId, filings sarId s.store.auditLogs = filings sarId d.auditLogs

section Step

variable {d w : Db SarRows} {s : Db.Past SarRows SarAct} {t : ℕ} {e : Did SarAct}

theorem kept_of_logged (h : Kept d s) (hsame : w.logged = s.store.logged) {x : Option (Did SarAct)} :
    Kept d (s.record t x w) := by
  obtain ⟨hrows, hlogs⟩ := Prod.mk.inj hsame
  refine ⟨fun sarId r hr => ?_, fun sarId => ?_⟩
  · show w.rows.reports.get? sarId = some r
    rw [hrows]
    exact h.report sarId r hr
  · show Sar.filings sarId w.auditLogs = _
    rw [hlogs]
    exact h.filings sarId

/-- The step lemma. -/
theorem Kept.step (h : Kept d s) {l : Db.Deeds SarAct} (he : Db.loggedEffects SarEffect l s.store e w) :
    Kept d (s.record t (some e) w) := by
  cases e with
  | own act =>
    have heff : SarEffect l s.store.logged act w.logged := he
    generalize hbefore : s.store.logged = before at heff
    generalize hafter : w.logged = after at heff
    cases heff with
    | generated _ rows logs row reports entry hinsert hentry =>
      obtain ⟨rfl, rfl⟩ := Prod.mk.inj hbefore
      obtain ⟨hrows, hlogs⟩ := Prod.mk.inj hafter
      refine ⟨fun sarId r hr => ?_, fun sarId => ?_⟩
      · show w.rows.reports.get? sarId = some r
        rw [hrows]
        exact Table.get?_insert?_of_get? hinsert (h.report sarId r hr)
      · have hnot : ¬Records sarId entry := by
          rintro ⟨haction, -⟩
          rw [hentry] at haction
          exact absurd haction (by decide)
        show Sar.filings sarId w.auditLogs = _
        rw [hlogs, ← h.filings sarId]
        simp [Sar.filings, hnot]
  | audited entry => exact absurd he.1 not_false
  | enqueued job => exact kept_of_logged h he.2
  | read | threw | logged action => exact kept_of_logged h he

end Step

/-- **A report is immutable.** From any state of any run on each report keeps its row, with the reference,
the officer, the time and the status that it has, and the audit trail gets no row of a filing; for every
call of `fileSarWithFia`, whatever runs beside it, fails and writes nothing. -/
theorem reports_immutable (d : Db SarRows) {s s' : Db.System SarRows SarAct}
    (hs : Reaches sarProgram always (Sys.init d) s) (hs' : Reaches sarProgram always s s') :
    (∀ sarId, ∀ r ∈ s.store.rows.reports.get? sarId, s'.store.rows.reports.get? sarId = some r) ∧
      (∀ sarId, filings sarId s'.store.auditLogs = filings sarId s.store.auditLogs) ∧
        ∀ sarId fiaReference userId req, (fileSarWithFia sarId fiaReference userId req).Does
          (Db.loggedEffects SarEffect) (fun _ _ => False) [] := by
  have hkept : Kept s.store s'.toState :=
    Effects.persists (P := Kept s.store) sarProgram_covers (fun _ _ h => kept_of_logged h rfl)
      (fun _ _ _ _ h he _ => h.step he) hs ⟨fun _ _ hr => hr, fun _ => rfl⟩ hs'
  exact ⟨hkept.report, hkept.filings, fun sarId fiaReference userId req =>
    does_fileSarWithFia sarId fiaReference userId req⟩

/-! ## Two filings -/

/-- A draft for a collection. -/
def sampleReport : Db SarRows where
  rows := { collections := .empty, reports := .single (draftRow 1 2 3 "Structuring") }

/-- Two officers file the report; both are refused, and it stays a draft. -/
theorem filings_refused :
    ∃ s : Db.System SarRows SarAct, endsWithError 0 s = true ∧ endsWithError 1 s = true ∧
      s.store.rows.reports.get? 1 = some (draftRow 1 2 3 "Structuring") ∧
        filings 1 s.store.auditLogs = [] := by
  obtain ⟨s, hs, hP⟩ := exists_reaches sarProgram always (Sys.init sampleReport)
    [.start (.fileSarWithFia 1 "FIA-2026-001" 20 {}), .start (.fileSarWithFia 1 "FIA-2026-002" 30 {}),
      .move 0 {}, .move 1 {}, .move 0 { now := 1000 }, .move 1 { now := 86401000 }]
    (fun s => endsWithError 0 s = true ∧ endsWithError 1 s = true) (by decide)
  obtain ⟨hfirst, hsecond⟩ := of_decide_eq_true hP
  obtain ⟨hreport, hfilings, -⟩ := reports_immutable sampleReport .refl hs
  exact ⟨s, hfirst, hsecond, hreport 1 _ rfl, hfilings 1⟩

end Ris.Collections.Sar
