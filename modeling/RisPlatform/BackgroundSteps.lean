import RisPlatform.Alone
import RisPlatform.Collections.Job
import RisPlatform.Common.Columns
import RisPlatform.Facilities.Conformance
import RisPlatform.Settlements.Protocol

/-!
# Background steps under the schema

Four steps follow a funding: the monitoring of the collection starts, a worker repays the drawdown, a worker
initiates the settlement, and a drawdown is created. The migrations leave columns that refuse an `INSERT` of
each: `audit_logs.user_id` is a `UUID` and is given `'SYSTEM'`, `audit_logs` has no `entity_type`, and
`facility_drawdowns.expected_repayment_date` needs a value that the `INSERT` leaves out.

So the transaction of each step is refused whatever the store has (`Txn.Refused`), a step that has something to
do ends with an error, and no number of retries changes the store (`steps_stuck`).
-/

namespace Ris.Background

open Relational Concurrent

/-! ## What the migrations leave -/

/-- `audit_logs` of `001_initial_schema.sql`. -/
def auditLogs : List Column :=
  [{ name := "id", type := .uuid, notNull := true, hasDefault := true },
    { name := "user_id", type := .uuid },
    { name := "action", type := .varchar 255, notNull := true },
    { name := "table_name", type := .varchar 100 },
    { name := "record_id", type := .varchar 255 },
    { name := "old_values", type := .other "JSONB" },
    { name := "new_values", type := .other "JSONB" },
    { name := "ip_address", type := .varchar 45 },
    { name := "user_agent", type := .other "TEXT" },
    { name := "created_at", type := .other "TIMESTAMPTZ", notNull := true, hasDefault := true }]

/-- The migrations that are about the columns of `audit_logs`: no later one changes them. -/
def auditLogsMigrations : List Columns.Change := [.createTable auditLogs]

/-- `facility_drawdowns` of `001_initial_schema.sql`. -/
def initialDrawdowns : List Column :=
  [{ name := "id", type := .uuid, notNull := true, hasDefault := true },
    { name := "facility_id", type := .uuid, notNull := true },
    { name := "invoice_id", type := .uuid, notNull := true },
    { name := "principal", type := .other "BIGINT", notNull := true },
    { name := "accrued_interest", type := .other "BIGINT", notNull := true, hasDefault := true },
    { name := "daily_interest_amount", type := .other "BIGINT", notNull := true, hasDefault := true },
    { name := "drawdown_date", type := .other "DATE", notNull := true, hasDefault := true },
    { name := "expected_repayment_date", type := .other "DATE", notNull := true },
    { name := "actual_repayment_date", type := .other "DATE" },
    { name := "repaid_amount", type := .other "BIGINT" },
    { name := "is_repaid", type := .other "BOOLEAN", notNull := true, hasDefault := true },
    { name := "created_at", type := .other "TIMESTAMPTZ", notNull := true, hasDefault := true },
    { name := "updated_at", type := .other "TIMESTAMPTZ", notNull := true, hasDefault := true }]

/-- The columns that 006 adds, and 007 once more. -/
def addedColumns : List Column :=
  [{ name := "bank_fees", type := .other "BIGINT", notNull := true, hasDefault := true },
    { name := "status", type := .varchar 20, notNull := true, hasDefault := true },
    { name := "last_accrued_date", type := .other "DATE", notNull := true, hasDefault := true }]

/-- The table that `006_create_facilities_tables.sql` would create. -/
def intendedDrawdowns : List Column :=
  [{ name := "id", type := .uuid, notNull := true, hasDefault := true },
    { name := "facility_id", type := .uuid, notNull := true },
    { name := "invoice_id", type := .uuid, notNull := true },
    { name := "principal", type := .other "BIGINT", notNull := true },
    { name := "accrued_interest", type := .other "BIGINT", notNull := true, hasDefault := true },
    { name := "bank_fees", type := .other "BIGINT", notNull := true, hasDefault := true },
    { name := "status", type := .varchar 20, notNull := true, hasDefault := true },
    { name := "last_accrued_date", type := .other "DATE", notNull := true, hasDefault := true },
    { name := "created_at", type := .other "TIMESTAMPTZ", notNull := true, hasDefault := true },
    { name := "updated_at", type := .other "TIMESTAMPTZ", notNull := true, hasDefault := true }]

/-- The migrations 001, 006 and 007, as far as they are about the columns of `facility_drawdowns`. -/
def drawdownMigrations : List Columns.Change :=
  .createTable initialDrawdowns ::
    (addedColumns.map .addColumnIfNotExists ++ .createTableIfNotExists intendedDrawdowns ::
      addedColumns.map .addColumnIfNotExists)

def facilityDrawdowns : List Column := initialDrawdowns ++ addedColumns

theorem create_auditLogs : Columns.create? auditLogsMigrations = some auditLogs := rfl

theorem create_facilityDrawdowns : Columns.create? drawdownMigrations = some facilityDrawdowns := by
  decide

/-! ## What the code inserts -/

/-- The columns of the `INSERT INTO audit_logs` of the collections and of the facilities service. -/
def auditNames : List String :=
  ["user_id", "action", "table_name", "record_id", "old_values", "new_values", "ip_address", "user_agent"]

/-- The columns of the one of the settlements service. -/
def settlementAuditNames : List String :=
  ["user_id", "action", "entity_type", "entity_id", "old_values", "new_values", "ip_address", "user_agent",
    "created_at"]

/-- The columns of the `INSERT INTO facility_drawdowns`. -/
def drawdownNames : List String :=
  ["id", "facility_id", "invoice_id", "principal", "bank_fees", "status", "last_accrued_date"]

def userIdColumn : Column := { name := "user_id", type := .uuid }

def expectedRepaymentDate : Column :=
  { name := "expected_repayment_date", type := .other "DATE", notNull := true }

theorem not_readsUuid_system : userIdColumn.type.reads "SYSTEM" = false := by decide

/-- Migration 001 makes the column, and no later one drops it. -/
theorem expectedRepaymentDate_mem : expectedRepaymentDate ∈ facilityDrawdowns := by
  have hmade : expectedRepaymentDate ∈ initialDrawdowns := by decide
  exact Columns.mem_of_created hmade create_facilityDrawdowns

/-- No migration makes a column `entity_type`. -/
theorem entityType_not_mem : "entity_type" ∉ auditLogs.map Column.name := by
  intro hmem
  obtain ⟨change, hchange, c, hc, hname⟩ := Columns.exists_of_name_mem create_auditLogs hmem
  obtain rfl := List.mem_singleton.1 hchange
  have hnone : ∀ c ∈ auditLogs, c.name ≠ "entity_type" := by decide
  exact hnone c hc hname

/-- The configuration with the columns that the migrations leave. -/
def migrated (cfg : Config) : Config :=
  { cfg with
    systemUserRefused := ∃ c ∈ auditLogs, c.name = "user_id" ∧ c.type.reads "SYSTEM" = false
    entityColumnsRefused := ∃ name ∈ settlementAuditNames, name ∉ auditLogs.map Column.name
    expectedRepaymentDateRequired := ∃ c ∈ facilityDrawdowns, c.Required ∧ c.name ∉ drawdownNames }

variable {cfg : Config}

@[simp] theorem systemUserRefused_migrated : (migrated cfg).systemUserRefused = true := by
  have hcolumn : userIdColumn ∈ auditLogs := by decide
  have hrefused : ∃ c ∈ auditLogs, c.name = "user_id" ∧ c.type.reads "SYSTEM" = false :=
    ⟨userIdColumn, hcolumn, rfl, not_readsUuid_system⟩
  exact decide_eq_true hrefused

@[simp] theorem entityColumnsRefused_migrated : (migrated cfg).entityColumnsRefused = true := by
  have hnamed : "entity_type" ∈ settlementAuditNames := by decide
  have hrefused : ∃ name ∈ settlementAuditNames, name ∉ auditLogs.map Column.name :=
    ⟨"entity_type", hnamed, entityType_not_mem⟩
  exact decide_eq_true hrefused

@[simp] theorem expectedRepaymentDateRequired_migrated :
    (migrated cfg).expectedRepaymentDateRequired = true := by
  have hreq : expectedRepaymentDate.Required := by decide
  have hleft : expectedRepaymentDate.name ∉ drawdownNames := by decide
  have hrefused : ∃ c ∈ facilityDrawdowns, c.Required ∧ c.name ∉ drawdownNames :=
    ⟨expectedRepaymentDate, expectedRepaymentDate_mem, hreq, hleft⟩
  exact decide_eq_true hrefused

/-! ## Refused transactions -/

section Refused

variable {α β : Type} {body : Tx α} {committed : α → Event} {g : α → Call β} {w : World}

/-- A refused transaction ends the call and leaves the store. -/
theorem ends_transaction_refused (h : Txn.Refused body) :
    (transaction body committed >>= g).Ends Healthy (fun _ _ => False) (fun _ w' => w' = w) w := by
  refine Proc.Ends.bind (R := fun _ _ => False) ?_ fun _ _ hfalse => hfalse.elim
  refine Proc.ends_transaction (fun i a w' _ hok => ?_) fun _ _ _ _ => rfl
  simp only [Txn.bind_ok, connect_ok] at hok
  obtain ⟨_, _, ⟨-, rfl⟩, hbody⟩ := hok
  exact h i w a w' hbody

/-- So does one that may leave jobs behind: none has been enqueued. -/
theorem ends_enqueuingTransaction_refused (h : Txn.Refused body) :
    (enqueuingTransaction body committed >>= g).Ends Healthy (fun _ _ => False) (fun _ w' => w' = w)
      w := by
  refine ends_enqueuingTransaction_bind (fun _ hi => hi) fun i _ => ?_
  cases hbody : body i w with
  | ok r => exact (h i w r.1 r.2 hbody).elim
  | error e => exact ⟨e, rfl, rfl⟩

variable {G : Protocol World Event}

theorem free_enqueuingTransaction_refused (hG : Quiet G) (h : Txn.Refused body) :
    Free G (enqueuingTransaction body committed) := by
  refine free_bind (free_statement hG fun s t i outcome d _ hok => ?_) fun outcome => free_lift outcome
  simp only [Txn.bind_ok, connect_ok] at hok
  obtain ⟨_, _, ⟨-, rfl⟩, hkept⟩ := hok
  cases hbody : body i s.store with
  | ok r => exact (h i _ r.1 r.2 hbody).elim
  | error e => simp [keepJobs, hbody] at hkept

end Refused

/-! ### The bodies of the steps -/

/-- Its audit row is one of `'SYSTEM'`. -/
theorem executeCollectionStartedTxn_refused (invoice : Invoice) (dailyRate : ℚ) (paymentId : ℕ) :
    Txn.Refused (Collections.executeCollectionStartedTxn (migrated cfg) invoice dailyRate paymentId) := by
  have huser : Collections.auditUserId (migrated cfg) (some .system) = some <$> Actor.system.uuid := by
    simp only [Collections.auditUserId, systemUserRefused_migrated, if_true]
  exact Txn.refused_bind_right fun _ => Txn.refused_bind_right fun _ => Txn.refused_bind_right fun _ =>
    Txn.refused_bind_left (Txn.refused_bind_left (Txn.refused_lift huser))

theorem recordRepaymentTxn_refused (facility : BankFacility) (drawdown : FacilityDrawdown)
    (facilityId drawdownId : ℕ) :
    Txn.Refused (Facilities.recordRepaymentTxn facility drawdown facilityId drawdownId .system) := by
  have huser : Facilities.auditUserId (some .system) = some <$> Actor.system.uuid := rfl
  exact Txn.refused_bind_right fun _ => Txn.refused_bind_right fun _ => Txn.refused_bind_right fun _ =>
    Txn.refused_bind_right fun _ => Txn.refused_bind_left (Txn.refused_bind_left (Txn.refused_lift huser))

theorem processRepaymentTxn_refused (facilityId drawdownId : ℕ) :
    Txn.Refused (Facilities.processRepaymentTxn facilityId drawdownId .system) :=
  Txn.refused_bind_right fun _ => Txn.refused_bind_right fun _ => recordRepaymentTxn_refused _ _ _ _

theorem executeInitiateTxn_refused (p : Settlements.InitiateParams)
    (drawdown : Option FacilityDrawdown) :
    Txn.Refused (Settlements.executeInitiateTxn (migrated cfg) p drawdown) := by
  refine Txn.refused_bind_right fun _ => Txn.refused_bind_right fun _ => Txn.refused_bind_left ?_
  unfold Settlements.createAuditEntryWithClient
  rw [if_pos entityColumnsRefused_migrated]
  exact Txn.refused_abort _

theorem createDrawdownWithClient_refused (data : Facilities.CreateDrawdownInput) :
    Txn.Refused (Facilities.createDrawdownWithClient (migrated cfg) data) := by
  refine Txn.refused_bind_right fun today => Txn.refused_bind_right fun w => ?_
  have hviolation : Facilities.drawdownViolation (migrated cfg) (data.row today) =
      some "null value in column expected_repayment_date violates not-null constraint" :=
    if_pos expectedRepaymentDateRequired_migrated
  rw [hviolation]
  exact Txn.refused_abort _

theorem createDrawdownTxn_refused (facilityId invoiceId : ℕ) (principal bankFees invoiceDueDate : ℤ)
    (userId : Actor) :
    Txn.Refused (Facilities.createDrawdownTxn (migrated cfg) facilityId invoiceId principal bankFees
      invoiceDueDate userId) :=
  Txn.refused_bind_right fun _ => Txn.refused_bind_right fun _ =>
    Txn.refused_bind_left (createDrawdownWithClient_refused _)

/-! ## The system -/

/-- The steps, of which a job may be tried again at any time. -/
inductive Step
  | startCollectionMonitoring (invoiceId paymentId : ℕ)
  | handleRepaymentJob (invoiceId : ℕ)
  | handleSettlementJob (data : Settlements.SettlementJobPayload)
  | createDrawdown (facilityId invoiceId : ℕ) (principal bankFees invoiceDueDate : ℤ) (userId : Actor)

/-- The body of each step. -/
def program (cfg : Config) : Step → Call Unit
  | .startCollectionMonitoring invoiceId paymentId =>
    Collections.startCollectionMonitoring cfg invoiceId paymentId
  | .handleRepaymentJob invoiceId => Facilities.handleRepaymentJob invoiceId
  | .handleSettlementJob data => Settlements.handleSettlementJob cfg data
  | .createDrawdown facilityId invoiceId principal bankFees invoiceDueDate userId =>
    (Facilities.createDrawdown cfg facilityId invoiceId principal bankFees invoiceDueDate userId).discard

/-- What the service asks of the store before the transaction of the step. -/
def Ready (w : World) : Step → Prop
  | .startCollectionMonitoring invoiceId _ =>
    (∃ invoice ∈ w.invoices.get? invoiceId, invoice.status = .funded) ∧
      ∀ c ∈ w.collections.rows, c.invoiceId ≠ invoiceId
  | .handleRepaymentJob invoiceId =>
    ∃ d ∈ w.facilityDrawdowns.rows, d.invoiceId = invoiceId ∧ d.status = .active
  | .handleSettlementJob data =>
    (w.invoices.get? data.invoiceId).isSome ∧ (w.collections.get? data.collectionId).isSome ∧
      0 < data.amount ∧ 0 ≤ data.penaltyAmount ∧
      Settlements.getSettlementByIdempotencyKey (.derived data.invoiceId data.collectionId) w = none ∧
      Settlements.getSettlementByInvoiceId data.invoiceId w = none
  | .createDrawdown facilityId _ principal bankFees invoiceDueDate _ =>
    0 < principal ∧ 0 ≤ bankFees ∧
      ∃ facility ∈ w.bankFacilities.get? facilityId,
        facility.status = .active ∧ invoiceDueDate ≤ facility.maturityDate ∧
          principal ≤ facility.availableAmount

/-! ### No step changes the store -/

/-- The statement reads, fails or logs. -/
def Idle : Event → Prop
  | .read | .threw | .logged _ | .settlementReplayed _ _ => True
  | _ => False

/-- The protocol under which nothing ever changes. -/
def still (w : World) : Protocol World Event where
  inv s := s.store = w ∧ ∀ t e, (t, some e) ∈ s.hist → Idle e
  effect s _ e d := d = s.store ∧ ∀ ev ∈ e, Idle ev
  inv_effect := by
    rintro s t e d ⟨hstore, hhist⟩ ⟨rfl, he⟩
    refine ⟨hstore, fun u ev hmem => ?_⟩
    obtain hnew | hold := List.mem_cons.1 hmem
    · obtain ⟨-, rfl⟩ := Prod.mk.inj hnew
      exact he ev rfl
    · exact hhist u ev hold
  return_stable := by
    intro s t u e d _ _ _ _
    exact ⟨rfl, fun _ h => by cases h⟩

theorem quiet_still (w : World) : Quiet (still w) where
  read _ _ := ⟨rfl, fun _ h => Option.some.inj h ▸ trivial⟩
  threw _ _ := ⟨rfl, fun _ h => Option.some.inj h ▸ trivial⟩
  logged _ _ _ := ⟨rfl, fun _ h => Option.some.inj h ▸ trivial⟩

section Free

variable {G : Protocol World Event} (hG : Quiet G)

include hG

theorem free_startCollectionMonitoring (invoiceId paymentId : ℕ) :
    Free G (Collections.startCollectionMonitoring (migrated cfg) invoiceId paymentId) := by
  refine Collections.free_startCollectionMonitoring_of hG invoiceId paymentId ?_
  intro s t i invoice dailyRate collectionId d _ _ h
  exact (executeCollectionStartedTxn_refused invoice dailyRate paymentId i _ _ _ h).elim

theorem free_handleRepaymentJob (invoiceId : ℕ) : Free G (Facilities.handleRepaymentJob invoiceId) := by
  refine free_bind (free_statement hG fun s t i found d _ h => ?_) fun found => ?_
  · simp only [Txn.bind_ok, connect_ok, Txn.input_ok, Txn.read_ok] at h
    obtain ⟨_, _, ⟨-, rfl⟩, _, _, ⟨rfl, rfl⟩, -, rfl⟩ := h
    exact hG.read s t
  · cases found with
    | none => exact free_log hG _
    | some drawdown =>
      have hprocess : Free G (Facilities.processRepayment drawdown.facilityId drawdown.id .system) :=
        free_bind (free_transaction_refused hG (processRepaymentTxn_refused _ _)) fun _ =>
          free_bind (free_log hG _) fun _ => free_pure _
      exact free_bind hprocess fun _ => free_log hG _

theorem free_createDrawdown (facilityId invoiceId : ℕ) (principal bankFees invoiceDueDate : ℤ)
    (userId : Actor) :
    Free G (Facilities.createDrawdown (migrated cfg) facilityId invoiceId principal bankFees invoiceDueDate
      userId) :=
  free_bind (free_enqueuingTransaction_refused hG (createDrawdownTxn_refused _ _ _ _ _ _)) fun _ =>
    free_bind (free_log hG _) fun _ => free_pure _

end Free

theorem free_handleSettlementJob (w : World) (data : Settlements.SettlementJobPayload) :
    Free (still w) (Settlements.handleSettlementJob (migrated cfg) data) := by
  have hG := quiet_still w
  refine free_discard (free_bind (free_statement hG fun s t i found d _ h => ?_) fun found => ?_)
  · simp only [Txn.bind_ok, connect_ok, Txn.read_ok] at h
    obtain ⟨_, _, ⟨-, rfl⟩, -, rfl⟩ := h
    refine ⟨rfl, fun ev hev => ?_⟩
    obtain rfl := Option.some.inj hev
    cases found <;> trivial
  · cases found with
    | some replay => exact free_bind (free_log hG _) fun _ => free_pure _
    | none =>
      refine free_bind (free_query hG _) fun found => ?_
      cases found with
      | some settlement => exact free_throw _
      | none =>
        refine free_bind (free_query hG _) fun drawdown => ?_
        exact free_bind (free_transaction_refused hG (executeInitiateTxn_refused _ _)) fun _ =>
          free_bind (free_log hG _) fun _ => free_pure _

/-- Every step follows it. -/
theorem program_implements (cfg : Config) (w : World) :
    (still w).Implements (program (migrated cfg)) := by
  have hG := quiet_still w
  have hfree : ∀ step, Free (still w) (program (migrated cfg) step) := by
    intro step
    cases step with
    | startCollectionMonitoring invoiceId paymentId =>
      exact free_startCollectionMonitoring hG invoiceId paymentId
    | handleRepaymentJob invoiceId => exact free_handleRepaymentJob hG invoiceId
    | handleSettlementJob data => exact free_handleSettlementJob w data
    | createDrawdown => exact free_discard (free_createDrawdown hG _ _ _ _ _ _)
  have hreturn : ∀ (s : State World Event) t, (still w).effect s t none s.store := by
    intro s t
    exact ⟨rfl, fun _ h => by cases h⟩
  exact fun step t => (hfree step t).conseq (fun _ _ _ => trivial) (fun _ s _ _ => hreturn s t)
    fun _ s _ _ => hreturn s t

/-! ### A step that is ready fails -/

section Fails

variable {w : World}

theorem getCollectionByInvoiceId_none {invoiceId choice : ℕ}
    (h : ∀ c ∈ w.collections.rows, c.invoiceId ≠ invoiceId) :
    Collections.Repo.getCollectionByInvoiceId invoiceId choice w = none := by
  have hnil : (w.collections.rows.filter fun c => c.invoiceId = invoiceId ∧
      ∀ c' ∈ w.collections.rows, c'.invoiceId = invoiceId → c'.createdAt ≤ c.createdAt) = [] := by
    refine List.filter_eq_nil_iff.2 fun c hc hmatch => ?_
    exact h c hc (of_decide_eq_true hmatch).1
  simp only [Collections.Repo.getCollectionByInvoiceId, hnil, List.getElem?_nil]

/-- One of the active drawdowns is found. -/
theorem exists_getDrawdownByInvoiceId {invoiceId : ℕ} (choice : ℕ)
    (h : ∃ d ∈ w.facilityDrawdowns.rows, d.invoiceId = invoiceId ∧ d.status = .active) :
    ∃ d, Facilities.getDrawdownByInvoiceId invoiceId choice w = some d := by
  obtain ⟨d, hd, hmatch⟩ := h
  have hmem : d ∈ w.facilityDrawdowns.rows.filter fun d => d.invoiceId = invoiceId ∧ d.status = .active :=
    List.mem_filter.2 ⟨hd, decide_eq_true hmatch⟩
  have hlt := Nat.mod_lt choice (List.length_pos_of_mem hmem)
  exact ⟨_, List.getElem?_eq_getElem hlt⟩

variable {α β : Type} {Q : β → World → Prop} {E : RisError → World → Prop} {g : α → Call β}

/-- A statement that only reads goes on with what it reads. -/
theorem ends_reading_bind {x : Tx α} {seen : α → Event} {failed : RisError → Event} (value : Input → α)
    (hx : ∀ i, Healthy i → x i w = .ok (value i, w))
    (h : ∀ i, Healthy i → (g (value i)).Ends Healthy Q E w) :
    (Proc.transaction x seen failed >>= g).Ends Healthy Q E w := by
  refine Proc.Ends.bind (R := fun a d => (∃ i, Healthy i ∧ a = value i) ∧ d = w)
    (ends_statement fun i hi => ⟨value i, w, hx i hi, ⟨i, hi, rfl⟩, rfl⟩) ?_
  rintro a d ⟨⟨i, hi, rfl⟩, rfl⟩
  exact h i hi

theorem reads {f : World → α} {i : Input} (hi : Healthy i) :
    (do connect; Txn.read f : Tx α) i w = .ok (f w, w) :=
  Txn.bind_ok.2 ⟨(), w, connect_ok.2 ⟨hi, rfl⟩, rfl⟩

theorem reads_input {f : Input → World → α} {i : Input} (hi : Healthy i) :
    (do connect; let i ← Txn.input; Txn.read (f i) : Tx α) i w = .ok (f i w, w) :=
  Txn.bind_ok.2 ⟨(), w, connect_ok.2 ⟨hi, rfl⟩, rfl⟩

theorem ends_getDailyPenaltyRate_bind {g : ℚ → Call β} (h : ∀ rate, (g rate).Ends Healthy Q E w) :
    (Collections.getDailyPenaltyRate >>= g).Ends Healthy Q E w := by
  refine Proc.Ends.bind (R := fun _ d => d = w)
    (Collections.ends_getDailyPenaltyRate_of (fun _ hi => hi) fun _ _ => rfl) ?_
  rintro rate _ rfl
  exact h rate

/-- The call ends with an error and leaves the store, though no statement fails for another reason. -/
def Fails (p : Call Unit) (w : World) : Prop :=
  p.Ends Healthy (fun _ _ => False) (fun _ w' => w' = w) w

theorem fails_startCollectionMonitoring {invoiceId paymentId : ℕ}
    (h : Ready w (.startCollectionMonitoring invoiceId paymentId)) :
    Fails (Collections.startCollectionMonitoring (migrated cfg) invoiceId paymentId) w := by
  obtain ⟨⟨invoice, hinvoice, hfunded⟩, hnone⟩ := h
  refine ends_reading_bind _ (fun i hi => reads_input hi) fun i _ => ?_
  rw [getCollectionByInvoiceId_none hnone]
  refine ends_healthy_query_bind (fun _ hi => hi) ?_
  have hfound : Collections.Repo.getInvoiceForCollection invoiceId w = some invoice := hinvoice
  rw [hfound]
  dsimp only
  rw [if_neg (not_not_intro hfunded)]
  refine Proc.Ends.bind (R := fun _ _ => False) ?_ fun _ _ hfalse => hfalse.elim
  exact ends_getDailyPenaltyRate_bind fun rate =>
    ends_transaction_refused (executeCollectionStartedTxn_refused invoice rate paymentId)

theorem fails_handleRepaymentJob {invoiceId : ℕ} (h : Ready w (.handleRepaymentJob invoiceId)) :
    Fails (Facilities.handleRepaymentJob invoiceId) w := by
  refine ends_reading_bind _ (fun i hi => reads_input hi) fun i _ => ?_
  obtain ⟨drawdown, hdrawdown⟩ := exists_getDrawdownByInvoiceId i.choice h
  rw [hdrawdown]
  refine Proc.Ends.bind (R := fun _ _ => False) ?_ fun _ _ hfalse => hfalse.elim
  exact ends_transaction_refused (processRepaymentTxn_refused drawdown.facilityId drawdown.id)

theorem fails_handleSettlementJob {data : Settlements.SettlementJobPayload}
    (h : Ready w (.handleSettlementJob data)) :
    Fails (Settlements.handleSettlementJob (migrated cfg) data) w := by
  obtain ⟨-, -, -, -, hkey, hinvoice⟩ := h
  refine Proc.Ends.bind (R := fun _ _ => False) ?_ fun _ _ hfalse => hfalse.elim
  refine ends_reading_bind _ (fun i hi => reads hi) fun i _ => ?_
  rw [hkey]
  refine ends_healthy_query_bind (fun _ hi => hi) ?_
  rw [hinvoice]
  exact ends_healthy_query_bind (fun _ hi => hi)
    (ends_transaction_refused (executeInitiateTxn_refused _ _))

theorem fails_createDrawdown (facilityId invoiceId : ℕ) (principal bankFees invoiceDueDate : ℤ)
    (userId : Actor) :
    Fails (Facilities.createDrawdown (migrated cfg) facilityId invoiceId principal bankFees invoiceDueDate
      userId).discard w := by
  refine Proc.Ends.bind (R := fun _ _ => False) ?_ fun _ _ hfalse => hfalse.elim
  exact ends_enqueuingTransaction_refused (createDrawdownTxn_refused _ _ _ _ _ _)

theorem fails_of_ready {step : Step} (h : Ready w step) : Fails (program (migrated cfg) step) w := by
  cases step with
  | startCollectionMonitoring => exact fails_startCollectionMonitoring h
  | handleRepaymentJob => exact fails_handleRepaymentJob h
  | handleSettlementJob => exact fails_handleSettlementJob h
  | createDrawdown => exact fails_createDrawdown _ _ _ _ _ _

end Fails

/-! ## The law -/

/-- A step that is ready fails, whatever the store; and after any number of steps and retries, in any order
and with any statements failing, the store is as it was, so that it is ready and fails again. -/
theorem steps_stuck (cfg : Config) {w : World} {step : Step} (hready : Ready w step)
    {s : Sys World Input Event RisError}
    (hs : Reaches (program (migrated cfg)) always (Sys.init w) s) :
    Fails (program (migrated cfg) step) s.store ∧ s.store = w ∧ ∀ t e, (t, some e) ∈ s.hist →
      Idle e := by
  have hinit : (still w).inv ⟨w, []⟩ := ⟨rfl, fun _ _ h => absurd h List.not_mem_nil⟩
  have hinv : (still w).inv s.toState :=
    Protocol.invariant (program_implements cfg w) hinit hinit
      (fun _ _ _ _ hinv hmoves => (still w).inv_effect hinv hmoves.effect) hs
  obtain ⟨hstore, hidle⟩ := hinv
  have hfails : Fails (program (migrated cfg) step) w := fails_of_ready hready
  exact ⟨hstore.symm ▸ hfails, hstore, hidle⟩

/-- A funded invoice. -/
def funded (id : ℕ) : Invoice :=
  { id := id, supplierId := 1, buyerId := 1, faceValue := 1000, advanceAmount := some 800
    discountAmount := some 50, netPaymentToSupplier := some 750, status := .funded, tenorDays := some 30
    dueDate := 30, amlFlagged := false, amlClearedAt := none, pricingAcceptedAt := some 0
    pricingAcceptedBy := some 9, pricingRejectedAt := none, pricingRejectionReason := none
    pricingDisputedAt := none, fundedAt := some 0 }

/-- Invoice 1 has just been funded; invoice 2 has been drawn for and is paid. -/
def waiting : World :=
  { World.empty with
    invoices := ⟨[funded 1, funded 2], by decide⟩
    bankFacilities := .single
      { id := 1, facilityName := "Facility", bankName := "Bank", totalLimit := 10000, drawnAmount := 800
        annualRate := mkRat 1 10, interestRateAnnual := mkRat 1 10, maturityDate := 90
        status := .active, isActive := true }
    facilityDrawdowns := .single (Facilities.CreateDrawdownInput.row ⟨2, 1, 2, 800, 0⟩ 0)
    collections := .single
      { id := 2, invoiceId := 2, buyerId := 1, faceValue := 1000, amountDue := 1000, status := .collected
        daysOverdue := 0, dailyPenaltyRate := 0, penaltyAmount := 0, totalCollected := 1000
        createdAt := 0 } }

def monitoring : Step := .startCollectionMonitoring 1 7

def repayment : Step := .handleRepaymentJob 2

def settlement : Step :=
  .handleSettlementJob { invoiceId := 2, collectionId := 2, amount := 1000, penaltyAmount := 0 }

def drawing : Step := .createDrawdown 1 1 800 0 30 (.user 1)

theorem ready_monitoring : Ready waiting monitoring :=
  ⟨⟨funded 1, rfl, rfl⟩, fun c hc => by rw [List.mem_singleton.1 hc]; decide⟩

theorem ready_repayment : Ready waiting repayment := ⟨_, List.mem_singleton.2 rfl, rfl, rfl⟩

theorem ready_settlement : Ready waiting settlement := by
  refine ⟨rfl, rfl, ?_, ?_, rfl, rfl⟩ <;> decide

theorem ready_drawing : Ready waiting drawing := by
  refine ⟨?_, ?_, _, rfl, rfl, ?_⟩ <;> decide

/-- A step run alone as call `t`, of `n` statements. -/
def alone (step : Step) (t n : ℕ) : List (Act Step Input) := Act.call step t (List.replicate n { uuid := 5 })

/-- The job that starts the monitoring is tried twice. -/
theorem monitoring_fails_again :
    ∃ s : Sys World Input Event RisError,
      s.store.invoices.rows.map Invoice.status = [.funded, .funded] ∧
        Fails (program (migrated {}) monitoring) s.store ∧ s.store = waiting ∧
          ∀ t e, (t, some e) ∈ s.hist → Idle e := by
  obtain ⟨s, hs, hP⟩ := exists_reaches (program (migrated {})) always (Sys.init waiting)
    (alone monitoring 0 4 ++ alone monitoring 1 4)
    (fun s => s.store.invoices.rows.map Invoice.status = [.funded, .funded]) (by decide +kernel)
  exact ⟨s, of_decide_eq_true hP, steps_stuck {} ready_monitoring hs⟩

/-- Each of the steps is ready and fails: invoice 1 stays funded without a collection or a drawdown, the
drawdown of invoice 2 stays active, and it is not settled. -/
theorem ready_steps_fail :
    Ready waiting monitoring ∧ Ready waiting repayment ∧ Ready waiting settlement ∧
      Ready waiting drawing ∧
      ∃ s : Sys World Input Event RisError,
        Reaches (program (migrated {})) always (Sys.init waiting) s ∧
          s.hist = [(3, none), (3, some .threw), (2, none), (2, some .threw), (2, some .read),
            (2, some .read), (2, some .read), (1, none), (1, some .threw), (1, some .read), (0, none),
            (0, some .threw), (0, some .read), (0, some .read), (0, some .read)] ∧
          s.store.invoices.rows.map Invoice.status = [.funded, .funded] ∧
          s.store.collections.rows.map Collection.invoiceId = [2] ∧
          s.store.facilityDrawdowns.rows.map (fun d => (d.invoiceId, d.status)) = [(2, .active)] ∧
          s.store.settlements.rows.map Settlement.invoiceId = [] := by
  refine ⟨ready_monitoring, ready_repayment, ready_settlement, ready_drawing, ?_⟩
  obtain ⟨s, hs, hP⟩ := exists_reaches (program (migrated {})) always (Sys.init waiting)
    (alone monitoring 0 4 ++ alone repayment 1 2 ++ alone settlement 2 4 ++ alone drawing 3 1)
    (fun s => s.hist = [(3, none), (3, some .threw), (2, none), (2, some .threw), (2, some .read),
        (2, some .read), (2, some .read), (1, none), (1, some .threw), (1, some .read), (0, none),
        (0, some .threw), (0, some .read), (0, some .read), (0, some .read)] ∧
      s.store.invoices.rows.map Invoice.status = [.funded, .funded] ∧
      s.store.collections.rows.map Collection.invoiceId = [2] ∧
      s.store.facilityDrawdowns.rows.map (fun d => (d.invoiceId, d.status)) = [(2, .active)] ∧
      s.store.settlements.rows.map Settlement.invoiceId = []) (by decide +kernel)
  exact ⟨s, hs, of_decide_eq_true hP⟩

end Ris.Background
