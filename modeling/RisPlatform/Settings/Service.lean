import RisPlatform.Db

/-!
# `settings.service.ts`: changes of the configuration

A user proposes a change of a setting and another approves it. The approval writes the setting in the
transaction that marks the change approved.
-/

namespace Ris.Settings

open Relational Concurrent

/-! ## Rows -/

/-- A row of `system_settings`. -/
structure SystemSetting where
  key : String
  value : String
  updatedBy : Option ℕ := none
  updatedAt : ℤ := 0
  deriving DecidableEq

/-- `status`, a column that may hold any text. -/
inductive ConfigChangeStatus
  | pending | approved
  | other (text : String)
  deriving DecidableEq

/-- A row of `pending_config_changes`. -/
structure PendingConfigChangeRow where
  id : ℕ
  configKey : String
  currentValue : Option String
  proposedValue : String
  proposedBy : ℕ
  approvedBy : Option ℕ := none
  status : ConfigChangeStatus := .pending
  resolvedAt : Option ℤ := none
  deriving DecidableEq

structure ConfigRows where
  settings : Table SystemSetting.key
  changes : Table PendingConfigChangeRow.id

/-- The acts of the calls. -/
inductive ConfigAct
  | changeProposed (change : PendingConfigChangeRow)
  | changeRead (found : Option PendingConfigChangeRow)
  | changeApproved (changeId approverId : ℕ)
  deriving DecidableEq

abbrev ConfigTx : Type → Type := Db.Tx ConfigRows

abbrev ConfigCall : Type → Type := Db.Call ConfigRows ConfigAct

/-! ## The repository -/

namespace Repo

def getSystemSetting (key : String) (r : ConfigRows) : Option String :=
  (r.settings.get? key).map SystemSetting.value

def getPendingConfigChange (changeId : ℕ) (r : ConfigRows) : Option PendingConfigChangeRow :=
  r.changes.get? changeId

/-- The inserted row. -/
def createPendingConfigChange (configKey currentValue proposedValue : String) (proposedBy : ℕ) :
    ConfigTx PendingConfigChangeRow := do
  let changeId ← Db.uuid
  let change : PendingConfigChangeRow :=
    { id := changeId
      configKey := configKey
      currentValue := some currentValue
      proposedValue := proposedValue
      proposedBy := proposedBy }
  match ← Db.read fun r => r.changes.insert? change with
  | none => Txn.abort (.runtime "duplicate key value violates unique constraint \"pending_config_changes_pkey\"")
  | some changes => do
    Db.write fun r => { r with changes := changes }
    return change

/-- What an approval assigns. -/
def setApproved (approverId : ℕ) (now : ℤ) (change : PendingConfigChangeRow) : PendingConfigChangeRow :=
  { change with status := .approved, approvedBy := some approverId, resolvedAt := some now }

theorem id_setApproved (approverId : ℕ) (now : ℤ) (change : PendingConfigChangeRow) :
    (setApproved approverId now change).id = change.id := rfl

def approvePendingConfigChangeWithClient (changeId approverId : ℕ) : ConfigTx Unit := do
  let now ← Db.now
  Db.write fun r =>
    { r with
      changes := r.changes.update (fun c => c.id = changeId) (setApproved approverId now)
        (id_setApproved approverId now) }

def setValue (value : String) (userId : ℕ) (now : ℤ) (setting : SystemSetting) : SystemSetting :=
  { setting with value := value, updatedBy := some userId, updatedAt := now }

theorem key_setValue (value : String) (userId : ℕ) (now : ℤ) (setting : SystemSetting) :
    (setValue value userId now setting).key = setting.key := rfl

/-- Write the setting, if there is one with the key. -/
def setSystemSettingWithClient (key value : String) (userId : ℕ) : ConfigTx Unit := do
  let now ← Db.now
  Db.write fun r =>
    { r with
      settings := r.settings.update (fun x => x.key = key) (setValue value userId now)
        (key_setValue value userId now) }

end Repo

/-- An audit row of the service: it is about the user. -/
def auditRow (userId : ℕ) (action tableName : String) (metadata : List (String × Json)) (req : Request) :
    AuditLog where
  userId := some userId
  action := action
  tableName := tableName
  recordId := .id userId
  oldValues := []
  newValues := metadata
  ipAddress := req.ipAddress
  userAgent := req.userAgent

/-! ## The service -/

/-- Propose a change; its id. -/
def proposeConfigChange (key newValue : String) (userId : ℕ) (req : Request) : ConfigCall ℕ := do
  let current ← Db.query (Repo.getSystemSetting key)
  let change ← Db.transaction (Repo.createPendingConfigChange key (current.getD "") newValue userId)
    .changeProposed
  Db.audit (auditRow userId "CONFIG_CHANGE_PROPOSED" "users"
    [("key", .text key), ("changeId", .id change.id)] req)
  Db.log "CONFIG_CHANGE_PROPOSED"
  return change.id

/-- The change, if the user may approve it. -/
def validateConfigChangeForApproval (change : Option PendingConfigChangeRow) (changeId approverId : ℕ) :
    Except RisError PendingConfigChangeRow :=
  match change with
  | none => throw (.notFound "ConfigChange" changeId)
  | some change =>
    if change.status ≠ .pending then
      throw (.businessRule "CONFIG_CHANGE_NOT_PENDING" "Change is not pending")
    else if change.proposedBy = approverId then
      throw (.businessRule "SAME_USER_CANNOT_APPROVE" "Proposer cannot approve own change")
    else pure change

/-- The transaction of an approval. -/
def approveTx (changeId : ℕ) (change : PendingConfigChangeRow) (approverId : ℕ) (req : Request) :
    ConfigTx Unit := do
  Repo.approvePendingConfigChangeWithClient changeId approverId
  Repo.setSystemSettingWithClient change.configKey change.proposedValue approverId
  Db.createAuditEntry (auditRow approverId "CONFIG_CHANGE_APPROVED" "system_settings"
    [("changeId", .id changeId), ("key", .text change.configKey)] req)

def approveConfigChange (changeId approverId : ℕ) (req : Request) : ConfigCall Unit := do
  let found ← Db.see (Repo.getPendingConfigChange changeId) .changeRead
  let change ← monadLift (validateConfigChangeForApproval found changeId approverId)
  Db.transaction (approveTx changeId change approverId req) fun _ => .changeApproved changeId approverId
  Db.log "CONFIG_CHANGE_APPROVED"

/-! ## The system -/

inductive ConfigOp
  | proposeConfigChange (key newValue : String) (userId : ℕ) (req : Request)
  | approveConfigChange (changeId approverId : ℕ) (req : Request)

/-- The body of an operation. -/
def configProgram : ConfigOp → ConfigCall Unit
  | .proposeConfigChange key newValue userId req => (proposeConfigChange key newValue userId req).discard
  | .approveConfigChange changeId approverId req => approveConfigChange changeId approverId req

end Ris.Settings
