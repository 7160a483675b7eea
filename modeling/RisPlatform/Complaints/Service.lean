import RisPlatform.Db

/-!
# `complaints.service.ts`: complaints and their audit rows

A complaint is filed, updated, escalated and resolved. Each of the last three looks at the complaint first,
refuses one that is resolved or closed, and then writes it in a transaction that does not look again.

Two laws hold all the same. The audit rows of a complaint account for it: who filed it, whether it was
escalated, who resolved it and which columns were ever set by hand can be read off them
(`complaints_accounted`). And a resolved complaint stays as it is from the moment on at which no call is left
that looked at it before (`resolved_stays`).
-/

namespace Ris.Complaints

open Relational Concurrent

/-! ## Rows -/

inductive ComplaintStatus
  | open | inProgress | escalated | resolved | closed
  deriving DecidableEq

def ComplaintStatus.text : ComplaintStatus → String
  | .open => "OPEN"
  | .inProgress => "IN_PROGRESS"
  | .escalated => "ESCALATED"
  | .resolved => "RESOLVED"
  | .closed => "CLOSED"

inductive ComplaintPriority
  | low | normal | high | critical
  deriving DecidableEq

inductive ComplaintCategory
  | billing | service | payment | pricing | general
  deriving DecidableEq

/-- A row of `complaints`. -/
structure Complaint where
  id : ℕ
  complainantId : ℕ
  entityType : String
  entityId : Option ℕ
  subject : String
  description : String
  category : ComplaintCategory
  priority : ComplaintPriority
  status : ComplaintStatus
  assignedTo : Option ℕ := none
  resolution : Option String := none
  amountInvolved : ℕ
  escalated : Bool
  resolvedAt : Option ℤ := none
  resolvedBy : Option ℕ := none
  createdAt : ℤ
  updatedAt : ℤ
  deriving DecidableEq

/-- A body that passed `createComplaintSchema`: the amount is no negative number. -/
structure CreateComplaintInput where
  entityType : String
  entityId : Option ℕ := none
  subject : String
  description : String
  category : ComplaintCategory
  amountInvolved : Option ℕ := none

/-- The names of the fields that are given. -/
def givenKeys (status : Option ComplaintStatus) (priority : Option ComplaintPriority)
    (assignedTo : Option ℕ) : List String :=
  (if status.isSome then ["status"] else []) ++ (if priority.isSome then ["priority"] else []) ++
    if assignedTo.isSome then ["assigned_to"] else []

/-- A body that passed `updateComplaintSchema`: it can neither resolve nor close. -/
structure UpdateComplaintInput where
  status : Option ComplaintStatus := none
  priority : Option ComplaintPriority := none
  assignedTo : Option ℕ := none
  /-- `Object.keys(update)`, in the order of the request. -/
  keys : List String := givenKeys status priority assignedTo
  status_valid : ∀ x ∈ status, x = .open ∨ x = .inProgress ∨ x = .escalated := by simp
  keys_perm : keys.Perm (givenKeys status priority assignedTo) := by exact .refl _

/-- What the calls on a complaint that is there do to it. -/
inductive Change
  | update (fields : UpdateComplaintInput)
  | resolve (resolution : String)
  | escalate

/-- The acts of the calls. -/
inductive ComplaintAct
  | complaintFiled (complaint : Complaint)
  | complaintRead (found : Option Complaint)
  | complaintChanged (complaintId : ℕ) (change : Change) (userId : ℕ)

abbrev ComplaintRows : Type := Table Complaint.id

abbrev ComplaintTx : Type → Type := Db.Tx ComplaintRows

abbrev ComplaintCall : Type → Type := Db.Call ComplaintRows ComplaintAct

/-! ## The repository -/

namespace Repo

def getComplaintById (id : ℕ) (r : ComplaintRows) : Option Complaint := r.get? id

def createComplaintWithClient (complaint : Complaint) : ComplaintTx Unit := do
  match ← Db.read fun r => r.insert? complaint with
  | none => Txn.abort (.runtime "duplicate key value violates unique constraint \"complaints_pkey\"")
  | some complaints => Db.write fun _ => complaints

/-- The columns that are given; without one there is no `UPDATE`. -/
def setFields (fields : UpdateComplaintInput) (now : ℤ) (c : Complaint) : Complaint :=
  if (givenKeys fields.status fields.priority fields.assignedTo).isEmpty then c
  else
    { c with
      status := fields.status.getD c.status
      priority := fields.priority.getD c.priority
      assignedTo := fields.assignedTo.or c.assignedTo
      updatedAt := now }

def setResolved (resolution : String) (resolvedBy : ℕ) (now : ℤ) (c : Complaint) : Complaint :=
  { c with
    status := .resolved
    resolution := some resolution
    resolvedAt := some now
    resolvedBy := some resolvedBy
    updatedAt := now }

def setEscalated (now : ℤ) (c : Complaint) : Complaint :=
  { c with status := .escalated, escalated := true, updatedAt := now }

end Repo

/-- The row after the change. -/
def Change.apply (change : Change) (userId : ℕ) (now : ℤ) : Complaint → Complaint :=
  match change with
  | .update fields => Repo.setFields fields now
  | .resolve resolution => Repo.setResolved resolution userId now
  | .escalate => Repo.setEscalated now

theorem Change.id_apply (change : Change) (userId : ℕ) (now : ℤ) (c : Complaint) :
    (change.apply userId now c).id = c.id := by
  cases change with
  | update fields =>
    rw [apply, Repo.setFields]
    split <;> rfl
  | resolve resolution => rfl
  | escalate => rfl

def Repo.changeComplaintWithClient (complaintId : ℕ) (change : Change) (userId : ℕ) : ComplaintTx Unit := do
  let now ← Db.now
  Db.write fun r => r.update (fun c => c.id = complaintId) (change.apply userId now) (change.id_apply userId now)

/-- The action of the audit row and of the log line. -/
def Change.action : Change → String
  | .update _ => "COMPLAINT_UPDATED"
  | .resolve _ => "COMPLAINT_RESOLVED"
  | .escalate => "COMPLAINT_ESCALATED"

/-- What the audit row says; the resolution and the reason are not in it. -/
def Change.newValues : Change → List (String × Json)
  | .update fields => [("fields", .texts fields.keys)]
  | .resolve _ => [("status", .text ComplaintStatus.resolved.text), ("hasResolution", .bool true)]
  | .escalate => [("status", .text ComplaintStatus.escalated.text), ("escalated", .bool true)]

def auditRow (userId : ℕ) (action : String) (complaintId : ℕ) (after : List (String × Json)) (req : Request) :
    AuditLog where
  userId := some userId
  action := action
  tableName := "complaints"
  recordId := .id complaintId
  oldValues := []
  newValues := after
  ipAddress := req.ipAddress
  userAgent := req.userAgent

def Change.audit (change : Change) (complaintId userId : ℕ) (req : Request) : AuditLog :=
  auditRow userId change.action complaintId change.newValues req

/-! ## The service -/

/-- `AUTO_ESCALATE_THRESHOLD` -/
def autoEscalateThreshold : ℕ := 5000000

/-- The complaint as it is filed. -/
def newComplaint (id userId : ℕ) (input : CreateComplaintInput) (now : ℤ) : Complaint where
  id := id
  complainantId := userId
  entityType := input.entityType
  entityId := input.entityId
  subject := input.subject
  description := input.description
  category := input.category
  priority := if autoEscalateThreshold ≤ input.amountInvolved.getD 0 then .high else .normal
  status := if autoEscalateThreshold ≤ input.amountInvolved.getD 0 then .escalated else .open
  amountInvolved := input.amountInvolved.getD 0
  escalated := autoEscalateThreshold ≤ input.amountInvolved.getD 0
  createdAt := now
  updatedAt := now

def filedAudit (c : Complaint) (req : Request) : AuditLog :=
  auditRow c.complainantId "COMPLAINT_FILED" c.id [("status", .text c.status.text)] req

/-- The transaction of `fileComplaint`. -/
def fileTx (userId : ℕ) (input : CreateComplaintInput) (req : Request) : ComplaintTx Complaint := do
  let id ← Db.uuid
  let now ← Db.now
  Repo.createComplaintWithClient (newComplaint id userId input now)
  Db.createAuditEntry (filedAudit (newComplaint id userId input now) req)
  return newComplaint id userId input now

def queueNotification (cfg : Config) (type : String) (payload : List (String × Json)) : ComplaintCall Unit :=
  Db.enqueueOrWarn cfg ⟨.notification, type, payload⟩ "complaints: notification queue not configured"

def fileComplaint (cfg : Config) (userId : ℕ) (input : CreateComplaintInput) (req : Request) :
    ComplaintCall ℕ := do
  let complaint ← Db.transaction (fileTx userId input req) .complaintFiled
  Db.log "COMPLAINT_FILED"
  queueNotification cfg "complaint-filed" [("complaintId", .id complaint.id), ("userId", .id userId)]
  return complaint.id

/-- The complaint, if it is there and open. -/
def validateNotResolved (existing : Option Complaint) (complaintId : ℕ) : Except RisError Complaint :=
  match existing with
  | none => throw (.notFound "Complaint" complaintId)
  | some c =>
    if c.status = .resolved ∨ c.status = .closed then
      throw (.businessRule "COMPLAINT_ALREADY_RESOLVED" "Complaint has already been resolved or closed")
    else pure c

/-- The transaction of a change. -/
def changeTx (complaintId : ℕ) (change : Change) (userId : ℕ) (req : Request) : ComplaintTx Unit := do
  Repo.changeComplaintWithClient complaintId change userId
  Db.createAuditEntry (change.audit complaintId userId req)

/-- What the three changes share. -/
def changeComplaint (complaintId : ℕ) (change : Change) (userId : ℕ) (req : Request) : ComplaintCall Unit := do
  let existing ← Db.see (Repo.getComplaintById complaintId) .complaintRead
  let _ ← monadLift (validateNotResolved existing complaintId)
  Db.transaction (changeTx complaintId change userId req) fun _ => .complaintChanged complaintId change userId
  Db.log change.action

def updateComplaint (complaintId : ℕ) (update : UpdateComplaintInput) (userId : ℕ) (req : Request) :
    ComplaintCall (Option Complaint) := do
  changeComplaint complaintId (.update update) userId req
  Db.query (Repo.getComplaintById complaintId)

def resolveComplaint (cfg : Config) (complaintId : ℕ) (resolution : String) (userId : ℕ) (req : Request) :
    ComplaintCall Unit := do
  changeComplaint complaintId (.resolve resolution) userId req
  queueNotification cfg "complaint-resolved" [("complaintId", .id complaintId)]

def escalateComplaint (cfg : Config) (complaintId : ℕ) (reason : String) (userId : ℕ) (req : Request) :
    ComplaintCall Unit := do
  changeComplaint complaintId .escalate userId req
  queueNotification cfg "complaint-escalated" [("complaintId", .id complaintId), ("reason", .text reason)]

/-! ## The system -/

inductive Op
  | fileComplaint (userId : ℕ) (input : CreateComplaintInput) (req : Request)
  | updateComplaint (complaintId : ℕ) (update : UpdateComplaintInput) (userId : ℕ) (req : Request)
  | resolveComplaint (complaintId : ℕ) (resolution : String) (userId : ℕ) (req : Request)
  | escalateComplaint (complaintId : ℕ) (reason : String) (userId : ℕ) (req : Request)

/-- The body of each operation. -/
def program (cfg : Config) : Op → ComplaintCall Unit
  | .fileComplaint userId input req => (fileComplaint cfg userId input req).discard
  | .updateComplaint complaintId update userId req => (updateComplaint complaintId update userId req).discard
  | .resolveComplaint complaintId resolution userId req => resolveComplaint cfg complaintId resolution userId req
  | .escalateComplaint complaintId reason userId req => escalateComplaint cfg complaintId reason userId req

/-! ## Effects -/

/-- A complaint that may be changed. -/
def Complaint.IsOpen (c : Complaint) : Prop := c.status ≠ .resolved ∧ c.status ≠ .closed

instance (c : Complaint) : Decidable c.IsOpen := inferInstanceAs (Decidable (_ ∧ _))

/-- What an act does to the complaints and the audit rows. A change has looked at the complaint, and done
nothing else. -/
inductive ComplaintEffect (l : Db.Deeds ComplaintAct) (d : ComplaintRows × List AuditLog) :
    ComplaintAct → ComplaintRows × List AuditLog → Prop
  | complaintFiled (id userId : ℕ) (input : CreateComplaintInput) (req : Request) (now : ℤ)
      (complaints : ComplaintRows) (hinsert : d.1.insert? (newComplaint id userId input now) = some complaints) :
      ComplaintEffect l d (.complaintFiled (newComplaint id userId input now))
        (complaints, d.2 ++ [filedAudit (newComplaint id userId input now) req])
  | complaintRead (id : ℕ) : ComplaintEffect l d (.complaintRead (d.1.get? id)) d
  | complaintChanged (c : Complaint) (change : Change) (userId : ℕ) (req : Request) (now : ℤ)
      (hread : l = [some (.own (.complaintRead (some c)))]) (hopen : c.IsOpen) :
      ComplaintEffect l d (.complaintChanged c.id change userId)
        (d.1.update (fun x => x.id = c.id) (change.apply userId now) (change.id_apply userId now),
          d.2 ++ [change.audit c.id userId req])

section Commit

variable {i : Input} {d d' : Db ComplaintRows} {u : Unit} {l : Db.Deeds ComplaintAct}
  {S : Db.LoggedActs ComplaintRows ComplaintAct}

theorem effect_of_file {userId : ℕ} {input : CreateComplaintInput} {req : Request} {c : Complaint}
    (h : fileTx userId input req i d = .ok (c, d')) :
    ComplaintEffect l d.logged (.complaintFiled c) d'.logged := by
  simp only [fileTx, Repo.createComplaintWithClient, Txn.bind_ok, Db.uuid_ok, Db.now_ok, Db.read_ok] at h
  obtain ⟨id, _, ⟨-, rfl⟩, now, _, ⟨-, rfl⟩, _, d₁, ⟨inserted, _, ⟨hinserted, rfl⟩, h₁⟩, h⟩ := h
  cases inserted with
  | none => cases h₁
  | some complaints =>
    obtain rfl := Db.write_ok.1 h₁
    simp only [Db.createAuditEntry_ok, Txn.pure_ok] at h
    obtain ⟨_, _, rfl, rfl, rfl⟩ := h
    exact .complaintFiled id userId input req now complaints hinserted

theorem changeTx_ok {complaintId userId : ℕ} {change : Change} {req : Request}
    (h : changeTx complaintId change userId req i d = .ok (u, d')) :
    ∃ now, d'.logged = (d.rows.update (fun x => x.id = complaintId) (change.apply userId now)
      (change.id_apply userId now), d.auditLogs ++ [change.audit complaintId userId req]) := by
  simp only [changeTx, Repo.changeComplaintWithClient, Txn.bind_ok, Db.now_ok, Db.write_ok,
    Db.createAuditEntry_ok] at h
  obtain ⟨_, _, ⟨now, _, ⟨-, rfl⟩, rfl⟩, rfl⟩ := h
  exact ⟨now, rfl⟩

theorem validate_ok {existing : Option Complaint} {complaintId : ℕ} {c : Complaint}
    (h : validateNotResolved existing complaintId = .ok c) : existing = some c ∧ c.IsOpen := by
  unfold validateNotResolved at h
  cases existing with
  | none => cases h
  | some x =>
    dsimp only at h
    split at h
    · cases h
    · next hopen =>
      obtain rfl := Except.ok.inj h
      exact ⟨rfl, not_or.1 hopen⟩

theorem does_changeComplaint (complaintId : ℕ) (change : Change) (userId : ℕ) (req : Request) :
    (changeComplaint complaintId change userId req).Does (Db.loggedEffects ComplaintEffect)
      (fun _ _ => True) [] := by
  have hsee : (Db.see (Repo.getComplaintById complaintId) .complaintRead).Does
      (Db.loggedEffects ComplaintEffect) (fun found l => (∀ c ∈ found, c.id = complaintId) ∧
        l = [some (.own (.complaintRead found))]) [] :=
    Db.logged_see fun rows logs => ⟨.complaintRead complaintId, fun c hc => Table.key_of_get? hc, rfl⟩
  refine hsee.bind fun found l _ ⟨hid, hl⟩ => ?_
  refine (Proc.does_lift (Q := fun c l' => found = some c ∧ c.IsOpen ∧ l' = l) fun c hok => ?_).bind
    fun c l' _ hc => ?_
  · obtain ⟨hfound, hopen⟩ := validate_ok hok
    exact ⟨hfound, hopen, rfl⟩
  · obtain ⟨rfl, hopen, rfl⟩ := hc
    refine (Db.logged_commit (Q := fun _ _ => True) fun i d _ d' hok => ⟨?_, trivial⟩).bind
      fun _ _ _ _ => Db.logged_log _
    obtain ⟨now, hrows⟩ := changeTx_ok hok
    rw [hrows, ← hid c rfl]
    exact .complaintChanged c change userId req now hl hopen

end Commit

/-- The operations do what the effects say. -/
theorem program_covers (cfg : Config) : (Db.loggedEffects ComplaintEffect).Covers (program cfg) := by
  intro op
  cases op with
  | fileComplaint userId input req =>
    refine Proc.Does.discard ?_
    refine (Db.logged_commit (Q := fun _ _ => True) fun i d c d' hok => ⟨effect_of_file hok, trivial⟩).bind
      fun c _ _ _ => ?_
    exact (Db.logged_log _).bind fun _ _ _ _ => (Db.logged_enqueueOrWarn _ _ trivial).bind fun _ _ _ _ =>
      Proc.does_pure trivial
  | updateComplaint complaintId update userId req =>
    exact Proc.Does.discard ((does_changeComplaint _ _ _ _).bind fun _ _ _ _ => Db.logged_query _)
  | resolveComplaint complaintId resolution userId req =>
    exact (does_changeComplaint _ _ _ _).bind fun _ _ _ _ => Db.logged_enqueueOrWarn _ _ trivial
  | escalateComplaint complaintId reason userId req =>
    exact (does_changeComplaint _ _ _ _).bind fun _ _ _ _ => Db.logged_enqueueOrWarn _ _ trivial

/-! ## What the audit rows say -/

/-- The audit row is about the complaint. -/
def IsAbout (complaintId : ℕ) (a : AuditLog) : Prop := a.tableName = "complaints" ∧ a.recordId = .id complaintId

instance (complaintId : ℕ) (a : AuditLog) : Decidable (IsAbout complaintId a) :=
  inferInstanceAs (Decidable (_ ∧ _))

/-- The audit rows of a complaint, oldest first. -/
def rowsOf (complaintId : ℕ) (logs : List AuditLog) : List AuditLog :=
  logs.filter fun a => IsAbout complaintId a

/-- The audit rows with this action. -/
def withAction (action : String) (rows : List AuditLog) : List AuditLog := rows.filter fun a => a.action = action

/-- An update of the complaint gave this column. -/
def UpdateGave (column : String) (rows : List AuditLog) : Prop :=
  ∃ a ∈ withAction "COMPLAINT_UPDATED" rows, ∃ fields, ("fields", .texts fields) ∈ a.newValues ∧ column ∈ fields

/-- The rows of a complaint account for it. -/
structure Accounted (c : Complaint) (rows : List AuditLog) : Prop where
  /-- It was filed once, by its complainant. -/
  filed : (withAction "COMPLAINT_FILED" rows).map AuditLog.userId = [some c.complainantId]
  /-- The flag is up for the amount, or since an escalation. -/
  escalated : c.escalated = true ↔
    autoEscalateThreshold ≤ c.amountInvolved ∨ withAction "COMPLAINT_ESCALATED" rows ≠ []
  /-- It has a resolution if it was resolved, .. -/
  resolution : c.resolution.isSome = true ↔ withAction "COMPLAINT_RESOLVED" rows ≠ []
  /-- .. of the user who resolved it last. -/
  resolvedBy : c.resolvedBy = (withAction "COMPLAINT_RESOLVED" rows).getLast?.bind AuditLog.userId
  /-- The priority is the one of the amount, unless an update gave another. -/
  priority : c.priority = (if autoEscalateThreshold ≤ c.amountInvolved then .high else .normal) ∨
    UpdateGave "priority" rows
  assignedTo : c.assignedTo = none ∨ UpdateGave "assigned_to" rows
  /-- The status is the one of the last row that is no update, unless an update gave another. -/
  status : (∃ a, (rows.filter fun a => a.action ≠ "COMPLAINT_UPDATED").getLast? = some a ∧
    ("status", .text c.status.text) ∈ a.newValues) ∨ UpdateGave "status" rows

/-- Every complaint is accounted for, and no audit row is about another one. -/
structure AllAccounted (d : ComplaintRows × List AuditLog) : Prop where
  accounted : ∀ c ∈ d.1.rows, Accounted c (rowsOf c.id d.2)
  present : ∀ k, rowsOf k d.2 ≠ [] → ∃ c, d.1.get? k = some c

section Accounted

variable {c : Complaint} {rows : List AuditLog} {a : AuditLog} {action column : String} {k : ℕ}

theorem withAction_append (action : String) (rows : List AuditLog) (a : AuditLog) :
    withAction action (rows ++ [a]) = withAction action rows ++ if a.action = action then [a] else [] := by
  rw [withAction, List.filter_append, ← withAction]
  by_cases h : a.action = action <;> simp [h]

theorem rowsOf_own (logs : List AuditLog) (h : IsAbout k a) : rowsOf k (logs ++ [a]) = rowsOf k logs ++ [a] := by
  rw [rowsOf, List.filter_append, ← rowsOf]
  simp [h]

theorem rowsOf_other (logs : List AuditLog) (h : ¬IsAbout k a) : rowsOf k (logs ++ [a]) = rowsOf k logs := by
  rw [rowsOf, List.filter_append, ← rowsOf]
  simp [h]

/-- The row of a change is one of its action. -/
theorem withAction_change (change : Change) (rows : List AuditLog) (complaintId userId : ℕ) (req : Request) :
    withAction action (rows ++ [change.audit complaintId userId req]) =
      withAction action rows ++ if change.action = action then [change.audit complaintId userId req] else [] :=
  withAction_append _ _ _

theorem isAbout_auditRow {userId complaintId : ℕ} {after : List (String × Json)} {req : Request} :
    IsAbout k (auditRow userId action complaintId after req) ↔ complaintId = k := by
  simp [IsAbout, auditRow]

theorem UpdateGave.append (h : UpdateGave column rows) (a : AuditLog) : UpdateGave column (rows ++ [a]) := by
  obtain ⟨x, hx, hfields⟩ := h
  refine ⟨x, ?_, hfields⟩
  rw [withAction_append]
  exact List.mem_append_left _ hx

theorem updateGave_audit {fields : UpdateComplaintInput} {complaintId userId : ℕ} {req : Request}
    (h : column ∈ fields.keys) :
    UpdateGave column (rows ++ [(Change.update fields).audit complaintId userId req]) := by
  refine ⟨(Change.update fields).audit complaintId userId req, ?_, fields.keys, List.mem_singleton.2 rfl, h⟩
  rw [withAction_change, Change.action, if_pos rfl]
  exact List.mem_append_right _ (List.mem_singleton.2 rfl)

/-- What an update leaves, and what it leaves unless it is given. -/
theorem setFields_columns (fields : UpdateComplaintInput) (now : ℤ) (c : Complaint) :
    ((Repo.setFields fields now c).complainantId = c.complainantId ∧
      (Repo.setFields fields now c).amountInvolved = c.amountInvolved ∧
      (Repo.setFields fields now c).escalated = c.escalated ∧
      (Repo.setFields fields now c).resolution = c.resolution ∧
      (Repo.setFields fields now c).resolvedBy = c.resolvedBy) ∧
    ((Repo.setFields fields now c).priority = c.priority ∨ "priority" ∈ fields.keys) ∧
    ((Repo.setFields fields now c).assignedTo = c.assignedTo ∨ "assigned_to" ∈ fields.keys) ∧
    ((Repo.setFields fields now c).status = c.status ∨ "status" ∈ fields.keys) := by
  simp only [fields.keys_perm.mem_iff]
  obtain ⟨status, priority, assignedTo, -, -, -⟩ := fields
  cases status <;> cases priority <;> cases assignedTo <;> simp [Repo.setFields, givenKeys]

/-- The rows that tell a status. -/
theorem told_update (rows : List AuditLog) (h : a.action = "COMPLAINT_UPDATED") :
    (rows ++ [a]).filter (fun a => a.action ≠ "COMPLAINT_UPDATED") =
      rows.filter (fun a => a.action ≠ "COMPLAINT_UPDATED") := by
  rw [List.filter_append]
  simp [h]

theorem told_other (rows : List AuditLog) (h : a.action ≠ "COMPLAINT_UPDATED") :
    ((rows ++ [a]).filter (fun a => a.action ≠ "COMPLAINT_UPDATED")).getLast? = some a := by
  rw [List.filter_append, List.filter_cons_of_pos (by simpa using h), List.filter_nil, List.getLast?_concat]

/-- The first row of a complaint. -/
theorem accounted_new (id userId : ℕ) (input : CreateComplaintInput) (req : Request) (now : ℤ) :
    Accounted (newComplaint id userId input now) [filedAudit (newComplaint id userId input now) req] where
  filed := rfl
  escalated := by simp [newComplaint, withAction, filedAudit, auditRow]
  resolution := by simp [newComplaint, withAction, filedAudit, auditRow]
  resolvedBy := rfl
  priority := Or.inl rfl
  assignedTo := Or.inl rfl
  status := Or.inl ⟨_, rfl, List.mem_singleton.2 rfl⟩

/-- The row of a change goes with it. -/
theorem Accounted.change (h : Accounted c rows) (change : Change) (userId : ℕ) (req : Request) (now : ℤ) :
    Accounted (change.apply userId now c) (rows ++ [change.audit c.id userId req]) := by
  have hgave : ∀ {column}, UpdateGave column rows → UpdateGave column (rows ++ [change.audit c.id userId req]) :=
    fun hgave => hgave.append _
  cases change with
  | update fields =>
    obtain ⟨⟨hcomplainant, hamount, hescalated, hresolution, hresolvedBy⟩, hpriority, hassigned, hstatus⟩ :=
      setFields_columns fields now c
    rw [Change.apply]
    constructor
    · simpa [withAction_change, Change.action, hcomplainant] using h.filed
    · simpa [withAction_change, Change.action, hescalated, hamount] using h.escalated
    · simpa [withAction_change, Change.action, hresolution] using h.resolution
    · simpa [withAction_change, Change.action, hresolvedBy] using h.resolvedBy
    · rcases hpriority with hsame | hgiven
      · rw [hsame, hamount]
        exact h.priority.imp_right hgave
      · exact Or.inr (updateGave_audit hgiven)
    · rcases hassigned with hsame | hgiven
      · rw [hsame]
        exact h.assignedTo.imp_right hgave
      · exact Or.inr (updateGave_audit hgiven)
    · rcases hstatus with hsame | hgiven
      · rw [told_update rows rfl, hsame]
        exact h.status.imp_right hgave
      · exact Or.inr (updateGave_audit hgiven)
  | resolve resolution =>
    refine ⟨?_, ?_, ?_, ?_, h.priority.imp_right hgave, h.assignedTo.imp_right hgave, Or.inl ?_⟩
    · simpa [withAction_change, Change.action, Change.apply, Repo.setResolved] using h.filed
    · simpa [withAction_change, Change.action, Change.apply, Repo.setResolved] using h.escalated
    · simp [withAction_change, Change.action, Change.apply, Repo.setResolved]
    · rw [withAction_change, Change.action, if_pos rfl, List.getLast?_concat]
      rfl
    · refine ⟨_, told_other rows ?_, List.mem_cons_self⟩
      exact (by decide : "COMPLAINT_RESOLVED" ≠ "COMPLAINT_UPDATED")
  | escalate =>
    refine ⟨?_, ?_, ?_, ?_, h.priority.imp_right hgave, h.assignedTo.imp_right hgave, Or.inl ?_⟩
    · simpa [withAction_change, Change.action, Change.apply, Repo.setEscalated] using h.filed
    · simp [withAction_change, Change.action, Change.apply, Repo.setEscalated]
    · simpa [withAction_change, Change.action, Change.apply, Repo.setEscalated] using h.resolution
    · simpa [withAction_change, Change.action, Change.apply, Repo.setEscalated] using h.resolvedBy
    · refine ⟨_, told_other rows ?_, List.mem_cons_self⟩
      exact (by decide : "COMPLAINT_ESCALATED" ≠ "COMPLAINT_UPDATED")

/-- The step lemma; what the call has looked at is still there. -/
theorem AllAccounted.effect {d d' : ComplaintRows × List AuditLog} {l : Db.Deeds ComplaintAct}
    {e : ComplaintAct} (h : AllAccounted d) (he : ComplaintEffect l d e d')
    (hstays : ∀ c, some (.own (.complaintRead (some c))) ∈ l → ∃ x, d.1.get? c.id = some x) :
    AllAccounted d' := by
  cases he with
  | complaintRead id => exact h
  | complaintFiled id userId input req now complaints hinsert =>
    have hfresh := Table.get?_insert?_fresh hinsert
    have hother : ∀ {k}, k ≠ id → ¬IsAbout k (filedAudit (newComplaint id userId input now) req) :=
      fun hk habout => hk (isAbout_auditRow.1 habout).symm
    constructor
    · intro c hc
      rcases (Table.mem_insert? hinsert).1 hc with hold | rfl
      · rw [rowsOf_other d.2 (hother (Table.key_ne_of_insert? hinsert hold))]
        exact h.accounted c hold
      · have hnone : rowsOf id d.2 = [] := by
          by_contra hne
          obtain ⟨c, hc⟩ := h.present id hne
          exact absurd (hc.symm.trans hfresh) (Option.some_ne_none c)
        have habout : IsAbout id (filedAudit (newComplaint id userId input now) req) := isAbout_auditRow.2 rfl
        show Accounted _ (rowsOf id (d.2 ++ [filedAudit (newComplaint id userId input now) req]))
        rw [rowsOf_own d.2 habout, hnone]
        exact accounted_new id userId input req now
    · intro k hk
      rw [Table.get?_insert? hinsert]
      by_cases hid : k = id
      · exact ⟨_, if_pos hid⟩
      · rw [rowsOf_other d.2 (hother hid)] at hk
        obtain ⟨x, hx⟩ := h.present k hk
        exact ⟨x, (if_neg hid).trans hx⟩
  | complaintChanged c change userId req now hread hopen =>
    have hother : ∀ {k}, k ≠ c.id → ¬IsAbout k (change.audit c.id userId req) :=
      fun hk habout => hk (isAbout_auditRow.1 habout).symm
    constructor
    · intro x hx
      have hupdated : x ∈ (d.1.update (fun x => x.id = c.id) (change.apply userId now)
        (change.id_apply userId now)).rows := hx
      obtain ⟨x₀, hx₀, rfl⟩ := Table.mem_update.1 hupdated
      by_cases hid : x₀.id = c.id
      · have habout : IsAbout x₀.id (change.audit x₀.id userId req) := isAbout_auditRow.2 rfl
        rw [if_pos (decide_eq_true hid), change.id_apply, ← hid, rowsOf_own d.2 habout]
        exact (h.accounted x₀ hx₀).change change userId req now
      · rw [if_neg (by simpa using hid), rowsOf_other d.2 (hother hid)]
        exact h.accounted x₀ hx₀
    · intro k hk
      have hpresent : ∃ x, d.1.get? k = some x := by
        by_cases hid : k = c.id
        · rw [hid]
          exact hstays c (hread ▸ List.mem_singleton.2 rfl)
        · rw [rowsOf_other d.2 (hother hid)] at hk
          exact h.present k hk
      obtain ⟨x, hx⟩ := hpresent
      rw [Table.get?_update, hx]
      exact ⟨_, rfl⟩

/-- No act removes a complaint. -/
theorem stays_of_effect {d d' : ComplaintRows × List AuditLog} {l : Db.Deeds ComplaintAct}
    {e : ComplaintAct} (he : ComplaintEffect l d e d') (h : ∃ x, d.1.get? k = some x) :
    ∃ x, d'.1.get? k = some x := by
  obtain ⟨x, hx⟩ := h
  cases he with
  | complaintRead id => exact ⟨x, hx⟩
  | complaintFiled id userId input req now complaints hinsert =>
    exact ⟨x, Table.get?_insert?_of_get? hinsert hx⟩
  | complaintChanged c change userId req now hread hopen =>
    rw [Table.get?_update, hx]
    exact ⟨_, rfl⟩

end Accounted

/-! ## Runs -/

/-- The audit rows account for the complaints, and what a call has looked at is there. -/
structure Consistent (s : Db.Past ComplaintRows ComplaintAct) : Prop where
  accounted : AllAccounted s.store.logged
  stays : ∀ t c, (t, some (.own (.complaintRead (some c)))) ∈ s.hist → ∃ x, s.store.rows.get? c.id = some x

/-- The call has looked at the complaint while it was open, and done nothing since. -/
def waitsOn (complaintId : ℕ) : Db.Deeds ComplaintAct → Bool
  | [some (.own (.complaintRead (some c)))] => c.id = complaintId && c.IsOpen
  | _ => false

section Runs

variable {cfg : Config} {d d' : Db ComplaintRows} {s : Db.Past ComplaintRows ComplaintAct} {t k : ℕ}
  {e : Did ComplaintAct} {c : Complaint}

/-- What an act has looked at is a row. -/
theorem get?_of_read {l : Db.Deeds ComplaintAct} {r r' : ComplaintRows × List AuditLog}
    (he : ComplaintEffect l r (.complaintRead (some c)) r') : r.1.get? c.id = some c := by
  generalize hact : ComplaintAct.complaintRead (some c) = act at he
  cases he with
  | complaintRead id =>
    have hfound : some c = r.1.get? id := ComplaintAct.complaintRead.inj hact
    rw [Table.key_of_get? hfound.symm]
    exact hfound.symm
  | complaintFiled => cases hact
  | complaintChanged => cases hact

theorem Consistent.effect (h : Consistent s)
    (he : Db.loggedEffects ComplaintEffect (own t s.hist) s.store e d') : Consistent (s.record t (some e) d') := by
  -- a statement that is no act of the service changes nothing and looks at no complaint
  have hidle : d'.logged = s.store.logged → (∀ c, e ≠ .own (.complaintRead (some c))) →
      Consistent (s.record t (some e) d') := by
    intro hsame hne
    have hrows : d'.rows = s.store.rows := congrArg Prod.fst hsame
    refine ⟨?_, fun u c hc => ?_⟩
    · show AllAccounted d'.logged
      rw [hsame]
      exact h.accounted
    · show ∃ x, d'.rows.get? c.id = some x
      rw [hrows]
      refine h.stays u c ((List.mem_cons.1 hc).resolve_left fun hnew => ?_)
      exact hne c (Option.some.inj (Prod.mk.inj hnew).2).symm
  cases e with
  | own act =>
    refine ⟨h.accounted.effect he fun c hc => h.stays t c (mem_own.1 hc), fun u c hc => ?_⟩
    rcases List.mem_cons.1 hc with hnew | hold
    · obtain ⟨-, hact⟩ := Prod.mk.inj hnew
      obtain rfl := Did.own.inj (Option.some.inj hact)
      exact stays_of_effect he ⟨c, get?_of_read he⟩
    · exact stays_of_effect he (h.stays u c hold)
  | audited entry => exact he.1.elim
  | enqueued job => exact hidle he.2 fun c heq => by cases heq
  | read | threw | logged action => exact hidle he fun c heq => by cases heq

/-- **The audit rows account for the complaints.** If they do in the beginning, they do in every state of every
run: each complaint was filed once, its flag, its resolution and who resolved it are those of its rows, and
its priority, its officer and its status are unless an update gave others; and no row is about a complaint
that is not there. -/
theorem complaints_accounted (cfg : Config) (d : Db ComplaintRows) (hd : AllAccounted d.logged)
    (s : Db.System ComplaintRows ComplaintAct)
    (hs : Reaches (program cfg) always (Sys.init d) s) : AllAccounted s.store.logged := by
  have hret : ∀ (s : Db.Past ComplaintRows ComplaintAct) (t : ℕ), Consistent s →
      Consistent (s.record t none s.store) := fun s t h =>
    ⟨h.accounted, fun u c hc => h.stays u c ((List.mem_cons.1 hc).resolve_left nofun)⟩
  have hinit : Consistent ⟨d, []⟩ := ⟨hd, fun _ _ hc => absurd hc List.not_mem_nil⟩
  exact (Effects.invariant (program_covers cfg) hret hinit (fun _ _ _ _ h he _ => h.effect he) hs).accounted

/-! ### A large complaint -/

/-- User 7 complains about 6,000,000. -/
def largeComplaint : CreateComplaintInput :=
  { entityType := "invoice", entityId := some 3, subject := "Fees", description := "Charged twice",
    category := .billing, amountInvolved := some 6000000 }

/-- The filing of the complaint, and its resolution by user 9. -/
def fileAndResolve : List (Act Op Input) :=
  Act.call (.fileComplaint 7 largeComplaint {}) 0 (List.replicate 3 { uuid := 1 }) ++
    Act.call (.resolveComplaint 1 "Refunded" 9 {}) 1 (List.replicate 4 ({} : Input))

/-- An escalation of the complaint by user 9, which comes too late. -/
def lateEscalation : List (Act Op Input) :=
  Act.call (.escalateComplaint 1 "Late" 9 {}) 2 (List.replicate 1 ({} : Input))

theorem exists_resolved : ∃ s s' : Db.System ComplaintRows ComplaintAct,
    Reaches (program {}) always (Sys.init ⟨.empty, [], []⟩) s ∧ Reaches (program {}) always s s' ∧
      (∃ c, s.store.rows.get? 1 = some c ∧ c.status = .resolved ∧ c.resolvedBy = some 9) ∧
      (∀ t, waitsOn 1 (own t s.hist) = false) ∧ (own 2 s'.hist).length = 2 := by
  obtain ⟨s, s', hs, hs', hP⟩ := exists_reaches_reaches (program {}) always (Sys.init ⟨.empty, [], []⟩)
    fileAndResolve lateEscalation
    (fun s s' => (s.store.rows.get? 1).any (fun c => c.status = .resolved ∧ c.resolvedBy = some 9) ∧
      (∀ x ∈ s.hist, waitsOn 1 (own x.1 s.hist) = false) ∧ (own 2 s'.hist).length = 2) (by decide +kernel)
  obtain ⟨hrow, hquiet, hlate⟩ := of_decide_eq_true hP
  obtain ⟨c, hc, hresolved⟩ := (Option.any_eq_true _ _).1 hrow
  refine ⟨s, s', hs, hs', ⟨c, hc, of_decide_eq_true hresolved⟩, fun t => ?_, hlate⟩
  by_cases ht : ∃ x ∈ s.hist, x.1 = t
  · obtain ⟨x, hx, rfl⟩ := ht
    exact hquiet x hx
  · rw [own_eq_nil fun x hx heq => ht ⟨x, hx, heq⟩]
    rfl

theorem allAccounted_empty : AllAccounted (Db.logged (⟨.empty, [], []⟩ : Db ComplaintRows)) where
  accounted _ hc := absurd hc List.not_mem_nil
  present _ hk := absurd rfl hk

/-- The large complaint is filed, and then resolved by user 9. -/
theorem complaints_accounted_resolved : ∃ s : Db.System ComplaintRows ComplaintAct,
    (∃ c, s.store.rows.get? 1 = some c ∧ c.status = .resolved ∧ c.resolvedBy = some 9) ∧
      AllAccounted s.store.logged := by
  obtain ⟨s, -, hs, -, hresolved, -, -⟩ := exists_resolved
  exact ⟨s, hresolved, complaints_accounted {} ⟨.empty, [], []⟩ allAccounted_empty s hs⟩

/-! ## Resolved complaints -/

/-- The complaint is as it was, and no call waits that looked at it while it was open. -/
structure Settled (c : Complaint) (s : Db.Past ComplaintRows ComplaintAct) : Prop where
  row : s.store.rows.get? c.id = some c
  quiet : ∀ t, waitsOn c.id (own t s.hist) = false

theorem Settled.record (h : Settled c s) {o : Option (Did ComplaintAct)}
    (hrow : d'.rows.get? c.id = some c) (hquiet : waitsOn c.id (o :: own t s.hist) = false) :
    Settled c (s.record t o d') := by
  refine ⟨hrow, fun u => ?_⟩
  rw [State.record_hist]
  by_cases hu : t = u
  · subst hu
    rw [own_cons_self]
    exact hquiet
  · rw [own_cons_of_ne hu]
    exact h.quiet u

/-- A call that waits has looked at the complaint in its last statement. -/
theorem waitsOn_cons {o : Option (Did ComplaintAct)} {l : Db.Deeds ComplaintAct}
    (h : ∀ x, o = some (.own (.complaintRead (some x))) → x.id = k → ¬x.IsOpen) : waitsOn k (o :: l) = false := by
  unfold waitsOn
  split
  · next x heq =>
    obtain ⟨rfl, -⟩ := List.cons.inj heq
    by_cases hid : x.id = k
    · have hopen := h x rfl hid
      simp [hid, hopen]
    · simp [hid]
  · rfl

/-- No call changes a settled complaint. -/
theorem Settled.row_of_effect (h : Settled c s) {act : ComplaintAct}
    {r : ComplaintRows × List AuditLog} (he : ComplaintEffect (own t s.hist) s.store.logged act r) :
    r.1.get? c.id = some c := by
  cases he with
  | complaintRead id => exact h.row
  | complaintFiled id userId input req now complaints hinsert => exact Table.get?_insert?_of_get? hinsert h.row
  | complaintChanged x change userId req now hread hopen =>
    have hne : c.id ≠ x.id := by
      intro hid
      have hquiet := h.quiet t
      rw [hread] at hquiet
      simp [waitsOn, hid, hopen] at hquiet
    show (s.store.rows.update (fun r => r.id = x.id) (change.apply userId now)
      (change.id_apply userId now)).get? c.id = some c
    rw [Table.get?_update_key_of_ne hne]
    exact h.row

theorem Settled.effect (h : Settled c s) (hclosed : ¬c.IsOpen)
    (he : Db.loggedEffects ComplaintEffect (own t s.hist) s.store e d') : Settled c (s.record t (some e) d') := by
  cases e with
  | own act =>
    refine h.record (h.row_of_effect he) (waitsOn_cons fun x heq hid => ?_)
    obtain rfl := Did.own.inj (Option.some.inj heq)
    have hfound : s.store.rows.get? x.id = some x := get?_of_read he
    rw [hid, h.row] at hfound
    exact Option.some.inj hfound ▸ hclosed
  | audited entry => exact he.1.elim
  | enqueued job =>
    have hrows : d'.rows = s.store.rows := congrArg Prod.fst he.2
    exact h.record (hrows ▸ h.row) (waitsOn_cons fun x heq => by cases heq)
  | read | threw | logged action =>
    have hrows : d'.rows = s.store.rows := congrArg Prod.fst he
    exact h.record (hrows ▸ h.row) (waitsOn_cons fun x heq => by cases heq)

/-- **A resolved complaint stays.** Once a complaint is resolved or closed, and no call is left that has looked
at it while it was open and not yet written, it is the same in every later state. -/
theorem resolved_stays (cfg : Config) (d : Db ComplaintRows)
    (s s' : Db.System ComplaintRows ComplaintAct)
    (hs : Reaches (program cfg) always (Sys.init d) s) (hs' : Reaches (program cfg) always s s')
    (c : Complaint) (hc : s.store.rows.get? c.id = some c) (hclosed : c.status = .resolved ∨ c.status = .closed)
    (hquiet : ∀ t, waitsOn c.id (own t s.hist) = false) : s'.store.rows.get? c.id = some c := by
  have hnot : ¬c.IsOpen := fun hopen => hclosed.elim hopen.1 hopen.2
  have hret : ∀ (s : Db.Past ComplaintRows ComplaintAct) (t : ℕ), Settled c s →
      Settled c (s.record t none s.store) := fun s t h => h.record h.row (waitsOn_cons fun x heq => by cases heq)
  exact (Effects.persists (program_covers cfg) hret (fun _ _ _ _ h he _ => h.effect hnot he) hs ⟨hc, hquiet⟩
    hs').row

/-- The escalation leaves the resolved complaint. -/
theorem resolved_stays_escalation : ∃ s s' : Db.System ComplaintRows ComplaintAct,
    (own 2 s'.hist).length = 2 ∧ ∃ c, c.status = .resolved ∧ s.store.rows.get? c.id = some c ∧
      s'.store.rows.get? c.id = some c := by
  obtain ⟨s, s', hs, hs', ⟨c, hc, hstatus, -⟩, hquiet, hlate⟩ := exists_resolved
  have hid : c.id = 1 := Table.key_of_get? hc
  rw [← hid] at hc hquiet
  exact ⟨s, s', hlate, c, hstatus, hc,
    resolved_stays {} ⟨.empty, [], []⟩ s s' hs hs' c hc (Or.inl hstatus) hquiet⟩

end Runs

end Ris.Complaints
