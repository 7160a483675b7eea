import Mathlib.Data.Prod.Lex
import RisPlatform.Backend.Core
import RisPlatform.Common.HashChain

/-!
# The audit log of the backend

`AuditLog` of the backend's app `audit`: the row, and the text that is hashed for it. SHA-256 is a
parameter, from the text to the hexadecimal digits of its hash. The payload is written as `json.dumps`
writes it, with its keys sorted.

`record_audit_event` is a transaction of two statements: a `SELECT ... FOR UPDATE` of the last row, and the
`INSERT`. Calls interleave at these. The lock is on the row that was selected: who finds it locked waits,
and reads that row again when the lock is free. What a call inserts is seen by others when it commits,
which is the same step here. The clock and the random identifier are inputs of the step.
-/

namespace Ris.Backend.Audit

/-! ## Payloads -/

/-- What is no printable character of ASCII is escaped, by its surrogates if it has two. -/
def escape (c : Char) : Text :=
  if c = '"' then "\\\"".toList
  else if c = '\\' then "\\\\".toList
  else if c = '\n' then "\\n".toList
  else if c = '\r' then "\\r".toList
  else if c = '\t' then "\\t".toList
  else if c.toNat = 8 then "\\b".toList
  else if c.toNat = 12 then "\\f".toList
  else if 32 ≤ c.toNat ∧ c.toNat ≤ 126 then [c]
  else if c.toNat < 0x10000 then '\\' :: 'u' :: hexDigits 4 c.toNat
  else '\\' :: 'u' :: hexDigits 4 (0xD800 + (c.toNat - 0x10000) / 1024) ++
    '\\' :: 'u' :: hexDigits 4 (0xDC00 + (c.toNat - 0x10000) % 1024)

def quote (s : Text) : Text := '"' :: s.flatMap escape ++ ['"']

/-- `json.dumps` with sorted keys and without blanks. -/
def dumps : Json → Text
  | .null => "null".toList
  | .bool true => "true".toList
  | .bool false => "false".toList
  | .int n => (toString n).toList
  | .float repr => repr
  | .str s => quote s
  | .arr items => '[' :: [','].intercalate (dumpsItems items) ++ [']']
  | .obj fields =>
    '{' :: [','].intercalate (((dumpsFields fields).insertionSort fun a b => a.1 ≤ b.1).map fun field =>
      quote field.1 ++ ':' :: field.2) ++ ['}']
where
  dumpsItems : List Json → List Text
    | [] => []
    | item :: items => dumps item :: dumpsItems items
  dumpsFields : List (Text × Json) → List (Text × Text)
    | [] => []
    | (key, value) :: fields => (key, dumps value) :: dumpsFields fields

/-! ## The row -/

def GENESIS_HASH : Text := List.replicate 64 '0'

structure AuditLog where
  id : ℕ
  actor : Option ℕ
  actorEmail : Text
  actorRole : Text
  action : Text
  resourceType : Text
  resourceId : Text
  payload : Json
  ipAddress : Option Text
  timestamp : DateTime
  previousHash : Text
  hash : Text
  isGenesis : Bool

/-- The text of the block: of the row's fields, the actor, the role, the address and the mark of the first
are not in it. -/
def AuditLog.rawString (entry : AuditLog) : Text :=
  entry.previousHash ++ ':' :: (entry.timestamp.isoformat ++ ':' :: (entry.actorEmail ++ ':' ::
    (entry.action ++ ':' :: (entry.resourceType ++ ':' :: (entry.resourceId ++ ':' :: dumps entry.payload)))))

def AuditLog.calculateHash (sha256 : Text → Text) (entry : AuditLog) : Text := sha256 entry.rawString

/-- Identifiers are compared as the numbers of their 128 bits. -/
def AuditLog.key (entry : AuditLog) : ℕ ×ₗ ℕ := toLex (entry.timestamp.rank, entry.id)

/-- The rows as a chain of hashes. -/
def auditChain (sha256 : Text → Text) : HashChain AuditLog (ℕ ×ₗ ℕ) Text where
  key := AuditLog.key
  previous := AuditLog.previousHash
  hash := AuditLog.hash
  digest := AuditLog.calculateHash sha256
  genesis := GENESIS_HASH

/-- Hashes are written in hexadecimal digits, and no text is known whose hash has none but zeros. -/
structure Digest (sha256 : Text → Text) : Prop where
  colon_not_mem : ∀ text, ':' ∉ sha256 text
  ne_genesis : ∀ text, sha256 text ≠ GENESIS_HASH

/-! ## verify_audit_chain -/

/-- The blocks from the one with the index `idx` on. -/
def checkEntries (sha256 : Text → Text) : Text → ℕ → List AuditLog → Bool × ℕ × Text
  | _, idx, [] =>
    (true, idx, "Cryptographic audit chain verified across ".toList ++ Nat.toDigits 10 idx ++
      " immutable blocks. 100% integrity intact.".toList)
  | expectedPrevHash, idx, entry :: entries =>
    if entry.previousHash ≠ expectedPrevHash then
      (false, idx, "Hash pointer broken at block ".toList ++ Nat.toDigits 10 idx ++ " (ID: ".toList ++
        uuid entry.id ++ "). Expected prev ".toList ++ expectedPrevHash ++ ", got ".toList ++
        entry.previousHash ++ ['.'])
    else if entry.hash ≠ entry.calculateHash sha256 then
      (false, idx, "Tamper detected at block ".toList ++ Nat.toDigits 10 idx ++ " (ID: ".toList ++
        uuid entry.id ++ "). Recorded hash ".toList ++ entry.hash ++
        " does not match computed hash ".toList ++ entry.calculateHash sha256 ++ ['.'])
    else checkEntries sha256 entry.hash (idx + 1) entries
where
  uuid (id : ℕ) : Text :=
    let hex := hexDigits 32 id
    hex.take 8 ++ '-' :: (hex.drop 8).take 4 ++ '-' :: (hex.drop 12).take 4 ++
      '-' :: (hex.drop 16).take 4 ++ '-' :: hex.drop 20

def verifyAuditChain (sha256 : Text → Text) (rows : List AuditLog) : Bool × ℕ × Text :=
  match (auditChain sha256).ordered rows with
  | [] => (true, 0, "Audit ledger is currently empty (0 blocks).".toList)
  | entry :: entries => checkEntries sha256 GENESIS_HASH 0 (entry :: entries)

variable {sha256 : Text → Text}

theorem checkEntries_iff {p : Text} {idx : ℕ} {es : List AuditLog} :
    (checkEntries sha256 p idx es).1 = true ↔ (auditChain sha256).Valid p es := by
  induction es generalizing p idx with
  | nil => exact ⟨fun _ => trivial, fun _ => rfl⟩
  | cons entry es ih =>
    rw [checkEntries]
    split
    · next hprev => exact ⟨fun h => absurd h Bool.false_ne_true, fun h => absurd h.1 hprev⟩
    split
    · next hhash => exact ⟨fun h => absurd h Bool.false_ne_true, fun h => absurd h.2.1 hhash⟩
    · next hprev hhash =>
      rw [ih]
      exact ⟨fun h => ⟨not_not.1 hprev, not_not.1 hhash, h⟩, fun h => h.2.2⟩

/-- The verifier accepts the valid chains. -/
theorem verify_iff {rows : List AuditLog} : (verifyAuditChain sha256 rows).1 = true ↔
    (auditChain sha256).Valid GENESIS_HASH ((auditChain sha256).ordered rows) := by
  rw [verifyAuditChain]
  split
  · next h => exact ⟨fun _ => h ▸ trivial, fun _ => rfl⟩
  · next h => rw [h, checkEntries_iff]

/-! ## record_audit_event -/

/-- The attributes that the actor has. -/
structure Actor where
  id : Option ℕ
  email : Option Text
  role : Option Text

structure Event where
  action : Text
  resourceType : Text
  resourceId : Text
  actor : Option Actor := none
  payload : Option Json := none
  ipAddress : Option Text := none

/-- `order_by('-timestamp', '-id').first()` -/
def lastEntry (rows : List AuditLog) : Option AuditLog :=
  (rows.insertionSort fun a b => b.key ≤ a.key).head?

def newEntry (sha256 : Text → Text) (event : Event) (last : Option AuditLog) (now : DateTime) (id : ℕ) :
    AuditLog :=
  let entry : AuditLog :=
    { id
      actor := event.actor.bind Actor.id
      actorEmail := (event.actor.bind Actor.email).getD "system".toList
      actorRole := (event.actor.bind Actor.role).getD "system".toList
      action := event.action
      resourceType := event.resourceType
      resourceId := event.resourceId
      payload := event.payload.getD (.obj [])
      ipAddress := event.ipAddress
      timestamp := now
      previousHash := match last with
        | some last => last.hash
        | none => GENESIS_HASH
      hash := []
      isGenesis := last.isNone }
  { entry with hash := entry.calculateHash sha256 }

/-- Where a call stands: before its `SELECT`, waiting for the lock of the row it found, with the row it has
locked (or none), or committed or rolled back. -/
inductive Phase where
  | begun
  | waiting (last : AuditLog)
  | chosen (last : Option AuditLog)
  | ended

structure Call where
  event : Event
  phase : Phase := .begun

structure State where
  rows : List AuditLog
  calls : List Call

def Phase.holds (id : ℕ) : Phase → Bool
  | .chosen (some last) => last.id == id
  | _ => false

/-- A call that has not ended holds the lock of the row. -/
def State.locked (s : State) (id : ℕ) : Bool := s.calls.any fun call => call.phase.holds id

def State.setPhase (s : State) (t : ℕ) (call : Call) (phase : Phase) : State :=
  { s with calls := s.calls.set t { call with phase } }

inductive Action where
  | select
  | grant
  | save (now : DateTime) (id : ℕ)
  | fail

/-- The constraints of the primary key and of the column `hash`. -/
def conflicts (rows : List AuditLog) (entry : AuditLog) : Bool :=
  rows.any fun row => row.id == entry.id || row.hash == entry.hash

/-- One step of the call `t`. -/
def step (sha256 : Text → Text) (s : State) (t : ℕ) (action : Action) : Option State :=
  match s.calls[t]? with
  | none => none
  | some call =>
    match call.phase, action with
    | .begun, .select =>
      match lastEntry s.rows with
      | none => some (s.setPhase t call (.chosen none))
      | some last =>
        some (s.setPhase t call (if s.locked last.id then .waiting last else .chosen (some last)))
    | .waiting last, .grant =>
      if s.locked last.id then none
      else some (s.setPhase t call (.chosen (s.rows.find? fun row => row.id == last.id)))
    | .chosen last, .save now id =>
      let entry := newEntry sha256 call.event last now id
      if conflicts s.rows entry then none
      else some { s.setPhase t call .ended with rows := s.rows ++ [entry] }
    | .ended, _ => none
    | _, .fail => some (s.setPhase t call .ended)
    | _, _ => none

/-- A run: which call moves, and how. -/
def run (sha256 : Text → Text) : State → List (ℕ × Action) → Option State
  | s, [] => some s
  | s, (t, action) :: actions => (step sha256 s t action).bind fun s' => run sha256 s' actions

/-- An empty log, and the calls that there are. -/
def init (events : List Event) : State := ⟨[], events.map fun event => { event }⟩

end Ris.Backend.Audit
