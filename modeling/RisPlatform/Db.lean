import RisPlatform.Common.Effects
import RisPlatform.Common.Sequential
import RisPlatform.Schema

/-!
# Statements of a service over its own tables

A service that shares no rows with the services of `World` is a system over the tables `R` it reads and
writes, beside the audit rows and the job queues. As there, an awaited database statement, a committed
transaction, a log line and an enqueued job are one atomic statement each, and any of them may fail.

`Did` are the events: what every service does, and the acts `ℓ` of this one. `Db.effects` turns a relation
that says what each act does to the rows into the effects of the statements.
-/

namespace Ris

open Concurrent

variable {R ℓ α : Type}

/-- The rows of a service, the audit rows and the job queues. -/
structure Db (R : Type) where
  rows : R
  auditLogs : List AuditLog := []
  /-- The jobs enqueued so far, oldest first. -/
  jobs : List Job := []

/-- What a statement did. -/
inductive Did (ℓ : Type)
  /-- It read rows. -/
  | read
  /-- It failed; whatever it had written is rolled back. -/
  | threw
  /-- It wrote the log line `action`. -/
  | logged (action : String)
  /-- It put `job` on its queue. -/
  | enqueued (job : Job)
  /-- It wrote an audit row on its own. -/
  | audited (entry : AuditLog)
  /-- An act of the service. -/
  | own (e : ℓ)
  deriving DecidableEq

namespace Db

/-- A transaction of the service. -/
abbrev Tx (R : Type) : Type → Type := Txn Input (Db R) RisError

/-- A call of the service. -/
abbrev Call (R ℓ : Type) : Type → Type := Proc (Db R) Input (Did ℓ) RisError

/-- The service with its calls. -/
abbrev System (R ℓ : Type) : Type := Sys (Db R) Input (Did ℓ) RisError

/-- The rows and what has happened. -/
abbrev Past (R ℓ : Type) : Type := State (Db R) (Did ℓ)

/-- What one call did, newest first. -/
abbrev Deeds (ℓ : Type) : Type := List (Option (Did ℓ))

/-- What all calls did, newest first. -/
abbrev History (ℓ : Type) : Type := List (ℕ × Option (Did ℓ))

/-! ## Inside a transaction -/

/-- `pool.connect`, `BEGIN` and every later point at which the database may refuse to go on. -/
def connect : Tx R Unit := do
  let i ← Txn.input
  match i.fault with
  | some message => Txn.abort (.runtime message)
  | none => pure ()

/-- `uuidv4()`. -/
def uuid : Tx R ℕ := do
  let i ← Txn.input
  return i.uuid

/-- `NOW()`. -/
def now : Tx R ℤ := do
  let i ← Txn.input
  return i.now

/-- Read the rows. -/
def read (f : R → α) : Tx R α := Txn.read fun d => f d.rows

/-- Write the rows. -/
def write (f : R → R) : Tx R Unit := Txn.write fun d => { d with rows := f d.rows }

/-- `INSERT INTO audit_logs`. -/
def createAuditEntry (entry : AuditLog) : Tx R Unit :=
  Txn.write fun d => { d with auditLogs := d.auditLogs ++ [entry] }

section Commit

variable {i : Input} {d d' : Db R} {u : Unit}

@[simp] theorem connect_ok : (connect : Tx R Unit) i d = .ok (u, d') ↔ i.fault = none ∧ d = d' := by
  unfold connect
  cases hf : i.fault <;> simp [hf]

@[simp] theorem uuid_ok {n : ℕ} : (uuid : Tx R ℕ) i d = .ok (n, d') ↔ i.uuid = n ∧ d = d' := by
  simp [uuid, and_comm]

@[simp] theorem now_ok {t : ℤ} : (now : Tx R ℤ) i d = .ok (t, d') ↔ i.now = t ∧ d = d' := by
  simp [now, and_comm]

@[simp] theorem read_ok {f : R → α} {a : α} : read f i d = .ok (a, d') ↔ f d.rows = a ∧ d = d' := by
  simp [read]

@[simp] theorem write_ok {f : R → R} :
    write f i d = .ok (u, d') ↔ { d with rows := f d.rows } = d' := by
  simp [write]

@[simp] theorem createAuditEntry_ok {entry : AuditLog} :
    createAuditEntry entry i d = .ok (u, d') ↔
      { d with auditLogs := d.auditLogs ++ [entry] } = d' := by
  simp [createAuditEntry]

end Commit

/-! ## Statements -/

/-- A `SELECT` outside a transaction. -/
def query (f : R → α) : Call R ℓ α :=
  .transaction (do connect; read f) (fun _ => .read) fun _ => .threw

/-- A `SELECT` that compares with `NOW()`. -/
def queryAt (f : ℤ → R → α) : Call R ℓ α :=
  .transaction (do connect; let t ← now; read (f t)) (fun _ => .read) fun _ => .threw

/-- A `SELECT` whose outcome is an act of the service. -/
def see (f : R → α) (seen : α → ℓ) : Call R ℓ α :=
  .transaction (do connect; read f) (fun a => .own (seen a)) fun _ => .threw

/-- One statement that writes, or `BEGIN`, the body and `COMMIT`, with `ROLLBACK` when one of them
fails. -/
def transaction (body : Tx R α) (committed : α → ℓ) : Call R ℓ α :=
  .transaction (do connect; body) (fun a => .own (committed a)) fun _ => .threw

/-- An audit row that is written on its own. -/
def audit (entry : AuditLog) : Call R ℓ Unit :=
  .transaction (do connect; createAuditEntry entry) (fun _ => .audited entry) fun _ => .threw

/-- `logger.audit`, `logger.warn`, `logger.error`. -/
def log (action : String) : Call R ℓ Unit :=
  .transaction connect (fun _ => .logged action) fun _ => .threw

/-- `enqueueWithContext`. -/
def enqueue (job : Job) : Call R ℓ Unit :=
  .transaction (do connect; Txn.write fun d => { d with jobs := d.jobs ++ [job] })
    (fun _ => .enqueued job) fun _ => .threw

/-- Enqueue a job whose payload has an id of its own. -/
def enqueueNew (job : ℕ → Job) : Call R ℓ Unit :=
  Proc.discard <| .transaction
    (do
      connect
      let id ← uuid
      Txn.write fun d => { d with jobs := d.jobs ++ [job id] }
      return job id)
    .enqueued fun _ => .threw

/-- Enqueue on a queue that may not have been set; then only a warning is logged. -/
def enqueueOrWarn (cfg : Config) (job : Job) (warning : String) : Call R ℓ Unit :=
  if job.queue ∈ cfg.queues then enqueue job else log warning

/-! ## Effects -/

/-- What the acts of a service do to its rows, given what the call did before. -/
abbrev Acts (R ℓ : Type) : Type := List (Option (Did ℓ)) → R → ℓ → R → Prop

/-- An act does what `S` says, and anything else leaves the rows alone. -/
def effects (S : Acts R ℓ) : Effects (Db R) (Did ℓ)
  | l, d, .own e, d' => S l d.rows e d'.rows
  | _, d, _, d' => d'.rows = d.rows

section Does

variable {S : Acts R ℓ} {Q : α → List (Option (Did ℓ)) → Prop} {l : List (Option (Did ℓ))}

theorem does_query (f : R → α) : (query f).Does (effects S) (fun _ _ => True) l := by
  refine Proc.does_transaction ?_ fun _ _ _ _ => rfl
  intro i d a d' h
  simp only [Txn.bind_ok, connect_ok, read_ok] at h
  obtain ⟨_, _, ⟨-, rfl⟩, -, rfl⟩ := h
  exact ⟨rfl, trivial⟩

/-- What was seen is an act that leaves the rows. -/
theorem does_see {f : R → α} {seen : α → ℓ}
    (h : ∀ rows, S l rows (seen (f rows)) rows ∧ Q (f rows) (some (.own (seen (f rows))) :: l)) :
    (see f seen).Does (effects S) Q l := by
  refine Proc.does_transaction ?_ fun _ _ _ _ => rfl
  intro i d a d' hok
  simp only [Txn.bind_ok, connect_ok, read_ok] at hok
  obtain ⟨_, _, ⟨-, rfl⟩, rfl, rfl⟩ := hok
  exact h d.rows

theorem does_commit {body : Tx R α} {committed : α → ℓ}
    (h : ∀ i d a d', body i d = .ok (a, d') →
      S l d.rows (committed a) d'.rows ∧ Q a (some (.own (committed a)) :: l)) :
    (transaction body committed).Does (effects S) Q l := by
  refine Proc.does_transaction ?_ fun _ _ _ _ => rfl
  intro i d a d' hok
  simp only [Txn.bind_ok, connect_ok] at hok
  obtain ⟨_, _, ⟨-, rfl⟩, hbody⟩ := hok
  exact h i d a d' hbody

theorem does_audit (entry : AuditLog) :
    (audit entry : Call R ℓ Unit).Does (effects S) (fun _ _ => True) l := by
  refine Proc.does_transaction ?_ fun _ _ _ _ => rfl
  intro i d a d' h
  simp only [Txn.bind_ok, connect_ok, createAuditEntry_ok] at h
  obtain ⟨_, _, ⟨-, rfl⟩, rfl⟩ := h
  exact ⟨rfl, trivial⟩

theorem does_log (action : String) :
    (log action : Call R ℓ Unit).Does (effects S) (fun _ _ => True) l := by
  refine Proc.does_transaction ?_ fun _ _ _ _ => rfl
  intro i d a d' h
  obtain ⟨-, rfl⟩ := connect_ok.1 h
  exact ⟨rfl, trivial⟩

theorem does_enqueue (job : Job) :
    (enqueue job : Call R ℓ Unit).Does (effects S) (fun _ _ => True) l := by
  refine Proc.does_transaction ?_ fun _ _ _ _ => rfl
  intro i d a d' h
  simp only [Txn.bind_ok, connect_ok, Txn.write_ok] at h
  obtain ⟨_, _, ⟨-, rfl⟩, rfl⟩ := h
  exact ⟨rfl, trivial⟩

theorem does_enqueueNew (job : ℕ → Job) :
    (enqueueNew job : Call R ℓ Unit).Does (effects S) (fun _ _ => True) l := by
  refine Proc.Does.discard (Proc.does_transaction ?_ fun _ _ _ _ => rfl)
  intro i d a d' h
  simp only [Txn.bind_ok, connect_ok, uuid_ok, Txn.write_ok, Txn.pure_ok] at h
  obtain ⟨_, _, ⟨-, rfl⟩, _, _, ⟨-, rfl⟩, _, _, rfl, -, rfl⟩ := h
  exact ⟨rfl, trivial⟩

theorem does_enqueueOrWarn (cfg : Config) (job : Job) (warning : String) :
    (enqueueOrWarn cfg job warning : Call R ℓ Unit).Does (effects S) (fun _ _ => True) l := by
  unfold enqueueOrWarn
  split
  · exact does_enqueue job
  · exact does_log warning

end Does

/-! ## Effects with the audit rows -/

/-- What the acts of a service do to its rows and to the audit rows. -/
abbrev LoggedActs (R ℓ : Type) : Type :=
  List (Option (Did ℓ)) → R × List AuditLog → ℓ → R × List AuditLog → Prop

/-- The rows and the audit rows. -/
def logged (d : Db R) : R × List AuditLog := (d.rows, d.auditLogs)

/-- An act does what `S` says, and anything else leaves the rows and the audit rows alone. `audits` says which audit
rows the service may write on their own, and `jobs` which jobs a call may enqueue. -/
def emittingEffects (S : LoggedActs R ℓ) (audits : AuditLog → Prop)
    (jobs : List (Option (Did ℓ)) → Job → Prop) : Effects (Db R) (Did ℓ)
  | l, d, .own e, d' => S l d.logged e d'.logged
  | _, d, .audited entry, d' => audits entry ∧ d'.logged = (d.rows, d.auditLogs ++ [entry])
  | l, d, .enqueued job, d' => jobs l job ∧ d'.logged = d.logged
  | _, d, _, d' => d'.logged = d.logged

/-- The service writes no audit row but in its acts. -/
abbrev loggedEffects (S : LoggedActs R ℓ) : Effects (Db R) (Did ℓ) :=
  emittingEffects S (fun _ => False) fun _ _ => True

section LoggedDoes

variable {S : LoggedActs R ℓ} {audits : AuditLog → Prop} {jobs : List (Option (Did ℓ)) → Job → Prop}
  {Q : α → List (Option (Did ℓ)) → Prop} {l : List (Option (Did ℓ))}

theorem logged_query (f : R → α) : (query f).Does (emittingEffects S audits jobs) (fun _ _ => True) l := by
  refine Proc.does_transaction ?_ fun _ _ _ _ => rfl
  intro i d a d' h
  simp only [Txn.bind_ok, connect_ok, read_ok] at h
  obtain ⟨_, _, ⟨-, rfl⟩, -, rfl⟩ := h
  exact ⟨rfl, trivial⟩

theorem logged_queryAt (f : ℤ → R → α) :
    (queryAt f).Does (emittingEffects S audits jobs) (fun _ _ => True) l := by
  refine Proc.does_transaction ?_ fun _ _ _ _ => rfl
  intro i d a d' h
  simp only [Txn.bind_ok, connect_ok, now_ok, read_ok] at h
  obtain ⟨_, _, ⟨-, rfl⟩, _, _, ⟨-, rfl⟩, -, rfl⟩ := h
  exact ⟨rfl, trivial⟩

theorem logged_see {f : R → α} {seen : α → ℓ}
    (h : ∀ rows logs, S l (rows, logs) (seen (f rows)) (rows, logs) ∧
      Q (f rows) (some (.own (seen (f rows))) :: l)) :
    (see f seen).Does (emittingEffects S audits jobs) Q l := by
  refine Proc.does_transaction ?_ fun _ _ _ _ => rfl
  intro i d a d' hok
  simp only [Txn.bind_ok, connect_ok, read_ok] at hok
  obtain ⟨_, _, ⟨-, rfl⟩, rfl, rfl⟩ := hok
  exact h d.rows d.auditLogs

theorem logged_commit {body : Tx R α} {committed : α → ℓ}
    (h : ∀ i d a d', body i d = .ok (a, d') →
      S l d.logged (committed a) d'.logged ∧ Q a (some (.own (committed a)) :: l)) :
    (transaction body committed).Does (emittingEffects S audits jobs) Q l := by
  refine Proc.does_transaction ?_ fun _ _ _ _ => rfl
  intro i d a d' hok
  simp only [Txn.bind_ok, connect_ok] at hok
  obtain ⟨_, _, ⟨-, rfl⟩, hbody⟩ := hok
  exact h i d a d' hbody

theorem logged_log (action : String) :
    (log action : Call R ℓ Unit).Does (emittingEffects S audits jobs) (fun _ _ => True) l := by
  refine Proc.does_transaction ?_ fun _ _ _ _ => rfl
  intro i d a d' h
  obtain ⟨-, rfl⟩ := connect_ok.1 h
  exact ⟨rfl, trivial⟩

theorem logged_audit {entry : AuditLog} (h : audits entry) :
    (audit entry : Call R ℓ Unit).Does (emittingEffects S audits jobs) (fun _ _ => True) l := by
  refine Proc.does_transaction ?_ fun _ _ _ _ => rfl
  intro i d a d' hok
  simp only [Txn.bind_ok, connect_ok, createAuditEntry_ok] at hok
  obtain ⟨_, _, ⟨-, rfl⟩, rfl⟩ := hok
  exact ⟨⟨h, rfl⟩, trivial⟩

theorem logged_enqueue {job : Job} (h : jobs l job) :
    (enqueue job : Call R ℓ Unit).Does (emittingEffects S audits jobs) (fun _ _ => True) l := by
  refine Proc.does_transaction ?_ fun _ _ _ _ => rfl
  intro i d a d' hok
  simp only [Txn.bind_ok, connect_ok, Txn.write_ok] at hok
  obtain ⟨_, _, ⟨-, rfl⟩, rfl⟩ := hok
  exact ⟨⟨h, rfl⟩, trivial⟩

theorem logged_enqueueNew {job : ℕ → Job} (h : ∀ id, jobs l (job id)) :
    (enqueueNew job : Call R ℓ Unit).Does (emittingEffects S audits jobs) (fun _ _ => True) l := by
  refine Proc.Does.discard (Proc.does_transaction ?_ fun _ _ _ _ => rfl)
  intro i d a d' hok
  simp only [Txn.bind_ok, connect_ok, uuid_ok, Txn.write_ok, Txn.pure_ok] at hok
  obtain ⟨_, _, ⟨-, rfl⟩, id, _, ⟨-, rfl⟩, _, _, rfl, rfl, rfl⟩ := hok
  exact ⟨⟨h id, rfl⟩, trivial⟩

theorem logged_enqueueOrWarn (cfg : Config) {job : Job} (warning : String) (h : jobs l job) :
    (enqueueOrWarn cfg job warning : Call R ℓ Unit).Does (emittingEffects S audits jobs) (fun _ _ => True) l := by
  unfold enqueueOrWarn
  split
  · exact logged_enqueue h
  · exact logged_log warning

end LoggedDoes

/-! ## Calls that run alone -/

section Alone

variable {ins : ℕ → Input} {n : ℕ} {d d' : Db R} {a : α}

/-- A transaction fails as a whole, or its body decides. -/
theorem connected (body : Tx R α) (i : Input) (d : Db R) :
    (do connect; body) i d =
      match i.fault with
      | some message => .error (.runtime message)
      | none => body i d := by
  unfold connect
  cases hf : i.fault <;> simp [hf, Txn.input, Txn.abort, bind, pure]

theorem play_query (hn : (ins n).fault = none) (f : R → α) :
    (query f : Call R ℓ α).play ins n d = (.ok (f d.rows), d, n + 1) := by
  refine Proc.play_transaction_ok ?_
  rw [connected, hn]
  rfl

theorem play_see (hn : (ins n).fault = none) (f : R → α) (seen : α → ℓ) :
    (see f seen).play ins n d = (.ok (f d.rows), d, n + 1) := by
  refine Proc.play_transaction_ok ?_
  rw [connected, hn]
  rfl

theorem play_transaction (hn : (ins n).fault = none) {body : Tx R α} {committed : α → ℓ}
    (h : body (ins n) d = .ok (a, d')) :
    (transaction body committed).play ins n d = (.ok a, d', n + 1) := by
  refine Proc.play_transaction_ok ?_
  rw [connected, hn]
  exact h

theorem play_log (hn : (ins n).fault = none) (action : String) :
    (log action : Call R ℓ Unit).play ins n d = (.ok (), d, n + 1) :=
  Proc.play_transaction_ok (connect_ok.2 ⟨hn, rfl⟩)

/-- The rows stay as they are, whatever inputs are drawn. -/
def Idle (p : Call R ℓ α) : Prop :=
  ∀ d, p.Ends (fun _ => True) (fun _ d' => d'.rows = d.rows) (fun _ d' => d'.rows = d.rows) d

theorem Idle.play {p : Call R ℓ α} (h : Idle p) : (p.play ins n d).2.1.rows = d.rows := by
  have hends : (Proc.done (p.play ins n d).1 : Call R ℓ α).Ends (fun _ => True) _ _ _ := (h d).play
  cases hr : (p.play ins n d).1 with
  | ok a =>
    rw [hr] at hends
    exact hends
  | error e =>
    rw [hr] at hends
    exact hends

theorem idle_pure (a : α) : Idle (pure a : Call R ℓ α) := fun _ => Proc.ends_pure rfl

theorem idle_throw (e : RisError) : Idle (throw e : Call R ℓ α) := fun _ => Proc.ends_throw rfl

theorem Idle.bind {β : Type} {p : Call R ℓ α} {f : α → Call R ℓ β} (hp : Idle p) (hf : ∀ a, Idle (f a)) :
    Idle (p >>= f) :=
  fun d => (hp d).bind fun a d' hd' => (hf a d').mono (fun _ _ h => h.trans hd') fun _ _ h => h.trans hd'

theorem idle_audit (entry : AuditLog) : Idle (audit entry : Call R ℓ Unit) := by
  refine fun d => Proc.ends_transaction ?_ fun _ _ _ _ => rfl
  intro i a d' _ h
  simp only [Txn.bind_ok, connect_ok, createAuditEntry_ok] at h
  obtain ⟨_, _, ⟨-, rfl⟩, rfl⟩ := h
  rfl

theorem idle_log (action : String) : Idle (log action : Call R ℓ Unit) := by
  refine fun d => Proc.ends_transaction ?_ fun _ _ _ _ => rfl
  intro i a d' _ h
  obtain ⟨-, rfl⟩ := connect_ok.1 h
  rfl

theorem idle_enqueueOrWarn (cfg : Config) (job : Job) (warning : String) :
    Idle (enqueueOrWarn cfg job warning : Call R ℓ Unit) := by
  unfold enqueueOrWarn
  split
  · refine fun d => Proc.ends_transaction ?_ fun _ _ _ _ => rfl
    intro i a d' _ h
    simp only [Txn.bind_ok, connect_ok, Txn.write_ok] at h
    obtain ⟨_, _, ⟨-, rfl⟩, rfl⟩ := h
    rfl
  · exact idle_log warning

/-- What follows a call may be left out, if it leaves the rows. -/
theorem play_bind_idle {β : Type} {p : Call R ℓ α} {f : α → Call R ℓ β} (hf : ∀ a, Idle (f a)) :
    ((p >>= f).play ins n d).2.1.rows = (p.play ins n d).2.1.rows := by
  rcases hr : p.play ins n d with ⟨r, d', n'⟩
  cases r with
  | ok a =>
    rw [Proc.play_bind_ok hr]
    exact (hf a).play
  | error e => rw [Proc.play_bind_error hr]

/-- A statement that fails ends the call and leaves the store. -/
theorem play_fault {β : Type} (hn : (ins n).fault ≠ none) {body : Tx R α} {committed : α → Did ℓ}
    {failed : RisError → Did ℓ} {f : α → Call R ℓ β} :
    ∃ e, (Proc.transaction (do connect; body) committed failed >>= f).play ins n d = (.error e, d, n + 1) := by
  obtain ⟨message, hm⟩ := Option.ne_none_iff_exists'.1 hn
  refine ⟨.runtime message, Proc.play_bind_error (Proc.play_transaction_error ?_)⟩
  rw [connected, hm]

/-- So does a transaction whose body fails. -/
theorem play_abort {β : Type} {body : Tx R α} {e : RisError} (h : body (ins n) d = .error e)
    {committed : α → ℓ} {f : α → Call R ℓ β} :
    ∃ e, (transaction body committed >>= f).play ins n d = (.error e, d, n + 1) := by
  by_cases hn : (ins n).fault = none
  · refine ⟨e, Proc.play_bind_error (Proc.play_transaction_error ?_)⟩
    rw [connected, hn]
    exact h
  · exact play_fault hn

theorem store_of_fault {β : Type} (hn : (ins n).fault ≠ none) {body : Tx R α} {committed : α → Did ℓ}
    {failed : RisError → Did ℓ} {f : α → Call R ℓ β} :
    ((Proc.transaction (do connect; body) committed failed >>= f).play ins n d).2.1 = d := by
  obtain ⟨e, he⟩ := play_fault hn
  rw [he]

theorem store_of_abort {β : Type} {body : Tx R α} {e : RisError} (h : body (ins n) d = .error e)
    {committed : α → ℓ} {f : α → Call R ℓ β} :
    ((transaction body committed >>= f).play ins n d).2.1 = d := by
  obtain ⟨e', he'⟩ := play_abort h
  rw [he']

theorem play_log_fault (hn : (ins n).fault ≠ none) (action : String) :
    ∃ e n', (log action : Call R ℓ Unit).play ins n d = (.error e, d, n') := by
  obtain ⟨message, hm⟩ := Option.ne_none_iff_exists'.1 hn
  refine ⟨.runtime message, n + 1, Proc.play_transaction_error ?_⟩
  simp [connect, Txn.input, Txn.abort, bind, hm]

end Alone

end Db

end Ris
