import RisPlatform.Collections.Documents
import RisPlatform.Collections.Job

/-!
# Escalation by a user and by the job

The job sets the level of the days overdue with one `UPDATE`, a user adds one to the level with another.
Both make the status `escalated` and flag large invoices at level 3, but only the job's statement has the
column `demand_notice_sent`. The draft of the job's level is never stored.
-/

namespace Ris.Collections

open Relational Concurrent

/-! ## The escalations -/

/-- `processEscalation`, with the draft of the new level. -/
def Documents.processEscalation (cfg : Config) (invoiceId : ℕ) (daysOverdue : ℤ) : Call Unit :=
  processEscalationWith (Documents.autoGenerateDraft cfg) cfg invoiceId daysOverdue

/-- A user escalates the collection, once for each request: who asks, and why. -/
def escalateManually (cfg : Config) (collectionId : ℕ) (requests : List (ℕ × String)) : Call Unit :=
  requests.forM fun request => escalateCollection cfg collectionId request.1 request.2

/-! ## The flags -/

/-- The columns of a collection that an escalation is about. -/
structure EscalationFlags where
  escalationLevel : ℤ
  status : CollectionStatus
  demandNoticeSent : Bool
  sarFlagged : Bool
  deriving DecidableEq

def escalationFlags (c : Collection) : EscalationFlags where
  escalationLevel := c.escalationLevel
  status := c.status
  demandNoticeSent := c.demandNoticeSent
  sarFlagged := c.sarFlagged

/-- What one request of a user makes of the flags, on an invoice of that face value. -/
def EscalationFlags.manual (cfg : Config) (faceValue : ℤ) (f : EscalationFlags) : EscalationFlags where
  escalationLevel := min (f.escalationLevel + 1) 3
  status := if 0 < min (f.escalationLevel + 1) 3 then .escalated else f.status
  demandNoticeSent := f.demandNoticeSent
  sarFlagged := f.sarFlagged || checkSarFlag cfg (min (f.escalationLevel + 1) 3) faceValue

/-- What the job makes of the flags. -/
def EscalationFlags.scheduled (cfg : Config) (faceValue level : ℤ) (f : EscalationFlags) :
    EscalationFlags where
  escalationLevel := level
  status := .escalated
  demandNoticeSent := f.demandNoticeSent || decide (2 ≤ level)
  sarFlagged := f.sarFlagged || checkSarFlag cfg level faceValue

section Flags

variable {cfg : Config} {faceValue level : ℤ} {f : EscalationFlags}

theorem checkSarFlag_of_lt (h : level < 3) : checkSarFlag cfg level faceValue = false :=
  decide_eq_false fun hsar => absurd hsar.1 (not_le.2 h)

/-- Below level 3 a request adds one. -/
theorem EscalationFlags.manual_of_lt (h : 0 ≤ f.escalationLevel) (hlt : f.escalationLevel < 3) :
    f.manual cfg faceValue =
      { f with
        escalationLevel := f.escalationLevel + 1
        status := .escalated
        sarFlagged := f.sarFlagged || checkSarFlag cfg (f.escalationLevel + 1) faceValue } := by
  have hmin : min (f.escalationLevel + 1) 3 = f.escalationLevel + 1 := min_eq_left (by omega)
  have hpos : 0 < f.escalationLevel + 1 := by omega
  rw [EscalationFlags.manual, hmin, if_pos hpos]

/-- The flags after so many requests, up to level 3. -/
theorem EscalationFlags.manual_iterate (n : ℕ) (h : 0 ≤ f.escalationLevel)
    (hn : f.escalationLevel + (n + 1 : ℕ) ≤ 3) :
    (EscalationFlags.manual cfg faceValue)^[n + 1] f =
      { f with
        escalationLevel := f.escalationLevel + (n + 1 : ℕ)
        status := .escalated
        sarFlagged := f.sarFlagged || checkSarFlag cfg (f.escalationLevel + (n + 1 : ℕ)) faceValue } := by
  induction n with
  | zero =>
    have hlt : f.escalationLevel < 3 := by omega
    exact EscalationFlags.manual_of_lt h hlt
  | succ n ih =>
    -- the flag is not raised before the last request
    have hlow : f.escalationLevel + (n + 1 : ℕ) < 3 := by omega
    have hsum : f.escalationLevel + (n + 1 : ℕ) + 1 = f.escalationLevel + (n + 1 + 1 : ℕ) := by omega
    rw [Function.iterate_succ_apply', ih (by omega), checkSarFlag_of_lt hlow, Bool.or_false,
      EscalationFlags.manual_of_lt (by dsimp only; omega) hlow]
    simp only [hsum]

/-- The requests leave what the job leaves, but for the notice that only the job records. -/
theorem EscalationFlags.manual_eq_scheduled_iff {n : ℕ} (h : 0 ≤ f.escalationLevel)
    (hlevel : level = f.escalationLevel + (n + 1 : ℕ)) (hle : level ≤ 3) :
    (EscalationFlags.manual cfg faceValue)^[n + 1] f = f.scheduled cfg faceValue level ↔
      level = 1 ∨ f.demandNoticeSent = true := by
  subst hlevel
  rw [EscalationFlags.manual_iterate n h hle, EscalationFlags.scheduled, EscalationFlags.mk.injEq]
  simp only [true_and, and_true]
  cases f.demandNoticeSent with
  | true => simp
  | false =>
    simp only [Bool.false_or, Bool.false_eq_true, or_false]
    rw [eq_comm, decide_eq_false_iff_not]
    omega

end Flags

/-! ## The calls on the flags -/

/-- The collection has a row with these flags; the invoices and the documents are those of `w₀`. -/
structure HasFlags (w₀ : World) (collectionId invoiceId : ℕ) (f : EscalationFlags) (w : World) :
    Prop where
  row : ∃ c, w.collections.get? collectionId = some c ∧ c.invoiceId = invoiceId ∧ escalationFlags c = f
  invoices : w.invoices = w₀.invoices
  documents : w.escalationDocuments = w₀.escalationDocuments

section Calls

variable {cfg : Config} {i : Input} {w₀ w d : World} {collectionId invoiceId : ℕ} {invoice : Invoice}
  {f : EscalationFlags} {E : RisError → World → Prop}

/-- The flags do not depend on the jobs. -/
theorem HasFlags.jobs (h : HasFlags w₀ collectionId invoiceId f w) (hd : SameTables w d) :
    HasFlags w₀ collectionId invoiceId f d := by
  have hrows : d.collections = w.collections := by rw [hd]
  have hinvoices : d.invoices = w.invoices := by rw [hd]
  have hdocuments : d.escalationDocuments = w.escalationDocuments := by rw [hd]
  exact ⟨by rw [hrows]; exact h.row, hinvoices.trans h.invoices, hdocuments.trans h.documents⟩

/-- A transaction that rewrites the row and writes an audit row. -/
theorem HasFlags.of_writes {c c' : Collection} {w₁ : World} (h : HasFlags w₀ collectionId invoiceId f w)
    (hwrites : Writes collectionId c c' w w₁) (hd : d = { w₁ with auditLogs := d.auditLogs })
    (hinvoice : c'.invoiceId = invoiceId) :
    HasFlags w₀ collectionId invoiceId (escalationFlags c') d := by
  have hrows : d.collections = w₁.collections := by rw [hd]
  have hinvoices : d.invoices = w.invoices := by rw [hd, hwrites.world]
  have hdocuments : d.escalationDocuments = w.escalationDocuments := by rw [hd, hwrites.world]
  refine ⟨⟨c', ?_, hinvoice, rfl⟩, hinvoices.trans h.invoices, hdocuments.trans h.documents⟩
  rw [hrows]
  exact hwrites.row.after

/-- The flag of a manual escalation is the flag that the job sets. -/
theorem flagManualEscalation_writes {newLevel : ℤ} {u : Unit} {c : Collection}
    (h : flagManualEscalation cfg collectionId invoiceId newLevel i w = .ok (u, d))
    (hinvoice : w.invoices.get? invoiceId = some invoice)
    (hc : w.collections.get? collectionId = some c) :
    Writes collectionId c
      (if checkSarFlag cfg newLevel invoice.faceValue then Repo.setSarFlagged c else c) w d := by
  unfold flagManualEscalation at h
  split at h
  · rename_i hthree
    simp only [Txn.bind_ok, Txn.read_ok] at h
    obtain ⟨_, _, ⟨rfl, rfl⟩, h⟩ := h
    have hfound : Repo.getInvoiceForCollection invoiceId w = some invoice := hinvoice
    have hflag : (Repo.getInvoiceForCollection invoiceId w).any
        (fun invoice => decide (cfg.amlFlagThreshold ≤ invoice.faceValue)) =
          checkSarFlag cfg newLevel invoice.faceValue := by
      simp [hfound, checkSarFlag, hthree]
    rw [← hflag]
    exact flagIf_ok h hc
  · rename_i hlow
    obtain ⟨-, rfl⟩ := Txn.pure_ok.1 h
    rw [checkSarFlag_of_lt (not_le.1 hlow)]
    exact .refl hc

theorem flagIf_commits (flagged : Bool) (collectionId : ℕ) (i : Input) (w : World) :
    ∃ d, flagIf flagged collectionId i w = .ok ((), d) := by
  cases flagged with
  | true => exact ⟨_, rfl⟩
  | false => exact ⟨w, rfl⟩

theorem flagManualEscalation_commits (cfg : Config) (collectionId invoiceId : ℕ) (newLevel : ℤ)
    (i : Input)
    (w : World) : ∃ d, flagManualEscalation cfg collectionId invoiceId newLevel i w = .ok ((), d) := by
  unfold flagManualEscalation
  split
  · obtain ⟨d, hd⟩ := flagIf_commits ((Repo.getInvoiceForCollection invoiceId w).any
      fun invoice => decide (cfg.amlFlagThreshold ≤ invoice.faceValue)) collectionId i w
    exact ⟨d, Txn.bind_ok.2 ⟨_, w, Txn.read_ok.2 ⟨rfl, rfl⟩, hd⟩⟩
  · exact ⟨w, rfl⟩

/-- The transaction of a user's request commits. -/
theorem executeManualEscalationTxn_commits {currentLevel newLevel : ℤ} {userId : ℕ} {reason : String} :
    ∃ d, executeManualEscalationTxn cfg collectionId invoiceId currentLevel newLevel userId reason i w =
      .ok ((), d) := by
  obtain ⟨d, hd⟩ := flagManualEscalation_commits cfg collectionId invoiceId newLevel i
    { w with
      collections := w.collections.update (fun c => c.id = collectionId) (Repo.setLevel newLevel i.now)
        (Repo.id_setLevel newLevel i.now) }
  exact ⟨_, Txn.bind_ok.2 ⟨(), _, rfl, Txn.bind_ok.2 ⟨(), d, hd, rfl⟩⟩⟩

/-- What it commits. -/
theorem executeManualEscalationTxn_flags {currentLevel : ℤ} {userId : ℕ} {reason : String} {u : Unit}
    (h : executeManualEscalationTxn cfg collectionId invoiceId currentLevel
      (min (f.escalationLevel + 1) 3) userId reason i w = .ok (u, d))
    (hw : HasFlags w₀ collectionId invoiceId f w) (hinvoice : w.invoices.get? invoiceId = some invoice) :
    HasFlags w₀ collectionId invoiceId (f.manual cfg invoice.faceValue) d := by
  obtain ⟨c, hc, hci, rfl⟩ := hw.row
  simp only [executeManualEscalationTxn, Txn.bind_ok] at h
  obtain ⟨_, w₁, hlevel, _, w₂, hflag, haudit⟩ := h
  have hw₁ := updateCollection_now_ok hlevel hc
  have hinvoice₁ : w₁.invoices.get? invoiceId = some invoice := by
    rw [hw₁.world]
    exact hinvoice
  have hw₂ := hw₁.trans (flagManualEscalation_writes hflag hinvoice₁ hw₁.row.after)
  have hflags := hw.of_writes hw₂ (createAuditEntry_ok haudit) (by split <;> exact hci)
  convert hflags using 1
  rw [EscalationFlags.manual]
  cases hsar : checkSarFlag cfg (min ((escalationFlags c).escalationLevel + 1) 3) invoice.faceValue with
  | true => simp [escalationFlags, Repo.setSarFlagged, Repo.setLevel]
  | false => simp [escalationFlags, Repo.setLevel]

/-- One request of a user. -/
theorem ends_escalateCollection {userId : ℕ} {reason : String}
    (hw : HasFlags w₀ collectionId invoiceId f w)
    (hinvoice : w₀.invoices.get? invoiceId = some invoice) (hopen : f.status ≠ .collected) :
    (escalateCollection cfg collectionId userId reason).Ends Healthy
      (fun _ => HasFlags w₀ collectionId invoiceId (f.manual cfg invoice.faceValue)) E w := by
  obtain ⟨c, hc, rfl, rfl⟩ := hw.row
  unfold escalateCollection
  rw [ends_query_bind]
  have hfound : Repo.getCollectionById collectionId w = some c := hc
  have hopen' : c.status ≠ .collected := hopen
  rw [hfound]
  dsimp only
  rw [if_neg hopen']
  refine Proc.Ends.bind (R := fun _ =>
    HasFlags w₀ collectionId c.invoiceId ((escalationFlags c).manual cfg invoice.faceValue)) ?_ ?_
  · refine ends_commit fun i _ => ?_
    have hcommits : ∃ d, executeManualEscalationTxn cfg collectionId c.invoiceId c.escalationLevel
        (min (c.escalationLevel + 1) 3) userId reason i w = .ok ((), d) :=
      executeManualEscalationTxn_commits
    obtain ⟨d, hd⟩ := hcommits
    refine ⟨(), d, hd, ?_⟩
    exact executeManualEscalationTxn_flags hd hw (by rw [hw.invoices]; exact hinvoice)
  · exact fun _ _ h => ends_healthy_log h

theorem EscalationFlags.manual_open {faceValue : ℤ} (h : f.status ≠ .collected) :
    (f.manual cfg faceValue).status ≠ .collected := by
  rw [EscalationFlags.manual]
  dsimp only
  split
  · decide
  · exact h

/-- The requests of users, one after the other. -/
theorem ends_escalateManually {requests : List (ℕ × String)}
    (hw : HasFlags w₀ collectionId invoiceId f w)
    (hinvoice : w₀.invoices.get? invoiceId = some invoice) (hopen : f.status ≠ .collected) :
    (escalateManually cfg collectionId requests).Ends Healthy
      (fun _ => HasFlags w₀ collectionId invoiceId
        ((EscalationFlags.manual cfg invoice.faceValue)^[requests.length] f)) E w := by
  induction requests generalizing f w with
  | nil => exact Proc.ends_pure hw
  | cons request requests ih =>
    refine (ends_escalateCollection hw hinvoice hopen).bind fun _ d hd => ?_
    rw [List.length_cons, Function.iterate_succ_apply]
    exact ih hd (EscalationFlags.manual_open hopen)

/-! ## The job -/

theorem ends_getCollectionDetail :
    (Documents.getCollectionDetail collectionId).Ends Healthy (fun _ d => d = w) (fun _ d => d = w) w := by
  unfold Documents.getCollectionDetail
  rw [ends_query_bind]
  cases Documents.getCollectionDetailRow collectionId w with
  | none => exact Proc.ends_throw rfl
  | some detail => exact ends_query_bind.2 (Proc.ends_pure rfl)

/-- The draft of the job is refused: its author is not a user. -/
theorem ends_generateDraftDocument {documentType : EscalationDocumentType} :
    (Documents.generateDraftDocument cfg collectionId documentType .system).Ends Healthy
      (fun _ d => d = w) (fun _ d => d = w) w := by
  unfold Documents.generateDraftDocument Documents.persistDraftDocument
  rw [ends_query_bind]
  cases hguard : Documents.guardNoDraft (Documents.getDocumentByType collectionId documentType w) with
  | error e => exact ends_bind_error rfl rfl
  | ok u =>
    refine ends_bind_ok rfl (ends_getCollectionDetail.bind ?_)
    rintro detail v rfl
    refine Proc.Ends.bind (R := fun _ d => d = v) (ends_statement fun i hi => ?_) ?_
    · exact ⟨_, v, Txn.bind_ok.2 ⟨(), v, connect_ok.2 ⟨hi, rfl⟩, rfl⟩, rfl⟩
    · rintro content v rfl
      refine Proc.Ends.bind (R := fun _ d => d = v) ?_ fun _ _ h =>
        Proc.Ends.bind (ends_healthy_log (Q := fun _ d => d = v) h) fun _ _ hd => Proc.ends_pure hd
      refine Proc.ends_transaction (fun i a d _ hx => ?_) fun _ _ _ _ => rfl
      obtain ⟨_, _, -, hbody⟩ := Txn.bind_ok.1 hx
      rw [Documents.persistDraftDocumentTxn_system] at hbody
      cases hbody

theorem ends_autoGenerateDraft {level : ℤ} :
    (Documents.autoGenerateDraft cfg collectionId level).Ends Healthy (fun _ d => d = w) E w := by
  unfold Documents.autoGenerateDraft
  cases Documents.levelDocument level with
  | none => exact Proc.ends_pure rfl
  | some documentType =>
    refine Proc.Ends.tryCatch (R := fun _ d => d = w) ?_ fun e d hd => ends_healthy_log hd
    exact ends_generateDraftDocument.bind fun _ _ hd => Proc.ends_pure hd

theorem HasFlags.init {c : Collection} (hc : w.collections.get? collectionId = some c) :
    HasFlags w collectionId c.invoiceId (escalationFlags c) w :=
  ⟨⟨c, hc, rfl, rfl⟩, rfl, rfl⟩

/-- What the transaction of the job commits. -/
theorem executeEscalationTxn_flags {newLevel daysOverdue penalty : ℤ} {u : Unit} {c : Collection}
    (h : executeEscalationTxn cfg c invoice newLevel daysOverdue penalty i w = .ok (u, d))
    (hc : w.collections.get? c.id = some c) :
    HasFlags w c.id c.invoiceId ((escalationFlags c).scheduled cfg invoice.faceValue newLevel) d := by
  obtain ⟨w₃, hw₃, haudit⟩ := executeEscalationTxn_writes h hc
  unfold escalatedRow at hw₃
  have hflags := (HasFlags.init hc).of_writes hw₃ haudit (by dsimp only; split <;> rfl)
  convert hflags using 1
  have hdemand : (c.demandNoticeSent || decide (2 ≤ newLevel)) =
      if 2 ≤ newLevel then true else c.demandNoticeSent := by
    by_cases hnotice : 2 ≤ newLevel <;> simp [hnotice]
  cases hsar : checkSarFlag cfg newLevel invoice.faceValue with
  | true =>
    simp [EscalationFlags.scheduled, escalationFlags, hsar, hdemand, Repo.setSarFlagged,
      Repo.setEscalation, Repo.setStatus]
  | false =>
    simp [EscalationFlags.scheduled, escalationFlags, hsar, hdemand, Repo.setEscalation, Repo.setStatus]

theorem executeEscalationTxn_ends {newLevel daysOverdue penalty : ℤ} {c : Collection}
    (hc : w.collections.get? c.id = some c) :
    (transaction (executeEscalationTxn cfg c invoice newLevel daysOverdue penalty)
      fun _ => .collectionEscalated c.id newLevel).Ends Healthy
      (fun _ => HasFlags w c.id c.invoiceId
        ((escalationFlags c).scheduled cfg invoice.faceValue newLevel)) E w := by
  refine ends_commit fun i _ => ?_
  have hcommits : ∃ d, executeEscalationTxn cfg c invoice newLevel daysOverdue penalty i w = .ok ((), d) :=
    executeEscalationTxn_commits
  obtain ⟨d, hd⟩ := hcommits
  exact ⟨(), d, hd, executeEscalationTxn_flags hd hc⟩

/-- A notification writes its job at most. -/
theorem ends_notifyEscalation {buyerId : ℕ} {daysOverdue level penalty : ℤ}
    {Q : Unit → World → Prop} (h : ∀ d, SameTables w d → Q () d) :
    (notifyEscalation cfg invoiceId buyerId daysOverdue level penalty).Ends Healthy Q E w := by
  unfold notifyEscalation queueNotification enqueueOrWarn
  split
  · exact ends_commit fun i _ => ⟨(), _, rfl, h _ rfl⟩
  · exact ends_healthy_log (h w (.refl w))

/-- The job takes the collection to a level above its own. -/
theorem ends_processEscalation_flags {c : Collection} {daysOverdue : ℤ}
    (hc : w.collections.get? c.id = some c) (hinvoice : w.invoices.get? c.invoiceId = some invoice)
    (hnewest : ∀ choice, Repo.getCollectionByInvoiceId c.invoiceId choice w = some c)
    (hlevel : c.escalationLevel < determineEscalationLevel daysOverdue) :
    (Documents.processEscalation cfg c.invoiceId daysOverdue).Ends Healthy
      (fun _ => HasFlags w c.id c.invoiceId
        ((escalationFlags c).scheduled cfg invoice.faceValue (determineEscalationLevel daysOverdue))) E
      w := by
  unfold Documents.processEscalation processEscalationWith
  rw [ends_query_bind]
  have hfound : Repo.getInvoiceForCollection c.invoiceId w = some invoice := hinvoice
  rw [hfound]
  refine Proc.Ends.bind (R := fun found d => found = some c ∧ d = w) (ends_statement fun i hi => ?_) ?_
  · exact ⟨some c, w, Txn.bind_ok.2 ⟨(), w, connect_ok.2 ⟨hi, rfl⟩, by simp [hnewest]⟩, rfl, rfl⟩
  · rintro _ v ⟨rfl, rfl⟩
    dsimp only
    rw [if_neg (not_le.2 hlevel)]
    refine Proc.Ends.bind (R := fun _ d => d = v)
      (ends_getDailyPenaltyRate_of (fun _ hi => hi) fun _ _ => rfl) ?_
    rintro rate _ rfl
    refine (executeEscalationTxn_ends hc).bind fun _ d hd => ?_
    refine Proc.Ends.bind (ends_healthy_log (Q := fun _ => _) hd) fun _ d hd => ?_
    refine (ends_notifyEscalation (Q := fun _ => _) fun d' hsame => hd.jobs hsame).bind fun _ d hd => ?_
    refine ends_autoGenerateDraft.mono ?_ fun _ _ h => h
    rintro _ _ rfl
    exact hd

end Calls

/-! ## Agreement -/

/-- The two stores have the same flags on the collection, and the same documents. -/
def SameEscalation (collectionId : ℕ) (w₁ w₂ : World) : Prop :=
  (w₁.collections.get? collectionId).map escalationFlags =
      (w₂.collections.get? collectionId).map escalationFlags ∧
    w₁.escalationDocuments.rows = w₂.escalationDocuments.rows

instance (collectionId : ℕ) (w₁ w₂ : World) : Decidable (SameEscalation collectionId w₁ w₂) := by
  unfold SameEscalation
  infer_instance

theorem HasFlags.sameEscalation_iff {w₀ w₁ w₂ : World} {collectionId invoiceId : ℕ}
    {f₁ f₂ : EscalationFlags}
    (h₁ : HasFlags w₀ collectionId invoiceId f₁ w₁) (h₂ : HasFlags w₀ collectionId invoiceId f₂ w₂) :
    SameEscalation collectionId w₁ w₂ ↔ f₁ = f₂ := by
  obtain ⟨c₁, hc₁, -, hf₁⟩ := h₁.row
  obtain ⟨c₂, hc₂, -, hf₂⟩ := h₂.row
  have hdocuments : w₁.escalationDocuments.rows = w₂.escalationDocuments.rows := by
    rw [h₁.documents, h₂.documents]
  rw [SameEscalation, hc₁, hc₂, Option.map_some, Option.map_some, hf₁, hf₂, Option.some.injEq]
  exact and_iff_left hdocuments

theorem determineEscalationLevel_le (daysOverdue : ℤ) : determineEscalationLevel daysOverdue ≤ 3 := by
  unfold determineEscalationLevel
  split_ifs <;> omega

/-- **Manual and automatic escalation.** A collection that is not resolved is taken from its level to a
higher one, by the job that finds it so many days overdue or by the requests of users, no statement failing:
the two end with the same flags and the same documents if and only if the level is 1 or the demand notice
was sent before. -/
theorem escalations_agree_iff (cfg : Config) (w : World) (c : Collection) (invoice : Invoice)
    (daysOverdue : ℤ) (requests : List (ℕ × String)) (hc : w.collections.get? c.id = some c)
    (hinvoice : w.invoices.get? c.invoiceId = some invoice)
    (hnewest : ∀ choice, Repo.getCollectionByInvoiceId c.invoiceId choice w = some c)
    (hopen : c.status ≠ .collected) (hbounded : 0 ≤ c.escalationLevel)
    (hlevel : c.escalationLevel < determineEscalationLevel daysOverdue)
    (hrequests : c.escalationLevel + requests.length = determineEscalationLevel daysOverdue) :
    (escalateManually cfg c.id requests).Ends Healthy
      (fun _ w₁ => (Documents.processEscalation cfg c.invoiceId daysOverdue).Ends Healthy
        (fun _ w₂ => SameEscalation c.id w₁ w₂ ↔
          determineEscalationLevel daysOverdue = 1 ∨ c.demandNoticeSent = true)
        (fun _ _ => False) w)
      (fun _ _ => False) w := by
  refine (ends_escalateManually (HasFlags.init hc) hinvoice hopen).mono ?_ fun _ _ h => h
  intro _ w₁ h₁
  refine (ends_processEscalation_flags hc hinvoice hnewest hlevel).mono ?_ fun _ _ h => h
  intro _ w₂ h₂
  obtain ⟨n, hn⟩ : ∃ n, requests.length = n + 1 := Nat.exists_eq_succ_of_ne_zero (by omega)
  rw [h₁.sameEscalation_iff h₂, hn]
  refine EscalationFlags.manual_eq_scheduled_iff hbounded ?_ (determineEscalationLevel_le daysOverdue)
  rw [← hrequests, hn]
  rfl

/-- The collection of an overdue invoice. -/
def overdueWorldAt (level : ℤ) : World := exampleWorld .overdue (exampleCollection 1 .overdue 3 level)

theorem overdueWorldAt_newest (level : ℤ) (choice : ℕ) :
    Repo.getCollectionByInvoiceId 1 choice (overdueWorldAt level) =
      some (exampleCollection 1 .overdue 3 level) := by
  simp [Repo.getCollectionByInvoiceId, overdueWorldAt, exampleWorld, exampleCollection, Nat.mod_one]

/-- From level 1 to level 3 the two disagree. -/
theorem escalations_agree_iff_third :
    (escalateManually {} 1 [(9, "no reply"), (8, "still none")]).Ends Healthy
      (fun _ w₁ => (Documents.processEscalation {} 1 14).Ends Healthy
        (fun _ w₂ => SameEscalation 1 w₁ w₂ ↔ determineEscalationLevel 14 = 1 ∨ false = true)
        (fun _ _ => False) (overdueWorldAt 1))
      (fun _ _ => False) (overdueWorldAt 1) :=
  escalations_agree_iff {} (overdueWorldAt 1) (exampleCollection 1 .overdue 3 1) (exampleInvoice .overdue) 14
    [(9, "no reply"), (8, "still none")] rfl rfl (overdueWorldAt_newest 1) (by decide) (by decide)
    (by decide) (by decide)

/-- A collection of level 1 is taken to level 2: by a user, with no demand notice sent; by the job, with
one. -/
theorem demand_notice_differs :
    ∃ w₁ w₂, (escalateCollection {} 1 9 "no reply").outcome {} (overdueWorldAt 1) = (.ok (), w₁) ∧
      (Documents.processEscalation {} 1 7).outcome {} (overdueWorldAt 1) = (.ok (), w₂) ∧
      (w₁.collections.get? 1).map escalationFlags = some ⟨2, .escalated, false, false⟩ ∧
      (w₂.collections.get? 1).map escalationFlags = some ⟨2, .escalated, true, false⟩ :=
  ⟨_, _, rfl, rfl, by decide, by decide⟩

end Ris.Collections
