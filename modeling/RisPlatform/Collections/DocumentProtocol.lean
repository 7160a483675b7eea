import RisPlatform.Collections.Documents
import RisPlatform.Triples

/-!
# The protocol of the escalation documents

What the transactions on escalation documents do, with what the call that runs one did before: it has
only read when it finalises a document, and only a call that finalised the document and logged it
notifies the buyer.
-/

namespace Ris.Collections.Documents

open Relational Concurrent

/-! ## What each event does -/

/-- The call has only read. -/
def OnlyRead (h : List (Option Event)) : Prop := ∀ e ∈ h, e = some .read

/-- The call has committed the finalisation of the document, and nothing else. -/
def Finalised (documentId : ℕ) (h : List (Option Event)) : Prop :=
  ∃ rest, h = some (.documentSent documentId) :: rest ∧ OnlyRead rest

/-- The call has logged it as well, and is about to notify the buyer. -/
def Notifying (documentId : ℕ) (h : List (Option Event)) : Prop :=
  ∃ action rest, h = some (.logged action) :: rest ∧ Finalised documentId rest

/-- What a call may do, and what it leaves. -/
inductive Effect (s : State World Event) (t : ℕ) : Option Event → World → Prop
  | returned : Effect s t none s.store
  | read : Effect s t (some .read) s.store
  | threw : Effect s t (some .threw) s.store
  | logged (action : String) : Effect s t (some (.logged action)) s.store
  | enqueued (documentId collectionId buyerId : ℕ) (hown : Notifying documentId (own t s.hist)) :
      Effect s t (some (.enqueued (documentNotification documentId collectionId buyerId)))
        { s.store with
          jobs := s.store.jobs ++ [documentNotification documentId collectionId buyerId] }
  | generated (row : EscalationDocument) (documents : Table EscalationDocument.id) (entry : AuditLog)
      (hinsert : s.store.escalationDocuments.insert? row = some documents)
      (hstatus : row.status = .draft) (hentry : entry.action = "ESCALATION_DOCUMENT_GENERATED") :
      Effect s t (some (.documentGenerated row.id row.collectionId row.documentType))
        { s.store with
          escalationDocuments := documents
          auditLogs := s.store.auditLogs ++ [entry] }
  | updated (documentId : ℕ) (content : DemandLetterData) (draftParams : EscalationDraftParams)
      (entry : AuditLog) (hentry : entry.action = "ESCALATION_DOCUMENT_UPDATED") :
      Effect s t (some (.documentUpdated documentId))
        { s.store with
          escalationDocuments := s.store.escalationDocuments.update
            (fun r => r.id = documentId ∧ r.status = .draft) (setContent content draftParams)
            (id_setContent content draftParams)
          auditLogs := s.store.auditLogs ++ [entry] }
  | sent (documentId userId : ℕ) (email : String) (now : ℤ) (entry : AuditLog)
      (hentry : entry.action = "ESCALATION_DOCUMENT_SENT" ∧ entry.recordId = .id documentId)
      (hrow : (s.store.escalationDocuments.get? documentId).isSome) (hown : OnlyRead (own t s.hist)) :
      Effect s t (some (.documentSent documentId))
        { s.store with
          escalationDocuments := s.store.escalationDocuments.update
            (fun r => r.id = documentId ∧ r.status = .draft) (setSent userId email now)
            (id_setSent userId email now)
          auditLogs := s.store.auditLogs ++ [entry] }

/-- Effects depend on the store and on what the call did before; a call may return at any time. -/
def protocol : Protocol World Event where
  inv _ := True
  effect := Effect
  inv_effect _ _ := trivial
  return_stable _ _ _ _ := .returned

theorem quiet : Quiet protocol where
  read _ _ := .read
  threw _ _ := .threw
  logged _ _ := .logged

/-! ## Rows -/

section Rows

variable {s : State World Event} {t : ℕ} {e : Option Event} {d : World}

/-- A document that is there stays there. -/
theorem Effect.isSome (h : Effect s t e d) {documentId : ℕ}
    (hrow : (s.store.escalationDocuments.get? documentId).isSome) :
    (d.escalationDocuments.get? documentId).isSome := by
  cases h with
  | generated row documents entry hinsert =>
    show (documents.get? documentId).isSome
    rw [Table.get?_insert? hinsert]
    split
    · rfl
    · exact hrow
  | updated | sent =>
    dsimp only
    rw [Table.get?_update, Option.isSome_map]
    exact hrow
  | _ => exact hrow

theorem steady_isSome (documentId : ℕ) :
    protocol.Steady fun s => (s.store.escalationDocuments.get? documentId).isSome :=
  fun _ _ _ _ _ hrow heff => Effect.isSome heff hrow

end Rows

/-! ## What transactions commit -/

section Transactions

variable {cfg : Config} {i : Input} {w w' : World}

/-- The statement appended an entry of the action on the document, and did nothing else. -/
theorem createAuditEntry_appends {userId : Actor} {action : String} {documentId : ℕ}
    {oldValues newValues : List (String × Json)} {u : Unit}
    (h : createAuditEntry cfg userId action documentId oldValues newValues i w = .ok (u, w')) :
    ∃ entry : AuditLog, entry.action = action ∧ entry.recordId = .id documentId ∧
      w' = { w with auditLogs := w.auditLogs ++ [entry] } := by
  simp only [createAuditEntry, Txn.bind_ok, Txn.liftM_ok, Ris.createAuditEntry_ok] at h
  obtain ⟨user, _, ⟨-, rfl⟩, rfl⟩ := h
  exact ⟨_, rfl, rfl, rfl⟩

theorem createEscalationDocument_ok {data : CreateEscalationDocumentInput} {u : Unit}
    (h : createEscalationDocumentWithClient data i w = .ok (u, w')) :
    ∃ generatedBy documents,
      w.escalationDocuments.insert? (data.row generatedBy) = some documents ∧
        w' = { w with escalationDocuments := documents } := by
  simp only [createEscalationDocumentWithClient, Txn.bind_ok, Txn.liftM_ok, Txn.read_ok, id] at h
  obtain ⟨generatedBy, _, ⟨-, rfl⟩, _, _, ⟨rfl, rfl⟩, h⟩ := h
  split at h
  · simp at h
  · cases hinsert : w.escalationDocuments.insert? (data.row generatedBy) with
    | none => simp [hinsert] at h
    | some documents =>
      simp only [hinsert, Txn.write_ok] at h
      exact ⟨generatedBy, documents, hinsert, h.symm⟩

variable {s : State World Event} {t : ℕ} {d : World}

theorem effect_of_persistDraftDocument {collectionId : ℕ} {documentType : EscalationDocumentType}
    {content : DemandLetterData} {draftParams : EscalationDraftParams} {userId : Actor}
    {documentId : ℕ}
    (h : persistDraftDocumentTxn cfg collectionId documentType content draftParams userId i s.store =
      .ok (documentId, d)) :
    Effect s t (some (.documentGenerated documentId collectionId documentType)) d := by
  simp only [persistDraftDocumentTxn, Txn.bind_ok, Txn.input_ok, Txn.pure_ok] at h
  obtain ⟨_, _, ⟨rfl, rfl⟩, _, w₁, hcreate, _, w₂, haudit, rfl, rfl⟩ := h
  obtain ⟨generatedBy, documents, hinsert, rfl⟩ := createEscalationDocument_ok hcreate
  obtain ⟨entry, hentry, -, rfl⟩ := createAuditEntry_appends haudit
  exact .generated _ documents entry hinsert rfl hentry

theorem effect_of_persistDraftUpdate {documentId : ℕ} {content : DemandLetterData}
    {draftParams : EscalationDraftParams} {userId : ℕ} {u : Unit}
    (h : persistDraftUpdateTxn cfg documentId content draftParams userId i s.store = .ok (u, d)) :
    Effect s t (some (.documentUpdated documentId)) d := by
  simp only [persistDraftUpdateTxn, updateDocumentContentWithClient, updateDraft, Txn.bind_ok,
    Txn.write_ok] at h
  obtain ⟨_, w₁, rfl, haudit⟩ := h
  obtain ⟨entry, hentry, -, rfl⟩ := createAuditEntry_appends haudit
  exact .updated documentId content draftParams entry hentry

theorem effect_of_persistFinalization {documentId userId : ℕ} {email : String} {u : Unit}
    (h : persistFinalizationTxn cfg documentId userId email i s.store = .ok (u, d))
    (hrow : (s.store.escalationDocuments.get? documentId).isSome) (hown : OnlyRead (own t s.hist)) :
    Effect s t (some (.documentSent documentId)) d := by
  simp only [persistFinalizationTxn, finalizeDocumentWithClient, updateDraft, Txn.bind_ok, now_ok,
    Txn.write_ok] at h
  obtain ⟨_, _, ⟨_, _, ⟨rfl, rfl⟩, rfl⟩, haudit⟩ := h
  obtain ⟨entry, hentry, hrecord, rfl⟩ := createAuditEntry_appends haudit
  exact .sent documentId userId email i.now entry ⟨hentry, hrecord⟩ hrow hown

end Transactions

/-! ## Calls -/

section Calls

variable {cfg : Config} {t : ℕ}

/-- The call has only read, and the document has a row. -/
def Loaded (documentId t : ℕ) (s : State World Event) : Prop :=
  OnlyRead (own t s.hist) ∧ (s.store.escalationDocuments.get? documentId).isSome

theorem stable_loaded (documentId t : ℕ) : protocol.Stable t (Loaded documentId t) :=
  (Protocol.Stable.own t OnlyRead).and ((steady_isSome documentId).stable t)

theorem OnlyRead.read {h : List (Option Event)} (hown : OnlyRead h) :
    OnlyRead (some .read :: h) := by
  intro e he
  rcases List.mem_cons.1 he with rfl | he
  · rfl
  · exact hown e he

/-- A query leaves the document loaded. -/
theorem triple_query_loaded {α : Type} (f : World → α) (documentId : ℕ) :
    protocol.Triple t (Loaded documentId t) (query f) (fun _ => Loaded documentId t)
      fun _ _ => True := by
  refine .transaction (stable_loaded documentId t) (fun s i a d _ hA hx => ?_) fun s _ _ _ _ _ =>
    ⟨.threw, trivial⟩
  simp only [Txn.bind_ok, connect_ok, Txn.read_ok] at hx
  obtain ⟨_, _, ⟨-, rfl⟩, -, rfl⟩ := hx
  refine ⟨.read, ?_, hA.2⟩
  rw [State.record_hist, own_cons_self]
  exact hA.1.read

theorem triple_getCollectionDetail_loaded (collectionId documentId : ℕ) :
    protocol.Triple t (Loaded documentId t) (getCollectionDetail collectionId)
      (fun _ => Loaded documentId t) fun _ _ => True := by
  refine (triple_query_loaded _ documentId).bind fun detail => ?_
  cases detail with
  | none => exact .throw fun _ _ _ => trivial
  | some detail =>
    exact (triple_query_loaded _ documentId).bind fun buyer => .ret fun _ _ hA => hA

/-- The document that a call finds has a row from then on. -/
theorem triple_getEscalationDocumentById (documentId : ℕ) :
    protocol.Triple t (fun s => own t s.hist = []) (query (getEscalationDocumentById documentId))
      (fun document s => document.isSome → Loaded documentId t s) fun _ _ => True := by
  refine .transaction (Protocol.Stable.own t fun h => h = []) (fun s i a d _ hA hx => ?_)
    fun s _ _ _ _ _ => ⟨.threw, trivial⟩
  simp only [Txn.bind_ok, connect_ok, Txn.read_ok] at hx
  obtain ⟨_, _, ⟨-, rfl⟩, rfl, rfl⟩ := hx
  refine ⟨.read, fun hsome => ⟨?_, hsome⟩⟩
  rw [State.record_hist, own_cons_self, hA]
  simp [OnlyRead]

/-- The finalisation is committed and logged by a call that has only read before. -/
theorem triple_persistFinalization (documentId userId : ℕ) (email : String) :
    protocol.Triple t (Loaded documentId t) (persistFinalization cfg documentId userId email)
      (fun _ s => Notifying documentId (own t s.hist)) fun _ _ => True := by
  refine Protocol.Triple.bind (R := fun _ s => Finalised documentId (own t s.hist)) ?_ fun _ => ?_
  · refine .transaction (stable_loaded documentId t) (fun s i a d _ hA hx => ?_) fun s _ _ _ _ _ =>
      ⟨.threw, trivial⟩
    simp only [Txn.bind_ok, connect_ok] at hx
    obtain ⟨_, _, ⟨-, rfl⟩, hx⟩ := hx
    refine ⟨effect_of_persistFinalization hx hA.2 hA.1, own t s.hist, ?_, hA.1⟩
    rw [State.record_hist, own_cons_self]
  · refine .transaction (Protocol.Stable.own t (Finalised documentId)) (fun s i a d _ hA hx => ?_)
      fun s _ _ _ _ _ => ⟨.threw, trivial⟩
    obtain ⟨-, rfl⟩ := connect_ok.1 hx
    refine ⟨.logged _, "ESCALATION_DOCUMENT_SENT", own t s.hist, ?_, hA⟩
    rw [State.record_hist, own_cons_self]

theorem triple_queueDocumentNotification (documentId collectionId buyerId : ℕ) :
    protocol.Triple t (fun s => Notifying documentId (own t s.hist))
      (queueDocumentNotification cfg documentId collectionId buyerId) (fun _ _ => True)
      fun _ _ => True := by
  unfold queueDocumentNotification enqueueOrWarn
  split
  · refine .transaction (Protocol.Stable.own t (Notifying documentId)) (fun s i a d _ hA hx => ?_)
      fun s _ _ _ _ _ => ⟨.threw, trivial⟩
    simp only [Txn.bind_ok, connect_ok, Txn.write_ok] at hx
    obtain ⟨_, _, ⟨-, rfl⟩, rfl⟩ := hx
    exact ⟨.enqueued documentId collectionId buyerId hA, trivial⟩
  · exact (free_log quiet _).of _ t

theorem triple_finalizeAndSend (documentId userId : ℕ) :
    protocol.Triple t (fun s => own t s.hist = []) (finalizeAndSend cfg documentId userId)
      (fun _ _ => True) fun _ _ => True := by
  refine (triple_getEscalationDocumentById documentId).bind fun found => ?_
  cases found with
  | none => exact .throw fun _ _ _ => trivial
  | some document =>
    have hguard : protocol.Triple t (Loaded documentId t)
        (monadLift (guardDraft document
          (CollectionErrorCode.documentAlreadySent.error "Document already sent")) : Call Unit)
        (fun _ => Loaded documentId t) fun _ _ => True :=
      .lift (fun _ _ _ _ hA => hA) fun _ _ _ _ _ => trivial
    refine Protocol.Triple.conseq ?_ (fun _ _ hA => hA rfl) (fun _ _ _ h => h) fun _ _ _ h => h
    refine hguard.bind fun _ => ?_
    refine (triple_getCollectionDetail_loaded _ documentId).bind fun detail => ?_
    refine (triple_persistFinalization documentId userId _).bind fun _ => ?_
    exact triple_queueDocumentNotification documentId _ _

theorem free_getCollectionDetail (collectionId : ℕ) :
    Free protocol (getCollectionDetail collectionId) := by
  refine free_bind (free_query quiet _) fun detail => ?_
  cases detail with
  | none => exact free_throw _
  | some detail => exact free_bind (free_query quiet _) fun _ => free_pure _

theorem free_renderDemandPdf (detail : CollectionDetailResponse) (params : EscalationDraftParams) :
    Free protocol (renderDemandPdf detail params) := by
  refine free_statement quiet fun s t i a d _ hx => ?_
  simp only [currentDate, Txn.bind_ok, connect_ok, now_ok, Txn.pure_ok] at hx
  obtain ⟨_, _, ⟨-, rfl⟩, _, _, ⟨_, _, ⟨-, rfl⟩, -, rfl⟩, -, rfl⟩ := hx
  exact .read

theorem free_generateDraftDocument (collectionId : ℕ) (documentType : EscalationDocumentType)
    (userId : Actor) :
    Free protocol (generateDraftDocument cfg collectionId documentType userId) := by
  refine free_bind (free_query quiet _) fun existing => ?_
  refine free_bind (free_lift _) fun _ => ?_
  refine free_bind (free_getCollectionDetail collectionId) fun detail => ?_
  refine free_bind (free_renderDemandPdf detail _) fun content => ?_
  refine free_bind ?_ fun documentId => free_bind (free_log quiet _) fun _ => free_pure _
  exact free_transaction quiet fun s t i a d _ hx => effect_of_persistDraftDocument hx

theorem free_autoGenerateDraft (collectionId : ℕ) (level : ℤ) :
    Free protocol (autoGenerateDraft cfg collectionId level) := by
  unfold autoGenerateDraft
  split
  · exact free_pure _
  · refine free_tryCatch ?_ fun _ => free_log quiet _
    exact free_bind (free_generateDraftDocument collectionId _ .system) fun _ => free_pure _

theorem free_updateDraftParams (documentId : ℕ) (params : EscalationDraftParams) (userId : ℕ) :
    Free protocol (updateDraftParams cfg documentId params userId) := by
  refine free_bind (free_query quiet _) fun found => ?_
  cases found with
  | none => exact free_throw _
  | some document =>
    refine free_bind (free_lift _) fun _ => ?_
    refine free_bind (free_getCollectionDetail _) fun detail => ?_
    refine free_bind (free_renderDemandPdf detail params) fun content => ?_
    exact free_transaction quiet fun s t i a d _ hx => effect_of_persistDraftUpdate hx

/-- Every operation follows the protocol. -/
theorem program_implements (cfg : Config) : protocol.Implements (program cfg) := by
  intro op t
  have hfollows : protocol.Triple t (fun s => own t s.hist = []) (program cfg op) (fun _ _ => True)
      fun _ _ => True := by
    cases op with
    | generateDraftDocument collectionId documentType userId =>
      exact (free_discard (free_generateDraftDocument collectionId documentType userId)).of _ t
    | autoGenerateDraft collectionId level => exact (free_autoGenerateDraft collectionId level).of _ t
    | updateDraftParams documentId params userId =>
      exact (free_updateDraftParams documentId params userId).of _ t
    | finalizeAndSend documentId userId => exact triple_finalizeAndSend documentId userId
  exact hfollows.weaken (fun _ _ _ _ => .returned) fun _ _ _ _ => .returned

end Calls

end Ris.Collections.Documents
