import RisPlatform.Collections.DocumentProtocol
import RisPlatform.Collections.Protocol

/-!
# Documents that are sent once

The `UPDATE` that finalises a document asks for a draft, so a document that was sent stays as it is. But
the transaction records the sending and the call notifies the buyer whether or not the `UPDATE` matched,
and a draft is inserted whether or not another one is there by then. So a document is recorded and
notified once, and a collection has one draft of a type, along the runs in which each finalisation finds
a draft and each new draft finds none.
-/

namespace Ris.Collections.Documents

open Relational Concurrent

/-! ## The law -/

/-- The records that the document was sent. -/
def sentRecords (documentId : ℕ) (w : World) : List AuditLog :=
  w.auditLogs.filter fun a => a.action = "ESCALATION_DOCUMENT_SENT" ∧ a.recordId = .id documentId

/-- The jobs that notify the buyer of the document. -/
def notifications (documentId : ℕ) (w : World) : List Job :=
  w.jobs.filter fun job =>
    job.name = "escalation-document-sent" ∧ ("documentId", Json.id documentId) ∈ job.data

/-- The live drafts of the collection and the type. -/
def drafts (collectionId : ℕ) (documentType : EscalationDocumentType) (w : World) :
    List EscalationDocument :=
  w.escalationDocuments.rows.filter fun r => OfType collectionId documentType r ∧ r.status = .draft

/-- Each document is recorded as sent and notified at most once, and a collection has at most one live
draft of a type. -/
structure Once (w : World) : Prop where
  recorded : ∀ documentId, (sentRecords documentId w).length ≤ 1
  notified : ∀ documentId, (notifications documentId w).length ≤ 1
  drafted : ∀ collectionId documentType, (drafts collectionId documentType w).length ≤ 1

/-- A document that was sent stays as it is. -/
def KeepsSent (w w' : World) : Prop :=
  ∀ documentId r, w.escalationDocuments.get? documentId = some r → r.status = .sent →
    w'.escalationDocuments.get? documentId = some r

/-- The document is a draft, or not there. -/
def Unsent (documentId : ℕ) (w : World) : Prop :=
  ∀ r ∈ w.escalationDocuments.get? documentId, r.status = .draft

/-- The law holds of the store, and its records are those of the documents that are no drafts. -/
structure Lawful (w : World) : Prop where
  unsent : ∀ documentId, Unsent documentId w →
    sentRecords documentId w = [] ∧ notifications documentId w = []
  sent : ∀ documentId, ¬Unsent documentId w →
    (sentRecords documentId w).length = 1 ∧ (notifications documentId w).length ≤ 1
  drafted : ∀ collectionId documentType, (drafts collectionId documentType w).length ≤ 1

/-- The document that was finalised. -/
def sentDocument? : Event → Option ℕ
  | .documentSent documentId => some documentId
  | _ => none

/-- The collection and the type of the draft that was inserted. -/
def generatedDraft? : Event → Option (ℕ × EscalationDocumentType)
  | .documentGenerated _ collectionId documentType => some (collectionId, documentType)
  | _ => none

/-- A finalisation finds its document a draft, and a new draft finds none of its collection and type. -/
def OnDrafts : Cond World Event := fun s _ e =>
  (∀ documentId ∈ sentDocument? e, ∀ r ∈ s.store.escalationDocuments.get? documentId,
    r.status = .draft) ∧
  ∀ x ∈ generatedDraft? e, drafts x.1 x.2 s.store = []

instance (s : State World Event) (t : ℕ) (e : Event) : Decidable (OnDrafts s t e) := by
  unfold OnDrafts
  infer_instance

/-! ## What a step leaves -/

section Step

variable {s : State World Event} {t documentId : ℕ} {e : Option Event} {w d : World}

/-- An update of drafts does not match a document that was sent. -/
theorem get?_update_of_sent {T : Table EscalationDocument.id} {documentId id : ℕ}
    {f : EscalationDocument → EscalationDocument} (hf : ∀ r, (f r).id = r.id) {r : EscalationDocument}
    (hr : T.get? id = some r) (hsent : r.status = .sent) :
    (T.update (fun r => r.id = documentId ∧ r.status = .draft) f hf).get? id = some r := by
  have hno : ¬(r.id = documentId ∧ r.status = .draft) := by simp [hsent]
  rw [Table.get?_update_of_get? hr, if_neg (by simpa using hno)]

theorem Effect.keepsSent (h : Effect s t e d) : KeepsSent s.store d := by
  intro documentId r hr hsent
  cases h with
  | generated row documents entry hinsert =>
    exact Table.get?_insert?_of_get? hinsert hr
  | updated id content draftParams =>
    exact get?_update_of_sent (id_setContent content draftParams) hr hsent
  | sent id userId email now =>
    exact get?_update_of_sent (id_setSent userId email now) hr hsent
  | _ => exact hr

theorem sentRecords_append {entry : AuditLog} (h : d.auditLogs = w.auditLogs ++ [entry]) :
    sentRecords documentId d = sentRecords documentId w ++
      if entry.action = "ESCALATION_DOCUMENT_SENT" ∧ entry.recordId = .id documentId then [entry]
      else [] := by
  unfold sentRecords
  rw [h, List.filter_append]
  simp [List.filter_cons]

theorem notifications_append {i collectionId buyerId : ℕ}
    (h : d.jobs = w.jobs ++ [documentNotification i collectionId buyerId]) :
    notifications documentId d = notifications documentId w ++
      if i = documentId then [documentNotification i collectionId buyerId] else [] := by
  have hmem : ("documentId", Json.id documentId) ∈ (documentNotification i collectionId buyerId).data ↔
      i = documentId := by
    simp [documentNotification, eq_comm]
  unfold notifications
  rw [h, List.filter_append]
  simp only [List.filter_cons, List.filter_nil, hmem]
  simp [documentNotification]

/-- Records are made by finalisations. -/
theorem Effect.sentRecords_eq (h : Effect s t e d) (he : e ≠ some (.documentSent documentId)) :
    sentRecords documentId d = sentRecords documentId s.store := by
  cases h with
  | generated row documents entry _ _ hentry =>
    rw [sentRecords_append (w := s.store) rfl]
    simp [hentry]
  | updated id content draftParams entry hentry =>
    rw [sentRecords_append (w := s.store) rfl]
    simp [hentry]
  | sent id userId email now entry hentry =>
    have hne : id ≠ documentId := fun h => he (by rw [h])
    rw [sentRecords_append (w := s.store) rfl]
    simp [hentry, hne]
  | _ => rfl

/-- Only a call that finalised the document, and did nothing else, notifies the buyer of it. -/
theorem Effect.notifications_eq (h : Effect s t e d) (documentId : ℕ) :
    notifications documentId d = notifications documentId s.store ∨
      Notifying documentId (own t s.hist) ∧ ∃ job, e = some (.enqueued job) ∧
        notifications documentId d = notifications documentId s.store ++ [job] := by
  cases h with
  | enqueued id collectionId buyerId hown =>
    rw [notifications_append (w := s.store) rfl]
    by_cases hid : id = documentId
    · subst hid
      exact Or.inr ⟨hown, _, rfl, by rw [if_pos rfl]⟩
    · left
      rw [if_neg hid, List.append_nil]
  | _ => exact Or.inl rfl

/-- An update keeps a document unsent if it matches another one, or keeps its status. -/
theorem unsent_update {f : EscalationDocument → EscalationDocument} (hf : ∀ r, (f r).id = r.id)
    {id : ℕ} (hw : d.escalationDocuments = w.escalationDocuments.update
      (fun r => r.id = id ∧ r.status = .draft) f hf)
    (h : id ≠ documentId ∨ ∀ r, (f r).status = r.status) :
    Unsent documentId d ↔ Unsent documentId w := by
  unfold Unsent
  rw [hw, Table.get?_update]
  cases hr : w.escalationDocuments.get? documentId with
  | none => simp
  | some r =>
    have hid : r.id = documentId := Table.key_of_get? hr
    simp only [Option.map_some, Option.mem_some_iff, forall_eq']
    split
    · rename_i hmatch
      rcases h with hne | hstatus
      · exact absurd ((of_decide_eq_true hmatch).1.symm.trans hid) hne
      · rw [hstatus]
    · rfl

/-- Only its finalisation makes a document sent. -/
theorem Effect.unsent_iff (h : Effect s t e d) (he : e ≠ some (.documentSent documentId)) :
    Unsent documentId d ↔ Unsent documentId s.store := by
  cases h with
  | generated row documents entry hinsert hstatus =>
    unfold Unsent
    show (∀ r ∈ documents.get? documentId, _) ↔ _
    rw [Table.get?_insert? hinsert]
    split
    · rename_i hid
      rw [hid, Table.get?_insert?_fresh hinsert]
      simp [hstatus]
    · rfl
  | updated id content draftParams =>
    exact unsent_update (id_setContent content draftParams) rfl (Or.inr fun _ => rfl)
  | sent id userId email now =>
    exact unsent_update (id_setSent userId email now) rfl (Or.inl fun h => he (by rw [h]))
  | _ => rfl

/-- A finalisation that finds a draft makes it sent. -/
theorem Effect.sent_of_unsent (h : Effect s t (some (.documentSent documentId)) d)
    (hunsent : Unsent documentId s.store) : ¬Unsent documentId d := by
  cases h with
  | sent _ userId email now entry hentry hrow =>
    obtain ⟨r, hr⟩ := Option.isSome_iff_exists.1 hrow
    have hmatch : r.id = documentId ∧ r.status = .draft := ⟨Table.key_of_get? hr, hunsent r hr⟩
    intro hno
    have hget : (s.store.escalationDocuments.update
        (fun r => r.id = documentId ∧ r.status = .draft) _ (id_setSent userId email now)).get? documentId =
          _ := Table.get?_update_of_get? hr
    rw [if_pos (decide_eq_true hmatch)] at hget
    have hstatus := hno _ hget
    simp [setSent] at hstatus

/-- A finalisation is recorded, whatever it found. -/
theorem Effect.length_sentRecords (h : Effect s t (some (.documentSent documentId)) d) :
    (sentRecords documentId d).length = (sentRecords documentId s.store).length + 1 := by
  cases h with
  | sent _ userId email now entry hentry =>
    rw [sentRecords_append (w := s.store) rfl, if_pos hentry, List.length_append,
      List.length_singleton]

/-! ## Drafts -/

/-- An update that makes no draft does not add to the drafts. -/
theorem length_drafts_update {f : EscalationDocument → EscalationDocument} (hf : ∀ r, (f r).id = r.id)
    {p : EscalationDocument → Bool} (hw : d.escalationDocuments = w.escalationDocuments.update p f hf)
    {collectionId : ℕ} {documentType : EscalationDocumentType}
    (h : ∀ r, OfType collectionId documentType (f r) ∧ (f r).status = .draft →
      OfType collectionId documentType r ∧ r.status = .draft) :
    (drafts collectionId documentType d).length ≤ (drafts collectionId documentType w).length := by
  unfold drafts
  rw [hw, Table.rows_update, ← List.countP_eq_length_filter, ← List.countP_eq_length_filter,
    List.countP_map]
  refine List.countP_mono_left fun r _ hr => ?_
  have hr : OfType collectionId documentType (if p r then f r else r) ∧
      (if p r then f r else r).status = .draft := of_decide_eq_true hr
  refine decide_eq_true ?_
  split at hr
  · exact h r hr
  · exact hr

/-- A new draft is one more of its collection and type. -/
theorem drafts_insert {row : EscalationDocument} {documents : Table EscalationDocument.id}
    (hinsert : w.escalationDocuments.insert? row = some documents)
    (hw : d.escalationDocuments = documents) (hstatus : row.status = .draft) (collectionId : ℕ)
    (documentType : EscalationDocumentType) :
    drafts collectionId documentType d = drafts collectionId documentType w ++
      if OfType collectionId documentType row then [row] else [] := by
  unfold drafts
  rw [hw, Table.rows_insert? hinsert, List.filter_append]
  simp [List.filter_cons, hstatus]

/-- Only a new draft adds to the drafts, and only to those of its collection and type. -/
theorem Effect.length_drafts (h : Effect s t e d) {collectionId : ℕ}
    {documentType : EscalationDocumentType}
    (he : ∀ id, e ≠ some (.documentGenerated id collectionId documentType)) :
    (drafts collectionId documentType d).length ≤
      (drafts collectionId documentType s.store).length := by
  cases h with
  | generated row documents entry hinsert hstatus =>
    rw [drafts_insert hinsert rfl hstatus]
    have hother : ¬OfType collectionId documentType row := by
      rintro ⟨rfl, rfl⟩
      exact he row.id rfl
    rw [if_neg hother, List.append_nil]
  | updated id content draftParams =>
    exact length_drafts_update (id_setContent content draftParams) rfl fun r hr => hr
  | sent id userId email now =>
    refine length_drafts_update (id_setSent userId email now) rfl fun r hr => ?_
    have hstatus := hr.2
    simp [setSent] at hstatus
  | _ => exact le_rfl

theorem Effect.length_drafts_generated {id collectionId : ℕ} {documentType : EscalationDocumentType}
    (h : Effect s t (some (.documentGenerated id collectionId documentType)) d) :
    (drafts collectionId documentType d).length =
      (drafts collectionId documentType s.store).length + 1 := by
  cases h with
  | generated row documents entry hinsert hstatus =>
    rw [drafts_insert hinsert rfl hstatus, if_pos ⟨rfl, rfl⟩, List.length_append,
      List.length_singleton]

end Step

/-! ## The invariant -/

/-- The call committed a finalisation of the document. -/
def Sender (documentId t : ℕ) (s : State World Event) : Prop :=
  (t, some (.documentSent documentId)) ∈ s.hist

/-- The records and the notifications of a document, and the call that they are of. -/
structure Traced (documentId : ℕ) (s : State World Event) : Prop where
  unsent : Unsent documentId s.store → sentRecords documentId s.store = [] ∧
    notifications documentId s.store = [] ∧ ∀ t, ¬Sender documentId t s
  sent : ¬Unsent documentId s.store →
    (sentRecords documentId s.store).length = 1 ∧ (notifications documentId s.store).length ≤ 1
  one : ∀ t u, Sender documentId t s → Sender documentId u s → t = u
  notified : notifications documentId s.store ≠ [] →
    ∀ t, Sender documentId t s → ∃ job, (t, some (.enqueued job)) ∈ s.hist

section Invariant

variable {s : State World Event} {t documentId : ℕ} {e : Option Event} {d : World}

theorem sender_record (u : ℕ) : Sender documentId u (s.record t e d) ↔
    (u = t ∧ e = some (.documentSent documentId)) ∨ Sender documentId u s := by
  unfold Sender
  rw [State.record_hist, List.mem_cons, Prod.mk.injEq]
  simp [eq_comm]

theorem Notifying.sender (h : Notifying documentId (own t s.hist)) : Sender documentId t s := by
  obtain ⟨action, rest, howns, rest', rfl, -⟩ := h
  refine mem_own.1 ?_
  rw [howns]
  simp

/-- A call that is about to notify the buyer has not done it. -/
theorem Notifying.not_enqueued (h : Notifying documentId (own t s.hist)) (job : Job) :
    (t, some (.enqueued job)) ∉ s.hist := by
  obtain ⟨action, rest, howns, rest', rfl, hread⟩ := h
  intro hmem
  have hown := mem_own.2 hmem
  rw [howns] at hown
  simp only [List.mem_cons, Option.some.injEq, reduceCtorEq, false_or] at hown
  have := hread _ hown
  simp at this

/-- What does not concern the document leaves it traced. -/
theorem Traced.frame (hs : Traced documentId s) (he : e ≠ some (.documentSent documentId))
    (hunsent : Unsent documentId d ↔ Unsent documentId s.store)
    (hrecords : sentRecords documentId d = sentRecords documentId s.store)
    (hnotifications : notifications documentId d = notifications documentId s.store) :
    Traced documentId (s.record t e d) := by
  have hsender : ∀ u, Sender documentId u (s.record t e d) ↔ Sender documentId u s := fun u => by
    simp [sender_record, he]
  constructor
  · intro h
    obtain ⟨hno, hnone, hnobody⟩ := hs.unsent (hunsent.1 h)
    exact ⟨hrecords.trans hno, hnotifications.trans hnone, fun u hu => hnobody u ((hsender u).1 hu)⟩
  · intro h
    rw [State.record_store, hrecords, hnotifications]
    exact hs.sent fun h' => h (hunsent.2 h')
  · intro u v hu hv
    exact hs.one u v ((hsender u).1 hu) ((hsender v).1 hv)
  · intro h u hu
    rw [State.record_store, hnotifications] at h
    obtain ⟨job, hjob⟩ := hs.notified h u ((hsender u).1 hu)
    exact ⟨job, List.mem_cons_of_mem _ hjob⟩

/-- A finalisation that finds a draft makes the first record, and its call is the sender. -/
theorem Traced.sent_of_draft (hs : Traced documentId s)
    (heff : Effect s t (some (.documentSent documentId)) d) (hdraft : Unsent documentId s.store) :
    Traced documentId (s.record t (some (.documentSent documentId)) d) := by
  obtain ⟨hno, hnone, hnobody⟩ := hs.unsent hdraft
  have hnotifications : notifications documentId d = [] := by
    rcases heff.notifications_eq documentId with heq | ⟨-, job, he, -⟩
    · rw [heq, hnone]
    · simp at he
  have hsent := heff.sent_of_unsent hdraft
  have hsender : ∀ u, Sender documentId u (s.record t (some (.documentSent documentId)) d) → u = t := by
    intro u hu
    rcases (sender_record u).1 hu with ⟨rfl, -⟩ | hu
    · rfl
    · exact absurd hu (hnobody u)
  constructor
  · intro h
    exact absurd h hsent
  · intro _
    rw [State.record_store, heff.length_sentRecords, hno, hnotifications]
    simp
  · intro u v hu hv
    rw [hsender u hu, hsender v hv]
  · intro h
    exact absurd hnotifications h

/-- The notification of the sender is the first. -/
theorem Traced.notify (hs : Traced documentId s) {job : Job}
    (heff : Effect s t (some (.enqueued job)) d) (hown : Notifying documentId (own t s.hist))
    (hnotifications : notifications documentId d = notifications documentId s.store ++ [job]) :
    Traced documentId (s.record t (some (.enqueued job)) d) := by
  have hne : some (Event.enqueued job) ≠ some (.documentSent documentId) := by simp
  have hunsent := heff.unsent_iff hne
  have hsent : ¬Unsent documentId s.store := fun h => (hs.unsent h).2.2 t hown.sender
  have hnone : notifications documentId s.store = [] := by
    by_contra h
    obtain ⟨job', hjob⟩ := hs.notified h t hown.sender
    exact hown.not_enqueued job' hjob
  have hsender : ∀ u, Sender documentId u (s.record t (some (.enqueued job)) d) → u = t := by
    intro u hu
    rcases (sender_record u).1 hu with ⟨rfl, -⟩ | hu
    · rfl
    · exact hs.one u t hu hown.sender
  constructor
  · intro h
    exact absurd (hunsent.1 h) hsent
  · intro _
    rw [State.record_store, heff.sentRecords_eq hne, hnotifications, hnone]
    exact ⟨(hs.sent hsent).1, le_rfl⟩
  · intro u v hu hv
    rw [hsender u hu, hsender v hv]
  · intro _ u hu
    rw [hsender u hu]
    exact ⟨job, List.mem_cons_self⟩

/-- The step lemma for a document. -/
theorem Traced.step (hs : Traced documentId s) (hmove : protocol.Moves OnDrafts s t e d) :
    Traced documentId (s.record t e d) := by
  have heff : Effect s t e d := hmove.effect
  by_cases he : e = some (.documentSent documentId)
  · subst he
    exact hs.sent_of_draft heff ((hmove.cond _ rfl).1 documentId rfl)
  · rcases heff.notifications_eq documentId with hsame | ⟨hown, job, rfl, hnew⟩
    · exact hs.frame he (heff.unsent_iff he) (heff.sentRecords_eq he) hsame
    · exact hs.notify heff hown hnew

/-- Every document is traced, and no two live drafts are of one collection and type. -/
structure AllTraced (s : State World Event) : Prop where
  traced : ∀ documentId, Traced documentId s
  drafted : ∀ collectionId documentType, (drafts collectionId documentType s.store).length ≤ 1

theorem AllTraced.once (hs : AllTraced s) : Once s.store where
  recorded documentId := by
    by_cases h : Unsent documentId s.store
    · simp [((hs.traced documentId).unsent h).1]
    · exact ((hs.traced documentId).sent h).1.le
  notified documentId := by
    by_cases h : Unsent documentId s.store
    · simp [((hs.traced documentId).unsent h).2.1]
    · exact ((hs.traced documentId).sent h).2
  drafted := hs.drafted

/-- The step lemma. -/
theorem AllTraced.step (hs : AllTraced s) (hmove : protocol.Moves OnDrafts s t e d) :
    AllTraced (s.record t e d) := by
  have heff : Effect s t e d := hmove.effect
  refine ⟨fun documentId => (hs.traced documentId).step hmove, fun collectionId documentType => ?_⟩
  show (drafts collectionId documentType d).length ≤ 1
  by_cases he : ∃ id, e = some (.documentGenerated id collectionId documentType)
  · obtain ⟨id, rfl⟩ := he
    have hnone : drafts collectionId documentType s.store = [] :=
      (hmove.cond _ rfl).2 (collectionId, documentType) rfl
    rw [heff.length_drafts_generated, hnone]
    simp
  · have hle : (drafts collectionId documentType d).length ≤
        (drafts collectionId documentType s.store).length :=
      heff.length_drafts fun id hid => he ⟨id, hid⟩
    exact hle.trans (hs.drafted collectionId documentType)

/-- A step that breaks the condition breaks the law. -/
theorem AllTraced.onDrafts (hs : AllTraced s) {event : Event} (heff : Effect s t (some event) d)
    (honce : Once d) : OnDrafts s t event := by
  constructor
  · intro documentId hid
    have he : event = .documentSent documentId := by
      cases event <;> simp_all [sentDocument?]
    subst he
    by_contra hsent
    have hone := ((hs.traced documentId).sent hsent).1
    have htwo := honce.recorded documentId
    rw [heff.length_sentRecords, hone] at htwo
    omega
  · rintro ⟨collectionId, documentType⟩ hx
    obtain ⟨id, rfl⟩ : ∃ id, event = .documentGenerated id collectionId documentType := by
      cases event <;> simp_all [generatedDraft?]
    have hle := honce.drafted collectionId documentType
    rw [heff.length_drafts_generated] at hle
    show drafts collectionId documentType s.store = []
    exact List.length_eq_zero_iff.1 (by omega)

end Invariant

theorem Lawful.allTraced {w : World} (hw : Lawful w) : AllTraced ⟨w, []⟩ where
  traced documentId :=
    { unsent := fun h => ⟨(hw.unsent documentId h).1, (hw.unsent documentId h).2, fun _ => by
        simp [Sender]⟩
      sent := hw.sent documentId
      one := fun t u ht => by simp [Sender] at ht
      notified := fun _ t ht => by simp [Sender] at ht }
  drafted := hw.drafted

/-- **Documents are sent once.** From a lawful store, the runs along which each document is recorded and
notified at most once, a document that was sent stays as it is, and a collection has at most one live
draft of a type, are exactly those in which each finalisation finds its document a draft and each new
draft finds none of its collection and type. -/
theorem documents_sent_once_iff (cfg : Config) (w : World) (hw : Lawful w)
    (s : Sys World Input Event RisError) :
    Relation.ReflTransGen (fun s s' => Step (program cfg) always s s' ∧ Once s'.store ∧
        KeepsSent s.store s'.store) (Sys.init w) s ↔
      Reaches (program cfg) OnDrafts (Sys.init w) s := by
  refine Protocol.runs_iff (program_implements cfg) trivial (P := AllTraced)
    (R := fun s s' => Once s'.store ∧ KeepsSent s.store s'.store) hw.allTraced
    (fun s hs => ⟨hs.once, fun _ _ hr _ => hr⟩) ?_ ?_ ?_ s
  · intro s t d hs hmove
    have hmove' : protocol.Moves OnDrafts s t none d :=
      ⟨hmove.inv, hmove.running, hmove.effect, fun _ he => by cases he⟩
    exact ⟨(hs.step hmove').once, Effect.keepsSent hmove.effect⟩
  · intro s t e d hs hmove
    refine ⟨fun h => hs.onDrafts hmove.effect h.1, fun hcond => ?_⟩
    have hmove' : protocol.Moves OnDrafts s t (some e) d :=
      ⟨hmove.inv, hmove.running, hmove.effect, fun _ he => Option.some.inj he ▸ hcond⟩
    exact ⟨(hs.step hmove').once, Effect.keepsSent hmove.effect⟩
  · intro s t e d hs hmove h
    refine hs.step ⟨hmove.inv, hmove.running, hmove.effect, fun event he => ?_⟩
    subst he
    exact hs.onDrafts hmove.effect h.1

/-! ## Two at a time -/

/-- An escalated collection with its buyer and its supplier, and no document. -/
def escalatedWorld : World :=
  { exampleWorld .overdue (exampleCollection 1 .overdue 40 2) with
    suppliers := .single { id := 1, userId := 9, preferredPaymentMethod := "bank_transfer" } }

theorem escalatedWorld_lawful : Lawful escalatedWorld where
  unsent _ _ := ⟨rfl, rfl⟩
  sent documentId h := absurd (fun _ hr => by cases hr) h
  drafted _ _ := Nat.zero_le 1

/-- A demand letter is drafted and sent, one call after the other. -/
theorem demand_letter_is_sent :
    ∃ s : Sys World Input Event RisError,
      (sentRecords 5 s.store).length = 1 ∧ (notifications 5 s.store).length = 1 ∧
        Relation.ReflTransGen (fun s s' => Step (program {}) always s s' ∧ Once s'.store ∧
          KeepsSent s.store s'.store) (Sys.init escalatedWorld) s := by
  obtain ⟨s, hs, hP⟩ := exists_reaches (program {}) OnDrafts (Sys.init escalatedWorld)
    (Act.call (.generateDraftDocument 1 .demandLetter (.user 7)) 0 (List.replicate 6 { uuid := 5 }) ++
      Act.call (.finalizeAndSend 5 7) 1 (List.replicate 6 { uuid := 6 }))
    (fun s => (sentRecords 5 s.store).length = 1 ∧ (notifications 5 s.store).length = 1)
    (by decide)
  obtain ⟨hrecords, hnotifications⟩ := of_decide_eq_true hP
  exact ⟨s, hrecords, hnotifications, (documents_sent_once_iff {} _ escalatedWorld_lawful s).2 hs⟩

/-- Two officers draft the demand letter side by side and then send the same one side by side: there are
two live drafts, then two records and two notifications of one letter. -/
theorem demand_letter_is_sent_twice :
    Lawful escalatedWorld ∧
      ∃ s s' : Sys World Input Event RisError,
        Reaches (program {}) always (Sys.init escalatedWorld) s ∧
          (drafts 1 .demandLetter s.store).length = 2 ∧
          Reaches (program {}) always s s' ∧ (sentRecords 5 s'.store).length = 2 ∧
          (notifications 5 s'.store).length = 2 := by
  obtain ⟨s, s', hs, hs', hP⟩ := exists_reaches_reaches (program {}) always (Sys.init escalatedWorld)
    ([.start (.generateDraftDocument 1 .demandLetter (.user 7)),
        .start (.generateDraftDocument 1 .demandLetter (.user 8)), .move 0 {}, .move 1 {}] ++
      List.replicate 5 (.move 0 { uuid := 5 }) ++ List.replicate 5 (.move 1 { uuid := 6 }))
    ([.start (.finalizeAndSend 5 7), .start (.finalizeAndSend 5 8), .move 2 {}, .move 3 {}] ++
      List.replicate 5 (.move 2 { now := 1 }) ++ List.replicate 5 (.move 3 { now := 2 }))
    (fun s s' => (drafts 1 .demandLetter s.store).length = 2 ∧ (sentRecords 5 s'.store).length = 2 ∧
      (notifications 5 s'.store).length = 2) (by decide)
  obtain ⟨hdrafts, hrecords, hnotifications⟩ := of_decide_eq_true hP
  exact ⟨escalatedWorld_lawful, s, s', hs, hdrafts, hs', hrecords, hnotifications⟩

end Ris.Collections.Documents
