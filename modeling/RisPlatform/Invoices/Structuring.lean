import RisPlatform.Invoices.DraftPath
import RisPlatform.Invoices.Protocol

/-!
# Structuring

An invoice below the threshold may not be submitted when, with what its supplier has sent its buyer in the
30 days before, it reaches the threshold. `submitInvoice` asks for the total in a statement of its own, and
by the time that the rows were created; `submitDraft` does not ask. So the law holds along exactly those
runs in which the check would pass where the submission commits, were each row created when it was
submitted.
-/

namespace Ris.Invoices

open Relational Concurrent

/-! ## The law -/

/-- When the invoice was submitted: its deadline was set then. A row without one stands for its creation. -/
def submittedAt (r : Invoice) : ℤ :=
  (r.slaDeadline.map fun deadline => deadline - 72 * 3600000).getD r.createdAt

/-- The invoice that the event submits. -/
def submitted? : Event → Option ℕ
  | .invoiceSubmitted invoiceId _ => some invoiceId
  | .draftSubmitted invoiceId _ => some invoiceId
  | _ => none

/-- The invoices that were submitted, the latest first. -/
def submittedIds (hist : List (ℕ × Option Event)) : List ℕ := hist.filterMap fun x => x.2.bind submitted?

/-- The invoice was no draft in the first store, or has been submitted since. -/
def WasSubmitted (w₀ : World) (hist : List (ℕ × Option Event)) (invoiceId : ℕ) : Prop :=
  (∃ r ∈ w₀.invoices.get? invoiceId, r.status ≠ .draft) ∨ invoiceId ∈ submittedIds hist

instance (w₀ : World) (hist : List (ℕ × Option Event)) : DecidablePred (WasSubmitted w₀ hist) :=
  fun _ => inferInstanceAs (Decidable (_ ∨ _))

/-- What the supplier has sent the buyer since then, of the invoices with the property. -/
def pairTotal (P : ℕ → Prop) [DecidablePred P] (supplierId buyerId : ℕ) (since : ℤ) (w : World) : ℤ :=
  w.invoices.sum fun r =>
    if P r.id ∧ r.supplierId = supplierId ∧ r.buyerId = buyerId ∧ since ≤ submittedAt r then r.faceValue
    else 0

/-- No invoice below the threshold was submitted that reached it, with those of its pair that had been
submitted in the 30 days before. -/
def Unstructured (cfg : Config) (w₀ w : World) : List (ℕ × Option Event) → Prop
  | [] => True
  | x :: earlier =>
    Unstructured cfg w₀ w earlier ∧
      ∀ invoiceId ∈ x.2.bind submitted?, ¬WasSubmitted w₀ earlier invoiceId →
        ∀ r ∈ w.invoices.get? invoiceId, r.faceValue < cfg.amlFlagThreshold →
          r.faceValue + pairTotal (WasSubmitted w₀ earlier) r.supplierId r.buyerId
            (submittedAt r - 30 * dayMs) w < cfg.amlFlagThreshold

instance decidableUnstructured (cfg : Config) (w₀ w : World) :
    (hist : List (ℕ × Option Event)) → Decidable (Unstructured cfg w₀ w hist)
  | [] => inferInstanceAs (Decidable True)
  | x :: earlier =>
    have := decidableUnstructured cfg w₀ w earlier
    inferInstanceAs (Decidable (_ ∧ ∀ invoiceId ∈ x.2.bind submitted?, _))

def setCreated (r : Invoice) : Invoice := { r with createdAt := submittedAt r }

theorem id_setCreated (r : Invoice) : (setCreated r).id = r.id := rfl

/-- The store, if each invoice had been created when it was submitted. -/
def asSubmitted (w : World) : World :=
  { w with invoices := w.invoices.update (fun _ => true) setCreated id_setCreated }

/-- The check of `submitInvoice` passes where a submission commits: on the store before, with every invoice
counted from its submission, at the time of the transaction. -/
def ClearOnCommit (cfg : Config) (s s' : State World Event) : Prop :=
  ∀ t e, s'.hist = (t, some e) :: s.hist → ∀ invoiceId ∈ submitted? e,
    (∀ r ∈ s.store.invoices.get? invoiceId, r.status = .draft) →
      ∀ r ∈ s'.store.invoices.get? invoiceId,
        StructuringClear cfg r.supplierId r.buyerId r.faceValue (submittedAt r) (asSubmitted s.store)

/-! ## Steps -/

/-- What counts in a total is the same. -/
structure SameTerms (r r' : Invoice) : Prop where
  supplierId : r'.supplierId = r.supplierId
  buyerId : r'.buyerId = r.buyerId
  faceValue : r'.faceValue = r.faceValue
  submittedAt : submittedAt r' = submittedAt r

theorem SameTerms.refl (r : Invoice) : SameTerms r r := ⟨rfl, rfl, rfl, rfl⟩

/-- A draft stays one, and another invoice keeps what counts. -/
structure Kept (r r' : Invoice) : Prop where
  id : r'.id = r.id
  draft : r'.status = .draft ↔ r.status = .draft
  terms : r.status ≠ .draft → SameTerms r r'

theorem Kept.refl (r : Invoice) : Kept r r := ⟨rfl, Iff.rfl, fun _ => .refl r⟩

/-- The invoice with the id is no draft any more; the others are kept. -/
structure Promoted (invoiceId : ℕ) (r r' : Invoice) : Prop where
  id : r'.id = r.id
  draft : r'.status = .draft ↔ r.status = .draft ∧ r.id ≠ invoiceId
  terms : r.status ≠ .draft → SameTerms r r'

/-- What an event does to the invoices. -/
inductive SubmissionStep (w : World) (e : Event) (w' : World) : Prop
  | kept (he : submitted? e = none) (hrows : w.invoices.Rowwise Kept w'.invoices)
  | saved (row : Invoice) (he : submitted? e = none) (hstatus : row.status = .draft)
      (hinsert : w.invoices.insert? row = some w'.invoices)
  | submitted (row : Invoice) (invoices : Table Invoice.id) (he : submitted? e = some row.id)
      (hstatus : row.status ≠ .draft) (hinsert : w.invoices.insert? row = some invoices)
      (hrows : invoices.Rowwise Kept w'.invoices)
  | promoted (invoiceId : ℕ) (he : submitted? e = some invoiceId)
      (hthere : (w.invoices.get? invoiceId).isSome)
      (hrows : w.invoices.Rowwise (Promoted invoiceId) w'.invoices)

/-- The invoice is there. -/
def There (invoiceId : ℕ) (w : World) : Prop := (w.invoices.get? invoiceId).isSome

/-- The invoice is there, and no draft. -/
def Past (invoiceId : ℕ) (w : World) : Prop := ∃ r ∈ w.invoices.get? invoiceId, r.status ≠ .draft

section Rows

variable {cfg : Config} {w w' : World} {e : Event}

theorem kept_update {p : Invoice → Bool} {f : Invoice → Invoice} {T : Table Invoice.id}
    (hf : ∀ r, (f r).id = r.id) (h : ∀ r ∈ T.rows, p r = true → Kept r (f r)) :
    T.Rowwise Kept (T.update p f hf) :=
  Table.rowwise_update h fun r _ _ => .refl r

theorem kept_flagAbove (faceValue : ℤ) (invoiceId : ℕ) (T : Table Invoice.id) :
    T.Rowwise Kept (flagAbove cfg faceValue invoiceId T) := by
  unfold flagAbove
  split
  · exact kept_update _ fun _ _ _ => ⟨rfl, Iff.rfl, fun _ => ⟨rfl, rfl, rfl, rfl⟩⟩
  · exact .refl Kept.refl _

theorem promoted_promote (invoiceId : ℕ) (now : ℤ) (T : Table Invoice.id) :
    T.Rowwise (Promoted invoiceId) (promote invoiceId now T) := by
  refine Table.rowwise_update (fun r _ hr => ?_) fun r _ hr => ?_
  · obtain ⟨hid, hdraft⟩ := of_decide_eq_true hr
    refine ⟨rfl, iff_of_false (by simp [setSubmitted]) fun h => h.2 hid, fun h => absurd hdraft h⟩
  · have hother := of_decide_eq_false hr
    refine ⟨rfl, ⟨fun hdraft => ⟨hdraft, fun hid => hother ⟨hid, hdraft⟩⟩, fun h => h.1⟩, fun _ => .refl r⟩

/-- The effects of the service. -/
theorem SubmissionStep.of_seen (h : SeenEffect cfg There Past w e w') : SubmissionStep w e w' := by
  obtain ⟨heff, hpast⟩ := h
  cases heff with
  | read => exact .kept rfl (.refl Kept.refl _)
  | submitted data now invoices auditLogs href hinsert =>
    exact .submitted (data.submittedRow now) invoices rfl (by simp [CreateInvoiceInput.submittedRow]) hinsert
      (kept_flagAbove _ _ _)
  | saved data now invoices hinsert => exact .saved (data.draftRow now) rfl rfl hinsert
  | updated invoiceId supplierId fields =>
    refine .kept rfl (kept_update (id_setDraftFields fields) fun r _ hr => ?_)
    have hdraft : r.status = .draft := (of_decide_eq_true hr).2.2
    exact ⟨rfl, Iff.rfl, fun h => absurd hdraft h⟩
  | promoted invoiceId faceValue now entry hdraft =>
    refine .promoted invoiceId rfl hdraft ((promoted_promote invoiceId now _).trans
      (kept_flagAbove faceValue invoiceId _) fun a b c hab hbc => ?_)
    refine ⟨hbc.id.trans hab.id, hbc.draft.trans hab.draft, fun h => ?_⟩
    have hfirst := hab.terms h
    have hsecond := hbc.terms fun hb => h (hab.draft.1 hb).1
    exact ⟨hsecond.1.trans hfirst.1, hsecond.2.trans hfirst.2, hsecond.3.trans hfirst.3,
      hsecond.4.trans hfirst.4⟩
  | withdrawn invoiceId entry =>
    obtain ⟨r₀, hr₀, hstatus⟩ := hpast invoiceId rfl
    refine .kept rfl (kept_update id_setWithdrawn fun r hr hid => ?_)
    obtain rfl : r₀ = r := Table.eq_of_mem (Table.mem_of_get? hr₀) hr
      ((Table.key_of_get? hr₀).trans (of_decide_eq_true hid).symm)
    exact ⟨rfl, iff_of_false (by simp [setWithdrawn]) hstatus, fun _ => ⟨rfl, rfl, rfl, rfl⟩⟩

/-- An invoice that is no draft stays so, and keeps what counts. -/
theorem SubmissionStep.get_past (h : SubmissionStep w e w') {invoiceId : ℕ} {r : Invoice}
    (hr : w.invoices.get? invoiceId = some r) (hstatus : r.status ≠ .draft) :
    ∃ r', w'.invoices.get? invoiceId = some r' ∧ r'.status ≠ .draft ∧ SameTerms r r' := by
  cases h with
  | kept _ hrows =>
    obtain ⟨r', hr', hkept⟩ := hrows.exists_of_get?_left (fun _ _ h => h.id) hr
    exact ⟨r', hr', fun h => hstatus (hkept.draft.1 h), hkept.terms hstatus⟩
  | saved row _ _ hinsert => exact ⟨r, Table.get?_insert?_of_get? hinsert hr, hstatus, .refl r⟩
  | submitted row T _ _ hinsert hrows =>
    obtain ⟨r', hr', hkept⟩ :=
      hrows.exists_of_get?_left (fun _ _ h => h.id) (Table.get?_insert?_of_get? hinsert hr)
    exact ⟨r', hr', fun h => hstatus (hkept.draft.1 h), hkept.terms hstatus⟩
  | promoted _ _ _ hrows =>
    obtain ⟨r', hr', hpromoted⟩ := hrows.exists_of_get?_left (fun _ _ h => h.id) hr
    exact ⟨r', hr', fun h => hstatus (hpromoted.draft.1 h).1, hpromoted.terms hstatus⟩

end Rows

/-! ## Totals -/

section Totals

variable {cfg : Config} {w₀ w w' : World} {e : Event} {hist : List (ℕ × Option Event)}

/-- A total of invoices that are no drafts does not change. -/
theorem SubmissionStep.pairTotal_eq (h : SubmissionStep w e w') {P : ℕ → Prop} [DecidablePred P]
    (hP : ∀ invoiceId, P invoiceId → Past invoiceId w) (supplierId buyerId : ℕ) (since : ℤ) :
    pairTotal P supplierId buyerId since w' = pairTotal P supplierId buyerId since w := by
  have hpast : ∀ r ∈ w.invoices.rows, P r.id → r.status ≠ .draft := by
    intro r hr hid
    obtain ⟨r₀, hr₀, hstatus⟩ := hP r.id hid
    obtain rfl : r₀ = r := Table.eq_of_mem (Table.mem_of_get? hr₀) hr (Table.key_of_get? hr₀)
    exact hstatus
  have hterm : ∀ r r' : Invoice, r'.id = r.id → (P r.id → SameTerms r r') →
      (if P r'.id ∧ r'.supplierId = supplierId ∧ r'.buyerId = buyerId ∧ since ≤ submittedAt r' then
        r'.faceValue else 0) =
      if P r.id ∧ r.supplierId = supplierId ∧ r.buyerId = buyerId ∧ since ≤ submittedAt r then
        r.faceValue else 0 := by
    intro r r' hid hterms
    rw [hid]
    by_cases hr : P r.id
    · rw [(hterms hr).supplierId, (hterms hr).buyerId, (hterms hr).faceValue, (hterms hr).submittedAt]
    · rw [if_neg fun h => hr h.1, if_neg fun h => hr h.1]
  -- the new row has not got the property: it is not there yet
  have hnew : ∀ {row : Invoice} {T : Table Invoice.id}, w.invoices.insert? row = some T → ¬P row.id := by
    intro row T hinsert hrow
    obtain ⟨r₀, hr₀, -⟩ := hP row.id hrow
    rw [Table.get?_insert?_fresh hinsert] at hr₀
    cases hr₀
  unfold pairTotal
  cases h with
  | kept _ hrows =>
    exact hrows.with_mem.sum_eq fun r r' h => hterm r r' h.2.id fun hr => h.2.terms (hpast r h.1 hr)
  | saved row _ _ hinsert =>
    rw [Table.sum_insert? hinsert, if_neg fun h => hnew hinsert h.1, add_zero]
  | submitted row T _ _ hinsert hrows =>
    have hinserted := hrows.with_mem.sum_eq (f := fun r => if P r.id ∧ r.supplierId = supplierId ∧
      r.buyerId = buyerId ∧ since ≤ submittedAt r then r.faceValue else 0) fun r r' h => by
        refine hterm r r' h.2.id fun hr => h.2.terms ?_
        rcases (Table.mem_insert? hinsert).1 h.1 with hold | rfl
        · exact hpast r hold hr
        · exact absurd hr (hnew hinsert)
    rw [hinserted, Table.sum_insert? hinsert, if_neg fun h => hnew hinsert h.1, add_zero]
  | promoted _ _ _ hrows =>
    exact hrows.with_mem.sum_eq fun r r' h => hterm r r' h.2.id fun hr => h.2.terms (hpast r h.1 hr)

theorem submittedIds_cons (t : ℕ) (x : Option Event) :
    submittedIds ((t, x) :: hist) = (x.bind submitted?).toList ++ submittedIds hist := by
  cases hx : x.bind submitted? <;> simp [submittedIds, hx]

theorem WasSubmitted.cons {invoiceId : ℕ} (x : ℕ × Option Event) (h : WasSubmitted w₀ hist invoiceId) :
    WasSubmitted w₀ (x :: hist) invoiceId := by
  refine h.imp id fun hmem => ?_
  rw [submittedIds_cons]
  exact List.mem_append_right _ hmem

/-- What has been submitted does not change, so neither does what the law says of it; by induction on the
history. -/
theorem SubmissionStep.keepsUnstructured_iff (h : SubmissionStep w e w')
    (hpast : ∀ invoiceId, WasSubmitted w₀ hist invoiceId → Past invoiceId w) :
    Unstructured cfg w₀ w' hist ↔ Unstructured cfg w₀ w hist := by
  induction hist with
  | nil => exact Iff.rfl
  | cons x earlier ih =>
    have hearlier : ∀ invoiceId, WasSubmitted w₀ earlier invoiceId → Past invoiceId w :=
      fun invoiceId hid => hpast invoiceId (hid.cons x)
    rw [Unstructured, Unstructured, ih hearlier]
    refine and_congr_right fun _ => forall₂_congr fun invoiceId hid => forall_congr' fun _ => ?_
    have hsubmitted : WasSubmitted w₀ (x :: earlier) invoiceId := by
      right
      rw [submittedIds_cons, Option.mem_def.1 hid]
      exact List.mem_append_left _ (List.mem_singleton.2 rfl)
    obtain ⟨r, hr, hstatus⟩ := hpast invoiceId hsubmitted
    obtain ⟨r', hr', -, hterms⟩ := h.get_past hr hstatus
    rw [Option.mem_def] at hr
    rw [hr, hr']
    simp only [Option.mem_def, Option.some.injEq, forall_eq', hterms.faceValue, hterms.supplierId,
      hterms.buyerId, hterms.submittedAt, h.pairTotal_eq hearlier]

/-- The sum over the rows that are selected twice. -/
theorem sum_filter_filter {ρ : Type} (rows : List ρ) (p q : ρ → Prop) [DecidablePred p] [DecidablePred q]
    (f : ρ → ℤ) :
    (((rows.filter fun r => p r).filter fun r => q r).map f).sum =
      (rows.map fun r => if p r ∧ q r then f r else 0).sum := by
  induction rows with
  | nil => rfl
  | cons r rows ih =>
    rw [List.map_cons, List.sum_cons, ← ih]
    by_cases hp : p r
    · by_cases hq : q r <;> simp [hp, hq]
    · simp [hp]

/-- What the check would find, were each invoice created when it was submitted. -/
theorem get30DayRollingTotal_asSubmitted (supplierId buyerId : ℕ) (now : ℤ)
    (hdraft : ∀ r ∈ w.invoices.rows, r.status ≠ .draft ↔ WasSubmitted w₀ hist r.id) :
    (get30DayRollingTotal supplierId buyerId now (asSubmitted w)).1 =
      pairTotal (WasSubmitted w₀ hist) supplierId buyerId (now - 30 * dayMs) w := by
  have hrows : (asSubmitted w).invoices.rows = w.invoices.rows.map setCreated := by
    simp [asSubmitted]
  unfold get30DayRollingTotal submittedSince pairTotal Table.sum
  dsimp only
  rw [sum_filter_filter, hrows, List.map_map]
  refine congrArg List.sum (List.map_congr_left fun r hr => ?_)
  refine if_congr ?_ rfl rfl
  rw [← hdraft r hr]
  simp only [setCreated]
  tauto

end Totals

/-! ## The protocol -/

/-- An invoice is no draft exactly if it was submitted; and what was submitted is there. -/
structure Tracked (w₀ : World) (s : State World Event) : Prop where
  draft : ∀ r ∈ s.store.invoices.rows, r.status ≠ .draft ↔ WasSubmitted w₀ s.hist r.id
  there : ∀ invoiceId, WasSubmitted w₀ s.hist invoiceId → There invoiceId s.store

section Tracked

variable {w₀ w w' : World} {s : State World Event} {t : ℕ} {e : Event}

theorem Tracked.past (hs : Tracked w₀ s) {invoiceId : ℕ} (h : WasSubmitted w₀ s.hist invoiceId) :
    Past invoiceId s.store := by
  obtain ⟨r, hr⟩ := Option.isSome_iff_exists.1 (hs.there invoiceId h)
  obtain rfl : r.id = invoiceId := Table.key_of_get? hr
  exact ⟨r, hr, (hs.draft r (Table.mem_of_get? hr)).2 h⟩

theorem wasSubmitted_record {invoiceId : ℕ} :
    WasSubmitted w₀ (s.record t (some e) w).hist invoiceId ↔
      submitted? e = some invoiceId ∨ WasSubmitted w₀ s.hist invoiceId := by
  unfold WasSubmitted
  rw [State.record_hist, submittedIds_cons, List.mem_append, Option.mem_toList]
  exact or_left_comm

theorem SubmissionStep.there (h : SubmissionStep w e w') {invoiceId : ℕ} (hthere : There invoiceId w) :
    There invoiceId w' := by
  obtain ⟨r, hr⟩ := Option.isSome_iff_exists.1 hthere
  cases h with
  | kept _ hrows =>
    obtain ⟨r', hr', -⟩ := hrows.exists_of_get?_left (fun _ _ h => h.id) hr
    exact Option.isSome_of_eq_some hr'
  | saved row _ _ hinsert => exact Option.isSome_of_eq_some (Table.get?_insert?_of_get? hinsert hr)
  | submitted row T _ _ hinsert hrows =>
    obtain ⟨r', hr', -⟩ :=
      hrows.exists_of_get?_left (fun _ _ h => h.id) (Table.get?_insert?_of_get? hinsert hr)
    exact Option.isSome_of_eq_some hr'
  | promoted _ _ _ hrows =>
    obtain ⟨r', hr', -⟩ := hrows.exists_of_get?_left (fun _ _ h => h.id) hr
    exact Option.isSome_of_eq_some hr'

/-- The step lemma. -/
theorem Tracked.record (hs : Tracked w₀ s) (h : SubmissionStep s.store e w) :
    Tracked w₀ (s.record t (some e) w) := by
  have hstep := h
  cases h with
  | kept he hrows =>
    refine ⟨fun r' hr' => ?_, fun invoiceId hid => ?_⟩
    · obtain ⟨r, hr, hkept⟩ := hrows.exists_of_mem hr'
      rw [wasSubmitted_record, he, hkept.id, Ne, hkept.draft]
      simpa using hs.draft r hr
    · rw [wasSubmitted_record, he] at hid
      exact hstep.there (hs.there invoiceId (by simpa using hid))
  | saved row he hstatus hinsert =>
    refine ⟨fun r hr => ?_, fun invoiceId hid => ?_⟩
    · rw [wasSubmitted_record, he]
      rcases (Table.mem_insert? hinsert).1 hr with hold | rfl
      · simpa using hs.draft r hold
      · refine iff_of_false (fun h => h hstatus) ?_
        rintro (hid | hid)
        · cases hid
        · have hthere := hs.there _ hid
          rw [There, Table.get?_insert?_fresh hinsert] at hthere
          cases hthere
    · rw [wasSubmitted_record, he] at hid
      exact hstep.there (hs.there invoiceId (by simpa using hid))
  | submitted row T he hstatus hinsert hrows =>
    refine ⟨fun r' hr' => ?_, fun invoiceId hid => ?_⟩
    · obtain ⟨r, hr, hkept⟩ := hrows.exists_of_mem hr'
      rw [wasSubmitted_record, he, hkept.id, Ne, hkept.draft]
      rcases (Table.mem_insert? hinsert).1 hr with hold | rfl
      · have hother : row.id ≠ r.id := (Table.key_ne_of_insert? hinsert hold).symm
        simpa [hother] using hs.draft r hold
      · exact iff_of_true hstatus (Or.inl rfl)
    · rw [wasSubmitted_record, he] at hid
      rcases hid with hid | hid
      · obtain rfl := Option.some.inj hid
        obtain ⟨r', hr', -⟩ := hrows.exists_of_get?_left (fun _ _ h => h.id)
          (Table.get?_of_mem ((Table.mem_insert? hinsert).2 (Or.inr rfl)))
        exact Option.isSome_of_eq_some hr'
      · exact hstep.there (hs.there invoiceId hid)
  | promoted promotedId he hthere hrows =>
    refine ⟨fun r' hr' => ?_, fun invoiceId hid => ?_⟩
    · obtain ⟨r, hr, hpromoted⟩ := hrows.exists_of_mem hr'
      rw [wasSubmitted_record, he, hpromoted.id, Ne, hpromoted.draft, not_and_or, not_not,
        ← hs.draft r hr, Option.some.injEq, or_comm, eq_comm]
    · rw [wasSubmitted_record, he] at hid
      rcases hid with hid | hid
      · obtain rfl := Option.some.inj hid
        exact hstep.there hthere
      · exact hstep.there (hs.there invoiceId hid)

end Tracked

/-- Effects depend on the store alone; a call may return at any time. -/
def protocol (w₀ : World) : Protocol World Event where
  inv := Tracked w₀
  effect s _ e d :=
    match e with
    | some event => SubmissionStep s.store event d
    | none => d = s.store
  inv_effect := by
    intro s t e d hs h
    cases e with
    | some event => exact hs.record h
    | none =>
      obtain rfl : d = s.store := h
      exact ⟨hs.draft, hs.there⟩
  return_stable _ _ _ _ := rfl

theorem auditing (w₀ : World) : Auditing (protocol w₀) where
  read _ _ := .kept rfl (.refl Kept.refl _)
  threw _ _ := .kept rfl (.refl Kept.refl _)
  logged _ _ _ := .kept rfl (.refl Kept.refl _)
  enqueued _ _ _ := .kept rfl (.refl Kept.refl _)
  leftJobs _ _ _ := .kept rfl (.refl Kept.refl _)
  audited _ _ _ := .kept rfl (.refl Kept.refl _)

/-- Every operation follows the protocol. -/
theorem program_implements (w₀ : World) (cfg : Config) : (protocol w₀).Implements (program cfg) := by
  have hallow : Allows (protocol w₀) (SeenEffect cfg There Past) := fun _ _ _ _ _ h => .of_seen h
  have hthere : ∀ invoiceId, (protocol w₀).Steady fun s => There invoiceId s.store := by
    intro invoiceId s t e d _ hthere heff
    cases e with
    | none => exact (show d = s.store from heff) ▸ hthere
    | some e => exact SubmissionStep.there heff hthere
  have hpast : ∀ invoiceId, (protocol w₀).Steady fun s => Past invoiceId s.store := by
    rintro invoiceId s t e d - ⟨r, hr, hstatus⟩ heff
    cases e with
    | none => exact (show d = s.store from heff) ▸ ⟨r, hr, hstatus⟩
    | some e =>
      obtain ⟨r', hr', hstatus', -⟩ := SubmissionStep.get_past heff hr hstatus
      exact ⟨r', hr', hstatus'⟩
  intro op t
  refine (free_program_of_seen (auditing w₀) hallow (fun s invoiceId r _ hr _ => ?_) hthere
    (fun s invoiceId r _ hr hstatus => ⟨r, hr, hstatus⟩) hpast op t).conseq
    (fun _ _ _ => trivial) (fun _ _ _ _ => rfl) fun _ _ _ _ => rfl
  exact Option.isSome_of_eq_some hr

/-! ## Runs -/

/-- The step lemma: a step keeps the law exactly if the check would pass where it submits an invoice. -/
theorem SubmissionStep.unstructured_record_iff {cfg : Config} {w₀ w : World}
    {s : State World Event} {t : ℕ}
    {e : Event} (h : SubmissionStep s.store e w) (hs : Tracked w₀ s)
    (hlaw : Unstructured cfg w₀ s.store s.hist) :
    Unstructured cfg w₀ w (s.record t (some e) w).hist ↔
      ClearOnCommit cfg s (s.record t (some e) w) := by
  have hpast : ∀ invoiceId, WasSubmitted w₀ s.hist invoiceId → Past invoiceId s.store := fun _ => hs.past
  have hfirst : ∀ invoiceId, ¬WasSubmitted w₀ s.hist invoiceId ↔
      ∀ r ∈ s.store.invoices.get? invoiceId, r.status = .draft := by
    intro invoiceId
    constructor
    · intro hnot r hr
      obtain rfl : r.id = invoiceId := Table.key_of_get? hr
      by_contra hstatus
      exact hnot ((hs.draft r (Table.mem_of_get? hr)).1 hstatus)
    · intro hdraft hsubmitted
      obtain ⟨r, hr, hstatus⟩ := hs.past hsubmitted
      exact hstatus (hdraft r hr)
  rw [State.record_hist, Unstructured, h.keepsUnstructured_iff hpast, and_iff_right hlaw]
  unfold ClearOnCommit
  simp only [State.record_hist, List.cons.injEq, Prod.mk.injEq, Option.some.injEq, and_true,
    Option.bind_some, State.record_store]
  constructor
  · rintro hclear _ _ ⟨rfl, rfl⟩ invoiceId hid hdraft r hr
    have hbelow := hclear invoiceId hid ((hfirst invoiceId).2 hdraft) r hr
    rw [h.pairTotal_eq hpast] at hbelow
    rw [StructuringClear, get30DayRollingTotal_asSubmitted _ _ _ hs.draft]
    omega
  · intro hclear invoiceId hid hnot r hr hbelow
    have hpasses := hclear t e ⟨rfl, rfl⟩ invoiceId hid ((hfirst invoiceId).1 hnot) r hr
    rw [StructuringClear, get30DayRollingTotal_asSubmitted _ _ _ hs.draft] at hpasses
    rw [h.pairTotal_eq hpast]
    omega

/-- **No structuring.** The runs of the service along which no invoice below the threshold is ever submitted
that reaches it with those of its pair of the 30 days before are exactly those in which the check passes
where each submission commits, every invoice counted from its submission. -/
theorem unstructured_iff (cfg : Config) (w : World) (s : Sys World Input Event RisError) :
    Relation.ReflTransGen
        (fun s s' => Step (program cfg) always s s' ∧ Unstructured cfg w s'.store s'.hist) (Sys.init w) s ↔
      Relation.ReflTransGen
        (fun s s' => Step (program cfg) always s s' ∧ ClearOnCommit cfg s.toState s'.toState)
        (Sys.init w) s := by
  have htracked : Tracked w ⟨w, []⟩ := by
    refine ⟨fun r hr => ?_, ?_⟩
    · simp [WasSubmitted, submittedIds, Table.get?_of_mem hr]
    · rintro invoiceId (⟨r, hr, -⟩ | hid)
      · exact Option.isSome_of_eq_some hr
      · cases hid
  refine Protocol.runs_congr (program_implements w cfg) htracked
    (P := fun s => Unstructured cfg w s.store s.hist) (R := fun _ s' => Unstructured cfg w s'.store s'.hist)
    (T := ClearOnCommit cfg) trivial ?_ ?_ ?_ s
  · exact fun s hs => ⟨hs, fun t e hhist => by simp at hhist⟩
  · intro s t e d hs hmove
    cases e with
    | none =>
      obtain rfl : d = s.store := hmove.effect
      refine iff_of_true ⟨hs, fun invoiceId hid => ?_⟩ fun u e hhist => by simp at hhist
      cases hid
    | some e => exact SubmissionStep.unstructured_record_iff hmove.effect hmove.inv hs
  · exact fun s t e d _ _ hgood => hgood

/-! ## Three ways around the check -/

/-- An approved supplier that has not sent the buyer anything yet. -/
def newPair : World := { belowThreshold with invoices := .empty }

/-- 60,000,000 shillings, due with `secondHalf`. -/
def firstHalf : InvoiceSubmission := { secondHalf with invoiceNumber := "INV-1", faceValue := 60000000 }

/-- The invoice is saved as a draft on the day, as call `t`. -/
def saveOn (day : ℤ) (data : InvoiceSubmission) (invoiceId t : ℕ) : List (Act Op Input) :=
  Act.call (.saveDraft 9 data {}) t (List.replicate 3 { now := day * dayMs, uuid := invoiceId })

/-- The draft is submitted on the day, as call `t`. -/
def promoteOn (day : ℤ) (invoiceId t : ℕ) : List (Act Op Input) :=
  Act.call (.submitDraft invoiceId 9 {}) t (List.replicate 7 { now := day * dayMs })

/-- The next `n` statements of call `t`, on the day. -/
def moveOn (day : ℤ) (t n : ℕ) : List (Act Op Input) :=
  List.replicate n (.move t { now := day * dayMs, uuid := t + 1 })

/-- Both halves are submitted as drafts; or at once, each checked before the other commits; or the second at
once, a day after the first, which was saved 50 days before. -/
theorem structured_submissions :
    (∃ s : Sys World Input Event RisError, Reaches (program {}) always (Sys.init newPair) s ∧
      s.store.invoices.rows.map (fun r => (r.status, r.faceValue)) =
        [(.submitted, 60000000), (.submitted, 50000000)] ∧ ¬Unstructured {} newPair s.store s.hist) ∧
    (∃ s : Sys World Input Event RisError, Reaches (program {}) always (Sys.init newPair) s ∧
      s.hist.filterMap (fun x => x.2.bind submitted?) = [2, 1] ∧ ¬Unstructured {} newPair s.store s.hist) ∧
    ∃ s : Sys World Input Event RisError, Reaches (program {}) always (Sys.init newPair) s ∧
      s.store.invoices.rows.map (fun r => (r.createdAt / dayMs, submittedAt r / dayMs)) =
        [(19950, 20000), (20001, 20001)] ∧ ¬Unstructured {} newPair s.store s.hist := by
  obtain ⟨s₁, h₁, hP₁⟩ := exists_reaches (program {}) always (Sys.init newPair)
    (saveOn 20000 firstHalf 1 0 ++ saveOn 20000 secondHalf 2 1 ++ promoteOn 20000 1 2 ++ promoteOn 20000 2 3)
    (fun s => s.store.invoices.rows.map (fun r => (r.status, r.faceValue)) =
      [(.submitted, 60000000), (.submitted, 50000000)] ∧ ¬Unstructured {} newPair s.store s.hist)
    (by decide +kernel)
  obtain ⟨s₂, h₂, hP₂⟩ := exists_reaches (program {}) always (Sys.init newPair)
    ([.start (.submitInvoice 9 firstHalf {}), .start (.submitInvoice 9 secondHalf {})] ++
      moveOn 20000 0 5 ++ moveOn 20000 1 5 ++ moveOn 20000 0 1 ++ moveOn 20000 1 1)
    (fun s => s.hist.filterMap (fun x => x.2.bind submitted?) = [2, 1] ∧
      ¬Unstructured {} newPair s.store s.hist) (by decide +kernel)
  obtain ⟨s₃, h₃, hP₃⟩ := exists_reaches (program {}) always (Sys.init newPair)
    (saveOn 19950 firstHalf 1 0 ++ promoteOn 20000 1 1 ++ [.start (.submitInvoice 9 secondHalf {})] ++
      moveOn 20001 2 6)
    (fun s => s.store.invoices.rows.map (fun r => (r.createdAt / dayMs, submittedAt r / dayMs)) =
      [(19950, 20000), (20001, 20001)] ∧ ¬Unstructured {} newPair s.store s.hist) (by decide +kernel)
  exact ⟨⟨s₁, h₁, of_decide_eq_true hP₁⟩, ⟨s₂, h₂, of_decide_eq_true hP₂⟩, s₃, h₃, of_decide_eq_true hP₃⟩

end Ris.Invoices
