import RisPlatform.Invoices.DraftPath
import RisPlatform.Invoices.Protocol

/-!
# The tenor of a submitted invoice

`saveDraft` and `updateDraft` compute the tenor of a draft from its due date and the clock, and
`submitDraft` checks the range again but keeps the tenor that is stored. So the tenor of an invoice is
that of the day on which its due date was last given. It counts a begun day as a whole one, whereas the
stored due date is a date.
-/

namespace Ris.Invoices

open Relational Concurrent

/-- Every statement of a call reads the clock at the time of the call. -/
def AtTime (time : ℤ) (i : Input) : Prop := i.now = time

/-! ## When an invoice was dated -/

/-- The due date that a call gives. -/
def Op.dueDate : Op → Option ℤ
  | .submitInvoice _ data _ => some data.dueDate
  | .saveDraft _ data _ => some data.dueDate
  | .updateDraft _ _ data _ => data.dueDate
  | .submitDraft _ _ _ => none
  | .withdrawInvoice _ _ _ _ => none

/-- The invoice whose row the event writes with the values of the call. -/
def given : Event → Option ℕ
  | .invoiceSubmitted invoiceId _ => some invoiceId
  | .draftSaved invoiceId => some invoiceId
  | .draftUpdated invoiceId => some invoiceId
  | _ => none

/-- The due date that the statement gave the invoice, and when. -/
def dated (cs : List (Op × ℤ)) (invoiceId : ℕ) (x : ℕ × Option Event) : Option (ℤ × ℤ) :=
  if x.2.bind given = some invoiceId then
    cs[x.1]?.bind fun call => call.1.dueDate.map fun dueDate => (dueDate, call.2)
  else none

/-- The due date that the invoice was given last, and when. -/
def lastDated (cs : List (Op × ℤ)) (hist : List (ℕ × Option Event)) (invoiceId : ℕ) : Option (ℤ × ℤ) :=
  hist.findSome? (dated cs invoiceId)

section Dated

variable {cs : List (Op × ℤ)} {call : Op × ℤ} {s s' : State World Event} {invoiceId : ℕ}

/-- Calm statements date nothing. -/
theorem lastDated_calm (h : Calm s s') : lastDated cs s'.hist invoiceId = lastDated cs s.hist invoiceId := by
  obtain ⟨new, hnew, hcalm⟩ := h.hist
  rw [hnew, lastDated, List.findSome?_append]
  have hnone : new.findSome? (dated cs invoiceId) = none := by
    rw [List.findSome?_eq_none_iff]
    intro x hx
    obtain ⟨e, he, hcalm⟩ := hcalm x hx
    have hgiven : given e = none := by
      cases e <;> first | rfl | exact hcalm.elim
    simp [dated, he, hgiven]
  rw [hnone]
  rfl

/-- A call that is made later does not date what was done before. -/
theorem lastDated_append (h : ∀ x ∈ s.hist, x.1 < cs.length) :
    lastDated (cs ++ [call]) s.hist invoiceId = lastDated cs s.hist invoiceId := by
  unfold lastDated
  have hdated : ∀ x ∈ s.hist, dated (cs ++ [call]) invoiceId x = dated cs invoiceId x := by
    intro x hx
    rw [dated, dated, List.getElem?_append_left (h x hx)]
  generalize s.hist = hist at hdated
  induction hist with
  | nil => rfl
  | cons x hist ih =>
    rw [List.findSome?_cons, List.findSome?_cons, hdated x List.mem_cons_self,
      ih fun y hy => hdated y (List.mem_cons_of_mem x hy)]

end Dated

/-! ## The law -/

/-- The stored tenor is the number of days from the day of `time` to the due date, and in the range. -/
def TenorCurrent (cfg : Config) (time : ℤ) (r : Invoice) : Prop :=
  r.tenorDays = some (r.dueDate - time / dayMs) ∧ TenorAllowed cfg (r.dueDate - time / dayMs)

/-- The invoice was last given its due date on the day of `time`, and at a time of day that is not
earlier than the due date's. -/
def DatedThatDay (cs : List (Op × ℤ)) (hist : List (ℕ × Option Event)) (invoiceId : ℕ) (time : ℤ) :
    Prop :=
  ∃ dueDate datedAt, lastDated cs hist invoiceId = some (dueDate, datedAt) ∧
    datedAt / dayMs = time / dayMs ∧ dueDate % dayMs ≤ datedAt % dayMs

/-- The row has the dates that were given last. -/
def AsDated (cs : List (Op × ℤ)) (hist : List (ℕ × Option Event)) (invoiceId : ℕ) (r : Invoice) : Prop :=
  ∃ dueDate datedAt, lastDated cs hist invoiceId = some (dueDate, datedAt) ∧
    (∃ op, (op, datedAt) ∈ cs) ∧ r.dueDate = dueDate / dayMs ∧
      r.tenorDays = some (computeTenorDays dueDate datedAt)

/-- A begun day counts as a whole one. -/
theorem computeTenorDays_eq (dueDate now : ℤ) :
    computeTenorDays dueDate now =
      dueDate / dayMs - now / dayMs + if now % dayMs < dueDate % dayMs then 1 else 0 := by
  unfold computeTenorDays dayMs
  split <;> omega

/-- To a date, a begun day does not count. -/
theorem computeTenorDays_date (date now : ℤ) :
    computeTenorDays (date * dayMs) now = date - now / dayMs := by
  unfold computeTenorDays dayMs
  omega

/-- The stored tenor is the number of days exactly if the dates are of that day. -/
theorem AsDated.tenor_iff {cs : List (Op × ℤ)} {hist : List (ℕ × Option Event)} {invoiceId : ℕ}
    {r : Invoice} (h : AsDated cs hist invoiceId r) {time : ℤ} (htimes : ∀ x ∈ cs, x.2 ≤ time) :
    r.tenorDays = some (r.dueDate - time / dayMs) ↔ DatedThatDay cs hist invoiceId time := by
  obtain ⟨dueDate, datedAt, hlast, ⟨op, hmem⟩, hdue, htenor⟩ := h
  have hle : datedAt ≤ time := htimes _ hmem
  have hdays : datedAt / dayMs ≤ time / dayMs := by
    unfold dayMs
    omega
  rw [htenor, hdue, Option.some.injEq, computeTenorDays_eq]
  constructor
  · intro heq
    refine ⟨dueDate, datedAt, hlast, ?_⟩
    split at heq
    · omega
    · exact ⟨by omega, by omega⟩
  · rintro ⟨dueDate', datedAt', hlast', hday, htime⟩
    rw [hlast, Option.some.injEq, Prod.mk.injEq] at hlast'
    obtain ⟨rfl, rfl⟩ := hlast'
    rw [if_neg (by omega)]
    omega

/-! ## What a call leaves -/

/-- The row is a draft, or was not submitted before. -/
def NewlyIn (w : World) (invoiceId : ℕ) (r : Invoice) : Prop :=
  r.status = .draft ∨
    r.status = .submitted ∧ ∀ old, w.invoices.get? invoiceId = some old → old.status ≠ .submitted

/-- The drafts, and the invoices submitted since `w`, have the dates that were given last; the tenor of
the latter was checked at `time`. -/
def Leaves (cfg : Config) (cs : List (Op × ℤ)) (time : ℤ) (w : World) (s : State World Event) : Prop :=
  ∀ invoiceId r, s.store.invoices.get? invoiceId = some r → NewlyIn w invoiceId r →
    AsDated cs s.hist invoiceId r ∧
      (r.status = .submitted → r.tenorDays = some (r.dueDate - time / dayMs) →
        TenorAllowed cfg (r.dueDate - time / dayMs))

/-- The drafts have the dates that were given last. -/
def DraftsDated (cs : List (Op × ℤ)) (s : State World Event) : Prop :=
  ∀ invoiceId r, s.store.invoices.get? invoiceId = some r → r.status = .draft →
    AsDated cs s.hist invoiceId r

section Leaves

variable {cfg : Config} {cs : List (Op × ℤ)} {time : ℤ} {t : ℕ} {w : World} {s s' : State World Event}

theorem Leaves.drafts (h : Leaves cfg cs time w s) : DraftsDated cs s :=
  fun invoiceId r hr hstatus => (h invoiceId r hr (Or.inl hstatus)).1

/-- A call that changes no invoice leaves the drafts. -/
theorem DraftsDated.leaves (h : DraftsDated cs s) : Leaves cfg cs time s.store s := by
  rintro invoiceId r hr (hstatus | ⟨hstatus, hold⟩)
  · exact ⟨h invoiceId r hr hstatus, fun hsubmitted => by rw [hstatus] at hsubmitted; cases hsubmitted⟩
  · exact absurd hstatus (hold r hr)

theorem AsDated.calm {invoiceId : ℕ} {r : Invoice} (h : AsDated cs s.hist invoiceId r)
    (hcalm : Calm s s') : AsDated cs s'.hist invoiceId r := by
  unfold AsDated
  rw [lastDated_calm hcalm]
  exact h

theorem Leaves.calm (h : Leaves cfg cs time w s) (hcalm : Calm s s') : Leaves cfg cs time w s' := by
  intro invoiceId r hr hnew
  rw [hcalm.store] at hr
  obtain ⟨hdated, hallowed⟩ := h invoiceId r hr hnew
  exact ⟨hdated.calm hcalm, hallowed⟩

/-- Before a call changes an invoice, what it leaves is what was there. -/
theorem DraftsDated.leaves_calm (h : DraftsDated cs s) (hcalm : Calm s s') :
    Leaves cfg cs time s.store s' :=
  h.leaves.calm hcalm

theorem lastDated_record_self {e : Event} {d : World} {invoiceId : ℕ} {op : Op} {dueDate : ℤ}
    (he : given e = some invoiceId) (hcall : cs[t]? = some (op, time)) (hop : op.dueDate = some dueDate) :
    lastDated cs (s.record t (some e) d).hist invoiceId = some (dueDate, time) := by
  simp [lastDated, dated, he, hcall, hop]

theorem lastDated_record_of_ne {e : Event} {d : World} {invoiceId : ℕ} (he : given e ≠ some invoiceId) :
    lastDated cs (s.record t (some e) d).hist invoiceId = lastDated cs s.hist invoiceId := by
  simp [lastDated, dated, he]

theorem lastDated_record_of_none {e : Event} {d : World} {invoiceId : ℕ} {op : Op}
    (hcall : cs[t]? = some (op, time)) (hop : op.dueDate = none) :
    lastDated cs (s.record t (some e) d).hist invoiceId = lastDated cs s.hist invoiceId := by
  simp [lastDated, dated, hcall, hop]

theorem DraftsDated.calm (h : DraftsDated cs s) (hcalm : Calm s s') : DraftsDated cs s' := by
  intro invoiceId r hr hstatus
  rw [hcalm.store] at hr
  exact (h invoiceId r hr hstatus).calm hcalm

/-- Only the invoices before the call matter. -/
theorem Leaves.of_invoices (h : Leaves cfg cs time w s) {w' : World} (hw : w.invoices = w'.invoices) :
    Leaves cfg cs time w' s := by
  intro invoiceId r hr hnew
  rw [NewlyIn, ← hw] at hnew
  exact h invoiceId r hr hnew

theorem AsDated.congr {hist hist' : List (ℕ × Option Event)} {invoiceId : ℕ} {r r' : Invoice}
    (h : AsDated cs hist invoiceId r)
    (hlast : lastDated cs hist' invoiceId = lastDated cs hist invoiceId)
    (hdates : r'.dueDate = r.dueDate ∧ r'.tenorDays = r.tenorDays) : AsDated cs hist' invoiceId r' := by
  unfold AsDated
  rw [hlast, hdates.1, hdates.2]
  exact h

/-- Setting the flag keeps the status and the dates. -/
theorem dates_flagAbove {faceValue : ℤ} {invoiceId j : ℕ} {invoices : Table Invoice.id} {r : Invoice}
    (h : (flagAbove cfg faceValue invoiceId invoices).get? j = some r) :
    ∃ r₀, invoices.get? j = some r₀ ∧ r.status = r₀.status ∧ r.dueDate = r₀.dueDate ∧
      r.tenorDays = r₀.tenorDays := by
  unfold flagAbove at h
  split at h
  · rw [Table.get?_update, Option.map_eq_some_iff] at h
    obtain ⟨r₀, hr₀, rfl⟩ := h
    refine ⟨r₀, hr₀, ?_⟩
    split <;> exact ⟨rfl, rfl, rfl⟩
  · exact ⟨r, h, rfl, rfl, rfl⟩

variable {e : Event} {d : World} {op : Op} (hdrafts : DraftsDated cs s) (hcall : cs[t]? = some (op, time))

include hdrafts hcall

/-- A new row has the dates of the call. -/
theorem leaves_inserted {row : Invoice} {invoices : Table Invoice.id} {dueDate : ℤ}
    (hinsert : s.store.invoices.insert? row = some invoices) (he : given e = some row.id)
    (hop : op.dueDate = some dueDate) (hdue : row.dueDate = dueDate / dayMs)
    (htenor : row.tenorDays = some (computeTenorDays dueDate time))
    (hallowed : row.status = .submitted → TenorAllowed cfg (computeTenorDays dueDate time))
    (hd : ∀ invoiceId r, d.invoices.get? invoiceId = some r → ∃ r₀, invoices.get? invoiceId = some r₀ ∧
      r.status = r₀.status ∧ r.dueDate = r₀.dueDate ∧ r.tenorDays = r₀.tenorDays) :
    Leaves cfg cs time s.store (s.record t (some e) d) := by
  intro invoiceId r hr hnew
  obtain ⟨r₀, hr₀, hstatus, hdates⟩ := hd invoiceId r hr
  rw [Table.get?_insert? hinsert] at hr₀
  split at hr₀
  next hid =>
    obtain rfl := Option.some.inj hr₀
    have hlast := lastDated_record_self (s := s) (d := d) (hid ▸ he) hcall hop
    refine ⟨⟨dueDate, time, hlast, ⟨op, List.mem_of_getElem? hcall⟩, ?_, ?_⟩, fun hsubmitted hdays => ?_⟩
    · rw [hdates.1, hdue]
    · rw [hdates.2, htenor]
    · rw [hdates.2, htenor, Option.some.injEq] at hdays
      rw [← hdays]
      exact hallowed (hstatus ▸ hsubmitted)
  next hid =>
    -- another row is as it was, so it is new only as a draft
    have hlast : lastDated cs (s.record t (some e) d).hist invoiceId = lastDated cs s.hist invoiceId :=
      lastDated_record_of_ne fun h => hid (Option.some.inj (h.symm.trans he))
    rcases hnew with hdraft | ⟨hsubmitted, hold⟩
    · refine ⟨(hdrafts invoiceId r₀ hr₀ (hstatus ▸ hdraft)).congr hlast hdates, fun hsubmitted => ?_⟩
      rw [hdraft] at hsubmitted
      cases hsubmitted
    · exact absurd (hstatus ▸ hsubmitted) (hold r₀ hr₀)

/-- A draft that is updated has the dates of the call, if it gives any. -/
theorem leaves_updated {invoiceId supplierId : ℕ} {data : InvoiceUpdate} {faceValue : Option ℤ}
    {r : Invoice} (hr : s.store.invoices.get? invoiceId = some r) (hdraft : IsDraftOf invoiceId supplierId r)
    (he : given e = some invoiceId) (hop : op.dueDate = data.dueDate)
    (hd : d.invoices = s.store.invoices.update (fun r => IsDraftOf invoiceId supplierId r)
      (setDraftFields ((data.draft time).fields faceValue)) (id_setDraftFields _)) :
    Leaves cfg cs time s.store (s.record t (some e) d) := by
  intro j r' hr' hnew
  have hget : d.invoices.get? j = some r' := hr'
  rw [hd] at hget
  by_cases hj : j = invoiceId
  · subst hj
    rw [Table.get?_update_of_get? hr, if_pos (decide_eq_true hdraft), Option.some.injEq] at hget
    subst hget
    have hstatus : (setDraftFields ((data.draft time).fields faceValue) r).status = .draft := hdraft.2.2
    refine ⟨?_, fun hsubmitted => by rw [hstatus] at hsubmitted; cases hsubmitted⟩
    cases hdata : data.dueDate with
    | none =>
      refine (hdrafts j r hr hdraft.2.2).congr (lastDated_record_of_none hcall (hop.trans hdata)) ?_
      simp [setDraftFields, DraftUpdate.fields, InvoiceUpdate.draft, hdata]
    | some dueDate =>
      refine ⟨dueDate, time, lastDated_record_self he hcall (hop.trans hdata),
        ⟨op, List.mem_of_getElem? hcall⟩, ?_, ?_⟩
      · simp [setDraftFields, DraftUpdate.fields, InvoiceUpdate.draft, hdata]
      · simp [setDraftFields, DraftUpdate.fields, InvoiceUpdate.draft, hdata]
  · rw [Table.get?_update_of_not (fun x hx => decide_eq_false fun hid => hj
      ((Table.key_of_get? hx).symm.trans hid.1))] at hget
    have hlast : lastDated cs (s.record t (some e) d).hist j = lastDated cs s.hist j :=
      lastDated_record_of_ne fun h => hj (Option.some.inj (h.symm.trans he))
    rcases hnew with hstatus | ⟨hsubmitted, hold⟩
    · refine ⟨(hdrafts j r' hget hstatus).congr hlast ⟨rfl, rfl⟩, fun hsubmitted => ?_⟩
      rw [hstatus] at hsubmitted
      cases hsubmitted
    · exact absurd hsubmitted (hold r' hget)

omit hcall in
/-- A draft that is promoted keeps its dates. -/
theorem leaves_promoted {invoiceId : ℕ} {faceValue now : ℤ} (he : given e = none)
    (hallowed : ∀ r, s.store.invoices.get? invoiceId = some r → TenorAllowed cfg (r.dueDate - time / dayMs))
    (hd : d.invoices = flagAbove cfg faceValue invoiceId (promote invoiceId now s.store.invoices)) :
    Leaves cfg cs time s.store (s.record t (some e) d) := by
  intro j r hr hnew
  have hget : d.invoices.get? j = some r := hr
  rw [hd] at hget
  obtain ⟨r₁, hr₁, hstatus₁, hdates₁⟩ := dates_flagAbove hget
  rw [promote, Table.get?_update, Option.map_eq_some_iff] at hr₁
  obtain ⟨r₀, hr₀, rfl⟩ := hr₁
  have hlast : lastDated cs (s.record t (some e) d).hist j = lastDated cs s.hist j :=
    lastDated_record_of_ne (by rw [he]; exact nofun)
  by_cases hmatch : r₀.id = invoiceId ∧ r₀.status = .draft
  · rw [if_pos (decide_eq_true hmatch)] at hstatus₁ hdates₁
    obtain rfl : j = invoiceId := (Table.key_of_get? hr₀).symm.trans hmatch.1
    refine ⟨(hdrafts j r₀ hr₀ hmatch.2).congr hlast hdates₁, fun _ _ => ?_⟩
    rw [hdates₁.1]
    exact hallowed r₀ hr₀
  · rw [if_neg (by simpa using hmatch)] at hstatus₁ hdates₁
    rcases hnew with hstatus | ⟨hsubmitted, hold⟩
    · refine ⟨(hdrafts j r₀ hr₀ (hstatus₁ ▸ hstatus)).congr hlast hdates₁, fun hsubmitted => ?_⟩
      rw [hstatus] at hsubmitted
      cases hsubmitted
    · exact absurd (hstatus₁ ▸ hsubmitted) (hold r₀ hr₀)

omit hcall in
/-- A withdrawn invoice is no draft and not submitted. -/
theorem leaves_withdrawn {invoiceId : ℕ} (he : given e = none)
    (hd : d.invoices = s.store.invoices.update (fun r => r.id = invoiceId) setWithdrawn id_setWithdrawn) :
    Leaves cfg cs time s.store (s.record t (some e) d) := by
  intro j r hr hnew
  have hget : d.invoices.get? j = some r := hr
  rw [hd, Table.get?_update, Option.map_eq_some_iff] at hget
  obtain ⟨r₀, hr₀, rfl⟩ := hget
  have hlast : lastDated cs (s.record t (some e) d).hist j = lastDated cs s.hist j :=
    lastDated_record_of_ne (by rw [he]; exact nofun)
  by_cases hmatch : r₀.id = invoiceId
  · rw [if_pos (decide_eq_true hmatch)] at hnew
    rcases hnew with hstatus | ⟨hstatus, -⟩
    · cases hstatus
    · cases hstatus
  · rw [if_neg (by simpa using hmatch)] at hnew ⊢
    rcases hnew with hstatus | ⟨hsubmitted, hold⟩
    · refine ⟨(hdrafts j r₀ hr₀ hstatus).congr hlast ⟨rfl, rfl⟩, fun hsubmitted => ?_⟩
      rw [hstatus] at hsubmitted
      cases hsubmitted
    · exact absurd hsubmitted (hold r₀ hr₀)

end Leaves

/-! ## The operations -/

section Operations

variable {cfg : Config} {cs : List (Op × ℤ)} {time : ℤ} {t : ℕ} {s : State World Event}
  (hdrafts : DraftsDated cs s)

/-- The clock that the buyer's check returns is that of the call. -/
theorem alone_validateBuyerEligibility (buyerId userId : ℕ) (results : List ValidationResult)
    (req : Request) :
    (validateBuyerEligibility buyerId userId results req).Alone (AtTime time) t
      (fun r s' => Calm s s' ∧ ∀ x, r = .ok x → x.1.2 = time) s := by
  refine alone_queryNow_bind (fun i s₁ hi hcalm => ?_) fun e s' hcalm => ⟨hcalm, fun _ hx => nomatch hx⟩
  dsimp only
  generalize findBuyerWithLimits buyerId s.store = found
  cases hactive : found.filter fun b => b.isActive with
  | none =>
    simp only [Option.map_none]
    exact Passive.alone_bind (fun G hG => free_logValidationResults hG _ _ _)
      (fun _ s₂ h => ⟨hcalm.trans h, fun _ hx => nomatch hx⟩)
      fun e s₂ h => ⟨hcalm.trans h, fun _ hx => nomatch hx⟩
  | some buyer =>
    simp only [Option.map_some]
    refine ⟨hcalm, fun x hx => ?_⟩
    obtain rfl := Except.ok.inj hx
    exact hi

/-- The draft that passes the guard is the row of the store, and the clock is that of the call. -/
theorem alone_guardDraftOwnership (invoiceId userId : ℕ) (message : String) :
    (guardDraftOwnership invoiceId userId message).Alone (AtTime time) t
      (fun r s' => Calm s s' ∧ ∀ x, r = .ok x →
        s.store.invoices.get? invoiceId = some x.1 ∧ x.2.2 = time) s := by
  refine alone_query_bind (fun s₁ h₁ => ?_) fun e s' h => ⟨h, fun _ hx => nomatch hx⟩
  refine alone_lift_bind (fun invoice hguard => ?_) fun e _ => ⟨h₁, fun _ hx => nomatch hx⟩
  obtain ⟨hfound, -⟩ := guardDraft_ok_iff.1 hguard
  refine alone_queryNow_bind (fun i s₂ hi h₂ => ?_) fun e s' h => ⟨h₁.trans h, fun _ hx => nomatch hx⟩
  refine alone_lift_bind (fun supplier _ => ?_) fun e _ => ⟨h₁.trans h₂, fun _ hx => nomatch hx⟩
  refine ⟨h₁.trans h₂, fun x hx => ?_⟩
  obtain rfl := Except.ok.inj hx
  exact ⟨hfound, hi⟩

theorem passive_submitted (invoiceId buyerId supplierId : ℕ) (faceValue : ℤ) (timelineDays : Option ℤ) :
    Passive (do
      log "INVOICE_SUBMITTED"
      notifyAmlCompliance cfg invoiceId faceValue
      queueBuyerConfirmation cfg invoiceId buyerId
      scheduleAssessmentReminders cfg invoiceId supplierId
      scheduleFundingTimelineReminder cfg invoiceId supplierId timelineDays
      return invoiceId) :=
  fun _ hG => free_bind (free_log hG.toQuiet _) fun _ => free_bind (free_notifyAmlCompliance hG _ _) fun _ =>
    free_bind (free_queueBuyerConfirmation hG _ _) fun _ =>
      free_bind (free_scheduleAssessmentReminders hG _ _) fun _ =>
        free_bind (free_scheduleFundingTimelineReminder hG _ _ _) fun _ => free_pure _

include hdrafts

theorem alone_submitInvoice {userId : ℕ} {data : InvoiceSubmission} {req : Request}
    (hcall : cs[t]? = some (.submitInvoice userId data req, time)) :
    (submitInvoice cfg userId data req).Alone (AtTime time) t
      (fun _ s' => Leaves cfg cs time s.store s') s := by
  have hcalm : ∀ s', Calm s s' → Leaves cfg cs time s.store s' := fun _ => hdrafts.leaves_calm
  refine alone_lift_bind (fun faceValue _ => ?_) fun _ _ => hcalm s (Calm.refl s)
  refine Passive.alone_bind (fun G hG => free_bind (free_query hG.toQuiet _) fun _ =>
    free_requireStep hG _ _ _ _ _ _ _) ?_ fun _ => hcalm
  rintro ⟨supplier, results⟩ s₁ h₁
  refine Passive.alone_bind (fun G hG => free_bind (free_query hG.toQuiet _) fun _ =>
    free_requireStep hG _ _ _ _ _ _ _) ?_ fun _ s' h => hcalm s' (h₁.trans h)
  rintro ⟨_, results⟩ s₂ h₂
  replace h₂ := h₁.trans h₂
  refine (alone_validateBuyerEligibility _ _ _ _).bind ?_ fun _ s' h => hcalm s' (h₂.trans h.1)
  rintro ⟨⟨buyer, now⟩, results⟩ s₃ ⟨h₃, hnow⟩
  replace h₃ := h₂.trans h₃
  obtain rfl : now = time := hnow _ rfl
  refine alone_lift_bind (fun x htenor => ?_) fun _ _ => hcalm s₃ h₃
  obtain ⟨tenorDays, results⟩ := x
  obtain ⟨hallowed, rfl, -⟩ := validateTenor_ok_iff.1 htenor
  refine alone_lift_bind (fun results _ => ?_) fun _ _ => hcalm s₃ h₃
  refine Passive.alone_bind (fun G hG => free_checkStructuring hG _ _ _ _ _) (fun _ s₄ h₄ => ?_)
    fun _ s' h => hcalm s' (h₃.trans h)
  replace h₄ := h₃.trans h₄
  refine Passive.alone_bind (fun G hG => free_checkVelocitySpike hG _ _ _) (fun _ s₅ h₅ => ?_)
    fun _ s' h => hcalm s' (h₄.trans h)
  replace h₅ := h₄.trans h₅
  refine alone_transaction_bind (fun i invoiceId d hi hbody => ?_) fun _ s' h => hcalm s' (h₅.trans h)
  obtain ⟨invoices, rfl, -, hinsert, hd⟩ := executeSubmitTransaction_ok hbody
  have hnow : i.now = now := hi
  have hleaves : Leaves cfg cs now s.store (s₅.record t (some (.invoiceSubmitted i.uuid faceValue)) d) := by
    refine (leaves_inserted (hdrafts.calm h₅) hcall hinsert rfl rfl rfl rfl (fun _ => hallowed) ?_).of_invoices ?_
    · intro j r hr
      rw [hd] at hr
      exact dates_flagAbove hr
    · rw [h₅.store]
  exact (passive_submitted _ _ _ _ _).alone.mono fun _ s' h => hleaves.calm h

theorem alone_saveDraft {userId : ℕ} {data : InvoiceSubmission} {req : Request}
    (hcall : cs[t]? = some (.saveDraft userId data req, time)) :
    (saveDraft userId data req).Alone (AtTime time) t (fun _ s' => Leaves cfg cs time s.store s') s := by
  have hcalm : ∀ s', Calm s s' → Leaves cfg cs time s.store s' := fun _ => hdrafts.leaves_calm
  refine alone_queryNow_bind (fun i s₁ hi h₁ => ?_) fun _ => hcalm
  dsimp only
  generalize Pricing.findSupplierByUserId userId s.store = found
  cases found with
  | none => exact hcalm s₁ h₁
  | some supplier =>
    refine alone_transaction_bind (fun i' invoiceId _ _ hbody => ?_) fun _ s' h => hcalm s' (h₁.trans h)
    simp only [Txn.bind_ok, Txn.input_ok, Txn.pure_ok] at hbody
    obtain ⟨_, _, ⟨rfl, rfl⟩, _, d, hcreate, rfl, rfl⟩ := hbody
    obtain ⟨n, -, -, hinsert, hd⟩ := createDraftInvoice_ok hcreate
    have hnow : i.now = time := hi
    have hleaves : Leaves cfg cs time s.store (s₁.record t (some (.draftSaved i'.uuid)) d) := by
      refine (leaves_inserted (hdrafts.calm h₁) hcall hinsert rfl rfl rfl ?_ ?_
        fun j r hr => ⟨r, hr, rfl, rfl, rfl⟩).of_invoices ?_
      · rw [← hnow]
        rfl
      · intro hsubmitted
        cases hsubmitted
      · rw [h₁.store]
    refine Passive.alone_bind (fun G hG => free_auditAlone hG _) (fun _ s' h => ?_) fun e s' h => ?_
    · exact hleaves.calm h
    · exact hleaves.calm h

theorem alone_updateDraft {invoiceId userId : ℕ} {data : InvoiceUpdate} {req : Request}
    (hcall : cs[t]? = some (.updateDraft invoiceId userId data req, time)) :
    (updateDraft invoiceId userId data req).Alone (AtTime time) t
      (fun _ s' => Leaves cfg cs time s.store s') s := by
  have hcalm : ∀ s', Calm s s' → Leaves cfg cs time s.store s' := fun _ => hdrafts.leaves_calm
  refine (alone_guardDraftOwnership _ _ _).bind ?_ fun _ s' h => hcalm s' h.1
  rintro ⟨invoice, supplierId, now⟩ s₁ ⟨h₁, hguard⟩
  obtain ⟨-, rfl⟩ := hguard _ rfl
  refine alone_transaction_bind (fun i updated d _ hbody => ?_) fun _ s' h => hcalm s' (h₁.trans h)
  have hleaves : Leaves cfg cs now s.store
      (s₁.record t (some (draftEvent invoiceId (data.draft now) updated)) d) := by
    rcases updateDraftFields_ok hbody with ⟨hevent, rfl⟩ | ⟨faceValue, r, hevent, hr, hdraft, rfl⟩
    · rw [hevent]
      exact hcalm _ (h₁.trans (calm_record trivial rfl))
    · rw [hevent]
      refine (leaves_updated (hdrafts.calm h₁) hcall hr hdraft rfl rfl rfl).of_invoices ?_
      rw [h₁.store]
  cases updated with
  | none => exact hleaves
  | some invoice =>
    refine Passive.alone_bind (fun G hG => free_auditAlone hG _) (fun _ s' h => ?_) fun e s' h => ?_
    · exact hleaves.calm h
    · exact hleaves.calm h

theorem alone_submitDraft {invoiceId userId : ℕ} {req : Request} :
    (submitDraft cfg invoiceId userId req).Alone (AtTime time) t
      (fun _ s' => Leaves cfg cs time s.store s') s := by
  have hcalm : ∀ s', Calm s s' → Leaves cfg cs time s.store s' := fun _ => hdrafts.leaves_calm
  refine (alone_guardDraftOwnership _ _ _).bind ?_ fun _ s' h => hcalm s' h.1
  rintro ⟨invoice, supplierId, now⟩ s₁ ⟨h₁, hguard⟩
  obtain ⟨hinvoice, -⟩ := hguard _ rfl
  refine alone_query_bind (fun s₂ h₂ => ?_) fun _ s' h => hcalm s' (h₁.trans h)
  replace h₂ := h₁.trans h₂
  refine alone_lift_bind (fun supplier _ => ?_) fun _ _ => hcalm s₂ h₂
  refine alone_queryNow_bind (fun i s₃ hi h₃ => ?_) fun _ s' h => hcalm s' (h₂.trans h)
  replace h₃ := h₂.trans h₃
  refine alone_lift_bind (fun _ hchecks => ?_) fun _ _ => hcalm s₃ h₃
  obtain ⟨buyer, -, -, hallowed, -⟩ := validateForSubmit_ok_iff.1 hchecks
  refine alone_transaction_bind (fun i' _ d _ hbody => ?_) fun _ s' h => hcalm s' (h₃.trans h)
  have hleaves : Leaves cfg cs time s.store
      (s₃.record t (some (.draftSubmitted invoiceId invoice.faceValue)) d) := by
    rw [executePromoteTransaction_ok hbody]
    refine (leaves_promoted (hdrafts.calm h₃) rfl (fun r hr => ?_) rfl).of_invoices ?_
    · -- the row that was checked is the one that is promoted
      rw [h₃.store, hinvoice, Option.some.injEq] at hr
      rw [← hr, ← computeTenorDays_date, ← hi]
      exact hallowed
    · rw [h₃.store]
  refine Passive.alone_bind (fun G hG => free_log hG.toQuiet _) (fun _ s₄ h₄ => ?_) fun e s' h => ?_
  · exact alone_query_bind (fun s₅ h₅ => hleaves.calm (h₄.trans h₅)) fun _ s' h =>
      hleaves.calm (h₄.trans h)
  · exact hleaves.calm h

theorem alone_withdrawInvoice {invoiceId userId : ℕ} {reason : String} {req : Request} :
    (withdrawInvoice cfg invoiceId userId reason req).Alone (AtTime time) t
      (fun _ s' => Leaves cfg cs time s.store s') s := by
  have hcalm : ∀ s', Calm s s' → Leaves cfg cs time s.store s' := fun _ => hdrafts.leaves_calm
  refine alone_query_bind (fun s₁ h₁ => ?_) fun _ => hcalm
  generalize Pricing.findSupplierByUserId userId s.store = found
  cases found with
  | none => exact hcalm s₁ h₁
  | some supplier =>
    refine alone_queryNow_bind (fun i s₂ hi h₂ => ?_) fun _ s' h => hcalm s' (h₁.trans h)
    replace h₂ := h₁.trans h₂
    dsimp only
    generalize findInvoiceByIdForSupplier invoiceId supplier.id s₁.store = invoice
    cases invoice with
    | none => exact hcalm s₂ h₂
    | some invoice =>
      refine alone_lift_bind (fun _ _ => ?_) fun _ _ => hcalm s₂ h₂
      refine alone_transaction_bind (fun i' _ d _ hbody => ?_) fun _ s' h => hcalm s' (h₂.trans h)
      obtain ⟨entry, -, rfl⟩ := executeWithdrawTransaction_ok hbody
      refine (Passive.alone fun G hG => free_log hG.toQuiet _).mono fun _ s' h => ?_
      refine ((leaves_withdrawn (hdrafts.calm h₂) rfl rfl).of_invoices ?_).calm h
      rw [h₂.store]

/-- The step lemma: what a call leaves. -/
theorem alone_program (cfg : Config) {op : Op} (hcall : cs[t]? = some (op, time)) :
    (program cfg op).Alone (AtTime time) t (fun _ s' => Leaves cfg cs time s.store s') s := by
  cases op with
  | submitInvoice userId data req =>
    exact Proc.alone_discard (alone_submitInvoice hdrafts hcall) (fun _ _ h => h) fun _ _ h => h
  | saveDraft userId data req =>
    exact Proc.alone_discard (alone_saveDraft hdrafts hcall) (fun _ _ h => h) fun _ _ h => h
  | updateDraft invoiceId userId data req =>
    exact Proc.alone_discard (alone_updateDraft hdrafts hcall) (fun _ _ h => h) fun _ _ h => h
  | submitDraft invoiceId userId req =>
    exact Proc.alone_discard (alone_submitDraft hdrafts) (fun _ _ h => h) fun _ _ h => h
  | withdrawInvoice invoiceId userId reason req => exact alone_withdrawInvoice hdrafts

end Operations

/-! ## Every sequence of calls -/

section Calls

variable {cfg : Config} {d : World} {cs : List (Op × ℤ)} {s : State World Event}

/-- What was dated before a call is still dated so. -/
theorem DraftsDated.append (h : DraftsDated cs s) (hlt : ∀ x ∈ s.hist, x.1 < cs.length) (call : Op × ℤ) :
    DraftsDated (cs ++ [call]) s := by
  intro invoiceId r hr hstatus
  obtain ⟨dueDate, datedAt, hlast, ⟨op, hmem⟩, hdates⟩ := h invoiceId r hr hstatus
  exact ⟨dueDate, datedAt, (lastDated_append hlt).trans hlast, ⟨op, List.mem_append_left _ hmem⟩, hdates⟩

/-- The run lemma: after every sequence of calls the drafts have the dates that were given last. -/
theorem draftsDated (hd : ∀ r ∈ d.invoices.rows, r.status ≠ .draft)
    (hcs : Calls (program cfg) AtTime d cs s) : DraftsDated cs s := by
  refine Calls.invariant ?_ ?_ hcs
  · intro invoiceId r hr hstatus
    exact absurd hstatus (hd r (Table.mem_of_get? hr))
  · intro cs s op time hcs ih
    refine (alone_program (ih.append hcs.hist_lt (op, time)) cfg ?_).mono fun _ _ h => h.drafts
    simp

/-- An invoice that a call submits has its current tenor, in the range, exactly if its due date was last
given on that day, at a time of day not earlier than the due date's. -/
theorem tenorCurrent_iff (hd : ∀ r ∈ d.invoices.rows, r.status ≠ .draft)
    (hcs : Calls (program cfg) AtTime d cs s) {op : Op} {time : ℤ} (htimes : ∀ x ∈ cs, x.2 ≤ time)
    {result : Except RisError Unit} {s' : State World Event}
    (hrun : (program cfg op).Run (AtTime time) cs.length s result s') {invoiceId : ℕ} {r : Invoice}
    (hbefore : ∀ old, s.store.invoices.get? invoiceId = some old → old.status ≠ .submitted)
    (hafter : s'.store.invoices.get? invoiceId = some r) (hstatus : r.status = .submitted) :
    TenorCurrent cfg time r ↔ DatedThatDay (cs ++ [(op, time)]) s'.hist invoiceId time := by
  have hdrafts := (draftsDated hd hcs).append hcs.hist_lt (op, time)
  have hleaves : Leaves cfg (cs ++ [(op, time)]) time s.store s' :=
    (alone_program hdrafts cfg (by simp)).run hrun
  obtain ⟨hdated, hallowed⟩ := hleaves invoiceId r hafter (Or.inr ⟨hstatus, hbefore⟩)
  have htimes' : ∀ x ∈ cs ++ [(op, time)], x.2 ≤ time := by
    intro x hx
    rcases List.mem_append.1 hx with hx | hx
    · exact htimes x hx
    · rw [List.mem_singleton.1 hx]
  rw [TenorCurrent, ← hdated.tenor_iff htimes']
  exact ⟨fun h => h.1, fun h => ⟨h, hallowed hstatus h⟩⟩

end Calls

/-- An invoice of 1,000,000 shillings, due on the date of `secondHalf`. -/
def small : InvoiceSubmission := { secondHalf with faceValue := 1000000 }

/-- What a call leaves that draws the same input throughout. -/
def after (op : Op) (i : Input) (t : ℕ) (s : State World Event) : State World Event :=
  ((program {} op).exec t i s).2

theorem run_after (op : Op) (i : Input) (t : ℕ) (s : State World Event) :
    ∃ result, (program {} op).Run (AtTime i.now) t s result (after op i t s) :=
  ⟨_, Proc.run_exec (show AtTime i.now i from rfl)⟩

/-- An invoice that is submitted at once, at midnight, has its current tenor. -/
theorem tenorCurrent_at_once :
    ∃ r ∈ (after (.submitInvoice 9 small {}) { now := 20000 * dayMs, uuid := 2 } 0
        ⟨belowThreshold, []⟩).store.invoices.get? 2, TenorCurrent {} (20000 * dayMs) r := by
  obtain ⟨r, hr, hstatus⟩ := (Option.any_eq_true _ _).1
    (show ((after (.submitInvoice 9 small {}) { now := 20000 * dayMs, uuid := 2 } 0
      ⟨belowThreshold, []⟩).store.invoices.get? 2).any (fun r => r.status = .submitted) = true by
        decide)
  have hnone : belowThreshold.invoices.get? 2 = none := by decide
  obtain ⟨result, hrun⟩ := run_after (.submitInvoice 9 small {}) { now := 20000 * dayMs, uuid := 2 } 0
    ⟨belowThreshold, []⟩
  refine ⟨r, hr, (tenorCurrent_iff (by decide) .nil (fun _ hx => absurd hx List.not_mem_nil) hrun
    (fun old hold => ?_) hr (of_decide_eq_true hstatus)).2 ?_⟩
  · rw [hnone] at hold
    cases hold
  · exact ⟨20030 * dayMs, 20000 * dayMs, by decide, by decide, by decide⟩

/-- A draft that is saved 30 days before its due date and submitted 20 days before it keeps its tenor. -/
theorem tenor_outlives_day :
    ∃ s s' : State World Event,
      Calls (program {}) AtTime belowThreshold [(.saveDraft 9 small {}, 20000 * dayMs)] s ∧
        (∃ result, (program {} (.submitDraft 2 9 {})).Run (AtTime (20010 * dayMs)) 1 s result s') ∧
          (∃ old ∈ s.store.invoices.get? 2, old.status = .draft) ∧
            ∃ r ∈ s'.store.invoices.get? 2, r.status = .submitted ∧
              ¬TenorCurrent {} (20010 * dayMs) r := by
  obtain ⟨old, hold, hdraft⟩ := (Option.any_eq_true _ _).1
    (show ((after (.saveDraft 9 small {}) { now := 20000 * dayMs, uuid := 2 } 0
      ⟨belowThreshold, []⟩).store.invoices.get? 2).any (fun r => r.status = .draft) = true by
        decide +kernel)
  obtain ⟨r, hr, hrow⟩ := (Option.any_eq_true _ _).1
    (show ((after (.submitDraft 2 9 {}) { now := 20010 * dayMs } 1
      (after (.saveDraft 9 small {}) { now := 20000 * dayMs, uuid := 2 } 0
        ⟨belowThreshold, []⟩)).store.invoices.get? 2).any (fun r =>
          r.status = .submitted ∧ r.tenorDays = some 30 ∧ r.dueDate = 20030) = true by
        decide +kernel)
  obtain ⟨hstatus, htenor, hdue⟩ := of_decide_eq_true hrow
  obtain ⟨saved, hsave⟩ := run_after (.saveDraft 9 small {}) { now := 20000 * dayMs, uuid := 2 } 0
    ⟨belowThreshold, []⟩
  refine ⟨_, _, .call [] _ _ _ saved _ .nil hsave, run_after (.submitDraft 2 9 {}) { now := 20010 * dayMs } 1 _,
    ⟨old, hold, of_decide_eq_true hdraft⟩, r, hr, hstatus, fun h => ?_⟩
  have hdays := h.1
  rw [htenor, hdue] at hdays
  revert hdays
  decide

end Ris.Invoices
