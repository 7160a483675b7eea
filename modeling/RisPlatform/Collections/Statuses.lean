import RisPlatform.Collections.Conformance

/-!
# Collection status and invoice status

Each operation writes the status of a collection without a condition, and moves the invoice only if it
has the status that the operation expects. So the two statuses part when the invoice is elsewhere, and
when the invoice has a second collection.
-/

namespace Ris.Collections

open Relational Concurrent

/-! ## The law -/

/-- The status of the invoice of a collection with this status; no operation makes one with any other. -/
def invoiceStatusFor : CollectionStatus → Option InvoiceStatus
  | .pending => some .collecting
  | .overdue => some .overdue
  | .escalated => some .overdue
  | .collected => some .collected
  | .badDebt => some .defaulted
  | .reminded | .reminderSent | .partialPayment | .defaulted => none

/-- A collection with this status may have an invoice with that one. -/
def Suits (c : CollectionStatus) (status : Option InvoiceStatus) : Prop :=
  ∀ expected ∈ invoiceStatusFor c, status = some expected

instance (c : CollectionStatus) (status : Option InvoiceStatus) : Decidable (Suits c status) := by
  unfold Suits
  infer_instance

/-- Every collection has an invoice with the status that goes with its own. -/
def StatusesAgree (w : World) : Prop :=
  ∀ c ∈ w.collections.rows, Suits c.status (statusOf w c.invoiceId)

/-- The invoice has no other collection with a status that an operation makes. -/
def Sole (w : World) (collectionId invoiceId : ℕ) : Prop :=
  ∀ c ∈ w.collections.rows, c.invoiceId = invoiceId → c.id ≠ collectionId →
    invoiceStatusFor c.status = none

/-- The event finds the invoice where the new status of the collection has it, or can move it there; and
it moves an invoice only if that has no other collection. -/
def FindsInvoice : Cond World Event := fun s _ e =>
  match e with
  | .collectionStarted _ i =>
      statusOf s.store i = some .funded ∨ statusOf s.store i = some .collecting
  | .collectionOverdue c i => statusOf s.store i = some .overdue ∨
      statusOf s.store i = some .collecting ∧ Sole s.store c i
  | .collectionEscalated c _ => ∀ i ∈ invoiceIdOf s.store c, statusOf s.store i = some .overdue
  | .collectionDeescalated c _ => ∀ i ∈ invoiceIdOf s.store c, statusOf s.store i = some .overdue
  | .paymentReceived i c _ => Sole s.store c i
  | .collectionResolved c i prevStatus => statusOf s.store i = some .collected ∨
      statusOf s.store i = some (resolvedFrom prevStatus) ∧ Sole s.store c i
  | .collectionDefaulted c i => statusOf s.store i = some .defaulted ∨
      statusOf s.store i = some .overdue ∧ Sole s.store c i
  | _ => True

/-! ## One step -/

/-- A status that suits two statuses of the invoice suits all of them. -/
theorem suits_both {c : CollectionStatus} {status status' : Option InvoiceStatus}
    (hne : status' ≠ status) (h : Suits c status) :
    Suits c status' ↔ invoiceStatusFor c = none := by
  constructor
  · intro h'
    by_contra hsome
    obtain ⟨expected, hexpected⟩ := Option.ne_none_iff_exists'.1 hsome
    exact hne ((h' _ hexpected).trans (h _ hexpected).symm)
  · intro hnone expected hexpected
    rw [hnone] at hexpected
    cases hexpected

/-- A funded invoice has no collection yet. -/
theorem suits_funded {c : CollectionStatus} (h : Suits c (some .funded)) :
    invoiceStatusFor c = none := by
  cases c with
  | reminded | reminderSent | partialPayment | defaulted => rfl
  | _ => cases h _ rfl

section Step

variable {cfg : Config} {w₀ w w' : World} {e : Event} {k i : ℕ} {new : CollectionStatus}

/-- The row of the event's collection after it. -/
theorem Effect.exists_row (h : Effect cfg w₀ w e w') (hb : Bounded w₀)
    (hk : e.collection? = some k) (hnew : statusAfter e = some new) :
    ∃ c' ∈ w'.collections.rows, c'.id = k ∧ c'.status = new ∧
      (∀ i, invoiceOf e = some i → c'.invoiceId = i) ∧
      (invoiceOf e = none → invoiceIdOf w k = some c'.invoiceId) := by
  cases h.rows with
  | same he _ => simp [he] at hk
  | opened c hopens hinsert =>
    obtain rfl : c.id = k := by
      rw [hopens.event, Option.some.injEq] at hk
      exact hk
    refine ⟨c, (Table.mem_insert? hinsert).2 (Or.inr rfl), rfl, ?_, fun i hi => ?_, fun hnone => ?_⟩
    · rcases hopens with ⟨rfl, hstatus, -, -⟩ | ⟨rfl, hstatus, -, -⟩
      · exact hstatus.trans (Option.some.inj hnew)
      · exact hstatus.trans (Option.some.inj hnew)
    · rw [hopens.invoice, Option.some.injEq] at hi
      exact hi
    · simp [hopens.invoice] at hnone
  | changed c c' hstep hrow =>
    obtain rfl : c.id = k := by
      have hevent := hstep.event
      rw [hk, Option.some.injEq] at hevent
      exact hevent.symm
    refine ⟨c', Table.mem_of_get? hrow.after, hstep.id, ?_, fun i hi => ?_, fun _ => ?_⟩
    · rw [hstep.status hb, nextStatus, hnew, Option.getD_some]
    · rw [hstep.invoiceId, hstep.invoice i hi]
    · rw [invoiceIdOf, hrow.before, Option.map_some, hstep.invoiceId]

/-- An event moves no invoice but its own. -/
theorem Effect.statusOf_of_ne (h : Effect cfg w₀ w e w') (hi : invoiceOf e ≠ some i) :
    statusOf w' i = statusOf w i := by
  have hid : nextInvoiceStatus e i = id := by
    funext status
    cases e with
    | collectionStarted | collectionOverdue | paymentReceived | collectionResolved
    | collectionDefaulted =>
      have hne : ¬_ = i := fun heq => hi (congrArg some heq)
      simp [nextInvoiceStatus, hne]
    | _ => rfl
  rw [h.status, hid, Option.map_id, id]

/-- A row whose collection is not the event's was there before it. -/
theorem Effect.row_before (h : Effect cfg w₀ w e w') (hk : e.collection? = some k) {c : Collection}
    (hne : c.id ≠ k) : c ∈ w'.collections.rows ↔ c ∈ w.collections.rows := by
  have hevent : e.collection? ≠ some c.id := fun he => hne (Option.some.inj (he.symm.trans hk))
  constructor
  · intro hc
    rcases h.rows.row_cases hc with ⟨hold, -⟩ | ⟨hopens, -⟩ | ⟨c₀, -, hstep⟩
    · exact hold
    · exact absurd hopens.event hevent
    · exact absurd (hstep.id ▸ hstep.event) hevent
  · intro hc
    rcases h.rows.row_stays hc with ⟨hstay, -⟩ | ⟨c', -, hstep⟩
    · exact hstay
    · exact absurd hstep.event hevent

/-- The statuses agree after an event about an invoice exactly if its new status suits the collection's
and, if that is a new one, nobody else's. -/
theorem Effect.agree_iff (h : Effect cfg w₀ w e w') (hb : Bounded w₀) (hs : StatusesAgree w)
    (hk : e.collection? = some k) (hi : invoiceOf e = some i) (hnew : statusAfter e = some new) :
    StatusesAgree w' ↔
      Suits new (statusOf w' i) ∧ (statusOf w' i = statusOf w i ∨ Sole w k i) := by
  obtain ⟨row, hrow, rfl, rfl, hinvoice, -⟩ := h.exists_row hb hk hnew
  obtain rfl := hinvoice i hi
  constructor
  · intro hagree
    refine ⟨hagree row hrow, or_iff_not_imp_left.2 fun hmoved c hc hci hne => ?_⟩
    -- another collection of an invoice that moved suits the old and the new status
    have hafter := hagree c ((h.row_before hk hne).2 hc)
    have hbefore := hs c hc
    rw [hci] at hafter hbefore
    exact (suits_both hmoved hbefore).1 hafter
  · rintro ⟨hsuits, hothers⟩ c hc
    by_cases hid : c.id = row.id
    · rw [Table.eq_of_mem hc hrow hid]
      exact hsuits
    · have hold := (h.row_before hk hid).1 hc
      by_cases hci : c.invoiceId = row.invoiceId
      · rcases hothers with hsame | hsole
        · rw [hci, hsame, ← hci]
          exact hs c hold
        · intro expected hexpected
          rw [hsole c hold hci hid] at hexpected
          cases hexpected
      · have hne : invoiceOf e ≠ some c.invoiceId := fun heq =>
          hci (Option.some.inj (heq.symm.trans hi))
        rw [h.statusOf_of_ne hne]
        exact hs c hold

/-- The statuses agree after an event about a collection alone exactly if its new status suits the
invoice. -/
theorem Effect.agree_iff_of_none (h : Effect cfg w₀ w e w') (hb : Bounded w₀) (hs : StatusesAgree w)
    (hk : e.collection? = some k) (hi : invoiceOf e = none) (hnew : statusAfter e = some new) :
    StatusesAgree w' ↔ ∀ i ∈ invoiceIdOf w k, Suits new (statusOf w i) := by
  have hsame : ∀ j, statusOf w' j = statusOf w j := fun j => h.statusOf_of_ne (by simp [hi])
  obtain ⟨row, hrow, rfl, rfl, -, hinvoice⟩ := h.exists_row hb hk hnew
  simp only [hinvoice hi, Option.mem_some_iff, forall_eq']
  constructor
  · intro hagree
    rw [← hsame]
    exact hagree row hrow
  · intro hsuits c hc
    rw [hsame]
    by_cases hid : c.id = row.id
    · rw [Table.eq_of_mem hc hrow hid]
      exact hsuits
    · exact hs c ((h.row_before hk hid).1 hc)

/-- An event that gives no status keeps the agreement. -/
theorem Effect.agree_of_none (h : Effect cfg w₀ w e w') (hb : Bounded w₀) (hs : StatusesAgree w)
    (hnew : statusAfter e = none) : StatusesAgree w' := by
  have hi : invoiceOf e = none := by
    cases e with
    | collectionStarted | collectionOverdue | paymentReceived | collectionResolved
    | collectionDefaulted => cases hnew
    | _ => rfl
  intro c' hc'
  rw [h.statusOf_of_ne (by simp [hi])]
  rcases h.rows.row_cases hc' with ⟨hold, -⟩ | ⟨hopens, -⟩ | ⟨c, hc, hstep⟩
  · exact hs c' hold
  · simp [hopens.invoice] at hi
  · rw [hstep.status hb, hstep.invoiceId, nextStatus, hnew, Option.getD_none]
    exact hs c hc

/-- The statuses agree after an event that moves an invoice from the status it expects exactly if the
invoice was moved before, or is now and has no other collection. -/
theorem Effect.agree_iff_of_move (h : Effect cfg w₀ w e w') (hb : Bounded w₀) (hs : StatusesAgree w)
    (hk : e.collection? = some k) (hi : invoiceOf e = some i) (hnew : statusAfter e = some new)
    {expected moved : InvoiceStatus} (hne : moved ≠ expected) (hfor : invoiceStatusFor new = some moved)
    (hnext : ∀ status,
      nextInvoiceStatus e i status = if status = expected then moved else status) :
    StatusesAgree w' ↔
      statusOf w i = some moved ∨ statusOf w i = some expected ∧ Sole w k i := by
  rw [h.agree_iff hb hs hk hi hnew, h.status]
  simp only [Suits, hfor, Option.mem_some_iff, forall_eq']
  cases statusOf w i with
  | none => simp
  | some status =>
    rw [Option.map_some, hnext]
    by_cases hexpected : status = expected
    · simp [hexpected, hne, hne.symm]
    · simp [hexpected]

/-- The step lemma: the statuses agree after a step exactly if it meets the condition. -/
theorem Effect.statusesAgree_iff {s : State World Event} {t : ℕ} (h : Effect cfg w₀ s.store e w')
    (hb : Bounded w₀) (hs : StatusesAgree s.store) : StatusesAgree w' ↔ FindsInvoice s t e := by
  cases e with
  | collectionStarted c i =>
    have hiff : StatusesAgree w' ↔ statusOf s.store i = some .collecting ∨
        statusOf s.store i = some .funded ∧ Sole s.store c i :=
      h.agree_iff_of_move hb hs rfl rfl rfl (by decide) rfl (by simp [nextInvoiceStatus])
    -- a funded invoice has no collection that could disagree with the move
    have hsole : statusOf s.store i = some .funded → Sole s.store c i := by
      intro hfunded r hr hri _
      have hsuits := hs r hr
      rw [hri, hfunded] at hsuits
      exact suits_funded hsuits
    rw [hiff]
    constructor
    · rintro (hcollecting | ⟨hfunded, -⟩)
      · exact Or.inr hcollecting
      · exact Or.inl hfunded
    · rintro (hfunded | hcollecting)
      · exact Or.inr ⟨hfunded, hsole hfunded⟩
      · exact Or.inl hcollecting
  | collectionOverdue c i =>
    exact h.agree_iff_of_move hb hs rfl rfl rfl (by decide) rfl (by simp [nextInvoiceStatus])
  | collectionEscalated c level =>
    rw [h.agree_iff_of_none hb hs rfl rfl rfl]
    simp [Suits, invoiceStatusFor, FindsInvoice]
  | collectionDeescalated c level =>
    have hfor : invoiceStatusFor (if 0 < level then .escalated else .overdue) = some .overdue := by
      split <;> rfl
    rw [h.agree_iff_of_none hb hs rfl rfl rfl]
    simp only [Suits, hfor, Option.mem_some_iff, forall_eq', FindsInvoice]
  | paymentReceived i c amount =>
    obtain ⟨status, hstatus, hopen⟩ := h.open_ i c amount rfl
    have hafter : statusOf w' i = some .collected := by
      rw [h.status, hstatus]
      simp [nextInvoiceStatus]
    rw [h.agree_iff hb hs rfl rfl rfl, hafter, hstatus]
    simp [Suits, invoiceStatusFor, FindsInvoice, Ne.symm hopen]
  | collectionResolved c i prevStatus =>
    have hne : InvoiceStatus.collected ≠ resolvedFrom prevStatus := by cases prevStatus <;> decide
    exact h.agree_iff_of_move hb hs rfl rfl rfl hne rfl (by simp [nextInvoiceStatus])
  | collectionDefaulted c i =>
    exact h.agree_iff_of_move hb hs rfl rfl rfl (by decide) rfl (by simp [nextInvoiceStatus])
  | _ => exact iff_of_true (h.agree_of_none hb hs rfl) trivial

end Step

/-! ## Runs -/

/-- The statuses agree, and the levels are within their bounds. -/
structure StatusConsistent (w : World) : Prop where
  agree : StatusesAgree w
  bounded : Bounded w

/-- **Collection status and invoice status.** From a consistent store, the runs along which every
collection's status agrees with its invoice's are exactly those in which each event finds the invoice
where it expects it, or where the collection's new status has it. -/
theorem statuses_agree_iff (cfg : Config) (w : World) (hw : StatusConsistent w)
    (s : Sys World Input Event RisError) :
    Relation.ReflTransGen (fun s s' => Step (program cfg) always s s' ∧ StatusesAgree s'.store)
      (Sys.init w) s ↔ Reaches (program cfg) FindsInvoice (Sys.init w) s := by
  refine Protocol.runs_iff (program_implements cfg w) (Inv.init w)
    (P := fun s => StatusesAgree s.store) (R := fun _ s' => StatusesAgree s'.store) hw.agree
    (fun _ hs => hs) ?_ ?_ (fun _ _ _ _ _ _ h => h) s
  · intro s t d hs hmove
    obtain rfl : d = s.store := hmove.effect
    exact hs
  · intro s t e d hs hmove
    exact Effect.statusesAgree_iff hmove.effect hw.bounded hs

/-! ## Runs on one invoice -/

instance (w : World) : Decidable (StatusesAgree w) := by
  unfold StatusesAgree
  infer_instance

instance (w : World) (collectionId invoiceId : ℕ) : Decidable (Sole w collectionId invoiceId) := by
  unfold Sole
  infer_instance

instance (s : State World Event) (t : ℕ) (e : Event) : Decidable (FindsInvoice s t e) := by
  unfold FindsInvoice
  induction e using Event.casesOn <;> infer_instance

instance (w : World) : Decidable (StatusConsistent w) :=
  decidable_of_iff (StatusesAgree w ∧ Bounded w) ⟨fun h => ⟨h.1, h.2⟩, fun h => ⟨h.agree, h.bounded⟩⟩

/-- `escalateCollection`, run alone as call `t`. -/
def escalateAlone (t : ℕ) : List (Act Op Input) :=
  Act.call (.escalateCollection 1 9 "no reply") t (List.replicate 3 {})

/-- An escalation and a payment, both of an overdue invoice. -/
theorem statuses_agree_when_overdue :
    ∃ s : Sys World Input Event RisError,
      s.store.collections.rows.map Collection.status = [.collected] ∧
        Relation.ReflTransGen (fun s s' => Step (program {}) always s s' ∧ StatusesAgree s'.store)
          (Sys.init (exampleWorld .overdue (exampleCollection 1 .overdue 1 0))) s := by
  obtain ⟨s, hs, hP⟩ := exists_reaches (program {}) FindsInvoice
    (Sys.init (exampleWorld .overdue (exampleCollection 1 .overdue 1 0)))
    (escalateAlone 0 ++ payAlone 1 1000)
    (fun s => s.store.collections.rows.map Collection.status = [.collected]) (by decide)
  exact ⟨s, of_decide_eq_true hP, (statuses_agree_iff {} _ (by decide) s).2 hs⟩

/-- A user escalates the pending collection of a collecting invoice. -/
theorem escalates_pending :
    StatusConsistent (exampleWorld .collecting (exampleCollection 1 .pending 0 0)) ∧
      ∃ s : Sys World Input Event RisError,
        Reaches (program {}) always
          (Sys.init (exampleWorld .collecting (exampleCollection 1 .pending 0 0))) s ∧
          ¬StatusesAgree s.store ∧
          s.store.collections.rows.map Collection.status = [.escalated] ∧
          statusOf s.store 1 = some .collecting := by
  obtain ⟨s, hs, hP⟩ := exists_reaches (program {}) always
    (Sys.init (exampleWorld .collecting (exampleCollection 1 .pending 0 0))) (escalateAlone 0)
    (fun s => ¬StatusesAgree s.store ∧ s.store.collections.rows.map Collection.status = [.escalated] ∧
      statusOf s.store 1 = some .collecting) (by decide)
  exact ⟨by decide, s, hs, of_decide_eq_true hP⟩

end Ris.Collections
