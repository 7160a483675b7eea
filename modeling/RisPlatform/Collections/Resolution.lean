import RisPlatform.Collections.Statuses

/-!
# A resolved collection

The batches act on a list they read earlier, and escalate, mark and write off a collection by its id
alone; `deescalateCollection` never looks at the status. So a collected collection is reopened by any
of them that reaches it, and only by these.
-/

namespace Ris.Collections

open Relational Concurrent

/-! ## The law -/

/-- The event is an escalation, a de-escalation, overdue processing or a default. -/
def chases : Event → Bool
  | .collectionOverdue _ _ => true
  | .collectionEscalated _ _ => true
  | .collectionDeescalated _ _ => true
  | .collectionDefaulted _ _ => true
  | _ => false

/-- A collected collection stays collected; an event that chases changes neither its level nor the
status of its invoice. -/
structure StaysResolved (s s' : State World Event) : Prop where
  collected : ∀ c ∈ s.store.collections.rows, c.status = .collected →
    ∃ c' ∈ s'.store.collections.rows, c'.id = c.id ∧ c'.status = .collected
  unchased : ∀ t e, s'.hist = (t, some e) :: s.hist → chases e = true →
    ∀ c ∈ s.store.collections.rows, c.status = .collected →
      (∃ c' ∈ s'.store.collections.rows, c'.id = c.id ∧ c'.escalationLevel = c.escalationLevel) ∧
        statusOf s'.store c.invoiceId = statusOf s.store c.invoiceId

/-- The collection is collected. -/
def Closed (w : World) (collectionId : ℕ) : Prop :=
  (w.collections.get? collectionId).map Collection.status = some .collected

/-- No collection of the invoice is collected. -/
def NoneClosed (w : World) (invoiceId : ℕ) : Prop :=
  ∀ c ∈ w.collections.rows, c.invoiceId = invoiceId → c.status ≠ .collected

/-- What chases finds its collection open; if it moves the invoice, no other collection of that is
collected. -/
def FindsOpen : Cond World Event := fun s _ e =>
  match e with
  | .collectionOverdue c i => ¬Closed s.store c ∧
      (statusOf s.store i = some .collecting → NoneClosed s.store i)
  | .collectionEscalated c _ => ¬Closed s.store c
  | .collectionDeescalated c _ => ¬Closed s.store c
  | .collectionDefaulted c i => ¬Closed s.store c ∧
      (statusOf s.store i = some .overdue → NoneClosed s.store i)
  | _ => True

/-! ## One step -/

section Step

variable {cfg : Config} {w₀ w w' : World} {e : Event} {k : ℕ}

theorem closed_of_mem {c : Collection} (hc : c ∈ w.collections.rows) (hstatus : c.status = .collected) :
    Closed w c.id := by
  rw [Closed, Table.get?_of_mem hc, Option.map_some, hstatus]

/-- What chases is about a collection, which it does not leave collected. -/
theorem chases_cases (he : chases e = true) :
    ∃ k new, e.collection? = some k ∧ statusAfter e = some new ∧ new ≠ .collected := by
  cases e with
  | collectionOverdue c i => exact ⟨c, _, rfl, rfl, by decide⟩
  | collectionEscalated c level => exact ⟨c, _, rfl, rfl, by decide⟩
  | collectionDeescalated c level => exact ⟨c, _, rfl, rfl, by split <;> decide⟩
  | collectionDefaulted c i => exact ⟨c, _, rfl, rfl, by decide⟩
  | _ => cases he

/-- What does not chase leaves a collected collection collected. -/
theorem nextStatus_collected (he : chases e = false)
    (hstarted : ∀ collectionId invoiceId, e ≠ .collectionStarted collectionId invoiceId) :
    nextStatus e .collected = .collected := by
  cases e with
  | collectionStarted c i => exact absurd rfl (hstarted c i)
  | collectionOverdue | collectionEscalated | collectionDeescalated | collectionDefaulted => cases he
  | _ => rfl

/-- What chases finds its collection open, if collected collections stay so. -/
theorem Effect.open_of_stays (h : Effect cfg w₀ w e w') (hb : Bounded w₀) (he : chases e = true)
    (hk : e.collection? = some k)
    (hstays : ∀ c ∈ w.collections.rows, c.status = .collected →
      ∃ c' ∈ w'.collections.rows, c'.id = c.id ∧ c'.status = .collected) : ¬Closed w k := by
  intro hclosed
  obtain ⟨c, hc, hstatus⟩ := Option.map_eq_some_iff.1 hclosed
  obtain ⟨c', hc', hid, hcollected⟩ := hstays c (Table.mem_of_get? hc) hstatus
  obtain ⟨k', new, hk', hnew, hne⟩ := chases_cases he
  obtain rfl : k = k' := Option.some.inj (hk.symm.trans hk')
  obtain ⟨row, hrow, hrowId, hrowStatus, -⟩ := h.exists_row hb hk hnew
  have hsame : c' = row := Table.eq_of_mem hc' hrow (by rw [hid, Table.key_of_get? hc, hrowId])
  rw [hsame, hrowStatus] at hcollected
  exact hne hcollected

/-- A collected collection stays collected, if the event finds its collection open or does not chase. -/
theorem Effect.stays_collected (h : Effect cfg w₀ w e w') (hb : Bounded w₀)
    (hopen : chases e = true → ∀ k, e.collection? = some k → ¬Closed w k) {c : Collection}
    (hc : c ∈ w.collections.rows) (hstatus : c.status = .collected) :
    ∃ c' ∈ w'.collections.rows, c'.id = c.id ∧ c'.status = .collected := by
  rcases h.rows.row_stays hc with ⟨hstay, -⟩ | ⟨c', hc', hstep⟩
  · exact ⟨c, hstay, rfl, hstatus⟩
  · refine ⟨c', hc', hstep.id, ?_⟩
    -- the event is about this collection, which is collected: it does not chase
    have hquiet : chases e = false := by
      by_contra hchases
      rw [Bool.not_eq_false] at hchases
      exact hopen hchases c.id hstep.event (closed_of_mem hc hstatus)
    rw [hstep.status hb, hstatus, nextStatus_collected hquiet hstep.existing]

/-- What chases another collection does not touch this one. -/
theorem Effect.keeps_level (h : Effect cfg w₀ w e w') (hk : e.collection? = some k)
    (hopen : ¬Closed w k) {c : Collection} (hc : c ∈ w.collections.rows)
    (hstatus : c.status = .collected) :
    ∃ c' ∈ w'.collections.rows, c'.id = c.id ∧ c'.escalationLevel = c.escalationLevel := by
  have hne : c.id ≠ k := by
    rintro rfl
    exact hopen (closed_of_mem hc hstatus)
  exact ⟨c, (h.row_before hk hne).2 hc, rfl, rfl⟩

theorem FindsOpen.not_closed {s : State World Event} {t : ℕ} (h : FindsOpen s t e)
    (he : chases e = true) (hk : e.collection? = some k) : ¬Closed s.store k := by
  cases e with
  | collectionOverdue c i =>
    obtain rfl := Option.some.inj hk
    exact h.1
  | collectionEscalated c level =>
    obtain rfl := Option.some.inj hk
    exact h
  | collectionDeescalated c level =>
    obtain rfl := Option.some.inj hk
    exact h
  | collectionDefaulted c i =>
    obtain rfl := Option.some.inj hk
    exact h.1
  | _ => cases he

/-- What chases under the condition keeps the status of the invoice of a collected collection. -/
theorem Effect.keeps_status {s : State World Event} {t : ℕ} (h : Effect cfg w₀ s.store e w')
    (hcond : FindsOpen s t e) (he : chases e = true) {c : Collection}
    (hc : c ∈ s.store.collections.rows) (hstatus : c.status = .collected) :
    statusOf w' c.invoiceId = statusOf s.store c.invoiceId := by
  by_cases hi : invoiceOf e = some c.invoiceId
  · have hkeeps : ∀ status, statusOf s.store c.invoiceId = some status →
        nextInvoiceStatus e c.invoiceId status = status := by
      intro status hbefore
      cases e with
      | collectionOverdue k i =>
        have hne : status ≠ .collecting := by
          rintro rfl
          obtain rfl : i = c.invoiceId := Option.some.inj hi
          exact hcond.2 hbefore c hc rfl hstatus
        simp [nextInvoiceStatus, hne]
      | collectionDefaulted k i =>
        have hne : status ≠ .overdue := by
          rintro rfl
          obtain rfl : i = c.invoiceId := Option.some.inj hi
          exact hcond.2 hbefore c hc rfl hstatus
        simp [nextInvoiceStatus, hne]
      | collectionEscalated | collectionDeescalated => rfl
      | _ => cases he
    rw [h.status]
    cases hbefore : statusOf s.store c.invoiceId with
    | none => rfl
    | some status => rw [Option.map_some, hkeeps status hbefore]
  · exact h.statusOf_of_ne hi

/-- Conversely, an invoice that such an event moves has no collected collection. -/
theorem Effect.noneClosed (h : Effect cfg w₀ w e w') {invoiceId : ℕ} {status : InvoiceStatus}
    (hbefore : statusOf w invoiceId = some status)
    (hmoves : nextInvoiceStatus e invoiceId status ≠ status)
    (hkeeps : ∀ c ∈ w.collections.rows, c.status = .collected →
      statusOf w' c.invoiceId = statusOf w c.invoiceId) : NoneClosed w invoiceId := by
  intro c hc hci hstatus
  have hsame := hkeeps c hc hstatus
  rw [h.status, hci, hbefore, Option.map_some, Option.some.injEq] at hsame
  exact hmoves hsame

/-- The step lemma: collected collections stay so exactly if the step meets the condition. -/
theorem Effect.staysResolved_iff {s : State World Event} {t : ℕ} (h : Effect cfg w₀ s.store e w')
    (hb : Bounded w₀) : StaysResolved s (s.record t (some e) w') ↔ FindsOpen s t e := by
  constructor
  · rintro ⟨hcollected, hunchased⟩
    have hkeeps : chases e = true → ∀ c ∈ s.store.collections.rows, c.status = .collected →
        statusOf w' c.invoiceId = statusOf s.store c.invoiceId :=
      fun he c hc hstatus => (hunchased t e rfl he c hc hstatus).2
    cases e with
    | collectionOverdue c i =>
      refine ⟨h.open_of_stays hb rfl rfl hcollected, fun hbefore => ?_⟩
      exact h.noneClosed hbefore (by simp [nextInvoiceStatus]) (hkeeps rfl)
    | collectionEscalated c level => exact h.open_of_stays hb rfl rfl hcollected
    | collectionDeescalated c level => exact h.open_of_stays hb rfl rfl hcollected
    | collectionDefaulted c i =>
      refine ⟨h.open_of_stays hb rfl rfl hcollected, fun hbefore => ?_⟩
      exact h.noneClosed hbefore (by simp [nextInvoiceStatus]) (hkeeps rfl)
    | _ => trivial
  · intro hcond
    refine ⟨fun c hc hstatus => ?_, fun u e' heq he c hc hstatus => ?_⟩
    · exact h.stays_collected hb (fun he k hk => hcond.not_closed he hk) hc hstatus
    · have hsame : e = e' := by
        rw [State.record_hist, List.cons.injEq, Prod.mk.injEq, Option.some.injEq] at heq
        exact heq.1.2
      subst hsame
      obtain ⟨k, -, hk, -, -⟩ := chases_cases he
      exact ⟨h.keeps_level hk (hcond.not_closed he hk) hc hstatus,
        h.keeps_status hcond he hc hstatus⟩

end Step

/-! ## Runs -/

/-- **A resolved collection stays resolved.** If the escalation levels start within their bounds, the
runs along which a collected collection stays collected, and escalation, de-escalation, overdue and
default processing change neither its level nor its invoice's status, are exactly those in which these
operations find their collection open, and move no invoice that has a collected one. -/
theorem resolved_stays_iff (cfg : Config) (w : World) (hw : Bounded w)
    (s : Sys World Input Event RisError) :
    Relation.ReflTransGen
        (fun s s' => Step (program cfg) always s s' ∧ StaysResolved s.toState s'.toState)
        (Sys.init w) s ↔ Reaches (program cfg) FindsOpen (Sys.init w) s := by
  refine Protocol.runs_iff (program_implements cfg w) (Inv.init w) (P := fun _ => True)
    (R := StaysResolved) trivial ?_ ?_ ?_ (fun _ _ _ _ _ _ _ => trivial) s
  · refine fun s _ => ⟨fun c hc hstatus => ⟨c, hc, rfl, hstatus⟩, fun t e heq => ?_⟩
    simp at heq
  · intro s t d _ hmove
    obtain rfl : d = s.store := hmove.effect
    refine ⟨fun c hc hstatus => ⟨c, hc, rfl, hstatus⟩, fun u e heq => ?_⟩
    simp at heq
  · intro s t e d _ hmove
    exact Effect.staysResolved_iff hmove.effect hw

/-! ## Runs on one collection -/

/-- The only collection was collected and is no longer. -/
theorem reopened {s s' : State World Event} {status : CollectionStatus}
    (hbefore : s.store.collections.rows.map Collection.status = [.collected])
    (hafter : s'.store.collections.rows.map Collection.status = [status])
    (hne : status ≠ .collected) : ¬StaysResolved s s' := by
  intro hstays
  have hmem : CollectionStatus.collected ∈ s.store.collections.rows.map Collection.status := by
    simp [hbefore]
  obtain ⟨c, hc, hstatus⟩ := List.mem_map.1 hmem
  obtain ⟨c', hc', -, hcollected⟩ := hstays.collected c hc hstatus
  have hmem' := List.mem_map_of_mem (f := Collection.status) hc'
  rw [hafter, List.mem_singleton, hcollected] at hmem'
  exact hne hmem'.symm

instance (w : World) (collectionId : ℕ) : Decidable (Closed w collectionId) := by
  unfold Closed
  infer_instance

instance (w : World) (invoiceId : ℕ) : Decidable (NoneClosed w invoiceId) := by
  unfold NoneClosed
  infer_instance

instance (s : State World Event) (t : ℕ) (e : Event) : Decidable (FindsOpen s t e) := by
  unfold FindsOpen
  induction e using Event.casesOn <;> infer_instance

/-- Each operation, run alone as call `t`. -/
def deescalateAlone (t : ℕ) : List (Act Op Input) :=
  Act.call (.deescalateCollection 1 9 "agreed") t (List.replicate 3 {})

def resolveAlone (t : ℕ) : List (Act Op Input) :=
  Act.call (.resolveCollectionById 1 9) t (List.replicate 3 {})

/-- A collection that is de-escalated and then paid. -/
theorem resolved_stays_after_payment :
    ∃ s : Sys World Input Event RisError,
      s.store.collections.rows.map Collection.status = [.collected] ∧
        Relation.ReflTransGen
          (fun s s' => Step (program {}) always s s' ∧ StaysResolved s.toState s'.toState)
          (Sys.init (exampleWorld .overdue (exampleCollection 1 .escalated 3 1))) s := by
  obtain ⟨s, hs, hP⟩ := exists_reaches (program {}) FindsOpen
    (Sys.init (exampleWorld .overdue (exampleCollection 1 .escalated 3 1)))
    (deescalateAlone 0 ++ payAlone 1 1000)
    (fun s => s.store.collections.rows.map Collection.status = [.collected]) (by decide)
  exact ⟨s, of_decide_eq_true hP, (resolved_stays_iff {} _ (by decide) s).2 hs⟩

/-- The batch reads its candidates, the buyer pays, and the batch escalates the collection; and a
collection that was resolved at level 1 is de-escalated, which makes it overdue. -/
theorem escalates_collected :
    (∃ s₁ s₂ : Sys World Input Event RisError,
      Reaches (program {}) always
          (Sys.init (exampleWorld .overdue (exampleCollection 1 .overdue 3 0))) s₁ ∧
        Step (program {}) always s₁ s₂ ∧
        s₁.store.collections.rows.map Collection.status = [.collected] ∧
        s₂.store.collections.rows.map Collection.status = [.escalated] ∧
        ¬StaysResolved s₁.toState s₂.toState) ∧
    ∃ s₁ s₂ : Sys World Input Event RisError,
      Reaches (program {}) always
          (Sys.init (exampleWorld .overdue (exampleCollection 1 .escalated 3 1))) s₁ ∧
        Step (program {}) always s₁ s₂ ∧
        s₁.store.collections.rows.map Collection.status = [.collected] ∧
        s₂.store.collections.rows.map Collection.status = [.overdue] ∧
        ¬StaysResolved s₁.toState s₂.toState := by
  constructor
  · obtain ⟨s₁, s₂, h₁, h₂, hP⟩ := exists_step (program {}) always
      (Sys.init (exampleWorld .overdue (exampleCollection 1 .overdue 3 0)))
      (.start .overdueProcessing :: List.replicate 3 (.move 0 {}) ++ payAlone 1 1000 ++
        List.replicate 3 (.move 0 {})) (.move 0 {})
      (fun s₁ s₂ => s₁.store.collections.rows.map Collection.status = [.collected] ∧
        s₂.store.collections.rows.map Collection.status = [.escalated]) (by decide)
    obtain ⟨hbefore, hafter⟩ := of_decide_eq_true hP
    exact ⟨s₁, s₂, h₁, h₂, hbefore, hafter, reopened hbefore hafter (by decide)⟩
  · obtain ⟨s₁, s₂, h₁, h₂, hP⟩ := exists_step (program {}) always
      (Sys.init (exampleWorld .overdue (exampleCollection 1 .escalated 3 1)))
      (resolveAlone 0 ++ (deescalateAlone 1).take 2) (.move 1 {})
      (fun s₁ s₂ => s₁.store.collections.rows.map Collection.status = [.collected] ∧
        s₂.store.collections.rows.map Collection.status = [.overdue]) (by decide)
    obtain ⟨hbefore, hafter⟩ := of_decide_eq_true hP
    exact ⟨s₁, s₂, h₁, h₂, hbefore, hafter, reopened hbefore hafter (by decide)⟩

end Ris.Collections
