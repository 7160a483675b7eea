import RisPlatform.Collections.Job

/-!
# The overdue job and the calendar

The job marks the collecting invoices past their due date as one day overdue, whatever the date is, and
escalates the collections that are overdue by the days that their rows show. No operation counts these
days up. So a collection shows what the calendar says if its row already did, or on the day after its
due date.
-/

namespace Ris.Collections

open Relational Concurrent

/-! ## The law -/

/-- Neither collected nor written off. -/
def Unresolved (c : Collection) : Prop := c.status ≠ .collected ∧ c.status ≠ .badDebt

/-- The row shows that many days, their penalty, and at least their level. -/
structure Exact (rate : ℚ) (faceValue days : ℤ) (c : Collection) : Prop where
  daysOverdue : c.daysOverdue = days
  penaltyAmount : c.penaltyAmount = calculatePenalty faceValue days rate
  escalationLevel : determineEscalationLevel days ≤ c.escalationLevel

/-- Every unresolved collection of an invoice due before `today` shows the days from its due date. -/
def UpToDate (rate : ℚ) (today : ℤ) (w : World) : Prop :=
  ∀ c ∈ w.collections.rows, Unresolved c → ∀ r ∈ w.invoices.get? c.invoiceId, r.dueDate < today →
    Exact rate r.faceValue (today - r.dueDate) c

/-- The job escalates the collection, by the days that its row shows. -/
def Escalates (c : Collection) : Prop :=
  (c.status = .overdue ∨ c.status = .escalated) ∧
    c.escalationLevel < determineEscalationLevel c.daysOverdue

/-- An invoice that the job marks was due yesterday. An unresolved collection shows the calendar
already, or is the latest of the invoice and is marked, or escalated by the days of the calendar. -/
structure ReadyFor (cfg : Config) (rate : ℚ) (today : ℤ) (r : Invoice) (rows : Set Collection) :
    Prop where
  marked : Marks cfg r → today = r.dueDate + 1
  unresolved : ∀ c ∈ rows, Unresolved c →
    Exact rate r.faceValue (today - r.dueDate) c ∨
      Latest rows c ∧ (Marks cfg r ∨ Escalates c ∧ c.daysOverdue = today - r.dueDate)

/-- The store is ready for the job of that day. -/
def Ready (cfg : Config) (rate : ℚ) (today : ℤ) (w : World) : Prop :=
  ∀ r ∈ w.invoices.rows, r.dueDate < today → ReadyFor cfg rate today r (collectionsOf w r.id)

/-- An invoice has at most one collection, and has one while it is collecting. -/
structure Tracked (w : World) : Prop where
  one : ∀ invoiceId, (collectionsOf w invoiceId).Subsingleton
  collecting : ∀ r ∈ w.invoices.rows, r.status = .collecting → (collectionsOf w r.id).Nonempty

/-! ## One invoice -/

/-- The invoice and its collections. -/
structure On (invoiceId : ℕ) (r : Invoice) (rows : Set Collection) (w : World) : Prop where
  invoice : w.invoices.get? invoiceId = some r
  collections : collectionsOf w invoiceId = rows

/-- The collections of an invoice after the job marked it, from those before. -/
structure MarkedRows (penaltyAmount : ℤ) (rows rows' : Set Collection) : Prop where
  kept : ∀ x ∈ rows', MarkedRow penaltyAmount x ∨ x ∈ rows ∧ ¬Latest rows x
  only : ∀ c, rows = {c} → ∃ c', rows' = {c'} ∧ MarkedRow penaltyAmount c'

/-- The job marked the invoice, or found no collection to mark. -/
def MarkedOn (cfg : Config) (rate : ℚ) (invoiceId : ℕ) (r : Invoice) (rows : Set Collection)
    (w : World) : Prop :=
  ∃ r' rows', On invoiceId r' rows' w ∧ SameTerms r r' ∧
    MarkedRows (calculatePenalty r.faceValue 1 rate) rows rows' ∧
    (Marks cfg r' → rows = ∅ ∧ rows' = ∅)

section Turns

variable {cfg : Config} {rate : ℚ} {invoiceId i : ℕ} {r r' : Invoice} {rows : Set Collection}
  {daysOverdue : ℤ} {v d : World}

theorem On.congr (h : On invoiceId r rows v) (hd : SameTables v d) : On invoiceId r rows d := by
  obtain ⟨hinvoice, hrows⟩ := h
  rw [hd]
  exact ⟨hinvoice, hrows⟩

theorem On.elsewhere {c' : Collection} (h : On invoiceId r rows v) (hwrites : WritesNewest i c' v d)
    (hne : invoiceId ≠ i) : On invoiceId r rows d where
  invoice := (hwrites.invoices invoiceId hne).trans h.invoice
  collections := (hwrites.collections invoiceId hne).trans h.collections

/-- A turn of the first loop on another invoice. -/
theorem OverdueTurn.on_other (h : OverdueTurn cfg rate i v d) (hne : i ≠ invoiceId)
    (hon : On invoiceId r rows v) : On invoiceId r rows d := by
  cases h with
  | same tables unmarked => exact hon.congr tables
  | marked r r' c' invoice marks invoice' markedInvoice writes row =>
    exact hon.elsewhere writes hne.symm

/-- A turn on an invoice that the job does not mark. -/
theorem OverdueTurn.on_unmarked (h : OverdueTurn cfg rate invoiceId v d)
    (hon : On invoiceId r rows v) (hmarks : ¬Marks cfg r) : On invoiceId r rows d := by
  cases h with
  | same tables unmarked => exact hon.congr tables
  | marked r₁ r' c' invoice marks invoice' markedInvoice writes row =>
    obtain rfl : r = r₁ := Option.some.inj (hon.invoice.symm.trans invoice)
    exact absurd marks hmarks

/-- A turn on an invoice that the job marks. -/
theorem OverdueTurn.marks_on (h : OverdueTurn cfg rate invoiceId v d) (hon : On invoiceId r' rows v)
    (hmarks : Marks cfg r') (hterms : SameTerms r r') : MarkedOn cfg rate invoiceId r rows d := by
  cases h with
  | same tables unmarked =>
    have hnone : rows = ∅ := hon.collections.symm.trans (unmarked r' hon.invoice hmarks)
    refine ⟨r', rows, hon.congr tables, hterms, ⟨?_, ?_⟩, fun _ => ⟨hnone, hnone⟩⟩
    · intro x hx
      rw [hnone] at hx
      exact absurd hx (Set.notMem_empty x)
    · intro c hc
      exact absurd (hnone.symm.trans hc).symm (Set.singleton_ne_empty c)
  | marked r₁ r₂ c' invoice marks invoice' markedInvoice writes row =>
    obtain rfl : r' = r₁ := Option.some.inj (hon.invoice.symm.trans invoice)
    rw [hterms.faceValue] at row
    refine ⟨r₂, collectionsOf d invoiceId, ⟨invoice', rfl⟩,
      ⟨markedInvoice.dueDate.trans hterms.dueDate, markedInvoice.faceValue.trans hterms.faceValue⟩,
      ⟨?_, ?_⟩, fun hmarks' => ?_⟩
    · intro x hx
      rcases writes.others x hx with rfl | hold
      · exact Or.inl row
      · rw [hon.collections] at hold
        exact Or.inr hold
    · intro c hc
      exact ⟨c', writes.singleton (hon.collections.trans hc), row⟩
    · rw [Marks, markedInvoice.status] at hmarks'
      exact absurd hmarks'.1 (by decide)

/-- A further turn on an invoice after the job marked it. -/
theorem OverdueTurn.marked_on (h : OverdueTurn cfg rate invoiceId v d)
    (hon : MarkedOn cfg rate invoiceId r rows v) : MarkedOn cfg rate invoiceId r rows d := by
  obtain ⟨r', rows', hon', hterms, hrows, hagain⟩ := hon
  by_cases hmarks : Marks cfg r'
  · obtain ⟨rfl, rfl⟩ := hagain hmarks
    exact h.marks_on hon' hmarks hterms
  · exact ⟨r', rows', h.on_unmarked hon' hmarks, hterms, hrows, hagain⟩

/-- A turn of the second loop on another invoice. -/
theorem EscalationTurn.on_other (h : EscalationTurn rate i daysOverdue v d) (hne : i ≠ invoiceId)
    (hon : On invoiceId r rows v) : On invoiceId r rows d := by
  cases h with
  | same tables settled => exact hon.congr tables
  | escalated r c c' invoice mem level invoices writes row => exact hon.elsewhere writes hne.symm

end Turns

/-! ## The loops -/

section Loops

variable {cfg : Config} {today : ℤ} {rate : ℚ} {invoiceId : ℕ} {r : Invoice} {rows : Set Collection}
  {w : World} {E : RisError → World → Prop}

/-- The first loop marks the invoice, or leaves it. -/
theorem ends_processOverdueInvoices (hw : On invoiceId r rows w) (hdue : r.dueDate < today) :
    Proc.Ends (OnDay today rate)
      (fun _ v => (Marks cfg r → MarkedOn cfg rate invoiceId r rows v) ∧
        (¬Marks cfg r → On invoiceId r rows v)) E (processOverdueInvoices cfg) w := by
  unfold processOverdueInvoices
  refine (ends_queryToday (Q := fun invoices v => w = v ∧
    Repo.getFundedOverdueInvoices today w = invoices) ⟨rfl, rfl⟩).bind ?_
  rintro invoices _ ⟨rfl, hinvoices⟩
  refine Proc.Ends.bind (R := fun _ v => (Marks cfg r → MarkedOn cfg rate invoiceId r rows v) ∧
    (¬Marks cfg r → On invoiceId r rows v)) ?_ fun _ v hv => ends_log hv
  by_cases hmarks : Marks cfg r
  · have hmem : r ∈ invoices := by
      rw [← hinvoices]
      exact List.mem_filter.2 ⟨Table.mem_of_get? hw.invoice, decide_eq_true ⟨hmarks.1, hdue⟩⟩
    have hid : r.id = invoiceId := Table.key_of_get? hw.invoice
    refine (Proc.ends_forM_mark (A := On invoiceId r rows) (B := MarkedOn cfg rate invoiceId r rows)
      (fun inv => inv.id = invoiceId) ?_ ?_ ?_ hw).mono ?_ fun _ _ h => h
    · rintro inv - rfl v hv
      exact (ends_orLog ends_processOverdueInvoice).mono
        (fun _ d hturn => hturn.marks_on hv hmarks ⟨rfl, rfl⟩) fun _ _ h => h
    · intro inv _ hne v hv
      exact (ends_orLog ends_processOverdueInvoice).mono
        (fun _ d hturn => hturn.on_other hne hv) fun _ _ h => h
    · intro inv _ v hv
      refine (ends_orLog ends_processOverdueInvoice).mono (fun _ d hturn => ?_) fun _ _ h => h
      by_cases hi : inv.id = invoiceId
      · rw [hi] at hturn
        exact hturn.marked_on hv
      · obtain ⟨r', rows', hon, hrest⟩ := hv
        exact ⟨r', rows', hturn.on_other hi hon, hrest⟩
    · intro _ v hv
      exact ⟨fun _ => hv.1 ⟨r, hmem, hid⟩, fun h => absurd hmarks h⟩
  · refine (Proc.ends_forM (A := On invoiceId r rows) (fun inv _ v hv => ?_) hw).mono ?_
      fun _ _ h => h
    · refine (ends_orLog ends_processOverdueInvoice).mono (fun _ d hturn => ?_) fun _ _ h => h
      by_cases hi : inv.id = invoiceId
      · rw [hi] at hturn
        exact hturn.on_unmarked hv hmarks
      · exact hturn.on_other hi hv
    · exact fun _ v hv => ⟨fun h => absurd h hmarks, fun _ => hv⟩

/-- The unresolved collections of the invoice show the calendar. -/
def Settled (rate : ℚ) (days : ℤ) (invoiceId : ℕ) (r : Invoice) (w : World) : Prop :=
  ∃ rows, On invoiceId r rows w ∧ ∀ c ∈ rows, Unresolved c → Exact rate r.faceValue days c

/-- A turn of the second loop, by the days of the calendar, for an invoice whose collections show it or
are to be escalated. -/
theorem EscalationTurn.settles {days : ℤ} {v d : World}
    (h : EscalationTurn rate invoiceId days v d) (hon : On invoiceId r rows v)
    (hrows : ∀ c ∈ rows, Unresolved c → Exact rate r.faceValue days c ∨
      Latest rows c ∧ c.escalationLevel < determineEscalationLevel days) :
    Settled rate days invoiceId r d := by
  cases h with
  | same tables settled =>
    refine ⟨rows, hon.congr tables, fun c hc hunresolved => ?_⟩
    rcases hrows c hc hunresolved with hexact | ⟨hlatest, hlevel⟩
    · exact hexact
    · have hsettled := settled r hon.invoice
      rw [hon.collections] at hsettled
      exact absurd (hsettled c hc hlatest) (not_le.2 hlevel)
  | escalated r₁ c c' invoice mem level invoices writes row =>
    obtain rfl : r = r₁ := Option.some.inj (hon.invoice.symm.trans invoice)
    have hinvoice : d.invoices.get? invoiceId = some r := by rw [invoices, hon.invoice]
    refine ⟨collectionsOf d invoiceId, ⟨hinvoice, rfl⟩, fun x hx hunresolved => ?_⟩
    rcases writes.others x hx with rfl | ⟨hold, hlatest⟩
    · exact ⟨row.daysOverdue, row.penaltyAmount, row.escalationLevel.ge⟩
    · rw [hon.collections] at hold hlatest
      rcases hrows x hold hunresolved with hexact | ⟨hlatest', -⟩
      · exact hexact
      · exact absurd hlatest' hlatest

/-- A candidate is unresolved. -/
theorem unresolved_of_status {c : Collection} (h : c.status = .overdue ∨ c.status = .escalated) :
    Unresolved c := by
  rcases h with h | h
  · simp [Unresolved, h]
  · simp [Unresolved, h]

/-- The second loop settles an invoice whose unresolved collections show the days of the calendar, and
show their penalty and level or are to be escalated. -/
theorem ends_processEscalations {days : ℤ} (hw : On invoiceId r rows w)
    (hrows : ∀ c ∈ rows, Unresolved c → Exact rate r.faceValue days c ∨
      Latest rows c ∧ Escalates c ∧ c.daysOverdue = days) :
    Proc.Ends (OnDay today rate) (fun _ => Settled rate days invoiceId r) E
      (processEscalations cfg) w := by
  unfold processEscalations
  refine (ends_query (Q := fun candidates v => w = v ∧ Repo.getEscalationCandidates w = candidates)
    ⟨rfl, rfl⟩).bind ?_
  rintro candidates _ ⟨rfl, hcandidates⟩
  refine Proc.Ends.bind (R := fun _ => Settled rate days invoiceId r) ?_ fun _ v hv => ends_log hv
  have hlevels : ∀ c ∈ rows, Unresolved c → Exact rate r.faceValue days c ∨
      Latest rows c ∧ c.escalationLevel < determineEscalationLevel days := by
    intro c hc hunresolved
    rcases hrows c hc hunresolved with hexact | ⟨hlatest, hescalates, hdays⟩
    · exact Or.inl hexact
    · exact Or.inr ⟨hlatest, hdays ▸ hescalates.2⟩
  -- a candidate of the invoice shows the days of the calendar
  have hcandidate : ∀ cand ∈ candidates, cand.invoiceId = invoiceId → cand.daysOverdue = days := by
    intro cand hcand hi
    rw [← hcandidates] at hcand
    obtain ⟨hrow, hmatch⟩ := List.mem_filter.1 hcand
    obtain ⟨hstatus, -⟩ := of_decide_eq_true hmatch
    have hmem : cand ∈ rows := hw.collections ▸ ⟨hrow, hi⟩
    rcases hrows cand hmem (unresolved_of_status hstatus) with hexact | ⟨-, -, hdays⟩
    · exact hexact.daysOverdue
    · exact hdays
  refine (Proc.ends_forM_mark (A := On invoiceId r rows) (B := Settled rate days invoiceId r)
    (fun cand => cand.invoiceId = invoiceId) ?_ ?_ ?_ hw).mono ?_ fun _ _ h => h
  · intro cand hcand hi v hv
    refine (ends_orLog ends_processEscalation).mono (fun _ d hturn => ?_) fun _ _ h => h
    rw [hi, hcandidate cand hcand hi] at hturn
    exact hturn.settles hv hlevels
  · intro cand _ hne v hv
    exact (ends_orLog ends_processEscalation).mono
      (fun _ d hturn => hturn.on_other hne hv) fun _ _ h => h
  · rintro cand hcand v ⟨rows', hon, hsettled⟩
    refine (ends_orLog ends_processEscalation).mono (fun _ d hturn => ?_) fun _ _ h => h
    by_cases hi : cand.invoiceId = invoiceId
    · rw [hi, hcandidate cand hcand hi] at hturn
      exact hturn.settles hon fun c hc hunresolved => Or.inl (hsettled c hc hunresolved)
    · exact ⟨rows', hturn.on_other hi hon, hsettled⟩
  · rintro _ v ⟨hmarked, hnone⟩
    by_cases hany : ∃ cand ∈ candidates, cand.invoiceId = invoiceId
    · exact hmarked hany
    -- without a candidate there is nothing to escalate
    · have hnothing : ∀ cand ∈ candidates, cand.invoiceId ≠ invoiceId :=
        fun cand hcand hi => hany ⟨cand, hcand, hi⟩
      refine ⟨rows, hnone hnothing, fun c hc hunresolved => ?_⟩
      rcases hrows c hc hunresolved with hexact | ⟨-, hescalates, -⟩
      · exact hexact
      · have hmem : c ∈ collectionsOf w invoiceId := hw.collections ▸ hc
        have hthree := (determineEscalationLevel_bounded c.daysOverdue).2
        have hcand : c ∈ candidates := by
          rw [← hcandidates]
          have hbelow : c.escalationLevel < 3 := lt_of_lt_of_le hescalates.2 hthree
          exact List.mem_filter.2 ⟨hmem.1, decide_eq_true ⟨hescalates.1, hbelow⟩⟩
        exact absurd hmem.2 (hnothing c hcand)

/-- The only collection of the invoice shows as many days as `c`, and is `c` if that is not
escalated. -/
def Shows (invoiceId : ℕ) (r : Invoice) (c : Collection) (w : World) : Prop :=
  ∃ c', On invoiceId r {c'} w ∧ Unresolved c' ∧ c'.daysOverdue = c.daysOverdue ∧
    (¬Escalates c → c' = c)

/-- The second loop counts no day up. -/
theorem ends_processEscalations_one {c : Collection} (hw : On invoiceId r {c} w)
    (hunresolved : Unresolved c) :
    Proc.Ends (OnDay today rate) (fun _ => Shows invoiceId r c) E (processEscalations cfg) w := by
  unfold processEscalations
  refine (ends_query (Q := fun candidates v => w = v ∧ Repo.getEscalationCandidates w = candidates)
    ⟨rfl, rfl⟩).bind ?_
  rintro candidates _ ⟨rfl, hcandidates⟩
  refine Proc.Ends.bind (R := fun _ => Shows invoiceId r c) ?_ fun _ v hv => ends_log hv
  refine Proc.ends_forM ?_ ⟨c, hw, hunresolved, rfl, fun _ => rfl⟩
  rintro cand hcand v ⟨c', hon, hunresolved', hdays, hsame⟩
  refine (ends_orLog ends_processEscalation).mono (fun _ d hturn => ?_) fun _ _ h => h
  by_cases hi : cand.invoiceId = invoiceId
  · rw [← hcandidates] at hcand
    obtain ⟨hrow, hmatch⟩ := List.mem_filter.1 hcand
    obtain ⟨hstatus, -⟩ := of_decide_eq_true hmatch
    have hmem : cand ∈ ({c} : Set Collection) := hw.collections ▸ ⟨hrow, hi⟩
    obtain rfl : cand = c := hmem
    rw [hi] at hturn
    cases hturn with
    | same tables settled => exact ⟨c', hon.congr tables, hunresolved', hdays, hsame⟩
    | escalated r₁ c₁ c₂ invoice mem level invoices writes row =>
      rw [hon.collections] at mem
      obtain rfl : c₁ = c' := mem
      refine ⟨c₂, ⟨by rw [invoices, hon.invoice], writes.singleton hon.collections⟩,
        unresolved_of_status (Or.inr row.status), row.daysOverdue, fun hnot => ?_⟩
      obtain rfl := hsame hnot
      exact absurd ⟨hstatus, level⟩ hnot
  · exact ⟨c', hturn.on_other hi hon, hunresolved', hdays, hsame⟩

end Loops

/-! ## The job -/

section Job

variable {cfg : Config} {today : ℤ} {rate : ℚ} {invoiceId : ℕ} {r : Invoice} {rows : Set Collection}
  {w : World} {E : RisError → World → Prop}

/-- The job keeps what the turns of both loops keep. -/
theorem ends_overdueProcessing_keeps {A : World → Prop}
    (hoverdue : ∀ i v d, OverdueTurn cfg rate i v d → A v → A d)
    (hescalation : ∀ i days v d, EscalationTurn rate i days v d → A v → A d) (hw : A w) :
    Proc.Ends (OnDay today rate) (fun _ => A) E (overdueProcessing cfg) w := by
  have hfirst : ∀ v, A v →
      Proc.Ends (OnDay today rate) (fun _ => A) E (processOverdueInvoices cfg) v := by
    intro v hv
    refine (ends_queryToday (Q := fun _ => A) hv).bind fun invoices v hv => ?_
    refine Proc.Ends.bind (Proc.ends_forM (A := A) (fun inv _ v hv => ?_) hv) fun _ v hv => ends_log hv
    exact (ends_orLog ends_processOverdueInvoice).mono
      (fun _ d hturn => hoverdue inv.id v d hturn hv) fun _ _ h => h
  refine (hfirst w hw).bind fun _ v hv => ?_
  refine (ends_query (Q := fun _ => A) hv).bind fun candidates v hv => ?_
  refine Proc.Ends.bind (Proc.ends_forM (A := A) (fun cand _ v hv => ?_) hv) fun _ v hv => ends_log hv
  exact (ends_orLog ends_processEscalation).mono
    (fun _ d hturn => hescalation cand.invoiceId cand.daysOverdue v d hturn hv) fun _ _ h => h

/-- The job makes no invoice, and moves no due date. -/
theorem ends_overdueProcessing_dueDate {dueDate : Option ℤ}
    (hw : (w.invoices.get? invoiceId).map Invoice.dueDate = dueDate) :
    Proc.Ends (OnDay today rate)
      (fun _ v => (v.invoices.get? invoiceId).map Invoice.dueDate = dueDate) E
      (overdueProcessing cfg) w := by
  refine ends_overdueProcessing_keeps ?_ ?_ hw
  · intro i v d hturn hv
    cases hturn with
    | same tables unmarked =>
      rw [tables]
      exact hv
    | marked r r' c' invoice marks invoice' markedInvoice writes row =>
      by_cases hi : invoiceId = i
      · subst hi
        rw [invoice']
        rw [invoice] at hv
        rw [← hv, Option.map_some, Option.map_some, markedInvoice.dueDate]
      · rw [writes.invoices invoiceId hi, hv]
  · intro i days v d hturn hv
    cases hturn with
    | same tables settled =>
      rw [tables]
      exact hv
    | escalated r c c' invoice mem level invoices writes row => rw [invoices, hv]

/-- The job settles an invoice that is ready for it. -/
theorem ends_overdueProcessing (hw : On invoiceId r rows w) (hdue : r.dueDate < today)
    (hready : ReadyFor cfg rate today r rows) :
    Proc.Ends (OnDay today rate)
      (fun _ v => ∃ r', SameTerms r r' ∧ Settled rate (today - r.dueDate) invoiceId r' v) E
      (overdueProcessing cfg) w := by
  refine (ends_processOverdueInvoices hw hdue).bind ?_
  rintro _ v ⟨hmarked, hunmarked⟩
  by_cases hmarks : Marks cfg r
  · obtain ⟨r', rows', hon, hterms, hrows, -⟩ := hmarked hmarks
    have hone : today - r.dueDate = 1 := by
      have := hready.marked hmarks
      omega
    refine (ends_processEscalations hon fun c hc hunresolved => Or.inl ?_).mono
      (fun _ v hv => ⟨r', hterms, hv⟩) fun _ _ h => h
    rw [hterms.faceValue]
    rcases hrows.kept c hc with hrow | ⟨hold, hlatest⟩
    · rw [hone]
      exact ⟨hrow.daysOverdue, hrow.penaltyAmount, hrow.escalationLevel.ge⟩
    · rcases hready.unresolved c hold hunresolved with hexact | ⟨hlatest', -⟩
      · exact hexact
      · exact absurd hlatest' hlatest
  · refine (ends_processEscalations (hunmarked hmarks) fun c hc hunresolved => ?_).mono
      (fun _ v hv => ⟨r, ⟨rfl, rfl⟩, hv⟩) fun _ _ h => h
    rcases hready.unresolved c hc hunresolved with hexact | ⟨hlatest, hmarks' | hescalates⟩
    · exact Or.inl hexact
    · exact absurd hmarks' hmarks
    · exact Or.inr ⟨hlatest, hescalates⟩

/-- The only collection of an invoice that the job marks shows one day. -/
theorem ends_overdueProcessing_marked {c : Collection} (hw : On invoiceId r {c} w)
    (hdue : r.dueDate < today) (hmarks : Marks cfg r) :
    Proc.Ends (OnDay today rate)
      (fun _ v => ∃ r' c', SameTerms r r' ∧ On invoiceId r' {c'} v ∧ Unresolved c' ∧
        c'.daysOverdue = 1) E (overdueProcessing cfg) w := by
  refine (ends_processOverdueInvoices hw hdue).bind ?_
  rintro _ v ⟨hmarked, -⟩
  obtain ⟨r', rows', hon, hterms, hrows, -⟩ := hmarked hmarks
  obtain ⟨c', rfl, hrow⟩ := hrows.only c rfl
  have hunresolved : Unresolved c' := unresolved_of_status (Or.inl hrow.status)
  refine (ends_processEscalations_one hon hunresolved).mono ?_ fun _ _ h => h
  rintro _ v ⟨c₂, hon', hunresolved', hdays, -⟩
  exact ⟨r', c₂, hterms, hon', hunresolved', hdays.trans hrow.daysOverdue⟩

/-- The only collection of an invoice that the job does not mark. -/
theorem ends_overdueProcessing_unmarked {c : Collection} (hw : On invoiceId r {c} w)
    (hdue : r.dueDate < today) (hmarks : ¬Marks cfg r) (hunresolved : Unresolved c) :
    Proc.Ends (OnDay today rate) (fun _ => Shows invoiceId r c) E (overdueProcessing cfg) w := by
  refine (ends_processOverdueInvoices hw hdue).bind ?_
  rintro _ v ⟨-, hunmarked⟩
  exact ends_processEscalations_one (hunmarked hmarks) hunresolved

/-- What is shown of an invoice. -/
theorem UpToDate.exact {c : Collection} (h : UpToDate rate today w) (hw : On invoiceId r {c} w)
    (hunresolved : Unresolved c) (hdue : r.dueDate < today) :
    Exact rate r.faceValue (today - r.dueDate) c := by
  have hmem : c ∈ collectionsOf w invoiceId := hw.collections ▸ Set.mem_singleton c
  have hinvoice : w.invoices.get? c.invoiceId = some r := hmem.2 ▸ hw.invoice
  exact h c hmem.1 hunresolved r hinvoice hdue

end Job

/-! ## Runs -/

section Runs

variable {cfg : Config} {rate : ℚ} {today : ℤ} {s s' : Sys World Input Event RisError}
  {inputs : List Input} (hinputs : ∀ i ∈ inputs, OnDay today rate i)
  (hrun : run (program cfg) always s (Act.call .overdueProcessing s.calls.length inputs) = some s')

include hinputs hrun

/-- What the job alone ends in, the run of the job ends in. -/
theorem store_of_ends {Q : World → Prop}
    (h : Proc.Ends (OnDay today rate) (fun _ => Q) (fun _ _ => False)
      (program cfg .overdueProcessing) s.store) : Q s'.store := by
  rcases Proc.Ends.run hinputs h hrun with hQ | ⟨_, hfalse⟩
  · exact hQ
  · exact hfalse.elim

theorem upToDate_of_ready (hready : Ready cfg rate today s.store) : UpToDate rate today s'.store := by
  intro c hc hunresolved r' hr' hdue
  -- the invoice was there before the job, and due on the same day
  have hdueDate : (s'.store.invoices.get? c.invoiceId).map Invoice.dueDate =
      (s.store.invoices.get? c.invoiceId).map Invoice.dueDate :=
    store_of_ends hinputs hrun (ends_overdueProcessing_dueDate rfl)
  rw [hr', Option.map_some] at hdueDate
  obtain ⟨r, hr, hsame⟩ := Option.map_eq_some_iff.1 hdueDate.symm
  rw [← hsame] at hdue
  have hid : r.id = c.invoiceId := Table.key_of_get? hr
  have hreadyFor := hready r (Table.mem_of_get? hr) hdue
  rw [hid] at hreadyFor
  obtain ⟨r'', hterms, rows, hon, hsettled⟩ :=
    store_of_ends hinputs hrun (ends_overdueProcessing ⟨hr, rfl⟩ hdue hreadyFor)
  obtain rfl : r'' = r' := Option.some.inj (hon.invoice.symm.trans hr')
  rw [← hsame]
  exact hsettled c (hon.collections ▸ ⟨hc, rfl⟩) hunresolved

/-- An invoice with one collection was ready for the job if it is up to date after it. -/
theorem readyFor_of_upToDate {r : Invoice} {c : Collection} (hon : On r.id r {c} s.store)
    (hdue : r.dueDate < today) (hupToDate : UpToDate rate today s'.store) :
    ReadyFor cfg rate today r {c} := by
  by_cases hmarks : Marks cfg r
  · obtain ⟨r', c', hterms, hon', hunresolved, hdays⟩ :=
      store_of_ends hinputs hrun (ends_overdueProcessing_marked hon hdue hmarks)
    have hexact := hupToDate.exact hon' hunresolved (hterms.dueDate ▸ hdue)
    refine ⟨fun _ => ?_, ?_⟩
    · have hcalendar := hexact.daysOverdue
      rw [hdays, hterms.dueDate] at hcalendar
      omega
    · rintro x rfl -
      exact Or.inr ⟨latest_singleton, Or.inl hmarks⟩
  · refine ⟨fun h => absurd h hmarks, ?_⟩
    rintro x rfl hunresolved
    obtain ⟨c', hon', hunresolved', hdays, hsame⟩ :=
      store_of_ends hinputs hrun (ends_overdueProcessing_unmarked hon hdue hmarks hunresolved)
    have hexact := hupToDate.exact hon' hunresolved' hdue
    by_cases hescalates : Escalates x
    · exact Or.inr ⟨latest_singleton, Or.inr ⟨hescalates, hdays.symm.trans hexact.daysOverdue⟩⟩
    · exact Or.inl (hsame hescalates ▸ hexact)

end Runs

/-- **Escalation and the calendar.** The job of a day, whatever the store, the runs before it and the
calls that wait for it to end, leaves every collection up to date if the store is ready for it; where
each invoice has at most one collection, and each collecting one has one, only then. -/
theorem keeps_up_iff (cfg : Config) (rate : ℚ) (today : ℤ) (s s' : Sys World Input Event RisError)
    (inputs : List Input) (hinputs : ∀ i ∈ inputs, OnDay today rate i)
    (hrun : run (program cfg) always s (Act.call .overdueProcessing s.calls.length inputs) = some s') :
    (Ready cfg rate today s.store → UpToDate rate today s'.store) ∧
      (Tracked s.store → UpToDate rate today s'.store → Ready cfg rate today s.store) := by
  refine ⟨upToDate_of_ready hinputs hrun, fun htracked hupToDate r hr hdue => ?_⟩
  rcases (htracked.one r.id).eq_empty_or_singleton with hnone | ⟨c, honly⟩
  · -- without a collection there is nothing to mark, and nothing to show
    rw [hnone]
    refine ⟨fun hmarks => ?_, fun c hc => absurd hc (Set.notMem_empty c)⟩
    obtain ⟨c, hc⟩ := htracked.collecting r hr hmarks.1
    rw [hnone] at hc
    exact absurd hc (Set.notMem_empty c)
  · rw [honly]
    exact readyFor_of_upToDate hinputs hrun ⟨Table.get?_of_mem hr, honly⟩ hdue hupToDate

/-! ## Runs on one collection

Its invoice is due on day 0. Where the job marks, the audit log takes the user `'SYSTEM'`. -/

instance (c : Collection) : Decidable (Unresolved c) := by
  unfold Unresolved
  infer_instance

instance (rate : ℚ) (faceValue days : ℤ) (c : Collection) : Decidable (Exact rate faceValue days c) :=
  decidable_of_iff (c.daysOverdue = days ∧ c.penaltyAmount = calculatePenalty faceValue days rate ∧
    determineEscalationLevel days ≤ c.escalationLevel)
    ⟨fun h => ⟨h.1, h.2.1, h.2.2⟩, fun h => ⟨h.daysOverdue, h.penaltyAmount, h.escalationLevel⟩⟩

instance (rate : ℚ) (today : ℤ) (w : World) : Decidable (UpToDate rate today w) := by
  unfold UpToDate
  infer_instance

/-- The statements of a job on that day. -/
def onDay (today : ℤ) (n : ℕ) : List Input := List.replicate n { now := today * dayMs }

theorem onDay_good {today : ℤ} {n : ℕ} : ∀ i ∈ onDay today n, OnDay today (mkRat 1 1000) i := by
  intro i hi
  obtain rfl := List.eq_of_mem_replicate hi
  exact ⟨rfl, Int.mul_ediv_cancel today (by decide), rfl⟩

theorem tracked_exampleWorld {status : InvoiceStatus} {c : Collection} (hc : c.invoiceId = 1) :
    Tracked (exampleWorld status c) where
  one _ x hx y hy := by
    obtain rfl : x = c := List.mem_singleton.1 hx.1
    exact (List.mem_singleton.1 hy.1).symm
  collecting r hr _ := by
    obtain rfl : r = exampleInvoice status := List.mem_singleton.1 hr
    exact ⟨c, List.mem_singleton.2 rfl, hc⟩

/-- A collection that shows three days on day 3 is escalated to level 1 by them. -/
theorem keeps_up_on_third_day :
    Tracked (exampleWorld .overdue (exampleCollection 1 .overdue 3 0)) ∧
      ∃ s' : Sys World Input Event RisError,
        s'.store.collections.rows.map Collection.escalationLevel = [1] ∧
          UpToDate (mkRat 1 1000) 3 s'.store := by
  have hany : (run (program {}) always
      (Sys.init (exampleWorld .overdue (exampleCollection 1 .overdue 3 0)))
      (Act.call .overdueProcessing 0 (onDay 3 10))).any
      (fun s' => s'.store.collections.rows.map Collection.escalationLevel = [1]) = true := by
    decide
  obtain ⟨s', hrun, hlevel⟩ := (Option.any_eq_true _ _).1 hany
  refine ⟨tracked_exampleWorld rfl, s', of_decide_eq_true hlevel,
    (keeps_up_iff {} (mkRat 1 1000) 3 _ s' (onDay 3 10) onDay_good hrun).1 ?_⟩
  intro r hr _
  obtain rfl : r = exampleInvoice .overdue := List.mem_singleton.1 hr
  refine ⟨fun hmarks => ?_, fun c hc _ => ?_⟩
  · exact absurd hmarks.1 (by decide)
  · have hof : collectionsOf (exampleWorld .overdue (exampleCollection 1 .overdue 3 0)) 1 =
        {exampleCollection 1 .overdue 3 0} := by
      refine Set.eq_singleton_iff_unique_mem.2 ⟨⟨List.mem_singleton.2 rfl, rfl⟩, fun x hx => ?_⟩
      exact List.mem_singleton.1 hx.1
    have hone : c ∈ ({exampleCollection 1 .overdue 3 0} : Set Collection) := hof ▸ hc
    obtain rfl : c = exampleCollection 1 .overdue 3 0 := hone
    refine Or.inr ⟨?_, Or.inr ⟨⟨Or.inl rfl, by decide⟩, rfl⟩⟩
    exact hof ▸ latest_singleton

/-- The job runs on days 1 to 4. It marks the collection on day 1, as one day overdue, and leaves it
so: on day 4 it shows one day and level 0, where four days and level 1 are due. -/
theorem stays_one_day_overdue :
    ∃ s s' : Sys World Input Event RisError,
      Reaches (program { systemUserRefused := false }) always
          (Sys.init (exampleWorld .collecting (exampleCollection 1 .pending 0 0))) s ∧
        run (program { systemUserRefused := false }) always s
          (Act.call .overdueProcessing s.calls.length (onDay 4 6)) = some s' ∧
        ¬UpToDate (mkRat 1 1000) 4 s'.store ∧
        s'.store.collections.rows.map (fun c => (c.status, c.daysOverdue, c.escalationLevel)) =
          [(.overdue, 1, 0)] ∧
        determineEscalationLevel 4 = 1 := by
  obtain ⟨s, hs, hany⟩ := exists_reaches (program { systemUserRefused := false }) always
    (Sys.init (exampleWorld .collecting (exampleCollection 1 .pending 0 0)))
    (Act.call .overdueProcessing 0 (onDay 1 12) ++ Act.call .overdueProcessing 1 (onDay 2 6) ++
      Act.call .overdueProcessing 2 (onDay 3 6))
    (fun s => (run (program { systemUserRefused := false }) always s
        (Act.call .overdueProcessing s.calls.length (onDay 4 6))).any fun s' =>
      ¬UpToDate (mkRat 1 1000) 4 s'.store ∧
        s'.store.collections.rows.map (fun c => (c.status, c.daysOverdue, c.escalationLevel)) =
          [(.overdue, 1, 0)]) (by decide)
  obtain ⟨s', hrun, hshown⟩ := (Option.any_eq_true _ _).1 hany
  obtain ⟨hlate, hrows⟩ := of_decide_eq_true hshown
  exact ⟨s, s', hs, hrun, hlate, hrows, by decide⟩

end Ris.Collections
