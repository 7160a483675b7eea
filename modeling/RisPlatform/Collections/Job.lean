import Mathlib.Data.Set.Finite.Lemmas
import RisPlatform.Alone
import RisPlatform.Collections.Conformance

/-!
# The overdue job

What the statements and the turns of the job's two loops do when they do not fail and nothing else runs.
A turn leaves the tables, or writes the newest collection of its invoice.
-/

namespace Ris.Collections

open Relational Concurrent

/-! ## Statements -/

/-- A statement on the day `today` that does not fail, where the penalty rate is `rate`. -/
structure OnDay (today : ℤ) (rate : ℚ) (i : Input) : Prop where
  fault : i.fault = none
  now : i.now / dayMs = today
  dailyPenaltyRate : i.dailyPenaltyRate.getD fallbackDailyPenaltyRate = rate

section Statements

variable {today : ℤ} {rate : ℚ} {α : Type} {Q : α → World → Prop} {E : RisError → World → Prop}
  {w : World}

theorem OnDay.connect {i : Input} (hi : OnDay today rate i) : connect i w = .ok ((), w) :=
  connect_ok.2 ⟨hi.fault, rfl⟩

/-- A statement that reads. -/
theorem ends_read {x : Tx α} {committed : α → Event}
    (h : ∀ i, OnDay today rate i → ∃ a, x i w = .ok (a, w) ∧ Q a w) :
    Proc.Ends (OnDay today rate) Q E (.transaction x committed fun _ => .threw) w := by
  refine ends_statement fun i hi => ?_
  obtain ⟨a, ha, hQ⟩ := h i hi
  exact ⟨a, w, ha, hQ⟩

theorem ends_query {f : World → α} (h : Q (f w) w) :
    Proc.Ends (OnDay today rate) Q E (query f) w :=
  ends_read fun i hi => ⟨f w, by simp [hi.connect], h⟩

theorem ends_log {action : String} {Q : Unit → World → Prop} (h : Q () w) :
    Proc.Ends (OnDay today rate) Q E (log action) w :=
  ends_read fun _ hi => ⟨(), hi.connect, h⟩

theorem ends_queryToday {f : ℤ → World → α} (h : Q (f today w) w) :
    Proc.Ends (OnDay today rate) Q E (queryToday f) w :=
  ends_read fun i hi => ⟨f today w, by simp [currentDate, hi.connect, hi.now], h⟩

theorem ends_getCollectionByInvoiceId {invoiceId : ℕ} {Q : Option Collection → World → Prop}
    (h : ∀ choice, Q (Repo.getCollectionByInvoiceId invoiceId choice w) w) :
    Proc.Ends (OnDay today rate) Q E (getCollectionByInvoiceId invoiceId) w :=
  ends_read fun i hi =>
    ⟨Repo.getCollectionByInvoiceId invoiceId i.choice w, by simp [hi.connect], h i.choice⟩

/-- The rate, configured or not. -/
theorem ends_getDailyPenaltyRate_of {good : Input → Prop} {Q : ℚ → World → Prop}
    (hgood : ∀ i, good i → Healthy i)
    (h : ∀ i, good i → Q (i.dailyPenaltyRate.getD fallbackDailyPenaltyRate) w) :
    getDailyPenaltyRate.Ends good Q E w := by
  refine Proc.Ends.bind (R := fun value d => d = w ∧ Q (value.getD fallbackDailyPenaltyRate) w)
    (ends_statement fun i hi => ⟨i.dailyPenaltyRate, w, rfl, rfl, h i hi⟩) ?_
  rintro value _ ⟨rfl, hvalue⟩
  cases value with
  | some rate => exact Proc.ends_pure hvalue
  | none =>
    refine Proc.Ends.bind (R := fun _ d => d = _) (ends_statement fun i hi => ?_) fun _ _ hd => hd ▸ hvalue
    exact ⟨(), _, connect_ok.2 ⟨hgood i hi, rfl⟩, rfl⟩

/-- The rate of the day. -/
theorem ends_getDailyPenaltyRate {Q : ℚ → World → Prop} (h : Q rate w) :
    Proc.Ends (OnDay today rate) Q E getDailyPenaltyRate w :=
  ends_getDailyPenaltyRate_of (fun _ hi => hi.fault) fun _ hi => hi.dailyPenaltyRate.symm ▸ h

/-- A transaction: what its body commits, and that it leaves the tables where the body fails. -/
theorem ends_transaction {body : Tx α} {committed : α → Event}
    (hok : ∀ i a d, body i w = .ok (a, d) → Q a d) (herr : ∀ i e, body i w = .error e → E e w) :
    Proc.Ends (OnDay today rate) Q E (transaction body committed) w := by
  refine Proc.ends_transaction ?_ ?_
  · intro i a d _ hx
    obtain ⟨_, _, hconnect, hbody⟩ := Txn.bind_ok.1 hx
    obtain ⟨-, rfl⟩ := connect_ok.1 hconnect
    exact hok i a d hbody
  · intro i e hi hx
    rcases Txn.bind_error.1 hx with hconnect | ⟨_, _, hconnect, hbody⟩
    · rw [hi.connect] at hconnect
      cases hconnect
    · obtain ⟨-, rfl⟩ := connect_ok.1 hconnect
      exact herr i e hbody

theorem ends_queueNotification {cfg : Config} {name : String} {data : List (String × Json)}
    {Q : Unit → World → Prop} (h : ∀ w', SameTables w w' → Q () w') :
    Proc.Ends (OnDay today rate) Q E (queueNotification cfg name data) w := by
  unfold queueNotification enqueueOrWarn
  split
  · refine ends_transaction ?_ ?_
    · intro i u d hx
      obtain rfl := Txn.write_ok.1 hx
      exact h _ rfl
    · intro i e hx
      cases hx
  · exact ends_log (h w (.refl w))

end Statements

/-! ## The newest collection -/

/-- The collections of the invoice. -/
def collectionsOf (w : World) (invoiceId : ℕ) : Set Collection :=
  {c | c ∈ w.collections.rows ∧ c.invoiceId = invoiceId}

/-- All other rows were created before `c`. -/
def Latest (rows : Set Collection) (c : Collection) : Prop :=
  ∀ c' ∈ rows, c' ≠ c → c'.createdAt < c.createdAt

section Newest

variable {v d w : World} {invoiceId choice : ℕ} {c c' : Collection} {rows : Set Collection}

theorem latest_singleton : Latest {c} c := fun _ hc' hne => absurd hc' hne

theorem Latest.eq (h : Latest rows c) (hc' : c' ∈ rows) (hnewest : c.createdAt ≤ c'.createdAt) :
    c' = c := by
  by_contra hne
  have hlt := h c' hc' hne
  omega

theorem finite_collectionsOf (w : World) (invoiceId : ℕ) : (collectionsOf w invoiceId).Finite :=
  (List.finite_toSet w.collections.rows).subset fun _ hc => hc.1

/-- The query finds a collection that no other one is newer than. -/
theorem getCollectionByInvoiceId_newest
    (h : Repo.getCollectionByInvoiceId invoiceId choice v = some c) :
    c ∈ collectionsOf v invoiceId ∧ ∀ c' ∈ collectionsOf v invoiceId, c'.createdAt ≤ c.createdAt := by
  obtain ⟨hrow, hmatch⟩ := List.mem_filter.1 (List.mem_of_getElem? h)
  obtain ⟨hinvoice, hnewest⟩ := of_decide_eq_true hmatch
  exact ⟨⟨hrow, hinvoice⟩, fun c' hc' => hnewest c' hc'.1 hc'.2⟩

/-- The query finds nothing only if there is none. -/
theorem getCollectionByInvoiceId_none
    (h : Repo.getCollectionByInvoiceId invoiceId choice v = none) :
    collectionsOf v invoiceId = ∅ := by
  by_contra hne
  obtain ⟨c, hc, hnewest⟩ := Set.exists_max_image (collectionsOf v invoiceId) Collection.createdAt
    (finite_collectionsOf v invoiceId) (Set.nonempty_iff_ne_empty.2 hne)
  have hmem : c ∈ v.collections.rows.filter fun c =>
      c.invoiceId = invoiceId ∧
        ∀ c' ∈ v.collections.rows, c'.invoiceId = invoiceId → c'.createdAt ≤ c.createdAt :=
    List.mem_filter.2 ⟨hc.1, decide_eq_true ⟨hc.2, fun c' hc' hi => hnewest c' ⟨hc', hi⟩⟩⟩
  have hlength := List.length_pos_of_mem hmem
  have hindex := Nat.mod_lt choice hlength
  have hge := List.getElem?_eq_none_iff.1 h
  omega

/-- A collection of the invoice was written: the newest one, or the first. -/
structure WritesNewest (invoiceId : ℕ) (c' : Collection) (v d : World) : Prop where
  mem : c' ∈ collectionsOf d invoiceId
  others : ∀ x ∈ collectionsOf d invoiceId,
    x = c' ∨ x ∈ collectionsOf v invoiceId ∧ ¬Latest (collectionsOf v invoiceId) x
  collections : ∀ j ≠ invoiceId, collectionsOf d j = collectionsOf v j
  invoices : ∀ j ≠ invoiceId, d.invoices.get? j = v.invoices.get? j

/-- Rewriting a row that the query finds. -/
theorem WritesNewest.of_rewrites (h : v.collections.Rewrites d.collections c.id c c')
    (hc : c ∈ collectionsOf v invoiceId)
    (hnewest : ∀ x ∈ collectionsOf v invoiceId, x.createdAt ≤ c.createdAt)
    (hinvoice : c'.invoiceId = c.invoiceId) (hinvoices : d.invoices = v.invoices) :
    WritesNewest invoiceId c' v d where
  mem := ⟨Table.mem_of_get? h.after, hinvoice.trans hc.2⟩
  others := by
    rintro x ⟨hx, hxi⟩
    rcases h.get?_eq_some.1 (Table.get?_of_mem hx) with ⟨-, hnew⟩ | ⟨hid, hold⟩
    · exact Or.inl hnew
    · have hxv : x ∈ collectionsOf v invoiceId := ⟨Table.mem_of_get? hold, hxi⟩
      refine Or.inr ⟨hxv, fun hlatest => hid ?_⟩
      rw [hlatest.eq hc (hnewest x hxv)]
  collections := by
    intro j hj
    ext x
    constructor
    · rintro ⟨hx, hxj⟩
      rcases h.get?_eq_some.1 (Table.get?_of_mem hx) with ⟨-, rfl⟩ | ⟨-, hold⟩
      · exact absurd (hxj.symm.trans (hinvoice.trans hc.2)) hj
      · exact ⟨Table.mem_of_get? hold, hxj⟩
    · rintro ⟨hx, hxj⟩
      rcases h.successor (Table.get?_of_mem hx) with ⟨-, hstay⟩ | ⟨-, rfl, -⟩
      · exact ⟨Table.mem_of_get? hstay, hxj⟩
      · exact absurd (hxj.symm.trans hc.2) hj
  invoices _ _ := by rw [hinvoices]

/-- Inserting a row for an invoice without one. -/
theorem WritesNewest.of_insert (h : v.collections.insert? c' = some d.collections)
    (hnone : collectionsOf v invoiceId = ∅) (hinvoice : c'.invoiceId = invoiceId)
    (hinvoices : d.invoices = v.invoices) : WritesNewest invoiceId c' v d where
  mem := ⟨(Table.mem_insert? h).2 (Or.inr rfl), hinvoice⟩
  others := by
    rintro x ⟨hx, hxi⟩
    rcases (Table.mem_insert? h).1 hx with hold | hnew
    · exact absurd hnone (Set.Nonempty.ne_empty ⟨x, hold, hxi⟩)
    · exact Or.inl hnew
  collections := by
    intro j hj
    ext x
    constructor
    · rintro ⟨hx, hxj⟩
      rcases (Table.mem_insert? h).1 hx with hold | rfl
      · exact ⟨hold, hxj⟩
      · exact absurd (hxj.symm.trans hinvoice) hj
    · exact fun ⟨hx, hxj⟩ => ⟨(Table.mem_insert? h).2 (Or.inl hx), hxj⟩
  invoices _ _ := by rw [hinvoices]

/-- Statements on other tables, and on the row of the invoice, change nothing of it. -/
theorem WritesNewest.congr (h : WritesNewest invoiceId c' v w) (hrows : d.collections = w.collections)
    (hinvoices : ∀ j ≠ invoiceId, d.invoices.get? j = w.invoices.get? j) :
    WritesNewest invoiceId c' v d := by
  have hof : ∀ j, collectionsOf d j = collectionsOf w j := by
    intro j
    rw [collectionsOf, collectionsOf, hrows]
  exact
    { mem := by rw [hof]; exact h.mem
      others := by rw [hof]; exact h.others
      collections := fun j hj => by rw [hof, h.collections j hj]
      invoices := fun j hj => by rw [hinvoices j hj, h.invoices j hj] }

/-- An only collection is the one that is written. -/
theorem WritesNewest.singleton (h : WritesNewest invoiceId c' v d)
    (honly : collectionsOf v invoiceId = {c}) : collectionsOf d invoiceId = {c'} := by
  refine Set.eq_singleton_iff_unique_mem.2 ⟨h.mem, fun x hx => ?_⟩
  rcases h.others x hx with hnew | ⟨hold, hlatest⟩
  · exact hnew
  · rw [honly] at hold hlatest
    obtain rfl : x = c := hold
    exact absurd latest_singleton hlatest

end Newest

/-! ## The transactions of the job -/

/-- A collection that was marked as overdue. -/
structure MarkedRow (penaltyAmount : ℤ) (c : Collection) : Prop where
  status : c.status = .overdue
  daysOverdue : c.daysOverdue = 1
  penaltyAmount : c.penaltyAmount = penaltyAmount
  escalationLevel : c.escalationLevel = 0

/-- A collection that was escalated. -/
structure EscalatedRow (daysOverdue penaltyAmount newLevel : ℤ) (c : Collection) : Prop where
  status : c.status = .escalated
  daysOverdue : c.daysOverdue = daysOverdue
  penaltyAmount : c.penaltyAmount = penaltyAmount
  escalationLevel : c.escalationLevel = newLevel

/-- The invoice is due on the same day, for the same amount. -/
structure SameTerms (r r' : Invoice) : Prop where
  dueDate : r'.dueDate = r.dueDate
  faceValue : r'.faceValue = r.faceValue

/-- The invoice after it was marked. -/
structure MarkedInvoice (r r' : Invoice) : Prop extends SameTerms r r' where
  status : r'.status = .overdue

section Transactions

variable {cfg : Config} {i : Input} {v d : World} {invoice : Invoice} {c : Collection}
  {existing : Option Collection} {penaltyAmount : ℤ} {choice : ℕ}

/-- The collection that is saved, as it was found or opened. -/
theorem saveOverdueRecord_marks {collectionId : ℕ} {u : Unit}
    (h : saveOverdueRecord invoice existing collectionId penaltyAmount i v = .ok (u, d))
    (hexisting : Repo.getCollectionByInvoiceId invoice.id choice v = existing)
    (hid : ∀ c ∈ existing, c.id = collectionId) :
    d.invoices = v.invoices ∧ ∃ c', WritesNewest invoice.id c' v d ∧ MarkedRow penaltyAmount c' := by
  obtain ⟨rfl, dailyPenaltyRate, hinsert⟩ | ⟨c, w, rfl, hfirst, hsecond⟩ := saveOverdueRecord_cases h
  · obtain ⟨hrow, hd⟩ := insertCollection_ok hinsert
    have hinvoices : d.invoices = v.invoices := by rw [hd]
    have hnone := getCollectionByInvoiceId_none hexisting
    exact ⟨hinvoices, _, .of_insert hrow hnone rfl hinvoices, ⟨rfl, rfl, rfl, rfl⟩⟩
  · obtain ⟨hc, hnewest⟩ := getCollectionByInvoiceId_newest hexisting
    obtain rfl := hid c rfl
    have hmarked := updateCollection_ok hfirst (Table.get?_of_mem hc.1)
    have hwrites := hmarked.trans (updateCollection_now_ok hsecond hmarked.row.after)
    have hinvoices : d.invoices = v.invoices := by rw [hwrites.world]
    exact ⟨hinvoices, _, .of_rewrites hwrites.row hc hnewest rfl hinvoices, ⟨rfl, rfl, rfl, rfl⟩⟩

/-- The commit of `processOverdueInvoice` for a collecting invoice. -/
theorem executeOverdueTxn_marks {k : ℕ} {user : Actor}
    (h : executeOverdueTxn cfg invoice existing penaltyAmount user i v = .ok (k, d))
    (hexisting : Repo.getCollectionByInvoiceId invoice.id choice v = existing)
    (hr : v.invoices.get? invoice.id = some invoice) (hstatus : invoice.status = .collecting) :
    (∃ c', WritesNewest invoice.id c' v d ∧ MarkedRow penaltyAmount c') ∧
      ∃ r', d.invoices.get? invoice.id = some r' ∧ MarkedInvoice invoice r' := by
  obtain ⟨hid, _, w₁, w₂, _, _, hsave, hmove, haudit⟩ := executeOverdueTxn_cases h
  obtain ⟨hinvoices, c', hwrites, hmarked⟩ := saveOverdueRecord_marks hsave hexisting hid
  have hrow := updateInvoiceStatus_rewrites hmove (by rw [hinvoices, hr]) hstatus
  obtain ⟨hw₂, -, -⟩ := updateInvoiceStatus_ok hmove
  have hd := createAuditEntry_ok haudit
  have hrows : d.collections = w₁.collections := by rw [hd, hw₂]
  have hafter : d.invoices = w₂.invoices := by rw [hd]
  refine ⟨⟨c', hwrites.congr hrows fun j hj => ?_, hmarked⟩,
    Payments.setInvoiceStatus .overdue i.now invoice, ?_, ⟨rfl, rfl⟩, rfl⟩
  · rw [hafter, hrow.others j hj]
  · rw [hafter]
    exact hrow.after

/-- For an invoice with a collection it commits, if the audit log takes the user `'SYSTEM'`. -/
theorem executeOverdueTxn_commits (hrefused : cfg.systemUserRefused = false) :
    ∃ d, executeOverdueTxn cfg invoice (some c) penaltyAmount .system i v = .ok (c.id, d) := by
  simp only [executeOverdueTxn, createAuditEntry, auditUserId, hrefused]
  exact ⟨_, rfl⟩

/-- It never commits if the audit log refuses that user. -/
theorem executeOverdueTxn_refused (hrefused : cfg.systemUserRefused = true) {k : ℕ}
    (h : executeOverdueTxn cfg invoice existing penaltyAmount .system i v = .ok (k, d)) : False := by
  simp only [executeOverdueTxn, Txn.bind_ok] at h
  obtain ⟨_, _, -, _, _, -, _, _, -, _, _, haudit, -⟩ := h
  simp only [createAuditEntry, auditUserId, hrefused, Txn.bind_ok, Txn.liftM_ok] at haudit
  obtain ⟨_, _, ⟨huuid, -⟩, -⟩ := haudit
  cases huuid

/-- The transaction of `processEscalation` commits. -/
theorem executeEscalationTxn_commits {newLevel daysOverdue penalty : ℤ} :
    ∃ d, executeEscalationTxn cfg c invoice newLevel daysOverdue penalty i v = .ok ((), d) := by
  simp only [executeEscalationTxn, flagIf]
  cases checkSarFlag cfg newLevel invoice.faceValue <;> exact ⟨_, rfl⟩

/-- The commit of `processEscalation` for the collection that was found. -/
theorem executeEscalationTxn_escalates {newLevel daysOverdue penalty : ℤ} {u : Unit}
    (h : executeEscalationTxn cfg c invoice newLevel daysOverdue penalty i v = .ok (u, d))
    {invoiceId : ℕ} (hc : Repo.getCollectionByInvoiceId invoiceId choice v = some c) :
    d.invoices = v.invoices ∧
      ∃ c', WritesNewest invoiceId c' v d ∧ EscalatedRow daysOverdue penalty newLevel c' := by
  obtain ⟨hmem, hnewest⟩ := getCollectionByInvoiceId_newest hc
  obtain ⟨w₃, hw₃, hd⟩ := executeEscalationTxn_writes h (Table.get?_of_mem hmem.1)
  have hrows : d.collections = w₃.collections := by rw [hd]
  have hinvoices : d.invoices = v.invoices := by rw [hd, hw₃.world]
  have hrow := hw₃.row
  rw [← hrows] at hrow
  unfold escalatedRow at hrow
  refine ⟨hinvoices, _, .of_rewrites hrow hmem hnewest ?_ hinvoices, ?_, ?_, ?_, ?_⟩
  all_goals
    dsimp only
    split <;> rfl

end Transactions

/-! ## The turns of the two loops -/

/-- The job marks the collection of the invoice. -/
def Marks (cfg : Config) (r : Invoice) : Prop :=
  r.status = .collecting ∧ cfg.systemUserRefused = false

/-- What a turn of the first loop does: nothing, if the job does not mark the invoice or it has no
collection that could be marked; or it marks. -/
inductive OverdueTurn (cfg : Config) (rate : ℚ) (invoiceId : ℕ) (v d : World) : Prop
  | same (tables : SameTables v d)
      (unmarked : ∀ r, v.invoices.get? invoiceId = some r → Marks cfg r →
        collectionsOf v invoiceId = ∅)
  | marked (r r' : Invoice) (c' : Collection) (invoice : v.invoices.get? invoiceId = some r)
      (marks : Marks cfg r) (invoice' : d.invoices.get? invoiceId = some r')
      (markedInvoice : MarkedInvoice r r') (writes : WritesNewest invoiceId c' v d)
      (row : MarkedRow (calculatePenalty r.faceValue 1 rate) c')

/-- What a turn of the second loop does: nothing, if the newest collection is at the level of the days
already; or it escalates that one. -/
inductive EscalationTurn (rate : ℚ) (invoiceId : ℕ) (daysOverdue : ℤ) (v d : World) : Prop
  | same (tables : SameTables v d)
      (settled : ∀ r, v.invoices.get? invoiceId = some r → ∀ c ∈ collectionsOf v invoiceId,
        Latest (collectionsOf v invoiceId) c → determineEscalationLevel daysOverdue ≤ c.escalationLevel)
  | escalated (r : Invoice) (c c' : Collection) (invoice : v.invoices.get? invoiceId = some r)
      (mem : c ∈ collectionsOf v invoiceId)
      (level : c.escalationLevel < determineEscalationLevel daysOverdue)
      (invoices : d.invoices = v.invoices) (writes : WritesNewest invoiceId c' v d)
      (row : EscalatedRow daysOverdue (calculatePenalty r.faceValue daysOverdue rate)
        (determineEscalationLevel daysOverdue) c')

section Turns

variable {cfg : Config} {today : ℤ} {rate : ℚ} {invoiceId : ℕ} {daysOverdue : ℤ} {v d d' : World}

theorem OverdueTurn.jobs (h : OverdueTurn cfg rate invoiceId v d) (hd : SameTables d d') :
    OverdueTurn cfg rate invoiceId v d' := by
  cases h with
  | same tables unmarked => exact .same (tables.trans hd) unmarked
  | marked r r' c' invoice marks invoice' markedInvoice writes row =>
    have hrows : d'.collections = d.collections := by rw [hd]
    have hinvoices : d'.invoices = d.invoices := by rw [hd]
    exact .marked r r' c' invoice marks (by rw [hinvoices, invoice']) markedInvoice
      (writes.congr hrows fun j _ => by rw [hinvoices]) row

theorem EscalationTurn.jobs (h : EscalationTurn rate invoiceId daysOverdue v d)
    (hd : SameTables d d') : EscalationTurn rate invoiceId daysOverdue v d' := by
  cases h with
  | same tables settled => exact .same (tables.trans hd) settled
  | escalated r c c' invoice mem level invoices writes row =>
    have hrows : d'.collections = d.collections := by rw [hd]
    have hinvoices : d'.invoices = d.invoices := by rw [hd]
    exact .escalated r c c' invoice mem level (hinvoices.trans invoices)
      (writes.congr hrows fun j _ => by rw [hinvoices]) row

/-- The spec of `processOverdueInvoice` for the job; an error leaves the tables. -/
theorem ends_processOverdueInvoice :
    Proc.Ends (OnDay today rate) (fun _ => OverdueTurn cfg rate invoiceId v)
      (fun _ => OverdueTurn cfg rate invoiceId v) (processOverdueInvoice cfg invoiceId .system) v := by
  unfold processOverdueInvoice
  refine (ends_query (Q := fun found w => v = w ∧ v.invoices.get? invoiceId = found)
    ⟨rfl, rfl⟩).bind ?_
  rintro found _ ⟨rfl, hr⟩
  cases found with
  | none => exact Proc.ends_throw (.same (.refl _) fun r hsome => by rw [hr] at hsome; cases hsome)
  | some invoice =>
    obtain rfl : invoice.id = invoiceId := Table.key_of_get? hr
    by_cases hstatus : invoice.status = .collecting
    · simp only [hstatus, ne_eq, not_true_eq_false, if_false]
      refine (ends_getDailyPenaltyRate (Q := fun r w => v = w ∧ rate = r) ⟨rfl, rfl⟩).bind ?_
      rintro _ _ ⟨rfl, rfl⟩
      refine (ends_getCollectionByInvoiceId (Q := fun existing w => v = w ∧
        ∃ choice, Repo.getCollectionByInvoiceId invoice.id choice v = existing)
        fun choice => ⟨rfl, choice, rfl⟩).bind ?_
      rintro existing _ ⟨rfl, choice, hexisting⟩
      refine Proc.Ends.bind (R := fun _ => OverdueTurn cfg rate invoice.id v)
        (ends_transaction ?_ ?_) ?_
      · intro i k d hx
        obtain ⟨⟨c', hwrites, hrow⟩, r', hr', hinvoice⟩ :=
          executeOverdueTxn_marks hx hexisting hr hstatus
        have haccepted : cfg.systemUserRefused = false := by
          rw [← Bool.not_eq_true]
          exact fun hrefused => executeOverdueTxn_refused hrefused hx
        exact .marked invoice r' c' hr ⟨hstatus, haccepted⟩ hr' hinvoice hwrites hrow
      · -- an error: the audit log refused the user, or the collection could not be opened
        intro i e hx
        refine .same (.refl _) fun r _ hmarks => ?_
        cases existing with
        | none => exact getCollectionByInvoiceId_none hexisting
        | some c =>
          have hcommits : ∃ d, executeOverdueTxn cfg invoice (some c)
              (calculatePenalty invoice.faceValue 1 rate) .system i v = .ok (c.id, d) :=
            executeOverdueTxn_commits hmarks.2
          obtain ⟨d, hcommit⟩ := hcommits
          rw [hcommit] at hx
          cases hx
      · intro _ d hturn
        refine (ends_log (Q := fun _ => OverdueTurn cfg rate invoice.id v) hturn).bind
          fun _ d hturn => ?_
        exact ends_queueNotification fun _ hsame => hturn.jobs hsame
    · simp only [hstatus, ne_eq, not_false_eq_true, if_true]
      refine Proc.ends_pure (.same (.refl _) fun r hsome hmarks => absurd hmarks.1 ?_)
      rw [hr, Option.some.injEq] at hsome
      exact hsome ▸ hstatus

/-- The spec of `processEscalation`; an error leaves the tables. -/
theorem ends_processEscalation :
    Proc.Ends (OnDay today rate) (fun _ => EscalationTurn rate invoiceId daysOverdue v)
      (fun _ => EscalationTurn rate invoiceId daysOverdue v)
      (processEscalation cfg invoiceId daysOverdue) v := by
  unfold processEscalation processEscalationWith
  refine (ends_query (Q := fun found w => v = w ∧ v.invoices.get? invoiceId = found)
    ⟨rfl, rfl⟩).bind ?_
  rintro found _ ⟨rfl, hr⟩
  cases found with
  | none => exact Proc.ends_throw (.same (.refl _) fun r hsome => by rw [hr] at hsome; cases hsome)
  | some invoice =>
    refine (ends_getCollectionByInvoiceId (Q := fun found w => v = w ∧
      ∃ choice, Repo.getCollectionByInvoiceId invoiceId choice v = found)
      fun choice => ⟨rfl, choice, rfl⟩).bind ?_
    rintro found _ ⟨rfl, choice, hfound⟩
    cases found with
    | none =>
      refine Proc.ends_throw (.same (.refl _) fun _ _ c hc => ?_)
      rw [getCollectionByInvoiceId_none hfound] at hc
      cases hc
    | some c =>
      obtain ⟨hmem, hnewest⟩ := getCollectionByInvoiceId_newest hfound
      by_cases hlevel : determineEscalationLevel daysOverdue ≤ c.escalationLevel
      · simp only [hlevel, if_true]
        refine Proc.ends_pure (.same (.refl _) fun _ _ x hx hlatest => ?_)
        rw [← hlatest.eq hmem (hnewest x hx)]
        exact hlevel
      · simp only [hlevel, if_false]
        refine (ends_getDailyPenaltyRate (Q := fun r w => v = w ∧ rate = r) ⟨rfl, rfl⟩).bind ?_
        rintro _ _ ⟨rfl, rfl⟩
        refine Proc.Ends.bind (R := fun _ => EscalationTurn rate invoiceId daysOverdue v)
          (ends_transaction ?_ ?_) ?_
        · intro i _ d hx
          obtain ⟨hinvoices, c', hwrites, hrow⟩ := executeEscalationTxn_escalates hx hfound
          exact .escalated invoice c c' hr hmem (not_le.1 hlevel) hinvoices hwrites hrow
        · intro i e hx
          have hcommits : ∃ d, executeEscalationTxn cfg c invoice (determineEscalationLevel daysOverdue)
              daysOverdue (calculatePenalty invoice.faceValue daysOverdue rate) i v = .ok ((), d) :=
            executeEscalationTxn_commits
          obtain ⟨d, hcommit⟩ := hcommits
          rw [hcommit] at hx
          cases hx
        · intro _ d hturn
          refine (ends_log (Q := fun _ => EscalationTurn rate invoiceId daysOverdue v) hturn).bind
            fun _ d hturn => ?_
          refine (ends_queueNotification (Q := fun _ => EscalationTurn rate invoiceId daysOverdue v)
            fun _ hsame => hturn.jobs hsame).bind fun _ d hturn => ?_
          unfold autoGenerateDraft
          split
          · exact ends_log hturn
          · exact Proc.ends_pure hturn

/-- An error of a turn is logged. -/
theorem ends_orLog {p : Call Unit} {message : String} {Q : World → Prop}
    {E : RisError → World → Prop} (h : p.Ends (OnDay today rate) (fun _ => Q) (fun _ => Q) v) :
    (tryCatch p fun _ => log message).Ends (OnDay today rate) (fun _ => Q) E v :=
  h.tryCatch fun _ _ hQ => ends_log hQ

end Turns

end Ris.Collections
