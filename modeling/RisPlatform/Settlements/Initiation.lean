import RisPlatform.Settlements.Profit

/-!
# The initiation of a settlement

A retried job has the key of the first one, and an insert that meets the key returns the row that is
there. The audit row is written with the id that was drawn for the new row in any case. An initiation that
loses the race for the key leaves a second audit row, of a settlement that does not exist.
-/

namespace Ris.Settlements

open Relational Concurrent

/-! ## The law -/

/-- The ids of the settlements of an invoice. -/
def settlementsOf (invoiceId : ℕ) (w : World) : List ℕ :=
  (w.settlements.rows.filter fun r => r.invoiceId = invoiceId).map Settlement.id

/-- The audit rows of initiations for an invoice. -/
def initiationsOf (invoiceId : ℕ) (w : World) : List AuditLog :=
  w.auditLogs.filter fun a =>
    a.action = "SETTLEMENT_INITIATED" ∧ ("invoiceId", .id invoiceId) ∈ a.newValues

/-- The invoice that an event returns a settlement for, and the id that is returned. -/
def returned? : Event → Option (ℕ × ℕ)
  | .settlementReplayed invoiceId settlementId => some (invoiceId, settlementId)
  | .settlementInitiated invoiceId _ settlementId => some (invoiceId, settlementId)
  | _ => none

/-- The invoice whose initiation commits. -/
def initiated? : Event → Option ℕ
  | .settlementInitiated invoiceId _ _ => some invoiceId
  | _ => none

/-- The invoice has at most one settlement; it was audited once, and every call returned its id. -/
structure InitiatedOnce (invoiceId : ℕ) (s : State World Event) : Prop where
  once : (settlementsOf invoiceId s.store).length ≤ 1
  audited : (initiationsOf invoiceId s.store).map AuditLog.recordId =
    (settlementsOf invoiceId s.store).map Json.id
  returned : ∀ x ∈ s.hist, ∀ e ∈ x.2, ∀ y ∈ returned? e,
    y.1 = invoiceId → settlementsOf invoiceId s.store = [y.2]

/-- An initiation that commits finds no settlement of the invoice. -/
def FirstOfInvoice : Cond World Event := fun s _ e =>
  ∀ invoiceId ∈ initiated? e, settlementsOf invoiceId s.store = []

instance (s : State World Event) (t : ℕ) (e : Event) : Decidable (FirstOfInvoice s t e) := by
  unfold FirstOfInvoice
  infer_instance

/-! ## What a statement does -/

/-- The keys name the invoices of their rows. -/
def Keyed (w : World) : Prop := ∀ r ∈ w.settlements.rows, r.idempotencyKey.invoiceId = r.invoiceId

section Steps

variable {w w' : World} {e : Event} {invoiceId : ℕ}

theorem mem_settlementsOf {r : Settlement} (hr : r ∈ w.settlements.rows)
    (hinvoice : r.invoiceId = invoiceId) :
    r.id ∈ settlementsOf invoiceId w :=
  List.mem_map_of_mem (List.mem_filter.2 ⟨hr, decide_eq_true hinvoice⟩)

theorem settlementsOf_of_insert {row : Settlement} {settlements : Table Settlement.id}
    (h : w.settlements.insert? row = some settlements) (hw' : w'.settlements = settlements) :
    settlementsOf invoiceId w' =
      settlementsOf invoiceId w ++ if row.invoiceId = invoiceId then [row.id] else [] := by
  rw [settlementsOf, hw', Table.rows_insert? h, List.filter_append, List.map_append]
  by_cases hinvoice : row.invoiceId = invoiceId <;> simp [settlementsOf, hinvoice]

theorem initiationsOf_append {entry : AuditLog} (hw' : w'.auditLogs = w.auditLogs ++ [entry]) :
    initiationsOf invoiceId w' = initiationsOf invoiceId w ++
      if entry.action = "SETTLEMENT_INITIATED" ∧
        ("invoiceId", .id invoiceId) ∈ entry.newValues then [entry]
      else [] := by
  rw [initiationsOf, hw', List.filter_append]
  split
  next h => simp [initiationsOf, h]
  next h => simp [initiationsOf, h]

/-- The audit row of an initiation is of its invoice alone. -/
theorem Initiation.mem_iff {settlementId v : ℕ} {entry : AuditLog}
    (h : Initiation v settlementId entry) :
    (entry.action = "SETTLEMENT_INITIATED" ∧ ("invoiceId", .id invoiceId) ∈ entry.newValues) ↔
      v = invoiceId := by
  rw [h.newValues]
  simp [h.action, eq_comm]

/-- Every event keeps the keys. -/
theorem Keyed.does (hw : Keyed w) (h : Does w e w') : Keyed w' := by
  rcases h with h | ⟨-, hframe⟩
  · cases h with
    | read | replayed | conflicted => exact hw
    | initiated row settlements entry hkey hstatus hfirst hinsert hentry =>
      intro r hr
      rcases (Table.mem_insert? hinsert).1 hr with hold | rfl
      · exact hw r hold
      · exact hkey
  · rw [Keyed, hframe]
    exact hw

/-- An event of no service says nothing of a settlement. -/
theorem silent_of_service? (h : e.service? = none) : returned? e = none ∧ initiated? e = none := by
  cases e <;> first | exact ⟨rfl, rfl⟩ | cases h

end Steps

/-! ## When the law is kept -/

section Law

variable {s : State World Event} {t invoiceId : ℕ} {e : Event} {w : World}

theorem InitiatedOnce.length_eq (hs : InitiatedOnce invoiceId s) :
    (initiationsOf invoiceId s.store).length = (settlementsOf invoiceId s.store).length := by
  have h := congrArg List.length hs.audited
  rwa [List.length_map, List.length_map] at h

/-- A statement that leaves the settlements of the invoice and their audit rows. -/
theorem InitiatedOnce.record (hs : InitiatedOnce invoiceId s)
    (hids : settlementsOf invoiceId w = settlementsOf invoiceId s.store)
    (haudits : initiationsOf invoiceId w = initiationsOf invoiceId s.store)
    (hreturned : ∀ y ∈ returned? e, y.1 = invoiceId → y.2 ∈ settlementsOf invoiceId s.store) :
    InitiatedOnce invoiceId (s.record t (some e) w) where
  once := by
    show (settlementsOf invoiceId w).length ≤ 1
    rw [hids]
    exact hs.once
  audited := by
    show (initiationsOf invoiceId w).map AuditLog.recordId = (settlementsOf invoiceId w).map Json.id
    rw [hids, haudits]
    exact hs.audited
  returned := by
    intro x hx e' he' y hy hinvoice
    show settlementsOf invoiceId w = [y.2]
    rw [hids]
    rcases List.mem_cons.1 hx with rfl | hold
    · obtain rfl : e = e' := Option.some.inj he'
      -- the list has at most one element, and this is one
      obtain ⟨id, hid⟩ := List.length_eq_one_iff.1
        (le_antisymm hs.once (List.length_pos_of_mem (hreturned y hy hinvoice)))
      have hmem := hreturned y hy hinvoice
      rw [hid, List.mem_singleton] at hmem
      rw [hid, hmem]
    · exact hs.returned x hold e' he' y hy hinvoice

/-- The first initiation of an invoice: the settlement that is inserted is the one that is audited and
returned. -/
theorem InitiatedOnce.first {id : ℕ} {entry : AuditLog} (hs : InitiatedOnce invoiceId s)
    (hnone : settlementsOf invoiceId s.store = []) (hids : settlementsOf invoiceId w = [id])
    (haudits : initiationsOf invoiceId w = initiationsOf invoiceId s.store ++ [entry])
    (hentry : entry.recordId = .id id) (hreturned : ∀ y ∈ returned? e, y.2 = id) :
    InitiatedOnce invoiceId (s.record t (some e) w) where
  once := by
    show (settlementsOf invoiceId w).length ≤ 1
    rw [hids]
    exact le_refl 1
  audited := by
    show (initiationsOf invoiceId w).map AuditLog.recordId = (settlementsOf invoiceId w).map Json.id
    rw [hids, haudits, List.map_append, hs.audited, hnone, List.map_singleton, hentry]
    rfl
  returned := by
    intro x hx e' he' y hy hinvoice
    show settlementsOf invoiceId w = [y.2]
    rcases List.mem_cons.1 hx with rfl | hold
    · obtain rfl : e = e' := Option.some.inj he'
      rw [hids, hreturned y hy]
    · have hbefore := hs.returned x hold e' he' y hy hinvoice
      rw [hnone] at hbefore
      cases hbefore

/-- A statement keeps the law exactly if its initiation, if it commits one, is the first of the invoice. -/
theorem initiatedOnce_iff (hkeyed : Keyed s.store) (hs : ∀ v, InitiatedOnce v s)
    (h : Does s.store e w) :
    (∀ v, InitiatedOnce v (s.record t (some e) w)) ↔ FirstOfInvoice s t e := by
  rcases h with h | ⟨hservice, hframe⟩
  · cases h with
    | read =>
      exact iff_of_true (fun v => (hs v).record rfl rfl fun _ h => nomatch h) fun _ h => nomatch h
    | replayed v r hr hkey =>
      refine iff_of_true (fun v' => (hs v').record rfl rfl ?_) fun _ h => nomatch h
      intro y hy hinvoice
      obtain rfl : (v, r.id) = y := Option.some.inj hy
      exact mem_settlementsOf hr ((hkeyed r hr).symm.trans (hkey.trans hinvoice))
    | initiated row settlements entry hkey hstatus hfirst hinsert hentry =>
      have hnone : settlementsOf row.invoiceId s.store = [] := by
        refine List.map_eq_nil_iff.2 (List.filter_eq_nil_iff.2 fun r hr => ?_)
        simpa using hfirst r hr
      refine iff_of_true (fun v => ?_) fun v hv => ?_
      · by_cases hv : row.invoiceId = v
        · subst hv
          refine (hs _).first hnone ?_ ?_ hentry.recordId ?_
          · rw [settlementsOf_of_insert hinsert rfl, hnone, if_pos rfl, List.nil_append]
          · rw [initiationsOf_append rfl, if_pos (hentry.mem_iff.2 rfl)]
          · intro y hy
            obtain rfl : (row.invoiceId, row.id) = y := Option.some.inj hy
            rfl
        · refine (hs v).record ?_ ?_ ?_
          · rw [settlementsOf_of_insert hinsert rfl, if_neg hv, List.append_nil]
          · rw [initiationsOf_append rfl, if_neg fun h => hv (hentry.mem_iff.1 h), List.append_nil]
          · intro y hy hinvoice
            obtain rfl : (row.invoiceId, row.id) = y := Option.some.inj hy
            exact absurd hinvoice hv
      · obtain rfl := Option.some.inj hv
        exact hnone
    | conflicted v drawn r entry hr hkey hentry =>
      have hmem : r.id ∈ settlementsOf v s.store :=
        mem_settlementsOf hr ((hkeyed r hr).symm.trans hkey)
      refine iff_of_false (fun honce => ?_) fun hfirst => ?_
      · -- the settlement is audited already, and has a second audit row now
        have hbefore := (hs v).length_eq
        have hafter : (initiationsOf v { s.store with auditLogs := s.store.auditLogs ++ [entry] }).length =
            (settlementsOf v s.store).length := (honce v).length_eq
        rw [initiationsOf_append rfl, if_pos (hentry.mem_iff.2 rfl), List.length_append,
          List.length_singleton] at hafter
        omega
      · rw [hfirst v rfl] at hmem
        cases hmem
  · obtain ⟨hreturned, hinitiated⟩ := silent_of_service? hservice
    refine iff_of_true (fun v => (hs v).record ?_ ?_ ?_) ?_
    · rw [settlementsOf, hframe]
      rfl
    · rw [initiationsOf, hframe]
      rfl
    · rw [hreturned]
      exact fun _ h => nomatch h
    · intro v hv
      rw [hinitiated] at hv
      cases hv

end Law

/-- The runs in which every invoice always has at most one settlement, with one audit row of it and its id
returned by every call, are those in which each initiation that commits finds no settlement of the
invoice. -/
theorem initiatedOnce_iff_first (cfg : Config) (d : World) (hkeyed : Keyed d)
    (hd : ∀ v, InitiatedOnce v ⟨d, []⟩) (s : Sys World Input Event RisError) :
    Relation.ReflTransGen
        (fun s s' => Step (program cfg) always s s' ∧ ∀ v, InitiatedOnce v s'.toState) (Sys.init d) s ↔
      Reaches (program cfg) FirstOfInvoice (Sys.init d) s := by
  refine Protocol.runs_iff (P := fun s => Keyed s.store ∧ ∀ v, InitiatedOnce v s)
    (R := fun _ s' => ∀ v, InitiatedOnce v s') (program_implements cfg) trivial ⟨hkeyed, hd⟩
    ?_ ?_ ?_ ?_ s
  · exact fun s hs => hs.2
  · rintro s t w ⟨-, hs⟩ hmove v
    obtain rfl : w = s.store := hmove.effect
    refine ⟨(hs v).once, (hs v).audited, fun x hx e he => ?_⟩
    rcases List.mem_cons.1 hx with rfl | hold
    · cases he
    · exact (hs v).returned x hold e he
  · exact fun s t e w hs hmove => initiatedOnce_iff hs.1 hs.2 hmove.effect
  · rintro s t e w ⟨hkeyed, -⟩ hmove hkept
    refine ⟨?_, hkept⟩
    cases e with
    | some e => exact hkeyed.does hmove.effect
    | none =>
      obtain rfl : w = s.store := hmove.effect
      exact hkeyed

/-- The configuration of a database that has the columns, and takes the worker's name for a user. -/
def takesSystemUser : Config := { entityColumnsRefused := false, systemUserRefused := false }

/-- The job for the paid invoice. -/
def settlementJob : Op :=
  .handleSettlementJob { invoiceId := 1, collectionId := 1, amount := 1000000, penaltyAmount := 0 }

theorem keyed_paidInvoice : Keyed paidInvoice := fun _ hr => absurd hr List.not_mem_nil

theorem initiatedOnce_paidInvoice (v : ℕ) : InitiatedOnce v ⟨paidInvoice, []⟩ :=
  ⟨Nat.zero_le 1, rfl, fun _ hx => nomatch hx⟩

/-- The job is run, and tried again. -/
theorem initiated_once_in_turn :
    ∃ s : Sys World Input Event RisError,
      s.hist.filterMap (fun x => x.2.bind returned?) = [(1, 7), (1, 7)] ∧
        Relation.ReflTransGen
          (fun s s' => Step (program takesSystemUser) always s s' ∧ ∀ v, InitiatedOnce v s'.toState)
          (Sys.init paidInvoice) s := by
  obtain ⟨s, hs, hP⟩ := exists_reaches (program takesSystemUser) FirstOfInvoice (Sys.init paidInvoice)
    ([.start settlementJob, .move 0 {}, .move 0 {}, .move 0 {}, .move 0 { uuid := 7 }, .move 0 {}] ++
      Act.call settlementJob 1 (List.replicate 2 ({} : Input)))
    (fun s => s.hist.filterMap (fun x => x.2.bind returned?) = [(1, 7), (1, 7)]) (by decide)
  exact ⟨s, of_decide_eq_true hP,
    (initiatedOnce_iff_first takesSystemUser _ keyed_paidInvoice initiatedOnce_paidInvoice s).2 hs⟩

/-- Two workers run the job, and both find no settlement. The second audit row is of a settlement that
does not exist. -/
theorem initiated_twice :
    ∃ s : Sys World Input Event RisError,
      Reaches (program takesSystemUser) always (Sys.init paidInvoice) s ∧
        settlementsOf 1 s.store = [7] ∧
          (initiationsOf 1 s.store).map AuditLog.recordId = [.id 7, .id 8] := by
  obtain ⟨s, hs, hP⟩ := exists_reaches (program takesSystemUser) always (Sys.init paidInvoice)
    [.start settlementJob, .start settlementJob, .move 0 {}, .move 0 {}, .move 0 {}, .move 1 {},
      .move 1 {}, .move 1 {}, .move 0 { uuid := 7 }, .move 1 { uuid := 8 }]
    (fun s => settlementsOf 1 s.store = [7] ∧
      (initiationsOf 1 s.store).map AuditLog.recordId = [.id 7, .id 8]) (by decide)
  obtain ⟨hids, haudits⟩ := of_decide_eq_true hP
  exact ⟨s, hs, hids, haudits⟩

end Ris.Settlements
