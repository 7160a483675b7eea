import RisPlatform.Common.Histories
import RisPlatform.Compliance.AmlClearance

/-!
# An invoice is cleared once

The `UPDATE` of a clearance matches a flagged row that is not cleared, and a clearance whose `UPDATE`
matches no row is rolled back. So of the calls that pass the guard together one commits, with its audit
row; and what it wrote stays.
-/

namespace Ris.Compliance

open Relational Concurrent

/-! ## The law -/

/-- The invoice was cleared. -/
def clears (invoiceId : ℕ) : Option Event → Bool
  | some (.amlCleared i _) => i = invoiceId
  | _ => false

/-- The audit rows of clearances of the invoice. -/
def clearanceAudits (invoiceId : ℕ) (w : World) : List AuditLog :=
  w.auditLogs.filter fun a => a.action = "AML_CLEARED" ∧ a.recordId = .id invoiceId

/-- What became of an invoice of the store `d`: it is as it was, or one call has cleared it, with the one
audit row. -/
inductive ClearanceOf (cfg : Config) (d : World) (s : State World Event) (invoiceId : ℕ) : Prop
  | uncleared (hhist : occurrences (clears invoiceId) s.hist = 0)
      (hrow : s.store.invoices.get? invoiceId = d.invoices.get? invoiceId)
      (haudits : clearanceAudits invoiceId s.store = clearanceAudits invoiceId d)
  | cleared (t officerId : ℕ) (input : ClearAmlInput) (req : Request) (now : ℤ) (r : Invoice)
      (hhist : occurrences (clears invoiceId) s.hist = 1)
      (hcall : (t, some (.amlCleared invoiceId officerId)) ∈ s.hist)
      (hd : d.invoices.get? invoiceId = some r) (hawaits : AwaitsClearance invoiceId r)
      (hrow : s.store.invoices.get? invoiceId = some (setCleared officerId input.reason now r))
      (haudits : clearanceAudits invoiceId s.store = clearanceAudits invoiceId d ++
        [clearanceAudit cfg invoiceId officerId input.sanctionsCheckComplete req])

/-! ## The effect of a clearance -/

/-- The `UPDATE` has matched the row, and the audit row is that of the call. -/
inductive Clearance (cfg : Config) (w : World) : Event → World → Prop
  | cleared (invoiceId officerId : ℕ) (input : ClearAmlInput) (req : Request) (now : ℤ) (r : Invoice)
      (hr : w.invoices.get? invoiceId = some r) (hawaits : AwaitsClearance invoiceId r) :
      Clearance cfg w (.amlCleared invoiceId officerId)
        { w with
          invoices := w.invoices.update (fun r => AwaitsClearance invoiceId r)
            (setCleared officerId input.reason now) (id_setCleared officerId input.reason now)
          auditLogs := w.auditLogs ++
            [clearanceAudit cfg invoiceId officerId input.sanctionsCheckComplete req] }

section Update

variable {T : Table Invoice.id} {invoiceId officerId : ℕ} {reason : String} {now : ℤ}

/-- The `UPDATE` writes the row that awaits clearance. -/
theorem get?_cleared {r : Invoice} (hr : T.get? invoiceId = some r)
    (hawaits : AwaitsClearance invoiceId r) :
    (T.update (fun r => AwaitsClearance invoiceId r) (setCleared officerId reason now)
      (id_setCleared officerId reason now)).get? invoiceId = some (setCleared officerId reason now r) := by
  rw [Table.get?_update_of_get? hr, if_pos (decide_eq_true hawaits)]

theorem get?_cleared_of_not {k : ℕ} (h : ∀ r, T.get? k = some r → ¬AwaitsClearance invoiceId r) :
    (T.update (fun r => AwaitsClearance invoiceId r) (setCleared officerId reason now)
      (id_setCleared officerId reason now)).get? k = T.get? k :=
  Table.get?_update_of_not fun r hr => decide_eq_false (h r hr)

end Update

theorem clearance_of_applyClearanceTxn {cfg : Config} {i : Input} {w w' : World}
    {invoiceId officerId : ℕ}
    {input : ClearAmlInput} {req : Request} {clearedAt : ℤ}
    (h : applyClearanceTxn cfg invoiceId officerId input req i w = .ok (clearedAt, w')) :
    Clearance cfg w (.amlCleared invoiceId officerId) w' := by
  simp only [applyClearanceTxn, applyAmlClearanceWithClient, Txn.bind_ok, now_ok, Txn.read_ok,
    Txn.write_ok, Txn.pure_ok] at h
  obtain ⟨found, _, ⟨_, _, ⟨rfl, rfl⟩, _, _, ⟨rfl, rfl⟩, _, _, rfl, hfound, rfl⟩, h⟩ := h
  cases found with
  | none => cases h
  | some time =>
    simp only [Txn.bind_ok, createAuditEntry_ok, Txn.pure_ok] at h
    obtain ⟨_, _, rfl, -, rfl⟩ := h
    obtain ⟨r, hr, -⟩ := Option.map_eq_some_iff.1 hfound
    obtain ⟨hget, hawaits⟩ := Option.filter_eq_some_iff.1 hr
    exact .cleared _ _ _ _ _ r hget (of_decide_eq_true hawaits)

/-- A move of the service: a clearance, or one that leaves the invoices and the audit rows. -/
def Moves (cfg : Config) (s : State World Event) : Option Event → World → Prop
  | some e, w =>
    Clearance cfg s.store e w ∨
      e.service? = none ∧ w.invoices = s.store.invoices ∧ w.auditLogs = s.store.auditLogs
  | none, w => w = s.store

def protocol (cfg : Config) : Protocol World Event where
  inv _ := True
  effect s _ := Moves cfg s
  inv_effect _ _ := trivial
  return_stable _ _ _ _ := rfl

theorem permissive_protocol (cfg : Config) : Permissive (protocol cfg) where
  read _ _ := Or.inr ⟨rfl, rfl, rfl⟩
  threw _ _ := Or.inr ⟨rfl, rfl, rfl⟩
  logged _ _ _ := Or.inr ⟨rfl, rfl, rfl⟩
  enqueued _ _ _ := Or.inr ⟨rfl, rfl, rfl⟩
  leftJobs _ _ _ := Or.inr ⟨rfl, rfl, rfl⟩

theorem program_implements (cfg : Config) : (protocol cfg).Implements (program cfg) := by
  rintro ⟨invoiceId, officerId, input, req⟩ t
  have hpermissive := permissive_protocol cfg
  have hquiet := hpermissive.toQuiet
  have hfree : Free (protocol cfg) (clearInvoice cfg invoiceId officerId input req) :=
    free_bind (free_query hquiet _) fun _ => free_bind (free_lift _) fun _ =>
      free_bind (free_transaction hquiet fun s t i clearedAt d _ h =>
        Or.inl (clearance_of_applyClearanceTxn h)) fun _ =>
        free_bind (free_enqueueOrWarn hpermissive _ _ _) fun _ => free_bind (free_log hquiet _) fun _ =>
          free_pure _
  exact ((free_discard hfree).of _ t).conseq (fun _ _ h => h) (fun _ _ _ _ => rfl) fun _ _ _ _ => rfl

/-! ## The invariant -/

section Moves

variable {cfg : Config} {d : World} {s : State World Event} {t : ℕ} {e : Event} {w : World} {invoiceId : ℕ}

/-- A row that does not await clearance is left alone. -/
theorem get?_of_moves {e : Option Event} (h : Moves cfg s e w) {r : Invoice}
    (hr : s.store.invoices.get? invoiceId = some r) (hawaits : ¬AwaitsClearance invoiceId r) :
    w.invoices.get? invoiceId = some r := by
  cases e with
  | none =>
    obtain rfl : w = s.store := h
    exact hr
  | some e =>
    rcases h with h | ⟨-, hinvoices, -⟩
    · cases h with
      | cleared i officerId input req now r' hr' hawaits' =>
        refine (get?_cleared_of_not fun r'' hr'' hmatch => ?_).trans hr
        obtain rfl := Option.some.inj (hr.symm.trans hr'')
        exact hawaits ⟨Table.key_of_get? hr, hmatch.2⟩
    · rw [hinvoices, hr]

/-- A statement that does not clear the invoice, and writes no audit row of a clearance of it. -/
theorem ClearanceOf.idle {e : Option Event} (h : ClearanceOf cfg d s invoiceId)
    (he : clears invoiceId e = false)
    (hrow : w.invoices.get? invoiceId = s.store.invoices.get? invoiceId)
    (haudits : clearanceAudits invoiceId w = clearanceAudits invoiceId s.store) :
    ClearanceOf cfg d (s.record t e w) invoiceId := by
  have hcount : occurrences (clears invoiceId) (s.record t e w).hist = occurrences (clears invoiceId) s.hist :=
    occurrences_cons_of_not he t
  cases h with
  | uncleared hhist hrow' haudits' =>
    exact .uncleared (hcount.trans hhist) (hrow.trans hrow') (haudits.trans haudits')
  | cleared u officerId input req now r hhist hcall hd hawaits hrow' haudits' =>
    exact .cleared u officerId input req now r (hcount.trans hhist) (List.mem_cons_of_mem _ hcall) hd hawaits
      (hrow.trans hrow') (haudits.trans haudits')

/-- An invoice that awaits clearance has not been cleared yet. -/
theorem ClearanceOf.uncleared_of_awaits (h : ClearanceOf cfg d s invoiceId) {r : Invoice}
    (hr : s.store.invoices.get? invoiceId = some r) (hawaits : AwaitsClearance invoiceId r) :
    occurrences (clears invoiceId) s.hist = 0 ∧
      s.store.invoices.get? invoiceId = d.invoices.get? invoiceId ∧
        clearanceAudits invoiceId s.store = clearanceAudits invoiceId d := by
  cases h with
  | uncleared hhist hrow haudits => exact ⟨hhist, hrow, haudits⟩
  | cleared u officerId input req now r' hhist hcall hd hawaits' hrow haudits =>
    obtain rfl := Option.some.inj (hr.symm.trans hrow)
    cases hawaits.2.2

theorem ClearanceOf.moves {e : Option Event} (h : ClearanceOf cfg d s invoiceId)
    (hmove : Moves cfg s e w) :
    ClearanceOf cfg d (s.record t e w) invoiceId := by
  cases e with
  | none =>
    obtain rfl : w = s.store := hmove
    exact h.idle rfl rfl rfl
  | some e =>
    rcases hmove with hmove | ⟨hgeneral, hinvoices, hauditLogs⟩
    · cases hmove with
      | cleared i officerId input req now r hr hawaits =>
        by_cases hi : i = invoiceId
        · subst hi
          obtain ⟨hhist, hrow, haudits⟩ := h.uncleared_of_awaits hr hawaits
          refine .cleared t officerId input req now r ?_ List.mem_cons_self (hrow.symm.trans hr) hawaits ?_ ?_
          · rw [State.record_hist, occurrences_cons_of_pos (decide_eq_true rfl), hhist]
          · exact get?_cleared hr hawaits
          · rw [State.record_store, clearanceAudits, List.filter_append, ← haudits, clearanceAudits]
            congr 1
            exact List.filter_cons_of_pos (decide_eq_true ⟨rfl, rfl⟩)
        · refine h.idle (decide_eq_false hi) ?_ ?_
          · exact get?_cleared_of_not fun r' hr' hmatch => hi (hmatch.1.symm.trans (Table.key_of_get? hr'))
          · rw [clearanceAudits, List.filter_append, List.filter_cons_of_neg, List.filter_nil, List.append_nil]
            · rfl
            · intro hmatch
              exact hi (Json.id.inj (of_decide_eq_true hmatch).2)
    · refine h.idle ?_ (by rw [hinvoices]) (by rw [clearanceAudits, hauditLogs]; rfl)
      cases e <;> first | rfl | cases hgeneral

end Moves

/-! ## The law of the system -/

/-- A call succeeds only by clearing its invoice. -/
theorem okAfter_clearInvoice (cfg : Config) (invoiceId officerId : ℕ) (input : ClearAmlInput)
    (req : Request) :
    (clearInvoice cfg invoiceId officerId input req).discard.OkAfter
      (· = .amlCleared invoiceId officerId) := by
  refine Proc.OkAfter.bind (f := fun _ => pure ()) ?_
  refine Proc.okAfter_bind fun _ => Proc.okAfter_bind fun _ => Proc.OkAfter.bind ?_
  exact Proc.okAfter_transaction fun _ _ _ _ _ => rfl

/-- In every run each invoice is as it was or cleared by one call, with the one audit row; a row that does
not await clearance, one that is cleared among them, does not change; and a call that succeeds is the one
that cleared its invoice. -/
theorem clearedOnce (cfg : Config) (d : World) (s s' : Sys World Input Event RisError)
    (hs : Reaches (program cfg) always (Sys.init d) s) (hs' : Reaches (program cfg) always s s') :
    (∀ invoiceId, ClearanceOf cfg d s'.toState invoiceId) ∧
      (∀ invoiceId r, s.store.invoices.get? invoiceId = some r → ¬AwaitsClearance invoiceId r →
        s'.store.invoices.get? invoiceId = some r) ∧
      ∀ t invoiceId officerId input req,
        s.calls[t]? = some (some (program cfg (.clearInvoice invoiceId officerId input req))) →
          s'.calls[t]? = some (some (.done (.ok ()))) →
            (t, some (.amlCleared invoiceId officerId)) ∈ s'.hist := by
  have hprog := program_implements cfg
  refine ⟨fun invoiceId => ?_, fun invoiceId r hr hawaits => ?_, fun t invoiceId officerId input req hcall hend => ?_⟩
  · exact Protocol.invariant hprog trivial (P := fun s => ClearanceOf cfg d s invoiceId)
      (.uncleared rfl rfl rfl) (fun s t e w h hmove => h.moves hmove.effect) (hs.trans hs')
  · exact Protocol.persists hprog trivial (P := fun s => s.store.invoices.get? invoiceId = some r)
      (fun s t e w h hmove => get?_of_moves hmove.effect h hawaits) hs hr hs'
  · have htraces : Proc.TracesAt t (fun _ => True)
        (fun _ l => ∃ e, some e ∈ l ∧ e = Event.amlCleared invoiceId officerId) (fun _ _ => True) s := by
      refine ⟨(List.getElem?_eq_some_iff.1 hcall).1, fun p hp => ?_⟩
      rw [hcall, Option.some.injEq, Option.some.injEq] at hp
      rw [← hp]
      exact (Or.inl (okAfter_clearInvoice cfg invoiceId officerId input req) |> Proc.OkAfter.traces)
    obtain ⟨-, hdone⟩ := htraces.reaches (fun _ _ => trivial) hs'
    obtain ⟨_, he, rfl⟩ := hdone _ hend
    exact mem_own.1 he

/-! ## Two officers -/

/-- A store with a flagged invoice. -/
def flaggedWorld : World :=
  { World.empty with
    invoices := .single
      { id := 1, supplierId := 2, buyerId := 3, faceValue := 60000000, advanceAmount := none
        discountAmount := none, netPaymentToSupplier := none, status := .submitted, tenorDays := some 60
        dueDate := 0, amlFlagged := true, amlClearedAt := none, pricingAcceptedAt := none
        pricingAcceptedBy := none, pricingRejectedAt := none, pricingRejectionReason := none
        pricingDisputedAt := none, fundedAt := none } }

def clearOp (officerId : ℕ) : Op := .clearInvoice 1 officerId ⟨"Sanctions list checked", true⟩ {}

/-- The officers 7 and 8 have begun to clear the invoice. -/
def twoOfficers : Sys World Input Event RisError where
  store := flaggedWorld
  hist := []
  calls := [some (program {} (clearOp 7)), some (program {} (clearOp 8))]

/-- Both pass the guard; the second to write clears the invoice, and the first has cleared nothing. -/
theorem cleared_by_one :
    ∃ s : Sys World Input Event RisError,
      (1, some (.amlCleared 1 8)) ∈ s.hist ∧ (0, some Event.threw) ∈ s.hist ∧
        ClearanceOf {} flaggedWorld s.toState 1 := by
  have hstart : Reaches (program {}) always (Sys.init flaggedWorld) twoOfficers :=
    .tail (.single ⟨.start (clearOp 7), rfl, trivial⟩) ⟨.start (clearOp 8), rfl, trivial⟩
  obtain ⟨s, hs, hP⟩ := exists_reaches (program {}) always twoOfficers
    [.move 0 {}, .move 1 {}, .move 1 { now := 5 }, .move 0 { now := 6 }, .move 1 {}, .move 1 {}]
    (fun s => endsOk 1 s && decide ((0, some Event.threw) ∈ s.hist)) (by decide)
  obtain ⟨hend, hthrew⟩ := Bool.and_eq_true_iff.1 hP
  obtain ⟨hlaw, -, hsuccess⟩ := clearedOnce {} flaggedWorld twoOfficers s hstart hs
  exact ⟨s, hsuccess 1 1 8 ⟨"Sanctions list checked", true⟩ {} rfl (endsOk_iff.1 hend),
    of_decide_eq_true hthrew, hlaw 1⟩

end Ris.Compliance
