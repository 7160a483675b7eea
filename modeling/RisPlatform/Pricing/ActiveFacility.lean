import RisPlatform.Facilities.Utilisation
import RisPlatform.Pricing.Protocol

/-!
# Which facility is active

Pricing takes the facility with the best `interest_rate_annual` among those with `is_active`; the facilities
service goes by `status` and charges `annual_rate`. A suspension writes `status` alone, and nothing ever
writes `is_active` or either rate. So the two agree along exactly those runs in which no facility that
pricing may take is suspended.
-/

namespace Ris.Pricing

open Relational Concurrent
open Facilities (Utilises drawOn payBack)

/-! ## The law -/

/-- Whatever the time, and whichever of several with equal rates it is, the facility that pricing takes is one
of `getActiveFacilities`, and is priced at the rate that its drawdowns are charged. -/
def OneNotion (w : World) : Prop :=
  ∀ now choice, ∀ f ∈ getActiveFacility now choice w,
    f ∈ Facilities.getActiveFacilities w ∧ f.interestRateAnnual = f.annualRate

/-- Pricing may take the facility at some time. -/
def Priced (facilityId : ℕ) (w : World) : Prop :=
  ∃ now choice, ∃ f ∈ getActiveFacility now choice w, f.id = facilityId

section Reads

variable {w w' : World} {f : BankFacility}

theorem mem_facilitiesFor {now : ℤ} {choice : ℕ} (h : getActiveFacility now choice w = some f) :
    f ∈ facilitiesFor now w :=
  (List.mem_filter.1 (List.mem_of_getElem? h)).1

theorem mem_of_getActiveFacility {now : ℤ} {choice : ℕ} (h : getActiveFacility now choice w = some f) :
    f ∈ w.bankFacilities.rows :=
  (List.mem_filter.1 (mem_facilitiesFor h)).1

theorem mem_getActiveFacilities :
    f ∈ Facilities.getActiveFacilities w ↔ f ∈ w.bankFacilities.rows ∧ f.status = .active := by
  unfold Facilities.getActiveFacilities
  rw [List.mem_insertionSort, List.mem_filter, decide_eq_true_eq]

/-- An update that leaves alone the columns that pricing goes by. -/
structure Unpriced (g : BankFacility → BankFacility) : Prop where
  id : ∀ f, (g f).id = f.id
  isActive : ∀ f, (g f).isActive = f.isActive
  maturityDate : ∀ f, (g f).maturityDate = f.maturityDate
  interestRateAnnual : ∀ f, (g f).interestRateAnnual = f.interestRateAnnual
  annualRate : ∀ f, (g f).annualRate = f.annualRate

/-- The same for the rows that match. -/
theorem Unpriced.ite {g : BankFacility → BankFacility} (hg : Unpriced g) (p : BankFacility → Bool) :
    Unpriced fun f => if p f then g f else f := by
  constructor <;> intro f <;> by_cases hp : p f = true <;> simp [hp, hg.id, hg.isActive,
    hg.maturityDate, hg.interestRateAnnual, hg.annualRate]

theorem facilitiesFor_map {g : BankFacility → BankFacility} (hg : Unpriced g)
    (h : w'.bankFacilities.rows = w.bankFacilities.rows.map g) (now : ℤ) :
    facilitiesFor now w' = (facilitiesFor now w).map g := by
  have hsame : (fun f : BankFacility => decide (f.isActive ∧ now < f.maturityDate * dayMs)) ∘ g =
      fun f => decide (f.isActive ∧ now < f.maturityDate * dayMs) := by
    funext f
    simp only [Function.comp, hg.isActive, hg.maturityDate]
  unfold facilitiesFor
  rw [h, List.filter_map, hsame]

/-- After such an update pricing takes the facility that it took before. -/
theorem getActiveFacility_map {g : BankFacility → BankFacility} (hg : Unpriced g)
    (h : w'.bankFacilities.rows = w.bankFacilities.rows.map g) (now : ℤ) (choice : ℕ) :
    getActiveFacility now choice w' = (getActiveFacility now choice w).map g := by
  have hsame : (fun f : BankFacility => decide (∀ f' ∈ (facilitiesFor now w).map g,
      f.interestRateAnnual ≤ f'.interestRateAnnual)) ∘ g =
      fun f => decide (∀ f' ∈ facilitiesFor now w, f.interestRateAnnual ≤ f'.interestRateAnnual) := by
    funext f
    simp only [Function.comp, List.forall_mem_map, hg.interestRateAnnual]
  unfold getActiveFacility
  simp only [facilitiesFor_map hg h now]
  rw [List.filter_map, hsame, List.length_map, List.getElem?_map]

/-- So it keeps the law exactly if each facility that pricing takes stays active. -/
theorem OneNotion.map_iff (hw : OneNotion w) {g : BankFacility → BankFacility} (hg : Unpriced g)
    (h : w'.bankFacilities.rows = w.bankFacilities.rows.map g) :
    OneNotion w' ↔ ∀ f ∈ w.bankFacilities.rows, Priced f.id w → (g f).status = .active := by
  constructor
  · intro hw' f hf ⟨now, choice, f', hf', hid⟩
    obtain rfl : f' = f := Table.eq_of_mem (mem_of_getActiveFacility hf') hf hid
    have htaken : getActiveFacility now choice w' = some (g f') := by
      rw [getActiveFacility_map hg h, Option.mem_def.1 hf', Option.map_some]
    exact (mem_getActiveFacilities.1 (hw' now choice _ htaken).1).2
  · intro hactive now choice f' hf'
    rw [getActiveFacility_map hg h] at hf'
    obtain ⟨f, hf, rfl⟩ := Option.map_eq_some_iff.1 hf'
    have hmem := mem_of_getActiveFacility hf
    refine ⟨mem_getActiveFacilities.2 ⟨?_, hactive f hmem ⟨now, choice, f, hf, rfl⟩⟩, ?_⟩
    · rw [h]
      exact List.mem_map_of_mem hmem
    · rw [hg.interestRateAnnual, hg.annualRate]
      exact (hw now choice f hf).2

theorem OneNotion.active (hw : OneNotion w) (hf : f ∈ w.bankFacilities.rows) (hpriced : Priced f.id w) :
    f.status = .active := by
  obtain ⟨now, choice, f', hf', hid⟩ := hpriced
  obtain rfl : f' = f := Table.eq_of_mem (mem_of_getActiveFacility hf') hf hid
  exact (mem_getActiveFacilities.1 (hw now choice _ hf').1).2

end Reads

/-! ## Steps -/

theorem unpriced_drawOn (principal : ℤ) : Unpriced (drawOn principal) := by
  constructor <;> intro f <;> unfold drawOn <;> split <;> rfl

theorem unpriced_payBack (principal : ℤ) : Unpriced (payBack principal) :=
  ⟨fun _ => rfl, fun _ => rfl, fun _ => rfl, fun _ => rfl, fun _ => rfl⟩

theorem unpriced_setFacilityStatus (status : FacilityStatus) :
    Unpriced (Facilities.setFacilityStatus status) :=
  ⟨fun _ => rfl, fun _ => rfl, fun _ => rfl, fun _ => rfl, fun _ => rfl⟩

/-- No facility that pricing takes is suspended: neither by a utilisation check, nor by a drawdown that brings
it to the critical level. -/
structure SparesPriced (s s' : State World Event) : Prop where
  check : ∀ t facilityId, s'.hist = (t, some (.facilitySuspended facilityId)) :: s.hist →
    ¬Priced facilityId s.store
  drawdown : ∀ d, s.store.facilityDrawdowns.insert? d = some s'.store.facilityDrawdowns →
    Priced d.facilityId s.store → ∀ f, s.store.bankFacilities.get? d.facilityId = some f →
      Facilities.calculateUtilisation (f.drawnAmount + d.principal) f.totalLimit <
        Facilities.utilisationCritical

/-- A step that suspends nothing and adds no drawdown. -/
theorem sparesPriced_of {s s' : State World Event}
    (hhist : ∀ t facilityId, s'.hist ≠ (t, some (.facilitySuspended facilityId)) :: s.hist)
    (hlength : s'.store.facilityDrawdowns.rows.length = s.store.facilityDrawdowns.rows.length) :
    SparesPriced s s' where
  check t facilityId h := absurd h (hhist t facilityId)
  drawdown _ hinsert := absurd hinsert (Table.insert?_ne_of_length hlength)

/-- The step lemma. -/
theorem Utilises.keepsNotion_iff {s : State World Event} {t : ℕ} {e : Event} {d : World}
    (h : Utilises s.store e d) (hs : OneNotion s.store) :
    OneNotion d ↔ SparesPriced s (s.record t (some e) d) := by
  cases h with
  | other he hfacilities hlength =>
    refine iff_of_true ?_ (sparesPriced_of (fun u facilityId hhist => ?_) hlength)
    · unfold OneNotion getActiveFacility facilitiesFor Facilities.getActiveFacilities
      rw [hfacilities]
      exact hs
    · simp only [State.record_hist, List.cons.injEq, Prod.mk.injEq, Option.some.injEq] at hhist
      exact he facilityId hhist.1.2
  | @drawdownCreated _ facility row hbefore hactive hfacility hinsert hfacilities =>
    have hrows := congrArg Table.rows hfacilities
    rw [Table.rows_update] at hrows
    rw [hs.map_iff ((unpriced_drawOn row.principal).ite _) hrows]
    have hmem := Table.mem_of_get? hbefore
    constructor
    · intro hall
      refine ⟨fun u facilityId hhist => by simp at hhist, fun d' hinsert' hpriced f hf => ?_⟩
      have hsame := (Table.rows_insert? hinsert).symm.trans (Table.rows_insert? hinsert')
      obtain rfl := List.singleton_inj.1 (List.append_cancel_left hsame)
      rw [hfacility] at hpriced hf
      obtain rfl : facility = f := Option.some.inj (hbefore.symm.trans hf)
      have hstays := hall facility hmem hpriced
      simp only [decide_true, if_true, drawOn] at hstays
      by_contra hcritical
      rw [if_pos (not_lt.1 hcritical)] at hstays
      cases hstays
    · intro hspares f hf hpriced
      by_cases hid : f.id = facility.id
      · obtain rfl : f = facility := Table.eq_of_mem hf hmem hid
        have hlow := hspares.drawdown row hinsert (by rwa [hfacility]) f (by rwa [hfacility])
        simp only [decide_true, if_true, drawOn]
        rw [if_neg (not_le.2 hlow)]
        exact hactive
      · simp only [hid, decide_false, Bool.false_eq_true, if_false]
        exact hs.active hf hpriced
  | repaymentRecorded facilityId drawdownId hpos hlength hfacilities =>
    have hrows := congrArg Table.rows hfacilities
    rw [Table.rows_update] at hrows
    refine iff_of_true ?_ (sparesPriced_of (fun u k hhist => by simp at hhist) hlength)
    rw [hs.map_iff ((unpriced_payBack _).ite _) hrows]
    intro f hf hpriced
    have hstatus := hs.active hf hpriced
    split
    · exact hstatus
    · exact hstatus
  | facilitySuspended facilityId =>
    rw [hs.map_iff ((unpriced_setFacilityStatus .suspended).ite _)
      (Table.rows_update _ _ _ (Facilities.id_setFacilityStatus .suspended))]
    constructor
    · intro hall
      refine ⟨fun u k hhist hpriced => ?_, fun d' hinsert =>
        absurd hinsert (Table.insert?_ne_of_length rfl)⟩
      simp only [State.record_hist, List.cons.injEq, Prod.mk.injEq, Option.some.injEq,
        Event.facilitySuspended.injEq, and_true] at hhist
      obtain ⟨-, rfl⟩ := hhist
      obtain ⟨now, choice, f, hf, hid⟩ := hpriced
      have hstays := hall f (mem_of_getActiveFacility hf) ⟨now, choice, f, hf, rfl⟩
      rw [if_pos (decide_eq_true hid)] at hstays
      cases hstays
    · intro hspares f hf hpriced
      by_cases hid : f.id = facilityId
      · exact absurd (hid ▸ hpriced) (hspares.check t facilityId rfl)
      · rw [if_neg (by simp [hid])]
        exact hs.active hf hpriced

/-! ## Runs -/

/-- The operations on the facility ledger, and those of the pricing service. -/
abbrev FacilityOrPricing : Type := Facilities.Op ⊕ Op

/-- The body of each operation. -/
def facilityOrPricing (cfg : Config) : FacilityOrPricing → Call Unit :=
  Sum.elim (Facilities.program cfg) (program cfg)

section Calls

open Facilities (utilising permissive_utilising)

theorem allows_decisions : Allows utilising DecisionEffect := by
  rintro s t e d - ⟨heff, hpriced⟩
  cases heff with
  | read => exact .other nofun rfl rfl
  | threw => exact .other nofun rfl rfl
  | logged => exact .other nofun rfl rfl
  | enqueued => exact .other nofun rfl rfl
  | leftJobs => exact .other nofun rfl rfl
  | priced invoiceId _ input => exact absurd rfl (hpriced invoiceId input)
  | accepted => exact .other nofun rfl rfl
  | rejected => exact .other nofun rfl rfl
  | disputed => exact .other nofun rfl rfl

theorem free_priceInvoice_utilising (cfg : Config) (invoiceId : ℕ) :
    Free utilising (priceInvoice cfg invoiceId) := by
  have hG := permissive_utilising
  refine free_bind (free_fetchAndValidateInvoice hG invoiceId) fun invoice =>
    free_bind (free_bind (free_query hG.toQuiet _) fun _ => free_lift _) fun score =>
      free_bind (free_fetchActiveFacility hG) fun facility =>
        free_bind (free_fetchBuyerMargin hG _) fun margin => free_bind (free_lift _) fun tenorDays =>
          free_bind (free_lift _) fun _ => free_bind (free_transaction hG.toQuiet ?_) fun _ =>
            free_bind (free_log hG.toQuiet _) fun _ =>
              free_bind (free_enqueueOrWarn hG _ _ _) fun _ => free_pure _
  intro s t i u d _ h
  rw [persistPricingTxn_ok h]
  exact .other nofun rfl rfl

/-- Every operation follows the protocol. -/
theorem facilityOrPricing_implements (cfg : Config) :
    utilising.Implements (facilityOrPricing cfg) := by
  have hG := permissive_utilising
  intro op
  cases op with
  | inl op => exact Facilities.program_implements_utilising cfg op
  | inr op =>
    have hfree : Free utilising (program cfg op) := by
      cases op with
      | priceInvoice => exact free_discard (free_priceInvoice_utilising cfg _)
      | acceptPricing => exact free_acceptPricing hG allows_decisions _ _ _
      | rejectPricing => exact free_rejectPricing hG allows_decisions _ _ _ _
      | disputePricing => exact free_discard (free_disputePricing hG allows_decisions _ _ _ _)
    exact fun t => (hfree t).conseq (fun _ _ _ => trivial) (fun _ _ _ _ => rfl) fun _ _ _ _ => rfl

end Calls

/-- **One notion of the active facility.** From a store with the law, the runs of the facility ledger and the
pricing service along which it holds are exactly those in which no facility that pricing takes is
suspended. -/
theorem oneNotion_iff (cfg : Config) (w : World) (hw : OneNotion w)
    (s : Sys World Input Event RisError) :
    Relation.ReflTransGen (fun s s' => Step (facilityOrPricing cfg) always s s' ∧ OneNotion s'.store)
        (Sys.init w) s ↔
      Relation.ReflTransGen (fun s s' => Step (facilityOrPricing cfg) always s s' ∧
        SparesPriced s.toState s'.toState) (Sys.init w) s := by
  refine Protocol.runs_congr (facilityOrPricing_implements cfg) trivial
    (P := fun s => OneNotion s.store) (R := fun _ s' => OneNotion s'.store) (T := SparesPriced) hw
    ?_ ?_ ?_ s
  · exact fun s hs => ⟨hs, sparesPriced_of (fun t k hhist => by simp at hhist) rfl⟩
  · intro s t e d hs hmove
    cases e with
    | none =>
      obtain rfl : d = s.store := hmove.effect
      exact iff_of_true hs (sparesPriced_of (fun u k hhist => by simp at hhist) rfl)
    | some e => exact Utilises.keepsNotion_iff hmove.effect hs
  · exact fun s t e d _ _ hgood => hgood

/-- The two notions agree about every facility, whatever pricing takes. -/
def AllAgree (w : World) : Prop :=
  ∀ f ∈ w.bankFacilities.rows, f.isActive = true →
    f.status = .active ∧ f.interestRateAnnual = f.annualRate

instance (w : World) : Decidable (AllAgree w) :=
  inferInstanceAs (Decidable (∀ f ∈ w.bankFacilities.rows, _))

theorem AllAgree.oneNotion {w : World} (h : AllAgree w) : OneNotion w := by
  intro now choice f hf
  have hlisted := mem_facilitiesFor (Option.mem_def.1 hf)
  rw [facilitiesFor, List.mem_filter, decide_eq_true_eq] at hlisted
  obtain ⟨hmem, hactive, -⟩ := hlisted
  obtain ⟨hstatus, hrate⟩ := h f hmem hactive
  exact ⟨mem_getActiveFacilities.2 ⟨hmem, hstatus⟩, hrate⟩

/-- A drawdown on the facility `facilityId`, run alone as call `t`. -/
def drawAlone (t facilityId drawdownId : ℕ) (principal : ℤ) : List (Act FacilityOrPricing Input) :=
  Act.call (.inl (.createDrawdown facilityId drawdownId principal 0 90 (.user 1))) t
    (List.replicate 2 { uuid := drawdownId })

/-- Facilities are drawn on below the critical level. -/
theorem oneNotion_of_small_drawdowns :
    ∃ s : Sys World Input Event RisError,
      s.store.bankFacilities.rows.map BankFacility.drawnAmount = [300, 200] ∧
        Relation.ReflTransGen (fun s s' => Step (facilityOrPricing Facilities.migration006) always s s' ∧
          SparesPriced s.toState s'.toState) (Sys.init Facilities.undrawn) s := by
  obtain ⟨s, hs, hP⟩ := exists_keeping (facilityOrPricing Facilities.migration006)
    (fun _ s' => AllAgree s'.store) (Sys.init Facilities.undrawn) (drawAlone 0 1 1 300 ++ drawAlone 1 2 2 200)
    (fun s => s.store.bankFacilities.rows.map BankFacility.drawnAmount = [300, 200]) (by decide +kernel)
  have hagree : AllAgree Facilities.undrawn := by decide
  refine ⟨s, of_decide_eq_true hP, (oneNotion_iff Facilities.migration006 Facilities.undrawn
    hagree.oneNotion s).1 ?_⟩
  exact Relation.ReflTransGen.mono (fun _ _ h => ⟨h.1, h.2.oneNotion⟩) _ _ hs

/-- A drawdown brings the facility with the best rate to the critical level: it is suspended and no longer among
the active facilities, and pricing still takes it, whatever the database chooses. -/
theorem priced_on_suspended_facility :
    OneNotion Facilities.undrawn ∧ ∃ s : Sys World Input Event RisError,
      Reaches (facilityOrPricing Facilities.migration006) always (Sys.init Facilities.undrawn) s ∧
        (∀ choice, (getActiveFacility 0 choice s.store).map (fun f => (f.id, f.status)) =
          some (1, .suspended)) ∧
        (Facilities.getActiveFacilities s.store).map BankFacility.id = [2] ∧ ¬OneNotion s.store := by
  obtain ⟨s, hs, hP⟩ := exists_reaches (facilityOrPricing Facilities.migration006) always
    (Sys.init Facilities.undrawn) (drawAlone 0 1 1 950)
    (fun s => ((facilitiesFor 0 s.store).filter fun f => ∀ g ∈ facilitiesFor 0 s.store,
        f.interestRateAnnual ≤ g.interestRateAnnual).map (fun f => (f.id, f.status)) = [(1, .suspended)] ∧
      (Facilities.getActiveFacilities s.store).map BankFacility.id = [2]) (by decide +kernel)
  obtain ⟨hbest, hactive⟩ := of_decide_eq_true hP
  have hagree : AllAgree Facilities.undrawn := by decide
  -- the best rate is that of one facility
  have htaken : ∀ choice, (getActiveFacility 0 choice s.store).map (fun f => (f.id, f.status)) =
      some (1, .suspended) := by
    intro choice
    have hlength := congrArg List.length hbest
    rw [List.length_map] at hlength
    rw [getActiveFacility, ← List.getElem?_map, hbest, hlength]
    simp [Nat.mod_one]
  refine ⟨hagree.oneNotion, s, hs, htaken, hactive, fun hlaw => ?_⟩
  obtain ⟨f, hf, hcolumns⟩ := Option.map_eq_some_iff.1 (htaken 0)
  obtain ⟨-, hstatus⟩ := Prod.mk.inj hcolumns
  have hlisted := (mem_getActiveFacilities.1 (hlaw 0 0 f hf).1).2
  rw [hstatus] at hlisted
  cases hlisted

end Ris.Pricing
