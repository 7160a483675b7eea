import RisPlatform.Collections.Frame
import RisPlatform.RiskEngine.Protocol
import RisPlatform.RiskEngine.ScoreRange

/-!
# Written-off collections and scoring

The collections service writes a default off as `bad_debt`, and logs it as `defaulted`; scoring counts the
status `defaulted`. So a default leaves the track record as if its collection did not exist: the record is
that of the collections that were paid, and its share of paid ones is the whole.
-/

namespace Ris.RiskEngine.Defaults

open Relational Concurrent

/-! ## The system -/

/-- The operations of both services. -/
abbrev Op : Type := Collections.Op ⊕ RiskEngine.Op

def program (cfg : Config) : Op → Call Unit := Sum.elim (Collections.program cfg)
    (RiskEngine.program cfg)

/-! ## What scoring counts -/

/-- The collection is for an invoice of the supplier. -/
def OfSupplier (supplierId : ℕ) (w : World) (c : Collection) : Prop :=
  ∃ invoice ∈ w.invoices.get? c.invoiceId, invoice.supplierId = supplierId

instance (supplierId : ℕ) (w : World) (c : Collection) : Decidable (OfSupplier supplierId w c) := by
  unfold OfSupplier
  infer_instance

/-- A collection of the supplier has the status `defaulted`. -/
def Marked (supplierId : ℕ) (w : World) : Prop :=
  ∃ c ∈ w.collections.rows, OfSupplier supplierId w c ∧ c.status = .defaulted

instance (supplierId : ℕ) (w : World) : Decidable (Marked supplierId w) := by
  unfold Marked
  infer_instance

/-- The collections of the supplier that were paid. -/
def paid (supplierId : ℕ) (w : World) : List Collection :=
  w.collections.rows.filter fun c => decide (OfSupplier supplierId w c ∧ c.status = .collected)

/-- The raw score of a supplier of whom this many collections were paid. -/
def paidBand (count : ℕ) : ℤ := if count = 0 then 50 else if count ≤ 3 then 70 else 100

/-- A score counts at least one default and is in the band of defaults. -/
def CountsDefault (record : TrackRecordResult) : Prop :=
  record.hasDefaults = true ∧ calculateTrackRecordRaw record = 25

section Record

variable {supplierId : ℕ} {w : World}

/-- The share of paid collections is all or nothing. -/
theorem onTimePct_eq {count : ℕ} (h : 0 < count) :
    Binary64.mul (Binary64.div (count : ℚ) count) 100 = 100 := by
  have hone : Binary64.div (count : ℚ) count = 1 := by
    rw [Binary64.div, div_self (by exact_mod_cast h.ne')]
    decide +kernel
  rw [hone]
  decide +kernel

/-- The record has a default when a collection of the supplier is marked as one. -/
theorem hasDefaults_iff : (getSupplierTrackRecord supplierId w).hasDefaults = true ↔ Marked supplierId w := by
  simp only [getSupplierTrackRecord, decide_eq_true_eq, List.length_pos_iff_exists_mem, List.mem_filter]
  constructor
  · rintro ⟨c, ⟨hc, hsupplier, -⟩, hstatus⟩
    exact ⟨c, hc, hsupplier, hstatus⟩
  · rintro ⟨c, hc, hsupplier, hstatus⟩
    exact ⟨c, ⟨hc, hsupplier, Or.inr hstatus⟩, hstatus⟩

/-- Without one the record is that of the collections that were paid. -/
theorem getSupplierTrackRecord_eq (h : ¬Marked supplierId w) :
    getSupplierTrackRecord supplierId w =
      { invoiceCount := (paid supplierId w).length
        onTimePct := if 0 < (paid supplierId w).length then 100 else 0
        hasDefaults := false } := by
  have hended : (w.collections.rows.filter fun c : Collection =>
      decide ((∃ invoice ∈ w.invoices.get? c.invoiceId, invoice.supplierId = supplierId) ∧
        (c.status = .collected ∨ c.status = .defaulted))) = paid supplierId w := by
    refine List.filter_congr fun c hc => decide_eq_decide.2 ?_
    constructor
    · rintro ⟨hsupplier, hcollected | hdefaulted⟩
      · exact ⟨hsupplier, hcollected⟩
      · exact absurd ⟨c, hc, hsupplier, hdefaulted⟩ h
    · exact fun hpaid => ⟨hpaid.1, Or.inl hpaid.2⟩
  have hcollected : ((paid supplierId w).filter fun c => decide (c.status = .collected)) = paid supplierId w :=
    List.filter_eq_self.2 fun c hc => decide_eq_true (of_decide_eq_true (List.mem_filter.1 hc).2).2
  have hnone : (getSupplierTrackRecord supplierId w).hasDefaults = false :=
    Bool.eq_false_iff.2 fun hdefaults => h (hasDefaults_iff.1 hdefaults)
  unfold getSupplierTrackRecord at hnone ⊢
  simp only [hended] at hnone
  simp only [hended, hcollected, hnone]
  by_cases hpos : 0 < (paid supplierId w).length
  · simp only [if_pos hpos, onTimePct_eq hpos]
  · simp only [if_neg hpos]

/-- The band of such a record is that of the paid collections. -/
theorem calculateTrackRecordRaw_eq (h : ¬Marked supplierId w) :
    calculateTrackRecordRaw (getSupplierTrackRecord supplierId w) =
      paidBand (paid supplierId w).length := by
  rw [getSupplierTrackRecord_eq h]
  generalize (paid supplierId w).length = count
  unfold calculateTrackRecordRaw paidBand
  dsimp only
  by_cases hzero : count = 0
  · simp [hzero]
  · have hpos : 0 < count := Nat.pos_of_ne_zero hzero
    simp only [hzero, hpos, if_true, if_false]
    by_cases hthree : count ≤ 3
    · have hfour : ¬4 ≤ count := by omega
      have heleven : ¬11 ≤ count := by omega
      norm_num [hthree, hfour, heleven]
    · have hfour : 4 ≤ count := by omega
      norm_num [hthree, hfour]

theorem paidBand_ne (count : ℕ) : paidBand count ≠ 25 := by
  unfold paidBand
  split_ifs <;> decide

/-- The band of defaults is for the suppliers with a marked collection, and only for them. -/
theorem calculateTrackRecordRaw_iff :
    calculateTrackRecordRaw (getSupplierTrackRecord supplierId w) = 25 ↔ Marked supplierId w := by
  constructor
  · intro hband
    by_contra hmarked
    exact paidBand_ne _ ((calculateTrackRecordRaw_eq hmarked).symm.trans hband)
  · intro hmarked
    rw [calculateTrackRecordRaw, if_pos (hasDefaults_iff.2 hmarked)]

theorem countsDefault_iff : CountsDefault (getSupplierTrackRecord supplierId w) ↔ Marked supplierId w := by
  rw [CountsDefault, hasDefaults_iff, calculateTrackRecordRaw_iff, and_self_iff]

end Record

/-! ## What the services write -/

/-- Nobody marks a collection; `d` is the first store. -/
def marking (d : World) : Protocol World Event where
  inv s := Collections.Unmarking d.collections s.store.collections
  effect s _ _ w' := Collections.Unmarking s.store.collections w'.collections
  inv_effect h heff := h.trans heff
  return_stable _ _ _ _ := .refl _

variable (d : World)

theorem permissive_marking : Permissive (marking d) where
  read _ _ := .refl _
  threw _ _ := .refl _
  logged _ _ _ := .refl _
  enqueued _ _ _ := .refl _
  leftJobs _ _ _ := .refl _

/-- Every operation of either service follows the protocol. -/
theorem free_program (cfg : Config) (op : Op) : Free (marking d) (program cfg op) := by
  have hG := permissive_marking d
  cases op with
  | inl op =>
    refine @Collections.free_program_of cfg _ hG (fun _ _ _ _ _ h => h.unmarked) (fun _ _ => True)
      (fun _ _ _ _ _ _ _ _ => trivial) (fun _ _ _ _ _ => trivial) ?_ (fun _ _ _ _ => .refl _) op
    intro s t input invoice collectionId now w' _ _ _ _ hpays
    exact hpays.unmarked
  | inr op =>
    refine RiskEngine.free_program hG (fun s t e w' _ h => ?_) op
    cases h
    exact .refl _

theorem program_implements (cfg : Config) : (marking d).Implements (program cfg) :=
  fun op t => (free_program d cfg op t).conseq (fun _ _ _ => trivial) (fun _ _ _ _ => .refl _)
    fun _ _ _ _ => .refl _

/-- Whatever runs beside it, a score of the track record is that of a default only if a collection was
marked before the run. -/
theorem triple_trackRecord (ctx : ScoringContext) (t : ℕ) :
    (marking d).Triple t (fun _ => True) (calculate ctx .trackRecord)
      (fun score _ => score.rawScore = 25 → ∃ c ∈ d.collections.rows, c.status = .defaulted)
      fun _ _ => True := by
  have hG := permissive_marking d
  refine .tryCatch (R := fun _ _ => True) ?_ fun _ => ?_
  · refine (free_getRiskConfig hG t).bind fun config => ?_
    refine .bind (R := fun raw _ => raw = 25 → ∃ c ∈ d.collections.rows, c.status = .defaulted) ?_
      fun raw => .ret fun _ _ hraw => hraw
    refine .bind (R := fun record _ => calculateTrackRecordRaw record = 25 →
      ∃ c ∈ d.collections.rows, c.status = .defaulted) ?_ fun record => .ret fun _ _ hrecord => hrecord
    refine triple_query hG.toQuiet t fun s hs hband => ?_
    obtain ⟨c, hc, -, hstatus⟩ := calculateTrackRecordRaw_iff.1 hband
    obtain ⟨c₀, hc₀, -, hmarked⟩ := hs c hc hstatus
    exact ⟨c₀, hc₀, hmarked⟩
  · refine (free_log hG.toQuiet _ t).bind fun _ => .ret fun _ _ _ hraw => ?_
    exact absurd hraw (by decide)

/-! ## The law -/

/-- In every state of every run of the two services, a supplier's record counts a default, and is in its
band, if and only if a collection of the supplier has the status `defaulted`; else its band is that of the
collections that were paid. No service gives a collection that status: one that has it had it before the
run. A score of the track record is so that of a default, whatever runs beside it, only in a run that
began with such a collection. -/
theorem default_seen_iff (cfg : Config) (s : Sys World Input Event RisError)
    (hs : Reaches (program cfg) always (Sys.init d) s) (supplierId : ℕ) :
    (CountsDefault (getSupplierTrackRecord supplierId s.store) ↔ Marked supplierId s.store) ∧
      (¬Marked supplierId s.store →
        calculateTrackRecordRaw (getSupplierTrackRecord supplierId s.store) =
          paidBand (paid supplierId s.store).length) ∧
      (∀ c ∈ s.store.collections.rows, c.status = .defaulted →
        ∃ c₀ ∈ d.collections.rows, c₀.id = c.id ∧ c₀.status = .defaulted) ∧
      ∀ ctx t, (marking d).Triple t (fun _ => True) (calculate ctx .trackRecord)
        (fun score _ => score.rawScore = 25 → ∃ c ∈ d.collections.rows, c.status = .defaulted)
        fun _ _ => True := by
  refine ⟨countsDefault_iff, calculateTrackRecordRaw_eq, ?_, triple_trackRecord d⟩
  refine Protocol.invariant (P := fun s => Collections.Unmarking d.collections s.store.collections)
    (program_implements d cfg) (.refl _) (.refl _) ?_ hs
  intro s t e w' hP hmove
  exact hP.trans hmove.effect

/-! ## A supplier with a default -/

/-- The supplier 2 was paid four times; its fifth collection has been overdue for 100 days. -/
def overdueWorld : World :=
  { World.empty with
    invoices :=
      { rows := supplierInvoice 15 .overdue none ::
          [11, 12, 13, 14].map fun id => supplierInvoice id .collected none
        keys_nodup := by decide }
    collections :=
      { rows := { paidCollection 15 with status := .overdue, daysOverdue := 100, escalationLevel := 3 } ::
          [11, 12, 13, 14].map paidCollection
        keys_nodup := by decide } }

def acceptsSystemUser : Config := { systemUserRefused := false }

/-- The fifth collection is written off. -/
theorem exists_writtenOff :
    ∃ s : Sys World Input Event RisError,
      Reaches (program acceptsSystemUser) always (Sys.init overdueWorld) s ∧
        (0, some (.collectionDefaulted 15 15)) ∈ s.hist ∧
          ¬Marked 2 s.store ∧
            (s.store.invoices.get? 15).map (fun r => (r.supplierId, r.status)) = some (2, .defaulted) ∧
              (paid 2 s.store).length = 4 := by
  obtain ⟨s, hs, hP⟩ := exists_reaches (program acceptsSystemUser) always (Sys.init overdueWorld)
    [.start (.inl .processDefaulted), .move 0 {}, .move 0 {}]
    (fun s => decide ((0, some (.collectionDefaulted 15 15)) ∈ s.hist ∧
      ¬Marked 2 s.store ∧
        (s.store.invoices.get? 15).map (fun r => (r.supplierId, r.status)) = some (2, .defaulted) ∧
          (paid 2 s.store).length = 4)) (by decide)
  exact ⟨s, hs, of_decide_eq_true hP⟩

/-- Its record is that of four paid collections. -/
theorem writtenOff_unseen :
    ∃ s : Sys World Input Event RisError, (0, some (.collectionDefaulted 15 15)) ∈ s.hist ∧
      ¬CountsDefault (getSupplierTrackRecord 2 s.store) := by
  obtain ⟨s, hs, hdefault, -, -, -⟩ := exists_writtenOff
  obtain ⟨hcounts, -, hbefore, -⟩ := default_seen_iff overdueWorld acceptsSystemUser s hs 2
  refine ⟨s, hdefault, fun h => ?_⟩
  obtain ⟨c, hc, -, hstatus⟩ := hcounts.1 h
  obtain ⟨c₀, hc₀, -, hmarked⟩ := hbefore c hc hstatus
  have hnone : ∀ c ∈ overdueWorld.collections.rows, c.status ≠ .defaulted := by decide
  exact hnone c₀ hc₀ hmarked

/-- After the write-off the supplier is in the best band, with no default. -/
theorem writtenOff_best :
    ∃ s : Sys World Input Event RisError,
      Reaches (program acceptsSystemUser) always (Sys.init overdueWorld) s ∧
        (0, some (.collectionDefaulted 15 15)) ∈ s.hist ∧
          (s.store.invoices.get? 15).map (fun r => (r.supplierId, r.status)) = some (2, .defaulted) ∧
            (getSupplierTrackRecord 2 s.store).hasDefaults = false ∧
              calculateTrackRecordRaw (getSupplierTrackRecord 2 s.store) = 100 := by
  obtain ⟨s, hs, hdefault, hunmarked, hinvoice, hpaid⟩ := exists_writtenOff
  refine ⟨s, hs, hdefault, hinvoice, ?_, ?_⟩
  · rw [getSupplierTrackRecord_eq hunmarked]
  · rw [calculateTrackRecordRaw_eq hunmarked, hpaid]
    rfl

end Ris.RiskEngine.Defaults
