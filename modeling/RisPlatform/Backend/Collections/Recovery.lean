import RisPlatform.Backend.Collections.Columns
import RisPlatform.Common.Runs

/-!
# The recovery ledger of a case

Payments recorded on a case and resolutions of it, one after the other. The view that records a payment
clamps what is outstanding at zero, but not what is collected; the settlement that it creates is of the last
payment alone; and the view that resolves a case writes off what is outstanding. The ledger is kept by those
sequences in which the columns and the digits of the context drop less than half a cent of a payment, which is
at most of what is outstanding, the one that clears the case is its only one or finds the settlement of all,
and only a case with nothing outstanding is resolved (`kept_iff`).
-/

namespace Ris.Backend.Collections.Recovery

open DecimalContext (ulp)
open Invoices (Invoice)
open RecordPaymentActionView (amountOf clears collectedAfter outstandingAfter save settle)

/-! ## Requests -/

/-- A case with its invoice, and the settlement of the invoice if there is one. -/
structure State where
  case : CollectionCase
  invoice : Invoice
  settlement : Option Settlement := none

inductive Request where
  | recordPayment (amount : Amount) (now : DateTime)
  | resolve

/-- The answer to a request, and the rows after it. -/
def handle (s : State) : Request → Reply × State
  | .recordPayment amount now =>
    let answer := RecordPaymentActionView.post s.case s.invoice s.settlement amount now
    (answer.1, { case := answer.2.1, invoice := answer.2.2.1, settlement := answer.2.2.2 })
  | .resolve =>
    let answer := ResolveActionView.post s.case
    (answer.1, { s with case := answer.2 })

/-- The rows after these requests. -/
def after (s : State) (requests : List Request) : State :=
  requests.foldl (fun s request => (handle s request).2) s

/-- What the columns of the rows promise. -/
structure State.Stored (s : State) : Prop where
  outstanding : IsStored s.case.outstandingAmountUgx
  collected : IsStored s.case.collectedAmountUgx
  discountFee : IsStored s.invoice.discountFeeUgx

/-! ## The ledger -/

/-- The ledger of a case of which this amount was outstanding at first. -/
structure Balanced (original : ℚ) (s : State) : Prop where
  total : s.case.collectedAmountUgx + s.case.outstandingAmountUgx = original
  collected_nonneg : 0 ≤ s.case.collectedAmountUgx
  outstanding_nonneg : 0 ≤ s.case.outstandingAmountUgx
  resolved_iff : s.case.status = .resolved ↔ s.case.outstandingAmountUgx = 0
  settled : s.case.status = .resolved → s.invoice.status = .collected ∧
    ∃ settlement, s.settlement = some settlement ∧
      settlement.collectedAmountUgx = s.case.collectedAmountUgx

/-- The ledger of every state of the run. -/
def Kept (original : ℚ) (s₀ : State) (requests : List Request) : Prop :=
  ∀ before, before <+: requests → Balanced original (after s₀ before)

/-- The columns take the amounts of the case after such a payment. -/
def Fits (case : CollectionCase) (q : ℚ) : Prop :=
  (numeric (outstandingAfter case q)).isSome ∧ (numeric (collectedAfter case q)).isSome

/-- The payment of all that is outstanding, which the settlement shows as all that is collected. It is less
than half a cent above that, half a unit of the 28th digit of what is then collected counted in. -/
def Clears (s : State) (q : ℚ) : Prop :=
  q + ulp 28 (s.case.collectedAmountUgx + q) / 2 < s.case.outstandingAmountUgx + 1 / 200 ∧
    match s.settlement with
    | none => s.case.collectedAmountUgx = 0
    | some settlement =>
      settlement.collectedAmountUgx = s.case.collectedAmountUgx + s.case.outstandingAmountUgx

/-- A payment of a part. What a column drops of it is less than half a cent, half a unit of the 28th digit of
either sum counted in. After it something is outstanding, unless nothing was. -/
structure Reduces (s : State) (q : ℚ) : Prop where
  above : dropped q + ulp 28 (s.case.collectedAmountUgx + q) / 2 < 1 / 200
  below : -dropped q + ulp 28 (s.case.outstandingAmountUgx - q) / 2 < 1 / 200
  collected_nonneg : 0 ≤ cents s.case.collectedAmountUgx + cents q
  all_iff : cents q = cents s.case.outstandingAmountUgx ↔ s.case.outstandingAmountUgx = 0

/-- A payment that the columns do not take leaves the case alone. -/
def Guard (s : State) : Request → Prop
  | .recordPayment amount _ => ∀ q, amountOf s.case amount = some q → Fits s.case q →
    if s.case.outstandingAmountUgx ≤ q then Clears s q else Reduces s q
  | .resolve => s.case.outstandingAmountUgx = 0

/-! ## One request -/

variable {original q : ℚ} {s s' : State} {status : CaseStatus} {now : DateTime}

theorem save_of_fits (h : Fits s.case q) (status : CaseStatus) :
    (save s.case status q).2 =
      { s.case with
        outstandingAmountUgx := cents (outstandingAfter s.case q) / 100
        collectedAmountUgx := cents (collectedAfter s.case q) / 100
        status } := by
  obtain ⟨x, hx⟩ := Option.isSome_iff_exists.1 h.1
  obtain ⟨y, hy⟩ := Option.isSome_iff_exists.1 h.2
  obtain rfl := eq_cents_of_numeric hx
  obtain rfl := eq_cents_of_numeric hy
  simp only [save, hx, hy]

theorem save_of_not_fits (h : ¬ Fits s.case q) : (save s.case status q).2 = s.case := by
  unfold save
  split
  · next hx hy => exact absurd ⟨by rw [hx]; rfl, by rw [hy]; rfl⟩ h
  · rfl

theorem stored_save (hs : s.Stored) :
    IsStored (save s.case status q).2.outstandingAmountUgx ∧
      IsStored (save s.case status q).2.collectedAmountUgx := by
  unfold save
  split
  · next hx hy => exact ⟨isStored_of_numeric hx, isStored_of_numeric hy⟩
  · exact ⟨hs.outstanding, hs.collected⟩

/-- What every request keeps. -/
theorem stored_handle (request : Request) (hs : s.Stored) : (handle s request).2.Stored := by
  cases request with
  | resolve => exact ⟨isStored_zero, hs.collected, hs.discountFee⟩
  | recordPayment amount now =>
    simp only [handle, RecordPaymentActionView.post]
    split
    · split
      · exact ⟨hs.outstanding, hs.collected, hs.discountFee⟩
      · exact ⟨(stored_save hs).1, (stored_save hs).2, hs.discountFee⟩
    · split
      · exact ⟨hs.outstanding, hs.collected, hs.discountFee⟩
      · exact ⟨(stored_save hs).1, (stored_save hs).2, hs.discountFee⟩

/-- A request that leaves the case alone keeps its ledger. -/
theorem Balanced.of_case_eq (h : Balanced original s) (hcase : s'.case = s.case)
    (hinvoice : s.invoice.status = .collected → s'.invoice.status = .collected)
    (hsettlement : ∀ settlement, s.settlement = some settlement → s'.settlement = some settlement) :
    Balanced original s' where
  total := hcase ▸ h.total
  collected_nonneg := hcase ▸ h.collected_nonneg
  outstanding_nonneg := hcase ▸ h.outstanding_nonneg
  resolved_iff := hcase ▸ h.resolved_iff
  settled hstatus := by
    rw [hcase] at hstatus ⊢
    obtain ⟨hcollected, settlement, hsome, hamount⟩ := h.settled hstatus
    exact ⟨hinvoice hcollected, settlement, hsettlement settlement hsome, hamount⟩

/-- The ledger in cents. -/
theorem balanced_iff (hs : s.Stored) :
    Balanced original s ↔
      s.case.collectedAmountUgx + s.case.outstandingAmountUgx = original ∧
        0 ≤ cents s.case.collectedAmountUgx ∧ 0 ≤ cents s.case.outstandingAmountUgx ∧
          (s.case.status = .resolved ↔ cents s.case.outstandingAmountUgx = 0) ∧
            (s.case.status = .resolved → s.invoice.status = .collected ∧
              ∃ settlement, s.settlement = some settlement ∧
                settlement.collectedAmountUgx = s.case.collectedAmountUgx) := by
  rw [← hs.collected.nonneg_iff, ← hs.outstanding.nonneg_iff, ← hs.outstanding.eq_zero_iff]
  exact ⟨fun h => ⟨h.1, h.2, h.3, h.4, h.5⟩, fun h => ⟨h.1, h.2.1, h.2.2.1, h.2.2.2.1, h.2.2.2.2⟩⟩

/-! ### A payment of at least what is outstanding -/

theorem outstandingAfter_of_le (h : s.case.outstandingAmountUgx ≤ q) : outstandingAfter s.case q = 0 :=
  max_eq_right (DecimalContext.round_nonpos (sub_nonpos.2 h))

/-- The settlement that is there, or one of this payment. -/
theorem settle_eq (hs : s.Stored) (hq : |cents q| < 10 ^ 18) (now : DateTime) :
    ∃ settlement, settle s.settlement { s.invoice with status := .collected, collectedAt := some now } q =
        some settlement ∧
      settlement.collectedAmountUgx = match s.settlement with
        | none => cents q / 100
        | some settlement => settlement.collectedAmountUgx := by
  cases hsettlement : s.settlement with
  | some settlement => exact ⟨settlement, rfl, rfl⟩
  | none =>
    have hfee : |cents s.invoice.discountFeeUgx| < 10 ^ 18 := (numeric_eq_some_iff.1 hs.discountFee).2
    -- neither part of the discount is larger than the discount
    have hpart : ∀ x, |x| ≤ |s.invoice.discountFeeUgx| → ∃ y, numeric x = some y := fun x hx =>
      Option.isSome_iff_exists.1 (isSome_numeric.2 ((abs_cents_le hx).trans_lt hfee))
    obtain ⟨netProfit, hprofit⟩ := hpart (s.invoice.discountFeeUgx * (65 / 100)) (by
      rw [abs_mul]
      norm_num
      linarith [abs_nonneg s.invoice.discountFeeUgx])
    obtain ⟨bankCost, hcost⟩ := hpart
      (s.invoice.discountFeeUgx - s.invoice.discountFeeUgx * (65 / 100)) (by
        rw [← mul_one_sub, abs_mul]
        norm_num
        linarith [abs_nonneg s.invoice.discountFeeUgx])
    obtain ⟨collected, hcollected⟩ := Option.isSome_iff_exists.1 (isSome_numeric.2 hq)
    obtain ⟨hfirst, hsecond⟩ := hs.discountFee.fix_parts
    refine ⟨_, by simp only [settle, hfirst, hsecond, hcollected, hprofit, hcost]; rfl, ?_⟩
    exact eq_cents_of_numeric hcollected

/-- The cents of what a case has, which are those of its columns. -/
theorem cents_lt (hs : s.Stored) (hb : Balanced original s) :
    (0 ≤ cents s.case.collectedAmountUgx ∧ cents s.case.collectedAmountUgx < 10 ^ 18) ∧
      0 ≤ cents s.case.outstandingAmountUgx ∧ cents s.case.outstandingAmountUgx < 10 ^ 18 := by
  have hcollected := hs.collected.nonneg_iff.1 hb.collected_nonneg
  have houtstanding := hs.outstanding.nonneg_iff.1 hb.outstanding_nonneg
  exact ⟨⟨hcollected, (abs_lt.1 (numeric_eq_some_iff.1 hs.collected).2).2⟩, houtstanding,
    (abs_lt.1 (numeric_eq_some_iff.1 hs.outstanding).2).2⟩

/-- What is collected after such a payment is what was due. -/
theorem cents_collectedAfter_iff (hs : s.Stored) (hb : Balanced original s)
    (hle : s.case.outstandingAmountUgx ≤ q) :
    cents (collectedAfter s.case q) = cents s.case.collectedAmountUgx + cents s.case.outstandingAmountUgx ↔
      q + ulp 28 (s.case.collectedAmountUgx + q) / 2 < s.case.outstandingAmountUgx + 1 / 200 := by
  obtain ⟨⟨hcollected, hcollected'⟩, houtstanding, houtstanding'⟩ := cents_lt hs hb
  have hsum : s.case.collectedAmountUgx + s.case.outstandingAmountUgx =
      ((cents s.case.collectedAmountUgx + cents s.case.outstandingAmountUgx : ℤ) : ℚ) / 100 := by
    conv_lhs => rw [hs.collected.eq_cents, hs.outstanding.eq_cents]
    push_cast
    ring
  have hnonneg := hb.collected_nonneg
  have hdue := hb.outstanding_nonneg
  rw [collectedAfter, cents_fix_eq_iff (by omega) (by omega) (by linarith) (by linarith), ← hsum]
  constructor <;> intro <;> linarith

/-- The columns take the amount of a payment of which they take the sum. -/
theorem abs_cents_lt_of_fits (hb : Balanced original s) (hq : 0 ≤ q) (hfits : Fits s.case q) :
    |cents q| < 10 ^ 18 := by
  have hle : cents (collectedAfter s.case q) ≤ 10 ^ 18 - 1 := by
    have hlt := (abs_lt.1 (isSome_numeric.1 hfits.2)).2
    omega
  rw [collectedAfter, cents_fix_le_iff (by norm_num) (by norm_num)] at hle
  have hulp := DecimalContext.ulp_pos 28 (s.case.collectedAmountUgx + q)
  have hcents : cents q ≤ 10 ^ 18 - 1 := by
    rw [cents_le_iff (by norm_num)]
    linarith [hb.collected_nonneg]
  rw [abs_of_nonneg (cents_nonneg hq)]
  omega

/-- The rows after a payment of at least what is outstanding, which the columns take. -/
theorem handle_clearing (hs : s.Stored) (hb : Balanced original s)
    (hle : s.case.outstandingAmountUgx ≤ q) (hfits : Fits s.case q) (now : DateTime) :
    ∃ settlement : Settlement,
      (handle s (.recordPayment (.finite q) now)).2 =
        { case :=
            { s.case with
              outstandingAmountUgx := 0
              collectedAmountUgx := (cents (collectedAfter s.case q) : ℚ) / 100
              status := .resolved }
          invoice := { s.invoice with status := .collected, collectedAt := some now }
          settlement := some settlement } ∧
        settlement.collectedAmountUgx = match s.settlement with
          | none => cents q / 100
          | some settlement => settlement.collectedAmountUgx := by
  have hq : 0 ≤ q := hb.outstanding_nonneg.trans hle
  obtain ⟨settlement, hsettle, hamount⟩ := settle_eq hs (abs_cents_lt_of_fits hb hq hfits) now
  refine ⟨settlement, ?_, hamount⟩
  have hclears : clears s.case (.finite q) = true := decide_eq_true (outstandingAfter_of_le hle)
  have hzero : cents 0 = 0 := isStored_zero.eq_zero_iff.1 rfl
  have hsave := save_of_fits hfits .resolved
  rw [outstandingAfter_of_le hle, hzero, Int.cast_zero, zero_div] at hsave
  simp only [handle, RecordPaymentActionView.post, hclears, if_true, amountOf, Option.bind_some, hsettle,
    Option.map_some, hsave]

theorem balanced_clearing_iff (hs : s.Stored) (hb : Balanced original s)
    (hle : s.case.outstandingAmountUgx ≤ q) (hfits : Fits s.case q) :
    Balanced original (handle s (.recordPayment (.finite q) now)).2 ↔ Clears s q := by
  obtain ⟨settlement, hnext, hamount⟩ := handle_clearing hs hb hle hfits now
  obtain ⟨⟨hcollected, -⟩, houtstanding, -⟩ := cents_lt hs hb
  have hulp := DecimalContext.ulp_pos 28 (s.case.collectedAmountUgx + q)
  have htotal := hb.total
  rw [hs.collected.eq_cents, hs.outstanding.eq_cents] at htotal
  -- nothing collected before: the payment shows the cents that were outstanding
  have hcents : q + ulp 28 (s.case.collectedAmountUgx + q) / 2 < s.case.outstandingAmountUgx + 1 / 200 →
      cents q = cents s.case.outstandingAmountUgx := by
    intro hnear
    refine le_antisymm ((cents_le_iff houtstanding).2 ?_) (cents_mono hle)
    rw [hs.outstanding.eq_cents] at hnear
    linarith
  rw [Clears, ← cents_collectedAfter_iff hs hb hle] at *
  rw [hnext]
  constructor
  · intro h
    have hafter : (cents (collectedAfter s.case q) : ℚ) / 100 + 0 = original := h.total
    have hall : cents (collectedAfter s.case q) =
        cents s.case.collectedAmountUgx + cents s.case.outstandingAmountUgx := by
      have hcast : (cents (collectedAfter s.case q) : ℚ) =
          cents s.case.collectedAmountUgx + cents s.case.outstandingAmountUgx := by linarith
      exact_mod_cast hcast
    obtain ⟨st, hst, hsame⟩ := (h.settled rfl).2
    obtain rfl := Option.some.inj hst
    rw [hamount] at hsame
    refine ⟨hall, ?_⟩
    cases hsettlement : s.settlement with
    | none =>
      simp only [hsettlement, hall, div_left_inj' (by norm_num : (100 : ℚ) ≠ 0), Int.cast_inj] at hsame
      rw [hcents hall] at hsame
      exact hs.collected.eq_zero_iff.2 (by omega)
    | some st =>
      simp only [hsettlement] at hsame
      show st.collectedAmountUgx = _
      rw [hsame, hall, Int.cast_add, add_div, ← hs.collected.eq_cents, ← hs.outstanding.eq_cents]
  · rintro ⟨hall, hmatch⟩
    have hsum : (cents (collectedAfter s.case q) : ℚ) / 100 = original := by
      rw [hall]
      push_cast
      linarith
    refine ⟨(add_zero _).trans hsum, ?_, le_rfl, iff_of_true rfl rfl, fun _ => ⟨rfl, settlement, rfl, ?_⟩⟩
    · show (0 : ℚ) ≤ (cents (collectedAfter s.case q) : ℚ) / 100
      rw [hall]
      exact div_nonneg (by exact_mod_cast add_nonneg hcollected houtstanding) (by norm_num)
    · rw [hamount]
      show _ = (cents (collectedAfter s.case q) : ℚ) / 100
      cases hsettlement : s.settlement with
      | none =>
        rw [hsettlement] at hmatch
        rw [hcents hall, hall, hs.collected.eq_zero_iff.1 hmatch, zero_add]
      | some st =>
        rw [hsettlement] at hmatch
        exact hmatch.trans (hb.total.trans hsum.symm)

/-! ### A payment of a part -/

theorem handle_part (hlt : q < s.case.outstandingAmountUgx) :
    (handle s (.recordPayment (.finite q) now)).2 =
      { s with case := (save s.case s.case.status q).2 } := by
  have hpos : 0 < fix (s.case.outstandingAmountUgx - q) :=
    DecimalContext.round_pos (by norm_num) (sub_pos.2 hlt)
  have hclears : clears s.case (.finite q) = false := decide_eq_false (ne_of_gt (lt_max_of_lt_left hpos))
  simp only [handle, RecordPaymentActionView.post, hclears, Bool.false_eq_true, if_false, amountOf]

theorem outstandingAfter_of_lt (hlt : q < s.case.outstandingAmountUgx) :
    outstandingAfter s.case q = fix (s.case.outstandingAmountUgx - q) :=
  max_eq_left (DecimalContext.round_nonneg (sub_nonneg.2 hlt.le))

/-- What is collected of so many cents and an amount is at least their sum, if it is not negative. -/
theorem le_cents_collected {a : ℤ} (ha : a < 10 ^ 18) (hsum : 0 ≤ a + cents q) (hle : cents q ≤ 10 ^ 18)
    (hnonneg : 0 ≤ cents (fix (a / 100 + q))) : a + cents q ≤ cents (fix (a / 100 + q)) := by
  have hdropped := abs_le.1 (abs_dropped_le q)
  rw [dropped] at hdropped
  rcases lt_or_ge ((a : ℚ) / 100 + q) 0 with hneg | hpos
  · -- the cents add up to nothing
    have hmono : cents q ≤ cents (((-a : ℤ) : ℚ) / 100) := by
      refine cents_mono ?_
      push_cast
      linarith
    rw [cents_div] at hmono
    omega
  · refine le_cents_fix hsum (by omega) hpos ?_
    push_cast
    linarith

/-- What is left of so many cents. -/
theorem cents_left_iff {o : ℤ} (ho : o < 10 ^ 18) (hlt : q < o / 100) (hle : -10 ^ 18 < cents q) :
    o - cents q ≤ cents (fix (o / 100 - q)) ∧
      (cents (fix (o / 100 - q)) = o - cents q ↔ -dropped q + ulp 28 (o / 100 - q) / 2 < 1 / 200) := by
  have hdropped := abs_le.1 (abs_dropped_le q)
  have hpart : cents q ≤ o := (cents_mono hlt.le).trans_eq (cents_div o)
  have hhalf : (((o - cents q : ℤ) : ℚ) - 1 / 2) / 100 ≤ o / 100 - q := by
    rw [dropped] at hdropped
    push_cast
    linarith
  refine ⟨le_cents_fix (by omega) (by omega) (sub_nonneg.2 hlt.le) hhalf, ?_⟩
  rw [cents_fix_eq_iff (by omega) (by omega) (sub_nonneg.2 hlt.le) hhalf, dropped]
  push_cast
  constructor <;> intro <;> linarith

/-- What is collected after a payment of a part is not negative, if less than half a cent of it is dropped. -/
theorem cents_collected_nonneg {a o : ℤ} (ha : 0 ≤ a) (ho : 0 ≤ o) (hlt : q < o / 100)
    (hbelow : -dropped q + ulp 28 (o / 100 - q) / 2 < 1 / 200) (hsum : 0 ≤ a + cents q) :
    0 ≤ cents (fix (a / 100 + q)) := by
  rcases lt_or_ge ((a : ℚ) / 100 + q) 0 with hneg | hpos
  · -- the cents add up to nothing; the smaller sum has no larger unit
    have hmono : cents q ≤ cents (((-a : ℤ) : ℚ) / 100) := by
      refine cents_mono ?_
      push_cast
      linarith
    rw [cents_div] at hmono
    have hcents : (cents q : ℚ) = -a := by exact_mod_cast (by omega : cents q = -a)
    have hcollected : (0 : ℚ) ≤ a := by exact_mod_cast ha
    have houtstanding : (0 : ℚ) ≤ o := by exact_mod_cast ho
    have hulp : ulp 28 ((a : ℚ) / 100 + q) ≤ ulp 28 (o / 100 - q) := by
      refine DecimalContext.ulp_mono hneg.ne ?_
      rw [abs_of_neg hneg, abs_of_pos (sub_pos.2 hlt)]
      linarith
    have hflip : cents (fix (-((a : ℚ) / 100 + q))) ≤ 0 := by
      rw [cents_fix_le_iff le_rfl (by norm_num), DecimalContext.ulp_neg]
      rw [dropped, hcents] at hbelow
      push_cast
      linarith
    rw [cents_fix_neg] at hflip
    exact neg_nonpos.1 hflip
  · exact cents_nonneg (DecimalContext.round_nonneg hpos)

/-- A payment of a part moves its cents from one column to the other if and only if neither sum is rounded to
the next half of one. -/
theorem cents_part_iff {a o : ℤ} (ha : 0 ≤ a) (ha' : a < 10 ^ 18) (ho : 0 ≤ o) (ho' : o < 10 ^ 18)
    (hlt : q < o / 100) :
    cents (fix (a / 100 + q)) + cents (fix (o / 100 - q)) = a + o ∧ 0 ≤ cents (fix (a / 100 + q)) ↔
      dropped q + ulp 28 (a / 100 + q) / 2 < 1 / 200 ∧ -dropped q + ulp 28 (o / 100 - q) / 2 < 1 / 200 ∧
        0 ≤ a + cents q := by
  have hpart : cents q ≤ o := (cents_mono hlt.le).trans_eq (cents_div o)
  have hcollected : (a : ℚ) / 100 + q + ulp 28 (a / 100 + q) / 2 < (((a + cents q : ℤ) : ℚ) + 1 / 2) / 100 ↔
      dropped q + ulp 28 (a / 100 + q) / 2 < 1 / 200 := by
    rw [dropped]
    push_cast
    constructor <;> intro <;> linarith
  constructor
  · rintro ⟨htotal, hnonneg⟩
    have hsum : 0 ≤ a + cents q := by
      by_contra hneg
      -- less than nothing is collected, by half a cent or more
      have hcast : ((a + cents q : ℤ) : ℚ) ≤ -1 := by exact_mod_cast (by omega : a + cents q ≤ -1)
      have hdropped := abs_le.1 (abs_dropped_le q)
      rw [dropped] at hdropped
      push_cast at hcast
      have hhalf : (a : ℚ) / 100 + q ≤ (((-1 : ℤ) : ℚ) + 1 / 2) / 100 := by
        push_cast
        linarith
      have hmono := cents_mono (fix_mono hhalf)
      rw [fix_half (by norm_num), cents_half_of_neg (by norm_num)] at hmono
      omega
    have hright := le_cents_collected ha' hsum (by omega) hnonneg
    obtain ⟨hleft, hiff⟩ := cents_left_iff ho' hlt (by omega)
    exact ⟨hcollected.1 ((cents_fix_le_iff hsum (by omega)).1 (by omega)), hiff.1 (by omega), hsum⟩
  · rintro ⟨habove, hbelow, hsum⟩
    have hnonneg := cents_collected_nonneg ha ho hlt hbelow hsum
    have hright := (cents_fix_le_iff hsum (by omega)).2 (hcollected.2 habove)
    have hmoved := le_cents_collected ha' hsum (by omega) hnonneg
    have hleft := (cents_left_iff ho' hlt (by omega)).2.2 hbelow
    exact ⟨by omega, hnonneg⟩

theorem balanced_part_iff (hs : s.Stored) (hb : Balanced original s)
    (hlt : q < s.case.outstandingAmountUgx) (hfits : Fits s.case q) :
    Balanced original (handle s (.recordPayment (.finite q) now)).2 ↔ Reduces s q := by
  obtain ⟨⟨ha, ha'⟩, ho, ho'⟩ := cents_lt hs hb
  have hcollected := hs.collected.eq_cents
  have houtstanding := hs.outstanding.eq_cents
  have htotal := hb.total
  set a := cents s.case.collectedAmountUgx with hadef
  set o := cents s.case.outstandingAmountUgx with hodef
  rw [hcollected, houtstanding] at htotal
  have hlt' : q < o / 100 := houtstanding ▸ hlt
  have hmoves := cents_part_iff ha ha' ho ho' hlt'
  rw [handle_part hlt, save_of_fits hfits, outstandingAfter_of_lt hlt, collectedAfter, hcollected, houtstanding]
  have hleft : 0 ≤ a + cents q → -dropped q + ulp 28 (o / 100 - q) / 2 < 1 / 200 →
      cents (fix (o / 100 - q)) = o - cents q :=
    fun hsum => (cents_left_iff ho' hlt' (by omega)).2.2
  -- what is left is nothing when all the cents were paid
  have hzero : cents (fix (o / 100 - q)) = o - cents q →
      ((cents (fix (o / 100 - q)) : ℚ) / 100 = 0 ↔ cents q = o) := by
    intro hsame
    rw [hsame, div_eq_zero_iff, or_iff_left (by norm_num), Int.cast_eq_zero, sub_eq_zero, eq_comm]
  constructor
  · intro h
    have hafter : (cents (fix (a / 100 + q)) : ℚ) / 100 + (cents (fix (o / 100 - q)) : ℚ) / 100 = original :=
      h.total
    have hsums : (cents (fix (a / 100 + q)) + cents (fix (o / 100 - q)) : ℚ) = a + o := by linarith
    have hnonneg : (0 : ℚ) ≤ (cents (fix (a / 100 + q)) : ℚ) / 100 := h.collected_nonneg
    rw [le_div_iff₀ (by norm_num), zero_mul, Int.cast_nonneg_iff] at hnonneg
    obtain ⟨habove, hbelow, hsum⟩ := hmoves.1 ⟨by exact_mod_cast hsums, hnonneg⟩
    have hresolved : s.case.status = .resolved ↔ (cents (fix (o / 100 - q)) : ℚ) / 100 = 0 := h.resolved_iff
    rw [hzero (hleft hsum hbelow)] at hresolved
    exact ⟨hcollected ▸ habove, houtstanding ▸ hbelow, hsum, hresolved.symm.trans hb.resolved_iff⟩
  · rintro ⟨habove, hbelow, hsum, hall⟩
    rw [hcollected] at habove
    rw [houtstanding] at hbelow
    obtain ⟨hsums, hnonneg⟩ := hmoves.2 ⟨habove, hbelow, hsum⟩
    have hsame := hleft hsum hbelow
    have hcast : (cents (fix (a / 100 + q)) + cents (fix (o / 100 - q)) : ℚ) = a + o := by
      exact_mod_cast hsums
    refine ⟨?_, ?_, ?_, hb.resolved_iff.trans (hall.symm.trans (hzero hsame).symm), fun hstatus => ?_⟩
    · show (cents (fix (a / 100 + q)) : ℚ) / 100 + (cents (fix (o / 100 - q)) : ℚ) / 100 = original
      linarith
    · show 0 ≤ (cents (fix (a / 100 + q)) : ℚ) / 100
      exact div_nonneg (by exact_mod_cast hnonneg) (by norm_num)
    · show 0 ≤ (cents (fix (o / 100 - q)) : ℚ) / 100
      have hmono := cents_mono hlt'.le
      rw [cents_div] at hmono
      exact div_nonneg (by exact_mod_cast (by omega : 0 ≤ cents (fix (o / 100 - q)))) (by norm_num)
    · -- nothing was outstanding, so the payment is of no cents
      have hnone := hb.resolved_iff.1 hstatus
      have hcents := hall.2 hnone
      have hempty := hs.outstanding.eq_zero_iff.1 hnone
      have hunchanged : cents (fix (a / 100 + q)) = a := by omega
      have hsettled := hb.settled hstatus
      rw [hcollected] at hsettled
      rw [hunchanged]
      exact hsettled

/-! ### Every request -/

/-- A payment that the columns do not take may still create the settlement, and collect the invoice. -/
theorem balanced_refused (hb : Balanced original s) {amount : Amount}
    (h : ∀ q, amountOf s.case amount = some q → ¬ Fits s.case q) :
    Balanced original (handle s (.recordPayment amount now)).2 := by
  simp only [handle, RecordPaymentActionView.post]
  split
  · split
    · exact hb.of_case_eq rfl (fun _ => rfl) fun _ hsome => hsome
    · next settlement hbind =>
      obtain ⟨q, hq, hmap⟩ := Option.bind_eq_some_iff.1 hbind
      obtain ⟨st, hsettle, heq⟩ := Option.map_eq_some_iff.1 hmap
      obtain ⟨rfl, rfl⟩ := Prod.mk.inj heq
      refine hb.of_case_eq (save_of_not_fits (h q hq)) (fun _ => rfl) fun settlement hsome => ?_
      rw [hsome] at hsettle
      exact hsettle.symm
  · split
    · exact hb.of_case_eq rfl id fun _ hsome => hsome
    · next q hq => exact hb.of_case_eq (save_of_not_fits (h q hq)) id fun _ hsome => hsome

theorem balanced_finite_iff (hs : s.Stored) (hb : Balanced original s) (q : ℚ) (now : DateTime) :
    Balanced original (handle s (.recordPayment (.finite q) now)).2 ↔
      (Fits s.case q → if s.case.outstandingAmountUgx ≤ q then Clears s q else Reduces s q) := by
  by_cases hfits : Fits s.case q
  · rw [imp_iff_right hfits]
    split
    · next hle => exact balanced_clearing_iff hs hb hle hfits
    · next hlt => exact balanced_part_iff hs hb (not_le.1 hlt) hfits
  · refine iff_of_true (balanced_refused hb fun x hx => ?_) fun h => absurd h hfits
    exact Option.some.inj hx ▸ hfits

/-- A request keeps the ledger if and only if it is one of `Guard`. -/
theorem balanced_handle_iff (hs : s.Stored) (hb : Balanced original s) (request : Request) :
    Balanced original (handle s request).2 ↔ Guard s request := by
  cases request with
  | resolve =>
    constructor
    · intro h
      have htotal : s.case.collectedAmountUgx + 0 = original := h.total
      have := hb.total
      show s.case.outstandingAmountUgx = 0
      linarith
    · intro h
      refine hb.of_case_eq ?_ id fun _ hsome => hsome
      have hnone : s.case.outstandingAmountUgx = 0 := h
      have hstatus := hb.resolved_iff.2 hnone
      show { s.case with status := .resolved, outstandingAmountUgx := 0 } = s.case
      rw [← hstatus, ← hnone]
  | recordPayment amount now =>
    cases amount with
    | absent =>
      refine (balanced_finite_iff hs hb _ now).trans ?_
      exact ⟨fun h q hq => Option.some.inj hq ▸ h, fun h => h _ rfl⟩
    | finite q =>
      refine (balanced_finite_iff hs hb q now).trans ?_
      exact ⟨fun h x hx => Option.some.inj hx ▸ h, fun h => h q rfl⟩
    | infinite negative =>
      exact iff_of_true (balanced_refused hb fun _ h => by cases h) fun _ h => by cases h
    | nan => exact iff_of_true (balanced_refused hb fun _ h => by cases h) fun _ h => by cases h
    | unreadable => exact iff_of_true (balanced_refused hb fun _ h => by cases h) fun _ h => by cases h

/-! ## Runs -/

/-- **The ledger of a case is kept by just the sequences of requests in which each is one of `Guard`.** -/
theorem kept_iff (original : ℚ) {s₀ : State} (hs : s₀.Stored) (requests : List Request) :
    Kept original s₀ requests ↔
      Balanced original s₀ ∧ Runs.Each (fun s request => some (handle s request).2) Guard s₀ requests :=
  Runs.holds_iff (fun _ request hs => stored_handle request hs)
    (fun _ request hs hb => balanced_handle_iff hs hb request) hs

def sampleTime : DateTime := .ofNat 2026 8 15 9 0 0 0

/-- A case of a hundred shillings. -/
def sampleState : State where
  case := { invoice := 1, outstandingAmountUgx := 100 }
  invoice :=
    { id := 1
      supplier := 1
      buyer := 1
      faceValueUgx := 100
      discountFeeUgx := 2
      netAdvanceUgx := 78
      issueDate := sampleTime
      dueDate := sampleTime
      status := .overdue }

theorem sample_stored : sampleState.Stored :=
  ⟨by decide +kernel, by decide +kernel, by decide +kernel⟩

theorem sample_balanced : Balanced 100 sampleState where
  total := zero_add _
  collected_nonneg := le_rfl
  outstanding_nonneg := by decide
  resolved_iff := by decide
  settled h := by cases h

theorem sample_kept_iff : Kept 100 sampleState [.recordPayment .absent sampleTime, .resolve] := by
  refine (kept_iff 100 sample_stored _).2 ⟨sample_balanced, fun q hq _ => ?_, ?_⟩
  · obtain rfl := Option.some.inj hq
    rw [if_pos le_rfl]
    exact ⟨by decide +kernel, rfl⟩
  · rintro s hs
    obtain rfl := Option.some.inj hs
    exact ⟨by show _ = _; decide +kernel, fun _ _ => trivial⟩

/-- Of a case paid in two instalments the settlement shows the second alone. -/
theorem instalments_not_kept :
    let requests : List Request :=
      [.recordPayment (.finite 60) sampleTime, .recordPayment (.finite 40) sampleTime]
    ¬ Kept 100 sampleState requests ∧
      (after sampleState requests).case.collectedAmountUgx = 100 ∧
        (after sampleState requests).settlement.map Settlement.collectedAmountUgx = some 40 := by
  refine ⟨fun h => ?_, by decide +kernel, by decide +kernel⟩
  obtain ⟨settlement, hsome, hamount⟩ := ((h _ (List.prefix_refl _)).settled (by decide +kernel)).2
  have hshown := congrArg (Option.map Settlement.collectedAmountUgx) hsome
  rw [Option.map_some, hamount] at hshown
  exact absurd hshown (by decide +kernel)

end Ris.Backend.Collections.Recovery
