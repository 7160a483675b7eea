import RisPlatform.Backend.Collections.Views
import RisPlatform.Backend.Collections.Columns
import RisPlatform.Common.Runs

/-!
# The waterfall of a settlement

The views of the app `settlements` that write a settlement. The facility is repaid, the profit is booked and
the ledger is closed by requests of their own, which read no status. The columns refuse what they do not
hold: then nothing is written.

Requests to the three views, one after the other. The status moves along without skipping, a closed
settlement keeps its amounts, and the net profit is what the discount leaves after the bank cost, in just the
runs in which every request comes in the status before its own or in its own, and of every profit that is
booked the columns drop as much as of its parts (`proper_iff`). The first net profit is right unless the
discount is an odd multiple of ten cents, of which 65 and 35 hundredths are both rounded up
(`accounts_settle_iff`).
-/

namespace Ris.Backend.Settlements

open DecimalContext (ulp)
open Collections (Amount SettlementStatus cents dropped numeric)
open Collections.RecordPaymentActionView (settle)
open Invoices (Invoice)

/-! ## The views -/

/-- A settlement with the columns that its creation leaves at their defaults. -/
structure Settlement extends Collections.Settlement where
  penaltyIncomeUgx : ℚ := 0
  settledAt : Option DateTime := none
  bankReference : Text := []

/-- The first of the two fields that counts as true, or the column. -/
def amountOf (snakeCased camelCased : Amount) (column : ℚ) : Option ℚ :=
  match snakeCased, camelCased with
  | .absent, .absent => some column
  | .absent, .finite q => some q
  | .finite q, _ => some q
  | _, _ => none

namespace RepayFacilityActionView

def reference (now : DateTime) : Text :=
  "STANBIC-SETTLE-".toList ++ pad 4 now.year ++ pad 2 now.month ++ pad 2 now.day ++ "-0091".toList

def post (settlement : Settlement) (snakeCased camelCased : Amount) (now : DateTime) :
    Reply × Settlement :=
  match (amountOf snakeCased camelCased settlement.advanceAmountUgx).bind numeric with
  | none => (⟨500, []⟩, settlement)
  | some facilityRepaymentUgx =>
    (⟨200, []⟩,
      { settlement with
        facilityRepaymentUgx
        status := .facilityRepaid
        bankReference := reference now })

end RepayFacilityActionView

namespace BookProfitActionView

structure Body where
  discountEarnedSnakeCased : Amount := .absent
  discountEarned : Amount := .absent
  bankCostPaidSnakeCased : Amount := .absent
  bankCostPaid : Amount := .absent

/-- The discount and the bank cost that are booked. -/
def amounts (settlement : Settlement) (body : Body) : Option (ℚ × ℚ) :=
  match amountOf body.discountEarnedSnakeCased body.discountEarned settlement.discountEarnedUgx,
    amountOf body.bankCostPaidSnakeCased body.bankCostPaid settlement.bankCostPaidUgx with
  | some discountEarned, some bankCost => some (discountEarned, bankCost)
  | _, _ => none

/-- `settlement.save()`: each of the three columns rounds for itself. -/
def save (settlement : Settlement) (discountEarned bankCost : ℚ) (now : DateTime) : Option Settlement :=
  match numeric discountEarned, numeric bankCost, numeric (fix (discountEarned - bankCost)) with
  | some discountEarnedUgx, some bankCostPaidUgx, some netProfitUgx => some
      { settlement with
        discountEarnedUgx
        bankCostPaidUgx
        netProfitUgx
        status := .profitBooked
        settledAt := some now }
  | _, _, _ => none

def post (settlement : Settlement) (body : Body) (now : DateTime) : Reply × Settlement :=
  match (amounts settlement body).bind fun booked => save settlement booked.1 booked.2 now with
  | none => (⟨500, []⟩, settlement)
  | some settlement => (⟨200, []⟩, settlement)

end BookProfitActionView

namespace CloseSettlementActionView

def post (settlement : Settlement) (now : DateTime) : Reply × Settlement :=
  (⟨200, []⟩, { settlement with status := .closed, settledAt := some now })

end CloseSettlementActionView

/-! ## Requests -/

inductive Request where
  | repayFacility (snakeCased camelCased : Amount) (now : DateTime)
  | bookProfit (body : BookProfitActionView.Body) (now : DateTime)
  | close (now : DateTime)

def handle (s : Settlement) : Request → Reply × Settlement
  | .repayFacility snakeCased camelCased now => RepayFacilityActionView.post s snakeCased camelCased now
  | .bookProfit body now => BookProfitActionView.post s body now
  | .close now => CloseSettlementActionView.post s now

def after (s₀ : Settlement) (requests : List Request) : Settlement :=
  requests.foldl (fun s request => (handle s request).2) s₀

/-! ## What is to hold -/

def rank : SettlementStatus → ℕ
  | .pending => 0
  | .facilityRepaid => 1
  | .profitBooked => 2
  | .closed => 3

/-- The same status, or the one after it. -/
def Moves (a b : SettlementStatus) : Prop := b = a ∨ rank b = rank a + 1

def Settlement.amounts (s : Settlement) : List ℚ :=
  [s.faceValueUgx, s.collectedAmountUgx, s.advanceAmountUgx, s.discountEarnedUgx, s.penaltyIncomeUgx,
    s.facilityRepaymentUgx, s.bankCostPaidUgx, s.netProfitUgx]

def Accounts (s : Collections.Settlement) : Prop := s.netProfitUgx = s.discountEarnedUgx - s.bankCostPaidUgx

structure Proper (s₀ : Settlement) (requests : List Request) : Prop where
  moves : ∀ before request, before ++ [request] <+: requests →
    Moves (after s₀ before).status (after s₀ (before ++ [request])).status
  closed : ∀ before between, before ++ between <+: requests → (after s₀ before).status = .closed →
    (after s₀ (before ++ between)).amounts = (after s₀ before).amounts
  accounts : ∀ before, before <+: requests → Accounts (after s₀ before).toSettlement

/-- What the columns drop of the discount and what they drop of the bank cost, half a unit of the 28th digit of
the profit counted in, differ by less than half a cent away from zero, and by at most half a cent towards it. -/
structure Tallies (discountEarned bankCost : ℚ) : Prop where
  above : 0 ≤ cents discountEarned - cents bankCost →
    dropped discountEarned - dropped bankCost + ulp 28 (discountEarned - bankCost) / 2 < 1 / 200
  below : cents discountEarned - cents bankCost ≤ 0 →
    dropped bankCost - dropped discountEarned + ulp 28 (discountEarned - bankCost) / 2 < 1 / 200
  above_zero : 0 < cents discountEarned - cents bankCost →
    -1 / 200 ≤ dropped discountEarned - dropped bankCost + ulp 28 (discountEarned - bankCost) / 2
  below_zero : cents discountEarned - cents bankCost < 0 →
    -1 / 200 ≤ dropped bankCost - dropped discountEarned + ulp 28 (discountEarned - bankCost) / 2

/-- A request that the columns refuse does no harm. -/
def Guard (s : Settlement) : Request → Prop
  | .repayFacility snakeCased camelCased _ =>
    ∀ q, amountOf snakeCased camelCased s.advanceAmountUgx = some q → (numeric q).isSome →
      s.status ∈ [.pending, .facilityRepaid]
  | .bookProfit body _ =>
    ∀ discountEarned bankCost, BookProfitActionView.amounts s body = some (discountEarned, bankCost) →
      (numeric discountEarned).isSome → (numeric bankCost).isSome →
        (numeric (fix (discountEarned - bankCost))).isSome →
          s.status ∈ [.facilityRepaid, .profitBooked] ∧ Tallies discountEarned bankCost
  | .close _ => s.status ∈ [.profitBooked, .closed]

/-! ## One request -/

variable {s : Settlement}

theorem moves_facilityRepaid {a : SettlementStatus} :
    Moves a .facilityRepaid ↔ a ∈ [.pending, .facilityRepaid] := by
  cases a <;> simp [Moves, rank]

theorem moves_profitBooked {a : SettlementStatus} :
    Moves a .profitBooked ↔ a ∈ [.facilityRepaid, .profitBooked] := by
  cases a <;> simp [Moves, rank]

theorem moves_closed {a : SettlementStatus} : Moves a .closed ↔ a ∈ [.profitBooked, .closed] := by
  cases a <;> simp [Moves, rank]

theorem Moves.refl (a : SettlementStatus) : Moves a a := Or.inl rfl

theorem Tallies.symm {d b : ℚ} (h : Tallies d b) : Tallies b d := by
  have hulp := DecimalContext.ulp_neg 28 (d - b)
  rw [neg_sub] at hulp
  refine ⟨fun hle => ?_, fun hle => ?_, fun hlt => ?_, fun hlt => ?_⟩
  · rw [hulp]
    exact h.below (by omega)
  · rw [hulp]
    exact h.above (by omega)
  · rw [hulp]
    exact h.below_zero (by omega)
  · rw [hulp]
    exact h.above_zero (by omega)

theorem cents_fix_sub_iff_of_le {d b : ℚ} (hd : |cents d| < 10 ^ 18) (hb : |cents b| < 10 ^ 18)
    (hle : cents b ≤ cents d) : cents (fix (d - b)) = cents d - cents b ↔ Tallies d b := by
  rw [abs_lt] at hd hb
  have hexcess : d - b - ((cents d - cents b : ℤ) : ℚ) / 100 = dropped d - dropped b := by
    rw [dropped, dropped]
    push_cast
    ring
  rcases hle.eq_or_lt with heq | hlt
  · have hsub : d - b = dropped d - dropped b := by
      rw [← hexcess, heq, sub_self, Int.cast_zero, zero_div, sub_zero]
    rw [heq, sub_self, Collections.cents_fix_eq_zero_iff]
    constructor
    · rintro ⟨habove, hbelow⟩
      refine ⟨fun _ => by rwa [← hsub], fun _ => ?_, fun h => by omega, fun h => by omega⟩
      linarith
    · intro h
      have habove := h.above (by omega)
      have hbelow := h.below (by omega)
      exact ⟨by linarith, by linarith⟩
  · rw [Collections.cents_fix_eq_iff_of_pos (by omega) (by omega), hexcess]
    constructor
    · rintro ⟨habove, hzero⟩
      exact ⟨fun _ => habove, fun h => by omega, fun _ => hzero, fun h => by omega⟩
    · exact fun h => ⟨h.above (by omega), h.above_zero (by omega)⟩

/-- The column of the profit shows the difference of the other two. -/
theorem cents_fix_sub_iff {d b : ℚ} (hd : |cents d| < 10 ^ 18) (hb : |cents b| < 10 ^ 18) :
    cents (fix (d - b)) = cents d - cents b ↔ Tallies d b := by
  rcases le_total (cents b) (cents d) with hle | hle
  · exact cents_fix_sub_iff_of_le hd hb hle
  · have hflip := Collections.cents_fix_neg (d - b)
    rw [neg_sub] at hflip
    rw [show Tallies d b ↔ Tallies b d from ⟨Tallies.symm, Tallies.symm⟩, ← cents_fix_sub_iff_of_le hb hd hle,
      hflip]
    constructor <;> intro <;> omega

/-- The profit that is booked accounts for the parts as the columns round them. -/
theorem accounts_of_save {discountEarned bankCost : ℚ} {now : DateTime} {s' : Settlement}
    (h : BookProfitActionView.save s discountEarned bankCost now = some s') :
    Accounts s'.toSettlement ↔ Tallies discountEarned bankCost := by
  unfold BookProfitActionView.save at h
  split at h
  · next hdiscount hcost hprofit =>
    obtain ⟨rfl, hd⟩ := Collections.numeric_eq_some_iff.1 hdiscount
    obtain ⟨rfl, hb⟩ := Collections.numeric_eq_some_iff.1 hcost
    obtain rfl := Collections.eq_cents_of_numeric hprofit
    obtain rfl := Option.some.inj h
    rw [← cents_fix_sub_iff hd hb]
    show (cents (fix (discountEarned - bankCost)) : ℚ) / 100 =
      (cents discountEarned : ℚ) / 100 - (cents bankCost : ℚ) / 100 ↔ _
    rw [← sub_div, div_left_inj' (by norm_num)]
    exact_mod_cast Iff.rfl
  · cases h

/-- Amounts that columns hold do. -/
theorem tallies_of_stored {d b : ℚ} (hd : Collections.IsStored d) (hb : Collections.IsStored b) :
    Tallies d b := by
  have hd' := (Collections.numeric_eq_some_iff.1 hd).2
  have hb' := (Collections.numeric_eq_some_iff.1 hb).2
  have hdiff : d - b = ((cents d - cents b : ℤ) : ℚ) / 100 := by
    conv_lhs => rw [hd.eq_cents, hb.eq_cents]
    push_cast
    ring
  rw [← cents_fix_sub_iff hd' hb', hdiff, fix_of_digits (m := cents d - cents b) 2 (by norm_num) ?_,
    Collections.cents_div]
  rw [abs_lt] at hd' hb' ⊢
  omega

theorem status_of_save {discountEarned bankCost : ℚ} {now : DateTime} {s' : Settlement}
    (h : BookProfitActionView.save s discountEarned bankCost now = some s') : s'.status = .profitBooked := by
  unfold BookProfitActionView.save at h
  split at h
  · exact (Option.some.inj h) ▸ rfl
  · cases h

theorem isSome_save (s : Settlement) (discountEarned bankCost : ℚ) (now : DateTime) :
    (∃ s', BookProfitActionView.save s discountEarned bankCost now = some s') ↔
      (numeric discountEarned).isSome ∧ (numeric bankCost).isSome ∧
        (numeric (fix (discountEarned - bankCost))).isSome := by
  unfold BookProfitActionView.save
  cases numeric discountEarned <;> cases numeric bankCost <;>
    cases numeric (fix (discountEarned - bankCost)) <;> simp

theorem allowed_bookProfit_iff (hs : Accounts s.toSettlement) (body : BookProfitActionView.Body)
    (now : DateTime) :
    Accounts (handle s (.bookProfit body now)).2.toSettlement ∧
        Moves s.status (handle s (.bookProfit body now)).2.status ↔
      Guard s (.bookProfit body now) := by
  simp only [handle, BookProfitActionView.post, Guard]
  split
  · next hnone =>
    refine iff_of_true ⟨hs, .refl _⟩ fun d b hbooked hd hb hdiff => ?_
    obtain ⟨s', hs'⟩ := (isSome_save s d b now).2 ⟨hd, hb, hdiff⟩
    rw [hbooked, Option.bind_some, hs'] at hnone
    cases hnone
  · next s' hsome =>
    obtain ⟨⟨d, b⟩, hbooked, hsave⟩ := Option.bind_eq_some_iff.1 hsome
    obtain ⟨hd, hb, hdiff⟩ := (isSome_save s d b now).1 ⟨s', hsave⟩
    rw [accounts_of_save hsave, status_of_save hsave, moves_profitBooked, and_comm]
    constructor
    · intro h d' b' hbooked' _ _ _
      obtain ⟨rfl, rfl⟩ := Prod.mk.inj (Option.some.inj (hbooked.symm.trans hbooked'))
      exact h
    · exact fun h => h d b hbooked hd hb hdiff

/-- A request that accounts and moves along is one of `Guard`. -/
theorem allowed_handle_iff (hs : Accounts s.toSettlement) (request : Request) :
    Accounts (handle s request).2.toSettlement ∧ Moves s.status (handle s request).2.status ↔
      Guard s request := by
  cases request with
  | bookProfit body now => exact allowed_bookProfit_iff hs body now
  | close now =>
    refine (and_iff_right ?_).trans moves_closed
    exact hs
  | repayFacility snakeCased camelCased now =>
    simp only [handle, RepayFacilityActionView.post, Guard]
    split
    · next hnone =>
      refine iff_of_true ⟨hs, .refl _⟩ fun q hq hfits => ?_
      rw [hq, Option.bind_some] at hnone
      rw [hnone] at hfits
      cases hfits
    · next x hsome =>
      obtain ⟨q, hq, hx⟩ := Option.bind_eq_some_iff.1 hsome
      refine (and_iff_right hs).trans (moves_facilityRepaid.trans ?_)
      constructor
      · exact fun h q' _ _ => h
      · exact fun h => h q hq (by rw [hx]; rfl)

/-- From closed, nothing else moves along than to close once more. -/
theorem closed_of_moves (hs : s.status = .closed) (request : Request)
    (h : Moves s.status (handle s request).2.status) :
    (handle s request).2.status = .closed ∧ (handle s request).2.amounts = s.amounts := by
  rw [hs] at h
  cases request with
  | close now => exact ⟨rfl, rfl⟩
  | bookProfit body now =>
    simp only [handle, BookProfitActionView.post] at h ⊢
    split
    · exact ⟨hs, rfl⟩
    · next s' hsome =>
      obtain ⟨booked, -, hsave⟩ := Option.bind_eq_some_iff.1 hsome
      simp only [hsome, status_of_save hsave, moves_profitBooked] at h
      exact absurd h (by decide)
  | repayFacility snakeCased camelCased now =>
    simp only [handle, RepayFacilityActionView.post] at h ⊢
    split
    · exact ⟨hs, rfl⟩
    · next x hsome =>
      simp only [hsome, moves_facilityRepaid] at h
      exact absurd h (by decide)

/-! ## Runs -/

theorem after_append (s₀ : Settlement) (before between : List Request) :
    after s₀ (before ++ between) = after (after s₀ before) between :=
  List.foldl_append

theorem moves_iff_each (s₀ : Settlement) (requests : List Request) :
    (∀ before request, before ++ [request] <+: requests →
        Moves (after s₀ before).status (after s₀ (before ++ [request])).status) ↔
      Runs.Each (fun s request => some (handle s request).2)
        (fun s request => Moves s.status (handle s request).2.status) s₀ requests := by
  rw [Runs.each_iff]
  constructor
  · intro h before request s₁ hpre hrun
    obtain rfl := Option.some.inj (Runs.run_total.symm.trans hrun)
    have hmoves := h before request hpre
    rwa [after_append] at hmoves
  · intro h before request hpre
    rw [after_append]
    exact h before request _ hpre Runs.run_total

/-- Where the status moves along, a closed settlement stays as it is. -/
theorem closed_after {s₀ : Settlement} {requests : List Request}
    (h : Runs.Each (fun s request => some (handle s request).2)
      (fun s request => Moves s.status (handle s request).2.status) s₀ requests)
    (hs : s₀.status = .closed) :
    (after s₀ requests).status = .closed ∧ (after s₀ requests).amounts = s₀.amounts := by
  refine h.invariant (I := fun s => s.status = .closed ∧ s.amounts = s₀.amounts) ?_ ⟨hs, rfl⟩
    Runs.run_total
  rintro s request s' ⟨hclosed, hamounts⟩ hmoves hstep
  obtain rfl := Option.some.inj hstep
  obtain ⟨hstatus, hsame⟩ := closed_of_moves hclosed request hmoves
  exact ⟨hstatus, hsame.trans hamounts⟩

theorem proper_iff (s₀ : Settlement) (requests : List Request) :
    Proper s₀ requests ↔ Accounts s₀.toSettlement ∧
      Runs.Each (fun s request => some (handle s request).2) Guard s₀ requests := by
  have hruns : (∀ before, before <+: requests → Accounts (after s₀ before).toSettlement) ∧ _ ↔ _ :=
    Runs.holds_and_each_iff (f := fun s request => (handle s request).2)
      (I := fun s => Accounts s.toSettlement) (J := fun _ => True) (fun _ _ _ => trivial)
      (fun _ request _ hs => allowed_handle_iff hs request) trivial
  rw [← hruns]
  constructor
  · exact fun h => ⟨h.accounts, (moves_iff_each s₀ requests).1 h.moves⟩
  · rintro ⟨haccounts, heach⟩
    refine ⟨(moves_iff_each s₀ requests).2 heach, fun before between hpre hclosed => ?_, haccounts⟩
    rw [after_append]
    exact (closed_after ((Runs.each_append.1 (heach.of_prefix hpre)).2 _ Runs.run_total) hclosed).2

/-! ## Creation -/

theorem isHalf_part_iff (n : ℤ) : IsHalf ((n : ℚ) * (65 / 100)) ↔ n % 20 = 10 := by
  constructor
  · rintro ⟨k, hk⟩
    have : (13 * n : ℚ) = (20 * k + 10 : ℤ) := by
      push_cast
      linarith
    have : 13 * n = 20 * k + 10 := by exact_mod_cast this
    omega
  · intro h
    refine ⟨13 * (n / 20) + 6, ?_⟩
    obtain ⟨m, rfl⟩ : ∃ m, n = 20 * m + 10 := ⟨n / 20, by omega⟩
    have hm : (20 * m + 10) / 20 = m := by omega
    rw [hm]
    push_cast
    ring

/-- The two parts of a discount, each rounded for itself. -/
theorem sum_parts_iff (n : ℤ) :
    cents ((n : ℚ) / 100 * (65 / 100)) + cents ((n : ℚ) / 100 - (n : ℚ) / 100 * (65 / 100)) = n ↔
      n % 20 ≠ 10 := by
  have hpart : (n : ℚ) / 100 * (65 / 100) * 100 = n * (65 / 100) := by ring
  by_cases h : n % 20 = 10
  · refine iff_of_false ?_ fun hne => hne h
    obtain ⟨m, rfl⟩ : ∃ m, n = 20 * m + 10 := ⟨n / 20, by omega⟩
    have hprofit : ((20 * m + 10 : ℤ) : ℚ) / 100 * (65 / 100) =
        (((13 * m + 6 : ℤ) : ℚ) + 1 / 2) / 100 := by
      push_cast
      ring
    have hcost : ((20 * m + 10 : ℤ) : ℚ) / 100 - (((13 * m + 6 : ℤ) : ℚ) + 1 / 2) / 100 =
        (((7 * m + 3 : ℤ) : ℚ) + 1 / 2) / 100 := by
      push_cast
      ring
    rw [hprofit, hcost]
    -- both parts are halves, rounded away from zero
    rcases lt_or_ge m 0 with hm | hm
    · rw [Collections.cents_half_of_neg (by omega), Collections.cents_half_of_neg (by omega)]
      omega
    · rw [Collections.cents_half_of_nonneg (by omega), Collections.cents_half_of_nonneg (by omega)]
      omega
  · have hhalf : ¬ IsHalf ((n : ℚ) / 100 * (65 / 100) * 100) := by rwa [hpart, isHalf_part_iff]
    rw [Collections.cents_div_sub hhalf]
    exact iff_of_true (by omega) h

theorem accounts_settle_iff {invoice : Invoice} {amount : ℚ} {settlement : Collections.Settlement}
    (hfee : Collections.IsStored invoice.discountFeeUgx)
    (h : settle none invoice amount = some settlement) :
    Accounts settlement ↔ cents invoice.discountFeeUgx % 20 ≠ 10 := by
  unfold settle at h
  split at h
  · next hsome => cases hsome
  dsimp only at h
  split at h
  · next hcollected hprofit hcost =>
    obtain rfl := Option.some.inj h
    rw [hfee.fix_parts.1] at hprofit hcost
    rw [hfee.fix_parts.2] at hcost
    obtain rfl := Collections.eq_cents_of_numeric hprofit
    obtain rfl := Collections.eq_cents_of_numeric hcost
    rw [← sum_parts_iff, ← hfee.eq_cents]
    generalize cents (invoice.discountFeeUgx * (65 / 100)) = profit
    generalize cents (invoice.discountFeeUgx - invoice.discountFeeUgx * (65 / 100)) = cost
    show (profit : ℚ) / 100 = invoice.discountFeeUgx - (cost : ℚ) / 100 ↔ _
    rw [hfee.eq_cents, Collections.cents_div, ← sub_div, div_left_inj' (by norm_num), eq_sub_iff_add_eq]
    exact_mod_cast Iff.rfl
  · cases h

def sampleTime (hour : ℕ) : DateTime := .ofNat 2026 8 15 hour 0 0 0

def sampleInvoice : Invoice where
  id := 1
  supplier := 1
  buyer := 1
  faceValueUgx := 100
  discountFeeUgx := 2
  netAdvanceUgx := 78
  issueDate := sampleTime 0
  dueDate := sampleTime 23
  status := .collected

/-- As a payment of a hundred shillings creates it. -/
def sampleSettlement : Settlement where
  invoice := 1
  supplier := 1
  buyer := 1
  faceValueUgx := 100
  collectedAmountUgx := 100
  advanceAmountUgx := 78
  discountEarnedUgx := 2
  facilityRepaymentUgx := 78
  bankCostPaidUgx := 7 / 10
  netProfitUgx := 13 / 10

/-- **The waterfall of any settlement, and of one that a payment of the case has created.** -/
theorem waterfall_iff (s₀ : Settlement) (requests : List Request) :
    (Proper s₀ requests ↔ Accounts s₀.toSettlement ∧
      Runs.Each (fun s request => some (handle s request).2) Guard s₀ requests) ∧
    ∀ invoice amount, Collections.IsStored invoice.discountFeeUgx →
      settle none invoice amount = some s₀.toSettlement →
        (Proper s₀ requests ↔ cents invoice.discountFeeUgx % 20 ≠ 10 ∧
          Runs.Each (fun s request => some (handle s request).2) Guard s₀ requests) := by
  refine ⟨proper_iff s₀ requests, fun invoice amount hfee hcreated => ?_⟩
  rw [proper_iff, accounts_settle_iff hfee hcreated]

theorem sample_created : settle none sampleInvoice 100 = some sampleSettlement.toSettlement := by
  have hcollected : numeric 100 = some 100 := by decide +kernel
  have hprofit : numeric (fix (2 * (65 / 100))) = some (13 / 10) := by decide +kernel
  have hcost : numeric (fix (2 - fix (2 * (65 / 100)))) = some (7 / 10) := by decide +kernel
  simp only [settle, sampleInvoice, hcollected, hprofit, hcost]
  rfl

theorem sample_waterfall_iff :
    Proper sampleSettlement
      [.repayFacility .absent .absent (sampleTime 9), .bookProfit {} (sampleTime 10),
        .close (sampleTime 11)] := by
  refine ((waterfall_iff sampleSettlement _).2 sampleInvoice 100 (by decide +kernel) sample_created).2
    ⟨by decide +kernel, fun _ _ _ => List.mem_cons_self, ?_⟩
  rintro s hs
  obtain rfl := Option.some.inj hs
  refine ⟨fun discountEarned bankCost hbooked _ _ _ => ?_, ?_⟩
  · obtain ⟨rfl, rfl⟩ := Prod.mk.inj (Option.some.inj hbooked)
    exact ⟨by decide +kernel, tallies_of_stored (by decide +kernel) (by decide +kernel)⟩
  · rintro s hs
    obtain rfl := Option.some.inj hs
    exact ⟨by show _ ∈ _; decide +kernel, fun _ _ => trivial⟩

def reopening : List Request :=
  [.repayFacility .absent .absent (sampleTime 9), .bookProfit {} (sampleTime 10), .close (sampleTime 11),
    .bookProfit { discountEarned := .finite 3 } (sampleTime 12)]

/-- A closed settlement is opened again, with other amounts. -/
theorem closed_booked :
    ¬ Proper sampleSettlement reopening ∧
      (after sampleSettlement (reopening.take 3)).status = .closed ∧
        (after sampleSettlement reopening).status = .profitBooked ∧
          (after sampleSettlement reopening).netProfitUgx = 23 / 10 := by
  refine ⟨fun h => ?_, by decide +kernel, by decide +kernel, by decide +kernel⟩
  have hamounts := h.closed (reopening.take 3) (reopening.drop 3) (List.prefix_refl _) (by decide)
  exact absurd hamounts (by decide +kernel)

end Ris.Backend.Settlements
