import Mathlib.Algebra.Order.Floor.Ring
import Mathlib.Data.Rat.Floor
import RisPlatform.Common.Binary64Order
import RisPlatform.RiskEngine.Service

/-!
# Scores and terms

Acceptance, the advance and the premium are three ladders over the score. The thresholds of the first are
configured; the advance has a step at 60 above the lower threshold, wherever that is, and the steps of the
premium are literal. So the ladders fit together if the lower threshold is between 49 and 60, and
otherwise only if the step that sticks out does no harm.
-/

namespace Ris.RiskEngine.Terms

variable {config : RiskConfig}

/-! ## The law -/

/-- The tiers are in order: a higher threshold, more advance, less premium. -/
structure OrderedTiers (config : RiskConfig) : Prop where
  thresholds : config.thresholdReferManager ≤ config.thresholdAutoApprove
  low_le_mid : config.advancePctLow ≤ config.advancePctMid
  mid_le_high : config.advancePctMid ≤ config.advancePctHigh
  premium_80 : config.premiumScore80Plus ≤ config.premiumScore70To79
  premium_70 : config.premiumScore70To79 ≤ config.premiumScore60To69
  premium_60 : config.premiumScore60To69 ≤ config.premiumScore50To59

def Accepted (config : RiskConfig) (score : ℤ) : Prop := determineRecommendation config score ≠ .reject

/-- A better score has better terms, and a score is rejected if and only if it gets no advance. -/
structure BetterTerms (config : RiskConfig) : Prop where
  better : ∀ score better : ℤ, score ≤ better → Accepted config score →
    Accepted config better ∧ determineMaxAdvance config score ≤ determineMaxAdvance config better ∧
      determineRiskPremium config better ≤ determineRiskPremium config score
  rejected : ∀ score, determineRecommendation config score = .reject ↔
    determineMaxAdvance config score = 0

/-- The steps of the three ladders fit together. -/
structure Aligned (config : RiskConfig) : Prop where
  high : parseFloat config.advancePctHigh ≠ 0
  /-- Scores from 60 on that are accepted, but not automatically. -/
  mid : (max 60 ⌈parseFloat config.thresholdReferManager⌉ : ℤ) < parseFloat config.thresholdAutoApprove →
    parseFloat config.advancePctMid ≠ 0
  /-- Scores under 60 that are accepted, but not automatically. -/
  low : (⌈parseFloat config.thresholdReferManager⌉ : ℚ) < min 60 (parseFloat config.thresholdAutoApprove) →
    parseFloat config.advancePctLow ≠ 0
  /-- Scores from 60 on that are rejected. -/
  rejected : 60 < parseFloat config.thresholdReferManager → parseFloat config.advancePctMid = 0
  /-- Scores under 50 that are accepted. -/
  premium : parseFloat config.thresholdReferManager ≤ 49 → parseFloat config.premiumScore50To59 ≤ 0

/-! ## Ladders -/

theorem parseFloat_mono {x y : ℚ} (h : x ≤ y) : parseFloat x ≤ parseFloat y := Binary64.round_mono h

theorem determineRecommendation_eq_reject_iff (h : OrderedTiers config) (score : ℤ) :
    determineRecommendation config score = .reject ↔
      score < parseFloat config.thresholdReferManager := by
  have hle := parseFloat_mono h.thresholds
  unfold determineRecommendation
  split_ifs with hauto hrefer
  · simpa using hle.trans hauto
  · simpa using hrefer
  · simpa using hrefer

theorem accepted_iff (h : OrderedTiers config) (score : ℤ) :
    Accepted config score ↔ parseFloat config.thresholdReferManager ≤ score := by
  rw [Accepted, Ne, determineRecommendation_eq_reject_iff h, not_lt]

/-- Among accepted scores the advance does not fall. -/
theorem determineMaxAdvance_mono (h : OrderedTiers config) {score better : ℤ} (hle : score ≤ better)
    (haccepted : parseFloat config.thresholdReferManager ≤ score) :
    determineMaxAdvance config score ≤ determineMaxAdvance config better := by
  have hlow := parseFloat_mono h.low_le_mid
  have hmid := parseFloat_mono h.mid_le_high
  have hcast : (score : ℚ) ≤ better := by exact_mod_cast hle
  unfold determineMaxAdvance
  split_ifs <;> linarith

/-- Among scores from 50 on the premium does not rise. -/
theorem determineRiskPremium_anti (h : OrderedTiers config) {score better : ℤ} (hle : score ≤ better)
    (hfifty : 50 ≤ score) : determineRiskPremium config better ≤ determineRiskPremium config score := by
  have h80 := parseFloat_mono h.premium_80
  have h70 := parseFloat_mono h.premium_70
  have h60 := parseFloat_mono h.premium_60
  unfold determineRiskPremium
  split_ifs <;> linarith

/-- No premium is above that of the band from 50 to 59, unless it is the 0 under 50. -/
theorem determineRiskPremium_le (h : OrderedTiers config)
    (hpremium : parseFloat config.premiumScore50To59 ≤ 0) (score : ℤ) :
    determineRiskPremium config score ≤ 0 := by
  have h80 := parseFloat_mono h.premium_80
  have h70 := parseFloat_mono h.premium_70
  have h60 := parseFloat_mono h.premium_60
  unfold determineRiskPremium
  split_ifs <;> linarith

theorem determineRiskPremium_of_lt {score : ℤ} (h : score < 50) :
    determineRiskPremium config score = 0 := by
  unfold determineRiskPremium
  split_ifs <;> first | rfl | omega

/-! ## When the law holds -/

theorem Aligned.better (h : Aligned config) (hordered : OrderedTiers config) {score better : ℤ}
    (hle : score ≤ better) (haccepted : parseFloat config.thresholdReferManager ≤ score) :
    determineRiskPremium config better ≤ determineRiskPremium config score := by
  rcases le_or_gt 50 score with hfifty | hfifty
  · exact determineRiskPremium_anti hordered hle hfifty
  · -- under 50 there is no premium, so that there must be none above
    rw [determineRiskPremium_of_lt hfifty]
    have hscore : (score : ℚ) ≤ 49 := by exact_mod_cast Int.le_of_lt_add_one hfifty
    exact determineRiskPremium_le hordered (h.premium (haccepted.trans hscore)) better

theorem Aligned.reject_iff (h : Aligned config) (hordered : OrderedTiers config) (score : ℤ) :
    (score : ℚ) < parseFloat config.thresholdReferManager ↔ determineMaxAdvance config score = 0 := by
  have hle := parseFloat_mono hordered.thresholds
  unfold determineMaxAdvance
  split_ifs with hauto hsixty hrefer
  · have haccepted : ¬(score : ℚ) < parseFloat config.thresholdReferManager := not_lt.2 (hle.trans hauto)
    simp [haccepted, h.high]
  · have hcast : (60 : ℚ) ≤ score := by exact_mod_cast hsixty
    constructor
    · exact fun hlt => h.rejected (hcast.trans_lt hlt)
    · intro hzero
      by_contra hrefer
      refine h.mid (lt_of_le_of_lt ?_ (not_le.1 hauto)) hzero
      exact_mod_cast max_le hsixty (Int.ceil_le.2 (not_lt.1 hrefer))
  · have hceil : (⌈parseFloat config.thresholdReferManager⌉ : ℚ) ≤ score := by
      exact_mod_cast Int.ceil_le.2 hrefer
    have hcast : (score : ℚ) < 60 := by exact_mod_cast not_le.1 hsixty
    have hlow := h.low (lt_min (hceil.trans_lt hcast) (hceil.trans_lt (not_le.1 hauto)))
    simp [not_lt.2 hrefer, hlow]
  · simp [not_le.1 hrefer]

/-- Under the law, an accepted score gets an advance. -/
theorem BetterTerms.advance_ne_zero (h : BetterTerms config) (hordered : OrderedTiers config) {score : ℤ}
    (haccepted : parseFloat config.thresholdReferManager ≤ score) : determineMaxAdvance config score ≠ 0 := by
  intro hzero
  have hreject := (h.rejected score).2 hzero
  rw [determineRecommendation_eq_reject_iff hordered] at hreject
  exact absurd haccepted (not_le.2 hreject)

/-- A score at each step shows that the step does no harm. -/
theorem BetterTerms.aligned (h : BetterTerms config) (hordered : OrderedTiers config) :
    Aligned config where
  high := by
    have hauto := Int.le_ceil (parseFloat config.thresholdAutoApprove)
    have hadvance := h.advance_ne_zero hordered ((parseFloat_mono hordered.thresholds).trans hauto)
    rwa [determineMaxAdvance, if_pos hauto] at hadvance
  mid hlt := by
    -- the least score of the middle advance that is accepted
    set score : ℤ := max 60 ⌈parseFloat config.thresholdReferManager⌉ with hscore
    have haccepted : parseFloat config.thresholdReferManager ≤ score := Int.ceil_le.1 (le_max_right _ _)
    have hadvance := h.advance_ne_zero hordered haccepted
    rwa [determineMaxAdvance, if_neg (not_le.2 hlt), if_pos (le_max_left _ _)] at hadvance
  low hlt := by
    -- the least score that is accepted
    set score : ℤ := ⌈parseFloat config.thresholdReferManager⌉ with hscore
    have haccepted : parseFloat config.thresholdReferManager ≤ score := Int.le_ceil _
    have hsixty : score < 60 := by exact_mod_cast (lt_min_iff.1 hlt).1
    have hadvance := h.advance_ne_zero hordered haccepted
    rwa [determineMaxAdvance, if_neg (not_le.2 (lt_min_iff.1 hlt).2), if_neg (not_le.2 hsixty),
      if_pos haccepted] at hadvance
  rejected hlt := by
    have hauto : ¬parseFloat config.thresholdAutoApprove ≤ (60 : ℤ) :=
      not_le.2 (hlt.trans_le (parseFloat_mono hordered.thresholds))
    have hzero := (h.rejected 60).1 ((determineRecommendation_eq_reject_iff hordered 60).2 hlt)
    rwa [determineMaxAdvance, if_neg hauto, if_pos le_rfl] at hzero
  premium hle := by
    -- from 49 to 50 the premium must not rise
    have haccepted : Accepted config 49 := (accepted_iff hordered 49).2 hle
    obtain ⟨-, -, hpremium⟩ := h.better 49 50 (by decide) haccepted
    rwa [determineRiskPremium_of_lt (show (49 : ℤ) < 50 by decide)] at hpremium

/-- Better scores have better terms if and only if the steps of the ladders fit together. -/
theorem betterTerms_iff (config : RiskConfig) (hordered : OrderedTiers config) :
    BetterTerms config ↔ Aligned config := by
  refine ⟨fun h => h.aligned hordered, fun h => ⟨fun score better hle hscore => ?_, fun score => ?_⟩⟩
  · rw [accepted_iff hordered] at hscore ⊢
    have hcast : (score : ℚ) ≤ better := by exact_mod_cast hle
    exact ⟨hscore.trans hcast, determineMaxAdvance_mono hordered hle hscore,
      h.better hordered hle hscore⟩
  · rw [determineRecommendation_eq_reject_iff hordered]
    exact h.reject_iff hordered score

/-- The defaults fit together. -/
theorem default_betterTerms : OrderedTiers {} ∧ BetterTerms {} := by
  have hordered : OrderedTiers {} := by
    constructor <;> decide +kernel
  have hrefer : parseFloat (({} : RiskConfig).thresholdReferManager) = 50 := by decide +kernel
  refine ⟨hordered, (betterTerms_iff {} hordered).2 ⟨by decide +kernel, fun _ => by decide +kernel,
    fun _ => by decide +kernel, fun h => ?_, fun h => ?_⟩⟩
  · rw [hrefer] at h
    exact absurd h (by norm_num)
  · rw [hrefer] at h
    exact absurd h (by norm_num)

/-! ## Not for every configuration -/

/-- The thresholds are raised to 80 and 65. -/
def strictThresholds : RiskConfig where
  thresholdAutoApprove := 80
  thresholdReferManager := 65

/-- Under the higher thresholds a score of 62 is rejected, and gets the advance of the middle tier. -/
theorem strictThresholds_not_betterTerms :
    ¬∀ config : RiskConfig, OrderedTiers config → BetterTerms config := by
  intro h
  have hbetter := h strictThresholds (by constructor <;> decide +kernel)
  have hrejected : determineRecommendation strictThresholds 62 = .reject := by decide +kernel
  exact absurd ((hbetter.rejected 62).1 hrejected) (by decide +kernel)

end Ris.RiskEngine.Terms
