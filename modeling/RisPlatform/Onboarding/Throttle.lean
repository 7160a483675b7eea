import Mathlib.Tactic.Linarith
import RisPlatform.Onboarding.Eligibility

/-!
# What the throttle of the eligibility check promises

A refusal lasts no longer than it says, and more failures do not lift one. A pass takes back the failures
before it until there is another failure: then all are counted again.
-/

namespace Ris.Onboarding.Eligibility

section Signals

variable {locale : Locale} {rows : List EligibilityCheck} {email ipAddress : Option String} {now : ℤ}

/-! ## The signals -/

theorem mem_recent {row : EligibilityCheck} : row ∈ recent locale rows email ipAddress now ↔
    row ∈ rows ∧ within Tier.thirtyDays.interval now row = true ∧
      matchesKey locale email ipAddress row = true := by
  rw [recent, List.mem_filter, Bool.and_eq_true]

theorem within_mono {i j : ℤ} {row : EligibilityCheck} (h : i ≤ j) (hrow : within i now row = true) :
    within j now row = true := by
  simp only [within, decide_eq_true_eq] at *
  omega

theorem interval_le (tier : Tier) : tier.interval ≤ Tier.thirtyDays.interval := by
  cases tier <;> decide

/-- The shorter windows lie in the longest. -/
theorem failCount_recent (tier : Tier) : failCount (recent locale rows email ipAddress now) tier now =
    rows.countP fun row => matchesKey locale email ipAddress row && (!row.passed &&
      within tier.interval now row) := by
  rw [failCount, recent, List.countP_filter]
  refine List.countP_congr fun row _ => ?_
  have hwithin : within tier.interval now row = true → within Tier.thirtyDays.interval now row = true :=
    within_mono (interval_le tier)
  cases hpassed : row.passed <;> cases hkey : matchesKey locale email ipAddress row <;>
    cases hrow : within tier.interval now row <;> simp_all

theorem counts_eq (tier : Tier) :
    (getEligibilityThrottleSignals locale rows email ipAddress now).counts tier =
      failCount (recent locale rows email ipAddress now) tier now := by
  cases tier <;> rfl

theorem mostRecentAt_eq_none {passed : Bool} :
    mostRecentAt passed rows = none ↔ ∀ row ∈ rows, row.passed ≠ passed := by
  rw [mostRecentAt, Option.map_eq_none_iff, List.max?_eq_none_iff, List.map_eq_nil_iff,
    List.filter_eq_nil_iff]
  simp

/-- The most recent row in whole milliseconds. -/
theorem mostRecentAt_eq_some {passed : Bool} {t : ℤ} (h : mostRecentAt passed rows = some t) :
    (∃ row ∈ rows, row.passed = passed ∧ row.createdAt / 1000 = t) ∧
      ∀ row ∈ rows, row.passed = passed → row.createdAt / 1000 ≤ t := by
  obtain ⟨latest, hlatest, rfl⟩ := Option.map_eq_some_iff.1 h
  obtain ⟨hmem, hle⟩ := List.max?_eq_some_iff.1 hlatest
  obtain ⟨row, hrow, rfl⟩ := List.mem_map.1 hmem
  obtain ⟨hin, hpassed⟩ := List.mem_filter.1 hrow
  refine ⟨⟨row, hin, by simpa using hpassed, rfl⟩, fun other hother hsame => ?_⟩
  have := hle other.createdAt (List.mem_map.2 ⟨other, List.mem_filter.2 ⟨hother, by simpa using hsame⟩, rfl⟩)
  omega

theorem EligibilityThrottleSignals.forgiven_iff {signals : EligibilityThrottleSignals} :
    signals.forgiven = true ↔ ∃ pass, signals.mostRecentPassAt = some pass ∧
      ∀ fail, signals.mostRecentFailAt = some fail → fail < pass := by
  unfold EligibilityThrottleSignals.forgiven
  split
  · next hnone => simp [hnone]
  · next pass hpass hnone => simp [hpass, hnone]
  · next pass fail hpass hfail => simp [hpass, hfail]

/-- Forgiven means that a pass of the last thirty days is in a later millisecond than all the failures. -/
theorem forgiven_iff : (getEligibilityThrottleSignals locale rows email ipAddress now).forgiven = true ↔
    ∃ pass ∈ recent locale rows email ipAddress now, pass.passed = true ∧
      ∀ fail ∈ recent locale rows email ipAddress now, fail.passed = false →
        fail.createdAt / 1000 < pass.createdAt / 1000 := by
  set found := recent locale rows email ipAddress now with hfound
  have hsignals : (getEligibilityThrottleSignals locale rows email ipAddress now).forgiven = true ↔
      ∃ latest, mostRecentAt true found = some latest ∧
        ∀ last, mostRecentAt false found = some last → last < latest :=
    EligibilityThrottleSignals.forgiven_iff
  rw [hsignals]
  constructor
  · rintro ⟨latest, hlatest, hnewer⟩
    obtain ⟨⟨pass, hmem, hpassed, rfl⟩, -⟩ := mostRecentAt_eq_some hlatest
    refine ⟨pass, hmem, hpassed, fun fail hin hfailed => ?_⟩
    cases hlast : mostRecentAt false found with
    | none => exact absurd hfailed (mostRecentAt_eq_none.1 hlast fail hin)
    | some last =>
      have hle := (mostRecentAt_eq_some hlast).2 fail hin hfailed
      have hlt := hnewer last hlast
      omega
  · rintro ⟨pass, hmem, hpassed, hnewer⟩
    cases hlatest : mostRecentAt true found with
    | none => exact absurd hpassed (mostRecentAt_eq_none.1 hlatest pass hmem)
    | some latest =>
      have hle := (mostRecentAt_eq_some hlatest).2 pass hmem hpassed
      refine ⟨latest, rfl, fun last hlast => ?_⟩
      obtain ⟨⟨fail, hin, hfailed, rfl⟩, -⟩ := mostRecentAt_eq_some hlast
      have hlt := hnewer fail hin hfailed
      omega

/-! ## Refusals -/

theorem failsRequired_pos : ∀ t ∈ THROTTLE_TIERS, 0 < t.failsRequired := by
  decide

theorem sorted_tiers : THROTTLE_TIERS.reverse.Pairwise fun t t' => t'.retrySeconds < t.retrySeconds := by
  decide

/-- The longest of the tiers whose threshold is reached. -/
theorem pickThrottleTier_eq_some {signals : EligibilityThrottleSignals} {t : ThrottleTier}
    (h : pickThrottleTier signals = some t) : t ∈ THROTTLE_TIERS ∧ t.failsRequired ≤ signals.counts t.tier ∧
      ∀ t' ∈ THROTTLE_TIERS, t.retrySeconds < t'.retrySeconds →
        signals.counts t'.tier < t'.failsRequired := by
  obtain ⟨hreached, longer, shorter, hsplit, hlonger⟩ := List.find?_eq_some_iff_append.1 h
  have hmem : ∀ t', t' ∈ THROTTLE_TIERS ↔ t' ∈ longer ∨ t' = t ∨ t' ∈ shorter := by
    intro t'
    rw [← List.mem_reverse, hsplit, List.mem_append, List.mem_cons]
  have hsorted := sorted_tiers
  rw [hsplit] at hsorted
  have hafter := (List.pairwise_cons.1 (List.pairwise_append.1 hsorted).2.1).1
  refine ⟨(hmem t).2 (Or.inr (Or.inl rfl)), by simpa using hreached, fun t' ht' hlt => ?_⟩
  rcases (hmem t').1 ht' with hin | rfl | hin
  · simpa using hlonger t' hin
  · exact absurd hlt (lt_irrefl _)
  · exact absurd (hafter t' hin) (by omega)

theorem pickThrottleTier_eq_none_iff (signals : EligibilityThrottleSignals) :
    pickThrottleTier signals = none ↔ ∀ t ∈ THROTTLE_TIERS, signals.counts t.tier < t.failsRequired := by
  rw [pickThrottleTier, List.find?_eq_none]
  simp

/-- The error names a tier whose threshold is reached, and that of no longer one is. -/
theorem throttled_of_enforce {e : Throttled}
    (h : enforceEligibilityThrottle locale rows email ipAddress now = .error e) :
    ∃ t ∈ THROTTLE_TIERS, e = throttled t ∧
      ∀ t' ∈ THROTTLE_TIERS, t.retrySeconds < t'.retrySeconds →
        failCount (recent locale rows email ipAddress now) t'.tier now < t'.failsRequired := by
  simp only [enforceEligibilityThrottle] at h
  split at h
  · cases h
  · cases hpick : pickThrottleTier (getEligibilityThrottleSignals locale rows email ipAddress now) with
    | none =>
      rw [hpick] at h
      cases h
    | some t =>
      rw [hpick] at h
      obtain ⟨hmem, -, hlonger⟩ := pickThrottleTier_eq_some hpick
      refine ⟨t, hmem, (Except.error.inj h).symm, fun t' ht' hlt => ?_⟩
      rw [← counts_eq]
      exact hlonger t' ht' hlt

theorem refused_iff : (∃ e, enforceEligibilityThrottle locale rows email ipAddress now = .error e) ↔
    (getEligibilityThrottleSignals locale rows email ipAddress now).forgiven = false ∧
      ∃ t ∈ THROTTLE_TIERS,
        t.failsRequired ≤ failCount (recent locale rows email ipAddress now) t.tier now := by
  have hpick := pickThrottleTier_eq_none_iff
    (getEligibilityThrottleSignals locale rows email ipAddress now)
  simp only [counts_eq] at hpick
  simp only [enforceEligibilityThrottle]
  cases hforgiven : (getEligibilityThrottleSignals locale rows email ipAddress now).forgiven with
  | true =>
    refine iff_of_false ?_ fun h => Bool.noConfusion h.1
    rintro ⟨e, he⟩
    cases he
  | false =>
    rw [if_neg Bool.false_ne_true, and_iff_right rfl]
    split
    · next hnone =>
      refine iff_of_false ?_ ?_
      · rintro ⟨e, he⟩
        cases he
      · rintro ⟨t, ht, hreached⟩
        exact absurd (hpick.1 hnone t ht) (not_lt.2 hreached)
    · next block hblock =>
      refine iff_of_true ⟨_, rfl⟩ ?_
      by_contra hnone
      have hall : ∀ t ∈ THROTTLE_TIERS,
          failCount (recent locale rows email ipAddress now) t.tier now < t.failsRequired :=
        fun t ht => not_le.1 fun hreached => hnone ⟨t, ht, hreached⟩
      rw [hpick.2 hall] at hblock
      cases hblock

end Signals

/-! ## Forgiveness -/

section Forgiveness

variable {locale : Locale} {rows : List EligibilityCheck} {email ipAddress : Option String} {now : ℤ}

/-- The failures of the applicant in the window. -/
def failures (locale : Locale) (rows : List EligibilityCheck) (email ipAddress : Option String) (now : ℤ)
    (tier : Tier) : List EligibilityCheck :=
  rows.filter fun row =>
    matchesKey locale email ipAddress row && (!row.passed && within tier.interval now row)

/-- It was recorded after every pass of the applicant. -/
def AfterPasses (locale : Locale) (rows : List EligibilityCheck) (email ipAddress : Option String)
    (row : EligibilityCheck) : Prop :=
  ∀ pass ∈ rows, matchesKey locale email ipAddress pass = true → pass.passed = true →
    pass.createdAt < row.createdAt

instance : DecidablePred (AfterPasses locale rows email ipAddress) := fun row =>
  inferInstanceAs (Decidable (∀ pass ∈ rows, matchesKey locale email ipAddress pass = true →
    pass.passed = true → pass.createdAt < row.createdAt))

/-- Some threshold is reached by the failures that were recorded after the most recent pass. -/
def ReachedSincePass (locale : Locale) (rows : List EligibilityCheck) (email ipAddress : Option String)
    (now : ℤ) : Prop :=
  ∃ t ∈ THROTTLE_TIERS, t.failsRequired ≤
    ((failures locale rows email ipAddress now t.tier).filter
      fun row => AfterPasses locale rows email ipAddress row).length

/-- An attempt is refused if and only if the failures after the most recent pass reach a threshold. -/
def Forgives (locale : Locale) (rows : List EligibilityCheck) (email ipAddress : Option String)
    (now : ℤ) : Prop :=
  (∃ e, enforceEligibilityThrottle locale rows email ipAddress now = .error e) ↔
    ReachedSincePass locale rows email ipAddress now

/-- After the last pass there is another failure, or one in the same millisecond; and a threshold is reached
with the failures before the pass, but not without them. -/
def Recounts (locale : Locale) (rows : List EligibilityCheck) (email ipAddress : Option String)
    (now : ℤ) : Prop :=
  (∀ pass ∈ rows, matchesKey locale email ipAddress pass = true → pass.passed = true →
    within Tier.thirtyDays.interval now pass = true →
      ∃ fail ∈ failures locale rows email ipAddress now .thirtyDays,
        pass.createdAt / 1000 ≤ fail.createdAt / 1000) ∧
  (∃ t ∈ THROTTLE_TIERS, t.failsRequired ≤ (failures locale rows email ipAddress now t.tier).length) ∧
  ¬ReachedSincePass locale rows email ipAddress now

theorem mem_failures {row : EligibilityCheck} {tier : Tier} :
    row ∈ failures locale rows email ipAddress now tier ↔
      row ∈ rows ∧ matchesKey locale email ipAddress row = true ∧ row.passed = false ∧
        within tier.interval now row = true := by
  simp [failures]

theorem failCount_eq (tier : Tier) : failCount (recent locale rows email ipAddress now) tier now =
    (failures locale rows email ipAddress now tier).length := by
  rw [failCount_recent, List.countP_eq_length_filter, failures]

theorem mem_recent_failure {row : EligibilityCheck} :
    row ∈ failures locale rows email ipAddress now .thirtyDays ↔
      row ∈ recent locale rows email ipAddress now ∧ row.passed = false := by
  rw [mem_failures, mem_recent]
  tauto

theorem not_forgiven_iff : (getEligibilityThrottleSignals locale rows email ipAddress now).forgiven = false ↔
    ∀ pass ∈ rows, matchesKey locale email ipAddress pass = true → pass.passed = true →
      within Tier.thirtyDays.interval now pass = true →
        ∃ fail ∈ failures locale rows email ipAddress now .thirtyDays,
          pass.createdAt / 1000 ≤ fail.createdAt / 1000 := by
  rw [← Bool.not_eq_true, forgiven_iff]
  constructor
  · intro hnot pass hmem hkey hpassed hwithin
    by_contra hnone
    refine hnot ⟨pass, mem_recent.2 ⟨hmem, hwithin, hkey⟩, hpassed, fun fail hin hfailed => ?_⟩
    exact not_le.1 fun hle => hnone ⟨fail, mem_recent_failure.2 ⟨hin, hfailed⟩, hle⟩
  · rintro hall ⟨pass, hin, hpassed, hnewer⟩
    obtain ⟨hmem, hwithin, hkey⟩ := mem_recent.1 hin
    obtain ⟨fail, hfail, hle⟩ := hall pass hmem hkey hpassed hwithin
    obtain ⟨hfailMem, hfailed⟩ := mem_recent_failure.1 hfail
    exact absurd (hnewer fail hfailMem hfailed) (not_lt.2 hle)

/-- The failures after the last pass alone are enough for a refusal. -/
theorem refused_of_reachedSincePass (h : ReachedSincePass locale rows email ipAddress now) :
    ∃ e, enforceEligibilityThrottle locale rows email ipAddress now = .error e := by
  obtain ⟨t, ht, hreached⟩ := h
  -- one of these failures is newer than every pass
  obtain ⟨last, hlast⟩ := List.exists_mem_of_length_pos ((failsRequired_pos t ht).trans_le hreached)
  obtain ⟨hfailure, hafter⟩ := List.mem_filter.1 hlast
  have hafterAll := of_decide_eq_true hafter
  obtain ⟨hmem, hkey, hfailed, hwithin⟩ := mem_failures.1 hfailure
  refine refused_iff.2 ⟨not_forgiven_iff.2 fun pass hpass hpassKey hpassed _ => ?_, t, ht, ?_⟩
  · refine ⟨last, mem_failures.2 ⟨hmem, hkey, hfailed, within_mono (interval_le _) hwithin⟩, ?_⟩
    have := hafterAll pass hpass hpassKey hpassed
    omega
  · rw [failCount_eq]
    exact hreached.trans (List.length_filter_le _ _)

/-- The throttle forgives in just the histories in which a failure after the last pass does not bring those
before it back. -/
theorem forgives_iff (locale : Locale) (rows : List EligibilityCheck) (email ipAddress : Option String)
    (now : ℤ) : Forgives locale rows email ipAddress now ↔
      ¬Recounts locale rows email ipAddress now := by
  have hrefused := @refused_iff locale rows email ipAddress now
  simp only [not_forgiven_iff, failCount_eq] at hrefused
  constructor
  · rintro hforgives ⟨hrelapse, htotal, hnot⟩
    exact hnot (hforgives.1 (hrefused.2 ⟨hrelapse, htotal⟩))
  · intro hnot
    refine ⟨fun h => ?_, refused_of_reachedSincePass⟩
    by_contra hsince
    obtain ⟨hrelapse, htotal⟩ := hrefused.1 h
    exact hnot ⟨hrelapse, htotal, hsince⟩

end Forgiveness

/-! ## A failure after a pass -/

def sampleLocale : Locale where
  lower s := String.ofList (s.toList.map Char.toLower)
  trim s := s
  toLowerCase s := String.ofList (s.toList.map Char.toLower)

/-- An attempt without an email, so many minutes after the first. -/
def sampleCheck (passed : Bool) (minutes : ℤ) : EligibilityCheck where
  sessionToken := minutes.toNat
  registeredCompany := passed
  authorizedPerson := true
  yearsInBusiness := 2
  passed := passed
  ipAddress := some "192.0.2.1"
  email := none
  fundingRequirement := none
  createdAt := minutes * 60 * 1000000

/-- A failure, a pass and a failure. -/
def relapse : List EligibilityCheck := [sampleCheck false 0, sampleCheck true 1, sampleCheck false 2]

/-- After one failure since the pass, the applicant is refused for the two. -/
theorem relapse_not_forgives :
    ¬Forgives sampleLocale relapse none (some "192.0.2.1") (3 * 60 * 1000000) := by
  intro h
  have hrefused : ∃ e, enforceEligibilityThrottle sampleLocale relapse none (some "192.0.2.1")
      (3 * 60 * 1000000) = .error e := ⟨_, rfl⟩
  have hnot : ¬ReachedSincePass sampleLocale relapse none (some "192.0.2.1") (3 * 60 * 1000000) := by
    unfold ReachedSincePass
    decide
  exact hnot (h.1 hrefused)

/-! ## Retries -/

section Retries

variable {locale : Locale} {rows later : List EligibilityCheck} {email ipAddress : Option String} {t t' : ℤ}

theorem interval_eq : ∀ tier ∈ THROTTLE_TIERS, tier.tier.interval = tier.retrySeconds * 1000000 := by
  decide

theorem failures_append_of_not_matches
    (hlater : ∀ row ∈ later, matchesKey locale email ipAddress row = false) (tier : Tier) :
    failures locale (rows ++ later) email ipAddress t tier =
      failures locale rows email ipAddress t tier := by
  have hnone : failures locale later email ipAddress t tier = [] := by
    rw [failures, List.filter_eq_nil_iff]
    intro row hrow
    rw [hlater row hrow]
    simp
  rw [failures, List.filter_append, ← failures, ← failures, hnone, List.append_nil]

/-- In a window that opens when the last row is already there, nothing is found. -/
theorem failures_eq_nil {tier : Tier} (hrows : ∀ row ∈ rows, row.createdAt ≤ t)
    (h : t + tier.interval ≤ t') : failures locale rows email ipAddress t' tier = [] := by
  rw [List.eq_nil_iff_forall_not_mem]
  intro row hrow
  obtain ⟨hmem, -, -, hwithin⟩ := mem_failures.1 hrow
  have hle := hrows row hmem
  have hlt := of_decide_eq_true hwithin
  omega

/-- The window moves on, and what was recorded before leaves it. -/
theorem length_failures_anti (tier : Tier) (h : t ≤ t') :
    (failures locale rows email ipAddress t' tier).length ≤
      (failures locale rows email ipAddress t tier).length := by
  rw [failures, failures, ← List.countP_eq_length_filter, ← List.countP_eq_length_filter]
  refine List.countP_mono_left fun row _ hrow => ?_
  simp only [Bool.and_eq_true, within, decide_eq_true_eq] at *
  exact ⟨hrow.1, hrow.2.1, by omega⟩

theorem allowed_after_retry {e : Throttled} (hrows : ∀ row ∈ rows, row.createdAt ≤ t)
    (hrefused : enforceEligibilityThrottle locale rows email ipAddress t = .error e)
    (hlater : ∀ row ∈ later, matchesKey locale email ipAddress row = false)
    (hretry : t + e.retryAfterSeconds * 1000000 ≤ t') :
    enforceEligibilityThrottle locale (rows ++ later) email ipAddress t' = .ok () := by
  obtain ⟨block, hblock, rfl, hlonger⟩ := throttled_of_enforce hrefused
  have hinterval := interval_eq block hblock
  have hretry' : t + block.retrySeconds * 1000000 ≤ t' := hretry
  cases hresult : enforceEligibilityThrottle locale (rows ++ later) email ipAddress t' with
  | ok _ => rfl
  | error e' =>
    obtain ⟨-, tier, htier, hreached⟩ := refused_iff.1 ⟨e', hresult⟩
    rw [failCount_eq, failures_append_of_not_matches hlater] at hreached
    have htierInterval := interval_eq tier htier
    rcases le_or_gt tier.retrySeconds block.retrySeconds with hshort | hlong
    · -- its window has passed since the refusal
      rw [failures_eq_nil hrows (by omega)] at hreached
      exact absurd hreached (not_le.2 (failsRequired_pos tier htier))
    · -- its threshold was not reached then, and nothing was added
      have hbelow := hlonger tier htier hlong
      rw [failCount_eq] at hbelow
      have hanti : (failures locale rows email ipAddress t' tier.tier).length ≤
          (failures locale rows email ipAddress t tier.tier).length :=
        length_failures_anti tier.tier (by omega)
      omega

theorem failures_sublist {rows rows' : List EligibilityCheck} (h : rows.Sublist rows') (tier : Tier) :
    (failures locale rows email ipAddress t tier).Sublist (failures locale rows' email ipAddress t tier) :=
  h.filter _

/-- One more failure leaves a refusal a refusal. -/
theorem refused_insert {before after : List EligibilityCheck} {failure : EligibilityCheck}
    (hfailed : failure.passed = false)
    (h : ∃ e, enforceEligibilityThrottle locale (before ++ after) email ipAddress t = .error e) :
    ∃ e, enforceEligibilityThrottle locale (before ++ failure :: after) email ipAddress t =
      .error e := by
  have hsub : (before ++ after).Sublist (before ++ failure :: after) :=
    (List.Sublist.refl before).append (List.sublist_cons_self failure after)
  obtain ⟨hforgiven, tier, htier, hreached⟩ := refused_iff.1 h
  rw [failCount_eq] at hreached
  refine refused_iff.2 ⟨not_forgiven_iff.2 fun pass hpass hkey hpassed hwithin => ?_, tier, htier, ?_⟩
  · have hold : pass ∈ before ++ after := by
      rw [List.mem_append, List.mem_cons] at hpass
      rcases hpass with hin | rfl | hin
      · exact List.mem_append_left _ hin
      · exact absurd (hfailed.symm.trans hpassed) Bool.false_ne_true
      · exact List.mem_append_right _ hin
    -- the failure that is newer than the pass is still there
    obtain ⟨fail, hfail, hle⟩ := not_forgiven_iff.1 hforgiven pass hold hkey hpassed hwithin
    exact ⟨fail, (failures_sublist hsub _).subset hfail, hle⟩
  · rw [failCount_eq]
    exact hreached.trans (failures_sublist hsub _).length_le

/-- After the time that a refusal names, the applicant is not refused, if nothing of the applicant was
recorded in between; and a further failure turns no refusal into an acceptance. -/
theorem throttle_honours_retry (locale : Locale) (email ipAddress : Option String) :
    (∀ (rows later : List EligibilityCheck) (t t' : ℤ) (e : Throttled),
      (∀ row ∈ rows, row.createdAt ≤ t) →
      enforceEligibilityThrottle locale rows email ipAddress t = .error e →
      (∀ row ∈ later, matchesKey locale email ipAddress row = false) →
      t + e.retryAfterSeconds * 1000000 ≤ t' →
      enforceEligibilityThrottle locale (rows ++ later) email ipAddress t' = .ok ()) ∧
    ∀ (before after : List EligibilityCheck) (failure : EligibilityCheck) (t : ℤ), failure.passed = false →
      (∃ e, enforceEligibilityThrottle locale (before ++ after) email ipAddress t = .error e) →
      ∃ e, enforceEligibilityThrottle locale (before ++ failure :: after) email ipAddress t = .error e :=
  ⟨fun _ _ _ _ _ => allowed_after_retry, fun _ _ _ _ => refused_insert⟩

/-- Two failures and a refusal of five minutes. -/
theorem sample_honours_retry :
    enforceEligibilityThrottle sampleLocale ([sampleCheck false 0, sampleCheck false 1] ++ []) none
        (some "192.0.2.1") (7 * 60 * 1000000) = .ok () ∧
      ∃ e, enforceEligibilityThrottle sampleLocale
        ([sampleCheck false 0, sampleCheck false 1] ++ sampleCheck false 2 :: []) none (some "192.0.2.1")
          (2 * 60 * 1000000) = .error e := by
  have hrefused : enforceEligibilityThrottle sampleLocale [sampleCheck false 0, sampleCheck false 1] none
      (some "192.0.2.1") (2 * 60 * 1000000) =
        .error (throttled ⟨.fiveMinutes, 2, 300, "5 minutes"⟩) := rfl
  obtain ⟨hretry, hinsert⟩ := throttle_honours_retry sampleLocale none (some "192.0.2.1")
  refine ⟨hretry _ [] (2 * 60 * 1000000) _ _ ?_ hrefused (fun row h => by cases h) (by decide),
    hinsert _ [] _ _ rfl ⟨_, hrefused⟩⟩
  intro row hrow
  simp only [List.mem_cons, List.not_mem_nil, or_false] at hrow
  rcases hrow with rfl | rfl <;> decide

end Retries

/-! ## Runs -/

section Runs

variable {locale : Locale}

/-- The rows after an attempt. -/
def attempted (locale : Locale) (rows : List EligibilityCheck) (attempt : Attempt) :
    List EligibilityCheck :=
  match checkEligibility locale rows attempt with
  | .ok (_, rows') => rows'
  | .error _ => rows

/-- What an attempt adds is its row, if it is not throttled. -/
theorem attempted_eq (locale : Locale) (rows : List EligibilityCheck) (attempt : Attempt) :
    attempted locale rows attempt = rows ∨ attempted locale rows attempt = rows ++ [attempt.row locale] := by
  unfold attempted checkEligibility
  cases enforceEligibilityThrottle locale rows (attempt.email locale) (some attempt.ipAddress)
    attempt.now with
  | error e => exact Or.inl rfl
  | ok _ =>
    refine Or.inr ?_
    cases hpasses : attempt.passes <;> rfl

/-- Only the throttle refuses an attempt. -/
theorem checkEligibility_eq_error_iff {rows : List EligibilityCheck} {attempt : Attempt} {e : Throttled} :
    checkEligibility locale rows attempt = .error e ↔
      enforceEligibilityThrottle locale rows (attempt.email locale) (some attempt.ipAddress)
        attempt.now = .error e := by
  unfold checkEligibility
  cases enforceEligibilityThrottle locale rows (attempt.email locale) (some attempt.ipAddress)
    attempt.now with
  | error e' =>
    constructor
    · exact fun h => congrArg Except.error (Except.error.inj h)
    · exact fun h => congrArg Except.error (Except.error.inj h)
  | ok _ =>
    -- the answers are recorded, whether they pass or not
    refine iff_of_false (fun h => ?_) nofun
    cases hpasses : attempt.passes <;> rw [hpasses] at h <;> cases h

/-- Attempts only add rows, each as one of them records it. -/
theorem foldl_attempted (locale : Locale) (rows : List EligibilityCheck) (attempts : List Attempt) :
    ∃ later, attempts.foldl (attempted locale) rows = rows ++ later ∧
      ∀ row ∈ later, ∃ attempt ∈ attempts, row = attempt.row locale := by
  induction attempts generalizing rows with
  | nil => exact ⟨[], (List.append_nil rows).symm, fun row h => by cases h⟩
  | cons attempt attempts ih =>
    obtain ⟨later, hrun, hlater⟩ := ih (attempted locale rows attempt)
    have htail : ∀ row ∈ later, ∃ a ∈ attempt :: attempts, row = a.row locale := fun row hrow =>
      (hlater row hrow).imp fun a ha => ⟨List.mem_cons_of_mem _ ha.1, ha.2⟩
    rw [List.foldl_cons, hrun]
    rcases attempted_eq locale rows attempt with hsame | hadded
    · exact ⟨later, by rw [hsame], htail⟩
    · refine ⟨attempt.row locale :: later, by rw [hadded, List.append_assoc, List.singleton_append], ?_⟩
      intro row hrow
      rcases List.mem_cons.1 hrow with rfl | hin
      · exact ⟨attempt, List.mem_cons_self, rfl⟩
      · exact htail row hin

/-- Of the service that begins without rows: whoever is refused by the throttle passes it after the time that
the refusal names, whatever others do in between. -/
theorem allowed_after_others (attempts others : List Attempt) (refused retried : Attempt) {e : Throttled}
    (hbefore : ∀ attempt ∈ attempts, attempt.recordedAt ≤ refused.now)
    (hrefused : checkEligibility locale (attempts.foldl (attempted locale) []) refused = .error e)
    (hothers : ∀ attempt ∈ others,
      matchesKey locale (refused.email locale) (some refused.ipAddress) (attempt.row locale) = false)
    (hsame : retried.email locale = refused.email locale ∧ retried.ipAddress = refused.ipAddress)
    (hretry : refused.now + e.retryAfterSeconds * 1000000 ≤ retried.now) :
    (checkEligibility locale (others.foldl (attempted locale) (attempts.foldl (attempted locale) []))
      retried).isOk = true := by
  obtain ⟨recorded, hrun, hrecorded⟩ := foldl_attempted locale [] attempts
  obtain ⟨later, hrest, hlater⟩ := foldl_attempted locale (attempts.foldl (attempted locale) []) others
  rw [List.nil_append] at hrun
  rw [hrest, hrun]
  rw [hrun] at hrefused
  have hthrottled := checkEligibility_eq_error_iff.1 hrefused
  have hallowed : enforceEligibilityThrottle locale (recorded ++ later) (refused.email locale)
      (some refused.ipAddress) retried.now = .ok () := by
    refine allowed_after_retry (fun row hrow => ?_) hthrottled (fun row hrow => ?_) hretry
    · obtain ⟨attempt, hattempt, rfl⟩ := hrecorded row hrow
      exact hbefore attempt hattempt
    · obtain ⟨attempt, hattempt, rfl⟩ := hlater row hrow
      exact hothers attempt hattempt
  cases hresult : checkEligibility locale (recorded ++ later) retried with
  | ok _ => rfl
  | error e' =>
    have hagain := checkEligibility_eq_error_iff.1 hresult
    rw [hsame.1, hsame.2, hallowed] at hagain
    cases hagain

end Runs

end Ris.Onboarding.Eligibility
