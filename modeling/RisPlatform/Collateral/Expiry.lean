import Mathlib.Data.List.Sort
import RisPlatform.Alone
import RisPlatform.Collateral

/-!
# The notices of an expiry

`checkExpiryAlerts` lists the items of the next 30 days and those of the next 7, and sends a notice of 7 days
only for an item that is not on the first list. Every item of the second list is on it, so no such notice is
ever sent: a run is right exactly when no active item expires within 7 days (`notices_iff`).
-/

namespace Ris.Collateral

open Relational Concurrent

/-! ## The job -/

/-- An active item whose date, as an instant, is ahead and within the days. -/
def ExpiresWithin (daysAhead now : ℤ) (c : Collateral) : Prop :=
  c.isActive = true ∧ c.deletedAt = none ∧
    ∃ date ∈ c.expiryDate, date * dayMs ≤ now + daysAhead * dayMs ∧ now < date * dayMs

instance (daysAhead now : ℤ) (c : Collateral) : Decidable (ExpiresWithin daysAhead now c) := by
  unfold ExpiresWithin
  infer_instance

/-- The items that expire within the days, the earliest first. -/
def getExpiringCollateral (daysAhead now : ℤ) (w : World) : List Collateral :=
  (w.collateral.rows.filter fun c => ExpiresWithin daysAhead now c).insertionSort
    fun c d => c.expiryDate.getD 0 ≤ d.expiryDate.getD 0

/-- The job of a notice. -/
def notice (daysUntilExpiry : ℤ) (c : Collateral) : Job where
  queue := .notification
  name := "collateral_expiry_warning"
  data :=
    [("collateralId", .id c.id), ("invoiceId", .ofOption .id c.invoiceId), ("supplierId", .id c.supplierId),
      ("daysUntilExpiry", .int daysUntilExpiry)]

def queueExpiryNotification (cfg : Config) (c : Collateral) (daysUntilExpiry : ℤ) : Call Unit :=
  enqueueOrWarn cfg (notice daysUntilExpiry c) "Notification queue not configured"

/-- Look for items that expire and queue their notices; the number of notices. -/
def checkExpiryAlerts (cfg : Config) : Call ℕ := do
  let (expiring30, _) ← queryNow (getExpiringCollateral 30)
  let (expiring7, _) ← queryNow (getExpiringCollateral 7)
  expiring30.forM fun item => queueExpiryNotification cfg item 30
  let remaining := expiring7.filter fun item => ¬expiring30.any fun c => c.id = item.id
  remaining.forM fun item => queueExpiryNotification cfg item 7
  log "Collateral expiry check complete"
  return expiring30.length + remaining.length

/-! ## A run that completes -/

section Run

variable {cfg : Config} {i : Input} {w w' : World}

/-- What the notices of a list add to the queues. -/
def noticesOf (cfg : Config) (daysUntilExpiry : ℤ) (items : List Collateral) : List Job :=
  if QueueName.notification ∈ cfg.queues then items.map (notice daysUntilExpiry) else []

theorem outcome_queueExpiryNotification (hi : i.fault = none) (c : Collateral) (days : ℤ) :
    (queueExpiryNotification cfg c days).outcome i w =
      (.ok (), { w with jobs := w.jobs ++ noticesOf cfg days [c] }) := by
  unfold queueExpiryNotification enqueueOrWarn noticesOf
  by_cases hqueue : QueueName.notification ∈ cfg.queues
  · simp [hqueue, notice, enqueueWithContext, hi]
  · simp [hqueue, notice, hi]

theorem outcome_notices (hi : i.fault = none) (days : ℤ) (items : List Collateral) :
    (items.forM fun item => queueExpiryNotification cfg item days).outcome i w =
      (.ok (), { w with jobs := w.jobs ++ noticesOf cfg days items }) := by
  induction items generalizing w with
  | nil => simp [noticesOf]
  | cons c items ih =>
    have happend : noticesOf cfg days (c :: items) = noticesOf cfg days [c] ++ noticesOf cfg days items := by
      unfold noticesOf
      split <;> rfl
    refine Proc.outcome_bind_ok.2 ⟨(), _, outcome_queueExpiryNotification hi c days, ?_⟩
    rw [ih, happend, List.append_assoc]

/-- Whatever is on the second list is on the first. -/
theorem remaining_eq_nil (now : ℤ) (w : World) :
    (getExpiringCollateral 7 now w).filter
      (fun item => ¬(getExpiringCollateral 30 now w).any fun c => c.id = item.id) = [] := by
  rw [List.filter_eq_nil_iff]
  intro item hitem hnot
  rw [getExpiringCollateral, List.mem_insertionSort, List.mem_filter, decide_eq_true_eq] at hitem
  obtain ⟨hmem, hactive, hlive, date, hdate, hle, hlt⟩ := hitem
  have hfirst : item ∈ getExpiringCollateral 30 now w := by
    rw [getExpiringCollateral, List.mem_insertionSort, List.mem_filter, decide_eq_true_eq]
    refine ⟨hmem, hactive, hlive, date, hdate, ?_, hlt⟩
    unfold dayMs at hle ⊢
    omega
  simp only [decide_eq_true_eq] at hnot
  exact hnot (List.any_eq_true.2 ⟨item, hfirst, decide_eq_true rfl⟩)

/-- The notices of a run are those of its first list. -/
theorem outcome_checkExpiryAlerts (hi : i.fault = none) :
    (checkExpiryAlerts cfg).outcome i w =
      (.ok (getExpiringCollateral 30 i.now w).length,
        { w with jobs := w.jobs ++ noticesOf cfg 30 (getExpiringCollateral 30 i.now w) }) := by
  unfold checkExpiryAlerts
  rw [Proc.outcome_bind_ok]
  refine ⟨_, w, outcome_queryNow_ok.2 ⟨hi, rfl, rfl⟩, ?_⟩
  dsimp only
  rw [Proc.outcome_bind_ok]
  refine ⟨_, w, outcome_queryNow_ok.2 ⟨hi, rfl, rfl⟩, ?_⟩
  dsimp only
  rw [Proc.outcome_bind_ok]
  refine ⟨(), _, outcome_notices hi 30 _, ?_⟩
  rw [remaining_eq_nil, Proc.outcome_bind_ok]
  refine ⟨(), _, Proc.outcome_pure_ok.2 ⟨rfl, rfl⟩, ?_⟩
  rw [Proc.outcome_bind_ok]
  exact ⟨(), _, outcome_log_ok.2 ⟨hi, rfl⟩, Proc.outcome_pure_ok.2 ⟨rfl, rfl⟩⟩

end Run

/-! ## When the notices are right -/

/-- The notices that are due: of 7 days for the items that expire within them, and of 30 days for the rest. -/
def dueNotices (now : ℤ) (w : World) : List Job :=
  (w.collateral.rows.filter fun c => ExpiresWithin 7 now c).map (notice 7) ++
    (w.collateral.rows.filter fun c => ExpiresWithin 30 now c ∧ ¬ExpiresWithin 7 now c).map (notice 30)

/-- The run from one store to the other has queued the notices that are due, each once and no others. -/
def Notified (now : ℤ) (w w' : World) : Prop :=
  ∃ notices, w'.jobs = w.jobs ++ notices ∧ notices.Perm (dueNotices now w)

/-- No item expires within 7 days, and the queue is there for those that expire within 30. -/
def NoneUrgent (cfg : Config) (now : ℤ) (w : World) : Prop :=
  (∀ c ∈ w.collateral.rows, ¬ExpiresWithin 7 now c) ∧
    (QueueName.notification ∈ cfg.queues ∨ ∀ c ∈ w.collateral.rows, ¬ExpiresWithin 30 now c)

theorem notice_ne (c d : Collateral) : notice 30 c ≠ notice 7 d := by
  simp [notice]

/-- A notice of 7 days is never sent. -/
theorem not_mem_noticesOf (cfg : Config) (items : List Collateral) (c : Collateral) :
    notice 7 c ∉ noticesOf cfg 30 items := by
  unfold noticesOf
  split
  · intro h
    obtain ⟨d, -, hd⟩ := List.mem_map.1 h
    exact notice_ne d c hd
  · exact List.not_mem_nil

theorem perm_dueNotices_iff (cfg : Config) (now : ℤ) (w : World) :
    (noticesOf cfg 30 (getExpiringCollateral 30 now w)).Perm (dueNotices now w) ↔
      NoneUrgent cfg now w := by
  constructor
  · intro h
    have hnone : ∀ c ∈ w.collateral.rows, ¬ExpiresWithin 7 now c := by
      intro c hc hurgent
      apply not_mem_noticesOf cfg (getExpiringCollateral 30 now w) c
      apply h.mem_iff.2
      exact List.mem_append_left _ (List.mem_map_of_mem (List.mem_filter.2 ⟨hc, decide_eq_true hurgent⟩))
    refine ⟨hnone, ?_⟩
    by_cases hqueue : QueueName.notification ∈ cfg.queues
    · exact Or.inl hqueue
    · right
      intro c hc hsoon
      have hdue : notice 30 c ∈ dueNotices now w :=
        List.mem_append_right _ (List.mem_map_of_mem
          (List.mem_filter.2 ⟨hc, decide_eq_true ⟨hsoon, hnone c hc⟩⟩))
      have hsent := h.mem_iff.2 hdue
      rw [noticesOf, if_neg hqueue] at hsent
      exact List.not_mem_nil hsent
  · rintro ⟨hnone, hqueue⟩
    have hurgent : w.collateral.rows.filter (fun c => ExpiresWithin 7 now c) = [] := by
      rw [List.filter_eq_nil_iff]
      intro c hc h
      exact hnone c hc (of_decide_eq_true h)
    have hrest : w.collateral.rows.filter (fun c => ExpiresWithin 30 now c ∧ ¬ExpiresWithin 7 now c) =
        w.collateral.rows.filter fun c => ExpiresWithin 30 now c := by
      apply List.filter_congr
      intro c hc
      simp [hnone c hc]
    rw [dueNotices, hurgent, hrest, List.map_nil, List.nil_append]
    unfold noticesOf
    split
    · exact (List.perm_insertionSort _ _).map _
    · have hsoon := hqueue.resolve_left ‹_›
      rw [List.filter_eq_nil_iff.2 fun c hc h => hsoon c hc (of_decide_eq_true h)]
      exact List.Perm.refl _

/-- A run in which no statement fails returns, and its notices are right exactly when no item expires within
7 days. -/
theorem notices_iff (cfg : Config) (i : Input) (hi : i.fault = none) (w : World) :
    ∃ queued w', (checkExpiryAlerts cfg).outcome i w = (.ok queued, w') ∧
      (Notified i.now w w' ↔ NoneUrgent cfg i.now w) := by
  refine ⟨_, _, outcome_checkExpiryAlerts hi, ?_⟩
  rw [← perm_dueNotices_iff]
  constructor
  · rintro ⟨notices, hjobs, hperm⟩
    rwa [List.append_cancel_left hjobs]
  · intro hperm
    exact ⟨_, rfl, hperm⟩

/-- A guarantee that expires on the day, in a store with nothing else. -/
def expiring (date : ℤ) : World :=
  { World.empty with
    collateral := .single
      { id := 5, invoiceId := some 1, value := 60000000, isActive := true, deletedAt := none
        expiryDate := some date } }

/-- Twenty days ahead the notice is that of 30 days. -/
theorem notices_iff_distant :
    ∃ queued w', (checkExpiryAlerts {}).outcome {} (expiring 20) = (.ok queued, w') ∧
      (Notified 0 (expiring 20) w' ↔ NoneUrgent {} 0 (expiring 20)) :=
  notices_iff {} {} rfl (expiring 20)

/-- Three days ahead it is that of 30 days as well. -/
theorem urgent_not_notified :
    (checkExpiryAlerts {}).outcome {} (expiring 3) =
        (.ok 1, { expiring 3 with jobs := (expiring 3).collateral.rows.map (notice 30) }) ∧
      ∀ queued w', (checkExpiryAlerts {}).outcome {} (expiring 3) = (.ok queued, w') →
        ¬Notified 0 (expiring 3) w' := by
  have hrun : (checkExpiryAlerts {}).outcome {} (expiring 3) =
      (.ok 1, { expiring 3 with jobs := (expiring 3).collateral.rows.map (notice 30) }) := rfl
  refine ⟨hrun, ?_⟩
  rintro queued w' h ⟨notices, hjobs, hperm⟩
  obtain ⟨-, rfl⟩ := Prod.mk.inj (hrun.symm.trans h)
  obtain rfl : _ = notices := hjobs
  exact absurd (hperm.mem_iff.2 List.mem_cons_self) (by decide)

end Ris.Collateral
