import RisPlatform.Common.Histories
import RisPlatform.Settings.Service

/-!
# A change of the configuration is applied once

`approveConfigChange` asks whether the change is pending before its transaction, and neither `UPDATE` of
the transaction asks again: an approval that overlaps another one applies the change a second time, and a
key that `system_settings` does not have is approved without a setting. `appliedOnce_iff` says which runs
apply each change once and for all.
-/

namespace Ris.Settings

open Relational Concurrent

/-! ## Effects -/

/-- The rows after an approval. -/
def ConfigRows.approve (r : ConfigRows) (change : PendingConfigChangeRow) (approverId : ℕ) (t t' : ℤ) :
    ConfigRows where
  changes := r.changes.update (fun c => c.id = change.id) (Repo.setApproved approverId t)
    (Repo.id_setApproved approverId t)
  settings := r.settings.update (fun x => x.key = change.configKey)
    (Repo.setValue change.proposedValue approverId t') (Repo.key_setValue change.proposedValue approverId t')

/-- What an act does to the rows. -/
inductive ConfigEffect (l : List (Option (Did ConfigAct))) (r : ConfigRows) :
    ConfigAct → ConfigRows → Prop
  | changeRead (found : Option PendingConfigChangeRow)
      (hfound : ∀ c ∈ found, r.changes.get? c.id = some c) : ConfigEffect l r (.changeRead found) r
  | changeProposed (change : PendingConfigChangeRow) (changes : Table PendingConfigChangeRow.id)
      (hpending : change.status = .pending) (hinsert : r.changes.insert? change = some changes) :
      ConfigEffect l r (.changeProposed change) { r with changes := changes }
  | changeApproved (change : PendingConfigChangeRow) (approverId : ℕ) (t t' : ℤ)
      (hread : some (.own (.changeRead (some change))) ∈ l) (hpending : change.status = .pending)
      (hother : change.proposedBy ≠ approverId) :
      ConfigEffect l r (.changeApproved change.id approverId) (r.approve change approverId t t')

section Commit

variable {i : Input} {d d' : Db ConfigRows} {u : Unit} {l : List (Option (Did ConfigAct))}

theorem effect_of_propose {key current value : String} {userId : ℕ} {change : PendingConfigChangeRow}
    (h : Repo.createPendingConfigChange key current value userId i d = .ok (change, d')) :
    ConfigEffect l d.rows (.changeProposed change) d'.rows := by
  simp only [Repo.createPendingConfigChange, Txn.bind_ok, Db.uuid_ok, Db.read_ok] at h
  obtain ⟨_, _, ⟨-, rfl⟩, inserted, _, ⟨hinserted, rfl⟩, h⟩ := h
  cases inserted with
  | none => cases h
  | some changes =>
    simp only [Txn.bind_ok, Db.write_ok, Txn.pure_ok] at h
    obtain ⟨_, _, rfl, rfl, rfl⟩ := h
    exact .changeProposed _ changes rfl hinserted

theorem approveTx_ok {changeId approverId : ℕ} {change : PendingConfigChangeRow} {req : Request}
    (hid : change.id = changeId) (h : approveTx changeId change approverId req i d = .ok (u, d')) :
    ∃ t t', d'.rows = d.rows.approve change approverId t t' := by
  subst hid
  simp only [approveTx, Repo.approvePendingConfigChangeWithClient, Repo.setSystemSettingWithClient,
    Txn.bind_ok, Db.now_ok, Db.write_ok, Db.createAuditEntry_ok] at h
  obtain ⟨_, _, ⟨t, _, ⟨-, rfl⟩, rfl⟩, _, _, ⟨t', _, ⟨-, rfl⟩, rfl⟩, rfl⟩ := h
  exact ⟨t, t', rfl⟩

theorem validate_ok {found : Option PendingConfigChangeRow} {change : PendingConfigChangeRow}
    {changeId approverId : ℕ} (h : validateConfigChangeForApproval found changeId approverId = .ok change) :
    found = some change ∧ change.status = .pending ∧ change.proposedBy ≠ approverId := by
  unfold validateConfigChangeForApproval at h
  cases found with
  | none => cases h
  | some c =>
    dsimp only at h
    split at h
    · cases h
    split at h
    · cases h
    · obtain rfl := Except.ok.inj h
      exact ⟨rfl, not_not.1 ‹_›, ‹_›⟩

end Commit

/-- The operations do what the effects say. -/
theorem configProgram_covers : (Db.effects ConfigEffect).Covers configProgram := by
  intro op
  cases op with
  | proposeConfigChange key newValue userId req =>
    refine Proc.Does.discard ((Db.does_query _).bind fun current l _ _ => ?_)
    refine (Db.does_commit (Q := fun _ _ => True) fun i d change d' hok =>
      ⟨effect_of_propose hok, trivial⟩).bind fun change _ _ _ => ?_
    exact (Db.does_audit _).bind fun _ _ _ _ => (Db.does_log _).bind fun _ _ _ _ => Proc.does_pure trivial
  | approveConfigChange changeId approverId req =>
    have hsee : (Db.see (Repo.getPendingConfigChange changeId) .changeRead).Does (Db.effects ConfigEffect)
        (fun found l => ∀ c ∈ found, c.id = changeId ∧ some (.own (.changeRead (some c))) ∈ l) [] := by
      refine Db.does_see fun r => ⟨.changeRead _ fun c hc => ?_, fun c hc => ⟨Table.key_of_get? hc, ?_⟩⟩
      · rw [Table.key_of_get? hc]
        exact hc
      · rw [Option.mem_def.1 hc]
        exact List.mem_cons_self
    refine hsee.bind fun found l _ hfound => ?_
    refine (Proc.does_lift (Q := fun change _ => found = some change ∧ change.status = .pending ∧
      change.proposedBy ≠ approverId) fun change hok => validate_ok hok).bind fun change l' hl' hchange => ?_
    obtain ⟨rfl, hpending, hother⟩ := hchange
    obtain ⟨hid, hread⟩ := hfound change rfl
    refine (Db.does_commit (Q := fun _ _ => True) fun i d _ d' hok => ⟨?_, trivial⟩).bind
      fun _ _ _ _ => Db.does_log _
    obtain ⟨t, t', hrows⟩ := approveTx_ok hid hok
    rw [hrows, ← hid]
    exact .changeApproved change approverId t t' (hl'.subset hread) hpending hother

/-! ## The law -/

/-- The change was applied. -/
def approves (changeId : ℕ) : Option (Did ConfigAct) → Bool
  | some (.own (.changeApproved i _)) => i = changeId
  | _ => false

/-- What became of a change, for the rows `d` of the beginning: it has not been applied, and then it waits
unless it is an old one that was not pending; or it was applied once, and its row says by whom. -/
inductive Fate (d : ConfigRows) (s : State (Db ConfigRows) (Did ConfigAct)) (changeId : ℕ) : Prop
  | waiting (hhist : occurrences (approves changeId) s.hist = 0)
      (hkept : ∀ c, d.changes.get? changeId = some c → s.store.rows.changes.get? changeId = some c)
      (hpending : ∀ c, s.store.rows.changes.get? changeId = some c →
        d.changes.get? changeId = some c ∨ c.status = .pending)
  | applied (t approverId : ℕ) (c : PendingConfigChangeRow)
      (hhist : occurrences (approves changeId) s.hist = 1)
      (hcall : (t, some (.own (.changeApproved changeId approverId))) ∈ s.hist)
      (hd : ∀ c, d.changes.get? changeId = some c → c.status = .pending)
      (hrow : s.store.rows.changes.get? changeId = some c) (hstatus : c.status = .approved)
      (happrover : c.approvedBy = some approverId) (hother : c.proposedBy ≠ approverId)

/-- If the last statement approved a change, its setting has the proposed value. -/
def Effective (s : State (Db ConfigRows) (Did ConfigAct)) : Prop :=
  ∀ t changeId approverId earlier,
    s.hist = (t, some (.own (.changeApproved changeId approverId))) :: earlier →
    ∃ c ∈ s.store.rows.changes.get? changeId,
      Repo.getSystemSetting c.configKey s.store.rows = some c.proposedValue

/-- Every change is applied at most once, counting what was applied before, by another user than its
proposer, and with effect. -/
def AppliedOnce (d : ConfigRows) (s : State (Db ConfigRows) (Did ConfigAct)) : Prop :=
  (∀ changeId, Fate d s changeId) ∧ Effective s

/-- An approval commits while the change is pending and its setting is there. -/
def StillPending : Cond (Db ConfigRows) (Did ConfigAct) := fun s _ e =>
  match e with
  | .own (.changeApproved changeId _) =>
    ∃ c ∈ s.store.rows.changes.get? changeId,
      c.status = .pending ∧ (s.store.rows.settings.get? c.configKey).isSome = true
  | _ => True

instance (s : State (Db ConfigRows) (Did ConfigAct)) (t : ℕ) (e : Did ConfigAct) :
    Decidable (StillPending s t e) := by
  unfold StillPending
  split <;> infer_instance

/-! ## What was read -/

/-- The columns that are never written again. -/
def PendingConfigChangeRow.Same (c c' : PendingConfigChangeRow) : Prop :=
  c'.configKey = c.configKey ∧ c'.proposedValue = c.proposedValue ∧ c'.proposedBy = c.proposedBy

/-- A change that was read is still there, and as it was read if nobody has applied it. -/
def ReadStays (s : State (Db ConfigRows) (Did ConfigAct)) : Prop :=
  ∀ t c, (t, some (.own (.changeRead (some c)))) ∈ s.hist →
    ∃ c', s.store.rows.changes.get? c.id = some c' ∧ c.Same c' ∧
      (occurrences (approves c.id) s.hist = 0 → c' = c)

section Step

variable {d r r' : ConfigRows} {s : State (Db ConfigRows) (Did ConfigAct)} {t k : ℕ} {e : ConfigAct}
  {w : Db ConfigRows} {l : List (Option (Did ConfigAct))}

theorem get?_approve {change c : PendingConfigChangeRow} {approverId : ℕ} {t t' : ℤ}
    (hc : r.changes.get? k = some c) :
    (r.approve change approverId t t').changes.get? k =
      some (if k = change.id then Repo.setApproved approverId t c else c) := by
  have hkey : c.id = k := Table.key_of_get? hc
  rw [ConfigRows.approve, Table.get?_update, hc, Option.map_some, hkey]
  by_cases hk : k = change.id <;> simp [hk]

theorem get?_approve_of_ne {change : PendingConfigChangeRow} {approverId : ℕ} {t t' : ℤ}
    (hk : k ≠ change.id) : (r.approve change approverId t t').changes.get? k = r.changes.get? k := by
  rw [ConfigRows.approve, Table.get?_update_key_of_ne hk]

theorem readStays_keep (h : ReadStays s) {e : Option (Did ConfigAct)}
    (hread : ∀ c, e = some (.own (.changeRead (some c))) → s.store.rows.changes.get? c.id = some c)
    (happroves : ∀ k, approves k e = false)
    (hkept : ∀ k c, s.store.rows.changes.get? k = some c → w.rows.changes.get? k = some c) :
    ReadStays (s.record t e w) := by
  intro u c hc
  rcases List.mem_cons.1 hc with hnew | hold
  · obtain ⟨-, heq⟩ := Prod.mk.inj hnew
    exact ⟨c, hkept c.id c (hread c heq.symm), ⟨rfl, rfl, rfl⟩, fun _ => rfl⟩
  · obtain ⟨c', hc', hsame, hnone⟩ := h u c hold
    refine ⟨c', hkept c.id c' hc', hsame, fun hcount => hnone ?_⟩
    rwa [State.record_hist, occurrences_cons_of_not (happroves c.id)] at hcount

theorem readStays_step (h : ReadStays s) (he : ConfigEffect l s.store.rows e r') (hw : w.rows = r') :
    ReadStays (s.record t (some (.own e)) w) := by
  cases he with
  | changeRead found hfound =>
    refine readStays_keep h (fun c heq => ?_) (fun _ => rfl) fun k c hc => by rw [hw]; exact hc
    obtain rfl := ConfigAct.changeRead.inj (Did.own.inj (Option.some.inj heq))
    exact hfound c rfl
  | changeProposed change changes hpending hinsert =>
    refine readStays_keep h nofun (fun _ => rfl) fun k c hc => ?_
    rw [hw]
    exact Table.get?_insert?_of_get? hinsert hc
  | changeApproved change approverId u u' hread hpending hother =>
    intro v c hc
    have hold : (v, some (.own (.changeRead (some c)))) ∈ s.hist :=
      (List.mem_cons.1 hc).resolve_left fun heq => by cases heq
    obtain ⟨c', hc', hsame, hnone⟩ := h v c hold
    have hrow : w.rows.changes.get? c.id =
        some (if c.id = change.id then Repo.setApproved approverId u c' else c') := by
      rw [hw]
      exact get?_approve hc'
    refine ⟨_, hrow, ?_, fun hcount => ?_⟩
    · split
      · exact hsame
      · exact hsame
    · by_cases hid : c.id = change.id
      · rw [State.record_hist, occurrences_cons_of_pos (decide_eq_true hid.symm)] at hcount
        cases hcount
      · rw [State.record_hist, occurrences_cons_of_not (decide_eq_false fun h => hid h.symm)] at hcount
        rw [if_neg hid]
        exact hnone hcount

/-! ## One statement -/

/-- A statement that does not write the change leaves what became of it. -/
theorem Fate.keep (h : Fate d s k) {e : Option (Did ConfigAct)} (he : approves k e = false)
    (hrow : w.rows.changes.get? k = s.store.rows.changes.get? k) : Fate d (s.record t e w) k := by
  have hcount : occurrences (approves k) (s.record t e w).hist = occurrences (approves k) s.hist :=
    occurrences_cons_of_not he t
  cases h with
  | waiting hhist hkept hpending =>
    refine .waiting (hcount.trans hhist) (fun c hc => hrow.trans (hkept c hc)) fun c hc => ?_
    exact hpending c (hrow.symm.trans hc)
  | applied u approverId c hhist hcall hd hrow' hstatus happrover hother =>
    exact .applied u approverId c (hcount.trans hhist) (List.mem_cons_of_mem _ hcall) hd
      (hrow.trans hrow') hstatus happrover hother

/-- A new change waits. -/
theorem Fate.propose (h : Fate d s k) {change : PendingConfigChangeRow}
    {changes : Table PendingConfigChangeRow.id} (hpending : change.status = .pending)
    (hinsert : s.store.rows.changes.insert? change = some changes) (hw : w.rows.changes = changes) :
    Fate d (s.record t (some (.own (.changeProposed change))) w) k := by
  by_cases hk : k = change.id
  · subst hk
    have hfresh : s.store.rows.changes.get? change.id = none := Table.get?_insert?_fresh hinsert
    have hrow : w.rows.changes.get? change.id = some change := by
      rw [hw, Table.get?_insert? hinsert, if_pos rfl]
    cases h with
    | waiting hhist hkept hpending' =>
      refine .waiting hhist (fun c hc => ?_) fun c hc => Or.inr ?_
      · rw [hkept c hc] at hfresh
        cases hfresh
      · obtain rfl := Option.some.inj (hrow.symm.trans hc)
        exact hpending
    | applied u approverId c hhist hcall hd hrow' =>
      rw [hrow'] at hfresh
      cases hfresh
  · refine h.keep rfl ?_
    rw [hw, Table.get?_insert? hinsert, if_neg hk]

/-- An approval of a pending change applies it. -/
theorem Fate.approve (h : Fate d s k) {approverId : ℕ} {c : PendingConfigChangeRow}
    (hc : s.store.rows.changes.get? k = some c) (hpending : c.status = .pending)
    (hother : c.proposedBy ≠ approverId) {u : ℤ}
    (hrow : w.rows.changes.get? k = some (Repo.setApproved approverId u c)) :
    Fate d (s.record t (some (.own (.changeApproved k approverId))) w) k := by
  cases h with
  | waiting hhist hkept hpending' =>
    refine .applied t approverId _ ?_ List.mem_cons_self (fun c₀ hc₀ => ?_) hrow rfl rfl hother
    · rw [State.record_hist, occurrences_cons_of_pos (decide_eq_true rfl), hhist]
    · obtain rfl := Option.some.inj ((hkept c₀ hc₀).symm.trans hc)
      exact hpending
  | applied v approver c' hhist hcall hd hrow' hstatus =>
    obtain rfl := Option.some.inj (hrow'.symm.trans hc)
    rw [hstatus] at hpending
    cases hpending

/-- Only an approval of a change that has not been applied leaves it applied once. -/
theorem Fate.unapplied {approverId : ℕ}
    (h : Fate d (s.record t (some (.own (.changeApproved k approverId))) w) k) :
    occurrences (approves k) s.hist = 0 := by
  have hcount : occurrences (approves k) (s.record t (some (.own (.changeApproved k approverId))) w).hist =
      occurrences (approves k) s.hist + 1 := occurrences_cons_of_pos (decide_eq_true rfl) t
  cases h with
  | waiting hhist => omega
  | applied u approver c hhist => omega

theorem effective_of_not {e : Option (Did ConfigAct)} (he : ∀ k, approves k e = false) :
    Effective (s.record t e w) := by
  intro u changeId approverId earlier heq
  obtain ⟨-, rfl⟩ := Prod.mk.inj (List.cons.inj heq).1
  exact absurd (he changeId) (by simp [approves])

/-- The setting has the value, if there is a setting. -/
theorem getSystemSetting_approve (change : PendingConfigChangeRow) (approverId : ℕ) (u u' : ℤ) :
    Repo.getSystemSetting change.configKey (r.approve change approverId u u') =
      (r.settings.get? change.configKey).map fun _ => change.proposedValue := by
  rw [Repo.getSystemSetting, ConfigRows.approve, Table.get?_update_key, Option.map_map]
  rfl

/-- The step lemma: the condition decides whether every change is still applied at most once. -/
theorem appliedOnce_step (h : AppliedOnce d s) (hread : ReadStays s)
    (he : ConfigEffect (own t s.hist) s.store.rows e r') (hw : w.rows = r') :
    AppliedOnce d (s.record t (some (.own e)) w) ↔ StillPending s t (.own e) := by
  cases he with
  | changeRead found hfound =>
    exact iff_of_true ⟨fun k => (h.1 k).keep rfl (by rw [hw]), effective_of_not fun _ => rfl⟩ trivial
  | changeProposed change changes hpending hinsert =>
    exact iff_of_true ⟨fun k => (h.1 k).propose hpending hinsert (by rw [hw]), effective_of_not fun _ => rfl⟩
      trivial
  | changeApproved change approverId u u' hseen hpending hother =>
    obtain ⟨c', hc', ⟨hkey, hvalue, hproposer⟩, hnone⟩ := hread t change (mem_own.1 hseen)
    have hrow : w.rows.changes.get? change.id = some (Repo.setApproved approverId u c') := by
      rw [hw, get?_approve hc', if_pos rfl]
    have hsetting : Repo.getSystemSetting change.configKey w.rows =
        (s.store.rows.settings.get? change.configKey).map fun _ => change.proposedValue := by
      rw [hw]
      exact getSystemSetting_approve change approverId u u'
    constructor
    · rintro ⟨hfates, heffective⟩
      obtain rfl := hnone (hfates change.id).unapplied
      obtain ⟨c, hc, heff⟩ := heffective t c'.id approverId s.hist rfl
      obtain rfl : Repo.setApproved approverId u c' = c := Option.some.inj (hrow.symm.trans hc)
      refine ⟨c', hc', hpending, ?_⟩
      have hsome := hsetting.symm.trans heff
      cases hx : s.store.rows.settings.get? c'.configKey with
      | none =>
        rw [hx] at hsome
        cases hsome
      | some x => rfl
    · rintro ⟨c, hc, hcpending, hsome⟩
      obtain rfl : c' = c := Option.some.inj (hc'.symm.trans hc)
      constructor
      · intro k
        by_cases hk : k = change.id
        · subst hk
          exact (h.1 _).approve hc' hcpending (hproposer ▸ hother) hrow
        · refine (h.1 k).keep (decide_eq_false fun hid => hk hid.symm) ?_
          rw [hw, get?_approve_of_ne hk]
      · intro v changeId approver earlier heq
        obtain ⟨-, heq⟩ := Prod.mk.inj (List.cons.inj heq).1
        obtain ⟨rfl, rfl⟩ := ConfigAct.changeApproved.inj (Did.own.inj (Option.some.inj heq))
        refine ⟨_, hrow, ?_⟩
        show Repo.getSystemSetting c'.configKey w.rows = some c'.proposedValue
        rw [hkey] at hsome ⊢
        obtain ⟨x, hx⟩ := Option.isSome_iff_exists.1 hsome
        rw [hsetting, hx, hvalue]
        rfl

end Step

/-! ## Runs -/

/-- The runs on which every change is applied at most once, by another user than its proposer, with the
setting written in the same transaction, are the runs whose approvals commit on a pending change of a
setting that is there. -/
theorem appliedOnce_iff (d : Db ConfigRows) (s : Sys (Db ConfigRows) Input (Did ConfigAct) RisError) :
    Relation.ReflTransGen (fun s s' => Step configProgram always s s' ∧ AppliedOnce d.rows s'.toState)
        (Sys.init d) s ↔
      Reaches configProgram StillPending (Sys.init d) s := by
  refine Effects.runs_iff_beside (P := AppliedOnce d.rows) (J := ReadStays) configProgram_covers ?_ ?_ ?_ ?_ ?_
    ?_ s
  · exact fun s t h => ⟨fun k => (h.1 k).keep rfl rfl, effective_of_not fun _ => rfl⟩
  · refine ⟨fun k => .waiting rfl (fun c hc => hc) fun c hc => Or.inl hc, ?_⟩
    intro t changeId approverId earlier heq
    cases heq
  · exact fun s t h => readStays_keep h nofun (fun _ => rfl) fun _ _ hc => hc
  · exact fun t c hc => absurd hc List.not_mem_nil
  · intro s t e w h heff
    cases e with
    | own e => exact readStays_step h heff rfl
    | _ =>
      have hrows : w.rows = s.store.rows := heff
      exact readStays_keep h nofun (fun _ => rfl) fun _ _ hc => by rw [hrows]; exact hc
  · intro s t e w h hread heff
    cases e with
    | own e => exact appliedOnce_step h hread heff rfl
    | _ =>
      have hrows : w.rows = s.store.rows := heff
      exact iff_of_true ⟨fun k => (h.1 k).keep rfl (by rw [hrows]), effective_of_not fun _ => rfl⟩ trivial

/-! ## Two approvals that overlap -/

/-- Two changes of user 10, the second of a setting that is not there. -/
def sampleChanges : Db ConfigRows where
  rows :=
    { settings := .single { key := "max_annual_discount_rate", value := "0.15" }
      changes :=
        { rows :=
            [{ id := 1, configKey := "max_annual_discount_rate", currentValue := some "0.15",
               proposedValue := "0.18", proposedBy := 10 },
              { id := 2, configKey := "max_tenor_days", currentValue := some "", proposedValue := "120",
                proposedBy := 10 }]
          keys_nodup := by decide } }

/-- Users 20 and 30 both read the pending change, and both apply it: the recorded approver changes. The
change of the setting that is not there is approved and leaves none. -/
theorem applied_twice :
    (∃ s s', Reaches configProgram always (Sys.init sampleChanges) s ∧
      Reaches configProgram always s s' ∧
      (s.store.rows.changes.get? 1).map PendingConfigChangeRow.approvedBy = some (some 20) ∧
      (s'.store.rows.changes.get? 1).map PendingConfigChangeRow.approvedBy = some (some 30) ∧
      occurrences (approves 1) s'.hist = 2) ∧
    ∃ s, Reaches configProgram always (Sys.init sampleChanges) s ∧
      (s.store.rows.changes.get? 2).map PendingConfigChangeRow.status = some .approved ∧
      Repo.getSystemSetting "max_tenor_days" s.store.rows = none := by
  constructor
  · obtain ⟨s, s', hs, hs', hP⟩ := exists_reaches_reaches configProgram always (Sys.init sampleChanges)
      [.start (.approveConfigChange 1 20 {}), .start (.approveConfigChange 1 30 {}), .move 0 {}, .move 1 {},
        .move 0 {}]
      [.move 1 {}]
      (fun s s' =>
        (s.store.rows.changes.get? 1).map PendingConfigChangeRow.approvedBy = some (some 20) ∧
          (s'.store.rows.changes.get? 1).map PendingConfigChangeRow.approvedBy = some (some 30) ∧
          occurrences (approves 1) s'.hist = 2)
      (by decide)
    exact ⟨s, s', hs, hs', of_decide_eq_true hP⟩
  · obtain ⟨s, hs, hP⟩ := exists_reaches configProgram always (Sys.init sampleChanges)
      (Act.call (.approveConfigChange 2 20 {}) 0 (List.replicate 3 ({} : Input)))
      (fun s =>
        (s.store.rows.changes.get? 2).map PendingConfigChangeRow.status = some .approved ∧
          Repo.getSystemSetting "max_tenor_days" s.store.rows = none)
      (by decide)
    exact ⟨s, hs, of_decide_eq_true hP⟩

end Ris.Settings
