import RisPlatform.Common.Histories
import RisPlatform.Db

/-!
# `risk-config.ts`: a cache in front of a table

The risk configuration is read through a cache in memory, which is loaded with all rows of `risk_config` when
it is empty or older than five minutes, and which an update by an administrator empties. Nothing keeps a load
that is under way from storing rows that it had read before the update.

So what is served is always what the table had at some earlier moment of the run, or a default
(`served_from_table`); and an update is seen by everyone from the moment on at which the cache is empty and no
load with older rows is under way (`update_served`).
-/

namespace Ris.RiskConfig

open Relational Concurrent

/-! ## Rows -/

/-- A row of `risk_config`. -/
structure RiskConfigRow where
  key : String
  value : String
  description : String
  updatedAt : ℤ
  /-- The administrator; without one it is `'SYSTEM'`. -/
  updatedBy : Option ℕ
  deriving DecidableEq

/-- `Map<string, string>` -/
abbrev ConfigMap : Type := List (String × String)

/-- `DEFAULTS` -/
def defaults : ConfigMap :=
  [("weight_buyer_credit", "0.30"), ("weight_tenor", "0.20"), ("weight_track_record", "0.20"),
    ("weight_concentration", "0.15"), ("weight_collateral", "0.15"), ("threshold_auto_approve", "75"),
    ("threshold_refer_manager", "50"), ("advance_pct_high", "0.95"), ("advance_pct_mid", "0.90"),
    ("advance_pct_low", "0.85"), ("premium_score_80_plus", "0"), ("premium_score_70_79", "0.005"),
    ("premium_score_60_69", "0.01"), ("premium_score_50_59", "0.015"), ("tier3_auto_reject_threshold", "3")]

/-- `CACHE_TTL_MS` -/
def cacheTtlMs : ℤ := 300000

/-- The table, and the variables of the module. -/
structure ConfigStore where
  table : Table RiskConfigRow.key
  cache : Option ConfigMap := none
  cacheLoadedAt : ℤ := 0

/-- The acts of the calls. -/
inductive ConfigAct
  | configMissed
  | configServed (key value : String) (now : ℤ)
  | rowsRead (rows : List RiskConfigRow)
  | cacheLoaded (map : ConfigMap) (now : ℤ)
  | cacheDefaulted (now : ℤ)
  | configFound (found : Option RiskConfigRow)
  | configUpdated (key value : String)
  | updateMissed (key : String)
  | cacheInvalidated
  deriving DecidableEq

abbrev ConfigTx : Type → Type := Db.Tx ConfigStore

abbrev ConfigCall : Type → Type := Db.Call ConfigStore ConfigAct

/-! ## `risk-config.ts` -/

/-- The rows, and the defaults of the keys that they do not have. -/
def mergeDefaults (rows : List RiskConfigRow) : ConfigMap :=
  let map := rows.map fun row => (row.key, row.value)
  map ++ defaults.filter fun kv => (map.lookup kv.1).isNone

/-- `loaded.get(key) ?? DEFAULTS[key] ?? '0'` -/
def valueIn (loaded : ConfigMap) (key : String) : String := ((loaded.lookup key).or (defaults.lookup key)).getD "0"

/-- What is done without a statement: nothing lies between its parts, and it cannot fail. -/
def inMemory {α : Type} (body : ConfigTx α) (done : α → ConfigAct) : ConfigCall α :=
  .transaction body (fun a => .own (done a)) fun _ => .threw

/-- `cache = map; cacheLoadedAt = Date.now()` -/
def storeCache (map : ConfigMap) : ConfigTx ℤ := do
  let now ← Db.now
  Db.write fun r => { r with cache := some map, cacheLoadedAt := now }
  return now

def loadRiskConfig : ConfigCall Unit :=
  tryCatch
    (do
      let rows ← Db.see (fun r => r.table.rows) .rowsRead
      let _ ← inMemory (storeCache (mergeDefaults rows)) (.cacheLoaded (mergeDefaults rows))
      return ())
    fun _ => do
      Db.log "Failed to load risk_config from DB — using defaults"
      let _ ← inMemory (storeCache defaults) .cacheDefaulted
      return ()

/-- The cache, unless `!cache || Date.now() - cacheLoadedAt > CACHE_TTL_MS`. -/
def ConfigStore.usable (r : ConfigStore) (now : ℤ) : Option ConfigMap :=
  if cacheTtlMs < now - r.cacheLoadedAt then none else r.cache

/-- The value in the cache, if it is usable. -/
def checkCache (key : String) : ConfigTx (Option String × ℤ) := do
  let now ← Db.now
  let cached ← Db.read fun r => r.usable now
  return (cached.map fun loaded => valueIn loaded key, now)

/-- The value after a load; another call may have emptied the cache again. -/
def readCache (key : String) : ConfigTx (String × ℤ) := do
  let now ← Db.now
  match ← Db.read ConfigStore.cache with
  | none => Txn.abort (.runtime "Cannot read properties of null (reading 'get')")
  | some loaded => return (valueIn loaded key, now)

def checkAct (key : String) (outcome : Option String × ℤ) : ConfigAct :=
  outcome.1.elim .configMissed fun value => .configServed key value outcome.2

/-- The value of a cache that had to be loaded. -/
def getLoadedValue (key : String) : ConfigCall String := do
  loadRiskConfig
  let served ← inMemory (readCache key) fun served => .configServed key served.1 served.2
  return served.1

def getRiskConfigValue (key : String) : ConfigCall String := do
  let outcome ← inMemory (checkCache key) (checkAct key)
  match outcome.1 with
  | some value => return value
  | none => getLoadedValue key

def invalidateRiskConfigCache : ConfigCall Unit :=
  inMemory (Db.write fun r => { r with cache := none, cacheLoadedAt := 0 }) fun _ => .cacheInvalidated

/-! ## `admin.service.ts` -/

inductive RiskConfigCategory
  | weight | threshold | limit | rate
  deriving DecidableEq

def deriveCategory (key : String) : RiskConfigCategory :=
  if key.startsWith "weight_" then .weight
  else if key.startsWith "threshold_" then .threshold
  else if key.startsWith "advance_pct_" then .limit
  else .rate

structure RiskConfigEntry where
  key : String
  value : String
  description : String
  category : RiskConfigCategory
  lastUpdated : ℤ
  updatedBy : Option ℕ

def mapRowToRiskConfig (row : RiskConfigRow) : RiskConfigEntry where
  key := row.key
  value := row.value
  description := row.description
  category := deriveCategory row.key
  lastUpdated := row.updatedAt
  updatedBy := row.updatedBy

namespace Repo

def findRiskConfigByKey (key : String) (r : ConfigStore) : Option RiskConfigRow := r.table.get? key

def setValue (value : String) (updatedBy : ℕ) (now : ℤ) (row : RiskConfigRow) : RiskConfigRow :=
  { row with value := value, updatedBy := some updatedBy, updatedAt := now }

theorem key_setValue (value : String) (updatedBy : ℕ) (now : ℤ) (row : RiskConfigRow) :
    (setValue value updatedBy now row).key = row.key := rfl

/-- The updated row, if there is one. -/
def updateRiskConfig (key value : String) (updatedBy : ℕ) : ConfigTx (Option RiskConfigRow) := do
  let now ← Db.now
  Db.write fun r =>
    { r with
      table := r.table.update (fun row => row.key = key) (setValue value updatedBy now)
        (key_setValue value updatedBy now) }
  Db.read fun r => r.table.get? key

end Repo

def requireConfig (existing : Option RiskConfigRow) : Except RisError RiskConfigRow :=
  match existing with
  -- the id of the error is the key
  | none => throw (.notFound "RiskConfig" 0)
  | some existing => pure existing

def updateAct (key value : String) (row : Option RiskConfigRow) : ConfigAct :=
  if row.isSome then .configUpdated key value else .updateMissed key

def updateAudit (key value oldValue : String) (adminId : ℕ) (req : Request) : AuditLog where
  userId := some adminId
  action := "ADMIN_RISK_CONFIG_UPDATED"
  tableName := "risk_config"
  recordId := .text key
  oldValues := [("value", .text oldValue)]
  newValues := [("value", .text value)]
  ipAddress := req.ipAddress
  userAgent := req.userAgent

/-- The entry of the updated row. -/
def requireUpdated (row : Option RiskConfigRow) : Except RisError RiskConfigEntry :=
  match row with
  | none => throw (.runtime "Cannot read properties of undefined (reading 'key')")
  | some row => pure (mapRowToRiskConfig row)

/-- `value` is the text of the number. -/
def updateRiskConfig (key value : String) (adminId : ℕ) (req : Request) : ConfigCall RiskConfigEntry := do
  let existing ← Db.see (Repo.findRiskConfigByKey key) .configFound
  let existing ← monadLift (requireConfig existing)
  let row ← Db.transaction (Repo.updateRiskConfig key value adminId) (updateAct key value)
  invalidateRiskConfigCache
  Db.audit (updateAudit key value existing.value adminId req)
  Db.log "Admin updated risk config"
  monadLift (requireUpdated row)

/-! ## The system -/

inductive Op
  | getRiskConfigValue (key : String)
  | updateRiskConfig (key value : String) (adminId : ℕ) (req : Request)

/-- The body of each operation. -/
def program : Op → ConfigCall Unit
  | .getRiskConfigValue key => (getRiskConfigValue key).discard
  | .updateRiskConfig key value adminId req => (updateRiskConfig key value adminId req).discard

/-! ## Effects -/

/-- The rows of a load that has not stored them yet: what the call did last is to read them. -/
def rowsHeld : Db.Deeds ConfigAct → Option (List RiskConfigRow)
  | some (.own (.rowsRead rows)) :: _ => some rows
  | _ => none

/-- What an act does to the table and the cache. -/
inductive ConfigEffect (l : Db.Deeds ConfigAct) (r : ConfigStore) : ConfigAct → ConfigStore → Prop
  | configMissed : ConfigEffect l r .configMissed r
  | configServed (key : String) (loaded : ConfigMap) (now : ℤ) (hcache : r.cache = some loaded)
      (hage : now - r.cacheLoadedAt ≤ cacheTtlMs ∨ some (.own .configMissed) ∈ l) :
      ConfigEffect l r (.configServed key (valueIn loaded key) now) r
  | rowsRead : ConfigEffect l r (.rowsRead r.table.rows) r
  | cacheLoaded (rows : List RiskConfigRow) (now : ℤ) (hread : rowsHeld l = some rows) :
      ConfigEffect l r (.cacheLoaded (mergeDefaults rows) now)
        { r with cache := some (mergeDefaults rows), cacheLoadedAt := now }
  | cacheDefaulted (now : ℤ) :
      ConfigEffect l r (.cacheDefaulted now) { r with cache := some defaults, cacheLoadedAt := now }
  | configFound (found : Option RiskConfigRow) : ConfigEffect l r (.configFound found) r
  | configUpdated (key value : String) (table : Table RiskConfigRow.key)
      (hvalue : (table.get? key).map RiskConfigRow.value = some value)
      (hother : ∀ k ≠ key, table.get? k = r.table.get? k) :
      ConfigEffect l r (.configUpdated key value) { r with table := table }
  | updateMissed (key : String) (table : Table RiskConfigRow.key) (hsame : ∀ k, table.get? k = r.table.get? k) :
      ConfigEffect l r (.updateMissed key) { r with table := table }
  | cacheInvalidated : ConfigEffect l r .cacheInvalidated { r with cache := none, cacheLoadedAt := 0 }

section Commit

variable {i : Input} {d d' : Db ConfigStore} {l : Db.Deeds ConfigAct} {key value : String}

theorem does_inMemory {α : Type} {body : ConfigTx α} {done : α → ConfigAct}
    {Q : α → Db.Deeds ConfigAct → Prop}
    (h : ∀ i d a d', body i d = .ok (a, d') →
      ConfigEffect l d.rows (done a) d'.rows ∧ Q a (some (.own (done a)) :: l)) :
    (inMemory body done).Does (Db.effects ConfigEffect) Q l :=
  Proc.does_transaction h fun _ _ _ _ => rfl

theorem effect_of_check {outcome : Option String × ℤ} (h : checkCache key i d = .ok (outcome, d')) :
    ConfigEffect l d.rows (checkAct key outcome) d'.rows := by
  simp only [checkCache, Txn.bind_ok, Db.now_ok, Db.read_ok, Txn.pure_ok] at h
  obtain ⟨now, _, ⟨-, rfl⟩, cached, _, ⟨hcached, rfl⟩, rfl, rfl⟩ := h
  cases cached with
  | none => exact .configMissed
  | some loaded =>
    rw [ConfigStore.usable] at hcached
    split at hcached
    · cases hcached
    · next hage => exact .configServed key loaded now hcached (Or.inl (Int.not_lt.1 hage))

theorem effect_of_readCache {served : String × ℤ} (hmissed : some (.own .configMissed) ∈ l)
    (h : readCache key i d = .ok (served, d')) :
    ConfigEffect l d.rows (.configServed key served.1 served.2) d'.rows := by
  simp only [readCache, Txn.bind_ok, Db.now_ok, Db.read_ok] at h
  obtain ⟨now, _, ⟨-, rfl⟩, cache, _, ⟨hcache, rfl⟩, h⟩ := h
  cases cache with
  | none => cases h
  | some loaded =>
    simp only [Txn.pure_ok] at h
    obtain ⟨rfl, rfl⟩ := h
    exact .configServed key loaded now hcache (Or.inr hmissed)

theorem storeCache_ok {map : ConfigMap} {now : ℤ} (h : storeCache map i d = .ok (now, d')) :
    d'.rows = { d.rows with cache := some map, cacheLoadedAt := now } := by
  simp only [storeCache, Txn.bind_ok, Db.now_ok, Db.write_ok, Txn.pure_ok] at h
  obtain ⟨_, _, ⟨-, rfl⟩, _, _, rfl, rfl, rfl⟩ := h
  rfl

theorem effect_of_update {adminId : ℕ} {row : Option RiskConfigRow}
    (h : Repo.updateRiskConfig key value adminId i d = .ok (row, d')) :
    ConfigEffect l d.rows (updateAct key value row) d'.rows := by
  simp only [Repo.updateRiskConfig, Txn.bind_ok, Db.now_ok, Db.write_ok, Db.read_ok] at h
  obtain ⟨now, _, ⟨-, rfl⟩, _, _, rfl, hrow, rfl⟩ := h
  have hother : ∀ k ≠ key, (d.rows.table.update (fun row => row.key = key) (Repo.setValue value adminId now)
      (Repo.key_setValue value adminId now)).get? k = d.rows.table.get? k :=
    fun k hk => Table.get?_update_key_of_ne hk
  have hkey : row = (d.rows.table.get? key).map (Repo.setValue value adminId now) := by
    rw [← hrow, Table.get?_update_key]
  cases hold : d.rows.table.get? key with
  | none =>
    obtain rfl : row = none := by rw [hkey, hold, Option.map_none]
    refine .updateMissed key _ fun k => ?_
    by_cases hk : k = key
    · rw [hk, hold]
      exact hrow
    · exact hother k hk
  | some old =>
    obtain rfl : row = some (Repo.setValue value adminId now old) := by rw [hkey, hold, Option.map_some]
    exact .configUpdated key value _ (congrArg (Option.map RiskConfigRow.value) hrow) hother

theorem does_storeCache {map : ConfigMap} {done : ℤ → ConfigAct}
    (h : ∀ r now, ConfigEffect l r (done now) { r with cache := some map, cacheLoadedAt := now }) :
    (inMemory (storeCache map) done).Does (Db.effects ConfigEffect) (fun _ _ => True) l := by
  refine does_inMemory fun i d now d' hok => ⟨?_, trivial⟩
  rw [storeCache_ok hok]
  exact h d.rows now

theorem does_loadRiskConfig :
    loadRiskConfig.Does (Db.effects ConfigEffect) (fun _ _ => True) l := by
  refine Proc.Does.tryCatch ?_ fun e l' _ => ?_
  · have hsee : (Db.see (fun r => r.table.rows) .rowsRead).Does (Db.effects ConfigEffect)
        (fun rows l => rowsHeld l = some rows) l := Db.does_see fun r => ⟨.rowsRead, rfl⟩
    refine hsee.bind fun rows l' _ hread => ?_
    exact (does_storeCache fun r now => .cacheLoaded rows now hread).bind fun _ _ _ _ => Proc.does_pure trivial
  · exact (Db.does_log _).bind fun _ _ _ _ =>
      (does_storeCache fun r now => .cacheDefaulted now).bind fun _ _ _ _ => Proc.does_pure trivial

end Commit

/-- The operations do what the effects say. -/
theorem program_covers : (Db.effects ConfigEffect).Covers program := by
  intro op
  cases op with
  | getRiskConfigValue key =>
    refine Proc.Does.discard ?_
    have hcheck : (inMemory (checkCache key) (checkAct key)).Does (Db.effects ConfigEffect)
        (fun outcome l => outcome.1 = none → some (.own .configMissed) ∈ l) [] := by
      refine does_inMemory fun i d outcome d' hok => ⟨effect_of_check hok, fun hnone => ?_⟩
      rw [checkAct, hnone]
      exact List.mem_cons_self
    refine hcheck.bind fun outcome l _ hmissed => ?_
    obtain ⟨cached, now⟩ := outcome
    cases cached with
    | some value => exact Proc.does_pure trivial
    | none =>
      refine does_loadRiskConfig.bind fun _ l' hl' _ => ?_
      refine (does_inMemory (Q := fun _ _ => True) fun i d served d' hok =>
        ⟨effect_of_readCache (hl'.subset (hmissed rfl)) hok, trivial⟩).bind fun _ _ _ _ => Proc.does_pure trivial
  | updateRiskConfig key value adminId req =>
    refine Proc.Does.discard ?_
    refine (Db.does_see (Q := fun _ _ => True) fun r => ⟨.configFound _, trivial⟩).bind fun existing _ _ _ => ?_
    refine (Proc.does_lift (Q := fun _ _ => True) fun _ _ => trivial).bind fun existing _ _ _ => ?_
    refine (Db.does_commit (Q := fun _ _ => True) fun i d row d' hok => ⟨effect_of_update hok, trivial⟩).bind
      fun row _ _ _ => ?_
    refine (does_inMemory (Q := fun _ _ => True) fun i d _ d' hok => ⟨?_, trivial⟩).bind fun _ _ _ _ => ?_
    · obtain rfl := Db.write_ok.1 hok
      exact .cacheInvalidated
    · exact (Db.does_audit _).bind fun _ _ _ _ => (Db.does_log _).bind fun _ _ _ _ =>
        Proc.does_lift fun _ _ => trivial

/-! ## What the table says -/

/-- The value of the key in the table, or its default. -/
def stored (table : Table RiskConfigRow.key) (key : String) : String :=
  (((table.get? key).map RiskConfigRow.value).or (defaults.lookup key)).getD "0"

/-- What a history entry sets the key to. -/
def updateOf (key : String) : Option (Did ConfigAct) → Option String
  | some (.own (.configUpdated k value)) => if k = key then some value else none
  | _ => none

/-- The value of the key in the table after the history, newest first, of a run from `table`. -/
def storedAfter (table : Table RiskConfigRow.key) (key : String) (hist : Db.History ConfigAct) :
    String :=
  (hist.findSome? fun x => updateOf key x.2).getD (stored table key)

section Stored

variable {table : Table RiskConfigRow.key} {key value : String}

theorem lookup_rows (rows : List RiskConfigRow) (key : String) :
    (rows.map fun row => (row.key, row.value)).lookup key =
      (rows.find? fun row => row.key = key).map RiskConfigRow.value := by
  induction rows with
  | nil => rfl
  | cons row rows ih =>
    rw [List.map_cons, List.lookup_cons]
    by_cases hkey : row.key = key
    · simp [hkey]
    · have hne : (key == row.key) = false := by simpa using fun h => hkey h.symm
      rw [hne, List.find?_cons_of_neg (by simpa using hkey), ih]

/-- A filter on the key keeps what is looked up. -/
theorem lookup_filter {p : String → Bool} (hp : p key = true) (m : ConfigMap) :
    (m.filter fun kv => p kv.1).lookup key = m.lookup key := by
  induction m with
  | nil => rfl
  | cons kv m ih =>
    rw [List.filter_cons, List.lookup_cons]
    by_cases hkey : key = kv.1
    · rw [← hkey, hp, if_pos rfl, List.lookup_cons, ← hkey, beq_self_eq_true]
    · have hne : (key == kv.1) = false := by simpa using hkey
      split
      · rw [List.lookup_cons, hne, ih]
      · rw [ih, hne]

/-- A map that was loaded says what the table says. -/
theorem valueIn_mergeDefaults (table : Table RiskConfigRow.key) (key : String) :
    valueIn (mergeDefaults table.rows) key = stored table key := by
  have hrows : ((table.rows.map fun row => (row.key, row.value)).lookup key) =
      (table.get? key).map RiskConfigRow.value := lookup_rows table.rows key
  rw [valueIn, mergeDefaults, List.lookup_append, stored, hrows]
  cases hget : (table.get? key).map RiskConfigRow.value with
  | some value => rfl
  | none =>
    rw [lookup_filter (p := fun k => ((table.rows.map fun row => (row.key, row.value)).lookup k).isNone)
      (by rw [hrows, hget]; rfl), Option.none_or, Option.or_self]

/-- What an act does to the value of a key, -/
theorem ConfigEffect.stored {l : Db.Deeds ConfigAct} {r r' : ConfigStore} {a : ConfigAct}
    (h : ConfigEffect l r a r') (key : String) :
    RiskConfig.stored r'.table key = (updateOf key (some (.own a))).getD (RiskConfig.stored r.table key) := by
  cases h with
  | configUpdated k value table hvalue hother =>
    rw [updateOf]
    split
    · next hk => rw [RiskConfig.stored, ← hk, hvalue]; rfl
    · next hk => rw [RiskConfig.stored, hother key (Ne.symm hk)]; rfl
  | updateMissed k table hsame =>
    rw [RiskConfig.stored, hsame key]
    rfl
  | _ => rfl

/-- and where it has the map from that is in the cache. -/
theorem ConfigEffect.cached {l : Db.Deeds ConfigAct} {r r' : ConfigStore} {a : ConfigAct} {map : ConfigMap}
    (h : ConfigEffect l r a r') (hmap : r'.cache = some map) :
    (r.cache = some map ∧ r'.cacheLoadedAt = r.cacheLoadedAt) ∨
      (∃ rows, rowsHeld l = some rows ∧ map = mergeDefaults rows ∧ a = .cacheLoaded map r'.cacheLoadedAt) ∨
        map = defaults ∧ a = .cacheDefaulted r'.cacheLoadedAt := by
  cases h with
  | cacheLoaded rows now hread =>
    obtain rfl := Option.some.inj hmap
    exact Or.inr (Or.inl ⟨rows, hread, rfl, rfl⟩)
  | cacheDefaulted now => exact Or.inr (Or.inr ⟨(Option.some.inj hmap).symm, rfl⟩)
  | cacheInvalidated => cases hmap
  | _ => exact Or.inl ⟨hmap, rfl⟩

theorem storedAfter_cons (t : ℕ) (o : Option (Did ConfigAct)) (hist : Db.History ConfigAct) :
    storedAfter table key ((t, o) :: hist) = ((updateOf key o).getD (storedAfter table key hist)) := by
  rw [storedAfter, List.findSome?_cons]
  cases updateOf key o <;> rfl

end Stored

/-! ## Where a value comes from -/

/-- Where a served value comes from: a load that had read the table at an earlier moment, or one that had failed.
The load ended five minutes before at most, or the call found the cache unusable and had to wait for one. -/
inductive Sourced (start : Table RiskConfigRow.key) (earlier : Db.History ConfigAct) (t : ℕ)
    (key value : String) (now : ℤ) : Prop
  | loaded (u : ℕ) (map : ConfigMap) (loadedAt : ℤ) (before older : Db.History ConfigAct)
      (hload : (u, some (.own (.cacheLoaded map loadedAt))) :: before <:+ earlier) (holder : older <:+ before)
      (hage : now - loadedAt ≤ cacheTtlMs ∨ (t, some (.own .configMissed)) ∈ earlier)
      (hvalue : value = storedAfter start key older)
  | defaulted (u : ℕ) (loadedAt : ℤ) (hload : (u, some (.own (.cacheDefaulted loadedAt))) ∈ earlier)
      (hage : now - loadedAt ≤ cacheTtlMs ∨ (t, some (.own .configMissed)) ∈ earlier)
      (hvalue : value = valueIn defaults key)

/-- What an entry of the history says of the history before it. -/
def Told (start : Table RiskConfigRow.key) (earlier : Db.History ConfigAct) :
    ℕ × Option (Did ConfigAct) → Prop
  | (_, some (.own (.rowsRead rows))) => ∀ key, valueIn (mergeDefaults rows) key = storedAfter start key earlier
  | (_, some (.own (.cacheLoaded map _))) =>
    ∃ older, older <:+ earlier ∧ ∀ key, valueIn map key = storedAfter start key older
  | (t, some (.own (.configServed key value now))) => Sourced start earlier t key value now
  | _ => True

/-- The load whose map is in the cache. -/
def LoadedBy (map : ConfigMap) (loadedAt : ℤ) (hist : Db.History ConfigAct) : Prop :=
  (∃ u, (u, some (.own (.cacheLoaded map loadedAt))) ∈ hist) ∨
    map = defaults ∧ ∃ u, (u, some (.own (.cacheDefaulted loadedAt))) ∈ hist

/-- The history tells the table and the cache, and each of its entries says the truth. -/
structure Traced (start : Table RiskConfigRow.key) (s : Db.Past ConfigStore ConfigAct) : Prop where
  stored : ∀ key, stored s.store.rows.table key = storedAfter start key s.hist
  told : Truthful (Told start) s.hist
  cache : ∀ map, s.store.rows.cache = some map → LoadedBy map s.store.rows.cacheLoadedAt s.hist

section Traced

variable {start : Table RiskConfigRow.key} {s : Db.Past ConfigStore ConfigAct} {d' : Db ConfigStore}
  {t : ℕ} {o : Option (Did ConfigAct)} {e : Did ConfigAct} {map : ConfigMap} {at' : ℤ}
  {hist : Db.History ConfigAct}

theorem LoadedBy.cons (h : LoadedBy map at' hist) (x : ℕ × Option (Did ConfigAct)) : LoadedBy map at' (x :: hist) := by
  rcases h with ⟨u, hu⟩ | ⟨hmap, u, hu⟩
  · exact Or.inl ⟨u, List.mem_cons_of_mem _ hu⟩
  · exact Or.inr ⟨hmap, u, List.mem_cons_of_mem _ hu⟩

theorem rowsHeld_eq {l : Db.Deeds ConfigAct} {rows : List RiskConfigRow} (h : rowsHeld l = some rows) :
    ∃ l', l = some (.own (.rowsRead rows)) :: l' := by
  unfold rowsHeld at h
  split at h
  · exact ⟨_, by rw [Option.some.inj h]⟩
  · cases h

/-- One more entry, of which the three parts are said. -/
theorem Traced.record (h : Traced start s)
    (hstored : ∀ key, RiskConfig.stored d'.rows.table key =
      (updateOf key o).getD (RiskConfig.stored s.store.rows.table key))
    (htold : Told start s.hist (t, o))
    (hcache : ∀ map, d'.rows.cache = some map → LoadedBy map d'.rows.cacheLoadedAt ((t, o) :: s.hist)) :
    Traced start (s.record t o d') := by
  refine ⟨fun key => ?_, h.told.cons htold, hcache⟩
  rw [State.record_hist, storedAfter_cons, ← h.stored key]
  exact hstored key

/-- An entry that leaves the table and the cache. -/
theorem Traced.idle (h : Traced start s) (hrows : d'.rows = s.store.rows) (hupdate : ∀ key, updateOf key o = none)
    (htold : Told start s.hist (t, o)) : Traced start (s.record t o d') := by
  refine h.record (fun key => ?_) htold fun map hmap => ?_
  · rw [hrows, hupdate key]
    rfl
  · rw [hrows] at hmap ⊢
    exact (h.cache map hmap).cons _

/-- What is served from the cache comes from the load that filled it. -/
theorem Traced.sourced (h : Traced start s) {key : String} {now : ℤ} (hcache : s.store.rows.cache = some map)
    (hage : now - s.store.rows.cacheLoadedAt ≤ cacheTtlMs ∨ some (.own .configMissed) ∈ own t s.hist) :
    Sourced start s.hist t key (valueIn map key) now := by
  have hage' := hage.imp_right mem_own.1
  rcases h.cache map hcache with ⟨u, hu⟩ | ⟨rfl, u, hu⟩
  · obtain ⟨before, hbefore, older, holder, hvalue⟩ := h.told.of_mem hu
    exact .loaded u map _ before older hbefore holder hage' (hvalue key)
  · exact .defaulted u _ hu hage' rfl

/-- Each act keeps the history true. -/
theorem Traced.act (h : Traced start s) {a : ConfigAct}
    (heff : ConfigEffect (own t s.hist) s.store.rows a d'.rows) : Traced start (s.record t (some (.own a)) d') := by
  refine h.record heff.stored ?_ fun map hmap => ?_
  · generalize d'.rows = r' at heff
    cases heff with
    | configServed key loaded now hcache hage => exact h.sourced hcache hage
    | rowsRead =>
      intro key
      rw [valueIn_mergeDefaults, h.stored]
    | cacheLoaded rows now hread =>
      obtain ⟨_, hown⟩ := rowsHeld_eq hread
      obtain ⟨older, holder, htold⟩ := h.told.of_mem (mem_own.1 (hown ▸ List.mem_cons_self))
      exact ⟨older, (List.suffix_cons _ _).trans holder, htold⟩
    | _ => trivial
  · rcases heff.cached hmap with ⟨hold, hat⟩ | ⟨rows, -, -, rfl⟩ | ⟨rfl, rfl⟩
    · rw [hat]
      exact (h.cache map hold).cons _
    · exact Or.inl ⟨t, List.mem_cons_self⟩
    · exact Or.inr ⟨rfl, t, List.mem_cons_self⟩

theorem Traced.move (h : Traced start s) (heff : Db.effects ConfigEffect (own t s.hist) s.store e d') :
    Traced start (s.record t (some e) d') := by
  cases e with
  | own a => exact h.act heff
  | read | threw | logged | enqueued | audited => exact h.idle heff (fun _ => rfl) trivial

end Traced

/-! ## What is served -/

section Served

variable {start : Table RiskConfigRow.key} {s s' : Db.System ConfigStore ConfigAct}
  {new : Db.History ConfigAct} {key value : String}

theorem Traced.reached (hs : Reaches program always (Sys.init { rows := { table := start } }) s) :
    Traced start s.toState := by
  refine Effects.invariant program_covers (fun s t h => h.idle rfl (fun _ => rfl) trivial) ?_
    (fun s t e d' h heff _ => h.move heff) hs
  exact ⟨fun _ => rfl, truthful_nil, fun map h => by cases h⟩

/-- Nobody is served a value that the table never had: what a call of `getRiskConfigValue` returns is what the
table said at some earlier moment of the run, as a load read it then, or the default, when a load had failed. The
load had ended at most five minutes before, or the call had found no usable cache. -/
theorem served_from_table (hs : Reaches program always (Sys.init { rows := { table := start } }) s)
    {earlier : Db.History ConfigAct} {t : ℕ} {now : ℤ}
    (hserved : (t, some (.own (.configServed key value now))) :: earlier <:+ s.hist) :
    Sourced start earlier t key value now :=
  (Traced.reached hs).told _ _ hserved

/-- The weight of the tenor is 0.25. -/
def sampleConfig : Table RiskConfigRow.key where
  rows := [{ key := "weight_tenor", value := "0.25", description := "", updatedAt := 0, updatedBy := none }]
  keys_nodup := by decide

/-- A load reads the rows, and an administrator sets the weight to 0.4 before it stores them. -/
def staleLoad : List (Act Op Input) :=
  [.start (.getRiskConfigValue "weight_tenor"), .move 0 { now := 1000000 }, .move 0 { now := 1000000 }] ++
    Act.call (.updateRiskConfig "weight_tenor" "0.4" 7 {}) 1 (List.replicate 5 { now := 1000000 }) ++
    [.move 0 { now := 1000001 }, .move 0 { now := 1000002 }]

/-- The caller is served the old weight, which the table had when the load read it. -/
theorem served_from_table_stale : ∃ s : Db.System ConfigStore ConfigAct,
    stored s.store.rows.table "weight_tenor" = "0.4" ∧
      Sourced sampleConfig s.hist.tail 0 "weight_tenor" "0.25" 1000002 := by
  obtain ⟨s, hs, hP⟩ := exists_reaches program always (Sys.init { rows := { table := sampleConfig } }) staleLoad
    (fun s => stored s.store.rows.table "weight_tenor" = "0.4" ∧
      s.hist.head? = some (0, some (.own (.configServed "weight_tenor" "0.25" 1000002)))) (by decide +kernel)
  obtain ⟨hstored, hhead⟩ := of_decide_eq_true hP
  refine ⟨s, hstored, served_from_table hs ?_⟩
  rw [List.head?_eq_some_iff] at hhead
  obtain ⟨earlier, hhist⟩ := hhead
  rw [hhist]
  exact List.suffix_refl _

/-- The cache, and every load under way, has what the table says of `key`. -/
structure Agrees (key value : String) (s : Db.Past ConfigStore ConfigAct) : Prop where
  stored : stored s.store.rows.table key = value
  cache : ∀ map, s.store.rows.cache = some map → valueIn map key = value
  loads : ∀ t rows, rowsHeld (own t s.hist) = some rows → valueIn (mergeDefaults rows) key = value

/-- A load has failed since, and stored the defaults. -/
def Defaulted (new : Db.History ConfigAct) : Prop :=
  ∃ u loadedAt, (u, some (.own (.cacheDefaulted loadedAt))) ∈ new

/-- What has become of `Agrees` after the entries `new`, none of them an update of the key. -/
structure AgreesSince (key value : String) (new : Db.History ConfigAct)
    (s : Db.Past ConfigStore ConfigAct) : Prop where
  stored : stored s.store.rows.table key = value
  cache : ∀ map, s.store.rows.cache = some map → valueIn map key = value ∨ map = defaults ∧ Defaulted new
  loads : ∀ t rows, rowsHeld (own t s.hist) = some rows → valueIn (mergeDefaults rows) key = value
  served : ∀ t served now, (t, some (.own (.configServed key served now))) ∈ new →
    served = value ∨ served = valueIn defaults key ∧ Defaulted new

section Since

variable {t : ℕ} {o : Option (Did ConfigAct)} {d' : Db ConfigStore} {s : Db.Past ConfigStore ConfigAct}

theorem Defaulted.cons (h : Defaulted new) (x : ℕ × Option (Did ConfigAct)) : Defaulted (x :: new) := by
  obtain ⟨u, loadedAt, hu⟩ := h
  exact ⟨u, loadedAt, List.mem_cons_of_mem _ hu⟩

/-- One more entry, of which the four parts are said. -/
theorem AgreesSince.record (h : AgreesSince key value new s)
    (hstored : RiskConfig.stored d'.rows.table key = RiskConfig.stored s.store.rows.table key)
    (hcache : ∀ map, d'.rows.cache = some map →
      s.store.rows.cache = some map ∨ valueIn map key = value ∨ map = defaults ∧ Defaulted ((t, o) :: new))
    (hread : ∀ rows, o = some (.own (.rowsRead rows)) → rows = s.store.rows.table.rows)
    (hserved : ∀ served now, o = some (.own (.configServed key served now)) →
      ∃ map, s.store.rows.cache = some map ∧ served = valueIn map key) :
    AgreesSince key value ((t, o) :: new) (s.record t o d') := by
  constructor
  · exact hstored.trans h.stored
  · intro map hmap
    rcases hcache map hmap with hold | hnew
    · exact (h.cache map hold).imp_right fun hdef => ⟨hdef.1, hdef.2.cons _⟩
    · exact hnew
  · intro u rows hrows
    rw [State.record_hist] at hrows
    by_cases hu : t = u
    · subst hu
      rw [own_cons_self] at hrows
      obtain ⟨_, hcons⟩ := rowsHeld_eq hrows
      rw [hread rows (List.cons.inj hcons).1, valueIn_mergeDefaults, h.stored]
    · rw [own_cons_of_ne hu] at hrows
      exact h.loads u rows hrows
  · intro u served now hmem
    rcases List.mem_cons.1 hmem with heq | hold
    · obtain ⟨map, hmap, rfl⟩ := hserved served now (Prod.mk.inj heq).2.symm
      rcases h.cache map hmap with hvalue | ⟨rfl, hdef⟩
      · exact Or.inl hvalue
      · exact Or.inr ⟨rfl, hdef.cons _⟩
    · exact (h.served u served now hold).imp_right fun hdef => ⟨hdef.1, hdef.2.cons _⟩

/-- An entry that leaves the table and the cache, and neither reads rows nor serves. -/
theorem AgreesSince.idle (h : AgreesSince key value new s) (hrows : d'.rows = s.store.rows)
    (hread : ∀ rows, o ≠ some (.own (.rowsRead rows)))
    (hserved : ∀ served now, o ≠ some (.own (.configServed key served now))) :
    AgreesSince key value ((t, o) :: new) (s.record t o d') :=
  h.record (by rw [hrows]) (fun map hmap => Or.inl (hrows ▸ hmap)) (fun rows ho => absurd ho (hread rows))
    fun served now ho => absurd ho (hserved served now)

theorem AgreesSince.act (h : AgreesSince key value new s) {a : ConfigAct}
    (hupdate : updateOf key (some (.own a)) = none)
    (heff : ConfigEffect (own t s.hist) s.store.rows a d'.rows) :
    AgreesSince key value ((t, some (.own a)) :: new) (s.record t (some (.own a)) d') := by
  refine h.record ((heff.stored key).trans (by rw [hupdate]; rfl)) (fun map hmap => ?_) (fun rows ho => ?_)
    fun served now ho => ?_
  · rcases heff.cached hmap with ⟨hold, -⟩ | ⟨rows, hread, rfl, -⟩ | ⟨rfl, rfl⟩
    · exact Or.inl hold
    · exact Or.inr (Or.inl (h.loads t rows hread))
    · exact Or.inr (Or.inr ⟨rfl, t, _, List.mem_cons_self⟩)
  · obtain rfl := Did.own.inj (Option.some.inj ho)
    generalize d'.rows = r' at heff
    cases heff
    rfl
  · obtain rfl := Did.own.inj (Option.some.inj ho)
    generalize d'.rows = r' at heff
    cases heff with
    | configServed key loaded now hcache hage => exact ⟨loaded, hcache, rfl⟩

theorem AgreesSince.move (h : AgreesSince key value new s) {e : Did ConfigAct}
    (hupdate : updateOf key (some e) = none) (heff : Db.effects ConfigEffect (own t s.hist) s.store e d') :
    AgreesSince key value ((t, some e) :: new) (s.record t (some e) d') := by
  cases e with
  | own a => exact h.act hupdate heff
  | read | threw | logged | enqueued | audited =>
    exact h.idle heff (fun _ ho => by cases ho) fun _ _ ho => by cases ho

/-- The entries since `base` have kept `Agrees`, if none of them updates the key. -/
def KeptSince (key value : String) (base : Db.History ConfigAct)
    (s : Db.Past ConfigStore ConfigAct) : Prop :=
  ∃ new, s.hist = new ++ base ∧ ((∀ x ∈ new, updateOf key x.2 = none) → AgreesSince key value new s)

theorem KeptSince.record {base : Db.History ConfigAct} (h : KeptSince key value base s)
    (hkeep : ∀ new, AgreesSince key value new s → updateOf key o = none →
      AgreesSince key value ((t, o) :: new) (s.record t o d')) :
    KeptSince key value base (s.record t o d') := by
  obtain ⟨new, hhist, hnew⟩ := h
  refine ⟨(t, o) :: new, by rw [State.record_hist, hhist, List.cons_append], fun hupdate => ?_⟩
  have hold : ∀ x ∈ new, updateOf key x.2 = none := fun x hx => hupdate x (List.mem_cons_of_mem _ hx)
  exact hkeep new (hnew hold) (hupdate (t, o) List.mem_cons_self)

end Since

/-- From the moment on at which the cache and the loads under way have what the table says of a key, everyone is
served that value until the key is updated again; or the default, if a load has failed since. -/
theorem update_served (hs : Reaches program always (Sys.init { rows := { table := start } }) s)
    (hagrees : Agrees key value s.toState) (hs' : Reaches program always s s') (hnew : s'.hist = new ++ s.hist)
    (hupdate : ∀ x ∈ new, updateOf key x.2 = none) {t : ℕ} {served : String} {now : ℤ}
    (hserved : (t, some (.own (.configServed key served now))) ∈ new) :
    served = value ∨ served = valueIn defaults key ∧ Defaulted new := by
  have hkept : KeptSince key value s.hist s'.toState := by
    refine Effects.persists (P := KeptSince key value s.hist) program_covers ?_ ?_ hs ?_ hs'
    · intro s t h
      exact h.record fun new h _ => h.idle rfl (fun _ ho => by cases ho) fun _ _ ho => by cases ho
    · intro s t e d' h heff _
      exact h.record fun new h hupdate => h.move hupdate heff
    · refine ⟨[], rfl, fun _ => ⟨hagrees.stored, fun map hmap => Or.inl (hagrees.cache map hmap), hagrees.loads, ?_⟩⟩
      exact fun _ _ _ hmem => absurd hmem List.not_mem_nil
  obtain ⟨new', hhist, hkept⟩ := hkept
  obtain rfl : new' = new := List.append_cancel_right (hhist.symm.trans hnew)
  exact (hkept hupdate).served t served now hserved

/-- The value is loaded, and an administrator sets it to 0.4. -/
def loadedThenUpdated : List (Act Op Input) :=
  Act.call (.getRiskConfigValue "weight_tenor") 0 (List.replicate 4 { now := 1000000 }) ++
    Act.call (.updateRiskConfig "weight_tenor" "0.4" 7 {}) 1 (List.replicate 5 { now := 1000000 })

/-- The next caller loads the new weight. -/
theorem update_served_next : ∃ s' : Db.System ConfigStore ConfigAct,
    (2, some (.own (.configServed "weight_tenor" "0.4" 1000003))) ∈ s'.hist.take 4 ∧
      ("0.4" = "0.4" ∨ "0.4" = valueIn defaults "weight_tenor" ∧ Defaulted (s'.hist.take 4)) := by
  obtain ⟨s, s', hs, hs', hP⟩ := exists_reaches_reaches program always
    (Sys.init { rows := { table := sampleConfig } }) loadedThenUpdated
    (.start (.getRiskConfigValue "weight_tenor") :: List.replicate 4 (.move 2 { now := 1000003 }))
    (fun s s' => stored s.store.rows.table "weight_tenor" = "0.4" ∧ s.store.rows.cache = none ∧
      (∀ x ∈ s.hist, rowsHeld (own x.1 s.hist) = none) ∧ s'.hist = s'.hist.take 4 ++ s.hist ∧
      (∀ x ∈ s'.hist.take 4, updateOf "weight_tenor" x.2 = none) ∧
      (2, some (.own (.configServed "weight_tenor" "0.4" 1000003))) ∈ s'.hist.take 4) (by decide +kernel)
  obtain ⟨hstored, hcache, hloads, hhist, hupdate, hserved⟩ := of_decide_eq_true hP
  refine ⟨s', hserved, update_served hs ⟨hstored, ?_, fun t rows hrows => ?_⟩ hs' hhist hupdate hserved⟩
  · rw [hcache]
    exact fun _ h => by cases h
  · obtain ⟨_, hown⟩ := rowsHeld_eq hrows
    have hmem : (t, some (.own (.rowsRead rows))) ∈ s.hist := mem_own.1 (hown ▸ List.mem_cons_self)
    cases (hloads _ hmem).symm.trans hrows

end Served

end Ris.RiskConfig
