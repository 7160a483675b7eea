import Mathlib.Logic.Equiv.List
import RisPlatform.Backend.Audit.Engine

/-!
# When the audit log is one chain

The log is one chain after those runs in which every entry is saved in time (`Timely`): while the entry
that its call has selected is still the last, and with a later clock reading, or the same one and a
greater identifier. Any other entry breaks the chain for good: a call that has waited for the lock reads
the row it waited for, which is then not the last; two first events are not kept apart by a lock on a row;
and the order of the verifier is that of the clock.
-/

namespace Ris.Backend.Audit

open HashChain

variable {sha256 : Text → Text} {s s' : State} {t : ℕ} {action : Action} {rows : List AuditLog}

/-! ## What is to hold of the log -/

/-- The verifier accepts; one entry is the first, and no two have one predecessor. -/
structure Linear (sha256 : Text → Text) (rows : List AuditLog) : Prop where
  verified : (verifyAuditChain sha256 rows).1 = true
  genesis : rows ≠ [] → ∃ first ∈ rows, ∀ entry ∈ rows, entry.isGenesis = true ↔ entry = first
  previous : (rows.map AuditLog.previousHash).Nodup

/-- The entry is saved while the one before it is the last, and comes after it. Other steps are in time. -/
def Timely (s : State) (t : ℕ) (action : Action) : Prop :=
  match s.calls[t]?.map Call.phase, action with
  | some (.chosen last), .save now id =>
    lastEntry s.rows = last ∧ ∀ entry, last = some entry → entry.key < toLex (now.rank, id)
  | _, _ => True

/-- Every step of the run is in time. -/
def AllTimely (sha256 : Text → Text) : State → List (ℕ × Action) → Prop
  | _, [] => True
  | s, (t, action) :: actions => Timely s t action ∧
    ∀ s', step sha256 s t action = some s' → AllTimely sha256 s' actions

/-! ## What one step does -/

/-- The row that the call has read, if it has. -/
def Phase.row : Phase → Option AuditLog
  | .waiting last => some last
  | .chosen last => last
  | _ => none

/-- What calls have read are rows of the log. -/
def State.Known (s : State) : Prop := ∀ call ∈ s.calls, ∀ entry, call.phase.row = some entry → entry ∈ s.rows

/-- A step saves the entry of a call that has selected its predecessor, or leaves the log as it is. -/
inductive Does (sha256 : Text → Text) (s : State) (t : ℕ) : Action → State → Prop
  | moved (action : Action) (call : Call) (phase : Phase) (hcall : s.calls[t]? = some call)
      (hno : ∀ now id, action ≠ .save now id) (hrow : ∀ entry, phase.row = some entry → entry ∈ s.rows) :
      Does sha256 s t action (s.setPhase t call phase)
  | saved (call : Call) (last : Option AuditLog) (now : DateTime) (id : ℕ) (hcall : s.calls[t]? = some call)
      (hphase : call.phase = .chosen last)
      (hnew : conflicts s.rows (newEntry sha256 call.event last now id) = false) :
      Does sha256 s t (.save now id)
        { s.setPhase t call .ended with rows := s.rows ++ [newEntry sha256 call.event last now id] }

theorem mem_of_lastEntry {entry : AuditLog} (h : lastEntry rows = some entry) : entry ∈ rows :=
  (List.mem_insertionSort _).1 (List.mem_of_mem_head? h)

theorem does_of_step (h : step sha256 s t action = some s') : Does sha256 s t action s' := by
  unfold step at h
  cases hcall : s.calls[t]? with
  | none => simp [hcall] at h
  | some call =>
    simp only [hcall] at h
    split at h
    · -- the `SELECT`, of the last row or of none
      split at h
      · obtain rfl := Option.some.inj h
        exact .moved .select call _ hcall (fun _ _ h => by cases h) (fun _ h => by cases h)
      · next last hlast =>
        obtain rfl := Option.some.inj h
        refine .moved .select call _ hcall (fun _ _ h => by cases h) fun entry hentry => ?_
        have hrow : last = entry := by
          split at hentry <;> exact Option.some.inj hentry
        exact hrow ▸ mem_of_lastEntry hlast
    · -- the lock is granted
      split at h
      · cases h
      · obtain rfl := Option.some.inj h
        exact .moved .grant call _ hcall (fun _ _ h => by cases h) fun entry hentry =>
          List.mem_of_find?_eq_some hentry
    · -- the `INSERT`
      next last now id hphase =>
        split at h
        · cases h
        · next hnew =>
          obtain rfl := Option.some.inj h
          exact .saved call last now id hcall hphase (Bool.eq_false_iff.2 hnew)
    · cases h
    · obtain rfl := Option.some.inj h
      exact .moved .fail call .ended hcall (fun _ _ h => by cases h) (fun _ h => by cases h)
    · cases h

theorem Does.rows_subset (h : Does sha256 s t action s') : s.rows ⊆ s'.rows := by
  cases h with
  | moved => exact fun _ h => h
  | saved => exact fun _ h => List.mem_append_left _ h

theorem Does.known (h : Does sha256 s t action s') (hs : s.Known) : s'.Known := by
  have hset : ∀ (call : Call) (phase : Phase), (∀ entry, phase.row = some entry → entry ∈ s.rows) →
      (s.setPhase t call phase).Known := by
    intro call phase hrow c hc entry hentry
    rcases List.mem_or_eq_of_mem_set hc with hc | rfl
    · exact hs c hc entry hentry
    · exact hrow entry hentry
  cases h with
  | moved _ call phase _ _ hrow => exact hset call phase hrow
  | saved call last now id =>
    intro c hc entry hentry
    exact List.mem_append_left _ (hset call .ended (fun _ h => by cases h) c hc entry hentry)

/-! ## The new entry -/

section NewEntry

variable {event : Event} {last : Option AuditLog} {now : DateTime} {id : ℕ}

/-- The hash does not depend on what stood in its column. -/
theorem hash_newEntry :
    (newEntry sha256 event last now id).hash =
      (newEntry sha256 event last now id).calculateHash sha256 := rfl

theorem previousHash_newEntry :
    (newEntry sha256 event last now id).previousHash = (last.map AuditLog.hash).getD GENESIS_HASH := by
  cases last <;> rfl

theorem isGenesis_newEntry : (newEntry sha256 event last now id).isGenesis = last.isNone := rfl

end NewEntry

theorem conflicts_iff {entry : AuditLog} :
    conflicts rows entry = false ↔ ∀ row ∈ rows, row.id ≠ entry.id ∧ row.hash ≠ entry.hash := by
  rw [conflicts, List.any_eq_false]
  refine forall₂_congr fun row _ => ?_
  rw [Bool.or_eq_true, beq_iff_eq, beq_iff_eq, not_or]

theorem unique_append {entry : AuditLog} (hu : (auditChain sha256).Unique rows)
    (hnew : conflicts rows entry = false) : (auditChain sha256).Unique (rows ++ [entry]) := by
  rw [conflicts_iff] at hnew
  constructor
  · rw [List.map_append, List.nodup_append]
    refine ⟨hu.keys, List.nodup_singleton _, ?_⟩
    intro k hk k' hk' hkk
    obtain ⟨row, hrow, rfl⟩ := List.mem_map.1 hk
    rw [List.mem_singleton.1 hk'] at hkk
    exact (hnew row hrow).1 (congrArg (fun k : ℕ ×ₗ ℕ => (ofLex k).2) hkk)
  · rw [List.map_append, List.nodup_append]
    refine ⟨hu.hashes, List.nodup_singleton _, ?_⟩
    intro h hh h' hh' hhh
    obtain ⟨row, hrow, rfl⟩ := List.mem_map.1 hh
    rw [List.mem_singleton.1 hh'] at hhh
    exact (hnew row hrow).2 hhh

/-- The selection from the other end finds the last of the verifier's order. -/
theorem lastEntry_eq (hu : (auditChain sha256).Unique rows) :
    lastEntry rows = ((auditChain sha256).ordered rows).getLast? := by
  have hreverse : (rows.insertionSort fun a b => b.key ≤ a.key) =
      ((auditChain sha256).ordered rows).reverse := by
    have : Std.Total fun a b : AuditLog => b.key ≤ a.key := ⟨fun a b => le_total b.key a.key⟩
    have : IsTrans AuditLog fun a b => b.key ≤ a.key := ⟨fun _ _ _ h h' => le_trans h' h⟩
    refine List.Perm.eq_of_pairwise ?_ (List.pairwise_insertionSort _ rows)
      (List.pairwise_reverse.2 (pairwise_ordered (F := auditChain sha256) rows)) ?_
    · intro a b ha hb hab hba
      have hb' : b ∈ rows := mem_ordered.1 (List.mem_reverse.1 hb)
      exact List.inj_on_of_nodup_map hu.keys ((List.mem_insertionSort _).1 ha) hb' (le_antisymm hba hab)
    · exact ((List.perm_insertionSort _ rows).trans (perm_ordered rows).symm).trans
        (List.reverse_perm _).symm
  rw [lastEntry, hreverse, List.head?_reverse]

/-! ## Entries in time, and others -/

/-- What holds of every state: the constraints of the table, and that calls know rows of it. -/
structure State.Sane (sha256 : Text → Text) (s : State) : Prop where
  unique : (auditChain sha256).Unique s.rows
  known : s.Known

/-- The log is a chain, and marks its first entry. -/
structure Chained (sha256 : Text → Text) (rows : List AuditLog) : Prop where
  valid : (auditChain sha256).Valid GENESIS_HASH ((auditChain sha256).ordered rows)
  marks : ∀ entry ∈ rows, entry.isGenesis = true ↔ entry.previousHash = GENESIS_HASH

theorem Does.sane (h : Does sha256 s t action s') (hs : s.Sane sha256) : s'.Sane sha256 := by
  refine ⟨?_, h.known hs.known⟩
  cases h with
  | moved => exact hs.unique
  | saved call last now id hcall hphase hnew => exact unique_append hs.unique hnew

theorem chained_append (hsha : Digest sha256) {event : Event} {last : Option AuditLog} {now : DateTime}
    {id : ℕ} (hu : (auditChain sha256).Unique rows) (hc : Chained sha256 rows)
    (hlast : lastEntry rows = last) (hlt : ∀ entry, last = some entry → entry.key < toLex (now.rank, id)) :
    Chained sha256 (rows ++ [newEntry sha256 event last now id]) := by
  rw [lastEntry_eq hu] at hlast
  have hafter : ∀ row ∈ rows, row.key < (newEntry sha256 event last now id).key := by
    intro row hrow
    have hmem := mem_ordered (F := auditChain sha256).2 hrow
    obtain ⟨es, entry, hes⟩ := (List.eq_nil_or_concat' _).resolve_left (List.ne_nil_of_mem hmem)
    have hentry : last = some entry := by rw [← hlast, hes, List.getLast?_concat]
    have hsorted := pairwise_ordered (F := auditChain sha256) rows
    rw [hes] at hmem hsorted
    rcases List.mem_append.1 hmem with hmem | hmem
    · have hle := (List.pairwise_append.1 hsorted).2.2 row hmem entry (List.mem_singleton_self entry)
      exact lt_of_le_of_lt hle (hlt entry hentry)
    · rw [List.mem_singleton.1 hmem]
      exact hlt entry hentry
  have hprev : (newEntry sha256 event last now id).previousHash =
      (auditChain sha256).lastHash GENESIS_HASH ((auditChain sha256).ordered rows) := by
    rw [lastHash_eq, hlast]
    exact previousHash_newEntry
  constructor
  · rw [ordered_append hu hafter, valid_append]
    exact ⟨hc.valid, hprev, hash_newEntry, trivial⟩
  · intro entry hentry
    rcases List.mem_append.1 hentry with hentry | hentry
    · exact hc.marks entry hentry
    · rw [List.mem_singleton.1 hentry, isGenesis_newEntry, previousHash_newEntry]
      cases last with
      | none => exact iff_of_true rfl rfl
      | some row =>
        refine iff_of_false Bool.false_ne_true ?_
        have hrow : row ∈ (auditChain sha256).ordered rows := List.mem_of_getLast? hlast
        show row.hash ≠ GENESIS_HASH
        rw [show row.hash = row.calculateHash sha256 from hash_of_valid hc.valid hrow]
        exact hsha.ne_genesis _

/-- An entry with another predecessor than the last entry shares it; one that does not come after its
predecessor is in the wrong place. -/
theorem broken_append {event : Event} {last : Option AuditLog} {now : DateTime} {id : ℕ}
    (hu : (auditChain sha256).Unique rows) (hc : Chained sha256 rows) (hknown : ∀ row, last = some row → row ∈ rows)
    (hnew : conflicts rows (newEntry sha256 event last now id) = false)
    (hnot : ¬ (lastEntry rows = last ∧ ∀ entry, last = some entry → entry.key < toLex (now.rank, id))) :
    (auditChain sha256).Broken (rows ++ [newEntry sha256 event last now id]) := by
  set entry := newEntry sha256 event last now id with hentry
  have hmem : entry ∈ rows ++ [entry] := List.mem_append_right _ (List.mem_singleton_self _)
  have hshared : ∀ row ∈ rows, row.previousHash = entry.previousHash →
      (auditChain sha256).Broken (rows ++ [entry]) := by
    intro row hrow hprev
    refine ⟨row, List.mem_append_left _ hrow, entry, hmem, Or.inl ⟨?_, hprev⟩⟩
    intro heq
    exact (conflicts_iff.1 hnew row hrow).1 (congrArg AuditLog.id heq)
  by_cases hlast : lastEntry rows = last
  · have hlt : ∃ row, last = some row ∧ ¬ row.key < toLex (now.rank, id) := by
      by_contra hall
      push Not at hall
      exact hnot ⟨hlast, hall⟩
    obtain ⟨row, hrow, hlt⟩ := hlt
    refine ⟨entry, hmem, row, List.mem_append_left _ (hknown row hrow), Or.inr ⟨?_, hlt⟩⟩
    show entry.previousHash = row.hash
    rw [hentry, previousHash_newEntry, hrow]
    rfl
  · rw [lastEntry_eq hu] at hlast
    cases last with
    | none =>
      obtain ⟨first, es, hes⟩ : ∃ first es, (auditChain sha256).ordered rows = first :: es := by
        apply List.exists_cons_of_ne_nil
        intro h
        exact hlast (by rw [h]; rfl)
      have hv := hc.valid
      rw [hes] at hv
      have hfirst : first ∈ rows := mem_ordered.1 (hes ▸ List.mem_cons_self)
      exact hshared first hfirst hv.1
    | some row =>
      have hrow : row ∈ rows := hknown row rfl
      have hne : (auditChain sha256).lastHash GENESIS_HASH ((auditChain sha256).ordered rows) ≠ row.hash := by
        obtain ⟨es, tip, hes⟩ := (List.eq_nil_or_concat' ((auditChain sha256).ordered rows)).resolve_left
          (List.ne_nil_of_mem (mem_ordered.2 hrow))
        rw [hes, lastHash_append_singleton]
        intro hhash
        have htip : tip ∈ rows :=
          mem_ordered.1 (hes ▸ List.mem_append_right _ (List.mem_singleton_self tip))
        obtain rfl : tip = row := List.inj_on_of_nodup_map hu.hashes htip hrow hhash
        exact hlast (by rw [hes, List.getLast?_concat])
      obtain ⟨next, hnext, hprev⟩ := exists_next hc.valid (mem_ordered.2 hrow) hne
      exact hshared next (mem_ordered.1 hnext) hprev

theorem linear_of_chained (hsha : Digest sha256) (hu : (auditChain sha256).Unique rows)
    (hc : Chained sha256 rows) : Linear sha256 rows := by
  have hnd := nodup_cons_hash hu (fun _ => hsha.ne_genesis _) hc.valid
  have hprev : (((auditChain sha256).ordered rows).map AuditLog.previousHash).Nodup :=
    hnd.sublist (previous_initial hc.valid).sublist
  have hprev' : (rows.map AuditLog.previousHash).Nodup :=
    ((perm_ordered (F := auditChain sha256) rows).map _).nodup_iff.1 hprev
  refine ⟨verify_iff.2 hc.valid, fun hne => ?_, hprev'⟩
  obtain ⟨first, es, hes⟩ : ∃ first es, (auditChain sha256).ordered rows = first :: es := by
    apply List.exists_cons_of_ne_nil
    intro h
    exact hne ((h ▸ perm_ordered (F := auditChain sha256) rows).nil_eq.symm)
  have hv := hc.valid
  rw [hes] at hv
  have hfirst : first ∈ rows := mem_ordered.1 (hes ▸ List.mem_cons_self)
  refine ⟨first, hfirst, fun entry hentry => (hc.marks entry hentry).trans ⟨fun h => ?_, ?_⟩⟩
  · exact List.inj_on_of_nodup_map hprev' hentry hfirst (h.trans hv.1.symm)
  · rintro rfl
    exact hv.1

theorem not_linear_of_broken (hsha : Digest sha256) (hu : (auditChain sha256).Unique rows)
    (hb : (auditChain sha256).Broken rows) : ¬ Linear sha256 rows :=
  fun h => not_broken hu (fun _ => hsha.ne_genesis _) (verify_iff.1 h.verified) hb

/-! ## Runs -/

/-- One step from a chain: in time it keeps the chain, and otherwise it breaks it. -/
theorem Does.chained_or_broken (hsha : Digest sha256) (h : Does sha256 s t action s')
    (hs : s.Sane sha256)
    (hc : Chained sha256 s.rows) :
    (Timely s t action → Chained sha256 s'.rows) ∧
      (¬ Timely s t action → (auditChain sha256).Broken s'.rows) := by
  cases h with
  | moved _ call phase hcall hno =>
    refine ⟨fun _ => hc, fun hnot => absurd ?_ hnot⟩
    unfold Timely
    split
    · next hsave => exact absurd rfl (hno _ _)
    · exact trivial
  | saved call last now id hcall hphase hnew =>
    have htimely : Timely s t (.save now id) ↔
        lastEntry s.rows = last ∧ ∀ entry, last = some entry → entry.key < toLex (now.rank, id) := by
      unfold Timely
      rw [hcall, Option.map_some, hphase]
    rw [htimely]
    refine ⟨fun h => chained_append hsha hs.unique hc h.1 h.2, fun h => ?_⟩
    refine broken_append hs.unique hc (fun row hrow => ?_) hnew h
    exact hs.known call (List.mem_of_getElem? hcall) row (hphase ▸ hrow)

theorem sane_run {actions : List (ℕ × Action)} (hs : s.Sane sha256)
    (h : run sha256 s actions = some s') :
    s'.Sane sha256 ∧ s.rows ⊆ s'.rows := by
  induction actions generalizing s with
  | nil =>
    obtain rfl := Option.some.inj h
    exact ⟨hs, fun _ h => h⟩
  | cons a actions ih =>
    obtain ⟨s₁, hstep, hrun⟩ := Option.bind_eq_some_iff.1 h
    have hdoes := does_of_step hstep
    obtain ⟨hs', hsub⟩ := ih (hdoes.sane hs) hrun
    exact ⟨hs', fun _ h => hsub (hdoes.rows_subset h)⟩

/-- What an entry breaks, later entries do not repair. -/
theorem run_chained_or_broken (hsha : Digest sha256) {actions : List (ℕ × Action)} (hs : s.Sane sha256)
    (hc : Chained sha256 s.rows) (h : run sha256 s actions = some s') :
    (AllTimely sha256 s actions → Chained sha256 s'.rows) ∧
      (¬ AllTimely sha256 s actions → (auditChain sha256).Broken s'.rows) := by
  induction actions generalizing s with
  | nil =>
    obtain rfl := Option.some.inj h
    exact ⟨fun _ => hc, fun hnot => absurd trivial hnot⟩
  | cons a actions ih =>
    obtain ⟨s₁, hstep, hrun⟩ := Option.bind_eq_some_iff.1 h
    have hdoes := does_of_step hstep
    have hs₁ := hdoes.sane hs
    obtain ⟨hkeeps, hbreaks⟩ := hdoes.chained_or_broken hsha hs hc
    by_cases htimely : Timely s a.1 a.2
    · obtain ⟨hkeeps', hbreaks'⟩ := ih hs₁ (hkeeps htimely) hrun
      refine ⟨fun hall => hkeeps' (hall.2 s₁ hstep), fun hnot => hbreaks' fun hall => hnot ⟨htimely, ?_⟩⟩
      intro s₂ hstep₂
      rwa [Option.some.inj (hstep₂.symm.trans hstep)]
    · exact ⟨fun hall => absurd hall.1 htimely, fun _ => (hbreaks htimely).mono (sane_run hs₁ hrun).2⟩

/-- After a run from an empty log the log is one chain if and only if every entry was saved in time. -/
theorem log_linear_iff (hsha : Digest sha256) (events : List Event) (actions : List (ℕ × Action))
    (s : State)
    (h : run sha256 (init events) actions = some s) :
    Linear sha256 s.rows ↔ AllTimely sha256 (init events) actions := by
  have hs : (init events).Sane sha256 := by
    refine ⟨⟨List.nodup_nil, List.nodup_nil⟩, fun call hcall entry hentry => ?_⟩
    obtain ⟨event, -, rfl⟩ := List.mem_map.1 hcall
    exact absurd hentry (by simp [Phase.row])
  have hc : Chained sha256 (init events).rows := ⟨trivial, fun _ h => absurd h List.not_mem_nil⟩
  have hs' := (sane_run hs h).1.unique
  obtain ⟨hkeeps, hbreaks⟩ := run_chained_or_broken hsha hs hc h
  refine ⟨fun hlinear => ?_, fun hall => linear_of_chained hsha hs' (hkeeps hall)⟩
  by_contra hnot
  exact not_linear_of_broken hsha hs' (hbreaks hnot) hlinear

/-! ## Samples -/

/-- The text of a block of the first of September 2026. -/
def sampleBlock (previousHash : Text) (time action invoice : String) : Text :=
  previousHash ++ ":2026-09-01T".toList ++ time.toList ++ "+00:00:system:".toList ++ action.toList ++
    ":Invoice:".toList ++ invoice.toList ++ ":\x7b\x7d".toList

def sampleHash : Text := "564e756bd949be3b99ec7afb9c70c8f3dbf70f6b8e13b5fa49a471e2f179656a".toList

/-- The hashes of the blocks of the samples. -/
def sampleTable : List (Text × Text) :=
  [(sampleBlock GENESIS_HASH "10:00:00" "APPROVED" "inv_1", sampleHash),
    (sampleBlock sampleHash "09:59:59" "FUNDED" "inv_1",
      "bb7671e2bb303f3eb09c27f7a00d1c1c13356499b567a51163510fe43eda8e4f".toList),
    (sampleBlock sampleHash "10:00:01" "FUNDED" "inv_1",
      "6ae59766208d1171d07bef74327f8be5770d57152780d622502be76f47b42238".toList),
    (sampleBlock sampleHash "10:00:02" "COLLECTED" "inv_1",
      "6d2aec0fa31d197fcb310dd1dfa88f8db7e70fa9b702566514f3cdbcdf021da5".toList),
    (sampleBlock GENESIS_HASH "10:00:01" "FUNDED" "inv_1",
      "0361c335f76b9793e7986a9159a898bbb45da853d05561b945630060a8696297".toList),
    (sampleBlock GENESIS_HASH "10:00:00" "APPROVED" "inv:1",
      "36a2e09e8b8534a9aa6305f338eeef2e3c832b435a7c5371fffc72e6b4a21973".toList)]

/-- SHA-256 on the blocks of the samples, and no two texts with one hash. -/
def sampleSha (text : Text) : Text :=
  (sampleTable.lookup text).getD ('x' :: List.replicate (Encodable.encode (text.map Char.toNat)) '1')

theorem sampleSha_cases (text : Text) :
    (∃ block ∈ sampleTable, block.1 = text ∧ sampleSha text = block.2) ∨
      sampleSha text = 'x' :: List.replicate (Encodable.encode (text.map Char.toNat)) '1' := by
  unfold sampleSha
  cases h : sampleTable.lookup text with
  | none => exact Or.inr rfl
  | some hash =>
    obtain ⟨l₁, l₂, htable, -⟩ := List.lookup_eq_some_iff.1 h
    exact Or.inl ⟨(text, hash), htable ▸ List.mem_append_right _ List.mem_cons_self, rfl, rfl⟩

theorem sampleSha_digest : Digest sampleSha := by
  have htable : ∀ block ∈ sampleTable, ':' ∉ block.2 ∧ block.2 ≠ GENESIS_HASH := by decide +kernel
  constructor
  · intro text
    rcases sampleSha_cases text with ⟨block, hblock, -, h⟩ | h
    · rw [h]
      exact (htable block hblock).1
    · rw [h]
      intro hmem
      rcases List.mem_cons.1 hmem with hx | hone
      · exact absurd hx (by decide)
      · exact absurd (List.eq_of_mem_replicate hone) (by decide)
  · intro text
    rcases sampleSha_cases text with ⟨block, hblock, -, h⟩ | h
    · rw [h]
      exact (htable block hblock).2
    · rw [h]
      exact fun heq => absurd (List.cons_eq_cons.1 heq).1 (by decide)

def sampleEvents : List Event :=
  ["APPROVED", "FUNDED", "COLLECTED"].map fun action =>
    { action := action.toList, resourceType := "Invoice".toList, resourceId := "inv_1".toList }

def sampleTime (hour minute second : ℕ) : DateTime := .ofNat 2026 9 1 hour minute second 0

/-- Two events, one after the other. -/
theorem sample_linear_iff :
    ∃ s, run sampleSha (init sampleEvents) [(0, .select), (0, .save (sampleTime 10 0 0) 7), (1, .select),
        (1, .save (sampleTime 10 0 1) 5)] = some s ∧
      (verifyAuditChain sampleSha s.rows).1 = true ∧
      (Linear sampleSha s.rows ↔ AllTimely sampleSha (init sampleEvents) [(0, .select),
        (0, .save (sampleTime 10 0 0) 7), (1, .select), (1, .save (sampleTime 10 0 1) 5)]) := by
  refine ⟨_, rfl, by decide +kernel, log_linear_iff sampleSha_digest _ _ _ rfl⟩

/-- A clock that steps back, a call that waited for the lock of the row it found, and two first events
each leave a log that the verifier rejects. -/
theorem log_forked :
    ((run sampleSha (init sampleEvents) [(0, .select), (0, .save (sampleTime 10 0 0) 7), (1, .select),
        (1, .save (sampleTime 9 59 59) 5)]).map fun s => (verifyAuditChain sampleSha s.rows).1) = some false ∧
      ((run sampleSha (init sampleEvents) [(0, .select), (0, .save (sampleTime 10 0 0) 7), (1, .select),
        (2, .select), (1, .save (sampleTime 10 0 1) 5), (2, .grant), (2, .save (sampleTime 10 0 2) 9)]).map
        fun s => (verifyAuditChain sampleSha s.rows).1) = some false ∧
      ((run sampleSha (init sampleEvents) [(0, .select), (1, .select), (0, .save (sampleTime 10 0 0) 7),
        (1, .save (sampleTime 10 0 1) 5)]).map fun s => (verifyAuditChain sampleSha s.rows).1) =
          some false := by
  refine ⟨?_, ?_, ?_⟩ <;> decide +kernel

end Ris.Backend.Audit
