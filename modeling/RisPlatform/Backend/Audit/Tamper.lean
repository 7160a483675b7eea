import RisPlatform.Backend.Audit.Chain

/-!
# Which changes of the audit log are seen

Someone changes rows, deletes and adds some, but makes no new hash. The verifier rejects what comes of it
unless it is a first part of the log as the verifier reads it: in its order, with the two hash columns and
the hashed texts (`tamper_seen_iff`). So the end of the log can be cut off, what is not in the hashed text
can be changed, and a colon can change sides between two fields.
-/

namespace Ris.Backend.Audit

open HashChain

variable {sha256 : Text → Text} {rows rows' : List AuditLog}

/-- What the verifier reads of an entry. -/
def AuditLog.hashed (entry : AuditLog) : Text × Text × Text :=
  (entry.previousHash, entry.hash, entry.rawString)

/-- The rows in the order of the verifier. -/
def inOrder (rows : List AuditLog) : List AuditLog := rows.insertionSort fun a b => a.key ≤ b.key

/-- The changed rows read as a first part of the log. -/
def FirstPart (rows' rows : List AuditLog) : Prop :=
  (inOrder rows').map AuditLog.hashed <+: (inOrder rows).map AuditLog.hashed

instance : Decidable (FirstPart rows' rows) :=
  inferInstanceAs (Decidable (_ <+: _))

/-- The text of a block begins with the hash before it, which has no colon. -/
theorem previousHash_of_rawString {a b : AuditLog} (h : a.rawString = b.rawString)
    (ha : ':' ∉ a.previousHash) (hb : ':' ∉ b.previousHash) : a.previousHash = b.previousHash := by
  have hsplit := congrArg (List.splitOn ':') h
  unfold AuditLog.rawString at hsplit
  rw [List.splitOn_append_cons_self_of_not_mem ha, List.splitOn_append_cons_self_of_not_mem hb] at hsplit
  exact (List.cons_eq_cons.1 hsplit).1

theorem colon_not_mem_of_valid (hsha : Digest sha256) {es : List AuditLog}
    (hv : (auditChain sha256).Valid GENESIS_HASH es) {hash : Text}
    (h : hash ∈ GENESIS_HASH :: es.map AuditLog.hash) : ':' ∉ hash := by
  rcases List.mem_cons.1 h with rfl | h
  · decide
  · obtain ⟨entry, hentry, rfl⟩ := List.mem_map.1 h
    rw [show entry.hash = entry.calculateHash sha256 from hash_of_valid hv hentry]
    exact hsha.colon_not_mem _

/-- With hashes that tell texts apart, the hashed texts are told apart by the hashes. -/
theorem firstPart_iff (hinj : Function.Injective sha256) : FirstPart rows' rows ↔
    ((auditChain sha256).ordered rows').map (auditChain sha256).print <+:
      ((auditChain sha256).ordered rows).map (auditChain sha256).print := by
  have hprint : (auditChain sha256).print =
      (fun x : Text × Text × Text => (x.1, x.2.1, sha256 x.2.2)) ∘ AuditLog.hashed := rfl
  have hinj' : Function.Injective fun x : Text × Text × Text => (x.1, x.2.1, sha256 x.2.2) := by
    rintro ⟨a, b, c⟩ ⟨a', b', c'⟩ h
    simp only [Prod.mk.injEq] at h
    obtain ⟨rfl, rfl, hc⟩ := h
    rw [hinj hc]
  rw [hprint, ← List.map_map, ← List.map_map, List.prefix_map_iff_of_injective hinj']
  rfl

/-- Of a log that the verifier accepts, changed without a new hash: the verifier rejects the result if and
only if it is no first part of the log. -/
theorem tamper_seen_iff (hsha : Digest sha256) (hinj : Function.Injective sha256)
    (rows rows' : List AuditLog)
    (hu : (auditChain sha256).Unique rows) (hv : (verifyAuditChain sha256 rows).1 = true)
    (hold : ∀ entry' ∈ rows', entry'.hash = entry'.calculateHash sha256 →
      ∃ entry ∈ rows, entry.hash = entry'.hash) :
    (verifyAuditChain sha256 rows').1 = false ↔ ¬ FirstPart rows' rows := by
  rw [verify_iff] at hv
  have hnd := nodup_cons_hash hu (fun _ => hsha.ne_genesis _) hv
  rw [← Bool.not_eq_true, verify_iff, firstPart_iff hinj, not_iff_not]
  refine valid_iff_prefix hv hnd (fun entry' hentry' hhash => ?_) fun a b hab ha hb => ?_
  · obtain ⟨entry, hentry, heq⟩ := hold entry' (mem_ordered.1 hentry') hhash
    exact List.mem_map.2 ⟨entry, mem_ordered.2 hentry, heq⟩
  · exact previousHash_of_rawString (hinj hab) (colon_not_mem_of_valid hsha hv ha)
      (colon_not_mem_of_valid hsha hv hb)

/-! ## Samples -/

theorem sampleSha_injective : Function.Injective sampleSha := by
  have hnd : (sampleTable.map Prod.snd).Nodup := by decide +kernel
  have htable : ∀ block ∈ sampleTable, ∀ block' ∈ sampleTable, block.2 = block'.2 → block.1 = block'.1 :=
    fun block hblock block' hblock' h => congrArg Prod.fst (List.inj_on_of_nodup_map hnd hblock hblock' h)
  have hx : ∀ block ∈ sampleTable, block.2.head? ≠ some 'x' := by decide +kernel
  intro text text' h
  rcases sampleSha_cases text with ⟨block, hblock, rfl, heq⟩ | heq <;>
    rcases sampleSha_cases text' with ⟨block', hblock', rfl, heq'⟩ | heq' <;> rw [heq, heq'] at h
  · exact htable block hblock block' hblock' h
  · exact absurd (congrArg List.head? h) (hx block hblock)
  · exact absurd (congrArg List.head? h).symm (hx block' hblock')
  · have hlen := congrArg List.length (List.cons_eq_cons.1 h).2
    rw [List.length_replicate, List.length_replicate] at hlen
    exact List.map_injective_iff.2 (fun _ _ => Char.toNat_inj.1) (Encodable.encode_injective hlen)

def sampleEntry : AuditLog :=
  newEntry sampleSha
    { action := "APPROVED".toList, resourceType := "Invoice".toList, resourceId := "inv_1".toList } none
    (sampleTime 10 0 0) 7

def sampleRows : List AuditLog :=
  [sampleEntry, newEntry sampleSha
    { action := "FUNDED".toList, resourceType := "Invoice".toList, resourceId := "inv_1".toList }
    (some sampleEntry) (sampleTime 10 0 1) 5]

theorem sampleRows_verified : (verifyAuditChain sampleSha sampleRows).1 = true := by decide +kernel

/-- Another action in the first row. -/
theorem action_seen : (verifyAuditChain sampleSha sampleRows).1 = true ∧
    (verifyAuditChain sampleSha ({ sampleEntry with action := "REJECTED".toList } :: sampleRows.drop 1)).1 =
      false := by
  refine ⟨sampleRows_verified,
    (tamper_seen_iff sampleSha_digest sampleSha_injective sampleRows _ ⟨?_, ?_⟩ sampleRows_verified ?_).2 ?_⟩
  · show (sampleRows.map AuditLog.key).Nodup
    decide +kernel
  · show (sampleRows.map AuditLog.hash).Nodup
    decide +kernel
  · intro entry' hentry' _
    rcases List.mem_cons.1 hentry' with rfl | hentry'
    · exact ⟨sampleEntry, List.mem_cons_self, rfl⟩
    · exact ⟨entry', List.mem_of_mem_drop hentry', rfl⟩
  · decide +kernel

/-- A row whose resource identifier has a colon. -/
def sampleColon : AuditLog :=
  newEntry sampleSha
    { action := "APPROVED".toList, resourceType := "Invoice".toList, resourceId := "inv:1".toList } none
    (sampleTime 10 0 0) 7

/-- Other actors, roles, addresses and marks, a row less, a colon that has changed sides: the verifier
accepts. -/
theorem changes_unseen :
    (verifyAuditChain sampleSha sampleRows).1 = true ∧
      (verifyAuditChain sampleSha (sampleRows.map fun entry =>
        { entry with
          actor := some 3
          actorRole := "admin".toList
          ipAddress := some "10.0.0.1".toList
          isGenesis := !entry.isGenesis })).1 = true ∧
      (verifyAuditChain sampleSha (sampleRows.take 1)).1 = true ∧
      (verifyAuditChain sampleSha [sampleColon]).1 = true ∧
      (verifyAuditChain sampleSha [{ sampleColon with
        resourceType := "Invoice:inv".toList
        resourceId := "1".toList }]).1 = true := by
  refine ⟨sampleRows_verified, ?_, ?_, ?_, ?_⟩ <;> decide +kernel

end Ris.Backend.Audit
