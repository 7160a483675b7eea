import Mathlib.Data.List.Sort

/-!
# Hash chains in a table

The entries of a table, each with the hash of the entry before it and with its own hash. They are chained
in the order of a key, which the rows themselves do not stand in (`ordered`).

`Broken` is what no later row repairs: two entries with one predecessor, or an entry that does not come
after its predecessor. A valid chain is not broken (`not_broken`). If no hash is added that is not in the
table, what is still valid is a first part of the chain (`valid_iff_prefix`).
-/

/-- How the entries `E` of a table are chained: by hashes `H`, in the order of keys `K`. `digest` is the
hash that an entry should have. -/
structure HashChain (E K H : Type) where
  key : E → K
  previous : E → H
  hash : E → H
  digest : E → H
  genesis : H

namespace HashChain

variable {E K H : Type} (F : HashChain E K H)

/-- The rows in the order of their keys. -/
def ordered [LinearOrder K] (rows : List E) : List E := rows.insertionSort fun a b => F.key a ≤ F.key b

/-- From the hash `p` on, each entry names the hash before it and has its own. -/
def Valid : H → List E → Prop
  | _, [] => True
  | p, e :: es => F.previous e = p ∧ F.hash e = F.digest e ∧ Valid (F.hash e) es

/-- The hash at the end of the chain. -/
def lastHash : H → List E → H
  | p, [] => p
  | _, e :: es => lastHash (F.hash e) es

/-- Keys and hashes are not shared. -/
structure Unique (rows : List E) : Prop where
  keys : (rows.map F.key).Nodup
  hashes : (rows.map F.hash).Nodup

/-- Two entries have one predecessor, or an entry does not come after its own. -/
def Broken [LinearOrder K] (rows : List E) : Prop :=
  ∃ a ∈ rows, ∃ b ∈ rows, a ≠ b ∧ F.previous a = F.previous b ∨
    F.previous a = F.hash b ∧ ¬ F.key b < F.key a

variable {F} {rows rows' es es' : List E} {p : H} {e a b : E}

/-! ## The order -/

section Order

variable [LinearOrder K]

theorem perm_ordered (rows : List E) : (F.ordered rows).Perm rows := List.perm_insertionSort _ rows

theorem mem_ordered : e ∈ F.ordered rows ↔ e ∈ rows := (perm_ordered rows).mem_iff

theorem pairwise_ordered (rows : List E) : (F.ordered rows).Pairwise fun a b => F.key a ≤ F.key b :=
  haveI : Std.Total fun a b : E => F.key a ≤ F.key b := ⟨fun a b => le_total (F.key a) (F.key b)⟩
  haveI : IsTrans E fun a b : E => F.key a ≤ F.key b := ⟨fun _ _ _ => le_trans⟩
  List.pairwise_insertionSort _ rows

theorem Unique.ordered (h : F.Unique rows) : F.Unique (F.ordered rows) where
  keys := ((perm_ordered rows).map F.key).nodup_iff.2 h.keys
  hashes := ((perm_ordered rows).map F.hash).nodup_iff.2 h.hashes

theorem Unique.pairwise_lt (h : F.Unique rows) :
    (F.ordered rows).Pairwise fun a b => F.key a < F.key b := by
  have hne : (F.ordered rows).Pairwise fun a b => F.key a ≠ F.key b := List.pairwise_map.1 h.ordered.keys
  exact ((pairwise_ordered rows).and hne).imp fun h => lt_of_le_of_ne h.1 h.2

/-- Rows with the same keys in the same order are the same. -/
theorem ordered_eq_of_perm (h : (rows'.map F.key).Nodup) (hperm : rows.Perm rows')
    (hsorted : rows'.Pairwise fun a b => F.key a ≤ F.key b) : F.ordered rows = rows' := by
  refine List.Perm.eq_of_pairwise ?_ (pairwise_ordered rows) hsorted ((perm_ordered rows).trans hperm)
  intro a b ha hb hab hba
  have ha' : a ∈ rows' := hperm.mem_iff.1 (mem_ordered.1 ha)
  exact List.inj_on_of_nodup_map h ha' hb (le_antisymm hab hba)

/-- A row with a later key than all stands at the end. -/
theorem ordered_append (h : F.Unique rows) (hlt : ∀ q ∈ rows, F.key q < F.key e) :
    F.ordered (rows ++ [e]) = F.ordered rows ++ [e] := by
  apply ordered_eq_of_perm
  · rw [List.map_append, List.nodup_append]
    refine ⟨h.ordered.keys, List.nodup_singleton _, ?_⟩
    intro k hk k' hk'
    obtain ⟨q, hq, rfl⟩ := List.mem_map.1 hk
    rw [List.mem_singleton.1 hk']
    exact ne_of_lt (hlt q (mem_ordered.1 hq))
  · exact (perm_ordered rows).symm.append_right [e]
  · rw [List.pairwise_append]
    refine ⟨pairwise_ordered rows, List.pairwise_singleton _ _, ?_⟩
    intro q hq e' he'
    rw [List.mem_singleton.1 he']
    exact le_of_lt (hlt q (mem_ordered.1 hq))

end Order

/-! ## Chains -/

theorem hash_of_valid (h : F.Valid p es) (he : e ∈ es) : F.hash e = F.digest e := by
  induction es generalizing p with
  | nil => exact absurd he List.not_mem_nil
  | cons c es ih =>
    rcases List.mem_cons.1 he with rfl | he
    · exact h.2.1
    · exact ih h.2.2 he

/-- The hashes that the entries name are those before them. -/
theorem previous_initial (h : F.Valid p es) : es.map F.previous <+: p :: es.map F.hash := by
  induction es generalizing p with
  | nil => exact List.nil_prefix
  | cons c es ih => exact List.cons_prefix_cons.2 ⟨h.1, ih h.2.2⟩

theorem previous_mem (h : F.Valid p es) (he : e ∈ es) : F.previous e ∈ p :: es.map F.hash :=
  (previous_initial h).subset (List.mem_map_of_mem he)

theorem lastHash_mem (p : H) (es : List E) : F.lastHash p es ∈ p :: es.map F.hash := by
  induction es generalizing p with
  | nil => exact List.mem_singleton_self p
  | cons c es ih => exact List.mem_cons_of_mem _ (ih (F.hash c))

theorem valid_append : F.Valid p (es ++ es') ↔ F.Valid p es ∧ F.Valid (F.lastHash p es) es' := by
  induction es generalizing p with
  | nil => exact (and_iff_right trivial).symm
  | cons c es ih =>
    show _ ∧ _ ∧ F.Valid _ (es ++ es') ↔ (_ ∧ _ ∧ _) ∧ _
    rw [ih, and_assoc, and_assoc]
    rfl

theorem lastHash_append_singleton (p : H) (es : List E) (e : E) :
    F.lastHash p (es ++ [e]) = F.hash e := by
  induction es generalizing p with
  | nil => rfl
  | cons c es ih => exact ih (F.hash c)

theorem lastHash_eq (p : H) (es : List E) : F.lastHash p es = (es.getLast?.map F.hash).getD p := by
  rcases es.eq_nil_or_concat' with rfl | ⟨es, e, rfl⟩
  · rfl
  · rw [lastHash_append_singleton, List.getLast?_concat]
    rfl

/-- Only the last entry has no entry after it. -/
theorem exists_next (h : F.Valid p es) (he : e ∈ es) (hlast : F.lastHash p es ≠ F.hash e) :
    ∃ c ∈ es, F.previous c = F.hash e := by
  obtain ⟨es₁, es₂, rfl⟩ := List.append_of_mem he
  rw [List.append_cons] at h hlast ⊢
  cases es₂ with
  | nil => exact absurd (by rw [List.append_nil, lastHash_append_singleton]) hlast
  | cons c es₂ =>
    refine ⟨c, List.mem_append_right _ List.mem_cons_self, ?_⟩
    have hc := (valid_append.1 h).2.1
    rwa [lastHash_append_singleton] at hc

/-- Where all hashes differ, an entry comes after its predecessor. -/
theorem pairwise_of_previous {R : E → E → Prop} (h : F.Valid p es) (hnd : (p :: es.map F.hash).Nodup)
    (hR : es.Pairwise R) (ha : a ∈ es) (hb : b ∈ es) (hab : F.previous a = F.hash b) : R b a := by
  induction es generalizing p with
  | nil => exact absurd ha List.not_mem_nil
  | cons c es ih =>
    obtain ⟨hp, hnd'⟩ := List.nodup_cons.1 hnd
    obtain ⟨hc, hR'⟩ := List.pairwise_cons.1 hR
    rcases List.mem_cons.1 ha with rfl | ha'
    · -- the first entry names what no entry has
      rw [h.1] at hab
      exact absurd (hab ▸ List.mem_map_of_mem hb) hp
    rcases List.mem_cons.1 hb with rfl | hb'
    · exact hc a ha'
    · exact ih h.2.2 hnd' hR' ha' hb'

section Broken

variable [LinearOrder K]

theorem nodup_cons_hash (hu : F.Unique rows) (hp : ∀ e, F.digest e ≠ p)
    (h : F.Valid p (F.ordered rows)) :
    (p :: (F.ordered rows).map F.hash).Nodup := by
  refine List.nodup_cons.2 ⟨fun hmem => ?_, hu.ordered.hashes⟩
  obtain ⟨e, he, hep⟩ := List.mem_map.1 hmem
  rw [hash_of_valid h he] at hep
  exact hp e hep

theorem not_broken (hu : F.Unique rows) (hp : ∀ e, F.digest e ≠ p) (h : F.Valid p (F.ordered rows)) :
    ¬ F.Broken rows := by
  have hnd := nodup_cons_hash hu hp h
  rintro ⟨a, ha, b, hb, ⟨hne, hab⟩ | ⟨hab, hlt⟩⟩
  · have hprev : ((F.ordered rows).map F.previous).Nodup := hnd.sublist (previous_initial h).sublist
    exact hne (List.inj_on_of_nodup_map hprev (mem_ordered.2 ha) (mem_ordered.2 hb) hab)
  · exact hlt (pairwise_of_previous (R := fun a b => F.key a < F.key b) h hnd hu.pairwise_lt
      (mem_ordered.2 ha) (mem_ordered.2 hb) hab)

theorem Broken.mono (h : F.Broken rows) (hsub : rows ⊆ rows') : F.Broken rows' := by
  obtain ⟨a, ha, b, hb, hab⟩ := h
  exact ⟨a, hsub ha, b, hsub hb, hab⟩

end Broken

/-! ## What is left of a chain -/

/-- The hashes of an entry. -/
def print (F : HashChain E K H) (e : E) : H × H × H := (F.previous e, F.hash e, F.digest e)

theorem valid_of_prefix (h : F.Valid p es) (hpre : es'.map F.print <+: es.map F.print) :
    F.Valid p es' := by
  induction es' generalizing es p with
  | nil => exact trivial
  | cons e' es' ih =>
    cases es with
    | nil => exact absurd hpre (by simp)
    | cons e es =>
      obtain ⟨he, hes⟩ := List.cons_prefix_cons.1 hpre
      simp only [print, Prod.mk.injEq] at he
      obtain ⟨hprev, hhash, hdigest⟩ := he
      refine ⟨hprev.trans h.1, by rw [hhash, hdigest, h.2.1], ?_⟩
      rw [hhash]
      exact ih h.2.2 hes

/-- The entry that names the hash at the end of a first part is the next. -/
theorem next_unique {es₁ es₂ : List E} (h : F.Valid p (es₁ ++ es₂))
    (hnd : (p :: (es₁ ++ es₂).map F.hash).Nodup) (hb : b ∈ es₁ ++ es₂)
    (hprev : F.previous b = F.lastHash p es₁) : ∃ es, es₂ = b :: es := by
  induction es₁ generalizing p with
  | nil =>
    cases es₂ with
    | nil => exact absurd hb List.not_mem_nil
    | cons c es₂ =>
      rcases List.mem_cons.1 hb with rfl | hb
      · exact ⟨es₂, rfl⟩
      · have hmem := previous_mem h.2.2 hb
        rw [hprev] at hmem
        exact absurd hmem (List.nodup_cons.1 hnd).1
  | cons c es₁ ih =>
    rcases List.mem_cons.1 hb with rfl | hb
    · have hmem := lastHash_mem (F := F) (F.hash b) es₁
      rw [show F.lastHash (F.hash b) es₁ = p from hprev.symm.trans h.1] at hmem
      refine absurd ?_ (List.nodup_cons.1 hnd).1
      rw [List.cons_append, List.map_cons, List.map_append]
      rcases List.mem_cons.1 hmem with rfl | hmem
      · exact List.mem_cons_self
      · exact List.mem_cons_of_mem _ (List.mem_append_left _ hmem)
    · exact ih h.2.2 (List.nodup_cons.1 hnd).2 hb hprev

/-- Entries whose hashes are all of the chain are valid exactly if they are a first part of it. An entry's
digest says which hash it names, at least of those that stand in the chain. -/
theorem valid_iff_prefix (h : F.Valid p es) (hnd : (p :: es.map F.hash).Nodup)
    (hold : ∀ e' ∈ es', F.hash e' = F.digest e' → F.hash e' ∈ es.map F.hash)
    (hnames : ∀ a b, F.digest a = F.digest b → F.previous a ∈ p :: es.map F.hash →
      F.previous b ∈ p :: es.map F.hash → F.previous a = F.previous b) :
    F.Valid p es' ↔ es'.map F.print <+: es.map F.print := by
  refine ⟨fun h' => ?_, valid_of_prefix h⟩
  -- behind any first part, the next entry of the one is the next of the other
  have hrest : ∀ (es₂' es₁ es₂ : List E), es = es₁ ++ es₂ → (∀ e' ∈ es₂', e' ∈ es') →
      F.Valid (F.lastHash p es₁) es₂' → es₂'.map F.print <+: es₂.map F.print := by
    intro es₂'
    induction es₂' with
    | nil => exact fun _ _ _ _ _ => List.nil_prefix
    | cons e' es₂' ih =>
      intro es₁ es₂ hes hmem hv
      obtain ⟨b, hb, hbe⟩ := List.mem_map.1 (hold e' (hmem e' List.mem_cons_self) hv.2.1)
      have hdigest : F.digest e' = F.digest b := by rw [← hv.2.1, ← hash_of_valid h hb, hbe]
      have hlast : F.lastHash p es₁ ∈ p :: es.map F.hash := by
        rw [hes, List.map_append, ← List.cons_append]
        exact List.mem_append_left _ (lastHash_mem p es₁)
      have hprev : F.previous e' = F.previous b :=
        hnames e' b hdigest (hv.1 ▸ hlast) (previous_mem h hb)
      obtain ⟨es₃, rfl⟩ : ∃ es₃, es₂ = b :: es₃ :=
        next_unique (hes ▸ h) (hes ▸ hnd) (hes ▸ hb) (hprev.symm.trans hv.1)
      refine List.cons_prefix_cons.2 ⟨?_, ?_⟩
      · rw [print, print, hprev, hbe, hdigest]
      · apply ih (es₁ ++ [b]) es₃ (by rw [hes, List.append_assoc]; rfl)
          fun c hc => hmem c (List.mem_cons_of_mem _ hc)
        rw [lastHash_append_singleton, hbe]
        exact hv.2.2
  exact hrest es' [] es rfl (fun _ he => he) h'

end HashChain
