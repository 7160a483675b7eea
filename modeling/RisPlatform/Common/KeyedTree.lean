import Mathlib.Data.List.Nodup
import Mathlib.Data.List.Perm.Subperm

/-!
# Renaming the keys of a nested value

A `KeyedTree` has leaves, lists and records. `rename lost f` builds every record anew, giving the field of a key
the key that `f` makes of it: a key that is there already is overwritten, and a key that is `lost` makes no
field. Two renamings in a row give a value with distinct keys back if and only if they do so for every key at
any depth and lose none (`rename_rename_iff`).
-/

variable {κ α : Type}

/-- A value with keys `κ` and leaves `α`. -/
inductive KeyedTree (κ α : Type) : Type
  | leaf (a : α)
  | list (items : List (KeyedTree κ α))
  | record (fields : List (κ × KeyedTree κ α))

namespace KeyedTree

mutual

/-- The keys, at any depth. -/
def keys : KeyedTree κ α → List κ
  | .leaf _ => []
  | .list items => itemKeys items
  | .record fields => fieldKeys fields

def itemKeys : List (KeyedTree κ α) → List κ
  | [] => []
  | item :: items => item.keys ++ itemKeys items

def fieldKeys : List (κ × KeyedTree κ α) → List κ
  | [] => []
  | (key, value) :: fields => key :: value.keys ++ fieldKeys fields

end

mutual

/-- The keys of a record are distinct. -/
def Distinct : KeyedTree κ α → Prop
  | .leaf _ => True
  | .list items => DistinctItems items
  | .record fields => (fields.map Prod.fst).Nodup ∧ DistinctFields fields

def DistinctItems : List (KeyedTree κ α) → Prop
  | [] => True
  | item :: items => item.Distinct ∧ DistinctItems items

def DistinctFields : List (κ × KeyedTree κ α) → Prop
  | [] => True
  | (_, value) :: fields => value.Distinct ∧ DistinctFields fields

end

section Rename

variable [DecidableEq κ]

/-- `result[key] = value` -/
def assign (lost : κ → Bool) (result : List (κ × KeyedTree κ α)) (key : κ) (value : KeyedTree κ α) :
    List (κ × KeyedTree κ α) :=
  if lost key then result
  else if key ∈ result.map Prod.fst then result.map fun p => if p.1 = key then (key, value) else p
  else result ++ [(key, value)]

mutual

def rename (lost : κ → Bool) (f : κ → κ) : KeyedTree κ α → KeyedTree κ α
  | .leaf a => .leaf a
  | .list items => .list (renameItems lost f items)
  | .record fields => .record (renameFields lost f [] fields)

def renameItems (lost : κ → Bool) (f : κ → κ) : List (KeyedTree κ α) → List (KeyedTree κ α)
  | [] => []
  | item :: items => item.rename lost f :: renameItems lost f items

/-- The loop over the fields, from what it has built. -/
def renameFields (lost : κ → Bool) (f : κ → κ) (result : List (κ × KeyedTree κ α)) :
    List (κ × KeyedTree κ α) → List (κ × KeyedTree κ α)
  | [] => result
  | (key, value) :: fields =>
    renameFields lost f (assign lost result (f key) (value.rename lost f)) fields

end

variable {lost : κ → Bool} {f g : κ → κ} {result fields : List (κ × KeyedTree κ α)} {key : κ}
  {value : KeyedTree κ α}

theorem keys_assign :
    (assign lost result key value).map Prod.fst =
      if lost key = true ∨ key ∈ result.map Prod.fst then result.map Prod.fst
      else result.map Prod.fst ++ [key] := by
  unfold assign
  by_cases hlost : lost key = true
  · rw [if_pos hlost, if_pos (Or.inl hlost)]
  rw [if_neg hlost]
  by_cases hmem : key ∈ result.map Prod.fst
  · rw [if_pos hmem, if_pos (Or.inr hmem), List.map_map]
    refine List.map_congr_left fun p _ => ?_
    by_cases hp : p.1 = key <;> simp [hp]
  · rw [if_neg hmem, if_neg (not_or.2 ⟨hlost, hmem⟩), List.map_append, List.map_singleton]

theorem assign_of_new (hlost : lost key = false) (hmem : key ∉ result.map Prod.fst) :
    assign lost result key value = result ++ [(key, value)] := by
  rw [assign, if_neg (by rw [hlost]; exact Bool.false_ne_true), if_neg hmem]

/-- What a renaming makes of a field. -/
def renameField (lost : κ → Bool) (f : κ → κ) (p : κ × KeyedTree κ α) : κ × KeyedTree κ α :=
  (f p.1, p.2.rename lost f)

/-- Where no two keys become one and none is lost, the fields are renamed one by one. -/
theorem renameFields_of_nodup (fields : List (κ × KeyedTree κ α)) :
    ∀ result : List (κ × KeyedTree κ α),
      (result.map Prod.fst ++ fields.map fun p => f p.1).Nodup → (∀ p ∈ fields, lost (f p.1) = false) →
        renameFields lost f result fields = result ++ fields.map (renameField lost f) := by
  induction fields with
  | nil => exact fun result _ _ => (List.append_nil result).symm
  | cons p fields ih =>
    intro result hnodup hlost
    have hnew : f p.1 ∉ result.map Prod.fst := by
      intro hmem
      exact List.disjoint_of_nodup_append hnodup hmem List.mem_cons_self
    rw [renameFields, assign_of_new (hlost p List.mem_cons_self) hnew, ih, List.append_assoc]
    · rfl
    · rwa [List.map_append, List.map_singleton, List.append_assoc]
    · exact fun q hq => hlost q (List.mem_cons_of_mem _ hq)

/-- A renaming makes no field too many, and if none too few, then no two keys became one. -/
theorem length_renameFields (fields : List (κ × KeyedTree κ α)) :
    ∀ result : List (κ × KeyedTree κ α), (result.map Prod.fst).Nodup →
      (renameFields lost f result fields).length ≤ result.length + fields.length ∧
        ((renameFields lost f result fields).length = result.length + fields.length →
          (result.map Prod.fst ++ fields.map fun p => f p.1).Nodup ∧ ∀ p ∈ fields, lost (f p.1) = false) := by
  induction fields with
  | nil =>
    intro result hnodup
    refine ⟨Nat.le_refl _, fun _ => ⟨?_, nofun⟩⟩
    rwa [List.map_nil, List.append_nil]
  | cons p fields ih =>
    intro result hnodup
    by_cases hnew : lost (f p.1) = false ∧ f p.1 ∉ result.map Prod.fst
    · have hassign : assign lost result (f p.1) (p.2.rename lost f) = _ := assign_of_new hnew.1 hnew.2
      have hkeys : ((result ++ [(f p.1, p.2.rename lost f)]).map Prod.fst).Nodup := by
        rw [List.map_append, List.map_singleton]
        exact hnodup.append (List.nodup_singleton _) (List.disjoint_singleton.2 hnew.2)
      obtain ⟨hle, heq⟩ := ih _ hkeys
      rw [List.length_append, List.length_singleton] at hle heq
      rw [renameFields, hassign, List.length_cons]
      refine ⟨by omega, fun h => ?_⟩
      obtain ⟨hall, hlost⟩ := heq (by omega)
      rw [List.map_append, List.map_singleton, List.append_assoc] at hall
      refine ⟨hall, fun q hq => ?_⟩
      rcases List.mem_cons.1 hq with rfl | hq
      · exact hnew.1
      · exact hlost q hq
    · -- the field overwrites another, or is lost: there is one too few
      have hkeys : (assign lost result (f p.1) (p.2.rename lost f)).map Prod.fst = result.map Prod.fst := by
        rw [keys_assign, if_pos]
        by_contra hneither
        exact hnew ⟨Bool.eq_false_iff.2 fun h => hneither (Or.inl h), fun h => hneither (Or.inr h)⟩
      have hlength := congrArg List.length hkeys
      rw [List.length_map, List.length_map] at hlength
      have hle := (ih _ (hkeys ▸ hnodup)).1
      rw [renameFields, List.length_cons]
      exact ⟨by omega, fun h => by omega⟩

/-- Two renamings of the fields of a record. -/
theorem renameFields_twice_iff (hnodup : (fields.map Prod.fst).Nodup) :
    renameFields lost g [] (renameFields lost f [] fields) = fields ↔
      (∀ p ∈ fields, lost p.1 = false ∧ lost (f p.1) = false) ∧
        fields.map (fun p => renameField lost g (renameField lost f p)) = fields := by
  have hmap : ∀ xs : List (κ × KeyedTree κ α), (xs.map fun p => (renameField lost f p)).map (fun p => g p.1) =
      xs.map fun p => (renameField lost g (renameField lost f p)).1 := by
    intro xs
    rw [List.map_map]
    rfl
  constructor
  · intro h
    -- neither renaming may make a field too few
    have hfirst := @length_renameFields _ _ _ lost f fields [] List.nodup_nil
    have hsecond := @length_renameFields _ _ _ lost g (renameFields lost f [] fields) []
      List.nodup_nil
    rw [h, List.length_nil, Nat.zero_add] at hsecond
    rw [List.length_nil, Nat.zero_add] at hfirst
    obtain ⟨hkeys, hkept⟩ := hfirst.2 (Nat.le_antisymm hfirst.1 hsecond.1)
    have hrenamed := renameFields_of_nodup fields [] hkeys hkept
    rw [List.nil_append] at hrenamed
    obtain ⟨hkeys', hkept'⟩ := hsecond.2 (Nat.le_antisymm hsecond.1 hfirst.1)
    have htwice := renameFields_of_nodup (renameFields lost f [] fields) [] hkeys' hkept'
    rw [h, List.nil_append, hrenamed, List.map_map] at htwice
    refine ⟨fun p hp => ⟨?_, hkept p hp⟩, htwice.symm⟩
    -- what comes back was assigned by the second renaming
    rw [htwice] at hp
    obtain ⟨q, hq, rfl⟩ := List.mem_map.1 hp
    exact hkept' _ (hrenamed ▸ List.mem_map_of_mem hq)
  · rintro ⟨hlost, htwice⟩
    have hkept : ∀ p ∈ fields, lost (f p.1) = false := fun p hp => (hlost p hp).2
    have hback : fields.map (fun p => (renameField lost g (renameField lost f p)).1) = fields.map Prod.fst := by
      conv_rhs => rw [← htwice]
      rw [List.map_map]
      rfl
    have hkeys : (fields.map fun p => f p.1).Nodup := by
      refine List.Nodup.of_map g ?_
      rw [List.map_map]
      exact hback ▸ hnodup
    have hrenamed := renameFields_of_nodup fields [] hkeys hkept
    rw [List.nil_append] at hrenamed
    have hkeys' : ((fields.map (renameField lost f)).map fun p => g p.1).Nodup := by
      rw [hmap, hback]
      exact hnodup
    have hkept' : ∀ p ∈ fields.map (renameField lost f), lost (g p.1) = false := by
      intro p hp
      have hkey : g p.1 ∈ fields.map Prod.fst := by
        rw [← hback, ← hmap]
        exact List.mem_map_of_mem hp
      obtain ⟨q, hq, heq⟩ := List.mem_map.1 hkey
      exact heq ▸ (hlost q hq).1
    rw [hrenamed, renameFields_of_nodup _ [] hkeys' hkept', List.nil_append, List.map_map]
    exact htwice

variable (lost f g)

mutual

/-- Two renamings give the value back just when they give every key back and lose none. -/
theorem rename_rename_iff : (value : KeyedTree κ α) → value.Distinct →
    ((value.rename lost f).rename lost g = value ↔
      ∀ key ∈ value.keys, (lost key = false ∧ lost (f key) = false) ∧ g (f key) = key)
  | .leaf _, _ => ⟨fun _ _ h => absurd h List.not_mem_nil, fun _ => rfl⟩
  | .list items, h => by
    rw [rename, rename, KeyedTree.list.injEq]
    exact renameItems_iff items h
  | .record fields, h => by
    rw [rename, rename, KeyedTree.record.injEq, renameFields_twice_iff h.1]
    exact renameFields_iff fields h.2

theorem renameItems_iff : (items : List (KeyedTree κ α)) → DistinctItems items →
    (renameItems lost g (renameItems lost f items) = items ↔
      ∀ key ∈ itemKeys items, (lost key = false ∧ lost (f key) = false) ∧ g (f key) = key)
  | [], _ => ⟨fun _ _ h => absurd h List.not_mem_nil, fun _ => rfl⟩
  | item :: items, h => by
    rw [renameItems, renameItems, List.cons_eq_cons, rename_rename_iff item h.1, renameItems_iff items h.2,
      itemKeys, List.forall_mem_append]

theorem renameFields_iff : (fields : List (κ × KeyedTree κ α)) → DistinctFields fields →
    ((∀ p ∈ fields, lost p.1 = false ∧ lost (f p.1) = false) ∧
        fields.map (fun p => renameField lost g (renameField lost f p)) = fields ↔
      ∀ key ∈ fieldKeys fields, (lost key = false ∧ lost (f key) = false) ∧ g (f key) = key)
  | [], _ => ⟨fun _ _ h => absurd h List.not_mem_nil, fun _ => ⟨nofun, rfl⟩⟩
  | (key, value) :: fields, h => by
    have hkeys : (∀ k ∈ fieldKeys ((key, value) :: fields), (lost k = false ∧ lost (f k) = false) ∧ g (f k) = k) ↔
        ((lost key = false ∧ lost (f key) = false) ∧ g (f key) = key) ∧
          (value.rename lost f).rename lost g = value ∧
            (∀ p ∈ fields, lost p.1 = false ∧ lost (f p.1) = false) ∧
              fields.map (fun p => renameField lost g (renameField lost f p)) = fields := by
      rw [fieldKeys, List.cons_append, List.forall_mem_cons, List.forall_mem_append,
        rename_rename_iff value h.1, renameFields_iff fields h.2]
    rw [hkeys, List.forall_mem_cons, List.map_cons, List.cons_eq_cons, Prod.ext_iff]
    exact ⟨fun ⟨⟨h₁, h₂⟩, ⟨h₃, h₄⟩, h₅⟩ => ⟨⟨h₁, h₃⟩, h₄, h₂, h₅⟩,
      fun ⟨⟨h₁, h₃⟩, h₄, h₂, h₅⟩ => ⟨⟨h₁, h₂⟩, ⟨h₃, h₄⟩, h₅⟩⟩

end

end Rename

end KeyedTree
