import Mathlib.Algebra.BigOperators.Group.List.Basic
import Mathlib.Algebra.Order.BigOperators.Group.List
import Mathlib.Algebra.Order.Monoid.Unbundled.Pow
import Mathlib.Data.List.Dedup
import Mathlib.Data.List.ReduceOption

/-!
# Left joins and their sums

A `LEFT JOIN` has a row for each partner of a row on the left, and one row with a null for a row that has
none. So a sum over the join counts a value from the left as often as its row has partners
(`total_leftJoin_fst`), and positive values are counted once exactly when no row has two
(`total_leftJoin_fst_eq_iff`). A value from the right is counted once for each row that it is a partner of
(`total_leftJoin_snd`, `total_partners`).

`sum` is `SUM`: nulls count nothing, and of nulls alone there is no sum. The totals of the groups of a
`GROUP BY` add up to that of all rows (`total_groups`).
-/

namespace Sql

variable {α β M : Type*}

/-! ## Totals -/

section Total

/-- The values of the rows, added up. -/
def total [AddMonoid M] (f : α → M) (l : List α) : M := (l.map f).sum

@[simp] theorem total_nil [AddMonoid M] (f : α → M) : total f [] = 0 := rfl

@[simp] theorem total_cons [AddMonoid M] (f : α → M) (a : α) (l : List α) :
    total f (a :: l) = f a + total f l := by
  rw [total, List.map_cons, List.sum_cons]
  rfl

theorem total_append [AddMonoid M] (f : α → M) (l l' : List α) :
    total f (l ++ l') = total f l + total f l' := by
  rw [total, List.map_append, List.sum_append]
  rfl

theorem total_map [AddMonoid M] (f : β → M) (g : α → β) (l : List α) :
    total f (l.map g) = total (fun a => f (g a)) l := by
  rw [total, List.map_map]
  rfl

theorem total_congr [AddMonoid M] {f g : α → M} {l : List α} (h : ∀ a ∈ l, f a = g a) :
    total f l = total g l := by
  rw [total, List.map_congr_left h]
  rfl

theorem total_const [AddMonoid M] (x : M) (l : List α) : total (fun _ => x) l = l.length • x := by
  rw [total, List.map_const', List.sum_replicate]

theorem total_one (l : List α) : total (fun _ => 1) l = l.length := by
  rw [total, List.map_const', List.sum_replicate_nat, mul_one]

theorem total_perm [AddCommMonoid M] (f : α → M) {l l' : List α} (h : l.Perm l') :
    total f l = total f l' := (h.map f).sum_eq

theorem total_add [AddCommMonoid M] (f g : α → M) (l : List α) :
    total (fun a => f a + g a) l = total f l + total g l := by
  induction l with
  | nil => exact (add_zero 0).symm
  | cons a l ih =>
      rw [total_cons, total_cons, total_cons, ih]
      exact add_add_add_comm _ _ _ _

/-- The values of a part of the rows. -/
theorem total_filter [AddMonoid M] (p : α → Bool) (f : α → M) (l : List α) :
    total f (l.filter p) = total (fun a => if p a then f a else 0) l := by
  induction l with
  | nil => rfl
  | cons a l ih =>
      by_cases hp : p a = true
      · rw [List.filter_cons_of_pos hp, total_cons, total_cons, if_pos hp, ih]
      · rw [List.filter_cons_of_neg hp, total_cons, if_neg hp, zero_add, ih]

/-- Two filters that never agree add up. -/
theorem total_filter_or [AddCommMonoid M] {p q : α → Bool} {l : List α}
    (h : ∀ a ∈ l, ¬(p a = true ∧ q a = true)) (f : α → M) :
    total f (l.filter fun a => p a || q a) = total f (l.filter p) + total f (l.filter q) := by
  rw [total_filter, total_filter, total_filter, ← total_add]
  apply total_congr
  intro a ha
  have hboth := h a ha
  by_cases hp : p a = true
  · have hq : q a = false := by simpa [hp] using hboth
    simp [hp, hq]
  · simp [hp]

/-- Rows that are all among others, none twice, add up to no more. -/
theorem total_le_of_subset [AddCommMonoid M] [PartialOrder M] [IsOrderedAddMonoid M] {f : α → M}
    {l l' : List α} (hnodup : l.Nodup) (hsub : l ⊆ l') (hf : ∀ a ∈ l', 0 ≤ f a) :
    total f l ≤ total f l' := by
  obtain ⟨l₀, hperm, hsublist⟩ := List.subperm_of_subset hnodup hsub
  rw [← total_perm f hperm]
  refine (hsublist.map f).sum_le_sum fun x hx => ?_
  obtain ⟨a, ha, rfl⟩ := List.mem_map.1 hx
  exact hf a ha

end Total

/-! ## `SUM` -/

def sum [AddMonoid M] (xs : List (Option M)) : Option M :=
  match xs.reduceOption with
  | [] => none
  | ys => some (total id ys)

theorem total_reduceOption [AddMonoid M] (xs : List (Option M)) :
    total id xs.reduceOption = total (fun x => x.getD 0) xs := by
  induction xs with
  | nil => rfl
  | cons x xs ih =>
      cases x with
      | none => rw [List.reduceOption_cons_of_none, ih, total_cons, Option.getD_none, zero_add]
      | some y => rw [List.reduceOption_cons_of_some, total_cons, ih, total_cons, Option.getD_some, id]

/-- `COALESCE(SUM(x), 0)` adds the values up. -/
theorem sum_getD [AddMonoid M] (f : α → Option M) (l : List α) :
    (sum (l.map f)).getD 0 = total (fun a => (f a).getD 0) l := by
  rw [← total_map (fun x : Option M => x.getD 0), ← total_reduceOption, sum]
  split
  · rename_i hnil
    rw [hnil, Option.getD_none, total_nil]
  · rfl

theorem sum_eq_none_iff [AddMonoid M] (xs : List (Option M)) : sum xs = none ↔ ∀ x ∈ xs, x = none := by
  have hvalues : sum xs = none ↔ xs.reduceOption = [] := by
    unfold sum
    split
    · rename_i hnil
      exact iff_of_true rfl hnil
    · rename_i hsome
      exact iff_of_false (Option.some_ne_none _) hsome
  rw [hvalues, List.reduceOption, List.filterMap_eq_nil_iff]
  rfl

/-! ## Joins -/

/-- The rows on the right that a row on the left is joined with. -/
def partners (on : α → β → Bool) (r : List β) (a : α) : List β := r.filter (on a)

/-- The partners, or a null. -/
def padded : List β → List (Option β)
  | [] => [none]
  | b :: bs => (b :: bs).map some

/-- `l LEFT JOIN r ON ..` -/
def leftJoin (on : α → β → Bool) (l : List α) (r : List β) : List (α × Option β) :=
  l.flatMap fun a => (padded (partners on r a)).map fun o => (a, o)

theorem padded_length_pos (bs : List β) : 0 < (padded bs).length := by
  cases bs with
  | nil => exact Nat.one_pos
  | cons b bs =>
      rw [padded, List.length_map]
      exact Nat.succ_pos _

theorem padded_length_eq_one_iff (bs : List β) : (padded bs).length = 1 ↔ bs.length ≤ 1 := by
  cases bs with
  | nil => exact iff_of_true rfl (Nat.zero_le 1)
  | cons b bs =>
      rw [padded, List.length_map, List.length_cons]
      omega

variable {on : α → β → Bool} {l : List α} {r : List β}

/-- Every row on the left is in the join, and no other. -/
theorem forall_leftJoin_fst {P : α → Prop} : (∀ x ∈ leftJoin on l r, P x.1) ↔ ∀ a ∈ l, P a := by
  constructor
  · intro h a ha
    obtain ⟨o, ho⟩ := List.exists_mem_of_length_pos (padded_length_pos (partners on r a))
    exact h (a, o) (List.mem_flatMap.2 ⟨a, ha, List.mem_map_of_mem ho⟩)
  · intro h x hx
    obtain ⟨a, ha, hrow⟩ := List.mem_flatMap.1 hx
    obtain ⟨o, -, rfl⟩ := List.mem_map.1 hrow
    exact h a ha

theorem forall_leftJoin_snd : (∀ x ∈ leftJoin on l r, x.2 = none) ↔ ∀ a ∈ l, partners on r a = [] := by
  constructor
  · intro h a ha
    cases hb : partners on r a with
    | nil => rfl
    | cons b bs =>
        have hmem : some b ∈ padded (partners on r a) := by
          rw [hb]
          exact List.mem_map_of_mem List.mem_cons_self
        exact absurd (h (a, some b) (List.mem_flatMap.2 ⟨a, ha, List.mem_map_of_mem hmem⟩))
          (Option.some_ne_none b)
  · intro h x hx
    obtain ⟨a, ha, hrow⟩ := List.mem_flatMap.1 hx
    obtain ⟨o, ho, rfl⟩ := List.mem_map.1 hrow
    rw [h a ha] at ho
    exact List.mem_singleton.1 ho

theorem leftJoin_cons (a : α) :
    leftJoin on (a :: l) r = (padded (partners on r a)).map (fun o => (a, o)) ++ leftJoin on l r :=
  List.flatMap_cons

/-- A join with one partner at most is a lookup. -/
theorem leftJoin_eq_map {f : α → Option β} (h : ∀ a ∈ l, partners on r a = (f a).toList) :
    leftJoin on l r = l.map fun a => (a, f a) := by
  induction l with
  | nil => rfl
  | cons a l ih =>
      obtain ⟨ha, htail⟩ := List.forall_mem_cons.1 h
      rw [leftJoin_cons, ih htail, ha, List.map_cons]
      cases f a with
      | none => rfl
      | some b => rfl

/-- A join on the key of the right side is a lookup. -/
theorem partners_key {κ : Type*} [DecidableEq κ] {key : β → κ} (h : (r.map key).Nodup) (k : κ) :
    r.filter (fun b => key b = k) = (r.find? fun b => key b = k).toList := by
  induction r with
  | nil => rfl
  | cons b r ih =>
      rw [List.map_cons, List.nodup_cons] at h
      by_cases hb : key b = k
      · -- no later row has the key
        have hnone : r.filter (fun b' => key b' = k) = [] := by
          refine List.filter_eq_nil_iff.2 fun b' hb' heq => h.1 ?_
          exact List.mem_map.2 ⟨b', hb', (of_decide_eq_true heq).trans hb.symm⟩
        rw [List.filter_cons_of_pos (by simpa using hb), List.find?_cons_of_pos (by simpa using hb), hnone]
        rfl
      · rw [List.filter_cons_of_neg (by simpa using hb), List.find?_cons_of_neg (by simpa using hb), ih h.2]

/-! ## Sums over the left side -/

theorem total_leftJoin_fst [AddMonoid M] (f : α → M) :
    total (fun x => f x.1) (leftJoin on l r) =
      total (fun a => (padded (partners on r a)).length • f a) l := by
  induction l with
  | nil => rfl
  | cons a l ih =>
      have hrows : total (fun x : α × Option β => f x.1) ((padded (partners on r a)).map fun o => (a, o)) =
          (padded (partners on r a)).length • f a := by
        rw [total_map]
        exact total_const (f a) _
      rw [leftJoin_cons, total_append, ih, hrows, total_cons]

section Ordered

variable [AddCommMonoid M] [PartialOrder M] [IsOrderedCancelAddMonoid M] {f : α → M}

theorem total_le_total_leftJoin_fst (hf : ∀ a ∈ l, 0 ≤ f a) :
    total f l ≤ total (fun x => f x.1) (leftJoin on l r) := by
  rw [total_leftJoin_fst]
  apply List.sum_le_sum
  intro a ha
  calc f a = 1 • f a := (one_nsmul _).symm
    _ ≤ _ := nsmul_le_nsmul_left (hf a ha) (padded_length_pos _)

/-- Positive values are counted once exactly when no row has two partners. -/
theorem total_leftJoin_fst_eq_iff (hf : ∀ a ∈ l, 0 < f a) :
    total (fun x => f x.1) (leftJoin on l r) = total f l ↔
      ∀ a ∈ l, (partners on r a).length ≤ 1 := by
  rw [total_leftJoin_fst]
  induction l with
  | nil => exact iff_of_true rfl (List.forall_mem_nil _)
  | cons a l ih =>
      have htail : ∀ x ∈ l, 0 < f x := fun x hx => hf x (List.mem_cons_of_mem a hx)
      have hrest : total f l ≤ total (fun x => (padded (partners on r x)).length • f x) l := by
        rw [← total_leftJoin_fst]
        exact total_le_total_leftJoin_fst fun x hx => (htail x hx).le
      rw [total_cons, total_cons, List.forall_mem_cons, ← ih htail, ← padded_length_eq_one_iff]
      constructor
      · intro h
        -- a row with two partners would count for more, and the others for no less
        have hone : (padded (partners on r a)).length = 1 := by
          by_contra hne
          have htwo : 1 < (padded (partners on r a)).length :=
            lt_of_le_of_ne (padded_length_pos _) (Ne.symm hne)
          have hmore : f a < (padded (partners on r a)).length • f a := by
            calc f a = 1 • f a := (one_nsmul _).symm
              _ < _ := nsmul_lt_nsmul_left (hf a List.mem_cons_self) htwo
          exact absurd h (add_lt_add_of_lt_of_le hmore hrest).ne'
        rw [hone, one_nsmul] at h
        exact ⟨hone, add_left_cancel h⟩
      · rintro ⟨hone, htotal⟩
        rw [hone, one_nsmul, htotal]

end Ordered

/-- Without two partners the join has one row for each on the left. -/
theorem total_leftJoin_fst_of_le [AddMonoid M] (h : ∀ a ∈ l, (partners on r a).length ≤ 1) (f : α → M) :
    total (fun x => f x.1) (leftJoin on l r) = total f l := by
  rw [total_leftJoin_fst]
  apply total_congr
  intro a ha
  rw [(padded_length_eq_one_iff _).2 (h a ha), one_nsmul]

/-! ## Sums over the right side -/

theorem total_leftJoin_snd [AddMonoid M] (g : α → β → M) :
    total (fun x => x.2.elim 0 (g x.1)) (leftJoin on l r) =
      total (fun a => total (g a) (partners on r a)) l := by
  induction l with
  | nil => rfl
  | cons a l ih =>
      have hrows : total (fun x : α × Option β => x.2.elim 0 (g x.1))
          ((padded (partners on r a)).map fun o => (a, o)) = total (g a) (partners on r a) := by
        rw [total_map]
        cases partners on r a with
        | nil => exact add_zero 0
        | cons b bs =>
            rw [padded, total_map]
            rfl
      rw [leftJoin_cons, total_append, ih, hrows, total_cons]

/-- The rows on the right that have a partner on the left. -/
def matched (on : α → β → Bool) (l : List α) (r : List β) : List β := r.filter fun b => l.any (on · b)

theorem matched_eq_nil_iff : matched on l r = [] ↔ ∀ a ∈ l, partners on r a = [] := by
  simp only [matched, partners, List.filter_eq_nil_iff, List.any_eq_true, not_exists, not_and]
  exact ⟨fun h a ha b hb => h b hb a ha, fun h b hb a ha => h a ha b hb⟩

/-- A row on the right that is no partner of two is counted once. -/
theorem total_partners [AddCommMonoid M]
    (h : l.Pairwise fun a a' => ∀ b, ¬(on a b = true ∧ on a' b = true)) (g : β → M) :
    total (fun a => total g (partners on r a)) l = total g (matched on l r) := by
  induction l with
  | nil =>
      have hnone : matched on [] r = [] := matched_eq_nil_iff.2 (List.forall_mem_nil _)
      rw [hnone, total_nil, total_nil]
  | cons a l ih =>
      obtain ⟨hhead, htail⟩ := List.pairwise_cons.1 h
      -- a partner of the first row is none of a later one
      have hdisjoint : ∀ b ∈ r, ¬(on a b = true ∧ l.any (on · b) = true) := by
        rintro b - ⟨ha, hany⟩
        obtain ⟨a', ha', hb⟩ := List.any_eq_true.1 hany
        exact hhead a' ha' b ⟨ha, hb⟩
      rw [total_cons, ih htail]
      exact (total_filter_or hdisjoint g).symm

/-! ## Groups -/

section Groups

variable {κ : Type*} [DecidableEq κ]

/-- The rows with this value of the key. -/
def group (key : α → κ) (l : List α) : κ → List α := partners (fun k a => key a = k) l

/-- `GROUP BY key`: every value of the key, with its rows. -/
def groups (key : α → κ) (l : List α) : List (κ × List α) :=
  (l.map key).dedup.map fun k => (k, group key l k)

theorem mem_group {key : α → κ} {k : κ} {a : α} : a ∈ group key l k ↔ a ∈ l ∧ key a = k := by
  rw [group, partners, List.mem_filter, decide_eq_true_iff]

theorem mem_groups {key : α → κ} {g : κ × List α} :
    g ∈ groups key l ↔ (∃ a ∈ l, key a = g.1) ∧ g.2 = group key l g.1 := by
  obtain ⟨k, as⟩ := g
  simp only [groups, List.mem_map, List.mem_dedup, Prod.mk.injEq]
  constructor
  · rintro ⟨k', hk, rfl, rfl⟩
    exact ⟨hk, rfl⟩
  · rintro ⟨hk, rfl⟩
    exact ⟨k, hk, rfl, rfl⟩

/-- No value of the key makes two groups. -/
theorem nodup_groups (key : α → κ) (l : List α) : ((groups key l).map Prod.fst).Nodup := by
  rw [groups, List.map_map]
  exact (List.map_id _).symm ▸ List.nodup_dedup _

/-- The groups have all rows, and none twice. -/
theorem total_groups [AddCommMonoid M] (key : α → κ) (f : α → M) (l : List α) :
    total (fun g => total f g.2) (groups key l) = total f l := by
  have hdisjoint : (l.map key).dedup.Pairwise fun k k' =>
      ∀ a, ¬(decide (key a = k) = true ∧ decide (key a = k') = true) := by
    refine (List.nodup_dedup _).imp fun hne a h => hne ?_
    exact (of_decide_eq_true h.1).symm.trans (of_decide_eq_true h.2)
  have hall : matched (fun k a => decide (key a = k)) (l.map key).dedup l = l := by
    refine List.filter_eq_self.2 fun a ha => List.any_eq_true.2 ⟨key a, ?_, decide_eq_true rfl⟩
    exact List.mem_dedup.2 (List.mem_map_of_mem ha)
  rw [groups, total_map]
  exact (total_partners hdisjoint f).trans (congrArg (total f) hall)

/-- The groups of a part of the rows are parts of the groups. -/
theorem group_filter (key : α → κ) (p : α → Bool) (l : List α) (k : κ) :
    group key (l.filter p) k = (group key l k).filter p :=
  List.filter_comm _ _ _

end Groups

end Sql
