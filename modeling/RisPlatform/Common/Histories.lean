import RisPlatform.Common.Process

/-!
# Histories of checks and acts

A call that checks and then acts is safe if no other call acts between the two. `CheckedFirst` is the
invariant behind this: every check comes before the first act. With it, a call whose check no act has
followed is the first to act (`CheckedFirst.not_acted`).

`Proc.Traces` is about one call alone: what it has done when it ends, whatever the other calls do to the
store meanwhile.
-/

namespace Concurrent

variable {δ ι ℓ ε α β ω : Type}

/-! ## How often -/

section Occurrences

variable {p : Option ℓ → Bool} {hist : List (ℕ × Option ℓ)}

/-- How many entries of the history are such. -/
def occurrences (p : Option ℓ → Bool) (hist : List (ℕ × Option ℓ)) : ℕ := hist.countP fun x => p x.2

theorem occurrences_cons_of_not {e : Option ℓ} (he : p e = false) (t : ℕ) :
    occurrences p ((t, e) :: hist) = occurrences p hist :=
  List.countP_cons_of_neg (Bool.eq_false_iff.1 he)

theorem occurrences_cons_of_pos {e : Option ℓ} (he : p e = true) (t : ℕ) :
    occurrences p ((t, e) :: hist) = occurrences p hist + 1 :=
  List.countP_cons_of_pos he

theorem occurrences_eq_zero : occurrences p hist = 0 ↔ ∀ x ∈ hist, p x.2 = false := by
  rw [occurrences, List.countP_eq_zero]
  exact forall₂_congr fun x _ => Bool.not_eq_true (p x.2) ▸ Iff.rfl

/-- The history has such an entry. -/
def Occurs (p : Option ℓ → Bool) (hist : List (ℕ × Option ℓ)) : Prop := ∃ x ∈ hist, p x.2 = true

instance : Decidable (Occurs p hist) := inferInstanceAs (Decidable (∃ x ∈ hist, p x.2 = true))

theorem occurs_cons {t : ℕ} {e : Option ℓ} : Occurs p ((t, e) :: hist) ↔ p e = true ∨ Occurs p hist := by
  simp only [Occurs, List.mem_cons, exists_eq_or_imp]

theorem occurrences_eq_zero_of_not_occurs (h : ¬Occurs p hist) : occurrences p hist = 0 :=
  occurrences_eq_zero.2 fun x hx => Bool.eq_false_iff.2 fun hp => h ⟨x, hx, hp⟩

theorem occurrences_cons_of_none (h : ∀ x ∈ hist, p x.2 = false) (x : ℕ × Option ℓ) :
    occurrences p (x :: hist) ≤ 1 := by
  have hnone : occurrences p hist = 0 := occurrences_eq_zero.2 h
  rw [occurrences, List.countP_cons]
  show occurrences p hist + _ ≤ 1
  rw [hnone]
  split <;> decide

/-- What occurs once, is one entry. -/
theorem eq_of_occurrences (h : occurrences p hist ≤ 1) {x y : ℕ × Option ℓ} (hx : x ∈ hist)
    (hy : y ∈ hist) (hpx : p x.2 = true) (hpy : p y.2 = true) : x = y := by
  rw [occurrences, List.countP_eq_length_filter] at h
  have hx' : x ∈ hist.filter fun x => p x.2 := List.mem_filter.2 ⟨hx, hpx⟩
  have hy' : y ∈ hist.filter fun x => p x.2 := List.mem_filter.2 ⟨hy, hpy⟩
  obtain ⟨i, hi, hxi⟩ := List.getElem_of_mem hx'
  obtain ⟨j, hj, hyj⟩ := List.getElem_of_mem hy'
  obtain rfl : i = j := by omega
  exact hxi.symm.trans hyj

end Occurrences

/-! ## Checks before acts -/

section Checks

variable {check act : Option ℓ → Bool} {t : ℕ} {hist : List (ℕ × Option ℓ)}

/-- What happened since the call last checked. -/
def sinceCheck (t : ℕ) (check : Option ℓ → Bool) (hist : List (ℕ × Option ℓ)) : List (ℕ × Option ℓ) :=
  hist.takeWhile fun x => !(x.1 = t && check x.2)

theorem sinceCheck_cons {x : ℕ × Option ℓ} (hx : ¬(x.1 = t ∧ check x.2 = true)) :
    sinceCheck t check (x :: hist) = x :: sinceCheck t check hist := by
  refine List.takeWhile_cons_of_pos ?_
  rwa [Bool.not_eq_true', ← Bool.not_eq_true, Bool.and_eq_true, decide_eq_true_eq]

/-- No act comes before a check. -/
def CheckedFirst (check act : Option ℓ → Bool) : List (ℕ × Option ℓ) → Prop
  | [] => True
  | (_, e) :: earlier =>
    (check e = true → ∀ x ∈ earlier, act x.2 = false) ∧ CheckedFirst check act earlier

/-- A call that has checked, and since whose check nobody acted, is the first to act. -/
theorem CheckedFirst.not_acted (h : CheckedFirst check act hist)
    (hdisjoint : ∀ e, check e = true → act e = false)
    (hcheck : ∃ x ∈ hist, x.1 = t ∧ check x.2 = true)
    (hsince : ∀ x ∈ sinceCheck t check hist, act x.2 = false) : ∀ x ∈ hist, act x.2 = false := by
  induction hist with
  | nil => exact fun x hx => absurd hx List.not_mem_nil
  | cons y earlier ih =>
    obtain ⟨hhead, hearlier⟩ := h
    by_cases hy : y.1 = t ∧ check y.2 = true
    · exact List.forall_mem_cons.2 ⟨hdisjoint y.2 hy.2, hhead hy.2⟩
    · rw [sinceCheck_cons hy] at hsince
      obtain ⟨hfirst, hrest⟩ := List.forall_mem_cons.1 hsince
      refine List.forall_mem_cons.2 ⟨hfirst, ih hearlier ?_ hrest⟩
      obtain ⟨x, hx, hxt⟩ := hcheck
      rcases List.mem_cons.1 hx with rfl | hx
      · exact absurd hxt hy
      · exact ⟨x, hx, hxt⟩

end Checks

/-! ## What the entries say -/

section Entries

variable {P : List (ℕ × Option ℓ) → ℕ × Option ℓ → Prop} {hist : List (ℕ × Option ℓ)} {x : ℕ × Option ℓ}

/-- Of the history before it, each entry says the truth. -/
def Truthful (P : List (ℕ × Option ℓ) → ℕ × Option ℓ → Prop) (hist : List (ℕ × Option ℓ)) : Prop :=
  ∀ x earlier, x :: earlier <:+ hist → P earlier x

theorem truthful_nil : Truthful P [] := fun _ _ h => by simp at h

theorem Truthful.cons (h : Truthful P hist) (hx : P hist x) : Truthful P (x :: hist) := by
  intro y earlier hsuffix
  rcases List.suffix_cons_iff.1 hsuffix with heq | hold
  · obtain ⟨rfl, rfl⟩ := List.cons.inj heq
    exact hx
  · exact h y earlier hold

theorem Truthful.of_mem (h : Truthful P hist) (hx : x ∈ hist) :
    ∃ earlier, x :: earlier <:+ hist ∧ P earlier x := by
  obtain ⟨newer, earlier, hhist⟩ := List.append_of_mem hx
  have hearlier : x :: earlier <:+ hist := ⟨newer, hhist.symm⟩
  exact ⟨earlier, hearlier, h _ _ hearlier⟩

end Entries

/-! ## What a call has done -/

namespace Proc

/-- The rest of a call that has done `l`, the newest first, ends in `Q` with a value or in `E` with an
error, whatever it finds in the store, if that always has `I`. -/
def Traces (I : δ → Prop) (Q : α → List (Option ℓ) → Prop) (E : ε → List (Option ℓ) → Prop) :
    Proc δ ι ℓ ε α → List (Option ℓ) → Prop
  | .done (.ok a), l => Q a l
  | .done (.error e), l => E e l
  | .atom act rest, l => ∀ d i, I d → Traces I Q E (rest d i) (some (act d i).2 :: l)

section Rules

variable {I : δ → Prop} {Q : α → List (Option ℓ) → Prop} {E : ε → List (Option ℓ) → Prop}
  {p : Proc δ ι ℓ ε α} {l : List (Option ℓ)}

theorem Traces.mono {Q' : α → List (Option ℓ) → Prop} {E' : ε → List (Option ℓ) → Prop}
    (h : p.Traces I Q E l) (hQ : ∀ a l, Q a l → Q' a l) (hE : ∀ e l, E e l → E' e l) : p.Traces I Q' E' l := by
  induction p generalizing l with
  | done r =>
    cases r with
    | ok a => exact hQ a l h
    | error e => exact hE e l h
  | atom act rest ih => exact fun d i hd => ih d i (h d i hd)

theorem traces_pure {a : α} (h : Q a l) : (pure a : Proc δ ι ℓ ε α).Traces I Q E l := h

theorem traces_throw {e : ε} (h : E e l) : (throw e : Proc δ ι ℓ ε α).Traces I Q E l := h

theorem traces_lift {x : Except ε α} (hok : ∀ a, x = .ok a → Q a l) (herr : ∀ e, x = .error e → E e l) :
    (monadLift x : Proc δ ι ℓ ε α).Traces I Q E l := by
  cases x with
  | ok a => exact hok a rfl
  | error e => exact herr e rfl

theorem Traces.bind {R : β → List (Option ℓ) → Prop} {q : Proc δ ι ℓ ε β} {f : β → Proc δ ι ℓ ε α}
    (h : q.Traces I R E l) (hf : ∀ b l, R b l → (f b).Traces I Q E l) : (q >>= f).Traces I Q E l := by
  induction q generalizing l with
  | done r =>
    cases r with
    | ok b => exact hf b l h
    | error e => exact h
  | atom act rest ih => exact fun d i hd => ih d i (h d i hd)

theorem Traces.tryCatch {R : ε → List (Option ℓ) → Prop} {h : ε → Proc δ ι ℓ ε α}
    (hp : p.Traces I Q R l) (hh : ∀ e l, R e l → (h e).Traces I Q E l) : (tryCatch p h).Traces I Q E l := by
  induction p generalizing l with
  | done r =>
    cases r with
    | ok a => exact hp
    | error e => exact hh e l hp
  | atom act rest ih => exact fun d i hd => ih d i (hp d i hd)

theorem traces_transaction {x : Txn ι δ ε α} {committed : α → ℓ} {failed : ε → ℓ}
    (hok : ∀ i d a d', I d → x i d = .ok (a, d') → Q a (some (committed a) :: l))
    (herr : ∀ e, E e (some (failed e) :: l)) : (transaction x committed failed).Traces I Q E l := by
  intro d i hd
  cases hx : x i d with
  | ok r =>
    obtain ⟨a, d'⟩ := r
    simp only [hx, Except.map]
    exact hok i d a d' hd hx
  | error e =>
    simp only [hx, Except.map]
    exact herr e

/-- A loop keeps what each of its turns keeps. -/
theorem traces_forM {A : List (Option ℓ) → Prop} {bs : List β} {f : β → Proc δ ι ℓ ε Unit}
    (hf : ∀ b l, A l → (f b).Traces I (fun _ => A) E l) (hl : A l) :
    (bs.forM f).Traces I (fun _ => A) E l := by
  induction bs generalizing l with
  | nil => exact hl
  | cons b bs ih => exact (hf b l hl).bind fun _ l hA => ih hA

/-- A call that ends with a value only after an event, has then done it. -/
theorem OkAfter.traces {F : ℓ → Prop} (h : p.OkAfter F ∨ ∃ e, some e ∈ l ∧ F e) :
    p.Traces I (fun _ l => ∃ e, some e ∈ l ∧ F e) (fun _ _ => True) l := by
  induction p generalizing l with
  | done r =>
    cases r with
    | ok a => exact h.resolve_left fun h => h
    | error e => exact trivial
  | atom act rest ih =>
    intro d i _
    refine ih d i ?_
    rcases h with hafter | ⟨e, he, hF⟩
    · rcases hafter d i with hF | hafter
      · exact Or.inr ⟨_, List.mem_cons_self, hF⟩
      · exact Or.inl hafter
    · exact Or.inr ⟨e, List.mem_cons_of_mem _ he, hF⟩

end Rules

/-! ### In a run -/

variable {prog : ω → Proc δ ι ℓ ε Unit} {C : Cond δ ℓ} {I : δ → Prop}
  {Q : Unit → List (Option ℓ) → Prop} {E : ε → List (Option ℓ) → Prop} {t : ℕ}

/-- The call `t` has started, and ends in `Q` or `E`, unless it has returned. -/
def TracesAt (t : ℕ) (I : δ → Prop) (Q : Unit → List (Option ℓ) → Prop)
    (E : ε → List (Option ℓ) → Prop) (s : Sys δ ι ℓ ε) : Prop :=
  t < s.calls.length ∧ ∀ p, s.calls[t]? = some (some p) → p.Traces I Q E (own t s.hist)

theorem TracesAt.step {s s' : Sys δ ι ℓ ε} (h : TracesAt t I Q E s) (hI : I s.store) {a : Act ω ι}
    (ha : step prog s a = some s') : TracesAt t I Q E s' := by
  obtain ⟨hlt, htraces⟩ := h
  cases step_cases ha with
  | start op =>
    refine ⟨?_, fun p hp => htraces p ?_⟩
    · rw [List.length_append]
      omega
    · rwa [List.getElem?_append_left hlt] at hp
  | move u i act rest hcall =>
    refine ⟨by rwa [List.length_set], fun p hp => ?_⟩
    by_cases hut : u = t
    · subst hut
      rw [List.getElem?_set_self hlt, Option.some.injEq, Option.some.injEq] at hp
      subst hp
      show (rest s.store i).Traces I Q E (own u ((u, some (act s.store i).2) :: s.hist))
      rw [own_cons_self]
      exact htraces _ hcall s.store i hI
    · rw [List.getElem?_set_ne hut] at hp
      show p.Traces I Q E (own t ((u, some (act s.store i).2) :: s.hist))
      rw [own_cons_of_ne hut]
      exact htraces p hp
  | ret u r hcall =>
    refine ⟨by rwa [List.length_set], fun p hp => ?_⟩
    by_cases hut : u = t
    · subst hut
      rw [List.getElem?_set_self hlt] at hp
      cases hp
    · rw [List.getElem?_set_ne hut] at hp
      show p.Traces I Q E (own t ((u, none) :: s.hist))
      rw [own_cons_of_ne hut]
      exact htraces p hp

theorem TracesAt.reaches {s s' : Sys δ ι ℓ ε} (h : TracesAt t I Q E s)
    (hI : ∀ s₁, Reaches prog C s s₁ → I s₁.store) (hs : Reaches prog C s s') : TracesAt t I Q E s' := by
  induction hs with
  | refl => exact h
  | tail hbefore hstep ih =>
    obtain ⟨a, ha, -⟩ := hstep
    exact ih.step (hI _ hbefore) ha

end Proc

/-! ## The end of a call -/

/-- The call has come to its end, with a value. -/
def endsOk (t : ℕ) (s : Sys δ ι ℓ ε) : Bool :=
  match s.calls[t]? with
  | some (some (.done (.ok ()))) => true
  | _ => false

/-- The call has come to its end, with an error. -/
def endsWithError (t : ℕ) (s : Sys δ ι ℓ ε) : Bool :=
  match s.calls[t]? with
  | some (some (.done (.error _))) => true
  | _ => false

theorem endsOk_iff {t : ℕ} {s : Sys δ ι ℓ ε} :
    endsOk t s = true ↔ s.calls[t]? = some (some (.done (.ok ()))) := by
  unfold endsOk
  split
  next h => exact ⟨fun _ => h, fun _ => rfl⟩
  next hne => exact ⟨fun h => absurd h Bool.false_ne_true, fun heq => absurd heq hne⟩

theorem exists_of_endsWithError {t : ℕ} {s : Sys δ ι ℓ ε} (h : endsWithError t s = true) :
    ∃ e, s.calls[t]? = some (some (.done (.error e))) := by
  unfold endsWithError at h
  split at h
  next e heq => exact ⟨e, heq⟩
  next => cases h

end Concurrent
