import RisPlatform.Common.Process

/-!
# Calls that run alone

A batch job that runs while nothing else does is a sequential program: the store after a statement is
the store before the next one. `Proc.Ends` is its weakest precondition, over the inputs that satisfy a
predicate `good`; it has one rule for each way to compose calls. `Proc.Ends.run` is its adequacy for the
system of calls: it speaks about the schedule in which the call runs from its start to its return.
-/

namespace Concurrent

variable {δ ι ℓ ε α β ω : Type}

namespace Proc

/-- However the good inputs are drawn, the call that runs alone from `d` ends in `Q` with a value or in
`E` with an error. -/
def Ends (good : ι → Prop) (Q : α → δ → Prop) (E : ε → δ → Prop) : Proc δ ι ℓ ε α → δ → Prop
  | .done (.ok a), d => Q a d
  | .done (.error e), d => E e d
  | .atom act rest, d => ∀ i, good i → Ends good Q E (rest d i) (act d i).1

section Rules

variable {good : ι → Prop} {Q Q' : α → δ → Prop} {E E' : ε → δ → Prop} {p : Proc δ ι ℓ ε α} {d : δ}

theorem Ends.mono (h : p.Ends good Q E d) (hQ : ∀ a d, Q a d → Q' a d)
    (hE : ∀ e d, E e d → E' e d) : p.Ends good Q' E' d := by
  induction p generalizing d with
  | done r =>
    cases r with
    | ok a => exact hQ a d h
    | error e => exact hE e d h
  | atom act rest ih => exact fun i hi => ih _ _ (h i hi)

theorem ends_pure {a : α} (h : Q a d) : (pure a : Proc δ ι ℓ ε α).Ends good Q E d := h

theorem ends_throw {e : ε} (h : E e d) : (throw e : Proc δ ι ℓ ε α).Ends good Q E d := h

theorem Ends.bind {R : β → δ → Prop} {q : Proc δ ι ℓ ε β} {f : β → Proc δ ι ℓ ε α}
    (h : q.Ends good R E d) (hf : ∀ b d, R b d → (f b).Ends good Q E d) :
    (q >>= f).Ends good Q E d := by
  induction q generalizing d with
  | done r =>
    cases r with
    | ok b => exact hf b d h
    | error e => exact h
  | atom act rest ih => exact fun i hi => ih _ _ (h i hi)

theorem Ends.tryCatch {R : ε → δ → Prop} {h : ε → Proc δ ι ℓ ε α} (hp : p.Ends good Q R d)
    (hh : ∀ e d, R e d → (h e).Ends good Q E d) : (tryCatch p h).Ends good Q E d := by
  induction p generalizing d with
  | done r =>
    cases r with
    | ok a => exact hp
    | error e => exact hh e d hp
  | atom act rest ih => exact fun i hi => ih _ _ (hp i hi)

/-- A transaction commits or leaves the store. -/
theorem ends_transaction {x : Txn ι δ ε α} {committed : α → ℓ} {failed : ε → ℓ}
    (hok : ∀ i a d', good i → x i d = .ok (a, d') → Q a d')
    (herr : ∀ i e, good i → x i d = .error e → E e d) :
    (transaction x committed failed).Ends good Q E d := by
  intro i hi
  cases hx : x i d with
  | ok r =>
    obtain ⟨a, d'⟩ := r
    simp only [hx, Except.map]
    exact hok i a d' hi hx
  | error e =>
    simp only [hx, Except.map]
    exact herr i e hi hx

/-- A loop keeps what each of its turns keeps. -/
theorem ends_forM {as : List β} {f : β → Proc δ ι ℓ ε Unit} {A : δ → Prop}
    (hf : ∀ b ∈ as, ∀ d, A d → (f b).Ends good (fun _ => A) E d) (hd : A d) :
    (as.forM f).Ends good (fun _ => A) E d := by
  induction as generalizing d with
  | nil => exact hd
  | cons b bs ih =>
    have hhead := hf b List.mem_cons_self d hd
    exact hhead.bind fun _ d hA => ih (fun c hc => hf c (List.mem_cons_of_mem _ hc)) hA

/-- A loop in which the elements with `p` take `A` to `B`, and nothing else does: `A` is kept by the
other elements, and `B` by all. -/
theorem ends_forM_mark {as : List β} {f : β → Proc δ ι ℓ ε Unit} {A B : δ → Prop} (p : β → Prop)
    (hmark : ∀ b ∈ as, p b → ∀ d, A d → (f b).Ends good (fun _ => B) E d)
    (hother : ∀ b ∈ as, ¬p b → ∀ d, A d → (f b).Ends good (fun _ => A) E d)
    (hkeep : ∀ b ∈ as, ∀ d, B d → (f b).Ends good (fun _ => B) E d) (hd : A d) :
    (as.forM f).Ends good
      (fun _ d => ((∃ b ∈ as, p b) → B d) ∧ ((∀ b ∈ as, ¬p b) → A d)) E d := by
  induction as generalizing d with
  | nil => exact ⟨fun ⟨b, hb, _⟩ => (by cases hb), fun _ => hd⟩
  | cons b bs ih =>
    have hkeep' : ∀ c ∈ bs, ∀ d, B d → (f c).Ends good (fun _ => B) E d :=
      fun c hc => hkeep c (List.mem_cons_of_mem _ hc)
    by_cases hb : p b
    · have hhead := hmark b List.mem_cons_self hb d hd
      refine hhead.bind fun _ d hB => (ends_forM hkeep' hB).mono ?_ fun _ _ h => h
      exact fun _ d hB => ⟨fun _ => hB, fun hnone => absurd hb (hnone b List.mem_cons_self)⟩
    · have hhead := hother b List.mem_cons_self hb d hd
      refine hhead.bind fun _ d hA => ?_
      have htail := ih (fun c hc => hmark c (List.mem_cons_of_mem _ hc))
        (fun c hc => hother c (List.mem_cons_of_mem _ hc)) hkeep' hA
      refine htail.mono ?_ fun _ _ h => h
      rintro _ d ⟨hmarked, hunmarked⟩
      refine ⟨fun ⟨c, hc, hpc⟩ => hmarked ⟨c, ?_, hpc⟩, fun hnone =>
        hunmarked fun c hc => hnone c (List.mem_cons_of_mem _ hc)⟩
      rcases List.mem_cons.1 hc with rfl | hc
      · exact absurd hpc hb
      · exact hc

end Rules

/-! ## Adequacy -/

variable {prog : ω → Proc δ ι ℓ ε Unit} {C : Cond δ ℓ} [∀ s t e, Decidable (C s t e)]
  {good : ι → Prop} {Q : Unit → δ → Prop} {E : ε → δ → Prop}

/-- The statements of a call alone. -/
theorem Ends.moves {p : Proc δ ι ℓ ε Unit} {s s' : Sys δ ι ℓ ε} {t : ℕ} {inputs : List ι}
    (hgood : ∀ i ∈ inputs, good i) (hcall : s.calls[t]? = some (some p))
    (h : p.Ends good Q E s.store) (hrun : run prog C s (inputs.map (.move t)) = some s') :
    ∃ p', s'.calls[t]? = some (some p') ∧ p'.Ends good Q E s'.store := by
  induction inputs generalizing s p with
  | nil =>
    cases hrun
    exact ⟨p, hcall, h⟩
  | cons i inputs ih =>
    obtain ⟨s₁, h₁, h₂⟩ := Option.bind_eq_some_iff.1 hrun
    obtain ⟨hstep, -⟩ := Option.filter_eq_some_iff.1 h₁
    have ht : t < s.calls.length := (List.getElem?_eq_some_iff.1 hcall).1
    cases p with
    | done r => simp [step, hcall] at hstep
    | atom act rest =>
      simp only [step, hcall, Option.some.injEq] at hstep
      subst hstep
      exact ih (fun j hj => hgood j (List.mem_cons_of_mem _ hj)) (List.getElem?_set_self ht)
        (h i (hgood i List.mem_cons_self)) h₂

/-- The schedule in which a call runs alone ends where the call does. -/
theorem Ends.run {s s' : Sys δ ι ℓ ε} {op : ω} {inputs : List ι} (hgood : ∀ i ∈ inputs, good i)
    (h : (prog op).Ends good Q E s.store)
    (hrun : run prog C s (Act.call op s.calls.length inputs) = some s') :
    Q () s'.store ∨ ∃ e, E e s'.store := by
  rw [Act.call, run_append] at hrun
  obtain ⟨s₂, hrun, hreturn⟩ := Option.bind_eq_some_iff.1 hrun
  obtain ⟨s₁, hstart, hmoves⟩ := Option.bind_eq_some_iff.1 hrun
  obtain ⟨hstart, -⟩ := Option.filter_eq_some_iff.1 hstart
  obtain ⟨hstore, hcall⟩ : s₁.store = s.store ∧ s₁.calls[s.calls.length]? = some (some (prog op)) := by
    obtain rfl := Option.some.inj hstart
    exact ⟨rfl, List.getElem?_concat_length⟩
  rw [← hstore] at h
  obtain ⟨p, hcall, hp⟩ := Ends.moves hgood hcall h hmoves
  obtain ⟨s₃, hreturn, hnil⟩ := Option.bind_eq_some_iff.1 hreturn
  obtain ⟨hreturn, -⟩ := Option.filter_eq_some_iff.1 hreturn
  cases hnil
  -- the call can return only if it has nothing left to do
  cases p with
  | atom act rest => simp [step, hcall] at hreturn
  | done r =>
    simp only [step, hcall, Option.some.injEq] at hreturn
    subst hreturn
    cases r with
    | ok u => exact Or.inl hp
    | error e => exact Or.inr ⟨e, hp⟩

end Proc

end Concurrent
