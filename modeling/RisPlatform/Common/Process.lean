import Mathlib.Data.List.Basic
import Mathlib.Logic.Relation

/-!
# Calls over a shared store

A `Txn` is a database transaction: it transforms the store and commits, or fails and rolls back. A
`Proc` is the body of one call: a sequence of atomic statements, each with a ghost *event* that says
what it did, ending in a value or an error. A `Sys` runs any number of calls side by side; its
schedule decides which call moves next and the input its statement draws.

`Reaches prog C` are the runs whose steps all meet the condition `C` on the state before the step, the
call and its event. `run` executes a schedule, and `reaches_of_run` turns the outcome into a run.
-/

namespace Concurrent

variable {δ ι ℓ ε α β ω : Type}

/-! ## Transactions -/

/-- A transaction over stores `δ`, drawing an input `ι`: the value returned and the committed store, or
the error that rolled it back. -/
def Txn (ι δ ε α : Type) : Type := ι → δ → Except ε (α × δ)

namespace Txn

instance : Monad (Txn ι δ ε) where
  pure a := fun _ d => .ok (a, d)
  bind x f := fun i d =>
    match x i d with
    | .ok (a, d') => f a i d'
    | .error e => .error e

/-- A check that throws aborts the transaction. -/
instance : MonadLift (Except ε) (Txn ι δ ε) where
  monadLift x := fun _ d => x.map fun a => (a, d)

/-- Abort with the error `e`. -/
def abort (e : ε) : Txn ι δ ε α := fun _ _ => .error e

/-- The input drawn. -/
def input : Txn ι δ ε ι := fun i d => .ok (i, d)

/-- Read the store. -/
def read (f : δ → α) : Txn ι δ ε α := fun _ d => .ok (f d, d)

/-- Write the store. -/
def write (f : δ → δ) : Txn ι δ ε Unit := fun _ d => .ok ((), f d)

variable {i : ι} {d d' : δ} {a : α} {b : β} {e : ε}

@[simp] theorem pure_ok : (pure a : Txn ι δ ε α) i d = .ok (b', d') ↔ a = b' ∧ d = d' := by
  simp [pure]

/-- A sequence commits exactly when both parts do. -/
@[simp] theorem bind_ok {x : Txn ι δ ε α} {f : α → Txn ι δ ε β} :
    (x >>= f) i d = .ok (b, d') ↔ ∃ a d₁, x i d = .ok (a, d₁) ∧ f a i d₁ = .ok (b, d') := by
  simp only [bind]
  cases h : x i d with
  | error e => simp
  | ok r => cases r; simp

/-- A sequence fails exactly when a part that is reached does. -/
theorem bind_error {x : Txn ι δ ε α} {f : α → Txn ι δ ε β} :
    (x >>= f) i d = .error e ↔
      x i d = .error e ∨ ∃ a d₁, x i d = .ok (a, d₁) ∧ f a i d₁ = .error e := by
  simp only [bind]
  cases h : x i d with
  | error e => simp
  | ok r => cases r; simp

@[simp] theorem lift_ok {x : Except ε α} :
    (monadLift x : Txn ι δ ε α) i d = .ok (a, d') ↔ x = .ok a ∧ d = d' := by
  cases x <;> simp [monadLift, MonadLift.monadLift, Except.map]

@[simp] theorem liftM_ok {x : Except ε α} :
    (liftM x : Txn ι δ ε α) i d = .ok (a, d') ↔ x = .ok a ∧ d = d' := lift_ok

@[simp] theorem abort_ok : (abort e : Txn ι δ ε α) i d = .ok (a, d') ↔ False := by
  simp [abort]

@[simp] theorem input_ok {j : ι} : (input : Txn ι δ ε ι) i d = .ok (j, d') ↔ i = j ∧ d = d' := by
  simp [input]

@[simp] theorem read_ok {f : δ → α} :
    (read f : Txn ι δ ε α) i d = .ok (a, d') ↔ f d = a ∧ d = d' := by
  simp [read]

@[simp] theorem write_ok {f : δ → δ} {u : Unit} :
    (write f : Txn ι δ ε Unit) i d = .ok (u, d') ↔ f d = d' := by
  simp [write]

/-- The transaction never commits. -/
def Refused (x : Txn ι δ ε α) : Prop := ∀ i d a d', x i d ≠ .ok (a, d')

theorem refused_abort (e : ε) : Refused (abort e : Txn ι δ ε α) := fun i d a d' h => by
  simp at h

theorem refused_lift {x : Except ε α} (hx : x = .error e) : Refused (liftM x : Txn ι δ ε α) := by
  intro i d a d' h
  rw [liftM_ok, hx] at h
  cases h.1

theorem refused_bind_left {x : Txn ι δ ε α} {f : α → Txn ι δ ε β} (h : Refused x) :
    Refused (x >>= f) := by
  intro i d b d' hok
  obtain ⟨a, d₁, hx, -⟩ := bind_ok.1 hok
  exact h i d a d₁ hx

theorem refused_bind_right {x : Txn ι δ ε α} {f : α → Txn ι δ ε β} (h : ∀ a, Refused (f a)) :
    Refused (x >>= f) := by
  intro i d b d' hok
  obtain ⟨a, d₁, -, hf⟩ := bind_ok.1 hok
  exact h a i d₁ b d' hf

end Txn

/-! ## Call bodies -/

/-- The body of a call over stores `δ`, inputs `ι`, events `ℓ` and errors `ε`. -/
inductive Proc (δ ι ℓ ε α : Type) : Type
  /-- Nothing is left to do. -/
  | done (result : Except ε α)
  /-- One atomic statement, then the rest, which sees the store the statement saw. -/
  | atom (act : δ → ι → δ × ℓ) (rest : δ → ι → Proc δ ι ℓ ε α)

namespace Proc

/-- Run `p`, then `f` on its value. -/
def bind : Proc δ ι ℓ ε α → (α → Proc δ ι ℓ ε β) → Proc δ ι ℓ ε β
  | .done (.ok a), f => f a
  | .done (.error e), _ => .done (.error e)
  | .atom act rest, f => .atom act fun d i => (rest d i).bind f

/-- Run `p`, and `h` on its error. -/
def handle : Proc δ ι ℓ ε α → (ε → Proc δ ι ℓ ε α) → Proc δ ι ℓ ε α
  | .done (.ok a), _ => .done (.ok a)
  | .done (.error e), h => h e
  | .atom act rest, h => .atom act fun d i => (rest d i).handle h

instance : Monad (Proc δ ι ℓ ε) where
  pure a := .done (.ok a)
  bind := bind

instance : MonadExceptOf ε (Proc δ ι ℓ ε) where
  throw e := .done (.error e)
  tryCatch := handle

/-- A check that throws ends the call with its error. -/
instance : MonadLift (Except ε) (Proc δ ι ℓ ε) where
  monadLift := .done

/-- One transaction as one atomic statement, with the event of its commit and of its failure. -/
def transaction (x : Txn ι δ ε α) (committed : α → ℓ) (failed : ε → ℓ) : Proc δ ι ℓ ε α :=
  .atom
    (fun d i =>
      match x i d with
      | .ok (a, d') => (d', committed a)
      | .error e => (d, failed e))
    fun d i => .done ((x i d).map Prod.fst)

/-- The call ends with a value only after an event that satisfies `E`. -/
def OkAfter (E : ℓ → Prop) : Proc δ ι ℓ ε α → Prop
  | .done (.ok _) => False
  | .done (.error _) => True
  | .atom act rest => ∀ d i, E (act d i).2 ∨ (rest d i).OkAfter E

section OkAfter

variable {E : ℓ → Prop} {p : Proc δ ι ℓ ε α} {f : α → Proc δ ι ℓ ε β}

theorem okAfter_throw (e : ε) : (throw e : Proc δ ι ℓ ε α).OkAfter E := trivial

/-- What comes after a call that ends so, does as well. -/
theorem OkAfter.bind (h : p.OkAfter E) : (p >>= f).OkAfter E := by
  induction p with
  | done r =>
    cases r with
    | ok a => exact h.elim
    | error e => exact trivial
  | atom act rest ih => exact fun d i => (h d i).imp_right (ih d i)

/-- What comes before a call that ends so does not matter. -/
theorem okAfter_bind (h : ∀ a, (f a).OkAfter E) : (p >>= f).OkAfter E := by
  induction p with
  | done r =>
    cases r with
    | ok a => exact h a
    | error e => exact trivial
  | atom act rest ih => exact fun d i => Or.inr (ih d i)

theorem okAfter_transaction {x : Txn ι δ ε α} {committed : α → ℓ} {failed : ε → ℓ}
    (h : ∀ i d a d', x i d = .ok (a, d') → E (committed a)) :
    (transaction x committed failed).OkAfter E := by
  intro d i
  cases hx : x i d with
  | error e =>
    refine Or.inr ?_
    simp only [hx, Except.map]
    trivial
  | ok r =>
    obtain ⟨a, d'⟩ := r
    refine Or.inl ?_
    simp only [hx]
    exact h i d a d' hx

end OkAfter

/-- Forget the value of a call. -/
def discard (p : Proc δ ι ℓ ε α) : Proc δ ι ℓ ε Unit := p.bind fun _ => .done (.ok ())

end Proc

/-! ## Systems of calls -/

/-- The store and the history: which call did what, newest first. `none` is the call's return. -/
structure State (δ ℓ : Type) where
  store : δ
  hist : List (ℕ × Option ℓ)

/-- A state together with what each call has left to do, `none` once it has returned. -/
structure Sys (δ ι ℓ ε : Type) extends State δ ℓ where
  calls : List (Option (Proc δ ι ℓ ε Unit))

/-- One choice of the schedule: a new call, the next statement of a call, the return of a call. -/
inductive Act (ω ι : Type)
  | start (op : ω)
  | move (t : ℕ) (i : ι)
  | ret (t : ℕ)

/-- The schedule of a call that runs alone from its start to its return. -/
def Act.call (op : ω) (t : ℕ) (inputs : List ι) : List (Act ω ι) :=
  .start op :: inputs.map (.move t) ++ [.ret t]

/-- No call has been made. -/
def Sys.init (d : δ) : Sys δ ι ℓ ε where
  store := d
  hist := []
  calls := []

/-- One step of the system whose operations have the bodies `prog`. -/
def step (prog : ω → Proc δ ι ℓ ε Unit) (s : Sys δ ι ℓ ε) : Act ω ι → Option (Sys δ ι ℓ ε)
  | .start op => some { s with calls := s.calls ++ [some (prog op)] }
  | .move t i =>
    match s.calls[t]? with
    | some (some (.atom act rest)) =>
      some
        { store := (act s.store i).1
          hist := (t, some (act s.store i).2) :: s.hist
          calls := s.calls.set t (some (rest s.store i)) }
    | _ => none
  | .ret t =>
    match s.calls[t]? with
    | some (some (.done _)) =>
      some { s with hist := (t, none) :: s.hist, calls := s.calls.set t none }
    | _ => none

/-- A condition on a step: the state before it, the call that moves and the event. -/
abbrev Cond (δ ℓ : Type) : Type := State δ ℓ → ℕ → ℓ → Prop

/-- The step from `s` to `s'` meets `C`: its event, if it is a statement, does. -/
def Admits (C : Cond δ ℓ) (s s' : State δ ℓ) : Prop :=
  match s'.hist with
  | (t, some e) :: _ => s.hist.length < s'.hist.length → C s t e
  | _ => True

instance (C : Cond δ ℓ) [∀ s t e, Decidable (C s t e)] (s s' : State δ ℓ) :
    Decidable (Admits C s s') := by
  unfold Admits
  split <;> infer_instance

/-- One step that meets `C`. -/
def Step (prog : ω → Proc δ ι ℓ ε Unit) (C : Cond δ ℓ) (s s' : Sys δ ι ℓ ε) : Prop :=
  ∃ a, step prog s a = some s' ∧ Admits C s.toState s'.toState

/-- A run whose steps all meet `C`. -/
def Reaches (prog : ω → Proc δ ι ℓ ε Unit) (C : Cond δ ℓ) : Sys δ ι ℓ ε → Sys δ ι ℓ ε → Prop :=
  Relation.ReflTransGen (Step prog C)

/-- The condition every step meets. -/
def always : Cond δ ℓ := fun _ _ _ => True

instance (s : State δ ℓ) (t : ℕ) (e : ℓ) : Decidable (always s t e) := isTrue trivial

/-- A statement's step meets `C` when its event does. -/
theorem Admits.cond {C : Cond δ ℓ} {s s' : State δ ℓ} (h : Admits C s s') {t : ℕ} {e : ℓ}
    (he : s'.hist = (t, some e) :: s.hist) : C s t e := by
  rw [Admits, he] at h
  exact h (by simp)

/-- What each choice of the schedule does, where it is possible. -/
inductive Stepped (prog : ω → Proc δ ι ℓ ε Unit) (s : Sys δ ι ℓ ε) : Act ω ι → Sys δ ι ℓ ε → Prop
  | start (op : ω) : Stepped prog s (.start op) { s with calls := s.calls ++ [some (prog op)] }
  | move (t : ℕ) (i : ι) (act : δ → ι → δ × ℓ) (rest : δ → ι → Proc δ ι ℓ ε Unit)
      (hcall : s.calls[t]? = some (some (.atom act rest))) :
      Stepped prog s (.move t i)
        { store := (act s.store i).1
          hist := (t, some (act s.store i).2) :: s.hist
          calls := s.calls.set t (some (rest s.store i)) }
  | ret (t : ℕ) (r : Except ε Unit) (hcall : s.calls[t]? = some (some (.done r))) :
      Stepped prog s (.ret t) { s with hist := (t, none) :: s.hist, calls := s.calls.set t none }

theorem step_cases {prog : ω → Proc δ ι ℓ ε Unit} {s s' : Sys δ ι ℓ ε} {a : Act ω ι}
    (h : step prog s a = some s') : Stepped prog s a s' := by
  cases a with
  | start op =>
    obtain rfl := Option.some.inj h
    exact .start op
  | move t i =>
    simp only [step] at h
    split at h
    · rename_i act rest hcall
      obtain rfl := Option.some.inj h
      exact .move t i act rest hcall
    · cases h
  | ret t =>
    simp only [step] at h
    split at h
    · rename_i r hcall
      obtain rfl := Option.some.inj h
      exact .ret t r hcall
    · cases h

/-- A step adds one entry to the history, or none. -/
theorem step_hist {prog : ω → Proc δ ι ℓ ε Unit} {s s' : Sys δ ι ℓ ε} {a : Act ω ι}
    (h : step prog s a = some s') : s'.hist = s.hist ∨ ∃ x, s'.hist = x :: s.hist := by
  cases step_cases h with
  | start op => exact Or.inl rfl
  | move t i act rest hcall => exact Or.inr ⟨_, rfl⟩
  | ret t r hcall => exact Or.inr ⟨_, rfl⟩

/-- A step meets every condition that its event meets. -/
theorem Step.of_cond {prog : ω → Proc δ ι ℓ ε Unit} {C C' : Cond δ ℓ} {s s' : Sys δ ι ℓ ε}
    (h : Step prog C s s')
    (hC : ∀ t e, s'.hist = (t, some e) :: s.hist → C' s.toState t e) : Step prog C' s s' := by
  obtain ⟨a, ha, -⟩ := h
  refine ⟨a, ha, ?_⟩
  unfold Admits
  split
  · rename_i t e rest heq
    intro hlt
    rcases step_hist ha with hsame | ⟨x, hx⟩
    · rw [hsame] at hlt
      exact absurd hlt (Nat.lt_irrefl _)
    · rw [hx, List.cons.injEq] at heq
      exact hC t e (by rw [hx, heq.1])
  · trivial

/-- A step meets every condition that is weaker. -/
theorem Step.mono {prog : ω → Proc δ ι ℓ ε Unit} {C C' : Cond δ ℓ} {s s' : Sys δ ι ℓ ε}
    (h : Step prog C s s') (hC : ∀ s t e, C s t e → C' s t e) : Step prog C' s s' := by
  obtain ⟨a, ha, hadmits⟩ := h
  exact Step.of_cond ⟨a, ha, hadmits⟩ fun t e he => hC _ t e (hadmits.cond he)

/-- And so does a run. -/
theorem Reaches.mono {prog : ω → Proc δ ι ℓ ε Unit} {C C' : Cond δ ℓ} {s s' : Sys δ ι ℓ ε}
    (h : Reaches prog C s s') (hC : ∀ s t e, C s t e → C' s t e) : Reaches prog C' s s' := by
  induction h with
  | refl => exact .refl
  | tail _ hstep ih => exact ih.tail (hstep.mono hC)

/-- Every step meets the condition that always holds. -/
theorem Step.always {prog : ω → Proc δ ι ℓ ε Unit} {C : Cond δ ℓ} {s s' : Sys δ ι ℓ ε}
    (h : Step prog C s s') : Step prog always s s' := h.mono fun _ _ _ _ => trivial

/-- Every run is one without a condition. -/
theorem Reaches.always {prog : ω → Proc δ ι ℓ ε Unit} {C : Cond δ ℓ} {s s' : Sys δ ι ℓ ε}
    (h : Reaches prog C s s') : Reaches prog always s s' := h.mono fun _ _ _ _ => trivial

/-- Every live call has done something with `E`, or does so before it ends with a value. -/
def EachOkAfter (E : ℓ → Prop) (s : Sys δ ι ℓ ε) : Prop :=
  ∀ t p, s.calls[t]? = some (some p) → (∃ e, (t, some e) ∈ s.hist ∧ E e) ∨ p.OkAfter E

/-- The step lemma: a call that starts has it before it, and one that moves comes closer. -/
theorem eachOkAfter_step {prog : ω → Proc δ ι ℓ ε Unit} {E : ℓ → Prop}
    (hprog : ∀ op, (prog op).OkAfter E) {s s' : Sys δ ι ℓ ε} (h : EachOkAfter E s) {a : Act ω ι}
    (ha : step prog s a = some s') : EachOkAfter E s' := by
  intro t p ht
  cases step_cases ha with
  | start op =>
    by_cases hlt : t < s.calls.length
    · rw [List.getElem?_append_left hlt] at ht
      exact h t p ht
    · have hlen := (List.getElem?_eq_some_iff.1 ht).1
      rw [List.length_append, List.length_singleton] at hlen
      obtain rfl : t = s.calls.length := by omega
      rw [List.getElem?_concat_length, Option.some.injEq, Option.some.injEq] at ht
      exact Or.inr (ht ▸ hprog op)
  | move u i act rest hcall =>
    by_cases hut : u = t
    · subst hut
      have hlen : u < s.calls.length := (List.getElem?_eq_some_iff.1 hcall).1
      rw [List.getElem?_set_self hlen, Option.some.injEq, Option.some.injEq] at ht
      subst ht
      -- its statement is what it has to do, or what is left is one statement shorter
      rcases h u _ hcall with ⟨e, he, hE⟩ | hok
      · exact Or.inl ⟨e, List.mem_cons_of_mem _ he, hE⟩
      · rcases hok s.store i with hE | hok
        · exact Or.inl ⟨_, List.mem_cons_self, hE⟩
        · exact Or.inr hok
    · rw [List.getElem?_set_ne hut] at ht
      exact (h t p ht).imp_left fun ⟨e, he, hE⟩ => ⟨e, List.mem_cons_of_mem _ he, hE⟩
  | ret u r hcall =>
    by_cases hut : u = t
    · subst hut
      have hlen : u < s.calls.length := (List.getElem?_eq_some_iff.1 hcall).1
      rw [List.getElem?_set_self hlen] at ht
      cases ht
    · rw [List.getElem?_set_ne hut] at ht
      exact (h t p ht).imp_left fun ⟨e, he, hE⟩ => ⟨e, List.mem_cons_of_mem _ he, hE⟩

/-- A call that is about to end with a value has done what it ends with a value only after. -/
theorem exists_of_ok {prog : ω → Proc δ ι ℓ ε Unit} {C : Cond δ ℓ} {E : ℓ → Prop}
    (hprog : ∀ op, (prog op).OkAfter E) {d : δ} {s : Sys δ ι ℓ ε}
    (hs : Reaches prog C (Sys.init d) s) {t : ℕ} (ht : s.calls[t]? = some (some (.done (.ok ())))) :
    ∃ e, (t, some e) ∈ s.hist ∧ E e := by
  have heach : EachOkAfter E s := by
    clear ht
    induction hs with
    | refl =>
      intro t p ht
      simp [Sys.init] at ht
    | tail _ hstep ih =>
      obtain ⟨a, ha, -⟩ := hstep
      exact eachOkAfter_step hprog ih ha
  exact (heach t _ ht).resolve_right fun h => h

/-! ## Histories of one call -/

/-- What call `t` did, newest first. -/
def own (t : ℕ) (h : List (ℕ × Option ℓ)) : List (Option ℓ) :=
  (h.filter fun x => x.1 == t).map Prod.snd

@[simp] theorem own_nil (t : ℕ) : own t ([] : List (ℕ × Option ℓ)) = [] := rfl

@[simp] theorem own_cons_self (t : ℕ) (e : Option ℓ) (h : List (ℕ × Option ℓ)) :
    own t ((t, e) :: h) = e :: own t h := by
  simp [own]

theorem own_cons_of_ne {t u : ℕ} (hu : u ≠ t) (e : Option ℓ) (h : List (ℕ × Option ℓ)) :
    own t ((u, e) :: h) = own t h := by
  simp [own, hu]

theorem mem_own {t : ℕ} {e : Option ℓ} {h : List (ℕ × Option ℓ)} : e ∈ own t h ↔ (t, e) ∈ h := by
  simp [own]

/-- A call that no entry mentions has no history. -/
theorem own_eq_nil {t : ℕ} {h : List (ℕ × Option ℓ)} (ht : ∀ x ∈ h, x.1 ≠ t) : own t h = [] := by
  have hnone : h.filter (fun x => x.1 == t) = [] := by
    rw [List.filter_eq_nil_iff]
    intro x hx
    simpa using ht x hx
  rw [own, hnone, List.map_nil]

/-! ## Executing a schedule -/

section Run

variable (prog : ω → Proc δ ι ℓ ε Unit) (C : Cond δ ℓ) [∀ s t e, Decidable (C s t e)]

/-- One choice of a schedule, refused if it is impossible or fails `C`. -/
def stepIf (s : Sys δ ι ℓ ε) (a : Act ω ι) : Option (Sys δ ι ℓ ε) :=
  (step prog s a).filter fun s' => Admits C s.toState s'.toState

/-- Execute a schedule. -/
def run : Sys δ ι ℓ ε → List (Act ω ι) → Option (Sys δ ι ℓ ε)
  | s, [] => some s
  | s, a :: as => (stepIf prog C s a).bind fun s' => run s' as

variable {prog C}

theorem run_append (s : Sys δ ι ℓ ε) (as bs : List (Act ω ι)) :
    run prog C s (as ++ bs) = (run prog C s as).bind fun s' => run prog C s' bs := by
  induction as generalizing s with
  | nil => rfl
  | cons a as ih =>
    rw [List.cons_append, run, run, Option.bind_assoc]
    congr 1
    funext s₁
    exact ih s₁

theorem step_of_stepIf {s s' : Sys δ ι ℓ ε} {a : Act ω ι} (h : stepIf prog C s a = some s') :
    Step prog C s s' := by
  obtain ⟨ha, hC⟩ := Option.filter_eq_some_iff.1 h
  exact ⟨a, ha, of_decide_eq_true hC⟩

theorem reaches_of_run {s s' : Sys δ ι ℓ ε} {as : List (Act ω ι)} (h : run prog C s as = some s') :
    Reaches prog C s s' := by
  induction as generalizing s with
  | nil =>
    cases h
    exact .refl
  | cons a as ih =>
    obtain ⟨s₁, h₁, h₂⟩ := Option.bind_eq_some_iff.1 h
    exact .head (step_of_stepIf h₁) (ih h₂)

variable (prog C)

/-- A schedule whose outcome passes the test `P` is a run to a state that does. -/
theorem exists_reaches (s : Sys δ ι ℓ ε) (as : List (Act ω ι)) (P : Sys δ ι ℓ ε → Bool)
    (h : (run prog C s as).any P = true) : ∃ s', Reaches prog C s s' ∧ P s' = true := by
  cases hs' : run prog C s as with
  | none => simp [hs'] at h
  | some s' =>
    rw [hs', Option.any_some] at h
    exact ⟨s', reaches_of_run hs', h⟩

/-- A schedule continued by another, if the test `P` passes on both outcomes, is a run continued by
another. -/
theorem exists_reaches_reaches (s : Sys δ ι ℓ ε) (as bs : List (Act ω ι))
    (P : Sys δ ι ℓ ε → Sys δ ι ℓ ε → Bool)
    (h : (run prog C s as).any (fun s₁ => (run prog C s₁ bs).any (P s₁)) = true) :
    ∃ s₁ s₂, Reaches prog C s s₁ ∧ Reaches prog C s₁ s₂ ∧ P s₁ s₂ = true := by
  obtain ⟨s₁, h₁, h₂⟩ := exists_reaches prog C s as _ h
  obtain ⟨s₂, h₃, h₄⟩ := exists_reaches prog C s₁ bs _ h₂
  exact ⟨s₁, s₂, h₁, h₃, h₄⟩

/-- A schedule whose last step passes the test `P` is a run followed by a step that does. -/
theorem exists_step (s : Sys δ ι ℓ ε) (as : List (Act ω ι)) (a : Act ω ι)
    (P : Sys δ ι ℓ ε → Sys δ ι ℓ ε → Bool)
    (h : (run prog C s as).any (fun s₁ => (stepIf prog C s₁ a).any (P s₁)) = true) :
    ∃ s₁ s₂, Reaches prog C s s₁ ∧ Step prog C s₁ s₂ ∧ P s₁ s₂ = true := by
  obtain ⟨s₁, h₁, h₂⟩ := exists_reaches prog C s as _ h
  cases hs₂ : stepIf prog C s₁ a with
  | none => simp [hs₂] at h₂
  | some s₂ =>
    rw [hs₂, Option.any_some] at h₂
    exact ⟨s₁, s₂, h₁, step_of_stepIf hs₂, h₂⟩

end Run

section Keeping

variable (prog : ω → Proc δ ι ℓ ε Unit) (R : State δ ℓ → State δ ℓ → Prop) [DecidableRel R]

/-- Execute a schedule, refused at a step that is not one of `R`. -/
def runKeeping : Sys δ ι ℓ ε → List (Act ω ι) → Option (Sys δ ι ℓ ε)
  | s, [] => some s
  | s, a :: as => ((step prog s a).filter fun s' => R s.toState s'.toState).bind fun s' =>
    runKeeping s' as

/-- A schedule whose steps are all of `R` and whose outcome passes the test `P` is such a run to a state that
does. -/
theorem exists_keeping (s : Sys δ ι ℓ ε) (as : List (Act ω ι)) (P : Sys δ ι ℓ ε → Bool)
    (h : (runKeeping prog R s as).any P = true) :
    ∃ s', Relation.ReflTransGen (fun s s' => Step prog always s s' ∧ R s.toState s'.toState) s s' ∧
      P s' = true := by
  induction as generalizing s with
  | nil => exact ⟨s, .refl, h⟩
  | cons a as ih =>
    cases h₁ : (step prog s a).filter fun s' => R s.toState s'.toState with
    | none => simp [runKeeping, h₁] at h
    | some s₁ =>
      rw [runKeeping, h₁, Option.bind_some] at h
      obtain ⟨hstep, hR⟩ := Option.filter_eq_some_iff.1 h₁
      obtain ⟨s', hs', hP⟩ := ih s₁ h
      have hadmits : Admits always s.toState s₁.toState := by
        unfold Admits
        split
        · exact fun _ => trivial
        · trivial
      exact ⟨s', .head ⟨⟨a, hstep, hadmits⟩, of_decide_eq_true hR⟩ hs', hP⟩

end Keeping

end Concurrent
