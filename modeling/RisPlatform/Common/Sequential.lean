import RisPlatform.Common.RelyGuarantee
import RisPlatform.Common.Solo

/-!
# Calls made one after the other

`Proc.Run` is one call from its start to its end while nothing else moves, with what it leaves in the
history; `Proc.Alone` is its weakest precondition. `Proc.exec` runs it when every statement draws the
same input, and `Proc.outcome` forgets the history. `Calls` are sequences of such calls.

What a call does beside others it does alone: `Protocol.Conforms.alone` turns the triples of a protocol
into facts about calls that run alone.
-/

namespace Concurrent

variable {δ ι ℓ ε α β ω τ : Type}

namespace Proc

/-- The call `t` with the body `p` takes the first state to the second and ends in `r`, drawing good
inputs. -/
inductive Run (good : ι → Prop) (t : ℕ) :
    Proc δ ι ℓ ε α → State δ ℓ → Except ε α → State δ ℓ → Prop
  | done (r : Except ε α) (s : State δ ℓ) : Run good t (.done r) s r s
  | atom (act : δ → ι → δ × ℓ) (rest : δ → ι → Proc δ ι ℓ ε α) (s : State δ ℓ) (i : ι)
      (r : Except ε α) (s' : State δ ℓ) (hi : good i)
      (h : Run good t (rest s.store i) (s.record t (some (act s.store i).2) (act s.store i).1) r s') :
      Run good t (.atom act rest) s r s'

/-- A call adds to the history under its own number. -/
theorem Run.hist {good : ι → Prop} {t : ℕ} {p : Proc δ ι ℓ ε α} {s s' : State δ ℓ} {r : Except ε α}
    (h : p.Run good t s r s') {x : ℕ × Option ℓ} (hx : x ∈ s'.hist) : x ∈ s.hist ∨ x.1 = t := by
  induction h with
  | done r s => exact Or.inl hx
  | atom act rest s i r s' hi hrun ih =>
    rcases ih hx with hmem | ht
    · rcases List.mem_cons.1 hmem with rfl | hmem
      · exact Or.inr rfl
      · exact Or.inl hmem
    · exact Or.inr ht

/-- However the good inputs are drawn, the call that runs alone ends in `Q`. -/
def Alone (good : ι → Prop) (t : ℕ) (Q : Except ε α → State δ ℓ → Prop) :
    Proc δ ι ℓ ε α → State δ ℓ → Prop
  | .done r, s => Q r s
  | .atom act rest, s =>
    ∀ i, good i →
      Alone good t Q (rest s.store i) (s.record t (some (act s.store i).2) (act s.store i).1)

/-- Run a call alone; each of its statements draws the input `i`. -/
def exec (t : ℕ) (i : ι) : Proc δ ι ℓ ε α → State δ ℓ → Except ε α × State δ ℓ
  | .done r, s => (r, s)
  | .atom act rest, s =>
    exec t i (rest s.store i) (s.record t (some (act s.store i).2) (act s.store i).1)

/-- Run a call alone; its statements draw the inputs one after the other. -/
def drawn (inputs : ℕ → ι) : Proc δ ι ℓ ε α → δ → Except ε α × δ
  | .done r, d => (r, d)
  | .atom act rest, d => drawn (fun n => inputs (n + 1)) (rest d (inputs 0)) (act d (inputs 0)).1

section Alone

variable {good : ι → Prop} {t : ℕ} {Q R : Except ε α → State δ ℓ → Prop} {p : Proc δ ι ℓ ε α}
  {s s' : State δ ℓ} {r : Except ε α}

/-- Adequacy. -/
theorem Alone.run (h : p.Alone good t Q s) (hrun : p.Run good t s r s') : Q r s' := by
  induction hrun with
  | done r s => exact h
  | atom act rest s i r s' hi hrun ih => exact ih (h i hi)

theorem Alone.mono (h : p.Alone good t Q s) (hQ : ∀ r s, Q r s → R r s) : p.Alone good t R s := by
  induction p generalizing s with
  | done r => exact hQ r s h
  | atom act rest ih => exact fun i hi => ih _ _ (h i hi)

/-- What follows runs from where the first part ends with a value; an error ends the call. -/
theorem Alone.bind {f : α → Proc δ ι ℓ ε β} {Q' : Except ε β → State δ ℓ → Prop}
    (h : p.Alone good t R s) (hok : ∀ a s, R (.ok a) s → (f a).Alone good t Q' s)
    (herr : ∀ e s, R (.error e) s → Q' (.error e) s) : (p >>= f).Alone good t Q' s := by
  induction p generalizing s with
  | done r =>
    cases r with
    | ok a => exact hok a s h
    | error e => exact herr e s h
  | atom act rest ih => exact fun i hi => ih _ _ (h i hi)

/-- A transaction commits or leaves the store. -/
theorem alone_transaction {x : Txn ι δ ε α} {committed : α → ℓ} {failed : ε → ℓ}
    (hok : ∀ i a d, good i → x i s.store = .ok (a, d) → Q (.ok a) (s.record t (some (committed a)) d))
    (herr : ∀ i e, good i → x i s.store = .error e →
      Q (.error e) (s.record t (some (failed e)) s.store)) :
    (transaction x committed failed).Alone good t Q s := by
  intro i hi
  cases hx : x i s.store with
  | ok x =>
    obtain ⟨a, d⟩ := x
    simp only [hx, Except.map]
    exact hok i a d hi hx
  | error e =>
    simp only [hx, Except.map]
    exact herr i e hi hx

/-- A loop keeps what each of its turns keeps, whether or not it fails. -/
theorem alone_forM {A : State δ ℓ → Prop} {bs : List β} {f : β → Proc δ ι ℓ ε Unit}
    (hf : ∀ b s, A s → (f b).Alone good t (fun _ => A) s) (hs : A s) :
    (bs.forM f).Alone good t (fun _ => A) s := by
  induction bs generalizing s with
  | nil => exact hs
  | cons b bs ih => exact (hf b s hs).bind (fun _ s hA => ih hA) fun _ _ hA => hA

theorem alone_discard {Q : Except ε Unit → State δ ℓ → Prop} (h : p.Alone good t R s)
    (hok : ∀ a s, R (.ok a) s → Q (.ok ()) s) (herr : ∀ e s, R (.error e) s → Q (.error e) s) :
    p.discard.Alone good t Q s :=
  h.bind hok herr

end Alone

/-! ## What a call returns -/

/-- Whatever stores the statements of the call see, it returns a value with `Q` or fails with `E`. -/
def Gives (good : ι → Prop) (Q : α → Prop) (E : ε → Prop) : Proc δ ι ℓ ε α → Prop
  | .done (.ok a) => Q a
  | .done (.error e) => E e
  | .atom _ rest => ∀ d i, good i → Gives good Q E (rest d i)

section Gives

variable {good : ι → Prop} {Q Q' : α → Prop} {E E' : ε → Prop} {p : Proc δ ι ℓ ε α}

theorem Gives.mono (h : p.Gives good Q E) (hQ : ∀ a, Q a → Q' a) (hE : ∀ e, E e → E' e) :
    p.Gives good Q' E' := by
  induction p with
  | done r =>
    cases r with
    | ok a => exact hQ a h
    | error e => exact hE e h
  | atom act rest ih => exact fun d i hi => ih d i (h d i hi)

theorem gives_pure {a : α} (h : Q a) : (pure a : Proc δ ι ℓ ε α).Gives good Q E := h

theorem Gives.bind {R : β → Prop} {q : Proc δ ι ℓ ε β} {f : β → Proc δ ι ℓ ε α} (h : q.Gives good R E)
    (hf : ∀ b, R b → (f b).Gives good Q E) : (q >>= f).Gives good Q E := by
  induction q with
  | done r =>
    cases r with
    | ok b => exact hf b h
    | error e => exact h
  | atom act rest ih => exact fun d i hi => ih d i (h d i hi)

theorem Gives.tryCatch {R : ε → Prop} {f : ε → Proc δ ι ℓ ε α} (h : p.Gives good Q R)
    (hf : ∀ e, R e → (f e).Gives good Q E) : (tryCatch p f).Gives good Q E := by
  induction p with
  | done r =>
    cases r with
    | ok a => exact h
    | error e => exact hf e h
  | atom act rest ih => exact fun d i hi => ih d i (h d i hi)

theorem gives_transaction {x : Txn ι δ ε α} {committed : α → ℓ} {failed : ε → ℓ}
    (hok : ∀ i d a d', good i → x i d = .ok (a, d') → Q a)
    (herr : ∀ i d e, good i → x i d = .error e → E e) :
    (transaction x committed failed).Gives good Q E := by
  intro d i hi
  cases hx : x i d with
  | ok r =>
    obtain ⟨a, d'⟩ := r
    simp only [hx, Except.map]
    exact hok i d a d' hi hx
  | error e =>
    simp only [hx, Except.map]
    exact herr i d e hi hx

theorem Gives.run {t : ℕ} {s s' : State δ ℓ} {r : Except ε α} (h : p.Gives good Q E)
    (hrun : p.Run good t s r s') : (Proc.done r : Proc δ ι ℓ ε α).Gives good Q E := by
  induction hrun with
  | done r s => exact h
  | atom act rest s i r s' hi hrun ih => exact ih (h s.store i hi)

end Gives

/-! ## Runs -/

section Run

variable {good : ι → Prop} {t : ℕ} {p : Proc δ ι ℓ ε α} {s s₁ s' : State δ ℓ}

theorem Run.bind {a : α} {f : α → Proc δ ι ℓ ε β} {r : Except ε β} (h : p.Run good t s (.ok a) s₁)
    (hf : (f a).Run good t s₁ r s') : (p >>= f).Run good t s r s' := by
  generalize hr : (Except.ok a : Except ε α) = r' at h
  induction h with
  | done r s =>
    subst hr
    exact hf
  | atom act rest s i r' s₁ hi hrun ih => exact .atom act _ s i r s' hi (ih hf hr)

end Run

/-- A call whose statements all draw the same good input is one of its runs. -/
theorem run_exec {good : ι → Prop} {t : ℕ} {i : ι} (hi : good i) {p : Proc δ ι ℓ ε α} {s : State δ ℓ} :
    p.Run good t s (p.exec t i s).1 (p.exec t i s).2 := by
  induction p generalizing s with
  | done r => exact .done r s
  | atom act rest ih => exact .atom act rest s i _ _ hi (ih _ _)

/-- What `Ends` says of a call holds of its runs. -/
theorem Ends.of_run {good : ι → Prop} {t : ℕ} {Q : α → δ → Prop} {E : ε → δ → Prop} {p : Proc δ ι ℓ ε α}
    {s s' : State δ ℓ} {r : Except ε α} (h : p.Ends good Q E s.store) (hrun : p.Run good t s r s') :
    (Proc.done r : Proc δ ι ℓ ε α).Ends good Q E s'.store := by
  induction hrun with
  | done r s => exact h
  | atom act rest s i r s' hi hrun ih => exact ih (h i hi)

/-- What a call returns and leaves in the store, if each of its statements draws the input `i`. -/
def outcome (i : ι) : Proc δ ι ℓ ε α → δ → Except ε α × δ
  | .done r, d => (r, d)
  | .atom act rest, d => outcome i (rest d i) (act d i).1

/-- A call has the run in which each of its statements draws the same good input. -/
theorem exists_run_of_outcome {good : ι → Prop} {i : ι} (hi : good i) {p : Proc δ ι ℓ ε α} {d d' : δ}
    {r : Except ε α} (h : p.outcome i d = (r, d')) (t : ℕ) (hist : List (ℕ × Option ℓ)) :
    ∃ hist', p.Run good t ⟨d, hist⟩ r ⟨d', hist'⟩ := by
  induction p generalizing d hist with
  | done r' =>
    obtain ⟨rfl, rfl⟩ := Prod.mk.inj h
    exact ⟨hist, .done _ _⟩
  | atom act rest ih =>
    obtain ⟨hist', hrun⟩ := ih d i h ((t, some (act d i).2) :: hist)
    exact ⟨hist', .atom act rest _ i _ _ hi hrun⟩

section Outcome

variable {i : ι} {p : Proc δ ι ℓ ε α} {f : α → Proc δ ι ℓ ε β} {d d' : δ} {a a' : α} {b : β}

theorem outcome_bind (p : Proc δ ι ℓ ε α) (f : α → Proc δ ι ℓ ε β) (d : δ) :
    (p >>= f).outcome i d =
      match p.outcome i d with
      | (.ok a, d₁) => (f a).outcome i d₁
      | (.error e, d₁) => (.error e, d₁) := by
  induction p generalizing d with
  | done r =>
    cases r with
    | ok a => rfl
    | error e => rfl
  | atom act rest ih => exact ih _ _ _

/-- A sequence ends with a value exactly when both parts do. -/
theorem outcome_bind_ok :
    (p >>= f).outcome i d = (.ok b, d') ↔
      ∃ a d₁, p.outcome i d = (.ok a, d₁) ∧ (f a).outcome i d₁ = (.ok b, d') := by
  rw [outcome_bind]
  cases h : p.outcome i d with
  | mk r d₁ =>
    cases r with
    | ok a => simp
    | error e => simp

@[simp] theorem outcome_pure_ok :
    (pure a : Proc δ ι ℓ ε α).outcome i d = (.ok a', d') ↔ a = a' ∧ d = d' := by
  show ((.ok a, d) : Except ε α × δ) = (.ok a', d') ↔ _
  simp

@[simp] theorem outcome_throw_ok {e : ε} :
    (throw e : Proc δ ι ℓ ε α).outcome i d = (.ok a, d') ↔ False := by
  show ((.error e, d) : Except ε α × δ) = (.ok a, d') ↔ _
  simp

@[simp] theorem outcome_lift_ok {x : Except ε α} :
    (monadLift x : Proc δ ι ℓ ε α).outcome i d = (.ok a, d') ↔ x = .ok a ∧ d = d' := by
  show ((x, d) : Except ε α × δ) = (.ok a, d') ↔ _
  simp

@[simp] theorem outcome_transaction_ok {x : Txn ι δ ε α} {committed : α → ℓ} {failed : ε → ℓ} :
    (transaction x committed failed).outcome i d = (.ok a, d') ↔ x i d = .ok (a, d') := by
  simp only [transaction, outcome]
  cases h : x i d with
  | ok r =>
    obtain ⟨a', d₁⟩ := r
    simp [Except.map]
  | error e => simp [Except.map]

/-- The call ends with a value. -/
def Returns (i : ι) (p : Proc δ ι ℓ ε α) (d : δ) : Prop := ∃ a d', p.outcome i d = (.ok a, d')

theorem returns_iff : p.Returns i d ↔ (p.outcome i d).1.toOption.isSome = true := by
  unfold Returns
  cases h : p.outcome i d with
  | mk r d' =>
    cases r with
    | ok a => simp [Except.toOption]
    | error e => simp [Except.toOption]

instance : Decidable (p.Returns i d) := decidable_of_iff _ returns_iff.symm

theorem returns_bind (h : p.outcome i d = (.ok a, d')) (hf : (f a).Returns i d') :
    (p >>= f).Returns i d := by
  obtain ⟨b, d₂, hb⟩ := hf
  exact ⟨b, d₂, outcome_bind_ok.2 ⟨a, d', h, hb⟩⟩

end Outcome

/-- Run a call alone whose statements draw the inputs `ins`, the next of them the one of number `n`; what
it returns, the store it leaves and the number of the next input. -/
def play (ins : ℕ → ι) : Proc δ ι ℓ ε α → ℕ → δ → Except ε α × δ × ℕ
  | .done r, n, d => (r, d, n)
  | .atom act rest, n, d => play ins (rest d (ins n)) (n + 1) (act d (ins n)).1

section Play

variable {ins : ℕ → ι} {n n' : ℕ} {p : Proc δ ι ℓ ε α} {f : α → Proc δ ι ℓ ε β} {d d' : δ} {a : α} {e : ε}

theorem play_bind_ok (h : p.play ins n d = (.ok a, d', n')) :
    (p >>= f).play ins n d = (f a).play ins n' d' := by
  induction p generalizing n d with
  | done r =>
    obtain ⟨rfl, rfl, rfl⟩ : r = .ok a ∧ d = d' ∧ n = n' := by simpa [play] using h
    rfl
  | atom act rest ih => exact ih _ _ h

theorem play_bind_error (h : p.play ins n d = (.error e, d', n')) :
    (p >>= f).play ins n d = (.error e, d', n') := by
  induction p generalizing n d with
  | done r =>
    obtain ⟨rfl, rfl, rfl⟩ : r = .error e ∧ d = d' ∧ n = n' := by simpa [play] using h
    rfl
  | atom act rest ih => exact ih _ _ h

theorem play_transaction_ok {x : Txn ι δ ε α} {committed : α → ℓ} {failed : ε → ℓ}
    (h : x (ins n) d = .ok (a, d')) :
    (transaction x committed failed).play ins n d = (.ok a, d', n + 1) := by
  simp only [transaction, play, h]
  rfl

theorem play_transaction_error {x : Txn ι δ ε α} {committed : α → ℓ} {failed : ε → ℓ}
    (h : x (ins n) d = .error e) :
    (transaction x committed failed).play ins n d = (.error e, d, n + 1) := by
  simp only [transaction, play, h]
  rfl

/-- A call that gives no value fails. -/
theorem Gives.play_error {E : ε → Prop} (h : p.Gives (fun _ => True) (fun _ => False) E) (ins : ℕ → ι)
    (n : ℕ) (d : δ) : ∃ e d' n', p.play ins n d = (.error e, d', n') := by
  induction p generalizing n d with
  | done r =>
    cases r with
    | ok a => exact h.elim
    | error e => exact ⟨e, d, n, rfl⟩
  | atom act rest ih => exact ih d (ins n) (h d (ins n) trivial) (n + 1) _

/-- What `Ends` says of a call holds of it whatever inputs it draws. -/
theorem Ends.play {Q : α → δ → Prop} {E : ε → δ → Prop} (h : p.Ends (fun _ => True) Q E d) :
    (Proc.done (p.play ins n d).1 : Proc δ ι ℓ ε α).Ends (fun _ => True) Q E (p.play ins n d).2.1 := by
  induction p generalizing n d with
  | done r => exact h
  | atom act rest ih => exact ih _ _ (h (ins n) trivial)

end Play

end Proc

/-! ## Sequences of calls -/

/-- The calls `cs`, made one after the other, take the store `d` to the state. Each comes with something,
such as its time, that says which inputs are good for it. -/
inductive Calls (prog : ω → Proc δ ι ℓ ε Unit) (good : τ → ι → Prop) (d : δ) :
    List (ω × τ) → State δ ℓ → Prop
  | nil : Calls prog good d [] ⟨d, []⟩
  | call (cs : List (ω × τ)) (s : State δ ℓ) (op : ω) (x : τ) (r : Except ε Unit) (s' : State δ ℓ)
      (hcs : Calls prog good d cs s) (hrun : (prog op).Run (good x) cs.length s r s') :
      Calls prog good d (cs ++ [(op, x)]) s'

/-- What each call preserves holds after every sequence of calls. -/
theorem Calls.invariant {prog : ω → Proc δ ι ℓ ε Unit} {good : τ → ι → Prop} {d : δ}
    {I : List (ω × τ) → State δ ℓ → Prop} (hinit : I [] ⟨d, []⟩)
    (hstep : ∀ cs s op x, Calls prog good d cs s → I cs s →
      (prog op).Alone (good x) cs.length (fun _ s' => I (cs ++ [(op, x)]) s') s)
    {cs : List (ω × τ)} {s : State δ ℓ} (h : Calls prog good d cs s) : I cs s := by
  induction h with
  | nil => exact hinit
  | call cs s op x r s' hcs hrun ih => exact (hstep cs s op x hcs ih).run hrun

/-- The history is that of the calls made. -/
theorem Calls.hist_lt {prog : ω → Proc δ ι ℓ ε Unit} {good : τ → ι → Prop} {d : δ} {cs : List (ω × τ)}
    {s : State δ ℓ} (h : Calls prog good d cs s) : ∀ x ∈ s.hist, x.1 < cs.length := by
  induction h with
  | nil => exact fun x hx => absurd hx List.not_mem_nil
  | call cs s op y r s' hcs hrun ih =>
    intro x hx
    rw [List.length_append, List.length_singleton]
    rcases hrun.hist hx with hmem | ht
    · have := ih x hmem
      omega
    · omega

/-! ## Calls beside others -/

namespace Protocol

variable {G : Protocol δ ℓ}

/-- A call that follows a protocol beside others does so alone. -/
theorem Conforms.alone {good : ι → Prop} {t : ℕ} {Q : α → State δ ℓ → Prop} {E : ε → State δ ℓ → Prop}
    {p : Proc δ ι ℓ ε α} {s : State δ ℓ} (hs : G.inv s) (h : G.Conforms t Q E p s) :
    p.Alone good t
      (fun r s' => G.inv s' ∧ (∀ a, r = .ok a → Q a s') ∧ ∀ e, r = .error e → E e s') s := by
  induction p generalizing s with
  | done r =>
    cases r with
    | ok a =>
      refine ⟨hs, fun b hb => ?_, nofun⟩
      obtain rfl := Except.ok.inj hb
      exact h
    | error e =>
      refine ⟨hs, nofun, fun e' he => ?_⟩
      obtain rfl := Except.error.inj he
      exact h
  | atom act rest ih =>
    intro i _
    obtain ⟨heff, hrest⟩ := h s .refl i
    exact ih _ _ (G.inv_effect hs heff) hrest

end Protocol

end Concurrent
