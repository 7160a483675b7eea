import RisPlatform.Common.Process

/-!
# Rely-guarantee reasoning about calls

A `Protocol` says what each event may do to the store, whoever performs it, and carries an invariant
that every such move keeps. `Triple` is the judgment that the body of a call follows the protocol when
the other calls do: assertions about the state are used only if they are `Stable`, that is, if no move
of another call falsifies them.

`Protocol.simulates` is the point: when the body of every operation satisfies its triple, each run of
the system is a run of the protocol. Safety of the system is then an induction over protocol moves,
which never mentions call bodies.
-/

namespace Concurrent

variable {δ ι ℓ ε α β ω : Type}

/-- The state after call `t` did `e`, leaving the store `d`. -/
def State.record (s : State δ ℓ) (t : ℕ) (e : Option ℓ) (d : δ) : State δ ℓ := ⟨d, (t, e) :: s.hist⟩

@[simp] theorem State.record_store (s : State δ ℓ) (t : ℕ) (e : Option ℓ) (d : δ) :
    (s.record t e d).store = d := rfl

@[simp] theorem State.record_hist (s : State δ ℓ) (t : ℕ) (e : Option ℓ) (d : δ) :
    (s.record t e d).hist = (t, e) :: s.hist := rfl

/-- The call has not returned. -/
def State.Running (s : State δ ℓ) (t : ℕ) : Prop := none ∉ own t s.hist

/-- What calls may do: an invariant, and the effect of each event on the store. -/
structure Protocol (δ ℓ : Type) where
  /-- Holds in every state. -/
  inv : State δ ℓ → Prop
  /-- From this state the call may do this event and leave this store. -/
  effect : State δ ℓ → ℕ → Option ℓ → δ → Prop
  /-- Every effect keeps the invariant. -/
  inv_effect : ∀ {s t e d}, inv s → effect s t e d → inv (s.record t e d)
  /-- A call that may return may still do so after a move of another call. -/
  return_stable : ∀ {s t u e d}, u ≠ t → inv s → effect s t none s.store → effect s u e d →
    effect (s.record u e d) t none d

namespace Protocol

variable (G : Protocol δ ℓ)

/-- One move, of a call that is running, that meets the condition `C`. -/
structure Moves (C : Cond δ ℓ) (s : State δ ℓ) (t : ℕ) (e : Option ℓ) (d : δ) : Prop where
  inv : G.inv s
  running : s.Running t
  effect : G.effect s t e d
  cond : ∀ ev, e = some ev → C s t ev

/-- Such a move, from one state to the next. -/
def Move (C : Cond δ ℓ) (s s' : State δ ℓ) : Prop :=
  ∃ t e d, G.Moves C s t e d ∧ s' = s.record t e d

/-- A move of a call other than `t`. -/
def Env (t : ℕ) (s s' : State δ ℓ) : Prop :=
  ∃ u e d, u ≠ t ∧ G.effect s u e d ∧ s' = s.record u e d

/-- What the other calls may have done between two statements of `t`. -/
def Rely (t : ℕ) : State δ ℓ → State δ ℓ → Prop := Relation.ReflTransGen (G.Env t)

/-- No move of a call other than `t` falsifies `A`. -/
def Stable (t : ℕ) (A : State δ ℓ → Prop) : Prop :=
  ∀ s u e d, u ≠ t → G.inv s → A s → G.effect s u e d → A (s.record u e d)

/-- No move at all falsifies `B`. -/
def Steady (B : State δ ℓ → Prop) : Prop :=
  ∀ s u e d, G.inv s → B s → G.effect s u e d → B (s.record u e d)

/-- The rest of call `t` follows the protocol from `s`, ending in `Q` with a value or in `E` with an
error. -/
def Conforms (t : ℕ) (Q : α → State δ ℓ → Prop) (E : ε → State δ ℓ → Prop) :
    Proc δ ι ℓ ε α → State δ ℓ → Prop
  | .done (.ok a), s => Q a s
  | .done (.error e), s => E e s
  | .atom act rest, s =>
    ∀ s', G.Rely t s s' → ∀ i,
      G.effect s' t (some (act s'.store i).2) (act s'.store i).1 ∧
        Conforms t Q E (rest s'.store i) (s'.record t (some (act s'.store i).2) (act s'.store i).1)

/-- From a state with `A`, the call `t` running `p` follows the protocol and ends in `Q` or `E`. -/
def Triple (t : ℕ) (A : State δ ℓ → Prop) (p : Proc δ ι ℓ ε α) (Q : α → State δ ℓ → Prop)
    (E : ε → State δ ℓ → Prop) : Prop :=
  ∀ s, G.inv s → A s → G.Conforms t Q E p s

variable {G}

/-! ## Stability -/

theorem Stable.rely {t : ℕ} {A : State δ ℓ → Prop} (hA : G.Stable t A) {s s' : State δ ℓ}
    (hs : G.inv s) (h : A s) (hr : G.Rely t s s') : G.inv s' ∧ A s' := by
  induction hr with
  | refl => exact ⟨hs, h⟩
  | tail _ henv ih =>
    obtain ⟨u, e, d, hu, heff, rfl⟩ := henv
    exact ⟨G.inv_effect ih.1 heff, hA _ u e d hu ih.1 ih.2 heff⟩

theorem Stable.const (t : ℕ) (P : Prop) : G.Stable t fun _ => P := fun _ _ _ _ _ _ h _ => h

theorem Stable.and {t : ℕ} {A B : State δ ℓ → Prop} (hA : G.Stable t A) (hB : G.Stable t B) :
    G.Stable t fun s => A s ∧ B s :=
  fun s u e d hu hs h heff => ⟨hA s u e d hu hs h.1 heff, hB s u e d hu hs h.2 heff⟩

/-- What a call did itself is not changed by the others. -/
theorem Stable.own (t : ℕ) (P : List (Option ℓ) → Prop) : G.Stable t fun s => P (own t s.hist) := by
  intro s u e d hu _ h _
  rwa [State.record_hist, own_cons_of_ne hu]

theorem Steady.stable {B : State δ ℓ → Prop} (hB : G.Steady B) (t : ℕ) : G.Stable t B :=
  fun s u e d _ hs h heff => hB s u e d hs h heff

theorem Steady.and {A B : State δ ℓ → Prop} (hA : G.Steady A) (hB : G.Steady B) :
    G.Steady fun s => A s ∧ B s :=
  fun s u e d hs h heff => ⟨hA s u e d hs h.1 heff, hB s u e d hs h.2 heff⟩

theorem Rely.inv {t : ℕ} {s s' : State δ ℓ} (hr : G.Rely t s s') (hs : G.inv s) : G.inv s' :=
  ((Stable.const t True).rely hs trivial hr).1

theorem Rely.own {t : ℕ} {s s' : State δ ℓ} (hr : G.Rely t s s') (hs : G.inv s) :
    own t s'.hist = own t s.hist :=
  ((Stable.own t (· = Concurrent.own t s.hist)).rely hs rfl hr).2

/-! ## The rules -/

theorem Conforms.mono {t : ℕ} {Q Q' : α → State δ ℓ → Prop} {E E' : ε → State δ ℓ → Prop}
    (hQ : ∀ a s, G.inv s → Q a s → Q' a s) (hE : ∀ e s, G.inv s → E e s → E' e s)
    {p : Proc δ ι ℓ ε α} {s : State δ ℓ} (hs : G.inv s) (h : G.Conforms t Q E p s) :
    G.Conforms t Q' E' p s := by
  induction p generalizing s with
  | done r =>
    cases r with
    | ok a => exact hQ a s hs h
    | error e => exact hE e s hs h
  | atom act rest ih =>
    intro s' hr i
    obtain ⟨heff, hrest⟩ := h s' hr i
    exact ⟨heff, ih _ _ (G.inv_effect (hr.inv hs) heff) hrest⟩

theorem Conforms.bind {t : ℕ} {R : α → State δ ℓ → Prop} {Q : β → State δ ℓ → Prop}
    {E : ε → State δ ℓ → Prop} {p : Proc δ ι ℓ ε α} {f : α → Proc δ ι ℓ ε β}
    (hf : ∀ a s, G.inv s → R a s → G.Conforms t Q E (f a) s) {s : State δ ℓ} (hs : G.inv s)
    (h : G.Conforms t R E p s) : G.Conforms t Q E (p.bind f) s := by
  induction p generalizing s with
  | done r =>
    cases r with
    | ok a => exact hf a s hs h
    | error e => exact h
  | atom act rest ih =>
    intro s' hr i
    obtain ⟨heff, hrest⟩ := h s' hr i
    exact ⟨heff, ih _ _ (G.inv_effect (hr.inv hs) heff) hrest⟩

theorem Conforms.handle {t : ℕ} {Q : α → State δ ℓ → Prop} {R E : ε → State δ ℓ → Prop}
    {p : Proc δ ι ℓ ε α} {h : ε → Proc δ ι ℓ ε α}
    (hh : ∀ e s, G.inv s → R e s → G.Conforms t Q E (h e) s) {s : State δ ℓ} (hs : G.inv s)
    (hp : G.Conforms t Q R p s) : G.Conforms t Q E (p.handle h) s := by
  induction p generalizing s with
  | done r =>
    cases r with
    | ok a => exact hp
    | error e => exact hh e s hs hp
  | atom act rest ih =>
    intro s' hr i
    obtain ⟨heff, hrest⟩ := hp s' hr i
    exact ⟨heff, ih _ _ (G.inv_effect (hr.inv hs) heff) hrest⟩

/-- A steady assertion holds around the rest of a call. -/
theorem Conforms.frame {t : ℕ} {B : State δ ℓ → Prop} (hB : G.Steady B)
    {Q : α → State δ ℓ → Prop} {E : ε → State δ ℓ → Prop} {p : Proc δ ι ℓ ε α} {s : State δ ℓ}
    (hs : G.inv s) (hBs : B s) (h : G.Conforms t Q E p s) :
    G.Conforms t (fun a s => B s ∧ Q a s) (fun e s => B s ∧ E e s) p s := by
  induction p generalizing s with
  | done r =>
    cases r with
    | ok a => exact ⟨hBs, h⟩
    | error e => exact ⟨hBs, h⟩
  | atom act rest ih =>
    intro s' hr i
    obtain ⟨hs', hBs'⟩ := (hB.stable t).rely hs hBs hr
    obtain ⟨heff, hrest⟩ := h s' hr i
    exact ⟨heff, ih _ _ (G.inv_effect hs' heff) (hB _ _ _ _ hs' hBs' heff) hrest⟩

section Rules

variable {t : ℕ} {A : State δ ℓ → Prop} {Q : α → State δ ℓ → Prop} {E : ε → State δ ℓ → Prop}

/-- Strengthen the assertion before, weaken the ones after. -/
theorem Triple.conseq {A' : State δ ℓ → Prop} {Q' : α → State δ ℓ → Prop}
    {E' : ε → State δ ℓ → Prop} {p : Proc δ ι ℓ ε α} (h : G.Triple t A p Q E)
    (hA : ∀ s, G.inv s → A' s → A s) (hQ : ∀ a s, G.inv s → Q a s → Q' a s)
    (hE : ∀ e s, G.inv s → E e s → E' e s) : G.Triple t A' p Q' E' :=
  fun s hs hA' => (h s hs (hA s hs hA')).mono hQ hE hs

/-- Weaken the assertions after. -/
theorem Triple.weaken {Q' : α → State δ ℓ → Prop} {E' : ε → State δ ℓ → Prop}
    {p : Proc δ ι ℓ ε α} (h : G.Triple t A p Q E) (hQ : ∀ a s, G.inv s → Q a s → Q' a s)
    (hE : ∀ e s, G.inv s → E e s → E' e s) : G.Triple t A p Q' E' :=
  h.conseq (fun _ _ hA => hA) hQ hE

/-- A steady assertion may be kept around a call. -/
theorem Triple.frame {B : State δ ℓ → Prop} (hB : G.Steady B) {p : Proc δ ι ℓ ε α}
    (h : G.Triple t A p Q E) :
    G.Triple t (fun s => B s ∧ A s) p (fun a s => B s ∧ Q a s) (fun e s => B s ∧ E e s) :=
  fun s hs hA => (h s hs hA.2).frame hB hs hA.1

/-- A fact that does not mention the state may be assumed. -/
theorem Triple.assume {P : Prop} {p : Proc δ ι ℓ ε α} (hP : ∀ s, A s → P)
    (h : P → G.Triple t A p Q E) : G.Triple t A p Q E :=
  fun s hs hA => h (hP s hA) s hs hA

theorem Triple.ret {a : α} (h : ∀ s, G.inv s → A s → Q a s) :
    G.Triple t A (pure a : Proc δ ι ℓ ε α) Q E :=
  h

theorem Triple.throw {e : ε} (h : ∀ s, G.inv s → A s → E e s) :
    G.Triple t A (throw e : Proc δ ι ℓ ε α) Q E :=
  h

/-- A check: either it passes with a value, or the call ends with its error. -/
theorem Triple.lift {x : Except ε α} (hok : ∀ a s, x = .ok a → G.inv s → A s → Q a s)
    (herr : ∀ e s, x = .error e → G.inv s → A s → E e s) :
    G.Triple t A (monadLift x : Proc δ ι ℓ ε α) Q E := by
  intro s hs hA
  cases x with
  | ok a => exact hok a s rfl hs hA
  | error e => exact herr e s rfl hs hA

theorem Triple.bind {R : β → State δ ℓ → Prop} {p : Proc δ ι ℓ ε β} {f : β → Proc δ ι ℓ ε α}
    (hp : G.Triple t A p R E) (hf : ∀ b, G.Triple t (R b) (f b) Q E) :
    G.Triple t A (p >>= f) Q E :=
  fun s hs hA => (hp s hs hA).bind (fun b s hs hR => hf b s hs hR) hs

theorem Triple.tryCatch {R : ε → State δ ℓ → Prop} {p : Proc δ ι ℓ ε α} {h : ε → Proc δ ι ℓ ε α}
    (hp : G.Triple t A p Q R) (hh : ∀ e, G.Triple t (R e) (h e) Q E) :
    G.Triple t A (tryCatch p h) Q E :=
  fun s hs hA => (hp s hs hA).handle (fun e s hs hR => hh e s hs hR) hs

/-- A loop over a list keeps what each of its turns keeps. -/
theorem Triple.forM {as : List β} {f : β → Proc δ ι ℓ ε Unit}
    (hf : ∀ a ∈ as, G.Triple t A (f a) (fun _ => A) E) :
    G.Triple t A (as.forM f) (fun _ => A) E := by
  induction as with
  | nil => exact .ret fun _ _ hA => hA
  | cons a as ih =>
    have hhead := hf a List.mem_cons_self
    have htail := ih fun b hb => hf b (List.mem_cons_of_mem a hb)
    exact hhead.bind fun _ => htail

theorem Triple.discard {p : Proc δ ι ℓ ε α} {B : State δ ℓ → Prop}
    (h : G.Triple t A p (fun _ => B) E) : G.Triple t A p.discard (fun _ => B) E :=
  fun s hs hA => (h s hs hA).bind (fun _ _ _ hB => hB) hs

/-- A transaction, from a stable assertion: its commit and its failure are effects of the protocol. -/
theorem Triple.transaction {x : Txn ι δ ε α} {committed : α → ℓ} {failed : ε → ℓ}
    (hA : G.Stable t A)
    (hok : ∀ s i a d, G.inv s → A s → x i s.store = .ok (a, d) →
      G.effect s t (some (committed a)) d ∧ Q a (s.record t (some (committed a)) d))
    (herr : ∀ s i e, G.inv s → A s → x i s.store = .error e →
      G.effect s t (some (failed e)) s.store ∧ E e (s.record t (some (failed e)) s.store)) :
    G.Triple t A (.transaction x committed failed) Q E := by
  intro s₀ hs₀ hA₀ s hr i
  obtain ⟨hs, hAs⟩ := hA.rely hs₀ hA₀ hr
  cases hx : x i s.store with
  | ok r =>
    obtain ⟨a, d⟩ := r
    simp only [hx]
    exact hok s i a d hs hAs hx
  | error e =>
    simp only [hx]
    exact herr s i e hs hAs hx

end Rules

/-! ## Runs of the system are runs of the protocol -/

section Simulation

variable {prog : ω → Proc δ ι ℓ ε Unit} {C : Cond δ ℓ}

/-- Every operation follows the protocol from its start to a state from which it may return. -/
def Implements (G : Protocol δ ℓ) (prog : ω → Proc δ ι ℓ ε Unit) : Prop :=
  ∀ op t, G.Triple t (fun s => own t s.hist = []) (prog op)
    (fun _ s => G.effect s t none s.store) (fun _ s => G.effect s t none s.store)

/-- The call `t` with the rest `p` follows the protocol and may then return. -/
abbrev Follows (G : Protocol δ ℓ) (t : ℕ) (p : Proc δ ι ℓ ε Unit) (s : State δ ℓ) : Prop :=
  G.Conforms t (fun _ s => G.effect s t none s.store) (fun _ s => G.effect s t none s.store) p s

/-- The system invariant behind the simulation. -/
structure Live (G : Protocol δ ℓ) (s : Sys δ ι ℓ ε) : Prop where
  inv : G.inv s.toState
  hist_lt : ∀ x ∈ s.hist, x.1 < s.calls.length
  returned : ∀ t, ¬s.Running t → s.calls[t]? = some none
  follows : ∀ t p, s.calls[t]? = some (some p) → G.Follows t p s.toState

/-- A move of another call does not stop a call from following the protocol. -/
theorem Follows.env {t : ℕ} {p : Proc δ ι ℓ ε Unit} {s s' : State δ ℓ} (hs : G.inv s)
    (h : G.Follows t p s) (henv : G.Env t s s') : G.Follows t p s' := by
  cases p with
  | done r =>
    obtain ⟨u, e, d, hu, heff, rfl⟩ := henv
    cases r with
    | ok a => exact G.return_stable hu hs h heff
    | error e => exact G.return_stable hu hs h heff
  | atom act rest => exact fun s'' hr => h s'' (.head henv hr)

/-- After a move of call `t` that leaves it `q`, every live call still follows the protocol. -/
theorem Live.record {s : Sys δ ι ℓ ε} (h : G.Live s) {t : ℕ} {e : Option ℓ} {d : δ}
    {q : Option (Proc δ ι ℓ ε Unit)} (ht : t < s.calls.length) (hrun : s.Running t)
    (heff : G.effect s.toState t e d) (he : e = none → q = none)
    (hq : ∀ p, q = some p → G.Follows t p (s.toState.record t e d)) :
    G.Live { toState := s.toState.record t e d, calls := s.calls.set t q } where
  inv := G.inv_effect h.inv heff
  hist_lt := by
    intro x hx
    rw [List.length_set]
    rcases List.mem_cons.1 hx with rfl | hx
    · exact ht
    · exact h.hist_lt x hx
  returned := by
    intro u hu
    rw [State.Running, State.record_hist, not_not] at hu
    by_cases htu : t = u
    · subst htu
      rw [own_cons_self, List.mem_cons] at hu
      rcases hu with hu | hu
      · rw [List.getElem?_set_self ht, he hu.symm]
      · exact absurd hu hrun
    · rw [own_cons_of_ne htu] at hu
      rw [List.getElem?_set_ne htu]
      exact h.returned u (not_not.2 hu)
  follows := by
    intro u p hu
    by_cases htu : t = u
    · subst htu
      rw [List.getElem?_set_self ht, Option.some.injEq] at hu
      exact hq p hu
    · rw [List.getElem?_set_ne htu] at hu
      exact (h.follows u p hu).env h.inv ⟨t, e, d, htu, heff, rfl⟩

/-- A new call follows the protocol: it has no history yet. -/
theorem Live.start (hprog : G.Implements prog) {s : Sys δ ι ℓ ε} (h : G.Live s) (op : ω) :
    G.Live { s with calls := s.calls ++ [some (prog op)] } where
  inv := h.inv
  hist_lt := by
    intro x hx
    have hlt := h.hist_lt x hx
    rw [List.length_append]
    omega
  returned := by
    intro t ht
    have hcall := h.returned t ht
    rwa [List.getElem?_append_left (List.getElem?_eq_some_iff.1 hcall).1]
  follows := by
    intro t p ht
    by_cases hlt : t < s.calls.length
    · rw [List.getElem?_append_left hlt] at ht
      exact h.follows t p ht
    · have hlen := (List.getElem?_eq_some_iff.1 ht).1
      rw [List.length_append, List.length_singleton] at hlen
      obtain rfl : t = s.calls.length := by omega
      rw [List.getElem?_concat_length, Option.some.injEq, Option.some.injEq] at ht
      subst ht
      exact hprog op _ _ h.inv (own_eq_nil fun x hx => Nat.ne_of_lt (h.hist_lt x hx))

/-- A call with something left to do is running. -/
theorem Live.running {s : Sys δ ι ℓ ε} (h : G.Live s) {t : ℕ} {p : Proc δ ι ℓ ε Unit}
    (hcall : s.calls[t]? = some (some p)) : s.Running t := by
  by_contra hrun
  rw [h.returned t hrun] at hcall
  cases hcall

/-- The step lemma: a step keeps the system invariant, and is silent or a move of the protocol. -/
theorem Live.step (hprog : G.Implements prog) {s s' : Sys δ ι ℓ ε} (h : G.Live s)
    (hs : Step prog C s s') :
    G.Live s' ∧ (s'.toState = s.toState ∨ G.Move C s.toState s'.toState) := by
  obtain ⟨a, ha, hC⟩ := hs
  cases step_cases ha with
  | start op => exact ⟨h.start hprog op, Or.inl rfl⟩
  | move t i act rest hcall =>
    obtain ⟨heff, hrest⟩ := h.follows t _ hcall s.toState .refl i
    have ht : t < s.calls.length := (List.getElem?_eq_some_iff.1 hcall).1
    have hrun := h.running hcall
    refine ⟨h.record ht hrun heff (fun he => by cases he) ?_,
      Or.inr ⟨t, _, _, ⟨h.inv, hrun, heff, ?_⟩, rfl⟩⟩
    · rintro p hp
      obtain rfl := Option.some.inj hp
      exact hrest
    · rintro ev hev
      obtain rfl := Option.some.inj hev
      exact hC.cond rfl
  | ret t r hcall =>
    have ht : t < s.calls.length := (List.getElem?_eq_some_iff.1 hcall).1
    have hrun := h.running hcall
    -- with a value or with an error, a call that follows the protocol may return
    have heff : G.effect s.toState t none s.store := by
      cases r with
      | ok a => exact h.follows t _ hcall
      | error e => exact h.follows t _ hcall
    exact ⟨h.record ht hrun heff (fun _ => rfl) (fun p hp => by cases hp),
      Or.inr ⟨t, _, _, ⟨h.inv, hrun, heff, fun ev hev => by cases hev⟩, rfl⟩⟩

/-- No call is live in the initial state. -/
theorem Live.init {d : δ} (h : G.inv ⟨d, []⟩) : G.Live (Sys.init d : Sys δ ι ℓ ε) where
  inv := h
  hist_lt := by
    intro x hx
    cases hx
  returned := by
    intro t ht
    simp [State.Running, Sys.init] at ht
  follows := by
    intro t p ht
    simp [Sys.init] at ht

/-- The run lemma: every run of the system is a run of the protocol. -/
theorem simulates (hprog : G.Implements prog) {d : δ} (h : G.inv ⟨d, []⟩) {s : Sys δ ι ℓ ε}
    (hs : Reaches prog C (Sys.init d) s) :
    G.Live s ∧ Relation.ReflTransGen (G.Move C) ⟨d, []⟩ s.toState := by
  induction hs with
  | refl => exact ⟨Live.init h, .refl⟩
  | tail _ hstep ih =>
    obtain ⟨hlive, heq | hmove⟩ := ih.1.step hprog hstep
    · exact ⟨hlive, heq ▸ ih.2⟩
    · exact ⟨hlive, ih.2.tail hmove⟩

/-- A step of the system from a state it reaches is silent or a move of the protocol. -/
theorem step_move (hprog : G.Implements prog) {d : δ} (h : G.inv ⟨d, []⟩) {s s' : Sys δ ι ℓ ε}
    (hs : Reaches prog C (Sys.init d) s) (hs' : Step prog C s s') :
    s'.toState = s.toState ∨ G.Move C s.toState s'.toState :=
  ((simulates hprog h hs).1.step hprog hs').2

/-- What every move preserves holds from some state of a run on. -/
theorem persists (hprog : G.Implements prog) {d : δ} (h : G.inv ⟨d, []⟩) {P : State δ ℓ → Prop}
    (hstep : ∀ s t e d, P s → G.Moves C s t e d → P (s.record t e d))
    {s s' : Sys δ ι ℓ ε} (hs : Reaches prog C (Sys.init d) s) (hP : P s.toState)
    (hs' : Reaches prog C s s') : P s'.toState := by
  induction hs' with
  | refl => exact hP
  | tail hpre hlast ih =>
    rcases step_move hprog h (hs.trans hpre) hlast with heq | ⟨t, e, d, hmove, heq⟩
    · rwa [heq]
    · rw [heq]
      exact hstep _ t e d ih hmove

/-- An invariant of protocol moves holds in every state the system reaches. -/
theorem invariant (hprog : G.Implements prog) {d : δ} (h : G.inv ⟨d, []⟩) {P : State δ ℓ → Prop}
    (h₀ : P ⟨d, []⟩) (hstep : ∀ s t e d, P s → G.Moves C s t e d → P (s.record t e d))
    {s : Sys δ ι ℓ ε} (hs : Reaches prog C (Sys.init d) s) : P s.toState :=
  persists hprog h hstep .refl h₀ hs

section Decided

variable {P : State δ ℓ → Prop} {R : State δ ℓ → State δ ℓ → Prop} (hprog : G.Implements prog) {d : δ}
  (h : G.inv ⟨d, []⟩) (h₀ : P ⟨d, []⟩) (hsilent : ∀ s, P s → R s s)
  (hreturn : ∀ s t d, P s → G.Moves always s t none d → R s (s.record t none d))
  (hstep : ∀ s t e d, P s → G.Moves always s t (some e) d →
    (R s (s.record t (some e) d) ↔ C s t e))
  (hkeep : ∀ s t e d, P s → G.Moves always s t e d → R s (s.record t e d) → P (s.record t e d))

include hprog h hsilent hreturn hstep hkeep

/-- One step from a state that is reached and has `P`: an `R`-step exactly if it meets `C`, and then it
keeps `P`. -/
theorem step_iff {s s' : Sys δ ι ℓ ε} (hs : Reaches prog always (Sys.init d) s) (hP : P s.toState)
    (hs' : Step prog always s s') :
    (R s.toState s'.toState ↔ Step prog C s s') ∧ (R s.toState s'.toState → P s'.toState) := by
  rcases step_move hprog h hs hs' with heq | ⟨t, e, d', hmove, heq⟩
  · rw [heq]
    refine ⟨iff_of_true (hsilent _ hP) (hs'.of_cond fun t e he => ?_), fun _ => hP⟩
    rw [heq] at he
    simp at he
  · rw [heq]
    refine ⟨?_, hkeep _ t e d' hP hmove⟩
    have hhist : s'.hist = (t, e) :: s.hist := by
      rw [heq]
      rfl
    cases e with
    | none =>
      refine iff_of_true (hreturn _ t d' hP hmove) (hs'.of_cond fun u e he => ?_)
      rw [hhist, List.cons.injEq, Prod.mk.injEq] at he
      cases he.1.2
    | some e =>
      rw [hstep _ t e d' hP hmove]
      constructor
      · intro hC
        refine hs'.of_cond fun u e' he => ?_
        rw [hhist, List.cons.injEq, Prod.mk.injEq, Option.some.injEq] at he
        obtain ⟨⟨rfl, rfl⟩, -⟩ := he
        exact hC
      · rintro ⟨a, -, hadmits⟩
        exact hadmits.cond hhist

include h₀

/-- When `R` is decided at each statement by `C`, the runs of `R`-steps are the runs whose steps
all meet `C`. Of the states `P` may be assumed, if those steps keep it. -/
theorem runs_iff (s : Sys δ ι ℓ ε) :
    Relation.ReflTransGen (fun s s' => Step prog always s s' ∧ R s.toState s'.toState)
      (Sys.init d) s ↔ Reaches prog C (Sys.init d) s := by
  -- in both directions `P` of the state before the last step says which steps it may be
  constructor
  · intro hs
    have hrun : Reaches prog C (Sys.init d) s ∧ P s.toState := by
      induction hs with
      | refl => exact ⟨.refl, h₀⟩
      | tail _ hlast ih =>
        obtain ⟨hiff, hP⟩ :=
          step_iff hprog h hsilent hreturn hstep hkeep ih.1.always ih.2 hlast.1
        exact ⟨ih.1.tail (hiff.1 hlast.2), hP hlast.2⟩
    exact hrun.1
  · intro hs
    have hrun : Relation.ReflTransGen
        (fun s s' => Step prog always s s' ∧ R s.toState s'.toState) (Sys.init d) s ∧
          P s.toState := by
      induction hs with
      | refl => exact ⟨.refl, h₀⟩
      | tail hpre hlast ih =>
        obtain ⟨hiff, hP⟩ :=
          step_iff hprog h hsilent hreturn hstep hkeep (Reaches.always hpre) ih.2 hlast.always
        have hgood := hiff.2 hlast
        exact ⟨ih.1.tail ⟨hlast.always, hgood⟩, hP hgood⟩
    exact hrun.1

end Decided

/-- Two conditions on steps that agree on the moves from a state with `P`, which steps that meet them keep,
have the same runs. -/
theorem runs_congr {P : State δ ℓ → Prop} {R T : State δ ℓ → State δ ℓ → Prop}
    (hprog : G.Implements prog) {d : δ} (h : G.inv ⟨d, []⟩) (h₀ : P ⟨d, []⟩)
    (hsilent : ∀ s, P s → R s s ∧ T s s)
    (hmove : ∀ s t e d, P s → G.Moves always s t e d →
      (R s (s.record t e d) ↔ T s (s.record t e d)))
    (hkeep : ∀ s t e d, P s → G.Moves always s t e d → R s (s.record t e d) → P (s.record t e d))
    (s : Sys δ ι ℓ ε) :
    Relation.ReflTransGen (fun s s' => Step prog always s s' ∧ R s.toState s'.toState)
        (Sys.init d) s ↔
      Relation.ReflTransGen (fun s s' => Step prog always s s' ∧ T s.toState s'.toState)
        (Sys.init d) s := by
  have hstep : ∀ {s s' : Sys δ ι ℓ ε}, Reaches prog always (Sys.init d) s → P s.toState →
      Step prog always s s' → (R s.toState s'.toState ↔ T s.toState s'.toState) ∧
        (R s.toState s'.toState → P s'.toState) := by
    intro s s' hs hP hs'
    rcases step_move hprog h hs hs' with heq | ⟨t, e, d', hmoves, heq⟩
    · rw [heq]
      exact ⟨iff_of_true (hsilent _ hP).1 (hsilent _ hP).2, fun _ => hP⟩
    · rw [heq]
      exact ⟨hmove _ t e d' hP hmoves, hkeep _ t e d' hP hmoves⟩
  constructor
  · intro hs
    have hrun : Relation.ReflTransGen
        (fun s s' => Step prog always s s' ∧ T s.toState s'.toState) (Sys.init d) s ∧
          P s.toState ∧ Reaches prog always (Sys.init d) s := by
      induction hs with
      | refl => exact ⟨.refl, h₀, .refl⟩
      | tail _ hlast ih =>
        obtain ⟨hiff, hP⟩ := hstep ih.2.2 ih.2.1 hlast.1
        exact ⟨ih.1.tail ⟨hlast.1, hiff.1 hlast.2⟩, hP hlast.2, ih.2.2.tail hlast.1⟩
    exact hrun.1
  · intro hs
    have hrun : Relation.ReflTransGen
        (fun s s' => Step prog always s s' ∧ R s.toState s'.toState) (Sys.init d) s ∧
          P s.toState ∧ Reaches prog always (Sys.init d) s := by
      induction hs with
      | refl => exact ⟨.refl, h₀, .refl⟩
      | tail _ hlast ih =>
        obtain ⟨hiff, hP⟩ := hstep ih.2.2 ih.2.1 hlast.1
        have hR := hiff.2 hlast.2
        exact ⟨ih.1.tail ⟨hlast.1, hR⟩, hP hR, ih.2.2.tail hlast.1⟩
    exact hrun.1

/-! ## What a call has established when it ends -/

/-- The call `t` is at a rest that establishes `Q` if it ends with a value, or has returned. -/
def Towards (G : Protocol δ ℓ) (t : ℕ) (Q : State δ ℓ → Prop) (s : Sys δ ι ℓ ε) : Prop :=
  t < s.calls.length ∧ ∀ p, s.calls[t]? = some (some p) →
    G.Conforms t (fun _ => Q) (fun _ _ => True) p s.toState

theorem towards_step {t : ℕ} {Q : State δ ℓ → Prop} (hQ : G.Steady Q)
    {s s' : Sys δ ι ℓ ε} (hlive : G.Live s) (h : G.Towards t Q s) (hs : Step prog C s s') :
    G.Towards t Q s' := by
  obtain ⟨a, ha, -⟩ := hs
  -- a move of another call leaves what is still to do, and what has been established
  have henv : ∀ {p : Proc δ ι ℓ ε Unit} {u e d}, u ≠ t → G.effect s.toState u e d →
      G.Conforms t (fun _ => Q) (fun _ _ => True) p s.toState →
      G.Conforms t (fun _ => Q) (fun _ _ => True) p (s.toState.record u e d) := by
    intro p u e d hu heff hp
    cases p with
    | done r =>
      cases r with
      | ok x => exact hQ _ u e d hlive.inv hp heff
      | error x => trivial
    | atom act rest => exact fun s'' hr => hp s'' (.head ⟨u, e, d, hu, heff, rfl⟩ hr)
  cases step_cases ha with
  | start op =>
    refine ⟨by rw [List.length_append]; exact Nat.lt_add_right _ h.1, fun p hp => ?_⟩
    rw [List.getElem?_append_left h.1] at hp
    exact h.2 p hp
  | move u i act rest hcall =>
    obtain ⟨heff, -⟩ := hlive.follows u _ hcall s.toState .refl i
    refine ⟨by rw [List.length_set]; exact h.1, fun p hp => ?_⟩
    by_cases hu : u = t
    · subst hu
      rw [List.getElem?_set_self h.1, Option.some.injEq, Option.some.injEq] at hp
      exact hp ▸ (h.2 _ hcall s.toState .refl i).2
    · rw [List.getElem?_set_ne hu] at hp
      exact henv hu heff (h.2 p hp)
  | ret u r hcall =>
    have heff : G.effect s.toState u none s.store := by
      cases r with
      | ok x => exact hlive.follows u _ hcall
      | error x => exact hlive.follows u _ hcall
    refine ⟨by rw [List.length_set]; exact h.1, fun p hp => ?_⟩
    by_cases hu : u = t
    · subst hu
      rw [List.getElem?_set_self h.1, Option.some.injEq] at hp
      cases hp
    · rw [List.getElem?_set_ne hu] at hp
      exact henv hu heff (h.2 p hp)

/-- In the run the call `t` was started as `op` and has ended with a value. -/
def Succeeded (prog : ω → Proc δ ι ℓ ε Unit) (C : Cond δ ℓ) (d : δ) (op : ω) (t : ℕ)
    (s : Sys δ ι ℓ ε) : Prop :=
  ∃ s₀, Reaches prog C (Sys.init d) s₀ ∧ s₀.calls.length = t ∧
    Reaches prog C { s₀ with calls := s₀.calls ++ [some (prog op)] } s ∧
    s.calls[t]? = some (some (.done (.ok ())))

theorem Succeeded.reaches {d : δ} {op : ω} {t : ℕ} {s : Sys δ ι ℓ ε} (h : Succeeded prog C d op t s) :
    Reaches prog C (Sys.init d) s := by
  obtain ⟨s₀, hs₀, -, hs, -⟩ := h
  have hstart : Step prog C s₀ { s₀ with calls := s₀.calls ++ [some (prog op)] } := by
    refine ⟨.start op, rfl, ?_⟩
    unfold Admits
    split
    · exact fun hlt => absurd hlt (Nat.lt_irrefl _)
    · trivial
  exact (hs₀.tail hstart).trans hs

/-- What the triple of an operation says of its end holds when a call of it has succeeded, if no move
falsifies it. -/
theorem of_succeeded (hprog : G.Implements prog) {d : δ} (h : G.inv ⟨d, []⟩) {Q : State δ ℓ → Prop}
    (hQ : G.Steady Q) {op : ω} {t : ℕ}
    (hop : G.Triple t (fun s => own t s.hist = []) (prog op) (fun _ => Q) fun _ _ => True)
    {s : Sys δ ι ℓ ε} (hs : Succeeded prog C d op t s) : Q s.toState := by
  obtain ⟨s₀, hs₀, hlen, hrun, hend⟩ := hs
  have hlive₀ := (simulates hprog h hs₀).1
  have htowards : G.Live s ∧ G.Towards t Q s := by
    clear hend
    induction hrun with
    | refl =>
      refine ⟨hlive₀.start hprog op, by rw [List.length_append, List.length_singleton]; omega, fun p hp => ?_⟩
      rw [← hlen, List.getElem?_concat_length, Option.some.injEq, Option.some.injEq] at hp
      subst hp
      exact hop _ hlive₀.inv (own_eq_nil fun x hx => Nat.ne_of_lt (hlen ▸ hlive₀.hist_lt x hx))
    | tail _ hstep ih => exact ⟨(ih.1.step hprog hstep).1, towards_step hQ ih.1 ih.2 hstep⟩
  exact htowards.2.2 _ hend

end Simulation

end Protocol

end Concurrent
