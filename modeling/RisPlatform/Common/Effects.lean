import RisPlatform.Common.RelyGuarantee

/-!
# What the statements of a call may do

`Effects` say, of each event, what its statement may do to the store, given what its call did before.
`Proc.Does` is the judgment that a call body stays within them, whatever stores its statements find. It
speaks of one call and of nothing that others do, so it is proved by following the body.

`Effects.protocol` is the protocol of calls that do so, and `Effects.implements` connects the two: when
each operation stays within `E`, the rules of `Protocol` apply to the system with the moves `E`.
-/

namespace Concurrent

variable {δ ι ℓ ε α β ω : Type}

/-- What a statement may do: what its call did before, newest first, the store it finds, its event and
the store it leaves. -/
abbrev Effects (δ ℓ : Type) : Type := List (Option ℓ) → δ → ℓ → δ → Prop

namespace Proc

/-- The call, which has done `l` so far, does what `E` allows, and ends with a value as `Q` says. -/
def Does (E : Effects δ ℓ) (Q : α → List (Option ℓ) → Prop) :
    Proc δ ι ℓ ε α → List (Option ℓ) → Prop
  | .done (.ok a), l => Q a l
  | .done (.error _), _ => True
  | .atom act rest, l =>
    ∀ d i, E l d (act d i).2 (act d i).1 ∧ (rest d i).Does E Q (some (act d i).2 :: l)

variable {E : Effects δ ℓ} {Q : α → List (Option ℓ) → Prop} {l : List (Option ℓ)}

/-! ## The rules -/

/-- What the call did before `l` stays in its history. -/
theorem Does.mono {Q' : α → List (Option ℓ) → Prop} {p : Proc δ ι ℓ ε α} (h : p.Does E Q l)
    (hQ : ∀ a l', l <:+ l' → Q a l' → Q' a l') : p.Does E Q' l := by
  induction p generalizing l with
  | done r =>
    cases r with
    | ok a => exact hQ a l (List.suffix_refl l) h
    | error e => trivial
  | atom act rest ih =>
    intro d i
    obtain ⟨heff, hrest⟩ := h d i
    refine ⟨heff, ih d i hrest fun a l' hl' => hQ a l' ?_⟩
    exact (List.suffix_cons _ l).trans hl'

theorem Does.weaken {E' : Effects δ ℓ} {p : Proc δ ι ℓ ε α} (h : p.Does E Q l)
    (hE : ∀ l d e d', E l d e d' → E' l d e d') : p.Does E' Q l := by
  induction p generalizing l with
  | done r => cases r <;> exact h
  | atom act rest ih =>
    intro d i
    obtain ⟨heff, hrest⟩ := h d i
    exact ⟨hE _ _ _ _ heff, ih d i hrest⟩

theorem does_pure {a : α} (h : Q a l) : (pure a : Proc δ ι ℓ ε α).Does E Q l := h

theorem does_throw (e : ε) : (throw e : Proc δ ι ℓ ε α).Does E Q l := trivial

/-- A check ends the call, or passes with a value. -/
theorem does_lift {x : Except ε α} (h : ∀ a, x = .ok a → Q a l) :
    (monadLift x : Proc δ ι ℓ ε α).Does E Q l := by
  cases x with
  | ok a => exact h a rfl
  | error e => trivial

/-- The rest of a call knows what the first part did, and that it is still in the history. -/
theorem Does.bind {R : β → List (Option ℓ) → Prop} {p : Proc δ ι ℓ ε β} {f : β → Proc δ ι ℓ ε α}
    (hp : p.Does E R l) (hf : ∀ b l', l <:+ l' → R b l' → (f b).Does E Q l') :
    (p >>= f).Does E Q l := by
  induction p generalizing l with
  | done r =>
    cases r with
    | ok b => exact hf b l (List.suffix_refl l) hp
    | error e => trivial
  | atom act rest ih =>
    intro d i
    obtain ⟨heff, hrest⟩ := hp d i
    refine ⟨heff, ih d i hrest fun b l' hl' => hf b l' ?_⟩
    exact (List.suffix_cons _ l).trans hl'

/-- A handler knows nothing of the error, and what the call had done before. -/
theorem Does.tryCatch {p : Proc δ ι ℓ ε α} {h : ε → Proc δ ι ℓ ε α} (hp : p.Does E Q l)
    (hh : ∀ e l', l <:+ l' → (h e).Does E Q l') : (tryCatch p h).Does E Q l := by
  induction p generalizing l with
  | done r =>
    cases r with
    | ok a => exact hp
    | error e => exact hh e l (List.suffix_refl l)
  | atom act rest ih =>
    intro d i
    obtain ⟨heff, hrest⟩ := hp d i
    refine ⟨heff, ih d i hrest fun e l' hl' => hh e l' ?_⟩
    exact (List.suffix_cons _ l).trans hl'

theorem Does.discard {p : Proc δ ι ℓ ε α} (h : p.Does E (fun _ _ => True) l) :
    p.discard.Does E (fun _ _ => True) l :=
  h.bind fun _ _ _ _ => trivial

/-- A transaction does what its commit does, or what its failure does. -/
theorem does_transaction {x : Txn ι δ ε α} {committed : α → ℓ} {failed : ε → ℓ}
    (hok : ∀ i d a d', x i d = .ok (a, d') → E l d (committed a) d' ∧ Q a (some (committed a) :: l))
    (herr : ∀ i d e, x i d = .error e → E l d (failed e) d) :
    (transaction x committed failed).Does E Q l := by
  intro d i
  cases hx : x i d with
  | ok r =>
    obtain ⟨a, d'⟩ := r
    simp only [hx]
    exact hok i d a d' hx
  | error e =>
    simp only [hx]
    exact ⟨herr i d e hx, trivial⟩

end Proc

namespace Effects

variable (E : Effects δ ℓ)

/-- Each statement does what `E` allows, and a return nothing. -/
def Moves (s : State δ ℓ) (t : ℕ) : Option ℓ → δ → Prop
  | some e, d => E (own t s.hist) s.store e d
  | none, d => d = s.store

def protocol : Protocol δ ℓ where
  inv _ := True
  effect := E.Moves
  inv_effect _ _ := trivial
  return_stable _ _ _ _ := rfl

variable {E}

/-- A call that does what `E` allows follows the protocol: no other call changes what it did. -/
theorem conforms {t : ℕ} {Q : α → List (Option ℓ) → Prop} {p : Proc δ ι ℓ ε α} {s : State δ ℓ}
    (h : p.Does E Q (own t s.hist)) :
    E.protocol.Conforms t (fun a s => Q a (own t s.hist)) (fun _ _ => True) p s := by
  induction p generalizing s with
  | done r => cases r <;> exact h
  | atom act rest ih =>
    intro s' hr i
    obtain ⟨heff, hrest⟩ := h s'.store i
    have hown : own t s'.hist = own t s.hist := hr.own trivial
    refine ⟨?_, ih _ _ ?_⟩
    · show E (own t s'.hist) _ _ _
      rwa [hown]
    · rwa [State.record_hist, own_cons_self, hown]

variable {prog : ω → Proc δ ι ℓ ε Unit} {C : Cond δ ℓ}

/-- Every operation does what `E` allows. -/
def Covers (E : Effects δ ℓ) (prog : ω → Proc δ ι ℓ ε Unit) : Prop :=
  ∀ op, (prog op).Does E (fun _ _ => True) []

theorem Covers.implements (hprog : E.Covers prog) : E.protocol.Implements prog := by
  intro op t s _ hown
  have hdoes : (prog op).Does E (fun _ _ => True) (own t s.hist) := hown ▸ hprog op
  exact (conforms hdoes).mono (fun _ _ _ _ => rfl) (fun _ _ _ _ => rfl) trivial

/-! ## Runs -/

section Runs

variable (hprog : E.Covers prog) {d : δ} {s s' : Sys δ ι ℓ ε}

include hprog

/-- A step of a run leaves the store alone, or is a statement that does what `E` allows. -/
theorem step_cases (hs : Reaches prog C (Sys.init d) s) (hstep : Step prog C s s') :
    s'.store = s.store ∨ ∃ t e, s'.hist = (t, some e) :: s.hist ∧ C s.toState t e ∧
      E (own t s.hist) s.store e s'.store := by
  rcases Protocol.step_move hprog.implements trivial hs hstep with heq | ⟨t, e, d', hmove, heq⟩
  · exact Or.inl (congrArg State.store heq)
  · have hhist : s'.hist = (t, e) :: s.hist := congrArg State.hist heq
    have hstore : s'.store = d' := congrArg State.store heq
    cases e with
    | none => exact Or.inl (hstore.trans hmove.effect)
    | some e => exact Or.inr ⟨t, e, hhist, hmove.cond e rfl, hstore ▸ hmove.effect⟩

section Invariant

variable {P : State δ ℓ → Prop} (hret : ∀ s t, P s → P (s.record t none s.store))

include hret

/-- What the statements and the returns keep holds from some state of a run on. -/
theorem persists
    (hstep : ∀ s t e d', P s → E (own t s.hist) s.store e d' → C s t e → P (s.record t (some e) d'))
    (hs : Reaches prog C (Sys.init d) s) (hP : P s.toState) (hs' : Reaches prog C s s') :
    P s'.toState := by
  refine Protocol.persists hprog.implements trivial ?_ hs hP hs'
  intro s t e d' hP hmove
  cases e with
  | none =>
    obtain rfl : d' = s.store := hmove.effect
    exact hret s t hP
  | some e => exact hstep s t e d' hP hmove.effect (hmove.cond e rfl)

variable (h₀ : P ⟨d, []⟩)

include h₀

/-- And in every state, if it holds in the first. -/
theorem invariant
    (hstep : ∀ s t e d', P s → E (own t s.hist) s.store e d' → C s t e → P (s.record t (some e) d'))
    (hs : Reaches prog C (Sys.init d) s) : P s.toState :=
  persists hprog hret hstep .refl h₀ hs

/-- When the condition decides of each statement whether `P` holds after it, the runs on which `P` holds
throughout are the runs whose statements meet the condition. -/
theorem runs_iff
    (hstep : ∀ s t e d', P s → E (own t s.hist) s.store e d' → (P (s.record t (some e) d') ↔ C s t e))
    (s : Sys δ ι ℓ ε) :
    Relation.ReflTransGen (fun s s' => Step prog always s s' ∧ P s'.toState) (Sys.init d) s ↔
      Reaches prog C (Sys.init d) s := by
  refine Protocol.runs_iff (P := P) (R := fun _ s' => P s') hprog.implements trivial h₀
    (fun _ hP => hP) ?_ ?_ (fun _ _ _ _ _ _ h => h) s
  · intro s t d' hP hmove
    obtain rfl : d' = s.store := hmove.effect
    exact hret s t hP
  · exact fun s t e d' hP hmove => hstep s t e d' hP hmove.effect

/-- The same where the condition decides only beside what holds in every state of every run. -/
theorem runs_iff_beside {J : State δ ℓ → Prop} (hJret : ∀ s t, J s → J (s.record t none s.store))
    (hJ₀ : J ⟨d, []⟩)
    (hJstep : ∀ s t e d', J s → E (own t s.hist) s.store e d' → J (s.record t (some e) d'))
    (hstep : ∀ s t e d', P s → J s → E (own t s.hist) s.store e d' →
      (P (s.record t (some e) d') ↔ C s t e))
    (s : Sys δ ι ℓ ε) :
    Relation.ReflTransGen (fun s s' => Step prog always s s' ∧ P s'.toState) (Sys.init d) s ↔
      Reaches prog C (Sys.init d) s := by
  refine Iff.trans ?_ (runs_iff (P := fun s => P s ∧ J s) hprog (fun s t h => ⟨hret s t h.1, hJret s t h.2⟩)
    ⟨h₀, hJ₀⟩ ?_ s)
  · have hreaches : ∀ {s'}, Relation.ReflTransGen (fun s s' => Step prog always s s' ∧ P s'.toState)
        (Sys.init d) s' → Reaches prog always (Sys.init d) s' :=
      Relation.ReflTransGen.mono (fun _ _ hstep => hstep.1) _ _
    refine ⟨fun h => ?_, Relation.ReflTransGen.mono (fun _ _ hstep => ⟨hstep.1, hstep.2.1⟩) _ _⟩
    induction h with
    | refl => exact .refl
    | tail hrun hlast ih =>
      have hall : Reaches prog always (Sys.init d) _ := hreaches (hrun.tail hlast)
      exact ih.tail ⟨hlast.1, hlast.2, invariant hprog hJret hJ₀ (fun s t e d' h heff _ => hJstep s t e d' h heff)
        hall⟩
  · intro s t e d' h heff
    rw [← hstep s t e d' h.1 h.2 heff]
    exact and_iff_left (hJstep s t e d' h.2 heff)

end Invariant

end Runs

end Effects

end Concurrent
