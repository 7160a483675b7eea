import Mathlib.Data.List.Infix

/-!
# Runs of a partial step function

`run` makes actions one after the other, as long as they are possible. `Each P` says of the actions of a
run that `P` holds of each in the state that it is made in; it is what such a `P` keeps that holds in the
states of the run (`Each.invariant`), and what relates a state to the one after it that relates any two
(`Each.related`).
-/

namespace Runs

variable {σ α : Type*} {step : σ → α → Option σ} {P Q : σ → α → Prop} {s s' s₁ : σ} {a : α}
  {as bs : List α}

/-- The actions one after the other; there is no state if one of them is not possible. -/
def run (step : σ → α → Option σ) (s : σ) (as : List α) : Option σ := as.foldlM step s

@[simp]
theorem run_nil : run step s [] = some s := rfl

theorem run_cons : run step s (a :: as) = (step s a).bind fun s₁ => run step s₁ as := rfl

theorem run_cons_of (h : step s a = some s₁) : run step s (a :: as) = run step s₁ as := by
  rw [run_cons, h, Option.bind_some]

theorem run_singleton : run step s [a] = step s a := by
  rw [run_cons]
  exact Option.bind_fun_some _

theorem run_append : run step s (as ++ bs) = (run step s as).bind fun s₁ => run step s₁ bs :=
  List.foldlM_append

/-- Where every action is possible, a run is a fold. -/
theorem run_total {f : σ → α → σ} : run (fun s a => some (f s a)) s as = some (as.foldl f s) := by
  induction as generalizing s with
  | nil => rfl
  | cons a as ih => exact ih

/-- `P` holds of each action, in the state that it is made in. -/
def Each (step : σ → α → Option σ) (P : σ → α → Prop) : σ → List α → Prop
  | _, [] => True
  | s, a :: as => P s a ∧ ∀ s₁, step s a = some s₁ → Each step P s₁ as

theorem each_append :
    Each step P s (as ++ bs) ↔
      Each step P s as ∧ ∀ s₁, run step s as = some s₁ → Each step P s₁ bs := by
  induction as generalizing s with
  | nil => simp [Each]
  | cons a as ih =>
    rw [List.cons_append, Each, Each, and_assoc]
    refine and_congr_right fun _ => ?_
    constructor
    · intro h
      refine ⟨fun s₁ hs₁ => (ih.1 (h s₁ hs₁)).1, fun s₂ hrun => ?_⟩
      obtain ⟨s₁, hs₁, hrun⟩ := Option.bind_eq_some_iff.1 hrun
      exact (ih.1 (h s₁ hs₁)).2 s₂ hrun
    · rintro ⟨hfirst, hrest⟩ s₁ hs₁
      exact ih.2 ⟨hfirst s₁ hs₁, fun s₂ hrun => hrest s₂ ((run_cons_of hs₁).trans hrun)⟩

theorem Each.of_prefix (h : Each step P s as) (hpre : bs <+: as) : Each step P s bs := by
  obtain ⟨cs, rfl⟩ := hpre
  exact (each_append.1 h).1

/-- The same by the first parts of the run. -/
theorem each_iff :
    Each step P s as ↔ ∀ bs a s₁, bs ++ [a] <+: as → run step s bs = some s₁ → P s₁ a := by
  constructor
  · intro h bs a s₁ hpre hrun
    exact ((each_append.1 (h.of_prefix hpre)).2 s₁ hrun).1
  · intro h
    induction as generalizing s with
    | nil => trivial
    | cons a as ih =>
      refine ⟨h [] a s ⟨as, rfl⟩ rfl, fun s₁ hs₁ => ih fun bs b s₂ hpre hrun => ?_⟩
      exact h (a :: bs) b s₂ (List.cons_prefix_cons.2 ⟨rfl, hpre⟩) ((run_cons_of hs₁).trans hrun)

theorem Each.mono (h : Each step P s as) (hPQ : ∀ s a, P s a → Q s a) : Each step Q s as :=
  each_iff.2 fun bs a s₁ hpre hrun => hPQ s₁ a (each_iff.1 h bs a s₁ hpre hrun)

/-- What the actions with `P` keep holds at the end of a run of such actions. -/
theorem Each.invariant {I : σ → Prop} (h : Each step P s as)
    (hkeeps : ∀ s a s', I s → P s a → step s a = some s' → I s') (hs : I s)
    (hrun : run step s as = some s') : I s' := by
  induction as generalizing s with
  | nil => exact Option.some.inj hrun ▸ hs
  | cons a as ih =>
    obtain ⟨s₁, hs₁, hrun⟩ := Option.bind_eq_some_iff.1 hrun
    exact ih (h.2 s₁ hs₁) (hkeeps s a s₁ hs h.1 hs₁) hrun

/-- A preorder that relates the states before and after each action relates the ends of the run. -/
theorem Each.related {R : σ → σ → Prop} (hrefl : ∀ s, R s s)
    (htrans : ∀ s₁ s₂ s₃, R s₁ s₂ → R s₂ s₃ → R s₁ s₃)
    (h : Each step (fun s a => ∀ s', step s a = some s' → R s s') s as) (hrun : run step s as = some s') :
    R s s' :=
  h.invariant (fun s₁ _ s₂ hs₁ hstep hs₂ => htrans s s₁ s₂ hs₁ (hstep s₂ hs₂)) (hrefl s) hrun

section Total

variable {f : σ → α → σ} {I J : σ → Prop} {R : σ → α → Prop}

theorem each_total_cons :
    Each (fun s a => some (f s a)) P s (a :: as) ↔
      P s a ∧ Each (fun s a => some (f s a)) P (f s a) as := by
  refine and_congr_right fun _ => ⟨fun h => h _ rfl, ?_⟩
  rintro h s₁ hs₁
  obtain rfl := Option.some.inj hs₁
  exact h

theorem forall_prefix_cons {I : List α → Prop} :
    (∀ bs, bs <+: a :: as → I bs) ↔ I [] ∧ ∀ bs, bs <+: as → I (a :: bs) := by
  constructor
  · intro h
    exact ⟨h [] List.nil_prefix, fun bs hpre => h (a :: bs) (List.cons_prefix_cons.2 ⟨rfl, hpre⟩)⟩
  · rintro ⟨hnil, hcons⟩ bs hpre
    cases bs with
    | nil => exact hnil
    | cons b bs =>
      obtain ⟨rfl, hrest⟩ := List.cons_prefix_cons.1 hpre
      exact hcons bs hrest

/-- Where the actions with `P` are those that keep `I` and are allowed by `R`, just the runs of such actions
are allowed and have `I` in every state, if they begin with it. `J` is what every action keeps. -/
theorem holds_and_each_iff (hJ : ∀ s a, J s → J (f s a))
    (hstep : ∀ s a, J s → I s → (I (f s a) ∧ R s a ↔ P s a)) (hs : J s) :
    (∀ bs, bs <+: as → I (bs.foldl f s)) ∧ Each (fun s a => some (f s a)) R s as ↔
      I s ∧ Each (fun s a => some (f s a)) P s as := by
  induction as generalizing s with
  | nil =>
    constructor
    · exact fun h => ⟨h.1 [] List.nil_prefix, trivial⟩
    · rintro ⟨hI, -⟩
      refine ⟨fun bs hpre => ?_, trivial⟩
      obtain rfl := List.prefix_nil.1 hpre
      exact hI
  | cons a as ih =>
    rw [forall_prefix_cons, each_total_cons, each_total_cons, and_assoc]
    refine and_congr_right fun hI => ?_
    refine and_left_comm.trans ((and_congr_right fun _ => ih (hJ s a hs)).trans ?_)
    rw [← hstep s a hs hI, and_assoc, and_left_comm]

theorem holds_iff (hJ : ∀ s a, J s → J (f s a)) (hstep : ∀ s a, J s → I s → (I (f s a) ↔ P s a))
    (hs : J s) :
    (∀ bs, bs <+: as → I (bs.foldl f s)) ↔ I s ∧ Each (fun s a => some (f s a)) P s as := by
  refine Iff.trans ?_ (holds_and_each_iff (R := fun _ _ => True) hJ (fun s a hs hI => ?_) hs)
  · refine (and_iff_left ?_).symm
    exact each_iff.2 fun _ _ _ _ _ => trivial
  · rw [and_iff_left trivial]
    exact hstep s a hs hI

end Total

end Runs
