import RisPlatform.Common.Process

/-!
# Other events for the same statements

The events of a call are ghosts: what it does to the store does not depend on them. `Proc.relabel f` gives
every statement the event that `f` makes of its input and its own event, so that a history can say more, for
example when each statement was executed. If the own event can be read off the new one, every run of the
relabelled system is a run of the system itself (`Reaches.of_relabel`).
-/

namespace Concurrent

variable {δ ι ℓ ℓ' ε α β ω : Type}

namespace Proc

/-- The same statements, with other events. -/
def relabel (f : ι → ℓ → ℓ') : Proc δ ι ℓ ε α → Proc δ ι ℓ' ε α
  | .done r => .done r
  | .atom act rest => .atom (fun d i => ((act d i).1, f i (act d i).2)) fun d i => (rest d i).relabel f

/-- Nothing is lost if the first event can be read off the second. -/
theorem relabel_relabel {f : ι → ℓ → ℓ'} {g : ℓ' → ℓ} (hg : ∀ i e, g (f i e) = e) (p : Proc δ ι ℓ ε α) :
    (p.relabel f).relabel (fun _ => g) = p := by
  induction p with
  | done r => rfl
  | atom act rest ih =>
    have hact : (fun d i => ((act d i).1, g (f i (act d i).2))) = act := by
      funext d i
      rw [hg]
    have hrest : (fun d i => ((rest d i).relabel f).relabel fun _ => g) = rest := by
      funext d i
      exact ih d i
    show Proc.atom (fun d i => ((act d i).1, g (f i (act d i).2)))
      (fun d i => ((rest d i).relabel f).relabel fun _ => g) = _
    rw [hact, hrest]

end Proc

/-! ## Runs -/

/-- The system with the events that `g` reads off. -/
def Sys.relabel (g : ℓ' → ℓ) (s : Sys δ ι ℓ' ε) : Sys δ ι ℓ ε where
  store := s.store
  hist := s.hist.map fun x => (x.1, x.2.map g)
  calls := s.calls.map fun p => p.map (Proc.relabel fun _ => g)

section Runs

variable {prog : ω → Proc δ ι ℓ' ε Unit} {g : ℓ' → ℓ} {s s' : Sys δ ι ℓ' ε}

/-- A step is a step of the relabelled system, whose condition is left out. -/
theorem step_relabel {a : Act ω ι} (h : step prog s a = some s') :
    step (fun op => (prog op).relabel fun _ => g) (s.relabel g) a = some (s'.relabel g) := by
  cases step_cases h with
  | start op => simp [step, Sys.relabel]
  | move t i act rest hcall => simp [step, Sys.relabel, hcall, Proc.relabel, List.map_set]
  | ret t r hcall => simp [step, Sys.relabel, hcall, Proc.relabel, List.map_set]

/-- The run lemma. -/
theorem Reaches.relabel {C : Cond δ ℓ'} (h : Reaches prog C s s') :
    Reaches (fun op => (prog op).relabel fun _ => g) Concurrent.always (s.relabel g) (s'.relabel g) := by
  induction h with
  | refl => exact .refl
  | tail _ hstep ih =>
    obtain ⟨a, ha, -⟩ := hstep
    refine ih.tail ⟨a, step_relabel ha, ?_⟩
    unfold Admits
    split
    · exact fun _ => trivial
    · trivial

end Runs

/-- A run of the relabelled system is one of the system itself. -/
theorem Reaches.of_relabel {prog : ω → Proc δ ι ℓ ε Unit} {f : ω → ι → ℓ → ℓ'} {g : ℓ' → ℓ}
    (hg : ∀ op i e, g (f op i e) = e) {C : Cond δ ℓ'} {d : δ} {s : Sys δ ι ℓ' ε}
    (h : Reaches (fun op => (prog op).relabel (f op)) C (Sys.init d) s) :
    Reaches prog Concurrent.always (Sys.init d) (s.relabel g) := by
  have hprog : (fun op => ((prog op).relabel (f op)).relabel fun _ => g) = prog := by
    funext op
    exact Proc.relabel_relabel (hg op) (prog op)
  have hrun := h.relabel (g := g)
  rwa [hprog] at hrun

end Concurrent
