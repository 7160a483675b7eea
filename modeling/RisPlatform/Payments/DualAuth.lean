import RisPlatform.Payments.Conformance

/-!
# Dual authorisation

A payment that is executing or funded has been authorised by two different users, and no later step
changes an authoriser once recorded. The invariant says for each status which authorisers a row has;
the trigger `enforce_dual_auth_on_payment` carries the one transition that the service makes without
looking at the status.
-/

namespace Ris.Payments

open Relational Concurrent

/-- Two different users have authorised the payment. -/
def DualAuthorised (r : Payment) : Prop :=
  ∃ u v, r.dualAuthUser1 = some u ∧ r.dualAuthUser2 = some v ∧ u ≠ v

/-- The authorisers that a row has in each status. -/
def AuthorisersFit (r : Payment) : Prop :=
  match r.status with
  | .pendingFirstAuth => r.dualAuthUser1 = none ∧ r.dualAuthUser2 = none
  | .pendingSecondAuth => r.dualAuthUser1 ≠ none ∧ r.dualAuthUser2 = none
  | .executing | .funded => DualAuthorised r
  | .failed | .reversed => True

/-- The authorisers recorded in `r` are recorded in `r'`. -/
structure KeepsAuthorisers (r r' : Payment) : Prop where
  first : r.dualAuthUser1 ≠ none → r'.dualAuthUser1 = r.dualAuthUser1
  second : r.dualAuthUser2 ≠ none → r'.dualAuthUser2 = r.dualAuthUser2

theorem KeepsAuthorisers.refl (r : Payment) : KeepsAuthorisers r r := ⟨fun _ => rfl, fun _ => rfl⟩

theorem KeepsAuthorisers.trans {r r' r'' : Payment} (h : KeepsAuthorisers r r')
    (h' : KeepsAuthorisers r' r'') : KeepsAuthorisers r r'' where
  first hne := (h'.first (by rwa [h.first hne])).trans (h.first hne)
  second hne := (h'.second (by rwa [h.second hne])).trans (h.second hne)

/-- The trigger lets a row become funded only with two different authorisers. -/
theorem dualAuthorised_of_funded {r new : Payment} (hstatus : new.status = .funded)
    (h : violation r new = none) : DualAuthorised new := by
  unfold violation at h
  cases h₁ : new.dualAuthUser1 with
  | none => simp [hstatus, h₁] at h
  | some u =>
    cases h₂ : new.dualAuthUser2 with
    | none => simp [hstatus, h₁, h₂] at h
    | some v =>
      refine ⟨u, v, h₁, h₂, ?_⟩
      rintro rfl
      simp [hstatus, h₁, h₂] at h

/-- The step lemma: a lifecycle step keeps the authorisers fitting and changes none. -/
theorem RowStep.authorisersFit {e : Option Event} {r r' : Payment} (hstep : RowStep e r r')
    (h : AuthorisersFit r) : AuthorisersFit r' ∧ KeepsAuthorisers r r' := by
  cases hstep with
  | same => exact ⟨h, .refl r⟩
  | firstAuthorised userId now he hstatus =>
    simp only [AuthorisersFit, hstatus] at h
    refine ⟨?_, fun hne => absurd h.1 hne, fun hne => absurd h.2 hne⟩
    exact ⟨by simp [setFirstAuth], h.2⟩
  | secondAuthorised userId now he hstatus huser =>
    simp only [AuthorisersFit, hstatus] at h
    refine ⟨?_, fun _ => rfl, fun hne => absurd h.2 hne⟩
    obtain ⟨u, hu⟩ := Option.ne_none_iff_exists'.1 h.1
    refine ⟨u, userId, hu, rfl, ?_⟩
    rintro rfl
    exact huser hu
  | funded p result now he hid hinvoice hlawful =>
    exact ⟨dualAuthorised_of_funded rfl hlawful, fun _ => rfl, fun _ => rfl⟩
  | pending p result he hid hlawful => exact ⟨h, fun _ => rfl, fun _ => rfl⟩
  | failed p reason he hid => exact ⟨trivial, fun _ => rfl, fun _ => rfl⟩
  | suspended ids reason he hids hstatus => exact ⟨trivial, fun _ => rfl, fun _ => rfl⟩

/-- A created row has no authoriser. -/
theorem authorisersFit_created {s : State World Event} {t : ℕ} {p : Payment} {d : World}
    (h : Effect s t (some (.paymentCreated p)) d) : AuthorisersFit p := by
  cases h with
  | paymentCreated h =>
    rw [h.row]
    exact ⟨rfl, rfl⟩

/-- In every state of a run from the empty payments table the authorisers fit. -/
theorem authorisersFit_of_reaches {cfg : Config} {w : World} (hw : w.payments.rows = [])
    {s : Sys World Input Event RisError} (hs : Reaches (program cfg) always (Sys.init w) s) :
    ∀ j r, s.store.payments.get? j = some r → AuthorisersFit r := by
  refine Protocol.invariant (P := fun s => ∀ j r, s.store.payments.get? j = some r → AuthorisersFit r)
    (program_implements cfg) trivial ?_ ?_ hs
  · intro j r hr
    have hmem := Table.mem_of_get? hr
    rw [hw] at hmem
    cases hmem
  · rintro s t e d hfit ⟨-, -, heff, -⟩ j r' hr'
    rcases Effect.row_origin heff hr' with ⟨rfl, -⟩ | ⟨r, hr, hstep⟩
    · exact authorisersFit_created heff
    · exact (hstep.authorisersFit (hfit j r hr)).1

/-- **Dual authorisation.** In every reachable state an executing or funded payment has two different
authorisers, and in every later state the authorisers recorded so far are still there. -/
theorem dual_authorisation (cfg : Config) (w : World) (hw : w.payments.rows = [])
    (s : Sys World Input Event RisError) (hs : Reaches (program cfg) always (Sys.init w) s) :
    (∀ p ∈ s.store.payments.rows, p.status = .executing ∨ p.status = .funded → DualAuthorised p) ∧
      ∀ s', Reaches (program cfg) always s s' → ∀ p ∈ s.store.payments.rows,
        ∃ p', s'.store.payments.get? p.id = some p' ∧ KeepsAuthorisers p p' := by
  have hfit := authorisersFit_of_reaches hw hs
  constructor
  · intro p hp hstatus
    have h := hfit p.id p (Table.get?_of_mem hp)
    rcases hstatus with hstatus | hstatus
    · simpa only [AuthorisersFit, hstatus] using h
    · simpa only [AuthorisersFit, hstatus] using h
  · intro s' hs' p hp
    have hrun := Protocol.persists
      (P := fun s => ∃ p', s.store.payments.get? p.id = some p' ∧ AuthorisersFit p' ∧
        KeepsAuthorisers p p')
      (program_implements cfg) trivial ?_ hs
      ⟨p, Table.get?_of_mem hp, hfit p.id p (Table.get?_of_mem hp), .refl p⟩ hs'
    · obtain ⟨p', hp', -, hkeeps⟩ := hrun
      exact ⟨p', hp', hkeeps⟩
    · rintro s t e d ⟨r, hr, hrfit, hkeeps⟩ ⟨-, -, heff, -⟩
      obtain ⟨r', hr', hstep⟩ := Effect.row_step heff hr
      obtain ⟨hfit', hkeeps'⟩ := hstep.authorisersFit hrfit
      exact ⟨r', hr', hfit', hkeeps.trans hkeeps'⟩

/-- A payment taken from initiation to its bank reference: both authorisers are recorded. -/
theorem dual_authorisation_of_funded_run :
    ∃ s : Sys World Input Event RisError, ∃ p ∈ s.store.payments.rows,
      p.status = .funded ∧ DualAuthorised p := by
  obtain ⟨s, hs, hfunded⟩ := exists_reaches (program {}) always (Sys.init smallWorld)
    (initiateAlone 0 1 "K" ++ authoriseAlone 1 1 ++ executeAlone 3 1)
    (fun s => s.store.payments.rows.any fun p => p.status = .funded) (by decide +kernel)
  obtain ⟨p, hp, hstatus⟩ := List.any_eq_true.1 hfunded
  have hstatus : p.status = .funded := of_decide_eq_true hstatus
  exact ⟨s, p, hp, hstatus, (dual_authorisation {} smallWorld rfl s hs).1 p hp (Or.inr hstatus)⟩

end Ris.Payments
