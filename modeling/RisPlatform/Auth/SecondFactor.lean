import RisPlatform.Auth.Protocol
import RisPlatform.Common.Relabel
import RisPlatform.Common.Sequential
import RisPlatform.Payments.Frame

/-!
# The recency of the second factor

The authentication service verifies second factors: at the login by a code or a backup code, and in a
step-up. The payments service lets a user authorise a payment if `last_2fa_verified_at` is at most an hour
old. Nothing ever writes that column. So the check passes as long as the value that the column had before is
recent, whatever the user verifies.

The histories here carry the time of every statement, and whose second factor its call is about.
-/

namespace Ris.SecondFactor

open Relational Concurrent

/-! ## The system -/

/-- The operations on accounts, the step-up and those on payments. -/
inductive Op
  | auth (op : Auth.Op)
  | verifyStepUp (userId : ℕ) (req : Request)
  | payments (op : Payments.Op)

/-- The body of each operation. -/
def program (cfg : Config) : Op → Call Unit
  | .auth op => Auth.program cfg op
  | .verifyStepUp userId req => Auth.verifyStepUp userId req
  | .payments op => Payments.program cfg op

/-- The user whose second factor the operation verifies. -/
def Op.subject : Op → Option ℕ
  | .auth (.verifyTwoFactor (.partialAuth userId) _ _) => some userId
  | .verifyStepUp userId _ => some userId
  | _ => none

/-- What a statement did, when, and in a verification of whom. -/
structure Entry where
  subject : Option ℕ
  event : Event
  now : ℤ

/-- The body of each operation, with these entries. -/
def timed (cfg : Config) (op : Op) : Proc World Input Entry RisError Unit :=
  (program cfg op).relabel fun i e => ⟨op.subject, e, i.now⟩

/-- The audit entry of a completed verification: both paths of the login end in the first, the step-up in
the second. -/
def completes : Event → Bool
  | .audited action => action = "TWO_FA_SUCCESS" ∨ action = "STEP_UP_VERIFIED"
  | _ => false

/-- The user has completed a verification within the 60 minutes before `t`. -/
def VerifiedWithin (userId : ℕ) (t : ℤ) (hist : List (ℕ × Option Entry)) : Prop :=
  ∃ x ∈ hist, ∃ entry ∈ x.2, entry.subject = some userId ∧ completes entry.event = true ∧
    t - Payments.twoFaRecencyMs ≤ entry.now ∧ entry.now ≤ t

instance (userId : ℕ) (t : ℤ) (hist : List (ℕ × Option Entry)) :
    Decidable (VerifiedWithin userId t hist) := by
  unfold VerifiedWithin
  infer_instance

/-- `check2faRecency` lets an authorisation by the user pass at time `t`. -/
def LetsPass (userId : ℕ) (t : ℤ) (w : World) : Prop :=
  ((Payments.check2faRecency userId).outcome { now := t } w).1 = .ok ()

/-- The column has a time that is at most 60 minutes old at `t`. -/
def RecordedWithin (userId : ℕ) (t : ℤ) (w : World) : Prop :=
  ∃ verified ∈ Payments.getLast2faVerifiedAt userId w, t - verified ≤ Payments.twoFaRecencyMs

/-- The guard lets a time pass that is there and recent. -/
theorem guard2faRecent_ok {lastVerified : Option ℤ} {t : ℤ} :
    Payments.guard2faRecent lastVerified t = .ok () ↔
      ∃ verified ∈ lastVerified, t - verified ≤ Payments.twoFaRecencyMs := by
  cases lastVerified with
  | none =>
    refine iff_of_false (fun h => by cases h) ?_
    rintro ⟨_, hnone, -⟩
    cases hnone
  | some verified =>
    by_cases hrecent : t - verified ≤ Payments.twoFaRecencyMs
    · exact iff_of_true (if_neg (not_lt.2 hrecent)) ⟨verified, rfl, hrecent⟩
    · refine iff_of_false (fun h => ?_) ?_
      · rw [Payments.guard2faRecent, if_pos (not_le.1 hrecent)] at h
        cases h
      · rintro ⟨_, hsome, h⟩
        obtain rfl := Option.some.inj hsome
        exact hrecent h

/-- The check reads the column, and nothing else. -/
theorem letsPass_iff {userId : ℕ} {t : ℤ} {w : World} :
    LetsPass userId t w ↔ RecordedWithin userId t w := by
  have houtcome : ((Payments.check2faRecency userId).outcome { now := t } w).1 =
      Payments.guard2faRecent (Payments.getLast2faVerifiedAt userId w) t := rfl
  rw [LetsPass, houtcome]
  exact guard2faRecent_ok

instance (userId : ℕ) (t : ℤ) (w : World) : Decidable (RecordedWithin userId t w) := by
  unfold RecordedWithin
  infer_instance

instance (userId : ℕ) (t : ℤ) (w : World) : Decidable (LetsPass userId t w) :=
  decidable_of_iff (RecordedWithin userId t w) letsPass_iff.symm

/-! ## The column stays -/

/-- No column is written, and every refresh token stays signed. -/
structure Keeps (w w' : World) : Prop where
  column : ∀ userId, Payments.getLast2faVerifiedAt userId w' = Payments.getLast2faVerifiedAt userId w
  signed : ∀ token ∈ w.signedTokens, token ∈ w'.signedTokens

section Keeps

variable {cfg : Config} {w w' : World} {s : State World Event} {t : ℕ} {e : Event}

/-- The account is the same, but for columns that are not read here. -/
def SameColumn (u u' : User) : Prop := u'.id = u.id ∧ u'.last2faVerifiedAt = u.last2faVerifiedAt

theorem Keeps.refl (w : World) : Keeps w w := ⟨fun _ => rfl, fun _ h => h⟩

theorem Keeps.of_users (husers : w.users.Rowwise SameColumn w'.users)
    (hsigned : w'.signedTokens = w.signedTokens) : Keeps w w' where
  column userId := by
    have hmap := husers.get?_map (fun _ _ h => h.1) (fun _ _ h => h.2) userId
    have hbind : ∀ o : Option User, o.bind User.last2faVerifiedAt = (o.map User.last2faVerifiedAt).join := by
      intro o
      cases o <;> rfl
    show (w'.users.get? userId).bind User.last2faVerifiedAt =
      (w.users.get? userId).bind User.last2faVerifiedAt
    rw [hbind, hbind, hmap]
  signed _ h := by rwa [hsigned]

/-- Neither table is written. -/
theorem Keeps.of_eq (husers : w'.users = w.users)
    (hsigned : ∀ token ∈ w.signedTokens, token ∈ w'.signedTokens) :
    Keeps w w' where
  column userId := by
    show (w'.users.get? userId).bind _ = (w.users.get? userId).bind _
    rw [husers]
  signed := hsigned

/-- A rewritten account. -/
theorem sameColumn_of_rewrites {userId : ℕ} {f : User → User} {users users' : Table User.id}
    (h : Auth.RewritesUser userId f users users') (hf : ∀ u, SameColumn u (f u)) :
    users.Rowwise SameColumn users' := by
  refine List.Forall₂.imp ?_ h
  rintro u _ rfl
  split
  · exact hf u
  · exact ⟨rfl, rfl⟩

theorem sameColumn_failed (now : ℤ) (u : User) : SameColumn u (Auth.failed now u) := by
  unfold Auth.failed
  split
  · exact ⟨rfl, rfl⟩
  · exact ⟨rfl, rfl⟩

/-- None of the effects of the authentication service writes the column. -/
theorem Keeps.of_auth (h : Auth.Effect cfg s t e w') : Keeps s.store w' := by
  cases h with
  | loginFailureRecorded userId now users entries hcompared hrows =>
    exact .of_users (sameColumn_of_rewrites hrows (sameColumn_failed now)) rfl
  | failedLoginReset userId users hcompared hrows =>
    exact .of_users (sameColumn_of_rewrites hrows fun u => ⟨rfl, rfl⟩) rfl
  | passwordReset tokenId userId password now users history entries hfound hrows =>
    exact .of_users (sameColumn_of_rewrites hrows fun u => ⟨rfl, rfl⟩) rfl
  | passwordChanged userId password users history entries hrows =>
    exact .of_users (sameColumn_of_rewrites hrows fun u => ⟨rfl, rfl⟩) rfl
  | emailVerified tokenId userId now users entries hfound hrows =>
    exact .of_users (sameColumn_of_rewrites hrows fun u => ⟨rfl, rfl⟩) rfl
  | tokenIssued | tokenRotated => exact .of_eq rfl fun _ h => List.mem_append_left _ h
  | _ => exact .of_eq rfl fun _ h => h

/-- Nor does the payments service. -/
theorem Keeps.of_payments (h : Payments.Writes w e w') : Keeps w w' := by
  have husers : w'.users = w.users := by rw [h.frame]
  have hsigned : w'.signedTokens = w.signedTokens := by rw [h.frame]
  exact .of_eq husers fun _ h => by rwa [hsigned]

end Keeps

/-! ## The system follows -/

/-- Effects depend on the store alone; a call may return at any time. -/
def protocol : Protocol World Event where
  inv _ := True
  effect s _ e d :=
    match e with
    | some _ => Keeps s.store d
    | none => d = s.store
  inv_effect _ _ := trivial
  return_stable _ _ _ _ := rfl

theorem auditing : Auditing protocol where
  read _ _ := .refl _
  threw _ _ := .refl _
  logged _ _ _ := .refl _
  enqueued _ _ _ := .of_eq rfl fun _ h => h
  leftJobs _ _ _ := .of_eq rfl fun _ h => h
  audited _ _ _ := .of_eq rfl fun _ h => h

theorem free_verifyStepUp (userId : ℕ) (req : Request) :
    Free protocol (Auth.verifyStepUp userId req) := by
  have hG := auditing
  refine free_bind (free_query hG.toQuiet _) fun found => free_bind ?_ fun _ => free_bind ?_ fun _ =>
    free_bind (Auth.free_audit hG _ _ _ _) fun _ => free_log hG.toQuiet _
  · unfold Auth.guardStepUpConfigured
    split
    · exact free_bind (Auth.free_audit hG _ _ _ _) fun _ => free_throw _
    · exact free_pure _
  · exact free_bind (Auth.free_totpVerify hG) fun _ =>
      free_ite (free_pure _) (free_bind (Auth.free_audit hG _ _ _ _) fun _ => free_throw _)

/-- Every operation follows the protocol. -/
theorem program_implements (cfg : Config) : protocol.Implements (program cfg) := by
  have hsigned : ∀ token, protocol.Steady fun s => token ∈ s.store.signedTokens := by
    intro token s t e d _ h heff
    cases e with
    | some event => exact Keeps.signed heff token h
    | none =>
      obtain rfl : d = s.store := heff
      exact h
  intro op t
  cases op with
  | auth op =>
    exact (Auth.triple_program auditing (fun s t e d _ h => Keeps.of_auth h) hsigned op t).conseq
      (fun _ _ h => h) (fun _ _ _ _ => rfl) fun _ _ _ _ => rfl
  | verifyStepUp userId req =>
    exact (free_verifyStepUp userId req t).conseq (fun _ _ _ => trivial) (fun _ _ _ _ => rfl)
      fun _ _ _ _ => rfl
  | payments op =>
    exact (Payments.free_program auditing.toPermissive (fun _ _ _ _ _ h => Keeps.of_payments h) op t).conseq
      (fun _ _ _ => trivial) (fun _ _ _ _ => rfl) fun _ _ _ _ => rfl

/-- The column is what it was, in every run. -/
theorem column_stays (cfg : Config) {w : World} {s : Sys World Input Event RisError}
    (hs : Reaches (program cfg) always (Sys.init w) s) (userId : ℕ) :
    Payments.getLast2faVerifiedAt userId s.store = Payments.getLast2faVerifiedAt userId w := by
  refine Protocol.invariant (program_implements cfg) trivial
    (P := fun s => Payments.getLast2faVerifiedAt userId s.store = Payments.getLast2faVerifiedAt userId w)
    rfl ?_ hs
  intro s t e d h hmove
  cases e with
  | some event => exact (Keeps.column hmove.effect userId).trans h
  | none =>
    obtain rfl : d = s.store := hmove.effect
    exact h

/-! ## Runs -/

/-- **The recency of the second factor.** In every state of every run, for every user and every time, the
check lets an authorisation pass exactly if the user has completed a verification within the 60 minutes
before, if and only if the time that the column had at the start says the same. -/
theorem recency_iff (cfg : Config) (w : World) (s : Sys World Input Entry RisError)
    (hs : Reaches (timed cfg) always (Sys.init w) s) (userId : ℕ) (t : ℤ) :
    (LetsPass userId t s.store ↔ VerifiedWithin userId t s.hist) ↔
      (RecordedWithin userId t w ↔ VerifiedWithin userId t s.hist) := by
  have hrun : Reaches (program cfg) always (Sys.init w) (s.relabel Entry.event) :=
    Reaches.of_relabel (fun _ _ _ => rfl) hs
  have hcolumn : Payments.getLast2faVerifiedAt userId s.store = Payments.getLast2faVerifiedAt userId w :=
    column_stays cfg hrun userId
  rw [letsPass_iff, RecordedWithin, hcolumn]
  rfl

/-! ## Three accounts -/

/-- Three accounts with a second factor, the second one with a backup code; the column is given. -/
def accounts (last2faVerifiedAt : Option ℤ) : World :=
  { World.empty with
    users :=
      ⟨[1, 2, 3].map fun id =>
        { id, last2faVerifiedAt, twoFactorEnabled := true, twoFactorSecret := some "SECRET" },
        (by decide : ([1, 2, 3] : List ℕ).Nodup)⟩
    totpBackupCodes := .single { id := 1, userId := 2, codeHash := "AB12CD34" } }

/-- A call of `n` statements at time 0, whose code is valid. -/
def verifyAlone (op : Op) (t n : ℕ) : List (Act Op Input) :=
  Act.call op t (List.replicate n { uuid := t, totpValid := true })

/-- A step-up at time 0, which the column knew of. -/
theorem recency_of_recorded :
    ∃ s : Sys World Input Entry RisError, VerifiedWithin 3 1000 s.hist ∧
      (LetsPass 3 1000 s.store ↔ VerifiedWithin 3 1000 s.hist) := by
  obtain ⟨s, hs, hP⟩ := exists_reaches (timed {}) always (Sys.init (accounts (some 0)))
    (verifyAlone (.verifyStepUp 3 {}) 0 4) (fun s => VerifiedWithin 3 1000 s.hist) (by decide)
  have hverified := of_decide_eq_true hP
  have hrecorded : RecordedWithin 3 1000 (accounts (some 0)) := by decide
  exact ⟨s, hverified, (recency_iff {} (accounts (some 0)) s hs 3 1000).2 (iff_of_true hrecorded hverified)⟩

/-- With the empty column of the migration, a login with a code, one with a backup code and a step-up at
time 0 let none of the three users authorise a payment a second later. -/
theorem verified_not_recorded :
    ∃ s : Sys World Input Entry RisError, Reaches (timed {}) always (Sys.init (accounts none)) s ∧
      ∀ userId ∈ [1, 2, 3], VerifiedWithin userId 1000 s.hist ∧ ¬LetsPass userId 1000 s.store := by
  obtain ⟨s, hs, hP⟩ := exists_reaches (timed {}) always (Sys.init (accounts none))
    (verifyAlone (.auth (.verifyTwoFactor (.partialAuth 1) "123456" {})) 0 14 ++
      verifyAlone (.auth (.verifyTwoFactor (.partialAuth 2) "AB12CD34" {})) 1 15 ++
      verifyAlone (.verifyStepUp 3 {}) 2 4)
    (fun s => decide (∀ userId ∈ ([1, 2, 3] : List ℕ),
      VerifiedWithin userId 1000 s.hist ∧ ¬LetsPass userId 1000 s.store)) (by decide)
  exact ⟨s, hs, of_decide_eq_true hP⟩

end Ris.SecondFactor
