import RisPlatform.Auth.Protocol

/-!
# The lock of an account

Five failed passwords lock an account for half an hour, counted from the last of them. The lock is looked
at before the password is compared, and the failure is recorded after that: attempts that overlap may all
compare before the first failure is recorded.
-/

namespace Ris.Auth

open Relational Concurrent

/-! ## What the history says -/

/-- What became of the passwords for an account since one was last accepted. -/
structure Tally where
  /-- The times of the failures that were recorded, the latest first. -/
  failures : List ℤ := []
  /-- How many wrong ones were compared, also since a lock was last put in force. -/
  compared : ℕ := 0
  /-- How many wrong ones were compared and not recorded yet. -/
  pending : ℕ := 0

/-- The failures put a lock in force. -/
def Locks (failures : List ℤ) : Prop := 5 ≤ failures.length

instance (failures : List ℤ) : Decidable (Locks failures) := by
  unfold Locks
  infer_instance

/-- A failure is recorded. -/
def Tally.record (c : Tally) (now : ℤ) : Tally where
  failures := now :: c.failures
  compared := if Locks (now :: c.failures) then 0 else c.compared
  pending := c.pending - 1

def Tally.step (userId : ℕ) (c : Tally) : Event → Tally
  | .passwordCompared u false =>
    if u = userId then { c with compared := c.compared + 1, pending := c.pending + 1 } else c
  | .loginFailureRecorded u now => if u = userId then c.record now else c
  | .failedLoginReset u => if u = userId then { c with failures := [], compared := 0 } else c
  | _ => c

def tally (userId : ℕ) : List (ℕ × Option Event) → Tally
  | [] => {}
  | (_, none) :: earlier => tally userId earlier
  | (_, some e) :: earlier => (tally userId earlier).step userId e

/-- An attempt at this time is to be refused: five failures are recorded, and the last of them less than
the duration of a lock ago. -/
def Refused (failures : List ℤ) (now : ℤ) : Prop :=
  Locks failures ∧ ∃ last ∈ failures.head?, now < last + lockoutDuration

/-- An event obeys the law of the lock, after what came before: the lock that is found is the one the
failures put in force, and a password is compared only by a call that found none. -/
def Lawful (t : ℕ) (earlier : List (ℕ × Option Event)) : Event → Prop
  | .lockChecked userId locked now => locked = true ↔ Refused (tally userId earlier).failures now
  | .passwordCompared userId _ => ∃ now, some (.lockChecked userId false now) ∈ own t earlier
  | _ => True

/-- Every event of the history obeys the law of the lock. -/
def LockLaw : List (ℕ × Option Event) → Prop
  | [] => True
  | (t, e) :: earlier => (∀ event ∈ e, Lawful t earlier event) ∧ LockLaw earlier

/-! ## The accounts follow the history -/

/-- The lock that the failures put in force. -/
def lockOf : List ℤ → Option ℤ
  | [] => none
  | last :: earlier => if Locks (last :: earlier) then some (last + lockoutDuration) else none

/-- The account shows these failures. -/
structure Shows (failures : List ℤ) (u : User) : Prop where
  count : u.failedLoginCount = failures.length
  lock : u.lockedUntil = lockOf failures

theorem Shows.isAccountLocked_iff {failures : List ℤ} {u : User} (h : Shows failures u) (now : ℤ) :
    isAccountLocked u now = true ↔ Refused failures now := by
  rw [isAccountLocked, h.lock]
  cases failures with
  | nil => simp [lockOf, Refused]
  | cons last earlier =>
    by_cases hlocks : Locks (last :: earlier)
    · simp [lockOf, Refused, hlocks]
    · simp [lockOf, Refused, hlocks]

/-- A failure that is recorded is shown. -/
theorem Shows.failed {failures : List ℤ} {u : User} (h : Shows failures u) (now : ℤ) :
    Shows (now :: failures) (failed now u) := by
  have hlength : (((now :: failures).length : ℕ) : ℤ) = u.failedLoginCount + 1 := by
    rw [h.count, List.length_cons]
    push_cast
    rfl
  have hlocks : Locks (now :: failures) ↔ maxFailedAttempts ≤ u.failedLoginCount + 1 := by
    rw [← hlength, Locks, maxFailedAttempts]
    omega
  by_cases hmax : maxFailedAttempts ≤ u.failedLoginCount + 1
  · rw [Auth.failed, if_pos hmax]
    exact ⟨hlength.symm, (if_pos (hlocks.2 hmax)).symm⟩
  · rw [Auth.failed, if_neg hmax]
    refine ⟨hlength.symm, ?_⟩
    have hnone : lockOf failures = none := by
      cases failures with
      | nil => rfl
      | cons last earlier =>
        refine if_neg fun hold => hmax (hlocks.1 ?_)
        unfold Locks at hold ⊢
        rw [List.length_cons]
        omega
    rw [lockOf, if_neg fun h => hmax (hlocks.1 h), ← hnone, ← h.lock]
    rfl

/-- Every account shows the failures of its history. -/
def Tracks (s : State World Event) : Prop :=
  ∀ u ∈ s.store.users.rows, Shows (tally u.id s.hist).failures u

section Moves

variable {cfg : Config} {s : State World Event} {t : ℕ} {e : Event} {w : World}

/-- A statement that rewrites an account and says so to the tally. -/
theorem Tracks.rewrite {userId : ℕ} {f : User → User} (hs : Tracks s)
    (hrows : RewritesUser userId f s.store.users w.users) (hf : ∀ u, (f u).id = u.id)
    (hother : ∀ v, v ≠ userId → (tally v s.hist).step v e = tally v s.hist)
    (hshows : ∀ u ∈ s.store.users.rows, u.id = userId → Shows (tally userId s.hist).failures u →
      Shows ((tally userId s.hist).step userId e).failures (f u)) : Tracks (s.record t (some e) w) := by
  intro u' hu'
  obtain ⟨u, hu, rfl⟩ := hrows.exists_of_mem hu'
  by_cases hid : u.id = userId
  · rw [if_pos hid, hf, hid]
    exact hshows u hu hid (hid ▸ hs u hu)
  · rw [if_neg hid]
    show Shows ((tally u.id s.hist).step u.id e).failures u
    rw [hother u.id hid]
    exact hs u hu

/-- A statement that leaves the accounts and the tally. -/
theorem Tracks.idle (hs : Tracks s) (hw : w.users = s.store.users)
    (hstep : ∀ v, (tally v s.hist).step v e = tally v s.hist) : Tracks (s.record t (some e) w) := by
  intro u hu
  show Shows ((tally u.id s.hist).step u.id e).failures u
  rw [hstep]
  have hu' : u ∈ w.users.rows := hu
  rw [hw] at hu'
  exact hs u hu'

/-- A comparison records nothing. -/
theorem failures_step_compared (userId v : ℕ) (matched : Bool) (c : Tally) :
    (c.step v (.passwordCompared userId matched)).failures = c.failures := by
  cases matched with
  | true => rfl
  | false =>
    simp only [Tally.step]
    split <;> rfl

/-- The tally counts events of the service alone. -/
theorem step_of_general (he : e.service? = none) (userId : ℕ) (c : Tally) : c.step userId e = c := by
  cases e <;> first | rfl | cases he

theorem Tracks.moves (hs : Tracks s) (h : Moves cfg s t (some e) w) :
    Tracks (s.record t (some e) w) := by
  rcases h with h | ⟨hgeneral, hleaves⟩
  · cases h with
    | loginFailureRecorded userId now users entries hcompared hrows =>
      refine hs.rewrite hrows (fun u => ?_) (fun v hv => if_neg (Ne.symm hv)) fun u hu hid hshows => ?_
      · unfold failed
        split <;> rfl
      · have hstep : (tally userId s.hist).step userId (.loginFailureRecorded userId now) =
            (tally userId s.hist).record now := if_pos rfl
        rw [hstep]
        exact hshows.failed now
    | failedLoginReset userId users hcompared hrows =>
      refine hs.rewrite hrows (fun _ => rfl) (fun v hv => if_neg (Ne.symm hv)) fun u hu hid hshows => ?_
      have hstep : (tally userId s.hist).step userId (.failedLoginReset userId) =
          { tally userId s.hist with failures := [], compared := 0 } := if_pos rfl
      rw [hstep]
      exact ⟨rfl, rfl⟩
    | passwordReset tokenId userId password now users history entries hfound hrows =>
      exact hs.rewrite hrows (fun _ => rfl) (fun _ _ => rfl) fun u _ _ hshows =>
        ⟨hshows.count, hshows.lock⟩
    | passwordChanged userId password users history entries hrows =>
      exact hs.rewrite hrows (fun _ => rfl) (fun _ _ => rfl) fun u _ _ hshows =>
        ⟨hshows.count, hshows.lock⟩
    | emailVerified tokenId userId now users entries hfound hrows =>
      exact hs.rewrite hrows (fun _ => rfl) (fun _ _ => rfl) fun u _ _ hshows =>
        ⟨hshows.count, hshows.lock⟩
    | passwordCompared userId matched now hchecked =>
      intro u hu
      show Shows ((tally u.id s.hist).step u.id (.passwordCompared userId matched)).failures u
      rw [failures_step_compared]
      exact hs u hu
    | read | lockChecked | loginHistoryCreated | sessionCreated | sessionDeleted | tokenIssued
    | blocklistChecked | tokenExpired | tokenBlocked | tokenRotated | backupCodeFound | backupCodeUsed
    | resetTokenFound | verificationTokenFound =>
      exact hs.idle rfl fun _ => rfl
  · exact hs.idle hleaves.users fun v => step_of_general hgeneral v _

/-- Every event obeys the law of the lock. -/
theorem lawful_of_moves (hs : Tracks s) (h : Moves cfg s t (some e) w) : Lawful t s.hist e := by
  rcases h with h | ⟨hgeneral, -⟩
  · cases h with
    | lockChecked u now hu => exact (hs u hu).isAccountLocked_iff now
    | passwordCompared userId matched now hchecked => exact ⟨now, hchecked⟩
    | read | loginFailureRecorded | failedLoginReset | passwordReset | passwordChanged | emailVerified
    | loginHistoryCreated | sessionCreated | sessionDeleted | tokenIssued | blocklistChecked
    | tokenExpired | tokenBlocked | tokenRotated | backupCodeFound | backupCodeUsed | resetTokenFound
    | verificationTokenFound => trivial
  · cases e <;> trivial

end Moves

/-- The accounts show the failures, and the history obeys the law. -/
structure LockInv (s : State World Event) : Prop where
  tracks : Tracks s
  law : LockLaw s.hist

theorem LockInv.moves {cfg : Config} {s : State World Event} {t : ℕ} {e : Option Event} {w : World}
    (hs : LockInv s) (h : Moves cfg s t e w) : LockInv (s.record t e w) := by
  cases e with
  | none =>
    obtain rfl : w = s.store := h
    exact ⟨hs.tracks, fun _ he => (nomatch he), hs.law⟩
  | some e =>
    refine ⟨hs.tracks.moves h, fun event he => ?_, hs.law⟩
    obtain rfl := Option.some.inj he
    exact lawful_of_moves hs.tracks h

/-! ## The bound -/

/-- The account that a wrong password was compared with. -/
def wrong? : Event → Option ℕ
  | .passwordCompared userId false => some userId
  | _ => none

/-- A wrong password is compared when every earlier one for the account has been recorded. -/
def ComparedInTurn : Cond World Event := fun s _ e =>
  ∀ userId ∈ wrong? e, (tally userId s.hist).pending = 0

instance (s : State World Event) (t : ℕ) (e : Event) : Decidable (ComparedInTurn s t e) := by
  unfold ComparedInTurn
  infer_instance

/-- At most one wrong password is not recorded; all others that count are failures, if these have put no
lock in force. -/
structure Within (c : Tally) : Prop where
  pending : c.pending ≤ 1
  compared : c.compared ≤ if Locks c.failures then c.pending else c.failures.length + c.pending

theorem Within.le_five {c : Tally} (h : Within c) : c.compared ≤ 5 := by
  have hpending := h.pending
  have hcompared := h.compared
  split at hcompared
  next => omega
  next hlocks =>
    unfold Locks at hlocks
    omega

theorem Within.record {c : Tally} (h : Within c) (now : ℤ) : Within (c.record now) := by
  have hpending := h.pending
  have hcompared := h.compared
  refine ⟨(Nat.sub_le _ _).trans hpending, ?_⟩
  show (if Locks (now :: c.failures) then 0 else c.compared) ≤
    if Locks (now :: c.failures) then c.pending - 1 else (now :: c.failures).length + (c.pending - 1)
  by_cases hlocks : Locks (now :: c.failures)
  · rw [if_pos hlocks]
    exact Nat.zero_le _
  · have hbefore : ¬Locks c.failures := by
      intro hold
      apply hlocks
      unfold Locks at hold ⊢
      rw [List.length_cons]
      omega
    rw [if_neg hlocks, if_neg hlocks, List.length_cons]
    rw [if_neg hbefore] at hcompared
    omega

theorem Within.compare {c : Tally} (h : Within c) (hpending : c.pending = 0) :
    Within { c with compared := c.compared + 1, pending := c.pending + 1 } := by
  have hcompared := h.compared
  refine ⟨?_, ?_⟩
  · show c.pending + 1 ≤ 1
    omega
  · show c.compared + 1 ≤ if Locks c.failures then c.pending + 1 else c.failures.length + (c.pending + 1)
    split at hcompared
    next hlocks =>
      rw [if_pos hlocks]
      omega
    next hlocks =>
      rw [if_neg hlocks]
      omega

/-- An event that compares no wrong password out of turn keeps the bound. -/
theorem Within.step {c : Tally} (h : Within c) {userId : ℕ} {e : Event}
    (hcond : ∀ u ∈ wrong? e, u = userId → c.pending = 0) : Within (c.step userId e) := by
  unfold Tally.step
  split
  next u =>
    split
    next hu => exact h.compare (hcond u rfl hu)
    next => exact h
  next u now =>
    split
    next => exact h.record now
    next => exact h
  next u =>
    split
    next => exact ⟨h.pending, Nat.zero_le _⟩
    next => exact h
  next => exact h

/-- No failure is recorded, and no account locked. -/
def NoFailures (d : World) : Prop :=
  ∀ u ∈ d.users.rows, u.failedLoginCount = 0 ∧ u.lockedUntil = none

/-- In every run an attempt is refused as locked exactly if five failures are recorded and the last of
them is less than half an hour ago, and a password is compared only after the account was found not
locked. If wrong passwords are compared one after the other, at most five of them are before a lock. -/
theorem lockout_law (cfg : Config) (d : World) (hd : NoFailures d) :
    (∀ s : Sys World Input Event RisError,
      Reaches (program cfg) always (Sys.init d) s → LockLaw s.hist) ∧
      ∀ s : Sys World Input Event RisError, Reaches (program cfg) ComparedInTurn (Sys.init d) s →
        ∀ userId, (tally userId s.hist).compared ≤ 5 := by
  have hinv : LockInv ⟨d, []⟩ := ⟨fun u hu => ⟨(hd u hu).1, (hd u hu).2⟩, trivial⟩
  have hprog : (protocol cfg LockInv LockInv.moves).Implements (program cfg) := program_implements
  constructor
  · intro s hs
    exact Protocol.invariant hprog hinv (P := fun s => LockLaw s.hist) hinv.law
      (fun s t e w _ hmove => (LockInv.moves hmove.inv hmove.effect).law) hs
  · intro s hs userId
    refine Within.le_five (Protocol.invariant hprog hinv (P := fun s => Within (tally userId s.hist))
      ⟨Nat.zero_le _, Nat.zero_le _⟩ (fun s t e w hwithin hmove => ?_) hs)
    cases e with
    | none => exact hwithin
    | some e =>
      refine Within.step hwithin fun u hu hid => ?_
      rw [← hid]
      exact hmove.cond e rfl u hu

/-! ## Attempts -/

def wrongPassword : Op := .login "a@ris.ug" "wrong" {}

theorem noFailures_oneAccount : NoFailures oneAccount := by
  intro u hu
  obtain rfl := List.mem_singleton.1 hu
  exact ⟨rfl, rfl⟩

/-- Five wrong passwords; the sixth attempt is refused a second later. -/
theorem lockout_in_turn :
    ∃ s : Sys World Input Event RisError,
      (5, some (.lockChecked 1 true 1000)) ∈ s.hist ∧ LockLaw s.hist ∧
        ∀ userId, (tally userId s.hist).compared ≤ 5 := by
  obtain ⟨s, hs, hP⟩ := exists_reaches (program {}) ComparedInTurn (Sys.init oneAccount)
    (aloneAt wrongPassword 0 5 0 ++ aloneAt wrongPassword 1 5 0 ++ aloneAt wrongPassword 2 5 0 ++
      aloneAt wrongPassword 3 5 0 ++ aloneAt wrongPassword 4 6 0 ++ aloneAt wrongPassword 5 4 1000)
    (fun s => (5, some (.lockChecked 1 true 1000)) ∈ s.hist) (by decide)
  obtain ⟨hlaw, hbound⟩ := lockout_law {} oneAccount noFailures_oneAccount
  exact ⟨s, of_decide_eq_true hP, hlaw s hs.always, hbound s hs⟩

/-- Six attempts look at the account and compare their passwords; no failure is recorded yet, and the
account is not locked. -/
theorem six_compared_before_lock :
    ∃ s : Sys World Input Event RisError,
      Reaches (program {}) always (Sys.init oneAccount) s ∧ (tally 1 s.hist).compared = 6 ∧
        s.store.users.rows.map User.lockedUntil = [none] := by
  obtain ⟨s, hs, hP⟩ := exists_reaches (program {}) always (Sys.init oneAccount)
    (List.replicate 6 (.start wrongPassword) ++
      (List.range 6).flatMap fun t => [.move t {}, .move t {}])
    (fun s => (tally 1 s.hist).compared = 6 ∧ s.store.users.rows.map User.lockedUntil = [none])
    (by decide)
  obtain ⟨hcompared, hlock⟩ := of_decide_eq_true hP
  exact ⟨s, hs, hcompared, hlock⟩

end Ris.Auth
