import RisPlatform.Auth.Protocol
import RisPlatform.Alone

/-!
# The password history

A new password is compared with the last five rows of the history, and by `changePassword` with the
current one. Both ways of setting a password add a row, and registration adds none: until the account has
had five other passwords, the one it was registered with is missing from the history.
-/

namespace Ris.Auth

open Relational Concurrent

/-! ## The passwords of an account -/

/-- The account and the password that a statement sets. -/
def sets? : Event → Option (ℕ × String)
  | .passwordReset _ userId password => some (userId, password)
  | .passwordChanged userId password => some (userId, password)
  | _ => none

/-- The password that an entry sets for the account. -/
def setFor (userId : ℕ) (e : Option Event) : Option String :=
  (e.bind sets?).bind fun s => if s.1 = userId then some s.2 else none

/-- The passwords that were set for the account, the latest first. -/
def passwordsSet (userId : ℕ) (hist : List (ℕ × Option Event)) : List String :=
  hist.filterMap fun x => setFor userId x.2

/-- The passwords the account had, the current one first and the initial one last. -/
def passwordsHad (userId : ℕ) (initial : String) (hist : List (ℕ × Option Event)) : List String :=
  passwordsSet userId hist ++ [initial]

/-- The password is neither the current one nor one of the last five. -/
def NotRecent (userId : ℕ) (initial password : String) (hist : List (ℕ × Option Event)) : Prop :=
  password ∉ (passwordsHad userId initial hist).take passwordHistoryDepth

/-- Each password that was accepted was not a recent one, exactly if the account had had five others
since the initial one, or it is not the initial one. -/
def HistoryLaw (userId : ℕ) (initial : String) : List (ℕ × Option Event) → Prop
  | [] => True
  | (_, e) :: earlier =>
    (∀ password, setFor userId e = some password →
      (NotRecent userId initial password earlier ↔
        passwordHistoryDepth ≤ (passwordsSet userId earlier).length ∨ password ≠ initial)) ∧
      HistoryLaw userId initial earlier

/-- The history lacks the initial password alone. -/
theorem not_mem_take_append {α : Type} {n : ℕ} {initial x : α} {xs : List α} (h : x ∉ xs.take n) :
    x ∉ (xs ++ [initial]).take n ↔ n ≤ xs.length ∨ x ≠ initial := by
  by_cases hlen : n ≤ xs.length
  · rw [List.take_append_of_le_length hlen]
    exact ⟨fun _ => Or.inl hlen, fun _ => h⟩
  · have hxs : xs.take n = xs := List.take_of_length_le (by omega)
    have hall : (xs ++ [initial]).take n = xs ++ [initial] := by
      refine List.take_of_length_le ?_
      rw [List.length_append, List.length_singleton]
      omega
    rw [hxs] at h
    rw [hall, List.mem_append, List.mem_singleton]
    constructor
    · exact fun hnot => Or.inr fun heq => hnot (Or.inr heq)
    · rintro (hle | hne) (hmem | heq)
      · exact h hmem
      · exact hlen hle
      · exact h hmem
      · exact hne heq

/-! ## The store follows the history -/

/-- The account has the password that was set last, and the rows of the history are those that were
set. -/
structure PasswordInv (userId : ℕ) (initial : String) (s : State World Event) : Prop where
  current : ∀ u ∈ s.store.users.rows, u.id = userId →
    (passwordsHad userId initial s.hist).head? = some u.passwordHash
  history : ((s.store.passwordHistory.rows.filter fun p => p.userId = userId).reverse.map
    PasswordHistory.passwordHash) = passwordsSet userId s.hist
  law : HistoryLaw userId initial s.hist

section Store

variable {userId : ℕ} {initial : String} {s : State World Event} {t : ℕ} {e : Event} {w : World}

/-- What the history is compared with. -/
theorem PasswordInv.lastPasswords (hs : PasswordInv userId initial s) (n : ℕ) :
    (getLastNPasswords userId n s.store).map PasswordHistory.passwordHash =
      (passwordsSet userId s.hist).take n := by
  rw [getLastNPasswords, List.map_take, hs.history]

/-- A statement that sets no password. -/
theorem PasswordInv.idle (hs : PasswordInv userId initial s) (he : sets? e = none)
    (husers : w.users = s.store.users) (hhistory : w.passwordHistory = s.store.passwordHistory) :
    PasswordInv userId initial (s.record t (some e) w) := by
  have hset : setFor userId (some e) = none := by rw [setFor, Option.bind_some, he, Option.bind_none]
  have hpasswords : passwordsSet userId (s.record t (some e) w).hist = passwordsSet userId s.hist :=
    List.filterMap_cons_none hset
  refine ⟨?_, ?_, fun password hpassword => ?_, hs.law⟩
  · rw [State.record_store, husers, passwordsHad, hpasswords]
    exact hs.current
  · rw [State.record_store, hhistory, hpasswords]
    exact hs.history
  · rw [hset] at hpassword
    cases hpassword

/-- A password is set that is not among the last ones of the history. -/
theorem PasswordInv.set (hs : PasswordInv userId initial s) {owner id : ℕ} {password : String}
    (he : sets? e = some (owner, password))
    (hrows : RewritesUser owner (setPassword password) s.store.users w.users)
    (hinsert : s.store.passwordHistory.insert? { id := id, userId := owner, passwordHash := password } =
      some w.passwordHistory)
    (hnew : ∀ p ∈ getLastNPasswords owner passwordHistoryDepth s.store, password ≠ p.passwordHash) :
    PasswordInv userId initial (s.record t (some e) w) := by
  by_cases howner : owner = userId
  · subst howner
    have hset : setFor owner (some e) = some password := by
      rw [setFor, Option.bind_some, he, Option.bind_some, if_pos rfl]
    have hpasswords : passwordsSet owner (s.record t (some e) w).hist =
        password :: passwordsSet owner s.hist := List.filterMap_cons_some hset
    refine ⟨fun u' hu' hid => ?_, ?_, fun password' hpassword => ?_, hs.law⟩
    · obtain ⟨u, hu, rfl⟩ := hrows.exists_of_mem hu'
      by_cases huid : u.id = owner
      · rw [if_pos huid, passwordsHad, hpasswords]
        rfl
      · rw [if_neg huid] at hid
        exact absurd hid huid
    · rw [State.record_store, Table.rows_insert? hinsert, hpasswords, ← hs.history]
      simp
    · rw [hset] at hpassword
      obtain rfl := Option.some.inj hpassword
      refine not_mem_take_append ?_
      rw [← hs.lastPasswords, List.mem_map]
      rintro ⟨p, hp, heq⟩
      exact hnew p hp heq.symm
  · -- the password of another account
    have hset : setFor userId (some e) = none := by
      rw [setFor, Option.bind_some, he, Option.bind_some, if_neg howner]
    have hpasswords : passwordsSet userId (s.record t (some e) w).hist = passwordsSet userId s.hist :=
      List.filterMap_cons_none hset
    refine ⟨fun u' hu' hid => ?_, ?_, fun password' hpassword => ?_, hs.law⟩
    · obtain ⟨u, hu, rfl⟩ := hrows.exists_of_mem hu'
      by_cases huid : u.id = owner
      · rw [if_pos huid] at hid
        exact absurd (huid.symm.trans hid) howner
      · rw [if_neg huid] at hid ⊢
        rw [passwordsHad, hpasswords]
        exact hs.current u hu hid
    · rw [State.record_store, Table.rows_insert? hinsert, hpasswords, ← hs.history]
      simp [howner]
    · rw [hset] at hpassword
      cases hpassword

end Store

/-! ## The calls -/

section Calls

variable {good : Input → Prop} {t : ℕ} {userId : ℕ} {initial : String} {s : State World Event} {α β : Type}

/-- A call that sets no password keeps the invariant. -/
def KeepsPasswords (good : Input → Prop) (t userId : ℕ) (initial : String) (p : Call α) : Prop :=
  ∀ s, PasswordInv userId initial s → p.Alone good t (fun _ => PasswordInv userId initial) s

theorem keepsPasswords_bind {p : Call α} {f : α → Call β} (hp : KeepsPasswords good t userId initial p)
    (hf : ∀ a, KeepsPasswords good t userId initial (f a)) : KeepsPasswords good t userId initial (p >>= f) :=
  fun s hs => (hp s hs).bind (fun a s hs => hf a s hs) fun _ _ hs => hs

theorem keepsPasswords_pure (a : α) : KeepsPasswords good t userId initial (pure a : Call α) := fun _ hs => hs

/-- A statement that sets no password. -/
theorem keepsPasswords_statement {x : Tx α} {committed : α → Event}
    (hsets : ∀ a, sets? (committed a) = none)
    (hx : ∀ i w a w', x i w = .ok (a, w') → w'.users = w.users ∧ w'.passwordHistory = w.passwordHistory) :
    KeepsPasswords good t userId initial (.transaction x committed fun _ => .threw) := by
  intro s hs
  refine Proc.alone_transaction (fun i a d _ h => ?_) fun i e _ _ => hs.idle rfl rfl rfl
  obtain ⟨husers, hhistory⟩ := hx i _ a d h
  exact hs.idle (hsets a) husers hhistory

theorem keepsPasswords_query (f : World → α) : KeepsPasswords good t userId initial (query f) :=
  keepsPasswords_statement (fun _ => rfl) fun i w a w' h => by
    simp only [Txn.bind_ok, connect_ok, Txn.read_ok] at h
    obtain ⟨_, _, ⟨-, rfl⟩, -, rfl⟩ := h
    exact ⟨rfl, rfl⟩

theorem keepsPasswords_log (action : String) : KeepsPasswords good t userId initial (log action) :=
  keepsPasswords_statement (fun _ => rfl) fun i w a w' h => by
    obtain ⟨-, rfl⟩ := connect_ok.1 h
    exact ⟨rfl, rfl⟩

theorem keepsPasswords_deleteSessionsByUserId (owner : ℕ) (keepSessionId : Option ℕ) :
    KeepsPasswords good t userId initial (deleteSessionsByUserId owner keepSessionId) := by
  refine keepsPasswords_bind (keepsPasswords_query _) fun keys s hs =>
    Proc.alone_forM (A := PasswordInv userId initial) (fun sessionId => ?_) hs
  refine keepsPasswords_bind (keepsPasswords_bind (keepsPasswords_statement (fun _ => rfl)
    fun i w a w' h => ?_) fun _ => keepsPasswords_pure _) fun session => ?_
  · simp only [Txn.bind_ok, connect_ok, now_ok, Txn.read_ok, Txn.pure_ok] at h
    obtain ⟨_, _, ⟨-, rfl⟩, _, _, ⟨-, rfl⟩, _, _, ⟨-, rfl⟩, -, rfl⟩ := h
    exact ⟨rfl, rfl⟩
  · cases session with
    | none => exact keepsPasswords_pure _
    | some session =>
      show KeepsPasswords good t userId initial (if _ then _ else _)
      split
      · refine keepsPasswords_statement (fun _ => rfl) fun i w a w' h => ?_
        simp only [Txn.bind_ok, connect_ok, Txn.write_ok] at h
        obtain ⟨_, _, ⟨-, rfl⟩, rfl⟩ := h
        exact ⟨rfl, rfl⟩
      · exact keepsPasswords_pure _

/-- What follows the check of the history runs with a password that is not among its last rows. -/
theorem alone_checkPasswordHistory {owner : ℕ} {newPassword : String} {f : Unit → Call β}
    (hs : PasswordInv userId initial s)
    (hf : ∀ s, PasswordInv userId initial s →
      (∀ p ∈ getLastNPasswords owner passwordHistoryDepth s.store, newPassword ≠ p.passwordHash) →
        (f ()).Alone good t (fun _ => PasswordInv userId initial) s) :
    (checkPasswordHistory owner newPassword >>= f).Alone good t (fun _ => PasswordInv userId initial) s := by
  refine .bind (R := fun r s => PasswordInv userId initial s ∧ ∀ a, r = .ok a →
      ∀ p ∈ getLastNPasswords owner passwordHistoryDepth s.store, newPassword ≠ p.passwordHash)
    (.bind (R := fun r s => PasswordInv userId initial s ∧ ∀ a, r = .ok a →
      a = getLastNPasswords owner passwordHistoryDepth s.store)
      (Proc.alone_transaction (fun i a d _ h => ?_) fun i e _ _ => ⟨hs.idle rfl rfl rfl, fun a h => by cases h⟩)
      (fun history s hs => ?_) fun e s hs => ⟨hs.1, fun a h => by cases h⟩) (fun _ s hs => ?_) fun _ _ hs => hs.1
  · simp only [Txn.bind_ok, connect_ok, Txn.read_ok] at h
    obtain ⟨_, _, ⟨-, rfl⟩, rfl, rfl⟩ := h
    refine ⟨hs.idle rfl rfl rfl, fun a h => ?_⟩
    obtain rfl := Except.ok.inj h
    rfl
  · refine ⟨hs.1, fun a hpass p hp heq => ?_⟩
    obtain rfl := hs.2 history rfl
    unfold rejectRecentlyUsed at hpass
    split at hpass
    next => cases hpass
    next hnone => exact hnone (List.any_eq_true.2 ⟨p, hp, decide_eq_true heq⟩)
  · exact hf s hs.1 (hs.2 () rfl)

theorem keepsPasswords_resetPassword (rawToken newPassword confirmPassword : String) (req : Request) :
    KeepsPasswords good t userId initial (resetPassword rawToken newPassword confirmPassword req) := by
  intro s hs
  refine alone_lift_bind (fun _ _ => ?_) fun _ _ => hs
  refine .bind (R := fun _ => PasswordInv userId initial) ((keepsPasswords_bind
    (keepsPasswords_statement (fun found => ?_) fun i w a w' h => ?_) fun found s hs => ?_) s hs)
    (fun tokenRecord s hs => alone_checkPasswordHistory hs fun s hs hnew => ?_) fun _ _ hs => hs
  · cases found <;> rfl
  · simp only [Txn.bind_ok, connect_ok, now_ok, Txn.read_ok] at h
    obtain ⟨_, _, ⟨-, rfl⟩, _, _, ⟨-, rfl⟩, -, rfl⟩ := h
    exact ⟨rfl, rfl⟩
  · cases found <;> exact hs
  refine .bind (R := fun _ => PasswordInv userId initial) (Proc.alone_transaction (fun i a d _ h => ?_)
    fun i e _ _ => hs.idle rfl rfl rfl) (fun _ s hs => ?_) fun _ _ hs => hs
  · simp only [applyPasswordReset, updatePasswordHashWithClient, markResetTokenUsedWithClient,
      auditWithClient, Txn.bind_ok, connect_ok, Txn.write_ok, now_ok, createAuditEntry_ok] at h
    obtain ⟨_, _, ⟨-, rfl⟩, _, _, rfl, _, _, ⟨_, _, ⟨rfl, rfl⟩, rfl⟩, _, _, hhistory, rfl⟩ := h
    obtain ⟨history, hinsert, rfl⟩ := createPasswordHistoryEntryWithClient_ok hhistory
    exact hs.set rfl (rewritesUser_update (id_setPassword _)) hinsert hnew
  · exact keepsPasswords_bind (keepsPasswords_deleteSessionsByUserId _ _) (fun _ => keepsPasswords_log _) s hs

theorem keepsPasswords_changePassword (owner sessionId : ℕ)
    (currentPassword newPassword confirmPassword : String) (req : Request) :
    KeepsPasswords good t userId initial
      (changePassword owner sessionId currentPassword newPassword confirmPassword req) := by
  intro s hs
  refine alone_lift_bind (fun _ _ => ?_) fun _ _ => hs
  refine .bind (R := fun _ => PasswordInv userId initial) (keepsPasswords_query _ s hs)
    (fun found s hs => ?_) fun _ _ hs => hs
  refine alone_lift_bind (fun user _ => ?_) fun _ _ => hs
  refine alone_lift_bind (fun _ _ => ?_) fun _ _ => hs
  refine alone_checkPasswordHistory hs fun s hs hnew => ?_
  refine .bind (R := fun _ => PasswordInv userId initial) (Proc.alone_transaction (fun i a d _ h => ?_)
    fun i e _ _ => hs.idle rfl rfl rfl) (fun _ s hs => ?_) fun _ _ hs => hs
  · simp only [persistPasswordChange, updatePasswordHashWithClient, auditWithClient, Txn.bind_ok,
      connect_ok, Txn.write_ok, createAuditEntry_ok] at h
    obtain ⟨_, _, ⟨-, rfl⟩, _, _, rfl, _, _, hhistory, rfl⟩ := h
    obtain ⟨history, hinsert, rfl⟩ := createPasswordHistoryEntryWithClient_ok hhistory
    exact hs.set rfl (rewritesUser_update (id_setPassword _)) hinsert hnew
  · exact keepsPasswords_bind (keepsPasswords_deleteSessionsByUserId _ _) (fun _ => keepsPasswords_log _) s hs

end Calls

/-- The call sets a password. -/
def SetsPassword : Op → Prop
  | .resetPassword _ _ _ _ | .changePassword _ _ _ _ _ _ => True
  | _ => False

theorem keepsPasswords_program {good : Input → Prop} {t userId : ℕ} {initial : String}
    (cfg : Config) {op : Op}
    (h : SetsPassword op) : KeepsPasswords good t userId initial (program cfg op) := by
  cases op with
  | resetPassword => exact keepsPasswords_resetPassword _ _ _ _
  | changePassword => exact keepsPasswords_changePassword _ _ _ _ _ _
  | _ => exact h.elim

/-- After every sequence of calls that set passwords, the account has the one that was set last, and each
that was accepted was not a recent one exactly if the account had had five others since the initial one, or
it is not the initial one. -/
theorem passwordHistory_law (cfg : Config) (d : World) (u : User) (hu : u ∈ d.users.rows)
    (hnew : ∀ p ∈ d.passwordHistory.rows, p.userId ≠ u.id) (cs : List (Op × Unit))
    (hcs : ∀ x ∈ cs, SetsPassword x.1) (s : State World Event)
    (h : Calls (program cfg) (fun _ _ => True) d cs s) :
    (∀ u' ∈ s.store.users.rows, u'.id = u.id →
      (passwordsHad u.id u.passwordHash s.hist).head? = some u'.passwordHash) ∧
      HistoryLaw u.id u.passwordHash s.hist := by
  have hinv : PasswordInv u.id u.passwordHash s := by
    induction h with
    | nil =>
      refine ⟨fun u' hu' hid => ?_, ?_, trivial⟩
      · rw [Table.eq_of_mem hu' hu hid]
        rfl
      · have hnone : d.passwordHistory.rows.filter (fun p => p.userId = u.id) = [] :=
          List.filter_eq_nil_iff.2 fun p hp => by simpa using hnew p hp
        rw [hnone]
        rfl
    | call cs s op x r s' _ hrun ih =>
      have hop : SetsPassword op := hcs (op, x) (List.mem_append_right _ List.mem_cons_self)
      exact (keepsPasswords_program cfg hop s (ih fun y hy => hcs y (List.mem_append_left _ hy))).run hrun
  exact ⟨hinv.current, hinv.law⟩

/-! ## A new account -/

/-- An account as it was registered, with a reset token. -/
def registered : World :=
  { World.empty with
    users := .single
      { id := 1, last2faVerifiedAt := none, email := "a@ris.ug", passwordHash := "Correct-Horse-1"
        role := "supplier", emailVerified := true }
    passwordResetTokens := .single { id := 1, userId := 1, tokenHash := "reset", expiresAt := 1000 } }

/-- What a call leaves that draws the same input throughout. -/
def leaves (op : Op) (t : ℕ) (s : State World Event) : State World Event :=
  ((program {} op).exec t { uuid := t } s).2

/-- A call after others. -/
theorem calls_leaves {d : World} {cs : List (Op × Unit)} {s : State World Event} (op : Op)
    (h : Calls (program {}) (fun _ _ => True) d cs s) :
    Calls (program {}) (fun _ _ => True) d (cs ++ [(op, ())]) (leaves op cs.length s) :=
  .call cs s op () _ _ h (Proc.run_exec trivial)

def changeTo (currentPassword newPassword : String) : Op :=
  .changePassword 1 0 currentPassword newPassword newPassword {}

/-- A change to another password. -/
theorem changed_to_other :
    ∃ s : State World Event, (0, some (.passwordChanged 1 "Battery-Staple-2")) ∈ s.hist ∧
      HistoryLaw 1 "Correct-Horse-1" s.hist := by
  obtain ⟨u, hu, hid, hpassword⟩ : ∃ u ∈ registered.users.rows, u.id = 1 ∧ u.passwordHash = "Correct-Horse-1" :=
    ⟨_, List.mem_cons_self, rfl, rfl⟩
  have hlaw := passwordHistory_law {} registered u hu (fun _ hp => absurd hp List.not_mem_nil)
    [(changeTo "Correct-Horse-1" "Battery-Staple-2", ())] (fun x hx => by
      rw [List.mem_singleton.1 hx]
      trivial) _ (calls_leaves (changeTo "Correct-Horse-1" "Battery-Staple-2") .nil)
  rw [hid, hpassword] at hlaw
  exact ⟨_, by decide, hlaw.2⟩

/-- A new account is reset to the password it has; and one that was changed, is changed back to the
password it was registered with. -/
theorem initial_password_accepted :
    (∃ s : State World Event,
      Calls (program {}) (fun _ _ => True) registered
          [(.resetPassword "reset" "Correct-Horse-1" "Correct-Horse-1" {}, ())] s ∧
        registered.users.rows.map User.passwordHash = ["Correct-Horse-1"] ∧
        (0, some (.passwordReset 1 1 "Correct-Horse-1")) ∈ s.hist) ∧
      ∃ s : State World Event,
        Calls (program {}) (fun _ _ => True) registered
            [(changeTo "Correct-Horse-1" "Battery-Staple-2", ()),
              (changeTo "Battery-Staple-2" "Correct-Horse-1", ())] s ∧
          s.hist.map (fun x => setFor 1 x.2) =
            [none, none, some "Correct-Horse-1", none, none, none, none, some "Battery-Staple-2", none, none] := by
  constructor
  · exact ⟨_, calls_leaves (.resetPassword "reset" "Correct-Horse-1" "Correct-Horse-1" {}) .nil, rfl,
      by decide⟩
  · exact ⟨_, calls_leaves (changeTo "Battery-Staple-2" "Correct-Horse-1")
      (calls_leaves (changeTo "Correct-Horse-1" "Battery-Staple-2") .nil), by decide⟩

end Ris.Auth
