import RisPlatform.Auth.Service
import RisPlatform.Triples

/-!
# The authentication service

What the events of the service do to the store, and what their call did before. A protocol that allows
these effects is followed by every operation (`free_program`).
-/

namespace Ris.Auth

open Relational Concurrent

/-! ## Effects -/

/-- The account after a failure: from the fifth on it is locked. -/
def failed (now : ℤ) (u : User) : User :=
  if maxFailedAttempts ≤ u.failedLoginCount + 1 then setLock (now + lockoutDuration) (setFailure u)
  else setFailure u

/-- The one account is rewritten. -/
def RewritesUser (userId : ℕ) (f : User → User) (users users' : Table User.id) : Prop :=
  users.Rowwise (fun u u' => u' = if u.id = userId then f u else u) users'

/-- What an event of the call `t` does to the store. -/
inductive Effect (cfg : Config) (s : State World Event) (t : ℕ) : Event → World → Prop
  | read : Effect cfg s t .read s.store
  | lockChecked (u : User) (now : ℤ) (hu : u ∈ s.store.users.rows) :
      Effect cfg s t (.lockChecked u.id (isAccountLocked u now) now) s.store
  | passwordCompared (userId : ℕ) (matched : Bool) (now : ℤ)
      (hchecked : some (.lockChecked userId false now) ∈ own t s.hist) :
      Effect cfg s t (.passwordCompared userId matched) s.store
  | loginFailureRecorded (userId : ℕ) (now : ℤ) (users : Table User.id) (entries : List AuditLog)
      (hcompared : some (.passwordCompared userId false) ∈ own t s.hist)
      (hrows : RewritesUser userId (failed now) s.store.users users) :
      Effect cfg s t (.loginFailureRecorded userId now)
        { s.store with
          users := users
          auditLogs := s.store.auditLogs ++ entries }
  | failedLoginReset (userId : ℕ) (users : Table User.id)
      (hcompared : some (.passwordCompared userId true) ∈ own t s.hist)
      (hrows : RewritesUser userId resetFailure s.store.users users) :
      Effect cfg s t (.failedLoginReset userId) { s.store with users := users }
  | loginHistoryCreated (success : Bool) (loginHistory : List LoginHistory) :
      Effect cfg s t (.loginHistoryCreated success) { s.store with loginHistory := loginHistory }
  | sessionCreated (sessionId userId : ℕ) (sessions : Table Session.sessionId) :
      Effect cfg s t (.sessionCreated sessionId userId) { s.store with sessions := sessions }
  | sessionDeleted (sessionId : ℕ) (sessions : Table Session.sessionId) :
      Effect cfg s t (.sessionDeleted sessionId) { s.store with sessions := sessions }
  | tokenIssued (userId sessionId : ℕ) (now : ℤ)
      (hcreated : some (.sessionCreated sessionId userId) ∈ own t s.hist) :
      Effect cfg s t (.tokenIssued (buildRefreshToken cfg userId sessionId now))
        { s.store with
          signedTokens := s.store.signedTokens ++ [buildRefreshToken cfg userId sessionId now] }
  | blocklistChecked (token : RefreshToken) (now : ℤ) (hsigned : token ∈ s.store.signedTokens) :
      Effect cfg s t (.blocklistChecked token (isBlocked token now s.store) now) s.store
  | tokenExpired (token : RefreshToken) (now checked : ℤ) (hsigned : token ∈ s.store.signedTokens)
      (hchecked : some (.blocklistChecked token false checked) ∈ own t s.hist)
      (hexpired : token.exp ≤ now / 1000) :
      Effect cfg s t (.tokenBlocked token false now) s.store
  | tokenBlocked (token : RefreshToken) (now checked : ℤ) (hsigned : token ∈ s.store.signedTokens)
      (hchecked : some (.blocklistChecked token false checked) ∈ own t s.hist)
      (hlive : now / 1000 < token.exp) :
      Effect cfg s t (.tokenBlocked token true now)
        (blockToken token (now + (token.exp - now / 1000) * 1000) s.store)
  | tokenRotated (token : RefreshToken) (stored : Bool) (now blocked : ℤ)
      (hsigned : token ∈ s.store.signedTokens)
      (hblocked : some (.tokenBlocked token stored blocked) ∈ own t s.hist)
      (hfirst : ∀ rotated, some (.tokenRotated token rotated) ∉ own t s.hist) :
      Effect cfg s t (.tokenRotated token (buildRefreshToken cfg token.userId token.sessionId now))
        { s.store with
          signedTokens := s.store.signedTokens ++
            [buildRefreshToken cfg token.userId token.sessionId now] }
  | backupCodeFound (c : BackupCode) (hc : c ∈ s.store.totpBackupCodes.rows) (hunused : c.usedAt = none) :
      Effect cfg s t (.backupCodeFound c.id) s.store
  | backupCodeUsed (codeId : ℕ) (now : ℤ) (entries : List AuditLog)
      (hfound : some (.backupCodeFound codeId) ∈ own t s.hist) :
      Effect cfg s t (.backupCodeUsed codeId)
        { s.store with
          totpBackupCodes := s.store.totpBackupCodes.update (fun c => c.id = codeId) (useBackupCode now)
            (id_useBackupCode now)
          auditLogs := s.store.auditLogs ++ entries }
  | resetTokenFound (r : PasswordResetToken) (hr : r ∈ s.store.passwordResetTokens.rows)
      (hunused : r.usedAt = none) : Effect cfg s t (.resetTokenFound r.id) s.store
  | passwordReset (tokenId userId : ℕ) (password : String) (now : ℤ) (users : Table User.id)
      (history : Table PasswordHistory.id) (entries : List AuditLog)
      (hfound : some (.resetTokenFound tokenId) ∈ own t s.hist)
      (hrows : RewritesUser userId (setPassword password) s.store.users users) :
      Effect cfg s t (.passwordReset tokenId userId password)
        { s.store with
          users := users
          passwordResetTokens := s.store.passwordResetTokens.update (fun r => r.id = tokenId)
            (useResetToken now) (id_useResetToken now)
          passwordHistory := history
          auditLogs := s.store.auditLogs ++ entries }
  | passwordChanged (userId : ℕ) (password : String) (users : Table User.id)
      (history : Table PasswordHistory.id) (entries : List AuditLog)
      (hrows : RewritesUser userId (setPassword password) s.store.users users) :
      Effect cfg s t (.passwordChanged userId password)
        { s.store with
          users := users
          passwordHistory := history
          auditLogs := s.store.auditLogs ++ entries }
  | verificationTokenFound (r : EmailVerificationToken) (hr : r ∈ s.store.emailVerificationTokens.rows)
      (hunused : r.verifiedAt = none) : Effect cfg s t (.verificationTokenFound r.id) s.store
  | emailVerified (tokenId userId : ℕ) (now : ℤ) (users : Table User.id) (entries : List AuditLog)
      (hfound : some (.verificationTokenFound tokenId) ∈ own t s.hist)
      (hrows : RewritesUser userId setVerified s.store.users users) :
      Effect cfg s t (.emailVerified tokenId)
        { s.store with
          users := users
          emailVerificationTokens := s.store.emailVerificationTokens.update (fun r => r.id = tokenId)
            (useVerificationToken now) (id_useVerificationToken now)
          auditLogs := s.store.auditLogs ++ entries }

/-! ## The transactions -/

section Transactions

variable {cfg : Config} {s : State World Event} {t : ℕ} {i : Input} {w w' : World}

/-- An update of the account with the id. -/
theorem rewritesUser_update {userId : ℕ} {f : User → User} (hf : ∀ u, (f u).id = u.id)
    {users : Table User.id} : RewritesUser userId f users (users.update (fun u => u.id = userId) f hf) :=
  Table.rowwise_update (fun _ _ hu => (if_pos (of_decide_eq_true hu)).symm)
    fun _ _ hu => (if_neg (of_decide_eq_false hu)).symm

/-- Two updates of the account. -/
theorem RewritesUser.trans {userId : ℕ} {f g : User → User} {users users' users'' : Table User.id}
    (h : RewritesUser userId f users users') (h' : RewritesUser userId g users' users'')
    (hf : ∀ u, (f u).id = u.id) : RewritesUser userId (fun u => g (f u)) users users'' := by
  refine Table.Rowwise.trans h h' ?_
  rintro u _ _ rfl rfl
  by_cases hu : u.id = userId
  · rw [if_pos hu, if_pos ((hf u).trans hu), if_pos hu]
  · rw [if_neg hu, if_neg hu, if_neg hu]

/-- What is rewritten to may depend on the account. -/
theorem RewritesUser.congr {userId : ℕ} {f g : User → User} {users users' : Table User.id}
    (h : RewritesUser userId f users users') (hfg : ∀ u ∈ users.rows, u.id = userId → f u = g u) :
    RewritesUser userId g users users' := by
  have hrows : List.Forall₂ (fun u u' => u ∈ users.rows ∧ u' = if u.id = userId then f u else u)
      users.rows users'.rows := by
    refine List.forall₂_iff_get.2 ⟨List.Forall₂.length_eq h, fun n hn hn' => ⟨List.getElem_mem hn, ?_⟩⟩
    exact (List.forall₂_iff_get.1 h).2 n hn hn'
  refine List.Forall₂.imp ?_ hrows
  rintro u u' ⟨hu, rfl⟩
  by_cases hid : u.id = userId
  · rw [if_pos hid, if_pos hid, hfg u hu hid]
  · rw [if_neg hid, if_neg hid]

/-- The count after an update of the account. -/
theorem count_of_update {userId : ℕ} {u : User} {users : Table User.id} (hu : u ∈ users.rows)
    (hid : u.id = userId) :
    (((users.update (fun u => u.id = userId) setFailure id_setFailure).get? userId).map
      User.failedLoginCount).getD 0 = u.failedLoginCount + 1 := by
  have hget : users.get? userId = some u := hid ▸ Table.get?_of_mem hu
  rw [Table.get?_update_of_get? hget, if_pos (decide_eq_true hid)]
  rfl

theorem recordFailedPasswordTxn_ok {userId : ℕ} {req : Request} {now : ℤ}
    (hcompared : some (.passwordCompared userId false) ∈ own t s.hist)
    (h : recordFailedPasswordTxn userId req i s.store = .ok (now, w')) :
    Effect cfg s t (.loginFailureRecorded userId now) w' := by
  simp only [recordFailedPasswordTxn, incrementFailedLoginWithClient, auditWithClient, Txn.bind_ok,
    Txn.write_ok, Txn.read_ok, Txn.pure_ok, createAuditEntry_ok, now_ok] at h
  obtain ⟨_, _, ⟨_, _, rfl, _, _, ⟨rfl, rfl⟩, rfl, rfl⟩, _, _, rfl, _, _, hlock, rfl, rfl⟩ := h
  have hcount : ∀ u ∈ s.store.users.rows, u.id = userId →
      ((findUserById userId { s.store with
        users := s.store.users.update (fun u => u.id = userId) setFailure id_setFailure }).map
          User.failedLoginCount).getD 0 = u.failedLoginCount + 1 :=
    fun u hu hid => count_of_update hu hid
  unfold lockAtLimit at hlock
  split at hlock
  next hlimit =>
    simp only [lockAccountInTxn, lockAccountWithClient, auditWithClient, Txn.bind_ok, now_ok, Txn.write_ok,
      createAuditEntry_ok] at hlock
    obtain ⟨_, _, ⟨rfl, rfl⟩, _, _, rfl, rfl⟩ := hlock
    have hrows : RewritesUser userId (fun u => setLock (i.now + lockoutDuration) (setFailure u))
        s.store.users _ :=
      (rewritesUser_update id_setFailure).trans (rewritesUser_update (id_setLock _)) id_setFailure
    rw [List.append_assoc]
    refine .loginFailureRecorded userId i.now _ _ hcompared (hrows.congr fun u hu hid => ?_)
    rw [hcount u hu hid] at hlimit
    rw [failed, if_pos hlimit]
  next hlimit =>
    obtain ⟨-, rfl⟩ := Txn.pure_ok.1 hlock
    refine .loginFailureRecorded userId i.now _ _ hcompared ((rewritesUser_update id_setFailure).congr fun u hu hid => ?_)
    rw [hcount u hu hid] at hlimit
    rw [failed, if_neg hlimit]

theorem createPasswordHistoryEntryWithClient_ok {userId : ℕ} {passwordHash : String} {u : Unit}
    (h : createPasswordHistoryEntryWithClient userId passwordHash i w = .ok (u, w')) :
    ∃ history, w.passwordHistory.insert? { id := i.uuid, userId, passwordHash } = some history ∧
      w' = { w with passwordHistory := history } := by
  simp only [createPasswordHistoryEntryWithClient, Txn.bind_ok, Txn.input_ok, Txn.read_ok, id] at h
  obtain ⟨_, _, ⟨rfl, rfl⟩, _, _, ⟨rfl, rfl⟩, h⟩ := h
  cases hinsert : w.passwordHistory.insert? { id := i.uuid, userId, passwordHash } with
  | none => simp [hinsert] at h
  | some history =>
    simp only [hinsert, Txn.write_ok] at h
    exact ⟨history, rfl, h.symm⟩

theorem applyPasswordReset_ok {tokenRecord : PasswordResetToken} {passwordHash : String} {req : Request}
    {u : Unit} (hfound : some (.resetTokenFound tokenRecord.id) ∈ own t s.hist)
    (h : applyPasswordReset tokenRecord passwordHash req i s.store = .ok (u, w')) :
    Effect cfg s t (.passwordReset tokenRecord.id tokenRecord.userId passwordHash) w' := by
  simp only [applyPasswordReset, updatePasswordHashWithClient, markResetTokenUsedWithClient,
    auditWithClient, Txn.bind_ok, Txn.write_ok, now_ok, createAuditEntry_ok] at h
  obtain ⟨_, _, rfl, _, _, ⟨_, _, ⟨rfl, rfl⟩, rfl⟩, _, _, hhistory, rfl⟩ := h
  obtain ⟨history, -, rfl⟩ := createPasswordHistoryEntryWithClient_ok hhistory
  exact .passwordReset _ _ _ i.now _ history _ hfound (rewritesUser_update (id_setPassword _))

theorem persistPasswordChange_ok {userId : ℕ} {passwordHash : String} {req : Request} {u : Unit}
    (h : persistPasswordChange userId passwordHash req i s.store = .ok (u, w')) :
    Effect cfg s t (.passwordChanged userId passwordHash) w' := by
  simp only [persistPasswordChange, updatePasswordHashWithClient, auditWithClient, Txn.bind_ok,
    Txn.write_ok, createAuditEntry_ok] at h
  obtain ⟨_, _, rfl, _, _, hhistory, rfl⟩ := h
  obtain ⟨history, -, rfl⟩ := createPasswordHistoryEntryWithClient_ok hhistory
  exact .passwordChanged _ _ _ history _ (rewritesUser_update (id_setPassword _))

theorem applyEmailVerification_ok {tokenRecord : EmailVerificationToken} {req : Request} {u : Unit}
    (hfound : some (.verificationTokenFound tokenRecord.id) ∈ own t s.hist)
    (h : applyEmailVerification tokenRecord req i s.store = .ok (u, w')) :
    Effect cfg s t (.emailVerified tokenRecord.id) w' := by
  simp only [applyEmailVerification, markUserEmailVerifiedWithClient,
    markEmailVerificationTokenUsedWithClient, auditWithClient, Txn.bind_ok, Txn.write_ok, now_ok,
    createAuditEntry_ok] at h
  obtain ⟨_, _, rfl, _, _, ⟨_, _, ⟨rfl, rfl⟩, rfl⟩, rfl⟩ := h
  exact .emailVerified _ tokenRecord.userId i.now _ _ hfound (rewritesUser_update id_setVerified)

end Transactions

/-! ## The operations -/

section Calls

variable {G : Protocol World Event} (hG : Auditing G) {cfg : Config}
  (hallow : ∀ s t e d, G.inv s → Effect cfg s t e d → G.effect s t (some e) d)

/-- What a call did, it did for good. -/
theorem steady_own (t : ℕ) (e : Option Event) : G.Steady fun s => e ∈ own t s.hist := by
  intro s u e' d _ h _
  rw [mem_own] at h ⊢
  exact List.mem_cons_of_mem _ h

include hG

theorem free_audit (userId : Option ℕ) (action : String) (req : Request)
    (metadata : List (String × Json)) : Free G (audit userId action req metadata) :=
  free_auditAlone hG _

theorem free_logTwoFactorEvent (userId : ℕ) (success : Bool) (req : Request) :
    Free G (logTwoFactorEvent userId success req) :=
  free_bind (free_audit hG _ _ _ _) fun _ => free_log hG.toQuiet _

theorem free_getSession (sessionId : ℕ) : Free G (getSession sessionId) :=
  free_bind (free_queryNow hG.toQuiet _) fun _ => free_pure _

theorem free_checkFailedAuthBurst (req : Request) : Free G (checkFailedAuthBurst cfg req) := by
  refine free_ite (free_bind (free_statement hG.toQuiet fun s t i n d _ h => ?_) fun _ =>
    free_ite (free_pure _) (free_enqueueWithContext hG.toPermissive _)) (free_pure _)
  simp only [Txn.bind_ok, connect_ok, Txn.input_ok, Txn.pure_ok] at h
  obtain ⟨_, _, ⟨-, rfl⟩, _, _, ⟨-, rfl⟩, -, rfl⟩ := h
  exact hG.read s t

theorem free_notifyIfNewDevice (user : User) (isKnownDevice : Bool) (req : Request) :
    Free G (notifyIfNewDevice cfg user isKnownDevice req) :=
  free_ite (free_pure _) (free_tryCatch
    (free_bind (free_audit hG _ _ _ _) fun _ => free_enqueueOrWarn hG.toPermissive _ _ _)
    fun _ => free_log hG.toQuiet _)

theorem free_totpVerify : Free G totpVerify :=
  free_statement hG.toQuiet fun s t i b d _ h => by
    simp only [Txn.bind_ok, Txn.input_ok, Txn.pure_ok] at h
    obtain ⟨_, _, ⟨-, rfl⟩, -, rfl⟩ := h
    exact hG.read s t

theorem free_rejectSecondFactor {α : Type} (userId : ℕ) (message : String) (req : Request) :
    Free G (rejectSecondFactor userId message req : Call α) :=
  free_bind (free_logTwoFactorEvent hG _ _ _) fun _ => free_throw _

theorem free_checkPasswordHistory (userId : ℕ) (newPassword : String) :
    Free G (checkPasswordHistory userId newPassword) :=
  free_bind (free_query hG.toQuiet _) fun _ => free_lift _

include hallow

theorem free_createLoginHistoryEntry (userId : Option ℕ) (req : Request) (success : Bool) :
    Free G (createLoginHistoryEntry userId req success) :=
  free_statement hG.toQuiet fun s t i u d hs h => by
    simp only [Txn.bind_ok, connect_ok, now_ok, Txn.write_ok] at h
    obtain ⟨_, _, ⟨-, rfl⟩, _, _, ⟨-, rfl⟩, rfl⟩ := h
    exact hallow s t _ _ hs (.loginHistoryCreated _ _)

theorem free_logFailedLogin (userId : Option ℕ) (reason : String) (req : Request) :
    Free G (logFailedLogin userId reason req) :=
  free_bind (free_createLoginHistoryEntry hG hallow _ _ _) fun _ =>
    free_bind (free_audit hG _ _ _ _) fun _ => free_log hG.toQuiet _

theorem free_deleteSession (sessionId : ℕ) : Free G (deleteSession sessionId) :=
  free_statement hG.toQuiet fun s t i u d hs h => by
    simp only [Txn.bind_ok, connect_ok, Txn.write_ok] at h
    obtain ⟨_, _, ⟨-, rfl⟩, rfl⟩ := h
    exact hallow s t _ _ hs (.sessionDeleted _ _)

theorem free_deleteSessionsByUserId (userId : ℕ) (keepSessionId : Option ℕ) :
    Free G (deleteSessionsByUserId userId keepSessionId) := by
  refine free_bind (free_query hG.toQuiet _) fun keys => free_forM fun sessionId =>
    free_bind (free_getSession hG _) fun session => ?_
  cases session with
  | none => exact free_pure _
  | some session => exact free_ite (free_deleteSession hG hallow _) (free_pure _)

theorem free_revokeSession (sessionId userId : ℕ) : Free G (revokeSession sessionId userId) := by
  refine free_bind (free_getSession hG _) fun session => ?_
  cases session with
  | none => exact free_pure _
  | some session =>
    exact free_ite (free_pure _)
      (free_bind (free_deleteSession hG hallow _) fun _ => free_log hG.toQuiet _)

theorem free_logout (sessionId userId : ℕ) (req : Request) : Free G (logout sessionId userId req) :=
  free_bind (free_deleteSession hG hallow _) fun _ =>
    free_bind (free_audit hG _ _ _ _) fun _ => free_log hG.toQuiet _

/-! ### Tokens -/

/-- A token is signed for a session that the call created. -/
theorem free_issueFullTokens (user : User) (req : Request) : Free G (issueFullTokens cfg user req) := by
  have hquiet := hG.toQuiet
  refine free_bind (free_queryNow hquiet _) fun known t => ?_
  refine .bind (R := fun sessionId s => some (.sessionCreated sessionId user.id) ∈ own t s.hist)
    (triple_statement hquiet (B := fun _ => True) (fun _ _ _ _ _ _ _ => trivial) t
      fun s i sessionId d hs _ h => ?_) fun sessionId => ?_
  · simp only [Txn.bind_ok, connect_ok, Txn.input_ok, Txn.write_ok, Txn.pure_ok] at h
    obtain ⟨_, _, ⟨-, rfl⟩, _, _, ⟨rfl, rfl⟩, _, _, rfl, rfl, rfl⟩ := h
    refine ⟨hallow s t _ _ hs (.sessionCreated _ _ _), ?_⟩
    rw [State.record_hist, own_cons_self]
    exact List.mem_cons_self
  · have hsteady := steady_own (G := G) t (some (.sessionCreated sessionId user.id))
    refine ((free_query hquiet _).carries hsteady t).bind fun _ =>
      ((free_createLoginHistoryEntry hG hallow _ _ _).carries hsteady t).bind fun _ => ?_
    refine .bind (R := fun _ _ => True) (triple_statement hquiet hsteady t fun s i token d hs hcreated h => ?_)
      fun token => ?_
    · simp only [Txn.bind_ok, now_ok, Txn.write_ok, Txn.pure_ok] at h
      obtain ⟨_, _, ⟨rfl, rfl⟩, _, _, rfl, rfl, rfl⟩ := h
      exact ⟨hallow s t _ _ hs (.tokenIssued _ _ _ hcreated), trivial⟩
    · exact free_bind (free_query hquiet _) (fun _ =>
        free_bind (free_bind (free_audit hG _ _ _ _) fun _ => free_log hquiet _) fun _ =>
          free_bind (free_notifyIfNewDevice hG _ _ _) fun _ => free_pure _) t

/-- The call has not exchanged the token. -/
def Unrotated (token : RefreshToken) (t : ℕ) (s : State World Event) : Prop :=
  ∀ rotated, some (.tokenRotated token rotated) ∉ own t s.hist

omit hallow in
/-- A statement that does not exchange the token, under a steady assertion. -/
theorem triple_unrotated {α : Type} {B : State World Event → Prop} (hB : G.Steady B) {x : Tx α}
    {committed : α → Event} {Q : α → State World Event → Prop} {token : RefreshToken} (t : ℕ)
    (hcommitted : ∀ a rotated, committed a ≠ .tokenRotated token rotated)
    (h : ∀ s i a d, G.inv s → B s → x i s.store = .ok (a, d) →
      G.effect s t (some (committed a)) d ∧ Q a (s.record t (some (committed a)) d)) :
    G.Triple t (fun s => B s ∧ Unrotated token t s) (.transaction x committed fun _ => .threw)
      (fun a s => Q a s ∧ Unrotated token t s) fun _ _ => True := by
  have hown : G.Stable t (Unrotated token t) :=
    Protocol.Stable.own t fun l => ∀ rotated, some (Event.tokenRotated token rotated) ∉ l
  refine .transaction ((hB.stable t).and hown) (fun s i a d hs hA hx => ?_)
    fun s _ _ _ _ _ => ⟨hG.threw s t, trivial⟩
  obtain ⟨heff, hQ⟩ := h s i a d hs hA.1 hx
  refine ⟨heff, hQ, fun rotated hmem => ?_⟩
  rw [State.record_hist, own_cons_self] at hmem
  rcases List.mem_cons.1 hmem with heq | hold
  · exact hcommitted a rotated (Option.some.inj heq).symm
  · exact hA.2 rotated hold

variable (hsigned : ∀ token, G.Steady fun s => token ∈ s.store.signedTokens)

include hsigned

omit hallow hsigned in
/-- A refresh goes on with a token that was signed. -/
theorem triple_verifyToken (token : RefreshToken) (t : ℕ) :
    G.Triple t (fun s => own t s.hist = []) (verifyToken token)
      (fun _ s => token ∈ s.store.signedTokens ∧ Unrotated token t s) fun _ _ => True := by
  have hstep : G.Triple t (fun s => True ∧ Unrotated token t s) (verifyToken token)
      (fun _ s => token ∈ s.store.signedTokens ∧ Unrotated token t s) fun _ _ => True := by
    refine triple_unrotated hG (fun _ _ _ _ _ _ _ => trivial) t (fun _ _ => Event.noConfusion)
      fun s i u d hs _ h => ?_
    simp only [Txn.bind_ok, now_ok, Txn.read_ok] at h
    obtain ⟨_, _, ⟨-, rfl⟩, _, _, ⟨rfl, rfl⟩, h⟩ := h
    split at h
    next hvalid =>
      obtain ⟨-, rfl⟩ := Txn.pure_ok.1 h
      exact ⟨hG.read s t, hvalid.1⟩
    next => cases h
  refine hstep.conseq (fun s _ h => ⟨trivial, fun rotated hmem => ?_⟩) (fun _ _ _ h => h) fun _ _ _ h => h
  rw [h] at hmem
  cases hmem

theorem triple_getBlocked (token : RefreshToken) (t : ℕ) :
    G.Triple t (fun s => token ∈ s.store.signedTokens ∧ Unrotated token t s) (getBlocked token)
      (fun r s => (token ∈ s.store.signedTokens ∧
        some (.blocklistChecked token r.1 r.2) ∈ own t s.hist) ∧ Unrotated token t s)
      fun _ _ => True := by
  refine triple_unrotated hG (hsigned token) t (fun _ _ => Event.noConfusion) fun s i r d hs hmem h => ?_
  simp only [Txn.bind_ok, connect_ok, now_ok, Txn.read_ok, Txn.pure_ok] at h
  obtain ⟨_, _, ⟨-, rfl⟩, _, _, ⟨rfl, rfl⟩, _, _, ⟨rfl, rfl⟩, rfl, rfl⟩ := h
  refine ⟨hallow s t _ _ hs (.blocklistChecked token _ hmem), hmem, ?_⟩
  rw [State.record_hist, own_cons_self]
  exact List.mem_cons_self

/-- A token is put on the blocklist by a call that did not find it there. -/
theorem triple_blocklistOldRefreshToken (token : RefreshToken) (checked : ℤ) (t : ℕ) :
    G.Triple t (fun s => (token ∈ s.store.signedTokens ∧
        some (.blocklistChecked token false checked) ∈ own t s.hist) ∧ Unrotated token t s)
      (blocklistOldRefreshToken token)
      (fun r s => (token ∈ s.store.signedTokens ∧
        some (.tokenBlocked token r.1 r.2) ∈ own t s.hist) ∧ Unrotated token t s)
      fun _ _ => True := by
  refine triple_unrotated hG ((hsigned token).and (steady_own t _)) t (fun _ _ => Event.noConfusion)
    fun s i r d hs hB h => ?_
  obtain ⟨hmem, hchecked⟩ := hB
  simp only [Txn.bind_ok, connect_ok, now_ok] at h
  obtain ⟨_, _, ⟨-, rfl⟩, _, _, ⟨rfl, rfl⟩, h⟩ := h
  split at h
  next hexpired =>
    obtain ⟨rfl, rfl⟩ := Txn.pure_ok.1 h
    refine ⟨hallow s t _ _ hs (.tokenExpired token i.now checked hmem hchecked (by omega)), hmem, ?_⟩
    rw [State.record_hist, own_cons_self]
    exact List.mem_cons_self
  next hlive =>
    simp only [Txn.bind_ok, Txn.write_ok, Txn.pure_ok] at h
    obtain ⟨_, _, rfl, rfl, rfl⟩ := h
    refine ⟨hallow s t _ _ hs (.tokenBlocked token i.now checked hmem hchecked (by omega)), hmem, ?_⟩
    rw [State.record_hist, own_cons_self]
    exact List.mem_cons_self

/-- A token is signed in exchange for one that its call has put on the blocklist. -/
theorem triple_signRotated (token : RefreshToken) (stored : Bool) (blocked : ℤ) (t : ℕ) :
    G.Triple t (fun s => (token ∈ s.store.signedTokens ∧
        some (.tokenBlocked token stored blocked) ∈ own t s.hist) ∧ Unrotated token t s)
      (signRefreshToken cfg token.userId token.sessionId (.tokenRotated token))
      (fun _ _ => True) fun _ _ => True := by
  have hown : G.Stable t (Unrotated token t) :=
    Protocol.Stable.own t fun l => ∀ rotated, some (Event.tokenRotated token rotated) ∉ l
  refine .transaction ((((hsigned token).and (steady_own t _)).stable t).and hown)
    (fun s i rotated d hs hA h => ?_) fun s _ _ _ _ _ => ⟨hG.threw s t, trivial⟩
  obtain ⟨⟨hmem, hblocked⟩, hfirst⟩ := hA
  simp only [Txn.bind_ok, now_ok, Txn.write_ok, Txn.pure_ok] at h
  obtain ⟨_, _, ⟨rfl, rfl⟩, _, _, rfl, rfl, rfl⟩ := h
  exact ⟨hallow s t _ _ hs (.tokenRotated token stored i.now blocked hmem hblocked hfirst), trivial⟩

theorem triple_refreshAccessToken (token : RefreshToken) (req : Request) (t : ℕ) :
    G.Triple t (fun s => own t s.hist = []) (refreshAccessToken cfg token req) (fun _ _ => True)
      fun _ _ => True := by
  refine (triple_verifyToken hG token t).bind fun _ =>
    (triple_getBlocked hG hallow hsigned token t).bind ?_
  rintro ⟨blocked, checked⟩
  have hsteady : G.Steady fun s => token ∈ s.store.signedTokens ∧
      some (.blocklistChecked token false checked) ∈ own t s.hist :=
    (hsigned token).and (steady_own t _)
  refine .bind (R := fun _ s => (token ∈ s.store.signedTokens ∧
      some (.blocklistChecked token false checked) ∈ own t s.hist) ∧ Unrotated token t s)
    (.lift (fun _ s hpass _ hA => ?_) fun _ _ _ _ _ => trivial) fun _ => ?_
  · cases blocked with
    | true => cases hpass
    | false => exact hA
  -- the session is there
  refine .bind (R := fun _ s => (token ∈ s.store.signedTokens ∧
      some (.blocklistChecked token false checked) ∈ own t s.hist) ∧ Unrotated token t s)
    (.bind (triple_unrotated hG hsteady t (fun _ _ => Event.noConfusion)
      (Q := fun _ s => token ∈ s.store.signedTokens ∧
        some (.blocklistChecked token false checked) ∈ own t s.hist) fun s i session d hs hB h => ?_)
      fun _ => .ret fun _ _ h => h) fun session => ?_
  · simp only [Txn.bind_ok, connect_ok, now_ok, Txn.read_ok, Txn.pure_ok] at h
    obtain ⟨_, _, ⟨-, rfl⟩, _, _, ⟨-, rfl⟩, _, _, ⟨-, rfl⟩, -, rfl⟩ := h
    exact ⟨hG.read s t, hsteady s t _ _ hs hB (hG.read s t)⟩
  refine .bind (R := fun _ s => (token ∈ s.store.signedTokens ∧
      some (.blocklistChecked token false checked) ∈ own t s.hist) ∧ Unrotated token t s)
    (.lift (fun _ _ _ _ h => h) fun _ _ _ _ _ => trivial) fun _ => ?_
  -- the old token is blocked, and the new one signed in exchange
  refine (triple_blocklistOldRefreshToken hG hallow hsigned token checked t).bind fun r =>
    (triple_signRotated hG hallow hsigned token r.1 r.2 t).bind fun rotated => ?_
  exact free_bind (free_audit hG _ _ _ _) (fun _ => free_pure _) t

/-! ### Login -/

omit hsigned in
/-- An account that passes the guard is active, and was not locked. -/
theorem yields_guardAccountUsable (user : User) (now : ℤ) (req : Request) :
    Yields G (guardAccountUsable user now req) fun _ =>
      user.isActive = true ∧ isAccountLocked user now = false := by
  have hreject : ∀ reason message, Yields G
      (do logFailedLogin (some user.id) reason req; throw (.auth message) : Call Unit) fun _ =>
        user.isActive = true ∧ isAccountLocked user now = false :=
    fun _ _ t => (free_logFailedLogin hG hallow _ _ _ t).bind fun _ => .throw fun _ _ _ => trivial
  unfold guardAccountUsable
  by_cases hactive : user.isActive = true
  · by_cases hlocked : isAccountLocked user now = true
    · rw [if_neg (by simp [hactive]), if_pos hlocked]
      exact hreject _ _
    · rw [if_neg (by simp [hactive]), if_neg hlocked]
      split
      · exact hreject _ _
      · exact fun t => .ret fun _ _ _ => ⟨hactive, Bool.eq_false_iff.2 hlocked⟩
  · rw [if_pos (by simpa using hactive)]
    exact hreject _ _

omit hsigned in
theorem triple_acceptPassword (user : User) (req : Request) (t : ℕ) :
    G.Triple t (fun s => some (.passwordCompared user.id true) ∈ own t s.hist)
      (acceptPassword cfg user req) (fun _ _ => True) fun _ _ => True := by
  refine .bind (R := fun _ _ => True) (triple_statement hG.toQuiet (steady_own t _) t
    fun s i u d hs hcompared h => ?_) fun _ => ?_
  · simp only [Txn.bind_ok, connect_ok, Txn.write_ok] at h
    obtain ⟨_, _, ⟨-, rfl⟩, rfl⟩ := h
    exact ⟨hallow s t _ _ hs (.failedLoginReset _ _ hcompared (rewritesUser_update id_resetFailure)), trivial⟩
  · exact free_ite (free_bind (free_audit hG _ _ _ _) fun _ => free_pure _)
      (free_issueFullTokens hG hallow _ _) t

omit hsigned in
theorem triple_rejectPassword {α : Type} (user : User) (req : Request) (t : ℕ) :
    G.Triple t (fun s => some (.passwordCompared user.id false) ∈ own t s.hist)
      (rejectPassword cfg user req : Call α) (fun _ _ => True) fun _ _ => True := by
  refine .bind (R := fun _ _ => True) (.bind (R := fun _ _ => True) (triple_transaction hG.toQuiet
    (steady_own t _) t fun s i now d hs hcompared h => ?_) fun _ => ?_) fun _ => .throw fun _ _ _ => trivial
  · exact hallow s t _ _ hs (recordFailedPasswordTxn_ok hcompared h)
  · exact free_bind (free_bind (free_ite (free_log hG.toQuiet _) (free_pure _)) fun _ =>
      free_log hG.toQuiet _) (fun _ => free_checkFailedAuthBurst hG _) t

omit hsigned in
/-- A password is compared after the account was found not locked, and counted after it was compared. -/
theorem free_login (email password : String) (req : Request) :
    Free G (login cfg email password req) := by
  have hquiet := hG.toQuiet
  intro t
  refine .bind (R := fun r s => ∀ user, r.1 = some user → user.isActive = true →
      some (.lockChecked user.id (isAccountLocked user r.2) r.2) ∈ own t s.hist)
    (triple_statement hquiet (B := fun _ => True) (fun _ _ _ _ _ _ _ => trivial) t
      fun s i r d hs _ h => ?_) ?_
  · simp only [Txn.bind_ok, connect_ok, now_ok, Txn.read_ok, Txn.pure_ok] at h
    obtain ⟨_, _, ⟨-, rfl⟩, _, _, ⟨rfl, rfl⟩, found, _, ⟨hfound, rfl⟩, rfl, rfl⟩ := h
    cases found with
    | none => exact ⟨hG.read s t, fun _ h => by cases h⟩
    | some user =>
      have huser : user ∈ s.store.users.rows := List.mem_of_find?_eq_some hfound
      by_cases hactive : user.isActive = true
      · have hevent : lookupEvent (some user, i.now) =
            .lockChecked user.id (isAccountLocked user i.now) i.now := if_pos hactive
        rw [hevent]
        refine ⟨hallow s t _ _ hs (.lockChecked user i.now huser), fun user' h _ => ?_⟩
        obtain rfl := Option.some.inj h
        rw [State.record_hist, own_cons_self]
        exact List.mem_cons_self
      · have hevent : lookupEvent (some user, i.now) = .read := if_neg hactive
        rw [hevent]
        refine ⟨hG.read s t, fun user' h hactive' => ?_⟩
        obtain rfl := Option.some.inj h
        exact absurd hactive' hactive
  · rintro ⟨found, now⟩
    cases found with
    | none => exact (free_bind (free_logFailedLogin hG hallow _ _ _) fun _ => free_throw _).of _ t
    | some user =>
      by_cases hactive : user.isActive = true
      · have hsteady :=
          steady_own (G := G) t (some (.lockChecked user.id (isAccountLocked user now) now))
        refine Protocol.Triple.bind (((yields_guardAccountUsable hG hallow user now req t).frame
          hsteady).conseq (fun s _ h => ⟨h user rfl hactive, trivial⟩) (fun _ _ _ h => h)
            fun _ _ _ _ => trivial) fun _ => ?_
        refine .assume (P := isAccountLocked user now = false) (fun s h => h.2.2) fun hlocked => ?_
        refine .bind (R := fun matched s => some (.passwordCompared user.id matched) ∈ own t s.hist)
          ((triple_statement hquiet hsteady t fun s i matched d hs hchecked h => ?_).conseq
            (fun _ _ h => h.1) (fun _ _ _ h => h) fun _ _ _ h => h) fun matched => ?_
        · obtain ⟨-, rfl⟩ := Txn.pure_ok.1 h
          rw [hlocked] at hchecked
          refine ⟨hallow s t _ _ hs (.passwordCompared _ _ _ hchecked), ?_⟩
          rw [State.record_hist, own_cons_self]
          exact List.mem_cons_self
        · cases matched with
          | true => exact triple_acceptPassword hG hallow user req t
          | false => exact triple_rejectPassword hG hallow user req t
      · exact (Protocol.Triple.bind ((yields_guardAccountUsable hG hallow user now req t).conseq
          (fun _ _ _ => trivial) (fun _ _ _ h => h) fun _ _ _ _ => trivial)
          fun _ => .assume (fun _ h => h.1) fun h => absurd h hactive)

/-! ### The others -/

omit hallow hsigned in
/-- A lookup: the call that finds a row has said so. -/
theorem triple_lookUp {ρ : Type} {x : Tx (Option ρ)} {seen : Option ρ → Event}
    (hnone : seen none = .read)
    (t : ℕ) (hsome : ∀ (s : State World Event) i r d, G.inv s → x i s.store = .ok (some r, d) →
      G.effect s t (some (seen (some r))) d)
    (hread : ∀ (s : State World Event) i d, x i s.store = .ok (none, d) → d = s.store) :
    G.Triple t (fun _ => True) (.transaction x seen fun _ => .threw)
      (fun found s => ∀ r, found = some r → some (seen (some r)) ∈ own t s.hist) fun _ _ => True := by
  refine triple_statement hG.toQuiet (fun _ _ _ _ _ _ _ => trivial) t fun s i found d hs _ h => ?_
  cases found with
  | none =>
    rw [hnone, hread s i d h]
    exact ⟨hG.read s t, fun r hr => by cases hr⟩
  | some r =>
    refine ⟨hsome s i r d hs h, fun r' hr => ?_⟩
    obtain rfl := Option.some.inj hr
    rw [State.record_hist, own_cons_self]
    exact List.mem_cons_self

omit hsigned in
/-- A backup code is used by a call that found it unused. -/
theorem free_verifyBackupCodeOrThrow (user : Option User) (userId : ℕ) (rawCode : String)
    (req : Request) :
    Free G (verifyBackupCodeOrThrow user userId rawCode req) := by
  cases user with
  | none => exact free_rejectSecondFactor hG _ _ _
  | some user =>
    intro t
    refine .bind (R := fun found s => ∀ r, found = some r → some (backupCodeEvent (some r)) ∈ own t s.hist)
      (triple_lookUp hG rfl t (fun s i r d hs h => ?_) fun s i d h => ?_) fun found => ?_
    · simp only [Txn.bind_ok, connect_ok, Txn.read_ok] at h
      obtain ⟨_, _, ⟨-, rfl⟩, hfound, rfl⟩ := h
      have hr := List.find?_some hfound
      exact hallow s t _ _ hs (.backupCodeFound r (List.mem_of_find?_eq_some hfound) (of_decide_eq_true hr).2.2)
    · simp only [Txn.bind_ok, connect_ok, Txn.read_ok] at h
      obtain ⟨_, _, ⟨-, rfl⟩, -, rfl⟩ := h
      rfl
    · cases found with
      | none =>
        exact (free_bind (free_audit hG _ _ _ _) fun _ => free_rejectSecondFactor hG _ _ _).of _ t
      | some record =>
        refine .bind (R := fun _ _ => True) ((triple_transaction hG.toQuiet (steady_own t
          (some (.backupCodeFound record.id))) t fun s i u d hs hfound h => ?_).conseq
          (fun _ _ h => h record rfl) (fun _ _ _ h => h) fun _ _ _ h => h) fun _ => free_pure _ t
        simp only [markBackupCodeUsedWithClient, auditWithClient, Txn.bind_ok, now_ok, Txn.write_ok,
          createAuditEntry_ok] at h
        obtain ⟨_, _, ⟨_, _, ⟨rfl, rfl⟩, rfl⟩, rfl⟩ := h
        exact hallow s t _ _ hs (.backupCodeUsed _ _ _ hfound)

omit hsigned in
theorem free_verifyTwoFactor (partialToken : PartialToken) (totpCode : String) (req : Request) :
    Free G (verifyTwoFactor cfg partialToken totpCode req) := by
  refine free_bind (free_lift _) fun userId => free_bind (free_query hG.toQuiet _) fun found =>
    free_bind (free_ite (free_verifyBackupCodeOrThrow hG hallow _ _ _ _) ?_) fun user =>
      free_bind (free_logTwoFactorEvent hG _ _ _) fun _ => free_issueFullTokens hG hallow _ _
  unfold verifyTotpCode
  split
  · exact free_rejectSecondFactor hG _ _ _
  · exact free_bind (free_totpVerify hG) fun _ =>
      free_ite (free_pure _) (free_rejectSecondFactor hG _ _ _)

omit hsigned in
/-- A reset token is used by a call that found it unused. -/
theorem free_resetPassword (rawToken newPassword confirmPassword : String) (req : Request) :
    Free G (resetPassword rawToken newPassword confirmPassword req) := by
  have hquiet := hG.toQuiet
  refine free_bind (free_lift _) fun _ t => ?_
  refine .bind (R := fun r s => some (.resetTokenFound r.id) ∈ own t s.hist)
    (.bind (triple_lookUp hG rfl t (fun s i r d hs h => ?_) fun s i d h => ?_) fun found =>
      .lift (fun r s hr _ h => ?_) fun _ _ _ _ _ => trivial) fun tokenRecord => ?_
  · simp only [Txn.bind_ok, connect_ok, now_ok, Txn.read_ok] at h
    obtain ⟨_, _, ⟨-, rfl⟩, _, _, ⟨rfl, rfl⟩, hfound, rfl⟩ := h
    have hr := List.find?_some hfound
    exact hallow s t _ _ hs (.resetTokenFound r (List.mem_of_find?_eq_some hfound) (of_decide_eq_true hr).2.1)
  · simp only [Txn.bind_ok, connect_ok, now_ok, Txn.read_ok] at h
    obtain ⟨_, _, ⟨-, rfl⟩, _, _, ⟨-, rfl⟩, -, rfl⟩ := h
    rfl
  · cases found with
    | none => cases hr
    | some record =>
      obtain rfl := Except.ok.inj hr
      exact h record rfl
  · have hsteady := steady_own (G := G) t (some (.resetTokenFound tokenRecord.id))
    refine ((free_checkPasswordHistory hG _ _).carries hsteady t).bind fun _ => ?_
    refine .bind (R := fun _ _ => True) (triple_transaction hquiet hsteady t fun s i u d hs hfound h => ?_)
      fun _ => (free_bind (free_deleteSessionsByUserId hG hallow _ _) fun _ => free_log hquiet _) t
    exact hallow s t _ _ hs (applyPasswordReset_ok hfound h)

omit hsigned in
theorem free_changePassword (userId sessionId : ℕ) (currentPassword newPassword confirmPassword : String)
    (req : Request) :
    Free G (changePassword userId sessionId currentPassword newPassword confirmPassword req) := by
  have hquiet := hG.toQuiet
  refine free_bind (free_lift _) fun _ => free_bind (free_query hquiet _) fun _ =>
    free_bind (free_lift _) fun user => free_bind (free_lift _) fun _ =>
      free_bind (free_checkPasswordHistory hG _ _) fun _ =>
        free_bind (free_transaction hquiet fun s t i u d hs h => ?_) fun _ =>
          free_bind (free_deleteSessionsByUserId hG hallow _ _) fun _ => free_log hquiet _
  exact hallow s t _ _ hs (persistPasswordChange_ok h)

omit hsigned in
/-- A verification token is used by a call that found it unused. -/
theorem free_verifyEmail (rawToken : String) (req : Request) : Free G (verifyEmail rawToken req) := by
  have hquiet := hG.toQuiet
  intro t
  refine .bind (R := fun found s => ∀ r, found = some r →
      some (verificationTokenEvent (some r)) ∈ own t s.hist)
    (triple_lookUp hG rfl t (fun s i r d hs h => ?_) fun s i d h => ?_) fun found => ?_
  · simp only [Txn.bind_ok, connect_ok, now_ok, Txn.read_ok] at h
    obtain ⟨_, _, ⟨-, rfl⟩, _, _, ⟨rfl, rfl⟩, hfound, rfl⟩ := h
    have hr := List.find?_some hfound
    exact hallow s t _ _ hs
      (.verificationTokenFound r (List.mem_of_find?_eq_some hfound) (of_decide_eq_true hr).2.1)
  · simp only [Txn.bind_ok, connect_ok, now_ok, Txn.read_ok] at h
    obtain ⟨_, _, ⟨-, rfl⟩, _, _, ⟨-, rfl⟩, -, rfl⟩ := h
    rfl
  · cases found with
    | none => exact (free_bind (free_audit hG _ _ _ _) fun _ => free_throw _).of _ t
    | some tokenRecord =>
      refine .bind (R := fun _ _ => True) ((triple_transaction hquiet (steady_own t
        (some (.verificationTokenFound tokenRecord.id))) t fun s i u d hs hfound h => ?_).conseq
        (fun _ _ h => h tokenRecord rfl) (fun _ _ _ h => h) fun _ _ _ h => h) fun _ => free_log hquiet _ t
      exact hallow s t _ _ hs (applyEmailVerification_ok hfound h)

/-- Every operation of the service follows a protocol that allows its effects. -/
theorem triple_program (op : Op) (t : ℕ) :
    G.Triple t (fun s => own t s.hist = []) (program cfg op) (fun _ _ => True) fun _ _ => True := by
  cases op with
  | login => exact (free_discard (free_login hG hallow _ _ _)).of _ t
  | verifyTwoFactor => exact (free_discard (free_verifyTwoFactor hG hallow _ _ _)).of _ t
  | refreshAccessToken => exact (triple_refreshAccessToken hG hallow hsigned _ _ t).discard
  | logout => exact (free_logout hG hallow _ _ _).of _ t
  | revokeSession => exact (free_revokeSession hG hallow _ _).of _ t
  | resetPassword => exact (free_resetPassword hG hallow _ _ _ _).of _ t
  | changePassword => exact (free_changePassword hG hallow _ _ _ _ _ _).of _ t
  | verifyEmail => exact (free_verifyEmail hG hallow _ _).of _ t

end Calls

/-! ## The protocols -/

/-- The accounts, their credentials and the refresh tokens are left alone. -/
structure Leaves (w w' : World) : Prop where
  users : w'.users = w.users
  passwordResetTokens : w'.passwordResetTokens = w.passwordResetTokens
  emailVerificationTokens : w'.emailVerificationTokens = w.emailVerificationTokens
  totpBackupCodes : w'.totpBackupCodes = w.totpBackupCodes
  refreshBlocklist : w'.refreshBlocklist = w.refreshBlocklist
  signedTokens : w'.signedTokens = w.signedTokens

/-- A move of the service: an effect, a statement that any service may make, or a return. -/
def Moves (cfg : Config) (s : State World Event) (t : ℕ) : Option Event → World → Prop
  | some e, w => Effect cfg s t e w ∨ e.service? = none ∧ Leaves s.store w
  | none, w => w = s.store

/-- The protocol of these moves, with an invariant that they keep. -/
def protocol (cfg : Config) (inv : State World Event → Prop)
    (hinv : ∀ {s t e w}, inv s → Moves cfg s t e w → inv (s.record t e w)) : Protocol World Event where
  inv := inv
  effect := Moves cfg
  inv_effect := hinv
  return_stable _ _ _ _ := rfl

section Protocol

variable {cfg : Config} {inv : State World Event → Prop}
  {hinv : ∀ {s t e w}, inv s → Moves cfg s t e w → inv (s.record t e w)}

theorem auditing : Auditing (protocol cfg inv hinv) where
  read _ _ := Or.inr ⟨rfl, rfl, rfl, rfl, rfl, rfl, rfl⟩
  threw _ _ := Or.inr ⟨rfl, rfl, rfl, rfl, rfl, rfl, rfl⟩
  logged _ _ _ := Or.inr ⟨rfl, rfl, rfl, rfl, rfl, rfl, rfl⟩
  enqueued _ _ _ := Or.inr ⟨rfl, rfl, rfl, rfl, rfl, rfl, rfl⟩
  leftJobs _ _ _ := Or.inr ⟨rfl, rfl, rfl, rfl, rfl, rfl, rfl⟩
  audited _ _ _ := Or.inr ⟨rfl, rfl, rfl, rfl, rfl, rfl, rfl⟩

/-- A token that was signed stays so. -/
theorem Moves.signed {s : State World Event} {t : ℕ} {e : Option Event} {w : World}
    (h : Moves cfg s t e w) {token : RefreshToken} (htoken : token ∈ s.store.signedTokens) :
    token ∈ w.signedTokens := by
  cases e with
  | none =>
    obtain rfl : w = s.store := h
    exact htoken
  | some e =>
    rcases h with h | ⟨-, hleaves⟩
    · cases h with
      | tokenIssued | tokenRotated => exact List.mem_append_left _ htoken
      | read | lockChecked | passwordCompared | loginFailureRecorded | failedLoginReset
      | loginHistoryCreated | sessionCreated | sessionDeleted | blocklistChecked | tokenExpired
      | tokenBlocked | backupCodeFound | backupCodeUsed | resetTokenFound | passwordReset
      | passwordChanged | verificationTokenFound | emailVerified =>
        exact htoken
    · rwa [hleaves.signedTokens]

/-- Every operation follows the protocol. -/
theorem program_implements : (protocol cfg inv hinv).Implements (program cfg) := by
  intro op t
  exact (triple_program auditing (fun s t e d _ h => Or.inl h)
    (fun token s u e d _ htoken h => Moves.signed h htoken) op t).conseq
    (fun _ _ h => h) (fun _ _ _ _ => rfl) fun _ _ _ _ => rfl

end Protocol

/-! ## An account -/

/-- An active account with a verified address. -/
def oneAccount : World :=
  { World.empty with
    users := .single
      { id := 1, last2faVerifiedAt := none, email := "a@ris.ug", passwordHash := "right", role := "supplier"
        emailVerified := true } }

/-- A call run alone as call `t`, of `n` statements at this time. -/
def aloneAt (op : Op) (t n : ℕ) (now : ℤ) : List (Act Op Input) :=
  Act.call op t (List.replicate n { now := now })

end Ris.Auth
