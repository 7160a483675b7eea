import Mathlib.Data.Set.Subsingleton
import RisPlatform.Auth.Protocol
import RisPlatform.Common.Histories

/-!
# Single-use credentials

A backup code, a reset token and a verification token are looked up as unused, and marked as used by a
later statement that does not look again. Requests that overlap may all find the credential unused. A
request that has used its credential may still fail. Where neither happens, at most one of the requests that
present the same succeeds (`single_use`).
-/

namespace Ris.Auth

open Relational Concurrent

/-! ## Credentials -/

inductive Credential
  | backupCode (codeId : ℕ)
  | resetToken (tokenId : ℕ)
  | verificationToken (tokenId : ℕ)
  deriving DecidableEq

/-- What a request presents: a token, or a backup code of a user. -/
inductive Presented
  | backupCode (userId : ℕ) (codeHash : String)
  | resetToken (tokenHash : String)
  | verificationToken (tokenHash : String)
  deriving DecidableEq

/-- What has to be presented for the credential. -/
def key? (w : World) : Credential → Option Presented
  | .backupCode codeId => (w.totpBackupCodes.get? codeId).map fun c => .backupCode c.userId c.codeHash
  | .resetToken tokenId => (w.passwordResetTokens.get? tokenId).map fun r => .resetToken r.tokenHash
  | .verificationToken tokenId =>
    (w.emailVerificationTokens.get? tokenId).map fun r => .verificationToken r.tokenHash

/-- The credential that was found unused. -/
def found? : Event → Option Credential
  | .backupCodeFound codeId => some (.backupCode codeId)
  | .resetTokenFound tokenId => some (.resetToken tokenId)
  | .verificationTokenFound tokenId => some (.verificationToken tokenId)
  | _ => none

/-- The credential that was used. -/
def used? : Event → Option Credential
  | .backupCodeUsed codeId => some (.backupCode codeId)
  | .passwordReset tokenId _ _ => some (.resetToken tokenId)
  | .emailVerified tokenId => some (.verificationToken tokenId)
  | _ => none

def finds (c : Credential) (e : Option Event) : Bool := e.bind found? = some c

def uses (c : Credential) (e : Option Event) : Bool := e.bind used? = some c

/-- What the store says of a credential that is not used: its user, its hash and its expiry. -/
def usable? (w : World) : Credential → Option (ℕ × String × Option ℤ)
  | .backupCode codeId =>
    ((w.totpBackupCodes.get? codeId).filter fun c => c.usedAt = none).map fun c =>
      (c.userId, c.codeHash, none)
  | .resetToken tokenId =>
    ((w.passwordResetTokens.get? tokenId).filter fun r => r.usedAt = none).map fun r =>
      (r.userId, r.tokenHash, some r.expiresAt)
  | .verificationToken tokenId =>
    ((w.emailVerificationTokens.get? tokenId).filter fun r => r.verifiedAt = none).map fun r =>
      (r.userId, r.tokenHash, some r.expiresAt)

/-! ## The law -/

/-- Of the credentials of the store `d` none is used twice, and each that is not used is as it was. -/
structure OnceLaw (d : World) (s : State World Event) : Prop where
  once : ∀ c, occurrences (uses c) s.hist ≤ 1
  usable : ∀ c, usable? s.store c = if occurrences (uses c) s.hist = 0 then usable? d c else none

/-- A call has used a credential. -/
def Consumed (l : List (Option Event)) : Prop := ∃ e ∈ l, (e.bind used?).isSome = true

/-- A call has used a credential that `d` has under what is presented. -/
def UsedFor (d : World) (presented : Presented) (l : List (Option Event)) : Prop :=
  ∃ c, key? d c = some presented ∧ ∃ e ∈ l, uses c e = true

/-- The call has logged its login; what it still does is caught, if it fails once. -/
def Caught (l : List (Option Event)) : Prop :=
  some (.logged "LOGIN_SUCCESS") ∈ l ∧ some .threw ∉ l

instance (l : List (Option Event)) : Decidable (Consumed l) := by
  unfold Consumed
  infer_instance

instance (l : List (Option Event)) : Decidable (Caught l) := by
  unfold Caught
  infer_instance

/-- A credential is used when no other request has used it since it was found unused; and after it was
used, no statement of the request fails but the notification of a new device. -/
def UsedInTurn : Cond World Event := fun s t e =>
  (∀ c ∈ used? e, ∀ x ∈ sinceCheck t (finds c) s.hist, uses c x.2 = false) ∧
    (e = .threw → Consumed (own t s.hist) → Caught (own t s.hist))

instance (s : State World Event) (t : ℕ) (e : Event) : Decidable (UsedInTurn s t e) := by
  unfold UsedInTurn
  infer_instance

/-! ## The credentials follow the history -/

theorem finds_some {c : Credential} {e : Event} : finds c (some e) = true ↔ found? e = some c :=
  decide_eq_true_iff

theorem uses_some {c : Credential} {e : Event} : uses c (some e) = true ↔ used? e = some c :=
  decide_eq_true_iff

/-- A statement that uses a credential finds none. -/
theorem found?_of_used {c : Credential} {e : Event} (h : used? e = some c) : found? e = none := by
  cases e <;> first | rfl | cases h

theorem not_uses_of_finds {c : Credential} {e : Option Event} (h : finds c e = true) :
    uses c e = false := by
  cases e with
  | none => cases h
  | some e =>
    refine Bool.eq_false_iff.2 fun huse => ?_
    rw [finds_some, found?_of_used (uses_some.1 huse)] at h
    cases h

section Usable

variable {ρ : Type} {key : ρ → ℕ} {T : Table key} {f : ρ → ρ} {hf : ∀ r, key (f r) = key r} {unused : ρ → Bool}

/-- The row that is marked as used is no longer found. -/
theorem filter_get?_update_self (hused : ∀ r, unused (f r) = false) (k : ℕ) :
    ((T.update (fun r => key r = k) f hf).get? k).filter unused = none := by
  rw [Table.get?_update_key]
  cases T.get? k with
  | none => rfl
  | some r => simp [hused]

end Usable

/-- The credentials are those of `d` that are not used, and they were found unused before they were used. -/
structure OnceInv (d : World) (s : State World Event) : Prop where
  law : OnceLaw d s
  checked : ∀ c, CheckedFirst (finds c) (uses c) s.hist

section Moves

variable {cfg : Config} {d : World} {s : State World Event} {t : ℕ} {e : Event} {w : World}

/-- A statement that uses no credential. -/
theorem OnceInv.idle (hs : OnceInv d s) {e : Option Event} (hused : ∀ c, uses c e = false)
    (hfound : ∀ c, finds c e = true → (usable? s.store c).isSome = true)
    (hw : ∀ c, usable? w c = usable? s.store c) : OnceInv d (s.record t e w) where
  law := by
    refine ⟨fun c => ?_, fun c => ?_⟩
    · rw [State.record_hist, occurrences_cons_of_not (hused c)]
      exact hs.law.once c
    · rw [State.record_hist, State.record_store, occurrences_cons_of_not (hused c), hw]
      exact hs.law.usable c
  checked := by
    intro c
    refine ⟨fun hfind x hx => ?_, hs.checked c⟩
    -- what was found unused is not used
    have hsome := hfound c hfind
    rw [hs.law.usable c] at hsome
    split at hsome
    next hnone => exact occurrences_eq_zero.1 hnone x hx
    next => cases hsome

/-- A credential is used by a call that found it unused, and that nobody has used since. -/
theorem OnceInv.use (hs : OnceInv d s) {c : Credential} {found : Event} (huse : used? e = some c)
    (hfind : found? found = some c) (hfound : some found ∈ own t s.hist)
    (hsince : ∀ x ∈ sinceCheck t (finds c) s.hist, uses c x.2 = false)
    (hself : usable? w c = none) (hother : ∀ c', c' ≠ c → usable? w c' = usable? s.store c') :
    OnceInv d (s.record t (some e) w) := by
  have hnone : ∀ x ∈ s.hist, uses c x.2 = false :=
    (hs.checked c).not_acted (fun _ => not_uses_of_finds) ⟨_, mem_own.1 hfound, rfl, finds_some.2 hfind⟩ hsince
  have huses : ∀ c', c' ≠ c → uses c' (some e) = false := by
    intro c' hc'
    refine Bool.eq_false_iff.2 fun h => ?_
    rw [uses_some, huse] at h
    exact hc' (Option.some.inj h).symm
  refine ⟨⟨fun c' => ?_, fun c' => ?_⟩, fun c' => ⟨fun h => ?_, hs.checked c'⟩⟩
  · by_cases hc' : c' = c
    · subst hc'
      exact occurrences_cons_of_none hnone _
    · rw [State.record_hist, occurrences_cons_of_not (huses c' hc')]
      exact hs.law.once c'
  · by_cases hc' : c' = c
    · subst hc'
      have hsome : occurrences (uses c') (s.record t (some e) w).hist ≠ 0 := by
        intro h
        have hhead := occurrences_eq_zero.1 h _ List.mem_cons_self
        rw [Bool.eq_false_iff] at hhead
        exact hhead (uses_some.2 huse)
      rw [if_neg hsome]
      exact hself
    · rw [State.record_hist, State.record_store, occurrences_cons_of_not (huses c' hc'), hother c' hc']
      exact hs.law.usable c'
  · rw [finds_some, found?_of_used huse] at h
    cases h

/-- The tables of the credentials. -/
theorem usable?_congr {w w' : World} (hcodes : w'.totpBackupCodes = w.totpBackupCodes)
    (hresets : w'.passwordResetTokens = w.passwordResetTokens)
    (hverifications : w'.emailVerificationTokens = w.emailVerificationTokens) (c : Credential) :
    usable? w' c = usable? w c := by
  cases c with
  | backupCode codeId => rw [usable?, hcodes, usable?]
  | resetToken tokenId => rw [usable?, hresets, usable?]
  | verificationToken tokenId => rw [usable?, hverifications, usable?]

/-- A lookup finds a credential that is usable. -/
theorem usable?_of_found (h : Effect cfg s t e w) {c : Credential} (hfound : found? e = some c) :
    (usable? s.store c).isSome = true := by
  cases h with
  | backupCodeFound r hr hunused =>
    obtain rfl := Option.some.inj hfound
    simp [usable?, Table.get?_of_mem hr, hunused]
  | resetTokenFound r hr hunused =>
    obtain rfl := Option.some.inj hfound
    simp [usable?, Table.get?_of_mem hr, hunused]
  | verificationTokenFound r hr hunused =>
    obtain rfl := Option.some.inj hfound
    simp [usable?, Table.get?_of_mem hr, hunused]
  | _ => cases hfound

/-- A statement in turn keeps the credentials and the history together. -/
theorem OnceInv.effect (hs : OnceInv d s) (h : Effect cfg s t e w) (hcond : UsedInTurn s t e) :
    OnceInv d (s.record t (some e) w) := by
  have hfound : ∀ c, finds c (some e) = true → (usable? s.store c).isSome = true :=
    fun c hc => usable?_of_found h (finds_some.1 hc)
  cases h with
  | backupCodeUsed codeId now entries hfind =>
    refine hs.use rfl rfl hfind (hcond.1 _ rfl) ?_ fun c hc => ?_
    · show Option.map _ (Option.filter _ _) = none
      rw [filter_get?_update_self (fun _ => rfl)]
      rfl
    · cases c with
      | backupCode k =>
        rw [usable?, Table.get?_update_key_of_ne fun hk => hc (congrArg _ hk), usable?]
      | resetToken _ | verificationToken _ => rfl
  | passwordReset tokenId userId password now users history entries hfind hrows =>
    refine hs.use rfl rfl hfind (hcond.1 _ rfl) ?_ fun c hc => ?_
    · show Option.map _ (Option.filter _ _) = none
      rw [filter_get?_update_self (fun _ => rfl)]
      rfl
    · cases c with
      | resetToken k =>
        rw [usable?, Table.get?_update_key_of_ne fun hk => hc (congrArg _ hk), usable?]
      | backupCode _ | verificationToken _ => rfl
  | emailVerified tokenId userId now users entries hfind hrows =>
    refine hs.use rfl rfl hfind (hcond.1 _ rfl) ?_ fun c hc => ?_
    · show Option.map _ (Option.filter _ _) = none
      rw [filter_get?_update_self (fun _ => rfl)]
      rfl
    · cases c with
      | verificationToken k =>
        rw [usable?, Table.get?_update_key_of_ne fun hk => hc (congrArg _ hk), usable?]
      | backupCode _ | resetToken _ => rfl
  | read | lockChecked | passwordCompared | loginFailureRecorded | failedLoginReset | loginHistoryCreated
  | sessionCreated | sessionDeleted | tokenIssued | blocklistChecked | tokenExpired | tokenBlocked
  | tokenRotated | backupCodeFound | resetTokenFound | passwordChanged | verificationTokenFound =>
    exact hs.idle (fun _ => rfl) hfound (usable?_congr rfl rfl rfl)

theorem OnceInv.moves (hs : OnceInv d s) {e : Option Event} (h : Moves cfg s t e w)
    (hcond : ∀ event, e = some event → UsedInTurn s t event) : OnceInv d (s.record t e w) := by
  cases e with
  | none =>
    obtain rfl : w = s.store := h
    exact hs.idle (fun _ => rfl) (fun _ hfind => by cases hfind) fun _ => rfl
  | some e =>
    rcases h with h | ⟨hgeneral, hleaves⟩
    · exact hs.effect h (hcond e rfl)
    · refine hs.idle (fun c => ?_) (fun c hfind => ?_) (usable?_congr hleaves.totpBackupCodes
        hleaves.passwordResetTokens hleaves.emailVerificationTokens)
      · cases e <;> first | rfl | cases hgeneral
      · rw [finds_some] at hfind
        cases e <;> first | (cases hgeneral; done) | cases hfind

/-- In both stores the same has to be presented for each credential. -/
def SameKeys (w w' : World) : Prop := ∀ c, key? w' c = key? w c

theorem key?_congr {w w' : World} (hcodes : w'.totpBackupCodes = w.totpBackupCodes)
    (hresets : w'.passwordResetTokens = w.passwordResetTokens)
    (hverifications : w'.emailVerificationTokens = w.emailVerificationTokens) : SameKeys w w' := by
  intro c
  cases c with
  | backupCode codeId => rw [key?, hcodes, key?]
  | resetToken tokenId => rw [key?, hresets, key?]
  | verificationToken tokenId => rw [key?, hverifications, key?]

/-- An update that what is looked at does not see. -/
theorem get?_update_map {ρ β : Type} {key : ρ → ℕ} {T : Table key} {p : ρ → Bool} {f : ρ → ρ}
    (hf : ∀ r, key (f r) = key r) {g : ρ → β} (hg : ∀ r, g (f r) = g r) (k : ℕ) :
    ((T.update p f hf).get? k).map g = (T.get? k).map g := by
  rw [Table.get?_update, Option.map_map]
  refine Option.map_congr fun r _ => ?_
  rw [Function.comp_apply]
  split
  · exact hg r
  · rfl

/-- No statement writes a user or a hash of a credential. -/
theorem sameKeys_effect (h : Effect cfg s t e w) : SameKeys s.store w := by
  cases h with
  | backupCodeUsed codeId now entries hfind =>
    intro c
    cases c with
    | backupCode k => exact get?_update_map (id_useBackupCode now) (fun _ => rfl) k
    | resetToken _ | verificationToken _ => rfl
  | passwordReset tokenId userId password now users history entries hfind hrows =>
    intro c
    cases c with
    | resetToken k => exact get?_update_map (id_useResetToken now) (fun _ => rfl) k
    | backupCode _ | verificationToken _ => rfl
  | emailVerified tokenId userId now users entries hfind hrows =>
    intro c
    cases c with
    | verificationToken k => exact get?_update_map (id_useVerificationToken now) (fun _ => rfl) k
    | backupCode _ | resetToken _ => rfl
  | read | lockChecked | passwordCompared | loginFailureRecorded | failedLoginReset | loginHistoryCreated
  | sessionCreated | sessionDeleted | tokenIssued | blocklistChecked | tokenExpired | tokenBlocked
  | tokenRotated | backupCodeFound | resetTokenFound | passwordChanged | verificationTokenFound =>
    exact key?_congr rfl rfl rfl

theorem SameKeys.moves {d : World} (hs : SameKeys d s.store) {e : Option Event} (h : Moves cfg s t e w) :
    SameKeys d w := by
  cases e with
  | none =>
    obtain rfl : w = s.store := h
    exact hs
  | some e =>
    rcases h with h | ⟨-, hleaves⟩
    · exact fun c => (sameKeys_effect h c).trans (hs c)
    · exact fun c => (key?_congr hleaves.totpBackupCodes hleaves.passwordResetTokens
        hleaves.emailVerificationTokens c).trans (hs c)

end Moves

/-! ## One request -/

/-- After the call had used a credential, a statement failed that nothing catches. -/
def Disturbed : List (Option Event) → Prop
  | [] => False
  | e :: earlier => e = some .threw ∧ Consumed earlier ∧ ¬Caught earlier ∨ Disturbed earlier

/-- In a run in turn no call is disturbed. -/
theorem not_disturbed {s : State World Event} {t : ℕ} {e : Option Event} {w : World}
    (hs : ∀ u, ¬Disturbed (own u s.hist)) (hcond : ∀ event, e = some event → UsedInTurn s t event) (u : ℕ) :
    ¬Disturbed (own u (s.record t e w).hist) := by
  rw [State.record_hist]
  by_cases htu : t = u
  · subst htu
    rw [own_cons_self]
    rintro (⟨hthrew, hconsumed, hcaught⟩ | hbefore)
    · exact hcaught ((hcond .threw hthrew).2 rfl hconsumed)
    · exact hs t hbefore
  · rw [own_cons_of_ne htu]
    exact hs u

/-- A statement that uses no credential, does not fail and logs no login. -/
def Plain (e : Event) : Prop := used? e = none ∧ e ≠ .threw ∧ e ≠ .logged "LOGIN_SUCCESS"

/-- The call has neither logged a login nor failed. -/
structure Clear (l : List (Option Event)) : Prop where
  unlogged : some (.logged "LOGIN_SUCCESS") ∉ l
  unthrown : some .threw ∉ l

/-- From `A` the call comes to `A` again, or to `B` with an error. -/
def Keeps (d : World) (A B : List (Option Event) → Prop) {α : Type} (p : Call α) : Prop :=
  ∀ l, A l → p.Traces (SameKeys d) (fun _ => A) (fun _ => B) l

section Keeps

variable {α β : Type} {d : World} {A B : List (Option Event) → Prop}

theorem keeps_pure (a : α) : Keeps d A B (pure a : Call α) := fun _ h => h

theorem keeps_bind {p : Call α} {f : α → Call β} (hp : Keeps d A B p) (hf : ∀ a, Keeps d A B (f a)) :
    Keeps d A B (p >>= f) := fun l h => (hp l h).bind fun a l => hf a l

theorem keeps_forM {as : List α} {f : α → Call Unit} (hf : ∀ a, Keeps d A B (f a)) :
    Keeps d A B (as.forM f) :=
  fun _ h => Proc.traces_forM (fun a l => hf a l) h

/-- What a plain statement does to `A`, and a failed one. -/
structure Phase (A B : List (Option Event) → Prop) : Prop where
  plain : ∀ l e, A l → Plain e → A (some e :: l)
  threw : ∀ l, A l → B (some .threw :: l)

variable (hAB : Phase A B)

include hAB

theorem keeps_statement {x : Tx α} {committed : α → Event} (h : ∀ a, Plain (committed a)) :
    Keeps d A B (.transaction x committed fun _ => .threw) :=
  fun l hl => Proc.traces_transaction (fun _ _ a _ _ _ => hAB.plain l _ hl (h a)) fun _ => hAB.threw l hl

theorem keeps_query (f : World → α) : Keeps d A B (query f) :=
  keeps_statement hAB fun _ => ⟨rfl, Event.noConfusion, Event.noConfusion⟩

theorem keeps_queryNow (f : ℤ → World → α) : Keeps d A B (queryNow f) :=
  keeps_statement hAB fun _ => ⟨rfl, Event.noConfusion, Event.noConfusion⟩

theorem keeps_audit (userId : Option ℕ) (action : String) (req : Request)
    (metadata : List (String × Json)) :
    Keeps d A B (audit userId action req metadata) :=
  keeps_statement hAB fun _ => ⟨rfl, Event.noConfusion, Event.noConfusion⟩

theorem keeps_log {action : String} (h : action ≠ "LOGIN_SUCCESS") : Keeps d A B (log action) :=
  keeps_statement hAB fun _ => ⟨rfl, Event.noConfusion, fun heq => h (Event.logged.inj heq)⟩

theorem keeps_logTwoFactorEvent (userId : ℕ) (success : Bool) (req : Request) :
    Keeps d A B (logTwoFactorEvent userId success req) := by
  refine keeps_bind (keeps_audit hAB _ _ _ _) fun _ => keeps_log hAB ?_
  cases success <;> decide

theorem keeps_deleteSessionsByUserId (userId : ℕ) (keepSessionId : Option ℕ) :
    Keeps d A B (deleteSessionsByUserId userId keepSessionId) := by
  refine keeps_bind (keeps_query hAB _) fun keys => keeps_forM fun sessionId =>
    keeps_bind (keeps_bind (keeps_queryNow hAB _) fun _ => keeps_pure _) fun session => ?_
  cases session with
  | none => exact keeps_pure _
  | some session =>
    show Keeps d A B (if _ then _ else _)
    split
    · exact keeps_statement hAB fun _ => ⟨rfl, Event.noConfusion, Event.noConfusion⟩
    · exact keeps_pure _

/-- Signing a token cannot fail in `B` but keeps `A`. -/
theorem keeps_signRefreshToken (cfg : Config) (userId sessionId : ℕ) :
    Keeps d A B (signRefreshToken cfg userId sessionId .tokenIssued) :=
  keeps_statement hAB fun _ => ⟨rfl, Event.noConfusion, Event.noConfusion⟩

end Keeps

/-! ### The phases of a request -/

section Phases

variable {d : World} {presented : Presented} {l : List (Option Event)}

/-- Nothing is used yet. -/
def Before (l : List (Option Event)) : Prop := ¬Consumed l ∧ Clear l

/-- The credential is used. -/
def After (d : World) (presented : Presented) (l : List (Option Event)) : Prop :=
  UsedFor d presented l ∧ Clear l

/-- The login is logged as well. -/
def Logged (d : World) (presented : Presented) (l : List (Option Event)) : Prop :=
  UsedFor d presented l ∧ some (.logged "LOGIN_SUCCESS") ∈ l ∧ some .threw ∉ l

/-- A failure was caught; the call goes on. -/
def Warned (d : World) (presented : Presented) (l : List (Option Event)) : Prop :=
  UsedFor d presented l ∧ some .threw ∈ l

theorem consumed_cons {e : Option Event} :
    Consumed (e :: l) ↔ (e.bind used?).isSome = true ∨ Consumed l := by
  unfold Consumed
  simp

theorem UsedFor.consumed (h : UsedFor d presented l) : Consumed l := by
  obtain ⟨c, -, e, he, huse⟩ := h
  exact ⟨e, he, Option.isSome_iff_exists.2 ⟨c, of_decide_eq_true huse⟩⟩

theorem UsedFor.cons (h : UsedFor d presented l) (e : Option Event) : UsedFor d presented (e :: l) := by
  obtain ⟨c, hkey, e', he', huse⟩ := h
  exact ⟨c, hkey, e', List.mem_cons_of_mem _ he', huse⟩

theorem Clear.cons (h : Clear l) {e : Event} (hthrew : e ≠ .threw)
    (hlogged : e ≠ .logged "LOGIN_SUCCESS") : Clear (some e :: l) where
  unlogged hmem := by
    rcases List.mem_cons.1 hmem with heq | hmem
    · exact hlogged (Option.some.inj heq).symm
    · exact h.unlogged hmem
  unthrown hmem := by
    rcases List.mem_cons.1 hmem with heq | hmem
    · exact hthrew (Option.some.inj heq).symm
    · exact h.unthrown hmem

theorem consumed_cons_plain {e : Event} (he : used? e = none) : Consumed (some e :: l) ↔ Consumed l := by
  rw [consumed_cons, Option.bind_some, he]
  simp

theorem phase_before : Phase Before fun l => ¬Consumed l where
  plain _ _ h he := ⟨fun hc => h.1 ((consumed_cons_plain he.1).1 hc), h.2.cons he.2.1 he.2.2⟩
  threw _ h hc := h.1 ((consumed_cons_plain rfl).1 hc)

theorem phase_after : Phase (After d presented) Disturbed where
  plain _ _ h he := ⟨h.1.cons _, h.2.cons he.2.1 he.2.2⟩
  threw _ h := Or.inl ⟨rfl, h.1.consumed, fun hcaught => h.2.unlogged hcaught.1⟩

theorem phase_logged : Phase (Logged d presented) (Warned d presented) where
  plain _ _ h he := ⟨h.1.cons _, List.mem_cons_of_mem _ h.2.1, fun hmem => by
    rcases List.mem_cons.1 hmem with heq | hmem
    · exact he.2.1 (Option.some.inj heq).symm
    · exact h.2.2 hmem⟩
  threw _ h := ⟨h.1.cons _, List.mem_cons_self⟩

/-- Another failure disturbs the call. -/
theorem phase_warned : Phase (Warned d presented) Disturbed where
  plain _ _ h _ := ⟨h.1.cons _, List.mem_cons_of_mem _ h.2⟩
  threw _ h := Or.inl ⟨rfl, h.1.consumed, fun hcaught => hcaught.2 h.2⟩

/-- How a request ends: with a value after it has used a credential for what it presents, and with an error
before it has used any, or because it was disturbed. -/
def UsesOnSuccess (d : World) (presented : Presented) (p : Call Unit) : Prop :=
  p.Traces (SameKeys d) (fun _ => UsedFor d presented) (fun _ l => Consumed l → Disturbed l) []

theorem before_nil : Before [] :=
  ⟨fun ⟨_, h, _⟩ => absurd h List.not_mem_nil, ⟨List.not_mem_nil, List.not_mem_nil⟩⟩

variable {α β : Type} {p : Call α} {Q : β → List (Option Event) → Prop} {f : α → Call β}

/-- Nothing is used yet, and what was looked up has `R`; an error may end the call. -/
theorem traces_looked {R : α → Prop}
    (hp : p.Traces (SameKeys d) (fun a l => R a ∧ Before l) (fun _ l => ¬Consumed l) l)
    (hf : ∀ a l, R a → Before l →
      (f a).Traces (SameKeys d) Q (fun _ l => Consumed l → Disturbed l) l) :
    (p >>= f).Traces (SameKeys d) Q (fun _ l => Consumed l → Disturbed l) l :=
  (hp.mono (fun _ _ h => h) fun _ _ h hc => absurd hc h).bind fun a l h => hf a l h.1 h.2

/-- Nothing is used yet, and an error may end the call. -/
theorem traces_before (hp : Keeps d Before (fun l => ¬Consumed l) p)
    (hf : ∀ a l, Before l → (f a).Traces (SameKeys d) Q (fun _ l => Consumed l → Disturbed l) l)
    (hl : Before l) : (p >>= f).Traces (SameKeys d) Q (fun _ l => Consumed l → Disturbed l) l :=
  traces_looked (R := fun _ => True) ((hp l hl).mono (fun _ _ h => ⟨trivial, h⟩) fun _ _ h => h)
    fun a l _ => hf a l

/-- A check before anything is used. -/
theorem keeps_lift (x : Except RisError α) :
    Keeps d Before (fun l => ¬Consumed l) (monadLift x : Call α) :=
  fun _ h => Proc.traces_lift (fun _ _ => h) fun _ _ => h.1

/-- A lookup of a credential in a store whose credentials are found under the same as in `d`. -/
theorem traces_lookup {x : Tx α} {committed : α → Event} {R : α → Prop}
    (hx : ∀ i w a w', SameKeys d w → x i w = .ok (a, w') → R a) (hplain : ∀ a, Plain (committed a))
    (hl : Before l) :
    (Proc.transaction x committed fun _ => .threw : Call α).Traces (SameKeys d)
      (fun a l => R a ∧ Before l) (fun _ l => ¬Consumed l) l :=
  Proc.traces_transaction (fun i w a w' hkeys hok => ⟨hx i w a w' hkeys hok, phase_before.plain l _ hl (hplain a)⟩)
    fun _ => phase_before.threw l hl

/-- A transaction that uses a credential. -/
theorem traces_use {body : Tx α} {committed : α → Event} {c : Credential} (hkey : key? d c = some presented)
    (hused : ∀ a, used? (committed a) = some c)
    (hf : ∀ a l, After d presented l → (f a).Traces (SameKeys d) Q (fun _ => Disturbed) l)
    (hl : Before l) :
    (transaction body committed >>= f).Traces (SameKeys d) Q (fun _ l => Consumed l → Disturbed l) l := by
  refine Proc.Traces.bind (R := fun _ => After d presented)
    (Proc.traces_transaction (fun i w a w' _ _ => ?_) fun e hc => ?_)
    fun a l hA => (hf a l hA).mono (fun _ _ h => h) fun _ _ h _ => h
  · have huse := hused a
    refine ⟨⟨c, hkey, _, List.mem_cons_self, uses_some.2 huse⟩, hl.2.cons (fun heq => ?_) fun heq => ?_⟩
    · rw [heq] at huse
      cases huse
    · rw [heq] at huse
      cases huse
  · exact absurd hc (phase_before.threw l hl)

/-- A refusal, before anything is used. -/
theorem traces_reject {p : Call β} {Q : α → List (Option Event) → Prop} {e : RisError}
    (hp : Keeps d Before (fun l => ¬Consumed l) p) (hl : Before l) :
    (p >>= fun _ => throw e).Traces (SameKeys d) Q (fun _ l => Consumed l → Disturbed l) l :=
  traces_before hp (fun _ _ h => Proc.traces_throw fun hc => absurd hc h.1) hl

end Phases

/-! ### The three requests -/

section Requests

variable {d : World}

theorem key?_of_findUnusedBackupCode {w : World} (hkeys : SameKeys d w) {userId : ℕ} {rawCode : String}
    {record : BackupCode} (h : findUnusedBackupCode userId rawCode w = some record) :
    key? d (.backupCode record.id) = some (.backupCode userId rawCode) := by
  unfold findUnusedBackupCode Table.find? at h
  have hmatch := List.find?_some h
  rw [decide_eq_true_iff] at hmatch
  rw [← hkeys, key?, Table.get?_of_mem (List.mem_of_find?_eq_some h), Option.map_some, hmatch.1, hmatch.2.1]

theorem key?_of_findValidResetToken {w : World} (hkeys : SameKeys d w) {rawToken : String} {now : ℤ}
    {tokenRecord : PasswordResetToken} (h : findValidResetToken rawToken now w = some tokenRecord) :
    key? d (.resetToken tokenRecord.id) = some (.resetToken rawToken) := by
  unfold findValidResetToken Table.find? at h
  have hmatch := List.find?_some h
  rw [decide_eq_true_iff] at hmatch
  rw [← hkeys, key?, Table.get?_of_mem (List.mem_of_find?_eq_some h), Option.map_some, hmatch.1]

theorem key?_of_findValidEmailVerificationToken {w : World} (hkeys : SameKeys d w) {rawToken : String}
    {now : ℤ} {tokenRecord : EmailVerificationToken}
    (h : findValidEmailVerificationToken rawToken now w = some tokenRecord) :
    key? d (.verificationToken tokenRecord.id) = some (.verificationToken rawToken) := by
  unfold findValidEmailVerificationToken Table.find? at h
  have hmatch := List.find?_some h
  rw [decide_eq_true_iff] at hmatch
  rw [← hkeys, key?, Table.get?_of_mem (List.mem_of_find?_eq_some h), Option.map_some, hmatch.1]

/-- A lookup that asks for the time, of rows that have `R` if they are found. -/
theorem traces_lookUpNow {ρ : Type} {find : ℤ → World → Option ρ} {committed : Option ρ → Event} {R : ρ → Prop}
    {l : List (Option Event)} (hfind : ∀ w now r, SameKeys d w → find now w = some r → R r)
    (hplain : ∀ found, Plain (committed found)) (hl : Before l) :
    (Proc.transaction (do connect; let now ← now; Txn.read (find now)) committed
      fun _ => .threw : Call (Option ρ)).Traces (SameKeys d) (fun found l => (∀ r ∈ found, R r) ∧ Before l)
        (fun _ l => ¬Consumed l) l := by
  refine traces_lookup (fun i w found w' hkeys h => ?_) hplain hl
  simp only [now, Txn.bind_ok, connect_ok, Txn.input_ok, Txn.read_ok, Txn.pure_ok] at h
  obtain ⟨_, _, ⟨-, rfl⟩, _, _, ⟨_, _, ⟨-, rfl⟩, -, rfl⟩, rfl, -⟩ := h
  exact fun r hr => hfind _ _ r hkeys hr

theorem usesOnSuccess_resetPassword (rawToken newPassword confirmPassword : String) (req : Request) :
    UsesOnSuccess d (.resetToken rawToken) (resetPassword rawToken newPassword confirmPassword req) := by
  refine traces_before (keeps_lift _) (fun _ l hl => ?_) before_nil
  refine traces_looked (R := fun r => key? d (.resetToken r.id) = some (.resetToken rawToken)) ?_
    (fun tokenRecord l hkey hl => ?_)
  · refine (traces_lookUpNow (fun _ _ _ hkeys => key?_of_findValidResetToken hkeys) (fun found => ?_) hl).bind
      fun found l hfound => ?_
    · cases found <;> exact ⟨rfl, Event.noConfusion, Event.noConfusion⟩
    · cases found with
      | none => exact hfound.2.1
      | some r => exact ⟨hfound.1 r rfl, hfound.2⟩
  refine traces_before (keeps_bind (keeps_query phase_before _) fun _ => keeps_lift _) (fun _ l hl => ?_) hl
  refine traces_use hkey (fun _ => rfl) (fun _ l hl => ?_) hl
  have hrest : Keeps d (After d (.resetToken rawToken)) Disturbed (do
      deleteSessionsByUserId tokenRecord.userId none
      log "PASSWORD_RESET_COMPLETED") :=
    keeps_bind (keeps_deleteSessionsByUserId phase_after _ _) fun _ => keeps_log phase_after (by decide)
  exact (hrest l hl).mono (fun _ _ h => h.1) fun _ _ h => h

theorem usesOnSuccess_verifyEmail (rawToken : String) (req : Request) :
    UsesOnSuccess d (.verificationToken rawToken) (verifyEmail rawToken req) := by
  refine traces_looked (traces_lookUpNow (fun _ _ _ hkeys => key?_of_findValidEmailVerificationToken hkeys)
    (fun found => ?_) before_nil) (fun found l hfound hl => ?_)
  · cases found <;> exact ⟨rfl, Event.noConfusion, Event.noConfusion⟩
  · cases found with
    | none => exact traces_reject (keeps_audit phase_before _ _ _ _) hl
    | some tokenRecord =>
      refine traces_use (hfound tokenRecord rfl) (fun _ => rfl) (fun _ l hl => ?_) hl
      exact (keeps_log phase_after (by decide) l hl).mono (fun _ _ h => h.1) fun _ _ h => h

/-- What comes after a backup code was used: the call may fail once in its last e-mail. -/
theorem traces_issueFullTokens (cfg : Config) (user : User) (req : Request) {presented : Presented}
    {l : List (Option Event)} (hl : After d presented l) :
    (issueFullTokens cfg user req).Traces (SameKeys d) (fun _ => UsedFor d presented)
      (fun _ => Disturbed) l := by
  have hplain : ∀ {α : Type} {p : Call α} {f : α → Call LoginResponse},
      Keeps d (After d presented) Disturbed p →
        (∀ a l, After d presented l →
          (f a).Traces (SameKeys d) (fun _ => UsedFor d presented) (fun _ => Disturbed) l) →
        ∀ l, After d presented l →
          (p >>= f).Traces (SameKeys d) (fun _ => UsedFor d presented) (fun _ => Disturbed) l :=
    fun hp hf l h => (hp l h).bind hf
  have hstatement : ∀ {α : Type} {x : Tx α} {committed : α → Event}, (∀ a, Plain (committed a)) →
      Keeps d (After d presented) Disturbed (.transaction x committed fun _ => .threw) :=
        fun h => keeps_statement phase_after h
  refine hplain (keeps_queryNow phase_after _) (fun known => ?_) l hl
  refine hplain (hstatement fun _ => ⟨rfl, Event.noConfusion, Event.noConfusion⟩) fun sessionId => ?_
  refine hplain (keeps_query phase_after _) fun _ => ?_
  refine hplain (hstatement fun _ => ⟨rfl, Event.noConfusion, Event.noConfusion⟩) fun _ => ?_
  refine hplain (keeps_signRefreshToken phase_after _ _ _) fun token => ?_
  refine hplain (keeps_query phase_after _) fun _ l hl => ?_
  refine Proc.Traces.bind (R := fun _ => Logged d presented) (((keeps_audit phase_after _ _ _ _) l hl).bind
    fun _ l hl => Proc.traces_transaction (fun _ _ _ _ _ _ => ?_) fun _ => phase_after.threw l hl)
    fun _ l hl => ?_
  · refine ⟨hl.1.cons _, List.mem_cons_self, fun hmem => ?_⟩
    rcases List.mem_cons.1 hmem with heq | hmem
    · cases heq
    · exact hl.2.unthrown hmem
  · have hdevice : (notifyIfNewDevice cfg user known.1 req).Traces (SameKeys d)
        (fun _ => UsedFor d presented) (fun _ => Disturbed) l := by
      unfold notifyIfNewDevice
      split
      · exact hl.1
      · refine Proc.Traces.tryCatch (R := fun _ => Warned d presented) ?_ fun _ l hl => ?_
        · have hbody : Keeps d (Logged d presented) (Warned d presented) (do
              audit (some user.id) "NEW_DEVICE_LOGIN_NOTIFIED" req [("newDevice", .bool true)]
              enqueueOrWarn cfg
                { queue := .notification, name := "send-email"
                  data := [("template", .text "new_device_login"), ("recipient", .text user.email)] }
                "Notification queue not configured — skipping new-device email") := by
            refine keeps_bind (keeps_audit phase_logged _ _ _ _) fun _ => ?_
            unfold enqueueOrWarn
            split
            · exact keeps_statement phase_logged fun _ => ⟨rfl, Event.noConfusion, Event.noConfusion⟩
            · exact keeps_log phase_logged (by decide)
          exact (hbody l hl).mono (fun _ _ h => h.1) fun _ _ h => h
        · exact (keeps_log phase_warned (by decide) l hl).mono (fun _ _ h => h.1) fun _ _ h => h
    exact hdevice.bind fun _ _ h => h

theorem usesOnSuccess_verifyTwoFactor (cfg : Config) (userId : ℕ) {totpCode : String}
    (hcode : utf16Length totpCode = 8) (req : Request) :
    UsesOnSuccess d (.backupCode userId totpCode)
      (verifyTwoFactor cfg (.partialAuth userId) totpCode req).discard := by
  have hmain : (verifyTwoFactor cfg (.partialAuth userId) totpCode req).Traces (SameKeys d)
      (fun _ => UsedFor d (.backupCode userId totpCode)) (fun _ l => Consumed l → Disturbed l) [] := by
    refine traces_looked (R := fun userId' => userId' = userId)
      (Proc.traces_lift (fun _ h => ⟨(Except.ok.inj h).symm, before_nil⟩) fun _ h => by cases h)
      fun userId' l huser hl => ?_
    subst huser
    refine traces_before (keeps_query phase_before _) (fun found l hl => ?_) hl
    rw [verifySecondFactor, if_pos hcode]
    refine Proc.Traces.bind (R := fun _ => After d (.backupCode userId' totpCode)) ?_ fun user l hl =>
      (((keeps_logTwoFactorEvent phase_after userId' true req) l hl).bind fun _ l hl =>
        traces_issueFullTokens cfg user req hl).mono (fun _ _ h => h) fun _ _ h _ => h
    cases found with
    | none => exact traces_reject (keeps_logTwoFactorEvent phase_before _ _ _) hl
    | some user =>
      refine traces_looked (R := fun found => ∀ record ∈ found,
          key? d (.backupCode record.id) = some (.backupCode userId' totpCode))
        (traces_lookup (fun i w found w' hkeys h => ?_) (fun found => ?_) hl) (fun found l hfound hl => ?_)
      · simp only [Txn.bind_ok, connect_ok, Txn.read_ok] at h
        obtain ⟨_, _, ⟨-, rfl⟩, rfl, -⟩ := h
        exact fun record hrecord => key?_of_findUnusedBackupCode hkeys hrecord
      · cases found <;> exact ⟨rfl, Event.noConfusion, Event.noConfusion⟩
      · cases found with
        | none =>
          exact traces_before (keeps_audit phase_before _ _ _ _)
            (fun _ l hl => traces_reject (keeps_logTwoFactorEvent phase_before _ _ _) hl) hl
        | some record =>
          exact traces_use (hfound record rfl) (fun _ => rfl)
            (fun _ _ h => Proc.traces_pure (Q := fun _ => After d (.backupCode userId' totpCode)) h) hl
  exact hmain.bind fun _ _ h => h

end Requests

/-! ## The law of the system -/

/-- The request presents a backup code, a reset token or a verification token. -/
def Presents : Op → Prop
  | .verifyTwoFactor _ totpCode _ => utf16Length totpCode = 8
  | .resetPassword _ _ _ _ | .verifyEmail _ _ => True
  | _ => False

/-- What it presents; a backup code goes with the user of the partial token. -/
def presented? : Op → Option Presented
  | .verifyTwoFactor (.partialAuth userId) totpCode _ =>
    if utf16Length totpCode = 8 then some (.backupCode userId totpCode) else none
  | .resetPassword rawToken _ _ _ => some (.resetToken rawToken)
  | .verifyEmail rawToken _ => some (.verificationToken rawToken)
  | _ => none

theorem presents_of_presented? {op : Op} {presented : Presented} (h : presented? op = some presented) :
    Presents op := by
  cases op with
  | verifyTwoFactor partialToken totpCode req =>
    cases partialToken with
    | partialAuth userId => exact (Option.ite_none_right_eq_some.1 h).1
    | invalid | otherType => cases h
  | resetPassword | verifyEmail => trivial
  | _ => cases h

/-- The call has used a credential for what its request presents. -/
def UsedOwn (d : World) (op : Op) (l : List (Option Event)) : Prop :=
  ∃ presented, presented? op = some presented ∧ UsedFor d presented l

theorem traces_program (cfg : Config) (d : World) {op : Op} (h : Presents op) :
    (program cfg op).Traces (SameKeys d) (fun _ => UsedOwn d op) (fun _ l => Consumed l → Disturbed l) [] := by
  have hown : ∀ {presented : Presented} {p : Call Unit}, presented? op = some presented →
      UsesOnSuccess d presented p →
      p.Traces (SameKeys d) (fun _ => UsedOwn d op) (fun _ l => Consumed l → Disturbed l) [] :=
    fun hpresented hp => hp.mono (fun _ _ h => ⟨_, hpresented, h⟩) fun _ _ h => h
  cases op with
  | verifyTwoFactor partialToken totpCode req =>
    cases partialToken with
    | partialAuth userId => exact hown (if_pos h) (usesOnSuccess_verifyTwoFactor cfg userId h req)
    | invalid | otherType => exact fun hc => absurd hc before_nil.1
  | resetPassword rawToken newPassword confirmPassword req => exact hown rfl (usesOnSuccess_resetPassword _ _ _ _)
  | verifyEmail rawToken req => exact hown rfl (usesOnSuccess_verifyEmail _ _)
  | _ => exact h.elim

section Runs

variable {cfg : Config} {d : World} {s s' : Sys World Input Event RisError} {op op' : Op} {t t' : ℕ}
  {presented : Presented}

/-- The call `t` is the request `op`, and has done nothing yet. -/
def Began (cfg : Config) (op : Op) (t : ℕ) (s : Sys World Input Event RisError) : Prop :=
  s.calls[t]? = some (some (program cfg op)) ∧ own t s.hist = []

/-- In a run in turn to `s`, the call `t` was the request `op` and came to its end with a value. -/
def Succeeded (cfg : Config) (d : World) (op : Op) (t : ℕ) (s : Sys World Input Event RisError) : Prop :=
  ∃ s₁ s₂, Reaches (program cfg) UsedInTurn (Sys.init d) s₁ ∧ Began cfg op t s₁ ∧
    Reaches (program cfg) UsedInTurn s₁ s₂ ∧ s₂.calls[t]? = some (some (.done (.ok ()))) ∧
    Reaches (program cfg) UsedInTurn s₂ s

theorem implements_moves (cfg : Config) :
    (protocol cfg (fun _ => True) fun _ _ => trivial).Implements (program cfg) := program_implements

theorem onceInv_reaches (hs : Reaches (program cfg) UsedInTurn (Sys.init d) s) : OnceInv d s.toState := by
  have hinit : OnceInv d ⟨d, []⟩ := ⟨⟨fun _ => Nat.zero_le _, fun _ => rfl⟩, fun _ => trivial⟩
  exact Protocol.invariant (implements_moves cfg) trivial
    (P := OnceInv d) hinit (fun s t e w hinv hmove => hinv.moves hmove.effect hmove.cond) hs

/-- A request succeeds after it has used a credential for what it presents, or fails before it has used
any. -/
theorem ends_in_turn (hop : Presents op) (hs : Reaches (program cfg) UsedInTurn (Sys.init d) s)
    (hbegan : Began cfg op t s) (hs' : Reaches (program cfg) UsedInTurn s s') :
    (s'.calls[t]? = some (some (.done (.ok ()))) → UsedOwn d op (own t s'.hist)) ∧
      ∀ e, s'.calls[t]? = some (some (.done (.error e))) → ¬Consumed (own t s'.hist) := by
  have hprog := implements_moves cfg
  have hquiet : ∀ u, ¬Disturbed (own u s'.hist) :=
    Protocol.invariant hprog trivial (P := fun s => ∀ u, ¬Disturbed (own u s.hist)) (fun _ h => h)
      (fun s t e w hinv hmove => not_disturbed hinv hmove.cond) (hs.trans hs')
  have hkeys : ∀ s₁, Reaches (program cfg) UsedInTurn s s₁ → SameKeys d s₁.store := fun s₁ hs₁ =>
    Protocol.invariant hprog trivial (P := fun s => SameKeys d s.store) (fun _ => rfl)
      (fun s t e w hinv hmove => hinv.moves hmove.effect) (hs.trans hs₁)
  have htraces : Proc.TracesAt t (SameKeys d) (fun _ => UsedOwn d op) (fun _ l => Consumed l → Disturbed l) s := by
    refine ⟨(List.getElem?_eq_some_iff.1 hbegan.1).1, fun p hp => ?_⟩
    rw [hbegan.1, Option.some.injEq, Option.some.injEq] at hp
    rw [← hp, hbegan.2]
    exact traces_program cfg d hop
  obtain ⟨-, hend⟩ := htraces.reaches hkeys hs'
  exact ⟨fun h => hend _ h, fun e h hconsumed => hquiet t (hend _ h hconsumed)⟩

/-- What a call has used, it has used for good. -/
theorem Succeeded.usedFor (h : Succeeded cfg d op t s) (hop : presented? op = some presented) :
    UsedFor d presented (own t s.hist) := by
  obtain ⟨s₁, s₂, hs₁, hbegan, hs₂, hok, hs⟩ := h
  obtain ⟨presented', hpresented', hused⟩ := (ends_in_turn (presents_of_presented? hop) hs₁ hbegan hs₂).1 hok
  obtain rfl := Option.some.inj (hpresented'.symm.trans hop)
  refine Protocol.persists (implements_moves cfg) trivial
    (P := fun s => UsedFor d presented' (own t s.hist)) (fun s u e w hused _ => ?_) (hs₁.trans hs₂) hused hs
  rw [State.record_hist]
  by_cases hut : u = t
  · subst hut
    rw [own_cons_self]
    exact hused.cons e
  · rwa [own_cons_of_ne hut]

/-- No two calls use one credential. -/
theorem OnceLaw.eq_of_usedFor (h : OnceLaw d s.toState) (hone : {c | key? d c = some presented}.Subsingleton)
    (ht : UsedFor d presented (own t s.hist)) (ht' : UsedFor d presented (own t' s.hist)) : t = t' := by
  obtain ⟨c, hkey, e, he, huse⟩ := ht
  obtain ⟨c', hkey', e', he', huse'⟩ := ht'
  obtain rfl : c = c' := hone hkey hkey'
  have heq : (t, e) = (t', e') := eq_of_occurrences (h.once c) (mem_own.1 he) (mem_own.1 he') huse huse'
  exact congrArg Prod.fst heq

end Runs

/-- In every run in which credentials are used in turn, each credential is used at most once, and is as it
was until then; a request that presents one succeeds only after it has used one for what it presents, and one
that fails has used none. So of the requests that present the same, if only one credential is found under it,
at most one succeeds. -/
theorem single_use (cfg : Config) (d : World) :
    (∀ s : Sys World Input Event RisError, Reaches (program cfg) UsedInTurn (Sys.init d) s →
      OnceLaw d s.toState) ∧
      (∀ (s s' : Sys World Input Event RisError) (op : Op) (t : ℕ), Presents op →
        Reaches (program cfg) UsedInTurn (Sys.init d) s → Began cfg op t s →
        Reaches (program cfg) UsedInTurn s s' →
          (s'.calls[t]? = some (some (.done (.ok ()))) → UsedOwn d op (own t s'.hist)) ∧
            ∀ e, s'.calls[t]? = some (some (.done (.error e))) → ¬Consumed (own t s'.hist)) ∧
      ∀ presented, {c | key? d c = some presented}.Subsingleton →
        ∀ (s : Sys World Input Event RisError) (op op' : Op) (t t' : ℕ), presented? op = some presented →
          presented? op' = some presented → Succeeded cfg d op t s → Succeeded cfg d op' t' s → t = t' := by
  refine ⟨fun s hs => (onceInv_reaches hs).law, fun s s' op t hop hs hbegan hs' => ends_in_turn hop hs hbegan hs',
    fun presented hone s op op' t t' hop hop' ht ht' => ?_⟩
  have hs : Reaches (program cfg) UsedInTurn (Sys.init d) s := by
    obtain ⟨s₁, s₂, hs₁, -, hs₂, -, hs⟩ := ht
    exact (hs₁.trans hs₂).trans hs
  exact (onceInv_reaches hs).law.eq_of_usedFor hone (ht.usedFor hop) (ht'.usedFor hop')

/-! ## An account with credentials -/

/-- An account with a reset token, a verification token and a backup code. -/
def withCredentials : World :=
  { oneAccount with
    passwordResetTokens := .single { id := 1, userId := 1, tokenHash := "reset", expiresAt := 1000 }
    emailVerificationTokens := .single { id := 1, userId := 1, tokenHash := "verify", expiresAt := 1000 }
    totpBackupCodes := .single { id := 1, userId := 1, codeHash := "AB12CD34" } }

def resetOp : Op := .resetPassword "reset" "Correct-Horse-1" "Correct-Horse-1" {}

/-- The reset token is the only credential that is found under it. -/
theorem subsingleton_reset : {c | key? withCredentials c = some (.resetToken "reset")}.Subsingleton := by
  have hone : ∀ c, key? withCredentials c = some (.resetToken "reset") → c = .resetToken 1 := by
    intro c hc
    cases c with
    | resetToken tokenId =>
      obtain ⟨r, hr, -⟩ := Option.map_eq_some_iff.1 hc
      obtain rfl := List.mem_singleton.1 (Table.mem_of_get? hr)
      rw [← Table.key_of_get? hr]
    | backupCode codeId =>
      obtain ⟨r, -, hr⟩ := Option.map_eq_some_iff.1 hc
      cases hr
    | verificationToken tokenId =>
      obtain ⟨r, -, hr⟩ := Option.map_eq_some_iff.1 hc
      cases hr
  exact fun c hc c' hc' => (hone c hc).trans (hone c' hc').symm

/-- The state with one more request. -/
def begin (op : Op) (s : Sys World Input Event RisError) : Sys World Input Event RisError :=
  { s with calls := s.calls ++ [some (program {} op)] }

theorem reaches_begin (op : Op) (s : Sys World Input Event RisError) :
    Reaches (program {}) UsedInTurn s (begin op s) := by
  refine .single ⟨.start op, rfl, ?_⟩
  unfold Admits
  split
  · exact fun hlt => absurd hlt (lt_irrefl _)
  · trivial

/-- The password is reset with the token, which is used once: a second request with it fails. -/
theorem used_once_in_turn :
    ∃ s : Sys World Input Event RisError,
      OnceLaw withCredentials s.toState ∧ UsedOwn withCredentials resetOp (own 0 s.hist) ∧
        ¬Consumed (own 1 s.hist) ∧ (∀ t, Succeeded {} withCredentials resetOp t s → t = 0) ∧
        usable? s.store (.resetToken 1) = none := by
  let start : Sys World Input Event RisError := Sys.init withCredentials
  have hstart : Reaches (program {}) UsedInTurn (Sys.init withCredentials) (begin resetOp start) :=
    reaches_begin resetOp start
  obtain ⟨s₁, hs₁, hP₁⟩ := exists_reaches (program {}) UsedInTurn (begin resetOp start)
    (List.replicate 5 (.move 0 {}))
    (fun s => (decide (s.calls.length = 1) && (own 1 s.hist).isEmpty) &&
      (run (program {}) UsedInTurn (begin resetOp s) [.move 1 {}]).any fun s =>
        (endsOk 0 s && endsWithError 1 s) && decide (usable? s.store (.resetToken 1) = none)) (by decide)
  simp only [Bool.and_eq_true, decide_eq_true_eq, List.isEmpty_iff] at hP₁
  obtain ⟨⟨hlength, hown⟩, hrun⟩ := hP₁
  obtain ⟨s, hs, hP⟩ := exists_reaches _ _ _ _ _ hrun
  simp only [Bool.and_eq_true, decide_eq_true_eq, endsOk_iff] at hP
  obtain ⟨⟨hok, herror⟩, husable⟩ := hP
  have hsecond : Began {} resetOp 1 (begin resetOp s₁) := by
    refine ⟨?_, hown⟩
    rw [begin, ← hlength]
    exact List.getElem?_concat_length
  have hbefore := (hstart.trans hs₁).trans (reaches_begin resetOp s₁)
  have hrest := (hs₁.trans (reaches_begin resetOp s₁)).trans hs
  obtain ⟨e, he⟩ := exists_of_endsWithError herror
  obtain ⟨honce, hrequest, hunique⟩ := single_use {} withCredentials
  have hfirst : Succeeded {} withCredentials resetOp 0 s :=
    ⟨_, s, hstart, ⟨rfl, rfl⟩, hrest, hok, .refl⟩
  exact ⟨s, honce s (hbefore.trans hs), (hrequest _ s resetOp 0 trivial hstart ⟨rfl, rfl⟩ hrest).1 hok,
    (hrequest _ s resetOp 1 trivial hbefore hsecond hs).2 e he,
    fun t ht => hunique _ subsingleton_reset s resetOp resetOp t 0 rfl rfl ht hfirst, husable⟩

/-- Two requests of `n` statements each that overlap. -/
def overlapping (op : Op) (n : ℕ) : List (Act Op Input) :=
  [.start op, .start op] ++ (List.replicate n [.move 0 { uuid := 1 }, .move 1 { uuid := 2 }]).flatten

/-- Two requests succeed with one reset token, with one verification token and with one backup code; and a
reset that fails in Redis has used its token. -/
theorem used_twice :
    (∀ x ∈ [(resetOp, 5, Credential.resetToken 1), (.verifyEmail "verify" {}, 3, .verificationToken 1),
        (.verifyTwoFactor (.partialAuth 1) "AB12CD34" {}, 15, .backupCode 1)],
      ∃ s : Sys World Input Event RisError,
        Reaches (program {}) always (Sys.init withCredentials) s ∧
          s.calls[0]? = some (some (.done (.ok ()))) ∧ s.calls[1]? = some (some (.done (.ok ()))) ∧
          occurrences (uses x.2.2) s.hist = 2) ∧
      ∃ s : Sys World Input Event RisError,
        Reaches (program {}) always (Sys.init withCredentials) s ∧
          (∃ e, s.calls[0]? = some (some (.done (.error e)))) ∧ Consumed (own 0 s.hist) := by
  constructor
  · intro x hx
    have hrun : (run (program {}) always (Sys.init withCredentials : Sys World Input Event RisError)
        (overlapping x.1 x.2.1)).any
          (fun s => (endsOk 0 s && endsOk 1 s) && decide (occurrences (uses x.2.2) s.hist = 2)) = true := by
      revert x
      decide
    obtain ⟨s, hs, hP⟩ := exists_reaches _ _ _ _ _ hrun
    simp only [Bool.and_eq_true, decide_eq_true_eq, endsOk_iff] at hP
    exact ⟨s, hs, hP.1.1, hP.1.2, hP.2⟩
  · obtain ⟨s, hs, hP⟩ := exists_reaches (program {}) always (Sys.init withCredentials)
      (.start resetOp :: [{}, {}, {}, { fault := some "Connection is closed." }].map (.move 0))
      (fun s => endsWithError 0 s && decide (Consumed (own 0 s.hist))) (by decide)
    obtain ⟨hend, hconsumed⟩ := Bool.and_eq_true_iff.1 hP
    exact ⟨s, hs, exists_of_endsWithError hend, of_decide_eq_true hconsumed⟩

end Ris.Auth
