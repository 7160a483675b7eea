import RisPlatform.Auth.Protocol
import RisPlatform.Common.Histories

/-!
# The rotation of refresh tokens

A refresh asks the blocklist for the token, and puts its key there a few statements later. The key is the
session and the second of issue. Refreshes that overlap may all find no key; and a token that is issued
within the second of the one it replaces has a key that is on the blocklist before its first use.
-/

namespace Ris.Auth

open Relational Concurrent

/-! ## The law -/

/-- The token was accepted. -/
def accepts (token : RefreshToken) : Option Event → Bool
  | some (.tokenBlocked used _ _) => used = token
  | _ => false

/-- A token was issued in exchange for this one. -/
def exchanges (token : RefreshToken) : Option Event → Bool
  | some (.tokenRotated used _) => used = token
  | _ => false

/-- The token has been accepted since it was last issued. -/
def spent (token : RefreshToken) : List (ℕ × Option Event) → Bool
  | [] => false
  | (_, some (.tokenBlocked used _ _)) :: earlier => used = token || spent token earlier
  | (_, some (.tokenIssued issued)) :: earlier => issued ≠ token && spent token earlier
  | (_, some (.tokenRotated _ issued)) :: earlier => issued ≠ token && spent token earlier
  | _ :: earlier => spent token earlier

/-- The blocklist refuses a token only if it has been accepted since it was issued. -/
def FreshLaw : List (ℕ × Option Event) → Prop
  | [] => True
  | (_, e) :: earlier =>
    (∀ token now, e = some (.blocklistChecked token true now) → spent token earlier = true) ∧
      FreshLaw earlier

/-- No token is accepted twice or exchanged twice, and none is refused before it was accepted. -/
structure RotationLaw (hist : List (ℕ × Option Event)) : Prop where
  accepted : ∀ token, occurrences (accepts token) hist ≤ 1
  exchanged : ∀ token, occurrences (exchanges token) hist ≤ 1
  fresh : FreshLaw hist

/-! ## The condition -/

/-- The blocklist did not have the key of the token. -/
def passes (token : RefreshToken) : Option Event → Bool
  | some (.blocklistChecked asked false _) => asked = token
  | _ => false

/-- The blocklist has the key of the token, expired or not. -/
def HasKey (token : RefreshToken) (w : World) : Prop := ∃ b ∈ w.refreshBlocklist, isFor token b = true

instance (token : RefreshToken) (w : World) : Decidable (HasKey token w) := by
  unfold HasKey
  infer_instance

/-- A token is looked up before its key expires; it is put on the blocklist before it expires, when no
other refresh has put it there since it was looked up; a new session has a new id; and a token is issued
in a second whose key is not on the blocklist. -/
def RefreshedInTurn : Cond World Event := fun s t e =>
  match e with
  | .blocklistChecked token _ now =>
    ∀ b ∈ s.store.refreshBlocklist, isFor token b = true → now < b.expiresAt
  | .tokenBlocked token _ now =>
    now / 1000 < token.exp ∧ ∀ x ∈ sinceCheck t (passes token) s.hist, accepts token x.2 = false
  | .tokenIssued issued => ∀ token ∈ s.store.signedTokens, token.sessionId ≠ issued.sessionId
  | .tokenRotated _ rotated => ¬HasKey rotated s.store
  | _ => True

instance (s : State World Event) (t : ℕ) (e : Event) : Decidable (RefreshedInTurn s t e) := by
  unfold RefreshedInTurn
  split <;> infer_instance

/-! ## The tokens and their keys -/

theorem isFor_iff {token : RefreshToken} {b : BlockedToken} :
    isFor token b = true ↔ b.sessionId = token.sessionId ∧ b.iat = token.iat :=
  decide_eq_true_iff

/-- The keys after one more token was put on the blocklist. -/
theorem hasKey_blockToken {token used : RefreshToken} {expiresAt : ℤ} {w : World} :
    HasKey token (blockToken used expiresAt w) ↔
      HasKey token w ∨ used.sessionId = token.sessionId ∧ used.iat = token.iat := by
  constructor
  · rintro ⟨b, hb, hfor⟩
    rcases List.mem_append.1 hb with hold | hnew
    · exact Or.inl ⟨b, List.mem_of_mem_filter hold, hfor⟩
    · obtain rfl := List.mem_singleton.1 hnew
      exact Or.inr (isFor_iff.1 hfor)
  · intro h
    by_cases hused : used.sessionId = token.sessionId ∧ used.iat = token.iat
    · exact ⟨_, List.mem_append_right _ (List.mem_singleton.2 rfl), isFor_iff.2 hused⟩
    · obtain ⟨b, hb, hfor⟩ := h.resolve_right hused
      refine ⟨b, List.mem_append_left _ (List.mem_filter.2 ⟨hb, ?_⟩), hfor⟩
      -- the entry is not in the way, for it is that of another key
      rw [Bool.not_eq_true', Bool.eq_false_iff]
      intro hsame
      rw [isFor_iff] at hfor hsame
      exact hused ⟨hsame.1.symm.trans hfor.1, hsame.2.symm.trans hfor.2⟩

/-- Before a key expires, the blocklist is found to have it. -/
theorem isBlocked_iff {token : RefreshToken} {now : ℤ} {w : World}
    (hlive : ∀ b ∈ w.refreshBlocklist, isFor token b = true → now < b.expiresAt) :
    isBlocked token now w = true ↔ HasKey token w := by
  rw [isBlocked, List.any_eq_true]
  constructor
  · rintro ⟨b, hb, h⟩
    exact ⟨b, hb, (of_decide_eq_true h).1⟩
  · rintro ⟨b, hb, hfor⟩
    exact ⟨b, hb, decide_eq_true ⟨hfor, hlive b hb hfor⟩⟩

/-- A token is known by its key, and the blocklist has keys of tokens alone. -/
structure Registered (cfg : Config) (w : World) : Prop where
  lifetime : ∀ token ∈ w.signedTokens, token.exp = token.iat + cfg.refreshTokenSeconds
  owner : ∀ a ∈ w.signedTokens, ∀ b ∈ w.signedTokens, a.sessionId = b.sessionId → a.userId = b.userId
  keys : ∀ b ∈ w.refreshBlocklist, ∃ token ∈ w.signedTokens, isFor token b = true

section Registered

variable {cfg : Config} {w w' : World}

theorem Registered.eq_of_key (h : Registered cfg w) {a b : RefreshToken} (ha : a ∈ w.signedTokens)
    (hb : b ∈ w.signedTokens) (hsession : a.sessionId = b.sessionId) (hiat : a.iat = b.iat) : a = b := by
  have huser := h.owner a ha b hb hsession
  have hexp : a.exp = b.exp := by rw [h.lifetime a ha, h.lifetime b hb, hiat]
  cases a
  cases b
  simp_all

theorem Registered.congr (h : Registered cfg w) (hsigned : w'.signedTokens = w.signedTokens)
    (hblocked : w'.refreshBlocklist = w.refreshBlocklist) : Registered cfg w' := by
  refine ⟨?_, ?_, ?_⟩
  · rw [hsigned]
    exact h.lifetime
  · rw [hsigned]
    exact h.owner
  · rw [hsigned, hblocked]
    exact h.keys

/-- One more token is signed, for a session that has no token yet or is that of the user. -/
theorem Registered.sign (h : Registered cfg w) {userId sessionId : ℕ} {now : ℤ}
    (howner : ∀ token ∈ w.signedTokens, token.sessionId = sessionId → token.userId = userId)
    (hsigned : w'.signedTokens = w.signedTokens ++ [buildRefreshToken cfg userId sessionId now])
    (hblocked : w'.refreshBlocklist = w.refreshBlocklist) : Registered cfg w' := by
  refine ⟨fun token htoken => ?_, fun a ha b hb hsession => ?_, fun b hb => ?_⟩
  · rw [hsigned] at htoken
    rcases List.mem_append.1 htoken with hold | hnew
    · exact h.lifetime token hold
    · obtain rfl := List.mem_singleton.1 hnew
      rfl
  · rw [hsigned] at ha hb
    rcases List.mem_append.1 ha with holda | hnewa
    · rcases List.mem_append.1 hb with holdb | hnewb
      · exact h.owner a holda b holdb hsession
      · obtain rfl := List.mem_singleton.1 hnewb
        exact howner a holda hsession
    · obtain rfl := List.mem_singleton.1 hnewa
      rcases List.mem_append.1 hb with holdb | hnewb
      · exact (howner b holdb hsession.symm).symm
      · obtain rfl := List.mem_singleton.1 hnewb
        rfl
  · rw [hblocked] at hb
    obtain ⟨token, htoken, hfor⟩ := h.keys b hb
    rw [hsigned]
    exact ⟨token, List.mem_append_left _ htoken, hfor⟩

/-- A signed token is put on the blocklist. -/
theorem Registered.block (h : Registered cfg w) {token : RefreshToken} (htoken : token ∈ w.signedTokens)
    (expiresAt : ℤ) : Registered cfg (blockToken token expiresAt w) := by
  refine ⟨h.lifetime, h.owner, fun b hb => ?_⟩
  rcases List.mem_append.1 hb with hold | hnew
  · exact h.keys b (List.mem_of_mem_filter hold)
  · obtain rfl := List.mem_singleton.1 hnew
    exact ⟨token, htoken, isFor_iff.2 ⟨rfl, rfl⟩⟩

end Registered

/-! ## The marks -/

/-- To find no key is not to accept. -/
theorem not_accepts_of_passes {token : RefreshToken} {e : Option Event} (h : passes token e = true) :
    accepts token e = false := by
  unfold passes at h
  split at h
  next => rfl
  next => cases h

/-- The blocklist and the history agree. -/
structure Marks (cfg : Config) (s : State World Event) : Prop where
  registered : Registered cfg s.store
  marked : ∀ token, ∀ x ∈ s.hist, accepts token x.2 = true → HasKey token s.store
  checked : ∀ token, CheckedFirst (passes token) (accepts token) s.hist
  spent : ∀ token ∈ s.store.signedTokens, HasKey token s.store → spent token s.hist = true
  exchanger : ∀ token, ∀ x ∈ s.hist, exchanges token x.2 = true →
    ∃ y ∈ s.hist, y.1 = x.1 ∧ accepts token y.2 = true
  law : RotationLaw s.hist

section Marks

variable {cfg : Config} {s : State World Event} {t : ℕ} {e : Option Event} {w : World}

/-- What happens to the marks when no token is accepted or exchanged. -/
theorem Marks.frame (hs : Marks cfg s) (hregistered : Registered cfg w)
    (hkeys : ∀ token, HasKey token s.store → HasKey token w)
    (haccepts : ∀ token, accepts token e = false) (hexchanges : ∀ token, exchanges token e = false)
    (hpasses : ∀ token, passes token e = true → ∀ x ∈ s.hist, accepts token x.2 = false)
    (hfresh : ∀ token now, e = some (.blocklistChecked token true now) → Auth.spent token s.hist = true)
    (hspent : ∀ token ∈ w.signedTokens, HasKey token w → Auth.spent token ((t, e) :: s.hist) = true) :
    Marks cfg (s.record t e w) where
  registered := hregistered
  marked := by
    intro token x hx hacc
    rcases List.mem_cons.1 hx with rfl | hx
    · exact absurd hacc (Bool.eq_false_iff.1 (haccepts token))
    · exact hkeys token (hs.marked token x hx hacc)
  checked := fun token => ⟨hpasses token, hs.checked token⟩
  spent := hspent
  exchanger := by
    intro token x hx hexch
    rcases List.mem_cons.1 hx with rfl | hx
    · exact absurd hexch (Bool.eq_false_iff.1 (hexchanges token))
    · obtain ⟨y, hy, hyx, hacc⟩ := hs.exchanger token x hx hexch
      exact ⟨y, List.mem_cons_of_mem _ hy, hyx, hacc⟩
  law := by
    refine ⟨fun token => ?_, fun token => ?_, hfresh, hs.law.fresh⟩
    · rw [State.record_hist, occurrences_cons_of_not (haccepts token)]
      exact hs.law.accepted token
    · rw [State.record_hist, occurrences_cons_of_not (hexchanges token)]
      exact hs.law.exchanged token

/-- A statement that has nothing to do with tokens. -/
theorem Marks.idle (hs : Marks cfg s) (hsigned : w.signedTokens = s.store.signedTokens)
    (hblocked : w.refreshBlocklist = s.store.refreshBlocklist)
    (haccepts : ∀ token, accepts token e = false) (hexchanges : ∀ token, exchanges token e = false)
    (hpasses : ∀ token, passes token e = false)
    (hfresh : ∀ token now, e ≠ some (.blocklistChecked token true now))
    (hspent : ∀ token, Auth.spent token ((t, e) :: s.hist) = Auth.spent token s.hist) :
    Marks cfg (s.record t e w) := by
  have hkey : ∀ token, HasKey token w ↔ HasKey token s.store :=
    fun token => by rw [HasKey, hblocked, HasKey]
  refine hs.frame (hs.registered.congr hsigned hblocked) (fun token => (hkey token).2) haccepts hexchanges
    (fun token h => absurd h (Bool.eq_false_iff.1 (hpasses token))) (fun token now h => absurd h (hfresh token now))
    fun token htoken h => ?_
  rw [hsigned] at htoken
  rw [hspent]
  exact hs.spent token htoken ((hkey token).1 h)

/-- The blocklist is asked for a token, and none of the token's keys has expired. -/
theorem Marks.check (hs : Marks cfg s) {token : RefreshToken} {now : ℤ}
    (htoken : token ∈ s.store.signedTokens)
    (hlive : ∀ b ∈ s.store.refreshBlocklist, isFor token b = true → now < b.expiresAt) :
    Marks cfg (s.record t (some (.blocklistChecked token (isBlocked token now s.store) now)) s.store) := by
  have hiff := isBlocked_iff hlive
  cases hblocked : isBlocked token now s.store with
  | true =>
    refine hs.frame hs.registered (fun _ h => h) (fun _ => rfl) (fun _ => rfl)
      (fun _ hpass => absurd hpass Bool.false_ne_true) (fun asked at' heq => ?_) hs.spent
    obtain ⟨rfl, -, -⟩ := Event.blocklistChecked.inj (Option.some.inj heq)
    exact hs.spent token htoken (hiff.1 hblocked)
  | false =>
    refine hs.frame hs.registered (fun _ h => h) (fun _ => rfl) (fun _ => rfl) (fun asked hpass x hx => ?_)
      (fun asked at' heq => ?_) hs.spent
    · -- an acceptance would have left a key
      obtain rfl : token = asked := of_decide_eq_true hpass
      refine Bool.eq_false_iff.2 fun hacc => ?_
      rw [hiff.2 (hs.marked token x hx hacc)] at hblocked
      cases hblocked
    · cases heq

/-- A token is accepted that has not been accepted before. -/
theorem Marks.accept (hs : Marks cfg s) {token : RefreshToken} {now expiresAt : ℤ}
    (htoken : token ∈ s.store.signedTokens) (hnew : ∀ x ∈ s.hist, accepts token x.2 = false) :
    Marks cfg (s.record t (some (.tokenBlocked token true now)) (blockToken token expiresAt s.store)) where
  registered := hs.registered.block htoken expiresAt
  marked := by
    intro used x hx hacc
    rcases List.mem_cons.1 hx with rfl | hx
    · obtain rfl : token = used := of_decide_eq_true hacc
      exact hasKey_blockToken.2 (Or.inr ⟨rfl, rfl⟩)
    · exact hasKey_blockToken.2 (Or.inl (hs.marked used x hx hacc))
  checked := fun used => ⟨fun hpass => absurd hpass Bool.false_ne_true, hs.checked used⟩
  spent := by
    intro used hused hkey
    show (decide (token = used) || Auth.spent used s.hist) = true
    rw [Bool.or_eq_true, decide_eq_true_eq]
    rcases hasKey_blockToken.1 hkey with hold | ⟨hsession, hiat⟩
    · exact Or.inr (hs.spent used hused hold)
    · exact Or.inl (hs.registered.eq_of_key htoken hused hsession hiat)
  exchanger := by
    intro used x hx hexch
    rcases List.mem_cons.1 hx with rfl | hx
    · cases hexch
    · obtain ⟨y, hy, hyx, hacc⟩ := hs.exchanger used x hx hexch
      exact ⟨y, List.mem_cons_of_mem _ hy, hyx, hacc⟩
  law := by
    refine ⟨fun used => ?_, fun used => ?_, fun _ _ heq => ?_, hs.law.fresh⟩
    · by_cases hused : token = used
      · subst hused
        exact occurrences_cons_of_none hnew _
      · rw [State.record_hist, occurrences_cons_of_not (decide_eq_false hused)]
        exact hs.law.accepted used
    · rw [State.record_hist, occurrences_cons_of_not rfl]
      exact hs.law.exchanged used
    · cases heq

/-- A token is spent as before when another is issued. -/
theorem Marks.spent_of_issued (hs : Marks cfg s) {issued token : RefreshToken}
    (hissued : ¬HasKey issued s.store) (htoken : token ∈ s.store.signedTokens ++ [issued])
    (hkey : HasKey token s.store) : (decide (issued ≠ token) && Auth.spent token s.hist) = true := by
  have hne : issued ≠ token := by
    rintro rfl
    exact hissued hkey
  rw [Bool.and_eq_true, decide_eq_true_eq]
  refine ⟨hne, ?_⟩
  rcases List.mem_append.1 htoken with hold | hnew
  · exact hs.spent token hold hkey
  · exact absurd (List.mem_singleton.1 hnew).symm hne

/-- The first token of a new session. -/
theorem Marks.issue (hs : Marks cfg s) {userId sessionId : ℕ} {now : ℤ}
    (hnew : ∀ token ∈ s.store.signedTokens, token.sessionId ≠ sessionId) :
    Marks cfg (s.record t (some (.tokenIssued (buildRefreshToken cfg userId sessionId now)))
      { s.store with
        signedTokens := s.store.signedTokens ++ [buildRefreshToken cfg userId sessionId now] }) := by
  have hkey : ¬HasKey (buildRefreshToken cfg userId sessionId now) s.store := by
    rintro ⟨b, hb, hfor⟩
    obtain ⟨token, htoken, hfor'⟩ := hs.registered.keys b hb
    exact hnew token htoken ((isFor_iff.1 hfor').1.symm.trans (isFor_iff.1 hfor).1)
  refine hs.frame (hs.registered.sign (fun token htoken h => absurd h (hnew token htoken)) rfl rfl)
    (fun _ h => h) (fun _ => rfl) (fun _ => rfl) (fun _ hpass => absurd hpass Bool.false_ne_true)
    (fun _ _ heq => by cases heq) fun token htoken h => ?_
  exact hs.spent_of_issued hkey htoken h

/-- A token is exchanged by the call that put it on the blocklist, which has not exchanged it yet. -/
theorem Marks.exchange (hs : Marks cfg s) {token : RefreshToken} {stored : Bool} {now blocked : ℤ}
    (htoken : token ∈ s.store.signedTokens)
    (hblocked : some (.tokenBlocked token stored blocked) ∈ own t s.hist)
    (hfirst : ∀ rotated, some (.tokenRotated token rotated) ∉ own t s.hist)
    (hkey : ¬HasKey (buildRefreshToken cfg token.userId token.sessionId now) s.store) :
    Marks cfg (s.record t
      (some (.tokenRotated token (buildRefreshToken cfg token.userId token.sessionId now)))
      { s.store with
        signedTokens := s.store.signedTokens ++
          [buildRefreshToken cfg token.userId token.sessionId now] }) := by
  have hmem : (t, some (Event.tokenBlocked token stored blocked)) ∈ s.hist := mem_own.1 hblocked
  have hacc : accepts token (some (.tokenBlocked token stored blocked)) = true := decide_eq_true rfl
  -- an exchange before this one was by the same call, for the token was accepted once
  have hnone : ∀ x ∈ s.hist, exchanges token x.2 = false := by
    intro x hx
    refine Bool.eq_false_iff.2 fun hexch => ?_
    obtain ⟨y, hy, hyx, hyacc⟩ := hs.exchanger token x hx hexch
    obtain rfl := eq_of_occurrences (hs.law.accepted token) hy hmem hyacc hacc
    obtain ⟨u, e⟩ := x
    obtain rfl : t = u := hyx
    unfold exchanges at hexch
    split at hexch
    next used rotated heq =>
      obtain rfl : used = token := of_decide_eq_true hexch
      obtain rfl : e = some (.tokenRotated used rotated) := heq
      exact hfirst rotated (mem_own.2 hx)
    next => cases hexch
  refine ⟨hs.registered.sign (fun a ha hsession => hs.registered.owner a ha token htoken hsession) rfl rfl,
    fun used x hx hused => ?_,
    fun used => ⟨fun hpass => absurd hpass Bool.false_ne_true, hs.checked used⟩,
    fun used hused h => hs.spent_of_issued hkey hused h, fun used x hx hexch => ?_, ?_⟩
  · rcases List.mem_cons.1 hx with rfl | hx
    · cases hused
    · exact hs.marked used x hx hused
  · rcases List.mem_cons.1 hx with rfl | hx
    · obtain rfl : token = used := of_decide_eq_true hexch
      exact ⟨_, List.mem_cons_of_mem _ hmem, rfl, hacc⟩
    · obtain ⟨y, hy, hyx, hyacc⟩ := hs.exchanger used x hx hexch
      exact ⟨y, List.mem_cons_of_mem _ hy, hyx, hyacc⟩
  · refine ⟨fun used => ?_, fun used => ?_, fun _ _ heq => (by cases heq), hs.law.fresh⟩
    · rw [State.record_hist, occurrences_cons_of_not rfl]
      exact hs.law.accepted used
    · by_cases hused : token = used
      · subst hused
        exact occurrences_cons_of_none hnone _
      · rw [State.record_hist, occurrences_cons_of_not (decide_eq_false hused)]
        exact hs.law.exchanged used

/-- A statement that is in turn keeps the marks. -/
theorem Marks.moves (hs : Marks cfg s) (h : Moves cfg s t e w)
    (hcond : ∀ event, e = some event → RefreshedInTurn s t event) : Marks cfg (s.record t e w) := by
  cases e with
  | none =>
    obtain rfl : w = s.store := h
    exact hs.idle rfl rfl (fun _ => rfl) (fun _ => rfl) (fun _ => rfl) (fun _ _ heq => by cases heq)
      fun _ => rfl
  | some e =>
    have hcond := hcond e rfl
    rcases h with h | ⟨hgeneral, hleaves⟩
    · cases h with
      | blocklistChecked token now hsigned => exact hs.check hsigned hcond
      | tokenExpired token now checked hsigned hchecked hexpired => exact absurd hcond.1 (by omega)
      | tokenBlocked token now checked hsigned hchecked hlive =>
        have hpass : passes token (some (.blocklistChecked token false checked)) = true :=
          decide_eq_true rfl
        exact hs.accept hsigned ((hs.checked token).not_acted (fun _ => not_accepts_of_passes)
          ⟨_, mem_own.1 hchecked, rfl, hpass⟩ hcond.2)
      | tokenIssued userId sessionId now hcreated => exact hs.issue hcond
      | tokenRotated token stored now blocked hsigned hblocked hfirst =>
        exact hs.exchange hsigned hblocked hfirst hcond
      | read | lockChecked | passwordCompared | loginFailureRecorded | failedLoginReset
      | loginHistoryCreated | sessionCreated | sessionDeleted | backupCodeFound | backupCodeUsed
      | resetTokenFound | passwordReset | passwordChanged | verificationTokenFound | emailVerified =>
        exact hs.idle rfl rfl (fun _ => rfl) (fun _ => rfl) (fun _ => rfl) (fun _ _ heq => by cases heq)
          fun _ => rfl
    · refine hs.idle hleaves.signedTokens hleaves.refreshBlocklist ?_ ?_ ?_ ?_ ?_
      · cases e <;> first | exact fun _ => rfl | cases hgeneral
      · cases e <;> first | exact fun _ => rfl | cases hgeneral
      · cases e <;> first | exact fun _ => rfl | cases hgeneral
      · rintro token now ⟨⟩
        cases hgeneral
      · cases e <;> first | exact fun _ => rfl | cases hgeneral

end Marks

/-- In every run of refreshes in turn, no token is accepted or exchanged twice, and none is refused as
used before it was. -/
theorem refresh_rotation (cfg : Config) (d : World) (hd : d.signedTokens = [] ∧ d.refreshBlocklist = [])
    (s : Sys World Input Event RisError) (hs : Reaches (program cfg) RefreshedInTurn (Sys.init d) s) :
    RotationLaw s.hist := by
  have hprog : (protocol cfg (fun _ => True) fun _ _ => trivial).Implements (program cfg) :=
    program_implements
  have hnone : ∀ token, ¬HasKey token d := by
    rintro token ⟨b, hb, -⟩
    rw [hd.2] at hb
    exact absurd hb List.not_mem_nil
  have hinit : Marks cfg ⟨d, []⟩ := by
    refine ⟨⟨?_, ?_, ?_⟩, fun _ _ hx => absurd hx List.not_mem_nil, fun _ => trivial,
      fun token _ h => absurd h (hnone token), fun _ _ hx => absurd hx List.not_mem_nil,
      fun _ => Nat.zero_le _, fun _ => Nat.zero_le _, trivial⟩
    · rw [hd.1]
      exact fun _ h => absurd h List.not_mem_nil
    · rw [hd.1]
      exact fun _ h => absurd h List.not_mem_nil
    · rw [hd.2]
      exact fun _ h => absurd h List.not_mem_nil
  exact (Protocol.invariant hprog trivial (P := Marks cfg) hinit
    (fun s t e w hmarks hmove => hmarks.moves hmove.effect hmove.cond) hs).law

/-! ## A session -/

/-- The token of the session that is issued in this second. -/
def tokenAt (second : ℤ) : RefreshToken := buildRefreshToken {} 1 0 (second * 1000)

/-- A login, and a refresh in each of the two seconds after it. -/
theorem refresh_in_turn :
    ∃ s : Sys World Input Event RisError,
      (2, some (.tokenRotated (tokenAt 1) (tokenAt 2))) ∈ s.hist ∧ RotationLaw s.hist := by
  obtain ⟨s, hs, hP⟩ := exists_reaches (program {}) RefreshedInTurn (Sys.init oneAccount)
    (aloneAt (.login "a@ris.ug" "right" {}) 0 13 0 ++
      aloneAt (.refreshAccessToken (tokenAt 0) {}) 1 6 1000 ++
      aloneAt (.refreshAccessToken (tokenAt 1) {}) 2 6 2000)
    (fun s => (2, some (.tokenRotated (tokenAt 1) (tokenAt 2))) ∈ s.hist) (by decide)
  exact ⟨s, of_decide_eq_true hP, refresh_rotation {} oneAccount ⟨rfl, rfl⟩ s hs⟩

/-- Two refreshes ask the blocklist before either puts the token there, and exchange it twice; and a token
that is issued in the second of the one it replaces is refused before it was accepted. -/
theorem rotation_broken :
    (∃ s : Sys World Input Event RisError,
      Reaches (program {}) always (Sys.init oneAccount) s ∧
        occurrences (exchanges (tokenAt 0)) s.hist = 2) ∧
      ∃ s s' : Sys World Input Event RisError,
        Reaches (program {}) always (Sys.init oneAccount) s ∧ Step (program {}) always s s' ∧
          (1, some (.tokenRotated (tokenAt 0) (tokenAt 0))) ∈ s.hist ∧
          s'.hist = (2, some (.blocklistChecked (tokenAt 0) true 500)) :: s.hist ∧
          spent (tokenAt 0) s.hist = false := by
  constructor
  · obtain ⟨s, hs, hP⟩ := exists_reaches (program {}) always (Sys.init oneAccount)
      (aloneAt (.login "a@ris.ug" "right" {}) 0 13 0 ++
        [.start (.refreshAccessToken (tokenAt 0) {}), .start (.refreshAccessToken (tokenAt 0) {})] ++
        (List.range 6).flatMap fun _ => [.move 1 { now := 1000 }, .move 2 { now := 1000 }])
      (fun s => occurrences (exchanges (tokenAt 0)) s.hist = 2) (by decide)
    exact ⟨s, hs, of_decide_eq_true hP⟩
  · obtain ⟨s, s', hs, hstep, hP⟩ := exists_step (program {}) always (Sys.init oneAccount)
      (aloneAt (.login "a@ris.ug" "right" {}) 0 13 0 ++
        aloneAt (.refreshAccessToken (tokenAt 0) {}) 1 6 0 ++
        [.start (.refreshAccessToken (tokenAt 0) {}), .move 2 { now := 500 }])
      (.move 2 { now := 500 })
      (fun s s' => (1, some (.tokenRotated (tokenAt 0) (tokenAt 0))) ∈ s.hist ∧
        s'.hist = (2, some (.blocklistChecked (tokenAt 0) true 500)) :: s.hist ∧
        spent (tokenAt 0) s.hist = false) (by decide)
    exact ⟨s, s', hs, hstep, of_decide_eq_true hP⟩

end Ris.Auth
