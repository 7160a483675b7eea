import RisPlatform.Common.Histories
import RisPlatform.Onboarding.Registration

/-!
# Who is admitted

The tables of the registration only grow: the acts of a history say which questionnaires, accounts, suppliers and
tokens there are, and each entry says what its call had found before.

So every supplier has passed the checks, though they are made before the transaction (`registration_admitted`), and
no address is verified but by a token that was issued to its own account and mailed there
(`verified_by_own_token`).
-/

namespace Ris.Onboarding.Registration

open Relational Concurrent Utf16 Eligibility

/-! ## What a history leaves -/

/-- A history, newest first. -/
abbrev Hist : Type := Db.History RegistrationAct

def actOf : Option (Did RegistrationAct) → Option RegistrationAct
  | some (.own a) => some a
  | _ => none

/-- What `f` takes from the acts, oldest first. -/
def acts {α : Type} (f : RegistrationAct → Option α) (hist : Hist) : List α :=
  hist.reverse.filterMap fun x => (actOf x.2).bind f

def recorded? : RegistrationAct → Option EligibilityCheck
  | .eligibilityRecorded check => some check
  | _ => none

def registered? : RegistrationAct → Option (UserRow × SupplierRow)
  | .supplierRegistered user supplier => some (user, supplier)
  | _ => none

def issued? : RegistrationAct → Option VerificationToken
  | .tokenIssued token _ => some token
  | _ => none

/-- A token without the time of its use. -/
def blank (token : VerificationToken) : VerificationToken := { token with verifiedAt := none }

/-- The accounts of the audit rows of registrations, with their suppliers. -/
def registrations (logs : List AuditLog) : List (Option ℕ × Json) :=
  (logs.filter fun x => x.action = "SUPPLIER_REGISTERED").map fun x => (x.userId, x.recordId)

/-- Rows are only added, by the acts of the history; what is updated is only whether an address is verified, and
whether a token is used. -/
structure Grown (d : Db RegistrationRows) (hist : Hist) (r : RegistrationRows × List AuditLog) : Prop where
  checks : r.1.checks.rows = d.rows.checks.rows ++ acts recorded? hist
  users : r.1.users.table.rows.map setVerified =
    (d.rows.users.table.rows ++ (acts registered? hist).map Prod.fst).map setVerified
  suppliers : r.1.suppliers.table.rows = d.rows.suppliers.table.rows ++ (acts registered? hist).map Prod.snd
  tokens : r.1.tokens.rows.map blank = (d.rows.tokens.rows ++ acts issued? hist).map blank
  audits : registrations r.2 =
    registrations d.auditLogs ++ (acts registered? hist).map fun x => (some x.1.id, .id x.2.id)

section Grown

variable {env : RegistrationEnv} {screening : Screening} {d : Db RegistrationRows} {hist : Hist} {t : ℕ}
  {r r' : RegistrationRows × List AuditLog} {a : RegistrationAct} {o : Option (Did RegistrationAct)}
  {l : Db.Deeds RegistrationAct}

theorem acts_cons {α : Type} (f : RegistrationAct → Option α) (t : ℕ) (o : Option (Did RegistrationAct))
    (hist : Hist) : acts f ((t, o) :: hist) = acts f hist ++ ((actOf o).bind f).toList := by
  rw [acts, List.reverse_cons, List.filterMap_append, ← acts, List.filterMap_cons, List.filterMap_nil]
  cases (actOf o).bind f <;> rfl

theorem acts_own {α : Type} (f : RegistrationAct → Option α) (t : ℕ) (a : RegistrationAct) (hist : Hist) :
    acts f ((t, some (.own a)) :: hist) = acts f hist ++ (f a).toList := acts_cons f t (some (.own a)) hist

theorem Users.insert?_ok {users users' : Users} {u : UserRow} (h : users.insert? u = .ok users') :
    users.table.insert? u = some users'.table := by
  unfold Users.insert? at h
  split at h
  · cases h
  · next table htable =>
    split at h
    · obtain rfl := Except.ok.inj h
      exact htable
    · cases h

theorem Suppliers.insert?_ok {suppliers suppliers' : Suppliers} {x : SupplierRow}
    (h : suppliers.insert? x = .ok suppliers') : suppliers.table.insert? x = some suppliers'.table := by
  unfold Suppliers.insert? at h
  split at h
  · cases h
  · next table htable =>
    split at h
    · split at h
      · obtain rfl := Except.ok.inj h
        exact htable
      · cases h
    · cases h

/-- An update that `g` does not see. -/
theorem map_update {ρ κ β : Type} [DecidableEq κ] {key : ρ → κ} (T : Table key) (p : ρ → Bool) {f : ρ → ρ}
    (hf : ∀ x, key (f x) = key x) {g : ρ → β} (hg : ∀ x, g (f x) = g x) :
    (T.update p f hf).rows.map g = T.rows.map g := by
  rw [Table.rows_update, List.map_map]
  refine List.map_congr_left fun x _ => ?_
  rw [Function.comp_apply]
  split
  · exact hg x
  · rfl

theorem registrations_append (logs : List AuditLog) (entry : AuditLog) :
    registrations (logs ++ [entry]) =
      registrations logs ++ if entry.action = "SUPPLIER_REGISTERED" then [(entry.userId, entry.recordId)] else [] := by
  rw [registrations, List.filter_append, List.map_append, ← registrations]
  split <;> simp_all

/-- What one act adds to the rows. -/
structure Adds (a : RegistrationAct) (r r' : RegistrationRows × List AuditLog) : Prop where
  checks : r'.1.checks.rows = r.1.checks.rows ++ (recorded? a).toList
  users : r'.1.users.table.rows.map setVerified =
    r.1.users.table.rows.map setVerified ++ ((registered? a).toList.map Prod.fst).map setVerified
  suppliers : r'.1.suppliers.table.rows = r.1.suppliers.table.rows ++ (registered? a).toList.map Prod.snd
  tokens : r'.1.tokens.rows.map blank = r.1.tokens.rows.map blank ++ (issued? a).toList.map blank
  audits : registrations r'.2 =
    registrations r.2 ++ (registered? a).toList.map fun x => (some x.1.id, .id x.2.id)

theorem adds_of_effect (he : RegistrationEffect env screening l r a r') : Adds a r r' := by
  have hnone : ∀ {β : Type} (rows : List β), rows = rows ++ [] := fun rows => (List.append_nil rows).symm
  cases he with
  | eligibilityRecorded check checks hgraded hinsert =>
    exact ⟨Table.rows_insert? hinsert, hnone _, hnone _, hnone _, hnone _⟩
  | eligibilityRead | userRead | tokenRead => exact ⟨hnone _, hnone _, hnone _, hnone _, hnone _⟩
  | supplierRegistered user supplier users suppliers req hchecked huser hsupplier =>
    refine ⟨hnone _, ?_, Table.rows_insert? (Suppliers.insert?_ok hsupplier), hnone _, ?_⟩
    · have husers := Table.rows_insert? (Users.insert?_ok huser)
      exact (congrArg (List.map setVerified) husers).trans List.map_append
    · have haction : (registeredRow user supplier req).action = "SUPPLIER_REGISTERED" := rfl
      rw [registrations_append, if_pos haction]
      rfl
  | tokensInvalidated userId now =>
    exact ⟨hnone _, hnone _, hnone _, (map_update _ _ (Repo.id_setInvalidated now) fun _ => rfl).trans (hnone _),
      hnone _⟩
  | tokenIssued token rawToken tokens hhash hinsert =>
    refine ⟨hnone _, hnone _, hnone _, ?_, hnone _⟩
    exact (congrArg (List.map blank) (Table.rows_insert? hinsert)).trans List.map_append
  | emailVerified token rawToken checkedAt now req hread =>
    refine ⟨hnone _, ?_, hnone _, ?_, ?_⟩
    · exact (map_update _ _ id_setVerified fun _ => rfl).trans (hnone _)
    · exact (map_update _ _ (Repo.id_setInvalidated now) fun _ => rfl).trans (hnone _)
    · rw [registrations_append, if_neg (by simp [Auth.auditEntry])]
      rfl

theorem Grown.own (h : Grown d hist r) (ha : Adds a r r') : Grown d ((t, some (.own a)) :: hist) r' := by
  constructor
  · rw [ha.checks, h.checks, acts_own, List.append_assoc]
  · rw [ha.users, h.users, acts_own]
    simp only [List.map_append, List.append_assoc]
  · rw [ha.suppliers, h.suppliers, acts_own, List.map_append, List.append_assoc]
  · rw [ha.tokens, h.tokens, acts_own, ← List.append_assoc, ← List.map_append]
  · rw [ha.audits, h.audits, acts_own, List.map_append, List.append_assoc]

/-- What is no act adds no rows; an audit row of another action is no registration. -/
theorem Grown.other (h : Grown d hist r) (hact : actOf o = none) (hrows : r'.1 = r.1)
    (hlogs : registrations r'.2 = registrations r.2) : Grown d ((t, o) :: hist) r' := by
  have hacts : ∀ {α : Type} (f : RegistrationAct → Option α), acts f ((t, o) :: hist) = acts f hist := by
    intro α f
    rw [acts_cons, hact, Option.bind_none, Option.toList_none, List.append_nil]
  constructor <;> rw [hacts]
  · rw [hrows, h.checks]
  · rw [hrows, h.users]
  · rw [hrows, h.suppliers]
  · rw [hrows, h.tokens]
  · rw [hlogs, h.audits]

end Grown

/-! ## What the entries say -/

/-- What an entry of the history says of the history before it. -/
def Told (env : RegistrationEnv) (screening : Screening) (d : Db RegistrationRows) (earlier : Hist) :
    ℕ × Option (Did RegistrationAct) → Prop
  | (_, some (.own (.eligibilityRecorded check))) => Graded check
  | (_, some (.own (.eligibilityRead found now))) => ∀ check ∈ found,
    check ∈ d.rows.checks.rows ++ acts recorded? earlier ∧ now * 1000 < Repo.expiresAt check
  | (t, some (.own (.supplierRegistered user supplier))) => Checked screening (own t earlier) user supplier
  | (_, some (.own (.userRead found))) => ∀ user ∈ found,
    setVerified user ∈ (d.rows.users.table.rows ++ (acts registered? earlier).map Prod.fst).map setVerified
  | (_, some (.own (.tokenIssued token rawToken))) => token.tokenHash = env.hashToken rawToken
  | (_, some (.own (.tokenRead found rawToken now))) => ∀ token ∈ found,
    blank token ∈ (d.rows.tokens.rows ++ acts issued? earlier).map blank ∧
      token.tokenHash = env.hashToken rawToken ∧ now < token.expiresAt
  | (t, some (.own (.emailVerified token))) =>
    ∃ rawToken now, some (.own (.tokenRead (some token) rawToken now)) ∈ own t earlier
  | (t, some (.enqueued job)) => Mails env (own t earlier) job
  | _ => True

/-- Whoever is verified was so at the start, or has been verified by an act. -/
def VerifiedBy (d : Db RegistrationRows) (hist : Hist) (users : Users) : Prop :=
  ∀ u ∈ users.table.rows, u.emailVerified = true →
    (∃ u₀ ∈ d.rows.users.table.rows, u₀.id = u.id ∧ u₀.emailVerified = true) ∨
      ∃ t token, (t, some (.own (.emailVerified token))) ∈ hist ∧ token.userId = u.id

/-- The tables are what the history leaves, and its entries say the truth. -/
structure Sound (env : RegistrationEnv) (screening : Screening) (d : Db RegistrationRows)
    (s : Db.Past RegistrationRows RegistrationAct) : Prop where
  grown : Grown d s.hist s.store.logged
  told : Truthful (Told env screening d) s.hist
  verified : VerifiedBy d s.hist s.store.rows.users

section Sound

variable {env : RegistrationEnv} {screening : Screening} {d : Db RegistrationRows} {hist : Hist} {t : ℕ}
  {r r' : RegistrationRows × List AuditLog} {a : RegistrationAct} {o : Option (Did RegistrationAct)}
  {s : Db.Past RegistrationRows RegistrationAct} {d' : Db RegistrationRows}

theorem told_of_effect (h : Grown d hist r) (he : RegistrationEffect env screening (own t hist) r a r') :
    Told env screening d hist (t, some (.own a)) := by
  cases he with
  | eligibilityRecorded check checks hgraded hinsert => exact hgraded
  | eligibilityRead token now =>
    intro check hcheck
    obtain ⟨hget, hage⟩ := Option.filter_eq_some_iff.1 hcheck
    exact ⟨h.checks ▸ Table.mem_of_get? hget, of_decide_eq_true hage⟩
  | supplierRegistered user supplier users suppliers req hchecked huser hsupplier => exact hchecked
  | tokensInvalidated userId now => trivial
  | tokenIssued token rawToken tokens hhash hinsert => exact hhash
  | userRead email =>
    intro user huser
    rw [← h.users]
    exact List.mem_map_of_mem (List.mem_of_find?_eq_some huser)
  | tokenRead rawToken now =>
    intro token htoken
    have hmatch := List.find?_some htoken
    simp only [Bool.and_eq_true, decide_eq_true_eq] at hmatch
    rw [← h.tokens]
    exact ⟨List.mem_map_of_mem (List.mem_of_find?_eq_some htoken), hmatch.1.1, hmatch.2⟩
  | emailVerified token rawToken checkedAt now req hread => exact ⟨rawToken, checkedAt, hread⟩

theorem VerifiedBy.cons {users : Users} (h : VerifiedBy d hist users) (x : ℕ × Option (Did RegistrationAct)) :
    VerifiedBy d (x :: hist) users := fun u hu hverified =>
  (h u hu hverified).imp_right fun ⟨t, token, hmem, hid⟩ => ⟨t, token, List.mem_cons_of_mem _ hmem, hid⟩

theorem VerifiedBy.effect (h : VerifiedBy d hist r.1.users)
    (he : RegistrationEffect env screening (own t hist) r a r') :
    VerifiedBy d ((t, some (.own a)) :: hist) r'.1.users := by
  cases he with
  | eligibilityRecorded | eligibilityRead | tokensInvalidated | tokenIssued | userRead | tokenRead => exact h.cons _
  | supplierRegistered user supplier users suppliers req hchecked huser hsupplier =>
    intro u hu hverified
    rcases (Table.mem_insert? (Users.insert?_ok huser)).1 hu with hold | rfl
    · exact h.cons _ u hold hverified
    · rw [hchecked.account.2.2.2] at hverified
      cases hverified
  | emailVerified token rawToken checkedAt now req hread =>
    intro u hu hverified
    obtain ⟨u₀, hu₀, rfl⟩ := List.mem_map.1 hu
    by_cases hid : u₀.id = token.userId
    · rw [if_pos (decide_eq_true hid)]
      exact Or.inr ⟨t, token, List.mem_cons_self, hid.symm⟩
    · rw [if_neg (by simpa using hid)] at hverified ⊢
      exact h.cons _ u₀ hu₀ hverified

/-- One more entry, of which the three parts are said. -/
theorem Sound.record (h : Sound env screening d s) (hgrown : Grown d ((t, o) :: s.hist) d'.logged)
    (htold : Told env screening d s.hist (t, o)) (hverified : VerifiedBy d ((t, o) :: s.hist) d'.rows.users) :
    Sound env screening d (s.record t o d') := ⟨hgrown, h.told.cons htold, hverified⟩

theorem Sound.other (h : Sound env screening d s) (hact : actOf o = none) (hrows : d'.rows = s.store.rows)
    (hlogs : registrations d'.auditLogs = registrations s.store.auditLogs)
    (htold : Told env screening d s.hist (t, o)) : Sound env screening d (s.record t o d') := by
  refine h.record (h.grown.other hact hrows hlogs) htold ?_
  rw [hrows]
  exact h.verified.cons _

theorem Sound.move {e : Did RegistrationAct} (h : Sound env screening d s)
    (heff : registrationEffects env screening (own t s.hist) s.store e d') :
    Sound env screening d (s.record t (some e) d') := by
  cases e with
  | own a => exact h.record (h.grown.own (adds_of_effect heff)) (told_of_effect h.grown heff) (h.verified.effect heff)
  | audited entry =>
    obtain ⟨hrows, hlogs⟩ := Prod.mk.inj heff.2
    refine h.other rfl hrows ?_ trivial
    rw [hlogs, registrations_append, if_neg heff.1, List.append_nil]
  | enqueued job =>
    obtain ⟨hrows, hlogs⟩ := Prod.mk.inj heff.2
    exact h.other rfl hrows (congrArg registrations hlogs) heff.1
  | read | threw | logged =>
    obtain ⟨hrows, hlogs⟩ := Prod.mk.inj heff
    exact h.other rfl hrows (congrArg registrations hlogs) trivial

theorem Sound.reached {cfg : Config} {s : Db.System RegistrationRows RegistrationAct}
    (hs : Reaches (program cfg env screening) always (Sys.init d) s) : Sound env screening d s.toState := by
  refine Effects.invariant (program_covers cfg env screening) (fun s t h => h.other rfl rfl rfl trivial) ?_
    (fun s t e d' h heff _ => h.move heff) hs
  refine ⟨⟨(List.append_nil _).symm, ?_, (List.append_nil _).symm, ?_, (List.append_nil _).symm⟩,
    truthful_nil, fun u hu hverified => Or.inl ⟨u, hu, rfl, hverified⟩⟩
  · exact congrArg (List.map setVerified) (List.append_nil _).symm
  · exact congrArg (List.map blank) (List.append_nil _).symm

end Sound

/-! ## Runs -/

section Runs

variable {env : RegistrationEnv} {screening : Screening} {d : Db RegistrationRows} {hist earlier : Hist}

theorem mem_acts {α : Type} {f : RegistrationAct → Option α} {x : α} :
    x ∈ acts f hist ↔ ∃ t a, (t, some (.own a)) ∈ hist ∧ f a = some x := by
  rw [acts, List.mem_filterMap]
  constructor
  · rintro ⟨⟨t, o⟩, hmem, hx⟩
    obtain ⟨a, ha, hx⟩ := Option.bind_eq_some_iff.1 hx
    have ho : o = some (.own a) := by
      unfold actOf at ha
      split at ha
      · next hact => exact hact.trans (by rw [Option.some.inj ha])
      · cases ha
    exact ⟨t, a, ho ▸ List.mem_reverse.1 hmem, hx⟩
  · rintro ⟨t, a, hmem, hx⟩
    exact ⟨_, List.mem_reverse.2 hmem, hx⟩

theorem acts_subset {α : Type} {f : RegistrationAct → Option α} (h : earlier <:+ hist) :
    acts f earlier ⊆ acts f hist := fun _ hx =>
  let ⟨t, a, hmem, ha⟩ := mem_acts.1 hx
  mem_acts.2 ⟨t, a, h.subset hmem, ha⟩

/-- The checks that a registered supplier has passed. -/
structure Admitted (screening : Screening) (d : Db RegistrationRows)
    (s : Db.Past RegistrationRows RegistrationAct) (t : ℕ) (user : UserRow) (supplier : SupplierRow) :
    Prop where
  /-- There is a passed questionnaire of the token, which had not expired when the call looked. -/
  eligible : ∃ check ∈ s.store.rows.checks.rows, check.sessionToken = supplier.eligibilitySessionToken ∧
    check.passed = true ∧ (check ∈ d.rows.checks.rows ∨ Graded check) ∧
    ∃ now, (t, some (.own (.eligibilityRead (some check) now))) ∈ s.hist ∧ now * 1000 < Repo.expiresAt check
  screened : findSanctionsMatch screening supplier.companyName supplier.registrationNumber = none
  consents : supplier.consentUrsbCheck = true ∧ supplier.consentSupplierRefs = true ∧
    supplier.consentLitigationCheck = true
  account : supplier.userId = user.id ∧ user.role = "supplier" ∧ user.isActive = true ∧ user.emailVerified = false

theorem Sound.admitted {s : Db.Past RegistrationRows RegistrationAct} (h : Sound env screening d s) {t : ℕ}
    {user : UserRow} {supplier : SupplierRow} (hmem : (t, some (.own (.supplierRegistered user supplier))) ∈ s.hist) :
    Admitted screening d s t user supplier := by
  obtain ⟨earlier, hearlier, htold⟩ := h.told.of_mem hmem
  have hchecked : Checked screening (own t earlier) user supplier := htold
  refine ⟨?_, hchecked.screened, hchecked.consents, hchecked.account⟩
  obtain ⟨check, now, hread, hpassed, htoken⟩ := hchecked.eligible
  have hread' : (t, some (.own (.eligibilityRead (some check) now))) ∈ s.hist :=
    hearlier.subset (List.mem_cons_of_mem _ (mem_own.1 hread))
  obtain ⟨before, hbefore, hfound⟩ := h.told.of_mem hread'
  obtain ⟨hrow, hage⟩ := hfound check rfl
  have hrow' : check ∈ d.rows.checks.rows ++ acts recorded? s.hist :=
    List.mem_append.2 ((List.mem_append.1 hrow).imp_right fun hrecorded =>
      acts_subset ((List.suffix_cons _ _).trans hbefore) hrecorded)
  refine ⟨check, h.grown.checks ▸ hrow', htoken, hpassed, ?_, now, hread', hage⟩
  refine (List.mem_append.1 hrow').imp_right fun hrecorded => ?_
  obtain ⟨u, a, ha, hcheck⟩ := mem_acts.1 hrecorded
  obtain ⟨_, _, hgraded⟩ := h.told.of_mem ha
  cases a <;> cases hcheck
  exact hgraded

/-- **Every supplier was admitted.** The suppliers and their accounts are those of the start and those that the
registrations have added, one account and one audit row for each; and each registration had a passed
questionnaire that was not expired, all consents, and a company that is not on the sanctions list. -/
theorem registration_admitted (cfg : Config) (env : RegistrationEnv) (screening : Screening)
    (d : Db RegistrationRows) (s : Db.System RegistrationRows RegistrationAct)
    (hs : Reaches (program cfg env screening) always (Sys.init d) s) :
    s.store.rows.suppliers.table.rows =
        d.rows.suppliers.table.rows ++ (acts registered? s.hist).map Prod.snd ∧
      s.store.rows.users.table.rows.map setVerified =
        (d.rows.users.table.rows ++ (acts registered? s.hist).map Prod.fst).map setVerified ∧
      registrations s.store.auditLogs =
        registrations d.auditLogs ++ (acts registered? s.hist).map (fun x => (some x.1.id, .id x.2.id)) ∧
      ∀ t user supplier, (t, some (.own (.supplierRegistered user supplier))) ∈ s.hist →
        Admitted screening d s.toState t user supplier := by
  have hsound : Sound env screening d s.toState := Sound.reached hs
  exact ⟨hsound.grown.suppliers, hsound.grown.users, hsound.grown.audits, fun t user supplier => hsound.admitted⟩

def sampleEnv : RegistrationEnv where
  gcm := Crypto.sampleGcm
  encryptionKey := Crypto.sampleEnv
  randomBytes _ _ := Crypto.sampleIv
  sha256 _ := ""
  locale := ⟨id, id, id⟩
  bcryptHash _ _ := "$2b$"
  hashToken rawToken := "sha256 of " ++ rawToken

def sampleScreening : Screening where
  entries := [{ name := "blocked ltd", reason := "listed" }]
  toLowerCase := String.toLower

def noRegistrations : Db RegistrationRows where
  rows := ⟨.empty, ⟨.empty, List.nodup_nil⟩, ⟨.empty, List.nodup_nil, List.nodup_nil⟩, .empty⟩

def sampleData (number : String) : SupplierRegistration where
  email := "a@b.ug"
  password := "secret"
  companyName := "Acme Ltd"
  registrationNumber := number
  taxId := []
  directors := []
  bankName := "bank"
  bankAccountNumber := []
  bankAccountName := []
  bankBranch := "branch"
  preferredPaymentMethod := "EFT"
  eligibilitySessionToken := 7
  consentUrsbCheck := true
  consentSupplierRefs := true
  consentLitigationCheck := true

/-- The questionnaire is passed, and two registrations with one address check it before either is written. -/
def sameAddress : List (Act Op Input) :=
  Act.call (.checkEligibility ⟨true, true, .number 3, none, none⟩ "10.0.0.1") 0 (List.replicate 3 { uuid := 7 }) ++
    [.start (.registerSupplier (sampleData "R1") {}), .start (.registerSupplier (sampleData "R2") {})] ++
    List.replicate 7 (.move 1 { uuid := 11 }) ++ List.replicate 7 (.move 2 { uuid := 12 }) ++
    [.move 1 { uuid := 11 }, .move 2 { uuid := 12 }]

/-- The second one is refused by the constraint, and the first is admitted. -/
theorem registration_admitted_race : ∃ s : Db.System RegistrationRows RegistrationAct,
    s.store.rows.suppliers.table.rows.map SupplierRow.registrationNumber = ["R1"] ∧ (own 2 s.hist).length = 8 ∧
      registrations s.store.auditLogs = (acts registered? s.hist).map (fun x => (some x.1.id, .id x.2.id)) ∧
      ∀ t user supplier, (t, some (.own (.supplierRegistered user supplier))) ∈ s.hist →
        Admitted sampleScreening noRegistrations s.toState t user supplier := by
  obtain ⟨s, hs, hP⟩ := exists_reaches (program {} sampleEnv sampleScreening) always (Sys.init noRegistrations)
    sameAddress (fun s => s.store.rows.suppliers.table.rows.map SupplierRow.registrationNumber = ["R1"] ∧
      (own 2 s.hist).length = 8) (by decide +kernel)
  obtain ⟨hnumbers, hlate⟩ := of_decide_eq_true hP
  obtain ⟨-, -, haudits, hadmitted⟩ := registration_admitted {} sampleEnv sampleScreening noRegistrations s hs
  exact ⟨s, hnumbers, hlate, haudits, hadmitted⟩

/-- Where the token that verified an account comes from: its user had it before, or a call has issued it, and what
was presented has the hash of what was issued. -/
structure Presented (env : RegistrationEnv) (d : Db RegistrationRows)
    (s : Db.Past RegistrationRows RegistrationAct) (t : ℕ) (token : VerificationToken) : Prop where
  presented : ∃ rawToken now, (t, some (.own (.tokenRead (some token) rawToken now))) ∈ s.hist ∧
    token.tokenHash = env.hashToken rawToken ∧ now < token.expiresAt
  issued : (∃ token₀ ∈ d.rows.tokens.rows, blank token₀ = blank token) ∨
    ∃ v token₀ rawToken, (v, some (.own (.tokenIssued token₀ rawToken))) ∈ s.hist ∧ blank token₀ = blank token ∧
      token.tokenHash = env.hashToken rawToken

theorem Sound.presented {s : Db.Past RegistrationRows RegistrationAct} (h : Sound env screening d s) {t : ℕ}
    {token : VerificationToken} (hmem : (t, some (.own (.emailVerified token))) ∈ s.hist) :
    Presented env d s t token := by
  obtain ⟨earlier, hearlier, rawToken, now, hread⟩ := h.told.of_mem hmem
  have hread' : (t, some (.own (.tokenRead (some token) rawToken now))) ∈ s.hist :=
    hearlier.subset (List.mem_cons_of_mem _ (mem_own.1 hread))
  obtain ⟨before, hbefore, hfound⟩ := h.told.of_mem hread'
  obtain ⟨hrow, hhash, hage⟩ := hfound token rfl
  refine ⟨⟨rawToken, now, hread', hhash, hage⟩, ?_⟩
  obtain ⟨token₀, htoken₀, hblank⟩ := List.mem_map.1 hrow
  rcases List.mem_append.1 htoken₀ with hold | hissued
  · exact Or.inl ⟨token₀, hold, hblank⟩
  · obtain ⟨v, a, ha, hact⟩ := mem_acts.1 hissued
    have hmem' := hbefore.subset (List.mem_cons_of_mem _ ha)
    obtain ⟨before', hbefore', htold⟩ := h.told.of_mem hmem'
    cases a <;> cases hact
    next issuedRaw =>
      have hissuedHash : token₀.tokenHash = env.hashToken issuedRaw := htold
      have hsame : (blank token₀).tokenHash = (blank token).tokenHash := congrArg _ hblank
      exact Or.inr ⟨v, token₀, issuedRaw, hmem', hblank, hsame.symm.trans hissuedHash⟩

/-- The account that a call knows is there, with the same address. -/
theorem Sound.known {s : Db.Past RegistrationRows RegistrationAct} (h : Sound env screening d s) {t : ℕ}
    {user : UserRow} (hearlier : earlier <:+ s.hist) (hknows : Knows user (own t earlier)) :
    ∃ u ∈ s.store.rows.users.table.rows, u.id = user.id ∧ u.email = user.email := by
  have hrow : setVerified user ∈ s.store.rows.users.table.rows.map setVerified := by
    have hgrown := h.grown.users
    rw [show s.store.rows.users.table.rows.map setVerified = _ from hgrown, List.map_append]
    rcases hknows with ⟨supplier, hregistered⟩ | hread
    · refine List.mem_append_right _ (List.mem_map_of_mem (List.mem_map.2 ⟨(user, supplier), ?_, rfl⟩))
      exact mem_acts.2 ⟨t, _, hearlier.subset (mem_own.1 hregistered), rfl⟩
    · obtain ⟨before, hbefore, hfound⟩ := h.told.of_mem (hearlier.subset (mem_own.1 hread))
      have hrow := hfound user rfl
      rw [List.map_append] at hrow
      refine List.mem_append.2 ((List.mem_append.1 hrow).imp_right fun hregistered => ?_)
      exact List.map_subset _ (List.map_subset _ (acts_subset ((List.suffix_cons _ _).trans hbefore))) hregistered
  obtain ⟨u, hu, hsame⟩ := List.mem_map.1 hrow
  have hid : (setVerified u).id = (setVerified user).id := congrArg _ hsame
  have hemail : (setVerified u).email = (setVerified user).email := congrArg _ hsame
  exact ⟨u, hu, hid, hemail⟩

/-- **An address is verified by its own mail.** An account that a run has verified was verified with a token of its
own, which had not expired, by a text that has the hash of the token that was issued; and each mail with a link
goes to the address of the account whose token the link has. -/
theorem verified_by_own_token (cfg : Config) (env : RegistrationEnv) (screening : Screening)
    (d : Db RegistrationRows) (s : Db.System RegistrationRows RegistrationAct)
    (hs : Reaches (program cfg env screening) always (Sys.init d) s) :
    (∀ u ∈ s.store.rows.users.table.rows, u.emailVerified = true →
      (∃ u₀ ∈ d.rows.users.table.rows, u₀.id = u.id ∧ u₀.emailVerified = true) ∨
        ∃ t token, (t, some (.own (.emailVerified token))) ∈ s.hist ∧ token.userId = u.id ∧
          Presented env d s.toState t token) ∧
      ∀ t job, (t, some (.enqueued job)) ∈ s.hist → job.name = "send-email" →
        ∃ id token rawToken, ∃ u ∈ s.store.rows.users.table.rows, job = verificationJob env u.email rawToken id ∧
          (t, some (.own (.tokenIssued token rawToken))) ∈ s.hist ∧ token.userId = u.id ∧
          token.tokenHash = env.hashToken rawToken := by
  have hsound : Sound env screening d s.toState := Sound.reached hs
  constructor
  · intro u hu hverified
    refine (hsound.verified u hu hverified).imp_right ?_
    rintro ⟨t, token, hmem, hid⟩
    exact ⟨t, token, hmem, hid, hsound.presented hmem⟩
  · intro t job hmem hname
    obtain ⟨earlier, hearlier, hmails⟩ := hsound.told.of_mem hmem
    obtain ⟨id, user, token, rawToken, rfl, hissued, huser, hknows⟩ := hmails hname
    obtain ⟨u, hu, hid, hemail⟩ := hsound.known ((List.suffix_cons _ _).trans hearlier) hknows
    have hissued' := hearlier.subset (List.mem_cons_of_mem _ (mem_own.1 hissued))
    obtain ⟨_, _, hhash⟩ := hsound.told.of_mem hissued'
    exact ⟨id, token, rawToken, u, hu, by rw [hemail], hissued', huser.trans hid.symm, hhash⟩

/-- A supplier registers, and follows the link in the mail. -/
def followsLink : List (Act Op Input) :=
  Act.call (.checkEligibility ⟨true, true, .number 3, none, none⟩ "10.0.0.1") 0 (List.replicate 3 { uuid := 7 }) ++
    Act.call (.registerSupplier (sampleData "R1") {}) 1 (List.replicate 15 { uuid := 11 }) ++
    Act.call (.verifyEmail "000102030405060708090a0b" {}) 2 (List.replicate 3 { uuid := 13 })

theorem verified_by_own_token_followed : ∃ s : Db.System RegistrationRows RegistrationAct,
    (∃ t token, (t, some (.own (.emailVerified token))) ∈ s.hist ∧ token.userId = 11 ∧
      Presented sampleEnv noRegistrations s.toState t token) ∧
      ∀ t job, (t, some (.enqueued job)) ∈ s.hist → job.name = "send-email" →
        ∃ id token rawToken, ∃ u ∈ s.store.rows.users.table.rows,
          job = verificationJob sampleEnv u.email rawToken id ∧
          (t, some (.own (.tokenIssued token rawToken))) ∈ s.hist ∧ token.userId = u.id ∧
          token.tokenHash = sampleEnv.hashToken rawToken := by
  obtain ⟨s, hs, hP⟩ := exists_reaches (program {} sampleEnv sampleScreening) always (Sys.init noRegistrations)
    followsLink (fun s => s.store.rows.users.table.rows.any fun u => u.id = 11 ∧ u.emailVerified = true)
    (by decide +kernel)
  obtain ⟨u, hu, hmatch⟩ := List.any_eq_true.1 hP
  obtain ⟨hid, hverified⟩ := of_decide_eq_true hmatch
  obtain ⟨haccounts, hmails⟩ := verified_by_own_token {} sampleEnv sampleScreening noRegistrations s hs
  refine ⟨s, (haccounts u hu hverified).elim ?_ fun ⟨t, token, hmem, huser, h⟩ => ?_, hmails⟩
  · rintro ⟨_, hnone, -⟩
    exact absurd hnone List.not_mem_nil
  · exact ⟨t, token, hmem, huser.trans hid, h⟩

end Runs

end Ris.Onboarding.Registration
