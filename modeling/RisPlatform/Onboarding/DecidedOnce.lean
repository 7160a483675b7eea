import RisPlatform.Common.Histories
import RisPlatform.Onboarding.Buyers
import RisPlatform.Onboarding.MakerChecker

/-!
# A request for a buyer is decided once

`reviewBuyerOnboardingRequest` asks whether the request is open before its transaction, and the `UPDATE`
does not ask again. So two reviews that overlap both decide it, and the second overwrites what the first
has recorded. `decidedOnce_iff` says which runs decide each request once; the unique registration number
and the foreign key keep no other runs out.
-/

namespace Ris.Onboarding

open Relational Concurrent

/-! ## Effects -/

/-- What an act does to the rows: the acts other than a review leave the requests and lose no buyer. -/
inductive BuyerEffect (l : List (Option (Did BuyerAct))) (r : BuyerRows) : BuyerAct → BuyerRows → Prop
  | requestReviewed (requestId : ℕ) (review : Review) (buyers : Table BuyerRecord.id)
      (hkept : ∀ k b, r.buyers.get? k = some b → (buyers.get? k).isSome = true)
      (hmade : review.materialised = true →
        review.decision = .approved ∧ ∃ k, review.linkedBuyerId = some k ∧ (buyers.get? k).isSome = true) :
      BuyerEffect l r (.requestReviewed requestId review)
        { buyers := buyers
          requests := r.requests.update (fun x => x.id = requestId) (Repo.setRequestReview review)
            (Repo.id_setRequestReview review) }
  | onBuyers (e : BuyerAct) (r' : BuyerRows) (he : ∀ requestId review, e ≠ .requestReviewed requestId review)
      (hrequests : r'.requests = r.requests)
      (hkept : ∀ k b, r.buyers.get? k = some b → (r'.buyers.get? k).isSome = true) : BuyerEffect l r e r'

section Commit

variable {i : Input} {d d' : Db BuyerRows} {u : Unit}

/-- A buyer is inserted, and nothing else is changed. -/
theorem createBuyer_ok {data : BuyerRecord} (h : Repo.createBuyer data i d = .ok (u, d')) :
    ∃ buyers, d.rows.buyers.insert? data = some buyers ∧
      Repo.buyerRegistrationNumberExists data.registrationNumber d.rows = false ∧
        0 < data.approvedLimit ∧
      d' = { d with rows := { d.rows with buyers := buyers } } := by
  unfold Repo.createBuyer at h
  split at h
  · cases h
  · rename_i hlimit
    simp only [Txn.bind_ok, Db.read_ok] at h
    obtain ⟨taken, _, ⟨htaken, rfl⟩, inserted, _, ⟨hinserted, rfl⟩, h⟩ := h
    cases inserted with
    | none => cases h
    | some buyers =>
      dsimp only at h
      split at h
      · cases h
      · rename_i hfree
        refine ⟨buyers, hinserted, ?_, not_le.1 hlimit, (Db.write_ok.1 h).symm⟩
        rw [htaken, Bool.eq_false_iff]
        exact hfree

theorem kept_of_insert {buyers : Table BuyerRecord.id} {data : BuyerRecord}
    (h : d.rows.buyers.insert? data = some buyers) (k : ℕ) (b : BuyerRecord)
    (hb : d.rows.buyers.get? k = some b) : (buyers.get? k).isSome = true := by
  rw [Table.get?_insert? h]
  split
  · rfl
  · rw [hb]
    rfl

theorem insertBuyerRecord_ok {env : Env} {data : BuyerCreation} {createdBy buyerId : ℕ}
    (h : insertBuyerRecord env data createdBy i d = .ok (buyerId, d')) :
    d'.rows.requests = d.rows.requests ∧
      ∀ k b, d.rows.buyers.get? k = some b → (d'.rows.buyers.get? k).isSome = true := by
  simp only [insertBuyerRecord, Txn.bind_ok, Db.uuid_ok, Txn.input_ok, Txn.lift_ok, Txn.pure_ok] at h
  obtain ⟨_, _, ⟨-, rfl⟩, _, _, ⟨-, rfl⟩, _, _, ⟨-, rfl⟩, _, _, ⟨-, rfl⟩, _, _, hcreate, -, rfl⟩ := h
  obtain ⟨buyers, hinsert, -, -, rfl⟩ := createBuyer_ok hcreate
  exact ⟨rfl, kept_of_insert hinsert⟩

theorem updateBuyerRow_ok {buyerId : ℕ} {f : BuyerRecord → BuyerRecord} {hf : ∀ b, (f b).id = b.id}
    (h : Repo.updateBuyerRow buyerId f hf i d = .ok (u, d')) :
    d'.rows.requests = d.rows.requests ∧
      ∀ k b, d.rows.buyers.get? k = some b → (d'.rows.buyers.get? k).isSome = true := by
  obtain rfl := Db.write_ok.1 h
  refine ⟨rfl, fun k b hb => ?_⟩
  rw [Table.get?_update, hb]
  rfl

theorem updateBuyerFields_ok {env : Env} {buyerId : ℕ} {data : BuyerUpdate}
    (h : updateBuyerFields env buyerId data i d = .ok (u, d')) :
    d'.rows.requests = d.rows.requests ∧
      ∀ k b, d.rows.buyers.get? k = some b → (d'.rows.buyers.get? k).isSome = true := by
  simp only [updateBuyerFields, Txn.bind_ok, Txn.input_ok, Txn.lift_ok] at h
  obtain ⟨_, _, ⟨-, rfl⟩, _, _, ⟨-, rfl⟩, _, _, ⟨-, rfl⟩, h⟩ := h
  split at h
  · cases h
  · exact updateBuyerRow_ok h

/-- The linked buyer of a review is the one named, or one that has been made for an approval. -/
theorem resolveLinkedBuyer_ok {request : BuyerOnboardingRequestRecord} {reviewerId : ℕ}
    {data : ReviewBuyerRequestInput} {req : Request} {linked : Option ℕ} {materialised : Bool}
    (h : resolveLinkedBuyer request reviewerId data req i d = .ok ((linked, materialised), d')) :
    d'.rows.requests = d.rows.requests ∧
      (∀ k b, d.rows.buyers.get? k = some b → (d'.rows.buyers.get? k).isSome = true) ∧
      (materialised = true → data.status = .approved ∧
        ∃ k, linked = some k ∧ (d'.rows.buyers.get? k).isSome = true) := by
  unfold resolveLinkedBuyer at h
  split at h
  · rename_i hmakes
    simp only [materialiseBuyerFromRequest, Txn.bind_ok, Db.uuid_ok, Txn.pure_ok, Db.createAuditEntry_ok] at h
    obtain ⟨buyerId, _, ⟨_, _, ⟨-, rfl⟩, _, _, hcreate, rfl, rfl⟩, _, _, rfl, heq, rfl⟩ := h
    obtain ⟨rfl, rfl⟩ := Prod.mk.inj heq
    obtain ⟨buyers, hinsert, -, -, rfl⟩ := createBuyer_ok hcreate
    refine ⟨rfl, kept_of_insert hinsert, fun _ => ⟨hmakes.1, _, rfl, ?_⟩⟩
    exact Option.isSome_iff_exists.2 ⟨_, (Table.get?_insert? hinsert _).trans (if_pos rfl)⟩
  · obtain ⟨heq, rfl⟩ := Txn.pure_ok.1 h
    obtain ⟨rfl, rfl⟩ := Prod.mk.inj heq
    exact ⟨rfl, fun k b hb => by rw [hb]; rfl, fun h => by cases h⟩

/-- The commit of a review: the buyer first, then the request with the review. -/
theorem executeReviewBuyerRequestTx_ok {request : BuyerOnboardingRequestRecord} {reviewerId : ℕ}
    {data : ReviewBuyerRequestInput} {req : Request} {review : Review}
    (h : executeReviewBuyerRequestTx request reviewerId data req i d = .ok (review, d')) :
    ∃ d₁, resolveLinkedBuyer request reviewerId data req i d =
        .ok ((review.linkedBuyerId, review.materialised), d₁) ∧
      review.decision = data.status ∧
      d'.rows = { d₁.rows with
        requests := d₁.rows.requests.update (fun x => x.id = request.id) (Repo.setRequestReview review)
          (Repo.id_setRequestReview review) } := by
  simp only [executeReviewBuyerRequestTx, Repo.updateBuyerRequestStatusWithClient, Txn.bind_ok, Db.read_ok,
    Txn.pure_ok, Db.createAuditEntry_ok] at h
  obtain ⟨⟨linked, materialised⟩, d₁, hlinked, _, _, ⟨_, _, ⟨-, rfl⟩, h⟩, _, _, rfl, rfl, rfl⟩ := h
  split at h
  · cases h
  · obtain rfl := Db.write_ok.1 h
    exact ⟨d₁, hlinked, rfl, rfl⟩

theorem effect_of_review {l : List (Option (Did BuyerAct))} {request : BuyerOnboardingRequestRecord}
    {reviewerId : ℕ} {data : ReviewBuyerRequestInput} {req : Request} {review : Review}
    (h : executeReviewBuyerRequestTx request reviewerId data req i d = .ok (review, d')) :
    BuyerEffect l d.rows (.requestReviewed request.id review) d'.rows := by
  obtain ⟨d₁, hlinked, hdecision, hrows⟩ := executeReviewBuyerRequestTx_ok h
  obtain ⟨hrequests, hkept, hmade⟩ := resolveLinkedBuyer_ok hlinked
  rw [hrows, hrequests]
  exact .requestReviewed _ _ _ hkept fun hmaterialised => hdecision ▸ hmade hmaterialised

end Commit

/-! ## Calls -/

abbrev BuyerDoes {α : Type} (p : BuyerCall α) (l : List (Option (Did BuyerAct))) : Prop :=
  p.Does (Db.effects BuyerEffect) (fun _ _ => True) l

section Calls

variable {cfg : Config} {env : Env} {screening : Screening} {l : List (Option (Did BuyerAct))}

/-- A statement that changes buyers only. -/
theorem does_onBuyers {α : Type} {body : BuyerTx α} {committed : α → BuyerAct}
    (he : ∀ a requestId review, committed a ≠ .requestReviewed requestId review)
    (h : ∀ i d a d', body i d = .ok (a, d') → d'.rows.requests = d.rows.requests ∧
      ∀ k b, d.rows.buyers.get? k = some b → (d'.rows.buyers.get? k).isSome = true) :
    BuyerDoes (Db.transaction body committed) l := by
  refine Db.does_commit fun i d a d' hok => ⟨?_, trivial⟩
  obtain ⟨hrequests, hkept⟩ := h i d a d' hok
  exact .onBuyers _ _ (he a) hrequests hkept

theorem does_checkSanctions (companyName registrationNumber : String) (recordId userId : ℕ)
    (req : Request) :
    BuyerDoes (checkSanctions screening companyName registrationNumber recordId userId req) l := by
  have hload : ∀ l, BuyerDoes (loadSanctionsList screening) l := by
    intro l
    unfold loadSanctionsList
    split
    · exact Proc.does_throw _
    · exact Db.does_log _
  have hpep : ∀ l, BuyerDoes (checkPepDesignation screening companyName recordId) l := by
    intro l
    unfold checkPepDesignation
    split
    · exact (does_onBuyers (by simp) fun _ _ _ _ => updateBuyerRow_ok).bind
        fun _ _ _ _ => Db.does_log _
    · exact Proc.does_pure trivial
  refine (hload _).bind fun _ _ _ _ => (hpep _).bind fun _ _ _ _ => ?_
  cases findSanctionsMatch screening companyName registrationNumber with
  | none => exact Proc.does_pure trivial
  | some found =>
    exact (does_onBuyers (by simp) fun _ _ _ _ => updateBuyerRow_ok).bind fun _ _ _ _ =>
      (Db.does_audit _).bind fun _ _ _ _ => (Db.does_log _).bind fun _ _ _ _ => Proc.does_throw _

theorem does_createBuyer (data : BuyerCreation) (createdBy : ℕ) (req : Request) :
    BuyerDoes (createBuyer env screening data createdBy req) l := by
  refine (Db.does_query _).bind fun taken l₁ _ _ => ?_
  show BuyerDoes (if taken then _ else _) l₁
  split
  · exact Proc.does_throw _
  · refine (does_onBuyers (by simp) fun _ _ _ _ => insertBuyerRecord_ok).bind
      fun buyerId _ _ _ => ?_
    have hpost : ∀ l, BuyerDoes (postBuyerCreation screening buyerId data createdBy req) l :=
      fun l => (does_checkSanctions _ _ _ _ _).bind fun _ _ _ _ => (Db.does_audit _).bind fun _ _ _ _ =>
        Db.does_log _
    exact (hpost _).bind fun _ _ _ _ => Proc.does_pure trivial

theorem does_updateBuyerProfile (buyerId : ℕ) (data : BuyerUpdate) (updatedBy : ℕ) (req : Request) :
    BuyerDoes (updateBuyerProfile env buyerId data updatedBy req) l := by
  refine (Db.does_query _).bind fun found l₁ _ _ => ?_
  cases found with
  | none => exact Proc.does_throw _
  | some buyer =>
    show BuyerDoes (if _ then _ else _) l₁
    split
    · exact Proc.does_pure trivial
    · exact (does_onBuyers (by simp) fun _ _ _ _ => updateBuyerFields_ok).bind fun _ _ _ _ =>
        (Db.does_audit _).bind fun _ _ _ _ => Db.does_log _

theorem does_reviewBuyerOnboardingRequest (requestId reviewerId : ℕ) (data : ReviewBuyerRequestInput)
    (req : Request) : BuyerDoes (reviewBuyerOnboardingRequest cfg requestId reviewerId data req) l := by
  refine (Db.does_see (Q := fun _ _ => True) fun r =>
    ⟨.onBuyers _ _ nofun rfl fun k b hb => hb ▸ rfl, trivial⟩).bind fun found _ _ _ => ?_
  cases found with
  | none => exact Proc.does_throw _
  | some request =>
    exact (Proc.does_lift (Q := fun _ _ => True) fun _ _ => trivial).bind fun _ _ _ _ =>
      (Db.does_commit (Q := fun _ _ => True) fun _ _ _ _ hok => ⟨effect_of_review hok, trivial⟩).bind
        fun _ _ _ _ => (Db.does_log _).bind fun _ _ _ _ => Db.does_enqueueOrWarn _ _ _

end Calls

/-- The operations do what the effects say. -/
theorem buyerProgram_covers (cfg : Config) (env : Env) (screening : Screening) :
    (Db.effects BuyerEffect).Covers (buyerProgram cfg env screening) := by
  intro op
  cases op with
  | createBuyer data createdBy req => exact (does_createBuyer data createdBy req).discard
  | updateBuyerProfile buyerId data updatedBy req =>
    exact does_updateBuyerProfile buyerId data updatedBy req
  | reviewBuyerOnboardingRequest requestId reviewerId data req =>
    exact does_reviewBuyerOnboardingRequest requestId reviewerId data req

/-! ## The law -/

/-- The request was decided. -/
def reviews (requestId : ℕ) : Option (Did BuyerAct) → Bool
  | some (.own (.requestReviewed i _)) => i = requestId
  | _ => false

/-- What became of a request of the rows `d`: it is as it was, or one review has decided it, the row says
so, and a buyer made from it is there and linked to it. -/
inductive Fate (d : BuyerRows) (s : State (Db BuyerRows) (Did BuyerAct)) (requestId : ℕ) : Prop
  | untouched (hhist : occurrences (reviews requestId) s.hist = 0)
      (hrow : s.store.rows.requests.get? requestId = d.requests.get? requestId)
  | decided (t : ℕ) (review : Review) (x : BuyerOnboardingRequestRecord)
      (hhist : occurrences (reviews requestId) s.hist = 1)
      (hcall : (t, some (.own (.requestReviewed requestId review))) ∈ s.hist)
      (hd : d.requests.get? requestId = some x) (hopen : Reviewable x.status)
      (hrow : s.store.rows.requests.get? requestId = some (Repo.setRequestReview review x))
      (hmade : review.materialised = true → review.decision = .approved ∧
        ∃ k, review.linkedBuyerId = some k ∧ (s.store.rows.buyers.get? k).isSome = true)

/-- Every request is decided at most once, counting a decision that was there before. -/
def DecidedOnce (d : BuyerRows) (s : State (Db BuyerRows) (Did BuyerAct)) : Prop :=
  ∀ requestId, Fate d s requestId

/-- A review commits while the request is open. -/
def StillOpen : Cond (Db BuyerRows) (Did BuyerAct) := fun s _ e =>
  match e with
  | .own (.requestReviewed requestId _) =>
    ∃ x ∈ s.store.rows.requests.get? requestId, Reviewable x.status
  | _ => True

instance (s : State (Db BuyerRows) (Did BuyerAct)) (t : ℕ) (e : Did BuyerAct) :
    Decidable (StillOpen s t e) := by
  unfold StillOpen
  split <;> infer_instance

section Step

variable {d : BuyerRows} {s : State (Db BuyerRows) (Did BuyerAct)} {t : ℕ} {requestId : ℕ}

theorem not_reviewable_setRequestReview (review : Review) (x : BuyerOnboardingRequestRecord) :
    ¬Reviewable (Repo.setRequestReview review x).status := by
  intro h
  cases hdecision : review.decision with
  | _ =>
    simp only [Repo.setRequestReview, hdecision, ReviewDecision.status] at h
    rcases h with h | h <;> cases h

/-- A request that is open has not been decided. -/
theorem Fate.untouched_of_open (h : Fate d s requestId) {x : BuyerOnboardingRequestRecord}
    (hx : s.store.rows.requests.get? requestId = some x) (hopen : Reviewable x.status) :
    occurrences (reviews requestId) s.hist = 0 ∧ d.requests.get? requestId = some x := by
  cases h with
  | untouched hhist hrow => exact ⟨hhist, hrow ▸ hx⟩
  | decided u review y hhist hcall hd hopen' hrow hmade =>
    rw [hrow, Option.some.injEq] at hx
    exact absurd (hx ▸ hopen) (not_reviewable_setRequestReview review y)

/-- A statement that does not decide the request leaves what became of it. -/
theorem Fate.keep (h : Fate d s requestId) {e : Option (Did BuyerAct)} {w : Db BuyerRows}
    (he : reviews requestId e = false)
    (hrow : w.rows.requests.get? requestId = s.store.rows.requests.get? requestId)
    (hkept : ∀ k b, s.store.rows.buyers.get? k = some b → (w.rows.buyers.get? k).isSome = true) :
    Fate d (s.record t e w) requestId := by
  have hcount : occurrences (reviews requestId) (s.record t e w).hist =
      occurrences (reviews requestId) s.hist := occurrences_cons_of_not he t
  cases h with
  | untouched hhist hrow' => exact .untouched (hcount.trans hhist) (hrow.trans hrow')
  | decided u review x hhist hcall hd hopen hrow' hmade =>
    refine .decided u review x (hcount.trans hhist) (List.mem_cons_of_mem _ hcall) hd hopen
      (hrow.trans hrow') fun hmaterialised => ?_
    obtain ⟨happroved, k, hk, hsome⟩ := hmade hmaterialised
    obtain ⟨b, hb⟩ := Option.isSome_iff_exists.1 hsome
    exact ⟨happroved, k, hk, hkept k b hb⟩

/-- A review of an open request decides it. -/
theorem Fate.review (h : Fate d s requestId) {review : Review} {x : BuyerOnboardingRequestRecord}
    (hx : s.store.rows.requests.get? requestId = some x) (hopen : Reviewable x.status) {w : Db BuyerRows}
    (hrow : w.rows.requests.get? requestId = some (Repo.setRequestReview review x))
    (hmade : review.materialised = true → review.decision = .approved ∧
      ∃ k, review.linkedBuyerId = some k ∧ (w.rows.buyers.get? k).isSome = true) :
    Fate d (s.record t (some (.own (.requestReviewed requestId review))) w) requestId := by
  obtain ⟨hnone, hd⟩ := h.untouched_of_open hx hopen
  refine .decided t review x ?_ List.mem_cons_self hd hopen hrow hmade
  rw [State.record_hist, occurrences_cons_of_pos (decide_eq_true rfl), hnone]

/-- Only a review of an open request leaves it decided once. -/
theorem Fate.open_of_review (h : Fate d s requestId) {review : Review} {w : Db BuyerRows}
    (h' : Fate d (s.record t (some (.own (.requestReviewed requestId review))) w) requestId) :
    ∃ x ∈ s.store.rows.requests.get? requestId, Reviewable x.status := by
  have hcount : occurrences (reviews requestId)
      (s.record t (some (.own (.requestReviewed requestId review))) w).hist =
        occurrences (reviews requestId) s.hist + 1 := occurrences_cons_of_pos (decide_eq_true rfl) t
  cases h' with
  | untouched hhist hrow => omega
  | decided u review' x hhist hcall hd hopen hrow hmade =>
    cases h with
    | untouched _ hrow' => exact ⟨x, hrow'.trans hd, hopen⟩
    | decided _ _ _ hhist' => omega

/-- The step lemma: the condition decides whether every request is still decided at most once. -/
theorem decidedOnce_step (h : DecidedOnce d s) {e : BuyerAct} {w : Db BuyerRows} {r' : BuyerRows}
    (hw : w.rows = r') {l : List (Option (Did BuyerAct))} (he : BuyerEffect l s.store.rows e r') :
    DecidedOnce d (s.record t (some (.own e)) w) ↔ StillOpen s t (.own e) := by
  cases he with
  | onBuyers _ _ hne hrequests hkept =>
    have hother : ∀ k, reviews k (some (.own e)) = false := by
      intro k
      cases e with
      | requestReviewed requestId review => exact absurd rfl (hne requestId review)
      | _ => rfl
    refine iff_of_true (fun k => (h k).keep (hother k) (by rw [hw, hrequests]) (hw ▸ hkept)) ?_
    cases e with
    | requestReviewed requestId review => exact absurd rfl (hne requestId review)
    | _ => trivial
  | requestReviewed requestId review buyers hkept hmade =>
    constructor
    · exact fun h' => (h requestId).open_of_review (h' requestId)
    · rintro ⟨x, hx, hopen⟩ k
      -- the `UPDATE` writes the row of this request only
      by_cases hk : k = requestId
      · subst hk
        refine (h k).review hx hopen ?_ (hw ▸ hmade)
        rw [hw, Table.get?_update_key, hx, Option.map_some]
      · refine (h k).keep (decide_eq_false fun hid => hk hid.symm) ?_ (hw ▸ hkept)
        rw [hw, Table.get?_update_key_of_ne hk]

end Step

/-- The runs on which every request is decided at most once, with one buyer at most made from it and only
for an approval that links it, are the runs whose reviews commit while the request is open. -/
theorem decidedOnce_iff (cfg : Config) (env : Env) (screening : Screening) (d : Db BuyerRows)
    (s : Sys (Db BuyerRows) Input (Did BuyerAct) RisError) :
    Relation.ReflTransGen
        (fun s s' => Step (buyerProgram cfg env screening) always s s' ∧ DecidedOnce d.rows s'.toState)
        (Sys.init d) s ↔
      Reaches (buyerProgram cfg env screening) StillOpen (Sys.init d) s := by
  refine Effects.runs_iff (P := DecidedOnce d.rows) (buyerProgram_covers cfg env screening) ?_ ?_ ?_ s
  · exact fun s t h k => (h k).keep rfl rfl fun k b hb => by rw [hb]; rfl
  · exact fun k => .untouched rfl rfl
  · intro s t e w h heff
    cases e with
    | own e => exact decidedOnce_step h rfl heff
    | _ =>
      have hrows : w.rows = s.store.rows := heff
      refine iff_of_true (fun k => (h k).keep rfl (by rw [hrows]) ?_) trivial
      exact fun k b hb => by rw [hrows, hb]; rfl

/-! ## Two reviews that overlap -/

/-- A supplier's request for a buyer. -/
def sampleRequest : Db BuyerRows where
  rows :=
    { buyers := .empty
      requests := .single
        { id := 1, supplierId := 10, companyName := "Acme", registrationNumber := some "R-1" } }

/-- A list with one entry, for names in ASCII. -/
def sampleScreening : Screening where
  entries := [{ name := "Phantom Supplies Uganda", registrationNumber := some "UG-TEST-002", reason := "Test" }]
  toLowerCase s := String.ofList (s.toList.map Char.toLower)

/-- Two reviewers read the open request; one approves it, which makes a buyer, and then the other rejects
it: the decision changes, and the buyer stays, linked to nothing. -/
theorem decided_twice :
    ∃ s s', Reaches (buyerProgram {} sampleEnv sampleScreening) always (Sys.init sampleRequest) s ∧
      Reaches (buyerProgram {} sampleEnv sampleScreening) always s s' ∧
      (s.store.rows.requests.get? 1).map (fun x => (x.status, x.linkedBuyerId)) = some (.approved, some 7) ∧
      (s'.store.rows.requests.get? 1).map (fun x => (x.status, x.linkedBuyerId)) = some (.rejected, none) ∧
      (s'.store.rows.buyers.get? 7).map BuyerRecord.companyName = some "Acme" ∧
      occurrences (reviews 1) s'.hist = 2 := by
  obtain ⟨s, s', hs, hs', hP⟩ := exists_reaches_reaches (buyerProgram {} sampleEnv sampleScreening) always
    (Sys.init sampleRequest)
    [.start (.reviewBuyerOnboardingRequest 1 20 { status := .approved } {}),
      .start (.reviewBuyerOnboardingRequest 1 30 { status := .rejected } {}), .move 0 {}, .move 1 {},
      .move 0 { uuid := 7 }]
    [.move 1 {}]
    (fun s s' =>
      (s.store.rows.requests.get? 1).map (fun x => (x.status, x.linkedBuyerId)) = some (.approved, some 7) ∧
        (s'.store.rows.requests.get? 1).map (fun x => (x.status, x.linkedBuyerId)) = some (.rejected, none) ∧
        (s'.store.rows.buyers.get? 7).map BuyerRecord.companyName = some "Acme" ∧
        occurrences (reviews 1) s'.hist = 2)
    (by decide)
  exact ⟨s, s', hs, hs', of_decide_eq_true hP⟩

end Ris.Onboarding
