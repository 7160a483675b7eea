import RisPlatform.Common.Runs
import RisPlatform.Onboarding.DecidedOnce

/-!
# The sanctions screening of buyers

Every buyer whose name or number is on the list should have its `sanctions_flag` set, after every
sequence of operations and whichever of their statements fail. `createBuyer` sets the flag by statements
after the one that inserts the row, and the other two operations that write names do not screen.
`screened_iff` says which sequences keep the rule.
-/

namespace Ris.Onboarding

open Relational Concurrent Utf16

/-! ## The rule -/

/-- The company is on the list: by its name, whatever the case, or by its number. -/
def Listed (screening : Screening) (companyName registrationNumber : String) : Prop :=
  ∃ entry ∈ screening.entries, screening.toLowerCase entry.name = screening.toLowerCase companyName ∨
    registrationNumber ≠ "" ∧ entry.registrationNumber = some registrationNumber

instance (screening : Screening) (companyName registrationNumber : String) :
    Decidable (Listed screening companyName registrationNumber) := by
  unfold Listed
  infer_instance

/-- Every buyer on the list has its flag set. -/
def Screened (screening : Screening) (r : BuyerRows) : Prop :=
  ∀ b ∈ r.buyers.rows, Listed screening b.companyName b.registrationNumber → b.sanctionsFlag = true

instance (screening : Screening) (r : BuyerRows) : Decidable (Screened screening r) := by
  unfold Screened
  infer_instance

/-- The screening finds the companies on the list. -/
theorem findSanctionsMatch_eq_none {screening : Screening} {companyName registrationNumber : String} :
    findSanctionsMatch screening companyName registrationNumber = none ↔
      ¬Listed screening companyName registrationNumber := by
  simp only [findSanctionsMatch, List.find?_eq_none, Listed, Screening.hits, decide_eq_true_eq, not_exists,
    not_and]
  exact forall₂_congr fun entry _ => not_congr (or_congr_right and_comm)

/-! ## What the rule sees of a buyer -/

structure Shown where
  id : ℕ
  companyName : String
  registrationNumber : String
  sanctionsFlag : Bool

def BuyerRecord.shown (b : BuyerRecord) : Shown where
  id := b.id
  companyName := b.companyName
  registrationNumber := b.registrationNumber
  sanctionsFlag := b.sanctionsFlag

def BuyerRows.shown (r : BuyerRows) : List Shown := r.buyers.rows.map BuyerRecord.shown

/-- The flag of one buyer is set. -/
def raise (recordId : ℕ) (l : List Shown) : List Shown :=
  l.map fun x => if x.id = recordId then { x with sanctionsFlag := true } else x

theorem screened_iff_shown {screening : Screening} {r : BuyerRows} :
    Screened screening r ↔ ∀ x ∈ r.shown, Listed screening x.companyName x.registrationNumber →
      x.sanctionsFlag = true := by
  rw [BuyerRows.shown, List.forall_mem_map]
  rfl

theorem screened_congr {screening : Screening} {r r' : BuyerRows} (h : r'.shown = r.shown) :
    Screened screening r' ↔ Screened screening r := by
  rw [screened_iff_shown, screened_iff_shown, h]

theorem Screened.of_store {screening : Screening} {d d' : Db BuyerRows} (h : Screened screening d.rows)
    (hd : d' = d) : Screened screening d'.rows := hd ▸ h

/-- A new buyer keeps the rule if its flag is set. -/
theorem screened_raise {screening : Screening} {r r' : BuyerRows} (h : Screened screening r) {x : Shown}
    (hr' : r'.shown = raise x.id (r.shown ++ [x])) : Screened screening r' := by
  rw [screened_iff_shown, hr', raise, List.forall_mem_map]
  intro y hy hlisted
  by_cases hid : y.id = x.id
  · rw [if_pos hid]
  · rw [if_neg hid] at hlisted ⊢
    rcases List.mem_append.1 hy with hold | hnew
    · exact screened_iff_shown.1 h y hold hlisted
    · obtain rfl := List.mem_singleton.1 hnew
      exact absurd rfl hid

/-- A new buyer whose flag is not set keeps the rule if it is not on the list. -/
theorem screened_insert {screening : Screening} {r r' : BuyerRows} (h : Screened screening r) {x : Shown}
    (hr' : r'.shown = r.shown ++ [x]) (hx : x.sanctionsFlag = false) :
    Screened screening r' ↔ ¬Listed screening x.companyName x.registrationNumber := by
  rw [screened_iff_shown, hr', List.forall_mem_append, List.forall_mem_singleton, hx]
  refine ⟨fun hall hlisted => Bool.false_ne_true (hall.2 hlisted), fun hunlisted => ⟨?_, fun h => ?_⟩⟩
  · exact screened_iff_shown.1 h
  · exact absurd h hunlisted

/-! ## Statements -/

section Statements

variable {i : Input} {d d' : Db BuyerRows} {ins : ℕ → Input} {n : ℕ}

/-- A buyer with this id, number and limit can be inserted. -/
def CanInsert (r : BuyerRows) (id : ℕ) (registrationNumber : String) (approvedLimit : ℤ) : Prop :=
  r.buyers.get? id = none ∧ Repo.buyerRegistrationNumberExists registrationNumber r = false ∧
    0 < approvedLimit

instance (r : BuyerRows) (id : ℕ) (registrationNumber : String) (approvedLimit : ℤ) :
    Decidable (CanInsert r id registrationNumber approvedLimit) := by
  unfold CanInsert
  infer_instance

theorem createBuyer_of_canInsert (data : BuyerRecord)
    (h : CanInsert d.rows data.id data.registrationNumber data.approvedLimit) :
    ∃ buyers, d.rows.buyers.insert? data = some buyers ∧
      Repo.createBuyer data i d = .ok ((), { d with rows := { d.rows with buyers := buyers } }) := by
  obtain ⟨hid, hnumber, hlimit⟩ := h
  cases hinsert : d.rows.buyers.insert? data with
  | none =>
    obtain ⟨b, hb⟩ := Table.exists_of_insert?_none hinsert
    rw [hid] at hb
    cases hb
  | some buyers =>
    refine ⟨buyers, rfl, ?_⟩
    rw [Repo.createBuyer, if_neg (not_le.2 hlimit)]
    simp only [Txn.bind_ok, Db.read_ok]
    exact ⟨_, _, ⟨rfl, rfl⟩, _, _, ⟨hinsert, rfl⟩, by rw [hnumber]; rfl⟩

theorem createBuyer_of_not (data : BuyerRecord)
    (h : ¬CanInsert d.rows data.id data.registrationNumber data.approvedLimit) :
    ∃ e, Repo.createBuyer data i d = .error e := by
  cases hrun : Repo.createBuyer data i d with
  | error e => exact ⟨e, rfl⟩
  | ok x =>
    obtain ⟨u, d'⟩ := x
    obtain ⟨buyers, hinsert, hnumber, hlimit, -⟩ := createBuyer_ok hrun
    exact absurd ⟨Table.get?_insert?_fresh hinsert, hnumber, hlimit⟩ h

theorem shown_insert {data : BuyerRecord} {buyers : Table BuyerRecord.id}
    (h : d.rows.buyers.insert? data = some buyers) :
    ({ d.rows with buyers := buyers } : BuyerRows).shown = d.rows.shown ++ [data.shown] := by
  rw [BuyerRows.shown, BuyerRows.shown, Table.rows_insert? h, List.map_append, List.map_singleton]

/-- An update of one buyer, as the rule sees it. -/
theorem shown_updateBuyerRow {buyerId : ℕ} {f : BuyerRecord → BuyerRecord}
    {hf : ∀ b, (f b).id = b.id} {u : Unit}
    (h : Repo.updateBuyerRow buyerId f hf i d = .ok (u, d')) :
    d'.rows.shown = d.rows.buyers.rows.map fun b => if b.id = buyerId then (f b).shown else b.shown := by
  obtain rfl := Db.write_ok.1 h
  rw [BuyerRows.shown, Table.rows_update, List.map_map]
  refine List.map_congr_left fun b _ => ?_
  by_cases hb : b.id = buyerId <;> simp [hb]

theorem play_updateBuyerRow (hn : (ins n).fault = none) (buyerId : ℕ) (f : BuyerRecord → BuyerRecord)
    (hf : ∀ b, (f b).id = b.id) (committed : Unit → BuyerAct) :
    ∃ d', (Db.transaction (Repo.updateBuyerRow buyerId f hf) committed).play ins n d = (.ok (), d', n + 1) ∧
      d'.rows.shown = d.rows.buyers.rows.map fun b => if b.id = buyerId then (f b).shown else b.shown := by
  have hok : Repo.updateBuyerRow buyerId f hf (ins n) d = .ok ((), _) := Db.write_ok.2 rfl
  exact ⟨_, Db.play_transaction hn hok, shown_updateBuyerRow hok⟩

end Statements

/-! ## The screening -/

section Check

variable {screening : Screening} {companyName registrationNumber : String} {recordId userId : ℕ}
  {req : Request} {d : Db BuyerRows} {ins : ℕ → Input} {n : ℕ}

/-- The statements that set and log a designation, if there is one. -/
def pepStatements (screening : Screening) (companyName : String) : ℕ :=
  if hasPepEntry screening companyName then 2 else 0

/-- None of `count` statements fails, the first of them the one of number `n`. -/
def Succeed (ins : ℕ → Input) (n count : ℕ) : Prop := ∀ k < count, (ins (n + k)).fault = none

instance (count : ℕ) : Decidable (Succeed ins n count) := by
  unfold Succeed
  infer_instance

/-- The statements of the screening succeed up to the one that sets the flag: the list is loaded, a
designation is set, and the flag. -/
def Completes (screening : Screening) (companyName : String) (ins : ℕ → Input) (n : ℕ) : Prop :=
  Succeed ins n (pepStatements screening companyName + 2)

instance : Decidable (Completes screening companyName ins n) := by
  unfold Completes
  infer_instance

theorem succeed_add {j k : ℕ} : Succeed ins n (j + k) ↔ Succeed ins n j ∧ Succeed ins (n + j) k := by
  constructor
  · refine fun h => ⟨fun m hm => h m (by omega), fun m hm => ?_⟩
    rw [Nat.add_assoc]
    exact h (j + m) (by omega)
  · rintro ⟨hj, hk⟩ m hm
    by_cases hlt : m < j
    · exact hj m hlt
    · have hshift : n + m = n + j + (m - j) := by omega
      rw [hshift]
      exact hk (m - j) (by omega)

theorem succeed_one : Succeed ins n 1 ↔ (ins n).fault = none := by
  refine ⟨fun h => h 0 Nat.one_pos, fun h k hk => ?_⟩
  obtain rfl : k = 0 := by omega
  exact h

theorem completes_iff :
    Completes screening companyName ins n ↔
      (ins n).fault = none ∧ Succeed ins (n + 1) (pepStatements screening companyName) ∧
        (ins (n + 1 + pepStatements screening companyName)).fault = none := by
  have hcount : pepStatements screening companyName + 2 = 1 + (pepStatements screening companyName + 1) := by
    omega
  rw [Completes, hcount, succeed_add, succeed_add, succeed_one, succeed_one]

/-- A designation does not show. -/
theorem shown_pep {r r' : BuyerRows}
    (h : r'.shown = r.buyers.rows.map fun b =>
      if b.id = recordId then ({ b with pepDesignation := true } : BuyerRecord).shown else b.shown) :
    r'.shown = r.shown := by
  rw [h, BuyerRows.shown]
  refine List.map_congr_left fun b _ => ?_
  split <;> rfl

theorem play_loadSanctionsList :
    ((ins n).fault = none ∧ screening.entries ≠ [] ∧
        (loadSanctionsList screening).play ins n d = (.ok (), d, n + 1)) ∨
      (¬((ins n).fault = none ∧ screening.entries ≠ []) ∧
        ∃ e n', (loadSanctionsList screening).play ins n d = (.error e, d, n')) := by
  unfold loadSanctionsList
  by_cases hempty : screening.entries = []
  · exact Or.inr ⟨fun h => h.2 hempty, _, n, by rw [if_pos hempty]; rfl⟩
  · rw [if_neg hempty]
    by_cases hn : (ins n).fault = none
    · exact Or.inl ⟨hn, hempty, Db.play_log hn _⟩
    · exact Or.inr ⟨fun h => hn h.1, Db.play_log_fault hn _⟩

theorem play_checkPepDesignation :
    (Succeed ins n (pepStatements screening companyName) ∧
        ∃ d', (checkPepDesignation screening companyName recordId).play ins n d =
          (.ok (), d', n + pepStatements screening companyName) ∧ d'.rows.shown = d.rows.shown) ∨
      (¬Succeed ins n (pepStatements screening companyName) ∧
        ∃ e d' n', (checkPepDesignation screening companyName recordId).play ins n d = (.error e, d', n') ∧
          d'.rows.shown = d.rows.shown) := by
  unfold checkPepDesignation pepStatements
  by_cases hpep : hasPepEntry screening companyName = true
  · rw [if_pos hpep, if_pos hpep]
    by_cases hset : (ins n).fault = none
    · obtain ⟨d', hd', hshown⟩ := play_updateBuyerRow (d := d) hset recordId
        (fun b => { b with pepDesignation := true }) (fun _ => rfl) fun _ => BuyerAct.pepDesignated recordId
      by_cases hlog : (ins (n + 1)).fault = none
      · refine Or.inl ⟨succeed_add.2 ⟨succeed_one.2 hset, succeed_one.2 hlog⟩, d', ?_, shown_pep hshown⟩
        exact (Proc.play_bind_ok hd').trans (Db.play_log hlog _)
      · refine Or.inr ⟨fun h => hlog (succeed_one.1 (succeed_add.1 h).2), ?_⟩
        obtain ⟨e, n', he⟩ := Db.play_log_fault (R := BuyerRows) (ℓ := BuyerAct) (d := d') hlog
          "PEP_DESIGNATION_SET"
        exact ⟨e, d', n', (Proc.play_bind_ok hd').trans he, shown_pep hshown⟩
    · refine Or.inr ⟨fun h => hset (h 0 Nat.two_pos), ?_⟩
      have hfault : ∃ e, (Db.transaction (Repo.setBuyerPepDesignation recordId true)
          (fun _ => BuyerAct.pepDesignated recordId) >>= fun _ =>
            Db.log "PEP_DESIGNATION_SET").play ins n d = (.error e, d, n + 1) := Db.play_fault hset
      obtain ⟨e, he⟩ := hfault
      exact ⟨e, d, n + 1, he, rfl⟩
  · rw [if_neg hpep, if_neg hpep]
    exact Or.inl ⟨fun k hk => absurd hk (Nat.not_lt_zero k), d, rfl, rfl⟩

theorem shown_raise {r r' : BuyerRows}
    (h : r'.shown = r.buyers.rows.map fun b =>
      if b.id = recordId then ({ b with sanctionsFlag := true } : BuyerRecord).shown else b.shown) :
    r'.shown = raise recordId r.shown := by
  rw [h, raise, BuyerRows.shown, List.map_map]
  refine List.map_congr_left fun b _ => ?_
  show _ = if b.id = recordId then _ else _
  split <;> rfl

theorem rows_raiseSanctionsFlag {found : SanctionsEntry} :
    ((raiseSanctionsFlag recordId found userId req).play ins n d).2.1.rows.shown =
      if (ins n).fault = none then raise recordId d.rows.shown else d.rows.shown := by
  unfold raiseSanctionsFlag
  have hidle : ∀ a : Unit, Db.Idle (R := BuyerRows) (ℓ := BuyerAct) (do
      Db.audit (auditRow userId "SANCTIONS_FLAG_RAISED" "buyers" recordId []
        [("matchedEntryRegNo", .text (found.registrationNumber.getD "unknown")),
          ("reason", .text found.reason)] req)
      Db.log "SANCTIONS_FLAG_RAISED"
      throw (.businessRule "SANCTIONS_MATCH"
        "Entity failed sanctions screening — creation blocked pending compliance review") :
        BuyerCall Unit) := fun _ =>
    (Db.idle_audit _).bind fun _ => (Db.idle_log _).bind fun _ => Db.idle_throw _
  by_cases hn : (ins n).fault = none
  · obtain ⟨d', hd', hshown⟩ := play_updateBuyerRow (d := d) hn recordId
      (fun b => { b with sanctionsFlag := true }) (fun _ => rfl) fun _ => BuyerAct.sanctionsFlagged recordId
    rw [if_pos hn, ← shown_raise hshown]
    refine congrArg BuyerRows.shown ((Db.play_bind_idle hidle).trans ?_)
    exact congrArg (fun x => x.2.1.rows) hd'
  · obtain ⟨e, he⟩ : ∃ e, (raiseSanctionsFlag recordId found userId req).play ins n d = (.error e, d, n + 1) :=
      Db.play_fault hn
    rw [if_neg hn]
    exact congrArg (fun x => x.2.1.rows.shown) he

/-- The screening sets the flag of a company on the list, unless a statement up to that one fails. -/
theorem shown_checkSanctions (userId : ℕ) (req : Request) :
    ((checkSanctions screening companyName registrationNumber recordId userId req).play
        ins n d).2.1.rows.shown =
      if Listed screening companyName registrationNumber ∧ Completes screening companyName ins n then
        raise recordId d.rows.shown
      else d.rows.shown := by
  unfold checkSanctions
  rcases play_loadSanctionsList with ⟨hn, -, hload⟩ | ⟨hfails, e, n', hload⟩
  · rw [Proc.play_bind_ok hload]
    rcases play_checkPepDesignation with ⟨hpep, d', hd', hshown⟩ | ⟨hpep, e, d', n', hd', hshown⟩
    · rw [Proc.play_bind_ok hd']
      cases hfound : findSanctionsMatch screening companyName registrationNumber with
      | none =>
        rw [if_neg fun h => findSanctionsMatch_eq_none.1 hfound h.1]
        exact hshown
      | some found =>
        have hlisted : Listed screening companyName registrationNumber := by
          by_contra hunlisted
          rw [findSanctionsMatch_eq_none.2 hunlisted] at hfound
          cases hfound
        refine rows_raiseSanctionsFlag.trans ?_
        simp only [completes_iff, hlisted, hn, hpep, true_and, hshown]
    · rw [Proc.play_bind_error hd', if_neg fun h => hpep (completes_iff.1 h.2).2.1]
      exact hshown
  · rw [Proc.play_bind_error hload]
    refine (if_neg ?_).symm
    rintro ⟨⟨entry, hentry, -⟩, hcompletes⟩
    exact hfails ⟨(completes_iff.1 hcompletes).1, List.ne_nil_of_mem hentry⟩

end Check

/-! ## The operations -/

section Operations

variable {cfg : Config} {env : Env} {screening : Screening} {i : Input} {d : Db BuyerRows} {ins : ℕ → Input}

/-- The row of a new buyer can be written: its contacts can be encrypted and it can be inserted. -/
def Inserts (env : Env) (i : Input) (data : BuyerCreation) (r : BuyerRows) : Prop :=
  (∃ email, encrypt env i 0 data.contactEmail = .ok email) ∧
    (∃ phone, encrypt env i 1 data.contactPhone = .ok phone) ∧
    CanInsert r i.uuid data.registrationNumber data.approvedLimit

/-- `createBuyer` writes a row: the number is looked up, and then the row is written. -/
def Creates (env : Env) (ins : ℕ → Input) (data : BuyerCreation) (r : BuyerRows) : Prop :=
  Succeed ins 0 2 ∧ Inserts env (ins 1) data r

theorem insertBuyerRecord_of_inserts {data : BuyerCreation} (h : Inserts env i data d.rows)
    (createdBy : ℕ) :
    ∃ d', insertBuyerRecord env data createdBy i d = .ok (i.uuid, d') ∧
      d'.rows.shown = d.rows.shown ++ [⟨i.uuid, data.companyName, data.registrationNumber, false⟩] := by
  obtain ⟨⟨email, hemail⟩, ⟨phone, hphone⟩, hcan⟩ := h
  obtain ⟨buyers, hinsert, hcreate⟩ :=
    createBuyer_of_canInsert (i := i) (data.row i.uuid email phone createdBy) hcan
  refine ⟨{ d with rows := { d.rows with buyers := buyers } }, ?_, shown_insert hinsert⟩
  simp only [insertBuyerRecord, Txn.bind_ok, Db.uuid_ok, Txn.input_ok, Txn.lift_ok, Txn.pure_ok]
  exact ⟨_, _, ⟨rfl, rfl⟩, _, _, ⟨rfl, rfl⟩, _, _, ⟨hemail, rfl⟩, _, _, ⟨hphone, rfl⟩, _, _, hcreate, rfl, rfl⟩

theorem insertBuyerRecord_of_not {data : BuyerCreation} (h : ¬Inserts env i data d.rows)
    (createdBy : ℕ) :
    ∃ e, insertBuyerRecord env data createdBy i d = .error e := by
  cases hrun : insertBuyerRecord env data createdBy i d with
  | error e => exact ⟨e, rfl⟩
  | ok x =>
    obtain ⟨buyerId, d'⟩ := x
    simp only [insertBuyerRecord, Txn.bind_ok, Db.uuid_ok, Txn.input_ok, Txn.lift_ok, Txn.pure_ok] at hrun
    obtain ⟨_, _, ⟨rfl, rfl⟩, _, _, ⟨rfl, rfl⟩, _, _, ⟨hemail, rfl⟩, _, _, ⟨hphone, rfl⟩, _, _, hcreate, -⟩ :=
      hrun
    refine absurd ⟨⟨_, hemail⟩, ⟨_, hphone⟩, ?_⟩ h
    by_contra hcannot
    obtain ⟨e, he⟩ := createBuyer_of_not (data.row _ _ _ _) hcannot
    rw [he] at hcreate
    cases hcreate

theorem succeed_two {n : ℕ} : Succeed ins n 2 ↔ (ins n).fault = none ∧ (ins (n + 1)).fault = none := by
  rw [← succeed_one, ← succeed_one]
  exact succeed_add (j := 1) (k := 1)

/-- What follows the insertion of a buyer. -/
theorem shown_postBuyerCreation (buyerId : ℕ) (data : BuyerCreation) (createdBy : ℕ)
    (req : Request) (n : ℕ)
    (d : Db BuyerRows) :
    ((do postBuyerCreation screening buyerId data createdBy req; return buyerId : BuyerCall ℕ).play
        ins n d).2.1.rows.shown =
      if Listed screening data.companyName data.registrationNumber ∧
          Completes screening data.companyName ins n then
        raise buyerId d.rows.shown
      else d.rows.shown := by
  refine Eq.trans ?_ (shown_checkSanctions createdBy req)
  refine congrArg BuyerRows.shown ((Db.play_bind_idle fun _ => Db.idle_pure buyerId).trans ?_)
  exact Db.play_bind_idle fun _ => (Db.idle_audit _).bind fun _ => Db.idle_log _

theorem screened_createBuyer (h : Screened screening d.rows) (data : BuyerCreation) (createdBy : ℕ)
    (req : Request) :
    Screened screening ((createBuyer env screening data createdBy req).play ins 0 d).2.1.rows ↔
      (Creates env ins data d.rows → Listed screening data.companyName data.registrationNumber →
        Completes screening data.companyName ins 2) := by
  unfold createBuyer
  by_cases hquery : (ins 0).fault = none
  · rw [Proc.play_bind_ok (Db.play_query hquery _)]
    by_cases hc : Creates env ins data d.rows
    · have hinsert : (ins 1).fault = none := (succeed_two.1 hc.1).2
      have hfree : Repo.buyerRegistrationNumberExists data.registrationNumber d.rows = false :=
        hc.2.2.2.2.1
      obtain ⟨d', hd', hshown⟩ := insertBuyerRecord_of_inserts hc.2 createdBy
      rw [if_neg (by simp [hfree]), Proc.play_bind_ok (Db.play_transaction hinsert hd')]
      have hpost := @shown_postBuyerCreation screening ins (ins 1).uuid data createdBy req 2 d'
      rw [hshown] at hpost
      by_cases hraised : Listed screening data.companyName data.registrationNumber ∧
          Completes screening data.companyName ins 2
      · rw [if_pos hraised] at hpost
        exact iff_of_true (screened_raise h (x := ⟨(ins 1).uuid, _, _, false⟩) hpost) fun _ _ => hraised.2
      · rw [if_neg hraised] at hpost
        refine (screened_insert h hpost rfl).trans ?_
        exact ⟨fun hunlisted _ hlisted => absurd hlisted hunlisted,
          fun hcond hlisted => hraised ⟨hlisted, hcond hc hlisted⟩⟩
    · refine iff_of_true ?_ fun hc' => absurd hc' hc
      split
      · exact h
      · refine h.of_store ?_
        by_cases hinsert : (ins 1).fault = none
        · obtain ⟨e, he⟩ := insertBuyerRecord_of_not (i := ins 1) (d := d)
            (fun hinserts => hc ⟨succeed_two.2 ⟨hquery, hinsert⟩, hinserts⟩) createdBy
          exact Db.store_of_abort he
        · exact Db.store_of_fault hinsert
  · refine iff_of_true ?_ fun hc => absurd (succeed_two.1 hc.1).1 hquery
    exact h.of_store (Db.store_of_fault hquery)

/-- The fields of an update can be written. -/
def Updates (env : Env) (ins : ℕ → Input) (data : BuyerUpdate) : Prop :=
  Succeed ins 0 2 ∧ (∃ email, encryptGiven env (ins 1) 0 data.contactEmail = .ok email) ∧
    (∃ phone, encryptGiven env (ins 1) 1 data.contactPhone = .ok phone) ∧
    data.approvedLimit.any (· ≤ 0) = false

/-- The new name, if there is one, is not on the list, unless the buyer is flagged already. -/
def RenamedOffList (screening : Screening) (buyerId : ℕ) (data : BuyerUpdate) (r : BuyerRows) : Prop :=
  ∀ b ∈ r.buyers.get? buyerId, ∀ name ∈ data.companyName,
    Listed screening name b.registrationNumber → b.sanctionsFlag = true

theorem screened_assignFields {r r' : BuyerRows} (h : Screened screening r) {buyerId : ℕ}
    {data : BuyerUpdate}
    {email phone : Option Text}
    (hr' : r'.shown = r.buyers.rows.map fun b =>
      if b.id = buyerId then (assignFields data email phone b).shown else b.shown) :
    Screened screening r' ↔ RenamedOffList screening buyerId data r := by
  rw [screened_iff_shown, hr', List.forall_mem_map]
  constructor
  · intro hall b hb name hname hlisted
    have hrow := hall b (Table.mem_of_get? hb)
    rw [if_pos (Table.key_of_get? hb)] at hrow
    refine hrow ?_
    show Listed screening (data.companyName.getD b.companyName) b.registrationNumber
    rw [Option.mem_def.1 hname]
    exact hlisted
  · intro hrenamed b hb hlisted
    by_cases hid : b.id = buyerId
    · rw [if_pos hid] at hlisted ⊢
      cases hname : data.companyName with
      | none =>
        refine h b hb ?_
        have hkept : (assignFields data email phone b).companyName = b.companyName := by
          rw [assignFields, hname]
          rfl
        exact hkept ▸ hlisted
      | some name =>
        refine hrenamed b (hid ▸ Table.get?_of_mem hb) name hname ?_
        have hnamed : (assignFields data email phone b).companyName = name := by
          rw [assignFields, hname]
          rfl
        exact hnamed ▸ hlisted
    · rw [if_neg hid] at hlisted ⊢
      exact h b hb hlisted

theorem updateBuyerFields_of_updates {data : BuyerUpdate} (h : Updates env ins data) (buyerId : ℕ) :
    ∃ d', updateBuyerFields env buyerId data (ins 1) d = .ok ((), d') ∧ ∃ email phone,
      d'.rows.shown = d.rows.buyers.rows.map fun b =>
        if b.id = buyerId then (assignFields data email phone b).shown else b.shown := by
  obtain ⟨-, ⟨email, hemail⟩, ⟨phone, hphone⟩, hlimit⟩ := h
  have hwrite : Repo.updateBuyerRow buyerId (assignFields data email phone) (id_assignFields data email phone)
      (ins 1) d = .ok ((), _) := Db.write_ok.2 rfl
  refine ⟨_, ?_, email, phone, shown_updateBuyerRow hwrite⟩
  simp only [updateBuyerFields, Txn.bind_ok, Txn.input_ok, Txn.lift_ok]
  refine ⟨_, _, ⟨rfl, rfl⟩, _, _, ⟨hemail, rfl⟩, _, _, ⟨hphone, rfl⟩, ?_⟩
  rw [if_neg (by simp [hlimit])]
  exact hwrite

theorem updateBuyerFields_of_not {data : BuyerUpdate} (hsucceed : Succeed ins 0 2)
    (h : ¬Updates env ins data) (buyerId : ℕ) :
    ∃ e, updateBuyerFields env buyerId data (ins 1) d = .error e := by
  cases hrun : updateBuyerFields env buyerId data (ins 1) d with
  | error e => exact ⟨e, rfl⟩
  | ok x =>
    obtain ⟨u, d'⟩ := x
    simp only [updateBuyerFields, Txn.bind_ok, Txn.input_ok, Txn.lift_ok] at hrun
    obtain ⟨_, _, ⟨rfl, rfl⟩, _, _, ⟨hemail, rfl⟩, _, _, ⟨hphone, rfl⟩, hrun⟩ := hrun
    split at hrun
    · cases hrun
    · rename_i hlimit
      exact absurd ⟨hsucceed, ⟨_, hemail⟩, ⟨_, hphone⟩, Bool.eq_false_iff.2 hlimit⟩ h

theorem companyName_of_columns {data : BuyerUpdate} (h : data.columns = []) :
    data.companyName = none := by
  cases hname : data.companyName with
  | none => rfl
  | some name =>
    rw [BuyerUpdate.columns, hname, List.filterMap_cons] at h
    cases h

theorem screened_updateBuyerProfile (h : Screened screening d.rows) (buyerId : ℕ) (data : BuyerUpdate)
    (updatedBy : ℕ) (req : Request) :
    Screened screening ((updateBuyerProfile env buyerId data updatedBy req).play ins 0 d).2.1.rows ↔
      (Updates env ins data → RenamedOffList screening buyerId data d.rows) := by
  unfold updateBuyerProfile
  by_cases hquery : (ins 0).fault = none
  · rw [Proc.play_bind_ok (Db.play_query hquery _)]
    cases hb : Repo.findBuyerById buyerId d.rows with
    | none =>
      refine iff_of_true h fun _ b hb' => ?_
      rw [show d.rows.buyers.get? buyerId = none from hb] at hb'
      cases hb'
    | some b =>
      dsimp only
      split
      · rename_i hcolumns
        refine iff_of_true h fun _ b _ name hname => ?_
        rw [companyName_of_columns hcolumns] at hname
        cases hname
      · by_cases hu : Updates env ins data
        · obtain ⟨d', hd', email, phone, hshown⟩ := updateBuyerFields_of_updates (d := d) hu buyerId
          rw [Proc.play_bind_ok (Db.play_transaction (succeed_two.1 hu.1).2 hd')]
          rw [((Db.idle_audit _).bind fun _ => Db.idle_log _).play, screened_assignFields h hshown]
          exact ⟨fun hrenamed _ => hrenamed, fun hcond => hcond hu⟩
        · refine iff_of_true (h.of_store ?_) fun hu' => absurd hu' hu
          by_cases hwrite : (ins 1).fault = none
          · obtain ⟨e, he⟩ :=
              updateBuyerFields_of_not (d := d) (succeed_two.2 ⟨hquery, hwrite⟩) hu buyerId
            exact Db.store_of_abort he
          · exact Db.store_of_fault hwrite
  · refine iff_of_true ?_ fun hu => absurd (succeed_two.1 hu.1).1 hquery
    exact h.of_store (Db.store_of_fault hquery)

/-- The number of the buyer that is made from a request. -/
def numberOf (request : BuyerOnboardingRequestRecord) : String :=
  request.registrationNumber.getD (autoRegistrationNumber request.id)

/-- A review makes a buyer from its request. -/
def Makes (i : Input) (data : ReviewBuyerRequestInput) (request : BuyerOnboardingRequestRecord)
    (r : BuyerRows) : Prop :=
  (data.status = .approved ∧ data.linkedBuyerId = none) ∧ CanInsert r i.uuid (numberOf request) 50000000

theorem shown_executeReviewBuyerRequestTx {request : BuyerOnboardingRequestRecord} {reviewerId : ℕ}
    {data : ReviewBuyerRequestInput} {req : Request} {review : Review} {d' : Db BuyerRows}
    (h : executeReviewBuyerRequestTx request reviewerId data req i d = .ok (review, d')) :
    (Makes i data request d.rows ∧
        d'.rows.shown = d.rows.shown ++ [⟨i.uuid, request.companyName, numberOf request, false⟩]) ∨
      (¬Makes i data request d.rows ∧ d'.rows.shown = d.rows.shown) := by
  obtain ⟨d₁, hlinked, -, hrows⟩ := executeReviewBuyerRequestTx_ok h
  have hshown : d'.rows.shown = d₁.rows.shown := by
    rw [hrows]
    rfl
  rw [hshown]
  unfold resolveLinkedBuyer at hlinked
  split at hlinked
  · rename_i hmakes
    simp only [materialiseBuyerFromRequest, Txn.bind_ok, Db.uuid_ok, Txn.pure_ok, Db.createAuditEntry_ok]
      at hlinked
    obtain ⟨buyerId, _, ⟨_, _, ⟨rfl, rfl⟩, _, _, hcreate, rfl, rfl⟩, _, _, rfl, -, rfl⟩ := hlinked
    obtain ⟨buyers, hinsert, hnumber, hlimit, rfl⟩ := createBuyer_ok hcreate
    exact Or.inl ⟨⟨hmakes, Table.get?_insert?_fresh hinsert, hnumber, hlimit⟩, shown_insert hinsert⟩
  · rename_i hnot
    obtain ⟨-, rfl⟩ := Txn.pure_ok.1 hlinked
    exact Or.inr ⟨fun hmakes => hnot hmakes.1, rfl⟩

theorem resolveLinkedBuyer_of_makes {request : BuyerOnboardingRequestRecord}
    {data : ReviewBuyerRequestInput}
    (h : Makes i data request d.rows) (reviewerId : ℕ) (req : Request) :
    ∃ d₁, resolveLinkedBuyer request reviewerId data req i d = .ok ((some i.uuid, true), d₁) ∧
      (d₁.rows.buyers.get? i.uuid).isSome = true := by
  obtain ⟨hmakes, hcan⟩ := h
  obtain ⟨buyers, hinsert, hcreate⟩ :=
    createBuyer_of_canInsert (i := i) (request.row i.uuid reviewerId) hcan
  have hmade : (buyers.get? i.uuid).isSome = true :=
    Option.isSome_iff_exists.2 ⟨_, (Table.get?_insert? hinsert _).trans (if_pos rfl)⟩
  have hbuyer : materialiseBuyerFromRequest request reviewerId i d = .ok (i.uuid, _) :=
    Txn.bind_ok.2 ⟨i.uuid, d, Db.uuid_ok.2 ⟨rfl, rfl⟩, Txn.bind_ok.2 ⟨(), _, hcreate, Txn.pure_ok.2 ⟨rfl, rfl⟩⟩⟩
  rw [resolveLinkedBuyer, if_pos hmakes]
  exact ⟨_, Txn.bind_ok.2 ⟨i.uuid, _, hbuyer, Txn.bind_ok.2
    ⟨(), _, Db.createAuditEntry_ok.2 rfl, Txn.pure_ok.2 ⟨rfl, rfl⟩⟩⟩, hmade⟩

/-- The linked buyer is the one inserted, so the foreign key holds. -/
theorem executeReviewBuyerRequestTx_of_makes {request : BuyerOnboardingRequestRecord}
    {data : ReviewBuyerRequestInput} (h : Makes i data request d.rows) (reviewerId : ℕ) (req : Request) :
    ∃ review d', executeReviewBuyerRequestTx request reviewerId data req i d = .ok (review, d') := by
  obtain ⟨d₁, hlinked, hmade⟩ := resolveLinkedBuyer_of_makes h reviewerId req
  have hupdate : ∀ review : Review, review.linkedBuyerId = some i.uuid →
      ∃ d₂, Repo.updateBuyerRequestStatusWithClient request.id review i d₁ = .ok ((), d₂) := by
    intro review hreview
    have hlinks : (review.linkedBuyerId.all fun b => (d₁.rows.buyers.get? b).isSome) = true := by
      rw [hreview]
      exact hmade
    simp [Repo.updateBuyerRequestStatusWithClient, hlinks]
  obtain ⟨d₂, hd₂⟩ := hupdate ⟨data.status, reviewerId, data.reviewerComments, some i.uuid, true⟩ rfl
  exact ⟨_, _, Txn.bind_ok.2 ⟨_, d₁, hlinked, Txn.bind_ok.2 ⟨(), d₂, hd₂, Txn.bind_ok.2
    ⟨(), _, Db.createAuditEntry_ok.2 rfl, Txn.pure_ok.2 ⟨rfl, rfl⟩⟩⟩⟩⟩

/-- The approval of a request does not make a buyer on the list. -/
def MakesOffList (screening : Screening) (ins : ℕ → Input) (requestId : ℕ)
    (data : ReviewBuyerRequestInput)
    (r : BuyerRows) : Prop :=
  ∀ request ∈ r.requests.get? requestId, Succeed ins 0 2 → Reviewable request.status →
    Makes (ins 1) data request r → ¬Listed screening request.companyName (numberOf request)

theorem screened_reviewBuyerOnboardingRequest (h : Screened screening d.rows) (requestId reviewerId : ℕ)
    (data : ReviewBuyerRequestInput) (req : Request) :
    Screened screening
        ((reviewBuyerOnboardingRequest cfg requestId reviewerId data req).play ins 0 d).2.1.rows ↔
      MakesOffList screening ins requestId data d.rows := by
  unfold reviewBuyerOnboardingRequest
  by_cases hquery : (ins 0).fault = none
  · rw [Proc.play_bind_ok (Db.play_see hquery _ _)]
    cases hrequest : Repo.getBuyerOnboardingRequestById requestId d.rows with
    | none =>
      refine iff_of_true h fun request hrequest' => ?_
      rw [show d.rows.requests.get? requestId = none from hrequest] at hrequest'
      cases hrequest'
    | some request =>
      have hiff : MakesOffList screening ins requestId data d.rows ↔
          (Succeed ins 0 2 → Reviewable request.status → Makes (ins 1) data request d.rows →
            ¬Listed screening request.companyName (numberOf request)) := by
        rw [MakesOffList, show d.rows.requests.get? requestId = some request from hrequest]
        simp only [Option.mem_def, Option.some.injEq, forall_eq']
      rw [hiff]
      dsimp only
      by_cases hopen : Reviewable request.status
      · rw [validateBuyerRequestReviewable, if_neg (not_not.2 hopen)]
        by_cases hcommit : (ins 1).fault = none
        · have hidle : ∀ a : Review, Db.Idle (R := BuyerRows) (ℓ := BuyerAct) (do
              Db.log "BUYER_REQUEST_REVIEWED"
              queueOnboardingNotification cfg "buyer_request_reviewed"
                [("requestId", .id requestId), ("supplierId", .id request.supplierId)] : BuyerCall Unit) :=
            fun _ => (Db.idle_log _).bind fun _ => Db.idle_enqueueOrWarn _ _ _
          cases hrun : executeReviewBuyerRequestTx request reviewerId data req (ins 1) d with
          | error e =>
            refine iff_of_true (h.of_store (Db.store_of_abort hrun)) fun _ _ hmakes => ?_
            obtain ⟨review, d', hok⟩ := executeReviewBuyerRequestTx_of_makes hmakes reviewerId req
            rw [hrun] at hok
            cases hok
          | ok x =>
            obtain ⟨review, d'⟩ := x
            have hrows : ((Db.transaction (executeReviewBuyerRequestTx request reviewerId data req)
                (BuyerAct.requestReviewed request.id) >>= fun _ => do
                  Db.log "BUYER_REQUEST_REVIEWED"
                  queueOnboardingNotification cfg "buyer_request_reviewed"
                    [("requestId", .id requestId), ("supplierId", .id request.supplierId)]).play
                ins 1 d).2.1.rows = d'.rows := by
              rw [Db.play_bind_idle hidle, Db.play_transaction hcommit hrun]
            refine (iff_of_eq (congrArg (Screened screening) hrows)).trans ?_
            rcases shown_executeReviewBuyerRequestTx hrun with ⟨hmakes, hshown⟩ | ⟨hnot, hshown⟩
            · rw [screened_insert h hshown rfl]
              exact ⟨fun hunlisted _ _ _ => hunlisted,
                fun hcond => hcond (succeed_two.2 ⟨hquery, hcommit⟩) hopen hmakes⟩
            · rw [screened_congr hshown]
              exact iff_of_true h fun _ _ hmakes => absurd hmakes hnot
        · refine iff_of_true (h.of_store ?_) fun hsucceed => absurd (succeed_two.1 hsucceed).2 hcommit
          exact Db.store_of_fault hcommit
      · rw [validateBuyerRequestReviewable, if_pos hopen]
        exact iff_of_true h fun _ hopen' => absurd hopen' hopen
  · refine iff_of_true ?_ fun _ _ hsucceed => absurd (succeed_two.1 hsucceed).1 hquery
    exact h.of_store (Db.store_of_fault hquery)

end Operations

/-! ## Sequences of operations -/

/-- The store after an operation whose statements draw the inputs `x.2`. -/
def after (cfg : Config) (env : Env) (screening : Screening) (d : Db BuyerRows)
    (x : BuyerOp × (ℕ → Input)) : Db BuyerRows :=
  ((buyerProgram cfg env screening x.1).play x.2 0 d).2.1

/-- What an operation needs to keep the rule. A creation that writes a row on the list must reach the
statement that sets the flag, and the other operations must not write a name on the list. -/
def KeepsScreened (env : Env) (screening : Screening) (d : Db BuyerRows) : BuyerOp × (ℕ → Input) → Prop
  | (.createBuyer data _ _, ins) =>
    Creates env ins data d.rows → Listed screening data.companyName data.registrationNumber →
      Completes screening data.companyName ins 2
  | (.updateBuyerProfile buyerId data _ _, ins) =>
    Updates env ins data → RenamedOffList screening buyerId data d.rows
  | (.reviewBuyerOnboardingRequest requestId _ data _, ins) =>
    MakesOffList screening ins requestId data d.rows

theorem screened_after {cfg : Config} {env : Env} {screening : Screening} {d : Db BuyerRows}
    (h : Screened screening d.rows) (x : BuyerOp × (ℕ → Input)) :
    Screened screening (after cfg env screening d x).rows ↔ KeepsScreened env screening d x := by
  obtain ⟨op, ins⟩ := x
  cases op with
  | createBuyer data createdBy req =>
    refine Iff.trans ?_ (screened_createBuyer h data createdBy req)
    exact iff_of_eq (congrArg (Screened screening) (Db.play_bind_idle fun _ => Db.idle_pure ()))
  | updateBuyerProfile buyerId data updatedBy req =>
    exact screened_updateBuyerProfile h buyerId data updatedBy req
  | reviewBuyerOnboardingRequest requestId reviewerId data req =>
    exact screened_reviewBuyerOnboardingRequest h requestId reviewerId data req

/-- After every operation of a sequence every buyer on the list is flagged, exactly when it was so before
and every operation meets the condition. -/
theorem screened_iff (cfg : Config) (env : Env) (screening : Screening) (d : Db BuyerRows)
    (ops : List (BuyerOp × (ℕ → Input))) :
    (∀ done, done <+: ops → Screened screening (done.foldl (after cfg env screening) d).rows) ↔
      Screened screening d.rows ∧
        Runs.Each (fun d x => some (after cfg env screening d x)) (KeepsScreened env screening) d ops := by
  exact Runs.holds_iff (I := fun d : Db BuyerRows => Screened screening d.rows) (J := fun _ => True)
    (fun _ _ _ => trivial) (fun _ x _ h => screened_after h x) trivial

/-- A request for a buyer whose name is on the list. -/
def sampleListed : Db BuyerRows where
  rows :=
    { buyers := .empty
      requests := .single
        { id := 1, supplierId := 10, companyName := "PHANTOM Supplies Uganda", registrationNumber := none } }

def sampleCreation (companyName : String) : BuyerCreation where
  companyName := companyName
  registrationNumber := "R-1"
  creditRating := .b
  approvedLimit := 1000000
  paymentScore := 50
  contactEmail := []
  contactPhone := []

/-- A creation that fails at the flag, a buyer that takes a name on the list, and the approval of a request
with such a name: each leaves a buyer on the list without the flag. -/
theorem listed_unflagged :
    Screened sampleScreening sampleListed.rows ∧
      (∀ ops ∈ ([
          [(.createBuyer (sampleCreation "phantom supplies uganda") 5 {},
            fun k => if k = 3 then { fault := some "connection terminated" } else {})],
          [(.createBuyer (sampleCreation "Acme") 5 {}, fun _ => {}),
            (.updateBuyerProfile 0 { companyName := some "Phantom Supplies Uganda" } 5 {}, fun _ => {})],
          [(.reviewBuyerOnboardingRequest 1 20 { status := .approved } {}, fun _ => {})]] :
          List (List (BuyerOp × (ℕ → Input)))),
        ¬Screened sampleScreening
          (ops.foldl (after {} sampleEnv sampleScreening) sampleListed).rows) := by
  decide +kernel

end Ris.Onboarding
