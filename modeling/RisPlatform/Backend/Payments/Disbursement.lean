import RisPlatform.Backend.Payments.Views

/-!
# When a payment is disbursed once

A record is disbursed once, and keeps what its disbursal has written, in those runs in which no request
saves its copy while the record is disbursed (`Timely`). The view checks neither the status of its copy nor
that the copy is still the record: a third officer signs a disbursed record again, two second signatures
on copies of one record both disburse it, and a first signature on an old copy takes the second one back.
-/

namespace Ris.Backend.Payments

open Invoices (Invoice)
open Runs

variable {s s' : State} {e : Event} {t : ℕ} {r : Request} {copy payment : PaymentRecord} {user past : ℕ}
  {inputs : Inputs} {events : List Event}

/-! ## What is to hold of a payment -/

def PaymentRecord.TwoSigners (payment : PaymentRecord) : Prop :=
  ∃ first second, payment.dualAuthUser1 = some first ∧ payment.dualAuthUser2 = some second ∧
    first ≠ second

/-- What a disbursal leaves in the record. -/
def PaymentRecord.marks (payment : PaymentRecord) :
    Option ℕ × Option DateTime × Option ℕ × Option DateTime × Text × Option DateTime :=
  (payment.dualAuthUser1, payment.dualAuthUser1At, payment.dualAuthUser2, payment.dualAuthUser2At,
    payment.transactionReference, payment.fundedAt)

/-- How often a record has been disbursed that no request has moved yet. -/
def PaymentRecord.disbursals (payment : PaymentRecord) :
    ℕ := if payment.status = .disbursed then 1 else 0

def Phase.hasDisbursed : Phase → Bool
  | .disbursed _ => true
  | .completed _ => true
  | _ => false

def Phase.hasFunded : Phase → Bool
  | .completed _ => true
  | _ => false

/-- The requests that have disbursed the record. -/
def State.disbursals (s : State) : ℕ := s.requests.countP fun r => r.phase.hasDisbursed

/-- The requests that have written the invoice as funded. -/
def State.fundings (s : State) : ℕ := s.requests.countP fun r => r.phase.hasFunded

/-- In every state of the run: a disbursed record has two signers and keeps what its disbursal left, it
is disbursed once, and its invoice is written as funded once. -/
structure Once (past : ℕ) (s₀ : State) (events : List Event) : Prop where
  signers : ∀ before s, before <+: events → run step s₀ before = some s → s.payment.status = .disbursed →
    s.payment.TwoSigners
  fixed : ∀ before between s s', before ++ between <+: events → run step s₀ before = some s →
    s.payment.status = .disbursed → run step s between = some s' → s'.payment.marks = s.payment.marks
  disbursed : ∀ before s, before <+: events → run step s₀ before = some s → past + s.disbursals ≤ 1
  funded : ∀ before s, before <+: events → run step s₀ before = some s → past + s.fundings ≤ 1

/-- No request saves its copy while the record is disbursed; one that is refused does not save. -/
def Timely (s : State) : Event → Prop
  | .request t (.save _) => s.payment.status = .disbursed → ∀ r copy, s.requests[t]? = some r →
      r.phase = .loaded copy → copy.dualAuthUser1 = some r.user
  | _ => True

/-! ## Signatures -/

/-- The second signature comes after the first, and disburses the record with two signers. -/
structure PaymentRecord.Sound (payment : PaymentRecord) : Prop where
  signed : payment.dualAuthUser1 = none → payment.dualAuthUser2 = none
  disbursed : payment.status = .disbursed → payment.TwoSigners

theorem eq_of_first (h : sign copy user inputs = .first payment) :
    copy.dualAuthUser1 = none ∧ payment =
      { copy with
        dualAuthUser1 := some user
        dualAuthUser1At := some inputs.signedAt
        status := .partiallySigned } := by
  unfold sign at h
  cases hfirst : copy.dualAuthUser1 with
  | none =>
    rw [hfirst] at h
    exact ⟨rfl, (Signature.first.inj h).symm⟩
  | some first =>
    simp only [hfirst] at h
    split at h <;> cases h

theorem eq_of_second (h : sign copy user inputs = .second payment) :
    (∃ first, copy.dualAuthUser1 = some first ∧ first ≠ user) ∧ payment =
      { copy with
        dualAuthUser2 := some user
        dualAuthUser2At := some inputs.signedAt
        status := .disbursed
        fundedAt := some inputs.fundedAt
        transactionReference := transactionReference inputs.referredAt inputs.uuid } := by
  unfold sign at h
  cases hfirst : copy.dualAuthUser1 with
  | none => simp [hfirst] at h
  | some first =>
    simp only [hfirst] at h
    split at h
    · cases h
    · next hne => exact ⟨⟨first, rfl, hne⟩, (Signature.second.inj h).symm⟩

theorem refused_iff : sign copy user inputs = .refused ↔ copy.dualAuthUser1 = some user := by
  unfold sign
  cases hfirst : copy.dualAuthUser1 with
  | none => simp
  | some first => simp

theorem sound_first (hcopy : copy.Sound) (h : sign copy user inputs = .first payment) :
    payment.Sound := by
  obtain ⟨hnone, rfl⟩ := eq_of_first h
  constructor
  · intro _
    exact hcopy.signed hnone
  · intro h
    cases h

theorem sound_second (h : sign copy user inputs = .second payment) : payment.Sound := by
  obtain ⟨⟨first, hfirst, hne⟩, rfl⟩ := eq_of_second h
  constructor
  · intro hnone
    exact absurd (hfirst.symm.trans hnone) (by simp)
  · intro _
    exact ⟨first, user, hfirst, rfl, hne⟩

/-! ## What one step does -/

inductive Does (s : State) : Event → State → Prop
  | other (invoice : Invoice) : Does s (.other invoice) { s with invoice }
  | loaded (t : ℕ) (r : Request) (hr : s.requests[t]? = some r) (hphase : r.phase = .received) :
      Does s (.request t .load) (s.setPhase t r (.loaded s.payment))
  | first (t : ℕ) (r : Request) (copy payment : PaymentRecord) (inputs : Inputs)
      (hr : s.requests[t]? = some r) (hphase : r.phase = .loaded copy)
      (hsign : sign copy r.user inputs = .first payment) :
      Does s (.request t (.save inputs)) { s.setPhase t r .signed with payment }
  | refused (t : ℕ) (r : Request) (copy : PaymentRecord) (inputs : Inputs)
      (hr : s.requests[t]? = some r) (hphase : r.phase = .loaded copy)
      (hsign : sign copy r.user inputs = .refused) :
      Does s (.request t (.save inputs)) (s.setPhase t r .refused)
  | second (t : ℕ) (r : Request) (copy payment : PaymentRecord) (inputs : Inputs)
      (hr : s.requests[t]? = some r) (hphase : r.phase = .loaded copy)
      (hsign : sign copy r.user inputs = .second payment) :
      Does s (.request t (.save inputs)) { s.setPhase t r (.disbursed payment) with payment }
  | funded (t : ℕ) (r : Request) (payment : PaymentRecord) (now : DateTime)
      (hr : s.requests[t]? = some r) (hphase : r.phase = .disbursed payment) :
      Does s (.request t (.fund now))
        { s.setPhase t r (.completed payment) with invoice := fund s.invoice now }

theorem does_of_step (h : step s e = some s') : Does s e s' := by
  cases e with
  | other invoice =>
    obtain rfl := Option.some.inj h
    exact .other invoice
  | request t action =>
    unfold step at h
    cases hr : s.requests[t]? with
    | none => simp [hr] at h
    | some r =>
      simp only [hr] at h
      split at h
      · next hphase =>
        obtain rfl := Option.some.inj h
        exact .loaded t r hr hphase
      · next copy inputs hphase =>
        split at h
        · next payment hsign =>
          obtain rfl := Option.some.inj h
          exact .first t r copy payment inputs hr hphase hsign
        · next hsign =>
          obtain rfl := Option.some.inj h
          exact .refused t r copy inputs hr hphase hsign
        · next payment hsign =>
          obtain rfl := Option.some.inj h
          exact .second t r copy payment inputs hr hphase hsign
      · next payment now hphase =>
        obtain rfl := Option.some.inj h
        exact .funded t r payment now hr hphase
      · cases h

/-- A request with its copy can save it. -/
theorem exists_step_save (hr : s.requests[t]? = some r) (hphase : r.phase = .loaded copy)
    (inputs : Inputs) :
    ∃ s', step s (.request t (.save inputs)) = some s' := by
  simp only [step, hr, hphase]
  split
  · exact ⟨_, rfl⟩
  · exact ⟨_, rfl⟩
  · exact ⟨_, rfl⟩

/-! ## Counts -/

theorem countP_setPhase (p : Phase → Bool) (hr : s.requests[t]? = some r) (phase : Phase) :
    (s.setPhase t r phase).requests.countP (fun r => p r.phase) + (p r.phase).toNat =
      s.requests.countP (fun r => p r.phase) + (p phase).toNat := by
  obtain ⟨ht, hget⟩ := List.getElem?_eq_some_iff.1 hr
  have hcount := List.countP_set (p := fun r : Request => p r.phase) (a := { r with phase }) ht
  rw [hget] at hcount
  show (s.requests.set t { r with phase }).countP (fun r => p r.phase) + _ = _
  rw [hcount]
  cases hp : p r.phase with
  | false => cases p phase <;> simp
  | true =>
    have hpos : 0 < s.requests.countP fun r => p r.phase :=
      List.countP_pos_iff.2 ⟨r, List.mem_of_getElem? hr, hp⟩
    cases p phase <;> simp <;> omega

theorem fundings_le_disbursals : s.fundings ≤ s.disbursals := by
  refine List.countP_mono_left fun r _ h => ?_
  cases hphase : r.phase with
  | completed payment => rfl
  | _ => rw [hphase] at h; cases h

/-! ## What steps in time keep, and others break -/

/-- What holds in every state of a run whose steps are in time. -/
structure State.Sane (past : ℕ) (s : State) : Prop where
  payment : s.payment.Sound
  copies : ∀ r ∈ s.requests, ∀ copy, r.phase = .loaded copy → copy.Sound
  disbursals : past + s.disbursals = s.payment.disbursals

theorem disbursals_setPhase (hr : s.requests[t]? = some r) (phase : Phase) :
    (s.setPhase t r phase).disbursals + r.phase.hasDisbursed.toNat =
      s.disbursals + phase.hasDisbursed.toNat :=
  countP_setPhase Phase.hasDisbursed hr phase

/-- A request moves on, and the record with it, if it is the one that disburses. -/
theorem State.Sane.setPhase (hs : s.Sane past) (hr : s.requests[t]? = some r) {phase : Phase}
    (invoice : Invoice) (hsound : payment.Sound) (hcopy : ∀ copy, phase = .loaded copy → copy.Sound)
    (hcount : payment.disbursals + r.phase.hasDisbursed.toNat =
      s.payment.disbursals + phase.hasDisbursed.toNat) :
    State.Sane past { s.setPhase t r phase with payment, invoice } := by
  refine ⟨hsound, fun q hq copy hphase => ?_, ?_⟩
  · rcases List.mem_or_eq_of_mem_set hq with hq | rfl
    · exact hs.copies q hq copy hphase
    · exact hcopy copy hphase
  · have hset := disbursals_setPhase hr phase
    have hbefore := hs.disbursals
    show past + (s.setPhase t r phase).disbursals = payment.disbursals
    omega

/-- In time, a disbursed record is not saved. -/
theorem Does.payment_eq (h : Does s e s') (htimely : Timely s e)
    (hstatus : s.payment.status = .disbursed) :
    s'.payment = s.payment := by
  have hsave : ∀ {t r copy inputs}, s.requests[t]? = some r → r.phase = .loaded copy →
      Timely s (.request t (.save inputs)) → sign copy r.user inputs = .refused :=
    fun hr hphase htimely => refused_iff.2 (htimely hstatus _ _ hr hphase)
  cases h with
  | first t r copy payment inputs hr hphase hsign =>
    exact absurd (hsign.symm.trans (hsave hr hphase htimely)) (by simp)
  | second t r copy payment inputs hr hphase hsign =>
    exact absurd (hsign.symm.trans (hsave hr hphase htimely)) (by simp)
  | _ => rfl

theorem Does.sane (h : Does s e s') (htimely : Timely s e) (hs : s.Sane past) : s'.Sane past := by
  have hopen : ∀ {t r copy inputs}, s.requests[t]? = some r → r.phase = .loaded copy →
      Timely s (.request t (.save inputs)) → sign copy r.user inputs ≠ .refused →
        s.payment.disbursals = 0 :=
    fun hr hphase htimely hsign =>
      if_neg fun hstatus => hsign (refused_iff.2 (htimely hstatus _ _ hr hphase))
  cases h with
  | other invoice => exact ⟨hs.payment, hs.copies, hs.disbursals⟩
  | loaded t r hr hphase =>
    refine hs.setPhase hr s.invoice hs.payment (fun copy h => ?_) (by rw [hphase]; rfl)
    obtain rfl := Phase.loaded.inj h
    exact hs.payment
  | first t r copy payment inputs hr hphase hsign =>
    have hsound := sound_first (hs.copies r (List.mem_of_getElem? hr) copy hphase) hsign
    have hzero := hopen hr hphase htimely (by rw [hsign]; simp)
    refine hs.setPhase hr s.invoice hsound (fun _ h => by cases h) ?_
    obtain ⟨-, rfl⟩ := eq_of_first hsign
    rw [hphase, hzero]
    rfl
  | refused t r copy inputs hr hphase hsign =>
    exact hs.setPhase hr s.invoice hs.payment (fun _ h => by cases h) (by rw [hphase]; rfl)
  | second t r copy payment inputs hr hphase hsign =>
    have hzero := hopen hr hphase htimely (by rw [hsign]; simp)
    refine hs.setPhase hr s.invoice (sound_second hsign) (fun _ h => by cases h) ?_
    obtain ⟨-, rfl⟩ := eq_of_second hsign
    rw [hphase, hzero]
    rfl
  | funded t r payment now hr hphase =>
    exact hs.setPhase hr _ hs.payment (fun _ h => by cases h) (by rw [hphase]; rfl)

theorem not_timely (h : ¬ Timely s e) : ∃ t inputs r copy, e = .request t (.save inputs) ∧
    s.payment.status = .disbursed ∧ s.requests[t]? = some r ∧ r.phase = .loaded copy ∧
      copy.dualAuthUser1 ≠ some r.user := by
  unfold Timely at h
  split at h
  · next t inputs =>
    push Not at h
    obtain ⟨hstatus, r, copy, hr, hphase, hne⟩ := h
    exact ⟨t, inputs, r, copy, rfl, hstatus, hr, hphase, hne⟩
  · exact absurd trivial h

/-- Out of time, a first signature takes the second one back, and a second one disburses again. -/
theorem Does.broken (h : Does s e s') (hnot : ¬ Timely s e) (hs : s.Sane past) :
    s.payment.status = .disbursed ∧
      (s'.payment.marks ≠ s.payment.marks ∨ ¬ past + s'.disbursals ≤ 1) := by
  obtain ⟨t, inputs, r, copy, rfl, hstatus, hr, hphase, hne⟩ := not_timely hnot
  refine ⟨hstatus, ?_⟩
  have heq : ∀ {q : Request} {c : PaymentRecord}, s.requests[t]? = some q → q.phase = .loaded c →
      q = r ∧ c = copy := by
    intro q c hq hc
    obtain rfl := Option.some.inj (hq.symm.trans hr)
    exact ⟨rfl, Phase.loaded.inj (hc.symm.trans hphase)⟩
  cases h with
  | first _ q c payment _ hq hc hsign =>
    obtain ⟨rfl, rfl⟩ := heq hq hc
    refine Or.inl fun hmarks => ?_
    obtain ⟨hnone, rfl⟩ := eq_of_first hsign
    obtain ⟨first, second, -, hsecond, -⟩ := hs.payment.disbursed hstatus
    have hcopy : c.dualAuthUser2 = none := (hs.copies q (List.mem_of_getElem? hr) c hphase).signed hnone
    have hsame : c.dualAuthUser2 = s.payment.dualAuthUser2 := congrArg (fun marks => marks.2.2.1) hmarks
    rw [hcopy, hsecond] at hsame
    cases hsame
  | refused _ q c _ hq hc hsign =>
    obtain ⟨rfl, rfl⟩ := heq hq hc
    exact absurd (refused_iff.1 hsign) hne
  | second _ q c payment _ hq hc hsign =>
    obtain ⟨rfl, rfl⟩ := heq hq hc
    refine Or.inr ?_
    have hset := disbursals_setPhase hr (.disbursed payment)
    have hcount := hs.disbursals
    rw [hphase] at hset
    have hone : s.payment.disbursals = 1 := if_pos hstatus
    show ¬ past + (s.setPhase t q (.disbursed payment)).disbursals ≤ 1
    simp only [Phase.hasDisbursed, Bool.toNat_false, Bool.toNat_true] at hset
    omega

/-! ## Runs -/

theorem sane_init {users : List ℕ} {invoice : Invoice} (h : payment.Sound) :
    (init payment invoice users).Sane payment.disbursals := by
  refine ⟨h, fun r hr copy hcopy => ?_, ?_⟩
  · obtain ⟨user, -, rfl⟩ := List.mem_map.1 hr
    cases hcopy
  · have hzero : (init payment invoice users).disbursals = 0 := by
      refine List.countP_eq_zero.2 fun r hr => ?_
      obtain ⟨user, -, rfl⟩ := List.mem_map.1 hr
      exact Bool.false_ne_true
    rw [hzero]
    rfl

theorem sane_of_each (h : Each step Timely s events) (hs : s.Sane past)
    (hrun : run step s events = some s') :
    s'.Sane past :=
  h.invariant (fun _ _ _ hs htimely hstep => (does_of_step hstep).sane htimely hs) hs hrun

/-- A disbursed record stays as it is. -/
theorem payment_eq_of_each (h : Each step Timely s events) (hstatus : s.payment.status = .disbursed)
    (hrun : run step s events = some s') : s'.payment = s.payment := by
  refine h.invariant (I := fun q => q.payment = s.payment) (fun q e q' hq htimely hstep => ?_) rfl hrun
  rw [(does_of_step hstep).payment_eq htimely (hq ▸ hstatus), hq]

theorem Once.of_each (h : Each step Timely s events) (hs : s.Sane past) : Once past s events := by
  have hsane : ∀ {before s'}, before <+: events → run step s before = some s' → s'.Sane past :=
    fun hpre hrun => sane_of_each (h.of_prefix hpre) hs hrun
  have hone : ∀ {before s'}, before <+: events → run step s before = some s' →
      past + s'.disbursals ≤ 1 := by
    intro before s' hpre hrun
    rw [(hsane hpre hrun).disbursals, PaymentRecord.disbursals]
    split <;> omega
  constructor
  · intro before s' hpre hrun
    exact (hsane hpre hrun).payment.disbursed
  · intro before between s₁ s₂ hpre hrun hstatus hrun'
    have hbetween := (each_append.1 (h.of_prefix hpre)).2 s₁ hrun
    rw [payment_eq_of_each hbetween hstatus hrun']
  · intro before s' hpre hrun
    exact hone hpre hrun
  · intro before s' hpre hrun
    exact le_trans (Nat.add_le_add_left fundings_le_disbursals past) (hone hpre hrun)

/-- What holds of a run holds of what is left of it after a step. -/
theorem Once.tail (h : Once past s (e :: events)) (hstep : step s e = some s') :
    Once past s' events := by
  have hcons : ∀ {before}, before <+: events → e :: before <+: e :: events :=
    fun hpre => List.cons_prefix_cons.2 ⟨rfl, hpre⟩
  constructor
  · intro before s₁ hpre hrun
    exact h.signers (e :: before) s₁ (hcons hpre) ((run_cons_of hstep).trans hrun)
  · intro before between s₁ s₂ hpre hrun
    exact h.fixed (e :: before) between s₁ s₂ (hcons hpre) ((run_cons_of hstep).trans hrun)
  · intro before s₁ hpre hrun
    exact h.disbursed (e :: before) s₁ (hcons hpre) ((run_cons_of hstep).trans hrun)
  · intro before s₁ hpre hrun
    exact h.funded (e :: before) s₁ (hcons hpre) ((run_cons_of hstep).trans hrun)

theorem Once.each (h : Once past s events) (hs : s.Sane past) : Each step Timely s events := by
  induction events generalizing s with
  | nil => trivial
  | cons e events ih =>
    have htimely : Timely s e := by
      by_contra hnot
      obtain ⟨t, inputs, r, copy, rfl, -, hr, hphase, -⟩ := not_timely hnot
      obtain ⟨s', hstep⟩ := exists_step_save hr hphase inputs
      have hfirst : [.request t (.save inputs)] <+: .request t (.save inputs) :: events := ⟨events, rfl⟩
      have hrun : run step s [.request t (.save inputs)] = some s' := run_singleton.trans hstep
      obtain ⟨hstatus, hbroken | hbroken⟩ := (does_of_step hstep).broken hnot hs
      · exact hbroken (h.fixed [] _ s s' hfirst rfl hstatus hrun)
      · exact hbroken (h.disbursed _ s' hfirst hrun)
    refine ⟨htimely, fun s' hstep => ih (h.tail hstep) ((does_of_step hstep).sane htimely hs)⟩

/-- Whatever requests there are and however they interleave, the payment is disbursed once if and only if
no request saves it while it is disbursed. -/
theorem disbursed_once_iff (payment : PaymentRecord) (hsound : payment.Sound) (invoice : Invoice)
    (users : List ℕ) (events : List Event) :
    Once payment.disbursals (init payment invoice users) events ↔
      Each step Timely (init payment invoice users) events :=
  ⟨fun h => h.each (sane_init hsound), fun h => .of_each h (sane_init hsound)⟩

/-! ## Samples -/

/-- A moment on the first of September 2026. -/
def sampleTime (hour : ℕ) : DateTime := .ofNat 2026 9 1 hour 0 0 0

def sampleInvoice : Invoice where
  id := 1
  supplier := 1
  buyer := 1
  faceValueUgx := 100
  issueDate := sampleTime 0
  dueDate := sampleTime 23
  status := .approved

/-- As the approval of an invoice queues it. -/
def samplePayment : PaymentRecord where
  id := 1
  invoice := 1
  supplier := 1
  buyer := 1
  amountUgx := 80
  slaDeadline := sampleTime 23

theorem samplePayment_sound : samplePayment.Sound := ⟨fun _ => rfl, fun h => by cases h⟩

def sampleInputs (hour : ℕ) : Inputs := ⟨sampleTime hour, sampleTime hour, sampleTime hour, hour⟩

/-- A first and a second signature, one after the other. -/
def sampleEvents : List Event :=
  [.request 0 .load, .request 0 (.save (sampleInputs 8)), .request 1 .load,
    .request 1 (.save (sampleInputs 9)), .request 1 (.fund (sampleTime 9))]

theorem sample_disbursed_once_iff :
    ((run step (init samplePayment sampleInvoice [1, 2]) sampleEvents).map fun s =>
        (s.payment.status, s.invoice.status)) = some (.disbursed, .funded) ∧
      (Once 0 (init samplePayment sampleInvoice [1, 2]) sampleEvents ↔
        Each step Timely (init samplePayment sampleInvoice [1, 2]) sampleEvents) :=
  ⟨by decide, disbursed_once_iff samplePayment samplePayment_sound sampleInvoice [1, 2] sampleEvents⟩

/-- A third officer, after the invoice has been collected. -/
def lateEvents : List Event :=
  sampleEvents ++ [.other { sampleInvoice with status := .collected }, .request 2 .load,
    .request 2 (.save (sampleInputs 11)), .request 2 (.fund (sampleTime 11))]

/-- A third officer, who has read the record before it was signed. -/
def staleEvents : List Event :=
  (.request 2 .load :: sampleEvents) ++ [.request 2 (.save (sampleInputs 11))]

/-- The one disburses the record again and takes the invoice back to funded; the other takes both
signatures back. -/
theorem disbursed_again :
    (¬ Once 0 (init samplePayment sampleInvoice [1, 2, 3]) lateEvents ∧
      ((run step (init samplePayment sampleInvoice [1, 2, 3]) lateEvents).map fun s =>
        (s.payment.dualAuthUser2, s.disbursals, s.fundings, s.invoice.status)) =
          some (some 3, 2, 2, .funded)) ∧
    (¬ Once 0 (init samplePayment sampleInvoice [1, 2, 3]) staleEvents ∧
      ((run step (init samplePayment sampleInvoice [1, 2, 3]) staleEvents).map fun s =>
        (s.payment.status, s.payment.dualAuthUser1, s.payment.dualAuthUser2, s.invoice.status)) =
          some (.partiallySigned, some 3, none, .funded)) := by
  refine ⟨⟨fun h => ?_, by decide⟩, ⟨fun h => ?_, by decide⟩⟩
  · exact absurd (h.disbursed _ _ (List.prefix_refl _) rfl) (by decide)
  · have hfixed := h.fixed (.request 2 .load :: sampleEvents) [.request 2 (.save (sampleInputs 11))] _ _
      (List.prefix_refl _) rfl rfl rfl
    exact absurd (congrArg (fun marks => marks.2.2.1) hfixed) (by decide)

end Ris.Backend.Payments
