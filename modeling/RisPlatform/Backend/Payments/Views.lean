import RisPlatform.Backend.Invoices.Views
import RisPlatform.Common.Runs

/-!
# Authorising a payment in the backend

`AuthorisePaymentView.post` of the app `payments` is not one transaction: it reads the record, decides by
its copy, saves every column of the copy, and after the second signature writes the invoice. Requests
interleave at these statements. The clock and the random identifier are inputs of the step that draws them.
-/

namespace Ris.Backend.Payments

open Invoices (Invoice)

inductive PaymentStatus where
  | pendingSignature
  | partiallySigned
  | authorized
  | processing
  | disbursed
  | failed
  deriving DecidableEq

inductive Provider where
  | eft
  | mtnMomo
  | airtel
  | mock
  deriving DecidableEq

structure PaymentRecord where
  id : ℕ
  invoice : ℕ
  supplier : ℕ
  buyer : ℕ
  amountUgx : ℚ
  provider : Provider := .eft
  status : PaymentStatus := .pendingSignature
  dualAuthUser1 : Option ℕ := none
  dualAuthUser1At : Option DateTime := none
  dualAuthUser2 : Option ℕ := none
  dualAuthUser2At : Option DateTime := none
  transactionReference : Text := []
  fundedAt : Option DateTime := none
  failureReason : Text := []
  slaDeadline : DateTime

/-! ## The decision -/

/-- The clock readings of a request in their order, and its random identifier. -/
structure Inputs where
  signedAt : DateTime
  fundedAt : DateTime
  referredAt : DateTime
  uuid : ℕ

def transactionReference (now : DateTime) (uuid : ℕ) : Text :=
  "EFT-BOU-".toList ++ pad 4 now.year ++ pad 2 now.month ++ pad 2 now.day ++
    '-' :: ((hexDigits 32 uuid).take 8).map Char.toUpper

/-- What a request does with its copy of the record. -/
inductive Signature where
  | first (payment : PaymentRecord)
  | refused
  | second (payment : PaymentRecord)

def sign (payment : PaymentRecord) (user : ℕ) (inputs : Inputs) : Signature :=
  match payment.dualAuthUser1 with
  | none =>
    .first { payment with
      dualAuthUser1 := some user
      dualAuthUser1At := some inputs.signedAt
      status := .partiallySigned }
  | some first =>
    if first = user then .refused
    else .second { payment with
      dualAuthUser2 := some user
      dualAuthUser2At := some inputs.signedAt
      status := .disbursed
      fundedAt := some inputs.fundedAt
      transactionReference := transactionReference inputs.referredAt inputs.uuid }

/-- The invoice of a payment with two signatures. -/
def fund (invoice : Invoice) (now : DateTime) : Invoice :=
  { invoice with status := .funded, fundedAt := some now }

/-! ## Requests -/

/-- Where a request stands: before its read of the record, with its copy, with the second signature saved
and the invoice not yet written, or answered. -/
inductive Phase where
  | received
  | loaded (payment : PaymentRecord)
  | signed
  | refused
  | disbursed (payment : PaymentRecord)
  | completed (payment : PaymentRecord)

/-- Beside these the answers show the record. -/
def Phase.reply : Phase → Option Reply
  | .signed =>
    some ⟨200, "First cryptographic signature recorded. Awaiting second officer sign-off.".toList⟩
  | .refused =>
    some ⟨400, "Dual-Control Segregation of Duties violation: The second signature must be provided by a distinct authorized officer.".toList⟩
  | .completed payment =>
    some ⟨200, "Dual-authorization complete! Payment successfully executed on Bank EFT rail. Ref: ".toList ++
      payment.transactionReference⟩
  | _ => none

structure Request where
  user : ℕ
  phase : Phase := .received

/-- A payment record, its invoice and the requests to authorise it. -/
structure State where
  payment : PaymentRecord
  invoice : Invoice
  requests : List Request

def State.setPhase (s : State) (t : ℕ) (r : Request) (phase : Phase) : State :=
  { s with requests := s.requests.set t { r with phase } }

inductive Action where
  | load
  | save (inputs : Inputs)
  | fund (now : DateTime)

/-- A step of the request `t`, or another view writes the invoice. -/
inductive Event where
  | request (t : ℕ) (action : Action)
  | other (invoice : Invoice)

def step (s : State) : Event → Option State
  | .other invoice => some { s with invoice }
  | .request t action =>
    match s.requests[t]? with
    | none => none
    | some r =>
      match r.phase, action with
      | .received, .load => some (s.setPhase t r (.loaded s.payment))
      | .loaded copy, .save inputs =>
        match sign copy r.user inputs with
        | .first payment => some { s.setPhase t r .signed with payment }
        | .refused => some (s.setPhase t r .refused)
        | .second payment => some { s.setPhase t r (.disbursed payment) with payment }
      | .disbursed payment, .fund now =>
        some { s.setPhase t r (.completed payment) with invoice := fund s.invoice now }
      | _, _ => none

/-- The requests that there are, of these users. -/
def init (payment : PaymentRecord) (invoice : Invoice) (users : List ℕ) : State :=
  ⟨payment, invoice, users.map fun user => { user }⟩

/-! ## A request alone -/

/-- The whole of `post`, when nothing comes between its statements. -/
def post (payment : PaymentRecord) (invoice : Invoice) (user : ℕ) (inputs : Inputs) (now : DateTime) :
    PaymentRecord × Invoice × Phase :=
  match sign payment user inputs with
  | .first payment => (payment, invoice, .signed)
  | .refused => (payment, invoice, .refused)
  | .second payment => (payment, fund invoice now, .completed payment)

theorem post_eq_run (payment : PaymentRecord) (invoice : Invoice) (user : ℕ) (inputs : Inputs)
    (now : DateTime) :
    ∃ (actions : List Action) (s : State),
      Runs.run step (init payment invoice [user]) (actions.map (Event.request 0)) = some s ∧
        (s.payment, s.invoice, s.requests.map Request.phase) =
          ((post payment invoice user inputs now).1, (post payment invoice user inputs now).2.1,
            [(post payment invoice user inputs now).2.2]) := by
  have hload : step (init payment invoice [user]) (.request 0 .load) =
      some ⟨payment, invoice, [⟨user, .loaded payment⟩]⟩ := rfl
  have hsave : step ⟨payment, invoice, [⟨user, .loaded payment⟩]⟩ (.request 0 (.save inputs)) =
      match sign payment user inputs with
      | .first payment => some ⟨payment, invoice, [⟨user, .signed⟩]⟩
      | .refused => some ⟨payment, invoice, [⟨user, .refused⟩]⟩
      | .second payment => some ⟨payment, invoice, [⟨user, .disbursed payment⟩]⟩ := rfl
  unfold post
  cases hsign : sign payment user inputs with
  | first signed =>
    rw [hsign] at hsave
    exact ⟨[.load, .save inputs], _, (Runs.run_cons_of hload).trans (Runs.run_cons_of hsave), rfl⟩
  | refused =>
    rw [hsign] at hsave
    exact ⟨[.load, .save inputs], _, (Runs.run_cons_of hload).trans (Runs.run_cons_of hsave), rfl⟩
  | second signed =>
    have hfund : step ⟨signed, invoice, [⟨user, .disbursed signed⟩]⟩ (.request 0 (.fund now)) =
        some ⟨signed, fund invoice now, [⟨user, .completed signed⟩]⟩ := rfl
    rw [hsign] at hsave
    exact ⟨[.load, .save inputs, .fund now], _,
      (Runs.run_cons_of hload).trans ((Runs.run_cons_of hsave).trans (Runs.run_cons_of hfund)), rfl⟩

end Ris.Backend.Payments
