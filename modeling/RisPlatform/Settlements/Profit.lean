import RisPlatform.Settlements.Lifecycle

/-!
# The profit of a settlement

A booking is inserted in the transaction that sets the status to `profit_booked`, and is rolled back with it.
So the bookings are those of the first store, and go with the statuses as they did there.
-/

namespace Ris.Settlements

open Relational Concurrent

/-! ## The law -/

/-- The statuses from the booking on. -/
def Past (status : SettlementStatus) : Prop := status = .profitBooked ∨ status = .closed

instance (status : SettlementStatus) : Decidable (Past status) := by
  unfold Past
  infer_instance

def bookingsOf (id : ℕ) (w : World) : List ProfitBooking :=
  w.profitBookings.rows.filter fun b => b.settlementId = id

/-- From the booking on a settlement has one, with the net profit of its amounts and of the settlement;
before that it has none. -/
def BookedOnce (bookings : List ProfitBooking) (r : Settlement) : Prop :=
  if Past r.status then
    ∃ b, bookings = [b] ∧ b.netProfit = b.discountEarned - b.bankCostPaid + b.penaltyIncome ∧
      b.netProfit = r.netProfit
  else bookings = []

/-- Every settlement is booked once. -/
def Books (w : World) : Prop := ∀ r ∈ w.settlements.rows, BookedOnce (bookingsOf r.id w) r

/-- The foreign key of the bookings. -/
def Settled (w : World) : Prop :=
  ∀ b ∈ w.profitBookings.rows, (w.settlements.get? b.settlementId).isSome

/-! ## What a run does -/

section Run

variable {w w' : World} {e : Event}

theorem bookedOnce_of_not_past {bookings : List ProfitBooking} {r : Settlement} (h : ¬Past r.status) :
    BookedOnce bookings r ↔ bookings = [] := by
  rw [BookedOnce, if_neg h]

theorem Does.bookingsOf (h : Does w e w') (id : ℕ) : bookingsOf id w' = bookingsOf id w := by
  unfold Settlements.bookingsOf
  rw [h.profitBookings]

theorem Settled.does (hw : Settled w) (h : Does w e w') : Settled w' := by
  intro b hb
  rw [h.profitBookings] at hb
  obtain ⟨r, hr⟩ := Option.isSome_iff_exists.1 (hw b hb)
  exact Option.isSome_of_eq_some (h.get? hr)

/-- A new settlement has no booking: a booking is of a settlement that is there. -/
theorem bookedOnce_new (hw : Settled w) {row : Settlement} (hfresh : w.settlements.get? row.id = none)
    (hstatus : row.status = .pending) : BookedOnce (bookingsOf row.id w) row := by
  have hpast : ¬Past row.status := by
    rw [hstatus]
    decide
  rw [bookedOnce_of_not_past hpast]
  refine List.filter_eq_nil_iff.2 fun b hb hid => ?_
  have hthere := hw b hb
  rw [of_decide_eq_true hid, hfresh] at hthere
  cases hthere

/-- The step lemma. -/
theorem Books.does (hw : Books w) (hsettled : Settled w) (h : Does w e w') : Books w' := by
  intro r hr
  rw [h.bookingsOf]
  rcases h.settlements with hsame | ⟨row, hstatus, hinsert⟩
  · rw [hsame] at hr
    exact hw r hr
  · rcases (Table.mem_insert? hinsert).1 hr with hold | rfl
    · exact hw r hold
    · exact bookedOnce_new hsettled (Table.get?_insert?_fresh hinsert) hstatus

end Run

/-- **Profit is booked once.** From a store in which each settlement has the bookings that go with its
status, every run keeps it so, whatever fails: no booking is made, and no settlement changes its status. -/
theorem profit_booked_once (cfg : Config) (d : World) (hd : Books d) (hsettled : Settled d)
    {s : Sys World Input Event RisError} (hs : Reaches (program cfg) always (Sys.init d) s) :
    Books s.store ∧ s.store.profitBookings = d.profitBookings := by
  have hrun : Books s.store ∧ Settled s.store ∧ s.store.profitBookings = d.profitBookings := by
    refine Protocol.invariant (G := protocol)
      (P := fun s => Books s.store ∧ Settled s.store ∧ s.store.profitBookings = d.profitBookings)
      (program_implements cfg) trivial ⟨hd, hsettled, rfl⟩ ?_ hs
    rintro s t e w ⟨hbooks, hthere, hsame⟩ hmove
    cases e with
    | some e =>
      have heff : Does s.store e w := hmove.effect
      exact ⟨hbooks.does hthere heff, hthere.does heff, heff.profitBookings.trans hsame⟩
    | none =>
      obtain rfl : w = s.store := hmove.effect
      exact ⟨hbooks, hthere, hsame⟩
  exact ⟨hrun.1, hrun.2.2⟩

/-- The settlement with its profit booked. -/
def bookedSettlement : World :=
  { paidInvoice with
    settlements := .single
      { id := 1, invoiceId := 1, collectionId := 1, drawdownId := none, buyerPaymentAmount := 1000000
        facilityRepaymentAmount := 800000, accruedInterest := 20000, penaltyIncome := 0
        netProfit := 30000, status := .profitBooked, idempotencyKey := .derived 1 1 }
    profitBookings := .single
      { id := 1, settlementId := 1, discountEarned := 50000, bankCostPaid := 20000, penaltyIncome := 0
        netProfit := 30000, bookedBy := 5 } }

theorem books_bookedSettlement : Books bookedSettlement := by
  intro r hr
  obtain rfl := List.mem_singleton.1 hr
  exact ⟨_, rfl, rfl, rfl⟩

/-- The settlement is to be closed, and keeps its booking. -/
theorem booking_kept :
    ∃ s : Sys World Input Event RisError, endsWithError 0 s = true ∧ Books s.store ∧
      s.store.profitBookings = bookedSettlement.profitBookings := by
  obtain ⟨s, hs, hP⟩ := exists_reaches (program hasEntityColumns) always (Sys.init bookedSettlement)
    [.start (.closeSettlement 1 5 {}), .move 0 {}, .move 0 {}] (fun s => endsWithError 0 s) (by decide)
  obtain ⟨hbooks, hsame⟩ :=
    profit_booked_once hasEntityColumns bookedSettlement books_bookedSettlement
      (fun b hb => by obtain rfl := List.mem_singleton.1 hb; rfl) hs
  exact ⟨s, hP, hbooks, hsame⟩

end Ris.Settlements
