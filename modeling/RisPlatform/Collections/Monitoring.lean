import RisPlatform.Collections.Conformance

/-!
# Starting the collection of an invoice

`startCollectionMonitoring` looks for a collection and for the status `funded`, and inserts in a later
transaction that asks for neither: no constraint of the table stands for the first check, and the
update of the invoice, which repeats the second, may match nothing.
-/

namespace Ris.Collections

open Relational Concurrent

/-! ## The law -/

/-- The calls that start the collection of the invoice, each for a payment. -/
def starts (cfg : Config) (invoiceId paymentId : ℕ) : Call Unit :=
  program cfg (.startCollectionMonitoring invoiceId paymentId)

/-- The invoice has at most one collection. -/
def AtMostOne (invoiceId : ℕ) (w : World) : Prop :=
  ∀ c ∈ w.collections.rows, ∀ c' ∈ w.collections.rows, c.invoiceId = invoiceId →
    c'.invoiceId = invoiceId → c = c'

/-- The invoice has at most one collection; the step that makes one moves the invoice out of `funded`. -/
structure StartsOnce (invoiceId : ℕ) (w w' : World) : Prop where
  one : AtMostOne invoiceId w'
  moved : ∀ c ∈ w'.collections.rows, c ∉ w.collections.rows → c.invoiceId = invoiceId →
    statusOf w invoiceId = some .funded ∧ statusOf w' invoiceId ≠ some .funded

/-- The invoice has at most one collection, and then is no longer funded. -/
structure Monitored (invoiceId : ℕ) (w : World) : Prop where
  one : AtMostOne invoiceId w
  left : ∀ c ∈ w.collections.rows, c.invoiceId = invoiceId → statusOf w invoiceId ≠ some .funded

/-- The transaction that starts a collection finds its invoice funded. -/
def FindsFunded : Cond World Event := fun s _ e =>
  match e with
  | .collectionStarted _ invoiceId => statusOf s.store invoiceId = some .funded
  | _ => True

/-! ## The protocol of the calls -/

/-- A collection of the invoice may be started; no other event changes the two tables. -/
def startProtocol (cfg : Config) (w₀ : World) (invoiceId : ℕ) : Protocol World Event where
  inv _ := True
  effect s _ e d :=
    match e with
    | some (.collectionStarted collectionId j) =>
        j = invoiceId ∧ Effect cfg w₀ s.store (.collectionStarted collectionId j) d
    | some _ => d.collections = s.store.collections ∧ d.invoices = s.store.invoices
    | none => d = s.store
  inv_effect _ _ := trivial
  return_stable _ _ _ _ := rfl

theorem permissive_start (cfg : Config) (w₀ : World) (invoiceId : ℕ) :
    Permissive (startProtocol cfg w₀ invoiceId) where
  read _ _ := ⟨rfl, rfl⟩
  threw _ _ := ⟨rfl, rfl⟩
  logged _ _ _ := ⟨rfl, rfl⟩
  enqueued _ _ _ := ⟨rfl, rfl⟩
  leftJobs _ _ _ := ⟨rfl, rfl⟩

theorem starts_implements (cfg : Config) (w₀ : World) (invoiceId : ℕ) :
    (startProtocol cfg w₀ invoiceId).Implements (starts cfg invoiceId) := by
  intro paymentId t
  have hfree : Free (startProtocol cfg w₀ invoiceId)
      (startCollectionMonitoring cfg invoiceId paymentId) := by
    refine free_startCollectionMonitoring_of (permissive_start cfg w₀ invoiceId) invoiceId paymentId ?_
    rintro s t i invoice dailyRate collectionId d - rfl h
    exact ⟨rfl, executeCollectionStartedTxn_ok h⟩
  exact (hfree t).conseq (fun _ _ _ => trivial) (fun _ _ _ _ => rfl) fun _ _ _ _ => rfl

/-! ## One step -/

section Step

variable {cfg : Config} {w₀ w w' : World} {invoiceId collectionId : ℕ}

/-- A start inserts a row of its invoice. -/
theorem Effect.exists_started (h : Effect cfg w₀ w (.collectionStarted collectionId invoiceId) w') :
    ∃ c, c.invoiceId = invoiceId ∧ w.collections.insert? c = some w'.collections := by
  cases h.rows with
  | same he _ => cases he
  | opened c hopens hinsert => exact ⟨c, Option.some.inj hopens.invoice.symm, hinsert⟩
  | changed c c' hstep _ => exact absurd rfl (hstep.existing collectionId invoiceId)

/-- Starting a collection never makes an invoice funded. -/
theorem Effect.funded_of_started (h : Effect cfg w₀ w (.collectionStarted collectionId invoiceId) w')
    (hw' : statusOf w' invoiceId = some .funded) : False := by
  rw [h.status, Option.map_eq_some_iff] at hw'
  obtain ⟨status, -, hnext⟩ := hw'
  by_cases hfunded : status = .funded
  · simp [nextInvoiceStatus, hfunded] at hnext
  · simp [nextInvoiceStatus, hfunded] at hnext

/-- The step lemma: a start makes the only collection, and moves the invoice, exactly if it finds the
invoice funded. -/
theorem Effect.startsOnce_iff {s : State World Event} {t : ℕ}
    (h : Effect cfg w₀ s.store (.collectionStarted collectionId invoiceId) w')
    (hs : Monitored invoiceId s.store) :
    StartsOnce invoiceId s.store w' ↔
      FindsFunded s t (.collectionStarted collectionId invoiceId) := by
  obtain ⟨row, hrow, hinsert⟩ := h.exists_started
  have hfresh : row ∉ s.store.collections.rows := fun hold => Table.key_ne_of_insert? hinsert hold rfl
  constructor
  · intro hstarts
    exact (hstarts.moved row ((Table.mem_insert? hinsert).2 (Or.inr rfl)) hfresh hrow).1
  · intro hfunded
    -- a funded invoice had no collection, so the new row is the only one
    have honly : ∀ c ∈ w'.collections.rows, c.invoiceId = invoiceId → c = row := by
      intro c hc hci
      rcases (Table.mem_insert? hinsert).1 hc with hold | hnew
      · exact absurd hfunded (hs.left c hold hci)
      · exact hnew
    exact
      { one := fun c hc c' hc' hci hci' => (honly c hc hci).trans (honly c' hc' hci').symm
        moved := fun _ _ _ _ => ⟨hfunded, h.funded_of_started⟩ }

/-- A start that goes well leaves the invoice monitored. -/
theorem Effect.monitored (h : Effect cfg w₀ w (.collectionStarted collectionId invoiceId) w')
    (hstarts : StartsOnce invoiceId w w') : Monitored invoiceId w' :=
  ⟨hstarts.one, fun _ _ _ => h.funded_of_started⟩

end Step

/-! ## Runs -/

/-- **One collection per invoice.** Of an invoice with at most one collection, and none while it is
funded, the runs of calls that start its collection along which it keeps at most one, and each start
moves it out of `funded`, are exactly those in which each transaction that starts it finds it funded. -/
theorem one_collection_iff (cfg : Config) (w : World) (invoiceId : ℕ) (hw : Monitored invoiceId w)
    (s : Sys World Input Event RisError) :
    Relation.ReflTransGen
        (fun s s' => Step (starts cfg invoiceId) always s s' ∧ StartsOnce invoiceId s.store s'.store)
        (Sys.init w) s ↔ Reaches (starts cfg invoiceId) FindsFunded (Sys.init w) s := by
  have hsame : ∀ {w w' : World}, Monitored invoiceId w → w'.collections = w.collections →
      StartsOnce invoiceId w w' := by
    intro w w' hw hrows
    refine ⟨?_, fun c hc hnew => ?_⟩
    · rw [AtMostOne, hrows]
      exact hw.one
    · rw [hrows] at hc
      exact absurd hc hnew
  refine Protocol.runs_iff (starts_implements cfg w invoiceId) trivial
    (P := fun s => Monitored invoiceId s.store)
    (R := fun s s' => StartsOnce invoiceId s.store s'.store) hw (fun s hs => hsame hs rfl) ?_ ?_ ?_ s
  · intro s t d hs hmove
    obtain rfl : d = s.store := hmove.effect
    exact hsame hs rfl
  · intro s t e d hs hmove
    have heff := hmove.effect
    cases e with
    | collectionStarted collectionId j =>
      obtain ⟨rfl, heff⟩ := heff
      exact heff.startsOnce_iff hs
    | _ => exact iff_of_true (hsame hs heff.1) trivial
  · intro s t e d hs hmove hstarts
    have heff := hmove.effect
    have hquiet : d.collections = s.store.collections → d.invoices = s.store.invoices →
        Monitored invoiceId d := by
      intro hrows hinvoices
      refine ⟨hstarts.one, fun c hc => ?_⟩
      rw [hrows] at hc
      rw [statusOf_congr hinvoices]
      exact hs.left c hc
    cases e with
    | none =>
      obtain rfl : d = s.store := heff
      exact hs
    | some e =>
      cases e with
      | collectionStarted collectionId j =>
        obtain ⟨rfl, heff⟩ := heff
        exact heff.monitored hstarts
      | _ => exact hquiet heff.1 heff.2

/-! ## Runs on one invoice

The scheduled jobs write `'SYSTEM'` to the audit log, which these runs suppose it takes. -/

instance (invoiceId : ℕ) (w : World) : Decidable (AtMostOne invoiceId w) := by
  unfold AtMostOne
  infer_instance

instance (s : State World Event) (t : ℕ) (e : Event) : Decidable (FindsFunded s t e) := by
  unfold FindsFunded
  induction e using Event.casesOn <;> infer_instance

/-- The funded invoice of the small world, without a collection. -/
def fundedWorld : World :=
  { exampleWorld .funded (exampleCollection 1 .pending 0 0) with collections := .empty }

theorem fundedWorld_monitored : Monitored 1 fundedWorld where
  one := fun _ hc => by cases hc
  left := fun _ hc => by cases hc

/-- A job and its retry, one after the other: the retry finds the collection. -/
theorem retry_finds_collection :
    ∃ s : Sys World Input Event RisError,
      s.store.collections.rows.map Collection.invoiceId = [1] ∧ statusOf s.store 1 = some .collecting ∧
        Relation.ReflTransGen
          (fun s s' => Step (starts { systemUserRefused := false } 1) always s s' ∧
            StartsOnce 1 s.store s'.store) (Sys.init fundedWorld) s := by
  obtain ⟨s, hs, hP⟩ := exists_reaches (starts { systemUserRefused := false } 1) FindsFunded
    (Sys.init fundedWorld)
    (Act.call 7 0 (List.replicate 5 { uuid := 1 }) ++ Act.call 7 1 (List.replicate 2 { uuid := 2 }))
    (fun s => s.store.collections.rows.map Collection.invoiceId = [1] ∧
      statusOf s.store 1 = some .collecting) (by decide +kernel)
  obtain ⟨hrows, hstatus⟩ := of_decide_eq_true hP
  exact ⟨s, hrows, hstatus, (one_collection_iff _ _ 1 fundedWorld_monitored s).2 hs⟩

/-- A job and its duplicate, side by side: both find no collection and the invoice funded, and each
inserts one. -/
theorem duplicate_inserts_second :
    Monitored 1 fundedWorld ∧
      ∃ s : Sys World Input Event RisError,
        Reaches (starts { systemUserRefused := false } 1) always (Sys.init fundedWorld) s ∧
          ¬AtMostOne 1 s.store ∧
          s.store.collections.rows.map Collection.invoiceId = [1, 1] := by
  obtain ⟨s, hs, hP⟩ := exists_reaches (starts { systemUserRefused := false } 1) always
    (Sys.init fundedWorld)
    (.start 7 :: .start 7 :: List.replicate 3 (.move 0 {}) ++ List.replicate 3 (.move 1 {}) ++
      [.move 0 { uuid := 1 }, .move 1 { uuid := 2 }])
    (fun s => ¬AtMostOne 1 s.store ∧ s.store.collections.rows.map Collection.invoiceId = [1, 1])
    (by decide +kernel)
  exact ⟨fundedWorld_monitored, s, hs, of_decide_eq_true hP⟩

end Ris.Collections
