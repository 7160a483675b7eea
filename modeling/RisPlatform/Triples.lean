import RisPlatform.Calls
import RisPlatform.Common.RelyGuarantee

/-!
# Triples of the statements

A service whose calls may read, fail and log at any time has a `Quiet` protocol, and a `Permissive` one
if they may enqueue at any time as well. Then a function is `Free` if its transactions commit allowed
effects: its triple carries no assertion, and what a caller knows is framed around it.
-/

namespace Ris

open Relational Concurrent

/-- The protocol lets a call read, fail and log at any time. -/
structure Quiet (G : Protocol World Event) : Prop where
  read : ∀ s t, G.effect s t (some .read) s.store
  threw : ∀ s t, G.effect s t (some .threw) s.store
  logged : ∀ s t action, G.effect s t (some (.logged action)) s.store

/-- The protocol lets a call read, fail, log and enqueue at any time. -/
structure Permissive (G : Protocol World Event) : Prop extends Quiet G where
  enqueued : ∀ (s : State World Event) t job,
    G.effect s t (some (.enqueued job)) { s.store with jobs := s.store.jobs ++ [job] }
  leftJobs : ∀ (s : State World Event) t jobs,
    G.effect s t (some .leftJobs) { s.store with jobs := jobs }

/-- The protocol lets a call write an audit row of its own at any time, too. -/
structure Auditing (G : Protocol World Event) : Prop extends Permissive G where
  audited : ∀ (s : State World Event) t entry,
    G.effect s t (some (.audited entry.action))
      { s.store with auditLogs := s.store.auditLogs ++ [entry] }

instance (G : Protocol World Event) : CoeOut (Permissive G) (Quiet G) := ⟨Permissive.toQuiet⟩

instance (G : Protocol World Event) : CoeOut (Auditing G) (Permissive G) := ⟨Auditing.toPermissive⟩

/-- The protocol lets a call do what `effect` says, at any time. -/
def Allows (G : Protocol World Event) (effect : World → Event → World → Prop) : Prop :=
  ∀ (s : State World Event) t e d, G.inv s → effect s.store e d → G.effect s t (some e) d

/-- What an effect allows, any part of it allows. -/
theorem Allows.mono {G : Protocol World Event} {effect effect' : World → Event → World → Prop}
    (h : Allows G effect) (hsub : ∀ w e w', effect' w e w' → effect w e w') : Allows G effect' :=
  fun s t e d hs heff => h s t e d hs (hsub _ _ _ heff)

/-- The function follows the protocol, whatever happened before. -/
abbrev Free {α : Type} (G : Protocol World Event) (p : Call α) : Prop :=
  ∀ t, G.Triple t (fun _ => True) p (fun _ _ => True) fun _ _ => True

/-- The function is free, and its values satisfy `Q`. -/
abbrev Yields {α : Type} (G : Protocol World Event) (p : Call α) (Q : α → Prop) : Prop :=
  ∀ t, G.Triple t (fun _ => True) p (fun a _ => Q a) fun _ _ => True

section Free

variable {G : Protocol World Event} {α β : Type}

theorem free_pure (a : α) : Free G (pure a) := fun _ => .ret fun _ _ _ => trivial

theorem free_throw (e : RisError) : Free G (throw e : Call α) := fun _ => .throw fun _ _ _ => trivial

theorem free_lift (x : Except RisError α) : Free G (monadLift x) :=
  fun _ => .lift (fun _ _ _ _ _ => trivial) fun _ _ _ _ _ => trivial

theorem free_bind {p : Call α} {f : α → Call β} (hp : Free G p) (hf : ∀ a, Free G (f a)) :
    Free G (p >>= f) :=
  fun t => (hp t).bind fun a => hf a t

theorem free_tryCatch {p : Call α} {h : RisError → Call α} (hp : Free G p) (hh : ∀ e, Free G (h e)) :
    Free G (tryCatch p h) :=
  fun t => (hp t).tryCatch fun e => hh e t

theorem free_ite {c : Prop} [Decidable c] {p q : Call α} (hp : Free G p) (hq : Free G q) :
    Free G (if c then p else q) := by
  split
  · exact hp
  · exact hq

theorem free_discard {p : Call α} (hp : Free G p) : Free G p.discard := fun t => (hp t).discard

theorem free_forM {as : List α} {f : α → Call Unit} (hf : ∀ a, Free G (f a)) : Free G (as.forM f) :=
  fun t => .forM fun a _ => hf a t

theorem yields_lift {x : Except RisError α} {Q : α → Prop} (h : ∀ a, x = .ok a → Q a) :
    Yields G (monadLift x) Q :=
  fun _ => .lift (fun a _ ha _ _ => h a ha) fun _ _ _ _ _ => trivial

/-- A caller may use what a function yields. -/
theorem Yields.bind {p : Call α} {f : α → Call β} {R : α → Prop} {Q : β → Prop} (hp : Yields G p R)
    (hf : ∀ a, R a → Yields G (f a) Q) : Yields G (p >>= f) Q :=
  fun t => (hp t).bind fun a => .assume (P := R a) (fun _ h => h) fun ha =>
    (hf a ha t).conseq (fun _ _ _ => trivial) (fun _ _ _ h => h) fun _ _ _ h => h

/-- A free function asks for nothing. -/
theorem Free.of {p : Call α} (hp : Free G p) (A : State World Event → Prop) (t : ℕ) :
    G.Triple t A p (fun _ _ => True) fun _ _ => True :=
  (hp t).conseq (fun _ _ _ => trivial) (fun _ _ _ h => h) fun _ _ _ h => h

/-- A free function keeps a steady assertion. -/
theorem Free.keeps {p : Call α} (hp : Free G p) {B : State World Event → Prop} (hB : G.Steady B)
    (t : ℕ) : G.Triple t B p (fun _ => B) fun _ => B :=
  ((hp t).frame hB).conseq (fun _ _ h => ⟨h, trivial⟩) (fun _ _ _ h => h.1) fun _ _ _ h => h.1

/-- It does so whatever error it may end with. -/
theorem Free.carries {p : Call α} (hp : Free G p) {B : State World Event → Prop} (hB : G.Steady B)
    (t : ℕ) : G.Triple t B p (fun _ => B) fun _ _ => True :=
  (hp.keeps hB t).weaken (fun _ _ _ h => h) fun _ _ _ _ => trivial

end Free

section Statements

variable {G : Protocol World Event} (hG : Quiet G) {α : Type}

include hG

/-- A statement under a steady assertion: its commit is an allowed effect. -/
theorem triple_statement {B : State World Event → Prop} (hB : G.Steady B) {x : Tx α}
    {committed : α → Event} {Q : α → State World Event → Prop} (t : ℕ)
    (h : ∀ s i a d, G.inv s → B s → x i s.store = .ok (a, d) →
      G.effect s t (some (committed a)) d ∧ Q a (s.record t (some (committed a)) d)) :
    G.Triple t B (.transaction x committed fun _ => .threw) Q fun _ _ => True :=
  .transaction (hB.stable t) h fun s _ _ _ _ _ => ⟨hG.threw s t, trivial⟩

/-- A transaction under a steady assertion. -/
theorem triple_transaction {B : State World Event → Prop} (hB : G.Steady B) {body : Tx α}
    {committed : α → Event} (t : ℕ)
    (h : ∀ s i a d, G.inv s → B s → body i s.store = .ok (a, d) →
      G.effect s t (some (committed a)) d) :
    G.Triple t B (transaction body committed) (fun _ _ => True) fun _ _ => True := by
  refine triple_statement hG hB t fun s i a d hs hBs hx => ?_
  simp only [Txn.bind_ok, connect_ok] at hx
  obtain ⟨_, _, ⟨-, rfl⟩, hx⟩ := hx
  exact ⟨h s i a d hs hBs hx, trivial⟩

/-- A query: what it returns, the store then had. -/
theorem triple_query {f : World → α} {Q : α → State World Event → Prop} (t : ℕ)
    (hQ : ∀ s, G.inv s → Q (f s.store) (s.record t (some .read) s.store)) :
    G.Triple t (fun _ => True) (query f) Q fun _ _ => True := by
  refine triple_statement hG (fun _ _ _ _ _ _ _ => trivial) t fun s i a d hs _ hx => ?_
  simp only [Txn.bind_ok, connect_ok, Txn.read_ok] at hx
  obtain ⟨_, _, ⟨-, rfl⟩, rfl, rfl⟩ := hx
  exact ⟨hG.read s t, hQ s hs⟩

theorem free_query (f : World → α) : Free G (query f) :=
  fun t => triple_query hG t fun _ _ => trivial

/-- A query with the clock: what it returns, the store then had. -/
theorem triple_queryNow {f : ℤ → World → α} {Q : α → State World Event → Prop} (t : ℕ)
    (hQ : ∀ s now, G.inv s → Q (f now s.store) (s.record t (some .read) s.store)) :
    G.Triple t (fun _ => True) (queryNow f) (fun a => Q a.1) fun _ _ => True := by
  refine triple_statement hG (fun _ _ _ _ _ _ _ => trivial) t fun s i a d hs _ hx => ?_
  simp only [Txn.bind_ok, connect_ok, now_ok, Txn.read_ok, Txn.pure_ok] at hx
  obtain ⟨_, _, ⟨-, rfl⟩, _, _, ⟨-, rfl⟩, _, _, ⟨rfl, rfl⟩, rfl, rfl⟩ := hx
  exact ⟨hG.read s t, hQ s _ hs⟩

theorem free_queryNow (f : ℤ → World → α) : Free G (queryNow f) :=
  fun t => triple_queryNow hG (Q := fun _ _ => True) t fun _ _ _ => trivial

/-- What a query yields is what the invariant says of the store. -/
theorem yields_query {f : World → α} {Q : α → Prop} (hQ : ∀ s, G.inv s → Q (f s.store)) :
    Yields G (query f) Q :=
  fun t => triple_query hG t fun s hs => hQ s hs

theorem free_statement {x : Tx α} {committed : α → Event}
    (h : ∀ (s : State World Event) t i a d, G.inv s → x i s.store = .ok (a, d) →
      G.effect s t (some (committed a)) d) :
    Free G (.transaction x committed fun _ => .threw) :=
  fun t => triple_statement hG (B := fun _ => True) (fun _ _ _ _ _ _ _ => trivial) t
    fun s i a d hs _ hx => ⟨h s t i a d hs hx, trivial⟩

theorem free_transaction {body : Tx α} {committed : α → Event}
    (h : ∀ (s : State World Event) t i a d, G.inv s → body i s.store = .ok (a, d) →
      G.effect s t (some (committed a)) d) : Free G (transaction body committed) :=
  fun t => triple_transaction hG (B := fun _ => True) (fun _ _ _ _ _ _ _ => trivial) t
    fun s i a d hs _ hx => h s t i a d hs hx

/-- A refused transaction follows every protocol that lets it fail. -/
theorem free_transaction_refused {body : Tx α} {committed : α → Event} (h : Txn.Refused body) :
    Free G (transaction body committed) :=
  free_transaction hG fun _ _ i a d _ hok => (h i _ a d hok).elim

theorem free_log (action : String) : Free G (log action) :=
  free_statement hG fun s t i a d _ hx => by
    obtain ⟨-, rfl⟩ := connect_ok.1 hx
    exact hG.logged s t action

/-- A transaction whose body enqueues jobs, if they may be left behind. -/
theorem free_enqueuingTransaction {body : Tx α} {committed : α → Event}
    (hleft : ∀ (s : State World Event) t jobs,
      G.effect s t (some .leftJobs) { s.store with jobs := jobs })
    (h : ∀ (s : State World Event) t i a d, G.inv s → body i s.store = .ok (a, d) →
      G.effect s t (some (committed a)) d) : Free G (enqueuingTransaction body committed) := by
  refine free_bind (free_statement hG ?_) fun outcome => free_lift outcome
  intro s t i outcome d hs hx
  simp only [Txn.bind_ok, connect_ok] at hx
  obtain ⟨_, _, ⟨-, rfl⟩, hx⟩ := hx
  obtain ⟨a, rfl, hbody⟩ | ⟨e, jobs, rfl, rfl⟩ := keepJobs_ok hx
  · exact h s t i a d hs hbody
  · exact hleft s t jobs

end Statements

section Enqueue

variable {G : Protocol World Event} (hG : Permissive G)

include hG

theorem free_enqueueWithContext (job : Job) : Free G (enqueueWithContext job) :=
  free_statement hG fun s t i a d _ hx => by
    simp only [Txn.bind_ok, connect_ok, Txn.write_ok] at hx
    obtain ⟨_, _, ⟨-, rfl⟩, rfl⟩ := hx
    exact hG.enqueued s t job

theorem free_enqueueOrWarn (cfg : Config) (job : Job) (warning : String) :
    Free G (enqueueOrWarn cfg job warning) := by
  unfold enqueueOrWarn
  split
  · exact free_enqueueWithContext hG job
  · exact free_log hG warning

end Enqueue

theorem free_auditAlone {G : Protocol World Event} (hG : Auditing G) (entry : AuditLog) :
    Free G (auditAlone entry) :=
  free_statement hG.toQuiet fun s t i a d _ hx => by
    simp only [Txn.bind_ok, connect_ok, createAuditEntry_ok] at hx
    obtain ⟨_, _, ⟨-, rfl⟩, rfl⟩ := hx
    exact hG.audited s t entry

end Ris
