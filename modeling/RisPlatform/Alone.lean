import RisPlatform.Common.Sequential
import RisPlatform.Common.Solo
import RisPlatform.Triples

/-!
# Statements of a call that runs alone

The rules of `Proc.Ends`, of `Proc.Alone` and of `Proc.outcome` for the statements of the services: what a
query, a check and a transaction do to a store that nothing else changes.
-/

namespace Ris

open Relational Concurrent

/-- No statement fails. -/
def Healthy (i : Input) : Prop := i.fault = none

section Statements

variable {good : Input → Prop} {α β : Type} {Q : β → World → Prop} {E : RisError → World → Prop}
  {w : World}

/-- A statement whose body succeeds with every good input: it fails only where there is a fault. -/
theorem ends_connected {x : Tx α} {committed : α → Event} {Q : α → World → Prop}
    (hok : ∀ i, good i → ∃ a d, x i w = .ok (a, d) ∧ Q a d)
    (hfault : ∀ i, good i → ¬Healthy i → ∀ e, E e w) :
    (Proc.transaction (do connect; x) committed fun _ => .threw).Ends good Q E w := by
  refine Proc.ends_transaction (fun i a d hi hx => ?_) fun i e hi hx => ?_
  · obtain ⟨_, _, hconnect, hbody⟩ := Txn.bind_ok.1 hx
    obtain ⟨-, rfl⟩ := connect_ok.1 hconnect
    obtain ⟨b, d', hb, hQ⟩ := hok i hi
    rw [hb, Except.ok.injEq, Prod.mk.injEq] at hbody
    obtain ⟨rfl, rfl⟩ := hbody
    exact hQ
  · refine hfault i hi (fun hhealthy => ?_) e
    have hconnect : connect i w = .ok ((), w) := connect_ok.2 ⟨hhealthy, rfl⟩
    obtain ⟨b, d', hb, -⟩ := hok i hi
    rw [Txn.bind_error, hconnect] at hx
    rcases hx with hx | ⟨_, _, hsame, hx⟩
    · cases hx
    · cases hsame
      rw [hb] at hx
      cases hx

/-- A query goes on with what the store has, and fails only where there is a fault. -/
theorem ends_query_bind_of {f : World → α} {g : α → Call β} (h : (g (f w)).Ends good Q E w)
    (hfault : ∀ i, good i → ¬Healthy i → ∀ e, E e w) : (query f >>= g).Ends good Q E w := by
  refine Proc.Ends.bind (R := fun a d => a = f w ∧ d = w)
    (ends_connected (fun i _ => ⟨f w, w, rfl, rfl, rfl⟩) hfault) ?_
  rintro a d ⟨rfl, rfl⟩
  exact h

/-- A query goes on with what the store has, unless it fails. -/
theorem ends_bind_query {f : World → α} {g : α → Call β} (h : (g (f w)).Ends good Q E w)
    (herr : ∀ e, E e w) : (query f >>= g).Ends good Q E w :=
  ends_query_bind_of h fun _ _ _ => herr

/-- A check that throws ends the call. -/
theorem ends_bind_error {x : Except RisError α} {e : RisError} {g : α → Call β} (hx : x = .error e)
    (h : E e w) : ((monadLift x : Call α) >>= g).Ends good Q E w := by
  subst hx
  exact h

/-- A check that passes hands on its value. -/
theorem ends_bind_ok {x : Except RisError α} {a : α} {g : α → Call β} (hx : x = .ok a)
    (h : (g a).Ends good Q E w) : ((monadLift x : Call α) >>= g).Ends good Q E w := by
  subst hx
  exact h

/-- A check whose error ends the call well may be taken as passed. -/
theorem ends_bind_check {x : Except RisError α} {g : α → Call β}
    (h : ∀ a, (g a).Ends good Q (fun _ _ => True) w) :
    ((monadLift x : Call α) >>= g).Ends good Q (fun _ _ => True) w := by
  cases x with
  | ok a => exact h a
  | error e => exact trivial

/-- With inputs under which no statement fails, a query goes on with what the store has. -/
theorem ends_healthy_query_bind {f : World → α} {g : α → Call β} (hgood : ∀ i, good i → Healthy i)
    (h : (g (f w)).Ends good Q E w) : (query f >>= g).Ends good Q E w :=
  ends_query_bind_of h fun i hi hn => absurd (hgood i hi) hn

/-- A query that does not fail goes on with what the store has. -/
theorem ends_query_bind {f : World → α} {g : α → Call β} :
    (query f >>= g).Ends Healthy Q E w ↔ (g (f w)).Ends Healthy Q E w :=
  ⟨fun h => h {} rfl, ends_healthy_query_bind fun _ hi => hi⟩

/-- A statement that succeeds with every good input. -/
theorem ends_statement {x : Tx α} {committed : α → Event} {failed : RisError → Event}
    {Q : α → World → Prop}
    (h : ∀ i, good i → ∃ a d, x i w = .ok (a, d) ∧ Q a d) :
    (Proc.transaction x committed failed).Ends good Q E w := by
  refine Proc.ends_transaction (fun i a d hi hx => ?_) fun i e hi hx => ?_
  · obtain ⟨b, d', hb, hQ⟩ := h i hi
    rw [hb, Except.ok.injEq, Prod.mk.injEq] at hx
    obtain ⟨rfl, rfl⟩ := hx
    exact hQ
  · obtain ⟨b, d', hb, -⟩ := h i hi
    rw [hb] at hx
    cases hx

/-- A transaction whose body commits. -/
theorem ends_commit {body : Tx α} {committed : α → Event} {Q : α → World → Prop}
    (h : ∀ i, Healthy i → ∃ a d, body i w = .ok (a, d) ∧ Q a d) :
    (transaction body committed).Ends Healthy Q E w :=
  ends_connected h fun _ hi hn => absurd hi hn

theorem ends_healthy_log {action : String} {Q : Unit → World → Prop} (h : Q () w) :
    (log action).Ends Healthy Q E w :=
  ends_statement fun _ hi => ⟨(), w, connect_ok.2 ⟨hi, rfl⟩, h⟩

/-- A log line leaves the store, whether it fails or not. -/
theorem ends_any_log {action : String} {Q : Unit → World → Prop} (h : Q () w) (herr : ∀ e, E e w) :
    (log action).Ends good Q E w :=
  Proc.ends_transaction (fun _ _ _ _ hx => (connect_ok.1 hx).2 ▸ h) fun _ e _ _ => herr e

/-- Whatever the store, a query returns what it reads there. -/
theorem gives_query {f : World → α} {Q : α → Prop} (h : ∀ w, Q (f w)) :
    (query f).Gives good Q fun _ => True := by
  refine Proc.gives_transaction (fun i d a d' _ hx => ?_) fun _ _ _ _ _ => trivial
  simp only [Txn.bind_ok, connect_ok, Txn.read_ok] at hx
  obtain ⟨_, _, ⟨-, rfl⟩, rfl, -⟩ := hx
  exact h _

/-- A transaction whose body fails ends the call with that error. -/
theorem ends_enqueuingTransaction_bind {body : Tx α} {committed : α → Event} {g : α → Call β}
    (hgood : ∀ i, good i → Healthy i) (h : ∀ i, good i → ∃ e, body i w = .error e ∧ E e w) :
    (enqueuingTransaction body committed >>= g).Ends good Q E w := by
  refine Proc.Ends.bind (R := fun _ _ => False) ?_ (fun _ _ hfalse => hfalse.elim)
  refine Proc.Ends.bind (R := fun _ _ => False) ?_ (fun _ _ hfalse => hfalse.elim)
  refine Proc.ends_transaction (fun i a d hi hx => ?_) fun i e hi hx => ?_
  · obtain ⟨e, hbody, -⟩ := h i hi
    simp only [Txn.bind_ok, connect_ok, keepJobs] at hx
    obtain ⟨_, _, ⟨-, rfl⟩, hx⟩ := hx
    simp [hbody] at hx
  · obtain ⟨e', hbody, hE⟩ := h i hi
    have hfault : i.fault = none := hgood i hi
    simp only [Txn.bind_error, connect_ok] at hx
    rcases hx with hx | ⟨_, _, ⟨-, rfl⟩, hx⟩
    · simp [connect, hfault, Txn.input, bind, pure] at hx
    · simp only [keepJobs, hbody, Except.error.injEq] at hx
      exact hx ▸ hE

end Statements

/-! ## With the history -/

/-- The statement reads, fails, logs, enqueues or writes an audit row of its own. -/
def Event.Calm : Event → Prop
  | .read | .threw | .logged _ | .enqueued _ | .leftJobs | .audited _ => True
  | _ => False

/-- Since the first state there have been calm statements only. -/
structure Calm (s s' : State World Event) : Prop where
  store : s'.store = { s.store with auditLogs := s'.store.auditLogs, jobs := s'.store.jobs }
  hist : ∃ new, s'.hist = new ++ s.hist ∧ ∀ x ∈ new, ∃ e, x.2 = some e ∧ e.Calm

theorem Calm.refl (s : State World Event) : Calm s s :=
  ⟨rfl, [], rfl, fun _ hx => absurd hx List.not_mem_nil⟩

theorem Calm.trans {s₁ s₂ s₃ : State World Event} (h : Calm s₁ s₂) (h' : Calm s₂ s₃) : Calm s₁ s₃ := by
  obtain ⟨new, hnew, hcalm⟩ := h.hist
  obtain ⟨new', hnew', hcalm'⟩ := h'.hist
  refine ⟨by rw [h'.store, h.store], new' ++ new, by rw [hnew', hnew, List.append_assoc], fun x hx => ?_⟩
  exact (List.mem_append.1 hx).elim (hcalm' x) (hcalm x)

theorem calm_record {s : State World Event} {t : ℕ} {e : Event} {d : World} (he : e.Calm)
    (hd : d = { s.store with auditLogs := d.auditLogs, jobs := d.jobs }) :
    Calm s (s.record t (some e) d) :=
  ⟨hd, [(t, some e)], rfl, fun x hx => ⟨e, by rw [List.mem_singleton.1 hx], he⟩⟩

/-- The protocol of calm statements, from the state `s₀` on. -/
def calmFrom (s₀ : State World Event) : Protocol World Event where
  inv s := Calm s₀ s
  effect s _ e d := ∃ ev, e = some ev ∧ ev.Calm ∧
    d = { s.store with auditLogs := d.auditLogs, jobs := d.jobs }
  inv_effect := by
    rintro s t e d hs ⟨ev, rfl, hev, hd⟩
    exact hs.trans (calm_record hev hd)
  return_stable := by
    rintro s t u e d - - ⟨ev, hev, -⟩ -
    cases hev

theorem auditing_calmFrom (s₀ : State World Event) : Auditing (calmFrom s₀) where
  read _ _ := ⟨_, rfl, trivial, rfl⟩
  threw _ _ := ⟨_, rfl, trivial, rfl⟩
  logged _ _ _ := ⟨_, rfl, trivial, rfl⟩
  enqueued _ _ _ := ⟨_, rfl, trivial, rfl⟩
  leftJobs _ _ _ := ⟨_, rfl, trivial, rfl⟩
  audited _ _ _ := ⟨_, rfl, trivial, rfl⟩

/-- The call only reads, logs, enqueues and audits. -/
def Passive {α : Type} (p : Call α) : Prop := ∀ G, Auditing G → Free G p

section Sequence

variable {α β : Type} {good : Input → Prop} {t : ℕ} {Q : Except RisError β → State World Event → Prop}
  {s : State World Event}

theorem Passive.alone {p : Call α} (hp : Passive p) : p.Alone good t (fun _ s' => Calm s s') s :=
  ((hp _ (auditing_calmFrom s) t s (Calm.refl s) trivial).alone (Calm.refl s)).mono fun _ _ h => h.1

theorem Passive.alone_bind {p : Call α} {f : α → Call β} (hp : Passive p)
    (hf : ∀ a s', Calm s s' → (f a).Alone good t Q s') (herr : ∀ e s', Calm s s' → Q (.error e) s') :
    (p >>= f).Alone good t Q s :=
  hp.alone.bind hf herr

theorem alone_query_bind {f : World → α} {g : α → Call β}
    (hg : ∀ s', Calm s s' → (g (f s.store)).Alone good t Q s')
    (herr : ∀ e s', Calm s s' → Q (.error e) s') : (query f >>= g).Alone good t Q s := by
  refine .bind (R := fun r s' => Calm s s' ∧ ∀ a, r = .ok a → a = f s.store)
    (Proc.alone_transaction ?_ ?_) ?_ ?_
  · intro i a d _ hx
    simp only [Txn.bind_ok, connect_ok, Txn.read_ok] at hx
    obtain ⟨_, _, ⟨-, rfl⟩, rfl, rfl⟩ := hx
    exact ⟨calm_record trivial rfl, fun a ha => (Except.ok.inj ha).symm⟩
  · exact fun i e _ _ => ⟨calm_record trivial rfl, fun a ha => by cases ha⟩
  · rintro a s' ⟨hcalm, ha⟩
    rw [ha a rfl]
    exact hg s' hcalm
  · exact fun e s' h => herr e s' h.1

theorem alone_queryNow_bind {f : ℤ → World → α} {g : α × ℤ → Call β}
    (hg : ∀ i s', good i → Calm s s' → (g (f i.now s.store, i.now)).Alone good t Q s')
    (herr : ∀ e s', Calm s s' → Q (.error e) s') : (queryNow f >>= g).Alone good t Q s := by
  refine .bind (R := fun r s' => Calm s s' ∧ ∀ a, r = .ok a → ∃ i, good i ∧ a = (f i.now s.store, i.now))
    (Proc.alone_transaction ?_ ?_) ?_ ?_
  · intro i a d hi hx
    simp only [Txn.bind_ok, connect_ok, now_ok, Txn.read_ok, Txn.pure_ok] at hx
    obtain ⟨_, _, ⟨-, rfl⟩, _, _, ⟨rfl, rfl⟩, _, _, ⟨rfl, rfl⟩, rfl, rfl⟩ := hx
    exact ⟨calm_record trivial rfl, fun a ha => ⟨i, hi, (Except.ok.inj ha).symm⟩⟩
  · exact fun i e _ _ => ⟨calm_record trivial rfl, fun a ha => by cases ha⟩
  · rintro a s' ⟨hcalm, ha⟩
    obtain ⟨i, hi, rfl⟩ := ha a rfl
    exact hg i s' hi hcalm
  · exact fun e s' h => herr e s' h.1

theorem alone_lift_bind {x : Except RisError α} {g : α → Call β}
    (hg : ∀ a, x = .ok a → (g a).Alone good t Q s) (herr : ∀ e, x = .error e → Q (.error e) s) :
    ((monadLift x : Call α) >>= g).Alone good t Q s := by
  cases x with
  | ok a => exact hg a rfl
  | error e => exact herr e rfl

theorem alone_transaction_bind {body : Tx α} {committed : α → Event} {g : α → Call β}
    (hg : ∀ i a d, good i → body i s.store = .ok (a, d) →
      (g a).Alone good t Q (s.record t (some (committed a)) d))
    (herr : ∀ e s', Calm s s' → Q (.error e) s') : (transaction body committed >>= g).Alone good t Q s := by
  refine .bind (R := fun r s' => (∀ a, r = .ok a → ∃ i d, good i ∧ body i s.store = .ok (a, d) ∧
      s' = s.record t (some (committed a)) d) ∧ ∀ e, r = .error e → Calm s s')
    (Proc.alone_transaction ?_ ?_) ?_ ?_
  · intro i a d hi hx
    obtain ⟨_, _, hconnect, hx⟩ := Txn.bind_ok.1 hx
    obtain ⟨-, rfl⟩ := connect_ok.1 hconnect
    refine ⟨fun a' ha' => ?_, nofun⟩
    obtain rfl := Except.ok.inj ha'
    exact ⟨i, d, hi, hx, rfl⟩
  · exact fun i e _ _ => ⟨nofun, fun e' _ => calm_record trivial rfl⟩
  · rintro a s' ⟨ha, -⟩
    obtain ⟨i, d, hi, hx, rfl⟩ := ha a rfl
    exact hg i a d hi hx
  · exact fun e s' h => herr e s' (h.2 e rfl)

end Sequence

/-! ## With one input -/

section Outcome

variable {i : Input} {w w' : World} {α β : Type}

@[simp] theorem outcome_query_ok {f : World → α} {seen : α → Event} {a : α} :
    (query f seen).outcome i w = (.ok a, w') ↔ i.fault = none ∧ f w = a ∧ w = w' := by
  simp only [query, Proc.outcome_transaction_ok, Txn.bind_ok, connect_ok, Txn.read_ok]
  constructor
  · rintro ⟨_, _, ⟨hfault, rfl⟩, rfl, rfl⟩
    exact ⟨hfault, rfl, rfl⟩
  · rintro ⟨hfault, rfl, rfl⟩
    exact ⟨(), _, ⟨hfault, rfl⟩, rfl, rfl⟩

section Played

variable {α β : Type} {ins : ℕ → Input} {n : ℕ} {w w' : World} {a : α}

/-- A statement that does not fail, with the number of the next one. -/
theorem play_statement (hn : Healthy (ins n)) {body : Tx α} {committed : α → Event}
    (h : body (ins n) w = .ok (a, w')) :
    (.transaction (do connect; body) committed fun _ => .threw : Call α).play ins n w =
      (.ok a, w', n + 1) := by
  refine Proc.play_transaction_ok ?_
  simp only [Txn.bind_ok, connect_ok]
  exact ⟨(), w, ⟨hn, rfl⟩, h⟩

theorem play_query (hn : Healthy (ins n)) (f : World → α) :
    (query f).play ins n w = (.ok (f w), w, n + 1) :=
  play_statement hn rfl

theorem connect_of_fault {message : String} {i : Input} (hi : i.fault = some message) (w : World) :
    connect i w = .error (.runtime message) := by
  simp [connect, hi, Txn.input, Txn.abort, bind]

/-- A statement that fails ends the call and leaves the store. -/
theorem play_fault (hn : ¬Healthy (ins n)) {body : Tx α} {committed : α → Event} {f : α → Call β} :
    ∃ e, ((.transaction (do connect; body) committed fun _ => .threw : Call α) >>= f).play ins n w =
      (.error e, w, n + 1) := by
  obtain ⟨message, hm⟩ := Option.ne_none_iff_exists'.1 hn
  refine ⟨.runtime message, Proc.play_bind_error (Proc.play_transaction_error ?_)⟩
  rw [Txn.bind_error]
  exact Or.inl (connect_of_fault hm w)

theorem store_of_fault (hn : ¬Healthy (ins n)) {body : Tx α} {committed : α → Event} {f : α → Call β} :
    (((.transaction (do connect; body) committed fun _ => .threw : Call α) >>= f).play ins n w).2.1 = w := by
  obtain ⟨e, he⟩ := play_fault hn
  rw [he]

/-- A log line stores nothing, whether it fails or not. -/
theorem store_of_log_bind {action : String} {f : Unit → Call β} {w' : World}
    (hf : Healthy (ins n) → ((f ()).play ins (n + 1) w).2.1 = w') (hn : ¬Healthy (ins n) → w' = w) :
    ((log action >>= f).play ins n w).2.1 = w' := by
  by_cases hlog : Healthy (ins n)
  · have hplay : (log action).play ins n w = (.ok (), w, n + 1) :=
      Proc.play_transaction_ok (connect_ok.2 ⟨hlog, rfl⟩)
    rw [Proc.play_bind_ok hplay]
    exact hf hlog
  · obtain ⟨message, hm⟩ := Option.ne_none_iff_exists'.1 hlog
    have hplay : (log action).play ins n w = (.error (.runtime message), w, n + 1) :=
      Proc.play_transaction_error (connect_of_fault hm w)
    rw [Proc.play_bind_error hplay, hn hlog]

end Played

@[simp] theorem outcome_log_ok {action : String} {u : Unit} :
    (log action).outcome i w = (.ok u, w') ↔ i.fault = none ∧ w = w' := by
  simp [log, connect_ok]

@[simp] theorem outcome_queryNow_ok {f : ℤ → World → α} {a : α × ℤ} :
    (queryNow f).outcome i w = (.ok a, w') ↔ i.fault = none ∧ (f i.now w, i.now) = a ∧ w = w' := by
  simp only [queryNow, Proc.outcome_transaction_ok, Txn.bind_ok, connect_ok, now_ok, Txn.read_ok,
    Txn.pure_ok]
  constructor
  · rintro ⟨_, _, ⟨hfault, rfl⟩, _, _, ⟨rfl, rfl⟩, _, _, ⟨rfl, rfl⟩, rfl, rfl⟩
    exact ⟨hfault, rfl, rfl⟩
  · rintro ⟨hfault, rfl, rfl⟩
    exact ⟨(), _, ⟨hfault, rfl⟩, _, _, ⟨rfl, rfl⟩, _, _, ⟨rfl, rfl⟩, rfl, rfl⟩

@[simp] theorem outcome_transactionOf_ok {body : Tx α} {committed : α → Event} {a : α} :
    (transaction body committed).outcome i w = (.ok a, w') ↔
      i.fault = none ∧ body i w = .ok (a, w') := by
  simp only [transaction, Proc.outcome_transaction_ok, Txn.bind_ok, connect_ok]
  constructor
  · rintro ⟨_, _, ⟨hfault, rfl⟩, hbody⟩
    exact ⟨hfault, hbody⟩
  · rintro ⟨hfault, hbody⟩
    exact ⟨(), _, ⟨hfault, rfl⟩, hbody⟩

/-- Whatever the store, the call ends with a value and leaves the store but for audit rows and jobs. -/
def Passes (i : Input) (p : Call α) : Prop :=
  ∀ w, ∃ a w', p.outcome i w = (.ok a, w') ∧
    w' = { w with auditLogs := w'.auditLogs, jobs := w'.jobs }

theorem passes_pure (a : α) : Passes i (pure a : Call α) := fun w => ⟨a, w, by simp, rfl⟩

theorem Passes.bind {p : Call α} {f : α → Call β} (hp : Passes i p) (hf : ∀ a, Passes i (f a)) :
    Passes i (p >>= f) := by
  intro w
  obtain ⟨a, w₁, h₁, hframe₁⟩ := hp w
  obtain ⟨b, w₂, h₂, hframe₂⟩ := hf a w₁
  refine ⟨b, w₂, Proc.outcome_bind_ok.2 ⟨a, w₁, h₁, h₂⟩, ?_⟩
  rw [hframe₂, hframe₁]

theorem passes_ite {c : Prop} [Decidable c] {p q : Call α} (hp : Passes i p) (hq : Passes i q) :
    Passes i (if c then p else q) := by
  split
  · exact hp
  · exact hq

theorem passes_log (hi : i.fault = none) (action : String) : Passes i (log action) :=
  fun w => ⟨(), w, by simp [log, hi], rfl⟩

theorem passes_enqueueWithContext (hi : i.fault = none) (job : Job) :
    Passes i (enqueueWithContext job) :=
  fun w => ⟨(), { w with jobs := w.jobs ++ [job] }, by simp [enqueueWithContext, hi], rfl⟩

theorem passes_enqueueOrWarn (hi : i.fault = none) (cfg : Config) (job : Job) (warning : String) :
    Passes i (enqueueOrWarn cfg job warning) :=
  passes_ite (passes_enqueueWithContext hi job) (passes_log hi warning)

theorem passes_auditAlone (hi : i.fault = none) (entry : AuditLog) : Passes i (auditAlone entry) :=
  fun w => ⟨(), { w with auditLogs := w.auditLogs ++ [entry] }, by simp [auditAlone, hi], rfl⟩

theorem Passes.returns {p : Call α} (hp : Passes i p) : p.Returns i w := by
  obtain ⟨a, w', h, -⟩ := hp w
  exact ⟨a, w', h⟩

/-- What such a call ended with is what it ends with. -/
theorem Passes.of_outcome {p : Call α} (hp : Passes i p) {a : α} (h : p.outcome i w = (.ok a, w')) :
    w' = { w with auditLogs := w'.auditLogs, jobs := w'.jobs } := by
  obtain ⟨a', w₁, h', hframe⟩ := hp w
  rw [h', Prod.mk.injEq] at h
  obtain ⟨-, rfl⟩ := h
  exact hframe

end Outcome

end Ris
