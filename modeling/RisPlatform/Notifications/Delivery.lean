import RisPlatform.Common.Effects
import RisPlatform.Common.Histories
import RisPlatform.Notifications.Service

/-!
# The delivery of notifications

The queue tries a job again until an attempt succeeds, and the worker passes over a job whose id it
remembers. It remembers an id when the provider has answered, also when the answer is a failure: the
attempts that follow are then passed over, and the job is never sent. The id is the one of the payload,
which two jobs may share, or lack.
-/

namespace Ris.Notifications

open Concurrent

/-! ## The law -/

/-- The provider accepted the job. -/
def accepts (job : ℕ) : Option Event → Bool
  | some (.answered j _ true) => j = job
  | _ => false

/-- The last act of the call was to ask the provider to send the job. -/
def awaits (job : ℕ) : List (Option Event) → Bool
  | some (.checked j _ .dispatched) :: _ => j = job
  | _ => false

/-- The job was sent. -/
def Sent (job : ℕ) (hist : List (ℕ × Option Event)) : Prop := Occurs (accepts job) hist

instance (job : ℕ) (hist : List (ℕ × Option Event)) : Decidable (Sent job hist) :=
  inferInstanceAs (Decidable (Occurs (accepts job) hist))

/-- The attempt waits for the answer of the provider. -/
def AtProvider (job t : ℕ) (hist : List (ℕ × Option Event)) : Prop := awaits job (own t hist) = true

/-- Only a job that was sent is passed over: neither one whose attempts failed, nor one that is mistaken
for another. No job is sent twice, whatever the provider answers: what waits for an answer was not sent,
and is the only attempt at its job that waits. -/
structure Delivers (hist : List (ℕ × Option Event)) : Prop where
  skipped : ∀ t job id earlier,
    (t, some (.checked job id .duplicate)) :: earlier <:+ hist → Sent job earlier
  once : ∀ job, occurrences (accepts job) hist ≤ 1
  unsent : ∀ job t, AtProvider job t hist → ¬Sent job hist
  alone : ∀ job t u, AtProvider job t hist → AtProvider job u hist → t = u

/-- The ids that are remembered after the answers of a history, accepted or refused. -/
def recalled : List (ℕ × Option Event) → List Scalar
  | [] => []
  | (_, some (.answered _ id _)) :: earlier => trackProcessedJob id (recalled earlier)
  | _ :: earlier => recalled earlier

/-- Unless the breaker of its channel is open, the id of a job that is checked is remembered from an earlier
answer if and only if the job was sent; and if it was not sent, no other attempt at it waits for the
provider. -/
def Remembers : Cond Memory Event := fun s _ e =>
  match e with
  | .checked job id admission =>
    admission ≠ .paused → (id ∈ recalled s.hist ↔ Sent job s.hist) ∧
      (¬Sent job s.hist → ∀ u, ¬AtProvider job u s.hist)
  | _ => True

/-! ## What the statements do -/

/-- The call does not wait for the provider. -/
def Unasked (l : List (Option Event)) : Prop := ∀ job, awaits job l = false

/-- What a statement does to the processed jobs, and when. -/
def Moves : Effects Memory Event := fun l m e m' =>
  match e with
  | .checked _ id admission =>
    (admission = .duplicate ↔ id ∈ m.processedJobs) ∧ Unasked l ∧ m'.processedJobs = m.processedJobs
  | .answered job id _ => awaits job l = true ∧ m'.processedJobs = trackProcessedJob id m.processedJobs
  | _ => m'.processedJobs = m.processedJobs

section Statements

variable {i : Outside} {m m' : Memory} {payload : NotificationJobPayload}

theorem processedJobs_of_isCircuitOpen {channel : String} {isOpen : Bool}
    (h : isCircuitOpen channel i m = .ok (isOpen, m')) : m'.processedJobs = m.processedJobs := by
  unfold isCircuitOpen at h
  split at h
  · split at h
    · cases h
      rfl
    · cases h
  · split at h
    · cases h
      rfl
    · split at h
      · cases h
        exact Memory.processedJobs_setCircuitBreaker m channel {}
      · cases h
        rfl

/-- A payload is a duplicate when its id is remembered; the checks remember nothing. -/
theorem checkPayload_ok {admission : Admission} (h : checkPayload payload i m = .ok (admission, m')) :
    (admission = .duplicate ↔ payload.id ∈ m.processedJobs) ∧ m'.processedJobs = m.processedJobs := by
  simp only [checkPayload, Txn.bind_ok, Txn.read_ok] at h
  obtain ⟨_, _, ⟨rfl, rfl⟩, h⟩ := h
  by_cases hmem : payload.id ∈ m.processedJobs
  · simp only [id_eq, hmem, if_true, Txn.pure_ok] at h
    obtain ⟨rfl, rfl⟩ := h
    exact ⟨iff_of_true rfl hmem, rfl⟩
  · simp only [id_eq, hmem, if_false, Txn.bind_ok, Txn.pure_ok] at h
    obtain ⟨isOpen, _, hopen, rfl, rfl⟩ := h
    refine ⟨iff_of_false ?_ hmem, processedJobs_of_isCircuitOpen hopen⟩
    cases isOpen <;> decide

theorem processedJobs_updateCircuitBreaker (channel : String) (success : Bool) (now : ℤ) (m : Memory) :
    (updateCircuitBreaker channel success now m).processedJobs = m.processedJobs := by
  unfold updateCircuitBreaker
  split
  · rfl
  · exact Memory.processedJobs_setCircuitBreaker _ _ _

/-- Whatever the provider answers, the id is recorded. -/
theorem settle_ok {result : SendResult} (h : settle payload i m = .ok (result, m')) :
    m'.processedJobs = trackProcessedJob payload.id m.processedJobs := by
  simp only [settle, Txn.bind_ok, Txn.input_ok, Txn.liftM_ok, Txn.write_ok, Txn.pure_ok] at h
  obtain ⟨_, _, ⟨rfl, rfl⟩, result, _, ⟨-, rfl⟩, _, _, rfl, _, _, rfl, -, rfl⟩ := h
  simp only [processedJobs_updateCircuitBreaker]

end Statements

section Program

variable {l : List (Option Event)}

theorem does_hydrateLegacyJobPayload (hl : Unasked l) (jobName jobId : String) (data : JobData) :
    (hydrateLegacyJobPayload jobName jobId data).Does Moves (fun _ => Unasked) l := by
  unfold hydrateLegacyJobPayload
  split
  · exact Proc.does_pure hl
  · split
    · exact Proc.does_pure hl
    · refine Proc.Does.bind (R := fun _ => Unasked) ?_ fun _ _ _ hl' => Proc.does_pure hl'
      refine Proc.does_transaction (fun i d a d' h => ⟨?_, fun _ => rfl⟩) fun _ _ _ _ => rfl
      cases hread : i.buyerEmail with
      | error e =>
        rw [hread] at h
        cases h
      | ok found =>
        rw [hread] at h
        cases h
        rfl

theorem does_payloadOf (hl : Unasked l) (job : QueuedJob) (hydrated : Option NotificationJobPayload) :
    (payloadOf job hydrated).Does Moves (fun _ => Unasked) l := by
  cases hydrated with
  | some payload => exact Proc.does_pure hl
  | none =>
    rw [payloadOf]
    refine Proc.does_transaction (fun i d payload d' h => ⟨?_, fun _ => rfl⟩) fun _ _ _ _ => rfl
    cases h
    rfl

theorem does_proceed {job : ℕ} {admission : Admission}
    (hl : admission = .dispatched → awaits job l = true) (payload : NotificationJobPayload) :
    (proceed job payload admission).Does Moves (fun _ _ => True) l := by
  cases admission with
  | duplicate => exact Proc.does_pure trivial
  | paused => exact Proc.does_pure trivial
  | dispatched =>
    rw [proceed]
    refine Proc.does_transaction (fun i d result d' h => ⟨?_, trivial⟩) fun _ _ _ _ => rfl
    exact ⟨hl rfl, settle_ok h⟩

theorem does_processNotification (hl : Unasked l) (job : ℕ) (payload : NotificationJobPayload) :
    (processNotification job payload).Does Moves (fun _ _ => True) l := by
  refine Proc.Does.bind (R := fun admission l => admission = .dispatched → awaits job l = true) ?_
    fun admission l' _ hl' => does_proceed hl' payload
  refine Proc.does_transaction (fun i d admission d' h => ?_) fun _ _ _ _ => rfl
  obtain ⟨hduplicate, hsame⟩ := checkPayload_ok h
  refine ⟨⟨hduplicate, hl, hsame⟩, ?_⟩
  rintro rfl
  exact decide_eq_true rfl

theorem covers_program (queue : ℕ → QueuedJob) : Effects.Covers Moves (program queue) := by
  rintro ⟨number⟩
  have hstart : Unasked [] := fun _ => rfl
  refine (does_hydrateLegacyJobPayload hstart _ _ _).bind fun hydrated l _ hl => ?_
  refine (does_payloadOf hl _ hydrated).bind fun payload l' _ hl' => ?_
  refine (does_processNotification hl' number payload).bind fun result _ _ _ => ?_
  split
  · exact Proc.does_pure trivial
  · exact Proc.does_throw _

end Program

/-! ## The step lemma -/

section Step

variable {hist : List (ℕ × Option Event)} {t : ℕ} {e : Option Event} {job : ℕ}

theorem atProvider_cons_of_ne {u : ℕ} (hu : u ≠ t) :
    AtProvider job u ((t, e) :: hist) ↔ AtProvider job u hist := by
  rw [AtProvider, own_cons_of_ne hu.symm]
  rfl

theorem atProvider_cons_self :
    AtProvider job t ((t, e) :: hist) ↔ ∃ id, e = some (.checked job id .dispatched) := by
  rw [AtProvider, own_cons_self]
  constructor
  · intro h
    unfold awaits at h
    split at h
    next j id rest heq =>
      obtain rfl : j = job := of_decide_eq_true h
      exact ⟨id, (List.cons.inj heq).1⟩
    next => cases h
  · rintro ⟨id, rfl⟩
    exact decide_eq_true rfl

theorem exists_of_accepts (h : accepts job e = true) : ∃ id, e = some (.answered job id true) := by
  unfold accepts at h
  split at h
  next j id =>
    obtain rfl : j = job := of_decide_eq_true h
    exact ⟨id, rfl⟩
  next => cases h

/-- The law is kept when a duplicate was sent, when what is sent was not and waited alone, and when what is
dispatched was not sent and nobody waits for it. -/
theorem Delivers.cons (hs : Delivers hist)
    (hskip : ∀ job id, e = some (.checked job id .duplicate) → Sent job hist)
    (hsend : ∀ job, accepts job e = true → ¬Sent job hist ∧ ∀ u, u ≠ t → ¬AtProvider job u hist)
    (hdispatch : ∀ job id, e = some (.checked job id .dispatched) →
      ¬Sent job hist ∧ ∀ u, ¬AtProvider job u hist) :
    Delivers ((t, e) :: hist) := by
  constructor
  · intro u job id earlier hsuffix
    rcases List.suffix_cons_iff.1 hsuffix with heq | hsuffix
    · obtain ⟨hhead, rfl⟩ := List.cons.inj heq
      exact hskip job id (congrArg Prod.snd hhead).symm
    · exact hs.skipped u job id earlier hsuffix
  · intro job
    by_cases haccepts : accepts job e = true
    · rw [occurrences_cons_of_pos haccepts, occurrences_eq_zero_of_not_occurs (hsend job haccepts).1]
    · rw [occurrences_cons_of_not (Bool.eq_false_iff.2 haccepts)]
      exact hs.once job
  · intro job u hu hsent
    by_cases hut : u = t
    · subst hut
      obtain ⟨id, rfl⟩ := atProvider_cons_self.1 hu
      rcases occurs_cons.1 hsent with haccepts | hsent
      · cases haccepts
      · exact (hdispatch job id rfl).1 hsent
    · have hu' := (atProvider_cons_of_ne hut).1 hu
      rcases occurs_cons.1 hsent with haccepts | hsent
      · exact (hsend job haccepts).2 u hut hu'
      · exact hs.unsent job u hu' hsent
  · have hfirst : ∀ job u, u ≠ t → AtProvider job t ((t, e) :: hist) →
        ¬AtProvider job u ((t, e) :: hist) := by
      intro job u hut ht hu
      obtain ⟨id, he⟩ := atProvider_cons_self.1 ht
      exact (hdispatch job id he).2 u ((atProvider_cons_of_ne hut).1 hu)
    intro job u v hu hv
    by_cases hut : u = t
    · subst hut
      by_contra hne
      exact hfirst job v (Ne.symm hne) hu hv
    · by_cases hvt : v = t
      · subst hvt
        exact absurd hu (hfirst job u hut hv)
      · exact hs.alone job u v ((atProvider_cons_of_ne hut).1 hu) ((atProvider_cons_of_ne hvt).1 hv)

/-- The condition decides of each statement whether the law is kept. -/
theorem Delivers.cons_iff {s : State Memory Event} {e : Event} {m : Memory} (hs : Delivers s.hist)
    (hrecalled : s.store.processedJobs = recalled s.hist) (hmove : Moves (own t s.hist) s.store e m) :
    Delivers ((t, some e) :: s.hist) ↔ Remembers s t e := by
  constructor
  · intro h
    cases e with
    | checked job id admission =>
      obtain ⟨hduplicate, hfree, -⟩ := hmove
      rw [hrecalled] at hduplicate
      intro hpaused
      cases admission with
      | duplicate =>
        have hsent : Sent job s.hist := h.skipped t job id s.hist (List.suffix_refl _)
        exact ⟨iff_of_true (hduplicate.1 rfl) hsent, fun hunsent => absurd hsent hunsent⟩
      | dispatched =>
        have hat : AtProvider job t ((t, some (.checked job id .dispatched)) :: s.hist) :=
          atProvider_cons_self.2 ⟨id, rfl⟩
        have hunsent : ¬Sent job s.hist := fun hsent => h.unsent job t hat (occurs_cons.2 (Or.inr hsent))
        refine ⟨iff_of_false (fun hmem => by cases hduplicate.2 hmem) hunsent, fun _ u hu => ?_⟩
        have hut : u ≠ t := by
          rintro rfl
          rw [AtProvider, hfree job] at hu
          cases hu
        exact hut (h.alone job u t ((atProvider_cons_of_ne hut).2 hu) hat)
      | paused => exact absurd rfl hpaused
    | _ => trivial
  · intro hcond
    refine hs.cons (fun job id he => ?_) (fun job haccepts => ?_) fun job id he => ?_
    · obtain rfl := Option.some.inj he
      exact (hcond (by decide)).1.1 (hrecalled ▸ hmove.1.1 rfl)
    · obtain ⟨id, he⟩ := exists_of_accepts haccepts
      obtain rfl := Option.some.inj he
      exact ⟨hs.unsent job t hmove.1, fun u hut hu => hut (hs.alone job u t hu hmove.1)⟩
    · obtain rfl := Option.some.inj he
      obtain ⟨hiff, hnobody⟩ := hcond (by decide)
      have hunsent : ¬Sent job s.hist := fun hsent => by cases hmove.1.2 (hrecalled ▸ hiff.2 hsent)
      exact ⟨hunsent, hnobody hunsent⟩

end Step

/-! ## What is remembered -/

/-- In every run the worker remembers what its history says. -/
theorem processedJobs_eq_recalled {l : List (Option Event)} {s : State Memory Event} {t : ℕ} {e : Event}
    {m : Memory} (hs : s.store.processedJobs = recalled s.hist) (hmove : Moves l s.store e m) :
    m.processedJobs = recalled ((t, some e) :: s.hist) := by
  cases e with
  | checked job id admission => exact hmove.2.2.trans hs
  | answered job id success => exact hmove.2.trans (congrArg _ hs)
  | read => exact hmove.trans hs
  | threw => exact hmove.trans hs

/-- The provider answered for a payload with this id. -/
def answers (id : Scalar) : Option Event → Bool
  | some (.answered _ x _) => x = id
  | _ => false

def isAnswer : Option Event → Bool
  | some (.answered _ _ _) => true
  | _ => false

section Track

variable {x id : Scalar} {processedJobs : List Scalar} {hist : List (ℕ × Option Event)}

theorem mem_add : x ∈ add id processedJobs ↔ x = id ∨ x ∈ processedJobs := by
  unfold add
  split
  next hmem =>
    refine ⟨Or.inr, ?_⟩
    rintro (rfl | h)
    · exact hmem
    · exact h
  next => rw [List.mem_append, List.mem_singleton, or_comm]

theorem length_add : (add id processedJobs).length ≤ processedJobs.length + 1 := by
  unfold add
  split
  · omega
  · rw [List.length_append, List.length_singleton]

theorem makeRoom_of_lt (h : processedJobs.length < maxProcessedCache) :
    makeRoom processedJobs = processedJobs := if_neg (by omega)

theorem length_makeRoom : (makeRoom processedJobs).length ≤ processedJobs.length := by
  unfold makeRoom
  split
  · rw [List.length_tail]
    omega
  · exact le_rfl

theorem length_recalled : (recalled hist).length ≤ occurrences isAnswer hist := by
  fun_induction recalled hist with
  | case1 => exact Nat.zero_le _
  | case2 t job id success earlier ih =>
    rw [occurrences_cons_of_pos rfl]
    exact length_add.trans (Nat.succ_le_succ (length_makeRoom.trans ih))
  | case3 x earlier hnot ih => exact ih.trans (List.Sublist.countP_le (List.sublist_cons_self x earlier))

/-- While there are at most ten thousand answers, the ids that are remembered are those that the provider
answered for. -/
def RecallsAnswers (hist : List (ℕ × Option Event)) : Prop :=
  occurrences isAnswer hist ≤ maxProcessedCache → ∀ x, x ∈ recalled hist ↔ Occurs (answers x) hist

theorem recallsAnswers (hist : List (ℕ × Option Event)) : RecallsAnswers hist := by
  intro hfew x
  fun_induction recalled hist with
  | case1 =>
    refine iff_of_false List.not_mem_nil ?_
    rintro ⟨y, hy, -⟩
    cases hy
  | case2 t job id success earlier ih =>
    rw [occurrences_cons_of_pos rfl] at hfew
    have hroom : (recalled earlier).length < maxProcessedCache :=
      Nat.lt_of_le_of_lt length_recalled (Nat.lt_of_succ_le hfew)
    rw [trackProcessedJob, makeRoom_of_lt hroom, mem_add, occurs_cons, ih (by omega)]
    exact or_congr_left (decide_eq_true_iff.trans eq_comm).symm
  | case3 y earlier hnot ih =>
    have hno : answers x y.2 = false := by
      unfold answers
      split
      next job z success heq => exact (hnot y.1 job z success (Prod.ext rfl heq)).elim
      next => rfl
    rw [ih ((List.Sublist.countP_le (List.sublist_cons_self y earlier)).trans hfew)]
    exact (occurs_cons.trans (or_iff_right (Bool.eq_false_iff.1 hno))).symm

end Track

/-! ## The law of the worker -/

theorem delivers_nil : Delivers [] where
  skipped t job id earlier h := by simp at h
  once job := Nat.zero_le 1
  unsent job t h := by cases h
  alone job t u h := by cases h

/-- **Delivery.** Whatever the jobs, the attempts and the answers, the runs of the worker along which only
what was sent is passed over and nothing is sent twice are exactly those in which, at each check of a
channel that is not paused, the id of the payload is remembered if and only if the job was sent, and no
other attempt at a job that was not sent waits for the provider. As long as there are at most ten thousand
answers, the ids that are remembered are those the provider answered for, whatever it answered. -/
theorem delivers_iff (queue : ℕ → QueuedJob) (s : Sys Memory Outside Event RisError) :
    (Relation.ReflTransGen (fun s s' => Step (program queue) always s s' ∧ Delivers s'.hist)
        (Sys.init {}) s ↔
      Reaches (program queue) Remembers (Sys.init {}) s) ∧
      RecallsAnswers s.hist := by
  refine ⟨Effects.runs_iff_beside (P := fun s => Delivers s.hist)
    (J := fun s => s.store.processedJobs = recalled s.hist) (covers_program queue) (fun s t hs => ?_)
    delivers_nil (fun s t hs => hs) rfl (fun s t e m hs hmove => processedJobs_eq_recalled hs hmove)
    (fun s t e m hs hrecalled hmove => hs.cons_iff hrecalled hmove) s,
    recallsAnswers s.hist⟩
  refine hs.cons (fun job id he => ?_) (fun job haccepts => ?_) fun job id he => ?_
  · cases he
  · cases haccepts
  · cases he

/-! ## Attempts that are passed over -/

/-- The e-mails that verify the addresses of suppliers; their payloads have these ids. -/
def verificationEmails (ids : ℕ → Scalar) (job : ℕ) : QueuedJob where
  id := some (toString job)
  name := "send-email"
  data :=
    { id := ids job, channel := .text "email", template := .text "email_verification"
      recipient := .text "supplier@example.com" }

def throttled : Outside :=
  { reply := .ok { success := false, provider := "ses", error := some "Maximum sending rate exceeded" } }

/-- A job that was not sent and is passed over. -/
theorem not_delivers {hist earlier : List (ℕ × Option Event)} {t job : ℕ} {id : Scalar}
    (hhist : hist = (t, some (.checked job id .duplicate)) :: earlier) (hunsent : ¬Sent job earlier) :
    ¬Delivers hist :=
  fun h => hunsent (h.skipped t job id earlier (hhist ▸ List.suffix_refl _))

/-- The provider refuses the e-mail once: the next attempt at it is passed over, though the channel is not
paused and nothing was sent. And of two e-mails whose payloads have no id, the second is taken for the
first. -/
theorem refused_email_is_lost :
    (∃ s : Sys Memory Outside Event RisError,
      Reaches (program (verificationEmails fun _ => .text "7f9c")) always (Sys.init {}) s ∧
        s.hist = [(1, some (.checked 0 (.text "7f9c") .duplicate)), (1, some .read), (0, none),
          (0, some (.answered 0 (.text "7f9c") false)), (0, some (.checked 0 (.text "7f9c") .dispatched)),
          (0, some .read)] ∧
        s.store.email.pausedUntil = none ∧ ¬Delivers s.hist) ∧
    ∃ s : Sys Memory Outside Event RisError,
      Reaches (program (verificationEmails fun _ => .undefined)) always (Sys.init {}) s ∧
        s.hist = [(1, some (.checked 1 .undefined .duplicate)), (1, some .read), (0, none),
          (0, some (.answered 0 .undefined true)), (0, some (.checked 0 .undefined .dispatched)),
          (0, some .read)] ∧ ¬Delivers s.hist := by
  constructor
  · obtain ⟨s, hs, hP⟩ := exists_reaches (program (verificationEmails fun _ => .text "7f9c")) always
      (Sys.init {})
      [.start (.attempt 0), .move 0 {}, .move 0 {}, .move 0 throttled, .ret 0, .start (.attempt 0),
        .move 1 {}, .move 1 {}]
      (fun s => s.hist = [(1, some (.checked 0 (.text "7f9c") .duplicate)), (1, some .read), (0, none),
        (0, some (.answered 0 (.text "7f9c") false)), (0, some (.checked 0 (.text "7f9c") .dispatched)),
        (0, some .read)] ∧ s.store.email.pausedUntil = none) (by decide)
    obtain ⟨hhist, hclosed⟩ := of_decide_eq_true hP
    exact ⟨s, hs, hhist, hclosed, not_delivers hhist (by decide)⟩
  · obtain ⟨s, hs, hP⟩ := exists_reaches (program (verificationEmails fun _ => .undefined)) always
      (Sys.init {})
      [.start (.attempt 0), .move 0 {}, .move 0 {}, .move 0 {}, .ret 0, .start (.attempt 1),
        .move 1 {}, .move 1 {}]
      (fun s => s.hist = [(1, some (.checked 1 .undefined .duplicate)), (1, some .read), (0, none),
        (0, some (.answered 0 .undefined true)), (0, some (.checked 0 .undefined .dispatched)),
        (0, some .read)]) (by decide)
    have hhist := of_decide_eq_true hP
    exact ⟨s, hs, hhist, not_delivers hhist (by decide)⟩

end Ris.Notifications
