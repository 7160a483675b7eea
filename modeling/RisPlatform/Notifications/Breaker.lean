import Mathlib.Tactic.Linarith
import RisPlatform.Common.Runs
import RisPlatform.Common.Sequential
import RisPlatform.Notifications.Service

/-!
# The circuit breakers of the channels

Jobs that are processed one after the other. A channel pauses when five dispatches in a row have failed, and
the pause is over a minute after the last of them; the worker notices when it next looks. A dispatch that
throws is not counted, though it failed.
-/

namespace Ris.Notifications.Breaker

open Concurrent Runs

/-! ## Jobs one after the other -/

/-- A job, and what is drawn when it is checked and when the provider answers. -/
structure Turn where
  payload : NotificationJobPayload
  asked : Outside
  answered : Outside

def Turn.inputs (turn : Turn) : ℕ → Outside
  | 0 => turn.asked
  | _ => turn.answered

/-- What the job comes to, and the memory after it. -/
def Turn.process (turn : Turn) (m : Memory) : Except RisError SendResult × Memory :=
  (processNotification 0 turn.payload).drawn turn.inputs m

/-- What the checks of the job find; on a channel without a breaker they may throw. -/
def Turn.admission (turn : Turn) (m : Memory) : Option Admission :=
  match checkPayload turn.payload turn.asked m with
  | .ok (admission, _) => some admission
  | .error _ => none

/-- The provider accepted the job. -/
def Turn.success (turn : Turn) : Bool :=
  match turn.answered.reply with
  | .ok result => result.success
  | .error _ => false

structure Dispatch where
  channel : String
  asked : ℤ
  answered : ℤ
  success : Bool
  deriving DecidableEq

def Turn.dispatch (turn : Turn) : Dispatch where
  channel := turn.payload.channel
  asked := turn.asked.now
  answered := turn.answered.now
  success := turn.success

/-- The memory of the worker, and the dispatches so far, the latest first. -/
structure Trace where
  memory : Memory := {}
  dispatches : List Dispatch := []

def next (s : Trace) (turn : Turn) : Trace where
  memory := (turn.process s.memory).2
  dispatches :=
    if turn.admission s.memory = some .dispatched then turn.dispatch :: s.dispatches else s.dispatches

def step (s : Trace) (turn : Turn) : Option Trace := some (next s turn)

/-! ## The law -/

/-- The failures include five, and the last was less than a minute ago. -/
def Paused (now : ℤ) : List ℤ → Prop
  | [] => False
  | last :: failures => 5 ≤ (last :: failures).length ∧ now < last + 60000

/-- The failures include five, and the last was a minute ago or more. -/
def Expired (now : ℤ) : List ℤ → Prop
  | [] => False
  | last :: failures => 5 ≤ (last :: failures).length ∧ last + 60000 ≤ now

instance (now : ℤ) : DecidablePred (Paused now)
  | [] => isFalse id
  | last :: failures => inferInstanceAs (Decidable (5 ≤ (last :: failures).length ∧ now < last + 60000))

instance (now : ℤ) : DecidablePred (Expired now)
  | [] => isFalse id
  | last :: failures => inferInstanceAs (Decidable (5 ≤ (last :: failures).length ∧ last + 60000 ≤ now))

/-- When the dispatches failed since the last success or expiry of a pause, the latest first. -/
def failures : List Dispatch → List ℤ
  | [] => []
  | d :: ds =>
    if d.success then []
    else if Expired d.asked (failures ds) then [d.answered]
    else d.answered :: failures ds

def Trace.onChannel (s : Trace) (channel : String) : List Dispatch :=
  s.dispatches.filter fun d => d.channel = channel

/-- A job that is not a duplicate is refused if and only if its channel is paused; other channels are left
as they are; and if a channel that was paused dispatched again, its last five dispatches since then have
failed when it is refused the next time. -/
structure Lawful (s : Trace) (turn : Turn) : Prop where
  refused_iff : turn.payload.channel ∈ ["email", "sms"] → turn.payload.id ∉ s.memory.processedJobs →
    (turn.admission s.memory = some .paused ↔
      Paused turn.asked.now (failures (s.onChannel turn.payload.channel)))
  independent : ∀ channel, channel ≠ turn.payload.channel →
    (next s turn).memory.circuitBreaker? channel = s.memory.circuitBreaker? channel ∧
      (next s turn).onChannel channel = s.onChannel channel
  five_more : turn.payload.channel ∈ ["email", "sms"] → turn.admission s.memory = some .paused →
    ∀ later earlier, s.onChannel turn.payload.channel = later ++ earlier → later ≠ [] →
      5 ≤ (failures earlier).length → 5 ≤ later.length ∧ ∀ d ∈ later.take 5, d.success = false

/-- If the job is dispatched, the provider does not throw. -/
def Replies (s : Trace) (turn : Turn) : Prop :=
  turn.admission s.memory = some .dispatched → ∀ e, turn.answered.reply ≠ .error e

/-! ## One breaker -/

/-- The breaker counts the failures, up to five, and pauses after the fifth. -/
structure Agrees (breaker : CircuitBreakerState) (failures : List ℤ) : Prop where
  count : breaker.consecutiveFailures = failures.length
  le : failures.length ≤ 5
  pause : breaker.pausedUntil = if 5 ≤ failures.length then failures.head?.map (· + 60000) else none

section Breaker

variable {breaker : CircuitBreakerState} {failures : List ℤ} {now t : ℤ}

theorem agrees_nil : Agrees {} [] := ⟨rfl, Nat.zero_le _, rfl⟩

theorem Agrees.paused_iff (h : Agrees breaker failures) (now : ℤ) :
    Paused now failures ↔ ∃ pausedUntil, breaker.pausedUntil = some pausedUntil ∧ now < pausedUntil := by
  rw [h.pause]
  cases failures with
  | nil => simp [Paused]
  | cons last failures => simp [Paused]

theorem Agrees.expired_iff (h : Agrees breaker failures) (now : ℤ) :
    Expired now failures ↔ ∃ pausedUntil, breaker.pausedUntil = some pausedUntil ∧
      pausedUntil ≤ now := by
  rw [h.pause]
  cases failures with
  | nil => simp [Expired]
  | cons last failures => simp [Expired]

theorem agrees_recordSuccess (hnone : breaker.pausedUntil = none) : Agrees (recordSuccess breaker) [] :=
  ⟨rfl, Nat.zero_le _, hnone⟩

theorem Agrees.recordFailure (h : Agrees breaker failures) (hnone : breaker.pausedUntil = none) :
    Agrees (recordFailure t breaker) (t :: failures) := by
  have hlt : failures.length < 5 := by
    have hpause := h.pause
    rw [hnone] at hpause
    cases failures with
    | nil => exact Nat.succ_pos 4
    | cons last failures =>
      by_contra hge
      rw [if_pos (not_lt.1 hge)] at hpause
      cases hpause
  have hcount := h.count
  unfold Notifications.recordFailure
  split
  · next hfive =>
    have hlength : (t :: failures).length = 5 := by
      rw [List.length_cons]
      unfold circuitBreakerThreshold at hfive
      omega
    refine ⟨?_, hlength.le, ?_⟩
    · rw [List.length_cons, hcount]
    · rw [if_pos hlength.ge]
      rfl
  · next hfew =>
    have hlength : ¬5 ≤ (t :: failures).length := by
      rw [List.length_cons]
      unfold circuitBreakerThreshold at hfew
      omega
    refine ⟨?_, by omega, ?_⟩
    · rw [List.length_cons, hcount]
    · rw [if_neg hlength]
      exact hnone

/-- What is neither paused nor expired is not a pause. -/
theorem Agrees.pausedUntil_eq_none (h : Agrees breaker failures) (hpaused : ¬Paused now failures)
    (hexpired : ¬Expired now failures) : breaker.pausedUntil = none := by
  rw [h.paused_iff] at hpaused
  rw [h.expired_iff] at hexpired
  cases hpause : breaker.pausedUntil with
  | none => rfl
  | some pausedUntil =>
    rcases lt_or_ge now pausedUntil with hlt | hge
    · exact absurd ⟨pausedUntil, hpause, hlt⟩ hpaused
    · exact absurd ⟨pausedUntil, hpause, hge⟩ hexpired

end Breaker

/-! ## The memory -/

section Memory

variable {m m' : Memory} {channel channel' : String} {state breaker : CircuitBreakerState} {i : Outside}
  {payload : NotificationJobPayload} {failures : List ℤ}

theorem circuitBreaker?_setCircuitBreaker (hchannel : channel ∈ ["email", "sms"]) :
    (m.setCircuitBreaker channel state).circuitBreaker? channel = some state := by
  rcases List.mem_cons.1 hchannel with rfl | hsms
  · rfl
  · obtain rfl := List.mem_singleton.1 hsms
    rfl

theorem circuitBreaker?_setCircuitBreaker_of_ne (h : channel' ≠ channel) :
    (m.setCircuitBreaker channel state).circuitBreaker? channel' = m.circuitBreaker? channel' := by
  unfold Memory.setCircuitBreaker Memory.circuitBreaker?
  split_ifs <;> first | rfl | simp_all

theorem isCircuitOpen_frame {isOpen : Bool} (h : isCircuitOpen channel i m = .ok (isOpen, m'))
    (hne : channel' ≠ channel) : m'.circuitBreaker? channel' = m.circuitBreaker? channel' := by
  unfold isCircuitOpen at h
  split at h
  · split at h
    · cases h
      rfl
    · cases h
  · split at h
    · cases h
      rfl
    · split at h
      · cases h
        exact circuitBreaker?_setCircuitBreaker_of_ne hne
      · cases h
        rfl

theorem checkPayload_eq : checkPayload payload i m =
    if payload.id ∈ m.processedJobs then .ok (.duplicate, m)
    else (isCircuitOpen payload.channel i m).map fun r => (if r.1 then .paused else .dispatched, r.2) := by
  have hcheck : checkPayload payload i m =
      (if payload.id ∈ m.processedJobs then pure .duplicate
        else do
          let isOpen ← isCircuitOpen payload.channel
          pure (if isOpen then Admission.paused else .dispatched) : Tx Admission) i m := rfl
  rw [hcheck]
  split
  · rfl
  · simp only [bind]
    cases isCircuitOpen payload.channel i m <;> rfl

theorem checkPayload_of_duplicate (h : payload.id ∈ m.processedJobs) :
    checkPayload payload i m = .ok (.duplicate, m) := by
  rw [checkPayload_eq, if_pos h]

/-- The checks of a job look at one channel only. -/
theorem checkPayload_frame {admission : Admission} (h : checkPayload payload i m = .ok (admission, m'))
    (hne : channel ≠ payload.channel) : m'.circuitBreaker? channel = m.circuitBreaker? channel := by
  rw [checkPayload_eq] at h
  split at h
  · cases h
    rfl
  · cases hopen : isCircuitOpen payload.channel i m with
    | error e =>
      rw [hopen] at h
      cases h
    | ok r =>
      rw [hopen] at h
      cases h
      exact isCircuitOpen_frame hopen hne

theorem updateCircuitBreaker_frame {success : Bool} {now : ℤ} (hne : channel' ≠ channel) :
    (updateCircuitBreaker channel success now m).circuitBreaker? channel' =
      m.circuitBreaker? channel' := by
  unfold updateCircuitBreaker
  split
  · rfl
  · exact circuitBreaker?_setCircuitBreaker_of_ne hne

theorem settle_frame {result : SendResult} (h : settle payload i m = .ok (result, m'))
    (hne : channel ≠ payload.channel) : m'.circuitBreaker? channel = m.circuitBreaker? channel := by
  simp only [settle, Txn.bind_ok, Txn.input_ok, Txn.liftM_ok, Txn.write_ok, Txn.pure_ok] at h
  obtain ⟨_, _, ⟨rfl, rfl⟩, result, _, ⟨-, rfl⟩, _, _, rfl, _, _, rfl, -, rfl⟩ := h
  exact updateCircuitBreaker_frame hne

theorem isCircuitOpen_of_agrees (hbreaker : m.circuitBreaker? channel = some breaker)
    (h : Agrees breaker failures) :
    isCircuitOpen channel i m =
      if Paused i.now failures then .ok (true, m)
      else if Expired i.now failures then .ok (false, m.setCircuitBreaker channel {})
      else .ok (false, m) := by
  have hpaused := h.paused_iff i.now
  have hexpired := h.expired_iff i.now
  simp only [isCircuitOpen, hbreaker]
  cases hpause : breaker.pausedUntil with
  | none =>
    rw [hpause] at hpaused hexpired
    simp [hpaused, hexpired]
  | some pausedUntil =>
    rw [hpause] at hpaused hexpired
    simp only [Option.some.injEq, exists_eq_left'] at hpaused hexpired
    rcases lt_or_ge i.now pausedUntil with hlt | hge
    · rw [if_pos (hpaused.2 hlt)]
      simp [not_le.2 hlt]
    · rw [if_neg fun hp => not_lt.2 hge (hpaused.1 hp), if_pos (hexpired.2 hge)]
      simp [hge]

/-- A job that is not a duplicate is checked against the failures of its channel. -/
theorem checkPayload_of_fresh (hfresh : payload.id ∉ m.processedJobs)
    (hbreaker : m.circuitBreaker? payload.channel = some breaker) (h : Agrees breaker failures) :
    checkPayload payload i m =
      if Paused i.now failures then .ok (.paused, m)
      else if Expired i.now failures then .ok (.dispatched, m.setCircuitBreaker payload.channel {})
      else .ok (.dispatched, m) := by
  rw [checkPayload_eq, if_neg hfresh, isCircuitOpen_of_agrees hbreaker h]
  split_ifs <;> rfl

theorem settle_of_reply {result : SendResult} (hchannel : payload.channel ∈ ["email", "sms"])
    (hreply : i.reply = .ok result) :
    settle payload i m = .ok (result,
      { updateCircuitBreaker payload.channel result.success i.now m with
        processedJobs := trackProcessedJob payload.id
          (updateCircuitBreaker payload.channel result.success i.now m).processedJobs }) := by
  have hdispatch : dispatchToProvider payload i.reply = .ok result := by
    rw [dispatchToProvider, if_pos (by simpa using hchannel), hreply]
  have hsettle : settle payload i m =
      (do
        let result ← monadLift (dispatchToProvider payload i.reply)
        Txn.write (updateCircuitBreaker payload.channel result.success i.now)
        Txn.write fun m => { m with processedJobs := trackProcessedJob payload.id m.processedJobs }
        return result : Tx SendResult) i m := rfl
  rw [hsettle, hdispatch]
  rfl

/-- The job as its statements leave the memory. -/
theorem process_snd (turn : Turn) (m : Memory) : (turn.process m).2 =
    match checkPayload turn.payload turn.asked m with
    | .ok (.dispatched, m') =>
      match settle turn.payload turn.answered m' with
      | .ok (_, m'') => m''
      | .error _ => m'
    | .ok (_, m') => m'
    | .error _ => m := by
  have hprocess : turn.process m = Proc.drawn turn.inputs
      (do
        let admission ← .transaction (checkPayload turn.payload)
          (fun admission => .checked 0 turn.payload.id admission) fun _ => .threw
        proceed 0 turn.payload admission) m := rfl
  rw [hprocess]
  simp only [bind, Proc.bind, Proc.transaction, Proc.drawn]
  simp only [Turn.inputs]
  cases hcheck : checkPayload turn.payload turn.asked m with
  | error e => rfl
  | ok r =>
    obtain ⟨admission, m'⟩ := r
    cases admission with
    | duplicate => rfl
    | paused => rfl
    | dispatched =>
      simp only [Except.map, Proc.bind, proceed, Proc.transaction, Proc.drawn]
      cases settle turn.payload turn.answered m' <;> rfl

end Memory

/-! ## Runs -/

section Traces

variable {s : Trace} {turn : Turn} {breaker : CircuitBreakerState}

/-- No dispatch of the channel was made while it was paused. -/
def Unpaused : List Dispatch → Prop
  | [] => True
  | d :: ds => ¬Paused d.asked (failures ds) ∧ Unpaused ds

/-- The breakers know the failures of their channels. -/
structure Tracks (s : Trace) : Prop where
  agrees : ∀ channel ∈ ["email", "sms"], ∃ breaker, s.memory.circuitBreaker? channel = some breaker ∧
    Agrees breaker (failures (s.onChannel channel))
  unpaused : ∀ channel ∈ ["email", "sms"], Unpaused (s.onChannel channel)

theorem admission_of_ok {admission : Admission} {m : Memory}
    (h : checkPayload turn.payload turn.asked s.memory = .ok (admission, m)) :
    turn.admission s.memory = some admission := by
  rw [Turn.admission, h]

/-- A job that is passed over leaves everything. -/
theorem next_of_passed {admission : Admission} (hadmission : admission ≠ .dispatched)
    (h : checkPayload turn.payload turn.asked s.memory = .ok (admission, s.memory)) : next s turn = s := by
  have hnot : turn.admission s.memory ≠ some .dispatched := by
    rw [admission_of_ok h]
    exact fun heq => hadmission (Option.some.inj heq)
  have hmemory : (turn.process s.memory).2 = s.memory := by
    rw [process_snd, h]
    cases admission with
    | dispatched => exact absurd rfl hadmission
    | duplicate => rfl
    | paused => rfl
  rw [next, hmemory, if_neg hnot]

theorem onChannel_next (channel : String) : (next s turn).onChannel channel =
    if turn.admission s.memory = some .dispatched ∧ turn.payload.channel = channel then
      turn.dispatch :: s.onChannel channel
    else s.onChannel channel := by
  unfold Trace.onChannel next
  by_cases hdispatched : turn.admission s.memory = some .dispatched
  · simp only [hdispatched, if_true, true_and, List.filter_cons, Turn.dispatch, decide_eq_true_eq]
  · simp only [hdispatched, if_false, false_and]

theorem circuitBreaker?_next_of_ne {channel : String} (hne : channel ≠ turn.payload.channel) :
    (next s turn).memory.circuitBreaker? channel = s.memory.circuitBreaker? channel := by
  show (turn.process s.memory).2.circuitBreaker? channel = s.memory.circuitBreaker? channel
  rw [process_snd]
  cases hcheck : checkPayload turn.payload turn.asked s.memory with
  | error e => rfl
  | ok r =>
    obtain ⟨admission, m⟩ := r
    have hframe := checkPayload_frame hcheck hne
    cases admission with
    | duplicate => exact hframe
    | paused => exact hframe
    | dispatched =>
      dsimp only
      cases hsettle : settle turn.payload turn.answered m with
      | error e => exact hframe
      | ok r => exact (settle_frame hsettle hne).trans hframe

theorem circuitBreaker?_updateCircuitBreaker {m : Memory} {channel : String} {success : Bool} {now : ℤ}
    (hchannel : channel ∈ ["email", "sms"]) (hbreaker : m.circuitBreaker? channel = some breaker) :
    (updateCircuitBreaker channel success now m).circuitBreaker? channel =
      some (if success then recordSuccess breaker else recordFailure now breaker) := by
  unfold updateCircuitBreaker
  rw [hbreaker]
  exact circuitBreaker?_setCircuitBreaker hchannel

/-- A dispatch that is answered is counted. -/
theorem agrees_of_answered {m : Memory} {counted : List ℤ} {result : SendResult}
    (hchannel : turn.payload.channel ∈ ["email", "sms"])
    (hcheck : checkPayload turn.payload turn.asked s.memory = .ok (.dispatched, m))
    (hbreaker : m.circuitBreaker? turn.payload.channel = some breaker) (hagrees : Agrees breaker counted)
    (hnone : breaker.pausedUntil = none) (hreply : turn.answered.reply = .ok result) :
    ∃ breaker', (next s turn).memory.circuitBreaker? turn.payload.channel = some breaker' ∧
      Agrees breaker' (if turn.success then [] else turn.answered.now :: counted) := by
  have hsuccess : turn.success = result.success := by rw [Turn.success, hreply]
  have hmemory : (next s turn).memory.circuitBreaker? turn.payload.channel =
      (updateCircuitBreaker turn.payload.channel result.success turn.answered.now m).circuitBreaker?
        turn.payload.channel := by
    show (turn.process s.memory).2.circuitBreaker? _ = _
    rw [process_snd, hcheck]
    dsimp only
    rw [settle_of_reply hchannel hreply]
    rfl
  rw [hmemory, circuitBreaker?_updateCircuitBreaker hchannel hbreaker, hsuccess]
  refine ⟨_, rfl, ?_⟩
  cases result.success with
  | true => exact agrees_recordSuccess hnone
  | false => exact hagrees.recordFailure hnone

/-- The breaker of the channel knows the failures still, with the dispatch. -/
theorem agrees_next {result : SendResult} (hchannel : turn.payload.channel ∈ ["email", "sms"])
    (hfresh : turn.payload.id ∉ s.memory.processedJobs)
    (hbreaker : s.memory.circuitBreaker? turn.payload.channel = some breaker)
    (hagrees : Agrees breaker (failures (s.onChannel turn.payload.channel)))
    (hpaused : ¬Paused turn.asked.now (failures (s.onChannel turn.payload.channel)))
    (hreply : turn.answered.reply = .ok result) :
    ∃ breaker', (next s turn).memory.circuitBreaker? turn.payload.channel = some breaker' ∧
      Agrees breaker' (failures (turn.dispatch :: s.onChannel turn.payload.channel)) := by
  have hcheck := checkPayload_of_fresh (i := turn.asked) hfresh hbreaker hagrees
  rw [if_neg hpaused] at hcheck
  rw [failures]
  by_cases hexpired : Expired turn.asked.now (failures (s.onChannel turn.payload.channel))
  · -- the pause is over, so that the count starts again
    rw [if_pos hexpired] at hcheck
    rw [if_pos (show Expired turn.dispatch.asked _ from hexpired)]
    have hreset : (s.memory.setCircuitBreaker turn.payload.channel {}).circuitBreaker? turn.payload.channel =
        some {} := circuitBreaker?_setCircuitBreaker hchannel
    exact agrees_of_answered hchannel hcheck hreset agrees_nil rfl hreply
  · rw [if_neg hexpired] at hcheck
    rw [if_neg (show ¬Expired turn.dispatch.asked _ from hexpired)]
    have hnone := hagrees.pausedUntil_eq_none hpaused hexpired
    exact agrees_of_answered hchannel hcheck hbreaker hagrees hnone hreply

/-- A job on a channel without a breaker is not counted. -/
theorem tracks_next_of_not_mem (h : Tracks s) (hchannel : turn.payload.channel ∉ ["email", "sms"]) :
    Tracks (next s turn) := by
  have hne : ∀ channel ∈ ["email", "sms"], channel ≠ turn.payload.channel := by
    rintro channel hmem rfl
    exact hchannel hmem
  constructor
  · intro channel hmem
    rw [circuitBreaker?_next_of_ne (hne channel hmem), onChannel_next,
      if_neg fun hand => hne channel hmem hand.2.symm]
    exact h.agrees channel hmem
  · intro channel hmem
    rw [onChannel_next, if_neg fun hand => hne channel hmem hand.2.symm]
    exact h.unpaused channel hmem

/-- What one job leaves, if the provider does not throw. -/
theorem tracks_next (h : Tracks s) (hreplies : Replies s turn) : Tracks (next s turn) := by
  by_cases hchannel : turn.payload.channel ∈ ["email", "sms"]
  swap
  · exact tracks_next_of_not_mem h hchannel
  by_cases hfresh : turn.payload.id ∈ s.memory.processedJobs
  · rw [next_of_passed (by decide) (checkPayload_of_duplicate hfresh)]
    exact h
  obtain ⟨breaker, hbreaker, hagrees⟩ := h.agrees _ hchannel
  have hcheck := checkPayload_of_fresh (i := turn.asked) hfresh hbreaker hagrees
  by_cases hpaused : Paused turn.asked.now (failures (s.onChannel turn.payload.channel))
  · rw [if_pos hpaused] at hcheck
    rw [next_of_passed (by decide) hcheck]
    exact h
  rw [if_neg hpaused] at hcheck
  have hdispatched : turn.admission s.memory = some .dispatched := by
    rw [Turn.admission, hcheck]
    split_ifs <;> rfl
  obtain ⟨result, hreply⟩ : ∃ result, turn.answered.reply = .ok result := by
    cases hreply : turn.answered.reply with
    | ok result => exact ⟨result, rfl⟩
    | error e => exact absurd hreply (hreplies hdispatched e)
  constructor
  · intro channel hmem
    by_cases hsame : turn.payload.channel = channel
    · subst hsame
      rw [onChannel_next, if_pos ⟨hdispatched, rfl⟩]
      exact agrees_next hchannel hfresh hbreaker hagrees hpaused hreply
    · rw [circuitBreaker?_next_of_ne (Ne.symm hsame), onChannel_next, if_neg fun hand => hsame hand.2]
      exact h.agrees channel hmem
  · intro channel hmem
    rw [onChannel_next]
    split
    · next hand =>
      obtain ⟨-, rfl⟩ := hand
      exact ⟨hpaused, h.unpaused _ hmem⟩
    · exact h.unpaused channel hmem

/-! ## The law holds -/

/-- The failures that are counted are the latest dispatches. -/
theorem failed_of_mem_take {ds : List Dispatch} {n : ℕ} (h : n ≤ (failures ds).length) :
    ∀ d ∈ ds.take n, d.success = false := by
  induction ds generalizing n with
  | nil => simp
  | cons d ds ih =>
    cases n with
    | zero => simp
    | succ n =>
      rw [failures] at h
      cases hsuccess : d.success with
      | true =>
        rw [hsuccess, if_pos rfl] at h
        exact absurd h (Nat.not_succ_le_zero n)
      | false =>
        have hrest : n ≤ (failures ds).length := by
          rw [hsuccess, if_neg Bool.false_ne_true] at h
          split at h
          · exact (Nat.le_of_succ_le_succ h).trans (Nat.zero_le _)
          · exact Nat.le_of_succ_le_succ h
        intro d' hd'
        rw [List.take_succ_cons, List.mem_cons] at hd'
        rcases hd' with rfl | hd'
        · exact hsuccess
        · exact ih hrest d' hd'

/-- After a pause the failures are counted anew. -/
theorem length_failures_append {later earlier : List Dispatch} (hunpaused : Unpaused (later ++ earlier))
    (hfive : 5 ≤ (failures earlier).length) (hne : later ≠ []) :
    (failures (later ++ earlier)).length ≤ later.length := by
  induction later with
  | nil => exact absurd rfl hne
  | cons d later ih =>
    obtain ⟨hnot, hunpaused⟩ := hunpaused
    rw [List.cons_append, failures]
    split
    · exact Nat.zero_le _
    · split
      · exact Nat.succ_le_succ (Nat.zero_le _)
      · next hexpired =>
        rcases eq_or_ne later [] with rfl | hlater
        · -- five failures are a pause or an expired one
          rw [List.nil_append] at hexpired
          have hnotPaused : ¬Paused d.asked (failures earlier) := hnot
          cases hlist : failures earlier with
          | nil =>
            rw [hlist] at hfive
            exact absurd hfive (by decide)
          | cons last rest =>
            rw [hlist] at hnotPaused hexpired hfive
            rcases lt_or_ge d.asked (last + 60000) with hlt | hge
            · exact absurd ⟨hfive, hlt⟩ hnotPaused
            · exact absurd ⟨hfive, hge⟩ hexpired
        · exact Nat.succ_le_succ (ih hunpaused hlater)

theorem lawful_of_tracks (h : Tracks s) (turn : Turn) : Lawful s turn where
  refused_iff hchannel hfresh := by
    obtain ⟨breaker, hbreaker, hagrees⟩ := h.agrees _ hchannel
    rw [Turn.admission, checkPayload_of_fresh hfresh hbreaker hagrees]
    split_ifs with hpaused hexpired
    · exact iff_of_true rfl hpaused
    · exact iff_of_false (by simp) hpaused
    · exact iff_of_false (by simp) hpaused
  independent channel hne := by
    refine ⟨circuitBreaker?_next_of_ne hne, ?_⟩
    rw [onChannel_next, if_neg fun hand => hne hand.2.symm]
  five_more hchannel hrefused later earlier hsplit hlater hfive := by
    have hfresh : turn.payload.id ∉ s.memory.processedJobs := by
      intro hmem
      rw [admission_of_ok (checkPayload_of_duplicate hmem)] at hrefused
      cases hrefused
    obtain ⟨breaker, hbreaker, hagrees⟩ := h.agrees _ hchannel
    have hpaused : Paused turn.asked.now (failures (s.onChannel turn.payload.channel)) := by
      by_contra hnot
      rw [Turn.admission, checkPayload_of_fresh hfresh hbreaker hagrees, if_neg hnot] at hrefused
      split_ifs at hrefused <;> cases hrefused
    have hunpaused := h.unpaused _ hchannel
    rw [hsplit] at hpaused hunpaused
    have hcounted : 5 ≤ (failures (later ++ earlier)).length := by
      cases hlist : failures (later ++ earlier) with
      | nil =>
        rw [hlist] at hpaused
        exact hpaused.elim
      | cons last rest =>
        rw [hlist] at hpaused
        exact hpaused.1
    have hlength := hcounted.trans (length_failures_append hunpaused hfive hlater)
    refine ⟨hlength, fun d hd => failed_of_mem_take hcounted d ?_⟩
    rwa [List.take_append_of_le_length hlength]

theorem tracks_start : Tracks {} := by
  constructor
  · intro channel hmem
    rcases List.mem_cons.1 hmem with rfl | hsms
    · exact ⟨{}, rfl, agrees_nil⟩
    · obtain rfl := List.mem_singleton.1 hsms
      exact ⟨{}, rfl, agrees_nil⟩
  · intro channel _
    trivial

/-- From the start of the worker on, the breakers keep the law along every run of jobs in which no dispatch
throws. -/
theorem breaker_law (turns : List Turn) (h : Each step Replies {} turns) :
    Each step Lawful {} turns := by
  rw [each_iff]
  intro earlier turn s hpre hrun
  have hearlier := h.of_prefix ((List.prefix_append earlier [turn]).trans hpre)
  have htracks : Tracks s := by
    refine hearlier.invariant (fun s₁ a s₂ htracks hreplies hstep => ?_) tracks_start hrun
    obtain rfl := Option.some.inj hstep
    exact tracks_next htracks hreplies
  exact lawful_of_tracks htracks turn

end Traces

/-! ## Two runs -/

/-- A job by SMS that is checked and answered at a second, with this reply of the provider. -/
def sampleTurn (id : String) (second : ℤ) (reply : Except RisError SendResult) : Turn where
  payload :=
    { id := .text id, channel := "sms", template := .text "welcome", recipient := "+256700000000" }
  asked := { now := second * 1000 }
  answered := { now := second * 1000, reply := reply }

/-- Five jobs, each a second after the one before, with the same reply. -/
def fiveTurns (reply : Except RisError SendResult) : List Turn :=
  [sampleTurn "a" 1 reply, sampleTurn "b" 2 reply, sampleTurn "c" 3 reply, sampleTurn "d" 4 reply,
    sampleTurn "e" 5 reply]

def unreachable : Except RisError SendResult :=
  .ok { success := false, provider := "africastalking", error := some "connect ETIMEDOUT" }

/-- The sixth job is refused. -/
theorem unreachable_lawful :
    Each step Lawful {} (fiveTurns unreachable ++ [sampleTurn "f" 6 unreachable]) := by
  refine breaker_law _ (each_iff.2 fun earlier turn s hpre _ => ?_)
  have hmem : turn ∈ fiveTurns unreachable ++ [sampleTurn "f" 6 unreachable] :=
    hpre.subset (List.mem_append_right _ List.mem_cons_self)
  intro _ e
  simp only [fiveTurns, List.cons_append, List.nil_append, List.mem_cons, List.not_mem_nil, or_false] at hmem
  rcases hmem with rfl | rfl | rfl | rfl | rfl | rfl <;> exact fun heq => by cases heq

example : (sampleTurn "f" 6 unreachable).admission ((fiveTurns unreachable).foldl next {}).memory =
    some .paused := by decide

/-- There is no such text message, which is thrown: no failure is counted, and the sixth job is dispatched
like the five before. -/
theorem unknown_template_not_lawful :
    ¬Each step Lawful {} (fiveTurns (.error (.runtime "Unknown SMS template: welcome")) ++
      [sampleTurn "f" 6 (.error (.runtime "Unknown SMS template: welcome"))]) := by
  intro h
  set thrown : Except RisError SendResult :=
    .error (.runtime "Unknown SMS template: welcome") with hthrown
  have hlaw : Lawful ((fiveTurns thrown).foldl next {}) (sampleTurn "f" 6 thrown) :=
    each_iff.1 h (fiveTurns thrown) (sampleTurn "f" 6 thrown) _ (List.prefix_refl _) run_total
  have hrefused : (sampleTurn "f" 6 thrown).admission ((fiveTurns thrown).foldl next {}).memory =
      some .paused :=
    (hlaw.refused_iff (by decide) (by decide)).2 (by decide)
  have hdispatched : (sampleTurn "f" 6 thrown).admission ((fiveTurns thrown).foldl next {}).memory =
      some .dispatched := by decide
  rw [hdispatched] at hrefused
  cases hrefused

end Ris.Notifications.Breaker
