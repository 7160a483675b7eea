import Mathlib.Data.List.Nodup
import Mathlib.Data.List.Perm.Subperm
import Mathlib.Data.List.Range
import RisPlatform.Common.Runs

/-!
# `lib/axios.ts`: one token refresh for many requests

A response 401 makes its request post a refresh, and the requests that get one meanwhile wait in a queue,
which the refresh drains. The browser runs one callback at a time, so each action below is one: a request
is made, a response arrives, a refresh settles, the store is written.

In every run one refresh at most is under way, a request waits only then, and the end of the refresh
leaves none waiting (`no_request_is_lost`). A request refreshes once at most, which bounds how often any
is sent (`refreshes_bounded`). A refresh that outlives a logout brings the token back: `logout_final_iff`.
-/

namespace Ris.Frontend

open Runs

/-! ## The client -/

inductive Stage
  | inFlight
  /-- Its promise is in `pendingQueue`. -/
  | waiting
  /-- It has posted `/api/auth/refresh`. -/
  | refreshing
  | fulfilled
  | rejected (code : Option String)
  deriving DecidableEq

/-- A request and its `config`. -/
structure Request where
  stage : Stage := .inFlight
  /-- `config._retry` -/
  retry : Bool := false
  /-- `config.headers.Authorization` -/
  authorization : Option String := none
  /-- How often it has been sent. -/
  sent : ℕ := 0
  deriving DecidableEq

/-- What `useAuthStore` holds. -/
structure Session where
  accessToken : Option String := none
  user : Option ℕ := none
  isAuthenticated : Bool := false
  role : Option String := none
  deriving DecidableEq

structure Client where
  session : Session := {}
  isRefreshing : Bool := false
  /-- The requests that wait, in the order in which they came. -/
  pendingQueue : List ℕ := []
  /-- The requests that the application has made. -/
  requests : List Request := []
  /-- `window.location.href = '/login'` was executed. -/
  atLogin : Bool := false
  deriving DecidableEq

/-- A token that JavaScript takes for true. -/
def Session.token (s : Session) : Option String := s.accessToken.filter fun token => token ≠ ""

def bearer (token : String) (r : Request) : Request := { r with authorization := some ("Bearer " ++ token) }

/-- `apiClient(config)`: the request interceptor, and the request is on its way. -/
def Session.send (s : Session) (r : Request) : Request :=
  { s.token.elim r (bearer · r) with stage := .inFlight, sent := r.sent + 1 }

def Request.reject (r : Request) : Request := { r with stage := .rejected none }

def Client.put (c : Client) (i : ℕ) (r : Request) : Client := { c with requests := c.requests.set i r }

/-- `pendingQueue.push` -/
def Client.enqueue (c : Client) (i : ℕ) (r : Request) : Client :=
  { c with
    requests := c.requests.set i { r with stage := .waiting }
    pendingQueue := c.pendingQueue ++ [i] }

/-- The request becomes the one that refreshes. -/
def Client.startRefresh (c : Client) (i : ℕ) (r : Request) : Client :=
  { c with
    requests := c.requests.set i { r with stage := .refreshing, retry := true }
    isRefreshing := true }

/-- `drainQueue`, for what the end of the refresh does to a request that waits. -/
def drainQueue (f : Request → Request) (queue : List ℕ) (requests : List Request) : List Request :=
  queue.foldl (fun rs i => rs.modify i f) requests

/-- The response interceptor, for an error. -/
def Client.onError (c : Client) (i : ℕ) (r : Request) (status : Option ℕ) : Client :=
  if status = some 403 then c.put i { r with stage := .rejected (some "FORBIDDEN") }
  else if status ≠ some 401 ∨ r.retry = true then c.put i r.reject
  else if c.session.token = none then c.put i r.reject
  else if c.isRefreshing = true then c.enqueue i r
  else c.startRefresh i r

/-- The rest of the interceptor when the refresh of request `i` has ended, with a token or with an error. -/
def Client.onRefresh (c : Client) (i : ℕ) (r : Request) : Option String → Client
  | some token =>
    let session := { c.session with accessToken := some token }
    let retry := fun w => session.send (bearer token w)
    { c with
      session := session
      isRefreshing := false
      pendingQueue := []
      requests := (drainQueue retry c.pendingQueue c.requests).set i (retry r) }
  | none =>
    { session := {}
      isRefreshing := false
      pendingQueue := []
      requests := (drainQueue Request.reject c.pendingQueue c.requests).set i r.reject
      atLogin := true }

/-- What may happen next. -/
inductive Action
  | send
  /-- A response with its status, or none when the network failed. -/
  | respond (i : ℕ) (status : Option ℕ)
  | refreshed (i : ℕ) (result : Option String)
  | login (token : String) (user : ℕ) (role : String)
  | setTokens (token : String)
  | logout
  deriving DecidableEq

/-- `validateStatus` -/
def isSuccess (status : Option ℕ) : Bool := status.any fun n => 200 ≤ n && n < 300

/-- One action; a response or the end of a refresh is only possible where one is due. -/
def step (c : Client) : Action → Option Client
  | .send => some { c with requests := c.requests ++ [c.session.send {}] }
  | .respond i status =>
    (c.requests[i]?.filter fun r => r.stage = .inFlight).map fun r =>
      if isSuccess status then c.put i { r with stage := .fulfilled } else c.onError i r status
  | .refreshed i result =>
    (c.requests[i]?.filter fun r => r.stage = .refreshing).map fun r => c.onRefresh i r result
  | .login token user role =>
    some { c with session := ⟨some token, some user, true, some role⟩ }
  | .setTokens token => some { c with session := { c.session with accessToken := some token } }
  | .logout => some { c with session := {} }

/-! ## What an action does -/

/-- How the requests, the queue and the flag move. -/
inductive Moved (c : Client) : Action → Client → Prop
  | sent : Moved c .send { c with requests := c.requests ++ [c.session.send {}] }
  | settled (i : ℕ) (status : Option ℕ) (r : Request) (stage : Stage) (hr : c.requests[i]? = some r)
      (hin : r.stage = .inFlight) (hout : stage ≠ .waiting ∧ stage ≠ .refreshing) :
      Moved c (.respond i status) (c.put i { r with stage := stage })
  | queued (i : ℕ) (status : Option ℕ) (r : Request) (hr : c.requests[i]? = some r)
      (hin : r.stage = .inFlight) (hretry : r.retry = false) (hrefreshing : c.isRefreshing = true) :
      Moved c (.respond i status) (c.enqueue i r)
  | started (i : ℕ) (status : Option ℕ) (r : Request) (hr : c.requests[i]? = some r)
      (hin : r.stage = .inFlight) (hretry : r.retry = false) (hrefreshing : c.isRefreshing = false)
      (htoken : c.session.token ≠ none) :
      Moved c (.respond i status) (c.startRefresh i r)
  | refreshed (i : ℕ) (result : Option String) (r : Request) (hr : c.requests[i]? = some r)
      (hin : r.stage = .refreshing) : Moved c (.refreshed i result) (c.onRefresh i r result)
  | store (a : Action) (session : Session)
      (ha : a = .logout ∧ session = {} ∨ (∃ token user role, a = .login token user role) ∨
        ∃ token, a = .setTokens token) : Moved c a { c with session := session }

theorem step_moved {c c' : Client} {a : Action} (h : step c a = some c') : Moved c a c' := by
  cases a with
  | send =>
    obtain rfl := Option.some.inj h
    exact .sent
  | respond i status =>
    obtain ⟨r, hr, rfl⟩ := Option.map_eq_some_iff.1 h
    obtain ⟨hr, hin⟩ := Option.filter_eq_some_iff.1 hr
    have hin : r.stage = .inFlight := of_decide_eq_true hin
    split
    · exact .settled i status r .fulfilled hr hin ⟨nofun, nofun⟩
    unfold Client.onError
    split
    · exact .settled i status r _ hr hin ⟨nofun, nofun⟩
    split
    · exact .settled i status r _ hr hin ⟨nofun, nofun⟩
    rename_i hstatus
    have hretry : r.retry = false := Bool.eq_false_iff.2 fun hretry => hstatus (Or.inr hretry)
    split
    · exact .settled i status r _ hr hin ⟨nofun, nofun⟩
    split
    · exact .queued i status r hr hin hretry ‹_›
    · exact .started i status r hr hin hretry (Bool.eq_false_iff.2 ‹_›) ‹_›
  | refreshed i result =>
    obtain ⟨r, hr, rfl⟩ := Option.map_eq_some_iff.1 h
    obtain ⟨hr, hin⟩ := Option.filter_eq_some_iff.1 hr
    exact .refreshed i result r hr (of_decide_eq_true hin)
  | login token user role =>
    obtain rfl := Option.some.inj h
    exact .store _ _ (Or.inr (Or.inl ⟨token, user, role, rfl⟩))
  | setTokens token =>
    obtain rfl := Option.some.inj h
    exact .store _ _ (Or.inr (Or.inr ⟨token, rfl⟩))
  | logout =>
    obtain rfl := Option.some.inj h
    exact .store _ _ (Or.inl ⟨rfl, rfl⟩)

/-- Each request that waits is drained, and no other is touched. -/
theorem getElem?_drainQueue (f : Request → Request) (queue : List ℕ) :
    ∀ (requests : List Request) (j : ℕ), queue.Nodup →
      (drainQueue f queue requests)[j]? = if j ∈ queue then requests[j]?.map f else requests[j]? := by
  induction queue with
  | nil => simp [drainQueue]
  | cons i queue ih =>
    intro requests j hnodup
    obtain ⟨hi, hnodup⟩ := List.nodup_cons.1 hnodup
    show (drainQueue f queue (requests.modify i f))[j]? = _
    rw [ih _ j hnodup, List.getElem?_modify]
    by_cases hij : i = j
    · subst hij
      simp [hi]
    · by_cases hj : j ∈ queue <;> simp [hij, Ne.symm hij, hj]

theorem length_drainQueue (f : Request → Request) (queue : List ℕ) (requests : List Request) :
    (drainQueue f queue requests).length = requests.length := by
  induction queue generalizing requests with
  | nil => rfl
  | cons i queue ih => exact (ih _).trans (List.length_modify _ _ _)

def Client.stage (c : Client) (i : ℕ) : Option Stage := c.requests[i]?.map Request.stage

section Stages

variable {c c' : Client} {i j : ℕ} {r r' : Request} {a : Action}

theorem stage_of_getElem? (hr : c.requests[i]? = some r) : c.stage i = some r.stage := by
  rw [Client.stage, hr, Option.map_some]

theorem getElem?_put (hr : c.requests[i]? = some r) (r' : Request) (j : ℕ) :
    (c.put i r').requests[j]? = if j = i then some r' else c.requests[j]? := by
  have hlt : i < c.requests.length := (List.getElem?_eq_some_iff.1 hr).1
  unfold Client.put
  by_cases hj : j = i
  · subst hj
    rw [List.getElem?_set_self hlt, if_pos rfl]
  · rw [List.getElem?_set_ne (Ne.symm hj), if_neg hj]

theorem stage_put (hr : c.requests[i]? = some r) (r' : Request) (j : ℕ) :
    (c.put i r').stage j = if j = i then some r'.stage else c.stage j := by
  rw [Client.stage, getElem?_put hr]
  split <;> rfl

theorem stage_send (j : ℕ) :
    ({ c with requests := c.requests ++ [c.session.send {}] } : Client).stage j =
      if j = c.requests.length then some .inFlight else c.stage j := by
  show (c.requests ++ [c.session.send {}])[j]?.map Request.stage = _
  rcases lt_trichotomy j c.requests.length with hlt | rfl | hgt
  · rw [List.getElem?_append_left hlt, if_neg (Nat.ne_of_lt hlt)]
    rfl
  · rw [List.getElem?_concat_length, if_pos rfl]
    rfl
  · rw [List.getElem?_eq_none (by simp; omega), if_neg (Nat.ne_of_gt hgt), Client.stage,
      List.getElem?_eq_none (by omega)]

/-- What the end of a refresh makes of the request that posted it, and of those that wait. -/
def Client.afterRefresh (c : Client) (r : Request) : Option String → Request
  | some token => { c.session with accessToken := some token }.send (bearer token r)
  | none => r.reject

def refreshedStage (result : Option String) : Stage := if result.isSome then .inFlight else .rejected none

theorem stage_afterRefresh (result : Option String) (r : Request) :
    (c.afterRefresh r result).stage = refreshedStage result := by
  cases result <;> rfl

theorem getElem?_onRefresh (hnodup : c.pendingQueue.Nodup) (hr : c.requests[i]? = some r)
    (result : Option String) (j : ℕ) :
    (c.onRefresh i r result).requests[j]? =
      if j = i then some (c.afterRefresh r result)
      else if j ∈ c.pendingQueue then c.requests[j]?.map (c.afterRefresh · result)
      else c.requests[j]? := by
  have hlt : i < c.requests.length := (List.getElem?_eq_some_iff.1 hr).1
  have hset : ∀ (f : Request → Request) (r' : Request),
      ((drainQueue f c.pendingQueue c.requests).set i r')[j]? =
        if j = i then some r' else if j ∈ c.pendingQueue then c.requests[j]?.map f else c.requests[j]? := by
    intro f r'
    by_cases hj : j = i
    · subst hj
      rw [List.getElem?_set_self (by rw [length_drainQueue]; exact hlt), if_pos rfl]
    · rw [List.getElem?_set_ne (Ne.symm hj), if_neg hj, getElem?_drainQueue f _ _ _ hnodup]
  cases result with
  | some token => exact hset _ _
  | none => exact hset _ _

end Stages

/-! ## One refresh for those that wait -/

/-- The queue is the requests that wait, and they wait for the one refresh that is under way. -/
structure Orderly (c : Client) : Prop where
  nodup : c.pendingQueue.Nodup
  queued : ∀ i, i ∈ c.pendingQueue ↔ c.stage i = some .waiting
  refreshing : c.isRefreshing = true ↔ ∃ i, c.stage i = some .refreshing
  single : ∀ i j, c.stage i = some .refreshing → c.stage j = some .refreshing → i = j
  idle : c.isRefreshing = false → c.pendingQueue = []

section Orderly

variable {c c' : Client} {i j : ℕ} {r : Request} {a : Action}

theorem Orderly.stage_onRefresh (h : Orderly c) (hr : c.requests[i]? = some r) (result : Option String) (j : ℕ) :
    (c.onRefresh i r result).stage j =
      if j = i ∨ c.stage j = some .waiting then some (refreshedStage result) else c.stage j := by
  have hqueued := h.queued j
  rw [Client.stage, getElem?_onRefresh h.nodup hr]
  by_cases hj : j = i
  · rw [if_pos hj, if_pos (Or.inl hj), Option.map_some, stage_afterRefresh]
  · rw [if_neg hj]
    by_cases hq : j ∈ c.pendingQueue
    · have hwaiting := hqueued.1 hq
      obtain ⟨r', hr', -⟩ := Option.map_eq_some_iff.1 hwaiting
      rw [if_pos hq, if_pos (Or.inr hwaiting), hr', Option.map_some, Option.map_some, stage_afterRefresh]
    · rw [if_neg hq, if_neg (not_or.2 ⟨hj, fun hwaiting => hq (hqueued.2 hwaiting)⟩)]
      rfl

/-- A request that is given another stage than those two leaves the order, if it had neither. -/
theorem Orderly.settle (h : Orderly c) (hstage : ∀ j, c'.stage j ≠ c.stage j →
      c.stage j ≠ some .waiting ∧ c.stage j ≠ some .refreshing ∧ c'.stage j ≠ some .waiting ∧
        c'.stage j ≠ some .refreshing)
    (hqueue : c'.pendingQueue = c.pendingQueue) (hflag : c'.isRefreshing = c.isRefreshing) : Orderly c' := by
  have hwaiting : ∀ j, c'.stage j = some .waiting ↔ c.stage j = some .waiting := by
    intro j
    by_cases hj : c'.stage j = c.stage j
    · rw [hj]
    · exact iff_of_false (hstage j hj).2.2.1 (hstage j hj).1
  have hrefreshing : ∀ j, c'.stage j = some .refreshing ↔ c.stage j = some .refreshing := by
    intro j
    by_cases hj : c'.stage j = c.stage j
    · rw [hj]
    · exact iff_of_false (hstage j hj).2.2.2 (hstage j hj).2.1
  refine ⟨hqueue ▸ h.nodup, fun j => ?_, ?_, fun i j hi hj => ?_, ?_⟩
  · rw [hqueue, hwaiting]
    exact h.queued j
  · rw [hflag, h.refreshing]
    exact exists_congr fun j => (hrefreshing j).symm
  · exact h.single i j ((hrefreshing i).1 hi) ((hrefreshing j).1 hj)
  · rw [hflag, hqueue]
    exact h.idle

/-- The step lemma. -/
theorem Orderly.step (h : Orderly c) (hstep : step c a = some c') : Orderly c' := by
  cases step_moved hstep with
  | sent =>
    refine h.settle (fun j hj => ?_) rfl rfl
    rw [stage_send] at hj ⊢
    by_cases hnew : j = c.requests.length
    · have hnone : c.stage j = none := by rw [Client.stage, hnew, List.getElem?_eq_none (Nat.le_refl _)]; rfl
      rw [if_pos hnew, hnone]
      exact ⟨nofun, nofun, nofun, nofun⟩
    · rw [if_neg hnew] at hj
      exact absurd rfl hj
  | settled i status r stage hr hin hout =>
    refine h.settle (fun j hj => ?_) rfl rfl
    rw [stage_put hr] at hj ⊢
    by_cases hji : j = i
    · rw [if_pos hji, hji, stage_of_getElem? hr, hin]
      exact ⟨nofun, nofun, fun heq => hout.1 (Option.some.inj heq), fun heq => hout.2 (Option.some.inj heq)⟩
    · rw [if_neg hji] at hj
      exact absurd rfl hj
  | queued i status r hr hin hretry hrefreshing =>
    have hi : i ∉ c.pendingQueue := by
      rw [h.queued, stage_of_getElem? hr, hin]
      exact nofun
    have hstage : ∀ j, (c.enqueue i r).stage j = if j = i then some .waiting else c.stage j :=
      stage_put hr { r with stage := .waiting }
    have hother : ∀ j, (if j = i then some Stage.waiting else c.stage j) = some .refreshing ↔
        c.stage j = some .refreshing := by
      intro j
      by_cases hji : j = i
      · rw [if_pos hji, hji, stage_of_getElem? hr, hin]
        exact iff_of_false nofun nofun
      · rw [if_neg hji]
    refine ⟨h.nodup.append (List.nodup_singleton i) (by simpa using hi), fun j => ?_, ?_, fun k j hk hj => ?_,
      fun hflag => ?_⟩
    · show j ∈ c.pendingQueue ++ [i] ↔ _
      rw [hstage, List.mem_append, List.mem_singleton, h.queued]
      by_cases hji : j = i <;> simp [hji]
    · refine h.refreshing.trans (exists_congr fun j => ?_)
      rw [hstage, hother]
    · rw [hstage, hother] at hk hj
      exact h.single k j hk hj
    · cases hrefreshing.symm.trans hflag
  | started i status r hr hin hretry hrefreshing htoken =>
    have hempty : c.pendingQueue = [] := h.idle hrefreshing
    have hnone : ∀ j, c.stage j ≠ some .refreshing := by
      intro j hj
      rw [h.refreshing.2 ⟨j, hj⟩] at hrefreshing
      cases hrefreshing
    have hstage : ∀ j, (c.startRefresh i r).stage j = if j = i then some .refreshing else c.stage j :=
      stage_put hr { r with stage := .refreshing, retry := true }
    refine ⟨h.nodup, fun j => ?_, iff_of_true rfl ⟨i, ?_⟩, fun k j hk hj => ?_, fun _ => hempty⟩
    · rw [hstage]
      refine (h.queued j).trans ?_
      by_cases hji : j = i
      · rw [if_pos hji, hji, stage_of_getElem? hr, hin]
        exact iff_of_false nofun nofun
      · rw [if_neg hji]
    · rw [hstage, if_pos rfl]
    · -- nothing was refreshing, so what is, is `i`
      have honly : ∀ j, (if j = i then some Stage.refreshing else c.stage j) = some .refreshing → j = i := by
        intro j hj
        by_contra hji
        rw [if_neg hji] at hj
        exact hnone j hj
      rw [hstage] at hk hj
      rw [honly k hk, honly j hj]
  | refreshed i result r hr hin =>
    have hstage := h.stage_onRefresh hr result
    have hqueue : (c.onRefresh i r result).pendingQueue = [] := by cases result <;> rfl
    have hflag : (c.onRefresh i r result).isRefreshing = false := by cases result <;> rfl
    have hout : some (refreshedStage result) ≠ some .waiting ∧ some (refreshedStage result) ≠ some .refreshing := by
      cases result <;> exact ⟨nofun, nofun⟩
    have hwaiting : ∀ j, (c.onRefresh i r result).stage j ≠ some .waiting := by
      intro j
      rw [hstage]
      split
      · exact hout.1
      · rename_i hj
        exact fun heq => hj (Or.inr heq)
    have hrefreshing : ∀ j, (c.onRefresh i r result).stage j ≠ some .refreshing := by
      intro j
      rw [hstage]
      split
      · exact hout.2
      · rename_i hj
        have hi : c.stage i = some .refreshing := by rw [stage_of_getElem? hr, hin]
        exact fun heq => hj (Or.inl (h.single j i heq hi))
    refine ⟨hqueue ▸ List.nodup_nil, fun j => ?_, ?_, fun k j hk _ => absurd hk (hrefreshing k), fun _ => hqueue⟩
    · rw [hqueue]
      exact iff_of_false nofun (hwaiting j)
    · rw [hflag]
      exact iff_of_false nofun fun ⟨j, hj⟩ => hrefreshing j hj
  | store session => exact h.settle (fun j hj => absurd rfl hj) rfl rfl

/-- The run lemma. -/
theorem Orderly.run (h : Orderly c) {as : List Action} (hrun : run Frontend.step c as = some c') : Orderly c' := by
  refine (each_iff.2 fun _ _ _ _ _ => trivial : Each Frontend.step (fun _ _ => True) c as).invariant
    (fun _ _ _ h _ hstep => h.step hstep) h hrun

theorem orderly_init (session : Session) : Orderly { session := session } :=
  ⟨List.nodup_nil, fun _ => iff_of_false nofun nofun, iff_of_false nofun fun ⟨_, h⟩ => (nomatch h),
    fun _ _ h => (nomatch h), fun _ => rfl⟩

end Orderly

/-- No request that waits is lost. -/
structure Kept (c : Client) : Prop where
  nodup : c.pendingQueue.Nodup
  queued : ∀ i, i ∈ c.pendingQueue ↔ c.stage i = some .waiting
  single : c.isRefreshing = true ↔ ∃! i, c.stage i = some .refreshing
  waits : ∀ i, c.stage i = some .waiting → c.isRefreshing = true
  ends : ∀ i result c', step c (.refreshed i result) = some c' →
    c'.isRefreshing = false ∧ ∀ j r, c.requests[j]? = some r → (j = i ∨ r.stage = .waiting) →
      c'.requests[j]? = some (c.afterRefresh r result)

/-- In every state of every run the requests that wait are those in the queue, each once; they wait only
while a refresh is under way, of which there is one at most; and its end sends each of them again, with the
new token, or rejects it. -/
theorem no_request_is_lost (session : Session) (as : List Action) (c : Client)
    (h : run step { session := session } as = some c) : Kept c := by
  have hc : Orderly c := (orderly_init session).run h
  refine ⟨hc.nodup, hc.queued, hc.refreshing.trans ⟨?_, fun ⟨i, hi, _⟩ => ⟨i, hi⟩⟩, fun i hi => ?_, ?_⟩
  · rintro ⟨i, hi⟩
    exact ⟨i, hi, fun j hj => hc.single j i hj hi⟩
  · by_contra hflag
    have hempty := hc.idle (Bool.eq_false_iff.2 hflag)
    have hmem := (hc.queued i).2 hi
    rw [hempty] at hmem
    cases hmem
  · intro i result c' hstep
    cases step_moved hstep with
    | refreshed _ _ r hr hin =>
      refine ⟨by cases result <;> rfl, fun j r' hr' hj => ?_⟩
      rw [getElem?_onRefresh hc.nodup hr]
      by_cases hji : j = i
      · subst hji
        obtain rfl := Option.some.inj (hr.symm.trans hr')
        rw [if_pos rfl]
      · have hwaiting : c.stage j = some .waiting := by
          rw [stage_of_getElem? hr', hj.resolve_left hji]
        rw [if_neg hji, if_pos ((hc.queued j).2 hwaiting), hr', Option.map_some]
    | store _ _ ha => rcases ha with ⟨ha, -⟩ | ⟨_, _, _, ha⟩ | ⟨_, ha⟩ <;> cases ha

/-- Two requests of one user are refused: the first refreshes, and the second waits. -/
def refusedTwice : List Action :=
  [.login "a" 7 "supplier", .send, .send, .respond 0 (some 401), .respond 1 (some 401)]

theorem exists_waiting : ∃ c, run step {} refusedTwice = some c ∧ c.stage 1 = some .waiting :=
  ⟨_, rfl, by decide⟩

theorem no_request_is_lost_waiting : ∃ c : Client, c.stage 1 = some .waiting ∧ Kept c := by
  obtain ⟨c, hc, hwaiting⟩ := exists_waiting
  exact ⟨c, hwaiting, no_request_is_lost {} refusedTwice c hc⟩

/-! ## How often -/

/-- The requests whose refreshes ended, in their order. -/
def refreshers (as : List Action) : List ℕ :=
  as.filterMap fun a =>
    match a with
    | .refreshed i _ => some i
    | _ => none

theorem refreshers_append (as bs : List Action) : refreshers (as ++ bs) = refreshers as ++ refreshers bs :=
  List.filterMap_append

/-- What the actions `as` have made of the requests. -/
structure Counted (as : List Action) (c : Client) : Prop where
  length : c.requests.length = as.count .send
  nodup : (refreshers as).Nodup
  ended : ∀ i ∈ refreshers as, ∃ r, c.requests[i]? = some r ∧ r.retry = true ∧ r.stage ≠ .refreshing
  retried : ∀ (i : ℕ) (r : Request), c.requests[i]? = some r → r.stage = .refreshing → r.retry = true
  first : ∀ (i : ℕ) (r : Request), c.requests[i]? = some r → r.stage = .waiting → r.retry = false
  sent : ∀ (i : ℕ) (r : Request), c.requests[i]? = some r → r.sent ≤ 1 + (refreshers as).length

section Counted

variable {as : List Action} {c c' : Client} {a : Action}

/-- An action that ends no refresh and sends nothing may give one request another stage and the mark. -/
theorem Counted.mark (h : Counted as c) (hsend : a ≠ .send) (hrefreshers : refreshers [a] = []) {i : ℕ}
    {r r' : Request} (hr : c.requests[i]? = some r) (hrequests : c'.requests = c.requests.set i r')
    (hsent : r'.sent = r.sent)
    (hretry : r.retry = true → r'.retry = true ∧ r'.stage ≠ .refreshing)
    (hretried : r'.stage = .refreshing → r'.retry = true) (hfirst : r'.stage = .waiting → r'.retry = false) :
    Counted (as ++ [a]) c' := by
  have hget : ∀ j, c'.requests[j]? = if j = i then some r' else c.requests[j]? := by
    intro j
    rw [hrequests]
    exact getElem?_put hr r' j
  have hsame : refreshers (as ++ [a]) = refreshers as := by
    rw [refreshers_append, hrefreshers, List.append_nil]
  have hcases : ∀ {j : ℕ} {x}, c'.requests[j]? = some x → x = r' ∨ c.requests[j]? = some x := by
    intro j x hx
    rw [hget] at hx
    by_cases hj : j = i
    · rw [if_pos hj] at hx
      exact Or.inl (Option.some.inj hx).symm
    · rw [if_neg hj] at hx
      exact Or.inr hx
  refine ⟨?_, hsame ▸ h.nodup, ?_, fun j x hx hstage => ?_, fun j x hx hstage => ?_, fun j x hx => ?_⟩
  · rw [hrequests, List.length_set, h.length, List.count_append, List.count_singleton]
    simp [hsend]
  · rw [hsame]
    intro j hj
    obtain ⟨x, hx, hxretry, hxstage⟩ := h.ended j hj
    rw [hget]
    by_cases hji : j = i
    · subst hji
      obtain rfl := Option.some.inj (hr.symm.trans hx)
      rw [if_pos rfl]
      exact ⟨r', rfl, hretry hxretry⟩
    · rw [if_neg hji]
      exact ⟨x, hx, hxretry, hxstage⟩
  · rcases hcases hx with rfl | hx
    · exact hretried hstage
    · exact h.retried j x hx hstage
  · rcases hcases hx with rfl | hx
    · exact hfirst hstage
    · exact h.first j x hx hstage
  · rw [hsame]
    rcases hcases hx with rfl | hx
    · rw [hsent]
      exact h.sent i r hr
    · exact h.sent j x hx

theorem retry_send (s : Session) (r : Request) : (s.send r).retry = r.retry := by
  unfold Session.send
  cases s.token <;> rfl

theorem sent_afterRefresh_le (c : Client) (r : Request) (result : Option String) :
    (c.afterRefresh r result).sent ≤ r.sent + 1 ∧ (c.afterRefresh r result).retry = r.retry := by
  cases result with
  | none => exact ⟨Nat.le_succ _, rfl⟩
  | some token => exact ⟨Nat.le_refl _, retry_send _ _⟩

/-- The step lemma. -/
theorem Counted.step (h : Counted as c) (hc : Orderly c) (hstep : step c a = some c') :
    Counted (as ++ [a]) c' := by
  cases step_moved hstep with
  | sent =>
    have hsame : refreshers (as ++ [.send]) = refreshers as := by
      rw [refreshers_append]
      exact List.append_nil _
    have hcases : ∀ {j : ℕ} {x}, (c.requests ++ [c.session.send {}])[j]? = some x →
        x = c.session.send {} ∨ c.requests[j]? = some x := by
      intro j x hx
      rw [List.getElem?_append] at hx
      split at hx
      · exact Or.inr hx
      · refine Or.inl ?_
        have hmem := List.mem_of_getElem? hx
        exact List.mem_singleton.1 hmem
    have hnew : (c.session.send {}).sent = 1 ∧ (c.session.send {}).stage = .inFlight := ⟨rfl, rfl⟩
    refine ⟨?_, hsame ▸ h.nodup, ?_, fun j x hx hstage => ?_, fun j x hx hstage => ?_, fun j x hx => ?_⟩
    · show (c.requests ++ [c.session.send {}]).length = _
      rw [List.length_append, h.length, List.count_append, List.count_singleton]
      simp
    · rw [hsame]
      intro j hj
      obtain ⟨x, hx, hkept⟩ := h.ended j hj
      exact ⟨x, by rw [List.getElem?_append_left (List.getElem?_eq_some_iff.1 hx).1, hx], hkept⟩
    · rcases hcases hx with rfl | hx
      · rw [hnew.2] at hstage
        cases hstage
      · exact h.retried j x hx hstage
    · rcases hcases hx with rfl | hx
      · rw [hnew.2] at hstage
        cases hstage
      · exact h.first j x hx hstage
    · rw [hsame]
      rcases hcases hx with rfl | hx
      · rw [hnew.1]
        exact Nat.le_add_right _ _
      · exact h.sent j x hx
  | settled i status r stage hr hin hout =>
    exact h.mark nofun rfl hr rfl rfl (fun hretry => ⟨hretry, hout.2⟩) (fun heq => absurd heq hout.2)
      fun heq => absurd heq hout.1
  | queued i status r hr hin hretry hrefreshing =>
    exact h.mark nofun rfl hr rfl rfl (fun hmarked => (Bool.false_ne_true (hretry.symm.trans hmarked)).elim)
      nofun fun _ => hretry
  | started i status r hr hin hretry hrefreshing htoken =>
    exact h.mark nofun rfl hr rfl rfl (fun hmarked => (Bool.false_ne_true (hretry.symm.trans hmarked)).elim)
      (fun _ => rfl) nofun
  | refreshed i result r hr hin =>
    have hget := getElem?_onRefresh hc.nodup hr result
    have hnew : refreshers (as ++ [.refreshed i result]) = refreshers as ++ [i] := refreshers_append _ _
    have hstage : ∀ x, (c.afterRefresh x result).stage ≠ .refreshing ∧ (c.afterRefresh x result).stage ≠ .waiting := by
      intro x
      rw [stage_afterRefresh]
      cases result <;> exact ⟨nofun, nofun⟩
    -- a request is as it was, or goes on after the refresh
    have hcases : ∀ {j : ℕ} {x}, (c.onRefresh i r result).requests[j]? = some x →
        c.requests[j]? = some x ∨ ∃ y, c.requests[j]? = some y ∧ x = c.afterRefresh y result := by
      intro j x hx
      rw [hget] at hx
      split at hx
      · rename_i hj
        exact Or.inr ⟨r, hj ▸ hr, (Option.some.inj hx).symm⟩
      split at hx
      · obtain ⟨y, hy, rfl⟩ := Option.map_eq_some_iff.1 hx
        exact Or.inr ⟨y, hy, rfl⟩
      · exact Or.inl hx
    have hlength : (c.onRefresh i r result).requests.length = c.requests.length := by
      cases result <;> exact (List.length_set ..).trans (length_drainQueue _ _ _)
    have hi : i ∉ refreshers as := by
      intro hmem
      obtain ⟨x, hx, -, hstage⟩ := h.ended i hmem
      obtain rfl := Option.some.inj (hr.symm.trans hx)
      exact hstage hin
    refine ⟨?_, ?_, ?_, fun j x hx heq => ?_, fun j x hx heq => ?_, fun j x hx => ?_⟩
    · rw [hlength, h.length, List.count_append, List.count_singleton]
      simp
    · rw [hnew]
      exact h.nodup.append (List.nodup_singleton i) (by simpa using hi)
    · rw [hnew]
      intro j hj
      rcases List.mem_append.1 hj with hj | hj
      · obtain ⟨x, hx, hretry, hxstage⟩ := h.ended j hj
        refine ⟨x, ?_, hretry, hxstage⟩
        have hji : j ≠ i := fun heq => hi (heq ▸ hj)
        have hqueue : j ∉ c.pendingQueue := by
          rw [hc.queued, stage_of_getElem? hx]
          intro heq
          rw [h.first j x hx (Option.some.inj heq)] at hretry
          cases hretry
        rw [hget, if_neg hji, if_neg hqueue, hx]
      · obtain rfl := List.mem_singleton.1 hj
        refine ⟨_, by rw [hget, if_pos rfl], ?_, (hstage r).1⟩
        rw [(sent_afterRefresh_le c r result).2]
        exact h.retried j r hr hin
    · rcases hcases hx with hx | ⟨y, -, rfl⟩
      · exact h.retried j x hx heq
      · exact absurd heq (hstage y).1
    · rcases hcases hx with hx | ⟨y, -, rfl⟩
      · exact h.first j x hx heq
      · exact absurd heq (hstage y).2
    · rw [hnew, List.length_append, List.length_singleton]
      rcases hcases hx with hx | ⟨y, hy, rfl⟩
      · have hle := h.sent j x hx
        omega
      · have hle := h.sent j y hy
        have hmore := (sent_afterRefresh_le c y result).1
        omega
  | store a session ha =>
    have hsend : a ≠ .send ∧ refreshers [a] = [] := by
      rcases ha with ⟨rfl, -⟩ | ⟨_, _, _, rfl⟩ | ⟨_, rfl⟩ <;> exact ⟨nofun, rfl⟩
    have hsame : refreshers (as ++ [a]) = refreshers as := by
      rw [refreshers_append, hsend.2, List.append_nil]
    refine ⟨?_, hsame ▸ h.nodup, hsame ▸ h.ended, h.retried, h.first, hsame ▸ h.sent⟩
    rw [List.count_append, List.count_singleton, ← h.length]
    simp [hsend.1]

theorem counted (session : Session) (as : List Action) :
    ∀ c, run Frontend.step { session := session } as = some c → Counted as c := by
  -- the induction takes the last action off, for which the requests before it are counted and in order
  induction as using List.reverseRecOn with
  | nil =>
    intro c h
    obtain rfl := Option.some.inj h
    exact ⟨rfl, List.nodup_nil, nofun, nofun, nofun, nofun⟩
  | append_singleton as a ih =>
    intro c h
    rw [run_append] at h
    obtain ⟨c₁, h₁, hstep⟩ := Option.bind_eq_some_iff.1 h
    rw [run_singleton] at hstep
    exact (ih c₁ h₁).step ((orderly_init session).run h₁) hstep

end Counted

/-- In every run each request posts one refresh at most, so that there are no more refreshes than requests,
and a request is sent once and at most once more for each refresh. -/
theorem refreshes_bounded (session : Session) (as : List Action) (c : Client)
    (h : run step { session := session } as = some c) :
    (refreshers as).Nodup ∧ (refreshers as).length ≤ as.count .send ∧
      ∀ r ∈ c.requests, r.sent ≤ 1 + (refreshers as).length := by
  have hc := counted session as c h
  refine ⟨hc.nodup, ?_, fun r hr => ?_⟩
  · have hsub : refreshers as ⊆ List.range c.requests.length := by
      intro i hi
      obtain ⟨r, hr, -⟩ := hc.ended i hi
      exact List.mem_range.2 (List.getElem?_eq_some_iff.1 hr).1
    have hle := (List.subperm_of_subset hc.nodup hsub).length_le
    rwa [List.length_range, hc.length] at hle
  · obtain ⟨i, hi⟩ := List.mem_iff_getElem?.1 hr
    exact hc.sent i r hi

theorem refreshes_bounded_waiting : ∃ c : Client, c.stage 1 = some .waiting ∧
    (refreshers refusedTwice).Nodup ∧ (refreshers refusedTwice).length ≤ refusedTwice.count .send ∧
      ∀ r ∈ c.requests, r.sent ≤ 1 + (refreshers refusedTwice).length := by
  obtain ⟨c, hc, hwaiting⟩ := exists_waiting
  exact ⟨c, hwaiting, refreshes_bounded {} refusedTwice c hc⟩

/-! ## After a logout -/

/-- It stores a token that the application has been given. -/
def Action.signsIn : Action → Bool
  | .login .. => true
  | .setTokens _ => true
  | _ => false

/-- No token, and no refresh that may bring one. -/
structure SignedOut (c : Client) : Prop extends Orderly c where
  token : c.session.accessToken = none
  still : c.isRefreshing = false

/-- Nothing but signing in brings a token. -/
theorem SignedOut.step {c c' : Client} {a : Action} (h : SignedOut c) (ha : a.signsIn = false)
    (hstep : step c a = some c') : SignedOut c' := by
  have hkept : c'.session.accessToken = none ∧ c'.isRefreshing = false := by
    cases step_moved hstep with
    | sent => exact ⟨h.token, h.still⟩
    | settled => exact ⟨h.token, h.still⟩
    | queued i status r hr hin hretry hrefreshing => cases h.still.symm.trans hrefreshing
    | started i status r hr hin hretry hrefreshing htoken =>
      rw [Session.token, h.token] at htoken
      exact absurd rfl htoken
    | refreshed i result r hr hin =>
      have hrefreshing : c.isRefreshing = true := h.refreshing.2 ⟨i, by rw [stage_of_getElem? hr, hin]⟩
      cases h.still.symm.trans hrefreshing
    | store a session ha' =>
      rcases ha' with ⟨-, rfl⟩ | ⟨_, _, _, rfl⟩ | ⟨_, rfl⟩
      · exact ⟨rfl, h.still⟩
      · cases ha
      · cases ha
  exact ⟨h.toOrderly.step hstep, hkept.1, hkept.2⟩

/-- When the store holds no token, as after a logout, it stays so until somebody signs in, whatever happens
in between, if and only if no refresh is under way. -/
theorem logout_final_iff (session : Session) (as : List Action) (c : Client)
    (h : run step { session := session } as = some c) (hout : c.session.accessToken = none) :
    (∀ bs c', (∀ a ∈ bs, a.signsIn = false) → run step c bs = some c' → c'.session.accessToken = none) ↔
      c.isRefreshing = false := by
  have hc : Orderly c := (orderly_init session).run h
  constructor
  · intro hstays
    by_contra hflag
    obtain ⟨i, hi⟩ := hc.refreshing.1 (Bool.not_eq_false _ ▸ hflag)
    obtain ⟨r, hr, hstage⟩ := Option.map_eq_some_iff.1 hi
    have hstep : step c (.refreshed i (some "token")) = some (c.onRefresh i r (some "token")) := by
      rw [step, hr, Option.filter_some, if_pos (decide_eq_true hstage), Option.map_some]
    have hnone := hstays [.refreshed i (some "token")] _ (by simp [Action.signsIn])
      (run_singleton.trans hstep)
    cases hnone
  · intro hflag bs c' hbs hrun
    have heach : Each step (fun _ a => a.signsIn = false) c bs :=
      each_iff.2 fun as a _ hpre _ => hbs a (hpre.subset (by simp))
    have hsigned : SignedOut c := ⟨hc, hout, hflag⟩
    exact (heach.invariant (fun _ _ _ h ha hstep => h.step ha hstep) hsigned hrun).token

/-- A logout while the refresh is under way: the token comes back. -/
theorem logout_final_refreshing : ∃ c : Client, c.isRefreshing = true ∧ c.session = {} ∧
    ((∀ bs c', (∀ a ∈ bs, a.signsIn = false) → run step c bs = some c' → c'.session.accessToken = none) ↔
      c.isRefreshing = false) := by
  obtain ⟨c, hc, hflag, hsession⟩ : ∃ c, run step {} (refusedTwice ++ [.logout]) = some c ∧
      c.isRefreshing = true ∧ c.session = {} := ⟨_, rfl, rfl, rfl⟩
  exact ⟨c, hflag, hsession, logout_final_iff {} _ c hc (by rw [hsession])⟩

end Ris.Frontend
