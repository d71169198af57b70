/-
  HotelAgent.Api.RequestClaims — several members of the personnel take one request.

  `assign` loads the request, checks the role of the caller, and saves two
  columns; the save names neither the status nor the assignee that were loaded.
  Between the two steps of one call any other call may take its steps.

  Main results:
    * `uninterrupted_assign` — two steps in a row are `assign`.
    * `claimed_once_iff` — at most one call succeeds and the request stays with
      its user, if and only if no call saves after another has succeeded.
-/
import HotelAgent.Api.Endpoints
import HotelAgent.Lib.Run

namespace HotelAgent

open Lib

variable {py : Python}

/-! ## §1. Calls in flight. -/

/-- A call of `assign` with the token of a user. -/
structure AssignCall where
  userId : Uuid
  fresh : ActionFresh

/-- Where a call stands. -/
inductive AssignPhase where
  /-- Next is the load. -/
  | waiting
  /-- The request and its caller are loaded; next is the save. -/
  | loaded (user : User) (r : ServiceRequest)
  | answered (response : Response)

/-- The load: authentication, `get_object` and the role check. -/
def AssignCall.load (db : Db) (id : Uuid) (c : AssignCall) : AssignPhase :=
  match (Credentials.bearer c.userId).user db with
  | .error response => .answered response
  | .ok user =>
    match readAssign db user (some id) with
    | .error response => .answered response
    | .ok (user, r) => .loaded user r

/-- The save, with the event and the answer that follow it. -/
def finishAssign (py : Python) (w : World) (user : User) (r : ServiceRequest)
    (fresh : ActionFresh) : World × Response :=
  match saveAssign w.db user r with
  | none => (w, .internalError)
  | some db =>
    match publish py fresh.produce (txt "SERVICE_REQUESTS") (assignedEvent r fresh.stamp) none with
    | .raised => ({ w with db := db }, .internalError)
    | p => ({ db := db, log := w.log ++ p.records },
        ⟨200, requestJson db.users ((RequestWrite.assign user.id).write r)⟩)

/-- The next step of a call on the request `id`. -/
def AssignCall.step (py : Python) (id : Uuid) (w : World) (c : AssignCall) :
    AssignPhase → World × AssignPhase
  | .waiting => (w, c.load w.db id)
  | .loaded user r =>
    ((finishAssign py w user r c.fresh).1, .answered (finishAssign py w user r c.fresh).2)
  | .answered response => (w, .answered response)

structure AssignRace where
  world : World
  calls : List (AssignCall × AssignPhase)

/-- The `k`-th call takes a step. -/
def claimStep (py : Python) (id : Uuid) (s : AssignRace) (k : Nat) : AssignRace :=
  match s.calls[k]? with
  | none => s
  | some (c, phase) =>
    { world := (c.step py id s.world phase).1
      calls := s.calls.set k (c, (c.step py id s.world phase).2) }

/-- No call has taken a step. -/
def AssignRace.start (w : World) (calls : List AssignCall) : AssignRace where
  world := w
  calls := calls.map fun c => (c, .waiting)

/-- **Two steps in a row are `assign`.** -/
theorem uninterrupted_assign (py : Python) (id : Uuid) (w : World) (c : AssignCall)
    {user : Option User} (hauth : (Credentials.bearer c.userId).user w.db = .ok user) :
    run (claimStep py id) (.start w [c]) [0, 0]
      = { world := (assign py w user (some id) c.fresh).1
          calls := [(c, .answered (assign py w user (some id) c.fresh).2)] } := by
  unfold assign
  cases hread : readAssign w.db user (some id) with
  | error response =>
      simp [claimStep, AssignRace.start, AssignCall.step, AssignCall.load, hauth, hread]
  | ok ur =>
      obtain ⟨u, r⟩ := ur
      simp only [run_cons, run_nil, claimStep, AssignRace.start, List.map_cons, List.map_nil,
        List.getElem?_cons_zero, AssignCall.step, AssignCall.load, hauth, hread, List.set_cons_zero]
      rfl

/-! ## §2. Who has claimed the request. -/

/-- The `k`-th call is `c`, and it was answered with 200. -/
def SucceededAt (s : AssignRace) (k : Nat) (c : AssignCall) : Prop :=
  ∃ response, s.calls[k]? = some (c, .answered response) ∧ response.status = 200

/-- The status of the answer, once there is one. -/
def AssignPhase.status : AssignPhase → Option Nat
  | .answered response => some response.status
  | _ => none

theorem succeededAt_of_status {s : AssignRace} {k : Nat}
    (h : (s.calls[k]?).bind (fun call => call.2.status) = some 200) : ∃ c, SucceededAt s k c := by
  obtain ⟨⟨c, phase⟩, hk, hstatus⟩ := Option.bind_eq_some_iff.mp h
  cases phase with
  | waiting => exact absurd hstatus (by simp [AssignPhase.status])
  | loaded user r => exact absurd hstatus (by simp [AssignPhase.status])
  | answered response =>
      injection hstatus with hstatus
      exact ⟨c, response, hk, hstatus⟩

/-- **The request is claimed once**: at most one call has succeeded, and the request is stored as
assigned to its user. -/
def ClaimedOnce (id : Uuid) (s : AssignRace) : Prop :=
  ∀ k c, SucceededAt s k c → (∀ k' c', SucceededAt s k' c' → k' = k)
    ∧ (s.world.db.serviceRequests.find? id).map (·.assignedTo) = some (some c.userId)

/-- A call that is about to save comes before any success. -/
def SavesUnclaimed (s : AssignRace) (k : Nat) : Prop :=
  ∀ c user r, s.calls[k]? = some (c, .loaded user r) → ∀ k' c', ¬ SucceededAt s k' c'

/-- The users differ, and what a call has loaded is its caller and the request, which is there. -/
structure InOrder (id : Uuid) (s : AssignRace) : Prop where
  users : (s.calls.map fun call => call.1.userId).Nodup
  loaded : ∀ (k : Nat) (c : AssignCall) (user : User) (r : ServiceRequest),
    s.calls[k]? = some (c, .loaded user r) → user.id = c.userId ∧ r.id = id ∧ s.world.db.serviceRequests.Has id

theorem InOrder.eq_of_userId {id : Uuid} {s : AssignRace} (h : InOrder id s) {k k' : Nat}
    {c c' : AssignCall} {p p' : AssignPhase} (hk : s.calls[k]? = some (c, p))
    (hk' : s.calls[k']? = some (c', p')) (hsame : c.userId = c'.userId) : k = k' := by
  have hlt : k < (s.calls.map fun call => call.1.userId).length := by
    rw [List.length_map]
    exact (List.getElem?_eq_some_iff.mp hk).1
  refine (List.getElem?_inj hlt h.users).mp ?_
  rw [List.getElem?_map, List.getElem?_map, hk, hk', Option.map_some, Option.map_some, hsame]

/-! ## §3. One step. -/

/-- A request that is not found is not answered with 200. -/
theorem getRequest_error {db : Db} {user : Option User} {pk : Option Uuid} {response : Response}
    (h : getRequest db user pk = .error response) : response.status ≠ 200 := by
  unfold getRequest at h
  split at h
  · split at h
    · injection h with h
      rw [← h]
      show (404 : Nat) ≠ 200
      decide
    · split at h
      · exact absurd h (by simp)
      · injection h with h
        rw [← h]
        decide
  · injection h with h
    rw [← h]
    decide

/-- What the load refuses is not answered with 200. -/
theorem load_answered {db : Db} {id : Uuid} {c : AssignCall} {response : Response}
    (h : c.load db id = .answered response) : response.status ≠ 200 := by
  unfold AssignCall.load at h
  split at h
  next refusal hauth =>
    injection h with h
    rw [← h]
    unfold Credentials.user at hauth
    simp only at hauth
    split at hauth
    · injection hauth with hauth
      rw [← hauth]
      decide
    · split at hauth
      · exact absurd hauth (by simp)
      · injection hauth with hauth
        rw [← hauth]
        decide
  next user hauth =>
    split at h
    next refusal hread =>
      injection h with h
      rw [← h]
      unfold readAssign at hread
      split at hread
      next refusal' hget =>
        injection hread with hread
        rw [← hread]
        exact getRequest_error hget
      · split at hread
        · exact absurd hread (by simp)
        · injection hread with hread
          rw [← hread]
          decide
    · exact absurd h (by simp)

/-- What the load loads: the caller and the request. -/
theorem load_loaded {db : Db} {id : Uuid} {c : AssignCall} {user : User} {r : ServiceRequest}
    (h : c.load db id = .loaded user r) :
    user.id = c.userId ∧ r.id = id ∧ db.serviceRequests.Has id := by
  unfold AssignCall.load at h
  split at h
  · exact absurd h (by simp)
  next found hauth =>
    split at h
    · exact absurd h (by simp)
    next u x hread =>
      injection h with hu hx
      subst hu hx
      obtain ⟨hfound, hmem, hpk, _⟩ := getRequest_ok (readAssign_ok hread).1
      injection hpk with hpk
      have hauth := Credentials.authenticate_caller hauth
      rw [hfound] at hauth
      refine ⟨?_, hpk.symm, _, hmem, hpk.symm⟩
      exact Table.key_of_find? (authenticate_token_eq_some.mp hauth).1

/-- **The save** assigns the request to the caller, whoever has it. -/
theorem assignedTo_finishAssign (py : Python) {w : World} (user : User) {r : ServiceRequest}
    (h : w.db.serviceRequests.Has r.id) (fresh : ActionFresh) :
    ((finishAssign py w user r fresh).1.db.serviceRequests.find? r.id).map (·.assignedTo)
      = some (some user.id) := by
  obtain ⟨row, hrow⟩ := Table.has_iff_find?.mp h
  obtain ⟨hmem, hid⟩ := Table.find?_eq_some_iff.mp hrow
  obtain ⟨db', hsave⟩ := Db.saveRequestColumns_of_mem (.assign user.id) hmem
  obtain ⟨_, hrequests, _⟩ := Db.saveRequestColumns_eq_some hsave
  have hafter : (db'.serviceRequests.find? r.id).map (·.assignedTo) = some (some user.id) := by
    rw [hrequests, Table.find?_updateWhere, hrow, hid]
    simp [hid, RequestWrite.assign]
  rw [hid] at hsave
  unfold finishAssign saveAssign
  rw [hsave]
  simp only
  split
  · exact hafter
  · exact hafter

/-! ### What a step does to the calls. -/

section
variable {id : Uuid} {s : AssignRace} {k : Nat}

theorem claimStep_of_none (h : s.calls[k]? = none) : claimStep py id s k = s := by
  rw [claimStep, h]

theorem claimStep_of_some {c : AssignCall} {phase : AssignPhase} (h : s.calls[k]? = some (c, phase)) :
    claimStep py id s k
      = { world := (c.step py id s.world phase).1
          calls := s.calls.set k (c, (c.step py id s.world phase).2) } := by
  rw [claimStep, h]

/-- Another call stands where it stood. -/
theorem getElem?_claimStep_of_ne {k' : Nat} (hne : k' ≠ k) :
    (claimStep py id s k).calls[k']? = s.calls[k']? := by
  cases h : s.calls[k]? with
  | none => rw [claimStep_of_none h]
  | some call =>
      rw [claimStep_of_some h]
      exact List.getElem?_set_ne fun heq => hne heq.symm

theorem getElem?_claimStep_self {c : AssignCall} {phase : AssignPhase}
    (h : s.calls[k]? = some (c, phase)) :
    (claimStep py id s k).calls[k]? = some (c, (c.step py id s.world phase).2) := by
  rw [claimStep_of_some h]
  exact List.getElem?_set_self (List.getElem?_eq_some_iff.mp h).1

/-- The users are those of the calls. -/
theorem userIds_claimStep :
    (claimStep py id s k).calls.map (fun call => call.1.userId)
      = s.calls.map fun call => call.1.userId := by
  cases h : s.calls[k]? with
  | none => rw [claimStep_of_none h]
  | some call =>
      rw [claimStep_of_some h]
      obtain ⟨hlt, hcall⟩ := List.getElem?_eq_some_iff.mp h
      have hlt' : k < (s.calls.map fun call => call.1.userId).length := by
        rw [List.length_map]
        exact hlt
      have hsame : (s.calls.map fun call => call.1.userId)[k] = call.1.userId := by
        rw [List.getElem_map, hcall]
      rw [List.map_set, ← hsame, List.set_getElem_self hlt']

/-- Success is not taken back. -/
theorem SucceededAt.step {k' : Nat} {c : AssignCall} (h : SucceededAt s k' c) :
    SucceededAt (claimStep py id s k) k' c := by
  obtain ⟨response, hk', hstatus⟩ := h
  refine ⟨response, ?_, hstatus⟩
  by_cases heq : k' = k
  · subst heq
    exact getElem?_claimStep_self hk'
  · rw [getElem?_claimStep_of_ne heq]
    exact hk'

/-- A success after a step was one before, or is that of a save. -/
theorem SucceededAt.cases {k' : Nat} {c : AssignCall}
    (h : SucceededAt (claimStep py id s k) k' c) :
    SucceededAt s k' c ∨ (k' = k ∧ ∃ user r, s.calls[k]? = some (c, .loaded user r)) := by
  obtain ⟨response, hk', hstatus⟩ := h
  by_cases heq : k' = k
  · subst heq
    cases hk : s.calls[k']? with
    | none =>
        rw [claimStep_of_none hk, hk] at hk'
        exact absurd hk' (by simp)
    | some call =>
        obtain ⟨d, phase⟩ := call
        rw [getElem?_claimStep_self hk] at hk'
        injection hk' with hk'
        injection hk' with hcall hphase
        subst hcall
        cases phase with
        | waiting => exact absurd hstatus (load_answered hphase)
        | loaded user r => exact .inr ⟨rfl, user, r, rfl⟩
        | answered response' =>
            exact .inl ⟨response, hk.trans (congrArg (fun p => some (d, p)) hphase), hstatus⟩
  · rw [getElem?_claimStep_of_ne heq] at hk'
    exact .inl ⟨response, hk', hstatus⟩

/-- A step that saves nothing leaves the world. -/
theorem world_claimStep (h : ∀ c user r, s.calls[k]? ≠ some (c, .loaded user r)) :
    (claimStep py id s k).world = s.world := by
  cases hk : s.calls[k]? with
  | none => rw [claimStep_of_none hk]
  | some call =>
      obtain ⟨c, phase⟩ := call
      rw [claimStep_of_some hk]
      cases phase with
      | waiting => rfl
      | loaded user r => exact absurd hk (h c user r)
      | answered response => rfl

/-- The request stays in the table. -/
theorem has_claimStep (hs : InOrder id s) (h : s.world.db.serviceRequests.Has id) :
    (claimStep py id s k).world.db.serviceRequests.Has id := by
  by_cases hsaves : ∃ c user r, s.calls[k]? = some (c, .loaded user r)
  · obtain ⟨c, user, r, hk⟩ := hsaves
    obtain ⟨_, hid, hhas⟩ := hs.loaded k c user r hk
    rw [← hid] at hhas
    have hassigned := assignedTo_finishAssign py user hhas c.fresh
    obtain ⟨row, hrow, _⟩ := Option.map_eq_some_iff.mp hassigned
    rw [claimStep_of_some hk]
    exact Table.has_iff_find?.mpr ⟨row, hid ▸ hrow⟩
  · rw [world_claimStep fun c user r hk => hsaves ⟨c, user, r, hk⟩]
    exact h

theorem inOrder_step (s : AssignRace) (k : Nat) (hs : InOrder id s) :
    InOrder id (claimStep py id s k) where
  users := by
    rw [userIds_claimStep]
    exact hs.users
  loaded := by
    intro k' c user r hk'
    by_cases heq : k' = k
    · subst heq
      cases hk : s.calls[k']? with
      | none =>
          rw [claimStep_of_none hk, hk] at hk'
          exact absurd hk' (by simp)
      | some call =>
          obtain ⟨d, phase⟩ := call
          rw [getElem?_claimStep_self hk] at hk'
          injection hk' with hk'
          injection hk' with hcall hphase
          subst hcall
          cases phase with
          | waiting =>
              obtain ⟨huser, hid, hhas⟩ := load_loaded hphase
              exact ⟨huser, hid, has_claimStep hs hhas⟩
          | loaded user' r' => exact absurd hphase (by simp [AssignCall.step])
          | answered response => exact absurd hphase (by simp [AssignCall.step])
    · rw [getElem?_claimStep_of_ne heq] at hk'
      obtain ⟨huser, hid, hhas⟩ := hs.loaded k' c user r hk'
      exact ⟨huser, hid, has_claimStep hs hhas⟩

/-- **One step** keeps the request claimed once exactly if it does not save after a success. -/
theorem claimedOnce_step_iff (hs : InOrder id s) (h : ClaimedOnce id s) :
    ClaimedOnce id (claimStep py id s k) ↔ SavesUnclaimed s k := by
  constructor
  · intro hafter c user r hk k' d hsucceeded
    -- the save takes the request away from the call that had succeeded
    obtain ⟨huser, hid, hhas⟩ := hs.loaded k c user r hk
    obtain ⟨_, hassigned⟩ := hafter k' d hsucceeded.step
    have hsaved := assignedTo_finishAssign py user (hid ▸ hhas) c.fresh
    rw [claimStep_of_some hk] at hassigned
    rw [hid] at hsaved
    have hsame := hassigned.symm.trans hsaved
    injection hsame with hsame
    injection hsame with hsame
    obtain ⟨response, hk', _⟩ := hsucceeded
    have heq := hs.eq_of_userId hk hk' (huser.symm.trans hsame.symm)
    subst heq
    rw [hk] at hk'
    exact absurd hk' (by simp)
  · intro hfirst k' d hsucceeded
    by_cases hsaves : ∃ c user r, s.calls[k]? = some (c, .loaded user r)
    · -- no call had succeeded, so it is the one that saves
      obtain ⟨c, user, r, hk⟩ := hsaves
      have hnone := hfirst c user r hk
      have hself : ∀ {j e}, SucceededAt (claimStep py id s k) j e →
          j = k ∧ ∃ user r, s.calls[k]? = some (e, .loaded user r) := by
        intro j e hj
        rcases hj.cases with hj | hj
        · exact absurd hj (hnone j e)
        · exact hj
      obtain ⟨rfl, user', r', hk'⟩ := hself hsucceeded
      refine ⟨fun j e hj => (hself hj).1, ?_⟩
      obtain ⟨huser, hid, hhas⟩ := hs.loaded k' d user' r' hk'
      have hsaved := assignedTo_finishAssign py user' (hid ▸ hhas) d.fresh
      rw [claimStep_of_some hk', ← huser]
      rw [hid] at hsaved
      exact hsaved
    · have hsaves : ∀ c user r, s.calls[k]? ≠ some (c, .loaded user r) :=
        fun c user r hk => hsaves ⟨c, user, r, hk⟩
      have hback : ∀ {j e}, SucceededAt (claimStep py id s k) j e → SucceededAt s j e := by
        intro j e hj
        rcases hj.cases with hj | ⟨_, user, r, hk⟩
        · exact hj
        · exact absurd hk (hsaves e user r)
      obtain ⟨honly, hassigned⟩ := h k' d (hback hsucceeded)
      refine ⟨fun j e hj => honly j e (hback hj), ?_⟩
      rw [world_claimStep hsaves]
      exact hassigned

end

/-! ## §4. Interleavings. -/

/-- Before the first step nothing is loaded and nobody has succeeded. -/
theorem phase_start {w : World} {calls : List AssignCall} {k : Nat} {c : AssignCall}
    {phase : AssignPhase} (h : (AssignRace.start w calls).calls[k]? = some (c, phase)) :
    phase = .waiting := by
  unfold AssignRace.start at h
  rw [List.getElem?_map] at h
  obtain ⟨_, _, hcall⟩ := Option.map_eq_some_iff.mp h
  injection hcall with _ hphase
  exact hphase.symm

/-- **A request is claimed once, exactly.**  In every interleaving of the loads and saves of any
number of `assign` calls by distinct users on one request, at most one call has succeeded at any
time and the request is assigned to its user, if and only if no call saves after another has
succeeded. -/
theorem claimed_once_iff (py : Python) (id : Uuid) (w : World) (calls : List AssignCall)
    (hdistinct : (calls.map (·.userId)).Nodup) (schedule : List Nat) :
    AllStates (claimStep py id) (ClaimedOnce id) (.start w calls) schedule
      ↔ AllSteps (claimStep py id) SavesUnclaimed (.start w calls) schedule := by
  refine allStates_iff_allSteps inOrder_step (fun _ _ hs h => claimedOnce_step_iff hs h) ?_ ?_
    schedule
  · refine ⟨?_, fun k c user r hk => absurd (phase_start hk) (by simp)⟩
    show ((calls.map fun c => (c, AssignPhase.waiting)).map fun call => call.1.userId).Nodup
    rw [List.map_map]
    exact hdistinct
  · rintro k c ⟨response, hk, _⟩
    exact absurd (phase_start hk) (by simp)

/-! ### A manager and an admin -/

/-- The demo desk with an admin. -/
def demoOffice : World where
  db :=
    { demoDesk.db with
      users := ⟨[demoGuest, demoUser 2 "staff@hotel.com" .staff,
        demoUser 3 "manager@hotel.com" .manager, demoUser 4 "other@hotel.com" .guest,
        demoUser 6 "admin@hotel.com" .admin], by decide +kernel⟩
      user_email := by decide +kernel
      booking_ok := by decide +kernel
      booking_code := by decide +kernel
      request_ok := by decide +kernel
      session_ok := by decide +kernel }
  log := []

def managerAndAdmin : List AssignCall := [⟨3, demoAction⟩, ⟨6, demoAction⟩]

/-- The manager loads and saves before the admin comes. -/
theorem claimed_once_iff_manager :
    AllStates (claimStep plainPython 30) (ClaimedOnce 30) (.start demoOffice managerAndAdmin) [0, 0]
      ↔ AllSteps (claimStep plainPython 30) SavesUnclaimed (.start demoOffice managerAndAdmin)
          [0, 0] :=
  claimed_once_iff plainPython 30 demoOffice managerAndAdmin (by decide) [0, 0]

/-- Both load the pending request, both save, and both are answered with 200. -/
theorem pending_request_is_claimed_twice :
    ¬ ∀ (py : Python) (id : Uuid) (w : World) (calls : List AssignCall),
      (calls.map (·.userId)).Nodup →
      (w.db.serviceRequests.find? id).map (·.status) = some .pending →
      ∀ schedule, AllStates (claimStep py id) (ClaimedOnce id) (.start w calls) schedule := by
  intro h
  have hlast := (h plainPython 30 demoOffice managerAndAdmin (by decide) (by decide +kernel)
    [0, 1, 0, 1]).last
  obtain ⟨c, hmanager⟩ := succeededAt_of_status (s := run (claimStep plainPython 30)
    (.start demoOffice managerAndAdmin) [0, 1, 0, 1]) (k := 0) (by decide +kernel)
  obtain ⟨d, hadmin⟩ := succeededAt_of_status (s := run (claimStep plainPython 30)
    (.start demoOffice managerAndAdmin) [0, 1, 0, 1]) (k := 1) (by decide +kernel)
  exact absurd ((hlast 0 c hmanager).1 1 d hadmin) (by decide)

end HotelAgent
