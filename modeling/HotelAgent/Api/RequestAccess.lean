/-
  HotelAgent.Api.RequestAccess — who sees and who moves a service request.

  `get_queryset` is meant to show a guest the guest's own requests, staff the
  requests that are pending or their own, managers and admins all of them.  The
  staff's filter is written with a name that the module does not bind.

  Moving a request (its status, who it is assigned to, when it was completed) is
  the personnel's business.  `assign` checks the role; `complete`, PUT and PATCH
  leave it to `IsOwnerOrStaff`, which lets the owner through.

  Main results:
    * `roleBasedVisibility_iff` — every user but staff sees exactly the intended
      requests; staff get an exception.
    * `unmoved_iff_handsOff` — a run of guests' requests moves nothing if and
      only if no guest completes an own request or writes another status.
-/
import HotelAgent.Api.ServiceRequests
import HotelAgent.Lib.Run

namespace HotelAgent

open Lib

/-! ## §1. What a role is meant to see. -/

/-- The rows intended for a user. -/
def VisibleTo (user : User) (r : ServiceRequest) : Bool :=
  match user.role with
  | .guest => r.guestId = user.id
  | .staff => r.assignedTo = some user.id ∨ r.status = .pending
  | .manager => true
  | .admin => true

/-- **Visibility by role**, and what it gives the staff. -/
structure RoleBasedVisibility (db : Db) (user : User) : Prop where
  queryset : ∃ rows, requestQueryset db (some user) = .ok rows
    ∧ rows.Perm (db.serviceRequests.rows.filter (VisibleTo user))
  /-- A member of the staff takes any pending request. -/
  assigns : user.role = .staff → ∀ r ∈ db.serviceRequests, r.status = .pending →
    ∀ py log fresh, fresh.produce = .accepted →
      (assign py ⟨db, log⟩ (some user) (some r.id) fresh).2.status = 200
  /-- And completes any request of theirs. -/
  completes : user.role = .staff → ∀ r ∈ db.serviceRequests, r.assignedTo = some user.id →
    ∀ py log fresh, fresh.produce = .accepted →
      (complete py ⟨db, log⟩ (some user) (some r.id) (.obj []) fresh).2.status = 200

/-- The queryset, role by role: an exception for staff, the intended rows for
everybody else. -/
theorem requestQueryset_eq (db : Db) (user : User) :
    requestQueryset db (some user)
      = if user.role = .staff then .error (.nameError (txt "models"))
        else .ok (newestFirst ServiceRequest.createdAt
          (db.serviceRequests.rows.filter (VisibleTo user))) := by
  unfold requestQueryset VisibleTo
  cases hrole : user.role with
  | guest =>
      simp only [hrole]
      rfl
  | staff =>
      simp only [hrole, globalName_models]
      rfl
  | manager =>
      simp only [hrole]
      rfl
  | admin =>
      simp only [hrole]
      rfl

/-- **Visibility holds for everybody but staff.** -/
theorem roleBasedVisibility_iff (db : Db) (user : User) :
    RoleBasedVisibility db user ↔ user.role ≠ .staff := by
  have hqs := requestQueryset_eq db user
  constructor
  · intro h hstaff
    obtain ⟨rows, hrows, _⟩ := h.queryset
    rw [hqs, if_pos hstaff] at hrows
    exact absurd hrows (by simp)
  · intro hrole
    rw [if_neg hrole] at hqs
    exact
      { queryset := ⟨_, hqs, List.perm_insertionSort _ _⟩
        assigns := fun hstaff => absurd hstaff hrole
        completes := fun hstaff => absurd hstaff hrole }

/-- The demo staff's queryset raises `NameError`, although a request is pending. -/
theorem staff_see_nothing : ¬ ∀ db user, RoleBasedVisibility db user := by
  intro h
  obtain ⟨rows, hrows, _⟩ := (h demoDesk.db (demoUser 2 "staff@hotel.com" .staff)).queryset
  have herror : requestQueryset demoDesk.db (some (demoUser 2 "staff@hotel.com" .staff))
      = .error (.nameError (txt "models")) := by
    rw [requestQueryset_eq]
    rfl
  rw [herror] at hrows
  exact absurd hrows (by simp)

/-! ## §2. What guests reach. -/

/-- The guest's own request with the lookup value `pk`. -/
def OwnRequest (db : Db) (user : User) (pk : Option Uuid) (r : ServiceRequest) : Prop :=
  r ∈ db.serviceRequests ∧ pk = some r.id ∧ r.guestId = user.id

/-- There is at most one. -/
theorem OwnRequest.unique {db : Db} {user : User} {pk : Option Uuid} {r s : ServiceRequest}
    (hr : OwnRequest db user pk r) (hs : OwnRequest db user pk s) : r = s := by
  have hid := hr.2.1.symm.trans hs.2.1
  injection hid with hid
  exact Table.eq_of_key_eq hr.1 hs.1 hid

/-- **A guest reaches exactly the own requests.** -/
theorem getRequest_guest_iff {db : Db} {user : User} {pk : Option Uuid} {r : ServiceRequest}
    (hrole : user.role = .guest) :
    getRequest db (some user) pk = .ok (user, r) ↔ OwnRequest db user pk r := by
  constructor
  · intro h
    obtain ⟨_, hmem, hpk, hown, _⟩ := getRequest_ok h
    exact ⟨hmem, hpk, hown hrole⟩
  · rintro ⟨hmem, rfl, hown⟩
    -- the row is visible to its guest, and `IsOwnerOrStaff` lets the guest through
    have hvis : VisibleTo user r = true := by
      unfold VisibleTo
      rw [hrole]
      simpa using hown
    have hqs := requestQueryset_eq db user
    rw [if_neg (by rw [hrole]; decide)] at hqs
    -- the row is in the queryset, and no other row there has its key
    have hfind : (newestFirst ServiceRequest.createdAt
        (db.serviceRequests.rows.filter (VisibleTo user))).find? (fun x => x.id = r.id)
          = some r := by
      cases hf : (newestFirst ServiceRequest.createdAt
          (db.serviceRequests.rows.filter (VisibleTo user))).find? (fun x => x.id = r.id) with
      | none =>
          have := List.find?_eq_none.mp hf r
            (mem_newestFirst.mpr (List.mem_filter.mpr ⟨hmem, hvis⟩))
          simp at this
      | some x =>
          have hx := List.mem_of_find?_eq_some hf
          rw [mem_newestFirst, List.mem_filter] at hx
          have hid : x.id = r.id := by simpa using List.find?_some hf
          rw [Table.eq_of_key_eq hx.1 hmem hid]
    have hperm : isOwnerOrStaff user r.guestId = true := by
      unfold isOwnerOrStaff
      simp [hown]
    unfold getRequest
    simp only [hqs, Option.bind_some, hfind, hperm, if_true]

/-! ## §3. Requests of guests. -/

/-- A request on the service-request endpoints. -/
structure DeskCall where
  caller : Caller
  action : RequestAction

/-- Authentication, then the view; without a valid token there is no view. -/
def deskStep (py : Python) (w : World) (i : DeskCall) : World :=
  match authenticate w.db i.caller with
  | none => w
  | some user => (i.action.handle py w user).1

/-- The columns that only the personnel moves, row by row. -/
def movedColumns (r : ServiceRequest) : Uuid × RequestStatus × Option Uuid × Option Instant :=
  (r.id, r.status, r.assignedTo, r.completedAt)

/-- No service request has moved between the two states. -/
def Unmoved (before after : Db) : Prop :=
  after.serviceRequests.rows.map movedColumns = before.serviceRequests.rows.map movedColumns

/-- Whoever calls is a guest. -/
def CalledByGuest (users : Table User.id) (i : DeskCall) : Prop :=
  ∃ userId, i.caller = .token userId ∧ ∀ u, users.find? userId = some u → u.role = .guest

/-- **Hands off**: an own request is completed only where it was completed at that
very moment already, and its status is written only where it is the same. -/
def HandsOff (py : Python) (db : Db) (user : User) : RequestAction → Prop
  | .assign _ _ => True
  | .complete pk data fresh =>
    ∀ r fields, OwnRequest db user pk r → data = .obj fields →
      (notesText py (dictGet fields (txt "notes") (.str []))).isSome →
        r.status = .completed ∧ r.completedAt = some fresh.now
  | .update pk part body =>
    ∀ r, OwnRequest db user pk r → body.errors db part = [] →
      ∀ status, body.status = some status → status = r.status

/-- A write over one row moves nothing if and only if it keeps that row's columns. -/
theorem unmoved_of_wrote {db db' : Db} {r r' : ServiceRequest} (h : db.Wrote db' r r') :
    Unmoved db db' ↔ movedColumns r' = movedColumns r := by
  unfold Unmoved
  rw [h.serviceRequests]
  exact Table.map_put_eq_iff h.mem h.id_eq

/-- An update moves a request exactly by writing another status. -/
theorem movedColumns_applyTo {body : RequestBody} {r : ServiceRequest} :
    movedColumns (body.applyTo r) = movedColumns r
      ↔ ∀ status, body.status = some status → status = r.status := by
  have hcolumns : movedColumns (body.applyTo r)
      = (r.id, body.status.getD r.status, r.assignedTo, r.completedAt) := rfl
  rw [hcolumns]
  unfold movedColumns
  cases body.status with
  | none => simp
  | some status => simp

/-- A guest who writes nothing has no such request, or the request fails. -/
theorem handsOff_of_rewrites_none {py : Python} {db : Db} {user : User}
    (hrole : user.role = .guest) {action : RequestAction}
    (hwrites : action.rewrites py db (some user) = none) : HandsOff py db user action := by
  cases action with
  | assign pk fresh => trivial
  | complete pk data fresh =>
      intro r fields hown hdata hnotes
      have hget := (getRequest_guest_iff hrole).mpr hown
      simp only [RequestAction.rewrites, readComplete, hget, hdata,
        Option.map_eq_none_iff] at hwrites
      rw [hwrites] at hnotes
      exact absurd hnotes (by simp)
  | update pk part body =>
      intro r hown herrors
      have hget := (getRequest_guest_iff hrole).mpr hown
      simp only [RequestAction.rewrites, readUpdateRequest, hget, herrors] at hwrites
      exact absurd hwrites (by simp)

/-- A guest who writes a row keeps hands off exactly if the row keeps its columns. -/
theorem kept_iff_handsOff {py : Python} {db : Db} {user : User} (hrole : user.role = .guest)
    {action : RequestAction} {r r' : ServiceRequest}
    (hwrites : action.rewrites py db (some user) = some (r, r')) :
    movedColumns r' = movedColumns r ↔ HandsOff py db user action := by
  have hown : ∀ {pk : Option Uuid} {u : User}, getRequest db (some user) pk = .ok (u, r) →
      OwnRequest db user pk r := by
    intro pk u hget
    obtain ⟨hu, _⟩ := getRequest_ok hget
    injection hu with hu
    subst hu
    exact (getRequest_guest_iff hrole).mp hget
  cases action with
  | assign pk fresh =>
      -- the role check stops a guest
      obtain ⟨u, hread, _⟩ := rewrites_assign hwrites
      obtain ⟨hget, hstaff⟩ := readAssign_ok hread
      obtain ⟨hu, _⟩ := getRequest_ok hget
      injection hu with hu
      rw [← hu, hrole] at hstaff
      exact absurd hstaff (by decide)
  | complete pk data fresh =>
      obtain ⟨notes, text, hread, htext, rfl⟩ := rewrites_complete hwrites
      obtain ⟨_, hget⟩ := readComplete_ok hread
      obtain ⟨fields, hdata, hnotes⟩ := readComplete_notes hread
      constructor
      · intro hkept y fields hy _ _
        rw [hy.unique (hown hget)]
        simp only [movedColumns, RequestWrite.complete, Prod.mk.injEq, true_and] at hkept
        exact ⟨hkept.1.symm, hkept.2.symm⟩
      · intro hoff
        obtain ⟨hstatus, hat⟩ := hoff r fields (hown hget) hdata (by
          rw [← hnotes, htext]
          rfl)
        simp only [movedColumns, RequestWrite.complete, hstatus, hat]
  | update pk part body =>
      obtain ⟨hread, rfl⟩ := rewrites_update hwrites
      obtain ⟨⟨_, hget⟩, herrors⟩ := readUpdateRequest_ok hread
      rw [movedColumns_applyTo]
      constructor
      · intro hkept y hy _
        rw [hy.unique (hown hget)]
        exact hkept
      · intro hoff
        exact hoff r (hown hget) herrors

/-- **One request of a guest** moves nothing if and only if it keeps hands off. -/
theorem unmoved_handle_iff {py : Python} {w : World} {user : User}
    (hrole : user.role = .guest) (action : RequestAction) :
    Unmoved w.db (action.handle py w (some user)).1.db ↔ HandsOff py w.db user action := by
  cases hwrites : action.rewrites py w.db (some user) with
  | none =>
      have hunmoved : Unmoved w.db (action.handle py w (some user)).1.db := by
        rw [handle_of_rewrites_none hwrites]
        rfl
      exact iff_of_true hunmoved (handsOff_of_rewrites_none hrole hwrites)
  | some rows =>
      obtain ⟨r, r'⟩ := rows
      rw [unmoved_of_wrote (handle_of_rewrites_some hwrites)]
      exact kept_iff_handsOff hrole hwrites

/-- No request changes the users. -/
theorem users_deskStep (py : Python) (w : World) (i : DeskCall) :
    (deskStep py w i).db.users = w.db.users := by
  unfold deskStep
  split
  · rfl
  next user _ =>
    cases hwrites : i.action.rewrites py w.db user with
    | none => rw [handle_of_rewrites_none hwrites]
    | some rows => exact (handle_of_rewrites_some hwrites).users

/-- Without a user there is nothing to see, and nothing to write. -/
theorem rewrites_anonymous (py : Python) (db : Db) (action : RequestAction) :
    action.rewrites py db none = none := by
  cases action with
  | assign pk fresh => rfl
  | complete pk data fresh => rfl
  | update pk part body => rfl

theorem unmoved_deskStep_iff {py : Python} {w : World} {i : DeskCall}
    (hi : CalledByGuest w.db.users i) :
    Unmoved w.db (deskStep py w i).db
      ↔ ∀ u, authenticate w.db i.caller = some (some u) → HandsOff py w.db u i.action := by
  obtain ⟨userId, hcaller, hguest⟩ := hi
  unfold deskStep
  cases hauth : authenticate w.db i.caller with
  | none =>
      refine ⟨fun _ u hu => absurd hu (by simp), fun _ => rfl⟩
  | some user =>
      cases user with
      | none =>
          refine ⟨fun _ u hu => absurd hu (by simp), fun _ => ?_⟩
          show Unmoved w.db (i.action.handle py w none).1.db
          rw [handle_of_rewrites_none (rewrites_anonymous py w.db i.action)]
          rfl
      | some user =>
          rw [hcaller] at hauth
          have hfind := (authenticate_token_eq_some.mp hauth).1
          have hstep : Unmoved w.db (i.action.handle py w (some user)).1.db
              ↔ HandsOff py w.db user i.action := unmoved_handle_iff (hguest user hfind) i.action
          constructor
          · intro hun u hu
            injection hu with hu
            injection hu with hu
            rw [← hu]
            exact hstep.mp hun
          · intro hoff
            exact hstep.mpr (hoff user rfl)

/-- **Only personnel moves requests, exactly.**  A run of guests' requests leaves
every status, assignee and completion time if and only if each keeps hands off. -/
theorem unmoved_iff_handsOff (py : Python) (w : World) (is : List DeskCall)
    (hguests : ∀ i ∈ is, CalledByGuest w.db.users i) :
    AllStates (deskStep py) (fun w' => Unmoved w.db w'.db) w is
      ↔ AllSteps (deskStep py) (fun w' i => ∀ u, authenticate w'.db i.caller = some (some u) →
          HandsOff py w'.db u i.action) w is := by
  refine allStates_iff_allSteps_of_inputs (I := CalledByGuest w.db.users)
    (P := fun w' : World => Unmoved w.db w'.db) (K := fun w' : World => w'.db.users = w.db.users)
    ?_ ?_ rfl rfl is hguests
  · intro w' i _ husers
    rw [users_deskStep]
    exact husers
  · intro w' i hi husers hun
    rw [← husers] at hi
    rw [← unmoved_deskStep_iff hi]
    -- so far nothing has moved, so the last step is compared with the start
    unfold Unmoved at hun ⊢
    rw [hun]

/-- A guest tries to take the own request: nothing moves. -/
theorem unmoved_assign :
    AllStates (deskStep plainPython) (fun w' => Unmoved demoDesk.db w'.db) demoDesk
      [⟨.token 1, .assign (some 30) demoAction⟩] := by
  refine (unmoved_iff_handsOff plainPython demoDesk _ ?_).mpr ⟨fun _ _ => trivial, trivial⟩
  intro i hi
  rw [List.mem_singleton] at hi
  subst hi
  refine ⟨1, rfl, fun u hu => ?_⟩
  have hguest : demoDesk.db.users.find? 1 = some demoGuest := by decide +kernel
  rw [hguest] at hu
  injection hu with hu
  rw [← hu]
  rfl

/-- The demo guest completes the own pending request. -/
theorem guest_completes :
    ¬ ∀ (py : Python) (w : World) (is : List DeskCall),
      (∀ i ∈ is, CalledByGuest w.db.users i) →
        AllStates (deskStep py) (fun w' => Unmoved w.db w'.db) w is := by
  intro h
  have hrun := h plainPython demoDesk [⟨.token 1, .complete (some 30) (.obj []) demoAction⟩] (by
    intro i hi
    rw [List.mem_singleton] at hi
    subst hi
    refine ⟨1, rfl, fun u hu => ?_⟩
    have hguest : demoDesk.db.users.find? 1 = some demoGuest := by decide +kernel
    rw [hguest] at hu
    injection hu with hu
    rw [← hu]
    rfl)
  have hlast := hrun.last
  revert hlast
  unfold Unmoved
  decide +kernel

end HotelAgent
