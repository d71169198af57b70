/-
  HotelAgent.Api.GuestRuns — what a guest gets does not depend on other guests.

  A guest works with voice sessions and service requests while other guests, and
  clients without a token, book, talk, register and log in:

      guest      ──o────────o───o──────────o──▶   the same answers
      others     ────x──x──────────x──x──x────▶   whatever they do

  Main results:
    * `serve_own` — a request of the guest does the same, and is answered the same,
      in two databases that look the same to the guest.
    * `serve_other` — a request of somebody else leaves it looking the same.
    * `guests_do_not_interfere` — in any two runs with the same requests of the
      guest, the guest is given the same answers and is left with the same rows.
-/
import HotelAgent.Api.GuestViews
import HotelAgent.Lib.Noninterference

namespace HotelAgent

open Lib

variable {py : Python}

/-! ## §1. Answers. -/

/-- **What backends look at**: the columns of a row and the persons it names.  They order what they
are given. -/
structure Backends.Local {R : Type} (names : R → List Uuid) (B : Backends R) : Prop where
  keeps : ∀ query users users' rooms rooms' r, SameNames users users' (names r) →
    B.keeps query users' rooms' r = B.keeps query users rooms r
  orders : ∀ query users users' rooms rooms' rows, (∀ r ∈ rows, SameNames users users' (names r)) →
    B.orders query users' rooms' rows = B.orders query users rooms rows
  orders_mem : ∀ query users rooms rows, ∀ r ∈ B.orders query users rooms rows, r ∈ rows

/-- Whom a session names. -/
def VoiceSession.names (s : VoiceSession) : List Uuid := [s.guestId]

/-- Whom a service request names. -/
def ServiceRequest.names (r : ServiceRequest) : List Uuid := r.guestId :: r.assignedTo.toList

/-- The backends of sessions and service requests, for which no filter and no search is set up. -/
structure Deployment.Local (D : Deployment) : Prop where
  sessions : D.filters.sessions.Local VoiceSession.names
  requests : D.filters.requests.Local ServiceRequest.names

section
variable {R : Type} {names : R → List Uuid} {B : Backends R} {query : Query}
  {users users' : Table User.id} {rooms rooms' : Table Room.id} {rows : List R}

theorem Backends.Local.filter_eq (hB : B.Local names)
    (h : ∀ r ∈ rows, SameNames users users' (names r)) :
    rows.filter (B.keeps query users' rooms') = rows.filter (B.keeps query users rooms) :=
  List.filter_congr fun r hr => hB.keeps query users users' rooms rooms' r (h r hr)

theorem Backends.Local.find (hB : B.Local names)
    (h : ∀ r ∈ rows, SameNames users users' (names r)) (id : R → Uuid) (model : String)
    (pk : Option Uuid) :
    B.find query users' rooms' id model rows pk = B.find query users rooms id model rows pk := by
  unfold Backends.find
  rw [@Backends.Local.filter_eq R names B query users users' rooms rooms' rows hB h]

theorem Backends.Local.list (hB : B.Local names)
    (h : ∀ r ∈ rows, SameNames users users' (names r)) {render render' : R → Json}
    (hrender : ∀ r ∈ rows, render' r = render r) :
    B.list query users' rooms' render' rows = B.list query users rooms render rows := by
  have hkept : ∀ r ∈ rows.filter (B.keeps query users rooms), r ∈ rows :=
    fun r hr => (List.mem_filter.mp hr).1
  unfold Backends.list
  rw [@Backends.Local.filter_eq R names B query users users' rooms rooms' rows hB h,
    hB.orders query users users' rooms rooms' _ fun r hr => h r (hkept r hr)]
  split
  · rfl
  -- a page has rows of the queryset only, and those look the same
  · refine congrArg _ (List.map_congr_left fun r hr => hrender r (hkept r ?_))
    exact hB.orders_mem query users rooms _ r hr

end

/-- A brief is of who is identified. -/
theorem briefOf_eq {users users' : Table User.id} {id : Uuid}
    (h : (users'.find? id).map User.identity = (users.find? id).map User.identity) :
    briefOf users' id = briefOf users id := by
  have hbrief : ∀ table : Table User.id, briefOf table id
      = orNull userBrief ((table.find? id).map User.identity) := by
    intro table
    unfold briefOf
    cases table.find? id with
    | none => rfl
    | some u => rfl
  rw [hbrief, hbrief, h]

theorem sessionJson_eq {users users' : Table User.id} {s : VoiceSession}
    (h : SameNames users users' s.names) : sessionJson users' s = sessionJson users s := by
  unfold sessionJson
  rw [briefOf_eq (h s.guestId List.mem_cons_self)]

theorem requestJson_eq {users users' : Table User.id} {r : ServiceRequest}
    (h : SameNames users users' r.names) : requestJson users' r = requestJson users r := by
  have hassigned : orNull (briefOf users') r.assignedTo = orNull (briefOf users) r.assignedTo := by
    -- nobody is null in both
    cases ha : r.assignedTo with
    | none => rfl
    | some a =>
        show briefOf users' a = briefOf users a
        refine briefOf_eq (h a (List.mem_cons_of_mem _ ?_))
        rw [ha]
        exact List.mem_cons_self
  unfold requestJson
  rw [briefOf_eq (h r.guestId List.mem_cons_self), hassigned]

section
variable {guest : User} {known : List User} {db db' : Db}

theorem SameToGuest.names_sessions (h : SameToGuest guest known db db') :
    ∀ s ∈ newestFirst VoiceSession.startedAt (sessionsOf db fun id => id = guest.id),
      SameNames db.users db'.users s.names := by
  intro s hs
  obtain ⟨row, hrow, rfl⟩ := List.mem_map.mp (mem_newestFirst.mp hs)
  exact h.names_session (of_decide_eq_true (List.mem_filter.mp hrow).2 :)

theorem SameToGuest.names_requests (h : SameToGuest guest known db db') :
    ∀ r ∈ newestFirst ServiceRequest.createdAt (requestsOf db fun id => id = guest.id),
      SameNames db.users db'.users r.names := by
  intro r hr
  have hmem := mem_newestFirst.mp hr
  exact h.names_request (of_decide_eq_true (List.mem_filter.mp hmem).2) (h.assigned r hmem)

variable (hrole : guest.role = .guest)
include hrole

/-- The guest finds the same session. -/
theorem SameToGuest.sessionObject (h : SameToGuest guest known db db') {F : Filters}
    (hF : F.sessions.Local VoiceSession.names) (query : Query) (pk : Option Uuid) :
    sessionObject F query db' guest pk = sessionObject F query db guest pk := by
  unfold HotelAgent.sessionObject
  rw [sessionQueryset_guest hrole, sessionQueryset_guest hrole, h.rows.sessions]
  exact hF.find h.names_sessions _ _ pk

theorem sessionObject_own {F : Filters} {query : Query} {pk : Option Uuid} {s : VoiceSession}
    (hs : sessionObject F query db guest pk = .ok s) :
    s.guestId = guest.id ∧ ∃ row, OwnSession guest db s.id row := by
  obtain ⟨hmem, _⟩ := Backends.find_ok _ _ _ _ hs
  rw [sessionQueryset_guest hrole, mem_newestFirst] at hmem
  -- the queryset shows columns of own rows
  obtain ⟨row, hrow, rfl⟩ := List.mem_map.mp hmem
  obtain ⟨hrow, hown⟩ := List.mem_filter.mp hrow
  exact ⟨(of_decide_eq_true hown :), row, Table.find?_of_mem hrow, of_decide_eq_true hown⟩

/-- The guest finds the same service request. -/
theorem SameToGuest.requestObject (h : SameToGuest guest known db db') {F : Filters}
    (hF : F.requests.Local ServiceRequest.names) (query : Query) (pk : Option Uuid) :
    requestObject F query db' (some guest) pk = requestObject F query db (some guest) pk := by
  unfold HotelAgent.requestObject ownedObject
  rw [requestQueryset_guest hrole, requestQueryset_guest hrole, h.rows.requests]
  simp only
  rw [hF.find h.names_requests _ _ pk]

theorem requestObject_own {F : Filters} {query : Query} {pk : Option Uuid} {r : ServiceRequest}
    (hr : requestObject F query db (some guest) pk = .ok r) :
    r ∈ requestsOf db fun id => id = guest.id := by
  unfold HotelAgent.requestObject ownedObject at hr
  rw [requestQueryset_guest hrole] at hr
  simp only at hr
  split at hr
  · exact absurd hr (by simp)
  next found hfound =>
    split at hr
    · injection hr with hr
      rw [← hr]
      exact mem_newestFirst.mp (Backends.find_ok _ _ _ _ hfound).1
    · exact absurd hr (by simp)

/-- **What the guest reads** of sessions. -/
theorem SameToGuest.voiceRead (h : SameToGuest guest known db db') {F : Filters}
    (hF : F.sessions.Local VoiceSession.names) (query : Query) (read : VoiceRead) :
    read.respond F query db' (some guest) = read.respond F query db (some guest) := by
  cases read with
  | list =>
      simp only [VoiceRead.respond]
      rw [sessionQueryset_guest hrole, sessionQueryset_guest hrole, h.rows.sessions]
      exact hF.list h.names_sessions fun s hs => sessionJson_eq (h.names_sessions s hs)
  | retrieve pk =>
      simp only [VoiceRead.respond]
      rw [h.sessionObject hrole hF]
      cases hs : HotelAgent.sessionObject F query db guest pk with
      | error response => rfl
      | ok s =>
          have hown := (sessionObject_own hrole hs).1
          show (⟨200, sessionJson db'.users s⟩ : Response) = ⟨200, sessionJson db.users s⟩
          rw [sessionJson_eq (h.names_session hown)]
  | transcript pk =>
      simp only [VoiceRead.respond]
      rw [h.sessionObject hrole hF]

/-- **What the guest reads** of service requests. -/
theorem SameToGuest.requestRead (h : SameToGuest guest known db db') {F : Filters}
    (hF : F.requests.Local ServiceRequest.names) (query : Query) :
    OwnedRead.listRequests.respond F query db' (some guest)
        = OwnedRead.listRequests.respond F query db (some guest)
      ∧ ∀ pk, (OwnedRead.retrieveRequest pk).respond F query db' (some guest)
        = (OwnedRead.retrieveRequest pk).respond F query db (some guest) := by
  constructor
  · simp only [OwnedRead.respond, ownedList]
    rw [requestQueryset_guest hrole, requestQueryset_guest hrole, h.rows.requests]
    exact hF.list h.names_requests fun r hr => requestJson_eq (h.names_requests r hr)
  · intro pk
    simp only [OwnedRead.respond]
    rw [h.requestObject hrole hF]
    cases hr : HotelAgent.requestObject F query db (some guest) pk with
    | error response => rfl
    | ok r =>
        show (⟨200, requestJson db'.users r⟩ : Response) = ⟨200, requestJson db.users r⟩
        rw [requestJson_eq (h.names_requests r (mem_newestFirst.mpr (requestObject_own hrole hr)))]

end

/-! ## §2. The guest's service requests. -/

section
variable {guest : User} {known : List User} {w w' : World} (hrole : guest.role = .guest)

include hrole

theorem SameToGuest.getRequest {db db' : Db} (h : SameToGuest guest known db db')
    (pk : Option Uuid) :
    getRequest db' (some guest) pk = getRequest db (some guest) pk := by
  unfold HotelAgent.getRequest
  rw [requestQueryset_guest hrole, requestQueryset_guest hrole, h.rows.requests]

/-- The request that the guest gets is an own one, in both. -/
theorem getRequest_own {db : Db} {pk : Option Uuid} {u : User} {r : ServiceRequest}
    (hget : HotelAgent.getRequest db (some guest) pk = .ok (u, r)) :
    u = guest ∧ r ∈ requestsOf db fun id => id = guest.id := by
  obtain ⟨hu, hmem, _, hown, _⟩ := getRequest_ok hget
  obtain rfl : guest = u := Option.some.inj hu
  exact ⟨rfl, List.mem_filter.mpr ⟨hmem, decide_eq_true (hown hrole)⟩⟩

/-- The booking that a body names, if any, is one of the guest's. -/
def RequestBody.BooksOwn (guestId : Uuid) (db : Db) (body : RequestBody) : Prop :=
  ∀ id ∈ body.booking, ∃ b ∈ db.bookings, b.id = id ∧ b.guestId = guestId

/-- So is the one that an action names. -/
def RequestAction.BooksOwn (guestId : Uuid) (db : Db) : RequestAction → Prop
  | .assign _ _ => True
  | .complete _ _ _ => True
  | .update _ _ body => body.BooksOwn guestId db

omit hrole in
/-- The checks of a body do not tell the databases apart. -/
theorem SameToGuest.errors {db db' : Db} (h : SameToGuest guest known db db')
    {body : RequestBody} (hown : body.BooksOwn guest.id db) (part : Bool) :
    body.errors db' part = body.errors db part := by
  have hbad : body.badBooking db' = body.badBooking db := by
    unfold RequestBody.badBooking
    cases hbody : body.booking with
    | none => rfl
    | some id =>
        obtain ⟨b, hb, rfl, hguest⟩ := hown id hbody
        -- the booking is looked for in each database
        have hhas : db.bookings.Has b.id := Table.has_of_mem hb
        have hhas' : db'.bookings.Has b.id := Table.has_of_mem (h.booking hb hguest)
        simp only [if_pos hhas, if_pos hhas']
  unfold RequestBody.errors
  rw [hbad]

theorem SameToGuest.rewrites {db db' : Db} (h : SameToGuest guest known db db')
    {action : RequestAction} (hbooks : action.BooksOwn guest.id db) :
    action.rewrites py db' (some guest) = action.rewrites py db (some guest) := by
  cases action with
  | assign pk fresh =>
      simp only [RequestAction.rewrites, readAssign]
      rw [h.getRequest hrole]
  | complete pk data fresh =>
      simp only [RequestAction.rewrites, readComplete]
      rw [h.getRequest hrole]
  | update pk part body =>
      simp only [RequestAction.rewrites, readUpdateRequest]
      rw [h.getRequest hrole, h.errors hbooks part]

/-- A guest does not assign, so what is written over stays assigned as it is. -/
theorem rewrites_assignedTo {db : Db} {action : RequestAction} {r r' : ServiceRequest}
    (hw : action.rewrites py db (some guest) = some (r, r')) : r'.assignedTo = r.assignedTo := by
  cases action with
  | assign pk fresh =>
      obtain ⟨u, hread, _⟩ := rewrites_assign hw
      obtain ⟨hget, hstaff⟩ := readAssign_ok hread
      obtain ⟨rfl, _⟩ := getRequest_own hrole hget
      -- 403, before anything is written
      rw [hrole] at hstaff
      exact absurd hstaff (by decide)
  | complete pk data fresh =>
      obtain ⟨_, _, _, _, rfl⟩ := rewrites_complete hw
      rfl
  | update pk part body =>
      obtain ⟨_, rfl⟩ := rewrites_update hw
      rfl

omit hrole in
/-- A save that is there in both shows the same. -/
theorem SameToGuest.shown {db db' a b : Db} (h : SameToGuest guest known db db')
    (ha : a.users = db.users) (hb : b.users = db'.users) {r r' : ServiceRequest}
    (hr : r ∈ requestsOf db fun id => id = guest.id) (hguest : r'.guestId = r.guestId)
    (hassigned : r'.assignedTo = r.assignedTo) :
    requestJson b.users r' = requestJson a.users r' := by
  rw [ha, hb]
  refine requestJson_eq (h.names_request ?_ ?_)
  · rw [hguest]
    exact of_decide_eq_true (List.mem_filter.mp hr).2
  · rw [hassigned]
    exact h.assigned r hr

omit hrole in
/-- The request that is found is one of the guest's in both. -/
theorem SameToGuest.ownRequests {db db' : Db} (h : SameToGuest guest known db db')
    {r : ServiceRequest} (hr : r ∈ requestsOf db fun id => id = guest.id) :
    r ∈ db.serviceRequests ∧ r ∈ db'.serviceRequests := by
  have hr' : r ∈ requestsOf db' fun id => id = guest.id := by
    rw [h.rows.requests]
    exact hr
  exact ⟨(List.mem_filter.mp hr).1, (List.mem_filter.mp hr').1⟩

theorem SameToGuest.assign (h : SameToGuest guest known w.db w'.db) (pk : Option Uuid)
    (fresh : ActionFresh) :
    (assign py w (some guest) pk fresh).2 = (assign py w' (some guest) pk fresh).2 := by
  unfold HotelAgent.assign readAssign
  rw [h.getRequest hrole]
  cases hget : HotelAgent.getRequest w.db (some guest) pk with
  | error response => rfl
  | ok found =>
      obtain ⟨u, r⟩ := found
      obtain ⟨rfl, _⟩ := getRequest_own hrole hget
      -- a guest is not of the staff
      have hstaff : ¬ u.role.isStaff = true := by
        rw [hrole]
        decide
      simp only [if_neg hstaff]

theorem SameToGuest.complete (h : SameToGuest guest known w.db w'.db) (pk : Option Uuid)
    (data : Json) (fresh : ActionFresh) :
    (complete py w (some guest) pk data fresh).2
      = (complete py w' (some guest) pk data fresh).2 := by
  have hread : readComplete w'.db (some guest) pk data
      = readComplete w.db (some guest) pk data := by
    unfold readComplete
    rw [h.getRequest hrole]
  unfold HotelAgent.complete
  rw [hread]
  cases hr : readComplete w.db (some guest) pk data with
  | error response => rfl
  | ok found =>
      obtain ⟨r, notes⟩ := found
      obtain ⟨u, hget⟩ := readComplete_ok hr
      obtain ⟨_, hown⟩ := getRequest_own hrole hget
      -- notes that the column refuses are a 500 in both
      cases htext : notesText py notes with
      | none => simp only [saveComplete, htext]
      | some text =>
          obtain ⟨hmem, hmem'⟩ := h.ownRequests hown
          obtain ⟨a, hsave, hwrote⟩ := saveComplete_of_mem fresh.now hmem htext
          obtain ⟨b, hsave', hwrote'⟩ := saveComplete_of_mem fresh.now hmem' htext
          have hshown := @SameToGuest.shown guest known _ _ _ _ h hwrote.users hwrote'.users _
            ((RequestWrite.complete fresh.now text).write r) hown rfl rfl
          simp only [hsave, hsave', htext, Option.getD_some, hshown]
          -- the event raises in both or in none
          split
          · rfl
          · rfl

theorem SameToGuest.updateServiceRequest (h : SameToGuest guest known w.db w'.db)
    (pk : Option Uuid) (part : Bool) {body : RequestBody} (hbooks : body.BooksOwn guest.id w.db) :
    (updateServiceRequest w (some guest) pk part body).2
      = (updateServiceRequest w' (some guest) pk part body).2 := by
  have hread : readUpdateRequest w'.db (some guest) pk part body
      = readUpdateRequest w.db (some guest) pk part body := by
    unfold readUpdateRequest
    rw [h.getRequest hrole, h.errors hbooks part]
  unfold HotelAgent.updateServiceRequest
  cases hr : readUpdateRequest w.db (some guest) pk part body with
  | error response =>
      rw [hread, hr]
  | ok r =>
      obtain ⟨⟨u, hget⟩, _⟩ := readUpdateRequest_ok hr
      obtain ⟨_, hown⟩ := getRequest_own hrole hget
      -- what has passed the checks is saved
      obtain ⟨a, hsave, hwrote⟩ := saveUpdate_of_read hr
      obtain ⟨b, hsave', hwrote'⟩ := saveUpdate_of_read (hread.trans hr)
      have hshown := @SameToGuest.shown guest known _ _ _ _ h hwrote.users hwrote'.users _
        (body.applyTo r) hown rfl rfl
      rw [hread, hr]
      simp only [hsave, hsave', hshown]

/-- **An action** of the guest. -/
theorem SameToGuest.action (h : SameToGuest guest known w.db w'.db) {action : RequestAction}
    (hbooks : action.BooksOwn guest.id w.db) :
    DoneAlike guest known (action.handle py w (some guest)) (action.handle py w' (some guest)) := by
  refine ⟨?_, ?_⟩
  · cases action with
    | assign pk fresh => exact h.assign hrole pk fresh
    | complete pk data fresh => exact h.complete hrole pk data fresh
    | update pk part body => exact h.updateServiceRequest hrole pk part hbooks
  -- the row is written over by the same row, or by none
  · have hsame := @SameToGuest.rewrites py guest known hrole _ _ h action hbooks
    cases hw : action.rewrites py w.db (some guest) with
    | none =>
        rw [handle_of_rewrites_none hw, handle_of_rewrites_none (hsame.trans hw)]
        exact h
    | some rows =>
        obtain ⟨r, r'⟩ := rows
        obtain ⟨hown, hguest⟩ := rewrites_guest hrole hw
        exact h.wrote (handle_of_rewrites_some hw) (handle_of_rewrites_some (hsame.trans hw)) hown
          hguest (rewrites_assignedTo hrole hw)

theorem SameToGuest.destroyServiceRequest (h : SameToGuest guest known w.db w'.db)
    (pk : Option Uuid) :
    DoneAlike guest known (destroyServiceRequest w (some guest) pk)
      (destroyServiceRequest w' (some guest) pk) := by
  unfold HotelAgent.destroyServiceRequest
  rw [h.getRequest hrole]
  cases HotelAgent.getRequest w.db (some guest) pk with
  | error response => exact ⟨rfl, h⟩
  | ok found => exact ⟨rfl, h.deleteServiceRequest found.2.id⟩

/-- A request to one service request that the filters let through in both, or in none. -/
theorem SameToGuest.onRequest (h : SameToGuest guest known w.db w'.db) {F : Filters}
    (hF : F.requests.Local ServiceRequest.names) (query : Query) (pk : Option Uuid)
    {handle : World → World × Response} (hdone : DoneAlike guest known (handle w) (handle w')) :
    DoneAlike guest known (onRequest F w (some guest) query pk handle)
      (onRequest F w' (some guest) query pk handle) := by
  unfold HotelAgent.onRequest
  rw [h.requestObject hrole hF]
  cases HotelAgent.requestObject F query w.db (some guest) pk with
  | error response => exact ⟨rfl, h⟩
  | ok r => exact hdone

/-- A write to service requests, with a booking of the guest if with any. -/
def OwnedWrite.BooksOwn (guestId : Uuid) (db : Db) : OwnedWrite → Prop
  | .createRequest body => ∀ data, body.read = .ok data → data.BooksOwn guestId db
  | .updateRequest _ _ body => ∀ data, body.read = .ok data → data.BooksOwn guestId db
  | .destroyRequest _ => True
  | .assign _ _ => True
  | .complete _ _ _ => True
  -- bookings are priced and checked against those of others
  | .createBooking _ _ => False
  | .updateBooking _ _ _ _ => False
  | .destroyBooking _ => False

/-- **What the guest writes** to service requests. -/
theorem SameToGuest.owned (h : SameToGuest guest known w.db w'.db) {F : Filters}
    (hF : F.requests.Local ServiceRequest.names) (query : Query) {call : OwnedWrite}
    (hbooks : call.BooksOwn guest.id w.db) (caller : Caller) :
    DoneAlike guest known (call.handle py F w caller (some guest) query)
      (call.handle py F w' caller (some guest) query) := by
  cases call with
  | createRequest body =>
      simp only [OwnedWrite.handle]
      -- a body that does not parse ends the request in both
      cases hbody : body.read with
      | error response => exact ⟨rfl, h⟩
      | ok data =>
          simp only [createServiceRequest, h.errors (hbooks data hbody)]
          split
          · exact ⟨rfl, h⟩
          · exact ⟨rfl, h⟩
  | updateRequest pk part body =>
      apply h.onRequest hrole hF query pk
      cases hbody : body.read with
      | error response => exact ⟨rfl, h⟩
      | ok data =>
          have hdone := @SameToGuest.action py guest known w w' hrole h (.update pk part data)
            (hbooks data hbody)
          exact hdone
  | destroyRequest pk =>
      apply h.onRequest hrole hF query pk
      exact h.destroyServiceRequest hrole pk
  | assign pk fresh =>
      apply h.onRequest hrole hF query pk
      have hdone := @SameToGuest.action py guest known w w' hrole h (.assign pk fresh) trivial
      exact hdone
  | complete pk body fresh =>
      apply h.onRequest hrole hF query pk
      cases hbody : body.read with
      | error response => exact ⟨rfl, h⟩
      | ok data =>
          have hdone := @SameToGuest.action py guest known w w' hrole h
            (.complete pk data fresh) trivial
          exact hdone
  | createBooking body fresh => exact hbooks.elim
  | updateBooking pk part body fresh => exact hbooks.elim
  | destroyBooking pk => exact hbooks.elim

end

/-! ## §3. Writes to voice sessions. -/

/-- No row of somebody else has this key. -/
structure Db.KeyFor (guestId id : Uuid) (db : Db) : Prop where
  sessions : ∀ s ∈ db.voiceSessions, s.id = id → s.guestId = guestId
  requests : ∀ r ∈ db.serviceRequests, r.id = id → r.guestId = guestId

/-- The key of a row that the write may insert. -/
def VoiceWrite.newKey : VoiceWrite py → Option Uuid
  | .create _ fresh => some fresh.id
  | .update _ => none
  | .destroy _ => none
  -- the service request of the turn
  | .turn _ _ _ _ fresh => some fresh.id
  | .finish _ _ => none

/-- The session that a write is about. -/
def VoiceWrite.object : VoiceWrite py → Option (Option Uuid)
  | .create _ _ => none
  | .update pk => some pk
  | .destroy pk => some pk
  | .turn pk _ _ _ _ => some pk
  | .finish pk _ => some pk

/-- A session that is not found ends the write. -/
theorem voice_of_error {F : Filters} {w : World} {caller : Caller} {user : User} {query : Query}
    {latencyMs : Text} {call : VoiceWrite py} {pk : Option Uuid} {response : Response}
    (hpk : call.object = some pk) (hs : sessionObject F query w.db user pk = .error response) :
    (call.handle F w caller (some user) query, call.answer F w caller (some user) query latencyMs)
      = (w, .response response) := by
  -- every detail route looks its object up first
  cases call with
  | create body fresh => exact absurd hpk (by simp [VoiceWrite.object])
  | update pk =>
      obtain rfl := Option.some.inj hpk
      simp only [VoiceWrite.handle, VoiceWrite.answer, Option.map_some, hs]
  | destroy pk =>
      obtain rfl := Option.some.inj hpk
      simp only [VoiceWrite.handle, VoiceWrite.answer, Option.map_some, hs]
  | turn pk body optionErrors agent fresh =>
      obtain rfl := Option.some.inj hpk
      simp only [VoiceWrite.handle, VoiceWrite.answer, Option.map_some, hs]
  | finish pk fresh =>
      obtain rfl := Option.some.inj hpk
      simp only [VoiceWrite.handle, VoiceWrite.answer, Option.map_some, hs]

/-- The answer shows no row but one of the guest's. -/
def SessionAnswer.Of (guest : User) : SessionAnswer → Prop
  | .started s => s.guestId = guest.id
  | .turn _ (some row) => row.guestId = guest.id ∧ row.assignedTo = none
  | _ => True

section
variable {guest : User} {known : List User} {w w' : World}

/-- An error shows none. -/
theorem of_error {answer : SessionAnswer} (h : 400 ≤ answer.status) : answer.Of guest := by
  cases answer with
  | started s => exact absurd h (by show ¬ 400 ≤ 201; decide)
  | turn text created => exact absurd h (by show ¬ 400 ≤ 200; decide)
  | ended duration => trivial
  | badRequest message => trivial
  | invalidText => trivial
  | unauthorized => trivial
  | notFound => trivial
  | agentFailed => trivial
  | serverError => trivial

/-- The row that a draft of the guest has made. -/
theorem of_createRequest {d : RequestDraft} {fresh : SessionFresh} {row : ServiceRequest}
    (hd : d.guest = guest) (h : (createRequest py w d fresh).2 = some row) :
    row.guestId = guest.id ∧ row.assignedTo = none := by
  have hrow : d.row py fresh = some row := by
    -- every way out but the last is without a row
    unfold createRequest at h
    split at h
    · exact absurd h (by simp)
    next row' hrow =>
      split at h
      · exact absurd h (by simp)
      · split at h
        · exact absurd h (by simp)
        · split at h
          · exact absurd h (by simp)
          · split at h
            · exact absurd h (by simp)
            · rw [← Option.some.inj h]
              exact hrow
  obtain ⟨_, _, hguest, _⟩ := row_columns hrow
  exact ⟨by rw [hguest, hd], row_assignedTo hrow⟩

theorem of_endSession (pk : Uuid) (caller : Caller) (fresh : SessionFresh) :
    (endSession py w caller pk fresh).2.Of guest := by
  unfold endSession
  split
  next answer hread =>
    unfold readEnd at hread
    split at hread
    next found hget =>
      injection hread with hread
      rw [← hread]
      rcases getSession_error hget with rfl | rfl
      · trivial
      · trivial
    · split at hread
      · injection hread with hread
        rw [← hread]
        trivial
      · exact absurd hread (by simp)
  · split
    · trivial
    · unfold finishEnd
      split
      · trivial
      · trivial

variable (hactive : guest.isActive = true)
include hactive

theorem of_createSession {u : User} (hme : w.db.Account guest u) (bookingId : Option Uuid)
    (fresh : SessionFresh) :
    (createSession py w (.token guest.id) bookingId fresh).2.Of guest := by
  unfold createSession
  rw [requireUser_me hactive hme]
  simp only
  split
  · trivial
  · split
    · trivial
    · split
      · trivial
      · exact id_of_identity hme.2

variable (hrole : guest.role = .guest)
include hrole

theorem of_processTurn (h : SameToGuest guest known w.db w'.db) (pk : Uuid) (req : TurnRequest)
    (agent : AgentOutcome py) (fresh : SessionFresh) :
    (processTurn w (.token guest.id) pk req agent fresh).2.Of guest := by
  unfold processTurn
  rcases h.readTurn hrole hactive pk req with
    ⟨answer, hread, _⟩ | ⟨u, _, s, _, content, hid, _, _, _, hread, _⟩
  · rw [hread]
    -- no text, no session or one that has ended
    exact of_error (readTurn_error hread)
  · rw [hread]
    cases agent with
    | raises =>
        simp only
        split
        · trivial
        · trivial
    | replies r =>
        simp only
        split
        · trivial
        next db hsave =>
          rw [finishTurn_eq hid]
          unfold finishTurn
          cases hd : requestDraft guest s r with
          | none => trivial
          | some d =>
              obtain ⟨hguest, _, _⟩ := requestDraft_eq_some hd
              simp only
              cases hmade : createRequest py { w with db := db } d fresh with
              | mk w₁ made =>
                  cases made with
                  | none => trivial
                  | some row =>
                      apply @of_createRequest py guest { w with db := db } d fresh row hguest
                      rw [hmade]

omit hactive hrole in
/-- **An answer** that shows only the guest's rows is shown alike. -/
theorem SameToGuest.response {db db' : Db} (h : SameToGuest guest known db db')
    {answer : SessionAnswer} (hown : answer.Of guest) (pk : Option Uuid) (turn : Text → Json) :
    answer.response db'.users pk turn = answer.response db.users pk turn := by
  cases answer with
  | started s =>
      show (⟨201, sessionJson db'.users s⟩ : Response) = ⟨201, sessionJson db.users s⟩
      rw [sessionJson_eq (h.names_session hown)]
  | turn text created => rfl
  | ended duration => rfl
  | badRequest message => rfl
  | invalidText => rfl
  | unauthorized => rfl
  | notFound => rfl
  | agentFailed => rfl
  | serverError => rfl

/-- The choices of a draft, which an answer shows. -/
def RequestDraft.choices (d : RequestDraft) : Json × Json := (d.serviceType, d.priority)

/-- What a turn asks for is the same. -/
theorem SameToGuest.turnDraft {db db' : Db} (h : SameToGuest guest known db db') (pk : Uuid)
    (req : TurnRequest) (agent : AgentOutcome py) (fresh : SessionFresh) :
    (turnDraft db' (.token guest.id) pk req agent fresh).map (fun found => found.2.choices)
      = (turnDraft db (.token guest.id) pk req agent fresh).map fun found => found.2.choices := by
  unfold HotelAgent.turnDraft
  rcases h.readTurn hrole hactive pk req with
    ⟨answer, hread, hread'⟩ | ⟨u, u', s, s', content, _, _, hown, hcolumns, hread, hread'⟩
  · rw [hread, hread']
  · have hid : s'.id = s.id := (congrArg VoiceSession.id hcolumns :)
    have hbooking : s'.bookingId = s.bookingId := (congrArg VoiceSession.bookingId hcolumns :)
    rw [hread, hread']
    cases agent with
    | raises => rfl
    | replies r =>
        -- the draft is made after the save, which is accepted in both or in none
        have hkey : OwnSession guest db s.id s := ⟨find?_of_readTurn hread, hown.2⟩
        have hsave := h.saveSession hkey
          (sameColumns_turn hcolumns (turnMessages content r.text fresh.nowTs) r.tokensUsed
            r.ttsChars)
        have hdraft : (requestDraft u' s' r).map RequestDraft.choices
            = (requestDraft u s r).map RequestDraft.choices := by
          unfold requestDraft
          rw [hid, hbooking]
          split
          · split
            · rfl
            · rfl
          · rfl
        simp only [saveTurn, hid]
        rcases rel_cases hsave with ⟨hf, hg⟩ | ⟨a, b, hf, hg, _⟩
        · rw [hf, hg]
        · rw [hf, hg]
          cases hd : requestDraft u s r with
          | none =>
              rw [hd, Option.map_none, Option.map_eq_none_iff] at hdraft
              rw [hdraft]
          | some d =>
              rw [hd, Option.map_some] at hdraft
              obtain ⟨d', hd', hsame⟩ := Option.map_eq_some_iff.mp hdraft
              rw [hd']
              exact congrArg some hsame

/-- **The answer to a turn.** -/
theorem SameToGuest.turnAnswer (h : SameToGuest guest known w.db w'.db) (pk : Uuid)
    (req : TurnRequest) (agent : AgentOutcome py) (fresh : SessionFresh) (latencyMs : Text)
    (hnew : ∀ r ∈ w.db.serviceRequests, r.id = fresh.id → r.guestId = guest.id)
    (hnew' : ∀ r ∈ w'.db.serviceRequests, r.id = fresh.id → r.guestId = guest.id) :
    turnAnswer w (.token guest.id) pk req agent fresh latencyMs
      = turnAnswer w' (.token guest.id) pk req agent fresh latencyMs := by
  obtain ⟨hanswer, hdb⟩ := h.processTurn hrole hactive pk req agent fresh hnew hnew'
  have hshows := @of_processTurn py guest known w w' hactive hrole h pk req agent fresh
  have hdraft := @SameToGuest.turnDraft py guest known hactive hrole _ _ h pk req agent fresh
  unfold HotelAgent.turnAnswer
  -- of the two turns only this matters: one answer, and the hotel looks the same
  generalize HotelAgent.processTurn w (.token guest.id) pk req agent fresh = x at *
  generalize HotelAgent.processTurn w' (.token guest.id) pk req agent fresh = y at *
  obtain ⟨wx, answer⟩ := x
  obtain ⟨wy, answer'⟩ := y
  obtain rfl : answer = answer' := hanswer
  have hplain : ∀ turn, answer.response wy.db.users (some pk) turn
      = answer.response wx.db.users (some pk) turn :=
    fun turn => hdb.response hshows (some pk) turn
  cases hd : HotelAgent.turnDraft w.db (.token guest.id) pk req agent fresh with
  | none =>
      rw [hd, Option.map_none, Option.map_eq_none_iff] at hdraft
      rw [hdraft]
      simp only [hplain]
  | some found =>
      rw [hd, Option.map_some] at hdraft
      obtain ⟨found', hd', hsame⟩ := Option.map_eq_some_iff.mp hdraft
      rw [hd']
      obtain ⟨db₁, d⟩ := found
      obtain ⟨db₁', d'⟩ := found'
      obtain ⟨htype, hpriority⟩ : d'.serviceType = d.serviceType ∧ d'.priority = d.priority :=
        Prod.ext_iff.mp hsame
      -- only the answer to a turn shows a row of its own
      cases answer with
      | turn text created =>
          cases created with
          | none => rfl
          | some row =>
              obtain ⟨hguest, hfree⟩ := hshows
              have hnames := hdb.names_request hguest (by simp [hfree])
              have hjson : createdJson py wy.db.users d' row
                  = createdJson py wx.db.users d row := by
                unfold createdJson
                rw [requestJson_eq hnames, htype, hpriority]
              have hrenders : d'.renders py = d.renders py := by
                unfold RequestDraft.renders
                rw [htype, hpriority]
              simp only [hjson, hrenders]
      | started s => simp only [hplain]
      | ended duration => rfl
      | badRequest message => rfl
      | invalidText => rfl
      | unauthorized => rfl
      | notFound => rfl
      | agentFailed => rfl
      | serverError => rfl

/-- What becomes of a guest's write, and its answer. -/
def VoiceWrite.done (F : Filters) (w : World) (guest : User) (query : Query) (latencyMs : Text)
    (call : VoiceWrite py) : World × Answer :=
  (call.handle F w (.token guest.id) (some guest) query,
    call.answer F w (.token guest.id) (some guest) query latencyMs)

omit hrole in
/-- The session has the key that is drawn. -/
theorem SameToGuest.voiceCreate (h : SameToGuest guest known w.db w'.db) (F : Filters)
    (query : Query) (latencyMs : Text) (body : Body (Option (Option Uuid))) {fresh : SessionFresh}
    (hkey : w.db.KeyFor guest.id fresh.id) (hkey' : w'.db.KeyFor guest.id fresh.id) :
    DoneAlike guest known
      ((VoiceWrite.create body fresh : VoiceWrite py).done F w guest query latencyMs)
      ((VoiceWrite.create body fresh : VoiceWrite py).done F w' guest query latencyMs) := by
  have hdone := fun bookingId => @SameToGuest.createSession py guest known w w' hactive h
    bookingId fresh hkey.sessions hkey'.sessions
  have hresponse : ∀ bookingId,
      (HotelAgent.createSession py w (.token guest.id) bookingId fresh).2.response w.db.users
          none (fun _ => .null)
        = (HotelAgent.createSession py w' (.token guest.id) bookingId fresh).2.response
          w'.db.users none fun _ => .null := by
    intro bookingId
    rw [← (hdone bookingId).answer]
    obtain ⟨u, hme⟩ := h.me
    have hown := @of_createSession py guest w hactive u hme bookingId fresh
    exact (h.response hown none fun _ => .null).symm
  unfold VoiceWrite.done
  cases hread : body.read with
  | error response =>
      refine ⟨?_, ?_⟩
      · simp only [VoiceWrite.answer, hread]
      · simp only [VoiceWrite.handle, hread]
        exact h
  | ok bookingId =>
      rcases bookingId with _ | _ | id
      · refine ⟨?_, ?_⟩
        · simp only [VoiceWrite.answer, hread, hresponse]
        · simp only [VoiceWrite.handle, hread]
          exact (hdone none).db
      · refine ⟨?_, ?_⟩
        · simp only [VoiceWrite.answer, hread]
        · simp only [VoiceWrite.handle, hread]
          exact h
      · refine ⟨?_, ?_⟩
        · simp only [VoiceWrite.answer, hread, hresponse]
        · simp only [VoiceWrite.handle, hread]
          exact (hdone (some id)).db

omit hactive in
/-- A write on one session comes down to the session that is found, the same one in both. -/
theorem SameToGuest.voiceObject (h : SameToGuest guest known w.db w'.db) {F : Filters}
    (hF : F.sessions.Local VoiceSession.names) {query : Query} {latencyMs : Text}
    {call : VoiceWrite py} {pk : Option Uuid} (hpk : call.object = some pk)
    (hfound : ∀ s, HotelAgent.sessionObject F query w.db guest pk = .ok s →
      HotelAgent.sessionObject F query w'.db guest pk = .ok s →
      DoneAlike guest known (call.done F w guest query latencyMs)
        (call.done F w' guest query latencyMs)) :
    DoneAlike guest known (call.done F w guest query latencyMs)
      (call.done F w' guest query latencyMs) := by
  have hobject := h.sessionObject hrole hF query pk
  cases hs : HotelAgent.sessionObject F query w.db guest pk with
  | error response =>
      unfold VoiceWrite.done
      rw [voice_of_error hpk hs, voice_of_error hpk (hobject.trans hs)]
      exact ⟨rfl, h⟩
  | ok s => exact hfound s hs (hobject.trans hs)

section
variable {F : Filters} (hF : F.sessions.Local VoiceSession.names) (query : Query)
  (latencyMs : Text) (pk : Option Uuid)
include hF

omit hactive in
/-- PUT writes back what was read. -/
theorem SameToGuest.voiceUpdate (h : SameToGuest guest known w.db w'.db) :
    DoneAlike guest known ((VoiceWrite.update pk : VoiceWrite py).done F w guest query latencyMs)
      ((VoiceWrite.update pk : VoiceWrite py).done F w' guest query latencyMs) := by
  refine h.voiceObject hrole hF rfl fun s hs hs' => ?_
  obtain ⟨hguest, row, hown⟩ := sessionObject_own hrole hs
  have hjson := sessionJson_eq (h.names_session hguest)
  unfold VoiceWrite.done
  rcases rel_cases (h.saveSession hown (sameColumns_rewrite s)) with
    ⟨hf, hg⟩ | ⟨a, b, hf, hg, hab⟩
  · refine ⟨?_, ?_⟩
    · simp only [VoiceWrite.answer, Option.map_some, hs, hs', hf, hg]
    · simp only [VoiceWrite.handle, Option.map_some, hs, hs', hf, hg]
      exact h
  · refine ⟨?_, ?_⟩
    · simp only [VoiceWrite.answer, Option.map_some, hs, hs', hf, hg, hjson]
    · simp only [VoiceWrite.handle, Option.map_some, hs, hs', hf, hg]
      exact hab

omit hactive in
theorem SameToGuest.voiceDestroy (h : SameToGuest guest known w.db w'.db) :
    DoneAlike guest known ((VoiceWrite.destroy pk : VoiceWrite py).done F w guest query latencyMs)
      ((VoiceWrite.destroy pk : VoiceWrite py).done F w' guest query latencyMs) := by
  refine h.voiceObject hrole hF rfl fun s hs hs' => ⟨?_, ?_⟩
  · simp only [VoiceWrite.done, VoiceWrite.answer, Option.map_some, hs, hs']
  · simp only [VoiceWrite.done, VoiceWrite.handle, Option.map_some, hs, hs']
    exact h.deleteSession s.id

theorem SameToGuest.voiceTurn (h : SameToGuest guest known w.db w'.db) (body : Body TurnRequest)
    (optionErrors : List (Text × Text)) (agent : AgentOutcome py) {fresh : SessionFresh}
    (hkey : w.db.KeyFor guest.id fresh.id) (hkey' : w'.db.KeyFor guest.id fresh.id) :
    DoneAlike guest known
      ((VoiceWrite.turn pk body optionErrors agent fresh).done F w guest query latencyMs)
      ((VoiceWrite.turn pk body optionErrors agent fresh).done F w' guest query latencyMs) := by
  refine h.voiceObject hrole hF rfl fun s hs hs' => ⟨?_, ?_⟩
  · have hturn := fun data => @SameToGuest.turnAnswer py guest known w w' hactive hrole h
      s.id data agent fresh latencyMs hkey.requests hkey'.requests
    simp only [VoiceWrite.done, VoiceWrite.answer, Option.map_some, hs, hs', hturn]
  · simp only [VoiceWrite.done, VoiceWrite.handle, Option.map_some, hs, hs']
    cases body.read with
    | error response => exact h
    | ok data =>
        simp only
        split
        · exact h
        · exact (h.processTurn hrole hactive s.id data agent fresh hkey.requests
            hkey'.requests).db

theorem SameToGuest.voiceFinish (h : SameToGuest guest known w.db w'.db) (fresh : SessionFresh) :
    DoneAlike guest known
      ((VoiceWrite.finish pk fresh : VoiceWrite py).done F w guest query latencyMs)
      ((VoiceWrite.finish pk fresh : VoiceWrite py).done F w' guest query latencyMs) := by
  refine h.voiceObject hrole hF rfl fun s hs hs' => ?_
  have hdone := @SameToGuest.endSession py guest known w w' hrole hactive h s.id fresh
  refine ⟨?_, ?_⟩
  · simp only [VoiceWrite.done, VoiceWrite.answer, Option.map_some, hs, hs']
    rw [← hdone.answer]
    have hown := @of_endSession py guest w s.id (.token guest.id) fresh
    rw [h.response hown]
  · simp only [VoiceWrite.done, VoiceWrite.handle, Option.map_some, hs, hs']
    exact hdone.db

end

/-- **What the guest writes** to voice sessions. -/
theorem SameToGuest.voice (h : SameToGuest guest known w.db w'.db) {F : Filters}
    (hF : F.sessions.Local VoiceSession.names) (query : Query) (latencyMs : Text)
    {call : VoiceWrite py} (hnew : ∀ id ∈ call.newKey, w.db.KeyFor guest.id id)
    (hnew' : ∀ id ∈ call.newKey, w'.db.KeyFor guest.id id) :
    DoneAlike guest known (call.done F w guest query latencyMs)
      (call.done F w' guest query latencyMs) := by
  cases call with
  | create body fresh =>
      exact h.voiceCreate hactive F query latencyMs body (hnew fresh.id rfl)
        (hnew' fresh.id rfl)
  | update pk => exact h.voiceUpdate hrole hF query latencyMs pk
  | destroy pk => exact h.voiceDestroy hrole hF query latencyMs pk
  | turn pk body optionErrors agent fresh =>
      exact h.voiceTurn hactive hrole hF query latencyMs pk body optionErrors agent
        (hnew fresh.id rfl) (hnew' fresh.id rfl)
  | finish pk fresh => exact h.voiceFinish hactive hrole hF query latencyMs pk fresh

end

/-! ## §4. Requests. -/

section
variable {u u' : User} (h : u'.identity = u.identity)
include h

/-- Of the user, a handler sees id and role. -/
theorem sessionQueryset_of_identity (db : Db) : sessionQueryset db u' = sessionQueryset db u := by
  unfold sessionQueryset
  rw [id_of_identity h, role_of_identity h]

theorem sessionObject_of_identity (F : Filters) (query : Query) (db : Db) (pk : Option Uuid) :
    sessionObject F query db u' pk = sessionObject F query db u pk := by
  unfold sessionObject
  rw [sessionQueryset_of_identity h]

theorem requestQueryset_of_identity (db : Db) :
    requestQueryset db (some u') = requestQueryset db (some u) := by
  unfold requestQueryset
  simp only [id_of_identity h, role_of_identity h]

theorem requestObject_of_identity (F : Filters) (query : Query) (db : Db) (pk : Option Uuid) :
    requestObject F query db (some u') pk = requestObject F query db (some u) pk := by
  unfold requestObject ownedObject isOwnerOrStaff
  rw [requestQueryset_of_identity h]
  simp only [id_of_identity h, role_of_identity h]

theorem getRequest_of_identity (db : Db) (pk : Option Uuid) :
    getRequest db (some u') pk = (getRequest db (some u) pk).map fun found => (u', found.2) := by
  unfold getRequest isOwnerOrStaff
  rw [requestQueryset_of_identity h]
  cases requestQueryset db (some u) with
  | error e => rfl
  | ok rows =>
      simp only [id_of_identity h, role_of_identity h]
      cases pk.bind fun pk => rows.find? fun r => r.id = pk with
      | none => rfl
      | some r =>
          simp only
          split
          · rfl
          · rfl

theorem voiceHandle_of_identity (F : Filters) (w : World) (caller : Caller) (query : Query)
    (call : VoiceWrite py) :
    call.handle F w caller (some u') query = call.handle F w caller (some u) query := by
  cases call with
  | create body fresh =>
      simp only [VoiceWrite.handle]
      rcases body.read with response | _ | _ | id
      · rfl
      · rfl
      · rfl
      · rfl
  | update pk => simp only [VoiceWrite.handle, Option.map_some, sessionObject_of_identity h]
  | destroy pk => simp only [VoiceWrite.handle, Option.map_some, sessionObject_of_identity h]
  | turn pk body optionErrors agent fresh =>
      simp only [VoiceWrite.handle, Option.map_some, sessionObject_of_identity h]
  | finish pk fresh => simp only [VoiceWrite.handle, Option.map_some, sessionObject_of_identity h]

theorem voiceAnswer_of_identity (F : Filters) (w : World) (caller : Caller) (query : Query)
    (latencyMs : Text) (call : VoiceWrite py) :
    call.answer F w caller (some u') query latencyMs
      = call.answer F w caller (some u) query latencyMs := by
  cases call with
  | create body fresh =>
      simp only [VoiceWrite.answer]
      rcases body.read with response | _ | _ | id
      · rfl
      · rfl
      · rfl
      · rfl
  | update pk => simp only [VoiceWrite.answer, Option.map_some, sessionObject_of_identity h]
  | destroy pk => simp only [VoiceWrite.answer, Option.map_some, sessionObject_of_identity h]
  | turn pk body optionErrors agent fresh =>
      simp only [VoiceWrite.answer, Option.map_some, sessionObject_of_identity h]
  | finish pk fresh => simp only [VoiceWrite.answer, Option.map_some, sessionObject_of_identity h]

theorem action_of_identity (w : World) (action : RequestAction) :
    action.handle py w (some u') = action.handle py w (some u) := by
  cases action with
  | assign pk fresh =>
      simp only [RequestAction.handle, assign, readAssign, saveAssign]
      rw [getRequest_of_identity h]
      cases hget : getRequest w.db (some u) pk with
      | error response => rfl
      | ok found =>
          obtain ⟨v, r⟩ := found
          obtain rfl : u = v := Option.some.inj (getRequest_ok hget).1
          simp only [Except.map, role_of_identity h]
          -- the assignment writes the id of the user
          by_cases hstaff : u.role.isStaff = true
          · simp only [if_pos hstaff, id_of_identity h]
          · simp only [if_neg hstaff]
  | complete pk data fresh =>
      simp only [RequestAction.handle, complete, readComplete]
      rw [getRequest_of_identity h]
      cases getRequest w.db (some u) pk with
      | error response => rfl
      | ok found => rfl
  | update pk part body =>
      simp only [RequestAction.handle, updateServiceRequest, readUpdateRequest]
      rw [getRequest_of_identity h]
      cases getRequest w.db (some u) pk with
      | error response => rfl
      | ok found => rfl

theorem destroy_of_identity (w : World) (pk : Option Uuid) :
    destroyServiceRequest w (some u') pk = destroyServiceRequest w (some u) pk := by
  unfold destroyServiceRequest
  rw [getRequest_of_identity h]
  cases getRequest w.db (some u) pk with
  | error response => rfl
  | ok found => rfl

/-- So a write to service requests does the same for both. -/
theorem owned_of_identity (F : Filters) (w : World) (caller : Caller) (query : Query)
    {call : OwnedWrite} {guestId : Uuid} {db : Db} (hbooks : call.BooksOwn guestId db) :
    call.handle py F w caller (some u') query = call.handle py F w caller (some u) query := by
  have hobject := requestObject_of_identity h F query w.db
  cases call with
  | createRequest body => rfl
  | updateRequest pk part body =>
      simp only [OwnedWrite.handle, onRequest, hobject]
      have haction := fun data => @action_of_identity py u u' h w (.update pk part data)
      cases requestObject F query w.db (some u) pk with
      | error response => rfl
      | ok r =>
          cases body.read with
          | error response => rfl
          | ok data => exact haction data
  | destroyRequest pk =>
      simp only [OwnedWrite.handle, onRequest, hobject, destroy_of_identity h]
  | assign pk fresh =>
      simp only [OwnedWrite.handle, onRequest, hobject]
      cases requestObject F query w.db (some u) pk with
      | error response => rfl
      | ok r => exact action_of_identity h w (.assign pk fresh)
  | complete pk body fresh =>
      simp only [OwnedWrite.handle, onRequest, hobject]
      cases requestObject F query w.db (some u) pk with
      | error response => rfl
      | ok r =>
          cases body.read with
          | error response => rfl
          | ok data => exact action_of_identity h w (.complete pk data fresh)
  | createBooking body fresh => exact hbooks.elim
  | updateBooking pk part body fresh => exact hbooks.elim
  | destroyBooking pk => exact hbooks.elim

theorem voiceRead_of_identity (F : Filters) (query : Query) (db : Db) (read : VoiceRead) :
    read.respond F query db (some u') = read.respond F query db (some u) := by
  cases read with
  | list => simp only [VoiceRead.respond, sessionQueryset_of_identity h]
  | retrieve pk => simp only [VoiceRead.respond, sessionObject_of_identity h]
  | transcript pk => simp only [VoiceRead.respond, sessionObject_of_identity h]

end

/-- A GET of voice sessions or of service requests. -/
def ReadRequest.ofService : ReadRequest → Bool
  | .voice _ => true
  | .owned .listRequests => true
  | .owned (.retrieveRequest _) => true
  | .owned .listBookings => false
  | .owned (.retrieveBooking _) => false

/-- A write to them. -/
def WriteRequest.ofService : WriteRequest py → Bool
  | .voice _ => true
  | .owned (.createRequest _) => true
  | .owned (.updateRequest _ _ _) => true
  | .owned (.destroyRequest _) => true
  | .owned (.assign _ _) => true
  | .owned (.complete _ _ _) => true
  | .owned (.createBooking _ _) => false
  | .owned (.updateBooking _ _ _ _) => false
  | .owned (.destroyBooking _) => false

/-- **A request of the guest** about voice sessions or service requests. -/
def ApiRequest.own (guestId : Uuid) : ApiRequest py → Bool
  | .read (.bearer userId) _ call => userId = guestId && call.ofService
  | .write (.bearer userId) _ call => userId = guestId && call.ofService
  | _ => false

/-- The request names no booking of somebody else, and no row of somebody else has the key that it
draws. -/
def ApiRequest.StaysOwn (guestId : Uuid) (db : Db) : ApiRequest py → Prop
  | .write _ _ (.voice call) => ∀ id ∈ call.newKey, db.KeyFor guestId id
  | .write _ _ (.owned call) => call.BooksOwn guestId db
  | _ => True

section
variable {guest : User} {known : List User} {D : Deployment} {w w' : World}

theorem user_of_account {db : Db} {u : User} (hme : db.Account guest u) :
    (Credentials.bearer guest.id).user db
      = if guest.isActive then .ok (some u)
        else .error (.envelope 401 (txt "User is inactive") (txt "user_inactive")) := by
  have hstill : u.isActive = guest.isActive := (congrArg User.isActive hme.2 :)
  unfold Credentials.user
  simp only [hme.1, hstill]

variable (hD : D.Local) (hrole : guest.role = .guest)
include hD hrole

theorem SameToGuest.respond {db db' : Db} (h : SameToGuest guest known db db') (query : Query)
    {read : ReadRequest} (hread : read.ofService = true) :
    respond D.filters db' (.bearer guest.id) query read
      = respond D.filters db (.bearer guest.id) query read := by
  obtain ⟨u, hme⟩ := h.me
  obtain ⟨u', hme'⟩ := h.symm.me
  unfold HotelAgent.respond
  rw [user_of_account hme, user_of_account hme']
  -- both accounts are active, or none is
  by_cases hactive : guest.isActive = true
  · simp only [if_pos hactive]
    cases read with
    | voice read =>
        simp only
        rw [voiceRead_of_identity hme.2, voiceRead_of_identity hme'.2]
        exact h.voiceRead hrole hD.sessions query read
    | owned read =>
        have hobject := fun pk => (requestObject_of_identity hme'.2 D.filters query db' pk).trans
          ((h.requestObject hrole hD.requests query pk).trans
            (requestObject_of_identity hme.2 D.filters query db pk).symm)
        obtain ⟨hlist, hretrieve⟩ := h.requestRead hrole hD.requests query
        cases read with
        | listRequests =>
            simp only [OwnedRead.respond] at hlist ⊢
            rw [requestQueryset_of_identity hme.2, requestQueryset_of_identity hme'.2]
            exact hlist
        | retrieveRequest pk =>
            simp only [OwnedRead.respond] at hretrieve ⊢
            rw [requestObject_of_identity hme.2, requestObject_of_identity hme'.2]
            exact hretrieve pk
        | listBookings => exact absurd hread (by decide)
        | retrieveBooking pk => exact absurd hread (by simp [ReadRequest.ofService])
  · simp only [if_neg hactive]

/-- **A request of the guest** does the same, and is answered the same, where the hotel looks the
same. -/
theorem serve_own (h : SameToGuest guest known w.db w'.db) (latencyMs : Text)
    {request : ApiRequest py} (hown : request.own guest.id = true)
    (hstays : request.StaysOwn guest.id w.db) (hstays' : request.StaysOwn guest.id w'.db) :
    DoneAlike guest known (request.serve D w latencyMs) (request.serve D w' latencyMs) := by
  cases request with
  | read cred query read =>
      cases cred with
      | absent => exact absurd hown (by simp [ApiRequest.own])
      | rejected body => exact absurd hown (by simp [ApiRequest.own])
      | bearer userId =>
          obtain ⟨hid, hread⟩ := Bool.and_eq_true_iff.mp hown
          obtain rfl : userId = guest.id := of_decide_eq_true hid
          -- a GET writes nothing
          refine ⟨?_, h⟩
          simp only [ApiRequest.serve]
          rw [h.respond hD hrole query hread]
  | rooms cred query pk => exact absurd hown (by simp [ApiRequest.own])
  | write cred query write =>
      cases cred with
      | absent => exact absurd hown (by simp [ApiRequest.own])
      | rejected body => exact absurd hown (by simp [ApiRequest.own])
      | bearer userId =>
          obtain ⟨hid, _⟩ := Bool.and_eq_true_iff.mp hown
          obtain rfl : userId = guest.id := of_decide_eq_true hid
          -- logins may have changed the account, but not who it is
          obtain ⟨u, hme⟩ := h.me
          obtain ⟨u', hme'⟩ := h.symm.me
          simp only [ApiRequest.serve]
          rw [user_of_account hme, user_of_account hme']
          by_cases hactive : guest.isActive = true
          · simp only [if_pos hactive, Credentials.caller]
            cases write with
            | voice write =>
                simp only [voiceHandle_of_identity hme.2, voiceHandle_of_identity hme'.2,
                  voiceAnswer_of_identity hme.2, voiceAnswer_of_identity hme'.2]
                exact h.voice hactive hrole hD.sessions query latencyMs hstays hstays'
            | owned write =>
                simp only [owned_of_identity hme.2 _ _ _ _ hstays,
                  owned_of_identity hme'.2 _ _ _ _ hstays']
                have hdone := @SameToGuest.owned py guest known w w' hrole h D.filters hD.requests
                  query write hstays (.token guest.id)
                exact ⟨congrArg Answer.response hdone.answer, hdone.db⟩
          · simp only [if_neg hactive]
            exact ⟨rfl, h⟩
  | register body remoteAddr fresh => exact absurd hown (by simp [ApiRequest.own])
  | token req now => exact absurd hown (by simp [ApiRequest.own])

end

/-! ## §5. Runs. -/

/-- Whoever is known stays known. -/
theorem Db.Stands.knows {db db' : Db} (h : db.Stands db') {known : List User}
    (hknown : db.Knows known) : db'.Knows known := by
  intro u hu
  obtain ⟨newcomers, _, husers⟩ := h.users
  obtain ⟨row, hrow, hid⟩ := Option.map_eq_some_iff.mp (hknown u hu)
  -- accounts are added behind those that were there
  have hstill : u ∈ db'.users.rows.map User.identity := by
    rw [husers, List.map_append, ← hid]
    exact List.mem_append_left _ (List.mem_map_of_mem (Table.mem_of_find? hrow))
  obtain ⟨row', hrow', hid'⟩ := List.mem_map.mp hstill
  have hkey : row'.id = u.id := (congrArg User.id hid' :)
  rw [← hkey, Table.find?_of_mem hrow', Option.map_some, hid']

/-- **A request of somebody else** leaves the hotel looking the same. -/
theorem serve_other {guest : User} {known : List User} {db' : Db} (D : Deployment) {w : World}
    (h : SameToGuest guest known w.db db') (latencyMs : Text) {request : ApiRequest py}
    (houtside : Outsider guest.id w.db.personnel request) :
    SameToGuest guest known (request.serve D w latencyMs).1.db db' := by
  have hrows := (sameRows_serve D w latencyMs houtside).symm
  have hstands := stands_of_leads (statements_serve D w latencyMs request)
  -- own rows are left alone; accounts and rooms stand, whoever asks
  refine ⟨h.self, hstands.knows h.knows, h.knows', hrows.trans h.rows, ?_, ?_⟩
  · exact h.rooms.trans hstands.rooms.symm
  · intro r hr
    rw [← hrows.requests] at hr
    exact h.assigned r hr

/-- The guest's requests are about the guest's own; all others come from other guests, or from
nobody. -/
def Apart (guest : User) (w : World) (call : RestCall py) : Prop :=
  if call.request.own guest.id then call.request.StaysOwn guest.id w.db
  else Outsider guest.id w.db.personnel call.request

theorem apart_own {guest : User} {w : World} {call : RestCall py}
    (hown : call.request.own guest.id = true) (h : call.request.StaysOwn guest.id w.db) :
    Apart guest w call := by
  unfold Apart
  rw [if_pos hown]
  exact h

theorem apart_other {guest : User} {w : World} {call : RestCall py}
    (hown : call.request.own guest.id = false)
    (h : Outsider guest.id w.db.personnel call.request) : Apart guest w call := by
  unfold Apart
  rw [if_neg (by rw [hown]; decide)]
  exact h

/-- What the client of a call gets. -/
def RestCall.answer (D : Deployment) (w : World) (call : RestCall py) : Answer :=
  (call.request.serve D w call.latencyMs).2

theorem unwinds_restStep {guest : User} (known : List User) {D : Deployment} (hD : D.Local)
    (hrole : guest.role = .guest) :
    Unwinds (restStep D) (fun w (call : RestCall py) => call.answer D w)
      (fun call => call.request.own guest.id) (Apart guest)
      fun w w' => SameToGuest guest known w.db w'.db where
  symm := fun _ _ h => h.symm
  answer := by
    intro w w' call hown hw hw' h
    unfold Apart at hw hw'
    rw [if_pos hown] at hw hw'
    exact (serve_own hD hrole h call.latencyMs hown hw hw').answer
  ownStep := by
    intro w w' call hown hw hw' h
    unfold Apart at hw hw'
    rw [if_pos hown] at hw hw'
    exact (serve_own hD hrole h call.latencyMs hown hw hw').db
  otherStep := by
    intro w w' call hown hw h
    unfold Apart at hw
    rw [if_neg (by rw [hown]; decide)] at hw
    exact serve_other D h call.latencyMs hw

/-- **Guests do not interfere.**  Of two runs with the same requests of the guest about voice
sessions and service requests, whatever other guests and clients without a token do in each, the
guest gets the same answers, and is left with the same sessions, service requests and bookings. -/
theorem guests_do_not_interfere {D : Deployment} (hD : D.Local) {guest : User}
    (hrole : guest.role = .guest) {w : World} (hguest : guest ∈ w.db.users)
    (hassigned : ∀ r ∈ w.db.serviceRequests, ∀ a ∈ r.assignedTo, w.db.users.Has a)
    {calls calls' : List (RestCall py)}
    (hsame : calls.filter (fun call => call.request.own guest.id)
      = calls'.filter fun call => call.request.own guest.id)
    (h : AllSteps (restStep D) (Apart guest) w calls)
    (h' : AllSteps (restStep D) (Apart guest) w calls') :
    answersIn (restStep D) (fun w call => call.answer D w)
          (fun call => call.request.own guest.id) w calls
        = answersIn (restStep D) (fun w call => call.answer D w)
          (fun call => call.request.own guest.id) w calls'
      ∧ SameRows (fun id => id = guest.id) (run (restStep D) w calls).db
          (run (restStep D) w calls').db := by
  have hknows : w.db.Knows (w.db.users.rows.map User.identity) := by
    intro u hu
    obtain ⟨row, hrow, rfl⟩ := List.mem_map.mp hu
    show (w.db.users.find? row.id).map User.identity = _
    rw [Table.find?_of_mem hrow]
    rfl
  -- whoever has an account now is known throughout
  have hstart : SameToGuest guest (w.db.users.rows.map User.identity) w.db w.db := by
    refine ⟨List.mem_map_of_mem hguest, hknows, hknows, .refl _ w.db, rfl, ?_⟩
    intro r hr a ha
    obtain ⟨u, hu, hid⟩ := hassigned r (List.mem_filter.mp hr).1 a ha
    exact ⟨u.identity, List.mem_map_of_mem hu, hid⟩
  have hunwinds := @unwinds_restStep py guest (w.db.users.rows.map User.identity) D hD hrole
  obtain ⟨hanswers, hend⟩ := hunwinds.answers_eq_of_same_own hstart hsame h h'
  exact ⟨hanswers, hend.rows⟩

theorem local_plainBackends {R : Type} (names : R → List Uuid) :
    (plainBackends : Backends R).Local names :=
  ⟨fun _ _ _ _ _ _ _ => rfl, fun _ _ _ _ _ _ _ => rfl, fun _ _ _ _ _ hr => hr⟩

/-- The first demo guest ends the session and looks at what there is. -/
def demoVisit : List (RestCall plainPython) :=
  [⟨.write (.bearer 1) [] (.voice (.finish (some 5) (demoSessionFresh 9))), txt "7"⟩,
    ⟨.read (.bearer 1) [] (.voice .list), txt "8"⟩]

/-- Nothing of it says that the second guest has opened a session before. -/
theorem demo_guests_do_not_interfere :
    answersIn (restStep plainDeployment) (fun w call => call.answer plainDeployment w)
          (fun call => call.request.own demoGuest.id) demoDesk (demoOthers ++ demoVisit)
        = answersIn (restStep plainDeployment) (fun w call => call.answer plainDeployment w)
          (fun call => call.request.own demoGuest.id) demoDesk demoVisit
      ∧ SameRows (fun id => id = demoGuest.id)
          (run (restStep plainDeployment) demoDesk (demoOthers ++ demoVisit)).db
          (run (restStep plainDeployment) demoDesk demoVisit).db := by
  have hvisit : ∀ w, AllSteps (restStep plainDeployment) (Apart demoGuest) w demoVisit := by
    intro w
    refine ⟨apart_own rfl ?_, apart_own rfl trivial, trivial⟩
    show ∀ id ∈ none, _
    exact fun id hid => absurd hid (by simp)
  have hothers : AllSteps (restStep plainDeployment) (Apart demoGuest) demoDesk demoOthers := by
    refine ⟨apart_other rfl (demoOthers_outsiders _ List.mem_cons_self), apart_other rfl ?_,
      trivial⟩
    intro id hid
    exact absurd hid (by simp [ApiRequest.writer])
  -- the requests of the second guest are not the own ones
  have hsame : (demoOthers ++ demoVisit).filter (fun call => call.request.own demoGuest.id)
      = demoVisit.filter fun call => call.request.own demoGuest.id := by
    rw [List.filter_append, List.filter_eq_nil_iff.mpr, List.nil_append]
    intro call hcall
    rcases List.mem_pair.mp hcall with rfl | rfl
    · simp [ApiRequest.own, demoGuest]
    · simp [ApiRequest.own]
  have hassigned : ∀ r ∈ demoDesk.db.serviceRequests, ∀ a ∈ r.assignedTo,
      demoDesk.db.users.Has a := by
    intro r hr a ha
    obtain rfl : r = demoRequest := List.mem_singleton.mp hr
    exact absurd ha (by simp [demoRequest])
  exact guests_do_not_interfere ⟨local_plainBackends _, local_plainBackends _⟩ rfl
    List.mem_cons_self hassigned hsame (allSteps_append.mpr ⟨hothers, hvisit _⟩) (hvisit _)

end HotelAgent
