/-
  HotelAgent.Api.GuestIsolation — guests neither see nor touch each other's rows.

  Two statements about one guest:

      reading   is the same in two stores that agree on the users, the rooms and
                the guest's own sessions, requests and bookings
      writing   leaves every session, request and booking of somebody else

  Main results:
    * `respond_of_sameForGuest`, `othersKept_perform` — the two halves.
    * `guest_isolation` — both.
-/
import HotelAgent.Api.Endpoints
import HotelAgent.Api.RequestCreation

namespace HotelAgent

open Lib

variable {py : Python}

/-! ## §1. A guest's part of a store, and the rest. -/

/-- The columns of the sessions that `p` selects by their guest. -/
def sessionsOf (db : Db) (p : Uuid → Bool) : List VoiceSession :=
  (db.voiceSessions.rows.filter fun s => p s.guestId).map VoiceSession.columns

/-- The service requests that `p` selects by their guest. -/
def requestsOf (db : Db) (p : Uuid → Bool) : List ServiceRequest :=
  db.serviceRequests.rows.filter fun r => p r.guestId

/-- The bookings that `p` selects by their guest. -/
def bookingsOf (db : Db) (p : Uuid → Bool) : List Booking :=
  db.bookings.rows.filter fun b => p b.guestId

/-- The rows of the guests in `p` are the same in both stores. -/
structure SameRows (p : Uuid → Bool) (db db' : Db) : Prop where
  sessions : sessionsOf db' p = sessionsOf db p
  requests : requestsOf db' p = requestsOf db p
  bookings : bookingsOf db' p = bookingsOf db p

theorem SameRows.refl (p : Uuid → Bool) (db : Db) : SameRows p db db := ⟨rfl, rfl, rfl⟩

theorem SameRows.trans {p : Uuid → Bool} {db db' db'' : Db} (h : SameRows p db db')
    (h' : SameRows p db' db'') : SameRows p db db'' :=
  ⟨h'.sessions.trans h.sessions, h'.requests.trans h.requests, h'.bookings.trans h.bookings⟩

/-- **The stores agree on what concerns the guest.** -/
structure SameForGuest (guestId : Uuid) (db db' : Db) : Prop where
  users : db'.users = db.users
  rooms : db'.rooms = db.rooms
  rows : SameRows (fun id => id = guestId) db db'

/-- **Nobody else's row has changed.** -/
def OthersKept (guestId : Uuid) (db db' : Db) : Prop := SameRows (fun id => id ≠ guestId) db db'

/-! ## §2. What a guest reads. -/

section
variable {guest : User} (hguest : guest.role = .guest)
include hguest

/-- The querysets of a guest. -/
theorem sessionQueryset_guest (db : Db) :
    sessionQueryset db guest
      = newestFirst VoiceSession.startedAt (sessionsOf db fun id => id = guest.id) := by
  unfold sessionQueryset sessionsOf
  simp [hguest]

theorem bookingQueryset_guest (db : Db) :
    bookingQueryset db (some guest)
      = .ok (newestFirst Booking.createdAt (bookingsOf db fun id => id = guest.id)) := by
  unfold bookingQueryset bookingsOf
  simp [hguest]

theorem requestQueryset_guest (db : Db) :
    requestQueryset db (some guest)
      = .ok (newestFirst ServiceRequest.createdAt (requestsOf db fun id => id = guest.id)) := by
  unfold requestQueryset requestsOf
  simp only [hguest]

/-- **What a guest reads** depends on nobody else's rows. -/
theorem respond_of_sameForGuest (F : Filters) {db db' : Db} (hmem : guest ∈ db.users)
    (h : SameForGuest guest.id db db') (query : Query) (read : ReadRequest) :
    respond F db' (.bearer guest.id) query read = respond F db (.bearer guest.id) query read := by
  obtain ⟨husers, hrooms, hsessions, hrequests, hbookings⟩ := h
  -- the three querysets are functions of the guest's own rows
  have hqs : sessionQueryset db' guest = sessionQueryset db guest := by
    rw [sessionQueryset_guest hguest, sessionQueryset_guest hguest, hsessions]
  have hqr : requestQueryset db' (some guest) = requestQueryset db (some guest) := by
    rw [requestQueryset_guest hguest, requestQueryset_guest hguest, hrequests]
  have hqb : bookingQueryset db' (some guest) = bookingQueryset db (some guest) := by
    rw [bookingQueryset_guest hguest, bookingQueryset_guest hguest, hbookings]
  have hfind : db.users.find? guest.id = some guest := Table.find?_of_mem hmem
  unfold respond Credentials.user
  simp only [husers, hfind]
  -- an inactive guest is refused before anything is read
  by_cases hactive : guest.isActive = true
  · simp only [hactive, if_true]
    cases read with
    | voice read =>
        cases read with
        | list => simp only [VoiceRead.respond, hqs, husers, hrooms]
        | retrieve pk => simp only [VoiceRead.respond, sessionObject, hqs, husers, hrooms]
        | transcript pk => simp only [VoiceRead.respond, sessionObject, hqs, husers, hrooms]
    | owned read =>
        cases read with
        | listRequests => simp only [OwnedRead.respond, ownedList, hqr, husers, hrooms]
        | retrieveRequest pk =>
            simp only [OwnedRead.respond, requestObject, ownedObject, hqr, husers, hrooms]
        | listBookings => simp only [OwnedRead.respond, ownedList, hqb, husers, hrooms]
        | retrieveBooking pk =>
            simp only [OwnedRead.respond, bookingObject, ownedObject, hqb, husers, hrooms]
  · simp only [hactive, Bool.false_eq_true, if_false]

end

/-! ## §3. Statements that reach hidden rows only. -/

section
variable {p : Uuid → Bool} {db db' : Db}

theorem sameRows_insertSession {s : VoiceSession} (hs : p s.guestId = false)
    (h : db.insertSession s = some db') : SameRows p db db' := by
  obtain ⟨_, _, hrows, _, _, hbookings, hrequests⟩ := Db.insertSession_eq_some h
  refine ⟨?_, ?_, ?_⟩
  · unfold sessionsOf
    rw [hrows, List.filter_append, List.filter_singleton, hs]
    exact congrArg _ (List.append_nil _)
  · unfold requestsOf
    rw [hrequests]
  · unfold bookingsOf
    rw [hbookings]

theorem sameRows_saveSession {id : Uuid} {write : SessionWrite}
    (hs : ∀ s ∈ db.voiceSessions, s.id = id → p s.guestId = false)
    (h : db.saveSession id write = some db') : SameRows p db db' := by
  obtain ⟨hsessions, _, _, hbookings, hrequests⟩ := saveSession_tables h
  refine ⟨?_, ?_, ?_⟩
  · unfold sessionsOf
    rw [hsessions]
    refine congrArg _ (Table.filter_updateWhere fun s hmem hid => ?_)
    have hhidden := hs s hmem (of_decide_eq_true hid)
    exact ⟨hhidden, by rw [write.guestId_eq]; exact hhidden⟩
  · unfold requestsOf
    rw [hrequests]
  · unfold bookingsOf
    rw [hbookings]

theorem sameRows_deleteSession {id : Uuid}
    (hs : ∀ s ∈ db.voiceSessions, s.id = id → p s.guestId = false) :
    SameRows p db (db.deleteSession id) :=
  ⟨congrArg _ (Table.filter_erase hs), rfl, rfl⟩

/-- One request is written over and stays with its guest. -/
theorem sameRows_of_wrote {r r' : ServiceRequest} (h : db.Wrote db' r r')
    (hr : p r.guestId = false) (hguest : r'.guestId = r.guestId) : SameRows p db db' := by
  refine ⟨?_, ?_, ?_⟩
  · unfold sessionsOf
    rw [h.voiceSessions]
  · unfold requestsOf
    rw [h.serviceRequests, ← Table.save_of_has h.has]
    refine Table.filter_save (by rw [hguest]; exact hr) fun x hx hid => ?_
    rw [Table.eq_of_key_eq hx h.mem (hid.trans h.id_eq)]
    exact hr
  · unfold bookingsOf
    rw [h.bookings]

/-- The links of the sessions are no columns of theirs. -/
theorem sameRows_deleteServiceRequest {id : Uuid}
    (hr : ∀ r ∈ db.serviceRequests, r.id = id → p r.guestId = false) :
    SameRows p db (db.deleteServiceRequest id) := by
  refine ⟨?_, Table.filter_erase hr, rfl⟩
  unfold sessionsOf Db.deleteServiceRequest Table.updateWhere
  simp only [if_true, List.filter_map, List.map_map]
  rfl

theorem sameRows_saveBooking {b : Booking} (hb : p b.guestId = false)
    (hold : ∀ x ∈ db.bookings, x.id = b.id → p x.guestId = false)
    (h : db.saveBooking b = some db') : SameRows p db db' := by
  obtain ⟨_, hbookings, _, _, hrequests, hsessions, _⟩ := Db.saveBooking_eq_some_iff.mp h
  refine ⟨?_, ?_, ?_⟩
  · unfold sessionsOf
    rw [hsessions]
  · unfold requestsOf
    rw [hrequests]
  · unfold bookingsOf
    rw [hbookings]
    exact Table.filter_save hb hold

theorem sameRows_deleteBooking {id : Uuid}
    (hb : ∀ b ∈ db.bookings, b.id = id → p b.guestId = false)
    (h : db.deleteBooking id = some db') : SameRows p db db' := by
  obtain ⟨_, hbookings, _, _, hrequests, hsessions⟩ := Db.deleteBooking_eq_some h
  refine ⟨?_, ?_, ?_⟩
  · unfold sessionsOf
    rw [hsessions]
  · unfold requestsOf
    rw [hrequests]
  · unfold bookingsOf
    rw [hbookings]
    exact Table.filter_erase hb

/-- The signal of a booking writes rooms only. -/
theorem sameRows_onBookingSave (py : Python) (w : World) (b : Booking) (created : Bool)
    (fresh : Fresh) : SameRows p w.db (onBookingSave py w b created fresh).1.db := by
  have hsync : SameRows p w.db (syncRoom w.db b) := by
    unfold syncRoom
    cases b.status with
    | pending => exact SameRows.refl p w.db
    | confirmed => exact SameRows.refl p w.db
    -- the rooms belong to nobody
    | checkedIn => exact ⟨rfl, rfl, rfl⟩
    | checkedOut => exact ⟨rfl, rfl, rfl⟩
    | cancelled => exact ⟨rfl, rfl, rfl⟩
  unfold onBookingSave
  simp only
  split
  · split
    · exact SameRows.refl p w.db
    · exact hsync
  · exact hsync

/-- The atomic block of a turn stores a request of the draft's guest and a link. -/
theorem sameRows_createRequest {w : World} {d : RequestDraft} {fresh : SessionFresh}
    (hsession : ∃ s, w.db.voiceSessions.find? d.sessionId = some s)
    (hs : ∀ s ∈ w.db.voiceSessions, s.id = d.sessionId → p s.guestId = false)
    (hd : p d.guest.id = false) : SameRows p w.db (createRequest py w d fresh).1.db := by
  by_cases hcommits : d.commits py w.db fresh = true
  · obtain ⟨row, stored, hrow, _, hgained⟩ := createRequest_of_commits hsession hcommits
    refine ⟨?_, ?_, ?_⟩
    · unfold sessionsOf
      rw [hgained.sessions]
      refine congrArg _ (Table.filter_updateWhere fun s hmem hid => ?_)
      have hhidden := hs s hmem (of_decide_eq_true hid)
      exact ⟨hhidden, hhidden⟩
    · obtain ⟨_, _, _, _, hstored⟩ := hgained.kept
      have hguest : stored.guestId = d.guest.id := by
        rw [hstored]
        exact (row_columns hrow).2.2.1
      unfold requestsOf
      rw [hgained.rows, List.filter_append, List.filter_singleton, hguest, hd]
      exact List.append_nil _
    · unfold bookingsOf
      rw [hgained.bookings]
  · have hno : d.commits py w.db fresh = false := by simpa using hcommits
    rw [(createRequest_of_not_commits hno).1]
    exact SameRows.refl p w.db

end

/-! ## §4. What a guest writes. -/

/-- Who holds the key of a hidden row is that row. -/
theorem hidden_of_mem {R K : Type} [DecidableEq K] {key : R → K} {t : Table key} {p : R → Bool}
    {r : R} (hr : r ∈ t) (hp : p r = false) : ∀ x ∈ t, key x = key r → p x = false := by
  intro x hx hkey
  rw [Table.eq_of_key_eq hx hr hkey]
  exact hp

section
variable {w : World} {caller : Caller} {guest : User} (hguest : guest.role = .guest)
  (hauth : authenticate w.db caller = some (some guest))
include hguest hauth

/-- A guest's sessions are the own ones. -/
theorem getSession_guest {pk : Uuid} {user : User} {s : VoiceSession}
    (h : getSession w.db caller pk = .ok (user, s)) :
    user = guest ∧ s ∈ w.db.voiceSessions ∧ s.guestId = guest.id := by
  have hmem := Table.mem_of_find? (getSession_ok h)
  unfold getSession requireUser at h
  simp only [hauth] at h
  split at h
  · exact absurd h (by simp)
  · split at h
    · exact absurd h (by simp)
    next hown =>
      injection h with h
      injection h with hu hs
      subst hu hs
      refine ⟨rfl, hmem, ?_⟩
      by_contra hne
      exact hown ⟨hguest, hne⟩

/-- A guest's bookings are the own ones. -/
theorem getBooking_guest {pk : Uuid} {b : Booking} (h : getBooking w.db caller pk = .ok b) :
    b ∈ w.db.bookings ∧ b.guestId = guest.id := by
  have hmem := (getBooking_ok h).1
  unfold getBooking at h
  simp only [hauth] at h
  split at h
  · exact absurd h (by simp)
  · split at h
    · exact absurd h (by simp)
    next hown =>
      split at h
      · injection h with h
        subst h
        refine ⟨hmem, ?_⟩
        by_contra hne
        exact hown ⟨hguest, hne⟩
      · exact absurd h (by simp)

omit hguest in
theorem othersKept_createSession (bookingId : Option Uuid) (fresh : SessionFresh) :
    OthersKept guest.id w.db (createSession py w caller bookingId fresh).1.db := by
  have hkept : OthersKept guest.id w.db w.db := SameRows.refl _ w.db
  unfold createSession requireUser
  simp only [hauth]
  split
  · exact hkept
  · split
    · exact hkept
    next db hins =>
      have hrows : OthersKept guest.id w.db db := sameRows_insertSession (by simp [newSession]) hins
      split
      · exact hrows
      · exact hrows

theorem othersKept_processTurn (pk : Uuid) (req : TurnRequest) (agent : AgentOutcome py)
    (fresh : SessionFresh) :
    OthersKept guest.id w.db (processTurn w caller pk req agent fresh).1.db := by
  unfold processTurn
  cases hread : readTurn w.db caller pk req with
  | error answer => exact SameRows.refl _ w.db
  | ok t =>
      obtain ⟨user, s, content⟩ := t
      obtain ⟨rfl, hmem, hown⟩ := getSession_guest hguest hauth (readTurn_seen hread).1
      -- every row with the key of the session is the guest's
      have hhidden := hidden_of_mem (p := fun s => decide (s.guestId ≠ user.id)) hmem
        (by simp [hown])
      cases agent with
      | raises =>
          simp only
          cases hfail : failTurn w.db s with
          | none => exact SameRows.refl _ w.db
          | some db => exact sameRows_saveSession hhidden hfail
      | replies r =>
          simp only
          cases hsave : saveTurn w.db s content r fresh.nowTs with
          | none => exact SameRows.refl _ w.db
          | some db =>
              have hsaved : OthersKept user.id w.db db := sameRows_saveSession hhidden hsave
              unfold finishTurn
              cases hdraft : requestDraft user s r with
              | none => exact hsaved
              | some d =>
                  obtain ⟨hcaller, hsession, _⟩ := requestDraft_eq_some hdraft
                  obtain ⟨row, hrow, _, hrow', _⟩ := Db.saveSession_eq_some hsave
                  -- the saved row of the session is still the guest's
                  obtain ⟨hmem', hid'⟩ := Table.find?_eq_some_iff.mp hrow'
                  have hrows : row = s := by
                    rw [Table.find?_of_mem hmem] at hrow
                    injection hrow with hrow
                    exact hrow.symm
                  have hhidden' := hidden_of_mem (p := fun s => decide (s.guestId ≠ user.id)) hmem'
                    (by rw [SessionWrite.guestId_eq, hrows]; simp [hown])
                  rw [hid', ← hsession] at hhidden'
                  rw [← hsession] at hrow'
                  have hblock : OthersKept user.id db
                      (createRequest py { w with db := db } d fresh).1.db :=
                    sameRows_createRequest (w := { w with db := db }) ⟨_, hrow'⟩ hhidden'
                      (by simp [hcaller])
                  simp only
                  split
                  next w' heq =>
                    rw [heq] at hblock
                    exact hsaved.trans hblock
                  next w' x heq =>
                    rw [heq] at hblock
                    exact hsaved.trans hblock

theorem othersKept_endSession (pk : Uuid) (fresh : SessionFresh) :
    OthersKept guest.id w.db (endSession py w caller pk fresh).1.db := by
  unfold endSession
  cases hread : readEnd w.db caller pk with
  | error answer => exact SameRows.refl _ w.db
  | ok s =>
      obtain ⟨⟨user, hget⟩, _⟩ := readEnd_seen hread
      obtain ⟨_, hmem, hown⟩ := getSession_guest hguest hauth hget
      simp only
      cases hsave : saveEnd w.db s fresh.now with
      | none => exact SameRows.refl _ w.db
      | some db =>
          have hsaved : OthersKept guest.id w.db db :=
            sameRows_saveSession (hidden_of_mem hmem (by simp [hown])) hsave
          unfold finishEnd
          simp only
          split
          · exact hsaved
          · exact hsaved

omit hguest in
theorem othersKept_createBooking (body : BookingBody) (fresh : Fresh) :
    OthersKept guest.id w.db (createBooking py w caller body fresh).1.db := by
  unfold createBooking
  cases hread : readCreate w.db caller body with
  | error answer => exact SameRows.refl _ w.db
  | ok draft =>
      have hdraft : draft.guest = guest := by
        unfold readCreate at hread
        simp only [hauth] at hread
        split at hread
        · split at hread
          · split at hread
            · exact absurd hread (by simp)
            · injection hread with hread
              rw [← hread]
          · exact absurd hread (by simp)
        · exact absurd hread (by simp)
      simp only
      cases hins : w.db.insertBooking (draft.row fresh) with
      | none => exact SameRows.refl _ w.db
      | some db =>
          unfold Db.insertBooking at hins
          split at hins
          · exact absurd hins (by simp)
          -- the key is fresh, so no row is written over
          next hnew =>
            have hsaved : OthersKept guest.id w.db db :=
              sameRows_saveBooking (by simp [BookingDraft.row, hdraft])
                (fun x hx hid => absurd ⟨x, hx, hid⟩ hnew) hins
            exact hsaved.trans
              (sameRows_onBookingSave py { w with db := db } (draft.row fresh) true fresh)

theorem othersKept_updateBooking (pk : Uuid) (part : Bool) (body : BookingBody) (fresh : Fresh) :
    OthersKept guest.id w.db (updateBooking py w caller pk part body fresh).1.db := by
  unfold updateBooking
  cases hread : readUpdate w.db caller pk part body with
  | error answer => exact SameRows.refl _ w.db
  | ok b =>
      obtain ⟨hmem, hown⟩ := getBooking_guest hguest hauth (readUpdate_seen hread)
      have hhidden := hidden_of_mem (p := fun b => decide (b.guestId ≠ guest.id)) hmem
        (by simp [hown])
      simp only
      cases hsave : w.db.saveBooking (body.applyTo b) with
      | none => exact SameRows.refl _ w.db
      | some db =>
          have hsaved : OthersKept guest.id w.db db :=
            sameRows_saveBooking (b := body.applyTo b) (by simp [BookingBody.applyTo, hown])
              hhidden hsave
          exact hsaved.trans
            (sameRows_onBookingSave py { w with db := db } (body.applyTo b) false fresh)

theorem othersKept_destroyBooking (pk : Uuid) :
    OthersKept guest.id w.db (destroyBooking w caller pk).1.db := by
  unfold destroyBooking
  cases hread : getBooking w.db caller pk with
  | error answer => exact SameRows.refl _ w.db
  | ok b =>
      obtain ⟨hmem, hown⟩ := getBooking_guest hguest hauth hread
      simp only
      cases hdel : w.db.deleteBooking b.id with
      | none => exact SameRows.refl _ w.db
      | some db => exact sameRows_deleteBooking (hidden_of_mem hmem (by simp [hown])) hdel

end

section
variable {w : World} {guest : User} (hguest : guest.role = .guest)
include hguest

/-- A request that writes a row over finds it among the guest's own. -/
theorem rewrites_guest {action : RequestAction} {r r' : ServiceRequest}
    (h : action.rewrites py w.db (some guest) = some (r, r')) :
    r.guestId = guest.id ∧ r'.guestId = r.guestId := by
  obtain ⟨_, _, hget⟩ := getRequest_of_rewrites h
  obtain ⟨hu, _, _, hown, _⟩ := getRequest_ok hget
  injection hu with hu
  subst hu
  refine ⟨hown hguest, ?_⟩
  cases action with
  | assign pk fresh =>
      obtain ⟨_, _, rfl⟩ := rewrites_assign h
      rfl
  | complete pk data fresh =>
      obtain ⟨_, _, _, _, rfl⟩ := rewrites_complete h
      rfl
  | update pk part body =>
      obtain ⟨_, rfl⟩ := rewrites_update h
      rfl

theorem othersKept_action (action : RequestAction) :
    OthersKept guest.id w.db (action.handle py w (some guest)).1.db := by
  cases hwrites : action.rewrites py w.db (some guest) with
  | none =>
      rw [handle_of_rewrites_none hwrites]
      exact SameRows.refl _ w.db
  | some rows =>
      obtain ⟨r, r'⟩ := rows
      obtain ⟨hown, hsame⟩ := rewrites_guest hguest hwrites
      exact sameRows_of_wrote (handle_of_rewrites_some hwrites) (by simp [hown]) hsame

theorem othersKept_destroyServiceRequest (pk : Option Uuid) :
    OthersKept guest.id w.db (destroyServiceRequest w (some guest) pk).1.db := by
  unfold destroyServiceRequest
  cases hget : getRequest w.db (some guest) pk with
  | error response => exact SameRows.refl _ w.db
  | ok ur =>
      obtain ⟨u, r⟩ := ur
      obtain ⟨hu, hmem, _, hown, _⟩ := getRequest_ok hget
      injection hu with hu
      subst hu
      exact sameRows_deleteServiceRequest (hidden_of_mem hmem (by simp [hown hguest]))

end

/-! ## §5. Both halves. -/

section
variable {w : World} {caller : Caller} {guest : User} (hguest : guest.role = .guest)
  (hauth : authenticate w.db caller = some (some guest))
include hguest

/-- The object of a guest's request is one of the guest's sessions. -/
theorem sessionObject_guest {F : Filters} {query : Query} {pk : Option Uuid} {s : VoiceSession}
    (h : sessionObject F query w.db guest pk = .ok s) :
    ∀ x ∈ w.db.voiceSessions, x.id = s.id → decide (x.guestId ≠ guest.id) = false := by
  obtain ⟨hs, _⟩ := Backends.find_ok _ _ _ _ h
  rw [sessionQueryset_guest hguest, mem_newestFirst] at hs
  obtain ⟨row, hrow, hcolumns⟩ := List.mem_map.mp hs
  obtain ⟨hmem, hown⟩ := List.mem_filter.mp hrow
  rw [← hcolumns]
  exact hidden_of_mem (p := fun s => decide (s.guestId ≠ guest.id)) hmem (by simpa using hown)

omit hguest in
/-- A request to one service request that the handler answers for. -/
theorem othersKept_onRequest (F : Filters) (query : Query) (pk : Option Uuid)
    {handle : World → World × Response} (h : OthersKept guest.id w.db (handle w).1.db) :
    OthersKept guest.id w.db (onRequest F w (some guest) query pk handle).1.db := by
  unfold onRequest
  split
  · exact SameRows.refl _ w.db
  · exact h

include hauth

theorem othersKept_voice (F : Filters) (query : Query) (write : VoiceWrite py) :
    OthersKept guest.id w.db (write.handle F w caller (some guest) query).db := by
  have hkept : OthersKept guest.id w.db w.db := SameRows.refl _ w.db
  cases write with
  | create body fresh =>
      simp only [VoiceWrite.handle]
      split
      · exact othersKept_createSession hauth none fresh
      next id _ => exact othersKept_createSession hauth (some _) fresh
      · exact hkept
  | update pk =>
      simp only [VoiceWrite.handle, Option.map_some]
      split
      next s hobject =>
        split
        · exact hkept
        next db hsave =>
          injection hobject with hobject
          exact sameRows_saveSession (sessionObject_guest hguest hobject) hsave
      · exact hkept
  | destroy pk =>
      simp only [VoiceWrite.handle, Option.map_some]
      split
      next s hobject =>
        injection hobject with hobject
        exact sameRows_deleteSession (sessionObject_guest hguest hobject)
      · exact hkept
  | turn pk body optionErrors agent fresh =>
      simp only [VoiceWrite.handle]
      split
      · split
        · exact hkept
        · split
          · exact hkept
          · exact othersKept_processTurn hguest hauth _ _ agent fresh
      · exact hkept
  | finish pk fresh =>
      simp only [VoiceWrite.handle]
      split
      · exact othersKept_endSession hguest hauth _ fresh
      · exact hkept

theorem othersKept_owned (F : Filters) (query : Query) (write : OwnedWrite) :
    OthersKept guest.id w.db (write.handle py F w caller (some guest) query).1.db := by
  have hkept : OthersKept guest.id w.db w.db := SameRows.refl _ w.db
  cases write with
  | createRequest body =>
      simp only [OwnedWrite.handle]
      split
      · exact hkept
      · unfold createServiceRequest
        split
        · exact hkept
        · exact hkept
  | updateRequest pk part body =>
      refine othersKept_onRequest F query pk ?_
      split
      · exact hkept
      next data _ =>
        have haction : OthersKept guest.id w.db
            ((RequestAction.update pk part data).handle py w (some guest)).1.db :=
          othersKept_action hguest (.update pk part data)
        exact haction
  | destroyRequest pk =>
      exact othersKept_onRequest F query pk (othersKept_destroyServiceRequest hguest pk)
  | assign pk fresh =>
      exact othersKept_onRequest F query pk (othersKept_action hguest (.assign pk fresh))
  | complete pk body fresh =>
      refine othersKept_onRequest F query pk ?_
      split
      · exact hkept
      next data _ => exact othersKept_action hguest (.complete pk data fresh)
  | createBooking body fresh =>
      simp only [OwnedWrite.handle, postBooking]
      split
      · exact hkept
      · split
        · exact hkept
        · exact othersKept_createBooking hauth _ fresh
  | updateBooking pk part body fresh =>
      simp only [OwnedWrite.handle, putBooking]
      split
      · exact hkept
      · split
        · exact hkept
        · split
          · exact hkept
          · exact othersKept_updateBooking hguest hauth _ part _ fresh
  | destroyBooking pk =>
      simp only [OwnedWrite.handle, HotelAgent.deleteBooking]
      split
      · exact hkept
      · exact othersKept_destroyBooking hguest hauth _

end

/-- **A guest's request** changes nobody else's row. -/
theorem othersKept_perform (F : Filters) {w : World} {guest : User} (hguest : guest.role = .guest)
    (hmem : guest ∈ w.db.users) (query : Query) (write : WriteRequest py) :
    OthersKept guest.id w.db (perform F w (.bearer guest.id) query write).db := by
  unfold perform
  cases huser : (Credentials.bearer guest.id).user w.db with
  | error response => exact SameRows.refl _ w.db
  | ok user =>
      have hauth := Credentials.authenticate_caller huser
      have hsome : user = some guest := by
        unfold Credentials.user at huser
        simp only [Table.find?_of_mem hmem] at huser
        split at huser
        · injection huser with huser
          exact huser.symm
        · exact absurd huser (by simp)
      subst hsome
      cases write with
      | voice write => exact othersKept_voice hguest hauth F query write
      | owned write => exact othersKept_owned hguest hauth F query write

/-- **Guest isolation**, for every guest, request and pair of stores. -/
theorem guest_isolation (py : Python) (F : Filters) (guest : User) (hguest : guest.role = .guest) :
    (∀ db db' : Db, guest ∈ db.users → SameForGuest guest.id db db' → ∀ query read,
        respond F db' (.bearer guest.id) query read = respond F db (.bearer guest.id) query read)
      ∧ ∀ w : World, guest ∈ w.db.users → ∀ query (write : WriteRequest py),
          OthersKept guest.id w.db (perform F w (.bearer guest.id) query write).db :=
  ⟨fun _ _ hmem h query read => respond_of_sameForGuest hguest F hmem h query read,
    fun _ hmem query write => othersKept_perform F hguest hmem query write⟩

/-- The demo hotel without the other guest's booking. -/
def demoDeskAlone : Db :=
  { demoDesk.db with
    bookings := ⟨[demoStay], by decide⟩
    booking_ok := by decide +kernel
    booking_code := by decide
    request_ok := by decide +kernel
    session_ok := by decide +kernel }

/-- The demo guest lists bookings without learning of the other one, and deletes a
request without touching it. -/
theorem demoGuest_isolated :
    respond plainFilters demoDeskAlone (.bearer demoGuest.id) [] (.owned .listBookings)
        = respond plainFilters demoDesk.db (.bearer demoGuest.id) [] (.owned .listBookings)
      ∧ OthersKept demoGuest.id demoDesk.db (perform plainFilters demoDesk (.bearer demoGuest.id) []
          (.owned (.destroyRequest (some 30)) : WriteRequest plainPython)).db := by
  have hmem : demoGuest ∈ demoDesk.db.users := List.mem_cons_self
  have hsame : SameForGuest demoGuest.id demoDesk.db demoDeskAlone :=
    ⟨rfl, rfl, ⟨rfl, rfl, by decide +kernel⟩⟩
  have hisolation := guest_isolation plainPython plainFilters demoGuest rfl
  exact ⟨hisolation.1 _ _ hmem hsame _ _, hisolation.2 demoDesk hmem _ _⟩

end HotelAgent
