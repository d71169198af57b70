/-
  HotelAgent.Api.Statements — what a request sends to the database.

  A request may run through authentication, filters, serializers, an agent and a
  producer; what reaches the tables is a short list of statements:

      users              INSERT of a guest; the columns of a login
      audit log          INSERT
      sessions           INSERT for a checked-in stay or none; UPDATE; DELETE
      service requests   INSERT from a session with a booking; UPDATE that leaves
                         its guest and session; DELETE
      bookings           INSERT of a pending one; UPDATE that leaves its guest,
                         status and code; DELETE
      rooms              the status that a stored booking asks for

  Main results:
    * `statements_serve` — the database after a request is reached from the one
      before it by such statements.
    * `writesSessions_or_turn` — a write on voice sessions sends statements on no other
      table, or is a turn.
    * `aside_owned`, `aside_register`, `aside_tokenPost` — the requests that send no
      statement on voice sessions and insert no service request.
-/
import HotelAgent.Api.BookingInvariants
import HotelAgent.Api.Rest
import HotelAgent.Api.SessionRaces
import Mathlib.Logic.Relation

namespace HotelAgent

open Lib

variable {py : Python}

/-! ## §1. Statements. -/

/-- A user without the columns that logging in writes. -/
def User.identity (u : User) : User :=
  { u with password := [], lastLoginIp := none, failedLoginAttempts := 0, lockedUntil := none }

/-- The row `row` is written over `b` by a client: guest, status, code and price stay. -/
structure Booking.EditedTo (b row : Booking) : Prop where
  id : row.id = b.id
  guestId : row.guestId = b.guestId
  status : row.status = b.status
  confirmationCode : row.confirmationCode = b.confirmationCode
  totalPrice : row.totalPrice = b.totalPrice
  createdAt : row.createdAt = b.createdAt

/-- A statement on voice sessions. -/
inductive Db.SessionStatement (db : Db) : Db → Prop where
  | insert {db' : Db} (row : VoiceSession)
      (stay : ∀ id ∈ row.bookingId, ∃ b ∈ db.bookings, b.id = id ∧ b.guestId = row.guestId
        ∧ b.status = .checkedIn)
      (h : db.insertSession row = some db') : db.SessionStatement db'
  | update {db' : Db} (p : VoiceSession → Bool) (w : SessionWrite)
      (h : db.updateSessions p w = some db') : db.SessionStatement db'
  | delete (id : Uuid) : db.SessionStatement (db.deleteSession id)

/-- A statement on users or on the audit log. -/
inductive Db.AccountStatement (db : Db) : Db → Prop where
  | insertUser {db' : Db} (row : User) (role : row.role = .guest)
      (h : db.insertUser row = some db') : db.AccountStatement db'
  | insertAuditLog {db' : Db} (inet : Text → Bool) (row : AuditLog)
      (h : db.insertAuditLog inet row = some db') : db.AccountStatement db'
  | saveUser (id : Uuid) (w : UserWrite) (login : ∀ u, (w.write u).identity = u.identity) :
      db.AccountStatement (db.saveUser id w)

/-- The INSERT of a service request, for the booking of its session. -/
inductive Db.RequestInsert (db : Db) : Db → Prop where
  | insert {db' : Db} (row : ServiceRequest)
      (session : ∃ s ∈ db.voiceSessions, row.voiceSessionId = some s.id
        ∧ s.bookingId = some row.bookingId)
      (h : db.insertServiceRequest row = some db') : db.RequestInsert db'

/-- Another statement on service requests, or one on bookings or rooms. -/
inductive Db.HotelStatement (db : Db) : Db → Prop where
  | writeRequest {db' : Db} (r r' : ServiceRequest) (guest : r'.guestId = r.guestId)
      (session : r'.voiceSessionId = r.voiceSessionId) (h : db.Wrote db' r r') :
      db.HotelStatement db'
  | deleteRequest (id : Uuid) : db.HotelStatement (db.deleteServiceRequest id)
  | insertBooking {db' : Db} (row : Booking) (pending : row.status = .pending)
      (h : db.insertBooking row = some db') : db.HotelStatement db'
  | saveBooking {db' : Db} (b row : Booking) (mem : b ∈ db.bookings) (edited : b.EditedTo row)
      (h : db.saveBooking row = some db') : db.HotelStatement db'
  | syncRoom (b : Booking) (mem : b ∈ db.bookings) : db.HotelStatement (syncRoom db b)
  | deleteBooking {db' : Db} (id : Uuid) (h : db.deleteBooking id = some db') :
      db.HotelStatement db'

/-- A statement on another table than voice sessions, and no new service request. -/
inductive Db.OtherStatement (db db' : Db) : Prop where
  | account (h : db.AccountStatement db')
  | hotel (h : db.HotelStatement db')

/-- A statement of a write: none on accounts. -/
inductive Db.WriteStatement (db db' : Db) : Prop where
  | session (h : db.SessionStatement db')
  | request (h : db.RequestInsert db')
  | hotel (h : db.HotelStatement db')

/-- One statement that a request sends. -/
inductive Db.Statement (db db' : Db) : Prop where
  | session (h : db.SessionStatement db')
  | request (h : db.RequestInsert db')
  | other (h : db.OtherStatement db')

/-- Statements, one after the other. -/
abbrev Db.Leads : Db → Db → Prop := Relation.ReflTransGen Db.Statement

/-- Statements on other tables than voice sessions, without a new service request. -/
abbrev Db.LeadsAside : Db → Db → Prop := Relation.ReflTransGen Db.OtherStatement

/-- Statements of writes. -/
abbrev Db.Writes : Db → Db → Prop := Relation.ReflTransGen Db.WriteStatement

/-- Those on voice sessions. -/
abbrev Db.WritesSessions : Db → Db → Prop := Relation.ReflTransGen Db.SessionStatement

/-- Those of writes outside the voice sessions. -/
abbrev Db.WritesAside : Db → Db → Prop := Relation.ReflTransGen Db.HotelStatement

theorem Db.LeadsAside.leads {db db' : Db} (h : db.LeadsAside db') : db.Leads db' :=
  Relation.ReflTransGen.mono (fun _ _ h => Db.Statement.other h) db db' h

theorem Db.Writes.leads {db db' : Db} (h : db.Writes db') : db.Leads db' := by
  refine Relation.ReflTransGen.mono (fun _ _ h => ?_) db db' h
  cases h with
  | session h => exact .session h
  | request h => exact .request h
  | hotel h => exact .other (.hotel h)

theorem Db.WritesSessions.writes {db db' : Db} (h : db.WritesSessions db') : db.Writes db' :=
  Relation.ReflTransGen.mono (fun _ _ h => Db.WriteStatement.session h) db db' h

theorem Db.WritesAside.of_eq {db db' : Db} (h : db' = db) : db.WritesAside db' := by
  rw [h]

theorem Db.WritesAside.leadsAside {db db' : Db} (h : db.WritesAside db') : db.LeadsAside db' :=
  Relation.ReflTransGen.mono (fun _ _ h => Db.OtherStatement.hotel h) db db' h

theorem Db.WritesAside.writes {db db' : Db} (h : db.WritesAside db') : db.Writes db' :=
  Relation.ReflTransGen.mono (fun _ _ h => Db.WriteStatement.hotel h) db db' h

theorem Db.SessionStatement.writes {db db' : Db} (h : db.SessionStatement db') :
    db.WritesSessions db' :=
  Relation.ReflTransGen.single h

theorem Db.RequestInsert.writes {db db' : Db} (h : db.RequestInsert db') : db.Writes db' :=
  Relation.ReflTransGen.single (.request h)

theorem Db.HotelStatement.aside {db db' : Db} (h : db.HotelStatement db') : db.WritesAside db' :=
  Relation.ReflTransGen.single h

theorem Db.AccountStatement.aside {db db' : Db} (h : db.AccountStatement db') :
    db.LeadsAside db' :=
  Relation.ReflTransGen.single (.account h)

theorem writes_saveSession {db db' : Db} {id : Uuid} {w : SessionWrite}
    (h : db.saveSession id w = some db') : db.WritesSessions db' := by
  unfold Db.saveSession at h
  split at h
  · exact (Db.SessionStatement.update _ w h).writes
  · exact absurd h (by simp)

/-! ## §2. Voice sessions. -/

section
variable {w : World} {caller : Caller}

theorem writes_createSession (bookingId : Option Uuid) (fresh : SessionFresh) :
    w.db.WritesSessions (createSession py w caller bookingId fresh).1.db := by
  unfold createSession
  cases requireUser w.db caller with
  | error answer => exact .refl
  | ok user =>
      simp only
      split
      · exact .refl
      · split
        · exact .refl
        next db hins =>
          have hwrites : w.db.WritesSessions db := by
            refine (Db.SessionStatement.insert _ ?_ hins).writes
            intro id hid
            -- the session has the booking that the caller is checked in with
            obtain ⟨b, hb, rfl⟩ := Option.map_eq_some_iff.mp hid
            obtain ⟨pk, _, hstay⟩ := Option.bind_eq_some_iff.mp hb
            unfold checkedInBooking at hstay
            split at hstay
            next x hx =>
              split at hstay
              next hown =>
                injection hstay with hstay
                subst hstay
                exact ⟨x, Table.mem_of_find? hx, rfl, hown.1, hown.2⟩
              · exact absurd hstay (by simp)
            · exact absurd hstay (by simp)
          split
          · exact hwrites
          · exact hwrites

/-- The atomic block inserts the request and links the session to it, or leaves everything. -/
theorem writes_createRequest {d : RequestDraft} {fresh : SessionFresh}
    (hsession : ∃ s ∈ w.db.voiceSessions, s.id = d.sessionId ∧ s.bookingId = some d.bookingId) :
    w.db.Writes (createRequest py w d fresh).1.db := by
  rw [createRequest_eq]
  split
  · exact .refl
  next row db hins =>
    split
    · split
      · exact .refl
      next db' hlink =>
        split
        · unfold RequestDraft.inserts at hins
          split at hins
          · exact absurd hins (by simp)
          next row' hrow =>
            obtain ⟨db₁, hdb, heq⟩ := Option.map_eq_some_iff.mp hins
            injection heq with hr hd
            subst hr hd
            obtain ⟨_, _, _, hbooking, hvoice⟩ := row_columns hrow
            obtain ⟨s, hs, hid, hstay⟩ := hsession
            have hinsert := Db.RequestInsert.insert row'
              ⟨s, hs, by rw [hvoice, hid], by rw [hstay, hbooking]⟩ hdb
            exact hinsert.writes.trans (writes_saveSession hlink).writes
        · exact .refl
    · exact .refl

theorem writes_processTurn (pk : Uuid) (req : TurnRequest) (agent : AgentOutcome py)
    (fresh : SessionFresh) : w.db.Writes (processTurn w caller pk req agent fresh).1.db := by
  cases hdraft : turnDraft w.db caller pk req agent fresh with
  | none =>
      rw [processTurn_eq_of_no_draft hdraft]
      split
      · exact .refl
      · split
        · exact .refl
        next db hfail => exact (writes_saveSession hfail).writes
      · split
        · exact .refl
        next db hsave => exact (writes_saveSession hsave).writes
  | some found =>
      obtain ⟨db, d⟩ := found
      rw [processTurn_of_draft hdraft]
      obtain ⟨user, s, content, r, _, hread, hsave, hd⟩ := turnDraft_eq_some hdraft
      obtain ⟨_, hid, hstay⟩ := requestDraft_eq_some hd
      refine Relation.ReflTransGen.trans (writes_saveSession hsave).writes
        (writes_createRequest (w := { w with db := db }) ?_)
      -- the saved row still has the id and the booking of the copy
      obtain ⟨row, hrow, _, hfind, _⟩ := Db.saveSession_eq_some hsave
      obtain ⟨hmem, hkey⟩ := Table.find?_eq_some_iff.mp hfind
      have hcopy : row = s := by
        rw [find?_of_readTurn hread] at hrow
        injection hrow with hrow
        exact hrow.symm
      exact ⟨_, hmem, by rw [hkey, hid], by rw [SessionWrite.bookingId_eq, hcopy, hstay]⟩

theorem writes_endSession (pk : Uuid) (fresh : SessionFresh) :
    w.db.WritesSessions (endSession py w caller pk fresh).1.db := by
  unfold endSession
  split
  · exact .refl
  · split
    · exact .refl
    next db hsave =>
      rw [db_finishEnd]
      exact writes_saveSession hsave

/-- **A write on voice sessions** sends statements on them only, or is a turn. -/
theorem writesSessions_or_turn (F : Filters) (user : Option User) (query : Query)
    (call : VoiceWrite py) :
    w.db.WritesSessions (call.handle F w caller user query).db
      ∨ ∃ (pk : Uuid) (req : TurnRequest) (agent : AgentOutcome py) (fresh : SessionFresh),
        call.handle F w caller user query = (processTurn w caller pk req agent fresh).1 := by
  cases call with
  | create body fresh =>
      left
      simp only [VoiceWrite.handle]
      split
      · exact writes_createSession none fresh
      next id _ => exact writes_createSession (some id) fresh
      · exact .refl
  | update pk =>
      left
      simp only [VoiceWrite.handle]
      split
      · split
        · exact .refl
        next db hsave => exact writes_saveSession hsave
      · exact .refl
  | destroy pk =>
      left
      simp only [VoiceWrite.handle]
      split
      next s _ => exact (Db.SessionStatement.delete s.id).writes
      · exact .refl
  | turn pk body optionErrors agent fresh =>
      simp only [VoiceWrite.handle]
      split
      · split
        · exact .inl .refl
        · split
          · exact .inl .refl
          · exact .inr ⟨_, _, agent, fresh, rfl⟩
      · exact .inl .refl
  | finish pk fresh =>
      left
      simp only [VoiceWrite.handle]
      split
      · exact writes_endSession _ fresh
      · exact .refl

theorem writes_voice (F : Filters) (user : Option User) (query : Query) (call : VoiceWrite py) :
    w.db.Writes (call.handle F w caller user query).db := by
  have hcases : w.db.WritesSessions (call.handle F w caller user query).db ∨ _ :=
    writesSessions_or_turn F user query call
  rcases hcases with hsessions | ⟨pk, req, agent, fresh, hturn⟩
  · exact hsessions.writes
  · rw [hturn]
    exact writes_processTurn pk req agent fresh

end

/-! ## §3. Service requests and bookings. -/

section
variable {w : World} {caller : Caller} {user : Option User}

/-- A request keeps its guest and its session. -/
theorem rewrites_origin {db : Db} {action : RequestAction} {r r' : ServiceRequest}
    (h : action.rewrites py db user = some (r, r')) :
    r'.guestId = r.guestId ∧ r'.voiceSessionId = r.voiceSessionId := by
  cases action with
  | assign pk fresh =>
      obtain ⟨_, _, rfl⟩ := rewrites_assign h
      exact ⟨rfl, rfl⟩
  | complete pk data fresh =>
      obtain ⟨_, _, _, _, rfl⟩ := rewrites_complete h
      exact ⟨rfl, rfl⟩
  | update pk part body =>
      obtain ⟨_, rfl⟩ := rewrites_update h
      exact ⟨rfl, rfl⟩

theorem aside_action (action : RequestAction) :
    w.db.WritesAside (action.handle py w user).1.db := by
  cases hwrites : action.rewrites py w.db user with
  | none => exact .of_eq (handle_of_rewrites_none hwrites)
  | some rows =>
      obtain ⟨r, r'⟩ := rows
      obtain ⟨hguest, hsession⟩ := rewrites_origin hwrites
      exact (Db.HotelStatement.writeRequest r r' hguest hsession
        (handle_of_rewrites_some hwrites)).aside

theorem aside_destroyServiceRequest (pk : Option Uuid) :
    w.db.WritesAside (destroyServiceRequest w user pk).1.db := by
  unfold destroyServiceRequest
  split
  · exact .refl
  next u r _ => exact (Db.HotelStatement.deleteRequest r.id).aside

/-- A new booking is pending, so its signal leaves the rooms. -/
theorem aside_createBooking (body : BookingBody) (fresh : Fresh) :
    w.db.WritesAside (createBooking py w caller body fresh).1.db := by
  rcases createBooking_cases py w caller body fresh with hsame | ⟨draft, db, _, hins, hdb⟩
  · exact .of_eq hsame
  · rw [hdb]
    exact (Db.HotelStatement.insertBooking (draft.row fresh) rfl hins).aside

/-- The body of an edit has none of the columns that stay. -/
theorem editedTo_applyTo (body : BookingBody) (b : Booking) : b.EditedTo (body.applyTo b) :=
  ⟨rfl, rfl, rfl, rfl, rfl, rfl⟩

theorem aside_updateBooking (pk : Uuid) (part : Bool) (body : BookingBody) (fresh : Fresh) :
    w.db.WritesAside (updateBooking py w caller pk part body fresh).1.db := by
  rcases updateBooking_cases py w caller pk part body fresh with
    ⟨hsame, _⟩ | ⟨b, db, hread, hsave, hdb⟩
  · exact .of_eq hsame
  · rw [hdb]
    have hmem : body.applyTo b ∈ db.bookings := by
      rw [(Db.saveBooking_eq_some_iff.mp hsave).2.1]
      exact Table.mem_save.mpr (.inl rfl)
    have hsaved := Db.HotelStatement.saveBooking b _ (readUpdate_ok hread).1
      (editedTo_applyTo body b) hsave
    exact Relation.ReflTransGen.trans hsaved.aside (Db.HotelStatement.syncRoom _ hmem).aside

theorem aside_destroyBooking (pk : Uuid) : w.db.WritesAside (destroyBooking w caller pk).1.db := by
  unfold destroyBooking
  split
  · exact .refl
  · split
    · exact .refl
    next db hdel => exact (Db.HotelStatement.deleteBooking _ hdel).aside

theorem aside_onRequest (F : Filters) (query : Query) (pk : Option Uuid)
    {handle : World → World × Response} (h : w.db.WritesAside (handle w).1.db) :
    w.db.WritesAside (onRequest F w user query pk handle).1.db := by
  unfold onRequest
  split
  · exact .refl
  · exact h

theorem aside_owned (F : Filters) (query : Query) (call : OwnedWrite) :
    w.db.WritesAside (call.handle py F w caller user query).1.db := by
  cases call with
  | createRequest body =>
      simp only [OwnedWrite.handle]
      split
      · exact .refl
      · unfold createServiceRequest
        split
        · exact .refl
        · exact .refl
  | updateRequest pk part body =>
      refine aside_onRequest F query pk ?_
      split
      · exact .refl
      next data _ =>
        show w.db.WritesAside ((RequestAction.update pk part data).handle py w _).1.db
        exact aside_action _
  | destroyRequest pk => exact aside_onRequest F query pk (aside_destroyServiceRequest pk)
  | assign pk fresh => exact aside_onRequest F query pk (aside_action (.assign pk fresh))
  | complete pk body fresh =>
      refine aside_onRequest F query pk ?_
      split
      · exact .refl
      next data _ => exact aside_action (.complete pk data fresh)
  | createBooking body fresh =>
      simp only [OwnedWrite.handle, postBooking]
      split
      · exact .refl
      · split
        · exact .refl
        · exact aside_createBooking _ fresh
  | updateBooking pk part body fresh =>
      simp only [OwnedWrite.handle, putBooking]
      split
      · exact .refl
      · split
        · exact .refl
        · split
          · exact .refl
          · exact aside_updateBooking _ part _ fresh
  | destroyBooking pk =>
      simp only [OwnedWrite.handle, HotelAgent.deleteBooking]
      split
      · exact .refl
      · exact aside_destroyBooking _

end

/-! ## §4. Accounts. -/

theorem aside_register (inet : Text → Bool) (w : World) (body : RegisterBody) (remoteAddr : Text)
    (fresh : RegisterFresh) : w.db.LeadsAside (register inet w body remoteAddr fresh).1.db := by
  unfold register
  split
  · exact .refl
  · simp only
    split
    · exact .refl
    next db hins =>
      have hinsert : w.db.LeadsAside db :=
        (Db.AccountStatement.insertUser (body.row fresh) rfl hins).aside
      split
      · exact hinsert
      next db' hlog => exact hinsert.tail (.account (.insertAuditLog inet _ hlog))

theorem aside_lockColumns (db : Db) (id : Uuid) (u : User) :
    db.LeadsAside (db.saveUser id (.lockColumns u)) :=
  (Db.AccountStatement.saveUser id (.lockColumns u) fun _ => rfl).aside

/-- A login: the reset, if there is one, and the address. -/
theorem aside_recordLogin (inet : Text → Bool) (db : Db) (req : TokenRequest) :
    db.LeadsAside (recordLogin inet db req).1 := by
  unfold recordLogin
  cases req.email.bind db.userByEmail with
  | none => exact .refl
  | some u =>
      have hreset : db.LeadsAside (db.resetFailedLogin u) := by
        unfold Db.resetFailedLogin
        split
        · exact aside_lockColumns db u.id _
        · exact .refl
      simp only
      cases hip : (db.resetFailedLogin u).saveLoginIp inet u req.remoteAddr with
      | none => exact hreset
      | some db' =>
          obtain ⟨ip, _, rfl⟩ := Option.map_eq_some_iff.mp hip
          exact hreset.tail (.account (.saveUser u.id (.loginIp ip) fun _ => rfl))

theorem aside_tokenPost (jwt : SimpleJwt) (inet : Text → Bool) (db : Db) (req : TokenRequest)
    (now : Instant) : db.LeadsAside (tokenPost jwt inet db req now).1 := by
  rcases tokenPost_cases jwt inet db req now with ⟨_, heq⟩ | ⟨_, _, heq⟩ | ⟨_, _, status, heq⟩
  · rw [heq]
  · rw [heq]
    exact aside_recordLogin inet db req
  · rw [heq]

/-! ## §5. Requests. -/

/-- The clean-up is one statement. -/
theorem leads_cleanup (db : Db) (now : Instant) : db.Leads (cleanupExpiredSessions db now) :=
  (Db.SessionStatement.update _ _ (cleanupExpiredSessions_eq db now)).writes.writes.leads

/-- **A write sends no statement on accounts.** -/
theorem writes_perform (F : Filters) (w : World) (cred : Credentials) (query : Query)
    (call : WriteRequest py) : w.db.Writes (perform F w cred query call).db := by
  unfold perform
  split
  · exact .refl
  · cases call with
    | voice call => exact writes_voice F _ query call
    | owned call => exact (aside_owned F query call).writes

/-- **A request is a list of statements.** -/
theorem statements_serve (D : Deployment) (w : World) (latencyMs : Text)
    (request : ApiRequest py) : w.db.Leads (request.serve D w latencyMs).1.db := by
  cases request with
  | read cred query call => exact .refl
  | rooms cred query pk => exact .refl
  | write cred query call =>
      rw [world_serve]
      exact (writes_perform D.filters w cred query call).leads
  | register body remoteAddr fresh => exact (aside_register D.inet w body remoteAddr fresh).leads
  | token req now => exact (aside_tokenPost D.jwt D.inet w.db req now).leads

end HotelAgent
