/-
  HotelAgent.Api.CleanFailures — what a failed request leaves behind.

  A mutating request writes and publishes one step after the other:

      register           INSERT user     → INSERT audit log
      session create     INSERT session  → publish `started`
      turn               UPDATE session  → atomic block → the answer is printed
      end                UPDATE session  → publish `completed`
      assign, complete   UPDATE request  → publish
      booking create     INSERT booking  → publish `booking.created`

  Only the block of a turn is a transaction.  Where a later step fails the caller
  gets a 500, and the first write stays.

  Main result, `cleanFailure_iff`: a request that is answered with a 5xx leaves
  the database as it was, but for the FAILED of a turn whose agent raised, if and
  only if no step is left to fail once the first write is accepted.
-/
import HotelAgent.Api.RequestAccess
import HotelAgent.Api.RequestCreation
import HotelAgent.Api.Registration
import HotelAgent.Api.Bookings

namespace HotelAgent

open Lib

variable {py : Python}

/-! ## §1. Printing an answer. -/

mutual

/-- `JSONRenderer` prints the value: no float is one of the constants beyond the JSON
grammar, and no text has a surrogate, which UTF-8 cannot encode. -/
def renderable : Json → Bool
  | .null | .bool _ | .int _ => true
  | .float lit => lit ≠ txt "NaN" && lit ≠ txt "Infinity" && lit ≠ txt "-Infinity"
  | .str s => s.all fun c => !isSurrogate c
  | .arr xs => renderableList xs
  | .obj fields => renderableFields fields

/-- The elements of an array. -/
def renderableList : List Json → Bool
  | [] => true
  | x :: xs => renderable x && renderableList xs

/-- The members of an object. -/
def renderableFields : List (Text × Json) → Bool
  | [] => true
  | (k, v) :: fields => k.all (fun c => !isSurrogate c) && renderable v && renderableFields fields

end

/-- `ChoiceField.to_representation`: a value that is none of the choices is shown as it
is in memory. -/
def shownChoice (py : Python) (choices : List (Text × Text)) (v : Json) : Json :=
  match columnText py v with
  | none => .null
  | some text => if text ∈ choices.map (·.1) then .str text else v

/-- The answer of a turn shows the new request, whose type and priority are what the
reply said. -/
def RequestDraft.renders (py : Python) (d : RequestDraft) : Bool :=
  renderable (shownChoice py serviceTypeChoices d.serviceType)
    && renderable (shownChoice py priorityChoices d.priority)

/-! ## §2. Mutating requests. -/

inductive Mutation (py : Python) where
  | register (body : RegisterBody) (remoteAddr : Text) (fresh : RegisterFresh)
  | createSession (caller : Caller) (bookingId : Option Uuid) (fresh : SessionFresh)
  | turn (caller : Caller) (pk : Uuid) (req : TurnRequest) (agent : AgentOutcome py)
      (fresh : SessionFresh)
  | endSession (caller : Caller) (pk : Uuid) (fresh : SessionFresh)
  /-- `assign`, `complete`, PUT and PATCH of a service request. -/
  | desk (call : DeskCall)
  | createBooking (caller : Caller) (body : BookingBody) (fresh : Fresh)

/-- The status of a turn: printing comes after the block is committed. -/
def turnStatus (w : World) (caller : Caller) (pk : Uuid) (req : TurnRequest)
    (agent : AgentOutcome py) (fresh : SessionFresh) : Nat :=
  match turnDraft w.db caller pk req agent fresh, (processTurn w caller pk req agent fresh).2 with
  | some (_, d), .turn _ (some _) => if d.renders py then 200 else 500
  | _, answer => answer.status

/-- The status of a request to an existing service request. -/
def deskStatus (py : Python) (w : World) (call : DeskCall) : Nat :=
  match authenticate w.db call.caller with
  | none => 401
  | some user => (call.action.handle py w user).2.status

/-- The database after the request, and the status of its answer. -/
def Mutation.apply (inet : Text → Bool) (w : World) : Mutation py → Db × Nat
  | .register body remoteAddr fresh =>
    let (w, response) := HotelAgent.register inet w body remoteAddr fresh
    (w.db, response.status)
  | .createSession caller bookingId fresh =>
    let (w, answer) := HotelAgent.createSession py w caller bookingId fresh
    (w.db, answer.status)
  | .turn caller pk req agent fresh =>
    ((processTurn w caller pk req agent fresh).1.db, turnStatus w caller pk req agent fresh)
  | .endSession caller pk fresh =>
    let (w, answer) := HotelAgent.endSession py w caller pk fresh
    (w.db, answer.status)
  | .desk call => ((deskStep py w call).db, deskStatus py w call)
  | .createBooking caller body fresh =>
    let (w, answer) := HotelAgent.createBooking py w caller body fresh
    (w.db, answer.status)

/-- The agent of a turn raised, and the session is now FAILED. -/
def Mutation.MarksFailed (db db' : Db) : Mutation py → Prop
  | .turn caller pk req .raises _ =>
    ∃ user s content, readTurn db caller pk req = .ok (user, s, content)
      ∧ failTurn db s = some db'
  | _ => False

/-- **A failure leaves the database as it was**, but for the status FAILED. -/
def Mutation.CleanFailure (inet : Text → Bool) (w : World) (m : Mutation py) : Prop :=
  500 ≤ (m.apply inet w).2 → (m.apply inet w).1 = w.db ∨ m.MarksFailed w.db (m.apply inet w).1

/-! ## §3. After the first write. -/

/-- The session that a request opens: who for, and on which booking. -/
def openedSession (db : Db) (caller : Caller) (bookingId : Option Uuid) (fresh : SessionFresh) :
    Option (User × Option Booking) :=
  match requireUser db caller with
  | .error _ => none
  | .ok user =>
    let booking := bookingId.bind (checkedInBooking db user)
    if bookingId.isSome ∧ booking = none then none
    else if (db.insertSession (newSession user (booking.map (·.id)) fresh)).isSome then
      some (user, booking)
    else none

/-- The event of a new session. -/
def startedPublished (py : Python) (db : Db) (user : User) (booking : Option Booking)
    (fresh : SessionFresh) : Published :=
  publish py fresh.produce (txt "VOICE_SESSIONS")
    (VoiceSessionEvent.started fresh.stamp fresh.id.str user.id.str (roomNumber db booking)) none

/-- The session that a request ends. -/
def endedSession (db : Db) (caller : Caller) (pk : Uuid) (now : Instant) : Option VoiceSession :=
  match readEnd db caller pk with
  | .error _ => none
  | .ok s => if (saveEnd db s now).isSome then some s else none

/-- The event of an ended session. -/
def completedPublished (py : Python) (s : VoiceSession) (fresh : SessionFresh) : Published :=
  publish py fresh.produce (txt "VOICE_SESSIONS") (completedEvent s fresh) none

/-- The row that a request writes over with another, in the eyes of the caller. -/
def movedRequest (py : Python) (db : Db) (call : DeskCall) : Option ServiceRequest :=
  match authenticate db call.caller with
  | none => none
  | some user =>
    match call.action.rewrites py db user with
    | none => none
    | some (r, r') => if r' = r then none else some r

/-- The publish of an action on the row `r`; PUT and PATCH have none. -/
def RequestAction.returns (py : Python) (r : ServiceRequest) : RequestAction → Bool
  | .assign _ fresh =>
    (publish py fresh.produce (txt "SERVICE_REQUESTS") (assignedEvent r fresh.stamp) none).returns
  | .complete _ _ fresh =>
    (publish py fresh.produce (txt "NOTIFICATIONS") (completionEvent r fresh.stamp) none).returns
  | .update _ _ _ => true

/-- The booking that a request inserts. -/
def madeBooking (db : Db) (caller : Caller) (body : BookingBody) (fresh : Fresh) :
    Option Booking :=
  match readCreate db caller body with
  | .error _ => none
  | .ok draft => if (db.insertBooking (draft.row fresh)).isSome then some (draft.row fresh) else none

/-- The event of a new booking. -/
def bookedPublished (py : Python) (b : Booking) (fresh : Fresh) : Published :=
  publish py fresh.produce (txt "AUDIT_LOG") (bookingCreatedEvent fresh.stamp b) none

/-- **After the first write**: whether the steps that are left go through; `none` where
no row is written, or no step is left.  For a turn the first write is the transcript, and
the steps are the atomic block and the printing of the new request. -/
def Mutation.rest (inet : Text → Bool) (db : Db) : Mutation py → Option Bool
  | .register body remoteAddr fresh =>
    if body.errors db = [] ∧ (db.insertUser (body.row fresh)).isSome then
      some (remoteAddr = [] ∨ inet remoteAddr = true)
    else none
  | .createSession caller bookingId fresh =>
    (openedSession db caller bookingId fresh).map fun (user, booking) =>
      (startedPublished py db user booking fresh).returns
  | .turn caller pk req agent fresh =>
    (turnDraft db caller pk req agent fresh).map fun (db, d) =>
      d.commits py db fresh && d.renders py
  | .endSession caller pk fresh =>
    (endedSession db caller pk fresh.now).map fun s => (completedPublished py s fresh).returns
  | .desk call => (movedRequest py db call).map fun r => call.action.returns py r
  | .createBooking caller body fresh =>
    (madeBooking db caller body fresh).map fun b => (bookedPublished py b fresh).returns

/-- What the steps that are left make of a request. -/
def Mutation.Stands (m : Mutation py) (db db' : Db) (status : Nat) : Option Bool → Prop
  | none => 500 ≤ status → db' = db ∨ m.MarksFailed db db'
  | some true => status < 500
  | some false => 500 ≤ status ∧ db' ≠ db ∧ ¬ m.MarksFailed db db'

/-! ## §4. Registration and booking. -/

section
variable {inet : Text → Bool} {w : World}

theorem stands_register (body : RegisterBody) (remoteAddr : Text) (fresh : RegisterFresh) :
    (Mutation.register body remoteAddr fresh : Mutation py).Stands w.db
      (register inet w body remoteAddr fresh).1.db (register inet w body remoteAddr fresh).2.status
      ((Mutation.register body remoteAddr fresh : Mutation py).rest inet w.db) := by
  unfold register
  simp only [Mutation.rest]
  by_cases herrors : body.errors w.db = []
  · rw [if_neg (by simpa using herrors)]
    simp only [herrors, true_and]
    cases hins : w.db.insertUser (body.row fresh) with
    | none => exact fun _ => .inl rfl
    | some db =>
        simp only [Option.isSome_some, if_true]
        have haudit := insertAuditLog_registered_iff inet db (body.row fresh) remoteAddr
        cases hlog : db.insertAuditLog inet (registeredLog (body.row fresh) remoteAddr) with
        | none =>
            rw [hlog] at haudit
            have hrefused : ¬ (remoteAddr = [] ∨ inet remoteAddr = true) :=
              fun h => absurd (haudit.mpr h) (by simp)
            rw [decide_eq_false hrefused]
            refine ⟨Nat.le_refl 500, fun heq => ?_, id⟩
            -- the user stays
            have hrows := Db.insertUser_eq_some hins
            have heq : db = w.db := heq
            rw [heq] at hrows
            simp at hrows
        | some db' =>
            rw [hlog] at haudit
            rw [decide_eq_true (haudit.mp rfl)]
            show 201 < 500
            omega
  · rw [if_pos herrors, if_neg (fun h => herrors h.1)]
    intro h
    exact absurd h (by simp [Response.invalid])

theorem stands_createBooking (caller : Caller) (body : BookingBody) (fresh : Fresh) :
    (Mutation.createBooking caller body fresh : Mutation py).Stands w.db
      (createBooking py w caller body fresh).1.db (createBooking py w caller body fresh).2.status
      ((Mutation.createBooking caller body fresh : Mutation py).rest inet w.db) := by
  unfold createBooking
  simp only [Mutation.rest, madeBooking]
  cases hread : readCreate w.db caller body with
  | error answer => exact fun _ => .inl rfl
  | ok draft =>
      simp only
      cases hins : w.db.insertBooking (draft.row fresh) with
      | none => exact fun _ => .inl rfl
      | some db =>
          simp only [Option.isSome_some, if_true, Option.map_some]
          unfold onBookingSave bookedPublished
          simp only [if_true]
          cases hpub : publish py fresh.produce (txt "AUDIT_LOG")
            (bookingCreatedEvent fresh.stamp (draft.row fresh)) none with
          | accepted rec =>
              show 201 < 500
              omega
          | refused =>
              show 201 < 500
              omega
          | raised =>
              refine ⟨Nat.le_refl 500, fun heq => ?_, id⟩
              -- the booking stays, under a key that was free
              have heq : db = w.db := heq
              unfold Db.insertBooking at hins
              split at hins
              · exact absurd hins (by simp)
              next hfree =>
                have hbookings := (Db.saveBooking_eq_some_iff.mp hins).2.1
                rw [heq] at hbookings
                refine hfree ⟨draft.row fresh, ?_, rfl⟩
                rw [hbookings]
                exact Table.mem_save.mpr (.inl rfl)

/-! ## §5. Sessions. -/

theorem roomNumber_congr {db db' : Db} (h : db'.rooms = db.rooms) (booking : Option Booking) :
    roomNumber db' booking = roomNumber db booking := by
  unfold roomNumber
  rw [h]

theorem stands_createSession (caller : Caller) (bookingId : Option Uuid) (fresh : SessionFresh) :
    (Mutation.createSession caller bookingId fresh : Mutation py).Stands w.db
      (createSession py w caller bookingId fresh).1.db
      (createSession py w caller bookingId fresh).2.status
      ((Mutation.createSession caller bookingId fresh : Mutation py).rest inet w.db) := by
  unfold createSession
  simp only [Mutation.rest, openedSession]
  cases huser : requireUser w.db caller with
  | error answer => exact fun _ => .inl rfl
  | ok user =>
      simp only
      generalize hbooking : bookingId.bind (checkedInBooking w.db user) = booking
      by_cases hno : bookingId.isSome ∧ booking = none
      · rw [if_pos hno, if_pos hno]
        exact fun _ => .inl rfl
      · rw [if_neg hno, if_neg hno]
        cases hins : w.db.insertSession (newSession user (booking.map (·.id)) fresh) with
        | none => exact fun _ => .inl rfl
        | some db =>
            obtain ⟨_, _, hrows, _, hrooms, _⟩ := Db.insertSession_eq_some hins
            simp only [Option.isSome_some, if_true, Option.map_some, startedPublished,
              roomNumber_congr hrooms, newSession]
            cases hpub : publish py fresh.produce (txt "VOICE_SESSIONS")
              (VoiceSessionEvent.started fresh.stamp fresh.id.str user.id.str
                (roomNumber w.db booking)) none with
            | accepted rec =>
                show 201 < 500
                omega
            | refused =>
                show 201 < 500
                omega
            | raised =>
                refine ⟨Nat.le_refl 500, fun heq => ?_, id⟩
                -- the session stays
                have heq : db = w.db := heq
                rw [heq] at hrows
                simp at hrows

theorem stands_endSession (caller : Caller) (pk : Uuid) (fresh : SessionFresh) :
    (Mutation.endSession caller pk fresh : Mutation py).Stands w.db
      (endSession py w caller pk fresh).1.db (endSession py w caller pk fresh).2.status
      ((Mutation.endSession caller pk fresh : Mutation py).rest inet w.db) := by
  unfold endSession
  simp only [Mutation.rest, endedSession]
  cases hread : readEnd w.db caller pk with
  | error answer => exact fun _ => .inl rfl
  | ok s =>
      simp only
      cases hsave : saveEnd w.db s fresh.now with
      | none => exact fun _ => .inl rfl
      | some db =>
          simp only [Option.isSome_some, if_true, Option.map_some, finishEnd, completedPublished]
          cases hpub : publish py fresh.produce (txt "VOICE_SESSIONS") (completedEvent s fresh)
            none with
          | accepted rec =>
              show 200 < 500
              omega
          | refused =>
              show 200 < 500
              omega
          | raised =>
              refine ⟨Nat.le_refl 500, fun heq => ?_, id⟩
              -- the session was ACTIVE, and is COMPLETED
              have heq : db = w.db := heq
              obtain ⟨hfind, hactive⟩ := readEnd_ok hread
              obtain ⟨row, hrow, _, hafter, _⟩ := Db.saveSession_eq_some hsave
              have hid := Table.key_of_find? hfind
              rw [heq, hid, hfind] at hafter
              injection hafter with hafter
              rw [hafter] at hactive
              exact absurd hactive (by simp [SessionWrite.complete])

/-- **The transcript of a turn** that comes to the block has grown. -/
theorem db_turn_ne {caller : Caller} {pk : Uuid} {req : TurnRequest} {agent : AgentOutcome py}
    {fresh : SessionFresh} {db : Db} {d : RequestDraft}
    (h : turnDraft w.db caller pk req agent fresh = some (db, d)) : db ≠ w.db := by
  intro heq
  obtain ⟨user, s, content, r, _, hread, hsave, _⟩ := turnDraft_eq_some h
  obtain ⟨hfind, _⟩ := readTurn_ok hread
  obtain ⟨row, hrow, _, hafter, _⟩ := Db.saveSession_eq_some hsave
  have hid := Table.key_of_find? hfind
  rw [heq, hid, hfind] at hafter
  injection hafter with hafter
  -- a turn adds two messages
  have hlength := congrArg (fun s => s.transcript.length) hafter
  simp only [SessionWrite.turn, turnMessages, List.length_append, List.length_cons,
    List.length_nil] at hlength
  omega

/-- The answer of a turn that comes to the block. -/
theorem answer_of_draft {caller : Caller} {pk : Uuid} {req : TurnRequest} {agent : AgentOutcome py}
    {fresh : SessionFresh} {db : Db} {d : RequestDraft}
    (h : turnDraft w.db caller pk req agent fresh = some (db, d)) :
    ∃ text, (processTurn w caller pk req agent fresh).2
      = match (createRequest py { w with db := db } d fresh).2 with
        | none => .serverError
        | some row => .turn text (some row) := by
  obtain ⟨user, s, content, r, rfl, hread, hsave, hrequest⟩ := turnDraft_eq_some h
  refine ⟨r.text, ?_⟩
  unfold processTurn
  simp only [hread, hsave, finishTurn, hrequest]
  split
  next w' hcreate => rw [hcreate]
  next w' row hcreate => rw [hcreate]

/-- A new request stays. -/
theorem db_gained_ne {caller : Caller} {pk : Uuid} {req : TurnRequest} {agent : AgentOutcome py}
    {fresh : SessionFresh} {db db' : Db} {d : RequestDraft} {row stored : ServiceRequest}
    (h : turnDraft w.db caller pk req agent fresh = some (db, d))
    (hgained : db.Gained db' d.sessionId row stored) : db' ≠ w.db := by
  intro heq
  have hbefore := (sameButSessions_of_draft h).1.serviceRequests
  have hrows := hgained.rows
  rw [heq, hbefore] at hrows
  simp at hrows

/-- **A turn without a new request** fails cleanly. -/
theorem clean_of_no_draft {caller : Caller} {pk : Uuid} {req : TurnRequest}
    {agent : AgentOutcome py} {fresh : SessionFresh}
    (hdraft : turnDraft w.db caller pk req agent fresh = none)
    (h : 500 ≤ (processTurn w caller pk req agent fresh).2.status) :
    (processTurn w caller pk req agent fresh).1.db = w.db
      ∨ (Mutation.turn caller pk req agent fresh).MarksFailed w.db
        (processTurn w caller pk req agent fresh).1.db := by
  rw [processTurn_eq_of_no_draft hdraft] at h ⊢
  cases hread : readTurn w.db caller pk req with
  | error answer => exact .inl rfl
  | ok t =>
      obtain ⟨user, s, content⟩ := t
      simp only [hread] at h
      cases agent with
      | raises =>
          simp only
          cases hfail : failTurn w.db s with
          | none => exact .inl rfl
          | some db => exact .inr ⟨user, s, content, hread, hfail⟩
      | replies r =>
          simp only at h ⊢
          cases hsave : saveTurn w.db s content r fresh.nowTs with
          | none => exact .inl rfl
          | some db =>
              -- the turn is over, with a 200
              simp only [hsave, SessionAnswer.status] at h
              omega

theorem stands_turn (caller : Caller) (pk : Uuid) (req : TurnRequest) (agent : AgentOutcome py)
    (fresh : SessionFresh) :
    (Mutation.turn caller pk req agent fresh).Stands w.db
      (processTurn w caller pk req agent fresh).1.db (turnStatus w caller pk req agent fresh)
      ((Mutation.turn caller pk req agent fresh).rest inet w.db) := by
  simp only [Mutation.rest]
  unfold turnStatus
  cases hdraft : turnDraft w.db caller pk req agent fresh with
  | some draft =>
      obtain ⟨db, d⟩ := draft
      obtain ⟨_, hsession⟩ := sameButSessions_of_draft hdraft
      obtain ⟨text, hanswer⟩ := answer_of_draft hdraft
      -- the agent has replied
      obtain ⟨user, s, content, r, rfl, _⟩ := turnDraft_eq_some hdraft
      rw [processTurn_of_draft hdraft, hanswer, Option.map_some]
      by_cases hcommits : d.commits py db fresh = true
      · obtain ⟨row, stored, _, hcreated, hgained⟩ :=
          createRequest_of_commits (w := { w with db := db }) hsession hcommits
        rw [hcreated, hcommits, Bool.true_and]
        cases hrenders : d.renders py with
        | true =>
            show (if d.renders py = true then 200 else 500) < 500
            rw [hrenders]
            decide
        | false =>
            refine ⟨?_, db_gained_ne hdraft hgained, fun h => h.elim⟩
            show 500 ≤ if d.renders py = true then 200 else 500
            rw [hrenders]
            exact Nat.le_refl 500
      · have hno : d.commits py db fresh = false := by simpa using hcommits
        obtain ⟨hdb, hcreated⟩ := createRequest_of_not_commits (w := { w with db := db }) hno
        rw [hcreated, hno, Bool.false_and, hdb]
        exact ⟨Nat.le_refl 500, db_turn_ne hdraft, fun h => h.elim⟩
  | none => exact clean_of_no_draft hdraft

/-! ## §6. Service requests. -/

/-- A request that writes a row fails only with its publish. -/
theorem status_handle {user : Option User} {action : RequestAction} {r r' : ServiceRequest}
    (h : action.rewrites py w.db user = some (r, r')) :
    (action.handle py w user).2.status = if action.returns py r then 200 else 500 := by
  have hmem := mem_of_rewrites h
  cases action with
  | assign pk fresh =>
      show (assign py w user pk fresh).2.status = _
      unfold assign
      obtain ⟨u, hread, _⟩ := rewrites_assign h
      obtain ⟨db', hsave, _⟩ := saveAssign_of_mem u hmem
      simp only [hread, hsave, RequestAction.returns]
      split
      next hpub => exact (if_neg fun h => Published.returns_iff.mp h hpub).symm
      next hpub => exact (if_pos (Published.returns_iff.mpr hpub)).symm
  | complete pk data fresh =>
      show (complete py w user pk data fresh).2.status = _
      unfold complete
      obtain ⟨notes, text, hread, htext, _⟩ := rewrites_complete h
      obtain ⟨db', hsave, _⟩ := saveComplete_of_mem fresh.now hmem htext
      simp only [hread, hsave, RequestAction.returns]
      split
      next hpub => exact (if_neg fun h => Published.returns_iff.mp h hpub).symm
      next hpub => exact (if_pos (Published.returns_iff.mpr hpub)).symm
  | update pk part body =>
      show (updateServiceRequest w user pk part body).2.status = _
      unfold updateServiceRequest
      obtain ⟨hread, _⟩ := rewrites_update h
      obtain ⟨db', hsave, _⟩ := saveUpdate_of_read hread
      simp only [hread, hsave]
      rfl

/-- Databases with the same rows are the same. -/
theorem Db.eq_of_tables {a b : Db} (users : a.users = b.users) (rooms : a.rooms = b.rooms)
    (bookings : a.bookings = b.bookings) (serviceRequests : a.serviceRequests = b.serviceRequests)
    (voiceSessions : a.voiceSessions = b.voiceSessions) (auditLogs : a.auditLogs = b.auditLogs) :
    a = b := by
  obtain ⟨_, _, _, _, _, _, _, _, _, _, _⟩ := a
  obtain ⟨_, _, _, _, _, _, _, _, _, _, _⟩ := b
  simp only at users rooms bookings serviceRequests voiceSessions auditLogs
  subst users rooms bookings serviceRequests voiceSessions auditLogs
  rfl

/-- **A row written over itself** changes nothing, and any other row does. -/
theorem Db.Wrote.eq_iff {db db' : Db} {r r' : ServiceRequest} (h : db.Wrote db' r r') :
    db' = db ↔ r' = r := by
  have hfind := Table.find?_put_self h.has
  rw [← h.serviceRequests, h.id_eq] at hfind
  constructor
  · intro heq
    rw [heq, Table.find?_of_mem h.mem] at hfind
    injection hfind with hfind
    exact hfind.symm
  · intro heq
    refine Db.eq_of_tables h.users h.rooms h.bookings ?_ h.voiceSessions h.auditLogs
    rw [h.serviceRequests, heq]
    exact Table.put_self h.mem

theorem stands_desk (call : DeskCall) :
    (Mutation.desk call : Mutation py).Stands w.db (deskStep py w call).db (deskStatus py w call)
      ((Mutation.desk call : Mutation py).rest inet w.db) := by
  simp only [Mutation.rest, movedRequest]
  unfold deskStep deskStatus
  cases hauth : authenticate w.db call.caller with
  | none => exact fun _ => .inl rfl
  | some user =>
      simp only
      cases hwrites : call.action.rewrites py w.db user with
      | none => exact fun _ => .inl (handle_of_rewrites_none hwrites)
      | some rows =>
          obtain ⟨r, r'⟩ := rows
          have hwrote := handle_of_rewrites_some hwrites
          simp only
          by_cases hsame : r' = r
          · rw [if_pos hsame]
            exact fun _ => .inl (hwrote.eq_iff.mpr hsame)
          · rw [if_neg hsame, status_handle hwrites, Option.map_some]
            cases call.action.returns py r with
            | true =>
                show 200 < 500
                omega
            | false => exact ⟨Nat.le_refl 500, fun h => hsame (hwrote.eq_iff.mp h), id⟩

/-! ## §7. Every request. -/

/-- **What is left after the first write** decides what comes of a request. -/
theorem stands_apply (inet : Text → Bool) (w : World) (m : Mutation py) :
    m.Stands w.db (m.apply inet w).1 (m.apply inet w).2 (m.rest inet w.db) := by
  cases m with
  | register body remoteAddr fresh => exact stands_register body remoteAddr fresh
  | createSession caller bookingId fresh => exact stands_createSession caller bookingId fresh
  | turn caller pk req agent fresh => exact stands_turn caller pk req agent fresh
  | endSession caller pk fresh => exact stands_endSession caller pk fresh
  | desk call => exact stands_desk call
  | createBooking caller body fresh => exact stands_createBooking caller body fresh

end

/-- **A failure is clean** if and only if no step fails after the first write. -/
theorem cleanFailure_iff (py : Python) (inet : Text → Bool) (w : World) (m : Mutation py) :
    m.CleanFailure inet w ↔ m.rest inet w.db ≠ some false := by
  have hstands := stands_apply inet w m
  unfold Mutation.CleanFailure
  cases hrest : m.rest inet w.db with
  | none =>
      rw [hrest] at hstands
      exact iff_of_true hstands (by simp)
  | some goes =>
      rw [hrest] at hstands
      cases goes with
      | true =>
          have hstatus : (m.apply inet w).2 < 500 := hstands
          refine iff_of_true (fun h => ?_) (by simp)
          omega
      | false =>
          obtain ⟨hstatus, hchanged, hnot⟩ := hstands
          refine iff_of_false (fun hclean => ?_) (by simp)
          rcases hclean hstatus with h | h
          · exact hchanged h
          · exact hnot h

/-- A reply whose priority does not fit the column. -/
def demoHurry : VoiceAgentResponse plainPython where
  text := txt "Of course."
  audioData := none
  serviceRequest := some
    { fields := [(txt "service_type", .str (txt "spa")),
        (txt "priority", .str (txt "as soon as possible")),
        (txt "description", .str (txt "massage"))]
      floatsOk := ⟨trivial, trivial, trivial, trivial⟩ }
  tokensUsed := 5
  ttsChars := 3

/-- The block rolls back and the caller gets a 500, but the transcript has the turn. -/
theorem turn_half_written :
    ¬ ∀ (py : Python) (inet : Text → Bool) (w : World) (m : Mutation py),
      m.CleanFailure inet w := by
  intro h
  have hclean := h plainPython (fun _ => true) demoDesk
    (.turn (.token 1) 5 demoWords (.replies demoHurry) (demoTurnFresh 31 .accepted .accepted))
    (by decide +kernel)
  rcases hclean with hsame | hfailed
  · have hrows := congrArg (fun db => db.voiceSessions.rows.map (·.transcript.length)) hsame
    revert hrows
    decide +kernel
  · exact hfailed

end HotelAgent
