/-
  HotelAgent.Api.Replicas — requests that read one database and write to another.

  A request looks its objects up where `PrimaryReplicaRouter` sends their models,
  and writes to the primary:

      look      the database that a read of a model sees
      reads     the reads of VoiceSession, Booking, ServiceRequest and Room that a
                request makes
      commits   the commits it leaves on the primary, each with the models it wrote

  A save of a whole object writes the copy that was looked up, over whatever the
  primary has.  A model is listed once, however often a request reads it.

  Main result, `commits_eq_perform`: where both databases are the same, the last
  commit leaves what `perform` leaves.
-/
import HotelAgent.Core.Routers
import HotelAgent.Api.Auth
import HotelAgent.Api.Endpoints
import HotelAgent.Api.CleanFailures

namespace HotelAgent

open Lib

variable {py : Python}

/-! ## §1. Reads and commits. -/

/-- A read of a model, from the database that `using(...)` names or the router's. -/
structure ModelRead where
  model : Model
  named : Option Database := none

def ModelRead.database (read : ModelRead) : Database :=
  read.named.getD (PrimaryReplicaRouter.dbForRead read.model)

/-- The database that a read of a model sees. -/
abbrev Look := Model → Db

/-- A commit on the primary. -/
structure Commit where
  models : List Model
  db : Db

/-- The commit of a statement that is accepted. -/
def committed (models : List Model) (db : Option Db) : List Commit :=
  (db.map fun db => ⟨models, db⟩).toList

/-- What the commits leave. -/
def lastDb (db : Db) (commits : List Commit) : Db :=
  (commits.getLast?.map Commit.db).getD db

/-- `select_related("guest", "booking__room")`. -/
def sessionModels : List Model := [.voiceSession, .booking, .room]

/-- `select_related("guest", "booking__room", "assigned_to")`. -/
def requestModels : List Model := [.serviceRequest, .booking, .room]

/-- `select_related("guest", "room")`. -/
def bookingModels : List Model := [.booking, .room]

/-- Reads where the router sends them. -/
def routed (models : List Model) : List ModelRead := models.map fun model => ⟨model, none⟩

/-- The query of `get_object`: not for a parameter that a backend refuses, nor for a
lookup value that is no UUID. -/
def objectReads {R : Type} (B : Backends R) (query : Query) (models : List Model)
    (pk : Option Uuid) : List ModelRead :=
  if B.refuses query = none ∧ pk.isSome then routed models else []

/-- The queries of `list`: the count, and the page if there is one. -/
def listReads {R : Type} (B : Backends R) (query : Query) (models : List Model)
    (response : Response) (rows : List R) : List ModelRead :=
  if B.refuses query ≠ none then []
  else if response.status = 200 ∧ rows ≠ [] then routed models
  else routed (models.take 1)

/-! ## §2. Loaded objects. -/

/-- A turn between `get_object` and the agent. -/
def admitTurn (s : VoiceSession) (req : TurnRequest) : Except SessionAnswer Text :=
  if s.status ≠ .active then .error (.badRequest (txt "Session is not active."))
  else
    match req.text with
    | none =>
      if req.audio = none then .error (.badRequest (txt "Provide 'text' or 'audio' file."))
      else .ok (userContent none)
    | some t =>
      match validText t with
      | none => .error .invalidText
      | some text => .ok (userContent (some text))

/-- `BookingSerializer` up to the INSERT, for `request.user`. -/
def admitCreate (db : Db) (user : Option User) (body : BookingBody) :
    Except BookingAnswer BookingDraft :=
  match body.roomId, body.checkIn, body.checkOut with
  | some roomId, some checkIn, some checkOut =>
    if body.validDates then
      match availableRoom db roomId with
      | none => .error (.invalid [(txt "room_id", txt "Room not available.")])
      | some room =>
        match user with
        | none => .error .serverError
        | some guest => .ok
            { guest := guest, room := room, checkIn := checkIn, checkOut := checkOut,
              adults := body.adults.getD 1, children := body.children.getD 0,
              specialRequests := body.specialRequests.getD [] }
    else .error datesError
  | _, _, _ => .error (requiredErrors body.missing)

/-- A booking of PUT or PATCH between `get_object` and the UPDATE. -/
def admitUpdate (part : Bool) (body : BookingBody) : Bool :=
  !(part = false ∧ body.missing ≠ []) && body.validDates

theorem admitUpdate_iff {part : Bool} {body : BookingBody} :
    admitUpdate part body = true
      ↔ ¬ (part = false ∧ body.missing ≠ []) ∧ body.validDates = true := by
  unfold admitUpdate
  rw [Bool.and_eq_true, Bool.not_eq_true', decide_eq_false_iff_not]

/-! ## §3. Voice sessions. -/

/-- A turn of `user`: its commits and, where it is answered with 200, the session and
the messages of the turn. -/
def runTurn (F : Filters) (look : Look) (db : Db) (user : User) (query : Query)
    (pk : Option Uuid) (body : Body TurnRequest) (optionErrors : List (Text × Text))
    (agent : AgentOutcome py) (fresh : SessionFresh) :
    List Commit × Option (Uuid × List Message) :=
  match sessionObject F query (look .voiceSession) user pk, body.read with
  | .ok s, .ok req =>
    if optionErrors ≠ [] then ([], none)
    else
      match admitTurn s req, agent with
      | .error _, _ => ([], none)
      -- the status is written over whatever the primary has by now
      | .ok _, .raises => (committed [.voiceSession] (failTurn db s), none)
      | .ok content, .replies r =>
        match saveTurn db s content r fresh.nowTs with
        -- the primary refuses the row, or has none to write over
        | none => ([], none)
        | some db =>
          let saved : Commit := ⟨[.voiceSession], db⟩
          let turn := (s.id, turnMessages content r.text fresh.nowTs)
          match requestDraft user s r with
          | none => ([saved], some turn)
          | some d =>
            match createRequest py ⟨db, []⟩ d fresh with
            -- the block is rolled back, the transcript stays
            | (_, none) => ([saved], none)
            | (w, some _) =>
              ([saved, ⟨[.serviceRequest], w.db⟩], if d.renders py then some turn else none)
  | _, _ => ([], none)

def VoiceWrite.commits (F : Filters) (look : Look) (db : Db) (user : User) (query : Query) :
    VoiceWrite py → List Commit
  | .create body fresh =>
    match body.read with
    | .ok none => committed [.voiceSession] (db.insertSession (newSession user none fresh))
    | .ok (some (some id)) =>
      match checkedInBooking (look .booking) user id with
      | none => []
      | some b => committed [.voiceSession] (db.insertSession (newSession user (some b.id) fresh))
    | _ => []
  | .update pk =>
    match sessionObject F query (look .voiceSession) user pk with
    -- every column of the copy is written, also over a newer row
    | .ok s => committed [.voiceSession] (db.saveWholeSession s)
    | .error _ => []
  | .destroy pk =>
    match sessionObject F query (look .voiceSession) user pk with
    | .ok s => [⟨[.voiceSession], db.deleteSession s.id⟩]
    | .error _ => []
  | .turn pk body optionErrors agent fresh =>
    (runTurn F look db user query pk body optionErrors agent fresh).1
  | .finish pk fresh =>
    match sessionObject F query (look .voiceSession) user pk with
    | .ok s => if s.status ≠ .active then []
        else committed [.voiceSession] (saveEnd db s fresh.now)
    | .error _ => []

/-- Without a `booking_id` nothing is read. -/
def VoiceWrite.reads (F : Filters) (query : Query) : VoiceWrite py → List ModelRead
  | .create body _ =>
    match body.read with
    | .ok (some (some _)) => routed bookingModels
    | _ => []
  | .update pk => objectReads F.sessions query sessionModels pk
  | .destroy pk => objectReads F.sessions query sessionModels pk
  | .turn pk _ _ _ _ => objectReads F.sessions query sessionModels pk
  | .finish pk _ => objectReads F.sessions query sessionModels pk

def VoiceRead.reads (F : Filters) (look : Look) (user : User) (query : Query) :
    VoiceRead → List ModelRead
  | .list =>
    let db := look .voiceSession
    listReads F.sessions query sessionModels (VoiceRead.respond F query db (some user) .list)
      ((sessionQueryset db user).filter (F.sessions.keeps query db.users db.rooms))
  | .retrieve pk => objectReads F.sessions query sessionModels pk
  | .transcript pk => objectReads F.sessions query sessionModels pk

/-! ## §4. Service requests and bookings. -/

section
variable (F : Filters) (look : Look) (user : Option User) (query : Query)

/-- `get_object` of the service requests; `get_queryset` may raise before. -/
def requestReads (pk : Option Uuid) : List ModelRead :=
  match requestQueryset (look .serviceRequest) user with
  | .error _ => []
  | .ok _ => objectReads F.requests query requestModels pk

/-- `get_object` of the bookings; `prefetch_related("service_requests")` follows where
one is found. -/
def bookingReads (pk : Option Uuid) : List ModelRead :=
  match bookingQueryset (look .booking) user with
  | .error _ => []
  | .ok rows =>
    let db := look .booking
    objectReads F.bookings query bookingModels pk
      ++ match F.bookings.find query db.users db.rooms Booking.id "Booking" rows pk with
        | .error _ => []
        | .ok _ => routed [.serviceRequest]

def OwnedRead.reads : OwnedRead → List ModelRead
  | .listRequests =>
    match requestQueryset (look .serviceRequest) user with
    | .error _ => []
    | .ok rows =>
      let db := look .serviceRequest
      listReads F.requests query requestModels
        (OwnedRead.respond F query db user .listRequests)
        (rows.filter (F.requests.keeps query db.users db.rooms))
  | .retrieveRequest pk => requestReads F look user query pk
  | .listBookings =>
    match bookingQueryset (look .booking) user with
    | .error _ => []
    | .ok rows =>
      let db := look .booking
      listReads F.bookings query (bookingModels ++ [.serviceRequest])
        (OwnedRead.respond F query db user .listBookings)
        (rows.filter (F.bookings.keeps query db.users db.rooms))
  | .retrieveBooking pk => bookingReads F look user query pk

/-- The reads before the write.  The collector of DELETE looks for rows that protect a
booking where it deletes. -/
def OwnedWrite.reads : OwnedWrite → List ModelRead
  | .createRequest body =>
    match body.read with
    | .ok data => if data.booking.isSome then routed [.booking] else []
    | .error _ => []
  | .updateRequest pk _ _ => requestReads F look user query pk
  | .destroyRequest pk => requestReads F look user query pk
  | .assign pk _ => requestReads F look user query pk
  | .complete pk _ _ => requestReads F look user query pk
  | .createBooking body _ =>
    match body.read with
    | .ok data =>
      -- the room is looked up when everything else is in order
      if data.errors false = [] ∧ data.fields.missing = [] ∧ data.fields.validDates then
        routed [.room]
      else []
    | .error _ => []
  | .updateBooking pk _ _ _ => bookingReads F look user query pk
  | .destroyBooking pk =>
    bookingReads F look user query pk
      ++ match bookingObject F query (look .booking) user pk with
        | .error _ => []
        | .ok _ => [⟨.serviceRequest, some .default⟩, ⟨.voiceSession, some .default⟩]

/-- Whether the signal writes the status of the room. -/
def syncsRoom : BookingStatus → Bool
  | .checkedIn => true
  | .checkedOut => true
  | .cancelled => true
  | .pending => false
  | .confirmed => false

/-- `booking.save()` and its signal; a row that is gone is inserted again. -/
def bookingCommits (py : Python) (db : Db) (row : Booking) (fresh : Fresh) : List Commit :=
  match db.saveBooking row with
  | none => []
  | some saved =>
    let (w, ok) := onBookingSave py ⟨saved, []⟩ row (¬ db.bookings.Has row.id) fresh
    ⟨[.booking], saved⟩ :: if ok && syncsRoom row.status then [⟨[.room], w.db⟩] else []

def OwnedWrite.commits (py : Python) (db : Db) : OwnedWrite → List Commit
  -- the INSERT is refused
  | .createRequest _ => []
  | .updateRequest pk part body =>
    match requestObject F query (look .serviceRequest) user pk, body.read with
    | .ok r, .ok data =>
      -- the booking that the body names is looked up on the replica
      if data.errors (look .booking) part ≠ [] then []
      else committed [.serviceRequest] (db.saveServiceRequest (data.applyTo r))
    | _, _ => []
  | .destroyRequest pk =>
    match requestObject F query (look .serviceRequest) user pk with
    | .ok r => [⟨[.serviceRequest], db.deleteServiceRequest r.id⟩]
    | .error _ => []
  | .assign pk _ =>
    match requestObject F query (look .serviceRequest) user pk, user with
    | .ok r, some user =>
      if user.role.isStaff then committed [.serviceRequest] (saveAssign db user r) else []
    | _, _ => []
  | .complete pk body fresh =>
    match requestObject F query (look .serviceRequest) user pk, body.read with
    | .ok r, .ok (.obj fields) =>
      committed [.serviceRequest]
        (saveComplete py db r fresh.now (dictGet fields (txt "notes") (.str [])))
    | _, _ => []
  | .createBooking body fresh =>
    match body.read with
    | .error _ => []
    | .ok data =>
      if data.errors false ≠ [] then []
      else
        -- the room is as the replica has it
        match admitCreate (look .room) user data.fields with
        | .error _ => []
        | .ok draft => committed [.booking] (db.insertBooking (draft.row fresh))
  | .updateBooking pk part body fresh =>
    match bookingObject F query (look .booking) user pk, body.read with
    | .ok b, .ok data =>
      if data.errors part = [] ∧ admitUpdate part data.fields then
        bookingCommits py db (data.fields.applyTo b) fresh
      else []
    | _, _ => []
  | .destroyBooking pk =>
    match bookingObject F query (look .booking) user pk with
    | .ok b => committed [.booking] (db.deleteBooking b.id)
    | .error _ => []

end

/-! ## §5. Requests. -/

/-- The code outside of the repository that requests run through. -/
structure Deployment where
  filters : Filters
  rooms : Backends Room
  /-- Which texts PostgreSQL takes as an address. -/
  inet : Text → Bool
  jwt : SimpleJwt

inductive ApiRequest (py : Python) where
  | read (cred : Credentials) (query : Query) (read : ReadRequest)
  /-- GET /rooms/, or /rooms/{pk}/. -/
  | rooms (cred : Credentials) (query : Query) (pk : Option (Option Uuid))
  | write (cred : Credentials) (query : Query) (write : WriteRequest py)
  | register (body : RegisterBody) (remoteAddr : Text) (fresh : RegisterFresh)
  | token (req : TokenRequest) (now : Instant)

/-- The two INSERTs of a registration. -/
def registerCommits (inet : Text → Bool) (db : Db) (body : RegisterBody) (remoteAddr : Text)
    (fresh : RegisterFresh) : List Commit :=
  if body.errors db ≠ [] then []
  else
    match db.insertUser (body.row fresh) with
    | none => []
    | some db => ⟨[.user], db⟩
        :: committed [.auditLog] (db.insertAuditLog inet (registeredLog (body.row fresh) remoteAddr))

/-- The saves of a login: the reset, where there is one, and the address. -/
def loginCommits (inet : Text → Bool) (db : Db) (req : TokenRequest) : List Commit :=
  match req.email.bind db.userByEmail with
  | none => []
  | some u =>
    let reset := db.resetFailedLogin u
    (if 0 < u.failedLoginAttempts then [⟨[.user], reset⟩] else [])
      ++ committed [.user] (reset.saveLoginIp inet u req.remoteAddr)

def tokenCommits (jwt : SimpleJwt) (inet : Text → Bool) (db : Db) (req : TokenRequest)
    (now : Instant) : List Commit :=
  if db.namesLocked req now then []
  else
    match jwt.post (req.account.bind db.userByEmail) req with
    | .raises _ => []
    | .response status =>
      if status = 200 then loginCommits inet db req
      else
        match db.userByEmail (req.email.getD []) with
        | none => []
        | some u => committed [.user] (db.saveLockColumns (u.recordFailedLogin now))

section
variable (D : Deployment) (look : Look)

def ApiRequest.reads : ApiRequest py → List ModelRead
  | .read cred query call =>
    match cred.user (look .user), call with
    | .ok (some user), .voice call => call.reads D.filters look user query
    | .ok user, .owned call => call.reads D.filters look user query
    | _, _ => []
  | .rooms cred query pk =>
    match cred.user (look .user) with
    | .ok (some _) => if D.rooms.refuses query = none ∧ pk ≠ some none then routed [.room] else []
    | _ => []
  | .write cred query call =>
    match cred.user (look .user), call with
    | .ok (some _), .voice call => call.reads D.filters query
    | .ok user, .owned call => call.reads D.filters look user query
    | _, _ => []
  -- users and audit logs are none of the four models
  | .register _ _ _ => []
  | .token _ _ => []

def ApiRequest.commits (db : Db) : ApiRequest py → List Commit
  | .read _ _ _ => []
  | .rooms _ _ _ => []
  | .write cred query call =>
    match cred.user (look .user), call with
    | .ok (some user), .voice call => call.commits D.filters look db user query
    | .ok user, .owned call => call.commits D.filters look user query py db
    | _, _ => []
  | .register body remoteAddr fresh => registerCommits D.inet db body remoteAddr fresh
  | .token req now => tokenCommits D.jwt D.inet db req now

/-- The session and the messages of a turn that is answered with 200. -/
def ApiRequest.turn (db : Db) : ApiRequest py → Option (Uuid × List Message)
  | .write cred query (.voice (.turn pk body optionErrors agent fresh)) =>
    match cred.user (look .user) with
    | .ok (some user) => (runTurn D.filters look db user query pk body optionErrors agent fresh).2
    | _ => none
  | _ => none

end

/-! ## §6. One database. -/

@[simp] theorem lastDb_committed (db : Db) (models : List Model) (saved : Option Db) :
    lastDb db (committed models saved) = saved.getD db := by
  cases saved with
  | none => rfl
  | some saved => rfl

@[simp] theorem lastDb_nil (db : Db) : lastDb db [] = db := rfl

/-- A turn is `get_object` and what follows. -/
theorem readTurn_eq (db : Db) (caller : Caller) (pk : Uuid) (req : TurnRequest) :
    readTurn db caller pk req
      = match getSession db caller pk with
        | .error answer => .error answer
        | .ok (user, s) =>
          match admitTurn s req with
          | .error answer => .error answer
          | .ok content => .ok (user, s, content) := by
  unfold readTurn admitTurn
  cases getSession db caller pk with
  | error answer => rfl
  | ok us =>
      obtain ⟨user, s⟩ := us
      simp only
      by_cases hactive : s.status = .active
      · simp only [hactive, ne_eq, not_true_eq_false, if_false]
        cases req.text with
        | none =>
            simp only
            split
            · rfl
            · rfl
        | some t =>
            simp only
            cases validText t with
            | none => rfl
            | some text => rfl
      · simp only [hactive, ne_eq, not_false_eq_true, if_true]

/-- POST of a booking is authentication and what follows. -/
theorem readCreate_eq {db : Db} {caller : Caller} {user : Option User}
    (h : authenticate db caller = some user) (body : BookingBody) :
    readCreate db caller body = admitCreate db user body := by
  unfold readCreate admitCreate
  generalize authenticate db caller = found at h ⊢
  subst h
  cases body.roomId with
  | none => rfl
  | some roomId =>
      cases body.checkIn with
      | none => rfl
      | some checkIn =>
          cases body.checkOut with
          | none => rfl
          | some checkOut => rfl

theorem mem_of_requestQueryset {db : Db} {user : Option User} {rows : List ServiceRequest}
    {r : ServiceRequest} (h : requestQueryset db user = .ok rows) (hr : r ∈ rows) :
    r ∈ db.serviceRequests := by
  cases user with
  | none => exact absurd h (by simp [requestQueryset])
  | some user =>
      rw [requestQueryset_eq] at h
      split at h
      · exact absurd h (by simp)
      · injection h with h
        rw [← h, mem_newestFirst] at hr
        exact (List.mem_filter.mp hr).1

section
variable {F : Filters} {w : World} {caller : Caller} {query : Query} {pk : Option Uuid}

/-- The object of a session is the stored row, but for its links. -/
theorem sessionObject_ok {db : Db} {user : User} {s : VoiceSession}
    (h : sessionObject F query db user pk = .ok s) :
    ∃ row, db.voiceSessions.find? s.id = some row ∧ row.columns = s
      ∧ (user.role ≠ .guest ∨ row.guestId = user.id) ∧ pk = some s.id := by
  obtain ⟨hmem, hpk⟩ := Backends.find_ok _ _ _ _ h
  unfold sessionQueryset at hmem
  rw [mem_newestFirst] at hmem
  obtain ⟨row, hrow, rfl⟩ := List.mem_map.mp hmem
  obtain ⟨hrow, hown⟩ := List.mem_filter.mp hrow
  exact ⟨row, Table.find?_of_mem hrow, rfl, of_decide_eq_true hown, hpk⟩

/-- The handlers of a session find the same object again. -/
theorem getSession_of_object {user : User} {s : VoiceSession}
    (hauth : authenticate w.db caller = some (some user))
    (h : sessionObject F query w.db user pk = .ok s) :
    ∃ row, row.columns = s ∧ getSession w.db caller s.id = .ok (user, row) := by
  obtain ⟨row, hrow, hcolumns, hown, _⟩ := sessionObject_ok h
  refine ⟨row, hcolumns, ?_⟩
  unfold getSession requireUser
  rw [hauth]
  simp only [hrow]
  rw [if_neg]
  rintro ⟨hguest, hother⟩
  rcases hown with hrole | hown
  · exact hrole hguest
  · exact hother hown

/-- So do those of a service request. -/
theorem getRequest_of_object {user : Option User} {r : ServiceRequest}
    (h : requestObject F query w.db user pk = .ok r) :
    ∃ u, user = some u ∧ getRequest w.db user pk = .ok (u, r) := by
  unfold requestObject ownedObject at h
  split at h
  · exact absurd h (by simp)
  next rows hrows =>
    split at h
    · exact absurd h (by simp)
    next x hfind =>
      split at h
      · exact absurd h (by simp)
      next u =>
        split at h
        next hperm =>
          injection h with h
          subst h
          obtain ⟨hmem, hpk⟩ := Backends.find_ok _ _ _ _ hfind
          refine ⟨u, rfl, ?_⟩
          have hunique : rows.find? (fun y => y.id = x.id) = some x := by
            cases hf : rows.find? (fun y => y.id = x.id) with
            | none => exact absurd (List.find?_eq_none.mp hf x hmem) (by simp)
            | some y =>
                have hid : y.id = x.id := by simpa using List.find?_some hf
                have hx := mem_of_requestQueryset hrows hmem
                have hy := mem_of_requestQueryset hrows (List.mem_of_find?_eq_some hf)
                rw [Table.eq_of_key_eq hy hx hid]
          unfold getRequest
          rw [hrows, hpk]
          simp only [Option.bind_some, hunique, hperm, if_true]
        · exact absurd h (by simp)

/-- And those of a booking. -/
theorem getBooking_of_object {user : Option User} {b : Booking}
    (hauth : authenticate w.db caller = some user)
    (h : bookingObject F query w.db user pk = .ok b) : getBooking w.db caller b.id = .ok b := by
  unfold bookingObject ownedObject at h
  split at h
  · exact absurd h (by simp)
  next rows hrows =>
    split at h
    · exact absurd h (by simp)
    next x hfind =>
      split at h
      · exact absurd h (by simp)
      next u =>
        split at h
        next hperm =>
          injection h with h
          subst h
          obtain ⟨hmem, _⟩ := Backends.find_ok _ _ _ _ hfind
          injection hrows with hrows
          rw [← hrows, mem_newestFirst, List.mem_filter, decide_eq_true_eq] at hmem
          obtain ⟨hmem, hown⟩ := hmem
          unfold getBooking
          rw [hauth]
          simp only [Table.find?_of_mem (t := w.db.bookings) hmem, hperm, if_true]
          rw [if_neg]
          rintro ⟨hguest, hother⟩
          rcases hown with hrole | hown
          · exact hrole hguest
          · exact hother hown
        · exact absurd h (by simp)

/-- What is in the log changes nothing in the block. -/
theorem createRequest_log (py : Python) (db : Db) (d : RequestDraft) (fresh : SessionFresh)
    (log log' : List Record) :
    (createRequest py ⟨db, log⟩ d fresh).1.db = (createRequest py ⟨db, log'⟩ d fresh).1.db
      ∧ (createRequest py ⟨db, log⟩ d fresh).2 = (createRequest py ⟨db, log'⟩ d fresh).2 := by
  rw [createRequest_eq, createRequest_eq]
  simp only
  split
  · exact ⟨rfl, rfl⟩
  · split
    · split
      · exact ⟨rfl, rfl⟩
      · split
        · exact ⟨rfl, rfl⟩
        · exact ⟨rfl, rfl⟩
    · exact ⟨rfl, rfl⟩

/-- A block that creates nothing leaves the database. -/
theorem db_of_not_created {d : RequestDraft} {fresh : SessionFresh}
    (h : (createRequest py w d fresh).2 = none) : (createRequest py w d fresh).1.db = w.db := by
  rw [createRequest_eq] at h ⊢
  cases hins : d.inserts py w.db fresh with
  | none => rfl
  | some rowDb =>
      obtain ⟨row, db⟩ := rowDb
      simp only [hins] at h ⊢
      by_cases hsignal : (d.signal py fresh).returns = true
      · simp only [hsignal, if_true] at h ⊢
        cases hsave : db.saveSession d.sessionId (.addRequest row.id) with
        | none => rfl
        | some db' =>
            simp only [hsave] at h ⊢
            by_cases hview : (d.announce py fresh).returns = true
            · rw [if_pos hview] at h
              exact absurd h (by simp)
            · rw [if_neg hview]
      · rw [if_neg hsignal]

/-- What a new session leaves, whatever becomes of its event. -/
theorem db_createSession {user : User} (hauth : authenticate w.db caller = some (some user))
    (bookingId : Option Uuid) (fresh : SessionFresh) :
    (createSession py w caller bookingId fresh).1.db
      = match bookingId with
        | none => (w.db.insertSession (newSession user none fresh)).getD w.db
        | some id =>
          match checkedInBooking w.db user id with
          | none => w.db
          | some b => (w.db.insertSession (newSession user (some b.id) fresh)).getD w.db := by
  unfold createSession requireUser
  rw [hauth]
  cases bookingId with
  | none =>
      simp only [Option.bind_none, Option.map_none, Option.isSome_none, Bool.false_eq_true,
        false_and, if_false]
      cases w.db.insertSession (newSession user none fresh) with
      | none => rfl
      | some db =>
          simp only [Option.getD_some]
          -- the row stays whatever becomes of its event
          split
          · rfl
          · rfl
  | some id =>
      simp only [Option.bind_some, Option.isSome_some, true_and]
      cases hbooking : checkedInBooking w.db user id with
      | none => rfl
      | some b =>
          rw [if_neg (by simp)]
          simp only [Option.map_some]
          cases w.db.insertSession (newSession user (some b.id) fresh) with
          | none => rfl
          | some db =>
              simp only [Option.getD_some]
              split
              · rfl
              · rfl

/-- What follows the transcript of a turn leaves what its block leaves. -/
theorem db_finishTurn (w : World) (user : User) (s : VoiceSession) (r : VoiceAgentResponse py)
    (fresh : SessionFresh) :
    (finishTurn w user s r fresh).1.db
      = match requestDraft user s r with
        | none => w.db
        | some d => (createRequest py w d fresh).1.db := by
  unfold finishTurn
  cases requestDraft user s r with
  | none => rfl
  | some d =>
      simp only
      cases createRequest py w d fresh with
      | mk w' made =>
          cases made with
          | none => rfl
          | some row => rfl

/-- The commits of a turn with a new request, after its transcript was saved in `db`. -/
theorem lastDb_drafted {α : Type} (base db : Db) (d : RequestDraft) (fresh : SessionFresh)
    (log : List Record) (turn : Option α) :
    lastDb base (match createRequest py ⟨db, []⟩ d fresh with
      | (_, none) => ([(⟨[.voiceSession], db⟩ : Commit)], none)
      | (w, some _) => ([⟨[.voiceSession], db⟩, ⟨[.serviceRequest], w.db⟩], turn)).1
      = (createRequest py ⟨db, log⟩ d fresh).1.db := by
  rw [← (createRequest_log py db d fresh [] log).1]
  cases hmade : createRequest py ⟨db, []⟩ d fresh with
  | mk w made =>
      cases made with
      | none =>
          have hback : (createRequest py ⟨db, []⟩ d fresh).1.db = db :=
            db_of_not_created (by rw [hmade])
          rw [hmade] at hback
          exact hback.symm
      | some row => rfl

/-! ### One lemma for each write to a voice session. -/

attribute [local simp] VoiceWrite.commits VoiceWrite.handle OwnedWrite.commits OwnedWrite.handle

/-- **A turn leaves** what its commits leave. -/
theorem lastDb_runTurn {user : User} (hauth : authenticate w.db caller = some (some user))
    (body : Body TurnRequest) (optionErrors : List (Text × Text)) (agent : AgentOutcome py)
    (fresh : SessionFresh) :
    lastDb w.db (runTurn F (fun _ => w.db) w.db user query pk body optionErrors agent fresh).1
      = ((VoiceWrite.turn pk body optionErrors agent fresh).handle F w caller (some user)
          query).db := by
  unfold runTurn VoiceWrite.handle
  simp only [Option.map_some]
  cases hobject : sessionObject F query w.db user pk with
  | error response => rfl
  | ok s =>
      obtain ⟨row, rfl, hget⟩ := getSession_of_object hauth hobject
      cases body.read with
      | error response => rfl
      | ok req =>
          simp only
          by_cases hoptions : optionErrors = []
          · rw [if_neg (by simpa using hoptions), if_neg (by simpa using hoptions)]
            have hadmits : admitTurn row.columns req = admitTurn row req := rfl
            unfold processTurn
            rw [readTurn_eq, hget, hadmits]
            simp only
            cases admitTurn row req with
            | error answer => rfl
            | ok content =>
                simp only
                cases agent with
                | raises =>
                    have hfails : failTurn w.db row.columns = failTurn w.db row := rfl
                    simp only [hfails, lastDb_committed]
                    cases failTurn w.db row with
                    | none => rfl
                    | some db => rfl
                | replies r =>
                    have hsaves : saveTurn w.db row.columns content r fresh.nowTs
                        = saveTurn w.db row content r fresh.nowTs := rfl
                    have hdrafts : requestDraft user row.columns r = requestDraft user row r := rfl
                    simp only [hsaves, hdrafts]
                    cases saveTurn w.db row content r fresh.nowTs with
                    | none => rfl
                    | some db =>
                        show _ = (finishTurn ⟨db, w.log⟩ user row r fresh).1.db
                        rw [db_finishTurn]
                        simp only
                        cases requestDraft user row r with
                        | none => rfl
                        | some d => exact lastDb_drafted w.db db d fresh w.log _
          · rw [if_pos hoptions, if_pos hoptions]
            rfl

/-- A stored session, saved whole, is as it was. -/
theorem saveWholeSession_columns {db : Db} {row : VoiceSession}
    (h : db.voiceSessions.find? row.id = some row) :
    db.saveWholeSession row.columns = some db := by
  have hmem : row ∈ db.voiceSessions := Table.mem_of_find? h
  have hrow : db.sessionRow row.columns = row := by
    show { row.columns with serviceRequestsCreated :=
      ((db.voiceSessions.find? row.id).map (·.serviceRequestsCreated)).getD [] } = row
    rw [h]
    rfl
  unfold Db.saveWholeSession
  rw [dif_pos (by rw [hrow]; exact db.session_ok row hmem)]
  refine congrArg some (Db.eq_of_tables rfl rfl rfl rfl ?_ rfl)
  show db.voiceSessions.save (db.sessionRow row.columns) = db.voiceSessions
  rw [hrow, Table.save_of_has (Table.has_of_mem hmem)]
  exact Table.put_self hmem

theorem saveSession_rewrite {db : Db} {row : VoiceSession}
    (h : db.voiceSessions.find? row.id = some row) :
    db.saveSession row.id (.rewrite row.columns) = some db := by
  have hmem : row ∈ db.voiceSessions := Table.mem_of_find? h
  have hwrite : (SessionWrite.rewrite row.columns).write row = row := rfl
  have hrange : ∀ s ∈ db.voiceSessions.rows, decide (s.id = row.id) = true →
      ((SessionWrite.rewrite row.columns).write s).InRange := by
    intro s hs hid
    rw [Table.eq_of_key_eq hs hmem (of_decide_eq_true hid), hwrite]
    exact (db.session_ok row hmem).2.2
  unfold Db.saveSession Db.updateSessions
  rw [if_pos (Table.has_of_mem hmem), dif_pos hrange]
  refine congrArg some (Db.eq_of_tables rfl rfl rfl rfl ?_ rfl)
  show db.voiceSessions.updateWhere (fun s => s.id = row.id)
    (SessionWrite.rewrite row.columns).write (SessionWrite.rewrite row.columns).id_eq
      = db.voiceSessions
  rw [Table.updateWhere_key hmem, hwrite]
  exact Table.put_self hmem

theorem lastDb_createSession {user : User} (hauth : authenticate w.db caller = some (some user))
    (body : Body (Option (Option Uuid))) (fresh : SessionFresh) :
    lastDb w.db ((VoiceWrite.create body fresh : VoiceWrite py).commits F (fun _ => w.db) w.db user
        query)
      = ((VoiceWrite.create body fresh : VoiceWrite py).handle F w caller (some user) query).db := by
  simp only [VoiceWrite.commits, VoiceWrite.handle]
  cases hbody : body.read with
  | error response => rfl
  | ok data =>
      cases data with
      | none =>
          rw [db_createSession hauth]
          exact lastDb_committed _ _ _
      | some bookingId =>
          cases bookingId with
          | none => rfl
          | some id =>
              rw [db_createSession hauth]
              simp only
              cases checkedInBooking w.db user id with
              | none => rfl
              | some b => exact lastDb_committed _ _ _

theorem lastDb_updateSession {user : User} :
    lastDb w.db ((VoiceWrite.update pk : VoiceWrite py).commits F (fun _ => w.db) w.db user query)
      = ((VoiceWrite.update pk : VoiceWrite py).handle F w caller (some user) query).db := by
  simp only [VoiceWrite.commits, VoiceWrite.handle, Option.map_some]
  cases hobject : sessionObject F query w.db user pk with
  | error response => rfl
  | ok s =>
      obtain ⟨row, hfind, rfl, _⟩ := sessionObject_ok hobject
      have hfind : w.db.voiceSessions.find? row.id = some row := hfind
      simp only [saveWholeSession_columns hfind, lastDb_committed, Option.getD_some]
      have hsave : w.db.saveSession row.id (.rewrite row.columns) = some w.db :=
        saveSession_rewrite hfind
      have hid : row.columns.id = row.id := rfl
      rw [hid, hsave]

theorem lastDb_endSession {user : User} (hauth : authenticate w.db caller = some (some user))
    (fresh : SessionFresh) :
    lastDb w.db ((VoiceWrite.finish pk fresh : VoiceWrite py).commits F (fun _ => w.db) w.db user
        query)
      = ((VoiceWrite.finish pk fresh : VoiceWrite py).handle F w caller (some user) query).db := by
  simp only [VoiceWrite.commits, VoiceWrite.handle, Option.map_some]
  cases hobject : sessionObject F query w.db user pk with
  | error response => rfl
  | ok s =>
      obtain ⟨row, rfl, hget⟩ := getSession_of_object hauth hobject
      have hstatus : row.columns.status = row.status := rfl
      have hsaves : saveEnd w.db row.columns fresh.now = saveEnd w.db row fresh.now := rfl
      unfold endSession readEnd
      simp only [hget, hstatus, hsaves]
      by_cases hactive : row.status = .active
      · simp only [hactive, ne_eq, not_true_eq_false, if_false, lastDb_committed]
        cases saveEnd w.db row fresh.now with
        | none => rfl
        | some db =>
            simp only [Option.getD_some, finishEnd]
            split
            · rfl
            · rfl
      · simp only [hactive, ne_eq, not_false_eq_true, if_true, lastDb_nil]

/-- **Writes to voice sessions** leave what their commits leave. -/
theorem lastDb_voice {user : User} (hauth : authenticate w.db caller = some (some user))
    (call : VoiceWrite py) :
    lastDb w.db (call.commits F (fun _ => w.db) w.db user query)
      = (call.handle F w caller (some user) query).db := by
  cases call with
  | create body fresh => exact lastDb_createSession hauth body fresh
  | update pk => exact lastDb_updateSession
  | destroy pk =>
      simp only [VoiceWrite.commits, VoiceWrite.handle, Option.map_some]
      cases sessionObject F query w.db user pk with
      | error response => rfl
      | ok s => rfl
  | turn pk body optionErrors agent fresh =>
      exact lastDb_runTurn hauth body optionErrors agent fresh
  | finish pk fresh => exact lastDb_endSession hauth fresh

/-- The signal does not touch the room of a booking that is pending or confirmed. -/
theorem syncRoom_of_not {db : Db} {b : Booking} (h : syncsRoom b.status = false) :
    syncRoom db b = db := by
  unfold syncRoom
  cases hstatus : b.status with
  | pending => rfl
  | confirmed => rfl
  | checkedIn => exact absurd h (by rw [hstatus]; decide)
  | checkedOut => exact absurd h (by rw [hstatus]; decide)
  | cancelled => exact absurd h (by rw [hstatus]; decide)

/-- A booking's save over a stored row. -/
theorem lastDb_bookingCommits {db : Db} {row : Booking} (h : db.bookings.Has row.id)
    (log : List Record) (fresh : Fresh) :
    lastDb db (bookingCommits py db row fresh)
      = match db.saveBooking row with
        | none => db
        | some saved => (onBookingSave py ⟨saved, log⟩ row false fresh).1.db := by
  unfold bookingCommits
  cases db.saveBooking row with
  | none => rfl
  | some saved =>
      simp only [h, not_true_eq_false, decide_false, onBookingSave]
      cases hsyncs : syncsRoom row.status with
      | true => rfl
      | false => exact (syncRoom_of_not hsyncs).symm

/-! ### One lemma for each write where `IsOwnerOrStaff` guards. -/

theorem lastDb_createRequest {user : Option User} (body : Body RequestBody) :
    lastDb w.db ((OwnedWrite.createRequest body).commits F (fun _ => w.db) user query py w.db)
      = ((OwnedWrite.createRequest body).handle py F w caller user query).1.db := by
  simp only [OwnedWrite.commits, OwnedWrite.handle, lastDb_nil]
  cases body.read with
  | error response => rfl
  | ok data =>
      simp only [createServiceRequest]
      split
      · rfl
      · rfl

theorem lastDb_updateRequest {user : Option User} (part : Bool) (body : Body RequestBody) :
    lastDb w.db ((OwnedWrite.updateRequest pk part body).commits F (fun _ => w.db) user query py w.db)
      = ((OwnedWrite.updateRequest pk part body).handle py F w caller user query).1.db := by
  simp only [OwnedWrite.commits, OwnedWrite.handle, onRequest]
  cases hobject : requestObject F query w.db user pk with
  | error response => rfl
  | ok r =>
      obtain ⟨u, rfl, hget⟩ := getRequest_of_object hobject
      cases body.read with
      | error response => rfl
      | ok data =>
          simp only [updateServiceRequest, readUpdateRequest, hget]
          by_cases herrors : data.errors w.db part = []
          · simp only [herrors, ne_eq, not_true_eq_false, if_false, lastDb_committed]
            cases w.db.saveServiceRequest (data.applyTo r) with
            | none => rfl
            | some db => rfl
          · simp only [herrors, ne_eq, not_false_eq_true, if_true, lastDb_nil]

theorem lastDb_destroyRequest {user : Option User} :
    lastDb w.db ((OwnedWrite.destroyRequest pk).commits F (fun _ => w.db) user query py w.db)
      = ((OwnedWrite.destroyRequest pk).handle py F w caller user query).1.db := by
  simp only [OwnedWrite.commits, OwnedWrite.handle, onRequest]
  cases hobject : requestObject F query w.db user pk with
  | error response => rfl
  | ok r =>
      obtain ⟨u, rfl, hget⟩ := getRequest_of_object hobject
      simp only [destroyServiceRequest, hget]
      rfl

theorem lastDb_assign {user : Option User} (fresh : ActionFresh) :
    lastDb w.db ((OwnedWrite.assign pk fresh).commits F (fun _ => w.db) user query py w.db)
      = ((OwnedWrite.assign pk fresh).handle py F w caller user query).1.db := by
  simp only [OwnedWrite.commits, OwnedWrite.handle, onRequest]
  cases hobject : requestObject F query w.db user pk with
  | error response => rfl
  | ok r =>
      obtain ⟨u, rfl, hget⟩ := getRequest_of_object hobject
      simp only [HotelAgent.assign, readAssign, hget]
      by_cases hstaff : u.role.isStaff = true
      · simp only [hstaff, if_true, lastDb_committed]
        cases saveAssign w.db u r with
        | none => rfl
        | some db =>
            simp only [Option.getD_some]
            split
            · rfl
            · rfl
      · rw [if_neg hstaff, if_neg hstaff]
        rfl

theorem lastDb_complete {user : Option User} (body : Body Json) (fresh : ActionFresh) :
    lastDb w.db ((OwnedWrite.complete pk body fresh).commits F (fun _ => w.db) user query py w.db)
      = ((OwnedWrite.complete pk body fresh).handle py F w caller user query).1.db := by
  simp only [OwnedWrite.commits, OwnedWrite.handle, onRequest]
  cases hobject : requestObject F query w.db user pk with
  | error response => rfl
  | ok r =>
      obtain ⟨u, rfl, hget⟩ := getRequest_of_object hobject
      cases body.read with
      | error response => rfl
      | ok data =>
          simp only [HotelAgent.complete, readComplete, hget]
          cases data with
          | obj fields =>
              simp only [lastDb_committed]
              cases saveComplete py w.db r fresh.now
                (dictGet fields (txt "notes") (.str [])) with
              | none => rfl
              | some db =>
                  simp only [Option.getD_some]
                  split
                  · rfl
                  · rfl
          | null => rfl
          | bool b => rfl
          | int i => rfl
          | float lit => rfl
          | str s => rfl
          | arr xs => rfl

theorem lastDb_createBooking {user : Option User} (hauth : authenticate w.db caller = some user)
    (body : Body BookingData) (fresh : Fresh) :
    lastDb w.db ((OwnedWrite.createBooking body fresh).commits F (fun _ => w.db) user query py w.db)
      = ((OwnedWrite.createBooking body fresh).handle py F w caller user query).1.db := by
  simp only [OwnedWrite.commits, OwnedWrite.handle, postBooking]
  cases body.read with
  | error response => rfl
  | ok data =>
      simp only
      by_cases herrors : data.errors false = []
      · simp only [herrors, ne_eq, not_true_eq_false, if_false]
        unfold HotelAgent.createBooking
        rw [readCreate_eq hauth]
        cases hadmit : admitCreate w.db user data.fields with
        | error answer => rfl
        | ok draft =>
            simp only [lastDb_committed]
            cases w.db.insertBooking (draft.row fresh) with
            | none => rfl
            | some db =>
                simp only [Option.getD_some, onBookingSave, if_true]
                -- a new booking is pending
                have hsync : syncRoom db (draft.row fresh) = db := syncRoom_of_not rfl
                split
                · rfl
                · exact hsync.symm
      · simp only [herrors, ne_eq, not_false_eq_true, if_true, lastDb_nil]

theorem lastDb_updateBooking {user : Option User} (hauth : authenticate w.db caller = some user)
    (part : Bool) (body : Body BookingData) (fresh : Fresh) :
    lastDb w.db ((OwnedWrite.updateBooking pk part body fresh).commits F (fun _ => w.db) user query
        py w.db)
      = ((OwnedWrite.updateBooking pk part body fresh).handle py F w caller user query).1.db := by
  simp only [OwnedWrite.commits, OwnedWrite.handle, putBooking]
  cases hobject : bookingObject F query w.db user pk with
  | error response => rfl
  | ok b =>
      have hget := getBooking_of_object hauth hobject
      cases body.read with
      | error response => rfl
      | ok data =>
          simp only
          by_cases herrors : data.errors part = []
          · simp only [herrors, ne_eq, not_true_eq_false, if_false, true_and]
            unfold HotelAgent.updateBooking readUpdate
            rw [hget]
            have hhas : w.db.bookings.Has (data.fields.applyTo b).id :=
              ⟨b, (getBooking_ok hget).1, rfl⟩
            by_cases hmissing : part = false ∧ data.fields.missing ≠ []
            · rw [if_neg fun h => (admitUpdate_iff.mp h).1 hmissing]
              simp only
              rw [if_pos hmissing]
              rfl
            · simp only
              rw [if_neg hmissing]
              by_cases hdates : data.fields.validDates = true
              · rw [if_pos (admitUpdate_iff.mpr ⟨hmissing, hdates⟩), if_pos hdates,
                  lastDb_bookingCommits hhas w.log]
                simp only
                cases w.db.saveBooking (data.fields.applyTo b) with
                | none => rfl
                | some db => rfl
              · rw [if_neg fun h => hdates (admitUpdate_iff.mp h).2, if_neg hdates]
                rfl
          · simp only [herrors, ne_eq, not_false_eq_true, if_true, false_and, if_false,
              lastDb_nil]

theorem lastDb_destroyBooking {user : Option User} (hauth : authenticate w.db caller = some user) :
    lastDb w.db ((OwnedWrite.destroyBooking pk).commits F (fun _ => w.db) user query py w.db)
      = ((OwnedWrite.destroyBooking pk).handle py F w caller user query).1.db := by
  simp only [OwnedWrite.commits, OwnedWrite.handle, HotelAgent.deleteBooking]
  cases hobject : bookingObject F query w.db user pk with
  | error response => rfl
  | ok b =>
      have hget := getBooking_of_object hauth hobject
      simp only [HotelAgent.destroyBooking, hget, lastDb_committed]
      cases w.db.deleteBooking b.id with
      | none => rfl
      | some db => rfl

/-- **Writes where `IsOwnerOrStaff` guards** leave what their commits leave. -/
theorem lastDb_owned {user : Option User} (hauth : authenticate w.db caller = some user)
    (call : OwnedWrite) :
    lastDb w.db (call.commits F (fun _ => w.db) user query py w.db)
      = (call.handle py F w caller user query).1.db := by
  cases call with
  | createRequest body => exact lastDb_createRequest body
  | updateRequest pk part body => exact lastDb_updateRequest part body
  | destroyRequest pk => exact lastDb_destroyRequest
  | assign pk fresh => exact lastDb_assign fresh
  | complete pk body fresh => exact lastDb_complete body fresh
  | createBooking body fresh => exact lastDb_createBooking hauth body fresh
  | updateBooking pk part body fresh => exact lastDb_updateBooking hauth part body fresh
  | destroyBooking pk => exact lastDb_destroyBooking hauth

end

theorem lastDb_register (inet : Text → Bool) (w : World) (body : RegisterBody)
    (remoteAddr : Text) (fresh : RegisterFresh) :
    lastDb w.db (registerCommits inet w.db body remoteAddr fresh)
      = (register inet w body remoteAddr fresh).1.db := by
  unfold registerCommits register
  by_cases herrors : body.errors w.db = []
  · simp only [herrors, ne_eq, not_true_eq_false, if_false]
    cases w.db.insertUser (body.row fresh) with
    | none => rfl
    | some db =>
        simp only
        cases db.insertAuditLog inet (registeredLog (body.row fresh) remoteAddr) with
        | none => rfl
        | some db' => rfl
  · simp only [herrors, ne_eq, not_false_eq_true, if_true, lastDb_nil]

/-- The last save decides, if it goes through. -/
theorem lastDb_append_committed (base : Db) (commits : List Commit) (models : List Model)
    (saved : Option Db) :
    lastDb base (commits ++ committed models saved) = saved.getD (lastDb base commits) := by
  cases saved with
  | none =>
      show lastDb base (commits ++ []) = _
      rw [List.append_nil]
      rfl
  | some db =>
      unfold lastDb committed
      rw [Option.map_some, Option.toList_some, List.getLast?_append]
      rfl

theorem lastDb_login (inet : Text → Bool) (db : Db) (req : TokenRequest) :
    lastDb db (loginCommits inet db req) = (recordLogin inet db req).1 := by
  unfold loginCommits recordLogin
  cases req.email.bind db.userByEmail with
  | none => rfl
  | some u =>
      have hreset : lastDb db (if 0 < u.failedLoginAttempts
          then [⟨[.user], db.resetFailedLogin u⟩] else []) = db.resetFailedLogin u := by
        by_cases hpos : 0 < u.failedLoginAttempts
        · rw [if_pos hpos]
          rfl
        · -- nothing to reset
          rw [if_neg hpos, Db.resetFailedLogin, if_neg hpos]
          rfl
      simp only [lastDb_append_committed, hreset]
      cases (db.resetFailedLogin u).saveLoginIp inet u req.remoteAddr with
      | none => rfl
      | some db' => rfl

theorem lastDb_token (jwt : SimpleJwt) (inet : Text → Bool) (db : Db) (req : TokenRequest)
    (now : Instant) :
    lastDb db (tokenCommits jwt inet db req now) = (tokenPost jwt inet db req now).1 := by
  unfold tokenCommits
  rcases tokenPost_cases jwt inet db req now with ⟨hlocked, heq⟩ | ⟨hopen, hacc, heq⟩
    | ⟨hopen, hacc, status, heq⟩
  · rw [heq, if_pos hlocked, lastDb_nil]
  · rw [heq, if_neg (by rw [hopen]; decide)]
    rcases jwt.post_cases (req.account.bind db.userByEmail) req with
      ⟨_, hpost⟩ | ⟨hrefused, _⟩
    · rw [hpost]
      exact lastDb_login inet db req
    · exact absurd hacc (by rw [Db.namesAccepting, hrefused]; decide)
  · rw [heq, if_neg (by rw [hopen]; decide)]
    rcases jwt.post_cases (req.account.bind db.userByEmail) req with
      ⟨htaken, _⟩ | ⟨_, raised, hpost⟩
    · exact absurd hacc (by rw [Db.namesAccepting, htaken]; decide)
    · rw [hpost, lastDb_nil]

/-- **One database**: where the primary and the replica are the same, the commits of a
request leave what `perform` leaves. -/
theorem commits_eq_perform (D : Deployment) (w : World) (cred : Credentials) (query : Query)
    (call : WriteRequest py) :
    lastDb w.db ((ApiRequest.write cred query call).commits D (fun _ => w.db) w.db)
      = (perform D.filters w cred query call).db := by
  unfold perform
  simp only [ApiRequest.commits]
  cases huser : cred.user w.db with
  | error response => rfl
  | ok user =>
      have hauth := Credentials.authenticate_caller huser
      cases call with
      | owned call =>
          cases user with
          | none => exact lastDb_owned hauth call
          | some user => exact lastDb_owned hauth call
      | voice call =>
          cases user with
          | some user => exact lastDb_voice hauth call
          | none =>
              -- nobody may write to a voice session
              cases call with
              | create body fresh => rfl
              | update pk => rfl
              | destroy pk => rfl
              | turn pk body optionErrors agent fresh => rfl
              | finish pk fresh => rfl

end HotelAgent
