/-
  HotelAgent.Api.Endpoints — three viewsets behind their routes.

  A request on a route passes authentication, the viewset's permission class,
  `get_queryset`, the filter backends of the settings and the object permission;
  then the handler runs.

      VoiceSessionViewSet      IsAuthenticated
      ServiceRequestViewSet    IsOwnerOrStaff, which asks about objects only
      BookingViewSet           IsOwnerOrStaff

  The filter backends and the paginator are REST framework's and django-filter's;
  a viewset's `Backends` stand for them.  None of the viewsets gives them a field
  that reaches beyond the row, the users and the rooms.
-/
import HotelAgent.Api.Bookings
import HotelAgent.Api.ServiceRequests

namespace HotelAgent

open Lib

/-! ## §1. Credentials. -/

/-- What the `Authorization` header amounts to. -/
inductive Credentials where
  /-- No bearer token: `AnonymousUser`. -/
  | absent
  /-- A header or a token that is refused before any user is looked up. -/
  | rejected (body : Json)
  /-- A valid access token for this `user_id`. -/
  | bearer (userId : Uuid)

/-- `JWTAuthentication.authenticate`: `request.user`, or a 401. -/
def Credentials.user (db : Db) : Credentials → Except Response (Option User)
  | .absent => .ok none
  | .rejected body => .error ⟨401, body⟩
  | .bearer userId =>
    match db.users.find? userId with
    | none => .error (.envelope 401 (txt "User not found") (txt "user_not_found"))
    | some u =>
      if u.isActive then .ok (some u)
      -- a deactivated user keeps the tokens, but not the access
      else .error (.envelope 401 (txt "User is inactive") (txt "user_inactive"))

/-- The caller behind credentials that are not rejected. -/
def Credentials.caller : Credentials → Caller
  | .absent => .anonymous
  | .rejected _ => .anonymous
  | .bearer userId => .token userId

/-- The user is the one that the handlers find. -/
theorem Credentials.authenticate_caller {db : Db} {cred : Credentials} {user : Option User}
    (h : cred.user db = .ok user) : authenticate db cred.caller = some user := by
  cases cred with
  | absent =>
      injection h with h
      rw [← h]
      rfl
  | rejected body => exact absurd h (by simp [Credentials.user])
  | bearer userId =>
      unfold Credentials.user at h
      show authenticate db (.token userId) = some user
      unfold authenticate
      simp only at h ⊢
      split at h
      · exact absurd h (by simp)
      next u hu =>
        simp only [hu]
        split at h
        next hactive =>
          injection h with h
          rw [if_pos hactive, h]
        · exact absurd h (by simp)

/-! ## §2. Querysets and filter backends. -/

/-- The query parameters of a URL. -/
abbrev Query := List (Text × Text)

/-- What the filter backends and the paginator do for a viewset. -/
structure Backends (R : Type) where
  /-- A parameter that a backend refuses. -/
  refuses : Query → Option Response
  /-- The conditions added to the queryset. -/
  keeps : Query → Table User.id → Table Room.id → R → Bool
  /-- The ordering asked for. -/
  orders : Query → Table User.id → Table Room.id → List R → List R
  /-- The page, or the 404 of a page that is not there. -/
  paginate : Query → List Json → Response

/-- The backends of the three viewsets. -/
structure Filters where
  sessions : Backends VoiceSession
  requests : Backends ServiceRequest
  bookings : Backends Booking

section
variable {R : Type} (B : Backends R) (query : Query) (users : Table User.id)
  (rooms : Table Room.id)

/-- `get_object_or_404(self.filter_queryset(queryset), pk=pk)`. -/
def Backends.find (id : R → Uuid) (model : String) (rows : List R) (pk : Option Uuid) :
    Except Response R :=
  match B.refuses query with
  | some response => .error response
  | none =>
    match pk.bind (fun pk => (rows.filter (B.keeps query users rooms)).find? fun r => id r = pk) with
    | none => .error (.notFound model pk)
    | some r => .ok r

/-- `list`. -/
def Backends.list (render : R → Json) (rows : List R) : Response :=
  match B.refuses query with
  | some response => response
  | none =>
    B.paginate query
      ((B.orders query users rooms (rows.filter (B.keeps query users rooms))).map render)

/-- What is found is a row of the queryset with the lookup value as key. -/
theorem Backends.find_ok {id : R → Uuid} {model : String} {rows : List R} {pk : Option Uuid}
    {r : R} (h : B.find query users rooms id model rows pk = .ok r) :
    r ∈ rows ∧ pk = some (id r) := by
  unfold Backends.find at h
  split at h
  · exact absurd h (by simp)
  split at h
  · exact absurd h (by simp)
  next x hx =>
    injection h with h
    subst h
    obtain ⟨k, rfl, hfind⟩ := Option.bind_eq_some_iff.mp hx
    have hid : id x = k := by simpa using List.find?_some hfind
    exact ⟨(List.mem_filter.mp (List.mem_of_find?_eq_some hfind)).1, by rw [hid]⟩

end

/-- The columns of a session; the links to its requests are a table of their own. -/
def VoiceSession.columns (s : VoiceSession) : VoiceSession :=
  { s with serviceRequestsCreated := [] }

/-- `VoiceSessionViewSet.get_queryset`. -/
def sessionQueryset (db : Db) (user : User) : List VoiceSession :=
  newestFirst VoiceSession.startedAt
    ((db.voiceSessions.rows.filter fun s => user.role ≠ .guest ∨ s.guestId = user.id).map
      VoiceSession.columns)

/-- `BookingViewSet.get_queryset`, evaluated. -/
def bookingQueryset (db : Db) (user : Option User) : Except PyError (List Booking) :=
  match user with
  -- `AnonymousUser` has no role
  | none => .error (.attributeError (txt "role"))
  | some user => .ok (newestFirst Booking.createdAt
      (db.bookings.rows.filter fun b => user.role ≠ .guest ∨ b.guestId = user.id))

/-- `get_object` under `IsOwnerOrStaff`. -/
def ownedObject {R : Type} (B : Backends R) (query : Query) (db : Db) (id guestId : R → Uuid)
    (model : String) (queryset : Except PyError (List R)) (user : Option User)
    (pk : Option Uuid) : Except Response R :=
  match queryset with
  | .error _ => .error .internalError
  | .ok rows =>
    match B.find query db.users db.rooms id model rows pk with
    | .error response => .error response
    | .ok r =>
      match user with
      -- `has_object_permission` comes after the lookup
      | none => .error .notAuthenticated
      | some user => if isOwnerOrStaff user (guestId r) then .ok r else .error .permissionDenied

/-- `list` under `IsOwnerOrStaff`. -/
def ownedList {R : Type} (B : Backends R) (query : Query) (db : Db) (render : R → Json)
    (queryset : Except PyError (List R)) : Response :=
  match queryset with
  | .error _ => .internalError
  | .ok rows => B.list query db.users db.rooms render rows

/-! ## §3. Reading. -/

inductive VoiceRead where
  | list
  | retrieve (pk : Option Uuid)
  | transcript (pk : Option Uuid)

inductive OwnedRead where
  | listRequests
  | retrieveRequest (pk : Option Uuid)
  | listBookings
  | retrieveBooking (pk : Option Uuid)

section
variable (F : Filters) (query : Query) (db : Db)

/-- `get_object` of the voice sessions. -/
def sessionObject (user : User) (pk : Option Uuid) : Except Response VoiceSession :=
  F.sessions.find query db.users db.rooms VoiceSession.id "VoiceSession" (sessionQueryset db user) pk

/-- `get_object` of the service requests. -/
def requestObject (user : Option User) (pk : Option Uuid) : Except Response ServiceRequest :=
  ownedObject F.requests query db ServiceRequest.id ServiceRequest.guestId "ServiceRequest"
    (requestQueryset db user) user pk

/-- `get_object` of the bookings. -/
def bookingObject (user : Option User) (pk : Option Uuid) : Except Response Booking :=
  ownedObject F.bookings query db Booking.id Booking.guestId "Booking" (bookingQueryset db user)
    user pk

/-- An object, rendered. -/
def shown {R : Type} (render : R → Json) : Except Response R → Response
  | .error response => response
  | .ok r => ⟨200, render r⟩

def VoiceRead.respond (user : Option User) (read : VoiceRead) : Response :=
  match user with
  | none => .notAuthenticated
  | some user =>
    match read with
    | .list =>
      F.sessions.list query db.users db.rooms (sessionJson db.users) (sessionQueryset db user)
    | .retrieve pk => shown (sessionJson db.users) (sessionObject F query db user pk)
    | .transcript pk => shown transcriptJson (sessionObject F query db user pk)

def OwnedRead.respond (user : Option User) : OwnedRead → Response
  | .listRequests =>
    ownedList F.requests query db (requestJson db.users) (requestQueryset db user)
  | .retrieveRequest pk => shown (requestJson db.users) (requestObject F query db user pk)
  | .listBookings =>
    ownedList F.bookings query db (bookingJson db.users db.rooms) (bookingQueryset db user)
  | .retrieveBooking pk =>
    shown (bookingJson db.users db.rooms) (bookingObject F query db user pk)

end

/-! ## §4. Bodies. -/

/-- A body as the parsers leave it. -/
inductive Body (α : Type) where
  /-- No valid JSON or form data. -/
  | parseError (detail : Text)
  /-- A media type without a parser. -/
  | unsupported (detail : Text)
  | data (value : α)

/-- `request.data`. -/
def Body.read {α : Type} : Body α → Except Response α
  | .parseError detail => .error (.envelope 400 detail (txt "parse_error"))
  | .unsupported detail => .error (.envelope 415 detail (txt "unsupported_media_type"))
  | .data value => .ok value

/-- The data of a booking: the errors of malformed fields, and the other fields. -/
structure BookingData where
  malformed : List (Text × Text)
  fields : BookingBody

/-- The fields that may be written. -/
def bookingFields : List Text :=
  [txt "room_id", txt "check_in", txt "check_out", txt "adults", txt "children",
    txt "special_requests"]

/-- The errors of malformed fields, with those of the missing ones; without any of the
former the handler looks for the latter. -/
def BookingData.errors (part : Bool) (data : BookingData) : List (Text × Text) :=
  if data.malformed = [] then []
  else fieldErrors bookingFields data.malformed
    (if part then [] else data.fields.missing.map fun f => (f, txt "This field is required."))

/-! ## §5. Writing, where `IsOwnerOrStaff` guards. -/

inductive OwnedWrite where
  | createRequest (body : Body RequestBody)
  | updateRequest (pk : Option Uuid) (part : Bool) (body : Body RequestBody)
  | destroyRequest (pk : Option Uuid)
  | assign (pk : Option Uuid) (fresh : ActionFresh)
  | complete (pk : Option Uuid) (body : Body Json) (fresh : ActionFresh)
  | createBooking (body : Body BookingData) (fresh : Fresh)
  | updateBooking (pk : Option Uuid) (part : Bool) (body : Body BookingData) (fresh : Fresh)
  | destroyBooking (pk : Option Uuid)

/-- The response to a request on bookings; `rooms` is what the serializer sees. -/
def BookingAnswer.response (users : Table User.id) (rooms : Table Room.id) (pk : Option Uuid) :
    BookingAnswer → Response
  | .created b => ⟨201, bookingJson users rooms b⟩
  | .updated b => ⟨200, bookingJson users rooms b⟩
  | .deleted => ⟨204, .null⟩
  | .invalid errors => .invalid errors
  | .unauthorized => .notAuthenticated
  | .forbidden => .permissionDenied
  | .notFound => .notFound "Booking" pk
  | .serverError => .internalError

section
variable (py : Python) (F : Filters) (w : World) (caller : Caller) (user : Option User)
  (query : Query)

/-- POST /bookings/. -/
def postBooking (body : Body BookingData) (fresh : Fresh) : World × Response :=
  match body.read with
  | .error response => (w, response)
  | .ok data =>
    if data.errors false ≠ [] then (w, .invalid (data.errors false))
    else
      let (w', answer) := createBooking py w caller data.fields fresh
      (w', answer.response w.db.users w.db.rooms none)

/-- PUT or PATCH /bookings/{pk}/. -/
def putBooking (pk : Option Uuid) (part : Bool) (body : Body BookingData) (fresh : Fresh) :
    World × Response :=
  match bookingObject F query w.db user pk with
  | .error response => (w, response)
  | .ok b =>
    match body.read with
    | .error response => (w, response)
    | .ok data =>
      if data.errors part ≠ [] then (w, .invalid (data.errors part))
      else
        let (w', answer) := updateBooking py w caller b.id part data.fields fresh
        -- another room is fetched again, after the signal
        let rooms := if (data.fields.applyTo b).roomId = b.roomId then w.db.rooms else w'.db.rooms
        (w', answer.response w.db.users rooms pk)

/-- DELETE /bookings/{pk}/. -/
def deleteBooking (pk : Option Uuid) : World × Response :=
  match bookingObject F query w.db user pk with
  | .error response => (w, response)
  | .ok b =>
    let (w', answer) := destroyBooking w caller b.id
    (w', answer.response w.db.users w.db.rooms pk)

/-- A request to one service request, which the filter backends let through. -/
def onRequest (pk : Option Uuid) (handle : World → World × Response) : World × Response :=
  match requestObject F query w.db user pk with
  | .error response => (w, response)
  | .ok _ => handle w

def OwnedWrite.handle : OwnedWrite → World × Response
  | .createRequest body =>
    match body.read with
    | .error response => (w, response)
    | .ok data => createServiceRequest w data
  | .updateRequest pk part body => onRequest F w user query pk fun w =>
    match body.read with
    | .error response => (w, response)
    | .ok data => updateServiceRequest w user pk part data
  | .destroyRequest pk => onRequest F w user query pk fun w => destroyServiceRequest w user pk
  | .assign pk fresh => onRequest F w user query pk fun w => HotelAgent.assign py w user pk fresh
  | .complete pk body fresh => onRequest F w user query pk fun w =>
    match body.read with
    | .error response => (w, response)
    | .ok data => HotelAgent.complete py w user pk data fresh
  | .createBooking body fresh => postBooking py w caller body fresh
  | .updateBooking pk part body fresh => putBooking py F w caller user query pk part body fresh
  | .destroyBooking pk => HotelAgent.deleteBooking F w caller user query pk

end

/-! ## §6. Writing to voice sessions. -/

inductive VoiceWrite (py : Python) where
  /-- `none` for a falsy `booking_id`, and `some none` for one that is no UUID. -/
  | create (body : Body (Option (Option Uuid))) (fresh : SessionFresh)
  /-- PUT and PATCH. -/
  | update (pk : Option Uuid)
  | destroy (pk : Option Uuid)
  /-- `optionErrors` are those of `generate_audio` and `language`. -/
  | turn (pk : Option Uuid) (body : Body TurnRequest) (optionErrors : List (Text × Text))
      (agent : AgentOutcome py) (fresh : SessionFresh)
  | finish (pk : Option Uuid) (fresh : SessionFresh)

/-- `serializer.save()` without a writable field: every column of the copy `s`. -/
def SessionWrite.rewrite (s : VoiceSession) : SessionWrite where
  write := fun row =>
    { s with
      id := row.id
      guestId := row.guestId
      bookingId := row.bookingId
      serviceRequestsCreated := row.serviceRequestsCreated }
  id_eq := fun _ => rfl
  guestId_eq := fun _ => rfl
  bookingId_eq := fun _ => rfl

/-- The world after a write to voice sessions. -/
def VoiceWrite.handle {py : Python} (F : Filters) (w : World) (caller : Caller)
    (user : Option User) (query : Query) : VoiceWrite py → World
  | .create body fresh =>
    match user, body.read with
    | some _, .ok none => (createSession py w caller none fresh).1
    | some _, .ok (some (some id)) => (createSession py w caller (some id) fresh).1
    -- no user, no data, or the ValidationError of a key that is no UUID
    | _, _ => w
  | .update pk =>
    match user.map fun user => sessionObject F query w.db user pk with
    | some (.ok s) =>
      -- no field is writable, but the row is saved all the same
      match w.db.saveSession s.id (.rewrite s) with
      | none => w
      | some db => { w with db := db }
    | _ => w
  | .destroy pk =>
    match user.map fun user => sessionObject F query w.db user pk with
    | some (.ok s) => { w with db := w.db.deleteSession s.id }
    | _ => w
  | .turn pk body optionErrors agent fresh =>
    match user.map fun user => sessionObject F query w.db user pk with
    | some (.ok s) =>
      match body.read with
      | .error _ => w
      | .ok data => if optionErrors ≠ [] then w else (processTurn w caller s.id data agent fresh).1
    | _ => w
  | .finish pk fresh =>
    match user.map fun user => sessionObject F query w.db user pk with
    | some (.ok s) => (endSession py w caller s.id fresh).1
    | _ => w

/-! ## §7. A request. -/

inductive ReadRequest where
  | voice (read : VoiceRead)
  | owned (read : OwnedRead)

inductive WriteRequest (py : Python) where
  | voice (write : VoiceWrite py)
  | owned (write : OwnedWrite)

/-- The response to GET. -/
def respond (F : Filters) (db : Db) (cred : Credentials) (query : Query) (read : ReadRequest) :
    Response :=
  match cred.user db with
  | .error response => response
  | .ok user =>
    match read with
    | .voice read => read.respond F query db user
    | .owned read => read.respond F query db user

/-- The world after POST, PUT, PATCH or DELETE. -/
def perform {py : Python} (F : Filters) (w : World) (cred : Credentials) (query : Query)
    (write : WriteRequest py) : World :=
  match cred.user w.db with
  | .error _ => w
  | .ok user =>
    match write with
    | .voice write => write.handle F w cred.caller user query
    | .owned write => (write.handle py F w cred.caller user query).1

/-- Backends that leave the querysets as they are, and one page for all. -/
def plainBackends {R : Type} : Backends R where
  refuses := fun _ => none
  keeps := fun _ _ _ _ => true
  orders := fun _ _ _ rows => rows
  paginate := fun _ items => ⟨200, .arr items⟩

def plainFilters : Filters := ⟨plainBackends, plainBackends, plainBackends⟩

end HotelAgent
