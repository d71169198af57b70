/-
  HotelAgent.Api.ServiceRequests — ServiceRequestViewSet.

  The functions take `request.user`, which is `none` for Django's
  `AnonymousUser`.  Like bookings and sessions, a request is cut where it
  touches the database: `getRequest`, `readUpdateRequest` and `readAssign` read,
  `saveServiceRequest`, `saveAssign` and `saveComplete` write, and the events
  follow.

      POST            always ends with an error: nobody sets the guest
      PUT, PATCH      whatever the serializer does not mark read-only, `status`
                      and `booking` among it
      DELETE          the row and the sessions' links to it
      assign          staff, managers and admins; announces pending → assigned
      complete        whoever may see the request; announces to the guest

  A signal listens to saves; for a row that is not new it only counts.

  Main results, for a request to an existing row (`RequestAction`):
    * `handle_of_rewrites_none`, `handle_of_rewrites_some` — it leaves the
      database, or writes one row over (`rewrites` says which, and by what).
    * `log_handle` — what it publishes.
-/
import HotelAgent.Api.Serializers
import HotelAgent.Api.VoiceSessions
import Mathlib.Data.List.Sort

namespace HotelAgent

open Lib

/-! ## §1. `get_queryset`. -/

/-- Python exceptions that no view catches. -/
inductive PyError where
  | nameError (name : Text)
  | attributeError (name : Text)
  deriving DecidableEq

/-- The names that the module `api/views/main.py` binds. -/
def moduleNames : List Text :=
  [txt "base64", txt "logging", txt "settings", txt "transaction", txt "connection", txt "cache",
    txt "timezone", txt "viewsets", txt "status", txt "generics", txt "action",
    txt "IsAuthenticated", txt "AllowAny", txt "Response", txt "MultiPartParser",
    txt "JSONParser", txt "TokenObtainPairView", txt "get_channel_layer", txt "async_to_sync",
    txt "User", txt "Room", txt "Booking", txt "ServiceRequest", txt "VoiceSession",
    txt "AuditLog", txt "UserSerializer", txt "RoomSerializer", txt "BookingSerializer",
    txt "ServiceRequestSerializer", txt "VoiceSessionSerializer", txt "VoiceInputSerializer",
    txt "CustomTokenObtainPairSerializer", txt "IsGuestOrStaff", txt "IsStaffOrAdmin",
    txt "IsOwnerOrStaff", txt "VoiceSessionThrottle", txt "HotelVoiceAgentService",
    txt "ConversationMessage", txt "KafkaProducerService", txt "VoiceSessionEvent",
    txt "ServiceRequestEvent", txt "NotificationEvent", txt "VOICE_SESSION_COUNTER",
    txt "ACTIVE_VOICE_SESSIONS", txt "SERVICE_REQUEST_COUNTER", txt "AUTH_ATTEMPTS",
    txt "logger", txt "kafka_producer", txt "CustomTokenObtainPairView", txt "RegisterView",
    txt "VoiceSessionViewSet", txt "ServiceRequestViewSet", txt "RoomViewSet",
    txt "BookingViewSet", txt "HealthCheckView"]

/-- Looking up a global name. -/
def globalName (name : Text) : Except PyError Unit :=
  if name ∈ moduleNames then .ok () else .error (.nameError name)

/-- `order_by("-created_at")`. -/
def newestFirst {R : Type} (createdAt : R → Instant) (rows : List R) : List R :=
  rows.insertionSort (fun a b => createdAt b ≤ createdAt a)

theorem mem_newestFirst {R : Type} {createdAt : R → Instant} {rows : List R} {r : R} :
    r ∈ newestFirst createdAt rows ↔ r ∈ rows :=
  (List.perm_insertionSort _ rows).mem_iff

/-- `ServiceRequestViewSet.get_queryset`, evaluated. -/
def requestQueryset (db : Db) (user : Option User) : Except PyError (List ServiceRequest) :=
  let filtered := fun p : ServiceRequest → Bool =>
    newestFirst ServiceRequest.createdAt (db.serviceRequests.rows.filter p)
  match user with
  -- `AnonymousUser` has no role
  | none => .error (.attributeError (txt "role"))
  | some user =>
    match user.role with
    | .guest => .ok (filtered fun r => r.guestId = user.id)
    | .staff =>
      -- the filter is built with `models.Q`
      match globalName (txt "models") with
      | .error e => .error e
      | .ok () => .ok (filtered fun r => r.assignedTo = some user.id ∨ r.status = .pending)
    | .manager => .ok (filtered fun _ => true)
    | .admin => .ok (filtered fun _ => true)

/-- `get_object`: the queryset, the row, then `IsOwnerOrStaff`. -/
def getRequest (db : Db) (user : Option User) (pk : Option Uuid) :
    Except Response (User × ServiceRequest) :=
  match requestQueryset db user, user with
  | .ok qs, some user =>
    match pk.bind (fun pk => qs.find? (fun r => r.id = pk)) with
    | none => .error (.notFound "ServiceRequest" pk)
    | some r =>
      if isOwnerOrStaff user r.guestId then .ok (user, r) else .error .permissionDenied
  | _, _ => .error .internalError

/-! ## §2. Bodies. -/

/-- A request body after REST framework's own checks of the single fields: the
errors of those that failed, and the values of the others. -/
structure RequestBody where
  malformed : List (Text × Text)
  booking : Option Uuid
  serviceType : Option (ChoiceOf serviceTypeChoices)
  priority : Option (ChoiceOf priorityChoices)
  status : Option RequestStatus
  description : Option Text
  notes : Option Text
  scheduledAt : Option (Option Instant)
  rating : Option (Option Nat)
  feedback : Option Text

/-- The body without fields. -/
def RequestBody.empty : RequestBody :=
  ⟨[], none, none, none, none, none, none, none, none, none⟩

/-- The required fields that a body lacks. -/
def RequestBody.missing (body : RequestBody) : List (Text × Text) :=
  ((if body.booking = none then [txt "booking"] else [])
    ++ (if body.serviceType = none then [txt "service_type"] else [])
    ++ (if body.description = none then [txt "description"] else [])).map
      fun field => (field, txt "This field is required.")

/-- `PrimaryKeyRelatedField`: the booking must exist, whoever its guest is. -/
def RequestBody.badBooking (db : Db) (body : RequestBody) : List (Text × Text) :=
  match body.booking with
  | none => []
  | some pk =>
    if db.bookings.Has pk then []
    else [(txt "booking",
      txt "Invalid pk \"" ++ pk.str ++ txt "\" - object does not exist.")]

/-- The fields that may be written. -/
def requestFields : List Text :=
  [txt "booking", txt "service_type", txt "priority", txt "status", txt "description", txt "notes",
    txt "scheduled_at", txt "rating", txt "feedback"]

/-- The errors of `is_valid`. -/
def RequestBody.errors (db : Db) (part : Bool) (body : RequestBody) : List (Text × Text) :=
  fieldErrors requestFields body.malformed
    ((if part then [] else body.missing) ++ body.badBooking db)

/-- `ModelSerializer.update`: the fields of the body are set one by one. -/
def RequestBody.applyTo (body : RequestBody) (r : ServiceRequest) : ServiceRequest :=
  { r with
    bookingId := body.booking.getD r.bookingId
    serviceType := (body.serviceType.map (·.val)).getD r.serviceType
    priority := (body.priority.map (·.val)).getD r.priority
    status := body.status.getD r.status
    description := body.description.getD r.description
    notes := body.notes.getD r.notes
    scheduledAt := body.scheduledAt.getD r.scheduledAt
    rating := body.rating.getD r.rating
    feedback := body.feedback.getD r.feedback }

@[simp] theorem RequestBody.applyTo_id (body : RequestBody) (r : ServiceRequest) :
    (body.applyTo r).id = r.id := rfl

/-! ## §3. POST, PUT, PATCH and DELETE. -/

/-- POST /service-requests/.  The serializer's `guest` is read-only, so the
INSERT has no guest and breaks `NOT NULL`. -/
def createServiceRequest (w : World) (body : RequestBody) : World × Response :=
  if body.errors w.db false ≠ [] then (w, .invalid (body.errors w.db false))
  else (w, .internalError)

/-- PUT or PATCH up to the UPDATE. -/
def readUpdateRequest (db : Db) (user : Option User) (pk : Option Uuid) (part : Bool)
    (body : RequestBody) : Except Response ServiceRequest :=
  match getRequest db user pk with
  | .error response => .error response
  | .ok (_, r) =>
    if body.errors db part ≠ [] then .error (.invalid (body.errors db part)) else .ok r

/-- PUT (`part = false`) or PATCH /service-requests/{pk}/. -/
def updateServiceRequest (w : World) (user : Option User) (pk : Option Uuid) (part : Bool)
    (body : RequestBody) : World × Response :=
  match readUpdateRequest w.db user pk part body with
  | .error response => (w, response)
  | .ok r =>
    match w.db.saveServiceRequest (body.applyTo r) with
    | none => (w, .internalError)
    | some db => ({ w with db := db }, ⟨200, requestJson db.users (body.applyTo r)⟩)

/-- DELETE /service-requests/{pk}/. -/
def destroyServiceRequest (w : World) (user : Option User) (pk : Option Uuid) :
    World × Response :=
  match getRequest w.db user pk with
  | .error response => (w, response)
  | .ok (_, r) => ({ w with db := w.db.deleteServiceRequest r.id }, ⟨204, .null⟩)

/-! ## §4. `assign` and `complete`. -/

/-- The values that an action does not determine. -/
structure ActionFresh where
  now : Instant
  stamp : Stamp
  produce : ProduceOutcome

/-- `assign` up to its save. -/
def readAssign (db : Db) (user : Option User) (pk : Option Uuid) :
    Except Response (User × ServiceRequest) :=
  match getRequest db user pk with
  | .error response => .error response
  | .ok (user, r) =>
    if user.role.isStaff then .ok (user, r)
    else .error (.error 403 "Insufficient permissions.")

/-- `save(update_fields=["assigned_to", "status"])`. -/
def RequestWrite.assign (userId : Uuid) : RequestWrite where
  write := fun row => { row with assignedTo := some userId, status := .assigned }
  id_eq := fun _ => rfl
  guestId_eq := fun _ => rfl
  bookingId_eq := fun _ => rfl
  serviceType_eq := fun _ => rfl
  priority_eq := fun _ => rfl

/-- The save of an assignment. -/
def saveAssign (db : Db) (user : User) (r : ServiceRequest) : Option Db :=
  db.saveRequestColumns r.id (.assign user.id)

/-- The event of an assignment.  The old status is not looked at. -/
def assignedEvent (r : ServiceRequest) (stamp : Stamp) : KafkaEvent :=
  ServiceRequestEvent.statusChanged stamp r.id.str (txt "pending") (txt "assigned")

/-- POST /service-requests/{pk}/assign/. -/
def assign (py : Python) (w : World) (user : Option User) (pk : Option Uuid)
    (fresh : ActionFresh) : World × Response :=
  match readAssign w.db user pk with
  | .error response => (w, response)
  | .ok (user, r) =>
    match saveAssign w.db user r with
    | none => (w, .internalError)
    | some db =>
      match publish py fresh.produce (txt "SERVICE_REQUESTS") (assignedEvent r fresh.stamp)
        none with
      | .raised => ({ w with db := db }, .internalError)
      | p => ({ db := db, log := w.log ++ p.records },
          ⟨200, requestJson db.users ((RequestWrite.assign user.id).write r)⟩)

/-- `complete` up to its save: the row and `request.data.get("notes", "")`. -/
def readComplete (db : Db) (user : Option User) (pk : Option Uuid) (data : Json) :
    Except Response (ServiceRequest × Json) :=
  match getRequest db user pk with
  | .error response => .error response
  | .ok (_, r) =>
    match data with
    | .obj fields => .ok (r, dictGet fields (txt "notes") (.str []))
    -- a body that is no object has no `get`
    | _ => .error .internalError

/-- `save(update_fields=["status", "completed_at", "notes"])`. -/
def RequestWrite.complete (now : Instant) (notes : Text) : RequestWrite where
  write := fun row => { row with status := .completed, completedAt := some now, notes := notes }
  id_eq := fun _ => rfl
  guestId_eq := fun _ => rfl
  bookingId_eq := fun _ => rfl
  serviceType_eq := fun _ => rfl
  priority_eq := fun _ => rfl

/-- What the column keeps of the notes; null and texts with a NUL are refused. -/
def notesText (py : Python) (notes : Json) : Option Text :=
  match columnText py notes with
  | some text => if storable text then some text else none
  | none => none

/-- The save of a completion. -/
def saveComplete (py : Python) (db : Db) (r : ServiceRequest) (now : Instant) (notes : Json) :
    Option Db :=
  match notesText py notes with
  | some text => db.saveRequestColumns r.id (.complete now text)
  | none => none

/-- The event of a completed request. -/
def completionEvent (r : ServiceRequest) (stamp : Stamp) : KafkaEvent :=
  NotificationEvent.guestNotification stamp r.guestId.str (txt "ws")
    (txt "Your " ++ displayOf serviceTypeChoices r.serviceType
      ++ txt " request has been completed.")
    [(txt "request_id", .str r.id.str), (txt "service_type", .str r.serviceType)]

/-- POST /service-requests/{pk}/complete/. -/
def complete (py : Python) (w : World) (user : Option User) (pk : Option Uuid) (data : Json)
    (fresh : ActionFresh) : World × Response :=
  match readComplete w.db user pk data with
  | .error response => (w, response)
  | .ok (r, notes) =>
    match saveComplete py w.db r fresh.now notes with
    | none => (w, .internalError)
    | some db =>
      match publish py fresh.produce (txt "NOTIFICATIONS") (completionEvent r fresh.stamp)
        none with
      | .raised => ({ w with db := db }, .internalError)
      | p => ({ db := db, log := w.log ++ p.records },
          ⟨200, requestJson db.users ((RequestWrite.complete fresh.now
            ((notesText py notes).getD [])).write r)⟩)

/-! ## §5. What the reading stages yield. -/

/-- The name that the staff's filter needs is not bound. -/
theorem globalName_models :
    globalName (txt "models") = .error (.nameError (txt "models")) := by
  unfold globalName
  rw [if_neg (by decide +kernel)]

/-- **Who sees a service request**: its guest, every manager and every admin. -/
theorem getRequest_ok {db : Db} {user : Option User} {pk : Option Uuid} {u : User}
    {r : ServiceRequest} (h : getRequest db user pk = .ok (u, r)) :
    user = some u ∧ r ∈ db.serviceRequests ∧ pk = some r.id
      ∧ (u.role = .guest → r.guestId = u.id) ∧ u.role ≠ .staff := by
  unfold getRequest at h
  split at h
  next qs u' hqs =>
    split at h
    · exact absurd h (by simp)
    next r' hfind =>
      split at h
      · injection h with h
        injection h with hu hr
        subst hu hr
        obtain ⟨pk', rfl, hfind⟩ := Option.bind_eq_some_iff.mp hfind
        have hid : r'.id = pk' := by simpa using List.find?_some hfind
        have hmem := List.mem_of_find?_eq_some hfind
        subst hid
        unfold requestQueryset at hqs
        simp only at hqs
        split at hqs
        next hrole =>
          -- a guest's own rows
          injection hqs with hqs
          rw [← hqs, mem_newestFirst, List.mem_filter] at hmem
          exact ⟨rfl, hmem.1, rfl, fun _ => by simpa using hmem.2, by rw [hrole]; decide⟩
        next hrole =>
          rw [globalName_models] at hqs
          exact absurd hqs (by simp)
        next hrole =>
          injection hqs with hqs
          rw [← hqs, mem_newestFirst, List.mem_filter] at hmem
          exact ⟨rfl, hmem.1, rfl, fun hg => absurd (hrole.symm.trans hg) (by decide),
            by rw [hrole]; decide⟩
        next hrole =>
          injection hqs with hqs
          rw [← hqs, mem_newestFirst, List.mem_filter] at hmem
          exact ⟨rfl, hmem.1, rfl, fun hg => absurd (hrole.symm.trans hg) (by decide),
            by rw [hrole]; decide⟩
      · exact absurd h (by simp)
  · exact absurd h (by simp)

theorem readUpdateRequest_ok {db : Db} {user : Option User} {pk : Option Uuid} {part : Bool}
    {body : RequestBody} {r : ServiceRequest}
    (h : readUpdateRequest db user pk part body = .ok r) :
    (∃ u, getRequest db user pk = .ok (u, r)) ∧ body.errors db part = [] := by
  unfold readUpdateRequest at h
  split at h
  · exact absurd h (by simp)
  next u r' hget =>
    split at h
    · exact absurd h (by simp)
    next herr =>
      injection h with h
      subst h
      exact ⟨⟨u, hget⟩, by simpa using herr⟩

theorem readAssign_ok {db : Db} {user : Option User} {pk : Option Uuid} {u : User}
    {r : ServiceRequest} (h : readAssign db user pk = .ok (u, r)) :
    getRequest db user pk = .ok (u, r) ∧ u.role.isStaff = true := by
  unfold readAssign at h
  split at h
  · exact absurd h (by simp)
  next u' r' hget =>
    split at h
    next hrole =>
      injection h with h
      injection h with hu hr
      subst hu hr
      exact ⟨hget, hrole⟩
    · exact absurd h (by simp)

theorem readComplete_ok {db : Db} {user : Option User} {pk : Option Uuid} {data notes : Json}
    {r : ServiceRequest} (h : readComplete db user pk data = .ok (r, notes)) :
    ∃ u, getRequest db user pk = .ok (u, r) := by
  unfold readComplete at h
  split at h
  · exact absurd h (by simp)
  next u r' hget =>
    split at h
    · injection h with h
      injection h with hr _
      subst hr
      exact ⟨u, hget⟩
    · exact absurd h (by simp)

/-- The notes come from a body that is an object. -/
theorem readComplete_notes {db : Db} {user : Option User} {pk : Option Uuid} {data notes : Json}
    {r : ServiceRequest} (h : readComplete db user pk data = .ok (r, notes)) :
    ∃ fields, data = .obj fields ∧ notes = dictGet fields (txt "notes") (.str []) := by
  unfold readComplete at h
  split at h
  · exact absurd h (by simp)
  · split at h
    next fields =>
      injection h with h
      injection h with _ hnotes
      exact ⟨fields, rfl, hnotes.symm⟩
    · exact absurd h (by simp)

/-- A body without errors names an existing booking, if any. -/
theorem RequestBody.has_booking {db : Db} {part : Bool} {body : RequestBody} {pk : Uuid}
    (h : body.errors db part = []) (hb : body.booking = some pk) : db.bookings.Has pk := by
  have hbad : body.badBooking db = [] :=
    (List.append_eq_nil_iff.mp (fieldErrors_eq_nil_iff.mp h).2).2
  unfold RequestBody.badBooking at hbad
  rw [hb] at hbad
  by_contra hnot
  simp [hnot] at hbad

/-- **A validated body is never refused by the database.** -/
theorem saveServiceRequest_applyTo {db : Db} {part : Bool} {body : RequestBody}
    {r : ServiceRequest} (hr : r ∈ db.serviceRequests) (h : body.errors db part = []) :
    ∃ db', db.saveServiceRequest (body.applyTo r) = some db' := by
  obtain ⟨hg, hb, hst, hpr⟩ := db.request_ok r hr
  have hok : (body.applyTo r).Ok db.users db.bookings := by
    refine ⟨hg, ?_, ?_, ?_⟩
    · show db.bookings.Has (body.booking.getD r.bookingId)
      cases hbody : body.booking with
      | none => exact hb
      | some pk => exact RequestBody.has_booking h hbody
    · show ((body.serviceType.map (·.val)).getD r.serviceType).length ≤ 30
      cases body.serviceType with
      | none => exact hst
      | some c =>
          obtain ⟨choice, hmem, hval⟩ := List.mem_map.mp c.property
          have := choice_length.1 choice hmem
          show c.val.length ≤ 30
          rw [← hval]
          exact this
    · show ((body.priority.map (·.val)).getD r.priority).length ≤ 10
      cases body.priority with
      | none => exact hpr
      | some c =>
          obtain ⟨choice, hmem, hval⟩ := List.mem_map.mp c.property
          have := choice_length.2 choice hmem
          show c.val.length ≤ 10
          rw [← hval]
          exact this
  unfold Db.saveServiceRequest
  rw [dif_pos hok]
  exact ⟨_, rfl⟩

/-! ## §6. What a request writes. -/

/-- A request to an existing service request. -/
inductive RequestAction where
  | assign (pk : Option Uuid) (fresh : ActionFresh)
  | complete (pk : Option Uuid) (data : Json) (fresh : ActionFresh)
  | update (pk : Option Uuid) (part : Bool) (body : RequestBody)

def RequestAction.handle (py : Python) (w : World) (user : Option User) :
    RequestAction → World × Response
  | .assign pk fresh => HotelAgent.assign py w user pk fresh
  | .complete pk data fresh => HotelAgent.complete py w user pk data fresh
  | .update pk part body => updateServiceRequest w user pk part body

/-- The row that the request writes over, and what it writes. -/
def RequestAction.rewrites (py : Python) (db : Db) (user : Option User) :
    RequestAction → Option (ServiceRequest × ServiceRequest)
  | .assign pk _ =>
    match readAssign db user pk with
    | .ok (u, r) => some (r, (RequestWrite.assign u.id).write r)
    | .error _ => none
  | .complete pk data fresh =>
    match readComplete db user pk data with
    | .ok (r, notes) =>
      (notesText py notes).map fun text => (r, (RequestWrite.complete fresh.now text).write r)
    | .error _ => none
  | .update pk part body =>
    match readUpdateRequest db user pk part body with
    | .ok r => some (r, body.applyTo r)
    | .error _ => none

/-- The records of the request's event. -/
def RequestAction.records (py : Python) (db : Db) (user : Option User) : RequestAction → List Record
  | .assign pk fresh =>
    match readAssign db user pk with
    | .ok (_, r) =>
      (publish py fresh.produce (txt "SERVICE_REQUESTS") (assignedEvent r fresh.stamp) none).records
    | .error _ => []
  | .complete pk data fresh =>
    match readComplete db user pk data with
    | .ok (r, notes) =>
      if (notesText py notes).isSome then
        (publish py fresh.produce (txt "NOTIFICATIONS") (completionEvent r fresh.stamp)
          none).records
      else []
    | .error _ => []
  | .update _ _ _ => []

/-- **One row is written over**, and nothing else happens to the database. -/
structure Db.Wrote (db db' : Db) (r r' : ServiceRequest) : Prop where
  mem : r ∈ db.serviceRequests
  id_eq : r'.id = r.id
  serviceRequests : db'.serviceRequests = db.serviceRequests.put r'
  users : db'.users = db.users
  rooms : db'.rooms = db.rooms
  bookings : db'.bookings = db.bookings
  voiceSessions : db'.voiceSessions = db.voiceSessions
  auditLogs : db'.auditLogs = db.auditLogs

theorem Db.Wrote.has {db db' : Db} {r r' : ServiceRequest} (h : db.Wrote db' r r') :
    db.serviceRequests.Has r'.id := by
  rw [h.id_eq]
  exact Table.has_of_mem h.mem

/-- A partial save of a row writes it over. -/
theorem wrote_of_saveRequestColumns {db db' : Db} {r : ServiceRequest} {w : RequestWrite}
    (hr : r ∈ db.serviceRequests) (h : db.saveRequestColumns r.id w = some db') :
    db.Wrote db' r (w.write r) := by
  obtain ⟨_, hreq, husers, hrooms, hbookings, hsessions, haudit⟩ :=
    Db.saveRequestColumns_eq_some h
  refine ⟨hr, w.id_eq r, ?_, husers, hrooms, hbookings, hsessions, haudit⟩
  rw [hreq]
  exact Table.updateWhere_key hr

/-! ### Three requests, each with its save. -/

section
variable {py : Python} {db : Db} {user : Option User} {pk : Option Uuid} {fresh : ActionFresh}
  {data : Json} {part : Bool} {body : RequestBody} {r r' : ServiceRequest}

theorem rewrites_assign (h : (RequestAction.assign pk fresh).rewrites py db user = some (r, r')) :
    ∃ u, readAssign db user pk = .ok (u, r) ∧ r' = (RequestWrite.assign u.id).write r := by
  simp only [RequestAction.rewrites] at h
  split at h
  next u x hread =>
    injection h with h
    injection h with hx hr'
    subst hx
    exact ⟨u, hread, hr'.symm⟩
  · exact absurd h (by simp)

theorem rewrites_complete
    (h : (RequestAction.complete pk data fresh).rewrites py db user = some (r, r')) :
    ∃ notes text, readComplete db user pk data = .ok (r, notes) ∧ notesText py notes = some text
      ∧ r' = (RequestWrite.complete fresh.now text).write r := by
  simp only [RequestAction.rewrites] at h
  split at h
  next x notes hread =>
    obtain ⟨text, htext, hrows⟩ := Option.map_eq_some_iff.mp h
    injection hrows with hx hr'
    subst hx
    exact ⟨notes, text, hread, htext, hr'.symm⟩
  · exact absurd h (by simp)

theorem rewrites_update
    (h : (RequestAction.update pk part body).rewrites py db user = some (r, r')) :
    readUpdateRequest db user pk part body = .ok r ∧ r' = body.applyTo r := by
  simp only [RequestAction.rewrites] at h
  split at h
  next x hread =>
    injection h with h
    injection h with hx hr'
    subst hx
    exact ⟨hread, hr'.symm⟩
  · exact absurd h (by simp)

/-- What a request writes over, it has looked up. -/
theorem getRequest_of_rewrites {action : RequestAction}
    (h : action.rewrites py db user = some (r, r')) :
    ∃ pk u, getRequest db user pk = .ok (u, r) := by
  cases action with
  | assign pk fresh =>
      obtain ⟨u, hread, _⟩ := rewrites_assign h
      exact ⟨pk, u, (readAssign_ok hread).1⟩
  | complete pk data fresh =>
      obtain ⟨_, _, hread, _, _⟩ := rewrites_complete h
      obtain ⟨u, hget⟩ := readComplete_ok hread
      exact ⟨pk, u, hget⟩
  | update pk part body =>
      obtain ⟨⟨u, hget⟩, _⟩ := readUpdateRequest_ok (rewrites_update h).1
      exact ⟨pk, u, hget⟩

/-- The row that is read is the one that is written over. -/
theorem mem_of_rewrites {action : RequestAction}
    (h : action.rewrites py db user = some (r, r')) : r ∈ db.serviceRequests := by
  obtain ⟨_, _, hget⟩ := getRequest_of_rewrites h
  exact (getRequest_ok hget).2.1

/-- The save of an assignment is accepted. -/
theorem saveAssign_of_mem (u : User) (hr : r ∈ db.serviceRequests) :
    ∃ db', saveAssign db u r = some db' ∧ db.Wrote db' r ((RequestWrite.assign u.id).write r) := by
  obtain ⟨db', hsave⟩ := Db.saveRequestColumns_of_mem (.assign u.id) hr
  exact ⟨db', hsave, wrote_of_saveRequestColumns hr hsave⟩

/-- The save of a completion, with notes that the column takes. -/
theorem saveComplete_of_mem {notes : Json} {text : Text} (now : Instant)
    (hr : r ∈ db.serviceRequests) (htext : notesText py notes = some text) :
    ∃ db', saveComplete py db r now notes = some db'
      ∧ db.Wrote db' r ((RequestWrite.complete now text).write r) := by
  obtain ⟨db', hsave⟩ := Db.saveRequestColumns_of_mem (.complete now text) hr
  refine ⟨db', ?_, wrote_of_saveRequestColumns hr hsave⟩
  unfold saveComplete
  rw [htext]
  exact hsave

/-- The save of an update without errors. -/
theorem saveUpdate_of_read (h : readUpdateRequest db user pk part body = .ok r) :
    ∃ db', db.saveServiceRequest (body.applyTo r) = some db'
      ∧ db.Wrote db' r (body.applyTo r) := by
  -- a valid body keeps the row within its constraints
  obtain ⟨⟨_, hget⟩, herrors⟩ := readUpdateRequest_ok h
  obtain ⟨_, hmem, _⟩ := getRequest_ok hget
  obtain ⟨db', hsave⟩ := saveServiceRequest_applyTo hmem herrors
  obtain ⟨_, hreq, husers, hrooms, hbookings, hsessions, haudit⟩ :=
    Db.saveServiceRequest_eq_some hsave
  refine ⟨db', hsave, hmem, rfl, ?_, husers, hrooms, hbookings, hsessions, haudit⟩
  rw [hreq]
  exact Table.save_of_has ⟨r, hmem, rfl⟩

end

/-- A request that writes no row leaves the database. -/
theorem handle_of_rewrites_none {py : Python} {w : World} {user : Option User}
    {call : RequestAction} (h : call.rewrites py w.db user = none) :
    (call.handle py w user).1.db = w.db := by
  cases call with
  | assign pk fresh =>
      show (assign py w user pk fresh).1.db = w.db
      unfold assign
      simp only [RequestAction.rewrites] at h
      split at h
      · exact absurd h (by simp)
      next response hread => rw [hread]
  | complete pk data fresh =>
      show (complete py w user pk data fresh).1.db = w.db
      unfold complete
      simp only [RequestAction.rewrites] at h
      split at h
      next r notes hread =>
        rw [Option.map_eq_none_iff] at h
        simp only [hread, saveComplete, h]
      next response hread => rw [hread]
  | update pk part body =>
      show (updateServiceRequest w user pk part body).1.db = w.db
      unfold updateServiceRequest
      simp only [RequestAction.rewrites] at h
      split at h
      · exact absurd h (by simp)
      next response hread => rw [hread]

/-- **A request that writes a row** writes just that one, and is not refused. -/
theorem handle_of_rewrites_some {py : Python} {w : World} {user : Option User}
    {call : RequestAction} {r r' : ServiceRequest}
    (h : call.rewrites py w.db user = some (r, r')) :
    w.db.Wrote (call.handle py w user).1.db r r' := by
  have hmem := mem_of_rewrites h
  cases call with
  | assign pk fresh =>
      show w.db.Wrote (assign py w user pk fresh).1.db r r'
      unfold assign
      obtain ⟨u, hread, rfl⟩ := rewrites_assign h
      obtain ⟨db', hsave, hwrote⟩ := saveAssign_of_mem u hmem
      simp only [hread, hsave]
      split
      · exact hwrote
      · exact hwrote
  | complete pk data fresh =>
      show w.db.Wrote (complete py w user pk data fresh).1.db r r'
      unfold complete
      obtain ⟨notes, text, hread, htext, rfl⟩ := rewrites_complete h
      obtain ⟨db', hsave, hwrote⟩ := saveComplete_of_mem fresh.now hmem htext
      simp only [hread, hsave]
      split
      · exact hwrote
      · exact hwrote
  | update pk part body =>
      show w.db.Wrote (updateServiceRequest w user pk part body).1.db r r'
      unfold updateServiceRequest
      obtain ⟨hread, rfl⟩ := rewrites_update h
      obtain ⟨db', hsave, hwrote⟩ := saveUpdate_of_read hread
      simp only [hread, hsave]
      exact hwrote

/-- **What a request publishes.** -/
theorem log_handle (py : Python) (w : World) (user : Option User) (call : RequestAction) :
    (call.handle py w user).1.log = w.log ++ call.records py w.db user := by
  cases call with
  | assign pk fresh =>
      show (assign py w user pk fresh).1.log = _
      unfold assign
      simp only [RequestAction.records]
      cases hread : readAssign w.db user pk with
      | error response => exact (List.append_nil w.log).symm
      | ok ur =>
          obtain ⟨u, r⟩ := ur
          obtain ⟨_, hmem, _⟩ := getRequest_ok (readAssign_ok hread).1
          obtain ⟨db', hsave, _⟩ := saveAssign_of_mem u hmem
          simp only [hsave]
          split
          next hpub =>
            rw [hpub]
            exact (List.append_nil w.log).symm
          · rfl
  | complete pk data fresh =>
      show (complete py w user pk data fresh).1.log = _
      unfold complete
      simp only [RequestAction.records]
      cases hread : readComplete w.db user pk data with
      | error response => exact (List.append_nil w.log).symm
      | ok rn =>
          obtain ⟨r, notes⟩ := rn
          cases htext : notesText py notes with
          | none =>
              simp only [saveComplete, htext]
              exact (List.append_nil w.log).symm
          | some text =>
              obtain ⟨_, hget⟩ := readComplete_ok hread
              obtain ⟨_, hmem, _⟩ := getRequest_ok hget
              obtain ⟨db', hsave, _⟩ := saveComplete_of_mem fresh.now hmem htext
              simp only [hsave, htext]
              split
              next hpub =>
                rw [hpub]
                exact (List.append_nil w.log).symm
              · rfl
  | update pk part body =>
      show (updateServiceRequest w user pk part body).1.log = _
      unfold updateServiceRequest
      simp only [RequestAction.records, List.append_nil]
      split
      · rfl
      · split
        · rfl
        · rfl

/-- A request that writes no row publishes nothing. -/
theorem records_of_rewrites_none {py : Python} {db : Db} {user : Option User}
    {action : RequestAction} (h : action.rewrites py db user = none) :
    action.records py db user = [] := by
  cases action with
  | assign pk fresh =>
      simp only [RequestAction.rewrites] at h
      simp only [RequestAction.records]
      cases hread : readAssign db user pk with
      | error response => rfl
      | ok ur =>
          rw [hread] at h
          exact absurd h (by simp)
  | complete pk data fresh =>
      simp only [RequestAction.rewrites] at h
      simp only [RequestAction.records]
      cases hread : readComplete db user pk data with
      | error response => rfl
      | ok rn =>
          rw [hread] at h
          simp only [Option.map_eq_none_iff] at h
          simp only [h]
          rfl
  | update pk part body => rfl

/-! ## §7. A front desk. -/

/-- A user of the demo hotel with another role. -/
def demoUser (id : Uuid) (email : String) (role : Role) : User :=
  { demoGuest with id := id, email := txt email, role := role }

/-- A booking of the demo guest, who is in the house. -/
def demoStay : Booking where
  id := 20
  guestId := 1
  roomId := 10
  checkIn := january 4
  checkOut := january 6
  status := .checkedIn
  adults := 1
  children := 0
  totalPrice := 20000
  specialRequests := []
  confirmationCode := txt "AAAA"
  createdAt := 0

/-- What the demo guest asked for. -/
def demoRequest : ServiceRequest where
  id := 30
  bookingId := 20
  guestId := 1
  assignedTo := none
  serviceType := txt "spa"
  priority := txt "normal"
  status := .pending
  description := txt "massage"
  notes := []
  scheduledAt := none
  completedAt := none
  rating := none
  feedback := []
  voiceSessionId := none
  createdAt := 0

/-- The demo hotel with one member of the staff, a manager, a second guest and the
booking, the session and the request of the first. -/
def demoDesk : World where
  db :=
    { users := ⟨[demoGuest, demoUser 2 "staff@hotel.com" .staff,
        demoUser 3 "manager@hotel.com" .manager, demoUser 4 "other@hotel.com" .guest],
        by decide +kernel⟩
      rooms := demoHotel.db.rooms
      bookings := ⟨[demoStay, { demoStay with
        id := 21, guestId := 4, roomId := 11, confirmationCode := txt "BBBB" }],
        by decide +kernel⟩
      serviceRequests := ⟨[demoRequest], by decide⟩
      voiceSessions := ⟨[newSession demoGuest (some 20)
        { id := 5, now := 0, nowTs := [], stamp := ⟨0, []⟩, produce := .accepted,
          signalStamp := ⟨0, []⟩, signalProduce := .accepted }], by decide +kernel⟩
      user_email := by decide +kernel
      booking_ok := by decide +kernel
      booking_code := by decide +kernel
      request_ok := by decide +kernel
      session_ok := by decide +kernel }
  log := []

/-- The Kafka client refuses the event of an action. -/
def demoAction : ActionFresh where
  now := second
  stamp := ⟨0, []⟩
  produce := .kafkaException

end HotelAgent
