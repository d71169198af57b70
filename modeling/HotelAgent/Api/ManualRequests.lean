/-
  HotelAgent.Api.ManualRequests — POST /service-requests/.

  The inherited `create` goes through three stages:

      `serializer.is_valid`   the errors of the fields, or `validated_data`
      `perform_create`        `serializer.save()`, with nothing besides
      `objects.create`        the INSERT, and the signal behind it

  `guest` is read-only for the serializer and `NOT NULL` in the table, and nobody
  sets it: registration passes the role to `save`, bookings pass the guest to
  `objects.create`, service requests pass nothing.

  Main results:
    * `createServiceRequest_eq` — the three stages make up the endpoint.
    * `guest_of_created` — a request is created for the caller only if the save is
      given the caller.
    * `manualCreation_fails` — so none ever is.
-/
import HotelAgent.Api.AnonymousAccess
import HotelAgent.Api.RequestCreation

namespace HotelAgent

open Lib

variable {py : Python}

/-! ## §1. From the body to the row. -/

/-- The columns of a row that is to be inserted, as `objects.create` gets them; without a
guest the column is null. -/
structure NewRequest where
  guest : Option Uuid
  booking : Uuid
  serviceType : Text
  priority : Text
  status : RequestStatus
  description : Text
  notes : Text
  scheduledAt : Option Instant
  rating : Option Nat
  feedback : Text

/-- `ServiceRequest(**validated_data)`: what the body leaves out has the model's default.
The read-only fields are not in the body. -/
def RequestBody.validated (body : RequestBody) (guest : Option Uuid) : Option NewRequest :=
  match body.booking, body.serviceType, body.description with
  | some booking, some serviceType, some description => some
    { guest := guest
      booking := booking
      serviceType := serviceType.val
      priority := (body.priority.map (·.val)).getD (txt "normal")
      status := body.status.getD .pending
      description := description
      notes := body.notes.getD []
      scheduledAt := body.scheduledAt.getD none
      rating := body.rating.getD none
      feedback := body.feedback.getD [] }
  -- a required field is missing
  | _, _, _ => none

/-- The row, where no column is null that must not be. -/
def NewRequest.row (r : NewRequest) (fresh : SessionFresh) : Option ServiceRequest :=
  r.guest.map fun guest =>
    { id := fresh.id, bookingId := r.booking, guestId := guest, assignedTo := none,
      serviceType := r.serviceType, priority := r.priority, status := r.status,
      description := r.description, notes := r.notes, scheduledAt := r.scheduledAt,
      completedAt := none, rating := r.rating, feedback := r.feedback, voiceSessionId := none,
      createdAt := fresh.now }

/-- What the signal publishes for a new row. -/
def signalNew (py : Python) (row : ServiceRequest) (fresh : SessionFresh) : Published :=
  publish py fresh.signalProduce (txt "SERVICE_REQUESTS")
    (ServiceRequestEvent.created fresh.signalStamp row.id.str (.str row.serviceType)
      (.str row.priority) row.guestId.str) (some row.guestId.str)

/-- `serializer.save(guest=guest)`, or `serializer.save()` for no guest. -/
def saveNew (py : Python) (w : World) (body : RequestBody) (guest : Option Uuid)
    (fresh : SessionFresh) : World × Response :=
  match (body.validated guest).bind fun r => r.row fresh with
  -- the IntegrityError of the null column is not handled
  | none => (w, .internalError)
  | some row =>
    match w.db.insertServiceRequest row with
    | none => (w, .internalError)
    | some db =>
      match signalNew py row fresh with
      | .raised => ({ w with db := db }, .internalError)
      | p => ({ db := db, log := w.log ++ p.records }, ⟨201, requestJson db.users row⟩)

/-- `CreateModelMixin.create`, with the guest that `perform_create` passes on. -/
def createWith (py : Python) (w : World) (body : RequestBody) (guest : Option Uuid)
    (fresh : SessionFresh) : World × Response :=
  if body.errors w.db false ≠ [] then (w, .invalid (body.errors w.db false))
  else saveNew py w body guest fresh

/-- **The endpoint** passes no guest. -/
theorem createServiceRequest_eq (w : World) (body : RequestBody) (fresh : SessionFresh) :
    createServiceRequest w body = createWith py w body none fresh := by
  have hnull : ((body.validated none).bind fun r => r.row fresh) = none := by
    cases h : body.validated none with
    | none => rfl
    | some r =>
        have hguest : r.guest = none := by
          unfold RequestBody.validated at h
          split at h
          · injection h with h
            rw [← h]
          · exact absurd h (by simp)
        show r.row fresh = none
        unfold NewRequest.row
        rw [hguest]
        rfl
  unfold createServiceRequest createWith saveNew
  rw [hnull]

/-! ## §2. Created for the caller. -/

/-- The columns of the row are the validated values. -/
def ServiceRequest.Holds (row : ServiceRequest) (r : NewRequest) : Prop :=
  row.bookingId = r.booking ∧ row.serviceType = r.serviceType ∧ row.priority = r.priority
    ∧ row.status = r.status ∧ row.description = r.description ∧ row.notes = r.notes
    ∧ row.scheduledAt = r.scheduledAt ∧ row.rating = r.rating ∧ row.feedback = r.feedback

/-- **Created for the caller**: 201, and one more row, with the caller as its guest and the
validated values in its columns. -/
def CreatedFor (user : User) (body : RequestBody) (db : Db) (result : World × Response) : Prop :=
  result.2.status = 201
    ∧ ∃ row r, result.1.db.serviceRequests.rows = db.serviceRequests.rows ++ [row]
      ∧ row.guestId = user.id ∧ body.validated (some user.id) = some r ∧ row.Holds r

/-- The demand on a body: it validates, and its booking is the caller's. -/
def OwnBooking (db : Db) (user : User) (body : RequestBody) : Prop :=
  body.errors db false = []
    ∧ ∃ booking ∈ db.bookings, body.booking = some booking.id ∧ booking.guestId = user.id

/-- **What the endpoint stores**: nothing, or one row with the guest that it was given. -/
theorem createWith_stores (w : World) (body : RequestBody) (guest : Option Uuid)
    (fresh : SessionFresh) :
    (createWith py w body guest fresh).1.db = w.db
      ∨ ∃ stored : ServiceRequest, guest = some stored.guestId
        ∧ (createWith py w body guest fresh).1.db.serviceRequests.rows
            = w.db.serviceRequests.rows ++ [stored] := by
  unfold createWith saveNew
  split
  · exact .inl rfl
  · split
    · exact .inl rfl
    next row hrow =>
      split
      · exact .inl rfl
      next db hins =>
        right
        obtain ⟨serviceType, priority, _, _, _, _, hrows, _⟩ := Db.insertServiceRequest_eq_some hins
        refine ⟨{ row with serviceType := serviceType, priority := priority }, ?_, ?_⟩
        · -- the row has the guest of the validated values
          obtain ⟨r, hr, hrow⟩ := Option.bind_eq_some_iff.mp hrow
          obtain ⟨g, hg, hrow⟩ := Option.map_eq_some_iff.mp hrow
          unfold RequestBody.validated at hr
          split at hr
          · injection hr with hr
            rw [← hr] at hg
            rw [← hrow]
            exact hg
          · exact absurd hr (by simp)
        · split
          · exact hrows
          · exact hrows

/-- **Created for the caller means saved with the caller.** -/
theorem guest_of_created {w : World} {user : User} {body : RequestBody} {guest : Option Uuid}
    {fresh : SessionFresh} (h : CreatedFor user body w.db (createWith py w body guest fresh)) :
    guest = some user.id := by
  obtain ⟨_, row, r, hrows, hguest, _⟩ := h
  rcases @createWith_stores py w body guest fresh with hsame | ⟨stored, hstored, hrows'⟩
  · rw [hsame] at hrows
    exact absurd (congrArg List.length hrows) (by simp)
  · rw [hrows] at hrows'
    injection List.append_cancel_left hrows' with hrow _
    rw [hstored, ← hrow, hguest]

/-- **No service request is created manually**: not for any user, with any body and any
credentials. -/
theorem manualCreation_fails (py : Python) (F : Filters) (w : World) (cred : Credentials)
    (query : Query) (user : User) (body : RequestBody) :
    ¬ CreatedFor user body w.db
      (OwnedRequest.serve py F w cred query (.write (.createRequest (.data body)))) := by
  intro h
  unfold OwnedRequest.serve at h
  split at h
  next response _ =>
    -- refused before the view
    obtain ⟨_, row, _, hrows, _⟩ := h
    exact absurd (congrArg List.length hrows) (by simp)
  next caller _ =>
    have hview : OwnedWrite.handle py F w cred.caller caller query (.createRequest (.data body))
        = createWith py w body none (demoTurnFresh 0 .accepted .accepted) :=
      createServiceRequest_eq w body _
    simp only [hview] at h
    exact absurd (guest_of_created h) (by simp)

/-- A massage for the demo guest's own booking. -/
def demoManual : RequestBody :=
  { RequestBody.empty with
    booking := some 20
    serviceType := some ⟨txt "spa", by decide⟩
    description := some (txt "massage") }

/-- The demo guest asks for a massage, and gets a 500. -/
theorem own_request_is_not_created :
    (Credentials.bearer demoGuest.id).user demoDesk.db = .ok (some demoGuest)
      ∧ OwnBooking demoDesk.db demoGuest demoManual
      ∧ ¬ CreatedFor demoGuest demoManual demoDesk.db (OwnedRequest.serve plainPython plainFilters
          demoDesk (.bearer demoGuest.id) [] (.write (.createRequest (.data demoManual)))) := by
  refine ⟨rfl, ⟨by decide +kernel, demoStay, List.mem_cons_self, rfl, rfl⟩, ?_⟩
  rintro ⟨hstatus, _⟩
  exact absurd hstatus (by decide +kernel)

end HotelAgent
