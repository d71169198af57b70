/-
  HotelAgent.Api.Bookings — BookingViewSet, BookingSerializer and the signal.

  A request is cut where it touches the database: a stage that reads
  (`readCreate`, `readUpdate`), one that writes the row (`insertBooking`,
  `saveBooking`) and the `post_save` signal.  `createBooking` and
  `updateBooking` run the stages without interruption.

      POST        required fields, dates, room AVAILABLE and active → INSERT
      PUT, PATCH  the caller's view of the row, dates → UPDATE of every column
      DELETE      refused while another row refers to the booking
      signal      room OCCUPIED or CLEANING after the status of the saved row

  The price is computed by POST only.
-/
import HotelAgent.Api.Access
import HotelAgent.Lib.Run

namespace HotelAgent

open Lib

/-! ## §1. Bodies and answers. -/

/-- The fields of a request body that passed their own checks. -/
structure BookingBody where
  roomId : Option Uuid
  checkIn : Option Date
  checkOut : Option Date
  adults : Option Nat
  children : Option Nat
  specialRequests : Option Text

/-- The body without fields. -/
def BookingBody.empty : BookingBody := ⟨none, none, none, none, none, none⟩

inductive BookingAnswer where
  | created (b : Booking)
  | updated (b : Booking)
  | deleted
  /-- A `ValidationError`: fields, or `non_field_errors`, with their messages. -/
  | invalid (errors : List (Text × Text))
  | unauthorized
  | forbidden
  | notFound
  | serverError

/-- The HTTP status of an answer. -/
def BookingAnswer.status : BookingAnswer → Nat
  | .created _ => 201
  | .updated _ => 200
  | .deleted => 204
  | .invalid _ => 400
  | .unauthorized => 401
  | .forbidden => 403
  | .notFound => 404
  | .serverError => 500

/-- The required fields that a body lacks. -/
def BookingBody.missing (body : BookingBody) : List Text :=
  (if body.roomId = none then [txt "room_id"] else [])
    ++ (if body.checkIn = none then [txt "check_in"] else [])
    ++ (if body.checkOut = none then [txt "check_out"] else [])

/-- The errors of required fields that are missing. -/
def requiredErrors (fields : List Text) : BookingAnswer :=
  .invalid (fields.map fun field => (field, txt "This field is required."))

/-- `BookingSerializer.validate`. -/
def BookingBody.validDates (body : BookingBody) : Bool :=
  match body.checkIn, body.checkOut with
  | some checkIn, some checkOut => decide (checkIn.ordinal < checkOut.ordinal)
  | _, _ => true

/-- The error of `BookingSerializer.validate`. -/
def datesError : BookingAnswer :=
  .invalid [(txt "non_field_errors", txt "Check-out must be after check-in.")]

/-! ## §2. The signal `on_booking_save`. -/

/-- "Sync room status with booking status". -/
def syncRoom (db : Db) (b : Booking) : Db :=
  match b.status with
  | .checkedIn => db.setRoomStatus b.roomId .occupied
  | .checkedOut => db.setRoomStatus b.roomId .cleaning
  | .cancelled => db.setRoomStatus b.roomId .cleaning
  | .pending => db
  | .confirmed => db

@[simp] theorem bookings_syncRoom (db : Db) (b : Booking) :
    (syncRoom db b).bookings = db.bookings := by
  unfold syncRoom
  cases b.status <;> rfl

/-- `on_booking_save`; `false` is an exception out of `publish`, which leaves the
saved row but skips the room. -/
def onBookingSave (py : Python) (w : World) (b : Booking) (created : Bool) (fresh : Fresh) :
    World × Bool :=
  let published := publish py fresh.produce (txt "AUDIT_LOG") (bookingCreatedEvent fresh.stamp b)
    none
  if created then
    match published with
    | .raised => (w, false)
    | p => ({ db := syncRoom w.db b, log := w.log ++ p.records }, true)
  else ({ w with db := syncRoom w.db b }, true)

/-- The signal touches no booking. -/
@[simp] theorem bookings_onBookingSave (py : Python) (w : World) (b : Booking) (created : Bool)
    (fresh : Fresh) : (onBookingSave py w b created fresh).1.db.bookings = w.db.bookings := by
  unfold onBookingSave
  simp only
  split
  · split
    · rfl
    · exact bookings_syncRoom w.db b
  · exact bookings_syncRoom w.db b

/-! ## §3. POST. -/

/-- `Room.objects.get(id=room_id, status=AVAILABLE, is_active=True)`. -/
def availableRoom (db : Db) (roomId : Uuid) : Option Room :=
  match db.rooms.find? roomId with
  | some r => if r.status = .available ∧ r.isActive = true then some r else none
  | none => none

/-- A new booking between the room check and the INSERT. -/
structure BookingDraft where
  guest : User
  room : Room
  checkIn : Date
  checkOut : Date
  adults : Nat
  children : Nat
  specialRequests : Text

/-- The row that `BookingSerializer.create` inserts. -/
def BookingDraft.row (draft : BookingDraft) (fresh : Fresh) : Booking where
  id := fresh.id
  guestId := draft.guest.id
  roomId := draft.room.id
  checkIn := draft.checkIn
  checkOut := draft.checkOut
  status := .pending
  adults := draft.adults
  children := draft.children
  totalPrice := draft.room.pricePerNight * draft.checkIn.daysUntil draft.checkOut
  specialRequests := draft.specialRequests
  confirmationCode := fresh.confirmationCode
  createdAt := fresh.now

/-- POST up to the INSERT. -/
def readCreate (db : Db) (caller : Caller) (body : BookingBody) :
    Except BookingAnswer BookingDraft :=
  match authenticate db caller with
  | none => .error .unauthorized
  | some user =>
    -- required fields first, then `validate`, and the room in `create`
    match body.roomId, body.checkIn, body.checkOut with
    | some roomId, some checkIn, some checkOut =>
      if body.validDates then
        match availableRoom db roomId with
        | none => .error (.invalid [(txt "room_id", txt "Room not available.")])
        | some room =>
          match user with
          -- `Booking(guest=AnonymousUser)` is a ValueError
          | none => .error .serverError
          | some guest => .ok
              { guest := guest, room := room, checkIn := checkIn, checkOut := checkOut,
                adults := body.adults.getD 1, children := body.children.getD 0,
                specialRequests := body.specialRequests.getD [] }
      else .error datesError
    | _, _, _ => .error (requiredErrors body.missing)

/-- POST /bookings/. -/
def createBooking (py : Python) (w : World) (caller : Caller) (body : BookingBody)
    (fresh : Fresh) : World × BookingAnswer :=
  match readCreate w.db caller body with
  | .error answer => (w, answer)
  | .ok draft =>
    let row := draft.row fresh
    match w.db.insertBooking row with
    | none => (w, .serverError)
    | some db =>
      let (w, ok) := onBookingSave py { w with db := db } row true fresh
      (w, if ok then .created row else .serverError)

/-! ## §4. PUT and PATCH. -/

/-- `get_object`: the caller's view of the row. -/
def getBooking (db : Db) (caller : Caller) (pk : Uuid) : Except BookingAnswer Booking :=
  match authenticate db caller with
  | none => .error .unauthorized
  -- `AnonymousUser` has no `role`: AttributeError in `get_queryset`
  | some none => .error .serverError
  | some (some user) =>
    match db.bookings.find? pk with
    | none => .error .notFound
    | some b =>
      -- outside of a guest's queryset; every other role sees all bookings
      if user.role = .guest ∧ b.guestId ≠ user.id then .error .notFound
      else if isOwnerOrStaff user b.guestId then .ok b
      else .error .forbidden

/-- `ModelSerializer.update`: the fields of the body are set one by one. -/
def BookingBody.applyTo (body : BookingBody) (b : Booking) : Booking :=
  { b with
    roomId := body.roomId.getD b.roomId
    checkIn := body.checkIn.getD b.checkIn
    checkOut := body.checkOut.getD b.checkOut
    adults := body.adults.getD b.adults
    children := body.children.getD b.children
    specialRequests := body.specialRequests.getD b.specialRequests }

@[simp] theorem BookingBody.applyTo_id (body : BookingBody) (b : Booking) :
    (body.applyTo b).id = b.id := rfl

@[simp] theorem BookingBody.applyTo_totalPrice (body : BookingBody) (b : Booking) :
    (body.applyTo b).totalPrice = b.totalPrice := rfl

/-- PUT or PATCH up to the UPDATE: the stored row. -/
def readUpdate (db : Db) (caller : Caller) (pk : Uuid) (part : Bool) (body : BookingBody) :
    Except BookingAnswer Booking :=
  match getBooking db caller pk with
  | .error answer => .error answer
  | .ok b =>
    if part = false ∧ body.missing ≠ [] then .error (requiredErrors body.missing)
    else if body.validDates then .ok b
    else .error datesError

/-- PUT (`part = false`) or PATCH /bookings/{pk}/. -/
def updateBooking (py : Python) (w : World) (caller : Caller) (pk : Uuid) (part : Bool)
    (body : BookingBody) (fresh : Fresh) : World × BookingAnswer :=
  match readUpdate w.db caller pk part body with
  | .error answer => (w, answer)
  | .ok b =>
    -- neither the room's availability nor the price is looked at again
    let row := body.applyTo b
    match w.db.saveBooking row with
    | none => (w, .serverError)
    | some db => ((onBookingSave py { w with db := db } row false fresh).1, .updated row)

/-! ## §5. DELETE, the admin site and housekeeping. -/

/-- DELETE /bookings/{pk}/.  No signal listens to it. -/
def destroyBooking (w : World) (caller : Caller) (pk : Uuid) : World × BookingAnswer :=
  match getBooking w.db caller pk with
  | .error answer => (w, answer)
  | .ok b =>
    match w.db.deleteBooking b.id with
    | none => (w, .serverError)
    | some db => ({ w with db := db }, .deleted)

/-- pending → confirmed → checked_in → checked_out, or → cancelled. -/
def legalMove : BookingStatus → BookingStatus → Bool
  | .pending, .confirmed => true
  | .confirmed, .checkedIn => true
  | .checkedIn, .checkedOut => true
  | .pending, .cancelled => true
  | .confirmed, .cancelled => true
  | .checkedIn, .cancelled => true
  | _, _ => false

/-- The admin site saves the booking with a new status. -/
def adminMove (py : Python) (w : World) (pk : Uuid) (status : BookingStatus) (fresh : Fresh) :
    World :=
  match w.db.bookings.find? pk with
  | none => w
  | some b =>
    if legalMove b.status status then
      let row := { b with status := status }
      match w.db.saveBooking row with
      | none => w
      | some db => (onBookingSave py { w with db := db } row false fresh).1
    else w

/-- Housekeeping sets a room from CLEANING to AVAILABLE. -/
def finishCleaning (w : World) (roomId : Uuid) : World :=
  match w.db.rooms.find? roomId with
  | none => w
  | some r =>
    if r.status = .cleaning then { w with db := w.db.setRoomStatus roomId .available } else w

/-! ## §6. What the reading stages yield. -/

theorem availableRoom_eq_some {db : Db} {roomId : Uuid} {r : Room}
    (h : availableRoom db roomId = some r) :
    r ∈ db.rooms ∧ r.id = roomId ∧ r.status = .available := by
  unfold availableRoom at h
  split at h
  next x hx =>
    split at h
    next hav =>
      injection h with h
      subst h
      obtain ⟨hmem, hid⟩ := Table.find?_eq_some_iff.mp hx
      exact ⟨hmem, hid, hav.1⟩
    next => exact absurd h (by simp)
  next => exact absurd h (by simp)

/-- A draft's room is a row of the table, and its dates are in order. -/
theorem readCreate_ok {db : Db} {caller : Caller} {body : BookingBody} {draft : BookingDraft}
    (h : readCreate db caller body = .ok draft) :
    draft.room ∈ db.rooms ∧ draft.room.status = .available
      ∧ draft.checkIn.ordinal < draft.checkOut.ordinal := by
  unfold readCreate at h
  split at h
  · exact absurd h (by simp)
  split at h
  next user hauth roomId checkIn checkOut hroom hin hout =>
    split at h
    next hdates =>
      split at h
      · exact absurd h (by simp)
      next room hav =>
        split at h
        · exact absurd h (by simp)
        next guest =>
          injection h with h
          subst h
          obtain ⟨hmem, _, hstatus⟩ := availableRoom_eq_some hav
          refine ⟨hmem, hstatus, ?_⟩
          unfold BookingBody.validDates at hdates
          rw [hin, hout] at hdates
          simpa using hdates
    next => exact absurd h (by simp)
  next => exact absurd h (by simp)

theorem getBooking_ok {db : Db} {caller : Caller} {pk : Uuid} {b : Booking}
    (h : getBooking db caller pk = .ok b) : b ∈ db.bookings ∧ b.id = pk := by
  unfold getBooking at h
  split at h
  · exact absurd h (by simp)
  · exact absurd h (by simp)
  split at h
  · exact absurd h (by simp)
  next user hauth x hx =>
    split at h
    · exact absurd h (by simp)
    split at h
    · injection h with h
      subst h
      exact Table.find?_eq_some_iff.mp hx
    · exact absurd h (by simp)

/-- An update starts from a booking that the caller sees. -/
theorem readUpdate_seen {db : Db} {caller : Caller} {pk : Uuid} {part : Bool} {body : BookingBody}
    {b : Booking} (h : readUpdate db caller pk part body = .ok b) :
    getBooking db caller pk = .ok b := by
  unfold readUpdate at h
  split at h
  · exact absurd h (by simp)
  next x hx =>
    split at h
    · exact absurd h (by simp)
    split at h
    · injection h with h
      subst h
      exact hx
    · exact absurd h (by simp)

/-- It starts from a stored row. -/
theorem readUpdate_ok {db : Db} {caller : Caller} {pk : Uuid} {part : Bool} {body : BookingBody}
    {b : Booking} (h : readUpdate db caller pk part body = .ok b) :
    b ∈ db.bookings ∧ b.id = pk :=
  getBooking_ok (readUpdate_seen h)

end HotelAgent
