/-
  HotelAgent.Api.Serializers — what a response shows of a row.

  The read side of `api/serializers.py`: one function per serializer, its
  members in the order of `Meta.fields`.  A nested user or room is looked up
  under its foreign key.  `Response` is the HTTP answer with the envelope of
  `api/exceptions.py`.
-/
import HotelAgent.Core.Db
import Mathlib.Data.List.Sort

namespace HotelAgent

open Lib

/-! ## §1. Choices. -/

def Role.value : Role → Text
  | .guest => txt "guest"
  | .staff => txt "staff"
  | .manager => txt "manager"
  | .admin => txt "admin"

def RoomType.value : RoomType → Text
  | .standard => txt "standard"
  | .deluxe => txt "deluxe"
  | .suite => txt "suite"
  | .penthouse => txt "penthouse"

def RoomType.label : RoomType → Text
  | .standard => txt "Standard"
  | .deluxe => txt "Deluxe"
  | .suite => txt "Suite"
  | .penthouse => txt "Penthouse"

def RoomStatus.value : RoomStatus → Text
  | .available => txt "available"
  | .occupied => txt "occupied"
  | .maintenance => txt "maintenance"
  | .cleaning => txt "cleaning"

def RoomStatus.label : RoomStatus → Text
  | .available => txt "Available"
  | .occupied => txt "Occupied"
  | .maintenance => txt "Maintenance"
  | .cleaning => txt "Cleaning"

def BookingStatus.value : BookingStatus → Text
  | .pending => txt "pending"
  | .confirmed => txt "confirmed"
  | .checkedIn => txt "checked_in"
  | .checkedOut => txt "checked_out"
  | .cancelled => txt "cancelled"

def BookingStatus.label : BookingStatus → Text
  | .pending => txt "Pending"
  | .confirmed => txt "Confirmed"
  | .checkedIn => txt "Checked In"
  | .checkedOut => txt "Checked Out"
  | .cancelled => txt "Cancelled"

def RequestStatus.value : RequestStatus → Text
  | .pending => txt "pending"
  | .assigned => txt "assigned"
  | .inProgress => txt "in_progress"
  | .completed => txt "completed"
  | .cancelled => txt "cancelled"

def RequestStatus.label : RequestStatus → Text
  | .pending => txt "Pending"
  | .assigned => txt "Assigned"
  | .inProgress => txt "In Progress"
  | .completed => txt "Completed"
  | .cancelled => txt "Cancelled"

def SessionStatus.value : SessionStatus → Text
  | .active => txt "active"
  | .completed => txt "completed"
  | .failed => txt "failed"
  | .timeout => txt "timeout"

def SessionStatus.label : SessionStatus → Text
  | .active => txt "Active"
  | .completed => txt "Completed"
  | .failed => txt "Failed"
  | .timeout => txt "Timeout"

/-- `ServiceRequest.ServiceType.choices`. -/
def serviceTypeChoices : List (Text × Text) :=
  [(txt "room_service", txt "Room Service"), (txt "housekeeping", txt "Housekeeping"),
    (txt "maintenance", txt "Maintenance"), (txt "concierge", txt "Concierge"),
    (txt "wake_up_call", txt "Wake Up Call"), (txt "transport", txt "Transport"),
    (txt "spa", txt "Spa"), (txt "dining", txt "Dining Reservation"),
    (txt "laundry", txt "Laundry"), (txt "other", txt "Other")]

/-- `ServiceRequest.Priority.choices`. -/
def priorityChoices : List (Text × Text) :=
  [(txt "low", txt "Low"), (txt "normal", txt "Normal"), (txt "high", txt "High"),
    (txt "urgent", txt "Urgent")]

/-- A text among the values of `choices`. -/
abbrev ChoiceOf (choices : List (Text × Text)) := { t : Text // t ∈ choices.map (·.1) }

/-- `get_FOO_display()`: a value outside of the choices shows itself. -/
def displayOf (choices : List (Text × Text)) (value : Text) : Text :=
  ((choices.find? (fun c => c.1 = value)).map (·.2)).getD value

/-- Every choice fits its column. -/
theorem choice_length :
    (∀ c ∈ serviceTypeChoices, c.1.length ≤ 30) ∧ ∀ c ∈ priorityChoices, c.1.length ≤ 10 := by
  decide

/-! ## §2. Fields. -/

/-- A `DecimalField` with two places. -/
def decimalText (cents : Int) : Text :=
  (if cents < 0 then txt "-" else []) ++ natText (cents.natAbs / 100) ++ txt "."
    ++ zeroPad 2 (cents.natAbs % 100)

/-- A `DateTimeField`: `isoformat()` in UTC, with `Z` for `+00:00`. -/
def isoDatetime (t : Instant) : Text :=
  let day := 86400 * second
  let ordinal := min 3652059 (max 1 (719163 + t / day).toNat)
  let date : Date := ⟨ordinal, by omega, by omega⟩
  let micros := (t % day).toNat
  let secs := micros / 1000000
  let fraction := micros % 1000000
  date.str ++ txt "T" ++ zeroPad 2 (secs / 3600) ++ txt ":" ++ zeroPad 2 (secs / 60 % 60)
    ++ txt ":" ++ zeroPad 2 (secs % 60)
    ++ (if fraction = 0 then [] else txt "." ++ zeroPad 6 fraction) ++ txt "Z"

example : isoDatetime (86400 * second + 90 * second) = txt "1970-01-02T00:01:30Z" := by decide

/-- A value that may be null. -/
def orNull {α : Type} (f : α → Json) : Option α → Json
  | none => .null
  | some a => f a

/-! ## §3. Serializers. -/

/-- `User.full_name`. -/
def User.fullName (u : User) : Text :=
  let name := strip (u.firstName ++ txt " " ++ u.lastName)
  if name = [] then u.email else name

/-- `UserBriefSerializer`. -/
def userBrief (u : User) : Json :=
  .obj [(txt "id", .str u.id.str), (txt "email", .str u.email),
    (txt "full_name", .str u.fullName), (txt "role", .str u.role.value)]

/-- The user under a foreign key. -/
def briefOf (users : Table User.id) (userId : Uuid) : Json := orNull userBrief (users.find? userId)

/-- `RoomSerializer`. -/
def roomJson (r : Room) : Json :=
  .obj [(txt "id", .str r.id.str), (txt "number", .str r.number), (txt "floor", .int r.floor),
    (txt "room_type", .str r.roomType.value), (txt "room_type_display", .str r.roomType.label),
    (txt "status", .str r.status.value), (txt "status_display", .str r.status.label),
    (txt "capacity", .int r.capacity), (txt "price_per_night", .str (decimalText r.pricePerNight)),
    (txt "amenities", r.amenities), (txt "description", .str r.description)]

/-- `BookingSerializer`. -/
def bookingJson (users : Table User.id) (rooms : Table Room.id) (b : Booking) : Json :=
  .obj [(txt "id", .str b.id.str), (txt "confirmation_code", .str b.confirmationCode),
    (txt "guest", briefOf users b.guestId), (txt "room", orNull roomJson (rooms.find? b.roomId)),
    (txt "check_in", .str b.checkIn.str), (txt "check_out", .str b.checkOut.str),
    (txt "status", .str b.status.value), (txt "status_display", .str b.status.label),
    (txt "adults", .int b.adults), (txt "children", .int b.children),
    (txt "total_price", .str (decimalText b.totalPrice)),
    (txt "special_requests", .str b.specialRequests), (txt "nights", .int b.nights),
    (txt "created_at", .str (isoDatetime b.createdAt))]

/-- `ServiceRequestSerializer`. -/
def requestJson (users : Table User.id) (r : ServiceRequest) : Json :=
  .obj [(txt "id", .str r.id.str), (txt "booking", .str r.bookingId.str),
    (txt "guest", briefOf users r.guestId), (txt "assigned_to", orNull (briefOf users) r.assignedTo),
    (txt "service_type", .str r.serviceType),
    (txt "service_type_display", .str (displayOf serviceTypeChoices r.serviceType)),
    (txt "priority", .str r.priority),
    (txt "priority_display", .str (displayOf priorityChoices r.priority)),
    (txt "status", .str r.status.value), (txt "status_display", .str r.status.label),
    (txt "description", .str r.description), (txt "notes", .str r.notes),
    (txt "scheduled_at", orNull (fun t => .str (isoDatetime t)) r.scheduledAt),
    (txt "completed_at", orNull (fun t => .str (isoDatetime t)) r.completedAt),
    (txt "rating", orNull (fun n : Nat => .int n) r.rating), (txt "feedback", .str r.feedback),
    (txt "voice_session_id", orNull (fun id : Uuid => .str id.str) r.voiceSessionId),
    (txt "created_at", .str (isoDatetime r.createdAt))]

/-- `VoiceSessionSerializer.get_turn_count`. -/
def VoiceSession.turnCount (s : VoiceSession) : Nat :=
  (s.transcript.filter (fun m => m.role = txt "user")).length

/-- `VoiceSessionSerializer`. -/
def sessionJson (users : Table User.id) (s : VoiceSession) : Json :=
  .obj [(txt "id", .str s.id.str), (txt "guest", briefOf users s.guestId),
    (txt "booking", orNull (fun id : Uuid => .str id.str) s.bookingId),
    (txt "status", .str s.status.value), (txt "status_display", .str s.status.label),
    (txt "started_at", .str (isoDatetime s.startedAt)),
    (txt "ended_at", orNull (fun t => .str (isoDatetime t)) s.endedAt),
    (txt "duration_seconds", .int s.durationSeconds), (txt "tokens_used", .int s.tokensUsed),
    (txt "tts_characters", .int s.ttsCharacters), (txt "turn_count", .int s.turnCount),
    (txt "intent_detected", .str s.intentDetected), (txt "metadata", s.metadata)]

/-- One message of a transcript. -/
def Message.json (m : Message) : Json :=
  .obj [(txt "role", .str m.role), (txt "content", .str m.content),
    (txt "timestamp", .str m.timestamp)]

/-- The body of GET /voice/sessions/{pk}/transcript/. -/
def transcriptJson (s : VoiceSession) : Json :=
  .obj [(txt "session_id", .str s.id.str), (txt "transcript", .arr (s.transcript.map Message.json)),
    (txt "tokens_used", .int s.tokensUsed), (txt "tts_characters", .int s.ttsCharacters)]

/-! ## §4. Errors of a body. -/

/-- The errors of `is_valid`, in the order of the fields: those of values that are
`malformed`, and the `others` of fields that are not.  Data that is no object has one
error of its own, under `non_field_errors`. -/
def fieldErrors (fields : List Text) (malformed others : List (Text × Text)) :
    List (Text × Text) :=
  if txt "non_field_errors" ∈ malformed.map (·.1) then malformed
  else (malformed ++ others.filter fun e => e.1 ∉ malformed.map (·.1)).insertionSort
    fun a b => fields.idxOf a.1 ≤ fields.idxOf b.1

/-- There is no error if and only if nothing is malformed and there are no others. -/
theorem fieldErrors_eq_nil_iff {fields : List Text} {malformed others : List (Text × Text)} :
    fieldErrors fields malformed others = [] ↔ malformed = [] ∧ others = [] := by
  have hsorted : ∀ errors : List (Text × Text),
      errors.insertionSort (fun a b => fields.idxOf a.1 ≤ fields.idxOf b.1) = [] ↔ errors = [] := by
    intro errors
    rw [← List.length_eq_zero_iff, (List.perm_insertionSort _ errors).length_eq,
      List.length_eq_zero_iff]
  unfold fieldErrors
  cases malformed with
  | nil =>
      rw [if_neg (by simp), hsorted]
      simp
  | cons e malformed =>
      refine iff_of_false ?_ (fun h => absurd h.1 (by simp))
      split
      · simp
      · rw [hsorted]
        simp

/-! ## §5. Responses. -/

structure Response where
  status : Nat
  body : Json
  deriving DecidableEq

/-- `{"error": message}`, answered by a view itself. -/
def Response.error (status : Nat) (message : String) : Response :=
  ⟨status, .obj [(txt "error", .str (txt message))]⟩

/-- The envelope of `custom_exception_handler` without details. -/
def Response.envelope (status : Nat) (error code : Text) : Response :=
  ⟨status, .obj [(txt "error", .str error), (txt "code", .str code)]⟩

/-- An exception that REST framework does not know. -/
def Response.internalError : Response :=
  .envelope 500 (txt "An internal server error occurred.") (txt "internal_error")

/-- `Http404` for a lookup value that finds nothing, or is no UUID at all. -/
def Response.notFound (model : String) (pk : Option Uuid) : Response :=
  .envelope 404
    (match pk with
      | some _ => txt "No " ++ txt model ++ txt " matches the given query."
      | none => txt "Not found.")
    (txt "not_found")

/-- `PermissionDenied`. -/
def Response.permissionDenied : Response :=
  .envelope 403 (txt "You do not have permission to perform this action.")
    (txt "permission_denied")

/-- `NotAuthenticated`. -/
def Response.notAuthenticated : Response :=
  .envelope 401 (txt "Authentication credentials were not provided.") (txt "not_authenticated")

/-- A `ValidationError`: every field with its messages, the first of them as
`error`. -/
def Response.invalid (errors : List (Text × Text)) : Response :=
  let message :=
    match errors.find? (fun e => e.1 = txt "non_field_errors"), errors with
    | some e, _ => e.2
    | none, (field, m) :: _ => field ++ txt ": " ++ m
    | none, [] => txt "\x7b\x7d"
  let details := if errors.all (fun e => e.1 = txt "non_field_errors") then []
    else [(txt "details", .obj (errors.map fun e => (e.1, .arr [.str e.2])))]
  ⟨400, .obj ([(txt "error", .str message), (txt "code", .str (txt "bad_request"))] ++ details)⟩

end HotelAgent
