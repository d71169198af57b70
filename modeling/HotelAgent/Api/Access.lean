/-
  HotelAgent.Api.Access — who is calling, and what the caller may touch.

  JWT authentication resolves a token to a user row; a request without one goes
  on with Django's `AnonymousUser` (`none`).
-/
import HotelAgent.Core.Db
import HotelAgent.Kafka.Events

namespace HotelAgent

open Lib

/-! ## §1. Callers. -/

inductive Caller where
  | anonymous
  /-- A valid access token for this `user_id`. -/
  | token (userId : Uuid)
  deriving DecidableEq

/-- JWT authentication; `none` is the 401 of a token whose user is gone or
inactive. -/
def authenticate (db : Db) : Caller → Option (Option User)
  | .anonymous => some none
  | .token userId =>
    match db.users.find? userId with
    | some u => if u.isActive then some (some u) else none
    | none => none

/-- A token stands for the active user it names. -/
theorem authenticate_token_eq_some {db : Db} {userId : Uuid} {u : User} :
    authenticate db (.token userId) = some (some u)
      ↔ db.users.find? userId = some u ∧ u.isActive = true := by
  unfold authenticate
  simp only
  cases hfind : db.users.find? userId with
  | none => simp
  | some v =>
      by_cases hactive : v.isActive = true
      · simp only [hactive, if_true, Option.some.injEq]
        exact ⟨fun h => ⟨h, h ▸ hactive⟩, fun h => h.1⟩
      · simp only [hactive, Option.some.injEq]
        exact ⟨fun h => absurd h (by simp), fun h => absurd (h.1 ▸ h.2) hactive⟩

/-! ## §2. Permissions. -/

/-- The roles of the hotel's personnel. -/
def Role.isStaff : Role → Bool
  | .guest => false
  | .staff => true
  | .manager => true
  | .admin => true

/-- `IsOwnerOrStaff.has_object_permission` for an object with a `guest`. -/
def isOwnerOrStaff (user : User) (guestId : Uuid) : Bool :=
  user.role.isStaff || guestId = user.id

/-! ## §3. The process around a request. -/

/-- The database and the records handed to the Kafka client so far. -/
structure World where
  db : Db
  log : List Record

/-- The values that a request does not determine. -/
structure Fresh where
  /-- `uuid.uuid4()` for the primary key of a new row. -/
  id : Uuid
  /-- The random confirmation code. -/
  confirmationCode : Text
  now : Instant
  stamp : Stamp
  produce : ProduceOutcome

/-! ## §4. A hotel with one guest and two rooms. -/

def demoGuest : User where
  id := 1
  email := txt "guest@hotel.com"
  firstName := txt "Demo"
  lastName := txt "Guest"
  phone := []
  password := txt "right"
  role := .guest
  isActive := true
  lastLoginIp := none
  preferences := .obj []
  failedLoginAttempts := 0
  lockedUntil := none
  createdAt := 0

/-- A free room at 100.00 a night. -/
def demoRoom (id : Uuid) : Room where
  id := id
  number := txt "101"
  floor := 1
  roomType := .standard
  status := .available
  capacity := 2
  pricePerNight := 10000
  amenities := .arr []
  description := []
  isActive := true

def demoHotel : World where
  db :=
    { users := ⟨[demoGuest], by decide⟩
      rooms := ⟨[demoRoom 10, demoRoom 11], by decide⟩
      bookings := .empty
      serviceRequests := .empty
      voiceSessions := .empty
      booking_ok := by simp [Table.empty]
      booking_code := by simp [Table.empty]
      request_ok := by simp [Table.empty]
      session_ok := by simp [Table.empty] }
  log := []

theorem demoGuest_mem : demoGuest ∈ demoHotel.db.users := List.mem_singleton.mpr rfl

/-- A hotel with nothing but users and rooms. -/
def unvisited (users : Table User.id) (rooms : Table Room.id)
    (user_email : ∀ u ∈ users.rows, ∀ v ∈ users.rows, u.email = v.email → u.id = v.id) : Db where
  users := users
  rooms := rooms
  bookings := .empty
  serviceRequests := .empty
  voiceSessions := .empty
  user_email := user_email
  booking_ok := fun _ hb => absurd hb List.not_mem_nil
  booking_code := fun _ hb => absurd hb List.not_mem_nil
  request_ok := fun _ hr => absurd hr List.not_mem_nil
  session_ok := fun _ hs => absurd hs List.not_mem_nil

/-- Fresh values that differ with `n`; the Kafka client refuses the event. -/
def demoFresh (n : Nat) : Fresh where
  id := n
  confirmationCode := natText n
  now := 0
  stamp := { eventId := 0, timestamp := [] }
  produce := .kafkaException

instance neZeroDays : NeZero 31 := ⟨by decide⟩

/-- A date of January 2025. -/
def january (day : Fin 31) : Date :=
  ⟨739252 + day.val, by omega, by omega⟩

end HotelAgent
