/-
  HotelAgent.Api.Registration — RegisterView and UserSerializer.

      is_valid          the single fields, the email is new, the passwords match
      serializer.save   INSERT of the user, always with the role `guest`
      perform_create    INSERT of an audit log with the address of the client

  There is no transaction around the two INSERTs.  Hashing a password is salted,
  so the hash is a fresh value; which texts PostgreSQL takes as an address is a
  parameter.
-/
import HotelAgent.Api.Access
import HotelAgent.Api.Serializers

namespace HotelAgent

open Lib

/-! ## §1. UserSerializer. -/

/-- A body after the checks of the single fields: the errors of those that failed,
and the values of the others. -/
structure RegisterBody where
  malformed : List (Text × Text)
  email : Option Text
  firstName : Option Text
  lastName : Option Text
  phone : Option Text
  preferences : Option Json
  password : Option Text
  confirmPassword : Option Text

/-- The values that a registration does not determine. -/
structure RegisterFresh where
  id : Uuid
  now : Instant
  /-- `make_password(password)`. -/
  passwordHash : Text

/-- The fields that may be written. -/
def userFields : List Text :=
  [txt "email", txt "first_name", txt "last_name", txt "phone", txt "preferences", txt "password",
    txt "confirm_password"]

/-- The required fields that a body lacks. -/
def RegisterBody.missing (body : RegisterBody) : List (Text × Text) :=
  ((if body.email = none then [txt "email"] else [])
    ++ (if body.password = none then [txt "password"] else [])
    ++ (if body.confirmPassword = none then [txt "confirm_password"] else [])).map
      fun field => (field, txt "This field is required.")

/-- `UniqueValidator` of the email. -/
def RegisterBody.takenEmail (db : Db) (body : RegisterBody) : List (Text × Text) :=
  match body.email with
  | none => []
  | some email =>
    if (db.userByEmail email).isSome then
      [(txt "email", txt "User with this email already exists.")]
    else []

/-- The errors of `is_valid`; the passwords are compared when there is no other. -/
def RegisterBody.errors (db : Db) (body : RegisterBody) : List (Text × Text) :=
  let errors := fieldErrors userFields body.malformed (body.missing ++ body.takenEmail db)
  if errors ≠ [] then errors
  else if body.password ≠ body.confirmPassword then
    [(txt "confirm_password", txt "Passwords do not match.")]
  else []

/-- The row that `serializer.save(role=User.Role.GUEST)` inserts. -/
def RegisterBody.row (body : RegisterBody) (fresh : RegisterFresh) : User where
  id := fresh.id
  email := body.email.getD []
  firstName := body.firstName.getD []
  lastName := body.lastName.getD []
  phone := body.phone.getD []
  password := fresh.passwordHash
  role := .guest
  isActive := true
  lastLoginIp := none
  preferences := body.preferences.getD (.obj [])
  failedLoginAttempts := 0
  lockedUntil := none
  createdAt := fresh.now

/-- `UserSerializer`, whose passwords are write-only. -/
def userJson (u : User) : Json :=
  .obj [(txt "id", .str u.id.str), (txt "email", .str u.email),
    (txt "first_name", .str u.firstName), (txt "last_name", .str u.lastName),
    (txt "phone", .str u.phone), (txt "role", .str u.role.value),
    (txt "preferences", u.preferences), (txt "created_at", .str (isoDatetime u.createdAt))]

/-! ## §2. RegisterView. -/

/-- The audit log of a registration. -/
def registeredLog (user : User) (remoteAddr : Text) : AuditLog where
  userId := some user.id
  action := txt "user.registered"
  resourceType := txt "user"
  resourceId := user.id.str
  ipAddress := some remoteAddr

/-- POST /auth/register/. -/
def register (inet : Text → Bool) (w : World) (body : RegisterBody) (remoteAddr : Text)
    (fresh : RegisterFresh) : World × Response :=
  if body.errors w.db ≠ [] then (w, .invalid (body.errors w.db))
  else
    let user := body.row fresh
    match w.db.insertUser user with
    | none => (w, .internalError)
    | some db =>
      match db.insertAuditLog inet (registeredLog user remoteAddr) with
      -- the user stays
      | none => ({ w with db := db }, .internalError)
      | some db => ({ w with db := db }, ⟨201, userJson user⟩)

/-- A UUID is printed in 36 characters. -/
theorem Uuid.length_str (u : Uuid) : u.str.length = 36 := rfl

/-- **The audit log** is refused for the address only; an empty one is stored as
null. -/
theorem insertAuditLog_registered_iff (inet : Text → Bool) (db : Db) (user : User)
    (remoteAddr : Text) :
    (db.insertAuditLog inet (registeredLog user remoteAddr)).isSome
      ↔ remoteAddr = [] ∨ inet remoteAddr = true := by
  have hlengths : (txt "user.registered").length ≤ 100 ∧ (txt "user").length ≤ 50
      ∧ user.id.str.length ≤ 100 := by
    rw [Uuid.length_str]
    decide
  unfold Db.insertAuditLog registeredLog
  simp only [hlengths, and_true, Option.some.injEq]
  by_cases hempty : remoteAddr = []
  · simp [hempty]
  · by_cases hinet : inet remoteAddr = true
    · simp [hempty, hinet]
    · simp [hempty, hinet]

end HotelAgent
