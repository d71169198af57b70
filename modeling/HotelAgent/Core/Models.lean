/-
  HotelAgent.Core.Models — the rows of the database.

  One record per model of `core/models.py`, with the columns that the API, the
  signals, the tasks and the Kafka handlers read or write.  An enumeration of
  the source (`TextChoices`) is an inductive type.  A price is counted in
  cents, since both price columns have two decimal places.  A service request
  keeps its type and priority as text: the column admits any text that fits,
  and `process_turn` writes what the language model said.
-/
import HotelAgent.Lib.Json.Syntax

namespace HotelAgent

open Lib

/-! ## §1. Identifiers, dates and times. -/

/-- `uuid.UUID`. -/
abbrev Uuid := BitVec 128

/-- `str(uuid)`: 32 hex digits in groups of 8, 4, 4, 4 and 12. -/
def Uuid.str (u : Uuid) : Text :=
  let hex : Text := (List.range 32).map fun i => hexPoint (u.toNat / 16 ^ (31 - i) % 16)
  hex.take 8 ++ txt "-" ++ (hex.drop 8).take 4 ++ txt "-" ++ (hex.drop 12).take 4 ++ txt "-"
    ++ (hex.drop 16).take 4 ++ txt "-" ++ hex.drop 20

/-- The 32 hex digits of a UUID. -/
def Uuid.hexDigits (u : Uuid) : Text :=
  (List.range 32).map fun i => hexPoint (u.toNat / 16 ^ (31 - i) % 16)

/-- Numbers with the same hex digits are the same. -/
theorem eq_of_hexDigits : ∀ (n : Nat) {a b : Nat}, a < 16 ^ n → b < 16 ^ n →
    (∀ k < n, a / 16 ^ k % 16 = b / 16 ^ k % 16) → a = b
  | 0, a, b, ha, hb, _ => by
      rw [pow_zero] at ha hb
      omega
  | n + 1, a, b, ha, hb, h => by
      have hhigh : a / 16 = b / 16 := by
        refine eq_of_hexDigits n ?_ ?_ fun k hk => ?_
        · rw [pow_succ] at ha
          omega
        · rw [pow_succ] at hb
          omega
        · have hk' := h (k + 1) (by omega)
          rw [pow_succ, Nat.mul_comm] at hk'
          rw [Nat.div_div_eq_div_mul, Nat.div_div_eq_div_mul]
          exact hk'
      have hlow := h 0 (by omega)
      rw [pow_zero, Nat.div_one, Nat.div_one] at hlow
      omega

theorem hexPoint_inj {a b : Nat} (ha : a < 16) (hb : b < 16) (h : hexPoint a = hexPoint b) :
    a = b := by
  have hall : ∀ a b : Fin 16, hexPoint a = hexPoint b → a = b := by decide
  exact congrArg Fin.val (hall ⟨a, ha⟩ ⟨b, hb⟩ h)

theorem Uuid.hexDigits_injective {u v : Uuid} (h : u.hexDigits = v.hexDigits) : u = v := by
  refine BitVec.eq_of_toNat_eq (eq_of_hexDigits 32 u.isLt v.isLt fun k hk => ?_)
  have hdigit := (List.map_inj_left.mp h) (31 - k) (List.mem_range.mpr (by omega))
  have hk' : 31 - (31 - k) = k := by omega
  rw [hk'] at hdigit
  exact hexPoint_inj (Nat.mod_lt _ (by decide)) (Nat.mod_lt _ (by decide)) hdigit

/-- Taking the dashes out of the printed form leaves the digits. -/
theorem Uuid.filter_str (u : Uuid) : u.str.filter (· ≠ 0x2D) = u.hexDigits := by
  have hkeep : ∀ c ∈ u.hexDigits, c ≠ 0x2D := by
    intro c hc
    obtain ⟨i, _, rfl⟩ := List.mem_map.mp hc
    have hall : ∀ d : Fin 16, hexPoint d ≠ 0x2D := by decide
    exact hall ⟨_, Nat.mod_lt _ (by decide)⟩
  have hpart : ∀ part : Text, part.Sublist u.hexDigits → part.filter (· ≠ 0x2D) = part := by
    intro part hsub
    rw [List.filter_eq_self]
    intro c hc
    simpa using hkeep c (hsub.subset hc)
  have hdash : (txt "-").filter (· ≠ 0x2D) = [] := by decide
  show (u.hexDigits.take 8 ++ txt "-" ++ (u.hexDigits.drop 8).take 4 ++ txt "-"
    ++ (u.hexDigits.drop 12).take 4 ++ txt "-" ++ (u.hexDigits.drop 16).take 4 ++ txt "-"
    ++ u.hexDigits.drop 20).filter (· ≠ 0x2D) = u.hexDigits
  have hmid : ∀ a b : Nat, ((u.hexDigits.drop a).take b).Sublist u.hexDigits :=
    fun a b => (List.take_sublist b _).trans (List.drop_sublist a _)
  simp only [List.filter_append, hdash, List.append_nil, hpart _ (List.take_sublist 8 _),
    hpart _ (hmid 8 4), hpart _ (hmid 12 4), hpart _ (hmid 16 4),
    hpart _ (List.drop_sublist 20 _)]
  have hjoin : ∀ a b : Nat, (u.hexDigits.drop a).take b ++ u.hexDigits.drop (a + b)
      = u.hexDigits.drop a := by
    intro a b
    rw [← List.drop_drop]
    exact List.take_append_drop b _
  rw [List.append_assoc, List.append_assoc, List.append_assoc, hjoin 16 4, hjoin 12 4, hjoin 8 4]
  exact List.take_append_drop 8 _

/-- **`str(uuid)` tells UUIDs apart.** -/
theorem Uuid.str_injective {u v : Uuid} (h : u.str = v.str) : u = v := by
  refine Uuid.hexDigits_injective ?_
  rw [← Uuid.filter_str, ← Uuid.filter_str, h]

/-- An aware `datetime`, in microseconds since the epoch. -/
abbrev Instant := Int

/-- One second. -/
def second : Int := 1000000

/-- A `date`: its proleptic Gregorian ordinal, from 0001-01-01 to 9999-12-31. -/
structure Date where
  ordinal : Nat
  one_le : 1 ≤ ordinal := by decide
  le_max : ordinal ≤ 3652059 := by decide
  deriving DecidableEq

/-- `(later - earlier).days`. -/
def Date.daysUntil (earlier later : Date) : Int := (later.ordinal : Int) - earlier.ordinal

/-- The days of a common year before each month. -/
def daysBeforeMonth (month : Nat) : Nat :=
  [0, 31, 59, 90, 120, 151, 181, 212, 243, 273, 304, 334].getD (month - 1) 0

/-- Year, month and day of an ordinal, by cycles of 400, 100, 4 and 1 years. -/
def Date.ymd (d : Date) : Nat × Nat × Nat :=
  let n := d.ordinal - 1
  let n400 := n / 146097
  let n := n % 146097
  let n100 := n / 36524
  let n := n % 36524
  let n4 := n / 1461
  let n := n % 1461
  let n1 := n / 365
  let n := n % 365
  let year := n400 * 400 + n100 * 100 + n4 * 4 + n1 + 1
  -- the last day of a cycle of 4 or of 400 years
  if n1 = 4 ∨ n100 = 4 then (year - 1, 12, 31)
  else
    let leap := n1 = 3 ∧ (n4 ≠ 24 ∨ n100 = 3)
    let before := fun m => daysBeforeMonth m + if 2 < m ∧ leap then 1 else 0
    -- the month, or one too many
    let guess := (n + 50) / 32
    let month := if n < before guess then guess - 1 else guess
    (year, month, n - before month + 1)

/-- `n` in decimal, filled with zeros to `width` digits. -/
def zeroPad (width n : Nat) : Text :=
  List.replicate (width - (natText n).length) 0x30 ++ natText n

/-- `str(date)`. -/
def Date.str (d : Date) : Text :=
  let (y, m, day) := d.ymd
  zeroPad 4 y ++ txt "-" ++ zeroPad 2 m ++ txt "-" ++ zeroPad 2 day

example : Date.str ⟨738000, by decide, by decide⟩ = txt "2021-07-29" := by decide

/-! ## §2. Columns. -/

/-- A text that PostgreSQL stores: no NUL and no surrogate. -/
def storable (t : Text) : Bool := t.all fun c => c.val ≠ 0 && !isSurrogate c

/-- What a `varchar(n)` column keeps of a text; `none` is the `DataError`.
Spaces beyond the limit are cut off, anything else is refused. -/
def varchar (n : Nat) (t : Text) : Option Text :=
  if !storable t then none
  else if t.length ≤ n then some t
  else if (t.drop n).all (· = 0x20) then some (t.take n)
  else none

/-- What a column keeps of a text: all of it, or as much as it has room for. -/
theorem varchar_eq_some {n : Nat} {t kept : Text} (h : varchar n t = some kept) :
    storable t = true ∧ (t.length ≤ n ∧ kept = t ∨ kept.length = n) := by
  unfold varchar at h
  split at h
  · exact absurd h (by simp)
  next hstorable =>
    refine ⟨by simpa using hstorable, ?_⟩
    split at h
    next hlength =>
      injection h with h
      exact .inl ⟨hlength, h.symm⟩
    next hlength =>
      split at h
      · injection h with h
        right
        rw [← h, List.length_take]
        omega
      · exact absurd h (by simp)

theorem varchar_length_le {n : Nat} {t kept : Text} (h : varchar n t = some kept) :
    kept.length ≤ n := by
  obtain ⟨_, ⟨hlength, rfl⟩ | hlength⟩ := varchar_eq_some h
  · exact hlength
  · exact Nat.le_of_eq hlength

/-- The largest value of an `integer` column. -/
def maxInteger : Nat := 2147483647

/-- The largest value of a `smallint` column. -/
def maxSmallInteger : Nat := 32767

mutual

/-- A JSON value that a `jsonb` column takes: every text in it is storable, and
no number is one of the constants beyond the JSON grammar. -/
def jsonbStorable : Json → Bool
  | .null | .bool _ | .int _ => true
  | .float lit => lit ≠ txt "NaN" && lit ≠ txt "Infinity" && lit ≠ txt "-Infinity"
  | .str s => storable s
  | .arr xs => jsonbStorableList xs
  | .obj fields => jsonbStorableFields fields

/-- The elements of an array. -/
def jsonbStorableList : List Json → Bool
  | [] => true
  | x :: xs => jsonbStorable x && jsonbStorableList xs

/-- The members of an object. -/
def jsonbStorableFields : List (Text × Json) → Bool
  | [] => true
  | (k, v) :: fields => storable k && jsonbStorable v && jsonbStorableFields fields

end

/-! ## §3. Users and rooms. -/

inductive Role where
  | guest
  | staff
  | manager
  | admin
  deriving DecidableEq, Repr

structure User where
  id : Uuid
  email : Text
  firstName : Text
  lastName : Text
  phone : Text
  /-- The stored hash. -/
  password : Text
  role : Role
  isActive : Bool
  lastLoginIp : Option Text
  preferences : Json
  failedLoginAttempts : Nat
  lockedUntil : Option Instant
  createdAt : Instant
  deriving DecidableEq

inductive RoomType where
  | standard
  | deluxe
  | suite
  | penthouse
  deriving DecidableEq, Repr

inductive RoomStatus where
  | available
  | occupied
  | maintenance
  | cleaning
  deriving DecidableEq, Repr

structure Room where
  id : Uuid
  number : Text
  floor : Nat
  roomType : RoomType
  status : RoomStatus
  capacity : Nat
  /-- In cents. -/
  pricePerNight : Int
  amenities : Json
  description : Text
  isActive : Bool
  deriving DecidableEq

/-! ## §4. Bookings. -/

inductive BookingStatus where
  | pending
  | confirmed
  | checkedIn
  | checkedOut
  | cancelled
  deriving DecidableEq, Repr

structure Booking where
  id : Uuid
  guestId : Uuid
  roomId : Uuid
  checkIn : Date
  checkOut : Date
  status : BookingStatus
  adults : Nat
  children : Nat
  /-- In cents. -/
  totalPrice : Int
  specialRequests : Text
  confirmationCode : Text
  createdAt : Instant
  deriving DecidableEq

/-- `BookingSerializer.get_nights`. -/
def Booking.nights (b : Booking) : Int := b.checkIn.daysUntil b.checkOut

/-! ## §5. Service requests. -/

inductive RequestStatus where
  | pending
  | assigned
  | inProgress
  | completed
  | cancelled
  deriving DecidableEq, Repr

structure ServiceRequest where
  id : Uuid
  bookingId : Uuid
  guestId : Uuid
  assignedTo : Option Uuid
  serviceType : Text
  priority : Text
  status : RequestStatus
  description : Text
  notes : Text
  scheduledAt : Option Instant
  completedAt : Option Instant
  rating : Option Nat
  feedback : Text
  voiceSessionId : Option Uuid
  createdAt : Instant
  deriving DecidableEq

/-! ## §6. Voice sessions. -/

inductive SessionStatus where
  | active
  | completed
  | failed
  | timeout
  deriving DecidableEq, Repr

/-- One entry of a transcript. -/
structure Message where
  role : Text
  content : Text
  timestamp : Text
  deriving DecidableEq

structure VoiceSession where
  id : Uuid
  guestId : Uuid
  bookingId : Option Uuid
  status : SessionStatus
  startedAt : Instant
  endedAt : Option Instant
  durationSeconds : Nat
  transcript : List Message
  intentDetected : Text
  tokensUsed : Nat
  ttsCharacters : Nat
  metadata : Json
  /-- The many-to-many relation `service_requests_created`. -/
  serviceRequestsCreated : List Uuid
  deriving DecidableEq

/-! ## §7. The audit log. -/

structure AuditLog where
  userId : Option Uuid
  action : Text
  resourceType : Text
  resourceId : Text
  ipAddress : Option Text
  deriving DecidableEq

end HotelAgent
