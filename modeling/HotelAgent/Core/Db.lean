/-
  HotelAgent.Core.Db — the database and the statements sent to it.

  The constraints PostgreSQL enforces are fields of `Db`: foreign keys, unique
  keys, `check_out_after_check_in` and the ranges of the numeric columns.  A
  statement that would break one is refused (`none`), which Django raises as
  `IntegrityError`, `DataError` or `ProtectedError`.
-/
import HotelAgent.Core.Models
import HotelAgent.Lib.Table

namespace HotelAgent

open Lib

/-! ## §1. Row constraints. -/

/-- What the constraints demand of a booking row. -/
def Booking.Ok (users : Table User.id) (rooms : Table Room.id) (b : Booking) : Prop :=
  users.Has b.guestId ∧ rooms.Has b.roomId
    ∧ b.checkIn.ordinal < b.checkOut.ordinal
    ∧ b.totalPrice.natAbs < 10 ^ 12

instance (users : Table User.id) (rooms : Table Room.id) (b : Booking) :
    Decidable (b.Ok users rooms) :=
  inferInstanceAs (Decidable (_ ∧ _ ∧ _ ∧ _))

/-- What they demand of a service-request row. -/
def ServiceRequest.Ok (users : Table User.id) (bookings : Table Booking.id)
    (r : ServiceRequest) : Prop :=
  users.Has r.guestId ∧ bookings.Has r.bookingId
    ∧ r.serviceType.length ≤ 30 ∧ r.priority.length ≤ 10

instance (users : Table User.id) (bookings : Table Booking.id) (r : ServiceRequest) :
    Decidable (r.Ok users bookings) :=
  inferInstanceAs (Decidable (_ ∧ _ ∧ _ ∧ _))

/-- Every text of a message fits a `jsonb` column. -/
def Message.storable (m : Message) : Bool :=
  HotelAgent.storable m.role && HotelAgent.storable m.content && HotelAgent.storable m.timestamp

/-- What the ranges of its own columns demand of a session row. -/
def VoiceSession.InRange (s : VoiceSession) : Prop :=
  s.transcript.all Message.storable = true ∧ s.tokensUsed ≤ maxInteger
    ∧ s.ttsCharacters ≤ maxInteger ∧ s.durationSeconds ≤ maxInteger

instance (s : VoiceSession) : Decidable s.InRange :=
  inferInstanceAs (Decidable (_ ∧ _ ∧ _ ∧ _))

/-- What the constraints demand of a session row. -/
def VoiceSession.Ok (users : Table User.id) (bookings : Table Booking.id)
    (s : VoiceSession) : Prop :=
  users.Has s.guestId ∧ (∀ b ∈ s.bookingId, bookings.Has b) ∧ s.InRange

instance (users : Table User.id) (bookings : Table Booking.id) (s : VoiceSession) :
    Decidable (s.Ok users bookings) :=
  -- not by running through all 128-bit keys
  have : Decidable (∀ b ∈ s.bookingId, bookings.Has b) := Option.decidableForallMem _
  inferInstanceAs (Decidable (_ ∧ (∀ b ∈ s.bookingId, _) ∧ _))

/-- A write to the columns of a session that refer to no other table. -/
structure SessionWrite where
  write : VoiceSession → VoiceSession
  id_eq : ∀ s, (write s).id = s.id
  guestId_eq : ∀ s, (write s).guestId = s.guestId
  bookingId_eq : ∀ s, (write s).bookingId = s.bookingId

/-- A write to columns of a service request under no constraint. -/
structure RequestWrite where
  write : ServiceRequest → ServiceRequest
  id_eq : ∀ r, (write r).id = r.id
  guestId_eq : ∀ r, (write r).guestId = r.guestId
  bookingId_eq : ∀ r, (write r).bookingId = r.bookingId
  serviceType_eq : ∀ r, (write r).serviceType = r.serviceType
  priority_eq : ∀ r, (write r).priority = r.priority

/-- What the columns of a user row demand of their values. -/
def User.Fits (u : User) : Prop :=
  (u.email.length ≤ 254 ∧ storable u.email) ∧ (u.firstName.length ≤ 150 ∧ storable u.firstName)
    ∧ (u.lastName.length ≤ 150 ∧ storable u.lastName) ∧ (u.phone.length ≤ 20 ∧ storable u.phone)
    ∧ jsonbStorable u.preferences

instance (u : User) : Decidable u.Fits :=
  inferInstanceAs (Decidable ((_ ∧ _) ∧ (_ ∧ _) ∧ (_ ∧ _) ∧ (_ ∧ _) ∧ _))

/-- A write to columns of a user that are no key. -/
structure UserWrite where
  write : User → User
  id_eq : ∀ u, (write u).id = u.id
  email_eq : ∀ u, (write u).email = u.email

/-! ## §2. The database. -/

structure Db where
  users : Table User.id
  rooms : Table Room.id
  bookings : Table Booking.id
  serviceRequests : Table ServiceRequest.id
  voiceSessions : Table VoiceSession.id
  auditLogs : List AuditLog := []
  user_email : ∀ u ∈ users.rows, ∀ v ∈ users.rows, u.email = v.email → u.id = v.id := by decide
  booking_ok : ∀ b ∈ bookings.rows, b.Ok users rooms := by decide
  booking_code : ∀ b ∈ bookings.rows, ∀ c ∈ bookings.rows,
    b.confirmationCode = c.confirmationCode → b.id = c.id := by decide
  request_ok : ∀ r ∈ serviceRequests.rows, r.Ok users bookings := by decide
  session_ok : ∀ s ∈ voiceSessions.rows, s.Ok users bookings := by decide

namespace Db

/-- The room of a booking exists. -/
theorem room_of_booking (db : Db) {b : Booking} (hb : b ∈ db.bookings) :
    ∃ r ∈ db.rooms, r.id = b.roomId :=
  (db.booking_ok b hb).2.1

/-! ## §3. Rooms. -/

/-- `Room.objects.filter(id=room_id).update(status=status)`. -/
def setRoomStatus (db : Db) (roomId : Uuid) (status : RoomStatus) : Db :=
  { db with
    rooms := db.rooms.updateWhere (fun r => r.id = roomId) (fun r => { r with status := status })
    booking_ok := by
      intro b hb
      obtain ⟨hg, hr, hrest⟩ := db.booking_ok b hb
      exact ⟨hg, Table.has_updateWhere.mpr hr, hrest⟩ }

/-- The update reaches that one room and touches its status only. -/
theorem mem_rooms_setRoomStatus {db : Db} {roomId : Uuid} {status : RoomStatus} {r : Room} :
    r ∈ (db.setRoomStatus roomId status).rooms
      ↔ ∃ x ∈ db.rooms, r = if x.id = roomId then { x with status := status } else x := by
  unfold setRoomStatus
  rw [Table.mem_updateWhere]
  simp only [decide_eq_true_eq]
  exact ⟨fun ⟨x, hx, h⟩ => ⟨x, hx, h.symm⟩, fun ⟨x, hx, h⟩ => ⟨x, hx, h.symm⟩⟩

/-! ## §4. Bookings. -/

/-- Whether the constraints admit the row `b` in place of the one with its key. -/
def AdmitsBooking (db : Db) (b : Booking) : Prop :=
  b.Ok db.users db.rooms
    ∧ ∀ c ∈ db.bookings.rows, c.confirmationCode = b.confirmationCode → c.id = b.id

instance (db : Db) (b : Booking) : Decidable (db.AdmitsBooking b) :=
  inferInstanceAs (Decidable (_ ∧ _))

/-- `instance.save()`: every column is written; a row that is gone is inserted
again. -/
def saveBooking (db : Db) (b : Booking) : Option Db :=
  if h : db.AdmitsBooking b then
    some { db with
      bookings := db.bookings.save b
      booking_ok := by
        intro c hc
        rcases Table.mem_save.mp hc with rfl | ⟨hc, _⟩
        · exact h.1
        · exact db.booking_ok c hc
      booking_code := by
        intro c hc d hd heq
        rcases Table.mem_save.mp hc with rfl | ⟨hc, _⟩ <;>
          rcases Table.mem_save.mp hd with rfl | ⟨hd, _⟩
        · rfl
        · -- no other row has the new row's code
          exact (h.2 d hd heq.symm).symm
        · exact h.2 c ‹_› heq
        · exact db.booking_code c hc d hd heq
      request_ok := by
        intro r hr
        obtain ⟨hg, hb, hrest⟩ := db.request_ok r hr
        exact ⟨hg, hb.save, hrest⟩
      session_ok := by
        intro s hs
        obtain ⟨hg, hb, hrest⟩ := db.session_ok s hs
        exact ⟨hg, fun k hk => (hb k hk).save, hrest⟩ }
  else none

/-- `Booking.objects.create(...)`: the key must be new. -/
def insertBooking (db : Db) (b : Booking) : Option Db :=
  if db.bookings.Has b.id then none else db.saveBooking b

theorem saveBooking_eq_some_iff {db db' : Db} {b : Booking} :
    db.saveBooking b = some db' ↔ db.AdmitsBooking b ∧ db'.bookings = db.bookings.save b
      ∧ db'.users = db.users ∧ db'.rooms = db.rooms
      ∧ db'.serviceRequests = db.serviceRequests ∧ db'.voiceSessions = db.voiceSessions
      ∧ db'.auditLogs = db.auditLogs := by
  unfold saveBooking
  by_cases h : db.AdmitsBooking b
  · rw [dif_pos h]
    obtain ⟨users, rooms, bookings, requests, sessions, audit, _, _, _, _, _⟩ := db'
    constructor
    · intro heq
      injection heq with heq
      injection heq with h1 h2 h3 h4 h5 h6
      exact ⟨h, h3.symm, h1.symm, h2.symm, h4.symm, h5.symm, h6.symm⟩
    · intro heq
      obtain ⟨-, h3, h1, h2, h4, h5, h6⟩ := heq
      simp only at h1 h2 h3 h4 h5 h6
      subst h1 h2 h3 h4 h5 h6
      rfl
  · rw [dif_neg h]
    simp [h]

theorem saveBooking_eq_none_iff {db : Db} {b : Booking} :
    db.saveBooking b = none ↔ ¬ db.AdmitsBooking b := by
  unfold saveBooking
  by_cases h : db.AdmitsBooking b
  · simp [h]
  · simp [h]

/-- Whether another row refers to the booking, so that `on_delete=PROTECT`
keeps it. -/
def Protected (db : Db) (bookingId : Uuid) : Prop :=
  (∃ r ∈ db.serviceRequests.rows, r.bookingId = bookingId)
    ∨ ∃ s ∈ db.voiceSessions.rows, s.bookingId = some bookingId

instance (db : Db) (bookingId : Uuid) : Decidable (db.Protected bookingId) :=
  inferInstanceAs (Decidable (_ ∨ _))

/-- `instance.delete()`; `none` is the `ProtectedError`. -/
def deleteBooking (db : Db) (bookingId : Uuid) : Option Db :=
  if h : db.Protected bookingId then none
  else some { db with
    bookings := db.bookings.erase bookingId
    booking_ok := fun c hc => db.booking_ok c (Table.mem_erase.mp hc).1
    booking_code := fun c hc d hd =>
      db.booking_code c (Table.mem_erase.mp hc).1 d (Table.mem_erase.mp hd).1
    request_ok := by
      intro r hr
      obtain ⟨hg, hb, hrest⟩ := db.request_ok r hr
      exact ⟨hg, hb.erase fun heq => h (.inl ⟨r, hr, heq⟩), hrest⟩
    session_ok := by
      intro s hs
      obtain ⟨hg, hb, hrest⟩ := db.session_ok s hs
      refine ⟨hg, fun k hk => (hb k hk).erase ?_, hrest⟩
      intro heq
      exact h (.inr ⟨s, hs, heq ▸ hk⟩) }

theorem deleteBooking_eq_some {db db' : Db} {bookingId : Uuid}
    (h : db.deleteBooking bookingId = some db') :
    ¬ db.Protected bookingId ∧ db'.bookings = db.bookings.erase bookingId
      ∧ db'.users = db.users ∧ db'.rooms = db.rooms
      ∧ db'.serviceRequests = db.serviceRequests ∧ db'.voiceSessions = db.voiceSessions := by
  unfold deleteBooking at h
  by_cases hp : db.Protected bookingId
  · rw [dif_pos hp] at h
    exact absurd h (by simp)
  · rw [dif_neg hp] at h
    injection h with h
    subst h
    exact ⟨hp, rfl, rfl, rfl, rfl, rfl⟩

/-! ## §5. Service requests. -/

/-- The row an INSERT of a service request leaves; `none` where a column
refuses its value. -/
def insertServiceRequest (db : Db) (r : ServiceRequest) : Option Db :=
  -- `choices` are not checked by `objects.create`, only the lengths
  match varchar 30 r.serviceType, varchar 10 r.priority with
  | some serviceType, some priority =>
    let row := { r with serviceType := serviceType, priority := priority }
    if h : row.Ok db.users db.bookings ∧ storable r.description = true then
      match ht : db.serviceRequests.insert? row with
      | none => none
      | some requests => some { db with
          serviceRequests := requests
          request_ok := by
            intro x hx
            rcases (Table.mem_insert? ht x).mp hx with hx | rfl
            · exact db.request_ok x hx
            · exact h.1 }
    else none
  | _, _ => none

/-- An INSERT of a service request leaves the sessions. -/
theorem voiceSessions_insertServiceRequest {db db' : Db} {r : ServiceRequest}
    (h : db.insertServiceRequest r = some db') : db'.voiceSessions = db.voiceSessions := by
  unfold insertServiceRequest at h
  split at h
  · simp only at h
    split at h
    · split at h
      · exact absurd h (by simp)
      · injection h with h
        rw [← h]
    · exact absurd h (by simp)
  · exact absurd h (by simp)

/-- An INSERT is accepted if every column keeps something, the row is in order as it is
kept and its key is new. -/
theorem insertServiceRequest_isSome {db : Db} {r : ServiceRequest} {serviceType priority : Text}
    (hst : varchar 30 r.serviceType = some serviceType)
    (hpr : varchar 10 r.priority = some priority)
    (hok : { r with serviceType := serviceType, priority := priority }.Ok db.users db.bookings)
    (hdesc : storable r.description = true) (hnew : ∀ x ∈ db.serviceRequests, x.id ≠ r.id) :
    (db.insertServiceRequest r).isSome := by
  unfold insertServiceRequest
  simp only [hst, hpr]
  rw [dif_pos ⟨hok, hdesc⟩]
  split
  next hins =>
    obtain ⟨x, hx, hid⟩ := Table.insert?_eq_none_iff.mp hins
    exact absurd hid (hnew x hx)
  next => rfl

/-- **An accepted INSERT** appends the row with its texts as the columns keep
them, under a new key. -/
theorem insertServiceRequest_eq_some {db db' : Db} {r : ServiceRequest}
    (h : db.insertServiceRequest r = some db') :
    ∃ serviceType priority, varchar 30 r.serviceType = some serviceType
      ∧ varchar 10 r.priority = some priority ∧ storable r.description = true
      ∧ (∀ x ∈ db.serviceRequests, x.id ≠ r.id)
      ∧ db'.serviceRequests.rows = db.serviceRequests.rows
          ++ [{ r with serviceType := serviceType, priority := priority }]
      ∧ db'.users = db.users ∧ db'.rooms = db.rooms ∧ db'.bookings = db.bookings
      ∧ db'.voiceSessions = db.voiceSessions := by
  unfold insertServiceRequest at h
  split at h
  next serviceType priority hst hpr =>
    simp only at h
    split at h
    next hok =>
      split at h
      · exact absurd h (by simp)
      next requests hins =>
        injection h with h
        subst h
        obtain ⟨hnew, hrows⟩ := Table.insert?_eq_some_iff.mp hins
        exact ⟨serviceType, priority, hst, hpr, hok.2, hnew, hrows, rfl, rfl, rfl, rfl⟩
    · exact absurd h (by simp)
  · exact absurd h (by simp)

/-- `sr.save(update_fields=[...])`; `none` when the row is gone. -/
def saveRequestColumns (db : Db) (id : Uuid) (w : RequestWrite) : Option Db :=
  if db.serviceRequests.Has id then
    some { db with
      serviceRequests := db.serviceRequests.updateWhere (fun r => r.id = id) w.write w.id_eq
      request_ok := by
        intro x hx
        obtain ⟨r, hr, hx⟩ := Table.mem_updateWhere.mp hx
        obtain ⟨hg, hb, hst, hpr⟩ := db.request_ok r hr
        subst hx
        split
        · refine ⟨?_, ?_, ?_, ?_⟩
          · rw [w.guestId_eq]
            exact hg
          · rw [w.bookingId_eq]
            exact hb
          · rw [w.serviceType_eq]
            exact hst
          · rw [w.priority_eq]
            exact hpr
        · exact ⟨hg, hb, hst, hpr⟩ }
  else none

/-- A partial save writes its columns into the stored row and touches nothing
else. -/
theorem saveRequestColumns_eq_some {db db' : Db} {id : Uuid} {w : RequestWrite}
    (h : db.saveRequestColumns id w = some db') :
    db.serviceRequests.Has id
      ∧ db'.serviceRequests
        = db.serviceRequests.updateWhere (fun r => r.id = id) w.write w.id_eq
      ∧ db'.users = db.users ∧ db'.rooms = db.rooms ∧ db'.bookings = db.bookings
      ∧ db'.voiceSessions = db.voiceSessions ∧ db'.auditLogs = db.auditLogs := by
  unfold saveRequestColumns at h
  split at h
  next hhas =>
    injection h with h
    subst h
    exact ⟨hhas, rfl, rfl, rfl, rfl, rfl, rfl⟩
  · exact absurd h (by simp)

/-- It is refused only when the row is gone. -/
theorem saveRequestColumns_of_mem {db : Db} {r : ServiceRequest} (w : RequestWrite)
    (hr : r ∈ db.serviceRequests) : ∃ db', db.saveRequestColumns r.id w = some db' := by
  unfold saveRequestColumns
  rw [if_pos ⟨r, hr, rfl⟩]
  exact ⟨_, rfl⟩

/-- `instance.save()` of a whole row. -/
def saveServiceRequest (db : Db) (r : ServiceRequest) : Option Db :=
  if h : r.Ok db.users db.bookings then
    some { db with
      serviceRequests := db.serviceRequests.save r
      request_ok := by
        intro x hx
        rcases Table.mem_save.mp hx with rfl | ⟨hx, _⟩
        · exact h
        · exact db.request_ok x hx }
  else none

theorem saveServiceRequest_eq_some {db db' : Db} {r : ServiceRequest}
    (h : db.saveServiceRequest r = some db') :
    r.Ok db.users db.bookings ∧ db'.serviceRequests = db.serviceRequests.save r
      ∧ db'.users = db.users ∧ db'.rooms = db.rooms ∧ db'.bookings = db.bookings
      ∧ db'.voiceSessions = db.voiceSessions ∧ db'.auditLogs = db.auditLogs := by
  unfold saveServiceRequest at h
  split at h
  next hok =>
    injection h with h
    subst h
    exact ⟨hok, rfl, rfl, rfl, rfl, rfl, rfl⟩
  · exact absurd h (by simp)

/-- `instance.delete()`: the links from sessions to the request go as well. -/
def deleteServiceRequest (db : Db) (id : Uuid) : Db :=
  { db with
    serviceRequests := db.serviceRequests.erase id
    voiceSessions := db.voiceSessions.updateWhere (fun _ => true) fun s =>
      { s with serviceRequestsCreated := s.serviceRequestsCreated.filter (· ≠ id) }
    request_ok := fun r hr => db.request_ok r (Table.mem_erase.mp hr).1
    session_ok := by
      intro x hx
      obtain ⟨s, hs, hx⟩ := Table.mem_updateWhere.mp hx
      subst hx
      exact db.session_ok s hs }

/-! ## §6. Voice sessions. -/

/-- `VoiceSession.objects.create(...)`. -/
def insertSession (db : Db) (s : VoiceSession) : Option Db :=
  if h : s.Ok db.users db.bookings then
    match ht : db.voiceSessions.insert? s with
    | none => none
    | some sessions => some { db with
        voiceSessions := sessions
        session_ok := by
          intro x hx
          rcases (Table.mem_insert? ht x).mp hx with hx | rfl
          · exact db.session_ok x hx
          · exact h }
  else none

/-- `UPDATE core_voice_sessions SET … WHERE p`; refused as a whole when one of
the rows would leave its range. -/
def updateSessions (db : Db) (p : VoiceSession → Bool) (w : SessionWrite) : Option Db :=
  if h : ∀ s ∈ db.voiceSessions.rows, p s = true → (w.write s).InRange then
    some { db with
      voiceSessions := db.voiceSessions.updateWhere p w.write w.id_eq
      session_ok := by
        intro x hx
        obtain ⟨s, hs, hx⟩ := Table.mem_updateWhere.mp hx
        obtain ⟨hg, hb, hrange⟩ := db.session_ok s hs
        by_cases hp : p s = true
        · rw [if_pos hp] at hx
          subst hx
          exact ⟨by rw [w.guestId_eq]; exact hg, by rw [w.bookingId_eq]; exact hb, h s hs hp⟩
        · rw [if_neg hp] at hx
          subst hx
          exact ⟨hg, hb, hrange⟩ }
  else none

/-- `session.save(update_fields=[...])`; `none` also when the row is gone
(`DatabaseError`). -/
def saveSession (db : Db) (id : Uuid) (w : SessionWrite) : Option Db :=
  if db.voiceSessions.Has id then db.updateSessions (fun s => s.id = id) w else none

/-- A statement over sessions leaves the other tables. -/
theorem updateSessions_eq_some {db db' : Db} {p : VoiceSession → Bool} {w : SessionWrite}
    (h : db.updateSessions p w = some db') :
    (∀ s ∈ db.voiceSessions.rows, p s = true → (w.write s).InRange)
      ∧ db'.voiceSessions = db.voiceSessions.updateWhere p w.write w.id_eq
      ∧ db'.users = db.users ∧ db'.rooms = db.rooms ∧ db'.bookings = db.bookings
      ∧ db'.serviceRequests = db.serviceRequests := by
  unfold updateSessions at h
  by_cases hr : ∀ s ∈ db.voiceSessions.rows, p s = true → (w.write s).InRange
  · rw [dif_pos hr] at h
    injection h with h
    subst h
    exact ⟨hr, rfl, rfl, rfl, rfl, rfl⟩
  · rw [dif_neg hr] at h
    exact absurd h (by simp)

/-- **A partial save** writes its columns into the stored row. -/
theorem saveSession_eq_some {db db' : Db} {id : Uuid} {w : SessionWrite}
    (h : db.saveSession id w = some db') :
    ∃ row, db.voiceSessions.find? id = some row ∧ (w.write row).InRange
      ∧ db'.voiceSessions.find? id = some (w.write row)
      ∧ db'.users = db.users ∧ db'.rooms = db.rooms ∧ db'.bookings = db.bookings
      ∧ db'.serviceRequests = db.serviceRequests := by
  unfold saveSession at h
  by_cases hhas : db.voiceSessions.Has id
  · rw [if_pos hhas] at h
    obtain ⟨hrange, hsessions, hrest⟩ := updateSessions_eq_some h
    obtain ⟨row, hrow⟩ := Table.has_iff_find?.mp hhas
    obtain ⟨hmem, hid⟩ := Table.find?_eq_some_iff.mp hrow
    refine ⟨row, hrow, hrange row hmem (by simp [hid]), ?_, hrest⟩
    rw [hsessions, Table.find?_updateWhere, hrow]
    simp [hid]
  · rw [if_neg hhas] at h
    exact absurd h (by simp)

/-- It is refused when the row is gone or would leave its range. -/
theorem saveSession_eq_none_iff {db : Db} {id : Uuid} {w : SessionWrite} :
    db.saveSession id w = none
      ↔ ∀ row, db.voiceSessions.find? id = some row → ¬ (w.write row).InRange := by
  unfold saveSession
  by_cases hhas : db.voiceSessions.Has id
  · rw [if_pos hhas]
    obtain ⟨row, hrow⟩ := Table.has_iff_find?.mp hhas
    have hone : (∀ s ∈ db.voiceSessions.rows, decide (s.id = id) = true → (w.write s).InRange)
        ↔ (w.write row).InRange := by
      obtain ⟨hmem, hid⟩ := Table.find?_eq_some_iff.mp hrow
      constructor
      · intro hall
        exact hall row hmem (by simp [hid])
      · intro hrange s hs hsid
        have := Table.eq_of_key_eq hs hmem ((of_decide_eq_true hsid).trans hid.symm)
        rw [this]
        exact hrange
    unfold updateSessions
    by_cases hr : ∀ s ∈ db.voiceSessions.rows, decide (s.id = id) = true → (w.write s).InRange
    · rw [dif_pos hr]
      simp [hrow, hone.mp hr]
    · rw [dif_neg hr]
      have hnot := fun hrange => hr (hone.mpr hrange)
      simpa [hrow] using hnot
  · rw [if_neg hhas]
    refine ⟨fun _ row hrow => absurd (Table.has_iff_find?.mpr ⟨row, hrow⟩) hhas, fun _ => rfl⟩

/-- A save of a stored session is accepted exactly if the new row fits its columns. -/
theorem saveSession_isSome_iff {db : Db} {id : Uuid} {w : SessionWrite} {row : VoiceSession}
    (hrow : db.voiceSessions.find? id = some row) :
    (db.saveSession id w).isSome ↔ (w.write row).InRange := by
  cases hsave : db.saveSession id w with
  | none =>
      refine iff_of_false (by simp) ?_
      exact saveSession_eq_none_iff.mp hsave row hrow
  | some db' =>
      obtain ⟨row', hrow', hrange, _⟩ := saveSession_eq_some hsave
      rw [hrow] at hrow'
      injection hrow' with hrow'
      rw [hrow']
      exact iff_of_true rfl hrange

/-- The row that a save of every column leaves; its links are a table of their own. -/
def sessionRow (db : Db) (s : VoiceSession) : VoiceSession :=
  { s with serviceRequestsCreated :=
      ((db.voiceSessions.find? s.id).map (·.serviceRequestsCreated)).getD [] }

/-- `instance.save()`: every column is written; a row that is gone is inserted
again. -/
def saveWholeSession (db : Db) (s : VoiceSession) : Option Db :=
  if h : (db.sessionRow s).Ok db.users db.bookings then
    some { db with
      voiceSessions := db.voiceSessions.save (db.sessionRow s)
      session_ok := by
        intro x hx
        rcases Table.mem_save.mp hx with rfl | ⟨hx, _⟩
        · exact h
        · exact db.session_ok x hx }
  else none

/-- `instance.delete()`: no other row refers to a session. -/
def deleteSession (db : Db) (id : Uuid) : Db :=
  { db with
    voiceSessions := db.voiceSessions.erase id
    session_ok := fun s hs => db.session_ok s (Table.mem_erase.mp hs).1 }

/-- An accepted INSERT of a session. -/
theorem insertSession_eq_some {db db' : Db} {s : VoiceSession}
    (h : db.insertSession s = some db') :
    s.Ok db.users db.bookings ∧ (∀ x ∈ db.voiceSessions, x.id ≠ s.id)
      ∧ db'.voiceSessions.rows = db.voiceSessions.rows ++ [s]
      ∧ db'.users = db.users ∧ db'.rooms = db.rooms ∧ db'.bookings = db.bookings
      ∧ db'.serviceRequests = db.serviceRequests := by
  unfold insertSession at h
  split at h
  next hok =>
    split at h
    · exact absurd h (by simp)
    next sessions hins =>
      injection h with h
      subst h
      obtain ⟨hnew, hrows⟩ := Table.insert?_eq_some_iff.mp hins
      exact ⟨hok, hnew, hrows, rfl, rfl, rfl, rfl⟩
  · exact absurd h (by simp)

/-! ## §7. Users and the audit log. -/

/-- `user.save()` of a new user; `none` where a column or a unique key refuses
it. -/
def insertUser (db : Db) (u : User) : Option Db :=
  if h : u.Fits ∧ ∀ v ∈ db.users.rows, v.email ≠ u.email then
    match ht : db.users.insert? u with
    | none => none
    | some users => some { db with
        users := users
        user_email := by
          intro x hx y hy heq
          rcases (Table.mem_insert? ht x).mp hx with hx | rfl <;>
            rcases (Table.mem_insert? ht y).mp hy with hy | rfl
          · exact db.user_email x hx y hy heq
          · -- nobody else has the new user's email
            exact absurd heq (h.2 x hx)
          · exact absurd heq.symm (h.2 y hy)
          · rfl
        booking_ok := by
          intro b hb
          obtain ⟨hg, hrest⟩ := db.booking_ok b hb
          exact ⟨hg.insert? ht, hrest⟩
        request_ok := by
          intro r hr
          obtain ⟨hg, hrest⟩ := db.request_ok r hr
          exact ⟨hg.insert? ht, hrest⟩
        session_ok := by
          intro s hs
          obtain ⟨hg, hrest⟩ := db.session_ok s hs
          exact ⟨hg.insert? ht, hrest⟩ }
  else none

/-- An accepted user is a new row. -/
theorem insertUser_eq_some {db db' : Db} {u : User} (h : db.insertUser u = some db') :
    db'.users.rows = db.users.rows ++ [u] := by
  unfold insertUser at h
  split at h
  · split at h
    · exact absurd h (by simp)
    next users hins =>
      injection h with h
      subst h
      exact (Table.insert?_eq_some_iff.mp hins).2
  · exact absurd h (by simp)

/-- `AuditLog.objects.create(...)`; `inet` says which texts PostgreSQL takes as
an address. -/
def insertAuditLog (inet : Text → Bool) (db : Db) (row : AuditLog) : Option Db :=
  -- an empty address is stored as null
  let ip := if row.ipAddress = some [] then none else row.ipAddress
  if ip.all inet ∧ row.action.length ≤ 100 ∧ row.resourceType.length ≤ 50
      ∧ row.resourceId.length ≤ 100 then
    some { db with auditLogs := db.auditLogs ++ [{ row with ipAddress := ip }] }
  else none

/-- `user.save(update_fields=[...])`. -/
def saveUser (db : Db) (id : Uuid) (w : UserWrite) : Db :=
  { db with
    users := db.users.updateWhere (fun u => u.id = id) w.write w.id_eq
    user_email := by
      intro x hx y hy heq
      obtain ⟨u, hu, hx⟩ := Table.mem_updateWhere.mp hx
      obtain ⟨v, hv, hy⟩ := Table.mem_updateWhere.mp hy
      have hxu : x.email = u.email ∧ x.id = u.id := by
        subst hx
        split
        · exact ⟨w.email_eq u, w.id_eq u⟩
        · exact ⟨rfl, rfl⟩
      have hyv : y.email = v.email ∧ y.id = v.id := by
        subst hy
        split
        · exact ⟨w.email_eq v, w.id_eq v⟩
        · exact ⟨rfl, rfl⟩
      rw [hxu.2, hyv.2]
      exact db.user_email u hu v hv (by rw [← hxu.1, ← hyv.1, heq])
    booking_ok := by
      intro b hb
      obtain ⟨hg, hrest⟩ := db.booking_ok b hb
      exact ⟨Table.has_updateWhere.mpr hg, hrest⟩
    request_ok := by
      intro r hr
      obtain ⟨hg, hrest⟩ := db.request_ok r hr
      exact ⟨Table.has_updateWhere.mpr hg, hrest⟩
    session_ok := by
      intro s hs
      obtain ⟨hg, hrest⟩ := db.session_ok s hs
      exact ⟨Table.has_updateWhere.mpr hg, hrest⟩ }

/-- `User.objects.get(email=email)`; `none` is `DoesNotExist`. -/
def userByEmail (db : Db) (email : Text) : Option User :=
  db.users.rows.find? (fun u => u.email = email)

/-- An email names at most one user. -/
theorem userByEmail_eq_some_iff {db : Db} {email : Text} {u : User} :
    db.userByEmail email = some u ↔ u ∈ db.users ∧ u.email = email := by
  unfold userByEmail
  constructor
  · intro h
    exact ⟨List.mem_of_find?_eq_some h, by simpa using List.find?_some h⟩
  · intro h
    obtain ⟨hu, he⟩ := h
    cases hf : db.users.rows.find? (fun u => u.email = email) with
    | none =>
        rw [List.find?_eq_none] at hf
        exact absurd he (by simpa using hf u hu)
    | some v =>
        have hv := List.mem_of_find?_eq_some hf
        have hve : v.email = email := by simpa using List.find?_some hf
        have hid := db.user_email v hv u hu (hve.trans he.symm)
        rw [Table.eq_of_key_eq hv hu hid]

end Db

end HotelAgent
