/-
  HotelAgent.Api.Standing — what no run of the API changes.

  A run is any list of requests, by whatever clients, with the hourly clean-up in
  between.  Nothing in it makes anybody staff, takes an account away or rewrites the
  audit log.  Only the admin site moves a booking on, so a stay that the API acts
  on was there before the run:

      booking    →  session with that booking  →  service request
      checked in       of the same guest           of that session

  Main results:
    * `accounts_stand` — users keep what identifies them, newcomers are guests,
      the personnel, the rooms but for their status, the audit log and the Kafka
      log stand.
    * `stays_come_from_check_in` — every booking that is not pending, every session
      with a booking and every new status of a room comes from rows that were there
      at the start; every new service request was made in a session whose stay does.
-/
import HotelAgent.Api.EventOrder
import HotelAgent.Api.Statements

namespace HotelAgent

open Lib

variable {py : Python}

/-! ## §1. Runs. -/

/-- A request, or `cleanup_expired_sessions`. -/
inductive ServiceStep (py : Python) where
  | request (call : RestCall py)
  | cleanup (now : Instant)

def serviceStep (D : Deployment) (w : World) : ServiceStep py → World
  | .request call => restStep D w call
  | .cleanup now => { w with db := cleanupExpiredSessions w.db now }

theorem leads_serviceStep (D : Deployment) (w : World) (i : ServiceStep py) :
    w.db.Leads (serviceStep D w i).db := by
  cases i with
  | request call => exact statements_serve D w call.latencyMs call.request
  | cleanup now => exact leads_cleanup w.db now

/-! ## §2. Accounts, rooms and logs. -/

/-- A room without its status. -/
def Room.fixture (r : Room) : Room := { r with status := .available }

/-- The users who are no guests, as they are identified. -/
def Db.personnel (db : Db) : List User :=
  (db.users.rows.filter fun u => u.role ≠ .guest).map User.identity

/-- **What stands**: users keep what identifies them and nobody leaves, newcomers are guests;
rooms keep all but their status; the audit log only grows. -/
structure Db.Stands (db db' : Db) : Prop where
  users : ∃ newcomers : List User, (∀ u ∈ newcomers, u.role = .guest)
    ∧ db'.users.rows.map User.identity = (db.users.rows ++ newcomers).map User.identity
  rooms : db'.rooms.rows.map Room.fixture = db.rooms.rows.map Room.fixture
  audit : db.auditLogs <+: db'.auditLogs

theorem Db.Stands.refl (db : Db) : db.Stands db :=
  ⟨⟨[], fun _ hu => absurd hu List.not_mem_nil, by rw [List.append_nil]⟩, rfl,
    List.prefix_refl db.auditLogs⟩

theorem Db.Stands.trans {a b c : Db} (hab : a.Stands b) (hbc : b.Stands c) : a.Stands c := by
  obtain ⟨first, hfirst, hb⟩ := hab.users
  obtain ⟨second, hsecond, hc⟩ := hbc.users
  refine ⟨⟨first ++ second, ?_, ?_⟩, hbc.rooms.trans hab.rooms, hab.audit.trans hbc.audit⟩
  · intro u hu
    exact (List.mem_append.mp hu).elim (hfirst u) (hsecond u)
  · rw [hc, List.map_append, hb, ← List.append_assoc]
    exact List.map_append.symm

/-- Only statements on users, rooms and the audit log need a look. -/
theorem Db.Stands.of_same {db db' : Db} (users : db'.users = db.users)
    (rooms : db'.rooms = db.rooms) (audit : db'.auditLogs = db.auditLogs) : db.Stands db' := by
  refine ⟨⟨[], fun _ hu => absurd hu List.not_mem_nil, ?_⟩, ?_, ?_⟩
  · rw [users, List.append_nil]
  · rw [rooms]
  · rw [audit]

section
variable {db db' : Db}

/-- The INSERT of a user reaches no other table. -/
theorem insertUser_others {row : User} (h : db.insertUser row = some db') :
    db'.rooms = db.rooms ∧ db'.bookings = db.bookings
      ∧ db'.serviceRequests = db.serviceRequests ∧ db'.voiceSessions = db.voiceSessions
      ∧ db'.auditLogs = db.auditLogs := by
  unfold Db.insertUser at h
  split at h
  · split at h
    · exact absurd h (by simp)
    · injection h with h
      subst h
      exact ⟨rfl, rfl, rfl, rfl, rfl⟩
  · exact absurd h (by simp)

theorem stands_insertUser {row : User} (role : row.role = .guest)
    (h : db.insertUser row = some db') : db.Stands db' := by
  have husers := Db.insertUser_eq_some h
  obtain ⟨hrooms, _, _, _, haudit⟩ := insertUser_others h
  refine ⟨⟨[row], fun u hu => ?_, by rw [husers]⟩, by rw [hrooms], by rw [haudit]⟩
  rw [List.mem_singleton.mp hu]
  exact role

theorem insertAuditLog_eq_some {inet : Text → Bool} {row : AuditLog}
    (h : db.insertAuditLog inet row = some db') :
    ∃ row', db' = { db with auditLogs := db.auditLogs ++ [row'] } := by
  unfold Db.insertAuditLog at h
  simp only at h
  split at h
  · rw [Option.ite_none_right_eq_some] at h
    exact ⟨_, (Option.some.inj h.2).symm⟩
  · rw [Option.ite_none_right_eq_some] at h
    exact ⟨_, (Option.some.inj h.2).symm⟩

theorem stands_insertAuditLog {inet : Text → Bool} {row : AuditLog}
    (h : db.insertAuditLog inet row = some db') : db.Stands db' := by
  obtain ⟨row', rfl⟩ := insertAuditLog_eq_some h
  exact ⟨(Db.Stands.refl db).users, rfl, List.prefix_append _ _⟩

/-- A login writes none of the columns that identify a user. -/
theorem stands_saveUser (id : Uuid) {w : UserWrite}
    (login : ∀ u, (w.write u).identity = u.identity) : db.Stands (db.saveUser id w) := by
  refine ⟨⟨[], fun _ hu => absurd hu List.not_mem_nil, ?_⟩, rfl, List.prefix_refl _⟩
  rw [List.append_nil]
  exact Table.map_updateWhere w.id_eq fun u _ _ => login u

theorem stands_insertSession {row : VoiceSession} (h : db.insertSession row = some db') :
    db.Stands db' := by
  unfold Db.insertSession at h
  split at h
  · split at h
    · exact absurd h (by simp)
    · injection h with h
      subst h
      exact .of_same rfl rfl rfl
  · exact absurd h (by simp)

theorem stands_updateSessions {p : VoiceSession → Bool} {w : SessionWrite}
    (h : db.updateSessions p w = some db') : db.Stands db' := by
  unfold Db.updateSessions at h
  split at h
  · injection h with h
    subst h
    exact .of_same rfl rfl rfl
  · exact absurd h (by simp)

theorem stands_insertRequest {row : ServiceRequest}
    (h : db.insertServiceRequest row = some db') : db.Stands db' := by
  unfold Db.insertServiceRequest at h
  split at h
  · simp only at h
    split at h
    · split at h
      · exact absurd h (by simp)
      · injection h with h
        subst h
        exact .of_same rfl rfl rfl
    · exact absurd h (by simp)
  · exact absurd h (by simp)

theorem stands_saveBooking {row : Booking} (h : db.saveBooking row = some db') :
    db.Stands db' := by
  obtain ⟨_, _, husers, hrooms, _, _, haudit⟩ := Db.saveBooking_eq_some_iff.mp h
  exact .of_same husers hrooms haudit

/-- The signal of a booking writes the status of a room. -/
theorem stands_syncRoom (db : Db) (b : Booking) : db.Stands (syncRoom db b) := by
  have hset : ∀ status, db.Stands (db.setRoomStatus b.roomId status) := by
    intro status
    have hid : ∀ r : Room, Room.id { r with status := status } = r.id := fun _ => rfl
    exact ⟨(Db.Stands.refl db).users, Table.map_updateWhere hid fun _ _ _ => rfl,
      List.prefix_refl _⟩
  unfold syncRoom
  cases b.status with
  | pending => exact .refl db
  | confirmed => exact .refl db
  | checkedIn => exact hset .occupied
  | checkedOut => exact hset .cleaning
  | cancelled => exact hset .cleaning

theorem stands_deleteBooking {id : Uuid} (h : db.deleteBooking id = some db') :
    db.Stands db' := by
  unfold Db.deleteBooking at h
  split at h
  · exact absurd h (by simp)
  · injection h with h
    subst h
    exact .of_same rfl rfl rfl

/-- **One statement.** -/
theorem stands_statement (h : db.Statement db') : db.Stands db' := by
  cases h with
  | session h =>
      cases h with
      | insert row stay h => exact stands_insertSession h
      | update p w h => exact stands_updateSessions h
      | delete id => exact .of_same rfl rfl rfl
  | request h =>
      cases h with
      | insert row session h => exact stands_insertRequest h
  | other h =>
      cases h with
      | account h =>
          cases h with
          | insertUser row role h => exact stands_insertUser role h
          | insertAuditLog inet row h => exact stands_insertAuditLog h
          | saveUser id w login => exact stands_saveUser id login
      | hotel h =>
          cases h with
          | writeRequest r r' guest session h => exact .of_same h.users h.rooms h.auditLogs
          | deleteRequest id => exact .of_same rfl rfl rfl
          | insertBooking row pending h => exact stands_saveBooking (insertBooking_eq_some h).2
          | saveBooking b row mem edited h => exact stands_saveBooking h
          | syncRoom b mem => exact stands_syncRoom db b
          | deleteBooking id h => exact stands_deleteBooking h

/-- Statements, one after the other. -/
theorem stands_of_leads (h : db.Leads db') : db.Stands db' := by
  induction h with
  | refl => exact .refl db
  | tail _ hstep ih => exact ih.trans (stands_statement hstep)

theorem voiceSessions_syncRoom (db : Db) (b : Booking) :
    (syncRoom db b).voiceSessions = db.voiceSessions := by
  unfold syncRoom
  cases b.status with
  | pending => rfl
  | confirmed => rfl
  | checkedIn => rfl
  | checkedOut => rfl
  | cancelled => rfl

/-- Statements on other tables leave the sessions, or unlink a request that is deleted. -/
theorem sessions_of_other (h : db.OtherStatement db') :
    db'.voiceSessions = db.voiceSessions ∨ ∃ id, db' = db.deleteServiceRequest id := by
  cases h with
  | account h =>
      cases h with
      | insertUser row role h =>
          obtain ⟨_, _, _, hsessions, _⟩ := insertUser_others h
          exact .inl hsessions
      | insertAuditLog inet row h =>
          obtain ⟨row', rfl⟩ := insertAuditLog_eq_some h
          exact .inl rfl
      | saveUser id w login => exact .inl rfl
  | hotel h =>
      cases h with
      | writeRequest r r' guest session h => exact .inl h.voiceSessions
      | deleteRequest id => exact .inr ⟨id, rfl⟩
      | insertBooking row pending h =>
          obtain ⟨_, _, _, _, _, hsessions, _⟩ :=
            Db.saveBooking_eq_some_iff.mp (insertBooking_eq_some h).2
          exact .inl hsessions
      | saveBooking b row mem edited h =>
          obtain ⟨_, _, _, _, _, hsessions, _⟩ := Db.saveBooking_eq_some_iff.mp h
          exact .inl hsessions
      | syncRoom b mem => exact .inl (voiceSessions_syncRoom db b)
      | deleteBooking id h =>
          obtain ⟨_, _, _, _, _, hsessions⟩ := Db.deleteBooking_eq_some h
          exact .inl hsessions

/-- Newcomers are guests, so the personnel is the same. -/
theorem Db.Stands.personnel_eq (h : db.Stands db') : db'.personnel = db.personnel := by
  obtain ⟨newcomers, hguests, husers⟩ := h.users
  -- the role is a part of the identity
  have hfilter : ∀ rows : List User, (rows.filter fun u => u.role ≠ .guest).map User.identity
      = (rows.map User.identity).filter fun u => u.role ≠ .guest := by
    intro rows
    rw [List.filter_map]
    rfl
  have hnone : newcomers.filter (fun u => u.role ≠ .guest) = [] := by
    rw [List.filter_eq_nil_iff]
    intro u hu
    simp [hguests u hu]
  unfold Db.personnel
  rw [hfilter, husers, ← hfilter, List.filter_append, hnone, List.append_nil]

end

theorem log_serviceStep (D : Deployment) (w : World) (i : ServiceStep py) :
    w.log <+: (serviceStep D w i).log := by
  cases i with
  | request call =>
      show w.log <+: (call.request.serve D w call.latencyMs).1.log
      rw [log_serve]
      exact List.prefix_append _ _
  | cleanup now => exact List.prefix_refl w.log

/-- **Accounts stand**, in every run: nobody becomes staff or loses an account, and neither log
is rewritten. -/
theorem accounts_stand (D : Deployment) (w : World) (is : List (ServiceStep py)) :
    w.db.Stands (run (serviceStep D) w is).db
      ∧ (run (serviceStep D) w is).db.personnel = w.db.personnel
      ∧ w.log <+: (run (serviceStep D) w is).log := by
  have hrun : w.db.Stands (run (serviceStep D) w is).db
      ∧ w.log <+: (run (serviceStep D) w is).log := by
    induction is generalizing w with
    | nil => exact ⟨.refl w.db, List.prefix_refl w.log⟩
    | cons i is ih =>
        obtain ⟨hdb, hlog⟩ := ih (serviceStep D w i)
        exact ⟨(stands_of_leads (leads_serviceStep D w i)).trans hdb,
          (log_serviceStep D w i).trans hlog⟩
  exact ⟨hrun.1, hrun.1.personnel_eq, hrun.2⟩

/-! ## §3. Where the rows come from. -/

/-- The status that the signal of a booking sets its room to. -/
def Booking.roomStatus (b : Booking) : Option RoomStatus :=
  match b.status with
  | .checkedIn => some .occupied
  | .checkedOut => some .cleaning
  | .cancelled => some .cleaning
  | _ => none

/-- The guest with this id is checked in with this booking. -/
def Db.Stays (db : Db) (guestId bookingId : Uuid) : Prop :=
  ∃ b ∈ db.bookings, b.id = bookingId ∧ b.guestId = guestId ∧ b.status = .checkedIn

/-- The stay of a session goes back to `db`: its guest was checked in there with that booking, or
it was there itself, of that guest and with that booking. -/
def Db.HasStay (db : Db) (s : VoiceSession) (bookingId : Uuid) : Prop :=
  db.Stays s.guestId bookingId
    ∨ ∃ s₀ ∈ db.voiceSessions, s₀.id = s.id ∧ s₀.guestId = s.guestId ∧ s₀.bookingId = some bookingId

/-- **The rows of `db'` come from those of `db`.** -/
structure Db.Origin (db db' : Db) : Prop where
  bookings : ∀ b ∈ db'.bookings, b.status = .pending ∨ ∃ b₀ ∈ db.bookings, b₀.EditedTo b
  sessions : ∀ s ∈ db'.voiceSessions, ∀ id ∈ s.bookingId, db.HasStay s id
  rooms : ∀ r ∈ db'.rooms, ∃ r₀ ∈ db.rooms, r₀.id = r.id
    ∧ (r.status = r₀.status ∨ ∃ b₀ ∈ db.bookings, b₀.roomStatus = some r.status)

theorem Booking.EditedTo.refl (b : Booking) : b.EditedTo b :=
  ⟨rfl, rfl, rfl, rfl, rfl, rfl⟩

theorem Booking.EditedTo.trans {a b c : Booking} (hab : a.EditedTo b) (hbc : b.EditedTo c) :
    a.EditedTo c where
  id := hbc.id.trans hab.id
  guestId := hbc.guestId.trans hab.guestId
  status := hbc.status.trans hab.status
  confirmationCode := hbc.confirmationCode.trans hab.confirmationCode
  totalPrice := hbc.totalPrice.trans hab.totalPrice
  createdAt := hbc.createdAt.trans hab.createdAt

theorem Db.Origin.refl (db : Db) : db.Origin db where
  bookings := fun b hb => .inr ⟨b, hb, .refl b⟩
  sessions := fun s hs _ hid => .inr ⟨s, hs, rfl, rfl, hid⟩
  rooms := fun r hr => ⟨r, hr, rfl, .inl rfl⟩

section
variable {db db' db'' : Db}

/-- A booking that is past `pending` was there before. -/
theorem Db.Origin.booking (h : db.Origin db') {b : Booking} (hb : b ∈ db'.bookings)
    (hpast : b.status ≠ .pending) : ∃ b₀ ∈ db.bookings, b₀.EditedTo b :=
  (h.bookings b hb).resolve_left hpast

theorem Db.Origin.stays (h : db.Origin db') {guestId id : Uuid} (hstays : db'.Stays guestId id) :
    db.Stays guestId id := by
  obtain ⟨b, hb, hid, hguest, hin⟩ := hstays
  obtain ⟨b₀, hb₀, hedit⟩ := h.booking hb (by rw [hin]; decide)
  exact ⟨b₀, hb₀, hedit.id.symm.trans hid, hedit.guestId.symm.trans hguest,
    hedit.status.symm.trans hin⟩

theorem Db.Origin.hasStay (h : db.Origin db') {s : VoiceSession} {id : Uuid}
    (hstay : db'.HasStay s id) : db.HasStay s id := by
  rcases hstay with hstays | ⟨s₁, hs₁, hkey, hguest, hid⟩
  · exact .inl (h.stays hstays)
  · have hfirst := h.sessions s₁ hs₁ id hid
    unfold Db.HasStay at hfirst ⊢
    rw [← hkey, ← hguest]
    exact hfirst

theorem Db.Origin.roomStatus (h : db.Origin db') {b : Booking} (hb : b ∈ db'.bookings)
    {status : RoomStatus} (hasks : b.roomStatus = some status) :
    ∃ b₀ ∈ db.bookings, b₀.roomStatus = some status := by
  have hpast : b.status ≠ .pending := by
    intro hpending
    unfold Booking.roomStatus at hasks
    rw [hpending] at hasks
    exact absurd hasks (by simp)
  obtain ⟨b₀, hb₀, hedit⟩ := h.booking hb hpast
  refine ⟨b₀, hb₀, ?_⟩
  unfold Booking.roomStatus at hasks ⊢
  rw [← hedit.status]
  exact hasks

theorem Db.Origin.trans (hab : db.Origin db') (hbc : db'.Origin db'') : db.Origin db'' where
  bookings := by
    intro b hb
    rcases hbc.bookings b hb with hpending | ⟨b₁, hb₁, hedit⟩
    · exact .inl hpending
    rcases hab.bookings b₁ hb₁ with hpending | ⟨b₀, hb₀, hedit₀⟩
    · exact .inl (hedit.status.trans hpending)
    · exact .inr ⟨b₀, hb₀, hedit₀.trans hedit⟩
  sessions := fun s hs id hid => hab.hasStay (hbc.sessions s hs id hid)
  rooms := by
    intro r hr
    obtain ⟨r₁, hr₁, hkey₁, hstatus⟩ := hbc.rooms r hr
    obtain ⟨r₀, hr₀, hkey₀, hstatus₀⟩ := hab.rooms r₁ hr₁
    refine ⟨r₀, hr₀, hkey₀.trans hkey₁, ?_⟩
    rcases hstatus with hstatus | ⟨b₁, hb₁, hasks⟩
    · rw [hstatus]
      exact hstatus₀
    · exact .inr (hab.roomStatus hb₁ hasks)

/-- A statement that leaves these three tables. -/
theorem Db.Origin.of_same (bookings : db'.bookings = db.bookings)
    (sessions : db'.voiceSessions = db.voiceSessions) (rooms : db'.rooms = db.rooms) :
    db.Origin db' := by
  have h := Db.Origin.refl db
  exact ⟨bookings ▸ h.bookings, sessions ▸ h.sessions, rooms ▸ h.rooms⟩

theorem origin_insertUser {row : User} (h : db.insertUser row = some db') : db.Origin db' := by
  obtain ⟨hrooms, hbookings, _, hsessions, _⟩ := insertUser_others h
  exact .of_same hbookings hsessions hrooms

theorem origin_insertAuditLog {inet : Text → Bool} {row : AuditLog}
    (h : db.insertAuditLog inet row = some db') : db.Origin db' := by
  obtain ⟨row', rfl⟩ := insertAuditLog_eq_some h
  exact .of_same rfl rfl rfl

theorem origin_insertSession {row : VoiceSession}
    (stay : ∀ id ∈ row.bookingId, db.Stays row.guestId id)
    (h : db.insertSession row = some db') : db.Origin db' := by
  obtain ⟨_, _, hrows, _, hrooms, hbookings, _⟩ := Db.insertSession_eq_some h
  have hself := Db.Origin.refl db
  refine ⟨hbookings ▸ hself.bookings, ?_, hrooms ▸ hself.rooms⟩
  intro s hs id hid
  rw [Table.mem_def, hrows] at hs
  rcases List.mem_append.mp hs with hs | hs
  · exact hself.sessions s hs id hid
  · rw [List.mem_singleton.mp hs] at hid ⊢
    exact .inl (stay id hid)

theorem origin_updateSessions {p : VoiceSession → Bool} {w : SessionWrite}
    (h : db.updateSessions p w = some db') : db.Origin db' := by
  obtain ⟨_, hsessions, _, hrooms, hbookings, _⟩ := Db.updateSessions_eq_some h
  have hself := Db.Origin.refl db
  refine ⟨hbookings ▸ hself.bookings, ?_, hrooms ▸ hself.rooms⟩
  intro s hs id hid
  rw [hsessions] at hs
  obtain ⟨s₀, hs₀, rfl⟩ := Table.mem_updateWhere.mp hs
  -- no write touches the key, the guest or the booking
  refine .inr ⟨s₀, hs₀, ?_⟩
  split at hid
  · rw [SessionWrite.bookingId_eq] at hid
    rw [if_pos ‹_›]
    exact ⟨(w.id_eq s₀).symm, (w.guestId_eq s₀).symm, hid⟩
  · rw [if_neg ‹_›]
    exact ⟨rfl, rfl, hid⟩

theorem origin_deleteSession (id : Uuid) : db.Origin (db.deleteSession id) := by
  have hself := Db.Origin.refl db
  refine ⟨hself.bookings, ?_, hself.rooms⟩
  intro s hs
  exact hself.sessions s (Table.mem_erase.mp hs).1

/-- The links of the sessions go; their bookings stay. -/
theorem origin_deleteRequest (id : Uuid) : db.Origin (db.deleteServiceRequest id) := by
  have hself := Db.Origin.refl db
  refine ⟨hself.bookings, ?_, hself.rooms⟩
  intro s hs key hkey
  unfold Db.deleteServiceRequest at hs
  rw [Table.mem_updateWhere] at hs
  obtain ⟨s₀, hs₀, rfl⟩ := hs
  exact .inr ⟨s₀, hs₀, rfl, rfl, hkey⟩

theorem origin_saveBooking {row : Booking}
    (hrow : row.status = .pending ∨ ∃ b ∈ db.bookings, b.EditedTo row)
    (h : db.saveBooking row = some db') : db.Origin db' := by
  obtain ⟨_, hbookings, _, hrooms, _, hsessions, _⟩ := Db.saveBooking_eq_some_iff.mp h
  have hself := Db.Origin.refl db
  refine ⟨?_, hsessions ▸ hself.sessions, hrooms ▸ hself.rooms⟩
  intro b hb
  rw [hbookings] at hb
  rcases Table.mem_save.mp hb with rfl | hb
  · exact hrow
  · exact hself.bookings b hb.1

theorem origin_syncRoom {b : Booking} (hb : b ∈ db.bookings) : db.Origin (syncRoom db b) := by
  have hself := Db.Origin.refl db
  have hset : ∀ status, b.roomStatus = some status
      → db.Origin (db.setRoomStatus b.roomId status) := by
    intro status hasks
    refine ⟨hself.bookings, hself.sessions, ?_⟩
    intro r hr
    obtain ⟨r₀, hr₀, rfl⟩ := Db.mem_rooms_setRoomStatus.mp hr
    split
    · exact ⟨r₀, hr₀, rfl, .inr ⟨b, hb, hasks⟩⟩
    · exact ⟨r₀, hr₀, rfl, .inl rfl⟩
  unfold syncRoom
  unfold Booking.roomStatus at hset
  cases hstatus : b.status with
  | pending => exact hself
  | confirmed => exact hself
  | checkedIn => exact hset .occupied (by rw [hstatus])
  | checkedOut => exact hset .cleaning (by rw [hstatus])
  | cancelled => exact hset .cleaning (by rw [hstatus])

theorem origin_deleteBooking {id : Uuid} (h : db.deleteBooking id = some db') :
    db.Origin db' := by
  obtain ⟨_, hbookings, _, hrooms, _, hsessions⟩ := Db.deleteBooking_eq_some h
  have hself := Db.Origin.refl db
  refine ⟨?_, hsessions ▸ hself.sessions, hrooms ▸ hself.rooms⟩
  intro b hb
  rw [hbookings] at hb
  exact hself.bookings b (Table.mem_erase.mp hb).1

/-- **One statement.** -/
theorem origin_statement (h : db.Statement db') : db.Origin db' := by
  cases h with
  | session h =>
      cases h with
      | insert row stay h => exact origin_insertSession stay h
      | update p w h => exact origin_updateSessions h
      | delete id => exact origin_deleteSession id
  | request h =>
      cases h with
      | insert row session h =>
          obtain ⟨_, _, _, _, _, _, _, _, hrooms, hbookings, hsessions⟩ :=
            Db.insertServiceRequest_eq_some h
          exact .of_same hbookings hsessions hrooms
  | other h =>
      cases h with
      | account h =>
          cases h with
          | insertUser row role h => exact origin_insertUser h
          | insertAuditLog inet row h => exact origin_insertAuditLog h
          | saveUser id w login => exact .of_same rfl rfl rfl
      | hotel h =>
          cases h with
          | writeRequest r r' guest session h =>
              exact .of_same h.bookings h.voiceSessions h.rooms
          | deleteRequest id => exact origin_deleteRequest id
          | insertBooking row pending h =>
              exact origin_saveBooking (.inl pending) (insertBooking_eq_some h).2
          | saveBooking b row mem edited h => exact origin_saveBooking (.inr ⟨b, mem, edited⟩) h
          | syncRoom b mem => exact origin_syncRoom mem
          | deleteBooking id h => exact origin_deleteBooking h

/-- Statements, one after the other. -/
theorem origin_of_leads (h : db.Leads db') : db.Origin db' := by
  induction h with
  | refl => exact .refl db
  | tail _ hstep ih => exact ih.trans (origin_statement hstep)

end

theorem origin_run (D : Deployment) (w : World) (is : List (ServiceStep py)) :
    w.db.Origin (run (serviceStep D) w is).db := by
  induction is generalizing w with
  | nil => exact .refl w.db
  | cons i is ih =>
      exact (origin_of_leads (leads_serviceStep D w i)).trans (ih (serviceStep D w i))

/-! ## §4. Where the service requests come from. -/

/-- The request was there in `db`, of the same guest and from the same session. -/
def Db.HasRequest (db : Db) (r : ServiceRequest) : Prop :=
  ∃ r₀ ∈ db.serviceRequests, r₀.id = r.id ∧ r₀.guestId = r.guestId
    ∧ r₀.voiceSessionId = r.voiceSessionId

/-- In `db` the request is new, and it comes from the session `s`, for the booking of `s`. -/
structure Db.Asks (db : Db) (s : VoiceSession) (r : ServiceRequest) : Prop where
  new : ∀ x ∈ db.serviceRequests, x.id ≠ r.id
  mem : s ∈ db.voiceSessions
  session : r.voiceSessionId = some s.id
  stay : s.bookingId = some r.bookingId

/-- No request of `db'` is new. -/
def Db.NoNewRequest (db db' : Db) : Prop := ∀ r ∈ db'.serviceRequests, db.HasRequest r

section
variable {db db' db'' : Db}

theorem Db.NoNewRequest.of_same (h : db'.serviceRequests = db.serviceRequests) :
    db.NoNewRequest db' :=
  fun r hr => ⟨r, h ▸ hr, rfl, rfl, rfl⟩

theorem Db.NoNewRequest.trans (hab : db.NoNewRequest db') (hbc : db'.NoNewRequest db'') :
    db.NoNewRequest db'' := by
  intro r hr
  obtain ⟨r₁, hr₁, hid, hguest, hsession⟩ := hbc r hr
  obtain ⟨r₀, hr₀, hid₀, hguest₀, hsession₀⟩ := hab r₁ hr₁
  exact ⟨r₀, hr₀, hid₀.trans hid, hguest₀.trans hguest, hsession₀.trans hsession⟩

/-- What keeps the requests statement by statement keeps them. -/
theorem Db.NoNewRequest.of_statements {Sends : Db → Db → Prop}
    (hsends : ∀ {db db'}, Sends db db' → db.NoNewRequest db')
    (h : Relation.ReflTransGen Sends db db') : db.NoNewRequest db' := by
  induction h with
  | refl => exact .of_same rfl
  | tail _ hstep ih => exact ih.trans (hsends hstep)

theorem noNewRequest_session (h : db.SessionStatement db') : db.NoNewRequest db' := by
  cases h with
  | insert row stay h =>
      obtain ⟨_, _, _, _, _, _, hrequests⟩ := Db.insertSession_eq_some h
      exact .of_same hrequests
  | update p w h =>
      obtain ⟨_, _, _, _, _, hrequests⟩ := Db.updateSessions_eq_some h
      exact .of_same hrequests
  | delete id => exact .of_same rfl

theorem serviceRequests_syncRoom (db : Db) (b : Booking) :
    (syncRoom db b).serviceRequests = db.serviceRequests := by
  unfold syncRoom
  cases b.status with
  | pending => rfl
  | confirmed => rfl
  | checkedIn => rfl
  | checkedOut => rfl
  | cancelled => rfl

theorem noNewRequest_other (h : db.OtherStatement db') : db.NoNewRequest db' := by
  cases h with
  | account h =>
      cases h with
      | insertUser row role h =>
          obtain ⟨_, _, hrequests, _⟩ := insertUser_others h
          exact .of_same hrequests
      | insertAuditLog inet row h =>
          obtain ⟨row', rfl⟩ := insertAuditLog_eq_some h
          exact .of_same rfl
      | saveUser id w login => exact .of_same rfl
  | hotel h =>
      cases h with
      | writeRequest r r' guest session h =>
          intro x hx
          rw [h.serviceRequests] at hx
          rcases (Table.mem_put h.has).mp hx with rfl | hx
          · exact ⟨r, h.mem, h.id_eq.symm, guest.symm, session.symm⟩
          · exact ⟨x, hx.1, rfl, rfl, rfl⟩
      | deleteRequest id => exact fun x hx => ⟨x, (Table.mem_erase.mp hx).1, rfl, rfl, rfl⟩
      | insertBooking row pending h =>
          obtain ⟨_, _, _, _, hrequests, _⟩ :=
            Db.saveBooking_eq_some_iff.mp (insertBooking_eq_some h).2
          exact .of_same hrequests
      | saveBooking b row mem edited h =>
          obtain ⟨_, _, _, _, hrequests, _⟩ := Db.saveBooking_eq_some_iff.mp h
          exact .of_same hrequests
      | syncRoom b mem => exact .of_same (serviceRequests_syncRoom db b)
      | deleteBooking id h =>
          obtain ⟨_, _, _, _, hrequests, _⟩ := Db.deleteBooking_eq_some h
          exact .of_same hrequests

end

/-- **A turn** asks for one request at most, in the session that it is a turn of. -/
theorem asks_processTurn (w : World) (caller : Caller) (pk : Uuid) (req : TurnRequest)
    (agent : AgentOutcome py) (fresh : SessionFresh) :
    ∀ r ∈ (processTurn w caller pk req agent fresh).1.db.serviceRequests,
      w.db.HasRequest r ∨ ∃ s, w.db.Asks s r := by
  intro r hr
  cases hdraft : turnDraft w.db caller pk req agent fresh with
  | none =>
      have hsame := (processTurn_of_no_draft hdraft).1.serviceRequests
      exact .inl (Db.NoNewRequest.of_same hsame r hr)
  | some draft =>
      obtain ⟨db, d⟩ := draft
      obtain ⟨hsame, hsession⟩ := sameButSessions_of_draft hdraft
      rw [processTurn_of_draft hdraft] at hr
      by_cases hcommits : d.commits py db fresh = true
      · obtain ⟨row, stored, hrow, _, hgained⟩ :=
          createRequest_of_commits (w := { w with db := db }) hsession hcommits
        rw [Table.mem_def, hgained.rows] at hr
        rcases List.mem_append.mp hr with hr | hr
        · exact .inl (Db.NoNewRequest.of_same hsame.serviceRequests r hr)
        · right
          rw [List.mem_singleton.mp hr]
          obtain ⟨serviceType, priority, _, _, rfl⟩ := hgained.kept
          obtain ⟨_, _, _, hbooking, hvoice⟩ := row_columns hrow
          obtain ⟨user, s, content, reply, _, hread, _, hd⟩ := turnDraft_eq_some hdraft
          obtain ⟨_, hid, hstay⟩ := requestDraft_eq_some hd
          refine ⟨s, ?_, Table.mem_of_find? (find?_of_readTurn hread), ?_, ?_⟩
          · exact fun x hx => hgained.new x (hsame.serviceRequests.symm ▸ hx)
          · show row.voiceSessionId = some s.id
            rw [hvoice, hid]
          · show s.bookingId = some row.bookingId
            rw [hstay, hbooking]
      · -- rolled back
        rw [(createRequest_of_not_commits (w := { w with db := db })
          (Bool.eq_false_of_not_eq_true hcommits)).1] at hr
        exact .inl (Db.NoNewRequest.of_same hsame.serviceRequests r hr)

theorem asks_serve (D : Deployment) (w : World) (latencyMs : Text) (request : ApiRequest py) :
    ∀ r ∈ (request.serve D w latencyMs).1.db.serviceRequests,
      w.db.HasRequest r ∨ ∃ s, w.db.Asks s r := by
  have haside : ∀ {db'}, w.db.LeadsAside db' →
      ∀ r ∈ db'.serviceRequests, w.db.HasRequest r ∨ ∃ s, w.db.Asks s r :=
    fun h r hr => .inl (Db.NoNewRequest.of_statements noNewRequest_other h r hr)
  cases request with
  | read cred query call => exact haside .refl
  | rooms cred query pk => exact haside .refl
  | write cred query call =>
      rw [world_serve]
      unfold perform
      cases cred.user w.db with
      | error response => exact haside .refl
      | ok user =>
          cases call with
          | voice call =>
              simp only
              have hcases : w.db.WritesSessions
                  (call.handle D.filters w cred.caller user query).db ∨ _ :=
                writesSessions_or_turn D.filters user query call
              rcases hcases with hsessions | ⟨pk, req, agent, fresh, hturn⟩
              · exact fun r hr =>
                  .inl (Db.NoNewRequest.of_statements noNewRequest_session hsessions r hr)
              · rw [hturn]
                exact asks_processTurn w cred.caller pk req agent fresh
          | owned call => exact haside (aside_owned D.filters query call).leadsAside
  | register body remoteAddr fresh => exact haside (aside_register D.inet w body remoteAddr fresh)
  | token req now => exact haside (aside_tokenPost D.jwt D.inet w.db req now)

/-- **One step** asks for requests in sessions that are stored before it. -/
theorem asks_serviceStep (D : Deployment) (w : World) (i : ServiceStep py) :
    ∀ r ∈ (serviceStep D w i).db.serviceRequests, w.db.HasRequest r ∨ ∃ s, w.db.Asks s r := by
  cases i with
  | request call => exact asks_serve D w call.latencyMs call.request
  | cleanup now =>
      have hcleanup := Db.SessionStatement.update _ _ (cleanupExpiredSessions_eq w.db now)
      exact fun r hr => .inl (noNewRequest_session hcleanup r hr)

/-- **A step of the run made the request**, in a session that was stored at the time, for the
booking of the session, and the stay of the session goes back to the start. -/
def MadeInStay (D : Deployment) (w : World) (is : List (ServiceStep py)) (r : ServiceRequest) :
    Prop :=
  ∃ before i after, is = before ++ i :: after
    ∧ ∃ made ∈ (serviceStep D (run (serviceStep D) w before) i).db.serviceRequests,
      made.id = r.id ∧ made.guestId = r.guestId ∧ made.voiceSessionId = r.voiceSessionId
        ∧ ∃ s, (run (serviceStep D) w before).db.Asks s made ∧ w.db.HasStay s made.bookingId

theorem MadeInStay.append {D : Deployment} {w : World} {is : List (ServiceStep py)}
    {r r' : ServiceRequest} (h : MadeInStay D w is r) (hid : r.id = r'.id)
    (hguest : r.guestId = r'.guestId) (hsession : r.voiceSessionId = r'.voiceSessionId)
    (js : List (ServiceStep py)) : MadeInStay D w (is ++ js) r' := by
  obtain ⟨before, i, after, rfl, made, hmade, hid₀, hguest₀, hsession₀, hasked⟩ := h
  have hsplit : before ++ i :: after ++ js = before ++ i :: (after ++ js) := List.append_assoc _ _ _
  exact ⟨before, i, after ++ js, hsplit, made, hmade, hid₀.trans hid, hguest₀.trans hguest,
    hsession₀.trans hsession, hasked⟩

theorem requests_run (D : Deployment) (w : World) (is : List (ServiceStep py)) :
    ∀ r ∈ (run (serviceStep D) w is).db.serviceRequests,
      w.db.HasRequest r ∨ MadeInStay D w is r := by
  -- from the last step back to the one that made the request
  induction is using List.reverseRecOn with
  | nil => exact fun r hr => .inl ⟨r, hr, rfl, rfl, rfl⟩
  | append_singleton is i ih =>
      intro r hr
      rw [run_append] at hr
      rcases asks_serviceStep D _ i r hr with ⟨r₁, hr₁, hid, hguest, hsession⟩ | ⟨s, hasks⟩
      · rcases ih r₁ hr₁ with ⟨r₀, hr₀, hid₀, hguest₀, hsession₀⟩ | hmade
        · exact .inl ⟨r₀, hr₀, hid₀.trans hid, hguest₀.trans hguest, hsession₀.trans hsession⟩
        · exact .inr (hmade.append hid hguest hsession [i])
      · exact .inr ⟨is, i, [], rfl, r, hr, rfl, rfl, rfl, s, hasks,
          (origin_run D w is).sessions s hasks.mem _ hasks.stay⟩

/-- **Stays come from a check-in** that was there before, in every run: no request and no
clean-up confirms, checks in, checks out or cancels a booking, and what only a checked-in
guest may have traces back to one. -/
theorem stays_come_from_check_in (D : Deployment) (w : World) (is : List (ServiceStep py)) :
    w.db.Origin (run (serviceStep D) w is).db
      ∧ ∀ r ∈ (run (serviceStep D) w is).db.serviceRequests,
        w.db.HasRequest r ∨ MadeInStay D w is r :=
  ⟨origin_run D w is, requests_run D w is⟩

end HotelAgent
