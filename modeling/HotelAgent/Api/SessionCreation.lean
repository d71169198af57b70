/-
  HotelAgent.Api.SessionCreation — the answers of POST /voice/sessions/.

  `create` takes `booking_id` as it stands in the body.  A value that counts as
  false is no id; another one goes to the lookup of the booking, where only a
  `DoesNotExist` is caught:

      a UUID of a stay of the caller       201, and the session has the booking
      another UUID                         400, and nothing is inserted
      no UUID                              a ValidationError: 500

  Which values are UUIDs is the matter of Django's `UUIDField`, a parameter.

  Main result, `answersCleanly_iff`: the answer is 201 with one new session or 400
  with none, if and only if the id is one or counts as false, and the INSERT and
  the event of a session that is opened go through.
-/
import HotelAgent.Api.Frames
import HotelAgent.Api.InHouse
import HotelAgent.Api.KafkaOutage

namespace HotelAgent

open Lib

variable {py : Python}

/-! ## §1. The request. -/

/-- `if booking_id:`, and what the lookup makes of it. -/
def readBookingId (uuidField : Json → Option Uuid) (bookingId : Json) : Option (Option Uuid) :=
  if truthy bookingId then some (uuidField bookingId) else none

/-- POST /voice/sessions/ with this value for `booking_id`; a body without it has `null`. -/
def postSession (py : Python) (D : Deployment) (uuidField : Json → Option Uuid) (w : World)
    (cred : Credentials) (query : Query) (bookingId : Json) (fresh : SessionFresh) :
    World × Answer :=
  (ApiRequest.write cred query
    (.voice (.create (.data (readBookingId uuidField bookingId)) fresh) : WriteRequest py)).serve
      D w []

/-- A session that `create` makes for the user: active, for the booking asked for, or none. -/
structure OpenedFor (uuidField : Json → Option Uuid) (db : Db) (user : User) (bookingId : Json)
    (row : VoiceSession) : Prop where
  guest : row.guestId = user.id
  active : row.status = .active
  none_given : truthy bookingId = false → row.bookingId = none
  given : truthy bookingId = true → ∃ b ∈ db.bookings,
    uuidField bookingId = some b.id ∧ row.bookingId = some b.id ∧ b.guestId = user.id
      ∧ b.status = .checkedIn

/-- 201 and one new session, or 400 and nothing. -/
def AnswersCleanly (uuidField : Json → Option Uuid) (w : World) (user : User) (bookingId : Json)
    (outcome : World × Answer) : Prop :=
  (outcome.2.status = some 201 ∧ ∃ row, OpenedFor uuidField w.db user bookingId row
      ∧ outcome.1.db.voiceSessions.rows = w.db.voiceSessions.rows ++ [row]
      ∧ outcome.1.db.bookings = w.db.bookings)
    ∨ (outcome.2.status = some 400 ∧ outcome.1.db = w.db)

/-! ## §2. The INSERT and the event. -/

section
variable {w : World} {user : User} {booking : Option Booking} (fresh : SessionFresh)

/-- A row of the user refers to what is there: only its key can be in the way. -/
theorem insertSession_isSome_iff (huser : user ∈ w.db.users)
    (hbooking : ∀ b ∈ booking, b ∈ w.db.bookings) :
    (∃ db, w.db.insertSession (newSession user (booking.map (·.id)) fresh) = some db)
      ↔ ∀ s ∈ w.db.voiceSessions, s.id ≠ fresh.id := by
  constructor
  · rintro ⟨db, hins⟩
    exact (Db.insertSession_eq_some hins).2.1
  · intro hnew
    have hok : (newSession user (booking.map (·.id)) fresh).Ok w.db.users w.db.bookings := by
      refine ⟨⟨user, huser, rfl⟩, fun id hid => ?_, ?_⟩
      · obtain ⟨b, hb, hid⟩ := Option.map_eq_some_iff.mp hid
        exact ⟨b, hbooking b hb, hid⟩
      · exact ⟨rfl, Nat.zero_le _, Nat.zero_le _, Nat.zero_le _⟩
    unfold Db.insertSession
    rw [dif_pos hok]
    split
    next hnone =>
      obtain ⟨x, hx, hkey⟩ := Table.insert?_eq_none_iff.mp hnone
      exact absurd hkey (hnew x hx)
    next sessions hins => exact ⟨_, rfl⟩

/-- The event of a new session prints. -/
theorem toJson_started_isSome (hdump : 2 ≤ py.dumpLimit) (stamp : Stamp)
    (sessionId guestId number : Text) :
    ((VoiceSessionEvent.started stamp sessionId guestId number).toJson py).isSome = true := by
  have hdepth : depth (VoiceSessionEvent.started stamp sessionId guestId number).asdict = 2 := rfl
  have hprintable : printable (VoiceSessionEvent.started stamp sessionId guestId number).asdict
      = true := rfl
  unfold KafkaEvent.toJson dumps?
  rw [if_pos ⟨hprintable, hdepth ▸ hdump⟩]
  rfl

/-- `publish` returns, unless the queue of the client is full. -/
theorem returns_started_iff (hdump : 2 ≤ py.dumpLimit) (db : Db) (user : User)
    (booking : Option Booking) :
    ((startedCall db user booking fresh).published py).returns = true
      ↔ fresh.produce ≠ .otherException := by
  have hjson := toJson_started_isSome hdump fresh.stamp fresh.id.str user.id.str
    (roomNumber db booking)
  have htopic : topicOf (txt "VOICE_SESSIONS") = some (txt "hotel.voice.sessions") := by decide
  have hfloats : FloatsOkFields py (startedCall db user booking fresh).event.payload := by trivial
  show (publish py fresh.produce (startedCall db user booking fresh).topicKey
    (startedCall db user booking fresh).event none).returns = true ↔ _
  rcases publish_cases (startedCall db user booking fresh).topicKey none fresh.produce htopic
    hfloats (uuid_str_ascii fresh.stamp.eventId) (by simp) with ⟨h, rec, hp⟩ | ⟨h, hp⟩ | ⟨h, hp⟩
  · rw [hp, h.1]
    exact iff_of_true rfl (by decide)
  · rw [hp, h.1]
    exact iff_of_true rfl (by decide)
  · rw [hp]
    rcases h with hother | hnone
    · exact iff_of_false (by decide) fun hne => hne hother
    · exact absurd (hjson.symm.trans (congrArg Option.isSome hnone)) (by decide)

end

/-! ## §3. Opening a session. -/

section
variable {D : Deployment} {uuidField : Json → Option Uuid} {w : World} {user : User}
  {booking : Option Booking} {bookingId : Json} {fresh : SessionFresh}

/-- What a session that is opened needs: a key of its own and room in the queue. -/
def CanOpen (w : World) (fresh : SessionFresh) : Prop :=
  (∀ s ∈ w.db.voiceSessions, s.id ≠ fresh.id) ∧ fresh.produce ≠ .otherException

/-- The INSERT and the event of a creation, and its answer. -/
theorem finishOpen_cases (hdump : 2 ≤ py.dumpLimit) (huser : user ∈ w.db.users)
    (hbooking : ∀ b ∈ booking, b ∈ w.db.bookings) :
    (CanOpen w fresh ∧ (finishOpen py w user booking fresh).2
          = .started (newSession user (booking.map (·.id)) fresh)
        ∧ (finishOpen py w user booking fresh).1.db.voiceSessions.rows
          = w.db.voiceSessions.rows ++ [newSession user (booking.map (·.id)) fresh]
        ∧ (finishOpen py w user booking fresh).1.db.bookings = w.db.bookings)
      ∨ (¬ CanOpen w fresh ∧ (finishOpen py w user booking fresh).2 = .serverError) := by
  have hins := insertSession_isSome_iff fresh huser hbooking
  unfold finishOpen
  simp only
  cases hrow : w.db.insertSession (newSession user (booking.map (·.id)) fresh) with
  | none =>
      refine .inr ⟨fun h => ?_, rfl⟩
      obtain ⟨db, hsome⟩ := hins.mpr h.1
      rw [hrow] at hsome
      exact absurd hsome (by simp)
  | some db =>
      obtain ⟨_, hnew, hrows, _, _, hbookings, _⟩ := Db.insertSession_eq_some hrow
      have hreturns := returns_started_iff fresh hdump db user booking
      unfold PublishCall.published at hreturns
      simp only
      -- the row stays, whatever becomes of its event
      cases hp : publish py fresh.produce (txt "VOICE_SESSIONS")
        (VoiceSessionEvent.started fresh.stamp (newSession user (booking.map (·.id)) fresh).id.str
          user.id.str (roomNumber db booking)) none with
      | accepted rec =>
          have hroom := hreturns.mp ((congrArg Published.returns hp).trans rfl)
          exact .inl ⟨⟨hnew, hroom⟩, rfl, hrows, hbookings⟩
      | refused =>
          have hroom := hreturns.mp ((congrArg Published.returns hp).trans rfl)
          exact .inl ⟨⟨hnew, hroom⟩, rfl, hrows, hbookings⟩
      | raised =>
          refine .inr ⟨fun h => ?_, rfl⟩
          have hraised : Published.raised.returns = true :=
            (congrArg Published.returns hp).symm.trans (hreturns.mpr h.2)
          exact absurd hraised (by decide)

/-! ## §4. The answers. -/

/-- The id is that of no stay of the user in the house. -/
def NoSuchStay (uuidField : Json → Option Uuid) (db : Db) (user : User) (bookingId : Json) : Prop :=
  truthy bookingId = true
    ∧ ∀ b ∈ db.bookings, ¬ (uuidField bookingId = some b.id ∧ b.guestId = user.id
      ∧ b.status = .checkedIn)

/-- The value counts as false or is a UUID; and where it is not refused, a session can be
opened. -/
def CanAnswer (uuidField : Json → Option Uuid) (w : World) (user : User) (bookingId : Json)
    (fresh : SessionFresh) : Prop :=
  (truthy bookingId = true → (uuidField bookingId).isSome = true)
    ∧ (¬ NoSuchStay uuidField w.db user bookingId → CanOpen w fresh)

theorem checkedInBooking_eq_some {db : Db} {id : Uuid} {b : Booking} :
    checkedInBooking db user id = some b
      ↔ b ∈ db.bookings ∧ id = b.id ∧ b.guestId = user.id ∧ b.status = .checkedIn := by
  unfold checkedInBooking
  constructor
  · intro h
    split at h
    next x hx =>
      obtain ⟨hmem, hid⟩ := Table.find?_eq_some_iff.mp hx
      split at h
      next hown =>
        injection h with h
        subst h
        exact ⟨hmem, hid.symm, hown⟩
      · exact absurd h (by simp)
    · exact absurd h (by simp)
  · rintro ⟨hmem, rfl, hown⟩
    rw [Table.find?_of_mem hmem]
    exact if_pos hown

/-- What the client gets of the two halves. -/
def opened (py : Python) (w : World) (user : User) (booking : Option Booking)
    (fresh : SessionFresh) : World × Answer :=
  ((finishOpen py w user booking fresh).1,
    .response ((finishOpen py w user booking fresh).2.response w.db.users none fun _ => .null))

theorem not_cleanly_of_500 {outcome : World × Answer} (h : outcome.2.status = some 500) :
    ¬ AnswersCleanly uuidField w user bookingId outcome := by
  unfold AnswersCleanly
  rw [h]
  rintro (⟨h, _⟩ | ⟨h, _⟩)
  · exact absurd h (by decide)
  · exact absurd h (by decide)

theorem opened_cleanly_iff (hdump : 2 ≤ py.dumpLimit) (huser : user ∈ w.db.users)
    (hbooking : ∀ b ∈ booking, b ∈ w.db.bookings)
    (hrow : OpenedFor uuidField w.db user bookingId
      (newSession user (booking.map (·.id)) fresh)) :
    AnswersCleanly uuidField w user bookingId (opened py w user booking fresh)
      ↔ CanOpen w fresh := by
  unfold opened
  rcases finishOpen_cases hdump huser hbooking with
    ⟨hopen, hanswer, hrows, hbookings⟩ | ⟨hopen, hanswer⟩
  · rw [hanswer]
    exact iff_of_true (.inl ⟨rfl, _, hrow, hrows, hbookings⟩) hopen
  · rw [hanswer]
    exact iff_of_false (not_cleanly_of_500 rfl) hopen

/-- The request, by what its id is read as. -/
theorem postSession_eq {cred : Credentials} {query : Query}
    (hauth : cred.user w.db = .ok (some user)) :
    postSession py D uuidField w cred query bookingId fresh
      = match readBookingId uuidField bookingId with
        | none => opened py w user none fresh
        | some none => (w, .response .internalError)
        | some (some id) =>
          match checkedInBooking w.db user id with
          | none => (w, .response (.error 400 "Active booking not found."))
          | some b => opened py w user (some b) fresh := by
  have hcaller := Credentials.authenticate_caller hauth
  have hrequire : requireUser w.db cred.caller = .ok user := by
    unfold requireUser
    rw [hcaller]
  unfold postSession
  simp only [ApiRequest.serve, hauth]
  cases readBookingId uuidField bookingId with
  | none =>
      simp only [VoiceWrite.handle, VoiceWrite.answer, Body.read, createSession_eq, readOpen,
        hrequire]
      rfl
  | some key =>
      cases key with
      | none => rfl
      | some id =>
          simp only [VoiceWrite.handle, VoiceWrite.answer, Body.read, createSession_eq, readOpen,
            hrequire, Option.bind_some]
          cases checkedInBooking w.db user id with
          | none => rfl
          | some b => rfl

/-- Who is authenticated is in the database. -/
theorem Credentials.mem_users {db : Db} {cred : Credentials} (h : cred.user db = .ok (some user)) :
    user ∈ db.users := by
  cases cred with
  | absent => exact absurd h (by simp [Credentials.user])
  | rejected body => exact absurd h (by simp [Credentials.user])
  | bearer id =>
      have hcaller : authenticate db (.token id) = some (some user) :=
        Credentials.authenticate_caller h
      exact Table.mem_of_find? (authenticate_token_eq_some.mp hcaller).1

/-- **The session endpoint answers cleanly**, if and only if the value for `booking_id` counts as
false or is a UUID, and a session that is not refused can be opened. -/
theorem answersCleanly_iff {cred : Credentials} {query : Query}
    (hdump : 2 ≤ py.dumpLimit) (hauth : cred.user w.db = .ok (some user)) :
    AnswersCleanly uuidField w user bookingId
        (postSession py D uuidField w cred query bookingId fresh)
      ↔ CanAnswer uuidField w user bookingId fresh := by
  have huser := Credentials.mem_users hauth
  rw [postSession_eq hauth]
  unfold readBookingId CanAnswer
  cases htruthy : truthy bookingId with
  | false =>
      -- no id: a session without a booking
      have hrow : OpenedFor uuidField w.db user bookingId (newSession user none fresh) :=
        ⟨rfl, rfl, fun _ => rfl, fun h => absurd (htruthy.symm.trans h) (by decide)⟩
      have hgiven : ¬ NoSuchStay uuidField w.db user bookingId :=
        fun h => absurd (htruthy.symm.trans h.1) (by decide)
      show AnswersCleanly uuidField w user bookingId (opened py w user none fresh) ↔ _
      rw [opened_cleanly_iff hdump huser (by simp) hrow]
      simp [hgiven]
  | true =>
      simp only [if_true, true_implies]
      cases hid : uuidField bookingId with
      | none =>
          -- no UUID: the exception of the lookup
          exact iff_of_false (not_cleanly_of_500 rfl) fun h => absurd h.1 (by decide)
      | some id =>
          simp only [Option.isSome_some, true_and]
          cases hstay : checkedInBooking w.db user id with
          | none =>
              -- no stay of the user: a 400
              have hnone : NoSuchStay uuidField w.db user bookingId := by
                refine ⟨htruthy, fun b hb h => ?_⟩
                rw [hid, Option.some.injEq] at h
                rw [checkedInBooking_eq_some.mpr ⟨hb, h⟩] at hstay
                exact absurd hstay (by simp)
              exact iff_of_true (.inr ⟨rfl, rfl⟩) fun h => absurd hnone h
          | some b =>
              -- a session for the stay
              obtain ⟨hb, hkey, hguest, hchecked⟩ := checkedInBooking_eq_some.mp hstay
              have hrow : OpenedFor uuidField w.db user bookingId
                  (newSession user (some b.id) fresh) :=
                ⟨rfl, rfl, fun h => absurd (htruthy.symm.trans h) (by decide),
                  fun _ => ⟨b, hb, by rw [hid, hkey], rfl, hguest, hchecked⟩⟩
              have hgiven : ¬ NoSuchStay uuidField w.db user bookingId :=
                fun h => h.2 b hb ⟨by rw [hid, hkey], hguest, hchecked⟩
              show AnswersCleanly uuidField w user bookingId (opened py w user (some b) fresh) ↔ _
              rw [opened_cleanly_iff hdump huser (by simpa using hb) hrow]
              simp [hgiven]

end

/-! ## §5. A front desk. -/

/-- Reads the texts of hex digits and dashes, as `UUIDField` does. -/
def plainUuidField : Json → Option Uuid
  | .str s => if s.all isHexOrDash then uuidOf s else none
  | _ => none

/-- The stay of the demo guest, as a client writes its id. -/
def demoStayId : Json := .str (txt "00000000-0000-0000-0000-000000000014")

/-- A session for the stay of the demo guest. -/
theorem answersCleanly_demoStay :
    AnswersCleanly plainUuidField demoDesk demoGuest demoStayId
      (postSession plainPython plainDeployment plainUuidField demoDesk (.bearer 1) [] demoStayId
        (demoSessionFresh 9)) :=
  (answersCleanly_iff (by decide) (by decide +kernel)).mpr
    ⟨fun _ => by decide +kernel, fun _ => ⟨by decide +kernel, by decide⟩⟩

/-- With `"booking_id": "abc"` the demo guest gets a 500. -/
theorem no_uuid_fails :
    ¬ ∀ (py : Python) (D : Deployment) (uuidField : Json → Option Uuid) (w : World) (user : User)
      (cred : Credentials) (query : Query) (bookingId : Json) (fresh : SessionFresh),
      cred.user w.db = .ok (some user) → CanOpen w fresh →
        AnswersCleanly uuidField w user bookingId
          (postSession py D uuidField w cred query bookingId fresh) := by
  intro h
  have hopen : CanOpen demoDesk (demoSessionFresh 9) := ⟨by decide +kernel, by decide⟩
  have habc := h plainPython plainDeployment plainUuidField demoDesk demoGuest (.bearer 1) []
    (.str (txt "abc")) (demoSessionFresh 9) (by decide +kernel) hopen
  exact not_cleanly_of_500 (by decide +kernel) habc

end HotelAgent
