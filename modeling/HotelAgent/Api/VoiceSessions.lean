/-
  HotelAgent.Api.VoiceSessions — VoiceSessionViewSet and the clean-up task.

  The voice agent is a parameter: a turn gets either a `VoiceAgentResponse` or
  an exception.  As with bookings, a request is cut where it touches the
  database.  A turn

      reads the session and checks that it is ACTIVE       `readTurn`
      calls the agent, which takes seconds
      saves transcript and counters from its OWN copy      `saveTurn`
        (or, after an exception, the status FAILED)        `failTurn`
      creates the service request the reply asks for       `createRequest`

  and only the columns named in `update_fields` are written.
-/
import HotelAgent.Api.Access
import HotelAgent.Lib.Json.Scan

namespace HotelAgent

open Lib

/-! ## §1. Inputs and answers. -/

/-- `VoiceAgentResponse`, without the latency it reports. -/
structure VoiceAgentResponse (py : Python) where
  text : Text
  audioData : Option (List UInt8)
  serviceRequest : Option (PyDict py)
  tokensUsed : Nat
  ttsChars : Nat

/-- How `agent.process_voice_turn` ends. -/
inductive AgentOutcome (py : Python) where
  | replies (r : VoiceAgentResponse py)
  | raises

/-- The body of a turn: JSON or form data, and perhaps an uploaded file. -/
structure TurnRequest where
  text : Option Text
  audio : Option (List UInt8)

/-- The values that a request does not determine. -/
structure SessionFresh where
  /-- `uuid.uuid4()` for the primary key of a new row. -/
  id : Uuid
  now : Instant
  /-- `timezone.now().isoformat()`. -/
  nowTs : Text
  /-- The event published by the view. -/
  stamp : Stamp
  produce : ProduceOutcome
  /-- The event published by the signal. -/
  signalStamp : Stamp
  signalProduce : ProduceOutcome

inductive SessionAnswer where
  | started (s : VoiceSession)
  /-- A turn's text and the service request it created. -/
  | turn (text : Text) (created : Option ServiceRequest)
  | ended (durationSeconds : Nat)
  /-- 400, with `{"error": message}`. -/
  | badRequest (message : Text)
  /-- 400 from the serializer. -/
  | invalidText
  | unauthorized
  | notFound
  /-- 500, with `{"error": "Voice processing failed."}`. -/
  | agentFailed
  | serverError

/-- The HTTP status of an answer. -/
def SessionAnswer.status : SessionAnswer → Nat
  | .started _ => 201
  | .turn _ _ => 200
  | .ended _ => 200
  | .badRequest _ => 400
  | .invalidText => 400
  | .unauthorized => 401
  | .notFound => 404
  | .agentFailed => 500
  | .serverError => 500

/-! ## §2. `get_object`. -/

/-- `IsAuthenticated`. -/
def requireUser (db : Db) (caller : Caller) : Except SessionAnswer User :=
  match authenticate db caller with
  | some (some user) => .ok user
  | _ => .error .unauthorized

/-- The caller's view of the session. -/
def getSession (db : Db) (caller : Caller) (pk : Uuid) :
    Except SessionAnswer (User × VoiceSession) :=
  match requireUser db caller with
  | .error answer => .error answer
  | .ok user =>
    match db.voiceSessions.find? pk with
    | none => .error .notFound
    | some s =>
      -- a guest's queryset holds the guest's own sessions; staff see every session
      if user.role = .guest ∧ s.guestId ≠ user.id then .error .notFound else .ok (user, s)

/-! ## §3. Starting a session. -/

/-- `Booking.objects.get(id=booking_id, guest=request.user, status=CHECKED_IN)`. -/
def checkedInBooking (db : Db) (user : User) (bookingId : Uuid) : Option Booking :=
  match db.bookings.find? bookingId with
  | some b => if b.guestId = user.id ∧ b.status = .checkedIn then some b else none
  | none => none

/-- The row of a new session. -/
def newSession (user : User) (bookingId : Option Uuid) (fresh : SessionFresh) : VoiceSession where
  id := fresh.id
  guestId := user.id
  bookingId := bookingId
  status := .active
  startedAt := fresh.now
  endedAt := none
  durationSeconds := 0
  transcript := []
  intentDetected := []
  tokensUsed := 0
  ttsCharacters := 0
  metadata := .obj []
  serviceRequestsCreated := []

/-- `booking.room.number if booking else "N/A"`. -/
def roomNumber (db : Db) (booking : Option Booking) : Text :=
  match booking.bind (fun b => db.rooms.find? b.roomId) with
  | some r => r.number
  | none => txt "N/A"

/-- POST /voice/sessions/. -/
def createSession (py : Python) (w : World) (caller : Caller) (bookingId : Option Uuid)
    (fresh : SessionFresh) : World × SessionAnswer :=
  match requireUser w.db caller with
  | .error answer => (w, answer)
  | .ok user =>
    let booking := bookingId.bind (checkedInBooking w.db user)
    if bookingId.isSome ∧ booking = none then
      (w, .badRequest (txt "Active booking not found."))
    else
      let row := newSession user (booking.map (·.id)) fresh
      match w.db.insertSession row with
      | none => (w, .serverError)
      | some db =>
        match publish py fresh.produce (txt "VOICE_SESSIONS")
          (VoiceSessionEvent.started fresh.stamp row.id.str user.id.str (roomNumber db booking))
          none with
        -- no transaction: the new row stays although the caller sees an error
        | .raised => ({ w with db := db }, .serverError)
        -- whether the event was accepted is not looked at
        | p => ({ db := db, log := w.log ++ p.records }, .started row)

/-! ## §4. A turn. -/

/-- `serializers.CharField(max_length=2000)`: trimmed, not blank, storable. -/
def validText (t : Text) : Option Text :=
  let s := strip t
  if s = [] ∨ 2000 < s.length ∨ storable s = false then none else some s

/-- `text_input or "[audio input]"`. -/
def userContent (text : Option Text) : Text := text.getD (txt "[audio input]")

/-- A turn up to the agent call: the caller, the loaded session and what the
transcript will say for the user. -/
def readTurn (db : Db) (caller : Caller) (pk : Uuid) (req : TurnRequest) :
    Except SessionAnswer (User × VoiceSession × Text) :=
  match getSession db caller pk with
  | .error answer => .error answer
  | .ok (user, s) =>
    if s.status ≠ .active then .error (.badRequest (txt "Session is not active."))
    else
      match req.text with
      | none =>
        if req.audio = none then .error (.badRequest (txt "Provide 'text' or 'audio' file."))
        else .ok (user, s, userContent none)
      | some t =>
        match validText t with
        | none => .error .invalidText
        | some text => .ok (user, s, userContent (some text))

/-- The two messages that a turn appends. -/
def turnMessages (content reply nowTs : Text) : List Message :=
  [{ role := txt "user", content := content, timestamp := nowTs },
    { role := txt "assistant", content := reply, timestamp := nowTs }]

/-- `save(update_fields=["transcript", "tokens_used", "tts_characters"])` of the
copy `s` after a turn. -/
def SessionWrite.turn (s : VoiceSession) (messages : List Message) (tokensUsed ttsChars : Nat) :
    SessionWrite where
  write := fun row =>
    { row with
      transcript := s.transcript ++ messages
      tokensUsed := s.tokensUsed + tokensUsed
      ttsCharacters := s.ttsCharacters + ttsChars }
  id_eq := fun _ => rfl
  guestId_eq := fun _ => rfl
  bookingId_eq := fun _ => rfl

/-- `save(update_fields=["status"])` with FAILED. -/
def SessionWrite.fail : SessionWrite where
  write := fun row => { row with status := .failed }
  id_eq := fun _ => rfl
  guestId_eq := fun _ => rfl
  bookingId_eq := fun _ => rfl

/-- `session.service_requests_created.add(sr)`. -/
def SessionWrite.addRequest (requestId : Uuid) : SessionWrite where
  write := fun row =>
    { row with serviceRequestsCreated := row.serviceRequestsCreated ++ [requestId] }
  id_eq := fun _ => rfl
  guestId_eq := fun _ => rfl
  bookingId_eq := fun _ => rfl

/-- The save after the agent's reply. -/
def saveTurn {py : Python} (db : Db) (s : VoiceSession) (content : Text)
    (r : VoiceAgentResponse py) (nowTs : Text) : Option Db :=
  db.saveSession s.id (.turn s (turnMessages content r.text nowTs) r.tokensUsed r.ttsChars)

/-- The save after an exception of the agent. -/
def failTurn (db : Db) (s : VoiceSession) : Option Db := db.saveSession s.id .fail

/-- The text a column gets for a JSON value; `None` is refused by `NOT NULL`. -/
def columnText (py : Python) : Json → Option Text
  | .null => none
  | .str s => some s
  | v => some (py.strOf v)

/-- The fields of the service request that a reply asks for. -/
structure RequestDraft where
  bookingId : Uuid
  guest : User
  sessionId : Uuid
  serviceType : Json
  priority : Json
  description : Json

/-- `if result.service_request and session.booking`. -/
def requestDraft {py : Python} (user : User) (s : VoiceSession) (r : VoiceAgentResponse py) :
    Option RequestDraft :=
  match r.serviceRequest, s.bookingId with
  | some dict, some bookingId =>
    -- an empty dictionary is falsy
    if dict.fields = [] then none
    else some
      { bookingId := bookingId
        guest := user
        sessionId := s.id
        serviceType := dictGet dict.fields (txt "service_type") (.str (txt "other"))
        priority := dictGet dict.fields (txt "priority") (.str (txt "normal"))
        description := dictGet dict.fields (txt "description") (.str []) }
  | _, _ => none

/-- The row of the service request, where no column is null. -/
def RequestDraft.row (py : Python) (d : RequestDraft) (fresh : SessionFresh) :
    Option ServiceRequest :=
  match columnText py d.serviceType, columnText py d.priority, columnText py d.description with
  | some serviceType, some priority, some description => some
      { id := fresh.id, bookingId := d.bookingId, guestId := d.guest.id, assignedTo := none,
        serviceType := serviceType, priority := priority, status := .pending,
        description := description, notes := [], scheduledAt := none, completedAt := none,
        rating := none, feedback := [], voiceSessionId := some d.sessionId,
        createdAt := fresh.now }
  | _, _, _ => none

/-- The event of a new service request; it carries the values in memory. -/
def RequestDraft.event (d : RequestDraft) (stamp : Stamp) (fresh : SessionFresh) : KafkaEvent :=
  ServiceRequestEvent.created stamp fresh.id.str d.serviceType d.priority d.guest.id.str

/-- The atomic block: INSERT, signal, relation, event.  An exception rolls the
database back, but not what the Kafka client was given.  The foreign keys, which are checked at the
COMMIT, hold: guest and booking are those of a stored session. -/
def createRequest (py : Python) (w : World) (d : RequestDraft) (fresh : SessionFresh) :
    World × Option ServiceRequest :=
  match d.row py fresh with
  | none => (w, none)
  | some row =>
    match w.db.insertServiceRequest row with
    | none => (w, none)
    | some db =>
      -- the `post_save` signal publishes first, with the guest's id as key
      match publish py fresh.signalProduce (txt "SERVICE_REQUESTS")
        (d.event fresh.signalStamp fresh) (some d.guest.id.str) with
      | .raised => (w, none)
      | p =>
        match db.saveSession d.sessionId (.addRequest row.id) with
        | none => ({ w with log := w.log ++ p.records }, none)
        | some db =>
          -- then the view publishes the same fields once more
          match publish py fresh.produce (txt "SERVICE_REQUESTS") (d.event fresh.stamp fresh)
            none with
          | .raised => ({ w with log := w.log ++ p.records }, none)
          | q => ({ db := db, log := w.log ++ p.records ++ q.records }, some row)

/-- What follows the save of a turn. -/
def finishTurn {py : Python} (w : World) (user : User) (s : VoiceSession)
    (r : VoiceAgentResponse py) (fresh : SessionFresh) : World × SessionAnswer :=
  match requestDraft user s r with
  | none => (w, .turn r.text none)
  | some d =>
    match createRequest py w d fresh with
    | (w, none) => (w, .serverError)
    | (w, some row) => (w, .turn r.text (some row))

/-- POST /voice/sessions/{pk}/turn/. -/
def processTurn {py : Python} (w : World) (caller : Caller) (pk : Uuid) (req : TurnRequest)
    (agent : AgentOutcome py) (fresh : SessionFresh) : World × SessionAnswer :=
  match readTurn w.db caller pk req with
  | .error answer => (w, answer)
  | .ok (user, s, content) =>
    match agent with
    | .raises =>
      -- the status is written whatever the row says by now
      match failTurn w.db s with
      | none => (w, .serverError)
      | some db => ({ w with db := db }, .agentFailed)
    | .replies r =>
      match saveTurn w.db s content r fresh.nowTs with
      | none => (w, .serverError)
      | some db => finishTurn { w with db := db } user s r fresh

/-! ## §5. Ending a session. -/

/-- `(ended_at - started_at).seconds`: the seconds within the last day. -/
def durationSeconds (startedAt endedAt : Instant) : Nat :=
  ((endedAt - startedAt) % (86400 * second) / second).toNat

/-- `save(update_fields=["status", "ended_at", "duration_seconds"])`. -/
def SessionWrite.complete (endedAt : Instant) (duration : Nat) : SessionWrite where
  write := fun row =>
    { row with status := .completed, endedAt := some endedAt, durationSeconds := duration }
  id_eq := fun _ => rfl
  guestId_eq := fun _ => rfl
  bookingId_eq := fun _ => rfl

/-- The end of a session up to its save. -/
def readEnd (db : Db) (caller : Caller) (pk : Uuid) : Except SessionAnswer VoiceSession :=
  match getSession db caller pk with
  | .error answer => .error answer
  | .ok (_, s) =>
    if s.status ≠ .active then .error (.badRequest (txt "Session already ended.")) else .ok s

/-- The save of the copy `s`. -/
def saveEnd (db : Db) (s : VoiceSession) (now : Instant) : Option Db :=
  db.saveSession s.id (.complete now (durationSeconds s.startedAt now))

/-- The event of an ended session. -/
def completedEvent (s : VoiceSession) (fresh : SessionFresh) : KafkaEvent :=
  VoiceSessionEvent.completed fresh.stamp s.id.str (durationSeconds s.startedAt fresh.now)
    s.tokensUsed

/-- The event after the save. -/
def finishEnd (py : Python) (w : World) (s : VoiceSession) (fresh : SessionFresh) :
    World × SessionAnswer :=
  match publish py fresh.produce (txt "VOICE_SESSIONS") (completedEvent s fresh) none with
  | .raised => (w, .serverError)
  | p => ({ w with log := w.log ++ p.records },
      .ended (durationSeconds s.startedAt fresh.now))

/-- POST /voice/sessions/{pk}/end/. -/
def endSession (py : Python) (w : World) (caller : Caller) (pk : Uuid) (fresh : SessionFresh) :
    World × SessionAnswer :=
  match readEnd w.db caller pk with
  | .error answer => (w, answer)
  | .ok s =>
    match saveEnd w.db s fresh.now with
    | none => (w, .serverError)
    | some db => finishEnd py { w with db := db } s fresh

/-- `update(status=TIMEOUT, ended_at=now)`. -/
def SessionWrite.expire (now : Instant) : SessionWrite where
  write := fun row => { row with status := .timeout, endedAt := some now }
  id_eq := fun _ => rfl
  guestId_eq := fun _ => rfl
  bookingId_eq := fun _ => rfl

/-- Whether the session is ACTIVE and older than two hours. -/
def expired (now : Instant) (s : VoiceSession) : Bool :=
  s.status = .active && decide (s.startedAt < now - 2 * 3600 * second)

/-- `cleanup_expired_sessions`: one conditional UPDATE. -/
def cleanupExpiredSessions (db : Db) (now : Instant) : Db :=
  (db.updateSessions (expired now) (.expire now)).getD db

/-! ## §6. What the reading stages yield. -/

theorem getSession_ok {db : Db} {caller : Caller} {pk : Uuid} {user : User} {s : VoiceSession}
    (h : getSession db caller pk = .ok (user, s)) : db.voiceSessions.find? pk = some s := by
  unfold getSession at h
  split at h
  · exact absurd h (by simp)
  split at h
  · exact absurd h (by simp)
  next x hx =>
    split at h
    · exact absurd h (by simp)
    · injection h with h
      injection h with _ h
      rw [← h]
      exact hx

/-- Who sees a session is a stored user. -/
theorem getSession_user {db : Db} {caller : Caller} {pk : Uuid} {user : User} {s : VoiceSession}
    (h : getSession db caller pk = .ok (user, s)) :
    authenticate db caller = some (some user) ∧ user ∈ db.users := by
  unfold getSession at h
  split at h
  · exact absurd h (by simp)
  next user' huser =>
    have heq : user' = user := by
      split at h
      · exact absurd h (by simp)
      · split at h
        · exact absurd h (by simp)
        · injection h with h
          injection h with h _
    subst heq
    unfold requireUser at huser
    split at huser
    next user'' hauth =>
      injection huser with huser
      subst huser
      refine ⟨hauth, ?_⟩
      cases caller with
      | anonymous => exact absurd hauth (by simp [authenticate])
      | token userId =>
          exact Table.mem_of_find? (authenticate_token_eq_some.mp hauth).1
    · exact absurd huser (by simp)

/-- A turn starts from an ACTIVE session that the caller sees. -/
theorem readTurn_seen {db : Db} {caller : Caller} {pk : Uuid} {req : TurnRequest} {user : User}
    {s : VoiceSession} {content : Text} (h : readTurn db caller pk req = .ok (user, s, content)) :
    getSession db caller pk = .ok (user, s) ∧ s.status = .active := by
  unfold readTurn at h
  split at h
  · exact absurd h (by simp)
  next user' s' hget =>
    split at h
    · exact absurd h (by simp)
    next hactive =>
      have hs : user' = user ∧ s' = s := by
        split at h
        · split at h
          · exact absurd h (by simp)
          · injection h with h
            injection h with hu h
            injection h with h _
            exact ⟨hu, h⟩
        · split at h
          · exact absurd h (by simp)
          · injection h with h
            injection h with hu h
            injection h with h _
            exact ⟨hu, h⟩
      obtain ⟨rfl, rfl⟩ := hs
      exact ⟨hget, by simpa using hactive⟩

/-- A turn starts from the stored row, which is ACTIVE. -/
theorem readTurn_ok {db : Db} {caller : Caller} {pk : Uuid} {req : TurnRequest} {user : User}
    {s : VoiceSession} {content : Text} (h : readTurn db caller pk req = .ok (user, s, content)) :
    db.voiceSessions.find? pk = some s ∧ s.status = .active := by
  obtain ⟨hget, hactive⟩ := readTurn_seen h
  exact ⟨getSession_ok hget, hactive⟩

theorem find?_of_readTurn {db : Db} {caller : Caller} {pk : Uuid} {req : TurnRequest}
    {user : User} {s : VoiceSession} {content : Text}
    (h : readTurn db caller pk req = .ok (user, s, content)) :
    db.voiceSessions.find? s.id = some s := by
  obtain ⟨hrow, _⟩ := readTurn_ok h
  rw [Table.key_of_find? hrow]
  exact hrow

/-- The save after an exception is never refused. -/
theorem failTurn_eq_some {db : Db} {caller : Caller} {pk : Uuid} {req : TurnRequest}
    {user : User} {s : VoiceSession} {content : Text}
    (h : readTurn db caller pk req = .ok (user, s, content)) : ∃ db', failTurn db s = some db' := by
  have hrow := find?_of_readTurn h
  -- FAILED is in range wherever the row is
  have hrange : (SessionWrite.fail.write s).InRange :=
    (db.session_ok s (Table.mem_of_find? hrow)).2.2
  exact Option.isSome_iff_exists.mp ((Db.saveSession_isSome_iff hrow).mpr hrange)

/-- A session that the caller does not see is answered with 401 or 404. -/
theorem getSession_error {db : Db} {caller : Caller} {pk : Uuid} {answer : SessionAnswer}
    (h : getSession db caller pk = .error answer) :
    answer = .unauthorized ∨ answer = .notFound := by
  unfold getSession at h
  split at h
  next a ha =>
    injection h with h
    subst h
    unfold requireUser at ha
    split at ha
    · exact absurd ha (by simp)
    · injection ha with ha
      exact .inl ha.symm
  next user huser =>
    split at h
    · injection h with h
      exact .inr h.symm
    · split at h
      · -- another guest's session is outside of the queryset
        injection h with h
        exact .inr h.symm
      · exact absurd h (by simp)

/-- A turn that does not start is answered with an error. -/
theorem readTurn_error {db : Db} {caller : Caller} {pk : Uuid} {req : TurnRequest}
    {answer : SessionAnswer} (h : readTurn db caller pk req = .error answer) :
    400 ≤ answer.status := by
  unfold readTurn at h
  split at h
  next a ha =>
    injection h with h
    rw [← h]
    rcases getSession_error ha with ha | ha
    · rw [ha]
      decide
    · rw [ha]
      decide
  next user s hs =>
    split at h
    · -- the session is not ACTIVE
      injection h with h
      rw [← h]
      exact Nat.le_refl 400
    · split at h
      · split at h
        · -- neither text nor audio
          injection h with h
          rw [← h]
          exact Nat.le_refl 400
        · exact absurd h (by simp)
      · split at h
        · -- the serializer refuses the text
          injection h with h
          rw [← h]
          exact Nat.le_refl 400
        · exact absurd h (by simp)

/-- So does the end of a session. -/
theorem readEnd_seen {db : Db} {caller : Caller} {pk : Uuid} {s : VoiceSession}
    (h : readEnd db caller pk = .ok s) :
    (∃ user, getSession db caller pk = .ok (user, s)) ∧ s.status = .active := by
  unfold readEnd at h
  split at h
  · exact absurd h (by simp)
  next user s' hget =>
    split at h
    · exact absurd h (by simp)
    next hactive =>
      injection h with h
      subst h
      exact ⟨⟨user, hget⟩, by simpa using hactive⟩

theorem readEnd_ok {db : Db} {caller : Caller} {pk : Uuid} {s : VoiceSession}
    (h : readEnd db caller pk = .ok s) :
    db.voiceSessions.find? pk = some s ∧ s.status = .active := by
  obtain ⟨⟨_, hget⟩, hactive⟩ := readEnd_seen h
  exact ⟨getSession_ok hget, hactive⟩

/-- The session an end has read is found in the table under its own id. -/
theorem find?_of_readEnd {db : Db} {caller : Caller} {pk : Uuid} {s : VoiceSession}
    (h : readEnd db caller pk = .ok s) : db.voiceSessions.find? s.id = some s := by
  obtain ⟨hrow, _⟩ := readEnd_ok h
  rw [Table.key_of_find? hrow]
  exact hrow

theorem durationSeconds_le (startedAt endedAt : Instant) :
    durationSeconds startedAt endedAt ≤ maxInteger := by
  unfold durationSeconds maxInteger second
  omega

/-- The clean-up breaks no column's range, so it is never refused. -/
theorem cleanupExpiredSessions_eq (db : Db) (now : Instant) :
    db.updateSessions (expired now) (.expire now) = some (cleanupExpiredSessions db now) := by
  unfold cleanupExpiredSessions
  cases h : db.updateSessions (expired now) (.expire now) with
  | some db' => rfl
  | none =>
      unfold Db.updateSessions at h
      have hrange : ∀ s ∈ db.voiceSessions.rows, expired now s = true →
          ((SessionWrite.expire now).write s).InRange :=
        fun s hs _ => (db.session_ok s hs).2.2
      rw [dif_pos hrange] at h
      exact absurd h (by simp)

end HotelAgent
