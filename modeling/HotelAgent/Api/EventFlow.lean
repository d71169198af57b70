/-
  HotelAgent.Api.EventFlow — from the API to the Kafka handlers.

  Session creations, turns, session ends and booking creations run against one
  database; what they publish is consumed later, in any order.  Events carry the
  `event_type` of their class, and the registry knows other names:

      published by the API       registered
      service.request            service.request.created
      voice.session              voice.session.completed
      booking.created            audit.log

  so none of them has a handler.

  Main result, `eventsReach_iff_silent`: all created, completed and audit events
  of a run reach their handlers if and only if the run publishes none.
-/
import HotelAgent.Api.VoiceSessions
import HotelAgent.Api.Bookings
import HotelAgent.Kafka.Handlers
import HotelAgent.Lib.Run

namespace HotelAgent

open Lib

variable {py : Python}

/-! ## §1. Runs of API calls. -/

inductive ApiCall (py : Python) where
  | createSession (caller : Caller) (bookingId : Option Uuid) (fresh : SessionFresh)
  | processTurn (caller : Caller) (pk : Uuid) (req : TurnRequest) (agent : AgentOutcome py)
      (fresh : SessionFresh)
  | endSession (caller : Caller) (pk : Uuid) (fresh : SessionFresh)
  | createBooking (caller : Caller) (body : BookingBody) (fresh : Fresh)

def apiStep (w : World) : ApiCall py → World
  | .createSession caller bookingId fresh => (createSession py w caller bookingId fresh).1
  | .processTurn caller pk req agent fresh => (processTurn w caller pk req agent fresh).1
  | .endSession caller pk fresh => (endSession py w caller pk fresh).1
  | .createBooking caller body fresh => (createBooking py w caller body fresh).1

/-! ## §2. Events that somebody waits for. -/

/-- A `ServiceRequestEvent.created` for the request. -/
def Record.Created (rec : Record) (requestId : Text) : Prop :=
  ∃ stamp serviceType priority guestId,
    rec.event = ServiceRequestEvent.created stamp requestId serviceType priority guestId

/-- A `VoiceSessionEvent.completed` for the session. -/
def Record.Completed (rec : Record) (sessionId : Text) : Prop :=
  ∃ stamp durationS tokens, rec.event = VoiceSessionEvent.completed stamp sessionId durationS tokens

/-- A record of the audit log. -/
def Record.Audit (rec : Record) : Prop := topicOf (txt "AUDIT_LOG") = some rec.topic

def Record.Awaited (rec : Record) : Prop :=
  (∃ requestId, rec.Created requestId) ∨ (∃ sessionId, rec.Completed sessionId) ∨ rec.Audit

/-- What the consumer does for a record when nothing fails. -/
def consumed (py : Python) (dlq : Nat → DlqResult) (partition offset : Nat) (rec : Record) :
    List (Effect Handler) :=
  (processMessage py (registerAllHandlers []) (.unfailing dlq)
    ⟨rec.topic, partition, offset, some rec.value⟩).1

/-- **The record reaches its handler.** -/
structure Reaches (py : Python) (dlq : Nat → DlqResult) (partition offset : Nat)
    (rec : Record) : Prop where
  created : ∀ requestId, rec.Created requestId → ∃ pos event priority,
    .call pos .handleServiceRequestCreated event .returns ∈ consumed py dlq partition offset rec
      ∧ Handler.handleServiceRequestCreated.tasks event
        = some [.notifyStaffOfServiceRequest (.str requestId) priority]
  completed : ∀ sessionId, rec.Completed sessionId → ∃ pos event,
    .call pos .handleVoiceSessionCompleted event .returns ∈ consumed py dlq partition offset rec
      ∧ Handler.handleVoiceSessionCompleted.tasks event
        = some [.processSessionAnalytics (.str sessionId)]
  audit : rec.Audit → ∃ pos event,
    .call pos .handleAuditLog event .returns ∈ consumed py dlq partition offset rec
  /-- It is not committed through the no-handler branch. -/
  heard : rec.Awaited → ∀ event,
    lookup py (registerAllHandlers []) (some rec.value) ≠ .found event []

/-- **All events of the log reach their handlers**, in whatever order they are
consumed. -/
def EventsReach (py : Python) (log : List Record) : Prop :=
  ∀ order : List Record, order.Perm log → ∀ rec ∈ order, ∀ dlq partition offset,
    Reaches py dlq partition offset rec

/-- The event types that the API publishes. -/
def apiEventTypes : List Text :=
  [ServiceRequestEvent.eventType, VoiceSessionEvent.eventType, txt "booking.created"]

/-- What the API publishes. -/
structure FromApi (py : Python) (rec : Record) : Prop where
  printed : Printed py rec
  eventType : rec.event.eventType ∈ apiEventTypes

/-- **No handler is registered for an event type of the API.** -/
theorem get_apiEventType {t : Text} (h : t ∈ apiEventTypes) :
    (registerAllHandlers []).get (rejoin t) = [] := by
  have hascii : rejoin t = t := by
    refine rejoin_ascii (ascii_of_all ?_)
    revert t
    decide
  rw [hascii, get_registerAllHandlers]
  revert t
  decide

/-- **A record of the API reaches its handler only if nobody waits for it.** -/
theorem reaches_iff {rec : Record} (h : FromApi py rec) (dlq : Nat → DlqResult)
    (partition offset : Nat) :
    Reaches py dlq partition offset rec ↔ ¬ rec.Awaited := by
  have hnone := get_apiEventType h.eventType
  constructor
  · -- the lookup finds the event and no handler for it
    intro hr haw
    refine hr.heard haw rec.event.readBack ?_
    rw [lookup_printed h.printed, hnone]
  · intro haw
    exact
      { created := fun id hid => absurd (.inl ⟨id, hid⟩) haw
        completed := fun id hid => absurd (.inr (.inl ⟨id, hid⟩)) haw
        audit := fun ha => absurd (.inr (.inr ha)) haw
        heard := fun h => absurd h haw }

theorem eventsReach_iff {log : List Record} (h : ∀ rec ∈ log, FromApi py rec) :
    EventsReach py log ↔ ∀ rec ∈ log, ¬ rec.Awaited := by
  constructor
  · intro hall rec hrec
    exact (reaches_iff (h rec hrec) (fun _ => .accepted) 0 0).mp
      (hall log (List.Perm.refl log) rec hrec _ _ _)
  · intro hall order hperm rec hrec dlq partition offset
    have hmem := hperm.mem_iff.mp hrec
    exact (reaches_iff (h rec hmem) dlq partition offset).mpr (hall rec hmem)

/-! ## §3. What a call publishes. -/

/-- The service request that a turn inserts. -/
def turnRequest (db : Db) (caller : Caller) (pk : Uuid) (req : TurnRequest)
    (r : VoiceAgentResponse py) (fresh : SessionFresh) : Option RequestDraft :=
  match readTurn db caller pk req with
  | .error _ => none
  | .ok (user, s, content) =>
    match saveTurn db s content r fresh.nowTs, requestDraft user s r with
    | some db, some d =>
      match d.row py fresh with
      | none => none
      | some row => if (db.insertServiceRequest row).isSome then some d else none
    | _, _ => none

/-- The booking that a POST inserts. -/
def createdBooking (db : Db) (caller : Caller) (body : BookingBody) (fresh : Fresh) :
    Option Booking :=
  match readCreate db caller body with
  | .error _ => none
  | .ok draft =>
    if (db.insertBooking (draft.row fresh)).isSome then some (draft.row fresh) else none

/-- The signal's event of a new service request is handed over, or it is refused
without an exception and the view's is handed over. -/
def RequestHanded (py : Python) (d : RequestDraft) (fresh : SessionFresh) : Prop :=
  Handed py fresh.signalProduce (d.event fresh.signalStamp fresh)
    ∨ (fresh.signalProduce = .kafkaException ∧ Handed py fresh.produce (d.event fresh.stamp fresh))

/-- The call inserts a service request, ends a session or inserts a booking, and
the Kafka client accepts its event. -/
def ApiCall.publishes (w : World) : ApiCall py → Prop
  | .createSession _ _ _ => False
  | .processTurn _ _ _ .raises _ => False
  | .processTurn caller pk req (.replies r) fresh =>
    ∃ d, turnRequest w.db caller pk req r fresh = some d ∧ RequestHanded py d fresh
  | .endSession caller pk fresh =>
    ∃ s, readEnd w.db caller pk = .ok s ∧ Handed py fresh.produce (completedEvent s fresh)
  | .createBooking caller body fresh =>
    ∃ b, createdBooking w.db caller body fresh = some b
      ∧ Handed py fresh.produce (bookingCreatedEvent fresh.stamp b)

/-! ## §4. The log after a call. -/

/-- The log grows by records of the API; somebody waits for one of them exactly
when `P` holds. -/
def LogGrows (py : Python) (before after : List Record) (P : Prop) : Prop :=
  ∃ rs, after = before ++ rs ∧ (∀ rec ∈ rs, FromApi py rec) ∧ ((∃ rec ∈ rs, rec.Awaited) ↔ P)

theorem logGrows_nil {log : List Record} {P : Prop} (hP : ¬ P) : LogGrows py log log P :=
  ⟨[], (List.append_nil log).symm, fun _ h => absurd h (by simp), by simpa using hP⟩

/-- What the events of the API have in common. -/
structure ApiEvent (py : Python) (event : KafkaEvent) : Prop where
  floats : FloatsOkFields py event.payload
  eventId : Ascii event.eventId
  eventType : event.eventType ∈ apiEventTypes

theorem apiEvent_started (py : Python) (stamp : Stamp) (sessionId guestId roomNumber : Text) :
    ApiEvent py (VoiceSessionEvent.started stamp sessionId guestId roomNumber) where
  floats := ⟨trivial, trivial, trivial, trivial, trivial⟩
  eventId := uuid_str_ascii _
  eventType := List.mem_cons_of_mem _ List.mem_cons_self

theorem apiEvent_completed (py : Python) (stamp : Stamp) (sessionId : Text) (durationS tokens : Nat) :
    ApiEvent py (VoiceSessionEvent.completed stamp sessionId durationS tokens) where
  floats := ⟨trivial, trivial, trivial, trivial, trivial⟩
  eventId := uuid_str_ascii _
  eventType := List.mem_cons_of_mem _ List.mem_cons_self

theorem apiEvent_created {py : Python} (stamp : Stamp) (requestId guestId : Text)
    {serviceType priority : Json} (htype : FloatsOk py serviceType) (hpriority : FloatsOk py priority) :
    ApiEvent py (ServiceRequestEvent.created stamp requestId serviceType priority guestId) where
  floats := ⟨trivial, trivial, htype, hpriority, trivial, trivial⟩
  eventId := uuid_str_ascii _
  eventType := List.mem_cons_self

theorem apiEvent_bookingCreated (py : Python) (stamp : Stamp) (b : Booking) :
    ApiEvent py (bookingCreatedEvent stamp b) where
  floats := ⟨trivial, trivial, trivial, trivial, trivial, trivial⟩
  eventId := uuid_str_ascii _
  eventType := List.mem_cons_of_mem _ (List.mem_cons_of_mem _ List.mem_cons_self)

/-- What one call of `publish` adds, for an event that is awaited exactly when `A`. -/
theorem logGrows_records {event : KafkaEvent} {topic : Text} (h : ApiEvent py event)
    (log : List Record) (produce : ProduceOutcome) (topicKey : Text) (key : Option Text)
    (htopic : topicOf topicKey = some topic) (hkey : ∀ k ∈ key, Ascii k) (A : Prop)
    (haw : ∀ rec : Record, rec.event = event → topicOf topicKey = some rec.topic →
      (rec.Awaited ↔ A)) :
    LogGrows py log (log ++ (publish py produce topicKey event key).records)
      (A ∧ Handed py produce event) := by
  rcases publish_cases topicKey key produce htopic h.floats h.eventId hkey with
    ⟨hhanded, rec, hpub⟩ | ⟨⟨hrefused, _⟩, hpub⟩ | ⟨hraised, hpub⟩
  · obtain ⟨hprinted, hevent, hrectopic⟩ := printed_of_publish h.floats hpub
    have hiff := haw rec hevent hrectopic
    rw [hpub]
    refine ⟨[rec], rfl, fun r hr => ?_, ?_⟩
    · rw [List.mem_singleton.mp hr]
      exact ⟨hprinted, hevent ▸ h.eventType⟩
    · simp only [List.mem_singleton, exists_eq_left, hiff, hhanded, and_true]
  · rw [hpub]
    refine ⟨[], rfl, fun r hr => absurd hr (by simp), iff_of_false (by simp) ?_⟩
    intro h
    rw [h.2.1] at hrefused
    exact absurd hrefused (by simp)
  · rw [hpub]
    refine ⟨[], rfl, fun r hr => absurd hr (by simp), iff_of_false (by simp) ?_⟩
    intro h
    obtain ⟨_, haccepted, hsome⟩ := h
    rcases hraised with hother | hnone
    · rw [haccepted] at hother
      exact absurd hother (by simp)
    · rw [hnone] at hsome
      exact absurd hsome (by simp)

/-- Nobody waits for the start of a session. -/
theorem not_awaited_started {rec : Record} {stamp : Stamp} {sessionId guestId roomNumber : Text}
    (hevent : rec.event = VoiceSessionEvent.started stamp sessionId guestId roomNumber)
    (htopic : topicOf (txt "VOICE_SESSIONS") = some rec.topic) : ¬ rec.Awaited := by
  intro h
  rcases h with ⟨id, st, ty, pr, g, h⟩ | ⟨id, st, d, t, h⟩ | h
  · -- it is of another class
    rw [hevent] at h
    have htype := congrArg KafkaEvent.eventType h
    revert htype
    simp only [VoiceSessionEvent.started, ServiceRequestEvent.created, KafkaEvent.make]
    decide
  · -- it has another action
    rw [hevent] at h
    have hpayload := congrArg KafkaEvent.payload h
    simp only [VoiceSessionEvent.started, VoiceSessionEvent.completed, KafkaEvent.make,
      List.cons.injEq, Prod.mk.injEq, Json.str.injEq] at hpayload
    exact absurd hpayload.1.2 (by decide)
  · -- it is in another topic
    unfold Record.Audit at h
    rw [← htopic] at h
    revert h
    decide

/-- What is raised is not logged. -/
theorem records_of_raised {p : Published} (h : p = .raised) : p.records = [] := by
  rw [h]
  rfl

theorem logGrows_createSession (w : World) (caller : Caller) (bookingId : Option Uuid)
    (fresh : SessionFresh) :
    LogGrows py w.log (createSession py w caller bookingId fresh).1.log False := by
  have hquiet : LogGrows py w.log w.log False := logGrows_nil (fun h => h)
  unfold createSession
  split
  · exact hquiet
  next user huser =>
    simp only
    split
    · exact hquiet
    split
    · exact hquiet
    next db hins =>
      generalize newSession user _ fresh = row
      generalize roomNumber db _ = room
      have hgrows := logGrows_records (apiEvent_started py fresh.stamp row.id.str
        user.id.str room) w.log fresh.produce (txt "VOICE_SESSIONS") none rfl
        (fun _ h => absurd h (by simp)) False
        (fun rec hevent htopic => iff_of_false (not_awaited_started hevent htopic) id)
      rw [false_and] at hgrows
      split
      next hraised => exact hquiet
      next p hp => exact hgrows

/-- An end is never refused by the columns of the session. -/
theorem saveEnd_isSome {db : Db} {caller : Caller} {pk : Uuid} {s : VoiceSession}
    (h : readEnd db caller pk = .ok s) (now : Instant) : (saveEnd db s now).isSome := by
  obtain ⟨hrow, _⟩ := readEnd_ok h
  obtain ⟨hmem, hid⟩ := Table.find?_eq_some_iff.mp hrow
  unfold saveEnd
  rw [hid]
  cases hsave : db.saveSession pk (.complete now (durationSeconds s.startedAt now)) with
  | some db' => rfl
  | none =>
      -- the row is in range already, and a duration is less than a day
      obtain ⟨htranscript, htokens, htts, _⟩ := (db.session_ok s hmem).2.2
      exact absurd ⟨htranscript, htokens, htts, durationSeconds_le s.startedAt now⟩
        (Db.saveSession_eq_none_iff.mp hsave s hrow)

/-- Somebody waits for the end of a session. -/
theorem awaited_completed {rec : Record} {s : VoiceSession} {fresh : SessionFresh}
    (hevent : rec.event = completedEvent s fresh) : rec.Awaited :=
  .inr (.inl ⟨s.id.str, fresh.stamp, _, _, hevent⟩)

theorem log_finishEnd (w : World) (s : VoiceSession) (fresh : SessionFresh) :
    (finishEnd py w s fresh).1.log
      = w.log ++ (publish py fresh.produce (txt "VOICE_SESSIONS") (completedEvent s fresh)
          none).records := by
  unfold finishEnd
  split
  next hraised => rw [records_of_raised hraised, List.append_nil]
  next p hp => rfl

theorem logGrows_endSession (w : World) (caller : Caller) (pk : Uuid) (fresh : SessionFresh) :
    LogGrows py w.log (endSession py w caller pk fresh).1.log
      ((.endSession caller pk fresh : ApiCall py).publishes w) := by
  unfold endSession
  simp only [ApiCall.publishes]
  cases hread : readEnd w.db caller pk with
  | error answer => exact logGrows_nil (by simp)
  | ok s =>
      obtain ⟨db, hdb⟩ := Option.isSome_iff_exists.mp (saveEnd_isSome hread fresh.now)
      have hgrows := logGrows_records (apiEvent_completed py fresh.stamp s.id.str
        (durationSeconds s.startedAt fresh.now) s.tokensUsed) w.log fresh.produce
        (txt "VOICE_SESSIONS") none rfl (fun _ h => absurd h (by simp)) True
        (fun rec hevent _ => iff_of_true (awaited_completed hevent) trivial)
      simp only [hdb, log_finishEnd, Except.ok.injEq, exists_eq_left']
      rw [true_and] at hgrows
      exact hgrows

theorem log_onBookingSave (w : World) (b : Booking) (fresh : Fresh) :
    (onBookingSave py w b true fresh).1.log
      = w.log ++ (publish py fresh.produce (txt "AUDIT_LOG") (bookingCreatedEvent fresh.stamp b)
          none).records := by
  unfold onBookingSave
  simp only [if_true]
  split
  next hraised => rw [records_of_raised hraised, List.append_nil]
  next p hp => rfl

/-- Somebody waits for the audit event of a new booking. -/
theorem logGrows_createBooking (w : World) (caller : Caller) (body : BookingBody)
    (fresh : Fresh) :
    LogGrows py w.log (createBooking py w caller body fresh).1.log
      ((.createBooking caller body fresh : ApiCall py).publishes w) := by
  unfold createBooking
  simp only [ApiCall.publishes, createdBooking]
  cases hread : readCreate w.db caller body with
  | error answer => exact logGrows_nil (by simp)
  | ok draft =>
      simp only
      cases hins : w.db.insertBooking (draft.row fresh) with
      | none => exact logGrows_nil (by simp)
      | some db =>
          have hgrows := logGrows_records (apiEvent_bookingCreated py fresh.stamp
            (draft.row fresh)) w.log fresh.produce (txt "AUDIT_LOG") none rfl
            (fun _ h => absurd h (by simp)) True
            (fun rec _ htopic => iff_of_true (.inr (.inr htopic)) trivial)
          rw [true_and] at hgrows
          simp only [Option.isSome_some, if_true, Option.some.injEq, exists_eq_left']
          rw [log_onBookingSave]
          exact hgrows

/-! ## §5. The service request of a turn. -/

theorem LogGrows.trans {a b c : List Record} {P Q : Prop} (hab : LogGrows py a b P)
    (hbc : LogGrows py b c Q) : LogGrows py a c (P ∨ Q) := by
  obtain ⟨rs, rfl, hrs, hP⟩ := hab
  obtain ⟨qs, rfl, hqs, hQ⟩ := hbc
  refine ⟨rs ++ qs, List.append_assoc _ _ _, fun rec hrec => ?_, ?_⟩
  · rcases List.mem_append.mp hrec with hrec | hrec
    · exact hrs rec hrec
    · exact hqs rec hrec
  · rw [← hP, ← hQ]
    simp only [List.mem_append, or_and_right, exists_or]

theorem LogGrows.congr {a b : List Record} {P Q : Prop} (h : LogGrows py a b P) (hPQ : P ↔ Q) :
    LogGrows py a b Q := by
  obtain ⟨rs, hlog, hrs, hP⟩ := h
  exact ⟨rs, hlog, hrs, hP.trans hPQ⟩

/-- Whether the event prints does not depend on its stamp. -/
theorem toJson_isSome_iff (d : RequestDraft) (stamp stamp' : Stamp) (fresh : SessionFresh) :
    ((d.event stamp fresh).toJson py).isSome ↔ ((d.event stamp' fresh).toJson py).isSome := by
  have hsome : ∀ stamp, ((d.event stamp fresh).toJson py).isSome
      ↔ printable (d.event stamp fresh).asdict = true
        ∧ depth (d.event stamp fresh).asdict ≤ py.dumpLimit := by
    intro stamp
    unfold KafkaEvent.toJson dumps?
    split
    next h => exact iff_of_true rfl h
    next h => exact iff_of_false (by simp) h
  rw [hsome, hsome]
  exact Iff.rfl

/-- A reply's fields are as the interpreter holds them. -/
theorem floatsOk_requestDraft {user : User} {s : VoiceSession} {r : VoiceAgentResponse py}
    {d : RequestDraft} (h : requestDraft user s r = some d) :
    FloatsOk py d.serviceType ∧ FloatsOk py d.priority ∧ d.sessionId = s.id := by
  unfold requestDraft at h
  split at h
  next dict bookingId hdict hbooking =>
    split at h
    · exact absurd h (by simp)
    · injection h with h
      subst h
      exact ⟨floatsOk_dictGet dict.floatsOk trivial, floatsOk_dictGet dict.floatsOk trivial, rfl⟩
  · exact absurd h (by simp)

/-- Somebody waits for the event of a service request. -/
theorem awaited_created {rec : Record} {d : RequestDraft} {stamp : Stamp} {fresh : SessionFresh}
    (hevent : rec.event = d.event stamp fresh) : rec.Awaited :=
  .inl ⟨fresh.id.str, stamp, _, _, _, hevent⟩

/-- Adding to the relation is never refused while the session is there. -/
theorem addRequest_isSome {db : Db} {pk : Uuid} (h : ∃ row, db.voiceSessions.find? pk = some row)
    (requestId : Uuid) : (db.saveSession pk (.addRequest requestId)).isSome := by
  obtain ⟨row, hrow⟩ := h
  cases hsave : db.saveSession pk (.addRequest requestId) with
  | some db' => rfl
  | none =>
      have hrange := (db.session_ok row (Table.mem_of_find? hrow)).2.2
      exact absurd hrange (Db.saveSession_eq_none_iff.mp hsave row hrow)

theorem apiEvent_request {d : RequestDraft}
    (hfloats : FloatsOk py d.serviceType ∧ FloatsOk py d.priority) (stamp : Stamp)
    (fresh : SessionFresh) : ApiEvent py (d.event stamp fresh) :=
  apiEvent_created stamp _ _ hfloats.1 hfloats.2

/-- One of the two calls of `publish` for a service request. -/
theorem logGrows_request {d : RequestDraft}
    (hfloats : FloatsOk py d.serviceType ∧ FloatsOk py d.priority) (stamp : Stamp)
    (fresh : SessionFresh) (log : List Record) (produce : ProduceOutcome) (key : Option Text)
    (hkey : ∀ k ∈ key, Ascii k) :
    LogGrows py log
      (log ++ (publish py produce (txt "SERVICE_REQUESTS") (d.event stamp fresh) key).records)
      (Handed py produce (d.event stamp fresh)) := by
  have hgrows := logGrows_records (apiEvent_request hfloats stamp fresh) log produce
    (txt "SERVICE_REQUESTS") key rfl hkey True
    (fun rec h _ => iff_of_true (awaited_created h) trivial)
  rw [true_and] at hgrows
  exact hgrows

/-- After a refused signal it is the view's event that counts. -/
theorem requestHanded_iff_of_refused {d : RequestDraft} {fresh : SessionFresh}
    (hrefused : fresh.signalProduce = .kafkaException) :
    RequestHanded py d fresh ↔ Handed py fresh.produce (d.event fresh.stamp fresh) := by
  unfold RequestHanded
  constructor
  · intro h
    rcases h with hsignal | ⟨_, hview⟩
    · exact absurd (hrefused.symm.trans hsignal.1) (by simp)
    · exact hview
  · intro h
    exact .inr ⟨hrefused, h⟩

/-- After a signal that raised, the view does not get to publish. -/
theorem not_requestHanded_of_raised {d : RequestDraft} {fresh : SessionFresh}
    (hraised : fresh.signalProduce = .otherException
      ∨ (d.event fresh.signalStamp fresh).toJson py = none) :
    ¬ RequestHanded py d fresh := by
  intro h
  rcases hraised with hother | hnone
  · -- the client raised something that `publish` does not catch
    rcases h with hsignal | hview
    · exact absurd (hother.symm.trans hsignal.1) (by simp)
    · exact absurd (hother.symm.trans hview.1) (by simp)
  · -- `json.dumps` raised, and the view's event has the same fields
    have hsome : ¬ ((d.event fresh.signalStamp fresh).toJson py).isSome := by
      rw [hnone]
      simp
    rcases h with hsignal | hview
    · exact hsome hsignal.2
    · exact hsome ((toJson_isSome_iff d fresh.stamp fresh.signalStamp fresh).mp hview.2.2)

/-- **Creating a service request publishes** what the client accepts of its two
events, whether or not the block is rolled back. -/
theorem logGrows_createRequest (w : World) {d : RequestDraft} (fresh : SessionFresh)
    (hfloats : FloatsOk py d.serviceType ∧ FloatsOk py d.priority)
    (hsession : ∃ row, w.db.voiceSessions.find? d.sessionId = some row) :
    LogGrows py w.log (createRequest py w d fresh).1.log
      ((∃ row, d.row py fresh = some row ∧ (w.db.insertServiceRequest row).isSome)
        ∧ RequestHanded py d fresh) := by
  unfold createRequest
  cases hrow : d.row py fresh with
  | none => exact logGrows_nil (by simp)
  | some row =>
      simp only [Option.some.injEq, exists_eq_left']
      cases hins : w.db.insertServiceRequest row with
      | none => exact logGrows_nil (by simp)
      | some db =>
          have hevent := apiEvent_request hfloats fresh.signalStamp fresh
          have hkey : ∀ k ∈ some d.guest.id.str, Ascii k := fun k hk => by
            injection hk with hk
            rw [← hk]
            exact uuid_str_ascii _
          have hsignal := logGrows_request hfloats fresh.signalStamp fresh w.log
            fresh.signalProduce (some d.guest.id.str) hkey
          have hview := fun log => logGrows_request hfloats fresh.stamp fresh log fresh.produce
            none (fun _ h => absurd h (by simp))
          simp only [Option.isSome_some, true_and]
          rcases publish_cases (txt "SERVICE_REQUESTS") (some d.guest.id.str) fresh.signalProduce
              rfl hevent.floats hevent.eventId hkey with
            ⟨hhanded, rec, hpub⟩ | ⟨hrefused, hpub⟩ | ⟨hraised, hpub⟩
          · -- the signal's record stays, whatever the view's event does
            have htrue : LogGrows py w.log (w.log ++ [rec]) True := by
              rw [hpub] at hsignal
              exact hsignal.congr (iff_of_true hhanded trivial)
            have hmore : ∀ {log : List Record} {P : Prop}, LogGrows py (w.log ++ [rec]) log P →
                LogGrows py w.log log (RequestHanded py d fresh) := fun h =>
              (htrue.trans h).congr (iff_of_true (.inl trivial) (.inl hhanded))
            simp only [hpub, Published.records]
            split
            · exact hmore (logGrows_nil (fun h => h))
            next db' hadd =>
              split
              · exact hmore (logGrows_nil (fun h => h))
              next q hq => exact hmore (hview _)
          · -- only the view's record can follow
            obtain ⟨db', hadd⟩ := Option.isSome_iff_exists.mp (addRequest_isSome
              (by rw [Db.voiceSessions_insertServiceRequest hins]; exact hsession) row.id)
            have hlast := (hview w.log).congr (requestHanded_iff_of_refused hrefused.1).symm
            simp only [hpub, Published.records, List.append_nil, hadd]
            split
            next hraised => rwa [records_of_raised hraised, List.append_nil] at hlast
            next q hq => exact hlast
          · -- the block is rolled back before the view's event
            simp only [hpub]
            exact logGrows_nil (not_requestHanded_of_raised hraised)

/-- `turnRequest` once the turn is stored: the row is built and inserted. -/
theorem insertedRequest_iff {db : Db} {d : RequestDraft} {fresh : SessionFresh}
    (P : RequestDraft → Prop) :
    ((∃ row, d.row py fresh = some row ∧ (db.insertServiceRequest row).isSome) ∧ P d)
      ↔ ∃ d', (match d.row py fresh with
          | none => none
          | some row => if (db.insertServiceRequest row).isSome then some d else none)
            = some d' ∧ P d' := by
  cases d.row py fresh with
  | none => simp
  | some row =>
      by_cases hins : (db.insertServiceRequest row).isSome
      · simp [hins]
      · simp [hins]

theorem logGrows_processTurn (w : World) (caller : Caller) (pk : Uuid) (req : TurnRequest)
    (agent : AgentOutcome py) (fresh : SessionFresh) :
    LogGrows py w.log (processTurn w caller pk req agent fresh).1.log
      ((.processTurn caller pk req agent fresh : ApiCall py).publishes w) := by
  unfold processTurn
  cases agent with
  | raises =>
      have hquiet : LogGrows py w.log w.log
          ((.processTurn caller pk req .raises fresh : ApiCall py).publishes w) :=
        logGrows_nil (fun h => h)
      split
      · exact hquiet
      · simp only
        split
        · exact hquiet
        · exact hquiet
  | replies r =>
      simp only [ApiCall.publishes, turnRequest]
      cases hread : readTurn w.db caller pk req with
      | error answer => exact logGrows_nil (by simp)
      | ok t =>
          obtain ⟨user, s, content⟩ := t
          simp only
          cases hsave : saveTurn w.db s content r fresh.nowTs with
          | none => exact logGrows_nil (by simp)
          | some db =>
              obtain ⟨row, _, _, hsession, _⟩ := Db.saveSession_eq_some hsave
              simp only [finishTurn]
              cases hdraft : requestDraft user s r with
              | none => exact logGrows_nil (by simp)
              | some d =>
                  obtain ⟨htype, hpriority, hid⟩ := floatsOk_requestDraft hdraft
                  have hgrows := logGrows_createRequest { w with db := db } fresh
                    ⟨htype, hpriority⟩ ⟨_, by rw [hid]; exact hsession⟩
                  simp only at hgrows ⊢
                  refine LogGrows.congr ?_
                    (insertedRequest_iff (RequestHanded py · fresh))
                  split
                  next w' heq => rwa [heq] at hgrows
                  next w' row heq => rwa [heq] at hgrows

theorem logGrows_apiStep (w : World) (c : ApiCall py) :
    LogGrows py w.log (apiStep w c).log (c.publishes w) := by
  cases c with
  | createSession caller bookingId fresh => exact logGrows_createSession w caller bookingId fresh
  | processTurn caller pk req agent fresh => exact logGrows_processTurn w caller pk req agent fresh
  | endSession caller pk fresh => exact logGrows_endSession w caller pk fresh
  | createBooking caller body fresh => exact logGrows_createBooking w caller body fresh

/-! ## §6. Runs. -/

/-- All that is logged comes from the API. -/
def LogFromApi (py : Python) (w : World) : Prop := ∀ rec ∈ w.log, FromApi py rec

/-- Nobody waits for anything that is logged. -/
def LogUnawaited (w : World) : Prop := ∀ rec ∈ w.log, ¬ rec.Awaited

theorem logFromApi_step (w : World) (c : ApiCall py) (h : LogFromApi py w) :
    LogFromApi py (apiStep w c) := by
  intro rec hrec
  obtain ⟨rs, hlog, hrs, _⟩ := logGrows_apiStep w c
  rw [hlog] at hrec
  rcases List.mem_append.mp hrec with hrec | hrec
  · exact h rec hrec
  · exact hrs rec hrec

/-- **One call** leaves nobody waiting exactly when it publishes nothing awaited. -/
theorem logUnawaited_step_iff (w : World) (c : ApiCall py) (h : LogUnawaited w) :
    LogUnawaited (apiStep w c) ↔ ¬ c.publishes w := by
  obtain ⟨rs, hlog, _, hiff⟩ := logGrows_apiStep w c
  unfold LogUnawaited
  rw [hlog, ← hiff]
  constructor
  · intro hall hex
    obtain ⟨rec, hrec, haw⟩ := hex
    exact hall rec (List.mem_append_right _ hrec) haw
  · intro hnot rec hrec haw
    rcases List.mem_append.mp hrec with hrec | hrec
    · exact h rec hrec haw
    · exact hnot ⟨rec, hrec, haw⟩

/-- The log only grows. -/
theorem logUnawaited_of_step (w : World) (c : ApiCall py) (h : LogUnawaited (apiStep w c)) :
    LogUnawaited w := by
  obtain ⟨rs, hlog, _⟩ := logGrows_apiStep w c
  intro rec hrec
  refine h rec ?_
  rw [hlog]
  exact List.mem_append_left _ hrec

theorem logFromApi_run (db : Db) (calls : List (ApiCall py)) :
    LogFromApi py (run apiStep ⟨db, []⟩ calls) :=
  (allStates_of_step logFromApi_step (fun _ h => absurd h (by simp)) calls).last

/-- **Events reach their handlers, exactly.**  Every created, completed and audit event
of a run reaches its handler, whatever the order, if and only if no call of the run
publishes one. -/
theorem eventsReach_iff_silent (db : Db) (calls : List (ApiCall py)) :
    EventsReach py (run apiStep ⟨db, []⟩ calls).log
      ↔ AllSteps apiStep (fun w c => ¬ c.publishes w) ⟨db, []⟩ calls := by
  have hstart : LogUnawaited ⟨db, []⟩ := fun _ h => absurd h (by simp)
  rw [eventsReach_iff (logFromApi_run db calls)]
  calc LogUnawaited (run apiStep ⟨db, []⟩ calls)
      ↔ AllStates apiStep LogUnawaited ⟨db, []⟩ calls :=
        (allStates_iff_last logUnawaited_of_step).symm
    _ ↔ AllSteps apiStep (fun w c => ¬ c.publishes w) ⟨db, []⟩ calls :=
        allStates_iff_allSteps (K := fun _ => True) (fun _ _ _ => trivial)
          (fun w c _ h => logUnawaited_step_iff w c h) trivial hstart calls

/-- A POST of the demo guest while Kafka works. -/
def demoBookingCall : ApiCall plainPython :=
  .createBooking (.token 1)
    { BookingBody.empty with
      roomId := some 10, checkIn := some (january 4), checkOut := some (january 6) }
    { demoFresh 7 with produce := .accepted }

/-- A booking is created; its audit event is committed through the no-handler branch. -/
theorem audit_event_has_no_handler :
    ¬ ∀ (py : Python) (db : Db) (calls : List (ApiCall py)),
      EventsReach py (run apiStep ⟨db, []⟩ calls).log := by
  intro h
  have hreach := h plainPython demoHotel.db [demoBookingCall]
  rw [eventsReach_iff (logFromApi_run _ _)] at hreach
  have hnone : ∀ rec ∈ (run apiStep ⟨demoHotel.db, []⟩ [demoBookingCall]).log,
      ¬ topicOf (txt "AUDIT_LOG") = some rec.topic :=
    fun rec hrec haudit => hreach rec hrec (.inr (.inr haudit))
  revert hnone
  decide +kernel

end HotelAgent
