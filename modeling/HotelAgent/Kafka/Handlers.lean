/-
  HotelAgent.Kafka.Handlers — the event handlers, and what reaches them.

  A handler is modelled by the work it starts: Celery tasks, a push to a guest,
  a row for the audit log.  Which handler a record reaches is decided by the
  `event_type` that the producer printed into it:

      service.request.created    handle_service_request_created
      voice.session.completed    handle_voice_session_completed
      notification               handle_notification
      audit.log                  handle_audit_log

  Main result, `lookup_printed`: a published record is looked up under the
  `event_type` of its event, and its payload comes back as JSON reads it.
-/
import HotelAgent.Kafka.Consumer
import HotelAgent.Lib.Json.RoundTrip

namespace HotelAgent

open Lib

/-! ## §1. The handlers. -/

inductive Handler where
  | handleServiceRequestCreated
  | handleVoiceSessionCompleted
  | handleNotification
  | handleAuditLog
  deriving DecidableEq, Repr

/-- The work that handlers start. -/
inductive HandlerTask where
  | notifyStaffOfServiceRequest (requestId priority : Json)
  | processSessionAnalytics (sessionId : Json)
  | pushNotificationToGuest (guestId message data : Json)
  | sendNotificationEmail (guestId message : Json)
  | createAuditLog (action resourceType resourceId changes ipAddress : Json)

/-- `event.get("payload", {})`, where it is a `dict`. -/
def payloadOf (event : List (Text × Json)) : Option (List (Text × Json)) :=
  match dictGet event (txt "payload") (.obj []) with
  | .obj payload => some payload
  | _ => none

/-- `handle_notification` on its payload. -/
def notificationTasks (payload : List (Text × Json)) : List HandlerTask :=
  let guestId := dictGet payload (txt "guest_id") .null
  let message := dictGet payload (txt "message") .null
  match dictGet payload (txt "channel") (.str (txt "ws")) with
  | .str channel =>
    if channel = txt "ws" then
      [.pushNotificationToGuest guestId message (dictGet payload (txt "data") (.obj []))]
    else if channel = txt "email" then [.sendNotificationEmail guestId message]
    -- any other channel is passed over
    else []
  | _ => []

/-- What a handler starts for an event; `none` is an `AttributeError`, which
`handle_audit_log` catches. -/
def Handler.tasks (event : List (Text × Json)) : Handler → Option (List HandlerTask)
  | .handleServiceRequestCreated =>
    (payloadOf event).map fun payload =>
      [.notifyStaffOfServiceRequest (dictGet payload (txt "request_id") .null)
        (dictGet payload (txt "priority") .null)]
  | .handleVoiceSessionCompleted =>
    (payloadOf event).map fun payload =>
      [.processSessionAnalytics (dictGet payload (txt "session_id") .null)]
  | .handleNotification => (payloadOf event).map notificationTasks
  | .handleAuditLog =>
    match payloadOf event with
    -- caught and logged, with everything else that the INSERT may raise
    | none => some []
    | some payload => some
        [.createAuditLog (dictGet payload (txt "action") (.str (txt "unknown")))
          (dictGet payload (txt "resource_type") (.str []))
          (dictGet payload (txt "resource_id") (.str []))
          (dictGet payload (txt "changes") (.obj []))
          (dictGet payload (txt "ip_address") .null)]

/-- `register_all_handlers`. -/
def registerAllHandlers (consumer : Registry Handler) : Registry Handler :=
  (((consumer.registerHandler (txt "service.request.created") .handleServiceRequestCreated
    ).registerHandler (txt "voice.session.completed") .handleVoiceSessionCompleted
    ).registerHandler (txt "notification") .handleNotification
    ).registerHandler (txt "audit.log") .handleAuditLog

/-- What `register_all_handlers` adds for an event type. -/
theorem get_registerAllHandlers (consumer : Registry Handler) (t : Text) :
    (registerAllHandlers consumer).get t
      = consumer.get t
        ++ (if t = txt "service.request.created" then [.handleServiceRequestCreated] else [])
        ++ (if t = txt "voice.session.completed" then [.handleVoiceSessionCompleted] else [])
        ++ (if t = txt "notification" then [.handleNotification] else [])
        ++ (if t = txt "audit.log" then [.handleAuditLog] else []) := by
  unfold registerAllHandlers
  simp only [Registry.get_registerHandler]

/-! ## §2. From an event to its record. -/

/-- The record is the event, printed. -/
structure Printed (py : Python) (rec : Record) : Prop where
  floats : FloatsOkFields py rec.event.payload
  value : (rec.event.toJson py).bind encodeUtf8 = some rec.value

/-- The client accepts the event, and it prints. -/
def Handed (py : Python) (produce : ProduceOutcome) (event : KafkaEvent) : Prop :=
  produce = .accepted ∧ (event.toJson py).isSome

theorem floatsOk_asdict {py : Python} {event : KafkaEvent}
    (h : FloatsOkFields py event.payload) : FloatsOk py event.asdict :=
  ⟨trivial, trivial, trivial, h, trivial, trivial, trivial⟩

/-- What prints also encodes. -/
theorem toJson_encodes {py : Python} {event : KafkaEvent} (hf : FloatsOkFields py event.payload)
    {t : Text} (h : event.toJson py = some t) :
    t = dumps event.asdict ∧ ∃ value, encodeUtf8 t = some value
      ∧ decodeUtf8 value = some t := by
  unfold KafkaEvent.toJson dumps? at h
  split at h
  · injection h with h
    obtain ⟨value, henc, hdec⟩ := encode_dumps py (floatsOk_asdict hf)
    rw [← h]
    exact ⟨rfl, value, henc, hdec⟩
  · exact absurd h (by simp)

/-- An accepted record is its event, printed, in the topic of its key. -/
theorem printed_of_publish {py : Python} {produce : ProduceOutcome} {topicKey : Text}
    {event : KafkaEvent} {key : Option Text} {rec : Record}
    (hf : FloatsOkFields py event.payload)
    (h : publish py produce topicKey event key = .accepted rec) :
    Printed py rec ∧ rec.event = event ∧ topicOf topicKey = some rec.topic := by
  obtain ⟨htopic, _, hvalue, rfl⟩ := publish_accepted h
  exact ⟨⟨hf, hvalue⟩, rfl, htopic⟩

/-- `str(uuid)` is ASCII. -/
theorem uuid_str_ascii (u : Uuid) : Ascii u.str := by
  have hhex : Ascii ((List.range 32).map fun i => hexPoint (u.toNat / 16 ^ (31 - i) % 16)) := by
    intro c hc
    obtain ⟨i, _, hi⟩ := List.mem_map.mp hc
    rw [← hi]
    exact hexPoint_ascii _
  have hpart : ∀ a b : Nat, Ascii
      ((((List.range 32).map fun i => hexPoint (u.toNat / 16 ^ (31 - i) % 16)).drop a).take b) :=
    fun a b c hc => hhex c (List.mem_of_mem_drop (List.mem_of_mem_take hc))
  have hdash : Ascii (txt "-") := ascii_of_all (by decide)
  unfold Uuid.str
  simp only
  exact ascii_append (ascii_append (ascii_append (ascii_append (ascii_append (ascii_append
    (ascii_append (ascii_append (hpart 0 8) hdash) (hpart 8 4)) hdash) (hpart 12 4)) hdash)
    (hpart 16 4)) hdash) (fun c hc => hhex c (List.mem_of_mem_drop hc))

/-- **How `publish` ends** for a known topic and an ASCII key. -/
theorem publish_cases {py : Python} {topic : Text} {event : KafkaEvent}
    (topicKey : Text) (key : Option Text) (produce : ProduceOutcome)
    (htopic : topicOf topicKey = some topic) (hf : FloatsOkFields py event.payload)
    (hid : Ascii event.eventId) (hkey : ∀ k ∈ key, Ascii k) :
    (Handed py produce event ∧ ∃ rec, publish py produce topicKey event key = .accepted rec)
      ∨ ((produce = .kafkaException ∧ (event.toJson py).isSome)
        ∧ publish py produce topicKey event key = .refused)
      ∨ ((produce = .otherException ∨ event.toJson py = none)
        ∧ publish py produce topicKey event key = .raised) := by
  obtain ⟨k, hk⟩ : ∃ k, encodeUtf8 (recordKey event key) = some k := by
    refine encodeUtf8_ascii _ ?_
    unfold recordKey
    split
    next c t => exact hkey (c :: t) rfl
    next => exact hid
  unfold publish
  rw [htopic]
  simp only [hk]
  cases ht : event.toJson py with
  | none => exact .inr (.inr ⟨.inr rfl, rfl⟩)
  | some t =>
      obtain ⟨_, value, hvalue, _⟩ := toJson_encodes hf ht
      simp only [Option.bind_some, hvalue]
      cases produce with
      | accepted => exact .inl ⟨⟨rfl, by rw [ht]; rfl⟩, _, rfl⟩
      | kafkaException => exact .inr (.inl ⟨⟨rfl, rfl⟩, rfl⟩)
      | otherException => exact .inr (.inr ⟨.inl rfl, rfl⟩)

/-! ## §3. From a record to its handlers. -/

/-- The object that a consumer reads out of a printed event. -/
def KafkaEvent.readBack (event : KafkaEvent) : List (Text × Json) :=
  [(txt "event_id", .str (rejoin event.eventId)),
    (txt "event_type", .str (rejoin event.eventType)),
    (txt "timestamp", .str (rejoin event.timestamp)),
    (txt "payload", .obj (rereadFields [] event.payload)),
    (txt "schema_version", .str (rejoin event.schemaVersion)),
    (txt "source", .str (rejoin event.source))]

/-- **A printed event is read back field by field.** -/
theorem reread_asdict (event : KafkaEvent) : reread event.asdict = .obj event.readBack := by
  have hkeys : ∀ (a b c d e f : Json),
      rereadFields [] [(txt "event_id", a), (txt "event_type", b), (txt "timestamp", c),
          (txt "payload", d), (txt "schema_version", e), (txt "source", f)]
        = [(txt "event_id", reread a), (txt "event_type", reread b),
          (txt "timestamp", reread c), (txt "payload", reread d),
          (txt "schema_version", reread e), (txt "source", reread f)] := by
    intro a b c d e f
    refine rereadFields_distinct _ [] ?_ ?_
    · simp only [List.forall_mem_cons]
      exact ⟨ascii_of_all (by decide), ascii_of_all (by decide), ascii_of_all (by decide),
        ascii_of_all (by decide), ascii_of_all (by decide), ascii_of_all (by decide),
        fun _ h => absurd h (by simp)⟩
    · simp only [List.nil_append, List.map_cons, List.map_nil]
      decide
  unfold KafkaEvent.asdict
  show Json.obj (rereadFields [] _) = _
  rw [hkeys]
  rfl

theorem eventTypeOf_readBack (event : KafkaEvent) :
    eventTypeOf event.readBack = .str (rejoin event.eventType) := by
  have hne : txt "event_id" ≠ txt "event_type" := by decide
  simp [eventTypeOf, dictGet, dictGet?, KafkaEvent.readBack, hne]

/-- **A published record is read as its event.** -/
theorem loads_printed {py : Python} {rec : Record} (h : Printed py rec) :
    ∃ text, decodeUtf8 rec.value = some text ∧ loads py text = .ok (.obj rec.event.readBack) := by
  obtain ⟨t, ht, henc⟩ := Option.bind_eq_some_iff.mp h.value
  obtain ⟨hdumps, value, hvalue, hdec⟩ := toJson_encodes h.floats ht
  rw [henc] at hvalue
  injection hvalue with hvalue
  subst hvalue
  -- what printed within the limits of `dumps` is within those of `loads`
  have hlimits : printable rec.event.asdict = true ∧ depth rec.event.asdict ≤ py.dumpLimit := by
    unfold KafkaEvent.toJson dumps? at ht
    by_contra hnot
    rw [if_neg hnot] at ht
    exact absurd ht (by simp)
  have hloads := loads_dumps py (floatsOk_asdict h.floats) hlimits.1
    (Nat.le_trans hlimits.2 py.dumpLimit_le)
  rw [reread_asdict, ← hdumps] at hloads
  exact ⟨t, hdec, hloads⟩

/-- **A published record is looked up under the `event_type` of its event.** -/
theorem lookup_printed {py : Python} {rec : Record} (h : Printed py rec)
    (reg : Registry Handler) :
    lookup py reg (some rec.value)
      = .found rec.event.readBack (reg.get (rejoin rec.event.eventType)) := by
  obtain ⟨text, hdec, hloads⟩ := loads_printed h
  unfold lookup
  simp only [hdec, hloads, handlersFor, eventTypeOf_readBack]

/-! ## §4. Consumption without failures. -/

/-- Every handler call returns. -/
def Env.unfailing (dlq : Nat → DlqResult) : Env := ⟨fun _ _ => .returns, dlq⟩

/-- The calls of the handlers from position `pos` on. -/
def handlerCalls (data : List (Text × Json)) : (pos : Nat) → List Handler → List (Effect Handler)
  | _, [] => []
  | pos, h :: hs => .call pos h data .returns :: handlerCalls data (pos + 1) hs

theorem runHandlers_unfailing (dlq : Nat → DlqResult) (data : List (Text × Json)) (pos : Nat)
    (hs : List Handler) :
    runHandlers (.unfailing dlq) data pos hs = (handlerCalls data pos hs, .returned) := by
  induction hs generalizing pos with
  | nil => rfl
  | cons h hs ih =>
      have hfirst : runHandler (.unfailing dlq) pos h data
          = ([.call pos h data .returns], .returned) := rfl
      unfold runHandlers handlerCalls
      simp only [hfirst, ih, List.singleton_append]

/-- **A published record is handed to the handlers of its `event_type`**, and then
committed. -/
theorem processMessage_printed {py : Python} {rec : Record} (h : Printed py rec)
    (reg : Registry Handler) (dlq : Nat → DlqResult) (partition offset : Nat) :
    processMessage py reg (.unfailing dlq) ⟨rec.topic, partition, offset, some rec.value⟩
      = (handlerCalls rec.event.readBack 0 (reg.get (rejoin rec.event.eventType)) ++ [.commit],
          .returned) := by
  unfold processMessage
  simp only [lookup_printed h reg]
  cases reg.get (rejoin rec.event.eventType) with
  | nil => rfl
  | cons h hs => simp only [runHandlers_unfailing]

end HotelAgent
