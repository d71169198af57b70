/-
  HotelAgent.Kafka.Events — event schemas and the producer.

  An event is built by one of the class methods of `kafka/producer_consumer.py`
  and published by `KafkaProducerService.publish`, which looks the topic up,
  prints the event as JSON and hands the bytes to the client library.  What the
  client library does is a parameter, `ProduceOutcome`.
-/
import HotelAgent.Core.Models

namespace HotelAgent

open Lib

/-! ## §1. Events. -/

/-- The two fields of an event that default to a fresh value. -/
structure Stamp where
  eventId : Uuid
  /-- `datetime.utcnow().isoformat()`. -/
  timestamp : Text

structure KafkaEvent where
  eventId : Text
  eventType : Text
  timestamp : Text
  payload : List (Text × Json)
  schemaVersion : Text
  source : Text

/-- `KafkaEvent(event_type=..., payload=...)`. -/
def KafkaEvent.make (stamp : Stamp) (eventType : Text) (payload : List (Text × Json)) :
    KafkaEvent where
  eventId := stamp.eventId.str
  eventType := eventType
  timestamp := stamp.timestamp
  payload := payload
  schemaVersion := txt "1.0"
  source := txt "hotel-voice-agent"

/-- `asdict(self)`. -/
def KafkaEvent.asdict (e : KafkaEvent) : Json :=
  .obj [(txt "event_id", .str e.eventId), (txt "event_type", .str e.eventType),
    (txt "timestamp", .str e.timestamp), (txt "payload", .obj e.payload),
    (txt "schema_version", .str e.schemaVersion), (txt "source", .str e.source)]

/-- `to_json`; `none` is an exception. -/
def KafkaEvent.toJson (py : Python) (e : KafkaEvent) : Option Text := dumps? py e.asdict

namespace VoiceSessionEvent

def eventType : Text := txt "voice.session"

def started (stamp : Stamp) (sessionId guestId roomNumber : Text) : KafkaEvent :=
  .make stamp eventType
    [(txt "action", .str (txt "started")), (txt "session_id", .str sessionId),
      (txt "guest_id", .str guestId), (txt "room_number", .str roomNumber)]

def completed (stamp : Stamp) (sessionId : Text) (durationS tokens : Nat) : KafkaEvent :=
  .make stamp eventType
    [(txt "action", .str (txt "completed")), (txt "session_id", .str sessionId),
      (txt "duration_seconds", .int durationS), (txt "tokens_used", .int tokens)]

end VoiceSessionEvent

namespace ServiceRequestEvent

def eventType : Text := txt "service.request"

/-- The type and the priority are whatever the instance holds in memory. -/
def created (stamp : Stamp) (requestId : Text) (serviceType priority : Json)
    (guestId : Text) : KafkaEvent :=
  .make stamp eventType
    [(txt "action", .str (txt "created")), (txt "request_id", .str requestId),
      (txt "service_type", serviceType), (txt "priority", priority),
      (txt "guest_id", .str guestId)]

def statusChanged (stamp : Stamp) (requestId oldStatus newStatus : Text) : KafkaEvent :=
  .make stamp eventType
    [(txt "action", .str (txt "status_changed")), (txt "request_id", .str requestId),
      (txt "old_status", .str oldStatus), (txt "new_status", .str newStatus)]

end ServiceRequestEvent

namespace NotificationEvent

def eventType : Text := txt "notification"

def guestNotification (stamp : Stamp) (guestId channel message : Text)
    (data : List (Text × Json)) : KafkaEvent :=
  .make stamp eventType
    [(txt "guest_id", .str guestId), (txt "channel", .str channel),
      (txt "message", .str message), (txt "data", .obj data)]

end NotificationEvent

/-- The event that `on_booking_save` builds for a new booking. -/
def bookingCreatedEvent (stamp : Stamp) (b : Booking) : KafkaEvent :=
  .make stamp (txt "booking.created")
    [(txt "booking_id", .str b.id.str), (txt "guest_id", .str b.guestId.str),
      (txt "room_id", .str b.roomId.str), (txt "check_in", .str b.checkIn.str),
      (txt "check_out", .str b.checkOut.str)]

/-! ## §2. The producer. -/

/-- `settings.KAFKA_TOPICS`. -/
def kafkaTopics : List (Text × Text) :=
  [(txt "VOICE_SESSIONS", txt "hotel.voice.sessions"),
    (txt "SERVICE_REQUESTS", txt "hotel.service.requests"),
    (txt "NOTIFICATIONS", txt "hotel.notifications"),
    (txt "ANALYTICS", txt "hotel.analytics"),
    (txt "AUDIT_LOG", txt "hotel.audit.log")]

/-- `self._topic_map.get(topic_key)`. -/
def topicOf (topicKey : Text) : Option Text :=
  (kafkaTopics.find? (fun t => t.1 = topicKey)).map (·.2)

/-- A record as it stands in a topic, together with the event it was printed
from. -/
structure Record where
  topic : Text
  key : List UInt8
  value : List UInt8
  event : KafkaEvent

/-- What `Producer.produce` does. -/
inductive ProduceOutcome where
  | accepted
  | kafkaException
  /-- Any other exception, `BufferError` for a full queue among them. -/
  | otherException
  deriving DecidableEq, Repr

/-- What `publish` does: return `True` after handing over a record, return
`False`, or raise. -/
inductive Published where
  | accepted (r : Record)
  | refused
  | raised

/-- `key or event.event_id`. -/
def recordKey (event : KafkaEvent) (key : Option Text) : Text :=
  match key with
  | some (c :: k) => c :: k
  | _ => event.eventId

/-- `KafkaProducerService.publish`. -/
def publish (py : Python) (produce : ProduceOutcome) (topicKey : Text) (event : KafkaEvent)
    (key : Option Text) : Published :=
  match topicOf topicKey with
  | none => .refused
  | some topic =>
    -- printing and encoding come before the client, inside the same `try`
    match (event.toJson py).bind encodeUtf8, encodeUtf8 (recordKey event key) with
    | some value, some key =>
      match produce with
      | .accepted => .accepted { topic := topic, key := key, value := value, event := event }
      | .kafkaException => .refused
      | .otherException => .raised
    -- what they raise is no KafkaException
    | _, _ => .raised

/-- The records that a call of `publish` adds to the log. -/
def Published.records : Published → List Record
  | .accepted r => [r]
  | _ => []

/-- **An accepted record**, field by field. -/
theorem publish_accepted {py : Python} {produce : ProduceOutcome} {topicKey : Text}
    {event : KafkaEvent} {key : Option Text} {rec : Record}
    (h : publish py produce topicKey event key = .accepted rec) :
    topicOf topicKey = some rec.topic ∧ encodeUtf8 (recordKey event key) = some rec.key
      ∧ (event.toJson py).bind encodeUtf8 = some rec.value ∧ rec.event = event := by
  unfold publish at h
  split at h
  · exact absurd h (by simp)
  next topic htopic =>
    split at h
    next value k hvalue hkey =>
      split at h
      · injection h with h
        rw [← h]
        exact ⟨htopic, hkey, hvalue, rfl⟩
      · exact absurd h (by simp)
      · exact absurd h (by simp)
    · exact absurd h (by simp)

end HotelAgent
