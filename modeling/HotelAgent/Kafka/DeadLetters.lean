/-
  HotelAgent.Kafka.DeadLetters — what a dead letter says, and where it goes.

  `_send_to_dlq` puts the failed message into an event and publishes it under the
  topic key `AUDIT_LOG`.  `setup_kafka_topics` makes a topic `t.dlq` for every
  topic `t`; nothing is ever sent there.

  Main results:

      deadLetter_misrouted    — no dead letter is in the `.dlq` topic of its message
      deadLetter_roundTrip    — what it says of the message is exact all the same:
                                topic, partition, offset, and the bytes
-/
import HotelAgent.Kafka.Handlers
import HotelAgent.Kafka.Retries
import HotelAgent.Lib.Utf8

namespace HotelAgent

open Lib

variable {H : Type}

/-! ## §1. The event and its topic. -/

/-- `_send_to_dlq`: the event.  Only a value that was decoded gets here. -/
def dlqEvent (stamp : Stamp) (originalMsg : KafkaMessage) (error : Text) : KafkaEvent :=
  .make stamp (txt "dlq.failed")
    [(txt "original_topic", .str originalMsg.topic),
      (txt "original_partition", .int originalMsg.partition),
      (txt "original_offset", .int originalMsg.offset), (txt "error", .str error),
      (txt "original_value", .str (decodeUtf8Replace (originalMsg.value.getD [])))]

/-- `_send_to_dlq`: the publish. -/
def sendToDlq (py : Python) (stamp : Stamp) (produce : ProduceOutcome)
    (originalMsg : KafkaMessage) (error : Text) : Published :=
  publish py produce (txt "AUDIT_LOG") (dlqEvent stamp originalMsg error) none

/-- `f"{t}.dlq"`. -/
def dlqTopic (topic : Text) : Text := topic ++ txt ".dlq"

/-- The topics of `setup_kafka_topics`. -/
def setupKafkaTopics : List Text :=
  kafkaTopics.map (·.2) ++ kafkaTopics.map fun t => dlqTopic t.2

/-- The payload that a reader of the record finds. -/
def readPayload (py : Python) (value : List UInt8) : Option (List (Text × Json)) :=
  match decodeUtf8 value with
  | none => none
  | some text =>
    match loads py text with
    | .ok (.obj event) => payloadOf event
    | _ => none

/-- The payload tells where the message was and gives its bytes back. -/
structure TellsMessage (msg : KafkaMessage) (payload : List (Text × Json)) : Prop where
  topic : dictGet? payload (txt "original_topic") = some (.str msg.topic)
  partition : dictGet? payload (txt "original_partition") = some (.int msg.partition)
  offset : dictGet? payload (txt "original_offset") = some (.int msg.offset)
  value : ∃ v, dictGet? payload (txt "original_value") = some (.str v) ∧ encodeUtf8 v = msg.value

/-- **A dead letter that can be replayed**: a record in the topic that was made for dead letters
of the message's topic, from which the message is read back. -/
def Replayable (py : Python) (msg : KafkaMessage) (published : Published) : Prop :=
  ∃ rec, published = .accepted rec ∧ rec.topic = dlqTopic msg.topic ∧ rec.topic ∈ setupKafkaTopics
    ∧ ∃ payload, readPayload py rec.value = some payload ∧ TellsMessage msg payload

/-! ## §2. Where it goes. -/

/-- Every dead letter goes to `hotel.audit.log`. -/
theorem topic_sendToDlq {py : Python} {stamp : Stamp} {produce : ProduceOutcome}
    {msg : KafkaMessage} {error : Text} {rec : Record}
    (h : sendToDlq py stamp produce msg error = .accepted rec) :
    rec.topic = txt "hotel.audit.log" := by
  have htopic := (publish_accepted h).1
  have haudit : topicOf (txt "AUDIT_LOG") = some (txt "hotel.audit.log") := by decide
  rw [haudit] at htopic
  injection htopic with htopic
  exact htopic.symm

/-- No topic for dead letters has that name. -/
theorem dlqTopic_ne (topic : Text) : dlqTopic topic ≠ txt "hotel.audit.log" := by
  intro h
  -- the two names end differently
  have hlast := congrArg List.getLast? h
  have hdlq : (txt ".dlq").getLast? = some (codePoint 'q') := by decide
  have haudit : (txt "hotel.audit.log").getLast? = some (codePoint 'g') := by decide
  unfold dlqTopic at hlast
  rw [List.getLast?_append, hdlq, haudit, Option.some_or] at hlast
  exact absurd hlast (by decide)

/-! ## §3. What it says. -/

/-- A message that left a dead letter was decoded. -/
theorem decodes_of_dlq {py : Python} {reg : Registry H} {env : Env} {msg : KafkaMessage}
    {pos : Nat} {error : Text} {result : DlqResult}
    (h : .dlq pos error result ∈ (processMessage py reg env msg).1) :
    ∃ bytes text, msg.value = some bytes ∧ decodeUtf8 bytes = some text := by
  cases hl : lookup py reg msg.value with
  | uncaught =>
      rw [processMessage_of_uncaught hl] at h
      exact absurd h List.not_mem_nil
  | malformed =>
      rw [processMessage_of_malformed hl] at h
      exact absurd (List.mem_singleton.mp h) (by simp)
  | found data hs =>
      unfold lookup at hl
      cases hvalue : msg.value with
      | none =>
          rw [hvalue] at hl
          exact absurd hl (by simp)
      | some bytes =>
          rw [hvalue] at hl
          simp only at hl
          cases hdecode : decodeUtf8 bytes with
          | none =>
              rw [hdecode] at hl
              exact absurd hl (by simp)
          | some text => exact ⟨bytes, text, rfl, hdecode⟩

/-- Decoded text is read back as it was. -/
theorem rejoin_decoded {bytes : List UInt8} {text : Text} (h : decodeUtf8 bytes = some text) :
    rejoin text = text := by
  refine rejoin_of_not_low fun c hc => ?_
  have hs := isSurrogate_of_encodes (encodeUtf8_decodeUtf8 h) c hc
  unfold isSurrogate at hs
  unfold isLow
  rw [Bool.and_eq_false_iff, decide_eq_false_iff_not, decide_eq_false_iff_not] at hs ⊢
  omega

/-- **The payload of a printed event** is read back field by field. -/
theorem readPayload_printed {py : Python} {rec : Record} (h : Printed py rec) :
    readPayload py rec.value = some (rereadFields [] rec.event.payload) := by
  obtain ⟨text, hdecode, hloads⟩ := loads_printed h
  have hkeys : dictGet rec.event.readBack (txt "payload") (.obj [])
      = .obj (rereadFields [] rec.event.payload) := by
    have hid : txt "event_id" ≠ txt "payload" := by decide
    have htype : txt "event_type" ≠ txt "payload" := by decide
    have htime : txt "timestamp" ≠ txt "payload" := by decide
    simp [dictGet, dictGet?, KafkaEvent.readBack, hid, htype, htime]
  unfold readPayload
  simp only [hdecode, hloads]
  unfold payloadOf
  rw [hkeys]

/-- The fields of a dead letter, as a reader of the record finds them. -/
theorem reread_dlqPayload (stamp : Stamp) (msg : KafkaMessage) (error : Text) :
    rereadFields [] (dlqEvent stamp msg error).payload
      = [(txt "original_topic", .str (rejoin msg.topic)),
        (txt "original_partition", .int msg.partition), (txt "original_offset", .int msg.offset),
        (txt "error", .str (rejoin error)),
        (txt "original_value", .str (rejoin (decodeUtf8Replace (msg.value.getD []))))] := by
  have hkeys : ∀ (a b c d e : Json),
      rereadFields [] [(txt "original_topic", a), (txt "original_partition", b),
          (txt "original_offset", c), (txt "error", d), (txt "original_value", e)]
        = [(txt "original_topic", reread a), (txt "original_partition", reread b),
          (txt "original_offset", reread c), (txt "error", reread d),
          (txt "original_value", reread e)] := by
    intro a b c d e
    refine rereadFields_distinct _ [] ?_ ?_
    · simp only [List.forall_mem_cons]
      exact ⟨ascii_of_all (by decide), ascii_of_all (by decide), ascii_of_all (by decide),
        ascii_of_all (by decide), ascii_of_all (by decide), fun _ h => absurd h (by simp)⟩
    · simp only [List.nil_append, List.map_cons, List.map_nil]
      decide
  unfold dlqEvent KafkaEvent.make
  show rereadFields [] _ = _
  rw [hkeys]
  rfl

/-- **The round trip.**  The record of a message with a failed handler tells where the message
was and gives its bytes back. -/
theorem deadLetter_roundTrip {py : Python} {reg : Registry H} {env : Env} {msg : KafkaMessage}
    {pos : Nat} {error : Text} {result : DlqResult}
    (hdlq : .dlq pos error result ∈ (processMessage py reg env msg).1)
    (htopic : Ascii msg.topic) {stamp : Stamp} {produce : ProduceOutcome} {rec : Record}
    (h : sendToDlq py stamp produce msg error = .accepted rec) :
    ∃ payload, readPayload py rec.value = some payload ∧ TellsMessage msg payload := by
  obtain ⟨bytes, text, hvalue, hdecode⟩ := decodes_of_dlq hdlq
  have hfloats : FloatsOkFields py (dlqEvent stamp msg error).payload :=
    ⟨trivial, trivial, trivial, trivial, trivial, trivial⟩
  obtain ⟨hprinted, hevent, _⟩ := printed_of_publish hfloats h
  have hread := readPayload_printed hprinted
  rw [hevent, reread_dlqPayload, hvalue, Option.getD_some,
    decodeUtf8Replace_of_decodeUtf8 hdecode, rejoin_decoded hdecode, rejoin_ascii htopic] at hread
  refine ⟨_, hread, ?_, ?_, ?_, text, ?_, ?_⟩
  · rfl
  · rfl
  · rfl
  · rfl
  · rw [hvalue]
    exact encodeUtf8_decodeUtf8 hdecode

/-- **No dead letter can be replayed** from the topic that was made for it. -/
theorem deadLetter_misrouted (py : Python) (stamp : Stamp) (produce : ProduceOutcome)
    (msg : KafkaMessage) (error : Text) :
    ¬ Replayable py msg (sendToDlq py stamp produce msg error) := by
  intro h
  obtain ⟨rec, hsent, htopic, _⟩ := h
  rw [topic_sendToDlq hsent] at htopic
  exact dlqTopic_ne msg.topic htopic.symm

/-- The dead letter of a message in `hotel.notifications`. -/
theorem notification_not_in_dlq_topic :
    ¬ ∀ (py : Python) (reg : Registry Bool) (env : Env) (msg : KafkaMessage) (pos : Nat)
      (error : Text) (result : DlqResult) (stamp : Stamp) (produce : ProduceOutcome),
      .dlq pos error result ∈ (processMessage py reg env msg).1 →
        Replayable py msg (sendToDlq py stamp produce msg error) := by
  intro h
  have hdlq : .dlq 1 (txt "boom2") .accepted
      ∈ (processMessage plainPython [(txt "t", [true, false])] (flakyEnv .accepted)
        oneEventMessage).1 :=
    -- after five effects of the first handler and five of the second
    List.mem_of_getElem? (i := 10) rfl
  obtain ⟨rec, hsent, htopic, _⟩ :=
    h plainPython _ _ _ 1 (txt "boom2") .accepted ⟨0, txt "now"⟩ .accepted hdlq
  rw [topic_sendToDlq hsent] at htopic
  exact absurd htopic (by decide)

end HotelAgent
