/-
  HotelAgent.Kafka.Feedback — the consumer and its own dead letters.

  `run_kafka_consumer` subscribes to every topic of `KAFKA_TOPICS`, so also to
  `hotel.audit.log`, where `_send_to_dlq` puts its dead letters: the consumer
  reads what it has written itself.

      elsewhere ─▶ partitions ─▶ poll ─▶ _process_message ─▶ handlers
                       ▲                       │
                       │                       │  given up
                   delivery ◀── queue ◀────────┘

  A dead letter may be late or lost on its way.  It has no handler, so that no
  dead letter is ever about a dead letter.

  Main result, `dead_letters_tell`: what stands in a partition has come from
  elsewhere, or it tells exactly of a message that has, and stands where it says.
-/
import HotelAgent.Kafka.ConsumerLoop
import HotelAgent.Kafka.DeadLetters
import Mathlib.Data.Finset.Basic

namespace HotelAgent

open Lib

/-! ## §1. Partitions, queue and service. -/

/-- The partitions of the topics that the service has subscribed to. -/
structure Subscription where
  partitions : Finset TopicPartition
  /-- The name of a topic has letters, digits, dots, underscores and hyphens. -/
  named : ∀ p ∈ partitions, Ascii p.topic

/-- `list(settings.KAFKA_TOPICS.values())`, with the partitions of `setup_kafka_topics`. -/
def hotelSubscription : Subscription where
  partitions := (kafkaTopics.flatMap fun t => (List.range 3).map fun n => ⟨t.2, n⟩).toFinset
  named := by
    intro p hp
    obtain ⟨t, ht, hp⟩ := List.mem_flatMap.mp (List.mem_toFinset.mp hp)
    obtain ⟨n, _, rfl⟩ := List.mem_map.mp hp
    -- the names are literals of the settings
    have hall : ∀ t ∈ kafkaTopics, t.2.all (fun c => decide (c.val < 0x80)) = true := by decide
    exact ascii_of_all (hall t ht)

/-- How the handlers of a message turn out, and the dead letters for them. -/
structure Outcomes where
  handler : Nat → Nat → HandlerResult
  stamp : Nat → Stamp
  produce : Nat → ProduceOutcome

/-- How a `publish` is told to the loop. -/
def Published.dlqResult : Published → DlqResult
  | .accepted _ => .accepted
  | .refused => .refused
  | .raised => .raises

namespace Outcomes

variable (py : Python) (o : Outcomes) (msg : KafkaMessage)

/-- `self._send_to_dlq(msg, str(e))` for the handler at position `pos`; `e` is from its third
call. -/
def letter (pos : Nat) : Published :=
  sendToDlq py (o.stamp pos) (o.produce pos) msg (o.handler pos 2).error

def env : Env where
  handler := o.handler
  dlq := fun pos => (o.letter py msg pos).dlqResult

/-- The records that effects leave with the producer. -/
def letters (effects : List (Effect Handler)) : List Record :=
  effects.flatMap fun
    | .dlq pos _ _ => (o.letter py msg pos).records
    | _ => []

end Outcomes

/-- What a process that dies after `effects` effects has done. -/
def cutTrace (trace : List (Effect Handler)) (effects : Nat) : List (Effect Handler) :=
  -- a commit is the end of the pass: a process that has got there has not died within it
  (trace.takeWhile fun e => !e.isCommit).take effects

/-- The partitions, and the service that consumes them. -/
structure KafkaSystem where
  values : TopicPartition → List (Option (List UInt8))
  /-- Dead letters that the producer has accepted, and the broker has not got. -/
  queue : List Record
  service : ConsumerService

inductive KafkaStep where
  /-- A record from elsewhere. -/
  | arrive (p : TopicPartition) (value : Option (List UInt8))
  /-- The `k`th record of the queue gets to a partition of its topic. -/
  | deliver (k partition : Nat)
  /-- It does not, or its process has died with it. -/
  | drop (k : Nat)
  | start
  | stop
  /-- `poll` returns nothing, or an error. -/
  | idle
  | interrupt
  /-- `poll` returns the next message of a partition. -/
  | message (p : TopicPartition) (outcomes : Outcomes) (stored : Bool)
  /-- The process dies within a pass. -/
  | die (p : TopicPartition) (outcomes : Outcomes) (effects : Nat)
  | rebalance (p : TopicPartition)

/-- A dead letter does not get to its partition. -/
def KafkaStep.Loses : KafkaStep → Prop
  | .drop _ => True
  | _ => False

namespace KafkaSystem

/-- Empty partitions, and no process. -/
def empty : KafkaSystem := ⟨fun _ => [], [], .fresh⟩

def logs (s : KafkaSystem) (p : TopicPartition) : PartitionLog :=
  ⟨p.topic, p.partition, s.values p⟩

/-- A value at the end of a partition. -/
def append (s : KafkaSystem) (p : TopicPartition) (value : Option (List UInt8)) : KafkaSystem :=
  { s with values := Function.update s.values p (s.values p ++ [value]) }

section
variable (py : Python) (subs : Subscription)

/-- A step of the service alone. -/
def serve (s : KafkaSystem) (i : LoopStep) : KafkaSystem :=
  { s with service := s.service.step py (registerAllHandlers []) s.logs i }

/-- The message that `poll` may return for a partition. -/
def message? (s : KafkaSystem) (p : TopicPartition) : Option KafkaMessage :=
  -- `poll` is called while `self._running`, and only for subscribed topics
  if s.service.inLoop = true ∧ s.service.running = true ∧ p ∈ subs.partitions then
    s.service.next s.logs p
  else none

/-- The pass over a message. -/
def passOf (o : Outcomes) (msg : KafkaMessage) : List (Effect Handler) × ProcessResult :=
  processMessage py (registerAllHandlers []) (o.env py msg) msg

/-- One step. -/
def step (s : KafkaSystem) : KafkaStep → KafkaSystem
  | .arrive p value => s.append p value
  | .deliver k partition =>
    match s.queue[k]? with
    -- nothing stands there
    | none => s
    | some rec =>
      { s.append ⟨rec.topic, partition⟩ (some rec.value) with queue := s.queue.eraseIdx k }
  | .drop k => { s with queue := s.queue.eraseIdx k }
  | .start => s.serve py .start
  | .stop => s.serve py .stop
  | .idle => s.serve py (.poll .nothing)
  | .interrupt => s.serve py (.poll .interrupt)
  | .message p o stored =>
    match s.message? subs p with
    | none => s.serve py (.poll .nothing)
    | some msg =>
      { s.serve py (.poll (.message p (o.env py msg) stored)) with
        queue := s.queue ++ o.letters py msg (passOf py o msg).1 }
  | .die p o effects =>
    match s.message? subs p with
    -- it dies between two passes
    | none => s.serve py (.poll .interrupt)
    | some msg =>
      { s.serve py (.die p (o.env py msg) effects) with
        queue := s.queue ++ o.letters py msg (cutTrace (passOf py o msg).1 effects) }
  | .rebalance p => s.serve py (.rebalance p)

/-! ## §2. Dead letters. -/

/-- A dead letter goes with the error of the third call. -/
theorem dlq_of_mem_turn {env : Env} {data : List (Text × Json)} {pos q : Nat} {h : Handler}
    {error : Text} {result : DlqResult}
    (hmem : .dlq q error result ∈ (runHandler env pos h data).1) :
    error = (env.handler q 2).error := by
  rw [runHandler_eq_turn] at hmem
  unfold Env.turn at hmem
  rcases List.mem_append.mp hmem with hmem | hmem
  · -- sleeps and calls
    obtain ⟨j, _, hj⟩ := List.mem_flatMap.mp hmem
    rcases List.mem_append.mp hj with hj | hj
    · obtain ⟨n, _, hn⟩ := List.mem_map.mp hj
      exact absurd hn (by simp)
    · exact absurd (List.mem_singleton.mp hj) (by simp)
  · split at hmem
    · have heq := List.mem_singleton.mp hmem
      injection heq with hpos herror
      rw [herror, hpos]
    · exact absurd hmem List.not_mem_nil

theorem dlq_of_mem_runHandlers {env : Env} {data : List (Text × Json)} {q : Nat} {error : Text}
    {result : DlqResult} {hs : List Handler} {pos : Nat}
    (hmem : .dlq q error result ∈ (runHandlers env data pos hs).1) :
    hs ≠ [] ∧ error = (env.handler q 2).error := by
  induction hs generalizing pos with
  | nil => exact absurd hmem List.not_mem_nil
  | cons h hs ih =>
      refine ⟨by simp, ?_⟩
      unfold runHandlers at hmem
      simp only at hmem
      -- a handler that raises out of its turn is the last one
      split at hmem
      · exact dlq_of_mem_turn hmem
      · rcases List.mem_append.mp hmem with hmem | hmem
        · exact dlq_of_mem_turn hmem
        · exact (ih hmem).2

/-- A pass leaves dead letters for messages with handlers. -/
theorem dlq_of_mem_pass {reg : Registry Handler} {env : Env} {msg : KafkaMessage} {q : Nat}
    {error : Text} {result : DlqResult}
    (hmem : .dlq q error result ∈ (processMessage py reg env msg).1) :
    (∃ data hs, lookup py reg msg.value = .found data hs ∧ hs ≠ [])
      ∧ error = (env.handler q 2).error := by
  -- without a handler the pass only commits, or raises at once
  cases hl : lookup py reg msg.value with
  | uncaught =>
      rw [processMessage_of_uncaught hl] at hmem
      exact absurd hmem List.not_mem_nil
  | malformed =>
      rw [processMessage_of_malformed hl] at hmem
      exact absurd (List.mem_singleton.mp hmem) (by simp)
  | found data hs =>
      rw [processMessage_of_found hl] at hmem
      have hrun : .dlq q error result ∈ (runHandlers env data 0 hs).1 := by
        split at hmem
        · exact hmem
        · rcases List.mem_append.mp hmem with hmem | hmem
          · exact hmem
          · exact absurd (List.mem_singleton.mp hmem) (by simp)
      obtain ⟨hne, herror⟩ := dlq_of_mem_runHandlers hrun
      exact ⟨⟨data, hs, rfl, hne⟩, herror⟩

/-- **No handler is registered for a dead letter.** -/
theorem lookup_deadLetter {stamp : Stamp} {produce : ProduceOutcome} {msg : KafkaMessage}
    {error : Text} {rec : Record} (h : sendToDlq py stamp produce msg error = .accepted rec) :
    ∃ data, lookup py (registerAllHandlers []) (some rec.value) = .found data [] := by
  have hfloats : FloatsOkFields py (dlqEvent stamp msg error).payload :=
    ⟨trivial, trivial, trivial, trivial, trivial, trivial⟩
  obtain ⟨hprinted, hevent, _⟩ := printed_of_publish hfloats h
  -- `dlq.failed` is no type that handlers are registered for
  have hnone : (registerAllHandlers []).get (rejoin rec.event.eventType) = [] := by
    rw [hevent]
    show (registerAllHandlers []).get (rejoin (txt "dlq.failed")) = []
    rw [rejoin_ascii (ascii_of_all (by decide)), get_registerAllHandlers]
    decide
  refine ⟨rec.event.readBack, ?_⟩
  rw [lookup_printed hprinted, hnone]

/-- A record of the queue is a dead letter of its message. -/
theorem mem_letters {o : Outcomes} {msg : KafkaMessage} {effects : List (Effect Handler)}
    (hsub : ∀ e ∈ effects, e ∈ (passOf py o msg).1) {rec : Record}
    (hrec : rec ∈ o.letters py msg effects) :
    ∃ pos error result, .dlq pos error result ∈ (passOf py o msg).1
      ∧ sendToDlq py (o.stamp pos) (o.produce pos) msg error = .accepted rec := by
  obtain ⟨e, he, hrec⟩ := List.mem_flatMap.mp hrec
  have htrace := hsub e he
  cases e with
  | dlq pos error result =>
      obtain ⟨_, herror⟩ := dlq_of_mem_pass py htrace
      refine ⟨pos, error, result, htrace, ?_⟩
      rw [herror]
      show o.letter py msg pos = .accepted rec
      -- only an accepted one is among the records
      cases hletter : o.letter py msg pos with
      | accepted rec' =>
          simp only [hletter] at hrec
          rw [List.mem_singleton.mp hrec]
      | refused =>
          simp only [hletter] at hrec
          exact absurd hrec List.not_mem_nil
      | raised =>
          simp only [hletter] at hrec
          exact absurd hrec List.not_mem_nil
  | call pos h data result => exact absurd hrec List.not_mem_nil
  | sleep seconds => exact absurd hrec List.not_mem_nil
  | commit => exact absurd hrec List.not_mem_nil

theorem cutTrace_subset (trace : List (Effect Handler)) (effects : Nat) :
    ∀ e ∈ cutTrace trace effects, e ∈ trace :=
  fun _ he => (List.takeWhile_subset _) (List.mem_of_mem_take he)

/-! ## §3. What stands in the partitions. -/

/-- The message stands where it says, and some handler is called for it. -/
structure Stands (s : KafkaSystem) (msg : KafkaMessage) : Prop where
  place : (s.values ⟨msg.topic, msg.partition⟩)[msg.offset]? = some msg.value
  handled : ∃ data hs, lookup py (registerAllHandlers []) msg.value = .found data hs ∧ hs ≠ []

/-- The value is a dead letter: it tells of a message that stands there, and nobody handles it. -/
structure Tells (s : KafkaSystem) (value : List UInt8) (msg : KafkaMessage) : Prop where
  stands : Stands py s msg
  told : ∃ payload, readPayload py value = some payload ∧ TellsMessage msg payload
  unhandled : ∃ data, lookup py (registerAllHandlers []) (some value) = .found data []

/-- A dead letter, in the topic for them. -/
def IsLetter (s : KafkaSystem) (topic : Text) (value : Option (List UInt8)) : Prop :=
  topic = txt "hotel.audit.log" ∧ ∃ bytes msg, value = some bytes ∧ Tells py s bytes msg

/-- **Where everything comes from**: a value has arrived, or is a dead letter; so is whatever is
queued. -/
structure Told (arrived : TopicPartition → Option (List UInt8) → Prop) (s : KafkaSystem) :
    Prop where
  values : ∀ p, ∀ value ∈ s.values p, arrived p value ∨ IsLetter py s p.topic value
  queue : ∀ rec ∈ s.queue, IsLetter py s rec.topic (some rec.value)

/-- Partitions only grow. -/
def Grown (s s' : KafkaSystem) : Prop := ∀ p, s.values p <+: s'.values p

theorem Grown.refl (s : KafkaSystem) : s.Grown s := fun _ => List.prefix_rfl

theorem grown_append (s : KafkaSystem) (p : TopicPartition) (value : Option (List UInt8)) :
    s.Grown (s.append p value) := by
  intro q
  show s.values q <+: Function.update s.values p (s.values p ++ [value]) q
  by_cases hq : q = p
  · subst hq
    rw [Function.update_self]
    exact List.prefix_append _ _
  · rw [Function.update_of_ne hq]

/-- What a dead letter says stays true. -/
theorem IsLetter.mono {s s' : KafkaSystem} (hgrown : s.Grown s') {topic : Text}
    {value : Option (List UInt8)} (h : IsLetter py s topic value) :
    IsLetter py s' topic value := by
  obtain ⟨htopic, bytes, msg, hbytes, htells⟩ := h
  refine ⟨htopic, bytes, msg, hbytes, ⟨?_, htells.stands.handled⟩, htells.told, htells.unhandled⟩
  -- what it tells of stands at the same offset of the longer partition
  obtain ⟨more, hmore⟩ := hgrown ⟨msg.topic, msg.partition⟩
  have hplace := htells.stands.place
  rw [← hmore, List.getElem?_append_left (List.getElem?_eq_some_iff.mp hplace).1]
  exact hplace

section
variable {arrived : TopicPartition → Option (List UInt8) → Prop}

/-- What comes on top has arrived, or is a dead letter. -/
theorem Told.grow {s s' : KafkaSystem} (h : Told py arrived s) (hgrown : s.Grown s')
    (hvalues : ∀ p, ∀ value ∈ s'.values p,
      value ∈ s.values p ∨ arrived p value ∨ IsLetter py s p.topic value)
    (hqueue : ∀ rec ∈ s'.queue, rec ∈ s.queue ∨ IsLetter py s rec.topic (some rec.value)) :
    Told py arrived s' := by
  constructor
  · intro p value hvalue
    rcases hvalues p value hvalue with hold | hnew
    · exact (h.values p value hold).imp_right fun hletter => hletter.mono py hgrown
    · exact hnew.imp_right fun hletter => hletter.mono py hgrown
  · intro rec hrec
    rcases hqueue rec hrec with hold | hnew
    · exact (h.queue rec hold).mono py hgrown
    · exact hnew.mono py hgrown

/-- A step of the service alone writes nothing. -/
theorem told_serve {s : KafkaSystem} (h : Told py arrived s) (i : LoopStep) :
    Told py arrived (s.serve py i) :=
  h.grow py (fun _ => List.prefix_rfl) (fun _ _ hvalue => .inl hvalue)
    fun _ hrec => .inl hrec

/-- A value of the longer partitions was there, or is the new one. -/
theorem getElem?_append {s : KafkaSystem} {p q : TopicPartition} {n : Nat}
    {value v : Option (List UInt8)} (h : ((s.append p value).values q)[n]? = some v) :
    (s.values q)[n]? = some v ∨ (q = p ∧ v = value) := by
  have hat : (Function.update s.values p (s.values p ++ [value]) q)[n]? = some v := h
  by_cases hq : q = p
  · subst hq
    rw [Function.update_self] at hat
    -- below the old end nothing has changed
    by_cases hlt : n < (s.values q).length
    · rw [List.getElem?_append_left hlt] at hat
      exact .inl hat
    · rw [List.getElem?_append_right (Nat.le_of_not_lt hlt)] at hat
      exact .inr ⟨rfl, List.mem_singleton.mp (List.mem_of_getElem? hat)⟩
  · rw [Function.update_of_ne hq] at hat
    exact .inl hat

theorem mem_append {s : KafkaSystem} {p q : TopicPartition} {value v : Option (List UInt8)}
    (h : v ∈ (s.append p value).values q) : v ∈ s.values q ∨ (q = p ∧ v = value) := by
  obtain ⟨n, hn⟩ := List.mem_iff_getElem?.mp h
  exact (getElem?_append hn).imp_left fun hold => List.mem_of_getElem? hold

/-- The message of a pass stands in its partition. -/
theorem place_of_message? {s : KafkaSystem} {p : TopicPartition} {msg : KafkaMessage}
    (h : s.message? subs p = some msg) :
    p ∈ subs.partitions ∧ p = ⟨msg.topic, msg.partition⟩
      ∧ (s.values p)[msg.offset]? = some msg.value
      ∧ msg.offset = (s.service.progress p).committed := by
  unfold message? at h
  split at h
  next hon =>
    have hnext : (s.logs p).message? (s.service.progress p).committed = some msg := h
    unfold PartitionLog.message? at hnext
    obtain ⟨v, hv, hmsg⟩ := Option.map_eq_some_iff.mp hnext
    subst hmsg
    exact ⟨hon.2.2, rfl, hv, rfl⟩
  next => exact absurd h (by simp)

/-- **The dead letters of a pass** tell of its message. -/
theorem isLetter_of_mem_letters {s : KafkaSystem} {p : TopicPartition} {msg : KafkaMessage}
    (hmsg : s.message? subs p = some msg) {o : Outcomes} {effects : List (Effect Handler)}
    (hsub : ∀ e ∈ effects, e ∈ (passOf py o msg).1) {rec : Record}
    (hrec : rec ∈ o.letters py msg effects) : IsLetter py s rec.topic (some rec.value) := by
  obtain ⟨hp, heq, hplace, _⟩ := place_of_message? subs hmsg
  obtain ⟨pos, error, result, htrace, hsent⟩ := mem_letters py hsub hrec
  -- the letter prints the topic, whose name has to be plain for that
  have hascii : Ascii msg.topic := by
    have hnamed := subs.named p hp
    rw [heq] at hnamed
    exact hnamed
  refine ⟨topic_sendToDlq hsent, rec.value, msg, rfl, ⟨?_, (dlq_of_mem_pass py htrace).1⟩,
    deadLetter_roundTrip htrace hascii hsent, lookup_deadLetter py hsent⟩
  rw [← heq]
  exact hplace

/-- **One step** keeps it, if what arrives has arrived. -/
theorem told_step (s : KafkaSystem) (i : KafkaStep) (h : Told py arrived s)
    (harrive : ∀ p value, i = .arrive p value → arrived p value) :
    Told py arrived (s.step py subs i) := by
  cases i with
  | arrive p value =>
      refine h.grow py (grown_append s p value) (fun q v hv => ?_) fun _ hrec => .inl hrec
      rcases mem_append hv with hold | ⟨hq, hnew⟩
      · exact .inl hold
      · rw [hq, hnew]
        exact .inr (.inl (harrive p value rfl))
  | deliver k partition =>
      unfold step
      simp only
      cases hk : s.queue[k]? with
      | none => exact h
      | some rec =>
          -- what was queued as a dead letter is one where it lands
          have hletter := h.queue rec (List.mem_of_getElem? hk)
          refine h.grow py (grown_append s _ _) (fun q v hv => ?_)
            fun rec' hrec' => .inl (List.mem_of_mem_eraseIdx hrec')
          rcases mem_append hv with hold | ⟨hq, hnew⟩
          · exact .inl hold
          · rw [hq, hnew]
            exact .inr (.inr hletter)
  | drop k =>
      exact h.grow py (Grown.refl s) (fun _ _ hvalue => .inl hvalue)
        fun rec hrec => .inl (List.mem_of_mem_eraseIdx hrec)
  | start => exact told_serve py h _
  | stop => exact told_serve py h _
  | idle => exact told_serve py h _
  | interrupt => exact told_serve py h _
  | message p o stored =>
      unfold step
      simp only
      cases hmsg : s.message? subs p with
      | none => exact told_serve py h _
      | some msg =>
          -- a pass writes to the queue only
          refine h.grow py (Grown.refl s) (fun _ _ hvalue => .inl hvalue) fun rec hrec => ?_
          rcases List.mem_append.mp hrec with hold | hnew
          · exact .inl hold
          · exact .inr (isLetter_of_mem_letters py subs hmsg (fun _ he => he) hnew)
  | die p o effects =>
      unfold step
      simp only
      cases hmsg : s.message? subs p with
      | none => exact told_serve py h _
      | some msg =>
          refine h.grow py (Grown.refl s) (fun _ _ hvalue => .inl hvalue) fun rec hrec => ?_
          rcases List.mem_append.mp hrec with hold | hnew
          · exact .inl hold
          -- the dead process had sent some of the letters of its pass
          · exact .inr (isLetter_of_mem_letters py subs hmsg (cutTrace_subset _ _) hnew)
  | rebalance p => exact told_serve py h _

theorem told_empty : Told py arrived empty :=
  ⟨fun _ _ hvalue => absurd hvalue List.not_mem_nil,
    fun _ hrec => absurd hrec List.not_mem_nil⟩

/-- **A run** keeps it, if what arrives in it has arrived. -/
theorem told_run {is : List KafkaStep} (harrive : ∀ p value, .arrive p value ∈ is → arrived p value)
    {s : KafkaSystem} (h : Told py arrived s) : Told py arrived (run (step py subs) s is) := by
  induction is generalizing s with
  | nil => exact h
  | cons i is ih =>
      refine ih (fun p value hmem => harrive p value (List.mem_cons_of_mem i hmem)) ?_
      apply told_step py subs s i h
      intro p value heq
      exact harrive p value (heq ▸ List.mem_cons_self)

end

/-- **Dead letters tell the truth.**  However arrivals, passes, deaths, restarts and deliveries
follow each other: a value that stands in a partition has arrived there, or it stands in
`hotel.audit.log` and tells of a message, its topic, its partition, its offset and its bytes.  That
message stands there, has arrived, and has handlers; it is no dead letter itself. -/
theorem dead_letters_tell (is : List KafkaStep) (p : TopicPartition)
    (value : Option (List UInt8)) (hvalue : value ∈ (run (step py subs) empty is).values p) :
    .arrive p value ∈ is
      ∨ (p.topic = txt "hotel.audit.log" ∧ ∃ bytes msg payload, value = some bytes
        ∧ readPayload py bytes = some payload ∧ TellsMessage msg payload
        ∧ Stands py (run (step py subs) empty is) msg
        ∧ .arrive ⟨msg.topic, msg.partition⟩ msg.value ∈ is) := by
  have htold : Told py (fun p value => .arrive p value ∈ is) (run (step py subs) empty is) :=
    told_run py subs (fun _ _ hmem => hmem) (told_empty py)
  refine (htold.values p value hvalue).imp_right fun hletter => ?_
  obtain ⟨htopic, bytes, msg, hbytes, htells⟩ := hletter
  obtain ⟨payload, hread, hpayload⟩ := htells.told
  refine ⟨htopic, bytes, msg, payload, hbytes, hread, hpayload, htells.stands, ?_⟩
  -- nobody handles a dead letter, so the message is none
  have hmem : msg.value ∈ (run (step py subs) empty is).values ⟨msg.topic, msg.partition⟩ :=
    List.mem_of_getElem? htells.stands.place
  rcases htold.values _ _ hmem with harrived | ⟨_, letter, _, hletter, htells'⟩
  · exact harrived
  · obtain ⟨data, hs, hfound, hne⟩ := htells.stands.handled
    obtain ⟨data', hnone⟩ := htells'.unhandled
    rw [hletter, hnone] at hfound
    injection hfound with _ hnil
    exact absurd hnil.symm hne

end

/-- No handler ever returns. -/
def failingOutcomes : Outcomes :=
  ⟨fun _ _ => .raises (txt "boom"), fun _ => ⟨0, txt "now"⟩, fun _ => .accepted⟩

/-- A notification whose handler fails, and its dead letter. -/
def demoFailure : List KafkaStep :=
  [.arrive ⟨txt "hotel.notifications", 1⟩
      (encodeUtf8 (txt "\x7b\"event_type\": \"notification\"\x7d")),
    .start, .message ⟨txt "hotel.notifications", 1⟩ failingOutcomes true, .deliver 0 2]

def demoAuditPartition : TopicPartition := ⟨txt "hotel.audit.log", 2⟩

theorem dead_letter_tells_of_notification :
    ∃ value ∈ (run (step plainPython hotelSubscription) empty demoFailure).values
        demoAuditPartition,
      .arrive demoAuditPartition value ∈ demoFailure
        ∨ (demoAuditPartition.topic = txt "hotel.audit.log" ∧ ∃ bytes msg payload,
          value = some bytes ∧ readPayload plainPython bytes = some payload
          ∧ TellsMessage msg payload
          ∧ Stands plainPython (run (step plainPython hotelSubscription) empty demoFailure) msg
          ∧ .arrive ⟨msg.topic, msg.partition⟩ msg.value ∈ demoFailure) := by
  have hsome : (run (step plainPython hotelSubscription) empty demoFailure).values
      demoAuditPartition ≠ [] := by decide +kernel
  obtain ⟨value, hvalue⟩ := List.exists_mem_of_ne_nil _ hsome
  exact ⟨value, hvalue,
    dead_letters_tell plainPython hotelSubscription demoFailure _ value hvalue⟩

end KafkaSystem

end HotelAgent
