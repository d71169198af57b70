/-
  HotelAgent.Api.EventOrder — events of one entity, in order.

  Kafka keeps the order of a partition and no other, and the key of an event
  decides on the partition.  `publish` takes the key of its caller or else the
  random `event_id`:

      session    started            no key
                 completed          no key
      request    created (signal)   the guest's id
                 created (view)     no key
                 status_changed     no key

  so the events of one session or request are spread over the partitions by
  chance.

  Main results:
    * `eventsInOrder_iff` — consumers get the events of every entity in the order in
      which they were published, whatever the order of the partitions, if and only
      if every event goes to the partition of the events that it follows.
    * `key_handedOver` — the table above, for every request: the key of a record is
      the random id of its event, or in the signal of a new service request the id
      of its guest.
-/
import HotelAgent.Api.PublishLog
import HotelAgent.Lib.Partitions

namespace HotelAgent

open Lib

variable {py : Python}

/-! ## §1. What follows what. -/

/-- A `VoiceSessionEvent.started` for the session. -/
def Record.Started (rec : Record) (sessionId : Text) : Prop :=
  ∃ stamp guestId roomNumber,
    rec.event = VoiceSessionEvent.started stamp sessionId guestId roomNumber

/-- A `ServiceRequestEvent.status_changed` for the request. -/
def Record.StatusChanged (rec : Record) (requestId : Text) : Prop :=
  ∃ stamp oldStatus newStatus,
    rec.event = ServiceRequestEvent.statusChanged stamp requestId oldStatus newStatus

/-- **The event `later` follows `earlier`** in the life of a session or a request. -/
def Record.Precedes (earlier later : Record) : Prop :=
  (∃ sessionId, earlier.Started sessionId ∧ later.Completed sessionId)
    ∨ ∃ requestId, (earlier.Created requestId ∨ earlier.StatusChanged requestId)
      ∧ later.StatusChanged requestId

/-- **The partition of an event**: a function of its topic and its key. -/
abbrev Partitioner := (topic : Text) → (key : List UInt8) → Nat

/-- The topic and the partition of a record. -/
def Record.slot (partitionOf : Partitioner) (rec : Record) : Text × Nat :=
  (rec.topic, partitionOf rec.topic rec.key)

/-- **In order**: consumers get the events of each entity in the order of the log, in every
schedule that keeps the order of each partition. -/
def EventsInOrder (partitionOf : Partitioner) (w : World) : Prop :=
  ReadInOrder (Record.slot partitionOf) Record.Precedes w.log

/-! ## §2. One request. -/

section
variable (D : Deployment) (partitionOf : Partitioner)

/-- The condition on a request: what it publishes goes to the partition of the events that it
follows, those in the log and those of the request itself. -/
structure SamePartition (w : World) (c : RestCall py) : Prop where
  log : ∀ earlier ∈ w.log, ∀ later ∈ handedOver py (c.request.calls D w.db),
    earlier.Precedes later → earlier.slot partitionOf = later.slot partitionOf
  request : (handedOver py (c.request.calls D w.db)).Pairwise fun earlier later =>
    earlier.Precedes later → earlier.slot partitionOf = later.slot partitionOf

/-- **One request.** -/
theorem eventsInOrder_step_iff (w : World) (c : RestCall py)
    (h : EventsInOrder partitionOf w) :
    EventsInOrder partitionOf (restStep D w c) ↔ SamePartition D partitionOf w c := by
  unfold EventsInOrder restStep
  rw [log_serve, readInOrder_append_iff (Record.slot partitionOf) Record.Precedes w.log _ h]
  constructor
  · rintro ⟨hlog, hrequest⟩
    exact ⟨hlog, hrequest⟩
  · intro hsame
    exact ⟨hsame.log, hsame.request⟩

/-! ## §3. Keys. -/

/-- The call has no key of its own, or is the signal of a new service request. -/
def PublishCall.Keyless (p : PublishCall) : Prop :=
  p.key = none ∨ ∃ (d : RequestDraft) (fresh : SessionFresh), p = d.signalCall fresh

/-- A list of at most one call without a key. -/
theorem keyless_of_toList {α : Type} {made : Option α} {call : α → PublishCall}
    (hcall : ∀ a, (call a).key = none) {p : PublishCall} (h : p ∈ made.toList.map call) :
    p.Keyless := by
  obtain ⟨a, _, rfl⟩ := List.mem_map.mp h
  exact .inl (hcall a)

theorem keyless_turn {db : Db} {caller : Caller} {pk : Uuid} {req : TurnRequest}
    {agent : AgentOutcome py} {fresh : SessionFresh} {p : PublishCall}
    (h : p ∈ turnCalls db caller pk req agent fresh) : p.Keyless := by
  unfold turnCalls at h
  split at h
  next db₁ d _ =>
    unfold RequestDraft.calls at h
    split at h
    · rcases List.mem_cons.mp h with rfl | h
      · exact .inr ⟨d, fresh, rfl⟩
      · rw [List.mem_singleton.mp h]
        exact .inl rfl
    · exact absurd h List.not_mem_nil
  · exact absurd h List.not_mem_nil

/-- **One call site has a key**: the signal of a new service request. -/
theorem keyless_calls {db : Db} {request : ApiRequest py} {p : PublishCall}
    (h : p ∈ request.calls D db) : p.Keyless := by
  unfold ApiRequest.calls at h
  split at h
  next cred query call =>
    split at h
    · exact absurd h List.not_mem_nil
    next user _ =>
      cases call with
      | create body fresh =>
          simp only [VoiceWrite.calls] at h
          split at h
          · exact keyless_of_toList (fun _ => rfl) h
          · exact keyless_of_toList (fun _ => rfl) h
          · exact absurd h List.not_mem_nil
      | update pk => exact absurd h List.not_mem_nil
      | destroy pk => exact absurd h List.not_mem_nil
      | turn pk body optionErrors agent fresh =>
          simp only [VoiceWrite.calls] at h
          split at h
          · split at h
            · exact absurd h List.not_mem_nil
            · split at h
              · exact absurd h List.not_mem_nil
              · exact keyless_turn h
          · exact absurd h List.not_mem_nil
      | finish pk fresh =>
          simp only [VoiceWrite.calls] at h
          split at h
          · exact keyless_of_toList (fun _ => rfl) h
          · exact absurd h List.not_mem_nil
  next cred query call =>
    split at h
    · exact absurd h List.not_mem_nil
    next user _ =>
      cases call with
      | assign pk fresh => exact keyless_of_toList (fun _ => rfl) h
      | complete pk body fresh =>
          simp only [OwnedWrite.calls] at h
          split at h
          · exact absurd h List.not_mem_nil
          · exact keyless_of_toList (fun _ => rfl) h
      | createBooking body fresh =>
          simp only [OwnedWrite.calls] at h
          split at h
          · exact absurd h List.not_mem_nil
          · split at h
            · exact absurd h List.not_mem_nil
            · exact keyless_of_toList (fun _ => rfl) h
      | _ => exact absurd h List.not_mem_nil
  · exact absurd h List.not_mem_nil

/-- **What decides on the partition**: the random id of the event, or for the signal of a new
service request its guest. -/
theorem key_handedOver {db : Db} {request : ApiRequest py} {rec : Record}
    (h : rec ∈ handedOver py (request.calls D db)) :
    encodeUtf8 rec.event.eventId = some rec.key
      ∨ ∃ (d : RequestDraft) (fresh : SessionFresh),
        rec.event = d.event fresh.signalStamp fresh ∧ encodeUtf8 d.guest.id.str = some rec.key := by
  obtain ⟨p, hp, haccepted⟩ := mem_handedOver h
  obtain ⟨_, hkey, _, hevent⟩ := publish_accepted haccepted
  rcases keyless_calls D hp with hnone | ⟨d, fresh, rfl⟩
  · left
    rw [hnone] at hkey
    rw [hevent]
    exact hkey
  · exact .inr ⟨d, fresh, hevent, hkey⟩

/-! ## §4. Runs. -/

/-- Nothing has been published. -/
theorem eventsInOrder_empty (db : Db) : EventsInOrder partitionOf ⟨db, []⟩ := by
  unfold EventsInOrder
  rw [readInOrder_iff]
  exact List.Pairwise.nil

/-- **Events in order, exactly.**  Along a run of requests consumers get the events of every entity
in order, if and only if every event goes to the partition of those that it follows. -/
theorem eventsInOrder_iff (db : Db) (cs : List (RestCall py)) :
    AllStates (restStep D) (EventsInOrder partitionOf) ⟨db, []⟩ cs
      ↔ AllSteps (restStep D) (SamePartition D partitionOf) ⟨db, []⟩ cs :=
  allStates_iff_allSteps (K := fun _ => True) (fun _ _ _ => trivial)
    (fun w c _ h => eventsInOrder_step_iff D partitionOf w c h) trivial
    (eventsInOrder_empty partitionOf db) cs

end

instance decidableEqKafkaEvent : DecidableEq KafkaEvent := fun a b =>
  decidable_of_iff (a.eventId = b.eventId ∧ a.eventType = b.eventType ∧ a.timestamp = b.timestamp
    ∧ a.payload = b.payload ∧ a.schemaVersion = b.schemaVersion ∧ a.source = b.source)
    (by cases a; cases b; simp only [KafkaEvent.mk.injEq])

/-- A partitioner that goes by the last byte of the key. -/
def lastBytePartitioner : Partitioner := fun _ key => (key.getLastD 0).toNat

/-- The demo guest opens a session and ends it, with the event ids 0 and 1. -/
def demoSessionCalls : List (RestCall plainPython) :=
  [{ request := .write (.bearer 1) []
      (.voice (.create (.data none) { demoSessionFresh 5 with produce := .accepted }))
     latencyMs := txt "0" },
   { request := .write (.bearer 1) []
      (.voice (.finish (some 5)
        { demoSessionFresh 6 with produce := .accepted, stamp := ⟨1, []⟩ }))
     latencyMs := txt "0" }]

/-- The end of a session may be consumed before its beginning. -/
theorem session_ends_before_it_starts :
    ¬ ∀ (py : Python) (D : Deployment) (partitionOf : Partitioner) (db : Db)
      (cs : List (RestCall py)),
      AllStates (restStep D) (EventsInOrder partitionOf) ⟨db, []⟩ cs := by
  intro h
  have hlast := (h plainPython plainDeployment lastBytePartitioner demoHotel.db
    demoSessionCalls).last
  unfold EventsInOrder at hlast
  rw [readInOrder_iff] at hlast
  have hlog : (run (restStep plainDeployment) ⟨demoHotel.db, []⟩ demoSessionCalls).log.map
      (fun rec => (rec.event, rec.slot lastBytePartitioner))
      = [(VoiceSessionEvent.started ⟨0, []⟩ (Uuid.str 5) (Uuid.str 1) (txt "N/A"),
          (txt "hotel.voice.sessions", 0x30)),
        (VoiceSessionEvent.completed ⟨1, []⟩ (Uuid.str 5) 0 0,
          (txt "hotel.voice.sessions", 0x31))] := by decide +kernel
  generalize (run (restStep plainDeployment) ⟨demoHotel.db, []⟩ demoSessionCalls).log = log
    at hlast hlog
  obtain ⟨r, rest, rfl, hr, hrest⟩ := List.map_eq_cons_iff.mp hlog
  obtain ⟨r', rest', rfl, hr', _⟩ := List.map_eq_cons_iff.mp hrest
  injection hr with hstarted hslot
  injection hr' with hcompleted hslot'
  have hsame := (List.pairwise_cons.mp hlast).1 r' List.mem_cons_self
    (.inl ⟨Uuid.str 5, ⟨_, _, _, hstarted⟩, ⟨_, _, _, hcompleted⟩⟩)
  rw [hslot, hslot'] at hsame
  exact absurd hsame (by decide)

end HotelAgent
