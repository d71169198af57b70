/-
  HotelAgent.Api.Publishes — what the requests publish.

  Every call of `publish` in a view or a signal, with what is handed over and
  where it comes to it, and the same request while Kafka takes everything.

      sessions           one event for a session that is opened or ended
      turns              the signal and the view, for a request that is inserted
      service requests   `assign` and `complete`
      bookings           the signal of a new one

  Main result, `returns_published_iff`: `publish` returns where it would with
  Kafka up, unless the queue of the client is full.
-/
import HotelAgent.Api.Rest

namespace HotelAgent

open Lib

variable {py : Python}

/-! ## §1. Calls of `publish`. -/

/-- What is handed to `publish`, and what `produce` does then. -/
structure PublishCall where
  produce : ProduceOutcome
  topicKey : Text
  event : KafkaEvent
  key : Option Text

def PublishCall.published (py : Python) (p : PublishCall) : Published :=
  publish py p.produce p.topicKey p.event p.key

/-- The same call while Kafka takes everything. -/
def PublishCall.delivered (p : PublishCall) : PublishCall := { p with produce := .accepted }

/-- There is a topic, and the event and its key print and encode: `publish` comes to `produce`. -/
def PublishCall.Prints (py : Python) (p : PublishCall) : Prop :=
  (topicOf p.topicKey).isSome = true ∧ ((p.event.toJson py).bind encodeUtf8).isSome = true
    ∧ (encodeUtf8 (recordKey p.event p.key)).isSome = true

instance (p : PublishCall) : Decidable (p.Prints py) := inferInstanceAs (Decidable (_ ∧ _ ∧ _))

/-- **The queue is full**: `produce` is called and raises a `BufferError`. -/
def PublishCall.Overflows (py : Python) (p : PublishCall) : Prop :=
  p.produce = .otherException ∧ p.Prints py

instance (p : PublishCall) : Decidable (p.Overflows py) := inferInstanceAs (Decidable (_ ∧ _))

/-- **When `publish` returns**: where it would return with Kafka up, unless the queue is full. -/
theorem returns_published_iff (py : Python) (p : PublishCall) :
    (p.published py).returns = true
      ↔ (p.delivered.published py).returns = true ∧ ¬ p.Overflows py := by
  unfold PublishCall.Overflows PublishCall.Prints PublishCall.published PublishCall.delivered publish
  simp only
  cases topicOf p.topicKey with
  | none => simp [Published.returns]
  | some topic =>
      simp only
      cases (p.event.toJson py).bind encodeUtf8 with
      | none => simp [Published.returns]
      | some value =>
          cases encodeUtf8 (recordKey p.event p.key) with
          | none => simp [Published.returns]
          | some key =>
              cases p.produce with
              | accepted => simp [Published.returns]
              | kafkaException => simp [Published.returns]
              | otherException => simp [Published.returns]

/-- An event that prints is delivered. -/
theorem returns_delivered_of_overflows {p : PublishCall} (h : p.Overflows py) :
    (p.delivered.published py).returns = true := by
  obtain ⟨_, htopic, hvalue, hkey⟩ := h
  obtain ⟨topic, htopic⟩ := Option.isSome_iff_exists.mp htopic
  obtain ⟨value, hvalue⟩ := Option.isSome_iff_exists.mp hvalue
  obtain ⟨key, hkey⟩ := Option.isSome_iff_exists.mp hkey
  unfold PublishCall.delivered PublishCall.published publish
  simp only [htopic, hvalue, hkey]
  rfl

/-- The two calls end alike exactly if the queue is not full. -/
theorem returns_eq_iff (p : PublishCall) :
    (p.published py).returns = (p.delivered.published py).returns ↔ ¬ p.Overflows py := by
  rw [Bool.eq_iff_iff, returns_published_iff py]
  constructor
  · intro h hoverflows
    exact (h.mpr (returns_delivered_of_overflows hoverflows)).2 hoverflows
  · intro h
    exact and_iff_left h

/-! ## §2. The same request while Kafka takes everything. -/

def Fresh.delivered (fresh : Fresh) : Fresh := { fresh with produce := .accepted }

def ActionFresh.delivered (fresh : ActionFresh) : ActionFresh := { fresh with produce := .accepted }

def SessionFresh.delivered (fresh : SessionFresh) : SessionFresh :=
  { fresh with produce := .accepted, signalProduce := .accepted }

def VoiceWrite.delivered : VoiceWrite py → VoiceWrite py
  | .create body fresh => .create body fresh.delivered
  | .update pk => .update pk
  | .destroy pk => .destroy pk
  | .turn pk body optionErrors agent fresh => .turn pk body optionErrors agent fresh.delivered
  | .finish pk fresh => .finish pk fresh.delivered

def OwnedWrite.delivered : OwnedWrite → OwnedWrite
  | .createRequest body => .createRequest body
  | .updateRequest pk part body => .updateRequest pk part body
  | .destroyRequest pk => .destroyRequest pk
  | .assign pk fresh => .assign pk fresh.delivered
  | .complete pk body fresh => .complete pk body fresh.delivered
  | .createBooking body fresh => .createBooking body fresh.delivered
  | .updateBooking pk part body fresh => .updateBooking pk part body fresh.delivered
  | .destroyBooking pk => .destroyBooking pk

def ApiRequest.delivered : ApiRequest py → ApiRequest py
  | .write cred query (.voice call) => .write cred query (.voice call.delivered)
  | .write cred query (.owned call) => .write cred query (.owned call.delivered)
  | request => request

/-! ## §3. What a request publishes. -/

/-- The event of a new session. -/
def startedCall (db : Db) (user : User) (booking : Option Booking) (fresh : SessionFresh) :
    PublishCall where
  produce := fresh.produce
  topicKey := txt "VOICE_SESSIONS"
  event := VoiceSessionEvent.started fresh.stamp fresh.id.str user.id.str (roomNumber db booking)
  key := none

/-- The event of an ended session. -/
def completedCall (s : VoiceSession) (fresh : SessionFresh) : PublishCall where
  produce := fresh.produce
  topicKey := txt "VOICE_SESSIONS"
  event := completedEvent s fresh
  key := none

/-- The signal of a new service request. -/
def RequestDraft.signalCall (d : RequestDraft) (fresh : SessionFresh) : PublishCall where
  produce := fresh.signalProduce
  topicKey := txt "SERVICE_REQUESTS"
  event := d.event fresh.signalStamp fresh
  key := some d.guest.id.str

/-- The view, about the same request. -/
def RequestDraft.announceCall (d : RequestDraft) (fresh : SessionFresh) : PublishCall where
  produce := fresh.produce
  topicKey := txt "SERVICE_REQUESTS"
  event := d.event fresh.stamp fresh
  key := none

def assignedCall (r : ServiceRequest) (fresh : ActionFresh) : PublishCall where
  produce := fresh.produce
  topicKey := txt "SERVICE_REQUESTS"
  event := assignedEvent r fresh.stamp
  key := none

def completionCall (r : ServiceRequest) (fresh : ActionFresh) : PublishCall where
  produce := fresh.produce
  topicKey := txt "NOTIFICATIONS"
  event := completionEvent r fresh.stamp
  key := none

/-- The signal of a new booking. -/
def bookedCall (b : Booking) (fresh : Fresh) : PublishCall where
  produce := fresh.produce
  topicKey := txt "AUDIT_LOG"
  event := bookingCreatedEvent fresh.stamp b
  key := none

/-- The calls in the atomic block of a turn, once the row is inserted. -/
def RequestDraft.calls (py : Python) (db : Db) (d : RequestDraft) (fresh : SessionFresh) :
    List PublishCall :=
  if (d.inserts py db fresh).isSome then [d.signalCall fresh, d.announceCall fresh] else []

/-- The calls of a turn. -/
def turnCalls (db : Db) (caller : Caller) (pk : Uuid) (req : TurnRequest)
    (agent : AgentOutcome py) (fresh : SessionFresh) : List PublishCall :=
  match turnDraft db caller pk req agent fresh with
  | some (db, d) => d.calls py db fresh
  | none => []

section
variable (F : Filters) (db : Db) (caller : Caller) (user : Option User) (query : Query)

/-- What a write to voice sessions publishes while Kafka takes everything. -/
def VoiceWrite.calls : VoiceWrite py → List PublishCall
  | .create body fresh =>
    match user, body.read with
    | some _, .ok none =>
      (openedSession db caller none fresh).toList.map fun (user, booking) =>
        startedCall db user booking fresh
    | some _, .ok (some (some id)) =>
      (openedSession db caller (some id) fresh).toList.map fun (user, booking) =>
        startedCall db user booking fresh
    | _, _ => []
  | .update _ => []
  | .destroy _ => []
  | .turn pk body optionErrors agent fresh =>
    match user.map fun user => sessionObject F query db user pk with
    | some (.ok s) =>
      match body.read with
      | .error _ => []
      | .ok data =>
        if optionErrors ≠ [] then [] else turnCalls db caller s.id data agent fresh
    | _ => []
  | .finish pk fresh =>
    match user.map fun user => sessionObject F query db user pk with
    | some (.ok s) =>
      (endedSession db caller s.id fresh.now).toList.map fun s => completedCall s fresh
    | _ => []

/-- The row that an `assign` or a `complete` writes over, where the backends let it through. -/
def objectRewrites (py : Python) (pk : Option Uuid) (action : RequestAction) :
    Option ServiceRequest :=
  match requestObject F query db user pk with
  | .error _ => none
  | .ok _ => (action.rewrites py db user).map (·.1)

/-- What the other writes publish while Kafka takes everything. -/
def OwnedWrite.calls (py : Python) : OwnedWrite → List PublishCall
  | .assign pk fresh =>
    (objectRewrites F db user query py pk (.assign pk fresh)).toList.map fun r =>
      assignedCall r fresh
  | .complete pk body fresh =>
    match body.read with
    | .error _ => []
    | .ok data =>
      (objectRewrites F db user query py pk (.complete pk data fresh)).toList.map fun r =>
        completionCall r fresh
  | .createBooking body fresh =>
    match body.read with
    | .error _ => []
    | .ok data =>
      if data.errors false ≠ [] then []
      else (madeBooking db caller data.fields fresh).toList.map fun b => bookedCall b fresh
  | _ => []

end

/-- **What a request publishes** while Kafka takes everything. -/
def ApiRequest.calls (D : Deployment) (db : Db) : ApiRequest py → List PublishCall
  | .write cred query (.voice call) =>
    match cred.user db with
    | .error _ => []
    | .ok user => call.calls D.filters db cred.caller user query
  | .write cred query (.owned call) =>
    match cred.user db with
    | .error _ => []
    | .ok user => call.calls D.filters db cred.caller user query py
  | _ => []

end HotelAgent
