/-
  HotelAgent.Api.CompletionNotices — from a completed request to the guest's screen.

  The one event that finds its handler is the notification of a completed request.
  It goes through everything that the hotel is made of:

      POST …/complete/      the row, and `publish` on NOTIFICATIONS
      the topic             bytes; in between, whatever else is published
      the consumer          `json.loads`, the registry, three attempts
      handle_notification   `push_notification_to_guest`
      the channel layer     the group of the guest
      the sockets           one frame each

  Requests, connections, consumption (in any order, and more than once, as after
  a crash), dead letters and staff tasks are the steps of one run.

  Main results:
    * `completions_are_told` — whenever the record of a completion is consumed, each
      open socket of its guest gets one frame, unless all attempts fail, and no
      other socket gets any; no other record makes one.
    * `notices_are_own` — in every state of every run, each notification that a
      socket has got is about a completed request of the socket's user.
-/
import HotelAgent.Api.PublishLog
import HotelAgent.Api.Pushes
import HotelAgent.Kafka.DeadLetters
import HotelAgent.Services.Conversation

namespace HotelAgent

open Lib

variable {py : Python}

/-! ## §1. Notices. -/

/-- What a guest is told of a completed request. -/
structure Notice where
  guestId : Uuid
  requestId : Uuid
  serviceType : Text

def ServiceRequest.notice (r : ServiceRequest) : Notice := ⟨r.guestId, r.id, r.serviceType⟩

/-- The frame that a browser gets, with the texts as `json.loads` has read them. -/
def Notice.frame (n : Notice) : SocketSend :=
  notificationFrame
    (.str (rejoin (txt "Your " ++ displayOf serviceTypeChoices n.serviceType
      ++ txt " request has been completed.")))
    (.obj [(txt "request_id", .str n.requestId.str),
      (txt "service_type", .str (rejoin n.serviceType))])

/-- The record is the event of a completion. -/
def Record.Tells (rec : Record) (n : Notice) : Prop :=
  ∃ stamp r, rec.event = completionEvent r stamp ∧ r.notice = n

/-! ## §2. The consumer and the sockets. -/

/-- The tasks of the calls that returned; a call that raises has sent nothing. -/
def tasksOf (effects : List (Effect Handler)) : List HandlerTask :=
  effects.flatMap fun
    | .call _ handler event .returns => (handler.tasks event).getD []
    | _ => []

/-- What a task sends over the sockets.  The others go to Celery. -/
def Sockets.perform (py : Python) (s : Sockets) : HandlerTask → Deliveries
  | .pushNotificationToGuest guestId message data =>
    s.pushNotificationToGuest (formatted py guestId) message data
  | _ => []

/-- The hotel, with everything that has been sent over each socket. -/
structure NotifiedHotel where
  world : World
  sockets : Sockets
  inbox : Nat → List SocketSend

/-- Nothing has been published, and nobody is connected. -/
def NotifiedHotel.start (db : Db) : NotifiedHotel := ⟨⟨db, []⟩, .start, fun _ => []⟩

/-- The sockets after a step, and what was sent in it. -/
def NotifiedHotel.sent (s : NotifiedHotel) (t : Sockets × Deliveries) : NotifiedHotel :=
  { s with
    sockets := t.1
    inbox := fun channel => s.inbox channel ++ Groups.received t.2 channel }

inductive NoticeStep (py : Python) where
  | request (call : RestCall py)
  | connect (accessToken : Text → TokenReading) (scope : Scope)
  | disconnect (channel : Nat)
  | staffTask (requestId : Option Uuid) (priority : Json)
  /-- A consumer, of whatever topic, gives a message up. -/
  | deadLetter (stamp : Stamp) (produce : ProduceOutcome) (msg : KafkaMessage) (error : Text)
  /-- The `k`th record that was published is consumed. -/
  | consume (k partition offset : Nat) (env : Env)

/-- What `_process_message` does with a record. -/
def consumption (py : Python) (rec : Record) (partition offset : Nat) (env : Env) :
    List (Effect Handler) :=
  (processMessage py (registerAllHandlers []) env
    ⟨rec.topic, partition, offset, some rec.value⟩).1

def noticeStep (D : Deployment) (s : NotifiedHotel) : NoticeStep py → NotifiedHotel
  | .request call => { s with world := restStep D s.world call }
  | .connect accessToken scope =>
    s.sent (s.sockets.handle (.connect s.world.db.users accessToken scope))
  | .disconnect channel => s.sent (s.sockets.handle (.disconnect channel))
  | .staffTask requestId priority =>
    s.sent (s.sockets.handle (.staffTask s.world.db requestId priority))
  | .deadLetter stamp produce msg error => { s with
      world := { s.world with
        log := s.world.log ++ (sendToDlq py stamp produce msg error).records } }
  | .consume k partition offset env =>
    match s.world.log[k]? with
    | none => s
    | some rec => s.sent (s.sockets,
        (tasksOf (consumption py rec partition offset env)).flatMap (s.sockets.perform py))

/-! ## §3. One record. -/

/-- A handler's tasks are done once, if one of the attempts returns. -/
theorem tasksOf_retryLoop (pos : Nat) (h : Handler) (data : List (Text × Json))
    (result : Nat → HandlerResult) {left : Nat} (hleft : 0 < left) :
    tasksOf (retryLoop pos h data result left).1
      = if (retryLoop pos h data result left).2.isSome then [] else (h.tasks data).getD [] := by
  induction left with
  | zero => exact absurd hleft (Nat.lt_irrefl 0)
  | succ left ih =>
      unfold retryLoop
      simp only
      cases result (maxRetries - (left + 1)) with
      | returns => exact List.append_nil _
      | raises e =>
          simp only
          by_cases hlast : left = 0
          · simp only [if_pos hlast]
            rfl
          · -- a failed attempt has sent nothing, and the next is on its own
            simp only [if_neg hlast]
            exact ih (Nat.pos_of_ne_zero hlast)

theorem tasksOf_runHandler (env : Env) (pos : Nat) (h : Handler) (data : List (Text × Json)) :
    tasksOf (runHandler env pos h data).1
      = if env.exhausts pos then [] else (h.tasks data).getD [] := by
  have hloop := tasksOf_retryLoop pos h data (env.handler pos) (show 0 < maxRetries by decide)
  have hiff := retryLoop_max_isSome_iff env pos h data
  unfold runHandler
  simp only
  split
  next hnone =>
    rw [hnone] at hloop hiff
    have hfine : ¬ env.exhausts pos := fun h => absurd (hiff.mpr h) (by simp)
    rw [if_neg hfine, hloop]
    rfl
  next e hsome =>
    rw [hsome] at hloop hiff
    rw [if_pos (hiff.mp rfl)]
    unfold tasksOf at hloop ⊢
    rw [List.flatMap_append, hloop]
    rfl

/-- A consumed record gives its event to the handlers of its type. -/
theorem consumption_printed {rec : Record} (h : Printed py rec) (partition offset : Nat)
    (env : Env) {handlers : List Handler}
    (hget : (registerAllHandlers []).get (rejoin rec.event.eventType) = handlers) :
    tasksOf (consumption py rec partition offset env)
      = tasksOf (runHandlers env rec.event.readBack 0 handlers).1 := by
  have hlookup := lookup_printed h (registerAllHandlers [])
  rw [hget] at hlookup
  unfold consumption
  rw [processMessage_of_found hlookup]
  split
  · rfl
  · unfold tasksOf
    rw [List.flatMap_append]
    exact List.append_nil _

/-- Nobody handles a record of another type. -/
theorem tasksOf_unhandled {rec : Record} (h : Printed py rec)
    (hget : (registerAllHandlers []).get (rejoin rec.event.eventType) = [])
    (partition offset : Nat) (env : Env) :
    tasksOf (consumption py rec partition offset env) = [] := by
  rw [consumption_printed h partition offset env hget]
  rfl

theorem payloadOf_readBack (event : KafkaEvent) :
    payloadOf event.readBack = some (rereadFields [] event.payload) := by
  have hid : txt "event_id" ≠ txt "payload" := by decide
  have htype : txt "event_type" ≠ txt "payload" := by decide
  have htime : txt "timestamp" ≠ txt "payload" := by decide
  simp [payloadOf, dictGet, dictGet?, KafkaEvent.readBack, hid, htype, htime]

/-- The notification of a completion is one push to the guest. -/
theorem tasks_completion (r : ServiceRequest) (stamp : Stamp) :
    Handler.handleNotification.tasks (completionEvent r stamp).readBack
      = some [.pushNotificationToGuest (.str r.guestId.str)
          (.str (rejoin (txt "Your " ++ displayOf serviceTypeChoices r.serviceType
            ++ txt " request has been completed.")))
          (.obj [(txt "request_id", .str r.id.str),
            (txt "service_type", .str (rejoin r.serviceType))])] := by
  have hdata : rereadFields [] [(txt "request_id", .str r.id.str),
        (txt "service_type", .str r.serviceType)]
      = [(txt "request_id", .str r.id.str), (txt "service_type", .str (rejoin r.serviceType))] := by
    rw [rereadFields_distinct _ [] ?_ ?_]
    · simp only [List.nil_append, List.map_cons, List.map_nil, reread,
        rejoin_ascii (uuid_str_ascii r.id)]
    · simp only [List.forall_mem_cons]
      exact ⟨ascii_of_all (by decide), ascii_of_all (by decide), fun _ h => absurd h (by simp)⟩
    · simp only [List.nil_append, List.map_cons, List.map_nil]
      decide
  have hpayload : rereadFields [] (completionEvent r stamp).payload
      = [(txt "guest_id", .str r.guestId.str), (txt "channel", .str (txt "ws")),
        (txt "message", .str (rejoin (txt "Your " ++ displayOf serviceTypeChoices r.serviceType
          ++ txt " request has been completed."))),
        (txt "data", .obj [(txt "request_id", .str r.id.str),
          (txt "service_type", .str (rejoin r.serviceType))])] := by
    show rereadFields [] [(txt "guest_id", .str r.guestId.str), (txt "channel", .str (txt "ws")),
      (txt "message", _), (txt "data", _)] = _
    rw [rereadFields_distinct _ [] ?_ ?_]
    · simp only [List.nil_append, List.map_cons, List.map_nil, reread, hdata,
        rejoin_ascii (uuid_str_ascii r.guestId),
        rejoin_ascii (show Ascii (txt "ws") from ascii_of_all (by decide))]
    · simp only [List.forall_mem_cons]
      exact ⟨ascii_of_all (by decide), ascii_of_all (by decide), ascii_of_all (by decide),
        ascii_of_all (by decide), fun _ h => absurd h (by simp)⟩
    · simp only [List.nil_append, List.map_cons, List.map_nil]
      decide
  have hchannel : txt "guest_id" ≠ txt "channel" := by decide
  have hmessage : txt "guest_id" ≠ txt "message" ∧ txt "channel" ≠ txt "message" := by decide
  have hlast : txt "guest_id" ≠ txt "data" ∧ txt "channel" ≠ txt "data"
      ∧ txt "message" ≠ txt "data" := by decide
  simp only [Handler.tasks, payloadOf_readBack, Option.map_some, hpayload]
  simp [notificationTasks, dictGet, dictGet?, hchannel, hmessage, hlast]

/-- A completion has a handler. -/
theorem handled_of_tells {rec : Record} {n : Notice} (h : rec.Tells n) :
    (registerAllHandlers []).get (rejoin rec.event.eventType) = [.handleNotification] := by
  obtain ⟨stamp, r, hevent, _⟩ := h
  rw [hevent]
  show (registerAllHandlers []).get (rejoin (txt "notification")) = _
  rw [rejoin_ascii (ascii_of_all (by decide)), get_registerAllHandlers]
  decide

/-- **A completion is handled once**, if one of three attempts returns. -/
theorem tasksOf_completion {rec : Record} (h : Printed py rec) {r : ServiceRequest} {stamp : Stamp}
    (hevent : rec.event = completionEvent r stamp) (partition offset : Nat) (env : Env) :
    tasksOf (consumption py rec partition offset env)
      = if env.exhausts 0 then []
        else (Handler.handleNotification.tasks (completionEvent r stamp).readBack).getD [] := by
  have hget := handled_of_tells ⟨stamp, r, hevent, rfl⟩
  rw [consumption_printed h partition offset env hget, hevent, ← tasksOf_runHandler]
  unfold runHandlers
  simp only
  split
  · rfl
  · unfold runHandlers
    rw [List.append_nil]

/-! ## §4. What is published. -/

theorem apiEvent_statusChanged (py : Python) (stamp : Stamp) (requestId old new : Text) :
    ApiEvent py (ServiceRequestEvent.statusChanged stamp requestId old new) where
  floats := ⟨trivial, trivial, trivial, trivial, trivial⟩
  eventId := uuid_str_ascii _
  eventType := List.mem_cons_self

/-- A list of at most one call. -/
theorem apiEvent_of_toList {α : Type} {made : Option α} {call : α → PublishCall}
    (hcall : ∀ a, ApiEvent py (call a).event) {p : PublishCall}
    (h : p ∈ made.toList.map call) : ApiEvent py p.event := by
  obtain ⟨a, _, rfl⟩ := List.mem_map.mp h
  exact hcall a

theorem apiEvent_turn {db : Db} {caller : Caller} {pk : Uuid} {req : TurnRequest}
    {agent : AgentOutcome py} {fresh : SessionFresh} {p : PublishCall}
    (h : p ∈ turnCalls db caller pk req agent fresh) : ApiEvent py p.event := by
  unfold turnCalls at h
  split at h
  next db₁ d hdraft =>
    obtain ⟨user, s, content, r, _, _, _, hrequest⟩ := turnDraft_eq_some hdraft
    obtain ⟨htype, hpriority, _⟩ := floatsOk_requestDraft hrequest
    unfold RequestDraft.calls at h
    split at h
    · rcases List.mem_cons.mp h with rfl | h
      · exact apiEvent_request ⟨htype, hpriority⟩ fresh.signalStamp fresh
      · rw [List.mem_singleton.mp h]
        exact apiEvent_request ⟨htype, hpriority⟩ fresh.stamp fresh
    · exact absurd h List.not_mem_nil
  · exact absurd h List.not_mem_nil

theorem apiEvent_voice {F : Filters} {db : Db} {caller : Caller} {user : Option User}
    {query : Query} {call : VoiceWrite py} {p : PublishCall}
    (h : p ∈ call.calls F db caller user query) : ApiEvent py p.event := by
  cases call with
  | create body fresh =>
      simp only [VoiceWrite.calls] at h
      split at h
      · exact apiEvent_of_toList (fun _ => apiEvent_started py _ _ _ _) h
      · exact apiEvent_of_toList (fun _ => apiEvent_started py _ _ _ _) h
      · exact absurd h List.not_mem_nil
  | update pk => exact absurd h List.not_mem_nil
  | destroy pk => exact absurd h List.not_mem_nil
  | turn pk body optionErrors agent fresh =>
      simp only [VoiceWrite.calls] at h
      split at h
      · split at h
        · exact absurd h List.not_mem_nil
        · split at h
          · exact absurd h List.not_mem_nil
          · exact apiEvent_turn h
      · exact absurd h List.not_mem_nil
  | finish pk fresh =>
      simp only [VoiceWrite.calls] at h
      split at h
      · exact apiEvent_of_toList (fun s => apiEvent_completed py _ _ _ _) h
      · exact absurd h List.not_mem_nil

/-- The call is about a request that is stored as completed. -/
def PublishCall.Completes (db : Db) (p : PublishCall) : Prop :=
  ∃ stamp r, p.event = completionEvent r stamp
    ∧ ∃ r' ∈ db.serviceRequests, r'.notice = r.notice ∧ r'.status = .completed

/-- The row of a completion, after it. -/
theorem completes_complete {w : World} {user : Option User} {pk : Option Uuid} {data : Json}
    {fresh : ActionFresh} {p : PublishCall}
    (h : p ∈ ((RequestAction.complete pk data fresh).rewrites py w.db user).toList.map
      fun rows => completionCall rows.1 fresh) :
    p.Completes (complete py w user pk data fresh).1.db := by
  obtain ⟨⟨r, r'⟩, hrows, rfl⟩ := List.mem_map.mp h
  have hrewrites := Option.mem_toList.mp hrows
  have hwrote := handle_of_rewrites_some hrewrites
  obtain ⟨_, text, _, _, hr'⟩ := rewrites_complete hrewrites
  refine ⟨fresh.stamp, r, rfl, r', ?_, ?_, ?_⟩
  · show r' ∈ ((RequestAction.complete pk data fresh).handle py w user).1.db.serviceRequests
    rw [hwrote.serviceRequests]
    exact (Table.mem_put hwrote.has).mpr (.inl rfl)
  · rw [hr']
    rfl
  · rw [hr']
    rfl

theorem call_kinds_owned {F : Filters} {w : World} {caller : Caller} {user : Option User}
    {query : Query} {call : OwnedWrite} {p : PublishCall}
    (h : p ∈ call.calls F w.db caller user query py) :
    ApiEvent py p.event ∨ p.Completes (call.handle py F w caller user query).1.db := by
  cases call with
  | assign pk fresh =>
      exact .inl (apiEvent_of_toList (fun r => apiEvent_statusChanged py _ _ _ _) h)
  | complete pk body fresh =>
      right
      simp only [OwnedWrite.calls] at h
      split at h
      · exact absurd h List.not_mem_nil
      next data hread =>
        rw [calls_objectRewrites] at h
        simp only [OwnedWrite.handle, onRequest, hread]
        cases hobject : requestObject F query w.db user pk with
        | error response =>
            rw [hobject] at h
            exact absurd h List.not_mem_nil
        | ok r =>
            rw [hobject] at h
            exact completes_complete h
  | createBooking body fresh =>
      left
      simp only [OwnedWrite.calls] at h
      split at h
      · exact absurd h List.not_mem_nil
      · split at h
        · exact absurd h List.not_mem_nil
        · exact apiEvent_of_toList (fun b => apiEvent_bookingCreated py _ b) h
  | createRequest body => exact absurd h List.not_mem_nil
  | updateRequest pk part body => exact absurd h List.not_mem_nil
  | destroyRequest pk => exact absurd h List.not_mem_nil
  | updateBooking pk part body fresh => exact absurd h List.not_mem_nil
  | destroyBooking pk => exact absurd h List.not_mem_nil

/-- **What a request publishes**: events that nobody handles, and completions of requests that are
stored as completed. -/
theorem call_kinds (D : Deployment) (w : World) (latencyMs : Text) {request : ApiRequest py}
    {p : PublishCall} (h : p ∈ request.calls D w.db) :
    ApiEvent py p.event ∨ p.Completes (request.serve D w latencyMs).1.db := by
  cases request with
  | write cred query call =>
      cases call with
      | voice call =>
          simp only [ApiRequest.calls] at h
          split at h
          · exact absurd h List.not_mem_nil
          · exact .inl (apiEvent_voice h)
      | owned call =>
          simp only [ApiRequest.calls] at h
          split at h
          · exact absurd h List.not_mem_nil
          next user huser =>
            rw [world_serve]
            unfold perform
            simp only [huser]
            exact call_kinds_owned h
  | read cred query call => exact absurd h List.not_mem_nil
  | rooms cred query pk => exact absurd h List.not_mem_nil
  | register body remoteAddr fresh => exact absurd h List.not_mem_nil
  | token req now => exact absurd h List.not_mem_nil

/-! ## §5. The log. -/

/-- The notice can be read off the event. -/
theorem notice_of_completionEvent {r r' : ServiceRequest} {stamp stamp' : Stamp}
    (h : completionEvent r stamp = completionEvent r' stamp') : r.notice = r'.notice := by
  have hpayload := congrArg KafkaEvent.payload h
  simp only [completionEvent, NotificationEvent.guestNotification, KafkaEvent.make,
    List.cons.injEq, Prod.mk.injEq, Json.str.injEq, Json.obj.injEq, true_and, and_true]
    at hpayload
  obtain ⟨hguest, _, hid, htype⟩ := hpayload
  unfold ServiceRequest.notice
  rw [Uuid.str_injective hguest, Uuid.str_injective hid, htype]

/-- Printed, and a completion or of a type that nobody handles. -/
structure Record.Known (py : Python) (rec : Record) : Prop where
  printed : Printed py rec
  kind : (∃ n, rec.Tells n) ∨ (registerAllHandlers []).get (rejoin rec.event.eventType) = []

/-- **The records of a request.** -/
theorem known_of_request (D : Deployment) (w : World) (latencyMs : Text) {request : ApiRequest py}
    {rec : Record} (h : rec ∈ handedOver py (request.calls D w.db)) :
    rec.Known py ∧ ∀ n, rec.Tells n →
      ∃ r ∈ (request.serve D w latencyMs).1.db.serviceRequests,
        r.notice = n ∧ r.status = .completed := by
  obtain ⟨p, hp, haccepted⟩ := mem_handedOver h
  rcases call_kinds D w latencyMs hp with hapi | ⟨stamp, r, hevent, r', hr', hnotice, hstatus⟩
  · obtain ⟨hprinted, hsame, _⟩ := printed_of_publish hapi.floats haccepted
    have hnone := get_apiEventType hapi.eventType
    rw [← hsame] at hnone
    refine ⟨⟨hprinted, .inr hnone⟩, fun n htells => ?_⟩
    rw [handled_of_tells htells] at hnone
    exact absurd hnone (List.cons_ne_nil _ _)
  · have hfloats : FloatsOkFields py p.event.payload := by
      rw [hevent]
      exact ⟨trivial, trivial, trivial, ⟨trivial, trivial, trivial⟩, trivial⟩
    obtain ⟨hprinted, hsame, _⟩ := printed_of_publish hfloats haccepted
    refine ⟨⟨hprinted, .inl ⟨r.notice, stamp, r, hsame.trans hevent, rfl⟩⟩, fun n htells => ?_⟩
    obtain ⟨stamp', r₁, hevent', rfl⟩ := htells
    refine ⟨r', hr', hnotice.trans ?_, hstatus⟩
    exact notice_of_completionEvent (hevent.symm.trans (hsame.symm.trans hevent'))

/-- A dead letter has no handler. -/
theorem known_of_deadLetter {stamp : Stamp} {produce : ProduceOutcome} {msg : KafkaMessage}
    {error : Text} {rec : Record} (h : rec ∈ (sendToDlq py stamp produce msg error).records) :
    rec.Known py := by
  have hfloats : FloatsOkFields py (dlqEvent stamp msg error).payload :=
    ⟨trivial, trivial, trivial, trivial, trivial, trivial⟩
  cases hpub : sendToDlq py stamp produce msg error with
  | accepted rec' =>
      rw [hpub] at h
      obtain rfl : rec = rec' := List.mem_singleton.mp h
      obtain ⟨hprinted, hevent, _⟩ := printed_of_publish hfloats hpub
      refine ⟨hprinted, .inr ?_⟩
      rw [hevent]
      show (registerAllHandlers []).get (rejoin (txt "dlq.failed")) = []
      rw [rejoin_ascii (ascii_of_all (by decide)), get_registerAllHandlers]
      decide
  | refused =>
      rw [hpub] at h
      exact absurd h List.not_mem_nil
  | raised =>
      rw [hpub] at h
      exact absurd h List.not_mem_nil

/-! ## §6. Runs. -/

/-- Whom a socket belongs to, also after it is closed. -/
def Sockets.owner (s : Sockets) (channel : Nat) : Option Uuid :=
  (s.consumers[channel]?).bind fun c => c.user.map User.id

theorem owner_of_openAs {s : Sockets} {channel : Nat} {g : Uuid} (h : s.OpenAs channel g) :
    s.owner channel = some g := by
  unfold Sockets.OpenAs Sockets.openUser at h
  unfold Sockets.owner
  cases hc : s.consumers[channel]? with
  | none =>
      rw [hc] at h
      exact absurd h (by simp)
  | some c =>
      rw [hc, Option.bind_some] at h
      rw [Option.bind_some]
      split at h
      · exact h
      · exact absurd h (by simp)

/-- Nobody else gets the channel. -/
theorem owner_socketStep {s : Sockets} {channel : Nat} {g : Uuid} (h : s.owner channel = some g)
    (e : SocketEvent) : (socketStep s e).owner channel = some g := by
  have hthere : channel < s.consumers.length := by
    by_contra hout
    unfold Sockets.owner at h
    rw [List.getElem?_eq_none (Nat.le_of_not_lt hout)] at h
    exact absurd h (by simp)
  have happend : ∀ {s' : Sockets} {c : VoiceConsumer}, s'.consumers = s.consumers ++ [c] →
      s'.owner channel = some g := by
    intro s' c hs'
    unfold Sockets.owner at h ⊢
    rw [hs', List.getElem?_append_left hthere]
    exact h
  cases e with
  | connect users accessToken scope =>
      show (s.connect users accessToken scope).1.owner channel = some g
      unfold Sockets.connect
      simp only
      split
      · exact happend rfl
      · exact happend rfl
      · exact happend rfl
  | disconnect closing =>
      show (s.disconnect closing).owner channel = some g
      unfold Sockets.disconnect
      split
      · exact h
      next c hc =>
        split
        · -- the consumer keeps its user
          unfold Sockets.owner at h ⊢
          show ((s.consumers.set closing { c with status := .disconnected })[channel]?).bind _ = _
          by_cases heq : closing = channel
          · subst heq
            rw [List.getElem?_set_self hthere]
            rw [hc] at h
            exact h
          · rw [List.getElem?_set_ne heq]
            exact h
        · exact h
  | push guestId message data => exact h
  | staffTask db requestId priority => exact h

/-- **Each notification is about a completed request of the socket's user.** -/
def NotifiedHotel.Own (s : NotifiedHotel) : Prop :=
  ∀ channel message data, notificationFrame message data ∈ s.inbox channel →
    ∃ rec ∈ s.world.log, ∃ n, rec.Tells n ∧ notificationFrame message data = n.frame
      ∧ s.sockets.owner channel = some n.guestId

/-- **The step tells the guests what it should, and nothing else.** -/
def TellsCompletions (D : Deployment) (s : NotifiedHotel) (i : NoticeStep py) : Prop :=
  match i with
  | .consume k _ _ env => ∀ rec, s.world.log[k]? = some rec → ∀ channel,
      (∀ n, rec.Tells n → (noticeStep D s i).inbox channel = s.inbox channel
        ++ if s.sockets.OpenAs channel n.guestId ∧ ¬ env.exhausts 0 then [n.frame] else [])
      ∧ ((∀ n, ¬ rec.Tells n) → (noticeStep D s i).inbox channel = s.inbox channel)
  | .request _ => (noticeStep D s i).inbox = s.inbox
      -- only of a request that is stored as completed
      ∧ ∃ records, (noticeStep D s i).world.log = s.world.log ++ records
        ∧ ∀ rec ∈ records, ∀ n, rec.Tells n →
          ∃ r ∈ (noticeStep D s i).world.db.serviceRequests,
            r.notice = n ∧ r.status = .completed
  | _ => ∀ channel, ∃ frames, (noticeStep D s i).inbox channel = s.inbox channel ++ frames
      ∧ ∀ message data, notificationFrame message data ∉ frames

structure NotifiedHotel.Sound (py : Python) (s : NotifiedHotel) : Prop where
  groups : Consistent s.sockets
  log : ∀ rec ∈ s.world.log, rec.Known py
  own : s.Own

/-- What a consumed record sends to one socket. -/
theorem received_completion {s : Sockets} (hs : Consistent s) {rec : Record}
    (hrec : rec.Known py) {n : Notice} (htells : rec.Tells n) (partition offset : Nat) (env : Env)
    (channel : Nat) :
    Groups.received ((tasksOf (consumption py rec partition offset env)).flatMap (s.perform py))
        channel
      = if s.OpenAs channel n.guestId ∧ ¬ env.exhausts 0 then [n.frame] else [] := by
  obtain ⟨stamp, r, hevent, rfl⟩ := htells
  rw [tasksOf_completion hrec.printed hevent]
  by_cases hexhausts : env.exhausts 0
  · rw [if_pos hexhausts, if_neg fun h => h.2 hexhausts]
    rfl
  · rw [if_neg hexhausts, tasks_completion, Option.getD_some, List.flatMap_singleton]
    show Groups.received (s.groupSend (guestGroup r.guestId.str) (notificationEvent _ _)) channel
      = _
    rw [received_groupSend]
    refine if_congr ?_ rfl rfl
    rw [lists_guestGroup hs]
    exact (and_iff_left hexhausts).symm

/-- Nothing is sent for any other record. -/
theorem received_other (s : Sockets) {rec : Record} (hrec : rec.Known py)
    (hother : ∀ n, ¬ rec.Tells n) (partition offset : Nat) (env : Env) (channel : Nat) :
    Groups.received ((tasksOf (consumption py rec partition offset env)).flatMap (s.perform py))
        channel = [] := by
  have hnone := hrec.kind.resolve_left fun ⟨n, htells⟩ => hother n htells
  rw [tasksOf_unhandled hrec.printed hnone]
  rfl

/-- A connection gets no notification by connecting. -/
theorem not_notified_by_connect (s : Sockets) (users : Table User.id)
    (accessToken : Text → TokenReading) (scope : Scope) (channel : Nat) (message data : Json) :
    notificationFrame message data
      ∉ Groups.received (s.handle (.connect users accessToken scope)).2 channel := by
  have hframe : notificationFrame message data ≠ .frame (connectedFrame scope.sessionId) := by
    intro h
    unfold notificationFrame connectedFrame at h
    simp only [SocketSend.frame.injEq, Json.obj.injEq, List.cons.injEq, Prod.mk.injEq,
      Json.str.injEq] at h
    exact absurd h.1.2 (by decide)
  have hsent : ∀ d ∈ (s.connect users accessToken scope).2,
      d.2 ≠ notificationFrame message data := by
    unfold Sockets.connect
    simp only
    split
    · exact fun d hd => absurd hd List.not_mem_nil
    · intro d hd
      rw [List.mem_singleton.mp hd]
      exact SocketSend.noConfusion
    · intro d hd
      rcases List.mem_pair.mp hd with rfl | rfl
      · exact SocketSend.noConfusion
      · exact hframe.symm
  intro hmem
  obtain ⟨d, hd, hsame⟩ := List.mem_map.mp hmem
  exact hsent d (List.mem_filter.mp hd).1 hsame

/-- **One step**, from a state in order. -/
theorem tellsCompletions_step (D : Deployment) {s : NotifiedHotel} (hs : s.Sound py)
    (i : NoticeStep py) : TellsCompletions D s i := by
  cases i with
  | request call =>
      refine ⟨rfl, handedOver py (call.request.calls D s.world.db),
        log_serve D s.world call.latencyMs call.request, fun rec hrec => ?_⟩
      exact (known_of_request D s.world call.latencyMs hrec).2
  | connect accessToken scope =>
      intro channel
      exact ⟨_, rfl, not_notified_by_connect s.sockets s.world.db.users accessToken scope channel⟩
  | disconnect closing =>
      intro channel
      exact ⟨[], rfl, fun _ _ => List.not_mem_nil⟩
  | staffTask requestId priority =>
      intro channel
      refine ⟨_, rfl, fun message data => ?_⟩
      show _ ∉ Groups.received
        (s.sockets.notifyStaffOfServiceRequest s.world.db requestId priority) channel
      rw [notifyStaff_nil hs.groups]
      exact List.not_mem_nil
  | deadLetter stamp produce msg error =>
      intro channel
      exact ⟨[], (List.append_nil _).symm, fun _ _ => List.not_mem_nil⟩
  | consume k partition offset env =>
      intro rec hrec channel
      have hknown := hs.log rec (List.mem_of_getElem? hrec)
      have hinbox : (noticeStep D s (.consume k partition offset env : NoticeStep py)).inbox channel
          = s.inbox channel ++ Groups.received ((tasksOf (consumption py rec partition offset
            env)).flatMap (s.sockets.perform py)) channel := by
        simp only [noticeStep, hrec]
        rfl
      refine ⟨fun n htells => ?_, fun hother => ?_⟩
      · rw [hinbox, received_completion hs.groups hknown htells]
      · rw [hinbox, received_other s.sockets hknown hother, List.append_nil]

/-- The sockets after a step. -/
theorem sockets_noticeStep (D : Deployment) (s : NotifiedHotel) (i : NoticeStep py) :
    (noticeStep D s i).sockets = s.sockets
      ∨ ∃ e, (noticeStep D s i).sockets = socketStep s.sockets e := by
  cases i with
  | request call => exact .inl rfl
  | connect accessToken scope => exact .inr ⟨_, rfl⟩
  | disconnect channel => exact .inr ⟨_, rfl⟩
  | staffTask requestId priority => exact .inl rfl
  | deadLetter stamp produce msg error => exact .inl rfl
  | consume k partition offset env =>
      left
      unfold noticeStep
      simp only
      split
      · rfl
      · rfl

/-- The log after a step. -/
theorem log_noticeStep (D : Deployment) (s : NotifiedHotel) (i : NoticeStep py) :
    ∃ records, (noticeStep D s i).world.log = s.world.log ++ records
      ∧ ∀ rec ∈ records, rec.Known py := by
  have hquiet : s.world.log = s.world.log ++ [] ∧ ∀ rec ∈ ([] : List Record), rec.Known py :=
    ⟨(List.append_nil _).symm, fun _ h => absurd h List.not_mem_nil⟩
  cases i with
  | request call =>
      exact ⟨_, log_serve D s.world call.latencyMs call.request, fun rec hrec =>
        (known_of_request D s.world call.latencyMs hrec).1⟩
  | connect accessToken scope => exact ⟨[], hquiet⟩
  | disconnect channel => exact ⟨[], hquiet⟩
  | staffTask requestId priority => exact ⟨[], hquiet⟩
  | deadLetter stamp produce msg error => exact ⟨_, rfl, fun _ => known_of_deadLetter⟩
  | consume k partition offset env =>
      unfold noticeStep
      simp only
      split
      · exact ⟨[], hquiet⟩
      · exact ⟨[], hquiet⟩

/-- A notification that a step adds is about a request of the socket's user. -/
theorem own_new (D : Deployment) {s : NotifiedHotel} (hs : s.Sound py) (i : NoticeStep py)
    {channel : Nat} {message data : Json}
    (h : notificationFrame message data ∈ (noticeStep D s i).inbox channel) :
    notificationFrame message data ∈ s.inbox channel
      ∨ ∃ rec ∈ s.world.log, ∃ n, rec.Tells n ∧ notificationFrame message data = n.frame
        ∧ s.sockets.owner channel = some n.guestId := by
  have htells := tellsCompletions_step D hs i
  -- by what the step is allowed to send
  have hquiet : (∃ frames, (noticeStep D s i).inbox channel = s.inbox channel ++ frames
      ∧ ∀ message data, notificationFrame message data ∉ frames)
      → notificationFrame message data ∈ s.inbox channel := by
    rintro ⟨frames, hinbox, hnone⟩
    rw [hinbox] at h
    exact (List.mem_append.mp h).resolve_right (hnone message data)
  cases i with
  | request call =>
      left
      rw [htells.1] at h
      exact h
  | connect accessToken scope => exact .inl (hquiet (htells channel))
  | disconnect closing => exact .inl (hquiet (htells channel))
  | staffTask requestId priority => exact .inl (hquiet (htells channel))
  | deadLetter stamp produce msg error => exact .inl (hquiet (htells channel))
  | consume k partition offset env =>
      cases hrec : s.world.log[k]? with
      | none =>
          left
          unfold noticeStep at h
          simp only [hrec] at h
          exact h
      | some rec =>
          obtain ⟨hcompletion, hother⟩ := htells rec hrec channel
          by_cases hany : ∃ n, rec.Tells n
          · obtain ⟨n, hn⟩ := hany
            rw [hcompletion n hn] at h
            refine (List.mem_append.mp h).imp id fun hnew => ?_
            split at hnew
            next hopen =>
              exact ⟨rec, List.mem_of_getElem? hrec, n, hn, List.mem_singleton.mp hnew,
                owner_of_openAs hopen.1⟩
            · exact absurd hnew List.not_mem_nil
          · left
            rw [hother fun n hn => hany ⟨n, hn⟩] at h
            exact h

theorem sound_noticeStep (D : Deployment) {s : NotifiedHotel} (hs : s.Sound py)
    (i : NoticeStep py) : (noticeStep D s i).Sound py := by
  obtain ⟨records, hlog, hknown⟩ := log_noticeStep D s i
  refine ⟨?_, fun rec hrec => ?_, fun channel message data hframe => ?_⟩
  · rcases sockets_noticeStep D s i with hsame | ⟨e, hstep⟩
    · rw [hsame]
      exact hs.groups
    · rw [hstep]
      exact consistent_step s.sockets e hs.groups
  · rw [hlog] at hrec
    exact (List.mem_append.mp hrec).elim (hs.log rec) (hknown rec)
  · -- an old notification or a new one, from a record and for an owner that stay
    have hold : ∃ rec ∈ s.world.log, ∃ n, rec.Tells n
        ∧ notificationFrame message data = n.frame
        ∧ s.sockets.owner channel = some n.guestId :=
      (own_new D hs i hframe).elim (hs.own channel message data) id
    obtain ⟨rec, hrec, n, htells, hsame, howner⟩ := hold
    refine ⟨rec, ?_, n, htells, hsame, ?_⟩
    · rw [hlog]
      exact List.mem_append_left _ hrec
    · rcases sockets_noticeStep D s i with hkept | ⟨e, hstep⟩
      · rw [hkept]
        exact howner
      · rw [hstep]
        exact owner_socketStep howner e

theorem sound_start (db : Db) : (NotifiedHotel.start db).Sound py where
  groups := consistent_start
  log := fun _ h => absurd h List.not_mem_nil
  own := fun _ _ _ h => absurd h List.not_mem_nil

theorem sound_run (D : Deployment) (db : Db) (is : List (NoticeStep py)) :
    AllStates (noticeStep D) (NotifiedHotel.Sound py) (.start db) is := by
  refine allStates_of_step (fun s i hs => ?_) ?_ is
  · exact sound_noticeStep D hs i
  · exact sound_start db

/-- **Completions are told.**  In every run of the hotel, a consumed completion goes to each open
socket of its guest as one frame, unless all three attempts fail, and to no other socket; no other
step sends a notification, and only a request that is then stored as completed is ever published as
one. -/
theorem completions_are_told (D : Deployment) (db : Db) (is : List (NoticeStep py)) :
    AllSteps (noticeStep D) (TellsCompletions D) (.start db) is :=
  (sound_run D db is).allSteps fun _ i hs => tellsCompletions_step D hs i

/-- **Notices are the guest's own.**  In every state of every run, each notification that a socket
has got was published for a request of the user of that socket. -/
theorem notices_are_own (D : Deployment) (db : Db) (is : List (NoticeStep py)) :
    AllStates (noticeStep D) NotifiedHotel.Own (.start db) is :=
  (sound_run D db is).imp fun _ hs => hs.own

end HotelAgent
