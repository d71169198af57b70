/-
  HotelAgent.Api.Sockets — the sockets of the hotel and what is pushed to them.

  A `VoiceSessionConsumer` is made for every connection attempt.  `connect` looks
  for the user behind the token, lists the consumer's channel in the group
  `guest_<id>` and accepts; without a user it closes the connection with 4001.
  `disconnect` takes the channel off the list again.  A push names the group of a
  guest by the text of the guest's id; the notification of a new service request
  goes to the group `staff_notifications`, whose name no consumer uses.

  Main results:
    * `consistent_run` — in every state of every run the group table lists exactly
      the open sockets, each in the group of its user.
    * `received_groupSend` — what a socket gets of a message to a group.
-/
import HotelAgent.Lib.Channels
import HotelAgent.Lib.Run
import HotelAgent.Api.Access
import HotelAgent.Api.Serializers

namespace HotelAgent

open Lib

/-! ## §1. Authentication. -/

/-- What `AccessToken(token_str)` and `token["user_id"]` come to. -/
inductive TokenReading where
  | tokenError
  | keyError
  | userId (id : Uuid)
  /-- The claim is no UUID: a `ValidationError` of the lookup, which nothing catches. -/
  | invalidId

inductive Authentication where
  | user (user : User)
  | anonymous
  | raises

/-- `_authenticate_token`, from what the token reads as. -/
def authenticateToken (users : Table User.id) : TokenReading → Authentication
  | .tokenError | .keyError => .anonymous
  | .userId id =>
    match users.find? id with
    | some user => .user user
    | none => .anonymous
  | .invalidId => .raises

/-- The part of the connection's scope that `connect` reads. -/
structure Scope where
  queryString : List UInt8
  /-- `scope["url_route"]["kwargs"].get("session_id")` -/
  sessionId : Option Text

/-- `….split("token=")[-1].split("&")[0]`. -/
def tokenStr (query : Text) : Text :=
  ((splitOn (txt "&") ((splitOn (txt "token=") query).getLastD [])).headD [])

/-- The user of a connection; `accessToken` reads token texts. -/
def authenticateScope (users : Table User.id) (accessToken : Text → TokenReading) (scope : Scope) :
    Authentication :=
  match decodeUtf8 scope.queryString with
  | some query => authenticateToken users (accessToken (tokenStr query))
  -- a UnicodeDecodeError
  | none => .raises

example : tokenStr (txt "lang=en&token=ey.J-h&x=1") = txt "ey.J-h" := by decide

/-! ## §2. Consumers. -/

inductive SocketStatus where
  /-- accepted, and not disconnected since -/
  | opened
  /-- closed by `connect`; the disconnect is still to come -/
  | rejected
  /-- `connect` has raised, which ends the consumer -/
  | failed
  | disconnected
  deriving DecidableEq

/-- A `VoiceSessionConsumer`. -/
structure VoiceConsumer where
  user : Option User
  sessionId : Option Text
  groupName : Option Text
  status : SocketStatus

/-- What a consumer sends over its socket. -/
inductive SocketSend where
  | accept
  /-- `self.send(json.dumps(frame))` -/
  | frame (frame : Json)
  | close (code : Nat)
  deriving DecidableEq

/-- The consumers made so far and what they share.  Channel names are given out in turn: the
`n`th consumer has the name `n`. -/
structure Sockets where
  groups : Groups Text Nat
  consumers : List VoiceConsumer
  /-- the consumers' part of the gauge `ACTIVE_VOICE_SESSIONS` -/
  activeVoiceSessions : Int

def Sockets.start : Sockets := ⟨.empty, [], 0⟩

/-- What is sent in a step, and over which socket. -/
abbrev Deliveries := List (Nat × SocketSend)

/-- `f"guest_{guest_id}"`. -/
def guestGroup (guestId : Text) : Text := txt "guest_" ++ guestId

/-- The frame after `accept`. -/
def connectedFrame (sessionId : Option Text) : Json :=
  .obj [(txt "type", .str (txt "connected")), (txt "session_id", orNull .str sessionId),
    (txt "message", .str (txt "Voice session ready. How can I assist you?"))]

/-- `connect`. -/
def Sockets.connect (s : Sockets) (users : Table User.id) (accessToken : Text → TokenReading)
    (scope : Scope) : Sockets × Deliveries :=
  let channel := s.consumers.length
  match authenticateScope users accessToken scope with
  | .raises => ({ s with consumers := s.consumers ++ [⟨none, none, none, .failed⟩] }, [])
  | .anonymous =>
    ({ s with consumers := s.consumers ++ [⟨none, none, none, .rejected⟩] },
      [(channel, .close 4001)])
  | .user user =>
    let groupName := guestGroup user.id.str
    ({ groups := s.groups.add groupName channel
       consumers := s.consumers ++ [⟨some user, scope.sessionId, some groupName, .opened⟩]
       activeVoiceSessions := s.activeVoiceSessions + 1 },
      [(channel, .accept), (channel, .frame (connectedFrame scope.sessionId))])

/-- `disconnect`; only a consumer that waits for it is called. -/
def Sockets.disconnect (s : Sockets) (channel : Nat) : Sockets :=
  match s.consumers[channel]? with
  | none => s
  | some c =>
    if c.status = .opened ∨ c.status = .rejected then
      { groups :=
          match c.groupName with
          | some name => s.groups.discard name channel
          | none => s.groups
        consumers := s.consumers.set channel { c with status := .disconnected }
        activeVoiceSessions := s.activeVoiceSessions - 1 }
    else s

/-! ## §3. Messages to a group. -/

/-- A message for the channel layer; `type` names the method that takes it. -/
def notificationEvent (message data : Json) : List (Text × Json) :=
  [(txt "type", .str (txt "notification_message")), (txt "message", message), (txt "data", data)]

/-- `notification_message`; `none` is a `KeyError`. -/
def notificationMessage (event : List (Text × Json)) : Option SocketSend :=
  (dictGet? event (txt "message")).map fun message => .frame
    (.obj [(txt "type", .str (txt "notification")), (txt "message", message),
      (txt "data", dictGet event (txt "data") (.obj []))])

/-- The method of the consumer that a message from the channel layer is given to. -/
def dispatchEvent (event : List (Text × Json)) : Option SocketSend :=
  if dictGet? event (txt "type") = some (.str (txt "notification_message")) then
    notificationMessage event
  else none

/-- A `group_send`, with what each consumer makes of its copy. -/
def Sockets.groupSend (s : Sockets) (name : Text) (event : List (Text × Json)) : Deliveries :=
  (s.groups.send name event).filterMap fun copy => (dispatchEvent copy.2).map fun d => (copy.1, d)

/-- `push_notification_to_guest`. -/
def Sockets.pushNotificationToGuest (s : Sockets) (guestId : Text) (message data : Json) :
    Deliveries :=
  s.groupSend (guestGroup guestId) (notificationEvent message data)

/-- What `notify_staff_of_service_request` says about a request; the rows it follows exist in
every database. -/
def staffMessage (db : Db) (r : ServiceRequest) (priority : Json) : Option (Json × Json) :=
  match db.bookings.find? r.bookingId, db.users.find? r.guestId with
  | some b, some guest =>
    (db.rooms.find? b.roomId).map fun room =>
      (.str (txt "New " ++ displayOf serviceTypeChoices r.serviceType ++ txt " request - Room "
          ++ room.number),
        .obj [(txt "request_id", .str r.id.str), (txt "service_type", .str r.serviceType),
          (txt "priority", priority), (txt "room", .str room.number),
          (txt "guest", .str guest.fullName)])
  | _, _ => none

/-- `notify_staff_of_service_request`; the request id is what its text reads as.  Without such a
request the task raises and is tried again later, which is another task. -/
def Sockets.notifyStaffOfServiceRequest (s : Sockets) (db : Db) (requestId : Option Uuid)
    (priority : Json) : Deliveries :=
  match (requestId.bind db.serviceRequests.find?).bind (staffMessage db · priority) with
  | some (message, data) => s.groupSend (txt "staff_notifications") (notificationEvent message data)
  | none => []

/-- The frame of a notification. -/
def notificationFrame (message data : Json) : SocketSend :=
  .frame (.obj [(txt "type", .str (txt "notification")), (txt "message", message),
    (txt "data", data)])

/-- A notification is taken by `notification_message`, which sends all of it. -/
theorem dispatchEvent_notificationEvent (message data : Json) :
    dispatchEvent (notificationEvent message data) = some (notificationFrame message data) := by
  have hmessage : dictGet? (notificationEvent message data) (txt "message") = some message := by
    simp [notificationEvent, dictGet?, show txt "type" ≠ txt "message" by decide]
  have hdata : dictGet (notificationEvent message data) (txt "data") (.obj []) = data := by
    simp [notificationEvent, dictGet, dictGet?, show txt "type" ≠ txt "data" by decide,
      show txt "message" ≠ txt "data" by decide]
  rw [dispatchEvent, if_pos (by simp [notificationEvent, dictGet?]), notificationMessage, hmessage,
    hdata]
  rfl

/-- **A notification to a group** comes out of each socket in the group once. -/
theorem received_groupSend (s : Sockets) (name : Text) (message data : Json) (channel : Nat) :
    Groups.received (s.groupSend name (notificationEvent message data)) channel
      = if s.groups.Lists name channel then [notificationFrame message data] else [] := by
  have hsend : s.groupSend name (notificationEvent message data)
      = s.groups.send name (notificationFrame message data) := by
    unfold Sockets.groupSend Groups.send
    rw [List.filterMap_map, ← List.filterMap_eq_map]
    refine List.filterMap_congr fun c _ => ?_
    simp only [Function.comp_apply, dispatchEvent_notificationEvent, Option.map_some]
  rw [hsend, Groups.received_send]

/-! ## §4. Events and runs. -/

inductive SocketEvent where
  /-- A connection attempt, with the users there are and the reading of tokens at that time. -/
  | connect (users : Table User.id) (accessToken : Text → TokenReading) (scope : Scope)
  | disconnect (channel : Nat)
  | push (guestId : Text) (message data : Json)
  /-- A run of `notify_staff_of_service_request`. -/
  | staffTask (db : Db) (requestId : Option Uuid) (priority : Json)

/-- What an event does and what is sent in it. -/
def Sockets.handle (s : Sockets) : SocketEvent → Sockets × Deliveries
  | .connect users accessToken scope => s.connect users accessToken scope
  | .disconnect channel => (s.disconnect channel, [])
  | .push guestId message data => (s, s.pushNotificationToGuest guestId message data)
  | .staffTask db requestId priority => (s, s.notifyStaffOfServiceRequest db requestId priority)

def socketStep (s : Sockets) (e : SocketEvent) : Sockets := (s.handle e).1

/-- The user of an open socket. -/
def Sockets.openUser (s : Sockets) (channel : Nat) : Option User :=
  (s.consumers[channel]?).bind fun c => if c.status = .opened then c.user else none

/-- The socket is open and authenticated as the user `g`. -/
def Sockets.OpenAs (s : Sockets) (channel : Nat) (g : Uuid) : Prop :=
  (s.openUser channel).map User.id = some g

instance (s : Sockets) (channel : Nat) (g : Uuid) : Decidable (s.OpenAs channel g) :=
  inferInstanceAs (Decidable (_ = _))

/-! ## §5. The group table. -/

/-- A consumer keeps its user and its group together, and is open only with both. -/
structure VoiceConsumer.Ok (c : VoiceConsumer) : Prop where
  group : c.groupName = c.user.map fun u => guestGroup u.id.str
  opened : c.status = .opened → c.user.isSome = true

/-- The channel is that of an open consumer in the group `name`. -/
def Sockets.Joined (s : Sockets) (name : Text) (channel : Nat) : Prop :=
  ∃ u, s.openUser channel = some u ∧ name = guestGroup u.id.str

/-- Every consumer is in order, and the table lists the open ones. -/
structure Consistent (s : Sockets) : Prop where
  consumers : ∀ c ∈ s.consumers, c.Ok
  groups : s.groups.Tracks s.Joined

theorem consistent_start : Consistent .start where
  consumers := fun _ h => absurd h List.not_mem_nil
  groups := Groups.tracks_empty fun _ _ ⟨_, h, _⟩ => absurd h (by simp [Sockets.openUser, Sockets.start])

/-- A new consumer has the next channel name; the others keep theirs. -/
theorem openUser_append {s s' : Sockets} {c : VoiceConsumer}
    (h : s'.consumers = s.consumers ++ [c]) (channel : Nat) :
    s'.openUser channel
      = if channel = s.consumers.length then (if c.status = .opened then c.user else none)
        else s.openUser channel := by
  unfold Sockets.openUser
  rw [h]
  by_cases hlt : channel < s.consumers.length
  · rw [List.getElem?_append_left hlt, if_neg (by omega)]
  · by_cases heq : channel = s.consumers.length
    · subst heq
      simp
    · rw [if_neg heq, List.getElem?_eq_none (by simp; omega), List.getElem?_eq_none (by omega)]

/-- A consumer that leaves its socket has no user to show. -/
theorem openUser_set {s s' : Sockets} {c : VoiceConsumer} {channel : Nat}
    (h : s'.consumers = s.consumers.set channel c) (hclosed : c.status ≠ .opened) (other : Nat) :
    s'.openUser other = if other = channel then none else s.openUser other := by
  unfold Sockets.openUser
  rw [h]
  by_cases heq : other = channel
  · subst heq
    rw [if_pos rfl, List.getElem?_set_self']
    cases s.consumers[other]? with
    | none => rfl
    | some d => exact if_neg hclosed
  · have hne : channel ≠ other := fun h => heq h.symm
    rw [if_neg heq, List.getElem?_set_ne hne]

/-- A consumer that is not open joins nothing. -/
theorem consistent_append {s : Sockets} (hs : Consistent s) {c : VoiceConsumer} (hc : c.Ok)
    (hclosed : c.status ≠ .opened) :
    Consistent { s with consumers := s.consumers ++ [c] } where
  consumers := by
    intro d hd
    rcases List.mem_append.mp hd with hd | hd
    · exact hs.consumers d hd
    · rw [List.mem_singleton.mp hd]
      exact hc
  groups := by
    refine hs.groups.congr fun name channel => ?_
    unfold Sockets.Joined
    rw [openUser_append rfl, if_neg hclosed]
    split
    next heq =>
      -- nobody had this channel before
      have hnone : s.openUser channel = none := by simp [Sockets.openUser, heq]
      rw [hnone]
    next => exact Iff.rfl

/-- **`connect` keeps the table.** -/
theorem consistent_connect {s : Sockets} (hs : Consistent s) (users : Table User.id)
    (accessToken : Text → TokenReading) (scope : Scope) :
    Consistent (s.connect users accessToken scope).1 := by
  unfold Sockets.connect
  cases authenticateScope users accessToken scope with
  | raises => exact consistent_append hs ⟨rfl, by simp⟩ (by simp)
  | anonymous => exact consistent_append hs ⟨rfl, by simp⟩ (by simp)
  | user user =>
      constructor
      · intro d hd
        rcases List.mem_append.mp hd with hd | hd
        · exact hs.consumers d hd
        · rw [List.mem_singleton.mp hd]
          exact ⟨rfl, fun _ => rfl⟩
      · refine hs.groups.add _ _ fun name channel => ?_
        unfold Sockets.Joined
        rw [openUser_append rfl]
        by_cases heq : channel = s.consumers.length
        · have hnone : s.openUser channel = none := by simp [Sockets.openUser, heq]
          simp [heq, heq ▸ hnone]
        · simp [heq]

/-- **`disconnect` keeps the table.** -/
theorem consistent_disconnect {s : Sockets} (hs : Consistent s) (channel : Nat) :
    Consistent (s.disconnect channel) := by
  unfold Sockets.disconnect
  split
  · exact hs
  next c hc =>
    have hok := hs.consumers c (List.mem_of_getElem? hc)
    have hlt : channel < s.consumers.length := (List.getElem?_eq_some_iff.mp hc).1
    split
    next hwaits =>
      constructor
      · intro d hd
        rcases List.mem_or_eq_of_mem_set hd with hd | rfl
        · exact hs.consumers d hd
        · exact ⟨hok.group, fun h => absurd h (by simp)⟩
      · cases huser : c.user with
        | none =>
            have hname : c.groupName = none := by rw [hok.group, huser]; rfl
            rw [hname]
            refine hs.groups.congr fun name other => ?_
            unfold Sockets.Joined
            rw [openUser_set rfl (by simp)]
            split
            next heq =>
              have hnone : s.openUser other = none := by simp [Sockets.openUser, heq, hc, huser]
              rw [hnone]
            next => exact Iff.rfl
        | some u =>
            have hname : c.groupName = some (guestGroup u.id.str) := by rw [hok.group, huser]; rfl
            rw [hname]
            refine hs.groups.discard _ _ fun name other => ?_
            unfold Sockets.Joined
            rw [openUser_set rfl (by simp)]
            by_cases heq : other = channel
            · -- an open consumer was in the group of its user only
              subst heq
              simp only [if_true, Sockets.openUser, hc, Option.bind_some, huser]
              split <;> simp
            · simp [heq]
    next => exact hs

/-- One event keeps the table. -/
theorem consistent_step (s : Sockets) (e : SocketEvent) (hs : Consistent s) :
    Consistent (socketStep s e) := by
  cases e with
  | connect users accessToken scope => exact consistent_connect hs users accessToken scope
  | disconnect channel => exact consistent_disconnect hs channel
  | push guestId message data => exact hs
  | staffTask db requestId priority => exact hs

/-- **The table is right in every state of every run.** -/
theorem consistent_run (es : List SocketEvent) : AllStates socketStep Consistent .start es :=
  allStates_of_step consistent_step consistent_start es

end HotelAgent
