/-
  HotelAgent.Api.GuestConversations — a guest's conversation beside other guests.

  While a guest talks over a WebSocket, other guests register, log in, book and
  talk over REST.  What they send reaches the guest's conversation neither through
  the guest's rows nor through the rooms, of which a stay reads only what stands:

      frame ──▶ session of the guest ──▶ its booking ──▶ number and type of the room

  Main results:
    * `others_leave_guest` — no run of requests by other guests, or by nobody,
      changes a session, a service request or a booking of the guest.
    * `conversation_isolated` — a conversation is answered as if those requests had
      not been made.
    * `history_is_what_was_sent` — the assistant's half of the history is the
      texts that were sent, in order, in every state of every conversation.
-/
import HotelAgent.Api.AnonymousAccess
import HotelAgent.Api.Frames
import HotelAgent.Api.GuestIsolation
import HotelAgent.Api.Standing

namespace HotelAgent

open Lib

variable {py : Python}

/-! ## §1. Requests of others. -/

/-- The user in the token of a write. -/
def ApiRequest.writer : ApiRequest py → Option Uuid
  | .write (.bearer userId) _ _ => some userId
  | _ => none

/-- The request has no token of the guest, and none of the personnel. -/
def Outsider (guestId : Uuid) (personnel : List User) (request : ApiRequest py) : Prop :=
  ∀ userId ∈ request.writer, userId ≠ guestId ∧ ∀ u ∈ personnel, u.id ≠ userId

/-- Fewer guests. -/
theorem SameRows.mono {p q : Uuid → Bool} {db db' : Db} (h : SameRows p db db')
    (hq : ∀ id, q id = true → p id = true) : SameRows q db db' := by
  have hfilter : ∀ {R : Type} (rows : List R) (guestId : R → Uuid),
      rows.filter (fun r => q (guestId r))
        = (rows.filter fun r => p (guestId r)).filter fun r => q (guestId r) := by
    intro R rows guestId
    rw [List.filter_filter]
    refine List.filter_congr fun r _ => ?_
    cases hr : q (guestId r) with
    | false => rfl
    | true => rw [hq _ hr]; rfl
  have hcolumns : ∀ rows : List VoiceSession,
      (rows.filter fun s => q s.guestId).map VoiceSession.columns
        = ((rows.filter fun s => p s.guestId).map VoiceSession.columns).filter fun s =>
            q s.guestId := by
    intro rows
    rw [List.filter_map, hfilter rows VoiceSession.guestId]
    rfl
  -- what the fewer own is picked from what the more own
  refine ⟨?_, ?_, ?_⟩
  · unfold sessionsOf
    rw [hcolumns, hcolumns]
    exact congrArg (List.filter fun s => q s.guestId) h.sessions
  · unfold requestsOf
    rw [hfilter _ ServiceRequest.guestId, hfilter db.serviceRequests.rows ServiceRequest.guestId]
    exact congrArg (List.filter fun r => q r.guestId) h.requests
  · unfold bookingsOf
    rw [hfilter _ Booking.guestId, hfilter db.bookings.rows Booking.guestId]
    exact congrArg (List.filter fun b => q b.guestId) h.bookings

/-- A write without a token changes nothing. -/
theorem db_perform_absent (F : Filters) (w : World) (query : Query) (write : WriteRequest py) :
    (perform F w .absent query write).db = w.db := by
  cases write with
  | voice write =>
      cases write with
      -- 401 before the body is looked at
      | create body fresh => rfl
      | update pk => rfl
      | destroy pk => rfl
      | turn pk body optionErrors agent fresh => rfl
      | finish pk fresh => rfl
  | owned write =>
      cases write with
      | createRequest body =>
          show (OwnedWrite.handle py F w .anonymous none query (.createRequest body)).1.db = w.db
          simp only [OwnedWrite.handle]
          split
          · rfl
          · unfold createServiceRequest
            split
            · rfl
            · rfl
      | updateRequest pk part body => rfl
      | destroyRequest pk => rfl
      | assign pk fresh => rfl
      | complete pk body fresh => rfl
      | createBooking body fresh =>
          show (OwnedWrite.handle py F w .anonymous none query (.createBooking body fresh)).1.db
            = w.db
          simp only [OwnedWrite.handle, postBooking]
          split
          · rfl
          next data _ =>
            split
            · rfl
            · obtain ⟨answer, hread, _⟩ := readCreate_anonymous w.db data.fields
              simp only [createBooking, hread]
      | updateBooking pk part body fresh => rfl
      | destroyBooking pk => rfl

section
variable {p : Uuid → Bool} {db db' : Db}

theorem SameRows.of_same (sessions : db'.voiceSessions = db.voiceSessions)
    (requests : db'.serviceRequests = db.serviceRequests)
    (bookings : db'.bookings = db.bookings) : SameRows p db db' := by
  refine ⟨?_, ?_, ?_⟩
  · unfold sessionsOf
    rw [sessions]
  · unfold requestsOf
    rw [requests]
  · unfold bookingsOf
    rw [bookings]

end

theorem sameRows_register (p : Uuid → Bool) (inet : Text → Bool) (w : World) (body : RegisterBody)
    (remoteAddr : Text) (fresh : RegisterFresh) :
    SameRows p w.db (register inet w body remoteAddr fresh).1.db := by
  unfold register
  split
  · exact .refl p w.db
  · simp only
    split
    · exact .refl p w.db
    next db hins =>
      -- an account and a log entry, and nothing of a stay
      obtain ⟨_, hbookings, hrequests, hsessions, _⟩ := insertUser_others hins
      split
      · exact .of_same hsessions hrequests hbookings
      next db' hlog =>
        obtain ⟨row, rfl⟩ := insertAuditLog_eq_some hlog
        exact .of_same hsessions hrequests hbookings

theorem sameRows_tokenPost (p : Uuid → Bool) (jwt : SimpleJwt) (inet : Text → Bool) (db : Db)
    (req : TokenRequest) (now : Instant) : SameRows p db (tokenPost jwt inet db req now).1 := by
  have hsave : ∀ (db : Db) (id : Uuid) (w : UserWrite), SameRows p db (db.saveUser id w) :=
    fun _ _ _ => .of_same rfl rfl rfl
  -- a login saves an account: the failures, the lock, the last login
  have hlogin : SameRows p db (recordLogin inet db req).1 := by
    unfold recordLogin
    cases req.email.bind db.userByEmail with
    | none => exact .refl p db
    | some u =>
        have hreset : SameRows p db (db.resetFailedLogin u) := by
          unfold Db.resetFailedLogin
          split
          · exact hsave _ _ _
          · exact .refl p db
        simp only
        cases hip : (db.resetFailedLogin u).saveLoginIp inet u req.remoteAddr with
        | none => exact hreset
        | some db' =>
            obtain ⟨ip, _, rfl⟩ := Option.map_eq_some_iff.mp hip
            exact hreset.trans (hsave _ _ _)
  rcases tokenPost_cases jwt inet db req now with ⟨_, heq⟩ | ⟨_, _, heq⟩ | ⟨_, _, status, heq⟩
  · rw [heq]
    exact .refl p db
  · rw [heq]
    exact hlogin
  · rw [heq]
    exact .refl p db

/-- **One request** of somebody else. -/
theorem sameRows_serve (D : Deployment) (w : World) (latencyMs : Text) {guestId : Uuid}
    {request : ApiRequest py} (h : Outsider guestId w.db.personnel request) :
    SameRows (fun id => id = guestId) w.db (request.serve D w latencyMs).1.db := by
  cases request with
  | read cred query call => exact .refl _ w.db
  | rooms cred query pk => exact .refl _ w.db
  | write cred query call =>
      rw [world_serve]
      cases cred with
      | absent => rw [db_perform_absent]; exact .refl _ w.db
      | rejected body => exact .refl _ w.db
      | bearer userId =>
          obtain ⟨hne, hpersonnel⟩ := h userId rfl
          cases hrow : w.db.users.find? userId with
          | none =>
              unfold perform Credentials.user
              simp only [hrow]
              exact .refl _ w.db
          | some u =>
              -- who has an account and is not of the personnel is a guest
              obtain ⟨hmem, hid⟩ := Table.find?_eq_some_iff.mp hrow
              have hguest : u.role = .guest := by
                by_contra hrole
                refine hpersonnel u.identity ?_ hid
                exact List.mem_map_of_mem (List.mem_filter.mpr ⟨hmem, decide_eq_true hrole⟩)
              have hkept := othersKept_perform D.filters hguest hmem query call
              rw [hid] at hkept
              -- whoever asks, it is not the guest
              refine SameRows.mono hkept fun id heq => ?_
              rw [of_decide_eq_true heq]
              exact decide_eq_true hne.symm
  | register body remoteAddr fresh => exact sameRows_register _ D.inet w body remoteAddr fresh
  | token req now => exact sameRows_tokenPost _ D.jwt D.inet w.db req now

theorem personnel_restStep (D : Deployment) (w : World) (call : RestCall py) :
    (restStep D w call).db.personnel = w.db.personnel :=
  (stands_of_leads (statements_serve D w call.latencyMs call.request)).personnel_eq

/-- **Others leave the guest alone**: no run of requests without a token of the guest or of the
personnel changes, adds or takes away a session, a service request or a booking of the guest. -/
theorem others_leave_guest (D : Deployment) (guestId : Uuid) (w : World)
    (calls : List (RestCall py))
    (h : ∀ call ∈ calls, Outsider guestId w.db.personnel call.request) :
    SameRows (fun id => id = guestId) w.db (run (restStep D) w calls).db := by
  induction calls generalizing w with
  | nil => exact .refl _ w.db
  | cons call calls ih =>
      have hfirst := sameRows_serve D w call.latencyMs (h call List.mem_cons_self)
      refine hfirst.trans (ih (restStep D w call) fun c hc => ?_)
      -- nobody joins the personnel meanwhile
      rw [personnel_restStep]
      exact h c (List.mem_cons_of_mem call hc)

/-- The second demo guest opens a session, and somebody without a token tries to. -/
def demoOthers : List (RestCall plainPython) :=
  [⟨.write (.bearer 4) [] (.voice (.create (.data none) (demoSessionFresh 8))), txt "7"⟩,
    ⟨.write .absent [] (.voice (.create (.data none) (demoSessionFresh 9))), txt "8"⟩]

theorem demoOthers_outsiders : ∀ call ∈ demoOthers,
    Outsider demoGuest.id demoDesk.db.personnel call.request := by
  intro call hcall userId hid
  have hwriter : call.request.writer = some 4 ∨ call.request.writer = none := by
    rcases List.mem_pair.mp hcall with rfl | rfl
    · exact .inl rfl
    · exact .inr rfl
  rcases hwriter with h | h
  · rw [h] at hid
    obtain rfl : (4 : Uuid) = userId := Option.some.inj hid
    exact ⟨by decide, by decide +kernel⟩
  · rw [h] at hid
    exact absurd hid (by simp)

/-- The first guest is left alone. -/
theorem others_leave_demo_guest : SameRows (fun id => id = demoGuest.id) demoDesk.db
    (run (restStep plainDeployment) demoDesk demoOthers).db :=
  others_leave_guest plainDeployment demoGuest.id demoDesk demoOthers demoOthers_outsiders

/-! ## §2. Conversations. -/

/-- A connection with everything it has been sent; an exception in `receive` closes it. -/
structure Conversation where
  socket : VoiceSocket
  sent : List Json
  closed : Bool

/-- An accepted connection, with an empty history. -/
def Conversation.start (user : User) (sessionId : Text) (admitted : Admitted sessionId) :
    Conversation :=
  ⟨⟨user, sessionId, admitted, []⟩, [], false⟩

/-- A frame comes in. -/
def Conversation.receive (db : Db) (agent : AgentCall → AgentOutcome py) (c : Conversation)
    (frame : WsFrame) : Conversation :=
  if c.closed then c
  else
    let t := c.socket.receive db agent frame
    ⟨t.socket, c.sent ++ t.frames, t.raised⟩

/-- A guest talks, and others send requests. -/
inductive LobbyStep (py : Python) where
  | frame (agent : AgentCall → AgentOutcome py) (frame : WsFrame)
  | request (call : RestCall py)

structure Lobby where
  world : World
  conversation : Conversation

def lobbyStep (D : Deployment) (s : Lobby) : LobbyStep py → Lobby
  | .frame agent frame => { s with
      conversation := s.conversation.receive s.world.db agent frame }
  | .request call => { s with world := restStep D s.world call }

/-- The frames of the guest, each with the model that it meets. -/
def framesOf (is : List (LobbyStep py)) : List ((AgentCall → AgentOutcome py) × WsFrame) :=
  is.filterMap fun
    | .frame agent frame => some (agent, frame)
    | .request _ => none

/-- The guest's sessions are for bookings of the guest. -/
def OwnStays (guestId : Uuid) (db : Db) : Prop :=
  ∀ s ∈ db.voiceSessions, s.guestId = guestId → ∀ id ∈ s.bookingId,
    ∃ b ∈ db.bookings, b.id = id ∧ b.guestId = guestId

/-- **What a conversation reads of the database** stands. -/
structure SameStay (guestId : Uuid) (db db' : Db) : Prop where
  rows : SameRows (fun id => id = guestId) db db'
  rooms : db'.rooms.rows.map Room.fixture = db.rooms.rows.map Room.fixture

section
variable {db db' : Db}

/-- The session of the guest with this id, but for its links. -/
theorem ownSession_eq (db : Db) (guestId id : Uuid) :
    ((db.voiceSessions.find? id).filter fun s => s.guestId = guestId).map VoiceSession.columns
      = (sessionsOf db fun g => g = guestId).find? fun s => s.id = id := by
  unfold sessionsOf
  rw [List.find?_map, ← Table.find?_filter]
  rfl

/-- A booking of the guest is found in both. -/
theorem ownBooking_eq {guestId id : Uuid} (h : SameRows (fun g => g = guestId) db db')
    (hown : ∃ b ∈ db.bookings, b.id = id ∧ b.guestId = guestId) :
    db'.bookings.find? id = db.bookings.find? id := by
  obtain ⟨b, hb, rfl, hguest⟩ := hown
  have hb' : b ∈ bookingsOf db' fun g => g = guestId := by
    rw [h.bookings]
    exact List.mem_filter.mpr ⟨hb, decide_eq_true hguest⟩
  -- a key names one row in each
  rw [Table.find?_of_mem hb, Table.find?_of_mem (List.mem_filter.mp hb').1]

/-- A room is found in both, as it stands. -/
theorem fixture_find?_eq (h : db'.rooms.rows.map Room.fixture = db.rooms.rows.map Room.fixture)
    (id : Uuid) :
    (db'.rooms.find? id).map Room.fixture = (db.rooms.find? id).map Room.fixture := by
  have hfind : ∀ rows : List Room, (rows.find? fun r => r.id = id).map Room.fixture
      = (rows.map Room.fixture).find? fun r => r.id = id := by
    intro rows
    rw [List.find?_map]
    rfl
  unfold Table.find?
  rw [hfind, hfind, h]

/-- What the context says of a room. -/
theorem roomContext_eq (h : db'.rooms.rows.map Room.fixture = db.rooms.rows.map Room.fixture)
    (b : Booking) :
    ((db'.rooms.find? b.roomId).map fun room =>
        (⟨room.number, room.roomType.label, b.checkOut.str⟩ : RoomContext))
      = (db.rooms.find? b.roomId).map fun room =>
        ⟨room.number, room.roomType.label, b.checkOut.str⟩ := by
  have hmap : ∀ found : Option Room,
      (found.map fun room => (⟨room.number, room.roomType.label, b.checkOut.str⟩ : RoomContext))
        = (found.map Room.fixture).map fun room =>
          ⟨room.number, room.roomType.label, b.checkOut.str⟩ := by
    intro found
    rw [Option.map_map]
    rfl
  rw [hmap, hmap (db.rooms.find? b.roomId), fixture_find?_eq h]

/-- **The guest context** is the same. -/
theorem getGuestContext_of_sameStay {c : VoiceSocket} (h : SameStay c.user.id db db')
    (hown : OwnStays c.user.id db) : c.getGuestContext db' = c.getGuestContext db := by
  unfold VoiceSocket.getGuestContext
  refine congrArg (fun f => (uuidOf c.sessionId).map f) (funext fun id => ?_)
  have hsession := (ownSession_eq db' c.user.id id).trans
    ((congrArg _ h.rows.sessions).trans (ownSession_eq db c.user.id id).symm)
  congr 1
  -- no session of the guest has this id, and so the context is empty in both
  cases hfound : (db.voiceSessions.find? id).filter fun s => s.guestId = c.user.id with
  | none =>
      rw [hfound, Option.map_none, Option.map_eq_none_iff] at hsession
      rw [hsession]
      rfl
  | some s =>
      rw [hfound] at hsession
      obtain ⟨s', hs', hcolumns⟩ := Option.map_eq_some_iff.mp hsession
      rw [hs']
      have hstay : s'.bookingId = s.bookingId := by
        show s'.columns.bookingId = s.columns.bookingId
        rw [hcolumns]
      obtain ⟨hfind, hguest⟩ := Option.filter_eq_some_iff.mp hfound
      show (s'.bookingId.bind db'.bookings.find?).bind (fun b =>
          (db'.rooms.find? b.roomId).bind fun room => some _)
        = (s.bookingId.bind db.bookings.find?).bind (fun b =>
          (db.rooms.find? b.roomId).bind fun room => some _)
      rw [hstay]
      -- session, booking and room, one after the other
      cases hid : s.bookingId with
      | none => rfl
      | some bookingId =>
          have hbooking := ownBooking_eq h.rows
            (hown s (Table.mem_of_find? hfind) (of_decide_eq_true hguest) bookingId hid)
          rw [Option.bind_some, Option.bind_some, hbooking]
          cases db.bookings.find? bookingId with
          | none => rfl
          | some b =>
              rw [Option.bind_some, Option.bind_some]
              have hroom := roomContext_eq h.rooms b
              rw [Option.map_eq_bind, Option.map_eq_bind] at hroom
              exact hroom

/-! ## §3. Conversations beside other guests. -/

variable {agent : AgentCall → AgentOutcome py} {c : VoiceSocket}

/-- The guest context is all that a frame reads of the database. -/
theorem receive_of_context (h : c.getGuestContext db' = c.getGuestContext db) (frame : WsFrame) :
    c.receive db' agent frame = c.receive db agent frame := by
  -- the model is called with the context, the history and the text
  have hcall : c.agentCall db' = c.agentCall db := by
    funext data text
    unfold VoiceSocket.agentCall
    rw [h]
  have htext : c.handleTextInput db' agent = c.handleTextInput db agent := by
    funext data
    unfold VoiceSocket.handleTextInput
    rw [hcall]
  have hmessage : c.handleMessage db' agent = c.handleMessage db agent := by
    funext data
    unfold VoiceSocket.handleMessage VoiceSocket.handleAudioInput
    rw [htext]
  unfold VoiceSocket.receive
  rw [hmessage]

/-- The user is the one of the connect. -/
theorem user_handleTextInput (db : Db) (agent : AgentCall → AgentOutcome py) (c : VoiceSocket)
    (data : List (Text × Json)) : (c.handleTextInput db agent data).socket.user = c.user := by
  unfold VoiceSocket.handleTextInput
  split
  · simp only
    split
    · rfl
    · split
      · rfl
      · split
        · rfl
        · rfl
  · rfl

theorem user_receive (db : Db) (agent : AgentCall → AgentOutcome py) (c : VoiceSocket)
    (frame : WsFrame) : (c.receive db agent frame).socket.user = c.user := by
  unfold VoiceSocket.receive
  split
  · rfl
  · rfl
  · rfl
  -- text, audio, ping and the rest
  next data _ =>
    unfold VoiceSocket.handleMessage
    simp only
    split
    · exact user_handleTextInput db agent c data
    · split
      · unfold VoiceSocket.handleAudioInput
        split
        · rfl
        · exact user_handleTextInput db agent c _
      · split
        · rfl
        · rfl
  · rfl

end

/-- What a conversation is after one of its frames. -/
def Conversation.hears (db : Db) (c : Conversation)
    (i : (AgentCall → AgentOutcome py) × WsFrame) : Conversation :=
  c.receive db i.1 i.2

theorem user_hears (db : Db) (c : Conversation) (i : (AgentCall → AgentOutcome py) × WsFrame) :
    (c.hears db i).socket.user = c.socket.user := by
  unfold Conversation.hears Conversation.receive
  split
  · rfl
  · exact user_receive db i.1 c.socket i.2

theorem SameStay.refl (guestId : Uuid) (db : Db) : SameStay guestId db db :=
  ⟨.refl _ db, rfl⟩

/-- **One request beside the conversation.** -/
theorem sameStay_restStep (D : Deployment) {guestId : Uuid} {db : Db} {w : World}
    {call : RestCall py} (h : SameStay guestId db w.db)
    (hcall : Outsider guestId w.db.personnel call.request) :
    SameStay guestId db (restStep D w call).db where
  rows := h.rows.trans (sameRows_serve D w call.latencyMs hcall)
  rooms :=
    (stands_of_leads (statements_serve D w call.latencyMs call.request)).rooms.trans h.rooms

/-- **One frame of the conversation.** -/
theorem hears_of_sameStay {db db' : Db} {c : Conversation}
    (h : SameStay c.socket.user.id db db') (hown : OwnStays c.socket.user.id db)
    (i : (AgentCall → AgentOutcome py) × WsFrame) : c.hears db' i = c.hears db i := by
  unfold Conversation.hears Conversation.receive
  rw [receive_of_context (getGuestContext_of_sameStay h hown)]

/-- The run, from a database that is the same to the guest as the one the conversation is compared
on. -/
theorem run_lobbyStep (D : Deployment) {db : Db} {s : Lobby} (is : List (LobbyStep py))
    (hstay : SameStay s.conversation.socket.user.id db s.world.db)
    (hown : OwnStays s.conversation.socket.user.id db)
    (h : ∀ call, .request call ∈ is →
      Outsider s.conversation.socket.user.id s.world.db.personnel call.request) :
    (run (lobbyStep D) s is).conversation
      = run (Conversation.hears db) s.conversation (framesOf is) := by
  induction is generalizing s with
  | nil => rfl
  | cons i is ih =>
      cases i with
      | frame agent frame =>
          -- the frame is answered from the database of the beginning
          have hhears : (lobbyStep D s (.frame agent frame)).conversation
              = s.conversation.hears db (agent, frame) :=
            hears_of_sameStay hstay hown (agent, frame)
          have huser := user_hears db s.conversation (agent, frame)
          rw [run_cons, ih]
          · rw [hhears]
            rfl
          · rw [hhears, huser]
            exact hstay
          · rw [hhears, huser]
            exact hown
          · intro call hcall
            rw [hhears, huser]
            exact h call (List.mem_cons_of_mem _ hcall)
      | request call =>
          -- the conversation does not see the request
          have hfirst := h call List.mem_cons_self
          rw [run_cons, ih]
          · rfl
          · exact sameStay_restStep D hstay hfirst
          · exact hown
          · intro later hlater
            show Outsider _ (restStep D s.world call).db.personnel later.request
            rw [personnel_restStep]
            exact h later (List.mem_cons_of_mem _ hlater)

/-- **A conversation is isolated.**  Whatever others do over REST between its frames, a
conversation takes the course that it takes on the database of its beginning, with nobody else
there: the same answers, the same history and the same end. -/
theorem conversation_isolated (D : Deployment) (s : Lobby) (is : List (LobbyStep py))
    (hown : OwnStays s.conversation.socket.user.id s.world.db)
    (h : ∀ call, .request call ∈ is →
      Outsider s.conversation.socket.user.id s.world.db.personnel call.request) :
    (run (lobbyStep D) s is).conversation
      = run (Conversation.hears s.world.db) s.conversation (framesOf is) :=
  run_lobbyStep D is (.refl _ _) hown h

/-- The demo guest connects to the session of the stay. -/
def demoConversation : Conversation :=
  .start demoGuest (txt "00000000-0000-0000-0000-000000000005") (by decide +kernel)

/-- A greeting, what the others do, and the greeting again. -/
def demoLobby : List (LobbyStep plainPython) :=
  [.frame (serviceAgent plainPython demoHears) (frameOf demoSaid)]
    ++ demoOthers.map .request ++ [.frame (serviceAgent plainPython demoHears) (frameOf demoSaid)]

theorem demo_conversation_isolated :
    (run (lobbyStep plainDeployment) ⟨demoDesk, demoConversation⟩ demoLobby).conversation
      = run (Conversation.hears demoDesk.db) demoConversation (framesOf demoLobby) := by
  refine conversation_isolated plainDeployment ⟨demoDesk, demoConversation⟩ demoLobby ?_ ?_
  · intro s hs _ id hid
    rw [List.mem_singleton.mp hs] at hid
    obtain rfl : (20 : Uuid) = id := Option.some.inj hid
    exact ⟨demoStay, List.mem_cons_self, rfl, rfl⟩
  · intro call hcall
    refine demoOthers_outsiders call ?_
    unfold demoLobby at hcall
    simpa using hcall

/-! ## §4. The history. -/

/-- The text of a `response_text` frame. -/
def responseText? : Json → Option Text
  | .obj [(_, .str type), (_, .str text)] => if type = txt "response_text" then some text else none
  | _ => none

/-- **The history is what was said**: exchanges of something that is not blank and a reply, and the
replies are the texts that were sent. -/
def Conversation.Faithful (c : Conversation) : Prop :=
  ∃ exchanges : List (Text × Text),
    c.socket.conversationHistory
        = exchanges.flatMap (fun e => [⟨txt "user", e.1⟩, ⟨txt "assistant", e.2⟩])
      ∧ c.sent.filterMap responseText? = exchanges.map Prod.snd
      ∧ ∀ e ∈ exchanges, e.1 ≠ [] ∧ strip e.1 = e.1

/-- What a frame adds to the history and what it sends. -/
inductive Says (before : VoiceSocket) (t : SocketTurn) : Prop where
  /-- No reply: a refusal, an error or a pong. -/
  | nothing (history : t.socket.conversationHistory = before.conversationHistory)
      (silent : t.frames.filterMap responseText? = [])
  /-- A reply, whose text is the first to be sent. -/
  | exchange (said reply : Text) (notBlank : strip said ≠ [])
      (history : t.socket.conversationHistory = before.conversationHistory
        ++ [⟨txt "user", strip said⟩, ⟨txt "assistant", reply⟩])
      (sent : t.frames.filterMap responseText? = [reply])

theorem says_sendError (c : VoiceSocket) (message : Text) : Says c (c.sendError message) :=
  .nothing rfl rfl

theorem says_raises (c : VoiceSocket) : Says c c.raises :=
  .nothing rfl rfl

/-- A reply sends one text, with or without its service request. -/
theorem responseText_replyFrames (r : VoiceAgentResponse py) :
    (replyFrames r).filterMap responseText? = [r.text] := by
  unfold replyFrames
  rw [List.filterMap_append, List.filterMap_append, List.append_assoc]
  refine congrArg (r.text :: ·) (?_ : [] ++ _ = [])
  rw [List.nil_append, List.append_eq_nil_iff]
  -- neither a created request nor the audio is a text
  constructor
  · split
    · rfl
    · rfl
  · split
    · split
      · rfl
      · rfl
    · rfl

theorem responseText_sendReply (r : VoiceAgentResponse py) :
    (sendReply r).1.filterMap responseText? = [r.text] := by
  unfold sendReply
  simp only
  split
  · exact responseText_replyFrames r
  · exact responseText_replyFrames _

section
variable (db : Db) (agent : AgentCall → AgentOutcome py) (c : VoiceSocket)

theorem says_handleTextInput (data : List (Text × Json)) :
    Says c (c.handleTextInput db agent data) := by
  unfold VoiceSocket.handleTextInput
  -- a text that is no string raises in `strip`
  split
  next t _ =>
    simp only
    split
    · exact says_sendError c _
    next hblank =>
      split
      · exact says_raises c
      · split
        · exact says_sendError c _
        next r _ => exact .exchange t r.text hblank rfl (responseText_sendReply r)
  · exact says_raises c

/-- **One frame**: an exchange, or nothing that the history has to say. -/
theorem says_receive (frame : WsFrame) : Says c (c.receive db agent frame) := by
  unfold VoiceSocket.receive
  split
  · exact says_sendError c _
  · exact says_raises c
  · exact says_raises c
  next data _ =>
    unfold VoiceSocket.handleMessage
    simp only
    split
    · exact says_handleTextInput db agent c data
    · split
      · unfold VoiceSocket.handleAudioInput
        split
        · exact says_sendError c _
        · exact says_handleTextInput db agent c _
      · split
        · exact .nothing rfl rfl
        · exact says_sendError c _
  · exact says_raises c

end

theorem faithful_receive (db : Db) (agent : AgentCall → AgentOutcome py) {c : Conversation}
    (h : c.Faithful) (frame : WsFrame) : (c.receive db agent frame).Faithful := by
  unfold Conversation.receive
  split
  · exact h
  · obtain ⟨exchanges, hhistory, hsent, hsaid⟩ := h
    -- an exchange adds one pair and one text
    cases says_receive db agent c.socket frame with
    | nothing history silent =>
        refine ⟨exchanges, history.trans hhistory, ?_, hsaid⟩
        rw [List.filterMap_append, hsent, silent, List.append_nil]
    | exchange said reply notBlank history sent =>
        refine ⟨exchanges ++ [(strip said, reply)], ?_, ?_, fun e he => ?_⟩
        · rw [List.flatMap_append, ← hhistory]
          exact history
        · rw [List.filterMap_append, hsent, sent, List.map_append]
          rfl
        · rcases List.mem_append.mp he with hold | hnew
          · exact hsaid e hold
          · rw [List.mem_singleton.mp hnew]
            exact ⟨notBlank, strip_strip said⟩

/-- **The history is what was sent.**  In every state of every conversation, whatever else happens
in the hotel and also after an exception, the history is made of whole exchanges, and the replies
in it are the texts that the guest was sent, in their order. -/
theorem history_is_what_was_sent (D : Deployment) (w : World) (user : User) (sessionId : Text)
    (admitted : Admitted sessionId) (is : List (LobbyStep py)) :
    AllStates (lobbyStep D) (fun s => s.conversation.Faithful)
      ⟨w, .start user sessionId admitted⟩ is := by
  refine allStates_of_step (fun s i h => ?_) ?_ is
  · cases i with
    | frame agent frame => exact faithful_receive s.world.db agent h frame
    | request call => exact h
  · exact ⟨[], rfl, rfl, fun _ he => absurd he List.not_mem_nil⟩

theorem demo_history_is_what_was_sent :
    AllStates (lobbyStep plainDeployment) (fun s => s.conversation.Faithful)
      ⟨demoDesk, demoConversation⟩ demoLobby :=
  history_is_what_was_sent plainDeployment demoDesk demoGuest
    (txt "00000000-0000-0000-0000-000000000005") (by decide +kernel) demoLobby

end HotelAgent
