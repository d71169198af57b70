/-
  HotelAgent.Api.Frames — `VoiceSessionConsumer.receive`, for any frame.

  A frame may be any text or any bytes, and the session id may be whatever the URL
  pattern admits.  What the handlers catch and what they let through:

      `json.loads`            JSONDecodeError caught; a long integer or a deep
                              nesting is another exception
      `data.get`              only objects have it
      `….strip()`             only strings have it
      `_get_guest_context`    looks the session up by an id that may be no UUID
      `b64decode`             every exception caught
      the agent               every exception caught
      `json.dumps`            of a service request that nests too deep

  `_handle_audio_input` hands over `"text": None`, whose `strip` does not exist: no
  audio that decodes is ever heard.

  Main results:
    * `frameAnswered_iff` — a frame is answered without an exception, if and only
      if none of these is met.
    * `audioAsText_iff` — an audio frame has the effect of its transcription, if
      and only if the session id is no UUID, where neither has any.
-/
import HotelAgent.Lib.Base64
import HotelAgent.Lib.Json.RoundTrip
import HotelAgent.Lib.Occurrences
import HotelAgent.Api.Consumers
import HotelAgent.Services.Conversation

namespace HotelAgent

open Lib

variable {py : Python}

/-! ## §1. Connections. -/

/-- `[0-9a-f-]` -/
def isHexOrDash (c : CodePoint) : Bool :=
  isDigit c || (0x61 ≤ c.val && c.val ≤ 0x66) || c.val = 0x2D

/-- `[0-9a-f-]+`, which the URL has for the session id. -/
def Admitted (sessionId : Text) : Prop := sessionId ≠ [] ∧ sessionId.all isHexOrDash = true

instance (sessionId : Text) : Decidable (Admitted sessionId) :=
  inferInstanceAs (Decidable (_ ∧ _))

/-- A consumer whose connection is accepted. -/
structure VoiceSocket where
  user : User
  sessionId : Text
  admitted : Admitted sessionId
  conversationHistory : List ConversationMessage

/-- `uuid.UUID(hex)`, of hex digits and dashes: there are thirty-two digits, wherever the dashes
stand.  `none` is the ValueError, which the field makes a ValidationError. -/
def uuidOf (hex : Text) : Option Uuid :=
  let digits := hex.filter fun c => c.val ≠ 0x2D
  if digits.length = 32 then
    some (.ofNat 128 (digits.foldl (fun n c => n * 16 + (hexVal? c).getD 0) 0))
  else none

/-- What `_get_guest_context` says of a session with a booking. -/
structure RoomContext where
  roomNumber : Text
  roomType : Text
  checkOut : Text

structure SocketContext where
  name : Text
  preferences : Json
  room : Option RoomContext

/-- `_get_guest_context`; `none` is the ValidationError.  The session id is never empty, so the
session is always looked for. -/
def VoiceSocket.getGuestContext (db : Db) (c : VoiceSocket) : Option SocketContext :=
  (uuidOf c.sessionId).map fun id =>
    { name := c.user.fullName
      preferences := c.user.preferences
      room := do
        let session ← (db.voiceSessions.find? id).filter fun s => s.guestId = c.user.id
        let booking ← session.bookingId.bind db.bookings.find?
        let room ← db.rooms.find? booking.roomId
        some
          { roomNumber := room.number
            roomType := room.roomType.label
            checkOut := booking.checkOut.str } }

/-! ## §2. The handlers. -/

/-- What `process_voice_turn` is called with. -/
structure AgentCall where
  textInput : Text
  conversationHistory : List ConversationMessage
  guestContext : SocketContext
  generateAudio : Json

/-- What handling a frame does: the consumer after it, the objects sent as JSON, and whether an
exception leaves `receive`. -/
structure SocketTurn where
  socket : VoiceSocket
  frames : List Json
  raised : Bool

/-- `_send_error`, and nothing else. -/
def VoiceSocket.sendError (c : VoiceSocket) (message : Text) : SocketTurn :=
  ⟨c, [errorFrame message], false⟩

/-- An exception before anything is done. -/
def VoiceSocket.raises (c : VoiceSocket) : SocketTurn := ⟨c, [], true⟩

def serviceRequestFrame (fields : List (Text × Json)) : Json :=
  .obj [(txt "type", .str (txt "service_request_detected")), (txt "data", .obj fields)]

/-- The service request of the reply, if there is one, can be printed. -/
def ServicePrints (r : VoiceAgentResponse py) : Prop :=
  ∀ dict ∈ r.serviceRequest, dict.fields ≠ [] →
    (dumps? py (serviceRequestFrame dict.fields)).isSome = true

instance (r : VoiceAgentResponse py) : Decidable (ServicePrints r) :=
  inferInstanceAs (Decidable (∀ dict ∈ r.serviceRequest, _))

/-- The frames of a reply that are sent, and whether `json.dumps` then raises.  The service request
comes last; the other frames hold strings only, which always print. -/
def sendReply (r : VoiceAgentResponse py) : List Json × Bool :=
  let spoken : VoiceAgentResponse py := { r with serviceRequest := none }
  if ServicePrints r then (replyFrames r, false) else (replyFrames spoken, true)

/-- The call of the agent; `none` is the exception of the guest context. -/
def VoiceSocket.agentCall (db : Db) (c : VoiceSocket) (data : List (Text × Json)) (text : Text) :
    Option AgentCall :=
  (c.getGuestContext db).map fun context =>
    { textInput := text
      conversationHistory := c.conversationHistory
      guestContext := context
      generateAudio := dictGet data (txt "generate_audio") (.bool true) }

/-- `_handle_text_input`. -/
def VoiceSocket.handleTextInput (db : Db) (agent : AgentCall → AgentOutcome py) (c : VoiceSocket)
    (data : List (Text × Json)) : SocketTurn :=
  match dictGet data (txt "text") (.str []) with
  | .str t =>
    let text := strip t
    if text = [] then c.sendError (txt "Empty text input.")
    else
      -- the context is built before the `try`
      match c.agentCall db data text with
      | none => c.raises
      | some call =>
        match agent call with
        | .raises => c.sendError (txt "Processing failed. Please try again.")
        | .replies r =>
          { socket := { c with
              conversationHistory := c.conversationHistory
                ++ [⟨txt "user", text⟩, ⟨txt "assistant", r.text⟩] }
            frames := (sendReply r).1
            raised := (sendReply r).2 }
  | _ => c.raises

/-- `base64.b64decode(data.get("audio_b64", ""))`; `none` is any of its exceptions, the TypeError
of a value that is no string among them. -/
def audioBytes (data : List (Text × Json)) : Option (List UInt8) :=
  match dictGet data (txt "audio_b64") (.str []) with
  | .str s => b64decode s
  | _ => none

/-- `{**data, "type": "voice_input", "_audio_bytes": audio_bytes, "text": None}`, without the
bytes: nobody looks for `_audio_bytes`. -/
def asVoiceInput (data : List (Text × Json)) : List (Text × Json) :=
  dictSet (dictSet data (txt "type") (.str (txt "voice_input"))) (txt "text") .null

/-- `_handle_audio_input`. -/
def VoiceSocket.handleAudioInput (db : Db) (agent : AgentCall → AgentOutcome py) (c : VoiceSocket)
    (data : List (Text × Json)) : SocketTurn :=
  match audioBytes data with
  | none => c.sendError (txt "Invalid base64 audio data.")
  | some _ => c.handleTextInput db agent (asVoiceInput data)

/-- The dispatch by `msg_type`. -/
def VoiceSocket.handleMessage (db : Db) (agent : AgentCall → AgentOutcome py) (c : VoiceSocket)
    (data : List (Text × Json)) : SocketTurn :=
  let msgType := dictGet data (txt "type") .null
  if msgType = .str (txt "voice_input") then c.handleTextInput db agent data
  else if msgType = .str (txt "audio_input") then c.handleAudioInput db agent data
  else if msgType = .str (txt "ping") then ⟨c, [.obj [(txt "type", .str (txt "pong"))]], false⟩
  else c.sendError (txt "Unknown message type: " ++ formatted py msgType)

inductive WsFrame where
  | text (text : Text)
  | binary (data : List UInt8)

/-- `text_data or "{}"`: the text of a binary frame is `None`. -/
def WsFrame.payload : WsFrame → Text
  | .text (c :: t) => c :: t
  | _ => txt "\x7b\x7d"

/-- `receive`. -/
def VoiceSocket.receive (db : Db) (agent : AgentCall → AgentOutcome py) (c : VoiceSocket)
    (frame : WsFrame) : SocketTurn :=
  match loads py frame.payload with
  | .error .decodeError => c.sendError (txt "Invalid JSON payload.")
  -- a ValueError and a RecursionError that are no JSONDecodeError
  | .error .intTooLong => c.raises
  | .error .recursion => c.raises
  | .ok (.obj data) => c.handleMessage db agent data
  -- only an object has a `get`
  | .ok _ => c.raises

/-! ## §3. What is answered. -/

def responseTextFrame (text : Text) : Json :=
  .obj [(txt "type", .str (txt "response_text")), (txt "text", .str text)]

/-- **The frame gets an answer**: no exception, a frame back, and a history that changes only
together with a reply. -/
structure Answered (before : VoiceSocket) (t : SocketTurn) : Prop where
  noException : t.raised = false
  answers : t.frames ≠ []
  history : t.socket.conversationHistory = before.conversationHistory
    ∨ ∃ text, responseTextFrame text ∈ t.frames

/-- The text of the message is a string; unless it is blank, the session id is a UUID, and the
service request of the agent's reply prints. -/
def VoiceSocket.Hears (db : Db) (agent : AgentCall → AgentOutcome py) (c : VoiceSocket)
    (data : List (Text × Json)) : Prop :=
  ∃ t, dictGet data (txt "text") (.str []) = .str t
    ∧ (strip t ≠ [] → (uuidOf c.sessionId).isSome = true
        ∧ ∀ call ∈ c.agentCall db data (strip t), ∀ r, agent call = .replies r → ServicePrints r)

/-- A message with text is heard, and one with audio has audio that cannot be decoded. -/
def VoiceSocket.Understands (db : Db) (agent : AgentCall → AgentOutcome py) (c : VoiceSocket)
    (data : List (Text × Json)) : Prop :=
  (dictGet data (txt "type") .null = .str (txt "voice_input") → c.Hears db agent data)
    ∧ (dictGet data (txt "type") .null = .str (txt "audio_input") → audioBytes data = none)

/-- The frame is no JSON, or an object that is understood. -/
def VoiceSocket.Survives (db : Db) (agent : AgentCall → AgentOutcome py) (c : VoiceSocket)
    (frame : WsFrame) : Prop :=
  match loads py frame.payload with
  | .error .decodeError => True
  | .ok (.obj data) => c.Understands db agent data
  | _ => False

section
variable {db : Db} {agent : AgentCall → AgentOutcome py} {c : VoiceSocket}
  {data : List (Text × Json)}

theorem answered_sendError (c : VoiceSocket) (message : Text) :
    Answered c (c.sendError message) :=
  ⟨rfl, List.cons_ne_nil _ _, .inl rfl⟩

theorem not_answered_raises (c : VoiceSocket) : ¬ Answered c c.raises :=
  fun h => absurd h.noException (by simp [VoiceSocket.raises])

/-- Every reply is sent with its text first. -/
theorem responseText_mem_sendReply (r : VoiceAgentResponse py) :
    responseTextFrame r.text ∈ (sendReply r).1 := by
  unfold sendReply
  simp only
  split
  · exact List.mem_append_left _ (List.mem_append_left _ (List.mem_singleton.mpr rfl))
  · exact List.mem_append_left _ (List.mem_append_left _ (List.mem_singleton.mpr rfl))

/-- A reply raises nothing, exactly if its service request prints. -/
theorem sendReply_raises_iff (r : VoiceAgentResponse py) :
    (sendReply r).2 = false ↔ ServicePrints r := by
  unfold sendReply
  simp only
  split
  next h => exact iff_of_true rfl h
  next h => exact iff_of_false (by simp) h

/-- The guest context is there for a session id that is a UUID. -/
theorem agentCall_isSome_iff (db : Db) (c : VoiceSocket) (data : List (Text × Json)) (text : Text) :
    (c.agentCall db data text).isSome = true ↔ (uuidOf c.sessionId).isSome = true := by
  rw [VoiceSocket.agentCall, Option.isSome_map, VoiceSocket.getGuestContext, Option.isSome_map]

/-- What is no string has no `strip`. -/
theorem handleTextInput_of_not_str
    (h : ∀ t, dictGet data (txt "text") (.str []) ≠ .str t) :
    c.handleTextInput db agent data = c.raises := by
  unfold VoiceSocket.handleTextInput
  split
  next t htext => exact absurd htext (h t)
  · rfl

/-- **A message with text** is answered, exactly if it is heard. -/
theorem answered_handleTextInput_iff :
    Answered c (c.handleTextInput db agent data) ↔ c.Hears db agent data := by
  by_cases hstr : ∃ t, dictGet data (txt "text") (.str []) = .str t
  · obtain ⟨t, htext⟩ := hstr
    have hhears : c.Hears db agent data
        ↔ (strip t ≠ [] → (uuidOf c.sessionId).isSome = true
          ∧ ∀ call ∈ c.agentCall db data (strip t), ∀ r, agent call = .replies r →
            ServicePrints r) := by
      constructor
      · rintro ⟨t', htext', h⟩
        rw [htext] at htext'
        injection htext' with htext'
        rw [htext']
        exact h
      · intro h
        exact ⟨t, htext, h⟩
    rw [hhears, VoiceSocket.handleTextInput, htext]
    simp only
    by_cases hblank : strip t = []
    · rw [if_pos hblank]
      exact iff_of_true (answered_sendError c _) fun h => absurd hblank h
    · rw [if_neg hblank, ← agentCall_isSome_iff db c data (strip t)]
      cases hcall : c.agentCall db data (strip t) with
      | none => exact iff_of_false (not_answered_raises c) fun h => absurd (h hblank).1 (by simp)
      | some call =>
          simp only [Option.mem_def, Option.some.injEq, forall_eq', hblank, ne_eq,
            not_false_eq_true, forall_const, Option.isSome_some, true_and]
          cases hagent : agent call with
          | raises => exact iff_of_true (answered_sendError c _) fun r h => absurd h (by simp)
          | replies r =>
              simp only [AgentOutcome.replies.injEq, forall_eq']
              rw [← sendReply_raises_iff]
              constructor
              · intro h
                exact h.noException
              · intro h
                exact ⟨h, List.ne_nil_of_mem (responseText_mem_sendReply r),
                  .inr ⟨r.text, responseText_mem_sendReply r⟩⟩
  · rw [handleTextInput_of_not_str fun t h => hstr ⟨t, h⟩]
    exact iff_of_false (not_answered_raises c) fun ⟨t, htext, _⟩ => hstr ⟨t, htext⟩

/-- **Audio that is decoded raises**: what is handed over has `None` for its text. -/
theorem handleAudioInput_of_decoded {audio : List UInt8} (h : audioBytes data = some audio) :
    c.handleAudioInput db agent data = c.raises := by
  have htext : dictGet (asVoiceInput data) (txt "text") (.str []) = .null := by
    rw [dictGet, asVoiceInput, dictGet?_dictSet, Option.getD_some]
  rw [VoiceSocket.handleAudioInput, h]
  refine handleTextInput_of_not_str fun t ht => ?_
  rw [htext] at ht
  exact absurd ht (by simp)

/-- **No recording is heard**: whatever was recorded, its frame raises. -/
theorem recording_raises (audio : List UInt8)
    (h : dictGet data (txt "audio_b64") (.str []) = .str (b64encode audio)) :
    c.handleAudioInput db agent data = c.raises := by
  have hdecoded : audioBytes data = some audio := by
    rw [audioBytes, h]
    exact b64decode_b64encode audio
  exact handleAudioInput_of_decoded hdecoded

theorem answered_handleAudioInput_iff :
    Answered c (c.handleAudioInput db agent data) ↔ audioBytes data = none := by
  cases haudio : audioBytes data with
  | none =>
      rw [VoiceSocket.handleAudioInput, haudio]
      exact iff_of_true (answered_sendError c _) rfl
  | some audio =>
      rw [handleAudioInput_of_decoded haudio]
      exact iff_of_false (not_answered_raises c) (by simp)

/-- **An object** is answered, exactly if it is understood. -/
theorem answered_handleMessage_iff :
    Answered c (c.handleMessage db agent data) ↔ c.Understands db agent data := by
  unfold VoiceSocket.handleMessage VoiceSocket.Understands
  simp only
  by_cases hvoice : dictGet data (txt "type") .null = .str (txt "voice_input")
  · have haudio : ¬ Json.str (txt "voice_input") = .str (txt "audio_input") := by decide
    rw [hvoice, if_pos rfl, answered_handleTextInput_iff]
    simp [haudio]
  · rw [if_neg hvoice]
    by_cases haudio : dictGet data (txt "type") .null = .str (txt "audio_input")
    · rw [if_pos haudio, answered_handleAudioInput_iff]
      constructor
      · intro hnone
        exact ⟨fun h => absurd h hvoice, fun _ => hnone⟩
      · intro h
        exact h.2 haudio
    · rw [if_neg haudio]
      refine iff_of_true ?_ ⟨fun h => absurd h hvoice, fun h => absurd h haudio⟩
      split
      · exact ⟨rfl, List.cons_ne_nil _ _, .inl rfl⟩
      · exact answered_sendError c _

end

/-- **Every frame is answered, exactly.**  Whatever a connection is sent, `receive` answers it
without an exception, if and only if the frame is no JSON, or an object that is understood: not
one with audio that decodes, and not one with text that is no string, that meets a session id that
is no UUID, or whose service request does not print. -/
theorem frameAnswered_iff (db : Db) (agent : AgentCall → AgentOutcome py) (c : VoiceSocket)
    (frame : WsFrame) : Answered c (c.receive db agent frame) ↔ c.Survives db agent frame := by
  unfold VoiceSocket.receive VoiceSocket.Survives
  cases loads py frame.payload with
  | error e =>
      cases e with
      | decodeError => exact iff_of_true (answered_sendError c _) trivial
      | intTooLong => exact iff_of_false (not_answered_raises c) id
      | recursion => exact iff_of_false (not_answered_raises c) id
  | ok v =>
      cases v with
      | obj data => exact answered_handleMessage_iff
      | null | bool | int | float | str | arr => exact iff_of_false (not_answered_raises c) id

/-- The frame is an object of this type. -/
def IsMessage (py : Python) (type : String) (frame : WsFrame) (data : List (Text × Json)) : Prop :=
  loads py frame.payload = .ok (.obj data)
    ∧ dictGet data (txt "type") .null = .str (txt type)

section
variable {db : Db} {agent : AgentCall → AgentOutcome py} {c : VoiceSocket} {frame : WsFrame}
  {data : List (Text × Json)}

theorem receive_of_voice (h : IsMessage py "voice_input" frame data) :
    c.receive db agent frame = c.handleTextInput db agent data := by
  simp only [VoiceSocket.receive, h.1, VoiceSocket.handleMessage, h.2, if_true]

/-- A frame with audio that decodes raises. -/
theorem receive_of_audio {audio : List UInt8} (h : IsMessage py "audio_input" frame data)
    (haudio : audioBytes data = some audio) : c.receive db agent frame = c.raises := by
  have htype : ¬ Json.str (txt "audio_input") = .str (txt "voice_input") := by decide
  simp only [VoiceSocket.receive, h.1, VoiceSocket.handleMessage, h.2, if_neg htype, if_true]
  exact handleAudioInput_of_decoded haudio

end

/-- The demo guest, connected to the demo session by the id in the URL. -/
def demoSocket : VoiceSocket := ⟨demoGuest, Uuid.str 5, by decide +kernel, []⟩

/-- A message with two bytes of audio. -/
def demoAudio : List (Text × Json) :=
  [(txt "type", .str (txt "audio_input")), (txt "audio_b64", .str (b64encode [72, 105]))]

/-- The frame of a message. -/
def frameOf (data : List (Text × Json)) : WsFrame := .text (dumps (.obj data))

theorem demoAudio_isMessage : IsMessage plainPython "audio_input" (frameOf demoAudio) demoAudio :=
  ⟨by decide +kernel, by decide +kernel⟩

theorem demoAudio_decodes : audioBytes demoAudio = some [72, 105] := by decide +kernel

/-- The frame with audio ends in an exception. -/
theorem audio_frame_is_not_answered :
    ¬ ∀ (py : Python) (db : Db) (agent : AgentCall → AgentOutcome py) (c : VoiceSocket)
      (frame : WsFrame), Answered c (c.receive db agent frame) := by
  intro h
  have hanswered := h plainPython demoCall.db (fun _ => .raises) demoSocket (frameOf demoAudio)
  rw [receive_of_audio demoAudio_isMessage demoAudio_decodes] at hanswered
  exact not_answered_raises demoSocket hanswered

/-! ## §4. Audio and text. -/

/-- The handler of `Api.Consumers` is that of a connection whose session id is a UUID, as long as
the service request prints. -/
theorem handleTextInput_eq {db : Db} {agent : AgentCall → AgentOutcome py} {c : VoiceSocket}
    {data : List (Text × Json)} {t : Text} {call : AgentCall} (id : Uuid) (w : World)
    (htext : dictGet data (txt "text") (.str []) = .str t)
    (hcall : c.agentCall db data (strip t) = some call)
    (hprints : ∀ r, agent call = .replies r → ServicePrints r) :
    c.handleTextInput db agent data
      = let turn := (handleTextInput w ⟨c.user, id, c.conversationHistory⟩ data (agent call)).2
        ⟨{ c with conversationHistory := turn.conn.conversationHistory }, turn.frames,
          turn.raised⟩ := by
  unfold VoiceSocket.handleTextInput handleTextInput
  simp only [htext, hcall]
  by_cases hblank : strip t = []
  · simp only [if_pos hblank]
    rfl
  · simp only [if_neg hblank]
    cases hagent : agent call with
    | raises => rfl
    | replies r =>
        have hsent : sendReply r = (replyFrames r, false) := by
          rw [sendReply, if_pos (hprints r hagent)]
        simp only [hsent]

/-- `process_voice_turn` as the consumer calls it. -/
def serviceAgent (py : Python) (api : OpenAI) (call : AgentCall) : AgentOutcome py :=
  processVoiceTurn py api none (some call.textInput) (truthy call.generateAudio)

/-- The same frames are sent, and the same conversation is remembered. -/
def SameAnswer (t t' : SocketTurn) : Prop :=
  t.frames = t'.frames ∧ t.socket.conversationHistory = t'.socket.conversationHistory

/-- A text that is heard is stripped, and not empty. -/
theorem strip_heard {api : OpenAI} {audio : List UInt8} {t : Text}
    (h : heardText api (some audio) none = some t) : strip t = t ∧ t ≠ [] := by
  obtain ⟨hheard, hne⟩ := Option.filter_eq_some_iff.mp h
  refine ⟨?_, by simpa using hne⟩
  cases haudio : (some audio).filter (· ≠ []) with
  | none =>
      simp only [Option.filter_none, haudio] at hheard
      exact absurd hheard (by simp)
  | some bytes =>
      simp only [Option.filter_none, haudio] at hheard
      obtain ⟨transcription, _, rfl⟩ := Option.map_eq_some_iff.mp hheard
      exact strip_strip transcription

/-- A message with text on a session id that is a UUID is answered with a frame at least. -/
theorem frames_handleTextInput_ne_nil {db : Db} {agent : AgentCall → AgentOutcome py}
    {c : VoiceSocket} {data : List (Text × Json)} {t : Text}
    (htext : dictGet data (txt "text") (.str []) = .str t) {call : AgentCall}
    (hcall : c.agentCall db data (strip t) = some call) :
    (c.handleTextInput db agent data).frames ≠ [] := by
  unfold VoiceSocket.handleTextInput
  simp only [htext, hcall]
  split
  · exact List.cons_ne_nil _ _
  · split
    · exact List.cons_ne_nil _ _
    next r _ => exact List.ne_nil_of_mem (responseText_mem_sendReply r)

/-- **Audio has the effect of its transcription, exactly.**  Let a frame have audio that decodes
and is transcribed as `t`.  The frames sent and the conversation remembered are those of a frame
with the text `t`, whatever the two say of `generate_audio`, if and only if the session id is no
UUID: then both raise before anything is done. -/
theorem audioAsText_iff (db : Db) (api : OpenAI) (c : VoiceSocket) (audioFrame textFrame : WsFrame)
    (data data' : List (Text × Json)) (audio : List UInt8) (t : Text)
    (haudio : IsMessage py "audio_input" audioFrame data) (hbytes : audioBytes data = some audio)
    (hheard : heardText api (some audio) none = some t)
    (htext : IsMessage py "voice_input" textFrame data')
    (hsaid : dictGet data' (txt "text") (.str []) = .str t) :
    SameAnswer (c.receive db (serviceAgent py api) audioFrame)
        (c.receive db (serviceAgent py api) textFrame)
      ↔ uuidOf c.sessionId = none := by
  obtain ⟨hstripped, hne⟩ := strip_heard hheard
  rw [receive_of_audio haudio hbytes, receive_of_voice htext]
  cases hcall : c.agentCall db data' (strip t) with
  | none =>
      have hnone : uuidOf c.sessionId = none := by
        rw [← Option.not_isSome_iff_eq_none, ← agentCall_isSome_iff db c data' (strip t), hcall]
        simp
      have hraises : c.handleTextInput db (serviceAgent py api) data' = c.raises := by
        have hblank : ¬ strip t = [] := by
          rw [hstripped]
          exact hne
        unfold VoiceSocket.handleTextInput
        simp only [hsaid, if_neg hblank, hcall]
      rw [hraises]
      exact iff_of_true ⟨rfl, rfl⟩ hnone
  | some call =>
      have hsome : (uuidOf c.sessionId).isSome = true := by
        rw [← agentCall_isSome_iff db c data' (strip t), hcall]
        rfl
      refine iff_of_false ?_ fun hnone => ?_
      · intro hsame
        exact frames_handleTextInput_ne_nil hsaid hcall hsame.1.symm
      · rw [hnone] at hsome
        exact absurd hsome (by simp)

/-- The message with what was said. -/
def demoSaid : List (Text × Json) :=
  [(txt "type", .str (txt "voice_input")), (txt "text", .str (txt "hi"))]

theorem demoSaid_isMessage : IsMessage plainPython "voice_input" (frameOf demoSaid) demoSaid :=
  ⟨by decide +kernel, by decide +kernel⟩

/-- Whisper hears a greeting, and then the model is out of reach. -/
def demoHears : OpenAI where
  transcription := some (txt " hi ")
  completion := none
  speech := none

/-- A session id that the URL admits. -/
def demoDash : VoiceSocket := ⟨demoGuest, txt "-", by decide +kernel, []⟩

/-- Without a session, neither does anything. -/
theorem audio_as_text_without_session :
    SameAnswer
      (demoDash.receive demoCall.db (serviceAgent plainPython demoHears) (frameOf demoAudio))
      (demoDash.receive demoCall.db (serviceAgent plainPython demoHears) (frameOf demoSaid)) :=
  (audioAsText_iff demoCall.db demoHears demoDash (frameOf demoAudio) (frameOf demoSaid) demoAudio
    demoSaid [72, 105] (txt "hi") demoAudio_isMessage demoAudio_decodes (by decide +kernel)
    demoSaid_isMessage (by decide +kernel)).mpr (by decide +kernel)

/-- The greeting is answered as text, and not as audio. -/
theorem audio_is_not_text :
    ¬ ∀ (py : Python) (db : Db) (api : OpenAI) (c : VoiceSocket) (audioFrame textFrame : WsFrame)
      (data data' : List (Text × Json)) (audio : List UInt8) (t : Text),
      IsMessage py "audio_input" audioFrame data → audioBytes data = some audio →
      heardText api (some audio) none = some t → IsMessage py "voice_input" textFrame data' →
      dictGet data' (txt "text") (.str []) = .str t →
      dictGet data' (txt "generate_audio") (.bool true)
        = dictGet data (txt "generate_audio") (.bool true) →
      SameAnswer (c.receive db (serviceAgent py api) audioFrame)
        (c.receive db (serviceAgent py api) textFrame) := by
  intro h
  have hsame := h plainPython demoCall.db demoHears demoSocket (frameOf demoAudio)
    (frameOf demoSaid) demoAudio demoSaid [72, 105] (txt "hi") demoAudio_isMessage
    demoAudio_decodes (by decide +kernel) demoSaid_isMessage (by decide +kernel)
    (by decide +kernel)
  rw [receive_of_audio demoAudio_isMessage demoAudio_decodes,
    receive_of_voice demoSaid_isMessage] at hsame
  have hsome : (demoSocket.agentCall demoCall.db demoSaid (strip (txt "hi"))).isSome = true :=
    (agentCall_isSome_iff demoCall.db demoSocket demoSaid _).mpr (by decide +kernel)
  obtain ⟨call, hcall⟩ := Option.isSome_iff_exists.mp hsome
  exact frames_handleTextInput_ne_nil (by decide +kernel) hcall hsame.1.symm

end HotelAgent
