/-
  HotelAgent.Api.Rest — a request and its response.

  `perform` and `respond` tell what a request does to the world and what a GET is
  answered.  Here every request has both: the world after it and what the client
  gets, down to the body of the answer.

      voice sessions   201, 200 or 204 with the serialized session, the turn, the
                       duration; 400 and 500 as the view answers them
      rooms            the active rooms, for authenticated users
      everything else  as its own view answers

  Main result, `world_serve`: the world after a write is the one that `perform`
  leaves.
-/
import HotelAgent.Api.Replicas

namespace HotelAgent

open Lib

variable {py : Python}

/-! ## §1. The body of a turn. -/

/-- The hexadecimal digits of `n`, in capitals, as `:X` prints a surrogate. -/
def surrogateText (c : CodePoint) : Text :=
  txt "U+" ++ (List.range 4).map fun i =>
    (txt "0123456789ABCDEF").getD (c.val / 16 ^ (3 - i) % 16) 0x3F

/-- What the field `text` objects to, in the order of its validators. -/
def textMessages (t : Text) : List Text :=
  let s := strip t
  if s = [] then [txt "This field may not be blank."]
  else
    (if 2000 < s.length then [txt "Ensure this field has no more than 2000 characters."] else [])
      ++ (if s.any (·.val = 0) then [txt "Null characters are not allowed."] else [])
      ++ match s.find? isSurrogate with
        | some c => [txt "Surrogate characters are not allowed: " ++ surrogateText c ++ txt "."]
        | none => []

/-- A text that PostgreSQL stores has no NUL and no surrogate. -/
theorem storable_iff (t : Text) :
    storable t = true ↔ t.any (·.val = 0) = false ∧ t.find? isSurrogate = none := by
  unfold storable
  rw [List.find?_eq_none, List.any_eq_false, List.all_eq_true]
  simp only [Bool.and_eq_true, decide_eq_true_eq, Bool.not_eq_true', Bool.not_eq_true]
  exact ⟨fun h => ⟨fun c hc => (h c hc).1, fun c hc => (h c hc).2⟩,
    fun h c hc => ⟨h.1 c hc, h.2 c hc⟩⟩

/-- A text without messages is the one that `validText` takes. -/
theorem textMessages_eq_nil_iff (t : Text) : textMessages t = [] ↔ (validText t).isSome = true := by
  have hif : ∀ (p : Prop) [Decidable p] (message : Text),
      (if p then [message] else []) = [] ↔ ¬ p := by
    intro p _ message
    by_cases h : p
    · simp [h]
    · simp [h]
  unfold textMessages validText
  simp only
  by_cases hempty : strip t = []
  · simp [hempty]
  · rw [if_neg hempty, List.append_eq_nil_iff, List.append_eq_nil_iff, hif, hif]
    cases hs : storable (strip t) with
    | true =>
        obtain ⟨hnul, hsurrogate⟩ := (storable_iff _).mp hs
        rw [hnul, hsurrogate]
        simp [hempty]
    | false =>
        -- one of the two is there
        have hbad := mt (storable_iff (strip t)).mpr (by rw [hs]; decide)
        simp only [or_true, if_true, Option.isSome_none]
        refine iff_of_false (fun h => hbad ⟨Bool.eq_false_of_not_eq_true h.1.2, ?_⟩) (by decide)
        cases hfind : (strip t).find? isSurrogate with
        | none => rfl
        | some c =>
            rw [hfind] at h
            exact absurd h.2 (by simp)

/-- The 400 of `VoiceInputSerializer`: the messages for the text come first. -/
def invalidInput (messages : List Text) (optionErrors : List (Text × Text)) : Response :=
  match messages with
  | [] => .invalid optionErrors
  | message :: _ =>
    ⟨400, .obj [(txt "error", .str (txt "text: " ++ message)),
      (txt "code", .str (txt "bad_request")),
      (txt "details", .obj ((txt "text", .arr (messages.map .str))
        :: optionErrors.map fun e => (e.1, .arr [.str e.2])))]⟩

/-- `ServiceRequestSerializer` of a request that was made from a reply: its type and its
priority are still what the reply said. -/
def createdJson (py : Python) (users : Table User.id) (d : RequestDraft) (row : ServiceRequest) :
    Json :=
  match requestJson users row with
  | .obj fields => .obj
      (dictSet
        (dictSet fields (txt "service_type") (shownChoice py serviceTypeChoices d.serviceType))
        (txt "priority") (shownChoice py priorityChoices d.priority))
  | v => v

/-- The body of a turn; `latencyMs` is the measured latency, rounded and printed. -/
def turnJson (sessionId : Uuid) (text latencyMs : Text) (audioData : Option (List UInt8))
    (created : Option Json) : Json :=
  .obj ([(txt "session_id", .str sessionId.str), (txt "text", .str text),
      (txt "latency_ms", .float latencyMs)]
    ++ (match audioData with
      | some (b :: bs) =>
        [(txt "audio_base64", .str (b64encode (b :: bs))), (txt "audio_format", .str (txt "mp3"))]
      | _ => [])
    ++ match created with
      | some created => [(txt "service_request_created", created)]
      | none => [])

/-! ## §2. Answers. -/

/-- What a client gets. -/
inductive Answer where
  | response (response : Response)
  /-- POST /auth/token/. -/
  | tokens (result : AuthResult)
  /-- The answer does not print, and Django answers with a 500 of its own. -/
  | unprintable
  deriving DecidableEq

/-- The response to a request on sessions; `turn` is the body of a turn with this text. -/
def SessionAnswer.response (users : Table User.id) (pk : Option Uuid) (turn : Text → Json) :
    SessionAnswer → Response
  | .started s => ⟨201, sessionJson users s⟩
  | .turn text _ => ⟨200, turn text⟩
  | .ended duration => ⟨200, .obj [(txt "status", .str (txt "completed")),
      (txt "duration_seconds", .int duration)]⟩
  | .badRequest message => ⟨400, .obj [(txt "error", .str message)]⟩
  | .invalidText => invalidInput [] []
  | .unauthorized => .notAuthenticated
  | .notFound => .notFound "VoiceSession" pk
  | .agentFailed => .error 500 "Voice processing failed."
  | .serverError => .internalError

/-- The audio of a reply. -/
def AgentOutcome.audio : AgentOutcome py → Option (List UInt8)
  | .replies r => r.audioData
  | .raises => none

/-- The answer to a turn on the session `id`. -/
def turnAnswer (w : World) (caller : Caller) (id : Uuid) (req : TurnRequest)
    (agent : AgentOutcome py) (fresh : SessionFresh) (latencyMs : Text) : Answer :=
  let (w', answer) := processTurn w caller id req agent fresh
  let body := fun created text => turnJson id text latencyMs agent.audio created
  match turnDraft w.db caller id req agent fresh, answer with
  | some (_, d), .turn text (some row) =>
    -- the block is committed by now
    if d.renders py then .response ⟨200, body (some (createdJson py w'.db.users d row)) text⟩
    else .unprintable
  | _, answer => .response (answer.response w'.db.users (some id) (body none))

section
variable (F : Filters) (w : World) (caller : Caller) (user : Option User) (query : Query)

/-- The answer to a write to voice sessions. -/
def VoiceWrite.answer (latencyMs : Text) : VoiceWrite py → Answer
  | .create body fresh =>
    match user, body.read with
    | none, _ => .response .notAuthenticated
    | some _, .error response => .response response
    -- the ValidationError of a key that is no UUID is not one of REST framework's
    | some _, .ok (some none) => .response .internalError
    | some _, .ok none =>
      .response ((createSession py w caller none fresh).2.response w.db.users none fun _ => .null)
    | some _, .ok (some (some id)) =>
      .response ((createSession py w caller (some id) fresh).2.response w.db.users none
        fun _ => .null)
  | .update pk =>
    match user.map fun user => sessionObject F query w.db user pk with
    | none => .response .notAuthenticated
    | some (.error response) => .response response
    | some (.ok s) =>
      match w.db.saveSession s.id (.rewrite s) with
      | none => .response .internalError
      | some _ => .response ⟨200, sessionJson w.db.users s⟩
  | .destroy pk =>
    match user.map fun user => sessionObject F query w.db user pk with
    | none => .response .notAuthenticated
    | some (.error response) => .response response
    | some (.ok _) => .response ⟨204, .null⟩
  | .turn pk body optionErrors agent fresh =>
    match user.map fun user => sessionObject F query w.db user pk with
    | none => .response .notAuthenticated
    | some (.error response) => .response response
    | some (.ok s) =>
      if s.status ≠ .active then .response (.error 400 "Session is not active.")
      else
        match body.read with
        | .error response => .response response
        | .ok data =>
          let messages := (data.text.map textMessages).getD []
          if messages ≠ [] ∨ optionErrors ≠ [] then .response (invalidInput messages optionErrors)
          else turnAnswer w caller s.id data agent fresh latencyMs
  | .finish pk fresh =>
    match user.map fun user => sessionObject F query w.db user pk with
    | none => .response .notAuthenticated
    | some (.error response) => .response response
    | some (.ok s) =>
      .response ((endSession py w caller s.id fresh).2.response w.db.users pk fun _ => .null)

end

/-! ## §3. Requests. -/

/-- GET /rooms/ or /rooms/{pk}/: the active rooms.  The order is that of the backends. -/
def respondRooms (B : Backends Room) (db : Db) (cred : Credentials) (query : Query)
    (pk : Option (Option Uuid)) : Response :=
  match cred.user db with
  | .error response => response
  | .ok none => .notAuthenticated
  | .ok (some _) =>
    let rows := db.rooms.rows.filter (·.isActive)
    match pk with
    | none => B.list query db.users db.rooms roomJson rows
    | some pk => shown roomJson (B.find query db.users db.rooms Room.id "Room" rows pk)

/-- **A request**: the world after it and what the client gets. -/
def ApiRequest.serve (D : Deployment) (w : World) (latencyMs : Text) :
    ApiRequest py → World × Answer
  | .read cred query call => (w, .response (respond D.filters w.db cred query call))
  | .rooms cred query pk => (w, .response (respondRooms D.rooms w.db cred query pk))
  | .write cred query call =>
    match cred.user w.db with
    | .error response => (w, .response response)
    | .ok user =>
      match call with
      | .voice call => (call.handle D.filters w cred.caller user query,
          call.answer D.filters w cred.caller user query latencyMs)
      | .owned call =>
        let (w', response) := call.handle py D.filters w cred.caller user query
        (w', .response response)
  | .register body remoteAddr fresh =>
    let (w', response) := HotelAgent.register D.inet w body remoteAddr fresh
    (w', .response response)
  | .token req now =>
    let (db, result) := tokenPost D.jwt D.inet w.db req now
    ({ w with db := db }, .tokens result)

/-- **The world after a write** is the one that `perform` leaves. -/
theorem world_serve (D : Deployment) (w : World) (latencyMs : Text) (cred : Credentials)
    (query : Query) (call : WriteRequest py) :
    ((ApiRequest.write cred query call).serve D w latencyMs).1
      = perform D.filters w cred query call := by
  unfold perform
  simp only [ApiRequest.serve]
  cases cred.user w.db with
  | error response => rfl
  | ok user =>
      cases call with
      | voice call => rfl
      | owned call => rfl

end HotelAgent
