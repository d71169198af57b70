/-
  HotelAgent.Api.Consumers — VoiceSessionConsumer, and its turns beside REST.

  A WebSocket turn is answered from the conversation that the consumer keeps in
  memory.  It reads the database for the guest context and never writes it, and
  it does not look at the status of the session.

  Main results:

      turnsAgree_iff_blank
            the two transports treat a turn alike only where both refuse it: the
            session has ended and the text is blank
      mixedKept_iff_silent
            a mixture of turns is all in the transcript if and only if nothing
            was said over the WebSocket
      transports_agree_iff
            both together
-/
import HotelAgent.Api.SessionRaces

namespace HotelAgent

open Lib

variable {py : Python}

/-! ## §1. `_handle_text_input`. -/

structure ConversationMessage where
  role : Text
  content : Text
  deriving DecidableEq

/-- An accepted connection. -/
structure Connection where
  user : User
  sessionId : Uuid
  conversationHistory : List ConversationMessage

/-- What handling a frame does: the connection after it, the objects sent as JSON,
and whether an exception leaves the handler. -/
structure WsTurn where
  conn : Connection
  frames : List Json
  raised : Bool

/-- `_send_error`. -/
def errorFrame (message : Text) : Json :=
  .obj [(txt "type", .str (txt "error")), (txt "message", .str message)]

/-- The frames of a reply. -/
def replyFrames (r : VoiceAgentResponse py) : List Json :=
  [.obj [(txt "type", .str (txt "response_text")), (txt "text", .str r.text)]]
    ++ (match r.audioData with
      | some (b :: bs) =>
        [.obj [(txt "type", .str (txt "response_audio")),
          (txt "audio_b64", .str (b64encode (b :: bs))), (txt "format", .str (txt "mp3"))]]
      | _ => [])
    ++ (match r.serviceRequest with
      | some dict =>
        if dict.fields = [] then []
        else [.obj [(txt "type", .str (txt "service_request_detected")),
          (txt "data", .obj dict.fields)]]
      | none => [])

/-- `VoiceSessionConsumer._handle_text_input`. -/
def handleTextInput (w : World) (conn : Connection) (data : List (Text × Json))
    (agent : AgentOutcome py) : World × WsTurn :=
  match dictGet data (txt "text") (.str []) with
  | .str t =>
    let text := strip t
    if text = [] then (w, ⟨conn, [errorFrame (txt "Empty text input.")], false⟩)
    else
      -- the store is read here, for the guest context, and only read
      match agent with
      | .raises => (w, ⟨conn, [errorFrame (txt "Processing failed. Please try again.")], false⟩)
      | .replies r =>
        -- the turn goes into the consumer's own history, and nowhere else
        (w, { conn := { conn with
                conversationHistory := conn.conversationHistory
                  ++ [⟨txt "user", text⟩, ⟨txt "assistant", r.text⟩] }
              frames := replyFrames r
              raised := false })
  -- `None`, a number or a list has no `strip`
  | _ => (w, ⟨conn, [], true⟩)

/-- What a frame says, if anything. -/
def spokenText (data : List (Text × Json)) : Option Text :=
  match dictGet data (txt "text") (.str []) with
  | .str t => if strip t = [] then none else some (strip t)
  | _ => none

/-- **A WebSocket turn leaves the store and the event log as they are.** -/
theorem handleTextInput_world (w : World) (conn : Connection) (data : List (Text × Json))
    (agent : AgentOutcome py) : (handleTextInput w conn data agent).1 = w := by
  unfold handleTextInput
  split
  · simp only
    split
    · rfl
    · split
      · rfl
      · rfl
  · rfl

/-! ## §2. One turn, either way. -/

/-- A REST turn whose agent replies, as it touches the session. -/
theorem sessionColumns_processTurn {w : World} {pk : Uuid} {row : VoiceSession}
    (hrow : w.db.voiceSessions.find? pk = some row) (caller : Caller) (req : TurnRequest)
    (r : VoiceAgentResponse py) (fresh : SessionFresh) :
    sessionColumns pk (processTurn w caller pk req (.replies r) fresh).1.db
      = match readTurn w.db caller pk req with
        | .error _ => some (frozenColumns row)
        | .ok (_, _, content) =>
          some (row.status,
            (Account.save ⟨content, r.text, fresh.nowTs, r.tokensUsed, r.ttsChars⟩
              (accountOf row)).getD (accountOf row)) := by
  unfold processTurn
  cases hread : readTurn w.db caller pk req with
  | error answer => exact sessionColumns_row hrow
  | ok t =>
      obtain ⟨user, copy, content⟩ := t
      have hcopy : copy = row := by
        have hfind := (readTurn_ok hread).1
        rw [hrow] at hfind
        injection hfind with hfind
        exact hfind.symm
      have hid : row.id = pk := Table.key_of_find? hrow
      subst hcopy
      -- the turn is a call in flight whose copy is still the row
      have hstored := sessionColumns_saveTurn ⟨user, copy, content⟩ hid hrow r fresh.nowTs
      simp only
      cases hdb : saveTurn w.db copy content r fresh.nowTs with
      | none =>
          rw [hdb] at hstored
          exact hstored
      | some db =>
          rw [hdb] at hstored
          simp only
          rw [sessionColumns_finishTurn]
          exact hstored

/-- The frame that speaks the text `t`, whatever else it carries. -/
def voiceInput (t : Text) (extra : List (Text × Json)) : List (Text × Json) :=
  (txt "text", .str t) :: extra

/-- REST refuses: an error answer, and the store as it was. -/
def RestRefuses (w : World) (outcome : World × SessionAnswer) : Prop :=
  outcome.1 = w ∧ 400 ≤ outcome.2.status

/-- The consumer refuses: an error frame and nothing else. -/
def WsRefuses (w : World) (outcome : World × WsTurn) : Prop :=
  outcome.1 = w ∧ ∃ message, outcome.2.frames = [errorFrame message]

/-- The stored account of the session grows by the turn `m`. -/
def Appends (pk : Uuid) (row : VoiceSession) (m : MadeTurn) (w : World) : Prop :=
  ∃ row', w.db.voiceSessions.find? pk = some row' ∧ accountOf row' = (accountOf row).add m

/-- **One turn has the same effect over both transports.** -/
structure TurnsAgree (pk : Uuid) (w : World) (row : VoiceSession) (caller : Caller)
    (conn : Connection) (t : Text) (extra : List (Text × Json)) (r : VoiceAgentResponse py)
    (fresh : SessionFresh) : Prop where
  refuse : row.status ≠ .active →
    RestRefuses w (processTurn w caller pk ⟨some t, none⟩ (.replies r) fresh)
      ∧ WsRefuses w (handleTextInput w conn (voiceInput t extra) (.replies r))
  append : row.status = .active →
    ∃ content nowTs,
      Appends pk row ⟨content, r.text, nowTs, r.tokensUsed, r.ttsChars⟩
          (processTurn w caller pk ⟨some t, none⟩ (.replies r) fresh).1
        ∧ Appends pk row ⟨content, r.text, nowTs, r.tokensUsed, r.ttsChars⟩
          (handleTextInput w conn (voiceInput t extra) (.replies r)).1
  requests :
    (processTurn w caller pk ⟨some t, none⟩ (.replies r) fresh).1.db.serviceRequests
      = (handleTextInput w conn (voiceInput t extra) (.replies r)).1.db.serviceRequests

/-- REST refuses every turn on a session that is not ACTIVE. -/
theorem restRefuses_of_ended {w : World} {pk : Uuid} {row : VoiceSession}
    (hrow : w.db.voiceSessions.find? pk = some row) (hstatus : row.status ≠ .active)
    (caller : Caller) (req : TurnRequest) (agent : AgentOutcome py) (fresh : SessionFresh) :
    RestRefuses w (processTurn w caller pk req agent fresh) := by
  unfold processTurn
  cases hread : readTurn w.db caller pk req with
  | ok t =>
      obtain ⟨user, copy, content⟩ := t
      have hfind := readTurn_ok hread
      rw [hrow] at hfind
      injection hfind.1 with heq
      rw [heq] at hstatus
      exact absurd hfind.2 hstatus
  | error answer => exact ⟨rfl, readTurn_error hread⟩

/-- The consumer refuses a turn exactly when its text is blank. -/
theorem wsRefuses_iff (w : World) (conn : Connection) (t : Text) (extra : List (Text × Json))
    (r : VoiceAgentResponse py) :
    WsRefuses w (handleTextInput w conn (voiceInput t extra) (.replies r)) ↔ strip t = [] := by
  have htext : dictGet (voiceInput t extra) (txt "text") (.str []) = .str t := by
    simp [dictGet, dictGet?, voiceInput]
  unfold WsRefuses handleTextInput
  rw [htext]
  simp only
  by_cases hblank : strip t = []
  · rw [if_pos hblank]
    exact iff_of_true ⟨rfl, _, rfl⟩ hblank
  · rw [if_neg hblank]
    refine iff_of_false ?_ hblank
    intro h
    obtain ⟨_, message, hframes⟩ := h
    -- the first frame is the reply, which is no error
    simp only [replyFrames, List.cons_append, List.nil_append, errorFrame] at hframes
    injection hframes with hhead _
    simp only [Json.obj.injEq, List.cons.injEq, Prod.mk.injEq, Json.str.injEq] at hhead
    exact absurd hhead.1.2 (by decide)

/-- **The transports agree on a turn only where both refuse it.** -/
theorem turnsAgree_iff_blank {w : World} {pk : Uuid} {row : VoiceSession}
    (hrow : w.db.voiceSessions.find? pk = some row) (caller : Caller) (conn : Connection)
    (t : Text) (extra : List (Text × Json)) (r : VoiceAgentResponse py) (fresh : SessionFresh) :
    TurnsAgree pk w row caller conn t extra r fresh
      ↔ row.status ≠ .active ∧ strip t = [] := by
  have hws := handleTextInput_world w conn (voiceInput t extra) (.replies r)
  constructor
  · intro h
    have hended : row.status ≠ .active := by
      intro hactive
      obtain ⟨content, nowTs, _, row', hrow', haccount⟩ := h.append hactive
      rw [hws, hrow] at hrow'
      injection hrow' with hrow'
      -- the consumer stores nothing, and a turn is two messages longer
      have hlength := congrArg (fun a => a.transcript.length) haccount
      rw [← hrow'] at hlength
      simp [accountOf, Account.add, MadeTurn.messages, turnMessages] at hlength
    exact ⟨hended, (wsRefuses_iff w conn t extra r).mp (h.refuse hended).2⟩
  · intro h
    obtain ⟨hended, hblank⟩ := h
    have hrest := restRefuses_of_ended hrow hended caller ⟨some t, none⟩ (.replies r) fresh
    refine ⟨fun _ => ⟨hrest, (wsRefuses_iff w conn t extra r).mpr hblank⟩,
      fun hactive => absurd hactive hended, ?_⟩
    rw [hrest.1, hws]

/-! ## §3. Mixtures of turns. -/

inductive Transport where
  | rest
  | ws
  deriving DecidableEq

/-- A turn that was answered with the agent's reply. -/
structure Exchange where
  transport : Transport
  content : Text
  reply : Text

/-- What its two messages say. -/
def Exchange.pair (e : Exchange) : List ConversationMessage :=
  [⟨txt "user", e.content⟩, ⟨txt "assistant", e.reply⟩]

structure MixedVoice where
  world : World
  conn : Connection
  answered : List Exchange

/-- A turn over one of the transports, and the agent's reply. -/
inductive MixedTurn (py : Python) where
  | rest (caller : Caller) (req : TurnRequest) (r : VoiceAgentResponse py) (fresh : SessionFresh)
  | ws (data : List (Text × Json)) (r : VoiceAgentResponse py)

/-- The REST turn, when it gets as far as its save and the save is accepted. -/
def restExchange (db : Db) (caller : Caller) (pk : Uuid) (req : TurnRequest)
    (r : VoiceAgentResponse py) (fresh : SessionFresh) : List Exchange :=
  match readTurn db caller pk req with
  | .error _ => []
  | .ok (_, copy, content) =>
    if (saveTurn db copy content r fresh.nowTs).isSome then [⟨.rest, content, r.text⟩] else []

/-- The WebSocket turn, when it says something. -/
def wsExchange (data : List (Text × Json)) (r : VoiceAgentResponse py) : List Exchange :=
  match spokenText data with
  | none => []
  | some text => [⟨.ws, text, r.text⟩]

/-- One turn on the session `pk`. -/
def mixedStep (pk : Uuid) (s : MixedVoice) : MixedTurn py → MixedVoice
  | .rest caller req r fresh =>
    { s with
      world := (processTurn s.world caller pk req (.replies r) fresh).1
      answered := s.answered ++ restExchange s.world.db caller pk req r fresh }
  | .ws data r =>
    let outcome := handleTextInput s.world s.conn data (.replies r)
    { world := outcome.1
      conn := outcome.2.conn
      answered := s.answered ++ wsExchange data r }

/-- Whether something is said over the WebSocket. -/
def MixedTurn.speaks : MixedTurn py → Bool
  | .rest _ _ _ _ => false
  | .ws data _ => (spokenText data).isSome

/-- Role and content of the stored messages. -/
def said (a : Account) : List ConversationMessage :=
  a.transcript.map fun m => ⟨m.role, m.content⟩

/-- **Every answered turn is in the transcript**, which is the initial one and their
pairs in some order. -/
def MixedKept (pk : Uuid) (row : VoiceSession) (s : MixedVoice) : Prop :=
  ∃ row', s.world.db.voiceSessions.find? pk = some row'
    ∧ ∃ order : List Exchange, order.Perm s.answered
      ∧ said (accountOf row') = said (accountOf row) ++ order.flatMap Exchange.pair

/-- Whether the exchange went over REST. -/
def Exchange.overRest (e : Exchange) : Bool := e.transport = .rest

/-- The transcript has the REST turns and no others. -/
def RestOnly (pk : Uuid) (row : VoiceSession) (s : MixedVoice) : Prop :=
  ∃ row', s.world.db.voiceSessions.find? pk = some row'
    ∧ said (accountOf row') = said (accountOf row)
      ++ (s.answered.filter Exchange.overRest).flatMap Exchange.pair

theorem said_add (a : Account) (m : MadeTurn) :
    said (a.add m) = said a ++ [⟨txt "user", m.content⟩, ⟨txt "assistant", m.reply⟩] := by
  unfold said Account.add MadeTurn.messages turnMessages
  rw [List.map_append]
  rfl

/-- What a REST turn is answered with went over REST. -/
theorem overRest_restExchange (db : Db) (caller : Caller) (pk : Uuid) (req : TurnRequest)
    (r : VoiceAgentResponse py) (fresh : SessionFresh) :
    ∀ e ∈ restExchange db caller pk req r fresh, e.overRest = true := by
  intro e he
  unfold restExchange at he
  split at he
  · exact absurd he (by simp)
  · split at he
    · rw [List.mem_singleton.mp he]
      rfl
    · exact absurd he (by simp)

/-- What is said over the WebSocket did not. -/
theorem overRest_wsExchange (data : List (Text × Json)) (r : VoiceAgentResponse py) :
    ∀ e ∈ wsExchange data r, ¬ e.overRest = true := by
  intro e he
  unfold wsExchange at he
  split at he
  · exact absurd he (by simp)
  · rw [List.mem_singleton.mp he]
    simp [Exchange.overRest]

/-- **A REST turn stores what it is answered with.** -/
theorem said_processTurn {w : World} {pk : Uuid} {row : VoiceSession}
    (hrow : w.db.voiceSessions.find? pk = some row) (caller : Caller) (req : TurnRequest)
    (r : VoiceAgentResponse py) (fresh : SessionFresh) :
    ∃ row', (processTurn w caller pk req (.replies r) fresh).1.db.voiceSessions.find? pk = some row'
      ∧ said (accountOf row') = said (accountOf row)
        ++ (restExchange w.db caller pk req r fresh).flatMap Exchange.pair := by
  have hcolumns := sessionColumns_processTurn hrow caller req r fresh
  unfold restExchange
  cases hread : readTurn w.db caller pk req with
  | error answer =>
      simp only [hread] at hcolumns
      obtain ⟨row', hrow', heq⟩ := Option.map_eq_some_iff.mp hcolumns
      have haccount : accountOf row' = accountOf row := congrArg Prod.snd heq
      exact ⟨row', hrow', by rw [haccount]; exact (List.append_nil _).symm⟩
  | ok t =>
      obtain ⟨user, copy, content⟩ := t
      have hfind := (readTurn_ok hread).1
      have hid := Table.key_of_find? hfind
      rw [hrow] at hfind
      injection hfind with hfind
      subst hfind
      have hfits := saveTurn_isSome_iff ⟨user, row, content⟩ hid hrow r fresh.nowTs
      simp only [hread] at hcolumns hfits
      obtain ⟨row', hrow', heq⟩ := Option.map_eq_some_iff.mp hcolumns
      refine ⟨row', hrow', ?_⟩
      have haccount : accountOf row'
          = (Account.save (madeBy ⟨user, row, content⟩ r fresh.nowTs) (accountOf row)).getD
              (accountOf row) := congrArg Prod.snd heq
      unfold Account.save at haccount
      simp only
      by_cases hsome : (saveTurn w.db row content r fresh.nowTs).isSome = true
      · rw [if_pos (hfits.mp hsome)] at haccount
        have hnew : accountOf row' = (accountOf row).add
            ⟨content, r.text, fresh.nowTs, r.tokensUsed, r.ttsChars⟩ := haccount
        rw [if_pos hsome, hnew, said_add]
        rfl
      · -- the columns refuse the new values, and the turn is answered with 500
        rw [if_neg fun hf => hsome (hfits.mpr hf)] at haccount
        have hsame : accountOf row' = accountOf row := haccount
        rw [if_neg hsome, hsame]
        exact (List.append_nil _).symm

theorem restOnly_step (pk : Uuid) (row : VoiceSession) (s : MixedVoice) (i : MixedTurn py)
    (h : RestOnly pk row s) : RestOnly pk row (mixedStep pk s i) := by
  obtain ⟨row₁, hrow₁, hsaid₁⟩ := h
  cases i with
  | rest caller req r fresh =>
      obtain ⟨row₂, hrow₂, hsaid₂⟩ := said_processTurn hrow₁ caller req r fresh
      refine ⟨row₂, hrow₂, ?_⟩
      show said (accountOf row₂) = said (accountOf row)
        ++ ((s.answered ++ restExchange s.world.db caller pk req r fresh).filter
          Exchange.overRest).flatMap Exchange.pair
      rw [List.filter_append,
        List.filter_eq_self.mpr (overRest_restExchange s.world.db caller pk req r fresh),
        List.flatMap_append, hsaid₂, hsaid₁, List.append_assoc]
  | ws data r =>
      unfold RestOnly mixedStep
      simp only [handleTextInput_world]
      refine ⟨row₁, hrow₁, ?_⟩
      rw [List.filter_append, List.filter_eq_nil_iff.mpr (overRest_wsExchange data r),
        List.append_nil, hsaid₁]

/-- The answered turns over the WebSocket are those that spoke. -/
theorem answered_overRest_iff (pk : Uuid) (is : List (MixedTurn py)) (s : MixedVoice) :
    (run (mixedStep pk) s is).answered.all Exchange.overRest = true
      ↔ s.answered.all Exchange.overRest = true ∧ ∀ i ∈ is, i.speaks = false := by
  induction is generalizing s with
  | nil => simp
  | cons i is ih =>
      have hstep : (mixedStep pk s i).answered.all Exchange.overRest = true
          ↔ s.answered.all Exchange.overRest = true ∧ i.speaks = false := by
        cases i with
        | rest caller req r fresh =>
            have hrest : (restExchange s.world.db caller pk req r fresh).all Exchange.overRest
                = true :=
              List.all_eq_true.mpr (overRest_restExchange s.world.db caller pk req r fresh)
            simp only [mixedStep, MixedTurn.speaks, List.all_append, hrest, Bool.and_true,
              and_true]
        | ws data r =>
            simp only [mixedStep, MixedTurn.speaks, wsExchange, List.all_append,
              Bool.and_eq_true]
            refine and_congr_right fun _ => ?_
            cases spokenText data with
            | none => simp
            | some text => simp [Exchange.overRest]
      rw [run_cons, ih, hstep, and_assoc]
      simp only [List.mem_cons, forall_eq_or_imp]

theorem length_flatMap_pair (es : List Exchange) :
    (es.flatMap Exchange.pair).length = 2 * es.length := by
  induction es with
  | nil => rfl
  | cons e es ih =>
      rw [List.flatMap_cons, List.length_append, ih, List.length_cons]
      unfold Exchange.pair
      simp only [List.length_cons, List.length_nil]
      omega

/-- **A mixture of turns is kept, exactly**, when nothing is said over the WebSocket. -/
theorem mixedKept_iff_silent {w : World} {pk : Uuid} {row : VoiceSession}
    (hrow : w.db.voiceSessions.find? pk = some row) (conn : Connection)
    (is : List (MixedTurn py)) :
    MixedKept pk row (run (mixedStep pk) ⟨w, conn, []⟩ is) ↔ ∀ i ∈ is, i.speaks = false := by
  have hstart : RestOnly pk row ⟨w, conn, []⟩ := ⟨row, hrow, by simp⟩
  obtain ⟨row', hrow', hsaid⟩ := (allStates_of_step (restOnly_step pk row) hstart is).last
  have hall := answered_overRest_iff pk is ⟨w, conn, []⟩
  simp only [List.all_nil, true_and] at hall
  rw [← hall]
  generalize run (mixedStep pk) ⟨w, conn, []⟩ is = s at hrow' hsaid
  constructor
  · intro h
    obtain ⟨row'', hrow'', order, hperm, hkept⟩ := h
    rw [hrow'] at hrow''
    injection hrow'' with hrow''
    rw [← hrow'', hsaid] at hkept
    have hlength := congrArg List.length (List.append_cancel_left hkept)
    rw [length_flatMap_pair, length_flatMap_pair, hperm.length_eq] at hlength
    rw [List.all_eq_true]
    exact List.length_filter_eq_length_iff.mp (by omega)
  · intro h
    rw [List.filter_eq_self.mpr (List.all_eq_true.mp h)] at hsaid
    exact ⟨row', hrow', _, List.Perm.refl _, hsaid⟩

/-- **Where the transports agree, exactly.**  A turn on a session has the same effect
over both only if the session has ended and the text is blank; a mixture of turns is
all in the transcript if and only if nothing is said over the WebSocket. -/
theorem transports_agree_iff (pk : Uuid) (w : World) (row : VoiceSession)
    (hrow : w.db.voiceSessions.find? pk = some row) (conn : Connection) :
    (∀ (caller : Caller) (t : Text) (extra : List (Text × Json)) (r : VoiceAgentResponse py)
        (fresh : SessionFresh),
      TurnsAgree pk w row caller conn t extra r fresh ↔ row.status ≠ .active ∧ strip t = [])
      ∧ ∀ is : List (MixedTurn py),
        MixedKept pk row (run (mixedStep pk) ⟨w, conn, []⟩ is) ↔ ∀ i ∈ is, i.speaks = false :=
  ⟨fun caller t extra r fresh => turnsAgree_iff_blank hrow caller conn t extra r fresh,
    fun is => mixedKept_iff_silent hrow conn is⟩

/-- The demo guest, connected to the demo session. -/
def demoConnection : Connection := ⟨demoGuest, 5, []⟩

theorem transports_agree_on_rest_turns :
    demoCall.db.voiceSessions.find? 5 = some demoSession
      ∧ MixedKept 5 demoSession (run (mixedStep 5) ⟨demoCall, demoConnection, []⟩
          [.rest (.token 1) ⟨some (txt "hi"), none⟩ (demoReply "yes") (demoSessionFresh 9)]) :=
  ⟨by decide, ((transports_agree_iff 5 demoCall demoSession (by decide) demoConnection).2
    [.rest (.token 1) ⟨some (txt "hi"), none⟩ (demoReply "yes") (demoSessionFresh 9)]).mpr
    (by decide)⟩

/-- "hi" over the WebSocket, on an ACTIVE session of the guest: the reply is sent and
nothing is stored. -/
theorem websocket_turn_is_not_stored :
    ¬ ∀ (py : Python) (pk : Uuid) (w : World) (row : VoiceSession)
      (_ : w.db.voiceSessions.find? pk = some row) (conn : Connection)
      (_ : row.guestId = conn.user.id) (t : Text) (_ : t ≠ []) (r : VoiceAgentResponse py)
      (fresh : SessionFresh),
      TurnsAgree pk w row (.token conn.user.id) conn t [] r fresh := by
  intro h
  obtain ⟨_, _, _, row', hrow', haccount⟩ :=
    (h plainPython 5 demoCall demoSession (by decide) demoConnection rfl (txt "hi") (by decide)
      (demoReply "yes") (demoSessionFresh 9)).append rfl
  have hstored : demoCall.db.voiceSessions.find? 5 = some row' := hrow'
  have hempty : (demoCall.db.voiceSessions.find? 5).map (·.tokensUsed) = some 0 := by decide
  rw [hstored] at hempty
  have htokens : row'.tokensUsed = 5 := congrArg Account.tokensUsed haccount
  simp only [Option.map_some, htokens] at hempty
  exact absurd hempty (by decide)

end HotelAgent
