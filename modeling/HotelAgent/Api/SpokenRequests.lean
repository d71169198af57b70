/-
  HotelAgent.Api.SpokenRequests — from the reply's block to the stored request.

  The system prompt promises a block with four members.  A turn reads it and
  stores three of them:

      service_type   →  service_type
      priority       →  priority
      description    →  description
      scheduled_at   →  nothing

  Main result, `storedAsSpoken_iff`: a turn stores what its reply's block says if
  and only if the block gives no time, and neither a column, a key, the speech
  synthesis nor an event stands in the way.
-/
import HotelAgent.Services.VoiceAgent
import HotelAgent.Api.RequestCreation
import HotelAgent.Api.ServiceRequests

namespace HotelAgent

open Lib

variable {py : Python}

/-! ## §1. What a block says. -/

/-- A service request as the system prompt has it told. -/
structure SpokenRequest where
  serviceType : Text
  priority : Text
  description : Text
  scheduledAt : Option Instant

/-- The members of a block in the promised format: a valid type and priority, a
description, and a null or ISO time. -/
def spokenIn (fromIso : Text → Option Instant) (fields : List (Text × Json)) :
    Option SpokenRequest :=
  match dictGet? fields (txt "service_type"), dictGet? fields (txt "priority"),
    dictGet? fields (txt "description"), dictGet? fields (txt "scheduled_at") with
  | some (.str serviceType), some (.str priority), some (.str description), some time =>
    if serviceType ∈ validServiceTypes ∧ priority ∈ priorityChoices.map (·.1)
        ∧ description ≠ [] then
      match time with
      | .null => some ⟨serviceType, priority, description, none⟩
      | .str iso => (fromIso iso).map fun t => ⟨serviceType, priority, description, some t⟩
      | _ => none
    else none
  | _, _, _, _ => none

/-- **Stored as spoken**: one more request, with the block's values and the session's
id, and the session is linked to it. -/
def StoredAsSpoken (db db' : Db) (sessionId : Uuid) (spoken : SpokenRequest) : Prop :=
  ∃ row : ServiceRequest, db'.serviceRequests.rows = db.serviceRequests.rows ++ [row]
    ∧ row.serviceType = spoken.serviceType ∧ row.priority = spoken.priority
    ∧ row.description = spoken.description ∧ row.scheduledAt = spoken.scheduledAt
    ∧ row.voiceSessionId = some sessionId
    ∧ ∃ s ∈ db'.voiceSessions, s.id = sessionId ∧ row.id ∈ s.serviceRequestsCreated

/-- A turn with the agent of `Services.VoiceAgent`. -/
def speakTurn (py : Python) (w : World) (caller : Caller) (pk : Uuid) (req : TurnRequest)
    (api : OpenAI) (generateAudio : Bool) (fresh : SessionFresh) : World × SessionAnswer :=
  processTurn w caller pk req
    (processVoiceTurn py api req.audio (req.text.bind validText) generateAudio) fresh

/-- **A block is heard**: the turn reaches a session with a booking, and the first
block of the reply is an object in the promised format. -/
structure Heard (py : Python) (fromIso : Text → Option Instant) (db : Db) (caller : Caller)
    (pk : Uuid) (req : TurnRequest) (api : OpenAI) (user : User) (s : VoiceSession)
    (content : Text) (completion : Completion) (fields : List (Text × Json))
    (spoken : SpokenRequest) : Prop where
  turn : readTurn db caller pk req = .ok (user, s, content)
  booking : s.bookingId ≠ none
  text : heardText api req.audio (req.text.bind validText) ≠ none
  reply : api.completion = some completion
  block : ∃ block, firstBlock (completion.content.getD []) = some block
    ∧ loads py (strip block) = .ok (.obj fields)
  spoken : spokenIn fromIso fields = some spoken

/-- The speech of the reply is synthesized, or there is nothing to say. -/
def Speaks (api : OpenAI) (generateAudio : Bool) (completion : Completion) : Prop :=
  generateAudio = true → cleanForTts (completion.content.getD []) ≠ [] → api.speech ≠ none

/-- The characters sent to the synthesis. -/
def spokenChars (generateAudio : Bool) (completion : Completion) : Nat :=
  if generateAudio = true then (cleanForTts (completion.content.getD [])).length else 0

/-- What the new row's signal publishes. -/
def spokenEvent (user : User) (spoken : SpokenRequest) (stamp : Stamp) (fresh : SessionFresh) :
    KafkaEvent :=
  ServiceRequestEvent.created stamp fresh.id.str (.str spoken.serviceType) (.str spoken.priority)
    user.id.str

/-- **Nothing stands in the way** of what is spoken. -/
structure Storable (py : Python) (db : Db) (api : OpenAI) (generateAudio : Bool) (user : User)
    (s : VoiceSession) (content : Text) (completion : Completion) (spoken : SpokenRequest)
    (fresh : SessionFresh) : Prop where
  /-- The block gives no time. -/
  noTime : spoken.scheduledAt = none
  speaks : Speaks api generateAudio completion
  /-- The transcript and the counters fit their columns. -/
  turnFits : ((SessionWrite.turn s
    (turnMessages content (cleanForTts (completion.content.getD [])) fresh.nowTs)
    (completion.totalTokens.getD 0) (spokenChars generateAudio completion)).write s).InRange
  description : storable spoken.description = true
  newKey : ∀ r ∈ db.serviceRequests, r.id ≠ fresh.id
  signal : publish py fresh.signalProduce (txt "SERVICE_REQUESTS")
    (spokenEvent user spoken fresh.signalStamp fresh) (some user.id.str) ≠ .raised
  view : publish py fresh.produce (txt "SERVICE_REQUESTS")
    (spokenEvent user spoken fresh.stamp fresh) none ≠ .raised

/-! ## §2. The agent. -/

/-- The members of a block in the promised format. -/
theorem spokenIn_eq_some {fromIso : Text → Option Instant} {fields : List (Text × Json)}
    {spoken : SpokenRequest} (h : spokenIn fromIso fields = some spoken) :
    dictGet? fields (txt "service_type") = some (.str spoken.serviceType)
      ∧ dictGet? fields (txt "priority") = some (.str spoken.priority)
      ∧ dictGet? fields (txt "description") = some (.str spoken.description)
      ∧ spoken.serviceType ∈ validServiceTypes
      ∧ spoken.priority ∈ priorityChoices.map (·.1) := by
  unfold spokenIn at h
  split at h
  next serviceType priority description time hst hpr hdesc htime =>
    split at h
    next hvalid =>
      have hspoken : spoken.serviceType = serviceType ∧ spoken.priority = priority
          ∧ spoken.description = description := by
        split at h
        · injection h with h
          rw [← h]
          exact ⟨rfl, rfl, rfl⟩
        · obtain ⟨t, _, h⟩ := Option.map_eq_some_iff.mp h
          rw [← h]
          exact ⟨rfl, rfl, rfl⟩
        · exact absurd h (by simp)
      obtain ⟨rfl, rfl, rfl⟩ := hspoken
      exact ⟨hst, hpr, hdesc, hvalid.1, hvalid.2.1⟩
    next => exact absurd h (by simp)
  · exact absurd h (by simp)

/-- A valid block is found as it is. -/
theorem extractServiceRequest_of_object {text block serviceType : Text}
    {fields : List (Text × Json)} (hblock : firstBlock text = some block)
    (hloads : loads py (strip block) = .ok (.obj fields))
    (htype : dictGet? fields (txt "service_type") = some (.str serviceType))
    (hvalid : serviceType ∈ validServiceTypes) :
    ∃ dict : PyDict py, dict.fields = fields ∧ extractServiceRequest py text = .found dict := by
  have hget : dictGet fields (txt "service_type") .null = .str serviceType := by
    unfold dictGet
    rw [htype]
    rfl
  refine ⟨⟨fields, floatsOk_loads hloads⟩, rfl, ?_⟩
  rw [extractServiceRequest_of_block hblock]
  unfold parseRequest
  split
  · next h => exact absurd (h.symm.trans hloads) (by simp)
  · next h => exact absurd (h.symm.trans hloads) (by simp)
  · next h => exact absurd (h.symm.trans hloads) (by simp)
  · next fields' h =>
    have hfields := h.symm.trans hloads
    injection hfields with hfields
    injection hfields with hfields
    subst hfields
    simp only [hget, if_pos hvalid]
  · next v hno h =>
    -- it is an object
    have hv := h.symm.trans hloads
    injection hv with hv
    exact absurd hv (hno fields)

section
variable {fromIso : Text → Option Instant} {w : World} {caller : Caller} {pk : Uuid}
  {req : TurnRequest} {api : OpenAI} {generateAudio : Bool} {fresh : SessionFresh} {user : User}
  {s : VoiceSession} {content : Text} {completion : Completion} {fields : List (Text × Json)}
  {spoken : SpokenRequest}

/-- The reply of a turn in which a block is heard and the speech is synthesized. -/
theorem processVoiceTurn_of_speaks
    (h : Heard py fromIso w.db caller pk req api user s content completion fields spoken)
    (hspeaks : Speaks api generateAudio completion) :
    ∃ r : VoiceAgentResponse py,
      processVoiceTurn py api req.audio (req.text.bind validText) generateAudio = .replies r
        ∧ r.text = cleanForTts (completion.content.getD [])
        ∧ r.tokensUsed = completion.totalTokens.getD 0
        ∧ r.ttsChars = spokenChars generateAudio completion
        ∧ ∃ dict : PyDict py, r.serviceRequest = some dict ∧ dict.fields = fields := by
  obtain ⟨block, hblock, hloads⟩ := h.block
  obtain ⟨htype, _, _, hvalid, _⟩ := spokenIn_eq_some h.spoken
  obtain ⟨dict, hfields, hfound⟩ := extractServiceRequest_of_object hblock hloads htype hvalid
  obtain ⟨text, htext⟩ := Option.ne_none_iff_exists'.mp h.text
  unfold processVoiceTurn generateResponse
  simp only [htext, h.reply, hfound]
  unfold spokenChars
  by_cases haudio : generateAudio = true ∧ cleanForTts (completion.content.getD []) ≠ []
  · obtain ⟨audioData, haudioData⟩ := Option.ne_none_iff_exists'.mp (hspeaks haudio.1 haudio.2)
    rw [if_pos haudio, haudioData, if_pos haudio.1]
    exact ⟨_, rfl, rfl, rfl, rfl, dict, rfl, hfields⟩
  · rw [if_neg haudio]
    refine ⟨_, rfl, rfl, rfl, ?_, dict, rfl, hfields⟩
    split
    next hgenerate =>
      have hempty : cleanForTts (completion.content.getD []) = [] := by
        by_contra hne
        exact haudio ⟨hgenerate, hne⟩
      rw [hempty]
      rfl
    next => rfl

/-- Without the speech the agent raises. -/
theorem processVoiceTurn_of_not_speaks (hreply : api.completion = some completion)
    (hspeaks : ¬ Speaks api generateAudio completion) :
    processVoiceTurn py api req.audio (req.text.bind validText) generateAudio = .raises := by
  unfold Speaks at hspeaks
  simp only [not_forall, not_not] at hspeaks
  obtain ⟨hgenerate, hne, hspeech⟩ := hspeaks
  unfold processVoiceTurn generateResponse
  split
  next completion' _ hcompletion =>
    rw [hreply] at hcompletion
    injection hcompletion with hcompletion
    subst hcompletion
    split
    · rfl
    next response hresponse =>
      have htext : response.text = cleanForTts (completion.content.getD []) := by
        simp only at hresponse
        split at hresponse
        · injection hresponse with hresponse
          rw [← hresponse]
        · injection hresponse with hresponse
          rw [← hresponse]
        · exact absurd hresponse (by simp)
      rw [if_pos ⟨hgenerate, htext ▸ hne⟩, hspeech]
  · rfl

/-! ## §3. The block of the turn. -/

/-- The draft of a turn in which a block is heard. -/
theorem requestDraft_of_heard
    (h : Heard py fromIso w.db caller pk req api user s content completion fields spoken)
    {r : VoiceAgentResponse py} {dict : PyDict py} (hdict : r.serviceRequest = some dict)
    (hfields : dict.fields = fields) :
    ∃ d, requestDraft user s r = some d ∧ d.guest = user ∧ d.sessionId = s.id
      ∧ s.bookingId = some d.bookingId ∧ d.serviceType = .str spoken.serviceType
      ∧ d.priority = .str spoken.priority ∧ d.description = .str spoken.description := by
  obtain ⟨htype, hpriority, hdescription, _⟩ := spokenIn_eq_some h.spoken
  obtain ⟨bookingId, hbooking⟩ := Option.ne_none_iff_exists'.mp h.booking
  have hne : fields ≠ [] := by
    rintro rfl
    exact absurd htype (by simp [dictGet?])
  unfold requestDraft
  simp only [hdict, hbooking, hfields, dictGet, htype, hpriority, hdescription, Option.getD_some]
  rw [if_neg hne]
  exact ⟨_, rfl, rfl, rfl, rfl, rfl, rfl, rfl⟩

/-- A valid type and a valid priority fit their columns as they are. -/
theorem varchar_spoken (h : spokenIn fromIso fields = some spoken) :
    (varchar 30 spoken.serviceType = some spoken.serviceType ∧ spoken.serviceType.length ≤ 30)
      ∧ varchar 10 spoken.priority = some spoken.priority ∧ spoken.priority.length ≤ 10 := by
  obtain ⟨_, _, _, hvalid, hpriority⟩ := spokenIn_eq_some h
  have htypes : ∀ t ∈ validServiceTypes, varchar 30 t = some t ∧ t.length ≤ 30 := by decide
  have hpriorities : ∀ t ∈ priorityChoices.map (·.1), varchar 10 t = some t ∧ t.length ≤ 10 := by
    decide
  exact ⟨htypes _ hvalid, hpriorities _ hpriority⟩

/-- The row of a draft with the block's values. -/
theorem row_of_spoken (py : Python) (fresh : SessionFresh) {d : RequestDraft}
    (hst : d.serviceType = .str spoken.serviceType)
    (hpr : d.priority = .str spoken.priority) (hdesc : d.description = .str spoken.description) :
    ∃ row, d.row py fresh = some row ∧ row.id = fresh.id ∧ row.guestId = d.guest.id
      ∧ row.bookingId = d.bookingId ∧ row.serviceType = spoken.serviceType
      ∧ row.priority = spoken.priority ∧ row.description = spoken.description
      ∧ row.scheduledAt = none ∧ row.voiceSessionId = some d.sessionId := by
  unfold RequestDraft.row
  rw [hst, hpr, hdesc]
  exact ⟨_, rfl, rfl, rfl, rfl, rfl, rfl, rfl, rfl, rfl⟩

/-- **The INSERT** of what is spoken is refused for the description or the key only. -/
theorem inserts_spoken_iff (py : Python) (fresh : SessionFresh) {db : Db} {d : RequestDraft}
    (hspoken : spokenIn fromIso fields = some spoken)
    (hst : d.serviceType = .str spoken.serviceType) (hpr : d.priority = .str spoken.priority)
    (hdesc : d.description = .str spoken.description) (huser : db.users.Has d.guest.id)
    (hbooking : db.bookings.Has d.bookingId) :
    (d.inserts py db fresh).isSome
      ↔ storable spoken.description = true ∧ ∀ r ∈ db.serviceRequests, r.id ≠ fresh.id := by
  obtain ⟨row, hrow, hid, hguest, hbook, hrst, hrpr, hrdesc, _⟩ :=
    row_of_spoken py fresh hst hpr hdesc
  obtain ⟨⟨hvst, hlst⟩, hvpr, hlpr⟩ := varchar_spoken hspoken
  unfold RequestDraft.inserts
  simp only [hrow, Option.isSome_map]
  constructor
  · intro hins
    obtain ⟨db', hins⟩ := Option.isSome_iff_exists.mp hins
    obtain ⟨_, _, _, _, hstorable, hnew, _⟩ := Db.insertServiceRequest_eq_some hins
    rw [hrdesc] at hstorable
    rw [hid] at hnew
    exact ⟨hstorable, hnew⟩
  · rintro ⟨hstorable, hnew⟩
    refine Db.insertServiceRequest_isSome (by rw [hrst]; exact hvst) (by rw [hrpr]; exact hvpr)
      ⟨?_, ?_, ?_, ?_⟩ (by rw [hrdesc]; exact hstorable) (by rw [hid]; exact hnew)
    · rw [hguest]
      exact huser
    · rw [hbook]
      exact hbooking
    · exact hlst
    · exact hlpr

/-! ## §4. Stored as spoken. -/

/-- Where no request is added nothing is stored as spoken. -/
theorem not_stored_of_same {db db' : Db} {sessionId : Uuid}
    (h : db'.serviceRequests = db.serviceRequests) : ¬ StoredAsSpoken db db' sessionId spoken := by
  rintro ⟨row, hrows, _⟩
  have hlength := congrArg List.length hrows
  rw [h, List.length_append, List.length_singleton] at hlength
  omega

/-- **The atomic block** commits what is spoken, exactly where the description can be
stored, the key is new and no event raises. -/
theorem commits_spoken_iff (py : Python) (fresh : SessionFresh) {db : Db} {d : RequestDraft}
    (hspoken : spokenIn fromIso fields = some spoken) (hguest : d.guest = user)
    (hst : d.serviceType = .str spoken.serviceType) (hpr : d.priority = .str spoken.priority)
    (hdesc : d.description = .str spoken.description) (huser : db.users.Has user.id)
    (hbooking : db.bookings.Has d.bookingId) :
    d.commits py db fresh = true
      ↔ (storable spoken.description = true ∧ ∀ r ∈ db.serviceRequests, r.id ≠ fresh.id)
        ∧ publish py fresh.signalProduce (txt "SERVICE_REQUESTS")
            (spokenEvent user spoken fresh.signalStamp fresh) (some user.id.str) ≠ .raised
        ∧ publish py fresh.produce (txt "SERVICE_REQUESTS")
            (spokenEvent user spoken fresh.stamp fresh) none ≠ .raised := by
  have hevent : ∀ stamp, d.event stamp fresh = spokenEvent user spoken stamp fresh := by
    intro stamp
    unfold RequestDraft.event spokenEvent
    rw [hst, hpr, hguest]
  have hins := inserts_spoken_iff py fresh hspoken hst hpr hdesc
    (by rw [hguest]; exact huser) hbooking
  unfold RequestDraft.commits RequestDraft.signal RequestDraft.announce
  rw [Bool.and_eq_true, Bool.and_eq_true, hins, Published.returns_iff, Published.returns_iff,
    hevent, hevent, hguest, and_assoc]

/-- What a committed block has stored. -/
theorem storedAsSpoken_of_commits {w w₀ : World} {d : RequestDraft}
    (hrows : w.db.serviceRequests = w₀.db.serviceRequests)
    (hsession : ∃ s, w.db.voiceSessions.find? d.sessionId = some s)
    (hspoken : spokenIn fromIso fields = some spoken)
    (hst : d.serviceType = .str spoken.serviceType) (hpr : d.priority = .str spoken.priority)
    (hdesc : d.description = .str spoken.description) (hcommits : d.commits py w.db fresh = true) :
    StoredAsSpoken w₀.db (createRequest py w d fresh).1.db d.sessionId spoken
      ↔ spoken.scheduledAt = none := by
  obtain ⟨row, stored, hrow, _, hgained⟩ := createRequest_of_commits hsession hcommits
  obtain ⟨row', hrow', hid, hguest, _, hrst, hrpr, hrdesc, hrtime, hrsession⟩ :=
    row_of_spoken py fresh hst hpr hdesc
  rw [hrow] at hrow'
  injection hrow' with hrow'
  subst hrow'
  obtain ⟨⟨hvst, _⟩, hvpr, _⟩ := varchar_spoken hspoken
  have hstored : stored = row := by
    obtain ⟨serviceType, priority, hkst, hkpr, hstored⟩ := hgained.kept
    rw [hrst, hvst] at hkst
    rw [hrpr, hvpr] at hkpr
    injection hkst with hkst
    injection hkpr with hkpr
    rw [hstored, ← hkst, ← hkpr, ← hrst, ← hrpr]
  have hadded := hgained.rows
  rw [hstored, hrows] at hadded
  constructor
  · rintro ⟨x, hx, _, _, _, htime, _⟩
    rw [hadded] at hx
    have hxrow := List.append_cancel_left hx
    injection hxrow with hxrow _
    rw [← htime, ← hxrow, hrtime]
  · intro hnone
    obtain ⟨s, hfind⟩ := hsession
    obtain ⟨hmem, hsid⟩ := Table.find?_eq_some_iff.mp hfind
    refine ⟨row, hadded, hrst, hrpr, hrdesc, hrtime.trans hnone.symm, hrsession,
      (SessionWrite.addRequest row.id).write s, ?_, hsid, ?_⟩
    · rw [hgained.sessions]
      exact Table.mem_updateWhere.mpr ⟨s, hmem, if_pos (decide_eq_true hsid)⟩
    · exact List.mem_append_right _ List.mem_cons_self

/-- **A turn stores what is spoken, exactly** where nothing stands in the way. -/
theorem storedAsSpoken_iff (py : Python) (fromIso : Text → Option Instant) (w : World)
    (caller : Caller) (pk : Uuid) (req : TurnRequest) (api : OpenAI) (generateAudio : Bool)
    (fresh : SessionFresh) (user : User) (s : VoiceSession) (content : Text)
    (completion : Completion) (fields : List (Text × Json)) (spoken : SpokenRequest)
    (h : Heard py fromIso w.db caller pk req api user s content completion fields spoken) :
    StoredAsSpoken w.db (speakTurn py w caller pk req api generateAudio fresh).1.db s.id spoken
      ↔ Storable py w.db api generateAudio user s content completion spoken fresh := by
  obtain ⟨hget, _⟩ := readTurn_seen h.turn
  have hfind := getSession_ok hget
  obtain ⟨hmem, hpk⟩ := Table.find?_eq_some_iff.mp hfind
  unfold speakTurn
  by_cases hspeaks : Speaks api generateAudio completion
  · obtain ⟨r, hreplies, htext, htokens, hchars, dict, hdict, hfields⟩ :=
      processVoiceTurn_of_speaks h hspeaks
    obtain ⟨d, hdraft, hguest, hsession, hbooking, hst, hpr, hdesc⟩ :=
      requestDraft_of_heard h hdict hfields
    rw [hreplies]
    -- transcript and counters of what was heard
    have hfits : (saveTurn w.db s content r fresh.nowTs).isSome ↔ _ :=
      Db.saveSession_isSome_iff (show w.db.voiceSessions.find? s.id = some s by
        rw [hpk]
        exact hfind)
    rw [htext, htokens, hchars] at hfits
    cases hsave : saveTurn w.db s content r fresh.nowTs with
    | none =>
        rw [hsave] at hfits
        have hnone : turnDraft w.db caller pk req (.replies r) fresh = none := by
          unfold turnDraft
          simp only [h.turn, hsave]
        refine iff_of_false (not_stored_of_same (processTurn_of_no_draft hnone).1.serviceRequests)
          fun hok => ?_
        exact absurd (hfits.mpr hok.turnFits) (by simp)
    | some db =>
        rw [hsave] at hfits
        have hsome : turnDraft w.db caller pk req (.replies r) fresh = some (db, d) := by
          unfold turnDraft
          simp only [h.turn, hsave, hdraft]
        obtain ⟨hsame, hthere⟩ := sameButSessions_of_draft hsome
        have hcommits := commits_spoken_iff py fresh h.spoken hguest hst hpr hdesc
          (by rw [hsame.users]; exact Table.has_of_mem (getSession_user hget).2)
          (by rw [hsame.bookings]; exact (w.db.session_ok s hmem).2.1 _ hbooking)
        rw [hsame.serviceRequests] at hcommits
        rw [processTurn_of_draft hsome, ← hsession]
        by_cases hblock : d.commits py db fresh = true
        · rw [storedAsSpoken_of_commits (w := { w with db := db }) hsame.serviceRequests hthere
            h.spoken hst hpr hdesc hblock]
          obtain ⟨⟨hdescription, hnew⟩, hsignal, hview⟩ := hcommits.mp hblock
          exact ⟨fun hnone => ⟨hnone, hspeaks, hfits.mp rfl, hdescription, hnew, hsignal, hview⟩,
            fun hok => hok.noTime⟩
        · -- the block is rolled back
          have hno : d.commits py db fresh = false := by simpa using hblock
          refine iff_of_false (not_stored_of_same ?_) fun hok => hblock (hcommits.mpr
            ⟨⟨hok.description, hok.newKey⟩, hok.signal, hok.view⟩)
          rw [(createRequest_of_not_commits (w := { w with db := db }) hno).1]
          exact hsame.serviceRequests
  · have hnone : turnDraft w.db caller pk req (.raises : AgentOutcome py) fresh = none := by
      unfold turnDraft
      split
      · next heq => exact absurd heq (by simp)
      · rfl
    rw [processVoiceTurn_of_not_speaks h.reply hspeaks]
    exact iff_of_false (not_stored_of_same (processTurn_of_no_draft hnone).1.serviceRequests)
      fun hok => hspeaks hok.speaks

end

/-! ## §5. Somebody asks for a massage. -/

/-- A block with this time. -/
def demoFields (time : Json) : List (Text × Json) :=
  [(txt "service_type", .str (txt "spa")), (txt "priority", .str (txt "low")),
    (txt "description", .str (txt "massage")), (txt "scheduled_at", time)]

/-- The model answers with it; there is no speech synthesis. -/
def demoCompletion (time : Json) : Completion where
  content := some (txt "Of course." ++ blockOpen ++ dumps (.obj (demoFields time)) ++ blockClose)
  totalTokens := some 5

def demoOpenAI (time : Json) : OpenAI where
  transcription := none
  completion := some (demoCompletion time)
  speech := none

/-- The demo guest's session. -/
def demoStaySession : VoiceSession :=
  newSession demoGuest (some 20)
    { id := 5, now := 0, nowTs := [], stamp := ⟨0, []⟩, produce := .accepted,
      signalStamp := ⟨0, []⟩, signalProduce := .accepted }

/-- What the demo guest has said, at this time. -/
def demoSpoken (scheduledAt : Option Instant) : SpokenRequest :=
  ⟨txt "spa", txt "low", txt "massage", scheduledAt⟩

/-- The time of the demo. -/
def demoIso (_ : Text) : Option Instant := some second

/-- A block with this time is heard. -/
theorem demo_heard {time : Json} {t : Option Instant} {block : Text}
    (hblock : firstBlock ((demoCompletion time).content.getD []) = some block)
    (hloads : loads plainPython (strip block) = .ok (.obj (demoFields time)))
    (hspoken : spokenIn demoIso (demoFields time) = some (demoSpoken t)) :
    Heard plainPython demoIso demoDesk.db (.token 1) 5 demoWords (demoOpenAI time) demoGuest
      demoStaySession (txt "A massage, please") (demoCompletion time) (demoFields time)
      (demoSpoken t) where
  turn := rfl
  booking := by decide
  text := by
    have htext : heardText (demoOpenAI time) demoWords.audio (demoWords.text.bind validText)
        = some (txt "A massage, please") := rfl
    rw [htext]
    simp
  reply := rfl
  block := ⟨block, hblock, hloads⟩
  spoken := hspoken

/-- A massage at any time is stored as spoken. -/
theorem stored_without_time :
    StoredAsSpoken demoDesk.db (speakTurn plainPython demoDesk (.token 1) 5 demoWords
      (demoOpenAI .null) false (demoTurnFresh 31 .accepted .kafkaException)).1.db demoStaySession.id
      (demoSpoken none) := by
  have hblock : firstBlock ((demoCompletion .null).content.getD [])
      = some (dumps (.obj (demoFields .null))) := by decide +kernel
  have hheard := demo_heard (t := none) hblock rfl rfl
  refine (storedAsSpoken_iff plainPython demoIso demoDesk (.token 1) 5 demoWords
    (demoOpenAI .null) false (demoTurnFresh 31 .accepted .kafkaException) demoGuest demoStaySession
    (txt "A massage, please") (demoCompletion .null) (demoFields .null) (demoSpoken none)
    hheard).mpr ?_
  exact
    { noTime := rfl
      speaks := fun hgenerate => absurd hgenerate (by simp)
      turnFits := by decide +kernel
      description := by decide +kernel
      newKey := by decide +kernel
      signal := Published.returns_iff.mp (by decide +kernel)
      view := Published.returns_iff.mp (by decide +kernel) }

/-- A massage at seven in the morning is stored without the time. -/
theorem time_is_lost :
    ¬ ∀ (py : Python) (fromIso : Text → Option Instant) (w : World) (caller : Caller) (pk : Uuid)
      (req : TurnRequest) (api : OpenAI) (generateAudio : Bool) (fresh : SessionFresh)
      (user : User) (s : VoiceSession) (content : Text) (completion : Completion)
      (fields : List (Text × Json)) (spoken : SpokenRequest),
      Heard py fromIso w.db caller pk req api user s content completion fields spoken →
        StoredAsSpoken w.db (speakTurn py w caller pk req api generateAudio fresh).1.db s.id
          spoken := by
  intro h
  have hblock : firstBlock ((demoCompletion (.str (txt "2025-01-05T07:00:00Z"))).content.getD [])
      = some (dumps (.obj (demoFields (.str (txt "2025-01-05T07:00:00Z"))))) := by
    decide +kernel
  have hheard := demo_heard (t := some second) hblock rfl rfl
  obtain ⟨row, hrows, _, _, _, htime, _⟩ := h _ _ demoDesk _ _ _ _ false
    (demoTurnFresh 31 .accepted .kafkaException) _ _ _ _ _ _ hheard
  have hnone : ∀ r ∈ (speakTurn plainPython demoDesk (.token 1) 5 demoWords
      (demoOpenAI (.str (txt "2025-01-05T07:00:00Z"))) false
      (demoTurnFresh 31 .accepted .kafkaException)).1.db.serviceRequests.rows,
      r.scheduledAt = none := by decide +kernel
  have hmem : row ∈ (speakTurn plainPython demoDesk (.token 1) 5 demoWords
      (demoOpenAI (.str (txt "2025-01-05T07:00:00Z"))) false
      (demoTurnFresh 31 .accepted .kafkaException)).1.db.serviceRequests.rows := by
    rw [hrows]
    exact List.mem_append_right _ List.mem_cons_self
  rw [hnone row hmem] at htime
  exact absurd htime (by simp [demoSpoken])

end HotelAgent
