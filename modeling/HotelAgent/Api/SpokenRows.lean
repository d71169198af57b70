/-
  HotelAgent.Api.SpokenRows — what a reply may put into the columns.

  `process_turn` fills three columns from the object of the first block and
  checks none of them; only the type has been made valid before:

      service_type   `get("service_type", "other")`   one of the choices
      priority       `get("priority", "normal")`      anything
      description    `get("description", "")`         anything

  A null is refused by `NOT NULL`, a priority of more than ten characters by its
  column, and any other priority is stored.  Psycopg sends no text with a NUL or a
  surrogate, so such a text hides what the database would have said.

  Main result, `wellFormedRows_iff`: no turn with a reply stores a malformed row
  or is refused for a value, exactly if the reply's object gives a description
  that is not null and a priority among the choices, or cannot be sent.
-/
import HotelAgent.Services.HandedOn
import HotelAgent.Api.SpokenRequests

namespace HotelAgent

open Lib

variable {py : Python}

/-! ## §1. Values and columns. -/

/-- The priority that an object gives to the row. -/
def givenPriority (fields : List (Text × Json)) : Json :=
  dictGet fields (txt "priority") (.str (txt "normal"))

/-- The description that it gives. -/
def givenDescription (fields : List (Text × Json)) : Json :=
  dictGet fields (txt "description") (.str [])

/-- A value that psycopg sends: null, or a text without NUL and surrogates. -/
def Sendable (py : Python) (v : Json) : Prop :=
  ∀ t ∈ columnText py v, storable t = true

/-- A text that is too long for its column: more than spaces is beyond the limit. -/
def TooLong (n : Nat) (t : Text) : Prop :=
  n < t.length ∧ (t.drop n).all (· = 0x20) = false

/-- **The INSERT fails for a value**: everything is sent, and a column gets null or a text that
is too long. -/
def RefusedForValue (py : Python) (d : RequestDraft) : Prop :=
  (Sendable py d.serviceType ∧ Sendable py d.priority ∧ Sendable py d.description)
    ∧ ((columnText py d.serviceType = none ∨ columnText py d.priority = none
        ∨ columnText py d.description = none)
      ∨ (∃ t ∈ columnText py d.serviceType, TooLong 30 t)
      ∨ ∃ t ∈ columnText py d.priority, TooLong 10 t)

/-- A row whose type and priority are among the choices. -/
def ServiceRequest.WellFormed (r : ServiceRequest) : Prop :=
  r.serviceType ∈ serviceTypeChoices.map (·.1) ∧ r.priority ∈ priorityChoices.map (·.1)

/-- **A turn inserts well-formed rows only**, and fails for no value. -/
def InsertsWellFormed (py : Python) (w : World) (caller : Caller) (pk : Uuid) (req : TurnRequest)
    (api : OpenAI) (generateAudio : Bool) (fresh : SessionFresh) : Prop :=
  ∀ db d, turnDraft w.db caller pk req
      (processVoiceTurn py api req.audio (req.text.bind validText) generateAudio) fresh
        = some (db, d) →
    ¬ RefusedForValue py d
      ∧ ∀ row db', d.inserts py db fresh = some (row, db') →
        ∀ r ∈ db'.serviceRequests, r ∉ db.serviceRequests → r.WellFormed

/-- The object of the first block gives a description that is not null and a priority among the
choices, as far as it is sent. -/
def SaneReply (py : Python) (reply : Text) : Prop :=
  ∀ block fields, firstBlock reply = some block → loads py (strip block) = .ok (.obj fields) →
    Hashable (dictGet fields (txt "service_type") .null) →
    -- the transcript is stored before
    storable (cleanForTts reply) = true →
    Sendable py (givenPriority fields) → Sendable py (givenDescription fields) →
      (∃ priority ∈ priorityChoices.map (·.1),
        columnText py (givenPriority fields) = some priority)
      ∧ columnText py (givenDescription fields) ≠ none

/-- A priority that is kept as one of the choices was given so. -/
theorem eq_of_kept_priority {t kept : Text} (h : varchar 10 t = some kept)
    (hkept : kept ∈ priorityChoices.map (·.1)) : t = kept := by
  have hshort : ∀ p ∈ priorityChoices.map (·.1), p.length < 10 := by decide
  obtain ⟨_, ⟨_, heq⟩ | hlength⟩ := varchar_eq_some h
  · exact heq.symm
  · -- ten characters and spaces beyond are none of them
    have := hshort kept hkept
    omega

/-- What a column refuses. -/
theorem varchar_isSome_iff {n : Nat} {t : Text} :
    (varchar n t).isSome ↔ storable t = true ∧ ¬ TooLong n t := by
  unfold varchar TooLong
  cases hstorable : storable t with
  | false => simp
  | true =>
      by_cases hlength : t.length ≤ n
      · simp [hlength]
      · rw [if_neg (by simp), if_neg hlength]
        cases hspaces : (t.drop n).all (· = 0x20) with
        | true => simp
        | false =>
            simp only [Bool.false_eq_true, if_false, Option.isSome_none, true_and, and_true,
              false_iff, not_not]
            omega

/-! ## §2. The draft of a turn. -/

/-- The keys but for the type are handed on as they are. -/
theorem dictGet_requestOf (fields : List (Text × Json)) {k : Text} (d : Json)
    (hk : k ≠ txt "service_type") : dictGet (requestOf fields) k d = dictGet fields k d := by
  have hother : dictGet (dictSet fields (txt "service_type") (.str (txt "other"))) k d
      = dictGet fields k d := by
    unfold dictGet
    rw [dictGet?_dictSet_of_ne fields _ hk]
  unfold requestOf
  split
  · split
    · rfl
    · exact hother
  · exact hother

/-- The type that is handed on is one of the choices. -/
theorem serviceType_requestOf (fields : List (Text × Json)) :
    ∃ t ∈ serviceTypeChoices.map (·.1),
      dictGet (requestOf fields) (txt "service_type") (.str (txt "other")) = .str t := by
  have hvalid : ∀ t ∈ validServiceTypes, t ∈ serviceTypeChoices.map (·.1) := by decide
  have hother : dictGet (dictSet fields (txt "service_type") (.str (txt "other")))
      (txt "service_type") (.str (txt "other")) = .str (txt "other") := by
    unfold dictGet
    rw [dictGet?_dictSet]
    rfl
  unfold requestOf
  split
  next t htype =>
    split
    next hmem =>
      refine ⟨t, hvalid t hmem, ?_⟩
      -- the type is there: it was not read from the default
      unfold dictGet at htype ⊢
      cases hget : dictGet? fields (txt "service_type") with
      | none =>
          rw [hget] at htype
          exact absurd htype (by simp)
      | some v =>
          rw [hget] at htype
          exact htype
    next => exact ⟨txt "other", by decide, hother⟩
  next => exact ⟨txt "other", by decide, hother⟩

section
variable {w : World} {caller : Caller} {pk : Uuid} {req : TurnRequest} {api : OpenAI}
  {generateAudio : Bool} {fresh : SessionFresh} {reply : Text}

/-- **What a turn drafts** comes from the object of the first block. -/
theorem draft_of_reply (hreply : ∀ c ∈ api.completion, c.content.getD [] = reply) {db : Db}
    {d : RequestDraft}
    (h : turnDraft w.db caller pk req
      (processVoiceTurn py api req.audio (req.text.bind validText) generateAudio) fresh
        = some (db, d)) :
    storable (cleanForTts reply) = true
      ∧ ∃ block fields, firstBlock reply = some block
        ∧ loads py (strip block) = .ok (.obj fields)
        ∧ Hashable (dictGet fields (txt "service_type") .null)
        ∧ (∃ t ∈ serviceTypeChoices.map (·.1), d.serviceType = .str t)
        ∧ d.priority = givenPriority fields ∧ d.description = givenDescription fields := by
  obtain ⟨user, s, content, r, hagent, _, hsave, hdraft⟩ := turnDraft_eq_some h
  obtain ⟨_, completion, response, _, hcompletion, hresponse, htext, hrequest, _⟩ :=
    processVoiceTurn_replies hagent
  have hcontent := hreply completion hcompletion
  constructor
  · obtain ⟨row, _, hrange, _⟩ := Db.saveSession_eq_some hsave
    have hmessage := List.all_eq_true.mp hrange.1
      { role := txt "assistant", content := r.text, timestamp := fresh.nowTs }
      (List.mem_append_right _ (List.mem_cons_of_mem _ List.mem_cons_self))
    rw [← hcontent, ← text_of_generateResponse hresponse, ← htext]
    unfold Message.storable at hmessage
    simp only [Bool.and_eq_true] at hmessage
    exact hmessage.1.2
  · have hfound := serviceRequest_of_generateResponse hresponse
    unfold requestDraft at hdraft
    rw [hrequest] at hdraft
    cases hdict : response.serviceRequest with
    | none =>
        rw [hdict] at hdraft
        exact absurd hdraft (by simp)
    | some dict =>
        rw [hdict] at hdraft hfound
        simp only [hcontent] at hfound
        obtain ⟨block, fields, hblock, hloads, hhash, hfields⟩ := extract_eq_found hfound
        refine ⟨block, fields, hblock, hloads, hhash, ?_⟩
        split at hdraft
        next dict' bookingId hsome _ =>
          injection hsome with hsome
          subst hsome
          split at hdraft
          · exact absurd hdraft (by simp)
          · injection hdraft with hdraft
            subst hdraft
            rw [hfields]
            exact ⟨serviceType_requestOf fields,
              dictGet_requestOf fields _ (by decide), dictGet_requestOf fields _ (by decide)⟩
        · exact absurd hdraft (by simp)

/-! ## §3. The INSERT. -/

/-- The texts of the row. -/
theorem row_texts {d : RequestDraft} {row : ServiceRequest} (h : d.row py fresh = some row) :
    columnText py d.serviceType = some row.serviceType
      ∧ columnText py d.priority = some row.priority
      ∧ columnText py d.description = some row.description := by
  unfold RequestDraft.row at h
  split at h
  next hst hpr hdesc =>
    injection h with h
    subst h
    exact ⟨hst, hpr, hdesc⟩
  · exact absurd h (by simp)

/-- **What an INSERT adds**: one row, with the texts as the columns keep them. -/
theorem added_by_inserts {db db' : Db} {d : RequestDraft} {row : ServiceRequest}
    (h : d.inserts py db fresh = some (row, db')) :
    ∃ stored : ServiceRequest, stored ∈ db'.serviceRequests ∧ stored ∉ db.serviceRequests
      ∧ (∀ r ∈ db'.serviceRequests, r ∉ db.serviceRequests → r = stored)
      ∧ (∃ t, columnText py d.serviceType = some t ∧ varchar 30 t = some stored.serviceType)
      ∧ (∃ t, columnText py d.priority = some t ∧ varchar 10 t = some stored.priority)
      ∧ ∃ t, columnText py d.description = some t ∧ storable t = true := by
  unfold RequestDraft.inserts at h
  split at h
  · exact absurd h (by simp)
  next row' hrow =>
    obtain ⟨db₁, hins, heq⟩ := Option.map_eq_some_iff.mp h
    injection heq with hr hd
    subst hr hd
    obtain ⟨hst, hpr, hdesc⟩ := row_texts hrow
    obtain ⟨serviceType, priority, hkst, hkpr, hstorable, hnew, hrows, _⟩ :=
      Db.insertServiceRequest_eq_some hins
    have hmem : ∀ r, r ∈ db₁.serviceRequests ↔ r ∈ db.serviceRequests
        ∨ r = { row' with serviceType := serviceType, priority := priority } := by
      intro r
      show r ∈ db₁.serviceRequests.rows ↔ _
      rw [hrows, List.mem_append, List.mem_singleton]
      rfl
    refine ⟨_, (hmem _).mpr (.inr rfl), fun hold => hnew _ hold rfl, ?_, ⟨_, hst, hkst⟩,
      ⟨_, hpr, hkpr⟩, _, hdesc, hstorable⟩
    intro r hr hnot
    exact ((hmem r).mp hr).resolve_left hnot

/-- An INSERT is accepted if its texts fit and its key is new. -/
theorem inserts_isSome {db : Db} {d : RequestDraft} {serviceType priority description : Text}
    (hst : columnText py d.serviceType = some serviceType)
    (hpr : columnText py d.priority = some priority)
    (hdesc : columnText py d.description = some description)
    (hkst : (varchar 30 serviceType).isSome) (hkpr : (varchar 10 priority).isSome)
    (hstorable : storable description = true) (huser : db.users.Has d.guest.id)
    (hbooking : db.bookings.Has d.bookingId) (hnew : ∀ r ∈ db.serviceRequests, r.id ≠ fresh.id) :
    (d.inserts py db fresh).isSome := by
  obtain ⟨keptType, hkst⟩ := Option.isSome_iff_exists.mp hkst
  obtain ⟨keptPriority, hkpr⟩ := Option.isSome_iff_exists.mp hkpr
  unfold RequestDraft.inserts RequestDraft.row
  simp only [hst, hpr, hdesc, Option.isSome_map]
  exact Db.insertServiceRequest_isSome hkst hkpr
    ⟨huser, hbooking, varchar_length_le hkst, varchar_length_le hkpr⟩ hstorable hnew

end

/-! ## §4. Well-formed rows. -/

/-- **A sane reply** inserts well-formed rows, on every session. -/
theorem insertsWellFormed_of_sane {reply : Text} (hsane : SaneReply py reply) {w : World}
    {caller : Caller} {pk : Uuid} {req : TurnRequest} {api : OpenAI} {generateAudio : Bool}
    {fresh : SessionFresh} (hreply : ∀ c ∈ api.completion, c.content.getD [] = reply) :
    InsertsWellFormed py w caller pk req api generateAudio fresh := by
  intro db d hd
  obtain ⟨hspoken, block, fields, hblock, hloads, hhash, ⟨t, ht, hst⟩, hpr, hdesc⟩ :=
    draft_of_reply hreply hd
  have hchoices := choice_length
  have hmem : ∀ {choices : List (Text × Text)} {n : Nat}, (∀ c ∈ choices, c.1.length ≤ n) →
      ∀ v ∈ choices.map (·.1), v.length ≤ n := by
    intro choices n hall v hv
    obtain ⟨c, hc, rfl⟩ := List.mem_map.mp hv
    exact hall c hc
  have hsent := hsane block fields hblock hloads hhash hspoken
  rw [← hpr, ← hdesc] at hsent
  constructor
  · rintro ⟨⟨_, hsendPriority, hsendDescription⟩, hrefused⟩
    obtain ⟨⟨p, hp, hpriority⟩, hdescription⟩ := hsent hsendPriority hsendDescription
    rw [hst, hpriority] at hrefused
    rcases hrefused with (hnull | hnull | hnull) | ⟨t', ht', hlong⟩ | ⟨p', hp', hlong⟩
    · exact absurd hnull (by simp [columnText])
    · exact absurd hnull (by simp)
    · exact hdescription hnull
    · injection ht' with ht'
      subst ht'
      exact absurd (hmem hchoices.1 t ht) (Nat.not_le.mpr hlong.1)
    · injection hp' with hp'
      subst hp'
      exact absurd (hmem hchoices.2 p hp) (Nat.not_le.mpr hlong.1)
  · intro row db' hins r hr hnot
    obtain ⟨stored, _, _, honly, ⟨t', ht', hkst⟩, ⟨p', hp', hkpr⟩, description, hdescription,
      hstorable⟩ := added_by_inserts hins
    obtain ⟨⟨p, hp, hpriority⟩, _⟩ := hsent
      (by rw [Sendable, hp']; rintro _ ⟨⟩; exact (varchar_eq_some hkpr).1)
      (by rw [Sendable, hdescription]; rintro _ ⟨⟩; exact hstorable)
    rw [honly r hr hnot]
    rw [hst] at ht'
    injection ht' with ht'
    rw [hpriority] at hp'
    injection hp' with hp'
    subst ht' hp'
    have hkeeps : ∀ {n : Nat} {v kept : Text}, v.length ≤ n → varchar n v = some kept →
        kept = v := by
      intro n v kept hlength hkept
      obtain ⟨hok, _⟩ := varchar_eq_some hkept
      unfold varchar at hkept
      rw [if_neg (by simp [hok]), if_pos hlength] at hkept
      injection hkept with hkept
      exact hkept.symm
    unfold ServiceRequest.WellFormed
    rw [hkeeps (hmem hchoices.1 t ht) hkst, hkeeps (hmem hchoices.2 p hp) hkpr]
    exact ⟨ht, hp⟩

/-- **A turn that inserts well-formed rows** only was given sane values, if it drafts a request
under a new key. -/
theorem sane_of_insertsWellFormed {reply : Text} {w : World} {caller : Caller} {pk : Uuid}
    {req : TurnRequest} {api : OpenAI} {generateAudio : Bool} {fresh : SessionFresh}
    (hreply : ∀ c ∈ api.completion, c.content.getD [] = reply) {db : Db} {d : RequestDraft}
    (hd : turnDraft w.db caller pk req
      (processVoiceTurn py api req.audio (req.text.bind validText) generateAudio) fresh
        = some (db, d))
    (hnew : ∀ r ∈ w.db.serviceRequests, r.id ≠ fresh.id)
    (h : InsertsWellFormed py w caller pk req api generateAudio fresh)
    (hsendPriority : Sendable py d.priority) (hsendDescription : Sendable py d.description) :
    (∃ priority ∈ priorityChoices.map (·.1), columnText py d.priority = some priority)
      ∧ columnText py d.description ≠ none := by
  obtain ⟨hnot, hrows⟩ := h db d hd
  obtain ⟨_, _, _, _, _, _, ⟨t, ht, hst⟩, _, _⟩ := draft_of_reply hreply hd
  have htype : (varchar 30 t).isSome := by
    have hkept : ∀ t ∈ serviceTypeChoices.map (·.1), (varchar 30 t).isSome := by decide
    exact hkept t ht
  have hsendType : Sendable py d.serviceType := by
    rw [Sendable, hst]
    rintro _ ⟨⟩
    exact (varchar_isSome_iff.mp htype).1
  -- nothing is hidden by a text that is not sent
  unfold RefusedForValue at hnot
  rw [not_and] at hnot
  have hfits := hnot ⟨hsendType, hsendPriority, hsendDescription⟩
  simp only [not_or] at hfits
  obtain ⟨⟨_, hpriority, hdescription⟩, _, hshort⟩ := hfits
  refine ⟨?_, hdescription⟩
  obtain ⟨priority, hpriority⟩ := Option.ne_none_iff_exists'.mp hpriority
  obtain ⟨description, hdescription⟩ := Option.ne_none_iff_exists'.mp hdescription
  have hkept : (varchar 10 priority).isSome := varchar_isSome_iff.mpr
    ⟨hsendPriority priority hpriority, fun hlong => hshort ⟨priority, hpriority, hlong⟩⟩
  -- so the INSERT is accepted, and the row shows the priority
  obtain ⟨user, s, content, r, _, hread, _, hdraft⟩ := turnDraft_eq_some hd
  obtain ⟨hguest, _, hbooking⟩ := requestDraft_eq_some hdraft
  obtain ⟨hsame, _⟩ := sameButSessions_of_draft hd
  obtain ⟨hget, _⟩ := readTurn_seen hread
  obtain ⟨hmem, _⟩ := Table.find?_eq_some_iff.mp (getSession_ok hget)
  have hinserts := inserts_isSome (by rw [hst]; rfl) hpriority hdescription htype hkept
    (hsendDescription description hdescription)
    (by rw [hsame.users, hguest]; exact Table.has_of_mem (getSession_user hget).2)
    (by rw [hsame.bookings]; exact (w.db.session_ok s hmem).2.1 _ hbooking)
    (by rw [hsame.serviceRequests]; exact hnew)
  obtain ⟨⟨row, db'⟩, hinserts⟩ := Option.isSome_iff_exists.mp hinserts
  obtain ⟨stored, hstored, hold, _, _, ⟨p, hp, hkpr⟩, _⟩ := added_by_inserts hinserts
  have hwell := hrows row db' hinserts stored hstored hold
  have heq := eq_of_kept_priority hkpr hwell.2
  exact ⟨stored.priority, hwell.2, heq ▸ hp⟩

/-! ## §5. The replies. -/

/-- What is handed on is never empty: it has a type. -/
theorem requestOf_ne_nil (fields : List (Text × Json)) : requestOf fields ≠ [] := by
  have hset : dictSet fields (txt "service_type") (.str (txt "other")) ≠ [] := by
    intro hnil
    have hget := dictGet?_dictSet fields (txt "service_type") (.str (txt "other"))
    rw [hnil] at hget
    exact absurd hget (by simp [dictGet?])
  unfold requestOf
  split
  next t htype =>
    split
    · rintro rfl
      exact absurd htype (by simp [dictGet, dictGet?])
    · exact hset
  · exact hset

/-- What the model answers to the demo guest. -/
def demoModelReply (reply : Text) : OpenAI where
  transcription := none
  completion := some { content := some reply, totalTokens := none }
  speech := none

theorem demoModelReply_content (reply : Text) :
    ∀ c ∈ (demoModelReply reply).completion, c.content.getD [] = reply := by
  rintro _ ⟨⟩
  rfl

/-- The demo guest's turn drafts what such a reply asks for. -/
theorem demo_drafts {reply block : Text} {fields : List (Text × Json)} (fresh : SessionFresh)
    (hnow : storable fresh.nowTs = true) (hblock : firstBlock reply = some block)
    (hloads : loads py (strip block) = .ok (.obj fields))
    (hhash : Hashable (dictGet fields (txt "service_type") .null))
    (hspoken : storable (cleanForTts reply) = true) :
    ∃ db d, turnDraft demoDesk.db (.token 1) 5 demoWords
      (processVoiceTurn py (demoModelReply reply) demoWords.audio (demoWords.text.bind validText)
        false) fresh = some (db, d) := by
  obtain ⟨dict, hfound, hfields⟩ := extract_of_hashable hblock hloads hhash
  have hagent : processVoiceTurn py (demoModelReply reply) demoWords.audio
      (demoWords.text.bind validText) false = .replies
        { text := cleanForTts reply, audioData := none, serviceRequest := some dict
          tokensUsed := 0, ttsChars := 0 } := by
    have hheard : heardText (demoModelReply reply) demoWords.audio (demoWords.text.bind validText)
        = some (txt "A massage, please") := rfl
    have hcompletion : (demoModelReply reply).completion
        = some { content := some reply, totalTokens := none } := rfl
    unfold processVoiceTurn generateResponse
    simp only [hheard, hcompletion, Option.getD_some, hfound]
    rw [if_neg (by simp)]
    rfl
  have hread : readTurn demoDesk.db (.token 1) 5 demoWords
      = .ok (demoGuest, demoStaySession, txt "A massage, please") := rfl
  have hsave : (saveTurn demoDesk.db demoStaySession (txt "A massage, please")
      ({ text := cleanForTts reply, audioData := none, serviceRequest := some dict
         tokensUsed := 0, ttsChars := 0 } : VoiceAgentResponse py) fresh.nowTs).isSome := by
    refine (Db.saveSession_isSome_iff
      (show demoDesk.db.voiceSessions.find? demoStaySession.id = some demoStaySession from rfl)).mpr
      ⟨?_, Nat.zero_le _, Nat.zero_le _, Nat.zero_le _⟩
    show (turnMessages _ _ _).all Message.storable = true
    unfold turnMessages
    simp only [List.all_cons, List.all_nil, Message.storable, hspoken, hnow, Bool.and_true]
    decide
  obtain ⟨db, hsave⟩ := Option.isSome_iff_exists.mp hsave
  have hne : dict.fields ≠ [] := hfields ▸ requestOf_ne_nil fields
  have hbooking : demoStaySession.bookingId = some 20 := rfl
  unfold turnDraft requestDraft
  simp only [hagent, hread, hsave, hbooking, if_neg hne]
  exact ⟨db, _, rfl⟩

/-- **Rows are well-formed, exactly** for the sane replies: whatever the session, the turn and the
rest of the agent, no turn with the reply stores a malformed row or is refused for a value. -/
theorem wellFormedRows_iff (py : Python) (reply : Text) :
    (∀ (w : World) (caller : Caller) (pk : Uuid) (req : TurnRequest) (api : OpenAI)
        (generateAudio : Bool) (fresh : SessionFresh),
        (∀ c ∈ api.completion, c.content.getD [] = reply) →
          InsertsWellFormed py w caller pk req api generateAudio fresh)
      ↔ SaneReply py reply := by
  constructor
  · intro hall block fields hblock hloads hhash hspoken hsendPriority hsendDescription
    obtain ⟨db, d, hd⟩ := demo_drafts (demoTurnFresh 31 .accepted .accepted) (by decide) hblock
      hloads hhash hspoken
    obtain ⟨_, block', fields', hblock', hloads', _, _, hpr, hdesc⟩ :=
      draft_of_reply (demoModelReply_content reply) hd
    cases hblock.symm.trans hblock'
    cases hloads.symm.trans hloads'
    rw [← hpr] at hsendPriority ⊢
    rw [← hdesc] at hsendDescription ⊢
    exact sane_of_insertsWellFormed (demoModelReply_content reply) hd (by decide +kernel)
      (hall demoDesk _ _ _ _ _ _ (demoModelReply_content reply)) hsendPriority hsendDescription
  · intro hsane w caller pk req api generateAudio fresh hreply
    exact insertsWellFormed_of_sane hsane hreply

/-- A block that calls a leak critical, and says so in the right place. -/
def criticalBlock : Text :=
  txt "\x7b\"service_type\": \"maintenance\", "
    ++ txt "\"priority\": \"critical\", \"description\": \"leak\"\x7d"

def criticalReply : Text := txt "Right away. " ++ blockOpen ++ criticalBlock ++ blockClose

/-- The priority is stored although it is none of the choices. -/
theorem critical_priority_is_stored :
    ¬ InsertsWellFormed plainPython demoDesk (.token 1) 5 demoWords (demoModelReply criticalReply)
      false (demoTurnFresh 31 .accepted .accepted) := by
  intro h
  have hblock : firstBlock criticalReply = some criticalBlock := by decide +kernel
  have hloads : loads plainPython (strip criticalBlock)
      = .ok (.obj [(txt "service_type", .str (txt "maintenance")),
          (txt "priority", .str (txt "critical")), (txt "description", .str (txt "leak"))]) := by
    decide +kernel
  obtain ⟨db, d, hd⟩ := demo_drafts (demoTurnFresh 31 .accepted .accepted) (by decide) hblock
    hloads trivial (by decide +kernel)
  obtain ⟨_, _, _, hblock', hloads', _, _, hpr, hdesc⟩ :=
    draft_of_reply (demoModelReply_content criticalReply) hd
  cases hblock.symm.trans hblock'
  cases hloads.symm.trans hloads'
  have hsend : ∀ t, storable t = true → Sendable plainPython (.str t) := by
    rintro t ht _ ⟨⟩
    exact ht
  obtain ⟨⟨p, hp, hpriority⟩, _⟩ := sane_of_insertsWellFormed
    (demoModelReply_content criticalReply) hd (by decide +kernel) h
    (by rw [hpr]; exact hsend _ (by decide))
    (by rw [hdesc]; exact hsend _ (by decide))
  rw [hpr] at hpriority
  injection hpriority with hpriority
  subst hpriority
  exact absurd hp (by decide)

end HotelAgent
