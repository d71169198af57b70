/-
  HotelAgent.Services.VoiceAgent — one turn of the voice agent.

  Whisper, GPT-4o and the speech synthesis are calls to OpenAI; `OpenAI` holds
  what they return during one turn.  Around them the service

      takes the text, or what Whisper heard
      looks for `<service_request>…</service_request>` in the reply
      cuts such blocks out of what is spoken

  The first block is read as JSON.  An exception that `_extract_service_request`
  does not expect ends the turn.
-/
import HotelAgent.Api.VoiceSessions
import HotelAgent.Lib.Json.Loaded

namespace HotelAgent

open Lib

/-! ## §1. Blocks in a reply. -/

/-- `VALID_SERVICE_TYPES`. -/
def validServiceTypes : List Text :=
  [txt "room_service", txt "housekeeping", txt "maintenance", txt "concierge",
    txt "wake_up_call", txt "transport", txt "spa", txt "dining", txt "laundry", txt "other"]

def blockOpen : Text := txt "<service_request>"

def blockClose : Text := txt "</service_request>"

/-- `re.search(r"<service_request>(.*?)</service_request>", text, re.DOTALL)`: what
stands between the first opening tag and the closing tag that is next to it. -/
def firstBlock (text : Text) : Option Text :=
  match splitOnce blockOpen text with
  | none => none
  | some (_, rest) => (splitOnce blockClose rest).map (·.1)

/-- `re.sub(pattern, "", text)`, for at most `n` blocks. -/
def removeBlocks : Nat → Text → Text
  | 0, text => text
  | n + 1, text =>
    match splitOnce blockOpen text with
    | none => text
    | some (before, rest) =>
      match splitOnce blockClose rest with
      | none => text
      | some (_, after) => before ++ removeBlocks n after

/-- There are fewer blocks than characters, so the bound on their number cuts nothing
off. -/
theorem removeBlocks_of_length_le : ∀ {n m : Nat} {text : Text}, text.length ≤ n →
    text.length ≤ m → removeBlocks n text = removeBlocks m text
  | 0, 0, _, _, _ => rfl
  | 0, m + 1, text, hn, _ => by
      rw [List.length_eq_zero_iff.mp (Nat.le_zero.mp hn)]
      rfl
  | n + 1, 0, text, _, hm => by
      rw [List.length_eq_zero_iff.mp (Nat.le_zero.mp hm)]
      rfl
  | n + 1, m + 1, text, hn, hm => by
      unfold removeBlocks
      cases hopen : splitOnce blockOpen text with
      | none => rfl
      | some p =>
          obtain ⟨before, rest⟩ := p
          simp only
          cases hclose : splitOnce blockClose rest with
          | none => rfl
          | some q =>
              obtain ⟨block, after⟩ := q
              have hlength : after.length < text.length := by
                have htags : 0 < blockOpen.length := by decide
                rw [splitOnce_eq_some hopen, splitOnce_eq_some hclose]
                simp only [List.length_append]
                omega
              simp only
              rw [removeBlocks_of_length_le (m := m) (by omega) (by omega)]

/-- `_clean_for_tts`. -/
def cleanForTts (text : Text) : Text := strip (removeBlocks text.length text)

/-! ## §2. The service request. -/

/-- How `_extract_service_request` ends. -/
inductive Extraction (py : Python) where
  | nothing
  | found (dict : PyDict py)
  /-- A TypeError, an AttributeError, a RecursionError, or the ValueError of an integer
  that is too long. -/
  | raises

/-- The `try` of `_extract_service_request`, on the stripped group. -/
def parseRequest (py : Python) (raw : Text) : Extraction py :=
  match h : loads py raw with
  | .error .decodeError => .nothing
  | .error .intTooLong => .raises
  | .error .recursion => .raises
  | .ok (.obj fields) =>
    let other : PyDict py :=
      { fields := dictSet fields (txt "service_type") (.str (txt "other"))
        floatsOk := floatsOkFields_dictSet (floatsOk_loads h) trivial }
    match dictGet fields (txt "service_type") .null with
    | .str serviceType =>
      if serviceType ∈ validServiceTypes then .found ⟨fields, floatsOk_loads h⟩ else .found other
    -- lists and dictionaries cannot be looked up in a set
    | .arr _ => .raises
    | .obj _ => .raises
    | _ => .found other
  -- only a dictionary has a `get`
  | .ok _ => .raises

/-- `_extract_service_request`. -/
def extractServiceRequest (py : Python) (text : Text) : Extraction py :=
  match firstBlock text with
  | none => .nothing
  | some block => parseRequest py (strip block)

theorem extractServiceRequest_of_block {py : Python} {text block : Text}
    (h : firstBlock text = some block) :
    extractServiceRequest py text = parseRequest py (strip block) := by
  unfold extractServiceRequest
  rw [h]

/-! ## §3. A turn. -/

/-- `client.chat.completions.create`, as far as it is read. -/
structure Completion where
  content : Option Text
  totalTokens : Option Nat

/-- What the three calls return during a turn; `none` is an exception. -/
structure OpenAI where
  transcription : Option Text
  completion : Option Completion
  speech : Option (List UInt8)

/-- The text of the turn; `none` is an exception. -/
def heardText (api : OpenAI) (audio : Option (List UInt8)) (text : Option Text) : Option Text :=
  let heard :=
    match text.filter (· ≠ []), audio.filter (· ≠ []) with
    | some text, _ => some text
    | none, some _ => api.transcription.map strip
    | none, none => none
  heard.filter (· ≠ [])

/-- `generate_response`, without the speech. -/
def generateResponse (py : Python) (completion : Completion) : Option (VoiceAgentResponse py) :=
  let responseText := completion.content.getD []
  let reply := fun dict : Option (PyDict py) =>
    { text := cleanForTts responseText
      audioData := none
      serviceRequest := dict
      tokensUsed := completion.totalTokens.getD 0
      ttsChars := 0 }
  match extractServiceRequest py responseText with
  | .nothing => some (reply none)
  | .found dict => some (reply (some dict))
  | .raises => none

/-- The `input` of the call in `synthesize_speech`: the limit of the speech model. -/
def speechInput (text : Text) : Text := text.take 4096

/-- The texts that `process_voice_turn` passes to the speech API. -/
def speechInputs (py : Python) (api : OpenAI) (audio : Option (List UInt8)) (text : Option Text)
    (generateAudio : Bool) : List Text :=
  match heardText api audio text, api.completion with
  | some _, some completion =>
    match generateResponse py completion with
    | none => []
    | some response =>
      if generateAudio = true ∧ response.text ≠ [] then [speechInput response.text] else []
  | _, _ => []

/-- `process_voice_turn`. -/
def processVoiceTurn (py : Python) (api : OpenAI) (audio : Option (List UInt8))
    (text : Option Text) (generateAudio : Bool) : AgentOutcome py :=
  match heardText api audio text, api.completion with
  | some _, some completion =>
    match generateResponse py completion with
    | none => .raises
    | some response =>
      if generateAudio = true ∧ response.text ≠ [] then
        match api.speech with
        | none => .raises
        | some audioData => .replies
            { response with audioData := some audioData, ttsChars := response.text.length }
      else .replies response
  | _, _ => .raises

/-- **Where a reply comes from**: something was heard, the model answered, and the reply is the
response to it, with the speech where there is something to say. -/
theorem processVoiceTurn_eq_replies {py : Python} {api : OpenAI} {audio : Option (List UInt8)}
    {text : Option Text} {generateAudio : Bool} {r : VoiceAgentResponse py}
    (h : processVoiceTurn py api audio text generateAudio = .replies r) :
    ∃ heard completion response, heardText api audio text = some heard
      ∧ api.completion = some completion ∧ generateResponse py completion = some response
      ∧ (generateAudio = true ∧ response.text ≠ []
            ∧ r = { response with audioData := api.speech, ttsChars := response.text.length }
          ∨ ¬ (generateAudio = true ∧ response.text ≠ []) ∧ r = response) := by
  unfold processVoiceTurn at h
  split at h
  next heard completion hheard hcompletion =>
    split at h
    · exact absurd h (by simp)
    next response hresponse =>
      refine ⟨heard, completion, response, hheard, hcompletion, hresponse, ?_⟩
      split at h
      next haudio =>
        split at h
        · exact absurd h (by simp)
        next audioData hspeech =>
          injection h with h
          rw [hspeech]
          exact .inl ⟨haudio.1, haudio.2, h.symm⟩
      next haudio =>
        injection h with h
        exact .inr ⟨haudio, h.symm⟩
  · exact absurd h (by simp)

/-- The speech changes neither the text nor the service request of the response. -/
theorem processVoiceTurn_replies {py : Python} {api : OpenAI} {audio : Option (List UInt8)}
    {text : Option Text} {generateAudio : Bool} {r : VoiceAgentResponse py}
    (h : processVoiceTurn py api audio text generateAudio = .replies r) :
    ∃ heard completion response, heardText api audio text = some heard
      ∧ api.completion = some completion ∧ generateResponse py completion = some response
      ∧ r.text = response.text ∧ r.serviceRequest = response.serviceRequest
      ∧ r.tokensUsed = response.tokensUsed := by
  obtain ⟨heard, completion, response, hheard, hcompletion, hresponse, ⟨_, _, rfl⟩ | ⟨_, rfl⟩⟩ :=
    processVoiceTurn_eq_replies h
  · exact ⟨heard, completion, response, hheard, hcompletion, hresponse, rfl, rfl, rfl⟩
  · exact ⟨heard, completion, r, hheard, hcompletion, hresponse, rfl, rfl, rfl⟩

/-- The text of a response is the cleaned reply. -/
theorem text_of_generateResponse {py : Python} {completion : Completion}
    {response : VoiceAgentResponse py} (h : generateResponse py completion = some response) :
    response.text = cleanForTts (completion.content.getD []) := by
  unfold generateResponse at h
  simp only at h
  split at h
  · injection h with h
    rw [← h]
  · injection h with h
    rw [← h]
  · exact absurd h (by simp)

/-- A response counts the tokens of its completion, and no characters yet. -/
theorem counts_of_generateResponse {py : Python} {completion : Completion}
    {response : VoiceAgentResponse py} (h : generateResponse py completion = some response) :
    response.ttsChars = 0 ∧ response.tokensUsed = completion.totalTokens.getD 0 := by
  unfold generateResponse at h
  simp only at h
  split at h
  · injection h with h
    rw [← h]
    exact ⟨rfl, rfl⟩
  · injection h with h
    rw [← h]
    exact ⟨rfl, rfl⟩
  · exact absurd h (by simp)

end HotelAgent
