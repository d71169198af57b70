/-
  HotelAgent.Api.Conversations — what the language model is shown of a conversation.

  What a guest says travels through three places: the request, the agent's own
  transcription and the stored transcript, from which the next turn builds the
  history again.  For audio the view stores `[audio input]`; the transcription
  stays in the agent.

  Main result, `history_is_exchange_iff`: after successful turns, the history
  that the model is sent is the last ten messages that were exchanged, if and
  only if each of the last five turns gave text (or was heard to say just that).
-/
import HotelAgent.Api.SpokenRequests
import HotelAgent.Api.Transcripts

namespace HotelAgent

open Lib

variable {py : Python}

/-! ## §1. Turns that succeed. -/

/-- A turn: who sends what, and what OpenAI does. -/
structure SpokenTurn where
  caller : Caller
  req : TurnRequest
  generateAudio : Bool
  api : OpenAI
  fresh : SessionFresh

/-- The turn on the session `pk`. -/
def SpokenTurn.take (py : Python) (pk : Uuid) (w : World) (t : SpokenTurn) : World × SessionAnswer :=
  speakTurn py w t.caller pk t.req t.api t.generateAudio t.fresh

/-- The world after some turns, handled one at a time. -/
def converse (py : Python) (pk : Uuid) (w : World) (ts : List SpokenTurn) : World :=
  run (fun w t => (t.take py pk w).1) w ts

/-- The turn is answered with 200. -/
def Succeeds (py : Python) (pk : Uuid) (w : World) (t : SpokenTurn) : Prop :=
  (t.take py pk w).2.status = 200

instance (pk : Uuid) (w : World) (t : SpokenTurn) : Decidable (Succeeds py pk w t) :=
  inferInstanceAs (Decidable (_ = _))

/-- The text that the model is given for the turn: typed, or transcribed. -/
def SpokenTurn.heard (t : SpokenTurn) : Option Text :=
  heardText t.api t.req.audio (t.req.text.bind validText)

def assistantMessage (text : Text) : ChatMessage := { role := txt "assistant", content := text }

/-- What is exchanged in a turn: the text that the model is given and the text that is
returned. -/
def exchange (py : Python) (pk : Uuid) (w : World) (t : SpokenTurn) : List ChatMessage :=
  match t.heard, (t.take py pk w).2 with
  | some heard, .turn text _ => [userMessage heard, assistantMessage text]
  | _, _ => []

/-- What is exchanged in some turns. -/
def exchanged (py : Python) (pk : Uuid) : World → List SpokenTurn → List ChatMessage
  | _, [] => []
  | w, t :: ts => exchange py pk w t ++ exchanged py pk (t.take py pk w).1 ts

/-- What `generate_response` sends for a turn that has loaded `s` and is about `text`. -/
def sentMessages (py : Python) (db : Db) (s : VoiceSession) (text : Text) : List ChatMessage :=
  chatMessages py text (historyOf s.transcript) (buildGuestContext db s)

/-- The turn gives text, or its audio says what the view stores for any audio. -/
def SpokenTurn.Recorded (t : SpokenTurn) : Prop :=
  t.req.text.isSome = true ∨ t.heard = some (txt "[audio input]")

instance (t : SpokenTurn) : Decidable t.Recorded := inferInstanceAs (Decidable (_ ∨ _))

/-- The last five turns. -/
def lastFive (ts : List SpokenTurn) : List SpokenTurn := ts.drop (ts.length - 5)

/-! ## §2. One turn. -/

theorem validText_ne_nil {text valid : Text} (h : validText text = some valid) : valid ≠ [] := by
  simp only [validText] at h
  split at h
  · exact absurd h (by simp)
  next hnot =>
    injection h with h
    rw [← h]
    exact fun hnil => hnot (.inl hnil)

/-- What the transcript will say is what the request says. -/
theorem content_of_readTurn {db : Db} {caller : Caller} {pk : Uuid} {req : TurnRequest}
    {user : User} {s : VoiceSession} {content : Text}
    (h : readTurn db caller pk req = .ok (user, s, content)) :
    content = userContent (req.text.bind validText)
      ∧ (req.text.isSome = true → (req.text.bind validText).isSome = true) := by
  unfold readTurn at h
  split at h
  · exact absurd h (by simp)
  · split at h
    · exact absurd h (by simp)
    · split at h
      next hnone =>
        split at h
        · exact absurd h (by simp)
        · injection h with h
          injection h with _ h
          injection h with _ h
          rw [hnone]
          exact ⟨h.symm, fun hsome => absurd hsome (by simp)⟩
      next text hsome =>
        split at h
        · exact absurd h (by simp)
        next valid hvalid =>
          injection h with h
          injection h with _ h
          injection h with _ h
          rw [hsome, Option.bind_some, hvalid]
          exact ⟨h.symm, fun _ => rfl⟩

/-- Typed text is what the model is given. -/
theorem heard_of_text {t : SpokenTurn} {valid : Text}
    (h : t.req.text.bind validText = some valid) : t.heard = some valid := by
  obtain ⟨text, _, hvalid⟩ := Option.bind_eq_some_iff.mp h
  have hne := validText_ne_nil hvalid
  rw [SpokenTurn.heard, h, heardText]
  simp [Option.filter, hne]

/-- The agent replies only to what it has heard. -/
theorem heard_of_replies {t : SpokenTurn} {r : VoiceAgentResponse py}
    (h : processVoiceTurn py t.api t.req.audio (t.req.text.bind validText) t.generateAudio
      = .replies r) : ∃ heard, t.heard = some heard := by
  obtain ⟨heard, _, _, hheard, _⟩ := processVoiceTurn_replies h
  exact ⟨heard, hheard⟩

/-- After the save, a turn is answered with its text or fails. -/
theorem answer_of_finishTurn (w : World) (user : User) (s : VoiceSession)
    (r : VoiceAgentResponse py) (fresh : SessionFresh) :
    (∃ created, (finishTurn w user s r fresh).2 = .turn r.text created)
      ∨ (finishTurn w user s r fresh).2 = .serverError := by
  unfold finishTurn
  split
  · exact .inl ⟨none, rfl⟩
  · split
    · exact .inr rfl
    next w' row _ => exact .inl ⟨some row, rfl⟩

/-- A successful turn has loaded the session, got a reply and saved it. -/
theorem stages_of_succeeds {pk : Uuid} {w : World} {t : SpokenTurn} (h : Succeeds py pk w t) :
    ∃ user s content, ∃ r : VoiceAgentResponse py, ∃ db,
      readTurn w.db t.caller pk t.req = .ok (user, s, content)
        ∧ processVoiceTurn py t.api t.req.audio (t.req.text.bind validText) t.generateAudio
            = .replies r
        ∧ saveTurn w.db s content r t.fresh.nowTs = some db
        ∧ t.take py pk w = finishTurn { w with db := db } user s r t.fresh := by
  unfold Succeeds SpokenTurn.take speakTurn processTurn at h
  unfold SpokenTurn.take speakTurn processTurn
  cases hread : readTurn w.db t.caller pk t.req with
  | error answer =>
      rw [hread] at h
      change answer.status = 200 at h
      have := readTurn_error hread
      omega
  | ok loaded =>
      obtain ⟨user, s, content⟩ := loaded
      rw [hread] at h
      cases hagent : processVoiceTurn py t.api t.req.audio (t.req.text.bind validText)
          t.generateAudio with
      | raises =>
          rw [hagent] at h
          simp only at h
          split at h <;> exact absurd h (by simp [SessionAnswer.status])
      | replies r =>
          rw [hagent] at h
          simp only at h
          cases hsave : saveTurn w.db s content r t.fresh.nowTs with
          | none =>
              rw [hsave] at h
              exact absurd h (by simp [SessionAnswer.status])
          | some db => exact ⟨user, s, content, r, db, rfl, rfl, hsave, by simp only [hsave]⟩

/-- **A successful turn** appends its pair to the transcript: what the request says, and the
text that is returned. -/
theorem transcript_of_succeeds {pk : Uuid} {w : World} {t : SpokenTurn}
    (h : Succeeds py pk w t) {transcript : List Message}
    (hstored : storedTranscript pk w.db = some transcript) :
    ∃ heard reply, t.heard = some heard
      ∧ exchange py pk w t = [userMessage heard, assistantMessage reply]
      ∧ storedTranscript pk (t.take py pk w).1.db
          = some (transcript ++ turnMessages (userContent (t.req.text.bind validText)) reply
              t.fresh.nowTs)
      ∧ (userContent (t.req.text.bind validText) = heard ↔ t.Recorded) := by
  obtain ⟨user, s, content, r, db, hread, hagent, hsave, htake⟩ := stages_of_succeeds h
  obtain ⟨heard, hheard⟩ := heard_of_replies hagent
  obtain ⟨hcontent, hvalid⟩ := content_of_readTurn hread
  refine ⟨heard, r.text, hheard, ?_, ?_, ?_⟩
  · -- the answer is the turn's text, since it is no failure
    rcases answer_of_finishTurn { w with db := db } user s r t.fresh with ⟨created, hturn⟩ | hfail
    · rw [exchange, hheard, htake, hturn]
    · rw [Succeeds, htake, hfail] at h
      exact absurd h (by decide)
  · have hrow := (readTurn_ok hread).1
    rw [storedTranscript, hrow, Option.map_some] at hstored
    injection hstored with hstored
    have hid : s.id = pk := Table.key_of_find? hrow
    rw [saveTurn, hid] at hsave
    obtain ⟨row, _, _, hafter, _⟩ := Db.saveSession_eq_some hsave
    rw [htake, storedTranscript_eq, sessionColumns_finishTurn, ← storedTranscript_eq,
      storedTranscript, hafter, Option.map_some, ← hstored, ← hcontent]
    rfl
  · unfold SpokenTurn.Recorded
    cases hbind : t.req.text.bind validText with
    | some valid =>
        have hsame : t.heard = some valid := heard_of_text hbind
        rw [hheard] at hsame
        injection hsame with hsame
        obtain ⟨text, htext, _⟩ := Option.bind_eq_some_iff.mp hbind
        rw [hsame, htext]
        exact iff_of_true rfl (.inl rfl)
    | none =>
        have hnone : t.req.text.isSome = false := by
          rw [← Bool.not_eq_true]
          intro hsome
          exact absurd (hvalid hsome) (by rw [hbind]; simp)
        rw [hnone, hheard]
        simp [userContent, eq_comm]

/-! ## §3. The last five turns. -/

section
variable {α β : Type}

theorem length_flatMap_two {f : α → List β} (hf : ∀ a, (f a).length = 2) (l : List α) :
    (l.flatMap f).length = 2 * l.length := by
  induction l with
  | nil => rfl
  | cons a l ih =>
      rw [List.flatMap_cons, List.length_append, hf, ih, List.length_cons]
      omega

theorem drop_flatMap_two {f : α → List β} (hf : ∀ a, (f a).length = 2) (n : Nat) (l : List α) :
    (l.flatMap f).drop (2 * n) = (l.drop n).flatMap f := by
  induction l generalizing n with
  | nil => simp
  | cons a l ih =>
      cases n with
      | zero => rfl
      | succ n =>
          have hn : 2 * (n + 1) = (f a).length + 2 * n := by
            rw [hf]
            omega
          rw [List.flatMap_cons, hn, List.drop_append, List.drop_succ_cons]
          simp [ih]

/-- **The last ten messages are those of the last five pairs.** -/
theorem lastTen_flatMap_two {f : α → List β} (hf : ∀ a, (f a).length = 2) (l : List α) :
    lastTen (l.flatMap f) = (l.drop (l.length - 5)).flatMap f := by
  have hcut : (l.flatMap f).length - 10 = 2 * (l.length - 5) := by
    rw [length_flatMap_two hf]
    omega
  rw [lastTen, hcut, drop_flatMap_two hf]

theorem flatMap_two_eq_iff {f g : α → List β} (hf : ∀ a, (f a).length = 2)
    (hg : ∀ a, (g a).length = 2) (l : List α) :
    l.flatMap f = l.flatMap g ↔ ∀ a ∈ l, f a = g a := by
  induction l with
  | nil => simp
  | cons a l ih =>
      rw [List.flatMap_cons, List.flatMap_cons, List.forall_mem_cons, ← ih]
      exact ⟨fun h => List.append_inj h ((hf a).trans (hg a).symm), fun h => by rw [h.1, h.2]⟩

end

/-! ## §4. Conversations. -/

/-- A turn with the text that the model was given and the text that was returned. -/
structure HeardTurn where
  turn : SpokenTurn
  heard : Text
  reply : Text

/-- What was said. -/
def HeardTurn.said (e : HeardTurn) : List ChatMessage := [userMessage e.heard, assistantMessage e.reply]

/-- What the transcript says. -/
def HeardTurn.messages (e : HeardTurn) : List Message :=
  turnMessages (userContent (e.turn.req.text.bind validText)) e.reply e.turn.fresh.nowTs

/-- What the history makes of it. -/
def HeardTurn.remembered (e : HeardTurn) : List ChatMessage :=
  e.messages.map fun m => { role := m.role, content := m.content }

theorem HeardTurn.remembered_eq (e : HeardTurn) :
    e.remembered = [userMessage (userContent (e.turn.req.text.bind validText)),
      assistantMessage e.reply] :=
  rfl

/-- **A conversation of successful turns** leaves one pair for each in the transcript. -/
theorem exchanges_of_succeeds {pk : Uuid} {ts : List SpokenTurn} {w : World}
    (hok : AllSteps (fun w t => (t.take py pk w).1) (Succeeds py pk) w ts)
    {transcript : List Message} (hstored : storedTranscript pk w.db = some transcript) :
    ∃ es : List HeardTurn, es.map HeardTurn.turn = ts
      ∧ (∀ e ∈ es, e.remembered = e.said ↔ e.turn.Recorded)
      ∧ exchanged py pk w ts = es.flatMap HeardTurn.said
      ∧ storedTranscript pk (converse py pk w ts).db
          = some (transcript ++ es.flatMap HeardTurn.messages) := by
  induction ts generalizing w transcript with
  | nil => exact ⟨[], rfl, by simp, rfl, by simpa [converse] using hstored⟩
  | cons t ts ih =>
      obtain ⟨heard, reply, _, hsaid, hafter, hrecorded⟩ := transcript_of_succeeds hok.1 hstored
      obtain ⟨es, hturns, hall, hexchanged, hlast⟩ := ih hok.2 hafter
      refine ⟨⟨t, heard, reply⟩ :: es, by rw [List.map_cons, hturns], ?_, ?_, ?_⟩
      · intro e he
        rcases List.mem_cons.mp he with rfl | he
        · rw [← hrecorded, HeardTurn.remembered_eq, HeardTurn.said]
          simp [userMessage]
        · exact hall e he
      · rw [exchanged, hsaid, hexchanged]
        rfl
      · rw [List.flatMap_cons, ← List.append_assoc]
        exact hlast

/-- **The model sees the real conversation, exactly.**  After successful turns of a session that
began with an empty transcript, the history that the model is sent at the next turn, which loads
the row as it is now, is the last ten messages exchanged, if and only if each of the last five
turns is recorded as it was. -/
theorem history_is_exchange_iff {pk : Uuid} {w : World} {ts : List SpokenTurn}
    (hstart : storedTranscript pk w.db = some [])
    (hok : AllSteps (fun w t => (t.take py pk w).1) (Succeeds py pk) w ts)
    {s : VoiceSession} (hnext : (converse py pk w ts).db.voiceSessions.find? pk = some s)
    (text : Text) :
    sentMessages py (converse py pk w ts).db s text
        = systemMessage py (buildGuestContext (converse py pk w ts).db s)
          :: lastTen (exchanged py pk w ts) ++ [userMessage text]
      ↔ ∀ t ∈ lastFive ts, t.Recorded := by
  obtain ⟨es, rfl, hrecorded, hexchanged, hstored⟩ := exchanges_of_succeeds hok hstart
  rw [storedTranscript, hnext, Option.map_some] at hstored
  injection hstored with hstored
  have htranscript : s.transcript = es.flatMap HeardTurn.messages := hstored
  have htwo : ∀ e : HeardTurn, e.messages.length = 2 := fun _ => rfl
  have hhistory : historyOf s.transcript = (es.drop (es.length - 5)).flatMap HeardTurn.remembered := by
    rw [historyOf, htranscript, lastTen_flatMap_two htwo, List.map_flatMap]
    rfl
  rw [sentMessages, chatMessages, lastTen_historyOf, hhistory, hexchanged,
    lastTen_flatMap_two (f := HeardTurn.said) (fun _ => rfl)]
  rw [List.cons_append, List.cons_append, List.cons.injEq, List.append_left_inj,
    and_iff_right rfl, flatMap_two_eq_iff (fun _ => rfl) (fun _ => rfl)]
  -- the last five turns are those of the last five exchanges
  have hlast : lastFive (es.map HeardTurn.turn) = (es.drop (es.length - 5)).map HeardTurn.turn := by
    rw [lastFive, List.length_map, List.map_drop]
  rw [hlast, List.forall_mem_map]
  exact forall₂_congr fun e he => hrecorded e (List.mem_of_mem_drop he)

/-! ### A guest who speaks -/

/-- A turn that is typed. -/
def typedTurn (text reply : String) (n : Nat) : SpokenTurn where
  caller := .token 1
  req := { text := some (txt text), audio := none }
  generateAudio := false
  api :=
    { transcription := none
      completion := some ⟨some (txt reply), some 5⟩
      speech := none }
  fresh := demoSessionFresh n

/-- A turn that is spoken. -/
def audioTurn (heard reply : String) (n : Nat) : SpokenTurn where
  caller := .token 1
  req := { text := none, audio := some [1, 2, 3] }
  generateAudio := false
  api :=
    { transcription := some (txt heard)
      completion := some ⟨some (txt reply), some 5⟩
      speech := none }
  fresh := demoSessionFresh n

def typedTurns : List SpokenTurn := [typedTurn "hi" "hello" 9, typedTurn "tea" "soon" 10]

/-- The session after two typed turns. -/
def typedSession : VoiceSession :=
  ((converse plainPython 5 demoCall typedTurns).db.voiceSessions.find? 5).getD demoSession

/-- After two typed turns the model sees what was said. -/
theorem history_is_exchange_iff_typed :
    sentMessages plainPython (converse plainPython 5 demoCall typedTurns).db typedSession (txt "bye")
        = systemMessage plainPython
            (buildGuestContext (converse plainPython 5 demoCall typedTurns).db typedSession)
          :: lastTen (exchanged plainPython 5 demoCall typedTurns) ++ [userMessage (txt "bye")]
      ↔ ∀ t ∈ lastFive typedTurns, t.Recorded :=
  history_is_exchange_iff (by decide +kernel) (by decide +kernel) (by decide +kernel) _

def spokenTurns : List SpokenTurn := [audioTurn "two towels" "soon" 9]

/-- The session after a spoken turn. -/
def spokenSession : VoiceSession :=
  ((converse plainPython 5 demoCall spokenTurns).db.voiceSessions.find? 5).getD demoSession

/-- The model is told `[audio input]` for what it has heard itself. -/
theorem model_forgets_what_it_heard :
    ¬ ∀ (py : Python) (pk : Uuid) (w : World) (ts : List SpokenTurn),
      storedTranscript pk w.db = some [] →
      AllSteps (fun w t => (t.take py pk w).1) (Succeeds py pk) w ts →
      ∀ s : VoiceSession, (converse py pk w ts).db.voiceSessions.find? pk = some s → ∀ text,
        sentMessages py (converse py pk w ts).db s text
          = systemMessage py (buildGuestContext (converse py pk w ts).db s)
            :: lastTen (exchanged py pk w ts) ++ [userMessage text] := by
  intro h
  have hsame := h plainPython 5 demoCall spokenTurns (by decide +kernel) (by decide +kernel)
    spokenSession (by decide +kernel) (txt "bye")
  rw [sentMessages, chatMessages, List.cons_append, List.cons_append] at hsame
  injection hsame with _ htail
  exact absurd htail (by decide +kernel)

end HotelAgent
