/-
  HotelAgent.Api.Transcripts — a transcript is a sequence of user/assistant pairs.

  Turns append two messages to the copy they have loaded and save the whole
  transcript, so a turn may overwrite another; ends and clean-ups do not touch
  it.  Three parts of the code count on its shape: `get_turn_count`,
  `process_session_analytics` and `generate_response`.

  Main result, `transcript_alternates`: however turns, ends and clean-ups of a
  session interleave, its transcript is made of pairs, the two counts are half
  its length, and what the language model is sent alternates.
-/
import HotelAgent.Api.SessionRaces
import HotelAgent.Services.Conversation
import HotelAgent.Lib.Cache

namespace HotelAgent

open Lib

variable {py : Python}

/-! ## §1. Pairs. -/

/-- User and assistant in turn, with one timestamp for both. -/
def Paired : List Message → Prop
  | [] => True
  | [_] => False
  | u :: a :: rest =>
      u.role = txt "user" ∧ a.role = txt "assistant" ∧ u.timestamp = a.timestamp ∧ Paired rest

/-- The roles are `first` and `second` in turn, from `first` on. -/
def AlternatesFrom (first second : Text) : List ChatMessage → Prop
  | [] => True
  | m :: rest => m.role = first ∧ AlternatesFrom second first rest

theorem paired_append : ∀ {l l' : List Message}, Paired l → Paired l' → Paired (l ++ l')
  | [], _, _, h' => h'
  | [_], _, h, _ => h.elim
  | _ :: _ :: _, _, ⟨hu, ha, hts, h⟩, h' => ⟨hu, ha, hts, paired_append h h'⟩

theorem paired_turnMessages (content reply nowTs : Text) :
    Paired (turnMessages content reply nowTs) :=
  ⟨rfl, rfl, rfl, trivial⟩

/-- Cut between two pairs, the rest is pairs. -/
theorem paired_drop : ∀ (n : Nat) {l : List Message}, Paired l → Paired (l.drop (2 * n))
  | 0, _, h => h
  | _ + 1, [], _ => trivial
  | _ + 1, [_], h => h.elim
  | n + 1, _ :: _ :: _, h => paired_drop n h.2.2.2

theorem length_of_paired : ∀ {l : List Message}, Paired l → ∃ n, l.length = 2 * n
  | [], _ => ⟨0, rfl⟩
  | [_], h => h.elim
  | _ :: _ :: rest, h => by
      obtain ⟨n, hn⟩ := length_of_paired h.2.2.2
      refine ⟨n + 1, ?_⟩
      show rest.length + 2 = 2 * (n + 1)
      omega

/-- Half of the messages are the user's. -/
theorem users_of_paired : ∀ {l : List Message}, Paired l →
    2 * (l.filter fun m => m.role = txt "user").length = l.length
  | [], _ => rfl
  | [_], h => h.elim
  | u :: a :: rest, ⟨hu, ha, _, h⟩ => by
      have ih := users_of_paired h
      have hother : ¬ a.role = txt "user" := by
        rw [ha]
        decide
      rw [List.filter_cons_of_pos (by simpa using hu), List.filter_cons_of_neg (by simpa using hother)]
      show 2 * ((rest.filter _).length + 1) = rest.length + 2
      omega

/-! ## §2. The last ten. -/

theorem lastTen_of_length_le {α : Type} {l : List α} (h : l.length ≤ 10) : lastTen l = l := by
  rw [lastTen, Nat.sub_eq_zero_of_le h, List.drop_zero]

theorem length_lastTen_le {α : Type} (l : List α) : (lastTen l).length ≤ 10 := by
  rw [lastTen, List.length_drop]
  omega

/-- **The slice cuts at a pair.** -/
theorem paired_lastTen {l : List Message} (h : Paired l) : Paired (lastTen l) := by
  obtain ⟨n, hn⟩ := length_of_paired h
  have hcut : l.length - 10 = 2 * (n - 5) := by omega
  rw [lastTen, hcut]
  exact paired_drop (n - 5) h

/-- The view's slice leaves nothing to the agent's. -/
theorem lastTen_historyOf (transcript : List Message) :
    lastTen (historyOf transcript) = historyOf transcript := by
  refine lastTen_of_length_le ?_
  rw [historyOf, List.length_map]
  exact length_lastTen_le transcript

/-- Pairs and one more message of the user alternate. -/
theorem alternatesFrom_of_paired (text : Text) : ∀ {l : List Message}, Paired l →
    AlternatesFrom (txt "user") (txt "assistant")
      ((l.map fun m => { role := m.role, content := m.content }) ++ [userMessage text])
  | [], _ => ⟨rfl, trivial⟩
  | [_], h => h.elim
  | _ :: _ :: _, ⟨hu, ha, _, h⟩ => ⟨hu, ha, alternatesFrom_of_paired text h⟩

/-! ## §3. The analytics task. -/

/-- `f"session_analytics:{session_id}"`. -/
def analyticsKey (sessionId : Uuid) : Text := txt "session_analytics:" ++ sessionId.str

/-- The turns that `process_session_analytics` counts. -/
def analyticsTurns (s : VoiceSession) : Nat :=
  (s.transcript.filter fun m => m.role = txt "user").length

/-- What it stores. -/
def sessionAnalytics (s : VoiceSession) : Json :=
  .obj [(txt "turns", .int (analyticsTurns s)), (txt "tokens", .int s.tokensUsed),
    (txt "duration", .int s.durationSeconds), (txt "tts_chars", .int s.ttsCharacters)]

/-- `process_session_analytics`; `none` is the retry of a session that is not there. -/
def processSessionAnalytics (db : Db) (cache : Cache Text Json Instant) (now : Instant)
    (sessionId : Uuid) : Option (Cache Text Json Instant) :=
  (db.voiceSessions.find? sessionId).map fun s =>
    cache.set (analyticsKey sessionId) (sessionAnalytics s) (now + 86400 * second)

/-- The number of turns that a cache shows for a session. -/
def cachedTurns (cache : Cache Text Json Instant) (now : Instant) (sessionId : Uuid) :
    Option Json :=
  match cache.get now (analyticsKey sessionId) with
  | some (.obj fields) => dictGet? fields (txt "turns")
  | _ => none

theorem cachedTurns_of_analytics {db : Db} {cache cache' : Cache Text Json Instant}
    {now : Instant} {sessionId : Uuid} {s : VoiceSession}
    (hs : db.voiceSessions.find? sessionId = some s)
    (h : processSessionAnalytics db cache now sessionId = some cache') :
    cachedTurns cache' now sessionId = some (.int (analyticsTurns s)) := by
  rw [processSessionAnalytics, hs, Option.map_some] at h
  injection h with h
  have hlive : now < now + 86400 * second := Int.lt_add_of_pos_right now (by decide)
  rw [cachedTurns, ← h, Cache.get_set_self _ _ _ hlive]
  rfl

/-! ## §4. Runs. -/

/-- The transcript of the session `pk`. -/
def storedTranscript (pk : Uuid) (db : Db) : Option (List Message) :=
  (db.voiceSessions.find? pk).map (·.transcript)

/-- The stored transcript and every loaded copy of it are made of pairs. -/
def AllPaired (pk : Uuid) (s : SessionTraffic py) : Prop :=
  (∃ transcript, storedTranscript pk s.world.db = some transcript ∧ Paired transcript)
    ∧ ∀ t ∈ s.turns, Paired t.copy.transcript

/-- A statement that writes other columns keeps the transcript. -/
theorem storedTranscript_updateSessions {pk : Uuid} {db db' : Db} {p : VoiceSession → Bool}
    {w : SessionWrite} (hw : ∀ row, (w.write row).transcript = row.transcript)
    (h : db.updateSessions p w = some db') : storedTranscript pk db' = storedTranscript pk db := by
  obtain ⟨_, hsessions, _⟩ := Db.updateSessions_eq_some h
  unfold storedTranscript
  rw [hsessions, Table.find?_updateWhere, Option.map_map]
  congr 1
  funext row
  simp only [Function.comp_apply]
  split
  · exact hw row
  · rfl

theorem storedTranscript_saveSession {pk id : Uuid} {db : Db} {w : SessionWrite}
    (hw : ∀ row, (w.write row).transcript = row.transcript) :
    storedTranscript pk ((db.saveSession id w).getD db) = storedTranscript pk db := by
  cases h : db.saveSession id w with
  | none => rfl
  | some db' =>
      unfold Db.saveSession at h
      split at h
      · exact storedTranscript_updateSessions hw h
      · exact absurd h (by simp)

/-- The columns of a session include its transcript. -/
theorem storedTranscript_eq (pk : Uuid) (db : Db) :
    storedTranscript pk db = (sessionColumns pk db).map fun c => c.2.transcript := by
  unfold storedTranscript sessionColumns
  rw [Option.map_map]
  rfl

section
variable {pk : Uuid} {s : SessionTraffic py}

/-- Where the transcript and the copies are kept, so are the pairs. -/
theorem AllPaired.of_same {s' : SessionTraffic py} (h : AllPaired pk s)
    (hdb : storedTranscript pk s'.world.db = storedTranscript pk s.world.db)
    (hturns : s'.turns ⊆ s.turns) : AllPaired pk s' := by
  obtain ⟨⟨transcript, hstored, hpaired⟩, hcopies⟩ := h
  exact ⟨⟨transcript, hdb.trans hstored, hpaired⟩, fun t ht => hcopies t (hturns ht)⟩

/-- A turn starts on a copy of the stored row. -/
theorem allPaired_beginTurn (h : AllPaired pk s) (caller : Caller) (req : TurnRequest) :
    AllPaired pk (sessionStep pk s (.beginTurn caller req)) := by
  unfold sessionStep
  simp only
  cases hread : readTurn s.world.db caller pk req with
  | error answer => exact h
  | ok t =>
      obtain ⟨user, copy, content⟩ := t
      refine ⟨h.1, fun t ht => ?_⟩
      rcases List.mem_append.mp ht with ht | ht
      · exact h.2 t ht
      · obtain ⟨transcript, hstored, hpaired⟩ := h.1
        rw [storedTranscript, (readTurn_ok hread).1] at hstored
        injection hstored with hstored
        change copy.transcript = transcript at hstored
        rw [List.mem_singleton.mp ht]
        show Paired copy.transcript
        rw [hstored]
        exact hpaired

/-- A reply is saved as one more pair behind those of the copy. -/
theorem allPaired_reply (hids : CopiesOf pk s) (h : AllPaired pk s) (k : Nat)
    (r : VoiceAgentResponse py) (nowTs : Text) :
    AllPaired pk (sessionStep pk s (.reply k r nowTs)) := by
  cases ht : s.turns[k]? with
  | none =>
      rw [sessionStep_reply_none r nowTs ht]
      exact h
  | some t =>
      have hmem := List.mem_of_getElem? ht
      refine ⟨?_, fun t' ht' => h.2 t' ?_⟩
      · rw [db_reply r nowTs ht, saveTurn_eq (hids.1 t hmem)]
        cases hsave : s.world.db.saveSession pk (t.columns r nowTs) with
        | none => exact h.1
        | some db =>
            obtain ⟨row, _, _, hafter, _⟩ := Db.saveSession_eq_some hsave
            refine ⟨t.copy.transcript ++ turnMessages t.content r.text nowTs, ?_,
              paired_append (h.2 t hmem) (paired_turnMessages _ _ _)⟩
            rw [Option.getD_some, storedTranscript, hafter]
            rfl
      · simp only [sessionStep, ht] at ht'
        split at ht' <;> exact List.eraseIdx_subset ht'

/-- **One step keeps the pairs**, also where it overwrites another turn. -/
theorem allPaired_step (hids : CopiesOf pk s) (h : AllPaired pk s) (i : SessionStep py) :
    AllPaired pk (sessionStep pk s i) := by
  cases i with
  | beginTurn caller req => exact allPaired_beginTurn h caller req
  | reply k r nowTs => exact allPaired_reply hids h k r nowTs
  | agentRaises k =>
      cases ht : s.turns[k]? with
      | none =>
          simp only [sessionStep, ht]
          exact h
      | some t =>
          refine h.of_same ?_ ?_
          · rw [db_agentRaises ht]
            exact storedTranscript_saveSession fun row => rfl
          · simp only [sessionStep, ht]
            exact List.eraseIdx_subset
  | finish k fresh =>
      unfold sessionStep
      simp only
      split
      · exact h
      next c hc =>
        refine h.of_same ?_ (List.Subset.refl _)
        rw [storedTranscript_eq, storedTranscript_eq]
        exact congrArg _ (sessionColumns_finishTurn pk s.world c.user c.copy c.reply fresh)
  | beginEnd caller =>
      unfold sessionStep
      simp only
      split
      · exact h
      · exact h
  | saveEnd k fresh =>
      cases hc : s.ends[k]? with
      | none =>
          simp only [sessionStep, hc]
          exact h
      | some copy =>
          refine h.of_same ?_ ?_
          · rw [db_saveEnd fresh hc]
            exact storedTranscript_saveSession fun row => rfl
          · simp only [sessionStep, hc]
            split <;> exact List.Subset.refl _
  | cleanup now =>
      exact h.of_same (storedTranscript_updateSessions (fun row => rfl)
        (cleanupExpiredSessions_eq s.world.db now)) (List.Subset.refl _)

end

/-! ## §5. What counts on the transcript. -/

/-- **The shape of a transcript**: pairs; two counts of half its length; and messages for the
language model that alternate, whatever the guest says next. -/
def WellShaped (py : Python) (pk : Uuid) (db : Db) : Prop :=
  ∃ stored, db.voiceSessions.find? pk = some stored ∧ Paired stored.transcript
    ∧ 2 * stored.turnCount = stored.transcript.length
    ∧ (∀ cache now, ∃ cache', processSessionAnalytics db cache now pk = some cache'
        ∧ ∃ turns : Nat, cachedTurns cache' now pk = some (.int turns)
          ∧ 2 * turns = stored.transcript.length)
    ∧ ∀ text context, ∃ history,
        chatMessages py text (historyOf stored.transcript) context
            = systemMessage py context :: history ++ [userMessage text]
          ∧ history.length ≤ 10
          ∧ AlternatesFrom (txt "user") (txt "assistant") (history ++ [userMessage text])

theorem wellShaped_of_paired {pk : Uuid} {db : Db} {transcript : List Message}
    (hstored : storedTranscript pk db = some transcript) (hpaired : Paired transcript) :
    WellShaped py pk db := by
  obtain ⟨stored, hrow, rfl⟩ := Option.map_eq_some_iff.mp hstored
  refine ⟨stored, hrow, hpaired, users_of_paired hpaired, fun cache now => ?_,
    fun text context => ?_⟩
  · have htask : processSessionAnalytics db cache now pk
        = some (cache.set (analyticsKey pk) (sessionAnalytics stored) (now + 86400 * second)) := by
      rw [processSessionAnalytics, hrow, Option.map_some]
    exact ⟨_, htask, analyticsTurns stored, cachedTurns_of_analytics hrow htask,
      users_of_paired hpaired⟩
  · refine ⟨historyOf stored.transcript, ?_, ?_, ?_⟩
    · rw [chatMessages, lastTen_historyOf]
    · rw [historyOf, List.length_map]
      exact length_lastTen_le stored.transcript
    · exact alternatesFrom_of_paired text (paired_lastTen hpaired)

/-- Creating a session changes nothing or inserts a row with an empty transcript. -/
theorem createSession_cases (py : Python) (w : World) (caller : Caller) (bookingId : Option Uuid)
    (fresh : SessionFresh) :
    (createSession py w caller bookingId fresh).1.db = w.db
      ∨ ∃ row : VoiceSession, row.id = fresh.id ∧ row.transcript = []
          ∧ w.db.insertSession row = some (createSession py w caller bookingId fresh).1.db := by
  unfold createSession
  split
  · exact .inl rfl
  · simp only
    split
    · exact .inl rfl
    · split
      · exact .inl rfl
      next db hins =>
        refine .inr ⟨_, rfl, rfl, hins.trans ?_⟩
        split
        · rfl
        · rfl

/-- A session that the API has created starts with an empty transcript. -/
theorem storedTranscript_createSession {w : World} {caller : Caller} {bookingId : Option Uuid}
    {fresh : SessionFresh} (hnew : ¬ w.db.voiceSessions.Has fresh.id)
    (hcreated : (createSession py w caller bookingId fresh).1.db.voiceSessions.Has fresh.id) :
    storedTranscript fresh.id (createSession py w caller bookingId fresh).1.db = some [] := by
  rcases createSession_cases py w caller bookingId fresh with hsame | ⟨row, hid, hempty, hins⟩
  · rw [hsame] at hcreated
    exact absurd hcreated hnew
  · obtain ⟨_, _, hrows, _⟩ := Db.insertSession_eq_some hins
    generalize (createSession py w caller bookingId fresh).1.db = db at hrows
    have hmem : row ∈ db.voiceSessions := by
      show row ∈ db.voiceSessions.rows
      rw [hrows]
      exact List.mem_append_right _ List.mem_cons_self
    rw [storedTranscript, Table.find?_eq_some_iff.mpr ⟨hmem, hid⟩, Option.map_some, hempty]

/-- **Transcripts always alternate**: at every moment of every interleaving of turns, ends and
clean-ups on a session that the API has created. -/
theorem transcript_alternates {w : World} {caller : Caller} {bookingId : Option Uuid}
    {fresh : SessionFresh} (hnew : ¬ w.db.voiceSessions.Has fresh.id)
    (hcreated : (createSession py w caller bookingId fresh).1.db.voiceSessions.Has fresh.id)
    (is : List (SessionStep py)) :
    AllStates (sessionStep fresh.id) (fun s => WellShaped py fresh.id s.world.db)
      (.quiet (createSession py w caller bookingId fresh).1) is := by
  have hstart : CopiesOf fresh.id (.quiet (createSession py w caller bookingId fresh).1
        : SessionTraffic py)
      ∧ AllPaired fresh.id (.quiet (createSession py w caller bookingId fresh).1
        : SessionTraffic py) := by
    refine ⟨⟨fun t ht => absurd ht (by simp [SessionTraffic.quiet]),
      fun c hc => absurd hc (by simp [SessionTraffic.quiet])⟩,
      ⟨[], storedTranscript_createSession hnew hcreated, trivial⟩,
      fun t ht => absurd ht (by simp [SessionTraffic.quiet])⟩
  have hall := allStates_of_step
    (P := fun s : SessionTraffic py => CopiesOf fresh.id s ∧ AllPaired fresh.id s)
    (fun s i hs => ⟨copiesOf_step fresh.id s i hs.1, allPaired_step hs.1 hs.2 i⟩) hstart is
  refine hall.imp fun s hs => ?_
  obtain ⟨⟨transcript, hstored, hpaired⟩, _⟩ := hs.2
  exact wellShaped_of_paired hstored hpaired

/-- A turn that overwrites another, and one whose agent fails. -/
theorem transcript_alternates_demo :
    AllStates (sessionStep (demoSessionFresh 9).id)
      (fun s => WellShaped plainPython (demoSessionFresh 9).id s.world.db)
      (.quiet (createSession plainPython demoHotel (.token 1) none (demoSessionFresh 9)).1)
      [demoTurn "hi", demoTurn "hello", .reply 0 (demoReply "yes") (txt "now"),
        .reply 0 (demoReply "no") (txt "later"), demoTurn "bye", .agentRaises 0] :=
  transcript_alternates (by decide +kernel) (by decide +kernel) _

end HotelAgent
