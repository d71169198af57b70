/-
  HotelAgent.Api.Accounting — what a session says that its turns have cost.

  The number of characters goes through three functions:

    `synthesize_speech`    passes  text[:4096]  to the speech API
    `process_voice_turn`   counts  len(text)
    `process_turn`         adds the count to the session, where the turn is saved

  Main result, `accountingExact_iff`: after any turns, one after another, the
  characters and tokens of the session are what was passed to the speech API and
  what the completions reported, if and only if no turn that completes speaks
  more than 4096 characters.
-/
import HotelAgent.Api.Conversations

namespace HotelAgent

open Lib

variable {py : Python}

/-! ## §1. What a turn costs. -/

/-- The turn reaches its save: the session is loaded, the agent replies, and the columns
take the result. -/
def SpokenTurn.completes (py : Python) (pk : Uuid) (w : World) (t : SpokenTurn) : Bool :=
  match readTurn w.db t.caller pk t.req with
  | .error _ => false
  | .ok (_, s, content) =>
    match processVoiceTurn py t.api t.req.audio (t.req.text.bind validText) t.generateAudio with
    | .raises => false
    | .replies r => (saveTurn w.db s content r t.fresh.nowTs).isSome

/-- The characters that the turn passes to the speech API. -/
def SpokenTurn.charactersSent (py : Python) (t : SpokenTurn) : Nat :=
  ((speechInputs py t.api t.req.audio (t.req.text.bind validText) t.generateAudio).map
    List.length).sum

/-- The tokens that the completion of the turn reports. -/
def SpokenTurn.tokensReported (t : SpokenTurn) : Nat :=
  (t.api.completion.bind Completion.totalTokens).getD 0

/-- The turn at `pk`, as a step. -/
def turnAt (py : Python) (pk : Uuid) (w : World) (t : SpokenTurn) : World := (t.take py pk w).1

/-- The sum of an amount over the turns that complete. -/
def totalOf (py : Python) (pk : Uuid) (amount : SpokenTurn → Nat) (w : World)
    (ts : List SpokenTurn) : Nat :=
  total (turnAt py pk) (fun w t => if t.completes py pk w then amount t else 0) w ts

/-- The text that is spoken in the turn. -/
def SpokenTurn.spoken (t : SpokenTurn) : Text :=
  if t.generateAudio = true then cleanForTts ((t.api.completion.bind Completion.content).getD [])
  else []

/-- **Where the turn completes, it speaks at most what the speech API is passed at once.** -/
def SpeaksInOneCall (py : Python) (pk : Uuid) (w : World) (t : SpokenTurn) : Prop :=
  t.completes py pk w = true → t.spoken.length ≤ 4096

/-- **The session's counters are exact**, where they began with the session. -/
def AccountingExact (py : Python) (pk : Uuid) (w : World) (ts : List SpokenTurn) : Prop :=
  ∃ row, (converse py pk w ts).db.voiceSessions.find? pk = some row
    ∧ row.ttsCharacters = totalOf py pk (SpokenTurn.charactersSent py) w ts
    ∧ row.tokensUsed = totalOf py pk SpokenTurn.tokensReported w ts

/-! ## §2. One turn. -/

section
variable {pk : Uuid} {w : World} {t : SpokenTurn}

/-- What the agent counts: all of the spoken text. -/
theorem counts_of_replies {r : VoiceAgentResponse py}
    (h : processVoiceTurn py t.api t.req.audio (t.req.text.bind validText) t.generateAudio
      = .replies r) :
    r.ttsChars = t.spoken.length ∧ r.tokensUsed = t.tokensReported
      ∧ t.charactersSent py = (speechInput t.spoken).length := by
  obtain ⟨heard, completion, response, hheard, hcompletion, hresponse, hcase⟩ :=
    processVoiceTurn_eq_replies h
  have htext := text_of_generateResponse hresponse
  have hcounts : response.ttsChars = 0 ∧ response.tokensUsed = completion.totalTokens.getD 0 :=
    counts_of_generateResponse hresponse
  have htokens : t.tokensReported = completion.totalTokens.getD 0 := by
    rw [SpokenTurn.tokensReported, hcompletion, Option.bind_some]
  have hsent : t.charactersSent py
      = ((if t.generateAudio = true ∧ response.text ≠ [] then [speechInput response.text]
          else []).map List.length).sum := by
    rw [SpokenTurn.charactersSent, speechInputs, hheard, hcompletion]
    simp only [hresponse]
  have hspoken : t.spoken = if t.generateAudio = true then response.text else [] := by
    rw [SpokenTurn.spoken, hcompletion, Option.bind_some, htext]
  rcases hcase with ⟨hgenerate, hne, rfl⟩ | ⟨hsilent, rfl⟩
  · rw [hsent, if_pos ⟨hgenerate, hne⟩, hspoken, if_pos hgenerate, htokens]
    exact ⟨rfl, hcounts.2, by simp⟩
  · have hnothing : t.spoken = [] := by
      rw [hspoken]
      split
      next hgenerate =>
        by_contra hne
        exact hsilent ⟨hgenerate, hne⟩
      · rfl
    rw [hsent, if_neg hsilent, hnothing, htokens]
    exact ⟨hcounts.1, hcounts.2, rfl⟩

/-- A turn that the agent fails changes the status only. -/
theorem row_of_raises {user : User} {s : VoiceSession} {content : Text}
    (hread : readTurn w.db t.caller pk t.req = .ok (user, s, content))
    (hagent : processVoiceTurn py t.api t.req.audio (t.req.text.bind validText) t.generateAudio
      = .raises) :
    (turnAt py pk w t).db.voiceSessions.find? pk = some { s with status := .failed } := by
  obtain ⟨hrow, _⟩ := readTurn_ok hread
  have hid : s.id = pk := Table.key_of_find? hrow
  obtain ⟨db, hfail⟩ := failTurn_eq_some hread
  have hafter : (turnAt py pk w t).db = db := by
    simp only [turnAt, SpokenTurn.take, speakTurn, processTurn, hread, hagent, hfail]
  rw [failTurn, hid] at hfail
  obtain ⟨row, hrow', _, hwritten, _⟩ := Db.saveSession_eq_some hfail
  rw [hrow] at hrow'
  injection hrow' with hrow'
  subst hrow'
  rw [hafter]
  exact hwritten

/-- A turn that is saved writes what the agent counts. -/
theorem row_of_saved {user : User} {s : VoiceSession} {content : Text}
    {r : VoiceAgentResponse py} {db : Db}
    (hread : readTurn w.db t.caller pk t.req = .ok (user, s, content))
    (hagent : processVoiceTurn py t.api t.req.audio (t.req.text.bind validText) t.generateAudio
      = .replies r) (hsave : saveTurn w.db s content r t.fresh.nowTs = some db) :
    ∃ row', (turnAt py pk w t).db.voiceSessions.find? pk = some row'
      ∧ row'.ttsCharacters = s.ttsCharacters + r.ttsChars
      ∧ row'.tokensUsed = s.tokensUsed + r.tokensUsed := by
  obtain ⟨hrow, _⟩ := readTurn_ok hread
  have hid : s.id = pk := Table.key_of_find? hrow
  have hafter : turnAt py pk w t = (finishTurn { w with db := db } user s r t.fresh).1 := by
    simp only [turnAt, SpokenTurn.take, speakTurn, processTurn, hread, hagent, hsave]
  rw [saveTurn, hid] at hsave
  obtain ⟨row, hrow', _, hwritten, _⟩ := Db.saveSession_eq_some hsave
  -- the service request is no business of the counters
  have hcolumns := sessionColumns_finishTurn pk { w with db := db } user s r t.fresh
  rw [← hafter, sessionColumns_row hwritten] at hcolumns
  obtain ⟨row', hfound, hsame⟩ := Option.map_eq_some_iff.mp hcolumns
  have haccount : accountOf row' = _ := congrArg Prod.snd hsame
  refine ⟨row', hfound, ?_, ?_⟩
  · exact congrArg Account.ttsCharacters haccount
  · exact congrArg Account.tokensUsed haccount

/-- **One turn** adds the spoken characters and the reported tokens, if it completes. -/
theorem row_turnAt (py : Python) (t : SpokenTurn) {row : VoiceSession}
    (hrow : w.db.voiceSessions.find? pk = some row) :
    ∃ row', (turnAt py pk w t).db.voiceSessions.find? pk = some row'
      ∧ row'.ttsCharacters
          = row.ttsCharacters + (if t.completes py pk w then t.spoken.length else 0)
      ∧ row'.tokensUsed
          = row.tokensUsed + (if t.completes py pk w then t.tokensReported else 0) := by
  unfold SpokenTurn.completes
  cases hread : readTurn w.db t.caller pk t.req with
  | error answer =>
      have hafter : turnAt py pk w t = w := by
        simp only [turnAt, SpokenTurn.take, speakTurn, processTurn, hread]
      rw [hafter]
      exact ⟨row, hrow, by simp, by simp⟩
  | ok loaded =>
      obtain ⟨user, s, content⟩ := loaded
      obtain rfl : s = row := Option.some.inj ((readTurn_ok hread).1.symm.trans hrow)
      cases hagent : processVoiceTurn py t.api t.req.audio (t.req.text.bind validText)
          t.generateAudio with
      | raises =>
          refine ⟨_, row_of_raises hread hagent, ?_, ?_⟩
          · simp
          · simp
      | replies r =>
          obtain ⟨hchars, htokens, _⟩ := counts_of_replies hagent
          cases hsave : saveTurn w.db s content r t.fresh.nowTs with
          | none =>
              have hafter : turnAt py pk w t = w := by
                simp only [turnAt, SpokenTurn.take, speakTurn, processTurn, hread, hagent, hsave]
              rw [hafter]
              exact ⟨s, hrow, by simp [hsave], by simp [hsave]⟩
          | some db =>
              obtain ⟨row', hfound, htts, hused⟩ := row_of_saved hread hagent hsave
              refine ⟨row', hfound, ?_, ?_⟩
              · simp [hsave, htts, hchars]
              · simp [hsave, hused, htokens]

/-- What is passed to the speech API in a turn that completes. -/
theorem charactersSent_of_completes (h : t.completes py pk w = true) :
    t.charactersSent py = min 4096 t.spoken.length := by
  unfold SpokenTurn.completes at h
  split at h
  · exact absurd h (by simp)
  · split at h
    · exact absurd h (by simp)
    next r hagent =>
      rw [(counts_of_replies hagent).2.2, speechInput, List.length_take]

end

/-! ## §3. Turns one after another. -/

/-- The session is there. -/
def SessionThere (pk : Uuid) (w : World) : Prop :=
  ∃ row, w.db.voiceSessions.find? pk = some row

/-- A column of the session. -/
def columnOf (pk : Uuid) (column : VoiceSession → Nat) (w : World) : Nat :=
  ((w.db.voiceSessions.find? pk).map column).getD 0

section
variable {pk : Uuid} {w : World}

theorem columnOf_row {column : VoiceSession → Nat} {row : VoiceSession}
    (hrow : w.db.voiceSessions.find? pk = some row) : columnOf pk column w = column row := by
  rw [columnOf, hrow]
  rfl

theorem there_turnAt (w : World) (t : SpokenTurn) (h : SessionThere pk w) :
    SessionThere pk (turnAt py pk w t) := by
  obtain ⟨row, hrow⟩ := h
  obtain ⟨row', hrow', _⟩ := row_turnAt py t hrow
  exact ⟨row', hrow'⟩

/-- **The counters after some turns**: the spoken characters and the reported tokens of those
that complete. -/
theorem counters_converse (py : Python) (h : SessionThere pk w) (ts : List SpokenTurn) :
    columnOf pk VoiceSession.ttsCharacters (converse py pk w ts)
        = columnOf pk VoiceSession.ttsCharacters w + totalOf py pk (fun t => t.spoken.length) w ts
      ∧ columnOf pk VoiceSession.tokensUsed (converse py pk w ts)
        = columnOf pk VoiceSession.tokensUsed w + totalOf py pk SpokenTurn.tokensReported w ts := by
  constructor
  · refine measure_run there_turnAt (fun w t h => ?_) h ts
    obtain ⟨row, hrow⟩ := h
    obtain ⟨row', hrow', htts, _⟩ := row_turnAt py t hrow
    rw [columnOf_row hrow', columnOf_row hrow, htts]
  · refine measure_run there_turnAt (fun w t h => ?_) h ts
    obtain ⟨row, hrow⟩ := h
    obtain ⟨row', hrow', _, hused⟩ := row_turnAt py t hrow
    rw [columnOf_row hrow', columnOf_row hrow, hused]

/-- What is passed to the speech API is what is spoken, exactly where it fits in one call. -/
theorem sent_eq_spoken_iff (w : World) (ts : List SpokenTurn) :
    totalOf py pk (SpokenTurn.charactersSent py) w ts
        = totalOf py pk (fun t => t.spoken.length) w ts
      ↔ AllSteps (turnAt py pk) (SpeaksInOneCall py pk) w ts := by
  have hsent : ∀ (w : World) (t : SpokenTurn),
      (if t.completes py pk w then t.charactersSent py else 0)
        = if t.completes py pk w then min 4096 t.spoken.length else 0 := by
    intro w t
    split
    next h => exact charactersSent_of_completes h
    · rfl
  unfold totalOf
  simp only [hsent]
  rw [total_eq_iff]
  · refine iff_of_eq ?_
    congr
    funext w t
    unfold SpeaksInOneCall
    split
    next h =>
      simp only [h, forall_const, eq_iff_iff]
      omega
    next h => simp [h]
  · intro w t
    split
    · exact min_le_right _ _
    · exact le_refl 0

end

/-- **The accounting is exact, exactly.**  After any turns on a session that began with its
counters at zero, the characters of the session are those that were passed to the speech API in
the turns that completed, and its tokens those that their completions reported, if and only if
none of these turns speaks more than 4096 characters. -/
theorem accountingExact_iff (pk : Uuid) (w : World) (ts : List SpokenTurn) (row : VoiceSession)
    (hrow : w.db.voiceSessions.find? pk = some row)
    (hnew : row.ttsCharacters = 0 ∧ row.tokensUsed = 0) :
    AccountingExact py pk w ts ↔ AllSteps (turnAt py pk) (SpeaksInOneCall py pk) w ts := by
  obtain ⟨htts, hused⟩ := counters_converse py ⟨row, hrow⟩ ts
  rw [columnOf_row hrow, hnew.1, Nat.zero_add] at htts
  rw [columnOf_row hrow, hnew.2, Nat.zero_add] at hused
  obtain ⟨last, hlast⟩ : SessionThere pk (converse py pk w ts) :=
    (allStates_of_step (fun w t h => there_turnAt w t h) ⟨row, hrow⟩ ts).last
  rw [columnOf_row hlast] at htts hused
  rw [← sent_eq_spoken_iff, ← htts]
  constructor
  · rintro ⟨row', hrow', hexact, _⟩
    rw [hlast] at hrow'
    injection hrow' with hrow'
    rw [hrow', hexact]
  · intro hexact
    exact ⟨last, hlast, hexact.symm, hused⟩

/-- A turn whose reply is spoken. -/
def aloudTurn (reply : Text) : SpokenTurn where
  caller := .token 1
  req := { text := some (txt "hi"), audio := none }
  generateAudio := true
  api :=
    { transcription := none
      completion := some ⟨some reply, some 5⟩
      speech := some [1, 2, 3] }
  fresh := demoSessionFresh 9

/-- A short reply is counted as it is spoken. -/
theorem accounting_of_short_reply :
    AccountingExact plainPython 5 demoCall [aloudTurn (txt "hello")] :=
  (accountingExact_iff 5 demoCall _ demoSession (by decide +kernel) (by decide)).mpr
    ⟨fun _ => by decide +kernel, trivial⟩

/-- A reply of `n` letters. -/
def letters (n : Nat) : Text := List.replicate n (codePoint 'a')

theorem splitOnce_letters (n : Nat) : splitOnce blockOpen (letters n) = none := by
  induction n with
  | zero => rfl
  | succ n ih =>
      rw [letters, List.replicate_succ, ← letters, splitOnce, ih]
      rfl

/-- There is nothing to clean. -/
theorem cleanForTts_letters (n : Nat) : cleanForTts (letters n) = letters n := by
  have hblocks : removeBlocks (letters n).length (letters n) = letters n := by
    cases n with
    | zero => rfl
    | succ n =>
        rw [letters, List.length_replicate, ← letters, removeBlocks, splitOnce_letters]
  have hspace : isSpace (codePoint 'a') = false := by decide
  have hdrop : (letters n).dropWhile isSpace = letters n := by
    cases n with
    | zero => rfl
    | succ n => rw [letters, List.replicate_succ, List.dropWhile_cons_of_neg (by simp [hspace])]
  rw [cleanForTts, hblocks, strip, hdrop, letters, List.reverse_replicate, ← letters, hdrop,
    letters, List.reverse_replicate]

theorem spoken_letters (n : Nat) : (aloudTurn (letters n)).spoken = letters n :=
  cleanForTts_letters n

/-- The demo guest is given a reply of letters. -/
theorem replies_letters (n : Nat) :
    processVoiceTurn plainPython (aloudTurn (letters (n + 1))).api none (some (txt "hi")) true
      = .replies
        { text := letters (n + 1), audioData := some [1, 2, 3], serviceRequest := none,
          tokensUsed := 5, ttsChars := n + 1 } := by
  have hextract : extractServiceRequest plainPython (letters (n + 1)) = .nothing := by
    rw [extractServiceRequest, firstBlock, splitOnce_letters]
  have hresponse : generateResponse plainPython ⟨some (letters (n + 1)), some 5⟩
      = some
        { text := letters (n + 1), audioData := none, serviceRequest := none, tokensUsed := 5,
          ttsChars := 0 } := by
    unfold generateResponse
    simp only [Option.getD_some, hextract, cleanForTts_letters]
  have hheard : heardText (aloudTurn (letters (n + 1))).api none (some (txt "hi"))
      = some (txt "hi") := rfl
  have hcompletion : (aloudTurn (letters (n + 1))).api.completion
      = some ⟨some (letters (n + 1)), some 5⟩ := rfl
  have hspeech : (aloudTurn (letters (n + 1))).api.speech = some [1, 2, 3] := rfl
  have hne : letters (n + 1) ≠ [] := by simp [letters]
  unfold processVoiceTurn
  simp only [hheard, hcompletion, hresponse, hspeech, hne, ne_eq, not_false_eq_true, and_self,
    if_true]
  simp [letters]

/-- The reply of letters is saved, however many there are. -/
theorem completes_letters {n : Nat} (hn : n + 1 ≤ maxInteger) :
    (aloudTurn (letters (n + 1))).completes plainPython 5 demoCall = true := by
  have hrow : demoCall.db.voiceSessions.find? 5 = some demoSession := by decide +kernel
  have hread : readTurn demoCall.db (.token 1) 5 { text := some (txt "hi"), audio := none }
      = .ok (demoGuest, demoSession, txt "hi") := rfl
  have hvalid : (some (txt "hi")).bind validText = some (txt "hi") := by decide
  have hstorable : storable (letters (n + 1)) = true := by
    rw [storable, letters, List.all_replicate, if_neg (Nat.succ_ne_zero n)]
    decide
  have hsaves := saveTurn_isSome_iff ⟨demoGuest, demoSession, txt "hi"⟩ rfl hrow
    ({ text := letters (n + 1), audioData := some [1, 2, 3], serviceRequest := none,
       tokensUsed := 5, ttsChars := n + 1 } : VoiceAgentResponse plainPython)
    (demoSessionFresh 9).nowTs
  have hreplies := replies_letters n
  unfold aloudTurn at hreplies
  unfold SpokenTurn.completes aloudTurn
  simp only [hread, hvalid, hreplies]
  refine hsaves.mpr ⟨?_, ?_, ?_⟩
  · show (turnMessages (txt "hi") (letters (n + 1)) (demoSessionFresh 9).nowTs).all
        Message.storable = true
    simp only [turnMessages, List.all_cons, List.all_nil, Message.storable, hstorable]
    decide
  · show 0 + 5 ≤ maxInteger
    decide
  · show 0 + (n + 1) ≤ maxInteger
    rwa [Nat.zero_add]

/-- Of a long reply, more is counted than is spoken. -/
theorem long_reply_is_counted_whole :
    ¬ ∀ (py : Python) (pk : Uuid) (w : World) (ts : List SpokenTurn) (row : VoiceSession),
      w.db.voiceSessions.find? pk = some row → row.ttsCharacters = 0 ∧ row.tokensUsed = 0 →
      AccountingExact py pk w ts := by
  intro h
  have hrow : demoCall.db.voiceSessions.find? 5 = some demoSession := by decide +kernel
  obtain ⟨row, hrow', htts, _⟩ := h plainPython 5 demoCall [aloudTurn (letters (4096 + 1))]
    demoSession hrow (by decide)
  have hcounted := (counters_converse plainPython ⟨demoSession, hrow⟩
    [aloudTurn (letters (4096 + 1))]).1
  rw [columnOf_row hrow', columnOf_row hrow, show demoSession.ttsCharacters = 0 from rfl,
    Nat.zero_add, htts] at hcounted
  have hfits := (sent_eq_spoken_iff demoCall _).mp hcounted
  have hshort := hfits.1 (completes_letters (by decide))
  rw [spoken_letters, letters, List.length_replicate] at hshort
  exact absurd hshort (by decide)

end HotelAgent
