/-
  HotelAgent.Api.SessionRaces — turns, ends and clean-ups of one session.

  Any number of `process_turn`, `end_session` and `cleanup_expired_sessions`
  executions interleave on one session.  Each turn and each end loads the row,
  goes on only when it is ACTIVE, and saves its columns later from the copy it
  loaded, without looking again.

  Main results:

      uninterrupted_turn, uninterrupted_end
            the steps in a row are `processTurn` and `endSession`
      frozen_iff_harmless
            an ended session never changes again, if and only if no save that
            reaches one writes anything new
      turnsKept_iff_fresh
            no turn is lost, if and only if every save finds the row's
            transcript and counters as the turn loaded them
-/
import HotelAgent.Api.VoiceSessions
import HotelAgent.Lib.ReadModifyWrite

namespace HotelAgent

open Lib

variable {py : Python}

/-! ## §1. Executions in flight. -/

/-- A turn that waits for the agent. -/
structure TurnCall where
  user : User
  copy : VoiceSession
  content : Text

/-- A turn that has saved and may have a service request to create. -/
structure RequestCall (py : Python) where
  user : User
  copy : VoiceSession
  reply : VoiceAgentResponse py

/-- What a turn is to contribute to the session. -/
structure MadeTurn where
  content : Text
  reply : Text
  nowTs : Text
  tokensUsed : Nat
  ttsChars : Nat

/-- Its user/assistant pair. -/
def MadeTurn.messages (m : MadeTurn) : List Message := turnMessages m.content m.reply m.nowTs

/-- The world, the executions in flight and the turns whose agent call succeeded
and that have come to their save. -/
structure SessionTraffic (py : Python) where
  world : World
  turns : List TurnCall
  requests : List (RequestCall py)
  ends : List VoiceSession
  made : List MadeTurn

inductive SessionStep (py : Python) where
  | beginTurn (caller : Caller) (req : TurnRequest)
  /-- The agent answers the `k`-th waiting turn, which saves. -/
  | reply (k : Nat) (r : VoiceAgentResponse py) (nowTs : Text)
  /-- The agent raises for the `k`-th waiting turn, which saves FAILED. -/
  | agentRaises (k : Nat)
  /-- The `k`-th turn that has saved goes on to its service request. -/
  | finish (k : Nat) (fresh : SessionFresh)
  | beginEnd (caller : Caller)
  | saveEnd (k : Nat) (fresh : SessionFresh)
  | cleanup (now : Instant)

/-- One step of the executions on the session `pk`. -/
def sessionStep (pk : Uuid) (s : SessionTraffic py) : SessionStep py → SessionTraffic py
  | .beginTurn caller req =>
    match readTurn s.world.db caller pk req with
    | .error _ => s
    | .ok (user, copy, content) => { s with turns := s.turns ++ [⟨user, copy, content⟩] }
  | .reply k r nowTs =>
    match s.turns[k]? with
    | none => s
    | some t =>
      -- the copy was loaded before the agent was called; it is not read again
      let s := { s with
        turns := s.turns.eraseIdx k
        made := s.made ++ [⟨t.content, r.text, nowTs, r.tokensUsed, r.ttsChars⟩] }
      match saveTurn s.world.db t.copy t.content r nowTs with
      | none => s
      | some db => { s with
          world := { s.world with db := db }
          requests := s.requests ++ [⟨t.user, t.copy, r⟩] }
  | .agentRaises k =>
    match s.turns[k]? with
    | none => s
    | some t =>
      { s with
        turns := s.turns.eraseIdx k
        world := { s.world with db := (failTurn s.world.db t.copy).getD s.world.db } }
  | .finish k fresh =>
    match s.requests[k]? with
    | none => s
    | some c =>
      { s with
        requests := s.requests.eraseIdx k
        world := (finishTurn s.world c.user c.copy c.reply fresh).1 }
  | .beginEnd caller =>
    match readEnd s.world.db caller pk with
    | .error _ => s
    | .ok copy => { s with ends := s.ends ++ [copy] }
  | .saveEnd k fresh =>
    match s.ends[k]? with
    | none => s
    | some copy =>
      let s := { s with ends := s.ends.eraseIdx k }
      match HotelAgent.saveEnd s.world.db copy fresh.now with
      | none => s
      | some db => { s with world := (finishEnd py { s.world with db := db } copy fresh).1 }
  | .cleanup now => { s with world := { s.world with db := cleanupExpiredSessions s.world.db now } }

/-- Nothing in flight. -/
def SessionTraffic.quiet (w : World) : SessionTraffic py := ⟨w, [], [], [], []⟩

/-- **A turn without interruption.** -/
theorem uninterrupted_turn (w : World) (caller : Caller) (pk : Uuid) (req : TurnRequest)
    (r : VoiceAgentResponse py) (fresh : SessionFresh) :
    (run (sessionStep pk) (.quiet w)
        [.beginTurn caller req, .reply 0 r fresh.nowTs, .finish 0 fresh]).world
      = (processTurn w caller pk req (.replies r) fresh).1 := by
  unfold processTurn SessionTraffic.quiet
  simp only [run_cons, run_nil, sessionStep]
  cases hread : readTurn w.db caller pk req with
  | error answer => rfl
  | ok t =>
      obtain ⟨user, copy, content⟩ := t
      simp only [List.nil_append, List.getElem?_cons_zero]
      cases hsave : saveTurn w.db copy content r fresh.nowTs with
      | none => rfl
      | some db => rfl

/-- **A turn whose agent raises, without interruption.** -/
theorem uninterrupted_failure (w : World) (caller : Caller) (pk : Uuid) (req : TurnRequest)
    (fresh : SessionFresh) :
    (run (sessionStep pk) (.quiet w : SessionTraffic py)
        [.beginTurn caller req, .agentRaises 0]).world
      = (processTurn w caller pk req (.raises : AgentOutcome py) fresh).1 := by
  unfold processTurn SessionTraffic.quiet
  simp only [run_cons, run_nil, sessionStep]
  cases hread : readTurn w.db caller pk req with
  | error answer => rfl
  | ok t =>
      obtain ⟨user, copy, content⟩ := t
      simp only [List.nil_append, List.getElem?_cons_zero]
      cases hsave : failTurn w.db copy with
      | none => rfl
      | some db => rfl

/-- **An end without interruption.** -/
theorem uninterrupted_end (w : World) (caller : Caller) (pk : Uuid) (fresh : SessionFresh) :
    (run (sessionStep pk) (.quiet w : SessionTraffic py)
        [.beginEnd caller, .saveEnd 0 fresh]).world
      = (endSession py w caller pk fresh).1 := by
  unfold endSession SessionTraffic.quiet
  simp only [run_cons, run_nil, sessionStep]
  cases hread : readEnd w.db caller pk with
  | error answer => rfl
  | ok copy =>
      simp only [List.nil_append, List.getElem?_cons_zero]
      cases hsave : HotelAgent.saveEnd w.db copy fresh.now with
      | none => rfl
      | some db => rfl

/-! ## §2. The columns of an ended session. -/

/-- What a turn loads of a session and writes back. -/
structure Account where
  transcript : List Message
  tokensUsed : Nat
  ttsCharacters : Nat
  deriving DecidableEq

def accountOf (row : VoiceSession) : Account := ⟨row.transcript, row.tokensUsed, row.ttsCharacters⟩

/-- The columns that an ended session must keep. -/
def frozenColumns (row : VoiceSession) : SessionStatus × Account := (row.status, accountOf row)

/-- What is observed of the session `pk`. -/
def sessionColumns (pk : Uuid) (db : Db) : Option (SessionStatus × Account) :=
  (db.voiceSessions.find? pk).map frozenColumns

/-- The session is there and not ACTIVE. -/
def LeftActive (columns : Option (SessionStatus × Account)) : Prop :=
  ∃ c, columns = some c ∧ c.1 ≠ .active

/-- Every copy in flight is one of the session `pk`. -/
def CopiesOf (pk : Uuid) (s : SessionTraffic py) : Prop :=
  (∀ t ∈ s.turns, t.copy.id = pk) ∧ ∀ copy ∈ s.ends, copy.id = pk

/-- Executions that end leave their copies behind. -/
theorem CopiesOf.mono {pk : Uuid} {s s' : SessionTraffic py} (h : CopiesOf pk s)
    (hturns : s'.turns ⊆ s.turns) (hends : s'.ends ⊆ s.ends) : CopiesOf pk s' :=
  ⟨fun t ht => h.1 t (hturns ht), fun copy hcopy => h.2 copy (hends hcopy)⟩

theorem CopiesOf.loadTurn {pk : Uuid} {s : SessionTraffic py} (h : CopiesOf pk s) {t : TurnCall}
    (ht : t.copy.id = pk) : CopiesOf pk { s with turns := s.turns ++ [t] } := by
  refine ⟨fun t' ht' => ?_, h.2⟩
  rcases List.mem_append.mp ht' with ht' | ht'
  · exact h.1 t' ht'
  · rw [List.mem_singleton.mp ht']
    exact ht

theorem CopiesOf.loadEnd {pk : Uuid} {s : SessionTraffic py} (h : CopiesOf pk s)
    {copy : VoiceSession} (hcopy : copy.id = pk) :
    CopiesOf pk { s with ends := s.ends ++ [copy] } := by
  refine ⟨h.1, fun c hc => ?_⟩
  rcases List.mem_append.mp hc with hc | hc
  · exact h.2 c hc
  · rw [List.mem_singleton.mp hc]
    exact hcopy

theorem copiesOf_step (pk : Uuid) (s : SessionTraffic py) (i : SessionStep py)
    (h : CopiesOf pk s) : CopiesOf pk (sessionStep pk s i) := by
  cases i with
  | beginTurn caller req =>
      unfold sessionStep
      simp only
      cases hread : readTurn s.world.db caller pk req with
      | error answer => exact h
      | ok t =>
          obtain ⟨user, copy, content⟩ := t
          exact h.loadTurn (Table.key_of_find? (readTurn_ok hread).1)
  | reply k r nowTs =>
      unfold sessionStep
      simp only
      cases s.turns[k]? with
      | none => exact h
      | some t =>
          simp only
          split
          · exact h.mono (List.eraseIdx_subset ..) (List.Subset.refl _)
          · exact h.mono (List.eraseIdx_subset ..) (List.Subset.refl _)
  | agentRaises k =>
      unfold sessionStep
      simp only
      cases s.turns[k]? with
      | none => exact h
      | some t => exact h.mono (List.eraseIdx_subset ..) (List.Subset.refl _)
  | finish k fresh =>
      unfold sessionStep
      simp only
      split
      · exact h
      · exact h
  | beginEnd caller =>
      unfold sessionStep
      simp only
      cases hread : readEnd s.world.db caller pk with
      | error answer => exact h
      | ok copy => exact h.loadEnd (Table.key_of_find? (readEnd_ok hread).1)
  | saveEnd k fresh =>
      unfold sessionStep
      simp only
      cases s.ends[k]? with
      | none => exact h
      | some copy =>
          simp only
          split
          · exact h.mono (List.Subset.refl _) (List.eraseIdx_subset ..)
          · exact h.mono (List.Subset.refl _) (List.eraseIdx_subset ..)
  | cleanup now => exact h

/-- A write that keeps the columns of every row keeps what is observed. -/
theorem sessionColumns_saveSession {pk id : Uuid} {db db' : Db} {w : SessionWrite}
    (hw : ∀ row, frozenColumns (w.write row) = frozenColumns row)
    (h : db.saveSession id w = some db') : sessionColumns pk db' = sessionColumns pk db := by
  unfold Db.saveSession at h
  split at h
  · obtain ⟨_, hsessions, _⟩ := Db.updateSessions_eq_some h
    unfold sessionColumns
    rw [hsessions, Table.find?_updateWhere, Option.map_map]
    congr 1
    funext row
    simp only [Function.comp_apply]
    split
    · exact hw row
    · rfl
  · exact absurd h (by simp)

/-- A save into the session's row. -/
theorem sessionColumns_save {pk : Uuid} {db : Db} {w : SessionWrite} {row : VoiceSession}
    (hrow : db.voiceSessions.find? pk = some row) :
    sessionColumns pk ((db.saveSession pk w).getD db)
      = some (if (w.write row).InRange then frozenColumns (w.write row)
          else frozenColumns row) := by
  cases hsave : db.saveSession pk w with
  | none =>
      rw [if_neg (Db.saveSession_eq_none_iff.mp hsave row hrow)]
      unfold sessionColumns
      rw [Option.getD_none, hrow]
      rfl
  | some db' =>
      obtain ⟨row', hrow', hrange, hafter, _⟩ := Db.saveSession_eq_some hsave
      rw [hrow] at hrow'
      injection hrow' with hrow'
      subst hrow'
      rw [if_pos hrange]
      unfold sessionColumns
      rw [Option.getD_some, hafter]
      rfl

/-- **Creating the service request** touches none of the columns. -/
theorem sessionColumns_finishTurn (pk : Uuid) (w : World) (user : User) (copy : VoiceSession)
    (r : VoiceAgentResponse py) (fresh : SessionFresh) :
    sessionColumns pk (finishTurn w user copy r fresh).1.db = sessionColumns pk w.db := by
  have hcreate : ∀ d : RequestDraft,
      sessionColumns pk (createRequest py w d fresh).1.db = sessionColumns pk w.db := by
    intro d
    unfold createRequest
    split
    · rfl
    next row hdraft =>
      split
      · rfl
      next db hins =>
        split
        · rfl
        · split
          · rfl
          next db' hadd =>
            split
            · rfl
            · -- the relation is no column of the session
              rw [sessionColumns_saveSession (fun row => rfl) hadd]
              unfold sessionColumns
              rw [Db.voiceSessions_insertServiceRequest hins]
  unfold finishTurn
  split
  · rfl
  next d hd =>
    have h := hcreate d
    split
    next w' heq =>
      rw [heq] at h
      exact h
    next w' row heq =>
      rw [heq] at h
      exact h

/-- The columns that a turn saves. -/
def TurnCall.columns (t : TurnCall) (r : VoiceAgentResponse py) (nowTs : Text) : SessionWrite :=
  .turn t.copy (turnMessages t.content r.text nowTs) r.tokensUsed r.ttsChars

/-- What a step must meet where the ended session has the row `row`: the save of a
turn is refused or writes what the row has, and a save of FAILED or COMPLETED
meets a row that is so already. -/
def HarmlessOn (s : SessionTraffic py) (row : VoiceSession) : SessionStep py → Prop
  | .reply k r nowTs => ∀ t, s.turns[k]? = some t →
      ((t.columns r nowTs).write row).InRange →
      t.copy.transcript ++ turnMessages t.content r.text nowTs = row.transcript
        ∧ t.copy.tokensUsed + r.tokensUsed = row.tokensUsed
        ∧ t.copy.ttsCharacters + r.ttsChars = row.ttsCharacters
  | .agentRaises k => ∀ t, s.turns[k]? = some t → row.status = .failed
  | .saveEnd k _ => ∀ copy, s.ends[k]? = some copy → row.status = .completed
  | _ => True

/-- Where the session has ended, the step is harmless. -/
def Harmless (pk : Uuid) (s : SessionTraffic py) (i : SessionStep py) : Prop :=
  ∀ row, s.world.db.voiceSessions.find? pk = some row → row.status ≠ .active →
    HarmlessOn s row i

theorem leftActive_iff {pk : Uuid} {db : Db} :
    LeftActive (sessionColumns pk db)
      ↔ ∃ row, db.voiceSessions.find? pk = some row ∧ row.status ≠ .active := by
  unfold LeftActive sessionColumns
  constructor
  · intro h
    obtain ⟨c, hc, hstatus⟩ := h
    obtain ⟨row, hrow, rfl⟩ := Option.map_eq_some_iff.mp hc
    exact ⟨row, hrow, hstatus⟩
  · intro h
    obtain ⟨row, hrow, hstatus⟩ := h
    exact ⟨frozenColumns row, by rw [hrow]; rfl, hstatus⟩

/-- The columns of the stored row. -/
theorem sessionColumns_row {pk : Uuid} {db : Db} {row : VoiceSession}
    (hrow : db.voiceSessions.find? pk = some row) :
    sessionColumns pk db = some (frozenColumns row) := by
  unfold sessionColumns
  rw [hrow]
  rfl

theorem inRange_of_find? {pk : Uuid} {db : Db} {row : VoiceSession}
    (hrow : db.voiceSessions.find? pk = some row) : row.InRange :=
  (db.session_ok row (Table.mem_of_find? hrow)).2.2

theorem db_finishEnd (w : World) (copy : VoiceSession) (fresh : SessionFresh) :
    (finishEnd py w copy fresh).1.db = w.db := by
  unfold finishEnd
  split
  · rfl
  · rfl

/-- Clean-up keeps the columns of a session that is not ACTIVE. -/
theorem sessionColumns_cleanup {pk : Uuid} {db : Db} {row : VoiceSession} (now : Instant)
    (hrow : db.voiceSessions.find? pk = some row) (hstatus : row.status ≠ .active) :
    sessionColumns pk (cleanupExpiredSessions db now) = sessionColumns pk db := by
  obtain ⟨_, hsessions, _⟩ := Db.updateSessions_eq_some (cleanupExpiredSessions_eq db now)
  have hnot : expired now row = false := by
    unfold expired
    simp [hstatus]
  unfold sessionColumns
  rw [hsessions, Table.find?_updateWhere, hrow]
  simp [hnot]

section
variable {pk : Uuid} {s : SessionTraffic py} {row : VoiceSession} {k : Nat}

theorem sessionStep_reply_none (r : VoiceAgentResponse py) (nowTs : Text)
    (h : s.turns[k]? = none) : sessionStep pk s (.reply k r nowTs) = s := by
  simp only [sessionStep, h]

theorem db_reply {t : TurnCall} (r : VoiceAgentResponse py) (nowTs : Text)
    (h : s.turns[k]? = some t) :
    (sessionStep pk s (.reply k r nowTs)).world.db
      = (saveTurn s.world.db t.copy t.content r nowTs).getD s.world.db := by
  simp only [sessionStep, h]
  cases saveTurn s.world.db t.copy t.content r nowTs with
  | none => rfl
  | some db => rfl

theorem saveTurn_eq {db : Db} {t : TurnCall} (hid : t.copy.id = pk) (r : VoiceAgentResponse py)
    (nowTs : Text) :
    saveTurn db t.copy t.content r nowTs = db.saveSession pk (t.columns r nowTs) := by
  unfold saveTurn
  rw [hid]
  rfl

theorem db_agentRaises {t : TurnCall} (h : s.turns[k]? = some t) :
    (sessionStep pk s (.agentRaises k)).world.db
      = (failTurn s.world.db t.copy).getD s.world.db := by
  simp only [sessionStep, h]

theorem db_saveEnd {copy : VoiceSession} (fresh : SessionFresh) (h : s.ends[k]? = some copy) :
    (sessionStep pk s (.saveEnd k fresh)).world.db
      = (HotelAgent.saveEnd s.world.db copy fresh.now).getD s.world.db := by
  simp only [sessionStep, h]
  cases HotelAgent.saveEnd s.world.db copy fresh.now with
  | none => rfl
  | some db => exact db_finishEnd _ copy fresh

/-- Saving FAILED or COMPLETED breaks no range. -/
theorem inRange_fail (h : row.InRange) : (SessionWrite.fail.write row).InRange := h

theorem inRange_complete (h : row.InRange) (startedAt now : Instant) :
    ((SessionWrite.complete now (durationSeconds startedAt now)).write row).InRange := by
  obtain ⟨htranscript, htokens, htts, _⟩ := h
  exact ⟨htranscript, htokens, htts, durationSeconds_le startedAt now⟩

/-- The save of a turn, where the session has ended. -/
theorem sessionColumns_reply_iff (hcopies : CopiesOf pk s)
    (hrow : s.world.db.voiceSessions.find? pk = some row) (r : VoiceAgentResponse py)
    (nowTs : Text) :
    sessionColumns pk (sessionStep pk s (.reply k r nowTs)).world.db
        = sessionColumns pk s.world.db
      ↔ HarmlessOn s row (.reply k r nowTs) := by
  simp only [HarmlessOn]
  cases ht : s.turns[k]? with
  | none =>
      rw [sessionStep_reply_none r nowTs ht]
      simp
  | some t =>
      rw [db_reply r nowTs ht, saveTurn_eq (hcopies.1 t (List.mem_of_getElem? ht)),
        sessionColumns_row hrow, sessionColumns_save hrow]
      by_cases hrange : ((t.columns r nowTs).write row).InRange
      · simp only [Option.some.injEq, forall_eq', hrange, true_imp_iff, if_true]
        simp only [frozenColumns, accountOf, TurnCall.columns, SessionWrite.turn, Prod.mk.injEq,
          Account.mk.injEq, true_and]
      · simp only [Option.some.injEq, forall_eq', hrange, false_imp_iff, if_false]

/-- The save of FAILED. -/
theorem sessionColumns_agentRaises_iff (hcopies : CopiesOf pk s)
    (hrow : s.world.db.voiceSessions.find? pk = some row) :
    sessionColumns pk (sessionStep pk s (.agentRaises k)).world.db = sessionColumns pk s.world.db
      ↔ HarmlessOn s row (.agentRaises k) := by
  simp only [HarmlessOn]
  cases ht : s.turns[k]? with
  | none => simp [sessionStep, ht]
  | some t =>
      have hid := hcopies.1 t (List.mem_of_getElem? ht)
      rw [db_agentRaises ht, sessionColumns_row hrow]
      unfold failTurn
      rw [hid, sessionColumns_save hrow, if_pos (inRange_fail (inRange_of_find? hrow))]
      simp [frozenColumns, accountOf, SessionWrite.fail, eq_comm]

/-- The save of COMPLETED. -/
theorem sessionColumns_saveEnd_iff (hcopies : CopiesOf pk s)
    (hrow : s.world.db.voiceSessions.find? pk = some row) (fresh : SessionFresh) :
    sessionColumns pk (sessionStep pk s (.saveEnd k fresh)).world.db
        = sessionColumns pk s.world.db
      ↔ HarmlessOn s row (.saveEnd k fresh) := by
  simp only [HarmlessOn]
  cases hc : s.ends[k]? with
  | none => simp [sessionStep, hc]
  | some copy =>
      have hid := hcopies.2 copy (List.mem_of_getElem? hc)
      rw [db_saveEnd fresh hc, sessionColumns_row hrow]
      unfold HotelAgent.saveEnd
      rw [hid, sessionColumns_save hrow, if_pos (inRange_complete (inRange_of_find? hrow) _ _)]
      simp [frozenColumns, accountOf, SessionWrite.complete, eq_comm]

/-- **One step on an ended session** keeps its columns exactly when it is harmless. -/
theorem sessionColumns_step_iff (hcopies : CopiesOf pk s) (i : SessionStep py) :
    (LeftActive (sessionColumns pk s.world.db) →
        sessionColumns pk (sessionStep pk s i).world.db = sessionColumns pk s.world.db)
      ↔ Harmless pk s i := by
  rw [leftActive_iff]
  unfold Harmless
  simp only [forall_exists_index, and_imp]
  refine forall_congr' fun row => forall_congr' fun hrow => forall_congr' fun hstatus => ?_
  cases i with
  | beginTurn caller req =>
      refine iff_of_true ?_ trivial
      simp only [sessionStep]
      split
      · rfl
      · rfl
  | reply k r nowTs => exact sessionColumns_reply_iff hcopies hrow r nowTs
  | agentRaises k => exact sessionColumns_agentRaises_iff hcopies hrow
  | finish k fresh =>
      refine iff_of_true ?_ trivial
      simp only [sessionStep]
      split
      · rfl
      next c hc => exact sessionColumns_finishTurn pk s.world c.user c.copy c.reply fresh
  | beginEnd caller =>
      refine iff_of_true ?_ trivial
      simp only [sessionStep]
      split
      · rfl
      · rfl
  | saveEnd k fresh => exact sessionColumns_saveEnd_iff hcopies hrow fresh
  | cleanup now => exact iff_of_true (sessionColumns_cleanup now hrow hstatus) trivial

end

/-- **Ended sessions are frozen, exactly.**  Once the status has left ACTIVE, the
status, the transcript and the counters never change again, if and only if every
save that reaches the ended session is harmless. -/
theorem frozen_iff_harmless (pk : Uuid) (w : World) (is : List (SessionStep py)) :
    Frozen (sessionStep pk) (fun s => sessionColumns pk s.world.db) LeftActive (.quiet w) is
      ↔ AllSteps (sessionStep pk) (Harmless pk) (.quiet w) is := by
  have hquiet : CopiesOf pk (.quiet w : SessionTraffic py) :=
    ⟨fun t ht => absurd ht (by simp [SessionTraffic.quiet]),
      fun c hc => absurd hc (by simp [SessionTraffic.quiet])⟩
  rw [frozen_iff_allSteps]
  exact allSteps_congr (copiesOf_step pk) (fun _ i hcopies => sessionColumns_step_iff hcopies i)
    hquiet is

/-- An ACTIVE session of the demo guest. -/
def demoSession : VoiceSession where
  id := 5
  guestId := 1
  bookingId := none
  status := .active
  startedAt := 0
  endedAt := none
  durationSeconds := 0
  transcript := []
  intentDetected := []
  tokensUsed := 0
  ttsCharacters := 0
  metadata := .obj []
  serviceRequestsCreated := []

/-- The demo hotel with that session. -/
def demoCall : World where
  db :=
    { demoHotel.db with
      voiceSessions := ⟨[demoSession], by decide⟩
      request_ok := demoHotel.db.request_ok
      session_ok := by decide +kernel }
  log := []

def demoTurn (text : String) : SessionStep plainPython :=
  .beginTurn (.token 1) { text := some (txt text), audio := none }

def demoReply (text : String) : VoiceAgentResponse plainPython where
  text := txt text
  audioData := none
  serviceRequest := none
  tokensUsed := 5
  ttsChars := 3

def demoSessionFresh (n : Nat) : SessionFresh where
  id := n
  now := second
  nowTs := txt "now"
  stamp := { eventId := 0, timestamp := [] }
  produce := .kafkaException
  signalStamp := { eventId := 0, timestamp := [] }
  signalProduce := .kafkaException

/-- The guest ends the session while the agent works on a turn; the reply then
extends the transcript of a COMPLETED session. -/
theorem reply_extends_ended_session :
    ¬ ∀ (py : Python) (pk : Uuid) (w : World) (is : List (SessionStep py)),
      Frozen (sessionStep pk) (fun s => sessionColumns pk s.world.db) LeftActive (.quiet w) is := by
  intro h
  have hfrozen := h plainPython 5 demoCall _
    [demoTurn "hi", .beginEnd (.token 1), .saveEnd 0 (demoSessionFresh 9)]
    [.reply 0 (demoReply "yes") (txt "now")] [] rfl
    (leftActive_iff.mpr ⟨{ demoSession with
      status := .completed, endedAt := some second, durationSeconds := 1 },
      by decide +kernel, by decide⟩)
  revert hfrozen
  decide +kernel

/-! ## §3. Turns alone. -/

/-- The steps of turns whose agent calls succeed. -/
inductive TurnStep (py : Python) where
  | load (caller : Caller) (req : TurnRequest)
  | save (k : Nat) (r : VoiceAgentResponse py) (nowTs : Text)
  | finish (k : Nat) (fresh : SessionFresh)

def TurnStep.asSession : TurnStep py → SessionStep py
  | .load caller req => .beginTurn caller req
  | .save k r nowTs => .reply k r nowTs
  | .finish k fresh => .finish k fresh

/-- One step of a turn on the session `pk`. -/
def turnStep (pk : Uuid) (s : SessionTraffic py) (i : TurnStep py) : SessionTraffic py :=
  sessionStep pk s i.asSession

def Account.add (a : Account) (m : MadeTurn) : Account :=
  ⟨a.transcript ++ m.messages, a.tokensUsed + m.tokensUsed, a.ttsCharacters + m.ttsChars⟩

/-- The account fits its columns. -/
def Account.Fits (a : Account) : Prop :=
  a.transcript.all Message.storable = true ∧ a.tokensUsed ≤ maxInteger
    ∧ a.ttsCharacters ≤ maxInteger

instance (a : Account) : Decidable a.Fits := inferInstanceAs (Decidable (_ ∧ _ ∧ _))

/-- The account after a turn; `none` is the refused save. -/
def Account.save (m : MadeTurn) (a : Account) : Option Account :=
  if (a.add m).Fits then some (a.add m) else none

/-- **No turn is lost**: the row has the initial transcript, the pairs of all turns
that came to their save, in some order, and their tokens and characters. -/
def TurnsKept (pk : Uuid) (row : VoiceSession) (s : SessionTraffic py) : Prop :=
  ∃ row', s.world.db.voiceSessions.find? pk = some row'
    ∧ (∃ order : List MadeTurn, order.Perm s.made
        ∧ row'.transcript = row.transcript ++ order.flatMap MadeTurn.messages)
    ∧ row'.tokensUsed = row.tokensUsed + (s.made.map MadeTurn.tokensUsed).sum
    ∧ row'.ttsCharacters = row.ttsCharacters + (s.made.map MadeTurn.ttsChars).sum

/-- A save finds the row's transcript and counters as its turn loaded them, and the
new values fit their columns. -/
def FreshTurn (pk : Uuid) (s : SessionTraffic py) : TurnStep py → Prop
  | .save k r nowTs => ∀ t ∈ s.turns[k]?, ∀ row ∈ s.world.db.voiceSessions.find? pk,
      (t.copy.transcript = row.transcript ∧ t.copy.tokensUsed = row.tokensUsed
          ∧ t.copy.ttsCharacters = row.ttsCharacters)
        ∧ ((t.columns r nowTs).write row).InRange
  | .load _ _ => True
  | .finish _ _ => True

instance (pk : Uuid) (s : SessionTraffic py) : ∀ i, Decidable (FreshTurn pk s i)
  | .save k _ _ =>
      inferInstanceAs (Decidable (∀ t ∈ s.turns[k]?,
        ∀ row ∈ s.world.db.voiceSessions.find? pk, (_ ∧ _ ∧ _) ∧ _))
  | .load _ _ => inferInstanceAs (Decidable True)
  | .finish _ _ => inferInstanceAs (Decidable True)

/-- The turn that the `k`-th save makes. -/
def madeBy (t : TurnCall) (r : VoiceAgentResponse py) (nowTs : Text) : MadeTurn :=
  ⟨t.content, r.text, nowTs, r.tokensUsed, r.ttsChars⟩

/-- The account as a shared value. -/
def storedAccount (pk : Uuid) (db : Db) : Account :=
  ((sessionColumns pk db).map Prod.snd).getD ⟨[], 0, 0⟩

def turnView (pk : Uuid) (s : SessionTraffic py) : Shared Account MadeTurn where
  value := storedAccount pk s.world.db
  copies := s.turns.map fun t => accountOf t.copy
  made := s.made

/-- What a step does to it. -/
def turnAccess (pk : Uuid) (s : SessionTraffic py) : TurnStep py → Access MadeTurn
  | .load caller req =>
    match readTurn s.world.db caller pk req with
    | .error _ => .idle
    | .ok _ => .load
  | .save k r nowTs =>
    match s.turns[k]? with
    | none => .idle
    | some t => .save k (madeBy t r nowTs)
  | .finish _ _ => .idle

/-- The session is there, and the copies are copies of it. -/
def Loaded (pk : Uuid) (s : SessionTraffic py) : Prop :=
  (∃ row, s.world.db.voiceSessions.find? pk = some row) ∧ CopiesOf pk s

theorem storedAccount_row {pk : Uuid} {db : Db} {row : VoiceSession}
    (hrow : db.voiceSessions.find? pk = some row) : storedAccount pk db = accountOf row := by
  unfold storedAccount
  rw [sessionColumns_row hrow]
  rfl

theorem storedAccount_congr {pk : Uuid} {db db' : Db}
    (h : sessionColumns pk db' = sessionColumns pk db) :
    storedAccount pk db' = storedAccount pk db := by
  unfold storedAccount
  rw [h]

theorem exists_row_congr {pk : Uuid} {db db' : Db}
    (h : sessionColumns pk db' = sessionColumns pk db)
    (hrow : ∃ row, db.voiceSessions.find? pk = some row) :
    ∃ row, db'.voiceSessions.find? pk = some row := by
  obtain ⟨row, hrow⟩ := hrow
  rw [sessionColumns_row hrow] at h
  obtain ⟨row', hrow', _⟩ := Option.map_eq_some_iff.mp h
  exact ⟨row', hrow'⟩

/-- The columns of a row are in range when its account fits and its duration does. -/
theorem inRange_iff_fits (row : VoiceSession) :
    row.InRange ↔ (accountOf row).Fits ∧ row.durationSeconds ≤ maxInteger := by
  unfold VoiceSession.InRange Account.Fits accountOf
  simp only [and_assoc]

/-- A turn's new values are in range exactly when its new account fits. -/
theorem inRange_columns_iff {row : VoiceSession} (hrange : row.InRange) (t : TurnCall)
    (r : VoiceAgentResponse py) (nowTs : Text) :
    ((t.columns r nowTs).write row).InRange
      ↔ ((accountOf t.copy).add (madeBy t r nowTs)).Fits := by
  have hduration := ((inRange_iff_fits row).mp hrange).2
  rw [inRange_iff_fits]
  exact ⟨fun h => h.1, fun h => ⟨h, hduration⟩⟩

/-- **The save of a turn** puts its account over the stored one. -/
theorem sessionColumns_saveTurn {pk : Uuid} {db : Db} {row : VoiceSession} (t : TurnCall)
    (hid : t.copy.id = pk) (hrow : db.voiceSessions.find? pk = some row)
    (r : VoiceAgentResponse py) (nowTs : Text) :
    sessionColumns pk ((saveTurn db t.copy t.content r nowTs).getD db)
      = some (row.status,
          (Account.save (madeBy t r nowTs) (accountOf t.copy)).getD (accountOf row)) := by
  have hiff := inRange_columns_iff (inRange_of_find? hrow) t r nowTs
  rw [saveTurn_eq hid, sessionColumns_save hrow]
  unfold Account.save
  by_cases hfits : ((accountOf t.copy).add (madeBy t r nowTs)).Fits
  · rw [if_pos (hiff.mpr hfits), if_pos hfits]
    rfl
  · rw [if_neg fun h => hfits (hiff.mp h), if_neg hfits]
    rfl

/-- The save is accepted exactly when the new account fits. -/
theorem saveTurn_isSome_iff {pk : Uuid} {db : Db} {row : VoiceSession} (t : TurnCall)
    (hid : t.copy.id = pk) (hrow : db.voiceSessions.find? pk = some row)
    (r : VoiceAgentResponse py) (nowTs : Text) :
    (saveTurn db t.copy t.content r nowTs).isSome
      ↔ ((accountOf t.copy).add (madeBy t r nowTs)).Fits := by
  rw [← inRange_columns_iff (inRange_of_find? hrow), saveTurn_eq hid]
  exact Db.saveSession_isSome_iff hrow

theorem sessionColumns_reply {pk : Uuid} {s : SessionTraffic py} {k : Nat} {t : TurnCall}
    {row : VoiceSession} (hcopies : CopiesOf pk s) (ht : s.turns[k]? = some t)
    (hrow : s.world.db.voiceSessions.find? pk = some row) (r : VoiceAgentResponse py)
    (nowTs : Text) :
    sessionColumns pk (sessionStep pk s (.reply k r nowTs)).world.db
      = some (row.status,
          (Account.save (madeBy t r nowTs) (accountOf t.copy)).getD (accountOf row)) := by
  rw [db_reply r nowTs ht]
  exact sessionColumns_saveTurn t (hcopies.1 t (List.mem_of_getElem? ht)) hrow r nowTs

theorem made_reply (pk : Uuid) {s : SessionTraffic py} {k : Nat} {t : TurnCall}
    (ht : s.turns[k]? = some t) (r : VoiceAgentResponse py) (nowTs : Text) :
    (sessionStep pk s (.reply k r nowTs)).made = s.made ++ [madeBy t r nowTs]
      ∧ (sessionStep pk s (.reply k r nowTs)).turns = s.turns.eraseIdx k := by
  simp only [sessionStep, ht]
  cases saveTurn s.world.db t.copy t.content r nowTs with
  | none => exact ⟨rfl, rfl⟩
  | some db => exact ⟨rfl, rfl⟩

/-- **A turn is a read-modify-write of the account.** -/
theorem turnView_step (pk : Uuid) (s : SessionTraffic py) (i : TurnStep py) (h : Loaded pk s) :
    turnView pk (turnStep pk s i)
      = accessStep Account.save (turnView pk s) (turnAccess pk s i) := by
  obtain ⟨hrow, hcopies⟩ := h
  obtain ⟨row, hrow⟩ := hrow
  cases i with
  | load caller req =>
      unfold turnStep TurnStep.asSession sessionStep turnAccess
      simp only
      cases hread : readTurn s.world.db caller pk req with
      | error answer => rfl
      | ok t =>
          obtain ⟨user, copy, content⟩ := t
          have hfind := (readTurn_ok hread).1
          simp only [accessStep, turnView, List.map_append, List.map_cons, List.map_nil,
            storedAccount_row hfind]
  | save k r nowTs =>
      unfold turnStep TurnStep.asSession turnAccess
      simp only
      cases ht : s.turns[k]? with
      | none =>
          rw [sessionStep_reply_none r nowTs ht]
          rfl
      | some t =>
          have hcopy : (turnView pk s).copies[k]? = some (accountOf t.copy) := by
            simp only [turnView, List.getElem?_map, ht, Option.map_some]
          have hcolumns := sessionColumns_reply hcopies ht hrow r nowTs
          obtain ⟨hmade, hturns⟩ := made_reply pk ht r nowTs
          -- the save writes the copy's account, whatever is stored by now
          rw [accessStep_save_some _ hcopy]
          unfold turnView
          simp only [hmade, hturns, List.eraseIdx_map, storedAccount_row hrow]
          unfold storedAccount
          rw [hcolumns]
          rfl
  | finish k fresh =>
      unfold turnStep TurnStep.asSession sessionStep
      simp only
      cases s.requests[k]? with
      | none => rfl
      | some c =>
          have hcolumns := sessionColumns_finishTurn pk s.world c.user c.copy c.reply fresh
          simp only [turnView, turnAccess, accessStep, storedAccount_congr hcolumns]

theorem loaded_step (pk : Uuid) (s : SessionTraffic py) (i : TurnStep py) (h : Loaded pk s) :
    Loaded pk (turnStep pk s i) := by
  obtain ⟨hrow, hcopies⟩ := h
  refine ⟨?_, copiesOf_step pk s i.asSession hcopies⟩
  cases i with
  | load caller req =>
      unfold turnStep TurnStep.asSession sessionStep
      simp only
      split
      · exact hrow
      · exact hrow
  | save k r nowTs =>
      unfold turnStep TurnStep.asSession
      cases ht : s.turns[k]? with
      | none =>
          simp only [sessionStep_reply_none r nowTs ht]
          exact hrow
      | some t =>
          obtain ⟨row, hrow⟩ := hrow
          have hcolumns := sessionColumns_reply hcopies ht hrow r nowTs
          obtain ⟨row', hrow', _⟩ := Option.map_eq_some_iff.mp hcolumns
          exact ⟨row', hrow'⟩
  | finish k fresh =>
      unfold turnStep TurnStep.asSession sessionStep
      simp only
      split
      · exact hrow
      next c hc =>
        exact exists_row_congr (sessionColumns_finishTurn pk s.world c.user c.copy c.reply fresh)
          hrow

/-- The condition on a step, through the view. -/
theorem freshTurn_iff {pk : Uuid} {s : SessionTraffic py} (h : Loaded pk s) (i : TurnStep py) :
    FreshTurn pk s i ↔ FreshSave Account.save (turnView pk s) (turnAccess pk s i) := by
  obtain ⟨hrow, hcopies⟩ := h
  obtain ⟨row, hrow⟩ := hrow
  cases i with
  | load caller req =>
      unfold turnAccess
      simp only
      split
      · exact Iff.rfl
      · exact Iff.rfl
  | save k r nowTs =>
      unfold turnAccess
      simp only [FreshTurn]
      cases ht : s.turns[k]? with
      | none => simp [FreshSave]
      | some t =>
          have hcopy : (turnView pk s).copies[k]? = some (accountOf t.copy) := by
            simp only [turnView, List.getElem?_map, ht, Option.map_some]
          have hvalue : (turnView pk s).value = accountOf row := storedAccount_row hrow
          have hsome : (Account.save (madeBy t r nowTs) (accountOf t.copy)).isSome
              ↔ ((accountOf t.copy).add (madeBy t r nowTs)).Fits := by
            unfold Account.save
            split
            next h => simp [h]
            next h => simp [h]
          have hequal : (t.copy.transcript = row.transcript ∧ t.copy.tokensUsed = row.tokensUsed
              ∧ t.copy.ttsCharacters = row.ttsCharacters) ↔ accountOf t.copy = accountOf row := by
            simp only [accountOf, Account.mk.injEq]
          have hrange := inRange_columns_iff (inRange_of_find? hrow) t r nowTs
          simp only [FreshSave, hcopy, hvalue, hrow, Option.some.injEq, forall_eq', hsome]
          constructor
          · intro h
            obtain ⟨hsame, hfits⟩ := h t rfl row rfl
            exact ⟨hequal.mp hsame, hrange.mp hfits⟩
          · intro h t' ht' row' hrow'
            injection ht' with ht'
            injection hrow' with hrow'
            subst ht' hrow'
            exact ⟨hequal.mpr h.1, hrange.mpr h.2⟩
  | finish k fresh => exact Iff.rfl

/-- Turns applied one after the other. -/
theorem foldlM_save {made : List MadeTurn} {a a' : Account}
    (h : made.foldlM (fun a m => Account.save m a) a = some a') :
    a'.transcript = a.transcript ++ made.flatMap MadeTurn.messages
      ∧ a'.tokensUsed = a.tokensUsed + (made.map MadeTurn.tokensUsed).sum
      ∧ a'.ttsCharacters = a.ttsCharacters + (made.map MadeTurn.ttsChars).sum := by
  induction made generalizing a with
  | nil =>
      injection h with h
      rw [h]
      simp
  | cons m made ih =>
      rw [List.foldlM_cons] at h
      obtain ⟨b, hb, h⟩ := Option.bind_eq_some_iff.mp h
      obtain ⟨htranscript, htokens, htts⟩ := ih h
      unfold Account.save at hb
      split at hb
      · injection hb with hb
        subst hb
        unfold Account.add at htranscript htokens htts
        refine ⟨?_, ?_, ?_⟩
        · rw [htranscript, List.flatMap_cons, List.append_assoc]
        · rw [htokens, List.map_cons, List.sum_cons, Nat.add_assoc]
        · rw [htts, List.map_cons, List.sum_cons, Nat.add_assoc]
      · exact absurd hb (by simp)

/-- A turn makes the transcript two messages longer. -/
theorem length_save (m : MadeTurn) (a a' : Account) (h : Account.save m a = some a') :
    a'.transcript.length = a.transcript.length + 2 := by
  unfold Account.save at h
  split at h
  · injection h with h
    rw [← h]
    unfold Account.add MadeTurn.messages turnMessages
    simp
  · exact absurd h (by simp)

theorem length_flatMap_messages (made : List MadeTurn) :
    (made.flatMap MadeTurn.messages).length = 2 * made.length := by
  induction made with
  | nil => rfl
  | cons m made ih =>
      rw [List.flatMap_cons, List.length_append, ih, List.length_cons]
      unfold MadeTurn.messages turnMessages
      simp only [List.length_cons, List.length_nil]
      omega

/-- A session with nothing in flight is loaded by nobody. -/
theorem loaded_quiet {pk : Uuid} {w : World} {row : VoiceSession}
    (hrow : w.db.voiceSessions.find? pk = some row) :
    Loaded pk (.quiet w : SessionTraffic py) :=
  ⟨⟨row, hrow⟩, fun t ht => absurd ht (by simp [SessionTraffic.quiet]),
    fun c hc => absurd hc (by simp [SessionTraffic.quiet])⟩

theorem turnView_quiet {pk : Uuid} {w : World} {row : VoiceSession}
    (hrow : w.db.voiceSessions.find? pk = some row) :
    turnView pk (.quiet w : SessionTraffic py) = ⟨accountOf row, [], []⟩ := by
  unfold turnView SessionTraffic.quiet
  simp only [storedAccount_row hrow, List.map_nil]

/-- The accesses that a run of turns makes to the account. -/
def turnAccesses (pk : Uuid) (w : World) (is : List (TurnStep py)) : List (Access MadeTurn) :=
  mapInputs (turnStep pk) (turnAccess pk) (.quiet w) is

/-- Every save of the run is fresh exactly when every save of the account is. -/
theorem freshTurns_iff {pk : Uuid} {w : World} {row : VoiceSession}
    (hrow : w.db.voiceSessions.find? pk = some row) (is : List (TurnStep py)) :
    AllSteps (turnStep pk) (FreshTurn pk) (.quiet w) is
      ↔ AllSteps (accessStep Account.save) (FreshSave Account.save) ⟨accountOf row, [], []⟩
          (turnAccesses pk w is) := by
  have hquiet : Loaded pk (.quiet w : SessionTraffic py) := loaded_quiet hrow
  have hsteps := allSteps_view_iff (Q := FreshSave Account.save) (loaded_step pk)
    (turnView_step pk) hquiet is
  rw [turnView_quiet hrow] at hsteps
  rw [allSteps_congr (loaded_step pk) (fun s i h => freshTurn_iff h i) hquiet is]
  exact hsteps

/-- The row and the turns at the end of a run, read off the account's own run. -/
theorem account_run {pk : Uuid} {w : World} {row : VoiceSession}
    (hrow : w.db.voiceSessions.find? pk = some row) (is : List (TurnStep py)) :
    ∃ row', (run (turnStep pk) (.quiet w) is).world.db.voiceSessions.find? pk = some row'
      ∧ accountOf row'
        = (run (accessStep Account.save) ⟨accountOf row, [], []⟩ (turnAccesses pk w is)).value
      ∧ (run (turnStep pk) (.quiet w) is).made
        = (run (accessStep Account.save) ⟨accountOf row, [], []⟩ (turnAccesses pk w is)).made := by
  have hquiet : Loaded pk (.quiet w : SessionTraffic py) := loaded_quiet hrow
  have hlast : Loaded pk (run (turnStep pk) (.quiet w) is) :=
    (allStates_of_step (loaded_step pk) hquiet is).last
  obtain ⟨row', hrow'⟩ := hlast.1
  have hrun := view_run (loaded_step pk) (turnView_step pk) hquiet is
  rw [turnView_quiet hrow] at hrun
  have hvalue := congrArg Shared.value hrun
  have hmade := congrArg Shared.made hrun
  simp only [turnView, storedAccount_row hrow'] at hvalue hmade
  exact ⟨row', hrow', hvalue, hmade⟩

/-- **No lost turns, exactly.**  In a run of turns whose agent calls all succeed, no
turn is lost if and only if every save finds the row's transcript and counters as
its turn loaded them, and fits. -/
theorem turnsKept_iff_fresh (pk : Uuid) (w : World) (row : VoiceSession)
    (hrow : w.db.voiceSessions.find? pk = some row) (is : List (TurnStep py)) :
    TurnsKept pk row (run (turnStep pk) (.quiet w) is)
      ↔ AllSteps (turnStep pk) (FreshTurn pk) (.quiet w) is := by
  obtain ⟨row', hrow', hvalue, hmade⟩ := account_run hrow is
  rw [freshTurns_iff hrow is]
  constructor
  · -- every turn makes the transcript two messages longer, so none can be missing
    intro hkept
    obtain ⟨row'', hrow'', ⟨order, hperm, htranscript⟩, _, _⟩ := hkept
    rw [hrow'] at hrow''
    injection hrow'' with hrow''
    subst hrow''
    refine (@noneLost_iff_fresh Account MadeTurn Account.save (fun a => a.transcript.length) 2
      (by omega) length_save (accountOf row) _).mp ?_
    rw [← hvalue, ← hmade, ← hperm.length_eq, ← length_flatMap_messages order]
    show row'.transcript.length = _
    rw [htranscript, List.length_append]
    rfl
  · -- fresh saves apply the turns in the order in which they were saved
    intro hfresh
    have hcomposed := composed_of_fresh (accountOf row) _ hfresh
    unfold Composed at hcomposed
    rw [← hvalue, ← hmade] at hcomposed
    obtain ⟨htranscript, htokens, htts⟩ := foldlM_save hcomposed
    exact ⟨row', hrow', ⟨_, List.Perm.refl _, htranscript⟩, htokens, htts⟩

/-- Two turns of the demo guest, one after the other. -/
def demoTurns : List (TurnStep plainPython) :=
  [.load (.token 1) { text := some (txt "hi"), audio := none },
    .save 0 (demoReply "yes") (txt "now"),
    .load (.token 1) { text := some (txt "more"), audio := none },
    .save 0 (demoReply "sure") (txt "later")]

theorem turnsKept_in_sequence :
    demoCall.db.voiceSessions.find? 5 = some demoSession
      ∧ TurnsKept 5 demoSession (run (turnStep 5) (.quiet demoCall) demoTurns) :=
  ⟨by decide, (turnsKept_iff_fresh 5 demoCall demoSession (by decide) demoTurns).mpr
    (by decide +kernel)⟩

/-- Two turns that both load the empty transcript. -/
def overlappingTurns : List (TurnStep plainPython) :=
  [.load (.token 1) { text := some (txt "hi"), audio := none },
    .load (.token 1) { text := some (txt "more"), audio := none },
    .save 0 (demoReply "yes") (txt "now"),
    .save 0 (demoReply "sure") (txt "later")]

/-- The second save drops the pair and the tokens of the first. -/
theorem overlapping_turn_is_lost :
    ¬ ∀ (py : Python) (pk : Uuid) (w : World) (row : VoiceSession)
      (_ : w.db.voiceSessions.find? pk = some row) (_ : row.status = .active)
      (is : List (TurnStep py)),
      (run (turnStep pk) (.quiet w) is).turns = [] →
        TurnsKept pk row (run (turnStep pk) (.quiet w) is) := by
  intro h
  obtain ⟨row, hrow, _, htokens, _⟩ :=
    h plainPython 5 demoCall demoSession (by decide) rfl overlappingTurns (by decide +kernel)
  have hstored : ((run (turnStep 5) (.quiet demoCall) overlappingTurns).world.db.voiceSessions.find?
      5).map (·.tokensUsed) = some 5 := by decide +kernel
  have hmade : ((run (turnStep 5) (.quiet demoCall) overlappingTurns).made.map
      MadeTurn.tokensUsed).sum = 10 := by decide +kernel
  simp only [hrow, Option.map_some, Option.some.injEq] at hstored
  rw [hmade] at htokens
  have hstart : demoSession.tokensUsed = 0 := rfl
  omega

end HotelAgent
