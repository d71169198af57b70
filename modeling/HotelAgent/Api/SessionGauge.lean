/-
  HotelAgent.Api.SessionGauge — the gauge `ACTIVE_VOICE_SESSIONS` of one process.

  The gauge goes up in `create`, behind the INSERT, and in `connect`, behind
  `accept`; it goes down in `end_session`, behind the save, and in `disconnect`.
  A session or a socket that is left on another way is not counted down, and a
  connection that `connect` closes itself is counted down without having been
  counted up:

      a turn that fails, a DELETE, the clean-up task     −1 session,  gauge unchanged
      the disconnect of a rejected connection            no socket,   gauge −1

  Main result, `gaugeExact_iff`: along a run the gauge is the number of ACTIVE
  rows and open sockets exactly when the run takes none of these ways.
-/
import HotelAgent.Api.Replicas
import HotelAgent.Api.SessionRaces
import HotelAgent.Api.Sockets

namespace HotelAgent

open Lib

variable {py : Python}

/-! ## §1. The gauge. -/

/-- What a write to voice sessions adds to the gauge. -/
def VoiceWrite.gauge (F : Filters) (db : Db) (caller : Caller) (user : Option User)
    (query : Query) : VoiceWrite py → Int
  | .create body fresh =>
    match user, body.read with
    | some _, .ok none => if (openedSession db caller none fresh).isSome then 1 else 0
    | some _, .ok (some (some id)) =>
      if (openedSession db caller (some id) fresh).isSome then 1 else 0
    | _, _ => 0
  | .update _ => 0
  | .destroy _ => 0
  | .turn _ _ _ _ _ => 0
  | .finish pk fresh =>
    match user.map fun user => sessionObject F query db user pk with
    | some (.ok s) => if (endedSession db caller s.id fresh.now).isSome then -1 else 0
    | _ => 0

/-- A process: its database, its sockets and what its views have made of the gauge. -/
structure GaugeState where
  world : World
  sockets : Sockets
  views : Int

/-- `ACTIVE_VOICE_SESSIONS`. -/
def GaugeState.activeVoiceSessions (s : GaugeState) : Int := s.views + s.sockets.activeVoiceSessions

inductive GaugeStep (py : Python) where
  | voice (cred : Credentials) (query : Query) (write : VoiceWrite py)
  /-- A run of `cleanup_expired_sessions`. -/
  | cleanup (now : Instant)
  | socket (event : SocketEvent)

def gaugeStep (F : Filters) (s : GaugeState) : GaugeStep py → GaugeState
  | .voice cred query write =>
    match cred.user s.world.db with
    | .error _ => s
    | .ok user => { s with
        world := write.handle F s.world cred.caller user query
        views := s.views + write.gauge F s.world.db cred.caller user query }
  | .cleanup now => { s with world := { s.world with db := cleanupExpiredSessions s.world.db now } }
  | .socket event => { s with sockets := socketStep s.sockets event }

/-- The number of rows with status ACTIVE. -/
def activeSessions (db : Db) : Nat := db.voiceSessions.count fun s => decide (s.status = .active)

/-- The number of accepted sockets that are still open. -/
def Sockets.openSockets (s : Sockets) : Nat := s.consumers.countP fun c => decide (c.status = .opened)

/-- **The gauge is exact**, and so not negative. -/
structure GaugeExact (s : GaugeState) : Prop where
  exact : s.activeVoiceSessions = activeSessions s.world.db + s.sockets.openSockets
  nonneg : 0 ≤ s.activeVoiceSessions

theorem gaugeExact_iff_eq (s : GaugeState) :
    GaugeExact s ↔ s.activeVoiceSessions = activeSessions s.world.db + s.sockets.openSockets := by
  constructor
  · exact GaugeExact.exact
  · intro h
    refine ⟨h, ?_⟩
    omega

/-- The write takes a session out of ACTIVE without counting it down: a DELETE of an
ACTIVE session, or a turn in one that comes to the agent and fails there. -/
def VoiceWrite.Drops (F : Filters) (db : Db) (caller : Caller) (user : Option User)
    (query : Query) : VoiceWrite py → Prop
  | .destroy pk => ∃ u s, user = some u ∧ sessionObject F query db u pk = .ok s ∧ s.status = .active
  | .turn pk body optionErrors .raises _ => optionErrors = [] ∧ ∃ u s data t,
      user = some u ∧ sessionObject F query db u pk = .ok s ∧ body.read = .ok data
        ∧ readTurn db caller s.id data = .ok t
  | _ => False

/-- The condition on one step. -/
def KeepsGauge (F : Filters) (s : GaugeState) : GaugeStep py → Prop
  | .voice cred query write => ∀ user, cred.user s.world.db = .ok user →
      ¬ write.Drops F s.world.db cred.caller user query
  | .cleanup now => ∀ x ∈ s.world.db.voiceSessions, expired now x = false
  | .socket (.disconnect channel) => ∀ c, s.sockets.consumers[channel]? = some c →
      c.status ≠ .rejected
  | .socket _ => True

/-! ## §2. Rows with status ACTIVE. -/

theorem activeSessions_of_voiceSessions {db db' : Db} (h : db'.voiceSessions = db.voiceSessions) :
    activeSessions db' = activeSessions db := by
  unfold activeSessions
  rw [h]

/-- A save of other columns. -/
theorem activeSessions_saveSession {db db' : Db} {id : Uuid} {w : SessionWrite}
    (hw : ∀ row, (w.write row).status = row.status) (h : db.saveSession id w = some db') :
    activeSessions db' = activeSessions db := by
  unfold Db.saveSession at h
  split at h
  · obtain ⟨_, hsessions, _⟩ := Db.updateSessions_eq_some h
    unfold activeSessions
    rw [hsessions]
    exact Table.count_updateWhere fun row _ _ => by rw [hw]
  · exact absurd h (by simp)

/-- A save that ends an ACTIVE session. -/
theorem activeSessions_end {db db' : Db} {id : Uuid} {w : SessionWrite} {row : VoiceSession}
    (hrow : db.voiceSessions.find? id = some row) (hactive : row.status = .active)
    (hw : (w.write row).status ≠ .active) (h : db.saveSession id w = some db') :
    activeSessions db' + 1 = activeSessions db := by
  unfold Db.saveSession at h
  split at h
  · obtain ⟨_, hsessions, _⟩ := Db.updateSessions_eq_some h
    have hcount := @Table.count_update_row _ _ VoiceSession.id _ db.voiceSessions
      (fun s => decide (s.status = .active)) w.write w.id_eq id row hrow
    simp only [hactive, hw, decide_true, decide_false, if_true, Bool.false_eq_true, if_false]
      at hcount
    unfold activeSessions
    rw [hsessions]
    exact hcount
  · exact absurd h (by simp)

theorem activeSessions_insertSession {db db' : Db} {row : VoiceSession}
    (hactive : row.status = .active) (h : db.insertSession row = some db') :
    activeSessions db' = activeSessions db + 1 := by
  obtain ⟨_, hnew, hrows, _⟩ := Db.insertSession_eq_some h
  have hinsert : db.voiceSessions.insert? row = some db'.voiceSessions :=
    Table.insert?_eq_some_iff.mpr ⟨hnew, hrows⟩
  unfold activeSessions
  rw [Table.count_insert? hinsert, hactive]
  rfl

theorem activeSessions_deleteSession {db : Db} {id : Uuid} {row : VoiceSession}
    (hrow : db.voiceSessions.find? id = some row) :
    activeSessions (db.deleteSession id) + (if row.status = .active then 1 else 0)
      = activeSessions db := by
  have hcount := Table.count_erase (p := fun s : VoiceSession => decide (s.status = .active)) hrow
  simp only [decide_eq_true_eq] at hcount
  exact hcount

/-- The clean-up ends what has expired. -/
theorem activeSessions_cleanup (db : Db) (now : Instant) :
    activeSessions (cleanupExpiredSessions db now) + db.voiceSessions.count (expired now)
      = activeSessions db := by
  obtain ⟨_, hsessions, _⟩ := Db.updateSessions_eq_some (cleanupExpiredSessions_eq db now)
  unfold activeSessions
  rw [hsessions]
  refine Table.count_updateWhere_out fun row _ hexpired => ?_
  unfold expired at hexpired
  rw [Bool.and_eq_true] at hexpired
  exact ⟨hexpired.1, rfl⟩

/-! ## §3. The views. -/

/-- Opening a session. -/
theorem activeSessions_createSession (w : World) (caller : Caller) (bookingId : Option Uuid)
    (fresh : SessionFresh) :
    activeSessions (createSession py w caller bookingId fresh).1.db
      = activeSessions w.db
        + if (openedSession w.db caller bookingId fresh).isSome then 1 else 0 := by
  unfold createSession openedSession
  cases requireUser w.db caller with
  | error answer => rfl
  | ok user =>
      simp only
      by_cases hrefused : bookingId.isSome ∧ bookingId.bind (checkedInBooking w.db user) = none
      · simp only [if_pos hrefused]
        rfl
      · simp only [if_neg hrefused]
        cases hins : w.db.insertSession (newSession user
            ((bookingId.bind (checkedInBooking w.db user)).map (·.id)) fresh) with
        | none => rfl
        | some db =>
            have hone := activeSessions_insertSession rfl hins
            simp only [Option.isSome_some, if_true]
            -- the row stays when the publish raises
            split
            · exact hone
            · exact hone

/-- Ending one. -/
theorem activeSessions_endSession (w : World) (caller : Caller) (pk : Uuid) (fresh : SessionFresh) :
    (activeSessions (endSession py w caller pk fresh).1.db : Int)
      = activeSessions w.db
        + if (endedSession w.db caller pk fresh.now).isSome then -1 else 0 := by
  unfold endSession endedSession
  cases hread : readEnd w.db caller pk with
  | error answer => simp
  | ok s =>
      obtain ⟨_, hactive⟩ := readEnd_ok hread
      rcases Option.eq_none_or_eq_some (saveEnd w.db s fresh.now) with hsave | ⟨db, hsave⟩
      · simp [hsave]
      · have hless : activeSessions db + 1 = activeSessions w.db :=
          activeSessions_end (find?_of_readEnd hread) hactive (by simp [SessionWrite.complete])
            hsave
        simp only [hsave, Option.isSome_some, if_true, db_finishEnd]
        omega

/-- The atomic block of a turn opens and ends no session. -/
theorem activeSessions_finishTurn (w : World) (user : User) (s : VoiceSession)
    (r : VoiceAgentResponse py) (fresh : SessionFresh) :
    activeSessions (finishTurn w user s r fresh).1.db = activeSessions w.db := by
  have hcreate : ∀ d : RequestDraft,
      activeSessions (createRequest py w d fresh).1.db = activeSessions w.db := by
    intro d
    unfold createRequest
    split
    · rfl
    next row hdraft =>
      split
      · rfl
      next db hins =>
        split
        · rfl
        · split
          · rfl
          next db' hadd =>
            split
            · rfl
            · -- the relation is no column of the session
              rw [activeSessions_saveSession (fun row => rfl) hadd]
              exact activeSessions_of_voiceSessions (Db.voiceSessions_insertServiceRequest hins)
  unfold finishTurn
  split
  · rfl
  next d hd =>
    have h := hcreate d
    split
    next w' heq =>
      rw [heq] at h
      exact h
    next w' row heq =>
      rw [heq] at h
      exact h

/-- A turn ends its session only when the agent fails. -/
theorem activeSessions_processTurn_replies (w : World) (caller : Caller) (pk : Uuid)
    (req : TurnRequest) (r : VoiceAgentResponse py) (fresh : SessionFresh) :
    activeSessions (processTurn w caller pk req (.replies r) fresh).1.db = activeSessions w.db := by
  unfold processTurn
  cases readTurn w.db caller pk req with
  | error answer => rfl
  | ok t =>
      obtain ⟨user, s, content⟩ := t
      simp only
      cases hsave : saveTurn w.db s content r fresh.nowTs with
      | none => rfl
      | some db =>
          simp only [activeSessions_finishTurn]
          exact activeSessions_saveSession (fun row => rfl) hsave

theorem activeSessions_processTurn_raises (w : World) (caller : Caller) (pk : Uuid)
    (req : TurnRequest) (fresh : SessionFresh) {t : User × VoiceSession × Text}
    (hread : readTurn w.db caller pk req = .ok t) :
    activeSessions (processTurn w caller pk req (.raises : AgentOutcome py) fresh).1.db + 1
      = activeSessions w.db := by
  obtain ⟨user, s, content⟩ := t
  obtain ⟨_, hactive⟩ := readTurn_ok hread
  obtain ⟨db, hsave⟩ := failTurn_eq_some hread
  unfold processTurn
  simp only [hread, hsave]
  exact activeSessions_end (find?_of_readTurn hread) hactive (by simp [SessionWrite.fail]) hsave

section
variable {F : Filters} {w : World} {caller : Caller} {user : Option User} {query : Query}

attribute [local simp] VoiceWrite.handle VoiceWrite.gauge VoiceWrite.Drops

/-- A DELETE is not counted down. -/
theorem activeSessions_destroy_iff (pk : Option Uuid) :
    (activeSessions ((VoiceWrite.destroy pk : VoiceWrite py).handle F w caller user query).db : Int)
        = activeSessions w.db + (VoiceWrite.destroy pk : VoiceWrite py).gauge F w.db caller user query
      ↔ ¬ (VoiceWrite.destroy pk : VoiceWrite py).Drops F w.db caller user query := by
  cases user with
  | none => simp [VoiceWrite.handle, VoiceWrite.gauge, VoiceWrite.Drops]
  | some user =>
      simp only [VoiceWrite.handle, VoiceWrite.gauge, VoiceWrite.Drops, Option.map_some]
      cases hobject : sessionObject F query w.db user pk with
      | error response => simp [hobject]
      | ok s =>
          obtain ⟨row, hrow, hcolumns, _, _⟩ := sessionObject_ok hobject
          have hstatus : row.status = s.status := by
            rw [← hcolumns]
            rfl
          have hcount := activeSessions_deleteSession hrow
          rw [hstatus] at hcount
          simp only
          by_cases hactive : s.status = .active
          · rw [if_pos hactive] at hcount
            refine iff_of_false (by omega) fun hnot => hnot ⟨user, s, rfl, hobject, hactive⟩
          · rw [if_neg hactive] at hcount
            refine iff_of_true (by omega) ?_
            rintro ⟨u, x, hu, hx, hx'⟩
            injection hu with hu
            subst hu
            rw [hobject] at hx
            injection hx with hx
            exact hactive (hx ▸ hx')

/-- A turn moves the gauge nowhere, and its session with it unless it fails. -/
theorem activeSessions_turn_iff (pk : Option Uuid) (body : Body TurnRequest)
    (optionErrors : List (Text × Text)) (agent : AgentOutcome py) (fresh : SessionFresh) :
    (activeSessions ((VoiceWrite.turn pk body optionErrors agent fresh).handle F w caller user
          query).db : Int)
        = activeSessions w.db
          + (VoiceWrite.turn pk body optionErrors agent fresh).gauge F w.db caller user query
      ↔ ¬ (VoiceWrite.turn pk body optionErrors agent fresh).Drops F w.db caller user query := by
  cases agent with
  | replies r =>
      refine iff_of_true ?_ fun h => h
      simp only [VoiceWrite.handle, VoiceWrite.gauge]
      split
      · split
        · omega
        · split
          · omega
          · rw [activeSessions_processTurn_replies]
            omega
      · omega
  | raises =>
      -- the turn drops its session exactly when it is read
      cases user with
      | none => simp [VoiceWrite.handle, VoiceWrite.gauge, VoiceWrite.Drops]
      | some user =>
          simp only [VoiceWrite.handle, VoiceWrite.gauge, VoiceWrite.Drops, Option.map_some]
          cases hobject : sessionObject F query w.db user pk with
          | error response => simp [hobject]
          | ok s =>
              simp only
              cases hbody : body.read with
              | error response => simp
              | ok data =>
                  simp only
                  by_cases herrors : optionErrors = []
                  · simp only [herrors, ne_eq, not_true_eq_false, if_false]
                    cases hread : readTurn w.db caller s.id data with
                    | error answer =>
                        have hsame : processTurn w caller s.id data (.raises : AgentOutcome py) fresh
                            = (w, answer) := by
                          unfold processTurn
                          simp only [hread]
                        rw [hsame]
                        refine iff_of_true (by simp) ?_
                        rintro ⟨_, u, x, d, t, hu, hx, hd, ht⟩
                        injection hu with hu
                        subst hu
                        rw [hobject] at hx
                        injection hx with hx
                        injection hd with hd
                        rw [← hx, ← hd, hread] at ht
                        exact absurd ht (by simp)
                    | ok t =>
                        have hless : activeSessions (processTurn w caller s.id data
                              (.raises : AgentOutcome py) fresh).1.db + 1 = activeSessions w.db :=
                          activeSessions_processTurn_raises w caller s.id data fresh hread
                        refine iff_of_false (by omega) fun hnot =>
                          hnot ⟨trivial, user, s, data, t, rfl, hobject, rfl, hread⟩
                  · simp [herrors]

/-- **What a write does to the rows, it does to the gauge**, unless it drops a session. -/
theorem activeSessions_handle_iff (write : VoiceWrite py) :
    (activeSessions (write.handle F w caller user query).db : Int)
        = activeSessions w.db + write.gauge F w.db caller user query
      ↔ ¬ write.Drops F w.db caller user query := by
  cases write with
  | create body fresh =>
      refine iff_of_true ?_ fun h => h
      cases user with
      | none => simp [VoiceWrite.handle, VoiceWrite.gauge]
      | some user =>
          have hcreated : ∀ bookingId,
              (activeSessions (createSession py w caller bookingId fresh).1.db : Int)
                = activeSessions w.db
                  + if (openedSession w.db caller bookingId fresh).isSome then 1 else 0 := by
            intro bookingId
            rw [activeSessions_createSession]
            split
            · omega
            · omega
          simp only [VoiceWrite.handle, VoiceWrite.gauge]
          cases body.read with
          | error response => simp
          | ok bookingId =>
              cases bookingId with
              | none => exact hcreated none
              | some id =>
                  cases id with
                  | none => simp
                  | some id => exact hcreated (some id)
  | update pk =>
      refine iff_of_true ?_ fun h => h
      cases user with
      | none => simp [VoiceWrite.handle, VoiceWrite.gauge]
      | some user =>
          simp only [VoiceWrite.handle, VoiceWrite.gauge, Option.map_some]
          cases hobject : sessionObject F query w.db user pk with
          | error response => simp
          | ok s =>
              obtain ⟨row, hrow, hcolumns, _⟩ := sessionObject_ok hobject
              have hid : row.id = s.id := Table.key_of_find? hrow
              -- the copy writes back what the row has
              have hsave : w.db.saveSession row.id (.rewrite row.columns) = some w.db :=
                saveSession_rewrite (by rw [hid]; exact hrow)
              rw [hcolumns, hid] at hsave
              simp [hsave]
  | destroy pk => exact activeSessions_destroy_iff pk
  | turn pk body optionErrors agent fresh =>
      exact activeSessions_turn_iff pk body optionErrors agent fresh
  | finish pk fresh =>
      refine iff_of_true ?_ fun h => h
      cases user with
      | none => simp [VoiceWrite.handle, VoiceWrite.gauge]
      | some user =>
          simp only [VoiceWrite.handle, VoiceWrite.gauge, Option.map_some]
          cases sessionObject F query w.db user pk with
          | error response => simp
          | ok s => exact activeSessions_endSession w caller s.id fresh

end

/-! ## §4. The sockets. -/

/-- `connect` counts what it accepts. -/
theorem openSockets_connect (s : Sockets) (users : Table User.id)
    (accessToken : Text → TokenReading) (scope : Scope) :
    (s.connect users accessToken scope).1.activeVoiceSessions - s.activeVoiceSessions
      = (s.connect users accessToken scope).1.openSockets - s.openSockets := by
  unfold Sockets.connect Sockets.openSockets
  cases authenticateScope users accessToken scope with
  | raises => simp
  | anonymous => simp
  | user user => simp

/-- `disconnect` counts every connection down, also one that was never accepted. -/
theorem openSockets_disconnect_iff (s : Sockets) (channel : Nat) :
    (s.disconnect channel).activeVoiceSessions - s.activeVoiceSessions
        = (s.disconnect channel).openSockets - s.openSockets
      ↔ ∀ c, s.consumers[channel]? = some c → c.status ≠ .rejected := by
  unfold Sockets.disconnect
  cases hc : s.consumers[channel]? with
  | none => simp
  | some c =>
      obtain ⟨hlt, hget⟩ := List.getElem?_eq_some_iff.mp hc
      simp only [Option.some.injEq, forall_eq']
      by_cases hwaits : c.status = .opened ∨ c.status = .rejected
      · rw [if_pos hwaits]
        have hcount : (s.consumers.set channel { c with status := .disconnected }).countP
              (fun c => decide (c.status = .opened))
            + (if c.status = .opened then 1 else 0)
            = s.consumers.countP fun c => decide (c.status = .opened) := by
          have hone := List.boole_getElem_le_countP
            (p := fun c : VoiceConsumer => decide (c.status = .opened)) hlt
          rw [List.countP_set hlt]
          simp only [hget, decide_eq_true_eq, reduceCtorEq, if_false] at hone ⊢
          omega
        unfold Sockets.openSockets
        simp only
        rcases hwaits with hopened | hrejected
        · rw [if_pos hopened] at hcount
          refine iff_of_true (by omega) (by simp [hopened])
        · rw [if_neg (by simp [hrejected])] at hcount
          refine iff_of_false (by omega) (by simp [hrejected])
      · rw [if_neg hwaits]
        refine iff_of_true (by omega) fun h => hwaits (.inr h)

/-! ## §5. One process. -/

theorem gauge_socket_iff {s : GaugeState} (h : GaugeExact s) {sockets : Sockets} :
    GaugeExact { s with sockets := sockets }
      ↔ sockets.activeVoiceSessions - s.sockets.activeVoiceSessions
          = sockets.openSockets - s.sockets.openSockets := by
  have hexact := h.exact
  unfold GaugeState.activeVoiceSessions at hexact
  rw [gaugeExact_iff_eq]
  unfold GaugeState.activeVoiceSessions
  constructor
  · intro hafter
    simp only at hafter
    omega
  · intro hsame
    simp only
    omega

/-- **One step.** -/
theorem gaugeExact_step_iff (F : Filters) (s : GaugeState) (i : GaugeStep py) (h : GaugeExact s) :
    GaugeExact (gaugeStep F s i) ↔ KeepsGauge F s i := by
  have hexact := h.exact
  unfold GaugeState.activeVoiceSessions at hexact
  cases i with
  | voice cred query write =>
      unfold gaugeStep KeepsGauge
      simp only
      cases hcred : cred.user s.world.db with
      | error response => exact iff_of_true h fun user huser => absurd huser (by simp)
      | ok user =>
          have hwrite : (activeSessions (write.handle F s.world cred.caller user query).db : Int)
                = activeSessions s.world.db + write.gauge F s.world.db cred.caller user query
              ↔ ¬ write.Drops F s.world.db cred.caller user query :=
            activeSessions_handle_iff write
          simp only [Except.ok.injEq, forall_eq']
          rw [← hwrite, gaugeExact_iff_eq]
          unfold GaugeState.activeVoiceSessions
          simp only
          constructor
          · intro hafter
            omega
          · intro hsame
            omega
  | cleanup now =>
      have hcount := activeSessions_cleanup s.world.db now
      unfold gaugeStep KeepsGauge
      rw [gaugeExact_iff_eq]
      unfold GaugeState.activeVoiceSessions
      simp only
      -- nothing is counted down, so nothing may have expired
      have hnone : s.world.db.voiceSessions.count (expired now) = 0
          ↔ ∀ x ∈ s.world.db.voiceSessions, expired now x = false := by
        unfold Table.count
        rw [List.countP_eq_zero]
        simp only [Bool.not_eq_true]
        exact Iff.rfl
      rw [← hnone]
      constructor
      · intro hafter
        omega
      · intro hzero
        omega
  | socket event =>
      unfold gaugeStep KeepsGauge
      simp only
      rw [gauge_socket_iff h]
      cases event with
      | connect users accessToken scope =>
          exact iff_of_true (openSockets_connect s.sockets users accessToken scope) trivial
      | disconnect channel => exact openSockets_disconnect_iff s.sockets channel
      | push guestId message data => exact iff_of_true (by simp [socketStep, Sockets.handle]) trivial
      | staffTask db requestId priority =>
          exact iff_of_true (by simp [socketStep, Sockets.handle]) trivial

/-- **The gauge is exact** in every state of a run exactly if no step of the run deletes an
ACTIVE session, lets a turn fail in the agent, expires a session or disconnects a connection
that was rejected. -/
theorem gaugeExact_iff (F : Filters) (s : GaugeState) (steps : List (GaugeStep py))
    (h : GaugeExact s) :
    AllStates (gaugeStep F) GaugeExact s steps ↔ AllSteps (gaugeStep F) (KeepsGauge F) s steps :=
  allStates_iff_allSteps (K := fun _ => True) (fun _ _ _ => trivial)
    (fun s i _ hs => gaugeExact_step_iff F s i hs) trivial h steps

/-- A process that has just started, in a hotel without sessions. -/
def startedProcess (w : World) : GaugeState := ⟨w, .start, 0⟩

/-- A connection attempt without a token. -/
def demoRejection : SocketEvent :=
  .connect demoHotel.db.users (fun _ => .tokenError) ⟨[], none⟩

theorem gauge_counts_demo_session :
    GaugeExact (startedProcess demoHotel)
      ∧ AllStates (gaugeStep plainFilters) GaugeExact (startedProcess demoHotel)
        [(.voice (.bearer 1) [] (.create (.data none) (demoSessionFresh 5)) : GaugeStep plainPython),
          .voice (.bearer 1) [] (.finish (some 5) (demoSessionFresh 6))] := by
  have h : GaugeExact (startedProcess demoHotel) := ⟨by decide +kernel, by decide +kernel⟩
  refine ⟨h, (gaugeExact_iff plainFilters _ _ h).mpr ⟨?_, ?_, trivial⟩⟩
  · intro user _ hdrops
    exact hdrops
  · intro user _ hdrops
    exact hdrops

/-- A client without a token connects, is turned away and disconnects: −1 active sessions. -/
theorem rejected_connection_lowers_gauge :
    ¬ ∀ (F : Filters) (s : GaugeState) (steps : List (GaugeStep plainPython)),
      GaugeExact s → AllStates (gaugeStep F) GaugeExact s steps := by
  intro h
  have hlast := (h plainFilters (startedProcess demoHotel)
    [.socket demoRejection, .socket (.disconnect 0)]
    ⟨by decide +kernel, by decide +kernel⟩).last
  exact absurd hlast.nonneg (by decide +kernel)

end HotelAgent
