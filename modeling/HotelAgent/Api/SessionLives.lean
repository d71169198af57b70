/-
  HotelAgent.Api.SessionLives — sessions only get older.

  Requests that are handled one after another, of any kind and by anybody, do
  three things to the row of a session: they open it, they carry it on and they
  delete it.

      opened      ACTIVE, no transcript, started now
      carried on  the transcript and the counters grow, the start stays
      ended       no column changes any more, up to `updated_at`

  A PUT stamps `updated_at` in whatever state the session is; the column is left
  out here, nothing reads it.

  The hourly clean-up ends what has been ACTIVE for two hours, so nothing is
  ACTIVE for more than three.

  Main results:
    * `sessions_only_age` — in every run of the API every session comes from a row
      that was there or one that a request has opened, and has only aged since.
    * `no_session_outlives_beat` — between two clean-ups no session is ACTIVE that
      was started more than three hours ago.
-/
import HotelAgent.Api.SessionStream
import Mathlib.Data.List.ReduceOption

namespace HotelAgent

open Lib

variable {py : Python}

/-! ## §1. Ageing. -/

/-- **The same session, later**: nothing of its transcript is lost, and once it has ended it stays
as it is, up to `updated_at`. -/
structure VoiceSession.Ages (s s' : VoiceSession) : Prop where
  id : s'.id = s.id
  guestId : s'.guestId = s.guestId
  bookingId : s'.bookingId = s.bookingId
  startedAt : s'.startedAt = s.startedAt
  transcript : s.transcript <+: s'.transcript
  tokensUsed : s.tokensUsed ≤ s'.tokensUsed
  ttsCharacters : s.ttsCharacters ≤ s'.ttsCharacters
  ended : s.status ≠ .active → s'.columns = s.columns

namespace VoiceSession.Ages

/-- Only the links to its requests change. -/
theorem of_columns {s s' : VoiceSession} (h : s'.columns = s.columns) : s.Ages s' where
  id := (congrArg VoiceSession.id h :)
  guestId := (congrArg VoiceSession.guestId h :)
  bookingId := (congrArg VoiceSession.bookingId h :)
  startedAt := (congrArg VoiceSession.startedAt h :)
  transcript := by
    have hsame : s'.transcript = s.transcript := (congrArg VoiceSession.transcript h :)
    rw [hsame]
  tokensUsed := le_of_eq (congrArg VoiceSession.tokensUsed h :).symm
  ttsCharacters := le_of_eq (congrArg VoiceSession.ttsCharacters h :).symm
  ended := fun _ => h

theorem refl (s : VoiceSession) : s.Ages s := of_columns rfl

theorem status_of_ended {s s' : VoiceSession} (h : s.Ages s') (hended : s.status ≠ .active) :
    s'.status = s.status :=
  (congrArg VoiceSession.status (h.ended hended) :)

theorem trans {s s' s'' : VoiceSession} (h : s.Ages s') (h' : s'.Ages s'') : s.Ages s'' where
  id := h'.id.trans h.id
  guestId := h'.guestId.trans h.guestId
  bookingId := h'.bookingId.trans h.bookingId
  startedAt := h'.startedAt.trans h.startedAt
  transcript := h.transcript.trans h'.transcript
  tokensUsed := Nat.le_trans h.tokensUsed h'.tokensUsed
  ttsCharacters := Nat.le_trans h.ttsCharacters h'.ttsCharacters
  ended := by
    intro hended
    have hstill : s'.status ≠ .active := by
      rw [h.status_of_ended hended]
      exact hended
    exact (h'.ended hstill).trans (h.ended hended)

/-- What is ACTIVE has always been. -/
theorem active {s s' : VoiceSession} (h : s.Ages s') (hactive : s'.status = .active) :
    s.status = .active := by
  by_contra hended
  exact hended ((h.status_of_ended hended).symm.trans hactive)

end VoiceSession.Ages

/-- Every session of `db'` has aged from one of `db`, or from the one that is opened. -/
def Db.SessionsAge (db : Db) (opened : Option VoiceSession) (db' : Db) : Prop :=
  ∀ s' ∈ db'.voiceSessions, ∃ s, (s ∈ db.voiceSessions ∨ s ∈ opened) ∧ s.Ages s'

namespace Db.SessionsAge

variable {db db₁ db' : Db} {opened : Option VoiceSession}

theorem of_eq (h : db'.voiceSessions = db.voiceSessions) : db.SessionsAge opened db' := by
  intro s hs
  rw [h] at hs
  exact ⟨s, .inl hs, .refl s⟩

theorem refl (db : Db) : db.SessionsAge opened db := of_eq rfl

theorem trans (h : db.SessionsAge opened db₁) (h' : db₁.SessionsAge none db') :
    db.SessionsAge opened db' := by
  intro s'' hs''
  obtain ⟨s', hs' | hnone, hages'⟩ := h' s'' hs''
  · obtain ⟨s, hs, hages⟩ := h s' hs'
    exact ⟨s, hs, hages.trans hages'⟩
  · exact absurd hnone (by simp)

/-- An UPDATE under which the rows that it reaches age. -/
theorem of_updateWhere {p : VoiceSession → Bool} {f : VoiceSession → VoiceSession}
    {hf : ∀ s, (f s).id = s.id} (h : db'.voiceSessions = db.voiceSessions.updateWhere p f hf)
    (hages : ∀ s ∈ db.voiceSessions, p s = true → s.Ages (f s)) :
    db.SessionsAge opened db' := by
  intro s' hs'
  rw [h] at hs'
  obtain ⟨s, hs, rfl⟩ := Table.mem_updateWhere.mp hs'
  refine ⟨s, .inl hs, ?_⟩
  split
  next hp => exact hages s hs hp
  · exact .refl s

/-- A save into the row with the key `id`. -/
theorem of_saveSession {id : Uuid} {w : SessionWrite} {row : VoiceSession}
    (hrow : db.voiceSessions.find? id = some row) (hages : row.Ages (w.write row))
    (h : db.saveSession id w = some db') : db.SessionsAge opened db' := by
  refine of_updateWhere (saveSession_tables h).1 fun s hs hsid => ?_
  obtain ⟨hmem, hid⟩ := Table.find?_eq_some_iff.mp hrow
  -- the UPDATE reaches the row that was read, and no other
  rw [Table.eq_of_key_eq hs hmem ((of_decide_eq_true hsid).trans hid.symm)]
  exact hages

/-- Statements on other tables unlink requests at most. -/
theorem of_aside (h : db.LeadsAside db') : db.SessionsAge opened db' := by
  induction h with
  | refl => exact refl db
  | tail _ hstep ih =>
      refine ih.trans ?_
      -- a deleted service request is taken out of the links
      rcases sessions_of_other hstep with hsessions | ⟨key, rfl⟩
      · exact of_eq hsessions
      · have hlinks : ∀ s : VoiceSession, VoiceSession.id { s with
            serviceRequestsCreated := s.serviceRequestsCreated.filter (· ≠ key) } = s.id :=
          fun _ => rfl
        exact @of_updateWhere _ _ _ (fun _ => true) _ hlinks rfl fun _ _ _ => .of_columns rfl

end Db.SessionsAge

/-! ## §2. Requests on sessions. -/

/-- The row that POST /voice/sessions/ inserts. -/
def openedRow (db : Db) (caller : Caller) (bookingId : Option Uuid) (fresh : SessionFresh) :
    Option VoiceSession :=
  (openedSession db caller bookingId fresh).map fun (user, booking) =>
    newSession user (booking.map (·.id)) fresh

/-- A session as it is opened. -/
structure VoiceSession.Opened (s : VoiceSession) (now : Instant) : Prop where
  status : s.status = .active
  startedAt : s.startedAt = now
  endedAt : s.endedAt = none
  transcript : s.transcript = []

theorem opened_openedRow {db : Db} {caller : Caller} {bookingId : Option Uuid}
    {fresh : SessionFresh} {s : VoiceSession} (h : s ∈ openedRow db caller bookingId fresh) :
    s.Opened fresh.now := by
  obtain ⟨_, _, rfl⟩ := Option.map_eq_some_iff.mp h
  exact ⟨rfl, rfl, rfl, rfl⟩

section
variable {w : World} {caller : Caller}

theorem sessionsAge_create (bookingId : Option Uuid) (fresh : SessionFresh) :
    w.db.SessionsAge (openedRow w.db caller bookingId fresh)
      (createSession py w caller bookingId fresh).1.db := by
  unfold createSession openedRow openedSession
  cases requireUser w.db caller with
  | error answer => exact .refl w.db
  | ok user =>
      simp only
      generalize bookingId.bind (checkedInBooking w.db user) = booking
      -- 400: the booking that is named is not a stay of the caller
      by_cases hno : bookingId.isSome ∧ booking = none
      · rw [if_pos hno, if_pos hno]
        exact .refl w.db
      · rw [if_neg hno, if_neg hno]
        cases hins : w.db.insertSession (newSession user (booking.map Booking.id) fresh) with
        | none => exact .refl w.db
        | some db =>
            have hone : w.db.SessionsAge
                (some (newSession user (booking.map Booking.id) fresh)) db := by
              obtain ⟨_, _, hrows, _⟩ := Db.insertSession_eq_some hins
              intro s hs
              replace hs : s ∈ db.voiceSessions.rows := hs
              rw [hrows] at hs
              rcases List.mem_append.mp hs with hs | hs
              · exact ⟨s, .inl hs, .refl s⟩
              · rw [List.mem_singleton.mp hs]
                exact ⟨_, .inr rfl, .refl _⟩
            simp only [Option.isSome_some, if_true, Option.map_some]
            -- the row stays where the event raises
            split
            · exact hone
            · exact hone

/-- A turn writes into an ACTIVE session. -/
theorem sessionsAge_turn (pk : Uuid) (req : TurnRequest) (agent : AgentOutcome py)
    (fresh : SessionFresh) :
    w.db.SessionsAge none (processTurn w caller pk req agent fresh).1.db := by
  have hsaveTurn : ∀ {user s content db} {r : VoiceAgentResponse py},
      readTurn w.db caller pk req = .ok (user, s, content)
        → saveTurn w.db s content r fresh.nowTs = some db → w.db.SessionsAge none db := by
    intro user s content db r hread hsave
    refine .of_saveSession (find?_of_readTurn hread) ?_ hsave
    have hactive := (readTurn_ok hread).2
    exact ⟨rfl, rfl, rfl, rfl, List.prefix_append _ _, Nat.le_add_right _ _,
      Nat.le_add_right _ _, fun hended => absurd hactive hended⟩
  -- with a draft the saved turn is followed by the atomic block
  cases hdraft : turnDraft w.db caller pk req agent fresh with
  | some found =>
      obtain ⟨db, d⟩ := found
      obtain ⟨_, hsession⟩ := sameButSessions_of_draft hdraft
      obtain ⟨user, s, content, r, _, hread, hsave, _⟩ := turnDraft_eq_some hdraft
      rw [processTurn_of_draft hdraft]
      refine (hsaveTurn hread hsave).trans ?_
      cases hcommits : d.commits py db fresh with
      | false =>
          rw [(createRequest_of_not_commits (w := { w with db := db }) hcommits).1]
          exact .refl db
      | true =>
          obtain ⟨row, _, _, _, hgained⟩ :=
            createRequest_of_commits (w := { w with db := db }) hsession hcommits
          exact .of_updateWhere hgained.sessions fun _ _ _ => .of_columns rfl
  | none =>
      rw [processTurn_eq_of_no_draft hdraft]
      split
      · exact .refl w.db
      next user s content hread =>
        split
        · exact .refl w.db
        next db hfail =>
          refine .of_saveSession (find?_of_readTurn hread) ?_ hfail
          have hactive := (readTurn_ok hread).2
          exact ⟨rfl, rfl, rfl, rfl, List.prefix_refl _, Nat.le_refl _, Nat.le_refl _,
            fun hended => absurd hactive hended⟩
      next user s content r hread =>
        split
        · exact .refl w.db
        next db hsave => exact hsaveTurn hread hsave

theorem sessionsAge_end (pk : Uuid) (fresh : SessionFresh) :
    w.db.SessionsAge none (endSession py w caller pk fresh).1.db := by
  unfold endSession
  cases hread : readEnd w.db caller pk with
  | error answer => exact .refl w.db
  | ok s =>
      simp only
      cases hsave : saveEnd w.db s fresh.now with
      | none => exact .refl w.db
      | some db =>
          simp only
          rw [db_finishEnd]
          refine .of_saveSession (find?_of_readEnd hread) ?_ hsave
          have hactive := (readEnd_ok hread).2
          exact ⟨rfl, rfl, rfl, rfl, List.prefix_refl _, Nat.le_refl _, Nat.le_refl _,
            fun hended => absurd hactive hended⟩

/-- The clean-up reaches ACTIVE sessions only. -/
theorem sessionsAge_cleanup (db : Db) (now : Instant) :
    db.SessionsAge none (cleanupExpiredSessions db now) := by
  obtain ⟨_, hsessions, _⟩ := Db.updateSessions_eq_some (cleanupExpiredSessions_eq db now)
  refine .of_updateWhere hsessions fun s _ hexpired => ?_
  -- `filter(status=ACTIVE, started_at__lt=cutoff)`
  unfold expired at hexpired
  rw [Bool.and_eq_true, decide_eq_true_eq] at hexpired
  exact ⟨rfl, rfl, rfl, rfl, List.prefix_refl _, Nat.le_refl _, Nat.le_refl _,
    fun hended => absurd hexpired.1 hended⟩

end

/-! ## §3. Requests. -/

/-- The session that a request opens. -/
def ApiRequest.opens (db : Db) : ApiRequest py → Option VoiceSession
  | .write cred _ (.voice (.create body fresh)) =>
    match cred.user db, body.read with
    | .ok (some _), .ok none => openedRow db cred.caller none fresh
    | .ok (some _), .ok (some (some id)) => openedRow db cred.caller (some id) fresh
    | _, _ => none
  | _ => none

theorem sessionsAge_voice (F : Filters) {w : World} {cred : Credentials} (query : Query)
    {user : Option User} (huser : cred.user w.db = .ok user) (call : VoiceWrite py) :
    w.db.SessionsAge ((ApiRequest.write cred query (.voice call)).opens w.db)
      (call.handle F w cred.caller user query).db := by
  cases call with
  | create body fresh =>
      simp only [VoiceWrite.handle, ApiRequest.opens, huser]
      cases user with
      | none => exact .refl w.db
      | some u =>
          cases body.read with
          | error response => exact .refl w.db
          | ok booking =>
              rcases booking with _ | _ | id
              · exact sessionsAge_create none fresh
              · exact .refl w.db
              · exact sessionsAge_create (some id) fresh
  | update pk =>
      simp only [VoiceWrite.handle, ApiRequest.opens]
      rcases hobject : user.map fun user => sessionObject F query w.db user pk
        with _ | response | s
      · exact .refl w.db
      · exact .refl w.db
      · simp only
        cases hsave : w.db.saveSession s.id (.rewrite s) with
        | none => exact .refl w.db
        | some db =>
            obtain ⟨u, _, hread⟩ := Option.map_eq_some_iff.mp hobject
            obtain ⟨row, hrow, hcolumns, _⟩ := sessionObject_ok hread
            refine .of_saveSession hrow (.of_columns ?_) hsave
            -- every column comes from the copy that was just read
            rw [← hcolumns]
            rfl
  | destroy pk =>
      simp only [VoiceWrite.handle, ApiRequest.opens]
      rcases user.map fun user => sessionObject F query w.db user pk with _ | response | s
      · exact .refl w.db
      · exact .refl w.db
      · -- what is left of the sessions has not changed
        intro s' hs'
        exact ⟨s', .inl (Table.mem_erase.mp hs').1, .refl s'⟩
  | turn pk body optionErrors agent fresh =>
      simp only [VoiceWrite.handle, ApiRequest.opens]
      rcases user.map fun user => sessionObject F query w.db user pk with _ | response | s
      · exact .refl w.db
      · exact .refl w.db
      · simp only
        cases body.read with
        | error response => exact .refl w.db
        | ok data =>
            simp only
            split
            · exact .refl w.db
            · exact sessionsAge_turn s.id data agent fresh
  | finish pk fresh =>
      simp only [VoiceWrite.handle, ApiRequest.opens]
      rcases user.map fun user => sessionObject F query w.db user pk with _ | response | s
      · exact .refl w.db
      · exact .refl w.db
      · exact sessionsAge_end s.id fresh

/-- **One request**: sessions age, and one may be opened. -/
theorem sessionsAge_serve (D : Deployment) (w : World) (latencyMs : Text)
    (request : ApiRequest py) :
    w.db.SessionsAge (request.opens w.db) (request.serve D w latencyMs).1.db := by
  cases request with
  | read cred query call => exact .refl w.db
  | rooms cred query pk => exact .refl w.db
  | write cred query call =>
      rw [world_serve]
      unfold perform
      cases huser : cred.user w.db with
      | error response => exact .refl w.db
      | ok user =>
          cases call with
          | voice call => exact sessionsAge_voice D.filters query huser call
          | owned call => exact .of_aside (aside_owned D.filters query call).leadsAside
  | register body remoteAddr fresh =>
      exact .of_aside (aside_register D.inet w body remoteAddr fresh)
  | token req now => exact .of_aside (aside_tokenPost D.jwt D.inet w.db req now)

/-- The session that a step opens. -/
def ServiceStep.opens (w : World) : ServiceStep py → Option VoiceSession
  | .request call => call.request.opens w.db
  | .cleanup _ => none

/-- The time of a step, where it reads the clock for a session. -/
def ServiceStep.clock : ServiceStep py → Option Instant
  | .request ⟨.write _ _ (.voice (.create _ fresh)), _⟩ => some fresh.now
  | .request _ => none
  | .cleanup now => some now

theorem sessionsAge_step (D : Deployment) (w : World) (i : ServiceStep py) :
    w.db.SessionsAge (i.opens w) (serviceStep D w i).db := by
  cases i with
  | request call => exact sessionsAge_serve D w call.latencyMs call.request
  | cleanup now => exact sessionsAge_cleanup w.db now

/-- What a step opens is the row of POST /voice/sessions/. -/
theorem openedRow_of_step {w : World} {i : ServiceStep py} {s : VoiceSession}
    (h : i.opens w = some s) :
    ∃ caller bookingId fresh, s ∈ openedRow w.db caller bookingId fresh
      ∧ fresh.now ∈ i.clock := by
  cases i with
  | cleanup now => exact absurd h (by simp [ServiceStep.opens])
  | request call =>
      obtain ⟨request, latencyMs⟩ := call
      simp only [ServiceStep.opens] at h
      unfold ApiRequest.opens at h
      split at h
      next cred query body fresh =>
        split at h
        · exact ⟨cred.caller, none, fresh, h, rfl⟩
        next id _ _ => exact ⟨cred.caller, some id, fresh, h, rfl⟩
        · exact absurd h (by simp)
      · exact absurd h (by simp)

/-- What a step opens is new. -/
theorem opened_of_step {w : World} {i : ServiceStep py} {s : VoiceSession}
    (h : i.opens w = some s) : ∃ t ∈ i.clock, s.Opened t := by
  obtain ⟨caller, bookingId, fresh, hrow, hclock⟩ := openedRow_of_step h
  exact ⟨fresh.now, hclock, opened_openedRow hrow⟩

/-! ## §4. Runs. -/

/-- The sessions that a run opens. -/
def openedIn (D : Deployment) (w : World) (is : List (ServiceStep py)) : List VoiceSession :=
  (mapInputs (serviceStep D) (fun w i => i.opens w) w is).reduceOption

/-- What there is after a run has aged. -/
theorem aged_run (D : Deployment) (w : World) (is : List (ServiceStep py)) {s' : VoiceSession}
    (hs' : s' ∈ (run (serviceStep D) w is).db.voiceSessions) :
    ∃ s, (s ∈ w.db.voiceSessions
        ∨ s ∈ openedIn D w is ∧ ∃ i ∈ is, ∃ t ∈ i.clock, s.Opened t)
      ∧ s.Ages s' := by
  induction is generalizing w with
  | nil => exact ⟨s', .inl hs', .refl s'⟩
  | cons i is ih =>
      obtain ⟨s₁, hs₁, hages⟩ := ih (serviceStep D w i) hs'
      rcases hs₁ with hs₁ | ⟨hopened, j, hj, hnew⟩
      · -- it was there after the first step
        obtain ⟨s, hs, hages'⟩ := sessionsAge_step D w i s₁ hs₁
        refine ⟨s, hs.imp id fun hopens => ?_, hages'.trans hages⟩
        refine ⟨?_, i, List.mem_cons_self, opened_of_step hopens⟩
        unfold openedIn
        rw [List.reduceOption_mem_iff]
        exact List.mem_cons.mpr (.inl (Option.mem_def.mp hopens).symm)
      · refine ⟨s₁, .inr ⟨?_, j, List.mem_cons_of_mem i hj, hnew⟩, hages⟩
        unfold openedIn at hopened ⊢
        rw [List.reduceOption_mem_iff] at hopened ⊢
        exact List.mem_cons_of_mem _ hopened

/-- Every session of `db` has aged from one that the run has found or opened. -/
def AgedIn (D : Deployment) (w : World) (is : List (ServiceStep py)) (db : Db) : Prop :=
  ∀ s' ∈ db.voiceSessions,
    ∃ s, (s ∈ w.db.voiceSessions
        ∨ s ∈ openedIn D w is ∧ ∃ i ∈ is, ∃ t ∈ i.clock, s.Opened t)
      ∧ s.Ages s'

/-- **Sessions only age.**  In every run of the API, whatever the requests are and whoever sends
them, every session that is there at the end comes from one that was there at the start, or from
one that a request of the run has opened, and has aged since. -/
theorem sessions_only_age (D : Deployment) (w : World) (is : List (ServiceStep py)) :
    AgedIn D w is (run (serviceStep D) w is).db :=
  fun _ hs' => aged_run D w is hs'

/-- `CELERY_BEAT_SCHEDULE["cleanup-expired-sessions"]["schedule"]`. -/
def beatPeriod : Int := 3600 * second

/-- No session is ACTIVE that was started more than three hours ago. -/
def NoneOutlived (db : Db) (now : Instant) : Prop :=
  ∀ s ∈ db.voiceSessions, s.status = .active → now - s.startedAt ≤ 3 * 3600 * second

/-- What the clean-up leaves ACTIVE is younger than two hours. -/
theorem young_after_cleanup (db : Db) (now : Instant) {s : VoiceSession}
    (hs : s ∈ (cleanupExpiredSessions db now).voiceSessions) (hactive : s.status = .active) :
    now - 2 * 3600 * second ≤ s.startedAt := by
  obtain ⟨_, hsessions, _⟩ := Db.updateSessions_eq_some (cleanupExpiredSessions_eq db now)
  rw [hsessions] at hs
  obtain ⟨row, _, rfl⟩ := Table.mem_updateWhere.mp hs
  split at hactive
  · -- an expired session is no longer ACTIVE
    exact absurd hactive (by simp [SessionWrite.expire])
  next hyoung =>
    rw [if_neg hyoung]
    unfold expired at hyoung
    rw [Bool.and_eq_true, decide_eq_true_eq, decide_eq_true_eq] at hyoung
    by_contra hold
    exact hyoung ⟨hactive, not_le.mp hold⟩

/-- Two hours until a session expires, and one until the clean-up comes. -/
theorem three_hours {cleaned now startedAt : Int} (h : cleaned - 2 * 3600 * second ≤ startedAt)
    (hbeat : now ≤ cleaned + beatPeriod) : now - startedAt ≤ 3 * 3600 * second := by
  unfold beatPeriod at hbeat
  unfold second at h hbeat ⊢
  omega

/-- **No session is ACTIVE for more than three hours.**  After a clean-up, as long as the clock does
not go back and the next one is not yet due, whatever is requested meanwhile. -/
theorem no_session_outlives_beat (D : Deployment) (w : World) {cleaned now : Instant}
    (is : List (ServiceStep py)) (hclock : ∀ i ∈ is, ∀ t ∈ i.clock, cleaned ≤ t)
    (hbeat : now ≤ cleaned + beatPeriod) :
    NoneOutlived (run (serviceStep D) w (.cleanup cleaned :: is)).db now := by
  intro s' hs' hactive
  obtain ⟨s, hs, hages⟩ := aged_run D _ is hs'
  have hstart : cleaned - 2 * 3600 * second ≤ s.startedAt := by
    rcases hs with hs | ⟨_, i, hi, t, ht, hopened⟩
    · exact young_after_cleanup w.db cleaned hs (hages.active hactive)
    · -- opened since, so not before the clean-up
      have hlate := hclock i hi t ht
      rw [hopened.startedAt]
      exact le_trans (sub_le_self cleaned (show (0 : Int) ≤ 2 * 3600 * second by decide)) hlate
  rw [hages.startedAt]
  exact three_hours hstart hbeat

/-- The demo guest opens another session a second after the clean-up. -/
def laterSession : ServiceStep plainPython :=
  .request ⟨.write (.bearer 1) [] (.voice (.create (.data none) (demoSessionFresh 6))), []⟩

theorem later_session_is_young :
    NoneOutlived (run (serviceStep plainDeployment) demoDesk [.cleanup 0, laterSession]).db
      (3600 * second) := by
  refine no_session_outlives_beat plainDeployment demoDesk [laterSession] (fun i hi t ht => ?_)
    (show (3600 * second : Int) ≤ 0 + beatPeriod by decide)
  rw [List.mem_singleton.mp hi] at ht
  rw [← Option.some.inj ht]
  exact (show (0 : Int) ≤ second by decide)

end HotelAgent
