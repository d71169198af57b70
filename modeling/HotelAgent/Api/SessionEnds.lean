/-
  HotelAgent.Api.SessionEnds — how a session says that it has ended.

  A session leaves ACTIVE in three ways, and each writes its own columns:

                       status      ended_at   duration_seconds
      `end_session`    completed     now       `.seconds`
      clean-up         timeout       now           —
      a failed turn    failed         —            —

  `.seconds` is what a timedelta has besides its days, so the duration of more
  than a day begins again at zero; and the clean-up leaves the duration at zero.

  Main results, for runs of requests one after another:
    * `endsRecorded_iff` — a session is ACTIVE exactly as long as it has no end,
      if and only if no turn fails in the agent.
    * `durationsExact_iff` — every duration, stored or published, is that between
      start and end, if and only if no session is ended after a day or more and
      none expires.
-/
import HotelAgent.Api.SessionRaces
import HotelAgent.Api.RequestCreation
import HotelAgent.Api.ServiceRequests

namespace HotelAgent

open Lib

variable {py : Python}

/-! ## §1. The life of a session. -/

/-- One request after another, and the clean-up between them. -/
inductive LifeStep (py : Python) where
  | create (caller : Caller) (bookingId : Option Uuid) (fresh : SessionFresh)
  | turn (caller : Caller) (pk : Uuid) (req : TurnRequest) (agent : AgentOutcome py)
      (fresh : SessionFresh)
  | finish (caller : Caller) (pk : Uuid) (fresh : SessionFresh)
  | cleanup (now : Instant)

def lifeStep (w : World) : LifeStep py → World
  | .create caller bookingId fresh => (createSession py w caller bookingId fresh).1
  | .turn caller pk req agent fresh => (processTurn w caller pk req agent fresh).1
  | .finish caller pk fresh => (endSession py w caller pk fresh).1
  | .cleanup now => { w with db := cleanupExpiredSessions w.db now }

/-- The columns that tell of the life of a session. -/
structure SessionLife where
  status : SessionStatus
  startedAt : Instant
  endedAt : Option Instant
  durationSeconds : Nat

def lifeOf (s : VoiceSession) : SessionLife :=
  ⟨s.status, s.startedAt, s.endedAt, s.durationSeconds⟩

/-- `P` holds of the life of every session. -/
def EveryLife (P : SessionLife → Prop) (w : World) : Prop :=
  ∀ s ∈ w.db.voiceSessions, P (lifeOf s)

/-! ## §2. What the requests write. -/

section
variable {P : SessionLife → Prop} {db db' : Db}

/-- Lives that are the same in two stores. -/
theorem forall_life_congr
    (h : db'.voiceSessions.rows.map lifeOf = db.voiceSessions.rows.map lifeOf) :
    (∀ s ∈ db'.voiceSessions, P (lifeOf s)) ↔ ∀ s ∈ db.voiceSessions, P (lifeOf s) := by
  have hmap : ∀ rows : List VoiceSession,
      (∀ s ∈ rows, P (lifeOf s)) ↔ ∀ l ∈ rows.map lifeOf, P l := by
    intro rows
    simp
  show (∀ s ∈ db'.voiceSessions.rows, P (lifeOf s)) ↔ ∀ s ∈ db.voiceSessions.rows, P (lifeOf s)
  rw [hmap, hmap, h]

/-- A save that keeps the life of the row. -/
theorem lives_saveSession {id : Uuid} {w : SessionWrite}
    (hw : ∀ row, lifeOf (w.write row) = lifeOf row) (h : db.saveSession id w = some db') :
    db'.voiceSessions.rows.map lifeOf = db.voiceSessions.rows.map lifeOf := by
  rw [(saveSession_tables h).1]
  unfold Table.updateWhere
  rw [List.map_map]
  refine List.map_congr_left fun row _ => ?_
  show lifeOf (if decide (row.id = id) = true then w.write row else row) = lifeOf row
  split
  · exact hw row
  · rfl

/-- A save into a row: what holds of every life still does, exactly if it does of the new one. -/
theorem forall_life_save_iff {id : Uuid} {w : SessionWrite} {row : VoiceSession}
    (hall : ∀ s ∈ db.voiceSessions, P (lifeOf s)) (hrow : db.voiceSessions.find? id = some row)
    (h : db.saveSession id w = some db') :
    (∀ s ∈ db'.voiceSessions, P (lifeOf s)) ↔ P (lifeOf (w.write row)) := by
  obtain ⟨hmem, hid⟩ := Table.find?_eq_some_iff.mp hrow
  rw [(saveSession_tables h).1, Table.forall_updateWhere_iff (P := fun s => P (lifeOf s)) hall]
  constructor
  · intro hnew
    exact hnew row hmem (decide_eq_true hid)
  · intro hnew s hs hsid
    rw [Table.eq_of_key_eq hs hmem ((of_decide_eq_true hsid).trans hid.symm)]
    exact hnew

/-- The atomic block keeps every life. -/
theorem lives_createRequest {w : World} {d : RequestDraft} {fresh : SessionFresh}
    (hsession : ∃ s, w.db.voiceSessions.find? d.sessionId = some s) :
    (createRequest py w d fresh).1.db.voiceSessions.rows.map lifeOf
      = w.db.voiceSessions.rows.map lifeOf := by
  cases hcommits : d.commits py w.db fresh with
  | false => rw [(createRequest_of_not_commits hcommits).1]
  | true =>
      obtain ⟨row, _, _, _, hgained⟩ := createRequest_of_commits hsession hcommits
      rw [hgained.sessions]
      unfold Table.updateWhere
      rw [List.map_map]
      refine List.map_congr_left fun x _ => ?_
      show lifeOf (if decide (x.id = d.sessionId) = true then _ else x) = lifeOf x
      split
      · rfl
      · rfl

end

/-! ## §3. One request. -/

/-- What the step writes, where it writes a life: the life of a session that fails, is ended or
expires. -/
def LifeStep.Writes (P : SessionLife → Prop) (w : World) : LifeStep py → Prop
  | .create _ _ _ => True
  | .turn caller pk req agent _ =>
    ∀ user s content, readTurn w.db caller pk req = .ok (user, s, content) → agent = .raises →
      P { lifeOf s with status := .failed }
  | .finish caller pk fresh =>
    ∀ s, readEnd w.db caller pk = .ok s →
      P ⟨.completed, s.startedAt, some fresh.now, durationSeconds s.startedAt fresh.now⟩
  | .cleanup now =>
    ∀ s ∈ w.db.voiceSessions, expired now s = true →
      P ⟨.timeout, s.startedAt, some now, s.durationSeconds⟩

section
variable {P : SessionLife → Prop} {w : World}

/-- A new session is ACTIVE, without an end. -/
theorem everyLife_create (hnew : ∀ t, P ⟨.active, t, none, 0⟩) (hall : EveryLife P w)
    (caller : Caller) (bookingId : Option Uuid) (fresh : SessionFresh) :
    EveryLife P (createSession py w caller bookingId fresh).1 := by
  have hinsert : ∀ {user : User} {id : Option Uuid} {db : Db},
      w.db.insertSession (newSession user id fresh) = some db →
        ∀ s ∈ db.voiceSessions, P (lifeOf s) := by
    intro user id db hins s hs
    obtain ⟨_, _, hrows, _⟩ := Db.insertSession_eq_some hins
    replace hs : s ∈ db.voiceSessions.rows := hs
    rw [hrows] at hs
    rcases List.mem_append.mp hs with hs | hs
    · exact hall s hs
    · rw [List.mem_singleton.mp hs]
      exact hnew fresh.now
  unfold createSession
  split
  · exact hall
  · simp only
    split
    · exact hall
    · split
      · exact hall
      next db hins =>
        split
        · exact hinsert hins
        · exact hinsert hins

/-- **A turn that the agent answers** keeps every life. -/
theorem lives_processTurn (w : World) (caller : Caller) (pk : Uuid) (req : TurnRequest)
    (r : VoiceAgentResponse py) (fresh : SessionFresh) :
    (processTurn w caller pk req (.replies r) fresh).1.db.voiceSessions.rows.map lifeOf
      = w.db.voiceSessions.rows.map lifeOf := by
  cases hdraft : turnDraft w.db caller pk req (.replies r) fresh with
  | some found =>
      obtain ⟨db, d⟩ := found
      obtain ⟨_, hsession⟩ := sameButSessions_of_draft hdraft
      obtain ⟨user, s, content, r', heq, _, hsave, _⟩ := turnDraft_eq_some hdraft
      injection heq with heq
      subst heq
      rw [processTurn_of_draft hdraft, lives_createRequest hsession]
      exact lives_saveSession (fun _ => rfl) hsave
  | none =>
      rw [processTurn_eq_of_no_draft hdraft]
      split
      · rfl
      next heq => exact absurd heq (by simp)
      next user s content r' heq =>
        injection heq with heq
        subst heq
        split
        · rfl
        next db hsave => exact lives_saveSession (fun _ => rfl) hsave

/-- A turn writes FAILED into the session, exactly if the agent raises. -/
theorem everyLife_turn_iff (hall : EveryLife P w) (caller : Caller) (pk : Uuid)
    (req : TurnRequest) (agent : AgentOutcome py) (fresh : SessionFresh) :
    EveryLife P (processTurn w caller pk req agent fresh).1
      ↔ (LifeStep.turn caller pk req agent fresh).Writes P w := by
  cases agent with
  | replies r =>
      refine iff_of_true ?_ fun _ _ _ _ h => absurd h (by simp)
      exact (forall_life_congr (lives_processTurn w caller pk req r fresh)).mpr hall
  | raises =>
      unfold processTurn
      simp only [LifeStep.Writes]
      cases hread : readTurn w.db caller pk req with
      | error answer => exact iff_of_true hall fun _ _ _ h => absurd h (by simp)
      | ok t =>
          obtain ⟨user, s, content⟩ := t
          obtain ⟨db, hfail⟩ := failTurn_eq_some hread
          simp only [hfail]
          have hone := forall_life_save_iff hall (find?_of_readTurn hread) hfail
          constructor
          · intro hdone user' s' content' heq _
            injection heq with heq
            injection heq with _ heq
            injection heq with heq _
            rw [← heq]
            exact hone.mp hdone
          · intro hwrites
            exact hone.mpr (hwrites user s content rfl trivial)

/-- An end writes COMPLETED, the time and the duration. -/
theorem everyLife_finish_iff (hall : EveryLife P w) (caller : Caller) (pk : Uuid)
    (fresh : SessionFresh) :
    EveryLife P (endSession py w caller pk fresh).1
      ↔ (LifeStep.finish caller pk fresh : LifeStep py).Writes P w := by
  unfold endSession
  simp only [LifeStep.Writes]
  cases hread : readEnd w.db caller pk with
  | error answer => exact iff_of_true hall fun _ h => absurd h (by simp)
  | ok s =>
      obtain ⟨db, hend⟩ := Option.isSome_iff_exists.mp (saveEnd_isSome hread fresh.now)
      simp only [hend, Except.ok.injEq, forall_eq']
      unfold EveryLife
      rw [db_finishEnd]
      exact forall_life_save_iff hall (find?_of_readEnd hread) hend

/-- The clean-up writes TIMEOUT and the time. -/
theorem everyLife_cleanup_iff (hall : EveryLife P w) (now : Instant) :
    EveryLife P { w with db := cleanupExpiredSessions w.db now }
      ↔ (LifeStep.cleanup now : LifeStep py).Writes P w := by
  obtain ⟨_, hsessions, _⟩ := Db.updateSessions_eq_some (cleanupExpiredSessions_eq w.db now)
  show (∀ s ∈ (cleanupExpiredSessions w.db now).voiceSessions, P (lifeOf s)) ↔ _
  rw [hsessions]
  exact Table.forall_updateWhere_iff (P := fun s => P (lifeOf s)) hall

/-- **One request** keeps what holds of every life, exactly if it holds of what the request
writes. -/
theorem everyLife_step_iff (hnew : ∀ t, P ⟨.active, t, none, 0⟩) (hall : EveryLife P w)
    (i : LifeStep py) : EveryLife P (lifeStep w i) ↔ i.Writes P w := by
  cases i with
  | create caller bookingId fresh =>
      exact iff_of_true (everyLife_create hnew hall caller bookingId fresh) trivial
  | turn caller pk req agent fresh => exact everyLife_turn_iff hall caller pk req agent fresh
  | finish caller pk fresh => exact everyLife_finish_iff hall caller pk fresh
  | cleanup now => exact everyLife_cleanup_iff hall now

end

/-! ## §4. Ends that are recorded. -/

/-- A session as it is created. -/
def SessionLife.IsNew (l : SessionLife) : Prop :=
  l.status = .active ∧ l.endedAt = none ∧ l.durationSeconds = 0

/-- **The end is recorded**: a session is ACTIVE as long as it has none. -/
def SessionLife.EndRecorded (l : SessionLife) : Prop := l.status = .active ↔ l.endedAt = none

/-- No turn that reaches the agent fails in it. -/
def LifeStep.AgentAnswers (w : World) : LifeStep py → Prop
  | .turn caller pk req agent _ => ∀ t, readTurn w.db caller pk req = .ok t → agent ≠ .raises
  | _ => True

/-- What is written records the end, unless a turn fails. -/
theorem writes_endRecorded_iff {w : World} (hall : EveryLife SessionLife.EndRecorded w)
    (i : LifeStep py) : i.Writes SessionLife.EndRecorded w ↔ i.AgentAnswers w := by
  cases i with
  | create caller bookingId fresh => exact Iff.rfl
  | turn caller pk req agent fresh =>
      simp only [LifeStep.Writes, LifeStep.AgentAnswers]
      constructor
      · rintro hwrites ⟨user, s, content⟩ hread hraises
        obtain ⟨hrow, hactive⟩ := readTurn_ok hread
        have hopen : s.endedAt = none :=
          (hall s (Table.mem_of_find? hrow)).mp hactive
        -- FAILED, and still without an end
        have hfailed := (hwrites user s content hread hraises).mpr hopen
        exact absurd hfailed (by simp)
      · intro hanswers user s content hread hraises
        exact absurd hraises (hanswers _ hread)
  | finish caller pk fresh =>
      refine iff_of_true (fun s _ => ?_) trivial
      show SessionStatus.completed = .active ↔ some fresh.now = none
      simp
  | cleanup now =>
      refine iff_of_true (fun s _ _ => ?_) trivial
      show SessionStatus.timeout = .active ↔ some now = none
      simp

/-- **Every end is recorded, exactly.**  In a run of session creations, turns, ends and clean-ups
one after another, every session is ACTIVE if and only if it has no end, throughout, if and only
if no turn that reaches the agent fails in it. -/
theorem endsRecorded_iff (w : World) (is : List (LifeStep py))
    (hstart : EveryLife SessionLife.IsNew w) :
    AllStates lifeStep (EveryLife SessionLife.EndRecorded) w is
      ↔ AllSteps lifeStep (fun w' i => i.AgentAnswers w') w is := by
  refine allStates_iff_allSteps (K := fun _ => True) (fun _ _ _ => trivial) ?_ trivial ?_ is
  · intro w' i _ hall
    rw [everyLife_step_iff (fun _ => iff_of_true rfl rfl) hall]
    exact writes_endRecorded_iff hall i
  · intro s hs
    obtain ⟨hactive, hopen, _⟩ := hstart s hs
    exact iff_of_true hactive hopen

theorem demoDesk_isNew : EveryLife SessionLife.IsNew demoDesk := by
  intro s hs
  rw [List.mem_singleton.mp hs]
  exact ⟨rfl, rfl, rfl⟩

/-- The demo guest asks for a massage and ends the session. -/
theorem end_recorded_after_massage :
    AllStates lifeStep (EveryLife SessionLife.EndRecorded) demoDesk
      [.turn (.token 1) 5 demoWords (.replies demoAsk) (demoTurnFresh 31 .accepted .accepted),
        .finish (.token 1) 5 (demoTurnFresh 0 .accepted .accepted)] :=
  (endsRecorded_iff demoDesk _ demoDesk_isNew).mpr ⟨fun _ _ => by simp, trivial, trivial⟩

/-- The agent fails: the session has ended, and has no end. -/
theorem failed_session_has_no_end :
    ¬ ∀ (py : Python) (w : World) (is : List (LifeStep py)), EveryLife SessionLife.IsNew w →
      AllStates lifeStep (EveryLife SessionLife.EndRecorded) w is := by
  intro h
  have hlast := (h plainPython demoDesk
    [.turn (.token 1) 5 demoWords .raises (demoTurnFresh 31 .accepted .accepted)]
    demoDesk_isNew).last
  have hfailed : ∃ s ∈ (processTurn demoDesk (.token 1) 5 demoWords
      (.raises : AgentOutcome plainPython)
      (demoTurnFresh 31 .accepted .accepted)).1.db.voiceSessions.rows,
      s.status = .failed ∧ s.endedAt = none := by decide +kernel
  obtain ⟨s, hs, hstatus, hopen⟩ := hfailed
  have hactive : s.status = .active := (hlast s hs).mpr hopen
  exact absurd (hstatus.symm.trans hactive) (by decide)

/-! ## §5. Durations. -/

/-- The whole seconds between two times. -/
def wholeSeconds (startedAt endedAt : Instant) : Nat := ((endedAt - startedAt) / second).toNat

/-- A day. -/
def day : Int := 86400 * second

/-- **The duration is exact**, where the end is not before the start. -/
def SessionLife.Exact (l : SessionLife) : Prop :=
  ∀ endedAt, l.endedAt = some endedAt → l.startedAt ≤ endedAt →
    l.durationSeconds = wholeSeconds l.startedAt endedAt

/-- An ACTIVE session has no duration yet. -/
def SessionLife.Untimed (l : SessionLife) : Prop := l.status = .active → l.durationSeconds = 0

/-- The number that an event gives. -/
def KafkaEvent.duration (event : KafkaEvent) : Option Json :=
  dictGet? event.payload (txt "duration_seconds")

/-- **The event of an end gives the exact duration.** -/
def EventExact (w : World) : LifeStep py → Prop
  | .finish caller pk fresh =>
    ∀ s, readEnd w.db caller pk = .ok s → s.startedAt ≤ fresh.now →
      ∀ rec ∈ (endSession py w caller pk fresh).1.log.drop w.log.length,
        rec.event.duration = some (.int (wholeSeconds s.startedAt fresh.now))
  | _ => True

/-- **The step ends no session after a day or more, and lets none expire.** -/
def LifeStep.EndsInTime (w : World) : LifeStep py → Prop
  | .finish caller pk fresh =>
    ∀ s, readEnd w.db caller pk = .ok s → s.startedAt ≤ fresh.now →
      fresh.now - s.startedAt < day
  | .cleanup now => ∀ s ∈ w.db.voiceSessions, expired now s = false
  | _ => True

/-- **The seconds within the last day are all of them**, exactly on the first day. -/
theorem durationSeconds_eq_iff {startedAt endedAt : Instant} (h : startedAt ≤ endedAt) :
    durationSeconds startedAt endedAt = wholeSeconds startedAt endedAt
      ↔ endedAt - startedAt < day := by
  have hlast : ∀ d : Int, 0 ≤ d →
      ((d % (86400 * 1000000) / 1000000).toNat = (d / 1000000).toNat ↔ d < 86400 * 1000000) := by
    intro d hd
    omega
  exact hlast (endedAt - startedAt) (sub_nonneg.mpr h)

/-- What has expired is two hours old. -/
theorem wholeSeconds_of_expired {now : Instant} {s : VoiceSession} (h : expired now s = true) :
    s.status = .active ∧ s.startedAt ≤ now ∧ 7200 ≤ wholeSeconds s.startedAt now := by
  have hold : ∀ a b : Int, a < b - 2 * 3600 * 1000000 →
      a ≤ b ∧ 7200 ≤ ((b - a) / 1000000).toNat := by
    intro a b hab
    omega
  unfold expired at h
  rw [Bool.and_eq_true, decide_eq_true_eq, decide_eq_true_eq] at h
  exact ⟨h.1, hold s.startedAt now h.2⟩

section
variable {w : World}

/-- Only what leaves ACTIVE gets a duration. -/
theorem untimed_step (hopen : EveryLife SessionLife.Untimed w) (i : LifeStep py) :
    EveryLife SessionLife.Untimed (lifeStep w i) := by
  rw [everyLife_step_iff (fun _ _ => rfl) hopen]
  cases i with
  | create caller bookingId fresh => trivial
  | turn caller pk req agent fresh =>
      intro user s content _ _ hactive
      exact absurd hactive (by simp)
  | finish caller pk fresh =>
      intro s _ hactive
      exact absurd hactive (by simp)
  | cleanup now =>
      intro s _ _ hactive
      exact absurd hactive (by simp)

/-- What is written is exact, if and only if the session ends in time. -/
theorem writes_exact_iff (hopen : EveryLife SessionLife.Untimed w)
    (hall : EveryLife SessionLife.Exact w) (i : LifeStep py) :
    i.Writes SessionLife.Exact w ↔ i.EndsInTime w := by
  cases i with
  | create caller bookingId fresh => exact Iff.rfl
  | turn caller pk req agent fresh =>
      refine iff_of_true (fun user s content hread _ => ?_) trivial
      -- neither the end nor the duration is written
      obtain ⟨hrow, _⟩ := readTurn_ok hread
      exact hall s (Table.mem_of_find? hrow)
  | finish caller pk fresh =>
      refine forall_congr' fun s => forall_congr' fun _ => ?_
      constructor
      · intro hexact hle
        exact (durationSeconds_eq_iff hle).mp (hexact fresh.now rfl hle)
      · intro hintime endedAt hend hle
        injection hend with hend
        subst hend
        exact (durationSeconds_eq_iff hle).mpr (hintime hle)
  | cleanup now =>
      refine forall_congr' fun s => forall_congr' fun hs => ?_
      constructor
      · intro hexact
        refine Bool.eq_false_iff.mpr fun hexpired => ?_
        obtain ⟨hactive, hle, hold⟩ := wholeSeconds_of_expired hexpired
        -- the duration is still that of an ACTIVE session
        have hzero : s.durationSeconds = 0 := hopen s hs hactive
        have hduration : s.durationSeconds = wholeSeconds s.startedAt now :=
          hexact hexpired now rfl hle
        omega
      · intro hnot hexpired
        rw [hnot] at hexpired
        exact absurd hexpired (by simp)

/-- What an end publishes gives the duration that is stored. -/
theorem duration_of_published {s : VoiceSession} {fresh : SessionFresh} {rec : Record}
    (h : rec ∈ (publish py fresh.produce (txt "VOICE_SESSIONS") (completedEvent s fresh)
      none).records) :
    rec.event.duration = some (.int (durationSeconds s.startedAt fresh.now)) := by
  cases hpub : publish py fresh.produce (txt "VOICE_SESSIONS") (completedEvent s fresh) none with
  | refused =>
      rw [hpub] at h
      exact absurd h (by simp [Published.records])
  | raised =>
      rw [hpub] at h
      exact absurd h (by simp [Published.records])
  | accepted r =>
      rw [hpub] at h
      obtain ⟨_, _, _, hevent⟩ := publish_accepted hpub
      rw [List.mem_singleton.mp h, hevent]
      rfl

/-- What ends in time is published with the exact duration. -/
theorem eventExact_of_endsInTime {i : LifeStep py} (h : i.EndsInTime w) : EventExact w i := by
  cases i with
  | create caller bookingId fresh => trivial
  | turn caller pk req agent fresh => trivial
  | cleanup now => trivial
  | finish caller pk fresh =>
      intro s hread hle rec hrec
      obtain ⟨db, hend⟩ := Option.isSome_iff_exists.mp (saveEnd_isSome hread fresh.now)
      unfold endSession at hrec
      simp only [hread, hend] at hrec
      rw [log_finishEnd, List.drop_left] at hrec
      rw [duration_of_published hrec, (durationSeconds_eq_iff hle).mpr (h s hread hle)]

end

/-- **Every duration is exact, exactly.**  In a run of session creations, turns, ends and
clean-ups one after another, every stored duration is that between start and end, and every
event of an end gives it, if and only if no session is ended after a day or more and none
expires. -/
theorem durationsExact_iff (w : World) (is : List (LifeStep py))
    (hstart : EveryLife SessionLife.IsNew w) :
    AllStates lifeStep (EveryLife SessionLife.Exact) w is ∧ AllSteps lifeStep EventExact w is
      ↔ AllSteps lifeStep (fun w' i => i.EndsInTime w') w is := by
  have hopen : EveryLife SessionLife.Untimed w := fun s hs _ => (hstart s hs).2.2
  have hexact : EveryLife SessionLife.Exact w := by
    intro s hs endedAt hend
    rw [(hstart s hs).2.1] at hend
    exact absurd hend (by simp)
  have hstored : AllStates lifeStep (EveryLife SessionLife.Exact) w is
      ↔ AllSteps lifeStep (fun w' i => i.EndsInTime w') w is := by
    refine allStates_iff_allSteps (K := EveryLife SessionLife.Untimed)
      (fun w' i h => untimed_step h i) ?_ hopen hexact is
    intro w' i hopen' hall
    rw [everyLife_step_iff (fun _ _ h => absurd h (by simp)) hall]
    exact writes_exact_iff hopen' hall i
  rw [hstored]
  refine ⟨And.left, fun hintime => ⟨hintime, ?_⟩⟩
  exact hintime.imp fun w' i h => eventExact_of_endsInTime h

/-- The demo guest ends the session after a second. -/
theorem short_session_is_exact :
    AllStates lifeStep (EveryLife SessionLife.Exact) demoDesk
        [(.finish (.token 1) 5 (demoTurnFresh 0 .accepted .accepted) : LifeStep plainPython)]
      ∧ AllSteps lifeStep EventExact demoDesk
        [(.finish (.token 1) 5 (demoTurnFresh 0 .accepted .accepted) : LifeStep plainPython)] := by
  refine (durationsExact_iff demoDesk _ demoDesk_isNew).mpr ⟨?_, trivial⟩
  intro s hread _
  have hmem := Table.mem_of_find? (readEnd_ok hread).1
  rw [List.mem_singleton.mp hmem]
  decide

/-- The end comes after a day and a second. -/
def demoNextDay : SessionFresh :=
  { demoTurnFresh 0 .accepted .accepted with now := 86401 * second }

/-- The session of a day and a second lasts one second. -/
theorem long_session_lasts_a_second :
    ¬ ∀ (py : Python) (w : World) (is : List (LifeStep py)), EveryLife SessionLife.IsNew w →
      AllStates lifeStep (EveryLife SessionLife.Exact) w is
        ∧ AllSteps lifeStep EventExact w is := by
  intro h
  have hfinish : ∀ {w : World} {fresh : SessionFresh},
      AllStates lifeStep (EveryLife SessionLife.Exact) w
        [(.finish (.token 1) 5 fresh : LifeStep plainPython)] →
      ∀ s ∈ (endSession plainPython w (.token 1) 5 fresh).1.db.voiceSessions.rows,
        (lifeOf s).Exact := fun hstates => hstates.2
  have hlast := hfinish (h plainPython demoDesk [.finish (.token 1) 5 demoNextDay]
    demoDesk_isNew).1
  have hended : ∃ s ∈ (endSession plainPython demoDesk (.token 1) 5
      demoNextDay).1.db.voiceSessions.rows,
      s.status = .completed ∧ s.startedAt = 0 ∧ s.endedAt = some (86401 * second)
        ∧ s.durationSeconds = 1 := by
    decide +kernel
  obtain ⟨s, hs, hstatus, hstart, hend, hduration⟩ := hended
  have hexact := hlast s hs
  unfold lifeOf at hexact
  rw [hstatus, hstart, hend, hduration] at hexact
  exact absurd (hexact (86401 * second) rfl (by decide)) (by decide)

end HotelAgent
