/-
  HotelAgent.Api.SessionStream — the topic of voice sessions and their table.

  A consumer that reads the events of one session on the topic is told a story:

      started guest   completed duration tokens

  and a stored row has the story that it should have told.  What the requests do
  to both:

      create      started          a new row
      end         completed        the row is COMPLETED
      DELETE         —             the row is gone, its story is not
      a turn, PUT, the clean-up, everything else:  neither

  Main results:
    * `sessionEffect_serve` — every request is one of these.
    * `topicTells_iff` — along runs the topic tells of every session exactly the
      story of its row, if and only if no event of a session is lost and no
      session is deleted.
-/
import HotelAgent.Api.RequestEvents
import HotelAgent.Api.SessionEnds
import HotelAgent.Api.Standing

namespace HotelAgent

open Lib

variable {py : Python}

/-! ## §1. Stories. -/

/-- What an event of the topic says about a session. -/
inductive SessionNews where
  | started (sessionId guestId : Text)
  | completed (sessionId : Text) (durationSeconds tokensUsed : Int)
  deriving DecidableEq

/-- The session that the news speaks of. -/
def SessionNews.sessionId : SessionNews → Text
  | .started id _ => id
  | .completed id _ _ => id

/-- The news in the payload of an event. -/
def KafkaEvent.sessionNews (event : KafkaEvent) : Option SessionNews :=
  let field := fun name : String => dictGet? event.payload (txt name)
  match field "action", field "session_id" with
  | some (.str action), some (.str id) =>
    if action = txt "started" then
      match field "guest_id" with
      | some (.str guest) => some (.started id guest)
      | _ => none
    else if action = txt "completed" then
      match field "duration_seconds", field "tokens_used" with
      | some (.int duration), some (.int tokens) => some (.completed id duration tokens)
      | _, _ => none
    else none
  | _, _ => none

/-- The news of the topic of voice sessions, in the order of the log. -/
def sessionNewsOf (log : List Record) : List SessionNews :=
  log.filterMap fun rec =>
    if topicOf (txt "VOICE_SESSIONS") = some rec.topic then rec.event.sessionNews else none

/-- What the topic tells of one session. -/
def told (log : List Record) (id : Uuid) : List SessionNews :=
  (sessionNewsOf log).filter fun news => news.sessionId = id.str

/-- What there is to tell of a row. -/
def VoiceSession.story (s : VoiceSession) : List SessionNews :=
  .started s.id.str s.guestId.str ::
    if s.status = .completed then [.completed s.id.str s.durationSeconds s.tokensUsed] else []

def Db.storyOf (db : Db) (id : Uuid) : List SessionNews :=
  match db.voiceSessions.find? id with
  | some s => s.story
  | none => []

/-- **The topic tells of every session** the story of its row. -/
def TopicTells (w : World) : Prop := ∀ id, told w.log id = w.db.storyOf id

theorem sessionNewsOf_append (a b : List Record) :
    sessionNewsOf (a ++ b) = sessionNewsOf a ++ sessionNewsOf b :=
  List.filterMap_append

theorem told_append (a b : List Record) (id : Uuid) :
    told (a ++ b) id = told a id ++ told b id := by
  unfold told
  rw [sessionNewsOf_append, List.filter_append]

/-- **The news of one event**, where the client takes it. -/
theorem told_accepted {p : PublishCall} {rec : Record} {news : SessionNews}
    (h : p.published py = .accepted rec) (htopic : p.topicKey = txt "VOICE_SESSIONS")
    (hnews : p.event.sessionNews = some news) (id : Uuid) :
    told [rec] id = if news.sessionId = id.str then [news] else [] := by
  obtain ⟨hrec, _, _, hevent⟩ := publish_accepted h
  rw [htopic] at hrec
  unfold told
  have hone : sessionNewsOf [rec] = [news] := by
    simp only [sessionNewsOf, List.filterMap_cons, List.filterMap_nil, if_pos hrec, hevent, hnews]
  rw [hone, List.filter_cons]
  simp only [decide_eq_true_eq, List.filter_nil]

/-- Events of other topics tell nothing. -/
theorem told_silent {calls : List PublishCall}
    (h : ∀ p ∈ calls, topicOf p.topicKey ≠ topicOf (txt "VOICE_SESSIONS")) (id : Uuid) :
    told (handedOver py calls) id = [] := by
  have hnone : sessionNewsOf (handedOver py calls) = [] := by
    unfold sessionNewsOf
    rw [List.filterMap_eq_nil_iff]
    intro rec hrec
    obtain ⟨p, hp, haccepted⟩ := mem_handedOver hrec
    obtain ⟨htopic, _⟩ := publish_accepted haccepted
    rw [if_neg]
    intro hsame
    exact h p hp (htopic.trans hsame.symm)
  unfold told
  rw [hnone]
  rfl

/-! ## §2. What a request does to the stories. -/

/-- **The effect of a request** on the sessions and their topic. -/
inductive SessionEffect (db db' : Db) (calls : List PublishCall) (deleted : Option Uuid) :
    Prop where
  | quiet (stories : ∀ id, db'.storyOf id = db.storyOf id)
      (silent : ∀ p ∈ calls, topicOf p.topicKey ≠ topicOf (txt "VOICE_SESSIONS"))
      (none : deleted = none)
  | tells (id : Uuid) (p : PublishCall) (news : SessionNews) (calls_eq : calls = [p])
      (topic : p.topicKey = txt "VOICE_SESSIONS") (hnews : p.event.sessionNews = some news)
      (about : news.sessionId = id.str)
      (stories : ∀ id', db'.storyOf id' = db.storyOf id' ++ if id = id' then [news] else [])
      (none : deleted = none)
  | deletes (id : Uuid) (deleted_eq : deleted = some id) (stored : db.storyOf id ≠ [])
      (gone : db'.storyOf id = []) (silent : calls = [])

section
variable {db db' : Db}

theorem storyOf_congr (h : db'.voiceSessions = db.voiceSessions) (id : Uuid) :
    db'.storyOf id = db.storyOf id := by
  unfold Db.storyOf
  rw [h]

/-- An UPDATE that keeps the story of every row it reaches. -/
theorem storyOf_updateWhere {p : VoiceSession → Bool} {f : VoiceSession → VoiceSession}
    (hf : ∀ s, (f s).id = s.id) (h : db'.voiceSessions = db.voiceSessions.updateWhere p f hf)
    (hstory : ∀ s ∈ db.voiceSessions, p s = true → (f s).story = s.story) (id : Uuid) :
    db'.storyOf id = db.storyOf id := by
  unfold Db.storyOf
  rw [h, Table.find?_updateWhere]
  cases hrow : db.voiceSessions.find? id with
  | none => rfl
  | some s =>
      show (if p s then f s else s).story = s.story
      split
      next hp => exact hstory s (Table.mem_of_find? hrow) hp
      · rfl

/-- A save into the row with the key `id`. -/
theorem storyOf_saveSession {id : Uuid} {w : SessionWrite} {row : VoiceSession}
    (hrow : db.voiceSessions.find? id = some row) (hstory : (w.write row).story = row.story)
    (h : db.saveSession id w = some db') (id' : Uuid) : db'.storyOf id' = db.storyOf id' := by
  refine storyOf_updateWhere _ (saveSession_tables h).1 (fun s hs hsid => ?_) id'
  obtain ⟨hmem, hid⟩ := Table.find?_eq_some_iff.mp hrow
  rw [Table.eq_of_key_eq hs hmem ((of_decide_eq_true hsid).trans hid.symm)]
  exact hstory

/-- Statements on other tables: only the links of the sessions change. -/
theorem storyOf_aside (h : db.LeadsAside db') (id : Uuid) : db'.storyOf id = db.storyOf id := by
  induction h with
  | refl => rfl
  | tail _ hstep ih =>
      refine Eq.trans ?_ ih
      rcases sessions_of_other hstep with hsessions | ⟨key, rfl⟩
      · exact storyOf_congr hsessions id
      · have hlinks : ∀ s : VoiceSession, VoiceSession.id { s with
            serviceRequestsCreated := s.serviceRequestsCreated.filter (· ≠ key) } = s.id :=
          fun _ => rfl
        exact storyOf_updateWhere (p := fun _ => true) hlinks rfl (fun _ _ _ => rfl) id

/-- A new row. -/
theorem storyOf_insertSession {row : VoiceSession} (h : db.insertSession row = some db')
    (id : Uuid) :
    db'.storyOf id = db.storyOf id ++ if row.id = id then row.story else [] := by
  obtain ⟨_, hnew, hrows, _⟩ := Db.insertSession_eq_some h
  unfold Db.storyOf Table.find?
  rw [hrows, List.find?_append]
  by_cases hid : row.id = id
  · have hnone : db.voiceSessions.rows.find? (fun s => s.id = id) = none := by
      rw [List.find?_eq_none]
      intro s hs hsid
      exact hnew s hs ((of_decide_eq_true hsid).trans hid.symm)
    rw [hnone, if_pos hid]
    simp [hid]
  · simp [hid]

/-- The row of a session is gone. -/
theorem storyOf_deleteSession (db : Db) (id : Uuid) : (db.deleteSession id).storyOf id = [] := by
  unfold Db.storyOf
  have hnone : (db.deleteSession id).voiceSessions.find? id = none := by
    rw [Table.find?_eq_none_iff]
    intro s hs
    exact (Table.mem_erase.mp hs).2
  rw [hnone]

/-- **An end** adds `completed` to the story of the row. -/
theorem storyOf_saveEnd {caller : Caller} {pk : Uuid} {s : VoiceSession} {now : Instant}
    (hread : readEnd db caller pk = .ok s) (h : saveEnd db s now = some db') (id : Uuid) :
    db'.storyOf id = db.storyOf id ++ if s.id = id
      then [.completed s.id.str (durationSeconds s.startedAt now) s.tokensUsed] else [] := by
  have hrow := find?_of_readEnd hread
  have hactive := (readEnd_ok hread).2
  unfold Db.storyOf
  rw [(saveSession_tables h).1, Table.find?_updateWhere]
  by_cases hid : s.id = id
  · subst hid
    rw [hrow, if_pos rfl]
    simp [VoiceSession.story, SessionWrite.complete, hactive]
  · rw [if_neg hid, List.append_nil]
    cases hfind : db.voiceSessions.find? id with
    | none => rfl
    | some x =>
        have hne : ¬ x.id = s.id := fun hx => hid (hx.symm.trans (Table.key_of_find? hfind))
        simp [hne]

end

/-! ## §3. Voice sessions. -/

section
variable {w : World} {caller : Caller}

theorem sessionEffect_create (bookingId : Option Uuid) (fresh : SessionFresh) :
    SessionEffect w.db (createSession py w caller bookingId fresh).1.db
      ((openedSession w.db caller bookingId fresh).toList.map fun (user, booking) =>
        startedCall w.db user booking fresh) none := by
  have hquiet : SessionEffect w.db w.db [] none :=
    .quiet (fun _ => rfl) (fun _ hp => absurd hp List.not_mem_nil) rfl
  unfold createSession openedSession
  cases requireUser w.db caller with
  | error answer => exact hquiet
  | ok user =>
      simp only
      generalize bookingId.bind (checkedInBooking w.db user) = booking
      by_cases hno : bookingId.isSome ∧ booking = none
      · rw [if_pos hno, if_pos hno]
        exact hquiet
      · rw [if_neg hno, if_neg hno]
        cases hins : w.db.insertSession (newSession user (booking.map Booking.id) fresh) with
        | none => exact hquiet
        | some db =>
            simp only [Option.isSome_some, if_true, Option.toList_some, List.map_cons,
              List.map_nil]
            refine .tells fresh.id (startedCall w.db user booking fresh)
              (.started fresh.id.str user.id.str) rfl rfl rfl rfl (fun id => ?_) rfl
            refine Eq.trans ?_ (storyOf_insertSession hins id)
            -- the row stays where the event raises
            split
            · rfl
            · rfl

theorem sessionEffect_end (pk : Uuid) (fresh : SessionFresh) :
    SessionEffect w.db (endSession py w caller pk fresh).1.db
      ((endedSession w.db caller pk fresh.now).toList.map fun s => completedCall s fresh) none := by
  have hquiet : SessionEffect w.db w.db [] none :=
    .quiet (fun _ => rfl) (fun _ hp => absurd hp List.not_mem_nil) rfl
  unfold endSession endedSession
  cases hread : readEnd w.db caller pk with
  | error answer => exact hquiet
  | ok s =>
      simp only
      cases hsave : saveEnd w.db s fresh.now with
      | none => exact hquiet
      | some db =>
          simp only [Option.isSome_some, if_true, Option.toList_some, List.map_cons, List.map_nil]
          refine .tells s.id (completedCall s fresh) (.completed s.id.str
            (durationSeconds s.startedAt fresh.now) s.tokensUsed) rfl rfl rfl rfl (fun id => ?_) rfl
          rw [db_finishEnd]
          exact storyOf_saveEnd hread hsave id

/-- A turn writes into an ACTIVE session, which has no end to tell of. -/
theorem storyOf_turn (pk : Uuid) (req : TurnRequest) (agent : AgentOutcome py)
    (fresh : SessionFresh) (id : Uuid) :
    (processTurn w caller pk req agent fresh).1.db.storyOf id = w.db.storyOf id := by
  have hsaveTurn : ∀ {user s content db} {r : VoiceAgentResponse py},
      readTurn w.db caller pk req = .ok (user, s, content)
        → saveTurn w.db s content r fresh.nowTs = some db → db.storyOf id = w.db.storyOf id := by
    intro user s content db r hread hsave
    refine storyOf_saveSession (find?_of_readTurn hread) ?_ hsave id
    simp [VoiceSession.story, SessionWrite.turn, (readTurn_ok hread).2]
  cases hdraft : turnDraft w.db caller pk req agent fresh with
  | some found =>
      obtain ⟨db, d⟩ := found
      obtain ⟨_, hsession⟩ := sameButSessions_of_draft hdraft
      obtain ⟨user, s, content, r, _, hread, hsave, _⟩ := turnDraft_eq_some hdraft
      rw [processTurn_of_draft hdraft]
      refine Eq.trans ?_ (hsaveTurn hread hsave)
      cases hcommits : d.commits py db fresh with
      | false => rw [(createRequest_of_not_commits (w := { w with db := db }) hcommits).1]
      | true =>
          obtain ⟨row, _, _, _, hgained⟩ :=
            createRequest_of_commits (w := { w with db := db }) hsession hcommits
          exact storyOf_updateWhere _ hgained.sessions (fun _ _ _ => rfl) id
  | none =>
      rw [processTurn_eq_of_no_draft hdraft]
      split
      · rfl
      next user s content hread =>
        split
        · rfl
        next db hfail =>
          refine storyOf_saveSession (find?_of_readTurn hread) ?_ hfail id
          simp [VoiceSession.story, SessionWrite.fail, (readTurn_ok hread).2]
      next user s content r hread =>
        split
        · rfl
        next db hsave => exact hsaveTurn hread hsave

/-- A turn speaks on the topic of service requests. -/
theorem topic_turnCalls {db : Db} {pk : Uuid} {req : TurnRequest} {agent : AgentOutcome py}
    {fresh : SessionFresh} {p : PublishCall} (h : p ∈ turnCalls db caller pk req agent fresh) :
    p.topicKey = txt "SERVICE_REQUESTS" := by
  unfold turnCalls at h
  split at h
  next db₁ d _ =>
    unfold RequestDraft.calls at h
    split at h
    · rcases List.mem_cons.mp h with rfl | h
      · rfl
      · rw [List.mem_singleton.mp h]
        rfl
    · exact absurd h List.not_mem_nil
  · exact absurd h List.not_mem_nil

/-! ## §4. Requests. -/

/-- The session that a request deletes. -/
def deletedSession (D : Deployment) (db : Db) : ApiRequest py → Option Uuid
  | .write cred query (.voice (.destroy pk)) =>
    match cred.user db with
    | .error _ => none
    | .ok user =>
      match user.map fun user => sessionObject D.filters query db user pk with
      | some (.ok s) => some s.id
      | _ => none
  | _ => none

theorem sessionEffect_quiet {db : Db} : SessionEffect db db [] none :=
  .quiet (fun _ => rfl) (fun _ hp => absurd hp List.not_mem_nil) rfl

theorem sessionEffect_voice (D : Deployment) {cred : Credentials} {query : Query}
    {user : Option User} (huser : cred.user w.db = .ok user) (call : VoiceWrite py) :
    SessionEffect w.db (call.handle D.filters w cred.caller user query).db
      (call.calls D.filters w.db cred.caller user query)
      (deletedSession D w.db (.write cred query (.voice call) : ApiRequest py)) := by
  cases call with
  | create body fresh =>
      simp only [VoiceWrite.handle, VoiceWrite.calls, deletedSession]
      cases user with
      | none => exact sessionEffect_quiet
      | some u =>
          cases body.read with
          | error response => exact sessionEffect_quiet
          | ok booking =>
              rcases booking with _ | _ | id
              · exact sessionEffect_create none fresh
              · exact sessionEffect_quiet
              · exact sessionEffect_create (some id) fresh
  | update pk =>
      simp only [VoiceWrite.handle, VoiceWrite.calls, deletedSession]
      rcases hobject : user.map fun user => sessionObject D.filters query w.db user pk
        with _ | response | s
      · exact sessionEffect_quiet
      · exact sessionEffect_quiet
      · simp only
        cases hsave : w.db.saveSession s.id (.rewrite s) with
        | none => exact sessionEffect_quiet
        | some db =>
            obtain ⟨u, _, hread⟩ := Option.map_eq_some_iff.mp hobject
            obtain ⟨row, hrow, hcolumns, _⟩ := sessionObject_ok hread
            refine .quiet (fun id => storyOf_saveSession hrow ?_ hsave id)
              (fun _ hp => absurd hp List.not_mem_nil) rfl
            -- every column comes from the copy that was just read
            rw [← hcolumns]
            rfl
  | destroy pk =>
      simp only [VoiceWrite.handle, VoiceWrite.calls, deletedSession, huser]
      rcases hobject : user.map fun user => sessionObject D.filters query w.db user pk
        with _ | response | s
      · exact sessionEffect_quiet
      · exact sessionEffect_quiet
      · obtain ⟨u, _, hread⟩ := Option.map_eq_some_iff.mp hobject
        obtain ⟨row, hrow, _⟩ := sessionObject_ok hread
        refine .deletes s.id rfl ?_ (storyOf_deleteSession w.db s.id) rfl
        unfold Db.storyOf
        rw [hrow]
        exact List.cons_ne_nil _ _
  | turn pk body optionErrors agent fresh =>
      simp only [VoiceWrite.handle, VoiceWrite.calls, deletedSession]
      rcases user.map fun user => sessionObject D.filters query w.db user pk with _ | response | s
      · exact sessionEffect_quiet
      · exact sessionEffect_quiet
      · simp only
        cases body.read with
        | error response => exact sessionEffect_quiet
        | ok data =>
            simp only
            split
            · exact sessionEffect_quiet
            · refine .quiet (fun id => storyOf_turn s.id data agent fresh id) (fun p hp => ?_) rfl
              rw [topic_turnCalls hp]
              decide
  | finish pk fresh =>
      simp only [VoiceWrite.handle, VoiceWrite.calls, deletedSession]
      rcases user.map fun user => sessionObject D.filters query w.db user pk with _ | response | s
      · exact sessionEffect_quiet
      · exact sessionEffect_quiet
      · exact sessionEffect_end s.id fresh

/-- The other writes speak on other topics. -/
theorem topic_ownedCalls {F : Filters} {db : Db} {user : Option User} {query : Query}
    {call : OwnedWrite} {p : PublishCall} (h : p ∈ call.calls F db caller user query py) :
    topicOf p.topicKey ≠ topicOf (txt "VOICE_SESSIONS") := by
  have hone : ∀ {α : Type} {made : Option α} {call : α → PublishCall} (topic : Text),
      (∀ a, (call a).topicKey = topic) → topicOf topic ≠ topicOf (txt "VOICE_SESSIONS")
        → p ∈ made.toList.map call → topicOf p.topicKey ≠ topicOf (txt "VOICE_SESSIONS") := by
    intro α made call topic hkey hne hp
    obtain ⟨a, _, rfl⟩ := List.mem_map.mp hp
    rw [hkey]
    exact hne
  cases call with
  | assign pk fresh =>
      simp only [OwnedWrite.calls] at h
      exact hone (txt "SERVICE_REQUESTS") (fun _ => rfl) (by decide) h
  | complete pk body fresh =>
      simp only [OwnedWrite.calls] at h
      split at h
      · exact absurd h List.not_mem_nil
      · exact hone (txt "NOTIFICATIONS") (fun _ => rfl) (by decide) h
  | createBooking body fresh =>
      simp only [OwnedWrite.calls] at h
      split at h
      · exact absurd h List.not_mem_nil
      · split at h
        · exact absurd h List.not_mem_nil
        · exact hone (txt "AUDIT_LOG") (fun _ => rfl) (by decide) h
  | _ => exact absurd h List.not_mem_nil

/-- **Every request** is quiet, tells of one session or deletes one. -/
theorem sessionEffect_serve (D : Deployment) (w : World) (latencyMs : Text)
    (request : ApiRequest py) :
    SessionEffect w.db (request.serve D w latencyMs).1.db (request.calls D w.db)
      (deletedSession D w.db request) := by
  cases request with
  | read cred query call => exact sessionEffect_quiet
  | rooms cred query pk => exact sessionEffect_quiet
  | write cred query call =>
      rw [world_serve]
      unfold perform
      cases call with
      | voice call =>
          cases huser : cred.user w.db with
          | error response =>
              have hnone : deletedSession D w.db (.write cred query (.voice call) : ApiRequest py)
                  = none := by
                cases call with
                | destroy pk => simp only [deletedSession, huser]
                | _ => rfl
              rw [hnone]
              simp only [ApiRequest.calls, huser]
              exact sessionEffect_quiet
          | ok user =>
              simp only [ApiRequest.calls, huser]
              exact sessionEffect_voice D huser call
      | owned call =>
          cases huser : cred.user w.db with
          | error response =>
              simp only [ApiRequest.calls, huser]
              exact sessionEffect_quiet
          | ok user =>
              simp only [ApiRequest.calls, huser]
              exact .quiet
                (fun id => storyOf_aside (aside_owned D.filters query call).leadsAside id)
                (fun _ hp => topic_ownedCalls hp) rfl
  | register body remoteAddr fresh =>
      exact .quiet (fun id => storyOf_aside (aside_register D.inet w body remoteAddr fresh) id)
        (fun _ hp => absurd hp List.not_mem_nil) rfl
  | token req now =>
      exact .quiet (fun id => storyOf_aside (aside_tokenPost D.jwt D.inet w.db req now) id)
        (fun _ hp => absurd hp List.not_mem_nil) rfl

end

/-! ## §5. Runs. -/

/-- **Nothing is lost**: the request deletes no session, and the client takes every event of a
session. -/
def KeepsStory (D : Deployment) (w : World) : ServiceStep py → Prop
  | .request call =>
    deletedSession D w.db call.request = none
      ∧ ∀ p ∈ call.request.calls D w.db, p.topicKey = txt "VOICE_SESSIONS" →
        (p.published py).isAccepted = true
  | .cleanup _ => True

/-- **One request** keeps the stories, exactly if nothing is lost. -/
theorem topicTells_effect_iff {w w' : World} {calls : List PublishCall} {deleted : Option Uuid}
    (h : TopicTells w) (heffect : SessionEffect w.db w'.db calls deleted)
    (hlog : w'.log = w.log ++ handedOver py calls) :
    TopicTells w' ↔ deleted = none
      ∧ ∀ p ∈ calls, p.topicKey = txt "VOICE_SESSIONS" → (p.published py).isAccepted = true := by
  cases heffect with
  | quiet stories silent none =>
      refine iff_of_true (fun id => ?_) ⟨none, fun p hp htopic => ?_⟩
      · rw [hlog, told_append, told_silent silent, List.append_nil, stories]
        exact h id
      · exact absurd (by rw [htopic]) (silent p hp)
  | tells id p news calls_eq topic hnews about stories none =>
      subst calls_eq
      rw [handedOver_single] at hlog
      simp only [List.mem_singleton, forall_eq, topic, forall_true_left, none, true_and]
      -- the row has one more thing to tell; without the record the topic has not
      have hlost : (p.published py).records = [] → ¬ TopicTells w' := by
        intro hrecords htells
        have htold := htells id
        rw [hlog, hrecords, List.append_nil, h id, stories, if_pos rfl] at htold
        have hlength := congrArg List.length htold
        rw [List.length_append, List.length_singleton] at hlength
        omega
      cases hpub : p.published py with
      | accepted rec =>
          refine iff_of_true (fun id' => ?_) rfl
          rw [hlog, hpub, Published.records, told_append, told_accepted hpub topic hnews, stories,
            h id', about]
          congr 1
          by_cases hid : id = id'
          · rw [if_pos hid, if_pos (by rw [hid])]
          · rw [if_neg hid, if_neg fun hstr => hid (Uuid.str_injective hstr)]
      | refused =>
          exact iff_of_false (hlost (by rw [hpub]; rfl)) fun haccepted =>
            absurd haccepted (by decide)
      | raised =>
          exact iff_of_false (hlost (by rw [hpub]; rfl)) fun haccepted =>
            absurd haccepted (by decide)
  | deletes id deleted_eq stored gone silent =>
      refine iff_of_false (fun htells => ?_) fun hnone => ?_
      · refine stored ?_
        rw [← h id, ← gone, ← htells id, hlog, silent]
        exact congrArg (fun log => told log id) (List.append_nil w.log).symm
      · rw [deleted_eq] at hnone
        exact absurd hnone.1 (by simp)

/-- The clean-up writes TIMEOUT, which the topic does not tell. -/
theorem storyOf_cleanup (db : Db) (now : Instant) (id : Uuid) :
    (cleanupExpiredSessions db now).storyOf id = db.storyOf id := by
  obtain ⟨_, hsessions, _⟩ := Db.updateSessions_eq_some (cleanupExpiredSessions_eq db now)
  refine storyOf_updateWhere _ hsessions (fun s _ hs => ?_) id
  have hactive : s.status = .active := by
    unfold expired at hs
    rw [Bool.and_eq_true] at hs
    exact of_decide_eq_true hs.1
  simp [VoiceSession.story, SessionWrite.expire, hactive]

/-- **The topic tells the sessions, exactly.**  Along a run of requests and clean-ups the topic of
voice sessions tells of every session just the story of its row, if and only if no event of a
session is lost and no session is deleted. -/
theorem topicTells_iff (D : Deployment) (w : World) (is : List (ServiceStep py))
    (hstart : TopicTells w) :
    AllStates (serviceStep D) TopicTells w is ↔ AllSteps (serviceStep D) (KeepsStory D) w is := by
  refine allStates_iff_allSteps (K := fun _ => True) (fun _ _ _ => trivial) ?_ trivial hstart is
  intro w i _ h
  cases i with
  | request call =>
      exact topicTells_effect_iff h (sessionEffect_serve D w call.latencyMs call.request)
        (log_serve D w call.latencyMs call.request)
  | cleanup now =>
      refine iff_of_true (fun id => ?_) trivial
      rw [show (serviceStep D w (.cleanup now)).db = cleanupExpiredSessions w.db now from rfl,
        storyOf_cleanup]
      exact h id

/-- A session that is opened and ended. -/
theorem topic_tells_of_one_session :
    AllStates (serviceStep plainDeployment) TopicTells demoHotel
      (demoSessionCalls.map ServiceStep.request) :=
  (topicTells_iff plainDeployment demoHotel _ fun _ => rfl).mpr
    ⟨⟨by decide +kernel, by decide +kernel⟩, ⟨by decide +kernel, by decide +kernel⟩, trivial⟩

end HotelAgent
