/-
  HotelAgent.Api.RequestCreation — the service request that a turn creates.

  After the transcript is saved, a turn enters one atomic block:

      INSERT of the request
        signal     publishes `created`, keyed by the guest
      link from the session
      view         publishes `created` again

  Every step may fail.  A failure rolls the INSERT and the link back; what the
  Kafka client was given stays given.

  Main results:
    * `createRequest_of_commits`, `createRequest_of_not_commits` — the block
      stores one request and one link, or nothing.
    * `log_createRequest` — what it hands to the Kafka client either way.
    * `processTurn_of_draft`, `processTurn_of_no_draft` — the same for a turn.
-/
import HotelAgent.Api.EventFlow

namespace HotelAgent

open Lib

variable {py : Python}

/-! ## §1. The two events. -/

/-- `publish` returned. -/
def Published.returns : Published → Bool
  | .accepted _ => true
  | .refused => true
  | .raised => false

theorem Published.returns_iff {p : Published} : p.returns = true ↔ p ≠ .raised := by
  cases p with
  | accepted r => simp [Published.returns]
  | refused => simp [Published.returns]
  | raised => simp [Published.returns]

/-- What the `post_save` signal publishes. -/
def RequestDraft.signal (py : Python) (d : RequestDraft) (fresh : SessionFresh) : Published :=
  publish py fresh.signalProduce (txt "SERVICE_REQUESTS") (d.event fresh.signalStamp fresh)
    (some d.guest.id.str)

/-- What the view publishes. -/
def RequestDraft.announce (py : Python) (d : RequestDraft) (fresh : SessionFresh) : Published :=
  publish py fresh.produce (txt "SERVICE_REQUESTS") (d.event fresh.stamp fresh) none

/-! ## §2. The atomic block. -/

/-- The INSERT: the row and the database with it. -/
def RequestDraft.inserts (py : Python) (db : Db) (d : RequestDraft) (fresh : SessionFresh) :
    Option (ServiceRequest × Db) :=
  match d.row py fresh with
  | none => none
  | some row => (db.insertServiceRequest row).map fun db => (row, db)

/-- The block is not rolled back: the INSERT is accepted and neither event raises. -/
def RequestDraft.commits (py : Python) (db : Db) (d : RequestDraft) (fresh : SessionFresh) :
    Bool :=
  (d.inserts py db fresh).isSome && (d.signal py fresh).returns && (d.announce py fresh).returns

/-- The records of the block: the view is reached only if the signal returns. -/
def RequestDraft.records (py : Python) (db : Db) (d : RequestDraft) (fresh : SessionFresh) :
    List Record :=
  if (d.inserts py db fresh).isSome then
    (d.signal py fresh).records
      ++ if (d.signal py fresh).returns then (d.announce py fresh).records else []
  else []

/-- The row of a draft: a fresh key, pending, with the guest, booking and session of the
draft. -/
theorem row_columns {d : RequestDraft} {fresh : SessionFresh} {row : ServiceRequest}
    (h : d.row py fresh = some row) :
    row.id = fresh.id ∧ row.status = .pending ∧ row.guestId = d.guest.id
      ∧ row.bookingId = d.bookingId ∧ row.voiceSessionId = some d.sessionId := by
  unfold RequestDraft.row at h
  split at h
  · injection h with h
    rw [← h]
    exact ⟨rfl, rfl, rfl, rfl, rfl⟩
  -- a column would get `None`
  · exact absurd h (by simp)

/-- **One request is stored**: `stored` is the row as the columns keep it, and the
session is linked to it. -/
structure Db.Gained (db db' : Db) (sessionId : Uuid) (row stored : ServiceRequest) : Prop where
  new : ∀ x ∈ db.serviceRequests, x.id ≠ row.id
  kept : ∃ serviceType priority, varchar 30 row.serviceType = some serviceType
    ∧ varchar 10 row.priority = some priority
    ∧ stored = { row with serviceType := serviceType, priority := priority }
  rows : db'.serviceRequests.rows = db.serviceRequests.rows ++ [stored]
  sessions : db'.voiceSessions = db.voiceSessions.updateWhere (fun s => s.id = sessionId)
    (SessionWrite.addRequest row.id).write (SessionWrite.addRequest row.id).id_eq
  users : db'.users = db.users
  rooms : db'.rooms = db.rooms
  bookings : db'.bookings = db.bookings

/-- A link is stored without touching another column of any row. -/
theorem saveSession_tables {db db' : Db} {id : Uuid} {w : SessionWrite}
    (h : db.saveSession id w = some db') :
    db'.voiceSessions = db.voiceSessions.updateWhere (fun s => s.id = id) w.write w.id_eq
      ∧ db'.users = db.users ∧ db'.rooms = db.rooms ∧ db'.bookings = db.bookings
      ∧ db'.serviceRequests = db.serviceRequests := by
  unfold Db.saveSession at h
  split at h
  · exact (Db.updateSessions_eq_some h).2
  · exact absurd h (by simp)

/-- The block, step by step. -/
theorem createRequest_eq (w : World) (d : RequestDraft) (fresh : SessionFresh) :
    createRequest py w d fresh
      = match d.inserts py w.db fresh with
        | none => (w, none)
        | some (row, db) =>
          if (d.signal py fresh).returns then
            match db.saveSession d.sessionId (.addRequest row.id) with
            | none => ({ w with log := w.log ++ (d.signal py fresh).records }, none)
            | some db =>
              if (d.announce py fresh).returns then
                ({ db := db, log := w.log ++ (d.signal py fresh).records
                    ++ (d.announce py fresh).records }, some row)
              else ({ w with log := w.log ++ (d.signal py fresh).records }, none)
          else (w, none) := by
  unfold createRequest RequestDraft.inserts RequestDraft.signal RequestDraft.announce
  cases d.row py fresh with
  | none => rfl
  | some row =>
      simp only
      cases w.db.insertServiceRequest row with
      | none => rfl
      | some db =>
          simp only [Option.map_some]
          cases publish py fresh.signalProduce (txt "SERVICE_REQUESTS")
            (d.event fresh.signalStamp fresh) (some d.guest.id.str) with
          | raised => rfl
          | refused =>
              cases db.saveSession d.sessionId (.addRequest row.id) with
              | none => rfl
              | some db' =>
                  cases publish py fresh.produce (txt "SERVICE_REQUESTS")
                    (d.event fresh.stamp fresh) none with
                  | raised => rfl
                  | refused => rfl
                  | accepted rec => rfl
          | accepted rec =>
              cases db.saveSession d.sessionId (.addRequest row.id) with
              | none => rfl
              | some db' =>
                  cases publish py fresh.produce (txt "SERVICE_REQUESTS")
                    (d.event fresh.stamp fresh) none with
                  | raised => rfl
                  | refused => rfl
                  | accepted rec => rfl

/-- A row that is inserted is linked: the session is there. -/
theorem linked_of_inserts {db db' : Db} {d : RequestDraft} {fresh : SessionFresh}
    {row : ServiceRequest} (hsession : ∃ s, db.voiceSessions.find? d.sessionId = some s)
    (h : d.inserts py db fresh = some (row, db')) :
    d.row py fresh = some row ∧ db.insertServiceRequest row = some db'
      ∧ ∃ db'', db'.saveSession d.sessionId (.addRequest row.id) = some db'' := by
  unfold RequestDraft.inserts at h
  split at h
  · exact absurd h (by simp)
  next row' hrow =>
    obtain ⟨db₁, hins, heq⟩ := Option.map_eq_some_iff.mp h
    injection heq with hr hd
    subst hr hd
    refine ⟨hrow, hins, Option.isSome_iff_exists.mp (addRequest_isSome ?_ row'.id)⟩
    rw [Db.voiceSessions_insertServiceRequest hins]
    exact hsession

/-- **The block, committed.** -/
theorem createRequest_of_commits {w : World} {d : RequestDraft} {fresh : SessionFresh}
    (hsession : ∃ s, w.db.voiceSessions.find? d.sessionId = some s)
    (h : d.commits py w.db fresh = true) :
    ∃ row stored, d.row py fresh = some row
      ∧ (createRequest py w d fresh).2 = some row
      ∧ w.db.Gained (createRequest py w d fresh).1.db d.sessionId row stored := by
  unfold RequestDraft.commits at h
  simp only [Bool.and_eq_true] at h
  obtain ⟨⟨hins, hsignal⟩, hview⟩ := h
  obtain ⟨⟨row, db⟩, hins⟩ := Option.isSome_iff_exists.mp hins
  obtain ⟨hrow, hdb, db', hadd⟩ := linked_of_inserts hsession hins
  obtain ⟨serviceType, priority, hst, hpr, _, hnew, hrows, husers, hrooms, hbookings,
    hsessions⟩ := Db.insertServiceRequest_eq_some hdb
  obtain ⟨hs', hu', hr', hb', hq'⟩ := saveSession_tables hadd
  refine ⟨row, { row with serviceType := serviceType, priority := priority }, hrow, ?_⟩
  rw [createRequest_eq, hins]
  simp only [hsignal, hadd, hview, if_true]
  refine ⟨trivial, ?_⟩
  exact
    { new := hnew
      kept := ⟨serviceType, priority, hst, hpr, rfl⟩
      rows := by rw [hq', hrows]
      sessions := by rw [hs', hsessions]
      users := hu'.trans husers
      rooms := hr'.trans hrooms
      bookings := hb'.trans hbookings }

/-- **The block, rolled back.** -/
theorem createRequest_of_not_commits {w : World} {d : RequestDraft} {fresh : SessionFresh}
    (h : d.commits py w.db fresh = false) :
    (createRequest py w d fresh).1.db = w.db ∧ (createRequest py w d fresh).2 = none := by
  unfold RequestDraft.commits at h
  rw [createRequest_eq]
  split
  · exact ⟨rfl, rfl⟩
  next row db hins =>
    rw [hins] at h
    split
    next hsignal =>
      split
      · exact ⟨rfl, rfl⟩
      · split
        next hview =>
          -- everything went well, so the block commits
          rw [hsignal, hview] at h
          exact absurd h (by simp)
        · exact ⟨rfl, rfl⟩
    · exact ⟨rfl, rfl⟩

/-- What is raised leaves no record. -/
theorem Published.records_of_not_returns {p : Published} (h : ¬ p.returns = true) : p.records = [] := by
  rw [Published.returns_iff, not_not] at h
  rw [h]
  rfl

/-- **What the block hands to the Kafka client.** -/
theorem log_createRequest {w : World} {d : RequestDraft} (fresh : SessionFresh)
    (hsession : ∃ s, w.db.voiceSessions.find? d.sessionId = some s) :
    (createRequest py w d fresh).1.log = w.log ++ d.records py w.db fresh := by
  rw [createRequest_eq]
  unfold RequestDraft.records
  cases hins : d.inserts py w.db fresh with
  | none => exact (List.append_nil w.log).symm
  | some rowDb =>
      obtain ⟨row, db⟩ := rowDb
      obtain ⟨_, _, db', hadd⟩ := linked_of_inserts hsession hins
      simp only [hadd, Option.isSome_some, if_true]
      -- a signal that raises keeps the view from publishing
      by_cases hsignal : (d.signal py fresh).returns = true
      · rw [if_pos hsignal, if_pos hsignal, ← List.append_assoc]
        split
        · rfl
        next hview =>
          rw [Published.records_of_not_returns hview]
          exact (List.append_nil _).symm
      · rw [if_neg hsignal, if_neg hsignal, Published.records_of_not_returns hsignal]
        exact (List.append_nil w.log).symm

/-! ## §3. The whole turn. -/

/-- The session rows without what a turn or an end writes. -/
def sessionOwners (db : Db) : List (Uuid × Uuid × Option Uuid) :=
  db.voiceSessions.rows.map fun s => (s.id, s.guestId, s.bookingId)

/-- Only columns of sessions that name nobody may differ. -/
structure Db.SameButSessions (db db' : Db) : Prop where
  users : db'.users = db.users
  rooms : db'.rooms = db.rooms
  bookings : db'.bookings = db.bookings
  serviceRequests : db'.serviceRequests = db.serviceRequests
  owners : sessionOwners db' = sessionOwners db

theorem Db.SameButSessions.refl (db : Db) : db.SameButSessions db := ⟨rfl, rfl, rfl, rfl, rfl⟩

/-- No write to a session moves it to another guest or booking. -/
theorem sessionOwners_updateWhere {db : Db} {p : VoiceSession → Bool} (w : SessionWrite) :
    (db.voiceSessions.updateWhere p w.write w.id_eq).rows.map
        (fun s => (s.id, s.guestId, s.bookingId)) = sessionOwners db := by
  unfold sessionOwners Table.updateWhere
  rw [List.map_map]
  -- row by row; a write keeps the three columns by its own fields
  refine List.map_congr_left fun s _ => ?_
  show ((if p s = true then w.write s else s).id, (if p s = true then w.write s else s).guestId,
    (if p s = true then w.write s else s).bookingId) = (s.id, s.guestId, s.bookingId)
  split
  · rw [w.id_eq, w.guestId_eq, w.bookingId_eq]
  · rfl

theorem sameButSessions_of_save {db db' : Db} {id : Uuid} {w : SessionWrite}
    (h : db.saveSession id w = some db') : db.SameButSessions db' := by
  obtain ⟨hsessions, husers, hrooms, hbookings, hrequests⟩ := saveSession_tables h
  refine ⟨husers, hrooms, hbookings, hrequests, ?_⟩
  unfold sessionOwners
  rw [hsessions]
  exact sessionOwners_updateWhere w

/-- Where the turn comes to the atomic block: the database with the saved turn,
and the request that is asked for. -/
def turnDraft (db : Db) (caller : Caller) (pk : Uuid) (req : TurnRequest)
    (agent : AgentOutcome py) (fresh : SessionFresh) : Option (Db × RequestDraft) :=
  match readTurn db caller pk req, agent with
  | .ok (user, s, content), .replies r =>
    match saveTurn db s content r fresh.nowTs, requestDraft user s r with
    | some db, some d => some (db, d)
    | _, _ => none
  | _, _ => none

/-- A draft speaks of the caller, the session and the session's booking. -/
theorem requestDraft_eq_some {user : User} {s : VoiceSession} {r : VoiceAgentResponse py}
    {d : RequestDraft} (h : requestDraft user s r = some d) :
    d.guest = user ∧ d.sessionId = s.id ∧ s.bookingId = some d.bookingId := by
  unfold requestDraft at h
  split at h
  next dict bookingId hdict hbooking =>
    split at h
    · exact absurd h (by simp)
    · injection h with h
      subst h
      exact ⟨rfl, rfl, hbooking⟩
  · exact absurd h (by simp)

section
variable {w : World} {caller : Caller} {pk : Uuid} {req : TurnRequest} {agent : AgentOutcome py}
  {fresh : SessionFresh}

theorem turnDraft_eq_some {db db' : Db} {d : RequestDraft}
    (h : turnDraft db caller pk req agent fresh = some (db', d)) :
    ∃ user s content r, agent = .replies r ∧ readTurn db caller pk req = .ok (user, s, content)
      ∧ saveTurn db s content r fresh.nowTs = some db' ∧ requestDraft user s r = some d := by
  unfold turnDraft at h
  split at h
  next user s content r hread =>
    split at h
    next db₁ d₁ hsave hdraft =>
      injection h with h
      injection h with hdb hd
      subst hdb hd
      exact ⟨user, s, content, r, rfl, hread, hsave, hdraft⟩
    · exact absurd h (by simp)
  · exact absurd h (by simp)

/-- What is asked of whatever pair is found is asked of that one. -/
theorem forall_found_iff {α β : Type*} {found : Option (α × β)} {a : α} {b : β}
    {P : α → β → Prop} (h : found = some (a, b)) :
    (∀ a' b', found = some (a', b') → P a' b') ↔ P a b := by
  constructor
  · intro hall
    exact hall a b h
  · intro hP a' b' h'
    rw [h] at h'
    injection h' with h'
    injection h' with ha hb
    rw [← ha, ← hb]
    exact hP

/-- **A turn that comes to the block** does there what the block does. -/
theorem processTurn_of_draft {db' : Db} {d : RequestDraft}
    (h : turnDraft w.db caller pk req agent fresh = some (db', d)) :
    (processTurn w caller pk req agent fresh).1
      = (createRequest py { w with db := db' } d fresh).1 := by
  obtain ⟨user, s, content, r, rfl, hread, hsave, hdraft⟩ := turnDraft_eq_some h
  unfold processTurn
  simp only [hread, hsave, finishTurn, hdraft]
  split
  next w' hcreate => rw [hcreate]
  next w' row hcreate => rw [hcreate]

/-- Up to the block only the session is written, and it is there to be linked. -/
theorem sameButSessions_of_draft {db db' : Db} {d : RequestDraft}
    (h : turnDraft db caller pk req agent fresh = some (db', d)) :
    db.SameButSessions db' ∧ ∃ s, db'.voiceSessions.find? d.sessionId = some s := by
  obtain ⟨user, s, content, r, _, _, hsave, hdraft⟩ := turnDraft_eq_some h
  refine ⟨sameButSessions_of_save hsave, ?_⟩
  obtain ⟨row, _, _, hfind, _⟩ := Db.saveSession_eq_some hsave
  rw [(requestDraft_eq_some hdraft).2.1]
  exact ⟨_, hfind⟩

/-- What is left of a turn that does not come to the block. -/
theorem processTurn_eq_of_no_draft : turnDraft w.db caller pk req agent fresh = none →
    processTurn w caller pk req agent fresh
      = match readTurn w.db caller pk req, agent with
        | .error answer, _ => (w, answer)
        | .ok (_, s, _), .raises =>
          match failTurn w.db s with
          | none => (w, .serverError)
          | some db => ({ w with db := db }, .agentFailed)
        | .ok (_, s, content), .replies r =>
          match saveTurn w.db s content r fresh.nowTs with
          | none => (w, .serverError)
          | some db => ({ w with db := db }, .turn r.text none) := by
  intro h
  unfold processTurn
  unfold turnDraft at h
  cases hread : readTurn w.db caller pk req with
  | error answer => rfl
  | ok t =>
      obtain ⟨user, s, content⟩ := t
      cases agent with
      | raises => rfl
      | replies r =>
          simp only
          cases hsave : saveTurn w.db s content r fresh.nowTs with
          | none => rfl
          | some db =>
              simp only [hread, hsave] at h
              cases hdraft : requestDraft user s r with
              | none => simp only [finishTurn, hdraft]
              | some d =>
                  rw [hdraft] at h
                  exact absurd h (by simp)

/-- **A turn that does not come to the block** creates and publishes nothing. -/
theorem processTurn_of_no_draft
    (h : turnDraft w.db caller pk req agent fresh = none) :
    w.db.SameButSessions (processTurn w caller pk req agent fresh).1.db
      ∧ (processTurn w caller pk req agent fresh).1.log = w.log := by
  have hsame := Db.SameButSessions.refl w.db
  rw [processTurn_eq_of_no_draft h]
  split
  · exact ⟨hsame, rfl⟩
  · split
    · exact ⟨hsame, rfl⟩
    next db hfail => exact ⟨sameButSessions_of_save hfail, rfl⟩
  · split
    · exact ⟨hsame, rfl⟩
    next db hsave => exact ⟨sameButSessions_of_save hsave, rfl⟩

end

/-! ## §4. Somebody asks for a massage. -/

/-- The reply to such a turn. -/
def demoAsk : VoiceAgentResponse plainPython where
  text := txt "Of course."
  audioData := none
  serviceRequest := some
    { fields := [(txt "service_type", .str (txt "spa")), (txt "priority", .str (txt "low")),
        (txt "description", .str (txt "massage"))]
      floatsOk := ⟨trivial, trivial, trivial, trivial⟩ }
  tokensUsed := 5
  ttsChars := 3

/-- The turn's words. -/
def demoWords : TurnRequest := { text := some (txt "A massage, please"), audio := none }

/-- Fresh values for a request with the key `n`, and what the client does with the
events of the signal and of the view. -/
def demoTurnFresh (n : Nat) (signal view : ProduceOutcome) : SessionFresh where
  id := n
  now := second
  nowTs := txt "now"
  stamp := { eventId := 1, timestamp := [] }
  produce := view
  signalStamp := { eventId := 2, timestamp := [] }
  signalProduce := signal

end HotelAgent
