/-
  HotelAgent.Api.RequestEvents — what the topic of service requests tells.

  Requests are created by turns and by saves elsewhere (the admin site, a
  shell), inside transactions that may roll back, and then moved by `assign`,
  `complete`, PUT and PATCH.  In a transaction the foreign keys are checked by
  the COMMIT only, when the signal has long published.  Each step is one of
  three things to the table and the log, its `SaveEffect`:

      nothing     rows and log stay
      inserted    a new row, committed or not, and the records handed over
      rewritten   a row written over, and the records handed over

  Main results:
    * `saveEffect_happened` — every step has its effect.
    * `announcedOnce_iff` — the `created` events name every committed request
      once and nothing else, exactly along the runs in which every insert hands
      over one record if it commits and none if it does not.
-/
import HotelAgent.Api.RequestAccess
import HotelAgent.Api.RequestCreation

namespace HotelAgent

open Lib

variable {py : Python}

/-! ## §1. Steps. -/

/-- A row as the columns keep it. -/
def ServiceRequest.kept (r : ServiceRequest) : ServiceRequest :=
  { r with
    serviceType := (varchar 30 r.serviceType).getD r.serviceType
    priority := (varchar 10 r.priority).getD r.priority }

@[simp] theorem ServiceRequest.kept_id (r : ServiceRequest) : r.kept.id = r.id := rfl

@[simp] theorem ServiceRequest.kept_status (r : ServiceRequest) : r.kept.status = r.status := rfl

/-- What the signal publishes for a row that is saved elsewhere. -/
def savedPublished (py : Python) (row : ServiceRequest) (stamp : Stamp)
    (produce : ProduceOutcome) : Published :=
  publish py produce (txt "SERVICE_REQUESTS")
    (ServiceRequestEvent.created stamp row.id.str (.str row.serviceType) (.str row.priority)
      row.guestId.str) (some row.guestId.str)

/-- How a save is wrapped. -/
inductive Transaction where
  | autocommit
  /-- The block ends with a COMMIT, which PostgreSQL may still refuse. -/
  | commits
  | rollsBack
  deriving DecidableEq

/-- Every column takes its value. -/
def ServiceRequest.Storable (r : ServiceRequest) : Prop :=
  (varchar 30 r.serviceType).isSome = true ∧ (varchar 10 r.priority).isSome = true
    ∧ storable r.description = true ∧ storable r.notes = true ∧ storable r.feedback = true
    ∧ r.rating.all (· ≤ maxSmallInteger) = true

instance (r : ServiceRequest) : Decidable r.Storable :=
  inferInstanceAs (Decidable (_ ∧ _ ∧ _ ∧ _ ∧ _ ∧ _))

/-- Every foreign key of the row finds its row. -/
def ServiceRequest.Refers (r : ServiceRequest) (db : Db) : Prop :=
  db.users.Has r.guestId ∧ db.bookings.Has r.bookingId
    ∧ r.assignedTo.all (fun userId => db.users.Has userId) = true

instance (r : ServiceRequest) (db : Db) : Decidable (r.Refers db) :=
  inferInstanceAs (Decidable (_ ∧ _ ∧ _))

namespace Transaction

/-- The INSERT or UPDATE goes through.  The foreign keys are `DEFERRABLE INITIALLY DEFERRED`:
without a transaction they are checked with the statement. -/
def Accepts (tx : Transaction) (db : Db) (row : ServiceRequest) : Prop :=
  row.Storable ∧ (tx = .autocommit → row.Refers db)

/-- The row is there afterwards. -/
def Commits (tx : Transaction) (db : Db) (row : ServiceRequest) : Prop :=
  row.Storable ∧ tx ≠ .rollsBack ∧ row.Refers db

instance (tx : Transaction) (db : Db) (row : ServiceRequest) : Decidable (tx.Accepts db row) :=
  inferInstanceAs (Decidable (_ ∧ _))

instance (tx : Transaction) (db : Db) (row : ServiceRequest) : Decidable (tx.Commits db row) :=
  inferInstanceAs (Decidable (_ ∧ _ ∧ _))

theorem accepts_of_commits {tx : Transaction} {db : Db} {row : ServiceRequest}
    (h : tx.Commits db row) : tx.Accepts db row :=
  ⟨h.1, fun _ => h.2.2⟩

end Transaction

/-- `row.save()` elsewhere: an INSERT if there is no such row, an UPDATE else. -/
def saveElsewhere (py : Python) (w : World) (row : ServiceRequest) (stamp : Stamp)
    (produce : ProduceOutcome) (tx : Transaction) : World :=
  if tx.Accepts w.db row then
    { db := if tx.Commits w.db row then (w.db.saveServiceRequest row.kept).getD w.db else w.db
      -- the signal publishes after the INSERT, before any COMMIT
      log := if w.db.serviceRequests.Has row.id then w.log
        else w.log ++ (savedPublished py row stamp produce).records }
  else w

/-- What may be committed is. -/
theorem saveServiceRequest_of_commits {tx : Transaction} {db : Db} {row : ServiceRequest}
    (h : tx.Commits db row) : ∃ db', db.saveServiceRequest row.kept = some db'
      ∧ db'.serviceRequests = db.serviceRequests.save row.kept := by
  obtain ⟨⟨hst, hpr, _⟩, _, hguest, hbooking, _⟩ := h
  obtain ⟨serviceType, hst⟩ := Option.isSome_iff_exists.mp hst
  obtain ⟨priority, hpr⟩ := Option.isSome_iff_exists.mp hpr
  have hkept : row.kept = { row with serviceType := serviceType, priority := priority } := by
    unfold ServiceRequest.kept
    rw [hst, hpr]
    rfl
  have hok : row.kept.Ok db.users db.bookings := by
    rw [hkept]
    exact ⟨hguest, hbooking, varchar_length_le hst, varchar_length_le hpr⟩
  unfold Db.saveServiceRequest
  rw [dif_pos hok]
  exact ⟨_, rfl, rfl⟩

inductive SaveStep (py : Python) where
  | turn (caller : Caller) (pk : Uuid) (req : TurnRequest) (agent : AgentOutcome py)
      (fresh : SessionFresh)
  | save (row : ServiceRequest) (stamp : Stamp) (produce : ProduceOutcome) (tx : Transaction)
  | desk (call : DeskCall)

def saveStep (w : World) : SaveStep py → World
  | .turn caller pk req agent fresh => (processTurn w caller pk req agent fresh).1
  | .save row stamp produce tx => saveElsewhere py w row stamp produce tx
  | .desk call => deskStep py w call

/-! ## §2. Effects. -/

inductive SaveEffect where
  | nothing
  | inserted (row : ServiceRequest) (commit : Bool) (records : List Record)
  | rewritten (r r' : ServiceRequest) (records : List Record)

/-- The effect happened between the two states. -/
def SaveEffect.Happened (w w' : World) : SaveEffect → Prop
  | .nothing => w'.db.serviceRequests = w.db.serviceRequests ∧ w'.log = w.log
  | .inserted row commit records =>
    (∀ x ∈ w.db.serviceRequests, x.id ≠ row.id)
      ∧ w'.db.serviceRequests.rows
        = w.db.serviceRequests.rows ++ (if commit then [row] else [])
      ∧ w'.log = w.log ++ records
  | .rewritten r r' records =>
    r ∈ w.db.serviceRequests ∧ r'.id = r.id
      ∧ w'.db.serviceRequests = w.db.serviceRequests.put r' ∧ w'.log = w.log ++ records

/-- The effect of a turn. -/
def turnEffect (py : Python) (w : World) (caller : Caller) (pk : Uuid) (req : TurnRequest)
    (agent : AgentOutcome py) (fresh : SessionFresh) : SaveEffect :=
  match turnDraft w.db caller pk req agent fresh with
  | none => .nothing
  | some (db, d) =>
    match d.inserts py db fresh with
    | none => .nothing
    | some (row, _) => .inserted row.kept (d.commits py db fresh) (d.records py db fresh)

/-- The effect of a save elsewhere. -/
def elsewhereEffect (py : Python) (w : World) (row : ServiceRequest) (stamp : Stamp)
    (produce : ProduceOutcome) (tx : Transaction) : SaveEffect :=
  match w.db.serviceRequests.find? row.id with
  | some old => if tx.Commits w.db row then .rewritten old row.kept [] else .nothing
  | none =>
    if tx.Accepts w.db row then
      .inserted row.kept (decide (tx.Commits w.db row))
        (savedPublished py row stamp produce).records
    else .nothing

/-- The effect of a request to an existing row. -/
def deskEffect (py : Python) (w : World) (call : DeskCall) : SaveEffect :=
  match authenticate w.db call.caller with
  | none => .nothing
  | some user =>
    match call.action.rewrites py w.db user with
    | none => .nothing
    | some (r, r') => .rewritten r r' (call.action.records py w.db user)

def saveEffect (w : World) : SaveStep py → SaveEffect
  | .turn caller pk req agent fresh => turnEffect py w caller pk req agent fresh
  | .save row stamp produce tx => elsewhereEffect py w row stamp produce tx
  | .desk call => deskEffect py w call

/-- The row that a committed block leaves is the row as the columns keep it. -/
theorem Db.Gained.stored_eq {db db' : Db} {sessionId : Uuid} {row stored : ServiceRequest}
    (h : db.Gained db' sessionId row stored) : stored = row.kept := by
  obtain ⟨serviceType, priority, hst, hpr, rfl⟩ := h.kept
  unfold ServiceRequest.kept
  rw [hst, hpr]
  rfl

theorem turnEffect_happened (w : World) (caller : Caller) (pk : Uuid) (req : TurnRequest)
    (agent : AgentOutcome py) (fresh : SessionFresh) :
    (turnEffect py w caller pk req agent fresh).Happened w
      (processTurn w caller pk req agent fresh).1 := by
  unfold turnEffect
  cases hdraft : turnDraft w.db caller pk req agent fresh with
  | none =>
      obtain ⟨hsame, hlog⟩ := processTurn_of_no_draft hdraft
      exact ⟨hsame.serviceRequests, hlog⟩
  | some draft =>
      obtain ⟨db, d⟩ := draft
      obtain ⟨hsame, hsession⟩ := sameButSessions_of_draft hdraft
      rw [processTurn_of_draft hdraft]
      have hlog : (createRequest py { w with db := db } d fresh).1.log
          = w.log ++ d.records py db fresh := log_createRequest fresh hsession
      simp only
      cases hins : d.inserts py db fresh with
      | none =>
          -- the INSERT is refused, so there is neither a row nor an event
          have hno : d.commits py db fresh = false := by
            unfold RequestDraft.commits
            rw [hins]
            rfl
          have hnil : d.records py db fresh = [] := by
            unfold RequestDraft.records
            rw [hins]
            rfl
          rw [hnil, List.append_nil] at hlog
          refine ⟨?_, hlog⟩
          rw [(createRequest_of_not_commits (w := { w with db := db }) hno).1]
          exact hsame.serviceRequests
      | some rowDb =>
          obtain ⟨row, db₁⟩ := rowDb
          obtain ⟨hrow, hinsert, _⟩ := linked_of_inserts hsession hins
          have hnew := (Db.insertServiceRequest_eq_some hinsert)
          obtain ⟨_, _, _, _, _, hnew, _⟩ := hnew
          simp only
          refine ⟨fun x hx => hnew x (hsame.serviceRequests ▸ hx), ?_, hlog⟩
          rw [← hsame.serviceRequests]
          -- the row is kept or rolled back; its events stay either way
          by_cases hcommits : d.commits py db fresh = true
          · obtain ⟨row', stored, hrow', _, hgained⟩ :=
              createRequest_of_commits (w := { w with db := db }) hsession hcommits
            rw [hrow] at hrow'
            injection hrow' with hrow'
            subst hrow'
            rw [if_pos hcommits, hgained.rows, hgained.stored_eq]
          · have hno : d.commits py db fresh = false := by simpa using hcommits
            rw [if_neg hcommits, (createRequest_of_not_commits (w := { w with db := db }) hno).1]
            exact (List.append_nil _).symm

theorem elsewhereEffect_happened (w : World) (row : ServiceRequest) (stamp : Stamp)
    (produce : ProduceOutcome) (tx : Transaction) :
    (elsewhereEffect py w row stamp produce tx).Happened w
      (saveElsewhere py w row stamp produce tx) := by
  unfold elsewhereEffect saveElsewhere
  cases hfind : w.db.serviceRequests.find? row.id with
  | some old =>
      obtain ⟨hold, hid⟩ := Table.find?_eq_some_iff.mp hfind
      -- an existing row is no news for the signal
      have hhas : w.db.serviceRequests.Has row.id := ⟨old, hold, hid⟩
      simp only [if_pos hhas]
      by_cases hcommits : tx.Commits w.db row
      · obtain ⟨db, hsave, hrequests⟩ := saveServiceRequest_of_commits hcommits
        rw [if_pos hcommits, if_pos (Transaction.accepts_of_commits hcommits), if_pos hcommits,
          hsave]
        refine ⟨hold, hid.symm, ?_, (List.append_nil w.log).symm⟩
        show db.serviceRequests = _
        rw [hrequests]
        exact Table.save_of_has hhas
      · rw [if_neg hcommits, if_neg hcommits]
        split
        · exact ⟨rfl, rfl⟩
        · exact ⟨rfl, rfl⟩
  | none =>
      -- a new row is announced, whether or not it is committed
      have hnew := Table.find?_eq_none_iff.mp hfind
      have hhas : ¬ w.db.serviceRequests.Has row.id := by
        rintro ⟨x, hx, hid⟩
        exact hnew x hx hid
      simp only [if_neg hhas]
      by_cases haccepts : tx.Accepts w.db row
      · rw [if_pos haccepts, if_pos haccepts]
        refine ⟨hnew, ?_, rfl⟩
        by_cases hcommits : tx.Commits w.db row
        · obtain ⟨db, hsave, hrequests⟩ := saveServiceRequest_of_commits hcommits
          simp only [if_pos hcommits, hsave, Option.getD_some, hrequests, decide_eq_true hcommits,
            if_true]
          exact Table.rows_save_of_not_has hhas
        · simp only [if_neg hcommits, decide_eq_false hcommits]
          exact (List.append_nil _).symm
      · rw [if_neg haccepts, if_neg haccepts]
        exact ⟨rfl, rfl⟩

theorem deskEffect_happened (w : World) (call : DeskCall) :
    (deskEffect py w call).Happened w (deskStep py w call) := by
  unfold deskEffect deskStep
  cases hauth : authenticate w.db call.caller with
  | none => exact ⟨rfl, rfl⟩
  | some user =>
      simp only
      have hlog := log_handle py w user call.action
      cases hwrites : call.action.rewrites py w.db user with
      | some rows =>
          obtain ⟨r, r'⟩ := rows
          have hwrote := handle_of_rewrites_some hwrites
          exact ⟨hwrote.mem, hwrote.id_eq, hwrote.serviceRequests, hlog⟩
      | none =>
          refine ⟨by rw [handle_of_rewrites_none hwrites], ?_⟩
          rw [hlog, records_of_rewrites_none hwrites, List.append_nil]

/-- **Every step has its effect.** -/
theorem saveEffect_happened (w : World) (i : SaveStep py) :
    (saveEffect w i).Happened w (saveStep w i) := by
  cases i with
  | turn caller pk req agent fresh => exact turnEffect_happened w caller pk req agent fresh
  | save row stamp produce tx => exact elsewhereEffect_happened w row stamp produce tx
  | desk call => exact deskEffect_happened w call

/-! ## §3. News. -/

/-- What an event of the topic says about a request. -/
inductive RequestNews where
  | created (requestId : Text)
  | statusChanged (requestId oldStatus newStatus : Text)

/-- The news in the payload of an event. -/
def KafkaEvent.news (event : KafkaEvent) : Option RequestNews :=
  let field := fun name : String => dictGet? event.payload (txt name)
  match field "action", field "request_id" with
  | some (.str action), some (.str requestId) =>
    if action = txt "created" then some (.created requestId)
    else if action = txt "status_changed" then
      match field "old_status", field "new_status" with
      | some (.str old), some (.str new) => some (.statusChanged requestId old new)
      | _, _ => none
    else none
  | _, _ => none

/-- The news of the topic of service requests, in the order of the log. -/
def newsOf (log : List Record) : List RequestNews :=
  log.filterMap fun rec =>
    if topicOf (txt "SERVICE_REQUESTS") = some rec.topic then rec.event.news else none

theorem newsOf_append (a b : List Record) : newsOf (a ++ b) = newsOf a ++ newsOf b :=
  List.filterMap_append

/-- The Kafka client took the record. -/
def Published.isAccepted : Published → Bool
  | .accepted _ => true
  | .refused => false
  | .raised => false

/-- **The news of one event**, where the client takes it. -/
theorem newsOf_publish {event : KafkaEvent} {news : RequestNews} (h : event.news = some news)
    (produce : ProduceOutcome) (key : Option Text) :
    newsOf (publish py produce (txt "SERVICE_REQUESTS") event key).records
      = if (publish py produce (txt "SERVICE_REQUESTS") event key).isAccepted then [news]
        else [] := by
  cases hpub : publish py produce (txt "SERVICE_REQUESTS") event key with
  | accepted rec =>
      obtain ⟨htopic, _, _, hevent⟩ := publish_accepted hpub
      simp only [Published.records, newsOf, List.filterMap_cons, List.filterMap_nil, hevent, h,
        if_pos htopic]
      rfl
  | refused => rfl
  | raised => rfl

/-- An event of another topic is no news. -/
theorem newsOf_publish_other {topicKey : Text}
    (htopic : topicOf topicKey ≠ topicOf (txt "SERVICE_REQUESTS")) (event : KafkaEvent)
    (produce : ProduceOutcome) (key : Option Text) :
    newsOf (publish py produce topicKey event key).records = [] := by
  cases hpub : publish py produce topicKey event key with
  | accepted rec =>
      obtain ⟨hrec, _⟩ := publish_accepted hpub
      have hne : ¬ topicOf (txt "SERVICE_REQUESTS") = some rec.topic := by
        intro h
        exact htopic (hrec.trans h.symm)
      simp only [Published.records, newsOf, List.filterMap_cons, List.filterMap_nil, if_neg hne]
  | refused => rfl
  | raised => rfl

/-- The news of an assignment. -/
def assignedNews (r : ServiceRequest) : RequestNews :=
  .statusChanged r.id.str (txt "pending") (txt "assigned")

/-- **The news of a request to an existing row**: an assignment that was taken. -/
theorem newsOf_desk (db : Db) (user : Option User) (action : RequestAction) :
    newsOf (action.records py db user)
      = match action with
        | .assign pk fresh =>
          match readAssign db user pk with
          | .ok (_, r) =>
            if (publish py fresh.produce (txt "SERVICE_REQUESTS") (assignedEvent r fresh.stamp)
              none).isAccepted then [assignedNews r] else []
          | .error _ => []
        | _ => [] := by
  cases action with
  | assign pk fresh =>
      simp only [RequestAction.records]
      cases readAssign db user pk with
      | ok ur => exact newsOf_publish rfl fresh.produce none
      | error response => rfl
  | complete pk data fresh =>
      simp only [RequestAction.records]
      split
      · split
        · exact newsOf_publish_other (by decide) _ fresh.produce none
        · rfl
      · rfl
  | update pk part body => rfl

/-- The news of the two events of a turn. -/
theorem newsOf_draft {db : Db} {d : RequestDraft} {fresh : SessionFresh}
    (hins : (d.inserts py db fresh).isSome) :
    newsOf (d.records py db fresh)
      = (if (d.signal py fresh).isAccepted then [.created fresh.id.str] else [])
        ++ if (d.signal py fresh).returns then
            if (d.announce py fresh).isAccepted then [.created fresh.id.str] else []
          else [] := by
  have hsignal : newsOf (d.signal py fresh).records
      = if (d.signal py fresh).isAccepted then [.created fresh.id.str] else [] :=
    newsOf_publish rfl fresh.signalProduce (some d.guest.id.str)
  have hview : newsOf (d.announce py fresh).records
      = if (d.announce py fresh).isAccepted then [.created fresh.id.str] else [] :=
    newsOf_publish rfl fresh.produce none
  unfold RequestDraft.records
  rw [if_pos hins, newsOf_append, hsignal]
  split
  · split
    · rw [hview]
    · rfl
  · split
    · rw [hview]
    · rfl

/-- The row of a turn's request has the fresh key. -/
theorem id_of_inserts {db db' : Db} {d : RequestDraft} {fresh : SessionFresh}
    {row : ServiceRequest} (h : d.inserts py db fresh = some (row, db')) :
    row.id = fresh.id ∧ row.status = .pending := by
  unfold RequestDraft.inserts at h
  split at h
  · exact absurd h (by simp)
  next row' hrow =>
    obtain ⟨_, _, heq⟩ := Option.map_eq_some_iff.mp h
    injection heq with hr _
    subst hr
    obtain ⟨hid, hpending, _⟩ := row_columns hrow
    exact ⟨hid, hpending⟩

/-! ## §4. Created events. -/

def RequestNews.createdId : RequestNews → Option Text
  | .created requestId => some requestId
  | .statusChanged _ _ _ => none

/-- The requests announced as created, as often as they are. -/
def createdIds (log : List Record) : List Text := (newsOf log).filterMap RequestNews.createdId

theorem createdIds_append (a b : List Record) :
    createdIds (a ++ b) = createdIds a ++ createdIds b := by
  unfold createdIds
  rw [newsOf_append, List.filterMap_append]

/-- **Exactly one created event per committed request**, and none besides. -/
def CreatedOnce (w : World) : Prop :=
  (createdIds w.log).Perm (w.db.serviceRequests.rows.map fun r => r.id.str)

/-- The effect announces what it commits, once. -/
def SaveEffect.AnnouncesOnce : SaveEffect → Prop
  | .nothing => True
  | .inserted row commit records => createdIds records = if commit then [row.id.str] else []
  | .rewritten _ _ records => createdIds records = []

/-- What is added to two lists that are permutations of each other. -/
theorem perm_append_iff {α : Type*} {a a' b b' : List α} (h : a.Perm a') :
    (a ++ b).Perm (a' ++ b') ↔ b.Perm b' := by
  constructor
  · intro hab
    exact (List.perm_append_left_iff a').mp ((h.symm.append_right b).trans hab)
  · intro hb
    exact h.append hb

/-- **One effect** keeps the count exactly when it announces once. -/
theorem createdOnce_effect_iff {w w' : World} {e : SaveEffect} (h : CreatedOnce w)
    (he : e.Happened w w') : CreatedOnce w' ↔ e.AnnouncesOnce := by
  unfold CreatedOnce at h ⊢
  cases e with
  | nothing =>
      obtain ⟨hrows, hlog⟩ := he
      rw [hrows, hlog]
      exact iff_of_true h trivial
  | inserted row commit records =>
      obtain ⟨_, hrows, hlog⟩ := he
      rw [hrows, hlog, createdIds_append, List.map_append, perm_append_iff h]
      cases commit with
      | true => exact List.perm_singleton
      | false => exact List.perm_nil
  | rewritten r r' records =>
      obtain ⟨hr, hid, hrows, hlog⟩ := he
      have hids := (Table.map_put_eq_iff (g := fun r => r.id.str) hr hid).mpr
        (congrArg Uuid.str hid)
      rw [hrows, hlog, createdIds_append, hids, ← List.append_nil (List.map _ _),
        perm_append_iff h]
      exact List.perm_nil

/-! ## §5. Who announces once. -/

/-- **Announced once**: of the two events of a turn's request one is accepted and the
other refused, or nothing is accepted because one of them raises; a row inserted
elsewhere is announced if and only if a COMMIT comes that the foreign keys let pass. -/
def AnnouncedOnce (w : World) : SaveStep py → Prop
  | .turn caller pk req agent fresh =>
    ∀ db d, turnDraft w.db caller pk req agent fresh = some (db, d) →
      (d.inserts py db fresh).isSome →
        d.signal py fresh = .raised
          ∨ ((d.signal py fresh).isAccepted = true ∧ d.announce py fresh = .refused)
          ∨ (d.signal py fresh = .refused ∧ d.announce py fresh ≠ .refused)
  | .save row stamp produce tx =>
    w.db.serviceRequests.find? row.id = none → tx.Accepts w.db row →
      (tx.Commits w.db row ↔ (savedPublished py row stamp produce).isAccepted = true)
  | .desk _ => True

/-- A turn's effect announces once exactly as its two events tell. -/
theorem announcesOnce_turn_iff {db : Db} {d : RequestDraft} {fresh : SessionFresh}
    {row : ServiceRequest} {db' : Db} (hins : d.inserts py db fresh = some (row, db')) :
    (SaveEffect.inserted row.kept (d.commits py db fresh) (d.records py db fresh)).AnnouncesOnce
      ↔ d.signal py fresh = .raised
          ∨ ((d.signal py fresh).isAccepted = true ∧ d.announce py fresh = .refused)
          ∨ (d.signal py fresh = .refused ∧ d.announce py fresh ≠ .refused) := by
  have hid := (id_of_inserts hins).1
  have hsome : (d.inserts py db fresh).isSome = true := by
    rw [hins]
    rfl
  simp only [SaveEffect.AnnouncesOnce, createdIds]
  rw [newsOf_draft hsome, ServiceRequest.kept_id, hid]
  unfold RequestDraft.commits
  rw [hsome]
  -- three outcomes of either event
  cases d.signal py fresh with
  | raised => simp [Published.returns, Published.isAccepted]
  | refused =>
      cases d.announce py fresh with
      | raised => simp [Published.returns, Published.isAccepted]
      | refused => simp [Published.returns, Published.isAccepted]
      | accepted rec => simp [Published.returns, Published.isAccepted, RequestNews.createdId]
  | accepted rec =>
      cases d.announce py fresh with
      | raised => simp [Published.returns, Published.isAccepted, RequestNews.createdId]
      | refused => simp [Published.returns, Published.isAccepted, RequestNews.createdId]
      | accepted rec' => simp [Published.returns, Published.isAccepted, RequestNews.createdId]

/-- The announcement of a row that is saved elsewhere. -/
theorem newsOf_saved (row : ServiceRequest) (stamp : Stamp) (produce : ProduceOutcome) :
    newsOf (savedPublished py row stamp produce).records
      = if (savedPublished py row stamp produce).isAccepted then [.created row.id.str] else [] :=
  newsOf_publish rfl produce (some row.guestId.str)

theorem announcedOnce_turn_iff (w : World) (caller : Caller) (pk : Uuid) (req : TurnRequest)
    (agent : AgentOutcome py) (fresh : SessionFresh) :
    AnnouncedOnce w (.turn caller pk req agent fresh)
      ↔ (turnEffect py w caller pk req agent fresh).AnnouncesOnce := by
  show (∀ db d, turnDraft w.db caller pk req agent fresh = some (db, d) → _) ↔ _
  unfold turnEffect
  cases hdraft : turnDraft w.db caller pk req agent fresh with
  | none => exact iff_of_true (fun _ _ h => absurd h (by simp)) trivial
  | some draft =>
      obtain ⟨db, d⟩ := draft
      rw [forall_found_iff rfl]
      simp only
      cases hins : d.inserts py db fresh with
      | none => exact iff_of_true (fun h => absurd h (by simp)) trivial
      | some rowDb =>
          obtain ⟨row, db'⟩ := rowDb
          simp only [Option.isSome_some, true_imp_iff]
          exact (announcesOnce_turn_iff hins).symm

theorem announcedOnce_save_iff (w : World) (row : ServiceRequest) (stamp : Stamp)
    (produce : ProduceOutcome) (tx : Transaction) :
    AnnouncedOnce w (.save row stamp produce tx : SaveStep py)
      ↔ (elsewhereEffect py w row stamp produce tx).AnnouncesOnce := by
  show (w.db.serviceRequests.find? row.id = none → _) ↔ _
  unfold elsewhereEffect
  cases hfind : w.db.serviceRequests.find? row.id with
  | some old =>
      refine iff_of_true (fun h => absurd h (by simp)) ?_
      simp only
      split
      · rfl
      · trivial
  | none =>
      simp only [true_imp_iff]
      by_cases haccepts : tx.Accepts w.db row
      · rw [if_pos haccepts]
        simp only [SaveEffect.AnnouncesOnce, createdIds, newsOf_saved,
          ServiceRequest.kept_id, haccepts, true_imp_iff, decide_eq_true_eq]
        cases (savedPublished py row stamp produce).isAccepted with
        | true =>
            by_cases hcommits : tx.Commits w.db row
            · simp [hcommits, RequestNews.createdId]
            · simp [hcommits, RequestNews.createdId]
        | false =>
            by_cases hcommits : tx.Commits w.db row
            · simp [hcommits]
            · simp [hcommits]
      · rw [if_neg haccepts]
        exact iff_of_true (fun h => absurd h haccepts) trivial

/-- A request to an existing row announces no other. -/
theorem announcesOnce_desk (w : World) (call : DeskCall) :
    (deskEffect py w call).AnnouncesOnce := by
  unfold deskEffect
  split
  · trivial
  · split
    · trivial
    next r r' _ =>
      show createdIds (call.action.records py w.db _) = []
      unfold createdIds
      rw [newsOf_desk]
      split
      · split
        · split
          · rfl
          · rfl
        · rfl
      · rfl

theorem announcedOnce_effect_iff (w : World) (i : SaveStep py) :
    AnnouncedOnce w i ↔ (saveEffect w i).AnnouncesOnce := by
  cases i with
  | turn caller pk req agent fresh => exact announcedOnce_turn_iff w caller pk req agent fresh
  | save row stamp produce tx => exact announcedOnce_save_iff w row stamp produce tx
  | desk call => exact iff_of_true trivial (announcesOnce_desk w call)

/-- **Exactly one created event per request, exactly** along the runs that announce
once. -/
theorem announcedOnce_iff (py : Python) (w : World) (h : CreatedOnce w)
    (is : List (SaveStep py)) :
    AllStates saveStep CreatedOnce w is ↔ AllSteps saveStep AnnouncedOnce w is := by
  refine allStates_iff_allSteps (K := fun _ => True) (fun _ _ _ => trivial) ?_ trivial h is
  intro w i _ hw
  rw [announcedOnce_effect_iff]
  exact createdOnce_effect_iff hw (saveEffect_happened w i)

/-- The demo hotel before anything was asked for. -/
def demoFront : World :=
  { demoDesk with db := { demoDesk.db with
      serviceRequests := Table.empty
      request_ok := by simp [Table.empty] } }

/-- The demo guest asks for a massage; the client takes the events it is said to take. -/
def demoMassage (signal view : ProduceOutcome) : SaveStep plainPython :=
  .turn (.token 1) 5 demoWords (.replies demoAsk) (demoTurnFresh 31 signal view)

/-- The demo guest's request, saved in a shell. -/
theorem createdOnce_after_save :
    AllStates saveStep CreatedOnce demoFront
      [(.save demoRequest ⟨0, []⟩ .accepted .autocommit : SaveStep plainPython)] :=
  (announcedOnce_iff plainPython demoFront (List.Perm.refl _) _).mpr
    ⟨by
      show demoFront.db.serviceRequests.find? demoRequest.id = none → _
      intro _ _
      decide +kernel, trivial⟩

/-- A booking that is not there, in a transaction: the COMMIT is refused, the event is out. -/
example :
    let w := saveElsewhere plainPython demoFront { demoRequest with bookingId := 99 } ⟨0, []⟩
      .accepted .commits
    w.db.serviceRequests.rows = [] ∧ createdIds w.log = [demoRequest.id.str] := by
  decide +kernel

/-- The signal and the view both announce the guest's request. -/
theorem announced_twice :
    ¬ ∀ (py : Python) (w : World), CreatedOnce w → ∀ is : List (SaveStep py),
      AllStates saveStep CreatedOnce w is := by
  intro h
  have hrun := h plainPython demoFront (List.Perm.refl _) [demoMassage .accepted .accepted]
  have hlength := hrun.last.length_eq
  revert hlength
  decide +kernel

end HotelAgent
