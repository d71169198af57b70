/-
  HotelAgent.Api.RequestReplay — folding the topic of service requests.

  A consumer that folds the events of one request knows a status:

      created                      pending
      status_changed old new       new

  Main results:
    * `replays_effect_iff` — one effect keeps the fold equal to the stored
      status, and tells the true old one, exactly if it tells the truth.
    * `replays_iff` — the same along runs: every change is truly told.
-/
import HotelAgent.Api.RequestEvents

namespace HotelAgent

open Lib

variable {py : Python}

/-! ## §1. Replaying the topic. -/

/-- What the news does to the status known of a request. -/
def RequestNews.tell (requestId : Text) (status : Option Text) : RequestNews → Option Text
  | .created id => if id = requestId then some (txt "pending") else status
  | .statusChanged id _ newStatus => if id = requestId then some newStatus else status

/-- The events of a request folded in order. -/
def replay (log : List Record) (requestId : Text) : Option Text :=
  (newsOf log).foldl (RequestNews.tell requestId) none

theorem replay_append (a b : List Record) (requestId : Text) :
    replay (a ++ b) requestId
      = (newsOf b).foldl (RequestNews.tell requestId) (replay a requestId) := by
  unfold replay
  rw [newsOf_append, List.foldl_append]

/-- **The topic replays to the table.** -/
def Replays (w : World) : Prop :=
  ∀ r ∈ w.db.serviceRequests, replay w.log r.id.str = some r.status.value

/-- What a step adds to the log. -/
def addedRecords (w : World) (i : SaveStep py) : List Record :=
  (saveStep w i).log.drop w.log.length

/-- **Every status change tells the old status** that its row had before the step. -/
def TellsOldStatus (w : World) (i : SaveStep py) : Prop :=
  ∀ requestId old new, .statusChanged requestId old new ∈ newsOf (addedRecords w i) →
    ∃ r ∈ w.db.serviceRequests, r.id.str = requestId ∧ r.status.value = old

theorem RequestStatus.value_injective {s t : RequestStatus} (h : s.value = t.value) : s = t := by
  revert h
  cases s <;> cases t <;> decide

/-- The request that the news speaks of. -/
def RequestNews.requestId : RequestNews → Text
  | .created id => id
  | .statusChanged id _ _ => id

/-- News of another request tell nothing. -/
theorem tell_other {requestId : Text} {news : List RequestNews}
    (h : ∀ n ∈ news, n.requestId ≠ requestId) (status : Option Text) :
    news.foldl (RequestNews.tell requestId) status = status := by
  induction news generalizing status with
  | nil => rfl
  | cons n news ih =>
      have hne := h n List.mem_cons_self
      have hn : n.tell requestId status = status := by
        cases n with
        | created id => exact if_neg hne
        | statusChanged id old new => exact if_neg hne
      rw [List.foldl_cons, hn]
      exact ih (fun m hm => h m (List.mem_cons_of_mem n hm)) status

/-- The news of an effect: its own row was created, or was assigned. -/
def SaveEffect.SpeaksOfRow : SaveEffect → Prop
  | .nothing => True
  | .inserted row _ records => ∀ n ∈ newsOf records, n = .created row.id.str
  | .rewritten r _ records => ∀ n ∈ newsOf records, n = assignedNews r

/-- The effect tells the truth: the status that its row gets, and the one it had. -/
def SaveEffect.TellsTruth (w : World) : SaveEffect → Prop
  | .nothing => True
  | .inserted row commit records =>
    commit = true → replay (w.log ++ records) row.id.str = some row.status.value
  | .rewritten r r' records =>
    replay (w.log ++ records) r.id.str = some r'.status.value
      ∧ (newsOf records ≠ [] → r.status = .pending)

/-- Records that speak of one row leave what is known of the others. -/
theorem replay_append_of_ne {log records : List Record} {id id' : Uuid} (hne : id' ≠ id)
    (h : ∀ n ∈ newsOf records, n.requestId = id.str) :
    replay (log ++ records) id'.str = replay log id'.str := by
  rw [replay_append]
  refine tell_other (fun n hn hid => ?_) _
  rw [h n hn] at hid
  exact hne (Uuid.str_injective hid).symm

/-- The old status of an assignment is the true one exactly in a pending row. -/
theorem tellsOld_rewritten_iff {db : Db} {r : ServiceRequest} (hr : r ∈ db.serviceRequests)
    {news : List RequestNews} (h : ∀ n ∈ news, n = assignedNews r) :
    (∀ requestId old new, .statusChanged requestId old new ∈ news →
        ∃ x ∈ db.serviceRequests, x.id.str = requestId ∧ x.status.value = old)
      ↔ (news ≠ [] → r.status = .pending) := by
  constructor
  · intro hold hne
    obtain ⟨n, hn⟩ := List.exists_mem_of_ne_nil news hne
    have hassigned := hn
    rw [h n hn] at hassigned
    obtain ⟨x, hx, hid, hstatus⟩ := hold _ _ _ hassigned
    rw [Table.eq_of_key_eq hx hr (Uuid.str_injective hid)] at hstatus
    exact RequestStatus.value_injective hstatus
  · intro hpending requestId old new hn
    have heq := h _ hn
    unfold assignedNews at heq
    injection heq with hid hold _
    refine ⟨r, hr, hid.symm, ?_⟩
    rw [hpending (List.ne_nil_of_mem hn), hold]
    rfl

/-- A new row keeps the replay exactly if its events tell its status. -/
theorem replays_inserted_iff {w w' : World} {row : ServiceRequest} {commit : Bool}
    {records : List Record} (h : Replays w)
    (he : (SaveEffect.inserted row commit records).Happened w w')
    (hspeaks : (SaveEffect.inserted row commit records).SpeaksOfRow) :
    Replays w' ↔ (SaveEffect.inserted row commit records).TellsTruth w := by
  obtain ⟨hnew, hrows, hlog⟩ := he
  have hids : ∀ n ∈ newsOf records, n.requestId = row.id.str := by
    intro n hn
    rw [hspeaks n hn]
    rfl
  constructor
  · intro hreplays hcommit
    rw [← hlog]
    refine hreplays row ?_
    show row ∈ w'.db.serviceRequests.rows
    rw [hrows, if_pos hcommit]
    exact List.mem_append_right _ List.mem_cons_self
  · intro htruth r hr
    have hr : r ∈ w'.db.serviceRequests.rows := hr
    rw [hrows, List.mem_append] at hr
    rw [hlog]
    rcases hr with hr | hr
    · rw [replay_append_of_ne (hnew r hr) hids]
      exact h r hr
    · cases commit with
      | true =>
          rw [List.mem_singleton.mp hr]
          exact htruth rfl
      -- rolled back: there is no new row
      | false => exact absurd hr (by simp)

/-- A row written over keeps the replay exactly if its events tell its new status. -/
theorem replays_rewritten_iff {w w' : World} {r r' : ServiceRequest} {records : List Record}
    (h : Replays w) (he : (SaveEffect.rewritten r r' records).Happened w w')
    (hspeaks : (SaveEffect.rewritten r r' records).SpeaksOfRow) :
    Replays w' ↔ replay (w.log ++ records) r.id.str = some r'.status.value := by
  obtain ⟨hr, hid, hrows, hlog⟩ := he
  have hids : ∀ n ∈ newsOf records, n.requestId = r'.id.str := by
    intro n hn
    rw [hspeaks n hn, hid]
    rfl
  have hhas : w.db.serviceRequests.Has r'.id := by
    rw [hid]
    exact Table.has_of_mem hr
  constructor
  · intro hreplays
    have hr' := hreplays r' (by
      rw [hrows]
      exact (Table.mem_put hhas).mpr (.inl rfl))
    rw [hlog, hid] at hr'
    exact hr'
  · intro htruth x hx
    rw [hrows] at hx
    rw [hlog]
    rcases (Table.mem_put hhas).mp hx with rfl | ⟨hx, hne⟩
    · rw [hid]
      exact htruth
    · rw [replay_append_of_ne hne hids]
      exact h x hx

/-- **One effect** keeps the replay and tells the old status exactly when it tells
the truth. -/
theorem replays_effect_iff {w w' : World} {e : SaveEffect} (h : Replays w)
    (he : e.Happened w w') (hspeaks : e.SpeaksOfRow) :
    (Replays w' ∧ ∀ requestId old new,
        .statusChanged requestId old new ∈ newsOf (w'.log.drop w.log.length) →
          ∃ r ∈ w.db.serviceRequests, r.id.str = requestId ∧ r.status.value = old)
      ↔ e.TellsTruth w := by
  cases e with
  | nothing =>
      obtain ⟨hrows, hlog⟩ := he
      refine iff_of_true ⟨fun r hr => ?_, fun _ _ _ hn => ?_⟩ trivial
      · rw [hrows] at hr
        rw [hlog]
        exact h r hr
      · rw [hlog, List.drop_length] at hn
        exact absurd hn (by simp [newsOf])
  | inserted row commit records =>
      rw [replays_inserted_iff h he hspeaks]
      obtain ⟨_, _, hlog⟩ := he
      rw [hlog, List.drop_left]
      -- a created event tells no old status
      refine and_iff_left fun requestId old new hn => ?_
      exact absurd (hspeaks _ hn) (by simp)
  | rewritten r r' records =>
      rw [replays_rewritten_iff h he hspeaks]
      obtain ⟨hr, _, _, hlog⟩ := he
      rw [hlog, List.drop_left]
      exact and_congr_right fun _ => tellsOld_rewritten_iff hr hspeaks

/-! ## §2. Who tells the truth. -/

/-- The event of an assignment reached the client. -/
def assignmentTaken (py : Python) (r : ServiceRequest) (fresh : ActionFresh) : Bool :=
  (publish py fresh.produce (txt "SERVICE_REQUESTS") (assignedEvent r fresh.stamp) none).isAccepted

/-- **A request to an existing row is truly told**: an assignment whose event is taken
finds the row pending, and else assigned already; what is completed was completed;
and an update writes no other status. -/
def RequestAction.TrulyTold (py : Python) (db : Db) (user : Option User) : RequestAction → Prop
  | .assign pk fresh =>
    ∀ u r, readAssign db user pk = .ok (u, r) →
      r.status = if assignmentTaken py r fresh then .pending else .assigned
  | .complete pk data _ =>
    ∀ r notes, readComplete db user pk data = .ok (r, notes) → (notesText py notes).isSome →
      r.status = .completed
  | .update pk part body =>
    ∀ r, readUpdateRequest db user pk part body = .ok r →
      ∀ status, body.status = some status → status = r.status

/-- **A step is truly told**: what is committed is announced, or the topic knew it; a
row saved elsewhere keeps its status, and a new one is pending if it is announced. -/
def TrulyTold (w : World) : SaveStep py → Prop
  | .turn caller pk req agent fresh =>
    ∀ db d, turnDraft w.db caller pk req agent fresh = some (db, d) →
      d.commits py db fresh = true →
        (d.signal py fresh).isAccepted = true ∨ (d.announce py fresh).isAccepted = true
          ∨ replay w.log fresh.id.str = some (txt "pending")
  | .save row stamp produce tx =>
    tx.Commits w.db row →
      match w.db.serviceRequests.find? row.id with
      | some old => row.status = old.status
      | none =>
        if (savedPublished py row stamp produce).isAccepted then row.status = .pending
        else replay w.log row.id.str = some row.status.value
  | .desk call =>
    ∀ user, authenticate w.db call.caller = some user → call.action.TrulyTold py w.db user

theorem turnEffect_speaksOfRow (w : World) (caller : Caller) (pk : Uuid) (req : TurnRequest)
    (agent : AgentOutcome py) (fresh : SessionFresh) :
    (turnEffect py w caller pk req agent fresh).SpeaksOfRow := by
  unfold turnEffect
  split
  · trivial
  next db d _ =>
    split
    · trivial
    next row db' hins =>
      have hsome : (d.inserts py db fresh).isSome = true := by
        rw [hins]
        rfl
      intro n hn
      rw [newsOf_draft hsome] at hn
      rw [ServiceRequest.kept_id, (id_of_inserts hins).1]
      -- the signal's event, then the view's
      rcases List.mem_append.mp hn with hn | hn
      · split at hn
        · exact List.mem_singleton.mp hn
        · exact absurd hn (by simp)
      · split at hn
        · split at hn
          · exact List.mem_singleton.mp hn
          · exact absurd hn (by simp)
        · exact absurd hn (by simp)

theorem elsewhereEffect_speaksOfRow (w : World) (row : ServiceRequest) (stamp : Stamp)
    (produce : ProduceOutcome) (tx : Transaction) :
    (elsewhereEffect py w row stamp produce tx).SpeaksOfRow := by
  unfold elsewhereEffect
  split
  · split
    · exact fun n hn => absurd hn (by simp [newsOf])
    · trivial
  · split
    · intro n hn
      rw [newsOf_saved] at hn
      split at hn
      · exact List.mem_singleton.mp hn
      · exact absurd hn (by simp)
    · trivial

theorem deskEffect_speaksOfRow (w : World) (call : DeskCall) :
    (deskEffect py w call).SpeaksOfRow := by
  unfold deskEffect
  split
  · trivial
  next user _ =>
    split
    · trivial
    next r r' hwrites =>
      intro n hn
      rw [newsOf_desk] at hn
      split at hn
      next pk fresh haction =>
        rw [haction] at hwrites
        obtain ⟨u, hread, _⟩ := rewrites_assign hwrites
        simp only [hread] at hn
        split at hn
        · exact List.mem_singleton.mp hn
        · exact absurd hn (by simp)
      -- a completion and an update are no news
      · exact absurd hn (by simp)

/-- Every effect speaks of its own row. -/
theorem saveEffect_speaksOfRow (w : World) (i : SaveStep py) : (saveEffect w i).SpeaksOfRow := by
  cases i with
  | turn caller pk req agent fresh => exact turnEffect_speaksOfRow w caller pk req agent fresh
  | save row stamp produce tx => exact elsewhereEffect_speaksOfRow w row stamp produce tx
  | desk call => exact deskEffect_speaksOfRow w call

/-- The two events of a turn's request, replayed. -/
theorem replay_draft {log : List Record} {db : Db} {d : RequestDraft} {fresh : SessionFresh}
    (hcommits : d.commits py db fresh = true) :
    replay (log ++ d.records py db fresh) fresh.id.str = some (txt "pending")
      ↔ (d.signal py fresh).isAccepted = true ∨ (d.announce py fresh).isAccepted = true
          ∨ replay log fresh.id.str = some (txt "pending") := by
  unfold RequestDraft.commits at hcommits
  simp only [Bool.and_eq_true] at hcommits
  obtain ⟨⟨hins, hsignal⟩, _⟩ := hcommits
  rw [replay_append, newsOf_draft hins, if_pos hsignal]
  have htell : ∀ status, (RequestNews.created fresh.id.str).tell fresh.id.str status
      = some (txt "pending") := fun _ => if_pos rfl
  cases (d.signal py fresh).isAccepted with
  | true =>
      cases (d.announce py fresh).isAccepted with
      | true => simp [htell]
      | false => simp [htell]
  | false =>
      cases (d.announce py fresh).isAccepted with
      | true => simp [htell]
      | false => simp

/-- Without news the topic stays right exactly if the status stays. -/
theorem tellsTruth_of_silence {w : World} (hw : Replays w) {r r' : ServiceRequest}
    (hr : r ∈ w.db.serviceRequests) {records : List Record} (hnews : newsOf records = []) :
    (SaveEffect.rewritten r r' records).TellsTruth w ↔ r'.status = r.status := by
  simp only [SaveEffect.TellsTruth, replay_append, hnews, List.foldl_nil, hw r hr]
  constructor
  · rintro ⟨hstatus, _⟩
    injection hstatus with hstatus
    exact (RequestStatus.value_injective hstatus).symm
  · intro hstatus
    rw [hstatus]
    exact ⟨rfl, fun hne => absurd rfl hne⟩

/-- An assignment changes the status as it tells, if its event is taken. -/
theorem tellsTruth_assign_iff {w : World} (hw : Replays w) {r : ServiceRequest}
    (hr : r ∈ w.db.serviceRequests) {records : List Record} {taken : Bool} (u : User)
    (hnews : newsOf records = if taken then [assignedNews r] else []) :
    (SaveEffect.rewritten r ((RequestWrite.assign u.id).write r) records).TellsTruth w
      ↔ r.status = if taken then .pending else .assigned := by
  cases taken with
  | true =>
      rw [if_pos rfl] at hnews ⊢
      simp only [SaveEffect.TellsTruth, replay_append, hnews, List.foldl_cons, List.foldl_nil]
      constructor
      · rintro ⟨_, hpending⟩
        exact hpending (by simp)
      · intro hpending
        exact ⟨if_pos rfl, fun _ => hpending⟩
  -- the event got lost: the topic keeps the status of before
  | false =>
      rw [if_neg Bool.false_ne_true] at hnews ⊢
      rw [tellsTruth_of_silence hw hr hnews]
      exact eq_comm

/-- A request that writes no row has nothing to tell. -/
theorem trulyTold_of_rewrites_none {db : Db} {user : Option User} {action : RequestAction}
    (hwrites : action.rewrites py db user = none) : action.TrulyTold py db user := by
  cases action with
  | assign pk fresh =>
      intro u r hread
      simp only [RequestAction.rewrites, hread] at hwrites
      exact absurd hwrites (by simp)
  | complete pk data fresh =>
      intro r notes hread hnotes
      simp only [RequestAction.rewrites, hread, Option.map_eq_none_iff] at hwrites
      rw [hwrites] at hnotes
      exact absurd hnotes (by simp)
  | update pk part body =>
      intro r hread
      simp only [RequestAction.rewrites, hread] at hwrites
      exact absurd hwrites (by simp)

/-- **A request that writes a row** tells the truth exactly when it is truly told. -/
theorem trulyTold_rewrites_iff {w : World} (hw : Replays w) {user : Option User}
    {action : RequestAction} {r r' : ServiceRequest}
    (hwrites : action.rewrites py w.db user = some (r, r')) :
    action.TrulyTold py w.db user
      ↔ (SaveEffect.rewritten r r' (action.records py w.db user)).TellsTruth w := by
  have hr := mem_of_rewrites hwrites
  have hnews : newsOf (action.records py w.db user) = _ := newsOf_desk w.db user action
  cases action with
  | assign pk fresh =>
      obtain ⟨u, hread, rfl⟩ := rewrites_assign hwrites
      simp only [hread] at hnews
      rw [tellsTruth_assign_iff hw hr u hnews]
      constructor
      · intro h
        exact h u r hread
      · intro h u' x hx
        rw [hread] at hx
        injection hx with hx
        injection hx with _ hx
        rw [← hx]
        exact h
  | complete pk data fresh =>
      obtain ⟨notes, text, hread, htext, rfl⟩ := rewrites_complete hwrites
      rw [tellsTruth_of_silence hw hr hnews]
      constructor
      · intro h
        exact (h r notes hread (by rw [htext]; rfl)).symm
      · intro h x notes' hx _
        rw [hread] at hx
        injection hx with hx
        injection hx with hx _
        rw [← hx]
        exact h.symm
  | update pk part body =>
      obtain ⟨hread, rfl⟩ := rewrites_update hwrites
      rw [tellsTruth_of_silence hw hr hnews]
      show _ ↔ body.status.getD r.status = r.status
      constructor
      · intro h
        cases hbody : body.status with
        | none => rfl
        | some status => exact h r hread status hbody
      · intro h x hx status hbody
        rw [hread] at hx
        injection hx with hx
        rw [hbody] at h
        rw [← hx]
        exact h

/-- The events of a save elsewhere, of a row that it inserts. -/
theorem replay_saved {log : List Record} {row : ServiceRequest} {stamp : Stamp}
    {produce : ProduceOutcome} :
    replay (log ++ (savedPublished py row stamp produce).records) row.id.str
        = some row.status.value
      ↔ if (savedPublished py row stamp produce).isAccepted then row.status = .pending
        else replay log row.id.str = some row.status.value := by
  rw [replay_append, newsOf_saved]
  cases (savedPublished py row stamp produce).isAccepted with
  | false => exact Iff.rfl
  | true =>
      have htell : (RequestNews.created row.id.str).tell row.id.str (replay log row.id.str)
          = some (txt "pending") := if_pos rfl
      simp only [if_true, List.foldl_cons, List.foldl_nil, htell]
      constructor
      · intro hstatus
        injection hstatus with hstatus
        exact (RequestStatus.value_injective (s := .pending) hstatus).symm
      · intro hstatus
        rw [hstatus]
        rfl

theorem trulyTold_turn_iff (w : World) (caller : Caller) (pk : Uuid) (req : TurnRequest)
    (agent : AgentOutcome py) (fresh : SessionFresh) :
    TrulyTold w (.turn caller pk req agent fresh)
      ↔ (turnEffect py w caller pk req agent fresh).TellsTruth w := by
  show (∀ db d, turnDraft w.db caller pk req agent fresh = some (db, d) → _) ↔ _
  unfold turnEffect
  cases hdraft : turnDraft w.db caller pk req agent fresh with
  | none => exact iff_of_true (fun _ _ h => absurd h (by simp)) trivial
  | some draft =>
      obtain ⟨db, d⟩ := draft
      rw [forall_found_iff rfl]
      simp only
      cases hins : d.inserts py db fresh with
      | none =>
          -- without a row the block does not commit
          refine iff_of_true (fun h => ?_) trivial
          unfold RequestDraft.commits at h
          rw [hins] at h
          exact absurd h (by simp)
      | some rowDb =>
          obtain ⟨row, db'⟩ := rowDb
          obtain ⟨hid, hpending⟩ := id_of_inserts hins
          simp only [SaveEffect.TellsTruth, ServiceRequest.kept_id,
            ServiceRequest.kept_status, hid, hpending]
          exact imp_congr_right fun hcommits => (replay_draft hcommits).symm

theorem trulyTold_save_iff {w : World} (hw : Replays w) (row : ServiceRequest) (stamp : Stamp)
    (produce : ProduceOutcome) (tx : Transaction) :
    TrulyTold w (.save row stamp produce tx : SaveStep py)
      ↔ (elsewhereEffect py w row stamp produce tx).TellsTruth w := by
  show (tx.Commits w.db row → _) ↔ _
  unfold elsewhereEffect
  cases hfind : w.db.serviceRequests.find? row.id with
  | some old =>
      obtain ⟨hold, _⟩ := Table.find?_eq_some_iff.mp hfind
      simp only
      by_cases hcommits : tx.Commits w.db row
      · rw [if_pos hcommits, tellsTruth_of_silence hw hold rfl, ServiceRequest.kept_status]
        exact ⟨fun h => h hcommits, fun h _ => h⟩
      · rw [if_neg hcommits]
        exact iff_of_true (fun h => absurd h hcommits) trivial
  | none =>
      simp only
      by_cases haccepts : tx.Accepts w.db row
      · rw [if_pos haccepts]
        simp only [SaveEffect.TellsTruth, ServiceRequest.kept_id,
          ServiceRequest.kept_status, decide_eq_true_eq]
        exact imp_congr_right fun _ => replay_saved.symm
      · rw [if_neg haccepts]
        exact iff_of_true
          (fun h => absurd (Transaction.accepts_of_commits h) haccepts) trivial

theorem trulyTold_desk_iff {w : World} (hw : Replays w) (call : DeskCall) :
    TrulyTold w (.desk call : SaveStep py) ↔ (deskEffect py w call).TellsTruth w := by
  show (∀ user, authenticate w.db call.caller = some user → _) ↔ _
  unfold deskEffect
  cases hauth : authenticate w.db call.caller with
  | none => exact iff_of_true (fun _ h => absurd h (by simp)) trivial
  | some user =>
      have honly : (∀ u, some user = some u → call.action.TrulyTold py w.db u)
          ↔ call.action.TrulyTold py w.db user := by simp
      rw [honly]
      simp only
      cases hwrites : call.action.rewrites py w.db user with
      | none => exact iff_of_true (trulyTold_of_rewrites_none hwrites) trivial
      | some rows =>
          obtain ⟨r, r'⟩ := rows
          exact trulyTold_rewrites_iff hw hwrites

/-- A step tells the truth exactly when it is truly told. -/
theorem trulyTold_effect_iff {w : World} (hw : Replays w) (i : SaveStep py) :
    TrulyTold w i ↔ (saveEffect w i).TellsTruth w := by
  cases i with
  | turn caller pk req agent fresh => exact trulyTold_turn_iff w caller pk req agent fresh
  | save row stamp produce tx => exact trulyTold_save_iff hw row stamp produce tx
  | desk call => exact trulyTold_desk_iff hw call

/-- **The topic replays to the stored status, exactly** along the runs whose steps are
truly told; and only there does each change tell the old status that was there. -/
theorem replays_iff (py : Python) (w : World) (h : Replays w) (is : List (SaveStep py)) :
    AllStates saveStep Replays w is ∧ AllSteps saveStep TellsOldStatus w is
      ↔ AllSteps saveStep TrulyTold w is := by
  refine allStates_and_allSteps_iff ?_ h is
  intro w i hw
  rw [trulyTold_effect_iff hw]
  exact replays_effect_iff hw (saveEffect_happened w i) (saveEffect_speaksOfRow w i)

/-- Saved in a shell and taken by the manager: the topic tells both. -/
theorem replays_after_take :
    AllStates saveStep Replays demoFront
        [(.save demoRequest ⟨0, []⟩ .accepted .autocommit : SaveStep plainPython),
          .desk ⟨.token 3, .assign (some 30) { demoAction with produce := .accepted }⟩]
      ∧ AllSteps saveStep TellsOldStatus demoFront
        [(.save demoRequest ⟨0, []⟩ .accepted .autocommit : SaveStep plainPython),
          .desk ⟨.token 3, .assign (some 30) { demoAction with produce := .accepted }⟩] := by
  refine (replays_iff plainPython demoFront (fun r hr => absurd hr (by simp [demoFront])) _).mpr
    ⟨?_, ?_, trivial⟩
  · intro _
    have hnew : demoFront.db.serviceRequests.find? demoRequest.id = none := rfl
    have htaken : (savedPublished plainPython demoRequest ⟨0, []⟩ .accepted).isAccepted = true := by
      decide +kernel
    rw [hnew]
    simp only
    rw [if_pos htaken]
    rfl
  · intro user _ u r hread
    obtain ⟨_, hr, _⟩ := getRequest_ok (readAssign_ok hread).1
    have hall : ∀ r ∈ (saveStep demoFront (.save demoRequest ⟨0, []⟩ .accepted .autocommit
          : SaveStep plainPython)).db.serviceRequests.rows,
        r.status = if assignmentTaken plainPython r { demoAction with produce := .accepted }
          then .pending else .assigned := by decide +kernel
    exact hall r hr

/-- The manager completes the guest's request; the topic still says it is pending. -/
theorem completion_untold :
    ¬ ∀ (py : Python) (w : World), Replays w → ∀ is : List (SaveStep py),
      AllStates saveStep Replays w is ∧ AllSteps saveStep TellsOldStatus w is := by
  intro h
  have hrun := h plainPython demoFront (fun r hr => absurd hr (by simp [demoFront]))
    [demoMassage .accepted .kafkaException,
      .desk ⟨.token 3, .complete (some 31) (.obj []) demoAction⟩]
  have hlast := hrun.1.last
  have hwrong : ∃ r ∈ (run saveStep demoFront [demoMassage .accepted .kafkaException,
      .desk ⟨.token 3, .complete (some 31) (.obj []) demoAction⟩]).db.serviceRequests.rows,
      replay (run saveStep demoFront [demoMassage .accepted .kafkaException,
        .desk ⟨.token 3, .complete (some 31) (.obj []) demoAction⟩]).log r.id.str
        ≠ some r.status.value := by decide +kernel
  obtain ⟨r, hr, hne⟩ := hwrong
  exact hne (hlast r hr)

end HotelAgent
