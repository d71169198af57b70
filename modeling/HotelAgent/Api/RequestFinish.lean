/-
  HotelAgent.Api.RequestFinish — what becomes of a finished service request.

  A request is finished when its status is `completed` or `cancelled`.  Neither
  `assign` nor `complete` looks at the status before it writes: an assignment
  opens a finished request again, and a second completion moves the completion
  time, replaces the notes and notifies the guest once more.

  Main result, `finished_stays_iff`: along a run of `assign` and `complete` calls
  a finished request stays as it is and its guest is notified at most once, if
  and only if no assignment reaches it when it is finished, every completion that
  reaches it then writes what is stored, and no completion is announced after
  another.
-/
import HotelAgent.Api.RequestEvents

namespace HotelAgent

open Lib

variable {py : Python}

/-! ## §1. Calls on one request. -/

/-- A call of `assign` or `complete`, by whoever. -/
inductive FinishCall where
  | assign (caller : Caller) (fresh : ActionFresh)
  | complete (caller : Caller) (data : Json) (fresh : ActionFresh)

/-- The call on the request `id`. -/
def FinishCall.desk (id : Uuid) : FinishCall → DeskCall
  | .assign caller fresh => ⟨caller, .assign (some id) fresh⟩
  | .complete caller data fresh => ⟨caller, .complete (some id) data fresh⟩

def finishStep (py : Python) (id : Uuid) (w : World) (c : FinishCall) : World :=
  deskStep py w (c.desk id)

def RequestStatus.isFinished : RequestStatus → Bool
  | .completed | .cancelled => true
  | .pending | .assigned | .inProgress => false

/-- The columns that a finished request keeps. -/
abbrev FinishColumns := RequestStatus × Option Uuid × Option Instant × Text

def ServiceRequest.finishColumns (r : ServiceRequest) : FinishColumns :=
  (r.status, r.assignedTo, r.completedAt, r.notes)

/-- The stored columns of the request `id`. -/
def storedColumns (id : Uuid) (w : World) : Option FinishColumns :=
  (w.db.serviceRequests.find? id).map ServiceRequest.finishColumns

/-- The request is there and finished. -/
def IsFinished (columns : Option FinishColumns) : Prop :=
  ∃ c, columns = some c ∧ c.1.isFinished = true

/-- The request that a notification says is completed. -/
def KafkaEvent.completionOf (event : KafkaEvent) : Option Text :=
  if event.eventType = NotificationEvent.eventType then
    match dictGet? event.payload (txt "data") with
    | some (.obj data) =>
      match dictGet? data (txt "request_id") with
      | some (.str requestId) => some requestId
      | _ => none
    | _ => none
  else none

/-- The completion notifications of the request `id`. -/
def completions (id : Uuid) (log : List Record) : List Record :=
  log.filter fun rec => rec.event.completionOf = some id.str

/-! ## §2. What a call writes and announces. -/

/-- **The call leaves a finished request alone**: an assignment does not reach it, a completion
writes what is stored; and a completion is announced only where none was. -/
def FinishCall.Harmless (py : Python) (id : Uuid) (w : World) : FinishCall → Prop
  | .assign caller _ =>
    ∀ user u r, authenticate w.db caller = some user → readAssign w.db user (some id) = .ok (u, r) →
      r.status.isFinished = false
  | .complete caller data fresh =>
    ∀ user r notes text, authenticate w.db caller = some user →
      readComplete w.db user (some id) data = .ok (r, notes) → notesText py notes = some text →
        (r.status.isFinished = true →
          r.status = .completed ∧ r.completedAt = some fresh.now ∧ r.notes = text)
        ∧ ((publish py fresh.produce (txt "NOTIFICATIONS") (completionEvent r fresh.stamp)
            none).isAccepted = true → completions id w.log = [])

theorem completions_append (id : Uuid) (a b : List Record) :
    completions id (a ++ b) = completions id a ++ completions id b :=
  List.filter_append ..

/-- The event of a completion is about its row. -/
theorem completionOf_completionEvent (r : ServiceRequest) (stamp : Stamp) :
    (completionEvent r stamp).completionOf = some r.id.str := rfl

/-- The event of an assignment is no notification. -/
theorem completionOf_assignedEvent (r : ServiceRequest) (stamp : Stamp) :
    (assignedEvent r stamp).completionOf = none := by
  have htype : ServiceRequestEvent.eventType ≠ NotificationEvent.eventType := by decide
  exact if_neg htype

/-- An event that is not about the request adds nothing. -/
theorem completions_of_other {id : Uuid} {produce : ProduceOutcome} {topicKey : Text}
    {event : KafkaEvent} {key : Option Text} (h : event.completionOf ≠ some id.str) :
    completions id (publish py produce topicKey event key).records = [] := by
  cases hpub : publish py produce topicKey event key with
  | accepted rec =>
      refine List.filter_eq_nil_iff.mpr fun x hx => ?_
      rw [Published.records, List.mem_singleton] at hx
      obtain ⟨_, _, _, hevent⟩ := publish_accepted hpub
      rw [hx, hevent]
      simpa using h
  | refused => rfl
  | raised => rfl

/-- An event about the request counts where the client takes it. -/
theorem length_completions {id : Uuid} {produce : ProduceOutcome} {topicKey : Text}
    {event : KafkaEvent} {key : Option Text} (h : event.completionOf = some id.str) :
    (completions id (publish py produce topicKey event key).records).length
      = if (publish py produce topicKey event key).isAccepted then 1 else 0 := by
  cases hpub : publish py produce topicKey event key with
  | accepted rec =>
      have hrec : rec.event.completionOf = some id.str := by
        obtain ⟨_, _, _, hevent⟩ := publish_accepted hpub
        rw [hevent]
        exact h
      simp [completions, Published.records, Published.isAccepted, hrec]
  | refused => rfl
  | raised => rfl

/-- A call that writes no row changes nothing. -/
theorem finishStep_idle {id : Uuid} {w : World} {c : FinishCall} {user : Option User}
    (hauth : authenticate w.db (c.desk id).caller = some user)
    (h : (c.desk id).action.rewrites py w.db user = none) :
    storedColumns id (finishStep py id w c) = storedColumns id w
      ∧ (finishStep py id w c).log = w.log := by
  have hstep : finishStep py id w c = ((c.desk id).action.handle py w user).1 := by
    unfold finishStep deskStep
    rw [hauth]
  rw [hstep]
  constructor
  · unfold storedColumns
    rw [handle_of_rewrites_none h]
  · rw [log_handle, records_of_rewrites_none h, List.append_nil]

/-- A call that writes the row shows its columns. -/
theorem finishStep_wrote {id : Uuid} {w : World} {c : FinishCall} {user : Option User}
    {r r' : ServiceRequest} (hauth : authenticate w.db (c.desk id).caller = some user)
    (hid : r.id = id) (h : (c.desk id).action.rewrites py w.db user = some (r, r')) :
    storedColumns id w = some r.finishColumns
      ∧ storedColumns id (finishStep py id w c) = some r'.finishColumns
      ∧ (finishStep py id w c).log = w.log ++ (c.desk id).action.records py w.db user := by
  have hstep : finishStep py id w c = ((c.desk id).action.handle py w user).1 := by
    unfold finishStep deskStep
    rw [hauth]
  have hwrote := handle_of_rewrites_some h
  rw [hstep]
  refine ⟨?_, ?_, log_handle py w user _⟩
  · unfold storedColumns
    rw [Table.find?_eq_some_iff.mpr ⟨hwrote.mem, hid⟩]
    rfl
  · unfold storedColumns
    rw [hwrote.serviceRequests, ← hid, ← hwrote.id_eq, Table.find?_put_self hwrote.has]
    rfl

/-- Nothing that is finished changes, as a demand on one call. -/
def KeepsFinished (py : Python) (id : Uuid) (w : World) (c : FinishCall) : Prop :=
  IsFinished (storedColumns id w) →
    storedColumns id (finishStep py id w c) = storedColumns id w

/-- At most one completion is announced. -/
def AnnouncedAtMostOnce (id : Uuid) (w : World) : Prop := (completions id w.log).length ≤ 1

theorem isFinished_some {c : FinishColumns} : IsFinished (some c) ↔ c.1.isFinished = true := by
  constructor
  · rintro ⟨c', hc, hfinished⟩
    injection hc with hc
    rw [hc]
    exact hfinished
  · intro h
    exact ⟨c, rfl, h⟩

/-- A call without a user changes nothing. -/
theorem finishStep_unauthenticated {id : Uuid} {w : World} {c : FinishCall}
    (hauth : authenticate w.db (c.desk id).caller = none) : finishStep py id w c = w := by
  unfold finishStep deskStep
  rw [hauth]

/-- What changes neither the columns nor the log meets both demands. -/
theorem keeps_of_same {id : Uuid} {w : World} {c : FinishCall} (hcount : AnnouncedAtMostOnce id w)
    (hcolumns : storedColumns id (finishStep py id w c) = storedColumns id w)
    (hlog : (finishStep py id w c).log = w.log) :
    AnnouncedAtMostOnce id (finishStep py id w c) ∧ KeepsFinished py id w c := by
  refine ⟨?_, fun _ => hcolumns⟩
  unfold AnnouncedAtMostOnce
  rw [hlog]
  exact hcount

/-- An assignment never leaves a finished status as it is. -/
theorem assign_harmless_iff {id : Uuid} {w : World} {caller : Caller} {fresh : ActionFresh}
    (hcount : AnnouncedAtMostOnce id w) :
    AnnouncedAtMostOnce id (finishStep py id w (.assign caller fresh))
        ∧ KeepsFinished py id w (.assign caller fresh)
      ↔ (FinishCall.assign caller fresh).Harmless py id w := by
  cases hauth : authenticate w.db caller with
  | none =>
      have hstep : finishStep py id w (.assign caller fresh) = w :=
        finishStep_unauthenticated hauth
      refine iff_of_true (keeps_of_same hcount (by rw [hstep]) (by rw [hstep])) ?_
      intro user u r ha
      rw [hauth] at ha
      exact absurd ha (by simp)
  | some user =>
      cases hread : readAssign w.db user (some id) with
      | error response =>
          have hrewrites : (FinishCall.assign caller fresh |>.desk id).action.rewrites py w.db user
              = none := by
            simp only [FinishCall.desk, RequestAction.rewrites, hread]
          obtain ⟨hcolumns, hlog⟩ := finishStep_idle hauth hrewrites
          refine iff_of_true (keeps_of_same hcount hcolumns hlog) ?_
          intro user' u r ha hr
          rw [hauth] at ha
          injection ha with ha
          rw [← ha, hread] at hr
          exact absurd hr (by simp)
      | ok ur =>
          obtain ⟨u, r⟩ := ur
          have hpk := (getRequest_ok (readAssign_ok hread).1).2.2.1
          injection hpk with hpk
          have hrewrites : (FinishCall.assign caller fresh |>.desk id).action.rewrites py w.db user
              = some (r, (RequestWrite.assign u.id).write r) := by
            simp only [FinishCall.desk, RequestAction.rewrites, hread]
          obtain ⟨hbefore, hafter, hlog⟩ := finishStep_wrote hauth hpk.symm hrewrites
          have hnone : completions id
              ((FinishCall.assign caller fresh |>.desk id).action.records py w.db user) = [] := by
            simp only [FinishCall.desk, RequestAction.records, hread]
            exact completions_of_other (by rw [completionOf_assignedEvent]; simp)
          have hcount' : AnnouncedAtMostOnce id (finishStep py id w (.assign caller fresh)) := by
            unfold AnnouncedAtMostOnce
            rw [hlog, completions_append, hnone, List.append_nil]
            exact hcount
          unfold KeepsFinished
          rw [and_iff_right hcount', hbefore, hafter, isFinished_some]
          constructor
          · intro hkeeps user' u' r' ha hr
            rw [hauth] at ha
            injection ha with ha
            rw [← ha, hread] at hr
            injection hr with hr
            injection hr with _ hr
            rw [← hr]
            cases hfinished : r.status.isFinished with
            | false => rfl
            | true =>
                -- the row would have to be assigned already
                have hsame := hkeeps hfinished
                injection hsame with hsame
                injection hsame with hstatus _
                have hassigned : r.status = .assigned := hstatus.symm
                rw [hassigned] at hfinished
                exact absurd hfinished (by decide)
          · intro hharmless hfinished
            have hopen := hharmless user u r hauth hread
            exact absurd (hopen.symm.trans hfinished) (by decide)

/-- When a completion writes what is stored. -/
theorem finishColumns_complete_eq_iff (r : ServiceRequest) (now : Instant) (text : Text) :
    ((RequestWrite.complete now text).write r).finishColumns = r.finishColumns
      ↔ r.status = .completed ∧ r.completedAt = some now ∧ r.notes = text := by
  simp only [ServiceRequest.finishColumns, RequestWrite.complete, Prod.mk.injEq, true_and]
  exact and_congr eq_comm (and_congr eq_comm eq_comm)

/-- When one more completion is the first. -/
theorem announced_once_iff {id : Uuid} {w : World} (hcount : AnnouncedAtMostOnce id w)
    (p : Published) :
    (completions id w.log).length + (if p.isAccepted then 1 else 0) ≤ 1
      ↔ (p.isAccepted = true → completions id w.log = []) := by
  unfold AnnouncedAtMostOnce at hcount
  rw [← List.length_eq_zero_iff]
  by_cases haccepted : p.isAccepted = true
  · simp only [haccepted, if_true, true_implies]
    omega
  · rw [if_neg haccepted]
    exact iff_of_true hcount fun h => absurd h haccepted

/-- A completion leaves a finished request alone exactly if it writes what is stored, and is
announced once exactly if nothing was announced before it. -/
theorem complete_harmless_iff {id : Uuid} {w : World} {caller : Caller} {data : Json}
    {fresh : ActionFresh} (hcount : AnnouncedAtMostOnce id w) :
    AnnouncedAtMostOnce id (finishStep py id w (.complete caller data fresh))
        ∧ KeepsFinished py id w (.complete caller data fresh)
      ↔ (FinishCall.complete caller data fresh).Harmless py id w := by
  cases hauth : authenticate w.db caller with
  | none =>
      have hstep : finishStep py id w (.complete caller data fresh) = w :=
        finishStep_unauthenticated hauth
      refine iff_of_true (keeps_of_same hcount (by rw [hstep]) (by rw [hstep])) ?_
      intro user r notes text ha
      rw [hauth] at ha
      exact absurd ha (by simp)
  | some user =>
      cases hrewrites : (FinishCall.complete caller data fresh |>.desk id).action.rewrites py w.db
          user with
      | none =>
          obtain ⟨hcolumns, hlog⟩ := finishStep_idle hauth hrewrites
          refine iff_of_true (keeps_of_same hcount hcolumns hlog) ?_
          intro user' r notes text ha hr htext
          rw [hauth] at ha
          injection ha with ha
          rw [← ha] at hr
          simp only [FinishCall.desk, RequestAction.rewrites, hr, htext] at hrewrites
          exact absurd hrewrites (by simp)
      | some rows =>
          obtain ⟨r, r'⟩ := rows
          obtain ⟨notes, text, hread, htext, rfl⟩ := rewrites_complete hrewrites
          obtain ⟨u, hget⟩ := readComplete_ok hread
          have hpk := (getRequest_ok hget).2.2.1
          injection hpk with hpk
          obtain ⟨hbefore, hafter, hlog⟩ := finishStep_wrote hauth hpk.symm hrewrites
          have hrecords : (FinishCall.complete caller data fresh |>.desk id).action.records py w.db
              user = (publish py fresh.produce (txt "NOTIFICATIONS") (completionEvent r fresh.stamp)
                none).records := by
            simp only [FinishCall.desk, RequestAction.records, hread, htext]
            rfl
          have habout : (completionEvent r fresh.stamp).completionOf = some id.str := by
            rw [completionOf_completionEvent, ← hpk]
          unfold AnnouncedAtMostOnce KeepsFinished
          rw [hlog, completions_append, List.length_append, hrecords, length_completions habout,
            hbefore, hafter, isFinished_some, Option.some.injEq, finishColumns_complete_eq_iff,
            announced_once_iff hcount]
          constructor
          · rintro ⟨honce, hkeeps⟩ user' r' notes' text' ha hr htext'
            rw [hauth] at ha
            injection ha with ha
            rw [← ha] at hr
            have heq := hread.symm.trans hr
            injection heq with heq
            injection heq with hrow hnotes
            rw [← hnotes, htext] at htext'
            injection htext' with htext'
            rw [← hrow, ← htext']
            exact ⟨hkeeps, honce⟩
          · intro hharmless
            obtain ⟨hkeeps, honce⟩ := hharmless user r notes text hauth hread htext
            exact ⟨honce, hkeeps⟩

/-! ## §3. Runs. -/

theorem harmless_iff {id : Uuid} {w : World} (c : FinishCall) (hcount : AnnouncedAtMostOnce id w) :
    AnnouncedAtMostOnce id (finishStep py id w c) ∧ KeepsFinished py id w c
      ↔ c.Harmless py id w := by
  cases c with
  | assign caller fresh => exact assign_harmless_iff hcount
  | complete caller data fresh => exact complete_harmless_iff hcount

/-- **Finished requests stay finished, exactly.**  Along a run of `assign` and `complete` calls on
one request, by whoever, no call changes a finished request and at most one completion is ever
announced, if and only if at most one was announced before and each call leaves a finished
request alone. -/
theorem finished_stays_iff (py : Python) (id : Uuid) (w : World) (cs : List FinishCall) :
    Frozen (finishStep py id) (storedColumns id) IsFinished w cs
        ∧ AllStates (finishStep py id) (AnnouncedAtMostOnce id) w cs
      ↔ AnnouncedAtMostOnce id w
        ∧ AllSteps (finishStep py id) (fun w' c => c.Harmless py id w') w cs := by
  rw [frozen_iff_allSteps]
  have hstep : ∀ w' c, AnnouncedAtMostOnce id w' →
      (AnnouncedAtMostOnce id (finishStep py id w' c) ∧ KeepsFinished py id w' c
        ↔ c.Harmless py id w') := fun _ c hcount => harmless_iff c hcount
  have hsteps (hcount : AnnouncedAtMostOnce id w) := allStates_and_allSteps_iff hstep hcount cs
  constructor
  · rintro ⟨hkeeps, hcount⟩
    exact ⟨hcount.head, (hsteps hcount.head).mp ⟨hcount, hkeeps⟩⟩
  · rintro ⟨hcount, hharmless⟩
    obtain ⟨hcounts, hkeeps⟩ := (hsteps hcount).mpr hharmless
    exact ⟨hkeeps, hcounts⟩

/-- The manager of the demo hotel completes the request and then takes it on. -/
def completedThenAssigned : List FinishCall :=
  [.complete (.token 3) (.obj []) demoAction, .assign (.token 3) demoAction]

/-- A finished request is opened again. -/
theorem finished_request_reopens :
    ¬ ∀ (py : Python) (id : Uuid) (w : World) (cs : List FinishCall), completions id w.log = [] →
      Frozen (finishStep py id) (storedColumns id) IsFinished w cs
        ∧ AllStates (finishStep py id) (AnnouncedAtMostOnce id) w cs := by
  intro h
  have hfrozen := (h plainPython 30 demoDesk completedThenAssigned rfl).1
  have hsame := hfrozen [.complete (.token 3) (.obj []) demoAction]
    [.assign (.token 3) demoAction] [] rfl ⟨(.completed, none, some second, []),
      by decide +kernel, rfl⟩
  exact absurd hsame (by decide +kernel)

end HotelAgent
