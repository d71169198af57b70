/-
  HotelAgent.Api.PublishLog — what a request adds to the log.

  `ApiRequest.calls` lists the calls of `publish` that a request comes to while
  Kafka takes everything.  Whatever Kafka does, the request hands over the
  records of these calls, one after the other, up to the first that raises.

  Main result, `log_serve`: the log after a request is the log before it and
  these records.
-/
import HotelAgent.Api.KafkaOutage

namespace HotelAgent

open Lib

variable {py : Python}

/-! ## §1. Calls in a row. -/

/-- The records of calls that are made in turn: a call that raises is the last. -/
def handedOver (py : Python) : List PublishCall → List Record
  | [] => []
  | p :: ps =>
    match p.published py with
    | .raised => []
    | published => published.records ++ handedOver py ps

theorem handedOver_single (p : PublishCall) : handedOver py [p] = (p.published py).records := by
  unfold handedOver
  cases p.published py with
  | accepted r => rfl
  | refused => rfl
  | raised => rfl

theorem handedOver_pair (p q : PublishCall) :
    handedOver py [p, q] = (p.published py).records
      ++ if (p.published py).returns then (q.published py).records else [] := by
  unfold handedOver
  rw [handedOver_single]
  cases p.published py with
  | accepted r => rfl
  | refused => rfl
  | raised => rfl

/-- A record is handed over by one of the calls. -/
theorem mem_handedOver {rec : Record} {calls : List PublishCall} (h : rec ∈ handedOver py calls) :
    ∃ p ∈ calls, p.published py = .accepted rec := by
  induction calls with
  | nil => exact absurd h List.not_mem_nil
  | cons p ps ih =>
      unfold handedOver at h
      split at h
      · exact absurd h List.not_mem_nil
      next hpublished =>
        rcases List.mem_append.mp h with h | h
        · refine ⟨p, List.mem_cons_self, ?_⟩
          cases hp : p.published py with
          | accepted r =>
              rw [hp] at h
              rw [List.mem_singleton.mp h]
          | refused =>
              rw [hp] at h
              exact absurd h List.not_mem_nil
          | raised => exact absurd hp hpublished
        · obtain ⟨q, hq, haccepted⟩ := ih h
          exact ⟨q, List.mem_cons_of_mem p hq, haccepted⟩

/-- **The log grows by the records of these calls.** -/
def LogGains (py : Python) (log : List Record) (w : World) (calls : List PublishCall) : Prop :=
  w.log = log ++ handedOver py calls

theorem logGains_silent {log : List Record} {w : World} (h : w.log = log) :
    LogGains py log w [] := by
  unfold LogGains handedOver
  rw [h, List.append_nil]

theorem logGains_afterPublish {A : Type} (p : PublishCall) (w : World) {answer failure : A} :
    LogGains py w.log (afterPublish (p.published py) w answer failure).1 [p] := by
  unfold LogGains
  rw [handedOver_single]
  unfold afterPublish
  cases p.published py with
  | accepted r => rfl
  | refused => rfl
  | raised => exact (List.append_nil w.log).symm

/-! ## §2. The views. -/

section
variable {w : World}

theorem logGains_createSession (caller : Caller) (bookingId : Option Uuid)
    (fresh : SessionFresh) :
    LogGains py w.log (createSession py w caller bookingId fresh).1
      ((openedSession w.db caller bookingId fresh).toList.map fun (user, booking) =>
        startedCall w.db user booking fresh) := by
  unfold createSession openedSession
  cases requireUser w.db caller with
  | error answer => exact logGains_silent rfl
  | ok user =>
      simp only
      generalize bookingId.bind (checkedInBooking w.db user) = booking
      by_cases hno : bookingId.isSome ∧ booking = none
      · rw [if_pos hno, if_pos hno]
        exact logGains_silent rfl
      · rw [if_neg hno, if_neg hno]
        cases hins : w.db.insertSession (newSession user (booking.map Booking.id) fresh) with
        | none => exact logGains_silent rfl
        | some db₁ =>
            obtain ⟨_, _, _, _, hrooms, _⟩ := Db.insertSession_eq_some hins
            have hroom : roomNumber db₁ booking = roomNumber w.db booking :=
              roomNumber_congr hrooms booking
            simp only [Option.isSome_some, if_true, Option.toList_some, List.map_cons, List.map_nil,
              hroom]
            exact logGains_afterPublish (startedCall w.db user booking fresh) { w with db := db₁ }

theorem logGains_endSession (caller : Caller) (pk : Uuid) (fresh : SessionFresh) :
    LogGains py w.log (endSession py w caller pk fresh).1
      ((endedSession w.db caller pk fresh.now).toList.map fun s => completedCall s fresh) := by
  unfold endSession endedSession
  cases readEnd w.db caller pk with
  | error answer => exact logGains_silent rfl
  | ok s =>
      simp only
      cases saveEnd w.db s fresh.now with
      | none => exact logGains_silent rfl
      | some db₁ =>
          simp only [Option.isSome_some, if_true, Option.toList_some, List.map_cons, List.map_nil]
          exact logGains_afterPublish (completedCall s fresh) { w with db := db₁ }

theorem logGains_assign (user : Option User) (pk : Option Uuid) (fresh : ActionFresh) :
    LogGains py w.log (assign py w user pk fresh).1
      (((RequestAction.assign pk fresh).rewrites py w.db user).toList.map fun rows =>
        assignedCall rows.1 fresh) := by
  unfold assign
  simp only [RequestAction.rewrites]
  cases hread : readAssign w.db user pk with
  | error response => exact logGains_silent rfl
  | ok ur =>
      obtain ⟨u, r⟩ := ur
      obtain ⟨_, hmem, _⟩ := getRequest_ok (readAssign_ok hread).1
      obtain ⟨db₁, hsave, _⟩ := saveAssign_of_mem u hmem
      simp only [hsave, Option.toList_some, List.map_cons, List.map_nil]
      exact logGains_afterPublish (assignedCall r fresh) { w with db := db₁ }

theorem logGains_complete (user : Option User) (pk : Option Uuid) (data : Json)
    (fresh : ActionFresh) :
    LogGains py w.log (complete py w user pk data fresh).1
      (((RequestAction.complete pk data fresh).rewrites py w.db user).toList.map fun rows =>
        completionCall rows.1 fresh) := by
  unfold complete
  simp only [RequestAction.rewrites]
  cases hread : readComplete w.db user pk data with
  | error response => exact logGains_silent rfl
  | ok rn =>
      obtain ⟨r, notes⟩ := rn
      simp only
      cases htext : notesText py notes with
      | none =>
          simp only [saveComplete, htext]
          exact logGains_silent rfl
      | some text =>
          obtain ⟨_, hget⟩ := readComplete_ok hread
          obtain ⟨_, hmem, _⟩ := getRequest_ok hget
          obtain ⟨db₁, hsave, _⟩ := saveComplete_of_mem fresh.now hmem htext
          simp only [hsave, Option.map_some, Option.toList_some, List.map_cons, List.map_nil]
          exact logGains_afterPublish (completionCall r fresh) { w with db := db₁ }

theorem logGains_createBooking (caller : Caller) (body : BookingBody) (fresh : Fresh) :
    LogGains py w.log (createBooking py w caller body fresh).1
      ((madeBooking w.db caller body fresh).toList.map fun b => bookedCall b fresh) := by
  unfold createBooking madeBooking
  cases readCreate w.db caller body with
  | error answer => exact logGains_silent rfl
  | ok draft =>
      simp only
      cases w.db.insertBooking (draft.row fresh) with
      | none => exact logGains_silent rfl
      | some db₁ =>
          simp only [Option.isSome_some, if_true, Option.toList_some, List.map_cons, List.map_nil]
          unfold LogGains
          rw [log_onBookingSave, handedOver_single]
          rfl

/-- The block of a turn: the view comes to its call only if the signal returns. -/
theorem logGains_turn (caller : Caller) (pk : Uuid) (req : TurnRequest)
    (agent : AgentOutcome py) (fresh : SessionFresh) :
    LogGains py w.log (processTurn w caller pk req agent fresh).1
      (turnCalls w.db caller pk req agent fresh) := by
  unfold turnCalls
  cases hdraft : turnDraft w.db caller pk req agent fresh with
  | none =>
      rw [processTurn_eq_of_no_draft hdraft]
      refine logGains_silent ?_
      split
      · rfl
      · split
        · rfl
        · rfl
      · split
        · rfl
        · rfl
  | some draft =>
      obtain ⟨db₁, d⟩ := draft
      obtain ⟨_, hsession⟩ := sameButSessions_of_draft hdraft
      unfold LogGains
      rw [processTurn_of_draft hdraft, log_createRequest (w := { w with db := db₁ }) fresh hsession]
      congr 1
      unfold RequestDraft.records RequestDraft.calls
      simp only
      split
      · rw [handedOver_pair]
        rfl
      · rfl

end

/-! ## §3. The endpoints. -/

section
variable {F : Filters} {w : World} {caller : Caller} {user : Option User} {query : Query}

theorem logGains_voice (call : VoiceWrite py) :
    LogGains py w.log (call.handle F w caller user query) (call.calls F w.db caller user query) := by
  cases call with
  | create body fresh =>
      simp only [VoiceWrite.handle, VoiceWrite.calls]
      cases user with
      | none => exact logGains_silent rfl
      | some u =>
          cases body.read with
          | error response => exact logGains_silent rfl
          | ok booking =>
              rcases booking with _ | _ | id
              · exact logGains_createSession caller none fresh
              · exact logGains_silent rfl
              · exact logGains_createSession caller (some id) fresh
  | update pk =>
      simp only [VoiceWrite.handle, VoiceWrite.calls]
      rcases user.map fun user => sessionObject F query w.db user pk with _ | response | s
      · exact logGains_silent rfl
      · exact logGains_silent rfl
      · simp only
        cases w.db.saveSession s.id (.rewrite s) with
        | none => exact logGains_silent rfl
        | some db₁ => exact logGains_silent rfl
  | destroy pk =>
      simp only [VoiceWrite.handle, VoiceWrite.calls]
      rcases user.map fun user => sessionObject F query w.db user pk with _ | response | s
      · exact logGains_silent rfl
      · exact logGains_silent rfl
      · exact logGains_silent rfl
  | turn pk body optionErrors agent fresh =>
      simp only [VoiceWrite.handle, VoiceWrite.calls]
      rcases user.map fun user => sessionObject F query w.db user pk with _ | response | s
      · exact logGains_silent rfl
      · exact logGains_silent rfl
      · simp only
        cases body.read with
        | error response => exact logGains_silent rfl
        | ok data =>
            simp only
            split
            · exact logGains_silent rfl
            · exact logGains_turn caller s.id data agent fresh
  | finish pk fresh =>
      simp only [VoiceWrite.handle, VoiceWrite.calls]
      rcases user.map fun user => sessionObject F query w.db user pk with _ | response | s
      · exact logGains_silent rfl
      · exact logGains_silent rfl
      · exact logGains_endSession caller s.id fresh

theorem logGains_onRequest (pk : Option Uuid) {handle : World → World × Response}
    {calls : List PublishCall} (h : LogGains py w.log (handle w).1 calls) :
    LogGains py w.log (onRequest F w user query pk handle).1
      (match requestObject F query w.db user pk with
        | .error _ => []
        | .ok _ => calls) := by
  unfold onRequest
  cases requestObject F query w.db user pk with
  | error response => exact logGains_silent rfl
  | ok r => exact h

/-- A request to one row that publishes nothing. -/
theorem log_onRequest (pk : Option Uuid) {handle : World → World × Response}
    (h : (handle w).1.log = w.log) : (onRequest F w user query pk handle).1.log = w.log := by
  unfold onRequest
  split
  · rfl
  · exact h

theorem log_createServiceRequest (body : RequestBody) :
    (createServiceRequest w body).1.log = w.log := by
  unfold createServiceRequest
  split
  · rfl
  · rfl

theorem log_updateServiceRequest (pk : Option Uuid) (part : Bool) (body : RequestBody) :
    (updateServiceRequest w user pk part body).1.log = w.log := by
  unfold updateServiceRequest
  split
  · rfl
  · split
    · rfl
    · rfl

theorem log_destroyServiceRequest (pk : Option Uuid) :
    (destroyServiceRequest w user pk).1.log = w.log := by
  unfold destroyServiceRequest
  split
  · rfl
  · rfl

/-- The signal of an existing booking publishes nothing. -/
theorem log_updateBooking (pk : Uuid) (part : Bool) (body : BookingBody) (fresh : Fresh) :
    (updateBooking py w caller pk part body fresh).1.log = w.log := by
  unfold updateBooking
  split
  · rfl
  · simp only
    split
    · rfl
    · rfl

theorem log_putBooking (pk : Option Uuid) (part : Bool) (body : Body BookingData)
    (fresh : Fresh) :
    (putBooking py F w caller user query pk part body fresh).1.log = w.log := by
  unfold putBooking
  split
  · rfl
  · split
    · rfl
    · split
      · rfl
      · exact log_updateBooking _ _ _ _

theorem log_deleteBooking (pk : Option Uuid) :
    (deleteBooking F w caller user query pk).1.log = w.log := by
  unfold deleteBooking destroyBooking
  split
  · rfl
  · simp only
    split
    · rfl
    · split
      · rfl
      · rfl

theorem logGains_owned (call : OwnedWrite) :
    LogGains py w.log (call.handle py F w caller user query).1
      (call.calls F w.db caller user query py) := by
  cases call with
  | createRequest body =>
      simp only [OwnedWrite.handle, OwnedWrite.calls]
      cases body.read with
      | error response => exact logGains_silent rfl
      | ok data => exact logGains_silent (log_createServiceRequest data)
  | updateRequest pk part body =>
      simp only [OwnedWrite.handle, OwnedWrite.calls]
      refine logGains_silent (log_onRequest pk ?_)
      cases body.read with
      | error response => rfl
      | ok data => exact log_updateServiceRequest pk part data
  | destroyRequest pk =>
      simp only [OwnedWrite.handle, OwnedWrite.calls]
      exact logGains_silent (log_onRequest pk (log_destroyServiceRequest pk))
  | assign pk fresh =>
      simp only [OwnedWrite.handle, OwnedWrite.calls]
      rw [calls_objectRewrites]
      exact logGains_onRequest pk (logGains_assign user pk fresh)
  | complete pk body fresh =>
      simp only [OwnedWrite.handle, OwnedWrite.calls]
      cases body.read with
      | error response => exact logGains_silent (log_onRequest pk rfl)
      | ok data =>
          simp only
          rw [calls_objectRewrites]
          exact logGains_onRequest pk (logGains_complete user pk data fresh)
  | createBooking body fresh =>
      simp only [OwnedWrite.handle, OwnedWrite.calls, postBooking]
      cases body.read with
      | error response => exact logGains_silent rfl
      | ok data =>
          simp only
          split
          · exact logGains_silent rfl
          · exact logGains_createBooking caller data.fields fresh
  | updateBooking pk part body fresh => exact logGains_silent (log_putBooking pk part body fresh)
  | destroyBooking pk => exact logGains_silent (log_deleteBooking pk)

end

/-- **The log after a request** is the log before it and the records of the request's calls. -/
theorem log_serve (D : Deployment) (w : World) (latencyMs : Text) (request : ApiRequest py) :
    (request.serve D w latencyMs).1.log = w.log ++ handedOver py (request.calls D w.db) := by
  show LogGains py w.log (request.serve D w latencyMs).1 (request.calls D w.db)
  cases request with
  | read cred query call => exact logGains_silent rfl
  | rooms cred query pk => exact logGains_silent rfl
  | write cred query call =>
      cases call with
      | voice call =>
          simp only [ApiRequest.serve, ApiRequest.calls]
          cases cred.user w.db with
          | error response => exact logGains_silent rfl
          | ok user => exact logGains_voice call
      | owned call =>
          simp only [ApiRequest.serve, ApiRequest.calls]
          cases cred.user w.db with
          | error response => exact logGains_silent rfl
          | ok user => exact logGains_owned call
  | register body remoteAddr fresh =>
      refine logGains_silent ?_
      simp only [ApiRequest.serve, register]
      split
      · rfl
      · split
        · rfl
        · split
          · rfl
          · rfl
  | token req now => exact logGains_silent rfl

end HotelAgent
