/-
  HotelAgent.Api.KafkaOutage — the API while Kafka is away.

  `publish` catches the `KafkaException` of `produce` and returns `False`, which
  no caller looks at.  The `BufferError` of a full queue is no `KafkaException`:
  it leaves `publish`, and the request that published is answered with a 500.

  A run is compared with the run in which Kafka takes everything, by the database
  after each request and by what its client gets.

  Main result, `outage_unnoticed_iff`: the two runs are the same, if and only if
  no request comes to a publish whose event prints and whose `produce` raises a
  `BufferError`.
-/
import HotelAgent.Lib.Run
import HotelAgent.Api.OwnWrites
import HotelAgent.Api.Publishes

namespace HotelAgent

open Lib

variable {py : Python}

/-! ## §1. Two runs of a request. -/

/-- What can be seen of a request: the database after it and its answer. -/
def visible {A : Type} (outcome : World × A) : Db × A := (outcome.1.db, outcome.2)

/-- No queue is full. -/
def NoOverflow (py : Python) (calls : List PublishCall) : Prop := ∀ p ∈ calls, ¬ p.Overflows py

/-- **Two outcomes that are seen to be the same** where `P` holds, and whose answers have
different tags where it does not. -/
structure Alike {A T : Type} (tag : A → T) (x y : World × A) (P : Prop) : Prop where
  same : P → visible x = visible y
  differ : ¬ P → tag x.2 ≠ tag y.2

section
variable {A B T U : Type} {tag : A → T} {x y : World × A} {P : Prop}

theorem Alike.visible_iff (h : Alike tag x y P) : visible x = visible y ↔ P := by
  refine ⟨fun hvisible => ?_, h.same⟩
  by_contra hP
  exact h.differ hP (congrArg (fun v => tag v.2) hvisible)

/-- Nothing is published. -/
theorem alike_of_visible (h : visible x = visible y) : Alike tag x y (NoOverflow py []) where
  same := fun _ => h
  differ := fun hP => absurd (fun _ hp => absurd hp List.not_mem_nil) hP

/-- How a view ends that publishes last. -/
def afterPublish (published : Published) (w : World) (answer failure : A) : World × A :=
  match published with
  | .raised => (w, failure)
  | p => ({ w with log := w.log ++ p.records }, answer)

theorem visible_afterPublish (published : Published) (w : World) (answer failure : A) :
    visible (afterPublish published w answer failure)
      = (w.db, if published.returns then answer else failure) := by
  cases published with
  | accepted r => rfl
  | refused => rfl
  | raised => rfl

/-- **One call of `publish` at the end**: alike if the queue is not full. -/
theorem alike_afterPublish (p : PublishCall) (db : Db) (log log' : List Record)
    {answer failure : A} (h : tag answer ≠ tag failure) :
    Alike tag (afterPublish (p.published py) ⟨db, log⟩ answer failure)
      (afterPublish (p.delivered.published py) ⟨db, log'⟩ answer failure) (NoOverflow py [p]) := by
  have hone : NoOverflow py [p] ↔ ¬ p.Overflows py := by simp [NoOverflow]
  have hanswer : ∀ (published : Published) (log : List Record),
      (afterPublish published ⟨db, log⟩ answer failure).2
        = if published.returns then answer else failure :=
    fun published log => congrArg Prod.snd (visible_afterPublish published ⟨db, log⟩ answer failure)
  constructor
  · intro hP
    rw [visible_afterPublish, visible_afterPublish, (returns_eq_iff p).mpr (hone.mp hP)]
  · intro hP
    rw [hone, not_not] at hP
    have hraised : ¬ (p.published py).returns = true := by
      rw [returns_published_iff py]
      exact fun hreturns => hreturns.2 hP
    rw [hanswer, hanswer, if_neg hraised, if_pos (returns_delivered_of_overflows hP)]
    exact h.symm

/-- The answer, printed. -/
theorem Alike.map {tag' : B → U} (h : Alike tag x y P) (f : A → B)
    (htag : ∀ a b, tag' (f a) = tag' (f b) → tag a = tag b) :
    Alike tag' (x.1, f x.2) (y.1, f y.2) P where
  same := by
    intro hP
    have hvisible := h.same hP
    unfold visible at hvisible ⊢
    injection hvisible with hdb hanswer
    rw [hdb, hanswer]
  differ := fun hP htags => h.differ hP (htag _ _ htags)

end

/-! ## §2. The views. -/

section
variable {db : Db} {log log' : List Record}

theorem alike_createSession (caller : Caller) (bookingId : Option Uuid) (fresh : SessionFresh) :
    Alike SessionAnswer.status (createSession py ⟨db, log⟩ caller bookingId fresh)
      (createSession py ⟨db, log'⟩ caller bookingId fresh.delivered)
      (NoOverflow py ((openedSession db caller bookingId fresh).toList.map fun (user, booking) =>
        startedCall db user booking fresh)) := by
  unfold createSession openedSession
  cases requireUser db caller with
  | error answer => exact alike_of_visible rfl
  | ok user =>
      simp only
      generalize bookingId.bind (checkedInBooking db user) = booking
      by_cases hno : bookingId.isSome ∧ booking = none
      · rw [if_pos hno, if_pos hno, if_pos hno]
        exact alike_of_visible rfl
      · rw [if_neg hno, if_neg hno, if_neg hno]
        have hrow : newSession user (booking.map Booking.id) fresh.delivered
            = newSession user (booking.map Booking.id) fresh := rfl
        rw [hrow]
        cases hins : db.insertSession (newSession user (booking.map Booking.id) fresh) with
        | none => exact alike_of_visible rfl
        | some db₁ =>
            obtain ⟨_, _, _, _, hrooms, _⟩ := Db.insertSession_eq_some hins
            have hroom : roomNumber db₁ booking = roomNumber db booking := roomNumber_congr hrooms booking
            simp only [Option.isSome_some, if_true, Option.toList_some, List.map_cons, List.map_nil,
              hroom]
            exact alike_afterPublish (startedCall db user booking fresh) db₁ log log'
              (show (201 : Nat) ≠ 500 by decide)

theorem alike_endSession (caller : Caller) (pk : Uuid) (fresh : SessionFresh) :
    Alike SessionAnswer.status (endSession py ⟨db, log⟩ caller pk fresh)
      (endSession py ⟨db, log'⟩ caller pk fresh.delivered)
      (NoOverflow py ((endedSession db caller pk fresh.now).toList.map fun s =>
        completedCall s fresh)) := by
  unfold endSession endedSession
  cases readEnd db caller pk with
  | error answer => exact alike_of_visible rfl
  | ok s =>
      have hsame : saveEnd db s fresh.delivered.now = saveEnd db s fresh.now := rfl
      simp only [hsame]
      cases saveEnd db s fresh.now with
      | none => exact alike_of_visible rfl
      | some db₁ =>
          simp only [Option.isSome_some, if_true, Option.toList_some, List.map_cons, List.map_nil]
          exact alike_afterPublish (completedCall s fresh) db₁ log log'
            (show (200 : Nat) ≠ 500 by decide)

theorem alike_assign (user : Option User) (pk : Option Uuid) (fresh : ActionFresh) :
    Alike Response.status (assign py ⟨db, log⟩ user pk fresh)
      (assign py ⟨db, log'⟩ user pk fresh.delivered)
      (NoOverflow py (((RequestAction.assign pk fresh).rewrites py db user).toList.map fun rows =>
        assignedCall rows.1 fresh)) := by
  unfold assign
  simp only [RequestAction.rewrites]
  cases hread : readAssign db user pk with
  | error response => exact alike_of_visible rfl
  | ok ur =>
      obtain ⟨u, r⟩ := ur
      obtain ⟨_, hmem, _⟩ := getRequest_ok (readAssign_ok hread).1
      obtain ⟨db₁, hsave, _⟩ := saveAssign_of_mem u hmem
      simp only [hsave, Option.toList_some, List.map_cons, List.map_nil]
      exact alike_afterPublish (assignedCall r fresh) db₁ log log'
        (show (200 : Nat) ≠ 500 by decide)

theorem alike_complete (user : Option User) (pk : Option Uuid) (data : Json)
    (fresh : ActionFresh) :
    Alike Response.status (complete py ⟨db, log⟩ user pk data fresh)
      (complete py ⟨db, log'⟩ user pk data fresh.delivered)
      (NoOverflow py (((RequestAction.complete pk data fresh).rewrites py db user).toList.map
        fun rows => completionCall rows.1 fresh)) := by
  unfold complete
  simp only [RequestAction.rewrites]
  cases hread : readComplete db user pk data with
  | error response => exact alike_of_visible rfl
  | ok rn =>
      obtain ⟨r, notes⟩ := rn
      have hnow : saveComplete py db r fresh.delivered.now notes
          = saveComplete py db r fresh.now notes := rfl
      simp only [hnow]
      cases htext : notesText py notes with
      | none =>
          simp only [saveComplete, htext]
          exact alike_of_visible rfl
      | some text =>
          obtain ⟨_, hget⟩ := readComplete_ok hread
          obtain ⟨_, hmem, _⟩ := getRequest_ok hget
          obtain ⟨db₁, hsave, _⟩ := saveComplete_of_mem fresh.now hmem htext
          simp only [hsave, Option.map_some, Option.toList_some, List.map_cons, List.map_nil]
          exact alike_afterPublish (completionCall r fresh) db₁ log log'
            (show (200 : Nat) ≠ 500 by decide)

/-- The signal of a pending booking only publishes. -/
theorem onBookingSave_pending (w : World) {b : Booking} (h : b.status = .pending) (fresh : Fresh)
    {A : Type} (answer failure : A) :
    ((onBookingSave py w b true fresh).1,
        if (onBookingSave py w b true fresh).2 then answer else failure)
      = afterPublish ((bookedCall b fresh).published py) w answer failure := by
  have hroom : ∀ db, syncRoom db b = db := by
    intro db
    unfold syncRoom
    rw [h]
  unfold onBookingSave PublishCall.published bookedCall
  simp only [if_true, hroom]
  cases publish py fresh.produce (txt "AUDIT_LOG") (bookingCreatedEvent fresh.stamp b) none with
  | accepted r => rfl
  | refused => rfl
  | raised => rfl

theorem alike_createBooking (caller : Caller) (body : BookingBody) (fresh : Fresh) :
    Alike BookingAnswer.status (createBooking py ⟨db, log⟩ caller body fresh)
      (createBooking py ⟨db, log'⟩ caller body fresh.delivered)
      (NoOverflow py ((madeBooking db caller body fresh).toList.map fun b => bookedCall b fresh)) := by
  unfold createBooking madeBooking
  cases readCreate db caller body with
  | error answer => exact alike_of_visible rfl
  | ok draft =>
      have hrow : draft.row fresh.delivered = draft.row fresh := rfl
      simp only [hrow]
      cases db.insertBooking (draft.row fresh) with
      | none => exact alike_of_visible rfl
      | some db₁ =>
          simp only [Option.isSome_some, if_true, Option.toList_some, List.map_cons, List.map_nil]
          rw [onBookingSave_pending ⟨db₁, log⟩ (b := draft.row fresh) rfl fresh,
            onBookingSave_pending ⟨db₁, log'⟩ (b := draft.row fresh) rfl fresh.delivered]
          exact alike_afterPublish (bookedCall (draft.row fresh) fresh) db₁ log log'
            (show (201 : Nat) ≠ 500 by decide)

end

/-! ### A turn. -/

/-- The status of an answer that prints. -/
def Answer.status : Answer → Option Nat
  | .response r => some r.status
  | .tokens _ => none
  | .unprintable => none

/-- An event with an ASCII key is delivered if it prints. -/
theorem returns_delivered_iff {p : PublishCall} {topic : Text}
    (htopic : topicOf p.topicKey = some topic) (hfloats : FloatsOkFields py p.event.payload)
    (hid : Ascii p.event.eventId) (hkey : ∀ k ∈ p.key, Ascii k) :
    (p.delivered.published py).returns = true ↔ (p.event.toJson py).isSome := by
  have hpub : p.delivered.published py = publish py .accepted p.topicKey p.event p.key := rfl
  rw [hpub]
  rcases publish_cases p.topicKey p.key .accepted htopic hfloats hid hkey with
    ⟨hhanded, rec, h⟩ | ⟨⟨hrefused, _⟩, _⟩ | ⟨hraised, h⟩
  · rw [h]
    exact iff_of_true rfl hhanded.2
  · exact absurd hrefused (by simp)
  · have hnone : p.event.toJson py = none := by
      rcases hraised with hother | hnone
      · exact absurd hother (by simp)
      · exact hnone
    rw [h, hnone]
    simp [Published.returns]

section
variable {db : Db} {d : RequestDraft} (fresh : SessionFresh)

/-- The two events of a request print alike. -/
theorem returns_signal_iff_announce (h : FloatsOk py d.serviceType ∧ FloatsOk py d.priority) :
    ((d.signalCall fresh).delivered.published py).returns = true
      ↔ ((d.announceCall fresh).delivered.published py).returns = true := by
  have hsignal := apiEvent_request h fresh.signalStamp fresh
  have hview := apiEvent_request h fresh.stamp fresh
  have hguest : ∀ k ∈ (d.signalCall fresh).key, Ascii k := by
    intro k hk
    rw [← Option.mem_some_iff.mp hk]
    exact uuid_str_ascii d.guest.id
  rw [returns_delivered_iff (p := d.signalCall fresh) rfl hsignal.floats hsignal.eventId hguest,
    returns_delivered_iff (p := d.announceCall fresh) rfl hview.floats hview.eventId
      (fun k hk => absurd hk (Option.not_mem_none k))]
  exact toJson_isSome_iff d fresh.signalStamp fresh.stamp fresh

theorem noOverflow_calls_iff :
    NoOverflow py (d.calls py db fresh)
      ↔ ((d.inserts py db fresh).isSome = true →
        ¬ (d.signalCall fresh).Overflows py ∧ ¬ (d.announceCall fresh).Overflows py) := by
  unfold NoOverflow RequestDraft.calls
  by_cases hins : (d.inserts py db fresh).isSome = true
  · simp [hins]
  · simp [hins]

/-- **The block commits** where it would with Kafka up, unless a queue is full. -/
theorem commits_iff_delivered :
    d.commits py db fresh = true
      ↔ d.commits py db fresh.delivered = true ∧ NoOverflow py (d.calls py db fresh) := by
  have hsignal := returns_published_iff py (d.signalCall fresh)
  have hview := returns_published_iff py (d.announceCall fresh)
  have hcommits : d.commits py db fresh = ((d.inserts py db fresh).isSome
      && ((d.signalCall fresh).published py).returns
      && ((d.announceCall fresh).published py).returns) := rfl
  have hdelivered : d.commits py db fresh.delivered = ((d.inserts py db fresh).isSome
      && ((d.signalCall fresh).delivered.published py).returns
      && ((d.announceCall fresh).delivered.published py).returns) := rfl
  rw [hcommits, hdelivered, noOverflow_calls_iff]
  simp only [Bool.and_eq_true, hsignal, hview]
  constructor
  · rintro ⟨⟨hins, hsignal, hfits⟩, hview, hfits'⟩
    exact ⟨⟨⟨hins, hsignal⟩, hview⟩, fun _ => ⟨hfits, hfits'⟩⟩
  · rintro ⟨⟨⟨hins, hsignal⟩, hview⟩, hfits⟩
    exact ⟨⟨hins, hsignal, (hfits hins).1⟩, hview, (hfits hins).2⟩

/-- A full queue is met only by a block that would commit. -/
theorem commits_delivered_of_overflow (h : FloatsOk py d.serviceType ∧ FloatsOk py d.priority)
    (hfull : ¬ NoOverflow py (d.calls py db fresh)) : d.commits py db fresh.delivered = true := by
  rw [noOverflow_calls_iff, Classical.not_imp, ← not_or, not_not] at hfull
  obtain ⟨hins, hfull⟩ := hfull
  have hprints := returns_signal_iff_announce fresh h
  have hboth : ((d.signalCall fresh).delivered.published py).returns = true
      ∧ ((d.announceCall fresh).delivered.published py).returns = true := by
    rcases hfull with hsignal | hview
    · have hreturns := returns_delivered_of_overflows hsignal
      exact ⟨hreturns, hprints.mp hreturns⟩
    · have hreturns := returns_delivered_of_overflows hview
      exact ⟨hprints.mpr hreturns, hreturns⟩
  unfold RequestDraft.commits
  rw [Bool.and_eq_true, Bool.and_eq_true]
  exact ⟨⟨hins, hboth.1⟩, hboth.2⟩

/-- A block leaves the same if it commits both times, or neither time. -/
theorem visible_createRequest (log log' : List Record)
    (h : d.commits py db fresh = d.commits py db fresh.delivered) :
    visible (createRequest py ⟨db, log⟩ d fresh)
      = visible (createRequest py ⟨db, log'⟩ d fresh.delivered) := by
  unfold visible
  cases hcommits : d.commits py db fresh with
  | false =>
      obtain ⟨hdb, hmade⟩ := createRequest_of_not_commits (w := ⟨db, log⟩) hcommits
      obtain ⟨hdb', hmade'⟩ := createRequest_of_not_commits (w := ⟨db, log'⟩) (h ▸ hcommits)
      rw [hdb, hmade, hdb', hmade']
  | true =>
      have hcommits' : d.commits py db fresh.delivered = true := h ▸ hcommits
      unfold RequestDraft.commits at hcommits hcommits'
      rw [Bool.and_eq_true, Bool.and_eq_true] at hcommits hcommits'
      obtain ⟨⟨_, hsignal⟩, hview⟩ := hcommits
      obtain ⟨⟨_, hsignal'⟩, hview'⟩ := hcommits'
      have hins : d.inserts py db fresh.delivered = d.inserts py db fresh := rfl
      rw [createRequest_eq, createRequest_eq, hins]
      simp only [hsignal, hview, hsignal', hview', if_true]
      cases d.inserts py db fresh with
      | none => rfl
      | some rowDb =>
          simp only
          cases rowDb.2.saveSession d.sessionId (.addRequest rowDb.1.id) with
          | none => rfl
          | some db₁ => rfl

end

section
variable {w : World} {db : Db} {caller : Caller} {pk : Uuid} {req : TurnRequest}
  {agent : AgentOutcome py} {fresh : SessionFresh} {latencyMs : Text}

/-- The answer to a turn that comes to the block. -/
theorem turnAnswer_of_draft {db' : Db} {d : RequestDraft} {r : VoiceAgentResponse py}
    (h : turnDraft w.db caller pk req (.replies r) fresh = some (db', d)) :
    turnAnswer w caller pk req (.replies r) fresh latencyMs
      = match visible (createRequest py { w with db := db' } d fresh) with
        | (_, none) => .response .internalError
        | (db, some row) =>
          if d.renders py then
            .response ⟨200, turnJson pk r.text latencyMs r.audioData
              (some (createdJson py db.users d row))⟩
          else .unprintable := by
  obtain ⟨user, s, content, r', hr, hread, hsave, hrequest⟩ := turnDraft_eq_some h
  injection hr with hr
  subst hr
  unfold turnAnswer processTurn
  simp only [h, hread, hsave, finishTurn, hrequest, visible]
  cases createRequest py { w with db := db' } d fresh with
  | mk w' made =>
      cases made with
      | none => rfl
      | some row => rfl

/-- **A turn that does not come to the block** publishes nothing. -/
theorem visible_turn_of_no_draft (log log' : List Record)
    (h : turnDraft db caller pk req agent fresh = none) :
    visible (processTurn ⟨db, log⟩ caller pk req agent fresh)
      = visible (processTurn ⟨db, log'⟩ caller pk req agent fresh.delivered) := by
  have hdelivered : turnDraft db caller pk req agent fresh.delivered = none := h
  rw [processTurn_eq_of_no_draft (w := ⟨db, log⟩) h,
    processTurn_eq_of_no_draft (w := ⟨db, log'⟩) hdelivered]
  cases readTurn db caller pk req with
  | error answer => rfl
  | ok t =>
      obtain ⟨user, s, content⟩ := t
      cases agent with
      | raises =>
          simp only
          cases failTurn db s with
          | none => rfl
          | some db₁ => rfl
      | replies r =>
          have hsame : saveTurn db s content r fresh.delivered.nowTs
              = saveTurn db s content r fresh.nowTs := rfl
          simp only [hsame]
          cases saveTurn db s content r fresh.nowTs with
          | none => rfl
          | some db₁ => rfl

theorem alike_turn (log log' : List Record) :
    Alike Answer.status
      ((processTurn ⟨db, log⟩ caller pk req agent fresh).1,
        turnAnswer ⟨db, log⟩ caller pk req agent fresh latencyMs)
      ((processTurn ⟨db, log'⟩ caller pk req agent fresh.delivered).1,
        turnAnswer ⟨db, log'⟩ caller pk req agent fresh.delivered latencyMs)
      (NoOverflow py (turnCalls db caller pk req agent fresh)) := by
  have hsame : turnDraft db caller pk req agent fresh.delivered
      = turnDraft db caller pk req agent fresh := rfl
  unfold turnCalls
  cases hdraft : turnDraft db caller pk req agent fresh with
  | none =>
      have hvisible := visible_turn_of_no_draft log log' hdraft
      unfold visible at hvisible
      injection hvisible with hdb hanswer
      refine alike_of_visible ?_
      unfold visible turnAnswer
      simp only [hsame, hdraft, hdb, hanswer]
  | some draft =>
      obtain ⟨db₁, d⟩ := draft
      obtain ⟨user, s, content, r, rfl, _, _, hrequest⟩ := turnDraft_eq_some hdraft
      obtain ⟨htype, hpriority, _⟩ := floatsOk_requestDraft hrequest
      have hworld := processTurn_of_draft (w := ⟨db, log⟩) hdraft
      have hworld' := processTurn_of_draft (w := ⟨db, log'⟩) (hsame.trans hdraft)
      rw [hworld, hworld', turnAnswer_of_draft (w := ⟨db, log⟩) hdraft,
        turnAnswer_of_draft (w := ⟨db, log'⟩) (hsame.trans hdraft)]
      constructor
      · intro hfits
        have hcommits : d.commits py db₁ fresh = d.commits py db₁ fresh.delivered := by
          rw [Bool.eq_iff_iff, commits_iff_delivered]
          exact and_iff_left hfits
        have hvisible := visible_createRequest fresh log log' hcommits
        have hdb := congrArg Prod.fst hvisible
        unfold visible at hdb
        rw [hvisible]
        unfold visible
        exact congrArg₂ Prod.mk hdb rfl
      · intro hfull
        -- rolled back here, committed there
        have hraised : d.commits py db₁ fresh = false := by
          rw [← Bool.not_eq_true, commits_iff_delivered]
          exact fun h => hfull h.2
        have hmade := (createRequest_of_not_commits (w := ⟨db₁, log⟩) hraised).2
        obtain ⟨row, _, _, hmade', _⟩ := createRequest_of_commits (w := ⟨db₁, log'⟩)
          (sameButSessions_of_draft hdraft).2
          (commits_delivered_of_overflow fresh ⟨htype, hpriority⟩ hfull)
        simp only [visible, hmade, hmade']
        by_cases hrenders : d.renders py = true
        · rw [if_pos hrenders]
          exact (show some 500 ≠ some 200 by decide)
        · rw [if_neg hrenders]
          exact (show some 500 ≠ none by decide)

end

/-! ### Requests to the endpoints. -/

theorem SessionAnswer.status_response (answer : SessionAnswer) (users : Table User.id)
    (pk : Option Uuid) (turn : Text → Json) :
    (answer.response users pk turn).status = answer.status := by
  cases answer <;> rfl

theorem BookingAnswer.status_response (answer : BookingAnswer) (users : Table User.id)
    (rooms : Table Room.id) (pk : Option Uuid) :
    (answer.response users rooms pk).status = answer.status := by
  cases answer <;> rfl

section
variable {F : Filters} {db : Db} {caller : Caller} {user : Option User} {query : Query}
  {latencyMs : Text} (log log' : List Record)

/-- A turn of an inactive session, or with a text that the serializer refuses, does not
come to the block. -/
theorem turnDraft_of_refused {u : User} {pk : Option Uuid} {s : VoiceSession} {req : TurnRequest}
    (caller : Caller) (agent : AgentOutcome py) (fresh : SessionFresh)
    (hobject : sessionObject F query db u pk = .ok s)
    (h : s.status ≠ .active ∨ (req.text.map textMessages).getD [] ≠ []) :
    turnDraft db caller s.id req agent fresh = none := by
  cases hdraft : turnDraft db caller s.id req agent fresh with
  | none => rfl
  | some draft =>
      obtain ⟨user, s', content, r, _, hread, _, _⟩ := turnDraft_eq_some hdraft
      exfalso
      rcases h with hinactive | hrefused
      · obtain ⟨row, hfind, hcolumns, _, _⟩ := sessionObject_ok hobject
        obtain ⟨hfind', hactive⟩ := readTurn_ok hread
        rw [hfind] at hfind'
        injection hfind' with hrow
        refine hinactive ?_
        rw [← hcolumns, hrow]
        exact hactive
      · cases htext : req.text with
        | none =>
            rw [htext] at hrefused
            exact hrefused rfl
        | some t =>
            rw [htext] at hrefused
            have hvalid : validText t = none := by
              rw [← Option.not_isSome_iff_eq_none, ← textMessages_eq_nil_iff]
              exact hrefused
            unfold readTurn at hread
            simp only [htext, hvalid] at hread
            split at hread
            · exact absurd hread (by simp)
            · split at hread
              · exact absurd hread (by simp)
              · exact absurd hread (by simp)

theorem alike_turnRequest (pk : Option Uuid) (body : Body TurnRequest)
    (optionErrors : List (Text × Text)) (agent : AgentOutcome py) (fresh : SessionFresh) :
    Alike Answer.status
      ((VoiceWrite.turn pk body optionErrors agent fresh).handle F ⟨db, log⟩ caller user query,
        (VoiceWrite.turn pk body optionErrors agent fresh).answer F ⟨db, log⟩ caller user query
          latencyMs)
      ((VoiceWrite.turn pk body optionErrors agent fresh.delivered).handle F ⟨db, log'⟩ caller user
          query,
        (VoiceWrite.turn pk body optionErrors agent fresh.delivered).answer F ⟨db, log'⟩ caller
          user query latencyMs)
      (NoOverflow py
        ((VoiceWrite.turn pk body optionErrors agent fresh).calls F db caller user query)) := by
  simp only [VoiceWrite.handle, VoiceWrite.answer, VoiceWrite.calls]
  cases user with
  | none => exact alike_of_visible rfl
  | some u =>
      simp only [Option.map_some]
      cases hobject : sessionObject F query db u pk with
      | error response => exact alike_of_visible rfl
      | ok s =>
          simp only
          cases body.read with
          | error response =>
              simp only
              split
              · exact alike_of_visible rfl
              · exact alike_of_visible rfl
          | ok data =>
              simp only
              by_cases hoptions : optionErrors = []
              · simp only [hoptions, ne_eq, not_true_eq_false, if_false, or_false]
                by_cases hrefused : s.status ≠ .active
                    ∨ (data.text.map textMessages).getD [] ≠ []
                · have hdraft := turnDraft_of_refused caller agent fresh hobject hrefused
                  have hdb := congrArg Prod.fst (visible_turn_of_no_draft log log' hdraft)
                  unfold turnCalls
                  rw [hdraft]
                  refine alike_of_visible (congrArg₂ Prod.mk hdb ?_)
                  rcases hrefused with hinactive | hmessages
                  · simp only [hinactive, not_false_eq_true, if_true]
                  · simp only [hmessages, not_false_eq_true, if_true]
                · rw [not_or, not_not, not_not] at hrefused
                  simp only [hrefused.1, hrefused.2, not_true_eq_false, if_false]
                  exact alike_turn log log'
              · -- a request with a wrong option is refused before the turn
                simp only [hoptions, ne_eq, not_false_eq_true, if_true, or_true]
                split
                · exact alike_of_visible rfl
                · exact alike_of_visible rfl

theorem alike_voice (call : VoiceWrite py) :
    Alike Answer.status
      (call.handle F ⟨db, log⟩ caller user query,
        call.answer F ⟨db, log⟩ caller user query latencyMs)
      (call.delivered.handle F ⟨db, log'⟩ caller user query,
        call.delivered.answer F ⟨db, log'⟩ caller user query latencyMs)
      (NoOverflow py (call.calls F db caller user query)) := by
  have hprinted : ∀ (users : Table User.id) (pk : Option Uuid) (a b : SessionAnswer),
      Answer.status (.response (a.response users pk fun _ => .null))
        = Answer.status (.response (b.response users pk fun _ => .null)) → a.status = b.status := by
    intro users pk a b h
    simpa only [Answer.status, SessionAnswer.status_response, Option.some.injEq] using h
  cases call with
  | create body fresh =>
      simp only [VoiceWrite.handle, VoiceWrite.answer, VoiceWrite.calls, VoiceWrite.delivered]
      cases user with
      | none => exact alike_of_visible rfl
      | some u =>
          cases body.read with
          | error response => exact alike_of_visible rfl
          | ok booking =>
              rcases booking with _ | _ | id
              · exact (alike_createSession caller none fresh).map _ (hprinted db.users none)
              · exact alike_of_visible rfl
              · exact (alike_createSession caller (some id) fresh).map _ (hprinted db.users none)
  | update pk =>
      simp only [VoiceWrite.handle, VoiceWrite.answer, VoiceWrite.calls, VoiceWrite.delivered]
      rcases user.map fun user => sessionObject F query db user pk with _ | response | s
      · exact alike_of_visible rfl
      · exact alike_of_visible rfl
      · simp only
        cases db.saveSession s.id (.rewrite s) with
        | none => exact alike_of_visible rfl
        | some db₁ => exact alike_of_visible rfl
  | destroy pk =>
      simp only [VoiceWrite.handle, VoiceWrite.answer, VoiceWrite.calls, VoiceWrite.delivered]
      rcases user.map fun user => sessionObject F query db user pk with _ | response | s
      · exact alike_of_visible rfl
      · exact alike_of_visible rfl
      · exact alike_of_visible rfl
  | turn pk body optionErrors agent fresh =>
      exact alike_turnRequest log log' pk body optionErrors agent fresh
  | finish pk fresh =>
      simp only [VoiceWrite.handle, VoiceWrite.answer, VoiceWrite.calls, VoiceWrite.delivered]
      rcases user.map fun user => sessionObject F query db user pk with _ | response | s
      · exact alike_of_visible rfl
      · exact alike_of_visible rfl
      · exact (alike_endSession caller s.id fresh).map _ (hprinted db.users pk)

theorem alike_createServiceRequest (body : RequestBody) :
    Alike Response.status (createServiceRequest ⟨db, log⟩ body)
      (createServiceRequest ⟨db, log'⟩ body) (NoOverflow py []) := by
  unfold createServiceRequest
  simp only
  split
  · exact alike_of_visible rfl
  · exact alike_of_visible rfl

theorem alike_updateServiceRequest (pk : Option Uuid) (part : Bool) (body : RequestBody) :
    Alike Response.status (updateServiceRequest ⟨db, log⟩ user pk part body)
      (updateServiceRequest ⟨db, log'⟩ user pk part body) (NoOverflow py []) := by
  unfold updateServiceRequest
  cases readUpdateRequest db user pk part body with
  | error response => exact alike_of_visible rfl
  | ok r =>
      simp only
      cases db.saveServiceRequest (body.applyTo r) with
      | none => exact alike_of_visible rfl
      | some db₁ => exact alike_of_visible rfl

theorem alike_destroyServiceRequest (pk : Option Uuid) :
    Alike Response.status (destroyServiceRequest ⟨db, log⟩ user pk)
      (destroyServiceRequest ⟨db, log'⟩ user pk) (NoOverflow py []) := by
  unfold destroyServiceRequest
  cases getRequest db user pk with
  | error response => exact alike_of_visible rfl
  | ok ur => exact alike_of_visible rfl

/-- The signal of an existing booking publishes nothing. -/
theorem alike_putBooking (pk : Option Uuid) (part : Bool) (body : Body BookingData)
    (fresh : Fresh) :
    Alike Response.status (putBooking py F ⟨db, log⟩ caller user query pk part body fresh)
      (putBooking py F ⟨db, log'⟩ caller user query pk part body fresh.delivered)
      (NoOverflow py []) := by
  unfold putBooking
  simp only
  cases bookingObject F query db user pk with
  | error response => exact alike_of_visible rfl
  | ok b =>
      simp only
      cases body.read with
      | error response => exact alike_of_visible rfl
      | ok data =>
          simp only
          by_cases herrors : data.errors part = []
          · simp only [herrors, ne_eq, not_true_eq_false, if_false]
            unfold updateBooking
            simp only
            cases readUpdate db caller b.id part data.fields with
            | error answer => exact alike_of_visible rfl
            | ok b' =>
                simp only
                cases db.saveBooking (data.fields.applyTo b') with
                | none => exact alike_of_visible rfl
                | some db₁ => exact alike_of_visible rfl
          · simp only [herrors, ne_eq, not_false_eq_true, if_true]
            exact alike_of_visible rfl

theorem alike_deleteBooking (pk : Option Uuid) :
    Alike Response.status (deleteBooking F ⟨db, log⟩ caller user query pk)
      (deleteBooking F ⟨db, log'⟩ caller user query pk) (NoOverflow py []) := by
  unfold deleteBooking destroyBooking
  simp only
  cases bookingObject F query db user pk with
  | error response => exact alike_of_visible rfl
  | ok b =>
      simp only
      cases getBooking db caller b.id with
      | error answer => exact alike_of_visible rfl
      | ok b' =>
          simp only
          cases db.deleteBooking b'.id with
          | none => exact alike_of_visible rfl
          | some db₁ => exact alike_of_visible rfl

/-- A request to one service request, where the backends let it through. -/
theorem alike_onRequest (pk : Option Uuid) {handle handle' : World → World × Response}
    {calls : List PublishCall}
    (h : Alike Response.status (handle ⟨db, log⟩) (handle' ⟨db, log'⟩) (NoOverflow py calls)) :
    Alike Response.status (onRequest F ⟨db, log⟩ user query pk handle)
      (onRequest F ⟨db, log'⟩ user query pk handle')
      (NoOverflow py (match requestObject F query db user pk with
        | .error _ => []
        | .ok _ => calls)) := by
  unfold onRequest
  cases requestObject F query db user pk with
  | error response => exact alike_of_visible rfl
  | ok r => exact h

theorem alike_onRequest_silent (pk : Option Uuid) {handle handle' : World → World × Response}
    (h : Alike Response.status (handle ⟨db, log⟩) (handle' ⟨db, log'⟩) (NoOverflow py [])) :
    Alike Response.status (onRequest F ⟨db, log⟩ user query pk handle)
      (onRequest F ⟨db, log'⟩ user query pk handle') (NoOverflow py []) := by
  unfold onRequest
  cases requestObject F query db user pk with
  | error response => exact alike_of_visible rfl
  | ok r => exact h

/-- The calls of an action on one row. -/
theorem calls_objectRewrites (pk : Option Uuid) (action : RequestAction)
    (call : ServiceRequest → PublishCall) :
    ((objectRewrites F db user query py pk action).toList.map call)
      = match requestObject F query db user pk with
        | .error _ => []
        | .ok _ => (action.rewrites py db user).toList.map fun rows => call rows.1 := by
  unfold objectRewrites
  cases requestObject F query db user pk with
  | error response => rfl
  | ok r =>
      simp only
      cases action.rewrites py db user with
      | none => rfl
      | some rows => rfl

theorem alike_owned (call : OwnedWrite) :
    Alike Response.status (call.handle py F ⟨db, log⟩ caller user query)
      (call.delivered.handle py F ⟨db, log'⟩ caller user query)
      (NoOverflow py (call.calls F db caller user query py)) := by
  cases call with
  | createRequest body =>
      simp only [OwnedWrite.handle, OwnedWrite.calls, OwnedWrite.delivered]
      cases body.read with
      | error response => exact alike_of_visible rfl
      | ok data => exact alike_createServiceRequest log log' data
  | updateRequest pk part body =>
      simp only [OwnedWrite.handle, OwnedWrite.calls, OwnedWrite.delivered]
      refine alike_onRequest_silent log log' pk ?_
      cases body.read with
      | error response => exact alike_of_visible rfl
      | ok data => exact alike_updateServiceRequest log log' pk part data
  | destroyRequest pk =>
      simp only [OwnedWrite.handle, OwnedWrite.calls, OwnedWrite.delivered]
      exact alike_onRequest_silent log log' pk (alike_destroyServiceRequest log log' pk)
  | assign pk fresh =>
      simp only [OwnedWrite.handle, OwnedWrite.calls, OwnedWrite.delivered]
      rw [calls_objectRewrites]
      exact alike_onRequest log log' pk (alike_assign user pk fresh)
  | complete pk body fresh =>
      simp only [OwnedWrite.handle, OwnedWrite.calls, OwnedWrite.delivered]
      cases body.read with
      | error response => exact alike_onRequest_silent log log' pk (alike_of_visible rfl)
      | ok data =>
          simp only
          rw [calls_objectRewrites]
          exact alike_onRequest log log' pk (alike_complete user pk data fresh)
  | createBooking body fresh =>
      simp only [OwnedWrite.handle, OwnedWrite.calls, OwnedWrite.delivered, postBooking]
      cases body.read with
      | error response => exact alike_of_visible rfl
      | ok data =>
          simp only
          by_cases herrors : data.errors false = []
          · simp only [herrors, ne_eq, not_true_eq_false, if_false]
            refine (alike_createBooking caller data.fields fresh).map _ fun a b h => ?_
            rw [BookingAnswer.status_response, BookingAnswer.status_response] at h
            exact h
          · simp only [herrors, ne_eq, not_false_eq_true, if_true]
            exact alike_of_visible rfl
  | updateBooking pk part body fresh => exact alike_putBooking log log' pk part body fresh
  | destroyBooking pk => exact alike_deleteBooking log log' pk

/-- **A request**, with the log of either run. -/
theorem alike_serve (D : Deployment) (db : Db) (latencyMs : Text) (request : ApiRequest py) :
    Alike Answer.status (request.serve D ⟨db, log⟩ latencyMs)
      (request.delivered.serve D ⟨db, log'⟩ latencyMs)
      (NoOverflow py (request.calls D db)) := by
  cases request with
  | read cred query call => exact alike_of_visible rfl
  | rooms cred query pk => exact alike_of_visible rfl
  | write cred query call =>
      cases call with
      | voice call =>
          simp only [ApiRequest.serve, ApiRequest.calls, ApiRequest.delivered]
          cases cred.user db with
          | error response => exact alike_of_visible rfl
          | ok user => exact alike_voice log log' call
      | owned call =>
          simp only [ApiRequest.serve, ApiRequest.calls, ApiRequest.delivered]
          cases cred.user db with
          | error response => exact alike_of_visible rfl
          | ok user =>
              exact (alike_owned log log' call).map Answer.response
                fun a b h => Option.some.inj h
  | register body remoteAddr fresh =>
      simp only [ApiRequest.serve, ApiRequest.calls, ApiRequest.delivered, register]
      split
      · exact alike_of_visible rfl
      · cases db.insertUser (body.row fresh) with
        | none => exact alike_of_visible rfl
        | some db₁ =>
            simp only
            cases db₁.insertAuditLog D.inet (registeredLog (body.row fresh) remoteAddr) with
            | none => exact alike_of_visible rfl
            | some db₂ => exact alike_of_visible rfl
  | token req now => exact alike_of_visible rfl

end

/-! ## §3. Runs. -/

/-- A request to the API, and how long the agent takes for it. -/
structure RestCall (py : Python) where
  request : ApiRequest py
  latencyMs : Text

def RestCall.delivered (c : RestCall py) : RestCall py := { c with request := c.request.delivered }

section
variable (D : Deployment)

/-- The world after a request. -/
def restStep (w : World) (c : RestCall py) : World := (c.request.serve D w c.latencyMs).1

/-- **What is seen of a run**: the database after every request, and its answer. -/
def restTrace (w : World) (cs : List (RestCall py)) : List (Db × Answer) :=
  mapInputs (restStep D) (fun w c => visible (c.request.serve D w c.latencyMs)) w cs

/-- The request meets no full queue. -/
def RestCall.Fits (w : World) (c : RestCall py) : Prop := NoOverflow py (c.request.calls D w.db)

/-- **An outage of Kafka changes nothing** that is seen of a run, exactly if no request
of the run meets a full queue: comes to a `publish` whose event prints and whose
`produce` raises a `BufferError`. -/
theorem outage_unnoticed_iff (w : World) (cs : List (RestCall py)) :
    restTrace D w cs = restTrace D w (cs.map RestCall.delivered)
      ↔ AllSteps (restStep D) (RestCall.Fits D) w cs := by
  refine mapInputs_eq_iff (R := fun w w' => w.db = w'.db) ?_ ?_ rfl cs
  · rintro ⟨db, log⟩ ⟨db', log'⟩ c hdb
    obtain rfl : db = db' := hdb
    exact (alike_serve log log' D db c.latencyMs c.request).visible_iff
  · -- from here on the two runs differ in their logs only
    intro w w' c _ hvisible
    exact congrArg Prod.fst hvisible

end

/-- The demo guest opens a session while the queue is full, and it is there in spite of
the 500. -/
theorem outage_is_noticed :
    ¬ ∀ (py : Python) (D : Deployment) (w : World) (cs : List (RestCall py)),
      restTrace D w cs = restTrace D w (cs.map RestCall.delivered) := by
  intro h
  have hsame := h plainPython plainDeployment demoHotel
    [{ request := .write (.bearer 1) []
        (.voice (.create (.data none) { demoSessionFresh 5 with produce := .otherException }))
       latencyMs := txt "0" }]
  have hstatuses := congrArg (List.map fun v => (v.1.voiceSessions.rows.length, v.2.status)) hsame
  exact absurd hstatuses (by decide +kernel)

end HotelAgent
