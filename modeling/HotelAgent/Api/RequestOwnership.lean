/-
  HotelAgent.Api.RequestOwnership — service requests and the guest of their booking.

  A request belongs to the guest of its booking, and so does the voice session
  it names.  The owner is written from `request.user` by a turn, which whoever
  sees the session may run; the booking is written from the body by PUT and
  PATCH, where any existing booking will do.

  Main result, `allBelong_iff_keepsOwner`: a run keeps every request with its
  guest if and only if each stored turn is the guest's own and each accepted
  booking is the same guest's.
-/
import HotelAgent.Api.RequestAccess
import HotelAgent.Api.RequestCreation

namespace HotelAgent

open Lib

variable {py : Python}

/-! ## §1. To whom a request belongs. -/

/-- The request's guest is the guest of its booking and of its session. -/
structure ServiceRequest.Belongs (r : ServiceRequest) (db : Db) : Prop where
  booking : ∀ b ∈ db.bookings, b.id = r.bookingId → r.guestId = b.guestId
  session : ∀ sessionId, r.voiceSessionId = some sessionId →
    ∃ s ∈ db.voiceSessions, s.id = sessionId ∧ s.guestId = r.guestId

/-- Every request belongs to the guest of its booking. -/
def AllBelong (db : Db) : Prop := ∀ r ∈ db.serviceRequests, r.Belongs db

/-- A session of the guest, as the owners tell it. -/
theorem session_iff_owners {db : Db} {sessionId guestId : Uuid} :
    (∃ s ∈ db.voiceSessions, s.id = sessionId ∧ s.guestId = guestId)
      ↔ ∃ booking, (sessionId, guestId, booking) ∈ sessionOwners db := by
  unfold sessionOwners
  simp only [List.mem_map, Prod.mk.injEq]
  constructor
  · rintro ⟨s, hs, hid, hguest⟩
    exact ⟨s.bookingId, s, hs, hid, hguest, rfl⟩
  · rintro ⟨_, s, hs, hid, hguest, _⟩
    exact ⟨s, hs, hid, hguest⟩

/-- To whom a request belongs depends on the bookings and the sessions' owners. -/
theorem belongs_congr {db db' : Db} (hbookings : db'.bookings = db.bookings)
    (howners : sessionOwners db' = sessionOwners db) (r : ServiceRequest) :
    r.Belongs db' ↔ r.Belongs db := by
  have hsession : ∀ sessionId,
      (∃ s ∈ db'.voiceSessions, s.id = sessionId ∧ s.guestId = r.guestId)
        ↔ ∃ s ∈ db.voiceSessions, s.id = sessionId ∧ s.guestId = r.guestId := by
    intro sessionId
    rw [session_iff_owners, session_iff_owners, howners]
  constructor
  · intro h
    refine ⟨fun b hb => h.booking b (hbookings ▸ hb), fun id hid => ?_⟩
    exact (hsession id).mp (h.session id hid)
  · intro h
    refine ⟨fun b hb => h.booking b (hbookings ▸ hb), fun id hid => ?_⟩
    exact (hsession id).mpr (h.session id hid)

/-! ## §2. Steps. -/

/-- A session is created, a turn is run, or a request is sent to PUT or PATCH. -/
inductive OwnershipStep (py : Python) where
  | createSession (caller : Caller) (bookingId : Option Uuid) (fresh : SessionFresh)
  | turn (caller : Caller) (pk : Uuid) (req : TurnRequest) (agent : AgentOutcome py)
      (fresh : SessionFresh)
  | update (caller : Caller) (pk : Option Uuid) (part : Bool) (body : RequestBody)

def ownershipStep (w : World) : OwnershipStep py → World
  | .createSession caller bookingId fresh => (createSession py w caller bookingId fresh).1
  | .turn caller pk req agent fresh => (processTurn w caller pk req agent fresh).1
  | .update caller pk part body => deskStep py w ⟨caller, .update pk part body⟩

/-- **The owner is kept**: a turn that stores a request is run by the guest of the
session and of its booking, and a body that is accepted names a booking of the
request's guest. -/
def KeepsOwner (w : World) : OwnershipStep py → Prop
  | .createSession _ _ _ => True
  | .turn caller pk req agent fresh =>
    ∀ db d, turnDraft w.db caller pk req agent fresh = some (db, d) →
      d.commits py db fresh = true →
        (∀ b ∈ w.db.bookings, b.id = d.bookingId → b.guestId = d.guest.id)
          ∧ ∃ s ∈ w.db.voiceSessions, s.id = d.sessionId ∧ s.guestId = d.guest.id
  | .update caller pk part body =>
    ∀ user r, authenticate w.db caller = some user →
      readUpdateRequest w.db user pk part body = .ok r →
        ∀ k, body.booking = some k → ∀ b ∈ w.db.bookings, b.id = k → b.guestId = r.guestId

/-! ## §3. One step. -/

/-- A new session leaves every request with its guest. -/
theorem allBelong_createSession {w : World} (h : AllBelong w.db) (caller : Caller)
    (bookingId : Option Uuid) (fresh : SessionFresh) :
    AllBelong (createSession py w caller bookingId fresh).1.db := by
  have hinsert : ∀ {row : VoiceSession} {db : Db}, w.db.insertSession row = some db →
      AllBelong db := by
    intro row db hins
    obtain ⟨_, _, hrows, _, _, hbookings, hrequests⟩ := Db.insertSession_eq_some hins
    intro r hr
    rw [hrequests] at hr
    refine ⟨fun b hb => (h r hr).booking b (hbookings ▸ hb), fun id hid => ?_⟩
    -- the sessions of before are still there
    obtain ⟨s, hs, hsid, hguest⟩ := (h r hr).session id hid
    refine ⟨s, ?_, hsid, hguest⟩
    show s ∈ db.voiceSessions.rows
    rw [hrows]
    exact List.mem_append_left _ hs
  unfold createSession
  split
  · exact h
  · simp only
    split
    · exact h
    split
    · exact h
    next db hins =>
      split
      · exact hinsert hins
      · exact hinsert hins

/-- **A stored request** belongs where the turn's caller is the guest. -/
theorem allBelong_of_gained {db db' : Db} {sessionId : Uuid} {row stored : ServiceRequest}
    (h : AllBelong db) (hg : db.Gained db' sessionId row stored) :
    AllBelong db' ↔ row.Belongs db := by
  have howners : sessionOwners db' = sessionOwners db := by
    unfold sessionOwners
    rw [hg.sessions]
    exact sessionOwners_updateWhere (.addRequest row.id)
  have hstored : stored.Belongs db ↔ row.Belongs db := by
    obtain ⟨serviceType, priority, _, _, rfl⟩ := hg.kept
    exact ⟨fun hb => ⟨hb.booking, hb.session⟩, fun hb => ⟨hb.booking, hb.session⟩⟩
  have hmem : ∀ r, r ∈ db'.serviceRequests ↔ r ∈ db.serviceRequests ∨ r = stored := by
    intro r
    rw [Table.mem_def, hg.rows, List.mem_append, List.mem_singleton]
    rfl
  rw [← hstored]
  constructor
  · intro hall
    exact (belongs_congr hg.bookings howners stored).mp (hall stored ((hmem stored).mpr (.inr rfl)))
  · intro hb r hr
    rw [belongs_congr hg.bookings howners]
    rcases (hmem r).mp hr with hr | rfl
    · exact h r hr
    · exact hb

/-- Without a new request nothing changes hands. -/
theorem allBelong_of_same {db db' : Db} (h : AllBelong db) (hs : db.SameButSessions db') :
    AllBelong db' := by
  intro r hr
  rw [hs.serviceRequests] at hr
  exact (belongs_congr hs.bookings hs.owners r).mpr (h r hr)

/-- The new row speaks of the caller, the session and its booking. -/
theorem belongs_of_draft {db : Db} {d : RequestDraft} {fresh : SessionFresh}
    {row : ServiceRequest} (hrow : d.row py fresh = some row) :
    row.Belongs db ↔ (∀ b ∈ db.bookings, b.id = d.bookingId → b.guestId = d.guest.id)
      ∧ ∃ s ∈ db.voiceSessions, s.id = d.sessionId ∧ s.guestId = d.guest.id := by
  obtain ⟨_, _, hg, hb, hs⟩ := row_columns hrow
  constructor
  · intro hbelongs
    rw [← hg]
    refine ⟨fun b hmem hid => ?_, hbelongs.session d.sessionId hs⟩
    exact (hbelongs.booking b hmem (by rw [hb, hid])).symm
  · rintro ⟨hbooking, hsession⟩
    refine ⟨fun b hmem hid => ?_, fun id hid => ?_⟩
    · rw [hg]
      exact (hbooking b hmem (by rw [hid, hb])).symm
    · rw [hs] at hid
      injection hid with hid
      rw [hg, ← hid]
      exact hsession

/-- **One turn.** -/
theorem allBelong_turn_iff {w : World} (h : AllBelong w.db) (caller : Caller) (pk : Uuid)
    (req : TurnRequest) (agent : AgentOutcome py) (fresh : SessionFresh) :
    AllBelong (processTurn w caller pk req agent fresh).1.db
      ↔ KeepsOwner w (.turn caller pk req agent fresh) := by
  cases hdraft : turnDraft w.db caller pk req agent fresh with
  | none =>
      have hsame := (processTurn_of_no_draft hdraft).1
      refine iff_of_true (allBelong_of_same h hsame) ?_
      intro db d hsome
      rw [hdraft] at hsome
      exact absurd hsome (by simp)
  | some draft =>
      obtain ⟨db, d⟩ := draft
      rw [processTurn_of_draft hdraft]
      obtain ⟨hsame, hsession⟩ := sameButSessions_of_draft hdraft
      have hdb := allBelong_of_same h hsame
      have hkeeps : KeepsOwner w (.turn caller pk req agent fresh)
          ↔ (d.commits py db fresh = true →
            (∀ b ∈ w.db.bookings, b.id = d.bookingId → b.guestId = d.guest.id)
              ∧ ∃ s ∈ w.db.voiceSessions, s.id = d.sessionId ∧ s.guestId = d.guest.id) :=
        forall_found_iff hdraft
      rw [hkeeps]
      by_cases hcommits : d.commits py db fresh = true
      · obtain ⟨row, stored, hrow, _, hgained⟩ :=
          createRequest_of_commits (w := { w with db := db }) hsession hcommits
        rw [allBelong_of_gained hdb hgained, belongs_congr hsame.bookings hsame.owners,
          belongs_of_draft hrow]
        exact ⟨fun hb _ => hb, fun hb => hb hcommits⟩
      · have hfalse : d.commits py db fresh = false := by simpa using hcommits
        rw [(createRequest_of_not_commits (w := { w with db := db }) hfalse).1]
        exact iff_of_true hdb fun hc => absurd hc hcommits

/-- **A row written over** leaves every request with its guest exactly if the new row
belongs there. -/
theorem allBelong_of_wrote {db db' : Db} {r r' : ServiceRequest} (h : AllBelong db)
    (hwrote : db.Wrote db' r r') : AllBelong db' ↔ r'.Belongs db := by
  have howners : sessionOwners db' = sessionOwners db := by
    unfold sessionOwners
    rw [hwrote.voiceSessions]
  constructor
  · intro hall
    rw [← belongs_congr hwrote.bookings howners]
    refine hall r' ?_
    rw [hwrote.serviceRequests]
    exact (Table.mem_put hwrote.has).mpr (.inl rfl)
  · intro hnew x hx
    rw [hwrote.serviceRequests] at hx
    rw [belongs_congr hwrote.bookings howners]
    rcases (Table.mem_put hwrote.has).mp hx with rfl | ⟨hx, _⟩
    · exact hnew
    · exact h x hx

/-- An updated request belongs where the named booking, if any, is its guest's. -/
theorem belongs_applyTo {db : Db} {r : ServiceRequest} (hr : r.Belongs db) (body : RequestBody) :
    (body.applyTo r).Belongs db
      ↔ ∀ k, body.booking = some k → ∀ b ∈ db.bookings, b.id = k → b.guestId = r.guestId := by
  constructor
  · intro hnew k hk b hb hbk
    refine (hnew.booking b hb ?_).symm
    show b.id = body.booking.getD r.bookingId
    rw [hk]
    exact hbk
  · intro hk
    refine ⟨fun b hb hbid => ?_, hr.session⟩
    show r.guestId = b.guestId
    have hbid' : b.id = body.booking.getD r.bookingId := hbid
    cases hbody : body.booking with
    -- without a booking in the body the old one stays
    | none =>
        rw [hbody] at hbid'
        exact hr.booking b hb hbid'
    | some k =>
        rw [hbody] at hbid'
        exact (hk k hbody b hb hbid').symm

/-- **One PUT or PATCH.** -/
theorem allBelong_update_iff {w : World} (h : AllBelong w.db) (caller : Caller)
    (pk : Option Uuid) (part : Bool) (body : RequestBody) :
    AllBelong (deskStep py w ⟨caller, .update pk part body⟩).db
      ↔ KeepsOwner w (.update caller pk part body : OwnershipStep py) := by
  unfold deskStep
  cases hauth : authenticate w.db caller with
  | none =>
      refine iff_of_true h ?_
      intro user r huser
      rw [hauth] at huser
      exact absurd huser (by simp)
  | some user =>
      have hkeeps : KeepsOwner w (.update caller pk part body : OwnershipStep py)
          ↔ ∀ r, readUpdateRequest w.db user pk part body = .ok r → ∀ k, body.booking = some k →
            ∀ b ∈ w.db.bookings, b.id = k → b.guestId = r.guestId := by
        constructor
        · intro hk r
          exact hk user r hauth
        · intro hk user' r huser
          rw [hauth] at huser
          injection huser with huser
          rw [← huser]
          exact hk r
      rw [hkeeps]
      simp only
      cases hwrites : (RequestAction.update pk part body).rewrites py w.db user with
      | none =>
          rw [handle_of_rewrites_none hwrites]
          refine iff_of_true h fun r hread => ?_
          simp only [RequestAction.rewrites, hread] at hwrites
          exact absurd hwrites (by simp)
      | some rows =>
          obtain ⟨r, r'⟩ := rows
          obtain ⟨hread, rfl⟩ := rewrites_update hwrites
          have hr := h r (mem_of_rewrites hwrites)
          rw [allBelong_of_wrote h (handle_of_rewrites_some hwrites), belongs_applyTo hr]
          constructor
          · intro hk x hx
            rw [hread] at hx
            injection hx with hx
            rw [← hx]
            exact hk
          · intro hk
            exact hk r hread

/-- **One step** keeps every request with its guest exactly when it keeps the owner. -/
theorem allBelong_step_iff {w : World} (h : AllBelong w.db) (i : OwnershipStep py) :
    AllBelong (ownershipStep w i).db ↔ KeepsOwner w i := by
  cases i with
  | createSession caller bookingId fresh =>
      exact iff_of_true (allBelong_createSession h caller bookingId fresh) trivial
  | turn caller pk req agent fresh => exact allBelong_turn_iff h caller pk req agent fresh
  | update caller pk part body => exact allBelong_update_iff h caller pk part body

/-! ## §4. Runs. -/

/-- **Requests stay with the guest of their booking, exactly** along the runs whose
steps keep the owner. -/
theorem allBelong_iff_keepsOwner (py : Python) (w : World) (h : AllBelong w.db)
    (is : List (OwnershipStep py)) :
    AllStates ownershipStep (fun w => AllBelong w.db) w is
      ↔ AllSteps ownershipStep KeepsOwner w is :=
  allStates_iff_allSteps (P := fun w : World => AllBelong w.db) (K := fun _ => True)
    (fun _ _ _ => trivial) (fun _ i _ hs => allBelong_step_iff hs i) trivial h is

theorem allBelong_demoDesk : AllBelong demoDesk.db := by
  intro r hr
  have hr : r = demoRequest := List.mem_singleton.mp hr
  subst hr
  refine ⟨fun b hb hid => ?_, fun id hid => absurd hid (by simp [demoRequest])⟩
  have hall : ∀ b ∈ demoDesk.db.bookings.rows, b.id = demoRequest.bookingId →
      demoRequest.guestId = b.guestId := by decide +kernel
  exact hall b hb hid

/-- The demo guest starts a session; every request stays where it is. -/
theorem belong_after_session :
    AllStates ownershipStep (fun w => AllBelong w.db) demoDesk
      [(.createSession (.token 1) none (demoTurnFresh 6 .accepted .accepted) :
        OwnershipStep plainPython)] :=
  (allBelong_iff_keepsOwner plainPython demoDesk allBelong_demoDesk _).mpr ⟨trivial, trivial⟩

/-- The manager runs a turn in the guest's session; the request it stores belongs to
the manager, and its booking to the guest. -/
theorem manager_owns_guests_request :
    ¬ ∀ (py : Python) (w : World), AllBelong w.db → ∀ is : List (OwnershipStep py),
      AllStates ownershipStep (fun w => AllBelong w.db) w is := by
  intro h
  have hrun := h plainPython demoDesk allBelong_demoDesk
    [.turn (.token 3) 5 demoWords (.replies demoAsk) (demoTurnFresh 31 .accepted .accepted)]
  have hlast := hrun.last
  have hwrong : ∃ r ∈ (run ownershipStep demoDesk
      [(.turn (.token 3) 5 demoWords (.replies demoAsk) (demoTurnFresh 31 .accepted .accepted) :
        OwnershipStep plainPython)]).db.serviceRequests.rows,
      ∃ b ∈ (run ownershipStep demoDesk
        [(.turn (.token 3) 5 demoWords (.replies demoAsk)
          (demoTurnFresh 31 .accepted .accepted) :
          OwnershipStep plainPython)]).db.bookings.rows,
        b.id = r.bookingId ∧ r.guestId ≠ b.guestId := by decide +kernel
  obtain ⟨r, hr, b, hb, hid, hne⟩ := hwrong
  exact hne ((hlast r hr).booking b hb hid)

end HotelAgent
