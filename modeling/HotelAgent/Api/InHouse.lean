/-
  HotelAgent.Api.InHouse — requests for guests who have left.

  A session is created for a booking that is checked in.  After that nobody looks
  at the booking again: a turn takes it from the session, hours later, and creates
  the service request for it, whatever the reception has done in between.

      check, open         session creation, cut between its query and its INSERT
      session             the parts of a turn, `Api.SessionRaces`
      changeStatus        the admin site saves the booking with another status

  Main result, `insertsInHouse_iff`: in a run of all of them, interleaved in any
  way, every request is inserted for a booking that is checked in, if and only if
  no request is for a booking whose last change was to another status.
-/
import HotelAgent.Api.SessionRaces
import HotelAgent.Api.RequestCreation
import HotelAgent.Api.ServiceRequests

namespace HotelAgent

open Lib

variable {py : Python}

/-! ## §1. The steps. -/

/-- The admin site saves the booking with this status; the form offers every status. -/
def changeStatus (py : Python) (w : World) (pk : Uuid) (status : BookingStatus) (fresh : Fresh) :
    World :=
  match w.db.bookings.find? pk with
  | none => w
  | some b =>
    match w.db.saveBooking { b with status := status } with
    | none => w
    | some db => (onBookingSave py { w with db := db } { b with status := status } false fresh).1

/-- The moves of a booking through the house are such changes. -/
theorem adminMove_eq (py : Python) (w : World) (pk : Uuid) (status : BookingStatus)
    (fresh : Fresh) :
    adminMove py w pk status fresh
      = if ∀ b ∈ w.db.bookings.find? pk, legalMove b.status status = true then
          changeStatus py w pk status fresh
        else w := by
  unfold adminMove changeStatus
  cases w.db.bookings.find? pk with
  | none => simp
  | some b =>
      have hall : (∀ b' ∈ some b, legalMove b'.status status = true)
          ↔ legalMove b.status status = true := by simp
      by_cases hlegal : legalMove b.status status = true
      · exact (if_pos hlegal).trans (if_pos (hall.mpr hlegal)).symm
      · exact (if_neg hlegal).trans (if_neg fun h => hlegal (hall.mp h)).symm

/-- Session creation up to its INSERT. -/
def readOpen (db : Db) (caller : Caller) (bookingId : Option Uuid) :
    Except SessionAnswer (User × Option Booking) :=
  match requireUser db caller with
  | .error answer => .error answer
  | .ok user =>
    let booking := bookingId.bind (checkedInBooking db user)
    if bookingId.isSome ∧ booking = none then
      .error (.badRequest (txt "Active booking not found."))
    else .ok (user, booking)

/-- The INSERT and the event. -/
def finishOpen (py : Python) (w : World) (user : User) (booking : Option Booking)
    (fresh : SessionFresh) : World × SessionAnswer :=
  let row := newSession user (booking.map (·.id)) fresh
  match w.db.insertSession row with
  | none => (w, .serverError)
  | some db =>
    match publish py fresh.produce (txt "VOICE_SESSIONS")
      (VoiceSessionEvent.started fresh.stamp row.id.str user.id.str (roomNumber db booking))
      none with
    | .raised => ({ w with db := db }, .serverError)
    | p => ({ db := db, log := w.log ++ p.records }, .started row)

/-- The two halves make up `create`. -/
theorem createSession_eq (w : World) (caller : Caller) (bookingId : Option Uuid)
    (fresh : SessionFresh) :
    createSession py w caller bookingId fresh
      = match readOpen w.db caller bookingId with
        | .error answer => (w, answer)
        | .ok (user, booking) => finishOpen py w user booking fresh := by
  unfold createSession readOpen
  cases requireUser w.db caller with
  | error answer => rfl
  | ok user =>
      simp only
      by_cases h : bookingId.isSome ∧ bookingId.bind (checkedInBooking w.db user) = none
      · simp only [if_pos h]
      · simp only [if_neg h]
        rfl

/-- The house: what is in flight on the sessions, the creations that have read their booking, and
the bookings whose last change in the run was to a status other than checked in. -/
structure House (py : Python) where
  traffic : SessionTraffic py
  opening : List (User × Option Booking)
  movedOut : List Uuid

inductive HouseStep (py : Python) where
  | changeStatus (pk : Uuid) (status : BookingStatus) (fresh : Fresh)
  | check (caller : Caller) (bookingId : Option Uuid)
  /-- The `k`-th creation goes on to its INSERT. -/
  | openSession (k : Nat) (fresh : SessionFresh)
  | session (pk : Uuid) (i : SessionStep py)

def House.db (s : House py) : Db := s.traffic.world.db

/-- The house with another world. -/
def House.at (s : House py) (w : World) : House py :=
  { s with traffic := { s.traffic with world := w } }

def houseStep (s : House py) : HouseStep py → House py
  | .changeStatus pk status fresh =>
    let moved := s.at (HotelAgent.changeStatus py s.traffic.world pk status fresh)
    if s.db.bookings.Has pk then
      { moved with
        movedOut :=
          if status = .checkedIn then s.movedOut.filter (· ≠ pk) else pk :: s.movedOut }
    else moved
  | .check caller bookingId =>
    match readOpen s.db caller bookingId with
    | .error _ => s
    | .ok found => { s with opening := s.opening ++ [found] }
  | .openSession k fresh =>
    match s.opening[k]? with
    | none => s
    | some (user, booking) =>
      { s.at (finishOpen py s.traffic.world user booking fresh).1 with
        opening := s.opening.eraseIdx k }
  | .session pk i => { s with traffic := sessionStep pk s.traffic i }

/-- Nothing in flight. -/
def House.quiet (w : World) : House py := ⟨.quiet w, [], []⟩

/-! ## §2. In the house. -/

/-- The booking is checked in. -/
def Db.CheckedIn (db : Db) (id : Uuid) : Prop :=
  ∃ b ∈ db.bookings, b.id = id ∧ b.status = .checkedIn

/-- **Every request that the step inserts is for a booking that is checked in.** -/
def InsertsInHouse (s : House py) (i : HouseStep py) : Prop :=
  ∀ r ∈ (houseStep s i).db.serviceRequests, r ∉ s.db.serviceRequests → s.db.CheckedIn r.bookingId

/-- **The step inserts no request for a booking that was moved out.** -/
def SparesMovedOut (s : House py) : HouseStep py → Prop
  | .session _ (.finish k fresh) =>
    ∀ c, s.traffic.requests[k]? = some c → ∀ d, requestDraft c.user c.copy c.reply = some d →
      d.commits py s.db fresh = true → d.bookingId ∉ s.movedOut
  | _ => True

/-- A booking that a session, a creation or a turn refers to. -/
def House.Refers (s : House py) (id : Uuid) : Prop :=
  (∃ row ∈ s.db.voiceSessions, row.bookingId = some id)
    ∨ (∃ o ∈ s.opening, o.2.map (·.id) = some id)
    ∨ (∃ t ∈ s.traffic.turns, t.copy.bookingId = some id)
    ∨ ∃ c ∈ s.traffic.requests, c.copy.bookingId = some id

/-- **What is referred to was checked in**, and is unless it was moved out. -/
structure House.Sound (s : House py) : Prop where
  out : ∀ id ∈ s.movedOut, ¬ s.db.CheckedIn id
  refers : ∀ id, s.Refers id → s.db.CheckedIn id ∨ id ∈ s.movedOut
  /-- A turn that has saved belongs to a stored session. -/
  saved : ∀ c ∈ s.traffic.requests, s.db.voiceSessions.Has c.copy.id

theorem checkedIn_congr {db db' : Db} (h : db'.bookings = db.bookings) (id : Uuid) :
    db'.CheckedIn id ↔ db.CheckedIn id := by
  unfold Db.CheckedIn
  rw [h]

/-- A step that keeps the bookings and refers to nothing new. -/
theorem House.Sound.of_same {s s' : House py} (h : s.Sound)
    (hbookings : s'.db.bookings = s.db.bookings) (hmoved : s'.movedOut = s.movedOut)
    (hrefers : ∀ id, s'.Refers id → s.Refers id)
    (hsaved : ∀ c ∈ s'.traffic.requests, s'.db.voiceSessions.Has c.copy.id) : s'.Sound := by
  refine ⟨?_, ?_, hsaved⟩
  · intro id hid
    rw [checkedIn_congr hbookings]
    rw [hmoved] at hid
    exact h.out id hid
  · intro id hid
    rw [checkedIn_congr hbookings, hmoved]
    exact h.refers id (hrefers id hid)

/-! ## §3. Changes of the status. -/

/-- The signal touches neither sessions nor requests. -/
theorem tables_onBookingSave (py : Python) (w : World) (b : Booking) (created : Bool)
    (fresh : Fresh) :
    (onBookingSave py w b created fresh).1.db.voiceSessions = w.db.voiceSessions
      ∧ (onBookingSave py w b created fresh).1.db.serviceRequests = w.db.serviceRequests := by
  have hsync : (syncRoom w.db b).voiceSessions = w.db.voiceSessions
      ∧ (syncRoom w.db b).serviceRequests = w.db.serviceRequests := by
    unfold syncRoom
    cases b.status <;> exact ⟨rfl, rfl⟩
  unfold onBookingSave
  simp only
  split
  · split
    · exact ⟨rfl, rfl⟩
    · exact hsync
  · exact hsync

/-- A booking with another status is never refused. -/
theorem saveBooking_status {db : Db} {b : Booking} (hb : b ∈ db.bookings) (status : BookingStatus) :
    ∃ db', db.saveBooking { b with status := status } = some db' := by
  have hadmits : db.AdmitsBooking { b with status := status } :=
    ⟨db.booking_ok b hb, fun c hc hcode => db.booking_code c hc b hb hcode⟩
  unfold Db.saveBooking
  rw [dif_pos hadmits]
  exact ⟨_, rfl⟩

/-- **A change of the status** touches that booking only, and no session. -/
theorem changeStatus_stores (py : Python) {w : World} {pk : Uuid} (status : BookingStatus)
    (fresh : Fresh) (hpk : w.db.bookings.Has pk) :
    (∀ id, (changeStatus py w pk status fresh).db.CheckedIn id
        ↔ if id = pk then status = .checkedIn else w.db.CheckedIn id)
      ∧ (changeStatus py w pk status fresh).db.voiceSessions = w.db.voiceSessions
      ∧ (changeStatus py w pk status fresh).db.serviceRequests = w.db.serviceRequests := by
  obtain ⟨b, hfind⟩ := Table.has_iff_find?.mp hpk
  obtain ⟨hb, hid⟩ := Table.find?_eq_some_iff.mp hfind
  obtain ⟨db, hsave⟩ := saveBooking_status hb status
  obtain ⟨_, hbookings, _, _, hrequests, hsessions, _⟩ := Db.saveBooking_eq_some_iff.mp hsave
  unfold changeStatus
  simp only [hfind, hsave]
  refine ⟨fun id => ?_, ?_, ?_⟩
  · rw [checkedIn_congr (bookings_onBookingSave py _ _ false fresh)]
    unfold Db.CheckedIn
    rw [hbookings]
    split
    next hsame =>
      subst hsame
      constructor
      · rintro ⟨x, hx, hxid, hstatus⟩
        rcases Table.mem_save.mp hx with rfl | ⟨_, hother⟩
        · exact hstatus
        · exact absurd (hxid.trans hid.symm) hother
      · intro hstatus
        exact ⟨_, Table.mem_save.mpr (.inl rfl), hid, hstatus⟩
    next hother =>
      constructor
      · rintro ⟨x, hx, hxid, hstatus⟩
        rcases Table.mem_save.mp hx with rfl | ⟨hx, _⟩
        · exact absurd (hxid.symm.trans hid) hother
        · exact ⟨x, hx, hxid, hstatus⟩
      · rintro ⟨x, hx, hxid, hstatus⟩
        refine ⟨x, Table.mem_save.mpr (.inr ⟨hx, fun h => hother ?_⟩), hxid, hstatus⟩
        rw [← hxid, h]
        exact hid
  · exact (tables_onBookingSave py _ _ false fresh).1.trans hsessions
  · exact (tables_onBookingSave py _ _ false fresh).2.trans hrequests

/-- The ghost follows the status. -/
theorem sound_moved {s : House py} (h : s.Sound) {w : World} {pk : Uuid} {status : BookingStatus}
    (hchecked : ∀ id, w.db.CheckedIn id
      ↔ if id = pk then status = .checkedIn else s.db.CheckedIn id)
    (hsessions : w.db.voiceSessions = s.db.voiceSessions) :
    House.Sound { s.at w with
      movedOut := if status = .checkedIn then s.movedOut.filter (· ≠ pk)
        else pk :: s.movedOut } := by
  have hmoved : ∀ id, id ∈ (if status = .checkedIn then s.movedOut.filter (· ≠ pk)
      else pk :: s.movedOut) ↔ if id = pk then status ≠ .checkedIn else id ∈ s.movedOut := by
    intro id
    by_cases hstatus : status = .checkedIn
    · by_cases hid : id = pk
      · simp [hstatus, hid]
      · simp [hstatus, hid]
    · by_cases hid : id = pk
      · simp [hstatus, hid]
      · simp [hstatus, hid]
  refine ⟨?_, ?_, ?_⟩
  · intro id hid
    replace hid := (hmoved id).mp hid
    show ¬ w.db.CheckedIn id
    rw [hchecked]
    split at hid
    next hpk =>
      rw [if_pos hpk]
      exact hid
    next hpk =>
      rw [if_neg hpk]
      exact h.out id hid
  · intro id hid
    show w.db.CheckedIn id ∨ _
    rw [hchecked, hmoved]
    by_cases hpk : id = pk
    · rw [if_pos hpk, if_pos hpk]
      exact em _
    · rw [if_neg hpk, if_neg hpk]
      refine h.refers id ?_
      rcases hid with ⟨row, hrow, hbooking⟩ | hrest
      · refine .inl ⟨row, ?_, hbooking⟩
        rw [← hsessions]
        exact hrow
      · exact .inr hrest
  · intro c hc
    show w.db.voiceSessions.Has c.copy.id
    rw [hsessions]
    exact h.saved c hc

/-- There is no such booking. -/
theorem changeStatus_of_missing (py : Python) {w : World} {pk : Uuid} (status : BookingStatus)
    (fresh : Fresh) (hpk : ¬ w.db.bookings.Has pk) : changeStatus py w pk status fresh = w := by
  unfold changeStatus
  split
  · rfl
  next b hfind => exact absurd (Table.has_iff_find?.mpr ⟨b, hfind⟩) hpk

theorem sound_changeStatus {s : House py} (h : s.Sound) (pk : Uuid) (status : BookingStatus)
    (fresh : Fresh) : (houseStep s (.changeStatus pk status fresh)).Sound := by
  unfold houseStep
  simp only
  split
  next hpk =>
    obtain ⟨hchecked, hsessions, _⟩ := changeStatus_stores py status fresh hpk
    exact sound_moved h hchecked hsessions
  next hpk =>
    rw [changeStatus_of_missing py status fresh hpk]
    exact h

/-! ## §4. Session creation. -/

/-- A creation goes on with a booking that is checked in. -/
theorem readOpen_ok {db : Db} {caller : Caller} {bookingId : Option Uuid} {user : User}
    {booking : Option Booking} (h : readOpen db caller bookingId = .ok (user, booking)) :
    ∀ b ∈ booking, db.CheckedIn b.id := by
  unfold readOpen at h
  split at h
  · exact absurd h (by simp)
  · simp only at h
    split at h
    · exact absurd h (by simp)
    · injection h with h
      injection h with _ hbooking
      subst hbooking
      intro b hb
      obtain ⟨id, _, hb⟩ := Option.bind_eq_some_iff.mp hb
      unfold checkedInBooking at hb
      split at hb
      next x hx =>
        split at hb
        next hown =>
          injection hb with hb
          subst hb
          exact ⟨x, Table.mem_of_find? hx, rfl, hown.2⟩
        · exact absurd hb (by simp)
      · exact absurd hb (by simp)

/-- The INSERT adds a session with the booking that was read, or nothing. -/
theorem finishOpen_stores (py : Python) (w : World) (user : User) (booking : Option Booking)
    (fresh : SessionFresh) :
    (finishOpen py w user booking fresh).1.db = w.db
      ∨ ∃ row, row.bookingId = booking.map (·.id)
        ∧ w.db.insertSession row = some (finishOpen py w user booking fresh).1.db := by
  unfold finishOpen
  simp only
  split
  · exact .inl rfl
  next db hins =>
    refine .inr ⟨_, rfl, hins.trans ?_⟩
    split
    · rfl
    · rfl

theorem sound_check {s : House py} (h : s.Sound) (caller : Caller) (bookingId : Option Uuid) :
    (houseStep s (.check caller bookingId)).Sound := by
  unfold houseStep
  simp only
  split
  · exact h
  next found hread =>
    obtain ⟨user, booking⟩ := found
    refine ⟨h.out, ?_, h.saved⟩
    rintro id (hrow | ⟨o, ho, hid⟩ | hrest)
    · exact h.refers id (.inl hrow)
    · rcases List.mem_append.mp ho with ho | ho
      · exact h.refers id (.inr (.inl ⟨o, ho, hid⟩))
      · rw [List.mem_singleton.mp ho] at hid
        obtain ⟨b, hb, rfl⟩ := Option.map_eq_some_iff.mp hid
        exact .inl (readOpen_ok hread b hb)
    · exact h.refers id (.inr (.inr hrest))

theorem sound_openSession {s : House py} (h : s.Sound) (k : Nat) (fresh : SessionFresh) :
    (houseStep s (.openSession k fresh)).Sound := by
  unfold houseStep
  simp only
  split
  · exact h
  next user booking hk =>
    rcases finishOpen_stores py s.traffic.world user booking fresh with hsame | ⟨row, hrow, hins⟩
    · refine h.of_same ?_ rfl ?_ ?_
      · exact congrArg Db.bookings hsame
      · rintro id (⟨x, hx, hid⟩ | ⟨o, ho, hid⟩ | hrest)
        · refine .inl ⟨x, ?_, hid⟩
          rw [House.db, ← hsame]
          exact hx
        · exact .inr (.inl ⟨o, List.eraseIdx_subset ho, hid⟩)
        · exact .inr (.inr hrest)
      · intro c hc
        have := h.saved c hc
        rw [House.db, ← hsame] at this
        exact this
    · obtain ⟨_, hnew, hrows, _, _, hbookings, _⟩ := Db.insertSession_eq_some hins
      refine h.of_same hbookings rfl ?_ ?_
      · rintro id (⟨x, hx, hid⟩ | ⟨o, ho, hid⟩ | hrest)
        · replace hx : x ∈ (finishOpen py s.traffic.world user booking
            fresh).1.db.voiceSessions.rows := hx
          rw [hrows] at hx
          rcases List.mem_append.mp hx with hx | hx
          · exact .inl ⟨x, hx, hid⟩
          · -- the new session has the booking of its creation
            rw [List.mem_singleton.mp hx, hrow] at hid
            exact .inr (.inl ⟨_, List.mem_of_getElem? hk, hid⟩)
        · exact .inr (.inl ⟨o, List.eraseIdx_subset ho, hid⟩)
        · exact .inr (.inr hrest)
      · intro c hc
        obtain ⟨x, hx, hid⟩ := h.saved c hc
        refine ⟨x, ?_, hid⟩
        show x ∈ (finishOpen py s.traffic.world user booking fresh).1.db.voiceSessions.rows
        rw [hrows]
        exact List.mem_append_left _ hx

/-! ## §5. Turns. -/

/-- The bookings of the sessions. -/
theorem booking_of_owners {db db' : Db} (h : sessionOwners db' = sessionOwners db)
    {row : VoiceSession} (hrow : row ∈ db'.voiceSessions) :
    ∃ x ∈ db.voiceSessions, x.id = row.id ∧ x.bookingId = row.bookingId := by
  have hmem : (row.id, row.guestId, row.bookingId) ∈ sessionOwners db := by
    rw [← h]
    exact List.mem_map.mpr ⟨row, hrow, rfl⟩
  obtain ⟨x, hx, heq⟩ := List.mem_map.mp hmem
  injection heq with hid heq
  injection heq with _ hbooking
  exact ⟨x, hx, hid, hbooking⟩

theorem has_of_owners {db db' : Db} (h : sessionOwners db' = sessionOwners db) {id : Uuid}
    (hid : db.voiceSessions.Has id) : db'.voiceSessions.Has id := by
  obtain ⟨x, hx, rfl⟩ := hid
  obtain ⟨row, hrow, hid, _⟩ := booking_of_owners h.symm hx
  exact ⟨row, hrow, hid⟩

/-- Where a step leaves the bookings and the owners of the sessions. -/
structure Db.SameHouse (db db' : Db) : Prop where
  bookings : db'.bookings = db.bookings
  owners : sessionOwners db' = sessionOwners db

theorem Db.SameHouse.refl (db : Db) : db.SameHouse db := ⟨rfl, rfl⟩

theorem sameHouse_of_save {db db' : Db} {id : Uuid} {w : SessionWrite}
    (h : db.saveSession id w = some db') : db.SameHouse db' :=
  ⟨(sameButSessions_of_save h).bookings, (sameButSessions_of_save h).owners⟩

theorem sameHouse_cleanup (db : Db) (now : Instant) :
    db.SameHouse (cleanupExpiredSessions db now) := by
  obtain ⟨_, hsessions, _, _, hbookings, _⟩ :=
    Db.updateSessions_eq_some (cleanupExpiredSessions_eq db now)
  refine ⟨hbookings, ?_⟩
  unfold sessionOwners
  rw [hsessions]
  exact sessionOwners_updateWhere (.expire now)

/-- What follows a draft. -/
theorem finishTurn_of_draft {w : World} {user : User} {copy : VoiceSession}
    {r : VoiceAgentResponse py} {d : RequestDraft} (fresh : SessionFresh)
    (h : requestDraft user copy r = some d) :
    (finishTurn w user copy r fresh).1 = (createRequest py w d fresh).1 := by
  unfold finishTurn
  rw [h]
  simp only
  split
  next hcreate => rw [hcreate]
  next hcreate => rw [hcreate]

/-- **The end of a turn** inserts a request with the booking of the session's copy, or none. -/
theorem finishTurn_stores {w : World} {user : User} {copy : VoiceSession}
    {r : VoiceAgentResponse py} (fresh : SessionFresh) (hsaved : w.db.voiceSessions.Has copy.id) :
    w.db.SameHouse (finishTurn w user copy r fresh).1.db
      ∧ ((∀ d, requestDraft user copy r = some d → d.commits py w.db fresh = false)
          ∧ (finishTurn w user copy r fresh).1.db.serviceRequests = w.db.serviceRequests
        ∨ ∃ d stored, requestDraft user copy r = some d ∧ d.commits py w.db fresh = true
          ∧ stored.bookingId = d.bookingId ∧ stored ∉ w.db.serviceRequests
          ∧ (finishTurn w user copy r fresh).1.db.serviceRequests.rows
              = w.db.serviceRequests.rows ++ [stored]) := by
  cases hdraft : requestDraft user copy r with
  | none =>
      have hworld : (finishTurn w user copy r fresh).1 = w := by
        unfold finishTurn
        rw [hdraft]
      rw [hworld]
      exact ⟨.refl w.db, .inl ⟨fun d hd => absurd hd (by simp), rfl⟩⟩
  | some d =>
      rw [finishTurn_of_draft fresh hdraft]
      cases hcommits : d.commits py w.db fresh with
      | false =>
          rw [(createRequest_of_not_commits hcommits).1]
          refine ⟨.refl w.db, .inl ⟨fun d' hd' => ?_, rfl⟩⟩
          injection hd' with hd'
          rw [← hd']
          exact hcommits
      | true =>
          have hsession : ∃ s, w.db.voiceSessions.find? d.sessionId = some s := by
            rw [(requestDraft_eq_some hdraft).2.1]
            exact Table.has_iff_find?.mp hsaved
          obtain ⟨row, stored, hrow, _, hgained⟩ := createRequest_of_commits hsession hcommits
          obtain ⟨_, _, _, _, hstored⟩ := hgained.kept
          refine ⟨⟨hgained.bookings, ?_⟩, .inr ⟨d, stored, rfl, hcommits, ?_, ?_, hgained.rows⟩⟩
          · unfold sessionOwners
            rw [hgained.sessions]
            exact sessionOwners_updateWhere _
          · rw [hstored]
            exact (row_columns hrow).2.2.2.1
          · intro hmem
            refine hgained.new stored hmem ?_
            rw [hstored]

/-- A part of a turn refers to what a session or another part refers to. -/
theorem House.Sound.traffic {s : House py} (h : s.Sound) {t : SessionTraffic py}
    (hsame : s.db.SameHouse t.world.db)
    (hturns : ∀ c ∈ t.turns, c ∈ s.traffic.turns ∨ c.copy ∈ s.db.voiceSessions)
    (hrequests : ∀ c ∈ t.requests, c ∈ s.traffic.requests
      ∨ (∃ call ∈ s.traffic.turns, call.copy = c.copy) ∧ s.db.voiceSessions.Has c.copy.id) :
    House.Sound { s with traffic := t } := by
  refine h.of_same hsame.bookings rfl ?_ ?_
  · rintro id (⟨row, hrow, hid⟩ | ho | ⟨c, hc, hid⟩ | ⟨c, hc, hid⟩)
    · obtain ⟨x, hx, _, hbooking⟩ := booking_of_owners hsame.owners hrow
      exact .inl ⟨x, hx, hbooking.trans hid⟩
    · exact .inr (.inl ho)
    · rcases hturns c hc with hold | hrow
      · exact .inr (.inr (.inl ⟨c, hold, hid⟩))
      · exact .inl ⟨c.copy, hrow, hid⟩
    · rcases hrequests c hc with hold | ⟨⟨call, hcall, hcopy⟩, _⟩
      · exact .inr (.inr (.inr ⟨c, hold, hid⟩))
      · exact .inr (.inr (.inl ⟨call, hcall, by rw [hcopy]; exact hid⟩))
  · intro c hc
    refine has_of_owners hsame.owners ?_
    rcases hrequests c hc with hold | ⟨_, hsaved⟩
    · exact h.saved c hold
    · exact hsaved

theorem sound_session {s : House py} (h : s.Sound) (pk : Uuid) (i : SessionStep py) :
    (houseStep s (.session pk i)).Sound := by
  show House.Sound { s with traffic := sessionStep pk s.traffic i }
  cases i with
  | beginTurn caller req =>
      simp only [sessionStep]
      split
      · exact h
      next user copy content hread =>
        refine h.traffic (.refl _) (fun c hc => ?_) fun c hc => .inl hc
        rcases List.mem_append.mp hc with hc | hc
        · exact .inl hc
        · rw [List.mem_singleton.mp hc]
          exact .inr (Table.mem_of_find? (readTurn_ok hread).1)
  | reply k r nowTs =>
      simp only [sessionStep]
      split
      · exact h
      next t ht =>
        split
        · exact h.traffic (.refl _) (fun c hc => .inl (List.eraseIdx_subset hc)) fun c hc => .inl hc
        next db hsave =>
          refine h.traffic (sameHouse_of_save hsave)
            (fun c hc => .inl (List.eraseIdx_subset hc)) fun c hc => ?_
          rcases List.mem_append.mp hc with hc | hc
          · exact .inl hc
          · -- the session was there when the turn was saved
            rw [List.mem_singleton.mp hc]
            obtain ⟨row, hrow, _⟩ := Db.saveSession_eq_some hsave
            exact .inr ⟨⟨t, List.mem_of_getElem? ht, rfl⟩, Table.has_iff_find?.mpr ⟨row, hrow⟩⟩
  | agentRaises k =>
      simp only [sessionStep]
      split
      · exact h
      next t ht =>
        refine h.traffic ?_ (fun c hc => .inl (List.eraseIdx_subset hc)) fun c hc => .inl hc
        show s.db.SameHouse ((failTurn s.db t.copy).getD s.db)
        cases hfail : failTurn s.db t.copy with
        | none => exact .refl s.db
        | some db => exact sameHouse_of_save hfail
  | finish k fresh =>
      simp only [sessionStep]
      split
      · exact h
      next c hk =>
        exact h.traffic (finishTurn_stores fresh (h.saved c (List.mem_of_getElem? hk))).1
          (fun c hc => .inl hc) fun c hc => .inl (List.eraseIdx_subset hc)
  | beginEnd caller =>
      simp only [sessionStep]
      split
      · exact h
      · exact h.traffic (.refl _) (fun c hc => .inl hc) fun c hc => .inl hc
  | saveEnd k fresh =>
      simp only [sessionStep]
      split
      · exact h
      · split
        · exact h.traffic (.refl _) (fun c hc => .inl hc) fun c hc => .inl hc
        next db hsave =>
          refine h.traffic ?_ (fun c hc => .inl hc) fun c hc => .inl hc
          show s.db.SameHouse (finishEnd py _ _ fresh).1.db
          rw [db_finishEnd]
          exact sameHouse_of_save hsave
  | cleanup now =>
      exact h.traffic (sameHouse_cleanup s.db now) (fun c hc => .inl hc) fun c hc => .inl hc

/-- **Every step is sound.** -/
theorem sound_step (s : House py) (i : HouseStep py) (h : s.Sound) : (houseStep s i).Sound := by
  cases i with
  | changeStatus pk status fresh => exact sound_changeStatus h pk status fresh
  | check caller bookingId => exact sound_check h caller bookingId
  | openSession k fresh => exact sound_openSession h k fresh
  | session pk i => exact sound_session h pk i

/-! ## §6. Inserted in the house. -/

/-- Of the steps of a session, only the end of a turn inserts requests. -/
theorem serviceRequests_sessionStep (pk : Uuid) (s : SessionTraffic py) {i : SessionStep py}
    (h : ∀ k fresh, i ≠ .finish k fresh) :
    (sessionStep pk s i).world.db.serviceRequests = s.world.db.serviceRequests := by
  cases i with
  | beginTurn caller req =>
      simp only [sessionStep]
      split
      · rfl
      · rfl
  | reply k r nowTs =>
      simp only [sessionStep]
      split
      · rfl
      · split
        · rfl
        next db hsave => exact (sameButSessions_of_save hsave).serviceRequests
  | agentRaises k =>
      simp only [sessionStep]
      split
      · rfl
      next t _ =>
        simp only
        cases hfail : failTurn s.world.db t.copy with
        | none => rfl
        | some db => exact (sameButSessions_of_save hfail).serviceRequests
  | finish k fresh => exact absurd rfl (h k fresh)
  | beginEnd caller =>
      simp only [sessionStep]
      split
      · rfl
      · rfl
  | saveEnd k fresh =>
      simp only [sessionStep]
      split
      · rfl
      · split
        · rfl
        next db hsave =>
          simp only [db_finishEnd]
          exact (sameButSessions_of_save hsave).serviceRequests
  | cleanup now =>
      exact (Db.updateSessions_eq_some
        (cleanupExpiredSessions_eq s.world.db now)).2.2.2.2.2

/-- Neither does anything else. -/
theorem serviceRequests_houseStep {s : House py} {i : HouseStep py}
    (h : ∀ pk k fresh, i ≠ .session pk (.finish k fresh)) :
    (houseStep s i).db.serviceRequests = s.db.serviceRequests := by
  cases i with
  | changeStatus pk status fresh =>
      have hchange : (changeStatus py s.traffic.world pk status fresh).db.serviceRequests
          = s.db.serviceRequests := by
        by_cases hpk : s.traffic.world.db.bookings.Has pk
        · exact (changeStatus_stores py status fresh hpk).2.2
        · rw [changeStatus_of_missing py status fresh hpk]
          rfl
      unfold houseStep
      simp only
      split
      · exact hchange
      · exact hchange
  | check caller bookingId =>
      unfold houseStep
      simp only
      split
      · rfl
      · rfl
  | openSession k fresh =>
      unfold houseStep
      simp only
      split
      · rfl
      next user booking _ =>
        show (finishOpen py s.traffic.world user booking fresh).1.db.serviceRequests = _
        rcases finishOpen_stores py s.traffic.world user booking fresh with hsame | ⟨row, _, hins⟩
        · rw [hsame]
          rfl
        · obtain ⟨_, _, _, _, _, _, hrequests⟩ := Db.insertSession_eq_some hins
          exact hrequests
  | session pk i =>
      have hi : ∀ k fresh, i ≠ .finish k fresh := by
        intro k fresh hfinish
        exact h pk k fresh (by rw [hfinish])
      exact serviceRequests_sessionStep pk s.traffic hi

/-- **One step** inserts for bookings in the house, exactly if it spares those moved out. -/
theorem insertsInHouse_step_iff {s : House py} (hs : s.Sound) (i : HouseStep py) :
    InsertsInHouse s i ↔ SparesMovedOut s i := by
  by_cases hfinish : ∃ pk k fresh, i = .session pk (.finish k fresh)
  · obtain ⟨pk, k, fresh, rfl⟩ := hfinish
    unfold SparesMovedOut
    simp only
    cases hk : s.traffic.requests[k]? with
    | none =>
        have hsame : houseStep s (.session pk (.finish k fresh)) = s := by
          simp only [houseStep, sessionStep, hk]
        refine iff_of_true ?_ fun c hc => absurd hc (by simp)
        intro r hr hnot
        rw [hsame] at hr
        exact absurd hr hnot
    | some c =>
        simp only [Option.some.injEq, forall_eq']
        have hworld : (houseStep s (.session pk (.finish k fresh))).db
            = (finishTurn s.traffic.world c.user c.copy c.reply fresh).1.db := by
          show (sessionStep pk s.traffic (.finish k fresh)).world.db = _
          simp only [sessionStep, hk]
        have hcall := List.mem_of_getElem? hk
        unfold InsertsInHouse
        rw [hworld]
        obtain ⟨_, ⟨hno, hsame⟩ | ⟨d, stored, hdraft, hcommits, hbooking, hnot, hrows⟩⟩ :=
          @finishTurn_stores py _ c.user c.copy c.reply fresh (hs.saved c hcall)
        · rw [hsame]
          refine iff_of_true (fun r hr hnot => absurd hr hnot) fun d hd hcommits => ?_
          exact absurd (hcommits.symm.trans (hno d hd)) (by simp)
        · -- one request is inserted, and the turn refers to its booking
          have hrefers : s.Refers d.bookingId :=
            .inr (.inr (.inr ⟨c, hcall, (requestDraft_eq_some hdraft).2.2⟩))
          have hchecked : s.db.CheckedIn d.bookingId ↔ d.bookingId ∉ s.movedOut :=
            ⟨fun hin hmem => hs.out _ hmem hin,
              fun hnot => (hs.refers _ hrefers).resolve_right hnot⟩
          constructor
          · intro hall d' hd' _
            rw [hdraft] at hd'
            injection hd' with hd'
            rw [← hd', ← hchecked, ← hbooking]
            refine hall stored ?_ hnot
            show stored ∈ (finishTurn s.traffic.world c.user c.copy c.reply
              fresh).1.db.serviceRequests.rows
            rw [hrows]
            exact List.mem_append_right _ List.mem_cons_self
          · intro hspares r hr hrnot
            replace hr : r ∈ (finishTurn s.traffic.world c.user c.copy c.reply
              fresh).1.db.serviceRequests.rows := hr
            rw [hrows] at hr
            rcases List.mem_append.mp hr with hr | hr
            · exact absurd hr hrnot
            · rw [List.mem_singleton.mp hr, hbooking]
              exact hchecked.mpr (hspares d hdraft hcommits)
  · have hother : ∀ pk k fresh, i ≠ .session pk (.finish k fresh) :=
      fun pk k fresh h => hfinish ⟨pk, k, fresh, h⟩
    refine iff_of_true ?_ ?_
    · intro r hr hnot
      rw [serviceRequests_houseStep hother] at hr
      exact absurd hr hnot
    · unfold SparesMovedOut
      split
      next pk k fresh => exact absurd rfl (hother pk k fresh)
      · trivial

theorem sound_quiet {w : World}
    (hstart : ∀ row ∈ w.db.voiceSessions, ∀ id ∈ row.bookingId, w.db.CheckedIn id) :
    (House.quiet w : House py).Sound := by
  refine ⟨fun id hid => absurd hid List.not_mem_nil, ?_, fun c hc => absurd hc List.not_mem_nil⟩
  rintro id (⟨row, hrow, hid⟩ | ⟨o, ho, _⟩ | ⟨t, ht, _⟩ | ⟨c, hc, _⟩)
  · exact .inl (hstart row hrow id hid)
  · exact absurd ho List.not_mem_nil
  · exact absurd ht List.not_mem_nil
  · exact absurd hc List.not_mem_nil

/-- **Only guests in the house get requests, exactly.**  In a run of status changes, session
creations and turns, interleaved in any way, every request is inserted for a booking that is
checked in at that moment, if and only if none is for a booking whose last change in the run was
to another status. -/
theorem insertsInHouse_iff (py : Python) (w : World) (is : List (HouseStep py))
    (hstart : ∀ row ∈ w.db.voiceSessions, ∀ id ∈ row.bookingId, w.db.CheckedIn id) :
    AllSteps houseStep InsertsInHouse (.quiet w) is
      ↔ AllSteps houseStep SparesMovedOut (.quiet w) is :=
  allSteps_congr sound_step (fun _ i hs => insertsInHouse_step_iff hs i) (sound_quiet hstart) is

/-- What a change of the status does not determine. -/
def demoFreshStatus : Fresh :=
  { id := 0, confirmationCode := [], now := 0, stamp := ⟨0, []⟩, produce := .accepted }

/-- The reception makes this of the stay, and then the demo guest asks for a massage. -/
def askAfter (status : BookingStatus) : List (HouseStep plainPython) :=
  [.changeStatus 20 status demoFreshStatus,
    .session 5 (.beginTurn (.token 1) demoWords), .session 5 (.reply 0 demoAsk (txt "now"))]

/-- The massage is noted. -/
def noteMassage : HouseStep plainPython :=
  .session 5 (.finish 0 (demoTurnFresh 31 .accepted .accepted))

theorem demo_sessions_checked_in :
    ∀ row ∈ demoDesk.db.voiceSessions, ∀ id ∈ row.bookingId, demoDesk.db.CheckedIn id := by
  intro row hrow id hid
  rw [List.mem_singleton.mp hrow] at hid
  injection hid with hid
  exact ⟨demoStay, List.mem_cons_self, hid, rfl⟩

/-- The guest stays. -/
theorem requests_of_staying_guest :
    AllSteps houseStep InsertsInHouse (.quiet demoDesk) (askAfter .checkedIn ++ [noteMassage]) := by
  refine (insertsInHouse_iff plainPython demoDesk _ demo_sessions_checked_in).mpr
    ⟨trivial, trivial, trivial, ?_, trivial⟩
  intro c hc d _ _
  exact List.not_mem_nil

/-- The guest has checked out. -/
theorem request_after_checkout :
    ¬ ∀ (py : Python) (w : World) (is : List (HouseStep py)),
      (∀ row ∈ w.db.voiceSessions, ∀ id ∈ row.bookingId, w.db.CheckedIn id) →
        AllSteps houseStep InsertsInHouse (.quiet w) is := by
  intro h
  have hnote := (allSteps_append.mp (h plainPython demoDesk
    (askAfter .checkedOut ++ [noteMassage]) demo_sessions_checked_in)).2.1
  have hinserted : ∃ r ∈ (houseStep (run houseStep (.quiet demoDesk) (askAfter .checkedOut))
      noteMassage).db.serviceRequests.rows,
      r ∉ (run houseStep (.quiet demoDesk) (askAfter .checkedOut)).db.serviceRequests.rows
        ∧ r.bookingId = 20 := by decide +kernel
  have hout : ∀ b ∈ (run houseStep (.quiet demoDesk) (askAfter .checkedOut)).db.bookings.rows,
      b.id = 20 → b.status ≠ .checkedIn := by decide +kernel
  obtain ⟨r, hr, hnew, hbooking⟩ := hinserted
  obtain ⟨b, hb, hid, hstatus⟩ := hnote r hr hnew
  exact hout b hb (hid.trans hbooking) hstatus

end HotelAgent
