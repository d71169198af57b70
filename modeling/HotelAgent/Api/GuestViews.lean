/-
  HotelAgent.Api.GuestViews — when the hotel looks the same to a guest.

  Of all that is stored, a guest's voice sessions and service requests read and write

      who the guest is, not the guest's logins
      the guest's sessions, service requests and bookings
      the rooms, but for their status
      who is assigned to the guest's service requests

  Two databases look the same to the guest if they agree on this.

  Main results:
    * `SameToGuest.saveSession`, `SameToGuest.insertSession`, `SameToGuest.wrote` and
      the like — a statement on the guest's rows is accepted in both or in none, and
      leaves the two looking the same.
    * `SameToGuest.createSession`, `SameToGuest.processTurn`, `SameToGuest.endSession`
      — what the guest does with sessions is answered the same in both.
-/
import HotelAgent.Api.GuestConversations
import Mathlib.Data.Option.Basic

namespace HotelAgent

open Lib

variable {py : Python}

/-! ## §1. Databases that look the same to a guest. -/

/-- The users in `known` are stored, as they are identified; their logins do not matter. -/
def Db.Knows (known : List User) (db : Db) : Prop :=
  ∀ u ∈ known, (db.users.find? u.id).map User.identity = some u

/-- The account of the guest. -/
def Db.Account (db : Db) (guest u : User) : Prop :=
  db.users.find? guest.id = some u ∧ u.identity = guest.identity

/-- **The hotel looks the same to the guest.** -/
structure SameToGuest (guest : User) (known : List User) (db db' : Db) : Prop where
  self : guest.identity ∈ known
  knows : db.Knows known
  knows' : db'.Knows known
  rows : SameRows (fun id => id = guest.id) db db'
  rooms : db'.rooms.rows.map Room.fixture = db.rooms.rows.map Room.fixture
  /-- Whoever is assigned to a request of the guest is known. -/
  assigned : ∀ r ∈ requestsOf db fun id => id = guest.id, ∀ a ∈ r.assignedTo, ∃ u ∈ known, u.id = a

theorem SameRows.symm {p : Uuid → Bool} {db db' : Db} (h : SameRows p db db') :
    SameRows p db' db :=
  ⟨h.sessions.symm, h.requests.symm, h.bookings.symm⟩

/-- The users of both tables with these ids are the same persons. -/
def SameNames (users users' : Table User.id) (ids : List Uuid) : Prop :=
  ∀ id ∈ ids, (users'.find? id).map User.identity = (users.find? id).map User.identity

namespace SameToGuest

variable {guest : User} {known : List User} {db db' : Db}

theorem symm (h : SameToGuest guest known db db') : SameToGuest guest known db' db where
  self := h.self
  knows := h.knows'
  knows' := h.knows
  rows := h.rows.symm
  rooms := h.rooms.symm
  assigned := by
    rw [h.rows.requests]
    exact h.assigned

/-- The guest has an account. -/
theorem me (h : SameToGuest guest known db db') : ∃ u, db.Account guest u :=
  Option.map_eq_some_iff.mp (h.knows guest.identity h.self)

/-- Accounts and rooms have not changed. -/
theorem of_rows {a b : Db} (h : SameToGuest guest known db db') (husers : a.users = db.users)
    (husers' : b.users = db'.users) (hrooms : a.rooms = db.rooms) (hrooms' : b.rooms = db'.rooms)
    (hrows : SameRows (fun id => id = guest.id) a b)
    (hassigned : ∀ r ∈ requestsOf a fun id => id = guest.id,
      ∀ x ∈ r.assignedTo, ∃ u ∈ known, u.id = x) :
    SameToGuest guest known a b where
  self := h.self
  knows := by
    unfold Db.Knows
    rw [husers]
    exact h.knows
  knows' := by
    unfold Db.Knows
    rw [husers']
    exact h.knows'
  rows := hrows
  rooms := by
    rw [hrooms, hrooms']
    exact h.rooms
  assigned := hassigned

/-- Only sessions have changed. -/
theorem of_sessions {a b : Db} (h : SameToGuest guest known db db')
    (husers : a.users = db.users ∧ b.users = db'.users)
    (hrooms : a.rooms = db.rooms ∧ b.rooms = db'.rooms)
    (hbookings : a.bookings = db.bookings ∧ b.bookings = db'.bookings)
    (hrequests : a.serviceRequests = db.serviceRequests ∧ b.serviceRequests = db'.serviceRequests)
    (hsessions : sessionsOf b (fun id => id = guest.id) = sessionsOf a fun id => id = guest.id) :
    SameToGuest guest known a b := by
  refine h.of_rows husers.1 husers.2 hrooms.1 hrooms.2 ⟨hsessions, ?_, ?_⟩ ?_
  · have hsame := h.rows.requests
    unfold requestsOf at hsame ⊢
    rw [hrequests.1, hrequests.2]
    exact hsame
  · have hsame := h.rows.bookings
    unfold bookingsOf at hsame ⊢
    rw [hbookings.1, hbookings.2]
    exact hsame
  · have hsame := h.assigned
    unfold requestsOf at hsame ⊢
    rw [hrequests.1]
    exact hsame

/-- Only service requests and links to them have changed. -/
theorem of_requests {a b : Db} (h : SameToGuest guest known db db')
    (husers : a.users = db.users ∧ b.users = db'.users)
    (hrooms : a.rooms = db.rooms ∧ b.rooms = db'.rooms)
    (hbookings : a.bookings = db.bookings ∧ b.bookings = db'.bookings)
    (hsessions : sessionsOf a (fun id => id = guest.id) = sessionsOf db (fun id => id = guest.id)
      ∧ sessionsOf b (fun id => id = guest.id) = sessionsOf db' fun id => id = guest.id)
    (hrequests : requestsOf b (fun id => id = guest.id) = requestsOf a fun id => id = guest.id)
    (hassigned : ∀ r ∈ requestsOf a fun id => id = guest.id,
      ∀ x ∈ r.assignedTo, ∃ u ∈ known, u.id = x) :
    SameToGuest guest known a b := by
  refine h.of_rows husers.1 husers.2 hrooms.1 hrooms.2 ⟨?_, hrequests, ?_⟩ hassigned
  · rw [hsessions.1, hsessions.2]
    exact h.rows.sessions
  · have hsame := h.rows.bookings
    unfold bookingsOf at hsame ⊢
    rw [hbookings.1, hbookings.2]
    exact hsame

/-- The guest is the same person. -/
theorem names_session (h : SameToGuest guest known db db') {s : VoiceSession}
    (hs : s.guestId = guest.id) : SameNames db.users db'.users [s.guestId] := by
  intro id hid
  rw [List.mem_singleton.mp hid, hs]
  exact (h.knows' guest.identity h.self).trans (h.knows guest.identity h.self).symm

/-- So are the guest of a request and whoever it is assigned to. -/
theorem names_request (h : SameToGuest guest known db db') {r : ServiceRequest}
    (hr : r.guestId = guest.id) (hassigned : ∀ a ∈ r.assignedTo, ∃ u ∈ known, u.id = a) :
    SameNames db.users db'.users (r.guestId :: r.assignedTo.toList) := by
  intro id hid
  -- the guest, or the one it is assigned to
  rcases List.mem_cons.mp hid with rfl | hid
  · rw [hr]
    exact (h.knows' guest.identity h.self).trans (h.knows guest.identity h.self).symm
  · obtain ⟨u, hu, rfl⟩ := hassigned id (Option.mem_toList.mp hid)
    rw [h.knows u hu, h.knows' u hu]

end SameToGuest

/-! ## §2. Statements on the guest's rows. -/

/-- Rows that look the same, seen in another way that looks at nothing more. -/
theorem map_eq_of_map_eq {R A B : Type} {look : R → A} {see see' : R → B} {l l' : List R}
    (h : l'.map look = l.map look) (hsee : ∀ x x', look x' = look x → see' x' = see x) :
    l'.map see' = l.map see := by
  -- row by row
  induction l generalizing l' with
  | nil =>
      rw [List.map_nil, List.map_eq_nil_iff] at h
      rw [h]
      rfl
  | cons x l ih =>
      cases l' with
      | nil => exact absurd h (by simp)
      | cons x' l' =>
          rw [List.map_cons, List.map_cons, List.cons.injEq] at h
          rw [List.map_cons, List.map_cons, hsee x x' h.1, ih h.2]

/-- Two saves write the same columns. -/
def SessionWrite.SameColumns (w w' : SessionWrite) : Prop :=
  ∀ s s' : VoiceSession, s'.columns = s.columns → (w'.write s').columns = (w.write s).columns

/-- The sessions of some guests after an UPDATE of a row by its key. -/
theorem sessionsOf_saveSession {p : Uuid → Bool} {db db' : Db} {id : Uuid} {w : SessionWrite}
    (h : db.saveSession id w = some db') :
    sessionsOf db' p = (db.voiceSessions.rows.filter fun s => p s.guestId).map
      fun s => (if s.id = id then w.write s else s).columns := by
  unfold sessionsOf
  rw [(saveSession_tables h).1]
  have hkeeps : ∀ rows : List VoiceSession,
      (rows.map fun s => if decide (s.id = id) = true then w.write s else s).filter
          (fun s => p s.guestId)
        = (rows.filter fun s => p s.guestId).map
            fun s => if decide (s.id = id) = true then w.write s else s := by
    intro rows
    rw [List.filter_map]
    congr 1
    -- no save changes whose session it is
    refine List.filter_congr fun s _ => ?_
    show p (if decide (s.id = id) = true then w.write s else s).guestId = p s.guestId
    split
    · rw [w.guestId_eq]
    · rfl
  show ((db.voiceSessions.rows.map _).filter _).map _ = _
  rw [hkeeps, List.map_map]
  refine List.map_congr_left fun s _ => ?_
  show (if decide (s.id = id) = true then w.write s else s).columns = _
  simp only [decide_eq_true_eq]

section
variable {guest : User} {known : List User} {db db' : Db}

/-- A session of the guest with this id. -/
def OwnSession (guest : User) (db : Db) (id : Uuid) (s : VoiceSession) : Prop :=
  db.voiceSessions.find? id = some s ∧ s.guestId = guest.id

/-- **A session of the guest** is in both, but for its links. -/
theorem SameToGuest.session (h : SameToGuest guest known db db') {id : Uuid} {s : VoiceSession}
    (hs : OwnSession guest db id s) :
    ∃ s', OwnSession guest db' id s' ∧ s'.columns = s.columns := by
  -- seen through the own rows, the two lookups are one
  have hsame := (ownSession_eq db' guest.id id).trans
    ((congrArg _ h.rows.sessions).trans (ownSession_eq db guest.id id).symm)
  rw [hs.1, Option.filter_some, if_pos (decide_eq_true hs.2)] at hsame
  obtain ⟨s', hs', hcolumns⟩ := Option.map_eq_some_iff.mp hsame
  obtain ⟨hfind, hown⟩ := Option.filter_eq_some_iff.mp hs'
  exact ⟨s', ⟨hfind, of_decide_eq_true hown⟩, hcolumns⟩

/-- Accepted in both, with the same effect, or refused in both. -/
theorem rel_of_isSome {R : Db → Db → Prop} {f g : Option Db} (hiff : g.isSome ↔ f.isSome)
    (hrel : ∀ a b, f = some a → g = some b → R a b) : Option.Rel R f g := by
  cases f with
  | none =>
      cases g with
      | none => exact .none
      | some b => exact absurd (hiff.mp rfl) (by simp)
  | some a =>
      obtain ⟨b, rfl⟩ := Option.isSome_iff_exists.mp (hiff.mpr rfl)
      exact .some (hrel a b rfl rfl)

theorem rel_cases {R : Db → Db → Prop} {f g : Option Db} (h : Option.Rel R f g) :
    f = none ∧ g = none ∨ ∃ a b, f = some a ∧ g = some b ∧ R a b := by
  cases h with
  | none => exact .inl ⟨rfl, rfl⟩
  | some h => exact .inr ⟨_, _, rfl, rfl, h⟩

/-- **A save** of a session. -/
theorem SameToGuest.saveSession (h : SameToGuest guest known db db') {id : Uuid}
    {s : VoiceSession} (hs : OwnSession guest db id s) {w w' : SessionWrite}
    (hw : w.SameColumns w') :
    Option.Rel (SameToGuest guest known) (db.saveSession id w) (db'.saveSession id w') := by
  obtain ⟨s', hs', hcolumns⟩ := h.session hs
  have hwritten := hw s s' hcolumns
  have hrange : (w'.write s').InRange ↔ (w.write s).InRange := by
    show (w'.write s').columns.InRange ↔ (w.write s).columns.InRange
    rw [hwritten]
  -- the row is there in both, so that only the ranges of the columns decide
  apply rel_of_isSome
  · exact (Db.saveSession_isSome_iff hs'.1).trans
      (hrange.trans (Db.saveSession_isSome_iff hs.1).symm)
  · intro a b hsave hsave'
    obtain ⟨_, husers, hrooms, hbookings, hrequests⟩ := saveSession_tables hsave
    obtain ⟨_, husers', hrooms', hbookings', hrequests'⟩ := saveSession_tables hsave'
    refine h.of_sessions ⟨husers, husers'⟩ ⟨hrooms, hrooms'⟩ ⟨hbookings, hbookings'⟩
      ⟨hrequests, hrequests'⟩ ?_
    rw [sessionsOf_saveSession hsave, sessionsOf_saveSession hsave']
    refine map_eq_of_map_eq h.rows.sessions fun x x' hx => ?_
    have hid : x'.id = x.id := (congrArg VoiceSession.id hx :)
    rw [hid]
    split
    · exact hw x x' hx
    · exact hx

/-- A booking of the guest is in both. -/
theorem SameToGuest.booking (h : SameToGuest guest known db db') {b : Booking}
    (hb : b ∈ db.bookings) (hown : b.guestId = guest.id) : b ∈ db'.bookings := by
  have hmem : b ∈ bookingsOf db' fun id => id = guest.id := by
    rw [h.rows.bookings]
    exact List.mem_filter.mpr ⟨hb, decide_eq_true hown⟩
  exact (List.mem_filter.mp hmem).1

/-- The key is taken by a session of the guest, or by none. -/
theorem SameToGuest.sessionKey (h : SameToGuest guest known db db') {id : Uuid}
    (hnew : ∀ s ∈ db.voiceSessions, s.id = id → s.guestId = guest.id)
    (hnew' : ∀ s ∈ db'.voiceSessions, s.id = id → s.guestId = guest.id) :
    (∀ s ∈ db'.voiceSessions, s.id ≠ id) ↔ ∀ s ∈ db.voiceSessions, s.id ≠ id := by
  have himp : ∀ {a b : Db}, SameToGuest guest known a b →
      (∀ s ∈ b.voiceSessions, s.id = id → s.guestId = guest.id) →
      (∀ s ∈ a.voiceSessions, s.id ≠ id) → ∀ s ∈ b.voiceSessions, s.id ≠ id := by
    intro a b hab hb hfree s hs heq
    -- a session that holds the key is the own one, and so in both
    subst heq
    have hown := hb s hs rfl
    obtain ⟨s', hs', hcolumns⟩ := hab.symm.session ⟨Table.find?_of_mem hs, hown⟩
    obtain ⟨hmem, hid⟩ := Table.find?_eq_some_iff.mp hs'.1
    exact hfree s' hmem hid
  exact ⟨himp h.symm hnew, himp h hnew'⟩

/-- The same of the service requests. -/
theorem SameToGuest.requestKey (h : SameToGuest guest known db db') {id : Uuid}
    (hnew : ∀ r ∈ db.serviceRequests, r.id = id → r.guestId = guest.id)
    (hnew' : ∀ r ∈ db'.serviceRequests, r.id = id → r.guestId = guest.id) :
    (∀ r ∈ db'.serviceRequests, r.id ≠ id) ↔ ∀ r ∈ db.serviceRequests, r.id ≠ id := by
  have himp : ∀ {a b : Db}, SameToGuest guest known a b →
      (∀ r ∈ b.serviceRequests, r.id = id → r.guestId = guest.id) →
      (∀ r ∈ a.serviceRequests, r.id ≠ id) → ∀ r ∈ b.serviceRequests, r.id ≠ id := by
    intro a b hab hb hfree r hr heq
    have hmem : r ∈ requestsOf a fun id => id = guest.id := by
      rw [← hab.rows.requests]
      exact List.mem_filter.mpr ⟨hr, decide_eq_true (hb r hr heq)⟩
    exact hfree r (List.mem_filter.mp hmem).1 heq
  exact ⟨himp h.symm hnew, himp h hnew'⟩

theorem insertSession_isSome {db : Db} {s : VoiceSession} :
    (db.insertSession s).isSome
      ↔ s.Ok db.users db.bookings ∧ ∀ x ∈ db.voiceSessions, x.id ≠ s.id := by
  unfold Db.insertSession
  by_cases hok : s.Ok db.users db.bookings
  · rw [dif_pos hok]
    split
    next hins =>
      -- the key is taken
      obtain ⟨x, hx, hid⟩ := Table.insert?_eq_none_iff.mp hins
      refine iff_of_false (by simp) fun h => h.2 x hx hid
    next sessions hins => exact iff_of_true rfl ⟨hok, (Table.insert?_eq_some_iff.mp hins).1⟩
  · rw [dif_neg hok]
    exact iff_of_false (by simp) fun h => hok h.1

/-- **An INSERT** of a session for a booking of the guest, or for none. -/
theorem SameToGuest.insertSession (h : SameToGuest guest known db db') {row : VoiceSession}
    (hguest : row.guestId = guest.id)
    (hstay : ∀ id ∈ row.bookingId, ∃ b ∈ db.bookings, b.id = id ∧ b.guestId = guest.id)
    (hnew : ∀ s ∈ db.voiceSessions, s.id = row.id → s.guestId = guest.id)
    (hnew' : ∀ s ∈ db'.voiceSessions, s.id = row.id → s.guestId = guest.id) :
    Option.Rel (SameToGuest guest known) (db.insertSession row) (db'.insertSession row) := by
  have hme : ∀ {a b : Db}, SameToGuest guest known a b → a.users.Has row.guestId := by
    intro a b hab
    rw [hguest]
    obtain ⟨u, hu, _⟩ := hab.me
    exact Table.has_iff_find?.mpr ⟨u, hu⟩
  have hok : row.Ok db'.users db'.bookings ↔ row.Ok db.users db.bookings := by
    have hbooked : ∀ id ∈ row.bookingId, db.bookings.Has id ∧ db'.bookings.Has id := by
      intro id hid
      obtain ⟨b, hb, rfl, hown⟩ := hstay id hid
      exact ⟨Table.has_of_mem hb, Table.has_of_mem (h.booking hb hown)⟩
    -- guest and booking are stored in both; the rest is about the row alone
    exact ⟨fun hrow => ⟨hme h, fun id hid => (hbooked id hid).1, hrow.2.2⟩,
      fun hrow => ⟨hme h.symm, fun id hid => (hbooked id hid).2, hrow.2.2⟩⟩
  apply rel_of_isSome
  · rw [insertSession_isSome, insertSession_isSome, hok, h.sessionKey hnew hnew']
  · intro a b hins hins'
    obtain ⟨_, _, hrows, husers, hrooms, hbookings, hrequests⟩ := Db.insertSession_eq_some hins
    obtain ⟨_, _, hrows', husers', hrooms', hbookings', hrequests'⟩ :=
      Db.insertSession_eq_some hins'
    refine h.of_sessions ⟨husers, husers'⟩ ⟨hrooms, hrooms'⟩ ⟨hbookings, hbookings'⟩
      ⟨hrequests, hrequests'⟩ ?_
    have hsessions := h.rows.sessions
    unfold sessionsOf at hsessions ⊢
    rw [hrows, hrows', List.filter_append, List.filter_append, List.map_append,
      List.map_append, hsessions]

/-- **A DELETE** of a session. -/
theorem SameToGuest.deleteSession (h : SameToGuest guest known db db') (id : Uuid) :
    SameToGuest guest known (db.deleteSession id) (db'.deleteSession id) := by
  have herased : ∀ a : Db, sessionsOf (a.deleteSession id) (fun g => g = guest.id)
      = (sessionsOf a fun g => g = guest.id).filter fun s => s.id ≠ id := by
    intro a
    unfold sessionsOf Db.deleteSession Table.erase
    rw [List.filter_map, List.filter_filter, List.filter_filter]
    refine congrArg _ (List.filter_congr fun s _ => ?_)
    exact Bool.and_comm _ _
  refine h.of_sessions ⟨rfl, rfl⟩ ⟨rfl, rfl⟩ ⟨rfl, rfl⟩ ⟨rfl, rfl⟩ ?_
  rw [herased, herased, h.rows.sessions]

theorem insertServiceRequest_isSome_iff {db : Db} {r : ServiceRequest} :
    (db.insertServiceRequest r).isSome
      ↔ ∃ serviceType priority, varchar 30 r.serviceType = some serviceType
        ∧ varchar 10 r.priority = some priority ∧ storable r.description = true
        ∧ { r with serviceType := serviceType, priority := priority }.Ok db.users db.bookings
        ∧ ∀ x ∈ db.serviceRequests, x.id ≠ r.id := by
  constructor
  · intro h
    unfold Db.insertServiceRequest at h
    split at h
    next serviceType priority hst hpr =>
      simp only at h
      split at h
      next hok =>
        split at h
        · exact absurd h (by simp)
        next requests hins =>
          exact ⟨serviceType, priority, hst, hpr, hok.2, hok.1,
            (Table.insert?_eq_some_iff.mp hins).1⟩
      · exact absurd h (by simp)
    · exact absurd h (by simp)
  · rintro ⟨serviceType, priority, hst, hpr, hdesc, hok, hnew⟩
    exact Db.insertServiceRequest_isSome hst hpr hok hdesc hnew

/-- **An INSERT** of a service request of the guest, assigned to nobody. -/
theorem SameToGuest.insertServiceRequest (h : SameToGuest guest known db db')
    {row : ServiceRequest} (hguest : row.guestId = guest.id) (hfree : row.assignedTo = none)
    (hstay : db.bookings.Has row.bookingId) (hstay' : db'.bookings.Has row.bookingId)
    (hnew : ∀ r ∈ db.serviceRequests, r.id = row.id → r.guestId = guest.id)
    (hnew' : ∀ r ∈ db'.serviceRequests, r.id = row.id → r.guestId = guest.id) :
    Option.Rel (SameToGuest guest known) (db.insertServiceRequest row)
      (db'.insertServiceRequest row) := by
  have hme : ∀ {a b : Db}, SameToGuest guest known a b → a.users.Has row.guestId := by
    intro a b hab
    rw [hguest]
    obtain ⟨u, hu, _⟩ := hab.me
    exact Table.has_iff_find?.mpr ⟨u, hu⟩
  apply rel_of_isSome
  · rw [insertServiceRequest_isSome_iff, insertServiceRequest_isSome_iff,
      h.requestKey hnew hnew']
    constructor
    · rintro ⟨serviceType, priority, hst, hpr, hdesc, ⟨_, _, hlengths⟩, hkey⟩
      exact ⟨serviceType, priority, hst, hpr, hdesc, ⟨hme h, hstay, hlengths⟩, hkey⟩
    · rintro ⟨serviceType, priority, hst, hpr, hdesc, ⟨_, _, hlengths⟩, hkey⟩
      exact ⟨serviceType, priority, hst, hpr, hdesc, ⟨hme h.symm, hstay', hlengths⟩, hkey⟩
  · intro a b hins hins'
    obtain ⟨serviceType, priority, hst, hpr, _, _, hrows, husers, hrooms, hbookings, hsessions⟩ :=
      Db.insertServiceRequest_eq_some hins
    obtain ⟨_, _, hst', hpr', _, _, hrows', husers', hrooms', hbookings', hsessions'⟩ :=
      Db.insertServiceRequest_eq_some hins'
    -- the columns keep the same in both
    obtain rfl : serviceType = _ := Option.some.inj (hst.symm.trans hst')
    obtain rfl : priority = _ := Option.some.inj (hpr.symm.trans hpr')
    have hsame := h.rows.requests
    refine h.of_requests ⟨husers, husers'⟩ ⟨hrooms, hrooms'⟩ ⟨hbookings, hbookings'⟩ ⟨?_, ?_⟩ ?_ ?_
    · unfold sessionsOf
      rw [hsessions]
    · unfold sessionsOf
      rw [hsessions']
    · unfold requestsOf at hsame ⊢
      rw [hrows, hrows', List.filter_append, List.filter_append, hsame]
    · intro r hr
      unfold requestsOf at hr
      rw [hrows, List.filter_append, List.mem_append] at hr
      -- an old request, or the new one, which is assigned to nobody
      rcases hr with hr | hr
      · exact h.assigned r hr
      · intro x hx
        rw [List.mem_singleton.mp (List.mem_filter.mp hr).1] at hx
        exact absurd hx (by simp [hfree])

/-- **A request of the guest is written over.** -/
theorem SameToGuest.wrote (h : SameToGuest guest known db db') {a b : Db} {r r' : ServiceRequest}
    (hwrote : db.Wrote a r r') (hwrote' : db'.Wrote b r r') (hown : r.guestId = guest.id)
    (hguest : r'.guestId = r.guestId) (hassigned : r'.assignedTo = r.assignedTo) :
    SameToGuest guest known a b := by
  have hput : ∀ {x y : Db}, x.Wrote y r r' → requestsOf y (fun id => id = guest.id)
      = (requestsOf x fun id => id = guest.id).map fun z => if z.id = r'.id then r' else z := by
    intro x y hxy
    unfold requestsOf
    rw [hxy.serviceRequests]
    unfold Table.put
    rw [List.filter_map]
    refine congrArg _ (List.filter_congr fun z hz => ?_)
    show decide ((if z.id = r'.id then r' else z).guestId = guest.id)
      = decide (z.guestId = guest.id)
    split
    next hid =>
      -- who holds the key is the row itself
      rw [Table.eq_of_key_eq hz hxy.mem (hid.trans hxy.id_eq), hguest]
    · rfl
  have hsessions : ∀ {x y : Db}, x.Wrote y r r' → sessionsOf y (fun id => id = guest.id)
      = sessionsOf x fun id => id = guest.id := by
    intro x y hxy
    unfold sessionsOf
    rw [hxy.voiceSessions]
  refine h.of_requests ⟨hwrote.users, hwrote'.users⟩ ⟨hwrote.rooms, hwrote'.rooms⟩
    ⟨hwrote.bookings, hwrote'.bookings⟩ ⟨hsessions hwrote, hsessions hwrote'⟩ ?_ ?_
  · rw [hput hwrote, hput hwrote', h.rows.requests]
  · intro z hz
    rw [hput hwrote] at hz
    obtain ⟨x, hx, rfl⟩ := List.mem_map.mp hz
    split
    · rw [hassigned]
      exact h.assigned r (List.mem_filter.mpr ⟨hwrote.mem, decide_eq_true hown⟩)
    · exact h.assigned x hx

/-- **A DELETE** of a service request, and of the links to it. -/
theorem SameToGuest.deleteServiceRequest (h : SameToGuest guest known db db') (id : Uuid) :
    SameToGuest guest known (db.deleteServiceRequest id) (db'.deleteServiceRequest id) := by
  have herased : ∀ a : Db, requestsOf (a.deleteServiceRequest id) (fun g => g = guest.id)
      = (requestsOf a fun g => g = guest.id).filter fun r => r.id ≠ id := by
    intro a
    unfold requestsOf Db.deleteServiceRequest Table.erase
    rw [List.filter_filter, List.filter_filter]
    exact List.filter_congr fun r _ => Bool.and_comm _ _
  have hsessions : ∀ a : Db, sessionsOf (a.deleteServiceRequest id) (fun g => g = guest.id)
      = sessionsOf a fun g => g = guest.id := by
    intro a
    unfold sessionsOf Db.deleteServiceRequest Table.updateWhere
    -- `columns` hides the links
    simp only [if_true, List.filter_map, List.map_map]
    rfl
  refine h.of_requests ⟨rfl, rfl⟩ ⟨rfl, rfl⟩ ⟨rfl, rfl⟩ ⟨hsessions db, hsessions db'⟩ ?_ ?_
  · rw [herased, herased, h.rows.requests]
  · intro r hr
    rw [herased] at hr
    exact h.assigned r (List.mem_filter.mp hr).1

end

/-! ## §3. The guest's voice sessions. -/

/-- Done in two worlds: the same answer, and the hotel looks the same. -/
structure DoneAlike {α : Type} (guest : User) (known : List User) (x y : World × α) : Prop where
  answer : x.2 = y.2
  db : SameToGuest guest known x.1.db y.1.db

theorem sameColumns_turn {s s' : VoiceSession} (h : s'.columns = s.columns)
    (messages : List Message) (tokensUsed ttsChars : Nat) :
    (SessionWrite.turn s messages tokensUsed ttsChars).SameColumns
      (SessionWrite.turn s' messages tokensUsed ttsChars) := by
  intro x x' hx
  have htranscript : s'.transcript = s.transcript := (congrArg VoiceSession.transcript h :)
  have htokens : s'.tokensUsed = s.tokensUsed := (congrArg VoiceSession.tokensUsed h :)
  have htts : s'.ttsCharacters = s.ttsCharacters := (congrArg VoiceSession.ttsCharacters h :)
  show { x'.columns with
      transcript := s'.transcript ++ messages
      tokensUsed := s'.tokensUsed + tokensUsed
      ttsCharacters := s'.ttsCharacters + ttsChars } = { x.columns with
      transcript := s.transcript ++ messages
      tokensUsed := s.tokensUsed + tokensUsed
      ttsCharacters := s.ttsCharacters + ttsChars }
  rw [hx, htranscript, htokens, htts]

theorem sameColumns_fail : SessionWrite.fail.SameColumns .fail := by
  intro x x' hx
  show { x'.columns with status := .failed } = { x.columns with status := .failed }
  rw [hx]

theorem sameColumns_complete (endedAt : Instant) (duration : Nat) :
    (SessionWrite.complete endedAt duration).SameColumns (.complete endedAt duration) := by
  intro x x' hx
  show { x'.columns with
      status := .completed
      endedAt := some endedAt
      durationSeconds := duration } = { x.columns with
      status := .completed
      endedAt := some endedAt
      durationSeconds := duration }
  rw [hx]

theorem sameColumns_addRequest (requestId : Uuid) :
    (SessionWrite.addRequest requestId).SameColumns (.addRequest requestId) :=
  fun _ _ hx => hx

theorem sameColumns_rewrite (s : VoiceSession) :
    (SessionWrite.rewrite s).SameColumns (.rewrite s) := by
  intro x x' hx
  have hid : x'.id = x.id := (congrArg VoiceSession.id hx :)
  have hguest : x'.guestId = x.guestId := (congrArg VoiceSession.guestId hx :)
  have hbooking : x'.bookingId = x.bookingId := (congrArg VoiceSession.bookingId hx :)
  show { s.columns with id := x'.id, guestId := x'.guestId, bookingId := x'.bookingId }
    = { s.columns with id := x.id, guestId := x.guestId, bookingId := x.bookingId }
  rw [hid, hguest, hbooking]

section
variable {guest : User} {known : List User} {w w' : World}

/-- The row of a draft is assigned to nobody. -/
theorem row_assignedTo {d : RequestDraft} {fresh : SessionFresh} {row : ServiceRequest}
    (h : d.row py fresh = some row) : row.assignedTo = none := by
  unfold RequestDraft.row at h
  split at h
  · injection h with h
    rw [← h]
  · exact absurd h (by simp)

/-- **The atomic block** of a turn of the guest. -/
theorem SameToGuest.createRequest (h : SameToGuest guest known w.db w'.db) {d : RequestDraft}
    {s : VoiceSession} {fresh : SessionFresh} (hd : d.guest = guest)
    (hs : OwnSession guest w.db d.sessionId s) (hstay : s.bookingId = some d.bookingId)
    (hnew : ∀ r ∈ w.db.serviceRequests, r.id = fresh.id → r.guestId = guest.id)
    (hnew' : ∀ r ∈ w'.db.serviceRequests, r.id = fresh.id → r.guestId = guest.id) :
    DoneAlike guest known (createRequest py w d fresh) (createRequest py w' d fresh) := by
  -- the booking of the session is stored in both
  obtain ⟨s', hs', hcolumns⟩ := h.session hs
  have hbooked : ∀ {db : Db} {x : VoiceSession}, OwnSession guest db d.sessionId x →
      x.bookingId = some d.bookingId → db.bookings.Has d.bookingId :=
    fun hx hstay => ((Db.session_ok _ _ (Table.mem_of_find? hx.1)).2.1 _ hstay)
  have hstay' : s'.bookingId = some d.bookingId :=
    (congrArg VoiceSession.bookingId hcolumns :).trans hstay
  rw [createRequest_eq, createRequest_eq]
  cases hrow : d.row py fresh with
  | none =>
      have hinserts : ∀ db, d.inserts py db fresh = none := by
        intro db
        simp only [RequestDraft.inserts, hrow]
      rw [hinserts, hinserts]
      exact ⟨rfl, h⟩
  | some row =>
      obtain ⟨hid, _, hguest, hbooking, _⟩ := row_columns hrow
      have hinserts : ∀ db, d.inserts py db fresh
          = (db.insertServiceRequest row).map fun db => (row, db) := by
        intro db
        simp only [RequestDraft.inserts, hrow]
      have hinsert : Option.Rel (SameToGuest guest known) (w.db.insertServiceRequest row)
          (w'.db.insertServiceRequest row) := by
        apply h.insertServiceRequest
        · rw [hguest, hd]
        · exact row_assignedTo hrow
        · rw [hbooking]
          exact hbooked hs hstay
        · rw [hbooking]
          exact hbooked hs' hstay'
        · rw [hid]
          exact hnew
        · rw [hid]
          exact hnew'
      rw [hinserts, hinserts]
      rcases rel_cases hinsert with ⟨hf, hg⟩ | ⟨a, b, hf, hg, hab⟩
      · rw [hf, hg]
        exact ⟨rfl, h⟩
      · rw [hf, hg]
        simp only [Option.map_some]
        have hsa : OwnSession guest a d.sessionId s := by
          unfold OwnSession
          rw [Db.voiceSessions_insertServiceRequest hf]
          exact hs
        -- whatever raises from here on rolls the INSERT back
        by_cases hsignal : (d.signal py fresh).returns = true
        · rw [if_pos hsignal, if_pos hsignal]
          rcases rel_cases (hab.saveSession hsa (sameColumns_addRequest row.id)) with
            ⟨hf', hg'⟩ | ⟨a', b', hf', hg', hab'⟩
          · rw [hf', hg']
            exact ⟨rfl, h⟩
          · rw [hf', hg']
            by_cases hview : (d.announce py fresh).returns = true
            · simp only [if_pos hview]
              exact ⟨rfl, hab'⟩
            · simp only [if_neg hview]
              exact ⟨rfl, h⟩
        · rw [if_neg hsignal, if_neg hsignal]
          exact ⟨rfl, h⟩

/-- **What follows the save of a turn**; `row` is the saved row. -/
theorem SameToGuest.finishTurn (h : SameToGuest guest known w.db w'.db) {s s' row : VoiceSession}
    {r : VoiceAgentResponse py} {fresh : SessionFresh} (hcolumns : s'.columns = s.columns)
    (hrow : OwnSession guest w.db s.id row) (hbooking : row.bookingId = s.bookingId)
    (hnew : ∀ r ∈ w.db.serviceRequests, r.id = fresh.id → r.guestId = guest.id)
    (hnew' : ∀ r ∈ w'.db.serviceRequests, r.id = fresh.id → r.guestId = guest.id) :
    DoneAlike guest known (finishTurn w guest s r fresh) (finishTurn w' guest s' r fresh) := by
  have hdraft : requestDraft guest s' r = requestDraft guest s r := by
    have hid : s'.id = s.id := (congrArg VoiceSession.id hcolumns :)
    have hstay : s'.bookingId = s.bookingId := (congrArg VoiceSession.bookingId hcolumns :)
    unfold requestDraft
    rw [hid, hstay]
  unfold HotelAgent.finishTurn
  rw [hdraft]
  cases hd : requestDraft guest s r with
  | none => exact ⟨rfl, h⟩
  | some d =>
      obtain ⟨hguest, hsession, hstay⟩ := requestDraft_eq_some hd
      have hblock : DoneAlike guest known (HotelAgent.createRequest py w d fresh)
          (HotelAgent.createRequest py w' d fresh) :=
        h.createRequest hguest (by rw [hsession]; exact hrow) (hbooking.trans hstay) hnew hnew'
      obtain ⟨hanswer, hdb⟩ := hblock
      simp only
      -- the answer only depends on what the block gives
      generalize HotelAgent.createRequest py w d fresh = x at hanswer hdb ⊢
      generalize HotelAgent.createRequest py w' d fresh = y at hanswer hdb ⊢
      obtain ⟨wx, created⟩ := x
      obtain ⟨wy, created'⟩ := y
      obtain rfl : created = created' := hanswer
      cases created with
      | none => exact ⟨rfl, hdb⟩
      | some row => exact ⟨rfl, hdb⟩

variable (hrole : guest.role = .guest) (hactive : guest.isActive = true)

theorem id_of_identity {u u' : User} (h : u'.identity = u.identity) : u'.id = u.id :=
  (congrArg User.id h :)

theorem role_of_identity {u u' : User} (h : u'.identity = u.identity) : u'.role = u.role :=
  (congrArg User.role h :)

include hactive in
theorem requireUser_me {db : Db} {u : User} (hme : db.Account guest u) :
    requireUser db (.token guest.id) = .ok u := by
  have hstill : u.isActive = guest.isActive := (congrArg User.isActive hme.2 :)
  unfold requireUser
  rw [authenticate_token_eq_some.mpr ⟨hme.1, hstill.trans hactive⟩]

/-- Of the user, a new session has the id. -/
theorem newSession_eq {u u' : User} (h : u'.id = u.id) : newSession u' = newSession u := by
  funext bookingId fresh
  unfold newSession
  rw [h]

theorem checkedInBooking_of_id (db : Db) {u u' : User} (h : u'.id = u.id) :
    checkedInBooking db u' = checkedInBooking db u := by
  funext bookingId
  unfold checkedInBooking
  rw [h]

/-- So does a draft, and whoever reads it. -/
theorem finishTurn_eq {w : World} {u u' : User} (h : u'.id = u.id) (s : VoiceSession)
    (r : VoiceAgentResponse py) (fresh : SessionFresh) :
    HotelAgent.finishTurn w u' s r fresh = HotelAgent.finishTurn w u s r fresh := by
  have hdraft : requestDraft u' s r
      = (requestDraft u s r).map fun d => { d with guest := u' } := by
    unfold requestDraft
    split
    · split
      · rfl
      · rfl
    · rfl
  have hcreate : ∀ d : RequestDraft, d.guest.id = u.id →
      HotelAgent.createRequest py w { d with guest := u' } fresh
        = HotelAgent.createRequest py w d fresh := by
    intro d hd
    have hrow : ({ d with guest := u' } : RequestDraft).row py fresh = d.row py fresh := by
      unfold RequestDraft.row
      simp only [h, hd]
    unfold HotelAgent.createRequest RequestDraft.event
    rw [hrow]
    simp only [h, hd]
  unfold HotelAgent.finishTurn
  rw [hdraft]
  cases hd : requestDraft u s r with
  | none => rfl
  | some d =>
      obtain ⟨hguest, _⟩ := requestDraft_eq_some hd
      simp only [Option.map_some]
      rw [hcreate d (by rw [hguest])]

/-- The guest's stay with this id, from the guest's own bookings. -/
theorem checkedInBooking_eq (db : Db) (guest : User) (id : Uuid) :
    checkedInBooking db guest id
      = ((bookingsOf db fun g => g = guest.id).find? fun b => b.id = id).filter
          fun b => b.status = .checkedIn := by
  have hown : (bookingsOf db fun g => g = guest.id).find? (fun b => b.id = id)
      = (db.bookings.find? id).filter fun b => b.guestId = guest.id := by
    unfold bookingsOf
    rw [← Table.find?_filter]
  rw [hown]
  unfold checkedInBooking
  cases db.bookings.find? id with
  | none => rfl
  | some b =>
      simp only
      -- guest and status are asked in one query
      by_cases hguest : b.guestId = guest.id
      · rw [Option.filter_some, if_pos (decide_eq_true hguest), Option.filter_some]
        by_cases hstatus : b.status = .checkedIn
        · rw [if_pos ⟨hguest, hstatus⟩, if_pos (decide_eq_true hstatus)]
        · rw [if_neg fun h => hstatus h.2, if_neg (by simpa using hstatus)]
      · rw [if_neg fun h => hguest h.1, Option.filter_some, if_neg (by simpa using hguest)]
        rfl

/-- The room of a stay has the same number. -/
theorem SameToGuest.roomNumber {db db' : Db} (h : SameToGuest guest known db db')
    (booking : Option Booking) : HotelAgent.roomNumber db' booking
      = HotelAgent.roomNumber db booking := by
  have hnumber : ∀ a : Db, HotelAgent.roomNumber a booking
      = ((booking.bind fun b => (a.rooms.find? b.roomId).map Room.fixture).map Room.number).getD
          (txt "N/A") := by
    intro a
    unfold HotelAgent.roomNumber
    cases booking with
    | none => rfl
    | some b =>
        simp only [Option.bind_some]
        cases a.rooms.find? b.roomId with
        | none => rfl
        | some r => rfl
  rw [hnumber, hnumber]
  congr 2
  exact congrArg _ (funext fun b => fixture_find?_eq h.rooms b.roomId)

include hactive in
/-- **Starting a session.** -/
theorem SameToGuest.createSession (h : SameToGuest guest known w.db w'.db)
    (bookingId : Option Uuid) (fresh : SessionFresh)
    (hnew : ∀ s ∈ w.db.voiceSessions, s.id = fresh.id → s.guestId = guest.id)
    (hnew' : ∀ s ∈ w'.db.voiceSessions, s.id = fresh.id → s.guestId = guest.id) :
    DoneAlike guest known (createSession py w (.token guest.id) bookingId fresh)
      (createSession py w' (.token guest.id) bookingId fresh) := by
  have hstay : (fun id => checkedInBooking w'.db guest id)
      = fun id => checkedInBooking w.db guest id := by
    funext id
    rw [checkedInBooking_eq, checkedInBooking_eq, h.rows.bookings]
  have hbooking : bookingId.bind (checkedInBooking w'.db guest)
      = bookingId.bind (checkedInBooking w.db guest) := congrArg bookingId.bind hstay
  -- the account may differ in its logins, which a session does not read
  obtain ⟨u, hme⟩ := h.me
  obtain ⟨u', hme'⟩ := h.symm.me
  have hid : u.id = guest.id := id_of_identity hme.2
  have hid' : u'.id = guest.id := id_of_identity hme'.2
  unfold HotelAgent.createSession
  rw [requireUser_me hactive hme, requireUser_me hactive hme']
  simp only [newSession_eq hid, newSession_eq hid', checkedInBooking_of_id _ hid,
    checkedInBooking_of_id _ hid', hid, hid', hbooking]
  split
  · exact ⟨rfl, h⟩
  · have hinsert : Option.Rel (SameToGuest guest known)
        (w.db.insertSession (newSession guest
          ((bookingId.bind (checkedInBooking w.db guest)).map (·.id)) fresh))
        (w'.db.insertSession (newSession guest
          ((bookingId.bind (checkedInBooking w.db guest)).map (·.id)) fresh)) := by
      apply h.insertSession rfl ?_ hnew hnew'
      intro id hid
      obtain ⟨b, hb, rfl⟩ := Option.map_eq_some_iff.mp hid
      obtain ⟨key, _, hb⟩ := Option.bind_eq_some_iff.mp hb
      rw [checkedInBooking_eq] at hb
      obtain ⟨hb, _⟩ := Option.filter_eq_some_iff.mp hb
      obtain ⟨hmem, hown⟩ := List.mem_filter.mp (List.mem_of_find?_eq_some hb)
      exact ⟨b, hmem, rfl, of_decide_eq_true hown⟩
    rcases rel_cases hinsert with ⟨hf, hg⟩ | ⟨a, b, hf, hg, hab⟩
    · rw [hf, hg]
      exact ⟨rfl, h⟩
    · rw [hf, hg]
      simp only
      rw [hab.roomNumber]
      -- the same event, so the same happens to it
      generalize publish py fresh.produce _ _ _ = published
      cases published with
      | raised => exact ⟨rfl, hab⟩
      | accepted rec => exact ⟨rfl, hab⟩
      | refused => exact ⟨rfl, hab⟩

include hrole hactive

/-- The sessions that the guest sees are the own ones. -/
theorem getSession_eq {db : Db} {u : User} (hme : db.Account guest u) (pk : Uuid) :
    getSession db (.token guest.id) pk
      = match (db.voiceSessions.find? pk).filter fun s => s.guestId = guest.id with
        | none => .error .notFound
        | some s => .ok (u, s) := by
  have hid := id_of_identity hme.2
  have hguest : u.role = .guest := (role_of_identity hme.2).trans hrole
  unfold getSession
  rw [requireUser_me hactive hme]
  cases db.voiceSessions.find? pk with
  | none => rfl
  | some s =>
      simp only [Option.filter_some]
      -- a session of somebody else is a 404 for a guest
      by_cases hown : s.guestId = guest.id
      · rw [if_neg fun h => h.2 (hown.trans hid.symm), if_pos (decide_eq_true hown)]
      · rw [if_pos ⟨hguest, fun h => hown (h.trans hid)⟩, if_neg (by simpa using hown)]

/-- **Looking a session up**: not found in both, or found in both. -/
theorem SameToGuest.getSession {db db' : Db} (h : SameToGuest guest known db db') (pk : Uuid) :
    getSession db (.token guest.id) pk = .error .notFound
        ∧ getSession db' (.token guest.id) pk = .error .notFound
      ∨ ∃ u u' s s', db.Account guest u ∧ db'.Account guest u' ∧ OwnSession guest db pk s
        ∧ s'.columns = s.columns ∧ getSession db (.token guest.id) pk = .ok (u, s)
        ∧ getSession db' (.token guest.id) pk = .ok (u', s') := by
  obtain ⟨u, hme⟩ := h.me
  obtain ⟨u', hme'⟩ := h.symm.me
  rw [getSession_eq hrole hactive hme, getSession_eq hrole hactive hme']
  have hsame := (ownSession_eq db' guest.id pk).trans
    ((congrArg _ h.rows.sessions).trans (ownSession_eq db guest.id pk).symm)
  cases hfound : (db.voiceSessions.find? pk).filter fun s => s.guestId = guest.id with
  | none =>
      rw [hfound, Option.map_none, Option.map_eq_none_iff] at hsame
      rw [hsame]
      exact .inl ⟨rfl, rfl⟩
  | some s =>
      rw [hfound, Option.map_some] at hsame
      obtain ⟨s', hs', hcolumns⟩ := Option.map_eq_some_iff.mp hsame
      rw [hs']
      obtain ⟨hfind, hown⟩ := Option.filter_eq_some_iff.mp hfound
      exact .inr ⟨u, u', s, s', hme, hme', ⟨hfind, of_decide_eq_true hown⟩, hcolumns, rfl, rfl⟩

/-- **A turn up to the agent call.** -/
theorem SameToGuest.readTurn {db db' : Db} (h : SameToGuest guest known db db') (pk : Uuid)
    (req : TurnRequest) :
    (∃ answer, readTurn db (.token guest.id) pk req = .error answer
        ∧ readTurn db' (.token guest.id) pk req = .error answer)
      ∨ ∃ u u' s s' content, u.id = guest.id ∧ u'.id = guest.id ∧ OwnSession guest db pk s
        ∧ s'.columns = s.columns
        ∧ readTurn db (.token guest.id) pk req = .ok (u, s, content)
        ∧ readTurn db' (.token guest.id) pk req = .ok (u', s', content) := by
  unfold HotelAgent.readTurn
  rcases h.getSession hrole hactive pk with
    ⟨hs, hs'⟩ | ⟨u, u', s, s', hme, hme', hown, hcolumns, hs, hs'⟩
  · rw [hs, hs']
    exact .inl ⟨_, rfl, rfl⟩
  · have hid := id_of_identity hme.2
    have hid' := id_of_identity hme'.2
    have hstatus : s'.status = s.status := (congrArg VoiceSession.status hcolumns :)
    -- not found
    rw [hs, hs']
    simp only [hstatus]
    split
    · exact .inl ⟨_, rfl, rfl⟩
    · split
      · split
        · exact .inl ⟨_, rfl, rfl⟩
        · exact .inr ⟨u, u', s, s', _, hid, hid', hown, hcolumns, rfl, rfl⟩
      · split
        · exact .inl ⟨_, rfl, rfl⟩
        · exact .inr ⟨u, u', s, s', _, hid, hid', hown, hcolumns, rfl, rfl⟩

/-- **A turn.** -/
theorem SameToGuest.processTurn (h : SameToGuest guest known w.db w'.db) (pk : Uuid)
    (req : TurnRequest) (agent : AgentOutcome py) (fresh : SessionFresh)
    (hnew : ∀ r ∈ w.db.serviceRequests, r.id = fresh.id → r.guestId = guest.id)
    (hnew' : ∀ r ∈ w'.db.serviceRequests, r.id = fresh.id → r.guestId = guest.id) :
    DoneAlike guest known (processTurn w (.token guest.id) pk req agent fresh)
      (processTurn w' (.token guest.id) pk req agent fresh) := by
  unfold HotelAgent.processTurn
  rcases h.readTurn hrole hactive pk req with
    ⟨answer, hread, hread'⟩ | ⟨u, u', s, s', content, hid, hid', hown, hcolumns, hread, hread'⟩
  · rw [hread, hread']
    exact ⟨rfl, h⟩
  · have hkeys : s'.id = s.id := (congrArg VoiceSession.id hcolumns :)
    have hbooking : s'.bookingId = s.bookingId := (congrArg VoiceSession.bookingId hcolumns :)
    have hkey : OwnSession guest w.db s.id s := ⟨find?_of_readTurn hread, hown.2⟩
    rw [hread, hread']
    cases agent with
    | raises =>
        simp only [failTurn, hkeys]
        rcases rel_cases (h.saveSession hkey sameColumns_fail) with
          ⟨hf, hg⟩ | ⟨a, b, hf, hg, hab⟩
        · rw [hf, hg]
          exact ⟨rfl, h⟩
        · rw [hf, hg]
          exact ⟨rfl, hab⟩
    | replies r =>
        have hsave := h.saveSession hkey
          (sameColumns_turn hcolumns (turnMessages content r.text fresh.nowTs) r.tokensUsed
            r.ttsChars)
        simp only [saveTurn, hkeys, finishTurn_eq hid, finishTurn_eq hid']
        rcases rel_cases hsave with ⟨hf, hg⟩ | ⟨a, b, hf, hg, hab⟩
        · rw [hf, hg]
          exact ⟨rfl, h⟩
        · rw [hf, hg]
          simp only
          -- the saved row still is the guest's, with the booking
          obtain ⟨row, hrow, _, hsaved, _⟩ := Db.saveSession_eq_some hf
          obtain rfl : s = row := Option.some.inj (hkey.1.symm.trans hrow)
          have hrequests := (saveSession_tables hf).2.2.2.2
          have hrequests' := (saveSession_tables hg).2.2.2.2
          apply SameToGuest.finishTurn hab hcolumns
            ⟨hsaved, by rw [SessionWrite.guestId_eq]; exact hown.2⟩ (SessionWrite.bookingId_eq _ s)
          · show ∀ r ∈ a.serviceRequests, _
            rw [hrequests]
            exact hnew
          · show ∀ r ∈ b.serviceRequests, _
            rw [hrequests']
            exact hnew'

/-- **Ending a session.** -/
theorem SameToGuest.endSession (h : SameToGuest guest known w.db w'.db) (pk : Uuid)
    (fresh : SessionFresh) :
    DoneAlike guest known (endSession py w (.token guest.id) pk fresh)
      (endSession py w' (.token guest.id) pk fresh) := by
  unfold HotelAgent.endSession readEnd
  rcases h.getSession hrole hactive pk with
    ⟨hs, hs'⟩ | ⟨u, u', s, s', _, _, hown, hcolumns, hs, hs'⟩
  · rw [hs, hs']
    exact ⟨rfl, h⟩
  · have hid : s'.id = s.id := (congrArg VoiceSession.id hcolumns :)
    have hstatus : s'.status = s.status := (congrArg VoiceSession.status hcolumns :)
    have hstart : s'.startedAt = s.startedAt := (congrArg VoiceSession.startedAt hcolumns :)
    have htokens : s'.tokensUsed = s.tokensUsed := (congrArg VoiceSession.tokensUsed hcolumns :)
    have hkey : OwnSession guest w.db s.id s := by
      rw [Table.key_of_find? hown.1]
      exact hown
    rw [hs, hs']
    -- 400 where it has already ended
    by_cases hended : s.status ≠ .active
    · simp only [hstatus, if_pos hended]
      exact ⟨rfl, h⟩
    · have hevent : completedEvent s' fresh = completedEvent s fresh := by
        unfold completedEvent
        rw [hid, hstart, htokens]
      simp only [hstatus, if_neg hended, saveEnd, hid, hstart]
      have hsave := h.saveSession hkey
        (sameColumns_complete fresh.now (durationSeconds s.startedAt fresh.now))
      rcases rel_cases hsave with ⟨hf, hg⟩ | ⟨a, b, hf, hg, hab⟩
      · rw [hf, hg]
        exact ⟨rfl, h⟩
      · rw [hf, hg]
        simp only [finishEnd, hevent, hstart]
        split
        · exact ⟨rfl, hab⟩
        · exact ⟨rfl, hab⟩

end

end HotelAgent
