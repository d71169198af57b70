/-
  HotelAgent.Api.BookingInvariants — prices and room occupancy over whole runs.

  Two invariants of the booking API, each with the exact condition on a run
  under which it is kept:

      priced_iff_keepsPrice       total_price = price of the room * nights
      occupancy_iff_keepsOccupancy
                                  a room is OCCUPIED iff a booking of it is
                                  checked in

  Requests are handled one at a time here; the races are in
  `HotelAgent.Api.BookingRaces`.
-/
import HotelAgent.Api.Bookings

namespace HotelAgent

open Lib

/-! ## §1. What a call does to the database. -/

/-- A POST inserts one row or changes nothing; a new booking is pending, so the
signal leaves the rooms alone. -/
theorem createBooking_cases (py : Python) (w : World) (caller : Caller) (body : BookingBody)
    (fresh : Fresh) :
    (createBooking py w caller body fresh).1.db = w.db
      ∨ ∃ draft db, readCreate w.db caller body = .ok draft
        ∧ w.db.insertBooking (draft.row fresh) = some db
        ∧ (createBooking py w caller body fresh).1.db = db := by
  unfold createBooking
  cases hread : readCreate w.db caller body with
  | error answer => exact .inl rfl
  | ok draft =>
      simp only
      cases hins : w.db.insertBooking (draft.row fresh) with
      | none => exact .inl rfl
      | some db =>
          refine .inr ⟨draft, db, rfl, hins, ?_⟩
          unfold onBookingSave
          simp only [if_true]
          split <;> rfl

/-- A PUT or PATCH saves the stored row with the body's fields and then sets a
room's status, or changes nothing. -/
theorem updateBooking_cases (py : Python) (w : World) (caller : Caller) (pk : Uuid)
    (part : Bool) (body : BookingBody) (fresh : Fresh) :
    ((updateBooking py w caller pk part body fresh).1.db = w.db
        ∧ ∀ b, readUpdate w.db caller pk part body = .ok b →
          ¬ w.db.AdmitsBooking (body.applyTo b))
      ∨ ∃ b db, readUpdate w.db caller pk part body = .ok b
        ∧ w.db.saveBooking (body.applyTo b) = some db
        ∧ (updateBooking py w caller pk part body fresh).1.db = syncRoom db (body.applyTo b) := by
  unfold updateBooking
  cases hread : readUpdate w.db caller pk part body with
  | error answer => exact .inl ⟨rfl, fun b hb => absurd hb (by simp)⟩
  | ok b =>
      simp only
      cases hsave : w.db.saveBooking (body.applyTo b) with
      | none =>
          refine .inl ⟨rfl, fun b' hb' => ?_⟩
          injection hb' with hb'
          rw [← hb']
          exact Db.saveBooking_eq_none_iff.mp hsave
      | some db => exact .inr ⟨b, db, rfl, hsave, rfl⟩

/-- An INSERT is a save under a new key. -/
theorem insertBooking_eq_some {db db' : Db} {b : Booking} (h : db.insertBooking b = some db') :
    ¬ db.bookings.Has b.id ∧ db.saveBooking b = some db' := by
  unfold Db.insertBooking at h
  by_cases hhas : db.bookings.Has b.id
  · rw [if_pos hhas] at h
    exact absurd h (by simp)
  · rw [if_neg hhas] at h
    exact ⟨hhas, h⟩

/-! ## §2. A booking's price. -/

/-- The price of a room. -/
def Db.priceOf (db : Db) (roomId : Uuid) : Option Int :=
  (db.rooms.find? roomId).map (·.pricePerNight)

/-- `total_price = room.price_per_night * nights`, for the room the booking
points to. -/
def Priced (db : Db) (b : Booking) : Prop :=
  (db.priceOf b.roomId).map (· * b.nights) = some b.totalPrice

instance (db : Db) (b : Booking) : Decidable (Priced db b) :=
  inferInstanceAs (Decidable (_ = _))

/-- **The price invariant.** -/
def AllPriced (w : World) : Prop := ∀ b ∈ w.db.bookings, Priced w.db b

/-- Setting a room's status leaves every price. -/
@[simp] theorem priceOf_setRoomStatus (db : Db) (roomId : Uuid) (status : RoomStatus)
    (id : Uuid) : (db.setRoomStatus roomId status).priceOf id = db.priceOf id := by
  unfold Db.priceOf Db.setRoomStatus
  rw [Table.find?_updateWhere, Option.map_map]
  congr 1
  funext r
  simp only [Function.comp_apply]
  split <;> rfl

@[simp] theorem priceOf_syncRoom (db : Db) (b : Booking) (id : Uuid) :
    (syncRoom db b).priceOf id = db.priceOf id := by
  unfold syncRoom
  cases b.status <;> simp

/-- The calls that guests and staff make to `BookingViewSet`. -/
inductive BookingCall where
  | create (caller : Caller) (body : BookingBody) (fresh : Fresh)
  | update (caller : Caller) (pk : Uuid) (part : Bool) (body : BookingBody) (fresh : Fresh)

/-- One call after the other. -/
def bookingCallStep (py : Python) (w : World) : BookingCall → World
  | .create caller body fresh => (createBooking py w caller body fresh).1
  | .update caller pk part body fresh => (updateBooking py w caller pk part body fresh).1

/-- Two stays cost the same: price of the room times nights. -/
def CostsTheSame (db : Db) (b c : Booking) : Prop :=
  (db.priceOf b.roomId).map (· * b.nights) = (db.priceOf c.roomId).map (· * c.nights)

/-- The condition on one call: an update that the database admits asks for a stay
that costs what the booked one does. -/
def KeepsPrice (w : World) : BookingCall → Prop
  | .create _ _ _ => True
  | .update caller pk part body _ =>
    ∀ b, readUpdate w.db caller pk part body = .ok b → w.db.AdmitsBooking (body.applyTo b) →
      CostsTheSame w.db (body.applyTo b) b

/-- An update leaves `total_price` alone, so the booking stays priced only where the
stay costs the same. -/
theorem priced_applyTo_iff {db : Db} {b : Booking} (h : Priced db b) (body : BookingBody) :
    Priced db (body.applyTo b) ↔ CostsTheSame db (body.applyTo b) b := by
  unfold Priced at h
  unfold Priced CostsTheSame
  rw [h, BookingBody.applyTo_totalPrice]

/-- Saving a booking keeps the rooms, so it keeps who is priced. -/
theorem priced_of_saveBooking {db db' : Db} {row : Booking}
    (h : db.saveBooking row = some db') (b : Booking) : Priced db' b ↔ Priced db b := by
  obtain ⟨_, _, _, hrooms, _, _⟩ := Db.saveBooking_eq_some_iff.mp h
  unfold Priced Db.priceOf
  rw [hrooms]

/-- The row that a POST inserts has its price. -/
theorem priced_row {db : Db} {caller : Caller} {body : BookingBody} {draft : BookingDraft}
    (h : readCreate db caller body = .ok draft) (fresh : Fresh) :
    Priced db (draft.row fresh) := by
  have hfind := Table.find?_of_mem (readCreate_ok h).1
  unfold Priced Db.priceOf BookingDraft.row
  simp only
  rw [hfind]
  rfl

/-- **One call.** -/
theorem allPriced_step_iff (py : Python) {w : World} (h : AllPriced w) (c : BookingCall) :
    AllPriced (bookingCallStep py w c) ↔ KeepsPrice w c := by
  cases c with
  | create caller body fresh =>
      refine ⟨fun _ => trivial, fun _ => ?_⟩
      unfold bookingCallStep AllPriced
      simp only
      rcases createBooking_cases py w caller body fresh with heq | ⟨draft, db, hread, hins, heq⟩
      · rw [heq]
        exact h
      · obtain ⟨_, hsave⟩ := insertBooking_eq_some hins
        obtain ⟨_, hrows, _⟩ := Db.saveBooking_eq_some_iff.mp hsave
        rw [heq, hrows]
        intro b hb
        rw [priced_of_saveBooking hsave]
        rcases Table.mem_save.mp hb with rfl | ⟨hb, _⟩
        · exact priced_row hread fresh
        · exact h b hb
  | update caller pk part body fresh =>
      unfold bookingCallStep KeepsPrice AllPriced
      simp only
      rcases updateBooking_cases py w caller pk part body fresh with
        ⟨heq, hnone⟩ | ⟨b, db, hread, hsave, heq⟩
      · rw [heq]
        exact ⟨fun _ b hb hadm => absurd hadm (hnone b hb), fun _ => h⟩
      · obtain ⟨hadm, hrows, _⟩ := Db.saveBooking_eq_some_iff.mp hsave
        -- the room's new status is no part of a price
        have hpriced : ∀ x, Priced (syncRoom db (body.applyTo b)) x ↔ Priced w.db x := by
          intro x
          rw [← priced_of_saveBooking hsave]
          unfold Priced
          rw [priceOf_syncRoom]
        have hiff := priced_applyTo_iff (h b (readUpdate_ok hread).1) body
        rw [heq, bookings_syncRoom, hrows]
        constructor
        · intro hafter b' hb' _
          rw [hread] at hb'
          injection hb' with hb'
          rw [← hb', ← hiff, ← hpriced]
          exact hafter _ (Table.mem_save.mpr (.inl rfl))
        · intro hguard x hx
          rw [hpriced]
          rcases Table.mem_save.mp hx with rfl | ⟨hx, _⟩
          · exact hiff.mpr (hguard b hread hadm)
          · exact h x hx

/-- **Prices match stays, exactly.**  From a database whose bookings are all
priced, one without bookings among them, every state of a run of POSTs, PUTs and
PATCHes has all bookings priced if and only if every update of the run asks for a
stay that costs what the booked one does. -/
theorem priced_iff_keepsPrice (py : Python) (w : World) (h : AllPriced w)
    (cs : List BookingCall) :
    AllStates (bookingCallStep py) AllPriced w cs
      ↔ AllSteps (bookingCallStep py) KeepsPrice w cs :=
  allStates_iff_allSteps (K := fun _ => True) (P := AllPriced) (fun _ _ _ => trivial)
    (fun _ c _ hw => allPriced_step_iff py hw c) trivial h cs

/-- The demo guest books room `roomId` from day `a` to day `b` of January. -/
def demoBooking (n : Nat) (roomId : Uuid) (a b : Fin 31) : BookingCall :=
  .create (.token 1)
    { BookingBody.empty with
      roomId := some roomId, checkIn := some (january a), checkOut := some (january b) }
    (demoFresh n)

/-- The demo guest sends PATCH with a new end of the stay. -/
def demoExtend (n : Nat) (b : Fin 31) : BookingCall :=
  .update (.token 1) n true { BookingBody.empty with checkOut := some (january b) }
    (demoFresh 0)

theorem priced_after_booking :
    AllPriced demoHotel
      ∧ AllStates (bookingCallStep plainPython) AllPriced demoHotel [demoBooking 7 10 4 6] :=
  ⟨fun b hb => absurd hb (Table.not_mem_empty b),
    (priced_iff_keepsPrice plainPython demoHotel
      (fun b hb => absurd hb (Table.not_mem_empty b)) [demoBooking 7 10 4 6]).mpr
      ⟨trivial, trivial⟩⟩

/-- Two nights at 100.00, extended to five: the price stays 200.00. -/
theorem extended_stay_keeps_old_price :
    ¬ ∀ (py : Python) (w : World), w.db.bookings = .empty → ∀ cs : List BookingCall,
      AllStates (bookingCallStep py) AllPriced w cs := by
  intro h
  have hrun := (h plainPython demoHotel rfl [demoBooking 7 10 4 6, demoExtend 7 9]).last
  have hall : ∀ b ∈ (run (bookingCallStep plainPython) demoHotel
      [demoBooking 7 10 4 6, demoExtend 7 9]).db.bookings.rows,
      Priced (run (bookingCallStep plainPython) demoHotel
        [demoBooking 7 10 4 6, demoExtend 7 9]).db b := hrun
  revert hall
  decide +kernel

/-! ## §3. Rooms and the bookings checked in. -/

/-- Some booking of the room is checked in. -/
def CheckedIn (db : Db) (roomId : Uuid) : Prop :=
  ∃ b ∈ db.bookings.rows, b.roomId = roomId ∧ b.status = .checkedIn

/-- Some booking of the room other than `bookingId` is checked in. -/
def OtherCheckedIn (db : Db) (bookingId roomId : Uuid) : Prop :=
  ∃ b ∈ db.bookings.rows, b.id ≠ bookingId ∧ b.roomId = roomId ∧ b.status = .checkedIn

instance (db : Db) (roomId : Uuid) : Decidable (CheckedIn db roomId) :=
  inferInstanceAs (Decidable (∃ b ∈ db.bookings.rows, _))

instance (db : Db) (bookingId roomId : Uuid) : Decidable (OtherCheckedIn db bookingId roomId) :=
  inferInstanceAs (Decidable (∃ b ∈ db.bookings.rows, _))

/-- **The occupancy invariant.** -/
def Occupancy (w : World) : Prop :=
  ∀ r ∈ w.db.rooms, r.status = .occupied ↔ CheckedIn w.db r.id

/-- Everything that happens to bookings and rooms. -/
inductive BookingOp where
  | call (c : BookingCall)
  | destroy (caller : Caller) (pk : Uuid)
  | move (pk : Uuid) (status : BookingStatus) (fresh : Fresh)
  | cleaned (roomId : Uuid)

/-- One operation after the other. -/
def bookingOpStep (py : Python) (w : World) : BookingOp → World
  | .call c => bookingCallStep py w c
  | .destroy caller pk => (destroyBooking w caller pk).1
  | .move pk status fresh => adminMove py w pk status fresh
  | .cleaned roomId => finishCleaning w roomId

/-- The condition on saving `row` over the stored booking `b`: if `b` is checked
in and `row` is not, or not there, then another booking is checked in where `b`
was; and if `row` is finished, no other booking is checked in where `row` is. -/
def SaveKeepsOccupancy (db : Db) (b row : Booking) : Prop :=
  (b.status = .checkedIn → ¬ (row.status = .checkedIn ∧ row.roomId = b.roomId) →
      ¬ ((row.status = .checkedOut ∨ row.status = .cancelled) ∧ row.roomId = b.roomId) →
      OtherCheckedIn db b.id b.roomId)
    ∧ (row.status = .checkedOut ∨ row.status = .cancelled →
      ¬ OtherCheckedIn db b.id row.roomId)

/-- The condition on one operation. -/
def KeepsOccupancy (w : World) : BookingOp → Prop
  | .call (.create _ _ _) => True
  | .call (.update caller pk part body _) =>
    ∀ b, readUpdate w.db caller pk part body = .ok b → w.db.AdmitsBooking (body.applyTo b) →
      SaveKeepsOccupancy w.db b (body.applyTo b)
  | .destroy caller pk =>
    ∀ b, getBooking w.db caller pk = .ok b → ¬ w.db.Protected b.id → b.status = .checkedIn →
      OtherCheckedIn w.db b.id b.roomId
  | .move pk status _ =>
    ∀ b, w.db.bookings.find? pk = some b → legalMove b.status status = true →
      SaveKeepsOccupancy w.db b { b with status := status }
  | .cleaned _ => True

/-- The status that the signal for `b` leaves the room `r` in. -/
def syncedStatus (b : Booking) (r : Room) : RoomStatus :=
  if r.id = b.roomId then
    match b.status with
    | .checkedIn => .occupied
    | .checkedOut => .cleaning
    | .cancelled => .cleaning
    | .pending => r.status
    | .confirmed => r.status
  else r.status

/-- The rooms after the signal. -/
theorem mem_rooms_syncRoom {db : Db} {b : Booking} {r : Room} :
    r ∈ (syncRoom db b).rooms ↔ ∃ x ∈ db.rooms, r = { x with status := syncedStatus b x } := by
  unfold syncRoom syncedStatus
  cases b.status with
  | pending => simp
  | confirmed => simp
  | checkedIn =>
      rw [Db.mem_rooms_setRoomStatus]
      refine exists_congr fun x => and_congr_right fun _ => ?_
      split <;> exact Iff.rfl
  | checkedOut =>
      rw [Db.mem_rooms_setRoomStatus]
      refine exists_congr fun x => and_congr_right fun _ => ?_
      split <;> exact Iff.rfl
  | cancelled =>
      rw [Db.mem_rooms_setRoomStatus]
      refine exists_congr fun x => and_congr_right fun _ => ?_
      split <;> exact Iff.rfl

/-- A room has a booking checked in: the one in question, or another. -/
theorem checkedIn_iff_self_or_other {db : Db} {b : Booking} (hb : b ∈ db.bookings)
    (roomId : Uuid) :
    CheckedIn db roomId
      ↔ (b.roomId = roomId ∧ b.status = .checkedIn) ∨ OtherCheckedIn db b.id roomId := by
  constructor
  · intro h
    obtain ⟨c, hc, hroom, hstatus⟩ := h
    by_cases hid : c.id = b.id
    · have := Table.eq_of_key_eq hc hb hid
      subst this
      exact .inl ⟨hroom, hstatus⟩
    · exact .inr ⟨c, hc, hid, hroom, hstatus⟩
  · intro h
    rcases h with ⟨hroom, hstatus⟩ | ⟨c, hc, _, hroom, hstatus⟩
    · exact ⟨b, hb, hroom, hstatus⟩
    · exact ⟨c, hc, hroom, hstatus⟩

/-- The same after the booking's row was saved. -/
theorem checkedIn_save {db db' : Db} {row : Booking}
    (hrows : db'.bookings = db.bookings.save row) (roomId : Uuid) :
    CheckedIn db' roomId
      ↔ (row.roomId = roomId ∧ row.status = .checkedIn) ∨ OtherCheckedIn db row.id roomId := by
  unfold CheckedIn
  rw [hrows]
  constructor
  · intro h
    obtain ⟨c, hc, hroom, hstatus⟩ := h
    rcases Table.mem_save.mp hc with rfl | ⟨hc, hid⟩
    · exact .inl ⟨hroom, hstatus⟩
    · exact .inr ⟨c, hc, hid, hroom, hstatus⟩
  · intro h
    rcases h with ⟨hroom, hstatus⟩ | ⟨c, hc, hid, hroom, hstatus⟩
    · exact ⟨row, Table.mem_save.mpr (.inl rfl), hroom, hstatus⟩
    · exact ⟨c, Table.mem_save.mpr (.inr ⟨hc, hid⟩), hroom, hstatus⟩

/-- **Occupancy after a save and its signal**, room by room. -/
theorem occupancy_syncRoom_iff {db db' : Db} {row : Booking} (h : db.saveBooking row = some db')
    (log : List Record) :
    Occupancy { db := syncRoom db' row, log := log }
      ↔ ∀ r ∈ db.rooms, syncedStatus row r = .occupied
          ↔ (row.roomId = r.id ∧ row.status = .checkedIn) ∨ OtherCheckedIn db row.id r.id := by
  obtain ⟨_, hrows, _, hrooms, _⟩ := Db.saveBooking_eq_some_iff.mp h
  have hin : ∀ roomId, CheckedIn (syncRoom db' row) roomId ↔ CheckedIn db' roomId := by
    intro roomId
    unfold CheckedIn
    rw [bookings_syncRoom]
  unfold Occupancy
  simp only [mem_rooms_syncRoom, hin, checkedIn_save hrows, hrooms]
  constructor
  · intro hall r hr
    exact hall _ ⟨r, hr, rfl⟩
  · intro hall r hr
    obtain ⟨x, hx, rfl⟩ := hr
    exact hall x hx

/-- An occupied room stays occupied unless the signal is about a finished booking
of it. -/
theorem syncedStatus_occupied {row : Booking} {r : Room} (hocc : r.status = .occupied)
    (hfin : ¬ ((row.status = .checkedOut ∨ row.status = .cancelled) ∧ row.roomId = r.id)) :
    syncedStatus row r = .occupied := by
  unfold syncedStatus
  split
  next heq =>
    cases hs : row.status with
    | checkedIn => rfl
    | checkedOut => exact absurd ⟨.inl hs, heq.symm⟩ hfin
    | cancelled => exact absurd ⟨.inr hs, heq.symm⟩ hfin
    | pending => exact hocc
    | confirmed => exact hocc
  next => exact hocc

/-- A finished booking sends its room to be cleaned. -/
theorem syncedStatus_cleaning {row : Booking} {r : Room} (hroom : r.id = row.roomId)
    (hfin : row.status = .checkedOut ∨ row.status = .cancelled) :
    syncedStatus row r = .cleaning := by
  unfold syncedStatus
  rw [if_pos hroom]
  rcases hfin with hs | hs <;> rw [hs]

/-- A signal that says nothing about the room leaves its status. -/
theorem syncedStatus_untouched {row : Booking} {r : Room}
    (h : r.id = row.roomId → row.status = .pending ∨ row.status = .confirmed) :
    syncedStatus row r = r.status := by
  unfold syncedStatus
  split
  next heq => rcases h heq with hs | hs <;> rw [hs]
  next => rfl

/-- The occupancy of one room before a save over `b`. -/
theorem occupied_iff_self_or_other {w : World} (hocc : Occupancy w) {b : Booking}
    (hb : b ∈ w.db.bookings) {r : Room} (hr : r ∈ w.db.rooms) :
    r.status = .occupied
      ↔ (b.roomId = r.id ∧ b.status = .checkedIn) ∨ OtherCheckedIn w.db b.id r.id :=
  (hocc r hr).trans (checkedIn_iff_self_or_other hb r.id)

/-- Where the signal leaves the room alone, `b` may only leave it to another
booking. -/
theorem untouched_iff {w : World} (hocc : Occupancy w) {b row : Booking}
    (hb : b ∈ w.db.bookings) {r : Room} (hr : r ∈ w.db.rooms)
    (hstay : r.id = row.roomId → row.status = .pending ∨ row.status = .confirmed)
    (hleave : b.roomId = r.id → b.status = .checkedIn → OtherCheckedIn w.db b.id r.id) :
    syncedStatus row r = .occupied
      ↔ (row.roomId = r.id ∧ row.status = .checkedIn) ∨ OtherCheckedIn w.db b.id r.id := by
  rw [syncedStatus_untouched hstay, occupied_iff_self_or_other hocc hb hr]
  constructor
  · intro h
    rcases h with hself | hother
    · exact .inr (hleave hself.1 hself.2)
    · exact .inr hother
  · intro h
    rcases h with ⟨hroom, hin⟩ | hother
    · -- `row` is not checked in where it is
      rcases hstay hroom.symm with hs | hs <;> rw [hs] at hin <;> exact absurd hin (by simp)
    · exact .inr hother

/-- **Saving over a stored booking.** -/
theorem occupancy_save_iff {w : World} (hocc : Occupancy w) {b row : Booking} {db' : Db}
    (hb : b ∈ w.db.bookings) (hid : row.id = b.id) (h : w.db.saveBooking row = some db')
    (log : List Record) :
    Occupancy { db := syncRoom db' row, log := log } ↔ SaveKeepsOccupancy w.db b row := by
  obtain ⟨hadm, _⟩ := Db.saveBooking_eq_some_iff.mp h
  rw [occupancy_syncRoom_iff h log, hid]
  constructor
  · intro hafter
    refine ⟨fun hin hnot hfin => ?_, fun hfin hother => ?_⟩
    · -- the room that `b` was in
      obtain ⟨r, hr, hroom⟩ := w.db.room_of_booking hb
      have hocc' : r.status = .occupied :=
        (occupied_iff_self_or_other hocc hb hr).mpr (.inl ⟨hroom.symm, hin⟩)
      have hsynced := syncedStatus_occupied hocc' (hroom ▸ hfin)
      rw [← hroom]
      rcases (hafter r hr).mp hsynced with ⟨hrow, hstatus⟩ | hother
      · exact absurd ⟨hstatus, hrow.trans hroom⟩ hnot
      · exact hother
    · -- the room that `row` is in
      obtain ⟨r, hr, hroom⟩ := hadm.1.2.1
      have := (hafter r hr).mpr (.inr (hroom ▸ hother))
      rw [syncedStatus_cleaning hroom hfin] at this
      exact absurd this (by simp)
  · intro hguard r hr
    obtain ⟨hleave, hfinish⟩ := hguard
    by_cases hroom : r.id = row.roomId
    · cases hs : row.status with
      | checkedIn =>
          have hsynced : syncedStatus row r = .occupied := by
            unfold syncedStatus
            rw [if_pos hroom, hs]
          exact ⟨fun _ => .inl ⟨hroom.symm, rfl⟩, fun _ => hsynced⟩
      | checkedOut =>
          rw [syncedStatus_cleaning hroom (.inl hs), hroom]
          simp [hfinish (.inl hs)]
      | cancelled =>
          rw [syncedStatus_cleaning hroom (.inr hs), hroom]
          simp [hfinish (.inr hs)]
      | pending =>
          rw [← hs]
          refine untouched_iff hocc hb hr (fun _ => .inl hs) fun hself hin => ?_
          rw [← hself]
          exact hleave hin (by simp [hs]) (by simp [hs])
      | confirmed =>
          rw [← hs]
          refine untouched_iff hocc hb hr (fun _ => .inr hs) fun hself hin => ?_
          rw [← hself]
          exact hleave hin (by simp [hs]) (by simp [hs])
    · refine untouched_iff hocc hb hr (fun heq => absurd heq hroom) fun hself hin => ?_
      have hne : ¬ row.roomId = b.roomId := fun heq => hroom (heq.trans hself).symm
      rw [← hself]
      exact hleave hin (fun h => hne h.2) (fun h => hne h.2)

/-- A POST keeps the occupancy. -/
theorem occupancy_createBooking (py : Python) {w : World} (hocc : Occupancy w) (caller : Caller)
    (body : BookingBody) (fresh : Fresh) :
    Occupancy (createBooking py w caller body fresh).1 := by
  unfold Occupancy
  rcases createBooking_cases py w caller body fresh with heq | ⟨draft, db, _, hins, heq⟩
  · rw [heq]
    exact hocc
  · obtain ⟨hnew, hsave⟩ := insertBooking_eq_some hins
    obtain ⟨_, hrows, _, hrooms, _⟩ := Db.saveBooking_eq_some_iff.mp hsave
    rw [heq]
    intro r hr
    rw [hrooms] at hr
    rw [checkedIn_save hrows, hocc r hr]
    -- the new row is pending, and no stored row has its key
    constructor
    · intro hin
      obtain ⟨c, hc, hroom, hstatus⟩ := hin
      exact .inr ⟨c, hc, fun hid => hnew ⟨c, hc, hid⟩, hroom, hstatus⟩
    · intro hin
      rcases hin with ⟨_, hpending⟩ | ⟨c, hc, _, hroom, hstatus⟩
      · exact absurd hpending (by simp [BookingDraft.row])
      · exact ⟨c, hc, hroom, hstatus⟩

/-- A PUT or PATCH saves over the booking that it reads. -/
theorem occupancy_updateBooking_iff (py : Python) {w : World} (hocc : Occupancy w)
    (caller : Caller) (pk : Uuid) (part : Bool) (body : BookingBody) (fresh : Fresh) :
    Occupancy (updateBooking py w caller pk part body fresh).1
      ↔ KeepsOccupancy w (.call (.update caller pk part body fresh)) := by
  unfold KeepsOccupancy
  simp only
  rcases updateBooking_cases py w caller pk part body fresh with
    ⟨heq, hnone⟩ | ⟨b, db, hread, hsave, heq⟩
  · -- refused: no booking was read, or the database does not admit the row
    refine ⟨fun _ b hb hadm => absurd hadm (hnone b hb), fun _ => ?_⟩
    unfold Occupancy
    rw [heq]
    exact hocc
  · obtain ⟨hadm, _⟩ := Db.saveBooking_eq_some_iff.mp hsave
    have hiff := occupancy_save_iff hocc (readUpdate_ok hread).1 (body.applyTo_id b) hsave w.log
    unfold Occupancy at hiff ⊢
    rw [heq, hiff]
    constructor
    · intro hguard b' hb' _
      rw [hread] at hb'
      injection hb' with hb'
      rw [← hb']
      exact hguard
    · intro hguard
      exact hguard b hread hadm

/-- A stored booking is admitted under any status: the constraints of the table do
not look at it. -/
theorem Db.admitsBooking_withStatus (db : Db) {b : Booking} (hb : b ∈ db.bookings)
    (status : BookingStatus) : db.AdmitsBooking { b with status := status } :=
  ⟨db.booking_ok b hb, fun c hc heq => db.booking_code c hc b hb heq⟩

/-- The admin form saves over the booking that it shows. -/
theorem occupancy_adminMove_iff (py : Python) {w : World} (hocc : Occupancy w) (pk : Uuid)
    (status : BookingStatus) (fresh : Fresh) :
    Occupancy (adminMove py w pk status fresh) ↔ KeepsOccupancy w (.move pk status fresh) := by
  unfold KeepsOccupancy adminMove
  simp only
  cases hfind : w.db.bookings.find? pk with
  | none => exact ⟨fun _ b hb => absurd hb (by simp), fun _ => hocc⟩
  | some b =>
      simp only [Option.some.injEq, forall_eq']
      obtain ⟨hb, _⟩ := Table.find?_eq_some_iff.mp hfind
      by_cases hlegal : legalMove b.status status = true
      · rw [if_pos hlegal]
        cases hsave : w.db.saveBooking { b with status := status } with
        | none =>
            exact absurd (w.db.admitsBooking_withStatus hb status)
              (Db.saveBooking_eq_none_iff.mp hsave)
        | some db =>
            have hid : ({ b with status := status } : Booking).id = b.id := rfl
            have hiff := occupancy_save_iff hocc hb hid hsave w.log
            simp only [hlegal, forall_const]
            exact hiff
      · rw [if_neg hlegal]
        exact ⟨fun _ hl => absurd hl hlegal, fun _ => hocc⟩

/-- After a DELETE the rooms in use are those that another booking uses. -/
theorem checkedIn_erase {db db' : Db} {bookingId : Uuid}
    (hrows : db'.bookings = db.bookings.erase bookingId) (roomId : Uuid) :
    CheckedIn db' roomId ↔ OtherCheckedIn db bookingId roomId := by
  unfold CheckedIn OtherCheckedIn
  rw [hrows]
  refine exists_congr fun c => ?_
  rw [← Table.mem_def, Table.mem_erase, Table.mem_def, and_assoc]

/-- A DELETE sends no signal: the room keeps its status. -/
theorem occupancy_destroyBooking_iff {w : World} (hocc : Occupancy w) (caller : Caller)
    (pk : Uuid) :
    Occupancy (destroyBooking w caller pk).1 ↔ KeepsOccupancy w (.destroy caller pk) := by
  unfold KeepsOccupancy destroyBooking
  simp only
  cases hget : getBooking w.db caller pk with
  | error answer => exact ⟨fun _ b hb => absurd hb (by simp), fun _ => hocc⟩
  | ok b =>
      simp only [Except.ok.injEq, forall_eq']
      have hb := (getBooking_ok hget).1
      cases hdel : w.db.deleteBooking b.id with
      | none =>
          -- a service request or a voice session points to the booking
          refine ⟨fun _ hfree => ?_, fun _ => hocc⟩
          unfold Db.deleteBooking at hdel
          rw [dif_neg hfree] at hdel
          exact absurd hdel (by simp)
      | some db =>
          obtain ⟨hfree, hrows, _, hrooms, _⟩ := Db.deleteBooking_eq_some hdel
          simp only [hfree, not_false_eq_true, forall_const]
          unfold Occupancy
          simp only [hrooms, checkedIn_erase hrows]
          constructor
          · intro hall hin
            obtain ⟨r, hr, hroom⟩ := w.db.room_of_booking hb
            rw [← hroom]
            exact (hall r hr).mp ((hocc r hr).mpr ⟨b, hb, hroom.symm, hin⟩)
          · intro hguard r hr
            rw [hocc r hr, checkedIn_iff_self_or_other hb r.id]
            refine ⟨fun h => h.elim (fun hself => ?_) id, .inr⟩
            rw [← hself.1]
            exact hguard hself.2

/-- A room that is being cleaned has nobody in it, before and after. -/
theorem occupancy_finishCleaning {w : World} (hocc : Occupancy w) (roomId : Uuid) :
    Occupancy (finishCleaning w roomId) := by
  unfold finishCleaning
  split
  · -- no such room
    exact hocc
  next r hfind =>
    split
    next hclean =>
      intro x hx
      obtain ⟨y, hy, rfl⟩ := Db.mem_rooms_setRoomStatus.mp hx
      have hyocc := hocc y hy
      by_cases hid : y.id = roomId
      · have hyr : y = r := by
          obtain ⟨hrmem, hrid⟩ := Table.find?_eq_some_iff.mp hfind
          exact Table.eq_of_key_eq hy hrmem (hid.trans hrid.symm)
        rw [if_pos hid]
        rw [hyr, hclean] at hyocc
        rw [hyr]
        show RoomStatus.available = .occupied ↔ CheckedIn w.db r.id
        simpa using hyocc
      · rw [if_neg hid]
        exact hyocc
    next =>
      -- the room is not being cleaned: nothing happens
      exact hocc

/-- **One operation.** -/
theorem occupancy_step_iff (py : Python) {w : World} (hocc : Occupancy w) (op : BookingOp) :
    Occupancy (bookingOpStep py w op) ↔ KeepsOccupancy w op := by
  cases op with
  | call c =>
      cases c with
      | create caller body fresh =>
          exact ⟨fun _ => trivial, fun _ => occupancy_createBooking py hocc caller body fresh⟩
      | update caller pk part body fresh =>
          exact occupancy_updateBooking_iff py hocc caller pk part body fresh
  | move pk status fresh => exact occupancy_adminMove_iff py hocc pk status fresh
  | destroy caller pk => exact occupancy_destroyBooking_iff hocc caller pk
  | cleaned roomId => exact ⟨fun _ => trivial, fun _ => occupancy_finishCleaning hocc roomId⟩

/-- **Rooms are occupied as booked, exactly.**  From a state in which the rooms
that are OCCUPIED are those with a booking checked in, one without bookings and
with every room AVAILABLE among them, every state of a run is such a state if
and only if every operation of the run meets `KeepsOccupancy`. -/
theorem occupancy_iff_keepsOccupancy (py : Python) (w : World) (h : Occupancy w)
    (ops : List BookingOp) :
    AllStates (bookingOpStep py) Occupancy w ops
      ↔ AllSteps (bookingOpStep py) KeepsOccupancy w ops :=
  allStates_iff_allSteps (K := fun _ => True) (P := Occupancy) (fun _ _ _ => trivial)
    (fun _ op _ hw => occupancy_step_iff py hw op) trivial h ops

theorem occupancy_demoHotel : Occupancy demoHotel := by
  have h : ∀ r ∈ demoHotel.db.rooms.rows,
      r.status = .occupied ↔ CheckedIn demoHotel.db r.id := by decide
  exact h

theorem occupancy_after_booking :
    Occupancy demoHotel
      ∧ AllStates (bookingOpStep plainPython) Occupancy demoHotel
          [.call (demoBooking 7 10 4 6), .cleaned 10] :=
  ⟨occupancy_demoHotel, (occupancy_iff_keepsOccupancy plainPython demoHotel occupancy_demoHotel
    [.call (demoBooking 7 10 4 6), .cleaned 10]).mpr ⟨trivial, trivial, trivial⟩⟩

/-- Two bookings of room 10: the first guest checks in, the second one cancels. -/
def cancelOtherStay : List BookingOp :=
  [.call (demoBooking 7 10 4 6), .call (demoBooking 8 10 10 12),
    .move 7 .confirmed (demoFresh 0), .move 7 .checkedIn (demoFresh 0),
    .move 8 .cancelled (demoFresh 0)]

/-- The cancellation sets the occupied room to CLEANING. -/
theorem cancellation_empties_occupied_room :
    ¬ ∀ (py : Python) (w : World), w.db.bookings = .empty →
      (∀ r ∈ w.db.rooms.rows, r.status = .available) → ∀ ops : List BookingOp,
      AllStates (bookingOpStep py) Occupancy w ops := by
  intro h
  have hlast := (h plainPython demoHotel rfl (by decide) cancelOtherStay).last
  have hall : ∀ r ∈ (run (bookingOpStep plainPython) demoHotel cancelOtherStay).db.rooms.rows,
      r.status = .occupied
        ↔ CheckedIn (run (bookingOpStep plainPython) demoHotel cancelOtherStay).db r.id := hlast
  revert hall
  decide +kernel

end HotelAgent
