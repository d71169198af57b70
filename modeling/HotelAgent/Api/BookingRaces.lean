/-
  HotelAgent.Api.BookingRaces — double bookings under interleaved requests.

  A POST, PUT or PATCH is three steps here: it reads, it writes its row, it runs
  the signal.  Between two steps of one request any other request may take a
  step, and the admin site may move a booking.  The row of an update is written
  as a whole from the copy that was read.

  Main results:

      uninterrupted_create, uninterrupted_update
            three steps in a row are `createBooking` and `updateBooking`
      noDoubleBooking_iff_freeStay
            no two active bookings of a room ever overlap, if and only if each
            active row is written when no other active booking of its room
            overlaps it
-/
import HotelAgent.Api.BookingInvariants

namespace HotelAgent

open Lib

/-! ## §1. Overlapping stays. -/

/-- The half-open stays `[check_in, check_out)` share a night. -/
def Booking.Overlaps (a b : Booking) : Prop :=
  a.checkIn.ordinal < b.checkOut.ordinal ∧ b.checkIn.ordinal < a.checkOut.ordinal

instance (a b : Booking) : Decidable (a.Overlaps b) := inferInstanceAs (Decidable (_ ∧ _))

theorem Booking.Overlaps.symm {a b : Booking} (h : a.Overlaps b) : b.Overlaps a := ⟨h.2, h.1⟩

/-- Pending, confirmed or checked in. -/
def BookingStatus.active : BookingStatus → Bool
  | .pending => true
  | .confirmed => true
  | .checkedIn => true
  | .checkedOut => false
  | .cancelled => false

/-- No other active booking of the row's room overlaps it. -/
def FreeStay (db : Db) (row : Booking) : Prop :=
  ∀ b ∈ db.bookings.rows, b.id ≠ row.id → b.roomId = row.roomId → b.status.active = true →
    ¬ b.Overlaps row

instance (db : Db) (row : Booking) : Decidable (FreeStay db row) :=
  inferInstanceAs (Decidable (∀ b ∈ db.bookings.rows, _))

/-- **No double booking**: no two active bookings of one room overlap. -/
def NoDoubleBooking (db : Db) : Prop :=
  ∀ a ∈ db.bookings.rows, a.status.active = true → FreeStay db a

instance (db : Db) : Decidable (NoDoubleBooking db) :=
  inferInstanceAs (Decidable (∀ a ∈ db.bookings.rows, _))

/-- **Saving a row.** -/
theorem noDoubleBooking_save_iff {db db' : Db} (h : NoDoubleBooking db) {row : Booking}
    (hsave : db.saveBooking row = some db') :
    NoDoubleBooking db' ↔ (row.status.active = true → FreeStay db row) := by
  obtain ⟨_, hrows, _⟩ := Db.saveBooking_eq_some_iff.mp hsave
  unfold NoDoubleBooking FreeStay
  rw [hrows]
  constructor
  · intro hafter hact b hb hid hroom hbact
    exact hafter row (Table.mem_save.mpr (.inl rfl)) hact b (Table.mem_save.mpr (.inr ⟨hb, hid⟩))
      hid hroom hbact
  · intro hfree a ha haact b hb hid hroom hbact hover
    rcases Table.mem_save.mp ha with rfl | ⟨ha', haid⟩
    · rcases Table.mem_save.mp hb with rfl | ⟨hb', _⟩
      · exact hid rfl
      · exact hfree haact b hb' hid hroom hbact hover
    · rcases Table.mem_save.mp hb with rfl | ⟨hb', _⟩
      · -- overlapping is symmetric, so it is enough to look from the new row
        exact hfree hbact a ha' haid hroom.symm haact hover.symm
      · -- neither row is the new one
        exact h a ha' haact b hb' hid hroom hbact hover

/-! ## §2. Requests in flight. -/

/-- A request between two of its steps. -/
inductive InFlight where
  /-- A POST that has found its room AVAILABLE; next is its INSERT. -/
  | insert (row : Booking)
  /-- A PUT or PATCH with the body set on its copy; next is its UPDATE. -/
  | update (row : Booking)
  /-- The row is written; next is the signal. -/
  | signal (row : Booking) (created : Bool)

structure Traffic where
  world : World
  inFlight : List InFlight

inductive TrafficStep where
  | beginCreate (caller : Caller) (body : BookingBody) (fresh : Fresh)
  | beginUpdate (caller : Caller) (pk : Uuid) (part : Bool) (body : BookingBody)
  /-- The `k`-th request in flight takes its next step. -/
  | advance (k : Nat) (fresh : Fresh)
  | move (pk : Uuid) (status : BookingStatus) (fresh : Fresh)

/-- The next step of a request in flight. -/
def advance (py : Python) (w : World) (fresh : Fresh) : InFlight → World × List InFlight
  | .insert row =>
    -- the room may have been taken since it was read
    match w.db.insertBooking row with
    | none => (w, [])
    | some db => ({ w with db := db }, [.signal row true])
  | .update row =>
    -- every column is written, the status of the copy among them
    match w.db.saveBooking row with
    | none => (w, [])
    | some db => ({ w with db := db }, [.signal row false])
  | .signal row created => ((onBookingSave py w row created fresh).1, [])

/-- One step of the traffic. -/
def trafficStep (py : Python) (s : Traffic) : TrafficStep → Traffic
  | .beginCreate caller body fresh =>
    match readCreate s.world.db caller body with
    | .error _ => s
    | .ok draft => { s with inFlight := s.inFlight ++ [.insert (draft.row fresh)] }
  | .beginUpdate caller pk part body =>
    match readUpdate s.world.db caller pk part body with
    | .error _ => s
    | .ok b => { s with inFlight := s.inFlight ++ [.update (body.applyTo b)] }
  | .advance k fresh =>
    match s.inFlight[k]? with
    | none => s
    | some request =>
      let next := advance py s.world fresh request
      { world := next.1, inFlight := s.inFlight.eraseIdx k ++ next.2 }
  | .move pk status fresh => { s with world := adminMove py s.world pk status fresh }

/-- **Three steps without interruption are a POST.** -/
theorem uninterrupted_create (py : Python) (w : World) (caller : Caller) (body : BookingBody)
    (fresh : Fresh) :
    (run (trafficStep py) { world := w, inFlight := [] }
        [.beginCreate caller body fresh, .advance 0 fresh, .advance 0 fresh]).world
      = (createBooking py w caller body fresh).1 := by
  unfold createBooking
  simp only [run_cons, run_nil, trafficStep]
  cases hread : readCreate w.db caller body with
  | error answer => rfl
  | ok draft =>
      simp only [List.nil_append, List.getElem?_cons_zero, advance]
      cases hins : w.db.insertBooking (draft.row fresh) with
      | none => rfl
      | some db => rfl

/-- **Three steps without interruption are a PUT or PATCH.** -/
theorem uninterrupted_update (py : Python) (w : World) (caller : Caller) (pk : Uuid)
    (part : Bool) (body : BookingBody) (fresh : Fresh) :
    (run (trafficStep py) { world := w, inFlight := [] }
        [.beginUpdate caller pk part body, .advance 0 fresh, .advance 0 fresh]).world
      = (updateBooking py w caller pk part body fresh).1 := by
  unfold updateBooking
  simp only [run_cons, run_nil, trafficStep]
  cases hread : readUpdate w.db caller pk part body with
  | error answer => rfl
  | ok b =>
      simp only [List.nil_append, List.getElem?_cons_zero, advance]
      cases hsave : w.db.saveBooking (body.applyTo b) with
      | none => rfl
      | some db => rfl

/-! ## §3. No double booking, exactly. -/

/-- The row that the next step of a request writes, where the database takes it. -/
def InFlight.writes (db : Db) : InFlight → Option Booking
  | .insert row => if ¬ db.bookings.Has row.id ∧ db.AdmitsBooking row then some row else none
  | .update row => if db.AdmitsBooking row then some row else none
  | .signal _ _ => none

/-- The condition on one step: an active row is written only where its stay is
free. -/
def WritesFreeStay (s : Traffic) : TrafficStep → Prop
  | .advance k _ =>
    ∀ request, s.inFlight[k]? = some request → ∀ row, request.writes s.world.db = some row →
      row.status.active = true → FreeStay s.world.db row
  | _ => True

instance (s : Traffic) : ∀ i, Decidable (WritesFreeStay s i)
  | .advance k _ =>
      inferInstanceAs (Decidable (∀ request ∈ s.inFlight[k]?,
        ∀ row ∈ request.writes s.world.db, row.status.active = true → _))
  | .beginCreate _ _ _ => inferInstanceAs (Decidable True)
  | .beginUpdate _ _ _ _ => inferInstanceAs (Decidable True)
  | .move _ _ _ => inferInstanceAs (Decidable True)

/-- The booking rows after a request's step. -/
theorem advance_cases (py : Python) (w : World) (fresh : Fresh) (request : InFlight) :
    ((advance py w fresh request).1.db.bookings = w.db.bookings
        ∧ request.writes w.db = none)
      ∨ ∃ row db, request.writes w.db = some row ∧ w.db.saveBooking row = some db
        ∧ (advance py w fresh request).1.db = db := by
  cases request with
  | signal row created => exact .inl ⟨bookings_onBookingSave py w row created fresh, rfl⟩
  | update row =>
      unfold advance InFlight.writes
      simp only
      cases hsave : w.db.saveBooking row with
      | none => exact .inl ⟨rfl, if_neg (Db.saveBooking_eq_none_iff.mp hsave)⟩
      | some db =>
          exact .inr ⟨row, db, if_pos (Db.saveBooking_eq_some_iff.mp hsave).1, hsave, rfl⟩
  | insert row =>
      unfold advance InFlight.writes
      simp only
      cases hins : w.db.insertBooking row with
      | none =>
          refine .inl ⟨rfl, if_neg fun hok => ?_⟩
          unfold Db.insertBooking at hins
          rw [if_neg hok.1] at hins
          exact Db.saveBooking_eq_none_iff.mp hins hok.2
      | some db =>
          obtain ⟨hnew, hsave⟩ := insertBooking_eq_some hins
          exact .inr ⟨row, db, if_pos ⟨hnew, (Db.saveBooking_eq_some_iff.mp hsave).1⟩, hsave, rfl⟩

/-- Equal booking rows have equal double bookings. -/
theorem noDoubleBooking_congr {db db' : Db} (h : db'.bookings = db.bookings) :
    NoDoubleBooking db' ↔ NoDoubleBooking db := by
  unfold NoDoubleBooking FreeStay
  rw [h]

/-- A legal move starts from an active status. -/
theorem active_of_legalMove {s t : BookingStatus} (h : legalMove s t = true) :
    s.active = true := by
  cases s with
  | checkedOut => cases t <;> exact absurd h (by decide)
  | cancelled => cases t <;> exact absurd h (by decide)
  | _ => rfl

/-- **The admin site's moves keep stays apart.** -/
theorem noDoubleBooking_adminMove (py : Python) {w : World} (h : NoDoubleBooking w.db)
    (pk : Uuid) (status : BookingStatus) (fresh : Fresh) :
    NoDoubleBooking (adminMove py w pk status fresh).db := by
  unfold adminMove
  cases hfind : w.db.bookings.find? pk with
  | none => exact h
  | some b =>
      obtain ⟨hb, _⟩ := Table.find?_eq_some_iff.mp hfind
      simp only
      by_cases hlegal : legalMove b.status status = true
      · rw [if_pos hlegal]
        cases hsave : w.db.saveBooking { b with status := status } with
        | none => exact h
        | some db =>
            simp only
            rw [noDoubleBooking_congr (bookings_onBookingSave py _ _ false fresh),
              noDoubleBooking_save_iff h hsave]
            -- the booking was active, with the same room and dates
            intro _
            exact h b hb (active_of_legalMove hlegal)
      · rw [if_neg hlegal]
        exact h

/-- **One step.** -/
theorem noDoubleBooking_step_iff (py : Python) {s : Traffic} (h : NoDoubleBooking s.world.db)
    (i : TrafficStep) :
    NoDoubleBooking (trafficStep py s i).world.db ↔ WritesFreeStay s i := by
  cases i with
  | beginCreate caller body fresh =>
      refine ⟨fun _ => trivial, fun _ => ?_⟩
      unfold trafficStep
      simp only
      split <;> exact h
  | beginUpdate caller pk part body =>
      refine ⟨fun _ => trivial, fun _ => ?_⟩
      unfold trafficStep
      simp only
      split <;> exact h
  | move pk status fresh =>
      exact ⟨fun _ => trivial, fun _ => noDoubleBooking_adminMove py h pk status fresh⟩
  | advance k fresh =>
      unfold trafficStep WritesFreeStay
      simp only
      cases hk : s.inFlight[k]? with
      | none => exact ⟨fun _ request hr => absurd hr (by simp), fun _ => h⟩
      | some request =>
          simp only [Option.some.injEq, forall_eq']
          rcases advance_cases py s.world fresh request with
            ⟨hrows, hnone⟩ | ⟨row, db, hwrites, hsave, heq⟩
          · rw [noDoubleBooking_congr hrows, hnone]
            exact ⟨fun _ row hrow => absurd hrow (by simp), fun _ => h⟩
          · rw [heq, noDoubleBooking_save_iff h hsave, hwrites]
            simp only [Option.some.injEq, forall_eq']

/-- **No double booking, exactly.**  From a state without double bookings, one
without bookings among them, every state of a run is without them if and only if
each active row that the run writes finds its stay free. -/
theorem noDoubleBooking_iff_freeStay (py : Python) (w : World) (h : NoDoubleBooking w.db)
    (is : List TrafficStep) :
    AllStates (trafficStep py) (fun s => NoDoubleBooking s.world.db)
        { world := w, inFlight := [] } is
      ↔ AllSteps (trafficStep py) WritesFreeStay { world := w, inFlight := [] } is :=
  allStates_iff_allSteps (K := fun _ => True) (P := fun s : Traffic => NoDoubleBooking s.world.db)
    (fun _ _ _ => trivial) (fun _ i _ hs => noDoubleBooking_step_iff py hs i) trivial h is

/-- A POST of the demo guest for room 10 that is not interrupted. -/
def demoPost (n : Nat) (a b : Fin 31) : List TrafficStep :=
  [.beginCreate (.token 1)
      { BookingBody.empty with
        roomId := some 10, checkIn := some (january a), checkOut := some (january b) }
      (demoFresh n),
    .advance 0 (demoFresh 0), .advance 0 (demoFresh 0)]

theorem noDoubleBooking_after_post :
    NoDoubleBooking demoHotel.db
      ∧ AllStates (trafficStep plainPython) (fun s => NoDoubleBooking s.world.db)
          { world := demoHotel, inFlight := [] } (demoPost 7 4 6) :=
  ⟨by decide, (noDoubleBooking_iff_freeStay plainPython demoHotel (by decide)
    (demoPost 7 4 6)).mpr (by decide +kernel)⟩

/-- Two bookings of room 10 share the night of the fifth: the room stays AVAILABLE
until somebody checks in. -/
theorem room_booked_twice :
    ¬ ∀ (py : Python) (w : World), w.db.bookings = .empty → ∀ is : List TrafficStep,
      AllStates (trafficStep py) (fun s => NoDoubleBooking s.world.db)
        { world := w, inFlight := [] } is := by
  intro h
  have hlast := (h plainPython demoHotel rfl (demoPost 7 4 6 ++ demoPost 8 5 7)).last
  revert hlast
  decide +kernel

end HotelAgent
