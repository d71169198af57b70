/-
  HotelAgent.Api.BookingChecks — what the booking serializer lets through, and what
  the columns take.

  `validate` compares the two dates of the body.  A PATCH with one date leaves the
  other in the row, and the two are compared by the constraint
  `check_out_after_check_in` only.

  `create` multiplies a price of ten digits by any number of nights, for a column
  of twelve.

  Main results:
    * `datesAgree_iff` — the serializer accepts the dates exactly if the row has
      them in order, unless a PATCH gives one date on the wrong side of the
      stored other one.
    * `totalPrice_fits_iff` — the price of a stay fits its column, if and only if
      the room is free or the nights are few enough for its price.
-/
import HotelAgent.Api.Bookings
import HotelAgent.Api.ServiceRequests

namespace HotelAgent

open Lib

/-! ## §1. The dates of a row. -/

/-- POST, PUT (`part = false`) or PATCH. -/
inductive SerializerCall where
  | post (body : BookingBody)
  | put (pk : Uuid) (part : Bool) (body : BookingBody)

section
variable (db : Db) (caller : Caller)

/-- `check_in` and `check_out` of the row that the request would write; `none` where the
request is refused before its dates are looked at. -/
def SerializerCall.rowDates : SerializerCall → Option (Date × Date)
  | .post body =>
    match authenticate db caller, body.roomId, body.checkIn, body.checkOut with
    | some _, some _, some checkIn, some checkOut => some (checkIn, checkOut)
    | _, _, _, _ => none
  | .put pk part body =>
    match getBooking db caller pk with
    | .error _ => none
    | .ok b =>
      if part = false ∧ body.missing ≠ [] then none
      else some ((body.applyTo b).checkIn, (body.applyTo b).checkOut)

/-- The serializer refuses the dates. -/
def SerializerCall.DatesRefused : SerializerCall → Prop
  | .post body => readCreate db caller body = .error datesError
  | .put pk part body => readUpdate db caller pk part body = .error datesError

/-- The serializer accepts the dates exactly if the constraint admits them. -/
def SerializerCall.DatesAgree (call : SerializerCall) : Prop :=
  ∀ d ∈ call.rowDates db caller,
    ¬ call.DatesRefused db caller ↔ d.1.ordinal < d.2.ordinal

/-- A PATCH with one date has it on its side of the stored other one. -/
def SerializerCall.MeetsStored : SerializerCall → Prop
  | .post _ => True
  | .put _ false _ => True
  | .put pk true body => ∀ b, getBooking db caller pk = .ok b →
    (∀ checkIn, body.checkIn = some checkIn → body.checkOut = none →
      checkIn.ordinal < b.checkOut.ordinal)
    ∧ (∀ checkOut, body.checkIn = none → body.checkOut = some checkOut →
      b.checkIn.ordinal < checkOut.ordinal)

end

section
variable {db : Db} {caller : Caller}

/-- `validate` looks at the dates of the body. -/
theorem validDates_iff {body : BookingBody} {checkIn checkOut : Date}
    (hin : body.checkIn = some checkIn) (hout : body.checkOut = some checkOut) :
    body.validDates = true ↔ checkIn.ordinal < checkOut.ordinal := by
  unfold BookingBody.validDates
  rw [hin, hout]
  exact decide_eq_true_iff

/-- An update is refused by `validate` alone. -/
theorem datesRefused_put_iff {pk : Uuid} {part : Bool} {body : BookingBody} {b : Booking}
    (hb : getBooking db caller pk = .ok b) (hfull : ¬ (part = false ∧ body.missing ≠ [])) :
    (SerializerCall.put pk part body).DatesRefused db caller ↔ body.validDates = false := by
  show readUpdate db caller pk part body = .error datesError ↔ _
  unfold readUpdate
  simp only [hb, if_neg hfull]
  cases body.validDates with
  | true => simp
  | false => simp

/-- The error for the room is another one. -/
theorem datesRefused_post_iff {body : BookingBody} {checkIn checkOut : Date} {user : Option User}
    {roomId : Uuid} (hauth : authenticate db caller = some user) (hroom : body.roomId = some roomId)
    (hin : body.checkIn = some checkIn) (hout : body.checkOut = some checkOut) :
    (SerializerCall.post body).DatesRefused db caller ↔ body.validDates = false := by
  show readCreate db caller body = .error datesError ↔ _
  unfold readCreate
  simp only [hauth, hroom, hin, hout]
  cases body.validDates with
  | false => simp
  | true =>
      simp only [if_true]
      refine iff_of_false ?_ (by decide)
      cases availableRoom db roomId with
      | none =>
          intro h
          injection h with h
          injection h with h
          injection h with h _
          injection h with h _
          exact absurd h (by decide)
      | some room =>
          cases user with
          | none => exact fun h => BookingAnswer.noConfusion (Except.error.inj h)
          | some guest =>
              intro h
              injection h

/-- Both dates of the body go into the row. -/
theorem datesAgree_post (body : BookingBody) : (SerializerCall.post body).DatesAgree db caller := by
  intro d hd
  unfold SerializerCall.rowDates at hd
  simp only at hd
  split at hd
  next user roomId checkIn checkOut hauth hroom hin hout =>
    rw [Option.mem_some] at hd
    subst hd
    rw [datesRefused_post_iff hauth hroom hin hout, Bool.not_eq_false]
    exact validDates_iff hin hout
  next => exact absurd hd (by simp)

/-- An update that is looked at agrees exactly if `validate` says what the row says. -/
theorem datesAgree_put_iff {pk : Uuid} {part : Bool} {body : BookingBody} {b : Booking}
    (hb : getBooking db caller pk = .ok b) (hfull : ¬ (part = false ∧ body.missing ≠ [])) :
    (SerializerCall.put pk part body).DatesAgree db caller
      ↔ (body.validDates = true
        ↔ (body.applyTo b).checkIn.ordinal < (body.applyTo b).checkOut.ordinal) := by
  have hrow : (SerializerCall.put pk part body).rowDates db caller
      = some ((body.applyTo b).checkIn, (body.applyTo b).checkOut) := by
    show (match getBooking db caller pk with
      | .error _ => none
      | .ok b => _) = _
    rw [hb]
    exact if_neg hfull
  unfold SerializerCall.DatesAgree
  rw [hrow, datesRefused_put_iff hb hfull, Bool.not_eq_false]
  simp

/-- An update that is refused earlier has nothing to agree on. -/
theorem datesAgree_of_error {pk : Uuid} {part : Bool} {body : BookingBody} {answer : BookingAnswer}
    (hb : getBooking db caller pk = .error answer) :
    (SerializerCall.put pk part body).DatesAgree db caller := by
  intro d hd
  unfold SerializerCall.rowDates at hd
  simp only [hb] at hd
  exact absurd hd (by simp)

/-- A PUT gives both dates. -/
theorem datesAgree_full {pk : Uuid} {body : BookingBody} :
    (SerializerCall.put pk false body).DatesAgree db caller := by
  cases hb : getBooking db caller pk with
  | error answer => exact datesAgree_of_error hb
  | ok b =>
      by_cases hmissing : body.missing = []
      · rw [datesAgree_put_iff hb fun h => h.2 hmissing]
        unfold BookingBody.missing at hmissing
        cases hin : body.checkIn with
        | none => simp [hin] at hmissing
        | some checkIn =>
            cases hout : body.checkOut with
            | none => simp [hout] at hmissing
            | some checkOut =>
                rw [validDates_iff hin hout]
                simp [BookingBody.applyTo, hin, hout]
      · intro d hd
        unfold SerializerCall.rowDates at hd
        simp only [hb] at hd
        simp [hmissing] at hd

/-- **The dates of a booking**: the serializer and the constraint agree on a request, unless it is
a PATCH that gives one date, and not on its side of the stored other one. -/
theorem datesAgree_iff (call : SerializerCall) :
    call.DatesAgree db caller ↔ call.MeetsStored db caller := by
  cases call with
  | post body => exact iff_of_true (datesAgree_post body) trivial
  | put pk part body =>
      cases part with
      | false => exact iff_of_true datesAgree_full trivial
      | true =>
          cases hb : getBooking db caller pk with
          | error answer =>
              refine iff_of_true (datesAgree_of_error hb) fun b h => ?_
              rw [hb] at h
              injection h
          | ok b =>
              have hstored := (db.booking_ok b (getBooking_ok hb).1).2.2.1
              rw [datesAgree_put_iff hb (by simp)]
              simp only [SerializerCall.MeetsStored, hb, Except.ok.injEq, forall_eq']
              unfold BookingBody.validDates BookingBody.applyTo
              -- which of the two dates are in the body
              cases body.checkIn with
              | none =>
                  cases body.checkOut with
                  | none => simpa using hstored
                  | some checkOut => simp
              | some checkIn =>
                  cases body.checkOut with
                  | none => simp
                  | some checkOut => simp

/-- What the serializer lets through against the constraint is a 500. -/
theorem updateBooking_of_unordered {py : Python} {w : World} {pk : Uuid} {part : Bool}
    {body : BookingBody} {b : Booking} (fresh : Fresh)
    (hread : readUpdate w.db caller pk part body = .ok b)
    (hrow : ¬ (body.applyTo b).checkIn.ordinal < (body.applyTo b).checkOut.ordinal) :
    updateBooking py w caller pk part body fresh = (w, .serverError) := by
  have hnone : w.db.saveBooking (body.applyTo b) = none :=
    Db.saveBooking_eq_none_iff.mpr fun h => hrow h.1.2.2.1
  unfold updateBooking
  simp only [hread, hnone]

end

/-- The guest's stay begins on the 5th; a PATCH moves its end to the 3rd. -/
theorem patch_before_check_in :
    ¬ (SerializerCall.put 20 true { BookingBody.empty with checkOut := some (january 2) }).DatesAgree
      demoDesk.db (.token 1) := by
  have hb : getBooking demoDesk.db (.token 1) 20 = .ok demoStay := rfl
  intro h
  rw [datesAgree_put_iff hb (by simp)] at h
  exact absurd (h.mp rfl) (by decide)

/-! ## §2. The price of a stay. -/

/-- `DecimalField(max_digits=digits, decimal_places=2)` takes the amount. -/
def FitsDecimal (digits : Nat) (cents : Int) : Prop := cents.natAbs < 10 ^ digits

instance (digits : Nat) (cents : Int) : Decidable (FitsDecimal digits cents) :=
  inferInstanceAs (Decidable (_ < _))

section
variable {db : Db} {caller : Caller} {body : BookingBody} {draft : BookingDraft}

/-- A product fits if one factor is few enough for the other. -/
theorem fitsDecimal_mul_iff (price : Int) (nights : Nat) :
    FitsDecimal 12 (price * nights) ↔ price = 0 ∨ nights ≤ (10 ^ 12 - 1) / price.natAbs := by
  unfold FitsDecimal
  rw [Int.natAbs_mul, Int.natAbs_natCast]
  by_cases hzero : price = 0
  · simp [hzero]
  · have hpos : 0 < price.natAbs := Int.natAbs_pos.mpr hzero
    rw [Nat.le_div_iff_mul_le hpos, Nat.mul_comm nights]
    simp only [hzero, false_or]
    omega

/-- A draft's nights are a number, and its price is that many times the room's. -/
theorem exists_nights (fresh : Fresh) (h : readCreate db caller body = .ok draft) :
    ∃ nights : Nat, draft.checkIn.daysUntil draft.checkOut = nights
      ∧ (draft.row fresh).totalPrice = draft.room.pricePerNight * nights := by
  have hdates := (readCreate_ok h).2.2
  have hdays : draft.checkIn.daysUntil draft.checkOut
      = ((draft.checkOut.ordinal - draft.checkIn.ordinal : Nat) : Int) := by
    unfold Date.daysUntil
    omega
  refine ⟨_, hdays, ?_⟩
  rw [← hdays]
  rfl

/-- **The price of a stay**: it fits `total_price`, if and only if the room is free or the nights
are as few as the column has room for at its price. -/
theorem totalPrice_fits_iff (fresh : Fresh) (h : readCreate db caller body = .ok draft) :
    FitsDecimal 12 (draft.row fresh).totalPrice
      ↔ draft.room.pricePerNight = 0
        ∨ draft.checkIn.daysUntil draft.checkOut
          ≤ ((10 ^ 12 - 1) / draft.room.pricePerNight.natAbs : Nat) := by
  obtain ⟨nights, hdays, hprice⟩ := exists_nights fresh h
  rw [hprice, hdays, Int.ofNat_le]
  exact fitsDecimal_mul_iff draft.room.pricePerNight nights

/-- Two nights at 100.00. -/
theorem totalPrice_fits_demo :
    FitsDecimal 12 (BookingDraft.row
      ⟨demoGuest, demoRoom 10, january 4, january 6, 1, 0, []⟩ (demoFresh 20)).totalPrice :=
  (@totalPrice_fits_iff demoHotel.db (.token 1)
    ⟨some 10, some (january 4), some (january 6), none, none, none⟩ _ (demoFresh 20) rfl).mpr
    (.inr (by decide))

/-- A room at 99,999,999.99 a night. -/
def dearHotel : Db :=
  unvisited demoHotel.db.users ⟨[{ demoRoom 10 with pricePerNight := 9999999999 }], by decide⟩
    demoHotel.db.user_email

/-- A hundred and one nights there are too many. -/
theorem dear_stay_overflows :
    ∃ (db : Db) (caller : Caller) (body : BookingBody) (draft : BookingDraft),
      readCreate db caller body = .ok draft ∧ FitsDecimal 10 draft.room.pricePerNight
        ∧ ¬ FitsDecimal 12 (draft.row (demoFresh 20)).totalPrice :=
  ⟨dearHotel, .token 1, ⟨some 10, some (january 0), some ⟨739353, by decide, by decide⟩, none, none,
    none⟩, ⟨demoGuest, { demoRoom 10 with pricePerNight := 9999999999 }, january 0,
    ⟨739353, by decide, by decide⟩, 1, 0, []⟩, rfl, by decide, by decide⟩

/-- A hundred nights always fit. -/
theorem totalPrice_fits_of_hundred_nights (fresh : Fresh)
    (h : readCreate db caller body = .ok draft) (hprice : FitsDecimal 10 draft.room.pricePerNight)
    (hnights : draft.checkIn.daysUntil draft.checkOut ≤ 100) :
    FitsDecimal 12 (draft.row fresh).totalPrice := by
  obtain ⟨nights, hdays, htotal⟩ := exists_nights fresh h
  rw [htotal]
  refine (fitsDecimal_mul_iff _ _).mpr ?_
  by_cases hzero : draft.room.pricePerNight = 0
  · exact .inl hzero
  · have hpos : 0 < draft.room.pricePerNight.natAbs := Int.natAbs_pos.mpr hzero
    have hhundred : 100 ≤ (10 ^ 12 - 1) / draft.room.pricePerNight.natAbs := by
      rw [Nat.le_div_iff_mul_le hpos]
      unfold FitsDecimal at hprice
      omega
    rw [hdays] at hnights
    exact .inr (by omega)

/-- A price that does not fit is a 500. -/
theorem createBooking_of_overflow {py : Python} {w : World} (fresh : Fresh)
    (h : readCreate w.db caller body = .ok draft)
    (hprice : ¬ FitsDecimal 12 (draft.row fresh).totalPrice) :
    createBooking py w caller body fresh = (w, .serverError) := by
  have hnone : w.db.insertBooking (draft.row fresh) = none := by
    unfold Db.insertBooking
    split
    · rfl
    · exact Db.saveBooking_eq_none_iff.mpr fun h => hprice h.1.2.2.2
  unfold createBooking
  simp only [h, hnone]

end

end HotelAgent
