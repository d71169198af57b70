/-
  HotelAgent.Api.AnonymousAccess — requests without valid authentication.

  `IsOwnerOrStaff` has no `has_permission`, so a request without a token goes on
  as `AnonymousUser`:

      list, and every route to an object    `get_queryset` asks for its role: 500
      POST                                  the serializer's 400, then a 500

  A token that is refused ends with the 401 of the authentication instead, which
  tells whether the user it names is there.

  Main result, `refusedUniformly_iff`: a request is refused alike in two stores
  if and only if it has a token, and a user it names is stored in both or in
  neither.
-/
import HotelAgent.Api.Endpoints

namespace HotelAgent

open Lib

variable {py : Python}

/-! ## §1. Being refused. -/

/-- A request to the service requests or the bookings. -/
inductive OwnedRequest where
  | read (read : OwnedRead)
  | write (write : OwnedWrite)

/-- The world after a request, and the response to it. -/
def OwnedRequest.serve (py : Python) (F : Filters) (w : World) (cred : Credentials)
    (query : Query) (request : OwnedRequest) : World × Response :=
  match cred.user w.db with
  | .error response => (w, response)
  | .ok user =>
    match request with
    | .read r => (w, r.respond F query w.db user)
    | .write r => r.handle py F w cred.caller user query

/-- No user stands behind the credentials. -/
def Credentials.Invalid (db : Db) (cred : Credentials) : Prop :=
  ∀ user, cred.user db ≠ .ok (some user)

/-- **Refused uniformly**: with a 401 or a 403, the same in both worlds, and no row is
changed. -/
structure RefusedUniformly (py : Python) (F : Filters) (cred : Credentials) (query : Query)
    (request : OwnedRequest) (w w' : World) : Prop where
  status : (request.serve py F w cred query).2.status = 401
    ∨ (request.serve py F w cred query).2.status = 403
  same : (request.serve py F w cred query).2 = (request.serve py F w' cred query).2
  kept : (request.serve py F w cred query).1.db = w.db
    ∧ (request.serve py F w' cred query).1.db = w'.db

/-- There is a token; a user it names is stored in both or in neither. -/
def Credentials.RefusedAlike (db db' : Db) : Credentials → Prop
  | .absent => False
  | .rejected _ => True
  | .bearer userId => db.users.Has userId ↔ db'.users.Has userId

/-! ## §2. Without a token. -/

/-- Nothing that happens to an anonymous request is a 401 or a 403. -/
theorem readCreate_anonymous (db : Db) (body : BookingBody) :
    ∃ answer, readCreate db .anonymous body = .error answer
      ∧ (answer.status = 400 ∨ answer.status = 500) := by
  unfold readCreate
  simp only [authenticate]
  split
  · split
    · split
      · exact ⟨_, rfl, .inl rfl⟩
      · exact ⟨_, rfl, .inr rfl⟩
    · exact ⟨_, rfl, .inl rfl⟩
  · exact ⟨_, rfl, .inl rfl⟩

/-- The response has the status of the answer. -/
theorem status_response (users : Table User.id) (rooms : Table Room.id) (pk : Option Uuid)
    (answer : BookingAnswer) : (answer.response users rooms pk).status = answer.status := by
  cases answer <;> rfl

/-- A body that the parsers refuse. -/
theorem status_of_read_error {α : Type} {body : Body α} {response : Response}
    (h : body.read = .error response) : response.status = 400 ∨ response.status = 415 := by
  cases body with
  | parseError detail =>
      injection h with h
      rw [← h]
      exact .inl rfl
  | unsupported detail =>
      injection h with h
      rw [← h]
      exact .inr rfl
  | data value => exact absurd h (by simp [Body.read])

/-- **Without a token** a request is answered by 400, 415 or 500. -/
theorem status_serve_absent (py : Python) (F : Filters) (w : World) (query : Query)
    (request : OwnedRequest) :
    (request.serve py F w .absent query).2.status ∈ [400, 415, 500] := by
  have hparse : ∀ {n : Nat}, n = 400 ∨ n = 415 → n ∈ [400, 415, 500] := by
    intro n hn
    simp only [List.mem_cons]
    omega
  have hinvalid : 400 ∈ [400, 415, 500] := by decide
  have hraised : 500 ∈ [400, 415, 500] := by decide
  cases request with
  | read read =>
      -- every queryset raises for `AnonymousUser`
      cases read with
      | listRequests => exact hraised
      | retrieveRequest pk => exact hraised
      | listBookings => exact hraised
      | retrieveBooking pk => exact hraised
  | write write =>
      cases write with
      | createRequest body =>
          simp only [OwnedRequest.serve, Credentials.user, OwnedWrite.handle]
          split
          next response hread => exact hparse (status_of_read_error hread)
          · unfold createServiceRequest
            split
            · exact hinvalid
            · exact hraised
      | updateRequest pk part body => exact hraised
      | destroyRequest pk => exact hraised
      | assign pk fresh => exact hraised
      | complete pk body fresh => exact hraised
      | createBooking body fresh =>
          simp only [OwnedRequest.serve, Credentials.user, OwnedWrite.handle, postBooking]
          split
          next response hread => exact hparse (status_of_read_error hread)
          next data _ =>
            split
            · exact hinvalid
            · obtain ⟨answer, hread, hstatus⟩ := readCreate_anonymous w.db data.fields
              have hcreate : createBooking py w .anonymous data.fields fresh = (w, answer) := by
                unfold createBooking
                rw [hread]
              show (BookingAnswer.response _ _ _
                (createBooking py w .anonymous data.fields fresh).2).status ∈ _
              rw [hcreate, status_response]
              simp only [List.mem_cons]
              omega
      | updateBooking pk part body fresh => exact hraised
      | destroyBooking pk => exact hraised

/-! ## §3. Who is refused. -/

/-- Credentials that are refused at once are answered by that alone. -/
theorem serve_of_error {F : Filters} {w : World} {cred : Credentials} {query : Query}
    {request : OwnedRequest} {response : Response} (h : cred.user w.db = .error response) :
    request.serve py F w cred query = (w, response) := by
  unfold OwnedRequest.serve
  rw [h]

/-- Two stores that refuse the credentials do so alike if the responses are the same. -/
theorem refusedUniformly_of_error_iff {F : Filters} {w w' : World} {cred : Credentials}
    {query : Query} {request : OwnedRequest} {response response' : Response}
    (h : cred.user w.db = .error response) (h' : cred.user w'.db = .error response')
    (hstatus : response.status = 401) :
    RefusedUniformly py F cred query request w w' ↔ response = response' := by
  constructor
  · intro hrefused
    have hsame := hrefused.same
    rw [serve_of_error h, serve_of_error h'] at hsame
    exact hsame
  · intro hsame
    exact
      { status := by
          rw [serve_of_error h]
          exact .inl hstatus
        same := by rw [serve_of_error h, serve_of_error h', hsame]
        kept := by
          rw [serve_of_error h, serve_of_error h']
          exact ⟨rfl, rfl⟩ }

/-- The 401 of a token whose user is gone or inactive. -/
theorem user_bearer_of_invalid {db : Db} {userId : Uuid}
    (h : (Credentials.bearer userId).Invalid db) :
    (Credentials.bearer userId).user db
        = .error (.envelope 401 (txt "User not found") (txt "user_not_found"))
          ∧ ¬ db.users.Has userId
      ∨ (Credentials.bearer userId).user db
        = .error (.envelope 401 (txt "User is inactive") (txt "user_inactive"))
          ∧ db.users.Has userId := by
  unfold Credentials.Invalid at h
  unfold Credentials.user at h ⊢
  simp only at h ⊢
  cases hfind : db.users.find? userId with
  | none =>
      refine .inl ⟨rfl, ?_⟩
      rw [Table.has_iff_find?, hfind]
      simp
  | some u =>
      simp only [hfind] at h ⊢
      by_cases hactive : u.isActive = true
      · rw [if_pos hactive] at h
        exact absurd rfl (h u)
      · rw [if_neg hactive]
        exact .inr ⟨rfl, Table.has_iff_find?.mpr ⟨u, hfind⟩⟩

/-- **Refused uniformly, exactly** with a token that both stores refuse alike. -/
theorem refusedUniformly_iff (py : Python) (F : Filters) (cred : Credentials) (query : Query)
    (request : OwnedRequest) (w w' : World) (h : cred.Invalid w.db) (h' : cred.Invalid w'.db) :
    RefusedUniformly py F cred query request w w' ↔ cred.RefusedAlike w.db w'.db := by
  cases cred with
  | absent =>
      refine iff_of_false (fun hrefused => ?_) (fun hfalse => hfalse)
      have hmem := status_serve_absent py F w query request
      simp only [List.mem_cons, List.not_mem_nil, or_false] at hmem
      have hstatus := hrefused.status
      omega
  | rejected body =>
      have hsame : RefusedUniformly py F (.rejected body) query request w w'
          ↔ (⟨401, body⟩ : Response) = ⟨401, body⟩ := refusedUniformly_of_error_iff rfl rfl rfl
      rw [hsame]
      exact iff_of_true rfl trivial
  | bearer userId =>
      show _ ↔ (w.db.users.Has userId ↔ w'.db.users.Has userId)
      -- whether the user is stored decides which 401 it is
      rcases user_bearer_of_invalid h with ⟨hu, hhas⟩ | ⟨hu, hhas⟩
      · rcases user_bearer_of_invalid h' with ⟨hu', hhas'⟩ | ⟨hu', hhas'⟩
        · rw [refusedUniformly_of_error_iff hu hu' rfl]
          exact iff_of_true rfl (iff_of_false hhas hhas')
        · rw [refusedUniformly_of_error_iff hu hu' rfl]
          exact iff_of_false (by decide) (fun halike => hhas (halike.mpr hhas'))
      · rcases user_bearer_of_invalid h' with ⟨hu', hhas'⟩ | ⟨hu', hhas'⟩
        · rw [refusedUniformly_of_error_iff hu hu' rfl]
          exact iff_of_false (by decide) (fun halike => hhas' (halike.mp hhas))
        · rw [refusedUniformly_of_error_iff hu hu' rfl]
          exact iff_of_true rfl (iff_of_true hhas hhas')

/-- A token for a user who is in neither of two stores. -/
theorem unknown_user_refused :
    RefusedUniformly plainPython plainFilters (.bearer 9) [] (.read .listBookings) demoDesk
      demoHotel := by
  have hdesk : (Credentials.bearer 9).user demoDesk.db
      = .error (.envelope 401 (txt "User not found") (txt "user_not_found")) := rfl
  have hhotel : (Credentials.bearer 9).user demoHotel.db
      = .error (.envelope 401 (txt "User not found") (txt "user_not_found")) := rfl
  refine (refusedUniformly_iff plainPython plainFilters (.bearer 9) [] (.read .listBookings)
    demoDesk demoHotel ?_ ?_).mpr ?_
  · intro user huser
    rw [hdesk] at huser
    exact absurd huser (by simp)
  · intro user huser
    rw [hhotel] at huser
    exact absurd huser (by simp)
  · show demoDesk.db.users.Has 9 ↔ demoHotel.db.users.Has 9
    rw [Table.has_iff_find?, Table.has_iff_find?]
    exact Iff.rfl

/-- GET /bookings/ without a token ends with an exception. -/
theorem anonymous_list_raises :
    ¬ ∀ (py : Python) (F : Filters) (cred : Credentials) (query : Query)
      (request : OwnedRequest) (w w' : World), cred.Invalid w.db → cred.Invalid w'.db →
        RefusedUniformly py F cred query request w w' := by
  intro h
  have hinvalid : Credentials.absent.Invalid demoDesk.db := by
    intro user huser
    exact absurd huser (by simp [Credentials.user])
  have hstatus := (h plainPython plainFilters .absent [] (.read .listBookings) demoDesk demoDesk
    hinvalid hinvalid).status
  revert hstatus
  decide

end HotelAgent
