/-
  HotelAgent.Api.RequestFields — the columns of a request that belong together.

  A request is completed when it has a completion time, and somebody has it when
  it is assigned or in progress.  Three columns say so, and each writer has its
  own list of them:

                    status       assigned_to   completed_at
      `complete`    completed        —             now
      `assign`      assigned       the caller       —
      PUT, PATCH    any                —           —

  Main result, `fieldsConsistent_iff`: along a run that starts from pending
  requests the columns agree throughout, if and only if no assignment reaches a
  completed request, and no update completes a request, opens a completed one, or
  starts one that nobody has.
-/
import HotelAgent.Api.RequestAccess

namespace HotelAgent

open Lib

variable {py : Python}

/-! ## §1. Columns that agree. -/

/-- **The columns agree.** -/
def ServiceRequest.Consistent (r : ServiceRequest) : Prop :=
  (r.completedAt ≠ none ↔ r.status = .completed)
    ∧ (r.status = .assigned ∨ r.status = .inProgress → r.assignedTo ≠ none)

instance decidableConsistent (r : ServiceRequest) : Decidable r.Consistent :=
  inferInstanceAs (Decidable (_ ∧ _))

/-- They agree in every request. -/
def FieldsConsistent (w : World) : Prop := ∀ r ∈ w.db.serviceRequests, r.Consistent

/-- A request as it is created. -/
def ServiceRequest.IsPending (r : ServiceRequest) : Prop :=
  r.status = .pending ∧ r.completedAt = none

/-- Which status an update may write into the row. -/
def ServiceRequest.Admits (r : ServiceRequest) (status : RequestStatus) : Prop :=
  (status = .completed ↔ r.status = .completed)
    ∧ (status = .assigned ∨ status = .inProgress → r.assignedTo ≠ none)

/-- **The call keeps the columns together**: an assignment finds no completed request, and an
update writes a status that the row admits. -/
def DeskCall.KeepsFields (w : World) (i : DeskCall) : Prop :=
  ∀ user, authenticate w.db i.caller = some user →
    match i.action with
    | .assign pk _ => ∀ u r, readAssign w.db user pk = .ok (u, r) → r.status ≠ .completed
    | .complete _ _ _ => True
    | .update pk part body =>
      ∀ r, readUpdateRequest w.db user pk part body = .ok r →
        ∀ status, body.status = some status → r.Admits status

theorem ServiceRequest.IsPending.consistent {r : ServiceRequest} (h : r.IsPending) :
    r.Consistent := by
  obtain ⟨hstatus, hcompleted⟩ := h
  unfold ServiceRequest.Consistent
  rw [hstatus, hcompleted]
  simp

/-! ## §2. Three writers. -/

section
variable {r : ServiceRequest}

/-- An assignment leaves the completion time. -/
theorem consistent_assign_iff (h : r.Consistent) (userId : Uuid) :
    ((RequestWrite.assign userId).write r).Consistent ↔ r.status ≠ .completed := by
  have hcompleted : ((RequestWrite.assign userId).write r).Consistent ↔ r.completedAt = none := by
    show ((r.completedAt ≠ none ↔ RequestStatus.assigned = .completed)
      ∧ (_ → some userId ≠ none)) ↔ _
    simp
  rw [hcompleted, ne_eq, ← h.1, not_not]

/-- A completion writes both columns. -/
theorem consistent_complete (r : ServiceRequest) (now : Instant) (notes : Text) :
    ((RequestWrite.complete now notes).write r).Consistent := by
  show (some now ≠ none ↔ RequestStatus.completed = .completed)
    ∧ (RequestStatus.completed = .assigned ∨ RequestStatus.completed = .inProgress → _)
  simp

/-- An update writes the status alone. -/
theorem consistent_applyTo_iff (h : r.Consistent) (body : RequestBody) :
    (body.applyTo r).Consistent ↔ ∀ status, body.status = some status → r.Admits status := by
  show ((r.completedAt ≠ none ↔ body.status.getD r.status = .completed)
    ∧ (body.status.getD r.status = .assigned ∨ body.status.getD r.status = .inProgress →
      r.assignedTo ≠ none)) ↔ _
  cases hstatus : body.status with
  | none => exact iff_of_true h fun status hs => absurd hs (by simp)
  | some status =>
      simp only [Option.getD_some, Option.some.injEq, forall_eq', ServiceRequest.Admits]
      rw [h.1]
      exact and_congr_left' iff_comm

end

/-! ## §3. One call. -/

/-- Only the row that is written can lose its agreement. -/
theorem consistent_of_wrote {db : Db} {w : World} {r r' : ServiceRequest}
    (hwrote : w.db.Wrote db r r') (h : FieldsConsistent w) :
    (∀ x ∈ db.serviceRequests, x.Consistent) ↔ r'.Consistent := by
  rw [hwrote.serviceRequests]
  constructor
  · intro hall
    exact hall r' ((Table.mem_put hwrote.has).mpr (.inl rfl))
  · intro hr' x hx
    rcases (Table.mem_put hwrote.has).mp hx with rfl | ⟨hx, _⟩
    · exact hr'
    · exact h x hx

/-- What a call writes is consistent, exactly if it keeps the columns together. -/
theorem rewritten_consistent_iff {w : World} {i : DeskCall} {user : Option User}
    (hauth : authenticate w.db i.caller = some user) {r r' : ServiceRequest}
    (hwrites : i.action.rewrites py w.db user = some (r, r')) (h : r.Consistent) :
    r'.Consistent ↔ i.KeepsFields w := by
  obtain ⟨caller, action⟩ := i
  unfold DeskCall.KeepsFields
  rw [hauth]
  simp only [Option.some.injEq, forall_eq']
  cases action with
  | assign pk fresh =>
      obtain ⟨u, hread, rfl⟩ := rewrites_assign hwrites
      rw [consistent_assign_iff h]
      constructor
      · intro hopen u' x hx
        rw [hread] at hx
        injection hx with hx
        injection hx with _ hx
        rw [← hx]
        exact hopen
      · intro hall
        exact hall u r hread
  | complete pk data fresh =>
      obtain ⟨_, text, _, _, rfl⟩ := rewrites_complete hwrites
      exact iff_of_true (consistent_complete r fresh.now text) trivial
  | update pk part body =>
      obtain ⟨hread, rfl⟩ := rewrites_update hwrites
      rw [consistent_applyTo_iff h]
      constructor
      · intro hadmits x hx
        rw [hread] at hx
        injection hx with hx
        rw [← hx]
        exact hadmits
      · intro hall
        exact hall r hread

/-- A call that writes no row reaches none. -/
theorem keepsFields_of_rewrites_none {w : World} {i : DeskCall} {user : Option User}
    (hauth : authenticate w.db i.caller = some user)
    (hwrites : i.action.rewrites py w.db user = none) : i.KeepsFields w := by
  obtain ⟨caller, action⟩ := i
  unfold DeskCall.KeepsFields
  rw [hauth]
  simp only [Option.some.injEq, forall_eq']
  cases action with
  | assign pk fresh =>
      intro u r hread
      simp only [RequestAction.rewrites, hread] at hwrites
      exact absurd hwrites (by simp)
  | complete pk data fresh => trivial
  | update pk part body =>
      intro r hread
      simp only [RequestAction.rewrites, hread] at hwrites
      exact absurd hwrites (by simp)

/-- **One call** keeps the columns of all requests in agreement, exactly if it keeps them
together. -/
theorem fieldsConsistent_deskStep_iff (w : World) (i : DeskCall) (h : FieldsConsistent w) :
    FieldsConsistent (deskStep py w i) ↔ i.KeepsFields w := by
  unfold FieldsConsistent deskStep
  cases hauth : authenticate w.db i.caller with
  | none =>
      refine iff_of_true h fun user hu => ?_
      rw [hauth] at hu
      exact absurd hu (by simp)
  | some user =>
      simp only
      cases hwrites : i.action.rewrites py w.db user with
      | none =>
          rw [handle_of_rewrites_none hwrites]
          exact iff_of_true h (keepsFields_of_rewrites_none hauth hwrites)
      | some rows =>
          obtain ⟨r, r'⟩ := rows
          have hwrote := handle_of_rewrites_some hwrites
          rw [consistent_of_wrote hwrote h]
          exact rewritten_consistent_iff hauth hwrites (h r hwrote.mem)

/-! ## §4. Runs. -/

/-- **The columns agree throughout, exactly.**  A run of `assign`, `complete`, PUT and PATCH calls
from pending requests keeps every request consistent if and only if each call keeps the columns
together. -/
theorem fieldsConsistent_iff (py : Python) (w : World) (is : List DeskCall)
    (hstart : ∀ r ∈ w.db.serviceRequests, r.IsPending) :
    AllStates (deskStep py) FieldsConsistent w is
      ↔ AllSteps (deskStep py) (fun w' i => i.KeepsFields w') w is := by
  refine allStates_iff_allSteps (K := fun _ => True) (fun _ _ _ => trivial) ?_ trivial ?_ is
  · intro w' i _ h
    exact fieldsConsistent_deskStep_iff w' i h
  · intro r hr
    exact (hstart r hr).consistent

/-- The manager of the demo hotel takes the request and completes it. -/
theorem consistent_after_completion :
    AllStates (deskStep plainPython) FieldsConsistent demoDesk
      [⟨.token 3, .assign (some 30) demoAction⟩,
        ⟨.token 3, .complete (some 30) (.obj []) demoAction⟩] := by
  refine (fieldsConsistent_iff plainPython demoDesk _ ?_).mpr ⟨?_, fun _ _ => trivial, trivial⟩
  · intro r hr
    rw [List.mem_singleton.mp hr]
    exact ⟨rfl, rfl⟩
  · intro user _ u r hread
    have hmem := (getRequest_ok (readAssign_ok hread).1).2.1
    rw [List.mem_singleton.mp hmem]
    decide

/-- The manager completes the request with a PATCH: there is no completion time. -/
theorem patched_request_has_no_completion_time :
    ¬ ∀ (py : Python) (w : World) (is : List DeskCall),
      (∀ r ∈ w.db.serviceRequests, r.IsPending) →
        AllStates (deskStep py) FieldsConsistent w is := by
  intro h
  have hrun := h plainPython demoDesk [⟨.token 3, .update (some 30) true
    { RequestBody.empty with status := some .completed }⟩] (by
      intro r hr
      rw [List.mem_singleton.mp hr]
      exact ⟨rfl, rfl⟩)
  have hlast := hrun.last
  revert hlast
  unfold FieldsConsistent
  decide +kernel

end HotelAgent
