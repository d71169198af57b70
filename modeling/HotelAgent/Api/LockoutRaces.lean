/-
  HotelAgent.Api.LockoutRaces — failures of one account that overlap.

  Every `record_failed_login` works on an instance of its own: the row is
  loaded, the count goes up in memory, and the two columns are saved over
  whatever the row shows by then.  Nothing locks the row, and the new count is
  computed here and not by the database.

      load A, load B, save A, save B      two failures, counted as one

  Main result, `failuresCounted_iff_fresh`: no failure is lost if and only if
  every save finds the two columns as its instance loaded them, and fits.
-/
import HotelAgent.Api.Lockout
import HotelAgent.Lib.ReadModifyWrite
import Mathlib.Data.List.InsertIdx

namespace HotelAgent

open Lib

/-! ## §1. Executions in flight. -/

/-- The database, the instances that have been loaded, and the times of the failures whose
execution has come to its save. -/
structure FailureTraffic where
  db : Db
  copies : List User
  made : List Instant

inductive FailureStep where
  /-- `User.objects.get(...)`. -/
  | load
  /-- The execution with the `k`-th instance counts and saves. -/
  | save (k : Nat) (now : Instant)

/-- One step of an execution on the row `pk`. -/
def failureStep (pk : Uuid) (s : FailureTraffic) : FailureStep → FailureTraffic
  | .load =>
    match s.db.users.find? pk with
    | none => s
    | some row => { s with copies := s.copies ++ [row] }
  | .save k now =>
    match s.copies[k]? with
    | none => s
    | some copy =>
      { db := (s.db.saveLockColumns (copy.recordFailedLogin now)).getD s.db
        copies := s.copies.eraseIdx k
        made := s.made ++ [now] }

/-- Nothing in flight. -/
def FailureTraffic.quiet (db : Db) : FailureTraffic := ⟨db, [], []⟩

/-- **All counted**: the row that was `row` shows one failure more for each execution, and is
locked after five. -/
def FailuresCounted (pk : Uuid) (row : User) (s : FailureTraffic) : Prop :=
  ∃ row', s.db.users.find? pk = some row'
    ∧ row'.failedLoginAttempts = row.failedLoginAttempts + s.made.length
    ∧ (5 ≤ s.made.length → ∃ now ∈ s.made, row'.lockedUntil = some (now + lockPeriod))

/-- The condition: the save finds the columns as they were loaded, and the new count fits. -/
def FreshFailure (pk : Uuid) (s : FailureTraffic) : FailureStep → Prop
  | .load => True
  | .save k _ => ∀ copy, s.copies[k]? = some copy → ∀ row, s.db.users.find? pk = some row →
      copy.failedLoginAttempts = row.failedLoginAttempts ∧ copy.lockedUntil = row.lockedUntil
        ∧ copy.failedLoginAttempts + 1 ≤ maxSmallInteger

instance decidableFreshFailure (pk : Uuid) (s : FailureTraffic) :
    ∀ i, Decidable (FreshFailure pk s i)
  | .load => inferInstanceAs (Decidable True)
  | .save k _ =>
      inferInstanceAs (Decidable (∀ copy ∈ s.copies[k]?,
        ∀ row ∈ s.db.users.find? pk, _ ∧ _ ∧ _))

/-! ## §2. The two columns as a shared value. -/

structure LockColumns where
  attempts : Nat
  lockedUntil : Option Instant

def lockColumnsOf (u : User) : LockColumns := ⟨u.failedLoginAttempts, u.lockedUntil⟩

/-- `record_failed_login` on the columns; `none` is the `DataError`. -/
def LockColumns.record (now : Instant) (c : LockColumns) : Option LockColumns :=
  let attempts := c.attempts + 1
  if attempts ≤ maxSmallInteger then
    some ⟨attempts, if 5 ≤ attempts then some (now + lockPeriod) else c.lockedUntil⟩
  else none

theorem record_lockColumnsOf (u : User) (now : Instant) :
    (lockColumnsOf u).record now
      = if (u.recordFailedLogin now).failedLoginAttempts ≤ maxSmallInteger then
          some (lockColumnsOf (u.recordFailedLogin now))
        else none := rfl

/-- What the row shows. -/
def storedLock (pk : Uuid) (db : Db) : LockColumns :=
  ((db.users.find? pk).map lockColumnsOf).getD ⟨0, none⟩

theorem storedLock_row {pk : Uuid} {db : Db} {row : User} (h : db.users.find? pk = some row) :
    storedLock pk db = lockColumnsOf row := by
  unfold storedLock
  rw [h]
  rfl

/-- The traffic, as far as the columns go. -/
def failureView (pk : Uuid) (s : FailureTraffic) : Shared LockColumns Instant where
  value := storedLock pk s.db
  copies := s.copies.map lockColumnsOf
  made := s.made

def failureAccess (_ : FailureTraffic) : FailureStep → Access Instant
  | .load => .load
  | .save k now => .save k now

/-- The row is there, and all instances are of it. -/
structure LoadedUsers (pk : Uuid) (s : FailureTraffic) : Prop where
  row : ∃ row, s.db.users.find? pk = some row
  copies : ∀ copy ∈ s.copies, copy.id = pk

theorem loadedUsers_quiet {pk : Uuid} {db : Db} {row : User}
    (h : db.users.find? pk = some row) : LoadedUsers pk (.quiet db) :=
  ⟨⟨row, h⟩, fun _ hc => absurd hc List.not_mem_nil⟩

/-- What a save leaves in the row. -/
theorem find?_saved {pk : Uuid} {db : Db} {u row : User} (hid : u.id = pk)
    (hrow : db.users.find? pk = some row) :
    ∃ row', ((db.saveLockColumns u).getD db).users.find? pk = some row'
      ∧ lockColumnsOf row'
        = if u.failedLoginAttempts ≤ maxSmallInteger then lockColumnsOf u
          else lockColumnsOf row := by
  subst hid
  refine ⟨_, find?_save hrow, ?_⟩
  split
  · rfl
  · rfl

theorem loadedUsers_step (pk : Uuid) (s : FailureTraffic) (i : FailureStep)
    (h : LoadedUsers pk s) : LoadedUsers pk (failureStep pk s i) := by
  obtain ⟨⟨row, hrow⟩, hcopies⟩ := h
  cases i with
  | load =>
      unfold failureStep
      simp only [hrow]
      refine ⟨⟨row, hrow⟩, fun copy hc => ?_⟩
      rcases List.mem_append.mp hc with hc | hc
      · exact hcopies copy hc
      · rw [List.mem_singleton.mp hc]
        exact Table.key_of_find? hrow
  | save k now =>
      unfold failureStep
      simp only
      cases hk : s.copies[k]? with
      | none => exact ⟨⟨row, hrow⟩, hcopies⟩
      | some copy =>
          have hid : (copy.recordFailedLogin now).id = pk :=
            hcopies copy (List.mem_of_getElem? hk)
          obtain ⟨row', hrow', _⟩ := find?_saved hid hrow
          exact ⟨⟨row', hrow'⟩, fun c hc => hcopies c (List.mem_of_mem_eraseIdx hc)⟩

/-- **A failure is a read-modify-write of the columns.** -/
theorem failureView_step (pk : Uuid) (s : FailureTraffic) (i : FailureStep)
    (h : LoadedUsers pk s) :
    failureView pk (failureStep pk s i)
      = accessStep LockColumns.record (failureView pk s) (failureAccess s i) := by
  obtain ⟨⟨row, hrow⟩, hcopies⟩ := h
  cases i with
  | load =>
      unfold failureStep failureAccess
      simp only [hrow, accessStep, failureView, storedLock_row hrow, List.map_append,
        List.map_cons, List.map_nil]
  | save k now =>
      unfold failureStep failureAccess
      simp only
      cases hk : s.copies[k]? with
      | none =>
          have hview : (failureView pk s).copies[k]? = none := by
            simp only [failureView, List.getElem?_map, hk, Option.map_none]
          rw [accessStep_save_none now hview]
      | some copy =>
          have hview : (failureView pk s).copies[k]? = some (lockColumnsOf copy) := by
            simp only [failureView, List.getElem?_map, hk, Option.map_some]
          have hid : (copy.recordFailedLogin now).id = pk :=
            hcopies copy (List.mem_of_getElem? hk)
          obtain ⟨row', hrow', hcolumns⟩ := find?_saved hid hrow
          rw [accessStep_save_some now hview, record_lockColumnsOf]
          unfold failureView
          simp only [storedLock_row hrow', storedLock_row hrow, List.eraseIdx_map, hcolumns]
          split
          · rfl
          · rfl

/-- The condition on a step, through the view. -/
theorem freshFailure_iff {pk : Uuid} {s : FailureTraffic} (h : LoadedUsers pk s)
    (i : FailureStep) :
    FreshFailure pk s i ↔ FreshSave LockColumns.record (failureView pk s) (failureAccess s i) := by
  obtain ⟨⟨row, hrow⟩, _⟩ := h
  cases i with
  | load => exact Iff.rfl
  | save k now =>
      unfold FreshFailure FreshSave failureAccess
      simp only
      cases hk : s.copies[k]? with
      | none => simp [failureView, hk]
      | some copy =>
          have hview : (failureView pk s).copies[k]? = some (lockColumnsOf copy) := by
            simp only [failureView, List.getElem?_map, hk, Option.map_some]
          have hvalue : (failureView pk s).value = lockColumnsOf row := storedLock_row hrow
          have hsame : lockColumnsOf copy = lockColumnsOf row
              ↔ copy.failedLoginAttempts = row.failedLoginAttempts
                ∧ copy.lockedUntil = row.lockedUntil := by
            simp only [lockColumnsOf, LockColumns.mk.injEq]
          have hsome : ((lockColumnsOf copy).record now).isSome
              ↔ copy.failedLoginAttempts + 1 ≤ maxSmallInteger := by
            rw [record_lockColumnsOf]
            show Option.isSome (if copy.failedLoginAttempts + 1 ≤ maxSmallInteger then _ else _)
              = true ↔ _
            by_cases hfits : copy.failedLoginAttempts + 1 ≤ maxSmallInteger
            · simp [hfits]
            · simp [hfits]
          simp only [hview, hvalue, hrow, Option.some.injEq, forall_eq', hsame, hsome, and_assoc]

/-! ## §3. Runs. -/

def FailureStep.isLoad : FailureStep → Bool
  | .load => true
  | .save _ _ => false

/-- An execution is in flight from its load to its save. -/
theorem executions_step (pk : Uuid) (s : FailureTraffic) (i : FailureStep)
    (h : LoadedUsers pk s) :
    (failureStep pk s i).made.length + (failureStep pk s i).copies.length
      = s.made.length + s.copies.length + if i.isLoad then 1 else 0 := by
  obtain ⟨⟨row, hrow⟩, _⟩ := h
  cases i with
  | load =>
      unfold failureStep
      simp only [hrow, List.length_append, List.length_singleton, FailureStep.isLoad, if_true]
      omega
  | save k now =>
      unfold failureStep
      simp only
      cases hk : s.copies[k]? with
      | none => rfl
      | some copy =>
          have hlt : k < s.copies.length := (List.getElem?_eq_some_iff.mp hk).1
          simp only [List.length_append, List.length_singleton, List.length_eraseIdx_of_lt hlt,
            FailureStep.isLoad, Bool.false_eq_true, if_false]
          omega

/-- Once all have finished, the failures made are as many as the executions. -/
theorem executions_run (pk : Uuid) (s : FailureTraffic) (steps : List FailureStep)
    (h : LoadedUsers pk s) :
    (run (failureStep pk) s steps).made.length + (run (failureStep pk) s steps).copies.length
      = s.made.length + s.copies.length + steps.countP FailureStep.isLoad := by
  induction steps generalizing s with
  | nil => rfl
  | cons i steps ih =>
      rw [run_cons, ih _ (loadedUsers_step pk s i h), executions_step pk s i h, List.countP_cons]
      omega

/-- An execution that nothing comes between is `record_failed_login` on the row. -/
theorem uninterrupted_recordFailedLogin {pk : Uuid} {db : Db} {row : User}
    (hrow : db.users.find? pk = some row) (now : Instant) :
    run (failureStep pk) (.quiet db) [.load, .save 0 now]
      = ⟨(lockoutStep ⟨row, db⟩ (.recordFailedLogin now)).db, [], [now]⟩ := by
  simp only [run_cons, run_nil, failureStep, FailureTraffic.quiet, hrow]
  rfl

/-- A failure makes the count one larger. -/
theorem attempts_record (now : Instant) (c c' : LockColumns) (h : c.record now = some c') :
    c'.attempts = c.attempts + 1 := by
  unfold LockColumns.record at h
  simp only at h
  split at h
  · injection h with h
    rw [← h]
  · exact absurd h (by simp)

/-- Failures one after the other are all counted. -/
theorem attempts_foldlM {made : List Instant} {c c' : LockColumns}
    (h : made.foldlM (fun c now => LockColumns.record now c) c = some c') :
    c'.attempts = c.attempts + made.length := by
  have hcount := @size_foldlM LockColumns Instant LockColumns.record LockColumns.attempts 1
    attempts_record made c c' h
  rw [Nat.one_mul] at hcount
  exact hcount

/-- Failures one after the other: the fifth locks the account. -/
theorem locked_of_foldlM {made : List Instant} {c c' : LockColumns}
    (h : made.foldlM (fun c now => LockColumns.record now c) c = some c')
    (hfive : 5 ≤ made.length) :
    ∃ now ∈ made, c'.lockedUntil = some (now + lockPeriod) := by
  -- only the last failure is looked at; the four before it have been counted
  obtain ⟨before, last, rfl⟩ : ∃ before last, made = before ++ [last] := by
    rcases List.eq_nil_or_concat made with rfl | ⟨before, last, rfl⟩
    · exact absurd hfive (by decide)
    · exact ⟨before, last, List.concat_eq_append⟩
  rw [List.foldlM_append] at h
  obtain ⟨b, hb, h⟩ := Option.bind_eq_some_iff.mp h
  have hcount := attempts_foldlM hb
  rw [List.length_append, List.length_singleton] at hfive
  have hb4 : 5 ≤ b.attempts + 1 := by omega
  refine ⟨last, List.mem_append_right before (List.mem_singleton_self last), ?_⟩
  simp only [List.foldlM_cons, List.foldlM_nil] at h
  obtain ⟨d, hd, h⟩ := Option.bind_eq_some_iff.mp h
  injection h with h
  subst h
  unfold LockColumns.record at hd
  simp only [if_pos hb4] at hd
  split at hd
  · injection hd with hd
    rw [← hd]
  · exact absurd hd (by simp)

theorem failureView_quiet {pk : Uuid} {db : Db} {row : User}
    (hrow : db.users.find? pk = some row) :
    failureView pk (.quiet db) = ⟨lockColumnsOf row, [], []⟩ := by
  unfold failureView FailureTraffic.quiet
  rw [storedLock_row hrow]
  rfl

/-- **Failures that overlap, exactly.**  After any interleaving, the failures are all counted if
and only if every save found the two columns as its instance had loaded them, and fitted. -/
theorem failuresCounted_iff_fresh (pk : Uuid) (db : Db) (row : User)
    (hrow : db.users.find? pk = some row) (steps : List FailureStep) :
    FailuresCounted pk row (run (failureStep pk) (.quiet db) steps)
      ↔ AllSteps (failureStep pk) (FreshFailure pk) (.quiet db) steps := by
  have hquiet := loadedUsers_quiet hrow
  have hrun := view_run (loadedUsers_step pk) (failureView_step pk) hquiet steps
  have hsteps := allSteps_view_iff (Q := FreshSave LockColumns.record) (loadedUsers_step pk)
    (failureView_step pk) hquiet steps
  obtain ⟨row', hrow'⟩ := (allStates_of_step (loadedUsers_step pk) hquiet steps).last.row
  rw [failureView_quiet hrow] at hrun hsteps
  rw [allSteps_congr (loadedUsers_step pk) (fun s i h => freshFailure_iff h i) hquiet steps,
    hsteps]
  generalize hend : run (failureStep pk) (.quiet db) steps = last at hrun hrow' ⊢
  have hvalue : lockColumnsOf row' = _ :=
    (storedLock_row hrow').symm.trans (congrArg Shared.value hrun)
  have hmade : last.made = _ := congrArg Shared.made hrun
  constructor
  · rintro ⟨row'', hrow'', hcount, _⟩
    rw [hrow'] at hrow''
    injection hrow'' with hrow''
    subst hrow''
    refine (@noneLost_iff_fresh LockColumns Instant LockColumns.record LockColumns.attempts 1
      Nat.one_pos attempts_record (lockColumnsOf row) _).mp ?_
    rw [← hvalue, ← hmade, Nat.one_mul]
    exact hcount
  · intro hfresh
    have hcomposed := composed_of_fresh (lockColumnsOf row) _ hfresh
    unfold Composed at hcomposed
    rw [← hvalue, ← hmade] at hcomposed
    exact ⟨row', hrow', attempts_foldlM hcomposed, locked_of_foldlM hcomposed⟩

/-- Two failures, one after the other. -/
theorem failures_in_sequence :
    demoHotel.db.users.find? 1 = some demoGuest
      ∧ FailuresCounted 1 demoGuest
        (run (failureStep 1) (.quiet demoHotel.db) [.load, .save 0 7, .load, .save 0 8]) :=
  have hrow : demoHotel.db.users.find? 1 = some demoGuest := by decide +kernel
  ⟨hrow, (failuresCounted_iff_fresh 1 demoHotel.db demoGuest hrow _).mpr (by decide +kernel)⟩

/-- Five failures that all load the count zero: it ends at one, and nothing is locked. -/
def parallelFailures : List FailureStep :=
  [.load, .load, .load, .load, .load, .save 0 1, .save 0 2, .save 0 3, .save 0 4, .save 0 5]

theorem parallel_failures_counted_once :
    ¬ ∀ (pk : Uuid) (db : Db) (row : User), db.users.find? pk = some row →
      ∀ steps, (run (failureStep pk) (.quiet db) steps).copies = [] →
        FailuresCounted pk row (run (failureStep pk) (.quiet db) steps) := by
  intro h
  obtain ⟨row', hrow', hcount, _⟩ :=
    h 1 demoHotel.db demoGuest (by decide +kernel) parallelFailures (by decide +kernel)
  have hstored : ((run (failureStep 1) (.quiet demoHotel.db) parallelFailures).db.users.find? 1).map
      (fun row => (row.failedLoginAttempts, row.lockedUntil)) = some (1, none) := by
    decide +kernel
  have hmade : (run (failureStep 1) (.quiet demoHotel.db) parallelFailures).made.length = 5 := by
    decide +kernel
  rw [hrow', Option.map_some] at hstored
  injection hstored with hstored
  injection hstored with hone _
  rw [hone, hmade] at hcount
  exact absurd hcount (by decide)

end HotelAgent
