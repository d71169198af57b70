/-
  HotelAgent.Api.Lockout — the lock of an account, over whole histories.

  `record_failed_login` counts in memory, sets the lock from the fifth failure
  on and saves; `reset_failed_login` clears both columns, and does nothing when
  the count is zero.  A lock that runs out clears nothing.

  The columns are a function of the failures since the last reset:

      failures    failed_login_attempts    locked_until
      0 .. 4      their number             NULL
      5 ..        their number             the last one + 30 minutes

  Main results:

      isLocked_run_iff      when `is_locked` answers yes, after any history
      rowKept_iff_fits      the row shows the same columns, as long as the count
                            fits the column
-/
import HotelAgent.Api.Auth
import Mathlib.Data.List.DropRight

namespace HotelAgent

open Lib

/-! ## §1. Calls on one user. -/

/-- A call, and the time it is made. -/
inductive LockoutCall where
  | recordFailedLogin (now : Instant)
  | resetFailedLogin (now : Instant)

def LockoutCall.time : LockoutCall → Instant
  | .recordFailedLogin now => now
  | .resetFailedLogin now => now

def LockoutCall.isFailure : LockoutCall → Bool
  | .recordFailedLogin _ => true
  | .resetFailedLogin _ => false

/-- The user in memory, and the database. -/
structure LockoutState where
  user : User
  db : Db

/-- One call.  Where the `save` raises, the user in memory has changed all the same. -/
def lockoutStep (s : LockoutState) : LockoutCall → LockoutState
  | .recordFailedLogin now =>
    let user := s.user.recordFailedLogin now
    ⟨user, (s.db.saveLockColumns user).getD s.db⟩
  | .resetFailedLogin _ =>
    if 0 < s.user.failedLoginAttempts then
      let user := s.user.resetFailedLogin
      ⟨user, (s.db.saveLockColumns user).getD s.db⟩
    else s

/-- The times of the failures since the last reset, or since the user's creation. -/
def failuresSinceReset (calls : List LockoutCall) : List Instant :=
  (calls.rtakeWhile LockoutCall.isFailure).map LockoutCall.time

theorem failuresSinceReset_record (calls : List LockoutCall) (now : Instant) :
    failuresSinceReset (calls ++ [.recordFailedLogin now]) = failuresSinceReset calls ++ [now] := by
  unfold failuresSinceReset
  rw [List.rtakeWhile_concat_pos LockoutCall.isFailure calls _ rfl, List.map_append]
  rfl

theorem failuresSinceReset_reset (calls : List LockoutCall) (now : Instant) :
    failuresSinceReset (calls ++ [.resetFailedLogin now]) = [] := by
  unfold failuresSinceReset
  rw [List.rtakeWhile_concat_neg LockoutCall.isFailure calls _ (by simp [LockoutCall.isFailure])]
  rfl

/-! ## §2. The two columns. -/

/-- `locked_until` after these failures. -/
def lockAfter (failures : List Instant) : Option Instant :=
  if 5 ≤ failures.length then failures.getLast?.map (· + lockPeriod) else none

/-- **The invariant**: the two columns say what the failures were. -/
structure Counts (u : User) (failures : List Instant) : Prop where
  attempts : u.failedLoginAttempts = failures.length
  lockedUntil : u.lockedUntil = lockAfter failures

/-- A user who has just been created. -/
structure User.Fresh (u : User) : Prop where
  attempts : u.failedLoginAttempts = 0
  lockedUntil : u.lockedUntil = none

theorem counts_fresh {u : User} (h : u.Fresh) : Counts u [] :=
  ⟨h.attempts, h.lockedUntil⟩

/-- A failure while the lock holds moves its end. -/
theorem counts_record {u : User} {failures : List Instant} (h : Counts u failures)
    (now : Instant) : Counts (u.recordFailedLogin now) (failures ++ [now]) := by
  have hlen : (failures ++ [now]).length = failures.length + 1 := List.length_append
  constructor
  · show u.failedLoginAttempts + 1 = _
    rw [h.attempts, hlen]
  · show (if 5 ≤ u.failedLoginAttempts + 1 then some (now + lockPeriod) else u.lockedUntil) = _
    unfold lockAfter
    rw [h.attempts, hlen]
    by_cases hfive : 5 ≤ failures.length + 1
    · rw [if_pos hfive, if_pos hfive, List.getLast?_concat]
      rfl
    · -- up to the fourth failure there was no lock before either
      have hbefore : ¬ 5 ≤ failures.length := by omega
      rw [if_neg hfive, if_neg hfive, h.lockedUntil]
      exact if_neg hbefore

theorem counts_reset {u : User} {failures : List Instant} (h : Counts u failures) :
    Counts (if 0 < u.failedLoginAttempts then u.resetFailedLogin else u) [] := by
  by_cases hpos : 0 < u.failedLoginAttempts
  · rw [if_pos hpos]
    exact ⟨rfl, rfl⟩
  · -- nothing is reset: there was no failure, hence no lock
    have hnil : failures = [] := by
      apply List.eq_nil_of_length_eq_zero
      have := h.attempts
      omega
    rw [if_neg hpos, ← hnil]
    exact h

theorem user_reset (s : LockoutState) (now : Instant) :
    (lockoutStep s (.resetFailedLogin now)).user
      = if 0 < s.user.failedLoginAttempts then s.user.resetFailedLogin else s.user := by
  unfold lockoutStep
  simp only
  split
  · rfl
  · rfl

/-- **The columns after any history.** -/
theorem counts_run (s : LockoutState) (h : s.user.Fresh) (calls : List LockoutCall) :
    Counts (run lockoutStep s calls).user (failuresSinceReset calls) := by
  induction calls using List.reverseRecOn with
  | nil => exact counts_fresh h
  | append_singleton calls call ih =>
      rw [run_append]
      cases call with
      | recordFailedLogin now =>
          rw [failuresSinceReset_record]
          exact counts_record ih now
      | resetFailedLogin now =>
          rw [failuresSinceReset_reset]
          show Counts (lockoutStep _ (.resetFailedLogin now)).user []
          rw [user_reset]
          exact counts_reset ih

/-! ## §3. `is_locked`. -/

theorem isLocked_of_counts {u : User} {failures : List Instant} (h : Counts u failures)
    (now : Instant) :
    u.isLocked now = true
      ↔ 5 ≤ failures.length ∧ ∃ last, failures.getLast? = some last ∧ now < last + lockPeriod := by
  unfold User.isLocked
  rw [h.lockedUntil]
  unfold lockAfter
  by_cases hfive : 5 ≤ failures.length
  · rw [if_pos hfive]
    cases hlast : failures.getLast? with
    | none => simp
    | some last => simp [hfive]
  · rw [if_neg hfive]
    simp [hfive]

/-- Of times that never decrease the last is the greatest. -/
theorem isGreatest_getLast {times : List Instant} (hsorted : times.Pairwise (· ≤ ·))
    {last : Instant} (h : times.getLast? = some last) :
    IsGreatest {t | t ∈ times} last := by
  obtain ⟨before, rfl⟩ := List.getLast?_eq_some_iff.mp h
  refine ⟨List.mem_append_right before (List.mem_singleton_self last), ?_⟩
  intro t ht
  rcases List.mem_append.mp ht with ht | ht
  · exact (List.pairwise_append.mp hsorted).2.2 t ht last (List.mem_singleton_self last)
  · exact le_of_eq (List.mem_singleton.mp ht)

/-- The failures come in the order of the calls. -/
theorem pairwise_failures {calls : List LockoutCall}
    (hmono : (calls.map LockoutCall.time).Pairwise (· ≤ ·)) :
    (failuresSinceReset calls).Pairwise (· ≤ ·) :=
  hmono.sublist ((List.rtakeWhile_suffix LockoutCall.isFailure calls).sublist.map LockoutCall.time)

/-- **The lockout.**  After any calls on a fresh user, made at times that never decrease, the
account is locked at `now` if and only if there have been five failures since the last reset and
`now` is less than 30 minutes after the latest of them; and a reset unlocks it. -/
theorem isLocked_run_iff (s : LockoutState) (hfresh : s.user.Fresh) (calls : List LockoutCall)
    (hmono : (calls.map LockoutCall.time).Pairwise (· ≤ ·)) (now : Instant) :
    ((run lockoutStep s calls).user.isLocked now = true
      ↔ 5 ≤ (failuresSinceReset calls).length
        ∧ ∃ latest, IsGreatest {t | t ∈ failuresSinceReset calls} latest
          ∧ now < latest + lockPeriod)
      ∧ ∀ resetAt,
        (run lockoutStep s (calls ++ [.resetFailedLogin resetAt])).user.isLocked now = false := by
  constructor
  · rw [isLocked_of_counts (counts_run s hfresh calls) now]
    apply and_congr_right
    intro _
    constructor
    · rintro ⟨last, hlast, hnow⟩
      exact ⟨last, isGreatest_getLast (pairwise_failures hmono) hlast, hnow⟩
    · rintro ⟨latest, hgreatest, hnow⟩
      obtain ⟨last, hlast⟩ : ∃ last, (failuresSinceReset calls).getLast? = some last := by
        cases hlast : (failuresSinceReset calls).getLast? with
        | none =>
            rw [List.getLast?_eq_none_iff.mp hlast] at hgreatest
            exact absurd hgreatest.1 List.not_mem_nil
        | some last => exact ⟨last, rfl⟩
      have hsame : latest = last :=
        hgreatest.unique (isGreatest_getLast (pairwise_failures hmono) hlast)
      exact ⟨last, hlast, hsame ▸ hnow⟩
  · intro resetAt
    have hreset := counts_run s hfresh (calls ++ [.resetFailedLogin resetAt])
    rw [failuresSinceReset_reset] at hreset
    unfold User.isLocked
    rw [hreset.lockedUntil]
    rfl

/-- A failure, a reset and five failures. -/
def demoHistory : List LockoutCall :=
  [.recordFailedLogin 0, .resetFailedLogin 1, .recordFailedLogin 2, .recordFailedLogin 2,
    .recordFailedLogin 3, .recordFailedLogin 4, .recordFailedLogin 5]

theorem isLocked_after_demoHistory :
    demoGuest.Fresh
      ∧ (run lockoutStep ⟨demoGuest, demoHotel.db⟩ demoHistory).user.isLocked (4 + lockPeriod) = true
      ∧ (run lockoutStep ⟨demoGuest, demoHotel.db⟩ demoHistory).user.isLocked (5 + lockPeriod)
        = false := by
  have hfresh : demoGuest.Fresh := ⟨rfl, rfl⟩
  have hlocked := fun now =>
    (isLocked_run_iff ⟨demoGuest, demoHotel.db⟩ hfresh demoHistory (by decide) now).1
  have hfailures : failuresSinceReset demoHistory = [2, 2, 3, 4, 5] := by decide
  have hmax : ∀ t ∈ ([2, 2, 3, 4, 5] : List Instant), t ≤ 5 := by decide
  have hgreatest : IsGreatest {t : Instant | t ∈ ([2, 2, 3, 4, 5] : List Instant)} 5 :=
    ⟨by simp, fun t ht => hmax t ht⟩
  simp only [hfailures] at hlocked
  refine ⟨hfresh, (hlocked _).mpr ⟨by decide, 5, hgreatest, by decide⟩, ?_⟩
  rw [← Bool.not_eq_true, hlocked]
  rintro ⟨_, latest, hlatest, hnow⟩
  rw [hlatest.unique hgreatest] at hnow
  exact absurd hnow (lt_irrefl _)

/-! ## §4. The row. -/

/-- The row of the user shows the columns that the user in memory has. -/
def RowKept (s : LockoutState) : Prop :=
  ∀ row, s.db.users.find? s.user.id = some row →
    row.failedLoginAttempts = s.user.failedLoginAttempts ∧ row.lockedUntil = s.user.lockedUntil

/-- The count still fits its column. -/
def Fits (s : LockoutState) : LockoutCall → Prop
  | .recordFailedLogin _ => s.user.failedLoginAttempts + 1 ≤ maxSmallInteger
  | .resetFailedLogin _ => True

theorem find?_saveUser (db : Db) (id : Uuid) (w : UserWrite) (pk : Uuid) :
    (db.saveUser id w).users.find? pk
      = (db.users.find? pk).map fun row => if row.id = id then w.write row else row := by
  show (db.users.updateWhere (fun u => u.id = id) w.write w.id_eq).find? pk = _
  rw [Table.find?_updateWhere]
  simp

/-- **A save** shows the copy's columns in the row, if the count fits. -/
theorem find?_save {db : Db} {u row : User} (hrow : db.users.find? u.id = some row) :
    ((db.saveLockColumns u).getD db).users.find? u.id
      = some (if u.failedLoginAttempts ≤ maxSmallInteger then
          { row with failedLoginAttempts := u.failedLoginAttempts, lockedUntil := u.lockedUntil }
        else row) := by
  unfold Db.saveLockColumns
  by_cases hfits : u.failedLoginAttempts ≤ maxSmallInteger
  · have hid : row.id = u.id := Table.key_of_find? hrow
    rw [if_pos hfits, if_pos hfits, Option.getD_some, find?_saveUser, hrow, Option.map_some,
      if_pos hid]
    rfl
  · rw [if_neg hfits, if_neg hfits, Option.getD_none, hrow]

/-- The user has a row. -/
def HasRow (s : LockoutState) : Prop := ∃ row, s.db.users.find? s.user.id = some row

/-- The state after a change `u` of the user in memory, and its save. -/
def LockoutState.saved (s : LockoutState) (u : User) : LockoutState :=
  ⟨u, (s.db.saveLockColumns u).getD s.db⟩

theorem hasRow_saved {s : LockoutState} {u : User} (hid : u.id = s.user.id) (h : HasRow s) :
    HasRow (s.saved u) := by
  obtain ⟨row, hrow⟩ := h
  rw [← hid] at hrow
  exact ⟨_, find?_save hrow⟩

theorem hasRow_step (s : LockoutState) (call : LockoutCall) (h : HasRow s) :
    HasRow (lockoutStep s call) := by
  cases call with
  | recordFailedLogin now => exact hasRow_saved (u := s.user.recordFailedLogin now) rfl h
  | resetFailedLogin now =>
      unfold lockoutStep
      simp only
      split
      · exact hasRow_saved (u := s.user.resetFailedLogin) rfl h
      · exact h

theorem rowKept_saved {s : LockoutState} {u : User} (hid : u.id = s.user.id) (h : HasRow s)
    (hfits : u.failedLoginAttempts ≤ maxSmallInteger) : RowKept (s.saved u) := by
  obtain ⟨row, hrow⟩ := h
  rw [← hid] at hrow
  have hfind := find?_save hrow
  rw [if_pos hfits] at hfind
  intro row' hrow'
  cases hfind.symm.trans hrow'
  exact ⟨rfl, rfl⟩

/-- **One call.** -/
theorem rowKept_step_iff (s : LockoutState) (call : LockoutCall) (hrow : HasRow s)
    (h : RowKept s) : RowKept (lockoutStep s call) ↔ Fits s call := by
  cases call with
  | recordFailedLogin now =>
      show RowKept (s.saved (s.user.recordFailedLogin now))
        ↔ (s.user.recordFailedLogin now).failedLoginAttempts ≤ maxSmallInteger
      by_cases hfits : (s.user.recordFailedLogin now).failedLoginAttempts ≤ maxSmallInteger
      · exact iff_of_true (rowKept_saved (u := s.user.recordFailedLogin now) rfl hrow hfits) hfits
      · -- the save raises, and the row is one failure behind
        refine iff_of_false (fun hkept => ?_) hfits
        obtain ⟨row, hrow⟩ := hrow
        have hfind : (s.saved (s.user.recordFailedLogin now)).db.users.find? s.user.id = some row :=
          (find?_save (u := s.user.recordFailedLogin now) hrow).trans (by rw [if_neg hfits])
        have hbefore := (h row hrow).1
        have hafter : row.failedLoginAttempts = s.user.failedLoginAttempts + 1 :=
          (hkept row hfind).1
        omega
  | resetFailedLogin now =>
      refine iff_of_true ?_ trivial
      unfold lockoutStep
      simp only
      split
      · exact rowKept_saved (u := s.user.resetFailedLogin) rfl hrow (Nat.zero_le _)
      · exact h

/-- **The row shows what the user in memory has**, throughout a history, if and only if every
failure fits the column. -/
theorem rowKept_iff_fits (s : LockoutState) (hrow : HasRow s) (h : RowKept s)
    (calls : List LockoutCall) :
    AllStates lockoutStep RowKept s calls ↔ AllSteps lockoutStep Fits s calls :=
  allStates_iff_allSteps hasRow_step rowKept_step_iff hrow h calls

/-- A copy loaded from such a row is locked when the user in memory is. -/
theorem isLocked_row {s : LockoutState} (h : RowKept s) {row : User}
    (hrow : s.db.users.find? s.user.id = some row) (now : Instant) :
    row.isLocked now = s.user.isLocked now := by
  unfold User.isLocked
  rw [(h row hrow).2]

end HotelAgent
