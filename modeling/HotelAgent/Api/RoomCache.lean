/-
  HotelAgent.Api.RoomCache — the key `available_rooms`.

  The task `sync_room_availability` reads the active rooms and then writes the
  key; two handlers of `post_save` delete it.  Other operations go on in between:

      sync                 read the rooms      │ set the key
      a room is saved      write the row       │ delete the key
      a booking is saved   write the booking   │ write its room │ delete the key
      in a transaction     delete the key      │ commit
      a room is deleted    delete the row

  A bar is where others may go on.  What a transaction writes is seen at its
  commit only; row locks are left out, they only rule runs out.  Nothing listens
  to the deletion of a room.

  Main results:
    * `saveBooking_undisturbed` — alone, the handler does what `onBookingSave` does.
    * `fill_was_read` — what a refill writes are the rooms that it has read.
    * `roomCache_iff` — whenever nothing is in progress the key lists the active
      rooms as they are, exactly if no operation that ends last leaves an old
      list behind and no active room is deleted under a key that is set.
-/
import HotelAgent.Api.Bookings

namespace HotelAgent

open Lib

/-! ## §1. Rooms. -/

/-- What the columns of a room demand of their values. -/
def Room.Fits (r : Room) : Prop :=
  (r.number.length ≤ 10 ∧ storable r.number) ∧ r.floor ≤ maxSmallInteger
    ∧ r.capacity ≤ maxSmallInteger ∧ r.pricePerNight.natAbs < 10 ^ 10
    ∧ jsonbStorable r.amenities ∧ storable r.description

instance decidableRoomFits (r : Room) : Decidable r.Fits :=
  inferInstanceAs (Decidable ((_ ∧ _) ∧ _ ∧ _ ∧ _ ∧ _ ∧ _))

namespace Db

/-- Whether the constraints admit the row; the number of a room is unique. -/
def AdmitsRoom (db : Db) (r : Room) : Prop :=
  r.Fits ∧ ∀ x ∈ db.rooms.rows, x.number = r.number → x.id = r.id

instance (db : Db) (r : Room) : Decidable (db.AdmitsRoom r) :=
  inferInstanceAs (Decidable (_ ∧ _))

/-- `room.save()`: every column is written; a row that is gone is inserted again. -/
def saveRoom (db : Db) (r : Room) : Option Db :=
  if db.AdmitsRoom r then
    some { db with
      rooms := db.rooms.save r
      booking_ok := by
        intro b hb
        obtain ⟨hg, hr, hrest⟩ := db.booking_ok b hb
        exact ⟨hg, hr.save, hrest⟩ }
  else none

/-- Whether a booking refers to the room, so that `on_delete=PROTECT` keeps it. -/
def RoomProtected (db : Db) (roomId : Uuid) : Prop := ∃ b ∈ db.bookings.rows, b.roomId = roomId

instance (db : Db) (roomId : Uuid) : Decidable (db.RoomProtected roomId) :=
  inferInstanceAs (Decidable (∃ b ∈ db.bookings.rows, _))

/-- `room.delete()`; `none` is the `ProtectedError`. -/
def deleteRoom (db : Db) (roomId : Uuid) : Option Db :=
  if h : db.RoomProtected roomId then none
  else some { db with
    rooms := db.rooms.erase roomId
    booking_ok := by
      intro b hb
      obtain ⟨hg, hr, hrest⟩ := db.booking_ok b hb
      exact ⟨hg, hr.erase fun heq => h ⟨b, hb, heq⟩, hrest⟩ }

end Db

/-- `values("id", "number", "room_type", "status", "price_per_night")`. -/
structure RoomEntry where
  id : Uuid
  number : Text
  roomType : RoomType
  status : RoomStatus
  pricePerNight : Int
  deriving DecidableEq

def Room.entry (r : Room) : RoomEntry :=
  ⟨r.id, r.number, r.roomType, r.status, r.pricePerNight⟩

/-- `Room.objects.filter(is_active=True).values(…)`; their order is not looked at. -/
def availableRooms (db : Db) : List RoomEntry :=
  (db.rooms.rows.filter (·.isActive)).map Room.entry

/-! ## §2. Operations in progress. -/

/-- What a transaction has written and not committed. -/
inductive HiddenWrite where
  | room (r : Room)
  | booking (b : Booking)

/-- What an operation in progress does next. -/
inductive RoomTask where
  /-- `cache.set("available_rooms", list(rooms), timeout=300)`. -/
  | fill (rooms : List RoomEntry)
  /-- `Room.objects.filter(id=instance.room_id).update(…)`. -/
  | syncRoom (b : Booking)
  /-- `cache.delete("available_rooms")`. -/
  | invalidate
  | commit (write : HiddenWrite)

/-- The database, what is under the key, and the operations in progress. -/
structure RoomCache where
  db : Db
  entry : Option (List RoomEntry)
  tasks : List RoomTask

inductive RoomStep where
  /-- `sync_room_availability` starts, and reads. -/
  | sync
  /-- A room is saved, in a transaction or not. -/
  | saveRoom (atomic : Bool) (r : Room)
  | saveBooking (atomic : Bool) (b : Booking) (fresh : Fresh)
  | deleteRoom (roomId : Uuid)
  /-- An operation in progress goes on. -/
  | resume (k : Nat)
  /-- The entry expires. -/
  | expire

/-- The statuses for which `on_booking_save` writes the room and deletes the key. -/
def BookingStatus.movesRoom : BookingStatus → Bool
  | .checkedIn => true
  | .checkedOut => true
  | .cancelled => true
  | .pending => false
  | .confirmed => false

/-- `on_booking_save` comes to the room: for a new booking `publish` may raise before. -/
def reachesRoom (py : Python) (db : Db) (b : Booking) (fresh : Fresh) : Bool :=
  let published := publish py fresh.produce (txt "AUDIT_LOG") (bookingCreatedEvent fresh.stamp b)
    none
  db.bookings.Has b.id || (match published with
    | .raised => false
    | _ => true)

/-- What a commit makes visible. -/
def HiddenWrite.apply (db : Db) : HiddenWrite → Db
  | .room r => (db.saveRoom r).getD db
  | .booking b => ((db.saveBooking b).map fun db => syncRoom db b).getD db

def roomStep (py : Python) (s : RoomCache) : RoomStep → RoomCache
  | .sync => { s with tasks := s.tasks ++ [.fill (availableRooms s.db)] }
  | .saveRoom atomic r =>
    match s.db.saveRoom r with
    | none => s
    | some db =>
      if atomic then { s with entry := none, tasks := s.tasks ++ [.commit (.room r)] }
      else { s with db := db, tasks := s.tasks ++ [.invalidate] }
  | .saveBooking atomic b fresh =>
    match s.db.saveBooking b with
    | none => s
    | some db =>
      let reaches := reachesRoom py s.db b fresh
      if atomic then
        -- an exception of the handler rolls the transaction back
        if reaches then
          { s with
            entry := if b.status.movesRoom then none else s.entry
            tasks := s.tasks ++ [.commit (.booking b)] }
        else s
      else if reaches && b.status.movesRoom then
        { s with db := db, tasks := s.tasks ++ [.syncRoom b] }
      else { s with db := db }
  | .deleteRoom roomId => { s with db := (s.db.deleteRoom roomId).getD s.db }
  | .resume k =>
    match s.tasks[k]? with
    | none => s
    | some (.fill rooms) => { s with entry := some rooms, tasks := s.tasks.eraseIdx k }
    | some (.syncRoom b) =>
      { s with db := syncRoom s.db b, tasks := s.tasks.set k .invalidate }
    | some .invalidate => { s with entry := none, tasks := s.tasks.eraseIdx k }
    | some (.commit write) =>
      { s with db := write.apply s.db, tasks := s.tasks.eraseIdx k }
  | .expire => { s with entry := none }

/-- **Never stale**: while nothing is in progress, what is under the key lists exactly the active
rooms as they are. -/
def NeverStale (s : RoomCache) : Prop :=
  s.tasks = [] → ∀ rooms ∈ s.entry, rooms.Perm (availableRooms s.db)

/-- Nothing under the key, and nothing in progress. -/
def emptyCache (db : Db) : RoomCache := ⟨db, none, []⟩

/-! ## §3. The condition. -/

/-- The operation that goes on is the only one in progress, and ends with this. -/
def EndsWith (s : RoomCache) (k : Nat) (task : RoomTask) : Prop := k = 0 ∧ s.tasks = [task]

/-- The condition on one step: a refill that ends last has read the rooms as they are, a commit
that comes last finds no list or the one that it makes true, and what is deleted under a key that
is set is no active room. -/
def KeepsFresh (s : RoomCache) : RoomStep → Prop
  | .resume k =>
    (∀ rooms, EndsWith s k (.fill rooms) → rooms.Perm (availableRooms s.db))
      ∧ ∀ write, EndsWith s k (.commit write) →
        ∀ rooms ∈ s.entry, rooms.Perm (availableRooms (write.apply s.db))
  | .deleteRoom roomId => s.tasks = [] → s.entry ≠ none →
      ∀ r ∈ s.db.rooms, r.id = roomId → r.isActive = true → s.db.RoomProtected roomId
  | _ => True

/-! ## §4. What is in progress. -/

/-- **A booking that is saved undisturbed** leaves the rooms that its handler leaves, and no list of
them where it has written one. -/
theorem saveBooking_undisturbed (py : Python) {db db' : Db} {b : Booking}
    (entry : Option (List RoomEntry)) (log : List Record) (fresh : Fresh)
    (h : db.saveBooking b = some db') :
    run (roomStep py) ⟨db, entry, []⟩ [.saveBooking false b fresh, .resume 0, .resume 0]
      = ⟨(onBookingSave py ⟨db', log⟩ b (!decide (db.bookings.Has b.id)) fresh).1.db,
          if reachesRoom py db b fresh && b.status.movesRoom then none else entry, []⟩ := by
  -- a status that moves no room leaves the rooms
  have hstays : b.status.movesRoom = false → syncRoom db' b = db' := by
    intro hmoves
    unfold syncRoom
    cases hstatus : b.status with
    | pending => rfl
    | confirmed => rfl
    | _ =>
        rw [hstatus] at hmoves
        exact absurd hmoves (by decide)
  have hreaches : (onBookingSave py ⟨db', log⟩ b (!decide (db.bookings.Has b.id)) fresh).1.db
      = if reachesRoom py db b fresh then syncRoom db' b else db' := by
    unfold onBookingSave reachesRoom
    by_cases hhas : db.bookings.Has b.id
    · simp [hhas]
    · simp only [hhas, decide_false, Bool.not_false, if_true, Bool.false_or]
      cases publish py fresh.produce (txt "AUDIT_LOG") (bookingCreatedEvent fresh.stamp b) none with
      | accepted rec => rfl
      | refused => rfl
      | raised => rfl
  rw [hreaches]
  simp only [run_cons, run_nil]
  cases hr : reachesRoom py db b fresh with
  | false => simp [roomStep, h, hr]
  | true =>
      cases hm : b.status.movesRoom with
      | false => simp [roomStep, h, hr, hm, hstays hm]
      | true => simp [roomStep, h, hr, hm]

/-- A refill that is in progress behind a step was so before it, or has read just now. -/
theorem fill_mem_step {py : Python} {s : RoomCache} {step : RoomStep} {rooms : List RoomEntry}
    (h : .fill rooms ∈ (roomStep py s step).tasks) :
    .fill rooms ∈ s.tasks ∨ step = .sync ∧ rooms = availableRooms s.db := by
  have hadded : ∀ task : RoomTask, task ≠ .fill rooms → .fill rooms ∈ s.tasks ++ [task] →
      .fill rooms ∈ s.tasks := by
    intro task hne hmem
    rcases List.mem_append.mp hmem with hmem | hmem
    · exact hmem
    · exact absurd (List.mem_singleton.mp hmem).symm hne
  cases step with
  | sync =>
      rcases List.mem_append.mp h with h | h
      · exact .inl h
      · injection List.mem_singleton.mp h with h
        exact .inr ⟨rfl, h⟩
  | saveRoom atomic r =>
      left
      simp only [roomStep] at h
      split at h
      · exact h
      · split at h
        · exact hadded _ (by simp) h
        · exact hadded _ (by simp) h
  | saveBooking atomic b fresh =>
      left
      simp only [roomStep] at h
      split at h
      · exact h
      · split at h
        · split at h
          · exact hadded _ (by simp) h
          · exact h
        · split at h
          · exact hadded _ (by simp) h
          · exact h
  | deleteRoom roomId => exact .inl h
  | resume k =>
      left
      simp only [roomStep] at h
      split at h
      · exact h
      · exact List.mem_of_mem_eraseIdx h
      · rcases List.mem_or_eq_of_mem_set h with h | h
        · exact h
        · exact absurd h (by simp)
      · exact List.mem_of_mem_eraseIdx h
      · exact List.mem_of_mem_eraseIdx h
  | expire => exact .inl h

/-- **What a refill is going to write** are the active rooms at the time it read them. -/
theorem fill_was_read {py : Python} {s : RoomCache} (hs : s.tasks = []) {steps : List RoomStep}
    {rooms : List RoomEntry} (h : .fill rooms ∈ (run (roomStep py) s steps).tasks) :
    ∃ before after, steps = before ++ .sync :: after
      ∧ rooms = availableRooms (run (roomStep py) s before).db := by
  induction steps using List.reverseRecOn with
  | nil =>
      rw [run_nil, hs] at h
      exact absurd h List.not_mem_nil
  | append_singleton steps step ih =>
      rw [run_append] at h
      rcases fill_mem_step h with h | ⟨rfl, hrooms⟩
      · obtain ⟨before, after, rfl, hrooms⟩ := ih h
        exact ⟨before, after ++ [step], by simp, hrooms⟩
      · exact ⟨steps, [], rfl, hrooms⟩

/-! ## §5. One step. -/

theorem neverStale_of_tasks {s : RoomCache} (h : s.tasks ≠ []) : NeverStale s :=
  fun hnone => absurd hnone h

theorem neverStale_of_no_entry {s : RoomCache} (h : s.entry = none) : NeverStale s := by
  intro _ rooms hrooms
  rw [h] at hrooms
  exact absurd hrooms (by simp)

theorem append_task_ne_nil (tasks : List RoomTask) (task : RoomTask) : tasks ++ [task] ≠ [] := by
  simp

/-- A write that leaves the rooms leaves the list. -/
theorem NeverStale.of_rooms {s : RoomCache} {db : Db} (h : NeverStale s)
    (hrooms : db.rooms = s.db.rooms) : NeverStale { s with db := db } := by
  intro htasks rooms hentry
  show rooms.Perm (availableRooms db)
  rw [availableRooms, hrooms]
  exact h htasks rooms hentry

/-- **What a deletion takes out of the list**: nothing, or the entry of an active room. -/
theorem availableRooms_deleteRoom_iff {db db' : Db} {roomId : Uuid}
    (h : db.deleteRoom roomId = some db') :
    (availableRooms db).Perm (availableRooms db')
      ↔ ∀ r ∈ db.rooms, r.id = roomId → ¬ r.isActive = true := by
  have hrooms : db'.rooms = db.rooms.erase roomId := by
    unfold Db.deleteRoom at h
    split at h
    · exact absurd h (by simp)
    · injection h with h
      rw [← h]
  unfold availableRooms
  rw [hrooms]
  constructor
  · intro hperm r hr hid hactive
    -- the entry of the room is still listed, but no row has its key
    have hlisted : r.entry ∈ (db.rooms.rows.filter (·.isActive)).map Room.entry :=
      List.mem_map_of_mem (List.mem_filter.mpr ⟨hr, hactive⟩)
    obtain ⟨x, hx, hentry⟩ := List.mem_map.mp (hperm.mem_iff.mp hlisted)
    obtain ⟨_, hne⟩ := Table.mem_erase.mp (List.mem_filter.mp hx).1
    have hxid : x.id = r.id := congrArg RoomEntry.id hentry
    exact hne (hxid.trans hid)
  · intro hnone
    have hsame : (db.rooms.erase roomId).rows.filter (·.isActive)
        = db.rooms.rows.filter (·.isActive) := by
      show (db.rooms.rows.filter _).filter _ = _
      rw [List.filter_filter]
      refine List.filter_congr fun r hr => ?_
      by_cases hid : r.id = roomId
      · have hinactive := hnone r hr hid
        simp [hinactive]
      · simp [hid]
    rw [hsame]

/-- **A deletion.** -/
theorem neverStale_deleteRoom_iff {s : RoomCache} (h : NeverStale s) (roomId : Uuid) :
    NeverStale { s with db := (s.db.deleteRoom roomId).getD s.db }
      ↔ KeepsFresh s (.deleteRoom roomId) := by
  show _ ↔ (s.tasks = [] → s.entry ≠ none → _)
  cases hdelete : s.db.deleteRoom roomId with
  | none =>
      refine iff_of_true h fun _ _ _ _ _ _ => ?_
      unfold Db.deleteRoom at hdelete
      split at hdelete
      · assumption
      · exact absurd hdelete (by simp)
  | some db' =>
      have hfree : ¬ s.db.RoomProtected roomId := by
        intro hprotected
        unfold Db.deleteRoom at hdelete
        rw [dif_pos hprotected] at hdelete
        exact absurd hdelete (by simp)
      have hperm := availableRooms_deleteRoom_iff hdelete
      constructor
      · intro hafter htasks hset r hr hid hactive
        obtain ⟨rooms, hrooms⟩ := Option.ne_none_iff_exists'.mp hset
        have hbefore := h htasks rooms hrooms
        have hnow : rooms.Perm (availableRooms db') := hafter htasks rooms hrooms
        exact absurd hactive (hperm.mp (hbefore.symm.trans hnow) r hr hid)
      · intro hkeeps htasks rooms hrooms
        have hset : s.entry ≠ none := by
          rw [hrooms]
          simp
        refine (h htasks rooms hrooms).trans (hperm.mpr fun r hr hid hactive => ?_)
        exact hfree (hkeeps htasks hset r hr hid hactive)

/-- The operation that ends is the only one, or leaves another in progress. -/
theorem endsWith_iff {s : RoomCache} {k : Nat} {task : RoomTask} (h : s.tasks[k]? = some task) :
    EndsWith s k task ↔ s.tasks.eraseIdx k = [] := by
  obtain ⟨hlt, _⟩ := List.getElem?_eq_some_iff.mp h
  constructor
  · rintro ⟨rfl, hone⟩
    rw [hone]
    rfl
  · intro hnone
    have hlength := congrArg List.length hnone
    rw [List.length_eraseIdx_of_lt hlt, List.length_nil] at hlength
    have hk : k = 0 := by omega
    obtain ⟨x, hx⟩ := List.length_eq_one_iff.mp (show s.tasks.length = 1 by omega)
    subst hk
    rw [hx] at h
    injection h with h
    exact ⟨rfl, by rw [hx, h]⟩

/-- What is under the key when an operation ends. -/
theorem neverStale_ends_iff {s : RoomCache} {k : Nat} {task : RoomTask}
    (h : s.tasks[k]? = some task) (db : Db) (entry : Option (List RoomEntry)) :
    NeverStale ⟨db, entry, s.tasks.eraseIdx k⟩
      ↔ (EndsWith s k task → ∀ rooms ∈ entry, rooms.Perm (availableRooms db)) := by
  rw [endsWith_iff h]
  exact Iff.rfl

/-- The condition on an operation that goes on, by what it does next. -/
theorem keepsFresh_resume_iff {s : RoomCache} {k : Nat} {task : RoomTask}
    (h : s.tasks[k]? = some task) :
    KeepsFresh s (.resume k)
      ↔ (EndsWith s k task → match task with
          | .fill rooms => rooms.Perm (availableRooms s.db)
          | .syncRoom _ => True
          | .invalidate => True
          | .commit write => ∀ rooms ∈ s.entry, rooms.Perm (availableRooms (write.apply s.db))) := by
  have hsame : ∀ {task' : RoomTask}, EndsWith s k task' → task = task' := by
    rintro task' ⟨rfl, hone⟩
    rw [hone] at h
    injection h with h
    exact h.symm
  constructor
  · rintro ⟨hfill, hcommit⟩ hends
    cases task with
    | fill rooms => exact hfill rooms hends
    | syncRoom b => trivial
    | invalidate => trivial
    | commit write => exact hcommit write hends
  · intro hends
    refine ⟨fun rooms hfill => ?_, fun write hcommit => ?_⟩
    · obtain rfl := hsame hfill
      exact hends hfill
    · obtain rfl := hsame hcommit
      exact hends hcommit

/-- **An operation goes on.** -/
theorem neverStale_resume_iff {py : Python} {s : RoomCache} (h : NeverStale s) (k : Nat) :
    NeverStale (roomStep py s (.resume k)) ↔ KeepsFresh s (.resume k) := by
  cases htask : s.tasks[k]? with
  | none =>
      -- there is no such operation
      simp only [roomStep, htask]
      have hnone : ∀ task, ¬ EndsWith s k task := by
        rintro task ⟨rfl, hone⟩
        rw [hone] at htask
        exact absurd htask (by simp)
      exact iff_of_true h ⟨fun rooms hends => absurd hends (hnone _),
        fun write hends => absurd hends (hnone _)⟩
  | some task =>
      rw [keepsFresh_resume_iff htask]
      cases task with
      | fill rooms =>
          simp only [roomStep, htask]
          rw [neverStale_ends_iff htask]
          simp only [Option.mem_some_iff, forall_eq']
      | syncRoom b =>
          simp only [roomStep, htask]
          refine iff_of_true (neverStale_of_tasks ?_) fun _ => trivial
          obtain ⟨hlt, _⟩ := List.getElem?_eq_some_iff.mp htask
          apply List.ne_nil_of_length_pos
          rw [List.length_set]
          omega
      | invalidate =>
          simp only [roomStep, htask]
          exact iff_of_true (neverStale_of_no_entry rfl) fun _ => trivial
      | commit write =>
          simp only [roomStep, htask]
          exact neverStale_ends_iff htask (write.apply s.db) s.entry

/-- **One step.** -/
theorem neverStale_step_iff (py : Python) (s : RoomCache) (step : RoomStep) (h : NeverStale s) :
    NeverStale (roomStep py s step) ↔ KeepsFresh s step := by
  cases step with
  | sync => exact iff_of_true (neverStale_of_tasks (append_task_ne_nil _ _)) trivial
  | saveRoom atomic r =>
      refine iff_of_true ?_ trivial
      simp only [roomStep]
      split
      · exact h
      · split
        · exact neverStale_of_tasks (append_task_ne_nil _ _)
        · exact neverStale_of_tasks (append_task_ne_nil _ _)
  | saveBooking atomic b fresh =>
      refine iff_of_true ?_ trivial
      simp only [roomStep]
      split
      · exact h
      next db hsave =>
        split
        · split
          · exact neverStale_of_tasks (append_task_ne_nil _ _)
          · exact h
        · split
          · exact neverStale_of_tasks (append_task_ne_nil _ _)
          · -- the row of a booking is no room
            exact h.of_rooms (Db.saveBooking_eq_some_iff.mp hsave).2.2.2.1
  | deleteRoom roomId => exact neverStale_deleteRoom_iff h roomId
  | resume k => exact neverStale_resume_iff h k
  | expire => exact iff_of_true (neverStale_of_no_entry rfl) trivial

/-! ## §6. Runs. -/

/-- **The key never lists old rooms** along a run exactly if every step of it meets the
condition. -/
theorem roomCache_iff (py : Python) (db : Db) (steps : List RoomStep) :
    AllStates (roomStep py) NeverStale (emptyCache db) steps
      ↔ AllSteps (roomStep py) KeepsFresh (emptyCache db) steps :=
  allStates_iff_allSteps (K := fun _ => True) (fun _ _ _ => trivial)
    (fun s step _ hs => neverStale_step_iff py s step hs) trivial
    (neverStale_of_no_entry rfl) steps

/-- The key is refilled, then a room is deleted: the key still lists it. -/
theorem deleted_room_is_listed :
    ¬ ∀ (py : Python) (db : Db) (steps : List RoomStep),
      AllStates (roomStep py) NeverStale (emptyCache db) steps := by
  intro h
  have hlast := (h plainPython demoHotel.db [.sync, .resume 0, .deleteRoom 10]).last
  exact absurd (hlast rfl _ rfl) (by decide +kernel)

end HotelAgent
