/-
  HotelAgent.Api.Pushes — which sockets a notification reaches.

  The groups are named in two places: `connect` prints the id of the user it has
  loaded, a push prints whatever id the event carries.  Both print the same text
  for one guest and different texts for two, so the pushes arrive.  The
  notification of the staff names a group that nobody joins.

  Main results:
    * `pushes_reach_guest` — every push for a guest reaches every open socket of
      the guest once, and no other socket.
    * `staff_told_iff_absent` — a run tells the staff of every new request if and
      only if no socket of the staff is open when it is told.
-/
import HotelAgent.Api.Sockets
import HotelAgent.Api.ServiceRequests

namespace HotelAgent

open Lib

/-! ## §1. Pushes to a guest. -/

/-- A push for a guest sends the notification to each open socket of the guest, once, and
nothing to any other socket. -/
def ReachesGuest (s : Sockets) : SocketEvent → Prop
  | .push guestId message data => ∀ g : Uuid, guestId = g.str → ∀ channel,
      Groups.received (s.handle (.push guestId message data)).2 channel
        = if s.OpenAs channel g then [notificationFrame message data] else []
  | _ => True

theorem guestGroup_injective {a b : Text} (h : guestGroup a = guestGroup b) : a = b :=
  List.append_cancel_left h

/-- The group of a guest lists the open sockets of the guest. -/
theorem lists_guestGroup {s : Sockets} (hs : Consistent s) (g : Uuid) (channel : Nat) :
    s.groups.Lists (guestGroup g.str) channel ↔ s.OpenAs channel g := by
  rw [hs.groups]
  unfold Sockets.Joined Sockets.OpenAs
  rw [Option.map_eq_some_iff]
  refine exists_congr fun u => and_congr_right fun _ => ?_
  constructor
  · intro h
    exact (Uuid.str_injective (guestGroup_injective h)).symm
  · intro h
    rw [h]

theorem reachesGuest_of_consistent {s : Sockets} (hs : Consistent s) (e : SocketEvent) :
    ReachesGuest s e := by
  cases e with
  | push guestId message data =>
      rintro g rfl channel
      have hreceived := received_groupSend s (guestGroup g.str) message data channel
      simp only [lists_guestGroup hs] at hreceived
      exact hreceived
  | connect users accessToken scope => trivial
  | disconnect channel => trivial
  | staffTask db requestId priority => trivial

/-- **Guest pushes reach exactly the right sockets.**  In every run of connects, disconnects,
pushes and staff notifications, each push for a guest sends one frame with its message and data
over every socket that is open then and authenticated as the guest, and nothing over any other
socket. -/
theorem pushes_reach_guest (es : List SocketEvent) : AllSteps socketStep ReachesGuest .start es :=
  (consistent_run es).allSteps fun _ e hs => reachesGuest_of_consistent hs e

/-! ## §2. Notifications of the staff. -/

/-- The socket is open and authenticated as a member of the staff. -/
def Sockets.OpenStaff (s : Sockets) (channel : Nat) : Prop :=
  ∃ u, s.openUser channel = some u ∧ u.role.isStaff = true

/-- A task for an existing service request sends its notification over each open socket of the
staff. -/
def TellsStaff (s : Sockets) : SocketEvent → Prop
  | .staffTask db requestId priority => ∀ r, requestId.bind db.serviceRequests.find? = some r →
      ∃ message data, staffMessage db r priority = some (message, data)
        ∧ ∀ channel, s.OpenStaff channel → notificationFrame message data
          ∈ Groups.received (s.handle (.staffTask db requestId priority)).2 channel
  | _ => True

/-- At a task for an existing service request no socket of the staff is open. -/
def StaffAbsent (s : Sockets) : SocketEvent → Prop
  | .staffTask db requestId _ => (requestId.bind db.serviceRequests.find?).isSome = true →
      ∀ channel, ¬ s.OpenStaff channel
  | _ => True

/-- The rows that the notification follows exist. -/
theorem staffMessage_isSome {db : Db} {r : ServiceRequest} (hr : r ∈ db.serviceRequests)
    (priority : Json) : ∃ message data, staffMessage db r priority = some (message, data) := by
  obtain ⟨hguest, hbooking, _⟩ := db.request_ok r hr
  obtain ⟨guest, hguest⟩ := Table.has_iff_find?.mp hguest
  obtain ⟨b, hb⟩ := Table.has_iff_find?.mp hbooking
  obtain ⟨room, hroom⟩ := Table.has_iff_find?.mp
    (db.room_of_booking (Table.mem_of_find? hb))
  exact ⟨_, _, by rw [staffMessage, hb, hguest]; simp only [hroom, Option.map_some]; rfl⟩

/-- Nobody is in the group of the staff. -/
theorem not_lists_staff {s : Sockets} (hs : Consistent s) (channel : Nat) :
    ¬ s.groups.Lists (txt "staff_notifications") channel := by
  rw [hs.groups]
  rintro ⟨u, _, hname⟩
  -- the names differ in the first letter
  have hhead := congrArg List.head? hname
  exact absurd hhead (by simp [guestGroup, txt]; decide)

/-- The notification of the staff is dropped. -/
theorem notifyStaff_nil {s : Sockets} (hs : Consistent s) (db : Db) (requestId : Option Uuid)
    (priority : Json) : s.notifyStaffOfServiceRequest db requestId priority = [] := by
  unfold Sockets.notifyStaffOfServiceRequest
  split
  · rw [Sockets.groupSend, Groups.send_of_not_lists (not_lists_staff hs)]
    rfl
  · rfl

theorem tellsStaff_iff {s : Sockets} (hs : Consistent s) (e : SocketEvent) :
    TellsStaff s e ↔ StaffAbsent s e := by
  cases e with
  | staffTask db requestId priority =>
      have hnone : (s.handle (.staffTask db requestId priority)).2 = [] :=
        notifyStaff_nil hs db requestId priority
      simp only [TellsStaff, StaffAbsent, hnone]
      constructor
      · intro h hsome channel hopen
        obtain ⟨r, hr⟩ := Option.isSome_iff_exists.mp hsome
        obtain ⟨message, data, _, htold⟩ := h r hr
        exact absurd (htold channel hopen) List.not_mem_nil
      · intro h r hr
        obtain ⟨pk, _, hfind⟩ := Option.bind_eq_some_iff.mp hr
        obtain ⟨message, data, hmessage⟩ :=
          staffMessage_isSome (Table.mem_of_find? hfind) priority
        exact ⟨message, data, hmessage, fun channel hopen =>
          absurd hopen (h (by rw [hr]; rfl) channel)⟩
  | connect users accessToken scope => exact Iff.rfl
  | disconnect channel => exact Iff.rfl
  | push guestId message data => exact Iff.rfl

/-- **The staff are told of new requests only when none of them is there.**  A run of connects,
disconnects, pushes and tasks tells every open socket of the staff of each existing request it
has a task for, if and only if at each such task no socket of the staff is open. -/
theorem staff_told_iff_absent (es : List SocketEvent) :
    AllSteps socketStep TellsStaff .start es ↔ AllSteps socketStep StaffAbsent .start es :=
  allSteps_congr consistent_step (fun _ e hs => tellsStaff_iff hs e) consistent_start es

/-- A manager connects, and a task runs for the request of the demo guest. -/
def managerWaits : List SocketEvent :=
  [.connect demoDesk.db.users (fun _ => .userId 3) ⟨[], none⟩,
    .staffTask demoDesk.db (some 30) (.str (txt "normal"))]

theorem manager_is_not_told : ¬ ∀ es, AllSteps socketStep TellsStaff .start es := by
  intro h
  obtain ⟨_, htask, _⟩ := h managerWaits
  obtain ⟨message, data, _, htold⟩ := htask demoRequest (by decide +kernel)
  have hopen : (socketStep .start (.connect demoDesk.db.users (fun _ => .userId 3)
      ⟨[], none⟩)).OpenStaff 0 := ⟨demoUser 3 "manager@hotel.com" .manager, rfl, rfl⟩
  exact absurd (htold 0 hopen) (by
    rw [Sockets.handle, notifyStaff_nil (consistent_step _ _ consistent_start)]
    exact List.not_mem_nil)

end HotelAgent
