/-
  HotelAgent.Lib.Channels — groups of channels and messages to a group.

  A group is a name under which channels are listed; a message to the name goes
  to each channel listed at that moment.  The table carries the proof that no
  channel is listed twice under one name, so a message goes to a channel at most
  once.  Nothing is kept for a name that lists no channel.

  Main results:
    * `received_send` — a channel gets one copy of a message to a group if it is
      in the group, and none otherwise.
    * `Tracks.add`, `Tracks.discard` — a table that lists the members of a
      relation goes on doing so.
-/
import Mathlib.Data.List.Nodup

namespace HotelAgent.Lib

/-- Which channels of type `C` are in which group, named by `N`. -/
structure Groups (N C : Type*) where
  members : List (N × C)
  nodup : members.Nodup

namespace Groups

variable {N C M : Type*}

def empty : Groups N C := ⟨[], List.nodup_nil⟩

/-! ## §1. Members. -/

/-- `channel` is listed under `name`. -/
def Lists (groups : Groups N C) (name : N) (channel : C) : Prop := (name, channel) ∈ groups.members

@[simp] theorem not_lists_empty (name : N) (channel : C) :
    ¬ (empty : Groups N C).Lists name channel :=
  List.not_mem_nil

section
variable [DecidableEq N] [DecidableEq C]

instance (groups : Groups N C) (name : N) (channel : C) : Decidable (groups.Lists name channel) :=
  inferInstanceAs (Decidable (_ ∈ _))

/-- `group_add(name, channel)`. -/
def add (groups : Groups N C) (name : N) (channel : C) : Groups N C :=
  if h : (name, channel) ∈ groups.members then groups
  else ⟨(name, channel) :: groups.members, List.nodup_cons.mpr ⟨h, groups.nodup⟩⟩

/-- `group_discard(name, channel)`. -/
def discard (groups : Groups N C) (name : N) (channel : C) : Groups N C :=
  ⟨groups.members.filter (· ≠ (name, channel)), groups.nodup.filter _⟩

theorem lists_add {groups : Groups N C} {name name' : N} {channel channel' : C} :
    (groups.add name channel).Lists name' channel'
      ↔ groups.Lists name' channel' ∨ (name' = name ∧ channel' = channel) := by
  unfold add Lists
  split
  next hmem =>
    constructor
    · exact Or.inl
    · rintro (h | ⟨rfl, rfl⟩)
      · exact h
      · exact hmem
  next =>
    rw [List.mem_cons, Prod.mk.injEq]
    exact or_comm

theorem lists_discard {groups : Groups N C} {name name' : N} {channel channel' : C} :
    (groups.discard name channel).Lists name' channel'
      ↔ groups.Lists name' channel' ∧ ¬ (name' = name ∧ channel' = channel) := by
  unfold discard Lists
  rw [List.mem_filter, decide_eq_true_eq, ne_eq, Prod.mk.injEq]

end

/-! ## §2. Messages. -/

/-- The channels of a group. -/
def channels [DecidableEq N] (groups : Groups N C) (name : N) : List C :=
  (groups.members.filter (·.1 = name)).map (·.2)

/-- `group_send(name, message)`: what goes to which channel. -/
def send [DecidableEq N] (groups : Groups N C) (name : N) (message : M) : List (C × M) :=
  (groups.channels name).map fun channel => (channel, message)

/-- What a channel gets of a number of deliveries, in their order. -/
def received [DecidableEq C] (deliveries : List (C × M)) (channel : C) : List M :=
  (deliveries.filter (·.1 = channel)).map (·.2)

section
variable [DecidableEq N]

theorem mem_channels {groups : Groups N C} {name : N} {channel : C} :
    channel ∈ groups.channels name ↔ groups.Lists name channel := by
  unfold channels Lists
  rw [List.mem_map]
  constructor
  · rintro ⟨⟨n, c⟩, hmem, rfl⟩
    obtain ⟨hmem, hname⟩ := List.mem_filter.mp hmem
    rw [← show n = name by simpa using hname]
    exact hmem
  · intro h
    exact ⟨(name, channel), List.mem_filter.mpr ⟨h, by simp⟩, rfl⟩

theorem nodup_channels (groups : Groups N C) (name : N) : (groups.channels name).Nodup := by
  unfold channels
  refine List.Nodup.map_on ?_ (groups.nodup.filter _)
  rintro ⟨n, c⟩ hx ⟨n', c'⟩ hy heq
  -- two entries of one group differ in the channel only
  have hn : n = name := by simpa using (List.mem_filter.mp hx).2
  have hn' : n' = name := by simpa using (List.mem_filter.mp hy).2
  rw [hn, hn', show c = c' from heq]

/-- A message to a group without channels is dropped. -/
theorem send_of_not_lists {groups : Groups N C} {name : N}
    (h : ∀ channel, ¬ groups.Lists name channel) (message : M) :
    groups.send name message = [] := by
  have hnone : groups.channels name = [] :=
    List.eq_nil_iff_forall_not_mem.mpr fun channel hmem => h channel (mem_channels.mp hmem)
  rw [send, hnone, List.map_nil]

variable [DecidableEq C]

theorem received_map (cs : List C) (hnodup : cs.Nodup) (channel : C) (message : M) :
    received (cs.map fun c => (c, message)) channel = if channel ∈ cs then [message] else [] := by
  induction cs with
  | nil => rfl
  | cons c cs ih =>
      obtain ⟨hc, hrest⟩ := List.nodup_cons.mp hnodup
      have ih := ih hrest
      unfold received at ih ⊢
      rw [List.map_cons, List.filter_cons]
      by_cases heq : c = channel
      · subst heq
        rw [if_neg hc] at ih
        simp [ih]
      · have heq' : ¬ channel = c := fun h => heq h.symm
        simp [heq, heq', ih]

/-- **One copy for each member of the group, none for anybody else.** -/
theorem received_send (groups : Groups N C) (name : N) (message : M) (channel : C) :
    received (groups.send name message) channel
      = if groups.Lists name channel then [message] else [] := by
  rw [send, received_map _ (groups.nodup_channels name)]
  simp only [mem_channels]

end

/-! ## §3. A table of a relation. -/

/-- The table lists exactly what is related. -/
def Tracks (groups : Groups N C) (R : N → C → Prop) : Prop :=
  ∀ name channel, groups.Lists name channel ↔ R name channel

variable {groups : Groups N C} {R R' : N → C → Prop}

theorem tracks_empty (h : ∀ name channel, ¬ R name channel) : (empty : Groups N C).Tracks R :=
  fun name channel => iff_of_false (not_lists_empty name channel) (h name channel)

theorem Tracks.congr (h : groups.Tracks R) (hR : ∀ name channel, R' name channel ↔ R name channel) :
    groups.Tracks R' :=
  fun name channel => (h name channel).trans (hR name channel).symm

variable [DecidableEq N] [DecidableEq C]

theorem Tracks.add (h : groups.Tracks R) (name : N) (channel : C)
    (hR : ∀ n c, R' n c ↔ R n c ∨ (n = name ∧ c = channel)) :
    (groups.add name channel).Tracks R' := by
  intro n c
  rw [lists_add, h n c, hR n c]

theorem Tracks.discard (h : groups.Tracks R) (name : N) (channel : C)
    (hR : ∀ n c, R' n c ↔ R n c ∧ ¬ (n = name ∧ c = channel)) :
    (groups.discard name channel).Tracks R' := by
  intro n c
  rw [lists_discard, h n c, hR n c]

end Groups

end HotelAgent.Lib
