/-
  HotelAgent.Lib.Partitions — what a partitioned log keeps of its order.

  A log of `n` entries is spread over slots.  A reader gets the entries of one
  slot in the order of the log, and those of different slots in any order.

  Some pairs of entries have to be read in the order of the log, say the
  beginning of a thing before its end.  Nothing but a common slot keeps them so.

  Main results:
    * `keepsOrder_iff_same_slot` — every schedule keeps the order of such pairs
      if and only if each pair has one slot.
    * `readInOrder_append_iff` — what this asks of entries that are added.
-/
import Mathlib.Data.List.Perm.Basic
import Mathlib.Data.List.Pairwise

namespace HotelAgent.Lib

variable {σ ρ : Type*}

/-! ## §1. Schedules. -/

/-- **A schedule**: every entry is read once, and those of one slot in the order of the log. -/
structure Schedule (slot : Nat → σ) (n : Nat) (order : List Nat) : Prop where
  perm : order.Perm (List.range n)
  inTurn : order.Pairwise fun a b => slot a = slot b → a < b

/-- No two entries that `before` relates are read against the order of the log. -/
def KeepsOrder (before : Nat → Nat → Prop) (order : List Nat) : Prop :=
  order.Pairwise fun a b => before b a → ¬ b < a

theorem keepsOrder_of_same_slot {slot : Nat → σ} {n : Nat} {before : Nat → Nat → Prop}
    (h : ∀ a b, a < b → b < n → before a b → slot a = slot b) {order : List Nat}
    (hs : Schedule slot n order) : KeepsOrder before order := by
  have hmem : ∀ a ∈ order, a < n := fun a ha => List.mem_range.mp (hs.perm.mem_iff.mp ha)
  refine List.Pairwise.imp_of_mem ?_ hs.inTurn
  intro a b ha _ hturn hbefore hlt
  have hsame := h b a hlt (hmem a ha) hbefore
  have := hturn hsame.symm
  omega

/-- The slot of `b` is read first. -/
theorem schedule_slot_first [DecidableEq σ] (slot : Nat → σ) (n b : Nat) :
    Schedule slot n ((List.range n).filter (fun a => slot a = slot b)
      ++ (List.range n).filter fun a => !decide (slot a = slot b)) where
  perm := List.filter_append_perm (fun a => decide (slot a = slot b)) (List.range n)
  inTurn := by
    have hsorted : ∀ p : Nat → Bool, ((List.range n).filter p).Pairwise
        fun a c => slot a = slot c → a < c := by
      intro p
      refine (List.pairwise_lt_range.filter p).imp ?_
      intro a c hlt _
      exact hlt
    refine List.pairwise_append.mpr ⟨hsorted _, hsorted _, ?_⟩
    intro a ha c hc hsame
    -- one entry has the slot of `b`, the other has not
    have hslot : slot a = slot b := by simpa using (List.mem_filter.mp ha).2
    have hother : slot c ≠ slot b := by simpa using (List.mem_filter.mp hc).2
    exact absurd (hsame.symm.trans hslot) hother

/-- **What keeps the order.**  Every schedule reads the related pairs in the order of the log, if
and only if each of them has one slot. -/
theorem keepsOrder_iff_same_slot [DecidableEq σ] (slot : Nat → σ) (n : Nat)
    (before : Nat → Nat → Prop) :
    (∀ order, Schedule slot n order → KeepsOrder before order)
      ↔ ∀ a b, a < b → b < n → before a b → slot a = slot b := by
  constructor
  · intro h a b hab hbn hbefore
    by_contra hne
    have hkeeps := h _ (schedule_slot_first slot n b)
    unfold KeepsOrder at hkeeps
    have hb : b ∈ (List.range n).filter fun a => decide (slot a = slot b) := by
      simp [hbn]
    have ha : a ∈ (List.range n).filter fun a => !decide (slot a = slot b) := by
      simp [hne, Nat.lt_trans hab hbn]
    exact (List.pairwise_append.mp hkeeps).2.2 b hb a ha hbefore hab
  · intro h order hs
    exact keepsOrder_of_same_slot h hs

/-! ## §2. Logs. -/

section
variable (slot : ρ → σ) (follows : ρ → ρ → Prop) (log : List ρ)

/-- The entry at `a` is to be read before the one at `b`. -/
def FollowsAt (a b : Nat) : Prop :=
  ∃ r ∈ log[a]?, ∃ r' ∈ log[b]?, follows r r'

/-- **Every reader gets related entries in order.** -/
def ReadInOrder : Prop :=
  ∀ order, Schedule (fun a => (log[a]?).map slot) log.length order →
    KeepsOrder (FollowsAt follows log) order

/-- **It is the slots of related entries that decide.** -/
theorem readInOrder_iff [DecidableEq σ] :
    ReadInOrder slot follows log
      ↔ log.Pairwise fun r r' => follows r r' → slot r = slot r' := by
  unfold ReadInOrder
  rw [keepsOrder_iff_same_slot, List.pairwise_iff_getElem]
  constructor
  · intro h a b ha hb hab hfollows
    have hsame := h a b hab hb
      ⟨log[a], List.getElem?_eq_getElem ha, log[b], List.getElem?_eq_getElem hb, hfollows⟩
    rw [List.getElem?_eq_getElem ha, List.getElem?_eq_getElem hb, Option.map_some,
      Option.map_some] at hsame
    exact Option.some.inj hsame
  · rintro h a b hab hb ⟨r, hr, r', hr', hfollows⟩
    obtain ⟨ha, rfl⟩ := List.getElem?_eq_some_iff.mp hr
    obtain ⟨_, rfl⟩ := List.getElem?_eq_some_iff.mp hr'
    rw [List.getElem?_eq_getElem ha, List.getElem?_eq_getElem hb, Option.map_some,
      Option.map_some, h a b ha hb hab hfollows]

/-- **Entries that are added**: they have the slots of the entries they follow, in the log and
among themselves. -/
theorem readInOrder_append_iff [DecidableEq σ] (new : List ρ)
    (h : ReadInOrder slot follows log) :
    ReadInOrder slot follows (log ++ new)
      ↔ (∀ r ∈ log, ∀ r' ∈ new, follows r r' → slot r = slot r')
        ∧ new.Pairwise fun r r' => follows r r' → slot r = slot r' := by
  rw [readInOrder_iff] at h ⊢
  rw [List.pairwise_append]
  constructor
  · rintro ⟨_, hnew, hcross⟩
    exact ⟨hcross, hnew⟩
  · rintro ⟨hcross, hnew⟩
    exact ⟨h, hnew, hcross⟩

end

end HotelAgent.Lib
