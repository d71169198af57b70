/-
  HotelAgent.Lib.Potential — a stock that work uses up.

  A step does some work, and may bring something in.  What it leaves and what it
  has done are together no more than what it found and what it brought in:

      stock (step s i) + work s i  ≤  stock s + gain s i

  §2 has the stock of a log with a cursor, what stands in it from the cursor on,
  and §3 that of several logs side by side.

  Main results:
    * `stock_run` — the same balance for a whole run.
    * `length_le_stock` — steps that work and bring nothing in come to an end.
    * `exists_run_to_rest` — if there is something to do as long as there is a
      stock, then there is a run that leaves none.
-/
import HotelAgent.Lib.Run
import Mathlib

namespace HotelAgent.Lib

/-! ## §1. The balance. -/

section
variable {σ ι : Type*} {step : σ → ι → σ} {K : σ → Prop} {stock : σ → Nat}
  {work gain : σ → ι → Nat}

/-- **The balance of a run**: what is left and what has been done are no more than what was there
and what came in. -/
theorem stock_run (hK : ∀ s i, K s → K (step s i))
    (hstep : ∀ s i, K s → stock (step s i) + work s i ≤ stock s + gain s i) {s : σ} (hs : K s)
    (is : List ι) :
    stock (run step s is) + total step work s is ≤ stock s + total step gain s is := by
  induction is generalizing s with
  | nil => exact Nat.le_refl _
  | cons i is ih =>
      have hrest := ih (hK s i hs)
      have hfirst := hstep s i hs
      show stock (run step (step s i) is) + (work s i + total step work (step s i) is)
        ≤ stock s + (gain s i + total step gain (step s i) is)
      omega

/-- **No endless run**: what every step of it works on has been there before. -/
theorem length_le_stock (hK : ∀ s i, K s → K (step s i))
    (hstep : ∀ s i, K s → stock (step s i) + work s i ≤ stock s + gain s i) {s : σ} (hs : K s)
    {is : List ι} (h : AllSteps step (fun s i => 0 < work s i ∧ gain s i = 0) s is) :
    stock (run step s is) + is.length ≤ stock s := by
  induction is generalizing s with
  | nil => exact Nat.le_refl _
  | cons i is ih =>
      obtain ⟨⟨hwork, hgain⟩, hlater⟩ := h
      have hrest := ih (hK s i hs) hlater
      have hfirst := hstep s i hs
      show stock (run step (step s i) is) + (is.length + 1) ≤ stock s
      omega

/-- **A run to rest.**  Where a step that works and brings nothing in is possible as long as there
is a stock, such steps use it up. -/
theorem exists_run_to_rest {C : σ → ι → Prop} (hK : ∀ s i, K s → C s i → K (step s i))
    (hstep : ∀ s i, K s → C s i → stock (step s i) < stock s)
    (hbusy : ∀ s, K s → 0 < stock s → ∃ i, C s i) {s : σ} (hs : K s) :
    ∃ is, AllSteps step C s is ∧ stock (run step s is) = 0 := by
  -- what is left gets smaller with each step
  generalize hn : stock s = n
  induction n using Nat.strong_induction_on generalizing s with
  | _ n ih =>
      by_cases hrest : stock s = 0
      · exact ⟨[], trivial, hrest⟩
      · obtain ⟨i, hi⟩ := hbusy s hs (Nat.pos_of_ne_zero hrest)
        have hless : stock (step s i) < n := hn ▸ hstep s i hs hi
        obtain ⟨is, hall, hend⟩ := ih _ hless (hK s i hs hi) rfl
        exact ⟨i :: is, ⟨hi, hall⟩, hend⟩

end

/-! ## §2. A log and a cursor. -/

section
variable {α : Type*} (weight : α → Nat)

/-- What stands in the log from the cursor on. -/
def unread (log : List α) (cursor : Nat) : Nat := ((log.drop cursor).map weight).sum

/-- What is appended is all there is more to read. -/
theorem unread_append_le (log more : List α) (cursor : Nat) :
    unread weight (log ++ more) cursor ≤ unread weight log cursor + (more.map weight).sum := by
  unfold unread
  rw [List.drop_append, List.map_append, List.sum_append]
  -- behind the end of the old log the cursor has passed some of the new entries
  apply Nat.add_le_add_left
  exact List.Sublist.sum_le_sum ((List.drop_sublist _ more).map weight)
    fun n _ => Nat.zero_le n

/-- The cursor moves over one entry. -/
theorem unread_succ {log : List α} {cursor : Nat} {a : α} (h : log[cursor]? = some a) :
    unread weight log cursor = weight a + unread weight log (cursor + 1) := by
  obtain ⟨hlt, ha⟩ := List.getElem?_eq_some_iff.mp h
  unfold unread
  rw [List.drop_eq_getElem_cons hlt, List.map_cons, List.sum_cons, ha]

/-- Where every entry weighs something, nothing is left exactly behind the end. -/
theorem unread_eq_zero_iff (hpos : ∀ a, 0 < weight a) (log : List α) (cursor : Nat) :
    unread weight log cursor = 0 ↔ log.length ≤ cursor := by
  constructor
  · intro h
    by_contra hlt
    have hnext := unread_succ weight (List.getElem?_eq_getElem (Nat.lt_of_not_le hlt))
    have hweight := hpos (log.get ⟨cursor, Nat.lt_of_not_le hlt⟩)
    simp only [List.get_eq_getElem] at hweight
    omega
  · intro h
    unfold unread
    rw [List.drop_eq_nil_of_le h]
    rfl

end

/-! ## §3. Logs side by side. -/

section
variable {α κ : Type*} (weight : α → Nat) (S : Finset κ)

/-- What stands in the logs from their cursors on. -/
def unreadAll (logs : κ → List α) (cursor : κ → Nat) : Nat :=
  ∑ p ∈ S, unread weight (logs p) (cursor p)

/-- What other cursors bring back. -/
def broughtBack (logs : κ → List α) (cursor cursor' : κ → Nat) : Nat :=
  ∑ p ∈ S, (unread weight (logs p) (cursor' p) - unread weight (logs p) (cursor p))

theorem unreadAll_moved_le (logs : κ → List α) (cursor cursor' : κ → Nat) :
    unreadAll weight S logs cursor'
      ≤ unreadAll weight S logs cursor + broughtBack weight S logs cursor cursor' := by
  unfold unreadAll broughtBack
  rw [← Finset.sum_add_distrib]
  apply Finset.sum_le_sum
  intro p _
  omega

theorem unreadAll_eq_zero_iff (hpos : ∀ a, 0 < weight a) (logs : κ → List α)
    (cursor : κ → Nat) :
    unreadAll weight S logs cursor = 0 ↔ ∀ p ∈ S, (logs p).length ≤ cursor p := by
  unfold unreadAll
  rw [Finset.sum_eq_zero_iff]
  exact forall₂_congr fun p _ => unread_eq_zero_iff weight hpos (logs p) (cursor p)

variable [DecidableEq κ]

/-- One log grows by one entry. -/
theorem unreadAll_append_le (logs : κ → List α) (cursor : κ → Nat) (p : κ) (a : α) :
    unreadAll weight S (Function.update logs p (logs p ++ [a])) cursor
      ≤ unreadAll weight S logs cursor + if p ∈ S then weight a else 0 := by
  have hself : unread weight (Function.update logs p (logs p ++ [a]) p) (cursor p)
      ≤ unread weight (logs p) (cursor p) + weight a := by
    rw [Function.update_self]
    exact unread_append_le weight (logs p) [a] (cursor p)
  have hother : ∀ q ≠ p, unread weight (Function.update logs p (logs p ++ [a]) q) (cursor q)
      = unread weight (logs q) (cursor q) := by
    intro q hq
    rw [Function.update_of_ne hq]
  unfold unreadAll
  by_cases hp : p ∈ S
  · rw [if_pos hp, ← Finset.add_sum_erase S _ hp, ← Finset.add_sum_erase S _ hp,
      Finset.sum_congr rfl fun q hq => hother q (Finset.ne_of_mem_erase hq)]
    omega
  · rw [if_neg hp, Finset.sum_congr rfl fun q hq => hother q fun heq => hp (heq ▸ hq)]
    exact Nat.le_refl _

/-- One cursor moves over one entry. -/
theorem unreadAll_succ {logs : κ → List α} {cursor : κ → Nat} (cursor' : κ → Nat) {p : κ}
    (hp : p ∈ S) {a : α} (ha : (logs p)[cursor p]? = some a) (hself : cursor' p = cursor p + 1)
    (hother : ∀ q ≠ p, cursor' q = cursor q) :
    unreadAll weight S logs cursor = weight a + unreadAll weight S logs cursor' := by
  have hnext := unread_succ weight ha
  rw [← hself] at hnext
  unfold unreadAll
  rw [← Finset.add_sum_erase S _ hp, hnext, ← Finset.add_sum_erase S _ hp, Nat.add_assoc]
  congr 2
  apply Finset.sum_congr rfl
  intro q hq
  rw [hother q (Finset.ne_of_mem_erase hq)]

end

end HotelAgent.Lib
