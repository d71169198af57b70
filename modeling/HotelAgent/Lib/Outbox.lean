/-
  HotelAgent.Lib.Outbox — messages in buffers that may die.

  A message is accepted into a buffer and leaves it when it is settled.  A buffer
  that is closed takes what is still in it with it.

      accepted  =  settled  +  buffered  +  what went with a buffer

  Main results:
    * `kept_run_iff` — nothing has gone if and only if every buffer was empty
      when it was closed.
-/
import HotelAgent.Lib.Run
import Mathlib.Algebra.Order.Group.Multiset
import Mathlib.Tactic.Abel

namespace HotelAgent.Lib

variable {M : Type*}

/-! ## §1. The machine. -/

/-- The messages accepted and settled so far, and the buffers that are open. -/
structure Outbox (M : Type*) where
  accepted : List M
  settled : List M
  buffers : List (List M)

inductive BufferOp (M : Type*) where
  | opens
  /-- The `k`-th buffer accepts a message. -/
  | put (k : Nat) (m : M)
  /-- The first message of the `k`-th buffer is settled. -/
  | settle (k : Nat)
  | close (k : Nat)
  | closeAll

def bufferStep (s : Outbox M) : BufferOp M → Outbox M
  | .opens => { s with buffers := s.buffers ++ [[]] }
  | .put k m =>
    match s.buffers[k]? with
    | none => s
    | some q =>
      { s with accepted := s.accepted ++ [m], buffers := s.buffers.set k (q ++ [m]) }
  | .settle k =>
    match s.buffers[k]? with
    | some (m :: q) =>
      { s with settled := s.settled ++ [m], buffers := s.buffers.set k q }
    | _ => s
  | .close k => { s with buffers := s.buffers.eraseIdx k }
  | .closeAll => { s with buffers := [] }

/-- **Kept**: every accepted message is settled or in an open buffer. -/
def Kept (s : Outbox M) : Prop := s.accepted.Perm (s.settled ++ s.buffers.flatten)

/-- What goes with the buffers that an operation closes. -/
def closing (s : Outbox M) : BufferOp M → List M
  | .close k => s.buffers[k]?.getD []
  | .closeAll => s.buffers.flatten
  | _ => []

/-- The condition on an operation: what it closes is empty. -/
def ClosesEmpty (s : Outbox M) (op : BufferOp M) : Prop := closing s op = []

/-! ## §2. The balance. -/

/-- A buffer among the others. -/
theorem flatten_perm_of_getElem? {bs : List (List M)} {k : Nat} {q : List M}
    (h : bs[k]? = some q) : bs.flatten.Perm (q ++ (bs.eraseIdx k).flatten) := by
  induction bs generalizing k with
  | nil => exact absurd h (by simp)
  | cons b bs ih =>
      cases k with
      | zero =>
          injection h with h
          rw [h]
          exact List.Perm.refl _
      | succ k =>
          rw [List.eraseIdx_cons_succ, List.flatten_cons, List.flatten_cons]
          have hrest := (ih h).append_left b
          rw [← List.append_assoc] at hrest ⊢
          exact hrest.trans (List.perm_append_comm.append_right _)

theorem flatten_set_perm {bs : List (List M)} {k : Nat} {q : List M} (h : bs[k]? = some q)
    (q' : List M) : (bs.set k q').flatten.Perm (q' ++ (bs.eraseIdx k).flatten) := by
  have hk : k < bs.length := (List.getElem?_eq_some_iff.mp h).1
  have hset : (bs.set k q')[k]? = some q' := by simp [hk]
  have hperm := flatten_perm_of_getElem? hset
  rw [List.eraseIdx_set_eq] at hperm
  exact hperm

/-- **The balance of an operation**: what is accepted by it, and what was settled or buffered
before it, is settled or buffered after it or goes with a buffer. -/
theorem balance_step (s : Outbox M) (op : BufferOp M) :
    ((bufferStep s op).accepted ++ (s.settled ++ s.buffers.flatten)).Perm
      (s.accepted ++ ((bufferStep s op).settled ++ (bufferStep s op).buffers.flatten)
        ++ closing s op) := by
  cases op with
  | opens => simp [bufferStep, closing]
  | put k m =>
      cases hk : s.buffers[k]? with
      | none => simp [bufferStep, closing, hk]
      | some q =>
          have hbefore := flatten_perm_of_getElem? hk
          have hafter := flatten_set_perm hk (q ++ [m])
          simp only [bufferStep, closing, hk]
          simp only [← Multiset.coe_eq_coe, ← Multiset.coe_add] at hbefore hafter ⊢
          rw [hbefore, hafter, Multiset.coe_nil]
          abel
  | settle k =>
      rcases hk : s.buffers[k]? with _ | _ | ⟨m, q⟩
      · simp [bufferStep, closing, hk]
      · simp [bufferStep, closing, hk]
      · have hbefore := flatten_perm_of_getElem? hk
        have hafter := flatten_set_perm hk q
        simp only [bufferStep, closing, hk]
        rw [← List.singleton_append] at hbefore
        simp only [← Multiset.coe_eq_coe, ← Multiset.coe_add] at hbefore hafter ⊢
        rw [hbefore, hafter, Multiset.coe_nil]
        abel
  | close k =>
      cases hk : s.buffers[k]? with
      | none =>
          have hlen : s.buffers.length ≤ k := List.getElem?_eq_none_iff.mp hk
          simp [bufferStep, closing, hk, List.eraseIdx_of_length_le hlen]
      | some q =>
          have hbefore := flatten_perm_of_getElem? hk
          simp only [bufferStep, closing, hk, Option.getD_some]
          simp only [← Multiset.coe_eq_coe, ← Multiset.coe_add] at hbefore ⊢
          rw [hbefore]
          abel
  | closeAll =>
      simp only [bufferStep, closing, List.flatten_nil, List.append_nil, List.append_assoc]
      exact List.Perm.refl _

/-! ## §3. What is kept. -/

/-- What is settled or buffered was accepted; `gone` is the rest. -/
def Conserved (s : Outbox M) : Prop :=
  ∃ gone, s.accepted.Perm (s.settled ++ s.buffers.flatten ++ gone)

theorem Kept.conserved {s : Outbox M} (h : Kept s) : Conserved s :=
  ⟨[], by rw [List.append_nil]; exact h⟩

theorem conserved_step (s : Outbox M) (op : BufferOp M) (h : Conserved s) :
    Conserved (bufferStep s op) := by
  obtain ⟨gone, hperm⟩ := h
  refine ⟨closing s op ++ gone, ?_⟩
  have hbalance := balance_step s op
  simp only [← Multiset.coe_eq_coe, ← Multiset.coe_add] at hperm hbalance ⊢
  rw [hperm] at hbalance
  -- what was settled or buffered before stands on both sides
  apply add_right_cancel (b := (s.settled : Multiset M) + s.buffers.flatten)
  rw [hbalance]
  abel

/-- Where nothing is made up, it is enough to count. -/
theorem kept_iff_length {s : Outbox M} (h : Conserved s) :
    Kept s ↔ s.accepted.length ≤ s.settled.length + s.buffers.flatten.length := by
  obtain ⟨gone, hperm⟩ := h
  have hlen := hperm.length_eq
  rw [List.length_append, List.length_append] at hlen
  constructor
  · intro hkept
    have hlen' := List.Perm.length_eq hkept
    rw [List.length_append] at hlen'
    omega
  · intro hle
    have hnil : gone = [] := List.eq_nil_of_length_eq_zero (by omega)
    rw [hnil, List.append_nil] at hperm
    exact hperm

/-- **What an operation does to the count.** -/
theorem kept_bufferStep_iff (s : Outbox M) (op : BufferOp M) (h : Conserved s) :
    Kept (bufferStep s op) ↔ Kept s ∧ ClosesEmpty s op := by
  have hlen := (balance_step s op).length_eq
  simp only [List.length_append] at hlen
  have hconserved := h
  obtain ⟨gone, hperm⟩ := h
  have hgone := hperm.length_eq
  simp only [List.length_append] at hgone
  rw [kept_iff_length (conserved_step s op hconserved), kept_iff_length hconserved]
  unfold ClosesEmpty
  rw [← List.length_eq_zero_iff]
  constructor
  · intro hle
    constructor <;> omega
  · rintro ⟨hle, hclosing⟩
    omega

theorem conserved_run (s : Outbox M) (h : Conserved s) (ops : List (BufferOp M)) :
    Conserved (run bufferStep s ops) :=
  (allStates_of_step conserved_step h ops).last

/-- **Nothing is lost in a run**, if and only if nothing was lost before it and every buffer was
empty when it was closed. -/
theorem kept_run_iff (s : Outbox M) (h : Conserved s) (ops : List (BufferOp M)) :
    Kept (run bufferStep s ops) ↔ Kept s ∧ AllSteps bufferStep ClosesEmpty s ops := by
  induction ops generalizing s with
  | nil => exact (and_iff_left trivial).symm
  | cons op ops ih =>
      rw [run_cons, ih _ (conserved_step s op h), kept_bufferStep_iff s op h, and_assoc]
      rfl

end HotelAgent.Lib
