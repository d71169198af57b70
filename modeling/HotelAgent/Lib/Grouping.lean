/-
  HotelAgent.Lib.Grouping — `GROUP BY`.

  A grouped query has one row for each key that occurs among the rows of a table,
  and sees a group as it comes, in no order.

  Main results:
    * `find?_groupBy` — the row of a key is that of its group, if there is one.
    * `map_perm_of_matched` — what is observed of two groups is the same up to
      order, if their rows match one by one.
    * `sum_le_of_matched` — what every row counts no less of than before is no less
      in total.
-/
import HotelAgent.Lib.Table
import Mathlib

namespace HotelAgent.Lib

/-! ## §1. Groups. -/

section
variable {R A K : Type} [LinearOrder K]

/-- The keys that occur, the last first. -/
def groupKeys (key : R → K) (rows : List R) : List K :=
  (rows.map key).dedup.mergeSort fun a b => decide (b ≤ a)

theorem mem_groupKeys {key : R → K} {rows : List R} {k : K} :
    k ∈ groupKeys key rows ↔ ∃ r ∈ rows, key r = k := by
  unfold groupKeys
  rw [List.mem_mergeSort, List.mem_dedup, List.mem_map]

theorem nodup_groupKeys (key : R → K) (rows : List R) : (groupKeys key rows).Nodup := by
  unfold groupKeys
  exact (List.mergeSort_perm _ _).nodup_iff.mpr (List.nodup_dedup _)

/-- The rows of one key. -/
def group (key : R → K) (rows : List R) (k : K) : List R := rows.filter fun r => key r = k

theorem group_eq_nil_iff {key : R → K} {rows : List R} {k : K} :
    group key rows k = [] ↔ ¬ ∃ r ∈ rows, key r = k := by
  unfold group
  rw [List.filter_eq_nil_iff]
  constructor
  · intro h hsome
    obtain ⟨r, hr, hk⟩ := hsome
    exact h r hr (decide_eq_true hk)
  · intro h r hr hk
    exact h ⟨r, hr, of_decide_eq_true hk⟩

/-- `SELECT … FROM rows GROUP BY key ORDER BY key DESC`. -/
def groupBy (key : R → K) (rows : List R) (keyOf : A → K) (select : K → List R → A)
    (hkey : ∀ k rs, keyOf (select k rs) = k) : Table keyOf where
  rows := (groupKeys key rows).map fun k => select k (group key rows k)
  nodup := by
    rw [List.map_map]
    have hkeys : (keyOf ∘ fun k => select k (group key rows k)) = id :=
      funext fun k => hkey k _
    rw [hkeys, List.map_id]
    exact nodup_groupKeys key rows

/-- **The row of a key.** -/
theorem find?_groupBy {key : R → K} {rows : List R} {keyOf : A → K} {select : K → List R → A}
    {hkey : ∀ k rs, keyOf (select k rs) = k} (k : K) :
    (groupBy key rows keyOf select hkey).find? k
      = if group key rows k = [] then none else some (select k (group key rows k)) := by
  by_cases hempty : group key rows k = []
  · rw [if_pos hempty, Table.find?_eq_none_iff]
    intro row hrow hk
    -- every row is that of a key that occurs
    obtain ⟨k', hk', rfl⟩ := List.mem_map.mp hrow
    rw [hkey] at hk
    subst hk
    exact group_eq_nil_iff.mp hempty (mem_groupKeys.mp hk')
  · rw [if_neg hempty, Table.find?_eq_some_iff]
    have hoccurs : ∃ r ∈ rows, key r = k := by
      by_contra hnone
      exact hempty (group_eq_nil_iff.mpr hnone)
    exact ⟨List.mem_map.mpr ⟨k, mem_groupKeys.mpr hoccurs, rfl⟩, hkey k _⟩

end

/-! ## §2. The same groups. -/

section
variable {R O K : Type}

/-- Rows that match one by one are seen to be the same up to order. -/
theorem map_perm_of_matched {id : R → K} {see : R → O} {xs ys : List R}
    (hxs : (xs.map id).Nodup) (hys : (ys.map id).Nodup)
    (hid : ∀ x y, see x = see y → id x = id y)
    (hxy : ∀ x ∈ xs, ∃ y ∈ ys, see y = see x) (hyx : ∀ y ∈ ys, ∃ x ∈ xs, see x = see y) :
    (xs.map see).Perm (ys.map see) := by
  have hseen : ∀ rs : List R, (rs.map id).Nodup → (rs.map see).Nodup := by
    intro rs hrs
    rw [List.nodup_map_iff_inj_on (List.Nodup.of_map id hrs)]
    intro x hx y hy heq
    exact List.inj_on_of_nodup_map hrs hx hy (hid x y heq)
  -- without repetitions, the same members are enough
  rw [List.perm_ext_iff_of_nodup (hseen xs hxs) (hseen ys hys)]
  intro o
  simp only [List.mem_map]
  constructor
  · intro h
    obtain ⟨x, hx, rfl⟩ := h
    exact hxy x hx
  · intro h
    obtain ⟨y, hy, rfl⟩ := h
    exact hyx y hy

/-- **A total over rows that are still there**, each with no less than before. -/
theorem sum_le_of_matched {id : R → K} {amount : R → Nat} {xs ys : List R}
    (hxs : (xs.map id).Nodup) (h : ∀ x ∈ xs, ∃ y ∈ ys, id y = id x ∧ amount x ≤ amount y) :
    (xs.map amount).sum ≤ (ys.map amount).sum := by
  induction xs generalizing ys with
  | nil => exact Nat.zero_le _
  | cons x xs ih =>
      obtain ⟨y, hy, hid, hle⟩ := h x List.mem_cons_self
      -- take the match of the first row out, and match the others with the rest
      obtain ⟨before, after, rfl⟩ := List.append_of_mem hy
      rw [List.map_cons, List.nodup_cons] at hxs
      have hrest : (xs.map amount).sum ≤ ((before ++ after).map amount).sum := by
        apply ih hxs.2
        intro x' hx'
        obtain ⟨y', hy', hid', hle'⟩ := h x' (List.mem_cons_of_mem x hx')
        refine ⟨y', ?_, hid', hle'⟩
        rcases List.mem_append.mp hy' with hmem | hmem
        · exact List.mem_append_left after hmem
        · rcases List.mem_cons.mp hmem with heq | hmem
          · -- the match of `x` is taken
            have hsame : id x' = id x := by rw [← hid', heq, hid]
            exact absurd (hsame ▸ List.mem_map_of_mem hx') hxs.1
          · exact List.mem_append_right before hmem
      simp only [List.map_append, List.map_cons, List.sum_append, List.sum_cons] at hrest ⊢
      omega

/-- Rows that meet a condition, counted as a total. -/
theorem length_filter_eq_sum (p : R → Bool) (xs : List R) :
    (xs.filter p).length = (xs.map fun x => if p x then 1 else 0).sum := by
  induction xs with
  | nil => rfl
  | cons x xs ih =>
      rw [List.map_cons, List.sum_cons, ← ih]
      cases hp : p x with
      | true =>
          rw [List.filter_cons_of_pos hp, List.length_cons]
          simp only [if_true]
          omega
      | false => simp [hp]

end

end HotelAgent.Lib
