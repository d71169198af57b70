/-
  HotelAgent.Lib.Listings — `ORDER BY`.

  An order compares rows by one key, and rows that are alike in it by the next.
  Rows that are alike in every key come in any order, so a table has a listing,
  but not always one listing.

  Main result, `listings_refine_iff`: the listings by one order are listings by
  another, exactly if any two rows of the table that may follow each other in the
  one may do so in the other.
-/
import Mathlib.Data.List.Pairwise
import Mathlib.Data.List.Sort
import Mathlib.Order.Basic

namespace HotelAgent.Lib

variable {R K : Type}

/-! ## §1. Orders. -/

/-- `key ASC`: `a` may stand before `b`. -/
def ascending [LE K] (key : R → K) (a b : R) : Prop := key a ≤ key b

/-- `key DESC` -/
def descending [LE K] (key : R → K) (a b : R) : Prop := key b ≤ key a

/-- `first, second` -/
def thenBy (first second : R → R → Prop) (a b : R) : Prop :=
  first a b ∧ (first b a → second a b)

/-- What an order of rows is: any two may follow each other one way, and there is no way back. -/
structure IsOrder (r : R → R → Prop) : Prop where
  total : ∀ a b, r a b ∨ r b a
  trans : ∀ {a b c}, r a b → r b c → r a c

theorem isOrder_descending [LinearOrder K] (key : R → K) : IsOrder (descending key) where
  total := fun a b => le_total (key b) (key a)
  trans := fun hab hbc => le_trans hbc hab

theorem IsOrder.thenBy {first second : R → R → Prop} (h : IsOrder first) (h' : IsOrder second) :
    IsOrder (thenBy first second) where
  total := by
    intro a b
    by_cases hab : first a b
    · by_cases hba : first b a
      · -- alike in the first key
        rcases h'.total a b with hs | hs
        · exact .inl ⟨hab, fun _ => hs⟩
        · exact .inr ⟨hba, fun _ => hs⟩
      · exact .inl ⟨hab, fun h => absurd h hba⟩
    · have hba := (h.total a b).resolve_left hab
      exact .inr ⟨hba, fun h => absurd h hab⟩
  trans := by
    rintro a b c ⟨hab, hab'⟩ ⟨hbc, hbc'⟩
    refine ⟨h.trans hab hbc, fun hca => ?_⟩
    -- all three are alike in the first key
    exact h'.trans (hab' (h.trans hbc hca)) (hbc' (h.trans hca hab))

theorem IsOrder.refl {r : R → R → Prop} (h : IsOrder r) (a : R) : r a a :=
  (h.total a a).elim id id

/-! ## §2. Listings. -/

/-- All the rows, in the order `r`. -/
structure IsListing (r : R → R → Prop) (rows listing : List R) : Prop where
  perm : listing.Perm rows
  sorted : listing.Pairwise r

/-- A table has a listing. -/
theorem IsOrder.exists_listing {r : R → R → Prop} (h : IsOrder r) (rows : List R) :
    ∃ listing, IsListing r rows listing := by
  classical
  let le : R → R → Bool := fun a b => decide (r a b)
  refine ⟨rows.mergeSort le, List.mergeSort_perm rows le, ?_⟩
  have hsorted : (rows.mergeSort le).Pairwise fun a b => le a b = true := by
    refine List.pairwise_mergeSort (fun a b c hab hbc => ?_) (fun a b => ?_) rows
    · exact decide_eq_true (h.trans (of_decide_eq_true hab) (of_decide_eq_true hbc))
    · rw [Bool.or_eq_true]
      exact (h.total a b).imp decide_eq_true decide_eq_true
  exact hsorted.imp fun hab => of_decide_eq_true hab

/-- Of two rows of a listing that may not change places, the first stands first. -/
theorem IsListing.follows {r s : R → R → Prop} (hr : IsOrder r) {rows listing : List R}
    (h : IsListing r rows listing) (hs : listing.Pairwise s) {a b : R} (ha : a ∈ rows)
    (hb : b ∈ rows) (hback : ¬ r b a) : s a b := by
  let eitherWay : R → R → Prop := fun x y => x = y ∨ (r x y ∧ s x y) ∨ (r y x ∧ s y x)
  have hsymm : Std.Symm eitherWay :=
    { symm := fun x y hxy => hxy.imp Eq.symm Or.symm }
  have hboth : listing.Pairwise eitherWay :=
    (h.sorted.and hs).imp fun hxy => .inr (.inl hxy)
  rcases hboth.forall_of_forall (fun x _ => .inl rfl) (h.perm.mem_iff.mpr ha)
      (h.perm.mem_iff.mpr hb) with heq | hab | hba
  · exact absurd (heq ▸ hr.refl a) hback
  · exact hab.2
  · exact absurd hba.1 hback

/-- **The listings by one order are listings by another**, exactly if two rows that may follow
each other in the one may do so in the other; rows that are alike in the one are alike in the
other. -/
theorem listings_refine_iff {r s : R → R → Prop} (hr : IsOrder r)
    (halike : ∀ a b, r a b → r b a → s a b) (rows : List R) :
    (∀ listing, IsListing r rows listing → IsListing s rows listing)
      ↔ ∀ a ∈ rows, ∀ b ∈ rows, r a b → s a b := by
  constructor
  · intro h a ha b hb hab
    by_cases hback : r b a
    · exact halike a b hab hback
    · obtain ⟨listing, hlisting⟩ := hr.exists_listing rows
      exact hlisting.follows hr (h listing hlisting).sorted ha hb hback
  · intro h listing hlisting
    refine ⟨hlisting.perm, hlisting.sorted.imp_of_mem fun ha hb hab => ?_⟩
    exact h _ (hlisting.perm.mem_iff.mp ha) _ (hlisting.perm.mem_iff.mp hb) hab

end HotelAgent.Lib
