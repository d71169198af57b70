/-
  HotelAgent.Lib.Table — database tables with a primary key.

  A table is the list of its rows together with the proof that no two rows
  share a primary key, so a table with duplicate keys cannot be built.  The
  operations are the statements an ORM sends:

      find?        — SELECT … WHERE pk = k
      insert?      — INSERT (refused when the key is taken)
      updateWhere  — UPDATE … SET … WHERE p
      save         — UPDATE … WHERE pk, and INSERT when no row matched
      erase        — DELETE … WHERE pk = k

  Every operation is characterised by which rows are in the result
  (`mem_insert?`, `mem_updateWhere`, `mem_save`, `mem_erase`) and by what a
  lookup finds in it; proofs above never unfold the row list.  `Has` is what a
  foreign key refers to.  A statement that only reaches rows outside of `p`
  leaves the rows in `p` as they stand, in their order (`filter_save`,
  `filter_updateWhere`, `filter_erase`); `count_*` says what each statement does
  to the number of rows in `p`.
-/
import Mathlib.Data.List.Nodup

namespace HotelAgent.Lib

variable {R K : Type*}

/-- Rows of type `R` with primary key `key`. -/
structure Table (key : R → K) where
  rows : List R
  nodup : (rows.map key).Nodup

namespace Table

variable {key : R → K}

instance : Membership R (Table key) := ⟨fun t r => r ∈ t.rows⟩

theorem mem_def {t : Table key} {r : R} : r ∈ t ↔ r ∈ t.rows := Iff.rfl

instance [DecidableEq R] (t : Table key) (r : R) : Decidable (r ∈ t) :=
  inferInstanceAs (Decidable (r ∈ t.rows))

@[ext] theorem ext {t u : Table key} (h : t.rows = u.rows) : t = u := by
  cases t
  cases u
  cases h
  rfl

/-- The table without rows. -/
def empty : Table key := ⟨[], List.nodup_nil⟩

@[simp] theorem not_mem_empty (r : R) : r ∉ (empty : Table key) := List.not_mem_nil

/-- A key names at most one row. -/
theorem eq_of_key_eq {t : Table key} {r s : R} (hr : r ∈ t) (hs : s ∈ t)
    (h : key r = key s) : r = s :=
  List.inj_on_of_nodup_map t.nodup hr hs h

variable [DecidableEq K]

/-! ## §1. SELECT by primary key. -/

/-- The row with key `k`. -/
def find? (t : Table key) (k : K) : Option R := t.rows.find? (fun r => key r = k)

theorem find?_eq_some_iff {t : Table key} {k : K} {r : R} :
    t.find? k = some r ↔ r ∈ t ∧ key r = k := by
  constructor
  · intro h
    exact ⟨List.mem_of_find?_eq_some h, by simpa using List.find?_some h⟩
  · rintro ⟨hr, rfl⟩
    cases hf : t.find? (key r) with
    | none =>
        have := List.find?_eq_none.mp hf r hr
        simp at this
    | some s =>
        have hs : s ∈ t := List.mem_of_find?_eq_some hf
        have hk : key s = key r := by simpa using List.find?_some hf
        rw [eq_of_key_eq hs hr hk]

theorem mem_of_find? {t : Table key} {k : K} {r : R} (h : t.find? k = some r) : r ∈ t :=
  (find?_eq_some_iff.mp h).1

theorem key_of_find? {t : Table key} {k : K} {r : R} (h : t.find? k = some r) : key r = k :=
  (find?_eq_some_iff.mp h).2

theorem find?_eq_none_iff {t : Table key} {k : K} :
    t.find? k = none ↔ ∀ r ∈ t, key r ≠ k := by
  simp only [find?, List.find?_eq_none, decide_eq_true_eq, mem_def, ne_eq]

theorem find?_of_mem {t : Table key} {r : R} (h : r ∈ t) : t.find? (key r) = some r :=
  find?_eq_some_iff.mpr ⟨h, rfl⟩

/-- SELECT by key among the rows in `p`. -/
theorem find?_filter {t : Table key} {p : R → Bool} {k : K} :
    (t.rows.filter p).find? (fun r => key r = k) = (t.find? k).filter p := by
  cases hrow : t.find? k with
  | none =>
      rw [Option.filter_none, List.find?_eq_none]
      intro r hr hk
      exact find?_eq_none_iff.mp hrow r (List.mem_filter.mp hr).1 (of_decide_eq_true hk)
  | some r =>
      obtain ⟨hr, hk⟩ := find?_eq_some_iff.mp hrow
      cases hp : p r with
      | true =>
          rw [Option.filter_some, if_pos hp]
          cases hfound : (t.rows.filter p).find? (fun r => key r = k) with
          | none =>
              have hne := List.find?_eq_none.mp hfound r (List.mem_filter.mpr ⟨hr, hp⟩)
              exact absurd (decide_eq_true hk) hne
          | some x =>
              have hx := (List.mem_filter.mp (List.mem_of_find?_eq_some hfound)).1
              have hkx : key x = k := by simpa using List.find?_some hfound
              rw [eq_of_key_eq hx hr (hkx.trans hk.symm)]
      | false =>
          rw [Option.filter_some, if_neg (by rw [hp]; decide), List.find?_eq_none]
          intro x hx hkx
          obtain ⟨hmem, hpx⟩ := List.mem_filter.mp hx
          rw [eq_of_key_eq hmem hr ((of_decide_eq_true hkx).trans hk.symm), hp] at hpx
          exact absurd hpx (by decide)

/-! ## §2. INSERT. -/

/-- Append a row; `none` when its key is taken. -/
def insert? (t : Table key) (r : R) : Option (Table key) :=
  if h : key r ∈ t.rows.map key then none
  else some ⟨t.rows ++ [r], by
    rw [List.map_append, List.map_singleton, List.nodup_append]
    refine ⟨t.nodup, List.nodup_singleton _, ?_⟩
    intro a ha b hb hab
    rw [List.mem_singleton.mp hb] at hab
    exact h (hab ▸ ha)⟩

theorem insert?_eq_some_iff {t u : Table key} {r : R} :
    t.insert? r = some u ↔ (∀ x ∈ t, key x ≠ key r) ∧ u.rows = t.rows ++ [r] := by
  unfold insert?
  split
  next h =>
    obtain ⟨x, hx, hk⟩ := List.mem_map.mp h
    simp only [reduceCtorEq, false_iff, not_and]
    intro hall
    exact absurd hk (hall x hx)
  next h =>
    have hall : ∀ x ∈ t, key x ≠ key r := fun x hx hk => h (List.mem_map.mpr ⟨x, hx, hk⟩)
    simp only [Option.some.injEq]
    constructor
    · rintro rfl
      exact ⟨hall, rfl⟩
    · rintro ⟨_, hu⟩
      exact ext hu.symm

theorem insert?_eq_none_iff {t : Table key} {r : R} :
    t.insert? r = none ↔ ∃ x ∈ t, key x = key r := by
  unfold insert?
  split
  next h => exact ⟨fun _ => List.mem_map.mp h, fun _ => rfl⟩
  next h =>
    simp only [reduceCtorEq, false_iff]
    rintro ⟨x, hx, hk⟩
    exact h (List.mem_map.mpr ⟨x, hx, hk⟩)

theorem mem_insert? {t u : Table key} {r : R} (h : t.insert? r = some u) (x : R) :
    x ∈ u ↔ x ∈ t ∨ x = r := by
  simp only [mem_def, (insert?_eq_some_iff.mp h).2, List.mem_append, List.mem_singleton]

/-! ## §3. UPDATE. -/

omit [DecidableEq K] in
/-- Rewriting rows without touching their keys keeps the keys distinct. -/
private theorem nodup_map_of_key_eq (t : Table key) (f : R → R)
    (hf : ∀ r ∈ t, key (f r) = key r) : ((t.rows.map f).map key).Nodup := by
  have : (t.rows.map f).map key = t.rows.map key := by
    rw [List.map_map]
    exact List.map_congr_left hf
  rw [this]
  exact t.nodup

/-- Apply `f` to every row that satisfies `p`. -/
def updateWhere (t : Table key) (p : R → Bool) (f : R → R)
    (hf : ∀ r, key (f r) = key r := by intros; rfl) : Table key :=
  ⟨t.rows.map (fun r => if p r then f r else r),
    t.nodup_map_of_key_eq _ fun r _ => by
      split
      · exact hf r
      · rfl⟩

omit [DecidableEq K] in
theorem mem_updateWhere {t : Table key} {p : R → Bool} {f : R → R}
    {hf : ∀ r, key (f r) = key r} {x : R} :
    x ∈ t.updateWhere p f hf ↔ ∃ r ∈ t, (if p r then f r else r) = x := by
  simp only [mem_def, updateWhere, List.mem_map]

omit [DecidableEq K] in
/-- What holds of every row still does, exactly if it does of the rewritten ones. -/
theorem forall_updateWhere_iff {t : Table key} {p : R → Bool} {f : R → R}
    {hf : ∀ r, key (f r) = key r} {P : R → Prop} (h : ∀ r ∈ t, P r) :
    (∀ x ∈ t.updateWhere p f hf, P x) ↔ ∀ r ∈ t, p r = true → P (f r) := by
  constructor
  · intro hall r hr hp
    exact hall (f r) (mem_updateWhere.mpr ⟨r, hr, if_pos hp⟩)
  · intro hall x hx
    obtain ⟨r, hr, rfl⟩ := mem_updateWhere.mp hx
    split
    next hp => exact hall r hr hp
    next => exact h r hr

theorem find?_updateWhere {t : Table key} {p : R → Bool} {f : R → R}
    {hf : ∀ r, key (f r) = key r} (k : K) :
    (t.updateWhere p f hf).find? k = (t.find? k).map (fun r => if p r then f r else r) := by
  cases h : t.find? k with
  | none =>
      refine find?_eq_none_iff.mpr fun x hx => ?_
      obtain ⟨r, hr, rfl⟩ := mem_updateWhere.mp hx
      have hne := find?_eq_none_iff.mp h r hr
      split
      · rw [hf]
        exact hne
      · exact hne
  | some r =>
      obtain ⟨hr, rfl⟩ := find?_eq_some_iff.mp h
      refine find?_eq_some_iff.mpr ⟨mem_updateWhere.mpr ⟨r, hr, rfl⟩, ?_⟩
      show key (if p r then f r else r) = key r
      split
      · exact hf r
      · rfl

/-- Write row `r` over the row with its key. -/
def put (t : Table key) (r : R) : Table key :=
  ⟨t.rows.map (fun x => if key x = key r then r else x),
    t.nodup_map_of_key_eq _ fun x _ => by
      split
      next hk => exact hk.symm
      next => rfl⟩

/-- Write row `r` whole: over the row with its key, or as a new row when there
is none. -/
def save (t : Table key) (r : R) : Table key := (t.insert? r).getD (t.put r)

theorem mem_save {t : Table key} {r x : R} :
    x ∈ t.save r ↔ x = r ∨ (x ∈ t ∧ key x ≠ key r) := by
  unfold save
  cases h : t.insert? r with
  | some u =>
      rw [Option.getD_some, mem_insert? h]
      have hne := (insert?_eq_some_iff.mp h).1
      constructor
      · rintro (hx | rfl)
        · exact .inr ⟨hx, hne x hx⟩
        · exact .inl rfl
      · rintro (rfl | ⟨hx, _⟩)
        · exact .inr rfl
        · exact .inl hx
  | none =>
      -- the key is taken by `y`, which is the row written over
      obtain ⟨y, hy, hkey⟩ := insert?_eq_none_iff.mp h
      simp only [Option.getD_none, put, mem_def, List.mem_map]
      constructor
      · rintro ⟨z, hz, rfl⟩
        split
        · exact .inl rfl
        next hk => exact .inr ⟨hz, hk⟩
      · rintro (rfl | ⟨hx, hk⟩)
        · exact ⟨y, hy, if_pos hkey⟩
        · exact ⟨x, hx, if_neg hk⟩

theorem find?_save_self (t : Table key) (r : R) : (t.save r).find? (key r) = some r :=
  find?_eq_some_iff.mpr ⟨mem_save.mpr (.inl rfl), rfl⟩

/-! ## §4. DELETE. -/

/-- Remove the row with key `k`. -/
def erase (t : Table key) (k : K) : Table key :=
  ⟨t.rows.filter (fun r => key r ≠ k),
    List.Nodup.sublist (List.Sublist.map key List.filter_sublist) t.nodup⟩

theorem mem_erase {t : Table key} {k : K} {x : R} :
    x ∈ t.erase k ↔ x ∈ t ∧ key x ≠ k := by
  simp only [mem_def, erase, List.mem_filter, decide_eq_true_eq]

/-! ## §5. Foreign keys. -/

/-- Some row has the key `k`. -/
def Has (t : Table key) (k : K) : Prop := ∃ r ∈ t, key r = k

instance (t : Table key) (k : K) : Decidable (t.Has k) :=
  inferInstanceAs (Decidable (∃ r ∈ t.rows, key r = k))

theorem has_iff_find? {t : Table key} {k : K} : t.Has k ↔ ∃ r, t.find? k = some r := by
  simp only [Has, find?_eq_some_iff]

@[simp] theorem has_updateWhere {t : Table key} {p : R → Bool} {f : R → R}
    {hf : ∀ r, key (f r) = key r} {k : K} : (t.updateWhere p f hf).Has k ↔ t.Has k := by
  simp only [has_iff_find?, find?_updateWhere, Option.map_eq_some_iff]
  exact ⟨fun ⟨_, r, hr, _⟩ => ⟨r, hr⟩, fun ⟨r, hr⟩ => ⟨_, r, hr, rfl⟩⟩

theorem Has.insert? {t u : Table key} {r : R} {k : K} (h : t.Has k) (hu : t.insert? r = some u) :
    u.Has k := by
  obtain ⟨x, hx, hk⟩ := h
  exact ⟨x, (mem_insert? hu x).mpr (.inl hx), hk⟩

theorem Has.save {t : Table key} {r : R} {k : K} (h : t.Has k) : (t.save r).Has k := by
  obtain ⟨x, hx, rfl⟩ := h
  by_cases hk : key x = key r
  · exact ⟨r, mem_save.mpr (.inl rfl), hk.symm⟩
  · exact ⟨x, mem_save.mpr (.inr ⟨hx, hk⟩), rfl⟩

theorem Has.erase {t : Table key} {k l : K} (h : t.Has k) (hkl : k ≠ l) : (t.erase l).Has k := by
  obtain ⟨x, hx, rfl⟩ := h
  exact ⟨x, mem_erase.mpr ⟨hx, hkl⟩, rfl⟩

/-! ## §6. Writing over one row. -/

omit [DecidableEq K] in
theorem has_of_mem {t : Table key} {r : R} (h : r ∈ t) : t.Has (key r) := ⟨r, h, rfl⟩

/-- A save over an existing row. -/
theorem save_of_has {t : Table key} {r : R} (h : t.Has (key r)) : t.save r = t.put r := by
  unfold save
  rw [insert?_eq_none_iff.mpr h]
  rfl

/-- A save of a row with a new key. -/
theorem rows_save_of_not_has {t : Table key} {r : R} (h : ¬ t.Has (key r)) :
    (t.save r).rows = t.rows ++ [r] := by
  unfold save
  cases hu : t.insert? r with
  | some u => exact (insert?_eq_some_iff.mp hu).2
  | none => exact absurd (insert?_eq_none_iff.mp hu) h

/-- An UPDATE of the row with one key. -/
theorem updateWhere_key {t : Table key} {f : R → R} {hf : ∀ r, key (f r) = key r} {r : R}
    (hr : r ∈ t) : t.updateWhere (fun x => key x = key r) f hf = t.put (f r) := by
  refine ext (List.map_congr_left fun x hx => ?_)
  simp only [decide_eq_true_eq, hf]
  by_cases hk : key x = key r
  · rw [if_pos hk, if_pos hk, eq_of_key_eq hx hr hk]
  · rw [if_neg hk, if_neg hk]

/-- A row written over itself. -/
theorem put_self {t : Table key} {r : R} (hr : r ∈ t) : t.put r = t := by
  refine ext ((List.map_congr_left fun x hx => ?_).trans (List.map_id t.rows))
  show (if key x = key r then r else x) = x
  split
  next hk => exact (eq_of_key_eq hx hr hk).symm
  next => rfl

theorem mem_put {t : Table key} {r x : R} (h : t.Has (key r)) :
    x ∈ t.put r ↔ x = r ∨ (x ∈ t ∧ key x ≠ key r) := by
  rw [← save_of_has h]
  exact mem_save

theorem find?_put_self {t : Table key} {r : R} (h : t.Has (key r)) :
    (t.put r).find? (key r) = some r := by
  rw [← save_of_has h]
  exact find?_save_self t r

/-- **An observation of every row** is the same after a write over `r` if and only
if it is the same of the new row. -/
theorem map_put_eq_iff {α : Type*} {t : Table key} {g : R → α} {r r' : R} (hr : r ∈ t)
    (hk : key r' = key r) : (t.put r').rows.map g = t.rows.map g ↔ g r' = g r := by
  show (t.rows.map fun x => if key x = key r' then r' else x).map g = t.rows.map g ↔ g r' = g r
  rw [List.map_map, List.map_inj_left]
  constructor
  · intro h
    have hg := h r hr
    simpa [hk] using hg
  · intro hg x hx
    show g (if key x = key r' then r' else x) = g x
    split
    next hkx =>
      rw [eq_of_key_eq hx hr (hkx.trans hk)]
      exact hg
    next => rfl

omit [DecidableEq K] in
/-- An observation that the UPDATE does not touch. -/
theorem map_updateWhere {α : Type*} {t : Table key} {p : R → Bool} {f : R → R}
    (hf : ∀ r, key (f r) = key r) {g : R → α} (h : ∀ r ∈ t, p r = true → g (f r) = g r) :
    (t.updateWhere p f hf).rows.map g = t.rows.map g := by
  show (t.rows.map fun r => if p r then f r else r).map g = t.rows.map g
  rw [List.map_map]
  refine List.map_congr_left fun r hr => ?_
  show g (if p r then f r else r) = g r
  split
  next hp => exact h r hr hp
  next => rfl

/-! ## §7. Rows that a statement does not reach. -/

/-- Two lists of changes that a filter does not see. -/
private theorem filter_map_of_hidden {p : R → Bool} {f : R → R} {rows : List R}
    (h : ∀ r ∈ rows, f r = r ∨ (p r = false ∧ p (f r) = false)) :
    (rows.map f).filter p = rows.filter p := by
  induction rows with
  | nil => rfl
  | cons r rows ih =>
      have hrest := ih fun x hx => h x (List.mem_cons_of_mem r hx)
      rw [List.map_cons, List.filter_cons, List.filter_cons, hrest]
      rcases h r List.mem_cons_self with heq | ⟨hr, hfr⟩
      · rw [heq]
      · rw [hr, hfr]
        rfl

omit [DecidableEq K] in
/-- An UPDATE of rows outside of `p` that leaves them outside. -/
theorem filter_updateWhere {t : Table key} {p q : R → Bool} {f : R → R}
    {hf : ∀ r, key (f r) = key r}
    (h : ∀ r ∈ t, q r = true → p r = false ∧ p (f r) = false) :
    (t.updateWhere q f hf).rows.filter p = t.rows.filter p := by
  refine filter_map_of_hidden fun r hr => ?_
  by_cases hq : q r = true
  · rw [if_pos hq]
    exact .inr (h r hr hq)
  · rw [if_neg hq]
    exact .inl rfl

/-- An INSERT of a row outside of `p`. -/
theorem filter_insert? {t u : Table key} {p : R → Bool} {r : R} (hu : t.insert? r = some u)
    (hr : p r = false) : u.rows.filter p = t.rows.filter p := by
  rw [(insert?_eq_some_iff.mp hu).2, List.filter_append, List.filter_singleton, hr]
  exact List.append_nil _

/-- A save of a row outside of `p`, over a row that is outside as well. -/
theorem filter_save {t : Table key} {p : R → Bool} {r : R} (hr : p r = false)
    (hold : ∀ x ∈ t, key x = key r → p x = false) :
    (t.save r).rows.filter p = t.rows.filter p := by
  unfold save
  cases hu : t.insert? r with
  | some u => exact filter_insert? hu hr
  | none =>
      refine filter_map_of_hidden fun x hx => ?_
      split
      next hk => exact .inr ⟨hold x hx hk, hr⟩
      next => exact .inl rfl

/-- A DELETE of a row outside of `p`. -/
theorem filter_erase {t : Table key} {p : R → Bool} {k : K}
    (hold : ∀ x ∈ t, key x = k → p x = false) :
    (t.erase k).rows.filter p = t.rows.filter p := by
  unfold erase
  rw [List.filter_filter]
  refine List.filter_congr fun x hx => ?_
  by_cases hk : key x = k
  · rw [hold x hx hk]
    rfl
  · simp [hk]

/-! ## §8. Counting rows. -/

omit [DecidableEq K] in
/-- A row among the others, none of which has its key. -/
theorem exists_split {t : Table key} {r : R} (hr : r ∈ t) :
    ∃ before after, t.rows = before ++ r :: after
      ∧ (∀ x ∈ before, key x ≠ key r) ∧ ∀ x ∈ after, key x ≠ key r := by
  obtain ⟨before, after, hrows⟩ := List.append_of_mem hr
  have hnodup := t.nodup
  rw [hrows, List.map_append, List.map_cons, List.nodup_append] at hnodup
  obtain ⟨_, hafter, hdisjoint⟩ := hnodup
  refine ⟨before, after, hrows, fun x hx => ?_, fun x hx heq => ?_⟩
  · exact hdisjoint _ (List.mem_map_of_mem hx) _ List.mem_cons_self
  · exact (List.nodup_cons.mp hafter).1 (heq ▸ List.mem_map_of_mem hx)

/-- `SELECT COUNT(*) … WHERE p`. -/
def count (t : Table key) (p : R → Bool) : Nat := t.rows.countP p

theorem count_insert? {t u : Table key} {p : R → Bool} {r : R} (hu : t.insert? r = some u) :
    u.count p = t.count p + if p r then 1 else 0 := by
  unfold count
  rw [(insert?_eq_some_iff.mp hu).2, List.countP_append, List.countP_singleton]

omit [DecidableEq K] in
/-- An UPDATE that moves no row in or out of `p`. -/
theorem count_updateWhere {t : Table key} {p q : R → Bool} {f : R → R}
    {hf : ∀ r, key (f r) = key r} (h : ∀ r ∈ t, q r = true → p (f r) = p r) :
    (t.updateWhere q f hf).count p = t.count p := by
  unfold count updateWhere
  rw [List.countP_map]
  refine List.countP_congr fun r hr => ?_
  rw [Function.comp_apply]
  by_cases hq : q r = true
  · rw [if_pos hq, h r hr hq]
  · rw [if_neg hq]

omit [DecidableEq K] in
/-- An UPDATE that moves rows out of `p`. -/
theorem count_updateWhere_out {t : Table key} {p q : R → Bool} {f : R → R}
    {hf : ∀ r, key (f r) = key r} (h : ∀ r ∈ t, q r = true → p r = true ∧ p (f r) = false) :
    (t.updateWhere q f hf).count p + t.count q = t.count p := by
  have hmoved : ∀ rows : List R, (∀ r ∈ rows, q r = true → p r = true ∧ p (f r) = false) →
      (rows.map fun r => if q r then f r else r).countP p + rows.countP q = rows.countP p := by
    intro rows
    induction rows with
    | nil => intro _; rfl
    | cons r rows ih =>
        intro hrows
        have hrest := ih fun x hx => hrows x (List.mem_cons_of_mem r hx)
        simp only [List.map_cons, List.countP_cons]
        by_cases hq : q r = true
        · obtain ⟨hin, hout⟩ := hrows r List.mem_cons_self hq
          simp only [hq, hin, hout, if_true, Bool.false_eq_true, if_false]
          omega
        · rw [if_neg hq, if_neg hq]
          omega
  exact hmoved t.rows h

/-- An UPDATE of one row. -/
theorem count_update_row {t : Table key} {p : R → Bool} {f : R → R}
    {hf : ∀ r, key (f r) = key r} {k : K} {r : R} (hr : t.find? k = some r) :
    (t.updateWhere (fun x => decide (key x = k)) f hf).count p + (if p r then 1 else 0)
      = t.count p + if p (f r) then 1 else 0 := by
  obtain ⟨hmem, rfl⟩ := find?_eq_some_iff.mp hr
  obtain ⟨before, after, hrows, hbefore, hafter⟩ := exists_split hmem
  have hother : ∀ xs : List R, (∀ x ∈ xs, key x ≠ key r) →
      (xs.map fun x => if decide (key x = key r) = true then f x else x) = xs := by
    intro xs hxs
    refine (List.map_congr_left fun x hx => ?_).trans (List.map_id xs)
    simp [hxs x hx]
  unfold count updateWhere
  simp only [hrows, List.map_append, List.map_cons, hother before hbefore, hother after hafter,
    List.countP_append, List.countP_cons, decide_true, if_true]
  omega

/-- A DELETE. -/
theorem count_erase {t : Table key} {p : R → Bool} {k : K} {r : R} (hr : t.find? k = some r) :
    (t.erase k).count p + (if p r then 1 else 0) = t.count p := by
  obtain ⟨hmem, rfl⟩ := find?_eq_some_iff.mp hr
  obtain ⟨before, after, hrows, hbefore, hafter⟩ := exists_split hmem
  have hother : ∀ xs : List R, (∀ x ∈ xs, key x ≠ key r) →
      xs.filter (fun x => decide (key x ≠ key r)) = xs := by
    intro xs hxs
    exact List.filter_eq_self.mpr fun x hx => by simp [hxs x hx]
  unfold count erase
  simp only [hrows, List.filter_append, List.filter_cons, hother before hbefore,
    hother after hafter, ne_eq, not_true_eq_false, decide_false, Bool.false_eq_true, if_false,
    List.countP_append, List.countP_cons]
  omega

end Table

end HotelAgent.Lib
