/-
  HotelAgent.Lib.ReadModifyWrite — lost updates of a shared value.

  Calls load a copy of a shared value, compute a new value from the COPY and
  save it.  The store may refuse a new value.  A save is fresh when the stored
  value is still the one that was loaded, and is accepted.

  Where every update makes the value larger by the same amount, no update is
  lost exactly when every save is fresh (`noneLost_iff_fresh`): the deficit that
  one stale save leaves is never made up, since a later copy is either the short
  value itself or older still.
-/
import HotelAgent.Lib.Run
import Mathlib.Tactic.Ring

namespace HotelAgent.Lib

variable {V U : Type*}

/-! ## §1. The machine. -/

/-- A shared value, the copies of the calls in flight and the updates of the
calls that have saved. -/
structure Shared (V U : Type*) where
  value : V
  copies : List V
  made : List U

inductive Access (U : Type*) where
  | idle
  | load
  /-- The call with the `k`-th copy saves its update. -/
  | save (k : Nat) (u : U)

/-- One access; a refused value is not stored. -/
def accessStep (apply : U → V → Option V) (s : Shared V U) : Access U → Shared V U
  | .idle => s
  | .load => { s with copies := s.copies ++ [s.value] }
  | .save k u =>
    match s.copies[k]? with
    | none => s
    | some copy =>
      { value := (apply u copy).getD s.value
        copies := s.copies.eraseIdx k
        made := s.made ++ [u] }

theorem accessStep_save_none {apply : U → V → Option V} {s : Shared V U} {k : Nat} (u : U)
    (h : s.copies[k]? = none) : accessStep apply s (.save k u) = s := by
  simp only [accessStep, h]

theorem accessStep_save_some {apply : U → V → Option V} {s : Shared V U} {k : Nat} (u : U)
    {copy : V} (h : s.copies[k]? = some copy) :
    accessStep apply s (.save k u)
      = { value := (apply u copy).getD s.value
          copies := s.copies.eraseIdx k
          made := s.made ++ [u] } := by
  simp only [accessStep, h]

/-- The save is fresh. -/
def FreshSave (apply : U → V → Option V) (s : Shared V U) : Access U → Prop
  | .save k u => ∀ copy, s.copies[k]? = some copy → copy = s.value ∧ (apply u copy).isSome
  | _ => True

/-! ## §2. Fresh saves compose. -/

/-- The updates made so far, applied one after the other to the first value. -/
def Composed (apply : U → V → Option V) (v0 : V) (s : Shared V U) : Prop :=
  s.made.foldlM (fun v u => apply u v) v0 = some s.value

theorem composed_step {apply : U → V → Option V} {v0 : V} (s : Shared V U) (a : Access U)
    (h : Composed apply v0 s) (hf : FreshSave apply s a) :
    Composed apply v0 (accessStep apply s a) := by
  cases a with
  | idle => exact h
  | load => exact h
  | save k u =>
      cases hk : s.copies[k]? with
      | none =>
          rw [accessStep_save_none u hk]
          exact h
      | some copy =>
          -- the copy is the stored value, and its update is accepted
          obtain ⟨rfl, hsome⟩ := hf copy hk
          obtain ⟨v, hv⟩ := Option.isSome_iff_exists.mp hsome
          rw [accessStep_save_some u hk]
          unfold Composed at h ⊢
          rw [List.foldlM_append, h, hv]
          simp [hv]

/-- **Fresh saves apply every update in turn.** -/
theorem composed_of_fresh {apply : U → V → Option V} (v0 : V) (as : List (Access U))
    (h : AllSteps (accessStep apply) (FreshSave apply) ⟨v0, [], []⟩ as) :
    Composed apply v0 (run (accessStep apply) ⟨v0, [], []⟩ as) :=
  have h0 : Composed apply v0 (⟨v0, [], []⟩ : Shared V U) := rfl
  (allStates_of_allSteps (P := Composed apply v0) composed_step h0 h).last

/-! ## §3. A stale save leaves a deficit. -/

section
variable {apply : U → V → Option V} {size : V → Nat} {d : Nat} {n0 : Nat}

/-- The size the value has when no update is lost. -/
def fullSize (n0 d : Nat) (s : Shared V U) : Nat := n0 + d * s.made.length

/-- The value and the copies are never larger than that, and a copy that is not
the value itself is smaller. -/
def Bounded (size : V → Nat) (n0 d : Nat) (s : Shared V U) : Prop :=
  size s.value ≤ fullSize n0 d s
    ∧ ∀ copy ∈ s.copies, copy = s.value ∨ size copy < fullSize n0 d s

theorem fullSize_append (v : V) (copies : List V) (made : List U) (u : U) :
    fullSize n0 d (⟨v, copies, made ++ [u]⟩ : Shared V U)
      = n0 + d * made.length + d := by
  unfold fullSize
  rw [List.length_append, List.length_singleton]
  ring

theorem bounded_step (hd : 0 < d) (hsize : ∀ u v v', apply u v = some v' → size v' = size v + d)
    (s : Shared V U) (a : Access U) (h : Bounded size n0 d s) :
    Bounded size n0 d (accessStep apply s a) := by
  obtain ⟨hvalue, hcopies⟩ := h
  cases a with
  | idle => exact ⟨hvalue, hcopies⟩
  | load =>
      refine ⟨hvalue, fun copy hc => ?_⟩
      rcases List.mem_append.mp hc with hc | hc
      · exact hcopies copy hc
      · exact .inl (List.mem_singleton.mp hc)
  | save k u =>
      cases hk : s.copies[k]? with
      | none =>
          rw [accessStep_save_none u hk]
          exact ⟨hvalue, hcopies⟩
      | some copy =>
          rw [accessStep_save_some u hk]
          have hle : ∀ c ∈ s.copies, size c ≤ n0 + d * s.made.length := by
            intro c hc
            rcases hcopies c hc with rfl | hlt
            · exact hvalue
            · exact Nat.le_of_lt hlt
          unfold Bounded
          simp only [fullSize_append]
          refine ⟨?_, fun c hc => .inr ?_⟩
          · -- the new value is at most the copy and one update
            cases happ : apply u copy with
            | none =>
                have : size s.value ≤ n0 + d * s.made.length := hvalue
                simp only [Option.getD_none]
                omega
            | some v' =>
                have := hle copy (List.mem_of_getElem? hk)
                simp only [Option.getD_some, hsize u copy v' happ]
                omega
          · -- a copy that is left over is now older than the last update
            have := hle c (List.mem_of_mem_eraseIdx hc)
            omega

/-- A deficit stays. -/
theorem deficit_step (hd : 0 < d) (hsize : ∀ u v v', apply u v = some v' → size v' = size v + d)
    (s : Shared V U) (a : Access U) (h : Bounded size n0 d s)
    (hdef : size s.value < fullSize n0 d s) :
    size (accessStep apply s a).value < fullSize n0 d (accessStep apply s a) := by
  cases a with
  | idle => exact hdef
  | load => exact hdef
  | save k u =>
      cases hk : s.copies[k]? with
      | none =>
          rw [accessStep_save_none u hk]
          exact hdef
      | some copy =>
          rw [accessStep_save_some u hk]
          -- the copy is the short value itself, or older
          have hlt : size copy < n0 + d * s.made.length := by
            rcases h.2 copy (List.mem_of_getElem? hk) with rfl | hlt
            · exact hdef
            · exact hlt
          have hval : size s.value < n0 + d * s.made.length := hdef
          simp only [fullSize_append]
          cases happ : apply u copy with
          | none =>
              simp only [Option.getD_none]
              omega
          | some v' =>
              simp only [Option.getD_some, hsize u copy v' happ]
              omega

/-- **A save that is not fresh leaves a deficit.** -/
theorem deficit_of_stale (hd : 0 < d)
    (hsize : ∀ u v v', apply u v = some v' → size v' = size v + d)
    (s : Shared V U) (a : Access U) (h : Bounded size n0 d s) (hstale : ¬ FreshSave apply s a) :
    size (accessStep apply s a).value < fullSize n0 d (accessStep apply s a) := by
  cases a with
  | idle => exact absurd trivial hstale
  | load => exact absurd trivial hstale
  | save k u =>
      unfold FreshSave at hstale
      simp only [not_forall] at hstale
      obtain ⟨copy, hk, hnot⟩ := hstale
      have hval : size s.value ≤ n0 + d * s.made.length := h.1
      rw [accessStep_save_some u hk]
      simp only [fullSize_append]
      cases happ : apply u copy with
      | none =>
          -- refused: one more update was made, and the value is as before
          simp only [Option.getD_none]
          omega
      | some v' =>
          -- stored over a newer value
          have hlt : size copy < n0 + d * s.made.length := by
            rcases h.2 copy (List.mem_of_getElem? hk) with rfl | hlt
            · exact absurd ⟨rfl, by simp [happ]⟩ hnot
            · exact hlt
          simp only [Option.getD_some, hsize u copy v' happ]
          omega

/-- A deficit lasts to the end of the run. -/
theorem deficit_run (hd : 0 < d) (hsize : ∀ u v v', apply u v = some v' → size v' = size v + d)
    (as : List (Access U)) (s : Shared V U) (hb : Bounded size n0 d s)
    (hdef : size s.value < fullSize n0 d s) :
    size (run (accessStep apply) s as).value
      < fullSize n0 d (run (accessStep apply) s as) := by
  induction as generalizing s with
  | nil => exact hdef
  | cons a as ih =>
      exact ih _ (bounded_step hd hsize s a hb) (deficit_step hd hsize s a hb hdef)

/-- **A run with a save that is not fresh ends with a deficit.** -/
theorem deficit_run_of_stale (hd : 0 < d)
    (hsize : ∀ u v v', apply u v = some v' → size v' = size v + d) (as : List (Access U))
    (s : Shared V U) (hb : Bounded size n0 d s)
    (hstale : ¬ AllSteps (accessStep apply) (FreshSave apply) s as) :
    size (run (accessStep apply) s as).value
      < fullSize n0 d (run (accessStep apply) s as) := by
  induction as generalizing s with
  | nil => exact absurd trivial hstale
  | cons a as ih =>
      have hb' := bounded_step hd hsize s a hb
      by_cases hfresh : FreshSave apply s a
      · -- this save is fresh, so a later one is not
        exact ih _ hb' fun hrest => hstale ⟨hfresh, hrest⟩
      · exact deficit_run hd hsize as _ hb' (deficit_of_stale hd hsize s a hb hfresh)

/-- Updates that compose add up in size. -/
theorem size_foldlM (hsize : ∀ u v v', apply u v = some v' → size v' = size v + d)
    (us : List U) {v v' : V} (h : us.foldlM (fun v u => apply u v) v = some v') :
    size v' = size v + d * us.length := by
  induction us generalizing v with
  | nil =>
      injection h with h
      rw [h]
      rfl
  | cons u us ih =>
      rw [List.foldlM_cons] at h
      obtain ⟨w, hw, h⟩ := Option.bind_eq_some_iff.mp h
      rw [ih h, hsize u v w hw, List.length_cons]
      ring

/-- **No update is lost, exactly.**  The value has its full size at the end of a
run if and only if every save of the run is fresh. -/
theorem noneLost_iff_fresh (hd : 0 < d)
    (hsize : ∀ u v v', apply u v = some v' → size v' = size v + d) (v0 : V)
    (as : List (Access U)) :
    size (run (accessStep apply) ⟨v0, [], []⟩ as).value
        = size v0 + d * (run (accessStep apply) ⟨v0, [], []⟩ as).made.length
      ↔ AllSteps (accessStep apply) (FreshSave apply) ⟨v0, [], []⟩ as := by
  constructor
  · intro h
    by_contra hnot
    have hstart : Bounded size (size v0) d (⟨v0, [], []⟩ : Shared V U) :=
      ⟨Nat.le_refl _, fun c hc => absurd hc (by simp)⟩
    have hlt := deficit_run_of_stale hd hsize as _ hstart hnot
    unfold fullSize at hlt
    omega
  · intro h
    exact size_foldlM hsize _ (composed_of_fresh v0 as h)

end

end HotelAgent.Lib
