/-
  HotelAgent.Lib.Run — runs of a deterministic step function.

  A system is a step function `σ → ι → σ`; a run is a list of inputs.  The
  interleaving of concurrent calls, the failures of the environment and the
  clock are all inputs, so "for every run" is "for every list".

  Two ways of speaking about a whole run are related here once:

    AllStates step P s is — `P` holds in every state the run passes through
    AllSteps  step Q s is — `Q` holds of every state and the input it gets

  Main results:
    * `allStates_of_allSteps` — a guarded invariant: if the guard keeps the
      invariant in one step, it keeps it along every run that meets it.
    * `allStates_iff_allSteps` — an EXACT guard: if one step keeps the
      invariant precisely when the guard holds, so does every run.
    * `allStates_and_allSteps_iff` — the same for an invariant and a demand on
      the steps.
    * `mapInputs_eq_iff` — when two runs are seen to be the same.
    * `measure_run`, `total_eq_iff` — what a run adds to a counter, and when two
      ways of counting agree.
    * `frozen_iff_allSteps` — "once left, never changed again" is a fact
      about single steps.
    * `allAhead_map_iff` — two machines in step meet the same conditions on what
      is still to come.
-/
import Mathlib.Data.List.Infix

namespace HotelAgent.Lib

variable {σ ι α : Type*}

/-! ## §1. Runs. -/

/-- The state a run ends in. -/
def run (step : σ → ι → σ) (s : σ) (is : List ι) : σ := is.foldl step s

@[simp] theorem run_nil (step : σ → ι → σ) (s : σ) : run step s [] = s := rfl

@[simp] theorem run_cons (step : σ → ι → σ) (s : σ) (i : ι) (is : List ι) :
    run step s (i :: is) = run step (step s i) is := rfl

theorem run_append (step : σ → ι → σ) (s : σ) (is js : List ι) :
    run step s (is ++ js) = run step (run step s is) js :=
  List.foldl_append

/-- `P` holds in every state the run passes through, the first and the last
included. -/
def AllStates (step : σ → ι → σ) (P : σ → Prop) : σ → List ι → Prop
  | s, [] => P s
  | s, i :: is => P s ∧ AllStates step P (step s i) is

/-- `Q` holds of every state of the run together with the input it gets. -/
def AllSteps (step : σ → ι → σ) (Q : σ → ι → Prop) : σ → List ι → Prop
  | _, [] => True
  | s, i :: is => Q s i ∧ AllSteps step Q (step s i) is

instance decidableAllSteps (step : σ → ι → σ) (Q : σ → ι → Prop)
    [∀ s i, Decidable (Q s i)] : ∀ (s : σ) (is : List ι), Decidable (AllSteps step Q s is)
  | _, [] => .isTrue trivial
  | s, i :: is =>
      have := decidableAllSteps step Q (step s i) is
      inferInstanceAs (Decidable (Q s i ∧ AllSteps step Q (step s i) is))

theorem AllStates.head {step : σ → ι → σ} {P : σ → Prop} {s : σ} {is : List ι}
    (h : AllStates step P s is) : P s := by
  cases is with
  | nil => exact h
  | cons i is => exact h.1

theorem AllStates.last {step : σ → ι → σ} {P : σ → Prop} {s : σ} {is : List ι}
    (h : AllStates step P s is) : P (run step s is) := by
  induction is generalizing s with
  | nil => exact h
  | cons i is ih => exact ih h.2

theorem AllStates.imp {step : σ → ι → σ} {P P' : σ → Prop} (himp : ∀ s, P s → P' s) {s : σ}
    {is : List ι} (h : AllStates step P s is) : AllStates step P' s is := by
  induction is generalizing s with
  | nil => exact himp s h
  | cons i is ih => exact ⟨himp s h.1, ih h.2⟩

/-- What every state allows holds of every step. -/
theorem AllStates.allSteps {step : σ → ι → σ} {P : σ → Prop} {Q : σ → ι → Prop}
    (himp : ∀ s i, P s → Q s i) {s : σ} {is : List ι} (h : AllStates step P s is) :
    AllSteps step Q s is := by
  induction is generalizing s with
  | nil => trivial
  | cons i is ih => exact ⟨himp s i h.1, ih h.2⟩

theorem AllSteps.imp {step : σ → ι → σ} {Q Q' : σ → ι → Prop} (himp : ∀ s i, Q s i → Q' s i)
    {s : σ} {is : List ι} (h : AllSteps step Q s is) : AllSteps step Q' s is := by
  induction is generalizing s with
  | nil => trivial
  | cons i is ih => exact ⟨himp s i h.1, ih h.2⟩

theorem allSteps_append {step : σ → ι → σ} {Q : σ → ι → Prop} {s : σ} {is js : List ι} :
    AllSteps step Q s (is ++ js)
      ↔ AllSteps step Q s is ∧ AllSteps step Q (run step s is) js := by
  induction is generalizing s with
  | nil => simp [AllSteps]
  | cons i is ih =>
      simp only [List.cons_append, AllSteps, run_cons, ih, and_assoc]

/-! ## §2. Invariants. -/

/-- **Guarded invariant.**  What one guarded step keeps, every guarded run keeps. -/
theorem allStates_of_allSteps {step : σ → ι → σ} {P : σ → Prop} {Q : σ → ι → Prop}
    (hstep : ∀ s i, P s → Q s i → P (step s i)) :
    ∀ {s : σ} {is : List ι}, P s → AllSteps step Q s is → AllStates step P s is
  | _, [], hs, _ => hs
  | s, i :: _, hs, h => ⟨hs, allStates_of_allSteps hstep (hstep s i hs h.1) h.2⟩

/-- An unguarded invariant holds along every run. -/
theorem allStates_of_step {step : σ → ι → σ} {P : σ → Prop}
    (hstep : ∀ s i, P s → P (step s i)) {s : σ} (hs : P s) (is : List ι) :
    AllStates step P s is := by
  induction is generalizing s with
  | nil => exact hs
  | cons i is ih => exact ⟨hs, ih (hstep s i hs)⟩

/-- **Exact guard**, for the runs whose inputs all meet `I`.  Let `K` be kept by
every such step.  If, from a state with `K` and `P`, one step keeps `P` precisely
when the guard `Q` holds, then a run keeps `P` throughout precisely when each of
its steps meets `Q`. -/
theorem allStates_iff_allSteps_of_inputs {step : σ → ι → σ} {K P : σ → Prop}
    {Q : σ → ι → Prop} {I : ι → Prop} (hK : ∀ s i, I i → K s → K (step s i))
    (hQ : ∀ s i, I i → K s → P s → (P (step s i) ↔ Q s i)) {s : σ} (hKs : K s) (hs : P s)
    (is : List ι) (hI : ∀ i ∈ is, I i) : AllStates step P s is ↔ AllSteps step Q s is := by
  -- `P` at the next state is what the induction hypothesis starts from, so the
  -- guard of the first step is settled before the rest of the run
  induction is generalizing s with
  | nil => exact ⟨fun _ => trivial, fun _ => hs⟩
  | cons i is ih =>
      have hi := hI i List.mem_cons_self
      have hrest := fun j hj => hI j (List.mem_cons_of_mem i hj)
      constructor
      · rintro ⟨_, h⟩
        have hP := h.head
        exact ⟨(hQ s i hi hKs hs).mp hP, (ih (hK s i hi hKs) hP hrest).mp h⟩
      · rintro ⟨hq, h⟩
        have hP := (hQ s i hi hKs hs).mpr hq
        exact ⟨hs, (ih (hK s i hi hKs) hP hrest).mpr h⟩

/-- **Exact guard**, for all runs. -/
theorem allStates_iff_allSteps {step : σ → ι → σ} {K P : σ → Prop} {Q : σ → ι → Prop}
    (hK : ∀ s i, K s → K (step s i))
    (hQ : ∀ s i, K s → P s → (P (step s i) ↔ Q s i)) {s : σ} (hKs : K s) (hs : P s)
    (is : List ι) : AllStates step P s is ↔ AllSteps step Q s is :=
  allStates_iff_allSteps_of_inputs (I := fun _ => True) (fun s i _ => hK s i)
    (fun s i _ => hQ s i) hKs hs is fun _ _ => trivial

/-- **Exact guard** of an invariant together with a demand `O` on every step. -/
theorem allStates_and_allSteps_iff {step : σ → ι → σ} {P : σ → Prop} {O Q : σ → ι → Prop}
    (hQ : ∀ s i, P s → (P (step s i) ∧ O s i ↔ Q s i)) {s : σ} (hs : P s) (is : List ι) :
    AllStates step P s is ∧ AllSteps step O s is ↔ AllSteps step Q s is := by
  induction is generalizing s with
  | nil => exact ⟨fun _ => trivial, fun _ => ⟨hs, trivial⟩⟩
  | cons i is ih =>
      constructor
      · rintro ⟨⟨_, hstates⟩, ho, hsteps⟩
        exact ⟨(hQ s i hs).mp ⟨hstates.head, ho⟩, (ih hstates.head).mp ⟨hstates, hsteps⟩⟩
      · rintro ⟨hq, h⟩
        obtain ⟨hP, ho⟩ := (hQ s i hs).mpr hq
        obtain ⟨hstates, hsteps⟩ := (ih hP).mpr h
        exact ⟨⟨hs, hstates⟩, ho, hsteps⟩

/-- What is never regained holds at the end exactly when it holds throughout. -/
theorem allStates_iff_last {step : σ → ι → σ} {P : σ → Prop} (hback : ∀ s i, P (step s i) → P s)
    {s : σ} {is : List ι} : AllStates step P s is ↔ P (run step s is) := by
  refine ⟨AllStates.last, ?_⟩
  induction is generalizing s with
  | nil => intro h; exact h
  | cons i is ih =>
      intro h
      have hrest := ih h
      exact ⟨hback s i hrest.head, hrest⟩

/-- **Simulation.**  Two machines that a relation keeps in step meet two conditions
together, if the relation makes the conditions agree at each step. -/
theorem allSteps_iff_of_simulation {τ : Type*} {f : σ → ι → σ} {g : τ → ι → τ}
    {Q : σ → ι → Prop} {Q' : τ → ι → Prop} {R : σ → τ → Prop}
    (hR : ∀ s t i, R s t → R (f s i) (g t i)) (hQ : ∀ s t i, R s t → (Q s i ↔ Q' t i))
    {s : σ} {t : τ} (hst : R s t) (is : List ι) : AllSteps f Q s is ↔ AllSteps g Q' t is := by
  induction is generalizing s t with
  | nil => exact Iff.rfl
  | cons i is ih => exact and_congr (hQ s t i hst) (ih (hR s t i hst))

/-- Two conditions that agree wherever `K` holds are met by the same runs. -/
theorem allSteps_congr {step : σ → ι → σ} {K : σ → Prop} {Q Q' : σ → ι → Prop}
    (hK : ∀ s i, K s → K (step s i)) (hQ : ∀ s i, K s → (Q s i ↔ Q' s i)) {s : σ} (hs : K s)
    (is : List ι) : AllSteps step Q s is ↔ AllSteps step Q' s is :=
  allSteps_iff_of_simulation (R := fun s t => s = t ∧ K s)
    (fun _ _ i h => ⟨by rw [h.1], hK _ i h.2⟩)
    (fun _ _ i h => by rw [← h.1]; exact hQ _ i h.2) ⟨rfl, hs⟩ is

/-! ## §3. Refinement mappings. -/

/-- The inputs of a run, translated by the state they meet. -/
def mapInputs {κ : Type*} (step : σ → ι → σ) (kind : σ → ι → κ) : σ → List ι → List κ
  | _, [] => []
  | s, i :: is => kind s i :: mapInputs step kind (step s i) is

section
variable {τ κ : Type*} {step : σ → ι → σ} {abs : τ → κ → τ} {view : σ → τ} {kind : σ → ι → κ}
  {K : σ → Prop}

/-- A machine whose steps look like those of `abs` runs like it. -/
theorem view_run (hK : ∀ s i, K s → K (step s i))
    (hview : ∀ s i, K s → view (step s i) = abs (view s) (kind s i)) {s : σ} (hs : K s)
    (is : List ι) : view (run step s is) = run abs (view s) (mapInputs step kind s is) := by
  induction is generalizing s with
  | nil => rfl
  | cons i is ih =>
      rw [run_cons, ih (hK s i hs), hview s i hs]
      rfl

/-- What is asked of every step through the view is asked of the abstract run. -/
theorem allSteps_view_iff {Q : τ → κ → Prop} (hK : ∀ s i, K s → K (step s i))
    (hview : ∀ s i, K s → view (step s i) = abs (view s) (kind s i)) {s : σ} (hs : K s)
    (is : List ι) :
    AllSteps step (fun s i => Q (view s) (kind s i)) s is
      ↔ AllSteps abs Q (view s) (mapInputs step kind s is) := by
  induction is generalizing s with
  | nil => exact Iff.rfl
  | cons i is ih =>
      have htail := ih (hK s i hs)
      rw [hview s i hs] at htail
      exact and_congr Iff.rfl htail

end

/-- **Two runs that are seen to be the same.**  If as long as the states are related, what
is seen of a step agrees exactly where `Q` holds, and a step that is seen to be the same
keeps the states related, then the runs are seen to be the same exactly if `Q` holds of
every step. -/
theorem mapInputs_eq_iff {τ κ ι' : Type*} {f : σ → ι → σ} {g : τ → ι' → τ} {see : σ → ι → κ}
    {see' : τ → ι' → κ} {other : ι → ι'} {R : σ → τ → Prop} {Q : σ → ι → Prop}
    (hsee : ∀ s t i, R s t → (see s i = see' t (other i) ↔ Q s i))
    (hstep : ∀ s t i, R s t → see s i = see' t (other i) → R (f s i) (g t (other i)))
    {s : σ} {t : τ} (hst : R s t) (is : List ι) :
    mapInputs f see s is = mapInputs g see' t (is.map other) ↔ AllSteps f Q s is := by
  induction is generalizing s t with
  | nil => exact iff_of_true rfl trivial
  | cons i is ih =>
      rw [List.map_cons, mapInputs, mapInputs, List.cons.injEq, AllSteps]
      -- the rest is compared only after a step that is seen to be the same
      exact (and_congr_right fun hsame => ih (hstep s t i hst hsame)).trans
        (and_congr_left' (hsee s t i hst))

/-! ## §4. Totals. -/

/-- What the steps of a run add up to. -/
def total (step : σ → ι → σ) (amount : σ → ι → Nat) : σ → List ι → Nat
  | _, [] => 0
  | s, i :: is => amount s i + total step amount (step s i) is

/-- **A counter** to which each step adds its amount has the total at the end. -/
theorem measure_run {step : σ → ι → σ} {K : σ → Prop} {measure : σ → Nat}
    {amount : σ → ι → Nat} (hK : ∀ s i, K s → K (step s i))
    (hadd : ∀ s i, K s → measure (step s i) = measure s + amount s i) {s : σ} (hs : K s)
    (is : List ι) : measure (run step s is) = measure s + total step amount s is := by
  induction is generalizing s with
  | nil => rfl
  | cons i is ih =>
      calc measure (run step (step s i) is)
          = measure (step s i) + total step amount (step s i) is := ih (hK s i hs)
        _ = measure s + (amount s i + total step amount (step s i) is) := by
            rw [hadd s i hs, Nat.add_assoc]

theorem total_le_total {step : σ → ι → σ} {f g : σ → ι → Nat} (hle : ∀ s i, f s i ≤ g s i)
    (s : σ) (is : List ι) : total step f s is ≤ total step g s is := by
  induction is generalizing s with
  | nil => exact le_refl 0
  | cons i is ih => exact Nat.add_le_add (hle s i) (ih (step s i))

/-- **Two totals**, one of which counts at most what the other does, are the same exactly if
each step counts the same. -/
theorem total_eq_iff {step : σ → ι → σ} {f g : σ → ι → Nat} (hle : ∀ s i, f s i ≤ g s i)
    (s : σ) (is : List ι) :
    total step f s is = total step g s is ↔ AllSteps step (fun s i => f s i = g s i) s is := by
  induction is generalizing s with
  | nil => exact iff_of_true rfl trivial
  | cons i is ih =>
      have hhead := hle s i
      have htail : total step f (step s i) is ≤ total step g (step s i) is :=
        total_le_total hle (step s i) is
      simp only [total, AllSteps, ← ih (step s i)]
      omega

/-! ## §5. Observations that freeze. -/

/-- Once the observation has `left`, no later state of the run shows another. -/
def Frozen (step : σ → ι → σ) (obs : σ → α) (left : α → Prop) (s : σ) (is : List ι) : Prop :=
  ∀ before later after, is = before ++ later ++ after →
    left (obs (run step s before)) →
      obs (run step s (before ++ later)) = obs (run step s before)

/-- **Freezing is stepwise.** -/
theorem frozen_iff_allSteps {step : σ → ι → σ} {obs : σ → α} {left : α → Prop} {s : σ}
    {is : List ι} :
    Frozen step obs left s is
      ↔ AllSteps step (fun s i => left (obs s) → obs (step s i) = obs s) s is := by
  constructor
  · induction is generalizing s with
    | nil => intro _; trivial
    | cons i is ih =>
        intro h
        refine ⟨fun hl => ?_, ih ?_⟩
        · exact h [] [i] is rfl hl
        · intro before later after heq hl
          exact h (i :: before) later after (by rw [heq]; rfl) hl
  · intro h before later after heq hl
    subst heq
    -- only the steps of `later` matter; the observation is the same after each
    have hlater := (allSteps_append.mp (allSteps_append.mp h).1).2
    rw [run_append]
    generalize run step s before = t at hl hlater
    clear h
    induction later generalizing t with
    | nil => rfl
    | cons i is ih =>
        have hi := hlater.1 hl
        rw [run_cons, ih (step t i) (by rw [hi]; exact hl) hlater.2, hi]

/-! ## §6. Conditions on what is ahead. -/

/-- `Q` holds of every state of the run, the input it gets, and the inputs behind that. -/
def AllAhead (step : σ → ι → σ) (Q : σ → ι → List ι → Prop) : σ → List ι → Prop
  | _, [] => True
  | s, i :: is => Q s i is ∧ AllAhead step Q (step s i) is

/-- **Simulation**, for conditions on what is ahead: two machines that a relation keeps in step,
one over translated inputs, meet two conditions together. -/
theorem allAhead_map_iff {τ κ : Type*} {f : σ → ι → σ} {g : τ → κ → τ} {other : ι → κ}
    {Q : σ → ι → List ι → Prop} {Q' : τ → κ → List κ → Prop} {R : σ → τ → Prop} {I : ι → Prop}
    (hR : ∀ s t i, I i → R s t → R (f s i) (g t (other i)))
    (hQ : ∀ s t i is, I i → R s t → (Q s i is ↔ Q' t (other i) (is.map other)))
    {s : σ} {t : τ} (hst : R s t) {is : List ι} (hI : ∀ i ∈ is, I i) :
    AllAhead f Q s is ↔ AllAhead g Q' t (is.map other) := by
  induction is generalizing s t with
  | nil => exact Iff.rfl
  | cons i is ih =>
      have hi := hI i List.mem_cons_self
      have hrest := fun j hj => hI j (List.mem_cons_of_mem i hj)
      exact and_congr (hQ s t i is hi hst) (ih (hR s t i hi hst) hrest)

end HotelAgent.Lib
