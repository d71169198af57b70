/-
  HotelAgent.Lib.Noninterference — what one party sees of a shared system.

  Some inputs of a system are a party's own, and the party sees an answer to each of
  them.  Two states look the same to the party:

      own input      from states that look the same: the same answer, and the
                     states after it look the same
      other input    the state after it looks the same as the one before it

  Main result, `answers_eq_of_same_own`: two runs with the same own inputs, whatever
  the others do between them, give the party the same answers and end in states that
  look the same.
-/
import HotelAgent.Lib.Run

namespace HotelAgent.Lib

variable {σ ι κ : Type*}

/-- The answers to the own inputs of a run. -/
def answersIn (step : σ → ι → σ) (answer : σ → ι → κ) (own : ι → Bool) : σ → List ι → List κ
  | _, [] => []
  | s, i :: is =>
    if own i then answer s i :: answersIn step answer own (step s i) is
    else answersIn step answer own (step s i) is

/-- **Unwinding conditions**, for steps that are `Admitted` where they are taken. -/
structure Unwinds (step : σ → ι → σ) (answer : σ → ι → κ) (own : ι → Bool)
    (Admitted : σ → ι → Prop) (Same : σ → σ → Prop) : Prop where
  symm : ∀ s t, Same s t → Same t s
  answer : ∀ s t i, own i = true → Admitted s i → Admitted t i → Same s t →
    answer s i = answer t i
  ownStep : ∀ s t i, own i = true → Admitted s i → Admitted t i → Same s t →
    Same (step s i) (step t i)
  otherStep : ∀ s t i, own i = false → Admitted s i → Same s t → Same (step s i) t

namespace Unwinds

variable {step : σ → ι → σ} {answer : σ → ι → κ} {own : ι → Bool} {Admitted : σ → ι → Prop}
  {Same : σ → σ → Prop}

/-- Steps of others are not seen. -/
theorem others (h : Unwinds step answer own Admitted Same) {s t : σ} {is : List ι}
    (hown : ∀ i ∈ is, own i = false) (his : AllSteps step Admitted s is) (hst : Same s t) :
    Same (run step s is) t := by
  induction is generalizing s with
  | nil => exact hst
  | cons i is ih =>
      apply ih (fun j hj => hown j (List.mem_cons_of_mem i hj)) his.2
      exact h.otherStep s t i (hown i List.mem_cons_self) his.1 hst

end Unwinds

/-- Nor do they give answers. -/
theorem answersIn_others {step : σ → ι → σ} {answer : σ → ι → κ} {own : ι → Bool} {s : σ}
    {is : List ι} (hown : ∀ i ∈ is, own i = false) : answersIn step answer own s is = [] := by
  induction is generalizing s with
  | nil => rfl
  | cons i is ih =>
      have hi := hown i List.mem_cons_self
      simp only [answersIn, hi, Bool.false_eq_true, if_false]
      exact ih fun j hj => hown j (List.mem_cons_of_mem i hj)

theorem answersIn_append {step : σ → ι → σ} {answer : σ → ι → κ} {own : ι → Bool} {s : σ}
    {is js : List ι} :
    answersIn step answer own s (is ++ js)
      = answersIn step answer own s is ++ answersIn step answer own (run step s is) js := by
  induction is generalizing s with
  | nil => rfl
  | cons i is ih =>
      simp only [List.cons_append, answersIn, run_cons, ih]
      split
      · rfl
      · rfl

namespace Unwinds

variable {step : σ → ι → σ} {answer : σ → ι → κ} {own : ι → Bool} {Admitted : σ → ι → Prop}
  {Same : σ → σ → Prop}

/-- **Noninterference.** -/
theorem answers_eq_of_same_own (h : Unwinds step answer own Admitted Same) {s t : σ}
    (hst : Same s t) {is js : List ι} (hsame : is.filter own = js.filter own)
    (his : AllSteps step Admitted s is) (hjs : AllSteps step Admitted t js) :
    answersIn step answer own s is = answersIn step answer own t js
      ∧ Same (run step s is) (run step t js) := by
  generalize hos : is.filter own = os at hsame
  -- on the own inputs; the others between two of them are passed over on each side
  induction os generalizing s t is js with
  | nil =>
      have hnone : ∀ {ks : List ι}, ks.filter own = [] → ∀ k ∈ ks, own k = false := by
        intro ks hks k hk
        simpa using List.filter_eq_nil_iff.mp hks k hk
      have hisOthers := hnone hos
      have hjsOthers := hnone hsame.symm
      refine ⟨?_, ?_⟩
      · rw [answersIn_others hisOthers, answersIn_others hjsOthers]
      · apply h.symm
        apply h.others hjsOthers hjs
        apply h.symm
        exact h.others hisOthers his hst
  | cons o os ih =>
      obtain ⟨before, after, rfl, hbefore, ho, hafter⟩ := List.filter_eq_cons_iff.mp hos
      obtain ⟨before', after', rfl, hbefore', _, hafter'⟩ := List.filter_eq_cons_iff.mp hsame.symm
      have hothers : ∀ k ∈ before, own k = false :=
        fun k hk => by simpa using hbefore k hk
      have hothers' : ∀ k ∈ before', own k = false :=
        fun k hk => by simpa using hbefore' k hk
      obtain ⟨hisBefore, hisOwn, hisAfter⟩ := allSteps_append.mp his
      obtain ⟨hjsBefore, hjsOwn, hjsAfter⟩ := allSteps_append.mp hjs
      have hmeet : Same (run step s before) (run step t before') := by
        apply h.others hothers hisBefore
        apply h.symm
        apply h.others hothers' hjsBefore
        exact h.symm _ _ hst
      have hanswer := h.answer _ _ o ho hisOwn hjsOwn hmeet
      have hnext := h.ownStep _ _ o ho hisOwn hjsOwn hmeet
      obtain ⟨hrest, hend⟩ := ih hnext hisAfter hjsAfter hafter hafter'.symm
      refine ⟨?_, ?_⟩
      · rw [answersIn_append, answersIn_append, answersIn_others hothers,
          answersIn_others hothers', List.nil_append, List.nil_append]
        simp only [answersIn, ho, if_true]
        rw [hanswer, hrest]
      · rw [run_append, run_append]
        exact hend

end Unwinds

end HotelAgent.Lib
