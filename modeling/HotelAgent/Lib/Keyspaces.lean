/-
  HotelAgent.Lib.Keyspaces — clients that share a store and keep to their own keys.

  A store is a function of its keys.  An operation reads and writes the store and
  gives an answer; it keeps to a set of keys if it leaves the others alone and
  does the same on any two stores that agree there:

      ··│ own keys │··   ──op──▶   ··│ own keys │··     and an answer
        unchanged          only from here

  Main result, `alone`: where every client keeps to keys of its own, what a
  client is answered in a run with the others, and what it leaves under its keys,
  is what it would be without them.
-/
import HotelAgent.Lib.Run

namespace HotelAgent.Lib

variable {K V A : Type*}

/-! ## §1. Operations. -/

/-- The stores are the same under these keys. -/
def AgreeOn (own : K → Prop) (s t : K → V) : Prop := ∀ k, own k → s k = t k

theorem AgreeOn.refl (own : K → Prop) (s : K → V) : AgreeOn own s s := fun _ _ => rfl

/-- What an operation does to a store, and its answer. -/
abbrev Operation (K V A : Type*) := (K → V) → (K → V) × A

/-- **The operation keeps to its own keys.** -/
structure KeepsTo (own : K → Prop) (op : Operation K V A) : Prop where
  frame : ∀ s k, ¬ own k → (op s).1 k = s k
  store : ∀ s t, AgreeOn own s t → AgreeOn own (op s).1 (op t).1
  answer : ∀ s t, AgreeOn own s t → (op s).2 = (op t).2

/-- One entry is written. -/
theorem keepsTo_update [DecidableEq K] {own : K → Prop} {key : K} (hkey : own key) (value : V)
    (a : A) : KeepsTo own fun s : K → V => (Function.update s key value, a) where
  frame := by
    intro s k hk
    refine Function.update_of_ne (fun heq => hk ?_) _ _
    rw [heq]
    exact hkey
  store := by
    intro s t h k hk
    show Function.update s key value k = Function.update t key value k
    by_cases heq : k = key
    · rw [heq, Function.update_self, Function.update_self]
    · rw [Function.update_of_ne heq, Function.update_of_ne heq]
      exact h k hk
  answer := fun _ _ _ => rfl

/-- Some entries are given one value. -/
theorem keepsTo_clear {own : K → Prop} {cleared : K → Prop} [DecidablePred cleared]
    (hcleared : ∀ k, cleared k → own k) (value : V) (a : A) :
    KeepsTo own fun s : K → V => (fun k => if cleared k then value else s k, a) where
  frame := fun _ k hk => if_neg fun h => hk (hcleared k h)
  store := by
    intro s t h k hk
    show (if cleared k then value else s k) = if cleared k then value else t k
    rw [h k hk]
  answer := fun _ _ _ => rfl

/-- Nothing is written. -/
theorem keepsTo_read {own : K → Prop} {read : (K → V) → A}
    (h : ∀ s t, AgreeOn own s t → read s = read t) :
    KeepsTo own fun s : K → V => (s, read s) where
  frame := fun _ _ _ => rfl
  store := fun _ _ hst => hst
  answer := h

/-- One operation after the other. -/
theorem KeepsTo.andThen {own : K → Prop} {B : Type*} {op : Operation K V A}
    {next : Operation K V B} (h : KeepsTo own op) (hnext : KeepsTo own next) :
    KeepsTo own fun s => next (op s).1 where
  frame := fun s k hk => (hnext.frame _ k hk).trans (h.frame s k hk)
  store := fun s t hst => hnext.store _ _ (h.store s t hst)
  answer := fun s t hst => hnext.answer _ _ (h.store s t hst)

/-- The operation may depend on what is read under the own keys. -/
theorem KeepsTo.choose {own : K → Prop} {B : Type*} (read : (K → V) → B)
    (op : B → Operation K V A) (hread : ∀ s t, AgreeOn own s t → read s = read t)
    (hop : ∀ b, KeepsTo own (op b)) : KeepsTo own fun s => op (read s) s where
  frame := fun s k hk => (hop _).frame s k hk
  store := by
    intro s t hst
    show AgreeOn own (op (read s) s).1 (op (read t) t).1
    rw [hread s t hst]
    exact (hop _).store s t hst
  answer := by
    intro s t hst
    show (op (read s) s).2 = (op (read t) t).2
    rw [hread s t hst]
    exact (hop _).answer s t hst

/-! ## §2. Clients. -/

section
variable {C I : Type*} [DecidableEq C]

/-- The store after some operations. -/
def storeAfter (act : I → Operation K V A) (s : K → V) (is : List I) : K → V :=
  run (fun s i => (act i s).1) s is

/-- What one client is answered in a run. -/
def answersTo (owner : I → C) (act : I → Operation K V A) (c : C) : (K → V) → List I → List A
  | _, [] => []
  | s, i :: is =>
    if owner i = c then (act i s).2 :: answersTo owner act c (act i s).1 is
    else answersTo owner act c (act i s).1 is

/-- **Each client by itself.**  Let every operation keep to the keys of its client, where no key
has two.  Then what a client is answered, and what is then stored under its keys, is the same as in
the run of its own operations. -/
theorem alone {owner : I → C} {act : I → Operation K V A} {clientOf : K → C}
    (hkeeps : ∀ i, KeepsTo (fun k => clientOf k = owner i) (act i)) (c : C) {s t : K → V}
    (hst : AgreeOn (fun k => clientOf k = c) s t) (is : List I) :
    answersTo owner act c s is
        = answersTo owner act c t (is.filter fun i => owner i = c)
      ∧ AgreeOn (fun k => clientOf k = c) (storeAfter act s is)
        (storeAfter act t (is.filter fun i => owner i = c)) := by
  induction is generalizing s t with
  | nil => exact ⟨rfl, hst⟩
  | cons i is ih =>
      by_cases hi : owner i = c
      · have hown := hkeeps i
        rw [hi] at hown
        obtain ⟨hanswers, hstore⟩ := ih (hown.store s t hst)
        rw [List.filter_cons_of_pos (by simpa using hi)]
        refine ⟨?_, hstore⟩
        unfold answersTo
        rw [if_pos hi, if_pos hi, hanswers, hown.answer s t hst]
      · -- the operation of another client leaves these keys alone
        have hframe : AgreeOn (fun k => clientOf k = c) (act i s).1 t := by
          intro k hk
          have hforeign : ¬ clientOf k = owner i := fun h => hi (h.symm.trans hk)
          exact ((hkeeps i).frame s k hforeign).trans (hst k hk)
        obtain ⟨hanswers, hstore⟩ := ih hframe
        rw [List.filter_cons_of_neg (by simpa using hi)]
        refine ⟨?_, hstore⟩
        rw [answersTo, if_neg hi]
        exact hanswers

end

end HotelAgent.Lib
