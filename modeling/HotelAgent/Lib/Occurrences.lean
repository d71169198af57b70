/-
  HotelAgent.Lib.Occurrences — where a word occurs in a text.

  A word occurs in a text that is put together from pieces inside one of the
  pieces, or across a seam: it begins before the seam and ends behind it.
  Stripping takes no occurrence away from a text, as long as the word has
  nothing in it that is stripped.

  Main results:
    * `infix_flatten_iff` — the occurrences in a text made of pieces.
    * `infix_strip_iff` — stripping keeps a word without whitespace.
    * `splitOnce_eq_some_iff` — splitting finds the first occurrence.
    * `getLast?_splitOn`, `head?_splitOn_singleton` — the last and the first piece.
    * `splitOnce_drop_eq_some_iff` — splitting from a position on, by positions.
-/
import HotelAgent.Lib.Text
import Mathlib.Data.List.TakeWhile

namespace HotelAgent.Lib

variable {α : Type*}

/-! ## §1. Seams. -/

/-- A beginning of `w` ends `a`, and the rest of `w` begins `b`. -/
def Straddles (w a b : List α) : Prop :=
  ∃ k < w.length, 0 < k ∧ w.take k <:+ a ∧ w.drop k <+: b

instance decidableStraddles [DecidableEq α] (w a b : List α) : Decidable (Straddles w a b) :=
  inferInstanceAs (Decidable (∃ k < w.length, _ ∧ _ ∧ _))

theorem straddles_iff {w a b : List α} :
    Straddles w a b ↔ ∃ u v, u ≠ [] ∧ v ≠ [] ∧ w = u ++ v ∧ u <:+ a ∧ v <+: b := by
  constructor
  · rintro ⟨k, hk, hpos, hu, hv⟩
    refine ⟨w.take k, w.drop k, ?_, ?_, (List.take_append_drop k w).symm, hu, hv⟩
    · apply List.ne_nil_of_length_pos
      rw [List.length_take]
      omega
    · apply List.ne_nil_of_length_pos
      rw [List.length_drop]
      omega
  · rintro ⟨u, v, hu, hv, rfl, hsuffix, hprefix⟩
    have hupos := List.length_pos_of_ne_nil hu
    have hvpos := List.length_pos_of_ne_nil hv
    refine ⟨u.length, ?_, hupos, ?_, ?_⟩
    · rw [List.length_append]
      omega
    · rw [List.take_left]
      exact hsuffix
    · rw [List.drop_left]
      exact hprefix

/-- **Two pieces.** -/
theorem infix_append_iff_straddles {w a b : List α} :
    w <:+: a ++ b ↔ w <:+: a ∨ w <:+: b ∨ Straddles w a b := by
  rw [List.infix_append_iff_ne_nil, straddles_iff]

theorem Straddles.append_left {w a b : List α} (h : Straddles w a b) (c : List α) :
    Straddles w (c ++ a) b := by
  obtain ⟨k, hk, hpos, hu, hv⟩ := h
  exact ⟨k, hk, hpos, hu.trans (List.suffix_append c a), hv⟩

/-- **Any number of pieces.**  A word occurs in one of them, or across a seam. -/
theorem infix_flatten_iff {w : List α} (hw : w ≠ []) (ps : List (List α)) :
    w <:+: ps.flatten
      ↔ (∃ p ∈ ps, w <:+: p)
        ∨ ∃ before after, ps = before ++ after ∧ Straddles w before.flatten after.flatten := by
  constructor
  · intro h
    induction ps with
    | nil =>
        rw [List.flatten_nil, List.infix_nil] at h
        exact absurd h hw
    | cons p ps ih =>
        rw [List.flatten_cons, infix_append_iff_straddles] at h
        rcases h with hp | hps | hseam
        · exact .inl ⟨p, List.mem_cons_self, hp⟩
        · rcases ih hps with ⟨q, hq, hocc⟩ | ⟨before, after, rfl, hseam⟩
          · exact .inl ⟨q, List.mem_cons_of_mem p hq, hocc⟩
          · refine .inr ⟨p :: before, after, rfl, ?_⟩
            rw [List.flatten_cons]
            exact hseam.append_left p
        · refine .inr ⟨[p], ps, rfl, ?_⟩
          rw [List.flatten_singleton]
          exact hseam
  · rintro (⟨p, hp, hocc⟩ | ⟨before, after, rfl, hseam⟩)
    · obtain ⟨before, after, rfl⟩ := List.append_of_mem hp
      rw [List.flatten_append, List.flatten_cons]
      exact List.infix_append_of_infix_right (List.infix_append_of_infix_left hocc)
    · rw [List.flatten_append, infix_append_iff_straddles]
      exact .inr (.inr hseam)

/-- A word without the character `c` does not reach across it. -/
theorem infix_append_cons_iff {w a b : List α} {c : α} (hw : w ≠ []) (hc : c ∉ w) :
    w <:+: a ++ c :: b ↔ w <:+: a ∨ w <:+: b := by
  have hhead : ∀ v : List α, v ≠ [] → (∀ x ∈ v, x ∈ w) → ¬ v <+: c :: b := by
    intro v hv hsub hbegins
    obtain ⟨x, v, rfl⟩ := List.exists_cons_of_ne_nil hv
    rw [List.cons_prefix_cons] at hbegins
    exact hc (hbegins.1 ▸ hsub x List.mem_cons_self)
  constructor
  · intro h
    rcases List.infix_append_iff_ne_nil.mp h with h | h | ⟨u, v, _, hv, rfl, _, hprefix⟩
    · exact .inl h
    · rcases List.infix_cons_iff.mp h with h | h
      · exact absurd h (hhead w hw fun _ hx => hx)
      · exact .inr h
    · exact absurd hprefix (hhead v hv fun x hx => List.mem_append_right u hx)
  · rintro (h | h)
    · exact List.infix_append_of_infix_left h
    · exact List.infix_append_of_infix_right (List.infix_cons h)

/-! ## §2. What stripping keeps. -/

/-- A word that begins with nothing that is dropped. -/
theorem infix_dropWhile_iff {p : α → Bool} {w : List α} (hw : w ≠ []) (hp : ∀ c ∈ w, p c = false)
    (t : List α) : w <:+: t.dropWhile p ↔ w <:+: t := by
  constructor
  · intro h
    exact h.trans (List.dropWhile_suffix p).isInfix
  · intro h
    -- no character of the word is in the part that is dropped
    have hnone : ∀ u : List α, u ≠ [] → (∀ c ∈ u, c ∈ w) → ¬ u <:+: t.takeWhile p := by
      intro u hu hsub hocc
      obtain ⟨c, hc⟩ := List.exists_mem_of_ne_nil u hu
      have hdropped : p c = true := List.mem_takeWhile_imp (hocc.subset hc)
      rw [hp c (hsub c hc)] at hdropped
      exact absurd hdropped (by simp)
    rw [← List.takeWhile_append_dropWhile (p := p) (l := t), List.infix_append_iff_ne_nil] at h
    rcases h with h | h | ⟨u, v, hu, _, rfl, hsuffix, _⟩
    · exact absurd h (hnone w hw fun _ hc => hc)
    · exact h
    · exact absurd hsuffix.isInfix (hnone u hu fun c hc => List.mem_append_left v hc)

/-- **A word without whitespace survives `strip`.** -/
theorem infix_strip_iff {w : Text} (hw : w ≠ []) (hspace : ∀ c ∈ w, isSpace c = false)
    (t : Text) : w <:+: strip t ↔ w <:+: t := by
  have hw' : w.reverse ≠ [] := by simpa using hw
  have hspace' : ∀ c ∈ w.reverse, isSpace c = false := fun c hc =>
    hspace c (List.mem_reverse.mp hc)
  unfold strip
  rw [← List.reverse_infix, List.reverse_reverse, infix_dropWhile_iff hw' hspace',
    List.reverse_infix, infix_dropWhile_iff hw hspace]

/-- What begins with nothing that is dropped stays. -/
theorem dropWhile_of_head? {p : α → Bool} {l : List α} (h : ∀ c ∈ l.head?, p c = false) :
    l.dropWhile p = l := by
  cases l with
  | nil => rfl
  | cons c l => exact List.dropWhile_cons_of_neg (by simp [h c rfl])

/-- **What is stripped stays so.** -/
theorem strip_strip (t : Text) : strip (strip t) = strip t := by
  have hfront : (strip t).dropWhile isSpace = strip t := by
    refine dropWhile_of_head? fun c hc => ?_
    -- it begins like the text that has lost the whitespace in front
    have hprefix : strip t <+: t.dropWhile isSpace := by
      rw [strip, ← List.reverse_suffix, List.reverse_reverse]
      exact List.dropWhile_suffix isSpace
    obtain ⟨rest, hrest⟩ := hprefix
    have hnot := List.head?_dropWhile_not isSpace t
    rw [← hrest, List.head?_append, hc] at hnot
    exact hnot
  have hback : (strip t).reverse.dropWhile isSpace = (strip t).reverse := by
    rw [strip, List.reverse_reverse]
    refine dropWhile_of_head? fun c hc => ?_
    have hnot := List.head?_dropWhile_not isSpace (t.dropWhile isSpace).reverse
    rw [hc] at hnot
    exact hnot
  show (((strip t).dropWhile isSpace).reverse.dropWhile isSpace).reverse = strip t
  rw [hfront, hback, List.reverse_reverse]

/-! ## §3. The first occurrence. -/

/-- There is no occurrence before the one at which a text is split. -/
theorem not_infix_of_splitOnce {sep : Text} (hsep : sep ≠ []) :
    ∀ {t before after : Text}, splitOnce sep t = some (before, after) → ¬ sep <:+: before
  | [], before, after, h => by
      unfold splitOnce at h
      rw [if_neg hsep] at h
      exact absurd h (by simp)
  | c :: t, before, after, h => by
      unfold splitOnce at h
      split at h
      next hprefix =>
        injection h with h
        injection h with hb _
        rw [← hb, List.infix_nil]
        exact hsep
      next hprefix =>
        obtain ⟨⟨b, a⟩, hsplit, heq⟩ := Option.map_eq_some_iff.mp h
        injection heq with hb _
        rw [← hb, List.infix_cons_iff, not_or]
        refine ⟨fun hocc => hprefix ?_, not_infix_of_splitOnce hsep hsplit⟩
        -- what begins the text before the split begins the text
        rw [List.isPrefixOf_iff_prefix, splitOnce_eq_some hsplit, List.append_assoc]
        exact hocc.trans (List.prefix_append (c :: b) (sep ++ a))

/-- No proper beginning of `w` is also an end of it, so two occurrences never overlap. -/
def Unbordered (w : List α) : Prop := ∀ k < w.length, 0 < k → ¬ w.drop k <+: w

instance decidableUnbordered [DecidableEq α] (w : List α) : Decidable (Unbordered w) :=
  inferInstanceAs (Decidable (∀ k < w.length, _ → _))

/-- An occurrence that starts a text and reaches beyond `a` overlaps the one behind `a`. -/
theorem Unbordered.not_prefix {w a b : List α} (hw : Unbordered w) (ha : a ≠ [])
    (hfree : ¬ w <:+: a) : ¬ w <+: a ++ (w ++ b) := by
  intro h
  rcases Nat.lt_or_ge a.length w.length with hlt | hge
  · have hpos := List.length_pos_of_ne_nil ha
    obtain ⟨rest, hrest⟩ := h
    have hrest' : w.drop a.length ++ rest = w ++ b := by
      rw [← List.drop_append_of_le_length (Nat.le_of_lt hlt), hrest, List.drop_left]
    refine hw a.length hlt hpos ?_
    -- both begin the rest of the text, and this one is shorter
    refine List.prefix_of_prefix_length_le ⟨rest, rfl⟩ (hrest' ▸ List.prefix_append w b) ?_
    rw [List.length_drop]
    omega
  · exact hfree (List.prefix_of_prefix_length_le h (List.prefix_append a (w ++ b)) hge).isInfix

/-- **Splitting finds the first occurrence**: none ends before it. -/
theorem splitOnce_eq_some_iff {sep : Text} (hsep : sep ≠ []) (hfree : Unbordered sep)
    {t before after : Text} :
    splitOnce sep t = some (before, after)
      ↔ t = before ++ sep ++ after ∧ ¬ sep <:+: before := by
  refine ⟨fun h => ⟨splitOnce_eq_some h, not_infix_of_splitOnce hsep h⟩, ?_⟩
  rintro ⟨rfl, hnot⟩
  induction before with
  | nil =>
      obtain ⟨c, rest, hcons⟩ := List.exists_cons_of_ne_nil hsep
      have hprefix : sep.isPrefixOf (sep ++ after) = true :=
        List.isPrefixOf_iff_prefix.mpr (List.prefix_append sep after)
      have hdrop : (sep ++ after).drop sep.length = after := List.drop_left
      rw [List.nil_append]
      generalize ht : sep ++ after = t at hprefix hdrop ⊢
      cases t with
      | nil =>
          rw [hcons] at ht
          exact absurd ht (by simp)
      | cons d t =>
          unfold splitOnce
          rw [if_pos hprefix, hdrop]
  | cons c before ih =>
      have hprefix : ¬ sep <+: c :: before ++ (sep ++ after) :=
        hfree.not_prefix (List.cons_ne_nil c before) hnot
      have hrest := ih fun h => hnot (List.infix_cons h)
      rw [List.cons_append, List.cons_append]
      unfold splitOnce
      rw [if_neg fun h => hprefix ?_, hrest]
      · rfl
      · have hocc := List.isPrefixOf_iff_prefix.mp h
        rw [List.append_assoc] at hocc
        exact hocc

/-- A text is not split where the separator does not occur. -/
theorem splitOnce_eq_none_iff {sep : Text} (hsep : sep ≠ []) :
    ∀ {t : Text}, splitOnce sep t = none ↔ ¬ sep <:+: t
  | [] => by
      rw [splitOnce, if_neg hsep, List.infix_nil]
      exact iff_of_true rfl hsep
  | c :: t => by
      rw [splitOnce, List.infix_cons_iff, not_or, ← splitOnce_eq_none_iff hsep (t := t)]
      split
      next hprefix =>
        exact iff_of_false (by simp) fun h => h.1 (List.isPrefixOf_iff_prefix.mp hprefix)
      next hprefix =>
        rw [Option.map_eq_none_iff]
        exact ⟨fun h => ⟨fun hocc => hprefix (List.isPrefixOf_iff_prefix.mpr hocc), h⟩,
          fun h => h.2⟩

/-! ## §4. The first and the last piece. -/

/-- A word that occurs in a text has a last occurrence. -/
theorem exists_last_occurrence {w t : Text} (hw : w ≠ []) (h : w <:+: t) :
    ∃ a b, t = a ++ w ++ b ∧ ¬ w <:+: b := by
  induction t with
  | nil =>
      rw [List.infix_nil] at h
      exact absurd h hw
  | cons c t ih =>
      by_cases hlater : w <:+: t
      · obtain ⟨a, b, rfl, hb⟩ := ih hlater
        exact ⟨c :: a, b, rfl, hb⟩
      · -- it occurs at the beginning only
        rcases List.infix_cons_iff.mp h with ⟨b, hb⟩ | hocc
        · refine ⟨[], b, hb.symm, fun hocc => hlater (hocc.trans ?_)⟩
          obtain ⟨d, v, rfl⟩ := List.exists_cons_of_ne_nil hw
          injection hb with _ hb
          rw [← hb]
          exact (List.suffix_append v b).isInfix
        · exact absurd hocc hlater

section
variable {sep : Text} (hsep : sep ≠ [])
include hsep

theorem splitMany_of_absent {t : Text} (h : ¬ sep <:+: t) (n : Nat) :
    splitMany sep n t = [t] := by
  cases n with
  | zero => rfl
  | succ n => rw [splitMany, (splitOnce_eq_none_iff hsep).mpr h]

theorem getLast?_splitMany (hfree : Unbordered sep) {b : Text} (hb : ¬ sep <:+: b) {n : Nat}
    {a : Text} (h : a.length < n) : (splitMany sep n (a ++ sep ++ b)).getLast? = some b := by
  induction n generalizing a with
  | zero => exact absurd h (Nat.not_lt_zero _)
  | succ n ih =>
      cases hsplit : splitOnce sep a with
      | none =>
          -- the separator in front of `b` is the first one
          have hfirst : splitOnce sep (a ++ sep ++ b) = some (a, b) :=
            (splitOnce_eq_some_iff hsep hfree).mpr
              ⟨rfl, (splitOnce_eq_none_iff hsep).mp hsplit⟩
          rw [splitMany, hfirst]
          simp only [splitMany_of_absent hsep hb]
          rfl
      | some p =>
          obtain ⟨a₁, a₂⟩ := p
          obtain ⟨ha, hnot⟩ := (splitOnce_eq_some_iff hsep hfree).mp hsplit
          have hfirst : splitOnce sep (a ++ sep ++ b) = some (a₁, a₂ ++ sep ++ b) :=
            (splitOnce_eq_some_iff hsep hfree).mpr
              ⟨by rw [ha]; simp only [List.append_assoc], hnot⟩
          have hlength : a₂.length < n := by
            have hpos := List.length_pos_of_ne_nil hsep
            rw [ha, List.length_append, List.length_append] at h
            omega
          rw [splitMany, hfirst]
          simp only
          rw [List.getLast?_cons, ih hlength]
          rfl

/-- **The last piece** is what follows the last separator. -/
theorem getLast?_splitOn (hfree : Unbordered sep) (a : Text) {b : Text} (hb : ¬ sep <:+: b) :
    (splitOn sep (a ++ sep ++ b)).getLast? = some b := by
  refine getLast?_splitMany hsep hfree hb ?_
  have hpos := List.length_pos_of_ne_nil hsep
  rw [List.length_append, List.length_append]
  omega

end

/-- A separator of one character that is not there splits nothing. -/
theorem splitOnce_singleton_of_not_mem {c : CodePoint} : ∀ {t : Text}, c ∉ t →
    splitOnce [c] t = none
  | [], _ => rfl
  | d :: t, hmem => by
      have hne : c ≠ d := fun heq => hmem (heq ▸ List.mem_cons_self)
      have hrest := splitOnce_singleton_of_not_mem fun h => hmem (List.mem_cons_of_mem d h)
      rw [splitOnce, hrest]
      simp [List.isPrefixOf, hne]

/-- What stands before the first separator of one character. -/
theorem splitOnce_singleton_of_mem {c : CodePoint} : ∀ {t : Text}, c ∈ t →
    splitOnce [c] t = some (t.takeWhile (· ≠ c), (t.dropWhile (· ≠ c)).tail)
  | [], hmem => absurd hmem List.not_mem_nil
  | d :: t, hmem => by
      rw [splitOnce]
      by_cases h : c = d
      · subst h
        simp [List.isPrefixOf]
      · have hrest := splitOnce_singleton_of_mem ((List.mem_cons.mp hmem).resolve_left h)
        have hne : d ≠ c := fun heq => h heq.symm
        rw [hrest]
        simp [List.isPrefixOf, h, hne]

/-- **The first piece** is what precedes the first separator. -/
theorem head?_splitOn_singleton (c : CodePoint) (t : Text) :
    (splitOn [c] t).head? = some (t.takeWhile (· ≠ c)) := by
  unfold splitOn
  cases t with
  | nil => rfl
  | cons d t =>
      rw [List.length_cons, splitMany]
      by_cases hmem : c ∈ d :: t
      · rw [splitOnce_singleton_of_mem hmem]
        rfl
      · rw [splitOnce_singleton_of_not_mem hmem]
        have hall : (d :: t).takeWhile (· ≠ c) = d :: t := by
          rw [List.takeWhile_eq_self_iff]
          intro x hx
          have hne : x ≠ c := fun heq => hmem (heq ▸ hx)
          simpa using hne
        rw [hall]
        rfl

/-! ## §5. Positions. -/

/-- The first occurrence of `w` at or after position `i` starts at `j`. -/
def FirstAt (w t : List α) (i j : Nat) : Prop :=
  i ≤ j ∧ w <+: t.drop j ∧ ∀ k, i ≤ k → k < j → ¬ w <+: t.drop k

theorem FirstAt.unique {w t : List α} {i j j' : Nat} (h : FirstAt w t i j)
    (h' : FirstAt w t i j') : j = j' := by
  obtain ⟨hle, hocc, hfirst⟩ := h
  obtain ⟨hle', hocc', hfirst'⟩ := h'
  rcases Nat.lt_trichotomy j j' with hlt | heq | hlt
  · exact absurd hocc (hfirst' j hle hlt)
  · exact heq
  · exact absurd hocc' (hfirst j' hle' hlt)

/-- An occurrence ends inside the text. -/
theorem FirstAt.add_length_le {w t : List α} {i j : Nat} (hw : w ≠ []) (h : FirstAt w t i j) :
    j + w.length ≤ t.length := by
  have hlength := h.2.1.length_le
  have hpos := List.length_pos_of_ne_nil hw
  rw [List.length_drop] at hlength
  omega

theorem firstAt_drop_iff {w t : List α} {i j : Nat} :
    FirstAt w (t.drop i) 0 j ↔ FirstAt w t i (i + j) := by
  unfold FirstAt
  rw [List.drop_drop]
  constructor
  · rintro ⟨_, hocc, hfirst⟩
    refine ⟨Nat.le_add_right i j, hocc, fun k hik hkj => ?_⟩
    have hk := hfirst (k - i) (Nat.zero_le _) (by omega)
    rw [List.drop_drop, Nat.add_sub_cancel' hik] at hk
    exact hk
  · rintro ⟨_, hocc, hfirst⟩
    refine ⟨Nat.zero_le j, hocc, fun k _ hkj => ?_⟩
    rw [List.drop_drop]
    exact hfirst (i + k) (Nat.le_add_right i k) (by omega)

/-- Splitting finds the first position. -/
theorem splitOnce_eq_some_iff_firstAt {sep : Text} (hsep : sep ≠ []) {t before after : Text} :
    splitOnce sep t = some (before, after)
      ↔ ∃ j, FirstAt sep t 0 j ∧ before = t.take j ∧ after = t.drop (j + sep.length) := by
  induction t generalizing before after with
  | nil =>
      rw [splitOnce, if_neg hsep]
      refine iff_of_false (by simp) ?_
      rintro ⟨j, ⟨_, hocc, _⟩, _⟩
      rw [List.drop_nil] at hocc
      exact hsep (List.prefix_nil.mp hocc)
  | cons c t ih =>
      rw [splitOnce]
      by_cases hstart : sep.isPrefixOf (c :: t) = true
      · have hzero : FirstAt sep (c :: t) 0 0 :=
          ⟨Nat.le_refl 0, List.isPrefixOf_iff_prefix.mp hstart, fun k _ hk =>
            absurd hk (Nat.not_lt_zero k)⟩
        rw [if_pos hstart]
        constructor
        · intro h
          injection h with h
          injection h with hbefore hafter
          refine ⟨0, hzero, hbefore.symm, ?_⟩
          rw [Nat.zero_add, hafter]
        · rintro ⟨j, hj, rfl, rfl⟩
          rw [hj.unique hzero, Nat.zero_add]
          rfl
      · have hnot : ¬ sep <+: c :: t := fun h => hstart (List.isPrefixOf_iff_prefix.mpr h)
        rw [if_neg hstart, Option.map_eq_some_iff]
        constructor
        · rintro ⟨⟨front, rest⟩, hsplit, heq⟩
          injection heq with hbefore hafter
          obtain ⟨j, ⟨_, hocc, hfirst⟩, hfront, hrest⟩ := ih.mp hsplit
          refine ⟨j + 1, ⟨Nat.zero_le _, hocc, fun k _ hk => ?_⟩, ?_, ?_⟩
          · cases k with
            | zero => exact hnot
            | succ k => exact hfirst k (Nat.zero_le k) (Nat.lt_of_succ_lt_succ hk)
          · rw [← hbefore, List.take_succ_cons, ← hfront]
          · rw [← hafter, Nat.add_right_comm, List.drop_succ_cons, ← hrest]
        · rintro ⟨j, ⟨_, hocc, hfirst⟩, rfl, rfl⟩
          cases j with
          | zero => exact absurd hocc hnot
          | succ j =>
              refine ⟨(t.take j, t.drop (j + sep.length)), ih.mpr ⟨j, ⟨Nat.zero_le j, hocc, ?_⟩,
                rfl, rfl⟩, ?_⟩
              · intro k _ hk
                exact hfirst (k + 1) (Nat.zero_le _) (Nat.succ_lt_succ hk)
              · rw [List.take_succ_cons, Nat.add_right_comm, List.drop_succ_cons]

/-- **Splitting from a position on.** -/
theorem splitOnce_drop_eq_some_iff {sep : Text} (hsep : sep ≠ []) {t before after : Text}
    {i : Nat} :
    splitOnce sep (t.drop i) = some (before, after)
      ↔ ∃ j, FirstAt sep t i j ∧ before = (t.take j).drop i ∧ after = t.drop (j + sep.length) := by
  rw [splitOnce_eq_some_iff_firstAt hsep]
  constructor
  · rintro ⟨j, hj, rfl, rfl⟩
    refine ⟨i + j, firstAt_drop_iff.mp hj, ?_, ?_⟩
    · rw [List.drop_take, Nat.add_sub_cancel_left]
    · rw [List.drop_drop, Nat.add_assoc]
  · rintro ⟨j, hj, rfl, rfl⟩
    have heq : i + (j - i) = j := Nat.add_sub_cancel' hj.1
    refine ⟨j - i, firstAt_drop_iff.mpr (by rw [heq]; exact hj), ?_, ?_⟩
    · rw [List.drop_take]
    · rw [List.drop_drop, ← Nat.add_assoc, heq]

end HotelAgent.Lib
