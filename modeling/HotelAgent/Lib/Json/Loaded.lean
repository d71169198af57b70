/-
  HotelAgent.Lib.Json.Loaded — what `loads` returns is held as Python holds it.

  A float is read by `float(numeral)` and shown by `repr`, so every float inside
  a loaded value is spelled as `repr` spells it, however the text spelled it.
  One invariant for the scanner, one for the stack machine:

      scanner   a numeral read so far is the beginning of a numeral
      machine   the values in the open containers are spelled so

  Main results:
    * `floatsOk_loads` — every loaded value.
    * `floatsOkFields_dictSet` — and what is set in a loaded `dict`.
-/
import HotelAgent.Lib.Json.Scan

namespace HotelAgent.Lib

/-! ## §1. Numerals. -/

/-- The text whose reversal is `acc` is the beginning of a numeral, in part `p`. -/
def NumRead (p : NumPart) (acc : Text) : Prop :=
  ∃ c t p₀, acc.reverse = c :: t ∧ numStart c = some p₀ ∧ numRun p₀ t = some p

/-- The same; after `e` and a sign, with the fraction that came before. -/
def NumeralRead (p : NumPart) (acc : Text) : Prop :=
  NumRead p acc ∧ (p = .exp true → NumRead .frac acc.tail)
    ∧ (p = .expSign true → NumRead .frac acc.tail.tail)

theorem numRun_concat : ∀ {t : Text} {p q r : NumPart} {c : CodePoint},
    numRun p t = some q → numStep q c = some r → numRun p (t ++ [c]) = some r
  | [], p, q, r, c, hp, hc => by
      injection hp with hp
      subst hp
      show (numStep p c).bind (numRun · []) = some r
      rw [hc]
      rfl
  | d :: t, p, q, r, c, hp, hc => by
      obtain ⟨p', hp', hrun⟩ := Option.bind_eq_some_iff.mp hp
      show (numStep p d).bind (numRun · (t ++ [c])) = some r
      rw [hp']
      exact numRun_concat hrun hc

theorem NumRead.step {p q : NumPart} {acc : Text} {c : CodePoint} (h : NumRead p acc)
    (hc : numStep p c = some q) : NumRead q (c :: acc) := by
  obtain ⟨d, t, p₀, hacc, hstart, hrun⟩ := h
  refine ⟨d, t ++ [c], p₀, ?_, hstart, numRun_concat hrun hc⟩
  rw [List.reverse_cons, hacc]
  rfl

/-- The beginning of a numeral that stops in its fraction or its exponent. -/
theorem NumRead.isFloatNumeral {p : NumPart} {acc : Text} (h : NumRead p acc)
    (hp : p = .frac ∨ p = .expDigits) : IsFloatNumeral acc.reverse := by
  obtain ⟨c, t, p₀, hacc, hstart, hrun⟩ := h
  rw [hacc]
  refine ⟨p₀, hstart, ?_⟩
  rcases hp with rfl | rfl
  · exact .inl hrun
  · exact .inr hrun

theorem numeralRead_start {c : CodePoint} {p : NumPart} (h : numStart c = some p) :
    NumeralRead p [c] := by
  refine ⟨⟨c, [], p, rfl, h, rfl⟩, ?_, ?_⟩
  · rintro rfl
    unfold numStart at h
    split_ifs at h
    all_goals exact absurd h (by simp)
  · rintro rfl
    unfold numStart at h
    split_ifs at h
    all_goals exact absurd h (by simp)

theorem NumeralRead.step {p q : NumPart} {acc : Text} {c : CodePoint} (h : NumeralRead p acc)
    (hc : numStep p c = some q) : NumeralRead q (c :: acc) := by
  obtain ⟨hread, hexp, _⟩ := h
  refine ⟨hread.step hc, ?_, ?_⟩
  · -- `e` with a fraction follows the fraction
    rintro rfl
    cases p with
    | frac => exact hread
    | _ =>
        simp only [numStep] at hc
        split_ifs at hc
        all_goals exact absurd hc (by simp)
  · -- and the sign follows that `e`
    rintro rfl
    cases p with
    | exp f =>
        simp only [numStep] at hc
        split_ifs at hc
        · exact absurd hc (by simp)
        · injection hc with hc
          injection hc with hc
          rw [hc] at hexp
          exact hexp rfl
    | _ =>
        simp only [numStep] at hc
        split_ifs at hc
        all_goals exact absurd hc (by simp)

/-! ## §2. The scanner. -/

/-- The value of a token is spelled as `repr` spells it. -/
def TokenOk (py : Python) : Token → Prop
  | .scalar v => FloatsOk py v
  | _ => True

/-- The state stands inside a numeral or a word that is read right. -/
def LexOk (py : Python) : Lex → Prop
  | .num p acc => NumeralRead p acc
  | .word _ v => FloatsOk py v
  | _ => True

section
variable {py : Python}

theorem tokenOk_intToken (t : Text) : TokenOk py (intToken t) := by
  unfold intToken
  split
  · trivial
  · split
    · split
      · trivial
      · trivial
    · split
      · trivial
      · trivial

/-- What `repr` prints of a numeral. -/
theorem floatsOk_floatRepr {t : Text} (h : IsFloatNumeral t) :
    FloatsOk py (.float (py.floatRepr t)) := by
  rcases py.floatRepr_canonical t h with hconst | ⟨hnum, hrepr⟩
  · exact .inl hconst
  · exact .inr ⟨hnum, hrepr⟩

theorem tokenOk_numTokens {p : NumPart} {acc : Text} (h : NumeralRead p acc) :
    ∀ t ∈ numTokens py p acc, TokenOk py t := by
  obtain ⟨hread, hexp, hsign⟩ := h
  have hone : ∀ {a : Token}, TokenOk py a → ∀ t ∈ [a], TokenOk py t := by
    intro a ha t ht
    rw [List.mem_singleton.mp ht]
    exact ha
  have htwo : ∀ {a : Token}, TokenOk py a → ∀ t ∈ [a, .bad], TokenOk py t := by
    intro a ha t ht
    rcases List.mem_cons.mp ht with rfl | ht
    · exact ha
    · rw [List.mem_singleton.mp ht]
      trivial
  cases p with
  | sign => exact hone trivial
  | zero => exact hone (tokenOk_intToken _)
  | int => exact hone (tokenOk_intToken _)
  | dot => exact htwo (tokenOk_intToken _)
  | frac => exact hone (floatsOk_floatRepr (hread.isFloatNumeral (.inl rfl)))
  | exp f =>
      cases f with
      | true => exact htwo (floatsOk_floatRepr ((hexp rfl).isFloatNumeral (.inl rfl)))
      | false => exact htwo (tokenOk_intToken _)
  | expSign f =>
      cases f with
      | true => exact htwo (floatsOk_floatRepr ((hsign rfl).isFloatNumeral (.inl rfl)))
      | false => exact htwo (tokenOk_intToken _)
  | expDigits => exact hone (floatsOk_floatRepr (hread.isFloatNumeral (.inr rfl)))

/-- Tokens and next state of a step. -/
def StepOk (py : Python) (step : List Token × Lex) : Prop :=
  (∀ t ∈ step.1, TokenOk py t) ∧ LexOk py step.2

theorem stepOk_nil {s : Lex} (h : LexOk py s) : StepOk py ([], s) := ⟨by simp, h⟩

theorem stepOk_one {t : Token} {s : Lex} (ht : TokenOk py t) (h : LexOk py s) :
    StepOk py ([t], s) := by
  refine ⟨fun t' ht' => ?_, h⟩
  rw [List.mem_singleton.mp ht']
  exact ht

theorem stepOk_idleStep (py : Python) (c : CodePoint) : StepOk py (idleStep c) := by
  unfold idleStep
  split
  · exact stepOk_nil trivial
  split
  · exact stepOk_nil trivial
  split
  next t ht =>
    refine stepOk_one ?_ trivial
    unfold punctuation? at ht
    split_ifs at ht <;> injection ht with ht <;> rw [← ht] <;> trivial
  split
  next p hp => exact stepOk_nil (numeralRead_start hp)
  split
  next rest v hw =>
    refine stepOk_nil ?_
    unfold wordStart? at hw
    split_ifs at hw
    · injection hw with hw
      injection hw with _ hv
      rw [← hv]
      trivial
    · injection hw with hw
      injection hw with _ hv
      rw [← hv]
      trivial
    · injection hw with hw
      injection hw with _ hv
      rw [← hv]
      trivial
    · injection hw with hw
      injection hw with _ hv
      rw [← hv]
      exact .inl (.inl rfl)
    · injection hw with hw
      injection hw with _ hv
      rw [← hv]
      exact .inl (.inr (.inl rfl))
  next => exact stepOk_one trivial trivial

theorem lexOk_afterUnit (acc : Text) (c : CodePoint) : LexOk py (afterUnit acc c) := by
  unfold afterUnit
  split
  · trivial
  · trivial

theorem stepOk_plainStep (acc : Text) (c : CodePoint) : StepOk py (plainStep acc c) := by
  unfold plainStep
  split
  · exact stepOk_one trivial trivial
  split
  · exact stepOk_nil trivial
  split
  · exact stepOk_one trivial trivial
  · exact stepOk_nil trivial

theorem stepOk_escStep (acc : Text) (c : CodePoint) : StepOk py (escStep acc c) := by
  unfold escStep
  split
  · exact stepOk_nil trivial
  split
  · exact stepOk_nil trivial
  · exact stepOk_one trivial trivial

theorem stepOk_strStep (acc : Text) (m : StrMode) (c : CodePoint) :
    StepOk py (strStep acc m c) := by
  cases m with
  | plain => exact stepOk_plainStep acc c
  | esc => exact stepOk_escStep acc c
  | hex n v =>
      simp only [strStep]
      split
      · exact stepOk_one trivial trivial
      · split
        · exact stepOk_nil (lexOk_afterUnit _ _)
        · exact stepOk_nil trivial
  | high h =>
      simp only [strStep]
      split
      · exact stepOk_nil trivial
      · exact stepOk_plainStep _ c
  | highEsc h =>
      simp only [strStep]
      split
      · exact stepOk_nil trivial
      · exact stepOk_escStep _ c
  | lowHex h n v =>
      simp only [strStep]
      split
      · exact stepOk_one trivial trivial
      · split
        · split
          · exact stepOk_nil trivial
          · exact stepOk_nil (lexOk_afterUnit _ _)
        · exact stepOk_nil trivial

theorem stepOk_numCharStep {p : NumPart} {acc : Text} (h : NumeralRead p acc) (c : CodePoint) :
    StepOk py (numCharStep py p acc c) := by
  unfold numCharStep
  split
  next q hq => exact stepOk_nil (h.step hq)
  split
  · exact stepOk_nil (.inl (.inr (.inr rfl)))
  split
  · obtain ⟨htokens, hnext⟩ := stepOk_idleStep py c
    refine ⟨fun t ht => ?_, hnext⟩
    rcases List.mem_append.mp ht with ht | ht
    · exact tokenOk_numTokens h t ht
    · exact htokens t ht
  · exact ⟨tokenOk_numTokens h, trivial⟩

/-- **One character.** -/
theorem stepOk_lexStep {s : Lex} (h : LexOk py s) (c : CodePoint) : StepOk py (lexStep py s c) := by
  cases s with
  | idle => exact stepOk_idleStep py c
  | str acc m => exact stepOk_strStep acc m c
  | num p acc => exact stepOk_numCharStep h c
  | word rest v =>
      cases rest with
      | nil => exact stepOk_one trivial trivial
      | cons d rest =>
          simp only [lexStep]
          split
          · split
            · exact stepOk_one h trivial
            · exact stepOk_nil h
          · exact stepOk_one trivial trivial
  | dead => exact stepOk_nil trivial

/-- **Every token of a text** is read right. -/
theorem tokenOk_lex : ∀ (t : Text) {s : Lex}, LexOk py s → ∀ tok ∈ lex py s t, TokenOk py tok
  | [], s, h, tok, htok => by
      cases s with
      | idle => exact absurd htok (by simp [lex, lexEnd])
      | str acc m =>
          rw [List.mem_singleton.mp htok]
          trivial
      | num p acc => exact tokenOk_numTokens h tok htok
      | word rest v =>
          rw [List.mem_singleton.mp htok]
          trivial
      | dead => exact absurd htok (by simp [lex, lexEnd])
  | c :: t, s, h, tok, htok => by
      obtain ⟨htokens, hnext⟩ := stepOk_lexStep h c
      rcases List.mem_append.mp htok with htok | htok
      · exact htokens tok htok
      · exact tokenOk_lex t hnext tok htok

/-! ## §3. The stack machine. -/

theorem floatsOkElems_iff : ∀ {xs : List Json}, FloatsOkElems py xs ↔ ∀ x ∈ xs, FloatsOk py x
  | [] => by simp [FloatsOkElems]
  | x :: xs => by
      rw [List.forall_mem_cons, ← floatsOkElems_iff]
      exact Iff.rfl

/-- **A member that is set** leaves a loaded `dict` as it should be. -/
theorem floatsOkFields_dictSet : ∀ {fs : List (Text × Json)} {k : Text} {v : Json},
    FloatsOkFields py fs → FloatsOk py v → FloatsOkFields py (dictSet fs k v)
  | [], _, _, _, hv => ⟨hv, trivial⟩
  | (k', v') :: fs, k, v, hfs, hv => by
      unfold dictSet
      split
      · exact ⟨hv, hfs.2⟩
      · exact ⟨hfs.1, floatsOkFields_dictSet hfs.2 hv⟩

/-- The values in an open container. -/
def FrameOk (py : Python) : Frame → Prop
  | .arr acc => ∀ v ∈ acc, FloatsOk py v
  | .obj fields _ => FloatsOkFields py fields

/-- The values in all of them, or the one that is done. -/
def MachineOk (py : Python) (m : Machine) : Prop :=
  (∀ v, m.1 = .done v → FloatsOk py v) ∧ ∀ f ∈ m.2, FrameOk py f

theorem machineOk_of_stack {md : Mode} {st : List Frame} (hmd : ∀ v, md ≠ .done v)
    (hst : ∀ f ∈ st, FrameOk py f) : MachineOk py (md, st) :=
  ⟨fun v hv => absurd hv (hmd v), hst⟩

theorem machineOk_deliver {v : Json} {st : List Frame} {m : Machine} (hv : FloatsOk py v)
    (hst : ∀ f ∈ st, FrameOk py f) (h : deliver v st = .ok m) : MachineOk py m := by
  cases st with
  | nil =>
      injection h with h
      subst h
      refine ⟨fun v' hv' => ?_, hst⟩
      injection hv' with hv'
      rw [← hv']
      exact hv
  | cons f st =>
      rw [List.forall_mem_cons] at hst
      obtain ⟨hf, hst⟩ := hst
      cases f with
      | arr acc =>
          injection h with h
          subst h
          refine machineOk_of_stack (by simp) (List.forall_mem_cons.mpr ⟨?_, hst⟩)
          exact List.forall_mem_cons.mpr ⟨hv, hf⟩
      | obj fields key =>
          cases key with
          | none => exact absurd h (by simp [deliver])
          | some k =>
              injection h with h
              subst h
              refine machineOk_of_stack (by simp) (List.forall_mem_cons.mpr ⟨?_, hst⟩)
              exact floatsOkFields_dictSet hf hv

theorem machineOk_beginValue {st : List Frame} {t : Token} {m : Machine} (ht : TokenOk py t)
    (hst : ∀ f ∈ st, FrameOk py f) (h : beginValue py st t = .ok m) : MachineOk py m := by
  cases t with
  | scalar v => exact machineOk_deliver ht hst h
  | str s => exact machineOk_deliver (v := .str s) trivial hst h
  | lbrack =>
      simp only [beginValue] at h
      split at h
      · exact absurd h (by simp)
      · injection h with h
        subst h
        exact machineOk_of_stack (by simp) (List.forall_mem_cons.mpr ⟨by simp [FrameOk], hst⟩)
  | lbrace =>
      simp only [beginValue] at h
      split at h
      · exact absurd h (by simp)
      · injection h with h
        subst h
        exact machineOk_of_stack (by simp) (List.forall_mem_cons.mpr ⟨trivial, hst⟩)
  | longInt => exact absurd h (by simp [beginValue])
  | _ => exact absurd h (by simp [beginValue])

/-- **One token.** -/
theorem machineOk_machineStep {m m' : Machine} {t : Token} (hm : MachineOk py m)
    (ht : TokenOk py t) (h : machineStep py m t = .ok m') : MachineOk py m' := by
  obtain ⟨_, hst⟩ := hm
  unfold machineStep at h
  split at h
  · exact machineOk_beginValue ht hst h
  · exact machineOk_deliver (v := .arr []) trivial (List.forall_mem_cons.mp hst).2 h
  · exact machineOk_beginValue ht hst h
  · exact machineOk_deliver (v := .obj []) trivial (List.forall_mem_cons.mp hst).2 h
  · injection h with h
    subst h
    exact machineOk_of_stack (by simp) hst
  · injection h with h
    subst h
    exact machineOk_of_stack (by simp) hst
  · injection h with h
    subst h
    obtain ⟨hf, hst⟩ := List.forall_mem_cons.mp hst
    exact machineOk_of_stack (by simp) (List.forall_mem_cons.mpr ⟨hf, hst⟩)
  · injection h with h
    subst h
    exact machineOk_of_stack (by simp) hst
  · -- a closed array
    obtain ⟨hf, hst⟩ := List.forall_mem_cons.mp hst
    refine machineOk_deliver (v := .arr _) (floatsOkElems_iff.mpr fun x hx => ?_) hst h
    exact hf x (List.mem_reverse.mp hx)
  · injection h with h
    subst h
    exact machineOk_of_stack (by simp) hst
  · -- a closed object
    obtain ⟨hf, hst⟩ := List.forall_mem_cons.mp hst
    exact machineOk_deliver (v := .obj _) hf hst h
  · exact absurd h (by simp)

theorem floatsOk_parse : ∀ {ts : List Token} {m : Machine} {v : Json}, MachineOk py m →
    (∀ t ∈ ts, TokenOk py t) → parse py m ts = .ok v → FloatsOk py v
  | [], (md, st), v, hm, _, h => by
      cases md with
      | done v' =>
          injection h with h
          rw [← h]
          exact hm.1 v' rfl
      | _ => exact absurd h (by simp [parse])
  | t :: ts, (md, st), v, hm, hts, h => by
      have hstep : (machineStep py (md, st) t).bind (parse py · ts) = .ok v := by
        cases md <;> exact h
      cases hnext : machineStep py (md, st) t with
      | error e =>
          rw [hnext] at hstep
          exact absurd hstep (by simp [Except.bind])
      | ok m =>
          rw [hnext] at hstep
          exact floatsOk_parse
            (machineOk_machineStep hm (hts t List.mem_cons_self) hnext)
            (fun t ht => hts t (List.mem_cons_of_mem _ ht)) hstep

/-- **Every loaded value** is held as Python holds it. -/
theorem floatsOk_loads {t : Text} {v : Json} (h : loads py t = .ok v) : FloatsOk py v :=
  floatsOk_parse (machineOk_of_stack (by simp) (by simp)) (tokenOk_lex t (s := .idle) trivial) h

end

end HotelAgent.Lib
