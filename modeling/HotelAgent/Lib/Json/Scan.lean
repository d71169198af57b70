/-
  HotelAgent.Lib.Json.Scan — the scanner reads back what `dumps` prints.

  `tokensOf v` is the token sequence of a value.  The main result,
  `lex_dumps`, says that scanning `dumps v` followed by a delimiter yields
  `tokensOf v` and goes on behind it.

  A string need not come back as it was: a high surrogate directly before a
  low one prints as two escapes, and two such escapes read back as ONE
  character.  `rejoin` says what comes back.
-/
import HotelAgent.Lib.Json.Syntax
import Mathlib.Data.Nat.Digits.Lemmas
import Mathlib.Tactic.IntervalCases

namespace HotelAgent.Lib

/-! ## §1. Tokens of a value. -/

/-- One more character of a string that is read back; the text so far is
reversed. -/
def pushPoint : Text → CodePoint → Text
  | h :: acc, c => if isHigh h && isLow c then joinSurrogates h c :: acc else c :: h :: acc
  | [], c => [c]

/-- A string, printed and read back. -/
def rejoin (s : Text) : Text := (s.foldl pushPoint []).reverse

mutual
/-- Every float inside is spelled as `repr` spells it. -/
def FloatsOk (py : Python) : Json → Prop
  | .float lit => IsFloatConst lit ∨ (IsFloatNumeral lit ∧ py.floatRepr lit = lit)
  | .arr xs => FloatsOkElems py xs
  | .obj fs => FloatsOkFields py fs
  | _ => True
def FloatsOkElems (py : Python) : List Json → Prop
  | [] => True
  | x :: xs => FloatsOk py x ∧ FloatsOkElems py xs
def FloatsOkFields (py : Python) : List (Text × Json) → Prop
  | [] => True
  | (_, v) :: fs => FloatsOk py v ∧ FloatsOkFields py fs
end

/-- A `dict` of JSON values, as the interpreter `py` holds it. -/
structure PyDict (py : Python) where
  fields : List (Text × Json)
  floatsOk : FloatsOkFields py fields := by trivial

/-- What is read out of such a `dict` is held so, too. -/
theorem floatsOk_dictGet {py : Python} : ∀ {fs : List (Text × Json)} {k : Text} {d : Json},
    FloatsOkFields py fs → FloatsOk py d → FloatsOk py (dictGet fs k d)
  | [], _, _, _, hd => hd
  | (k', v) :: fs, k, d, hfs, hd => by
      have htail := floatsOk_dictGet (k := k) hfs.2 hd
      unfold dictGet dictGet? at htail ⊢
      rw [List.find?_cons]
      by_cases hk : k' = k
      · simpa [hk] using hfs.1
      · simpa [hk] using htail

mutual
/-- The tokens of a value. -/
def tokensOf : Json → List Token
  | .str s => [.str (rejoin s)]
  | .arr xs => .lbrack :: (elemTokens xs ++ [.rbrack])
  | .obj fs => .lbrace :: (fieldTokens fs ++ [.rbrace])
  | v => [.scalar v]
def elemTokens : List Json → List Token
  | [] => []
  | [x] => tokensOf x
  | x :: y :: xs => tokensOf x ++ (.comma :: elemTokens (y :: xs))
def fieldTokens : List (Text × Json) → List Token
  | [] => []
  | [(k, v)] => .str (rejoin k) :: .colon :: tokensOf v
  | (k, v) :: f :: fs =>
    .str (rejoin k) :: .colon :: (tokensOf v ++ (.comma :: fieldTokens (f :: fs)))
end

/-- What may follow a printed value: the end, a comma or a closing bracket. -/
def Delim (t : Text) : Prop :=
  t = [] ∨ ∃ c r, t = c :: r ∧ (c.val = 0x2C ∨ c.val = 0x5D ∨ c.val = 0x7D)

theorem delim_nil : Delim [] := .inl rfl

theorem delim_comma (r : Text) : Delim (0x2C :: r) := .inr ⟨_, r, rfl, .inl rfl⟩

theorem delim_rbrack (r : Text) : Delim (0x5D :: r) := .inr ⟨_, r, rfl, .inr (.inl rfl)⟩

theorem delim_rbrace (r : Text) : Delim (0x7D :: r) := .inr ⟨_, r, rfl, .inr (.inr rfl)⟩

theorem lex_cons (py : Python) (s : Lex) (c : CodePoint) (t : Text) :
    lex py s (c :: t) = (lexStep py s c).1 ++ lex py (lexStep py s c).2 t := rfl

/-! ## §2. Numerals. -/

/-- The scanner takes a numeral whole, collecting its text. -/
theorem lex_numRun (py : Python) :
    ∀ (t : Text) {p q : NumPart} (acc rest : Text), numRun p t = some q →
      lex py (.num p acc) (t ++ rest) = lex py (.num q (t.reverse ++ acc)) rest
  | [], p, q, acc, rest, h => by
      injection h with h
      subst h
      rfl
  | c :: t, p, q, acc, rest, h => by
      obtain ⟨p', hp', hrun⟩ := Option.bind_eq_some_iff.mp h
      have hstep : lexStep py (.num p acc) c = ([], .num p' (c :: acc)) := by
        show numCharStep py p acc c = _
        rw [numCharStep, hp']
      rw [List.cons_append, lex_cons, hstep, List.nil_append,
        lex_numRun py t (c :: acc) rest hrun, List.reverse_cons, List.append_assoc]
      rfl

/-- A delimiter continues no complete numeral. -/
theorem numStep_delim {p : NumPart} {c : CodePoint} (hp : p.complete = true)
    (hc : c.val = 0x2C ∨ c.val = 0x5D ∨ c.val = 0x7D) : numStep p c = none := by
  rcases hc with hc | hc | hc <;> cases p <;>
    simp [NumPart.complete, numStep, isDigit, isExp, hc] at hp ⊢

/-- A complete numeral ends at a delimiter. -/
theorem lex_num_delim (py : Python) {p : NumPart} (acc rest : Text) (hp : p.complete = true)
    (hrest : Delim rest) :
    lex py (.num p acc) rest = numTokens py p acc ++ lex py .idle rest := by
  rcases hrest with rfl | ⟨c, r, rfl, hc⟩
  · show numTokens py p acc = numTokens py p acc ++ []
    rw [List.append_nil]
  · -- `-Infinity` may follow a bare minus sign, but that is no complete numeral
    have hsign : p ≠ .sign := by
      intro h
      rw [h] at hp
      exact absurd hp (by decide)
    have hstep : lexStep py (.num p acc) c
        = (numTokens py p acc ++ (idleStep c).1, (idleStep c).2) := by
      show numCharStep py p acc c = _
      rw [numCharStep, numStep_delim hp hc]
      simp only [hsign, false_and, if_false, hp, if_true]
    rw [lex_cons, hstep, lex_cons]
    show (numTokens py p acc ++ (idleStep c).1) ++ lex py (idleStep c).2 r
      = numTokens py p acc ++ ((idleStep c).1 ++ lex py (idleStep c).2 r)
    rw [List.append_assoc]

/-- A character that starts a numeral starts nothing else. -/
theorem idleStep_numStart {c : CodePoint} {p : NumPart} (h : numStart c = some p) :
    idleStep c = ([], .num p [c]) := by
  have hval : c.val = 0x2D ∨ (0x30 ≤ c.val ∧ c.val ≤ 0x39) := by
    unfold numStart at h
    split at h
    next h1 => exact .inl h1
    split at h
    next h2 => exact .inr (by omega)
    split at h
    next h3 =>
      simp only [isDigit, Bool.and_eq_true, decide_eq_true_eq] at h3
      exact .inr h3
    next => exact absurd h (by simp)
  have hws : isWs c = false := by
    simp only [isWs, Bool.or_eq_false_iff, decide_eq_false_iff_not]
    omega
  have hpunct : punctuation? c = none := by
    unfold punctuation?
    rw [if_neg (by omega), if_neg (by omega), if_neg (by omega), if_neg (by omega),
      if_neg (by omega), if_neg (by omega)]
  unfold idleStep
  rw [hws, hpunct, h]
  simp only [Bool.false_eq_true, if_false]
  rw [if_neg (by omega)]

/-- **Scanning a numeral.** -/
theorem lex_numeral (py : Python) {c : CodePoint} {t : Text} {p q : NumPart} (rest : Text)
    (hc : numStart c = some p) (ht : numRun p t = some q) (hq : q.complete = true)
    (hrest : Delim rest) :
    lex py .idle (c :: t ++ rest) = numTokens py q (c :: t).reverse ++ lex py .idle rest := by
  rw [List.cons_append, lex_cons]
  show (idleStep c).1 ++ lex py (idleStep c).2 (t ++ rest) = _
  rw [idleStep_numStart hc, List.nil_append, lex_numRun py t [c] rest ht,
    lex_num_delim py _ rest hq hrest, List.reverse_cons]

/-- Scanning a float as `repr` prints it. -/
theorem lex_float (py : Python) {lit : Text} (rest : Text) (hrest : Delim rest)
    (h : IsFloatConst lit ∨ (IsFloatNumeral lit ∧ py.floatRepr lit = lit)) :
    lex py .idle (lit ++ rest) = .scalar (.float lit) :: lex py .idle rest := by
  rcases h with (rfl | rfl | rfl) | ⟨hnum, hrepr⟩
  · rfl
  · rfl
  · rfl
  · cases lit with
    | nil => exact hnum.elim
    | cons c t =>
        obtain ⟨p, hp, hrun⟩ := hnum
        rcases hrun with hrun | hrun <;>
          rw [lex_numeral py rest hp hrun rfl hrest] <;>
          simp only [numTokens, List.reverse_reverse, hrepr] <;>
          rfl

/-! ## §3. Integers. -/

theorem digitPoint_val (d : Nat) : (digitPoint d).val = 0x30 + d % 10 := rfl

theorem isDigit_digitPoint (d : Nat) : isDigit (digitPoint d) = true := by
  have hd : 0x30 ≤ (digitPoint d).val ∧ (digitPoint d).val ≤ 0x39 := by
    rw [digitPoint_val]
    omega
  unfold isDigit
  rw [decide_eq_true hd.1, decide_eq_true hd.2]
  rfl

/-- Digits keep a numeral in its integer part. -/
theorem numRun_digits : ∀ (t : Text), (∀ c ∈ t, isDigit c = true) → numRun .int t = some .int
  | [], _ => rfl
  | c :: t, h => by
      have hc := h c List.mem_cons_self
      show (numStep .int c).bind (numRun · t) = _
      rw [show numStep .int c = some .int by simp [numStep, hc]]
      exact numRun_digits t fun d hd => h d (List.mem_cons_of_mem c hd)

/-- A positive number prints as a nonzero digit followed by digits. -/
theorem natText_pos {n : Nat} (hn : n ≠ 0) :
    ∃ c t, natText n = c :: t ∧ isDigit c = true ∧ c.val ≠ 0x30
      ∧ ∀ d ∈ t, isDigit d = true := by
  have hds : Nat.digits 10 n ≠ [] := Nat.digits_ne_nil_iff_ne_zero.mpr hn
  have hlast : (Nat.digits 10 n).getLast hds ≠ 0 := Nat.getLast_digit_ne_zero 10 hn
  have hlt : (Nat.digits 10 n).getLast hds < 10 :=
    Nat.digits_lt_base (by decide) (List.getLast_mem hds)
  refine ⟨digitPoint ((Nat.digits 10 n).getLast hds),
    ((Nat.digits 10 n).dropLast.map digitPoint).reverse, ?_, isDigit_digitPoint _, ?_, ?_⟩
  · unfold natText
    rw [if_neg hn]
    conv_lhs => rw [← List.dropLast_append_getLast hds]
    rw [List.map_append, List.reverse_append]
    rfl
  · rw [digitPoint_val]
    omega
  · intro d hd
    obtain ⟨x, _, rfl⟩ := List.mem_map.mp (List.mem_reverse.mp hd)
    exact isDigit_digitPoint x

/-- The digits of a number add up to it. -/
theorem digitsVal_natText (n : Nat) : digitsVal (natText n) = n := by
  unfold natText
  split
  next h =>
    subst h
    rfl
  next h =>
    -- the digits are printed from the last one, so the reversal is folded
    have hfold : ∀ ds : List Nat, (∀ d ∈ ds, d < 10) →
        digitsVal (ds.map digitPoint).reverse = Nat.ofDigits 10 ds := by
      intro ds
      induction ds with
      | nil => intro _; rfl
      | cons d ds ih =>
          intro hd
          have hlt : d < 10 := hd d List.mem_cons_self
          have ih' := ih fun x hx => hd x (List.mem_cons_of_mem d hx)
          unfold digitsVal at ih' ⊢
          rw [List.map_cons, List.reverse_cons, List.foldl_append, ih', Nat.ofDigits_cons]
          show 10 * Nat.ofDigits 10 ds + ((digitPoint d).val - 0x30) = d + 10 * Nat.ofDigits 10 ds
          rw [digitPoint_val]
          omega
    rw [hfold _ fun d hd => Nat.digits_lt_base (by decide) hd, Nat.ofDigits_digits]

/-- The scanner's view of a printed natural number, alone or behind a minus
sign. -/
theorem numRun_natText (n : Nat) :
    ∃ c t p q, natText n = c :: t ∧ numStart c = some p ∧ numStep .sign c = some p
      ∧ numRun p t = some q ∧ (q = .zero ∨ q = .int) ∧ c.val ≠ 0x2D := by
  by_cases hn : n = 0
  · subst hn
    exact ⟨0x30, [], .zero, .zero, rfl, rfl, rfl, rfl, .inl rfl, by decide⟩
  · obtain ⟨c, t, htext, hc, hc0, ht⟩ := natText_pos hn
    have hval : 0x30 ≤ c.val ∧ c.val ≤ 0x39 := by
      simpa only [isDigit, Bool.and_eq_true, decide_eq_true_eq] using hc
    have hstart : numStart c = some .int := by
      unfold numStart
      rw [if_neg (by omega), if_neg hc0, if_pos hc]
    have hsign : numStep .sign c = some .int := by
      simp [numStep, hc0, hc]
    exact ⟨c, t, .int, .int, htext, hstart, hsign, numRun_digits t ht, .inr rfl, by omega⟩

/-- **Scanning an integer.** -/
theorem lex_int (py : Python) (i : Int) (rest : Text) (hrest : Delim rest)
    (hshort : (natText i.natAbs).length ≤ maxStrDigits) :
    lex py .idle (intText i ++ rest) = .scalar (.int i) :: lex py .idle rest := by
  obtain ⟨c, t, p, q, htext, hstart, hsign, hrun, hq, hneg⟩ := numRun_natText i.natAbs
  have hval := digitsVal_natText i.natAbs
  have hqc : q.complete = true := by
    rcases hq with rfl | rfl <;> rfl
  have htok : ∀ acc, numTokens py q acc = [intToken acc.reverse] := by
    intro acc
    rcases hq with rfl | rfl <;> rfl
  by_cases hi : i < 0
  · have hlit : intText i = 0x2D :: (c :: t) := by
      unfold intText
      rw [if_pos hi, htext]
    have hrun' : numRun .sign (c :: t) = some q := by
      show (numStep .sign c).bind (numRun · t) = _
      rw [hsign]
      exact hrun
    rw [hlit, lex_numeral py rest rfl hrun' hqc hrest, htok, List.reverse_reverse]
    have : intToken (0x2D :: (c :: t)) = .scalar (.int i) := by
      show (if (c :: t).length ≤ maxStrDigits
        then Token.scalar (.int (-(digitsVal (c :: t) : Int))) else .longInt) = _
      rw [← htext, if_pos hshort, hval]
      congr 2
      omega
    rw [this]
    rfl
  · have hlit : intText i = c :: t := by
      unfold intText
      rw [if_neg hi, htext]
    rw [hlit, lex_numeral py rest hstart hrun hqc hrest, htok, List.reverse_reverse]
    have : intToken (c :: t) = .scalar (.int i) := by
      unfold intToken
      simp only [if_neg hneg]
      rw [← htext, if_pos hshort, hval]
      congr 2
      omega
    rw [this]
    rfl

/-! ## §4. Strings. -/

/-- The scanner after the characters whose reversal is given: a high surrogate
at the end waits for a partner. -/
def scanned : Text → Lex
  | [] => .str [] .plain
  | c :: acc => afterUnit acc c

theorem scanned_of_not_high {c : CodePoint} (acc : Text) (h : isHigh c = false) :
    scanned (c :: acc) = .str (c :: acc) .plain := by
  show afterUnit acc c = _
  rw [afterUnit, h]
  rfl

theorem scanned_of_high {h : CodePoint} (acc : Text) (hh : isHigh h = true) :
    scanned (h :: acc) = .str acc (.high h) := by
  show afterUnit acc h = _
  rw [afterUnit, if_pos hh]

/-- Outside an escape, a waiting surrogate is an ordinary character. -/
theorem lexStep_scanned (py : Python) (r : Text) {c : CodePoint} (hc : c.val ≠ 0x5C) :
    lexStep py (scanned r) c = plainStep r c := by
  cases r with
  | nil => rfl
  | cons h acc =>
      by_cases hh : isHigh h = true
      · rw [scanned_of_high acc hh]
        show (if c.val = 0x5C then _ else plainStep (h :: acc) c) = _
        rw [if_neg hc]
      · rw [scanned_of_not_high acc (by simpa using hh)]
        rfl

/-- A one-letter escape. -/
theorem lex_simpleEscape (py : Python) (r t : Text) {c d : CodePoint} (hc : c.val ≠ 0x75)
    (hd : simpleEscape? c = some d) :
    lex py (scanned r) (0x5C :: c :: t) = lex py (.str (d :: r) .plain) t := by
  have hesc : escStep r c = ([], .str (d :: r) .plain) := by
    unfold escStep
    rw [if_neg hc, hd]
  cases r with
  | nil =>
      rw [lex_cons, lex_cons]
      show [] ++ ((escStep [] c).1 ++ lex py (escStep [] c).2 t) = _
      rw [hesc]
      rfl
  | cons h acc =>
      by_cases hh : isHigh h = true
      · -- the escape is not `\u`, so the surrogate stays alone
        rw [scanned_of_high acc hh, lex_cons, lex_cons]
        have hstep : lexStep py (.str acc (.highEsc h)) c = escStep (h :: acc) c := by
          show (if c.val = 0x75 then _ else escStep (h :: acc) c) = _
          rw [if_neg hc]
        show [] ++ ((lexStep py (.str acc (.highEsc h)) c).1
          ++ lex py (lexStep py (.str acc (.highEsc h)) c).2 t) = _
        rw [hstep, hesc]
        rfl
      · rw [scanned_of_not_high acc (by simpa using hh), lex_cons, lex_cons]
        show [] ++ ((escStep (h :: acc) c).1 ++ lex py (escStep (h :: acc) c).2 t) = _
        rw [hesc]
        rfl

theorem hexVal?_hexPoint : ∀ d, d < 0x10 → hexVal? (hexPoint d) = some d := by decide

/-- One hex digit of an escape. -/
theorem lexStep_hex (py : Python) (acc : Text) (n v : Nat) {d : Nat} (hd : d < 0x10) :
    lexStep py (.str acc (.hex n v)) (hexPoint d)
      = ([], if n = 3 then afterUnit acc (unit (16 * v + d))
          else .str acc (.hex (n + 1) (16 * v + d))) := by
  show strStep acc (.hex n v) (hexPoint d) = _
  simp only [strStep, hexVal?_hexPoint d hd]
  by_cases hn : n = 3
  · simp only [if_pos hn]
  · simp only [if_neg hn]

/-- One hex digit of the escape after a high surrogate. -/
theorem lexStep_lowHex (py : Python) (acc : Text) (h : CodePoint) (n v : Nat) {d : Nat}
    (hd : d < 0x10) :
    lexStep py (.str acc (.lowHex h n v)) (hexPoint d)
      = ([], if n = 3 then
            if isLow (unit (16 * v + d)) then
              .str (joinSurrogates h (unit (16 * v + d)) :: acc) .plain
            else afterUnit (h :: acc) (unit (16 * v + d))
          else .str acc (.lowHex h (n + 1) (16 * v + d))) := by
  show strStep acc (.lowHex h n v) (hexPoint d) = _
  simp only [strStep, hexVal?_hexPoint d hd]
  by_cases hn : n = 3
  · by_cases hl : isLow (unit (16 * v + d)) = true
    · simp only [if_pos hn, if_pos hl]
    · simp only [if_pos hn, if_neg hl]
  · simp only [if_neg hn]

theorem hex_sum {v : Nat} (hv : v < 0x10000) :
    16 * (16 * (16 * (16 * 0 + v / 0x1000 % 0x10) + v / 0x100 % 0x10) + v / 0x10 % 0x10)
      + v % 0x10 = v := by
  omega

theorem unitEscape_append (v : Nat) (t : Text) :
    unitEscape v ++ t = 0x5C :: 0x75 :: ((unitEscape v).drop 2 ++ t) := rfl

theorem unitEscape_drop (v : Nat) (t : Text) :
    (unitEscape v).drop 2 ++ t
      = hexPoint (v / 0x1000 % 0x10) :: hexPoint (v / 0x100 % 0x10)
        :: hexPoint (v / 0x10 % 0x10) :: hexPoint (v % 0x10) :: t := rfl

/-- The four hex digits of a code unit. -/
theorem lex_hex (py : Python) (acc t : Text) {v : Nat} (hv : v < 0x10000) :
    lex py (.str acc (.hex 0 0)) ((unitEscape v).drop 2 ++ t)
      = lex py (afterUnit acc (unit v)) t := by
  rw [unitEscape_drop]
  rw [lex_cons, lexStep_hex py acc 0 0 (Nat.mod_lt _ (by decide)), if_neg (by decide)]
  rw [lex_cons, lexStep_hex py acc (0 + 1) _ (Nat.mod_lt _ (by decide)), if_neg (by decide)]
  rw [lex_cons, lexStep_hex py acc (0 + 1 + 1) _ (Nat.mod_lt _ (by decide)), if_neg (by decide)]
  rw [lex_cons, lexStep_hex py acc (0 + 1 + 1 + 1) _ (Nat.mod_lt _ (by decide)), if_pos rfl]
  rw [hex_sum hv]
  simp only [List.nil_append]

/-- The same after a high surrogate that waits: a low one joins it. -/
theorem lex_lowHex (py : Python) (acc t : Text) (h : CodePoint) {v : Nat} (hv : v < 0x10000) :
    lex py (.str acc (.lowHex h 0 0)) ((unitEscape v).drop 2 ++ t)
      = lex py (if isLow (unit v) then .str (joinSurrogates h (unit v) :: acc) .plain
          else afterUnit (h :: acc) (unit v)) t := by
  rw [unitEscape_drop]
  rw [lex_cons, lexStep_lowHex py acc h 0 0 (Nat.mod_lt _ (by decide)), if_neg (by decide)]
  rw [lex_cons, lexStep_lowHex py acc h (0 + 1) _ (Nat.mod_lt _ (by decide)),
    if_neg (by decide)]
  rw [lex_cons, lexStep_lowHex py acc h (0 + 1 + 1) _ (Nat.mod_lt _ (by decide)),
    if_neg (by decide)]
  rw [lex_cons, lexStep_lowHex py acc h (0 + 1 + 1 + 1) _ (Nat.mod_lt _ (by decide)),
    if_pos rfl]
  rw [hex_sum hv]
  simp only [List.nil_append]

theorem unit_val (v : Nat) : (unit v).val = v % 0x10000 := rfl

theorem unit_of_val {c : CodePoint} (h : c.val < 0x10000) : unit c.val = c := by
  apply Fin.ext
  rw [unit_val]
  exact Nat.mod_eq_of_lt h

theorem joinSurrogates_val (h l : CodePoint) :
    (joinSurrogates h l).val = 0x10000 + h.val % 0x400 * 0x400 + l.val % 0x400 := rfl

theorem isHigh_iff {c : CodePoint} : isHigh c = true ↔ 0xD800 ≤ c.val ∧ c.val ≤ 0xDBFF := by
  simp only [isHigh, Bool.and_eq_true, decide_eq_true_eq]

theorem isLow_iff {c : CodePoint} : isLow c = true ↔ 0xDC00 ≤ c.val ∧ c.val ≤ 0xDFFF := by
  simp only [isLow, Bool.and_eq_true, decide_eq_true_eq]

theorem isHigh_eq_false {c : CodePoint} (h : c.val < 0xD800 ∨ 0xDBFF < c.val) :
    isHigh c = false := by
  rw [Bool.eq_false_iff, Ne, isHigh_iff]
  omega

theorem isLow_eq_false {c : CodePoint} (h : c.val < 0xDC00 ∨ 0xDFFF < c.val) :
    isLow c = false := by
  rw [Bool.eq_false_iff, Ne, isLow_iff]
  omega

theorem isHigh_joinSurrogates (h l : CodePoint) : isHigh (joinSurrogates h l) = false := by
  apply isHigh_eq_false
  rw [joinSurrogates_val]
  omega

theorem pushPoint_cons (h : CodePoint) (acc : Text) (c : CodePoint) :
    pushPoint (h :: acc) c
      = if isHigh h && isLow c then joinSurrogates h c :: acc else c :: h :: acc := rfl

theorem pushPoint_of_not_low (r : Text) {c : CodePoint} (hc : isLow c = false) :
    pushPoint r c = c :: r := by
  cases r with
  | nil => rfl
  | cons h acc =>
      rw [pushPoint_cons, hc, Bool.and_false]
      rfl

/-- **A `\uXXXX` escape**: its code unit is the next character, or completes a
pair. -/
theorem lex_unitEscape (py : Python) (r t : Text) {v : Nat} (hv : v < 0x10000) :
    lex py (scanned r) (unitEscape v ++ t) = lex py (scanned (pushPoint r (unit v))) t := by
  rw [unitEscape_append]
  cases r with
  | nil =>
      rw [lex_cons, lex_cons]
      show lex py (.str [] (.hex 0 0)) _ = _
      rw [lex_hex py [] t hv]
      rfl
  | cons h acc =>
      by_cases hh : isHigh h = true
      · -- a surrogate waits: the unit completes the pair or follows it
        rw [scanned_of_high acc hh, lex_cons, lex_cons]
        show lex py (.str acc (.lowHex h 0 0)) _ = _
        rw [lex_lowHex py acc t h hv]
        by_cases hl : isLow (unit v) = true
        · have hpush : pushPoint (h :: acc) (unit v) = joinSurrogates h (unit v) :: acc := by
            rw [pushPoint_cons, hh, hl]
            rfl
          rw [if_pos hl, hpush, scanned_of_not_high acc (isHigh_joinSurrogates h (unit v))]
        · have hpush : pushPoint (h :: acc) (unit v) = unit v :: h :: acc := by
            rw [pushPoint_cons, Bool.eq_false_iff.mpr hl, Bool.and_false]
            rfl
          rw [if_neg hl, hpush]
          rfl
      · have hpush : pushPoint (h :: acc) (unit v) = unit v :: h :: acc := by
          rw [pushPoint_cons, Bool.eq_false_iff.mpr hh, Bool.false_and]
          rfl
        rw [hpush, scanned_of_not_high acc (Bool.eq_false_iff.mpr hh), lex_cons, lex_cons]
        show lex py (.str (h :: acc) (.hex 0 0)) _ = _
        rw [lex_hex py (h :: acc) t hv]
        rfl

/-- Two escapes that make a surrogate pair. -/
theorem lex_pair (py : Python) (r t : Text) {v w : Nat} (hv : v < 0x10000) (hw : w < 0x10000)
    (hhigh : isHigh (unit v) = true) (hlow : isLow (unit w) = true) :
    lex py (scanned r) (unitEscape v ++ (unitEscape w ++ t))
      = lex py (.str (joinSurrogates (unit v) (unit w) :: r) .plain) t := by
  have hnotlow : isLow (unit v) = false := by
    rw [isHigh_iff] at hhigh
    exact isLow_eq_false (by omega)
  have hpush : pushPoint (unit v :: r) (unit w) = joinSurrogates (unit v) (unit w) :: r := by
    rw [pushPoint_cons, hhigh, hlow]
    rfl
  rw [lex_unitEscape py r _ hv, pushPoint_of_not_low r hnotlow, lex_unitEscape py _ t hw, hpush,
    scanned_of_not_high r (isHigh_joinSurrogates _ _)]

/-- A character beyond the basic plane is the join of the pair it prints as. -/
theorem lex_astral (py : Python) (r t : Text) {c : CodePoint} (hc : 0x10000 ≤ c.val) :
    lex py (scanned r)
        (unitEscape (0xD800 + (c.val - 0x10000) / 0x400)
          ++ (unitEscape (0xDC00 + (c.val - 0x10000) % 0x400) ++ t))
      = lex py (scanned (c :: r)) t := by
  have hlt := c.isLt
  obtain ⟨v, hv⟩ : ∃ v, v = 0xD800 + (c.val - 0x10000) / 0x400 := ⟨_, rfl⟩
  obtain ⟨w, hw⟩ : ∃ w, w = 0xDC00 + (c.val - 0x10000) % 0x400 := ⟨_, rfl⟩
  have hvu : (unit v).val = v := by
    rw [unit_val]
    omega
  have hwu : (unit w).val = w := by
    rw [unit_val]
    omega
  have hjoin : joinSurrogates (unit v) (unit w) = c := by
    apply Fin.ext
    rw [joinSurrogates_val, hvu, hwu]
    omega
  have hcn : isHigh c = false := isHigh_eq_false (by omega)
  rw [← hv, ← hw, lex_pair py r t (by omega) (by omega) (isHigh_iff.mpr (by omega))
    (isLow_iff.mpr (by omega)), hjoin, scanned_of_not_high r hcn]

/-- **One printed character.** -/
theorem lex_escapePoint (py : Python) (r t : Text) (c : CodePoint) :
    lex py (scanned r) (escapePoint c ++ t) = lex py (scanned (pushPoint r c)) t := by
  have hnotlow : c.val < 0xDC00 ∨ 0xDFFF < c.val → pushPoint r c = c :: r := by
    intro h
    exact pushPoint_of_not_low r (isLow_eq_false h)
  have hsmall : c.val < 0xD800 → scanned (pushPoint r c) = .str (c :: r) .plain := by
    intro h
    rw [hnotlow (by omega)]
    exact scanned_of_not_high r (isHigh_eq_false (.inl h))
  -- a one-letter escape of the character with value `n`
  have hsimple : ∀ (e : CodePoint) (n : CodePoint), c.val = n.val → n.val < 0xD800 →
      e.val ≠ 0x75 → simpleEscape? e = some n →
      lex py (scanned r) ([0x5C, e] ++ t) = lex py (scanned (pushPoint r c)) t := by
    intro e n hn hlt he hs
    rw [hsmall (by omega), Fin.ext hn]
    exact lex_simpleEscape py r t he hs
  unfold escapePoint
  split
  next h => exact hsimple 0x22 0x22 h (by decide) (by decide) rfl
  split
  next h => exact hsimple 0x5C 0x5C h (by decide) (by decide) rfl
  split
  next h => exact hsimple 0x6E 0x0A h (by decide) (by decide) rfl
  split
  next h => exact hsimple 0x72 0x0D h (by decide) (by decide) rfl
  split
  next h => exact hsimple 0x74 0x09 h (by decide) (by decide) rfl
  split
  next h => exact hsimple 0x66 0x0C h (by decide) (by decide) rfl
  split
  next h => exact hsimple 0x62 0x08 h (by decide) (by decide) rfl
  split
  next hq hb _ _ _ _ _ hprint =>
    -- printable ASCII stands for itself
    rw [List.singleton_append, lex_cons, lexStep_scanned py r hb, hsmall (by omega)]
    unfold plainStep
    rw [if_neg hq, if_neg hb, if_neg (by omega)]
    rfl
  split
  next h =>
    -- the basic plane, lone surrogates included
    rw [lex_unitEscape py r t h, unit_of_val h]
  next h =>
    -- beyond it: a surrogate pair
    rw [List.append_assoc, hnotlow (by omega)]
    exact lex_astral py r t (by omega)

/-- A string body up to its closing quote. -/
theorem lex_strBody (py : Python) :
    ∀ (s r t : Text), lex py (scanned r) (s.flatMap escapePoint ++ (0x22 :: t))
      = .str (s.foldl pushPoint r).reverse :: lex py .idle t
  | [], r, t => by
      rw [List.flatMap_nil, List.nil_append, lex_cons, lexStep_scanned py r (by decide)]
      rfl
  | c :: s, r, t => by
      rw [List.flatMap_cons, List.append_assoc, lex_escapePoint py r _ c,
        lex_strBody py s (pushPoint r c) t]
      rfl

/-- **Scanning a string literal.** -/
theorem lex_strText (py : Python) (s t : Text) :
    lex py .idle (strText s ++ t) = .str (rejoin s) :: lex py .idle t := by
  have hsplit : strText s ++ t = 0x22 :: (s.flatMap escapePoint ++ (0x22 :: t)) := by
    unfold strText
    rw [List.cons_append, List.cons_append, List.append_assoc]
    rfl
  rw [hsplit, lex_cons]
  show lex py (scanned []) _ = _
  rw [lex_strBody py s [] t]
  rfl

/-! ## §5. Values. -/

/-- Separators scan to their token. -/
theorem lex_comma (py : Python) (t : Text) :
    lex py .idle (0x2C :: 0x20 :: t) = .comma :: lex py .idle t := rfl

theorem lex_colon (py : Python) (t : Text) :
    lex py .idle (0x3A :: 0x20 :: t) = .colon :: lex py .idle t := rfl

mutual
/-- **The scanner reads back what `dumps` prints.** -/
theorem lex_dumps (py : Python) : ∀ (v : Json) (rest : Text), FloatsOk py v →
    printable v = true → Delim rest →
    lex py .idle (dumps v ++ rest) = tokensOf v ++ lex py .idle rest
  | .null, _, _, _, _ => rfl
  | .bool true, _, _, _, _ => rfl
  | .bool false, _, _, _, _ => rfl
  | .int i, rest, _, hp, hr => by
      have hshort : (natText i.natAbs).length ≤ maxStrDigits := by
        simpa only [printable, decide_eq_true_eq] using hp
      exact lex_int py i rest hr hshort
  | .float lit, rest, hc, _, hr => lex_float py rest hr hc
  | .str s, rest, _, _, _ => lex_strText py s rest
  | .arr xs, rest, hc, hp, _ => by
      have ih := lex_dumpsElems py xs (0x5D :: rest) hc hp (delim_rbrack rest)
      rw [dumps, List.cons_append, List.append_assoc, lex_cons]
      show .lbrack :: lex py .idle (dumpsElems xs ++ (0x5D :: rest)) = _
      rw [ih, tokensOf, List.cons_append, List.append_assoc]
      rfl
  | .obj fs, rest, hc, hp, _ => by
      have ih := lex_dumpsFields py fs (0x7D :: rest) hc hp (delim_rbrace rest)
      rw [dumps, List.cons_append, List.append_assoc, lex_cons]
      show .lbrace :: lex py .idle (dumpsFields fs ++ (0x7D :: rest)) = _
      rw [ih, tokensOf, List.cons_append, List.append_assoc]
      rfl
theorem lex_dumpsElems (py : Python) : ∀ (xs : List Json) (rest : Text),
    FloatsOkElems py xs → printableElems xs = true → Delim rest →
    lex py .idle (dumpsElems xs ++ rest) = elemTokens xs ++ lex py .idle rest
  | [], _, _, _, _ => rfl
  | [x], rest, hc, hp, hr => by
      have hpx : printable x = true := by
        simp only [printableElems, Bool.and_eq_true] at hp
        exact hp.1
      exact lex_dumps py x rest hc.1 hpx hr
  | x :: y :: xs, rest, hc, hp, hr => by
      obtain ⟨hpx, hpxs⟩ : printable x = true ∧ printableElems (y :: xs) = true := by
        rw [printableElems, Bool.and_eq_true] at hp
        exact hp
      have ih := lex_dumpsElems py (y :: xs) rest hc.2 hpxs hr
      rw [dumpsElems, List.append_assoc, List.cons_append, List.cons_append,
        lex_dumps py x _ hc.1 hpx (delim_comma _), lex_comma, ih, elemTokens,
        List.append_assoc]
      rfl
theorem lex_dumpsFields (py : Python) : ∀ (fs : List (Text × Json)) (rest : Text),
    FloatsOkFields py fs → printableFields fs = true → Delim rest →
    lex py .idle (dumpsFields fs ++ rest) = fieldTokens fs ++ lex py .idle rest
  | [], _, _, _, _ => rfl
  | [(k, v)], rest, hc, hp, hr => by
      have hpv : printable v = true := by
        simp only [printableFields, Bool.and_eq_true] at hp
        exact hp.1
      rw [dumpsFields, List.append_assoc, List.cons_append, List.cons_append,
        lex_strText py k _, lex_colon, lex_dumps py v rest hc.1 hpv hr]
      rfl
  | (k, v) :: f :: fs, rest, hc, hp, hr => by
      obtain ⟨hpv, hpfs⟩ : printable v = true ∧ printableFields (f :: fs) = true := by
        rw [printableFields, Bool.and_eq_true] at hp
        exact hp
      have ih := lex_dumpsFields py (f :: fs) rest hc.2 hpfs hr
      rw [dumpsFields, List.append_assoc, List.cons_append, List.cons_append,
        List.append_assoc, List.cons_append, List.cons_append, lex_strText py k _,
        lex_colon, lex_dumps py v _ hc.1 hpv (delim_comma _), lex_comma, ih, fieldTokens,
        List.cons_append, List.cons_append, List.append_assoc]
      rfl
end

end HotelAgent.Lib
