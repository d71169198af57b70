/-
  HotelAgent.Lib.Json.RoundTrip — `loads` reads back what `dumps` prints.

  The scanner's half is `lex_dumps`; here is the stack machine's half.  A
  value's tokens, read where a value may begin, deliver that value, reread,
  into the innermost open container and leave the stack as it was
  (`parse_tokensOf`).  The nesting must stay within the interpreter's recursion
  limit, or the outcome is `RecursionError`.

  Main results:

      loads_dumps   loads (dumps v) = reread v
      encode_dumps  the printed text is ASCII; its bytes decode to it
-/
import HotelAgent.Lib.Json.Scan

namespace HotelAgent.Lib

/-! ## §1. Reading back. -/

mutual
/-- A value, printed and read back: strings are rejoined, and of the members of
an object that then share a key the last one stays. -/
def reread : Json → Json
  | .str s => .str (rejoin s)
  | .arr xs => .arr (rereadElems xs)
  | .obj fs => .obj (rereadFields [] fs)
  | v => v
def rereadElems : List Json → List Json
  | [] => []
  | x :: xs => reread x :: rereadElems xs
def rereadFields : List (Text × Json) → List (Text × Json) → List (Text × Json)
  | acc, [] => acc
  | acc, (k, v) :: fs => rereadFields (dictSet acc (rejoin k) (reread v)) fs
end

/-! ## §2. The stack machine. -/

theorem parse_cons (py : Python) (m : Machine) (t : Token) (ts : List Token) :
    parse py m (t :: ts) = (machineStep py m t).bind (parse py · ts) := by
  obtain ⟨md, st⟩ := m
  cases md <;> rfl

/-- The first element of an array is read as any other value. -/
theorem machineStep_firstElem (py : Python) (st : List Frame) {t : Token} (ht : t ≠ .rbrack) :
    machineStep py (.firstElem, st) t = machineStep py (.value, st) t := by
  cases t with
  | rbrack => exact absurd rfl ht
  | _ => rcases st with _ | ⟨_ | _, _⟩ <;> rfl

/-- A value does not begin with a closing bracket. -/
theorem tokensOf_head : ∀ v : Json, ∃ t ts, tokensOf v = t :: ts ∧ t ≠ .rbrack
  | .null => ⟨_, _, rfl, Token.noConfusion⟩
  | .bool _ => ⟨_, _, rfl, Token.noConfusion⟩
  | .int _ => ⟨_, _, rfl, Token.noConfusion⟩
  | .float _ => ⟨_, _, rfl, Token.noConfusion⟩
  | .str _ => ⟨_, _, rfl, Token.noConfusion⟩
  | .arr _ => ⟨_, _, rfl, Token.noConfusion⟩
  | .obj _ => ⟨_, _, rfl, Token.noConfusion⟩

theorem parse_firstElem (py : Python) (st : List Frame) (v : Json) (ts : List Token) :
    parse py (.firstElem, st) (tokensOf v ++ ts) = parse py (.value, st) (tokensOf v ++ ts) := by
  obtain ⟨t, us, hv, ht⟩ := tokensOf_head v
  rw [hv, List.cons_append, parse_cons, parse_cons, machineStep_firstElem py st ht]

/-- A key and its colon. -/
theorem parse_key (py : Python) (acc : List (Text × Json)) (k : Text) (st : List Frame)
    (ts : List Token) :
    parse py (.nextKey, .obj acc none :: st) (.str k :: .colon :: ts)
      = parse py (.value, .obj acc (some k) :: st) ts := by
  rw [parse_cons]
  show parse py (.colon k, .obj acc none :: st) (.colon :: ts) = _
  rw [parse_cons]
  rfl

mutual
/-- **A value's tokens deliver the value.** -/
theorem parse_tokensOf (py : Python) : ∀ (v : Json) (st : List Frame) (ts : List Token),
    st.length + depth v ≤ py.recursionLimit →
    parse py (.value, st) (tokensOf v ++ ts) = (deliver (reread v) st).bind (parse py · ts)
  | .null, _, _, _ => rfl
  | .bool _, _, _, _ => rfl
  | .int _, _, _, _ => rfl
  | .float _, _, _, _ => rfl
  | .str _, _, _, _ => rfl
  | .arr xs, st, ts, hd => by
      rw [depth] at hd
      have hroom : ¬ py.recursionLimit ≤ st.length := by omega
      have hopen : machineStep py (.value, st) .lbrack = .ok (.firstElem, .arr [] :: st) := by
        show (if py.recursionLimit ≤ st.length then _ else _) = _
        rw [if_neg hroom]
      rw [tokensOf, List.cons_append, parse_cons, hopen]
      show parse py (.firstElem, .arr [] :: st) ((elemTokens xs ++ [.rbrack]) ++ ts) = _
      cases xs with
      | nil =>
          show parse py (.firstElem, .arr [] :: st) (.rbrack :: ts) = _
          rw [parse_cons]
          rfl
      | cons x xs =>
          have ih := parse_elemTokens py (x :: xs) [] st ts (List.cons_ne_nil x xs) (by
            rw [List.length_cons]
            omega)
          rw [List.append_assoc]
          -- the first element is read as any other
          cases xs with
          | nil =>
              rw [elemTokens, parse_firstElem]
              exact ih
          | cons y xs =>
              rw [elemTokens, List.append_assoc, parse_firstElem, ← List.append_assoc]
              exact ih
  | .obj fs, st, ts, hd => by
      rw [depth] at hd
      have hroom : ¬ py.recursionLimit ≤ st.length := by omega
      have hopen : machineStep py (.value, st) .lbrace
          = .ok (.firstKey, .obj [] none :: st) := by
        show (if py.recursionLimit ≤ st.length then _ else _) = _
        rw [if_neg hroom]
      rw [tokensOf, List.cons_append, parse_cons, hopen]
      show parse py (.firstKey, .obj [] none :: st) ((fieldTokens fs ++ [.rbrace]) ++ ts) = _
      cases fs with
      | nil =>
          show parse py (.firstKey, .obj [] none :: st) (.rbrace :: ts) = _
          rw [parse_cons]
          rfl
      | cons f fs =>
          have ih := parse_fieldTokens py (f :: fs) [] st ts (List.cons_ne_nil f fs) (by
            rw [List.length_cons]
            omega)
          rw [List.append_assoc]
          -- the first key is read as any other
          have hfirst : parse py (.firstKey, .obj [] none :: st)
              (fieldTokens (f :: fs) ++ ([.rbrace] ++ ts))
              = parse py (.nextKey, .obj [] none :: st)
                (fieldTokens (f :: fs) ++ ([.rbrace] ++ ts)) := by
            obtain ⟨k, v⟩ := f
            cases fs <;> rfl
          rw [hfirst]
          exact ih
theorem parse_elemTokens (py : Python) : ∀ (xs acc : List Json) (st : List Frame)
    (ts : List Token), xs ≠ [] →
    (Frame.arr acc :: st).length + depthElems xs ≤ py.recursionLimit →
    parse py (.value, .arr acc :: st) (elemTokens xs ++ (.rbrack :: ts))
      = (deliver (.arr (acc.reverse ++ rereadElems xs)) st).bind (parse py · ts)
  | [], _, _, _, hne, _ => absurd rfl hne
  | [x], acc, st, ts, _, hd => by
      rw [depthElems, depthElems] at hd
      rw [elemTokens, parse_tokensOf py x _ _ (by omega)]
      show parse py (.after, .arr (reread x :: acc) :: st) (.rbrack :: ts) = _
      rw [parse_cons]
      show (deliver (.arr (reread x :: acc).reverse) st).bind _ = _
      rw [List.reverse_cons]
      rfl
  | x :: y :: xs, acc, st, ts, _, hd => by
      rw [depthElems] at hd
      have ih := parse_elemTokens py (y :: xs) (reread x :: acc) st ts (List.cons_ne_nil y xs)
        (by
          rw [List.length_cons] at hd ⊢
          omega)
      rw [elemTokens, List.append_assoc, parse_tokensOf py x _ _ (by omega)]
      show parse py (.after, .arr (reread x :: acc) :: st)
        (.comma :: (elemTokens (y :: xs) ++ (.rbrack :: ts))) = _
      rw [parse_cons]
      show parse py (.value, .arr (reread x :: acc) :: st) _ = _
      rw [ih, List.reverse_cons, List.append_assoc]
      rfl
theorem parse_fieldTokens (py : Python) : ∀ (fs acc : List (Text × Json)) (st : List Frame)
    (ts : List Token), fs ≠ [] →
    (Frame.obj acc none :: st).length + depthFields fs ≤ py.recursionLimit →
    parse py (.nextKey, .obj acc none :: st) (fieldTokens fs ++ (.rbrace :: ts))
      = (deliver (.obj (rereadFields acc fs)) st).bind (parse py · ts)
  | [], _, _, _, hne, _ => absurd rfl hne
  | [(k, v)], acc, st, ts, _, hd => by
      rw [depthFields, depthFields] at hd
      rw [fieldTokens, List.cons_append, List.cons_append, parse_key,
        parse_tokensOf py v _ _ (by
          rw [List.length_cons] at hd ⊢
          omega)]
      show parse py (.after, .obj (dictSet acc (rejoin k) (reread v)) none :: st)
        (.rbrace :: ts) = _
      rw [parse_cons]
      rfl
  | (k, v) :: g :: fs, acc, st, ts, _, hd => by
      rw [depthFields] at hd
      have ih := parse_fieldTokens py (g :: fs) (dictSet acc (rejoin k) (reread v)) st ts
        (List.cons_ne_nil g fs) (by
          rw [List.length_cons] at hd ⊢
          omega)
      rw [fieldTokens, List.cons_append, List.cons_append, List.append_assoc, parse_key,
        parse_tokensOf py v _ _ (by
          rw [List.length_cons] at hd ⊢
          omega)]
      show parse py (.after, .obj (dictSet acc (rejoin k) (reread v)) none :: st)
        (.comma :: (fieldTokens (g :: fs) ++ (.rbrace :: ts))) = _
      rw [parse_cons]
      show parse py (.nextKey, .obj (dictSet acc (rejoin k) (reread v)) none :: st) _ = _
      rw [ih]
      rfl
end

/-- **JSON round trip.** -/
theorem loads_dumps (py : Python) {v : Json} (hf : FloatsOk py v) (hp : printable v = true)
    (hd : depth v ≤ py.recursionLimit) : loads py (dumps v) = .ok (reread v) := by
  have hlex : lex py .idle (dumps v) = tokensOf v ++ [] := by
    have h := lex_dumps py v [] hf hp delim_nil
    rwa [List.append_nil] at h
  show parse py (.value, []) (lex py .idle (dumps v)) = _
  rw [hlex, parse_tokensOf py v [] [] (by simpa using hd)]
  rfl

/-! ## §3. The printed text is ASCII. -/

/-- ASCII text. -/
def Ascii (t : Text) : Prop := ∀ c ∈ t, c.val < 0x80

theorem ascii_append {s t : Text} (hs : Ascii s) (ht : Ascii t) : Ascii (s ++ t) := by
  intro c hc
  rcases List.mem_append.mp hc with h | h
  · exact hs c h
  · exact ht c h

theorem ascii_cons {c : CodePoint} {t : Text} (hc : c.val < 0x80) (ht : Ascii t) :
    Ascii (c :: t) := by
  intro d hd
  rcases List.mem_cons.mp hd with rfl | h
  · exact hc
  · exact ht d h

/-- The check that evaluates. -/
theorem ascii_of_all {t : Text} (h : t.all (fun c => c.val < 0x80) = true) : Ascii t := by
  intro c hc
  simpa using List.all_eq_true.mp h c hc

theorem ascii_nil : Ascii [] := fun _ h => absurd h (by simp)

theorem numStep_ascii {p q : NumPart} {c : CodePoint} (h : numStep p c = some q) :
    c.val < 0x80 := by
  by_contra hge
  have hdigit : isDigit c = false := by
    simp only [isDigit, Bool.and_eq_false_iff, decide_eq_false_iff_not]
    omega
  have hexp : isExp c = false := by
    simp only [isExp, Bool.or_eq_false_iff, decide_eq_false_iff_not]
    omega
  -- nor is it one of the other characters of a numeral
  have h30 : ¬ c.val = 0x30 := by omega
  have h2e : ¬ c.val = 0x2E := by omega
  have h2b : ¬ c.val = 0x2B := by omega
  have h2d : ¬ c.val = 0x2D := by omega
  cases p <;> simp [numStep, hdigit, hexp, h30, h2e, h2b, h2d] at h

theorem numRun_ascii : ∀ (t : Text) {p q : NumPart}, numRun p t = some q → Ascii t
  | [], _, _, _ => ascii_nil
  | c :: t, p, q, h => by
      obtain ⟨p', hp', hrun⟩ := Option.bind_eq_some_iff.mp h
      exact ascii_cons (numStep_ascii hp') (numRun_ascii t hrun)

theorem isFloatNumeral_ascii {t : Text} (h : IsFloatNumeral t) : Ascii t := by
  cases t with
  | nil => exact ascii_nil
  | cons c t =>
      obtain ⟨p, hstart, hrun⟩ := h
      have hc : c.val < 0x80 := by
        unfold numStart isDigit at hstart
        by_contra hge
        rw [if_neg (by omega), if_neg (by omega), if_neg (by simp; omega)] at hstart
        exact absurd hstart (by simp)
      rcases hrun with hrun | hrun
      · exact ascii_cons hc (numRun_ascii t hrun)
      · exact ascii_cons hc (numRun_ascii t hrun)

theorem isFloatConst_ascii {t : Text} (h : IsFloatConst t) : Ascii t := by
  rcases h with rfl | rfl | rfl
  · exact ascii_of_all (by decide)
  · exact ascii_of_all (by decide)
  · exact ascii_of_all (by decide)

theorem hexPoint_ascii (d : Nat) : (hexPoint d).val < 0x80 := by
  unfold hexPoint
  split
  · show 0x30 + d < 0x80
    omega
  · show 0x61 + (d - 10) % 6 < 0x80
    omega

theorem unitEscape_ascii (v : Nat) : Ascii (unitEscape v) :=
  ascii_cons (by decide) (ascii_cons (by decide) (ascii_cons (hexPoint_ascii _)
    (ascii_cons (hexPoint_ascii _) (ascii_cons (hexPoint_ascii _)
      (ascii_cons (hexPoint_ascii _) ascii_nil)))))

theorem escapePoint_ascii (c : CodePoint) : Ascii (escapePoint c) := by
  have hpair : ∀ d : CodePoint, d.val < 0x80 → Ascii [0x5C, d] := fun d hd =>
    ascii_cons (by decide) (ascii_cons hd ascii_nil)
  unfold escapePoint
  split_ifs
  · exact hpair _ (by decide)
  · exact hpair _ (by decide)
  · exact hpair _ (by decide)
  · exact hpair _ (by decide)
  · exact hpair _ (by decide)
  · exact hpair _ (by decide)
  · exact hpair _ (by decide)
  · exact ascii_cons (by omega) ascii_nil
  · exact unitEscape_ascii _
  · exact ascii_append (unitEscape_ascii _) (unitEscape_ascii _)

theorem strText_ascii (s : Text) : Ascii (strText s) := by
  have hbody : Ascii (s.flatMap escapePoint) := by
    intro c hc
    obtain ⟨d, _, hd⟩ := List.mem_flatMap.mp hc
    exact escapePoint_ascii d c hd
  exact ascii_cons (by decide) (ascii_append hbody (ascii_cons (by decide) ascii_nil))

theorem natText_ascii (n : Nat) : Ascii (natText n) := by
  unfold natText
  split
  · exact ascii_cons (by decide) ascii_nil
  · intro c hc
    obtain ⟨d, _, rfl⟩ := List.mem_map.mp (List.mem_reverse.mp hc)
    show 0x30 + d % 10 < 0x80
    omega

theorem intText_ascii (i : Int) : Ascii (intText i) := by
  unfold intText
  split
  · exact ascii_cons (by decide) (natText_ascii _)
  · exact natText_ascii _

mutual
/-- **The printed text is ASCII.** -/
theorem dumps_ascii (py : Python) : ∀ (v : Json), FloatsOk py v → Ascii (dumps v)
  | .null, _ => ascii_of_all (by decide)
  | .bool true, _ => ascii_of_all (by decide)
  | .bool false, _ => ascii_of_all (by decide)
  | .int i, _ => intText_ascii i
  | .float _, hf => hf.elim isFloatConst_ascii fun h => isFloatNumeral_ascii h.1
  | .str s, _ => strText_ascii s
  | .arr xs, hf =>
      ascii_cons (by decide)
        (ascii_append (dumpsElems_ascii py xs hf) (ascii_cons (by decide) ascii_nil))
  | .obj fs, hf =>
      ascii_cons (by decide)
        (ascii_append (dumpsFields_ascii py fs hf) (ascii_cons (by decide) ascii_nil))
theorem dumpsElems_ascii (py : Python) :
    ∀ (xs : List Json), FloatsOkElems py xs → Ascii (dumpsElems xs)
  | [], _ => ascii_nil
  | [x], hf => dumps_ascii py x hf.1
  | x :: y :: xs, hf =>
      ascii_append (dumps_ascii py x hf.1) (ascii_cons (by decide) (ascii_cons (by decide)
        (dumpsElems_ascii py (y :: xs) hf.2)))
theorem dumpsFields_ascii (py : Python) :
    ∀ (fs : List (Text × Json)), FloatsOkFields py fs → Ascii (dumpsFields fs)
  | [], _ => ascii_nil
  | [(k, v)], hf =>
      ascii_append (strText_ascii k) (ascii_cons (by decide) (ascii_cons (by decide)
        (dumps_ascii py v hf.1)))
  | (k, v) :: f :: fs, hf =>
      ascii_append (strText_ascii k) (ascii_cons (by decide) (ascii_cons (by decide)
        (ascii_append (dumps_ascii py v hf.1) (ascii_cons (by decide)
          (ascii_cons (by decide) (dumpsFields_ascii py (f :: fs) hf.2))))))
end

/-- **The bytes of a printed value decode to its text.** -/
theorem encode_dumps (py : Python) {v : Json} (hf : FloatsOk py v) :
    ∃ bs, encodeUtf8 (dumps v) = some bs ∧ decodeUtf8 bs = some (dumps v) := by
  obtain ⟨bs, hbs⟩ := encodeUtf8_ascii (dumps v) (dumps_ascii py v hf)
  exact ⟨bs, hbs, decodeUtf8_encodeUtf8 _ hbs⟩

/-! ## §4. Objects with plain keys. -/

/-- Text without the second half of a surrogate pair is read back as it was. -/
theorem rejoin_of_not_low {t : Text} (h : ∀ c ∈ t, isLow c = false) : rejoin t = t := by
  have hfold : ∀ (s acc : Text), (∀ c ∈ s, isLow c = false) →
      s.foldl pushPoint acc = s.reverse ++ acc := by
    intro s
    induction s with
    | nil => intro acc _; rfl
    | cons c s ih =>
        intro acc hs
        obtain ⟨hc, hs⟩ := List.forall_mem_cons.mp hs
        rw [List.foldl_cons, pushPoint_of_not_low acc hc, ih _ hs, List.reverse_cons,
          List.append_assoc]
        rfl
  unfold rejoin
  rw [hfold t [] h, List.append_nil, List.reverse_reverse]

/-- ASCII text is read back as it was. -/
theorem rejoin_ascii {t : Text} (h : Ascii t) : rejoin t = t := by
  refine rejoin_of_not_low fun c hc => isLow_eq_false (.inl ?_)
  have hascii : c.val < 0x80 := h c hc
  omega

theorem dictSet_new : ∀ (acc : List (Text × Json)) {k : Text} (v : Json),
    k ∉ acc.map Prod.fst → dictSet acc k v = acc ++ [(k, v)]
  | [], _, _, _ => rfl
  | (k', v') :: acc, k, v, h => by
      rw [List.map_cons, List.mem_cons, not_or] at h
      unfold dictSet
      rw [if_neg (Ne.symm h.1), dictSet_new acc v h.2]
      rfl

/-- What is set is found. -/
theorem dictGet?_dictSet : ∀ (fs : List (Text × Json)) (k : Text) (v : Json),
    dictGet? (dictSet fs k v) k = some v
  | [], k, v => by simp [dictSet, dictGet?]
  | (k', v') :: fs, k, v => by
      have hrest := dictGet?_dictSet fs k v
      unfold dictSet
      unfold dictGet? at hrest ⊢
      by_cases h : k' = k
      · rw [if_pos h]
        simp [h]
      · rw [if_neg h, List.find?_cons_of_neg (by simpa using h)]
        exact hrest

/-- What is found under another key is found as before. -/
theorem dictGet?_dictSet_of_ne : ∀ (fs : List (Text × Json)) {k k' : Text} (v : Json), k' ≠ k →
    dictGet? (dictSet fs k v) k' = dictGet? fs k'
  | [], k, k', v, hne => by simp [dictSet, dictGet?, Ne.symm hne]
  | (k₀, v₀) :: fs, k, k', v, hne => by
      have hrest := dictGet?_dictSet_of_ne fs v hne
      unfold dictSet
      unfold dictGet? at hrest ⊢
      by_cases h : k₀ = k
      · have hne₀ : k₀ ≠ k' := fun h' => hne (h'.symm.trans h)
        rw [if_pos h, List.find?_cons_of_neg (by simpa using hne₀),
          List.find?_cons_of_neg (by simpa using hne₀)]
      · rw [if_neg h]
        by_cases h' : k₀ = k'
        · rw [List.find?_cons_of_pos (by simpa using h'),
            List.find?_cons_of_pos (by simpa using h')]
        · rw [List.find?_cons_of_neg (by simpa using h'),
            List.find?_cons_of_neg (by simpa using h')]
          exact hrest

/-- The other entries stay as they are, in their order. -/
theorem filter_dictSet : ∀ (fs : List (Text × Json)) (k : Text) (v : Json),
    (dictSet fs k v).filter (fun f => f.1 ≠ k) = fs.filter fun f => f.1 ≠ k
  | [], k, v => by simp [dictSet]
  | (k', v') :: fs, k, v => by
      unfold dictSet
      by_cases h : k' = k
      · rw [if_pos h]
        simp [h]
      · rw [if_neg h, List.filter_cons_of_pos (by simpa using h),
          List.filter_cons_of_pos (by simpa using h), filter_dictSet fs k v]

/-- **Distinct ASCII keys are read back as they were**, each with its value. -/
theorem rereadFields_distinct : ∀ (fs acc : List (Text × Json)),
    (∀ f ∈ fs, Ascii f.1) → ((acc ++ fs).map Prod.fst).Nodup →
    rereadFields acc fs = acc ++ fs.map fun f => (f.1, reread f.2)
  | [], acc, _, _ => (List.append_nil acc).symm
  | (k, v) :: fs, acc, hascii, hnodup => by
      obtain ⟨hk, hfs⟩ := List.forall_mem_cons.mp hascii
      have hnew : k ∉ acc.map Prod.fst := by
        intro hmem
        rw [List.map_append, List.nodup_append] at hnodup
        exact hnodup.2.2 k hmem k List.mem_cons_self rfl
      show rereadFields (dictSet acc (rejoin k) (reread v)) fs = _
      rw [rejoin_ascii hk, dictSet_new acc _ hnew,
        rereadFields_distinct fs _ hfs (by simpa using hnodup), List.append_assoc]
      rfl

end HotelAgent.Lib
