/-
  HotelAgent.Lib.Json.Syntax — Python's `json` module: values, `dumps`, `loads`.

  `loads` is a scanner (characters to tokens) followed by a stack machine
  (tokens to a value), both structurally recursive, so every byte sequence has
  an outcome.  The outcomes are the four of CPython's C scanner:

      a value           — the text is one JSON document
      JSONDecodeError   — it is not
      ValueError        — an integer has more digits than `int()` converts
      RecursionError    — arrays and objects nest deeper than the interpreter
                          allows

  The last two are NOT `JSONDecodeError`s, and a caller that catches only the
  latter sees them fly past.  The first error met from the left wins, as in
  the C scanner: a scanning error is a token (`bad`, `longInt`), so the stack
  machine meets it in its place.

  Floats are kept as the text `repr` prints for them; reading a numeral into
  that text is the interpreter's business (`Python.floatRepr`).
-/
import HotelAgent.Lib.Text
import Mathlib.Data.Nat.Digits.Defs

namespace HotelAgent.Lib

/-! ## §1. Values. -/

/-- The Python values `json.loads` can return; a `dict` keeps its insertion
order. -/
inductive Json where
  | null
  | bool (b : Bool)
  | int (i : Int)
  /-- A float, as `repr` prints it. -/
  | float (lit : Text)
  | str (s : Text)
  | arr (xs : List Json)
  | obj (fields : List (Text × Json))
  deriving Repr

mutual

/-- Whether two values are the same, members in the same order. -/
def Json.decEq : (v w : Json) → Decidable (v = w)
  | .null, .null => .isTrue rfl
  | .bool b, .bool c => decidable_of_iff (b = c) (by simp)
  | .int i, .int j => decidable_of_iff (i = j) (by simp)
  | .float s, .float t => decidable_of_iff (s = t) (by simp)
  | .str s, .str t => decidable_of_iff (s = t) (by simp)
  | .arr xs, .arr ys =>
    have := Json.decEqList xs ys
    decidable_of_iff (xs = ys) (by simp)
  | .obj fs, .obj gs =>
    have := Json.decEqFields fs gs
    decidable_of_iff (fs = gs) (by simp)
  | .null, .bool _ | .null, .int _ | .null, .float _ | .null, .str _ | .null, .arr _
  | .null, .obj _ | .bool _, .null | .bool _, .int _ | .bool _, .float _ | .bool _, .str _
  | .bool _, .arr _ | .bool _, .obj _ | .int _, .null | .int _, .bool _ | .int _, .float _
  | .int _, .str _ | .int _, .arr _ | .int _, .obj _ | .float _, .null | .float _, .bool _
  | .float _, .int _ | .float _, .str _ | .float _, .arr _ | .float _, .obj _ | .str _, .null
  | .str _, .bool _ | .str _, .int _ | .str _, .float _ | .str _, .arr _ | .str _, .obj _
  | .arr _, .null | .arr _, .bool _ | .arr _, .int _ | .arr _, .float _ | .arr _, .str _
  | .arr _, .obj _ | .obj _, .null | .obj _, .bool _ | .obj _, .int _ | .obj _, .float _
  | .obj _, .str _ | .obj _, .arr _ => .isFalse (by simp)

/-- The same for the elements of arrays. -/
def Json.decEqList : (xs ys : List Json) → Decidable (xs = ys)
  | [], [] => .isTrue rfl
  | [], _ :: _ => .isFalse (by simp)
  | _ :: _, [] => .isFalse (by simp)
  | x :: xs, y :: ys =>
    have := Json.decEq x y
    have := Json.decEqList xs ys
    decidable_of_iff (x = y ∧ xs = ys) (by simp)

/-- The same for the members of objects. -/
def Json.decEqFields : (fs gs : List (Text × Json)) → Decidable (fs = gs)
  | [], [] => .isTrue rfl
  | [], _ :: _ => .isFalse (by simp)
  | _ :: _, [] => .isFalse (by simp)
  | (k, v) :: fs, (l, w) :: gs =>
    have := Json.decEq v w
    have := Json.decEqFields fs gs
    decidable_of_iff ((k = l ∧ v = w) ∧ fs = gs) (by simp)

end

instance : DecidableEq Json := Json.decEq

/-- `d.get(key)`. -/
def dictGet? (fields : List (Text × Json)) (k : Text) : Option Json :=
  (fields.find? (fun f => f.1 = k)).map (·.2)

/-- `d.get(key, default)`. -/
def dictGet (fields : List (Text × Json)) (k : Text) (default : Json) : Json :=
  (dictGet? fields k).getD default

/-- `d[key] = v`: an existing key keeps its place. -/
def dictSet : List (Text × Json) → Text → Json → List (Text × Json)
  | [], k, v => [(k, v)]
  | (k', v') :: fs, k, v => if k' = k then (k', v) :: fs else (k', v') :: dictSet fs k v

/-! ## §2. Numerals. -/

/-- Where the scanner stands inside a numeral. -/
inductive NumPart where
  /-- After the minus sign. -/
  | sign
  /-- After a leading zero, which no digit may follow. -/
  | zero
  /-- Inside the integer digits. -/
  | int
  /-- After the decimal point. -/
  | dot
  /-- Inside the fraction digits. -/
  | frac
  /-- After `e`; the flag says whether there is a fraction. -/
  | exp (fraction : Bool)
  /-- After the sign of the exponent. -/
  | expSign (fraction : Bool)
  /-- Inside the exponent digits. -/
  | expDigits
  deriving DecidableEq, Repr

/-- `0` to `9`. -/
def isDigit (c : CodePoint) : Bool := 0x30 ≤ c.val && c.val ≤ 0x39

/-- `e` or `E`. -/
def isExp (c : CodePoint) : Bool := c.val = 0x65 || c.val = 0x45

/-- The part a numeral starts in. -/
def numStart (c : CodePoint) : Option NumPart :=
  if c.val = 0x2D then some .sign
  else if c.val = 0x30 then some .zero
  else if isDigit c then some .int
  else none

/-- One more character of the numeral, or `none` where it ends. -/
def numStep : NumPart → CodePoint → Option NumPart
  | .sign, c => if c.val = 0x30 then some .zero else if isDigit c then some .int else none
  | .zero, c => if c.val = 0x2E then some .dot else if isExp c then some (.exp false) else none
  | .int, c =>
    if isDigit c then some .int
    else if c.val = 0x2E then some .dot
    else if isExp c then some (.exp false)
    else none
  | .dot, c => if isDigit c then some .frac else none
  | .frac, c => if isDigit c then some .frac else if isExp c then some (.exp true) else none
  | .exp f, c =>
    if isDigit c then some .expDigits
    else if c.val = 0x2B || c.val = 0x2D then some (.expSign f)
    else none
  | .expSign _, c => if isDigit c then some .expDigits else none
  | .expDigits, c => if isDigit c then some .expDigits else none

/-- The part a numeral ends in when it takes the whole text. -/
def numRun : NumPart → Text → Option NumPart
  | p, [] => some p
  | p, c :: t => (numStep p c).bind (numRun · t)

/-- A complete numeral with a fraction or an exponent. -/
def IsFloatNumeral : Text → Prop
  | [] => False
  | c :: t => ∃ p, numStart c = some p ∧
      (numRun p t = some .frac ∨ numRun p t = some .expDigits)

/-- The three constants Python reads and prints beyond the JSON grammar. -/
def IsFloatConst (t : Text) : Prop :=
  t = txt "NaN" ∨ t = txt "Infinity" ∨ t = txt "-Infinity"

/-- What `json` takes from the interpreter it runs on. -/
structure Python where
  /-- How deep arrays and objects may nest for `loads`. -/
  recursionLimit : Nat
  /-- How deep they may nest for `asdict` and `dumps`, which take more frames a
  level. -/
  dumpLimit : Nat
  dumpLimit_le : dumpLimit ≤ recursionLimit
  /-- `repr(float(numeral))`. -/
  floatRepr : Text → Text
  /-- `repr` prints a float as a numeral that reads back to the same float, or
  as one of the constants (`1e999` is `Infinity`). -/
  floatRepr_canonical : ∀ t, IsFloatNumeral t →
    IsFloatConst (floatRepr t)
      ∨ (IsFloatNumeral (floatRepr t) ∧ floatRepr (floatRepr t) = floatRepr t)
  /-- `str(value)` of a value that is not a `str`. -/
  strOf : Json → Text

/-- An interpreter with CPython's usual limits, whose floats print as they are read. -/
def plainPython : Python where
  recursionLimit := 1000
  dumpLimit := 300
  dumpLimit_le := by decide
  floatRepr := id
  floatRepr_canonical := fun _ h => .inr ⟨h, rfl⟩
  strOf := fun _ => []

/-- `sys.int_info.default_max_str_digits`: the longest decimal text `int()`
reads and `repr` prints. -/
def maxStrDigits : Nat := 4300

/-! ## §3. The scanner. -/

inductive Token where
  | lbrace
  | rbrace
  | lbrack
  | rbrack
  | colon
  | comma
  | str (s : Text)
  /-- A number, `true`, `false`, `null` or a float constant. -/
  | scalar (v : Json)
  /-- An integer longer than `maxStrDigits`. -/
  | longInt
  /-- Characters that start no token. -/
  | bad
  deriving Repr

/-- Where the scanner stands inside a string. -/
inductive StrMode where
  | plain
  /-- After a backslash. -/
  | esc
  /-- After `\u` and `n` hex digits of value `v`. -/
  | hex (n v : Nat)
  /-- After the escape of the high surrogate `h`. -/
  | high (h : CodePoint)
  /-- After that and a backslash. -/
  | highEsc (h : CodePoint)
  /-- After that, `\u` and `n` hex digits of value `v`. -/
  | lowHex (h : CodePoint) (n v : Nat)
  deriving Repr

inductive Lex where
  | idle
  /-- Inside a string; the text so far is reversed. -/
  | str (acc : Text) (m : StrMode)
  /-- Inside a numeral; the text so far is reversed. -/
  | num (p : NumPart) (acc : Text)
  /-- Inside a word whose remaining letters are `rest`. -/
  | word (rest : Text) (v : Json)
  /-- After a `bad` token. -/
  | dead
  deriving Repr

/-- The value of a run of decimal digits. -/
def digitsVal (ds : Text) : Nat := ds.foldl (fun n c => 10 * n + (c.val - 0x30)) 0

/-- `int(text)`. -/
def intToken (t : Text) : Token :=
  match t with
  | [] => .bad
  | c :: ds =>
    if c.val = 0x2D then
      if ds.length ≤ maxStrDigits then .scalar (.int (-(digitsVal ds : Int))) else .longInt
    else
      if t.length ≤ maxStrDigits then .scalar (.int (digitsVal t)) else .longInt

/-- The tokens of a numeral that ends in part `p`; `acc` is its text reversed.
A numeral cut off after `.`, `e` or `e+` yields the number before that point. -/
def numTokens (py : Python) : NumPart → Text → List Token
  | .sign, _ => [.bad]
  | .zero, acc => [intToken acc.reverse]
  | .int, acc => [intToken acc.reverse]
  | .dot, acc => [intToken acc.tail.reverse, .bad]
  | .frac, acc => [.scalar (.float (py.floatRepr acc.reverse))]
  | .exp true, acc => [.scalar (.float (py.floatRepr acc.tail.reverse)), .bad]
  | .exp false, acc => [intToken acc.tail.reverse, .bad]
  | .expSign true, acc => [.scalar (.float (py.floatRepr acc.tail.tail.reverse)), .bad]
  | .expSign false, acc => [intToken acc.tail.tail.reverse, .bad]
  | .expDigits, acc => [.scalar (.float (py.floatRepr acc.reverse))]

/-- Whether a numeral may end in part `p`. -/
def NumPart.complete : NumPart → Bool
  | .zero | .int | .frac | .expDigits => true
  | _ => false

/-- The value of a hex digit. -/
def hexVal? (c : CodePoint) : Option Nat :=
  if isDigit c then some (c.val - 0x30)
  else if 0x61 ≤ c.val ∧ c.val ≤ 0x66 then some (c.val - 0x61 + 10)
  else if 0x41 ≤ c.val ∧ c.val ≤ 0x46 then some (c.val - 0x41 + 10)
  else none

/-- A UTF-16 code unit as a code point. -/
def unit (v : Nat) : CodePoint := ⟨v % 0x10000, by omega⟩

def isHigh (c : CodePoint) : Bool := 0xD800 ≤ c.val && c.val ≤ 0xDBFF

def isLow (c : CodePoint) : Bool := 0xDC00 ≤ c.val && c.val ≤ 0xDFFF

/-- The code point of a surrogate pair. -/
def joinSurrogates (h l : CodePoint) : CodePoint :=
  ⟨0x10000 + (h.val % 0x400) * 0x400 + l.val % 0x400, by omega⟩

/-- The character a one-letter escape stands for. -/
def simpleEscape? (c : CodePoint) : Option CodePoint :=
  if c.val = 0x22 ∨ c.val = 0x5C ∨ c.val = 0x2F then some c
  else if c.val = 0x62 then some 0x08
  else if c.val = 0x66 then some 0x0C
  else if c.val = 0x6E then some 0x0A
  else if c.val = 0x72 then some 0x0D
  else if c.val = 0x74 then some 0x09
  else none

/-- A complete `\uXXXX` escape: a high surrogate waits for its partner. -/
def afterUnit (acc : Text) (c : CodePoint) : Lex :=
  if isHigh c then .str acc (.high c) else .str (c :: acc) .plain

/-- A character of a string outside any escape. -/
def plainStep (acc : Text) (c : CodePoint) : List Token × Lex :=
  if c.val = 0x22 then ([.str acc.reverse], .idle)
  else if c.val = 0x5C then ([], .str acc .esc)
  else if c.val < 0x20 then ([.bad], .dead)
  else ([], .str (c :: acc) .plain)

/-- The character after a backslash. -/
def escStep (acc : Text) (c : CodePoint) : List Token × Lex :=
  if c.val = 0x75 then ([], .str acc (.hex 0 0))
  else match simpleEscape? c with
    | some d => ([], .str (d :: acc) .plain)
    | none => ([.bad], .dead)

/-- One character of a string. -/
def strStep (acc : Text) : StrMode → CodePoint → List Token × Lex
  | .plain, c => plainStep acc c
  | .esc, c => escStep acc c
  | .hex n v, c =>
    match hexVal? c with
    | none => ([.bad], .dead)
    | some d =>
      if n = 3 then ([], afterUnit acc (unit (16 * v + d)))
      else ([], .str acc (.hex (n + 1) (16 * v + d)))
  | .high h, c =>
    -- a pair has to be spelled by two escapes in a row
    if c.val = 0x5C then ([], .str acc (.highEsc h)) else plainStep (h :: acc) c
  | .highEsc h, c =>
    if c.val = 0x75 then ([], .str acc (.lowHex h 0 0)) else escStep (h :: acc) c
  | .lowHex h n v, c =>
    match hexVal? c with
    | none => ([.bad], .dead)
    | some d =>
      if n = 3 then
        let l := unit (16 * v + d)
        -- only a low surrogate joins the high one; any other unit follows it
        if isLow l then ([], .str (joinSurrogates h l :: acc) .plain)
        else ([], afterUnit (h :: acc) l)
      else ([], .str acc (.lowHex h (n + 1) (16 * v + d)))

/-- The whitespace of JSON. -/
def isWs (c : CodePoint) : Bool :=
  c.val = 0x20 || c.val = 0x09 || c.val = 0x0A || c.val = 0x0D

/-- The token of a single character. -/
def punctuation? (c : CodePoint) : Option Token :=
  if c.val = 0x7B then some .lbrace
  else if c.val = 0x7D then some .rbrace
  else if c.val = 0x5B then some .lbrack
  else if c.val = 0x5D then some .rbrack
  else if c.val = 0x3A then some .colon
  else if c.val = 0x2C then some .comma
  else none

/-- The word a letter starts: its remaining letters and its value. -/
def wordStart? (c : CodePoint) : Option (Text × Json) :=
  if c.val = 0x6E then some (txt "ull", .null)
  else if c.val = 0x74 then some (txt "rue", .bool true)
  else if c.val = 0x66 then some (txt "alse", .bool false)
  else if c.val = 0x4E then some (txt "aN", .float (txt "NaN"))
  else if c.val = 0x49 then some (txt "nfinity", .float (txt "Infinity"))
  else none

/-- A character between tokens. -/
def idleStep (c : CodePoint) : List Token × Lex :=
  if isWs c then ([], .idle)
  else if c.val = 0x22 then ([], .str [] .plain)
  else match punctuation? c with
    | some t => ([t], .idle)
    | none =>
      match numStart c with
      | some p => ([], .num p [c])
      | none =>
        match wordStart? c with
        | some (rest, v) => ([], .word rest v)
        | none => ([.bad], .dead)

/-- One character of a numeral.  A character that does not continue it ends
it; after the minus sign the constant `-Infinity` may follow instead. -/
def numCharStep (py : Python) (p : NumPart) (acc : Text) (c : CodePoint) : List Token × Lex :=
  match numStep p c with
  | some q => ([], .num q (c :: acc))
  | none =>
    if p = .sign ∧ c.val = 0x49 then
      ([], .word (txt "nfinity") (.float (txt "-Infinity")))
    else if p.complete then (numTokens py p acc ++ (idleStep c).1, (idleStep c).2)
    else (numTokens py p acc, .dead)

/-- One character: the tokens it completes and the state after it. -/
def lexStep (py : Python) : Lex → CodePoint → List Token × Lex
  | .idle, c => idleStep c
  | .str acc m, c => strStep acc m c
  | .num p acc, c => numCharStep py p acc c
  | .word [] _, _ => ([.bad], .dead)
  | .word (d :: rest) v, c =>
    if c = d then
      match rest with
      | [] => ([.scalar v], .idle)
      | _ => ([], .word rest v)
    else ([.bad], .dead)
  | .dead, _ => ([], .dead)

/-- The tokens that the end of the text completes. -/
def lexEnd (py : Python) : Lex → List Token
  | .idle => []
  | .str _ _ => [.bad]
  | .num p acc => numTokens py p acc
  | .word _ _ => [.bad]
  | .dead => []

/-- The tokens of a text, read from state `s`. -/
def lex (py : Python) : Lex → Text → List Token
  | s, [] => lexEnd py s
  | s, c :: t => (lexStep py s c).1 ++ lex py (lexStep py s c).2 t

/-! ## §4. The stack machine. -/

inductive LoadError where
  /-- `json.JSONDecodeError`. -/
  | decodeError
  /-- The `ValueError` of `int()`. -/
  | intTooLong
  /-- `RecursionError`. -/
  | recursion
  deriving DecidableEq, Repr

/-- A container under construction. -/
inductive Frame where
  /-- An array; its elements so far are reversed. -/
  | arr (acc : List Json)
  /-- An object; `key` is the key whose value is being read. -/
  | obj (fields : List (Text × Json)) (key : Option Text)
  deriving Repr

/-- What may come next. -/
inductive Mode where
  | value
  | firstElem
  | firstKey
  | nextKey
  | colon (key : Text)
  | after
  | done (v : Json)
  deriving Repr

abbrev Machine := Mode × List Frame

/-- A complete value goes into the innermost container. -/
def deliver (v : Json) : List Frame → Except LoadError Machine
  | [] => .ok (.done v, [])
  | .arr acc :: st => .ok (.after, .arr (v :: acc) :: st)
  | .obj fs (some k) :: st => .ok (.after, .obj (dictSet fs k v) none :: st)
  | .obj _ none :: _ => .error .decodeError

/-- The first token of a value. -/
def beginValue (py : Python) (st : List Frame) : Token → Except LoadError Machine
  | .scalar v => deliver v st
  | .str s => deliver (.str s) st
  | .longInt => .error .intTooLong
  | .lbrack =>
    if py.recursionLimit ≤ st.length then .error .recursion
    else .ok (.firstElem, .arr [] :: st)
  | .lbrace =>
    if py.recursionLimit ≤ st.length then .error .recursion
    else .ok (.firstKey, .obj [] none :: st)
  | _ => .error .decodeError

/-- One token. -/
def machineStep (py : Python) : Machine → Token → Except LoadError Machine
  | (.value, st), t => beginValue py st t
  -- a bracket may close at once, but not after a comma
  | (.firstElem, .arr _ :: st), .rbrack => deliver (.arr []) st
  | (.firstElem, st), t => beginValue py st t
  | (.firstKey, .obj _ _ :: st), .rbrace => deliver (.obj []) st
  | (.firstKey, st), .str k => .ok (.colon k, st)
  | (.nextKey, st), .str k => .ok (.colon k, st)
  | (.colon k, .obj fs _ :: st), .colon => .ok (.value, .obj fs (some k) :: st)
  | (.after, .arr acc :: st), .comma => .ok (.value, .arr acc :: st)
  | (.after, .arr acc :: st), .rbrack => deliver (.arr acc.reverse) st
  | (.after, .obj fs none :: st), .comma => .ok (.nextKey, .obj fs none :: st)
  | (.after, .obj fs none :: st), .rbrace => deliver (.obj fs) st
  | _, _ => .error .decodeError

/-- Every token, then the end of the text. -/
def parse (py : Python) : Machine → List Token → Except LoadError Json
  | (.done v, _), [] => .ok v
  | _, [] => .error .decodeError
  | m, t :: ts => (machineStep py m t).bind (parse py · ts)

/-- `json.loads(text)`. -/
def loads (py : Python) (t : Text) : Except LoadError Json :=
  parse py (.value, []) (lex py .idle t)

/-! ## §5. `dumps`. -/

/-- The digit `d < 10`. -/
def digitPoint (d : Nat) : CodePoint := ⟨0x30 + d % 10, by omega⟩

/-- A natural number in decimal. -/
def natText (n : Nat) : Text :=
  if n = 0 then [0x30] else ((Nat.digits 10 n).map digitPoint).reverse

/-- `repr(i)`. -/
def intText (i : Int) : Text := if i < 0 then 0x2D :: natText i.natAbs else natText i.natAbs

/-- The hex digit `d < 16`, in lower case. -/
def hexPoint (d : Nat) : CodePoint :=
  if h : d < 10 then ⟨0x30 + d, by omega⟩ else ⟨0x61 + (d - 10) % 6, by omega⟩

/-- `\uXXXX`. -/
def unitEscape (v : Nat) : Text :=
  [0x5C, 0x75, hexPoint (v / 0x1000 % 0x10), hexPoint (v / 0x100 % 0x10),
    hexPoint (v / 0x10 % 0x10), hexPoint (v % 0x10)]

/-- One character of a string as `ensure_ascii=True` prints it. -/
def escapePoint (c : CodePoint) : Text :=
  if c.val = 0x22 then [0x5C, 0x22]
  else if c.val = 0x5C then [0x5C, 0x5C]
  else if c.val = 0x0A then [0x5C, 0x6E]
  else if c.val = 0x0D then [0x5C, 0x72]
  else if c.val = 0x09 then [0x5C, 0x74]
  else if c.val = 0x0C then [0x5C, 0x66]
  else if c.val = 0x08 then [0x5C, 0x62]
  else if 0x20 ≤ c.val ∧ c.val ≤ 0x7E then [c]
  -- a lone surrogate prints as its own escape
  else if c.val < 0x10000 then unitEscape c.val
  else unitEscape (0xD800 + (c.val - 0x10000) / 0x400)
    ++ unitEscape (0xDC00 + (c.val - 0x10000) % 0x400)

/-- A string literal. -/
def strText (s : Text) : Text := 0x22 :: s.flatMap escapePoint ++ [0x22]

mutual
/-- `json.dumps(v)`. -/
def dumps : Json → Text
  | .null => txt "null"
  | .bool true => txt "true"
  | .bool false => txt "false"
  | .int i => intText i
  | .float lit => lit
  | .str s => strText s
  | .arr xs => 0x5B :: (dumpsElems xs ++ [0x5D])
  | .obj fs => 0x7B :: (dumpsFields fs ++ [0x7D])
/-- The elements, separated by `", "`. -/
def dumpsElems : List Json → Text
  | [] => []
  | [x] => dumps x
  | x :: y :: xs => dumps x ++ (0x2C :: 0x20 :: dumpsElems (y :: xs))
/-- The members `key: value`, separated by `", "`. -/
def dumpsFields : List (Text × Json) → Text
  | [] => []
  | [(k, v)] => strText k ++ (0x3A :: 0x20 :: dumps v)
  | (k, v) :: f :: fs =>
    strText k ++ (0x3A :: 0x20 :: (dumps v ++ (0x2C :: 0x20 :: dumpsFields (f :: fs))))
end

mutual
/-- Every integer inside is short enough to print. -/
def printable : Json → Bool
  | .int i => (natText i.natAbs).length ≤ maxStrDigits
  | .arr xs => printableElems xs
  | .obj fs => printableFields fs
  | _ => true
def printableElems : List Json → Bool
  | [] => true
  | x :: xs => printable x && printableElems xs
def printableFields : List (Text × Json) → Bool
  | [] => true
  | (_, v) :: fs => printable v && printableFields fs
end

mutual
/-- How deep arrays and objects nest. -/
def depth : Json → Nat
  | .arr xs => depthElems xs + 1
  | .obj fs => depthFields fs + 1
  | _ => 0
def depthElems : List Json → Nat
  | [] => 0
  | x :: xs => max (depth x) (depthElems xs)
def depthFields : List (Text × Json) → Nat
  | [] => 0
  | (_, v) :: fs => max (depth v) (depthFields fs)
end

/-- `json.dumps(asdict(_))`, with the `ValueError` of an integer too long to
print and the `RecursionError` of a value nested too deep. -/
def dumps? (py : Python) (v : Json) : Option Text :=
  if printable v ∧ depth v ≤ py.dumpLimit then some (dumps v) else none

end HotelAgent.Lib
