/-
  HotelAgent.Lib.Text — Python strings and their UTF-8 form.

  A Python `str` is a sequence of code points, lone surrogates included; it is
  NOT a Lean `String`, whose characters exclude surrogates.  `encodeUtf8` and
  `decodeUtf8` are the strict `str.encode("utf-8")` and
  `bytes.decode("utf-8")`: encoding refuses surrogates, decoding refuses every
  byte sequence outside the well-formedness table of the Unicode standard
  (overlong forms, surrogates, values above U+10FFFF, cut-off sequences).

  Main results:
    * `decodeUtf8_encodeUtf8` — whatever encodes decodes to itself.
    * `encodeUtf8_ascii` — pure ASCII text always encodes.
-/
import Mathlib.Algebra.GroupWithZero.Nat
import Mathlib.Data.List.Basic
import Mathlib.Tactic.Common

namespace HotelAgent.Lib

/-- A Unicode code point, surrogates included. -/
abbrev CodePoint := Fin 0x110000

/-- A Python `str`. -/
abbrev Text := List CodePoint

-- literals and tests for membership are the same terms wherever they are written
instance neZeroCodePoints : NeZero 0x110000 := ⟨by decide⟩

instance lawfulBEqText : LawfulBEq Text := inferInstance

/-- The code point of a character. -/
def codePoint (c : Char) : CodePoint := ⟨c.toNat, by
  have h := c.valid
  show c.val.toNat < 0x110000
  rcases h with h | h <;> omega⟩

/-- The text of a string literal. -/
def txt (s : String) : Text := s.toList.map codePoint

/-! ## §1. Encoding. -/

/-- Surrogate code points have no UTF-8 form. -/
def isSurrogate (c : CodePoint) : Bool := 0xD800 ≤ c.val && c.val ≤ 0xDFFF

/-- The bytes of one code point. -/
def encodePoint (c : CodePoint) : List UInt8 :=
  if c.val < 0x80 then [.ofNat c.val]
  else if c.val < 0x800 then
    [.ofNat (0xC0 + c.val / 0x40), .ofNat (0x80 + c.val % 0x40)]
  else if c.val < 0x10000 then
    [.ofNat (0xE0 + c.val / 0x1000), .ofNat (0x80 + c.val / 0x40 % 0x40),
      .ofNat (0x80 + c.val % 0x40)]
  else
    [.ofNat (0xF0 + c.val / 0x40000), .ofNat (0x80 + c.val / 0x1000 % 0x40),
      .ofNat (0x80 + c.val / 0x40 % 0x40), .ofNat (0x80 + c.val % 0x40)]

/-- `str.encode("utf-8")`; `none` is the `UnicodeEncodeError`. -/
def encodeUtf8 : Text → Option (List UInt8)
  | [] => some []
  | c :: t => if isSurrogate c then none else (encodeUtf8 t).map (encodePoint c ++ ·)

/-! ## §2. Decoding. -/

/-- `10xxxxxx`. -/
def isCont (b : UInt8) : Bool := 0x80 ≤ b.toNat && b.toNat < 0xC0

/-- The payload bits of a continuation byte. -/
def contBits (b : UInt8) : Nat := b.toNat - 0x80

/-- A code point computed from bytes, when it is one that takes at least
`low` and is not a surrogate. -/
def pointOf? (low n : Nat) : Option CodePoint :=
  if h : n < 0x110000 then
    if low ≤ n && !isSurrogate ⟨n, h⟩ then some ⟨n, h⟩ else none
  else none

/-- `bytes.decode("utf-8")`; `none` is the `UnicodeDecodeError`. -/
def decodeUtf8 : List UInt8 → Option Text
  | [] => some []
  | b₀ :: bs =>
    if b₀.toNat < 0x80 then
      (pointOf? 0 b₀.toNat).bind fun c => (decodeUtf8 bs).map (c :: ·)
    -- a continuation byte starts nothing
    else if b₀.toNat < 0xC0 then none
    else if b₀.toNat < 0xE0 then
      match bs with
      | b₁ :: bs =>
        if isCont b₁ then
          (pointOf? 0x80 ((b₀.toNat - 0xC0) * 0x40 + contBits b₁)).bind fun c =>
            (decodeUtf8 bs).map (c :: ·)
        else none
      | _ => none
    else if b₀.toNat < 0xF0 then
      match bs with
      | b₁ :: b₂ :: bs =>
        if isCont b₁ && isCont b₂ then
          (pointOf? 0x800
            ((b₀.toNat - 0xE0) * 0x1000 + contBits b₁ * 0x40 + contBits b₂)).bind fun c =>
            (decodeUtf8 bs).map (c :: ·)
        else none
      | _ => none
    else
      match bs with
      | b₁ :: b₂ :: b₃ :: bs =>
        if isCont b₁ && isCont b₂ && isCont b₃ then
          (pointOf? 0x10000
            ((b₀.toNat - 0xF0) * 0x40000 + contBits b₁ * 0x1000 + contBits b₂ * 0x40
              + contBits b₃)).bind fun c =>
            (decodeUtf8 bs).map (c :: ·)
        else none
      | _ => none

/-! ## §3. The round trip. -/

theorem toNat_ofNat_lt {n : Nat} (h : n < 256) : (UInt8.ofNat n).toNat = n := by
  rw [UInt8.toNat_ofNat']
  exact Nat.mod_eq_of_lt h

theorem isCont_ofNat {n : Nat} (h : n < 0x40) : isCont (.ofNat (0x80 + n)) = true := by
  have hn : (UInt8.ofNat (0x80 + n)).toNat = 0x80 + n := toNat_ofNat_lt (by omega)
  simp only [isCont, hn, Bool.and_eq_true, decide_eq_true_eq]
  omega

theorem contBits_ofNat {n : Nat} (h : n < 0x40) : contBits (.ofNat (0x80 + n)) = n := by
  have hn : (UInt8.ofNat (0x80 + n)).toNat = 0x80 + n := toNat_ofNat_lt (by omega)
  unfold contBits
  omega

theorem pointOf?_val {low : Nat} {c : CodePoint} (hlow : low ≤ c.val)
    (hs : isSurrogate c = false) : pointOf? low c.val = some c := by
  unfold pointOf?
  rw [dif_pos c.isLt, hs, decide_eq_true hlow]
  rfl

/-- Decoding reads back one encoded code point and leaves the rest. -/
theorem decodeUtf8_encodePoint (c : CodePoint) (hs : isSurrogate c = false)
    (bs : List UInt8) :
    decodeUtf8 (encodePoint c ++ bs) = (decodeUtf8 bs).map (c :: ·) := by
  have hc := c.isLt
  unfold encodePoint
  -- one to four bytes; the first one tells the decoder how many follow
  split_ifs with h1 h2 h3
  · have hb : (UInt8.ofNat c.val).toNat = c.val := toNat_ofNat_lt (by omega)
    rw [List.singleton_append, decodeUtf8.eq_def]
    simp only [hb]
    rw [if_pos h1, pointOf?_val (Nat.zero_le _) hs, Option.bind_some]
  · have hb : (UInt8.ofNat (0xC0 + c.val / 0x40)).toNat = 0xC0 + c.val / 0x40 :=
      toNat_ofNat_lt (by omega)
    have hval : (0xC0 + c.val / 0x40 - 0xC0) * 0x40 + c.val % 0x40 = c.val := by omega
    simp only [List.cons_append, List.nil_append, decodeUtf8, hb]
    rw [if_neg (by omega), if_neg (by omega), if_pos (by omega),
      isCont_ofNat (Nat.mod_lt _ (by decide)), if_pos rfl,
      contBits_ofNat (Nat.mod_lt _ (by decide)), hval, pointOf?_val (by omega) hs,
      Option.bind_some]
  · have hb : (UInt8.ofNat (0xE0 + c.val / 0x1000)).toNat = 0xE0 + c.val / 0x1000 :=
      toNat_ofNat_lt (by omega)
    have hval : (0xE0 + c.val / 0x1000 - 0xE0) * 0x1000 + c.val / 0x40 % 0x40 * 0x40
        + c.val % 0x40 = c.val := by omega
    simp only [List.cons_append, List.nil_append, decodeUtf8, hb]
    rw [if_neg (by omega), if_neg (by omega), if_neg (by omega), if_pos (by omega),
      isCont_ofNat (Nat.mod_lt _ (by decide)), isCont_ofNat (Nat.mod_lt _ (by decide)),
      Bool.and_self, if_pos rfl, contBits_ofNat (Nat.mod_lt _ (by decide)),
      contBits_ofNat (Nat.mod_lt _ (by decide)), hval, pointOf?_val (by omega) hs,
      Option.bind_some]
  · have hb : (UInt8.ofNat (0xF0 + c.val / 0x40000)).toNat = 0xF0 + c.val / 0x40000 :=
      toNat_ofNat_lt (by omega)
    have hval : (0xF0 + c.val / 0x40000 - 0xF0) * 0x40000 + c.val / 0x1000 % 0x40 * 0x1000
        + c.val / 0x40 % 0x40 * 0x40 + c.val % 0x40 = c.val := by omega
    simp only [List.cons_append, List.nil_append, decodeUtf8, hb]
    rw [if_neg (by omega), if_neg (by omega), if_neg (by omega), if_neg (by omega),
      isCont_ofNat (Nat.mod_lt _ (by decide)), isCont_ofNat (Nat.mod_lt _ (by decide)),
      isCont_ofNat (Nat.mod_lt _ (by decide)), Bool.and_self, Bool.and_self, if_pos rfl,
      contBits_ofNat (Nat.mod_lt _ (by decide)), contBits_ofNat (Nat.mod_lt _ (by decide)),
      contBits_ofNat (Nat.mod_lt _ (by decide)), hval, pointOf?_val (by omega) hs,
      Option.bind_some]

/-- **UTF-8 round trip.** -/
theorem decodeUtf8_encodeUtf8 :
    ∀ (t : Text) {bs : List UInt8}, encodeUtf8 t = some bs → decodeUtf8 bs = some t
  | [], bs, h => by
      injection h with h
      subst h
      rfl
  | c :: t, bs, h => by
      simp only [encodeUtf8] at h
      split at h
      · exact absurd h (by simp)
      next hs =>
        obtain ⟨rest, hrest, rfl⟩ := Option.map_eq_some_iff.mp h
        rw [decodeUtf8_encodePoint c (by simpa using hs), decodeUtf8_encodeUtf8 t hrest]
        rfl

/-- ASCII text always encodes. -/
theorem encodeUtf8_ascii : ∀ (t : Text), (∀ c ∈ t, c.val < 0x80) → ∃ bs, encodeUtf8 t = some bs
  | [], _ => ⟨[], rfl⟩
  | c :: t, h => by
      obtain ⟨bs, hbs⟩ := encodeUtf8_ascii t fun d hd => h d (List.mem_cons_of_mem c hd)
      have hc : c.val < 0x80 := h c List.mem_cons_self
      have hs : isSurrogate c = false := by
        simp only [isSurrogate, Bool.and_eq_false_iff, decide_eq_false_iff_not]
        omega
      exact ⟨encodePoint c ++ bs, by simp [encodeUtf8, hs, hbs]⟩

/-! ## §4. Whitespace. -/

/-- `str.isspace` of one character. -/
def isSpace (c : CodePoint) : Bool :=
  (0x09 ≤ c.val && c.val ≤ 0x0D) || (0x1C ≤ c.val && c.val ≤ 0x20) || c.val = 0x85
    || c.val = 0xA0 || c.val = 0x1680 || (0x2000 ≤ c.val && c.val ≤ 0x200A) || c.val = 0x2028
    || c.val = 0x2029 || c.val = 0x202F || c.val = 0x205F || c.val = 0x3000

/-- `text.strip()`. -/
def strip (t : Text) : Text :=
  ((t.dropWhile isSpace).reverse.dropWhile isSpace).reverse

/-! ## §5. Splitting. -/

/-- The text before and after the first occurrence of `sep`. -/
def splitOnce (sep : Text) : Text → Option (Text × Text)
  | [] => if sep = [] then some ([], []) else none
  | c :: t =>
    if sep.isPrefixOf (c :: t) then some ([], (c :: t).drop sep.length)
    else (splitOnce sep t).map fun p => (c :: p.1, p.2)

/-- The parts and the separator make up the text. -/
theorem splitOnce_eq_some {sep : Text} : ∀ {t before after : Text},
    splitOnce sep t = some (before, after) → t = before ++ sep ++ after
  | [], before, after, h => by
      unfold splitOnce at h
      split at h
      next hsep =>
        injection h with h
        injection h with hb ha
        rw [← hb, ← ha, hsep]
        rfl
      next => exact absurd h (by simp)
  | c :: t, before, after, h => by
      unfold splitOnce at h
      split at h
      next hprefix =>
        injection h with h
        injection h with hb ha
        obtain ⟨rest, hrest⟩ := List.isPrefixOf_iff_prefix.mp hprefix
        rw [← hb, ← ha, ← hrest, List.drop_left]
        rfl
      next =>
        obtain ⟨⟨b, a⟩, hsplit, heq⟩ := Option.map_eq_some_iff.mp h
        injection heq with hb ha
        rw [← hb, ← ha, splitOnce_eq_some hsplit]
        rfl

/-- Splitting at most `n` times. -/
def splitMany (sep : Text) : Nat → Text → List Text
  | 0, t => [t]
  | n + 1, t =>
    match splitOnce sep t with
    | none => [t]
    | some (before, after) => before :: splitMany sep n after

/-- `text.split(sep)`, for a separator that is not empty: every split uses up a character. -/
def splitOn (sep t : Text) : List Text := splitMany sep t.length t

/-! ## §6. Base64. -/

/-- The character of a group of six bits. -/
def b64Point (n : Nat) : CodePoint :=
  (txt "ABCDEFGHIJKLMNOPQRSTUVWXYZabcdefghijklmnopqrstuvwxyz0123456789+/").getD n 0x3D

/-- `base64.b64encode(data).decode()`. -/
def b64encode : List UInt8 → Text
  | [] => []
  | [a] => [b64Point (a.toNat / 4), b64Point (a.toNat % 4 * 16), 0x3D, 0x3D]
  | [a, b] =>
    [b64Point (a.toNat / 4), b64Point (a.toNat % 4 * 16 + b.toNat / 16),
      b64Point (b.toNat % 16 * 4), 0x3D]
  | a :: b :: c :: rest =>
    b64Point (a.toNat / 4) :: b64Point (a.toNat % 4 * 16 + b.toNat / 16)
      :: b64Point (b.toNat % 16 * 4 + c.toNat / 64) :: b64Point (c.toNat % 64) :: b64encode rest

example : b64encode [0x48, 0x69, 0x21, 0x21] = txt "SGkhIQ==" := by decide

/-! ## §7. Lines. -/

section
variable {α : Type*}

/-- No piece of a split holds the separator. -/
theorem not_mem_of_mem_splitOn [DecidableEq α] {a : α} :
    ∀ {xs piece : List α}, piece ∈ xs.splitOn a → a ∉ piece
  | [], piece, h => by
      rw [List.splitOn_nil, List.mem_singleton] at h
      rw [h]
      exact List.not_mem_nil
  | x :: xs, piece, h => by
      rw [List.splitOn_cons_eq_if_modifyHead] at h
      split at h
      · rcases List.mem_cons.mp h with rfl | h
        · exact List.not_mem_nil
        · exact not_mem_of_mem_splitOn h
      next hx =>
        cases hsplit : xs.splitOn a with
        | nil => exact absurd hsplit (List.splitOn_ne_nil a xs)
        | cons first rest =>
            rw [hsplit, List.modifyHead_cons] at h
            have hpieces : ∀ p ∈ first :: rest, a ∉ p := fun p hp =>
              not_mem_of_mem_splitOn (hsplit ▸ hp)
            rcases List.mem_cons.mp h with rfl | h
            · rw [List.mem_cons, not_or]
              exact ⟨fun heq => hx (by simp [heq]), hpieces first List.mem_cons_self⟩
            · exact hpieces piece (List.mem_cons_of_mem first h)

/-- Splitting takes joined pieces apart again, exactly if the separator is in none of them. -/
theorem splitOn_intercalate_iff [DecidableEq α] {a : α} {pieces : List (List α)}
    (h : pieces ≠ []) :
    ([a].intercalate pieces).splitOn a = pieces ↔ ∀ piece ∈ pieces, a ∉ piece := by
  constructor
  · intro heq piece hpiece
    rw [← heq] at hpiece
    exact not_mem_of_mem_splitOn hpiece
  · intro hnone
    exact List.splitOn_intercalate a hnone h

end

/-- The lines of a text; a text without characters has none. -/
def textLines (t : Text) : List Text := if t = [] then [] else t.splitOn 0x0A

/-- **Joined lines are the lines of the text**, exactly if there is no line feed in them. -/
theorem textLines_intercalate_iff {lines : List Text} (h : ∀ line ∈ lines, line ≠ []) :
    textLines ((txt "\n").intercalate lines) = lines ↔ ∀ line ∈ lines, 0x0A ∉ line := by
  cases lines with
  | nil => exact iff_of_true rfl fun _ hl => absurd hl List.not_mem_nil
  | cons line rest =>
      have hne : (txt "\n").intercalate (line :: rest) ≠ [] := by
        have hline := h line List.mem_cons_self
        cases rest with
        | nil => simpa [List.intercalate] using hline
        | cons _ _ => simp [List.intercalate, hline]
      rw [textLines, if_neg hne]
      exact splitOn_intercalate_iff (List.cons_ne_nil line rest)

example : textLines (txt "a\nb\n\nc") = [txt "a", txt "b", [], txt "c"] := by decide

end HotelAgent.Lib
