/-
  HotelAgent.Lib.Base64 — Python's `base64.b64decode`.

  Without `validate`, the decoder passes over whatever is not in the alphabet, and
  over padding where none can be.  It ends at the padding that fills a group of
  four, whatever comes after it, and fails only where the text ends inside of a
  group.  Only ASCII texts are decoded at all.

  Main result, `b64decode_b64encode`: what is encoded is read back.
-/
import HotelAgent.Lib.Text

namespace HotelAgent.Lib

/-! ## §1. The decoder. -/

/-- `A-Z`, `a-z`, `0-9`, `+` and `/`, in this order. -/
def b64Value? (c : CodePoint) : Option Nat :=
  if 0x41 ≤ c.val ∧ c.val ≤ 0x5A then some (c.val - 0x41)
  else if 0x61 ≤ c.val ∧ c.val ≤ 0x7A then some (c.val - 0x61 + 26)
  else if 0x30 ≤ c.val ∧ c.val ≤ 0x39 then some (c.val - 0x30 + 52)
  else if c.val = 0x2B then some 62
  else if c.val = 0x2F then some 63
  else none

/-- Where the decoder stands in a group of four: the bits that have made no byte yet, and
whether it has just seen one of two paddings. -/
inductive Quad where
  | start
  | one (left : Nat)
  | two (left : Nat) (padded : Bool)
  | three (left : Nat)
  deriving DecidableEq

/-- One more character of the alphabet: the bytes it completes. -/
def Quad.push : Quad → Nat → List UInt8 × Quad
  | .start, v => ([], .one v)
  | .one left, v => ([.ofNat (left * 4 + v / 16)], .two (v % 16) false)
  | .two left _, v => ([.ofNat (left * 16 + v / 4)], .three (v % 4))
  | .three left, v => ([.ofNat (left * 64 + v)], .start)

/-- One padding: `none` is the end of the data. -/
def Quad.pad : Quad → Option Quad
  | .two left false => some (.two left true)
  | .two _ true => none
  | .three _ => none
  -- here it is passed over
  | q => some q

/-- `binascii.a2b_base64`; `none` is the `binascii.Error`. -/
def a2bBase64 : Quad → Text → Option (List UInt8)
  | q, [] => if q = .start then some [] else none
  | q, c :: t =>
    if c.val = 0x3D then
      match q.pad with
      | none => some []
      | some q' => a2bBase64 q' t
    else
      match b64Value? c with
      | none => a2bBase64 q t
      | some v => (a2bBase64 (q.push v).2 t).map ((q.push v).1 ++ ·)

/-- `base64.b64decode(s)` of a `str`; `none` is the `ValueError` of a character beyond ASCII or
of the decoder. -/
def b64decode (s : Text) : Option (List UInt8) :=
  if s.all (fun c => c.val < 0x80) then a2bBase64 .start s else none

example : b64decode (txt "SG kh\nIQ==tail") = some [0x48, 0x69, 0x21, 0x21] := by decide

/-! ## §2. What is encoded is read back. -/

/-- The decoder's alphabet is that of the encoder, without the padding. -/
theorem b64Point_spec : ∀ n, n < 64 →
    b64Value? (b64Point n) = some n ∧ (b64Point n).val ≠ 0x3D ∧ (b64Point n).val < 0x80 := by
  decide +kernel

/-- A character of the alphabet is pushed. -/
theorem a2bBase64_b64Point (q : Quad) {n : Nat} (hn : n < 64) (t : Text) :
    a2bBase64 q (b64Point n :: t) = (a2bBase64 (q.push n).2 t).map ((q.push n).1 ++ ·) := by
  obtain ⟨hvalue, hpad, _⟩ := b64Point_spec n hn
  rw [a2bBase64, if_neg hpad, hvalue]

section
variable (a b c : UInt8)

/-- The groups of six bits that the encoder makes. -/
theorem sextets_lt : a.toNat / 4 < 64 ∧ a.toNat % 4 * 16 < 64
    ∧ a.toNat % 4 * 16 + b.toNat / 16 < 64 ∧ b.toNat % 16 * 4 < 64
    ∧ b.toNat % 16 * 4 + c.toNat / 64 < 64 ∧ c.toNat % 64 < 64 := by
  have ha := a.toNat_lt
  have hb := b.toNat_lt
  have hc := c.toNat_lt
  omega

/-- The bytes that the decoder makes of them. -/
theorem bytes_eq : UInt8.ofNat (a.toNat / 4 * 4 + a.toNat % 4 * 16 / 16) = a
    ∧ UInt8.ofNat (a.toNat / 4 * 4 + (a.toNat % 4 * 16 + b.toNat / 16) / 16) = a
    ∧ UInt8.ofNat ((a.toNat % 4 * 16 + b.toNat / 16) % 16 * 16 + b.toNat % 16 * 4 / 4) = b
    ∧ UInt8.ofNat ((a.toNat % 4 * 16 + b.toNat / 16) % 16 * 16
        + (b.toNat % 16 * 4 + c.toNat / 64) / 4) = b
    ∧ UInt8.ofNat ((b.toNat % 16 * 4 + c.toNat / 64) % 4 * 64 + c.toNat % 64) = c := by
  have hb := b.toNat_lt
  have hc := c.toNat_lt
  have hof : ∀ (x : UInt8) (n : Nat), n = x.toNat → UInt8.ofNat n = x := by
    intro x n hn
    rw [hn, UInt8.ofNat_toNat]
  refine ⟨hof _ _ ?_, hof _ _ ?_, hof _ _ ?_, hof _ _ ?_, hof _ _ ?_⟩ <;> omega

end

/-- The encoder writes ASCII. -/
theorem b64encode_ascii (bs : List UInt8) :
    (b64encode bs).all (fun c => c.val < 0x80) = true := by
  have hascii : ∀ n, n < 64 → decide ((b64Point n).val < 0x80) = true :=
    fun n hn => decide_eq_true (b64Point_spec n hn).2.2
  induction bs using b64encode.induct with
  | case1 => rfl
  | case2 a =>
      obtain ⟨h1, h2, _⟩ := sextets_lt a 0 0
      rw [b64encode, List.all_cons, List.all_cons, hascii _ h1, hascii _ h2]
      rfl
  | case3 a b =>
      obtain ⟨h1, _, h2, h3, _⟩ := sextets_lt a b 0
      rw [b64encode, List.all_cons, List.all_cons, List.all_cons, hascii _ h1, hascii _ h2,
        hascii _ h3]
      rfl
  | case4 a b c rest ih =>
      obtain ⟨h1, _, h2, _, h3, h4⟩ := sextets_lt a b c
      rw [b64encode, List.all_cons, List.all_cons, List.all_cons, List.all_cons, ih, hascii _ h1,
        hascii _ h2, hascii _ h3, hascii _ h4]
      rfl

/-- **A group of four is three bytes.** -/
theorem a2bBase64_b64encode (bs : List UInt8) : a2bBase64 .start (b64encode bs) = some bs := by
  induction bs using b64encode.induct with
  | case1 => rfl
  | case2 a =>
      obtain ⟨h1, h2, _⟩ := sextets_lt a 0 0
      obtain ⟨ha, _⟩ := bytes_eq a 0 0
      rw [b64encode, a2bBase64_b64Point _ h1, a2bBase64_b64Point _ h2]
      simp only [Quad.push, ha]
      rfl
  | case3 a b =>
      obtain ⟨h1, _, h2, h3, _⟩ := sextets_lt a b 0
      obtain ⟨_, ha, hb, _⟩ := bytes_eq a b 0
      rw [b64encode, a2bBase64_b64Point _ h1, a2bBase64_b64Point _ h2, a2bBase64_b64Point _ h3]
      simp only [Quad.push, ha, hb]
      rfl
  | case4 a b c rest ih =>
      obtain ⟨h1, _, h2, _, h3, h4⟩ := sextets_lt a b c
      obtain ⟨_, ha, _, hb, hc⟩ := bytes_eq a b c
      rw [b64encode, a2bBase64_b64Point _ h1, a2bBase64_b64Point _ h2, a2bBase64_b64Point _ h3,
        a2bBase64_b64Point _ h4]
      simp only [Quad.push, ih, Option.map_some, ha, hb, hc]
      rfl

/-- **What is encoded is read back.** -/
theorem b64decode_b64encode (bs : List UInt8) : b64decode (b64encode bs) = some bs := by
  rw [b64decode, if_pos (b64encode_ascii bs), a2bBase64_b64encode]

end HotelAgent.Lib
