/-
  HotelAgent.Lib.Utf8 — bytes that need not be UTF-8.

  `decodeUtf8Replace` is `bytes.decode("utf-8", errors="replace")`: wherever no
  code point can be read, the longest beginning of one (or else a single byte) is
  replaced by U+FFFD.  Both decoders read one code point at a time, `takePoint`.

  Main results:
    * `encodeUtf8_decodeUtf8` — what decodes encodes to the bytes it came from.
    * `decodeUtf8Replace_of_decodeUtf8` — in UTF-8 nothing is replaced.
-/
import HotelAgent.Lib.Text

namespace HotelAgent.Lib

/-! ## §1. One code point. -/

/-- The code point at the head of the bytes, and the bytes behind it. -/
def takePoint : List UInt8 → Option (CodePoint × List UInt8)
  | [] => none
  | b₀ :: bs =>
    if b₀.toNat < 0x80 then (pointOf? 0 b₀.toNat).map fun c => (c, bs)
    else if b₀.toNat < 0xC0 then none
    else if b₀.toNat < 0xE0 then
      match bs with
      | b₁ :: bs =>
        if isCont b₁ then
          (pointOf? 0x80 ((b₀.toNat - 0xC0) * 0x40 + contBits b₁)).map fun c => (c, bs)
        else none
      | _ => none
    else if b₀.toNat < 0xF0 then
      match bs with
      | b₁ :: b₂ :: bs =>
        if isCont b₁ && isCont b₂ then
          (pointOf? 0x800
            ((b₀.toNat - 0xE0) * 0x1000 + contBits b₁ * 0x40 + contBits b₂)).map fun c => (c, bs)
        else none
      | _ => none
    else
      match bs with
      | b₁ :: b₂ :: b₃ :: bs =>
        if isCont b₁ && isCont b₂ && isCont b₃ then
          (pointOf? 0x10000
            ((b₀.toNat - 0xF0) * 0x40000 + contBits b₁ * 0x1000 + contBits b₂ * 0x40
              + contBits b₃)).map fun c => (c, bs)
        else none
      | _ => none

/-- Strict decoding takes one point after the other. -/
theorem decodeUtf8_cons (b : UInt8) (bs : List UInt8) :
    decodeUtf8 (b :: bs)
      = (takePoint (b :: bs)).bind fun p => (decodeUtf8 p.2).map (p.1 :: ·) := by
  have hpush : ∀ (low n : Nat) (rest : List UInt8),
      ((pointOf? low n).bind fun c => (decodeUtf8 rest).map (c :: ·))
        = ((pointOf? low n).map fun c => (c, rest)).bind fun p =>
          (decodeUtf8 p.2).map (p.1 :: ·) := by
    intro low n rest
    cases pointOf? low n with
    | none => rfl
    | some c => rfl
  rw [decodeUtf8.eq_def]
  unfold takePoint
  simp only
  -- the branches of both agree one by one
  split
  · exact hpush ..
  · split
    · rfl
    · split
      · cases bs with
        | nil => rfl
        | cons b₁ bs =>
            simp only
            split
            · exact hpush ..
            · rfl
      · split
        · cases bs with
          | nil => rfl
          | cons b₁ bs =>
              cases bs with
              | nil => rfl
              | cons b₂ bs =>
                  simp only
                  split
                  · exact hpush ..
                  · rfl
        · cases bs with
          | nil => rfl
          | cons b₁ bs =>
              cases bs with
              | nil => rfl
              | cons b₂ bs =>
                  cases bs with
                  | nil => rfl
                  | cons b₃ bs =>
                      simp only
                      split
                      · exact hpush ..
                      · rfl

/-! ## §2. Encoding what was decoded. -/

theorem pointOf?_eq_some {low n : Nat} {c : CodePoint} (h : pointOf? low n = some c) :
    c.val = n ∧ low ≤ n ∧ isSurrogate c = false := by
  unfold pointOf? at h
  split at h
  next hn =>
    split at h
    next hok =>
      injection h with h
      subst h
      rw [Bool.and_eq_true, decide_eq_true_eq, Bool.not_eq_true'] at hok
      exact ⟨rfl, hok.1, hok.2⟩
    next => exact absurd h (by simp)
  next => exact absurd h (by simp)

theorem contBits_eq {b : UInt8} (h : isCont b = true) :
    contBits b < 0x40 ∧ b = .ofNat (0x80 + contBits b) := by
  unfold isCont at h
  rw [Bool.and_eq_true, decide_eq_true_eq, decide_eq_true_eq] at h
  have hbits : contBits b < 0x40 := by
    show b.toNat - 0x80 < 0x40
    omega
  refine ⟨hbits, UInt8.toNat_inj.mp ?_⟩
  rw [toNat_ofNat_lt (by omega)]
  show b.toNat = 0x80 + (b.toNat - 0x80)
  omega

theorem eq_ofNat {b : UInt8} {n : Nat} (h : b.toNat = n) : b = .ofNat n := by
  subst h
  exact (UInt8.ofNat_toNat).symm

theorem eq_of_map_pointOf? {low n : Nat} {bs rest : List UInt8} {c : CodePoint}
    (h : ((pointOf? low n).map fun c => (c, bs)) = some (c, rest)) :
    pointOf? low n = some c ∧ bs = rest := by
  obtain ⟨d, hd, heq⟩ := Option.map_eq_some_iff.mp h
  injection heq with hc hrest
  exact ⟨hc ▸ hd, hrest⟩

/-- A point is taken from one byte, or from a first byte and one to three that continue it. -/
theorem takePoint_cases {bs rest : List UInt8} {c : CodePoint} (h : takePoint bs = some (c, rest)) :
    (∃ b₀, bs = b₀ :: rest ∧ b₀.toNat < 0x80 ∧ pointOf? 0 b₀.toNat = some c)
      ∨ (∃ b₀ b₁, bs = b₀ :: b₁ :: rest ∧ 0xC0 ≤ b₀.toNat ∧ b₀.toNat < 0xE0
        ∧ isCont b₁ = true
        ∧ pointOf? 0x80 ((b₀.toNat - 0xC0) * 0x40 + contBits b₁) = some c)
      ∨ (∃ b₀ b₁ b₂, bs = b₀ :: b₁ :: b₂ :: rest ∧ 0xE0 ≤ b₀.toNat ∧ b₀.toNat < 0xF0
        ∧ isCont b₁ = true ∧ isCont b₂ = true
        ∧ pointOf? 0x800 ((b₀.toNat - 0xE0) * 0x1000 + contBits b₁ * 0x40 + contBits b₂) = some c)
      ∨ ∃ b₀ b₁ b₂ b₃, bs = b₀ :: b₁ :: b₂ :: b₃ :: rest ∧ 0xF0 ≤ b₀.toNat
        ∧ isCont b₁ = true ∧ isCont b₂ = true ∧ isCont b₃ = true
        ∧ pointOf? 0x10000 ((b₀.toNat - 0xF0) * 0x40000 + contBits b₁ * 0x1000
            + contBits b₂ * 0x40 + contBits b₃) = some c := by
  cases bs with
  | nil => exact absurd h (by simp [takePoint])
  | cons b₀ bs =>
      unfold takePoint at h
      simp only at h
      by_cases h0 : b₀.toNat < 0x80
      · rw [if_pos h0] at h
        obtain ⟨hd, rfl⟩ := eq_of_map_pointOf? h
        exact .inl ⟨b₀, rfl, h0, hd⟩
      rw [if_neg h0] at h
      by_cases h1 : b₀.toNat < 0xC0
      · rw [if_pos h1] at h
        exact absurd h (by simp)
      rw [if_neg h1] at h
      by_cases h2 : b₀.toNat < 0xE0
      · rw [if_pos h2] at h
        split at h
        next b₁ bs =>
          split at h
          next hcont =>
            obtain ⟨hd, rfl⟩ := eq_of_map_pointOf? h
            exact .inr (.inl ⟨b₀, b₁, rfl, Nat.not_lt.mp h1, h2, hcont, hd⟩)
          next => exact absurd h (by simp)
        next => exact absurd h (by simp)
      rw [if_neg h2] at h
      by_cases h3 : b₀.toNat < 0xF0
      · rw [if_pos h3] at h
        split at h
        next b₁ b₂ bs =>
          split at h
          next hcont =>
            rw [Bool.and_eq_true] at hcont
            obtain ⟨hd, rfl⟩ := eq_of_map_pointOf? h
            exact .inr (.inr (.inl
              ⟨b₀, b₁, b₂, rfl, Nat.not_lt.mp h2, h3, hcont.1, hcont.2, hd⟩))
          next => exact absurd h (by simp)
        next => exact absurd h (by simp)
      rw [if_neg h3] at h
      split at h
      next b₁ b₂ b₃ bs =>
        split at h
        next hcont =>
          rw [Bool.and_eq_true, Bool.and_eq_true] at hcont
          obtain ⟨hd, rfl⟩ := eq_of_map_pointOf? h
          exact .inr (.inr (.inr
            ⟨b₀, b₁, b₂, b₃, rfl, Nat.not_lt.mp h3, hcont.1.1, hcont.1.2, hcont.2, hd⟩))
        next => exact absurd h (by simp)
      next => exact absurd h (by simp)

/-- **A point encodes to the bytes it was taken from.** -/
theorem takePoint_eq_some {bs rest : List UInt8} {c : CodePoint}
    (h : takePoint bs = some (c, rest)) :
    isSurrogate c = false ∧ bs = encodePoint c ++ rest := by
  rcases takePoint_cases h with ⟨b₀, rfl, h0, hd⟩ | ⟨b₀, b₁, rfl, h0, h0', hcont, hd⟩
    | ⟨b₀, b₁, b₂, rfl, h0, h0', hcont₁, hcont₂, hd⟩
    | ⟨b₀, b₁, b₂, b₃, rfl, h0, hcont₁, hcont₂, hcont₃, hd⟩
  · obtain ⟨hval, _, hs⟩ := pointOf?_eq_some hd
    refine ⟨hs, ?_⟩
    unfold encodePoint
    rw [if_pos (by omega), hval, ← eq_ofNat rfl]
    rfl
  · obtain ⟨hval, hlow, hs⟩ := pointOf?_eq_some hd
    obtain ⟨hlt, hb₁⟩ := contBits_eq hcont
    refine ⟨hs, ?_⟩
    have hfirst : b₀ = .ofNat (0xC0 + c.val / 0x40) := eq_ofNat (by omega)
    have hsecond : contBits b₁ = c.val % 0x40 := by omega
    unfold encodePoint
    rw [if_neg (by omega), if_pos (by omega), ← hfirst, ← hsecond, ← hb₁]
    rfl
  · obtain ⟨hval, hlow, hs⟩ := pointOf?_eq_some hd
    obtain ⟨hlt₁, hb₁⟩ := contBits_eq hcont₁
    obtain ⟨hlt₂, hb₂⟩ := contBits_eq hcont₂
    refine ⟨hs, ?_⟩
    have hfirst : b₀ = .ofNat (0xE0 + c.val / 0x1000) := eq_ofNat (by omega)
    have hsecond : contBits b₁ = c.val / 0x40 % 0x40 := by omega
    have hthird : contBits b₂ = c.val % 0x40 := by omega
    unfold encodePoint
    rw [if_neg (by omega), if_neg (by omega), if_pos (by omega), ← hfirst, ← hsecond, ← hthird,
      ← hb₁, ← hb₂]
    rfl
  · obtain ⟨hval, hlow, hs⟩ := pointOf?_eq_some hd
    obtain ⟨hlt₁, hb₁⟩ := contBits_eq hcont₁
    obtain ⟨hlt₂, hb₂⟩ := contBits_eq hcont₂
    obtain ⟨hlt₃, hb₃⟩ := contBits_eq hcont₃
    have hb := UInt8.toNat_lt b₀
    refine ⟨hs, ?_⟩
    have hfirst : b₀ = .ofNat (0xF0 + c.val / 0x40000) := eq_ofNat (by omega)
    have hsecond : contBits b₁ = c.val / 0x1000 % 0x40 := by omega
    have hthird : contBits b₂ = c.val / 0x40 % 0x40 := by omega
    have hfourth : contBits b₃ = c.val % 0x40 := by omega
    unfold encodePoint
    rw [if_neg (by omega), if_neg (by omega), if_neg (by omega), ← hfirst, ← hsecond, ← hthird,
      ← hfourth, ← hb₁, ← hb₂, ← hb₃]
    rfl

theorem length_takePoint {bs rest : List UInt8} {c : CodePoint}
    (h : takePoint bs = some (c, rest)) : rest.length < bs.length := by
  have hpos : 0 < (encodePoint c).length := by
    unfold encodePoint
    split_ifs <;> simp
  rw [(takePoint_eq_some h).2, List.length_append]
  omega

/-- **What decodes encodes back**, to the very bytes. -/
theorem encodeUtf8_decodeUtf8 {bs : List UInt8} {t : Text} (h : decodeUtf8 bs = some t) :
    encodeUtf8 t = some bs := by
  -- on the number of bytes: a point is taken off, and the rest is shorter
  induction hn : bs.length using Nat.strongRecOn generalizing bs t with
  | ind n ih =>
      cases bs with
      | nil =>
          injection h with h
          rw [← h]
          rfl
      | cons b bs =>
          rw [decodeUtf8_cons] at h
          obtain ⟨⟨c, rest⟩, htake, h⟩ := Option.bind_eq_some_iff.mp h
          obtain ⟨u, hu, rfl⟩ := Option.map_eq_some_iff.mp h
          obtain ⟨hs, hbytes⟩ := takePoint_eq_some htake
          have hrest := ih rest.length (by rw [← hn]; exact length_takePoint htake) hu rfl
          rw [hbytes]
          simp only [encodeUtf8, hs, Bool.false_eq_true, if_false]
          rw [hrest]
          rfl

/-- Text encodes exactly when it holds no surrogate. -/
theorem encodeUtf8_isSome_iff : ∀ {t : Text},
    (encodeUtf8 t).isSome = true ↔ ∀ c ∈ t, isSurrogate c = false
  | [] => by simp [encodeUtf8]
  | c :: t => by
      have ih := encodeUtf8_isSome_iff (t := t)
      unfold encodeUtf8
      by_cases hc : isSurrogate c = true
      · simp [hc]
      · simp [hc, ih]

/-- Decoded text holds no surrogate. -/
theorem isSurrogate_of_encodes {t : Text} {bs : List UInt8} (h : encodeUtf8 t = some bs) :
    ∀ c ∈ t, isSurrogate c = false :=
  encodeUtf8_isSome_iff.mp (by rw [h]; rfl)

/-! ## §3. Decoding with replacement. -/

/-- U+FFFD. -/
def replacementPoint : CodePoint := ⟨0xFFFD, by decide⟩

/-- A second byte that can follow the first byte `b₀` of three or four. -/
def continues (b₀ b₁ : UInt8) : Bool :=
  isCont b₁
    && (if b₀.toNat = 0xE0 then 0xA0 ≤ b₁.toNat
      else if b₀.toNat = 0xED then b₁.toNat < 0xA0
      else if b₀.toNat = 0xF0 then 0x90 ≤ b₁.toNat
      else if b₀.toNat = 0xF4 then b₁.toNat < 0x90
      else true)

/-- How many bytes one replacement stands for, where no point can be taken. -/
def malformedLength : List UInt8 → Nat
  | [] => 0
  | b₀ :: bs =>
    -- no first byte, or the first of two
    if b₀.toNat < 0xE0 ∨ 0xF5 ≤ b₀.toNat then 1
    else
      match bs with
      | [] => 1
      | b₁ :: bs =>
        if continues b₀ b₁ = false then 1
        else if b₀.toNat < 0xF0 then 2
        else
          match bs with
          | [] => 2
          | b₂ :: _ => if isCont b₂ then 3 else 2

/-- Decoding with replacement, for at most `n` points. -/
def replaceMany : Nat → List UInt8 → Text
  | 0, _ => []
  | _ + 1, [] => []
  | n + 1, b :: bs =>
    match takePoint (b :: bs) with
    | some (c, rest) => c :: replaceMany n rest
    | none => replacementPoint :: replaceMany n ((b :: bs).drop (malformedLength (b :: bs)))

/-- `bytes.decode("utf-8", errors="replace")`: a point uses up a byte at least. -/
def decodeUtf8Replace (bs : List UInt8) : Text := replaceMany bs.length bs

example : decodeUtf8Replace [0x61, 0xE2, 0x82, 0x62, 0xFF]
    = [0x61, replacementPoint, 0x62, replacementPoint] := by decide

theorem replaceMany_of_decodeUtf8 : ∀ {n : Nat} {bs : List UInt8} {t : Text}, bs.length ≤ n →
    decodeUtf8 bs = some t → replaceMany n bs = t
  | 0, bs, t, hn, h => by
      rw [List.length_eq_zero_iff.mp (Nat.le_zero.mp hn)] at h
      injection h
  | n + 1, [], t, _, h => by injection h
  | n + 1, b :: bs, t, hn, h => by
      rw [decodeUtf8_cons] at h
      obtain ⟨⟨c, rest⟩, htake, h⟩ := Option.bind_eq_some_iff.mp h
      obtain ⟨u, hu, rfl⟩ := Option.map_eq_some_iff.mp h
      have hlength : rest.length < (b :: bs).length := length_takePoint htake
      unfold replaceMany
      simp only [htake]
      rw [replaceMany_of_decodeUtf8 (show rest.length ≤ n by omega) hu]

/-- **In UTF-8 nothing is replaced.** -/
theorem decodeUtf8Replace_of_decodeUtf8 {bs : List UInt8} {t : Text}
    (h : decodeUtf8 bs = some t) : decodeUtf8Replace bs = t :=
  replaceMany_of_decodeUtf8 (Nat.le_refl _) h

end HotelAgent.Lib
