/-
  HotelAgent.Lib.Sha256 — `hashlib.sha256`.

  The message is padded to blocks of sixteen 32-bit words; each block is
  stretched to sixty-four words and folded into a state of eight.  Everything
  is structural recursion on lists, so that digests of short messages are
  computed by the kernel.

  Main results:
    * `hexdigest_length` — a hexadecimal digest has sixty-four characters.
-/
import HotelAgent.Lib.Json.Syntax

namespace HotelAgent.Lib

namespace Sha256

/-! ## §1. The message in words. -/

/-- The `n` low bytes of a number, the highest first. -/
def bigEndian (value : Nat) : Nat → List UInt8
  | 0 => []
  | n + 1 => .ofNat (value >>> (8 * n)) :: bigEndian value n

/-- The message, the bit `1`, zeros, and the length in bits. -/
def pad (message : List UInt8) : List UInt8 :=
  message ++ 0x80 :: List.replicate ((119 - message.length % 64) % 64) 0
    ++ bigEndian (8 * message.length) 8

def words : List UInt8 → List UInt32
  | a :: b :: c :: d :: rest =>
      ((a.toUInt32 <<< 24) ||| (b.toUInt32 <<< 16) ||| (c.toUInt32 <<< 8) ||| d.toUInt32)
        :: words rest
  | _ => []

/-- The first `n` blocks of sixteen words. -/
def blocks : Nat → List UInt32 → List (List UInt32)
  | 0, _ => []
  | n + 1, ws => ws.take 16 :: blocks n (ws.drop 16)

/-! ## §2. Compression. -/

def rotr (x n : UInt32) : UInt32 := (x >>> n) ||| (x <<< (32 - n))

/-- The round constants. -/
def constants : List UInt32 := [
  0x428a2f98, 0x71374491, 0xb5c0fbcf, 0xe9b5dba5, 0x3956c25b, 0x59f111f1, 0x923f82a4, 0xab1c5ed5,
  0xd807aa98, 0x12835b01, 0x243185be, 0x550c7dc3, 0x72be5d74, 0x80deb1fe, 0x9bdc06a7, 0xc19bf174,
  0xe49b69c1, 0xefbe4786, 0x0fc19dc6, 0x240ca1cc, 0x2de92c6f, 0x4a7484aa, 0x5cb0a9dc, 0x76f988da,
  0x983e5152, 0xa831c66d, 0xb00327c8, 0xbf597fc7, 0xc6e00bf3, 0xd5a79147, 0x06ca6351, 0x14292967,
  0x27b70a85, 0x2e1b2138, 0x4d2c6dfc, 0x53380d13, 0x650a7354, 0x766a0abb, 0x81c2c92e, 0x92722c85,
  0xa2bfe8a1, 0xa81a664b, 0xc24b8b70, 0xc76c51a3, 0xd192e819, 0xd6990624, 0xf40e3585, 0x106aa070,
  0x19a4c116, 0x1e376c08, 0x2748774c, 0x34b0bcb5, 0x391c0cb3, 0x4ed8aa4a, 0x5b9cca4f, 0x682e6ff3,
  0x748f82ee, 0x78a5636f, 0x84c87814, 0x8cc70208, 0x90befffa, 0xa4506ceb, 0xbef9a3f7, 0xc67178f2]

/-- The next `n` words of the message schedule, from the sixteen before them. -/
def schedule : Nat → List UInt32 → List UInt32
  | n + 1, w :: ws =>
      let w₁ := ws.getD 0 0
      let w₁₄ := ws.getD 13 0
      let σ₀ := rotr w₁ 7 ^^^ rotr w₁ 18 ^^^ (w₁ >>> 3)
      let σ₁ := rotr w₁₄ 17 ^^^ rotr w₁₄ 19 ^^^ (w₁₄ >>> 10)
      w :: schedule n (ws ++ [w + σ₀ + ws.getD 8 0 + σ₁])
  | _, _ => []

structure State where
  a : UInt32
  b : UInt32
  c : UInt32
  d : UInt32
  e : UInt32
  f : UInt32
  g : UInt32
  h : UInt32

/-- The state before the first block. -/
def State.initial : State where
  a := 0x6a09e667
  b := 0xbb67ae85
  c := 0x3c6ef372
  d := 0xa54ff53a
  e := 0x510e527f
  f := 0x9b05688c
  g := 0x1f83d9ab
  h := 0x5be0cd19

/-- One round, with its constant and its word of the schedule. -/
def State.round (s : State) (kw : UInt32 × UInt32) : State :=
  let sum₁ := rotr s.e 6 ^^^ rotr s.e 11 ^^^ rotr s.e 25
  let choice := (s.e &&& s.f) ^^^ (~~~s.e &&& s.g)
  let temp₁ := s.h + sum₁ + choice + kw.1 + kw.2
  let sum₀ := rotr s.a 2 ^^^ rotr s.a 13 ^^^ rotr s.a 22
  let majority := (s.a &&& s.b) ^^^ (s.a &&& s.c) ^^^ (s.b &&& s.c)
  { a := temp₁ + (sum₀ + majority), b := s.a, c := s.b, d := s.c,
    e := s.d + temp₁, f := s.e, g := s.f, h := s.g }

/-- One block. -/
def State.compress (s : State) (block : List UInt32) : State :=
  let t := (constants.zip (schedule 64 block)).foldl State.round s
  { a := s.a + t.a, b := s.b + t.b, c := s.c + t.c, d := s.d + t.d,
    e := s.e + t.e, f := s.f + t.f, g := s.g + t.g, h := s.h + t.h }

/-! ## §3. The digest. -/

def State.words (s : State) : List UInt32 := [s.a, s.b, s.c, s.d, s.e, s.f, s.g, s.h]

/-- The eight hexadecimal digits of a word. -/
def hexWord (w : UInt32) : Text :=
  (List.range 8).map fun i => hexPoint (w.toNat / 16 ^ (7 - i) % 16)

end Sha256

open Sha256

/-- `hashlib.sha256(message).hexdigest()`. -/
def sha256Hexdigest (message : List UInt8) : Text :=
  let ws := words (pad message)
  ((blocks (ws.length / 16) ws).foldl State.compress State.initial).words.flatMap hexWord

theorem hexdigest_length (message : List UInt8) : (sha256Hexdigest message).length = 64 := by
  have hword : ∀ w, (hexWord w).length = 8 := by
    intro w
    rw [hexWord, List.length_map, List.length_range]
  simp only [sha256Hexdigest, State.words, List.flatMap_cons, List.flatMap_nil,
    List.length_append, List.length_nil, hword]

example : sha256Hexdigest [0x61, 0x62, 0x63]
    = txt "ba7816bf8f01cfea414140de5dae2223b00361a396177a9cb410ff61f20015ad" := by
  decide +kernel

end HotelAgent.Lib
