import Mathlib.Order.Bounds.Basic
import Ninlil.Lib.Cursor

/-!
# SHA-256

The hash function of FIPS 180-4, as the standard states it.

* `pad`: the padded message, a whole number of blocks with the least number of zeros;
* `schedule`, `round`, `compress`: the computation on one block;
* `hash`: the computation on all of them;
* `roundConstants_spec`, `initialHash_spec`: the constants are the fractional parts that the
  standard says they are.
-/

namespace Ninlil.Sha256

open Bytes

/-! ### Functions and constants -/

/-- Rotation to the right. -/
def rotr (n : UInt32) (x : UInt32) : UInt32 := (x >>> n) ||| (x <<< (32 - n))

def ch (x y z : UInt32) : UInt32 := (x &&& y) ^^^ (~~~x &&& z)

def maj (x y z : UInt32) : UInt32 := (x &&& y) ^^^ (x &&& z) ^^^ (y &&& z)

def bigSigma0 (x : UInt32) : UInt32 := rotr 2 x ^^^ rotr 13 x ^^^ rotr 22 x

def bigSigma1 (x : UInt32) : UInt32 := rotr 6 x ^^^ rotr 11 x ^^^ rotr 25 x

def smallSigma0 (x : UInt32) : UInt32 := rotr 7 x ^^^ rotr 18 x ^^^ (x >>> 3)

def smallSigma1 (x : UInt32) : UInt32 := rotr 17 x ^^^ rotr 19 x ^^^ (x >>> 10)

/-- The constants of the rounds. -/
def roundConstants : List UInt32 :=
  [0x428a2f98, 0x71374491, 0xb5c0fbcf, 0xe9b5dba5, 0x3956c25b, 0x59f111f1, 0x923f82a4, 0xab1c5ed5,
    0xd807aa98, 0x12835b01, 0x243185be, 0x550c7dc3, 0x72be5d74, 0x80deb1fe, 0x9bdc06a7, 0xc19bf174,
    0xe49b69c1, 0xefbe4786, 0x0fc19dc6, 0x240ca1cc, 0x2de92c6f, 0x4a7484aa, 0x5cb0a9dc, 0x76f988da,
    0x983e5152, 0xa831c66d, 0xb00327c8, 0xbf597fc7, 0xc6e00bf3, 0xd5a79147, 0x06ca6351, 0x14292967,
    0x27b70a85, 0x2e1b2138, 0x4d2c6dfc, 0x53380d13, 0x650a7354, 0x766a0abb, 0x81c2c92e, 0x92722c85,
    0xa2bfe8a1, 0xa81a664b, 0xc24b8b70, 0xc76c51a3, 0xd192e819, 0xd6990624, 0xf40e3585, 0x106aa070,
    0x19a4c116, 0x1e376c08, 0x2748774c, 0x34b0bcb5, 0x391c0cb3, 0x4ed8aa4a, 0x5b9cca4f, 0x682e6ff3,
    0x748f82ee, 0x78a5636f, 0x84c87814, 0x8cc70208, 0x90befffa, 0xa4506ceb, 0xbef9a3f7, 0xc67178f2]

/-- Eight words: a hash value, or the working variables. -/
@[ext] structure Words where
  a : UInt32
  b : UInt32
  c : UInt32
  d : UInt32
  e : UInt32
  f : UInt32
  g : UInt32
  h : UInt32
  deriving DecidableEq

def Words.toList (w : Words) : List UInt32 := [w.a, w.b, w.c, w.d, w.e, w.f, w.g, w.h]

/-- The hash value of no block. -/
def initialHash : Words :=
  ⟨0x6a09e667, 0xbb67ae85, 0x3c6ef372, 0xa54ff53a, 0x510e527f, 0x9b05688c, 0x1f83d9ab, 0x5be0cd19⟩

/-- The first prime numbers, by trial division up to their roots. -/
def primes : List ℕ :=
  (List.range' 2 310).filter fun n => (List.range' 2 16).all fun d => n ≤ d || n % d != 0

/-- The fraction of `p ^ (1 / n)` begins with the 32 bits of `w`: for some whole part `c`, the root
lies between `c + w / 2 ^ 32` and `c + (w + 1) / 2 ^ 32`. -/
def BeginsRoot (n p : ℕ) (w : UInt32) : Prop :=
  ∃ c < p, (c * 2 ^ 32 + w.toNat) ^ n ≤ p * 2 ^ (32 * n) ∧
    p * 2 ^ (32 * n) < (c * 2 ^ 32 + w.toNat + 1) ^ n

instance (n p : ℕ) (w : UInt32) : Decidable (BeginsRoot n p w) :=
  inferInstanceAs (Decidable (∃ c < p, _))

/-- They are the cube roots of the first 64 prime numbers. -/
theorem roundConstants_spec : primes.length = 64 ∧ roundConstants.length = 64 ∧
    ∀ x ∈ primes.zip roundConstants, BeginsRoot 3 x.1 x.2 := by
  decide +kernel

/-- They are the square roots of the first 8 prime numbers. -/
theorem initialHash_spec : ∀ x ∈ primes.zip initialHash.toList, BeginsRoot 2 x.1 x.2 := by
  decide +kernel

/-! ### Preprocessing -/

/-- The number of zeros in the padding of a message of `n` bytes. -/
def padZeros (n : ℕ) : ℕ := (119 - n % 64) % 64

/-- It is the least that fills the last block. -/
theorem padZeros_spec (n : ℕ) : IsLeast {k | (n + 1 + k + 8) % 64 = 0} (padZeros n) := by
  unfold padZeros
  constructor
  · show (n + 1 + (119 - n % 64) % 64 + 8) % 64 = 0
    omega
  · intro k hk
    have hk' : (n + 1 + k + 8) % 64 = 0 := hk
    omega

/-- The padded message: the message, a one bit, zeros, and its length in bits. -/
def pad (message : List UInt8) : List UInt8 :=
  message ++ (0x80 :: (List.replicate (padZeros message.length) 0 ++
    encodeBE 8 (8 * message.length)))

/-- A string as blocks of 64 bytes. -/
def blocks (bytes : List UInt8) : List (List UInt8) :=
  (List.range (bytes.length / 64)).map fun i => slice bytes (64 * i) 64

/-- A word of a block. -/
def word (block : List UInt8) (t : ℕ) : UInt32 := UInt32.ofNat (decodeBE (slice block (4 * t) 4))

/-! ### The computation -/

/-- The message schedule. -/
def schedule (block : List UInt8) (t : ℕ) : UInt32 :=
  if t < 16 then word block t
  else smallSigma1 (schedule block (t - 2)) + schedule block (t - 7) +
    smallSigma0 (schedule block (t - 15)) + schedule block (t - 16)

/-- One round. -/
def round (W : ℕ → UInt32) (w : Words) (t : ℕ) : Words :=
  let t1 := w.h + bigSigma1 w.e + ch w.e w.f w.g + roundConstants.getD t 0 + W t
  let t2 := bigSigma0 w.a + maj w.a w.b w.c
  ⟨t1 + t2, w.a, w.b, w.c, w.d + t1, w.e, w.f, w.g⟩

/-- The next hash value. -/
def compress (H : Words) (block : List UInt8) : Words :=
  let w := (List.range 64).foldl (round (schedule block)) H
  ⟨w.a + H.a, w.b + H.b, w.c + H.c, w.d + H.d, w.e + H.e, w.f + H.f, w.g + H.g, w.h + H.h⟩

/-- The hash value of a message, as words. -/
def hashWords (message : List UInt8) : Words := (blocks (pad message)).foldl compress initialHash

/-- **SHA-256.** -/
def hash (message : List UInt8) : List UInt8 :=
  (hashWords message).toList.flatMap fun w => encodeBE 4 w.toNat

/-! ### Blocks -/

section Blocks

variable {block rest : List UInt8}

@[simp] theorem blocks_nil : blocks [] = [] := rfl

/-- The blocks of a string, one at a time. -/
theorem blocks_append (h : block.length = 64) : blocks (block ++ rest) = block :: blocks rest := by
  unfold blocks
  have hcount : (block ++ rest).length / 64 = rest.length / 64 + 1 := by
    rw [List.length_append, h, Nat.add_comm, Nat.add_div_right _ (by decide)]
  rw [hcount, List.range_succ_eq_map, List.map_cons, List.map_map]
  congr 1
  · exact slice_first h
  · refine List.map_congr_left fun i _ => ?_
    show slice (block ++ rest) (64 * (i + 1)) 64 = slice rest (64 * i) 64
    rw [slice_append_right (by omega)]
    congr 1
    omega

end Blocks

end Ninlil.Sha256
