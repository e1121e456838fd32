import Ninlil.Lib.Sha256
import Ninlil.Lib.Tiling

/-!
# SHA-256 of the transport

`ninlil_mfdt_v1_sha256` in `mfdt_v1_crypto.c`: one loop that copies, pads and hashes.

* `nextBlock`: the block of one iteration, and what is left of the message;
* `compressBlock`: the work on a block;
* `blockLoop`: the loop, which may run out of fuel;
* `blockLoop_eq`: it ends, and has worked on the blocks of the padded message.
-/

namespace Ninlil.Mfdt
namespace Crypto

open Bytes

/-! ### The block of an iteration -/

/-- What an iteration leaves: the block, the rest of the message, whether the one bit was written
and whether the loop is done. -/
structure Iteration where
  block : List UInt8
  rest : List UInt8
  wroteOne : Bool
  done : Bool

/-- The first half of an iteration of `ninlil_mfdt_v1_sha256`. -/
def nextBlock (bitLen : UInt64) (rest : List UInt8) (wroteOne : Bool) : Iteration :=
  let take := if 64 < rest.length then 64 else rest.length
  let block := store (List.replicate 64 0) 0 (rest.take take)
  if take < 64 then
    let block := if wroteOne then block else store block take [0x80]
    if take < 56 then ⟨store block 56 (encodeBE 8 bitLen.toNat), rest.drop take, true, true⟩
    else ⟨block, rest.drop take, true, false⟩
  else ⟨block, rest.drop take, wroteOne, false⟩

/-- The loop, with its work on a block: `none` if it does not end within the fuel. -/
def blockLoop {σ : Type} (work : σ → List UInt8 → σ) (bitLen : UInt64) :
    ℕ → List UInt8 → Bool → σ → Option σ
  | 0, _, _, _ => none
  | fuel + 1, rest, wroteOne, s =>
    let next := nextBlock bitLen rest wroteOne
    let s := work s next.block
    if next.done then some s else blockLoop work bitLen fuel next.rest next.wroteOne s

/-! ### The work on a block -/

def rotr32 (x n : UInt32) : UInt32 := (x >>> n) ||| (x <<< (32 - n))

/-- The array `k`. -/
def k : List UInt32 :=
  [0x428a2f98, 0x71374491, 0xb5c0fbcf, 0xe9b5dba5, 0x3956c25b,
    0x59f111f1, 0x923f82a4, 0xab1c5ed5, 0xd807aa98, 0x12835b01,
    0x243185be, 0x550c7dc3, 0x72be5d74, 0x80deb1fe, 0x9bdc06a7,
    0xc19bf174, 0xe49b69c1, 0xefbe4786, 0x0fc19dc6, 0x240ca1cc,
    0x2de92c6f, 0x4a7484aa, 0x5cb0a9dc, 0x76f988da, 0x983e5152,
    0xa831c66d, 0xb00327c8, 0xbf597fc7, 0xc6e00bf3, 0xd5a79147,
    0x06ca6351, 0x14292967, 0x27b70a85, 0x2e1b2138, 0x4d2c6dfc,
    0x53380d13, 0x650a7354, 0x766a0abb, 0x81c2c92e, 0x92722c85,
    0xa2bfe8a1, 0xa81a664b, 0xc24b8b70, 0xc76c51a3, 0xd192e819,
    0xd6990624, 0xf40e3585, 0x106aa070, 0x19a4c116, 0x1e376c08,
    0x2748774c, 0x34b0bcb5, 0x391c0cb3, 0x4ed8aa4a, 0x5b9cca4f,
    0x682e6ff3, 0x748f82ee, 0x78a5636f, 0x84c87814, 0x8cc70208,
    0x90befffa, 0xa4506ceb, 0xbef9a3f7, 0xc67178f2]

/-- The words of the block: `w` up to the 16th. -/
def loadWords (block : List UInt8) : List UInt32 :=
  (List.range 16).foldl (fun w i => w ++
    [((block.getD (i * 4) 0).toUInt32 <<< 24) ||| ((block.getD (i * 4 + 1) 0).toUInt32 <<< 16) |||
      ((block.getD (i * 4 + 2) 0).toUInt32 <<< 8) ||| (block.getD (i * 4 + 3) 0).toUInt32]) []

/-- The next word of `w`. -/
def extendWord (w : List UInt32) (i : ℕ) : List UInt32 :=
  let s0 := rotr32 (w.getD (i - 15) 0) 7 ^^^ rotr32 (w.getD (i - 15) 0) 18 ^^^
    (w.getD (i - 15) 0 >>> 3)
  let s1 := rotr32 (w.getD (i - 2) 0) 17 ^^^ rotr32 (w.getD (i - 2) 0) 19 ^^^
    (w.getD (i - 2) 0 >>> 10)
  w ++ [w.getD (i - 16) 0 + s0 + w.getD (i - 7) 0 + s1]

/-- All of `w`, which is written in order. -/
def words (block : List UInt8) : List UInt32 :=
  (List.range' 16 48).foldl extendWord (loadWords block)

/-- `a` to `hh`, or the array `h`. -/
structure State where
  a : UInt32
  b : UInt32
  c : UInt32
  d : UInt32
  e : UInt32
  f : UInt32
  g : UInt32
  hh : UInt32

/-- One of the 64 rounds. -/
def roundStep (w : List UInt32) (v : State) (i : ℕ) : State :=
  let S1 := rotr32 v.e 6 ^^^ rotr32 v.e 11 ^^^ rotr32 v.e 25
  let ch := (v.e &&& v.f) ^^^ (~~~v.e &&& v.g)
  let temp1 := v.hh + S1 + ch + k.getD i 0 + w.getD i 0
  let S0 := rotr32 v.a 2 ^^^ rotr32 v.a 13 ^^^ rotr32 v.a 22
  let maj := (v.a &&& v.b) ^^^ (v.a &&& v.c) ^^^ (v.b &&& v.c)
  let temp2 := S0 + maj
  { hh := v.g, g := v.f, f := v.e, e := v.d + temp1, d := v.c, c := v.b, b := v.a,
    a := temp1 + temp2 }

/-- The second half of an iteration. -/
def compressBlock (h : State) (block : List UInt8) : State :=
  let v := (List.range 64).foldl (roundStep (words block)) h
  { a := h.a + v.a, b := h.b + v.b, c := h.c + v.c, d := h.d + v.d, e := h.e + v.e, f := h.f + v.f,
    g := h.g + v.g, hh := h.hh + v.hh }

/-- The array `h` at the start. -/
def initialState : State :=
  ⟨0x6a09e667, 0xbb67ae85, 0x3c6ef372, 0xa54ff53a, 0x510e527f, 0x9b05688c, 0x1f83d9ab, 0x5be0cd19⟩

/-- The bytes that are handed out. -/
def State.out (s : State) : List UInt8 :=
  [s.a, s.b, s.c, s.d, s.e, s.f, s.g, s.hh].flatMap fun x : UInt32 =>
    [((x >>> 24) &&& 0xff).toUInt8, ((x >>> 16) &&& 0xff).toUInt8, ((x >>> 8) &&& 0xff).toUInt8,
      (x &&& 0xff).toUInt8]

/-- `ninlil_mfdt_v1_sha256`. -/
def sha256 (fuel : ℕ) (message : List UInt8) : Option (List UInt8) :=
  (blockLoop compressBlock (UInt64.ofNat message.length * 8) fuel message false initialState).map
    State.out

/-! ### A block of the standard -/

section Compress

/-- A big-endian word, put together from its bytes. -/
theorem word_of_bytes (b0 b1 b2 b3 : UInt8) :
    (b0.toUInt32 <<< 24) ||| (b1.toUInt32 <<< 16) ||| (b2.toUInt32 <<< 8) ||| b3.toUInt32 =
      UInt32.ofNat (decodeBE [b0, b1, b2, b3]) := by
  have h0 := b0.toNat_lt
  have h1 := b1.toNat_lt
  have h2 := b2.toNat_lt
  have h3 := b3.toNat_lt
  have hdecode : decodeBE [b0, b1, b2, b3] =
      2 ^ 8 * (2 ^ 8 * (2 ^ 8 * b0.toNat + b1.toNat) + b2.toNat) + b3.toNat := by
    simp only [decodeBE, List.reverse_cons, List.reverse_nil, List.nil_append, List.cons_append,
      decodeLE]
    omega
  have hshift : ∀ (b : UInt8) (n : UInt32), n.toNat ≤ 24 →
      (b.toUInt32 <<< n).toNat = 2 ^ n.toNat * b.toNat := by
    intro b n hn
    have hb : b.toNat < 2 ^ 8 := b.toNat_lt
    have hlt : b.toNat * 2 ^ n.toNat < 2 ^ 32 :=
      calc b.toNat * 2 ^ n.toNat < 2 ^ 8 * 2 ^ n.toNat :=
            Nat.mul_lt_mul_of_pos_right hb (Nat.two_pow_pos _)
        _ ≤ 2 ^ 8 * 2 ^ 24 := Nat.mul_le_mul_left _ (Nat.pow_le_pow_right (by decide) hn)
    rw [UInt32.toNat_shiftLeft, Nat.mod_eq_of_lt (by omega : n.toNat < 32), UInt8.toNat_toUInt32,
      Nat.shiftLeft_eq, Nat.mod_eq_of_lt hlt, Nat.mul_comm]
  have hor : ∀ i x y, y < 2 ^ i → 2 ^ i * x ||| y = 2 ^ i * x + y :=
    fun i x y hy => (Nat.two_pow_add_eq_or_of_lt hy x).symm
  have e24 : (24 : UInt32).toNat = 24 := rfl
  have e16 : (16 : UInt32).toNat = 16 := rfl
  have e8 : (8 : UInt32).toNat = 8 := rfl
  rw [← UInt32.toNat_inj, hdecode, UInt32.toNat_or, UInt32.toNat_or, UInt32.toNat_or,
    hshift b0 24 (by decide), hshift b1 16 (by decide), hshift b2 8 (by decide), e24, e16, e8,
    UInt8.toNat_toUInt32, hor 24 _ _ (by omega)]
  have hhigh : 2 ^ 24 * b0.toNat + 2 ^ 16 * b1.toNat = 2 ^ 16 * (2 ^ 8 * b0.toNat + b1.toNat) := by
    omega
  rw [hhigh, hor 16 _ _ (by omega)]
  have hmiddle : 2 ^ 16 * (2 ^ 8 * b0.toNat + b1.toNat) + 2 ^ 8 * b2.toNat =
      2 ^ 8 * (2 ^ 8 * (2 ^ 8 * b0.toNat + b1.toNat) + b2.toNat) := by
    omega
  rw [hmiddle, hor 8 _ _ (by omega), UInt32.toNat_ofNat_of_lt' (show _ < 2 ^ 32 by omega)]

/-- The first words of the schedule. -/
theorem loadWords_eq (block : List UInt8) (hblock : block.length = 64) :
    loadWords block = (List.range 16).map (Sha256.word block) := by
  have hslice : ∀ t, t < 16 → slice block (4 * t) 4 = [block.getD (t * 4) 0,
      block.getD (t * 4 + 1) 0, block.getD (t * 4 + 2) 0, block.getD (t * 4 + 3) 0] := by
    intro t ht
    refine List.ext_getElem ?_ fun i hi hi' => ?_
    · rw [length_slice_of_le (by omega)]
      rfl
    · have hin : i < 4 := hi'
      have hget : (slice block (4 * t) 4)[i] = block.getD (t * 4 + i) 0 := by
        have hlt : t * 4 + i < block.length := by omega
        simp only [slice, List.getElem_take, List.getElem_drop]
        rw [List.getD_eq_getElem _ _ hlt]
        simp only [Nat.mul_comm t 4]
      rw [hget]
      rcases i with _ | _ | _ | _ | i
      · rfl
      · rfl
      · rfl
      · rfl
      · omega
  have happend : ∀ (f : ℕ → UInt32) (l : List ℕ) (w : List UInt32),
      l.foldl (fun w i => w ++ [f i]) w = w ++ l.map f := by
    intro f l
    induction l with
    | nil => simp
    | cons i l ih => simp [ih]
  unfold loadWords
  rw [happend, List.nil_append]
  refine List.map_congr_left fun t ht => ?_
  rw [word_of_bytes, Sha256.word, hslice t (List.mem_range.1 ht)]

theorem getD_map_range {f : ℕ → UInt32} {n t : ℕ} (h : t < n) :
    ((List.range n).map f).getD t 0 = f t := by
  simp [h]

/-- One more word of the schedule. -/
theorem extendWord_eq (block : List UInt8) {n : ℕ} (h : 16 ≤ n) :
    extendWord ((List.range n).map (Sha256.schedule block)) n =
      (List.range (n + 1)).map (Sha256.schedule block) := by
  have hnext : Sha256.schedule block n = Sha256.smallSigma1 (Sha256.schedule block (n - 2)) +
      Sha256.schedule block (n - 7) + Sha256.smallSigma0 (Sha256.schedule block (n - 15)) +
      Sha256.schedule block (n - 16) := by
    rw [Sha256.schedule, if_neg (by omega)]
  unfold extendWord
  rw [getD_map_range (by omega), getD_map_range (by omega), getD_map_range (by omega),
    getD_map_range (by omega), List.range_succ, List.map_append, List.map_singleton, hnext]
  generalize Sha256.schedule block (n - 2) = w2
  generalize Sha256.schedule block (n - 7) = w7
  generalize Sha256.schedule block (n - 15) = w15
  generalize Sha256.schedule block (n - 16) = w16
  have hsum : w16 + Sha256.smallSigma0 w15 + w7 + Sha256.smallSigma1 w2 =
      Sha256.smallSigma1 w2 + w7 + Sha256.smallSigma0 w15 + w16 := by
    ac_rfl
  rw [← hsum]
  rfl

/-- **The words of a block are its schedule.** -/
theorem words_eq (block : List UInt8) (hblock : block.length = 64) :
    words block = (List.range 64).map (Sha256.schedule block) := by
  have hload : loadWords block = (List.range 16).map (Sha256.schedule block) := by
    rw [loadWords_eq block hblock]
    refine List.map_congr_left fun t ht => ?_
    rw [Sha256.schedule, if_pos (List.mem_range.1 ht)]
  have hextend : ∀ n, (List.range' 16 n).foldl extendWord (loadWords block) =
      (List.range (16 + n)).map (Sha256.schedule block) := by
    intro n
    induction n with
    | zero => rw [List.range'_zero, List.foldl_nil, hload, Nat.add_zero]
    | succ n ih =>
      rw [List.range'_concat, List.foldl_append, ih, Nat.one_mul, List.foldl_cons, List.foldl_nil,
        extendWord_eq block (Nat.le_add_right 16 n), Nat.add_assoc]
  unfold words
  rw [hextend 48]

/-- The working variables, as the standard names them. -/
def State.toWords (s : State) : Sha256.Words := ⟨s.a, s.b, s.c, s.d, s.e, s.f, s.g, s.hh⟩

/-- One round. -/
theorem toWords_roundStep {w : List UInt32} {W : ℕ → UInt32} {i : ℕ} (h : w.getD i 0 = W i)
    (s : State) : (roundStep w s i).toWords = Sha256.round W s.toWords i := by
  unfold roundStep Sha256.round State.toWords
  rw [h]
  rfl

/-- The rounds. -/
theorem toWords_foldl {w : List UInt32} {W : ℕ → UInt32} (l : List ℕ)
    (h : ∀ i ∈ l, w.getD i 0 = W i) (s : State) :
    (l.foldl (roundStep w) s).toWords = l.foldl (Sha256.round W) s.toWords := by
  induction l generalizing s with
  | nil => rfl
  | cons i l ih =>
    rw [List.foldl_cons, List.foldl_cons, ih (fun j hj => h j (List.mem_cons_of_mem i hj)),
      toWords_roundStep (h i List.mem_cons_self)]

/-- **The work on a block is that of the standard.** -/
theorem toWords_compressBlock (s : State) (block : List UInt8) (hblock : block.length = 64) :
    (compressBlock s block).toWords = Sha256.compress s.toWords block := by
  have hwords : ∀ i ∈ List.range 64, (words block).getD i 0 = Sha256.schedule block i := by
    intro i hi
    rw [words_eq block hblock]
    exact getD_map_range (List.mem_range.1 hi)
  have hrounds := toWords_foldl (List.range 64) hwords s
  unfold Sha256.compress
  rw [← hrounds]
  unfold compressBlock State.toWords
  simp only [UInt32.add_comm]

end Compress

/-! ### The loop -/

section Loop

variable {σ : Type} {work : σ → List UInt8 → σ} {bitLen : UInt64} {rest : List UInt8}

/-- The padded rest of a message: a one bit, zeros, and the length of all of it. -/
def padRest (bitLen : UInt64) (rest : List UInt8) : List UInt8 :=
  rest ++ (0x80 :: (List.replicate (Sha256.padZeros rest.length) 0 ++ encodeBE 8 bitLen.toNat))

/-- What is stored over zeros. -/
theorem store_zeros {pre bytes : List UInt8} {n : ℕ} (h : bytes.length ≤ n) :
    store (pre ++ List.replicate n 0) pre.length bytes =
      pre ++ (bytes ++ List.replicate (n - bytes.length) 0) := by
  have hdrop : (pre ++ List.replicate n (0 : UInt8)).drop (pre.length + bytes.length) =
      List.replicate (n - bytes.length) 0 := by
    rw [← List.drop_drop, List.drop_left, List.drop_replicate]
  rw [store_eq_append (by simpa using h), List.take_left, hdrop]

theorem store_cleared {bytes : List UInt8} (h : bytes.length ≤ 64) :
    store (List.replicate 64 0) 0 bytes = bytes ++ List.replicate (64 - bytes.length) 0 := by
  have hstore := @store_zeros [] bytes 64 h
  rwa [List.nil_append, List.nil_append] at hstore

/-- A whole block of the message. -/
theorem nextBlock_full (wroteOne : Bool) (h : 64 ≤ rest.length) :
    nextBlock bitLen rest wroteOne = ⟨rest.take 64, rest.drop 64, wroteOne, false⟩ := by
  have htake : (if 64 < rest.length then 64 else rest.length) = 64 := by
    split_ifs <;> omega
  have hlength : (rest.take 64).length = 64 := by
    rw [List.length_take]
    omega
  unfold nextBlock
  simp only [htake, lt_irrefl, if_false]
  rw [store_cleared (Nat.le_of_eq hlength), hlength, Nat.sub_self, List.replicate_zero,
    List.append_nil]

/-- The end of the message, with its one bit. -/
theorem store_one (h : rest.length < 64) :
    store (store (List.replicate 64 0) 0 (rest.take rest.length)) rest.length [0x80] =
      rest ++ (0x80 :: List.replicate (63 - rest.length) 0) := by
  have hone : [(0x80 : UInt8)].length ≤ 64 - rest.length := by
    rw [List.length_singleton]
    omega
  rw [List.take_length, store_cleared (Nat.le_of_lt h), store_zeros hone]
  have hzeros : 64 - rest.length - [(0x80 : UInt8)].length = 63 - rest.length := by
    rw [List.length_singleton]
    omega
  rw [hzeros]
  rfl

/-- The end of the message, with room for its length. -/
theorem nextBlock_last (h : rest.length < 56) :
    nextBlock bitLen rest false = ⟨padRest bitLen rest, [], true, true⟩ := by
  have htake : (if 64 < rest.length then 64 else rest.length) = rest.length :=
    if_neg (by omega)
  have hzeros : Sha256.padZeros rest.length = 55 - rest.length := by
    unfold Sha256.padZeros
    omega
  have hsplit : List.replicate (63 - rest.length) (0 : UInt8) =
      List.replicate (55 - rest.length) 0 ++ List.replicate 8 0 := by
    rw [← List.replicate_add]
    congr 1
    omega
  have hbefore : (rest ++ (0x80 :: List.replicate (55 - rest.length) (0 : UInt8))).length = 56 := by
    simp only [List.length_append, List.length_cons, List.length_replicate]
    omega
  have hstore := @store_zeros (rest ++ (0x80 :: List.replicate (55 - rest.length) 0))
    (encodeBE 8 bitLen.toNat) 8 (Nat.le_of_eq (length_encodeBE 8 _))
  rw [hbefore, length_encodeBE, Nat.sub_self, List.replicate_zero, List.append_nil] at hstore
  unfold nextBlock padRest
  simp only [htake, if_pos (show rest.length < 64 by omega), if_pos h, Bool.false_eq_true, if_false,
    List.drop_length]
  rw [store_one (by omega), hsplit, hzeros]
  simp only [List.append_assoc, List.cons_append] at hstore
  rw [hstore]

/-- The end of the message, without room for its length. -/
theorem nextBlock_spill (h : 56 ≤ rest.length) (h' : rest.length < 64) :
    nextBlock bitLen rest false =
      ⟨rest ++ (0x80 :: List.replicate (63 - rest.length) 0), [], true, false⟩ := by
  have htake : (if 64 < rest.length then 64 else rest.length) = rest.length :=
    if_neg (by omega)
  unfold nextBlock
  simp only [htake, if_pos h', if_neg (show ¬ rest.length < 56 by omega), Bool.false_eq_true,
    if_false, List.drop_length]
  rw [store_one h']

/-- The length alone. -/
theorem nextBlock_length :
    nextBlock bitLen [] true =
      ⟨List.replicate 56 0 ++ encodeBE 8 bitLen.toNat, [], true, true⟩ := by
  have hstore := @store_zeros (List.replicate 56 0) (encodeBE 8 bitLen.toNat) 8
    (Nat.le_of_eq (length_encodeBE 8 _))
  rw [List.length_replicate, length_encodeBE, Nat.sub_self, List.replicate_zero, List.append_nil,
    ← List.replicate_add] at hstore
  have hcleared : store (List.replicate 64 0) 0 ([] : List UInt8) = List.replicate (56 + 8) 0 := by
    rw [store_cleared (show ([] : List UInt8).length ≤ 64 by decide)]
    rfl
  unfold nextBlock
  simp only [List.length_nil, Nat.not_lt_zero, if_false, List.take_zero, hcleared, hstore,
    List.drop_nil, if_true, Nat.zero_lt_succ]

/-- Whole blocks come off the padded rest. -/
theorem padRest_full (h : 64 ≤ rest.length) :
    padRest bitLen rest = rest.take 64 ++ padRest bitLen (rest.drop 64) := by
  have hzeros : Sha256.padZeros (rest.drop 64).length = Sha256.padZeros rest.length := by
    unfold Sha256.padZeros
    rw [List.length_drop]
    omega
  unfold padRest
  rw [hzeros, ← List.append_assoc, List.take_append_drop]

/-- Without room for the length there are two more blocks. -/
theorem padRest_spill (h : 56 ≤ rest.length) (h' : rest.length < 64) :
    padRest bitLen rest = (rest ++ (0x80 :: List.replicate (63 - rest.length) 0)) ++
      (List.replicate 56 0 ++ encodeBE 8 bitLen.toNat) := by
  have hzeros : Sha256.padZeros rest.length = (63 - rest.length) + 56 := by
    unfold Sha256.padZeros
    omega
  unfold padRest
  rw [hzeros, List.replicate_add]
  simp only [List.append_assoc, List.cons_append]

/-- **The loop ends, and works on the blocks of the padded message**, in order. -/
theorem blockLoop_eq (work : σ → List UInt8 → σ) (bitLen : UInt64) {fuel : ℕ}
    (rest : List UInt8) (hfuel : rest.length / 64 + 2 ≤ fuel) (s : σ) :
    blockLoop work bitLen fuel rest false s =
      some ((Sha256.blocks (padRest bitLen rest)).foldl work s) := by
  have hone : ∀ block : List UInt8, block.length = 64 → Sha256.blocks block = [block] := by
    intro block hblock
    have happend := @Sha256.blocks_append block [] hblock
    rwa [List.append_nil] at happend
  induction fuel generalizing rest s with
  | zero => omega
  | succ fuel ih =>
    rcases Nat.lt_or_ge rest.length 56 with hlast | hlong
    · have hlength : (padRest bitLen rest).length = 64 := by
        unfold padRest Sha256.padZeros
        simp only [List.length_append, List.length_cons, List.length_replicate, length_encodeBE]
        omega
      rw [blockLoop, nextBlock_last hlast, hone _ hlength]
      rfl
    rcases Nat.lt_or_ge rest.length 64 with hspill | hfull
    · obtain ⟨fuel, rfl⟩ : ∃ n, fuel = n + 1 := ⟨fuel - 1, by omega⟩
      have hfirst : (rest ++ (0x80 :: List.replicate (63 - rest.length) (0 : UInt8))).length =
          64 := by
        simp only [List.length_append, List.length_cons, List.length_replicate]
        omega
      have hsecond : (List.replicate 56 0 ++ encodeBE 8 bitLen.toNat).length = 64 := by
        rw [List.length_append, List.length_replicate, length_encodeBE]
      rw [blockLoop, nextBlock_spill hlong hspill, padRest_spill hlong hspill,
        Sha256.blocks_append hfirst, hone _ hsecond]
      dsimp only
      rw [if_neg Bool.false_ne_true, blockLoop, nextBlock_length]
      rfl
    · have hblock : (rest.take 64).length = 64 := by
        rw [List.length_take]
        omega
      rw [blockLoop, nextBlock_full false hfull, padRest_full hfull, Sha256.blocks_append hblock,
        List.foldl_cons]
      dsimp only
      rw [if_neg Bool.false_ne_true]
      exact ih _ (by
        rw [List.length_drop]
        omega) _

end Loop

/-! ### The hash -/

/-- The bit length, as 64 bits. -/
theorem encode_bitLen (n : ℕ) : encodeBE 8 (UInt64.ofNat n * 8).toNat = encodeBE 8 (8 * n) := by
  have hlow : decodeBE (encodeBE 8 (8 * n)) = 8 * n % 256 ^ 8 := by
    unfold decodeBE encodeBE
    rw [List.reverse_reverse, decodeLE_encodeLE]
  have hbits : (UInt64.ofNat n * 8).toNat = 8 * n % 256 ^ 8 := by
    have height : (8 : UInt64).toNat = 8 := rfl
    rw [UInt64.toNat_mul, UInt64.toNat_ofNat', height]
    omega
  have hencode := encodeBE_decodeBE (encodeBE 8 (8 * n))
  rw [length_encodeBE, hlow, ← hbits] at hencode
  exact hencode

/-- A word is handed out with its highest byte first. -/
theorem bytes_of_word (x : UInt32) :
    [((x >>> 24) &&& 0xff).toUInt8, ((x >>> 16) &&& 0xff).toUInt8, ((x >>> 8) &&& 0xff).toUInt8,
      (x &&& 0xff).toUInt8] = encodeBE 4 x.toNat := by
  have hbyte : ∀ y : UInt32, (y &&& 0xff).toUInt8 = UInt8.ofNat y.toNat := by
    intro y
    have hmask : (0xff : UInt32).toNat = 2 ^ 8 - 1 := rfl
    rw [← UInt8.toNat_inj, UInt32.toNat_toUInt8, UInt32.toNat_and, hmask,
      Nat.and_two_pow_sub_one_eq_mod, UInt8.toNat_ofNat', Nat.mod_mod]
  have hshift : ∀ n : UInt32, n.toNat < 32 → (x >>> n).toNat = x.toNat / 2 ^ n.toNat := by
    intro n hn
    rw [UInt32.toNat_shiftRight, Nat.mod_eq_of_lt hn, Nat.shiftRight_eq_div_pow]
  have e24 : (24 : UInt32).toNat = 24 := rfl
  have e16 : (16 : UInt32).toNat = 16 := rfl
  have e8 : (8 : UInt32).toNat = 8 := rfl
  rw [hbyte, hbyte, hbyte, hbyte, hshift 24 (by decide), hshift 16 (by decide),
    hshift 8 (by decide), e24, e16, e8]
  simp only [encodeBE, encodeLE, List.reverse_cons, List.reverse_nil, List.nil_append,
    List.cons_append, Nat.div_div_eq_div_mul, Nat.reduceMul, Nat.reducePow]

theorem out_eq (s : State) : s.out = s.toWords.toList.flatMap fun w => encodeBE 4 w.toNat := by
  unfold State.out State.toWords Sha256.Words.toList
  simp only [bytes_of_word]

/-- Blocks of the padded message are whole. -/
theorem length_of_mem_blocks {bytes block : List UInt8} (h : block ∈ Sha256.blocks bytes) :
    block.length = 64 := by
  obtain ⟨i, hi, rfl⟩ := List.mem_map.1 h
  have hlt := List.mem_range.1 hi
  exact length_slice_of_le (by omega)

/-- **SHA-256 of the transport.** For every message the loop ends; it works on the blocks of the
padded message of the standard, in order, whatever that work is; and the bytes handed out are the
hash of the standard. -/
theorem sha256_standard (message : List UInt8) {fuel : ℕ}
    (hfuel : message.length / 64 + 2 ≤ fuel) :
    (∀ {σ : Type} (work : σ → List UInt8 → σ) (s : σ),
      blockLoop work (UInt64.ofNat message.length * 8) fuel message false s =
        some ((Sha256.blocks (Sha256.pad message)).foldl work s)) ∧
    sha256 fuel message = some (Sha256.hash message) := by
  have hpad : padRest (UInt64.ofNat message.length * 8) message = Sha256.pad message := by
    unfold padRest Sha256.pad
    rw [encode_bitLen]
  have hloop : ∀ {σ : Type} (work : σ → List UInt8 → σ) (s : σ),
      blockLoop work (UInt64.ofNat message.length * 8) fuel message false s =
        some ((Sha256.blocks (Sha256.pad message)).foldl work s) := by
    intro σ work s
    rw [blockLoop_eq work _ message hfuel s, hpad]
  have hfold : ∀ (l : List (List UInt8)) (s : State), (∀ block ∈ l, block.length = 64) →
      (l.foldl compressBlock s).toWords = l.foldl Sha256.compress s.toWords := by
    intro l
    induction l with
    | nil => exact fun _ _ => rfl
    | cons block l ih =>
      intro s hl
      rw [List.foldl_cons, List.foldl_cons, ih _ fun b hb => hl b (List.mem_cons_of_mem block hb),
        toWords_compressBlock s block (hl block List.mem_cons_self)]
  refine ⟨hloop, ?_⟩
  unfold sha256 Sha256.hash Sha256.hashWords
  rw [hloop, Option.map_some, out_eq, hfold _ _ fun block hb => length_of_mem_blocks hb]
  rfl

/-- A message that fills its block but for one byte, and one that leaves just enough room. -/
theorem sha256_standard_residues :
    sha256 2 (List.replicate 63 0x61) = some (Sha256.hash (List.replicate 63 0x61)) ∧
      sha256 2 (List.replicate 55 0x61) = some (Sha256.hash (List.replicate 55 0x61)) :=
  ⟨(sha256_standard (List.replicate 63 0x61) (by decide)).2,
    (sha256_standard (List.replicate 55 0x61) (by decide)).2⟩

end Crypto
end Ninlil.Mfdt
