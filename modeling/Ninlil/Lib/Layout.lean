import Mathlib.Data.List.OfFn
import Ninlil.Lib.Cursor

/-!
# Records of a fixed layout

Records whose fields stand at given offsets.

* `getU16Be`, `getU32Be`, `getU64Be`, `getVector`: a field read at its offset, with the lemmas that
  say which bytes it was written as;
* `chop`: the fields of given widths, one after the other;
* `chop_flatten`, `flatten_chop`: the fields of a record written, and the record of the fields read.
-/

namespace Ninlil.Bytes

/-! ### Fields at an offset -/

def getU16Be (bytes : List UInt8) (offset : ℕ) : UInt16 :=
  UInt16.ofNat (decodeBE (slice bytes offset 2))

def getU32Be (bytes : List UInt8) (offset : ℕ) : UInt32 :=
  UInt32.ofNat (decodeBE (slice bytes offset 4))

def getU64Be (bytes : List UInt8) (offset : ℕ) : UInt64 :=
  UInt64.ofNat (decodeBE (slice bytes offset 8))

/-- As many bytes as the field has. -/
def getVector (n : ℕ) (bytes : List UInt8) (offset : ℕ) : Vector UInt8 n :=
  Vector.ofFn fun i => bytes.getD (offset + i) 0

section Fields

variable {bytes pre post : List UInt8} {offset n : ℕ}

/-! Fields that were written are read back. -/

theorem getU16Be_of_slice {v : UInt16} (h : slice bytes offset 2 = encodeBE 2 v.toNat) :
    getU16Be bytes offset = v := by
  unfold getU16Be
  rw [h, decodeBE_encodeBE_of_lt v.toNat_lt, UInt16.ofNat_toNat]

theorem getU32Be_of_slice {v : UInt32} (h : slice bytes offset 4 = encodeBE 4 v.toNat) :
    getU32Be bytes offset = v := by
  unfold getU32Be
  rw [h, decodeBE_encodeBE_of_lt v.toNat_lt, UInt32.ofNat_toNat]

theorem getU64Be_of_slice {v : UInt64} (h : slice bytes offset 8 = encodeBE 8 v.toNat) :
    getU64Be bytes offset = v := by
  unfold getU64Be
  rw [h, decodeBE_encodeBE_of_lt v.toNat_lt, UInt64.ofNat_toNat]

theorem getU16Be_field (v : UInt16) (h : pre.length = offset) :
    getU16Be (pre ++ (encodeBE 2 v.toNat ++ post)) offset = v :=
  getU16Be_of_slice (slice_field h (length_encodeBE 2 _))

theorem getU32Be_field (v : UInt32) (h : pre.length = offset) :
    getU32Be (pre ++ (encodeBE 4 v.toNat ++ post)) offset = v :=
  getU32Be_of_slice (slice_field h (length_encodeBE 4 _))

/-! Fields that were read are written back. -/

theorem encode_getU16Be (h : offset + 2 ≤ bytes.length) :
    encodeBE 2 (getU16Be bytes offset).toNat = slice bytes offset 2 := by
  have hlen := length_slice_of_le h
  have hlt := decodeBE_lt (slice bytes offset 2)
  have henc := encodeBE_decodeBE (slice bytes offset 2)
  rw [hlen] at hlt henc
  unfold getU16Be
  rw [UInt16.toNat_ofNat_of_lt' hlt, henc]

theorem encode_getU32Be (h : offset + 4 ≤ bytes.length) :
    encodeBE 4 (getU32Be bytes offset).toNat = slice bytes offset 4 := by
  have hlen := length_slice_of_le h
  have hlt := decodeBE_lt (slice bytes offset 4)
  have henc := encodeBE_decodeBE (slice bytes offset 4)
  rw [hlen] at hlt henc
  unfold getU32Be
  rw [UInt32.toNat_ofNat_of_lt' hlt, henc]

theorem encode_getU64Be (h : offset + 8 ≤ bytes.length) :
    encodeBE 8 (getU64Be bytes offset).toNat = slice bytes offset 8 := by
  have hlen := length_slice_of_le h
  have hlt := decodeBE_lt (slice bytes offset 8)
  have henc := encodeBE_decodeBE (slice bytes offset 8)
  rw [hlen] at hlt henc
  unfold getU64Be
  rw [UInt64.toNat_ofNat_of_lt' hlt, henc]

theorem toList_getVector (h : offset + n ≤ bytes.length) :
    (getVector n bytes offset).toList = slice bytes offset n := by
  refine List.ext_getElem ?_ fun i hi hi' => ?_
  · rw [Vector.length_toList, length_slice_of_le h]
  · have hin : i < n := by
      rwa [Vector.length_toList] at hi
    have hlt : offset + i < bytes.length := by omega
    have hget : (slice bytes offset n)[i] = bytes[offset + i] := by
      simp only [slice, List.getElem_take, List.getElem_drop]
    rw [hget]
    unfold getVector
    simp [hlt]

theorem getVector_of_slice {v : Vector UInt8 n} (h : slice bytes offset n = v.toList) :
    getVector n bytes offset = v := by
  have hlen := congrArg List.length h
  rw [Vector.length_toList, slice, List.length_take, List.length_drop] at hlen
  by_cases hn : n = 0
  · subst hn
    exact Vector.eq_empty.trans Vector.eq_empty.symm
  · refine Vector.toList_inj.1 ?_
    rw [toList_getVector (by omega), h]

end Fields

/-! ### All fields -/

/-- The fields of given widths, one after the other, from an offset on. -/
def chop : ℕ → List ℕ → List UInt8 → List (List UInt8)
  | _, [], _ => []
  | offset, w :: ws, bytes => slice bytes offset w :: chop (offset + w) ws bytes

/-- The fields of a record are the ones that it was made of. -/
theorem chop_flatten {pre : List UInt8} (blocks : List (List UInt8)) (rest : List UInt8) :
    chop pre.length (blocks.map List.length) (pre ++ (blocks.flatten ++ rest)) = blocks := by
  induction blocks generalizing pre with
  | nil => rfl
  | cons b blocks ih =>
    have htail := @ih (pre ++ b)
    rw [List.length_append, List.append_assoc] at htail
    rw [List.flatten_cons, List.append_assoc, List.map_cons, chop, htail, slice_field rfl rfl]

/-- A record is made of its fields. -/
theorem flatten_chop {offset : ℕ} (ws : List ℕ) (bytes : List UInt8) :
    (chop offset ws bytes).flatten = slice bytes offset ws.sum := by
  induction ws generalizing offset with
  | nil =>
    unfold slice
    rw [List.sum_nil, List.take_zero]
    rfl
  | cons w ws ih => rw [chop, List.flatten_cons, ih, slice_append_slice, List.sum_cons]

/-- A record is made of given fields exactly if they are the ones it is read as. -/
theorem flatten_eq_iff {blocks : List (List UInt8)} {ws : List ℕ} {bytes : List UInt8}
    (hws : blocks.map List.length = ws) (hlen : bytes.length = ws.sum) :
    blocks.flatten = bytes ↔ blocks = chop 0 ws bytes := by
  constructor
  · rintro rfl
    have hchop := @chop_flatten [] blocks []
    rw [List.nil_append, List.append_nil, hws] at hchop
    exact hchop.symm
  · rintro rfl
    rw [flatten_chop, slice_self hlen]

/-- A field of one byte. -/
theorem singleton_getD {bytes : List UInt8} {offset : ℕ} (h : offset < bytes.length) :
    [bytes.getD offset 0] = slice bytes offset 1 := by
  refine List.ext_getElem ?_ fun i hi _ => ?_
  · rw [length_slice_of_le h, List.length_singleton]
  · obtain rfl : i = 0 := Nat.lt_one_iff.1 hi
    simp [slice, h]

end Ninlil.Bytes
