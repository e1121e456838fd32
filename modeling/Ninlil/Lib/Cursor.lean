import Ninlil.Lib.Bytes

/-!
# Big-endian records

Records whose fields are written one after the other and read back in the same order.

* `encodeBE`, `decodeBE`: big-endian numbers of a given width;
* `getBytes`, `getBE`: taking a field from the front of the unread bytes, with the lemma that a
  field just written is read back and the rest is left;
* `slice_field`: a field of a record read at its offset.
-/

namespace Ninlil.Bytes

/-! ### Numbers -/

/-- The low `width` bytes of `n`, the highest first. -/
def encodeBE (width n : ℕ) : List UInt8 := (encodeLE width n).reverse

/-- The number whose bytes, the highest first, are given. -/
def decodeBE (bytes : List UInt8) : ℕ := decodeLE bytes.reverse

@[simp] theorem length_encodeBE (width n : ℕ) : (encodeBE width n).length = width := by
  simp [encodeBE]

theorem decodeBE_encodeBE_of_lt {width n : ℕ} (h : n < 256 ^ width) :
    decodeBE (encodeBE width n) = n := by
  rw [decodeBE, encodeBE, List.reverse_reverse, decodeLE_encodeLE_of_lt h]

theorem decodeBE_lt (bs : List UInt8) : decodeBE bs < 256 ^ bs.length := by
  have h := decodeLE_lt bs.reverse
  rwa [List.length_reverse] at h

theorem encodeBE_decodeBE (bs : List UInt8) : encodeBE bs.length (decodeBE bs) = bs := by
  have h := encodeLE_decodeLE bs.reverse
  rw [List.length_reverse] at h
  rw [encodeBE, decodeBE, h, List.reverse_reverse]

/-! ### Reading in order -/

/-- The next `n` bytes and what is left. -/
def getBytes (n : ℕ) (bytes : List UInt8) : List UInt8 × List UInt8 :=
  (bytes.take n, bytes.drop n)

/-- The next number of `width` bytes and what is left. -/
def getBE (width : ℕ) (bytes : List UInt8) : ℕ × List UInt8 :=
  (decodeBE (bytes.take width), bytes.drop width)

theorem getBytes_append {n : ℕ} {field rest : List UInt8} (h : field.length = n) :
    getBytes n (field ++ rest) = (field, rest) := by
  subst h
  rw [getBytes, List.take_left, List.drop_left]

theorem getBE_append {width n : ℕ} (h : n < 256 ^ width) (rest : List UInt8) :
    getBE width (encodeBE width n ++ rest) = (n, rest) := by
  have hlen : (encodeBE width n).length = width := length_encodeBE width n
  rw [getBE, List.take_left' hlen, List.drop_left' hlen, decodeBE_encodeBE_of_lt h]

/-! ### Reading at an offset -/

/-- A field is the slice at its offset, whatever stands before and after it. -/
theorem slice_field {pre field post : List UInt8} {offset n : ℕ} (hpre : pre.length = offset)
    (hn : field.length = n) : slice (pre ++ (field ++ post)) offset n = field := by
  rw [← List.append_assoc]
  exact slice_append_mid hpre hn

/-- So is the first field of a record. -/
theorem slice_first {field post : List UInt8} {n : ℕ} (hn : field.length = n) :
    slice (field ++ post) 0 n = field := by
  subst hn
  simp [slice]

end Ninlil.Bytes
