import Mathlib
import Ninlil.Lib.Sizes

/-!
# Byte images

Fixed-size byte images that are written and read at offsets, as in a `memset` followed by stores.

* `encodeLE`, `decodeLE`: little-endian numbers of a given width, with both round trips;
* `slice`, `store`: reading and overwriting a range, with the lemmas that evaluate a slice of a
  chain of stores;
* `slice_append_slice`, `take_eq_slice`: an image is put together from its slices;
* `bytesCompare`: the order of `memcmp`, with ties broken by length.
-/

namespace Ninlil.Bytes

/-! ### Numbers -/

/-- The low `width` bytes of `n`, the lowest first. -/
def encodeLE : ℕ → ℕ → List UInt8
  | 0, _ => []
  | width + 1, n => UInt8.ofNat n :: encodeLE width (n / 256)

/-- The number whose bytes, the lowest first, are given. -/
def decodeLE : List UInt8 → ℕ
  | [] => 0
  | b :: bs => b.toNat + 256 * decodeLE bs

@[simp] theorem length_encodeLE (width n : ℕ) : (encodeLE width n).length = width := by
  induction width generalizing n with
  | zero => rfl
  | succ width ih => simp [encodeLE, ih]

theorem decodeLE_lt (bs : List UInt8) : decodeLE bs < 256 ^ bs.length := by
  induction bs with
  | nil => simp [decodeLE]
  | cons b bs ih =>
    have hb : b.toNat < 256 := b.toNat_lt
    rw [decodeLE, List.length_cons, pow_succ]
    omega

theorem decodeLE_encodeLE (width n : ℕ) : decodeLE (encodeLE width n) = n % 256 ^ width := by
  induction width generalizing n with
  | zero => simp [encodeLE, decodeLE, Nat.mod_one]
  | succ width ih =>
    have hbyte : (UInt8.ofNat n).toNat = n % 256 := UInt8.toNat_ofNat'
    rw [encodeLE, decodeLE, ih, hbyte, Nat.pow_succ', Nat.mod_mul]

theorem decodeLE_encodeLE_of_lt {width n : ℕ} (h : n < 256 ^ width) :
    decodeLE (encodeLE width n) = n := by
  rw [decodeLE_encodeLE, Nat.mod_eq_of_lt h]

theorem encodeLE_decodeLE (bs : List UInt8) : encodeLE bs.length (decodeLE bs) = bs := by
  induction bs with
  | nil => rfl
  | cons b bs ih =>
    have hb : b.toNat < 256 := b.toNat_lt
    have hlow : UInt8.ofNat (b.toNat + 256 * decodeLE bs) = b := by
      rw [← UInt8.toNat_inj, UInt8.toNat_ofNat']
      omega
    have hhigh : (b.toNat + 256 * decodeLE bs) / 256 = decodeLE bs := by omega
    rw [decodeLE, List.length_cons, encodeLE, hlow, hhigh, ih]

/-! ### Ranges -/

/-- The `n` bytes of an image from `offset` on. -/
def slice (image : List UInt8) (offset n : ℕ) : List UInt8 := (image.drop offset).take n

/-- The image with the bytes from `offset` on overwritten. -/
def store (image : List UInt8) (offset : ℕ) (bytes : List UInt8) : List UInt8 :=
  image.mapIdx fun j b =>
    if offset ≤ j ∧ j < offset + bytes.length then bytes.getD (j - offset) 0 else b

variable {image bytes : List UInt8} {offset o n k : ℕ}

theorem length_slice_of_le (h : offset + n ≤ image.length) : (slice image offset n).length = n := by
  simp only [slice, List.length_take, List.length_drop]
  omega

@[simp] theorem length_store : (store image offset bytes).length = image.length := by
  simp [store]

theorem getElem?_slice (j : ℕ) :
    (slice image offset n)[j]? = if j < n then image[offset + j]? else none := by
  simp [slice, List.getElem?_take]

theorem getElem?_store (j : ℕ) :
    (store image offset bytes)[j]? =
      image[j]?.map fun b =>
        if offset ≤ j ∧ j < offset + bytes.length then bytes.getD (j - offset) 0 else b := by
  simp [store]

/-- A store is invisible outside its range. -/
theorem slice_store_of_disjoint (h : o + n ≤ offset ∨ offset + bytes.length ≤ o) :
    slice (store image offset bytes) o n = slice image o n := by
  apply List.ext_getElem?
  intro j
  simp only [getElem?_slice, getElem?_store]
  by_cases hj : j < n
  · have hout : ¬(offset ≤ o + j ∧ o + j < offset + bytes.length) := by omega
    simp [hj, hout]
  · simp [hj]

/-- A store is read back. -/
theorem slice_store_self (hn : bytes.length = n) (h : offset + n ≤ image.length) :
    slice (store image offset bytes) offset n = bytes := by
  subst hn
  apply List.ext_getElem?
  intro j
  simp only [getElem?_slice, getElem?_store]
  by_cases hj : j < bytes.length
  · have hin : offset + j < image.length := by omega
    simp [List.getElem?_eq_getElem hin, hj]
  · rw [if_neg hj, List.getElem?_eq_none (by omega)]

theorem slice_slice (h : o + k ≤ n) :
    slice (slice image offset n) o k = slice image (offset + o) k := by
  apply List.ext_getElem?
  intro j
  simp only [getElem?_slice]
  split_ifs with h1 h2
  · rw [Nat.add_assoc]
  · omega
  · rfl

theorem slice_replicate (b : UInt8) (h : offset + n ≤ k) :
    slice (List.replicate k b) offset n = List.replicate n b := by
  simp only [slice, List.drop_replicate, List.take_replicate]
  congr 1
  omega

/-- The part of a slice after a store that ends inside it. -/
theorem slice_append_slice : slice image offset n ++ slice image (offset + n) k =
    slice image offset (n + k) := by
  simp only [slice]
  rw [← List.drop_drop, List.take_add]

theorem take_eq_slice : image.take n = slice image 0 n := rfl

theorem slice_self (h : image.length = n) : slice image 0 n = image := by
  simp [slice, ← h]

theorem slice_append_left (h : offset + n ≤ image.length) :
    slice (image ++ bytes) offset n = slice image offset n := by
  apply List.ext_getElem?
  intro j
  simp only [getElem?_slice]
  split_ifs with hj
  · rw [List.getElem?_append_left (by omega)]
  · rfl

theorem slice_append_right (h : image.length ≤ offset) :
    slice (image ++ bytes) offset n = slice bytes (offset - image.length) n := by
  apply List.ext_getElem?
  intro j
  simp only [getElem?_slice]
  split_ifs with hj
  · rw [List.getElem?_append_right (by omega)]
    congr 1
    omega
  · rfl

/-- A part of a concatenation is its slice. -/
theorem slice_append_mid {pre mid post : List UInt8} (ho : pre.length = o) (hn : mid.length = n) :
    slice (pre ++ mid ++ post) o n = mid := by
  rw [slice_append_left (by simp; omega), slice_append_right (by omega)]
  rw [show o - pre.length = 0 by omega, slice_self hn]

theorem slice_take (h : offset + n ≤ k) : slice (image.take k) offset n = slice image offset n := by
  rw [take_eq_slice, slice_slice (by omega), Nat.zero_add]

/-- Images that agree on a prefix agree on the slices inside it. -/
theorem slice_congr {image' : List UInt8} (h : image.take k = image'.take k)
    (hn : offset + n ≤ k) : slice image offset n = slice image' offset n := by
  rw [← slice_take hn, h, slice_take hn]

/-! ### The order of keys -/

/-- `memcmp` of the common length, then the lengths. -/
def bytesCompare (left right : List UInt8) : Ordering :=
  let common := min left.length right.length
  match compare (left.take common) (right.take common) with
  | .eq => compare left.length right.length
  | o => o

/-- It is the lexicographic order. -/
theorem bytesCompare_eq_compare (left right : List UInt8) :
    bytesCompare left right = compare left right := by
  induction left generalizing right with
  | nil => cases right <;> rfl
  | cons a left ih =>
    cases right with
    | nil => rfl
    | cons b right =>
      have hlen : compare (left.length + 1) (right.length + 1) =
          compare left.length right.length := by
        simp only [Nat.compare_eq_ite_lt, Nat.add_lt_add_iff_right]
      rw [List.compare_cons_cons, ← ih right]
      simp only [bytesCompare, List.length_cons, Nat.add_min_add_right, List.take_succ_cons,
        List.compare_cons_cons, hlen]
      cases compare a b <;> rfl

instance : Std.TransCmp bytesCompare := by
  rw [funext₂ bytesCompare_eq_compare]
  infer_instance

instance : Std.LawfulEqCmp bytesCompare := by
  rw [funext₂ bytesCompare_eq_compare]
  infer_instance

theorem bytesCompare_eq_iff {left right : List UInt8} :
    bytesCompare left right = .eq ↔ left = right := by
  rw [bytesCompare_eq_compare]
  exact Std.LawfulEqCmp.compare_eq_iff_eq

theorem bytesCompare_gt {left right : List UInt8} (h : bytesCompare left right = .gt) :
    bytesCompare right left = .lt := by
  rw [bytesCompare_eq_compare] at h ⊢
  exact Std.OrientedCmp.gt_iff_lt.1 h

theorem bytesCompare_trans {a b c : List UInt8} (hab : bytesCompare a b = .lt)
    (hbc : bytesCompare b c = .lt) : bytesCompare a c = .lt := by
  rw [bytesCompare_eq_compare] at hab hbc ⊢
  exact Std.TransCmp.lt_trans hab hbc

end Ninlil.Bytes
