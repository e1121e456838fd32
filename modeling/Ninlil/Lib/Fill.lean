import Ninlil.Lib.Crc
import Ninlil.Lib.Tiling

/-!
# Records written field by field

A buffer is cleared, and the fields of a record are written into it, each at its own offset.

* `fill`: the buffer after the writes;
* `Laid`, `Covers`: the fields stand apart, and no byte is left out;
* `fill_eq_iff`: a byte string is the filled buffer exactly if it holds every field that was
  written and zeros in the gaps between them;
* `sealAt_fill_eq_iff`: the same of a buffer that ends with the check of the bytes before;
* `holdsAt_putU8` to `holdsAt_putVector`: where the store of a field is held, the field is read.
-/

namespace Ninlil.Bytes

/-- A cleared buffer after some writes. -/
def fill (n : ℕ) (writes : List Put) : List UInt8 :=
  putAll (List.replicate n 0) writes

/-- The check of the bytes before an offset, written there. -/
def sealAt (image : List UInt8) (offset : ℕ) : List UInt8 :=
  store image offset (encodeBE 4 (crc32c (image.take offset)).toNat)

/-- Offset and length of a write. -/
def span (w : Put) : ℕ × ℕ := (w.1, w.2.length)

/-- Zeros at given places. -/
def zeros (gaps : List (ℕ × ℕ)) : List Put :=
  gaps.map fun g => (g.1, List.replicate g.2 0)

/-- Two places that share no byte. -/
def Apart (s t : ℕ × ℕ) : Prop := s.1 + s.2 ≤ t.1 ∨ t.1 + t.2 ≤ s.1

instance (s t : ℕ × ℕ) : Decidable (Apart s t) :=
  inferInstanceAs (Decidable (_ ∨ _))

/-- The places stand apart and inside the first `n` bytes. -/
def Laid (n : ℕ) (spans : List (ℕ × ℕ)) : Prop :=
  spans.Pairwise Apart ∧ ∀ s ∈ spans, s.1 + s.2 ≤ n

instance (n : ℕ) (spans : List (ℕ × ℕ)) : Decidable (Laid n spans) :=
  inferInstanceAs (Decidable (_ ∧ _))

/-- Each of the first `n` bytes is in one of the places. -/
def Covers (n : ℕ) (spans : List (ℕ × ℕ)) : Prop :=
  ∀ j < n, ∃ s ∈ spans, s.1 ≤ j ∧ j < s.1 + s.2

instance (n : ℕ) (spans : List (ℕ × ℕ)) : Decidable (Covers n spans) :=
  inferInstanceAs (Decidable (∀ j < n, _))

/-- What was written stands in its place. -/
def HoldsAt (bytes : List UInt8) (w : Put) : Prop := slice bytes w.1 w.2.length = w.2

def Holds (bytes : List UInt8) (writes : List Put) : Prop :=
  ∀ w ∈ writes, HoldsAt bytes w

section Lemmas

variable {bytes image : List UInt8} {writes zs : List Put} {gaps : List (ℕ × ℕ)}
  {w : Put} {n o k : ℕ}

@[simp] theorem holds_nil : Holds bytes [] := fun _ hw => absurd hw List.not_mem_nil

@[simp] theorem holds_cons :
    Holds bytes (w :: writes) ↔ HoldsAt bytes w ∧ Holds bytes writes :=
  List.forall_mem_cons

theorem holds_append :
    Holds bytes (writes ++ zs) ↔ Holds bytes writes ∧ Holds bytes zs :=
  List.forall_mem_append

@[simp] theorem map_span_zeros : (zeros gaps).map span = gaps := by
  simp [zeros, span, Function.comp_def]

theorem putAll_cons : putAll image (w :: writes) = putAll (store image w.1 w.2) writes := rfl

theorem length_putAll_eq :
    (putAll image writes).length = image.length := by
  induction writes generalizing image with
  | nil => rfl
  | cons w writes ih => exact ih.trans length_store

@[simp] theorem length_fill : (fill n writes).length = n := by
  rw [fill, length_putAll_eq, List.length_replicate]

/-! ### What was written is there -/

theorem slice_putAll (h : ∀ w ∈ writes, Apart (o, k) (span w)) :
    slice (putAll image writes) o k = slice image o k := by
  induction writes generalizing image with
  | nil => rfl
  | cons w writes ih =>
    obtain ⟨hw, hws⟩ := List.forall_mem_cons.1 h
    exact (ih hws).trans (slice_store_of_disjoint hw)

theorem holds_putAll (h : Laid image.length (writes.map span)) :
    Holds (putAll image writes) writes := by
  induction writes generalizing image with
  | nil => exact holds_nil
  | cons w writes ih =>
    obtain ⟨hpair, hin⟩ := h
    rw [List.map_cons, List.pairwise_cons] at hpair
    rw [List.map_cons, List.forall_mem_cons] at hin
    rw [putAll_cons, holds_cons]
    constructor
    · -- the later writes stand apart from this one
      unfold HoldsAt
      rw [slice_putAll fun v hv => hpair.1 _ (List.mem_map_of_mem hv)]
      exact slice_store_self rfl hin.1
    · refine ih ⟨hpair.2, ?_⟩
      rw [length_store]
      exact hin.2

/-- The fields stand where they were written, with zeros in the gaps. -/
theorem holds_fill (h : Laid n (writes.map span ++ gaps)) :
    Holds (fill n writes) (writes ++ zeros gaps) := by
  obtain ⟨hpair, hin⟩ := h
  rw [List.pairwise_append] at hpair
  rw [List.forall_mem_append] at hin
  rw [holds_append]
  constructor
  · refine holds_putAll ⟨hpair.1, ?_⟩
    rw [List.length_replicate]
    exact hin.1
  · intro z hz
    obtain ⟨g, hg, rfl⟩ := List.mem_map.1 hz
    have hapart : ∀ v ∈ writes, Apart (g.1, g.2) (span v) := fun v hv =>
      (hpair.2.2 _ (List.mem_map_of_mem hv) g hg).symm
    unfold HoldsAt
    rw [List.length_replicate, fill, slice_putAll hapart]
    exact slice_replicate 0 (hin.2 g hg)

/-! ### What holds the fields is what was written -/

/-- A store of the bytes that another image has there. -/
theorem getElem?_store_of_slice (hlen : image.length = bytes.length)
    (hw : HoldsAt bytes w) (j : ℕ) :
    (store image w.1 w.2)[j]? =
      if w.1 ≤ j ∧ j < w.1 + w.2.length then bytes[j]? else image[j]? := by
  rw [getElem?_store]
  split_ifs with hj
  · have hget : w.2[j - w.1]? = bytes[j]? := by
      rw [← show slice bytes w.1 w.2.length = w.2 from hw, getElem?_slice, if_pos (by omega)]
      congr 1
      omega
    have hin : j - w.1 < w.2.length := by omega
    have hbytes : j < bytes.length := by
      rw [List.getElem?_eq_getElem hin] at hget
      exact (List.getElem?_eq_some_iff.1 hget.symm).1
    rw [List.getElem?_eq_getElem (by omega : j < image.length), ← hget]
    simp [hin]
  · exact Option.map_id'

theorem getElem?_putAll {j : ℕ} (hlen : image.length = bytes.length) (h : Holds bytes writes)
    (hj : image[j]? = bytes[j]? ∨ ∃ w ∈ writes, w.1 ≤ j ∧ j < w.1 + w.2.length) :
    (putAll image writes)[j]? = bytes[j]? := by
  induction writes generalizing image with
  | nil => exact hj.resolve_right fun ⟨w, hw, _⟩ => absurd hw List.not_mem_nil
  | cons w writes ih =>
    obtain ⟨hw, hws⟩ := holds_cons.1 h
    rw [putAll_cons]
    refine ih (length_store.trans hlen) hws ?_
    rw [getElem?_store_of_slice hlen hw]
    by_cases hin : w.1 ≤ j ∧ j < w.1 + w.2.length
    · exact .inl (if_pos hin)
    · rw [if_neg hin]
      refine hj.imp_right fun ⟨v, hv, hvj⟩ => ?_
      rcases List.mem_cons.1 hv with rfl | hv
      · exact absurd hvj hin
      · exact ⟨v, hv, hvj⟩

/-- The bytes that some field or gap covers are the ones of an image that holds them all. -/
theorem take_fill (hlen : bytes.length = n) (h : Holds bytes (writes ++ zeros gaps))
    (hcov : Covers k (writes.map span ++ gaps)) : (fill n writes).take k = bytes.take k := by
  obtain ⟨hws, hzs⟩ := holds_append.1 h
  apply List.ext_getElem?
  intro j
  rw [List.getElem?_take, List.getElem?_take]
  split_ifs with hj
  · refine getElem?_putAll (List.length_replicate.trans hlen.symm) hws ?_
    obtain ⟨s, hs, hsj⟩ := hcov j hj
    rcases List.mem_append.1 hs with hs | hs
    · obtain ⟨w, hw, rfl⟩ := List.mem_map.1 hs
      exact .inr ⟨w, hw, hsj⟩
    · left
      -- a gap: the cleared buffer and the image both have a zero there
      have hz : slice bytes s.1 (List.replicate s.2 (0 : UInt8)).length = List.replicate s.2 0 :=
        hzs _ (List.mem_map_of_mem hs)
      rw [List.length_replicate] at hz
      have hget : bytes[j]? = some 0 := by
        have hslice := congrArg (fun l : List UInt8 => l[j - s.1]?) hz
        have hlt : j - s.1 < s.2 := by omega
        simp only [getElem?_slice, if_pos hlt, List.getElem?_replicate] at hslice
        rwa [show s.1 + (j - s.1) = j by omega] at hslice
      have hjn : j < n := by
        rw [← hlen]
        exact (List.getElem?_eq_some_iff.1 hget).1
      rw [hget, List.getElem?_replicate, if_pos hjn]
  · rfl

/-- **A byte string is the filled buffer exactly if it holds every field and the gaps.** -/
theorem fill_eq_iff (hlen : bytes.length = n) (laid : Laid n (writes.map span ++ gaps))
    (hcov : Covers n (writes.map span ++ gaps)) :
    fill n writes = bytes ↔ Holds bytes (writes ++ zeros gaps) := by
  constructor
  · rintro rfl
    exact holds_fill laid
  · intro h
    have htake := take_fill hlen h hcov
    rwa [List.take_of_length_le (length_fill.le), List.take_of_length_le hlen.le] at htake

/-! ### The check at the end -/

@[simp] theorem length_sealAt : (sealAt image o).length = image.length := length_store

theorem take_sealAt : (sealAt image o).take o = image.take o := by
  rw [take_eq_slice, take_eq_slice]
  exact slice_store_of_disjoint (.inl (Nat.zero_add o).le)

/-- **A byte string is the buffer with its check exactly if it holds every field, the gaps and the
check of its own bytes.** -/
theorem sealAt_fill_eq_iff (hlen : bytes.length = k + 4) (laid : Laid k (writes.map span ++ gaps))
    (hcov : Covers k (writes.map span ++ gaps)) :
    sealAt (fill (k + 4) writes) k = bytes ↔
      Holds bytes (writes ++ zeros gaps) ∧
        slice bytes k 4 = encodeBE 4 (crc32c (bytes.take k)).toNat := by
  have hlaid : Laid (k + 4) (writes.map span ++ gaps) :=
    ⟨laid.1, fun s hs => (laid.2 s hs).trans (Nat.le_add_right k 4)⟩
  constructor
  · rintro rfl
    constructor
    · intro w hw
      have hin : w.1 + w.2.length ≤ k := by
        refine laid.2 (span w) ?_
        have hmem := List.mem_map_of_mem (f := span) hw
        rwa [List.map_append, map_span_zeros] at hmem
      unfold HoldsAt
      rw [← slice_take hin, take_sealAt, slice_take hin]
      exact holds_fill hlaid w hw
    · rw [take_sealAt]
      exact slice_store_self (length_encodeBE 4 _) length_fill.ge
  · rintro ⟨h, hcrc⟩
    have htake := take_fill hlen h hcov
    -- the buffer is the first part of the byte string and the check what follows
    apply List.ext_getElem?
    intro j
    have hw : HoldsAt bytes (k, encodeBE 4 (crc32c (bytes.take k)).toNat) := by
      unfold HoldsAt
      rw [length_encodeBE]
      exact hcrc
    unfold sealAt
    rw [htake]
    refine (getElem?_store_of_slice (length_fill.trans hlen.symm) hw j).trans ?_
    split_ifs with hj
    · rfl
    · rw [length_encodeBE] at hj
      by_cases hjk : j < k
      · have hget := congrArg (fun l : List UInt8 => l[j]?) htake
        simpa only [List.getElem?_take, if_pos hjk] using hget
      · rw [List.getElem?_eq_none (by rw [length_fill]; omega),
          List.getElem?_eq_none (by omega)]

end Lemmas

/-! ### Stores of numbers and fields -/

section Writes

variable {bytes : List UInt8} {o n : ℕ}

theorem holdsAt_putU8 {v : UInt8} (h : o + 1 ≤ bytes.length) :
    HoldsAt bytes (putU8 o v) ↔ bytes.getD o 0 = v := by
  change slice bytes o 1 = [v] ↔ _
  rw [← singleton_getD h, List.singleton_inj]

theorem holdsAt_putU16Be {v : UInt16} (h : o + 2 ≤ bytes.length) :
    HoldsAt bytes (putU16Be o v) ↔ getU16Be bytes o = v := by
  unfold HoldsAt putU16Be
  rw [length_encodeBE]
  refine ⟨getU16Be_of_slice, ?_⟩
  rintro rfl
  exact (encode_getU16Be h).symm

theorem holdsAt_putU32Be {v : UInt32} (h : o + 4 ≤ bytes.length) :
    HoldsAt bytes (putU32Be o v) ↔ getU32Be bytes o = v := by
  unfold HoldsAt putU32Be
  rw [length_encodeBE]
  refine ⟨getU32Be_of_slice, ?_⟩
  rintro rfl
  exact (encode_getU32Be h).symm

theorem holdsAt_putU64Be {v : UInt64} (h : o + 8 ≤ bytes.length) :
    HoldsAt bytes (putU64Be o v) ↔ getU64Be bytes o = v := by
  unfold HoldsAt putU64Be
  rw [length_encodeBE]
  refine ⟨getU64Be_of_slice, ?_⟩
  rintro rfl
  exact (encode_getU64Be h).symm

theorem holdsAt_putVector {v : Vector UInt8 n} (h : o + n ≤ bytes.length) :
    HoldsAt bytes (putVector o v) ↔ getVector n bytes o = v := by
  unfold HoldsAt putVector
  rw [Vector.length_toList]
  refine ⟨getVector_of_slice, ?_⟩
  rintro rfl
  exact (toList_getVector h).symm

@[simp] theorem span_putU8 {v : UInt8} : span (putU8 o v) = (o, 1) := rfl

@[simp] theorem span_putU16Be {v : UInt16} : span (putU16Be o v) = (o, 2) := by
  simp [span, putU16Be]

@[simp] theorem span_putU32Be {v : UInt32} : span (putU32Be o v) = (o, 4) := by
  simp [span, putU32Be]

@[simp] theorem span_putU64Be {v : UInt64} : span (putU64Be o v) = (o, 8) := by
  simp [span, putU64Be]

@[simp] theorem span_putVector {v : Vector UInt8 n} : span (putVector o v) = (o, n) := by
  simp [span, putVector]

end Writes

end Ninlil.Bytes
