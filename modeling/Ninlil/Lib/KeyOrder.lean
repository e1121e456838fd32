import Ninlil.Lib.Tiling

/-!
# The order of packed keys

Keys of fixed layout that `memcmp` orders like their fields.

* `compare_append`: two fields one behind the other are compared one after the other;
* `compare_encodeBE`: big-endian numbers are compared like numbers;
* `sign`: the result of a comparison as an integer, with what makes it an order.
-/

namespace Ninlil.Bytes

/-! ### Fields of a key -/

/-- Fields of equal length: the first that differ decide. -/
theorem compare_append {a b c d : List UInt8} (h : a.length = b.length) :
    compare (a ++ c) (b ++ d) = (compare a b).then (compare c d) := by
  induction a generalizing b with
  | nil =>
    obtain rfl := List.length_eq_zero_iff.1 h.symm
    rfl
  | cons x a ih =>
    cases b with
    | nil => cases h
    | cons y b =>
      rw [List.cons_append, List.cons_append, List.compare_cons_cons, List.compare_cons_cons,
        ih (Nat.succ.inj h), Ordering.then_assoc]

theorem encodeBE_succ (width n : ℕ) :
    encodeBE (width + 1) n = encodeBE width (n / 256) ++ [UInt8.ofNat n] := by
  unfold encodeBE
  rw [encodeLE, List.reverse_cons]

/-- Bytes are compared as numbers. -/
theorem compare_toNat (x y : UInt8) : compare x y = compare x.toNat y.toNat := by
  show compareOfLessAndEq x y = compareOfLessAndEq x.toNat y.toNat
  simp only [compareOfLessAndEq, UInt8.lt_iff_toNat_lt, UInt8.toNat_inj]

theorem compare_singleton (x y : UInt8) : compare [x] [y] = compare x.toNat y.toNat := by
  rw [List.compare_cons_cons, ← compare_toNat]
  exact Ordering.then_eq

/-- **Big-endian numbers are compared like numbers.** -/
theorem compare_encodeBE {width a b : ℕ} (ha : a < 256 ^ width) (hb : b < 256 ^ width) :
    compare (encodeBE width a) (encodeBE width b) = compare a b := by
  induction width generalizing a b with
  | zero =>
    rw [pow_zero, Nat.lt_one_iff] at ha hb
    subst ha hb
    rfl
  | succ width ih =>
    rw [pow_succ] at ha hb
    rw [encodeBE_succ, encodeBE_succ, compare_append (by simp), ih (by omega) (by omega),
      compare_singleton, UInt8.toNat_ofNat', UInt8.toNat_ofNat']
    simp only [Nat.compare_eq_ite_lt]
    have hhigh := Nat.div_add_mod a 256
    have hhigh' := Nat.div_add_mod b 256
    split_ifs <;> first | rfl | omega

/-! ### Results as integers -/

/-- A comparison as an integer. -/
def sign : Ordering → ℤ
  | .lt => -1
  | .eq => 0
  | .gt => 1

theorem sign_nonpos {o : Ordering} : sign o ≤ 0 ↔ o.isLE := by
  cases o <;> simp [sign]

end Ninlil.Bytes
