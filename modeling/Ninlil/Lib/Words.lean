import Mathlib

/-!
# Machine words as natural numbers

Sums and differences of 64-bit words that do not wrap.
-/

namespace Ninlil.Words

variable {a b : UInt64}

/-- A sum in range. -/
theorem toNat_add_of_lt (h : a.toNat + b.toNat < 2 ^ 64) : (a + b).toNat = a.toNat + b.toNat := by
  rw [UInt64.toNat_add, Nat.mod_eq_of_lt h]

/-- The next word. -/
theorem toNat_succ (h : a.toNat + 1 < 2 ^ 64) : (a + 1).toNat = a.toNat + 1 :=
  toNat_add_of_lt h

theorem toNat_succ_of_lt (h : a < b) : (a + 1).toNat = a.toNat + 1 := by
  have hb := b.toNat_lt
  have hab := UInt64.lt_iff_toNat_lt.1 h
  exact toNat_succ (by omega)

/-- A difference in range. -/
theorem toNat_sub_of_le (h : b.toNat ≤ a.toNat) : (a - b).toNat = a.toNat - b.toNat :=
  UInt64.toNat_sub_of_le a b (UInt64.le_iff_toNat_le.2 h)

/-- The word before. -/
theorem toNat_pred (h : 1 ≤ a.toNat) : (a - 1).toNat = a.toNat - 1 :=
  toNat_sub_of_le h

theorem toNat_ofNat_of_lt {n : ℕ} (h : n < 2 ^ 64) : (UInt64.ofNat n).toNat = n := by
  rw [UInt64.toNat_ofNat']
  exact Nat.mod_eq_of_lt h

theorem ne_zero_iff : a ≠ 0 ↔ 1 ≤ a.toNat := by
  rw [Ne, ← UInt64.toNat_inj, Nat.one_le_iff_ne_zero]
  rfl

theorem eq_add_ofNat {n : ℕ} (h : b.toNat = a.toNat + n) : b = a + UInt64.ofNat n := by
  have hb := b.toNat_lt
  have hn : (UInt64.ofNat n).toNat = n := toNat_ofNat_of_lt (by omega)
  apply UInt64.toNat_inj.1
  rw [toNat_add_of_lt (by omega), hn, h]

end Ninlil.Words
