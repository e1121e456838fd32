import Mathlib

/-!
# Ceilings of quotients

Two ways integer code rounds a quotient up, each against the ceiling of the rational quotient. A
ceiling is determined by the numbers above it, so both are read off `Nat.ceil_le`.

* `natCeil_div_eq_ite`: the quotient, and one more if there is a remainder;
* `natCeil_div_eq_tdiv`: the truncated quotient of the numerator, clamped at `0` and raised by one
  less than the denominator.
-/

namespace Ninlil.Ceiling

/-- The numbers above a quotient. -/
theorem div_le_iff_le_mul {a b n : ℕ} (hb : 0 < b) : ((a : ℚ) / b ≤ n) ↔ a ≤ n * b := by
  have hb' : (0 : ℚ) < b := by exact_mod_cast hb
  rw [div_le_iff₀ hb']
  exact_mod_cast Iff.rfl

theorem natCeil_div_eq_ite (a : ℕ) {b : ℕ} (hb : 0 < b) :
    ⌈(a : ℚ) / b⌉₊ = a / b + if a % b ≠ 0 then 1 else 0 := by
  refine eq_of_forall_ge_iff fun n => ?_
  rw [Nat.ceil_le, div_le_iff_le_mul hb]
  have hsplit := Nat.div_add_mod a b
  have hlt := Nat.mod_lt a hb
  by_cases hrem : a % b = 0
  · have hmul : a = a / b * b := by
      rw [Nat.mul_comm]
      omega
    rw [if_neg (not_not.2 hrem), Nat.add_zero]
    nth_rewrite 1 [hmul]
    exact Nat.mul_le_mul_right_iff hb
  · rw [if_pos hrem]
    constructor
    · intro h
      have hdiv : a / b < n := by
        rw [Nat.div_lt_iff_lt_mul hb]
        refine lt_of_le_of_ne h fun heq => hrem ?_
        rw [heq, Nat.mul_mod_left]
      exact hdiv
    · intro h
      calc a ≤ b * (a / b) + b := by omega
        _ = (a / b + 1) * b := by ring
        _ ≤ n * b := Nat.mul_le_mul_right b h

theorem natCeil_div_eq_tdiv (a : ℤ) {b : ℤ} (hb : 0 < b) :
    (⌈(a : ℚ) / b⌉₊ : ℤ) = ((if a < 0 then 0 else a) + b - 1).tdiv b := by
  have hb' : (0 : ℚ) < b := by exact_mod_cast hb
  have hnonneg : 0 ≤ (if a < 0 then 0 else a) + b - 1 := by split_ifs <;> omega
  rw [Int.tdiv_eq_ediv_of_nonneg hnonneg]
  obtain ⟨q, hq⟩ := Int.eq_ofNat_of_zero_le (Int.ediv_nonneg hnonneg hb.le)
  rw [hq, Nat.cast_inj]
  refine eq_of_forall_ge_iff fun n => ?_
  have hle : ((a : ℚ) / b ≤ n) ↔ a ≤ n * b := by
    rw [div_le_iff₀ hb']
    exact_mod_cast Iff.rfl
  have hpos : (0 : ℤ) ≤ n * b := Int.mul_nonneg (Int.natCast_nonneg n) hb.le
  have hquot : q ≤ n ↔ (if a < 0 then 0 else a) + b - 1 < (n + 1) * b := by
    rw [← Int.ediv_lt_iff_lt_mul hb, hq]
    omega
  rw [Nat.ceil_le, hle, hquot, add_mul, one_mul]
  split_ifs <;> omega

end Ninlil.Ceiling
