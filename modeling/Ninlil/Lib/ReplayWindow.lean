import Mathlib

/-!
# Sliding replay windows

A receiver that must take every number at most once keeps a floor, the highest number it took and
one bit for each of the last `w` numbers.

* `Window w`: the floor, the highest number and the bits;
* `Fresh`, `mark`: the check and the update;
* `Represents W S`: the window stands for the set `S` of the numbers taken so far;
* `Represents.fresh_iff`: the check passes exactly for the numbers above the floor that are not in
  `S` and less than `w` below every number in `S`;
* `Represents.mark`, `represents_restart`: the update and a restart above `S` keep the relation;
* `Window.not_fresh_mark`: what was taken stays taken.
-/

namespace Ninlil.Replay

/-- A window of `w` numbers, the last of which is `highest`. -/
structure Window (w : ℕ) where
  floor : ℕ
  highest : ℕ
  bitmap : BitVec w

variable {w : ℕ}

/-- A number that is above the floor and not known to have been taken. -/
def Window.Fresh (W : Window w) (v : ℕ) : Prop :=
  W.floor < v ∧ (v ≤ W.highest → W.highest - v < w ∧ W.bitmap.getLsbD (W.highest - v) = false)

/-- The window after `v` is taken. -/
def Window.mark (W : Window w) (v : ℕ) : Window w :=
  if W.highest < v then
    { W with
      highest := v
      bitmap := if w ≤ v - W.highest then 1#w else W.bitmap <<< (v - W.highest) ||| 1#w }
  else { W with bitmap := W.bitmap ||| 1#w <<< (W.highest - v) }

/-- The window stands for the set `S`: nothing in `S` is above the highest number, which is itself
in `S` once it has left the floor, and each bit above the floor tells whether its number is in
`S`. -/
structure Represents (W : Window w) (S : Set ℕ) : Prop where
  floor_le : W.floor ≤ W.highest
  le_highest : ∀ v ∈ S, v ≤ W.highest
  highest_mem : W.floor < W.highest → W.highest ∈ S
  bit_iff : ∀ i < w, W.floor < W.highest - i →
    (W.bitmap.getLsbD i = true ↔ W.highest - i ∈ S)

variable {W : Window w} {S : Set ℕ} {v : ℕ}

/-- A window restarted at a floor that nothing taken is above. -/
theorem represents_restart {floor : ℕ} (h : ∀ v ∈ S, v ≤ floor) :
    Represents ⟨floor, floor, 0#w⟩ S where
  floor_le := le_rfl
  le_highest := h
  highest_mem := fun hlt => absurd hlt (lt_irrefl _)
  bit_iff := by
    intro i _ hlt
    simp only at hlt
    omega

/-- What the check decides. -/
theorem Represents.fresh_iff (h : Represents W S) :
    W.Fresh v ↔ W.floor < v ∧ v ∉ S ∧ ∀ a ∈ S, a < v + w ∨ a ≤ v := by
  constructor
  · rintro ⟨hfloor, hbit⟩
    refine ⟨hfloor, fun hv => ?_, fun a ha => ?_⟩
    · obtain ⟨hw, hclear⟩ := hbit (h.le_highest v hv)
      have hle : v ≤ W.highest := h.le_highest v hv
      have hback : W.highest - (W.highest - v) = v := by omega
      have hset := (h.bit_iff _ hw (by omega)).2 (by rwa [hback])
      rw [hclear] at hset
      exact absurd hset (by decide)
    · have hale := h.le_highest a ha
      by_cases hv : v ≤ W.highest
      · obtain ⟨hw, -⟩ := hbit hv
        omega
      · omega
  · rintro ⟨hfloor, hnot, hnear⟩
    refine ⟨hfloor, fun hv => ?_⟩
    have hmem : W.highest ∈ S := h.highest_mem (by omega)
    have hback : W.highest - (W.highest - v) = v := by omega
    have hne : v ≠ W.highest := by
      rintro rfl
      exact hnot hmem
    have hw : W.highest - v < w := by
      rcases hnear _ hmem with hn | hn
      · omega
      · omega
    refine ⟨hw, ?_⟩
    have hiff := h.bit_iff _ hw (by omega)
    rw [hback] at hiff
    exact Bool.eq_false_iff.2 fun hset => hnot (hiff.1 hset)

/-- The lowest bit of `1`. -/
theorem getLsbD_one_of_lt {i : ℕ} (hi : i < w) : (1#w).getLsbD i = decide (i = 0) := by
  rw [BitVec.getLsbD_one]
  have hw : 0 < w := by omega
  simp [hw]

/-- A single bit at `d`. -/
theorem getLsbD_one_shiftLeft {i d : ℕ} (hi : i < w) :
    (1#w <<< d).getLsbD i = decide (i = d) := by
  rw [BitVec.getLsbD_shiftLeft]
  by_cases hd : i < d
  · simp [hd, hi, Nat.ne_of_lt hd]
  · rw [getLsbD_one_of_lt (by omega)]
    have : i - d = 0 ↔ i = d := by omega
    simp [hd, hi, this]

theorem mark_of_lt (hv : W.highest < v) : W.mark v = ⟨W.floor, v,
    if w ≤ v - W.highest then 1#w else W.bitmap <<< (v - W.highest) ||| 1#w⟩ := by
  rw [Window.mark, if_pos hv]

theorem mark_of_le (hv : v ≤ W.highest) :
    W.mark v = ⟨W.floor, W.highest, W.bitmap ||| 1#w <<< (W.highest - v)⟩ := by
  rw [Window.mark, if_neg (not_lt.2 hv)]

@[simp] theorem mark_floor : (W.mark v).floor = W.floor := by
  by_cases hv : W.highest < v
  · rw [mark_of_lt hv]
  · rw [mark_of_le (not_lt.1 hv)]

/-- A number above the highest one moves the window. -/
theorem Represents.mark_above (h : Represents W S) (hv : W.highest < v) :
    Represents (W.mark v) (insert v S) := by
  have hfloor := h.floor_le
  rw [mark_of_lt hv]
  refine ⟨by simp only; omega, ?_, fun _ => Set.mem_insert v S, fun i hi hlt => ?_⟩
  · rintro a (rfl | ha)
    · exact le_rfl
    · exact (h.le_highest a ha).trans hv.le
  · simp only at hlt ⊢
    -- a number strictly between the old highest and `v` was never taken
    have hgap : ∀ a, W.highest < a → a ∉ S := fun a ha hmem =>
      absurd (h.le_highest a hmem) (by omega)
    rcases Nat.eq_zero_or_pos i with rfl | hpos
    · split_ifs with hd
      · simp [getLsbD_one_of_lt hi]
      · simp [BitVec.getLsbD_or, getLsbD_one_of_lt hi]
    · have hnev : v - i ≠ v := by omega
      have hone : (1#w).getLsbD i = false := by
        rw [getLsbD_one_of_lt hi]
        simp [hpos.ne']
      split_ifs with hd
      · rw [hone]
        simp [hnev, hgap (v - i) (by omega)]
      · rw [BitVec.getLsbD_or, hone, Bool.or_false, BitVec.getLsbD_shiftLeft]
        by_cases hid : i < v - W.highest
        · simp [hid, hnev, hgap (v - i) (by omega)]
        · have hback : W.highest - (i - (v - W.highest)) = v - i := by omega
          have hiff := h.bit_iff (i - (v - W.highest)) (by omega) (by omega)
          rw [hback] at hiff
          simp [hid, hi, hnev, hiff]

/-- A number that was taken stays taken, whatever is taken later. -/
theorem Window.not_fresh_mark {a : ℕ} (h : ¬ W.Fresh a) : ¬ (W.mark v).Fresh a := by
  rintro ⟨hfloor, hbit⟩
  refine h ⟨by simpa using hfloor, fun ha => ?_⟩
  by_cases hv : W.highest < v
  · rw [mark_of_lt hv] at hbit
    obtain ⟨hw, hclear⟩ := hbit (ha.trans hv.le)
    simp only at hw hclear
    rw [if_neg (by omega), BitVec.getLsbD_or, BitVec.getLsbD_shiftLeft, Bool.or_eq_false_iff]
      at hclear
    have hback : v - a - (v - W.highest) = W.highest - a := by omega
    have hshift : ¬ v - a < v - W.highest := by omega
    exact ⟨by omega, by simpa [hw, hshift, hback] using hclear.1⟩
  · rw [mark_of_le (not_lt.1 hv)] at hbit
    obtain ⟨hw, hclear⟩ := hbit ha
    rw [BitVec.getLsbD_or, Bool.or_eq_false_iff] at hclear
    exact ⟨hw, hclear.1⟩

/-- A number that is being taken is no longer fresh. -/
theorem Window.not_fresh_mark_self : ¬ (W.mark v).Fresh v := by
  rintro ⟨-, hbit⟩
  by_cases hv : W.highest < v
  · rw [mark_of_lt hv] at hbit
    obtain ⟨hw, hclear⟩ := hbit le_rfl
    have hone : (1#w).getLsbD 0 = true := by simpa using hw
    simp only [Nat.sub_self] at hclear hw
    split_ifs at hclear
    · rw [hone] at hclear
      cases hclear
    · rw [BitVec.getLsbD_or, hone, Bool.or_true] at hclear
      cases hclear
  · rw [mark_of_le (not_lt.1 hv)] at hbit
    obtain ⟨hw, hclear⟩ := hbit (not_lt.1 hv)
    rw [BitVec.getLsbD_or, getLsbD_one_shiftLeft hw, decide_eq_true rfl, Bool.or_true] at hclear
    cases hclear

/-- A fresh number inside the window sets its bit. -/
theorem Represents.mark_inside (h : Represents W S) (hv : v ≤ W.highest) :
    Represents (W.mark v) (insert v S) := by
  rw [mark_of_le hv]
  refine ⟨h.floor_le, ?_, fun hlt => Set.mem_insert_of_mem v (h.highest_mem hlt),
    fun i hi hlt => ?_⟩
  · rintro a (rfl | ha)
    · exact hv
    · exact h.le_highest a ha
  · simp only at hlt ⊢
    have hsame : i = W.highest - v ↔ W.highest - i = v := by omega
    rw [BitVec.getLsbD_or, getLsbD_one_shiftLeft hi, Bool.or_eq_true, h.bit_iff i hi hlt,
      decide_eq_true_iff, Set.mem_insert_iff, hsame, or_comm]

/-- **Taking a number keeps the relation.** -/
theorem Represents.mark (h : Represents W S) : Represents (W.mark v) (insert v S) := by
  by_cases hv : W.highest < v
  · exact h.mark_above hv
  · exact h.mark_inside (not_lt.1 hv)

end Ninlil.Replay
