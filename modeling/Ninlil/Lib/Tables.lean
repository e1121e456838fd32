import Mathlib

/-!
# Tables of optional records

A fixed table whose free slots hold nothing.

* `scan`: the first record that passes a test, with its slot;
* `firstFree`: the first free slot;
* `weight`: the sum of a measure over the records, and how one slot changes it.
-/

namespace Ninlil.Tables

open Function (update update_eq_self)

variable {n : ℕ} {α : Type*} {tbl : Fin n → Option α} {p : α → Bool} {i : Fin n} {a : α}

/-- The first record that passes the test `p`. -/
def scan (tbl : Fin n → Option α) (p : α → Bool) : Option (Fin n × α) :=
  (List.finRange n).findSome? fun i => ((tbl i).filter p).map fun a => (i, a)

/-- The first free slot. -/
def firstFree (tbl : Fin n → Option α) : Option (Fin n) :=
  (List.finRange n).find? fun i => (tbl i).isNone

theorem scan_eq_some (h : scan tbl p = some (i, a)) : tbl i = some a ∧ p a = true := by
  obtain ⟨j, -, hj⟩ := List.exists_of_findSome?_eq_some h
  obtain ⟨b, hb, heq⟩ := Option.map_eq_some_iff.1 hj
  obtain ⟨rfl, rfl⟩ := Prod.mk.inj heq
  exact Option.filter_eq_some_iff.1 hb

theorem scan_eq_none (h : scan tbl p = none) (hi : tbl i = some a) : p a = false := by
  have hnone := List.findSome?_eq_none_iff.1 h i (List.mem_finRange i)
  rw [Option.map_eq_none_iff, hi] at hnone
  by_contra hp
  rw [Bool.not_eq_false] at hp
  rw [Option.filter_some, if_pos hp] at hnone
  cases hnone

@[simp] theorem scan_empty : scan (fun _ : Fin n => none) p = none := by
  cases h : scan (fun _ : Fin n => none) p with
  | none => rfl
  | some r =>
    obtain ⟨i, a⟩ := r
    cases (scan_eq_some h).1

/-- A record that is the only one to pass is the one that is found. -/
theorem scan_of_unique (hi : tbl i = some a) (hp : p a = true)
    (hunique : ∀ j b, tbl j = some b → p b = true → j = i) : scan tbl p = some (i, a) := by
  cases h : scan tbl p with
  | none =>
    rw [scan_eq_none h hi] at hp
    cases hp
  | some r =>
    obtain ⟨j, b⟩ := r
    obtain ⟨hj, hb⟩ := scan_eq_some h
    have hji := hunique j b hj hb
    subst hji
    rw [hi] at hj
    cases hj
    rfl

theorem firstFree_eq_some (h : firstFree tbl = some i) : tbl i = none := by
  simpa using List.find?_some h

theorem firstFree_eq_none (h : firstFree tbl = none) (i : Fin n) : tbl i ≠ none := by
  have hp := List.find?_eq_none.1 h i (List.mem_finRange i)
  simpa using hp

theorem firstFree_of_free (hi : tbl i = none) : ∃ j, firstFree tbl = some j := by
  cases h : firstFree tbl with
  | none => exact absurd hi (firstFree_eq_none h i)
  | some j => exact ⟨j, rfl⟩

/-- A slot emptied that was empty. -/
theorem update_none_of_free (hi : tbl i = none) : update tbl i none = tbl := by
  rw [← hi, update_eq_self]

/-! ### Sums -/

/-- The sum of a measure over the records. -/
def weight (w : α → ℕ) (tbl : Fin n → Option α) : ℕ := ∑ i, (tbl i).elim 0 w

variable {w : α → ℕ}

@[simp] theorem weight_empty : weight w (fun _ : Fin n => none) = 0 := by
  simp [weight]

/-- A slot counts once. -/
theorem weight_update (r : Option α) :
    weight w (update tbl i r) + (tbl i).elim 0 w = weight w tbl + r.elim 0 w := by
  have hnew := Finset.sum_update_of_mem (Finset.mem_univ i) (fun j => (tbl j).elim 0 w)
    (r.elim 0 w)
  have hold := Finset.sum_erase_add (a := i) Finset.univ (fun j => (tbl j).elim 0 w)
    (Finset.mem_univ i)
  have hcongr : weight w (update tbl i r) =
      ∑ j, update (fun j => (tbl j).elim 0 w) i (r.elim 0 w) j := by
    refine Finset.sum_congr rfl fun j _ => ?_
    by_cases hj : j = i
    · subst hj
      simp
    · simp [hj]
  rw [Finset.sdiff_singleton_eq_erase] at hnew
  rw [hcongr, hnew]
  unfold weight
  omega

/-- Taking a free slot. -/
theorem weight_take (hi : tbl i = none) (a : α) :
    weight w (update tbl i (some a)) = weight w tbl + w a := by
  have hsum := @weight_update n α tbl i w (some a)
  rw [hi] at hsum
  simpa using hsum

/-- Giving a slot back. -/
theorem weight_free (hi : tbl i = some a) :
    weight w (update tbl i none) + w a = weight w tbl := by
  have hsum := @weight_update n α tbl i w none
  rw [hi] at hsum
  simpa using hsum

/-- Overwriting a record by one of the same measure. -/
theorem weight_same (hi : tbl i = some a) {b : α} (hb : w b = w a) :
    weight w (update tbl i (some b)) = weight w tbl := by
  have hsum := @weight_update n α tbl i w (some b)
  rw [hi] at hsum
  simp only [Option.elim_some, hb] at hsum
  exact Nat.add_right_cancel hsum

/-- One record is no more than the sum. -/
theorem le_weight (hi : tbl i = some a) : w a ≤ weight w tbl := by
  have hle := Finset.single_le_sum (f := fun j => (tbl j).elim 0 w) (fun _ _ => Nat.zero_le _)
    (Finset.mem_univ i)
  rw [hi] at hle
  exact hle

theorem weight_mono {w' : α → ℕ} (hle : ∀ a, w a ≤ w' a) : weight w tbl ≤ weight w' tbl := by
  refine Finset.sum_le_sum fun j _ => ?_
  cases tbl j with
  | none => exact le_rfl
  | some a => exact hle a

/-- Clearing slots does not add to the sum. -/
theorem weight_filter_le (p : α → Bool) :
    weight w (fun j => (tbl j).filter p) ≤ weight w tbl := by
  refine Finset.sum_le_sum fun j _ => ?_
  show ((tbl j).filter p).elim 0 w ≤ (tbl j).elim 0 w
  cases tbl j with
  | none => exact le_rfl
  | some a =>
    rw [Option.filter_some]
    split
    · exact le_rfl
    · exact Nat.zero_le _

/-- Sums by key add up to the sum over the keys. -/
theorem sum_weight_key {β : Type*} [DecidableEq β] (S : Finset β) (key : α → β) :
    ∑ b ∈ S, weight (fun a => if key a = b then w a else 0) tbl =
      weight (fun a => if key a ∈ S then w a else 0) tbl := by
  unfold weight
  rw [Finset.sum_comm]
  refine Finset.sum_congr rfl fun j _ => ?_
  cases tbl j with
  | none => simp
  | some a => simp [Finset.sum_ite_eq]

end Ninlil.Tables
