import Mathlib

/-!
# Tables of tagged slots

A fixed table whose slots carry a tag, one of which marks a free slot.

* `AtMostOne`: a tag that at most one slot carries;
* `occupied`: the number of slots that are not free, and how one slot changes it;
* `findTag`: the first slot with a tag.
-/

namespace Ninlil.Slots

open Function (update update_of_ne update_self update_eq_self)

variable {n : ℕ} {κ : Type*}

/-- At most one slot carries a tag. -/
def AtMostOne (k : κ) (tag : Fin n → κ) : Prop := ∀ i j, tag i = k → tag j = k → i = j

variable {tag : Fin n → κ}

theorem atMostOne_of_absent {k : κ} (h : ∀ i, tag i ≠ k) : AtMostOne k tag :=
  fun i _ hi _ => absurd hi (h i)

/-- A slot that gets another tag. -/
theorem AtMostOne.update {k k' : κ} (h : AtMostOne k tag) (hk : k' ≠ k)
    (i : Fin n) : AtMostOne k (Function.update tag i k') := by
  have hold : ∀ j, Function.update tag i k' j = k → tag j = k := by
    intro j hj
    by_cases hji : j = i
    · rw [hji, Function.update_self] at hj
      exact absurd hj hk
    · rwa [Function.update_of_ne hji] at hj
  exact fun j j' hj hj' => h j j' (hold j hj) (hold j' hj')

/-- The tag is put where it was nowhere. -/
theorem atMostOne_put {k : κ} (h : ∀ i, tag i ≠ k) (i : Fin n) :
    AtMostOne k (update tag i k) := by
  have hat : ∀ j, update tag i k j = k → j = i := by
    intro j hj
    by_contra hne
    rw [update_of_ne hne] at hj
    exact h j hj
  exact fun j j' hj hj' => (hat j hj).trans (hat j' hj').symm

/-- The only slot with a tag gets another one. -/
theorem AtMostOne.absent_update {k k' : κ} (h : AtMostOne k tag) {i : Fin n}
    (hi : tag i = k) (hk : k' ≠ k) (j : Fin n) : Function.update tag i k' j ≠ k := by
  by_cases hj : j = i
  · rw [hj, update_self]
    exact hk
  · rw [update_of_ne hj]
    exact fun htag => hj (h j i htag hi)

theorem absent_update {k k' : κ} (h : ∀ i, tag i ≠ k) (hk : k' ≠ k) (i j : Fin n) :
    update tag i k' j ≠ k := by
  by_cases hj : j = i
  · rw [hj, update_self]
    exact hk
  · rw [update_of_ne hj]
    exact h j

variable [DecidableEq κ]

/-- The slots that are not free. -/
def occupied (free : κ) (tag : Fin n → κ) : ℕ := (Finset.univ.filter fun i => tag i ≠ free).card

@[simp]
theorem occupied_empty (free : κ) : occupied free (fun _ : Fin n => free) = 0 := by
  simp [occupied]

/-- A slot that is not free is counted. -/
theorem occupied_update_self (free : κ) (tag : Fin n → κ) (i : Fin n) :
    occupied free (update tag i free) + (if tag i = free then 0 else 1) =
      occupied free tag := by
  have hrest : (Finset.univ.filter fun j => update tag i free j ≠ free) =
      (Finset.univ.filter fun j => tag j ≠ free).erase i := by
    ext j
    by_cases hj : j = i
    · subst hj
      simp
    · simp [hj]
  unfold occupied
  rw [hrest]
  split_ifs with hi
  · rw [Finset.erase_eq_of_notMem (by simpa using hi), Nat.add_zero]
  · exact Finset.card_erase_add_one (by simpa using hi)

/-- Freeing a slot. -/
theorem occupied_free {free : κ} {i : Fin n} (hi : tag i ≠ free) :
    occupied free (update tag i free) = occupied free tag - 1 := by
  have hsum := occupied_update_self free tag i
  rw [if_neg hi] at hsum
  omega

/-- Taking a free slot. -/
theorem occupied_take {free : κ} {i : Fin n} (hi : tag i = free) {k : κ}
    (hk : k ≠ free) : occupied free (update tag i k) = occupied free tag + 1 := by
  have hsum := occupied_update_self free (update tag i k) i
  have hback : update (update tag i k) i free = tag := by
    rw [Function.update_idem, ← hi, update_eq_self]
  rw [hback, update_self, if_neg hk] at hsum
  exact hsum.symm

/-- The first slot with a tag. -/
def findTag (k : κ) (tag : Fin n → κ) : Option (Fin n) := (List.finRange n).find? fun i => tag i == k

theorem findTag_eq_some {k : κ} {i : Fin n} (h : findTag k tag = some i) :
    tag i = k := by simpa using List.find?_some h

theorem findTag_eq_none {k : κ} : findTag k tag = none ↔ ∀ i, tag i ≠ k := by
  simp [findTag]

end Ninlil.Slots
