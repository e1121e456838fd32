import Mathlib

/-!
# The exchange sort

Two nested loops over an array: entry `i` is exchanged with each later one that is before it.

* `pass`: the inner loop;
* `exchangeSort`: both loops;
* `exchangeSort_cons`: what comes first is a least entry.
-/

namespace Ninlil.ExchangeSort

variable {α β : Type} (before : α → α → Bool)

/-- The inner loop: the entry that comes to the front, and what is left behind it. -/
def pass (x : α) : List α → α × List α
  | [] => (x, [])
  | y :: ys =>
    if before y x then ((pass y ys).1, x :: (pass y ys).2) else ((pass x ys).1, y :: (pass x ys).2)

/-- The outer loop, for as many entries as given. -/
def sortFrom : ℕ → List α → List α
  | 0, l => l
  | _ + 1, [] => []
  | k + 1, x :: xs => (pass before x xs).1 :: sortFrom k (pass before x xs).2

/-- The sort: the last entry needs no turn of its own. -/
def exchangeSort (l : List α) : List α := sortFrom before (l.length - 1) l

variable {before} [LinearOrder β] {key : α → β}

/-- What comes to the front is a least entry. -/
theorem pass_least (h : ∀ x y, before x y = true ↔ key x < key y) (x : α) (xs : List α) :
    (pass before x xs).1 ∈ x :: xs ∧ ∀ y ∈ x :: xs, key (pass before x xs).1 ≤ key y := by
  induction xs generalizing x with
  | nil =>
    refine ⟨List.mem_cons_self, fun y hy => ?_⟩
    rw [List.mem_singleton.1 hy]
    exact le_refl (key x)
  | cons y ys ih =>
    unfold pass
    split
    next hlt =>
      have hlt' := (h y x).1 hlt
      obtain ⟨hmem, hle⟩ := ih y
      refine ⟨List.mem_cons_of_mem x hmem, fun z hz => ?_⟩
      rcases List.mem_cons.1 hz with rfl | hz
      · exact (hle y List.mem_cons_self).trans hlt'.le
      · exact hle z hz
    next hnot =>
      have hle' : key x ≤ key y := le_of_not_gt fun hlt => hnot ((h y x).2 hlt)
      obtain ⟨hmem, hle⟩ := ih x
      refine ⟨?_, fun z hz => ?_⟩
      · rcases List.mem_cons.1 hmem with heq | hmem
        · rw [heq]
          exact List.mem_cons_self
        · exact List.mem_cons_of_mem x (List.mem_cons_of_mem y hmem)
      · rcases List.mem_cons.1 hz with rfl | hz
        · exact hle z List.mem_cons_self
        · rcases List.mem_cons.1 hz with rfl | hz
          · exact (hle x List.mem_cons_self).trans hle'
          · exact hle z (List.mem_cons_of_mem x hz)

/-- What comes first is a least entry. -/
theorem exchangeSort_cons (h : ∀ x y, before x y = true ↔ key x < key y) (x : α) (xs : List α) :
    ∃ m rest, exchangeSort before (x :: xs) = m :: rest ∧ m ∈ x :: xs ∧
      ∀ y ∈ x :: xs, key m ≤ key y := by
  obtain ⟨hmem, hle⟩ := pass_least h x xs
  cases xs with
  | nil => exact ⟨x, [], rfl, hmem, hle⟩
  | cons y ys => exact ⟨_, _, rfl, hmem, hle⟩

end Ninlil.ExchangeSort
