import Mathlib.Order.Basic
import Mathlib.Order.Monotone.Basic
import Mathlib.Tactic.Common

/-!
# Values that carry an epoch

A value may be replaced by itself, or by any value of a later epoch.

* `Supersedes`: this relation, a partial order for every epoch function;
* `chain_le`, `no_return`: along a run of a transitive relation everything is related, and with
  antisymmetry a value that has been left is never reached again.
-/

namespace Ninlil.Epochs

section Supersedes

variable {α β : Type} [Preorder β] (epoch : α → β) {a b c : α}

/-- `b` is `a`, or of a later epoch. -/
def Supersedes (a b : α) : Prop := a = b ∨ epoch a < epoch b

theorem supersedes_refl (a : α) : Supersedes epoch a a := .inl rfl

theorem supersedes_trans (hab : Supersedes epoch a b) (hbc : Supersedes epoch b c) :
    Supersedes epoch a c := by
  rcases hab with rfl | hab
  · exact hbc
  · rcases hbc with rfl | hbc
    · exact .inr hab
    · exact .inr (hab.trans hbc)

theorem supersedes_antisymm (hab : Supersedes epoch a b) (hba : Supersedes epoch b a) :
    a = b := by
  rcases hab with h | hab
  · exact h
  · rcases hba with h | hba
    · exact h.symm
    · exact absurd (hab.trans hba) (lt_irrefl _)

theorem epoch_le (h : Supersedes epoch a b) : epoch a ≤ epoch b := by
  rcases h with rfl | h
  · exact le_rfl
  · exact h.le

end Supersedes

section Runs

variable {α : Type} {r : α → α → Prop} {x : ℕ → α} {N : ℕ}

/-- A run whose steps are related is related throughout. -/
theorem chain_le (hrefl : ∀ k ≤ N, r (x k) (x k)) (htrans : ∀ a b c, r a b → r b c → r a c)
    (hstep : ∀ k < N, r (x k) (x (k + 1))) {m n : ℕ} (hmn : m ≤ n) (hn : n ≤ N) :
    r (x m) (x n) := by
  induction n, hmn using Nat.le_induction with
  | base => exact hrefl m hn
  | succ n hmn ih => exact htrans _ _ _ (ih (by omega)) (hstep n (by omega))

/-- A value that the run has left, or passed before it left that one, is never related to what
comes later. -/
theorem no_return (htrans : ∀ a b c, r a b → r b c → r a c)
    (hanti : ∀ a b, r a b → r b a → a = b)
    (hchain : ∀ m n, m ≤ n → n ≤ N → r (x m) (x n)) {l m n : ℕ} (hlm : l ≤ m) (hmn : m ≤ n)
    (hn : n ≤ N) (hne : x m ≠ x n) : ¬ r (x N) (x l) := by
  intro hback
  have hNm : r (x N) (x m) := htrans _ _ _ hback (hchain l m hlm (hmn.trans hn))
  have hnm : r (x n) (x m) := htrans _ _ _ (hchain n N hn le_rfl) hNm
  exact hne (hanti _ _ (hchain m n hmn hn) hnm)

end Runs

end Ninlil.Epochs
