import Mathlib

/-!
# Guarded steps

Programs that run a list of checks and leave at the first one that fails are written here as
`Except` computations.

* `require`: one check, with the exit taken when it fails;
* `orExit`: a partial result, with the exit taken when there is none;
* `bind_eq_ok`: a sequence succeeds iff every stage does;
* `Exits`: a property of every way a program can leave, with its rule for each construct.
-/

namespace Ninlil.Guard

variable {ε α β : Type}

/-- Continue if `c` holds, leave through `e` otherwise. -/
def require (c : Prop) [Decidable c] (e : ε) : Except ε Unit :=
  if c then .ok () else .error e

@[simp] theorem require_eq_ok {c : Prop} [Decidable c] {e : ε} {u : Unit} :
    require c e = .ok u ↔ c := by
  unfold require
  split_ifs with h
  · simp [h]
  · simp [h]

/-- The value of a partial result, or the exit `e`. -/
def orExit (o : Option α) (e : ε) : Except ε α := o.elim (.error e) .ok

@[simp] theorem orExit_eq_ok {o : Option α} {e : ε} {a : α} :
    orExit o e = .ok a ↔ o = some a := by
  cases o with
  | none | some => simp [orExit]

@[simp] theorem bind_eq_ok {x : Except ε α} {f : α → Except ε β} {b : β} :
    x >>= f = .ok b ↔ ∃ a, x = .ok a ∧ f a = .ok b := by
  cases x with
  | error | ok => simp [bind, Except.bind]

/-- A check that leaves through `e` when `c` holds. -/
theorem ite_error_eq_ok {c : Prop} [Decidable c] {e : ε} {x : Except ε α} {a : α} :
    (if c then .error e else x) = .ok a ↔ ¬ c ∧ x = .ok a := by
  split_ifs with h
  · simp [h]
  · simp [h]

/-! ### Where a program leaves -/

/-- Every exit of `x` satisfies `P`. -/
def Exits (P : ε → Prop) (x : Except ε α) : Prop := ∀ e, x = .error e → P e

variable {P : ε → Prop} {e : ε}

theorem exits_ok {a : α} : Exits P (.ok a) := nofun

theorem exits_error (h : P e) : Exits P (.error e : Except ε α) := by
  rintro _ ⟨⟩
  exact h

theorem exits_require {c : Prop} [Decidable c] (h : P e) : Exits P (require c e) := by
  unfold require
  split_ifs
  · exact exits_ok
  · exact exits_error h

theorem exits_orExit {o : Option α} (h : P e) : Exits P (orExit o e) := by
  cases o with
  | none => exact exits_error h
  | some a => exact exits_ok

theorem Exits.bind {x : Except ε α} {f : α → Except ε β} (hx : Exits P x)
    (hf : ∀ a, Exits P (f a)) : Exits P (x >>= f) := by
  cases x with
  | error e' => exact exits_error (hx e' rfl)
  | ok a => exact hf a

theorem Exits.ite {c : Prop} [Decidable c] {x y : Except ε α} (hx : Exits P x) (hy : Exits P y) :
    Exits P (if c then x else y) := by
  split_ifs
  · exact hx
  · exact hy

end Ninlil.Guard
