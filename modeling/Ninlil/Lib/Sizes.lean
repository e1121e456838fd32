import Mathlib.Algebra.GroupWithZero.Nat

/-!
# Sizes of fixed tables

A literal index of a table of `n` slots needs that `n` is not zero.  The sizes of the tables of the
source are named here once, so that no definition carries a proof of its own.
-/

namespace Ninlil

instance neZeroTwo : NeZero 2 := ⟨by decide⟩

instance neZeroThree : NeZero 3 := ⟨by decide⟩

instance neZeroFour : NeZero 4 := ⟨by decide⟩

instance neZeroEleven : NeZero 11 := ⟨by decide⟩

instance neZeroSeventeen : NeZero 17 := ⟨by decide⟩

end Ninlil
