import Ninlil.Lib.Cursor

/-!
# Reads inside the input

A reader that refuses to look behind the last byte, beside the one that takes what it needs for
granted.

* `inBounds`: a field of so many bytes, if they are there;
* `ReadsExactly`: a reader of `n` bytes, with `ReadsExactly.bind` and `ReadsExactly.pure`;
* `filter_finRange`: a table that is filled from its start.
-/

namespace Ninlil.Bytes

variable {α β : Type} {n m : ℕ}

/-- A reader takes bytes from the front of the unread ones, or has no result. -/
abbrev Reader := StateT (List UInt8) Option

/-- The next `n` bytes are read, if there are that many. -/
def inBounds (n : ℕ) (load : List UInt8 → α × List UInt8) : Reader α := fun rest =>
  if rest.length < n then none else some (load rest)

/-- The reader needs `n` bytes and takes them; with them it does what `load` does. -/
structure ReadsExactly (n : ℕ) (read : Reader α) (load : List UInt8 → α × List UInt8) : Prop where
  short : ∀ rest, rest.length < n → read rest = none
  enough : ∀ rest, n ≤ rest.length → read rest = some (load rest)
  left : ∀ rest, n ≤ rest.length → (load rest).2.length + n = rest.length

/-- A single field. -/
theorem ReadsExactly.field {load : List UInt8 → α × List UInt8}
    (h : ∀ rest, (load rest).2 = rest.drop n) : ReadsExactly n (inBounds n load) load where
  short := fun _ hlt => if_pos hlt
  enough := fun _ hle => if_neg (Nat.not_lt.2 hle)
  left := fun rest hle => by
    rw [h, List.length_drop]
    omega

theorem ReadsExactly.pure (a : α) :
    ReadsExactly 0 (Pure.pure a : Reader α) fun rest => (a, rest) where
  short := fun _ hlt => absurd hlt (Nat.not_lt_zero _)
  enough := fun _ _ => rfl
  left := fun _ _ => rfl

/-- One reader after another. -/
theorem ReadsExactly.bind {read : Reader α} {load : List UInt8 → α × List UInt8}
    {read' : α → Reader β} {load' : α → List UInt8 → β × List UInt8} (h : ReadsExactly n read load)
    (h' : ∀ a, ReadsExactly m (read' a) (load' a)) :
    ReadsExactly (n + m) (read >>= read') fun rest => load' (load rest).1 (load rest).2 where
  short := fun rest hlt => by
    show (read rest).bind (fun p => read' p.1 p.2) = none
    by_cases hn : rest.length < n
    · rw [h.short rest hn, Option.bind_none]
    · have hle := Nat.not_lt.1 hn
      have hleft := h.left rest hle
      rw [h.enough rest hle, Option.bind_some]
      exact (h' _).short _ (by omega)
  enough := fun rest hle => by
    have hn : n ≤ rest.length := by omega
    have hleft := h.left rest hn
    show (read rest).bind (fun p => read' p.1 p.2) = _
    rw [h.enough rest hn, Option.bind_some]
    exact (h' _).enough _ (by omega)
  left := fun rest hle => by
    have hn : n ≤ rest.length := by omega
    have hleft := h.left rest hn
    have hleft' := (h' (load rest).1).left (load rest).2 (by omega)
    omega

/-! ### Tables -/

/-- The entries in use of a table that holds a list at its start and free entries behind it. -/
theorem filter_finRange {table : Fin n → α} {p : α → Bool} {xs : List α} {free : α}
    (hle : xs.length ≤ n) (htable : ∀ i : Fin n, table i = (xs[i.val]?).getD free)
    (hxs : ∀ x ∈ xs, p x = true) (hfree : p free = false) :
    ((List.finRange n).map table).filter p = xs := by
  have hall : (List.finRange n).map table = xs ++ List.replicate (n - xs.length) free := by
    refine List.ext_getElem (by simp [hle]) fun i hi _ => ?_
    have hin : i < n := by simpa using hi
    rw [List.getElem_map, List.getElem_finRange, htable, List.getElem_append]
    by_cases hlt : i < xs.length
    · rw [dif_pos hlt]
      show (xs[i]?).getD free = _
      rw [List.getElem?_eq_getElem hlt, Option.getD_some]
    · rw [dif_neg hlt, List.getElem_replicate]
      show (xs[i]?).getD free = _
      rw [List.getElem?_eq_none (Nat.not_lt.1 hlt), Option.getD_none]
  rw [hall, List.filter_append, List.filter_eq_self.2 hxs,
    List.filter_eq_nil_iff.2 fun x hx => by rw [List.eq_of_mem_replicate hx, hfree]; decide,
    List.append_nil]

end Ninlil.Bytes
