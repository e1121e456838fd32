import Mathlib.Data.List.Nodup
import Mathlib.Data.List.Perm.Basic
import Mathlib.Order.Basic

/-!
# The selection sort that refuses repetitions

A selection sort whose scan compares each entry with the least one so far, and gives up when the
two are equal. Nothing else looks for repetitions.

* `scan`: the inner loop; `LeastAt`: what it finds;
* `selectionSort`: both loops;
* `selectionSort_eq_some_iff`: it returns the entries in strictly increasing order;
* `isSome_selectionSort`: it gives up exactly on a list with a repetition, wherever the two are.
-/

namespace Ninlil.SelectionSort

variable {α : Type} (cmp : α → α → Ordering)

/-- The inner loop: the least entry so far and its place, given up at an entry equal to it. -/
def scan (least : α) (swap : ℕ) : ℕ → List α → Option (α × ℕ)
  | _, [] => some (least, swap)
  | i, x :: xs =>
    match cmp x least with
    | .lt => scan x i (i + 1) xs
    | .eq => none
    | .gt => scan least swap (i + 1) xs

/-- The outer loop, for as many entries as given: the least entry is exchanged with the first. -/
def sortFrom : ℕ → List α → Option (List α)
  | 0, l => some l
  | _ + 1, [] => some []
  | k + 1, x :: xs =>
    match scan cmp x 0 1 xs with
    | none => none
    | some (least, swap) => (sortFrom k ((x :: xs).set swap x).tail).map (least :: ·)

/-- The sort. -/
def selectionSort (l : List α) : Option (List α) := sortFrom cmp l.length l

/-- The entry at a place is before every other one. -/
def LeastAt (l : List α) (j : ℕ) (m : α) : Prop :=
  l[j]? = some m ∧ ∀ k y, l[k]? = some y → k ≠ j → cmp m y = .lt

/-- Entries in strictly increasing order. -/
abbrev Increasing (l : List α) : Prop := l.Pairwise fun x y => cmp x y = .lt

variable {cmp} {x m : α} {xs l l' s : List α} {j : ℕ}

/-! ### One round -/

/-- The other entries, after the exchange. -/
theorem exchange_perm (h : (x :: xs)[j]? = some m) :
    (m :: ((x :: xs).set j x).tail).Perm (x :: xs) := by
  cases j with
  | zero =>
    obtain rfl : x = m := Option.some.inj h
    exact List.Perm.refl _
  | succ j =>
    rw [List.getElem?_cons_succ] at h
    obtain ⟨hj, rfl⟩ := List.getElem?_eq_some_iff.1 h
    have hset := List.set_perm_cons_eraseIdx hj x
    have hswap := List.Perm.swap x xs[j] (xs.eraseIdx j)
    exact ((hset.cons _).trans hswap).trans ((List.getElem_cons_eraseIdx_perm hj).cons x)

/-- The least entry is before the ones that are left. -/
theorem LeastAt.lt_rest {y : α} (h : LeastAt cmp (x :: xs) j m)
    (hy : y ∈ ((x :: xs).set j x).tail) : cmp m y = .lt := by
  obtain ⟨hm, hleast⟩ := h
  cases j with
  | zero =>
    obtain ⟨k, hk⟩ := List.mem_iff_getElem?.1 hy
    exact hleast (k + 1) y hk (Nat.succ_ne_zero k)
  | succ j =>
    obtain ⟨k, hk⟩ := List.mem_iff_getElem?.1 hy
    by_cases hkj : k = j
    · subst hkj
      have hlt : k < xs.length := (List.getElem?_eq_some_iff.1 hm).1 |> Nat.lt_of_succ_lt_succ
      have hyx : x = y := by
        have hset : (xs.set k x)[k]? = some x := List.getElem?_set_self hlt
        exact Option.some.inj (hset.symm.trans hk)
      rw [← hyx]
      exact hleast 0 x rfl (Nat.succ_ne_zero k).symm
    · have hset : (xs.set j x)[k]? = xs[k]? := List.getElem?_set_ne (Ne.symm hkj)
      exact hleast (k + 1) y (hset.symm.trans hk) (fun heq => hkj (Nat.succ.inj heq))

theorem leastAt_singleton (x : α) : LeastAt cmp [x] 0 x := by
  refine ⟨rfl, fun k y hk hne => ?_⟩
  obtain ⟨hk', -⟩ := List.getElem?_eq_some_iff.1 hk
  rw [List.length_singleton] at hk'
  exact absurd (Nat.lt_one_iff.1 hk') hne

section Order

variable [Std.TransCmp cmp]

/-- What the scan finds is before every other entry. -/
theorem scan_leastAt {pre : List α} {least : α} {swap : ℕ} (h : LeastAt cmp pre swap least)
    (hscan : scan cmp least swap pre.length xs = some (m, j)) : LeastAt cmp (pre ++ xs) j m := by
  induction xs generalizing pre least swap with
  | nil =>
    obtain ⟨rfl, rfl⟩ := Prod.mk.inj (Option.some.inj hscan)
    rwa [List.append_nil]
  | cons x xs ih =>
    obtain ⟨hswap, hleast⟩ := h
    have hlen : pre.length + 1 = (pre ++ [x]).length := by simp
    have hbound := (List.getElem?_eq_some_iff.1 hswap).1
    rw [scan, hlen] at hscan
    rw [← List.singleton_append, ← List.append_assoc]
    split at hscan
    next hlt =>
      refine ih ⟨List.getElem?_concat_length, fun k y hk hne => ?_⟩ hscan
      have hk' : k < pre.length := by
        have := (List.getElem?_eq_some_iff.1 hk).1
        simp only [List.length_append, List.length_singleton] at this
        omega
      rw [List.getElem?_append_left hk'] at hk
      by_cases hks : k = swap
      · obtain rfl : least = y := Option.some.inj (hswap.symm.trans (hks ▸ hk))
        exact hlt
      · exact Std.TransCmp.lt_trans hlt (hleast k y hk hks)
    next => exact absurd hscan nofun
    next hgt =>
      refine ih ⟨?_, fun k y hk hne => ?_⟩ hscan
      · rw [List.getElem?_append_left hbound, hswap]
      · by_cases hk' : k < pre.length
        · rw [List.getElem?_append_left hk'] at hk
          exact hleast k y hk hne
        · have hlast := (List.getElem?_eq_some_iff.1 hk).1
          simp only [List.length_append, List.length_singleton] at hlast
          obtain rfl : k = pre.length := by omega
          obtain rfl : x = y := by
            rw [List.getElem?_concat_length] at hk
            exact Option.some.inj hk
          exact Std.OrientedCmp.gt_iff_lt.1 hgt

/-! ### All rounds -/

/-- The sort returns the entries, in strictly increasing order. -/
theorem sortFrom_sound {k : ℕ} (hk : l.length ≤ k) (h : sortFrom cmp k l = some s) :
    s.Perm l ∧ Increasing cmp s := by
  induction k generalizing l s with
  | zero =>
    obtain rfl := List.eq_nil_of_length_eq_zero (Nat.le_zero.1 hk)
    obtain rfl : [] = s := Option.some.inj h
    exact ⟨List.Perm.refl _, List.Pairwise.nil⟩
  | succ k ih =>
    cases l with
    | nil =>
      obtain rfl : [] = s := Option.some.inj h
      exact ⟨List.Perm.refl _, List.Pairwise.nil⟩
    | cons x xs =>
      rw [sortFrom] at h
      split at h
      next => exact absurd h nofun
      next m j hscan =>
        obtain ⟨rest, hrest, rfl⟩ := Option.map_eq_some_iff.1 h
        have hleast : LeastAt cmp (x :: xs) j m := scan_leastAt (leastAt_singleton x) hscan
        have hlen : ((x :: xs).set j x).tail.length ≤ k := by
          rw [List.length_tail, List.length_set]
          exact Nat.sub_le_of_le_add hk
        obtain ⟨hperm, hsorted⟩ := ih hlen hrest
        refine ⟨(hperm.cons m).trans (exchange_perm hleast.1), ?_⟩
        exact List.Pairwise.cons (fun y hy => hleast.lt_rest (hperm.mem_iff.1 hy)) hsorted

end Order

section Repetitions

variable [Std.LawfulEqCmp cmp]

/-- Without a repetition the scan goes through. -/
theorem scan_isSome {least : α} {swap i : ℕ} (h : (least :: xs).Nodup) :
    (scan cmp least swap i xs).isSome := by
  induction xs generalizing least swap i with
  | nil => rfl
  | cons x xs ih =>
    obtain ⟨hnot, htail⟩ := List.nodup_cons.1 h
    rw [scan]
    split
    next => exact ih htail
    next heq =>
      have hx : x = least := Std.LawfulEqCmp.eq_of_compare heq
      exact absurd (hx ▸ List.mem_cons_self) hnot
    next =>
      refine ih (List.nodup_cons.2 ⟨fun hmem => hnot (List.mem_cons_of_mem x hmem), ?_⟩)
      exact (List.nodup_cons.1 htail).2

/-- Entries in strictly increasing order do not repeat. -/
theorem Increasing.nodup (h : Increasing cmp s) : s.Nodup :=
  h.imp fun hlt heq => by
    subst heq
    exact absurd (Std.ReflCmp.compare_self.symm.trans hlt) nofun

variable [Std.TransCmp cmp]

theorem sortFrom_isSome {k : ℕ} (h : l.Nodup) : (sortFrom cmp k l).isSome := by
  induction k generalizing l with
  | zero => rfl
  | succ k ih =>
    cases l with
    | nil => rfl
    | cons x xs =>
      obtain ⟨⟨m, j⟩, hscan⟩ := Option.isSome_iff_exists.1 (@scan_isSome α cmp xs _ x 0 1 h)
      have hleast : LeastAt cmp (x :: xs) j m := scan_leastAt (leastAt_singleton x) hscan
      have hrest := (exchange_perm hleast.1).nodup_iff.2 h
      rw [sortFrom, hscan, Option.isSome_map]
      exact ih (List.nodup_cons.1 hrest).2

/-- Two lists of the same entries in strictly increasing order are one. -/
theorem Increasing.eq_of_perm {t : List α} (h : Increasing cmp s) (h' : Increasing cmp t)
    (hperm : s.Perm t) : s = t := by
  refine hperm.eq_of_pairwise (fun x y _ _ hxy hyx => ?_) h h'
  exact absurd (Std.ReflCmp.compare_self.symm.trans (Std.TransCmp.lt_trans hxy hyx)) nofun

/-- **What the sort returns.** -/
theorem selectionSort_eq_some_iff :
    selectionSort cmp l = some s ↔ s.Perm l ∧ Increasing cmp s := by
  constructor
  · exact sortFrom_sound (Nat.le_refl _)
  · rintro ⟨hperm, hsorted⟩
    have hnodup := hperm.nodup_iff.1 hsorted.nodup
    obtain ⟨t, ht⟩ := Option.isSome_iff_exists.1 (@sortFrom_isSome α cmp l _ _ l.length hnodup)
    obtain ⟨hperm', hsorted'⟩ := sortFrom_sound (Nat.le_refl _) ht
    rw [hsorted.eq_of_perm hsorted' (hperm.trans hperm'.symm)]
    exact ht

/-- **When it gives up.** -/
theorem isSome_selectionSort : (selectionSort cmp l).isSome ↔ l.Nodup := by
  constructor
  · intro h
    obtain ⟨s, hs⟩ := Option.isSome_iff_exists.1 h
    obtain ⟨hperm, hsorted⟩ := selectionSort_eq_some_iff.1 hs
    exact hperm.nodup_iff.1 hsorted.nodup
  · exact sortFrom_isSome

/-- The order of the entries makes no difference. -/
theorem selectionSort_congr (h : l.Perm l') : selectionSort cmp l = selectionSort cmp l' := by
  refine Option.ext fun s => ?_
  rw [selectionSort_eq_some_iff, selectionSort_eq_some_iff]
  exact and_congr_left fun _ => ⟨fun hs => hs.trans h, fun hs => hs.trans h.symm⟩

end Repetitions

end Ninlil.SelectionSort
