import Mathlib.Data.List.FinRange
import Mathlib.Data.Fintype.Card
import Mathlib.Data.List.Nodup

/-!
# Lists grouped by a key

* `flatMap_filter_of_sorted`: a list sorted by a key below `n` is the groups of the keys in order;
* `filter_flatMap_finRange`: the group of one key of groups in order;
* `length_le_of_injective`: things that map to different numbers below `m` are at most `m`.
-/

namespace Ninlil.Groups

variable {α : Type*} {n m : ℕ}

/-- A sorted list is what is below a bound, and then the rest. -/
theorem filter_lt_append {l : List α} {f : α → ℕ} (h : l.Pairwise fun a b => f a ≤ f b) :
    (l.filter fun a => f a < n) ++ (l.filter fun a => ¬f a < n) = l := by
  induction l with
  | nil => rfl
  | cons a l ih =>
    rw [List.pairwise_cons] at h
    by_cases ha : f a < n
    · rw [List.filter_cons_of_pos (by simpa using ha), List.filter_cons_of_neg (by simpa using ha),
        List.cons_append, ih h.2]
    · have hge : ∀ b ∈ l, ¬f b < n := fun b hb hlt => ha (Nat.lt_of_le_of_lt (h.1 b hb) hlt)
      rw [List.filter_cons_of_neg (by simpa using ha), List.filter_cons_of_pos (by simpa using ha),
        List.filter_eq_nil_iff.2 (by simpa using hge), List.filter_eq_self.2 (by simpa using hge),
        List.nil_append]

theorem flatMap_filter_range {l : List α} {f : α → ℕ} (h : l.Pairwise fun a b => f a ≤ f b)
    (hlt : ∀ a ∈ l, f a < n) : ((List.range n).flatMap fun k => l.filter fun a => f a = k) = l := by
  induction n generalizing l with
  | zero =>
    cases l with
    | nil => rfl
    | cons a l => exact absurd (hlt a List.mem_cons_self) (Nat.not_lt_zero _)
  | succ n ih =>
    have hbelow := ih (h.sublist (List.filter_sublist (p := fun a => decide (f a < n))))
      fun a ha => by simpa using (List.mem_filter.1 ha).2
    have hgroups : ((List.range n).flatMap fun k => (l.filter fun a => f a < n).filter
        fun a => f a = k) = (List.range n).flatMap fun k => l.filter fun a => f a = k := by
      refine List.flatMap_congr fun k hk => ?_
      rw [List.filter_filter]
      refine List.filter_congr fun a _ => ?_
      have hkn := List.mem_range.1 hk
      by_cases hak : f a = k
      · simp [hak, hkn]
      · simp [hak]
    have hlast : (l.filter fun a => ¬f a < n) = l.filter fun a => f a = n := by
      refine List.filter_congr fun a ha => ?_
      have hle := hlt a ha
      exact decide_eq_decide.2 (by omega)
    rw [hgroups] at hbelow
    rw [List.range_succ, List.flatMap_append, hbelow, List.flatMap_singleton, ← hlast]
    exact filter_lt_append h

/-- A list sorted by a key below `n` is the groups of the keys in order. -/
theorem flatMap_filter_of_sorted {l : List α} {f : α → ℕ} (h : l.Pairwise fun a b => f a ≤ f b)
    (hlt : ∀ a ∈ l, f a < n) :
    ((List.finRange n).flatMap fun k : Fin n => l.filter fun a => f a = k.val) = l := by
  have hrange := flatMap_filter_range h hlt
  rw [← List.map_coe_finRange_eq_range, List.flatMap_map] at hrange
  exact hrange

/-- The groups of the keys in order, and the group of one key. -/
theorem filter_flatMap_finRange {g : Fin n → List α} {f : α → ℕ} (hg : ∀ k, ∀ a ∈ g k, f a = k.val)
    (k : Fin n) : (((List.finRange n).flatMap g).filter fun a => f a = k.val) = g k := by
  have hgroup : ∀ l : List (Fin n), l.Nodup → ((l.flatMap g).filter fun a => f a = k.val) =
      if k ∈ l then g k else [] := by
    intro l hl
    induction l with
    | nil => rfl
    | cons j l ih =>
      obtain ⟨hj, hl⟩ := List.nodup_cons.1 hl
      rw [List.flatMap_cons, List.filter_append, ih hl]
      by_cases hjk : j = k
      · subst hjk
        rw [if_neg hj, if_pos List.mem_cons_self, List.append_nil,
          List.filter_eq_self.2 fun a ha => decide_eq_true (hg j a ha)]
      · have hnone : ((g j).filter fun a => decide (f a = k.val)) = [] := by
          refine List.filter_eq_nil_iff.2 fun a ha heq => hjk (Fin.val_injective ?_)
          rw [← hg j a ha]
          exact of_decide_eq_true heq
        have hmem : k ∈ j :: l ↔ k ∈ l := by
          rw [List.mem_cons, or_iff_right (Ne.symm hjk)]
        rw [hnone, List.nil_append]
        simp only [hmem]
  rw [hgroup _ (List.nodup_finRange n), if_pos (List.mem_finRange k)]

/-- Things that map to different numbers below `m` are at most `m`. -/
theorem length_le_of_injective {l : List α} (hl : l.Nodup) (f : α → Option (Fin m))
    (hsome : ∀ a ∈ l, (f a).isSome = true)
    (hinj : ∀ a b p, f a = some p → f b = some p → a = b) : l.length ≤ m := by
  have hnodup : (l.filterMap f).Nodup := hl.filterMap fun a b p ha hb => hinj a b p ha hb
  have hlen : (l.filterMap f).length = l.length := by
    clear hl hnodup
    induction l with
    | nil => rfl
    | cons a l ih =>
      obtain ⟨p, hp⟩ := Option.isSome_iff_exists.1 (hsome a List.mem_cons_self)
      rw [List.filterMap_cons_some hp, List.length_cons, List.length_cons,
        ih fun b hb => hsome b (List.mem_cons_of_mem _ hb)]
  have hle := List.Nodup.length_le_card hnodup
  rwa [hlen, Fintype.card_fin] at hle

end Ninlil.Groups
