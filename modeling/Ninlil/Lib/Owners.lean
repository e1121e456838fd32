import Mathlib.Data.Fintype.Pigeonhole
import Mathlib.Data.Fintype.Option

/-!
# Pages and their owners

Some things each own at most one of a finite number of pages, and a table tells which pages are used:

* `Paged own used`: no page has two owners, and the pages used are the pages owned;
* `Paged.release`, `Paged.take`: an owner gives its page back, or takes a page that is not used;
* `Paged.exists_pair`: when all pages are used and there are more pages than keys, two owners have
  the same key.
-/

namespace Ninlil.Owners

variable {ι κ π : Type*} {own : ι → Option π} {used : π → Bool} {i j : ι} {p : π}

/-- No page has two owners, and the pages used are the pages owned. -/
structure Paged (own : ι → Option π) (used : π → Bool) : Prop where
  distinct : ∀ i j p, own i = some p → own j = some p → i = j
  used_iff : ∀ p, used p = true ↔ ∃ i, own i = some p

theorem paged_empty : Paged (fun _ : ι => none) fun _ : π => false where
  distinct _ _ _ hi := by cases hi
  used_iff _ := by
    constructor
    · intro h
      cases h
    · rintro ⟨_, h⟩
      cases h

theorem Paged.used_of_own (h : Paged own used) (hi : own i = some p) : used p = true :=
  (h.used_iff p).2 ⟨i, hi⟩

theorem Paged.not_own_of_unused (h : Paged own used) (hp : used p = false) (i : ι) :
    own i ≠ some p := by
  intro hi
  rw [h.used_of_own hi] at hp
  cases hp

section Updates

variable [DecidableEq ι] [DecidableEq π]

theorem Paged.release (h : Paged own used) (hi : own i = some p) :
    Paged (Function.update own i none) (Function.update used p false) := by
  refine ⟨fun j j' q hj hj' => ?_, fun q => ?_⟩
  · have hown : ∀ j, Function.update own i none j = some q → own j = some q := by
      intro j hj
      rw [Function.update_apply] at hj
      split at hj
      · cases hj
      · exact hj
    exact h.distinct j j' q (hown j hj) (hown j' hj')
  · rw [Function.update_apply]
    by_cases hq : q = p
    · subst hq
      rw [if_pos rfl]
      refine ⟨fun hf => Bool.noConfusion hf, fun ⟨j, hj⟩ => ?_⟩
      rw [Function.update_apply] at hj
      split at hj
      · cases hj
      · exact absurd (h.distinct j i q hj hi) (by assumption)
    · rw [if_neg hq, h.used_iff]
      constructor
      · rintro ⟨j, hj⟩
        have hji : j ≠ i := by
          rintro rfl
          rw [hi] at hj
          exact hq (Option.some.inj hj).symm
        exact ⟨j, by rw [Function.update_of_ne hji, hj]⟩
      · rintro ⟨j, hj⟩
        rw [Function.update_apply] at hj
        split at hj
        · cases hj
        · exact ⟨j, hj⟩

theorem Paged.take (h : Paged own used) (hi : own i = none) (hp : used p = false) :
    Paged (Function.update own i (some p)) (Function.update used p true) := by
  refine ⟨fun j j' q hj hj' => ?_, fun q => ?_⟩
  · rw [Function.update_apply] at hj hj'
    split at hj <;> split at hj'
    · simp_all only
    · cases hj
      exact absurd hj' (h.not_own_of_unused hp j')
    · cases hj'
      exact absurd hj (h.not_own_of_unused hp j)
    · exact h.distinct j j' q hj hj'
  · rw [Function.update_apply]
    by_cases hq : q = p
    · subst hq
      rw [if_pos rfl]
      exact ⟨fun _ => ⟨i, Function.update_self ..⟩, fun _ => rfl⟩
    · rw [if_neg hq, h.used_iff]
      constructor
      · rintro ⟨j, hj⟩
        have hji : j ≠ i := by
          rintro rfl
          rw [hi] at hj
          cases hj
        exact ⟨j, by rw [Function.update_of_ne hji, hj]⟩
      · rintro ⟨j, hj⟩
        rw [Function.update_apply] at hj
        split at hj
        · exact absurd (Option.some.inj hj).symm hq
        · exact ⟨j, hj⟩

end Updates

/-- More pages than keys, all of them used: two owners have the same key. -/
theorem Paged.exists_pair [Fintype κ] [Fintype π] (h : Paged own used) (key : ι → κ)
    (hcard : Fintype.card κ < Fintype.card π) (hall : ∀ p, used p = true) :
    ∃ i j, i ≠ j ∧ key i = key j ∧ (own i).isSome = true ∧ (own j).isSome = true := by
  choose owner howner using fun p => (h.used_iff p).1 (hall p)
  obtain ⟨p, q, hpq, hkey⟩ := Fintype.exists_ne_map_eq_of_card_lt (fun p => key (owner p)) hcard
  refine ⟨owner p, owner q, fun heq => hpq ?_, hkey, ?_, ?_⟩
  · have hq := howner q
    rw [← heq, howner p] at hq
    exact Option.some.inj hq
  · rw [howner p]
    rfl
  · rw [howner q]
    rfl

end Ninlil.Owners
