import Mathlib

/-!
# Reserved end records

A table of active jobs beside a table of end records.  A job reserves its end record when it is
opened, so that ending it can never fail for want of one; the record then outlives the job until it
expires.  Two jobs clash when they could be taken for each other.

* `Mark`: what a slot of the second table holds;
* `Balanced`: no two jobs clash, no two records clash, and the reserved records are exactly those
  of the active jobs;
* `Change`: open a job or end one; `Changes`: any number of changes;
* `Expires`: records expire;
* `Balanced.changes`, `Balanced.expires`: both keep `Balanced`;
* `Balanced.no_active_of_ended`: a job whose end is on record is not active;
* `changes_ended`, `changes_active`: what is on record stays there, and a job that is no longer
  active has its end on record.
-/

namespace Ninlil.Reservations

open Function (update update_of_ne update_self)

variable {m n : ℕ} {ι ρ : Type*}

/-- What a slot of the table of end records holds. -/
inductive Mark (ι ρ : Type*)
  | free
  | reserved (id : ι)
  | ended (id : ι) (record : ρ)

/-- The job a slot is about. -/
def Mark.id? : Mark ι ρ → Option ι
  | .free => none
  | .reserved a => some a
  | .ended a _ => some a

@[simp] theorem Mark.id?_free : (Mark.free : Mark ι ρ).id? = none := rfl
@[simp] theorem Mark.id?_reserved (a : ι) : (Mark.reserved a : Mark ι ρ).id? = some a := rfl
@[simp] theorem Mark.id?_ended (a : ι) (r : ρ) : (Mark.ended a r).id? = some a := rfl

/-- The two tables agree. -/
structure Balanced (clash : ι → ι → Prop) (active : Fin m → Option ι) (marks : Fin n → Mark ι ρ) :
    Prop where
  activeUnique : ∀ i j a b, active i = some a → active j = some b → clash a b → i = j
  markUnique : ∀ i j a b, (marks i).id? = some a → (marks j).id? = some b → clash a b → i = j
  backed : ∀ i a, active i = some a → ∃ j, marks j = .reserved a
  owned : ∀ j a, marks j = .reserved a → ∃ i, active i = some a

/-- What a step may do to the two tables. -/
inductive Change (clash : ι → ι → Prop) (active : Fin m → Option ι) (marks : Fin n → Mark ι ρ) :
    (Fin m → Option ι) → (Fin n → Mark ι ρ) → Prop
  | opens (i : Fin m) (j : Fin n) (a : ι) (hi : active i = none) (hj : marks j = .free)
      (hactive : ∀ i' b, active i' = some b → ¬ clash a b ∧ ¬ clash b a)
      (hmarks : ∀ j' b, (marks j').id? = some b → ¬ clash a b ∧ ¬ clash b a) :
      Change clash active marks (update active i (some a))
        (update marks j (.reserved a))
  | ends (i : Fin m) (j : Fin n) (a : ι) (r : ρ) (hi : active i = some a)
      (hj : marks j = .reserved a) :
      Change clash active marks (update active i none)
        (update marks j (.ended a r))

/-- Any number of changes. -/
def Changes (clash : ι → ι → Prop) (active : Fin m → Option ι) (marks : Fin n → Mark ι ρ)
    (active' : Fin m → Option ι) (marks' : Fin n → Mark ι ρ) : Prop :=
  Relation.ReflTransGen (fun s s' => Change clash s.1 s.2 s'.1 s'.2) (active, marks)
    (active', marks')

/-- Some ends on record are dropped. -/
def Expires (marks marks' : Fin n → Mark ι ρ) : Prop :=
  ∀ j, marks' j = marks j ∨ marks' j = .free ∧ ∃ a r, marks j = .ended a r

variable {clash : ι → ι → Prop} {active active' : Fin m → Option ι} {marks marks' : Fin n → Mark ι ρ}

/-- Empty tables. -/
theorem balanced_empty :
    Balanced clash (fun _ : Fin m => none) (fun _ : Fin n => Mark.free (ρ := ρ)) where
  activeUnique := by simp
  markUnique := by simp
  backed := by simp
  owned := by simp

section Facts

variable (hrefl : ∀ a, clash a a)

include hrefl

/-- The reserved record of a job. -/
theorem Balanced.reserved_unique (h : Balanced clash active marks) {i : Fin m} {a : ι}
    (hi : active i = some a) : ∃! j, marks j = .reserved a := by
  obtain ⟨j, hj⟩ := h.backed i a hi
  refine ⟨j, hj, fun j' hj' => ?_⟩
  exact h.markUnique j' j a a (by rw [hj']; rfl) (by rw [hj]; rfl) (hrefl a)

/-- The job of a reserved record. -/
theorem Balanced.owner_unique (h : Balanced clash active marks) {j : Fin n} {a : ι}
    (hj : marks j = .reserved a) : ∃! i, active i = some a := by
  obtain ⟨i, hi⟩ := h.owned j a hj
  exact ⟨i, hi, fun i' hi' => h.activeUnique i' i a a hi' hi (hrefl a)⟩

end Facts

/-- A job that clashes with one whose end is on record is not active. -/
theorem Balanced.no_active_of_ended (h : Balanced clash active marks) {j : Fin n} {a b : ι} {r : ρ}
    (hj : marks j = .ended a r) {i : Fin m} (hi : active i = some b) : ¬ clash b a := by
  intro hclash
  obtain ⟨j', hj'⟩ := h.backed i b hi
  have hjj := h.markUnique j' j b a (by rw [hj']; rfl) (by rw [hj]; rfl) hclash
  rw [hjj, hj] at hj'
  cases hj'

/-- Opening a job. -/
theorem Balanced.opens (h : Balanced clash active marks) {i : Fin m} {j : Fin n} {a : ι}
    (hi : active i = none) (hj : marks j = .free)
    (hactive : ∀ i' b, active i' = some b → ¬ clash a b ∧ ¬ clash b a)
    (hmarks : ∀ j' b, (marks j').id? = some b → ¬ clash a b ∧ ¬ clash b a) :
    Balanced clash (update active i (some a))
      (update marks j (.reserved a)) where
  activeUnique := by
    intro x y b c hx hy hclash
    by_cases hxi : x = i
    · by_cases hyi : y = i
      · rw [hxi, hyi]
      · rw [hxi, update_self] at hx
        rw [update_of_ne hyi] at hy
        cases hx
        exact absurd hclash (hactive y c hy).1
    · rw [update_of_ne hxi] at hx
      by_cases hyi : y = i
      · rw [hyi, update_self] at hy
        cases hy
        exact absurd hclash (hactive x b hx).2
      · rw [update_of_ne hyi] at hy
        exact h.activeUnique x y b c hx hy hclash
  markUnique := by
    intro x y b c hx hy hclash
    by_cases hxj : x = j
    · by_cases hyj : y = j
      · rw [hxj, hyj]
      · rw [hxj, update_self] at hx
        rw [update_of_ne hyj] at hy
        cases hx
        exact absurd hclash (hmarks y c hy).1
    · rw [update_of_ne hxj] at hx
      by_cases hyj : y = j
      · rw [hyj, update_self] at hy
        cases hy
        exact absurd hclash (hmarks x b hx).2
      · rw [update_of_ne hyj] at hy
        exact h.markUnique x y b c hx hy hclash
  backed := by
    intro x b hx
    by_cases hxi : x = i
    · rw [hxi, update_self] at hx
      cases hx
      exact ⟨j, update_self ..⟩
    · rw [update_of_ne hxi] at hx
      obtain ⟨y, hy⟩ := h.backed x b hx
      have hyj : y ≠ j := by
        rintro rfl
        rw [hj] at hy
        cases hy
      exact ⟨y, by rw [update_of_ne hyj, hy]⟩
  owned := by
    intro y b hy
    by_cases hyj : y = j
    · rw [hyj, update_self] at hy
      cases hy
      exact ⟨i, update_self ..⟩
    · rw [update_of_ne hyj] at hy
      obtain ⟨x, hx⟩ := h.owned y b hy
      have hxi : x ≠ i := by
        rintro rfl
        rw [hi] at hx
        cases hx
      exact ⟨x, by rw [update_of_ne hxi, hx]⟩

/-- Ending a job. -/
theorem Balanced.ends (h : Balanced clash active marks) (hrefl : ∀ a, clash a a) {i : Fin m}
    {j : Fin n} {a : ι} {r : ρ} (hi : active i = some a) (hj : marks j = .reserved a) :
    Balanced clash (update active i none) (update marks j (.ended a r)) where
  activeUnique := by
    intro x y b c hx hy hclash
    by_cases hxi : x = i
    · rw [hxi, update_self] at hx
      cases hx
    · by_cases hyi : y = i
      · rw [hyi, update_self] at hy
        cases hy
      · rw [update_of_ne hxi] at hx
        rw [update_of_ne hyi] at hy
        exact h.activeUnique x y b c hx hy hclash
  markUnique := by
    have hid : ∀ x, (update marks j (.ended a r) x).id? = (marks x).id? := by
      intro x
      by_cases hxj : x = j
      · rw [hxj, update_self, hj]
        rfl
      · rw [update_of_ne hxj]
    intro x y b c hx hy hclash
    rw [hid] at hx hy
    exact h.markUnique x y b c hx hy hclash
  backed := by
    intro x b hx
    by_cases hxi : x = i
    · rw [hxi, update_self] at hx
      cases hx
    · rw [update_of_ne hxi] at hx
      obtain ⟨y, hy⟩ := h.backed x b hx
      have hyj : y ≠ j := by
        rintro rfl
        rw [hj] at hy
        cases hy
        exact hxi (h.activeUnique x i a a hx hi (hrefl a))
      exact ⟨y, by rw [update_of_ne hyj, hy]⟩
  owned := by
    intro y b hy
    by_cases hyj : y = j
    · rw [hyj, update_self] at hy
      cases hy
    · rw [update_of_ne hyj] at hy
      obtain ⟨x, hx⟩ := h.owned y b hy
      have hxi : x ≠ i := by
        rintro rfl
        rw [hi] at hx
        cases hx
        exact hyj (h.markUnique y j a a (by rw [hy]; rfl) (by rw [hj]; rfl) (hrefl a))
      exact ⟨x, by rw [update_of_ne hxi, hx]⟩

/-- Records expire. -/
theorem Balanced.expires (h : Balanced clash active marks) (hexp : Expires marks marks') :
    Balanced clash active marks' where
  activeUnique := h.activeUnique
  markUnique := by
    have hid : ∀ x b, (marks' x).id? = some b → (marks x).id? = some b := by
      intro x b hx
      rcases hexp x with hsame | ⟨hfree, -⟩
      · rwa [← hsame]
      · rw [hfree] at hx
        cases hx
    intro x y b c hx hy hclash
    exact h.markUnique x y b c (hid x b hx) (hid y c hy) hclash
  backed := by
    intro x b hx
    obtain ⟨y, hy⟩ := h.backed x b hx
    rcases hexp y with hsame | ⟨-, a, r, hended⟩
    · exact ⟨y, hsame.trans hy⟩
    · rw [hy] at hended
      cases hended
  owned := by
    intro y b hy
    rcases hexp y with hsame | ⟨hfree, -⟩
    · exact h.owned y b (hsame.symm.trans hy)
    · rw [hfree] at hy
      cases hy

theorem Balanced.change (h : Balanced clash active marks) (hrefl : ∀ a, clash a a)
    (hc : Change clash active marks active' marks') : Balanced clash active' marks' := by
  cases hc with
  | opens i j a hi hj hactive hmarks => exact h.opens hi hj hactive hmarks
  | ends i j a r hi hj => exact h.ends hrefl hi hj

/-- **Changes keep the tables balanced.** -/
theorem Balanced.changes (h : Balanced clash active marks) (hrefl : ∀ a, clash a a)
    (hc : Changes clash active marks active' marks') : Balanced clash active' marks' := by
  have hrun : ∀ s, Relation.ReflTransGen (fun s s' : (Fin m → Option ι) × (Fin n → Mark ι ρ) =>
      Change clash s.1 s.2 s'.1 s'.2) (active, marks) s → Balanced clash s.1 s.2 := by
    intro s hs
    induction hs with
    | refl => exact h
    | tail _ hstep ih => exact ih.change hrefl hstep
  exact hrun _ hc

theorem Changes.refl : Changes clash active marks active marks := Relation.ReflTransGen.refl

theorem Change.changes (hc : Change clash active marks active' marks') :
    Changes clash active marks active' marks' := Relation.ReflTransGen.single hc

theorem Changes.trans {active'' : Fin m → Option ι} {marks'' : Fin n → Mark ι ρ}
    (h : Changes clash active marks active' marks')
    (h' : Changes clash active' marks' active'' marks'') :
    Changes clash active marks active'' marks'' := Relation.ReflTransGen.trans h h'

theorem Change.ended (hc : Change clash active marks active' marks') {j : Fin n} {a : ι} {r : ρ}
    (hj : marks j = .ended a r) : marks' j = .ended a r := by
  cases hc with
  | opens i j' b hi hj' hactive hmarks =>
    have hne : j ≠ j' := by
      rintro rfl
      rw [hj] at hj'
      cases hj'
    rw [update_of_ne hne, hj]
  | ends i j' b r' hi hj' =>
    have hne : j ≠ j' := by
      rintro rfl
      rw [hj] at hj'
      cases hj'
    rw [update_of_ne hne, hj]

theorem Change.stays_or_ended (hc : Change clash active marks active' marks') {i : Fin m} {a : ι}
    (hi : active i = some a) : active' i = some a ∨ ∃ j r, marks' j = .ended a r := by
  cases hc with
  | opens i' j b hi' hj hactive hmarks =>
    have hne : i ≠ i' := by
      rintro rfl
      rw [hi] at hi'
      cases hi'
    left
    rw [update_of_ne hne, hi]
  | ends i' j b r hi' hj =>
    by_cases hii : i = i'
    · subst hii
      rw [hi] at hi'
      cases hi'
      exact .inr ⟨j, r, update_self ..⟩
    · left
      rw [update_of_ne hii, hi]

/-- An end on record stays on record. -/
theorem changes_ended (hc : Changes clash active marks active' marks') {j : Fin n} {a : ι} {r : ρ}
    (hj : marks j = .ended a r) : marks' j = .ended a r := by
  have hrun : ∀ s, Relation.ReflTransGen (fun s s' : (Fin m → Option ι) × (Fin n → Mark ι ρ) =>
      Change clash s.1 s.2 s'.1 s'.2) (active, marks) s → s.2 j = .ended a r := by
    intro s hs
    induction hs with
    | refl => exact hj
    | tail _ hstep ih => exact hstep.ended ih
  exact hrun _ hc

/-- A job that is no longer active has its end on record. -/
theorem changes_active (hc : Changes clash active marks active' marks') {i : Fin m} {a : ι}
    (hi : active i = some a) : active' i = some a ∨ ∃ j r, marks' j = .ended a r := by
  have hrun : ∀ s, Relation.ReflTransGen (fun s s' : (Fin m → Option ι) × (Fin n → Mark ι ρ) =>
      Change clash s.1 s.2 s'.1 s'.2) (active, marks) s →
        s.1 i = some a ∨ ∃ j r, s.2 j = .ended a r := by
    intro s hs
    induction hs with
    | refl => exact .inl hi
    | tail _ hstep ih =>
      rcases ih with hstay | ⟨j, r, hend⟩
      · exact hstep.stays_or_ended hstay
      · exact .inr ⟨j, r, hstep.ended hend⟩
  exact hrun _ hc

end Ninlil.Reservations
