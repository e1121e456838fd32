import Mathlib

/-!
# Pools of generation-counted records

A fixed array of records that are taken and freed over and over.  A token names a record and the
generation at which it was taken, so that a stale token can be told from a current one.

* `Record`, `Coding`: a record, and a way to pack an index and a generation into a token;
* `resolve`: the record a token names;
* `Change`: what a call may do to a pool: free some records, or take one;
* `History`: the object that lives in each record, and the tokens issued so far;
* `Tracked`: the invariant, kept by every `Change`;
* `Tracked.resolve_iff`: an issued token resolves exactly to the record where its object lives.
-/

namespace Ninlil.Pool

open Function (update update_of_ne update_self)

/-- A record of a pool. -/
structure Record where
  inUse : Bool
  generation : ℕ

variable {n : ℕ}

/-- Tokens for a pool of `n` records, faithful for generations from `1` to `limit`. -/
structure Coding (n : ℕ) where
  limit : ℕ
  pack : Fin n → ℕ → ℕ
  unpack : ℕ → Option (Fin n × ℕ)
  unpack_pack : ∀ i g, 1 ≤ g → g ≤ limit → unpack (pack i g) = some (i, g)

/-- The record a token names: in use, at the generation of the token. -/
def resolve (c : Coding n) (r : Fin n → Record) (token : ℕ) : Option (Fin n) :=
  match c.unpack token with
  | none => none
  | some (i, g) => if (r i).inUse = true ∧ (r i).generation = g then some i else none

theorem resolve_pack_iff {c : Coding n} {r : Fin n → Record} {i j : Fin n} {g : ℕ}
    (h1 : 1 ≤ g) (hg : g ≤ c.limit) :
    resolve c r (c.pack i g) = some j
      ↔ j = i ∧ (r i).inUse = true ∧ (r i).generation = g := by
  unfold resolve
  rw [c.unpack_pack i g h1 hg]
  dsimp only
  split_ifs with h
  · simp only [Option.some.injEq, h, and_true]
    exact eq_comm
  · simp only [false_iff]
    exact fun hj => h hj.2

/-! ### Changes -/

/-- Nothing is taken: every record keeps its generation, and is kept or freed. -/
def Frees (r r' : Fin n → Record) : Prop :=
  ∀ i, (r' i).generation = (r i).generation ∧ ((r' i).inUse = true → (r i).inUse = true)

theorem Frees.refl (r : Fin n → Record) : Frees r r := fun _ => ⟨rfl, id⟩

theorem Frees.trans {r r' r'' : Fin n → Record} (h : Frees r r') (h' : Frees r' r'') :
    Frees r r'' :=
  fun i => ⟨(h' i).1.trans (h i).1, fun hi => (h i).2 ((h' i).2 hi)⟩

/-- What one call does to a pool, with the token it issues. -/
inductive Change (c : Coding n) (r r' : Fin n → Record) : Option ℕ → Prop
  | frees (h : Frees r r') : Change c r r' none
  | takes (i : Fin n) (hi : (r i).inUse = false) (hg : (r i).generation + 1 ≤ c.limit)
      (hr : r' = update r i ⟨true, (r i).generation + 1⟩) :
      Change c r r' (some (c.pack i ((r i).generation + 1)))

theorem Change.generation_le {c : Coding n} {r r' : Fin n → Record} {token : Option ℕ}
    (h : Change c r r' token) (i : Fin n) : (r i).generation ≤ (r' i).generation := by
  cases h with
  | frees h => exact (h i).1.ge
  | takes j hj hg hr =>
    subst hr
    by_cases hi : i = j
    · subst hi
      simp
    · rw [update_of_ne hi]

/-- A record in use whose generation did not grow was in use before. -/
theorem Change.inUse_of_le {c : Coding n} {r r' : Fin n → Record} {token : Option ℕ}
    (h : Change c r r' token) {i : Fin n} (hg : (r' i).generation ≤ (r i).generation)
    (hu : (r' i).inUse = true) : (r i).inUse = true := by
  cases h with
  | frees h => exact (h i).2 hu
  | takes j hj hgj hr =>
    subst hr
    by_cases hi : i = j
    · subst hi
      rw [update_self] at hg
      exact absurd hg (Nat.not_succ_le_self _)
    · rwa [update_of_ne hi] at hu

/-! ### Histories -/

/-- The object that lives in each record, and every token issued, with the object it is for.  An
object is named by the time at which it was made. -/
structure History (n : ℕ) where
  object : Fin n → Option ℕ := fun _ => none
  issued : List (ℕ × ℕ) := []

/-- The history after one call: a record that becomes used holds a new object, one that stays used
keeps its object, and one that is free has none. -/
def History.next (t : ℕ) (r r' : Fin n → Record) (token : Option ℕ) (H : History n) :
    History n where
  object := fun i =>
    if (r' i).inUse = true then if (r i).inUse = true then H.object i else some t else none
  issued := (token.map fun k => (k, t)).toList ++ H.issued

/-- The invariant of a pool and its history at time `t`. -/
structure Tracked (c : Coding n) (t : ℕ) (r : Fin n → Record) (H : History n) : Prop where
  limit : ∀ i, (r i).generation ≤ c.limit
  live : ∀ i, (r i).inUse = true ↔ (H.object i).isSome = true
  past : ∀ i o, H.object i = some o → o < t
  issued : ∀ p ∈ H.issued, p.2 < t ∧ ∃ i g, p.1 = c.pack i g ∧ 1 ≤ g ∧ g ≤ (r i).generation
    ∧ ∀ j, H.object j = some p.2 ↔ j = i ∧ (r i).inUse = true ∧ (r i).generation = g

/-- A pool that was never used. -/
theorem tracked_unused (c : Coding n) : Tracked c 0 (fun _ => ⟨false, 0⟩) {} where
  limit := fun _ => Nat.zero_le _
  live := by simp
  past := by simp
  issued := by simp

variable {c : Coding n} {t : ℕ} {r r' : Fin n → Record} {H : History n} {token : Option ℕ}

theorem Tracked.object_free (h : Tracked c t r H) {i : Fin n} (hi : (r i).inUse = false) :
    H.object i = none := by
  have := h.live i
  rw [hi] at this
  cases ho : H.object i with
  | none => rfl
  | some o => rw [ho] at this; simp at this

theorem Tracked.frees (h : Tracked c t r H) (hf : Frees r r') :
    Tracked c (t + 1) r' (H.next t r r' none) where
  limit := fun i => (hf i).1 ▸ h.limit i
  live := by
    intro i
    have hl := h.live i
    have hi := (hf i).2
    simp only [History.next]
    split_ifs with h1 h2
    · rw [h1, ← hl, h2]
    · exact absurd (hi h1) h2
    · simp [h1]
  past := by
    intro i o ho
    simp only [History.next] at ho
    split_ifs at ho with h1 h2
    · exact Nat.lt_succ_of_lt (h.past i o ho)
    · exact absurd ((hf i).2 h1) h2
  issued := by
    intro p hp
    obtain ⟨ht, i, g, hpk, h1, hg, hobj⟩ := h.issued p hp
    refine ⟨Nat.lt_succ_of_lt ht, i, g, hpk, h1, (hf i).1 ▸ hg, fun j => ?_⟩
    simp only [History.next]
    split_ifs with hj hj'
    · rw [hobj j, (hf i).1]
      constructor
      · rintro ⟨rfl, -, hgen⟩
        exact ⟨rfl, hj, hgen⟩
      · rintro ⟨rfl, -, hgen⟩
        exact ⟨rfl, hj', hgen⟩
    · exact absurd ((hf j).2 hj) hj'
    · simp only [false_iff]
      rintro ⟨rfl, hu, -⟩
      exact hj hu

theorem Tracked.takes (h : Tracked c t r H) {i : Fin n} (hi : (r i).inUse = false)
    (hg : (r i).generation + 1 ≤ c.limit) :
    Tracked c (t + 1) (update r i ⟨true, (r i).generation + 1⟩)
      (H.next t r (update r i ⟨true, (r i).generation + 1⟩)
        (some (c.pack i ((r i).generation + 1)))) := by
  have hnone := h.object_free hi
  have hobj : ∀ j, (H.next t r (update r i ⟨true, (r i).generation + 1⟩)
      (some (c.pack i ((r i).generation + 1)))).object j
        = if j = i then some t else H.object j := by
    intro j
    simp only [History.next]
    by_cases hj : j = i
    · subst hj
      simp [hi]
    · rw [update_of_ne hj, if_neg hj]
      split_ifs with hu
      · rfl
      · exact (h.object_free (by simpa using hu)).symm
  refine ⟨fun j => ?_, fun j => ?_, fun j o ho => ?_, fun p hp => ?_⟩
  · by_cases hj : j = i
    · subst hj
      simpa using hg
    · rw [update_of_ne hj]
      exact h.limit j
  · rw [hobj j]
    by_cases hj : j = i
    · subst hj
      simp
    · rw [update_of_ne hj, if_neg hj]
      exact h.live j
  · rw [hobj j] at ho
    by_cases hj : j = i
    · rw [if_pos hj] at ho
      cases ho
      exact Nat.lt_succ_self t
    · rw [if_neg hj] at ho
      exact Nat.lt_succ_of_lt (h.past j o ho)
  · have hmem : p = (c.pack i ((r i).generation + 1), t) ∨ p ∈ H.issued := by
      simpa [History.next] using hp
    rcases hmem with rfl | hmem
    · -- the token of this call: no older object has this name
      refine ⟨Nat.lt_succ_self t, i, (r i).generation + 1, rfl, Nat.le_add_left _ _, by simp,
        fun j => ?_⟩
      rw [hobj j]
      by_cases hj : j = i
      · simp [hj]
      · simp only [hj, if_false, false_and, iff_false]
        exact fun ho => absurd (h.past j t ho) (lt_irrefl t)
    · -- an older token: its object is not the new one, and its record was not taken again
      obtain ⟨ht, k, g, hpk, h1, hgk, hk⟩ := h.issued p hmem
      refine ⟨Nat.lt_succ_of_lt ht, k, g, hpk, h1, ?_, fun j => ?_⟩
      · by_cases hki : k = i
        · subst hki
          simpa using Nat.le_succ_of_le hgk
        · rw [update_of_ne hki]
          exact hgk
      · rw [hobj j]
        by_cases hj : j = i
        · subst hj
          rw [if_pos rfl]
          constructor
          · intro ho
            cases ho
            exact absurd ht (lt_irrefl _)
          · rintro ⟨rfl, -, hgen⟩
            rw [update_self] at hgen
            simp only at hgen
            omega
        · rw [if_neg hj, hk j]
          by_cases hki : k = i
          · subst hki
            exact ⟨fun hjk => absurd hjk.1 hj, fun hjk => absurd hjk.1 hj⟩
          · rw [update_of_ne hki]

/-- Every change keeps the invariant. -/
theorem Tracked.change (h : Tracked c t r H) (hc : Change c r r' token) :
    Tracked c (t + 1) r' (H.next t r r' token) := by
  cases hc with
  | frees hf => exact h.frees hf
  | takes i hi hg hr =>
    subst hr
    exact h.takes hi hg

/-- An issued token resolves exactly to the record in which its object lives. -/
theorem Tracked.resolve_iff (h : Tracked c t r H) {p : ℕ × ℕ} (hp : p ∈ H.issued) (j : Fin n) :
    resolve c r p.1 = some j ↔ H.object j = some p.2 := by
  obtain ⟨-, i, g, hpk, h1, hg, hobj⟩ := h.issued p hp
  rw [hpk, hobj j]
  exact resolve_pack_iff h1 (le_trans hg (h.limit i))

end Ninlil.Pool
