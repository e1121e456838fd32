import Mathlib.Data.List.Nodup
import Mathlib.Logic.Equiv.Basic

/-!
# Moving slots to the front of an array

Some slots of an array are moved to its front in place, in a given order, with room for one slot
besides the array. A slot that is moved to may hold one that is still to be moved; the two are then
exchanged, and the list of what is still to be moved follows.

* `move`, `compact`: one iteration, and the loop;
* `Pending`: what is still to be moved, kept by an iteration (`Pending.move`);
* `compact_places`: every slot arrives where it belongs.
-/

namespace Ninlil.Compact

variable {α : Type} {none : α}

/-! ### One slot -/

theorem getD_set_self {a : List α} {i : ℕ} (h : i < a.length) (x : α) :
    (a.set i x).getD i none = x := by
  simp [h]

theorem getD_set_ne {a : List α} {i j : ℕ} (h : i ≠ j) (x : α) :
    (a.set i x).getD j none = a.getD j none := by
  simp [List.getD_eq_getElem?_getD, List.getElem?_set_ne h]

/-! ### The loop -/

/-- Where a slot that is still to be moved stands, after two slots were exchanged. -/
def follow (dst src k : ℕ) : ℕ := if k = dst then src else if k = src then dst else k

/-- One iteration: the first slot that is still to be moved goes to `dst`. A place that is not in
use cannot hold another one. -/
def move (none : α) (inUse : α → Bool) (clear : α → α) (dst : ℕ) :
    List ℕ × List α → List ℕ × List α
  | ([], a) => ([], a)
  | (src :: rest, a) =>
    if src = dst then (rest, a)
    else if inUse (a.getD dst none) = true ∧ dst ∈ rest then
      (rest.map (follow dst src),
        (a.set dst (a.getD src none)).set src (a.getD dst none))
    else
      (rest, (a.set dst (a.getD src none)).set src
        (clear ((a.set dst (a.getD src none)).getD src none)))

theorem move_cons (inUse : α → Bool) (clear : α → α) (dst src : ℕ) (rest : List ℕ) (a : List α) :
    move none inUse clear dst (src :: rest, a) =
      if src = dst then (rest, a)
      else if inUse (a.getD dst none) = true ∧ dst ∈ rest then
        (rest.map (follow dst src),
          (a.set dst (a.getD src none)).set src (a.getD dst none))
      else
        (rest, (a.set dst (a.getD src none)).set src
          (clear ((a.set dst (a.getD src none)).getD src none))) := rfl

/-- The loop over the first `n` places. -/
def compact (none : α) (inUse : α → Bool) (clear : α → α) (n : ℕ) (s : List ℕ × List α) :
    List ℕ × List α :=
  (List.range n).foldl (fun s dst => move none inUse clear dst s) s

/-! ### What the loop keeps -/

/-- What is still to be moved at a place `dst`: distinct slots in use, none of them before it. -/
structure Pending (none : α) (inUse : α → Bool) (dst : ℕ) (srcs : List ℕ) (a : List α) : Prop where
  nodup : srcs.Nodup
  le : ∀ k ∈ srcs, dst ≤ k
  lt : ∀ k ∈ srcs, k < a.length
  used : ∀ k ∈ srcs, inUse (a.getD k none) = true
  room : dst + srcs.length ≤ a.length

/-- What has arrived, and behind it what is still to be moved. -/
def values (none : α) (dst : ℕ) (srcs : List ℕ) (a : List α) : List α :=
  (List.range dst ++ srcs).map fun k => a.getD k none

section Step

variable {inUse : α → Bool} {clear : α → α} {dst src : ℕ} {rest : List ℕ} {a a' : List α}
  {f : ℕ → ℕ}

/-- The bounds of a slot that is moved. -/
theorem Pending.bounds (h : Pending none inUse dst (src :: rest) a) :
    dst < a.length ∧ src < a.length ∧ dst ≤ src ∧ src ∉ rest ∧
      dst + 1 + rest.length ≤ a.length := by
  have hroom := h.room
  rw [List.length_cons] at hroom
  exact ⟨by omega, h.lt src List.mem_cons_self, h.le src List.mem_cons_self,
    (List.nodup_cons.1 h.nodup).1, by omega⟩

/-- An iteration in general: one slot arrives, those before it stay, and those that wait are
found where the list says. -/
theorem Pending.step (h : Pending none inUse dst (src :: rest) a) (hf : Function.Injective f)
    (hlength : a'.length = a.length) (hbounds : ∀ k ∈ rest, dst + 1 ≤ f k ∧ f k < a.length)
    (hwaiting : ∀ k ∈ rest, a'.getD (f k) none = a.getD k none)
    (harrived : a'.getD dst none = a.getD src none)
    (hbefore : ∀ k < dst, a'.getD k none = a.getD k none) :
    Pending none inUse (dst + 1) (rest.map f) a' ∧
      values none (dst + 1) (rest.map f) a' = values none dst (src :: rest) a := by
  obtain ⟨-, hnodup⟩ := List.nodup_cons.1 h.nodup
  obtain ⟨-, -, -, -, hroom⟩ := h.bounds
  refine ⟨⟨hnodup.map hf, ?_, ?_, ?_, ?_⟩, ?_⟩
  · intro k' hk'
    obtain ⟨k, hk, rfl⟩ := List.mem_map.1 hk'
    exact (hbounds k hk).1
  · intro k' hk'
    obtain ⟨k, hk, rfl⟩ := List.mem_map.1 hk'
    rw [hlength]
    exact (hbounds k hk).2
  · intro k' hk'
    obtain ⟨k, hk, rfl⟩ := List.mem_map.1 hk'
    rw [hwaiting k hk]
    exact h.used k (List.mem_cons_of_mem _ hk)
  · rw [List.length_map, hlength]
    exact hroom
  · unfold values
    rw [List.range_succ, List.append_assoc, List.singleton_append, List.map_append, List.map_append,
      List.map_cons, List.map_cons, harrived, List.map_map]
    congr 1
    · exact List.map_congr_left fun k hk => hbefore k (List.mem_range.1 hk)
    · congr 1
      exact List.map_congr_left hwaiting

theorem follow_eq_swap (dst src : ℕ) : follow dst src = Equiv.swap dst src := by
  funext k
  exact (Equiv.swap_apply_def dst src k).symm

/-- **One iteration.** -/
theorem Pending.move (h : Pending none inUse dst (src :: rest) a) :
    Pending none inUse (dst + 1) (move none inUse clear dst (src :: rest, a)).1
        (move none inUse clear dst (src :: rest, a)).2 ∧
      values none (dst + 1) (move none inUse clear dst (src :: rest, a)).1
        (move none inUse clear dst (src :: rest, a)).2 = values none dst (src :: rest) a := by
  obtain ⟨hdst, hsrc, hle, hnotin, hroom⟩ := h.bounds
  have hrest : ∀ k ∈ rest, dst ≤ k ∧ k < a.length ∧ k ≠ src := fun k hk =>
    ⟨h.le k (List.mem_cons_of_mem _ hk), h.lt k (List.mem_cons_of_mem _ hk),
      fun heq => hnotin (heq ▸ hk)⟩
  rw [move_cons]
  by_cases heq : src = dst
  · -- the slot is where it belongs
    subst heq
    rw [if_pos rfl]
    have hstep := @Pending.step α none inUse src src rest a a id h Function.injective_id rfl
      (fun k hk => by
        obtain ⟨h1, h2, h3⟩ := hrest k hk
        exact ⟨by show src + 1 ≤ k; omega, h2⟩) (fun _ _ => rfl) rfl (fun _ _ => rfl)
    rwa [List.map_id] at hstep
  rw [if_neg heq]
  by_cases hlater : inUse (a.getD dst none) = true ∧ dst ∈ rest
  · -- the place holds a slot that is still to be moved: the two are exchanged
    rw [if_pos hlater]
    refine h.step ?_ ?_ ?_ ?_ ?_ ?_
    · rw [follow_eq_swap]
      exact (Equiv.swap dst src).injective
    · rw [List.length_set, List.length_set]
    · intro k hk
      obtain ⟨h1, h2, h3⟩ := hrest k hk
      unfold follow
      split_ifs <;> omega
    · intro k hk
      obtain ⟨h1, h2, h3⟩ := hrest k hk
      unfold follow
      by_cases hkd : k = dst
      · rw [if_pos hkd, getD_set_self (by rwa [List.length_set]), hkd]
      · rw [if_neg hkd, if_neg h3, getD_set_ne (Ne.symm h3), getD_set_ne (Ne.symm hkd)]
    · rw [getD_set_ne heq, getD_set_self hdst]
    · intro k hk
      rw [getD_set_ne (by omega), getD_set_ne (by omega)]
  · -- the place is free
    rw [if_neg hlater]
    have hfree : dst ∉ rest := by
      intro hmem
      exact hlater ⟨h.used dst (List.mem_cons_of_mem _ hmem), hmem⟩
    have hstep := @Pending.step α none inUse dst src rest a ((a.set dst (a.getD src none)).set src
      (clear ((a.set dst (a.getD src none)).getD src none))) id h Function.injective_id
      (by rw [List.length_set, List.length_set])
      (fun k hk => by
        obtain ⟨h1, h2, h3⟩ := hrest k hk
        have hne : k ≠ dst := fun hkd => hfree (hkd ▸ hk)
        exact ⟨by show dst + 1 ≤ k; omega, h2⟩)
      (fun k hk => by
        obtain ⟨h1, h2, h3⟩ := hrest k hk
        have hne : k ≠ dst := fun hkd => hfree (hkd ▸ hk)
        exact (getD_set_ne (Ne.symm h3) _).trans (getD_set_ne (Ne.symm hne) _))
      ((getD_set_ne heq _).trans (getD_set_self hdst _))
      (fun k hk => (getD_set_ne (by omega) _).trans (getD_set_ne (by omega) _))
    rwa [List.map_id] at hstep

end Step

/-! ### The whole loop -/

section Loop

variable {inUse : α → Bool} {clear : α → α}

theorem length_move (dst : ℕ) (s : List ℕ × List α) :
    (move none inUse clear dst s).2.length = s.2.length := by
  rcases s with ⟨_ | ⟨src, rest⟩, a⟩
  · rfl
  · rw [move_cons]
    split_ifs <;> simp

theorem compact_succ {s : List ℕ × List α} {n : ℕ} :
    compact none inUse clear (n + 1) s =
      move none inUse clear n (compact none inUse clear n s) := by
  unfold compact
  rw [List.range_succ, List.foldl_append]
  rfl

/-- A property that freeing keeps is kept by the loop. -/
theorem compact_forall {P : α → Prop} (hclear : ∀ x, P x → P (clear x)) {srcs : List ℕ}
    {a : List α} (ha : ∀ k, P (a.getD k none)) (n : ℕ) :
    ∀ k, P ((compact none inUse clear n (srcs, a)).2.getD k none) := by
  have hset : ∀ (b : List α) (i : ℕ) (x : α), (∀ k, P (b.getD k none)) → P x →
      ∀ k, P ((b.set i x).getD k none) := by
    intro b i x hb hx k
    by_cases hk : i = k
    · subst hk
      rcases Nat.lt_or_ge i b.length with hlt | hge
      · rwa [getD_set_self hlt]
      · rw [List.set_eq_of_length_le hge]
        exact hb i
    · rw [getD_set_ne hk]
      exact hb k
  induction n with
  | zero => exact ha
  | succ n ih =>
    rw [compact_succ]
    generalize compact none inUse clear n (srcs, a) = s at ih
    obtain ⟨_ | ⟨src, rest⟩, b⟩ := s
    · exact ih
    · rw [move_cons]
      split_ifs
      · exact ih
      · exact hset _ _ _ (hset _ _ _ ih (ih src)) (ih n)
      · exact hset _ _ _ (hset _ _ _ ih (ih src)) (hclear _ (hset _ _ _ ih (ih src) src))

/-- **Every slot arrives.** -/
theorem compact_places {srcs : List ℕ} {a : List α} (h : Pending none inUse 0 srcs a) :
    (compact none inUse clear srcs.length (srcs, a)).2.length = a.length ∧
      (List.range srcs.length).map
          (fun j => (compact none inUse clear srcs.length (srcs, a)).2.getD j none) =
        srcs.map fun k => a.getD k none := by
  have hrun : ∀ n ≤ srcs.length,
      Pending none inUse n (compact none inUse clear n (srcs, a)).1
        (compact none inUse clear n (srcs, a)).2 ∧
      (compact none inUse clear n (srcs, a)).1.length = srcs.length - n ∧
      (compact none inUse clear n (srcs, a)).2.length = a.length ∧
      values none n (compact none inUse clear n (srcs, a)).1
        (compact none inUse clear n (srcs, a)).2 = values none 0 srcs a := by
    intro n
    induction n with
    | zero => exact fun _ => ⟨h, rfl, rfl, rfl⟩
    | succ n ih =>
      intro hn
      obtain ⟨hpending, hcount, hlength, hvalues⟩ := ih (by omega)
      rw [compact_succ]
      generalize compact none inUse clear n (srcs, a) = s at hpending hcount hlength hvalues ⊢
      obtain ⟨_ | ⟨src, rest⟩, a'⟩ := s
      · rw [List.length_nil] at hcount
        omega
      · obtain ⟨hpending', hvalues'⟩ := @Pending.move α none inUse clear n src rest a' hpending
        refine ⟨hpending', ?_, (length_move n _).trans hlength, hvalues'.trans hvalues⟩
        have hroom : (move none inUse clear n (src :: rest, a')).1.length = rest.length := by
          rw [move_cons]
          split_ifs <;> simp
        rw [List.length_cons] at hcount
        omega
  obtain ⟨-, hcount, hlength, hvalues⟩ := hrun srcs.length (Nat.le_refl _)
  rw [Nat.sub_self, List.length_eq_zero_iff] at hcount
  unfold values at hvalues
  rw [hcount, List.append_nil] at hvalues
  exact ⟨hlength, hvalues⟩

end Loop

end Ninlil.Compact
