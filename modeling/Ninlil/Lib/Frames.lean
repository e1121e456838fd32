import Ninlil.Lib.Outcomes

/-!
# Programs that never raise a value

A value of the state, in some order, and the programs after which it is at most what it was,
however they end.

* `Lowers f m`: `m` never raises `f`;
* `Drops f m`: moreover `f` is the least value once `m` returns;
* one rule for each construct, so that a program never raises `f` if its parts do not, and drops it
  if one of them does.
-/

namespace Ninlil.Outcomes

universe u

variable {σ ε ε' α β : Type u} {γ : Type*} [Preorder γ]

/-- However `m` ends, `f` of the state is at most what it was. -/
def Lowers (f : σ → γ) (m : Prog σ ε α) : Prop := ∀ s, f (m.outcome s).2 ≤ f s

section Rules

variable {f : σ → γ} {m : Prog σ ε α} {k : α → Prog σ ε β} {s : σ}

theorem Lowers.ends (h : Lowers f m) (s : σ) :
    Ends m s (fun _ s' => f s' ≤ f s) fun _ s' => f s' ≤ f s := by
  refine Ends.of_outcome ?_ ?_
  · intro a s' hm
    have hle := h s
    rwa [hm] at hle
  · intro e s' hm
    have hle := h s
    rwa [hm] at hle

theorem lowers_of_ends
    (h : ∀ s, Ends m s (fun _ s' => f s' ≤ f s) fun _ s' => f s' ≤ f s) : Lowers f m := by
  intro s
  rcases hm : m.outcome s with ⟨e | a, s'⟩
  · exact (h s).error hm
  · exact (h s).ok hm

theorem lowers_pure {a : α} : Lowers f (pure a : Prog σ ε α) := fun s => le_refl (f s)

theorem lowers_throw {e : ε} : Lowers f (throw e : Prog σ ε α) := fun s => le_refl (f s)

theorem lowers_require {c : Bool} {e : ε} : Lowers f (require c e) := by
  cases c with
  | false => exact lowers_throw
  | true => exact lowers_pure

theorem Lowers.bind (h : Lowers f m) (hk : ∀ a, Lowers f (k a)) : Lowers f (m >>= k) :=
  lowers_of_ends fun s => (h.ends s).bind fun a s' ha =>
    ((hk a).ends s').mono (fun _ _ hb => hb.trans ha) fun _ _ he => he.trans ha

theorem Lowers.ite {c : Prop} [Decidable c] {n : Prog σ ε α} (h : Lowers f m)
    (hn : Lowers f n) : Lowers f (if c then m else n) := by
  split
  · exact h
  · exact hn

theorem Lowers.attempt (h : Lowers f m) :
    Lowers f (attempt m : Prog σ ε' (Except ε α)) := h

theorem Lowers.onFailure {g : ε → Prog σ ε' PUnit} (h : Lowers f m) (hg : ∀ e, Lowers f (g e)) :
    Lowers f (onFailure m g) := by
  refine h.attempt.bind ?_
  rintro (e | a)
  · exact (hg e).attempt.bind fun _ => lowers_throw
  · exact lowers_pure

theorem Lowers.mapFailure {g : ε → ε'} (h : Lowers f m) : Lowers f (mapFailure g m) := by
  refine h.attempt.bind ?_
  rintro (e | a)
  · exact lowers_throw
  · exact lowers_pure

/-- A condition that is required, and what follows if it holds. -/
theorem ends_require_bind {c : Bool} {e : ε} {k : PUnit → Prog σ ε β} {R : β → σ → Prop}
    {E : ε → σ → Prop} (hE : c = false → E e s) (hk : c = true → Ends (k ⟨⟩) s R E) :
    Ends (require c e >>= k) s R E := by
  refine (ends_require hE).bind ?_
  rintro _ _ ⟨rfl, hc⟩
  exact hk hc

end Rules

section Drops

variable {δ : Type*} [PartialOrder δ] [OrderBot δ] {f : σ → δ} {m : Prog σ ε α}
  {k : α → Prog σ ε β}

/-- `m` never raises `f`, and where it returns `f` is the least value. -/
def Drops (f : σ → δ) (m : Prog σ ε α) : Prop :=
  ∀ s, Ends m s (fun _ s' => f s' = ⊥) fun _ s' => f s' ≤ f s

theorem drops_throw {e : ε} : Drops f (throw e : Prog σ ε α) := fun s => ends_throw (le_refl (f s))

theorem Lowers.bind_drops (h : Lowers f m) (hk : ∀ a, Drops f (k a)) : Drops f (m >>= k) :=
  fun s => (h.ends s).bind fun a s' ha =>
    (hk a s').mono (fun _ _ hb => hb) fun _ _ he => he.trans ha

theorem Drops.bind (h : Drops f m) (hk : ∀ a, Lowers f (k a)) : Drops f (m >>= k) :=
  fun s => (h s).bind fun a s' ha =>
    ((hk a).ends s').mono (fun _ _ hb => bot_unique (hb.trans ha.le)) fun _ _ he =>
      (he.trans ha.le).trans bot_le

end Drops

end Ninlil.Outcomes
