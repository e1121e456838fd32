import Mathlib.Logic.Function.Basic
import Mathlib.Data.List.Basic

/-!
# A store whose cells are replaced as a whole

* `Seen`, `Step`, `Run`: the store as its clients see it, one event after the other;
* `Run.of_steps`: a machine whose every step is one of the store does what the store does.
-/

namespace Ninlil.AtomicStore

variable {ι α : Type*} [DecidableEq ι]

/-- What is seen of one step: nothing, a read, a write, or a write that may not have taken place. -/
inductive Seen (ι α : Type*)
  | quiet
  | reads (i : ι) (a : α)
  | writes (i : ι) (a : α)
  | attempts (i : ι) (a : α)

/-- One step of the store. -/
inductive Step : (ι → α) → Seen ι α → (ι → α) → Prop
  | quiet (c : ι → α) : Step c .quiet c
  | reads (c : ι → α) (i : ι) : Step c (.reads i (c i)) c
  | writes (c : ι → α) (i : ι) (a : α) : Step c (.writes i a) (Function.update c i a)
  | lost (c : ι → α) (i : ι) (a : α) : Step c (.attempts i a) c
  | kept (c : ι → α) (i : ι) (a : α) : Step c (.attempts i a) (Function.update c i a)

/-- A run of the store. -/
inductive Run : (ι → α) → List (Seen ι α) → (ι → α) → Prop
  | nil (c : ι → α) : Run c [] c
  | cons {c c' c'' : ι → α} {e : Seen ι α} {es : List (Seen ι α)} (h : Step c e c')
      (hs : Run c' es c'') : Run c (e :: es) c''

/-! ### Machines -/

section Machine

variable {σ ε : Type*} (next : σ → ε → σ) (sees : σ → ε → Seen ι α)

/-- What is seen of a machine, event by event. -/
def observed : σ → List ε → List (Seen ι α)
  | _, [] => []
  | s, e :: es => sees s e :: observed (next s e) es

variable {next sees} (I : σ → Prop) {A : ε → Prop} (cells : σ → ι → α)

/-- A machine that keeps an invariant, and does one step of the store at a time under it. -/
theorem Run.of_steps
    (hstep : ∀ s e, I s → A e → I (next s e) ∧ Step (cells s) (sees s e) (cells (next s e)))
    (es : List ε) (hes : ∀ e ∈ es, A e) {s : σ} (hs : I s) :
    I (es.foldl next s) ∧ Run (cells s) (observed next sees s es) (cells (es.foldl next s)) := by
  induction es generalizing s with
  | nil => exact ⟨hs, .nil _⟩
  | cons e es ih =>
    obtain ⟨hnext, hseen⟩ := hstep s e hs (hes e List.mem_cons_self)
    obtain ⟨hlast, hrun⟩ := ih (fun e' he' => hes e' (List.mem_cons_of_mem e he')) hnext
    exact ⟨hlast, .cons hseen hrun⟩

end Machine

end Ninlil.AtomicStore
