import Mathlib

/-!
# Programs over a state that return or fail

* `Prog σ ε α`: a program over a state `σ` that returns an `α` or fails with an `ε`, and keeps what
  it did to the state either way;
* `attempt`, `onFailure`, `mapFailure`, `ignore`: running a program without failing with it;
* `require`, `requireSome`: failing unless a condition holds;
* `Ends`: what holds after a program, one condition for each way it can end, with a rule for each
  construct.
-/

namespace Ninlil.Outcomes

universe u

variable {σ ε ε' α β : Type u}

/-- A program over a state that returns or fails. -/
abbrev Prog (σ ε : Type u) := ExceptT ε (StateM σ)

/-- The outcome of a program and the state it leaves. -/
def Prog.outcome (m : Prog σ ε α) (s : σ) : Except ε α × σ := m.run.run s

/-- A program whose outcome is a value: it never fails. -/
def attempt (m : Prog σ ε α) : Prog σ ε' (Except ε α) := ExceptT.mk (do return .ok (← m.run))

/-- Run `h` when `m` fails, then fail the same way. -/
def onFailure (m : Prog σ ε α) (h : ε → Prog σ ε' PUnit) : Prog σ ε α := do
  match ← attempt m with
  | .ok a => pure a
  | .error e =>
    let _ ← attempt (h e)
    throw e

/-- Fail in another way. -/
def mapFailure (g : ε → ε') (m : Prog σ ε α) : Prog σ ε' α := do
  match ← attempt m with
  | .ok a => pure a
  | .error e => throw (g e)

/-- Run `m` for what it does to the state. -/
def ignore (m : Prog σ ε α) : Prog σ ε' PUnit := do
  let _ ← attempt m
  pure ⟨⟩

/-- Fail with `e` unless the condition holds. -/
def require (c : Bool) (e : ε) : Prog σ ε PUnit := if c then pure ⟨⟩ else throw e

/-- The value, or fail with `e` when there is none. -/
def requireSome (o : Option α) (e : ε) : Prog σ ε α :=
  match o with
  | none => throw e
  | some a => pure a

/-- `Q` of an outcome that is a value, `E` of one that is a failure. -/
def Holds (Q : α → σ → Prop) (E : ε → σ → Prop) : Except ε α → σ → Prop
  | .ok a, s => Q a s
  | .error e, s => E e s

/-- After `m` from `s`, `Q` holds if it returns and `E` if it fails. -/
def Ends (m : Prog σ ε α) (s : σ) (Q : α → σ → Prop) (E : ε → σ → Prop) : Prop :=
  Holds Q E (m.outcome s).1 (m.outcome s).2

section Rules

variable {m : Prog σ ε α} {f : α → Prog σ ε β} {s s' : σ} {a : α} {e : ε}
variable {Q : α → σ → Prop} {R : β → σ → Prop} {E E' : ε → σ → Prop}

theorem outcome_bind_ok (h : m.outcome s = (.ok a, s')) :
    (m >>= f).outcome s = (f a).outcome s' := by
  have hbind : (m >>= f).outcome s =
      ((ExceptT.bindCont f (m.outcome s).1).run (m.outcome s).2 : Except ε β × σ) := rfl
  rw [hbind, h]
  rfl

theorem outcome_bind_error (h : m.outcome s = (.error e, s')) :
    (m >>= f).outcome s = (.error e, s') := by
  have hbind : (m >>= f).outcome s =
      ((ExceptT.bindCont f (m.outcome s).1).run (m.outcome s).2 : Except ε β × σ) := rfl
  rw [hbind, h]
  rfl

theorem Holds.mono {Q' : α → σ → Prop} {r : Except ε α} (h : Holds Q E r s)
    (hQ : ∀ a, Q a s → Q' a s) (hE : ∀ e, E e s → E' e s) : Holds Q' E' r s := by
  cases r with
  | ok a => exact hQ a h
  | error e => exact hE e h

theorem Ends.ok (h : Ends m s Q E) (hm : m.outcome s = (.ok a, s')) : Q a s' := by
  unfold Ends at h
  rwa [hm] at h

theorem Ends.error (h : Ends m s Q E) (hm : m.outcome s = (.error e, s')) : E e s' := by
  unfold Ends at h
  rwa [hm] at h

theorem Ends.of_outcome (hok : ∀ a s', m.outcome s = (.ok a, s') → Q a s')
    (herr : ∀ e s', m.outcome s = (.error e, s') → E e s') : Ends m s Q E := by
  unfold Ends
  rcases hm : m.outcome s with ⟨e | a, s'⟩
  · exact herr e s' hm
  · exact hok a s' hm

theorem ends_pure (h : Q a s) : Ends (pure a : Prog σ ε α) s Q E := h

theorem ends_throw (h : E e s) : Ends (throw e : Prog σ ε α) s Q E := h

theorem ends_get {Q : σ → σ → Prop} (h : Q s s) : Ends (get : Prog σ ε σ) s Q E := h

theorem ends_modify {g : σ → σ} {Q : PUnit → σ → Prop} (h : Q ⟨⟩ (g s)) :
    Ends (modify g : Prog σ ε PUnit) s Q E := h

theorem ends_require {c : Bool} (h : c = false → E e s) :
    Ends (require c e) s (fun _ s' => s' = s ∧ c = true) E := by
  unfold require
  cases c with
  | false => exact ends_throw (h rfl)
  | true => exact ends_pure ⟨rfl, rfl⟩

theorem ends_requireSome {o : Option α} (h : o = none → E e s) :
    Ends (requireSome o e) s (fun a s' => s' = s ∧ o = some a) E := by
  cases o with
  | none => exact ends_throw (h rfl)
  | some a => exact ends_pure ⟨rfl, rfl⟩

/-- One program after another. -/
theorem Ends.bind (h : Ends m s Q E) (hf : ∀ a s', Q a s' → Ends (f a) s' R E) :
    Ends (m >>= f) s R E := by
  rcases hm : m.outcome s with ⟨e | a, s'⟩
  · unfold Ends
    rw [outcome_bind_error hm]
    exact h.error hm
  · unfold Ends
    rw [outcome_bind_ok hm]
    exact hf a s' (h.ok hm)

theorem Ends.mono {Q' : α → σ → Prop} (h : Ends m s Q E) (hQ : ∀ a s', Q a s' → Q' a s')
    (hE : ∀ e s', E e s' → E' e s') : Ends m s Q' E' :=
  Holds.mono h (fun a => hQ a _) fun e => hE e _

/-- One program after another, the first with its own condition for failing. -/
theorem Ends.andThen (h : Ends m s Q E') (hE : ∀ e s', E' e s' → E e s')
    (hf : ∀ a s', Q a s' → Ends (f a) s' R E) : Ends (m >>= f) s R E :=
  Ends.bind (h.mono (fun _ _ hQ => hQ) hE) hf

theorem Ends.and {Q' : α → σ → Prop} (h : Ends m s Q E) (h' : Ends m s Q' E') :
    Ends m s (fun a s' => Q a s' ∧ Q' a s') fun e s' => E e s' ∧ E' e s' :=
  Ends.of_outcome (fun _ _ hm => ⟨h.ok hm, h'.ok hm⟩) fun _ _ hm => ⟨h.error hm, h'.error hm⟩

theorem ends_attempt {F : ε' → σ → Prop} (h : Ends m s Q E) :
    Ends (attempt m : Prog σ ε' (Except ε α)) s (fun r s' => Holds Q E r s') F := h

theorem ends_onFailure {F : ε → σ → Prop} {h : ε → Prog σ ε' PUnit} (hm : Ends m s Q E)
    (hh : ∀ e s', E e s' → Ends (h e) s' (fun _ s'' => F e s'') fun _ s'' => F e s'') :
    Ends (onFailure m h) s Q F := by
  refine Ends.bind (ends_attempt hm) ?_
  rintro (e | a) s' hr
  · refine Ends.bind (ends_attempt (hh e s' hr)) ?_
    rintro (e' | b) s'' hr'
    · exact ends_throw hr'
    · exact ends_throw hr'
  · exact ends_pure hr

theorem ends_mapFailure {g : ε → ε'} {F : ε' → σ → Prop}
    (hm : Ends m s Q fun e s' => F (g e) s') : Ends (mapFailure g m) s Q F := by
  refine Ends.bind (ends_attempt hm) ?_
  rintro (e | a) s' hr
  · exact ends_throw hr
  · exact ends_pure hr

theorem ends_ignore {P : σ → Prop} {F : ε' → σ → Prop}
    (hm : Ends m s (fun _ s' => P s') fun _ s' => P s') :
    Ends (ignore m : Prog σ ε' PUnit) s (fun _ s' => P s') F := by
  refine Ends.bind (ends_attempt hm) ?_
  rintro (e | a) s' hr
  · exact ends_pure hr
  · exact ends_pure hr

end Rules

end Ninlil.Outcomes
