import Ninlil.Lib.Tiling

/-!
# Writers with a capacity

Programs that append to a buffer of fixed size and give up when it is full, and tagged fields that
carry the length of their value.

* `append`: one write; `Writes`: a program that writes given bytes if they fit;
* `Writes.bind`: so a sequence of writes writes all of it or gives up;
* `field_append_inj`: a field is read off the front of what it begins.
-/

namespace Ninlil.Writer

open Bytes

/-- A program that writes: what is in the buffer, and `none` once it gave up. -/
abbrev Write := StateT (List UInt8) Option

/-- One write. -/
def append (capacity : ℕ) (data : List UInt8) : Write Unit := fun written =>
  if capacity < written.length ∨ capacity - written.length < data.length then none
  else some ((), written ++ data)

/-- The bytes are written if they fit. -/
def Writes (capacity : ℕ) (m : Write Unit) (bytes : List UInt8) : Prop :=
  ∀ written, written.length ≤ capacity →
    m written = if written.length + bytes.length ≤ capacity then some ((), written ++ bytes)
      else none

section Rules

variable {capacity : ℕ} {m n : Write Unit} {data bytes more : List UInt8}

theorem writes_append : Writes capacity (append capacity data) data := by
  intro written h
  unfold append
  by_cases hfits : written.length + data.length ≤ capacity
  · rw [if_neg (by omega), if_pos hfits]
  · rw [if_pos (by omega), if_neg hfits]

/-- One program after the other. -/
theorem Writes.bind (hm : Writes capacity m bytes) (hn : Writes capacity n more) :
    Writes capacity (m >>= fun _ => n) (bytes ++ more) := by
  intro written h
  change (m written >>= fun p => n p.2) = _
  rw [hm written h, List.length_append]
  by_cases hfits : written.length + bytes.length ≤ capacity
  · rw [if_pos hfits]
    change n (written ++ bytes) = _
    rw [hn _ (by rwa [List.length_append]), List.length_append, List.append_assoc, Nat.add_assoc]
  · rw [if_neg hfits, if_neg (by omega)]
    rfl

/-- What an empty buffer ends up with. -/
theorem Writes.run (hm : Writes capacity m bytes) :
    m [] = if bytes.length ≤ capacity then some ((), bytes) else none := by
  have hrun := hm [] (Nat.zero_le _)
  rwa [List.length_nil, Nat.zero_add, List.nil_append] at hrun

end Rules

/-! ### Fields -/

/-- A tag, the length of a value, and the value. -/
def field (tag : UInt8) (value : List UInt8) : List UInt8 :=
  [tag] ++ (encodeBE 4 value.length ++ value)

section Fields

variable {tag : UInt8} {v w rest rest' : List UInt8}

@[simp] theorem length_field : (field tag v).length = 5 + v.length := by
  simp only [field, List.length_append, List.length_singleton, length_encodeBE]
  omega

/-- The value and what comes after it are read off. -/
theorem field_append_inj (hv : v.length < 2 ^ 32) (hw : w.length < 2 ^ 32) :
    field tag v ++ rest = field tag w ++ rest' ↔ v = w ∧ rest = rest' := by
  constructor
  · intro h
    simp only [field, List.append_assoc] at h
    have hhead := List.append_cancel_left h
    obtain ⟨hlen, hbody⟩ := List.append_inj hhead (by simp)
    have hlen' : v.length = w.length := encodeBE_inj hv hw |>.1 hlen
    exact List.append_inj hbody hlen'
  · rintro ⟨rfl, rfl⟩
    rfl

end Fields

end Ninlil.Writer
