import Ninlil.Lib.Bytes

/-!
# A memory of bytes

* `Mem.read`, `Mem.write`: a range read and overwritten;
* `Mem.read_congr`: a range is read from its own bytes;
* `Mem.read_write_same`, `Mem.read_write_apart`: what is read after a write;
* `Mem.Zero`: a range of zeros, with the ranges it is put together from;
* `Mem.SameOutside`: two memories that differ within a range only.
-/

namespace Ninlil.Memory

/-- The bytes of a memory, by their offset. -/
abbrev Mem := ℕ → UInt8

/-- The `n` bytes from an offset on. -/
def Mem.read (m : Mem) (offset n : ℕ) : List UInt8 := (List.range n).map fun i => m (offset + i)

/-- The memory with the bytes from an offset on overwritten. -/
def Mem.write (m : Mem) (offset : ℕ) (bytes : List UInt8) : Mem := fun i =>
  if offset ≤ i ∧ i < offset + bytes.length then bytes.getD (i - offset) 0 else m i

/-- `memset` to zero. -/
def Mem.zero (m : Mem) (offset n : ℕ) : Mem := m.write offset (List.replicate n 0)

section Reading

variable {m m' : Mem} {offset o n k : ℕ} {bytes : List UInt8}

@[simp] theorem Mem.length_read (m : Mem) (offset n : ℕ) : (m.read offset n).length = n := by
  simp [Mem.read]

theorem Mem.getElem_read {i : ℕ} (h : i < (m.read offset n).length) :
    (m.read offset n)[i] = m (offset + i) := by
  simp [Mem.read]

theorem Mem.read_congr (h : ∀ i, offset ≤ i → i < offset + n → m' i = m i) :
    m'.read offset n = m.read offset n := by
  refine List.map_congr_left fun i hi => ?_
  have hlt := List.mem_range.1 hi
  exact h _ (by omega) (by omega)

theorem Mem.read_add (m : Mem) (offset n k : ℕ) :
    m.read offset (n + k) = m.read offset n ++ m.read (offset + n) k := by
  unfold Mem.read
  rw [List.range_add, List.map_append, List.map_map]
  refine congrArg (_ ++ ·) (List.map_congr_left fun i _ => ?_)
  exact congrArg m (Nat.add_assoc _ _ _).symm

theorem Mem.write_outside {i : ℕ} (h : i < offset ∨ offset + bytes.length ≤ i) :
    m.write offset bytes i = m i := if_neg (by omega)

theorem Mem.read_write_same (hn : bytes.length = n) :
    (m.write offset bytes).read offset n = bytes := by
  subst hn
  refine List.ext_getElem (by simp) fun i hi hi' => ?_
  rw [Mem.getElem_read, Mem.write, if_pos (by omega), Nat.add_sub_cancel_left]
  simp [hi']

/-- A range apart from the bytes written. -/
theorem Mem.read_write_apart (h : o + n ≤ offset ∨ offset + bytes.length ≤ o) :
    (m.write offset bytes).read o n = m.read o n :=
  Mem.read_congr fun _ _ _ => Mem.write_outside (by omega)

/-- A range of the bytes written. -/
theorem Mem.read_write_within (h : k + n ≤ bytes.length) :
    (m.write offset bytes).read (offset + k) n = Bytes.slice bytes k n := by
  refine List.ext_getElem ?_ fun i hi hi' => ?_
  · rw [Mem.length_read, Bytes.length_slice_of_le h]
  · rw [Mem.length_read] at hi
    rw [Mem.getElem_read, Mem.write, if_pos (by omega)]
    have hidx : offset + k + i - offset = k + i := by omega
    have hlt : k + i < bytes.length := by omega
    simp [hidx, Bytes.slice, hlt]

/-- What a range held is written over something else: the memory is as before. -/
theorem Mem.write_write_read {other : List UInt8} (hn : m.read offset n = bytes)
    (hlen : other.length = n) : (m.write offset other).write offset bytes = m := by
  subst hn
  funext i
  by_cases hi : offset ≤ i ∧ i < offset + n
  · rw [Mem.write, Mem.length_read, if_pos hi]
    have hlt : i - offset < n := by omega
    simp only [Mem.read, List.getD_eq_getElem?_getD, List.getElem?_map, List.getElem?_range hlt,
      Option.map_some, Option.getD_some]
    exact congrArg m (by omega)
  · rw [Mem.write_outside (by rw [Mem.length_read]; omega), Mem.write_outside (by omega)]

end Reading

/-! ### Ranges of zeros -/

/-- The `n` bytes from an offset on are zero. -/
def Mem.Zero (m : Mem) (offset n : ℕ) : Prop := ∀ i, offset ≤ i → i < offset + n → m i = 0

section Zeros

variable {m m' : Mem} {offset o n k : ℕ} {bytes : List UInt8}

theorem Mem.zero_inside {i : ℕ} (h : offset ≤ i) (h' : i < offset + n) :
    m.zero offset n i = 0 := by
  unfold Mem.zero Mem.write
  rw [List.length_replicate, if_pos ⟨h, h'⟩]
  have hlt : i - offset < n := by omega
  simp [hlt]

theorem Mem.zero_outside {i : ℕ} (h : i < offset ∨ offset + n ≤ i) : m.zero offset n i = m i :=
  Mem.write_outside (by rwa [List.length_replicate])

theorem Mem.Zero.of_zero : (m.zero offset n).Zero offset n := fun _ h h' => Mem.zero_inside h h'

theorem Mem.Zero.congr (h : m.Zero offset n) (heq : ∀ i, offset ≤ i → i < offset + n → m' i = m i) :
    m'.Zero offset n := fun i hi hi' => (heq i hi hi').trans (h i hi hi')

/-- A part of a range of zeros. -/
theorem Mem.Zero.part (h : m.Zero offset n) (ho : offset ≤ o) (hn : o + k ≤ offset + n) :
    m.Zero o k := fun i hi hi' => h i (by omega) (by omega)

/-- Two ranges of zeros, one after the other. -/
theorem Mem.Zero.join (h : m.Zero offset n) (h' : m.Zero (offset + n) k) :
    m.Zero offset (n + k) := fun i hi hi' => by
  rcases lt_or_ge i (offset + n) with hlt | hge
  · exact h i hi hlt
  · exact h' i hge (by omega)

end Zeros

/-! ### Changes within a range -/

/-- The memories differ within `n` bytes from an offset on only. -/
def SameOutside (m m' : Mem) (offset n : ℕ) : Prop :=
  ∀ i, i < offset ∨ offset + n ≤ i → m' i = m i

section Changes

variable {m m' m'' : Mem} {offset o n k : ℕ} {bytes : List UInt8}

theorem SameOutside.refl (m : Mem) (offset n : ℕ) : SameOutside m m offset n := fun _ _ => rfl

theorem SameOutside.trans (h : SameOutside m m' offset n) (h' : SameOutside m' m'' offset n) :
    SameOutside m m'' offset n := fun i hi => (h' i hi).trans (h i hi)

theorem SameOutside.widen (h : SameOutside m m' o k) (ho : offset ≤ o) (hn : o + k ≤ offset + n) :
    SameOutside m m' offset n := fun i hi => h i (by omega)

theorem SameOutside.write (hlen : bytes.length ≤ n) :
    SameOutside m (m.write offset bytes) offset n := fun _ hi => Mem.write_outside (by omega)

theorem SameOutside.zero : SameOutside m (m.zero offset n) offset n := fun _ hi =>
  Mem.zero_outside hi

end Changes

end Ninlil.Memory
