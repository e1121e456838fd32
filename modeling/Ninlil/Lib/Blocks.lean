import Mathlib

/-!
# Blocks of an arena

An arena is a list of blocks, used or free, one after the other.

* `total`, `usedBytes`, `usedCount`, `usedAt`: the bytes of the blocks, and the used ones with their
  offsets;
* `place`: a free block is used, and split when what is left is worth it;
* `coalesce`: neighbouring free blocks become one;
* `Separated`: no two free blocks are neighbours; kept by `place`, restored by `coalesce`.
-/

namespace Ninlil.Arena

/-- A block: its bytes, and of a used one the bytes that were asked for. -/
structure Block where
  used : Bool
  span : ℕ
  requested : ℕ
  deriving DecidableEq

/-- A free block. -/
def Block.free (span : ℕ) : Block := ⟨false, span, 0⟩

/-- The bytes of the blocks. -/
def total (bs : List Block) : ℕ := (bs.map Block.span).sum

/-- The bytes of the used blocks. -/
def usedBytes (bs : List Block) : ℕ := ((bs.filter Block.used).map Block.span).sum

/-- The number of used blocks. -/
def usedCount (bs : List Block) : ℕ := bs.countP Block.used

/-- The used blocks with their offsets, the first block standing at `offset`. -/
def usedAt : ℕ → List Block → List (ℕ × Block)
  | _, [] => []
  | offset, b :: bs =>
    if b.used then (offset, b) :: usedAt (offset + b.span) bs else usedAt (offset + b.span) bs

/-- No two free blocks are neighbours. -/
def Separated (bs : List Block) : Prop := bs.IsChain fun a b => a.used = true ∨ b.used = true

section Lists

variable {b c : Block} {bs cs : List Block} {offset : ℕ}

@[simp] theorem total_nil : total [] = 0 := rfl

@[simp] theorem total_cons (b : Block) (bs : List Block) : total (b :: bs) = b.span + total bs := rfl

@[simp] theorem total_append (bs cs : List Block) : total (bs ++ cs) = total bs + total cs := by
  simp [total]

@[simp] theorem usedBytes_append (bs cs : List Block) :
    usedBytes (bs ++ cs) = usedBytes bs + usedBytes cs := by simp [usedBytes]

theorem usedBytes_used (h : b.used = true) (bs : List Block) :
    usedBytes (b :: bs) = b.span + usedBytes bs := by simp [usedBytes, h]

theorem usedBytes_free (h : b.used = false) (bs : List Block) :
    usedBytes (b :: bs) = usedBytes bs := by simp [usedBytes, h]

@[simp] theorem usedCount_append (bs cs : List Block) :
    usedCount (bs ++ cs) = usedCount bs + usedCount cs := List.countP_append

theorem usedCount_used (h : b.used = true) (bs : List Block) :
    usedCount (b :: bs) = usedCount bs + 1 := List.countP_cons_of_pos h

theorem usedCount_free (h : b.used = false) (bs : List Block) :
    usedCount (b :: bs) = usedCount bs := List.countP_cons_of_neg (by simp [h])

theorem usedAt_used (h : b.used = true) (offset : ℕ) (bs : List Block) :
    usedAt offset (b :: bs) = (offset, b) :: usedAt (offset + b.span) bs := if_pos h

theorem usedAt_free (h : b.used = false) (offset : ℕ) (bs : List Block) :
    usedAt offset (b :: bs) = usedAt (offset + b.span) bs := if_neg (by simp [h])

theorem usedAt_append (offset : ℕ) (bs cs : List Block) :
    usedAt offset (bs ++ cs) = usedAt offset bs ++ usedAt (offset + total bs) cs := by
  induction bs generalizing offset with
  | nil => rfl
  | cons b bs ih =>
    rw [List.cons_append, total_cons, ← Nat.add_assoc]
    cases h : b.used with
    | true => rw [usedAt_used h, usedAt_used h, ih, List.cons_append]
    | false => rw [usedAt_free h, usedAt_free h, ih]

/-- A used block is one of the blocks, at the offset where those before it end. -/
theorem mem_usedAt {o : ℕ} {d : Block} : (o, d) ∈ usedAt offset bs ↔ d.used = true ∧
    ∃ pre post, bs = pre ++ d :: post ∧ o = offset + total pre := by
  induction bs generalizing offset with
  | nil => simp [usedAt]
  | cons b bs ih =>
    have hsplit : (∃ pre post, b :: bs = pre ++ d :: post ∧ o = offset + total pre) ↔
        (b = d ∧ o = offset) ∨
          ∃ pre post, bs = pre ++ d :: post ∧ o = offset + b.span + total pre := by
      constructor
      · rintro ⟨pre, post, heq, hoff⟩
        cases pre with
        | nil => exact .inl ⟨(List.cons.inj heq).1, hoff⟩
        | cons p pre =>
          obtain ⟨rfl, htail⟩ := List.cons.inj heq
          exact .inr ⟨pre, post, htail, by rw [hoff, total_cons, Nat.add_assoc]⟩
      · rintro (⟨hb, hoff⟩ | ⟨pre, post, heq, hoff⟩)
        · exact ⟨[], bs, by rw [hb]; rfl, hoff⟩
        · exact ⟨b :: pre, post, by rw [heq]; rfl, by rw [hoff, total_cons, Nat.add_assoc]⟩
    rw [hsplit]
    cases hused : b.used with
    | true =>
      rw [usedAt_used hused, List.mem_cons, ih, Prod.mk.injEq]
      constructor
      · rintro (⟨hoff, hb⟩ | ⟨hu, hrest⟩)
        · exact ⟨by rw [hb]; exact hused, .inl ⟨hb.symm, hoff⟩⟩
        · exact ⟨hu, .inr hrest⟩
      · rintro ⟨hu, ⟨hb, hoff⟩ | hrest⟩
        · exact .inl ⟨hoff, hb.symm⟩
        · exact .inr ⟨hu, hrest⟩
    | false =>
      rw [usedAt_free hused, ih]
      refine and_congr_right fun hu => (or_iff_right ?_).symm
      rintro ⟨rfl, -⟩
      rw [hu] at hused
      exact absurd hused (by decide)

end Lists

/-! ### Using a free block -/

/-- A free block of at least so many bytes. -/
def Block.fits (need : ℕ) (b : Block) : Bool := !b.used && need ≤ b.span

/-- A block is used; what is left of it becomes a block if it is `least` bytes or more. -/
def place (need least requested : ℕ) (b : Block) : List Block :=
  if b.span - need < least then [⟨true, b.span, requested⟩]
  else [⟨true, need, requested⟩, .free (b.span - need)]

section Placing

variable {need least requested : ℕ} {b : Block} {pre post : List Block}

theorem Block.fits_iff : b.fits need = true ↔ b.used = false ∧ need ≤ b.span := by
  simp [Block.fits]

theorem total_place (h : need ≤ b.span) : total (place need least requested b) = b.span := by
  unfold place
  split_ifs
  · rfl
  · simp only [total_cons, total_nil, Block.free]
    omega

/-- Using a block keeps the free ones apart. -/
theorem Separated.place (h : Separated (pre ++ b :: post)) (hb : b.used = false) :
    Separated (pre ++ (place need least requested b ++ post)) := by
  unfold Separated at h ⊢
  rw [List.isChain_append] at h ⊢
  obtain ⟨hpre, hpost, -⟩ := h
  rw [List.isChain_cons] at hpost
  unfold Arena.place
  split_ifs
  · refine ⟨hpre, ?_, ?_⟩
    · rw [List.singleton_append, List.isChain_cons]
      exact ⟨fun c _ => .inl rfl, hpost.2⟩
    · intro a _ c hc
      refine .inr ?_
      obtain rfl : _ = c := by simpa using hc
      rfl
  · refine ⟨hpre, ?_, ?_⟩
    · rw [List.cons_append, List.singleton_append, List.isChain_cons, List.isChain_cons]
      refine ⟨fun c _ => .inl rfl, fun c hc => .inr ?_, hpost.2⟩
      exact (hpost.1 c hc).resolve_left (by rw [hb]; decide)
    · intro a _ c hc
      refine .inr ?_
      obtain rfl : _ = c := by simpa using hc
      rfl

end Placing

/-! ### Merging free blocks -/

/-- A block in front of merged ones: a free one takes the free one behind it. -/
def consMerged (b : Block) : List Block → List Block
  | [] => [b]
  | c :: cs => if b.used || c.used then b :: c :: cs else .free (b.span + c.span) :: cs

/-- Neighbouring free blocks become one. -/
def coalesce (bs : List Block) : List Block := bs.foldr consMerged []

section Merging

variable {b c : Block} {bs cs : List Block} {offset span : ℕ}

theorem coalesce_cons (b : Block) (bs : List Block) :
    coalesce (b :: bs) = consMerged b (coalesce bs) := rfl

theorem consMerged_cons (b c : Block) (cs : List Block) :
    consMerged b (c :: cs) =
      if b.used || c.used then b :: c :: cs else .free (b.span + c.span) :: cs := rfl

theorem consMerged_used (h : b.used = true) (bs : List Block) : consMerged b bs = b :: bs := by
  cases bs with
  | nil => rfl
  | cons c cs => simp [consMerged, h]

theorem total_consMerged (b : Block) (bs : List Block) :
    total (consMerged b bs) = b.span + total bs := by
  cases bs with
  | nil => rfl
  | cons c cs =>
    rw [consMerged_cons]
    split_ifs
    · rfl
    · simp only [total_cons, Block.free]
      omega

theorem total_coalesce (bs : List Block) : total (coalesce bs) = total bs := by
  induction bs with
  | nil => rfl
  | cons b bs ih => rw [coalesce_cons, total_consMerged, ih, total_cons]

/-- Merging leaves the used blocks where they are. -/
theorem usedAt_consMerged (offset : ℕ) (b : Block) (bs : List Block) :
    usedAt offset (consMerged b bs) = usedAt offset (b :: bs) := by
  cases bs with
  | nil => rfl
  | cons c cs =>
    rw [consMerged_cons]
    split_ifs with h
    · rfl
    · obtain ⟨hb, hc⟩ : b.used = false ∧ c.used = false := by simpa using h
      rw [usedAt_free rfl, usedAt_free hb, usedAt_free hc, Nat.add_assoc]
      rfl

theorem usedAt_coalesce (offset : ℕ) (bs : List Block) :
    usedAt offset (coalesce bs) = usedAt offset bs := by
  induction bs generalizing offset with
  | nil => rfl
  | cons b bs ih =>
    rw [coalesce_cons, usedAt_consMerged]
    cases h : b.used with
    | true => rw [usedAt_used h, usedAt_used h, ih]
    | false => rw [usedAt_free h, usedAt_free h, ih]

theorem usedBytes_eq (offset : ℕ) (bs : List Block) :
    usedBytes bs = ((usedAt offset bs).map fun x => x.2.span).sum := by
  induction bs generalizing offset with
  | nil => rfl
  | cons b bs ih =>
    cases h : b.used with
    | true => rw [usedBytes_used h, usedAt_used h, List.map_cons, List.sum_cons, ← ih]
    | false => rw [usedBytes_free h, usedAt_free h, ← ih]

theorem usedCount_eq (offset : ℕ) (bs : List Block) :
    usedCount bs = (usedAt offset bs).length := by
  induction bs generalizing offset with
  | nil => rfl
  | cons b bs ih =>
    cases h : b.used with
    | true => rw [usedCount_used h, usedAt_used h, List.length_cons, ← ih]
    | false => rw [usedCount_free h, usedAt_free h, ← ih]

theorem usedBytes_coalesce (bs : List Block) : usedBytes (coalesce bs) = usedBytes bs := by
  rw [usedBytes_eq 0, usedBytes_eq 0, usedAt_coalesce]

theorem usedCount_coalesce (bs : List Block) : usedCount (coalesce bs) = usedCount bs := by
  rw [usedCount_eq 0, usedCount_eq 0, usedAt_coalesce]

theorem Separated.consMerged (h : Separated bs) (b : Block) : Separated (consMerged b bs) := by
  unfold Separated at h ⊢
  cases bs with
  | nil => exact List.isChain_singleton b
  | cons c cs =>
    rw [consMerged_cons]
    rw [List.isChain_cons] at h
    split_ifs with hused
    · rw [List.isChain_cons, List.isChain_cons]
      refine ⟨fun d hd => ?_, h⟩
      obtain rfl : c = d := by simpa using hd
      simpa using hused
    · obtain ⟨-, hc⟩ : b.used = false ∧ c.used = false := by simpa using hused
      rw [List.isChain_cons]
      exact ⟨fun d hd => .inr ((h.1 d hd).resolve_left (by rw [hc]; decide)), h.2⟩

/-- No two free blocks are neighbours after merging. -/
theorem separated_coalesce (bs : List Block) : Separated (coalesce bs) := by
  induction bs with
  | nil => exact List.isChain_nil
  | cons b bs ih => exact ih.consMerged b

/-- A used block stays as it is. -/
theorem coalesce_used (h : b.used = true) (bs : List Block) :
    coalesce (b :: bs) = b :: coalesce bs := consMerged_used h _

/-- So does a block with no free one behind it. -/
theorem coalesce_apart (b : Block) (h : ∀ c ∈ bs.head?, c.used = true) :
    coalesce (b :: bs) = b :: coalesce bs := by
  cases bs with
  | nil => rfl
  | cons c cs =>
    have hc := h c rfl
    rw [coalesce_cons, coalesce_used hc]
    simp [consMerged, hc]

/-- Two free blocks can be merged first. -/
theorem coalesce_merge (b c : ℕ) (cs : List Block) :
    coalesce (.free b :: .free c :: cs) = coalesce (.free (b + c) :: cs) := by
  rw [coalesce_cons, coalesce_cons, coalesce_cons]
  cases coalesce cs with
  | nil => rfl
  | cons d ds =>
    cases h : d.used with
    | true => simp [consMerged, h, Block.free]
    | false => simp [consMerged, h, Block.free, Nat.add_assoc]

/-- Separated blocks that are all free are one block at most. -/
theorem Separated.all_free (h : Separated bs) (hfree : ∀ b ∈ bs, b.used = false) : bs.length ≤ 1 := by
  cases bs with
  | nil => exact Nat.zero_le 1
  | cons b bs =>
    cases bs with
    | nil => exact le_rfl
    | cons c cs =>
      rcases (List.isChain_cons_cons.1 h).1 with hb | hc
      · exact absurd ((hfree b (by simp)).symm.trans hb) (by decide)
      · exact absurd ((hfree c (by simp)).symm.trans hc) (by decide)

end Merging

end Ninlil.Arena
