import Ninlil.Wifi.ArenaBlocks

/-!
# The loops over the blocks

* `coalesceFreeBlocks_eq`: merging leaves the `coalesce`d blocks;
* `callocLoop_cases`: the first block that fits is used, or none fits;
* `freeLoop_cases`: the block whose payload the pointer is, or none.
-/

namespace Ninlil.Wifi

open Bytes Memory Arena

section Loops

variable {p : Platform} {a : TlsArena} {offset left : ℕ} {b : Block} {bs : List Block}

theorem headerOf_used (h : b.used = true) : (headerOf b).state = blockUsed := by
  simp only [headerOf, h, if_true]

theorem headerOf_free (h : b.used = false) : (headerOf b).state = blockFree := by
  simp only [headerOf, h, Bool.false_eq_true, if_false]

theorem headerOf_state_eq_free : (headerOf b).state = blockFree ↔ b.used = false := by
  cases h : b.used with
  | true =>
    rw [headerOf_used h]
    decide
  | false =>
    rw [headerOf_free h]
    decide

/-- An arena whose region holds blocks from an offset up to its end. -/
structure Walk (p : Platform) (a : TlsArena) (offset : ℕ) (bs : List Block) : Prop where
  valid : arenaHeaderValid p a = true
  small : a.capacityBytes ≤ 0xFFFFFFFF
  laid : LaidOut p a.region offset bs
  reaches : offset + total bs = a.capacityBytes

theorem Walk.head (h : Walk p a offset (b :: bs)) : offset < a.capacityBytes ∧
    readBlock p a.region offset = headerOf b ∧ blockValid p a offset = true := by
  have hpos := h.laid.1.1.span_pos
  have hreaches := h.reaches
  rw [total_cons] at hreaches
  have hread := h.laid.1.2.header
  exact ⟨by omega, hread, Stored.valid h.valid h.laid.1.1 hread (by omega) h.small⟩

theorem Walk.tail (h : Walk p a offset (b :: bs)) : Walk p a (offset + b.span) bs where
  valid := h.valid
  small := h.small
  laid := h.laid.2
  reaches := by
    rw [Nat.add_assoc]
    exact h.reaches

theorem Walk.length_le (h : Walk p a offset bs) : bs.length ≤ a.capacityBytes := by
  have hlength := h.laid.length_le
  have hreaches := h.reaches
  omega

/-! ### Merging -/

/-- A step of the outer loop. -/
theorem coalesceFreeBlocks_succ (hlt : offset < a.capacityBytes)
    (hvalid : blockValid p a offset = true) {a' : TlsArena}
    (habsorb : absorbFree p a offset a.capacityBytes = (true, a')) (left : ℕ) :
    coalesceFreeBlocks p a (left + 1) offset =
      coalesceFreeBlocks p a' left (offset + (readBlock p a'.region offset).spanBytes) := by
  rw [coalesceFreeBlocks, if_pos hlt, if_neg (by rw [hvalid]; decide), habsorb]

theorem coalesceFreeBlocks_end (h : offset = a.capacityBytes) (left : ℕ) :
    coalesceFreeBlocks p a left offset = (true, a) := by
  have hbeq : (offset == a.capacityBytes) = true := beq_iff_eq.2 h
  cases left with
  | zero => rw [coalesceFreeBlocks, hbeq]
  | succ left => rw [coalesceFreeBlocks, if_neg (Nat.not_lt.2 h.ge), hbeq]

/-- Merging leaves the coalesced blocks, in the same bytes. -/
theorem coalesceFreeBlocks_eq (h : Walk p a offset bs) (hleft : bs.length ≤ left) :
    ∃ m', coalesceFreeBlocks p a left offset = (true, { a with region := m' }) ∧
      LaidOut p m' offset (coalesce bs) ∧ SameOutside a.region m' offset (total bs) := by
  induction left generalizing a offset bs with
  | zero =>
    obtain rfl : bs = [] := List.eq_nil_of_length_eq_zero (Nat.le_zero.1 hleft)
    exact ⟨a.region, coalesceFreeBlocks_end h.reaches 0, trivial, SameOutside.refl _ _ _⟩
  | succ left ih =>
    cases bs with
    | nil => exact ⟨a.region, coalesceFreeBlocks_end h.reaches _, trivial, SameOutside.refl _ _ _⟩
    | cons b bs =>
      have hlength : bs.length ≤ left := Nat.le_of_succ_le_succ hleft
      obtain ⟨hlt, hread, hvalid⟩ := h.head
      cases hused : b.used with
      | true =>
        have hstate : (readBlock p a.region offset).state ≠ blockFree := by
          rw [hread, headerOf_used hused]
          decide
        obtain ⟨m', hrun, hlaid, hsame⟩ := ih h.tail hlength
        refine ⟨m', ?_, ?_, ?_⟩
        · rw [coalesceFreeBlocks_succ hlt hvalid (absorbFree_used hstate _), hread]
          exact hrun
        · rw [coalesce_used hused]
          refine ⟨⟨h.laid.1.1, h.laid.1.2.congr h.laid.1.1 fun i _ hi' => hsame i (.inl hi')⟩, hlaid⟩
        · exact hsame.widen (by omega) (by rw [total_cons]; omega)
      | false =>
        obtain ⟨t, rfl⟩ := h.laid.1.1.eq_free hused
        have hcap := h.tail.length_le
        obtain ⟨m, s, cs, habsorb, hlaid, hsame, htotal, hless, hcoalesce, hhead⟩ :=
          absorbFree_eq h.valid h.small h.laid h.reaches hcap
        have hspan : (readBlock p m offset).spanBytes = s := by rw [hlaid.1.2.header]; rfl
        have hreaches : offset + (t + total bs) = a.capacityBytes := h.reaches
        have hwalk : Walk p { a with region := m } (offset + s) cs :=
          ⟨h.valid, h.small, hlaid.2, by show offset + s + total cs = a.capacityBytes; omega⟩
        obtain ⟨m', hrun, hlaid', hsame'⟩ := ih hwalk (hless.trans hlength)
        refine ⟨m', ?_, ?_, ?_⟩
        · rw [coalesceFreeBlocks_succ hlt hvalid habsorb]
          simp only [hspan]
          exact hrun
        · rw [← hcoalesce, coalesce_apart _ hhead]
          exact ⟨⟨hlaid.1.1, hlaid.1.2.congr hlaid.1.1 fun i _ hi' => hsame' i (.inl hi')⟩, hlaid'⟩
        · have htotals : total (.free t :: bs) = t + total bs := rfl
          rw [htotals]
          exact hsame.trans (hsame'.widen (by omega) (by omega))

/-! ### The search of an allocation -/

variable {requested needed : ℕ}

theorem callocLoop_succ (h : Walk p a offset (b :: bs)) (left : ℕ) :
    callocLoop p a requested needed (left + 1) offset =
      if b.fits needed then allocateBlock p a offset requested needed
      else callocLoop p a requested needed left (offset + b.span) := by
  obtain ⟨hlt, hread, hvalid⟩ := h.head
  rw [callocLoop, if_pos hlt, if_neg (by rw [hvalid]; decide), hread]
  have hspan : (headerOf b).spanBytes = b.span := rfl
  by_cases hfits : b.fits needed = true
  · obtain ⟨hfree, hspace⟩ := Block.fits_iff.1 hfits
    rw [if_pos hfits, if_neg]
    rintro (hused | hless)
    · exact hused (headerOf_state_eq_free.2 hfree)
    · omega
  · have hskip : (headerOf b).state ≠ blockFree ∨ (headerOf b).spanBytes < needed := by
      by_contra hnot
      obtain ⟨hstate, hspace⟩ := not_or.1 hnot
      rw [not_not, headerOf_state_eq_free] at hstate
      exact hfits (Block.fits_iff.2 ⟨hstate, by omega⟩)
    rw [if_neg hfits, if_pos hskip, hspan]

theorem callocLoop_end (h : offset = a.capacityBytes) (left : ℕ) :
    callocLoop p a requested needed left offset = (0, { a with oomCount := a.oomCount + 1 }) := by
  cases left with
  | zero => rfl
  | succ left => rw [callocLoop, if_neg (Nat.not_lt.2 h.ge)]

/-- The first block that fits is used; if there is none, the call returns `NULL`. -/
theorem callocLoop_cases (h : Walk p a offset bs) (hleft : bs.length ≤ left) :
    (∃ pre b post, bs = pre ++ b :: post ∧ b.fits needed = true ∧
      callocLoop p a requested needed left offset =
        allocateBlock p a (offset + total pre) requested needed) ∨
    ((∀ b ∈ bs, b.fits needed = false) ∧ callocLoop p a requested needed left offset =
      (0, { a with oomCount := a.oomCount + 1 })) := by
  induction bs generalizing offset left with
  | nil => exact .inr ⟨fun b hb => absurd hb List.not_mem_nil, callocLoop_end h.reaches left⟩
  | cons b bs ih =>
    obtain ⟨left, rfl⟩ : ∃ n, left = n + 1 := ⟨left - 1, by rw [List.length_cons] at hleft; omega⟩
    rw [callocLoop_succ h]
    by_cases hfits : b.fits needed = true
    · exact .inl ⟨[], b, bs, rfl, hfits, if_pos hfits⟩
    · rw [if_neg hfits]
      rcases ih h.tail (Nat.le_of_succ_le_succ hleft) with
        ⟨pre, c, post, hbs, hc, hrun⟩ | ⟨hnone, hrun⟩
      · refine .inl ⟨b :: pre, c, post, by rw [hbs]; rfl, hc, ?_⟩
        rw [hrun, total_cons, Nat.add_assoc]
      · exact .inr ⟨List.forall_mem_cons.2 ⟨Bool.eq_false_iff.2 hfits, hnone⟩, hrun⟩

/-! ### The search of a release -/

variable {pointer : ℕ}

theorem freeLoop_succ (h : Walk p a offset (b :: bs)) (left : ℕ) :
    freeLoop p a pointer (left + 1) offset =
      if a.base + offset + p.headerBytes ≠ pointer then
        freeLoop p a pointer left (offset + b.span)
      else freeBlock p a offset := by
  obtain ⟨hlt, hread, hvalid⟩ := h.head
  rw [freeLoop, if_pos hlt, if_neg (by rw [hvalid]; decide), hread]
  rfl

theorem freeLoop_end (h : offset = a.capacityBytes) (left : ℕ) :
    freeLoop p a pointer left offset =
      (.foreignPointer, { a with corruptionCount := a.corruptionCount + 1 }) := by
  cases left with
  | zero => rfl
  | succ left => rw [freeLoop, if_neg (Nat.not_lt.2 h.ge)]

/-- The pointer is the payload of a block, which is freed, or it is foreign. -/
theorem freeLoop_cases (h : Walk p a offset bs) (hleft : bs.length ≤ left) (pointer : ℕ) :
    (∃ pre b post, bs = pre ++ b :: post ∧
      a.base + (offset + total pre) + p.headerBytes = pointer ∧
      freeLoop p a pointer left offset = freeBlock p a (offset + total pre)) ∨
    ((∀ pre b post, bs = pre ++ b :: post →
      a.base + (offset + total pre) + p.headerBytes ≠ pointer) ∧
      freeLoop p a pointer left offset =
        (.foreignPointer, { a with corruptionCount := a.corruptionCount + 1 })) := by
  induction bs generalizing offset left with
  | nil =>
    refine .inr ⟨fun pre b post hbs => ?_, freeLoop_end h.reaches left⟩
    exact absurd hbs (by simp)
  | cons b bs ih =>
    obtain ⟨left, rfl⟩ : ∃ n, left = n + 1 := ⟨left - 1, by rw [List.length_cons] at hleft; omega⟩
    rw [freeLoop_succ h]
    by_cases hpointer : a.base + offset + p.headerBytes = pointer
    · exact .inl ⟨[], b, bs, rfl, hpointer, if_neg (not_not.2 hpointer)⟩
    · rw [if_pos hpointer]
      rcases ih h.tail (Nat.le_of_succ_le_succ hleft) with
        ⟨pre, c, post, hbs, hc, hrun⟩ | ⟨hnone, hrun⟩
      · have hassoc : offset + total (b :: pre) = offset + b.span + total pre := by
          rw [total_cons, Nat.add_assoc]
        exact .inl ⟨b :: pre, c, post, by rw [hbs]; rfl, by rw [hassoc]; exact hc,
          by rw [hrun, hassoc]⟩
      · refine .inr ⟨fun pre c post hbs => ?_, hrun⟩
        cases pre with
        | nil => exact hpointer
        | cons d pre =>
          obtain ⟨rfl, htail⟩ := List.cons.inj hbs
          have hassoc : offset + total (b :: pre) = offset + b.span + total pre := by
            rw [total_cons, Nat.add_assoc]
          rw [hassoc]
          exact hnone pre c post htail

end Loops

end Ninlil.Wifi
