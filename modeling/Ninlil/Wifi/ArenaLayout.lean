import Ninlil.Wifi.TlsArena

/-!
# Blocks laid out in the region

* `BlockOk`: the spans that the allocator gives to blocks;
* `Stored`: the region holds a block at an offset, its header, tail and zeros included;
* `LaidOut`: it holds blocks one after the other;
* `LaidOut.congr`, `laidOut_append`: what depends on which bytes.
-/

namespace Ninlil.Wifi

open Bytes Memory Arena

/-! ### Headers -/

section Headers

variable {p : Platform} {m m' : Mem} {offset o : ℕ} {f : BlockFields}

/-- The fields fit into their words. -/
structure BlockFields.Fits (p : Platform) (f : BlockFields) : Prop where
  span : f.spanBytes < 256 ^ p.wordBytes
  requested : f.requestedBytes < 256 ^ p.wordBytes
  magic : f.magic < 256 ^ 4
  state : f.state < 256 ^ 4

theorem length_blockBytes (p : Platform) (f : BlockFields) :
    (blockBytes p f).length = p.fieldBytes := by
  simp only [blockBytes, List.length_append, length_encodeLE, Platform.fieldBytes]
  omega

theorem Platform.fieldBytes_le (p : Platform) : p.fieldBytes ≤ p.headerBytes := p.fields

theorem Platform.headerBytes_pos (p : Platform) : 0 < p.headerBytes := by
  have h := p.fields
  omega

theorem Platform.alignment_pos (p : Platform) : 0 < p.alignment := by
  obtain ⟨k, hk⟩ := p.power
  rw [hk]
  exact Nat.two_pow_pos k

theorem Platform.lt_word {p : Platform} {n : ℕ} (h : n ≤ 0xFFFFFFFF) : n < 256 ^ p.wordBytes :=
  calc n < 256 ^ 4 := by omega
    _ ≤ 256 ^ p.wordBytes := Nat.pow_le_pow_right (by decide) p.word

/-- A block header is read from its own bytes. -/
theorem readBlock_congr (h : ∀ i, offset ≤ i → i < offset + p.headerBytes → m' i = m i) :
    readBlock p m' offset = readBlock p m offset := by
  have hfields := p.fields
  unfold readBlock
  rw [Mem.read_congr fun i hi hi' => h i hi (by omega),
    Mem.read_congr fun i hi hi' => h i (by omega) (by omega),
    Mem.read_congr fun i hi hi' => h i (by omega) (by omega),
    Mem.read_congr fun i hi hi' => h i (by omega) (by omega)]

/-- The words of a header, each at its offset. -/
theorem slice_blockBytes (p : Platform) (f : BlockFields) :
    slice (blockBytes p f) 0 p.wordBytes = encodeLE p.wordBytes f.spanBytes ∧
    slice (blockBytes p f) p.wordBytes p.wordBytes = encodeLE p.wordBytes f.requestedBytes ∧
    slice (blockBytes p f) (2 * p.wordBytes) 4 = encodeLE 4 f.magic ∧
    slice (blockBytes p f) (2 * p.wordBytes + 4) 4 = encodeLE 4 f.state := by
  have hw (n : ℕ) := length_encodeLE p.wordBytes n
  have h4 (n : ℕ) := length_encodeLE 4 n
  unfold blockBytes
  refine ⟨?_, ?_, ?_, ?_⟩
  · rw [slice_append_left (by rw [hw, zero_add])]
    exact slice_self (hw _)
  · rw [← List.append_assoc]
    exact slice_append_mid (hw _) (hw _)
  · rw [← List.append_assoc, ← List.append_assoc]
    exact slice_append_mid (by rw [List.length_append, hw, hw, two_mul]) (h4 _)
  · rw [← List.append_assoc, ← List.append_assoc]
    have hpre : (encodeLE p.wordBytes f.spanBytes ++ encodeLE p.wordBytes f.requestedBytes ++
        encodeLE 4 f.magic).length = 2 * p.wordBytes + 4 := by
      rw [List.length_append, List.length_append, hw, hw, h4, two_mul]
    rw [slice_append_right hpre.le, hpre, Nat.sub_self]
    exact slice_self (h4 _)

/-- A header that was written is read back. -/
theorem readBlock_writeBlock (hf : f.Fits p) : readBlock p (writeBlock p m offset f) offset = f := by
  have hlen := length_blockBytes p f
  unfold Platform.fieldBytes at hlen
  obtain ⟨hspan, hrequested, hmagic, hstate⟩ := slice_blockBytes p f
  have hread (k n : ℕ) (h : k + n ≤ (blockBytes p f).length) :
      (writeBlock p m offset f).read (offset + k) n = slice (blockBytes p f) k n :=
    Mem.read_write_within h
  have hread0 := hread 0 p.wordBytes (by omega)
  rw [Nat.add_zero] at hread0
  unfold readBlock
  rw [hread0, hread _ _ (by omega), hread _ _ (by omega), hread _ _ (by omega), hspan, hrequested,
    hmagic, hstate, decodeLE_encodeLE_of_lt hf.span, decodeLE_encodeLE_of_lt hf.requested,
    decodeLE_encodeLE_of_lt hf.magic, decodeLE_encodeLE_of_lt hf.state]

theorem sameOutside_writeBlock (p : Platform) (m : Mem) (offset : ℕ) (f : BlockFields) :
    SameOutside m (writeBlock p m offset f) offset p.headerBytes :=
  SameOutside.write ((length_blockBytes p f).trans_le p.fieldBytes_le)

/-- A header that stands apart from the bytes that changed. -/
theorem readBlock_apart {n : ℕ} (h : SameOutside m m' offset n)
    (hapart : o + p.headerBytes ≤ offset ∨ offset + n ≤ o) : readBlock p m' o = readBlock p m o :=
  readBlock_congr fun i _ _ => h i (by omega)

end Headers

/-! ### Blocks -/

/-- The header fields of a block. -/
def headerOf (b : Block) : BlockFields where
  spanBytes := b.span
  requestedBytes := b.requested
  magic := blockMagic
  state := if b.used then blockUsed else blockFree

/-- A block has an aligned span, with room for its header and what was asked for. -/
structure BlockOk (p : Platform) (b : Block) : Prop where
  header : p.headerBytes ≤ b.span
  aligned : b.span % p.alignment = 0
  used : b.used = true → p.headerBytes + b.requested + tailBytes ≤ b.span
  free : b.used = false → b.requested = 0

/-- The region holds a block at an offset: the canary stands behind the payload of a used one, and
what no one owns is zero. -/
structure Stored (p : Platform) (m : Mem) (offset : ℕ) (b : Block) : Prop where
  header : readBlock p m offset = headerOf b
  tail : b.used = true → readTail m (offset + p.headerBytes) b.requested = tailCanary
  slack : b.used = true → m.Zero (offset + (p.headerBytes + b.requested + tailBytes))
    (b.span - (p.headerBytes + b.requested + tailBytes))
  free : b.used = false → m.Zero (offset + p.headerBytes) (b.span - p.headerBytes)

/-- The region holds blocks from an offset on. -/
def LaidOut (p : Platform) (m : Mem) : ℕ → List Block → Prop
  | _, [] => True
  | offset, b :: bs => (BlockOk p b ∧ Stored p m offset b) ∧ LaidOut p m (offset + b.span) bs

section Layout

variable {p : Platform} {m m' : Mem} {offset o n : ℕ} {b : Block} {bs cs : List Block}

theorem BlockOk.span_pos (h : BlockOk p b) : 0 < b.span := p.headerBytes_pos.trans_le h.header

theorem BlockOk.eq_free (h : BlockOk p b) (hfree : b.used = false) : ∃ t, b = .free t := by
  refine ⟨b.span, ?_⟩
  rw [Block.free, ← h.free hfree, ← hfree]

theorem BlockOk.requested_le (h : BlockOk p b) : b.requested ≤ b.span := by
  cases hused : b.used with
  | true =>
    have hroom := h.used hused
    omega
  | false => exact (h.free hused).le.trans (Nat.zero_le _)

theorem BlockOk.fits (h : BlockOk p b) (hspan : b.span ≤ 0xFFFFFFFF) : (headerOf b).Fits p where
  span := Platform.lt_word hspan
  requested := Platform.lt_word (h.requested_le.trans hspan)
  magic := (by decide : blockMagic < 256 ^ 4)
  state := by
    cases hused : b.used with
    | true =>
      rw [headerOf, hused]
      exact (by decide : blockUsed < 256 ^ 4)
    | false =>
      rw [headerOf, hused]
      exact (by decide : blockFree < 256 ^ 4)

/-- A block is held by its own bytes. -/
theorem Stored.congr (hok : BlockOk p b) (h : Stored p m offset b)
    (heq : ∀ i, offset ≤ i → i < offset + b.span → m' i = m i) : Stored p m' offset b := by
  have hheader := hok.header
  refine ⟨?_, fun hused => ?_, fun hused => ?_, fun hfree => ?_⟩
  · rw [← h.header]
    exact readBlock_congr fun i hi hi' => heq i hi (by omega)
  · have hroom := hok.used hused
    rw [← h.tail hused]
    unfold readTail
    rw [Mem.read_congr fun i hi hi' => heq i (by omega) (by unfold tailBytes at hroom; omega)]
  · have hroom := hok.used hused
    exact (h.slack hused).congr fun i hi hi' => heq i (by omega) (by omega)
  · exact (h.free hfree).congr fun i hi hi' => heq i (by omega) (by omega)

theorem laidOut_cons : LaidOut p m offset (b :: bs) ↔
    (BlockOk p b ∧ Stored p m offset b) ∧ LaidOut p m (offset + b.span) bs := Iff.rfl

theorem laidOut_singleton : LaidOut p m offset [b] ↔ BlockOk p b ∧ Stored p m offset b :=
  and_iff_left trivial

theorem laidOut_append (offset : ℕ) (bs cs : List Block) : LaidOut p m offset (bs ++ cs) ↔
    LaidOut p m offset bs ∧ LaidOut p m (offset + total bs) cs := by
  induction bs generalizing offset with
  | nil => exact (and_iff_right trivial).symm
  | cons b bs ih =>
    rw [List.cons_append, laidOut_cons, laidOut_cons, ih, total_cons, ← Nat.add_assoc,
      ← and_assoc (a := BlockOk p b ∧ Stored p m offset b)]

/-- So are blocks that stand one after the other. -/
theorem LaidOut.congr (h : LaidOut p m offset bs)
    (heq : ∀ i, offset ≤ i → i < offset + total bs → m' i = m i) : LaidOut p m' offset bs := by
  induction bs generalizing offset with
  | nil => trivial
  | cons b bs ih =>
    rw [total_cons] at heq
    obtain ⟨⟨hok, hstored⟩, hrest⟩ := h
    refine ⟨⟨hok, hstored.congr hok fun i hi hi' => heq i hi (by omega)⟩, ?_⟩
    exact ih hrest fun i hi hi' => heq i (by omega) (by omega)

/-- Blocks apart from the bytes that changed. -/
theorem LaidOut.apart (h : LaidOut p m offset bs) (hsame : SameOutside m m' o n)
    (hapart : offset + total bs ≤ o ∨ o + n ≤ offset) : LaidOut p m' offset bs :=
  h.congr fun i _ _ => hsame i (by omega)

theorem LaidOut.ok (h : LaidOut p m offset bs) : ∀ b ∈ bs, BlockOk p b := by
  induction bs generalizing offset with
  | nil => exact fun b hb => absurd hb List.not_mem_nil
  | cons b bs ih => exact List.forall_mem_cons.2 ⟨h.1.1, ih h.2⟩

/-- There are no more blocks than bytes. -/
theorem LaidOut.length_le (h : LaidOut p m offset bs) : bs.length ≤ total bs := by
  induction bs generalizing offset with
  | nil => exact le_rfl
  | cons b bs ih =>
    have hpos := h.1.1.span_pos
    have hrest := ih h.2
    rw [List.length_cons, total_cons]
    omega

/-- A block in the middle, with those around it. -/
theorem laidOut_mid (offset : ℕ) (bs : List Block) (b : Block) (cs : List Block) :
    LaidOut p m offset (bs ++ b :: cs) ↔
      LaidOut p m offset bs ∧ (BlockOk p b ∧ Stored p m (offset + total bs) b) ∧
        LaidOut p m (offset + total bs + b.span) cs := by
  rw [laidOut_append, laidOut_cons]

/-- A block is replaced by others of the same bytes, and nothing else changes. -/
theorem LaidOut.replace {ds : List Block} (h : LaidOut p m offset (bs ++ b :: cs))
    (hsame : SameOutside m m' (offset + total bs) b.span) (hspan : total ds = b.span)
    (hds : LaidOut p m' (offset + total bs) ds) : LaidOut p m' offset (bs ++ (ds ++ cs)) := by
  obtain ⟨hbs, -, hcs⟩ := (laidOut_mid _ _ _ _).1 h
  rw [laidOut_append, laidOut_append, hspan]
  exact ⟨hbs.apart hsame (.inl le_rfl), hds, hcs.apart hsame (.inr le_rfl)⟩

/-- The header of a block that is held is valid. -/
theorem Stored.valid {a : TlsArena} (hvalid : arenaHeaderValid p a = true) (hok : BlockOk p b)
    (h : readBlock p a.region offset = headerOf b) (hend : offset + b.span ≤ a.capacityBytes)
    (hsmall : a.capacityBytes ≤ 0xFFFFFFFF) : blockValid p a offset = true := by
  have hheader := hok.header
  unfold blockValid
  rw [h, if_neg]
  · cases hused : b.used with
    | true =>
      have hroom := hok.used hused
      have hmax : a.capacityBytes ≤ p.sizeMax := Nat.le_pred_of_lt (Platform.lt_word hsmall)
      have hfirst : addSize p p.headerBytes b.requested = some (p.headerBytes + b.requested) :=
        if_neg (by omega)
      have hsecond : addSize p (p.headerBytes + b.requested) tailBytes =
          some (p.headerBytes + b.requested + tailBytes) := if_neg (by omega)
      simp only [headerOf, hused, if_true, hfirst, Option.bind_some, hsecond]
      exact decide_eq_true hroom
    | false =>
      simp only [headerOf, hused, Bool.false_eq_true, if_false]
      rw [if_neg (by decide), hok.free hused]
      rfl
  · rintro (hbad | hbad | ⟨hfree, hused⟩ | hbad | hbad | hbad | hbad)
    · exact absurd (hbad.symm.trans hvalid) (by decide)
    · exact hbad rfl
    · unfold headerOf at hfree hused
      split_ifs at hfree hused
      · exact hused rfl
      · exact hfree rfl
    · exact absurd hheader (Nat.not_le.2 hbad)
    · exact hbad hok.aligned
    · omega
    · have hspan : (headerOf b).spanBytes = b.span := rfl
      omega

end Layout

end Ninlil.Wifi
