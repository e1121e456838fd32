import Ninlil.Fabric.RoundTrip
import Ninlil.Wifi.Nwb1

/-!
# The packet inside a record

The framing tests the fabric packet it carries by tests of its own.

* `PacketFields`, `nfl1StructuralOk_iff`: what it asks of a packet besides the check;
* `nfl1_sections`: the sections of an accepted packet fill it exactly when their lengths do not
  wrap;
* `nfl1_acceptors_agree`: what the fabric sends or receives passes, by the same check.
-/

namespace Ninlil.Wifi

open Bytes Guard

/-! ### What is asked of a packet -/

/-- The lengths of the sections, as the header stores them. -/
def sectionLengths (packet : List UInt8) : List ℕ :=
  [(getU16Be packet 570).toNat, (getU16Be packet 572).toNat, (getU16Be packet 574).toNat,
    (getU32Be packet 576).toNat, (getU32Be packet 580).toNat]

/-- The length that header and sections have together. -/
def sectionSum (packet : List UInt8) : ℕ := nfl1HeaderBytes + (sectionLengths packet).sum

/-- What is asked of a packet besides its check; the lengths are summed in 32 bits. -/
structure PacketFields (packet : List UInt8) : Prop where
  bounds : 587 ≤ packet.length ∧ packet.length ≤ 1925
  magic : slice packet 0 4 = nfl1Magic
  version : getU16Be packet 4 = 1
  header : (getU16Be packet 6).toNat = nfl1HeaderBytes
  total : (getU32Be packet 8).toNat = packet.length
  texts : (getU16Be packet 570).toNat ≤ 63 ∧ (getU16Be packet 572).toNat ≤ 63 ∧
    (getU16Be packet 574).toNat ≤ 63
  sections : sectionSum packet % 2 ^ 32 = packet.length
  flags : getU32Be packet 20 &&& 0xffff0000 = 0

section Check

variable {packet data : List UInt8}

/-- The sum of the lengths, as the code computes it. -/
theorem toNat_lengths (packet : List UInt8) :
    (584 + (getU16Be packet 570).toUInt32 + (getU16Be packet 572).toUInt32 +
      (getU16Be packet 574).toUInt32 + getU32Be packet 576 + getU32Be packet 580).toNat =
      sectionSum packet % 2 ^ 32 := by
  have hheader : (584 : UInt32).toNat = 584 := rfl
  unfold sectionSum sectionLengths nfl1HeaderBytes
  simp only [UInt32.toNat_add, UInt16.toNat_toUInt32, hheader, List.sum_cons, List.sum_nil]
  omega

/-- **What the framing asks of a packet**: its fields, and its check. -/
theorem nfl1StructuralOk_iff : nfl1StructuralOk packet = true ↔
    PacketFields packet ∧ wifiCrc32c (withoutCrc packet 12) = getU32Be packet 12 := by
  have hsum := toNat_lengths packet
  have hsmall : packet.length ≤ 1925 → (UInt32.ofNat packet.length).toNat = packet.length :=
    fun h => UInt32.toNat_ofNat_of_lt' (show packet.length < 2 ^ 32 by omega)
  have htotal : packet.length ≤ 1925 →
      (getU32Be packet 8 = UInt32.ofNat packet.length ↔
        (getU32Be packet 8).toNat = packet.length) := by
    intro h
    rw [← UInt32.toNat_inj, hsmall h]
  have htext : ∀ n : UInt16, ¬ 63 < n ↔ n.toNat ≤ 63 := fun n => by
    rw [UInt16.not_lt, UInt16.le_iff_toNat_le]
    rfl
  unfold nfl1StructuralOk
  simp only [Bool.if_false_left, Bool.and_true, Bool.and_eq_true, Bool.not_eq_true',
    decide_eq_false_iff_not, not_or, not_lt, not_not, htext]
  constructor
  · rintro ⟨⟨hleast, hmost⟩, hmagic, ⟨hheader, hlength⟩, ⟨hmin, -, hversion⟩, hcrc, htexts,
      hsections, hflags⟩
    have hlength' := (htotal hmost).1 hlength
    have hmin' : 587 ≤ (getU32Be packet 8).toNat := UInt32.not_lt.1 hmin
    refine ⟨⟨⟨by omega, hmost⟩, hmagic, hversion, hheader, hlength', htexts, ?_, hflags⟩, hcrc⟩
    rw [← hsum, hsections, hlength']
  · rintro ⟨⟨⟨hleast, hmost⟩, hmagic, hversion, hheader, hlength, htexts, hsections, hflags⟩, hcrc⟩
    have hwords : ∀ w : UInt32, ¬ getU32Be packet 8 < w ↔ w.toNat ≤ packet.length := fun w => by
      rw [UInt32.not_lt, UInt32.le_iff_toNat_le, hlength]
    refine ⟨⟨Nat.le_trans (by decide) hleast, hmost⟩, hmagic, ⟨hheader, (htotal hmost).2 hlength⟩,
      ⟨(hwords _).2 hleast, ?_, hversion⟩, hcrc, htexts, ?_, hflags⟩
    · rw [UInt32.not_lt, UInt32.le_iff_toNat_le, hlength]
      exact hmost
    · rw [← UInt32.toNat_inj, hsum, hsections, hlength]

/-! A packet is sealed by writing its check where the zeros were. -/

section Sealing

variable {before field after : List UInt8} {offset n : ℕ}

/-- Fields before and after the check do not depend on it. -/
theorem slice_sealed (hbefore : before.length = 12) (hfield : field.length = 4)
    (h : offset + n ≤ 12 ∨ 16 ≤ offset) :
    slice (before ++ (field ++ after)) offset n =
      slice (before ++ ([0, 0, 0, 0] ++ after)) offset n := by
  rcases h with h | h
  · rw [slice_append_left (by omega), slice_append_left (by omega)]
  · rw [slice_append_right (by omega), slice_append_right (by omega),
      slice_append_right (by omega), slice_append_right (by simp; omega), hfield]
    rfl

theorem getU16Be_sealed (hbefore : before.length = 12) (hfield : field.length = 4)
    (h : offset + 2 ≤ 12 ∨ 16 ≤ offset) : getU16Be (before ++ (field ++ after)) offset =
      getU16Be (before ++ ([0, 0, 0, 0] ++ after)) offset := by
  unfold getU16Be
  rw [slice_sealed hbefore hfield h]

theorem getU32Be_sealed (hbefore : before.length = 12) (hfield : field.length = 4)
    (h : offset + 4 ≤ 12 ∨ 16 ≤ offset) : getU32Be (before ++ (field ++ after)) offset =
      getU32Be (before ++ ([0, 0, 0, 0] ++ after)) offset := by
  unfold getU32Be
  rw [slice_sealed hbefore hfield h]

theorem length_sealed (hfield : field.length = 4) : (before ++ (field ++ after)).length =
    (before ++ ([0, 0, 0, 0] ++ after)).length := by
  simp only [List.length_append, hfield]
  rfl

theorem sectionSum_sealed (hbefore : before.length = 12) (hfield : field.length = 4) :
    sectionSum (before ++ (field ++ after)) =
      sectionSum (before ++ ([0, 0, 0, 0] ++ after)) := by
  unfold sectionSum sectionLengths
  rw [getU16Be_sealed hbefore hfield (by omega), getU16Be_sealed hbefore hfield (by omega),
    getU16Be_sealed hbefore hfield (by omega), getU32Be_sealed hbefore hfield (by omega),
    getU32Be_sealed hbefore hfield (by omega)]

/-- **A sealed packet is accepted** if its fields are right. -/
theorem nfl1StructuralOk_sealed (hbefore : before.length = 12)
    (h : PacketFields (before ++ ([0, 0, 0, 0] ++ after))) :
    nfl1StructuralOk (before ++
      (encodeBE 4 (wifiCrc32c (before ++ ([0, 0, 0, 0] ++ after))).toNat ++ after)) = true := by
  generalize hcrc : wifiCrc32c (before ++ ([0, 0, 0, 0] ++ after)) = crc
  have hfield : (encodeBE 4 crc.toNat).length = 4 := length_encodeBE 4 _
  have hchecked : withoutCrc (before ++ (encodeBE 4 crc.toNat ++ after)) 12 =
      before ++ ([0, 0, 0, 0] ++ after) := by
    rw [← hbefore]
    exact withoutCrc_field hfield
  refine nfl1StructuralOk_iff.2 ⟨⟨?_, ?_, ?_, ?_, ?_, ?_, ?_, ?_⟩, ?_⟩
  · rw [length_sealed hfield]
    exact h.bounds
  · rw [slice_sealed hbefore hfield (by omega)]
    exact h.magic
  · rw [getU16Be_sealed hbefore hfield (by omega)]
    exact h.version
  · rw [getU16Be_sealed hbefore hfield (by omega)]
    exact h.header
  · rw [getU32Be_sealed hbefore hfield (by omega), length_sealed hfield]
    exact h.total
  · rw [getU16Be_sealed hbefore hfield (by omega), getU16Be_sealed hbefore hfield (by omega),
      getU16Be_sealed hbefore hfield (by omega)]
    exact h.texts
  · rw [sectionSum_sealed hbefore hfield, length_sealed hfield]
    exact h.sections
  · rw [getU32Be_sealed hbefore hfield (by omega)]
    exact h.flags
  · rw [hchecked, hcrc]
    exact (getU32Be_field crc hbefore).symm

end Sealing

/-- A packet whose fields besides the lengths are zero, with texts of one byte and what comes behind
them, up to its check. -/
def bareBefore (tail : List UInt8) : List UInt8 :=
  nfl1Magic ++ (encodeBE 2 1 ++ (encodeBE 2 584 ++ encodeBE 4 (587 + tail.length)))

/-- What comes behind the check. -/
def bareAfter (payloadLen evidenceLen : ℕ) (tail : List UInt8) : List UInt8 :=
  List.replicate 554 0 ++ (encodeBE 2 1 ++ (encodeBE 2 1 ++ (encodeBE 2 1 ++
    (encodeBE 4 payloadLen ++ (encodeBE 4 evidenceLen ++ ([97, 98, 99] ++ tail))))))

/-- The packet, with its check. -/
def barePacket (payloadLen evidenceLen : ℕ) (tail : List UInt8) : List UInt8 :=
  bareBefore tail ++ (encodeBE 4 (wifiCrc32c (bareBefore tail ++ ([0, 0, 0, 0] ++
    bareAfter payloadLen evidenceLen tail))).toNat ++ bareAfter payloadLen evidenceLen tail)

theorem sectionSum_bare (payloadLen evidenceLen : ℕ) (tail : List UInt8) :
    sectionSum (barePacket payloadLen evidenceLen tail) =
      sectionSum (bareBefore tail ++ ([0, 0, 0, 0] ++ bareAfter payloadLen evidenceLen tail)) :=
  sectionSum_sealed (by simp [bareBefore, nfl1Magic]) (length_encodeBE 4 _)

/-- A packet with three bytes of payload and two of evidence. -/
def samplePacket : List UInt8 := barePacket 3 2 [1, 2, 3, 4, 5]

theorem nfl1StructuralOk_sample : nfl1StructuralOk samplePacket = true :=
  nfl1StructuralOk_sealed (by decide)
    ⟨by decide +kernel, by decide +kernel, by decide +kernel, by decide +kernel,
      by decide +kernel, by decide +kernel, by decide +kernel, by decide +kernel⟩

theorem length_samplePacket : samplePacket.length = 592 := by
  unfold samplePacket barePacket
  rw [length_sealed (length_encodeBE 4 _)]
  decide +kernel

/-- It is framed. -/
theorem nwb1Encode_sample : ∃ record,
    nwb1Encode (Vector.replicate 16 1) 7 samplePacket 632 = .ok record := by
  unfold nwb1Encode
  simp only [ite_error_eq_ok, length_samplePacket, nfl1StructuralOk_sample]
  exact ⟨_, by decide, by decide, by decide, by decide, by decide, rfl⟩

/-! ### The sections -/

/-- Header and sections are the packet, and each section is inside it. -/
def SectionsFill (packet : List UInt8) : Prop :=
  sectionSum packet = packet.length ∧
    ∀ i, nfl1HeaderBytes + ((sectionLengths packet).take i).sum ≤ packet.length

/-- **The sections of an accepted packet.** They fill it exactly when their lengths, taken as
integers, do not wrap. -/
theorem nfl1_sections (h : nfl1StructuralOk packet = true) :
    SectionsFill packet ↔ sectionSum packet < 2 ^ 32 := by
  have hfields := (nfl1StructuralOk_iff.1 h).1
  have hmost := hfields.bounds.2
  constructor
  · rintro ⟨hsum, -⟩
    omega
  · intro hlt
    have hsum : sectionSum packet = packet.length := by
      rw [← hfields.sections, Nat.mod_eq_of_lt hlt]
    refine ⟨hsum, fun i => ?_⟩
    have hpart : ((sectionLengths packet).take i).sum + ((sectionLengths packet).drop i).sum =
        (sectionLengths packet).sum := by
      rw [← List.sum_append, List.take_append_drop]
    unfold sectionSum at hsum
    omega

/-- Three bytes of payload and two of evidence. -/
theorem nfl1_sections_sample : SectionsFill samplePacket :=
  (nfl1_sections nfl1StructuralOk_sample).2 (by
    unfold samplePacket
    rw [sectionSum_bare]
    decide +kernel)

/-- A packet of 587 bytes that announces a payload of `2 ^ 32 - 1` bytes and one of evidence. -/
theorem nfl1_sections_wrapped : nfl1StructuralOk (barePacket 0xFFFFFFFF 1 []) = true ∧
    ¬ SectionsFill (barePacket 0xFFFFFFFF 1 []) := by
  constructor
  · exact nfl1StructuralOk_sealed (by decide)
      ⟨by decide +kernel, by decide +kernel, by decide +kernel, by decide +kernel,
        by decide +kernel, by decide +kernel, by decide +kernel, by decide +kernel⟩
  · rintro ⟨hsum, -⟩
    have hsum' : sectionSum (barePacket 0xFFFFFFFF 1 []) = 2 ^ 32 + 587 := by
      rw [sectionSum_bare]
      decide +kernel
    have hlength : (barePacket 0xFFFFFFFF 1 []).length = 587 := by
      unfold barePacket
      rw [length_sealed (length_encodeBE 4 _)]
      decide +kernel
    omega

/-! ### The fabric -/

/-- The two divisions are one. -/
theorem crcBit_eq : Fabric.Nfl1.crcBit = wifiCrcBit := by
  funext crc
  unfold Fabric.Nfl1.crcBit wifiCrcBit
  split_ifs
  · rfl
  · rw [UInt32.xor_zero]

/-- The bytes of the check are read as zeros, or are zeros in a copy. -/
theorem unchecked_eq : Fabric.Nfl1.unchecked data = withoutCrc data 12 := by
  refine List.ext_getElem? fun j => ?_
  unfold Fabric.Nfl1.unchecked withoutCrc
  rw [getElem?_store, List.getElem?_mapIdx]
  congr 1
  funext b
  have hzeros : ∀ k, [0, 0, 0, (0 : UInt8)].getD k 0 = 0 := by
    intro k
    rcases k with _ | _ | _ | _ | k <;> rfl
  show (if 12 ≤ j ∧ j < 16 then 0 else b) =
    if 12 ≤ j ∧ j < 16 then [0, 0, 0, (0 : UInt8)].getD (j - 12) 0 else b
  rw [hzeros]

theorem nfl1Crc32c_eq (data : List UInt8) :
    Fabric.Nfl1.nfl1Crc32c data = wifiCrc32c (withoutCrc data 12) := by
  unfold Fabric.Nfl1.nfl1Crc32c wifiCrc32c
  rw [unchecked_eq, crcBit_eq]

/-- What the fabric reads of a packet is enough for the framing. -/
theorem packetFields_of_decodes {structSize : UInt16} (h : Fabric.Nfl1.Decodes packet structSize) :
    PacketFields packet := by
  obtain ⟨hmin, hmax⟩ := h.structural
  obtain ⟨⟨hns, hsvc, hsch⟩, -⟩ := h.accepted.bounds
  obtain ⟨hns', hsvc', hsch', -⟩ := h.lengths
  have hneed : sectionSum packet = packet.length := h.need
  have hflags : getU32Be packet 20 = 0 := by
    have hmatrix := h.matrix
    unfold Fabric.Nfl1.kindMatrixOk at hmatrix
    rw [Bool.and_eq_true, Bool.and_eq_true] at hmatrix
    have hcommon := hmatrix.1.1
    simp only [Fabric.Nfl1.commonOk, Bool.and_eq_true, beq_iff_eq] at hcommon
    obtain ⟨⟨⟨⟨⟨⟨⟨⟨⟨⟨⟨hzero, -⟩, -⟩, -⟩, -⟩, -⟩, -⟩, -⟩, -⟩, -⟩, -⟩, -⟩ := hcommon
    exact hzero
  refine ⟨⟨hmin, hmax⟩, h.magic, h.version, h.header, h.total, ⟨?_, ?_, ?_⟩, ?_, ?_⟩
  · rw [← hns']
    exact hns
  · rw [← hsvc']
    exact hsvc
  · rw [← hsch']
    exact hsch
  · have hmax' : packet.length ≤ 1925 := hmax
    rw [hneed]
    omega
  · rw [hflags]
    rfl

/-- **The acceptors agree.** Every packet that the fabric receives, and every packet that it sends,
is accepted by the framing; and for every byte string both compute the same check. -/
theorem nfl1_acceptors_agree :
    (∀ packet structSize workspace,
      (Fabric.Nfl1.decode packet structSize workspace).status = .ok →
        nfl1StructuralOk packet = true) ∧
    (∀ envelope capacity packet, Fabric.Nfl1.encode envelope capacity = .ok packet →
      nfl1StructuralOk packet = true) ∧
    ∀ data, Fabric.Nfl1.nfl1Crc32c data = wifiCrc32c (withoutCrc data 12) := by
  have hreceived : ∀ packet structSize workspace,
      (Fabric.Nfl1.decode packet structSize workspace).status = .ok →
        nfl1StructuralOk packet = true := by
    intro packet structSize workspace h
    obtain ⟨hdecodes, -⟩ := Fabric.Nfl1.decodes_of_ok h
    refine nfl1StructuralOk_iff.2 ⟨packetFields_of_decodes hdecodes, ?_⟩
    rw [hdecodes.crc, nfl1Crc32c_eq]
  refine ⟨hreceived, fun envelope capacity packet h => ?_, nfl1Crc32c_eq⟩
  obtain ⟨haccepted, rfl⟩ := Fabric.Nfl1.accepted_of_encode h
  have hroom : (List.replicate 2048 (0 : UInt8)).length = 2048 := List.length_replicate
  exact hreceived _ 0 ⟨_, hroom, 0⟩ (Fabric.Nfl1.decode_packetOf haccepted 0 _).1

end Check

end Ninlil.Wifi
