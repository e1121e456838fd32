import Ninlil.Wifi.PacketCheck

/-!
# NWB1 records are exact

A record that is accepted is the record of what it was read as, so that the framing has one byte
string for each session, sequence number and packet.

* `AcceptedFields`: every test that an accepted record has passed;
* `AcceptedFields.record_eq`: such a record is its own encoding;
* `nwb1_exact`: the framing reads what it writes, and writes what it reads.
-/

namespace Ninlil.Wifi

open Bytes Guard

section Accepted

variable {record : List UInt8} {session : Option (Vector UInt8 16)} {expected : Option UInt32}
  {view : Nwb1View} {capacity : ℕ}

/-- Every test that an accepted record has passed, whatever was expected of it. -/
structure AcceptedFields (record : List UInt8) (view : Nwb1View) : Prop where
  magic : slice record 0 4 = nwb1Magic
  version : getU16Be record 4 = 1
  header : (getU16Be record 6).toNat = nwb1HeaderBytes
  total : (getU32Be record 8).toNat = record.length
  payloadLength : (getU32Be record 12).toNat = record.length - nwb1HeaderBytes
  bounds : nwb1HeaderBytes + nwb1PayloadMin.toNat ≤ record.length ∧
    record.length ≤ nwb1HeaderBytes + nwb1PayloadMax.toNat
  crc : wifiCrc32c (withoutCrc record 36) = getU32Be record 36
  names : (slice record 16 16).all (· == 0) = false
  usable : view.sequence ≠ reservedSequence
  sequence : view.sequence = getU32Be record 32
  payload : view.payload = slice record nwb1HeaderBytes (record.length - nwb1HeaderBytes)
  inside : nfl1StructuralOk view.payload = true

theorem acceptedFields_of_ok (h : nwb1Classify record session expected = .ok view) :
    AcceptedFields record view := by
  unfold nwb1Classify at h
  simp only [ite_error_eq_ok, not_or, not_lt, not_not] at h
  obtain ⟨hheader, hmagic, hheaderLength, htotal, hbounds, hmost, hcrc, -, hversion, hnames, -,
    husable, -, hinside, hview⟩ := h
  obtain rfl := Except.ok.inj hview
  have hmost' : record.length ≤ 1965 := hmost
  have hlength : (UInt32.ofNat record.length).toNat = record.length :=
    UInt32.toNat_ofNat_of_lt' (show record.length < 2 ^ 32 by omega)
  have hforty : (40 : UInt32) ≤ UInt32.ofNat record.length := by
    rw [UInt32.le_iff_toNat_le, hlength]
    exact hheader
  have hrest : (getU32Be record 12).toNat = record.length - nwb1HeaderBytes := by
    rw [htotal.2, UInt32.toNat_sub_of_le _ _ hforty, hlength]
    rfl
  have hwithin : nwb1HeaderBytes + nwb1PayloadMin.toNat ≤ record.length ∧
      record.length ≤ nwb1HeaderBytes + nwb1PayloadMax.toNat := by
    have hleast : nwb1TotalMin ≤ getU32Be record 8 := UInt32.not_lt.1 hbounds.2.2.1
    rw [htotal.1, UInt32.le_iff_toNat_le, hlength] at hleast
    exact ⟨hleast, hmost⟩
  exact
    { magic := hmagic
      version := hversion
      header := hheaderLength
      total := by rw [htotal.1, hlength]
      payloadLength := hrest
      bounds := hwithin
      crc := hcrc
      names := Bool.eq_false_of_not_eq_true hnames
      usable := husable
      sequence := rfl
      payload := by rw [hrest]
      inside := Bool.eq_true_of_not_eq_false hinside }

/-- Expecting nothing, a record that was expected is accepted too. -/
theorem nwb1Classify_none (h : nwb1Classify record session expected = .ok view) :
    nwb1Classify record none none = .ok view := by
  unfold nwb1Classify at h ⊢
  simp only [ite_error_eq_ok] at h ⊢
  obtain ⟨h1, h2, h3, h4, h5, h6, h7, h8, h9, h10, -, h12, -, h14, hview⟩ := h
  exact ⟨h1, h2, h3, h4, h5, h6, h7, h8, h9, h10, by simp, h12, by simp, h14, hview⟩

theorem AcceptedFields.length_payload (h : AcceptedFields record view) :
    view.payload.length = record.length - nwb1HeaderBytes := by
  have hleast := h.bounds.1
  rw [h.payload]
  exact length_slice_of_le (by omega)

/-- What stands before the check is written as it was read. -/
theorem AcceptedFields.prefix_eq (h : AcceptedFields record view) :
    nwb1Prefix (getVector 16 record 16) view.sequence view.payload.length = slice record 0 36 := by
  have hleast : 40 + 587 ≤ record.length := h.bounds.1
  have hversion : encodeBE 2 1 = slice record 4 2 := by
    rw [← encode_getU16Be (by omega), h.version]
    rfl
  have hheader : encodeBE 2 nwb1HeaderBytes = slice record 6 2 := by
    rw [← encode_getU16Be (by omega), h.header]
  have htotal : encodeBE 4 (nwb1HeaderBytes + view.payload.length) = slice record 8 4 := by
    have hsum : nwb1HeaderBytes + view.payload.length = record.length := by
      rw [h.length_payload]
      unfold nwb1HeaderBytes
      omega
    rw [← encode_getU32Be (by omega), h.total, hsum]
  have hpayload : encodeBE 4 view.payload.length = slice record 12 4 := by
    rw [← encode_getU32Be (by omega), h.payloadLength, h.length_payload]
  have hsequence : encodeBE 4 view.sequence.toNat = slice record 32 4 := by
    rw [h.sequence, encode_getU32Be (by omega)]
  have hfields := @flatten_chop 0 [4, 2, 2, 4, 4, 16, 4] record
  simp only [chop, List.flatten_cons, List.flatten_nil, List.append_nil] at hfields
  unfold nwb1Prefix
  rw [← h.magic, hversion, hheader, htotal, hpayload, toList_getVector (by omega), hsequence]
  exact hfields

/-- **An accepted record is the record of what it was read as.** -/
theorem AcceptedFields.record_eq (h : AcceptedFields record view)
    (hcapacity : record.length ≤ capacity) :
    nwb1Encode (getVector 16 record 16) view.sequence view.payload capacity = .ok record := by
  have hleast : 40 + 587 ≤ record.length := h.bounds.1
  have hmost : record.length ≤ 40 + 1925 := h.bounds.2
  have hlength : view.payload.length = record.length - 40 := h.length_payload
  have hsplit : slice record 0 36 ++ (slice record 36 4 ++ view.payload) = record := by
    have hfields := @flatten_chop 0 [36, 4, record.length - 40] record
    have hsum : record.length = [36, 4, record.length - 40].sum := by
      simp only [List.sum_cons, List.sum_nil]
      omega
    rw [← hsum, slice_self rfl] at hfields
    simp only [chop, List.flatten_cons, List.flatten_nil, List.append_nil] at hfields
    rw [h.payload]
    exact hfields
  have hcrc : nwb1Crc (slice record 0 36) view.payload = getU32Be record 36 := by
    have hbefore : (slice record 0 36).length = 36 := length_slice_of_le (by omega)
    have hzeroed := @withoutCrc_field view.payload (slice record 0 36) (slice record 36 4)
      (length_slice_of_le (by omega))
    rw [hsplit, hbefore] at hzeroed
    unfold nwb1Crc
    rw [← hzeroed, h.crc]
  unfold nwb1Encode
  simp only [ite_error_eq_ok, not_or, not_lt]
  rw [h.prefix_eq, hcrc, encode_getU32Be (by omega), hsplit, toList_getVector (by omega), hlength]
  refine ⟨?_, ⟨?_, ?_⟩, h.usable, ?_, ?_, rfl⟩
  · rw [h.names]
    exact Bool.noConfusion
  · show 587 ≤ record.length - 40
    omega
  · show record.length - 40 ≤ 1925
    omega
  · rw [h.inside]
    exact Bool.noConfusion
  · show 40 + (record.length - 40) ≤ capacity
    omega

end Accepted

/-- **The framing is exact.** A record that was encoded is accepted by its session and under its
sequence number, with the packet it was made of; a record that is accepted is what its session,
sequence number and packet are encoded as. -/
theorem nwb1_exact :
    (∀ session sequence payload capacity record,
      nwb1Encode session sequence payload capacity = .ok record →
        nwb1Classify record (some session) (some sequence) = .ok ⟨payload, sequence⟩) ∧
    ∀ record view, nwb1Classify record none none = .ok view →
      ∀ capacity, record.length ≤ capacity →
        nwb1Encode (getVector 16 record 16) view.sequence view.payload capacity = .ok record :=
  ⟨fun _ _ _ _ _ h => nwb1Classify_encode h,
    fun _ _ h _ hcapacity => (acceptedFields_of_ok h).record_eq hcapacity⟩

/-- A packet with payload and evidence, framed, read, and framed again. -/
theorem nwb1_exact_bare : ∃ record,
    nwb1Encode (Vector.replicate 16 1) 7 samplePacket 632 = .ok record ∧
      nwb1Classify record (some (Vector.replicate 16 1)) (some 7) = .ok ⟨samplePacket, 7⟩ ∧
      nwb1Encode (getVector 16 record 16) 7 samplePacket record.length = .ok record := by
  obtain ⟨record, hrecord⟩ := nwb1Encode_sample
  obtain ⟨hread, hwritten⟩ := nwb1_exact
  have haccepted := hread _ _ _ _ _ hrecord
  exact ⟨record, hrecord, haccepted,
    hwritten record _ (nwb1Classify_none haccepted) _ (Nat.le_refl _)⟩

end Ninlil.Wifi
