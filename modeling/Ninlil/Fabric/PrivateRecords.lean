import Ninlil.Lib.Crc
import Ninlil.Lib.Layout
import Ninlil.Lib.Memory

/-!
# The envelope of the private fabric records

`fabric_private_records.c`: every record that the fabric stores stands behind a header of 24 bytes.

* `encodeEnvelope`, `decodeEnvelope`: the envelope written and read;
* `decodeEnvelope_encoded`: an envelope is read back, if its length is no more than 32 bits hold;
* `envelope_exact_iff`: the encoder accepts what fits and nothing else, except where the length
  wraps around.
-/

namespace Ninlil.Fabric
namespace Records

open Bytes Memory

/-- `ninlil_fabric_private_record_status_t`, the values of the envelope. -/
inductive RecordStatus
  | ok
  | invalidArgument
  | corrupt
  deriving DecidableEq

/-- `NINLIL_FABRIC_RECORD_ENVELOPE_BYTES`. -/
def envelopeBytes : UInt32 := 24

/-- `NINLIL_FABRIC_VALUE_CEILING`. -/
def valueCeiling : UInt32 := 712

/-- `ninlil_fabric_private_common_envelope_t`. -/
structure CommonEnvelope where
  magic : Vector UInt8 4
  schema : UInt16
  headerLength : UInt16
  totalLength : UInt32
  revision : UInt64
  crc32c : UInt32
  deriving DecidableEq

/-- The bytes of a header up to its check. -/
def headerFields (magic : Vector UInt8 4) (total : UInt32) (revision : UInt64) : List UInt8 :=
  magic.toList ++ (encodeBE 2 1 ++ (encodeBE 2 24 ++ (encodeBE 4 total.toNat ++
    encodeBE 8 revision.toNat)))

/-- The record with its check still zero. -/
def uncheckedRecord (value : Mem) (magic : Vector UInt8 4) (total : UInt32) (revision : UInt64)
    (payload : List UInt8) : Mem :=
  (value.write 0 (headerFields magic total revision ++ encodeBE 4 0)).write 24 payload

/-- `ninlil_fabric_private_record_encode_envelope`: the status, what stands at `out_value` and what
stands at `out_length`. A null pointer is `none`. -/
def encodeEnvelope (magic : Option (Vector UInt8 4)) (revision : UInt64) (payload : Option Mem)
    (payloadLen : UInt32) (outValue : Option Mem) (outCapacity : UInt32)
    (outLength : Option UInt32) : RecordStatus × Option Mem × Option UInt32 :=
  match magic, outValue, outLength with
  | some magic, some value, some _ =>
    if (0 < payloadLen ∧ payload.isNone) ∨ revision = 0 then
      (.invalidArgument, outValue, outLength)
    else
      let total := envelopeBytes + payloadLen
      if outCapacity < total ∨ valueCeiling < total then (.invalidArgument, outValue, outLength)
      else
        let bytes := (payload.getD fun _ => 0).read 0 payloadLen.toNat
        let record := uncheckedRecord value magic total revision bytes
        let crc := crc32c (record.read 0 total.toNat)
        (.ok, some (record.write 20 (encodeBE 4 crc.toNat)), some total)
  | _, _, _ => (.invalidArgument, outValue, outLength)

/-- The header that the bytes of a value are read as. -/
def readHeader (bytes : List UInt8) : CommonEnvelope where
  magic := getVector 4 bytes 0
  schema := getU16Be bytes 4
  headerLength := getU16Be bytes 6
  totalLength := getU32Be bytes 8
  revision := getU64Be bytes 12
  crc32c := getU32Be bytes 20

/-- `ninlil_fabric_private_record_decode_envelope`: the status, what stands at `out_header` and the
offset in the value that stands at `out_payload`. -/
def decodeEnvelope (value : Option Mem) (valueLen : UInt32)
    (expectedMagic : Option (Vector UInt8 4)) (expectedPayloadLen : UInt32)
    (outHeader : Option CommonEnvelope) (outPayload : Option ℕ) :
    RecordStatus × Option CommonEnvelope × Option ℕ :=
  match value, expectedMagic, outHeader, outPayload with
  | some value, some expectedMagic, some _, some _ =>
    if valueLen < envelopeBytes ∨ valueCeiling < valueLen then (.corrupt, outHeader, outPayload)
    else
      let header := readHeader (value.read 0 valueLen.toNat)
      if header.magic ≠ expectedMagic then (.corrupt, outHeader, outPayload)
      else if header.schema ≠ 1 ∨ header.headerLength ≠ 24 ∨ header.totalLength ≠ valueLen
          ∨ header.revision = 0 then (.corrupt, some header, outPayload)
      else if valueLen - 24 ≠ expectedPayloadLen then (.corrupt, some header, outPayload)
      else
        let scratch := value.write 20 (encodeBE 4 0)
        let computed := crc32c (scratch.read 0 valueLen.toNat)
        if header.crc32c ≠ computed then (.corrupt, some header, outPayload)
        else (.ok, some header, some 24)
  | _, _, _, _ => (.invalidArgument, outHeader, outPayload)

/-! ### The round trip -/

section RoundTrip

variable {magic : Vector UInt8 4} {total payloadLen : UInt32} {revision : UInt64} {value : Mem}
  {payload : List UInt8}

@[simp] theorem length_headerFields (magic : Vector UInt8 4) (total : UInt32) (revision : UInt64) :
    (headerFields magic total revision).length = 20 := by
  simp [headerFields]

/-- The header of a record, with its check. -/
def recordHeader (magic : Vector UInt8 4) (total : UInt32) (revision : UInt64) (crc : UInt32) :
    CommonEnvelope :=
  { magic, schema := 1, headerLength := 24, totalLength := total, revision, crc32c := crc }

/-- The fields of a header that stands at the start. -/
theorem readHeader_append (magic : Vector UInt8 4) (total : UInt32) (revision : UInt64)
    (crc : UInt32) (rest : List UInt8) :
    readHeader (headerFields magic total revision ++ (encodeBE 4 crc.toNat ++ rest)) =
      recordHeader magic total revision crc := by
  have hmagic : magic.toList.length = 4 := Vector.length_toList
  have hcrc := @getU32Be_field _ rest _ crc (length_headerFields magic total revision)
  unfold readHeader recordHeader
  rw [hcrc]
  unfold headerFields
  simp only [List.append_assoc]
  congr 1
  · refine getVector_of_slice ?_
    rw [slice_append_left (by omega), slice_self hmagic]
  · exact getU16Be_field 1 hmagic
  · rw [← List.append_assoc]
    exact getU16Be_field 24 (by simp)
  · rw [← List.append_assoc, ← List.append_assoc]
    exact getU32Be_field total (by simp)
  · rw [← List.append_assoc, ← List.append_assoc, ← List.append_assoc]
    exact getU64Be_of_slice (slice_field (by simp) (length_encodeBE 8 _))

/-- What a record holds, once its check is written. -/
theorem read_record (value : Mem) (magic : Vector UInt8 4) (total : UInt32) (revision : UInt64)
    (payload : List UInt8) (crc : UInt32) :
    ((uncheckedRecord value magic total revision payload).write 20 (encodeBE 4 crc.toNat)).read 0
        (24 + payload.length) =
      headerFields magic total revision ++ (encodeBE 4 crc.toNat ++ payload) := by
  have hfields := length_headerFields magic total revision
  have hcrc := length_encodeBE 4 crc.toNat
  set record := uncheckedRecord value magic total revision payload with hrecord
  have hstart : (record.write 20 (encodeBE 4 crc.toNat)).read 0 20 =
      headerFields magic total revision := by
    have hwithin : (value.write 0 (headerFields magic total revision ++ encodeBE 4 0)).read (0 + 0)
        20 = slice (headerFields magic total revision ++ encodeBE 4 0) 0 20 :=
      Mem.read_write_within (by simp)
    rw [Mem.read_write_apart (by omega), hrecord, uncheckedRecord, Mem.read_write_apart (by omega),
      hwithin, slice_append_left (by omega), slice_self hfields]
  have hcheck : (record.write 20 (encodeBE 4 crc.toNat)).read 20 4 = encodeBE 4 crc.toNat :=
    Mem.read_write_same hcrc
  have hpayload : (record.write 20 (encodeBE 4 crc.toNat)).read 24 payload.length = payload := by
    rw [Mem.read_write_apart (by omega), hrecord, uncheckedRecord, Mem.read_write_same rfl]
  have hsplit : 24 + payload.length = 20 + (4 + payload.length) := by omega
  rw [hsplit, Mem.read_add, Mem.read_add, hstart, Nat.zero_add, hcheck, hpayload]

/-- The check that is computed over zeros is the one that was computed before it was written. -/
theorem write_zeros (value : Mem) (magic : Vector UInt8 4) (total : UInt32) (revision : UInt64)
    (payload crc : List UInt8) (hcrc : crc.length = 4) :
    ((uncheckedRecord value magic total revision payload).write 20 crc).write 20 (encodeBE 4 0) =
      uncheckedRecord value magic total revision payload := by
  refine Mem.write_write_read ?_ hcrc
  have hwithin : (value.write 0 (headerFields magic total revision ++ encodeBE 4 0)).read (0 + 20)
      4 = slice (headerFields magic total revision ++ encodeBE 4 0) 20 4 :=
    Mem.read_write_within (by simp)
  rw [uncheckedRecord, Mem.read_write_apart (by omega)]
  refine hwithin.trans ?_
  have hfields := length_headerFields magic total revision
  rw [slice_append_right hfields.le, hfields]
  exact slice_self (length_encodeBE 4 0)

/-- A record that was encoded is decoded, its length being what the record says. -/
theorem decodeEnvelope_encoded (value : Mem) (magic : Vector UInt8 4) {payloadLen : UInt32}
    {revision : UInt64} (payload : List UInt8) (hpayload : payload.length = payloadLen.toNat)
    (hrevision : revision ≠ 0) (hceiling : 24 + payloadLen.toNat ≤ 712)
    (header : CommonEnvelope) (out : ℕ) :
    let total := envelopeBytes + payloadLen
    let record := uncheckedRecord value magic total revision payload
    let crc := crc32c (record.read 0 total.toNat)
    decodeEnvelope (some (record.write 20 (encodeBE 4 crc.toNat))) total (some magic) payloadLen
        (some header) (some out) =
      (.ok, some (recordHeader magic total revision crc), some 24) := by
  intro total record crc
  have htotal : total.toNat = 24 + payloadLen.toNat := by
    show (envelopeBytes + payloadLen).toNat = _
    rw [UInt32.toNat_add]
    exact Nat.mod_eq_of_lt (by show 24 + payloadLen.toNat < 2 ^ 32; omega)
  have hread : (record.write 20 (encodeBE 4 crc.toNat)).read 0 total.toNat =
      headerFields magic total revision ++ (encodeBE 4 crc.toNat ++ payload) := by
    rw [htotal, ← hpayload]
    exact read_record value magic total revision payload crc
  have hscratch : (record.write 20 (encodeBE 4 crc.toNat)).write 20 (encodeBE 4 0) = record :=
    write_zeros value magic total revision payload _ (length_encodeBE 4 _)
  have hbounds : ¬(total < envelopeBytes ∨ valueCeiling < total) := by
    rw [UInt32.lt_iff_toNat_lt, UInt32.lt_iff_toNat_lt, htotal]
    rintro (hless | hmore)
    · exact absurd hless (by show ¬24 + payloadLen.toNat < 24; omega)
    · exact absurd hmore (by show ¬712 < 24 + payloadLen.toNat; omega)
  have hlength : total - 24 = payloadLen := by
    rw [← UInt32.toNat_inj, UInt32.toNat_sub_of_le]
    · rw [htotal]
      exact Nat.add_sub_cancel_left 24 payloadLen.toNat
    · rw [UInt32.le_iff_toNat_le, htotal]
      exact Nat.le_add_right 24 _
  simp only [decodeEnvelope, hread, hscratch, readHeader_append, if_neg hbounds, recordHeader,
    ne_eq, not_true, if_false, hrevision, or_self, hlength]
  exact if_neg (not_not.2 rfl)

end RoundTrip

/-! ### What is accepted -/

/-- The arguments of a call of the encoder. -/
structure EncodeCall where
  magic : Option (Vector UInt8 4)
  revision : UInt64
  payload : Option Mem
  payloadLen : UInt32
  outValue : Option Mem
  outCapacity : UInt32
  outLength : Option UInt32

/-- What the call returns and leaves behind. -/
def EncodeCall.result (c : EncodeCall) : RecordStatus × Option Mem × Option UInt32 :=
  encodeEnvelope c.magic c.revision c.payload c.payloadLen c.outValue c.outCapacity c.outLength

/-- No pointer that is needed is null. -/
def EncodeCall.PointersValid (c : EncodeCall) : Prop :=
  c.magic.isSome ∧ c.outValue.isSome ∧ c.outLength.isSome ∧ (c.payloadLen = 0 ∨ c.payload.isSome)

/-- The record fits, its length taken as a number. -/
def EncodeCall.Fits (c : EncodeCall) : Prop :=
  24 + c.payloadLen.toNat ≤ c.outCapacity.toNat ∧ 24 + c.payloadLen.toNat ≤ 712

/-- The length needs a bit more than a word has, and what is left of it fits. -/
def EncodeCall.Wraps (c : EncodeCall) : Prop :=
  c.PointersValid ∧ c.revision ≠ 0 ∧ 2 ^ 32 ≤ 24 + c.payloadLen.toNat ∧
    24 + c.payloadLen.toNat - 2 ^ 32 ≤ c.outCapacity.toNat

/-- What was written is decoded, with the revision and the payload of the call. -/
def EncodeCall.Decodes (c : EncodeCall) : Prop :=
  ∀ (header : CommonEnvelope) (out : ℕ), ∃ value total header',
    c.result.2 = (some value, some total) ∧
    decodeEnvelope (some value) total c.magic c.payloadLen (some header) (some out) =
      (.ok, some header', some 24) ∧
    header'.revision = c.revision ∧
    value.read 24 c.payloadLen.toNat = (c.payload.getD fun _ => 0).read 0 c.payloadLen.toNat

/-- The encoder accepts a call exactly if the record fits, and what it writes is decoded. -/
structure EncodeCall.Exact (c : EncodeCall) : Prop where
  accepts : c.result.1 = .ok ↔ c.PointersValid ∧ c.revision ≠ 0 ∧ c.Fits
  decodes : c.result.1 = .ok → c.Decodes

section Acceptance

variable {c : EncodeCall}

/-- The length that the encoder compares. -/
theorem toNat_total (payloadLen : UInt32) :
    (envelopeBytes + payloadLen).toNat =
      if 2 ^ 32 ≤ 24 + payloadLen.toNat then 24 + payloadLen.toNat - 2 ^ 32
      else 24 + payloadLen.toNat := by
  have hlt := payloadLen.toNat_lt
  have hsum : (envelopeBytes + payloadLen).toNat = (24 + payloadLen.toNat) % 2 ^ 32 :=
    UInt32.toNat_add _ _
  rw [hsum]
  split_ifs with hwraps
  · rw [Nat.mod_eq_sub_mod hwraps]
    exact Nat.mod_eq_of_lt (by omega)
  · exact Nat.mod_eq_of_lt (by omega)

/-- What the encoder returns, and when. -/
theorem EncodeCall.result_cases (c : EncodeCall) :
    (c.result.1 = .invalidArgument ∧ ¬(c.PointersValid ∧ c.revision ≠ 0 ∧
      (envelopeBytes + c.payloadLen).toNat ≤ c.outCapacity.toNat ∧
      (envelopeBytes + c.payloadLen).toNat ≤ 712)) ∨
    ∃ magic value, c.magic = some magic ∧ c.PointersValid ∧ c.revision ≠ 0 ∧
      (envelopeBytes + c.payloadLen).toNat ≤ c.outCapacity.toNat ∧
      (envelopeBytes + c.payloadLen).toNat ≤ 712 ∧
      let record := uncheckedRecord value magic (envelopeBytes + c.payloadLen) c.revision
        ((c.payload.getD fun _ => 0).read 0 c.payloadLen.toNat)
      c.result = (.ok, some (record.write 20
        (encodeBE 4 (crc32c (record.read 0 (envelopeBytes + c.payloadLen).toNat)).toNat)),
        some (envelopeBytes + c.payloadLen)) := by
  obtain ⟨magic, revision, payload, payloadLen, value, capacity, length⟩ := c
  unfold EncodeCall.result EncodeCall.PointersValid
  cases magic with
  | none => exact .inl ⟨rfl, fun h => Bool.false_ne_true h.1.1⟩
  | some magic =>
  cases value with
  | none => exact .inl ⟨rfl, fun h => Bool.false_ne_true h.1.2.1⟩
  | some value =>
  cases length with
  | none => exact .inl ⟨rfl, fun h => Bool.false_ne_true h.1.2.2.1⟩
  | some length =>
  simp only [encodeEnvelope]
  by_cases hbad : (0 < payloadLen ∧ payload.isNone = true) ∨ revision = 0
  · refine .inl ⟨by rw [if_pos hbad], fun h => ?_⟩
    rcases hbad with ⟨hpos, hnone⟩ | hzero
    · rcases h.1.2.2.2 with hlen | hsome
      · rw [hlen] at hpos
        exact absurd hpos (by decide)
      · rw [Option.isNone_iff_eq_none] at hnone
        rw [hnone] at hsome
        exact absurd hsome (by decide)
    · exact h.2.1 hzero
  · rw [if_neg hbad]
    obtain ⟨hpayload, hrevision⟩ := not_or.1 hbad
    have hvalid : payloadLen = 0 ∨ payload.isSome = true := by
      by_contra hnot
      obtain ⟨hlen, hnone⟩ := not_or.1 hnot
      rw [Bool.not_eq_true, Option.isSome_eq_false_iff] at hnone
      exact hpayload ⟨UInt32.pos_iff_ne_zero.2 hlen, hnone⟩
    have hceiling : valueCeiling.toNat = 712 := rfl
    by_cases hlarge : capacity < envelopeBytes + payloadLen ∨
        valueCeiling < envelopeBytes + payloadLen
    · refine .inl ⟨by rw [if_pos hlarge], fun h => ?_⟩
      rw [UInt32.lt_iff_toNat_lt, UInt32.lt_iff_toNat_lt, hceiling] at hlarge
      obtain ⟨-, -, hcapacity, hvalue⟩ := h
      omega
    · rw [if_neg hlarge]
      rw [UInt32.lt_iff_toNat_lt, UInt32.lt_iff_toNat_lt, hceiling] at hlarge
      obtain ⟨hcapacity, hvalue⟩ := not_or.1 hlarge
      exact .inr ⟨magic, value, rfl, ⟨rfl, rfl, rfl, hvalid⟩, hrevision, Nat.not_lt.1 hcapacity,
        Nat.not_lt.1 hvalue, rfl⟩

/-- **The encoder is exact, except where the length of the record wraps around.** -/
theorem envelope_exact_iff (c : EncodeCall) : c.Exact ↔ ¬c.Wraps := by
  have htotal := toNat_total c.payloadLen
  constructor
  · rintro hexact ⟨hvalid, hrevision, hwraps, hcapacity⟩
    rw [if_pos hwraps] at htotal
    have hlt := c.payloadLen.toNat_lt
    rcases c.result_cases with ⟨-, hnot⟩ | ⟨_, _, -, -, -, -, -, hok⟩
    · exact hnot ⟨hvalid, hrevision, by omega, by omega⟩
    · have hfits := (hexact.accepts.1 (by rw [hok])).2.2.2
      omega
  · intro hnot
    rcases c.result_cases with ⟨hinvalid, hless⟩ | ⟨magic, value, hmagic, hvalid, hrevision,
      hcapacity, hvalue, hok⟩
    · refine ⟨iff_of_false (by rw [hinvalid]; decide) ?_, fun hok => ?_⟩
      · rintro ⟨hvalid, hrevision, hcapacity, hvalue⟩
        rw [if_neg (by omega)] at htotal
        exact hless ⟨hvalid, hrevision, by omega, by omega⟩
      · rw [hinvalid] at hok
        exact absurd hok (by decide)
    · have hfits : ¬2 ^ 32 ≤ 24 + c.payloadLen.toNat := by
        intro hwraps
        rw [if_pos hwraps] at htotal
        exact hnot ⟨hvalid, hrevision, hwraps, by omega⟩
      rw [if_neg hfits] at htotal
      refine ⟨iff_of_true (by rw [hok]) ⟨hvalid, hrevision, by omega, by omega⟩, fun _ => ?_⟩
      intro header out
      have hlength := Mem.length_read (c.payload.getD fun _ => 0) 0 c.payloadLen.toNat
      have hdecode := decodeEnvelope_encoded value magic _ hlength hrevision (by omega) header out
      rw [hok, hmagic]
      refine ⟨_, _, _, rfl, hdecode, rfl, ?_⟩
      rw [Mem.read_write_apart (by simp), uncheckedRecord, Mem.read_write_same hlength]

/-- A payload of 2 ^ 32 - 24 bytes is accepted, whatever the capacity. -/
theorem envelope_wraps : ¬∀ c : EncodeCall, c.Exact := by
  intro h
  have hexact := h
    { magic := some #v[0x46, 0x42, 0x4D, 0x31], revision := 1, payload := some fun _ => 0
      payloadLen := 0xFFFFFFE8, outValue := some fun _ => 0, outCapacity := 712
      outLength := some 0 }
  have hfits := (hexact.accepts.1 rfl).2.2.2
  exact absurd hfits (by decide)

end Acceptance

end Records
end Ninlil.Fabric
