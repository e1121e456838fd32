import Ninlil.Lib.Guard
import Ninlil.Lib.Tiling

/-!
# NWB1 records

`wifi_nwb1.c`: the framing of one fabric packet on a TLS stream.

* `wifiCrc32c`, `nfl1StructuralOk`: the checks of the packet inside;
* `nwb1Classify`: whether a record is the next one of a session;
* `nwb1Encode`: the record of a packet;
* `AcceptedRecord`: an accepted record names its own length, within bounds, and carries the expected
  sequence number, which is not the reserved one;
* `nwb1Classify_encode`: an encoded record is accepted.
-/

namespace Ninlil.Wifi

open Bytes Guard

/-! ### Constants -/

/-- `NINLIL_WIFI_NWB1_HEADER_BYTES`. -/
def nwb1HeaderBytes : ℕ := 40
/-- `NINLIL_WIFI_NWB1_PAYLOAD_MIN`. -/
def nwb1PayloadMin : UInt32 := 587
/-- `NINLIL_WIFI_NWB1_PAYLOAD_MAX`. -/
def nwb1PayloadMax : UInt32 := 1925
/-- `NINLIL_WIFI_NWB1_TOTAL_MIN`. -/
def nwb1TotalMin : UInt32 := 627
/-- `NINLIL_WIFI_NWB1_TOTAL_MAX`. -/
def nwb1TotalMax : UInt32 := 1965
/-- `NINLIL_WIFI_NFL1_HEADER_BYTES`. -/
def nfl1HeaderBytes : ℕ := 584
/-- `NINLIL_WIFI_NWB1_MAGIC_0` to `_3`. -/
def nwb1Magic : List UInt8 := [0x4E, 0x57, 0x42, 0x31]
/-- The magic of the packet inside. -/
def nfl1Magic : List UInt8 := [0x4E, 0x46, 0x4C, 0x31]
/-- The sequence number that no record carries. -/
def reservedSequence : UInt32 := 0xFFFFFFFF

/-- `ninlil_wifi_status_t`, the values that framing returns. -/
inductive WifiStatus
  | ok
  | wouldBlock
  | invalidArgument
  | corrupt
  | unsupported
  | capacity
  | sequenceReject
  | wrongSession
  deriving DecidableEq

/-! ### The packet inside -/

/-- One bit of the division. -/
def wifiCrcBit (crc : UInt32) : UInt32 := (crc >>> 1) ^^^ (if crc &&& 1 ≠ 0 then 0x82f63b78 else 0)

/-- `ninlil_wifi_crc32c`. -/
def wifiCrc32c (data : List UInt8) : UInt32 :=
  data.foldl (fun crc b => wifiCrcBit^[8] (crc ^^^ b.toUInt32)) 0xffffffff ^^^ 0xffffffff

/-- The copy in `scratch`, the stored check in it zeroed. -/
def withoutCrc (bytes : List UInt8) (offset : ℕ) : List UInt8 := store bytes offset [0, 0, 0, 0]

/-- `ninlil_wifi_nfl1_structural_ok`. -/
def nfl1StructuralOk (packet : List UInt8) : Bool :=
  let length := UInt32.ofNat packet.length
  let version := getU16Be packet 4
  let headerLength := getU16Be packet 6
  let totalLength := getU32Be packet 8
  let storedCrc := getU32Be packet 12
  let nsLen := getU16Be packet 570
  let svcLen := getU16Be packet 572
  let schemaLen := getU16Be packet 574
  let payloadLen := getU32Be packet 576
  let evidenceLen := getU32Be packet 580
  if packet.length < nfl1HeaderBytes ∨ 1925 < packet.length then false
  else if slice packet 0 4 ≠ nfl1Magic then false
  else if headerLength.toNat ≠ nfl1HeaderBytes ∨ totalLength ≠ length then false
  else if totalLength < 587 ∨ 1925 < totalLength ∨ version ≠ 1 then false
  else if wifiCrc32c (withoutCrc packet 12) ≠ storedCrc then false
  else if 63 < nsLen ∨ 63 < svcLen ∨ 63 < schemaLen then false
  else if 584 + nsLen.toUInt32 + svcLen.toUInt32 + schemaLen.toUInt32 + payloadLen + evidenceLen
      ≠ totalLength then false
  else if getU32Be packet 20 &&& 0xffff0000 ≠ 0 then false
  else true

/-! ### Records -/

/-- What `ninlil_wifi_nwb1_classify` hands out of a record it accepts. -/
structure Nwb1View where
  payload : List UInt8
  sequence : UInt32
  deriving DecidableEq

/-- `ninlil_wifi_nwb1_classify`; without a session or a sequence number to expect, `none`. -/
def nwb1Classify (record : List UInt8) (expectedSession : Option (Vector UInt8 16))
    (expectedSequence : Option UInt32) : Except WifiStatus Nwb1View :=
  let length := UInt32.ofNat record.length
  let version := getU16Be record 4
  let headerLength := getU16Be record 6
  let totalLength := getU32Be record 8
  let payloadLength := getU32Be record 12
  let sequence := getU32Be record 32
  let storedCrc := getU32Be record 36
  let payload := slice record nwb1HeaderBytes payloadLength.toNat
  if record.length < nwb1HeaderBytes then .error .corrupt
  else if slice record 0 4 ≠ nwb1Magic then .error .corrupt
  else if headerLength.toNat ≠ nwb1HeaderBytes then .error .corrupt
  else if totalLength ≠ length ∨ payloadLength ≠ length - 40 then .error .corrupt
  else if payloadLength < nwb1PayloadMin ∨ nwb1PayloadMax < payloadLength
      ∨ totalLength < nwb1TotalMin ∨ nwb1TotalMax < totalLength then .error .corrupt
  else if nwb1TotalMax.toNat < record.length then .error .corrupt
  else if wifiCrc32c (withoutCrc record 36) ≠ storedCrc then .error .corrupt
  else if 1 < version then .error .unsupported
  else if version ≠ 1 then .error .corrupt
  else if (slice record 16 16).all (· == 0) then .error .corrupt
  else if ∃ session ∈ expectedSession, slice record 16 16 ≠ session.toList then
    .error .wrongSession
  else if sequence = reservedSequence then .error .sequenceReject
  else if ∃ expected ∈ expectedSequence, sequence ≠ expected then .error .sequenceReject
  else if nfl1StructuralOk payload = false then .error .corrupt
  else .ok { payload, sequence }

/-- What goes before the check of a record. -/
def nwb1Prefix (session : Vector UInt8 16) (sequence : UInt32) (payloadLen : ℕ) : List UInt8 :=
  nwb1Magic ++ (encodeBE 2 1 ++ (encodeBE 2 nwb1HeaderBytes ++
    (encodeBE 4 (nwb1HeaderBytes + payloadLen)
    ++ (encodeBE 4 payloadLen ++ (session.toList ++ encodeBE 4 sequence.toNat)))))

/-- The check of a record, computed with zeros in its place. -/
def nwb1Crc (before payload : List UInt8) : UInt32 :=
  wifiCrc32c (before ++ ([0, 0, 0, 0] ++ payload))

/-- `ninlil_wifi_nwb1_encode`. -/
def nwb1Encode (session : Vector UInt8 16) (sequence : UInt32) (payload : List UInt8)
    (capacity : ℕ) : Except WifiStatus (List UInt8) :=
  let before := nwb1Prefix session sequence payload.length
  if session.toList.all (· == 0) then .error .wrongSession
  else if payload.length < nwb1PayloadMin.toNat ∨ nwb1PayloadMax.toNat < payload.length then
    .error .invalidArgument
  else if sequence = reservedSequence then .error .sequenceReject
  else if nfl1StructuralOk payload = false then .error .corrupt
  else if capacity < nwb1HeaderBytes + payload.length then .error .capacity
  else .ok (before ++ (encodeBE 4 (nwb1Crc before payload).toNat ++ payload))

section Accepted

variable {record : List UInt8} {session : Option (Vector UInt8 16)} {expected : Option UInt32}
  {view : Nwb1View}

/-- What an accepted record says about itself. -/
structure AcceptedRecord (record : List UInt8) (expected : Option UInt32) (view : Nwb1View) :
    Prop where
  header : nwb1HeaderBytes ≤ record.length
  total : getU32Be record 8 = UInt32.ofNat record.length
  least : nwb1TotalMin ≤ getU32Be record 8
  most : record.length ≤ nwb1TotalMax.toNat
  sequence : view.sequence = getU32Be record 32
  usable : view.sequence ≠ reservedSequence
  expected : ∀ q ∈ expected, view.sequence = q

theorem nwb1Classify_accepted (h : nwb1Classify record session expected = .ok view) :
    AcceptedRecord record expected view := by
  unfold nwb1Classify at h
  simp only [ite_error_eq_ok, not_or, not_lt, not_not, not_exists, not_and] at h
  obtain ⟨header, -, -, total, bounds, most, -, -, -, -, -, usable, expect, -, hview⟩ := h
  obtain rfl := Except.ok.inj hview
  exact ⟨header, total.1, UInt32.not_lt.1 bounds.2.2.1, most, rfl, usable, fun q hq => expect q hq⟩

/-- The length an accepted record names is its own. -/
theorem AcceptedRecord.toNat_total (h : AcceptedRecord record expected view) :
    (getU32Be record 8).toNat = record.length := by
  have hmost : record.length ≤ 1965 := h.most
  rw [h.total, UInt32.toNat_ofNat']
  omega

end Accepted

section Encoded

variable {session : Vector UInt8 16} {sequence : UInt32} {payload : List UInt8} {n : ℕ}

theorem length_nwb1Prefix : (nwb1Prefix session sequence n).length = 36 := by
  simp [nwb1Prefix, nwb1Magic]

/-- The fields before the check, read from a record. -/
structure PrefixFields (session : Vector UInt8 16) (sequence : UInt32) (n : ℕ)
    (record : List UInt8) : Prop where
  magic : slice record 0 4 = nwb1Magic
  version : getU16Be record 4 = 1
  header : (getU16Be record 6).toNat = nwb1HeaderBytes
  total : getU32Be record 8 = UInt32.ofNat (nwb1HeaderBytes + n)
  payload : getU32Be record 12 = UInt32.ofNat n
  session : slice record 16 16 = session.toList
  sequence : getU32Be record 32 = sequence

theorem prefix_fields (hn : n ≤ nwb1PayloadMax.toNat) (rest : List UInt8) :
    PrefixFields session sequence n (nwb1Prefix session sequence n ++ rest) := by
  have hn' : n ≤ 1925 := hn
  have h16 : ∀ v, v < 2 ^ 16 → encodeBE 2 v = encodeBE 2 (UInt16.ofNat v).toNat := by
    intro v hv
    rw [UInt16.toNat_ofNat_of_lt' hv]
  have h32 : ∀ v, v < 2 ^ 32 → encodeBE 4 v = encodeBE 4 (UInt32.ofNat v).toNat := by
    intro v hv
    rw [UInt32.toNat_ofNat_of_lt' hv]
  unfold nwb1Prefix
  rw [h16 1 (by decide), h16 nwb1HeaderBytes (by decide), h32 n (by omega),
    h32 (nwb1HeaderBytes + n) (by unfold nwb1HeaderBytes; omega)]
  simp only [List.append_assoc]
  generalize hver : encodeBE 2 (UInt16.ofNat 1).toNat = version
  generalize hhead : encodeBE 2 (UInt16.ofNat nwb1HeaderBytes).toNat = header
  generalize htot : encodeBE 4 (UInt32.ofNat (nwb1HeaderBytes + n)).toNat = total
  generalize hpay : encodeBE 4 (UInt32.ofNat n).toNat = length
  generalize hseq : encodeBE 4 sequence.toNat = number
  have lver : version.length = 2 := by rw [← hver, length_encodeBE]
  have lhead : header.length = 2 := by rw [← hhead, length_encodeBE]
  have ltot : total.length = 4 := by rw [← htot, length_encodeBE]
  have lpay : length.length = 4 := by rw [← hpay, length_encodeBE]
  have lseq : number.length = 4 := by rw [← hseq, length_encodeBE]
  constructor
  · exact slice_first rfl
  · refine getU16Be_of_slice ?_
    rw [show (1 : UInt16) = UInt16.ofNat 1 from rfl, hver]
    exact slice_field rfl lver
  · have hread : getU16Be (nwb1Magic ++ (version ++ (header ++ (total ++ (length ++
        (session.toList ++ (number ++ rest))))))) 6 = UInt16.ofNat nwb1HeaderBytes := by
      refine getU16Be_of_slice ?_
      rw [hhead, ← List.append_assoc]
      exact slice_field (by simp [nwb1Magic, lver]) lhead
    rw [hread]
    rfl
  · refine getU32Be_of_slice ?_
    rw [htot, ← List.append_assoc, ← List.append_assoc]
    exact slice_field (by simp [nwb1Magic, lver, lhead]) ltot
  · refine getU32Be_of_slice ?_
    rw [hpay, ← List.append_assoc, ← List.append_assoc, ← List.append_assoc]
    exact slice_field (by simp [nwb1Magic, lver, lhead, ltot]) lpay
  · rw [← List.append_assoc, ← List.append_assoc, ← List.append_assoc, ← List.append_assoc]
    exact slice_field (by simp [nwb1Magic, lver, lhead, ltot, lpay]) (by simp)
  · refine getU32Be_of_slice ?_
    rw [hseq, ← List.append_assoc, ← List.append_assoc, ← List.append_assoc, ← List.append_assoc,
      ← List.append_assoc]
    exact slice_field (by simp [nwb1Magic, lver, lhead, ltot, lpay]) lseq

/-- The check is computed with zeros in its place. -/
theorem withoutCrc_field {before field : List UInt8} (hfield : field.length = 4) :
    withoutCrc (before ++ (field ++ payload)) before.length =
      before ++ ([0, 0, 0, 0] ++ payload) := by
  unfold withoutCrc
  rw [store_eq_append (by simp [hfield])]
  have hdrop : (before ++ (field ++ payload)).drop (before.length + [0, 0, 0, (0 : UInt8)].length) =
      payload := by
    rw [← List.append_assoc]
    exact List.drop_left' (by simp [hfield])
  rw [List.take_left, hdrop]

/-- **An encoded record is accepted**, with its packet and under its sequence number. -/
theorem nwb1Classify_encode {capacity : ℕ} {record : List UInt8}
    (h : nwb1Encode session sequence payload capacity = .ok record) :
    nwb1Classify record (some session) (some sequence) = .ok ⟨payload, sequence⟩ := by
  unfold nwb1Encode at h
  simp only [ite_error_eq_ok, not_or, not_lt] at h
  obtain ⟨hsession, hbounds, husable, hpacket, -, hrecord⟩ := h
  obtain rfl := Except.ok.inj hrecord
  have hmin : 587 ≤ payload.length := hbounds.1
  have hmax : payload.length ≤ 1925 := hbounds.2
  have hfields : ∀ rest, PrefixFields session sequence payload.length
      (nwb1Prefix session sequence payload.length ++ rest) := prefix_fields hbounds.2
  have hlen : (nwb1Prefix session sequence payload.length).length = 36 := length_nwb1Prefix
  unfold nwb1Crc
  generalize nwb1Prefix session sequence payload.length = before at hfields hlen ⊢
  generalize hcrc : wifiCrc32c (before ++ ([0, 0, 0, 0] ++ payload)) = crc
  have hfield : (encodeBE 4 crc.toNat).length = 4 := length_encodeBE 4 _
  obtain ⟨magic, version, header, total, length, names, number⟩ :=
    hfields (encodeBE 4 crc.toNat ++ payload)
  have hrecord : (before ++ (encodeBE 4 crc.toNat ++ payload)).length = 40 + payload.length := by
    rw [List.length_append, List.length_append, hlen, hfield]
    omega
  have hstored : getU32Be (before ++ (encodeBE 4 crc.toNat ++ payload)) 36 = crc :=
    getU32Be_field crc hlen
  have hchecked :
      wifiCrc32c (withoutCrc (before ++ (encodeBE 4 crc.toNat ++ payload)) 36) = crc := by
    rw [← hlen, withoutCrc_field hfield, hcrc]
  have hlength : (UInt32.ofNat payload.length).toNat = payload.length :=
    UInt32.toNat_ofNat_of_lt' (show payload.length < 2 ^ 32 by omega)
  have hinside : slice (before ++ (encodeBE 4 crc.toNat ++ payload)) nwb1HeaderBytes
      payload.length = payload := by
    rw [← List.append_assoc, slice_append_right (by simp [hlen, nwb1HeaderBytes])]
    have hzero : nwb1HeaderBytes - (before ++ encodeBE 4 crc.toNat).length = 0 := by
      rw [List.length_append, hlen, hfield]
      rfl
    rw [hzero, slice_self rfl]
  generalize before ++ (encodeBE 4 crc.toNat ++ payload) = record at *
  have hends : UInt32.ofNat record.length - 40 = UInt32.ofNat payload.length := by
    rw [hrecord, Nat.add_comm, UInt32.ofNat_add]
    exact UInt32.add_sub_cancel _ _
  unfold nwb1Classify
  simp only [ite_error_eq_ok]
  rw [length, hlength, hinside, names, number, version, total, hchecked, hstored, hends, hrecord]
  have hwhole : (UInt32.ofNat (nwb1HeaderBytes + payload.length)).toNat = 40 + payload.length :=
    UInt32.toNat_ofNat_of_lt' (show 40 + payload.length < 2 ^ 32 by omega)
  refine ⟨?_, not_not.2 magic, not_not.2 header, ?_, ?_, ?_, not_not.2 rfl, by decide,
    not_not.2 rfl, hsession, ?_, husable, ?_, hpacket, rfl⟩
  · unfold nwb1HeaderBytes
    omega
  · rw [not_or, not_not, not_not]
    exact ⟨rfl, rfl⟩
  · simp only [not_or, UInt32.not_lt, UInt32.le_iff_toNat_le, hlength, hwhole]
    exact ⟨hmin, hmax, Nat.add_le_add_left hmin 40, Nat.add_le_add_left hmax 40⟩
  · exact not_lt.2 (Nat.add_le_add_left hmax 40)
  · rintro ⟨other, hother, hne⟩
    exact hne (congrArg Vector.toList (Option.mem_some_iff.1 hother))
  · rintro ⟨other, hother, hne⟩
    exact hne (Option.mem_some_iff.1 hother)

end Encoded

end Ninlil.Wifi
