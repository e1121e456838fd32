import Ninlil.RouteRelay.Records

/-!
# Slots that are imported, encoded again

* `encodeNrm1`, `encodeSlot`: the management record and the slot of a route;
* `nrm1_eq_iff`: which bytes of an accepted management record its encoding does not repeat;
* `slot_canonical_iff`: an accepted slot is canonical exactly if its copies of the clock epoch and
  of the lease expiry are those of its management record, whose reserved bytes are zero.

The digest is a parameter.
-/

namespace Ninlil.RouteRelay

open Bytes

/-! ### Encoding -/

/-- `ninlil_rrmp_drain_fence_t`. -/
structure DrainFence where
  drainFence : UInt64
  routeRevision : UInt64
  drainDeadlineMs : UInt64
  leaseDeadlineMs : UInt64
  deriving DecidableEq

/-- The fields of a management record, up to its digest. -/
def nrm1Blocks (f : Nrm1Fields) : List (List UInt8) :=
  [nrm1Magic, encodeBE 2 1, encodeBE 2 256, f.authorityId, encodeBE 8 f.controllerTerm.toNat,
    encodeBE 8 f.routeRevision.toNat, encodeBE 8 f.leaseEpoch.toNat, f.authorityClockEpochId,
    encodeBE 8 f.leaseExpiryMs.toNat, encodeBE 4 f.ingressHopContextId.toNat,
    encodeBE 2 f.routeHandle.toNat, encodeBE 2 f.routeGeneration.toNat, f.egressPeerId,
    encodeBE 4 f.egressHopContextId.toNat, encodeBE 2 f.egressRouteHandle.toNat,
    encodeBE 2 f.egressRouteGeneration.toNat, f.grantId, encodeBE 2 f.queueQuotaEntries.toNat,
    [0, 0], encodeBE 4 f.queueQuotaBytes.toNat, [f.maxHops], [f.ackPolicy], [f.terminalFlag], [0],
    f.pathPolicyId, encodeBE 8 f.pathPolicyRevision.toNat]

/-- The bytes of a drain fence; a null one leaves zeros. -/
def drainBlocks : Option DrainFence → List (List UInt8)
  | none => List.replicate 4 (List.replicate 8 0)
  | some d => [encodeBE 8 d.drainFence.toNat, encodeBE 8 d.routeRevision.toNat,
      encodeBE 8 d.drainDeadlineMs.toNat, encodeBE 8 d.leaseDeadlineMs.toNat]

section Encoding

variable (sha256 : List UInt8 → List UInt8)

/-- A body with its digest and its check behind it, and zeros. -/
def sealRecord (body : List UInt8) (pad : ℕ) : List UInt8 :=
  (body ++ sha256 body) ++
    (encodeBE 4 (crc32c (body ++ sha256 body)).toNat ++ List.replicate pad 0)

/-- `ninlil_rrmp_encode_nrm1`. -/
def encodeNrm1 (f : Nrm1Fields) : List UInt8 := sealRecord sha256 (nrm1Blocks f).flatten 64

/-- A slot up to its digest, with the clock epoch and the lease expiry that stand behind the exact
body. -/
def slotBlocks (state : UInt8) (f : Nrm1Fields) (epoch : List UInt8) (expiry : UInt64)
    (nextAdmissionSeq : UInt64) (drain : Option DrainFence) : List (List UInt8) :=
  [[state], [0, 0, 0], encodeBE 4 f.ingressHopContextId.toNat, encodeBE 2 f.routeHandle.toNat,
    encodeBE 2 f.routeGeneration.toNat, encodeNrm1 sha256 f, materializeExact f, epoch,
    encodeBE 8 expiry.toNat] ++ (drainBlocks drain ++ [encodeBE 8 nextAdmissionSeq.toNat])

/-- `ninlil_rrmp_encode_slot`. -/
def encodeSlot (state : UInt8) (f : Nrm1Fields) (nextAdmissionSeq : UInt64)
    (drain : Option DrainFence) : List UInt8 :=
  sealRecord sha256 (slotBlocks sha256 state f f.authorityClockEpochId f.leaseExpiryMs
    nextAdmissionSeq drain).flatten 44

end Encoding

/-- The drain words of a slot. -/
def readDrain (slot : List UInt8) : DrainFence where
  drainFence := getU64Be slot 388
  routeRevision := getU64Be slot 396
  drainDeadlineMs := getU64Be slot 404
  leaseDeadlineMs := getU64Be slot 412

/-! ### Records that were accepted -/

section Accepted

variable {sha256 : List UInt8 → List UInt8} {record body : List UInt8} {n pad : ℕ}

/-- A record that carries its digest and its check is the sealed one of its body. -/
theorem sealRecord_eq_iff (hlen : record.length = n + 32 + 4 + pad) (hbody : body.length = n)
    (hdigest : sha256 (record.take n) = slice record n 32)
    (hcrc : crc32c (record.take (n + 32)) = getU32Be record (n + 32)) :
    sealRecord sha256 body pad = record ↔
      body = record.take n ∧ List.replicate pad 0 = slice record (n + 36) pad := by
  have hsigned : record.take n ++ sha256 (record.take n) = record.take (n + 32) := by
    rw [hdigest, take_eq_slice, take_eq_slice]
    have happend := @slice_append_slice record 0 n 32
    rwa [Nat.zero_add] at happend
  have hcheck : encodeBE 4 (getU32Be record (n + 32)).toNat = slice record (n + 32) 4 :=
    encode_getU32Be (by omega)
  have hall : record.take (n + 32) ++ (slice record (n + 32) 4 ++ slice record (n + 36) pad) =
      record := by
    have hlast : slice record (n + 32) 4 ++ slice record (n + 36) pad =
        slice record (n + 32) (4 + pad) := slice_append_slice
    have hfirst := @slice_append_slice record 0 (n + 32) (4 + pad)
    rw [Nat.zero_add] at hfirst
    rw [hlast, take_eq_slice, hfirst]
    exact slice_self (by omega)
  constructor
  · intro h
    have htake : body = record.take n := by
      rw [← h, sealRecord, List.append_assoc, List.take_left' hbody]
    refine ⟨htake, ?_⟩
    unfold sealRecord at h
    rw [htake, hsigned, hcrc, hcheck] at h
    exact List.append_cancel_left (List.append_cancel_left (h.trans hall.symm))
  · rintro ⟨rfl, hpad⟩
    unfold sealRecord
    rw [hsigned, hcrc, hcheck, hpad, hall]

/-- A management record that was decoded is encoded again, up to its reserved bytes. -/
theorem nrm1_eq_iff {f : Nrm1Fields} (hlen : record.length = 256)
    (h : decodeNrm1 sha256 record = some f) :
    encodeNrm1 sha256 f = record ↔ ([0, 0] = slice record 122 2 ∧ [0] = slice record 131 1) ∧
      List.replicate 64 0 = slice record 192 64 := by
  unfold decodeNrm1 at h
  split_ifs at h with hvalid
  simp only [headed, Bool.and_eq_true, beq_iff_eq] at hvalid
  obtain ⟨⟨⟨⟨hmagic, hschema⟩, hsize⟩, hdigest⟩, hcrc⟩ := hvalid
  have hslice (o k : ℕ) (hk : o + k ≤ 256) : (slice record o k).length = k :=
    length_slice_of_le (by omega)
  have hf := (Option.some.inj h).symm
  have hschema' : encodeBE 2 1 = slice record 4 2 := by
    rw [← encode_getU16Be (by omega), hschema]
    rfl
  have hsize' : encodeBE 2 256 = slice record 6 2 := by
    rw [← encode_getU16Be (by omega), hsize]
    rfl
  have hws : (nrm1Blocks f).map List.length = [4, 2, 2, 16, 8, 8, 8, 16, 8, 4, 2, 2, 16, 4, 2, 2,
      16, 2, 2, 4, 1, 1, 1, 1, 16, 8] := by
    simp only [nrm1Blocks, hf, List.map_cons, List.map_nil, length_encodeBE, List.length_cons,
      List.length_nil]
    rw [hslice 8 16 (by omega), hslice 48 16 (by omega), hslice 80 16 (by omega),
      hslice 104 16 (by omega), hslice 132 16 (by omega)]
    rfl
  have htake : (record.take 156).length = 156 := by
    rw [List.length_take, hlen]
    rfl
  have hbody : (nrm1Blocks f).flatten.length = 156 := by
    rw [List.length_flatten, hws]
    rfl
  unfold encodeNrm1
  rw [@sealRecord_eq_iff _ _ _ 156 64 hlen hbody hdigest hcrc,
    flatten_eq_iff hws (htake.trans rfl)]
  refine and_congr_left fun _ => ?_
  have hchop : chop 0 [4, 2, 2, 16, 8, 8, 8, 16, 8, 4, 2, 2, 16, 4, 2, 2, 16, 2, 2, 4, 1, 1, 1, 1,
      16, 8] (record.take 156) = chop 0 [4, 2, 2, 16, 8, 8, 8, 16, 8, 4, 2, 2, 16, 4, 2, 2, 16, 2,
      2, 4, 1, 1, 1, 1, 16, 8] record := by
    simp (disch := decide) only [chop, slice_take]
  rw [hchop]
  simp (disch := omega) only [nrm1Blocks, hf, chop, Nat.reduceAdd, List.cons.injEq, hmagic, hschema',
    hsize', encode_getU16Be, encode_getU32Be, encode_getU64Be, singleton_getD, true_and, and_true]

/-- The lengths of a slot's fields. -/
theorem slotBlocks_widths {state : UInt8} {f : Nrm1Fields} {epoch : List UInt8}
    {expiry seq : UInt64} {d : DrainFence} (hnrm1 : (encodeNrm1 sha256 f).length = 256)
    (hexact : (materializeExact f).length = 96) (hepoch : epoch.length = 16) :
    (slotBlocks sha256 state f epoch expiry seq (some d)).map List.length =
      [1, 3, 4, 2, 2, 256, 96, 16, 8, 8, 8, 8, 8, 8] := by
  simp only [slotBlocks, drainBlocks, List.map_append, List.map_cons, List.map_nil, hnrm1, hexact,
    hepoch, length_encodeBE]
  rfl

/-- The management record of a slot whose digest has 32 bytes. -/
theorem length_encodeNrm1 {f : Nrm1Fields} (hsha : ∀ bytes, (sha256 bytes).length = 32)
    (hlen : record.length = 256) (h : decodeNrm1 sha256 record = some f) :
    (encodeNrm1 sha256 f).length = 256 ∧ f.authorityClockEpochId = slice record 48 16 ∧
      f.leaseExpiryMs = getU64Be record 64 := by
  unfold decodeNrm1 at h
  split_ifs at h
  have hslice (o k : ℕ) (hk : o + k ≤ 256) : (slice record o k).length = k :=
    length_slice_of_le (by omega)
  obtain rfl := Option.some.inj h
  refine ⟨?_, rfl, rfl⟩
  unfold encodeNrm1 sealRecord nrm1Blocks
  simp (disch := omega) only [List.length_append, hsha, length_encodeBE, List.length_replicate,
    List.length_flatten, List.map_cons, List.map_nil, List.sum_cons, List.sum_nil, hslice,
    List.length_cons, List.length_nil]
  rfl

/-- What the import of a slot has checked. -/
theorem routeSlotImportValid_spec (h : routeSlotImportValid sha256 record = true) :
    ∃ f, decodeNrm1 sha256 (slice record 12 256) = some f ∧
      decodeSlotState sha256 record = some (record.getD 0 0, f, getU64Be record 420) ∧
      sha256 (record.take 428) = slice record 428 32 ∧
      crc32c (record.take 460) = getU32Be record 460 ∧
      importBytesZero (slice record 1 3) = true ∧ importBytesZero (slice record 464 44) = true ∧
      materializeExact f = slice record 268 96 ∧ f.ingressHopContextId = getU32Be record 4 ∧
      f.routeHandle = getU16Be record 8 ∧ f.routeGeneration = getU16Be record 10 := by
  unfold routeSlotImportValid at h
  simp only [Bool.and_eq_true, Option.any_eq_true] at h
  obtain ⟨⟨⟨-, hzero⟩, htail⟩, ⟨state, f, seq⟩, hdecode, hchecks⟩ := h
  simp only [beq_iff_eq] at hchecks
  obtain ⟨⟨⟨⟨⟨⟨⟨hexact, hingress⟩, hhandle⟩, hgeneration⟩, -⟩, -⟩, -⟩, -⟩ := hchecks
  have hstate := hdecode
  unfold decodeSlotState at hstate
  split_ifs at hstate with hvalid
  simp only [Bool.and_eq_true, beq_iff_eq] at hvalid
  obtain ⟨g, hnrm1, htuple⟩ := Option.map_eq_some_iff.1 hstate
  cases htuple
  exact ⟨f, hnrm1, hdecode, hvalid.1, hvalid.2, hzero, htail, hexact, hingress.symm, hhandle.symm,
    hgeneration.symm⟩

theorem eq_replicate_of_zero {bytes : List UInt8} (h : importBytesZero bytes = true)
    (hlen : bytes.length = n) : List.replicate n 0 = bytes := by
  refine (List.eq_replicate_iff.2 ⟨hlen, fun b hb => ?_⟩).symm
  exact beq_iff_eq.1 (List.all_eq_true.1 h b hb)

end Accepted

/-! ### Canonical slots -/

/-- The parts of a slot that no check of the import reads: the reserved bytes of the management
record are zero, and the clock epoch and the lease expiry behind the exact body are its own. -/
structure CopiesAgree (slot : List UInt8) : Prop where
  reservedA : slice slot (12 + 122) 2 = [0, 0]
  reservedB : slice slot (12 + 131) 1 = [0]
  reservedTail : slice slot (12 + 192) 64 = List.replicate 64 0
  clockEpoch : slice slot 364 16 = slice slot (12 + 48) 16
  leaseExpiry : slice slot 380 8 = slice slot (12 + 64) 8

/-- What is read back from a slot is encoded to the slot. -/
def SlotCanonical (sha256 : List UInt8 → List UInt8) (slot : List UInt8) : Prop :=
  ∃ state f nextAdmissionSeq,
    decodeSlotState sha256 slot = some (state, f, nextAdmissionSeq) ∧
    encodeSlot sha256 state f nextAdmissionSeq (some (readDrain slot)) = slot

section Canonical

variable {sha256 : List UInt8 → List UInt8} {slot : List UInt8}

/-- An accepted slot is encoded again up to its unchecked parts. -/
theorem slotCanonical_of_valid (hsha : ∀ bytes, (sha256 bytes).length = 32)
    (hlen : slot.length = 508) (h : routeSlotImportValid sha256 slot = true) :
    SlotCanonical sha256 slot ↔ CopiesAgree slot := by
  obtain ⟨f, hnrm1, hdecode, hdigest, hcrc, hzero, htail, hexact, hingress, hhandle, hgeneration⟩ :=
    routeSlotImportValid_spec h
  have hslice (o k : ℕ) (hk : o + k ≤ 508) : (slice slot o k).length = k :=
    length_slice_of_le (by omega)
  have hmanaged := hslice 12 256 (by omega)
  obtain ⟨hlength, hepoch, hexpiry⟩ := length_encodeNrm1 hsha hmanaged hnrm1
  have hepochLen : f.authorityClockEpochId.length = 16 := by
    rw [hepoch]
    exact length_slice_of_le (by omega)
  have hexactLen : (materializeExact f).length = 96 := by rw [hexact, hslice 268 96 (by omega)]
  set blocks := slotBlocks sha256 (slot.getD 0 0) f f.authorityClockEpochId f.leaseExpiryMs
    (getU64Be slot 420) (some (readDrain slot)) with hblocks
  have hws : blocks.map List.length = [1, 3, 4, 2, 2, 256, 96, 16, 8, 8, 8, 8, 8, 8] :=
    slotBlocks_widths hlength hexactLen hepochLen
  have htake : (slot.take 428).length = 428 := by
    rw [List.length_take, hlen]
    rfl
  have hbody : blocks.flatten.length = 428 := by
    rw [List.length_flatten, hws]
    rfl
  have hencode : SlotCanonical sha256 slot ↔ sealRecord sha256 blocks.flatten 44 = slot := by
    constructor
    · rintro ⟨state, g, seq, hdecode', hencode⟩
      rw [hdecode] at hdecode'
      cases hdecode'
      exact hencode
    · exact fun hencode => ⟨_, f, _, hdecode, hencode⟩
  have hpad : List.replicate 44 0 = slice slot (428 + 36) 44 :=
    eq_replicate_of_zero htail (hslice 464 44 (by omega))
  have hreserved : [0, 0, 0] = slice slot 1 3 := eq_replicate_of_zero hzero (hslice 1 3 (by omega))
  have hagain := nrm1_eq_iff hmanaged hnrm1
  have hclock : f.authorityClockEpochId = slice slot (12 + 48) 16 := by
    rw [hepoch, slice_slice (by omega)]
  have hlease : encodeBE 8 f.leaseExpiryMs.toNat = slice slot (12 + 64) 8 := by
    rw [hexpiry, encode_getU64Be (by omega), slice_slice (by omega)]
  rw [hencode, @sealRecord_eq_iff _ _ _ 428 44 hlen hbody hdigest hcrc,
    and_iff_left hpad, flatten_eq_iff hws (htake.trans rfl)]
  simp (disch := omega) only [hblocks, slotBlocks, drainBlocks, readDrain, chop, slice_take,
    Nat.reduceAdd, List.cons_append, List.nil_append, List.cons.injEq, singleton_getD, hreserved,
    hingress, hhandle, hgeneration, hexact, hclock, hlease, hagain, encode_getU16Be,
    encode_getU32Be, encode_getU64Be, true_and, and_true]
  rw [slice_slice (by decide), slice_slice (by decide), slice_slice (by decide)]
  constructor
  · rintro ⟨⟨⟨ha, hb⟩, htail⟩, hepoch, hexpiry⟩
    exact ⟨ha.symm, hb.symm, htail.symm, hepoch.symm, hexpiry.symm⟩
  · rintro ⟨ha, hb, htail, hepoch, hexpiry⟩
    exact ⟨⟨⟨ha.symm, hb.symm⟩, htail.symm⟩, hepoch.symm, hexpiry.symm⟩

end Canonical

/-- **A slot that the import accepts is canonical exactly if its unchecked copies and reserved bytes
are.** -/
theorem slot_canonical_iff (sha256 : List UInt8 → Vector UInt8 32) (slot : Vector UInt8 508) :
    (routeSlotImportValid (fun bytes => (sha256 bytes).toList) slot.toList = true →
        SlotCanonical (fun bytes => (sha256 bytes).toList) slot.toList) ↔
      (routeSlotImportValid (fun bytes => (sha256 bytes).toList) slot.toList = true →
        CopiesAgree slot.toList) :=
  forall_congr' fun hvalid =>
    slotCanonical_of_valid (fun _ => Vector.length_toList) Vector.length_toList hvalid

/-- A route whose lease expires at 1. -/
def expiringRoute : Nrm1Fields where
  authorityId := List.replicate 16 1
  controllerTerm := 1
  routeRevision := 1
  leaseEpoch := 1
  authorityClockEpochId := List.replicate 16 1
  leaseExpiryMs := 1
  ingressHopContextId := 1
  routeHandle := 1
  routeGeneration := 1
  egressPeerId := List.replicate 16 1
  egressHopContextId := 1
  egressRouteHandle := 1
  egressRouteGeneration := 1
  grantId := List.replicate 16 1
  queueQuotaEntries := 1
  queueQuotaBytes := 1
  maxHops := 1
  ackPolicy := 0
  terminalFlag := 0
  pathPolicyId := List.replicate 16 1
  pathPolicyRevision := 1

/-- Its slot, whose own lease expiry is 2. -/
def driftedSlot : List UInt8 :=
  sealRecord noDigest (slotBlocks noDigest 1 expiringRoute (List.replicate 16 1) 2 1 none).flatten 44

theorem length_driftedSlot : driftedSlot.toArray.size = 508 := by decide +kernel

theorem driftedSlot_valid : routeSlotImportValid noDigest driftedSlot = true := by decide +kernel

/-- The slot is accepted, and it is not what its route is encoded to. -/
theorem slot_drifts : ¬∀ (sha256 : List UInt8 → Vector UInt8 32) (slot : Vector UInt8 508),
    routeSlotImportValid (fun bytes => (sha256 bytes).toList) slot.toList = true →
      SlotCanonical (fun bytes => (sha256 bytes).toList) slot.toList := by
  intro h
  have hcanonical : SlotCanonical noDigest driftedSlot :=
    h (fun _ => Vector.replicate 32 0) ⟨driftedSlot.toArray, length_driftedSlot⟩ driftedSlot_valid
  have hagree := (slotCanonical_of_valid (fun _ => List.length_replicate) length_driftedSlot
    driftedSlot_valid).1 hcanonical
  exact absurd hagree.leaseExpiry (by decide +kernel)

end Ninlil.RouteRelay
