import Mathlib.Data.List.SplitLengths
import Ninlil.Fabric.RoundTrip
import Ninlil.Lib.Tiling

/-!
# The identity of a fabric message

Attempts are recorded under a digest of the packet in which what a hop may rewrite is masked.

* `foundationMessage`: the byte string that is digested;
* `Envelope.unrouted`: an envelope without its authority and its route;
* `foundationMessage_packetOf`: the digest reads the packet of the envelope without them;
* `foundationMessage_eq_iff`: so two messages have one identity exactly when they agree elsewhere.
-/

namespace Ninlil.Fabric
namespace Nfl1

open Bytes Guard

/-! ### What is digested -/

/-- The tag of the digest. -/
def foundationTag : List UInt8 :=
  "NINLIL-FABRIC-FOUNDATION-MESSAGE-V1".toList.map fun c => UInt8.ofNat c.toNat

/-- The parts of a packet, those that a hop may rewrite as zeros. -/
def foundationParts (packet : List UInt8) : List (List UInt8) :=
  [slice packet 0 12, List.replicate 4 0, slice packet 16 256, List.replicate 28 0,
    slice packet 300 184, List.replicate 86 0, slice packet 570 (packet.length - 570)]

/-- What `ninlil_fabric_private_nfl1_foundation_message_digest` hashes, if it hashes. -/
def foundationMessage (packet : List UInt8) : Option (List UInt8) :=
  if packet.length < headerBytes ∨ codecCeiling < packet.length then none
  else some (foundationTag ++ (foundationParts packet).flatten)

/-- An envelope without what a hop may rewrite: its authority and its route. -/
def Envelope.unrouted (e : Envelope) : Envelope :=
  { e with
    authorityId := .zero
    authorityTerm := 0
    assignmentEpoch := 0
    routePolicyId := .zero
    routePolicyRevision := 0
    routePolicyDigest := .zero
    selectedPathId := .zero
    pathSelectionEpoch := 0
    routeFlags := 0 }

/-! ### The parts of a header -/

/-- How many fields each part has. -/
def partSizes : List ℕ := [4, 1, 21, 3, 22, 7, 5]

/-- The parts of a header, each put together from its fields. -/
def headerParts (e : Envelope) (total : ℕ) (crc : UInt32) : List (List UInt8) :=
  (partSizes.splitLengths (headerFields e total crc)).map List.flatten

section Parts

variable {e : Envelope} {crc : UInt32}

theorem flatten_headerParts (total : ℕ) :
    (headerParts e total crc).flatten = (headerFields e total crc).flatten := by
  unfold headerParts
  rw [← List.flatten_flatten, List.flatten_splitLengths]
  exact Nat.le_refl _

theorem length_headerParts (e : Envelope) (total : ℕ) (crc : UInt32) :
    (headerParts e total crc).map List.length = [12, 4, 256, 28, 184, 86, 14] := by
  have hwidths : ((headerParts e total crc).map List.length) =
      (partSizes.splitLengths widths).map List.sum := by
    unfold headerParts
    rw [← length_headerFields e total crc, List.map_map]
    simp [partSizes, List.splitLengths_cons, headerFields]
  rw [hwidths]
  rfl

/-- Without its authority and its route, a header has zeros for them. -/
theorem headerParts_unrouted (e : Envelope) (total : ℕ) (crc : UInt32) :
    headerParts e.unrouted total 0 =
      [(headerParts e total crc).getD 0 [], List.replicate 4 0, (headerParts e total crc).getD 2 [],
        List.replicate 28 0, (headerParts e total crc).getD 4 [], List.replicate 86 0,
        (headerParts e total crc).getD 6 []] := by
  have hcrc : [encodeBE 4 (0 : UInt32).toNat].flatten = List.replicate 4 0 := by decide
  have hauthority : [Id128.zero.toList, encodeBE 8 (0 : UInt64).toNat,
      encodeBE 4 (0 : UInt32).toNat].flatten = List.replicate 28 0 := by decide
  have hroute : [Id128.zero.toList, encodeBE 8 (0 : UInt64).toNat,
      encodeBE 2 Digest256.zero.algorithm.toNat, Digest256.zero.bytes.toList, Id128.zero.toList,
      encodeBE 8 (0 : UInt64).toNat, encodeBE 4 (0 : UInt32).toNat].flatten =
      List.replicate 86 0 := by decide
  rw [← hcrc, ← hauthority, ← hroute]
  rfl

end Parts

/-! ### What the digest reads -/

section Reading

variable {e e' : Envelope} {crc : UInt32}

/-- The parts of a packet. -/
theorem chop_headerParts (e : Envelope) (crc : UInt32) :
    chop 0 [12, 4, 256, 28, 184, 86, 14] (packetWith e crc) =
      headerParts e (structuralLength e) crc := by
  have h := @chop_flatten [] (headerParts e (structuralLength e) crc) e.regions.flatten
  rw [length_headerParts, flatten_headerParts] at h
  exact h

/-- **The digest reads a packet without authority and route**: that of the envelope without them. -/
theorem foundationMessage_packetOf (h : Accepted e) :
    foundationMessage (packetOf e) = some (foundationTag ++ packetWith e.unrouted 0) := by
  unfold packetOf
  generalize nfl1Crc32c (packetWith e 0) = crc
  have hlen := h.length_packetWith crc
  obtain ⟨hmin, hmax⟩ := h.structural
  unfold structuralMin at hmin
  unfold structuralMax at hmax
  have hunrouted : packetWith e.unrouted 0 =
      (headerParts e.unrouted (structuralLength e) 0).flatten ++ e.regions.flatten := by
    rw [flatten_headerParts]
    rfl
  have hparts := chop_headerParts e crc
  have hregions : slice (packetWith e crc) 584 ((packetWith e crc).length - 584) =
      e.regions.flatten := by
    have hheader : (headerFields e (structuralLength e) crc).flatten.length = 584 :=
      length_header e _ crc
    have hlength : (packetWith e crc).length - 584 = e.regions.flatten.length := by
      unfold packetWith
      rw [List.length_append, hheader, Nat.add_sub_cancel_left]
    rw [hlength]
    unfold packetWith
    rw [slice_append_right (Nat.le_of_eq hheader), hheader, Nat.sub_self, slice_self rfl]
  have hrest : slice (packetWith e crc) 570 ((packetWith e crc).length - 570) =
      slice (packetWith e crc) 570 14 ++ e.regions.flatten := by
    have hsum : (packetWith e crc).length - 570 = 14 + ((packetWith e crc).length - 584) := by
      omega
    rw [hsum, ← slice_append_slice, hregions]
  unfold foundationMessage foundationParts
  rw [if_neg (by
    unfold headerBytes codecCeiling
    omega), hunrouted, headerParts_unrouted e (structuralLength e) crc, ← hparts, hrest]
  simp only [chop, List.getD_cons_zero, List.getD_cons_succ, List.flatten_cons, List.flatten_nil,
    List.append_nil, List.append_assoc, Nat.reduceAdd, Nat.zero_add]

end Reading

/-! ### A packet and its fields -/

/-- An envelope whose packet says all that it holds. -/
structure Sendable (e : Envelope) : Prop where
  lengths : e.regions.map List.length = [e.namespaceId.length, e.serviceId.length,
    e.schemaId.length, e.payload.length, e.evidence.length]
  texts : e.namespaceId.length ≤ textIdMax ∧ e.serviceId.length ≤ textIdMax ∧
    e.schemaId.length ≤ textIdMax
  data : e.payload.length ≤ payloadMax ∧ e.evidence.length ≤ evidenceMax
  digests : e.descriptorDigest.reservedZero = 0 ∧ e.contentDigest.reservedZero = 0 ∧
    e.routePolicyDigest.reservedZero = 0

theorem Accepted.sendable_unrouted {e : Envelope} (h : Accepted e) : Sendable e.unrouted :=
  ⟨h.lengths, h.bounds.1, h.bounds.2, h.digests.1, h.digests.2.1, rfl⟩

section Words

@[simp] theorem encodeBE_u16_inj {v v' : UInt16} :
    encodeBE 2 v.toNat = encodeBE 2 v'.toNat ↔ v = v' :=
  (encodeBE_inj v.toNat_lt v'.toNat_lt).trans UInt16.toNat_inj

@[simp] theorem encodeBE_u32_inj {v v' : UInt32} :
    encodeBE 4 v.toNat = encodeBE 4 v'.toNat ↔ v = v' :=
  (encodeBE_inj v.toNat_lt v'.toNat_lt).trans UInt32.toNat_inj

@[simp] theorem encodeBE_u64_inj {v v' : UInt64} :
    encodeBE 8 v.toNat = encodeBE 8 v'.toNat ↔ v = v' :=
  (encodeBE_inj v.toNat_lt v'.toNat_lt).trans UInt64.toNat_inj

/-- The length of a text. -/
theorem short_inj {n n' : ℕ} (hn : n ≤ textIdMax) (hn' : n' ≤ textIdMax)
    (h : encodeBE 2 n = encodeBE 2 n') : n = n' :=
  (encodeBE_inj (Nat.lt_of_le_of_lt hn (by decide)) (Nat.lt_of_le_of_lt hn' (by decide))).1 h

/-- The length of the data. -/
theorem long_inj {n n' : ℕ} (hn : n ≤ payloadMax) (hn' : n' ≤ payloadMax)
    (h : encodeBE 4 n = encodeBE 4 n') : n = n' :=
  (encodeBE_inj (Nat.lt_of_le_of_lt hn (by decide)) (Nat.lt_of_le_of_lt hn' (by decide))).1 h

end Words

section Fields

variable {e e' : Envelope}

/-- The packet of what is sent is that of the envelope. -/
theorem Sendable.packetWith_wire (h : Sendable e) (crc : UInt32) :
    packetWith e.wire crc = packetWith e crc := by
  have hlengths := h.lengths
  unfold Envelope.regions at hlengths
  simp only [List.map_cons, List.map_nil, List.cons.injEq, and_true] at hlengths
  obtain ⟨hns, hsvc, hsch, hpayload, hevidence⟩ := hlengths
  have hns' : e.wire.namespaceId.length = e.namespaceId.length := hns
  have hsvc' : e.wire.serviceId.length = e.serviceId.length := hsvc
  have hsch' : e.wire.schemaId.length = e.schemaId.length := hsch
  have hpayload' : e.wire.payload.length = e.payload.length := hpayload
  have hevidence' : e.wire.evidence.length = e.evidence.length := hevidence
  have hheader : headerFields e.wire (structuralLength e.wire) crc =
      headerFields e (structuralLength e) crc := by
    unfold headerFields structuralLength
    rw [hns', hsvc', hsch', hpayload', hevidence']
    rfl
  unfold packetWith
  rw [hheader]
  rfl

/-- **Packets are equal exactly when what is sent is.** -/
theorem Sendable.packetWith_eq_iff (h : Sendable e) (h' : Sendable e') :
    packetWith e 0 = packetWith e' 0 ↔ e.wire = e'.wire := by
  constructor
  · intro hpackets
    have hfields : headerFields e (structuralLength e) 0 =
        headerFields e' (structuralLength e') 0 := by
      rw [← chop_packetWith, hpackets, chop_packetWith]
    simp only [headerFields, List.cons.injEq, Vector.toList_inj, encodeBE_u16_inj,
      encodeBE_u32_inj, encodeBE_u64_inj] at hfields
    obtain ⟨-, -, -, -, -, hkind, hflags,
      htransaction, hattempt, hevent, hsrcRuntime, hsrcApplication, hsrcDevice, hsrcInstallation,
      hsrcSite, hsrcBinding, hsrcMembership, hsrcFlags,
      hdstRuntime, hdstApplication, hdstDevice, hdstInstallation, hdstSite, hdstBinding,
      hdstMembership, hdstFlags,
      hauthority, hterm, hassignment, hrevision, hdescAlgorithm, hdescBytes, hmajor, hminor,
      hfamily, hcontAlgorithm, hcontBytes,
      hgeneration, hdeadlineEpoch, hdeadline, hgrace, hrequired, hreceipt, hdisposition,
      hcertainty, hguidance, hcancel, hdelay, htimeEpoch, htimeNow, htimeTrust,
      hpolicy, hpolicyRevision, hpolicyAlgorithm, hpolicyBytes, hpath, hpathEpoch, hrouteFlags,
      hns, hsvc, hsch, hpayload, hevidence, -⟩ := hfields
    have hdigest : ∀ {d d' : Digest256}, d.reservedZero = 0 → d'.reservedZero = 0 →
        d.algorithm = d'.algorithm → d.bytes = d'.bytes → d = d' := by
      rintro ⟨a, r, b⟩ ⟨a', r', b'⟩ rfl rfl rfl rfl
      rfl
    have hregions : e.regions = e'.regions := by
      have hsame : e.regions.map List.length = e'.regions.map List.length := by
        obtain ⟨hns1, hsvc1, hsch1⟩ := h.texts
        obtain ⟨hns2, hsvc2, hsch2⟩ := h'.texts
        obtain ⟨hpayload1, hevidence1⟩ := h.data
        obtain ⟨hpayload2, hevidence2⟩ := h'.data
        rw [h.lengths, h'.lengths, short_inj hns1 hns2 hns, short_inj hsvc1 hsvc2 hsvc,
          short_inj hsch1 hsch2 hsch, long_inj hpayload1 hpayload2 hpayload,
          long_inj (Nat.le_trans hevidence1 (by decide)) (Nat.le_trans hevidence2 (by decide))
            hevidence]
      rw [← chop_regions e 0, hpackets, hsame, chop_regions]
    unfold Envelope.regions at hregions
    simp only [List.cons.injEq, and_true] at hregions
    obtain ⟨rns, rsvc, rsch, rpayload, revidence⟩ := hregions
    exact Envelope.ext rfl rfl hkind hflags htransaction hattempt hevent hsrcRuntime
      hsrcApplication hsrcDevice hsrcInstallation hsrcSite hsrcBinding hsrcMembership hsrcFlags
      hdstRuntime hdstApplication hdstDevice hdstInstallation hdstSite hdstBinding hdstMembership
      hdstFlags hauthority hterm hassignment hrevision
      (hdigest h.digests.1 h'.digests.1 hdescAlgorithm hdescBytes) hmajor hminor hfamily
      (hdigest h.digests.2.1 h'.digests.2.1 hcontAlgorithm hcontBytes) hgeneration hdeadlineEpoch
      hdeadline hgrace hrequired hreceipt hdisposition hcertainty hguidance hcancel hdelay
      htimeEpoch htimeNow htimeTrust hpolicy hpolicyRevision
      (hdigest h.digests.2.2 h'.digests.2.2 hpolicyAlgorithm hpolicyBytes) hpath hpathEpoch
      hrouteFlags (congrArg View.region rns) (congrArg View.region rsvc)
      (congrArg View.region rsch) (congrArg View.region rpayload) (congrArg View.region revidence)
  · intro hwire
    rw [← h.packetWith_wire, hwire, h'.packetWith_wire]

end Fields

/-! ### The identity -/

/-- **The identity of a message.** For any two envelopes that are sent, the same bytes are digested
exactly when the envelopes agree on all that is sent besides their authority and their route. -/
theorem foundationMessage_eq_iff {e e' : Envelope} {capacity capacity' : ℕ}
    {packet packet' : List UInt8} (h : encode e capacity = .ok packet)
    (h' : encode e' capacity' = .ok packet') :
    foundationMessage packet = foundationMessage packet' ↔ e.unrouted.wire = e'.unrouted.wire := by
  obtain ⟨haccepted, rfl⟩ := accepted_of_encode h
  obtain ⟨haccepted', rfl⟩ := accepted_of_encode h'
  rw [foundationMessage_packetOf haccepted, foundationMessage_packetOf haccepted',
    Option.some_inj, List.append_cancel_left_eq]
  exact haccepted.sendable_unrouted.packetWith_eq_iff haccepted'.sendable_unrouted

/-- A message sent over another path is the same message. -/
theorem foundationMessage_eq_iff_path : ∃ packet packet',
    encode sampleEnvelope 587 = .ok packet ∧
    encode { sampleEnvelope with selectedPathId := Vector.replicate 16 12 } 587 = .ok packet' ∧
    foundationMessage packet = foundationMessage packet' := by
  have haccepted : Accepted { sampleEnvelope with selectedPathId := Vector.replicate 16 12 } :=
    ⟨⟨rfl, rfl, rfl⟩, rfl, rfl, by decide +kernel, by decide +kernel, by decide +kernel,
      by decide +kernel⟩
  have hsent := encode_of_accepted accepted_sampleEnvelope
    (show structuralLength _ ≤ 587 by decide +kernel)
  have hsent' := encode_of_accepted haccepted (show structuralLength _ ≤ 587 by decide +kernel)
  exact ⟨_, _, hsent, hsent', (foundationMessage_eq_iff hsent hsent').2 rfl⟩

/-- An envelope with the views of its regions read, so that a region of no bytes is one however it
is given. -/
def Envelope.viewed (e : Envelope) : Envelope :=
  { e with
    namespaceId := .region e.namespaceId.contents
    serviceId := .region e.serviceId.contents
    schemaId := .region e.schemaId.contents
    payload := .region e.payload.contents
    evidence := .region e.evidence.contents }

/-- The version of the structure is not sent: two envelopes that differ in it are one message. -/
theorem foundationMessage_apiVersion : ¬ ∀ (e e' : Envelope) (capacity capacity' : ℕ)
    (packet packet' : List UInt8), encode e capacity = .ok packet →
      encode e' capacity' = .ok packet' →
        (foundationMessage packet = foundationMessage packet' ↔
          e.unrouted.viewed = e'.unrouted.viewed) := by
  intro hclaim
  have haccepted : Accepted { sampleEnvelope with apiVersion := 1 } :=
    ⟨⟨rfl, rfl, rfl⟩, rfl, rfl, by decide +kernel, by decide +kernel, by decide +kernel,
      by decide +kernel⟩
  have hsent := encode_of_accepted accepted_sampleEnvelope
    (show structuralLength _ ≤ 587 by decide +kernel)
  have hsent' := encode_of_accepted haccepted (show structuralLength _ ≤ 587 by decide +kernel)
  have hpacket : packetOf sampleEnvelope = packetOf { sampleEnvelope with apiVersion := 1 } := rfl
  have hviewed := (hclaim _ _ _ _ _ _ hsent hsent').1 (congrArg foundationMessage hpacket)
  have hversion := congrArg Envelope.apiVersion hviewed
  exact absurd hversion (by decide)

end Nfl1
end Ninlil.Fabric
