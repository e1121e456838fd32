import Ninlil.Lib.Guard
import Ninlil.Lib.Layout

/-!
# The fabric envelope

A message of the fabric is a header of 584 bytes and five regions that vary in length.

* `Envelope`: the header fields and the views of the regions;
* `kindMatrixOk`, `closedCatalogDecodeOk`: what an envelope of each kind may hold;
* `encode`: the packet of an envelope;
* `decode`: the envelope of a packet, its regions copied into a workspace.

The size of the envelope's own structure, which is not sent, is a parameter.
-/

namespace Ninlil.Fabric
namespace Nfl1

open Bytes Guard

abbrev Id128 := Vector UInt8 16

structure Digest256 where
  algorithm : UInt16
  reservedZero : UInt16
  bytes : Vector UInt8 32
  deriving DecidableEq

/-- A region: no memory, with the length announced, or memory. -/
inductive View
  | null (length : ℕ)
  | region (bytes : List UInt8)

def View.length : View → ℕ
  | .null length => length
  | .region bytes => bytes.length

def View.contents : View → List UInt8
  | .null _ => []
  | .region bytes => bytes

def View.isNull : View → Bool
  | .null _ => true
  | .region _ => false

/-- A region that is absent when it is empty. -/
def View.ofBytes (bytes : List UInt8) : View := if bytes.isEmpty then .null 0 else .region bytes

@[ext] structure Envelope where
  apiVersion : UInt16
  structSize : UInt16
  messageKind : UInt32
  messageFlags : UInt32
  transactionId : Id128
  attemptId : Id128
  eventId : Id128
  sourceRuntimeId : Id128
  sourceApplicationId : Id128
  sourceDeviceId : Id128
  sourceInstallationId : Id128
  sourceSiteId : Id128
  sourceBindingEpoch : UInt64
  sourceMembershipEpoch : UInt64
  sourceFlags : UInt32
  targetRuntimeId : Id128
  targetApplicationId : Id128
  targetDeviceId : Id128
  targetInstallationId : Id128
  targetSiteId : Id128
  targetBindingEpoch : UInt64
  targetMembershipEpoch : UInt64
  targetFlags : UInt32
  authorityId : Id128
  authorityTerm : UInt64
  assignmentEpoch : UInt32
  descriptorRevision : UInt64
  descriptorDigest : Digest256
  schemaMajor : UInt16
  schemaMinor : UInt16
  family : UInt32
  contentDigest : Digest256
  generation : UInt64
  deadlineClockEpochId : Id128
  absoluteEffectDeadlineMs : UInt64
  evidenceGraceMs : UInt64
  requiredEvidence : UInt32
  receiptStage : UInt32
  disposition : UInt32
  effectCertainty : UInt32
  retryGuidance : UInt32
  cancelKind : UInt32
  retryDelayMs : UInt64
  evidenceTimeClockEpochId : Id128
  evidenceTimeNowMs : UInt64
  evidenceTimeTrust : UInt32
  routePolicyId : Id128
  routePolicyRevision : UInt64
  routePolicyDigest : Digest256
  selectedPathId : Id128
  pathSelectionEpoch : UInt64
  routeFlags : UInt32
  namespaceId : View
  serviceId : View
  schemaId : View
  payload : View
  evidence : View

inductive Status
  | ok
  | invalidArgument
  | bufferTooSmall
  | corrupt
  | unsupported
  deriving DecidableEq

def headerBytes : ℕ := 584

def codecCeiling : ℕ := 2048

def structuralMin : ℕ := 587

def structuralMax : ℕ := 1925

def payloadMax : ℕ := 1024

def evidenceMax : ℕ := 128

def textIdMax : ℕ := 63

def digestSha256 : UInt16 := 1

/-! ### Catalogs -/

def Id128.zero : Id128 := Vector.replicate 16 0

def familyKnown (family : UInt32) : Bool :=
  family == 1 || family == 2 || family == 3 || family == 4 || family == 5 || family == 6 ||
    family == 0x80000001

def evidenceStageKnown (stage : UInt32) : Bool := stage ≤ 4

def dispositionKnown (value : UInt32) : Bool := value ≤ 10

def effectCertaintyKnown (value : UInt32) : Bool := value ≤ 2

def retryGuidanceKnown (value : UInt32) : Bool := value ≤ 3

def cancelKindKnown (value : UInt32) : Bool := value ≤ 8

def clockTrustKnown (value : UInt32) : Bool := value == 0 || value == 1 || value == 2

def Digest256.ok (d : Digest256) : Bool :=
  d.algorithm == digestSha256 && d.reservedZero == 0 && d.bytes != Vector.replicate 32 0

/-- The authority is absent or bound: all of it is zero, or nothing of it. -/
def authorityGroupOk (id : Id128) (term : UInt64) (epoch : UInt32) : Bool :=
  (id == .zero && term == 0 && epoch == 0) || (id != .zero && term != 0 && epoch != 0)

def textLenOk (length : ℕ) : Bool := 1 ≤ length && length ≤ textIdMax

def identityFlagsOk (flags : UInt32) : Bool := flags &&& ~~~7 == 0

section Checks

variable (e : Envelope)

def dispZero : Bool :=
  e.disposition == 0 && e.effectCertainty == 0 && e.retryGuidance == 0 && e.retryDelayMs == 0

def evidenceTimeZero : Bool :=
  e.evidenceTimeClockEpochId == .zero && e.evidenceTimeNowMs == 0 && e.evidenceTimeTrust == 0

/-- Zero is an instant like any other of an epoch. -/
def evidenceTimeValid : Bool :=
  e.evidenceTimeClockEpochId != .zero && (e.evidenceTimeTrust == 1 || e.evidenceTimeTrust == 2)

/-- What a message of any kind has to hold. -/
def commonOk : Bool :=
  e.messageFlags == 0 &&
  (e.transactionId != .zero && e.attemptId != .zero) &&
  (e.sourceRuntimeId != .zero && e.sourceApplicationId != .zero && e.targetRuntimeId != .zero &&
    e.targetApplicationId != .zero) &&
  (identityFlagsOk e.sourceFlags && identityFlagsOk e.targetFlags) &&
  authorityGroupOk e.authorityId e.authorityTerm e.assignmentEpoch &&
  (e.descriptorDigest.ok && e.contentDigest.ok && e.routePolicyDigest.ok) &&
  (familyKnown e.family && evidenceStageKnown e.requiredEvidence &&
    clockTrustKnown e.evidenceTimeTrust) &&
  (textLenOk e.namespaceId.length && textLenOk e.serviceId.length && textLenOk e.schemaId.length) &&
  (e.payload.length ≤ payloadMax && e.evidence.length ≤ evidenceMax) &&
  (e.payload.length == 0 || e.evidence.length == 0) &&
  e.routeFlags == 0 &&
  (e.routePolicyId != .zero && e.selectedPathId != .zero && e.routePolicyRevision != 0 &&
    e.pathSelectionEpoch != 0)

def enumAlgorithmsKnown : Bool :=
  e.descriptorDigest.algorithm == digestSha256 && e.contentDigest.algorithm == digestSha256 &&
    e.routePolicyDigest.algorithm == digestSha256

/-- What a message of its kind has to hold: an application message, a receipt, a disposition, a
request to cancel, an acceptance of custody, the result of a cancellation. -/
def kindMatrixOk : Bool :=
  commonOk e && enumAlgorithmsKnown e &&
  let payloadEmpty := e.payload.length == 0
  let evidenceEmpty := e.evidence.length == 0
  let receiptZero := e.receiptStage == 0
  let cancelZero := e.cancelKind == 0
  if e.messageKind = 1 then
    evidenceEmpty && receiptZero && dispZero e && cancelZero && evidenceTimeZero e
  else if e.messageKind = 2 then
    payloadEmpty && !receiptZero && evidenceStageKnown e.receiptStage && dispZero e && cancelZero &&
      evidenceTimeValid e
  else if e.messageKind = 3 then
    payloadEmpty && evidenceEmpty && receiptZero && cancelZero && evidenceTimeZero e &&
      e.disposition != 0 && dispositionKnown e.disposition &&
      effectCertaintyKnown e.effectCertainty && retryGuidanceKnown e.retryGuidance
  else if e.messageKind = 4 ∨ e.messageKind = 5 then
    payloadEmpty && evidenceEmpty && receiptZero && dispZero e && cancelZero && evidenceTimeZero e
  else if e.messageKind = 6 then
    payloadEmpty && evidenceEmpty && receiptZero && dispZero e && evidenceTimeZero e &&
      e.cancelKind != 0 && cancelKindKnown e.cancelKind
  else false

def closedCatalogDecodeOk : Bool :=
  familyKnown e.family && evidenceStageKnown e.requiredEvidence &&
    evidenceStageKnown e.receiptStage && dispositionKnown e.disposition &&
    effectCertaintyKnown e.effectCertainty && retryGuidanceKnown e.retryGuidance &&
    cancelKindKnown e.cancelKind && clockTrustKnown e.evidenceTimeTrust

def structuralLength : ℕ :=
  headerBytes + e.namespaceId.length + e.serviceId.length + e.schemaId.length + e.payload.length +
    e.evidence.length

end Checks

/-! ### The check of a packet -/

/-- One bit of the division. -/
def crcBit (crc : UInt32) : UInt32 :=
  if crc &&& 1 ≠ 0 then (crc >>> 1) ^^^ 0x82f63b78 else crc >>> 1

/-- The bytes of the check itself count as zeros. -/
def unchecked (data : List UInt8) : List UInt8 :=
  data.mapIdx fun i b => if 12 ≤ i ∧ i < 16 then 0 else b

/-- The check of a packet. -/
def nfl1Crc32c (data : List UInt8) : UInt32 :=
  (unchecked data).foldl (fun crc b => crcBit^[8] (crc ^^^ b.toUInt32)) 0xffffffff ^^^ 0xffffffff

/-! ### Encoding -/

def nfl1Magic : List UInt8 := [78, 70, 76, 49]

/-- The fields of the header, in order. -/
def headerFields (e : Envelope) (total : ℕ) (crc : UInt32) : List (List UInt8) :=
  [nfl1Magic, encodeBE 2 1, encodeBE 2 headerBytes, encodeBE 4 total, encodeBE 4 crc.toNat,
    encodeBE 4 e.messageKind.toNat, encodeBE 4 e.messageFlags.toNat,
    -- 24: the transaction and the source
    e.transactionId.toList, e.attemptId.toList, e.eventId.toList, e.sourceRuntimeId.toList,
    e.sourceApplicationId.toList, e.sourceDeviceId.toList, e.sourceInstallationId.toList,
    e.sourceSiteId.toList, encodeBE 8 e.sourceBindingEpoch.toNat,
    encodeBE 8 e.sourceMembershipEpoch.toNat, encodeBE 4 e.sourceFlags.toNat,
    -- 172: the target
    e.targetRuntimeId.toList, e.targetApplicationId.toList, e.targetDeviceId.toList,
    e.targetInstallationId.toList, e.targetSiteId.toList, encodeBE 8 e.targetBindingEpoch.toNat,
    encodeBE 8 e.targetMembershipEpoch.toNat, encodeBE 4 e.targetFlags.toNat,
    -- 272: the authority and the descriptor
    e.authorityId.toList, encodeBE 8 e.authorityTerm.toNat, encodeBE 4 e.assignmentEpoch.toNat,
    encodeBE 8 e.descriptorRevision.toNat, encodeBE 2 e.descriptorDigest.algorithm.toNat,
    e.descriptorDigest.bytes.toList, encodeBE 2 e.schemaMajor.toNat, encodeBE 2 e.schemaMinor.toNat,
    encodeBE 4 e.family.toNat, encodeBE 2 e.contentDigest.algorithm.toNat,
    e.contentDigest.bytes.toList,
    -- 384: the effect
    encodeBE 8 e.generation.toNat, e.deadlineClockEpochId.toList,
    encodeBE 8 e.absoluteEffectDeadlineMs.toNat, encodeBE 8 e.evidenceGraceMs.toNat,
    encodeBE 4 e.requiredEvidence.toNat, encodeBE 4 e.receiptStage.toNat,
    encodeBE 4 e.disposition.toNat, encodeBE 4 e.effectCertainty.toNat,
    encodeBE 4 e.retryGuidance.toNat, encodeBE 4 e.cancelKind.toNat, encodeBE 8 e.retryDelayMs.toNat,
    e.evidenceTimeClockEpochId.toList, encodeBE 8 e.evidenceTimeNowMs.toNat,
    encodeBE 4 e.evidenceTimeTrust.toNat,
    -- 484: the route
    e.routePolicyId.toList, encodeBE 8 e.routePolicyRevision.toNat,
    encodeBE 2 e.routePolicyDigest.algorithm.toNat, e.routePolicyDigest.bytes.toList,
    e.selectedPathId.toList, encodeBE 8 e.pathSelectionEpoch.toNat, encodeBE 4 e.routeFlags.toNat,
    -- 570: the regions
    encodeBE 2 e.namespaceId.length, encodeBE 2 e.serviceId.length, encodeBE 2 e.schemaId.length,
    encodeBE 4 e.payload.length, encodeBE 4 e.evidence.length]

/-- The regions, in order. -/
def Envelope.regions (e : Envelope) : List (List UInt8) :=
  [e.namespaceId.contents, e.serviceId.contents, e.schemaId.contents, e.payload.contents,
    e.evidence.contents]

/-- A packet with the check given. -/
def packetWith (e : Envelope) (crc : UInt32) : List UInt8 :=
  (headerFields e (structuralLength e) crc).flatten ++ e.regions.flatten

/-- The packet of an envelope. -/
def packetOf (e : Envelope) : List UInt8 := packetWith e (nfl1Crc32c (packetWith e 0))

/-- Encodes an envelope. -/
def encode (e : Envelope) (capacity : ℕ) : Except Status (List UInt8) := do
  require (e.namespaceId.isNull = false ∧ e.serviceId.isNull = false ∧ e.schemaId.isNull = false)
    .invalidArgument
  require (0 < e.payload.length → e.payload.isNull = false) .invalidArgument
  require (0 < e.evidence.length → e.evidence.isNull = false) .invalidArgument
  require (enumAlgorithmsKnown e ∧ closedCatalogDecodeOk e) .unsupported
  require (kindMatrixOk e) .corrupt
  require (structuralMin ≤ structuralLength e ∧ structuralLength e ≤ structuralMax) .corrupt
  require (structuralLength e ≤ capacity) .bufferTooSmall
  return packetOf e

/-! ### Decoding -/

structure Workspace where
  bytes : List UInt8
  size : bytes.length = codecCeiling
  used : ℕ

/-- What a call of the decoder leaves. -/
structure Decoded where
  status : Status
  out : Envelope
  workspace : Workspace
  requiredWorkspace : Option ℕ

def Digest256.zero : Digest256 := ⟨0, 0, Vector.replicate 32 0⟩

/-- An envelope that was cleared. -/
def Envelope.zero : Envelope where
  apiVersion := 0
  structSize := 0
  messageKind := 0
  messageFlags := 0
  transactionId := .zero
  attemptId := .zero
  eventId := .zero
  sourceRuntimeId := .zero
  sourceApplicationId := .zero
  sourceDeviceId := .zero
  sourceInstallationId := .zero
  sourceSiteId := .zero
  sourceBindingEpoch := 0
  sourceMembershipEpoch := 0
  sourceFlags := 0
  targetRuntimeId := .zero
  targetApplicationId := .zero
  targetDeviceId := .zero
  targetInstallationId := .zero
  targetSiteId := .zero
  targetBindingEpoch := 0
  targetMembershipEpoch := 0
  targetFlags := 0
  authorityId := .zero
  authorityTerm := 0
  assignmentEpoch := 0
  descriptorRevision := 0
  descriptorDigest := .zero
  schemaMajor := 0
  schemaMinor := 0
  family := 0
  contentDigest := .zero
  generation := 0
  deadlineClockEpochId := .zero
  absoluteEffectDeadlineMs := 0
  evidenceGraceMs := 0
  requiredEvidence := 0
  receiptStage := 0
  disposition := 0
  effectCertainty := 0
  retryGuidance := 0
  cancelKind := 0
  retryDelayMs := 0
  evidenceTimeClockEpochId := .zero
  evidenceTimeNowMs := 0
  evidenceTimeTrust := 0
  routePolicyId := .zero
  routePolicyRevision := 0
  routePolicyDigest := .zero
  selectedPathId := .zero
  pathSelectionEpoch := 0
  routeFlags := 0
  namespaceId := .null 0
  serviceId := .null 0
  schemaId := .null 0
  payload := .null 0
  evidence := .null 0

section Decoding

variable (packet : List UInt8)

/-- The lengths of the regions that a header announces. -/
def regionLengths : List ℕ :=
  [(getU16Be packet 570).toNat, (getU16Be packet 572).toNat, (getU16Be packet 574).toNat,
    (getU32Be packet 576).toNat, (getU32Be packet 580).toNat]

def getDigest (algorithm bytes : ℕ) : Digest256 :=
  ⟨getU16Be packet algorithm, 0, getVector 32 packet bytes⟩

/-- The fields of a header, with the regions given: texts, and data that are absent when empty. -/
def readHeader (structSize : UInt16) (regions : List (List UInt8)) : Envelope where
  apiVersion := 1
  structSize := structSize
  messageKind := getU32Be packet 16
  messageFlags := getU32Be packet 20
  transactionId := getVector 16 packet 24
  attemptId := getVector 16 packet 40
  eventId := getVector 16 packet 56
  sourceRuntimeId := getVector 16 packet 72
  sourceApplicationId := getVector 16 packet 88
  sourceDeviceId := getVector 16 packet 104
  sourceInstallationId := getVector 16 packet 120
  sourceSiteId := getVector 16 packet 136
  sourceBindingEpoch := getU64Be packet 152
  sourceMembershipEpoch := getU64Be packet 160
  sourceFlags := getU32Be packet 168
  targetRuntimeId := getVector 16 packet 172
  targetApplicationId := getVector 16 packet 188
  targetDeviceId := getVector 16 packet 204
  targetInstallationId := getVector 16 packet 220
  targetSiteId := getVector 16 packet 236
  targetBindingEpoch := getU64Be packet 252
  targetMembershipEpoch := getU64Be packet 260
  targetFlags := getU32Be packet 268
  authorityId := getVector 16 packet 272
  authorityTerm := getU64Be packet 288
  assignmentEpoch := getU32Be packet 296
  descriptorRevision := getU64Be packet 300
  descriptorDigest := getDigest packet 308 310
  schemaMajor := getU16Be packet 342
  schemaMinor := getU16Be packet 344
  family := getU32Be packet 346
  contentDigest := getDigest packet 350 352
  generation := getU64Be packet 384
  deadlineClockEpochId := getVector 16 packet 392
  absoluteEffectDeadlineMs := getU64Be packet 408
  evidenceGraceMs := getU64Be packet 416
  requiredEvidence := getU32Be packet 424
  receiptStage := getU32Be packet 428
  disposition := getU32Be packet 432
  effectCertainty := getU32Be packet 436
  retryGuidance := getU32Be packet 440
  cancelKind := getU32Be packet 444
  retryDelayMs := getU64Be packet 448
  evidenceTimeClockEpochId := getVector 16 packet 456
  evidenceTimeNowMs := getU64Be packet 472
  evidenceTimeTrust := getU32Be packet 480
  routePolicyId := getVector 16 packet 484
  routePolicyRevision := getU64Be packet 500
  routePolicyDigest := getDigest packet 508 510
  selectedPathId := getVector 16 packet 542
  pathSelectionEpoch := getU64Be packet 558
  routeFlags := getU32Be packet 566
  namespaceId := .region (regions.getD 0 [])
  serviceId := .region (regions.getD 1 [])
  schemaId := .region (regions.getD 2 [])
  payload := .ofBytes (regions.getD 3 [])
  evidence := .ofBytes (regions.getD 4 [])

/-- Copies regions of the packet, one after the other. -/
def copyRegions : ℕ → List ℕ → List UInt8 → List UInt8
  | _, [], memory => memory
  | off, n :: ns, memory =>
    copyRegions (off + n) ns (store memory off (slice packet (headerBytes + off) n))

theorem length_copyRegions (off : ℕ) (ns : List ℕ) (memory : List UInt8) :
    (copyRegions packet off ns memory).length = memory.length := by
  induction ns generalizing off memory with
  | nil => rfl
  | cons n ns ih => rw [copyRegions, ih, length_store]

/-- Each region is of a length that it may have. -/
def lengthsOk : Bool :=
  (regionLengths packet).zip [textIdMax, textIdMax, textIdMax, payloadMax, evidenceMax] |>.all
    fun (n, max) => n ≤ max

variable (structSize : UInt16)

/-- The envelope while its regions are still those of the packet. -/
def borrowed : Envelope :=
  readHeader packet structSize (chop headerBytes (regionLengths packet) packet)

/-- Decodes a packet. -/
def decode (workspace : Workspace) : Decoded :=
  let fail (status : Status) : Decoded := ⟨status, .zero, workspace, none⟩
  let need := (regionLengths packet).sum
  if codecCeiling < packet.length then fail .corrupt
  else if packet.length < headerBytes then fail .corrupt
  else if slice packet 0 4 ≠ nfl1Magic then fail .corrupt
  else if getU16Be packet 4 ≠ 1 then fail .unsupported
  else if (getU16Be packet 6).toNat ≠ headerBytes then fail .corrupt
  else if (getU32Be packet 8).toNat ≠ packet.length then fail .corrupt
  else if packet.length < structuralMin ∨ structuralMax < packet.length then fail .corrupt
  else if getU32Be packet 12 ≠ nfl1Crc32c packet then fail .corrupt
  else if lengthsOk packet = false then fail .corrupt
  else if headerBytes + need ≠ packet.length then fail .corrupt
  else if enumAlgorithmsKnown (borrowed packet structSize) = false then fail .unsupported
  else if closedCatalogDecodeOk (borrowed packet structSize) = false then fail .unsupported
  else if kindMatrixOk (borrowed packet structSize) = false then fail .corrupt
  else if codecCeiling < need then ⟨.bufferTooSmall, .zero, workspace, some need⟩
  else
    let memory := copyRegions packet 0 (regionLengths packet) workspace.bytes
    ⟨.ok, readHeader packet structSize (chop 0 (regionLengths packet) memory),
      ⟨memory, (length_copyRegions packet 0 _ _).trans workspace.size, need⟩, some need⟩

end Decoding

end Nfl1
end Ninlil.Fabric
