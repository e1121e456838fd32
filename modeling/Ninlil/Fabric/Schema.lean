import Ninlil.Lib.Tiling

/-!
# The durable records of the fabric

`fabric_private_records.c`: the payloads of storage schema 1, each written and read at literal
offsets.

* `Fbm1`, `Fbr1`, `Fbp1`, `Fbc1`, `Fba1`, `Fbt1`: the migration state, a registered path, a policy,
  an authority binding, an attempt and a trigger;
* `fbm1Puts` and its siblings: the stores of an encoder, in the order of the source;
* `fbm1Read` and its siblings: the fields as a decoder reads them;
* `fbm1Encode`, `fbm1Decode` and their siblings: the functions themselves, the decoders with their
  checks of the reserved fields.

The payload a function is given has the fixed length of its type.
-/

namespace Ninlil.Fabric
namespace Schema

open Bytes

abbrev Id := Vector UInt8 16

abbrev Digest := Vector UInt8 32

/-- `ninlil_fabric_private_record_status_t`, the failures. -/
inductive RecordStatus
  | invalidArgument
  | corrupt
  | unsupported
  deriving DecidableEq

/-- `ninlil_fabric_private_is_zero`. -/
def isZero (bytes : List UInt8) : Bool := bytes.all (· == 0)

/-! ### FBM1 -/

/-- `ninlil_fabric_private_fbm1_t`. -/
structure Fbm1 where
  sourceSchema : UInt16
  targetSchema : UInt16
  migrationState : UInt16
  reservedZero : UInt16
  migrationGeneration : UInt64
  rollbackFloorGeneration : UInt64
  outerAvailabilityEpoch : UInt64
  outerAvailable : UInt32
  reservedZeroU32 : UInt32

def fbm1Puts (r : Fbm1) : List Put :=
  [putU16Be 0 r.sourceSchema, putU16Be 2 r.targetSchema, putU16Be 4 r.migrationState,
    putU16Be 6 r.reservedZero, putU64Be 8 r.migrationGeneration,
    putU64Be 16 r.rollbackFloorGeneration, putU64Be 24 r.outerAvailabilityEpoch,
    putU32Be 32 r.outerAvailable, putU32Be 36 r.reservedZeroU32]

def fbm1Read (p : List UInt8) : Fbm1 where
  sourceSchema := getU16Be p 0
  targetSchema := getU16Be p 2
  migrationState := getU16Be p 4
  reservedZero := getU16Be p 6
  migrationGeneration := getU64Be p 8
  rollbackFloorGeneration := getU64Be p 16
  outerAvailabilityEpoch := getU64Be p 24
  outerAvailable := getU32Be p 32
  reservedZeroU32 := getU32Be p 36

/-- The payload, over the forty bytes it is written to. -/
def fbm1Encode (outPayload : List UInt8) (r : Fbm1) : List UInt8 := putAll outPayload (fbm1Puts r)

def fbm1Decode (payload : List UInt8) : Except RecordStatus Fbm1 :=
  let r := fbm1Read payload
  if r.reservedZero ≠ 0 ∨ r.reservedZeroU32 ≠ 0 then
    .error .corrupt
  else .ok r

/-! ### FBR1 -/

/-- `ninlil_fabric_private_fbr1_t`. -/
structure Fbr1 where
  instanceId : Id
  linkKind : UInt32
  directionMask : UInt32
  capabilityFlags : UInt32
  descriptorRevision : UInt64
  descriptorDigest : Digest
  securityProfileId : Id
  securityCapabilityFlags : UInt32
  securityBindingDigest : Digest
  attestationEpoch : UInt64
  attestationClockEpochId : Id
  attestationExpiresAtMs : UInt64
  attestationDigest : Digest
  authenticatedPeerRuntimeId : Id
  attachmentAuthorityId : Id
  attachmentBindingDigest : Digest
  maximumPacketBytes : UInt32
  maximumTransferBytes : UInt32
  latencyClass : UInt16
  costClass : UInt16
  reservationCapacity : UInt16
  reservedZeroU16 : UInt16
  availabilityEpoch : UInt64
  availabilityClockEpochId : Id
  available : UInt8
  lifecycle : UInt8
  reservedAvailU16 : UInt16
  availabilityExpiresAtMs : UInt64
  peerNfl1Version : UInt16
  reservedPeerU16 : UInt16
  peerFabricCapabilityFlags : UInt32
  configurationRevision : UInt64
  configurationDigest : Digest

def fbr1Puts (r : Fbr1) : List Put :=
  [putVector 0 r.instanceId, putU32Be 16 r.linkKind, putU32Be 20 r.directionMask,
    putU32Be 24 r.capabilityFlags, putU64Be 28 r.descriptorRevision,
    putVector 36 r.descriptorDigest, putVector 68 r.securityProfileId,
    putU32Be 84 r.securityCapabilityFlags, putVector 88 r.securityBindingDigest,
    putU64Be 120 r.attestationEpoch, putVector 128 r.attestationClockEpochId,
    putU64Be 144 r.attestationExpiresAtMs, putVector 152 r.attestationDigest,
    putVector 184 r.authenticatedPeerRuntimeId, putVector 200 r.attachmentAuthorityId,
    putVector 216 r.attachmentBindingDigest, putU32Be 248 r.maximumPacketBytes,
    putU32Be 252 r.maximumTransferBytes, putU16Be 256 r.latencyClass, putU16Be 258 r.costClass,
    putU16Be 260 r.reservationCapacity, putU16Be 262 r.reservedZeroU16,
    putU64Be 264 r.availabilityEpoch, putVector 272 r.availabilityClockEpochId,
    putU8 288 r.available, putU8 289 r.lifecycle, putU16Be 290 r.reservedAvailU16,
    putU64Be 292 r.availabilityExpiresAtMs, putU16Be 300 r.peerNfl1Version,
    putU16Be 302 r.reservedPeerU16, putU32Be 304 r.peerFabricCapabilityFlags,
    putU64Be 308 r.configurationRevision, putVector 316 r.configurationDigest]

def fbr1Read (p : List UInt8) : Fbr1 where
  instanceId := getVector 16 p 0
  linkKind := getU32Be p 16
  directionMask := getU32Be p 20
  capabilityFlags := getU32Be p 24
  descriptorRevision := getU64Be p 28
  descriptorDigest := getVector 32 p 36
  securityProfileId := getVector 16 p 68
  securityCapabilityFlags := getU32Be p 84
  securityBindingDigest := getVector 32 p 88
  attestationEpoch := getU64Be p 120
  attestationClockEpochId := getVector 16 p 128
  attestationExpiresAtMs := getU64Be p 144
  attestationDigest := getVector 32 p 152
  authenticatedPeerRuntimeId := getVector 16 p 184
  attachmentAuthorityId := getVector 16 p 200
  attachmentBindingDigest := getVector 32 p 216
  maximumPacketBytes := getU32Be p 248
  maximumTransferBytes := getU32Be p 252
  latencyClass := getU16Be p 256
  costClass := getU16Be p 258
  reservationCapacity := getU16Be p 260
  reservedZeroU16 := getU16Be p 262
  availabilityEpoch := getU64Be p 264
  availabilityClockEpochId := getVector 16 p 272
  available := p.getD 288 0
  lifecycle := p.getD 289 0
  reservedAvailU16 := getU16Be p 290
  availabilityExpiresAtMs := getU64Be p 292
  peerNfl1Version := getU16Be p 300
  reservedPeerU16 := getU16Be p 302
  peerFabricCapabilityFlags := getU32Be p 304
  configurationRevision := getU64Be p 308
  configurationDigest := getVector 32 p 316

def fbr1Encode (r : Fbr1) : List UInt8 := putAll (List.replicate 348 0) (fbr1Puts r)

def fbr1Decode (payload : List UInt8) : Except RecordStatus Fbr1 :=
  let r := fbr1Read payload
  if r.reservedZeroU16 ≠ 0 ∨ r.reservedAvailU16 ≠ 0 ∨ r.reservedPeerU16 ≠ 0 then
    .error .corrupt
  else .ok r

/-! ### FBP1 -/

/-- `ninlil_fabric_private_policy_candidate_t`. -/
structure PolicyCandidate where
  instanceId : Id
  rank : UInt16
  flags : UInt16
  reservationUnits : UInt16
  reservedZero : UInt16

/-- The loop over the candidates, the first one at `off`. -/
def candidatePuts : ℕ → List PolicyCandidate → List Put
  | _, [] => []
  | off, c :: cs =>
    putVector off c.instanceId :: putU16Be (off + 16) c.rank :: putU16Be (off + 18) c.flags
      :: putU16Be (off + 20) c.reservationUnits :: putU16Be (off + 22) c.reservedZero
      :: candidatePuts (off + 24) cs

def readCandidate (p : List UInt8) (off : ℕ) : PolicyCandidate where
  instanceId := getVector 16 p off
  rank := getU16Be p (off + 16)
  flags := getU16Be p (off + 18)
  reservationUnits := getU16Be p (off + 20)
  reservedZero := getU16Be p (off + 22)

/-- `ninlil_fabric_private_fbp1_t`. -/
structure Fbp1 where
  policyId : Id
  revision : UInt64
  canonicalDigest : Digest
  serviceIdentityDigest : Digest
  family : UInt32
  direction : UInt32
  trafficClass : UInt16
  scopeSelector : UInt16
  requiredCapabilityFlags : UInt32
  requiredSecurityFlags : UInt32
  maximumLatencyClass : UInt16
  maximumCostClass : UInt16
  minimumPacketBytes : UInt32
  authorityMode : UInt8
  reservedZeroU8 : Vector UInt8 3
  deadlineGuardMs : UInt64
  candidateCount : UInt16
  reservedZeroU16 : UInt16
  reservedZeroU32 : UInt32
  candidates : Vector PolicyCandidate 8

/-- The stores before the candidates. -/
def fbp1HeadPuts (r : Fbp1) : List Put :=
  [putVector 0 r.policyId, putU64Be 16 r.revision, putVector 24 r.canonicalDigest,
    putVector 56 r.serviceIdentityDigest, putU32Be 88 r.family, putU32Be 92 r.direction,
    putU16Be 96 r.trafficClass, putU16Be 98 r.scopeSelector,
    putU32Be 100 r.requiredCapabilityFlags, putU32Be 104 r.requiredSecurityFlags,
    putU16Be 108 r.maximumLatencyClass, putU16Be 110 r.maximumCostClass,
    putU32Be 112 r.minimumPacketBytes, putU8 116 r.authorityMode, putU8 117 r.reservedZeroU8[0],
    putU8 118 r.reservedZeroU8[1], putU8 119 r.reservedZeroU8[2], putU64Be 120 r.deadlineGuardMs,
    putU16Be 128 r.candidateCount, putU16Be 130 r.reservedZeroU16, putU32Be 132 r.reservedZeroU32]

def fbp1Puts (r : Fbp1) : List Put := fbp1HeadPuts r ++ candidatePuts 136 r.candidates.toList

def fbp1Read (p : List UInt8) : Fbp1 where
  policyId := getVector 16 p 0
  revision := getU64Be p 16
  canonicalDigest := getVector 32 p 24
  serviceIdentityDigest := getVector 32 p 56
  family := getU32Be p 88
  direction := getU32Be p 92
  trafficClass := getU16Be p 96
  scopeSelector := getU16Be p 98
  requiredCapabilityFlags := getU32Be p 100
  requiredSecurityFlags := getU32Be p 104
  maximumLatencyClass := getU16Be p 108
  maximumCostClass := getU16Be p 110
  minimumPacketBytes := getU32Be p 112
  authorityMode := p.getD 116 0
  reservedZeroU8 := #v[p.getD 117 0, p.getD 118 0, p.getD 119 0]
  deadlineGuardMs := getU64Be p 120
  candidateCount := getU16Be p 128
  reservedZeroU16 := getU16Be p 130
  reservedZeroU32 := getU32Be p 132
  candidates := Vector.ofFn fun i => readCandidate p (136 + 24 * i)

def fbp1Encode (r : Fbp1) : List UInt8 := putAll (List.replicate 328 0) (fbp1Puts r)

def fbp1Decode (payload : List UInt8) : Except RecordStatus Fbp1 :=
  let r := fbp1Read payload
  if r.reservedZeroU8[0] ≠ 0 ∨ r.reservedZeroU8[1] ≠ 0 ∨ r.reservedZeroU8[2] ≠ 0
      ∨ r.reservedZeroU16 ≠ 0 ∨ r.reservedZeroU32 ≠ 0 then
    .error .corrupt
  else .ok r

/-! ### FBC1 -/

/-- `ninlil_fabric_private_fbc1_t`. -/
structure Fbc1 where
  bindingId : Id
  serviceIdentityDigest : Digest
  family : UInt32
  direction : UInt32
  trafficClass : UInt16
  scopeSelector : UInt16
  endpointRuntimeId : Id
  targetRuntimeId : Id
  targetApplicationId : Id
  policyId : Id
  policyRevision : UInt64
  policyDigest : Digest
  authorityState : UInt32
  authorityId : Id
  authorityTerm : UInt64
  assignmentEpoch : UInt32
  reservedZeroU32 : UInt32
  ownerScopeId : Id
  ownerTupleDigest : Digest
  ownerTupleCanonical : Vector UInt8 200
  authorityClockEpochId : Id
  leaseExpiresAtMs : UInt64
  assignmentRevision : UInt64
  reservedZeroU64 : UInt64

def fbc1Puts (r : Fbc1) : List Put :=
  [putVector 0 r.bindingId, putVector 16 r.serviceIdentityDigest, putU32Be 48 r.family,
    putU32Be 52 r.direction, putU16Be 56 r.trafficClass, putU16Be 58 r.scopeSelector,
    putVector 60 r.endpointRuntimeId, putVector 76 r.targetRuntimeId,
    putVector 92 r.targetApplicationId, putVector 108 r.policyId, putU64Be 124 r.policyRevision,
    putVector 132 r.policyDigest, putU32Be 164 r.authorityState, putVector 168 r.authorityId,
    putU64Be 184 r.authorityTerm, putU32Be 192 r.assignmentEpoch, putU32Be 196 r.reservedZeroU32,
    putVector 200 r.ownerScopeId, putVector 216 r.ownerTupleDigest,
    putVector 248 r.ownerTupleCanonical, putVector 448 r.authorityClockEpochId,
    putU64Be 464 r.leaseExpiresAtMs, putU64Be 472 r.assignmentRevision,
    putU64Be 480 r.reservedZeroU64]

def fbc1Read (p : List UInt8) : Fbc1 where
  bindingId := getVector 16 p 0
  serviceIdentityDigest := getVector 32 p 16
  family := getU32Be p 48
  direction := getU32Be p 52
  trafficClass := getU16Be p 56
  scopeSelector := getU16Be p 58
  endpointRuntimeId := getVector 16 p 60
  targetRuntimeId := getVector 16 p 76
  targetApplicationId := getVector 16 p 92
  policyId := getVector 16 p 108
  policyRevision := getU64Be p 124
  policyDigest := getVector 32 p 132
  authorityState := getU32Be p 164
  authorityId := getVector 16 p 168
  authorityTerm := getU64Be p 184
  assignmentEpoch := getU32Be p 192
  reservedZeroU32 := getU32Be p 196
  ownerScopeId := getVector 16 p 200
  ownerTupleDigest := getVector 32 p 216
  ownerTupleCanonical := getVector 200 p 248
  authorityClockEpochId := getVector 16 p 448
  leaseExpiresAtMs := getU64Be p 464
  assignmentRevision := getU64Be p 472
  reservedZeroU64 := getU64Be p 480

def fbc1Encode (r : Fbc1) : List UInt8 := putAll (List.replicate 488 0) (fbc1Puts r)

def fbc1Decode (payload : List UInt8) : Except RecordStatus Fbc1 :=
  let r := fbc1Read payload
  if r.reservedZeroU32 ≠ 0 ∨ r.reservedZeroU64 ≠ 0 then
    .error .corrupt
  else .ok r

/-! ### FBA1 -/

/-- `ninlil_fabric_private_fba1_t`. -/
structure Fba1 where
  transactionId : Id
  attemptId : Id
  messageKind : UInt32
  responseSlot : UInt32
  state : UInt32
  foundationMessageDigest : Digest
  policyId : Id
  policyRevision : UInt64
  policyDigest : Digest
  selectedPathId : Id
  pathSelectionEpoch : UInt64
  routeFlags : UInt32
  authorityState : UInt32
  authorityId : Id
  authorityTerm : UInt64
  assignmentEpoch : UInt32
  ownerScopeId : Id
  ownerTupleDigest : Digest
  registryRecordRevision : UInt64
  registryRecordDigest : Digest
  descriptorDigest : Digest
  securityProfileId : Id
  attestationEpoch : UInt64
  attestationClockEpochId : Id
  attestationDigest : Digest
  attestationExpiresAtMs : UInt64
  peerRuntimeId : Id
  attachmentAuthorityId : Id
  attachmentBindingDigest : Digest
  availabilityEpoch : UInt64
  availabilityClockEpochId : Id
  availabilityState : UInt8
  reservedAvail : Vector UInt8 7
  availabilityExpiresAtMs : UInt64
  reservationId : Id
  deadlineClockEpochId : Id
  deadlineMs : UInt64
  nfl1Length : UInt32
  nfl1Sha256 : Digest
  retentionClockEpochId : Id
  retentionUntilMs : UInt64
  retryLifetimeClockEpochId : Id
  retryExpiresAtMs : UInt64
  localDispatchId : Digest
  runtimeTerminalRevision : UInt64
  permitId : Id
  permitExpiresAtMs : UInt64
  permitClaimState : UInt32

def fba1Puts (r : Fba1) : List Put :=
  [putVector 0 r.transactionId, putVector 16 r.attemptId, putU32Be 32 r.messageKind,
    putU32Be 36 r.responseSlot, putU32Be 40 r.state, putVector 44 r.foundationMessageDigest,
    putVector 76 r.policyId, putU64Be 92 r.policyRevision, putVector 100 r.policyDigest,
    putVector 132 r.selectedPathId, putU64Be 148 r.pathSelectionEpoch, putU32Be 156 r.routeFlags,
    putU32Be 160 r.authorityState, putVector 164 r.authorityId, putU64Be 180 r.authorityTerm,
    putU32Be 188 r.assignmentEpoch, putVector 192 r.ownerScopeId,
    putVector 208 r.ownerTupleDigest, putU64Be 240 r.registryRecordRevision,
    putVector 248 r.registryRecordDigest, putVector 280 r.descriptorDigest,
    putVector 312 r.securityProfileId, putU64Be 328 r.attestationEpoch,
    putVector 336 r.attestationClockEpochId, putVector 352 r.attestationDigest,
    putU64Be 384 r.attestationExpiresAtMs, putVector 392 r.peerRuntimeId,
    putVector 408 r.attachmentAuthorityId, putVector 424 r.attachmentBindingDigest,
    putU64Be 456 r.availabilityEpoch, putVector 464 r.availabilityClockEpochId,
    putU8 480 r.availabilityState, putVector 481 r.reservedAvail,
    putU64Be 488 r.availabilityExpiresAtMs, putVector 496 r.reservationId,
    putVector 512 r.deadlineClockEpochId, putU64Be 528 r.deadlineMs, putU32Be 536 r.nfl1Length,
    putVector 540 r.nfl1Sha256, putVector 572 r.retentionClockEpochId,
    putU64Be 588 r.retentionUntilMs, putVector 596 r.retryLifetimeClockEpochId,
    putU64Be 612 r.retryExpiresAtMs, putVector 620 r.localDispatchId,
    putU64Be 652 r.runtimeTerminalRevision, putVector 660 r.permitId,
    putU64Be 676 r.permitExpiresAtMs, putU32Be 684 r.permitClaimState]

def fba1Read (p : List UInt8) : Fba1 where
  transactionId := getVector 16 p 0
  attemptId := getVector 16 p 16
  messageKind := getU32Be p 32
  responseSlot := getU32Be p 36
  state := getU32Be p 40
  foundationMessageDigest := getVector 32 p 44
  policyId := getVector 16 p 76
  policyRevision := getU64Be p 92
  policyDigest := getVector 32 p 100
  selectedPathId := getVector 16 p 132
  pathSelectionEpoch := getU64Be p 148
  routeFlags := getU32Be p 156
  authorityState := getU32Be p 160
  authorityId := getVector 16 p 164
  authorityTerm := getU64Be p 180
  assignmentEpoch := getU32Be p 188
  ownerScopeId := getVector 16 p 192
  ownerTupleDigest := getVector 32 p 208
  registryRecordRevision := getU64Be p 240
  registryRecordDigest := getVector 32 p 248
  descriptorDigest := getVector 32 p 280
  securityProfileId := getVector 16 p 312
  attestationEpoch := getU64Be p 328
  attestationClockEpochId := getVector 16 p 336
  attestationDigest := getVector 32 p 352
  attestationExpiresAtMs := getU64Be p 384
  peerRuntimeId := getVector 16 p 392
  attachmentAuthorityId := getVector 16 p 408
  attachmentBindingDigest := getVector 32 p 424
  availabilityEpoch := getU64Be p 456
  availabilityClockEpochId := getVector 16 p 464
  availabilityState := p.getD 480 0
  reservedAvail := getVector 7 p 481
  availabilityExpiresAtMs := getU64Be p 488
  reservationId := getVector 16 p 496
  deadlineClockEpochId := getVector 16 p 512
  deadlineMs := getU64Be p 528
  nfl1Length := getU32Be p 536
  nfl1Sha256 := getVector 32 p 540
  retentionClockEpochId := getVector 16 p 572
  retentionUntilMs := getU64Be p 588
  retryLifetimeClockEpochId := getVector 16 p 596
  retryExpiresAtMs := getU64Be p 612
  localDispatchId := getVector 32 p 620
  runtimeTerminalRevision := getU64Be p 652
  permitId := getVector 16 p 660
  permitExpiresAtMs := getU64Be p 676
  permitClaimState := getU32Be p 684

def fba1Encode (r : Fba1) : List UInt8 := putAll (List.replicate 688 0) (fba1Puts r)

def fba1Decode (payload : List UInt8) : Except RecordStatus Fba1 :=
  let r := fba1Read payload
  if isZero r.reservedAvail.toList = false ∨ r.routeFlags ≠ 0 then
    .error .corrupt
  else .ok r

/-! ### FBT1 -/

/-- `ninlil_fabric_private_fbt1_t`. -/
structure Fbt1 where
  transactionId : Id
  triggeringAttemptId : Id
  triggeringKind : UInt32
  authorityState : UInt32
  endpointRuntimeId : Id
  ownerScopeId : Id
  authorityId : Id
  authorityTerm : UInt64
  assignmentEpoch : UInt32
  reservedZeroU32 : UInt32
  ownerTupleDigest : Digest
  policyId : Id
  policyRevision : UInt64
  policyDigest : Digest
  retentionClockEpochId : Id
  retentionUntilMs : UInt64
  runtimeTerminalRevision : UInt64

def fbt1Puts (r : Fbt1) : List Put :=
  [putVector 0 r.transactionId, putVector 16 r.triggeringAttemptId, putU32Be 32 r.triggeringKind,
    putU32Be 36 r.authorityState, putVector 40 r.endpointRuntimeId, putVector 56 r.ownerScopeId,
    putVector 72 r.authorityId, putU64Be 88 r.authorityTerm, putU32Be 96 r.assignmentEpoch,
    putU32Be 100 r.reservedZeroU32, putVector 104 r.ownerTupleDigest, putVector 136 r.policyId,
    putU64Be 152 r.policyRevision, putVector 160 r.policyDigest,
    putVector 192 r.retentionClockEpochId, putU64Be 208 r.retentionUntilMs,
    putU64Be 216 r.runtimeTerminalRevision]

def fbt1Read (p : List UInt8) : Fbt1 where
  transactionId := getVector 16 p 0
  triggeringAttemptId := getVector 16 p 16
  triggeringKind := getU32Be p 32
  authorityState := getU32Be p 36
  endpointRuntimeId := getVector 16 p 40
  ownerScopeId := getVector 16 p 56
  authorityId := getVector 16 p 72
  authorityTerm := getU64Be p 88
  assignmentEpoch := getU32Be p 96
  reservedZeroU32 := getU32Be p 100
  ownerTupleDigest := getVector 32 p 104
  policyId := getVector 16 p 136
  policyRevision := getU64Be p 152
  policyDigest := getVector 32 p 160
  retentionClockEpochId := getVector 16 p 192
  retentionUntilMs := getU64Be p 208
  runtimeTerminalRevision := getU64Be p 216

def fbt1Encode (r : Fbt1) : List UInt8 := putAll (List.replicate 224 0) (fbt1Puts r)

def fbt1Decode (payload : List UInt8) : Except RecordStatus Fbt1 :=
  let r := fbt1Read payload
  if r.reservedZeroU32 ≠ 0 then
    .error .corrupt
  else .ok r

end Schema
end Ninlil.Fabric
