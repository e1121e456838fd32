import Ninlil.Submission.Types

/-!
# Transaction identifiers and the admission commit

`submission_admission.c`: the second and third reducer of a submission.  The first allocates a
transaction identifier for an admission plan and builds the write set of the admission; the
second maps the answer of the storage commit to the public result.  Both validate what they are
given again, with checks written independently of preflight's.
-/

namespace Ninlil.Submission
namespace Admission

open Resource

/-! ### Records -/

/-- `ninlil_model_entropy_draw_state_t`. -/
inductive EntropyState
  | full
  | temporaryFailure
  | permanentFailure
  | partialDraw
  | unknown (code : ℕ)
  deriving DecidableEq

/-- `ninlil_model_transaction_collision_state_t`. -/
inductive CollisionState
  | notChecked
  | unique
  | collision
  | lookupBusy
  | lookupIoError
  | lookupCorrupt
  | unknown (code : ℕ)
  deriving DecidableEq

/-- `ninlil_model_transaction_id_draw_t`. -/
structure Draw where
  ordinal : UInt32
  entropyState : EntropyState
  candidate : Id128
  collisionState : CollisionState
  deriving DecidableEq

/-- `ninlil_model_owned_payload_t`. -/
structure OwnedPayload where
  length : UInt32 := 0
  contentVerified : UInt32 := 0
  verifiedContentDigest : Digest := {}
  bytes : Vector UInt8 1024 := Vector.replicate 1024 0

/-- `ninlil_direction_t`. -/
inductive Direction
  | uplink
  | downlink
  | unknown (code : UInt32)
  deriving DecidableEq

/-- `ninlil_admission_authority_t`. -/
inductive AdmissionAuthority
  | controllerOnly
  | originWithGrant
  | unknown (code : UInt32)
  deriving DecidableEq

/-- `ninlil_apply_contract_t`. -/
inductive ApplyContract
  | idempotent
  | applicationDedup
  | unknown (code : UInt32)
  deriving DecidableEq

/-- `ninlil_custody_policy_t`. -/
inductive CustodyPolicy
  | untilRequiredEvidence
  | unknown (code : UInt32)
  deriving DecidableEq

/-- `ninlil_model_descriptor_contract_extension_t`. -/
structure DescriptorContract where
  direction : Direction := .unknown 0
  admissionAuthority : AdmissionAuthority := .unknown 0
  applyContract : ApplyContract := .unknown 0
  custodyPolicy : CustodyPolicy := .unknown 0
  targetLimit : UInt32 := 0
  maxAttemptsPerTargetPerCycle : UInt32 := 0
  reservedZero : UInt32 := 0
  attemptReceiptTimeoutMs : UInt64 := 0
  retryBackoffMs : UInt64 := 0
  applicationCompletionTimeoutMs : UInt64 := 0
  requiredDedupWindowMs : UInt64 := 0
  deriving DecidableEq

/-- `ninlil_model_immutable_descriptor_snapshot_t`. -/
structure DescriptorSnapshot where
  registeredService : Service := {}
  contract : DescriptorContract := {}

/-- `ninlil_model_initial_queue_kind_t`; `unset` is zero. -/
inductive InitialQueueKind
  | unset
  | commandOutbox
  | eventSpool
  deriving DecidableEq

/-- `ninlil_model_initial_family_state_t`; `unset` is zero. -/
inductive InitialFamilyState
  | unset
  | desiredTargetReady
  | eventHeldReady
  deriving DecidableEq

/-- `ninlil_deadline_verdict_t`; `pending` is zero. -/
inductive DeadlineVerdict
  | pending
  | met
  | missed
  | indeterminate
  | notApplicable
  deriving DecidableEq

/-- `ninlil_model_initial_target_spool_snapshot_t`. -/
structure InitialSnapshot where
  familyState : InitialFamilyState := .unset
  reason : Reason := .none
  highestEvidence : UInt32 := 0
  latestEvidence : UInt32 := 0
  effectCertainty : UInt32 := 0
  deadlineVerdict : DeadlineVerdict := .pending
  dispatchFenced : UInt32 := 0
  attemptsInCycle : UInt32 := 0
  retryCycleId : UInt64 := 0
  cumulativeAttempts : UInt64 := 0
  currentAttemptId : Id128 := 0
  timerPresent : UInt32 := 0
  cancelState : UInt32 := 0
  deliveryPossible : UInt32 := 0
  eventParkCause : UInt32 := 0
  spoolRevision : UInt64 := 0
  evidenceSummaryLatest : UInt32 := 0
  evidenceSummaryLate : UInt32 := 0
  evidenceRawUsed : UInt32 := 0
  deriving DecidableEq

/-- `ninlil_model_admission_reservation_manifest_t`. -/
structure ReservationManifest where
  evidenceSummaryUsed : UInt32 := 0
  evidenceRawReserved : UInt32 := 0
  commandCancelSlots : UInt32 := 0
  commandCancelOutboxMetadataSlots : UInt32 := 0
  eventResumeSlots : UInt32 := 0
  eventResumeSlotBytes : UInt32 := 0
  eventDiscardSlots : UInt32 := 0
  eventDiscardSlotBytes : UInt32 := 0
  eventManagementTotalBytes : UInt64 := 0
  deriving DecidableEq

/-- `ninlil_model_mapping_scope_t`. -/
structure MappingScope where
  sourceApplicationInstanceId : Id128 := 0
  namespaceId : TextId := {}
  serviceId : TextId := {}
  deriving DecidableEq

/-- `ninlil_model_admission_mapping_record_t`. -/
structure MappingRecord where
  scope : MappingScope := {}
  callerKey : IdempotencyKey := {}
  transactionId : Id128 := 0
  canonicalSubmissionDigest : Digest := {}
  deriving DecidableEq

/-- `ninlil_model_event_mapping_record_t`. -/
structure EventMappingRecord where
  scope : MappingScope := {}
  eventId : Id128 := 0
  callerKey : IdempotencyKey := {}
  transactionId : Id128 := 0
  canonicalSubmissionDigest : Digest := {}
  deriving DecidableEq

/-- `ninlil_model_bound_grant_record_t`. -/
structure BoundGrantRecord where
  decision : GrantSnapshot := {}
  source : Party := {}
  service : ServiceIdentity := {}
  target : ConcreteTarget := {}
  eventId : Id128 := 0
  contentDigest : Digest := {}
  requiredEvidence : UInt32 := 0
  payloadLength : UInt32 := 0
  deriving DecidableEq

/-- `ninlil_durability_t`; `unset` is zero. -/
inductive Durability
  | unset
  | volatile
  | checkpointed
  | full
  deriving DecidableEq

/-- `NINLIL_TXN_READY`. -/
def txnReady : UInt32 := 1

/-- `ninlil_model_admission_write_set_t`. -/
structure WriteSet where
  durability : Durability := .unset
  recordMask : UInt32 := 0
  transactionId : Id128 := 0
  plan : AdmissionPlan := {}
  payload : OwnedPayload := {}
  descriptor : DescriptorSnapshot := {}
  callerMapping : MappingRecord := {}
  eventMappingPresent : UInt32 := 0
  eventMapping : EventMappingRecord := {}
  grantSnapshotPresent : UInt32 := 0
  grantSnapshot : BoundGrantRecord := {}
  initialQueueKind : InitialQueueKind := .unset
  initialFamilySnapshot : InitialSnapshot := {}
  initialTransactionState : UInt32 := 0
  initialOutcome : UInt32 := 0
  initialReason : Reason := .none
  transactionRecordRevision : UInt64 := 0
  eventSpoolRevision : UInt64 := 0
  commandCancelReservationPresent : UInt32 := 0
  eventManagementReservationPresent : UInt32 := 0
  reservationManifest : ReservationManifest := {}
  committedQuota : QuotaCommitPlan := {}
  committedResourceLedger : Ledger := zeroLedger
  assurance : AdmissionAssurance := {}

/-! ### Validation -/

def textIdIsValid (text : TextId) (namespaceGrammar : Bool) : Bool :=
  let bytes := text.bytes.toList
  let length := text.length.toNat
  if length = 0 ∨ length > 63 ∨ !asciiIsLowerOrDigit (bytes.headD 0) then false
  else
    ((bytes.take length).drop 1).all (fun value =>
        !(!asciiIsLowerOrDigit value && value != 46 && value != 45
          && (namespaceGrammar || value != 95)))
      && bytesAreZero (bytes.drop length)

def presenceIsValid (flags : UInt32) (device installation site : Id128)
    (bindingEpoch membershipEpoch : UInt64) : Bool :=
  let hasDevice := flags &&& 1 != 0
  let hasInstallation := flags &&& 2 != 0
  let hasSite := flags &&& 4 != 0
  flags &&& ~~~allowedPresenceFlags == 0
    && (idIsZero device == !hasDevice) && (idIsZero installation == !hasInstallation)
    && (idIsZero site == !hasSite)
    && ((bindingEpoch != 0) == (hasDevice || hasInstallation))
    && ((membershipEpoch != 0) == hasSite)

def partyIsValid (party : Party) : Bool :=
  headerIsCurrent party.abiVersion party.structSize partySize
    && !idIsZero party.runtimeId && !idIsZero party.applicationInstanceId
    && headerIsCurrent party.localIdentity.abiVersion party.localIdentity.structSize
      localIdentitySize
    && party.localIdentity.reservedZero == 0
    && presenceIsValid party.localIdentity.flags party.localIdentity.deviceId
      party.localIdentity.installationId party.localIdentity.siteDomainId
      party.localIdentity.bindingEpoch party.localIdentity.membershipEpoch

def targetIsValid (target : ConcreteTarget) : Bool :=
  headerIsCurrent target.abiVersion target.structSize concreteTargetSize
    && !idIsZero target.targetRuntimeId && !idIsZero target.targetApplicationInstanceId
    && target.reservedZero == 0
    && presenceIsValid target.flags target.deviceId target.installationId target.siteDomainId
      target.bindingEpoch target.membershipEpoch

def serviceIdentityIsValid (service : ServiceIdentity) : Bool :=
  headerIsCurrent service.abiVersion service.structSize serviceIdentitySize
    && textIdIsValid service.namespaceId true && textIdIsValid service.serviceId false
    && textIdIsValid service.schemaId false
    && service.descriptorRevision != 0 && digestIsValid service.descriptorDigest
    && service.family.isAdmitSupported

def registeredServiceIsValid (service : Service) : Bool :=
  service.localSide == .sender && partyIsValid service.source
    && serviceIdentityIsValid service.identity
    && service.identity.family == service.family
    && service.identity.schemaMajor == service.schemaMajor
    && service.schemaMinorMin ≤ service.schemaMinorMax
    && service.schemaMinorMin ≤ service.identity.schemaMinor
    && service.identity.schemaMinor ≤ service.schemaMinorMax
    && service.reservedZeroU16 == 0
    && service.supportedEvidenceMask != 0
    && service.supportedEvidenceMask &&& ~~~allowedEvidence == 0
    && service.logicalPayloadLimit > 0 && service.inflightLimit > 0
    && service.admissionWindowMs > 0
    && service.admissionWindowMs.toUInt64 ≤ maxRetryDelayMs
    && service.maxAdmissionsPerWindow > 0
    && service.maxPayloadBytesPerWindow ≥ service.logicalPayloadLimit
    && service.maxEvidencePerTarget > 0 && service.maxEvidencePerTarget ≤ 8
    && (if service.family.isDownlink then
          service.minimumDeadlineMs ≥ 1
            && service.minimumDeadlineMs ≤ service.maximumDeadlineMs
            && service.maximumDeadlineMs < noDeadline
        else
          service.minimumDeadlineMs == noDeadline && service.maximumDeadlineMs == noDeadline
            && service.maximumEvidenceGraceMs == 0)

def grantDecisionIsZero (grant : GrantSnapshot) : Bool := grant == {}

def planGrantShapeIsValid (plan : AdmissionPlan) : Bool :=
  let grant := plan.grant
  if plan.family.isDownlink then grantDecisionIsZero grant
  else
    !idIsZero grant.providerId && grant.providerRevision != 0
      && digestIsValid grant.decisionDigest
      && !idIsZero grant.grantId && grant.grantRevision != 0
      && grant.clockEpochId == plan.admissionClockEpochId
      && grant.evaluatedAtMs == plan.admittedAtMs
      && grant.validFromMs ≤ grant.evaluatedAtMs
      && grant.evaluatedAtMs < grant.expiresAtMs
      && grant.retryDelayMs == 0
      && grant.maxPayloadBytes > 0
      && plan.payloadLength ≤ grant.maxPayloadBytes
      && grant.maxActiveSpoolCount > 0 && grant.maxActiveSpoolBytes > 0
      && grant.rateWindowMs == plan.registeredService.admissionWindowMs
      && grant.maxAdmissionsPerWindow > 0
      && grant.maxAdmissionsPerWindow ≤ plan.registeredService.maxAdmissionsPerWindow
      && grant.maxAttemptsPerRetryCycle == attemptsPerRetryCycle

def desiredDeadlinesAreValid (plan : AdmissionPlan) : Bool :=
  if plan.absoluteEffectDeadlineMs < plan.admittedAtMs
      ∨ plan.absoluteEffectDeadlineMs = noDeadline
      ∨ plan.absoluteEvidenceCloseMs < plan.absoluteEffectDeadlineMs then false
  else
    let relativeEffect := plan.absoluteEffectDeadlineMs - plan.admittedAtMs
    let relativeGrace := plan.absoluteEvidenceCloseMs - plan.absoluteEffectDeadlineMs
    relativeEffect ≥ plan.registeredService.minimumDeadlineMs
      && relativeEffect ≤ plan.registeredService.maximumDeadlineMs
      && relativeGrace ≤ plan.registeredService.maximumEvidenceGraceMs

def keyIsValid (key : IdempotencyKey) : Bool :=
  let length := key.length.toNat
  if length = 0 ∨ length > 64 then false else bytesAreZero (key.bytes.toList.drop length)

def quotaShapeIsValid (plan : AdmissionPlan) : Bool :=
  let quota := plan.quota
  let service := plan.registeredService
  if service.admissionWindowMs = 0 then false
  else
    let expectedWindowStart :=
      plan.admittedAtMs - plan.admittedAtMs % service.admissionWindowMs.toUInt64
    quota.clockEpochId == plan.admissionClockEpochId
      && quota.windowStartedAtMs == expectedWindowStart
      && quota.nextInflightCount != 0
      && quota.nextInflightCount ≤ service.inflightLimit.toUInt64
      && quota.nextAdmissionsInWindow != 0
      && quota.nextAdmissionsInWindow ≤ service.maxAdmissionsPerWindow.toUInt64
      && plan.payloadLength.toUInt64 ≤ quota.nextPayloadBytesInWindow
      && quota.nextPayloadBytesInWindow ≤ service.maxPayloadBytesPerWindow.toUInt64
      -- only this one downlink family is exempt from the grant rules
      && (if plan.family = .desiredState then
            quota.nextEventActiveSpoolCount == 0 && quota.nextEventActiveSpoolBytes == 0
          else
            plan.grant.rateWindowMs == service.admissionWindowMs
              && quota.nextAdmissionsInWindow ≤ plan.grant.maxAdmissionsPerWindow.toUInt64
              && quota.nextEventActiveSpoolCount ≥ 1
              && quota.nextEventActiveSpoolCount ≤ plan.grant.maxActiveSpoolCount.toUInt64
              && quota.nextEventActiveSpoolBytes
                ≥ plan.payloadLength.toUInt64 + eventManagementReservationBytes
              && quota.nextEventActiveSpoolBytes ≤ plan.grant.maxActiveSpoolBytes)

/-- `request_amount`: the amount of the last request of a kind, and whether there is at most
one. -/
def requestAmount (requests : List BatchRequest) (kind : UInt32) : UInt64 × Bool :=
  let found := requests.filter (·.kind == kind)
  ((found.getLast?.map (·.amount)).getD 0, found.length ≤ 1)

/-- The shape loop over a request list of a reservation plan. -/
def requestsShapeIsValid (requests : List BatchRequest) : Bool :=
  requests.all (fun q => q.amount != 0 && q.usedRelease == 0 && q.reservedRelease == 0
      && q.reopensBlockedClass == 0)
    && (requests.zip requests.tail).all (fun pair => pair.1.kind < pair.2.kind)

/-- The six kinds an admission may request. -/
def requestKinds : List UInt32 :=
  [kindTransaction, kindTarget, kindOutboxBytes, kindEventSpoolCount, kindEventSpoolBytes,
    kindEvidence]

def resourcePlanMatchesAdmission (plan : AdmissionPlan) : Bool :=
  let reserve := plan.resources.reserveRequests
  let commit := plan.resources.commitRequests
  let targetCount := if plan.targetCount = 0 then 1 else plan.targetCount.toUInt64
  let evidenceTotal := (plan.registeredService.maxEvidencePerTarget.toUInt64 + 1) * targetCount
  let payload := plan.payloadLength.toUInt64
  let amount := fun requests kind => (requestAmount requests kind).1
  decide (reserve.length ≤ kindCount) && decide (commit.length ≤ kindCount)
    && requestsShapeIsValid reserve && requestsShapeIsValid commit
    && requestKinds.all (fun kind => (requestAmount reserve kind).2)
    && requestKinds.all (fun kind => (requestAmount commit kind).2)
    && amount reserve kindTransaction == 1 && amount reserve kindTarget == targetCount
    && amount reserve kindEvidence == evidenceTotal
    && amount commit kindTransaction == 1 && amount commit kindTarget == targetCount
    && amount commit kindEvidence == targetCount
    && (match capacityBatchTransition plan.resources.reservedLedger
            (batchOf .commitReserved commit) with
        | .error _ => false
        | .ok result =>
          decide (result.action = .allCommitted)
            && decide (result.next = plan.resources.committedLedger))
    && (if plan.family.isUplink then
          decide (reserve.length = 5)
            && decide (commit.length = if plan.payloadLength = 0 then 4 else 5)
            && amount reserve kindOutboxBytes == 0 && amount commit kindOutboxBytes == 0
            && amount reserve kindEventSpoolCount == 1 && amount commit kindEventSpoolCount == 1
            && amount reserve kindEventSpoolBytes == payload + eventManagementReservationBytes
            && amount commit kindEventSpoolBytes == payload
        else
          decide (reserve.length = if plan.payloadLength = 0 then 3 else 4)
            && decide (commit.length = if plan.payloadLength = 0 then 3 else 4)
            && amount reserve kindOutboxBytes == payload && amount commit kindOutboxBytes == payload
            && amount reserve kindEventSpoolCount == 0 && amount commit kindEventSpoolCount == 0
            && amount reserve kindEventSpoolBytes == 0 && amount commit kindEventSpoolBytes == 0)

def planUplinkIdentityIsValid (plan : AdmissionPlan) : Bool :=
  (if plan.family = .latestState ∨ plan.family = .measurement then
      idIsZero plan.eventId && plan.generation != 0
    else !idIsZero plan.eventId && plan.generation == 0)
    && idIsZero plan.deadlineClockEpochId
    && plan.absoluteEffectDeadlineMs == noDeadline
    && plan.absoluteEvidenceCloseMs == noDeadline

/-- The last part of `plan_is_valid`: identity and deadlines of the family. -/
def planIdentityIsValid (plan : AdmissionPlan) : Bool :=
  if plan.family.isDownlink then
    idIsZero plan.eventId && plan.generation != 0
      && plan.deadlineClockEpochId == plan.admissionClockEpochId && desiredDeadlinesAreValid plan
  else planUplinkIdentityIsValid plan

/-- The target loop of `plan_is_valid`, with its fallback to `plan.target`. -/
def planTargetsAreValid (plan : AdmissionPlan) (effectiveCount : UInt32) : Bool :=
  decide (∀ i : Fin 4, i.val < effectiveCount.toNat →
    (if effectiveCount = 1 ∧ targetIsValid (plan.targets i) = false then targetIsValid plan.target
      else targetIsValid (plan.targets i)) = true)

/-- The payload a plan may describe. -/
def maxLogicalPayload : UInt32 := 32768

def planIsValid (plan : AdmissionPlan) : Bool :=
  let effectiveCount := if plan.targetCount = 0 then 1 else plan.targetCount
  (plan.family == .desiredState || plan.family == .eventFact || plan.family.isB5Lab)
    && plan.registeredService.family == plan.family
    && plan.registeredService.localSide == .sender
    && plan.service.family == plan.family
    && registeredServiceIsValid plan.registeredService
    && partyIsValid plan.source && targetIsValid plan.target
    && effectiveCount ≤ maxExactTargets
    && serviceIdentityIsValid plan.service
    && plan.source == plan.registeredService.source
    && plan.service == plan.registeredService.identity
    && plan.transactionSequence != 0 && plan.schedulerOwnerSequence != 0
    && !idIsZero plan.admissionClockEpochId
    && keyIsValid plan.idempotencyKey
    && digestIsValid plan.contentDigest && digestIsValid plan.canonicalSubmissionDigest
    && plan.payloadLength ≤ maxLogicalPayload
    && plan.payloadLength ≤ plan.registeredService.logicalPayloadLimit
    && 1 ≤ plan.requiredEvidence && plan.requiredEvidence ≤ 4
    && plan.registeredService.supportedEvidenceMask &&& evidenceMask plan.requiredEvidence != 0
    && planGrantShapeIsValid plan && quotaShapeIsValid plan
    && resourcePlanMatchesAdmission plan
    && (resourceLedgerProject plan.resources.committedLedger).isOk
    && planTargetsAreValid plan effectiveCount
    && planIdentityIsValid plan

def payloadIsValid (payload : OwnedPayload) (plan : AdmissionPlan) : Bool :=
  payload.length == plan.payloadLength && payload.length ≤ maxLogicalPayload
    && payload.contentVerified == 1
    && digestIsValid payload.verifiedContentDigest
    && payload.verifiedContentDigest == plan.contentDigest
    && bytesAreZero
      (payload.bytes.toList.drop (if payload.length.toNat ≤ 1024 then payload.length.toNat else 0))

def descriptorContractIsValid (contract : DescriptorContract) (family : Family) : Bool :=
  contract.targetLimit != 0 && contract.targetLimit ≤ maxExactTargets
    && (family != .eventFact || contract.targetLimit == 1)
    && contract.maxAttemptsPerTargetPerCycle != 0
    && contract.maxAttemptsPerTargetPerCycle ≤ attemptsPerRetryCycle
    && contract.reservedZero == 0
    && contract.custodyPolicy == .untilRequiredEvidence
    && contract.attemptReceiptTimeoutMs != 0 && contract.attemptReceiptTimeoutMs ≤ 600000
    && contract.retryBackoffMs != 0 && contract.retryBackoffMs ≤ 60000
    && contract.applicationCompletionTimeoutMs != 0
    && contract.applicationCompletionTimeoutMs ≤ 60000
    && contract.requiredDedupWindowMs != 0
    && (if family.isUplink then
          contract.maxAttemptsPerTargetPerCycle == attemptsPerRetryCycle
            && contract.direction == .uplink
            && contract.admissionAuthority == .originWithGrant
            && contract.applyContract == .applicationDedup
        else
          contract.direction == .downlink && contract.admissionAuthority == .controllerOnly
            && (contract.applyContract == .idempotent
              || contract.applyContract == .applicationDedup))

/-! ### Building the write set -/

def makeAssurance (family : Family) : AdmissionAssurance where
  abiVersion := abiVersion
  structSize := admissionAssuranceSize
  assuranceProfile := assuranceFoundationM1aLocal
  submissionValidated := 1
  targetRosterFixed := 1
  descriptorSnapshotFixed := 1
  localJournalCommitted := 1
  localCapacityReserved := 1
  idempotencyMappingCommitted := 1
  originGrantSnapshotCommitted := if family.isUplink then 1 else 0

def makeMappingScope (plan : AdmissionPlan) : MappingScope where
  sourceApplicationInstanceId := plan.source.applicationInstanceId
  namespaceId := plan.service.namespaceId
  serviceId := plan.service.serviceId

/-- `common_record_mask`: the records `1 << 0` to `1 << 12`. -/
def commonRecordMask : UInt32 := 0x1FFF
/-- `EVENT_MAPPING | GRANT | EVENT_MANAGEMENT`. -/
def eventRecordMask : UInt32 := (1 : UInt32) <<< 13 ||| (1 : UInt32) <<< 14 ||| (1 : UInt32) <<< 16
/-- `COMMAND_CANCEL`. -/
def commandRecordMask : UInt32 := (1 : UInt32) <<< 15

/-- `NINLIL_M1A_MAX_EVENT_RESUME_OPERATIONS`. -/
def maxEventResumeOperations : UInt32 := 8

/-- `ninlil_model_id_allocation_input_t`; the list holds the first `draw_count` draws. -/
structure AllocationInput where
  preflightPlan : AdmissionPlan
  payload : OwnedPayload
  descriptorContract : DescriptorContract
  draws : List Draw

/-- The part of `build_write_set` that all families share. -/
def commonWriteSet (input : AllocationInput) (transactionId : Id128) : WriteSet :=
  let plan := input.preflightPlan
  { durability := .full
    recordMask := commonRecordMask
    transactionId := transactionId
    plan := plan
    payload := input.payload
    descriptor :=
      { registeredService := plan.registeredService, contract := input.descriptorContract }
    callerMapping :=
      { scope := makeMappingScope plan
        callerKey := plan.idempotencyKey
        transactionId := transactionId
        canonicalSubmissionDigest := plan.canonicalSubmissionDigest }
    initialTransactionState := txnReady
    transactionRecordRevision := 1
    reservationManifest :=
      { evidenceSummaryUsed := 1
        evidenceRawReserved := plan.registeredService.maxEvidencePerTarget }
    committedQuota := plan.quota
    committedResourceLedger := plan.resources.committedLedger
    assurance := makeAssurance plan.family }

def buildWriteSet (input : AllocationInput) (transactionId : Id128) : WriteSet :=
  let plan := input.preflightPlan
  let common := commonWriteSet input transactionId
  if plan.family.isUplink then
    { common with
      recordMask := common.recordMask ||| eventRecordMask
      eventMappingPresent := 1
      eventMapping :=
        { scope := makeMappingScope plan
          eventId := plan.eventId
          callerKey := plan.idempotencyKey
          transactionId := transactionId
          canonicalSubmissionDigest := plan.canonicalSubmissionDigest }
      grantSnapshotPresent := 1
      grantSnapshot :=
        { decision := plan.grant
          source := plan.source
          service := plan.service
          target := plan.target
          eventId := plan.eventId
          contentDigest := plan.contentDigest
          requiredEvidence := plan.requiredEvidence
          payloadLength := plan.payloadLength }
      initialQueueKind := .eventSpool
      eventSpoolRevision := 1
      initialFamilySnapshot :=
        { familyState := .eventHeldReady
          retryCycleId := 1
          deadlineVerdict := .notApplicable
          spoolRevision := 1 }
      eventManagementReservationPresent := 1
      reservationManifest :=
        { common.reservationManifest with
          eventResumeSlots := maxEventResumeOperations
          eventResumeSlotBytes := 256
          eventDiscardSlots := 1
          eventDiscardSlotBytes := 512
          eventManagementTotalBytes := eventManagementReservationBytes } }
  else if plan.family.isDownlink then
    { common with
      recordMask := common.recordMask ||| commandRecordMask
      initialQueueKind := .commandOutbox
      initialFamilySnapshot := { familyState := .desiredTargetReady, deadlineVerdict := .pending }
      commandCancelReservationPresent := 1
      reservationManifest :=
        { common.reservationManifest with
          commandCancelSlots := 1
          commandCancelOutboxMetadataSlots := 1 } }
  else common

/-! ### Identifier allocation -/

/-- `ninlil_model_id_allocation_action_t`. -/
inductive AllocationAction
  | needsDraw
  | terminal
  | readyForFullCommit
  deriving DecidableEq

/-- `ninlil_model_id_allocation_result_t`. -/
structure AllocationResult where
  action : AllocationAction
  apiStatus : Status
  publicResult : SubmissionResult := {}
  drawsConsumed : UInt32 := 0
  nextDrawOrdinal : UInt32 := 0
  healthDegraded : UInt32 := 0
  healthAddCause : Reason := .none
  healthClearEntropyTransactionId : UInt32 := 0
  writeSet : WriteSet := {}

/-- `collision_state_is_lookup_failure` with `lookup_failure_status`. -/
def lookupFailureStatus : CollisionState → Option Status
  | .lookupBusy => some .wouldBlock
  | .lookupIoError => some .storage
  | .lookupCorrupt => some .storageCorrupt
  | _ => none

def drawShapeIsValid (draw : Draw) (ordinal : UInt32) : Bool :=
  draw.ordinal == ordinal &&
    match draw.entropyState with
    | .unknown _ => false
    | .temporaryFailure | .permanentFailure | .partialDraw =>
      draw.collisionState == .notChecked
    | .full =>
      if idIsZero draw.candidate then draw.collisionState == .notChecked
      else
        match draw.collisionState with
        | .notChecked | .unknown _ => false
        | _ => true

/-- The draw yields no usable candidate and the loop goes on. -/
def drawIsSkipped (draw : Draw) : Bool :=
  draw.entropyState != .full || idIsZero draw.candidate || draw.collisionState == .collision

/-- `NINLIL_MODEL_TRANSACTION_ID_MAX_DRAWS`. -/
def maxDraws : ℕ := 4

/-- The loop over the draws; `index` draws have been skipped, `draws` are left. -/
def allocationLoop (input : AllocationInput) :
    ℕ → List Draw → Except Status AllocationResult
  | index, [] =>
    if index < maxDraws then
      .ok
        { action := .needsDraw
          apiStatus := .ok
          drawsConsumed := UInt32.ofNat index
          nextDrawOrdinal := UInt32.ofNat (index + 1) }
    else
      .ok
        { action := .terminal
          apiStatus := .entropy
          publicResult := initializePublicResult false
          drawsConsumed := UInt32.ofNat index
          healthDegraded := 1
          healthAddCause := .outcomeUnknown }
  | index, draw :: rest =>
    if !drawShapeIsValid draw (UInt32.ofNat (index + 1)) then .error .invalidArgument
    else if drawIsSkipped draw then allocationLoop input (index + 1) rest
    else
      match lookupFailureStatus draw.collisionState with
      | some status =>
        if rest ≠ [] then .error .invalidArgument
        else
          let degraded := status = .storage ∨ status = .storageCorrupt
          .ok
            { action := .terminal
              apiStatus := status
              publicResult := initializePublicResult false
              drawsConsumed := UInt32.ofNat (index + 1)
              healthDegraded := if degraded then 1 else 0
              healthAddCause := if degraded then .storageIo else .none }
      | none =>
        if draw.collisionState ≠ .unique ∨ rest ≠ [] then .error .invalidArgument
        else
          .ok
            { action := .readyForFullCommit
              apiStatus := .ok
              drawsConsumed := UInt32.ofNat (index + 1)
              healthClearEntropyTransactionId := 1
              writeSet := buildWriteSet input draw.candidate }

/-- `ninlil_model_reduce_transaction_id_allocation`. -/
def reduceTransactionIdAllocation (input : AllocationInput) : Except Status AllocationResult :=
  if planIsValid input.preflightPlan && payloadIsValid input.payload input.preflightPlan
      && descriptorContractIsValid input.descriptorContract input.preflightPlan.family
      && decide (input.draws.length ≤ maxDraws) then
    allocationLoop input 0 input.draws
  else .error .invalidArgument

/-! ### Validating the write set -/

def expectedRecordMask (family : Family) : UInt32 :=
  if family.isUplink then commonRecordMask ||| eventRecordMask
  else commonRecordMask ||| commandRecordMask

def mappingScopeMatchesPlan (scope : MappingScope) (plan : AdmissionPlan) : Bool :=
  scope.sourceApplicationInstanceId == plan.source.applicationInstanceId
    && scope.namespaceId == plan.service.namespaceId
    && scope.serviceId == plan.service.serviceId

def assuranceIsValid (assurance : AdmissionAssurance) (family : Family) : Bool :=
  assurance.abiVersion == abiVersion && assurance.structSize ≥ admissionAssuranceSize
    && assurance.assuranceProfile == assuranceFoundationM1aLocal
    && assurance.submissionValidated == 1 && assurance.targetRosterFixed == 1
    && assurance.descriptorSnapshotFixed == 1 && assurance.localJournalCommitted == 1
    && assurance.localCapacityReserved == 1 && assurance.idempotencyMappingCommitted == 1
    && assurance.originGrantSnapshotCommitted == (if family.isUplink then 1 else 0)
    && assurance.remoteCapacityReserved == 0 && assurance.routeFeasibilityVerified == 0
    && assurance.receiveWindowReserved == 0 && assurance.bearerCapacityReserved == 0
    && assurance.airtimeReserved == 0 && assurance.compliancePermitIssued == 0
    && assurance.reservedZero == 0

def initialSnapshotAndManifestAreValid (writeSet : WriteSet) : Bool :=
  let snapshot := writeSet.initialFamilySnapshot
  let manifest := writeSet.reservationManifest
  snapshot.attemptsInCycle == 0 && snapshot.cumulativeAttempts == 0
    && snapshot.reason == .none && snapshot.highestEvidence == 0 && snapshot.latestEvidence == 0
    && snapshot.effectCertainty == 0 && snapshot.dispatchFenced == 0
    && idIsZero snapshot.currentAttemptId
    && snapshot.timerPresent == 0 && snapshot.cancelState == 0 && snapshot.deliveryPossible == 0
    && snapshot.eventParkCause == 0 && snapshot.evidenceSummaryLatest == 0
    && snapshot.evidenceSummaryLate == 0 && snapshot.evidenceRawUsed == 0
    && manifest.evidenceSummaryUsed == 1
    && manifest.evidenceRawReserved == writeSet.plan.registeredService.maxEvidencePerTarget
    && (if writeSet.plan.family.isUplink then
          snapshot.familyState == .eventHeldReady && snapshot.deadlineVerdict == .notApplicable
            && snapshot.retryCycleId == 1 && snapshot.spoolRevision == 1
            && manifest.commandCancelSlots == 0 && manifest.commandCancelOutboxMetadataSlots == 0
            && manifest.eventResumeSlots == maxEventResumeOperations
            && manifest.eventResumeSlotBytes == 256
            && manifest.eventDiscardSlots == 1 && manifest.eventDiscardSlotBytes == 512
            && manifest.eventManagementTotalBytes == eventManagementReservationBytes
        else
          snapshot.familyState == .desiredTargetReady && snapshot.deadlineVerdict == .pending
            && snapshot.retryCycleId == 0 && snapshot.spoolRevision == 0
            && manifest.commandCancelSlots == 1 && manifest.commandCancelOutboxMetadataSlots == 1
            && manifest.eventResumeSlots == 0 && manifest.eventResumeSlotBytes == 0
            && manifest.eventDiscardSlots == 0 && manifest.eventDiscardSlotBytes == 0
            && manifest.eventManagementTotalBytes == 0)

/-- The event identifier of a record: the plan's for an event fact, zero for the other uplink
families. -/
def eventIdMatches (eventId : Id128) (plan : AdmissionPlan) : Bool :=
  if plan.family = .eventFact then eventId == plan.eventId
  else idIsZero eventId && idIsZero plan.eventId

/-- The family part of `write_set_is_valid`. -/
def familyRecordsAreValid (writeSet : WriteSet) : Bool :=
  let plan := writeSet.plan
  let event := writeSet.eventMapping
  let grant := writeSet.grantSnapshot
  if plan.family.isUplink then
    writeSet.eventMappingPresent == 1 && writeSet.grantSnapshotPresent == 1
      && writeSet.initialQueueKind == .eventSpool && writeSet.eventSpoolRevision == 1
      && writeSet.commandCancelReservationPresent == 0
      && writeSet.eventManagementReservationPresent == 1
      && mappingScopeMatchesPlan event.scope plan
      && eventIdMatches event.eventId plan
      && event.transactionId == writeSet.transactionId
      && event.canonicalSubmissionDigest == plan.canonicalSubmissionDigest
      && event.callerKey == plan.idempotencyKey
      && grant.decision == plan.grant && grant.source == plan.source
      && grant.service == plan.service && grant.target == plan.target
      && eventIdMatches grant.eventId plan
      && grant.contentDigest == plan.contentDigest
      && grant.requiredEvidence == plan.requiredEvidence
      && grant.payloadLength == plan.payloadLength
  else
    writeSet.eventMappingPresent == 0 && writeSet.grantSnapshotPresent == 0
      && writeSet.initialQueueKind == .commandOutbox && writeSet.eventSpoolRevision == 0
      && writeSet.commandCancelReservationPresent == 1
      && writeSet.eventManagementReservationPresent == 0
      && event == {} && grant == {}

def writeSetIsValid (writeSet : WriteSet) : Bool :=
  let plan := writeSet.plan
  writeSet.durability == .full && planIsValid plan && !idIsZero writeSet.transactionId
    && writeSet.recordMask == expectedRecordMask plan.family
    && payloadIsValid writeSet.payload plan
    && descriptorContractIsValid writeSet.descriptor.contract plan.family
    && writeSet.descriptor.registeredService == plan.registeredService
    && mappingScopeMatchesPlan writeSet.callerMapping.scope plan
    && writeSet.callerMapping.transactionId == writeSet.transactionId
    && writeSet.callerMapping.canonicalSubmissionDigest == plan.canonicalSubmissionDigest
    && writeSet.callerMapping.callerKey == plan.idempotencyKey
    && writeSet.initialTransactionState == txnReady && writeSet.initialOutcome == 0
    && writeSet.initialReason == .none && writeSet.transactionRecordRevision == 1
    && writeSet.committedQuota == plan.quota
    && decide (writeSet.committedResourceLedger = plan.resources.committedLedger)
    && initialSnapshotAndManifestAreValid writeSet
    && assuranceIsValid writeSet.assurance plan.family
    && familyRecordsAreValid writeSet

/-! ### The commit -/

/-- `ninlil_model_admission_commit_state_t`. -/
inductive CommitState
  | ok
  | noSpace
  | busy
  | ioError
  | corrupt
  | unknown
  | unlisted (code : ℕ)
  deriving DecidableEq

/-- `ninlil_model_admission_ownership_t`. -/
inductive Ownership
  | notEstablished
  | established
  | unresolved
  deriving DecidableEq

/-- `ninlil_model_admission_recovery_action_t`. -/
inductive RecoveryAction
  | none
  | fenceAndReopenJournal
  deriving DecidableEq

/-- `ninlil_model_admission_recovery_probe_t`. -/
structure RecoveryProbe where
  transactionId : Id128 := 0
  mappingScope : MappingScope := {}
  callerKey : IdempotencyKey := {}
  canonicalSubmissionDigest : Digest := {}
  eventIdPresent : UInt32 := 0
  eventId : Id128 := 0
  deriving DecidableEq

/-- `ninlil_model_admission_commit_result_t`; a write set is there exactly when its `present`
flag is set. -/
structure CommitResult where
  apiStatus : Status
  publicResult : SubmissionResult
  ownership : Ownership := .notEstablished
  recoveryRequired : UInt32 := 0
  recoveryAction : RecoveryAction := .none
  journalOperationId : Id128 := 0
  healthAddCause : Reason := .none
  recoveryProbe : Option RecoveryProbe := none
  stagedWriteSetForReconcile : Option WriteSet := none
  durableWriteSet : Option WriteSet := none

def makeRecoveryProbe (writeSet : WriteSet) : RecoveryProbe where
  transactionId := writeSet.transactionId
  mappingScope := writeSet.callerMapping.scope
  callerKey := writeSet.callerMapping.callerKey
  canonicalSubmissionDigest := writeSet.callerMapping.canonicalSubmissionDigest
  eventIdPresent := if writeSet.plan.family = .eventFact then 1 else 0
  eventId := if writeSet.plan.family = .eventFact then writeSet.plan.eventId else 0

/-- `set_api_error_result`. -/
def apiErrorResult (status : Status) : CommitResult where
  apiStatus := status
  publicResult := initializePublicResult false

/-- `ninlil_model_reduce_admission_commit`. -/
def reduceAdmissionCommit (writeSet : WriteSet) (commitState : CommitState) :
    Except Status CommitResult :=
  if !writeSetIsValid writeSet then .error .invalidArgument
  else
    match commitState with
    | .ok =>
      .ok
        { apiStatus := .ok
          publicResult :=
            { initializePublicResult true with
              kind := .admittedReady
              transactionId := writeSet.transactionId
              canonicalSubmissionDigest := writeSet.plan.canonicalSubmissionDigest
              assurance := writeSet.assurance }
          ownership := .established
          durableWriteSet := some writeSet }
    | .noSpace =>
      .ok
        { apiStatus := .ok
          publicResult :=
            { initializePublicResult true with
              kind := .rejected
              reason := .capacityExhausted
              retryGuidance := .sameAfter } }
    | .busy => .ok (apiErrorResult .wouldBlock)
    | .ioError => .ok { apiErrorResult .storage with healthAddCause := .storageIo }
    | .corrupt => .ok { apiErrorResult .storageCorrupt with healthAddCause := .storageIo }
    | .unknown =>
      .ok
        { apiErrorResult .storageCommitUnknown with
          ownership := .unresolved
          recoveryRequired := 1
          recoveryAction := .fenceAndReopenJournal
          journalOperationId := writeSet.transactionId
          healthAddCause := .storageCommitUnknown
          recoveryProbe := some (makeRecoveryProbe writeSet)
          stagedWriteSetForReconcile := some writeSet }
    | .unlisted _ => .error .invalidArgument

end Admission
end Ninlil.Submission
