import Ninlil.Lib.Guard
import Ninlil.Submission.Types

/-!
# Submission preflight

`submission_preflight.c`: the ordered checks a submission passes before a transaction identifier
is drawn for it.  A stage either continues, or leaves (`Exit`): `fail` is a non-zero return
status with a zeroed result, `stop` a result returned with status zero.

The order of the stages is that of `ninlil_model_submission_preflight`: semantic guards,
idempotency, clock and deadlines, sequences, origin authority, quota and grant, resources.
-/

namespace Ninlil.Submission
namespace Preflight

open Resource Guard

/-! ### Shapes -/

/-- `text_id_grammar_t`. -/
inductive TextIdGrammar
  | namespaceId
  | serviceOrSchema
  deriving DecidableEq

def textIdIsValid (textId : TextId) (grammar : TextIdGrammar) : Bool :=
  let bytes := textId.bytes.toList
  let length := textId.length.toNat
  if length = 0 ∨ length > 63 ∨ !asciiIsLowerOrDigit (bytes.headD 0) then false
  else
    ((bytes.take length).drop 1).all (fun value =>
        !(!asciiIsLowerOrDigit value && value != 46 && value != 45
          && (grammar != .serviceOrSchema || value != 95)))
      && bytesAreZero (bytes.drop length)

def presenceShapeIsValid (flags : UInt32) (deviceId installationId siteId : Id128)
    (bindingEpoch membershipEpoch : UInt64) : Bool :=
  if flags &&& ~~~allowedPresenceFlags != 0 then false
  else
    let hasDevice := flags &&& 1 != 0
    let hasInstallation := flags &&& 2 != 0
    let hasSite := flags &&& 4 != 0
    (idIsZero deviceId == !hasDevice) && (idIsZero installationId == !hasInstallation)
      && (idIsZero siteId == !hasSite)
      && ((bindingEpoch != 0) == (hasDevice || hasInstallation))
      && ((membershipEpoch != 0) == hasSite)

def localIdentityIsValid (identity : LocalIdentity) : Bool :=
  headerIsCurrent identity.abiVersion identity.structSize localIdentitySize
    && identity.reservedZero == 0
    && presenceShapeIsValid identity.flags identity.deviceId identity.installationId
      identity.siteDomainId identity.bindingEpoch identity.membershipEpoch

def concreteTargetIsValid (target : ConcreteTarget) : Bool :=
  headerIsCurrent target.abiVersion target.structSize concreteTargetSize
    && !idIsZero target.targetRuntimeId && !idIsZero target.targetApplicationInstanceId
    && target.reservedZero == 0
    && presenceShapeIsValid target.flags target.deviceId target.installationId
      target.siteDomainId target.bindingEpoch target.membershipEpoch

def assuranceIsValid (assurance : AdmissionAssurance) (family : Family) : Bool :=
  headerIsCurrent assurance.abiVersion assurance.structSize admissionAssuranceSize.toNat
    && assurance.assuranceProfile == assuranceFoundationM1aLocal
    && assurance.submissionValidated == 1 && assurance.targetRosterFixed == 1
    && assurance.descriptorSnapshotFixed == 1 && assurance.localJournalCommitted == 1
    && assurance.localCapacityReserved == 1 && assurance.idempotencyMappingCommitted == 1
    && assurance.originGrantSnapshotCommitted == (if family.isUplink then 1 else 0)
    && assurance.remoteCapacityReserved == 0 && assurance.routeFeasibilityVerified == 0
    && assurance.receiveWindowReserved == 0 && assurance.bearerCapacityReserved == 0
    && assurance.airtimeReserved == 0 && assurance.compliancePermitIssued == 0
    && assurance.reservedZero == 0

def existingPairIsValid (existing : ExistingAdmission) : Bool :=
  !idIsZero existing.transactionId && digestIsValid existing.canonicalSubmissionDigest

def serviceShapeIsValid (service : Service) : Bool :=
  headerIsCurrent service.source.abiVersion service.source.structSize partySize
    && headerIsCurrent service.identity.abiVersion service.identity.structSize serviceIdentitySize
    && !idIsZero service.source.runtimeId && !idIsZero service.source.applicationInstanceId
    && localIdentityIsValid service.source.localIdentity
    && textIdIsValid service.identity.namespaceId .namespaceId
    && textIdIsValid service.identity.serviceId .serviceOrSchema
    && textIdIsValid service.identity.schemaId .serviceOrSchema
    && service.identity.descriptorRevision != 0
    && digestIsValid service.identity.descriptorDigest
    && service.identity.family == service.family
    && service.identity.schemaMajor == service.schemaMajor
    && service.schemaMinorMin ≤ service.identity.schemaMinor
    && service.identity.schemaMinor ≤ service.schemaMinorMax
    && service.schemaMinorMin ≤ service.schemaMinorMax
    && service.reservedZeroU16 == 0
    && service.supportedEvidenceMask != 0
    && service.supportedEvidenceMask &&& ~~~allowedEvidence == 0
    && service.logicalPayloadLimit != 0 && service.inflightLimit != 0
    && service.admissionWindowMs != 0
    && service.admissionWindowMs.toUInt64 ≤ maxRetryDelayMs
    && service.maxAdmissionsPerWindow != 0
    && service.logicalPayloadLimit ≤ service.maxPayloadBytesPerWindow
    && service.maxEvidencePerTarget != 0 && service.maxEvidencePerTarget ≤ 8
    && (if service.family.isDownlink then
          service.minimumDeadlineMs > 0
            && service.minimumDeadlineMs ≤ service.maximumDeadlineMs
            && service.maximumDeadlineMs < noDeadline
        else
          service.minimumDeadlineMs == noDeadline && service.maximumDeadlineMs == noDeadline
            && service.maximumEvidenceGraceMs == 0)

def submissionIdentityShapeIsValid (input : PreflightInput) : Bool :=
  let submission := input.submission
  digestIsValid submission.contentDigest && digestIsValid submission.canonicalSubmissionDigest
    && (if input.service.family.isDownlink || input.service.family == .latestState
          || input.service.family == .measurement then
          idIsZero submission.eventId && submission.generation != 0
        else !idIsZero submission.eventId && submission.generation == 0)

def idempotencyKeyIsValid (key : IdempotencyKey) : Bool :=
  let length := key.length.toNat
  if length = 0 ∨ length > 64 then false else bytesAreZero (key.bytes.toList.drop length)

/-! ### Results -/

/-- How a stage leaves the reducer. -/
inductive Exit
  | fail (status : Status)
  | stop (result : PreflightResult)

def setApiError (status : Status) : PreflightResult where
  action := .terminal
  apiStatus := status
  publicResult := initializePublicResult false

def defaultGuidance : Reason → RetryGuidance
  | .targetCountUnsupported | .invalidSchema | .invalidPayloadLength | .deadlineInvalid
  | .eventfactDeadlineUnsupported | .evidenceUnsupported | .idempotencyConflict
  | .targetUnauthorized | .unsupportedDirection => .modified
  | .grantInvalid | .grantExpired | .clockUncertain | .counterExhausted => .operatorAction
  | .capacityExhausted | .grantLimitExceeded | .rateExhausted => .sameAfter
  | _ => .never

def setRejectedWithGuidance (reason : Reason) (guidance : RetryGuidance) (delay : UInt64) :
    PreflightResult where
  action := .terminal
  apiStatus := .ok
  publicResult :=
    { initializePublicResult true with
      kind := .rejected
      reason := reason
      retryGuidance := guidance
      retryDelayMs := delay }

def setRejected (reason : Reason) : PreflightResult :=
  setRejectedWithGuidance reason (defaultGuidance reason) 0

def setAlready (existing : ExistingAdmission) : PreflightResult where
  action := .terminal
  apiStatus := .ok
  publicResult :=
    { initializePublicResult true with
      kind := .alreadyAdmitted
      transactionId := existing.transactionId
      canonicalSubmissionDigest := existing.canonicalSubmissionDigest
      assurance := existing.assurance }

def setConflict (existing : ExistingAdmission) : PreflightResult where
  action := .terminal
  apiStatus := .ok
  publicResult :=
    { initializePublicResult true with
      kind := .idempotencyConflict
      reason := .idempotencyConflict
      retryGuidance := .modified
      transactionId := existing.transactionId
      canonicalSubmissionDigest := existing.canonicalSubmissionDigest }

/-! ### Idempotency -/

def mappingFailureStatusIsValid (status : Status) : Bool :=
  status == .wouldBlock || status == .storage || status == .storageCorrupt
    || status == .storageCommitUnknown

def mappingFactShapeIsValid (mapping : MappingFact) : Bool :=
  match mapping.state with
  | .unknown _ => false
  | .storageFailure =>
    mapping.recordVerified == 0 && mappingFailureStatusIsValid mapping.failureStatus
  | .absent => mapping.failureStatus == .ok && mapping.recordVerified == 0
  | .matched | .mismatch =>
    mapping.failureStatus == .ok && mapping.recordVerified == 1
      && existingPairIsValid mapping.existing

/-- Report the existing admission, if its assurance record is well formed. -/
def alreadyExit (family : Family) (existing : ExistingAdmission) : Except Exit Unit :=
  if assuranceIsValid existing.assurance family then .error (.stop (setAlready existing))
  else .error (.fail .invalidArgument)

/-- A match must carry the digest of the submission it was looked up for. -/
def matchAgrees (fact : MappingFact) (submission : SemanticSubmission) : Prop :=
  fact.state = .matched →
    fact.existing.canonicalSubmissionDigest = submission.canonicalSubmissionDigest

instance (fact : MappingFact) (submission : SemanticSubmission) :
    Decidable (matchAgrees fact submission) :=
  inferInstanceAs (Decidable (_ → _))

/-- `reduce_idempotency`; it continues only for a submission that is new. -/
def reduceIdempotency (input : PreflightInput) : Except Exit Unit := do
  let family := input.service.family
  let key := input.callerKeyMapping
  let event := input.eventIdMapping
  require (mappingFactShapeIsValid key = true) (.fail .invalidArgument)
  require (matchAgrees key input.submission) (.fail .invalidArgument)
  require (key.state ≠ .storageFailure) (.stop (setApiError key.failureStatus))
  if family.isDownlink then
    require (event.state = .absent) (.fail .invalidArgument)
    if key.state = .absent then .ok ()
    else if key.state = .matched then alreadyExit family key.existing
    else .error (.stop (setConflict key.existing))
  else
    require (mappingFactShapeIsValid event = true) (.fail .invalidArgument)
    require (matchAgrees event input.submission) (.fail .invalidArgument)
    require (event.state ≠ .storageFailure) (.stop (setApiError event.failureStatus))
    if key.state = .absent ∧ event.state = .absent then .ok ()
    else if key.state = .matched ∧ event.state = .matched
        ∧ key.existing.transactionId = event.existing.transactionId
        ∧ key.existing.canonicalSubmissionDigest = event.existing.canonicalSubmissionDigest then
      alreadyExit family key.existing
    -- the caller-key projection wins whenever that mapping exists
    else if key.state ≠ .absent then .error (.stop (setConflict key.existing))
    else .error (.stop (setConflict event.existing))

/-! ### Origin authority -/

def denyTupleIsValid (authority : AuthorityResult) : Bool :=
  match authority.denyReason with
  | .grantLimitExceeded | .rateExhausted =>
    authority.denyGuidance == .sameAfter && authority.denyRetryDelayMs ≤ maxRetryDelayMs
  | .targetUnauthorized =>
    authority.denyGuidance == .modified && authority.denyRetryDelayMs == 0
  | .grantInvalid | .grantExpired | .clockUncertain =>
    authority.denyGuidance == .operatorAction && authority.denyRetryDelayMs == 0
  | _ => false

def grantIsValid (input : PreflightInput) : Bool :=
  let grant := input.authority.grant
  !idIsZero grant.providerId && grant.providerRevision != 0
    && digestIsValid grant.decisionDigest
    && !idIsZero grant.grantId && grant.grantRevision != 0
    && grant.clockEpochId == input.clock.clockEpochId
    && grant.evaluatedAtMs == input.clock.nowMs
    && grant.validFromMs ≤ grant.evaluatedAtMs
    && grant.evaluatedAtMs < grant.expiresAtMs
    && grant.retryDelayMs == 0
    && grant.maxPayloadBytes > 0 && grant.maxActiveSpoolCount > 0 && grant.maxActiveSpoolBytes > 0
    && grant.rateWindowMs == input.service.admissionWindowMs
    && grant.maxAdmissionsPerWindow > 0
    && grant.maxAdmissionsPerWindow ≤ input.service.maxAdmissionsPerWindow
    && grant.maxAttemptsPerRetryCycle == attemptsPerRetryCycle

def grantIsZero (grant : GrantSnapshot) : Bool := grant == {}

/-- `deny_provenance_is_valid`: who decided, and when, is filled in; the grant is not. -/
def denyProvenanceIsValid (input : PreflightInput) : Bool :=
  let decision := input.authority.grant
  !idIsZero decision.providerId && decision.providerRevision != 0
    && digestIsValid decision.decisionDigest
    && decision.clockEpochId == input.clock.clockEpochId
    && decision.evaluatedAtMs == input.clock.nowMs
    && idIsZero decision.grantId && decision.grantRevision == 0
    && decision.validFromMs == 0 && decision.expiresAtMs == 0 && decision.retryDelayMs == 0
    && decision.maxPayloadBytes == 0 && decision.maxActiveSpoolCount == 0
    && decision.maxActiveSpoolBytes == 0 && decision.rateWindowMs == 0
    && decision.maxAdmissionsPerWindow == 0 && decision.maxAttemptsPerRetryCycle == 0

/-- No deny tuple has been filled in. -/
def denyTupleIsEmpty (authority : AuthorityResult) : Bool :=
  authority.denyReason == .none && authority.denyGuidance == .never
    && authority.denyRetryDelayMs == 0

/-- `reduce_authority`; it continues only when admission is allowed. -/
def reduceAuthority (input : PreflightInput) : Except Exit Unit :=
  if input.service.family.isDownlink then
    require (input.authority.fact = .notApplicable) (.fail .invalidArgument)
  else if !input.service.family.isUplink then .error (.fail .invalidArgument)
  else
    match input.authority.fact with
    | .allow =>
      require (denyTupleIsEmpty input.authority = true ∧ grantIsValid input = true)
        (.stop (setApiError .degraded))
    | .deny =>
      if denyTupleIsValid input.authority && denyProvenanceIsValid input then
        .error (.stop (setRejectedWithGuidance input.authority.denyReason
          input.authority.denyGuidance input.authority.denyRetryDelayMs))
      else .error (.stop (setApiError .degraded))
    | .temporaryFailure =>
      if denyTupleIsEmpty input.authority && grantIsZero input.authority.grant then
        .error (.stop (setApiError .wouldBlock))
      else .error (.stop (setApiError .degraded))
    | .permanentOrInvalid => .error (.stop (setApiError .degraded))
    | .notApplicable | .unknown _ => .error (.fail .invalidArgument)

/-! ### Resources -/

def checkedIncrement (value : UInt64) : Option UInt64 :=
  if value = uint64Max then none else some (value + 1)

/-- `checked_add`, its guard compared on natural numbers. -/
def checkedAdd (left right : UInt64) : Option UInt64 :=
  if left.toNat > uint64Max.toNat - right.toNat then none else some (left + right)

/-- `add_request`: append a request, in increasing kinds; a zero amount is skipped. -/
def addRequest (requests : List BatchRequest) (kind : UInt32) (amount : UInt64) :
    Option (List BatchRequest) :=
  if amount = 0 then some requests
  else if requests.length ≥ kindCount ∨ ∃ last ∈ requests.getLast?, last.kind ≥ kind then none
  else some (requests ++ [{ kind := kind, amount := amount }])

/-- The family's own requests: outbox bytes, or spool count and spool bytes. -/
def addFamilyRequests (family : Family) (requests : List BatchRequest)
    (outboxBytes spoolBytes : UInt64) : Option (List BatchRequest) :=
  if family.isDownlink then addRequest requests kindOutboxBytes outboxBytes
  else if family.isUplink then do
    let requests ← addRequest requests kindEventSpoolCount 1
    addRequest requests kindEventSpoolBytes spoolBytes
  else some requests

/-- One half of `build_resource_requests`. -/
def buildRequests (family : Family) (targetCount spoolBytes outboxBytes evidence : UInt64) :
    Option (List BatchRequest) := do
  let requests ← addRequest [] kindTransaction 1
  let requests ← addRequest requests kindTarget targetCount
  let requests ← addFamilyRequests family requests outboxBytes spoolBytes
  addRequest requests kindEvidence evidence

/-- `build_resource_requests`: the reserve requests and the commit requests. -/
def buildResourceRequests (input : PreflightInput) :
    Option (List BatchRequest × List BatchRequest) := do
  let count := input.submission.targetCount.toUInt64
  let payload := input.submission.payloadLength.toUInt64
  let evidence := (input.service.maxEvidencePerTarget.toUInt64 + 1) * count
  let reserve ← buildRequests input.service.family count
    (payload + eventManagementReservationBytes) payload evidence
  let commit ← buildRequests input.service.family count payload payload count
  return (reserve, commit)

def evaluateResources (input : PreflightInput) : Except Exit ReservationPlan := do
  let requests ← orExit (buildResourceRequests input) (.fail .invalidArgument)
  match capacityBatchTransition input.resourceLedger
      (batchOf .reserveOrBlock requests.1) with
  | .error status => .error (.fail status)
  | .ok reserved =>
    match reserved.action with
    | .blockSetRequired =>
      .error (.stop
        { action := .capacityBlockCommitRequired
          apiStatus := .ok
          capacityBlock :=
            { nextLedger := reserved.next
              failingKind := reserved.failingKind
              failingRequestOrdinal := reserved.failingRequestOrdinal } })
    | .alreadyBlocked => .error (.stop (setRejected .capacityExhausted))
    | .counterExhausted => .error (.stop (setRejected .counterExhausted))
    | .allReserved =>
      match capacityBatchTransition reserved.next (batchOf .commitReserved requests.2) with
      | .error status => .error (.fail status)
      | .ok committed =>
        if committed.action = .allCommitted then
          .ok
            { reserveRequests := requests.1
              commitRequests := requests.2
              reservedLedger := reserved.next
              committedLedger := committed.next }
        else .error (.fail .invalidState)
    | _ => .error (.fail .invalidState)

/-! ### Quota and grant -/

/-- The spool part of `evaluate_quota_and_grant`: the next spool count and spool bytes. -/
def evaluateGrant (input : PreflightInput) (nextAdmissions windowRemaining : UInt64) :
    Except Exit (UInt64 × UInt64) := do
  let grant := input.authority.grant
  let limitExceeded := Exit.stop (setRejected .grantLimitExceeded)
  require (input.submission.payloadLength ≤ grant.maxPayloadBytes) limitExceeded
  let spoolCount ← orExit (checkedIncrement input.eventGrantUsage.activeSpoolCount) limitExceeded
  require (spoolCount ≤ grant.maxActiveSpoolCount.toUInt64) limitExceeded
  let added ← orExit
    (checkedAdd input.submission.payloadLength.toUInt64 eventManagementReservationBytes)
    limitExceeded
  let spoolBytes ← orExit (checkedAdd input.eventGrantUsage.activeSpoolBytes added) limitExceeded
  require (spoolBytes ≤ grant.maxActiveSpoolBytes) limitExceeded
  require (nextAdmissions ≤ grant.maxAdmissionsPerWindow.toUInt64)
    (.stop (setRejectedWithGuidance .rateExhausted .sameAfter windowRemaining))
  return (spoolCount, spoolBytes)

/-- Only the spool families have a grant to respect. -/
def evaluateSpool (input : PreflightInput) (nextAdmissions windowRemaining : UInt64) :
    Except Exit (UInt64 × UInt64) :=
  if input.service.family.isUplink then evaluateGrant input nextAdmissions windowRemaining
  else .ok (0, 0)

def evaluateQuotaAndGrant (input : PreflightInput) : Except Exit QuotaCommitPlan := do
  let quota := input.quota
  let service := input.service
  let now := input.clock.nowMs
  let window := service.admissionWindowMs.toUInt64
  require (quota.windowIsCurrent ≤ 1) (.fail .invalidArgument)
  let admissions := if quota.windowIsCurrent ≠ 0 then quota.admissionsInWindow else 0
  let bytes := if quota.windowIsCurrent ≠ 0 then quota.payloadBytesInWindow else 0
  let inflight ← orExit (checkedIncrement quota.inflightCount)
    (.stop (setRejected .capacityExhausted))
  require (inflight ≤ service.inflightLimit.toUInt64) (.stop (setRejected .capacityExhausted))
  let windowRemaining := window - now % window
  let rateExhausted :=
    Exit.stop (setRejectedWithGuidance .rateExhausted .sameAfter windowRemaining)
  let nextAdmissions ← orExit (checkedIncrement admissions) rateExhausted
  require (nextAdmissions ≤ service.maxAdmissionsPerWindow.toUInt64) rateExhausted
  let nextBytes ← orExit (checkedAdd bytes input.submission.payloadLength.toUInt64) rateExhausted
  require (nextBytes ≤ service.maxPayloadBytesPerWindow.toUInt64) rateExhausted
  let spool ← evaluateSpool input nextAdmissions windowRemaining
  .ok
    { clockEpochId := input.clock.clockEpochId
      windowStartedAtMs := now - now % window
      nextInflightCount := inflight
      nextAdmissionsInWindow := nextAdmissions
      nextPayloadBytesInWindow := nextBytes
      nextEventActiveSpoolCount := spool.1
      nextEventActiveSpoolBytes := spool.2 }

/-! ### The reducer -/

/-- The target at an index, with the single-target fallback to `submission.target`. -/
def effectiveTarget (submission : SemanticSubmission) (i : Fin 4) : ConcreteTarget :=
  if submission.targetCount = 1 ∧ concreteTargetIsValid (submission.targets i) = false then
    submission.target
  else submission.targets i

/-- The target loop of the reducer. -/
def targetsAreValid (submission : SemanticSubmission) : Prop :=
  ∀ i : Fin 4, i.val < submission.targetCount.toNat →
    concreteTargetIsValid (effectiveTarget submission i) = true

instance (submission : SemanticSubmission) : Decidable (targetsAreValid submission) :=
  inferInstanceAs (Decidable (∀ _, _ → _))

def rejected (reason : Reason) : Exit := .stop (setRejected reason)

/-- Whether the relative deadlines fit the service (downlink families). -/
def deadlinesFit (service : Service) (submission : SemanticSubmission) : Prop :=
  submission.effectDeadlineMs ≠ noDeadline
    ∧ service.minimumDeadlineMs ≤ submission.effectDeadlineMs
    ∧ submission.effectDeadlineMs ≤ service.maximumDeadlineMs
    ∧ submission.evidenceGraceMs ≤ service.maximumEvidenceGraceMs

instance (service : Service) (submission : SemanticSubmission) :
    Decidable (deadlinesFit service submission) :=
  inferInstanceAs (Decidable (_ ∧ _ ∧ _ ∧ _))

/-- The deadline guard: downlink families must have deadlines, the others must not. -/
def deadlineGuard (service : Service) (submission : SemanticSubmission) : Except Exit Unit :=
  if service.family.isDownlink then
    require (deadlinesFit service submission) (rejected .deadlineInvalid)
  else
    require (submission.effectDeadlineMs = noDeadline ∧ submission.evidenceGraceMs = 0)
      (rejected .eventfactDeadlineUnsupported)

/-- The guards before any fact is looked at. -/
def semanticGuards (input : PreflightInput) : Except Exit Unit := do
  let service := input.service
  let submission := input.submission
  require (service.family.isAdmitSupported = true
    ∧ (service.localSide = .sender ∨ service.localSide = .receiver)) (.fail .invalidArgument)
  require (service.localSide ≠ .receiver) (rejected .unsupportedDirection)
  require (serviceShapeIsValid service = true) (.fail .invalidArgument)
  require (submission.targetCount ≠ 0 ∧ submission.targetCount ≤ maxExactTargets)
    (rejected .targetCountUnsupported)
  require (service.family = .desiredState ∨ submission.targetCount = 1)
    (rejected .targetCountUnsupported)
  require (submission.schemaMajor = service.schemaMajor
      ∧ service.schemaMinorMin ≤ submission.schemaMinor
      ∧ submission.schemaMinor ≤ service.schemaMinorMax
      ∧ service.identity.schemaMinor = submission.schemaMinor)
    (rejected .invalidSchema)
  require (submission.payloadLength ≤ service.logicalPayloadLimit)
    (rejected .invalidPayloadLength)
  require (submission.contentDigestMatches ≤ 1) (.fail .invalidArgument)
  require (submission.contentDigestMatches ≠ 0) (.stop (setApiError .invalidArgument))
  require (targetsAreValid submission) (.fail .invalidArgument)
  require (submissionIdentityShapeIsValid input = true) (.fail .invalidArgument)
  deadlineGuard service submission
  require (1 ≤ submission.requiredEvidence ∧ submission.requiredEvidence ≤ 4
      ∧ service.supportedEvidenceMask &&& evidenceMask submission.requiredEvidence ≠ 0)
    (rejected .evidenceUnsupported)
  require (idempotencyKeyIsValid submission.idempotencyKey = true) (.fail .invalidArgument)

def checkClock (clock : ClockFact) : Except Exit Unit :=
  match clock.state with
  | .trusted => require (idIsZero clock.clockEpochId = false) (.stop (setApiError .degraded))
  | .temporaryOrUncertain => .error (.stop (setApiError .clockUncertain))
  | .permanentOrInvalid => .error (.stop (setApiError .degraded))
  | .unknown _ => .error (.fail .invalidArgument)

/-- The absolute effect deadline and evidence close of a submission. -/
def absoluteDeadlines (input : PreflightInput) : Except Exit (UInt64 × UInt64) :=
  if input.service.family.isDownlink then do
    let effect ← orExit (checkedAdd input.clock.nowMs input.submission.effectDeadlineMs)
      (rejected .deadlineInvalid)
    let close ← orExit (checkedAdd effect input.submission.evidenceGraceMs)
      (rejected .deadlineInvalid)
    return (effect, close)
  else .ok (noDeadline, noDeadline)

/-- The targets copied into the plan; the slots behind the count stay zero. -/
def planTargets (submission : SemanticSubmission) (i : Fin 4) : ConcreteTarget :=
  if submission.targetCount = 1 ∧ concreteTargetIsValid (submission.targets 0) = false then
    if i = 0 then submission.target else {}
  else if i.val < submission.targetCount.toNat then submission.targets i else {}

def fillAdmissionPlan (input : PreflightInput) (transactionSequence ownerSequence : UInt64)
    (deadlines : UInt64 × UInt64) (quota : QuotaCommitPlan) (resources : ReservationPlan) :
    AdmissionPlan where
  family := input.service.family
  registeredService := input.service
  source := input.service.source
  target := input.submission.target
  targetCount := input.submission.targetCount
  targets := planTargets input.submission
  service := input.service.identity
  idempotencyKey := input.submission.idempotencyKey
  contentDigest := input.submission.contentDigest
  canonicalSubmissionDigest := input.submission.canonicalSubmissionDigest
  eventId := input.submission.eventId
  generation := input.submission.generation
  requiredEvidence := input.submission.requiredEvidence
  payloadLength := input.submission.payloadLength
  transactionSequence := transactionSequence
  schedulerOwnerSequence := ownerSequence
  admissionClockEpochId := input.clock.clockEpochId
  admittedAtMs := input.clock.nowMs
  deadlineClockEpochId :=
    if input.service.family.isDownlink then input.clock.clockEpochId else 0
  absoluteEffectDeadlineMs := deadlines.1
  absoluteEvidenceCloseMs := deadlines.2
  quota := quota
  resources := resources
  grant := if input.service.family.isUplink then input.authority.grant else {}

/-- The stages in order, down to the admission plan. -/
def admissionPlan (input : PreflightInput) : Except Exit AdmissionPlan := do
  semanticGuards input
  reduceIdempotency input
  checkClock input.clock
  let deadlines ← absoluteDeadlines input
  let transactionSequence ← orExit (checkedIncrement input.lastTransactionSequence)
    (rejected .counterExhausted)
  let ownerSequence ← orExit (checkedIncrement input.lastSchedulerOwnerSequence)
    (rejected .counterExhausted)
  reduceAuthority input
  let quota ← evaluateQuotaAndGrant input
  let resources ← evaluateResources input
  return fillAdmissionPlan input transactionSequence ownerSequence deadlines quota resources

/-- `ninlil_model_submission_preflight`. -/
def submissionPreflight (input : PreflightInput) : Except Status PreflightResult :=
  match admissionPlan input with
  | .ok plan => .ok { action := .readyForIdAllocation, apiStatus := .ok, admission := plan }
  | .error (.stop result) => .ok result
  | .error (.fail status) => .error status

end Preflight
end Ninlil.Submission
