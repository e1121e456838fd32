import Ninlil.Resource.Ledger

/-!
# The records of a submission

The pointer-free records that `submission_preflight.h` and `submission_admission.h` pass between
the three reducers: service, submission, facts, admission plan and write set.  Field order and
widths follow the headers.

* identifiers of sixteen bytes and digest bodies of thirty-two are bit vectors, since the code
  only compares them as a whole;
* a record whose fields are all zero is its default value: the `*_is_zero` and `*_equal` helpers
  of the source look at every field, so they are comparisons with `==` here;
* the request arrays of a reservation plan are lists, cut at their count: no function reads
  behind it;
* struct sizes are those of a platform that aligns `uint64_t` to eight bytes.
-/

namespace Ninlil.Submission

open Resource

/-! ### Identifiers -/

/-- `ninlil_id128_t`. -/
abbrev Id128 := BitVec 128

/-- `ninlil_digest256_t`. -/
structure Digest where
  algorithm : UInt16 := 0
  reservedZero : UInt16 := 0
  bytes : BitVec 256 := 0
  deriving DecidableEq

/-- `ninlil_text_id_t`. -/
structure TextId where
  length : UInt8 := 0
  bytes : Vector UInt8 63 := Vector.replicate 63 0
  deriving DecidableEq

/-- `ninlil_model_idempotency_key_t`. -/
structure IdempotencyKey where
  length : UInt8 := 0
  bytes : Vector UInt8 64 := Vector.replicate 64 0
  deriving DecidableEq

/-- `NINLIL_ABI_VERSION`. -/
def abiVersion : UInt16 := 1

/-- `NINLIL_DIGEST_SHA256`. -/
def digestSha256 : UInt16 := 1

/-- `NINLIL_NO_DEADLINE`. -/
def noDeadline : UInt64 := uint64Max

def idIsZero (id : Id128) : Bool := id == 0

def digestIsValid (digest : Digest) : Bool :=
  digest.algorithm == digestSha256 && digest.reservedZero == 0

def bytesAreZero (bytes : List UInt8) : Bool := bytes.all (· == 0)

def headerIsCurrent (version structSize : UInt16) (size : ℕ) : Bool :=
  version == abiVersion && size ≤ structSize.toNat

/-- `ascii_is_lower_or_digit`. -/
def asciiIsLowerOrDigit (value : UInt8) : Bool :=
  (97 ≤ value && value ≤ 122) || (48 ≤ value && value ≤ 57)

/-! ### Families -/

/-- `ninlil_family_t`; `unknown` is a code that is none of the six, zero by default. -/
inductive Family
  | eventFact
  | desiredState
  | latestState
  | measurement
  | transfer
  | config
  | unknown (code : UInt32)
  deriving DecidableEq, Repr

instance : Inhabited Family := ⟨.unknown 0⟩

/-- `ninlil_model_family_is_uplink`, and `family_uses_event_spool`. -/
def Family.isUplink : Family → Bool
  | .eventFact | .latestState | .measurement => true
  | _ => false

/-- `ninlil_model_family_is_downlink`, and `family_uses_outbox`. -/
def Family.isDownlink : Family → Bool
  | .desiredState | .transfer | .config => true
  | _ => false

/-- `ninlil_model_family_is_b5_lab`. -/
def Family.isB5Lab : Family → Bool
  | .latestState | .measurement | .transfer | .config => true
  | _ => false

/-- `ninlil_model_family_is_admit_supported`. -/
def Family.isAdmitSupported (family : Family) : Bool := family.isUplink || family.isDownlink

/-! ### Parties, targets and services -/

/-- `ninlil_local_identity_t`. -/
structure LocalIdentity where
  abiVersion : UInt16 := 0
  structSize : UInt16 := 0
  deviceId : Id128 := 0
  installationId : Id128 := 0
  siteDomainId : Id128 := 0
  bindingEpoch : UInt64 := 0
  membershipEpoch : UInt64 := 0
  flags : UInt32 := 0
  reservedZero : UInt32 := 0
  deriving DecidableEq

/-- `ninlil_party_t`. -/
structure Party where
  abiVersion : UInt16 := 0
  structSize : UInt16 := 0
  runtimeId : Id128 := 0
  applicationInstanceId : Id128 := 0
  localIdentity : LocalIdentity := {}
  deriving DecidableEq

/-- `ninlil_concrete_target_t`. -/
structure ConcreteTarget where
  abiVersion : UInt16 := 0
  structSize : UInt16 := 0
  targetRuntimeId : Id128 := 0
  targetApplicationInstanceId : Id128 := 0
  deviceId : Id128 := 0
  installationId : Id128 := 0
  siteDomainId : Id128 := 0
  bindingEpoch : UInt64 := 0
  membershipEpoch : UInt64 := 0
  flags : UInt32 := 0
  reservedZero : UInt32 := 0
  deriving DecidableEq

/-- `ninlil_service_identity_t`. -/
structure ServiceIdentity where
  abiVersion : UInt16 := 0
  structSize : UInt16 := 0
  namespaceId : TextId := {}
  serviceId : TextId := {}
  schemaId : TextId := {}
  descriptorRevision : UInt64 := 0
  descriptorDigest : Digest := {}
  schemaMajor : UInt16 := 0
  schemaMinor : UInt16 := 0
  family : Family := .unknown 0
  deriving DecidableEq

def localIdentitySize : ℕ := 80
def partySize : ℕ := 120
def concreteTargetSize : ℕ := 112
def serviceIdentitySize : ℕ := 256
def admissionAssuranceSize : UInt16 := 64
def submissionResultSize : UInt16 := 152

/-- `ninlil_model_local_submission_side_t`. -/
inductive LocalSide
  | sender
  | receiver
  | unknown (code : ℕ)
  deriving DecidableEq

/-- `ninlil_model_submission_service_t`. -/
structure Service where
  family : Family := .unknown 0
  localSide : LocalSide := .unknown 0
  source : Party := {}
  identity : ServiceIdentity := {}
  schemaMajor : UInt16 := 0
  schemaMinorMin : UInt16 := 0
  schemaMinorMax : UInt16 := 0
  reservedZeroU16 : UInt16 := 0
  supportedEvidenceMask : UInt32 := 0
  logicalPayloadLimit : UInt32 := 0
  inflightLimit : UInt32 := 0
  admissionWindowMs : UInt32 := 0
  maxAdmissionsPerWindow : UInt32 := 0
  maxPayloadBytesPerWindow : UInt32 := 0
  maxEvidencePerTarget : UInt32 := 0
  minimumDeadlineMs : UInt64 := 0
  maximumDeadlineMs : UInt64 := 0
  maximumEvidenceGraceMs : UInt64 := 0
  deriving DecidableEq

/-- `NINLIL_EVIDENCE_MASK`. -/
def evidenceMask (stage : UInt32) : UInt32 := 1 <<< stage

/-- The four evidence stages `RECEIVED .. VERIFIED` as a mask. -/
def allowedEvidence : UInt32 :=
  evidenceMask 1 ||| evidenceMask 2 ||| evidenceMask 3 ||| evidenceMask 4

/-- `NINLIL_TARGET_HAS_DEVICE | NINLIL_TARGET_HAS_INSTALLATION | NINLIL_TARGET_HAS_SITE`. -/
def allowedPresenceFlags : UInt32 := 7

/-- `NINLIL_M1A_MAX_RETRY_DELAY_MS`. -/
def maxRetryDelayMs : UInt64 := 600000
/-- `NINLIL_FOUNDATION_MAX_EXACT_TARGETS`. -/
def maxExactTargets : UInt32 := 4
/-- `NINLIL_M1A_ATTEMPTS_PER_RETRY_CYCLE`. -/
def attemptsPerRetryCycle : UInt32 := 8
/-- `NINLIL_M1A_EVENT_MANAGEMENT_RESERVATION_BYTES`. -/
def eventManagementReservationBytes : UInt64 := 2560

/-! ### Submissions and facts -/

/-- `ninlil_model_semantic_submission_t`. -/
structure SemanticSubmission where
  schemaMajor : UInt16 := 0
  schemaMinor : UInt16 := 0
  targetCount : UInt32 := 0
  target : ConcreteTarget := {}
  targets : Fin 4 → ConcreteTarget := fun _ => {}
  requiredEvidence : UInt32 := 0
  payloadLength : UInt32 := 0
  contentDigestMatches : UInt32 := 0
  effectDeadlineMs : UInt64 := 0
  evidenceGraceMs : UInt64 := 0
  idempotencyKey : IdempotencyKey := {}
  contentDigest : Digest := {}
  canonicalSubmissionDigest : Digest := {}
  eventId : Id128 := 0
  generation : UInt64 := 0

/-- `ninlil_admission_assurance_t`. -/
structure AdmissionAssurance where
  abiVersion : UInt16 := 0
  structSize : UInt16 := 0
  assuranceProfile : UInt32 := 0
  submissionValidated : UInt32 := 0
  targetRosterFixed : UInt32 := 0
  descriptorSnapshotFixed : UInt32 := 0
  localJournalCommitted : UInt32 := 0
  localCapacityReserved : UInt32 := 0
  idempotencyMappingCommitted : UInt32 := 0
  originGrantSnapshotCommitted : UInt32 := 0
  remoteCapacityReserved : UInt32 := 0
  routeFeasibilityVerified : UInt32 := 0
  receiveWindowReserved : UInt32 := 0
  bearerCapacityReserved : UInt32 := 0
  airtimeReserved : UInt32 := 0
  compliancePermitIssued : UInt32 := 0
  reservedZero : UInt32 := 0
  deriving DecidableEq

/-- `NINLIL_ASSURANCE_FOUNDATION_M1A_LOCAL`. -/
def assuranceFoundationM1aLocal : UInt32 := 1

/-- `ninlil_model_existing_admission_t`. -/
structure ExistingAdmission where
  transactionId : Id128 := 0
  canonicalSubmissionDigest : Digest := {}
  assurance : AdmissionAssurance := {}
  deriving DecidableEq

/-- `ninlil_model_mapping_state_t`. -/
inductive MappingState
  | absent
  | matched
  | mismatch
  | storageFailure
  | unknown (code : ℕ)
  deriving DecidableEq

/-- `ninlil_model_mapping_fact_t`. -/
structure MappingFact where
  state : MappingState
  failureStatus : Status := .ok
  recordVerified : UInt32 := 0
  existing : ExistingAdmission := {}

/-- `ninlil_model_admission_clock_state_t`. -/
inductive ClockState
  | trusted
  | temporaryOrUncertain
  | permanentOrInvalid
  | unknown (code : ℕ)
  deriving DecidableEq

/-- `ninlil_model_admission_clock_fact_t`. -/
structure ClockFact where
  state : ClockState
  clockEpochId : Id128
  nowMs : UInt64

/-- `ninlil_model_origin_grant_snapshot_t`. -/
structure GrantSnapshot where
  providerId : Id128 := 0
  providerRevision : UInt64 := 0
  decisionDigest : Digest := {}
  grantId : Id128 := 0
  grantRevision : UInt64 := 0
  clockEpochId : Id128 := 0
  evaluatedAtMs : UInt64 := 0
  validFromMs : UInt64 := 0
  expiresAtMs : UInt64 := 0
  retryDelayMs : UInt64 := 0
  maxPayloadBytes : UInt32 := 0
  maxActiveSpoolCount : UInt32 := 0
  maxActiveSpoolBytes : UInt64 := 0
  rateWindowMs : UInt32 := 0
  maxAdmissionsPerWindow : UInt32 := 0
  maxAttemptsPerRetryCycle : UInt32 := 0
  deriving DecidableEq

/-- `ninlil_model_origin_authority_fact_t`. -/
inductive AuthorityFact
  | notApplicable
  | allow
  | deny
  | temporaryFailure
  | permanentOrInvalid
  | unknown (code : ℕ)
  deriving DecidableEq

/-- The reasons (`ninlil_reason_t`) that the submission reducers use. -/
inductive Reason
  | none
  | targetCountUnsupported
  | invalidSchema
  | invalidPayloadLength
  | deadlineInvalid
  | eventfactDeadlineUnsupported
  | evidenceUnsupported
  | capacityExhausted
  | idempotencyConflict
  | grantInvalid
  | grantExpired
  | grantLimitExceeded
  | storageIo
  | storageCommitUnknown
  | clockUncertain
  | rateExhausted
  | targetUnauthorized
  | unsupportedDirection
  | counterExhausted
  | outcomeUnknown
  /-- any other reason code -/
  | other (code : UInt32)
  deriving DecidableEq

/-- `ninlil_retry_guidance_t`. -/
inductive RetryGuidance
  | never
  | sameAfter
  | modified
  | operatorAction
  | unknown (code : UInt32)
  deriving DecidableEq

/-- `ninlil_model_origin_authority_result_t`. -/
structure AuthorityResult where
  fact : AuthorityFact
  denyReason : Reason := .none
  denyGuidance : RetryGuidance := .never
  denyRetryDelayMs : UInt64 := 0
  grant : GrantSnapshot := {}

/-- `ninlil_model_service_quota_snapshot_t`. -/
structure QuotaSnapshot where
  inflightCount : UInt64 := 0
  admissionsInWindow : UInt64 := 0
  payloadBytesInWindow : UInt64 := 0
  windowIsCurrent : UInt32 := 0

/-- `ninlil_model_event_grant_usage_t`. -/
structure GrantUsage where
  activeSpoolCount : UInt64 := 0
  activeSpoolBytes : UInt64 := 0

/-- `ninlil_model_submission_preflight_input_t`. -/
structure PreflightInput where
  service : Service
  submission : SemanticSubmission
  callerKeyMapping : MappingFact
  eventIdMapping : MappingFact
  clock : ClockFact
  lastTransactionSequence : UInt64
  lastSchedulerOwnerSequence : UInt64
  authority : AuthorityResult
  quota : QuotaSnapshot
  eventGrantUsage : GrantUsage
  resourceLedger : Ledger

/-! ### Plans and results -/

/-- `ninlil_submission_kind_t`. -/
inductive SubmissionKind
  | invalid
  | admittedReady
  | alreadyAdmitted
  | rejected
  | idempotencyConflict
  deriving DecidableEq

/-- `ninlil_submission_result_t`; the default is the zeroed record. -/
structure SubmissionResult where
  abiVersion : UInt16 := 0
  structSize : UInt16 := 0
  kind : SubmissionKind := .invalid
  reason : Reason := .none
  retryGuidance : RetryGuidance := .never
  reservedZero : UInt32 := 0
  retryDelayMs : UInt64 := 0
  transactionId : Id128 := 0
  canonicalSubmissionDigest : Digest := {}
  assurance : AdmissionAssurance := {}
  deriving DecidableEq

/-- `initialize_public_result`. -/
def initializePublicResult (semanticResult : Bool) : SubmissionResult where
  abiVersion := abiVersion
  structSize := submissionResultSize
  assurance :=
    if semanticResult then { abiVersion := abiVersion, structSize := admissionAssuranceSize }
    else {}

/-- `ninlil_model_quota_commit_plan_t`. -/
structure QuotaCommitPlan where
  clockEpochId : Id128 := 0
  windowStartedAtMs : UInt64 := 0
  nextInflightCount : UInt64 := 0
  nextAdmissionsInWindow : UInt64 := 0
  nextPayloadBytesInWindow : UInt64 := 0
  nextEventActiveSpoolCount : UInt64 := 0
  nextEventActiveSpoolBytes : UInt64 := 0
  deriving DecidableEq

/-- The zeroed ledger. -/
def zeroLedger : Ledger := fun _ => {}

/-- `ninlil_model_resource_reservation_plan_t`. -/
structure ReservationPlan where
  reserveRequests : List BatchRequest := []
  commitRequests : List BatchRequest := []
  reservedLedger : Ledger := zeroLedger
  committedLedger : Ledger := zeroLedger

/-- `ninlil_model_admission_plan_t`. -/
structure AdmissionPlan where
  family : Family := .unknown 0
  registeredService : Service := {}
  source : Party := {}
  target : ConcreteTarget := {}
  targetCount : UInt32 := 0
  targets : Fin 4 → ConcreteTarget := fun _ => {}
  service : ServiceIdentity := {}
  idempotencyKey : IdempotencyKey := {}
  contentDigest : Digest := {}
  canonicalSubmissionDigest : Digest := {}
  eventId : Id128 := 0
  generation : UInt64 := 0
  requiredEvidence : UInt32 := 0
  payloadLength : UInt32 := 0
  transactionSequence : UInt64 := 0
  schedulerOwnerSequence : UInt64 := 0
  admissionClockEpochId : Id128 := 0
  admittedAtMs : UInt64 := 0
  deadlineClockEpochId : Id128 := 0
  absoluteEffectDeadlineMs : UInt64 := 0
  absoluteEvidenceCloseMs : UInt64 := 0
  quota : QuotaCommitPlan := {}
  resources : ReservationPlan := {}
  grant : GrantSnapshot := {}

/-- `ninlil_model_capacity_block_plan_t`. -/
structure CapacityBlockPlan where
  nextLedger : Ledger := zeroLedger
  failingKind : UInt32 := 0
  failingRequestOrdinal : UInt32 := 0

/-- `ninlil_model_submission_preflight_action_t`. -/
inductive PreflightAction
  | terminal
  | readyForIdAllocation
  | capacityBlockCommitRequired
  deriving DecidableEq

/-- `ninlil_model_submission_preflight_result_t`. -/
structure PreflightResult where
  action : PreflightAction
  apiStatus : Status
  publicResult : SubmissionResult := {}
  admission : AdmissionPlan := {}
  capacityBlock : CapacityBlockPlan := {}

/-! ### Requests as batches -/

/-- The batch a reducer builds from a request list: the list, then zeroed slots. -/
def batchOf (operation : BatchOperation) (requests : List BatchRequest) : Batch where
  operation := operation
  requestCount := UInt32.ofNat requests.length
  requests i := requests.getD i {}

end Ninlil.Submission
