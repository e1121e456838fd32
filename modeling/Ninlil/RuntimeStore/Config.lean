import Ninlil.Lib.Guard
import Ninlil.Resource.Ledger

/-!
# Runtime configurations

`runtime_lifecycle_model.c`, the part that runs before a store is touched: a configuration and the
platform tables are checked, the eleven capacity limits are derived, and what the store needs of
the configuration is projected out of its ABI structures.

* `RuntimeConfig`, `PlatformOps`: what the caller passes;
* `deriveCapacityLimits`: the limits of the ledger, in checked arithmetic;
* `checkAndDerive`, `validateAndDerive`: the checks in the order of the source, each with its
  status and failure field, and the published result;
* `Accepted`: what the checks leave of a configuration they let through.

What a build fixes (the sizes of the ABI structures, the private payload profile) is a parameter.
A platform table is its header and, for each function it must have, whether the pointer is set.
-/

namespace Ninlil.RuntimeStore

open Resource Guard

/-! ### Identifiers and constants -/

/-- `ninlil_id128_t`. -/
abbrev Id128 := Vector UInt8 16

def zeroId : Id128 := Vector.replicate 16 0

def idIsNonzero (id : Id128) : Bool := id.toList.any (· != 0)

/-- `NINLIL_ABI_VERSION`. -/
def abiVersion : UInt16 := 1
/-- `NINLIL_ROLE_CONTROLLER`. -/
def roleController : UInt32 := 1
/-- `NINLIL_ROLE_CELL_AGENT`, also `NINLIL_ROLE_CELL_AGENT_RESERVED`. -/
def roleCellAgent : UInt32 := 3
/-- `NINLIL_ENV_TEST`. -/
def envTest : UInt32 := 1
/-- `NINLIL_ENV_PRODUCTION_RESERVED`. -/
def envProductionReserved : UInt32 := 4
/-- `NINLIL_LOCAL_IDENTITY_HAS_DEVICE`. -/
def hasDevice : UInt32 := 1
/-- `NINLIL_LOCAL_IDENTITY_HAS_INSTALLATION`. -/
def hasInstallation : UInt32 := 2
/-- `NINLIL_LOCAL_IDENTITY_HAS_SITE`. -/
def hasSite : UInt32 := 4
/-- `NINLIL_M1A_ATTEMPTS_PER_RETRY_CYCLE`. -/
def attemptsPerRetryCycle : UInt32 := 8
/-- `NINLIL_M1A_EVENT_MANAGEMENT_RESERVATION_BYTES`. -/
def eventManagementReservationBytes : UInt64 := 2560
/-- `NINLIL_M1A_MAX_RETENTION_MS`. -/
def maxRetentionMs : UInt64 := 604800000
/-- `NINLIL_FOUNDATION_MAX_EXACT_TARGETS`. -/
def maxExactTargets : UInt32 := 4

/-! ### What a build fixes -/

/-- The `sizeof` of every ABI structure whose header is checked. -/
structure AbiSizes where
  config : ℕ
  platform : ℕ
  localIdentity : ℕ
  limits : ℕ
  allocator : ℕ
  execution : ℕ
  clock : ℕ
  entropy : ℕ
  storage : ℕ
  bearer : ℕ
  txGate : ℕ
  originAuthorization : ℕ

structure Build where
  sizes : AbiSizes
  /-- whether `NINLIL_MFDT_V1_PRIVATE` is defined -/
  mfdtV1Private : Bool

/-- `NINLIL_RUNTIME_LOGICAL_PAYLOAD_PROFILE_MAX`. -/
def Build.logicalPayloadProfileMax (build : Build) : UInt32 :=
  if build.mfdtV1Private then 32768 else 1024

/-! ### Configurations -/

/-- `ninlil_resource_limits_t`. -/
structure ResourceLimits where
  abiVersion : UInt16 := 0
  structSize : UInt16 := 0
  maxServices : UInt32 := 0
  maxNonterminalTransactions : UInt32 := 0
  maxTargetsPerTransaction : UInt32 := 0
  maxLogicalPayloadBytes : UInt32 := 0
  maxDurableOutboxPayloadBytes : UInt64 := 0
  maxAttemptsPerTargetPerCycle : UInt32 := 0
  maxCancelAttemptsPerTransaction : UInt32 := 0
  maxEvidencePerTarget : UInt32 := 0
  maxRetainedTerminalTransactions : UInt32 := 0
  maxNonterminalDeliveries : UInt32 := 0
  maxEventSpoolCount : UInt32 := 0
  maxEventSpoolBytes : UInt64 := 0
  maxResultCacheEntries : UInt32 := 0
  maxRetainedDispositions : UInt32 := 0
  maxIngressPerStep : UInt32 := 0
  maxCallbacksPerStep : UInt32 := 0
  maxStateTransitionsPerStep : UInt32 := 0
  maxBearerSendsPerStep : UInt32 := 0
  maxDeferredTokens : UInt32 := 0
  reservedZero : UInt32 := 0
  deriving DecidableEq

/-- `ninlil_local_identity_t`. -/
structure LocalIdentity where
  abiVersion : UInt16
  structSize : UInt16
  deviceId : Id128
  installationId : Id128
  siteDomainId : Id128
  bindingEpoch : UInt64
  membershipEpoch : UInt64
  flags : UInt32
  reservedZero : UInt32
  deriving DecidableEq

/-- `ninlil_bytes_view_t`: a pointer, or `NULL`, and a length. -/
structure BytesView where
  data : Option (List UInt8)
  length : UInt32
  deriving DecidableEq

/-- `ninlil_runtime_config_t`. -/
structure RuntimeConfig where
  abiVersion : UInt16
  structSize : UInt16
  role : UInt32
  environment : UInt32
  runtimeId : Id128
  localIdentity : LocalIdentity
  storageNamespace : BytesView
  limits : ResourceLimits
  terminalRetentionMs : UInt64
  resultCacheRetentionMs : UInt64
  observationRetentionMs : UInt64
  reservedZero : UInt32
  deriving DecidableEq

/-- A table of `n` functions that must be set. -/
structure OpsTable (n : ℕ) where
  abiVersion : UInt16
  structSize : UInt16
  isSet : Fin n → Bool

/-- `ninlil_platform_ops_t`. -/
structure PlatformOps where
  abiVersion : UInt16
  structSize : UInt16
  /-- `allocate`, `deallocate` -/
  allocator : Option (OpsTable 2)
  /-- `current_context_id` -/
  execution : Option (OpsTable 1)
  /-- `now` -/
  clock : Option (OpsTable 1)
  /-- `fill` -/
  entropy : Option (OpsTable 1)
  /-- `open`, `close`, `begin`, `get`, `put`, `erase`, `iter_open`, `iter_next`, `iter_close`,
  `capacity`, `commit`, `rollback` -/
  storage : Option (OpsTable 12)
  /-- `open`, `close`, `send`, `receive_next`, `release_received`, `state` -/
  bearer : Option (OpsTable 6)
  /-- `acquire`, `release_unused` -/
  txGate : Option (OpsTable 2)
  /-- `evaluate` -/
  originAuthorization : Option (OpsTable 1)

/-! ### The published result -/

/-- `ninlil_model_runtime_validation_failure_field_t`. -/
inductive FailureField
  | none
  | configPointer
  | platformPointer
  | configHeader
  | platformHeader
  | nestedPointer
  | nestedHeader
  | requiredFunction
  | namespace
  | reserved
  | unknownRole
  | unknownEnvironment
  | unsupportedRole
  | unsupportedEnvironment
  | runtimeId
  | localIdentity
  | limitLowerOrConditional
  | limitCrossField
  | retention
  | capacityDerivationOverflow
  | limitProfileUpper
  deriving DecidableEq

/-- `ninlil_model_runtime_resource_limits_projection_t`. -/
structure LimitsProjection where
  maxServices : UInt32 := 0
  maxNonterminalTransactions : UInt32 := 0
  maxTargetsPerTransaction : UInt32 := 0
  maxLogicalPayloadBytes : UInt32 := 0
  maxDurableOutboxPayloadBytes : UInt64 := 0
  maxAttemptsPerTargetPerCycle : UInt32 := 0
  maxCancelAttemptsPerTransaction : UInt32 := 0
  maxEvidencePerTarget : UInt32 := 0
  maxRetainedTerminalTransactions : UInt32 := 0
  maxNonterminalDeliveries : UInt32 := 0
  maxEventSpoolCount : UInt32 := 0
  maxEventSpoolBytes : UInt64 := 0
  maxResultCacheEntries : UInt32 := 0
  maxRetainedDispositions : UInt32 := 0
  maxIngressPerStep : UInt32 := 0
  maxCallbacksPerStep : UInt32 := 0
  maxStateTransitionsPerStep : UInt32 := 0
  maxBearerSendsPerStep : UInt32 := 0
  maxDeferredTokens : UInt32 := 0
  deriving DecidableEq

/-- `ninlil_model_runtime_config_projection_t`. -/
structure ConfigProjection where
  role : UInt32 := 0
  environment : UInt32 := 0
  runtimeId : Id128 := zeroId
  identityFlags : UInt32 := 0
  deviceId : Id128 := zeroId
  installationId : Id128 := zeroId
  siteDomainId : Id128 := zeroId
  bindingEpoch : UInt64 := 0
  membershipEpoch : UInt64 := 0
  limits : LimitsProjection := {}
  terminalRetentionMs : UInt64 := 0
  resultCacheRetentionMs : UInt64 := 0
  observationRetentionMs : UInt64 := 0
  deriving DecidableEq

/-- `ninlil_model_runtime_validation_result_t`. -/
structure ValidationResult where
  status : Status
  failureField : FailureField
  capacityLimits : CapacityLimits := fun _ => 0
  acceptedConfig : ConfigProjection := {}

/-- The nineteen `COPY_ACCEPTED_LIMIT` lines. -/
def acceptedLimits (limits : ResourceLimits) : LimitsProjection where
  maxServices := limits.maxServices
  maxNonterminalTransactions := limits.maxNonterminalTransactions
  maxTargetsPerTransaction := limits.maxTargetsPerTransaction
  maxLogicalPayloadBytes := limits.maxLogicalPayloadBytes
  maxDurableOutboxPayloadBytes := limits.maxDurableOutboxPayloadBytes
  maxAttemptsPerTargetPerCycle := limits.maxAttemptsPerTargetPerCycle
  maxCancelAttemptsPerTransaction := limits.maxCancelAttemptsPerTransaction
  maxEvidencePerTarget := limits.maxEvidencePerTarget
  maxRetainedTerminalTransactions := limits.maxRetainedTerminalTransactions
  maxNonterminalDeliveries := limits.maxNonterminalDeliveries
  maxEventSpoolCount := limits.maxEventSpoolCount
  maxEventSpoolBytes := limits.maxEventSpoolBytes
  maxResultCacheEntries := limits.maxResultCacheEntries
  maxRetainedDispositions := limits.maxRetainedDispositions
  maxIngressPerStep := limits.maxIngressPerStep
  maxCallbacksPerStep := limits.maxCallbacksPerStep
  maxStateTransitionsPerStep := limits.maxStateTransitionsPerStep
  maxBearerSendsPerStep := limits.maxBearerSendsPerStep
  maxDeferredTokens := limits.maxDeferredTokens

def projectAcceptedConfig (config : RuntimeConfig) : ConfigProjection where
  role := config.role
  environment := config.environment
  runtimeId := config.runtimeId
  identityFlags := config.localIdentity.flags
  deviceId := config.localIdentity.deviceId
  installationId := config.localIdentity.installationId
  siteDomainId := config.localIdentity.siteDomainId
  bindingEpoch := config.localIdentity.bindingEpoch
  membershipEpoch := config.localIdentity.membershipEpoch
  limits := acceptedLimits config.limits
  terminalRetentionMs := config.terminalRetentionMs
  resultCacheRetentionMs := config.resultCacheRetentionMs
  observationRetentionMs := config.observationRetentionMs

/-! ### The checks -/

def headerIsCurrent (version size : UInt16) (required : ℕ) : Bool :=
  version == abiVersion && required ≤ size.toNat

/-- The header of a table that is there. -/
def tableIsCurrent {n : ℕ} (table : Option (OpsTable n)) (required : ℕ) : Bool :=
  table.any fun t => headerIsCurrent t.abiVersion t.structSize required

/-- The functions of a table that is there. -/
def tableIsComplete {n : ℕ} (table : Option (OpsTable n)) : Bool :=
  table.any fun t => (List.finRange n).all t.isSet

def requiredPlatformPointersArePresent (platform : PlatformOps) : Bool :=
  platform.allocator.isSome && platform.execution.isSome && platform.clock.isSome
    && platform.entropy.isSome && platform.storage.isSome && platform.bearer.isSome
    && platform.txGate.isSome && platform.originAuthorization.isSome

def nestedHeadersAreCurrent (sizes : AbiSizes) (platform : PlatformOps) : Bool :=
  tableIsCurrent platform.allocator sizes.allocator
    && tableIsCurrent platform.execution sizes.execution
    && tableIsCurrent platform.clock sizes.clock
    && tableIsCurrent platform.entropy sizes.entropy
    && tableIsCurrent platform.storage sizes.storage
    && tableIsCurrent platform.bearer sizes.bearer
    && tableIsCurrent platform.txGate sizes.txGate
    && tableIsCurrent platform.originAuthorization sizes.originAuthorization

def requiredPlatformFunctionsArePresent (platform : PlatformOps) : Bool :=
  tableIsComplete platform.allocator && tableIsComplete platform.execution
    && tableIsComplete platform.clock && tableIsComplete platform.entropy
    && tableIsComplete platform.storage && tableIsComplete platform.bearer
    && tableIsComplete platform.txGate && tableIsComplete platform.originAuthorization

/-- `known_identity_flags`. -/
def knownIdentityFlags : UInt32 := hasDevice ||| hasInstallation ||| hasSite

def localIdentityShapeIsValid (identity : LocalIdentity) : Bool :=
  let device := identity.flags &&& hasDevice
  let installation := identity.flags &&& hasInstallation
  let site := identity.flags &&& hasSite
  device != 0 && site != 0
    && ((device != 0) == idIsNonzero identity.deviceId)
    && ((installation != 0) == idIsNonzero identity.installationId)
    && ((site != 0) == idIsNonzero identity.siteDomainId)
    && (((device ||| installation) != 0) == (identity.bindingEpoch != 0))
    && ((site != 0) == (identity.membershipEpoch != 0))

def limitsMeetLowerAndConditional (role : UInt32) (limits : ResourceLimits) : Bool :=
  if limits.maxServices < 1
      ∨ limits.maxNonterminalTransactions < 1
      ∨ limits.maxTargetsPerTransaction < 1
      ∨ limits.maxLogicalPayloadBytes < 1
      ∨ limits.maxAttemptsPerTargetPerCycle < attemptsPerRetryCycle
      ∨ limits.maxCancelAttemptsPerTransaction < 1
      ∨ limits.maxEvidencePerTarget < 1
      ∨ limits.maxRetainedTerminalTransactions < 1
      ∨ limits.maxNonterminalDeliveries < 1
      ∨ limits.maxResultCacheEntries < 1
      ∨ limits.maxRetainedDispositions < 1
      ∨ limits.maxIngressPerStep < 1
      ∨ limits.maxCallbacksPerStep < 1
      ∨ limits.maxStateTransitionsPerStep < 2
      ∨ limits.maxBearerSendsPerStep < 1
      ∨ limits.maxDeferredTokens < 1 then false
  else if role = roleController then 1 ≤ limits.maxDurableOutboxPayloadBytes
  else if limits.maxEventSpoolCount = 0 then limits.maxEventSpoolBytes = 0
  else eventManagementReservationBytes ≤ limits.maxEventSpoolBytes

def limitsMeetCrossField (role : UInt32) (limits : ResourceLimits) : Bool :=
  if limits.maxDeferredTokens > limits.maxNonterminalDeliveries
      ∨ limits.maxNonterminalDeliveries > limits.maxNonterminalTransactions
      ∨ limits.maxEventSpoolCount > limits.maxNonterminalTransactions then false
  else role ≠ roleController
    ∨ limits.maxLogicalPayloadBytes.toUInt64 ≤ limits.maxDurableOutboxPayloadBytes

def retentionsAreValid (config : RuntimeConfig) : Bool :=
  1 ≤ config.terminalRetentionMs && config.terminalRetentionMs ≤ maxRetentionMs
    && 1 ≤ config.resultCacheRetentionMs
    && config.resultCacheRetentionMs ≤ config.terminalRetentionMs
    && config.observationRetentionMs ≤ maxRetentionMs

def limitsFitProfileUpper (build : Build) (role : UInt32) (limits : ResourceLimits) : Bool :=
  let serviceMax := if role = roleController then 16 else 8
  let transactionMax := if role = roleController then 256 else 32
  let retainedMax := if role = roleController then 2048 else 64
  if limits.maxServices > serviceMax
      ∨ limits.maxNonterminalTransactions > transactionMax
      ∨ limits.maxTargetsPerTransaction > maxExactTargets
      ∨ limits.maxLogicalPayloadBytes > build.logicalPayloadProfileMax
      ∨ limits.maxAttemptsPerTargetPerCycle > attemptsPerRetryCycle
      ∨ limits.maxCancelAttemptsPerTransaction > 1
      ∨ limits.maxEvidencePerTarget > 8
      ∨ limits.maxRetainedTerminalTransactions > retainedMax
      ∨ limits.maxNonterminalDeliveries > 32
      ∨ limits.maxResultCacheEntries > 64
      ∨ limits.maxRetainedDispositions > 64
      ∨ limits.maxIngressPerStep > 64
      ∨ limits.maxCallbacksPerStep > 64
      ∨ limits.maxStateTransitionsPerStep > 64
      ∨ limits.maxBearerSendsPerStep > 64
      ∨ limits.maxDeferredTokens > 32 then false
  else if role = roleController then
    limits.maxDurableOutboxPayloadBytes ≤ 262144
      ∧ limits.maxEventSpoolCount = 0 ∧ limits.maxEventSpoolBytes = 0
  else if role = roleCellAgent then
    limits.maxDurableOutboxPayloadBytes = 0
      ∧ limits.maxEventSpoolCount = 0 ∧ limits.maxEventSpoolBytes = 0
  else
    limits.maxDurableOutboxPayloadBytes = 0
      ∧ limits.maxEventSpoolCount ≤ 32 ∧ limits.maxEventSpoolBytes ≤ 32768

/-! ### Derivation -/

def checkedAdd (left right : UInt64) : Option UInt64 :=
  if left > uint64Max - right then none else some (left + right)

def checkedMultiply (left right : UInt64) : Option UInt64 :=
  if left ≠ 0 ∧ right > uint64Max / left then none else some (left * right)

/-- `ninlil_model_runtime_derive_capacity_limits`; `none` is `NINLIL_E_INVALID_ARGUMENT`. -/
def deriveCapacityLimits (limits : ResourceLimits) : Option CapacityLimits := do
  let transactionLimit ← checkedAdd limits.maxNonterminalTransactions.toUInt64
    limits.maxRetainedTerminalTransactions.toUInt64
  let targetLimit ← checkedMultiply transactionLimit limits.maxTargetsPerTransaction.toUInt64
  let resultCacheLimit ← checkedAdd limits.maxResultCacheEntries.toUInt64
    limits.maxRetainedDispositions.toUInt64
  let evidencePerTarget ← checkedAdd limits.maxEvidencePerTarget.toUInt64 1
  let evidenceLimit ← checkedMultiply targetLimit evidencePerTarget
  return ![limits.maxServices.toUInt64, transactionLimit, targetLimit,
    limits.maxDurableOutboxPayloadBytes, limits.maxNonterminalDeliveries.toUInt64,
    limits.maxEventSpoolCount.toUInt64, limits.maxEventSpoolBytes, resultCacheLimit,
    evidenceLimit, limits.maxIngressPerStep.toUInt64, limits.maxDeferredTokens.toUInt64]

/-- `set_validation_failure`: the status and the field a check fails with. -/
abbrev Failure := Status × FailureField

/-- The checks of `ninlil_model_runtime_validate_and_derive`, in order. -/
def checkAndDerive (build : Build) (config : Option RuntimeConfig) (platform : Option PlatformOps) :
    Except Failure (RuntimeConfig × CapacityLimits) := do
  let sizes := build.sizes
  let config ← orExit config (.invalidArgument, .configPointer)
  let platform ← orExit platform (.invalidArgument, .platformPointer)
  require (headerIsCurrent config.abiVersion config.structSize sizes.config)
    (.abiMismatch, .configHeader)
  require (headerIsCurrent platform.abiVersion platform.structSize sizes.platform)
    (.abiMismatch, .platformHeader)
  require (headerIsCurrent config.localIdentity.abiVersion config.localIdentity.structSize
      sizes.localIdentity
      ∧ headerIsCurrent config.limits.abiVersion config.limits.structSize sizes.limits)
    (.abiMismatch, .configHeader)
  require (requiredPlatformPointersArePresent platform) (.invalidArgument, .nestedPointer)
  require (nestedHeadersAreCurrent sizes platform) (.abiMismatch, .nestedHeader)
  require (requiredPlatformFunctionsArePresent platform) (.invalidArgument, .requiredFunction)
  require (config.reservedZero = 0 ∧ config.limits.reservedZero = 0
      ∧ config.localIdentity.reservedZero = 0
      ∧ config.localIdentity.flags &&& ~~~knownIdentityFlags = 0)
    (.invalidArgument, .reserved)
  require (roleController ≤ config.role ∧ config.role ≤ roleCellAgent)
    (.invalidArgument, .unknownRole)
  require (envTest ≤ config.environment ∧ config.environment ≤ envProductionReserved)
    (.invalidArgument, .unknownEnvironment)
  require (1 ≤ config.storageNamespace.length ∧ config.storageNamespace.length ≤ 255
      ∧ config.storageNamespace.data.isSome)
    (.invalidArgument, .namespace)
  require (idIsNonzero config.runtimeId) (.invalidArgument, .runtimeId)
  require (localIdentityShapeIsValid config.localIdentity) (.invalidArgument, .localIdentity)
  require (limitsMeetLowerAndConditional config.role config.limits)
    (.invalidArgument, .limitLowerOrConditional)
  require (limitsMeetCrossField config.role config.limits) (.invalidArgument, .limitCrossField)
  require (retentionsAreValid config) (.invalidArgument, .retention)
  let derived ← orExit (deriveCapacityLimits config.limits)
    (.invalidArgument, .capacityDerivationOverflow)
  require (limitsFitProfileUpper build config.role config.limits) (.unsupported, .limitProfileUpper)
  return (config, derived)

/-- `ninlil_model_runtime_validate_and_derive`. -/
def validateAndDerive (build : Build) (config : Option RuntimeConfig)
    (platform : Option PlatformOps) : ValidationResult :=
  match checkAndDerive build config platform with
  | .error (status, field) => { status := status, failureField := field }
  | .ok (config, derived) =>
    { status := .ok
      failureField := .none
      capacityLimits := derived
      acceptedConfig := projectAcceptedConfig config }

/-! ### What the checks leave -/

/-- What is known of a configuration that was let through, and of its derived limits. -/
structure Accepted (build : Build) (config : RuntimeConfig) (derived : CapacityLimits) : Prop where
  knownFlags : config.localIdentity.flags &&& ~~~knownIdentityFlags = 0
  knownRole : roleController ≤ config.role ∧ config.role ≤ roleCellAgent
  knownEnvironment : envTest ≤ config.environment ∧ config.environment ≤ envProductionReserved
  runtimeId : idIsNonzero config.runtimeId
  identityShape : localIdentityShapeIsValid config.localIdentity
  lower : limitsMeetLowerAndConditional config.role config.limits
  crossField : limitsMeetCrossField config.role config.limits
  retentions : retentionsAreValid config
  derives : deriveCapacityLimits config.limits = some derived
  upper : limitsFitProfileUpper build config.role config.limits

variable {build : Build} {config : Option RuntimeConfig} {platform : Option PlatformOps}

theorem checkAndDerive_ok {accepted : RuntimeConfig} {derived : CapacityLimits}
    (h : checkAndDerive build config platform = .ok (accepted, derived)) :
    config = some accepted ∧ Accepted build accepted derived := by
  simp only [checkAndDerive, bind_eq_ok, require_eq_ok, orExit_eq_ok] at h
  obtain ⟨c, hc, _, _, _, _, _, _, _, _, _, _, _, _, _, _, _, ⟨-, -, -, hflags⟩, _, hrole, _, henv,
    _, _, _, hruntime, _, hshape, _, hlower, _, hcross, _, hretention, d, hderive, _, hupper,
    hret⟩ := h
  obtain ⟨rfl, rfl⟩ : c = accepted ∧ d = derived := by simpa [pure, Except.pure] using hret
  exact ⟨hc, hflags, hrole, henv, hruntime, hshape, hlower, hcross, hretention, hderive, hupper⟩

/-- No check fails with status OK. -/
theorem checkAndDerive_exits :
    Exits (fun failure : Failure => failure.1 ≠ .ok) (checkAndDerive build config platform) := by
  unfold checkAndDerive
  repeat' first
    | exact exits_ok
    | exact exits_require (by decide)
    | exact exits_orExit (by decide)
    | refine Exits.bind ?_ fun _ => ?_

/-- **A result with status OK publishes what an accepted configuration derives.** -/
theorem validateAndDerive_ok (h : (validateAndDerive build config platform).status = .ok) :
    ∃ accepted derived, config = some accepted ∧ Accepted build accepted derived ∧
      validateAndDerive build config platform =
        { status := .ok, failureField := .none, capacityLimits := derived,
          acceptedConfig := projectAcceptedConfig accepted } := by
  cases hrun : checkAndDerive build config platform with
  | error failure =>
    have hstatus : failure.1 ≠ .ok := checkAndDerive_exits failure hrun
    rw [validateAndDerive, hrun] at h
    exact absurd h hstatus
  | ok out =>
    obtain ⟨hconfig, haccepted⟩ := checkAndDerive_ok hrun
    exact ⟨out.1, out.2, hconfig, haccepted, by rw [validateAndDerive, hrun]⟩

end Ninlil.RuntimeStore
