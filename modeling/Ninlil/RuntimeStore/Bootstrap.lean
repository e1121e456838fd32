import Ninlil.RuntimeStore.Records

/-!
# First boot and second boot

`runtime_store_bootstrap.c`: a first boot turns an accepted configuration into a plan of seventeen
records; a later boot reads them back and compares them with its own plan.

* `projectConfig`, `buildBootstrapPlan`, `bootstrapRecordAt`: the plan and its records;
* `validateSnapshot`: the seventeen stored values read under their keys;
* `compareBinding`, `decideIdentity`: the stored snapshot against a new plan.
-/

namespace Ninlil.RuntimeStore

open Bytes Resource

/-! ### Plans -/

/-- `NINLIL_STORAGE_SCHEMA_M1A`. -/
def storageSchemaM1a : UInt32 := 1
/-- `NINLIL_MODEL_RUNTIME_STORE_BOOTSTRAP_RECORD_COUNT`. -/
abbrev bootstrapRecordCount : ℕ := 17
/-- `NINLIL_MODEL_RUNTIME_STORE_BOOTSTRAP_ENCODED_KEY_VALUE_BYTES`. -/
def bootstrapEncodedKeyValueBytes : ℕ := 1311
/-- `NINLIL_MODEL_RUNTIME_STORE_BOOTSTRAP_LOGICAL_BYTES`. -/
def bootstrapLogicalBytes : ℕ := 1583
/-- `NINLIL_MODEL_RUNTIME_STORE_BINDING_VALUE_BYTES`, the size of a record's value buffer. -/
def bindingValueBytes : ℕ := 183
/-- `UINT32_MAX`. -/
def uint32Max : ℕ := 2 ^ 32 - 1

/-- `ninlil_model_runtime_store_bootstrap_plan_t`. -/
structure BootstrapPlan where
  binding : Binding
  identity : StoreIdentity
  capacityLimits : CapacityLimits
  recordCount : ℕ
  encodedKeyValueBytes : ℕ
  logicalBytes : ℕ

/-- `ninlil_model_runtime_store_bootstrap_record_t`, its buffers cut at their lengths. -/
structure BootstrapRecord where
  key : List UInt8
  value : List UInt8
  deriving DecidableEq

/-- The nineteen `COPY_PROJECTED_LIMIT` lines. -/
def projectedLimits (limits : LimitsProjection) : ResourceLimits where
  maxServices := limits.maxServices
  maxNonterminalTransactions := limits.maxNonterminalTransactions
  maxTargetsPerTransaction := limits.maxTargetsPerTransaction
  maxLogicalPayloadBytes := limits.maxLogicalPayloadBytes
  maxDurableOutboxPayloadBytes := limits.maxDurableOutboxPayloadBytes
  maxAttemptsPerTargetPerCycle := limits.maxAttemptsPerTargetPerCycle
  maxCancelAttemptsPerTransaction := limits.maxCancelAttemptsPerTransaction
  maxEvidencePerTarget := limits.maxEvidencePerTarget
  maxRetainedTerminalTransactions := limits.maxRetainedTerminalTransactions
  maxNonterminalDeliveries := limits.maxNonterminalDeliveries
  maxEventSpoolCount := limits.maxEventSpoolCount
  maxEventSpoolBytes := limits.maxEventSpoolBytes
  maxResultCacheEntries := limits.maxResultCacheEntries
  maxRetainedDispositions := limits.maxRetainedDispositions
  maxIngressPerStep := limits.maxIngressPerStep
  maxCallbacksPerStep := limits.maxCallbacksPerStep
  maxStateTransitionsPerStep := limits.maxStateTransitionsPerStep
  maxBearerSendsPerStep := limits.maxBearerSendsPerStep
  maxDeferredTokens := limits.maxDeferredTokens

/-- The nineteen `COPY_LIMIT` lines. -/
def storeLimits (limits : LimitsProjection) : StoreLimits where
  maxServices := limits.maxServices
  maxNonterminalTransactions := limits.maxNonterminalTransactions
  maxTargetsPerTransaction := limits.maxTargetsPerTransaction
  maxLogicalPayloadBytes := limits.maxLogicalPayloadBytes
  maxDurableOutboxPayloadBytes := limits.maxDurableOutboxPayloadBytes
  maxAttemptsPerTargetPerCycle := limits.maxAttemptsPerTargetPerCycle
  maxCancelAttemptsPerTransaction := limits.maxCancelAttemptsPerTransaction
  maxEvidencePerTarget := limits.maxEvidencePerTarget
  maxRetainedTerminalTransactions := limits.maxRetainedTerminalTransactions
  maxNonterminalDeliveries := limits.maxNonterminalDeliveries
  maxEventSpoolCount := limits.maxEventSpoolCount
  maxEventSpoolBytes := limits.maxEventSpoolBytes
  maxResultCacheEntries := limits.maxResultCacheEntries
  maxRetainedDispositions := limits.maxRetainedDispositions
  maxIngressPerStep := limits.maxIngressPerStep
  maxCallbacksPerStep := limits.maxCallbacksPerStep
  maxStateTransitionsPerStep := limits.maxStateTransitionsPerStep
  maxBearerSendsPerStep := limits.maxBearerSendsPerStep
  maxDeferredTokens := limits.maxDeferredTokens

/-- The binding `project_config` writes. -/
def projectedBinding (config : ConfigProjection) : Binding where
  storageSchema := storageSchemaM1a
  role := config.role
  environment := config.environment
  runtimeId := config.runtimeId
  limits := storeLimits config.limits
  terminalRetentionMs := config.terminalRetentionMs
  resultCacheRetentionMs := config.resultCacheRetentionMs
  observationRetentionMs := config.observationRetentionMs

/-- The identity `project_config` writes. -/
def projectedIdentity (config : ConfigProjection) : StoreIdentity where
  flags := config.identityFlags
  deviceId := config.deviceId
  installationId := config.installationId
  siteDomainId := config.siteDomainId
  bindingEpoch := config.bindingEpoch
  membershipEpoch := config.membershipEpoch

/-- `project_config`: only a result whose limits are those of its own configuration. -/
def projectConfig (validation : ValidationResult) : Except Status (Binding × StoreIdentity) :=
  let config := validation.acceptedConfig
  if validation.status ≠ .ok ∨ validation.failureField ≠ .none then .error .invalidArgument
  else match deriveCapacityLimits (projectedLimits config.limits) with
    | none => .error .invalidArgument
    | some derived =>
      if (List.finRange kindCount).any fun i => derived i != validation.capacityLimits i then
        .error .invalidArgument
      else .ok (projectedBinding config, projectedIdentity config)

/-- The counter written at an index. -/
def bootstrapCounter (index : ℕ) : Counter where
  kind := UInt32.ofNat (index - 1)
  value := 0
  exhaustedMarker := 0

/-- The capacity entry written at an index. -/
def bootstrapCapacity (plan : BootstrapPlan) (index : ℕ) : Capacity :=
  let capacityIndex := index - 6
  { kind := UInt32.ofNat (capacityIndex + 1)
    limit := plan.capacityLimits (Fin.ofNat kindCount capacityIndex)
    used := 0
    reserved := 0
    highWater := 0
    capacityEpoch := 1
    blocked := 0
    counterExhausted := 0 }

/-- The value of the record at an index, whose key is the next identifier. -/
def bootstrapValueAt (plan : BootstrapPlan) (index : ℕ) : Except Status (List UInt8) :=
  let keyId := index + 1
  if index = 0 then encodeBinding plan.binding bindingValueBytes
  else if index = 1 then encodeIdentity plan.identity bindingValueBytes
  else if index < 6 then encodeCounter keyId (bootstrapCounter index) bindingValueBytes
  else encodeCapacity keyId (bootstrapCapacity plan index) bindingValueBytes

/-- `ninlil_model_runtime_store_bootstrap_record_at`. -/
def bootstrapRecordAt (plan : BootstrapPlan) (index : ℕ) : Except Status BootstrapRecord :=
  if plan.recordCount ≠ bootstrapRecordCount ∨ plan.logicalBytes ≠ bootstrapLogicalBytes
      ∨ plan.encodedKeyValueBytes ≠ bootstrapEncodedKeyValueBytes
      ∨ index ≥ bootstrapRecordCount then .error .invalidArgument
  else match buildKey (index + 1) with
    | .error status => .error status
    | .ok key =>
      match bootstrapValueAt plan index with
      | .error status => .error status
      | .ok value => .ok { key, value }

/-- The loop body of the plan: the running totals with one more record. -/
def addRecord (plan : BootstrapPlan) (totals : ℕ × ℕ) (index : ℕ) : Except Status (ℕ × ℕ) :=
  match bootstrapRecordAt plan index with
  | .error status => .error status
  | .ok record =>
    let (encodedBytes, logicalBytes) := totals
    let keyLength := record.key.length
    let valueLength := record.value.length
    if keyLength > uint32Max - 16 ∨ valueLength > uint32Max - 16 - keyLength then
      .error .invalidArgument
    else if encodedBytes > uint32Max - keyLength - valueLength then .error .invalidArgument
    else if logicalBytes > uint32Max - (16 + keyLength + valueLength) then .error .invalidArgument
    else .ok (encodedBytes + (keyLength + valueLength),
      logicalBytes + (16 + keyLength + valueLength))

/-- The plan before its records are tried. -/
def planOf (validation : ValidationResult) (binding : Binding) (identity : StoreIdentity) :
    BootstrapPlan where
  binding := binding
  identity := identity
  capacityLimits := validation.capacityLimits
  recordCount := bootstrapRecordCount
  encodedKeyValueBytes := bootstrapEncodedKeyValueBytes
  logicalBytes := bootstrapLogicalBytes

/-- `ninlil_model_runtime_store_build_bootstrap_plan`. -/
def buildBootstrapPlan (validation : ValidationResult) : Except Status BootstrapPlan :=
  match projectConfig validation with
  | .error _ => .error .invalidArgument
  | .ok (binding, identity) =>
    let plan := planOf validation binding identity
    match (List.range bootstrapRecordCount).foldlM (addRecord plan) (0, 0) with
    | .error status => .error status
    | .ok (encodedBytes, logicalBytes) =>
      if encodedBytes ≠ bootstrapEncodedKeyValueBytes ∨ logicalBytes ≠ bootstrapLogicalBytes then
        .error .invalidArgument
      else .ok plan

/-! ### Snapshots -/

/-- `ninlil_model_runtime_store_validated_snapshot_t`. -/
structure ValidatedSnapshot where
  binding : Binding
  identity : StoreIdentity
  counters : Fin 4 → Counter
  capacities : Fin kindCount → Capacity

/-- A snapshot whose fields are all zero. -/
def zeroSnapshot : ValidatedSnapshot where
  binding := (getBinding []).1
  identity := readIdentity []
  counters := fun _ => readCounter []
  capacities := fun _ => readCapacity []

/-- The variables of the decoding loop. -/
structure SnapshotScan where
  snapshot : ValidatedSnapshot := zeroSnapshot
  sawCorrupt : Bool := false
  sawUnsupported : Bool := false

/-- What a decoder that fails leaves in the flags. -/
def SnapshotScan.fail (scan : SnapshotScan) (status : Status) : SnapshotScan :=
  if status = .unsupported then { scan with sawUnsupported := true }
  else { scan with sawCorrupt := true }

/-- The snapshot with one record read into its place. -/
def SnapshotScan.store {α : Type} (scan : SnapshotScan) (result : Except Status α)
    (put : ValidatedSnapshot → α → ValidatedSnapshot) : SnapshotScan :=
  match result with
  | .error status => scan.fail status
  | .ok record => { scan with snapshot := put scan.snapshot record }

/-- The loop body: the value at an index decoded under the next key identifier. -/
def decodeAt (values : Fin bootstrapRecordCount → List UInt8) (scan : SnapshotScan)
    (index : Fin bootstrapRecordCount) : SnapshotScan :=
  let keyId := index.val + 1
  let encoded := values index
  if index.val = 0 then
    scan.store (decodeBinding keyId encoded) fun s binding => { s with binding := binding }
  else if index.val = 1 then
    scan.store (decodeIdentity keyId encoded) fun s identity => { s with identity := identity }
  else if index.val < 6 then
    scan.store (decodeCounter keyId encoded) fun s counter =>
      { s with counters := Function.update s.counters (Fin.ofNat 4 (index.val - 2)) counter }
  else
    scan.store (decodeCapacity keyId encoded) fun s entry =>
      { s with
        capacities := Function.update s.capacities (Fin.ofNat kindCount (index.val - 6)) entry }

/-- `ninlil_model_runtime_store_validate_snapshot`. -/
def validateSnapshot (values : Fin bootstrapRecordCount → List UInt8) :
    Except Status ValidatedSnapshot :=
  let scan := (List.finRange bootstrapRecordCount).foldl (decodeAt values) {}
  if scan.sawCorrupt then .error .storageCorrupt
  else if scan.sawUnsupported then .error .unsupported
  else .ok scan.snapshot

/-! ### Comparison -/

def idIsEqual (left right : Id128) : Bool :=
  (List.finRange 16).all fun i => left.get i == right.get i

def bindingIsEqual (left right : Binding) : Bool :=
  left.storageSchema == right.storageSchema
    && left.role == right.role
    && left.environment == right.environment
    && idIsEqual left.runtimeId right.runtimeId
    && left.limits.maxServices == right.limits.maxServices
    && left.limits.maxNonterminalTransactions == right.limits.maxNonterminalTransactions
    && left.limits.maxTargetsPerTransaction == right.limits.maxTargetsPerTransaction
    && left.limits.maxLogicalPayloadBytes == right.limits.maxLogicalPayloadBytes
    && left.limits.maxDurableOutboxPayloadBytes == right.limits.maxDurableOutboxPayloadBytes
    && left.limits.maxAttemptsPerTargetPerCycle == right.limits.maxAttemptsPerTargetPerCycle
    && left.limits.maxCancelAttemptsPerTransaction == right.limits.maxCancelAttemptsPerTransaction
    && left.limits.maxEvidencePerTarget == right.limits.maxEvidencePerTarget
    && left.limits.maxRetainedTerminalTransactions == right.limits.maxRetainedTerminalTransactions
    && left.limits.maxNonterminalDeliveries == right.limits.maxNonterminalDeliveries
    && left.limits.maxEventSpoolCount == right.limits.maxEventSpoolCount
    && left.limits.maxEventSpoolBytes == right.limits.maxEventSpoolBytes
    && left.limits.maxResultCacheEntries == right.limits.maxResultCacheEntries
    && left.limits.maxRetainedDispositions == right.limits.maxRetainedDispositions
    && left.limits.maxIngressPerStep == right.limits.maxIngressPerStep
    && left.limits.maxCallbacksPerStep == right.limits.maxCallbacksPerStep
    && left.limits.maxStateTransitionsPerStep == right.limits.maxStateTransitionsPerStep
    && left.limits.maxBearerSendsPerStep == right.limits.maxBearerSendsPerStep
    && left.limits.maxDeferredTokens == right.limits.maxDeferredTokens
    && left.terminalRetentionMs == right.terminalRetentionMs
    && left.resultCacheRetentionMs == right.resultCacheRetentionMs
    && left.observationRetentionMs == right.observationRetentionMs

/-- `ninlil_model_runtime_store_binding_comparison_t`. -/
inductive BindingComparison
  | exact
  | unsupported
  deriving DecidableEq

/-- `ninlil_model_runtime_store_compare_binding`. -/
def compareBinding (stored : ValidatedSnapshot) (candidate : Binding) : BindingComparison :=
  if bindingIsEqual stored.binding candidate then .exact else .unsupported

/-- `ninlil_model_runtime_store_identity_decision_t`. -/
inductive IdentityDecision
  | exact
  | forwardRotation
  | conflict
  deriving DecidableEq

/-- `ninlil_model_runtime_store_decide_identity`. -/
def decideIdentity (stored : ValidatedSnapshot) (requested : StoreIdentity) :
    Except Status IdentityDecision :=
  let identity := stored.identity
  if identityIsValid identity = false ∨ identityIsValid requested = false then
    .error .invalidArgument
  else if identity.flags &&& hasDevice ≠ requested.flags &&& hasDevice
      ∨ idIsEqual identity.deviceId requested.deviceId = false then .ok .conflict
  else
    let installationExact :=
      identity.flags &&& hasInstallation == requested.flags &&& hasInstallation
        && idIsEqual identity.installationId requested.installationId
        && identity.bindingEpoch == requested.bindingEpoch
    let siteExact := identity.flags &&& hasSite == requested.flags &&& hasSite
      && idIsEqual identity.siteDomainId requested.siteDomainId
      && identity.membershipEpoch == requested.membershipEpoch
    if installationExact ∧ siteExact then .ok .exact
    else if (installationExact = false ∧ requested.bindingEpoch ≤ identity.bindingEpoch)
        ∨ (siteExact = false ∧ requested.membershipEpoch ≤ identity.membershipEpoch) then
      .ok .conflict
    else .ok .forwardRotation

/-! ### The records of a plan -/

/-- What makes every record of a plan encodable. -/
structure BootstrapPlan.Ready (plan : BootstrapPlan) : Prop where
  runtimeId : idIsNonzero plan.binding.runtimeId = true
  identity : identityIsValid plan.identity = true
  recordCount : plan.recordCount = bootstrapRecordCount
  logicalBytes : plan.logicalBytes = bootstrapLogicalBytes
  encodedBytes : plan.encodedKeyValueBytes = bootstrapEncodedKeyValueBytes

/-- The key length at an index. -/
def keyBytesAt (index : ℕ) : ℕ := if index + 1 ≤ keyIdentity then 9 else 10

/-- The value length at an index. -/
def valueBytesAt (index : ℕ) : ℕ :=
  if index = 0 then 183 else if index = 1 then 84 else if index < 6 then 32 else 68

variable {plan : BootstrapPlan} {index : ℕ}

theorem bootstrapCounter_valid (hlow : 2 ≤ index) (hhigh : index < 6) :
    counterIsValid (index + 1) (bootstrapCounter index) = true := by
  interval_cases index <;> decide

theorem bootstrapCapacity_valid (plan : BootstrapPlan) (hlow : 6 ≤ index)
    (hhigh : index < bootstrapRecordCount) :
    capacityIsValid (index + 1) (bootstrapCapacity plan index) = true := by
  have hlt17 : index < 17 := hhigh
  have hkind : (bootstrapCapacity plan index).kind.toNat = index + 1 - keyCapacityService + 1 := by
    have hlt : index - 6 + 1 < 2 ^ 32 := by omega
    simp only [bootstrapCapacity, keyCapacityService, UInt32.toNat_ofNat_of_lt' hlt]
    omega
  have hrange : ¬(index + 1 < keyCapacityService ∨ index + 1 > keyCapacityDeferredToken) := by
    simp only [keyCapacityService, keyCapacityDeferredToken]
    omega
  have hfields : ¬((bootstrapCapacity plan index).kind.toNat ≠ index + 1 - keyCapacityService + 1 ∨
      (0 : UInt32) > 1 ∨ (0 : UInt32) > 1 ∨ (1 : UInt64) = 0 ∨ (0 : UInt64) > uint64Max - 0) := by
    rintro (hne | hrest)
    · exact hne hkind
    · exact absurd hrest (by decide)
  rw [capacityIsValid, if_neg hrange]
  refine (if_neg hfields).trans ?_
  simp [bootstrapCapacity]

theorem bootstrapValueAt_ok (h : plan.Ready) (hindex : index < bootstrapRecordCount) :
    ∃ value, bootstrapValueAt plan index = .ok value ∧ value.length = valueBytesAt index := by
  unfold bootstrapValueAt valueBytesAt
  split_ifs with h0 h1 h6
  · rw [encodeBinding, if_neg (by simp [h.runtimeId])]
    have hlen := length_bindingPayload plan.binding
    obtain ⟨value, hvalue, hsize⟩ := encodeEnvelope_eq_ok .binding (bindingPayload plan.binding)
      bindingValueBytes (by rw [hlen]; decide) (by rw [hlen]; decide)
    exact ⟨value, hvalue, hsize.trans (by rw [hlen]; rfl)⟩
  · rw [encodeIdentity, if_neg (by simp [h.identity])]
    have hlen := length_identityPayload plan.identity
    obtain ⟨value, hvalue, hsize⟩ := encodeEnvelope_eq_ok .identity (identityPayload plan.identity)
      bindingValueBytes (by rw [hlen]; decide) (by rw [hlen]; decide)
    exact ⟨value, hvalue, hsize.trans (by rw [hlen]; rfl)⟩
  · rw [encodeCounter, if_neg (by simp [bootstrapCounter_valid (by omega : 2 ≤ index) h6])]
    have hlen := length_counterPayload (bootstrapCounter index)
    obtain ⟨value, hvalue, hsize⟩ :=
      encodeEnvelope_eq_ok .counter (counterPayload (bootstrapCounter index))
      bindingValueBytes (by rw [hlen]; decide) (by rw [hlen]; decide)
    exact ⟨value, hvalue, hsize.trans (by rw [hlen]; rfl)⟩
  · rw [encodeCapacity,
      if_neg (by simp [bootstrapCapacity_valid plan (by omega : 6 ≤ index) hindex])]
    have hlen := length_capacityPayload (bootstrapCapacity plan index)
    obtain ⟨value, hvalue, hsize⟩ :=
      encodeEnvelope_eq_ok .capacity (capacityPayload (bootstrapCapacity plan index))
      bindingValueBytes (by rw [hlen]; decide) (by rw [hlen]; decide)
    exact ⟨value, hvalue, hsize.trans (by rw [hlen]; rfl)⟩

/-- What a record holds. -/
structure RecordAt (plan : BootstrapPlan) (index : ℕ) (record : BootstrapRecord) : Prop where
  written : bootstrapRecordAt plan index = .ok record
  parses : parseKey record.key = .ok (index + 1)
  value : bootstrapValueAt plan index = .ok record.value
  keyBytes : record.key.length = keyBytesAt index
  valueBytes : record.value.length = valueBytesAt index

/-- Every index of a ready plan has its record. -/
theorem bootstrapRecordAt_ok (h : plan.Ready) (hindex : index < bootstrapRecordCount) :
    ∃ record, RecordAt plan index record := by
  have hkey : keyBinding ≤ index + 1 ∧ index + 1 ≤ keyCapacityDeferredToken :=
    ⟨Nat.succ_pos index, hindex⟩
  obtain ⟨key, hbuild, hparse, hkeyLen⟩ := key_round_trip hkey
  obtain ⟨value, hvalue, hvalueLen⟩ := bootstrapValueAt_ok h hindex
  refine ⟨⟨key, value⟩, ?_, hparse, hvalue, hkeyLen, hvalueLen⟩
  have hguard : ¬(plan.recordCount ≠ bootstrapRecordCount
      ∨ plan.logicalBytes ≠ bootstrapLogicalBytes
      ∨ plan.encodedKeyValueBytes ≠ bootstrapEncodedKeyValueBytes
      ∨ index ≥ bootstrapRecordCount) := by
    rw [h.recordCount, h.logicalBytes, h.encodedBytes]
    simpa using hindex
  simp only [bootstrapRecordAt, if_neg hguard, hbuild, hvalue]

/-- What the record at an index adds to the encoded bytes. -/
def encodedBytesAt (index : ℕ) : ℕ := keyBytesAt index + valueBytesAt index

theorem encodedBytesAt_le (index : ℕ) : encodedBytesAt index ≤ 200 := by
  unfold encodedBytesAt keyBytesAt valueBytesAt
  split_ifs <;> omega

/-- One record is added as long as the totals stay small. -/
theorem addRecord_ok (h : plan.Ready) (hindex : index < bootstrapRecordCount) {e l : ℕ}
    (he : e ≤ l) (hl : l ≤ 2 ^ 31) :
    addRecord plan (e, l) index =
      .ok (e + encodedBytesAt index, l + (16 + encodedBytesAt index)) := by
  obtain ⟨record, hrecord⟩ := bootstrapRecordAt_ok h hindex
  have hsmall := encodedBytesAt_le index
  unfold encodedBytesAt at hsmall
  simp only [addRecord, hrecord.written, hrecord.keyBytes, hrecord.valueBytes, uint32Max]
  rw [if_neg (by omega), if_neg (by omega), if_neg (by omega), encodedBytesAt, Nat.add_assoc 16]

/-- The totals of a run over some indices. -/
theorem foldlM_addRecord (h : plan.Ready) (indices : List ℕ) (e l : ℕ)
    (hindices : ∀ i ∈ indices, i < bootstrapRecordCount) (he : e ≤ l)
    (hl : l + 216 * indices.length ≤ 2 ^ 31) :
    indices.foldlM (addRecord plan) (e, l) = .ok (e + (indices.map encodedBytesAt).sum,
      l + (indices.map fun i => 16 + encodedBytesAt i).sum) := by
  induction indices generalizing e l with
  | nil => rfl
  | cons i indices ih =>
    have hi : i < bootstrapRecordCount := hindices i List.mem_cons_self
    have hsmall := encodedBytesAt_le i
    rw [List.length_cons] at hl
    rw [List.foldlM_cons, addRecord_ok h hi he (by omega)]
    show indices.foldlM (addRecord plan) (e + encodedBytesAt i, l + (16 + encodedBytesAt i)) = _
    rw [ih _ _ (fun j hj => hindices j (List.mem_cons_of_mem i hj)) (by omega) (by omega)]
    simp only [List.map_cons, List.sum_cons, Nat.add_assoc]

/-- A ready plan is the one the builder returns. -/
theorem buildBootstrapPlan_ok {validation : ValidationResult} {binding : Binding}
    {identity : StoreIdentity} (hproject : projectConfig validation = .ok (binding, identity))
    (h : (planOf validation binding identity).Ready) :
    buildBootstrapPlan validation = .ok (planOf validation binding identity) := by
  have hrun := foldlM_addRecord h (List.range bootstrapRecordCount) 0 0
    (fun i hi => List.mem_range.1 hi) le_rfl (by decide)
  have htotals : 0 + ((List.range bootstrapRecordCount).map encodedBytesAt).sum =
      bootstrapEncodedKeyValueBytes ∧
      0 + ((List.range bootstrapRecordCount).map fun i => 16 + encodedBytesAt i).sum =
      bootstrapLogicalBytes := by decide
  rw [htotals.1, htotals.2] at hrun
  simp only [buildBootstrapPlan, hproject, hrun]
  rw [if_neg (by simp)]

end Ninlil.RuntimeStore
