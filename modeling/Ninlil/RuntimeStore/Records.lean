import Ninlil.RuntimeStore.Codec

/-!
# The four records

The payloads of `runtime_store_codec.c`.  A decoder checks the envelope under its key, reads the
fields and validates what it read with the predicate the encoder used.

* `encodeBinding`, `decodeBinding`: schema, role, environment, runtime identifier, the nineteen
  limits and three retentions behind a fixed profile name;
* `encodeIdentity`, `encodeCounter`, `encodeCapacity` and their decoders: fields at fixed offsets;
* a `*_round_trip` theorem for each.
-/

namespace Ninlil.RuntimeStore

open Bytes Resource

/-! ### Records -/

/-- `ninlil_model_runtime_store_limits_t`. -/
@[ext] structure StoreLimits where
  maxServices : UInt32
  maxNonterminalTransactions : UInt32
  maxTargetsPerTransaction : UInt32
  maxLogicalPayloadBytes : UInt32
  maxDurableOutboxPayloadBytes : UInt64
  maxAttemptsPerTargetPerCycle : UInt32
  maxCancelAttemptsPerTransaction : UInt32
  maxEvidencePerTarget : UInt32
  maxRetainedTerminalTransactions : UInt32
  maxNonterminalDeliveries : UInt32
  maxEventSpoolCount : UInt32
  maxEventSpoolBytes : UInt64
  maxResultCacheEntries : UInt32
  maxRetainedDispositions : UInt32
  maxIngressPerStep : UInt32
  maxCallbacksPerStep : UInt32
  maxStateTransitionsPerStep : UInt32
  maxBearerSendsPerStep : UInt32
  maxDeferredTokens : UInt32
  deriving DecidableEq

/-- `ninlil_model_runtime_store_binding_t`. -/
structure Binding where
  storageSchema : UInt32
  role : UInt32
  environment : UInt32
  runtimeId : Id128
  limits : StoreLimits
  terminalRetentionMs : UInt64
  resultCacheRetentionMs : UInt64
  observationRetentionMs : UInt64
  deriving DecidableEq

/-- `ninlil_model_runtime_store_identity_t`. -/
structure StoreIdentity where
  flags : UInt32
  deviceId : Id128
  installationId : Id128
  siteDomainId : Id128
  bindingEpoch : UInt64
  membershipEpoch : UInt64
  deriving DecidableEq

/-- `ninlil_model_runtime_store_counter_t`. -/
structure Counter where
  kind : UInt32
  value : UInt64
  exhaustedMarker : UInt32
  deriving DecidableEq

/-- `ninlil_model_runtime_store_capacity_t`. -/
structure Capacity where
  kind : UInt32
  limit : UInt64
  used : UInt64
  reserved : UInt64
  highWater : UInt64
  capacityEpoch : UInt64
  blocked : UInt32
  counterExhausted : UInt32
  deriving DecidableEq

/-- `NINLIL_MODEL_RUNTIME_STORE_COUNTER_VISITED_OWNER`. -/
def counterVisitedOwner : UInt32 := 4

/-! ### What a record must satisfy -/

def identityIsValid (identity : StoreIdentity) : Bool :=
  let installation := identity.flags &&& hasInstallation != 0
  identity.flags &&& ~~~knownIdentityFlags == 0
    && identity.flags &&& hasDevice != 0
    && identity.flags &&& hasSite != 0
    && idIsNonzero identity.deviceId
    && installation == idIsNonzero identity.installationId
    && idIsNonzero identity.siteDomainId
    && identity.bindingEpoch != 0
    && identity.membershipEpoch != 0

def counterIsValid (keyId : ℕ) (counter : Counter) : Bool :=
  if keyId < keyCounterTransaction ∨ keyId > keyCounterVisitedOwner then false
  else
    let expected := keyId - keyCounterTransaction + 1
    counter.kind.toNat == expected
      && counter.exhaustedMarker ≤ 1
      && (counter.kind != counterVisitedOwner || counter.exhaustedMarker == 0)
      && (counter.exhaustedMarker == 0 || counter.value == uint64Max)

def capacityIsValid (keyId : ℕ) (entry : Capacity) : Bool :=
  if keyId < keyCapacityService ∨ keyId > keyCapacityDeferredToken then false
  else
    let expected := keyId - keyCapacityService + 1
    if entry.kind.toNat ≠ expected ∨ entry.blocked > 1 ∨ entry.counterExhausted > 1
        ∨ entry.capacityEpoch = 0 ∨ entry.used > uint64Max - entry.reserved then false
    else
      let total := entry.used + entry.reserved
      total ≤ entry.highWater && entry.highWater ≤ entry.limit
        && (entry.counterExhausted == 0
          || (entry.capacityEpoch == uint64Max && entry.blocked == 0))

/-! ### The binding -/

/-- `PROFILE`: `NINLIL-FOUNDATION-SMALL-1`. -/
def profile : List UInt8 :=
  [78, 73, 78, 76, 73, 76, 45, 70, 79, 85, 78, 68, 65, 84, 73, 79, 78, 45, 83, 77, 65, 76, 76, 45,
    49]

/-- The first thirty-one bytes of a binding. -/
def bindingPrefix : List UInt8 := encodeU32Be 1 ++ encodeU16Be 25 ++ profile

/-- The `PUT_BIND` lines of the limits. -/
def limitsBytes (limits : StoreLimits) : List UInt8 :=
  encodeU32Be limits.maxServices
    ++ encodeU32Be limits.maxNonterminalTransactions
    ++ encodeU32Be limits.maxTargetsPerTransaction
    ++ encodeU32Be limits.maxLogicalPayloadBytes
    ++ encodeU64Be limits.maxDurableOutboxPayloadBytes
    ++ encodeU32Be limits.maxAttemptsPerTargetPerCycle
    ++ encodeU32Be limits.maxCancelAttemptsPerTransaction
    ++ encodeU32Be limits.maxEvidencePerTarget
    ++ encodeU32Be limits.maxRetainedTerminalTransactions
    ++ encodeU32Be limits.maxNonterminalDeliveries
    ++ encodeU32Be limits.maxEventSpoolCount
    ++ encodeU64Be limits.maxEventSpoolBytes
    ++ encodeU32Be limits.maxResultCacheEntries
    ++ encodeU32Be limits.maxRetainedDispositions
    ++ encodeU32Be limits.maxIngressPerStep
    ++ encodeU32Be limits.maxCallbacksPerStep
    ++ encodeU32Be limits.maxStateTransitionsPerStep
    ++ encodeU32Be limits.maxBearerSendsPerStep
    ++ encodeU32Be limits.maxDeferredTokens

/-- The payload of a binding. -/
def bindingPayload (binding : Binding) : List UInt8 :=
  bindingPrefix
    ++ (encodeU32Be binding.storageSchema
      ++ encodeU32Be binding.role
      ++ encodeU32Be binding.environment
      ++ binding.runtimeId.toList
      ++ limitsBytes binding.limits
      ++ encodeU64Be binding.terminalRetentionMs
      ++ encodeU64Be binding.resultCacheRetentionMs
      ++ encodeU64Be binding.observationRetentionMs)

/-- `ninlil_model_runtime_store_encode_binding`. -/
def encodeBinding (binding : Binding) (capacity : ℕ) : Except Status (List UInt8) :=
  if idIsNonzero binding.runtimeId = false then .error .invalidArgument
  else encodeEnvelope .binding (bindingPayload binding) capacity

/-- `GET_BIND_U32`: the field at the offset, and what stands behind it. -/
def getU32 (bytes : List UInt8) : UInt32 × List UInt8 :=
  (UInt32.ofNat (getBE 4 bytes).1, (getBE 4 bytes).2)

/-- `GET_BIND_U64`. -/
def getU64 (bytes : List UInt8) : UInt64 × List UInt8 :=
  (UInt64.ofNat (getBE 8 bytes).1, (getBE 8 bytes).2)

/-- The `GET_BIND` lines of the limits. -/
def getLimits (bytes : List UInt8) : StoreLimits × List UInt8 :=
  let (maxServices, bytes) := getU32 bytes
  let (maxNonterminalTransactions, bytes) := getU32 bytes
  let (maxTargetsPerTransaction, bytes) := getU32 bytes
  let (maxLogicalPayloadBytes, bytes) := getU32 bytes
  let (maxDurableOutboxPayloadBytes, bytes) := getU64 bytes
  let (maxAttemptsPerTargetPerCycle, bytes) := getU32 bytes
  let (maxCancelAttemptsPerTransaction, bytes) := getU32 bytes
  let (maxEvidencePerTarget, bytes) := getU32 bytes
  let (maxRetainedTerminalTransactions, bytes) := getU32 bytes
  let (maxNonterminalDeliveries, bytes) := getU32 bytes
  let (maxEventSpoolCount, bytes) := getU32 bytes
  let (maxEventSpoolBytes, bytes) := getU64 bytes
  let (maxResultCacheEntries, bytes) := getU32 bytes
  let (maxRetainedDispositions, bytes) := getU32 bytes
  let (maxIngressPerStep, bytes) := getU32 bytes
  let (maxCallbacksPerStep, bytes) := getU32 bytes
  let (maxStateTransitionsPerStep, bytes) := getU32 bytes
  let (maxBearerSendsPerStep, bytes) := getU32 bytes
  let (maxDeferredTokens, bytes) := getU32 bytes
  ({ maxServices, maxNonterminalTransactions, maxTargetsPerTransaction, maxLogicalPayloadBytes,
     maxDurableOutboxPayloadBytes, maxAttemptsPerTargetPerCycle, maxCancelAttemptsPerTransaction,
     maxEvidencePerTarget, maxRetainedTerminalTransactions, maxNonterminalDeliveries,
     maxEventSpoolCount, maxEventSpoolBytes, maxResultCacheEntries, maxRetainedDispositions,
     maxIngressPerStep, maxCallbacksPerStep, maxStateTransitionsPerStep, maxBearerSendsPerStep,
     maxDeferredTokens }, bytes)

/-- The fields of a binding from offset 31 on, and what stands behind them. -/
def getBinding (bytes : List UInt8) : Binding × List UInt8 :=
  let (storageSchema, bytes) := getU32 bytes
  let (role, bytes) := getU32 bytes
  let (environment, bytes) := getU32 bytes
  let (runtimeId, bytes) := getBytes 16 bytes
  let (limits, bytes) := getLimits bytes
  let (terminalRetentionMs, bytes) := getU64 bytes
  let (resultCacheRetentionMs, bytes) := getU64 bytes
  let (observationRetentionMs, bytes) := getU64 bytes
  ({ storageSchema, role, environment, runtimeId := idOfBytes runtimeId, limits,
     terminalRetentionMs, resultCacheRetentionMs, observationRetentionMs }, bytes)

/-- `ninlil_model_runtime_store_decode_binding`.  The offset at the end is the payload's length
iff nothing is left to read. -/
def decodeBinding (keyId : ℕ) (encoded : List UInt8) : Except Status Binding :=
  match decodeTypedEnvelope keyId .binding bindingPayloadBytes encoded with
  | .error status => .error status
  | .ok envelope =>
    let payload := envelope.payload
    if decodeU32Be payload 0 ≠ 1 ∨ decodeU16Be payload 4 ≠ 25 ∨ slice payload 6 25 ≠ profile then
      .error .unsupported
    else
      let (binding, rest) := getBinding (payload.drop 31)
      if rest ≠ [] ∨ idIsNonzero binding.runtimeId = false then .error .storageCorrupt
      else .ok binding

theorem getU32_append (value : UInt32) (rest : List UInt8) :
    getU32 (encodeU32Be value ++ rest) = (value, rest) := by
  have hlt : value.toNat < 256 ^ 4 := value.toNat_lt
  rw [getU32, encodeU32Be, getBE_append hlt, UInt32.ofNat_toNat]

theorem getU64_append (value : UInt64) (rest : List UInt8) :
    getU64 (encodeU64Be value ++ rest) = (value, rest) := by
  have hlt : value.toNat < 256 ^ 8 := value.toNat_lt
  rw [getU64, encodeU64Be, getBE_append hlt, UInt64.ofNat_toNat]

theorem getLimits_append (limits : StoreLimits) (rest : List UInt8) :
    getLimits (limitsBytes limits ++ rest) = (limits, rest) := by
  simp only [limitsBytes, List.append_assoc, getLimits, getU32_append, getU64_append]

theorem getBinding_append (binding : Binding) (rest : List UInt8) :
    getBinding ((encodeU32Be binding.storageSchema ++ encodeU32Be binding.role
      ++ encodeU32Be binding.environment ++ binding.runtimeId.toList ++ limitsBytes binding.limits
      ++ encodeU64Be binding.terminalRetentionMs ++ encodeU64Be binding.resultCacheRetentionMs
      ++ encodeU64Be binding.observationRetentionMs) ++ rest) = (binding, rest) := by
  have hid : binding.runtimeId.toList.length = 16 := Vector.length_toList
  simp only [List.append_assoc, getBinding, getU32_append, getU64_append, getBytes_append hid,
    getLimits_append, idOfBytes_toList]

@[simp] theorem length_bindingPrefix : bindingPrefix.length = 31 := by
  simp [bindingPrefix, profile]

@[simp] theorem length_bindingPayload (binding : Binding) :
    (bindingPayload binding).length = bindingPayloadBytes := by
  simp [bindingPayload, limitsBytes, bindingPayloadBytes]

/-- The profile in front of a binding is the one the decoder asks for. -/
theorem bindingPrefix_read (rest : List UInt8) :
    decodeU32Be (bindingPrefix ++ rest) 0 = 1 ∧ decodeU16Be (bindingPrefix ++ rest) 4 = 25 ∧
      slice (bindingPrefix ++ rest) 6 25 = profile := by
  simp only [bindingPrefix, List.append_assoc]
  refine ⟨decodeU32Be_first 1 _, decodeU16Be_field 25 (length_encodeU32Be 1), ?_⟩
  rw [← List.append_assoc (encodeU32Be 1)]
  exact slice_field (by simp) rfl

/-- **A binding that was encoded is decoded under its key.** -/
theorem binding_round_trip {binding : Binding} {capacity : ℕ} {encoded : List UInt8}
    (h : encodeBinding binding capacity = .ok encoded) :
    decodeBinding keyBinding encoded = .ok binding := by
  unfold encodeBinding at h
  split_ifs at h with hid
  obtain ⟨envelope, hdecode, hpayload⟩ := typed_round_trip recordTypeForKey_binding h
    (length_bindingPayload binding)
  obtain ⟨hversion, hlength, hprofile⟩ := bindingPrefix_read
    (encodeU32Be binding.storageSchema ++ encodeU32Be binding.role
      ++ encodeU32Be binding.environment ++ binding.runtimeId.toList ++ limitsBytes binding.limits
      ++ encodeU64Be binding.terminalRetentionMs ++ encodeU64Be binding.resultCacheRetentionMs
      ++ encodeU64Be binding.observationRetentionMs)
  have hread := getBinding_append binding []
  rw [List.append_nil] at hread
  simp only [decodeBinding, hdecode, hpayload]
  rw [bindingPayload, hversion, hlength, hprofile, if_neg (by simp),
    List.drop_left' length_bindingPrefix, hread]
  simp [hid]

/-! ### The identity -/

/-- The payload of an identity. -/
def identityPayload (identity : StoreIdentity) : List UInt8 :=
  encodeU32Be identity.flags
    ++ identity.deviceId.toList
    ++ identity.installationId.toList
    ++ identity.siteDomainId.toList
    ++ encodeU64Be identity.bindingEpoch
    ++ encodeU64Be identity.membershipEpoch

/-- `ninlil_model_runtime_store_encode_identity`. -/
def encodeIdentity (identity : StoreIdentity) (capacity : ℕ) : Except Status (List UInt8) :=
  if identityIsValid identity = false then .error .invalidArgument
  else encodeEnvelope .identity (identityPayload identity) capacity

/-- The fields of an identity, each at its offset. -/
def readIdentity (p : List UInt8) : StoreIdentity where
  flags := decodeU32Be p 0
  deviceId := idOfBytes (slice p 4 16)
  installationId := idOfBytes (slice p 20 16)
  siteDomainId := idOfBytes (slice p 36 16)
  bindingEpoch := decodeU64Be p 52
  membershipEpoch := decodeU64Be p 60

/-- `ninlil_model_runtime_store_decode_identity`. -/
def decodeIdentity (keyId : ℕ) (encoded : List UInt8) : Except Status StoreIdentity :=
  match decodeTypedEnvelope keyId .identity identityPayloadBytes encoded with
  | .error status => .error status
  | .ok envelope =>
    let identity := readIdentity envelope.payload
    if identityIsValid identity = false then .error .storageCorrupt else .ok identity

@[simp] theorem length_identityPayload (identity : StoreIdentity) :
    (identityPayload identity).length = identityPayloadBytes := by
  simp [identityPayload, identityPayloadBytes]

theorem readIdentity_payload (identity : StoreIdentity) :
    readIdentity (identityPayload identity) = identity := by
  obtain ⟨flags, device, installation, site, binding, membership⟩ := identity
  have field {pre post : List UInt8} {o : ℕ} (id : Id128) (h : pre.length = o) :
      idOfBytes (slice (pre ++ (id.toList ++ post)) o 16) = id := by
    rw [slice_field h Vector.length_toList, idOfBytes_toList]
  simp only [readIdentity, identityPayload, StoreIdentity.mk.injEq]
  refine ⟨?_, ?_, ?_, ?_, ?_, ?_⟩
  · simp only [List.append_assoc]
    exact decodeU32Be_first flags _
  · simp only [List.append_assoc]
    exact field device (by simp)
  · rw [List.append_assoc, List.append_assoc, List.append_assoc]
    exact field installation (by simp)
  · rw [List.append_assoc, List.append_assoc]
    exact field site (by simp)
  · rw [List.append_assoc]
    exact decodeU64Be_field binding (by simp)
  · exact decodeU64Be_last membership (by simp)

/-- **An identity that was encoded is decoded under its key.** -/
theorem identity_round_trip {identity : StoreIdentity} {capacity : ℕ} {encoded : List UInt8}
    (h : encodeIdentity identity capacity = .ok encoded) :
    decodeIdentity keyIdentity encoded = .ok identity := by
  unfold encodeIdentity at h
  split_ifs at h with hvalid
  obtain ⟨envelope, hdecode, hpayload⟩ := typed_round_trip recordTypeForKey_identity h
    (length_identityPayload identity)
  simp only [decodeIdentity, hdecode, hpayload, readIdentity_payload, if_neg hvalid]

/-! ### Counters -/

/-- The payload of a counter. -/
def counterPayload (counter : Counter) : List UInt8 :=
  encodeU32Be counter.kind ++ encodeU64Be counter.value ++ encodeU32Be counter.exhaustedMarker

/-- `ninlil_model_runtime_store_encode_counter`. -/
def encodeCounter (keyId : ℕ) (counter : Counter) (capacity : ℕ) : Except Status (List UInt8) :=
  if counterIsValid keyId counter = false then .error .invalidArgument
  else encodeEnvelope .counter (counterPayload counter) capacity

/-- The fields of a counter, each at its offset. -/
def readCounter (p : List UInt8) : Counter where
  kind := decodeU32Be p 0
  value := decodeU64Be p 4
  exhaustedMarker := decodeU32Be p 12

/-- `ninlil_model_runtime_store_decode_counter`. -/
def decodeCounter (keyId : ℕ) (encoded : List UInt8) : Except Status Counter :=
  match decodeTypedEnvelope keyId .counter counterPayloadBytes encoded with
  | .error status => .error status
  | .ok envelope =>
    let rawKind := (decodeU32Be envelope.payload 0).toNat
    let expectedKind := keyId - keyCounterTransaction + 1
    let counter := readCounter envelope.payload
    if rawKind < 1 ∨ rawKind > 4 ∨ rawKind ≠ expectedKind then .error .storageCorrupt
    else if counterIsValid keyId counter = false then .error .storageCorrupt
    else .ok counter

@[simp] theorem length_counterPayload (counter : Counter) :
    (counterPayload counter).length = counterPayloadBytes := by
  simp [counterPayload, counterPayloadBytes]

theorem readCounter_payload (counter : Counter) :
    readCounter (counterPayload counter) = counter := by
  obtain ⟨kind, value, marker⟩ := counter
  simp only [readCounter, counterPayload, Counter.mk.injEq]
  refine ⟨?_, ?_, ?_⟩
  · rw [List.append_assoc]
    exact decodeU32Be_first kind _
  · rw [List.append_assoc]
    exact decodeU64Be_field value (by simp)
  · exact decodeU32Be_last marker (by simp)

variable {keyId : ℕ}

/-- A valid counter has the kind of its key. -/
theorem kind_of_counterIsValid {counter : Counter} (h : counterIsValid keyId counter) :
    (keyCounterTransaction ≤ keyId ∧ keyId ≤ keyCounterVisitedOwner) ∧
      counter.kind.toNat = keyId - keyCounterTransaction + 1 := by
  unfold counterIsValid at h
  split_ifs at h with hkey
  simp only [Bool.and_eq_true, beq_iff_eq] at h
  exact ⟨by omega, h.1.1.1⟩

theorem recordTypeForKey_counter
    (h : keyCounterTransaction ≤ keyId ∧ keyId ≤ keyCounterVisitedOwner) :
    recordTypeForKey keyId = .ok .counter := by
  have hbinding : keyId ≠ keyBinding := by rintro rfl; exact absurd h.1 (by decide)
  have hidentity : keyId ≠ keyIdentity := by rintro rfl; exact absurd h.1 (by decide)
  rw [recordTypeForKey, if_neg hbinding, if_neg hidentity, if_pos h]

/-- **A counter that was encoded under a key is decoded under it.** -/
theorem counter_round_trip {counter : Counter} {capacity : ℕ} {encoded : List UInt8}
    (h : encodeCounter keyId counter capacity = .ok encoded) :
    decodeCounter keyId encoded = .ok counter := by
  unfold encodeCounter at h
  split_ifs at h with hvalid
  obtain ⟨hkey, hkind⟩ := kind_of_counterIsValid (by simpa using hvalid)
  obtain ⟨envelope, hdecode, hpayload⟩ := typed_round_trip (recordTypeForKey_counter hkey) h
    (length_counterPayload counter)
  have hread := readCounter_payload counter
  have hraw : (decodeU32Be (counterPayload counter) 0).toNat =
      keyId - keyCounterTransaction + 1 := by
    rw [← hkind]
    exact congrArg (fun c : Counter => c.kind.toNat) hread
  simp only [keyCounterTransaction, keyCounterVisitedOwner] at hkey hraw
  simp only [decodeCounter, hdecode, hpayload, hraw, hread, keyCounterTransaction]
  rw [if_neg (by omega), if_neg hvalid]

/-! ### Capacities -/

/-- The payload of a capacity entry. -/
def capacityPayload (entry : Capacity) : List UInt8 :=
  encodeU32Be entry.kind
    ++ encodeU64Be entry.limit
    ++ encodeU64Be entry.used
    ++ encodeU64Be entry.reserved
    ++ encodeU64Be entry.highWater
    ++ encodeU64Be entry.capacityEpoch
    ++ encodeU32Be entry.blocked
    ++ encodeU32Be entry.counterExhausted

/-- `ninlil_model_runtime_store_encode_capacity`. -/
def encodeCapacity (keyId : ℕ) (entry : Capacity) (capacity : ℕ) : Except Status (List UInt8) :=
  if capacityIsValid keyId entry = false then .error .invalidArgument
  else encodeEnvelope .capacity (capacityPayload entry) capacity

/-- The fields of a capacity entry, each at its offset. -/
def readCapacity (p : List UInt8) : Capacity where
  kind := decodeU32Be p 0
  limit := decodeU64Be p 4
  used := decodeU64Be p 12
  reserved := decodeU64Be p 20
  highWater := decodeU64Be p 28
  capacityEpoch := decodeU64Be p 36
  blocked := decodeU32Be p 44
  counterExhausted := decodeU32Be p 48

/-- `ninlil_model_runtime_store_decode_capacity`. -/
def decodeCapacity (keyId : ℕ) (encoded : List UInt8) : Except Status Capacity :=
  match decodeTypedEnvelope keyId .capacity capacityPayloadBytes encoded with
  | .error status => .error status
  | .ok envelope =>
    let rawKind := (decodeU32Be envelope.payload 0).toNat
    let expectedKind := keyId - keyCapacityService + 1
    let entry := readCapacity envelope.payload
    if rawKind < 1 ∨ rawKind > 11 ∨ rawKind ≠ expectedKind then .error .storageCorrupt
    else if capacityIsValid keyId entry = false then .error .storageCorrupt
    else .ok entry

@[simp] theorem length_capacityPayload (entry : Capacity) :
    (capacityPayload entry).length = capacityPayloadBytes := by
  simp [capacityPayload, capacityPayloadBytes]

theorem readCapacity_payload (entry : Capacity) : readCapacity (capacityPayload entry) = entry := by
  obtain ⟨kind, limit, used, reserved, highWater, epoch, blocked, exhausted⟩ := entry
  simp only [readCapacity, capacityPayload, Capacity.mk.injEq]
  refine ⟨?_, ?_, ?_, ?_, ?_, ?_, ?_, ?_⟩
  · simp only [List.append_assoc]
    exact decodeU32Be_first kind _
  · simp only [List.append_assoc]
    exact decodeU64Be_field limit (by simp)
  · rw [List.append_assoc, List.append_assoc, List.append_assoc, List.append_assoc,
      List.append_assoc]
    exact decodeU64Be_field used (by simp)
  · rw [List.append_assoc, List.append_assoc, List.append_assoc, List.append_assoc]
    exact decodeU64Be_field reserved (by simp)
  · rw [List.append_assoc, List.append_assoc, List.append_assoc]
    exact decodeU64Be_field highWater (by simp)
  · rw [List.append_assoc, List.append_assoc]
    exact decodeU64Be_field epoch (by simp)
  · rw [List.append_assoc]
    exact decodeU32Be_field blocked (by simp)
  · exact decodeU32Be_last exhausted (by simp)

/-- A valid capacity entry has the kind of its key. -/
theorem kind_of_capacityIsValid {entry : Capacity} (h : capacityIsValid keyId entry) :
    (keyCapacityService ≤ keyId ∧ keyId ≤ keyCapacityDeferredToken) ∧
      entry.kind.toNat = keyId - keyCapacityService + 1 := by
  unfold capacityIsValid at h
  split_ifs at h with hkey
  dsimp only at h
  split_ifs at h with hfields
  exact ⟨by omega, by tauto⟩

theorem recordTypeForKey_capacity
    (h : keyCapacityService ≤ keyId ∧ keyId ≤ keyCapacityDeferredToken) :
    recordTypeForKey keyId = .ok .capacity := by
  have hbinding : keyId ≠ keyBinding := by rintro rfl; exact absurd h.1 (by decide)
  have hidentity : keyId ≠ keyIdentity := by rintro rfl; exact absurd h.1 (by decide)
  have hcounter : ¬(keyCounterTransaction ≤ keyId ∧ keyId ≤ keyCounterVisitedOwner) := by
    rintro ⟨-, hle⟩
    exact absurd (h.1.trans hle) (by decide)
  rw [recordTypeForKey, if_neg hbinding, if_neg hidentity, if_neg hcounter, if_pos h]

/-- **A capacity entry that was encoded under a key is decoded under it.** -/
theorem capacity_round_trip {entry : Capacity} {capacity : ℕ} {encoded : List UInt8}
    (h : encodeCapacity keyId entry capacity = .ok encoded) :
    decodeCapacity keyId encoded = .ok entry := by
  unfold encodeCapacity at h
  split_ifs at h with hvalid
  obtain ⟨hkey, hkind⟩ := kind_of_capacityIsValid (by simpa using hvalid)
  obtain ⟨envelope, hdecode, hpayload⟩ := typed_round_trip (recordTypeForKey_capacity hkey) h
    (length_capacityPayload entry)
  have hread := readCapacity_payload entry
  have hraw : (decodeU32Be (capacityPayload entry) 0).toNat = keyId - keyCapacityService + 1 := by
    rw [← hkind]
    exact congrArg (fun e : Capacity => e.kind.toNat) hread
  simp only [keyCapacityService, keyCapacityDeferredToken] at hkey hraw
  simp only [decodeCapacity, hdecode, hpayload, hraw, hread, keyCapacityService]
  rw [if_neg (by omega), if_neg hvalid]

end Ninlil.RuntimeStore
