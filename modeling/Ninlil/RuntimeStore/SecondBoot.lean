import Ninlil.RuntimeStore.Bootstrap

/-!
# The second boot

A first boot writes the seventeen records of its plan; a second boot reads them, validates them
together and compares them with a plan of its own.

* `Holds`, `validateSnapshot_ok`: values that decode to the fields of a snapshot;
* `bindingIsEqual_iff`, `decideIdentity_self`: what the two comparisons look at;
* `second_boot`: every accepted configuration finds its own store again, and no other binding does.
-/

namespace Ninlil.RuntimeStore

open Bytes Resource

/-! ### Validating what was written -/

/-- The two snapshots have the same record at an index. -/
def AgreeAt (s t : ValidatedSnapshot) (index : Fin bootstrapRecordCount) : Prop :=
  if index.val = 0 then s.binding = t.binding
  else if index.val = 1 then s.identity = t.identity
  else if index.val < 6 then
    s.counters (Fin.ofNat 4 (index.val - 2)) = t.counters (Fin.ofNat 4 (index.val - 2))
  else s.capacities (Fin.ofNat kindCount (index.val - 6)) =
    t.capacities (Fin.ofNat kindCount (index.val - 6))

/-- The values decode, one by one, to the records of a snapshot. -/
structure Holds (values : Fin bootstrapRecordCount → List UInt8) (t : ValidatedSnapshot) :
    Prop where
  binding : decodeBinding keyBinding (values 0) = .ok t.binding
  identity : decodeIdentity keyIdentity (values 1) = .ok t.identity
  counters : ∀ index : Fin bootstrapRecordCount, 2 ≤ index.val → index.val < 6 →
    decodeCounter (index.val + 1) (values index) = .ok (t.counters (Fin.ofNat 4 (index.val - 2)))
  capacities : ∀ index : Fin bootstrapRecordCount, 6 ≤ index.val →
    decodeCapacity (index.val + 1) (values index) =
      .ok (t.capacities (Fin.ofNat kindCount (index.val - 6)))

variable {values : Fin bootstrapRecordCount → List UInt8} {s t : ValidatedSnapshot}
  {scan : SnapshotScan}

/-- Snapshots that agree at every index are equal. -/
theorem eq_of_agreeAt (h : ∀ index, AgreeAt s t index) : s = t := by
  obtain ⟨binding, identity, counters, capacities⟩ := s
  have hbinding : binding = t.binding := h 0
  have hidentity : identity = t.identity := h 1
  have hcounters : counters = t.counters := by
    funext i
    have hlt : i.val + 2 < 17 := by omega
    have hi := h ⟨i.val + 2, hlt⟩
    simpa [AgreeAt, show i.val + 2 < 6 by omega] using hi
  have hcapacities : capacities = t.capacities := by
    funext i
    have hlt : i.val + 6 < 17 := Nat.add_lt_add_right i.isLt 6
    have hi := h ⟨i.val + 6, hlt⟩
    simpa [AgreeAt] using hi
  rw [hbinding, hidentity, hcounters, hcapacities]

/-- A snapshot with the record at an index taken from another one. -/
def takeAt (t s : ValidatedSnapshot) (index : Fin bootstrapRecordCount) : ValidatedSnapshot :=
  if index.val = 0 then { s with binding := t.binding }
  else if index.val = 1 then { s with identity := t.identity }
  else if index.val < 6 then
    let i := Fin.ofNat 4 (index.val - 2)
    { s with counters := Function.update s.counters i (t.counters i) }
  else
    let i := Fin.ofNat kindCount (index.val - 6)
    { s with capacities := Function.update s.capacities i (t.capacities i) }

/-- Overwriting a place of `f` with the value of `g` there keeps every agreement. -/
theorem update_agrees {ι α : Type} [DecidableEq ι] {f g : ι → α} {i j : ι}
    (h : j ≠ i → f j = g j) : Function.update f i (g i) j = g j := by
  by_cases hij : j = i
  · rw [hij, Function.update_self]
  · rw [Function.update_of_ne hij, h hij]

/-- Taking a record makes the snapshots agree there, and disturbs no other agreement. -/
theorem takeAt_agrees {index j : Fin bootstrapRecordCount} (h : j ≠ index → AgreeAt s t j) :
    AgreeAt (takeAt t s index) t j := by
  by_cases hj : j = index
  · subst hj
    unfold AgreeAt takeAt
    split_ifs
    · rfl
    · rfl
    · exact Function.update_self ..
    · exact Function.update_self ..
  · have hagree := h hj
    simp only [AgreeAt, takeAt] at hagree ⊢
    split_ifs at hagree ⊢
    all_goals first
      | rfl
      | exact hagree
      | exact update_agrees fun _ => hagree

/-- The loop body takes over the record at its index. -/
theorem decodeAt_eq (h : Holds values t) (scan : SnapshotScan)
    (index : Fin bootstrapRecordCount) :
    decodeAt values scan index = { scan with snapshot := takeAt t scan.snapshot index } := by
  simp only [decodeAt, takeAt]
  split_ifs with h0 h1 h6
  · obtain rfl : index = 0 := Fin.ext h0
    rw [show ((0 : Fin bootstrapRecordCount).val + 1) = keyBinding from rfl, h.binding]
    rfl
  · obtain rfl : index = 1 := Fin.ext h1
    rw [show ((1 : Fin bootstrapRecordCount).val + 1) = keyIdentity from rfl, h.identity]
    rfl
  · rw [h.counters index (by omega) h6]
    rfl
  · rw [h.capacities index (by omega)]
    rfl

/-- The whole loop agrees at every index it has visited. -/
theorem foldl_decodeAt (h : Holds values t) (indices : List (Fin bootstrapRecordCount))
    (scan : SnapshotScan) :
    ∃ s, indices.foldl (decodeAt values) scan = { scan with snapshot := s } ∧
      ∀ j, (j ∉ indices → AgreeAt scan.snapshot t j) → AgreeAt s t j := by
  induction indices generalizing scan with
  | nil => exact ⟨scan.snapshot, rfl, fun j hj => hj (List.not_mem_nil)⟩
  | cons index indices ih =>
    rw [List.foldl_cons, decodeAt_eq h]
    obtain ⟨s, hrun, hagree⟩ := ih { scan with snapshot := takeAt t scan.snapshot index }
    refine ⟨s, hrun, fun j hj => hagree j fun hout => takeAt_agrees fun hne => hj ?_⟩
    simp [hne, hout]

/-- **Values that decode to the records of a snapshot validate to it.** -/
theorem validateSnapshot_ok (h : Holds values t) : validateSnapshot values = .ok t := by
  obtain ⟨s, hrun, hagree⟩ := foldl_decodeAt h (List.finRange bootstrapRecordCount) {}
  obtain rfl : s = t := eq_of_agreeAt fun j => hagree j fun hout =>
    absurd (List.mem_finRange j) hout
  simp [validateSnapshot, hrun]

/-! ### What the comparisons look at -/

theorem idIsEqual_iff {left right : Id128} : idIsEqual left right = true ↔ left = right := by
  constructor
  · intro h
    apply Vector.ext
    intro i hi
    have hget := List.all_eq_true.1 h ⟨i, hi⟩ (List.mem_finRange _)
    exact beq_iff_eq.1 hget
  · rintro rfl
    simp [idIsEqual]

/-- The comparison of bindings leaves no field out. -/
theorem bindingIsEqual_iff {left right : Binding} :
    bindingIsEqual left right = true ↔ left = right := by
  constructor
  · intro h
    obtain ⟨schema, role, environment, runtimeId, limits, terminal, cache, observation⟩ := left
    obtain ⟨schema', role', environment', runtimeId', limits', terminal', cache', observation'⟩ :=
      right
    simp only [bindingIsEqual, Bool.and_eq_true, beq_iff_eq, idIsEqual_iff] at h
    simp only [Binding.mk.injEq, StoreLimits.ext_iff, h, and_self]
  · rintro rfl
    simp [bindingIsEqual, idIsEqual_iff]

theorem compareBinding_eq_exact {stored : ValidatedSnapshot} {candidate : Binding} :
    compareBinding stored candidate = .exact ↔ stored.binding = candidate := by
  rw [← bindingIsEqual_iff]
  unfold compareBinding
  split_ifs with h <;> simp [h]

/-- A valid identity is exactly itself. -/
theorem decideIdentity_self {stored : ValidatedSnapshot}
    (h : identityIsValid stored.identity = true) :
    decideIdentity stored stored.identity = .ok .exact := by
  have heq (id : Id128) : idIsEqual id id = true := idIsEqual_iff.2 rfl
  simp [decideIdentity, h, heq]

/-! ### From a configuration to its second boot -/

/-- The snapshot a plan is meant to leave behind. -/
def snapshotOf (plan : BootstrapPlan) : ValidatedSnapshot where
  binding := plan.binding
  identity := plan.identity
  counters := fun i => bootstrapCounter (i.val + 2)
  capacities := fun i => bootstrapCapacity plan (i.val + 6)

/-- The values of a plan's records decode to its snapshot. -/
theorem holds_of_records {plan : BootstrapPlan}
    {records : Fin bootstrapRecordCount → BootstrapRecord}
    (h : ∀ index, RecordAt plan index.val (records index)) :
    Holds (fun index => (records index).value) (snapshotOf plan) where
  binding := binding_round_trip (h 0).value
  identity := identity_round_trip (h 1).value
  counters index hlow hhigh := by
    have hvalue := (h index).value
    have hplace : (Fin.ofNat 4 (index.val - 2)).val + 2 = index.val := by
      rw [Fin.val_ofNat, Nat.mod_eq_of_lt (by omega)]
      omega
    rw [bootstrapValueAt, if_neg (by omega), if_neg (by omega), if_pos hhigh] at hvalue
    show _ = Except.ok (bootstrapCounter ((Fin.ofNat 4 (index.val - 2)).val + 2))
    rw [hplace]
    exact counter_round_trip hvalue
  capacities index hlow := by
    have hvalue := (h index).value
    have hlt : index.val < 17 := index.isLt
    have hplace : (Fin.ofNat kindCount (index.val - 6)).val + 6 = index.val := by
      rw [Fin.val_ofNat, Nat.mod_eq_of_lt (show index.val - 6 < 11 by omega)]
      omega
    rw [bootstrapValueAt, if_neg (by omega), if_neg (by omega), if_neg (by omega)] at hvalue
    show _ = Except.ok (bootstrapCapacity plan ((Fin.ofNat kindCount (index.val - 6)).val + 6))
    rw [hplace]
    exact capacity_round_trip hvalue

/-- The identity shape of the configuration is what the store asks of an identity. -/
theorem identityIsValid_of_shape {config : RuntimeConfig}
    (hflags : config.localIdentity.flags &&& ~~~knownIdentityFlags = 0)
    (h : localIdentityShapeIsValid config.localIdentity = true) :
    identityIsValid (projectedIdentity (projectAcceptedConfig config)) = true := by
  simp only [localIdentityShapeIsValid, Bool.and_eq_true, bne_iff_ne, ne_eq, beq_iff_eq] at h
  obtain ⟨⟨⟨⟨⟨⟨hdevice, hsite⟩, hdeviceId⟩, hinstallation⟩, hsiteId⟩, hbinding⟩, hmembership⟩ := h
  have hdeviceSet : (config.localIdentity.flags &&& hasDevice != 0) = true := by simpa using hdevice
  have hsiteSet : (config.localIdentity.flags &&& hasSite != 0) = true := by simpa using hsite
  have hbits : ((config.localIdentity.flags &&& hasDevice |||
      config.localIdentity.flags &&& hasInstallation) != 0) = true := by
    rw [bne_iff_ne]
    intro hzero
    exact hdevice (UInt32.or_eq_zero_iff.1 hzero).1
  rw [hdeviceSet] at hdeviceId
  rw [hsiteSet] at hsiteId hmembership
  rw [hbits] at hbinding
  simp [identityIsValid, projectedIdentity, projectAcceptedConfig, hflags, hdevice, hsite,
    ← hdeviceId, ← hinstallation, ← hsiteId, ← hbinding, ← hmembership]

/-- An accepted result is projected, and its plan is ready. -/
theorem projectConfig_of_accepted {build : Build} {config : RuntimeConfig}
    {derived : CapacityLimits} (h : Accepted build config derived) :
    let validation : ValidationResult :=
      { status := .ok, failureField := .none, capacityLimits := derived,
        acceptedConfig := projectAcceptedConfig config }
    let binding := projectedBinding (projectAcceptedConfig config)
    let identity := projectedIdentity (projectAcceptedConfig config)
    projectConfig validation = .ok (binding, identity) ∧
      (planOf validation binding identity).Ready := by
  intro validation binding identity
  -- the derivation reads the limits only, which the two projections copy
  have hderives : deriveCapacityLimits (projectedLimits validation.acceptedConfig.limits) =
      some derived := h.derives
  have hsame : ((List.finRange kindCount).any fun i =>
      derived i != validation.capacityLimits i) = false := by
    simp [validation]
  refine ⟨?_, ?_⟩
  · simp only [projectConfig, hderives]
    rw [if_neg (by simp [validation]), if_neg (by simp [hsame])]
  · exact
      { runtimeId := h.runtimeId
        identity := identityIsValid_of_shape h.knownFlags h.identityShape
        recordCount := rfl
        logicalBytes := rfl
        encodedBytes := rfl }

/-- What a first boot leaves to a second one with the same validated configuration. -/
structure SecondBoot (validation : ValidationResult) (plan : BootstrapPlan)
    (records : Fin bootstrapRecordCount → BootstrapRecord) (snapshot : ValidatedSnapshot) :
    Prop where
  planned : buildBootstrapPlan validation = .ok plan
  written : ∀ index, bootstrapRecordAt plan index.val = .ok (records index)
  keysDistinct : Function.Injective fun index => (records index).key
  keysParse : ∀ index, parseKey (records index).key = .ok (index.val + 1)
  validates : validateSnapshot (fun index => (records index).value) = .ok snapshot
  bindingExact : compareBinding snapshot plan.binding = .exact
  identityExact : decideIdentity snapshot plan.identity = .ok .exact
  capacities : ∀ i, snapshot.capacities i =
    { kind := kindAt i, limit := validation.capacityLimits i, used := 0, reserved := 0,
      highWater := 0, capacityEpoch := 1, blocked := 0, counterExhausted := 0 }

/-- A ready plan that was built has its second boot. -/
theorem secondBoot_of_ready {validation : ValidationResult} {binding : Binding}
    {identity : StoreIdentity} (hproject : projectConfig validation = .ok (binding, identity))
    (h : (planOf validation binding identity).Ready) :
    ∃ records, SecondBoot validation (planOf validation binding identity) records
      (snapshotOf (planOf validation binding identity)) := by
  choose records hrecords using fun index : Fin bootstrapRecordCount =>
    bootstrapRecordAt_ok h index.isLt
  refine ⟨records, ?_⟩
  constructor
  case planned => exact buildBootstrapPlan_ok hproject h
  case written => exact fun index => (hrecords index).written
  case keysDistinct =>
    intro i j hij
    have hkeys : (records i).key = (records j).key := hij
    have hparse := (hrecords i).parses
    rw [hkeys, (hrecords j).parses] at hparse
    exact Fin.ext (by simpa using hparse.symm)
  case keysParse => exact fun index => (hrecords index).parses
  case validates => exact validateSnapshot_ok (holds_of_records hrecords)
  case bindingExact => exact compareBinding_eq_exact.2 rfl
  case identityExact => exact decideIdentity_self h.identity
  case capacities =>
    intro i
    have hplace : Fin.ofNat kindCount i.val = i := Fin.ext (Nat.mod_eq_of_lt i.isLt)
    show bootstrapCapacity (planOf validation binding identity) (i.val + 6) = _
    simp only [bootstrapCapacity, Nat.add_sub_cancel, hplace]
    rfl

/-- **A first boot is always followed by a successful second boot.**  For every configuration that
is accepted, the plan is built, its seventeen records carry distinct keys that parse back to the
identifiers 1 to 17, their values validate to a snapshot with exactly the plan's binding and
identity, and its capacities are the derived limits, unused.  Another accepted configuration finds
its own binding there only if it is the same binding. -/
theorem second_boot (build : Build) (config : Option RuntimeConfig)
    (platform : Option PlatformOps)
    (h : (validateAndDerive build config platform).status = .ok) :
    ∃ plan records snapshot,
      SecondBoot (validateAndDerive build config platform) plan records snapshot ∧
      (∃ accepted, config = some accepted ∧ deriveCapacityLimits accepted.limits =
        some (validateAndDerive build config platform).capacityLimits) ∧
      ∀ (build' : Build) (config' : Option RuntimeConfig) (platform' : Option PlatformOps)
        (plan' : BootstrapPlan), (validateAndDerive build' config' platform').status = .ok →
        buildBootstrapPlan (validateAndDerive build' config' platform') = .ok plan' →
        plan'.binding ≠ plan.binding → compareBinding snapshot plan'.binding ≠ .exact := by
  obtain ⟨accepted, derived, hconfig, haccepted, hresult⟩ := validateAndDerive_ok h
  obtain ⟨hproject, hready⟩ := projectConfig_of_accepted haccepted
  obtain ⟨records, hboot⟩ := secondBoot_of_ready hproject hready
  rw [hresult]
  refine ⟨_, records, _, hboot, ⟨accepted, hconfig, haccepted.derives⟩, ?_⟩
  intro build' config' platform' plan' _ _ hne hexact
  exact hne (compareBinding_eq_exact.1 hexact).symm

/-- A configuration of an endpoint, accepted. -/
def endpointConfig : RuntimeConfig where
  abiVersion := 1
  structSize := 256
  role := 2
  environment := 1
  runtimeId := Vector.replicate 16 7
  localIdentity :=
    { abiVersion := 1, structSize := 80, deviceId := Vector.replicate 16 1
      installationId := zeroId, siteDomainId := Vector.replicate 16 3
      bindingEpoch := 5, membershipEpoch := 6, flags := 5, reservedZero := 0 }
  storageNamespace := { data := some [110], length := 1 }
  limits :=
    { abiVersion := 1, structSize := 96, maxServices := 4, maxNonterminalTransactions := 8
      maxTargetsPerTransaction := 2, maxLogicalPayloadBytes := 512
      maxDurableOutboxPayloadBytes := 0, maxAttemptsPerTargetPerCycle := 8
      maxCancelAttemptsPerTransaction := 1, maxEvidencePerTarget := 4
      maxRetainedTerminalTransactions := 16, maxNonterminalDeliveries := 8
      maxEventSpoolCount := 4, maxEventSpoolBytes := 4096, maxResultCacheEntries := 16
      maxRetainedDispositions := 16, maxIngressPerStep := 8, maxCallbacksPerStep := 8
      maxStateTransitionsPerStep := 8, maxBearerSendsPerStep := 8, maxDeferredTokens := 4
      reservedZero := 0 }
  terminalRetentionMs := 86400000
  resultCacheRetentionMs := 3600000
  observationRetentionMs := 0
  reservedZero := 0

/-- A platform with every table complete. -/
def completePlatform : PlatformOps where
  abiVersion := 1
  structSize := 72
  allocator := some ⟨1, 112, fun _ => true⟩
  execution := some ⟨1, 112, fun _ => true⟩
  clock := some ⟨1, 112, fun _ => true⟩
  entropy := some ⟨1, 112, fun _ => true⟩
  storage := some ⟨1, 112, fun _ => true⟩
  bearer := some ⟨1, 112, fun _ => true⟩
  txGate := some ⟨1, 112, fun _ => true⟩
  originAuthorization := some ⟨1, 112, fun _ => true⟩

/-- The sizes where pointers have eight bytes. -/
def build64 : Build where
  sizes :=
    { config := 256, platform := 72, localIdentity := 80, limits := 96, allocator := 32
      execution := 24, clock := 24, entropy := 24, storage := 112, bearer := 64, txGate := 32
      originAuthorization := 24 }
  mfdtV1Private := false

theorem second_boot_endpoint : ∃ plan records snapshot,
    SecondBoot (validateAndDerive build64 (some endpointConfig) (some completePlatform)) plan
      records snapshot := by
  obtain ⟨plan, records, snapshot, hboot, -, -⟩ :=
    second_boot build64 (some endpointConfig) (some completePlatform) (by decide +kernel)
  exact ⟨plan, records, snapshot, hboot⟩

end Ninlil.RuntimeStore
