import Ninlil.Lib.ExchangeSort
import Ninlil.Lib.Guard

/-!
# The choice of a path

A snapshot of policies, registered paths, authorities and attempts under way is resolved to one path,
or to the reason why there is none.

* `Query`, `Policy`, `RegistryRow`, `AuthorityRow`, `Snapshot`: what is resolved;
* `Snapshot.current`: the policies that match the query, each at its last revision;
* `admit`: the tests that a candidate of the policy has to pass, and the first one that it fails;
* `select`: the candidates that pass, sorted, and the first one of these.

Reservations are added in 32-bit words, and time is subtracted in 64-bit words, as in the code.
-/

namespace Ninlil.Fabric

open ExchangeSort Guard

abbrev Id := Vector UInt8 16

abbrev Digest := Vector UInt8 32

/-- The identifier that stands for none. -/
def Id.zero : Id := Vector.replicate 16 0

/-! ### Snapshots -/

structure Query where
  serviceIdentityDigest : Digest
  family : UInt32
  direction : UInt32
  trafficClass : UInt16
  sourceRuntimeId : Id
  targetRuntimeId : Id
  targetApplicationId : Id
  packetBytes : UInt32
  transferBytes : UInt32
  nowMs : UInt64
  deadlineMs : UInt64
  deadlineClockEpochId : Id
  admissionClockEpochId : Id
  availabilityClockEpochId : Id
  attestationClockEpochId : Id
  authorityClockEpochId : Id
  requiredCapabilityFlags : UInt32
  requiredSecurityFlags : UInt32
  requiresSleepCompatible : UInt32
  requiresCustody : UInt32
  requiresEvidence : UInt32
  authenticatedPeerRuntimeId : Id
  attachmentAuthorityId : Id
  attachmentBindingDigest : Digest
  rfPermitValid : UInt32
  rfMappingAccepted : UInt32

structure RegistryRow where
  instanceId : Id
  linkKind : UInt32
  directionMask : UInt32
  capabilityFlags : UInt32
  securityCapabilityFlags : UInt32
  maximumPacketBytes : UInt32
  maximumTransferBytes : UInt32
  latencyClass : UInt16
  costClass : UInt16
  reservationCapacity : UInt16
  lifecycle : UInt8
  peerNfl1Version : UInt16
  peerFabricCapabilityFlags : UInt32
  authenticatedPeerRuntimeId : Id
  attachmentAuthorityId : Id
  attachmentBindingDigest : Digest
  attestationClockEpochId : Id
  attestationExpiresAtMs : UInt64
  availabilityClockEpochId : Id
  availabilityState : UInt8
  availabilityExpiresAtMs : UInt64
  rfMappingApproved : UInt32

structure AuthorityRow where
  serviceIdentityDigest : Digest
  family : UInt32
  direction : UInt32
  trafficClass : UInt16
  scopeSelector : UInt16
  endpointRuntimeId : Id
  targetRuntimeId : Id
  targetApplicationId : Id
  policyId : Id
  policyRevision : UInt64
  policyDigest : Digest
  authorityState : UInt32
  authorityClockEpochId : Id
  leaseExpiresAtMs : UInt64

structure ActiveAttempt where
  instanceId : Id
  state : UInt32
  reservationUnits : UInt16

structure Candidate where
  instanceId : Id
  rank : UInt16
  reservationUnits : UInt16

structure Policy where
  policyId : Id
  revision : UInt64
  canonicalDigest : Digest
  serviceIdentityDigest : Digest
  family : UInt32
  direction : UInt32
  trafficClass : UInt16
  scopeSelector : UInt16
  requiredCapabilityFlags : UInt32
  requiredSecurityFlags : UInt32
  maximumLatencyClass : UInt16
  maximumCostClass : UInt16
  minimumPacketBytes : UInt32
  authorityMode : UInt8
  deadlineGuardMs : UInt64
  candidates : List Candidate
  candidates_le : candidates.length ≤ 8
  revisionChain : List UInt64
  revisionChain_le : revisionChain.length ≤ 8

/-- What a path is chosen from, with the bounds of its arrays. -/
structure Snapshot where
  outerAvailable : UInt32
  query : Query
  policies : List Policy
  policies_le : policies.length ≤ 4
  registry : List RegistryRow
  registry_le : registry.length ≤ 16
  authorities : List AuthorityRow
  authorities_le : authorities.length ≤ 16
  activeAttempts : List ActiveAttempt
  activeAttempts_le : activeAttempts.length ≤ 64

/-! ### Results -/

inductive Resolution
  | selected
  | noEligible
  | noPolicy
  | corrupt
  deriving DecidableEq

/-- Why there is no path, or why a candidate is none. -/
inductive Rejection
  | invalidSnapshot
  | metaOuterUnavailable
  | policyRevisionGap
  | policyNoMatch
  | policyAmbiguous
  | scopeSelectorUnknown
  | registryJoinMissing
  | registryJoinAmbiguous
  | authorityJoinMissing
  | authorityJoinAmbiguous
  | lifecycleDraining
  | directionMismatch
  | structuralLengthFloor
  | structuralLengthCeiling
  | packetMinimum
  | packetMtu
  | transferMtu
  | latencyClass
  | costClass
  | deadlineGuard
  | retryLifetimeClockEpoch
  | reservationCapacity
  | capabilityMissing
  | energySleepCapabilityMissing
  | securityMissing
  | custodyMissing
  | evidenceMissing
  | peerNfl1
  | authenticatedPeerAbsent
  | authenticatedPeerMismatch
  | attachmentAbsent
  | attachmentAuthorityMismatch
  | attachmentBindingMismatch
  | attestationEpoch
  | attestationExpired
  | availabilityEpoch
  | availabilityState
  | availabilityExpired
  | boundRequiredAbsent
  | authorityClockEpoch
  | authorityLeaseExpired
  | rfPermit
  | rfMappingUnsupported
  | rfPathNotApproved
  deriving DecidableEq

/-- What is found about a candidate. -/
structure Eval where
  instanceId : Id
  eligible : Bool
  primaryRejection : Option Rejection
  sortRank : UInt16
  sortLatency : UInt16
  sortCost : UInt16

structure Result where
  resolution : Resolution
  primaryRejection : Option Rejection
  evaluated : List Eval
  selectedInstanceId : Id
  hasSelection : Bool

/-- A result without a path. -/
def Result.refused (resolution : Resolution) (reason : Rejection) : Result :=
  ⟨resolution, some reason, [], .zero, false⟩

/-! ### Policies -/

/-- Each revision is the one after the revision before it. -/
def contiguous : List UInt64 → Bool
  | a :: b :: chain => b == a + 1 && contiguous (b :: chain)
  | _ => true

/-- The chain is empty, does not end at the revision, or has a gap. -/
def Policy.gap (p : Policy) : Bool :=
  p.revisionChain.getLast? != some p.revision || !contiguous p.revisionChain

def Policy.matches (p : Policy) (q : Query) : Bool :=
  p.serviceIdentityDigest == q.serviceIdentityDigest && p.family == q.family &&
    p.direction == q.direction && p.trafficClass == q.trafficClass

/-- The policies that match the query and of which there is no later revision. -/
def Snapshot.current (s : Snapshot) : List Policy :=
  s.policies.filter fun p => p.matches s.query &&
    -- No row is later than itself, so that the row itself need not be left out.
    !s.policies.any fun o => o.policyId == p.policyId && p.revision < o.revision

/-- The runtime that a policy is about. -/
def Policy.endpoint (p : Policy) (q : Query) : Option Id :=
  if p.scopeSelector = 1 then some q.sourceRuntimeId
  else if p.scopeSelector = 2 then some q.targetRuntimeId
  else none

/-! ### Joins -/

/-- The only row there is. -/
def joined {α : Type} (rows : List α) (missing ambiguous : Rejection) : Except Rejection α :=
  match rows with
  | [] => .error missing
  | [row] => .ok row
  | _ => .error ambiguous

def Snapshot.registryRows (s : Snapshot) (c : Candidate) : List RegistryRow :=
  s.registry.filter fun r => r.instanceId == c.instanceId

def Snapshot.authorityRows (s : Snapshot) (p : Policy) (endpoint : Id) : List AuthorityRow :=
  s.authorities.filter fun r =>
    r.serviceIdentityDigest == s.query.serviceIdentityDigest && r.family == s.query.family &&
      r.direction == s.query.direction && r.trafficClass == s.query.trafficClass &&
      r.scopeSelector == p.scopeSelector && r.endpointRuntimeId == endpoint &&
      r.targetRuntimeId == s.query.targetRuntimeId &&
      r.targetApplicationId == s.query.targetApplicationId && r.policyId == p.policyId &&
      r.policyRevision == p.revision && r.policyDigest == p.canonicalDigest

/-! ### The tests of a candidate -/

section Tests

variable (q : Query) (p : Policy) (reg : RegistryRow)

def checkPath : Except Rejection Unit := do
  require (reg.lifecycle = 1) .lifecycleDraining
  require (reg.directionMask &&& 1 ≠ 0) .directionMismatch
  require (587 ≤ q.packetBytes) .structuralLengthFloor
  require (q.packetBytes ≤ 1925) .structuralLengthCeiling
  require (p.minimumPacketBytes ≤ q.packetBytes) .packetMinimum
  require (q.packetBytes ≤ reg.maximumPacketBytes) .packetMtu
  require (q.transferBytes ≤ reg.maximumTransferBytes) .transferMtu
  require (reg.latencyClass ≤ p.maximumLatencyClass) .latencyClass
  require (reg.costClass ≤ p.maximumCostClass) .costClass
  require (¬(q.deadlineMs < q.nowMs ∨ q.deadlineMs - q.nowMs < p.deadlineGuardMs)) .deadlineGuard
  require (q.deadlineClockEpochId = q.admissionClockEpochId ∧
    q.deadlineClockEpochId = q.availabilityClockEpochId) .retryLifetimeClockEpoch

/-- An attempt that holds units of a path: prepared, or retained by its link. -/
def ActiveAttempt.holds (t : ActiveAttempt) (id : Id) : Bool :=
  t.instanceId == id && (t.state == 1 || t.state == 2)

/-- The units held, in a 32-bit word. -/
def usedUnits (attempts : List ActiveAttempt) (id : Id) : UInt32 :=
  attempts.foldl
    (fun used t => if t.holds id then used + t.reservationUnits.toUInt32 else used) 0

def checkReservation (attempts : List ActiveAttempt) (c : Candidate) : Except Rejection Unit :=
  require (usedUnits attempts c.instanceId + c.reservationUnits.toUInt32 ≤
    reg.reservationCapacity.toUInt32) .reservationCapacity

/-- All bits asked for are there. -/
def covers (flags required : UInt32) : Prop := flags &&& required = required

instance (flags required : UInt32) : Decidable (covers flags required) :=
  inferInstanceAs (Decidable (_ = _))

def checkCapabilities : Except Rejection Unit := do
  require (covers reg.capabilityFlags (p.requiredCapabilityFlags ||| q.requiredCapabilityFlags))
    .capabilityMissing
  require (q.requiresSleepCompatible ≠ 0 → reg.capabilityFlags &&& 1 ≠ 0)
    .energySleepCapabilityMissing
  require (covers reg.securityCapabilityFlags (p.requiredSecurityFlags ||| q.requiredSecurityFlags))
    .securityMissing
  require (q.requiresCustody ≠ 0 → reg.linkKind ≠ 2 ∧ reg.capabilityFlags &&& 0x20 ≠ 0)
    .custodyMissing
  require (q.requiresEvidence ≠ 0 → reg.capabilityFlags &&& 0x40 ≠ 0) .evidenceMissing

def checkPeer : Except Rejection Unit := do
  require (reg.peerNfl1Version = 1 ∧ reg.peerFabricCapabilityFlags &&& 1 ≠ 0) .peerNfl1
  require (reg.authenticatedPeerRuntimeId ≠ .zero) .authenticatedPeerAbsent
  require (q.authenticatedPeerRuntimeId ≠ .zero →
    reg.authenticatedPeerRuntimeId = q.authenticatedPeerRuntimeId) .authenticatedPeerMismatch
  require (reg.attachmentAuthorityId ≠ .zero ∧
    reg.attachmentBindingDigest ≠ Vector.replicate 32 0) .attachmentAbsent
  require (q.attachmentAuthorityId ≠ .zero →
    reg.attachmentAuthorityId = q.attachmentAuthorityId) .attachmentAuthorityMismatch
  require (q.attachmentBindingDigest ≠ Vector.replicate 32 0 →
    reg.attachmentBindingDigest = q.attachmentBindingDigest) .attachmentBindingMismatch

def checkAvailability : Except Rejection Unit := do
  require (reg.attestationClockEpochId = q.attestationClockEpochId) .attestationEpoch
  require (q.nowMs < reg.attestationExpiresAtMs) .attestationExpired
  require (reg.availabilityClockEpochId = q.availabilityClockEpochId) .availabilityEpoch
  require (reg.availabilityState = 1) .availabilityState
  require (q.nowMs < reg.availabilityExpiresAtMs) .availabilityExpired

def checkAuthority (auth : AuthorityRow) : Except Rejection Unit := do
  require (p.authorityMode = 1 → auth.authorityState = 1) .boundRequiredAbsent
  require (auth.authorityState = 1 → auth.authorityClockEpochId = q.authorityClockEpochId)
    .authorityClockEpoch
  require (auth.authorityState = 1 → q.nowMs < auth.leaseExpiresAtMs) .authorityLeaseExpired

def checkRadio : Except Rejection Unit := do
  require (reg.linkKind = 4 → q.rfPermitValid ≠ 0) .rfPermit
  require (reg.linkKind = 4 → q.rfMappingAccepted ≠ 0) .rfMappingUnsupported
  require (reg.linkKind = 4 → reg.rfMappingApproved ≠ 0) .rfPathNotApproved

end Tests

/-- The path of a candidate that passes all tests. -/
def Snapshot.admit (s : Snapshot) (p : Policy) (endpoint : Id) (c : Candidate) :
    Except Rejection RegistryRow := do
  let reg ← joined (s.registryRows c) .registryJoinMissing .registryJoinAmbiguous
  let auth ← joined (s.authorityRows p endpoint) .authorityJoinMissing .authorityJoinAmbiguous
  checkPath s.query p reg
  checkReservation reg s.activeAttempts c
  checkCapabilities s.query p reg
  checkPeer s.query reg
  checkAvailability s.query reg
  checkAuthority s.query p auth
  checkRadio s.query reg
  return reg

/-- What is found about a candidate. -/
def Snapshot.evaluate (s : Snapshot) (p : Policy) (endpoint : Id) (c : Candidate) : Eval :=
  match s.admit p endpoint c with
  | .error reason => ⟨c.instanceId, false, some reason, 0, 0, 0⟩
  | .ok reg => ⟨c.instanceId, true, none, c.rank, reg.latencyClass, reg.costClass⟩

/-! ### The choice -/

/-- Identifiers, compared byte by byte. -/
def idCmp : List UInt8 → List UInt8 → Ordering
  | a :: as, b :: bs => if a < b then .lt else if b < a then .gt else idCmp as bs
  | _, _ => .eq

def compareSort (a b : Eval) : Ordering :=
  if a.sortRank ≠ b.sortRank then if a.sortRank < b.sortRank then .lt else .gt
  else if a.sortLatency ≠ b.sortLatency then if a.sortLatency < b.sortLatency then .lt else .gt
  else if a.sortCost ≠ b.sortCost then if a.sortCost < b.sortCost then .lt else .gt
  else idCmp a.instanceId.toList b.instanceId.toList

def firstReason (evaluated : List Eval) : Option Rejection :=
  evaluated.findSome? Eval.primaryRejection

/-- The choice among the candidates of a policy. -/
def Snapshot.choose (s : Snapshot) (p : Policy) (endpoint : Id) : Result :=
  let evaluated := p.candidates.map (s.evaluate p endpoint)
  match exchangeSort (fun a b => compareSort a b == .lt) (evaluated.filter Eval.eligible) with
  | [] => ⟨.noEligible, firstReason evaluated, evaluated, .zero, false⟩
  | best :: _ => ⟨.selected, none, evaluated, best.instanceId, true⟩

/-- The choice of a path. -/
def select : Option Snapshot → Result
  | none => .refused .corrupt .invalidSnapshot
  | some s =>
    if s.outerAvailable ≠ 1 then .refused .noEligible .metaOuterUnavailable
    else if s.policies.any Policy.gap then .refused .corrupt .policyRevisionGap
    else
      match s.current with
      | [] => .refused .noPolicy .policyNoMatch
      | [p] =>
        match p.endpoint s.query with
        | none => .refused .corrupt .scopeSelectorUnknown
        | some endpoint => s.choose p endpoint
      | _ => .refused .corrupt .policyAmbiguous

end Ninlil.Fabric
