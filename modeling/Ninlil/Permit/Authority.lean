import Ninlil.Permit.Calls
import Ninlil.Permit.Txns

/-!
# The permit authority: its calls

* `publishInitialMeta`, `recoverStorage`, `recoverClock`, `recover`: the first meta record, and the
  ways back from a fence;
* `revokeAllOutstanding`, `advanceExpiredHeads`, `gcTerminalRecords`, `commitLiveBinding`,
  `setAssignmentGeneration`: upkeep;
* `issueSamplePin`, `issueSamplePinAccepted`, `issueSampleClear`, `issue`: handing out a permit,
  with `algorithmE` for a new epoch;
* `validate`, `consume`: presenting one;
* `Call`, `perform`: any of them, or a restart of the process.

Statistics and error texts are left out.
-/

namespace Ninlil.Permit

open Outcomes

/-! ### Shared steps -/

def guardActive : Op Unit := do
  let s ← get
  require s.pcp.active .shutdown
  require (!s.pcp.issueCsHeld) .busyReentry

/-- A fence, in the order in which the authority reports them. -/
def requireUnfenced (f : Fences) : Op Unit :=
  if f.corrupt then throw .corruptFence
  else if f.clock then throw .clockFault
  else if f.storage then throw .storageFence
  else pure ()

/-- The sample of a trusted reading; `onFault` is for a fault of the clock. -/
def acceptSample (onFault : Op Unit) (r : Sampled) : Op TimeSample :=
  match r.klass with
  | .okTrusted => pure r.sample
  | .temp | .okUncertain => throw .clockUncertain
  | .faultPerm | .faultIllformed | .faultUnknown | .faultRegression => do
    onFault
    throw .clockFault

/-- The head of the outstanding permits: anything but a row that is outstanding is corrupt. -/
def headOf (seq : UInt64) : Op Issued := do
  match ← txnGetIss seq with
  | none => failCorrupt
  | some iss =>
    requireSound (iss.state == .issued)
    pure iss

def getHead (seq : UInt64) : Op Issued :=
  mapFailure (fun _ => .corruptFence)
    (onFailure (headOf seq) fun _ => (setFenceCorrupt : Op Unit))

/-- Roll back and fail; a failed rollback is what the caller hears of. -/
def rejectUnless (c : Bool) (st : Status) : Op Unit :=
  if c then pure ()
  else do
    rollbackMap
    throw st

/-- The profile names every identity, and a physical layer. -/
def LiveProfile.structOk (live : LiveProfile) : Bool :=
  live.core.hardwareProfileId != 0 && live.core.regulatoryProfileId != 0 &&
    live.core.siteAssignmentId != 0 && live.core.transmitterId != 0 && live.maxAirtimeUs != 0 &&
    live.core.phy.bandwidthHz != 0 && live.core.phy.spreadingFactor != 0 &&
    live.core.phy.codingRateDenom != 0 && live.core.phy.phyFlags == 0 && live.reservedZero == 0

/-- `pcp_live_struct_ok`: and every revision. -/
def LiveProfile.liveStructOk (live : LiveProfile) : Bool :=
  live.structOk && live.core.hardwareProfileRev != 0 && live.core.regulatoryProfileRev != 0 &&
    live.core.siteAssignmentRev != 0 && live.core.siteAssignmentEpoch != 0 &&
    live.core.channelId != 0

def loadMetaToRam (m : Meta) (p : Pcp) : Pcp :=
  { p with
    outstandingCountCache := m.outstandingCount
    fence := m.fences
    boundLive := some ⟨m.boundCore, m.boundMaxAirtimeCeilingUs, m.assignmentGeneration⟩
    ramTrust := some m.trust
    published := true }

def applyLiveToRam (live : LiveProfile) (generation : UInt64) (p : Pcp) : Pcp :=
  { p with boundLive := some ⟨live.core, live.maxAirtimeUs, generation⟩ }

/-! ### Binding -/

def bindStorage : Op Unit := do
  guardActive
  let s ← get
  require (!s.pcp.handleLive) .invalidState
  modifyPcp fun p => { p with storageBound := true }

def bindClock : Op Unit := do
  guardActive
  modifyPcp fun p => { p with clockBound := true }

def bindEntropy : Op Unit := do
  guardActive
  modifyPcp fun p => { p with entropyBound := true }

def bindLiveProfile (live : LiveProfile) : Op Unit := do
  guardActive
  require live.structOk .struct
  let s ← get
  require (!(s.pcp.published && s.pcp.outstandingCountCache != 0)) .busyOutstanding
  modifyPcp fun p => applyLiveToRam live
    (if p.published then (p.boundLive.map BoundLive.assignmentGeneration).getD 0 else 0) p
  clearRamValidate

/-! ### The first meta record -/

/-- The seed, or what the entropy source gives. -/
def instanceId (seed : Id) : Op Id :=
  if seed != 0 then pure seed
  else do
    let s ← get
    require s.pcp.entropyBound .invalidArgument
    set { s with entropy := s.entropy.tail }
    require (s.entropy.head.1 == .ok && s.entropy.head.2 != 0) .invalidArgument
    pure s.entropy.head.2

def firstMeta (live : BoundLive) (authority : Id) (t : TimeSample) : Meta where
  fences := .none
  authorityInstanceId := authority
  nextIssueSeq := 1
  lastConsumedSeq := 0
  outstandingCount := 0
  boundCore := live.core
  boundMaxAirtimeCeilingUs := live.maxAirtimeCeilingUs
  assignmentGeneration := 1
  lastTrustedEpochId := t.clockEpochId
  lastTrustedNowMs := t.nowMs

/-- The namespace is found empty. -/
def publishScan : Op Unit := do
  begin
  let scan ← orRollback scanNamespace
  orRollback (require scan.info.isNone .invalidState)
  orRollback (requireSound scan.iss.isEmpty)
  rollbackMap

/-- The first meta record is stored. -/
def publishPut (m : Meta) : Op Unit := do
  begin
  let scan ← orRollback scanNamespace
  orRollback (require (scan.info.isNone && scan.iss.isEmpty) .invalidState)
  orRollback (txnPutMeta m)
  commitFull

/-- A seed of 0 is none. -/
def publishInitialMeta (seed : Id) : Op Unit := do
  guardActive
  let s ← get
  require s.pcp.storageBound .unboundStorage
  require s.pcp.clockBound .unboundClock
  let live ← requireSome s.pcp.boundLive .unboundAssignment
  require (!s.pcp.published) .invalidState
  ensureOpen
  publishScan
  let t ← acceptSample setFenceClock (← sampleClock)
  let authority ← instanceId seed
  publishPut (firstMeta live authority t)
  modifyPcp (loadMetaToRam (firstMeta live authority t))
  setRamTrust t.moment
  clearRamValidate

/-! ### Recovery -/

/-- What a failed scan means to a recovery. -/
def recoverStatus : Status → Status
  | .corruptFence => .recoverFail
  | st => st

/-- The rows under the invariants, or the recovery fails. -/
def recoverVerify (m : Meta) (scan : Scan) : Op Unit := do
  mapFailure recoverStatus (orRollback (requireSound (verifyInvariants scan)))
  mapFailure recoverStatus (orRollback (verifyIssBodies m scan.iss))
  rollbackMap

/-- The storage fence of the meta record is lifted. -/
def clearStorageFence : Op Meta := do
  begin
  let m ← mapFailure recoverStatus (orRollback rwScanCheck)
  orRollback (txnPutMeta { m with fences := { m.fences with storage := false } })
  mapFailure (fun _ => .recoverFail) commitFull
  modifyPcp fun p => { p with fence := { p.fence with storage := false } }
  pure { m with fences := { m.fences with storage := false } }

def unfenceStorage (m : Meta) : Op Meta :=
  if m.fences.storage && !m.fences.corrupt then clearStorageFence else pure m

/-- An empty namespace has nothing published. -/
def recoverEmpty : Op Unit := do
  onFailure rollbackMap fun _ =>
    (modifyPcp fun p => { p with published := false } : Op Unit)
  modifyPcp fun p => { p with published := false }

/-- Whether there was something to load. -/
def recoverStorage : Op Bool := do
  guardActive
  modifyPcp fun p => { p with ramValidate := none, handleLive := false }
  ensureOpen
  begin
  let scan ← mapFailure recoverStatus (orRollback scanNamespace)
  match scan.info with
  | none =>
    if scan.iss.isEmpty then do
      recoverEmpty
      pure false
    else
      mapFailure recoverStatus (orRollback failCorrupt)
  | some m =>
    recoverVerify m scan
    let m ← unfenceStorage m
    modifyPcp (loadMetaToRam m)
    clearRamValidate
    pure true

/-- Every outstanding permit is of the epoch of the sample, or a revocation is due first. -/
def sameEpochHeads (t : TimeSample) : ℕ → UInt64 → Op Unit
  | 0, _ => pure ()
  | n + 1, seq => do
    let iss ← getHead seq
    require (iss.clockEpochId == t.clockEpochId) .busyOutstanding
    sameEpochHeads t n (seq + 1)

/-- The meta record under a new epoch, without its clock fence. -/
def Meta.reclocked (m : Meta) (t : TimeSample) : Meta :=
  { m.trusting t with fences := { m.fences with clock := false } }

/-- The transaction of `recover_clock`. -/
def recoverClockPut (t : TimeSample) : Op Unit := do
  begin
  let m ← orRollback rwScanCheck
  orRollback (require (t.clockEpochId != m.lastTrustedEpochId) .clockFault)
  orRollback (sameEpochHeads t m.outstandingCount (m.lastConsumedSeq + 1))
  orRollback (txnPutMeta (m.reclocked t))
  commitFull

/-- The fence goes only under an epoch that neither RAM nor the meta record knows. -/
def recoverClockFenced : Op Unit := do
  ensureOpen
  let t ← acceptSample (pure ()) (← sampleClock)
  let s ← get
  require (!s.pcp.ramTrust.any fun x => x.epochId == t.clockEpochId) .clockFault
  recoverClockPut t
  modifyPcp fun p => { p with fence := { p.fence with clock := false } }
  setRamTrust t.moment
  clearRamValidate

def recoverClock : Op Unit := do
  guardActive
  let s ← get
  require s.pcp.clockBound .unboundClock
  if s.pcp.fence.clock then recoverClockFenced else pure ()

def recover : Op Bool := do
  let loaded ← recoverStorage
  let s ← get
  if s.pcp.clockBound && s.pcp.fence.clock then do
    recoverClock
    pure loaded
  else
    pure loaded

/-! ### Upkeep -/

/-- One head is revoked, or none is left. -/
def revokeRound : Op Bool := do
  begin
  let m ← orRollback rwScanCheck
  if m.outstandingCount = 0 then do
    ignore rollbackMap
    modifyPcp fun p => { p with outstandingCountCache := 0, ramValidate := none }
    pure true
  else do
    let iss ← orRollback (getHead (m.lastConsumedSeq + 1))
    orRollback (txnPutIss { iss with state := .revoked })
    orRollback (txnPutMeta m.dropHead)
    commitFull
    modifyPcp fun p =>
      { p with outstandingCountCache := m.dropHead.outstandingCount, ramValidate := none }
    pure false

/-- Rounds, until one says that it was the last. -/
def rounds (round : Op Bool) : ℕ → Op Unit
  | 0 => throw .busy
  | n + 1 => do
    if ← round then pure () else rounds round n

/-- The rounds that the permits outstanding can take. -/
def St.roundsLeft (s : St) : ℕ := (s.disk.info.map Meta.outstandingCount).getD 0 + 1

def revokeAllOutstanding : Op Unit := do
  guardActive
  ensureOpen
  let s ← get
  rounds revokeRound s.roundsLeft

def liveEqual (m : Meta) (live : LiveProfile) : Bool :=
  m.boundCore == live.core && m.boundMaxAirtimeCeilingUs == live.maxAirtimeUs

/-- A put or a commit of unknown outcome leaves a fence behind. -/
def orSticky (m : Op Unit) (other : Op Unit) : Op Unit :=
  onFailure m fun st => if st = .commitUnknown then stickyStorageFenceBestEffort else other

/-- The generation grows with every change of the profile. -/
def commitLiveBindingPut (live : LiveProfile) (generation : UInt64) : Op Unit := do
  begin
  let m ← orRollback rwScanCheck
  rejectUnless (m.outstandingCount == 0) .busyOutstanding
  rejectUnless (!(generation < m.assignmentGeneration)) .struct
  if liveEqual m live && generation == m.assignmentGeneration then
    rollbackMap
  else do
    rejectUnless (generation != m.assignmentGeneration) .struct
    orSticky (txnPutMeta (m.bound live generation)) rollbackMap
    orSticky commitFull (pure ())

def commitLiveBinding (live : LiveProfile) (generation : UInt64) : Op Unit := do
  guardActive
  require (live.liveStructOk && generation != 0) .struct
  let s ← get
  require (s.pcp.published && s.pcp.storageBound) .invalidState
  require (!(s.pcp.fence.storage || s.pcp.fence.corrupt)) .storageFence
  ensureOpen
  commitLiveBindingPut live generation
  modifyPcp (applyLiveToRam live generation)
  clearRamValidate

/-- The meta record, read in a transaction of its own. -/
def readMeta : Op Meta := do
  begin
  let m ← orRollback (do requireSome (← txnGetMeta) .invalidState)
  rollbackMap
  pure m

def setAssignmentGeneration (generation : UInt64) : Op Unit := do
  guardActive
  require (generation != 0) .struct
  let s ← get
  require (s.pcp.published && s.pcp.storageBound) .invalidState
  ensureOpen
  let m ← readMeta
  commitLiveBinding ⟨m.boundCore, m.boundMaxAirtimeCeilingUs, 0⟩ generation

/-- A round that fails after another has advanced keeps the sample trusted. -/
def orKeep {α : Type} (advanced : Bool) (t : TimeSample) (m : Op α) : Op α :=
  onFailure m fun _ =>
    if advanced then (do setRamTrust t.moment; clearRamValidate : Op Unit) else pure ()

/-- The end of the rounds. -/
def advanceFinish (advanced : Bool) (m : Meta) : Op Bool := do
  ignore rollbackMap
  if advanced then do
    setRamTrust m.trust
    clearRamValidate
    pure true
  else
    pure true

/-- The commit of a round. -/
def advanceCommit (advanced : Bool) (t : TimeSample) : Op Unit :=
  onFailure commitFull fun st =>
    if st = .commitUnknown then (clearRamValidate : Op Unit)
    else if advanced then do setRamTrust t.moment; clearRamValidate
    else pure ()

/-- The head becomes terminal. -/
def advanceHead (advanced : Bool) (t : TimeSample) (m : Meta) (iss : Issued) : Op Bool := do
  orKeep advanced t (orRollback (txnPutIss { iss with state := .revoked }))
  orKeep advanced t (orRollback (txnPutMeta (m.dropHead.trusting t)))
  advanceCommit advanced t
  modifyPcp fun p => { p with outstandingCountCache := m.dropHead.outstandingCount }
  setRamTrust t.moment
  clearRamValidate
  pure false

/-- One expired head is revoked, or the head is no expired one. -/
def advanceRound (t : TimeSample) (advanced : Bool) : Op Bool := do
  orKeep advanced t begin
  let m ← orKeep advanced t (orRollback rwScanCheck)
  orRollback (requireUnfenced m.fences)
  if m.outstandingCount = 0 then advanceFinish advanced m
  else do
    let iss ← orRollback (getHead (m.lastConsumedSeq + 1))
    if expiredTime t iss then advanceHead advanced t m iss else advanceFinish advanced m

/-- The rounds, after one that advanced. -/
def advanceRounds (t : TimeSample) : Bool → ℕ → Op Unit
  | _, 0 => throw .busy
  | advanced, n + 1 => do
    if ← advanceRound t advanced then pure () else advanceRounds t true n

def advanceExpiredHeads : Op Unit := do
  guardActive
  let s ← get
  require s.pcp.clockBound .unboundClock
  require s.pcp.storageBound .unboundStorage
  ensureOpen
  let t ← acceptSample setFenceClock (← sampleClock)
  let s ← get
  advanceRounds t false s.roundsLeft

/-- The rows of the list, erased one after another. -/
def gcErase (m : Meta) : List UInt64 → Op Unit
  | [] => pure ()
  | seq :: seqs => do
    require (seq != 0 && seq != seqMax && seq ≤ m.lastConsumedSeq) .invalidArgument
    match ← txnGetIss seq with
    | none => gcErase m seqs
    | some iss =>
      require (iss.state != .issued) .invalidArgument
      txnErase seq
      gcErase m seqs

def gcTerminalRecords (seqs : List UInt64) : Op Unit := do
  guardActive
  require (0 < seqs.length && seqs.length ≤ maxOutstanding) .invalidArgument
  ensureOpen
  begin
  let m ← orRollback rwScanCheck
  orRollback (gcErase m seqs)
  orRollback (txnPutMeta m)
  commitFull

/-! ### Issue -/

/-- Heads are revoked inside one transaction. -/
def revokeHeads : ℕ → Meta → Op Meta
  | 0, m => pure m
  | n + 1, m => do
    let iss ← getHead (m.lastConsumedSeq + 1)
    txnPutIss { iss with state := .revoked }
    revokeHeads n m.dropHead

/-- The meta record is the one that was read before. -/
def Meta.sameAs (m snap : Meta) : Bool :=
  m.nextIssueSeq == snap.nextIssueSeq && m.lastConsumedSeq == snap.lastConsumedSeq &&
    m.outstandingCount == snap.outstandingCount && m.fences == snap.fences &&
    m.lastTrustedEpochId == snap.lastTrustedEpochId

/-- The attempt to store a fence after a commit of unknown outcome. -/
def algorithmESticky : Op Unit := do
  clearRamValidate
  ignore (stickyTxn (fun f => { f with storage := true }) commitFull)

/-- The transaction of Algorithm E. -/
def algorithmEPut (t : TimeSample) (snap : Meta) : Op Unit := do
  begin
  let m ← orRollback rwScanCheck
  orRollback (requireSound (m.sameAs snap))
  let m ← orRollback (revokeHeads m.outstandingCount m)
  orRollback (txnPutMeta (m.trusting t))
  onFailure commitFull fun st => if st = .commitUnknown then algorithmESticky else pure ()

/-- `pcp_algorithm_e_body`: under a new epoch every outstanding permit is revoked. -/
def algorithmE (t : TimeSample) (snap : Meta) : Op Unit := do
  algorithmEPut t snap
  modifyPcp fun p => { p with outstandingCountCache := 0 }
  setRamTrust t.moment
  clearRamValidate

def issueSampleClear {ε : Type} : Prog St ε Unit :=
  modifyPcp fun p => { p with issueSampleSticky := none, issueCsHeld := false }

/-- Fail after dropping the pinned sample. -/
def orClear {α : Type} (m : Op α) : Op α := onFailure m fun _ => (issueSampleClear : Op Unit)

/-- The reading is pinned, with the critical section held until it is used or dropped. -/
def pinReading (r : Sampled) : Op Unit :=
  modifyPcp fun p => { p with issueSampleSticky := some r, issueCsHeld := true }

def issueSamplePin : Op TimeSample := do
  issueSampleClear
  guardActive
  let s ← get
  require s.pcp.clockBound .unboundClock
  requireUnfenced s.pcp.fence
  let r ← sampleClock
  let t ← acceptSample commitClockFaultFence r
  pinReading r
  pure t

def issueSamplePinAccepted (t : TimeSample) : Op Unit := do
  issueSampleClear
  guardActive
  require (t.trust == clockTrusted && t.abiVersion == ninlilAbiVersion &&
    timeSampleBytes ≤ t.structSize && t.reservedZero == 0) .struct
  require (t.clockEpochId != 0) .struct
  let s ← get
  requireUnfenced s.pcp.fence
  pinReading ⟨.okTrusted, t⟩

/-- A pinned sample lets the issue in. -/
def issueGuard : Op Unit := do
  let s ← get
  if s.pcp.issueCsHeld && s.pcp.issueSampleSticky.isSome then
    orClear (require s.pcp.active .shutdown)
  else guardActive

def issueBound : Op Unit := do
  let s ← get
  require s.pcp.storageBound .unboundStorage
  require s.pcp.clockBound .unboundClock
  require (s.pcp.boundLive.isSome && s.pcp.published) .unboundAssignment
  requireUnfenced s.pcp.fence

/-- The pinned sample, which is used up, or a new one. -/
def issueSample : Op Sampled := do
  let s ← get
  match s.pcp.issueSampleSticky with
  | some r =>
    modifyPcp fun p => { p with issueSampleSticky := none }
    pure r
  | none => sampleClock

/-- Algorithm E, when the epoch is new. -/
def reEpoch (t : TimeSample) (snap : Meta) : Op Unit :=
  if t.clockEpochId != snap.lastTrustedEpochId then algorithmE t snap else pure ()

/-- The request is well formed. -/
def IssueRequest.structOk (req : IssueRequest) : Bool :=
  req.reservedZero == 0 && req.notBeforeMs < req.expiryMs &&
    req.expiryMs - req.notBeforeMs ≤ maxPermitTtlMs && req.maxAirtimeUs != 0

/-- The request against the meta record. -/
def issueChecks (m : Meta) (req : IssueRequest) : Op Unit := do
  require (!m.fences.any) .storageFence
  require (req.core == m.boundCore) .profileMismatch
  require (req.maxAirtimeUs ≤ m.boundMaxAirtimeCeilingUs) .profileMismatch
  require (m.outstandingCount < maxOutstanding) .capacity
  require (m.nextIssueSeq < seqMax) .seqExhausted

/-- The transaction of an issue, with the row it stored. -/
def issuePut (req : IssueRequest) (t : TimeSample) : Op Issued := do
  begin
  let m ← orRollback rwScanCheck
  orRollback (issueChecks m req)
  orRollback (txnPutIss (issuedRow m req t))
  orRollback (txnPutMeta (m.addIssued.trusting t))
  commitFull
  modifyPcp fun p => { p with outstandingCountCache := m.addIssued.outstandingCount }
  pure (issuedRow m req t)

def issue (req : IssueRequest) : Op Snapshot := do
  issueGuard
  orClear issueBound
  modifyPcp fun p => { p with issueCsHeld := false }
  ensureOpen
  let t ← acceptSample setFenceClock (← issueSample)
  let snap ← readMeta
  require (!snap.fences.clock) .clockFault
  reEpoch t snap
  require req.structOk .struct
  require (t.nowMs < req.expiryMs) .invalidArgument
  let iss ← issuePut req t
  setRamTrust t.moment
  pure (fillSnapshotFromIss iss)

/-! ### Validate and consume -/

/-- What the callers of `validate` and `consume` hear. -/
inductive HalStatus
  | busy
  | permitError
  | permitDenied
  | notBefore
  | expired
  | consumeError
  | consumeDenied
  | consumeFenced
  deriving DecidableEq

/-- A call of the radio layer. -/
abbrev HalOp := Prog St HalStatus

/-- A call of the authority whose failures all become one. -/
def hal {α : Type} (st : HalStatus) (m : Op α) : HalOp α := mapFailure (fun _ => st) m

/-- Roll back, whatever that gives, and fail. -/
def halReject {α : Type} (st : HalStatus) : HalOp α := do
  ignore rollbackMap
  throw st

def halRequire (c : Bool) (st : HalStatus) : HalOp Unit := if c then pure () else halReject st

/-- A trusted reading; the statuses for one that is uncertain and for a fault. -/
def halSample (onFault : HalOp Unit) (uncertain fault : HalStatus) (r : Sampled) :
    HalOp TimeSample :=
  match r.klass with
  | .okTrusted => pure r.sample
  | .temp | .okUncertain => throw uncertain
  | .faultPerm | .faultIllformed | .faultUnknown | .faultRegression => do
    onFault
    throw fault

/-- A rollback whose status is not looked at. -/
def rawRollback : HalOp Unit := do
  let _ ← nextReply
  pure ()

/-- The transaction of `validate`: the row that the permit names. -/
def validateRow (p : Snapshot) (t : TimeSample) : HalOp Issued := do
  hal .permitError begin
  let m ← onFailure (hal .permitError (do requireSome (← txnGetMeta) .invalidState))
    fun _ => rawRollback
  let o ← onFailure (hal .permitError (txnGetIss p.permitSequence)) fun _ => rawRollback
  let iss ← onFailure (requireSome o .permitDenied) fun _ => rawRollback
  onFailure (require (iss.state == .issued && snapshotMatchesIss p iss && iss.core == m.boundCore &&
    iss.authorityInstanceId == m.authorityInstanceId) .permitDenied) fun _ => rawRollback
  onFailure (require (t.clockEpochId == iss.clockEpochId) .permitDenied) fun _ => rawRollback
  onFailure (require (iss.notBeforeMs ≤ t.nowMs) .notBefore) fun _ => rawRollback
  onFailure (require (!expiredTime t iss) .expired) fun _ => rawRollback
  onFailure (require (validTime t iss) .permitDenied) fun _ => rawRollback
  let r ← nextReply
  onFailure (require (r.status == .ok) .permitError) fun _ => (setFenceStorage : HalOp Unit)
  pure iss

/-- The body of `validate`, after the checks of the call itself. -/
def validateBody (p : Snapshot) : HalOp Unit := do
  let s ← get
  require (s.pcp.storageBound && s.pcp.clockBound && s.pcp.published && !s.pcp.fence.any) .permitError
  hal .permitError ensureOpen
  let t ← halSample setFenceClock .permitDenied .permitError (← sampleClock)
  require (p.permitSequence != 0 && p.reservedZero == 0) .permitError
  let iss ← validateRow p t
  modifyPcp fun q => { q with
    ramValidate := some ⟨iss.permitSequence, iss.frame.digest, t.clockEpochId, t.nowMs⟩ }

def validate (p : Snapshot) : HalOp Unit := do
  let s ← get
  require s.pcp.active .permitError
  require (!s.pcp.issueCsHeld) .busy
  onFailure (validateBody p) fun _ => (clearRamValidate : HalOp Unit)

/-- A fence, in the order in which `consume` reports them. -/
def consumeFenceReject (f : Fences) : Option HalStatus :=
  if f.corrupt then some .consumeError
  else if f.storage then some .consumeFenced
  else if f.clock then some .consumeFenced
  else none

/-- A commit has used its transaction up. -/
def rollbackLive (txnLive : Bool) : HalOp Unit :=
  if txnLive then ignore rollbackMap else pure ()

/-- The failure of a put or a commit of `consume`. -/
def consumeFailAfterPutIntent {α : Type} (txnLive : Bool) (st : Status) : HalOp α := do
  rollbackLive txnLive
  if st = .commitUnknown then do
    setFenceStorage
    stickyStorageFenceBestEffort
    clearRamValidate
    throw .consumeFenced
  else if st = .busy then
    throw .consumeDenied
  else do
    clearRamValidate
    throw .consumeError

/-- A put of `consume`. -/
def consumePut (m : Op Unit) : HalOp Unit := do
  match ← attempt m with
  | .ok _ => pure ()
  | .error st => consumeFailAfterPutIntent true st

/-- The commit of `consume`. -/
def consumeCommit : HalOp Unit := do
  let st ← storageCommit
  match st, mapCommit st with
  | .ok, _ => pure ()
  | .commitUnknown, _ => consumeFailAfterPutIntent false .commitUnknown
  | .busy, _ =>
    setFenceStorage
    clearRamValidate
    throw .consumeError
  | _, none => pure ()
  | _, some f =>
    applyMapFence f.fence
    consumeFailAfterPutIntent false f.status

/-- A busy store may be asked again. -/
def consumeBegin : HalOp Unit :=
  mapFailure (fun st => if st = .busy then HalStatus.consumeDenied else .consumeError) begin

/-- A reading earlier than the one that validated the permit is a fault. -/
def consumeRegression (p : Snapshot) (t : TimeSample) (v : RamValidate) : Bool :=
  p.permitSequence == v.permitSequence && p.frame.digest == v.digest &&
    t.clockEpochId == v.clockEpochId && t.nowMs < v.nowMs

def consumeNoRegression (p : Snapshot) (t : TimeSample) : HalOp Unit := do
  let s ← get
  if s.pcp.ramValidate.any (consumeRegression p t) then do
    setFenceClock
    throw .consumeFenced
  else pure ()

/-- A durable fence becomes one in RAM. -/
def consumeDurableFence (m : Meta) : HalOp Unit :=
  match consumeFenceReject m.fences with
  | none => pure ()
  | some st => do
    modifyPcp fun p => { p with fence :=
      ⟨p.fence.storage || m.fences.storage, p.fence.clock || m.fences.clock,
        p.fence.corrupt || m.fences.corrupt⟩ }
    halReject st

/-- A permit at or before `lastConsumedSeq` is terminal, and one past the head out of order. -/
def consumeSequence (m : Meta) (seq : UInt64) : HalOp Unit :=
  if seq ≤ m.lastConsumedSeq then do
    let _ ← onFailure (hal .consumeError (txnGetIss seq)) fun _ => rollbackMap
    halReject .consumeFenced
  else if seq ≠ m.lastConsumedSeq + 1 then do
    let o ← onFailure (hal .consumeError (txnGetIss seq)) fun _ => rollbackMap
    if (o.any fun iss => iss.state == .issued) && m.lastConsumedSeq + 1 < seq &&
        seq < m.nextIssueSeq then
      halReject .consumeDenied
    else
      halReject .consumeFenced
  else pure ()

/-- The row of the head, if the permit is the one of the row. -/
def consumeHead (p : Snapshot) : HalOp Issued := do
  let o ← attempt (txnGetIss p.permitSequence)
  match o with
  | .ok (some iss) =>
    if iss.state == .issued && snapshotMatchesIss p iss then pure iss
    else do
      ignore rollbackMap
      setFenceCorrupt
      throw .consumeError
  | _ => do
    ignore rollbackMap
    setFenceCorrupt
    throw .consumeError

/-- The sample lies in the life of the row. -/
def consumeTime (t : TimeSample) (iss : Issued) : HalOp Unit := do
  halRequire (iss.notBeforeMs ≤ t.nowMs) .consumeDenied
  halRequire (!expiredTime t iss) .consumeFenced
  halRequire (validTime t iss) .consumeDenied

/-- The transaction of `consume`. -/
def consumeTxn (p : Snapshot) (t : TimeSample) : HalOp Unit := do
  consumeBegin
  let m ← hal .consumeError (orRollback rwScanCheck)
  consumeDurableFence m
  consumeSequence m p.permitSequence
  let iss ← consumeHead p
  consumeTime t iss
  consumePut (txnPutIss { iss with state := .consumed })
  consumePut (txnPutMeta (m.dropHead.trusting t))
  consumeCommit
  modifyPcp fun q => { q with outstandingCountCache := m.dropHead.outstandingCount }

/-- A fence of the authority rejects the permit. -/
def consumeUnfenced (f : Fences) : HalOp Unit :=
  match consumeFenceReject f with
  | none => pure ()
  | some st => throw st

def consume (p : Snapshot) : HalOp Unit := do
  let s ← get
  require s.pcp.active .consumeError
  require (!s.pcp.issueCsHeld) .busy
  require (s.pcp.storageBound && s.pcp.clockBound && s.pcp.published) .consumeError
  consumeUnfenced s.pcp.fence
  hal .consumeError ensureOpen
  let t ← halSample commitClockFaultFence .consumeDenied .consumeFenced (← sampleClock)
  consumeNoRegression p t
  consumeTxn p t
  setRamTrust t.moment
  clearRamValidate

/-! ### Runs -/

/-- A call of the authority, or a restart. -/
inductive Call
  | bindStorage
  | bindClock
  | bindEntropy
  | bindLiveProfile (live : LiveProfile)
  | publishInitialMeta (seed : Id)
  | recoverStorage
  | recoverClock
  | recover
  | revokeAllOutstanding
  | commitLiveBinding (live : LiveProfile) (generation : UInt64)
  | setAssignmentGeneration (generation : UInt64)
  | advanceExpiredHeads
  | gcTerminalRecords (seqs : List UInt64)
  | issueSamplePin
  | issueSamplePinAccepted (t : TimeSample)
  | issueSampleClear
  | issue (req : IssueRequest)
  | validate (p : Snapshot)
  | consume (p : Snapshot)
  | restart

/-- What a call returns. -/
inductive Result
  | done
  | permit (p : Snapshot)
  | failed (st : Status)
  | rejected (st : HalStatus)

/-- The result of a call of the authority. -/
def Result.of {α : Type} (f : α → Result) : Except Status α → Result
  | .ok a => f a
  | .error st => .failed st

/-- The result of a call of the radio layer. -/
def Result.ofHal : Except HalStatus Unit → Result
  | .ok _ => .done
  | .error st => .rejected st

/-- A call of the authority, on a state. -/
def St.run {α : Type} (s : St) (m : Op α) (f : α → Result) : Result × St :=
  (Result.of f (m.outcome s).1, (m.outcome s).2)

def St.runHal (s : St) (m : HalOp Unit) : Result × St :=
  (Result.ofHal (m.outcome s).1, (m.outcome s).2)

/-- One call. A restart loses the RAM. -/
def perform (s : St) : Call → Result × St
  | .bindStorage => s.run Permit.bindStorage fun _ => .done
  | .bindClock => s.run Permit.bindClock fun _ => .done
  | .bindEntropy => s.run Permit.bindEntropy fun _ => .done
  | .bindLiveProfile live => s.run (Permit.bindLiveProfile live) fun _ => .done
  | .publishInitialMeta seed => s.run (Permit.publishInitialMeta seed) fun _ => .done
  | .recoverStorage => s.run Permit.recoverStorage fun _ => .done
  | .recoverClock => s.run Permit.recoverClock fun _ => .done
  | .recover => s.run Permit.recover fun _ => .done
  | .revokeAllOutstanding => s.run Permit.revokeAllOutstanding fun _ => .done
  | .commitLiveBinding live generation =>
    s.run (Permit.commitLiveBinding live generation) fun _ => .done
  | .setAssignmentGeneration generation =>
    s.run (Permit.setAssignmentGeneration generation) fun _ => .done
  | .advanceExpiredHeads => s.run Permit.advanceExpiredHeads fun _ => .done
  | .gcTerminalRecords seqs => s.run (Permit.gcTerminalRecords seqs) fun _ => .done
  | .issueSamplePin => s.run Permit.issueSamplePin fun _ => .done
  | .issueSamplePinAccepted t => s.run (Permit.issueSamplePinAccepted t) fun _ => .done
  | .issueSampleClear => s.run Permit.issueSampleClear fun _ => .done
  | .issue req => s.run (Permit.issue req) .permit
  | .validate p => s.runHal (Permit.validate p)
  | .consume p => s.runHal (Permit.consume p)
  | .restart => (.done, { s with pcp := .init })

end Ninlil.Permit
