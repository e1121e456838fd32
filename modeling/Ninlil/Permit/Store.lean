import Ninlil.Lib.Outcomes
import Ninlil.Permit.Scan

/-!
# The permit authority: RAM, storage calls, scan and fences

* `Pcp`, `St`: what the authority keeps in RAM, and the state of a run: the namespace on the disk,
  the view of the open transaction, and what the storage, the clock and the entropy source are going
  to answer;
* `ensureOpen`, `begin`, `rollbackMap`, `commitFull` and the readers and writers of a transaction:
  one call of the storage each, with its status mapped to a status and a fence of the authority;
* `scanNamespace`, `verifyIssBodies`, `rwScanCheck`: the scan of the namespace, one call for each
  row;
* `sampleClock`, `stickyFence`: a reading of the clock, and the one attempt to store a fence.

A failed call changes nothing on the disk. A commit whose status leaves its outcome open may have
taken effect. What the storage returns when it does not fail is what it holds.
-/

namespace Ninlil.Permit

open Outcomes

/-! ### State -/

/-- The statuses of the storage. -/
inductive StorageStatus
  | ok
  | notFound
  | bufferTooSmall
  | noSpace
  | ioError
  | corrupt
  | commitUnknown
  | busy
  | unsupportedSchema
  | other
  deriving DecidableEq

/-- The ways a call of the authority fails. -/
inductive Status
  | invalidArgument
  | invalidState
  | struct
  | clockUncertain
  | clockFault
  | profileMismatch
  | capacity
  | seqExhausted
  | storageFence
  | corruptFence
  | commitUnknown
  | storageIo
  | busy
  | busyOutstanding
  | busyReentry
  | unboundStorage
  | unboundClock
  | unboundAssignment
  | recoverFail
  | storageUnsupported
  | shutdown
  deriving DecidableEq

/-- What the storage answers to one call: the status, whether the handle, transaction or iterator
is missing, and whether a commit of unknown outcome took effect. -/
structure Reply where
  status : StorageStatus
  null : Bool
  applied : Bool

/-- A commit takes effect when it succeeds, and perhaps when its outcome is unknown. -/
def Reply.takesEffect (r : Reply) : Bool :=
  r.status == .ok || ((r.status == .commitUnknown || r.status == .busy) && r.applied)

/-- The moment of a validated permit. -/
structure RamValidate where
  permitSequence : UInt64
  digest : Digest
  clockEpochId : Id
  nowMs : UInt64

/-- A reading of the clock with its class. -/
structure Sampled where
  klass : ClkClass
  sample : TimeSample

/-- The live profile the authority is bound to. -/
structure BoundLive where
  core : Core
  maxAirtimeCeilingUs : UInt32
  assignmentGeneration : UInt64

/-- The authority in RAM. Between calls it is inside one (`in_api`) exactly while a pinned sample
holds the critical section of an issue. -/
structure Pcp where
  active : Bool
  storageBound : Bool
  clockBound : Bool
  entropyBound : Bool
  published : Bool
  fence : Fences
  handleLive : Bool
  boundLive : Option BoundLive
  outstandingCountCache : ℕ
  ramTrust : Option Trust
  ramValidate : Option RamValidate
  issueSampleSticky : Option Sampled
  issueCsHeld : Bool

/-- The authority after `init_object`. -/
def Pcp.init : Pcp where
  active := true
  storageBound := false
  clockBound := false
  entropyBound := false
  published := false
  fence := .none
  handleLive := false
  boundLive := none
  outstandingCountCache := 0
  ramTrust := none
  ramValidate := none
  issueSampleSticky := none
  issueCsHeld := false

/-- The state of a run. -/
structure St where
  pcp : Pcp
  disk : Namespace
  txn : Namespace
  replies : Stream' Reply
  clock : Stream' ClockReply
  entropy : Stream' (PortStatus × Id)

/-- A call of the authority. -/
abbrev Op := Prog St Status

section Calls

variable {ε : Type}

/-- Change the authority in RAM. -/
def modifyPcp (f : Pcp → Pcp) : Prog St ε Unit := modify fun s => { s with pcp := f s.pcp }

/-- The next answer of the storage. -/
def nextReply : Prog St ε Reply := do
  let s ← get
  set { s with replies := s.replies.tail }
  pure s.replies.head

def setFenceStorage : Prog St ε Unit :=
  modifyPcp fun p => { p with fence := { p.fence with storage := true } }

def setFenceCorrupt : Prog St ε Unit :=
  modifyPcp fun p => { p with fence := { p.fence with corrupt := true } }

def clearRamValidate : Prog St ε Unit := modifyPcp fun p => { p with ramValidate := none }

def setRamTrust (t : Trust) : Prog St ε Unit := modifyPcp fun p => { p with ramTrust := some t }

end Calls

/-! ### Statuses of the storage -/

/-- The fence that goes with a failure. -/
inductive FenceKind
  | none
  | storage
  | corrupt
  deriving DecidableEq

/-- What a failed call of the storage means. -/
structure Fault where
  status : Status
  fence : FenceKind

def mapOpen : StorageStatus → Option Fault
  | .ok => none
  | .notFound => some ⟨.storageUnsupported, .none⟩
  | .noSpace => some ⟨.storageIo, .none⟩
  | .ioError => some ⟨.storageIo, .storage⟩
  | .commitUnknown => some ⟨.commitUnknown, .storage⟩
  | .busy => some ⟨.busy, .none⟩
  | .unsupportedSchema => some ⟨.storageUnsupported, .none⟩
  | .bufferTooSmall | .corrupt | .other => some ⟨.corruptFence, .corrupt⟩

def mapBegin : StorageStatus → Option Fault
  | .ok => none
  | .noSpace => some ⟨.storageIo, .none⟩
  | .ioError => some ⟨.storageIo, .storage⟩
  | .commitUnknown => some ⟨.commitUnknown, .storage⟩
  | .busy => some ⟨.busy, .none⟩
  | .notFound | .bufferTooSmall | .corrupt | .unsupportedSchema | .other =>
    some ⟨.corruptFence, .corrupt⟩

/-- The failures of a get are those of a begin; a missing value is none. -/
def mapGet : StorageStatus → Option Fault
  | .notFound => none
  | st => mapBegin st

def mapPut : StorageStatus → Option Fault
  | .ok => none
  | .noSpace => some ⟨.capacity, .none⟩
  | .ioError => some ⟨.storageIo, .storage⟩
  | .commitUnknown => some ⟨.commitUnknown, .storage⟩
  | .busy => some ⟨.busy, .none⟩
  | .notFound | .bufferTooSmall | .corrupt | .unsupportedSchema | .other =>
    some ⟨.corruptFence, .corrupt⟩

def mapCommit : StorageStatus → Option Fault
  | .ok => none
  | .commitUnknown => some ⟨.commitUnknown, .storage⟩
  | .busy => some ⟨.commitUnknown, .storage⟩
  | .noSpace => some ⟨.storageIo, .none⟩
  | .ioError => some ⟨.storageIo, .storage⟩
  | .notFound | .bufferTooSmall | .corrupt | .unsupportedSchema | .other =>
    some ⟨.corruptFence, .corrupt⟩

/-- A missing row is erased already. -/
def mapErase : StorageStatus → Option Fault
  | .ok | .notFound => none
  | .noSpace => some ⟨.storageIo, .none⟩
  | .ioError => some ⟨.storageIo, .storage⟩
  | .commitUnknown => some ⟨.commitUnknown, .storage⟩
  | .busy => some ⟨.busy, .none⟩
  | .bufferTooSmall | .corrupt | .unsupportedSchema | .other => some ⟨.corruptFence, .corrupt⟩

/-- The end of the iteration is no failure. -/
def mapIterNext : StorageStatus → Option Fault
  | .ok | .notFound => none
  | .ioError => some ⟨.storageIo, .storage⟩
  | .commitUnknown => some ⟨.commitUnknown, .storage⟩
  | .busy => some ⟨.busy, .none⟩
  | .noSpace | .bufferTooSmall | .corrupt | .unsupportedSchema | .other =>
    some ⟨.corruptFence, .corrupt⟩

def mapRollback : StorageStatus → Option Fault
  | .ok => none
  | .notFound | .noSpace | .ioError | .busy => some ⟨.storageIo, .storage⟩
  | .commitUnknown => some ⟨.commitUnknown, .storage⟩
  | .bufferTooSmall | .corrupt | .unsupportedSchema | .other => some ⟨.corruptFence, .corrupt⟩

def applyMapFence {ε : Type} : FenceKind → Prog St ε Unit
  | .none => pure ()
  | .storage => setFenceStorage
  | .corrupt => setFenceCorrupt

/-- Set the fence of a failed call, and fail with its status. -/
def fail {α : Type} (f : Fault) : Op α := do
  applyMapFence f.fence
  throw f.status

/-- Fail when the call of the storage failed. -/
def check : Option Fault → Op Unit
  | none => pure ()
  | some f => fail f

/-- The namespace is not what the authority left. -/
def failCorrupt {α : Type} : Op α := fail ⟨.corruptFence, .corrupt⟩

/-- Fail unless the namespace is what the authority left. -/
def requireSound (c : Bool) : Op Unit := if c then pure () else failCorrupt

/-! ### Transactions -/

def ensureOpen : Op Unit := do
  let s ← get
  require s.pcp.storageBound .unboundStorage
  if s.pcp.handleLive then pure () else do
    let r ← nextReply
    check (mapOpen r.status)
    requireSound (!r.null)
    modifyPcp fun p => { p with handleLive := true }

/-- A transaction that comes with a failure is rolled back. -/
def beginReply : Op Unit := do
  let r ← nextReply
  if r.status = .ok then
    requireSound (!r.null)
  else if r.null then
    check (mapBegin r.status)
  else do
    let _ ← nextReply
    check (mapBegin r.status)

def begin : Op Unit := do
  beginReply
  modify fun s => { s with txn := s.disk }

def rollbackMap : Op Unit := do
  let r ← nextReply
  check (mapRollback r.status)

/-- Fail after rolling back. -/
def orRollback {α : Type} (m : Op α) : Op α := onFailure m fun _ => rollbackMap

/-- The commit as the storage does it. -/
def storageCommit {ε : Type} : Prog St ε StorageStatus := do
  let r ← nextReply
  modify fun s => { s with disk := if r.takesEffect then s.txn else s.disk }
  pure r.status

def commitFull : Op Unit := do
  let st ← storageCommit
  check (mapCommit st)

/-- A value of the transaction. -/
def getValue {α : Type} (f : Namespace → Option α) : Op (Option α) := do
  let r ← nextReply
  check (mapGet r.status)
  let s ← get
  pure (f s.txn)

/-- A write of the transaction. -/
def putValue (f : Namespace → Namespace) : Op Unit := do
  let r ← nextReply
  check (mapPut r.status)
  modify fun s => { s with txn := f s.txn }

def txnGetMeta : Op (Option Meta) := getValue Namespace.info

def txnGetIss (seq : UInt64) : Op (Option Issued) := do
  match ← getValue fun ns => ns.rows.lookup seq with
  | none => pure none
  | some iss =>
    requireSound (iss.permitSequence == seq)
    pure (some iss)

def txnPutMeta (m : Meta) : Op Unit := putValue fun ns => { ns with info := some m }

def txnPutIss (iss : Issued) : Op Unit :=
  putValue fun ns => { ns with rows := ns.rows.insert iss.permitSequence iss }

def txnErase (seq : UInt64) : Op Unit := do
  let r ← nextReply
  check (mapErase r.status)
  modify fun s => { s with txn := { s.txn with rows := s.txn.rows.erase seq } }

/-! ### The scan -/

/-- A call of the iterator. -/
def iterNext : Op Unit := do
  let r ← nextReply
  check (mapIterNext r.status)

/-- The walk over the rows. No two of them have the same number. -/
def scanRows : List (Sigma fun _ : UInt64 => Issued) → List ScanIss → Op (List ScanIss)
  | [], acc => pure acc
  | e :: l, acc => do
    iterNext
    requireSound (rowAccepted e.1 e.2)
    requireSound (acc.length < scanMaxIss)
    scanRows l (acc ++ [indexOf e])

/-- The call that finds the meta record. -/
def scanMeta : Option Meta → Op Unit
  | none => pure ()
  | some _ => iterNext

/-- The walk over the namespace, to its end. -/
def scanNamespace : Op Scan := do
  let r ← nextReply
  check (mapBegin r.status)
  requireSound (!r.null)
  let s ← get
  let iss ← scanRows s.txn.rows.entries []
  scanMeta s.txn.info
  iterNext
  pure ⟨s.txn.info, iss⟩

/-- The rows read again. -/
def verifyIssBodies (m : Meta) : List ScanIss → Op Unit
  | [] => pure ()
  | x :: l => do
    match ← txnGetIss x.seq with
    | none => failCorrupt
    | some body =>
      requireSound (bodyAccepted m x body)
      verifyIssBodies m l

/-- The full check of a transaction, with the meta record it found. -/
def rwScanCheck : Op Meta := do
  let scan ← scanNamespace
  match scan.info with
  | none => throw .invalidState
  | some m =>
    requireSound (verifyInvariants scan)
    verifyIssBodies m scan.iss
    pure m

/-! ### Clock and fences -/

/-- A reading of the clock, classed against the moment trusted last. -/
def sampleClock {ε : Type} : Prog St ε Sampled := do
  let s ← get
  set { s with clock := s.clock.tail }
  pure ⟨classify s.pcp.ramTrust s.clock.head, s.clock.head.sample⟩

/-- The one attempt to store a fence: a checked transaction that writes the meta record only. -/
def stickyTxn {α : Type} (f : Fences → Fences) (commit : Op α) : Op Unit := do
  begin
  let m ← orRollback rwScanCheck
  orRollback (txnPutMeta { m with fences := f m.fences })
  let _ ← commit
  pure ()

/-- `storageCommit` as a call of the authority. -/
def commitRaw : Op StorageStatus := storageCommit

/-- The fence in RAM, and the attempt to store it. -/
def stickyFence {ε : Type} (f : Fences → Fences) : Prog St ε Unit := do
  modifyPcp fun p => { p with fence := f p.fence, ramValidate := none }
  let s ← get
  if s.pcp.handleLive then ignore (stickyTxn f commitRaw) else pure ()

def stickyClockFenceBestEffort {ε : Type} : Prog St ε Unit := do
  let s ← get
  if s.pcp.storageBound && s.pcp.published then
    stickyFence fun f => { f with clock := true }
  else
    modifyPcp fun p => { p with fence := { p.fence with clock := true } }

def stickyStorageFenceBestEffort {ε : Type} : Prog St ε Unit := do
  let s ← get
  if s.pcp.storageBound then stickyFence fun f => { f with storage := true } else pure ()

/-- `pcp_apply_clock_fault_fence`. -/
def setFenceClock {ε : Type} : Prog St ε Unit := do
  modifyPcp fun p => { p with fence := { p.fence with clock := true } }
  stickyClockFenceBestEffort

/-- The fence of a clock fault, as `consume` and `issue_sample_pin` set it: not before the first
meta record. -/
def commitClockFaultFence {ε : Type} : Prog St ε Unit := do
  let s ← get
  if s.pcp.published then stickyClockFenceBestEffort else pure ()

end Ninlil.Permit
