import Mathlib
import Ninlil.Lib.Sizes

/-!
# The resource ledger and its batch transition

`resource_ledger.c` and `resource_ledger_batch.c`: eleven capacity entries, one per
resource kind, each with a limit, the used and reserved amounts, a high-water mark, a
capacity epoch and two flags.  Every quantity keeps the machine width of the source
(`UInt64`, `UInt32`), so that additions and subtractions wrap exactly where C wraps.

* `capacityEntryTransition`: reserve-or-block, commit-reserved and release of one entry;
* `resourceLedgerInit`, `resourceLedgerProject`: the initial ledger, and the validation
  that every batch runs first;
* `capacityBatchTransition`: a list of requests in strictly increasing kinds, applied to
  a working copy and rolled back as a whole when one reservation does not fit.

A call that fails leaves a zeroed result in the source; here it is `Except.error`.
-/

namespace Ninlil

/-- The API status codes (`ninlil_status_t`). -/
inductive Status
  | ok
  | invalidArgument
  | abiMismatch
  | unsupported
  | wrongThread
  | reentrant
  | bufferTooSmall
  | notFound
  | conflict
  | capacityExhausted
  | storage
  | storageCorrupt
  | storageCommitUnknown
  | clockUncertain
  | entropy
  | wouldBlock
  | invalidState
  | callback
  | degraded
  | internal
  /-- a code outside the published list -/
  | other (code : Int)
  deriving DecidableEq, Repr

/-- `UINT64_MAX`. -/
def uint64Max : UInt64 := 0xFFFFFFFFFFFFFFFF

namespace Resource

/-! ### Resource kinds -/

/-- The number of resource kinds (`NINLIL_MODEL_RESOURCE_KIND_COUNT`). -/
abbrev kindCount : ℕ := 11

/-- `NINLIL_RESOURCE_SERVICE`, the first kind. -/
abbrev kindService : UInt32 := 1
/-- `NINLIL_RESOURCE_TRANSACTION`. -/
abbrev kindTransaction : UInt32 := 2
/-- `NINLIL_RESOURCE_TARGET`. -/
abbrev kindTarget : UInt32 := 3
/-- `NINLIL_RESOURCE_OUTBOX_BYTES`. -/
abbrev kindOutboxBytes : UInt32 := 4
/-- `NINLIL_RESOURCE_EVENT_SPOOL_COUNT`. -/
abbrev kindEventSpoolCount : UInt32 := 6
/-- `NINLIL_RESOURCE_EVENT_SPOOL_BYTES`. -/
abbrev kindEventSpoolBytes : UInt32 := 7
/-- `NINLIL_RESOURCE_EVIDENCE`. -/
abbrev kindEvidence : UInt32 := 9
/-- `NINLIL_RESOURCE_DEFERRED_TOKEN`, the last kind. -/
abbrev kindDeferredToken : UInt32 := 11

/-- `ninlil_model_capacity_entry_t`. -/
structure CapacityEntry where
  kind : UInt32 := 0
  limit : UInt64 := 0
  used : UInt64 := 0
  reserved : UInt64 := 0
  highWater : UInt64 := 0
  capacityEpoch : UInt64 := 0
  blocked : UInt32 := 0
  counterExhaustedMarker : UInt32 := 0
  deriving DecidableEq, Repr

/-- `ninlil_model_capacity_operation_t`; `unknown` is any other enumeration value. -/
inductive CapacityOperation
  | reserveOrBlock
  | commitReserved
  | release
  | unknown (code : ℕ)
  deriving DecidableEq, Repr

/-- `ninlil_model_capacity_action_t`; `unset` is the zero that `memset` leaves. -/
inductive CapacityAction
  | unset
  | reserved
  | blockSetRequired
  | alreadyBlocked
  | counterExhausted
  | committed
  | released
  | releasedAndUnblocked
  | releasedEpochExhausted
  deriving DecidableEq, Repr

/-- `ninlil_model_capacity_transition_input_t`. -/
structure TransitionInput where
  current : CapacityEntry
  operation : CapacityOperation
  amount : UInt64
  usedRelease : UInt64
  reservedRelease : UInt64
  reopensBlockedClass : UInt32

/-- `ninlil_model_capacity_transition_result_t`. -/
structure TransitionResult where
  next : CapacityEntry
  action : CapacityAction := .unset
  counterExhaustedMarkerNewlySet : UInt32 := 0
  deriving DecidableEq, Repr

/-! ### One entry -/

def resourceKindIsKnown (kind : UInt32) : Bool :=
  kindService ≤ kind && kind ≤ kindDeferredToken

/-- `used + reserved`, unless it overflows.  The guard is compared on natural numbers, where
`UINT64_MAX - reserved` does not wrap either. -/
def checkedTotal (entry : CapacityEntry) : Option UInt64 :=
  if entry.used.toNat > uint64Max.toNat - entry.reserved.toNat then none
  else some (entry.used + entry.reserved)

def capacityEntryIsValid (entry : CapacityEntry) : Bool :=
  match checkedTotal entry with
  | none => false
  | some total =>
    decide (resourceKindIsKnown entry.kind = true ∧ entry.blocked ≤ 1
      ∧ entry.counterExhaustedMarker ≤ 1 ∧ entry.capacityEpoch ≠ 0
      ∧ total ≤ entry.limit ∧ total ≤ entry.highWater ∧ entry.highWater ≤ entry.limit
      ∧ (entry.counterExhaustedMarker = 0
        ∨ (entry.capacityEpoch = uint64Max ∧ entry.blocked = 0)))

def operationShapeIsValid (input : TransitionInput) : Bool :=
  match input.operation with
  | .reserveOrBlock | .commitReserved =>
    input.amount > 0 && input.usedRelease == 0 && input.reservedRelease == 0
      && input.reopensBlockedClass == 0
  | .release =>
    input.amount == 0 && (input.usedRelease > 0 || input.reservedRelease > 0)
      && input.reopensBlockedClass ≤ 1
  | .unknown _ => false

def reserveOrBlock (input : TransitionInput) : Except Status TransitionResult :=
  let current := input.current
  if current.counterExhaustedMarker != 0 then
    .ok { next := current, action := .counterExhausted }
  else
    match checkedTotal current with
    | none => .error .storageCorrupt
    | some total =>
      if input.amount ≤ current.limit - total then
        let total := total + input.amount
        .ok
          { next :=
              { current with
                reserved := current.reserved + input.amount
                highWater := if current.highWater < total then total else current.highWater }
            action := .reserved }
      else if current.blocked == 0 then
        .ok { next := { current with blocked := 1 }, action := .blockSetRequired }
      else
        .ok { next := current, action := .alreadyBlocked }

def commitReserved (input : TransitionInput) : Except Status TransitionResult :=
  let current := input.current
  if input.amount > current.reserved then .error .storageCorrupt
  else
    .ok
      { next :=
          { current with
            reserved := current.reserved - input.amount
            used := current.used + input.amount }
        action := .committed }

def releaseCapacity (input : TransitionInput) : Except Status TransitionResult :=
  let current := input.current
  if input.usedRelease > current.used || input.reservedRelease > current.reserved then
    .error .storageCorrupt
  else
    let next :=
      { current with
        used := current.used - input.usedRelease
        reserved := current.reserved - input.reservedRelease }
    if current.blocked != 0 && input.reopensBlockedClass != 0 then
      if current.capacityEpoch == uint64Max then
        .ok
          { next := { next with blocked := 0, counterExhaustedMarker := 1 }
            action := .releasedEpochExhausted
            counterExhaustedMarkerNewlySet := 1 }
      else
        .ok
          { next := { next with blocked := 0, capacityEpoch := current.capacityEpoch + 1 }
            action := .releasedAndUnblocked }
    else
      .ok { next := next, action := .released }

/-- `ninlil_model_capacity_entry_transition`. -/
def capacityEntryTransition (input : TransitionInput) : Except Status TransitionResult :=
  if !operationShapeIsValid input then .error .invalidArgument
  else if !capacityEntryIsValid input.current then .error .storageCorrupt
  else
    match input.operation with
    | .reserveOrBlock => reserveOrBlock input
    | .commitReserved => commitReserved input
    | .release => releaseCapacity input
    | .unknown _ => .error .invalidArgument

/-! ### The ledger -/

/-- `ninlil_model_resource_ledger_t`: one entry per kind, the kind `i + 1` at index `i`. -/
abbrev Ledger := Fin kindCount → CapacityEntry

/-- `ninlil_model_capacity_limits_t`. -/
abbrev CapacityLimits := Fin kindCount → UInt64

/-- The index of a kind; only used on kinds that have passed `resourceKindIsKnown`. -/
def entryIndex (kind : UInt32) : Fin kindCount := Fin.ofNat kindCount (kind.toNat - 1)

/-- The kind stored at an index. -/
def kindAt (i : Fin kindCount) : UInt32 := UInt32.ofNat (i.val + 1)

/-- `ninlil_model_resource_ledger_init`. -/
def resourceLedgerInit (limits : CapacityLimits) : Ledger := fun i =>
  { kind := kindAt i, limit := limits i, capacityEpoch := 1 }

/-- `ninlil_model_capacity_entry_view_t`. -/
structure CapacityEntryView where
  kind : UInt32
  limit : UInt64
  used : UInt64
  reserved : UInt64
  highWater : UInt64
  capacityEpoch : UInt64
  deriving DecidableEq, Repr

/-- `ninlil_model_capacity_snapshot_view_t`. -/
structure CapacitySnapshotView where
  entries : Fin kindCount → CapacityEntryView
  entryCount : UInt32
  deriving DecidableEq

/-- `ninlil_model_resource_ledger_project`: the public projection of a valid ledger. -/
def resourceLedgerProject (ledger : Ledger) : Except Status CapacitySnapshotView :=
  if ∀ i, (ledger i).kind = kindAt i ∧ capacityEntryIsValid (ledger i) = true then
    .ok
      { entries := fun i =>
          { kind := (ledger i).kind
            limit := (ledger i).limit
            used := (ledger i).used
            reserved := (ledger i).reserved
            highWater := (ledger i).highWater
            capacityEpoch := (ledger i).capacityEpoch }
        entryCount := 11 }
  else .error .storageCorrupt

/-! ### Batches -/

/-- `ninlil_model_capacity_batch_operation_t`. -/
inductive BatchOperation
  | reserveOrBlock
  | commitReserved
  | release
  | unknown (code : ℕ)
  deriving DecidableEq, Repr

/-- `ninlil_model_capacity_batch_action_t`; `unset` is the zero that `memset` leaves. -/
inductive BatchAction
  | unset
  | allReserved
  | blockSetRequired
  | alreadyBlocked
  | counterExhausted
  | allCommitted
  | allReleased
  deriving DecidableEq, Repr

/-- `ninlil_model_capacity_batch_request_t`. -/
structure BatchRequest where
  kind : UInt32 := 0
  reopensBlockedClass : UInt32 := 0
  amount : UInt64 := 0
  usedRelease : UInt64 := 0
  reservedRelease : UInt64 := 0
  deriving DecidableEq, Repr

/-- The caller's part of `ninlil_model_capacity_batch_input_t`: everything but the ledger. -/
structure Batch where
  operation : BatchOperation
  requestCount : UInt32
  requests : Fin kindCount → BatchRequest
  deriving DecidableEq

/-- `ninlil_model_capacity_batch_result_t`. -/
structure BatchResult where
  next : Ledger
  action : BatchAction := .unset
  mutationRequired : UInt32 := 0
  changedKindMask : UInt32 := 0
  unblockedKindMask : UInt32 := 0
  counterMarkerNewlySetMask : UInt32 := 0
  failingRequestOrdinal : UInt32 := 0
  failingKind : UInt32 := 0
  failingEntryAction : CapacityAction := .unset
  rolledBackCount : UInt32 := 0
  deriving DecidableEq

def batchOperationIsKnown : BatchOperation → Bool
  | .unknown _ => false
  | _ => true

def requestIsZero (request : BatchRequest) : Bool :=
  request.kind == 0 && request.reopensBlockedClass == 0 && request.amount == 0
    && request.usedRelease == 0 && request.reservedRelease == 0

def requestShapeIsValid (request : BatchRequest) (operation : BatchOperation) : Bool :=
  if request.kind < kindService || request.kind > kindDeferredToken then false
  else
    match operation with
    | .reserveOrBlock | .commitReserved =>
      request.reopensBlockedClass == 0 && request.amount > 0
        && request.usedRelease == 0 && request.reservedRelease == 0
    | .release =>
      request.reopensBlockedClass ≤ 1 && request.amount == 0
        && (request.usedRelease > 0 || request.reservedRelease > 0)
    | .unknown _ => false

/-- The requests `requests[0 .. request_count)`. -/
def Batch.active (batch : Batch) : List BatchRequest :=
  (List.ofFn batch.requests).take batch.requestCount.toNat

/-- The slots behind the active requests. -/
def Batch.idle (batch : Batch) : List BatchRequest :=
  (List.ofFn batch.requests).drop batch.requestCount.toNat

/-- The loop of `batch_shape_is_valid` over the active requests: every shape is valid and
the kinds increase strictly. -/
def activeShapeIsValid (operation : BatchOperation) : UInt32 → List BatchRequest → Bool
  | _, [] => true
  | previousKind, request :: rest =>
    requestShapeIsValid request operation && previousKind < request.kind
      && activeShapeIsValid operation request.kind rest

def batchShapeIsValid (batch : Batch) : Bool :=
  batchOperationIsKnown batch.operation && batch.requestCount != 0
    && batch.requestCount ≤ 11
    && activeShapeIsValid batch.operation 0 batch.active
    && batch.idle.all requestIsZero

def kindMask (kind : UInt32) : UInt32 := 1 <<< (kind - 1)

/-- The entry operation of a batch operation. -/
def BatchOperation.entryOperation : BatchOperation → CapacityOperation
  | .reserveOrBlock => .reserveOrBlock
  | .commitReserved => .commitReserved
  | .release => .release
  | .unknown code => .unknown code

def makeEntryInput (operation : BatchOperation) (request : BatchRequest)
    (current : CapacityEntry) : TransitionInput where
  current := current
  operation := operation.entryOperation
  amount := request.amount
  usedRelease := request.usedRelease
  reservedRelease := request.reservedRelease
  reopensBlockedClass := request.reopensBlockedClass

/-- One request against the working ledger. -/
def transitionAt (operation : BatchOperation) (working : Ledger) (request : BatchRequest) :
    Except Status TransitionResult :=
  capacityEntryTransition
    (makeEntryInput operation request (working (entryIndex request.kind)))

/-- Restore the entries of the requests already applied. -/
def rollBack (current : Ledger) (working : Ledger) (done : List BatchRequest) : Ledger :=
  done.foldr
    (fun request ledger =>
      Function.update ledger (entryIndex request.kind) (current (entryIndex request.kind)))
    working

/-- The masks of a list of requests, joined. -/
def changedMask (requests : List BatchRequest) : UInt32 :=
  requests.foldl (fun mask request => mask ||| kindMask request.kind) 0

/-- The failure branch of the reservation loop: roll the applied requests back and report
the first request that did not fit. -/
def reserveFailure (current working : Ledger) (done : List BatchRequest)
    (request : BatchRequest) (entryResult : TransitionResult) : Except Status BatchResult :=
  let next := rollBack current working done
  let result : BatchResult :=
    { next := next
      rolledBackCount := UInt32.ofNat done.length
      failingRequestOrdinal := UInt32.ofNat (done.length + 1)
      failingKind := request.kind
      failingEntryAction := entryResult.action }
  match entryResult.action with
  | .blockSetRequired =>
    .ok
      { result with
        next := Function.update next (entryIndex request.kind) entryResult.next
        action := .blockSetRequired
        mutationRequired := 1
        changedKindMask := kindMask request.kind }
  | .alreadyBlocked => .ok { result with action := .alreadyBlocked }
  | .counterExhausted => .ok { result with action := .counterExhausted }
  | _ => .error .invalidState

/-- The loop of `reserve_batch`; `done` lists the requests already applied, the last first. -/
def reserveLoop (current : Ledger) :
    Ledger → List BatchRequest → List BatchRequest → Except Status BatchResult
  | working, done, [] =>
    .ok
      { next := working
        action := .allReserved
        mutationRequired := 1
        changedKindMask := changedMask done.reverse }
  | working, done, request :: rest =>
    match transitionAt .reserveOrBlock working request with
    | .error status => .error status
    | .ok entryResult =>
      if entryResult.action = .reserved then
        reserveLoop current
          (Function.update working (entryIndex request.kind) entryResult.next)
          (request :: done) rest
      else reserveFailure current working done request entryResult

/-- Whether the entry action is the one a commit or release batch expects. -/
def expectedAction (operation : BatchOperation) (action : CapacityAction) : Bool :=
  match operation with
  | .commitReserved => action == .committed
  | .release =>
    action == .released || action == .releasedAndUnblocked
      || action == .releasedEpochExhausted
  | _ => true

/-- The loop of `commit_or_release_batch`. -/
def commitOrReleaseLoop (operation : BatchOperation) :
    BatchResult → List BatchRequest → Except Status BatchResult
  | result, [] =>
    .ok
      { result with
        mutationRequired := 1
        action := if operation = .commitReserved then .allCommitted else .allReleased }
  | result, request :: rest =>
    match transitionAt operation result.next request with
    | .error status => .error status
    | .ok entryResult =>
      if !expectedAction operation entryResult.action then .error .invalidState
      else
        let mask := kindMask request.kind
        let unblocked := entryResult.action == .releasedAndUnblocked
          || entryResult.action == .releasedEpochExhausted
        commitOrReleaseLoop operation
          { result with
            next := Function.update result.next (entryIndex request.kind) entryResult.next
            changedKindMask := result.changedKindMask ||| mask
            unblockedKindMask :=
              if unblocked then result.unblockedKindMask ||| mask
              else result.unblockedKindMask
            counterMarkerNewlySetMask :=
              if entryResult.counterExhaustedMarkerNewlySet != 0 then
                result.counterMarkerNewlySetMask ||| mask
              else result.counterMarkerNewlySetMask }
          rest

/-- `ninlil_model_capacity_batch_transition`. -/
def capacityBatchTransition (current : Ledger) (batch : Batch) : Except Status BatchResult :=
  if !batchShapeIsValid batch then .error .invalidArgument
  else
    match resourceLedgerProject current with
    | .error status => .error status
    | .ok _ =>
      if batch.operation = .reserveOrBlock then reserveLoop current current [] batch.active
      else commitOrReleaseLoop batch.operation { next := current } batch.active

end Resource
end Ninlil
