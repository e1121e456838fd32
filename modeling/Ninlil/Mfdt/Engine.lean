import Ninlil.Lib.Outcomes
import Ninlil.Mfdt.Record

/-!
# The engine of one transfer

The part of `mfdt_v1_engine.c` that a sender runs, with what both sides use of the store.

* `Engine`, `Storage`, `World`: an engine, the store it writes to, and both together;
* `packActive`, `fullPutOne`, `restoreActiveFromDurable`: the record of the transfer, written and
  read back;
* `senderOpenWithMetadata` to `senderOnTransferAccept`: the calls of a sender;
* `ownerTimeoutRetryCharge`, `terminalComplete`, `restartScanTransfer`: what its owner calls.

The store is a parameter: a FULL is its begin, its puts and erases in order, and its commit, or the
rollback of what came before, and it may fail in any way.
-/

namespace Ninlil.Mfdt

open Bytes Outcomes

/-- `ninlil_mfdt_v1_config_t`. -/
structure Config where
  policyOn : Bool
  admissionVersion : UInt16
  hostMode : Bool
  sessionGeneration : UInt32
  capability : UInt8
  nowMs : UInt64
  localClockEpoch : Id

/-- `ninlil_mfdt_v1_engine_t`. -/
structure Engine where
  cfg : Config
  x : Xfer := {}
  activeCount : UInt8 := 0
  durableActiveValueLen : ℕ := 0
  publicationToken : Id := zeroId
  publicationReady : Bool := false
  handoffComplete : Bool := false
  unpaidChunkOffer : Bool := false

/-- An operation of a FULL. -/
inductive StoreOp
  | put (key : Key) (value : List UInt8)
  | erase (key : Key)

/-- A store. `full` is also told how many rows and bytes the owner's inventory gains. -/
structure Storage (σ : Type) where
  port : Bool
  full : ℤ → ℤ → List StoreOp → σ → Except Err PUnit × σ
  has : Key → σ → Except Err PUnit × σ
  get : Key → ℕ → σ → Except Err (List UInt8) × σ

structure World (σ : Type) where
  eng : Engine
  store : σ

abbrev Prog (σ : Type) := Outcomes.Prog (World σ) Err

section Programs

variable {σ α : Type}

def engine : Prog σ Engine := do return (← get).eng

def setEngine (f : Engine → Engine) : Prog σ PUnit :=
  modify fun w => { w with eng := f w.eng }

def setXfer (f : Xfer → Xfer) : Prog σ PUnit := setEngine fun e => { e with x := f e.x }

/-- A call of the store. -/
def storage (call : σ → Except Err α × σ) : Prog σ α :=
  ExceptT.mk fun w => ((call w.store).1, { w with store := (call w.store).2 })

end Programs

/-! ### Checks of the configuration -/

/-- `policy_ok`: why the policy refuses, if it does. -/
def policyRefusal (cfg : Config) : Option Err :=
  if !cfg.policyOn then some .policyOff
  else if cfg.admissionVersion ≠ 2 ∨ cfg.capability = 0 ∨ cfg.sessionGeneration = 0 then
    some .version
  else none

/-- `active_max`. -/
def activeMax : UInt8 := 1

/-! ### The store -/

section Store

variable {σ : Type} (sha256 : Hash) (st : Storage σ)

/-- The logical bytes of a row. -/
def rowBytes (value : List UInt8) : ℤ := value.length + 36

/-- `full_put_one`. -/
def fullPutOne (key : Key) (value : List UInt8) : Prog σ PUnit :=
  storage (st.full 0 0 [.put key value])

/-- `full_put_active_and_nrc1`. -/
def fullPutActiveAndNrc1 (activeKey : Key) (active : List UInt8) (nrc1Key : Key)
    (nrc1 : List UInt8) : Prog σ PUnit := do
  let e ← engine
  let fresh := st.port && e.durableActiveValueLen == 0
  storage (st.full (if fresh then 2 else 0) (if fresh then rowBytes active + rowBytes nrc1 else 0)
    [.put activeKey active, .put nrc1Key nrc1])
  if st.port then setEngine fun e => { e with durableActiveValueLen := active.length }

/-- `full_terminal` and `full_terminal_with_nrc1`, which puts the answers too. -/
def fullTerminal (activeKey terminalKey : Key) (nm30 : List UInt8)
    (answers : List StoreOp) : Prog σ PUnit := do
  let e ← engine
  require (!(st.port && e.durableActiveValueLen == 0)) .corrupt
  let delta : ℤ := if st.port then nm30.length - e.durableActiveValueLen else 0
  storage (st.full 0 delta ([.erase activeKey, .put terminalKey nm30] ++ answers))
  if st.port then setEngine fun e => { e with durableActiveValueLen := 0 }

/-! ### The record of the transfer -/

/-- The key of the record of a transfer. -/
def Xfer.activeKey (x : Xfer) : Key :=
  makeKey (if x.role = 1 then magicNm3s else magicNm3r) x.transferId

/-- The local clock epoch of `pack_active`: the transfer takes it over, or has it already. -/
def bindLocalEpoch : Prog σ PUnit := do
  let e ← engine
  if isZero e.x.durableLocalEpoch then
    require (!isZero e.cfg.localClockEpoch) .state
    setXfer fun x => { x with durableLocalEpoch := e.cfg.localClockEpoch }
  else
    require (e.x.durableLocalEpoch == e.cfg.localClockEpoch) .state

/-- Bytes of the record of a transfer. -/
def Xfer.recordBytes (x : Xfer) : ℕ :=
  headerBytes + x.openBody.length + x.entries.length + x.content.length + 4

/-- `pack_active`: the record, with the sample of the local clock. -/
def packActive : Prog σ (List UInt8) := do
  bindLocalEpoch
  let e ← engine
  setXfer fun x => { x with durableLocalMonoMs := e.cfg.nowMs }
  let e ← engine
  require (e.x.openBody.length ≤ 656 && e.x.entries.length ≤ 1480 &&
    e.x.recordBytes ≤ activeValueMax) .capacity
  require ((e.x.role == 1 || e.x.role == 2) && openBodyMin ≤ e.x.openBody.length &&
    e.x.openBody.length ≤ openBodyMax) .param
  return activeRecord e.x e.cfg.sessionGeneration

/-- What `project_active_record` takes over from a record. -/
def Engine.project (e : Engine) (port : Bool) (rec : List UInt8) : Engine :=
  let x := e.x.project rec
  let published := x.publicationState == 1 || x.publicationState == 2
  { e with
    x := x
    publicationReady := e.publicationReady || published
    publicationToken := if published then x.publicationToken else e.publicationToken
    handoffComplete := e.handoffComplete || x.handoffState == 1
    durableActiveValueLen := if port then rec.length else e.durableActiveValueLen }

/-- `project_active_record`. -/
def projectActiveRecord (rec : List UInt8) : Prog σ PUnit := do
  let e ← engine
  require (recordUnpack sha256 rec) .corrupt
  require (rec.getD 12 0 == e.x.role && slice rec 16 16 == e.x.transferId.toList &&
    getU32Be rec 300 == e.cfg.sessionGeneration) .corrupt
  setEngine fun e => e.project st.port rec

/-- The answers of a transfer are of this session. -/
def nrc1Current (nrc1 : List UInt8) (transferId : Id) (cfg : Config) : Bool :=
  nrc1Validate nrc1 transferId && getU32Be nrc1 24 == cfg.sessionGeneration

/-- `load_active_from_store`. -/
def loadActiveFromStore : Prog σ PUnit := do
  let e ← engine
  let rec ← storage (st.get e.x.activeKey activeValueMax)
  let nrc1 ← mapFailure (fun _ => Err.corrupt)
    (storage (st.get (makeKey magicNrc1 e.x.transferId) nrc1ValueBytes))
  require (nrc1Current nrc1 e.x.transferId e.cfg) .corrupt
  projectActiveRecord sha256 st rec

/-- `restore_active_from_durable`. -/
def restoreActiveFromDurable : Prog σ PUnit := do
  setEngine fun e => { e with
    publicationReady := false
    handoffComplete := false
    unpaidChunkOffer := false
    x := { e.x with unpaidChunk := false } }
  match ← attempt (loadActiveFromStore sha256 st) with
  | .ok _ => setEngine fun e => { e with activeCount := 1 }
  | .error (_ : Err) =>
    setEngine fun e => { e with x := {}, activeCount := 0, durableActiveValueLen := 0 }

/-- `pack_active` and `full_put_active_reload_on_failure`. -/
def putActive : Prog σ PUnit :=
  onFailure
    (do
      let record ← packActive
      let e ← engine
      fullPutOne st e.x.activeKey record)
    fun _ => restoreActiveFromDurable sha256 st

/-! ### Opening -/

/-- The checks of the metadata that `sender_open_with_metadata` makes itself. -/
def metadataOk (m : OpenMetadata) : Bool :=
  !isZero m.originTransactionId && !isZero m.sourceRuntimeId && !isZero m.targetRuntimeId &&
    m.serviceDescriptorRevision != 0 && !isZero m.serviceDescriptorDigest &&
    textIdOk m.namespaceBytes true && textIdOk m.serviceBytes false &&
    textIdOk m.schemaBytes false &&
    (if isZero m.deadlineClockEpochId then
      m.absoluteEffectDeadlineMs == UInt64.ofNat (2 ^ 64 - 1)
    else m.absoluteEffectDeadlineMs != 0 &&
      m.absoluteEffectDeadlineMs != UInt64.ofNat (2 ^ 64 - 1))

/-- What refuses an OPEN before the slot is touched. -/
def openRefusal (e : Engine) (transferId : Id) (content : List UInt8) (m : OpenMetadata) :
    Option Err :=
  if isZero transferId then some .param
  else if !metadataOk m then some .layout
  else match policyRefusal e.cfg with
    | some err => some err
    | none =>
      match geometry (UInt32.ofNat content.length) with
      | .error err => some err
      | .ok _ =>
        if activeMax ≤ e.activeCount then some .capacity
        else if e.x.busy then some .capacity
        else none

/-- The slot as it is when `encode_open` begins, with the entries that it then writes. -/
def Xfer.opening (transferId : Id) (content : List UInt8) (geo : Geometry)
    (entries : List UInt8) : Xfer :=
  { transferId := transferId
    occupied := true
    role := 1
    stateCode := sOpenPending
    retryBudget := retryBudgetMax
    chunkCount := geo.chunkCount
    pageCount := geo.pageCount
    totalLength := geo.totalLength
    recordGeneration := 1
    revision := 1
    entries := entries
    content := content }

/-- `ninlil_mfdt_v1_sender_open_with_metadata`. -/
def senderOpenWithMetadata (transferId : Id) (content : List UInt8) (m : OpenMetadata) :
    Prog σ (List UInt8) := do
  let e ← engine
  match openRefusal e transferId content m with
  | some err => throw err
  | none =>
    match geometry (UInt32.ofNat content.length) with
    | .error err => throw err
    | .ok geo =>
      setXfer fun _ => Xfer.opening transferId content geo (openEntries sha256 content geo)
      -- a failure here leaves the slot as it is
      match encodeOpen sha256 transferId content m with
      | .error err => throw err
      | .ok parts =>
        setXfer fun x => { x with
          manifestDigest := parts.manifest
          wholeDigest := parts.whole
          openBody := parts.body }
        onFailure
          (do
            let record ← packActive
            let e ← engine
            fullPutActiveAndNrc1 st e.x.activeKey record (makeKey magicNrc1 transferId)
              (nrc1InitEmpty transferId e.cfg.sessionGeneration))
          fun _ => restoreActiveFromDurable sha256 st
        setEngine fun e => { e with activeCount := e.activeCount + 1 }
        return parts.body

/-- The metadata of `sender_open`. -/
def defaultMetadata : OpenMetadata :=
  let id (b : UInt8) : Id := zeroId.set 0 b
  { originTransactionId := id 0x20
    originEventId := id 0x30
    sourceRuntimeId := id 0x40
    targetRuntimeId := id 0x50
    serviceDescriptorRevision := 1
    serviceDescriptorDigest := sha256 (ascii "mfdt-service-descriptor")
    deadlineClockEpochId := zeroId
    absoluteEffectDeadlineMs := UInt64.ofNat (2 ^ 64 - 1)
    originalAttemptId := id 0x60
    targetOrdinal := 0
    sourceApplicationInstanceId := id 0x70
    sourceDeviceId := zeroId
    sourceInstallationId := zeroId
    sourceSiteId := zeroId
    sourceBindingEpoch := 0
    sourceMembershipEpoch := 0
    sourceIdentityFlags := 0
    sourceReserved := 0
    targetApplicationInstanceId := id 0x80
    targetDeviceId := zeroId
    targetInstallationId := zeroId
    targetSiteId := zeroId
    targetBindingEpoch := 0
    targetMembershipEpoch := 0
    targetIdentityFlags := 0
    targetReserved := 0
    serviceSchemaMajor := 1
    serviceSchemaMinor := 0
    serviceFamily := 1
    applicationGeneration := 0
    evidenceGraceMs := 0
    requiredEvidence := 1
    applicationBindingFlags := 0
    namespaceBytes := ascii "n"
    serviceBytes := ascii "s"
    schemaBytes := ascii "x" }

/-- `ninlil_mfdt_v1_sender_open`. -/
def senderOpen (transferId : Id) (content : List UInt8) : Prog σ (List UInt8) :=
  senderOpenWithMetadata sha256 st transferId content (defaultMetadata sha256)

/-- `ninlil_mfdt_v1_sender_reissue_open`. -/
def senderReissueOpen : Prog σ (List UInt8) := do
  let e ← engine
  require (e.x.busy && e.x.role == 1 && e.x.stateCode == sOpenPending &&
    openBodyMin ≤ e.x.openBody.length && e.x.openBody.length ≤ openBodyMax) .state
  return e.x.openBody

/-! ### Requests and their answers -/

/-- `accept_bind52_ok`. -/
def acceptBind52Ok (body : List UInt8) (x : Xfer) : Bool :=
  slice body 0 16 == x.transferId.toList && getU32Be body 16 == x.revision &&
    slice body 20 32 == x.manifestDigest.toList

/-- The engine of a sender. -/
def senderEngine : Prog σ Engine := do
  let e ← engine
  require (e.x.occupied && e.x.role == 1) .state
  return e

/-- `ninlil_mfdt_v1_sender_on_open_accept`. -/
def senderOnOpenAccept (body : List UInt8) : Prog σ PUnit := do
  require (100 ≤ body.length) .layout
  let e ← senderEngine
  require (acceptBind52Ok body e.x) .digest
  require (!bytesZero (slice body 52 16) && getU32Be body 68 == e.x.totalLength &&
    !bytesZero (slice body 72 16) && getU64Be body 88 != 0 &&
    !(slice body 72 16 == e.cfg.localClockEpoch.toList && getU64Be body 88 ≤ e.cfg.nowMs) &&
    body.getD 96 0 == (if e.x.totalLength = 0 then 1 else 0) &&
    bytesZero (slice body 97 3)) .layout
  setXfer fun x => { x with
    reservationId := getVector 16 body 52
    resEpoch := getVector 16 body 72
    notAfterMs := getU64Be body 88
    stateCode := sOpenAccepted
    recordGeneration := x.recordGeneration + 1 }
  putActive sha256 st

/-- First chunk and number of entries of a page. -/
def Xfer.pageSpan (x : Xfer) (pageIndex : UInt16) : UInt16 × UInt16 :=
  (pageIndex * entriesPerPage, min (x.chunkCount - pageIndex * entriesPerPage) entriesPerPage)

/-- The page that a transfer has of its manifest. -/
def Xfer.page (x : Xfer) (pageIndex : UInt16) : Except Err (List UInt8) :=
  encodePage sha256 x.transferId x.revision x.manifestDigest pageIndex x.pageCount
    (x.pageSpan pageIndex).1 (x.pageSpan pageIndex).2
    (x.entries.drop ((x.pageSpan pageIndex).1.toNat * 40))

/-- `ninlil_mfdt_v1_sender_offer_page`. -/
def senderOfferPage (pageIndex : UInt16) : Prog σ (List UInt8) := do
  let e ← senderEngine
  require (pageIndex < e.x.pageCount) .state
  require (e.x.retryBudget != 0) .capacity
  match e.x.page sha256 pageIndex with
  | .error err => throw err
  | .ok body => return body

/-- The bitmap with a bit set, for an index below 8. -/
def setPageBit (bitmap : UInt8) (i : UInt16) : UInt8 := bitmap ||| UInt8.ofNat (2 ^ i.toNat)

/-- The bits set. -/
def pagesReceived (bitmap : UInt8) : UInt16 :=
  UInt16.ofNat ((List.range 8).countP fun i => bitmap.toNat.testBit i)

/-- `ninlil_mfdt_v1_sender_on_page_accept`. -/
def senderOnPageAccept (body : List UInt8) : Prog σ PUnit := do
  require (body.length == 108) .layout
  let e ← senderEngine
  require (acceptBind52Ok body e.x) .digest
  let pageIndex := getU16Be body 52
  require (pageIndex < e.x.pageCount && pageIndex < 8 &&
    slice body 88 16 == e.x.reservationId.toList && body.getD 104 0 ≤ 1 &&
    bytesZero (slice body 105 3)) .layout
  match e.x.page sha256 pageIndex with
  | .error _ => throw .digest
  | .ok page =>
    require (slice body 56 32 == slice page 60 32) .digest
    let bitmap := setPageBit e.x.pageBitmap pageIndex
    let complete := bitmap == pageMask e.x.pageCount
    require (getU16Be body 54 == pagesReceived bitmap &&
      body.getD 104 0 == (if complete then 1 else 0)) .layout
    let mutateActive := bitmap != e.x.pageBitmap
    setXfer fun x => { x with
      pageBitmap := bitmap
      stateCode := if complete then sManifestAccepted else x.stateCode
      recordGeneration := if mutateActive then x.recordGeneration + 1 else x.recordGeneration }
    if mutateActive then putActive sha256 st
    else
      let _ ← packActive

/-- The offer of a chunk. -/
def Xfer.chunkOffer (x : Xfer) (chunkIndex : UInt16) : List UInt8 :=
  let offset := chunkIndex.toUInt32 * chunkSize.toUInt32
  let len := if chunkIndex.toNat + 1 = x.chunkCount.toNat then
    (x.totalLength - offset).toUInt16 else chunkSize
  encodeChunkOffer sha256 x.transferId x.revision x.manifestDigest chunkIndex x.chunkCount offset
    (slice x.content offset.toNat len.toNat)

/-- `ninlil_mfdt_v1_sender_offer_chunk`. -/
def senderOfferChunk (chunkIndex : UInt16) : Prog σ (List UInt8) := do
  let e ← senderEngine
  require (chunkIndex < e.x.chunkCount) .state
  require (!e.x.unpaidChunk) .busy
  require (e.x.retryBudget != 0) .capacity
  setEngine fun e => { e with unpaidChunkOffer := true, x := { e.x with unpaidChunk := true } }
  return e.x.chunkOffer sha256 chunkIndex

/-- `ninlil_mfdt_v1_sender_on_chunk_accept`. -/
def senderOnChunkAccept (body : List UInt8) : Prog σ PUnit := do
  require (body.length == 88) .layout
  let e ← senderEngine
  require (acceptBind52Ok body e.x) .digest
  let idx := getU16Be body 52
  require (idx < e.x.chunkCount && idx < 64 && bytesZero (slice body 54 2)) .layout
  require (slice body 56 32 == slice e.x.entries (idx.toNat * 40 + 8) 32) .digest
  let bitmap := e.x.chunkBitmap ||| UInt64.ofNat (2 ^ idx.toNat)
  let mutateActive := !e.x.chunkBitmap.toNat.testBit idx.toNat
  setEngine fun e => { e with
    unpaidChunkOffer := false
    x := { e.x with
      chunkBitmap := bitmap
      unpaidChunk := false
      stateCode := if 0 < e.x.chunkCount ∧ bitmap = chunkMask e.x.chunkCount then sFinalWait
        else sChunksPartial
      recordGeneration :=
        if mutateActive then e.x.recordGeneration + 1 else e.x.recordGeneration } }
  if mutateActive then putActive sha256 st
  else
    let _ ← packActive

/-- `ninlil_mfdt_v1_sender_finalize`. -/
def senderFinalize : Prog σ (List UInt8) := do
  let e ← senderEngine
  return encodeFinalize e.x.transferId e.x.revision e.x.manifestDigest e.x.wholeDigest
    e.x.totalLength

/-- `acceptance_digest`. -/
def acceptanceDigest (x : Xfer) (evidenceId : Id) (acceptanceGeneration : UInt64) : Digest :=
  sha256 (ascii "NM3-ACCEPT-V1" ++ bind52 x.transferId x.revision x.manifestDigest ++
    x.wholeDigest.toList ++ encodeBE 4 x.totalLength.toNat ++ evidenceId.toList ++
    encodeBE 8 acceptanceGeneration.toNat ++ x.reservationId.toList)

/-- `ninlil_mfdt_v1_sender_on_transfer_accept`. -/
def senderOnTransferAccept (body : List UInt8) : Prog σ PUnit := do
  require (body.length == 160) .layout
  let e ← senderEngine
  require (acceptBind52Ok body e.x) .digest
  require (slice body 52 32 == e.x.wholeDigest.toList) .digest
  require (getU32Be body 84 == e.x.totalLength && !bytesZero (slice body 88 16) &&
    getU64Be body 104 != 0 && slice body 112 16 == e.x.reservationId.toList) .layout
  require (slice body 128 32 ==
    (acceptanceDigest sha256 e.x (getVector 16 body 88) (getU64Be body 104)).toList) .digest
  setXfer fun x => { x with
    evidenceId := getVector 16 body 88
    acceptanceRecordGeneration := getU64Be body 104
    acceptanceRecordDigest := getVector 32 body 128
    stateCode := sAcceptRx
    recordGeneration := x.recordGeneration + 1 }
  putActive sha256 st

/-! ### The owner of the engine -/

/-- `ninlil_mfdt_v1_owner_timeout_retry_charge`. -/
def ownerTimeoutRetryCharge : Prog σ PUnit := do
  let e ← engine
  require e.x.busy .state
  require (e.x.retryBudget != 0) .capacity
  setXfer fun x => { x with
    retryBudget := x.retryBudget - 1
    recordGeneration := x.recordGeneration + 1 }
  putActive sha256 st

/-- The record of an ending is put in the place of the record of the transfer. -/
def endTransfer (ending : Ending) : Prog σ PUnit := do
  let e ← engine
  match buildNm30 e.x ending with
  | .error err => throw err
  | .ok nm30 =>
    fullTerminal st e.x.activeKey (makeKey magicNm30 e.x.transferId) nm30 []
    setEngine fun e => { e with activeCount := 0, x := { e.x with terminal := true } }

/-- `ninlil_mfdt_v1_terminal_complete`. -/
def terminalComplete : Prog σ PUnit := do
  let e ← engine
  require e.x.busy .state
  require ((e.x.role == 2 && e.x.stateCode == rHandedOff && e.x.handoffState == 1) ||
    (e.x.role == 1 && e.x.stateCode == sAcceptRx)) .state
  endTransfer st
    { state := termComplete
      reason := termReasonNone
      evidence := some e.x.evidenceId
      acceptance := some e.x.acceptanceRecordDigest
      anchorEpoch := e.cfg.localClockEpoch
      anchorMs := e.cfg.nowMs }

/-- The ending of a transfer whose clock epoch is over. -/
def Xfer.epochEnding (x : Xfer) : Ending :=
  let accepted := !isZero x.evidenceId && !isZero x.acceptanceRecordDigest
  { state := termCorruptFenced
    reason := termReasonEpoch
    evidence := if accepted then some x.evidenceId else none
    acceptance := if accepted then some x.acceptanceRecordDigest else none
    anchorEpoch := x.durableLocalEpoch
    anchorMs := x.durableLocalMonoMs }

/-- The transfer was last written in the present clock epoch, or never. -/
def Engine.epochCurrent (e : Engine) : Bool :=
  isZero e.x.durableLocalEpoch || e.x.durableLocalEpoch == e.cfg.localClockEpoch

/-- `fence_if_local_epoch_changed`, of no request: it fails when it ends the transfer. -/
def fenceIfLocalEpochChanged : Prog σ PUnit := do
  let e ← engine
  require e.x.busy .state
  if e.epochCurrent then pure ⟨⟩
  else
    endTransfer st e.x.epochEnding
    setEngine fun e => { e with
      publicationReady := e.publicationReady && e.x.handoffState != 0
      x := { e.x with
        publicationState := if e.x.handoffState = 0 then 0 else e.x.publicationState } }
    throw .state

/-- `ninlil_mfdt_v1_restart_scan`. -/
def restartScan : Prog σ PUnit := do
  setEngine fun e => { e with
    publicationReady := false
    handoffComplete := false
    unpaidChunkOffer := false }
  let e ← engine
  let x := e.x
  if !x.occupied || isZero x.transferId then
    setEngine fun e => { e with activeCount := 0 }
  else
    let hasActive ← attempt (storage (st.has x.activeKey))
    let hasOther ← attempt (storage (st.has
      (makeKey (if x.role = 1 then magicNm3r else magicNm3s) x.transferId)))
    let nm30 ← attempt (storage (st.get (makeKey magicNm30 x.transferId) nm30Bytes))
    let nrc1 ← attempt (storage (st.get (makeKey magicNrc1 x.transferId) nrc1ValueBytes))
    require (!(hasOther.isOk || (hasActive.isOk && nm30.isOk) ||
      ((hasActive.isOk || nm30.isOk) && !nrc1.isOk) ||
      (!hasActive.isOk && !nm30.isOk && nrc1.isOk))) .corrupt
    require (match nrc1 with
      | .error (_ : Err) => true
      | .ok nrc1 => nrc1Current nrc1 x.transferId e.cfg) .corrupt
    if hasActive.isOk then
      mapFailure (fun _ => Err.corrupt) (loadActiveFromStore sha256 st)
      setEngine fun e => { e with activeCount := 1, x := { e.x with terminal := false } }
      match ← attempt (fenceIfLocalEpochChanged st) with
      | .ok _ => pure ⟨⟩
      | .error (err : Err) =>
        let e ← engine
        require e.x.terminal err
    else
      require (match nm30 with
        | .error (_ : Err) => false
        | .ok nm30 => nm30RecoveryOk nm30 x.transferId) .state
      setEngine fun e => { e with activeCount := 0, x := { e.x with terminal := true } }

/-- `ninlil_mfdt_v1_restart_scan_transfer`. -/
def restartScanTransfer (transferId : Id) (role : UInt8) : Prog σ PUnit := do
  require (!isZero transferId && (role == 1 || role == 2)) .param
  setXfer fun _ => { transferId := transferId, occupied := true, role := role }
  restartScan sha256 st

end Store

end Ninlil.Mfdt
