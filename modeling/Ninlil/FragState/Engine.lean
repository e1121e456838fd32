import Ninlil.FragState.Plan
import Ninlil.R7Frag.Engine
import Ninlil.Lib.Tables

/-!
# The reassembly state engine

`ninlil_r7_frag_state_engine` and its calls: a START opens a slot and reserves a tombstone, CONTs
fill the slot, and the transfer ends by completion, conflict or timeout in the tombstone that its
START reserved.

* `Slot`, `Tombstone`, `Publication`, `Engine`: the records and the tables;
* `tombReserve`, `endSlot`, `terminate`, `tryComplete`: the shared endings;
* `admitStart`, `admitCont`, `finalize`, `tick`, `takePublication`, `peekReassembled`.

A record that is not in use is `none`: every function tests `in_use` before it reads any other
field, and fills a record completely when it takes it.  A call returns its status, the engine it
leaves and the acknowledgement it wrote; every call zeroes that one first.
-/

namespace Ninlil.FragState

open Bytes R7Frag Tables
open Function (update)

/-! ### Records -/

/-- `ninlil_r7_frag_state_ack_intent`. -/
structure AckIntent where
  valid : Bool
  transferHandle : UInt64
  fragCount : ℕ
  receivedBitmap : BitVec 16
  status : UInt8
  reason : UInt8
  deriving DecidableEq

/-- A zeroed intent. -/
def AckIntent.zero : AckIntent := ⟨false, 0, 0, 0, 0, 0⟩

/-- `ninlil_r7_frag_state_tombstone`. -/
structure Tombstone where
  isReservation : Bool
  e2eContextId : UInt32
  keyGeneration : UInt64
  transferId : TransferId
  transferHandle : UInt64
  fragCount : ℕ
  status : UInt8
  reason : UInt8
  fingerprint : Digest
  expiryMono : UInt64
  deriving DecidableEq

/-- `ninlil_r7_frag_state_slot`. -/
structure Slot where
  e2eContextId : UInt32
  keyGeneration : UInt64
  transferId : TransferId
  transferHandle : UInt64
  totalLen : ℕ
  fragCount : ℕ
  firstChunkLen : ℕ
  contentDigest : Digest
  fingerprint : Digest
  bitmap : BitVec 16
  receiverAbsoluteDeadline : UInt64
  idleDeadline : UInt64
  partialAckDue : UInt64
  payload : List UInt8
  chunkSeen : ℕ → Bool
  chunkLen : ℕ → ℕ
  tombReserveSlot : ℕ
  needDigest : Bool

/-- `ninlil_r7_frag_state_publication`, with the bytes that were staged. -/
structure Publication where
  e2eContextId : UInt32
  keyGeneration : UInt64
  transferHandle : UInt64
  totalLen : ℕ
  payload : List UInt8
  deriving DecidableEq

/-- `ninlil_r7_frag_state_engine`. -/
structure Engine (P : Profile) where
  reasm : Fin P.reasmSlots → Option Slot
  tombs : Fin tombstoneSlots → Option Tombstone
  pub : Option Publication
  payloadBytesInUse : ℕ
  nowMono : UInt64
  fenced : Bool
  publishCount : UInt32

/-- `ninlil_r7_frag_state_init`. -/
def Engine.init (P : Profile) : Engine P :=
  ⟨fun _ => none, fun _ => none, none, 0, 0, false, 0⟩

/-- `ninlil_r7_frag_state_start_in`; the first chunk has `first_chunk_len` bytes. -/
structure StartIn where
  e2eContextId : UInt32
  keyGeneration : UInt64
  transferId : TransferId
  transferHandle : UInt64
  totalLen : ℕ
  fragCount : ℕ
  continuationUnit : ℕ
  contentDigest : Digest
  fingerprint : Digest
  firstChunk : List UInt8

/-- `ninlil_r7_frag_state_cont_in`; the chunk has `chunk_len` bytes. -/
structure ContIn where
  e2eContextId : UInt32
  keyGeneration : UInt64
  transferHandle : UInt64
  fragIndex : ℕ
  chunk : List UInt8
  reassembledDigest32 : Option Digest

variable {P : Profile}

/-! ### Shared pieces -/

/-- `ninlil_r7_frag_state_intent_partial` for a slot. -/
def intentPartial (S : Slot) : AckIntent :=
  ⟨true, S.transferHandle, S.fragCount, S.bitmap, statusPartial, reasonNone⟩

/-- `ninlil_r7_frag_state_intent_terminal`. -/
def intentTerminal (handle : UInt64) (fragCount : ℕ) (bitmap : BitVec 16) (status reason : UInt8) :
    AckIntent :=
  ⟨true, handle, fragCount, bitmap, status, reason⟩

/-- The acknowledgement that a tombstone re-emits. -/
def tombIntent (T : Tombstone) : AckIntent :=
  intentTerminal T.transferHandle T.fragCount
    (if T.status = statusComplete then fullBitmap T.fragCount else 0) T.status T.reason

/-- The acknowledgement of an aborted transfer. -/
def abortIntent (S : Slot) (reason : UInt8) : AckIntent :=
  intentTerminal S.transferHandle S.fragCount 0 statusAbort reason

/-- The engine with one slot overwritten. -/
def Engine.setReasm (eng : Engine P) (i : Fin P.reasmSlots) (S : Option Slot) : Engine P :=
  { eng with reasm := update eng.reasm i S }

/-- The engine with one tombstone overwritten. -/
def Engine.setTomb (eng : Engine P) (j : Fin tombstoneSlots) (T : Option Tombstone) : Engine P :=
  { eng with tombs := update eng.tombs j T }

/-- The engine with the fence raised. -/
def Engine.fence (eng : Engine P) : Engine P := { eng with fenced := true }

/-- `ninlil_r7_frag_state_set_now`. -/
def setNow (eng : Engine P) (nowMono : UInt64) : Engine P := { eng with nowMono }

/-- `find_reasm_handle`. -/
def findReasmHandle (eng : Engine P) (ctx : UInt32) (handle : UInt64) :
    Option (Fin P.reasmSlots × Slot) :=
  scan eng.reasm fun S => S.e2eContextId == ctx && S.transferHandle == handle

/-- `find_reasm_tid`. -/
def findReasmTid (eng : Engine P) (ctx : UInt32) (tid : TransferId) :
    Option (Fin P.reasmSlots × Slot) :=
  scan eng.reasm fun S => S.e2eContextId == ctx && S.transferId == tid

/-- `find_tomb_handle`. -/
def findTombHandle (eng : Engine P) (ctx : UInt32) (handle : UInt64) :
    Option (Fin tombstoneSlots × Tombstone) :=
  scan eng.tombs fun T => T.e2eContextId == ctx && T.transferHandle == handle

/-- `find_tomb_tid`. -/
def findTombTid (eng : Engine P) (ctx : UInt32) (tid : TransferId) :
    Option (Fin tombstoneSlots × Tombstone) :=
  scan eng.tombs fun T => T.e2eContextId == ctx && T.transferId == tid

/-- `tomb_reserve`. -/
def tombReserve (eng : Engine P) : Option (Fin tombstoneSlots) := firstFree eng.tombs

/-! ### Endings -/

/-- The record that `tomb_commit_terminal` writes for a transfer. -/
def terminalTomb (S : Slot) (status reason : UInt8) (expiry : UInt64) : Tombstone :=
  ⟨false, S.e2eContextId, S.keyGeneration, S.transferId, S.transferHandle, S.fragCount, status,
    reason, S.fingerprint, expiry⟩

/-- The tombstone slot for the end of a transfer: the one its START reserved, as long as that is
in use, else the first free one. -/
def endSlot (eng : Engine P) (S : Slot) : Option (Fin tombstoneSlots) :=
  if h : S.tombReserveSlot < tombstoneSlots then
    if (eng.tombs ⟨S.tombReserveSlot, h⟩).isSome then some ⟨S.tombReserveSlot, h⟩
    else tombReserve eng
  else tombReserve eng

/-- `release_slot_payload`. -/
def releaseSlotPayload (eng : Engine P) (i : Fin P.reasmSlots) (S : Slot) : Engine P :=
  { eng with
    payloadBytesInUse :=
      if eng.payloadBytesInUse ≥ S.totalLen then eng.payloadBytesInUse - S.totalLen else 0
    reasm := update eng.reasm i none }

/-- The transfer in slot `i` ends: its terminal record goes to `slot`, its slot is given back. -/
def terminate (eng : Engine P) (i : Fin P.reasmSlots) (S : Slot) (slot : Fin tombstoneSlots)
    (status reason : UInt8) (expiry : UInt64) : Engine P :=
  releaseSlotPayload (eng.setTomb slot (some (terminalTomb S status reason expiry))) i S

/-- The payload of a transfer is staged for the upper layer. -/
def stagePublication (eng : Engine P) (S : Slot) : Engine P :=
  { eng with
    pub := some ⟨S.e2eContextId, S.keyGeneration, S.transferHandle, S.totalLen,
      S.payload.take S.totalLen⟩
    publishCount := eng.publishCount + 1 }

/-- `try_complete` for the transfer in slot `i`. -/
def tryComplete (eng : Engine P) (i : Fin P.reasmSlots) (S : Slot) (reassembledDigest32 : Digest) :
    Status × Engine P × AckIntent :=
  if S.bitmap ≠ fullBitmap S.fragCount then (.ok, eng, .zero)
  else
    match checkedAddU64 eng.nowMono tombstoneTtlMs with
    | none => (.fenced, eng.fence, .zero)
    | some expiry =>
      match endSlot eng S with
      | none => (.resource, eng, .zero)
      | some slot =>
        if reassembledDigest32 ≠ S.contentDigest then
          (.digest, terminate eng i S slot statusAbort reasonDigest expiry,
            abortIntent S reasonDigest)
        else if eng.pub.isSome then
          (.resource, terminate eng i S slot statusAbort reasonResource expiry,
            abortIntent S reasonResource)
        else
          (.ok, terminate (stagePublication eng S) i S slot statusComplete reasonNone expiry,
            intentTerminal S.transferHandle S.fragCount (fullBitmap S.fragCount) statusComplete
              reasonNone)

/-! ### START -/

/-- The acknowledgement of a START that conflicts with another transfer. -/
def conflictIntent (inp : StartIn) : AckIntent :=
  intentTerminal inp.transferHandle inp.fragCount 0 statusAbort reasonConflict

/-- The START is the one that opened the slot `S`. -/
def exactStart (S : Slot) (inp : StartIn) : Bool :=
  S.fingerprint == inp.fingerprint && S.totalLen == inp.totalLen && S.fragCount == inp.fragCount
    && S.firstChunkLen == inp.firstChunk.length && S.contentDigest == inp.contentDigest
    && slice S.payload 0 inp.firstChunk.length == inp.firstChunk

/-- The answer to a START for a transfer that ended; `none` when no tombstone answers it. -/
def tombAnswer (th tt : Option (Fin tombstoneSlots × Tombstone)) (inp : StartIn) :
    Option (Status × AckIntent) :=
  match th.or tt with
  | none => none
  | some (_, T) =>
    if th.isSome ∧ tt.isSome ∧ th.map Prod.fst ≠ tt.map Prod.fst then
      some (.conflict, conflictIntent inp)
    else if T.isReservation = false ∧ T.fingerprint = inp.fingerprint then
      some (.exactRetry, tombIntent T)
    else if T.isReservation = false then some (.conflict, conflictIntent inp)
    else none

/-- The tombstone that START reserves. -/
def reservationTomb (inp : StartIn) : Tombstone :=
  ⟨true, inp.e2eContextId, inp.keyGeneration, inp.transferId, inp.transferHandle, inp.fragCount, 0,
    0, inp.fingerprint, 0⟩

/-- The slot that START opens. -/
def openedSlot (inp : StartIn) (absDl idleDl partialDue : UInt64) (tombSlot : ℕ) : Slot where
  e2eContextId := inp.e2eContextId
  keyGeneration := inp.keyGeneration
  transferId := inp.transferId
  transferHandle := inp.transferHandle
  totalLen := inp.totalLen
  fragCount := inp.fragCount
  firstChunkLen := inp.firstChunk.length
  contentDigest := inp.contentDigest
  fingerprint := inp.fingerprint
  bitmap := 1
  receiverAbsoluteDeadline := absDl
  idleDeadline := idleDl
  partialAckDue := partialDue
  payload := store (List.replicate totalLenMax 0) 0 inp.firstChunk
  chunkSeen := update (fun _ => false) 0 true
  chunkLen := update (fun _ => 0) 0 inp.firstChunk.length
  tombReserveSlot := tombSlot
  needDigest := false

/-- The active slots of a context. -/
def peerCount (eng : Engine P) (ctx : UInt32) : ℕ :=
  (List.finRange P.reasmSlots).countP fun i =>
    (eng.reasm i).any fun S => S.e2eContextId == ctx

/-- The last part of `ninlil_r7_frag_state_admit_start`: nothing known answers the START. -/
def startFresh (eng : Engine P) (inp : StartIn) : Status × Engine P × AckIntent :=
  match tombReserve eng with
  | none => (.resource, eng, .zero)
  | some tombSlot =>
    let reserved := eng.setTomb tombSlot (some (reservationTomb inp))
    let dropped := reserved.setTomb tombSlot none
    if eng.payloadBytesInUse + inp.totalLen > P.payloadBudget then (.resource, dropped, .zero)
    else if peerCount eng inp.e2eContextId ≥ P.maxPerPeer then (.resource, dropped, .zero)
    else
      match firstFree eng.reasm with
      | none => (.resource, dropped, .zero)
      | some freeSlot =>
        match checkedAddU64 eng.nowMono receiverTtlMs, checkedAddU64 eng.nowMono idleTimeoutMs,
            checkedAddU64 eng.nowMono partialAckIdleMs with
        | some absDl, some idleDl, some partialDue =>
          let S := openedSlot inp absDl idleDl partialDue tombSlot.val
          (.ok, { reserved.setReasm freeSlot (some S) with
            payloadBytesInUse := eng.payloadBytesInUse + inp.totalLen }, intentPartial S)
        | _, _, _ => (.fenced, dropped.fence, .zero)

/-- `ninlil_r7_frag_state_admit_start`. -/
def admitStart (eng : Engine P) (inp : StartIn) : Status × Engine P × AckIntent :=
  if eng.fenced then (.fenced, eng, .zero)
  else if contextOk inp.e2eContextId = false ∨ inp.keyGeneration = 0
      ∨ handleOk inp.transferHandle = false then (.structural, eng, .zero)
  else
    let plan := planValidate inp.totalLen inp.firstChunk.length inp.fragCount inp.continuationUnit
    if plan ≠ .ok then (plan, eng, .zero)
    else
      let ah := findReasmHandle eng inp.e2eContextId inp.transferHandle
      let at' := findReasmTid eng inp.e2eContextId inp.transferId
      match ah.or at' with
      | some (_, S) =>
        if ah.isSome ∧ at'.isSome ∧ ah.map Prod.fst ≠ at'.map Prod.fst then
          (.conflict, eng, conflictIntent inp)
        else if S.keyGeneration ≠ inp.keyGeneration then (.conflict, eng, conflictIntent inp)
        else if exactStart S inp then (.exactRetry, eng, intentPartial S)
        else (.conflict, eng, conflictIntent inp)
      | none =>
        match tombAnswer (findTombHandle eng inp.e2eContextId inp.transferHandle)
            (findTombTid eng inp.e2eContextId inp.transferId) inp with
        | some (st, intent) => (st, eng, intent)
        | none => startFresh eng inp

/-! ### CONT -/

/-- The slot after a chunk is stored. -/
def storedSlot (S : Slot) (fragIndex offset : ℕ) (chunk : List UInt8) (nextBitmap : BitVec 16)
    (newIdle : UInt64) : Slot :=
  { S with
    payload := store S.payload offset chunk
    chunkSeen := update S.chunkSeen fragIndex true
    chunkLen := update S.chunkLen fragIndex chunk.length
    bitmap := nextBitmap
    idleDeadline := newIdle }

/-- The part of `ninlil_r7_frag_state_admit_cont` for a chunk that was not seen before. -/
def contNew (eng : Engine P) (i : Fin P.reasmSlots) (S : Slot) (inp : ContIn) (offset : ℕ) :
    Status × Engine P × AckIntent :=
  let nextBitmap := S.bitmap ||| (1#16 <<< inp.fragIndex)
  match checkedAddU64 eng.nowMono idleTimeoutMs with
  | none => (.fenced, eng.fence, abortIntent S reasonFenced)
  | some idle =>
    let newIdle := if idle > S.receiverAbsoluteDeadline then S.receiverAbsoluteDeadline else idle
    let S' := storedSlot S inp.fragIndex offset inp.chunk nextBitmap newIdle
    if nextBitmap = fullBitmap S.fragCount then
      match inp.reassembledDigest32 with
      | none =>
        -- The payload stays for `peek`; `finalize` or a repeated chunk supplies the digest.
        (.needDigest, eng.setReasm i (some { S' with needDigest := true }), .zero)
      | some digest =>
        let S'' := { S' with needDigest := false }
        tryComplete (eng.setReasm i (some S'')) i S'' digest
    else
      match checkedAddU64 eng.nowMono partialAckIdleMs with
      | none => (.fenced, eng.fence, abortIntent S reasonFenced)
      | some due =>
        let newDue := if due > S.receiverAbsoluteDeadline then S.receiverAbsoluteDeadline else due
        let S'' := if S.partialAckDue = 0 ∨ newDue < S.partialAckDue then
          { S' with partialAckDue := newDue } else S'
        (.ok, eng.setReasm i (some S''), intentPartial S'')

/-- The part of `ninlil_r7_frag_state_admit_cont` for a chunk whose index was seen before. -/
def contSeen (eng : Engine P) (i : Fin P.reasmSlots) (S : Slot) (inp : ContIn) (offset : ℕ) :
    Status × Engine P × AckIntent :=
  if S.chunkLen inp.fragIndex = inp.chunk.length
      ∧ slice S.payload offset inp.chunk.length = inp.chunk then
    match inp.reassembledDigest32 with
    | some digest =>
      if S.needDigest = true ∧ S.bitmap = fullBitmap S.fragCount then
        let S' := { S with needDigest := false }
        tryComplete (eng.setReasm i (some S')) i S' digest
      else (.duplicate, eng, intentPartial S)
    | none =>
      if S.needDigest then (.needDigest, eng, .zero) else (.duplicate, eng, intentPartial S)
  else
    match checkedAddU64 eng.nowMono tombstoneTtlMs with
    | none => (.fenced, eng.fence, .zero)
    | some expiry =>
      match endSlot eng S with
      | none => (.resource, eng, .zero)
      | some slot =>
        (.conflict, terminate eng i S slot statusAbort reasonConflict expiry,
          abortIntent S reasonConflict)

/-- `ninlil_r7_frag_state_admit_cont`. -/
def admitCont (eng : Engine P) (inp : ContIn) : Status × Engine P × AckIntent :=
  if eng.fenced then (.fenced, eng, .zero)
  else if contextOk inp.e2eContextId = false ∨ inp.keyGeneration = 0
      ∨ handleOk inp.transferHandle = false then (.structural, eng, .zero)
  else
    match findReasmHandle eng inp.e2eContextId inp.transferHandle with
    | none =>
      match findTombHandle eng inp.e2eContextId inp.transferHandle with
      | some (_, T) =>
        if T.isReservation then (.noTransfer, eng, .zero)
        else if T.keyGeneration ≠ inp.keyGeneration then (.conflict, eng, .zero)
        else if T.fragCount = 0 ∨ inp.fragIndex ≥ T.fragCount ∨ inp.fragIndex = 0 then
          (.structural, eng, .zero)
        else (.exactRetry, eng, tombIntent T)
      | none => (.noTransfer, eng, .zero)
    | some (i, S) =>
      if S.keyGeneration ≠ inp.keyGeneration then (.conflict, eng, .zero)
      else
        match contGeometry S.totalLen S.firstChunkLen S.fragCount inp.fragIndex with
        | .error st => (st, eng, .zero)
        | .ok (offset, expectLen) =>
          if inp.chunk.length ≠ expectLen then (.length, eng, .zero)
          else if S.chunkSeen inp.fragIndex then contSeen eng i S inp offset
          else contNew eng i S inp offset

/-! ### Digest, time and publication -/

/-- `ninlil_r7_frag_state_peek_reassembled`. -/
def peekReassembled (eng : Engine P) (ctx : UInt32) (handle : UInt64) :
    Except Status (List UInt8) :=
  match findReasmHandle eng ctx handle with
  | none => .error .noTransfer
  | some (_, S) =>
    if S.bitmap ≠ fullBitmap S.fragCount then .error .structural
    else .ok (S.payload.take S.totalLen)

/-- `ninlil_r7_frag_state_finalize`. -/
def finalize (eng : Engine P) (ctx : UInt32) (handle : UInt64) (reassembledDigest32 : Digest) :
    Status × Engine P × AckIntent :=
  match findReasmHandle eng ctx handle with
  | none => (.noTransfer, eng, .zero)
  | some (i, S) =>
    if S.bitmap ≠ fullBitmap S.fragCount then (.structural, eng, .zero)
    else
      let S' := { S with needDigest := false }
      tryComplete (eng.setReasm i (some S')) i S' reassembledDigest32

/-- The tombstone has outlived its expiry. -/
def Tombstone.expired (T : Tombstone) (now : UInt64) : Bool :=
  !T.isReservation && T.expiryMono != 0 && decide (now ≥ T.expiryMono)

/-- The first loop of `ninlil_r7_frag_state_tick`. -/
def expireTombs (eng : Engine P) (now : UInt64) : Engine P :=
  { eng with tombs := fun j => (eng.tombs j).filter fun T => !T.expired now }

/-- The second loop of `ninlil_r7_frag_state_tick`. -/
def timeoutSlots (now : UInt64) : List (Fin P.reasmSlots) → Engine P → Status × Engine P
  | [], eng => (.ok, eng)
  | i :: rest, eng =>
    match eng.reasm i with
    | none => timeoutSlots now rest eng
    | some S =>
      if now < S.idleDeadline ∧ now < S.receiverAbsoluteDeadline then timeoutSlots now rest eng
      else
        match checkedAddU64 now tombstoneTtlMs with
        | none => (.fenced, eng.fence)
        | some expiry =>
          match endSlot eng S with
          | none => (.resource, eng)
          | some slot =>
            timeoutSlots now rest (terminate eng i S slot statusAbort reasonTimeout expiry)

/-- `ninlil_r7_frag_state_tick`. -/
def tick (eng : Engine P) (now : UInt64) : Status × Engine P :=
  timeoutSlots now (List.finRange P.reasmSlots) (expireTombs (setNow eng now) now)

/-- `ninlil_r7_frag_state_take_publication`. -/
def takePublication (eng : Engine P) (outCapacity : ℕ) :
    Status × Engine P × Option Publication :=
  match eng.pub with
  | none => (.noTransfer, eng, none)
  | some p =>
    if outCapacity < p.totalLen then (.capacity, eng, none)
    else (.published, { eng with pub := none }, some p)

end Ninlil.FragState
