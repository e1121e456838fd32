import Ninlil.R7Frag.Engine

/-!
# Reassembly in the fragment engine

The receiving half of `r7_frag_core.c`: a START opens a slot and reserves a tombstone, CONTs fill
the slot, and the transfer ends with a terminal tombstone.

* `tombFindHandle`, `tombFindTid`, `reasmFindHandle`, `reasmFindTid`, `tombReserve`: the scans;
* `releaseSlot`, `tryComplete`: how a transfer ends;
* `reasmAdmitStart`, `reasmAdmitCont`, `reasmTick`, `takePublication`.

A call returns its status, the engine it leaves and the acknowledgement it wrote, `none` when it
left the caller's one alone.
-/

namespace Ninlil.R7Frag

open Bytes
open Function (update)

variable {P : Profile}

/-! ### Scans -/

/-- `ninlil_r7_frag_tomb_find_handle`. -/
def tombFindHandle (eng : Engine P) (e2eCtx : UInt32) (handle : UInt64) :
    Option (Fin tombstoneSlots) :=
  (List.finRange tombstoneSlots).find? fun i =>
    (eng.tombs i).inUse && (eng.tombs i).e2eContextId == e2eCtx
      && (eng.tombs i).transferHandle == handle

/-- `ninlil_r7_frag_tomb_find_tid`. -/
def tombFindTid (eng : Engine P) (e2eCtx : UInt32) (tid : TransferId) :
    Option (Fin tombstoneSlots) :=
  (List.finRange tombstoneSlots).find? fun i =>
    (eng.tombs i).inUse && (eng.tombs i).e2eContextId == e2eCtx && (eng.tombs i).transferId == tid

/-- `ninlil_r7_frag_tomb_reserve`. -/
def tombReserve (eng : Engine P) : Option (Fin tombstoneSlots) :=
  (List.finRange tombstoneSlots).find? fun i => !(eng.tombs i).inUse

/-- `ninlil_r7_frag_reasm_find_handle`. -/
def reasmFindHandle (eng : Engine P) (e2eCtx : UInt32) (handle : UInt64) :
    Option (Fin P.reasmSlots) :=
  (List.finRange P.reasmSlots).find? fun i =>
    (eng.reasm i).inUse && (eng.reasm i).e2eContextId == e2eCtx
      && (eng.reasm i).transferHandle == handle

/-- `ninlil_r7_frag_reasm_find_tid`. -/
def reasmFindTid (eng : Engine P) (e2eCtx : UInt32) (tid : TransferId) :
    Option (Fin P.reasmSlots) :=
  (List.finRange P.reasmSlots).find? fun i =>
    (eng.reasm i).inUse && (eng.reasm i).e2eContextId == e2eCtx && (eng.reasm i).transferId == tid

/-! ### Writes -/

/-- The status of a tombstone that START reserved. -/
def reservationMarker : UInt8 := 0xff

/-- The engine with one tombstone overwritten. -/
def Engine.setTomb (eng : Engine P) (slot : Fin tombstoneSlots) (T : Tombstone) : Engine P :=
  { eng with tombs := update eng.tombs slot T }

/-- The engine with one reassembly slot overwritten. -/
def Engine.setReasm (eng : Engine P) (slot : Fin P.reasmSlots) (S : ReasmSlot) : Engine P :=
  { eng with reasm := update eng.reasm slot S }

/-- The record that `ninlil_r7_frag_tomb_commit` writes for a transfer. -/
def terminalTomb (S : ReasmSlot) (status reason : UInt8) (expiry : UInt64) : Tombstone :=
  ⟨true, S.e2eContextId, S.transferId, S.transferHandle, S.fragCount, status, reason,
    S.fingerprint, expiry⟩

/-- The slot is given back, with its payload bytes. -/
def releaseSlot (eng : Engine P) (i : Fin P.reasmSlots) : Engine P :=
  { eng with
    payloadBytesInUse :=
      if eng.payloadBytesInUse ≥ (eng.reasm i).totalLen then
        eng.payloadBytesInUse - (eng.reasm i).totalLen
      else 0
    reasm := update eng.reasm i .zero }

/-- The transfer in slot `i` ends: its terminal record goes to `slot`, its slot is given back. -/
def terminate (eng : Engine P) (i : Fin P.reasmSlots) (slot : Fin tombstoneSlots)
    (status reason : UInt8) (expiry : UInt64) : Engine P :=
  releaseSlot (eng.setTomb slot (terminalTomb (eng.reasm i) status reason expiry)) i

/-- `ninlil_r7_frag_fill_partial_intent`. -/
def partialIntent (S : ReasmSlot) : AckBody :=
  ⟨S.transferHandle, S.fragCount, S.bitmap, statusPartial, reasonNone⟩

/-- `ninlil_r7_frag_fill_terminal_intent`. -/
def terminalIntent (handle : UInt64) (fragCount : ℕ) (bitmap : BitVec 16) (status reason : UInt8) :
    AckBody :=
  ⟨handle, fragCount, bitmap, status, reason⟩

/-- The acknowledgement that a tombstone re-emits. -/
def tombIntent (T : Tombstone) : AckBody :=
  terminalIntent T.transferHandle T.fragCount
    (if T.status = statusComplete then fullBitmap T.fragCount else 0) T.status T.reason

/-- The engine with the global fence raised. -/
def Engine.fence (eng : Engine P) : Engine P := { eng with globalFence := 1 }

/-- The payload of a slot is staged for the upper layer. -/
def stagePublication (eng : Engine P) (S : ReasmSlot) : Engine P :=
  { eng with
    pubE2eContextId := S.e2eContextId
    pubTransferHandle := S.transferHandle
    pubTotalLen := S.totalLen
    pubPayload := store eng.pubPayload 0 (S.payload.take S.totalLen)
    pubValid := true
    publishCount := eng.publishCount + 1 }

/-! ### Completion -/

/-- `ninlil_r7_frag_try_complete`.  Its three endings each take a new tombstone slot. -/
def tryComplete (eng : Engine P) (provider : Provider) (i : Fin P.reasmSlots) :
    Status × Engine P × Option AckBody :=
  let S := eng.reasm i
  if S.bitmap ≠ fullBitmap S.fragCount then (.ok, eng, none)
  else
    match contentDigest provider S.payload S.totalLen with
    | .error st => (st, eng, none)
    | .ok digest =>
      match checkedAddU64 eng.nowMono tombstoneTtlMs with
      | none => (.fenced, eng.fence, none)
      | some expiry =>
        match tombReserve eng with
        | none => (.resource, eng, none)
        | some slot =>
          if digest ≠ S.contentDigest then
            (.ok, terminate eng i slot statusAbort reasonDigest expiry,
              some (terminalIntent S.transferHandle S.fragCount 0 statusAbort reasonDigest))
          else if eng.pubValid then
            (.ok, terminate eng i slot statusAbort reasonResource expiry,
              some (terminalIntent S.transferHandle S.fragCount 0 statusAbort reasonResource))
          else
            (.ok, terminate (stagePublication eng S) i slot statusComplete reasonNone expiry,
              some (terminalIntent S.transferHandle S.fragCount (fullBitmap S.fragCount)
                statusComplete reasonNone))

/-! ### START -/

/-- The record that START reserves.  The fields it does not write stay as they were. -/
def reservationTomb (T : Tombstone) (e2eContextId : UInt32) (body : StartBody) (fp : Digest) :
    Tombstone :=
  { T with
    inUse := true
    e2eContextId
    transferId := body.transferId
    transferHandle := body.transferHandle
    status := reservationMarker
    reason := 0
    fingerprint := fp }

/-- The slot that START opens. -/
def openedSlot (e2eContextId : UInt32) (body : StartBody) (firstChunk : List UInt8) (fp : Digest)
    (now absDeadline idleDeadline partialDue : UInt64) : ReasmSlot :=
  { ReasmSlot.zero with
    inUse := true
    e2eContextId
    transferId := body.transferId
    transferHandle := body.transferHandle
    totalLen := body.totalLen
    fragCount := body.fragCount
    firstChunkLen := firstChunk.length
    contentDigest := body.contentDigest
    fingerprint := fp
    bitmap := 1
    chunkSeen := update (fun _ => false) 0 true
    chunkLen := update (fun _ => 0) 0 firstChunk.length
    payload := store ReasmSlot.zero.payload 0 firstChunk
    receiverStartMono := now
    receiverAbsoluteDeadline := absDeadline
    idleDeadline
    partialAckDue := partialDue }

/-- The acknowledgement of a START that conflicts with another transfer. -/
def conflictIntent (body : StartBody) : AckBody :=
  terminalIntent body.transferHandle body.fragCount 0 statusAbort reasonConflict

/-- The last part of `ninlil_r7_frag_reasm_admit_start`: nothing known clashes with the START. -/
def startFresh (eng : Engine P) (e2eContextId : UInt32) (body : StartBody)
    (firstChunk : List UInt8) (fp : Digest) : Status × Engine P × Option AckBody :=
  match tombReserve eng with
  | none => (.resource, eng, some .zero)
  | some tombSlot =>
    let T := reservationTomb (eng.tombs tombSlot) e2eContextId body fp
    let dropped := eng.setTomb tombSlot { T with inUse := false }
    if eng.payloadBytesInUse + body.totalLen > P.payloadBudget then
      (.resource, dropped, some .zero)
    else
      match (List.finRange P.reasmSlots).find? fun i => !(eng.reasm i).inUse with
      | none => (.resource, dropped, some .zero)
      | some freeSlot =>
        match checkedAddU64 eng.nowMono receiverTtlMs, checkedAddU64 eng.nowMono idleTimeoutMs,
            checkedAddU64 eng.nowMono partialAckIdleMs with
        | some absDeadline, some idleDeadline, some partialDue =>
          let S := openedSlot e2eContextId body firstChunk fp eng.nowMono absDeadline idleDeadline
            partialDue
          let eng := (eng.setTomb tombSlot { T with fragCount := body.fragCount }).setReasm
            freeSlot S
          (.ok, { eng with payloadBytesInUse := eng.payloadBytesInUse + body.totalLen },
            some (partialIntent S))
        | _, _, _ => (.fenced, dropped.fence, none)

/-- `ninlil_r7_frag_reasm_admit_start`. -/
def reasmAdmitStart (eng : Engine P) (provider : Provider) (e2eContextId : UInt32)
    (body : StartBody) (firstChunk : List UInt8) : Status × Engine P × Option AckBody :=
  if contextOk e2eContextId = false then (.structural, eng, none)
  else
    let plan := planValidate body.totalLen (firstChunk.length % 65536) body.fragCount
      body.continuationUnit
    if plan ≠ .ok then (plan, eng, none)
    else if handleOk body.transferHandle = false then (.structural, eng, none)
    else
      match startFingerprint provider body firstChunk with
      | .error st => (st, eng, none)
      | .ok fp =>
        let activeH := reasmFindHandle eng e2eContextId body.transferHandle
        let activeT := reasmFindTid eng e2eContextId body.transferId
        let tombH := tombFindHandle eng e2eContextId body.transferHandle
        let tombT := tombFindTid eng e2eContextId body.transferId
        match activeH.or activeT with
        | some i =>
          if activeH.isSome ∧ activeT.isSome ∧ activeH ≠ activeT then
            (.conflict, eng, some (conflictIntent body))
          -- The source compares the transfer identifier once more for a slot that both scans
          -- found; the second scan has just matched it.
          else if (eng.reasm i).fingerprint = fp then
            (.exactRetry, eng, some (partialIntent (eng.reasm i)))
          else (.conflict, eng, some (conflictIntent body))
        | none =>
          match tombH.or tombT with
          | some j =>
            if tombH.isSome ∧ tombT.isSome ∧ tombH ≠ tombT then
              (.conflict, eng, some (conflictIntent body))
            else if (eng.tombs j).fingerprint = fp then
              (.exactRetry, eng, some (tombIntent (eng.tombs j)))
            else (.conflict, eng, some (conflictIntent body))
          | none => startFresh eng e2eContextId body firstChunk fp

/-! ### CONT -/

/-- The slot after a chunk is stored. -/
def storedSlot (S : ReasmSlot) (fragIndex offset : ℕ) (chunk : List UInt8)
    (nextBitmap : BitVec 16) (newIdle : UInt64) : ReasmSlot :=
  { S with
    payload := store S.payload offset chunk
    chunkSeen := update S.chunkSeen fragIndex true
    chunkLen := update S.chunkLen fragIndex chunk.length
    bitmap := nextBitmap
    idleDeadline := newIdle }

/-- The part of `ninlil_r7_frag_reasm_admit_cont` for a chunk that was not seen before. -/
def contNew (eng : Engine P) (provider : Provider) (i : Fin P.reasmSlots) (fragIndex offset : ℕ)
    (chunk : List UInt8) : Status × Engine P × Option AckBody :=
  let S := eng.reasm i
  let nextBitmap := S.bitmap ||| (1#16 <<< fragIndex)
  let full := nextBitmap = fullBitmap S.fragCount
  let fencedIntent := terminalIntent S.transferHandle S.fragCount 0 statusAbort reasonFenced
  match checkedAddU64 eng.nowMono idleTimeoutMs with
  | none => (.fenced, eng.fence, some fencedIntent)
  | some idle =>
    let newIdle := if idle > S.receiverAbsoluteDeadline then S.receiverAbsoluteDeadline else idle
    let S' := storedSlot S fragIndex offset chunk nextBitmap newIdle
    if full then tryComplete (eng.setReasm i S') provider i
    else
      match checkedAddU64 eng.nowMono partialAckIdleMs with
      | none => (.fenced, eng.fence, some fencedIntent)
      | some due =>
        let newDue := if due > S.receiverAbsoluteDeadline then S.receiverAbsoluteDeadline else due
        let S'' := if S.partialAckDue = 0 ∨ newDue < S.partialAckDue then
          { S' with partialAckDue := newDue } else S'
        (.ok, eng.setReasm i S'', some (partialIntent S''))

/-- The part of `ninlil_r7_frag_reasm_admit_cont` for a chunk whose index was seen before. -/
def contSeen (eng : Engine P) (i : Fin P.reasmSlots) (e2eContextId : UInt32)
    (body : ContBody) (offset : ℕ) (chunk : List UInt8) : Status × Engine P × Option AckBody :=
  let S := eng.reasm i
  if S.chunkLen body.fragIndex = chunk.length ∧ slice S.payload offset chunk.length = chunk then
    (.duplicate, eng, some (partialIntent S))
  else
    match checkedAddU64 eng.nowMono tombstoneTtlMs with
    | none => (.fenced, eng.fence, none)
    | some expiry =>
      match (tombFindHandle eng e2eContextId body.transferHandle).or (tombReserve eng) with
      | none => (.resource, eng, none)
      | some slot =>
        (.conflict, terminate eng i slot statusAbort reasonConflict expiry,
          some (terminalIntent S.transferHandle S.fragCount 0 statusAbort reasonConflict))

/-- `ninlil_r7_frag_reasm_admit_cont`. -/
def reasmAdmitCont (eng : Engine P) (provider : Provider) (e2eContextId : UInt32)
    (body : ContBody) (chunk : List UInt8) : Status × Engine P × Option AckBody :=
  if contextOk e2eContextId = false ∨ handleOk body.transferHandle = false then
    (.structural, eng, none)
  else if chunk.length < 1 ∨ chunk.length > cMax then (.lengthClass, eng, none)
  else
    match reasmFindHandle eng e2eContextId body.transferHandle with
    | none =>
      match tombFindHandle eng e2eContextId body.transferHandle with
      | some j =>
        if (eng.tombs j).status ≠ reservationMarker then
          (.exactRetry, eng, some (tombIntent (eng.tombs j)))
        else (.noTransfer, eng, some .zero)
      | none => (.noTransfer, eng, some .zero)
    | some i =>
      let S := eng.reasm i
      if body.fragIndex = 0 ∨ body.fragIndex ≥ S.fragCount then (.structural, eng, none)
      else
        let offset := S.firstChunkLen + (body.fragIndex - 1) * contUnit
        if offset ≥ S.totalLen then (.structural, eng, none)
        else if chunk.length ≠ min (S.totalLen - offset) contUnit then (.lengthClass, eng, none)
        else if body.fragIndex + 1 < S.fragCount ∧ chunk.length ≠ contUnit then
          (.lengthClass, eng, none)
        else if S.chunkSeen body.fragIndex then contSeen eng i e2eContextId body offset chunk
        else contNew eng provider i body.fragIndex offset chunk

/-! ### Time and publication -/

/-- The tombstones after the first loop of `ninlil_r7_frag_reasm_tick`. -/
def expireTombs (eng : Engine P) (now : UInt64) : Engine P :=
  { eng with
    tombs := fun i =>
      if (eng.tombs i).inUse ∧ (eng.tombs i).status ≠ reservationMarker
          ∧ (eng.tombs i).expiryMono ≠ 0 ∧ now ≥ (eng.tombs i).expiryMono then .zero
      else eng.tombs i }

/-- The second loop of `ninlil_r7_frag_reasm_tick`. -/
def timeoutSlots (now : UInt64) : List (Fin P.reasmSlots) → Engine P → Status × Engine P
  | [], eng => (.ok, eng)
  | i :: rest, eng =>
    let S := eng.reasm i
    if S.inUse = false then timeoutSlots now rest eng
    else if now ≥ S.idleDeadline ∨ now ≥ S.receiverAbsoluteDeadline then
      match checkedAddU64 now tombstoneTtlMs with
      | none => (.fenced, eng.fence)
      | some expiry =>
        match (tombFindHandle eng S.e2eContextId S.transferHandle).or (tombReserve eng) with
        | none => (.resource, eng)
        | some slot =>
          timeoutSlots now rest (terminate eng i slot statusAbort reasonTimeout expiry)
    else timeoutSlots now rest eng

/-- `ninlil_r7_frag_reasm_tick`. -/
def reasmTick (eng : Engine P) (now : UInt64) : Status × Engine P :=
  timeoutSlots now (List.finRange P.reasmSlots) (expireTombs (eng.setNow now) now)

/-- `ninlil_r7_frag_take_publication`: the status, the engine, and what was handed over. -/
def takePublication (eng : Engine P) (outCapacity : ℕ) :
    Status × Engine P × Option (UInt32 × UInt64 × List UInt8) :=
  if eng.pubValid = false then (.noTransfer, eng, none)
  else if outCapacity < eng.pubTotalLen then (.capacity, eng, none)
  else
    (.published,
      { eng with
        pubPayload := List.replicate totalLenMax 0
        pubValid := false
        pubTotalLen := 0
        pubE2eContextId := 0
        pubTransferHandle := 0 },
      some (eng.pubE2eContextId, eng.pubTransferHandle, eng.pubPayload.take eng.pubTotalLen))

end Ninlil.R7Frag
