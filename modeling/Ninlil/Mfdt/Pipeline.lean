import Ninlil.Mfdt.Engine

/-!
# The sender's pipeline

`mfdt_v1_pipeline.c`: the frames of a sender, one at a time, each sent once the answer to the one
before has come.

* `Pipeline`, `Pipe`: a pipeline, and the engine it drives;
* `emitOutbound`: a frame is handed to `send_fn`, or kept in the outbox;
* `senderBegin`, `pump`, `tick`, `ingress`, `takeOutbound`, `finishTerminal`: its calls;
* `senderRehydrate`, `restart`: a sender after a cold start.

What `send_fn` answers, and what the receiver engine of the pipeline answers, are arguments.  The
fields that only the coordinator of a host reads are left out.
-/

namespace Ninlil.Mfdt

open Bytes Outcomes

/-- `NINLIL_MFDT_V1_PHASE_*`. -/
inductive Phase
  | idle
  | waitOpenAcc
  | sendPages
  | waitPageAcc
  | sendChunks
  | waitChunkAcc
  | sendFin
  | waitXferAcc
  | complete
  | reissueOpen
  deriving DecidableEq, Repr

/-- `NINLIL_MFDT_V1_RESPONSE_TIMEOUT_MS`. -/
def responseTimeoutMs : UInt64 := 5000

def uint64Max : UInt64 := UInt64.ofNat (2 ^ 64 - 1)

/-- `ninlil_mfdt_v1_pipeline_t`, as `pipeline_init` leaves it. -/
structure Pipeline where
  hasSendFn : Bool
  sessionGeneration : UInt32
  sessionCookie : UInt64
  nextRequestId : UInt64 := 1
  transferId : Id := zeroId
  complete : Bool := false
  aborted : Bool := false
  outbox : List UInt8 := []
  outboxValid : Bool := false
  phase : Phase := .idle
  nextPage : UInt16 := 0
  nextChunk : UInt16 := 0
  geo : Geometry := ⟨0, 0, 0, 0⟩
  hasOutstanding : Bool := false
  outstandingType : UInt8 := 0
  outstandingIndex : UInt16 := 0
  outstandingRid : UInt64 := 0
  nowMs : UInt64 := 0
  responseTimeoutMs : UInt64 := Mfdt.responseTimeoutMs
  outstandingDeadlineMs : UInt64 := 0
  retryFrame : List UInt8 := []

/-- A pipeline and its sender engine. -/
structure Pipe (σ : Type) where
  p : Pipeline
  tx : World σ

abbrev PipeProg (σ : Type) := Outcomes.Prog (Pipe σ) Err

/-- What `send_fn` answers. -/
abbrev Answer := Except Err PUnit

section Programs

variable {σ α : Type}

def pipeline : PipeProg σ Pipeline := do return (← get).p

def setPipeline (f : Pipeline → Pipeline) : PipeProg σ PUnit :=
  modify fun s => { s with p := f s.p }

/-- A call of the sender engine. -/
def onTx (m : Prog σ α) : PipeProg σ α :=
  ExceptT.mk fun s => ((m.outcome s.tx).1, { s with tx := (m.outcome s.tx).2 })

end Programs

/-! ### Frames -/

/-- The request identifier of a frame. -/
def frameRid (requestId : UInt64) : UInt32 :=
  if 0xffffffff < requestId ∧ requestId.toUInt32 = 0 then 1 else requestId.toUInt32

/-- `is_sender_request_type`. -/
def isSenderRequestType (t : UInt8) : Bool :=
  [msgOpen, msgManifestPage, msgChunkOffer, msgResumeQuery, msgFinalize, msgAbort].contains t

/-- The frame of a body. -/
def Pipeline.frame (p : Pipeline) (t : UInt8) (requestId : UInt64) (body : List UInt8) :
    Except Err (List UInt8) :=
  ncl1Encode t (frameRid requestId) p.sessionGeneration p.sessionCookie body

/-- The outstanding request's deadline, counted from now. -/
def Pipeline.deadline (p : Pipeline) : UInt64 :=
  if uint64Max - p.nowMs < p.responseTimeoutMs then uint64Max else p.nowMs + p.responseTimeoutMs

section Calls

variable {σ : Type} (sha256 : Hash) (st : Storage σ)

/-- `next_rid`. -/
def nextRid : PipeProg σ UInt64 := do
  let p ← pipeline
  setPipeline fun p => { p with
    nextRequestId := if p.nextRequestId = uint64Max then uint64Max else p.nextRequestId + 1 }
  return p.nextRequestId

/-- `set_outstanding`. -/
def setOutstanding (t : UInt8) (rid : UInt64) (index : UInt16) : PipeProg σ PUnit :=
  setPipeline fun p => { p with
    hasOutstanding := true
    outstandingType := t
    outstandingRid := rid
    outstandingIndex := index
    outstandingDeadlineMs := p.deadline }

/-- `clear_outstanding`. -/
def clearOutstanding : PipeProg σ PUnit :=
  setPipeline fun p => { p with
    hasOutstanding := false
    outstandingType := 0
    outstandingRid := 0
    outstandingIndex := 0
    outstandingDeadlineMs := 0 }

/-- A frame is kept in the outbox. -/
def fillOutbox (frame : List UInt8) : PipeProg σ PUnit :=
  setPipeline fun p => { p with outbox := frame, outboxValid := true }

/-- `emit_outbound`. -/
def emitOutbound (t : UInt8) (requestId : UInt64) (body : List UInt8) (answer : Answer) :
    PipeProg σ PUnit := do
  let p ← pipeline
  require (!p.outboxValid) .busy
  match p.frame t requestId body with
  | .error err => throw err
  | .ok frame =>
    setPipeline fun p => { p with
      retryFrame := if isSenderRequestType t then frame else p.retryFrame }
    if p.hasSendFn then
      match answer with
      | .ok _ => pure ⟨⟩
      | .error .busy =>
        fillOutbox frame
        throw .busy
      | .error err => throw err
    else fillOutbox frame

/-- A request of the sender, and the phase in which its answer is awaited. -/
structure Request where
  type : UInt8
  rid : UInt64
  body : List UInt8
  index : UInt16
  waits : Phase

/-- A request is sent, or owned by the outbox, and its answer awaited. -/
def sendRequest (r : Request) (answer : Answer) : PipeProg σ PUnit := do
  match ← attempt (emitOutbound r.type r.rid r.body answer) with
  | .ok _ => setOutstanding r.type r.rid r.index
  | .error err =>
    require (err == .busy) err
    setOutstanding r.type r.rid r.index

def setPhase (phase : Phase) : PipeProg σ PUnit := setPipeline fun p => { p with phase := phase }

/-- `pipeline_sender_begin_internal`. -/
def senderBegin (transferId : Id) (data : List UInt8) (metadata : Option OpenMetadata)
    (answer : Answer) : PipeProg σ PUnit := do
  require (data.length ≤ maxContent.toNat) .capacity
  let p ← pipeline
  require (p.phase == .idle || p.phase == .complete) .busy
  match geometry (UInt32.ofNat data.length) with
  | .error err => throw err
  | .ok geo =>
    setPipeline fun p => { p with
      geo := geo
      transferId := transferId
      complete := false
      aborted := false
      nextPage := 0
      nextChunk := 0 }
    let rid ← nextRid
    let body ← onTx (match metadata with
      | some m => senderOpenWithMetadata sha256 st transferId data m
      | none => senderOpen sha256 st transferId data)
    sendRequest ⟨msgOpen, rid, body, 0, .waitOpenAcc⟩ answer
    setPhase .waitOpenAcc

/-! ### Pumping -/

/-- `pipeline_sender_pump_internal` in SEND_FIN, up to its frame. -/
def finRequest : PipeProg σ (Option Request) := do
  let rid ← nextRid
  let body ← onTx senderFinalize
  return some ⟨msgFinalize, rid, body, 0, .waitXferAcc⟩

/-- `pipeline_sender_pump_internal` in SEND_CHUNKS, up to its frame. -/
def chunkRequest (allowChunk : Bool) : PipeProg σ (Option Request) := do
  let p ← pipeline
  if p.geo.chunkCount ≤ p.nextChunk then
    setPhase .sendFin
    finRequest
  else if allowChunk then
    let rid ← nextRid
    let body ← onTx (senderOfferChunk sha256 p.nextChunk)
    return some ⟨msgChunkOffer, rid, body, p.nextChunk, .waitChunkAcc⟩
  else return none

/-- `pipeline_sender_pump_internal` in SEND_PAGES, up to its frame. -/
def pageRequest (allowChunk : Bool) : PipeProg σ (Option Request) := do
  let p ← pipeline
  if p.geo.pageCount ≤ p.nextPage then
    setPipeline fun p => { p with phase := .sendChunks, nextChunk := 0 }
    chunkRequest sha256 allowChunk
  else
    let rid ← nextRid
    let body ← onTx (senderOfferPage sha256 p.nextPage)
    return some ⟨msgManifestPage, rid, body, p.nextPage, .waitPageAcc⟩

/-- `pipeline_sender_pump_internal` in REISSUE_OPEN, up to its frame: the retry is charged
first. -/
def reissueRequest : PipeProg σ (Option Request) := do
  onTx (ownerTimeoutRetryCharge sha256 st)
  let rid ← nextRid
  let body ← onTx senderReissueOpen
  return some ⟨msgOpen, rid, body, 0, .waitOpenAcc⟩

/-- `pipeline_sender_pump_internal`, up to its frame. -/
def pumpRequest (allowChunk : Bool) : PipeProg σ (Option Request) := do
  let p ← pipeline
  require (!p.outboxValid) .busy
  if p.complete then return none
  else match p.phase with
    | .complete | .waitOpenAcc | .waitPageAcc | .waitChunkAcc | .waitXferAcc => return none
    | .reissueOpen => reissueRequest sha256 st
    | .sendPages => pageRequest sha256 allowChunk
    | .sendChunks => chunkRequest sha256 allowChunk
    | .sendFin => finRequest
    | .idle => throw .state

/-- `pipeline_sender_pump_internal`: each of its cases ends by sending its frame. -/
def pump (allowChunk : Bool) (answer : Answer) : PipeProg σ PUnit := do
  match ← pumpRequest sha256 st allowChunk with
  | none => pure ⟨⟩
  | some r =>
    sendRequest r answer
    setPhase r.waits

/-- `ninlil_mfdt_v1_pipeline_next_action` is to send a chunk. -/
def Pipeline.wantsChunk (p : Pipeline) : Bool :=
  !p.outboxValid && !p.complete && p.phase == .sendChunks && p.nextChunk < p.geo.chunkCount

/-- `ninlil_mfdt_v1_pipeline_emit_selected_chunk`. -/
def emitSelectedChunk (answer : Answer) : PipeProg σ PUnit := do
  let p ← pipeline
  require p.wantsChunk .state
  pump sha256 st true answer

/-! ### Time -/

/-- `ninlil_mfdt_v1_pipeline_set_response_timeout`. -/
def setResponseTimeout (timeoutMs : UInt64) : PipeProg σ PUnit := do
  setPipeline fun p => { p with
    responseTimeoutMs := if timeoutMs = 0 then responseTimeoutMs else timeoutMs }
  setPipeline fun p => { p with
    outstandingDeadlineMs := if p.hasOutstanding then p.deadline else p.outstandingDeadlineMs }

/-- `ninlil_mfdt_v1_pipeline_tick`. -/
def tick (nowMs : UInt64) (answer : Answer) : PipeProg σ PUnit := do
  setPipeline fun p => { p with nowMs := nowMs }
  onTx (setEngine fun e => { e with cfg := { e.cfg with nowMs := nowMs } })
  let p ← pipeline
  if !p.hasOutstanding || nowMs < p.outstandingDeadlineMs then pure ⟨⟩
  else
    require (!p.outboxValid) .busy
    require (!p.retryFrame.isEmpty) .state
    match ncl1Decode p.retryFrame with
    | .error _ => throw .corrupt
    | .ok frame =>
      require (frame.mfdtType == p.outstandingType &&
        frame.requestId.toUInt64 == p.outstandingRid &&
        frame.sessionGeneration == p.sessionGeneration &&
        frame.sessionCookie == p.sessionCookie) .corrupt
      onTx (ownerTimeoutRetryCharge sha256 st)
      let rid ← nextRid
      sendRequest ⟨p.outstandingType, rid, frame.body, p.outstandingIndex, p.phase⟩ answer

/-! ### Incoming frames -/

/-- `check_outstanding`. -/
def Pipeline.awaits (p : Pipeline) (t : UInt8) (rid : UInt64) : Bool :=
  p.hasOutstanding && p.outstandingType == t && p.outstandingRid == rid

/-- `request_stage`. -/
def requestStage (t : UInt8) : UInt16 :=
  if t = msgOpen then 1 else if t = msgManifestPage then 2 else if t = msgChunkOffer then 3
  else if t = msgFinalize then 4 else if t = msgResumeQuery then 5 else if t = msgAbort then 6
  else 0

/-- `response_matches_outstanding_bind`. -/
def Pipeline.matchesOutstandingBind (p : Pipeline) (rid : UInt64) (body : List UInt8) : Bool :=
  52 ≤ body.length && p.hasOutstanding && p.outstandingRid == rid && !p.retryFrame.isEmpty &&
    match ncl1Decode p.retryFrame with
    | .error _ => false
    | .ok frame =>
      frame.mfdtType == p.outstandingType && frame.requestId.toUInt64 == p.outstandingRid &&
        frame.sessionGeneration == p.sessionGeneration &&
        frame.sessionCookie == p.sessionCookie && 52 ≤ frame.body.length &&
        body.take 52 == frame.body.take 52

/-- The answer of the receiver engine: its status, and a message if it has one. -/
structure Received where
  status : Except Err PUnit
  message : Option (UInt8 × List UInt8)

/-- The index that an answer to a page or a chunk names. -/
def answeredIndex (body : List UInt8) : UInt16 :=
  if 54 ≤ body.length then getU16Be body 52 else 0xffff

/-- An answer that ends the transfer on the sender's side. -/
def abortOutstanding : PipeProg σ PUnit := do
  clearOutstanding
  setPipeline fun p => { p with phase := .complete, aborted := true }

/-- `ninlil_mfdt_v1_pipeline_on_ncl1_ingress`: an answer, for the sender engine. -/
def ingressResponse (frame : Frame) : PipeProg σ PUnit := do
  let p ← pipeline
  let rid := frame.requestId.toUInt64
  let body := frame.body
  if frame.mfdtType = msgOpenAccept then
    require (p.awaits msgOpen rid) .state
    onTx (senderOnOpenAccept sha256 st body)
    if p.phase = .waitOpenAcc then
      clearOutstanding
      setPipeline fun p => { p with phase := .sendPages, nextPage := 0 }
  else if frame.mfdtType = msgPageAccept then
    require (p.awaits msgManifestPage rid && p.outstandingIndex == answeredIndex body) .state
    onTx (senderOnPageAccept sha256 st body)
    if p.phase = .waitPageAcc then
      clearOutstanding
      setPipeline fun p => { p with phase := .sendPages, nextPage := p.nextPage + 1 }
  else if frame.mfdtType = msgChunkAccept then
    require (p.awaits msgChunkOffer rid && p.outstandingIndex == answeredIndex body) .state
    onTx (senderOnChunkAccept sha256 st body)
    if p.phase = .waitChunkAcc then
      clearOutstanding
      setPipeline fun p => { p with phase := .sendChunks, nextChunk := p.nextChunk + 1 }
  else if frame.mfdtType = msgTransferAccept then
    require (p.awaits msgFinalize rid) .state
    onTx (senderOnTransferAccept sha256 st body)
    clearOutstanding
    setPipeline fun p => { p with phase := .complete, complete := true }
  else if frame.mfdtType = msgReject then
    require (body.length == 60 && p.matchesOutstandingBind rid body &&
      getU16Be body 52 == requestStage p.outstandingType && getU16Be body 54 != 0 &&
      getU16Be body 54 ≤ 10) .state
    abortOutstanding
  else if frame.mfdtType = msgBusy then
    require (body.length == 60 && p.matchesOutstandingBind rid body &&
      getU16Be body 52 == requestStage p.outstandingType && getU16Be body 54 == 0) .state
  else
    require (body.length == 92 && p.outstandingType == msgAbort &&
      p.matchesOutstandingBind rid body) .state
    abortOutstanding

/-- The types of answers. -/
def isResponseType (t : UInt8) : Bool :=
  [msgOpenAccept, msgPageAccept, msgChunkAccept, msgTransferAccept, msgReject, msgBusy,
    msgAbortAck].contains t

/-- `emit_response`: a busy bearer leaves the answer in the outbox. -/
def emitResponse (rid : UInt64) (answer : Answer) : Option (UInt8 × List UInt8) → PipeProg σ PUnit
  | none => pure ⟨⟩
  | some (t, body) => do
    match ← attempt (emitOutbound t rid body answer) with
    | .ok _ => pure ⟨⟩
    | .error (err : Err) => require (err == .busy) err

/-- `ninlil_mfdt_v1_pipeline_on_ncl1_ingress`: a request, which the receiver engine answers. -/
def ingressRequest (frame : Frame) (receiver : Option Received) (answer : Answer) :
    PipeProg σ PUnit := do
  match receiver with
  | none => throw .state
  | some received =>
    require (isSenderRequestType frame.mfdtType) .layout
    emitResponse frame.requestId.toUInt64 answer received.message
    match received.status with
    | .error err => throw err
    | .ok _ => pure ⟨⟩

/-- `ninlil_mfdt_v1_pipeline_on_ncl1_ingress`. -/
def ingress (payload : List UInt8) (receiver : Option Received) (answer : Answer) :
    PipeProg σ PUnit := do
  match ncl1Decode payload with
  | .error err => throw err
  | .ok frame =>
    let p ← pipeline
    require (frame.sessionGeneration == p.sessionGeneration &&
      frame.sessionCookie == p.sessionCookie) .version
    require (!(isSenderRequestType frame.mfdtType && p.outboxValid)) .busy
    if isResponseType frame.mfdtType then ingressResponse sha256 st frame
    else ingressRequest frame receiver answer

/-! ### Taking frames, ending and restarting -/

/-- `ninlil_mfdt_v1_pipeline_take_outbound` into a buffer of so many bytes. -/
def takeOutbound (cap : ℕ) : PipeProg σ (List UInt8) := do
  let p ← pipeline
  if !p.outboxValid then return []
  else
    require (p.outbox.length ≤ cap) .capacity
    setPipeline fun p => { p with outbox := [], outboxValid := false }
    return p.outbox

/-- `ninlil_mfdt_v1_pipeline_finish_terminal`, after what the receiver engine says. -/
def finishTerminal (receiver : Except Err PUnit) : PipeProg σ PUnit := do
  match receiver with
  | .error err => throw err
  | .ok _ =>
    let p ← pipeline
    if p.complete then onTx (terminalComplete st) else pure ⟨⟩

/-- First index below a bound whose bit is not set, or `count`. -/
def firstMissing (bitmap : ℕ) (count : UInt16) (bound : ℕ) : UInt16 :=
  match (List.range (min count.toNat bound)).find? fun i => !bitmap.testBit i with
  | some i => UInt16.ofNat i
  | none => count

/-- The phase in which a sender goes on, from the state of its transfer. -/
def resumePhase (stateCode : UInt8) (pagesLeft chunksLeft : Bool) : Option Phase :=
  if stateCode = sAcceptRx then some .complete
  else if stateCode = sOpenPending then some .reissueOpen
  else if stateCode = sOpenAccepted ∨ stateCode = sManifestAccepted then
    some (if pagesLeft then .sendPages else .sendChunks)
  else if stateCode = sChunksPartial then some (if chunksLeft then .sendChunks else .sendFin)
  else if stateCode = sFinalWait then some .sendFin
  else none

/-- `ninlil_mfdt_v1_pipeline_sender_rehydrate`; `active_snapshot` is of the transfer itself. -/
def senderRehydrate (transferId : Id) (sessionGeneration : UInt32) (sessionCookie : UInt64) :
    PipeProg σ PUnit := do
  setPipeline fun _ =>
    { hasSendFn := false, sessionGeneration := sessionGeneration, sessionCookie := sessionCookie }
  let x := (← onTx engine).x
  require (x.occupied && !isZero x.transferId) .state
  require (x.role == 1 && x.transferId == transferId) .state
  setPipeline fun p => { p with transferId := transferId }
  match geometry x.totalLength with
  | .error err => throw err
  | .ok geo =>
    let geo := { geo with
      pageCount := if 0 < x.pageCount then x.pageCount else geo.pageCount
      chunkCount := if 0 < x.chunkCount then x.chunkCount else geo.chunkCount }
    let nextPage := firstMissing x.pageBitmap.toNat geo.pageCount 8
    let nextChunk := firstMissing x.chunkBitmap.toNat geo.chunkCount 64
    setPipeline fun p => { p with geo := geo, nextPage := nextPage, nextChunk := nextChunk }
    match resumePhase x.stateCode (nextPage < geo.pageCount) (nextChunk < geo.chunkCount) with
    | none => throw .corrupt
    | some phase =>
      setPipeline fun p => { p with
        phase := phase
        complete := phase == .complete
        nextRequestId := 0x40000000 + (x.recordGeneration &&& 0x1fffffff) }

/-- A cold start: the engine reads its record, and the pipeline goes on from it. -/
def restart (transferId : Id) (sessionGeneration : UInt32) (sessionCookie : UInt64) :
    PipeProg σ PUnit := do
  onTx (restartScanTransfer sha256 st transferId 1)
  senderRehydrate transferId sessionGeneration sessionCookie

end Calls

end Ninlil.Mfdt
