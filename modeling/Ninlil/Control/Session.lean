import Ninlil.Control.Frame

/-!
# The control session

`control_session.c`: one Controller–Cell byte stream, its frame queues, the logical epoch a higher
layer claims on it, and the one tracked transmit of that epoch.

* `ReadAnswer`, `WriteAnswer`, `PumpIo`: what the stream does during one call, an input of the model;
* `Session`: the session object, with the history of its tracked traffic;
* `fenceSession`, `rxOnlyColdApply`: the two ways continuity is given up;
* `pump`: poll, read until dry, and at most two frame writes;
* `trackedSubmitTx`, `txResolve`: handing over a frame and learning what became of it.

Statistics and the sticky last error are left out: no call reads them.
-/

namespace Ninlil.Control

/-! ### The byte stream -/

/-- `ninlil_byte_stream_status_t`. -/
inductive StreamStatus
  | ok
  | wouldBlock
  | errLinkDown
  | invalidArgument
  | invalidState
  | busy
  | notFound
  | permission
  | unsupported
  | ioError
  | wrongOwner
  | rxOverflow
  | closed
  deriving DecidableEq

/-- `ninlil_byte_stream_link_t`. -/
inductive Link
  | closed
  | up
  | down
  | listening
  deriving DecidableEq

/-- The observers called after an I/O: generation, link, generation again. -/
structure Ticket where
  g1 : UInt64
  link : Link
  g2 : UInt64
  deriving DecidableEq

/-- The answer to `read`: its status, the length it reports and the buffer it leaves. -/
structure ReadAnswer where
  status : StreamStatus
  length : ℕ
  chunk : ℕ → UInt8
  ticket : Ticket

/-- The answer to `write`: its status and how many bytes it reports as accepted. -/
structure WriteAnswer where
  status : StreamStatus
  accepted : ℕ
  ticket : Ticket

/-- How the stream behaves during one pump. -/
structure PumpIo where
  pollStatus : StreamStatus
  pollRxOverflow : Bool
  pollLinkDown : Bool
  pollTicket : Ticket
  reads : ℕ → ReadAnswer
  write : WriteAnswer
  secondWrite : WriteAnswer

/-- How the stream behaves during a bind. -/
structure BindIo where
  pollStatus : StreamStatus
  link : Link
  generation : UInt64

/-! ### The session object -/

/-- `ninlil_ctrl_session_status_t`. -/
inductive SessionStatus
  | ok
  | wouldBlock
  | needMore
  | errLinkDown
  | invalidArgument
  | invalidState
  | wrongOwner
  | rxOverflow
  | continuityLost
  | generationMismatch
  | txBusy
  | closed
  | ioError
  | staleEpoch
  | epochExhausted
  | tokenExhausted
  deriving DecidableEq

/-- `ninlil_ctrl_session_state_t`. -/
inductive SessionState
  | idle
  | bound
  | fenced
  deriving DecidableEq

/-- `NINLIL_CS_TRACKED_PHASE_*`. -/
inductive TrackedPhase
  | none
  | intent
  | wire
  | terminal
  deriving DecidableEq

/-- `ninlil_ctrl_session_tx_resolution_t`. -/
inductive TxResolution
  | pendingUnaccepted
  | rawAcceptedCurrentEpoch
  | cancelledUnaccepted
  | fencedUnaccepted
  | rawAcceptedThenFenced
  | indeterminatePartial
  deriving DecidableEq

/-- `ninlil_cs_intent_entry_t`, with its payload; token `0` is a legacy untracked frame. -/
structure IntentEntry where
  fields : FrameFields
  trackedToken : UInt64
  deriving DecidableEq

/-- `ninlil_ctrl_session_logical_epoch_t`. -/
structure LogicalEpoch where
  epochId : UInt64 := 0
  boundStreamGeneration : UInt64 := 0
  deriving DecidableEq

/-- What a session did that its owner or its peer can see. -/
inductive TxEvent
  /-- `logical_epoch_begin` handed out an epoch. -/
  | claimed (epochId : UInt64)
  /-- `tracked_submit_tx` took a frame and returned a token for it. -/
  | submitted (token : UInt64) (fields : FrameFields)
  /-- A write offered these bytes, and the stream reported so many accepted. -/
  | offered (token : UInt64) (bytes : List UInt8) (status : StreamStatus) (accepted : ℕ)
  /-- `tx_resolve` reported a terminal outcome. -/
  | reported (token : UInt64) (resolution : TxResolution)
  /-- A frame was parsed off the stream and queued. -/
  | received (fields : FrameFields)
  deriving DecidableEq

/-- `struct ninlil_ctrl_session`. `stream` says whether a stream is attached, `txWire` holds the
encoded frame not yet accepted (its offset is always `0`), and `log` is the history of the object,
newest first. -/
structure Session where
  state : SessionState := .idle
  stream : Bool := false
  boundGeneration : UInt64 := 0
  parser : Parser := {}
  ingress : List FrameFields := []
  intent : List IntentEntry := []
  txWire : List UInt8 := []
  txWireTrackedToken : UInt64 := 0
  epochClaimed : Bool := false
  epochActive : UInt64 := 0
  epochBoundGen : UInt64 := 0
  epochNext : UInt64 := 1
  trackedPhase : TrackedPhase := .none
  trackedResolution : TxResolution := .pendingUnaccepted
  trackedToken : UInt64 := 0
  tokenNext : UInt64 := 1
  log : List TxEvent := []

/-- `NINLIL_CTRL_SESSION_INGRESS_MAX_ENTRIES`. -/
def ingressMaxEntries : ℕ := 16
/-- `NINLIL_CTRL_SESSION_INGRESS_BYTE_CAP`. -/
def ingressByteCap : ℕ := 8192
/-- `NINLIL_CTRL_SESSION_TX_INTENT_MAX_ENTRIES`. -/
def txIntentMaxEntries : ℕ := 16
/-- `NINLIL_CTRL_SESSION_TX_INTENT_BYTE_CAP`. -/
def txIntentByteCap : ℕ := 8192
/-- `NINLIL_CS_RX_CHUNK_BYTES`. -/
def rxChunkBytes : ℕ := 256
/-- The reads one pump makes at most. -/
def rxSpins : ℕ := 32
/-- The parser calls one read is given. -/
def feedCalls : ℕ := 64

/-- `session->ingress_bytes`. -/
def ingressBytes (queue : List FrameFields) : ℕ := (queue.map fun f => f.payload.length).sum

/-- `session->intent_bytes`. -/
def intentBytes (queue : List IntentEntry) : ℕ := (queue.map fun e => e.fields.payload.length).sum

/-! ### Fences and cold starts -/

def invalidateEpochClaim (s : Session) : Session :=
  { s with epochClaimed := false, epochActive := 0, epochBoundGen := 0 }

def trackedTerminalIfPending (s : Session) (resolution : TxResolution) : Session :=
  if s.trackedPhase = .intent ∨ s.trackedPhase = .wire then
    { s with
      trackedPhase := .terminal
      trackedResolution := resolution
      txWireTrackedToken := 0 }
  else s

def discardQueues (s : Session) : Session :=
  { s with ingress := [], intent := [], txWire := [], txWireTrackedToken := 0 }

/-- `fence_session`: a tracked frame not yet terminal gets the given resolution. -/
def fenceSession (s : Session) (pending : TxResolution) : Session :=
  let s := invalidateEpochClaim (trackedTerminalIfPending s pending)
  { discardQueues { s with state := .fenced, stream := false, boundGeneration := 0 } with
    parser := {} }

/-- `rx_only_cold_apply`. -/
def rxOnlyColdApply (s : Session) : Session := { s with parser := {}, ingress := [] }

def mapStreamStatus : StreamStatus → SessionStatus
  | .ok => .ok
  | .wouldBlock => .wouldBlock
  | .errLinkDown => .errLinkDown
  | .invalidArgument => .invalidArgument
  | .invalidState => .invalidState
  | .wrongOwner => .wrongOwner
  | .rxOverflow => .rxOverflow
  | .closed => .closed
  | _ => .ioError

/-- `validate_link_generation_ticket`: any I/O result is used only under an unchanged link. -/
def validateLinkGenerationTicket (s : Session) (ticket : Ticket) (pending : TxResolution) :
    SessionStatus × Session :=
  if s.stream = false ∨ s.state ≠ .bound then (.continuityLost, s)
  else if ticket.g1 ≠ s.boundGeneration ∨ ticket.g2 ≠ s.boundGeneration ∨ ticket.g1 ≠ ticket.g2 then
    (.generationMismatch, fenceSession s pending)
  else if ticket.link = .closed then (.closed, fenceSession s pending)
  else if ticket.link ≠ .up then (.errLinkDown, fenceSession s pending)
  else (.ok, s)

def epochIsActiveMatch (s : Session) (epoch : LogicalEpoch) : Bool :=
  s.epochClaimed && s.state == .bound && epoch.epochId != 0 && s.epochActive != 0
    && epoch.epochId == s.epochActive && epoch.boundStreamGeneration == s.epochBoundGen
    && s.boundGeneration == s.epochBoundGen

/-! ### Queues -/

/-- `ingress_try_enqueue`: a frame that does not fit is dropped. -/
def ingressTryEnqueue (s : Session) (view : FrameView) : Session :=
  if s.ingress.length ≥ ingressMaxEntries then s
  else if view.payloadLength > ingressByteCap - ingressBytes s.ingress then s
  else
    let fields : FrameFields :=
      { type := view.type, flags := view.flags, streamOrCellId := view.streamOrCellId
        sequence := view.sequence, payload := view.payload }
    { s with ingress := s.ingress ++ [fields], log := .received fields :: s.log }

/-- `intent_try_enqueue`. -/
def intentTryEnqueue (s : Session) (fields : FrameFields) (trackedToken : UInt64) :
    Option Session :=
  if fields.payload.length > maxPayloadBytes then none
  else if s.intent.length ≥ txIntentMaxEntries then none
  else if fields.payload.length > txIntentByteCap - intentBytes s.intent then none
  else some { s with intent := s.intent ++ [{ fields, trackedToken }] }

/-- `intent_remove_tracked_token`. -/
def intentRemoveTrackedToken (s : Session) (token : UInt64) : Session :=
  if token = 0 then s
  else { s with intent := s.intent.filter fun e => e.trackedToken != token }

/-- `encode_intent_head_to_wire`. -/
def encodeIntentHeadToWire (s : Session) : SessionStatus × Session :=
  if s.txWire ≠ [] then (.ok, s)
  else
    match s.intent with
    | [] => (.ok, s)
    | e :: rest =>
      match encodeFrame e.fields maxBytes with
      | none => (.invalidArgument, s)
      | some bytes =>
        (.ok,
          { s with
            intent := rest
            txWire := bytes
            txWireTrackedToken := e.trackedToken
            trackedPhase :=
              if e.trackedToken ≠ 0 ∧ s.trackedToken = e.trackedToken ∧ s.trackedPhase = .intent
              then .wire else s.trackedPhase })

/-! ### Transmit -/

/-- The frame on the wire is the tracked one, and still open. -/
def wireIsTracked (s : Session) : Bool :=
  s.txWireTrackedToken != 0 && s.trackedToken == s.txWireTrackedToken
    && (s.trackedPhase == .wire || s.trackedPhase == .intent)

/-- How many bytes of an offer the stream took; a wrong owner takes none. -/
def WriteAnswer.taken (w : WriteAnswer) : ℕ := if w.status = .wrongOwner then 0 else w.accepted

/-- The frame on the wire is offered to the stream. -/
def offerWire (s : Session) (w : WriteAnswer) : Session :=
  { s with log := .offered s.txWireTrackedToken s.txWire w.status w.taken :: s.log }

/-- `mark_tracked_raw_accepted_current`. -/
def markTrackedRawAcceptedCurrent (s : Session) : Session :=
  let s :=
    if wireIsTracked s then
      { s with trackedPhase := .terminal, trackedResolution := .rawAcceptedCurrentEpoch }
    else s
  { s with txWireTrackedToken := 0 }

/-- The part of `flush_tx_wire` after a write that took the whole frame: the accept is recorded
before the link is looked at. -/
def flushAccepted (s : Session) (w : WriteAnswer) : SessionStatus × Session :=
  let s :=
    if wireIsTracked s then
      { s with trackedPhase := .terminal, trackedResolution := .rawAcceptedThenFenced }
    else s
  match validateLinkGenerationTicket s w.ticket .rawAcceptedThenFenced with
  | (.ok, s) =>
    let s := { s with txWire := [] }
    if s.trackedPhase = .terminal ∧ s.trackedResolution = .rawAcceptedThenFenced then
      (.ok, { s with trackedResolution := .rawAcceptedCurrentEpoch, txWireTrackedToken := 0 })
    else (.ok, markTrackedRawAcceptedCurrent s)
  | (ticket, s) => (ticket, s)

/-- `flush_tx_wire`. -/
def flushTxWire (s : Session) (w : WriteAnswer) : SessionStatus × Session :=
  if s.txWire = [] then (.ok, { s with txWireTrackedToken := 0 })
  else
    let offered := offerWire s w
    if w.status = .wrongOwner then (.wrongOwner, offered)
    else if w.status = .ok ∧ w.accepted = s.txWire.length then flushAccepted offered w
    else if w.accepted > 0 then (.ioError, fenceSession offered .indeterminatePartial)
    else
      match validateLinkGenerationTicket offered w.ticket .fencedUnaccepted with
      | (.ok, s) =>
        if w.status = .wouldBlock then (.wouldBlock, s)
        else if w.status = .errLinkDown ∨ w.status = .closed then
          (mapStreamStatus w.status, fenceSession s .fencedUnaccepted)
        else (.ioError, fenceSession s .fencedUnaccepted)
      | (ticket, s) => (ticket, s)

/-! ### Receive -/

/-- `feed_and_enqueue`. -/
def feedAndEnqueue (s : Session) (data : List UInt8) : SessionStatus × Session :=
  let r := feedAll feedCalls s.parser data
  let s := r.1.foldl ingressTryEnqueue { s with parser := r.2.1 }
  if r.2.2 = [] then (.ok, s)
  else if s.epochClaimed then (.ioError, rxOnlyColdApply s)
  else (.ioError, fenceSession s .fencedUnaccepted)

/-- `handle_rx_overflow`. -/
def handleRxOverflow (s : Session) : SessionStatus × Session :=
  if s.epochClaimed = true ∧ s.state = .bound then (.rxOverflow, rxOnlyColdApply s)
  else (.rxOverflow, fenceSession s .fencedUnaccepted)

/-- A read whose report contradicts itself: more than was asked for, or bytes with
`WOULD_BLOCK`. -/
def ReadAnswer.malformed (r : ReadAnswer) : Bool :=
  (r.status == .ok && r.length > rxChunkBytes) || (r.status == .wouldBlock && r.length != 0)

/-- The bytes a read delivered. -/
def ReadAnswer.data (r : ReadAnswer) : List UInt8 := (List.range r.length).map r.chunk

/-- The loop of `pump_rx`, with the reads that are left; `reads` starts at the next one. -/
def pumpRx : ℕ → Session → (ℕ → ReadAnswer) → SessionStatus × Session
  | 0, s, _ => (.ok, s)
  | spins + 1, s, reads =>
    let r := reads 0
    if r.status = .wrongOwner then (.wrongOwner, s)
    else
      match validateLinkGenerationTicket s r.ticket .fencedUnaccepted with
      | (.ok, s) =>
        if r.malformed then
          if s.epochClaimed then (.ioError, rxOnlyColdApply s)
          else (.ioError, fenceSession s .fencedUnaccepted)
        else if r.status = .rxOverflow then handleRxOverflow s
        else if r.status = .errLinkDown ∨ r.status = .closed then
          (mapStreamStatus r.status, fenceSession s .fencedUnaccepted)
        else if r.status = .wouldBlock then (.ok, s)
        else if r.status ≠ .ok then (.ioError, fenceSession s .fencedUnaccepted)
        else if r.length = 0 then (.ok, s)
        else
          match feedAndEnqueue s r.data with
          | (.ok, s) =>
            if s.state ≠ .bound then (.ioError, s)
            else pumpRx spins s fun i => reads (i + 1)
          | (_, s) =>
            if s.state = .fenced then (.ioError, s)
            else if s.epochClaimed = true ∧ s.state = .bound then (.ioError, s)
            else (.invalidArgument, s)
      | (ticket, s) => (ticket, s)

/-! ### The pump -/

/-- The transmit half of `ninlil_ctrl_session_pump`. -/
def pumpTx (s : Session) (io : PumpIo) : SessionStatus × Session :=
  match encodeIntentHeadToWire s with
  | (.ok, s) =>
    if s.txWire ≠ [] ∨ s.intent ≠ [] then
      match flushTxWire s io.write with
      | (.wouldBlock, s) => (.wouldBlock, s)
      | (.ok, s) =>
        if s.state = .bound ∧ s.txWire = [] ∧ s.intent ≠ [] then
          match encodeIntentHeadToWire s with
          | (.ok, s) => if s.txWire ≠ [] then flushTxWire s io.secondWrite else (.ok, s)
          | (status, s) => (status, s)
        else (.ok, s)
      | (status, s) => (status, s)
    else (.ok, s)
  | (status, s) => (status, s)

/-- `ninlil_ctrl_session_pump`. -/
def pump (s : Session) (io : PumpIo) : SessionStatus × Session :=
  if s.state ≠ .bound ∨ s.stream = false then
    (if s.state = .fenced then .continuityLost else .invalidState, s)
  else if io.pollStatus = .wrongOwner then (.wrongOwner, s)
  else
    match validateLinkGenerationTicket s io.pollTicket .fencedUnaccepted with
    | (.ok, s) =>
      if io.pollStatus = .rxOverflow ∨ io.pollRxOverflow = true then handleRxOverflow s
      else if io.pollStatus = .errLinkDown ∨ io.pollLinkDown = true then
        (.errLinkDown, fenceSession s .fencedUnaccepted)
      else if io.pollStatus ≠ .ok ∧ io.pollStatus ≠ .wouldBlock then
        (if io.pollStatus = .closed then .closed else .ioError, fenceSession s .fencedUnaccepted)
      else
        match pumpRx rxSpins s io.reads with
        | (.ok, s) => if s.state ≠ .bound then (.continuityLost, s) else pumpTx s io
        | (status, s) => (status, s)
    | (ticket, s) => (ticket, s)

/-! ### The calls of the owner -/

/-- `ninlil_ctrl_session_bind`. -/
def bind (s : Session) (io : BindIo) : SessionStatus × Session :=
  if s.state = .bound then (.invalidState, s)
  else if io.pollStatus = .wrongOwner then (.wrongOwner, s)
  else if io.pollStatus ≠ .ok ∧ io.pollStatus ≠ .wouldBlock then (mapStreamStatus io.pollStatus, s)
  else if io.link ≠ .up ∨ io.generation = 0 then (.invalidState, s)
  else
    let s := { s with stream := true, boundGeneration := io.generation, state := .bound }
    (.ok, { discardQueues (invalidateEpochClaim s) with parser := {} })

/-- `ninlil_ctrl_session_unbind`. -/
def unbind (s : Session) : SessionStatus × Session :=
  if s.state = .idle then (.invalidState, s)
  else if s.state = .fenced ∧ s.stream = false then (.ok, s)
  else (.ok, fenceSession s .fencedUnaccepted)

/-- The fields `tracked_submit_tx` and `submit_tx` accept. -/
def fieldsAreGood (fields : FrameFields) : Bool :=
  frameTypeIsKnown fields.type && fields.flags == 0 && fields.payload.length ≤ maxPayloadBytes

/-- `ninlil_ctrl_session_submit_tx`. -/
def submitTx (s : Session) (fields : FrameFields) : SessionStatus × Session :=
  if s.state = .fenced then (.continuityLost, s)
  else if s.state ≠ .bound then (.invalidState, s)
  else if s.epochClaimed then (.invalidState, s)
  else if fieldsAreGood fields = false then (.invalidArgument, s)
  else
    match intentTryEnqueue s fields 0 with
    | none => (.wouldBlock, s)
    | some s => (.ok, s)

/-- The next id of a counter that stops at `0` after its last value. -/
def nextId (id : UInt64) : UInt64 := if id.toNat = 2 ^ 64 - 1 then 0 else id + 1

/-- `ninlil_ctrl_session_logical_epoch_begin`. -/
def logicalEpochBegin (s : Session) : SessionStatus × LogicalEpoch × Session :=
  if s.state ≠ .bound then
    (if s.state = .fenced then .continuityLost else .invalidState, {}, s)
  else if s.epochClaimed then (.invalidState, {}, s)
  else if s.intent ≠ [] ∨ s.txWire ≠ [] then (.invalidState, {}, s)
  else if s.trackedPhase ≠ .none ∨ s.trackedToken ≠ 0 then (.invalidState, {}, s)
  else if s.epochNext = 0 then (.epochExhausted, {}, s)
  else
    (.ok, { epochId := s.epochNext, boundStreamGeneration := s.boundGeneration },
      rxOnlyColdApply
        { s with
          epochNext := nextId s.epochNext
          epochClaimed := true
          epochActive := s.epochNext
          epochBoundGen := s.boundGeneration
          log := .claimed s.epochNext :: s.log })

/-- `ninlil_ctrl_session_logical_epoch_end`. -/
def logicalEpochEnd (s : Session) (epoch : LogicalEpoch) : SessionStatus × Session :=
  if epochIsActiveMatch s epoch = false then (.staleEpoch, s)
  else if s.trackedPhase ≠ .none ∨ s.trackedToken ≠ 0 then (.invalidState, s)
  else (.ok, invalidateEpochClaim s)

/-- `ninlil_ctrl_session_tracked_submit_tx`: a token is minted before the queue is asked, and not
taken back when the queue is full. -/
def trackedSubmitTx (s : Session) (epoch : LogicalEpoch) (fields : FrameFields) :
    SessionStatus × UInt64 × Session :=
  if epochIsActiveMatch s epoch = false then (.staleEpoch, 0, s)
  else if s.trackedPhase ≠ .none then (.txBusy, 0, s)
  else if s.tokenNext = 0 then (.tokenExhausted, 0, s)
  else if fieldsAreGood fields = false then (.invalidArgument, 0, s)
  else
    let minted := { s with tokenNext := nextId s.tokenNext }
    match intentTryEnqueue minted fields s.tokenNext with
    | none => (.wouldBlock, 0, minted)
    | some queued =>
      (.ok, s.tokenNext,
        { queued with
          trackedPhase := .intent
          trackedToken := s.tokenNext
          trackedResolution := .pendingUnaccepted
          log := .submitted s.tokenNext fields :: queued.log })

/-- The tracked slot is given free, its outcome told. -/
def consumeTracked (s : Session) (token : UInt64) (resolution : TxResolution) : Session :=
  { s with
    trackedPhase := .none
    trackedToken := 0
    trackedResolution := .pendingUnaccepted
    log := .reported token resolution :: s.log }

/-- `ninlil_ctrl_session_tx_resolve`. -/
def txResolve (s : Session) (token : UInt64) (cancelIfPending : Bool) :
    SessionStatus × TxResolution × Session :=
  if token = 0 then (.invalidArgument, .pendingUnaccepted, s)
  else if s.trackedPhase = .none ∨ s.trackedToken ≠ token then
    (.staleEpoch, .pendingUnaccepted, s)
  else if s.trackedPhase = .terminal then
    (.ok, s.trackedResolution, consumeTracked s token s.trackedResolution)
  else if cancelIfPending then
    let s :=
      if s.trackedPhase = .intent then intentRemoveTrackedToken s token
      else { s with txWire := [], txWireTrackedToken := 0 }
    (.ok, .cancelledUnaccepted, consumeTracked s token .cancelledUnaccepted)
  else (.ok, .pendingUnaccepted, s)

/-- `ninlil_ctrl_session_logical_rx_cold`, for a reason of its closed catalog. -/
def logicalRxCold (s : Session) (epoch : LogicalEpoch) : SessionStatus × Session :=
  if epochIsActiveMatch s epoch = false then (.staleEpoch, s) else (.ok, rxOnlyColdApply s)

/-- `ninlil_ctrl_session_take_rx` into a buffer of a given capacity. -/
def takeRx (s : Session) (payloadCapacity : ℕ) : SessionStatus × Option FrameFields × Session :=
  if s.state = .fenced then (.continuityLost, none, s)
  else if s.state ≠ .bound then (.invalidState, none, s)
  else
    match s.ingress with
    | [] => (.needMore, none, s)
    | frame :: rest =>
      if frame.payload.length > payloadCapacity then (.invalidArgument, none, s)
      else (.ok, some frame, { s with ingress := rest })

/-! ### Runs -/

/-- A call of the session's owner, with the stream's behaviour during it. -/
inductive Call
  | bind (io : BindIo)
  | unbind
  | epochBegin
  | epochEnd (epoch : LogicalEpoch)
  | submit (fields : FrameFields)
  | trackedSubmit (epoch : LogicalEpoch) (fields : FrameFields)
  | pump (io : PumpIo)
  | resolve (token : UInt64) (cancelIfPending : Bool)
  | rxCold (epoch : LogicalEpoch)
  | takeRx (payloadCapacity : ℕ)

/-- The session after a call. -/
def Session.call (s : Session) : Call → Session
  | .bind io => (Control.bind s io).2
  | .unbind => (Control.unbind s).2
  | .epochBegin => (logicalEpochBegin s).2.2
  | .epochEnd epoch => (logicalEpochEnd s epoch).2
  | .submit fields => (submitTx s fields).2
  | .trackedSubmit epoch fields => (trackedSubmitTx s epoch fields).2.2
  | .pump io => (Control.pump s io).2
  | .resolve token cancelIfPending => (txResolve s token cancelIfPending).2.2
  | .rxCold epoch => (logicalRxCold s epoch).2
  | .takeRx payloadCapacity => (Control.takeRx s payloadCapacity).2.2

/-- A run of the session from `ninlil_ctrl_session_init`. -/
def Session.run (calls : List Call) : Session := calls.foldl Session.call {}

end Ninlil.Control
