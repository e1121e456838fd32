import Ninlil.Control.Session
import Ninlil.Control.Ncl1

/-!
# The logical session

`logical_session.c`: the Controller or Cell end of a handshake over a control session, with its
sequence numbers, liveness timers and continuity notices.

* `LogicalSession`: the session object, with its embedded control session and its history;
* `sessionToLinkUpNoSession`: the fence that every loss of continuity goes through;
* `scheduleControllerHello`, `cellPrepareHelloAck`: the two sides of the handshake;
* `processRxFrame`: one received frame;
* `trySubmitTracked`, `resolveTracked`: one transmitted frame, from queue to outcome;
* `step`: timers, submit, pump, resolve, pump status, received frames;
* `bindLogical`, `unbindLogical`.

Counters and the last transmit metadata are left out: no step reads them.
-/

namespace Ninlil.Control

/-! ### Constants -/

/-- `NINLIL_LOGICAL_SESSION_INFLIGHT_MAX`. -/
def inflightMax : ℕ := 8
/-- `NINLIL_LOGICAL_SESSION_TX_ACTION_MAX`. -/
def txActionMax : ℕ := 8
/-- `NINLIL_LOGICAL_SESSION_COOKIE_REDRAW_MAX`. -/
def cookieRedrawMax : ℕ := 8
/-- `NINLIL_LOGICAL_SESSION_PING_CADENCE_MS`. -/
def pingCadenceMs : ℕ := 5000
/-- `NINLIL_LOGICAL_SESSION_PING_DISPATCH_SLACK_MS`. -/
def pingDispatchSlackMs : ℕ := 1000
/-- `NINLIL_LOGICAL_SESSION_PONG_TIMEOUT_MS`. -/
def pongTimeoutMs : ℕ := 2000
/-- `NINLIL_LOGICAL_SESSION_PONG_MISS_THRESHOLD`. -/
def pongMissThreshold : UInt32 := 3
/-- `NINLIL_LOGICAL_SESSION_HELLO_RETRY_INITIAL_MS`. -/
def helloRetryInitialMs : UInt32 := 200
/-- `NINLIL_LOGICAL_SESSION_HELLO_RETRY_MAX_MS`. -/
def helloRetryMaxMs : UInt32 := 5000
/-- `NINLIL_LOGICAL_SESSION_HELLO_BACKOFF_MULT`. -/
def helloBackoffMult : UInt32 := 2
/-- `NINLIL_LOGICAL_SESSION_REHELLO_AFTER_RESET_MS`. -/
def rehelloAfterResetMs : ℕ := 200
/-- `NINLIL_LOGICAL_SESSION_CTRL_ERROR_RATE_WINDOW_MS`. -/
def ctrlErrorRateWindowMs : UInt64 := 1000
/-- `NINLIL_LOGICAL_SESSION_CTRL_ERROR_RATE_MAX`. -/
def ctrlErrorRateMax : ℕ := 8
/-- `NINLIL_LOGICAL_SESSION_LOGICAL_REJECT_FENCE_THRESHOLD`. -/
def logicalRejectFenceThreshold : UInt32 := 32
/-- `UINT32_MAX`, the reserved sequence number. -/
def seqMax : UInt32 := 0xFFFFFFFF
/-- `max_deadline_add_ms`: the retry maximum with its jitter. -/
def maxDeadlineAddMs : ℕ := 6000

/-! ### The session object -/

/-- `ninlil_logical_session_role_t`. -/
inductive Role
  | controller
  | cell
  deriving DecidableEq

/-- `ninlil_logical_session_state_t`. -/
inductive LogicalState
  | disconnected
  | linkUpNoSession
  | helloSent
  | helloReceived
  | sessionActive
  deriving DecidableEq

/-- `ninlil_logical_session_status_t`, the values bind, unbind and step return. -/
inductive LogicalStatus
  | ok
  | invalidState
  | continuityLost
  | ioError
  | epochExhausted
  | timeRegressed
  | deadlineOverflow
  deriving DecidableEq

/-- `NINLIL_LS_INFLIGHT_*`. -/
inductive InflightKind
  | none
  | hello
  | ping
  deriving DecidableEq

/-- `ninlil_ls_inflight_slot_t`. -/
structure InflightSlot where
  kind : InflightKind := .none
  requestId : UInt32 := 0
  deadlineMs : UInt64 := 0
  echoToken : UInt64 := 0
  deriving DecidableEq

/-- `ninlil_logical_session_tx_kind_t`; the frame type and the message type go with it. -/
inductive TxKind
  | none
  | hello
  | helloAck
  | ping
  | pong
  | reset
  | ctrlError
  deriving DecidableEq

/-- `ninlil_ls_tx_action_t`. -/
structure TxAction where
  kind : TxKind
  requestId : UInt32
  sessionGeneration : UInt32 := 0
  sessionCookie : UInt64 := 0
  helloResult : UInt16 := 0
  echoToken : UInt64 := 0
  resetCode : UInt8 := 0
  errorCode : UInt16 := 0
  deriving DecidableEq

/-- `ninlil_ls_notice_slot_t`, pending; an empty slot is `none`. -/
structure Notice where
  resetCode : UInt8
  requestId : UInt32
  sessionGeneration : UInt32
  sessionCookie : UInt64
  deriving DecidableEq

/-- `NINLIL_LS_TRACKED_*`. -/
inductive TrackedKind
  | none
  | ordinary
  | notice
  deriving DecidableEq

/-- `ninlil_logical_session_config_t`: the role, and the answers of the two callbacks to their
successive calls. -/
structure LogicalConfig where
  role : Role
  cookieRng : ℕ → Option UInt64
  jitter : ℕ → UInt32 → Option UInt32

/-- What a session did that the claims about whole runs speak of. -/
inductive SessionEvent
  /-- `bind` succeeded. -/
  | bound
  /-- The transmit sequence was exhausted and started over. -/
  | restarted
  /-- A raw accept of the frame under this token was harvested. -/
  | harvested (token : UInt64)
  /-- A request id was allocated. -/
  | allocated (requestId : UInt32)
  /-- A `HELLO` was planned. -/
  | requested (requestId : UInt32)
  /-- A `HELLO_ACK` with result `OK` was planned. -/
  | acknowledged (requestId generation : UInt32) (cookie : UInt64)
  /-- The Controller took the pair of an acknowledgement as its session. -/
  | activated (requestId generation : UInt32) (cookie : UInt64)
  deriving DecidableEq

/-- `struct ninlil_logical_session`. `trace` is the history of the object, newest first;
`trackedFenced` and `overflows` belong to the history too, and no step reads them. -/
structure LogicalSession where
  config : LogicalConfig
  state : LogicalState := .disconnected
  cookieDraws : ℕ := 0
  jitterDraws : ℕ := 0
  nowMs : UInt64 := 0
  haveNow : Bool := false
  nextTxSeq : UInt32 := 0
  haveRxSeq : Bool := false
  lastRxSeq : UInt32 := 0
  activeGeneration : UInt32 := 0
  activeCookie : UInt64 := 0
  lastIssuedGeneration : UInt32 := 0
  requestNext : UInt32 := 1
  inflight : Fin inflightMax → InflightSlot := fun _ => {}
  inflightCount : ℕ := 0
  actions : List TxAction := []
  notice : Option Notice := none
  trackedKind : TrackedKind := .none
  trackedTxKind : TxKind := .none
  trackedToken : UInt64 := 0
  trackedSequence : UInt32 := 0
  trackedGeneration : UInt32 := 0
  trackedCookie : UInt64 := 0
  trackedHelloResult : UInt16 := 0
  trackedResetCode : UInt8 := 0
  helloTimerArmed : Bool := false
  helloDeadlineMs : UInt64 := 0
  helloRetryDelayMs : UInt32 := 0
  rehelloArmed : Bool := false
  rehelloDeadlineMs : UInt64 := 0
  pingInflight : Bool := false
  pingDeadlineMs : UInt64 := 0
  pingEligibleAtMs : UInt64 := 0
  pongMissStreak : UInt32 := 0
  firstPingArmed : Bool := false
  ctrlErrorTimes : List UInt64 := []
  logicalRejectStreak : UInt32 := 0
  u3 : Session := {}
  epoch : LogicalEpoch := {}
  epochClaimed : Bool := false
  trace : List SessionEvent := []
  /-- The session was fenced after the tracked frame was handed over. -/
  trackedFenced : Bool := false
  /-- How many times `add_u64_overflow` found that a deadline does not fit. -/
  overflows : ℕ := 0

/-- The role the session was configured with. -/
def LogicalSession.role (s : LogicalSession) : Role := s.config.role

/-- `add_u64_overflow`. -/
def addU64 (a : UInt64) (b : ℕ) : Option UInt64 :=
  if 2 ^ 64 ≤ a.toNat + b then none else some (a + UInt64.ofNat b)

/-- A branch for a deadline that does not fit. -/
def overflowed (s : LogicalSession) : LogicalSession := { s with overflows := s.overflows + 1 }

/-! ### Fences -/

def clearActive (s : LogicalSession) : LogicalSession :=
  { s with activeGeneration := 0, activeCookie := 0 }

def dropAllInflight (s : LogicalSession) : LogicalSession :=
  { s with inflight := fun _ => {}, inflightCount := 0, pingInflight := false }

def clearOrdinaryActions (s : LogicalSession) : LogicalSession := { s with actions := [] }

def clearNotice (s : LogicalSession) : LogicalSession := { s with notice := none }

def rxOnlyCold (s : LogicalSession) : LogicalSession :=
  { s with
    haveRxSeq := false
    lastRxSeq := 0
    u3 := if s.epochClaimed then (logicalRxCold s.u3 s.epoch).2 else s.u3 }

/-- `session_to_link_up_no_session`, and `fence_session_keep_tx_seq`. -/
def sessionToLinkUpNoSession (s : LogicalSession) : LogicalSession :=
  { clearActive (clearOrdinaryActions (dropAllInflight s)) with
    state := .linkUpNoSession
    pingInflight := false
    firstPingArmed := false
    pongMissStreak := 0
    logicalRejectStreak := 0
    trackedFenced := true }

def armRehello (s : LogicalSession) (deadlineMs : UInt64) : LogicalSession :=
  { s with rehelloArmed := true, rehelloDeadlineMs := deadlineMs }

/-- A fence after which a Controller says `HELLO` again at once. -/
def fenceAndRehello (s : LogicalSession) : LogicalSession :=
  let s := sessionToLinkUpNoSession s
  if s.role = .controller then armRehello s s.nowMs else s

/-- `apply_tx_seq_terminal_exhaust`. -/
def applyTxSeqTerminalExhaust (s : LogicalSession) : LogicalSession :=
  let s := clearNotice (sessionToLinkUpNoSession s)
  let s := rxOnlyCold { s with helloTimerArmed := false, nextTxSeq := 0 }
  let s := { s with trace := .restarted :: s.trace }
  if s.role = .controller then armRehello s s.nowMs else { s with rehelloArmed := false }

/-! ### Requests in flight and queued actions -/

/-- `alloc_request_id`; an id of `0` is skipped. -/
def allocRequestId (s : LogicalSession) : UInt32 × LogicalSession :=
  let id := if s.requestNext = 0 then 1 else s.requestNext
  (id,
    { s with
      requestNext := if id = seqMax then 1 else id + 1
      trace := .allocated id :: s.trace })

def inflightFindKind (s : LogicalSession) (kind : InflightKind) : Option (Fin inflightMax) :=
  (List.finRange inflightMax).find? fun i => (s.inflight i).kind == kind

def inflightAdd (s : LogicalSession) (kind : InflightKind) (requestId : UInt32)
    (echoToken : UInt64) : Option LogicalSession :=
  if s.inflightCount ≥ inflightMax then none
  else
    match inflightFindKind s .none with
    | none => none
    | some i =>
      some { s with
        inflight := Function.update s.inflight i { kind, requestId, deadlineMs := 0, echoToken }
        inflightCount := s.inflightCount + 1 }

def inflightRemoveIndex (s : LogicalSession) (i : Fin inflightMax) : LogicalSession :=
  if (s.inflight i).kind = .none then s
  else
    { s with
      inflight := Function.update s.inflight i {}
      inflightCount := s.inflightCount - 1 }

/-- The slot in flight of a kind is given free. -/
def inflightRemoveKind (s : LogicalSession) (kind : InflightKind) : LogicalSession :=
  match inflightFindKind s kind with
  | some i => inflightRemoveIndex s i
  | none => s

def actionEnqueue (s : LogicalSession) (a : TxAction) : Option LogicalSession :=
  if s.actions.length ≥ txActionMax then none else some { s with actions := s.actions ++ [a] }

/-- An enqueue whose failure is ignored. -/
def actionTryEnqueue (s : LogicalSession) (a : TxAction) : LogicalSession :=
  (actionEnqueue s a).getD s

def cancelPendingHelloAckActions (s : LogicalSession) : LogicalSession :=
  { s with actions := s.actions.filter fun a => a.kind != .helloAck }

/-! ### Rejections -/

/-- `note_logical_reject`: a run of rejections fences the session. -/
def noteLogicalReject (s : LogicalSession) : LogicalSession :=
  let streak :=
    if s.logicalRejectStreak < seqMax then s.logicalRejectStreak + 1 else s.logicalRejectStreak
  if streak < logicalRejectFenceThreshold then { s with logicalRejectStreak := streak }
  else
    let s := { s with logicalRejectStreak := 0 }
    if s.state = .sessionActive ∨ s.state = .helloSent ∨ s.state = .helloReceived then
      fenceAndRehello s
    else s

/-- `ctrl_error_rate_allow`. -/
def ctrlErrorRateAllow (s : LogicalSession) : Bool × LogicalSession :=
  let windowStart := if ctrlErrorRateWindowMs ≤ s.nowMs then s.nowMs - ctrlErrorRateWindowMs else 0
  let times := s.ctrlErrorTimes.filter fun t => windowStart ≤ t
  if times.length ≥ ctrlErrorRateMax then (false, { s with ctrlErrorTimes := times })
  else (true, { s with ctrlErrorTimes := times ++ [s.nowMs] })

/-- `maybe_enqueue_ctrl_error`. -/
def maybeEnqueueCtrlError (s : LogicalSession) (code : UInt16) (relatedReq : UInt32) :
    LogicalSession :=
  match ctrlErrorRateAllow s with
  | (false, s) => s
  | (true, s) =>
    actionTryEnqueue s
      { kind := .ctrlError
        requestId := relatedReq
        sessionGeneration := if s.state = .sessionActive then s.activeGeneration else 0
        sessionCookie := if s.state = .sessionActive then s.activeCookie else 0
        errorCode := code }

/-! ### The handshake -/

/-- `apply_hello_jitter`. -/
def applyHelloJitter (s : LogicalSession) (baseMs : UInt32) : UInt32 × LogicalSession :=
  let span := (baseMs * 40) / 100
  if span = 0 then (baseMs, s)
  else
    let s' := { s with jitterDraws := s.jitterDraws + 1 }
    match s.config.jitter s.jitterDraws span with
    | none => (baseMs, s')
    | some unit =>
      let delta := if unit > span then span else unit
      if delta ≤ span / 2 then (baseMs - (span / 2 - delta), s')
      else (baseMs + (delta - span / 2), s')

/-- `arm_hello_timer`: fails, the timer unchanged, when the deadline does not fit. -/
def armHelloTimer (s : LogicalSession) (delayMs : UInt32) : Bool × LogicalSession :=
  let r := applyHelloJitter s delayMs
  match addU64 s.nowMs r.1.toNat with
  | none => (false, overflowed r.2)
  | some deadline =>
    (true,
      { r.2 with
        helloTimerArmed := true, helloDeadlineMs := deadline, helloRetryDelayMs := delayMs })

/-- The delay of the next `HELLO` retry. -/
def nextRetryDelay (delayMs : UInt32) : UInt32 :=
  if delayMs = 0 then helloRetryInitialMs
  else if delayMs > helloRetryMaxMs / helloBackoffMult then helloRetryMaxMs
  else delayMs * helloBackoffMult

/-- A fresh `HELLO` replaces the one before it in the queue, and the one in flight is dropped. -/
def planHello (s : LogicalSession) : LogicalSession :=
  let r := allocRequestId s
  inflightRemoveKind
    { r.2 with
      actions := (s.actions.filter fun a => a.kind != .hello) ++
        [{ kind := .hello, requestId := r.1 }]
      trace := .requested r.1 :: r.2.trace }
    .hello

/-- The timer of a planned `HELLO`: the first delay, or the next one of a retry. -/
def armPlannedHello (s : LogicalSession) (isRetry : Bool) : Bool × LogicalSession :=
  if isRetry then armHelloTimer s (nextRetryDelay s.helloRetryDelayMs)
  else armHelloTimer { s with helloRetryDelayMs := helloRetryInitialMs } helloRetryInitialMs

/-- `schedule_controller_hello`: the planned `HELLO` needs room in the queue and in flight. -/
def scheduleControllerHello (s : LogicalSession) (isRetry : Bool) : Bool × LogicalSession :=
  let kept := s.actions.filter fun a => a.kind != .hello
  let others := (List.finRange inflightMax).filter fun i =>
    (s.inflight i).kind != .none && (s.inflight i).kind != .hello
  if kept.length + 1 > txActionMax then (false, s)
  else if others.length + 1 > inflightMax then (false, s)
  else
    match inflightAdd (planHello s) .hello (allocRequestId s).1 0 with
    | none => (false, planHello s)
    | some planned => armPlannedHello { planned with state := .helloSent } isRetry

/-- `draw_cookie`, with the draws that are left: the cookie, and the draws made so far. -/
def drawCookie (rng : ℕ → Option UInt64) : ℕ → ℕ → Option UInt64 × ℕ
  | 0, draws => (none, draws)
  | left + 1, draws =>
    match rng draws with
    | none => (none, draws + 1)
    | some v => if v ≠ 0 then (some v, draws + 1) else drawCookie rng left (draws + 1)

/-- `peek_next_generation`; `none` when the generations are used up. -/
def peekNextGeneration (s : LogicalSession) : Option UInt32 :=
  if s.lastIssuedGeneration = seqMax then none else some (s.lastIssuedGeneration + 1)

/-- `cell_prepare_hello_ack` with `ok` set: the generation is committed once the plan is queued. -/
def cellPrepareHelloAck (s : LogicalSession) (requestId : UInt32) : Bool × LogicalSession :=
  let s := cancelPendingHelloAckActions s
  if s.actions.length ≥ txActionMax then (false, s)
  else
    let draw := drawCookie s.config.cookieRng cookieRedrawMax s.cookieDraws
    let s := { s with cookieDraws := draw.2, state := .helloReceived }
    let busy : TxAction := { kind := .helloAck, requestId, helloResult := helloBusy }
    match draw.1, peekNextGeneration s with
    | some cookie, some generation =>
      (true,
        { s with
          actions := s.actions ++ [
            { kind := .helloAck, requestId, sessionGeneration := generation
              sessionCookie := cookie, helloResult := helloOk }]
          lastIssuedGeneration := generation
          trace := .acknowledged requestId generation cookie :: s.trace })
    | _, _ => (true, { s with actions := s.actions ++ [busy] })

/-! ### Losing continuity -/

/-- `cell_continuity_loss` of an active Cell: the peer is told by a notice. -/
def cellContinuityLoss (s : LogicalSession) : LogicalSession :=
  let fenced := sessionToLinkUpNoSession (rxOnlyCold s)
  match fenced.notice with
  | some _ => fenced
  | none =>
    let r := allocRequestId fenced
    { r.2 with
      notice := some
        { resetCode := resetSession, requestId := r.1
          sessionGeneration := s.activeGeneration, sessionCookie := s.activeCookie } }

/-- `controller_continuity_loss`, which either role can reach. -/
def controllerContinuityLoss (s : LogicalSession) : LogicalSession := fenceAndRehello (rxOnlyCold s)

/-- A gap, a regression or an overflow: an active Cell sends a notice. -/
def continuityLoss (s : LogicalSession) : LogicalSession :=
  if s.role = .cell ∧ s.state = .sessionActive then cellContinuityLoss s
  else controllerContinuityLoss s

/-! ### Received messages -/

def acceptRxSequence (s : LogicalSession) (seq : UInt32) : LogicalSession :=
  { s with haveRxSeq := true, lastRxSeq := seq }

/-- `peek_valid_hello_bootstrap`. -/
def peekValidHelloBootstrap (payload : List UInt8) : Option Message :=
  match decodeMessage payload ncg1TypeData with
  | .ok m => if isValidHelloBootstrap m then some m else none
  | .error _ => none

/-- `peek_valid_hello_ack`. -/
def peekValidHelloAck (payload : List UInt8) : Option Message :=
  match decodeMessage payload ncg1TypeData with
  | .ok m => if isStructurallyValidHelloAck m then some m else none
  | .error _ => none

/-- `semantic_hello_bootstrap` of a `HELLO`. -/
def semanticHelloBootstrap (m : Message) (low high flags : UInt16) : Bool :=
  m.sessionGeneration == 0 && m.sessionCookie == 0 && m.requestId != 0
    && low == controlVersionV1 && high == controlVersionV1 && flags == 0

/-- `semantic_hello_ack` of a `HELLO_ACK`. -/
def semanticHelloAck (m : Message) (version flags result : UInt16) : Bool :=
  m.requestId != 0 && flags == 0
    && (if result = helloOk then
        m.sessionGeneration != 0 && m.sessionCookie != 0 && version == controlVersionV1
      else helloResultIsClosed result && m.sessionGeneration == 0 && m.sessionCookie == 0)

/-- `on_valid_hello_cell`; a half-open or restarted session is fenced first. -/
def onValidHelloCell (s : LogicalSession) (requestId : UInt32) (fenceFirst : Bool) :
    LogicalSession :=
  let s := clearNotice s
  let s := if fenceFirst then sessionToLinkUpNoSession s else s
  let s := if s.state = .helloReceived then cancelPendingHelloAckActions s else s
  match cellPrepareHelloAck s requestId with
  | (true, s) => s
  | (false, s) => noteLogicalReject s

/-- `handle_reset_accepted`. -/
def handleResetAccepted (s : LogicalSession) (code : UInt8) : LogicalSession :=
  if code = resetSession then
    let s := sessionToLinkUpNoSession s
    if s.role = .controller then
      match addU64 s.nowMs rehelloAfterResetMs with
      | none => overflowed s
      | some deadline => armRehello s deadline
    else s
  else if code = resetParser then fenceAndRehello (rxOnlyCold s)
  else if code = resetLink then fenceAndRehello s
  else s

/-- The `HELLO` branch of `process_ncl1_after_seq`. -/
def onHello (s : LogicalSession) (m : Message) (low high flags reserved : UInt16) :
    LogicalSession :=
  if s.role = .controller then noteLogicalReject s
  else if semanticHelloBootstrap m low high flags = false then noteLogicalReject s
  else if reserved ≠ 0 then noteLogicalReject s
  else onValidHelloCell s m.requestId false

/-- A matched `HELLO_ACK`: the `HELLO` in flight is answered. -/
def onMatchedHelloAck (s : LogicalSession) (i : Fin inflightMax) (m : Message) (result : UInt16) :
    LogicalSession :=
  let s := { inflightRemoveIndex s i with helloTimerArmed := false }
  if result = helloOk then
    { s with
      activeGeneration := m.sessionGeneration
      activeCookie := m.sessionCookie
      state := .sessionActive
      firstPingArmed := true
      pingEligibleAtMs := s.nowMs
      pongMissStreak := 0
      trace := .activated m.requestId m.sessionGeneration m.sessionCookie :: s.trace }
  else (armHelloTimer { s with state := .linkUpNoSession } helloRetryInitialMs).2

/-- The `HELLO_ACK` branch of `process_ncl1_after_seq`. -/
def onHelloAck (s : LogicalSession) (m : Message) (version flags result reserved : UInt16) :
    LogicalSession :=
  if s.role ≠ .controller then noteLogicalReject s
  else if semanticHelloAck m version flags result = false then noteLogicalReject s
  else if reserved ≠ 0 then noteLogicalReject s
  else
    match inflightFindKind s .hello with
    | none => noteLogicalReject s
    | some i =>
      if (s.inflight i).requestId ≠ m.requestId then noteLogicalReject s
      else onMatchedHelloAck s i m result

/-- The session a message names is the active one. -/
def namesActiveSession (s : LogicalSession) (m : Message) : Bool :=
  m.sessionGeneration == s.activeGeneration && m.sessionCookie == s.activeCookie

/-- The `PING` branch of `process_ncl1_after_seq`. -/
def onPing (s : LogicalSession) (m : Message) (echoToken : UInt64) : LogicalSession :=
  if s.state ≠ .sessionActive then noteLogicalReject s
  else if m.requestId = 0 then noteLogicalReject s
  else if m.sessionGeneration = 0 ∨ m.sessionCookie = 0 then noteLogicalReject s
  else if namesActiveSession s m = false then noteLogicalReject s
  else if s.role = .cell then
    actionTryEnqueue s
      { kind := .pong, requestId := m.requestId, sessionGeneration := s.activeGeneration
        sessionCookie := s.activeCookie, echoToken }
  else noteLogicalReject s

/-- A matched `PONG`: the `PING` in flight is answered. -/
def onMatchedPong (s : LogicalSession) (i : Fin inflightMax) : LogicalSession :=
  let s := { inflightRemoveIndex s i with pingInflight := false, pongMissStreak := 0 }
  match addU64 s.nowMs pingCadenceMs with
  | none => overflowed s
  | some eligible => { s with pingEligibleAtMs := eligible }

/-- The `PONG` branch of `process_ncl1_after_seq`. -/
def onPong (s : LogicalSession) (m : Message) (echoToken : UInt64) : LogicalSession :=
  if s.role ≠ .controller ∨ s.state ≠ .sessionActive then noteLogicalReject s
  else if namesActiveSession s m = false then noteLogicalReject s
  else
    match inflightFindKind s .ping with
    | none => noteLogicalReject s
    | some i =>
      if (s.inflight i).requestId ≠ m.requestId ∨ (s.inflight i).echoToken ≠ echoToken then
        noteLogicalReject s
      else onMatchedPong s i

/-- The `RESET` branch of `process_ncl1_after_seq`. -/
def onReset (s : LogicalSession) (m : Message) (code : UInt8) : LogicalSession :=
  if m.requestId = 0 then noteLogicalReject s
  else if resetCodeIsClosed code = false then noteLogicalReject s
  else if s.state ≠ .sessionActive then noteLogicalReject s
  else if namesActiveSession s m = false then noteLogicalReject s
  else if checkReserved m.body = false then noteLogicalReject s
  else handleResetAccepted s code

/-- `process_ncl1_after_seq`. -/
def processNcl1AfterSeq (s : LogicalSession) (ncg1Type : UInt8) (payload : List UInt8) :
    LogicalSession :=
  if ncg1Type = ncg1TypePing ∧ payload = [] then noteLogicalReject s
  else
    match decodeMessage payload ncg1Type with
    | .error .rejectTypeBinding => maybeEnqueueCtrlError (noteLogicalReject s) errTypeBinding 0
    | .error .rejectUnknownMessage =>
      maybeEnqueueCtrlError (noteLogicalReject s) errUnknownMessage 0
    | .error _ => noteLogicalReject s
    | .ok m =>
      match m.body with
      | .ctrlError .. => noteLogicalReject s
      | .hello low high flags reserved => onHello s m low high flags reserved
      | .helloAck version flags result reserved => onHelloAck s m version flags result reserved
      | .ping echoToken => onPing s m echoToken
      | .pong echoToken => onPong s m echoToken
      | .reset code .. => onReset s m code

/-! ### Received frames -/

/-- `BOOTSTRAP_EPOCH_RESTART`: a `HELLO` under an old sequence number restarts a Cell. -/
def bootstrapRestart (s : LogicalSession) (seq : UInt32) (m : Message) : LogicalSession :=
  let s := clearNotice (clearOrdinaryActions (dropAllInflight (clearActive s)))
  onValidHelloCell (acceptRxSequence (rxOnlyCold s) seq) m.requestId true

/-- The frame is a `HELLO` that may reset the sequence of a Cell. -/
def cellBootstrap (s : LogicalSession) (fr : FrameFields) : Option Message :=
  if s.role = .cell ∧ fr.type = ncg1TypeData then peekValidHelloBootstrap fr.payload else none

/-- The frame is the acknowledgement a Controller without a baseline waits for. -/
def controllerResync (s : LogicalSession) (fr : FrameFields) : Bool :=
  match inflightFindKind s .hello, peekValidHelloAck fr.payload with
  | some i, some m =>
    s.role == .controller && s.state == .helloSent && fr.type == ncg1TypeData
      && m.requestId == (s.inflight i).requestId
  | _, _ => false

/-- A frame for a session without a receive baseline. -/
def processWithoutBaseline (s : LogicalSession) (fr : FrameFields) : LogicalSession :=
  let normal :=
    if controllerResync s fr then
      processNcl1AfterSeq (acceptRxSequence s fr.sequence) fr.type fr.payload
    else if fr.sequence ≠ 0 then noteLogicalReject s
    else processNcl1AfterSeq (acceptRxSequence s fr.sequence) fr.type fr.payload
  match cellBootstrap s fr with
  | some m =>
    if s.state = .linkUpNoSession ∨ s.state = .helloReceived then
      onValidHelloCell (acceptRxSequence s fr.sequence) m.requestId false
    else normal
  | none => normal

/-- A frame under the next sequence number; a `HELLO` to an active Cell is half-open. -/
def processContinuous (s : LogicalSession) (fr : FrameFields) : LogicalSession :=
  let s := acceptRxSequence s fr.sequence
  match cellBootstrap s fr with
  | some m =>
    if s.state = .sessionActive then onValidHelloCell s m.requestId true
    else processNcl1AfterSeq s fr.type fr.payload
  | none => processNcl1AfterSeq s fr.type fr.payload

/-- `process_rx_frame`. -/
def processRxFrame (s : LogicalSession) (fr : FrameFields) : LogicalSession :=
  if fr.streamOrCellId ≠ 0 then noteLogicalReject s
  else if fr.sequence = seqMax then continuityLoss s
  else if s.haveRxSeq = false then processWithoutBaseline s fr
  else if fr.sequence = s.lastRxSeq then
    match cellBootstrap s fr with
    | some m => bootstrapRestart s fr.sequence m
    | none => noteLogicalReject s
  else if fr.sequence < s.lastRxSeq then
    match cellBootstrap s fr with
    | some m => bootstrapRestart s fr.sequence m
    | none => continuityLoss s
  else if fr.sequence ≠ s.lastRxSeq + 1 then continuityLoss s
  else processContinuous s fr

/-! ### Transmit -/

/-- The frame type that goes with a kind. -/
def TxKind.ncg1Type : TxKind → UInt8
  | .ping => ncg1TypePing
  | .pong => ncg1TypePong
  | .reset => ncg1TypeReset
  | _ => ncg1TypeData

/-- The message `encode_action_payload` builds. -/
def TxAction.message (a : TxAction) : Option Message :=
  let header (body : Body) : Message :=
    { requestId := a.requestId, sessionGeneration := a.sessionGeneration
      sessionCookie := a.sessionCookie, body }
  match a.kind with
  | .none => none
  | .hello => some (header (.hello 1 1 0 0))
  | .helloAck =>
    some (header (.helloAck (if a.helloResult = helloOk then 1 else 0) 0 a.helloResult 0))
  | .ping => some (header (.ping a.echoToken))
  | .pong => some (header (.pong a.echoToken))
  | .reset => some (header (.reset a.resetCode 0 0 0))
  | .ctrlError => some (header (.ctrlError a.errorCode 0 a.requestId))

/-- `encode_action_payload`. -/
def encodeActionPayload (a : TxAction) : Option (List UInt8) := a.message.bind encodeMessage

/-- The message of a continuity notice. -/
def Notice.message (n : Notice) : Message where
  requestId := n.requestId
  sessionGeneration := n.sessionGeneration
  sessionCookie := n.sessionCookie
  body := .reset n.resetCode 0 0 0

/-- The frame that carries a message under the next sequence number. -/
def LogicalSession.frame (s : LogicalSession) (type : UInt8) (payload : List UInt8) :
    FrameFields where
  type := type
  streamOrCellId := 0
  sequence := s.nextTxSeq
  payload := payload

/-- The notice is handed to the control session. -/
def submitNotice (s : LogicalSession) (n : Notice) : LogicalStatus × LogicalSession :=
  match encodeMessage n.message with
  | none => (.invalidState, s)
  | some payload =>
    match trackedSubmitTx s.u3 s.epoch (s.frame ncg1TypeReset payload) with
    | (.ok, token, u3) =>
      (.ok,
        { s with
          u3 := u3
          trackedKind := .notice
          trackedToken := token
          trackedSequence := s.nextTxSeq
          trackedTxKind := .reset
          trackedFenced := false })
    | (_, _, u3) => (.ok, { s with u3 := u3 })

/-- The first queued action is handed to the control session. -/
def submitAction (s : LogicalSession) (a : TxAction) (rest : List TxAction) :
    LogicalStatus × LogicalSession :=
  match encodeActionPayload a with
  | none => (.ok, { s with actions := rest })
  | some payload =>
    match trackedSubmitTx s.u3 s.epoch (s.frame a.kind.ncg1Type payload) with
    | (.ok, token, u3) =>
      (.ok,
        { s with
          u3 := u3
          trackedKind := .ordinary
          trackedToken := token
          trackedSequence := s.nextTxSeq
          trackedTxKind := a.kind
          trackedFenced := false
          trackedGeneration := a.sessionGeneration
          trackedCookie := a.sessionCookie
          trackedHelloResult := a.helloResult
          trackedResetCode := a.resetCode
          actions := rest })
    | (_, _, u3) => (.ok, { s with u3 := u3 })

/-- `try_submit_tracked`. -/
def trySubmitTracked (s : LogicalSession) : LogicalStatus × LogicalSession :=
  if s.trackedKind ≠ .none then (.ok, s)
  else if s.epochClaimed = false then (.invalidState, s)
  else if s.nextTxSeq = seqMax then (.continuityLost, applyTxSeqTerminalExhaust s)
  else
    match s.notice, s.actions with
    | some n, _ => submitNotice s n
    | none, [] => (.ok, s)
    | none, a :: rest => submitAction s a rest

/-- A sequence number is consumed by a raw accept. -/
def harvestAccept (s : LogicalSession) : LogicalSession :=
  { s with
    nextTxSeq := if s.nextTxSeq < seqMax then s.nextTxSeq + 1 else s.nextTxSeq
    trace := .harvested s.trackedToken :: s.trace }

/-- The deadline of the slot in flight of a kind. -/
def setInflightDeadline (s : LogicalSession) (kind : InflightKind) (deadlineMs : UInt64) :
    LogicalSession :=
  match inflightFindKind s kind with
  | none => s
  | some i => { s with inflight := Function.update s.inflight i { s.inflight i with deadlineMs } }

/-- The `HELLO_ACK` branch of `on_raw_accepted`. -/
def onAckAccepted (s : LogicalSession) : LogicalSession :=
  if s.role ≠ .cell then s
  else if s.trackedHelloResult = helloOk ∧ s.trackedGeneration ≠ 0 ∧ s.trackedCookie ≠ 0 then
    { s with
      activeGeneration := s.trackedGeneration
      activeCookie := s.trackedCookie
      state := .sessionActive
      firstPingArmed := false }
  else { s with state := .linkUpNoSession }

/-- The `HELLO` branch of `on_raw_accepted`. -/
def onHelloAccepted (s : LogicalSession) : LogicalSession :=
  match addU64 s.nowMs s.helloRetryDelayMs.toNat with
  | none => overflowed s
  | some deadline => setInflightDeadline s .hello deadline

/-- The `PING` branch of `on_raw_accepted`. -/
def onPingAccepted (s : LogicalSession) : LogicalSession :=
  let s := { s with pingInflight := true }
  match addU64 s.nowMs pongTimeoutMs with
  | none => overflowed s
  | some deadline => setInflightDeadline { s with pingDeadlineMs := deadline } .ping deadline

/-- The `RESET` branch of `on_raw_accepted`. -/
def onResetAccepted (s : LogicalSession) : LogicalSession :=
  if s.trackedResetCode = resetSession then
    let s := sessionToLinkUpNoSession s
    if s.role = .controller then
      match addU64 s.nowMs rehelloAfterResetMs with
      | none => overflowed s
      | some deadline => armRehello s deadline
    else s
  else if s.trackedResetCode = resetParser then sessionToLinkUpNoSession (rxOnlyCold s)
  else s

/-- `on_raw_accepted`. -/
def onRawAccepted (s : LogicalSession) : LogicalSession :=
  let s := harvestAccept s
  if s.trackedKind = .notice then clearNotice s
  else
    match s.trackedTxKind with
    | .helloAck => onAckAccepted s
    | .hello => onHelloAccepted s
    | .ping => onPingAccepted s
    | .reset => onResetAccepted s
    | _ => s

/-- The tracked frame is settled. -/
def clearTracked (s : LogicalSession) : LogicalSession :=
  { s with trackedKind := .none, trackedToken := 0 }

/-- `resolve_tracked`. -/
def resolveTracked (s : LogicalSession) : LogicalStatus × LogicalSession :=
  if s.trackedKind = .none then (.ok, s)
  else
    match txResolve s.u3 s.trackedToken false with
    | (.ok, resolution, u3) =>
      let s := { s with u3 := u3 }
      match resolution with
      | .pendingUnaccepted => (.ok, s)
      | .rawAcceptedCurrentEpoch => (.ok, clearTracked (onRawAccepted s))
      | .cancelledUnaccepted => (.ok, clearTracked s)
      | .fencedUnaccepted => (.continuityLost, { clearTracked s with epochClaimed := false })
      | .rawAcceptedThenFenced =>
        (.continuityLost, { clearTracked (harvestAccept s) with epochClaimed := false })
      | .indeterminatePartial =>
        (.continuityLost,
          sessionToLinkUpNoSession { clearTracked s with epochClaimed := false })
    | (_, _, u3) => (.ioError, { s with u3 := u3 })

/-! ### The pump's status -/

/-- The part of `apply_u3_pump_status` for a lost epoch. -/
def onEpochLost (s : LogicalSession) : LogicalSession :=
  fenceAndRehello { s with epochClaimed := if s.trackedKind = .none then false else s.epochClaimed }

/-- The part of `apply_u3_pump_status` for a lost link: without a tracked frame the session is
disconnected, with one it is fenced and waits for the outcome. -/
def onLinkLost (s : LogicalSession) : LogicalSession :=
  let s := { s with epochClaimed := if s.trackedKind = .none then false else s.epochClaimed }
  let s := clearActive (clearNotice (clearOrdinaryActions (dropAllInflight s)))
  if s.trackedKind = .none then { s with state := .disconnected, haveRxSeq := false }
  else sessionToLinkUpNoSession s

/-- `apply_u3_pump_status`. -/
def applyU3PumpStatus (s : LogicalSession) : SessionStatus → LogicalStatus × LogicalSession
  | .ok | .wouldBlock | .needMore => (.ok, s)
  | .rxOverflow => (.continuityLost, continuityLoss s)
  | .continuityLost | .generationMismatch => (.continuityLost, onEpochLost s)
  | .errLinkDown | .closed | .ioError => (.ioError, onLinkLost s)
  | _ => (.ioError, s)

/-! ### Timers -/

/-- The `HELLO` that a fence armed. -/
def runRehelloTimer (s : LogicalSession) : LogicalSession :=
  if s.rehelloArmed = true ∧ s.rehelloDeadlineMs ≤ s.nowMs then
    if s.state = .linkUpNoSession ∨ s.state = .helloSent then
      match scheduleControllerHello s false with
      | (true, s) => { s with rehelloArmed := false }
      | (false, s) => s
    else { s with rehelloArmed := false }
  else s

/-- The retry of a `HELLO` that was not answered. -/
def runHelloTimer (s : LogicalSession) : LogicalSession :=
  if s.helloTimerArmed = true ∧ s.state = .helloSent ∧ s.helloDeadlineMs ≤ s.nowMs then
    match scheduleControllerHello s true with
    | (true, s) => s
    | (false, s) =>
      (armHelloTimer s
        (if s.helloRetryDelayMs ≠ 0 then s.helloRetryDelayMs else helloRetryInitialMs)).2
  else s

/-- A `PONG` that did not come in time is counted, and the next `PING` put off. -/
def countMissedPong (s : LogicalSession) : LogicalSession :=
  let s := inflightRemoveKind { s with pongMissStreak := s.pongMissStreak + 1 } .ping
  let s := { s with pingInflight := false }
  match addU64 s.nowMs pingCadenceMs with
  | some eligible => { s with pingEligibleAtMs := eligible }
  | none => overflowed s

/-- The timeout of the `PING` in flight; the third in a row fences the session. -/
def runPongTimeout (s : LogicalSession) : LogicalSession :=
  if s.pingInflight = true ∧ s.pingDeadlineMs ≤ s.nowMs then
    let s := countMissedPong s
    if pongMissThreshold ≤ s.pongMissStreak then
      armRehello (sessionToLinkUpNoSession s) s.nowMs
    else s
  else s

/-- The echo token of a `PING`. -/
def pingToken (requestId : UInt32) (nowMs : UInt64) : UInt64 :=
  let token := (requestId.toUInt64 <<< 32) ^^^ nowMs ^^^ 0xA5A5A5A5
  if token = 0 then 1 else token

/-- A `PING` is planned. -/
def planPing (s : LogicalSession) : LogicalSession :=
  let r := allocRequestId s
  let token := pingToken r.1 s.nowMs
  let s := actionTryEnqueue r.2
    { kind := .ping, requestId := r.1, sessionGeneration := s.activeGeneration
      sessionCookie := s.activeCookie, echoToken := token }
  (inflightAdd s .ping r.1 token).getD s

/-- The first `PING` of a session is due at once. -/
def armFirstPing (s : LogicalSession) : LogicalSession :=
  if s.firstPingArmed then { s with pingEligibleAtMs := s.nowMs, firstPingArmed := false } else s

/-- A `PING` that is due is planned; a dispatch later than its slack fences the session. -/
def dispatchPing (s : LogicalSession) : LogicalSession :=
  match addU64 s.pingEligibleAtMs pingDispatchSlackMs with
  | none => overflowed s
  | some slackDeadline =>
    if slackDeadline < s.nowMs ∧ s.trackedKind = .none ∧ inflightFindKind s .ping = none then
      if s.actions.any fun a => a.kind == .ping then s
      else armRehello (sessionToLinkUpNoSession s) s.nowMs
    else if inflightFindKind s .ping = none ∧ s.actions.length < txActionMax
        ∧ s.nowMs ≤ s.pingEligibleAtMs + UInt64.ofNat pingDispatchSlackMs then
      planPing s
    else s

/-- The next `PING`, once it is due. -/
def runPingDispatch (s : LogicalSession) : LogicalSession :=
  if s.pingInflight then s
  else if s.firstPingArmed = true ∨ s.pingEligibleAtMs ≤ s.nowMs then dispatchPing (armFirstPing s)
  else armFirstPing s

/-- `run_timers`; the liveness part runs to its end in a session that was active when it began. -/
def runTimers (s : LogicalSession) : LogicalSession :=
  if s.role ≠ .controller then s
  else
    let s := runHelloTimer (runRehelloTimer s)
    if s.state = .sessionActive then runPingDispatch (runPongTimeout s) else s

/-! ### Steps -/

/-- The loop of `drain_rx`, with the frames that may be left. -/
def drainLoop : ℕ → LogicalSession → LogicalSession
  | 0, s => s
  | left + 1, s =>
    match takeRx s.u3 maxPayloadBytes with
    | (.ok, some frame, u3) => drainLoop left (processRxFrame { s with u3 := u3 } frame)
    | (.continuityLost, _, u3) => continuityLoss { s with u3 := u3 }
    | (_, _, u3) => { s with u3 := u3 }

/-- `drain_rx`. -/
def drainRx (s : LogicalSession) : LogicalSession := drainLoop (s.u3.ingress.length + 1) s

/-- `deadline_overflow_pure`. -/
def deadlineOverflowPure (s : LogicalSession) (now : UInt64) : Bool :=
  2 ^ 64 ≤ now.toNat + maxDeadlineAddMs
    || (s.state == .sessionActive && s.role == .controller && !s.pingInflight
      && 2 ^ 64 ≤ (if s.firstPingArmed then now else s.pingEligibleAtMs).toNat + pingDispatchSlackMs)

/-- The inputs of one step: the clock and the stream. -/
structure StepIo where
  now : UInt64
  pump : PumpIo

/-- The part of `ninlil_logical_session_step` before the pump. -/
def prepareStep (s : LogicalSession) (now : UInt64) : LogicalStatus × LogicalSession :=
  trySubmitTracked (runTimers { s with nowMs := now, haveNow := true })

/-- The pump of a step. -/
def pumpStep (s : LogicalSession) (io : PumpIo) : SessionStatus × LogicalSession :=
  let r := pump s.u3 io
  (r.1, { s with u3 := r.2 })

/-- `ninlil_logical_session_step`. -/
def step (s : LogicalSession) (io : StepIo) : LogicalStatus × LogicalSession :=
  if s.state = .disconnected then (.invalidState, s)
  else if s.haveNow = true ∧ io.now < s.nowMs then (.timeRegressed, s)
  else if deadlineOverflowPure s io.now then (.deadlineOverflow, s)
  else
    let submit := prepareStep s io.now
    let pumped := pumpStep submit.2 io.pump
    let resolved := resolveTracked pumped.2
    let applied := applyU3PumpStatus resolved.2 pumped.1
    let status := if resolved.1 ≠ .ok then resolved.1 else submit.1
    let status := if status = .ok then applied.1 else status
    (status, if applied.2.state = .disconnected then applied.2 else drainRx applied.2)

/-! ### Bind and unbind -/

/-- The session as a bind starts it. -/
def startSession (s : LogicalSession) : LogicalSession :=
  let s := clearNotice (clearOrdinaryActions (dropAllInflight (clearActive s)))
  { clearTracked s with
    nextTxSeq := 0
    haveRxSeq := false
    lastRxSeq := 0
    state := .linkUpNoSession
    helloTimerArmed := false
    rehelloArmed := false
    pingInflight := false
    firstPingArmed := false
    pongMissStreak := 0
    trace := .bound :: s.trace }

/-- `ninlil_logical_session_bind`. -/
def bindLogical (s : LogicalSession) (io : BindIo) : LogicalStatus × LogicalSession :=
  if s.state ≠ .disconnected then (.invalidState, s)
  else
    match bind s.u3 io with
    | (.ok, u3) =>
      match logicalEpochBegin u3 with
      | (.ok, epoch, u3) =>
        let s := startSession { s with u3 := u3, epoch := epoch, epochClaimed := true }
        (.ok,
          if s.role = .controller then armRehello s (if s.haveNow then s.nowMs else 0) else s)
      | (status, epoch, u3) =>
        (if status = .epochExhausted then .epochExhausted else .invalidState,
          { s with u3 := (unbind u3).2, epoch := epoch })
    | (_, u3) => (.ioError, { s with u3 := u3 })

/-- The tracked frame of a session that is unbound: cancelled unless its outcome is known. -/
def resolveForUnbind (s : LogicalSession) : LogicalStatus × LogicalSession :=
  if s.trackedKind = .none then (.ok, s)
  else
    match txResolve s.u3 s.trackedToken true with
    | (.ok, resolution, u3) =>
      let s := { s with u3 := u3 }
      match resolution with
      | .rawAcceptedCurrentEpoch => (.ok, clearTracked (harvestAccept s))
      | .rawAcceptedThenFenced => (.continuityLost, clearTracked (harvestAccept s))
      | .indeterminatePartial => (.continuityLost, clearTracked s)
      | .pendingUnaccepted => (.ioError, clearTracked s)
      | _ => (.ok, clearTracked s)
    | (_, _, u3) => (.ioError, { s with u3 := u3 })

/-- The epoch of a session that is unbound. -/
def endEpochForUnbind (s : LogicalSession) : LogicalStatus × LogicalSession :=
  if s.epochClaimed = false then (.ok, s)
  else
    match logicalEpochEnd s.u3 s.epoch with
    | (.ok, u3) => (.ok, { s with u3 := u3, epochClaimed := false })
    | (_, u3) => (.invalidState, { s with u3 := u3 })

/-- What an unbind clears, whether or not the control session lets go. -/
def dropSession (s : LogicalSession) : LogicalSession :=
  { clearActive (clearNotice (clearOrdinaryActions (dropAllInflight s))) with
    haveRxSeq := false, helloTimerArmed := false, rehelloArmed := false, pingInflight := false }

/-- The session after an unbind. -/
def endSession (s : LogicalSession) : LogicalSession :=
  { clearTracked (dropSession s) with
    state := .disconnected, nextTxSeq := 0, epochClaimed := false }

/-- `ninlil_logical_session_unbind`. -/
def unbindLogical (s : LogicalSession) : LogicalStatus × LogicalSession :=
  if s.state = .disconnected then (.ok, s)
  else
    let resolved := resolveForUnbind s
    let ended := endEpochForUnbind resolved.2
    let status := if resolved.1 = .ok then ended.1 else resolved.1
    let r := unbind ended.2.u3
    let s := { ended.2 with u3 := r.2 }
    if r.1 = .ok then (status, endSession s)
    else (if status = .ok then .ioError else status, dropSession s)

/-! ### Runs -/

/-- A call of the session's owner, with the stream's behaviour during it. -/
inductive LogicalCall
  | bind (io : BindIo)
  | unbind
  | step (io : StepIo)

/-- The session after a call. -/
def LogicalSession.call (s : LogicalSession) : LogicalCall → LogicalSession
  | .bind io => (bindLogical s io).2
  | .unbind => (unbindLogical s).2
  | .step io => (Control.step s io).2

/-- `ninlil_logical_session_init`. -/
def LogicalSession.init (config : LogicalConfig) : LogicalSession := { config }

/-- A run of the session from its initialization. -/
def LogicalSession.run (config : LogicalConfig) (calls : List LogicalCall) : LogicalSession :=
  calls.foldl LogicalSession.call (.init config)

end Ninlil.Control
