import Ninlil.FragSession.Open
import Ninlil.FragState.Engine
import Ninlil.R7Frag.Lane

/-!
# Fragment sessions

The receiving side of `ninlil_r7_frag_sess`: the lanes with their replay windows, and the handler of
an outer DATA frame, which opens the hop, opens the message inside and hands its body to the
reassembly engine.

* `Lane`, `Sess`: the state;
* `laneRxPrecheck`, `laneRxAdmit`, `laneTxAlloc`, `genLinkAck`;
* `rxHop`, `rxReplay`, `rxStart`, `rxCont`, `rxAck`, `rxData`: the handler, in the order of its
  steps;
* `installLane`, `setNow`, `tick`, `restart`.

Lanes are only ever added, so the array of lanes is a list in the order of their installation.  A
lane writes its limits to a store when the build has one (`NINLIL_R7_FRAG_SESS_WITH_TEST_DURABLE`);
how such a write ends is an argument of the call (`Storage`), and the build without the store is
the case where every write is stored.
-/

namespace Ninlil.FragSession

open Bytes R7Frag

/-! ### State -/

/-- `NINLIL_R7_FRAG_SESS_*`. -/
inductive Result
  | ok
  | invalid
  | struct
  | resource
  | replay
  | auth
  | fenced
  | durable
  | noPub
  | internal
  deriving DecidableEq

/-- `NINLIL_R7_FRAG_LANE_HOP_DATA`. -/
def laneHopData : UInt8 := 1
/-- `NINLIL_R7_FRAG_LANE_HOP_ACK`. -/
def laneHopAck : UInt8 := 2
/-- `NINLIL_R7_FRAG_LANE_E2E`. -/
def laneE2e : UInt8 := 3
/-- `NINLIL_R7_FRAG_SESS_LANES`. -/
def sessLanes : ℕ := 8

/-- `ninlil_r7_frag_sess_lane`. -/
structure Lane where
  kind : UInt8
  contextId : UInt32
  keyGeneration : UInt64
  txNext : UInt64
  txLimit : UInt64
  rxBootFloor : UInt64
  rxHighest : UInt64
  rxBitmap : UInt64
  rxAcceptThrough : UInt64
  fenced : Bool
  deriving DecidableEq

/-- `ninlil_r7_frag_sess_tx_frag`, as far as an acknowledgement reads or writes it. -/
structure TxFrag where
  transferHandle : UInt64
  fragCount : ℕ
  complete : Bool
  fragAcked : ℕ → Bool
  bitmapFromFragAck : BitVec 16

/-- The keys of `ninlil_r7_frag_sess_keys` that a receiving session uses. -/
structure Keys where
  e2eKey : Key
  e2eIv : Iv
  hopDataKey : Key
  hopDataIv : Iv
  revHopAckKey : Key
  revHopAckIv : Iv

/-- What a session is initialised with. -/
structure Env where
  provider : Provider
  keys : Keys

/-- `ninlil_r7_frag_sess`. -/
structure Sess (P : Profile) where
  reasm : FragState.Engine P
  lanes : List Lane
  tx : Option TxFrag
  nowMono : UInt64
  hopDataContextId : UInt32
  hopAckContextId : UInt32
  keyGeneration : UInt64
  ackedHopDataContextId : UInt32

variable {P : Profile}

/-- `ninlil_r7_frag_sess_init`. -/
def Sess.init (P : Profile) : Sess P := ⟨.init P, [], none, 0, 0, 0, 0, 0⟩

/-- How a write of a lane to the store ends, its recovery included: the new value is there, the
old one is, or the store cannot tell. -/
inductive Write
  | stored
  | refused
  | lost
  deriving DecidableEq

/-- How the writes of one call end. -/
structure Storage where
  hop : Write
  e2e : Write
  reserve : Write
  record : Write
  fenced : Bool

/-- Every write is stored. -/
def Storage.sound : Storage := ⟨.stored, .stored, .stored, .stored, false⟩

/-! ### Lanes -/

/-- The session with one lane overwritten. -/
def Sess.setLane (s : Sess P) (i : ℕ) (L : Lane) : Sess P := { s with lanes := s.lanes.set i L }

/-- The lane carries this kind and context. -/
def Lane.is (L : Lane) (kind : UInt8) (ctx : UInt32) : Bool :=
  L.kind == kind && L.contextId == ctx

/-- `lane_find`: the index of the first lane of a kind and context, and the lane. -/
def laneFind (lanes : List Lane) (kind : UInt8) (ctx : UInt32) : Option (ℕ × Lane) :=
  (lanes.findIdx? fun L => L.is kind ctx).bind fun i => lanes[i]?.map fun L => (i, L)

/-- `map_wire` of an error. -/
def mapWire : R7Frag.Status → Result
  | .ok => .ok
  | .authFailed => .auth
  | .replay => .replay
  | .resource | .capacity => .resource
  | .structural | .lengthClass => .struct
  | _ => .internal

/-- `map_state`. -/
def mapState : FragState.Status → Result
  | .ok | .exactRetry | .duplicate | .needDigest | .published => .ok
  | .conflict | .digest => .struct
  | .resource => .resource
  | .fenced => .fenced
  | .noTransfer => .noPub
  | _ => .internal

/-- The first half of `lane_tx_alloc`: a new block when the last one is used up. -/
def Lane.txGrow (L : Lane) (d : Storage) : Result × Lane :=
  if L.txNext ≠ L.txLimit then (.ok, L)
  else
    match txExclusiveGrow L.txLimit txBlock with
    | none => (.resource, L)
    | some U =>
      match d.reserve with
      | .stored => (.ok, { L with txLimit := U })
      | .refused => (.durable, L)
      | .lost => (.fenced, { L with fenced := true })

/-- `lane_tx_alloc`. -/
def laneTxAlloc (L : Lane) (d : Storage) : Result × Lane × Option UInt64 :=
  if L.fenced then (.fenced, L, none)
  else if d.fenced then (.fenced, L, none)
  else
    match L.txGrow d with
    | (.ok, L') =>
      if txCounterAssignable L'.txNext = false then (.resource, L', none)
      else
        -- the counter stays burned whatever becomes of the write
        match d.record with
        | .lost => (.fenced, { L' with txNext := L'.txNext + 1, fenced := true }, none)
        | _ => (.ok, { L' with txNext := L'.txNext + 1 }, some L'.txNext)
    | (st, L') => (st, L', none)

/-- The part of `lane_rx_precheck` that looks at the window. -/
def Lane.rxReplay (L : Lane) (c : UInt64) : Bool :=
  if c ≤ L.rxBootFloor then true
  else if c ≤ L.rxHighest then
    let delta := L.rxHighest - c
    if delta ≥ 64 then true else (L.rxBitmap >>> delta) &&& 1 != 0
  else false

/-- `lane_rx_precheck`. -/
def laneRxPrecheck (L : Lane) (c : UInt64) : Result :=
  if L.fenced then .fenced
  else if c = 0 ∨ c = u64Max then .struct
  else if L.rxReplay c then .replay
  else .ok

/-- The accept limit that `lane_rx_admit` stores for a counter beyond the last one. -/
def throughFor (c : UInt64) : UInt64 :=
  if c > (u64Max - 1) - 63 then u64Max - 1 else c + 63

/-- The window that `lane_rx_admit` leaves for a counter that passed the check. -/
def Lane.rxMark (L : Lane) (c : UInt64) : Lane :=
  if c > L.rxHighest then
    let delta := c - L.rxHighest
    { L with
      rxBitmap := if delta ≥ 64 then 1 else (L.rxBitmap <<< delta) ||| 1
      rxHighest := c }
  else { L with rxBitmap := L.rxBitmap ||| (1 <<< (L.rxHighest - c)) }

/-- `lane_rx_admit`. -/
def laneRxAdmit (L : Lane) (w : Write) (c : UInt64) : Result × Lane :=
  match laneRxPrecheck L c with
  | .ok =>
    if c > L.rxAcceptThrough then
      match w with
      | .stored => (.ok, { L with rxAcceptThrough := throughFor c }.rxMark c)
      | .refused => (.durable, L)
      | .lost => (.fenced, { L with fenced := true })
    else (.ok, L.rxMark c)
  | st => (st, L)

/-! ### The acknowledgement of a hop -/

/-- `gen_link_ack`; `cap` is the room for the frame. -/
def genLinkAck (env : Env) (s : Sess P) (ackedHopCounter : UInt64) (cap : ℕ) (d : Storage) :
    Sess P × Option (List UInt8) :=
  if cap < 51 then (s, none)
  else
    match laneFind s.lanes laneHopAck s.hopAckContextId with
    | none => (s, none)
    | some (i, L) =>
      match laneTxAlloc L d with
      | (_, L', none) => (s.setLane i L', none)
      | (_, L', some ac) =>
        (s.setLane i L', (sealOuterLinkAck env.provider env.keys.revHopAckKey
          env.keys.revHopAckIv s.hopAckContextId ac
          ⟨s.ackedHopDataContextId, ackedHopCounter, 1, 0⟩).toOption)

/-- A LINK_ACK when the frame asks for one and the caller has room for it. -/
def ackHop (env : Env) (s : Sess P) (f : OuterDataFields) (cap : Option ℕ) (d : Storage) :
    Sess P × Option (List UInt8) :=
  match cap with
  | some room => if f.ackRequested then genLinkAck env s f.hopCounter room d else (s, none)
  | none => (s, none)

/-! ### The handler -/

/-- The result of the handler: its status, the session it leaves, the acknowledgement intent and
the LINK_ACK frame. -/
structure Outcome (P : Profile) where
  status : Result
  sess : Sess P
  intent : FragState.AckIntent
  linkAck : Option (List UInt8)

/-- An early return. -/
def Outcome.stop (st : Result) (s : Sess P) : Outcome P := ⟨st, s, .zero, none⟩

/-- The checks on the frame before any cryptography. -/
def outerStructural (s : Sess P) (frame : List UInt8) : Bool :=
  decide (66 ≤ frame.length) && decide (frame.length ≤ 255) && u8At frame 0 == profileId
    && u8At frame 1 >>> 4 == outerKindData && u8At frame 1 &&& 0x0E == 0
    && (outerDataFields frame).hopContextId == s.hopDataContextId
    && counterOk (outerDataFields frame).hopCounter && (outerDataFields frame).routeOk

/-- Steps 1 to 4 of `ninlil_r7_frag_sess_rx_data`: the hop is checked, opened and admitted. -/
def rxHop (env : Env) (s : Sess P) (frame : List UInt8) (d : Storage) :
    Except (Result × Sess P) (OuterDataFields × List UInt8 × Sess P) :=
  match laneFind s.lanes laneHopData s.hopDataContextId with
  | none => .error (.struct, s)
  | some (i, Lhop) =>
    if outerStructural s frame = false then .error (.struct, s)
    else
      match laneRxPrecheck Lhop (outerDataFields frame).hopCounter with
      | .ok =>
        match openOuterData env.provider env.keys.hopDataKey env.keys.hopDataIv frame with
        | .error st => .error (mapWire st, s)
        | .ok (f, blob) =>
          match laneRxAdmit Lhop d.hop f.hopCounter with
          | (.ok, L') => .ok (f, blob, s.setLane i L')
          | (st, L') => .error (st, s.setLane i L')
      | st => .error (st, s)

/-- The input of the engine for a START. -/
def startIn (ctx : UInt32) (keyGeneration : UInt64) (body : StartBody) (first : List UInt8)
    (fingerprint : Digest) : FragState.StartIn where
  e2eContextId := ctx
  keyGeneration := keyGeneration
  transferId := body.transferId
  transferHandle := body.transferHandle
  totalLen := body.totalLen
  fragCount := body.fragCount
  continuationUnit := body.continuationUnit
  contentDigest := body.contentDigest
  fingerprint := fingerprint
  firstChunk := first

/-- The fingerprint of a START, zero where the hash fails: its status is not looked at. -/
def fingerprintOrZero (env : Env) (body : StartBody) (first : List UInt8) : Digest :=
  match startFingerprint env.provider.toProvider body first with
  | .ok fp => fp
  | .error _ => Vector.replicate 32 0

/-- The engine input of a replayed message: a START that opens. -/
def replayedStart (env : Env) (s : Sess P) (hdr : E2eFields) (blob : List UInt8) :
    Option FragState.StartIn :=
  if hdr.e2eType = e2eTypeStart then
    match openE2eStart env.provider env.keys.e2eKey env.keys.e2eIv blob with
    | .ok (ef, body, first) =>
      some (startIn ef.e2eContextId s.keyGeneration body first (fingerprintOrZero env body first))
    | .error _ => none
  else none

/-- The branch of a message whose counter was seen before. -/
def rxReplay (env : Env) (s : Sess P) (f : OuterDataFields) (hdr : E2eFields) (blob : List UInt8)
    (cap : Option ℕ) (d : Storage) : Outcome P :=
  let (s', ack) := ackHop env s f cap d
  match replayedStart env s' hdr blob with
  | some inp =>
    match FragState.admitStart s'.reasm inp with
    | (.exactRetry, eng, intent) => ⟨.ok, { s' with reasm := eng }, intent, ack⟩
    | (_, eng, _) => ⟨.ok, { s' with reasm := eng }, .zero, ack⟩
  | none => ⟨.ok, s', .zero, ack⟩

/-- The end of the handler: a LINK_ACK for a body that was taken. -/
def acceptBody (env : Env) (s : Sess P) (f : OuterDataFields) (intent : FragState.AckIntent)
    (st : Result) (cap : Option ℕ) (d : Storage) : Outcome P :=
  let (s', ack) := ackHop env s f cap d
  ⟨st, s', intent, ack⟩

/-- The branch of a START; `i` is the index of its lane `Le`. -/
def rxStart (env : Env) (s : Sess P) (f : OuterDataFields) (i : ℕ) (Le : Lane) (blob : List UInt8)
    (cap : Option ℕ) (d : Storage) : Outcome P :=
  match openE2eStart env.provider env.keys.e2eKey env.keys.e2eIv blob with
  | .error st => .stop (mapWire st) s
  | .ok (ef, body, first) =>
    match laneRxAdmit Le d.e2e ef.e2eCounter with
    | (.ok, L') =>
      let s' := s.setLane i L'
      match startFingerprint env.provider.toProvider body first with
      | .error st => .stop (mapWire st) s'
      | .ok fp =>
        match FragState.admitStart s'.reasm
            (startIn ef.e2eContextId s'.keyGeneration body first fp) with
        | (.ok, eng, intent) => acceptBody env { s' with reasm := eng } f intent .ok cap d
        | (.exactRetry, eng, intent) => acceptBody env { s' with reasm := eng } f intent .ok cap d
        | (st, eng, _) => .stop (mapState st) { s' with reasm := eng }
    | (st, L') => .stop st (s.setLane i L')

/-- `finalize_if_needed` after a CONT that the engine answered with `st`. -/
def finalizeIfNeeded (env : Env) (eng : FragState.Engine P) (ctx : UInt32) (handle : UInt64)
    (intent : FragState.AckIntent) (st : FragState.Status) :
    Result × FragState.Engine P × FragState.AckIntent :=
  if st ≠ .needDigest then (mapState st, eng, intent)
  else
    match FragState.peekReassembled eng ctx handle with
    | .error _ => (.internal, eng, intent)
    | .ok pay =>
      match env.provider.sha256 pay with
      | .error _ => (.internal, eng, intent)
      | .ok dig =>
        let (st', eng', intent') := FragState.finalize eng ctx handle dig
        (mapState st', eng', intent')

/-- The input of the engine for a CONT. -/
def contIn (ctx : UInt32) (keyGeneration : UInt64) (body : ContBody) (chunk : List UInt8) :
    FragState.ContIn :=
  ⟨ctx, keyGeneration, body.transferHandle, body.fragIndex, chunk, none⟩

/-- The branch of a CONT. -/
def rxCont (env : Env) (s : Sess P) (f : OuterDataFields) (i : ℕ) (Le : Lane) (blob : List UInt8)
    (cap : Option ℕ) (d : Storage) : Outcome P :=
  match openE2eCont env.provider env.keys.e2eKey env.keys.e2eIv blob with
  | .error st => .stop (mapWire st) s
  | .ok (ef, body, chunk) =>
    match laneRxAdmit Le d.e2e ef.e2eCounter with
    | (.ok, L') =>
      let s' := s.setLane i L'
      let (st, eng, intent) := FragState.admitCont s'.reasm
        (contIn ef.e2eContextId s'.keyGeneration body chunk)
      if st = .noTransfer then .stop .noPub { s' with reasm := eng }
      else if st = .ok ∨ st = .duplicate ∨ st = .needDigest then
        let (rs, eng', intent') := finalizeIfNeeded env eng ef.e2eContextId body.transferHandle
          intent st
        acceptBody env { s' with reasm := eng' } f intent' rs cap d
      else .stop (mapState st) { s' with reasm := eng }
    | (st, L') => .stop st (s.setLane i L')

/-- `ninlil_r7_frag_sess_tx_apply_frag_ack`. -/
def txApplyFragAck (s : Sess P) (body : AckBody) : Result × Sess P :=
  match s.tx with
  | none => (.invalid, s)
  | some tx =>
    if body.transferHandle ≠ tx.transferHandle then (.struct, s)
    else if body.fragCount ≠ tx.fragCount ∨ ackBodyOk body = false then (.struct, s)
    else if body.status = statusComplete ∨ body.status = statusAbort then
      (.ok, { s with tx := some { tx with
        bitmapFromFragAck := body.receivedBitmap
        complete := true
        fragAcked := fun k => decide (k < tx.fragCount) || tx.fragAcked k } })
    else
      (.ok, { s with tx := some { tx with
        bitmapFromFragAck := body.receivedBitmap
        fragAcked := fun k =>
          (decide (k < tx.fragCount) && body.receivedBitmap.getLsbD k) || tx.fragAcked k } })

/-- The branch of an acknowledgement. -/
def rxAck (env : Env) (s : Sess P) (f : OuterDataFields) (i : ℕ) (Le : Lane) (blob : List UInt8)
    (cap : Option ℕ) (d : Storage) : Outcome P :=
  match openE2eAck env.provider env.keys.e2eKey env.keys.e2eIv blob with
  | .error st => .stop (mapWire st) s
  | .ok (ef, body) =>
    match laneRxAdmit Le d.e2e ef.e2eCounter with
    | (.ok, L') =>
      match txApplyFragAck (s.setLane i L') body with
      | (.ok, s') => acceptBody env s' f .zero .ok cap d
      | (st, s') => .stop st s'
    | (st, L') => .stop st (s.setLane i L')

/-- `ninlil_r7_frag_sess_rx_data`. -/
def rxData (env : Env) (s : Sess P) (frame : List UInt8) (cap : Option ℕ) (d : Storage) :
    Outcome P :=
  match rxHop env s frame d with
  | .error (st, s') => .stop st s'
  | .ok (f, blob, s') =>
    match structuralE2eHeader blob with
    | .error st => .stop (mapWire st) s'
    | .ok hdr =>
      match laneFind s'.lanes laneE2e hdr.e2eContextId with
      | none => .stop .struct s'
      | some (i, Le) =>
        match laneRxPrecheck Le hdr.e2eCounter with
        | .replay => rxReplay env s' f hdr blob cap d
        | .ok =>
          if hdr.e2eType = e2eTypeStart then rxStart env s' f i Le blob cap d
          else if hdr.e2eType = e2eTypeCont then rxCont env s' f i Le blob cap d
          else if hdr.e2eType = e2eTypeAck then rxAck env s' f i Le blob cap d
          else .stop .struct s'
        | st => .stop st s'

/-! ### The other calls -/

/-- `ninlil_r7_frag_sess_set_now`. -/
def setNow (s : Sess P) (now : UInt64) : Sess P :=
  { s with nowMono := now, reasm := FragState.setNow s.reasm now }

/-- `ninlil_r7_frag_sess_tick`. -/
def tick (s : Sess P) (now : UInt64) : Result × Sess P :=
  let (st, eng) := FragState.tick s.reasm now
  (mapState st, { s with nowMono := now, reasm := eng })

/-- `ninlil_r7_frag_sess_take_publication`. -/
def takePublication (s : Sess P) (outCap : ℕ) : Result × Sess P × Option (List UInt8) :=
  let (st, eng, p) := FragState.takePublication s.reasm outCap
  (mapState st, { s with reasm := eng }, p.map fun q => q.payload)

/-- What a new lane of a kind does to the ids of a session. -/
def Sess.adopt (s : Sess P) (kind : UInt8) (contextId : UInt32) (keyGeneration : UInt64) : Sess P :=
  if kind = laneHopData then
    { s with hopDataContextId := contextId, ackedHopDataContextId := contextId, keyGeneration }
  else if kind = laneHopAck then { s with hopAckContextId := contextId, keyGeneration }
  else { s with keyGeneration }

/-- The lane that `ninlil_r7_frag_sess_install_lane` writes. -/
def Lane.installed (kind : UInt8) (contextId : UInt32) (keyGeneration : UInt64) : Lane :=
  ⟨kind, contextId, keyGeneration, 1, 1, 0, 0, 0, 0, false⟩

/-- `ninlil_r7_frag_sess_install_lane`. -/
def installLane (s : Sess P) (kind : UInt8) (contextId : UInt32) (keyGeneration : UInt64)
    (w : Write) : Result × Sess P :=
  if keyGeneration = 0 ∨ contextOk contextId = false then (.invalid, s)
  else if (laneFind s.lanes kind contextId).isSome then (.struct, s)
  else if s.lanes.length ≥ sessLanes then (.resource, s)
  else if w ≠ .stored then (.durable, s)
  else
    (.ok, { s.adopt kind contextId keyGeneration with
      lanes := s.lanes ++ [.installed kind contextId keyGeneration] })

/-- A lane after a restart: everything up to its accept limit counts as seen. -/
def Lane.restarted (L : Lane) : Lane :=
  { L with rxHighest := L.rxAcceptThrough, rxBootFloor := L.rxAcceptThrough, rxBitmap := 0 }

/-- `ninlil_r7_frag_sess_restart_decode` of what `ninlil_r7_frag_sess_restart_encode` wrote: the
lanes and the clock come back, everything else is as after `init`. -/
def restart (s : Sess P) : Sess P :=
  let fresh : Sess P := { Sess.init P with nowMono := s.nowMono }
  let adopted := s.lanes.foldl (fun t L => t.adopt L.kind L.contextId L.keyGeneration) fresh
  { adopted with
    lanes := s.lanes.map Lane.restarted
    reasm := FragState.setNow (.init P) s.nowMono }

end Ninlil.FragSession
