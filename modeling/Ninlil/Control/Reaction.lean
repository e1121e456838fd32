import Ninlil.Control.Logical
import Ninlil.Control.Receive

/-!
# What a logical session does with a frame

The inversion of the receive path: every received frame has one of a dozen effects.

* `TxSide`, `Local`: the transmit side of a session, and the changes that leave it alone;
* `Reaction`, `processRxFrame_reaction`: the effects of a frame, with their guards;
* `HelloPlan`, `onValidHelloCell_plan`: how a Cell answers a `HELLO`;
* `drainLoop_rule`: what every frame keeps, a drain keeps.
-/

namespace Ninlil.Control

/-! ### The transmit side -/

/-- The events that number the transmitted frames. -/
def SessionEvent.numbers : SessionEvent → Bool
  | .bound | .restarted | .harvested _ => true
  | _ => false

/-- What neither a received frame nor a timer touches. -/
structure TxSide where
  config : LogicalConfig
  nowMs : UInt64
  nextTxSeq : UInt32
  trackedKind : TrackedKind
  trackedTxKind : TxKind
  trackedToken : UInt64
  trackedSequence : UInt32
  trackedGeneration : UInt32
  trackedCookie : UInt64
  trackedHelloResult : UInt16
  trackedResetCode : UInt8
  epoch : LogicalEpoch
  epochClaimed : Bool
  /-- The control session without its receive side. -/
  core : Session
  numbering : List SessionEvent

def LogicalSession.txSide (s : LogicalSession) : TxSide where
  config := s.config
  nowMs := s.nowMs
  nextTxSeq := s.nextTxSeq
  trackedKind := s.trackedKind
  trackedTxKind := s.trackedTxKind
  trackedToken := s.trackedToken
  trackedSequence := s.trackedSequence
  trackedGeneration := s.trackedGeneration
  trackedCookie := s.trackedCookie
  trackedHelloResult := s.trackedHelloResult
  trackedResetCode := s.trackedResetCode
  epoch := s.epoch
  epochClaimed := s.epochClaimed
  core := rxOnlyColdApply s.u3
  numbering := s.trace.filter SessionEvent.numbers

/-- A change that leaves the transmit side alone. -/
structure Local (s s' : LogicalSession) : Prop where
  side : s'.txSide = s.txSide
  rx : RxOk s.u3 → RxOk s'.u3
  up : s.state ≠ .disconnected → s'.state ≠ .disconnected

theorem Local.refl (s : LogicalSession) : Local s s := ⟨rfl, id, id⟩

theorem Local.trans {s₁ s₂ s₃ : LogicalSession} (h : Local s₁ s₂) (h' : Local s₂ s₃) :
    Local s₁ s₃ :=
  ⟨h'.side.trans h.side, fun hr => h'.rx (h.rx hr), fun hu => h'.up (h.up hu)⟩

variable {P : LogicalSession → Prop}

section Effects

variable {s : LogicalSession}

theorem Local.role {s' : LogicalSession} (h : Local s s') : s'.role = s.role :=
  congrArg (fun side => side.config.role) h.side

theorem local_fence (s : LogicalSession) : Local s (sessionToLinkUpNoSession s) :=
  ⟨rfl, id, fun _ => nofun⟩

theorem local_arm (s : LogicalSession) (deadline : UInt64) : Local s (armRehello s deadline) :=
  ⟨rfl, id, id⟩

theorem local_overflowed (s : LogicalSession) : Local s (overflowed s) := ⟨rfl, id, id⟩

theorem local_fenceAndRehello (s : LogicalSession) : Local s (fenceAndRehello s) := by
  unfold fenceAndRehello
  dsimp only
  split_ifs
  · exact (local_fence s).trans (local_arm _ _)
  · exact local_fence s

theorem core_logicalRxCold (u : Session) (epoch : LogicalEpoch) :
    rxOnlyColdApply (logicalRxCold u epoch).2 = rxOnlyColdApply u := by
  unfold logicalRxCold
  split_ifs <;> rfl

theorem rxOk_logicalRxCold {u : Session} (h : RxOk u) (epoch : LogicalEpoch) :
    RxOk (logicalRxCold u epoch).2 := by
  unfold logicalRxCold
  split_ifs
  · exact h
  · exact rxOk_cold u

theorem local_rxOnlyCold (s : LogicalSession) : Local s (rxOnlyCold s) := by
  unfold rxOnlyCold
  split_ifs
  · refine ⟨?_, fun h => rxOk_logicalRxCold h _, id⟩
    simp only [LogicalSession.txSide, core_logicalRxCold]
  · exact ⟨rfl, id, id⟩

theorem local_alloc (s : LogicalSession) : Local s (allocRequestId s).2 := ⟨rfl, id, id⟩

theorem local_actionTryEnqueue (s : LogicalSession) (a : TxAction) :
    Local s (actionTryEnqueue s a) := by
  unfold actionTryEnqueue actionEnqueue
  split_ifs <;> exact ⟨rfl, id, id⟩

/-- A rejection is counted, or fences. -/
theorem noteLogicalReject_cases (s : LogicalSession)
    (hcounts : ∀ n, P { s with logicalRejectStreak := n })
    (hfences : P (fenceAndRehello { s with logicalRejectStreak := 0 })) :
    P (noteLogicalReject s) := by
  unfold noteLogicalReject
  dsimp only
  generalize (if s.logicalRejectStreak < seqMax then s.logicalRejectStreak + 1
    else s.logicalRejectStreak) = streak
  split_ifs
  · exact hcounts _
  · exact hfences
  · exact hcounts 0

/-- An error is queued, or is not due yet. -/
theorem maybeEnqueueCtrlError_cases (s : LogicalSession)
    (code : UInt16) (requestId : UInt32) (hwaits : ∀ times, P { s with ctrlErrorTimes := times })
    (hqueues : ∀ times generation cookie, P (actionTryEnqueue { s with ctrlErrorTimes := times }
      { kind := .ctrlError, requestId, sessionGeneration := generation, sessionCookie := cookie,
        errorCode := code })) :
    P (maybeEnqueueCtrlError s code requestId) := by
  unfold maybeEnqueueCtrlError ctrlErrorRateAllow
  dsimp only
  generalize (if ctrlErrorRateWindowMs ≤ s.nowMs then s.nowMs - ctrlErrorRateWindowMs
    else 0) = start
  split_ifs
  · exact hwaits _
  · exact hqueues _ _ _

/-- A jitter is a draw, or none. -/
theorem applyHelloJitter_draws (s : LogicalSession) (baseMs : UInt32) :
    ∃ n, (applyHelloJitter s baseMs).2 = { s with jitterDraws := n } := by
  unfold applyHelloJitter
  dsimp only
  split_ifs
  · exact ⟨_, rfl⟩
  · split
    · exact ⟨_, rfl⟩
    · split_ifs <;> exact ⟨_, rfl⟩

theorem local_noteLogicalReject (s : LogicalSession) : Local s (noteLogicalReject s) := by
  refine noteLogicalReject_cases (P := Local s) s (fun _ => ⟨rfl, id, id⟩) ?_
  exact .trans ⟨rfl, id, id⟩ (local_fenceAndRehello _)

theorem local_ctrlError (s : LogicalSession) (code : UInt16) (requestId : UInt32) :
    Local s (maybeEnqueueCtrlError s code requestId) := by
  refine maybeEnqueueCtrlError_cases (P := Local s) s code requestId (fun _ => ⟨rfl, id, id⟩)
    fun times _ _ => ?_
  have hrate : Local s { s with ctrlErrorTimes := times } := ⟨rfl, id, id⟩
  exact hrate.trans (local_actionTryEnqueue _ _)

theorem local_removeIndex (s : LogicalSession) (i : Fin inflightMax) :
    Local s (inflightRemoveIndex s i) := by
  unfold inflightRemoveIndex
  split_ifs <;> exact ⟨rfl, id, id⟩

theorem inflightAdd_eq_some {kind : InflightKind} {requestId : UInt32} {echoToken : UInt64}
    {s' : LogicalSession} (h : inflightAdd s kind requestId echoToken = some s') :
    ∃ i, inflightFindKind s .none = some i ∧ s' = { s with
      inflight := Function.update s.inflight i { kind, requestId, deadlineMs := 0, echoToken }
      inflightCount := s.inflightCount + 1 } := by
  unfold inflightAdd at h
  split_ifs at h
  split at h
  · cases h
  · rename_i i hi
    exact ⟨i, hi, (Option.some.inj h).symm⟩

theorem local_armHelloTimer (s : LogicalSession) (delayMs : UInt32) :
    Local s (armHelloTimer s delayMs).2 := by
  have hjitter : Local s (applyHelloJitter s delayMs).2 := by
    obtain ⟨n, hn⟩ := applyHelloJitter_draws s delayMs
    rw [hn]
    exact ⟨rfl, id, id⟩
  unfold armHelloTimer
  dsimp only
  split
  · exact hjitter.trans (local_overflowed _)
  · exact hjitter.trans ⟨rfl, id, id⟩

theorem local_continuityLoss (s : LogicalSession) : Local s (continuityLoss s) := by
  unfold continuityLoss
  split_ifs
  · have hfenced := (local_rxOnlyCold s).trans (local_fence (rxOnlyCold s))
    unfold cellContinuityLoss
    dsimp only
    split
    · exact hfenced
    · exact (hfenced.trans (local_alloc _)).trans ⟨rfl, id, id⟩
  · exact (local_rxOnlyCold s).trans (local_fenceAndRehello _)

theorem local_handleResetAccepted (s : LogicalSession) (code : UInt8) :
    Local s (handleResetAccepted s code) := by
  unfold handleResetAccepted
  dsimp only
  split_ifs
  · split
    · exact (local_fence s).trans (local_overflowed _)
    · exact (local_fence s).trans (local_arm _ _)
  · exact local_fence s
  · exact (local_rxOnlyCold s).trans (local_fenceAndRehello _)
  · exact local_fenceAndRehello s
  · exact .refl s

theorem local_onMatchedHelloAck (s : LogicalSession) (i : Fin inflightMax) (m : Message)
    (result : UInt16) : Local s (onMatchedHelloAck s i m result) := by
  unfold onMatchedHelloAck
  dsimp only
  split_ifs
  · exact (local_removeIndex s i).trans ⟨rfl, id, fun _ => nofun⟩
  · refine .trans ?_ (local_armHelloTimer _ _)
    exact (local_removeIndex s i).trans ⟨rfl, id, fun _ => nofun⟩

theorem local_onMatchedPong (s : LogicalSession) (i : Fin inflightMax) :
    Local s (onMatchedPong s i) := by
  unfold onMatchedPong
  dsimp only
  split
  · exact (local_removeIndex s i).trans ⟨rfl, id, id⟩
  · exact (local_removeIndex s i).trans ⟨rfl, id, id⟩

theorem local_cellPrepareHelloAck (s : LogicalSession) (requestId : UInt32) :
    Local s (cellPrepareHelloAck s requestId).2 := by
  unfold cellPrepareHelloAck
  dsimp only
  split_ifs
  · exact ⟨rfl, id, id⟩
  · split
    · exact ⟨rfl, id, fun _ => nofun⟩
    · exact ⟨rfl, id, fun _ => nofun⟩

theorem local_onValidHelloCell (s : LogicalSession) (requestId : UInt32) (fenceFirst : Bool) :
    Local s (onValidHelloCell s requestId fenceFirst) := by
  have hbase : Local s (if fenceFirst then sessionToLinkUpNoSession (clearNotice s)
      else clearNotice s) := by
    split_ifs
    · exact @Local.trans s (clearNotice s) _ ⟨rfl, id, id⟩ (local_fence _)
    · exact ⟨rfl, id, id⟩
  unfold onValidHelloCell
  dsimp only
  generalize (if fenceFirst then sessionToLinkUpNoSession (clearNotice s) else clearNotice s) = t
    at hbase
  have hcancel :
      Local t (if t.state = .helloReceived then cancelPendingHelloAckActions t else t) := by
    split_ifs
    · exact ⟨rfl, id, id⟩
    · exact .refl t
  have hplan := (hbase.trans hcancel).trans (local_cellPrepareHelloAck _ requestId)
  split
  · rename_i heq
    rw [heq] at hplan
    exact hplan
  · rename_i heq
    rw [heq] at hplan
    exact hplan.trans (local_noteLogicalReject _)

theorem local_accept (s : LogicalSession) (seq : UInt32) : Local s (acceptRxSequence s seq) :=
  ⟨rfl, id, id⟩

theorem local_bootstrapRestart (s : LogicalSession) (seq : UInt32) (m : Message) :
    Local s (bootstrapRestart s seq m) := by
  unfold bootstrapRestart
  dsimp only
  refine .trans (.trans ?_ (local_accept _ _)) (local_onValidHelloCell _ _ _)
  refine @Local.trans s _ _ ?_ (local_rxOnlyCold _)
  exact ⟨rfl, id, id⟩

end Effects

/-! ### Reactions -/

/-- The sequence number of a frame is the one a Controller takes its messages under. -/
def inSequence (s : LogicalSession) (fr : FrameFields) : Bool :=
  fr.streamOrCellId == 0 && fr.sequence != seqMax
    && (if s.haveRxSeq then fr.sequence == s.lastRxSeq + 1
      else controllerResync s fr || fr.sequence == 0)

/-- What a received frame can do to a session. -/
inductive Reaction (s : LogicalSession) (fr : FrameFields) : LogicalSession → Prop
  /-- Counted as a rejection, its sequence number not taken. -/
  | rejected : Reaction s fr (noteLogicalReject s)
  /-- Its sequence number breaks continuity. -/
  | lost : Reaction s fr (continuityLoss s)
  /-- Counted as a rejection, its sequence number taken. -/
  | ignored : Reaction s fr (noteLogicalReject (acceptRxSequence s fr.sequence))
  /-- Rejected with a `CTRL_ERROR`. -/
  | answered (code : UInt16) :
      Reaction s fr
        (maybeEnqueueCtrlError (noteLogicalReject (acceptRxSequence s fr.sequence)) code 0)
  /-- A `HELLO`; an active Cell gets here only without a receive baseline. -/
  | hello {m : Message} (role : s.role = .cell) (decoded : decodeMessage fr.payload fr.type = .ok m)
      (valid : isValidHelloBootstrap m = true)
      (guard : s.state = .sessionActive → s.haveRxSeq = false) :
      Reaction s fr (onValidHelloCell (acceptRxSequence s fr.sequence) m.requestId false)
  /-- A `HELLO` in sequence to an active Cell. -/
  | halfOpen {m : Message} (role : s.role = .cell)
      (decoded : decodeMessage fr.payload fr.type = .ok m) (valid : isValidHelloBootstrap m = true) :
      Reaction s fr (onValidHelloCell (acceptRxSequence s fr.sequence) m.requestId true)
  /-- A `HELLO` under an old sequence number. -/
  | restart {m : Message} (role : s.role = .cell)
      (decoded : decodeMessage fr.payload fr.type = .ok m) (valid : isValidHelloBootstrap m = true) :
      Reaction s fr (bootstrapRestart s fr.sequence m)
  /-- A `HELLO_ACK` that answers the `HELLO` in flight. -/
  | acked {m : Message} {version flags result reserved : UInt16} {i : Fin inflightMax}
      (role : s.role = .controller) (decoded : decodeMessage fr.payload fr.type = .ok m)
      (body : m.body = .helloAck version flags result reserved)
      (valid : semanticHelloAck m version flags result = true) (unreserved : reserved = 0)
      (taken : inSequence s fr = true) (found : inflightFindKind s .hello = some i)
      (id : (s.inflight i).requestId = m.requestId) :
      Reaction s fr (onMatchedHelloAck (acceptRxSequence s fr.sequence) i m result)
  /-- A `PING` to an active Cell. -/
  | pinged {m : Message} {echoToken : UInt64} (role : s.role = .cell)
      (active : s.state = .sessionActive) :
      Reaction s fr (actionTryEnqueue (acceptRxSequence s fr.sequence)
        { kind := .pong, requestId := m.requestId, sessionGeneration := s.activeGeneration
          sessionCookie := s.activeCookie, echoToken })
  /-- A `PONG` that answers the `PING` in flight. -/
  | ponged {i : Fin inflightMax} (role : s.role = .controller) (active : s.state = .sessionActive)
      (found : inflightFindKind s .ping = some i) :
      Reaction s fr (onMatchedPong (acceptRxSequence s fr.sequence) i)
  /-- A `RESET` of the active session. -/
  | reset {code : UInt8} (active : s.state = .sessionActive)
      (closed : resetCodeIsClosed code = true) :
      Reaction s fr (handleResetAccepted (acceptRxSequence s fr.sequence) code)

section Inversion

variable {s : LogicalSession} {fr : FrameFields}

theorem isValidHelloBootstrap_of_semantic {m : Message} {low high flags reserved : UInt16}
    (hb : m.body = .hello low high flags reserved)
    (hs : semanticHelloBootstrap m low high flags = true) (hr : reserved = 0) :
    isValidHelloBootstrap m = true := by
  unfold isValidHelloBootstrap
  rw [hb]
  unfold semanticHelloBootstrap at hs
  simp only [Bool.and_eq_true] at hs ⊢
  exact ⟨hs, by rw [hr]; rfl⟩

theorem peekValidHelloBootstrap_eq_some {payload : List UInt8} {m : Message}
    (h : peekValidHelloBootstrap payload = some m) :
    decodeMessage payload ncg1TypeData = .ok m ∧ isValidHelloBootstrap m = true := by
  unfold peekValidHelloBootstrap at h
  split at h
  · rename_i m' hd
    split_ifs at h with hv
    cases h
    exact ⟨hd, hv⟩
  · cases h

theorem cellBootstrap_eq_some {m : Message} (h : cellBootstrap s fr = some m) :
    s.role = .cell ∧ decodeMessage fr.payload fr.type = .ok m ∧ isValidHelloBootstrap m = true := by
  unfold cellBootstrap at h
  split_ifs at h with hc
  obtain ⟨hd, hv⟩ := peekValidHelloBootstrap_eq_some h
  exact ⟨hc.1, by rw [hc.2]; exact hd, hv⟩

/-- A valid `HELLO` in a frame of a known type is one that may reset a Cell's sequence. -/
theorem cellBootstrap_of_decoded {m : Message} (htype : fr.type ≠ 0) (hrole : s.role = .cell)
    (hd : decodeMessage fr.payload fr.type = .ok m) (hv : isValidHelloBootstrap m = true) :
    cellBootstrap s fr = some m := by
  have hbody : ∃ low high flags reserved, m.body = .hello low high flags reserved := by
    unfold isValidHelloBootstrap at hv
    split at hv
    · exact ⟨_, _, _, _, ‹_›⟩
    · cases hv
  have hdata : fr.type = ncg1TypeData := by
    obtain ⟨low, high, flags, reserved, hb⟩ := hbody
    rw [decodeMessage_binding hd htype, hb]
    rfl
  rw [cellBootstrap, if_pos ⟨hrole, hdata⟩, peekValidHelloBootstrap, ← hdata, hd]
  exact if_pos hv

/-- The messages after a taken sequence number. -/
theorem processNcl1AfterSeq_reaction (htype : fr.type ≠ 0) (hseq : inSequence s fr = true)
    (guard : s.state = .sessionActive → cellBootstrap s fr ≠ none → s.haveRxSeq = false) :
    Reaction s fr (processNcl1AfterSeq (acceptRxSequence s fr.sequence) fr.type fr.payload) := by
  unfold processNcl1AfterSeq
  split_ifs
  · exact .ignored
  · split
    · exact .answered _
    · exact .answered _
    · exact .ignored
    · rename_i m hd
      split
      · exact .ignored
      · rename_i low high flags reserved hb
        unfold onHello
        split_ifs with hrole hsem hres
        · exact .ignored
        · exact .ignored
        · exact .ignored
        · have hcell : s.role = .cell := by
            cases hr : s.role with
            | controller => exact absurd hr hrole
            | cell => rfl
          have hv := isValidHelloBootstrap_of_semantic hb (Bool.not_eq_false _ ▸ hsem)
            (not_not.1 hres)
          refine .hello hcell hd hv fun hact => guard hact ?_
          rw [cellBootstrap_of_decoded htype hcell hd hv]
          exact nofun
      · rename_i version flags result reserved hb
        unfold onHelloAck
        split_ifs with hrole hsem hres
        · exact .ignored
        · exact .ignored
        · exact .ignored
        · split
          · exact .ignored
          · rename_i i hi
            split_ifs with hid
            · exact .ignored
            · exact .acked (not_not.1 hrole) hd hb (Bool.not_eq_false _ ▸ hsem)
                (not_not.1 hres) hseq hi
                (not_not.1 hid)
      · rename_i echoToken hb
        unfold onPing
        split_ifs with hact _ _ _ hrole
        · exact .ignored
        · exact .ignored
        · exact .ignored
        · exact .ignored
        · exact .pinged hrole (not_not.1 hact)
        · exact .ignored
      · rename_i echoToken hb
        unfold onPong
        split_ifs with hstate
        · exact .ignored
        · exact .ignored
        · obtain ⟨hrole, hact⟩ := not_or.1 hstate
          split
          · exact .ignored
          · rename_i i hi
            split_ifs
            · exact .ignored
            · exact .ponged (not_not.1 hrole) (not_not.1 hact) hi
      · rename_i code _ _ _ hb
        unfold onReset
        split_ifs with _ hclosed hact
        · exact .ignored
        · exact .ignored
        · exact .ignored
        · exact .ignored
        · exact .ignored
        · exact .reset (not_not.1 hact) (Bool.not_eq_false _ ▸ hclosed)

/-- **The inversion of the receive path.** -/
theorem processRxFrame_reaction (htype : fr.type ≠ 0) : Reaction s fr (processRxFrame s fr) := by
  unfold processRxFrame
  split_ifs with h1 h2 hbase h4 h5 h6
  · exact .rejected
  · exact .lost
  · -- no baseline yet
    have hncl1 : controllerResync s fr = true ∨ fr.sequence = 0 → Reaction s fr
        (processNcl1AfterSeq (acceptRxSequence s fr.sequence) fr.type fr.payload) := by
      intro htaken
      refine processNcl1AfterSeq_reaction htype ?_ fun _ _ => hbase
      simpa [inSequence, hbase, not_not.1 h1, h2] using htaken
    have hnormal : Reaction s fr
        (if controllerResync s fr then
          processNcl1AfterSeq (acceptRxSequence s fr.sequence) fr.type fr.payload
        else if fr.sequence ≠ 0 then noteLogicalReject s
        else processNcl1AfterSeq (acceptRxSequence s fr.sequence) fr.type fr.payload) := by
      split_ifs with hre hzero
      · exact hncl1 (.inl hre)
      · exact .rejected
      · exact hncl1 (.inr (not_not.1 hzero))
    unfold processWithoutBaseline
    dsimp only
    split
    · rename_i m hm
      by_cases hst : s.state = .linkUpNoSession ∨ s.state = .helloReceived
      · obtain ⟨hrole, hd, hv⟩ := cellBootstrap_eq_some hm
        rw [if_pos hst]
        exact .hello hrole hd hv fun _ => hbase
      · rw [if_neg hst]
        exact hnormal
    · exact hnormal
  · split
    · rename_i m hm
      obtain ⟨hrole, hd, hv⟩ := cellBootstrap_eq_some hm
      exact .restart hrole hd hv
    · exact .rejected
  · split
    · rename_i m hm
      obtain ⟨hrole, hd, hv⟩ := cellBootstrap_eq_some hm
      exact .restart hrole hd hv
    · exact .lost
  · exact .lost
  · have hseq : inSequence s fr = true := by
      simp [inSequence, hbase, not_not.1 h1, not_not.1 h6]
      exact fun hmax => h2 ((not_not.1 h6).trans hmax)
    unfold processContinuous
    dsimp only
    split
    · rename_i m hm
      split_ifs with hact
      · obtain ⟨hrole, hd, hv⟩ := cellBootstrap_eq_some hm
        exact .halfOpen hrole hd hv
      · exact processNcl1AfterSeq_reaction htype hseq fun hact' => absurd hact' hact
    · rename_i hm
      refine processNcl1AfterSeq_reaction htype hseq fun _ hne => absurd ?_ hne
      exact hm

/-- A received frame leaves the transmit side alone. -/
theorem Reaction.isLocal {s' : LogicalSession} (h : Reaction s fr s') : Local s s' := by
  have hacc := local_accept s fr.sequence
  cases h with
  | rejected => exact local_noteLogicalReject s
  | lost => exact local_continuityLoss s
  | ignored => exact hacc.trans (local_noteLogicalReject _)
  | answered code => exact (hacc.trans (local_noteLogicalReject _)).trans (local_ctrlError _ _ _)
  | hello | halfOpen => exact hacc.trans (local_onValidHelloCell _ _ _)
  | restart => exact local_bootstrapRestart s _ _
  | acked => exact hacc.trans (local_onMatchedHelloAck _ _ _ _)
  | pinged => exact hacc.trans (local_actionTryEnqueue _ _)
  | ponged => exact hacc.trans (local_onMatchedPong _ _)
  | reset => exact hacc.trans (local_handleResetAccepted _ _)

end Inversion

/-! ### Answering a `HELLO` -/

/-- The session once a `HELLO` was taken and the acknowledgements queued before it were dropped. -/
def readyForHello (s : LogicalSession) (fenceFirst : Bool) : LogicalSession :=
  cancelPendingHelloAckActions
    (if fenceFirst then sessionToLinkUpNoSession (clearNotice s) else clearNotice s)

/-- How a Cell answers a `HELLO`. -/
inductive HelloPlan (s : LogicalSession) (requestId : UInt32) : LogicalSession → Prop
  /-- There is no room for an answer. -/
  | full (full : txActionMax ≤ s.actions.length) : HelloPlan s requestId (noteLogicalReject s)
  /-- There is no cookie, or no generation left. -/
  | busy {draws : ℕ} (room : s.actions.length < txActionMax) :
      HelloPlan s requestId { s with
        cookieDraws := draws
        state := .helloReceived
        actions := s.actions ++ [{ kind := .helloAck, requestId, helloResult := helloBusy }] }
  /-- A fresh generation and a cookie are offered. -/
  | ok {draws : ℕ} {cookie : UInt64} (room : s.actions.length < txActionMax) (nonzero : cookie ≠ 0)
      (left : s.lastIssuedGeneration ≠ seqMax) :
      HelloPlan s requestId { s with
        cookieDraws := draws
        state := .helloReceived
        actions := s.actions ++ [
          { kind := .helloAck, requestId, sessionGeneration := s.lastIssuedGeneration + 1
            sessionCookie := cookie, helloResult := helloOk }]
        lastIssuedGeneration := s.lastIssuedGeneration + 1
        trace := .acknowledged requestId (s.lastIssuedGeneration + 1) cookie :: s.trace }

theorem drawCookie_ne_zero (rng : ℕ → Option UInt64) (left draws : ℕ) {cookie : UInt64}
    (h : (drawCookie rng left draws).1 = some cookie) : cookie ≠ 0 := by
  induction left generalizing draws with
  | zero => cases h
  | succ left ih =>
    unfold drawCookie at h
    split at h
    · cases h
    · split_ifs at h with hv
      · cases h
        exact hv
      · exact ih _ h

theorem cellPrepareHelloAck_plan (s : LogicalSession) (requestId : UInt32) :
    HelloPlan (cancelPendingHelloAckActions s) requestId
      (match cellPrepareHelloAck s requestId with
      | (true, s) => s
      | (false, s) => noteLogicalReject s) := by
  unfold cellPrepareHelloAck
  dsimp only
  generalize cancelPendingHelloAckActions s = t
  by_cases hfull : t.actions.length ≥ txActionMax
  · rw [if_pos hfull]
    exact .full hfull
  · rw [if_neg hfull]
    have hroom : t.actions.length < txActionMax := not_le.1 hfull
    have hdraw := @drawCookie_ne_zero t.config.cookieRng cookieRedrawMax t.cookieDraws
    generalize drawCookie t.config.cookieRng cookieRedrawMax t.cookieDraws = draw at hdraw
    unfold peekNextGeneration
    dsimp only
    split_ifs with hmax
    · cases draw.1 <;> exact .busy hroom
    · cases hd : draw.1 with
      | none => exact .busy hroom
      | some cookie => exact .ok hroom (hdraw hd) hmax

theorem cancelPendingHelloAckActions_idem (s : LogicalSession) :
    cancelPendingHelloAckActions (cancelPendingHelloAckActions s) =
      cancelPendingHelloAckActions s := by
  unfold cancelPendingHelloAckActions
  simp

theorem onValidHelloCell_plan (s : LogicalSession) (requestId : UInt32) (fenceFirst : Bool) :
    HelloPlan (readyForHello s fenceFirst) requestId (onValidHelloCell s requestId fenceFirst) := by
  unfold onValidHelloCell readyForHello
  dsimp only
  generalize (if fenceFirst then sessionToLinkUpNoSession (clearNotice s) else clearNotice s) = t
  have hplan := cellPrepareHelloAck_plan
    (if t.state = .helloReceived then cancelPendingHelloAckActions t else t) requestId
  have hidem : cancelPendingHelloAckActions
      (if t.state = .helloReceived then cancelPendingHelloAckActions t else t) =
        cancelPendingHelloAckActions t := by
    split_ifs
    · exact cancelPendingHelloAckActions_idem t
    · rfl
  rw [hidem] at hplan
  exact hplan

/-! ### Draining -/

/-- The next frame is taken off the ingress queue. -/
def popRx (s : LogicalSession) (rest : List FrameFields) : LogicalSession :=
  { s with u3 := { s.u3 with ingress := rest } }

/-- A drain processes a frame of a given kind. -/
def drainMeets (bad : LogicalSession → FrameFields → Bool) : ℕ → LogicalSession → Bool
  | 0, _ => false
  | left + 1, s =>
    match takeRx s.u3 maxPayloadBytes with
    | (.ok, some frame, u3) =>
      bad { s with u3 := u3 } frame
        || drainMeets bad left (processRxFrame { s with u3 := u3 } frame)
    | _ => false

section Draining

variable {s : LogicalSession}

theorem takeRx_cases (u : Session) (capacity : ℕ) :
    (∃ fr rest, u.ingress = fr :: rest ∧
      takeRx u capacity = (.ok, some fr, { u with ingress := rest })) ∨
    ∃ st, st ≠ .ok ∧ takeRx u capacity = (st, none, u) := by
  unfold takeRx
  split_ifs
  · exact .inr ⟨.continuityLost, nofun, rfl⟩
  · exact .inr ⟨.invalidState, nofun, rfl⟩
  · split
    · exact .inr ⟨.needMore, nofun, rfl⟩
    · rename_i fr rest heq
      split_ifs
      · exact .inr ⟨.invalidArgument, nofun, rfl⟩
      · exact .inl ⟨fr, rest, heq, rfl⟩

theorem RxOk.pop {u : Session} (h : RxOk u) {fr : FrameFields} {rest : List FrameFields}
    (hq : u.ingress = fr :: rest) : RxOk { u with ingress := rest } ∧ fr.type ≠ 0 := by
  have hmem : ∀ f ∈ rest, f ∈ u.ingress := fun f hf => by rw [hq]; exact List.mem_cons_of_mem _ hf
  refine ⟨⟨h.settled, fun f hf => h.known f (hmem f hf), fun f hf => h.logged f (hmem f hf)⟩, ?_⟩
  intro h0
  have hknown := h.known fr (by rw [hq]; exact List.mem_cons_self)
  rw [h0] at hknown
  exact absurd hknown (by decide)

/-- The rule of a drain: what every frame and a lost epoch keep. -/
theorem drainLoop_rule {bad : LogicalSession → FrameFields → Bool}
    (hframe : ∀ s fr rest s', P s → s.u3.ingress = fr :: rest → bad (popRx s rest) fr = false →
      Reaction (popRx s rest) fr s' → P s')
    (hlost : ∀ s, P s → P (continuityLoss s)) (left : ℕ) (hs : P s) (hrx : RxOk s.u3)
    (hgood : drainMeets bad left s = false) : P (drainLoop left s) := by
  induction left generalizing s with
  | zero => exact hs
  | succ left ih =>
    rcases takeRx_cases s.u3 maxPayloadBytes with ⟨fr, rest, hq, htake⟩ | ⟨st, hne, htake⟩
    · obtain ⟨hrx', htype⟩ := hrx.pop hq
      rw [drainMeets, htake] at hgood
      obtain ⟨hbad, hrest⟩ := Bool.or_eq_false_iff.1 hgood
      have hreact : Reaction (popRx s rest) fr (processRxFrame (popRx s rest) fr) :=
        processRxFrame_reaction htype
      rw [drainLoop, htake]
      exact ih (hframe s fr rest _ hs hq hbad hreact) (hreact.isLocal.rx hrx') hrest
    · rw [drainLoop, htake]
      split
      · rename_i heq
        cases heq
      · rename_i heq
        cases heq
        exact hlost _ hs
      · rename_i heq
        cases heq
        exact hs

theorem drainMeets_false (left : ℕ) : drainMeets (fun _ _ => false) left s = false := by
  induction left generalizing s with
  | zero => rfl
  | succ left ih =>
    rw [drainMeets]
    split
    · exact ih
    · rfl

/-- The rule of a drain without a kind of frame to avoid. -/
theorem drainRx_rule
    (hframe : ∀ s fr rest s', P s → s.u3.ingress = fr :: rest →
      Reaction (popRx s rest) fr s' → P s')
    (hlost : ∀ s, P s → P (continuityLoss s)) (hs : P s) (hrx : RxOk s.u3) : P (drainRx s) :=
  drainLoop_rule (fun s fr rest s' hs hq _ => hframe s fr rest s' hs hq) hlost _ hs hrx
    (drainMeets_false _)

theorem local_drainRx (hrx : RxOk s.u3) : Local s (drainRx s) := by
  have hrule : Local s (drainRx s) ∧ RxOk (drainRx s).u3 := by
    refine @drainRx_rule (fun t => Local s t ∧ RxOk t.u3) s ?_ ?_ ⟨.refl s, hrx⟩ hrx
    · rintro t fr rest t' ⟨ht, hrx⟩ hq hreact
      have hpop : Local t (popRx t rest) := ⟨rfl, fun _ => (hrx.pop hq).1, id⟩
      have hlocal := hpop.trans hreact.isLocal
      exact ⟨ht.trans hlocal, hlocal.rx hrx⟩
    · rintro t ⟨ht, hrx⟩
      exact ⟨ht.trans (local_continuityLoss t), (local_continuityLoss t).rx hrx⟩
  exact hrule.1

end Draining

/-! ### Timers -/

section Timers

variable (s : LogicalSession)

theorem local_inflightAdd {s s' : LogicalSession} {kind : InflightKind} {requestId : UInt32}
    {echoToken : UInt64} (h : inflightAdd s kind requestId echoToken = some s') : Local s s' := by
  obtain ⟨i, -, rfl⟩ := inflightAdd_eq_some h
  exact ⟨rfl, id, id⟩

theorem local_removeKind (kind : InflightKind) : Local s (inflightRemoveKind s kind) := by
  unfold inflightRemoveKind
  split
  · exact local_removeIndex s _
  · exact .refl s

theorem local_planHello : Local s (planHello s) := by
  refine .trans ?_ (local_removeKind _ .hello)
  exact ⟨rfl, id, id⟩

theorem local_armPlannedHello (isRetry : Bool) : Local s (armPlannedHello s isRetry).2 := by
  unfold armPlannedHello
  split_ifs
  · exact local_armHelloTimer s _
  · refine .trans ?_ (local_armHelloTimer _ _)
    exact ⟨rfl, id, id⟩

theorem local_scheduleControllerHello (isRetry : Bool) :
    Local s (scheduleControllerHello s isRetry).2 := by
  unfold scheduleControllerHello
  dsimp only
  split_ifs
  · exact .refl s
  · exact .refl s
  · split
    · exact local_planHello s
    · rename_i planned hadd
      refine .trans ((local_planHello s).trans (local_inflightAdd hadd)) ?_
      refine .trans ?_ (local_armPlannedHello _ isRetry)
      exact ⟨rfl, id, fun _ => nofun⟩

theorem local_runRehelloTimer : Local s (runRehelloTimer s) := by
  have hsched := local_scheduleControllerHello s false
  unfold runRehelloTimer
  split_ifs
  · split
    · rename_i heq
      rw [heq] at hsched
      exact hsched.trans ⟨rfl, id, id⟩
    · rename_i heq
      rw [heq] at hsched
      exact hsched
  · exact ⟨rfl, id, id⟩
  · exact .refl s

theorem local_runHelloTimer : Local s (runHelloTimer s) := by
  have hsched := local_scheduleControllerHello s true
  unfold runHelloTimer
  split_ifs
  · split
    · rename_i heq
      rw [heq] at hsched
      exact hsched
    · rename_i heq
      rw [heq] at hsched
      exact hsched.trans (local_armHelloTimer _ _)
  · exact .refl s

theorem local_countMissedPong : Local s (countMissedPong s) := by
  have hrem :
      Local s (inflightRemoveKind { s with pongMissStreak := s.pongMissStreak + 1 } .ping) := by
    refine .trans ?_ (local_removeKind _ .ping)
    exact ⟨rfl, id, id⟩
  unfold countMissedPong
  dsimp only
  split
  · exact hrem.trans ⟨rfl, id, id⟩
  · exact hrem.trans ⟨rfl, id, id⟩

theorem local_runPongTimeout : Local s (runPongTimeout s) := by
  unfold runPongTimeout
  dsimp only
  split_ifs
  · exact ((local_countMissedPong s).trans (local_fence _)).trans (local_arm _ _)
  · exact local_countMissedPong s
  · exact .refl s

theorem local_planPing : Local s (planPing s) := by
  have hq := (local_alloc s).trans (local_actionTryEnqueue (allocRequestId s).2
    { kind := .ping, requestId := (allocRequestId s).1, sessionGeneration := s.activeGeneration
      sessionCookie := s.activeCookie, echoToken := pingToken (allocRequestId s).1 s.nowMs })
  unfold planPing
  dsimp only
  generalize actionTryEnqueue (allocRequestId s).2 _ = q at hq
  cases hadd : inflightAdd q .ping (allocRequestId s).1 (pingToken (allocRequestId s).1 s.nowMs) with
  | none => exact hq
  | some t => exact hq.trans (local_inflightAdd hadd)

theorem local_dispatchPing : Local s (dispatchPing s) := by
  unfold dispatchPing
  split
  · exact local_overflowed s
  · split_ifs
    · exact .refl s
    · exact (local_fence s).trans (local_arm _ _)
    · exact local_planPing s
    · exact .refl s

theorem local_runPingDispatch : Local s (runPingDispatch s) := by
  have hfirst : Local s (armFirstPing s) := by
    unfold armFirstPing
    split_ifs
    · exact ⟨rfl, id, id⟩
    · exact .refl s
  unfold runPingDispatch
  split_ifs
  · exact .refl s
  · exact hfirst.trans (local_dispatchPing _)
  · exact hfirst

theorem local_runTimers : Local s (runTimers s) := by
  unfold runTimers
  dsimp only
  have hhello := (local_runRehelloTimer s).trans (local_runHelloTimer _)
  split_ifs
  · exact .refl s
  · exact (hhello.trans (local_runPongTimeout _)).trans (local_runPingDispatch _)
  · exact hhello

end Timers

end Ninlil.Control
