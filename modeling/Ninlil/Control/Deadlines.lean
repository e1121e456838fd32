import Ninlil.Control.Rehello

/-!
# The deadlines of a step

A step adds delays to its clock, and the slack of a `PING` to the time it is due; the precheck of
the step has room for every one of them.

* `Room`: the clock of the session is `maxDeadlineAddMs` away from its end;
* `Paced`: the next `HELLO` waits at most `helloRetryMaxMs`, and no deadline has overflowed;
* `deadlines_fit`: every deadline of every step of every run fits.
-/

namespace Ninlil.Control

/-! ### Sums that fit -/

/-- The branch of `add_u64_overflow` for a sum that fits. -/
theorem addU64_of_fits {base : UInt64} {delay : ℕ} (h : base.toNat + delay < 2 ^ 64) :
    addU64 base delay = some (base + UInt64.ofNat delay) := if_neg (not_le.2 h)

/-- A sum that is found to fit does not wrap. -/
theorem addU64_eq_some {base deadline : UInt64} {delay : ℕ} (h : addU64 base delay = some deadline) :
    base + UInt64.ofNat delay = deadline ∧ deadline.toNat = base.toNat + delay := by
  unfold addU64 at h
  split_ifs at h with hover
  obtain rfl := Option.some.inj h
  refine ⟨rfl, ?_⟩
  rw [UInt64.toNat_add, UInt64.toNat_ofNat', Nat.mod_eq_of_lt (show delay < 2 ^ 64 by omega),
    Nat.mod_eq_of_lt (not_le.1 hover)]

/-- The clock of the session has room for every delay. -/
def Room (s : LogicalSession) : Prop := s.nowMs.toNat + maxDeadlineAddMs < 2 ^ 64

/-- What the deadlines to come and those so far are judged by. -/
def LogicalSession.pace (s : LogicalSession) : UInt32 × ℕ := (s.helloRetryDelayMs, s.overflows)

/-- The session waits at most `helloRetryMaxMs`, jitter apart, for its next `HELLO`, and no deadline
of its has overflowed. -/
structure Paced (s : LogicalSession) : Prop where
  retry : s.helloRetryDelayMs ≤ helloRetryMaxMs
  fits : s.overflows = 0

section Pace

variable {s s' : LogicalSession}

theorem Paced.congr (h : Paced s) (heq : s'.pace = s.pace) : Paced s' where
  retry := by
    rw [show s'.helloRetryDelayMs = s.helloRetryDelayMs from congrArg Prod.fst heq]
    exact h.retry
  fits := (congrArg Prod.snd heq).trans h.fits

theorem room_of_now {now : UInt64} (h : now.toNat + maxDeadlineAddMs < 2 ^ 64)
    (heq : s.nowMs = now) : Room s := by
  unfold Room
  rw [heq]
  exact h

theorem Local.room (h : Local s s') (hroom : Room s) : Room s' :=
  room_of_now hroom (congrArg Prod.snd h.setting)

theorem Room.addU64 (h : Room s) {delay : ℕ} (hd : delay ≤ maxDeadlineAddMs) :
    addU64 s.nowMs delay = some (s.nowMs + UInt64.ofNat delay) :=
  addU64_of_fits (lt_of_le_of_lt (Nat.add_le_add_left hd _) h)

/-- The jitter adds at most a fifth of the delay. -/
theorem applyHelloJitter_le (s : LogicalSession) {baseMs : UInt32} (h : baseMs ≤ helloRetryMaxMs) :
    (applyHelloJitter s baseMs).1.toNat ≤ maxDeadlineAddMs := by
  have hbase : baseMs.toNat ≤ 5000 := UInt32.le_iff_toNat_le.1 h
  have hspan : (baseMs * 40 / 100).toNat = baseMs.toNat * 40 / 100 := by
    rw [UInt32.toNat_div, UInt32.toNat_mul]
    exact congrArg (· / 100) (Nat.mod_eq_of_lt (by
      show baseMs.toNat * 40 < 2 ^ 32
      omega))
  have hstay : baseMs.toNat ≤ maxDeadlineAddMs := by
    unfold maxDeadlineAddMs
    omega
  unfold applyHelloJitter
  dsimp only
  generalize baseMs * 40 / 100 = span at hspan
  split_ifs with hzero
  · exact hstay
  · split
    · exact hstay
    · rename_i unit hunit
      generalize hdelta : (if unit > span then span else unit) = delta
      have hle : delta.toNat ≤ span.toNat := by
        rw [← hdelta]
        split_ifs with hover
        · exact le_rfl
        · exact UInt32.le_iff_toNat_le.1 (UInt32.not_lt.1 hover)
      have hhalf : (span / 2).toNat = span.toNat / 2 := UInt32.toNat_div span 2
      unfold maxDeadlineAddMs
      split_ifs with hlow
      · -- the deadline comes earlier
        have hlow' : delta.toNat ≤ (span / 2).toNat := UInt32.le_iff_toNat_le.1 hlow
        have hback : (span / 2 - delta).toNat = (span / 2).toNat - delta.toNat :=
          UInt32.toNat_sub_of_le _ _ hlow
        have hle' : span / 2 - delta ≤ baseMs := by
          rw [UInt32.le_iff_toNat_le]
          omega
        have hsum : (baseMs - (span / 2 - delta)).toNat = baseMs.toNat - (span / 2 - delta).toNat :=
          UInt32.toNat_sub_of_le _ _ hle'
        dsimp only
        omega
      · have hhigh : span / 2 ≤ delta := UInt32.le_of_lt (UInt32.not_le.1 hlow)
        have hforth : (delta - span / 2).toNat = delta.toNat - (span / 2).toNat :=
          UInt32.toNat_sub_of_le _ _ hhigh
        have hsum : (baseMs + (delta - span / 2)).toNat =
            baseMs.toNat + (delta - span / 2).toNat := by
          rw [UInt32.toNat_add]
          refine Nat.mod_eq_of_lt ?_
          omega
        dsimp only
        omega

theorem nextRetryDelay_le (delayMs : UInt32) : nextRetryDelay delayMs ≤ helloRetryMaxMs := by
  unfold nextRetryDelay
  split_ifs with hzero hover
  · decide
  · exact UInt32.le_refl _
  · have hsmall : delayMs.toNat ≤ 2500 := UInt32.le_iff_toNat_le.1 (UInt32.not_lt.1 hover)
    rw [UInt32.le_iff_toNat_le, UInt32.toNat_mul]
    have hmod : delayMs.toNat * helloBackoffMult.toNat % 2 ^ 32 =
        delayMs.toNat * helloBackoffMult.toNat := Nat.mod_eq_of_lt (by
      show delayMs.toNat * 2 < 2 ^ 32
      omega)
    rw [hmod]
    show delayMs.toNat * 2 ≤ 5000
    omega

theorem pace_fence (s : LogicalSession) :
    (sessionToLinkUpNoSession s).pace = s.pace := rfl

theorem pace_arm (s : LogicalSession) (deadline : UInt64) :
    (armRehello s deadline).pace = s.pace := rfl

theorem pace_cold (s : LogicalSession) :
    (rxOnlyCold s).pace = s.pace := rfl

theorem pace_clearTracked (s : LogicalSession) :
    (clearTracked s).pace = s.pace := rfl

theorem pace_fenceAndRehello (s : LogicalSession) :
    (fenceAndRehello s).pace = s.pace := by
  unfold fenceAndRehello
  dsimp only
  split_ifs <;> rfl

theorem pace_reject (s : LogicalSession) :
    (noteLogicalReject s).pace = s.pace := by
  exact noteLogicalReject_cases (P := fun t => t.pace = s.pace) s (fun _ => rfl)
    (pace_fenceAndRehello _)

theorem pace_continuityLoss (s : LogicalSession) :
    (continuityLoss s).pace = s.pace := by
  unfold continuityLoss
  split_ifs
  · unfold cellContinuityLoss
    dsimp only
    split <;> rfl
  · exact pace_fenceAndRehello _

theorem pace_actionTryEnqueue (s : LogicalSession) (a : TxAction) :
    (actionTryEnqueue s a).pace = s.pace := by
  unfold actionTryEnqueue actionEnqueue
  split_ifs <;> rfl

theorem pace_ctrlError (s : LogicalSession) (code : UInt16) (requestId : UInt32) :
    (maybeEnqueueCtrlError s code requestId).pace = s.pace := by
  refine maybeEnqueueCtrlError_cases (P := fun t => t.pace = s.pace) s code requestId
    (fun _ => rfl) ?_
  exact fun _ _ _ => pace_actionTryEnqueue _ _

theorem pace_removeIndex (s : LogicalSession) (i : Fin inflightMax) :
    (inflightRemoveIndex s i).pace = s.pace := by
  unfold inflightRemoveIndex
  split_ifs <;> rfl

theorem pace_removeKind (s : LogicalSession) (kind : InflightKind) :
    (inflightRemoveKind s kind).pace = s.pace := by
  unfold inflightRemoveKind
  split
  · exact pace_removeIndex s _
  · rfl

theorem pace_onMatchedPong (hroom : Room s) (i : Fin inflightMax) :
    (onMatchedPong s i).pace = s.pace := by
  have hrem := pace_removeIndex s i
  unfold onMatchedPong
  dsimp only
  rw [((local_removeIndex s i).room hroom).addU64 (by decide)]
  exact hrem

/-- The delay after a reset fits. -/
theorem pace_rehello (hroom : Room s) :
    (match addU64 (sessionToLinkUpNoSession s).nowMs rehelloAfterResetMs with
      | none => overflowed (sessionToLinkUpNoSession s)
      | some deadline => armRehello (sessionToLinkUpNoSession s) deadline).pace = s.pace := by
  rw [((local_fence s).room hroom).addU64 (by decide)]
  rfl

theorem pace_reset (hroom : Room s) (code : UInt8) :
    (handleResetAccepted s code).pace = s.pace := by
  unfold handleResetAccepted
  dsimp only
  split_ifs
  · exact pace_rehello hroom
  · rfl
  · exact pace_fenceAndRehello _
  · exact pace_fenceAndRehello _
  · rfl

theorem pace_onValidHelloCell (s : LogicalSession) (requestId : UInt32) (fenceFirst : Bool) :
    (onValidHelloCell s requestId fenceFirst).pace = s.pace := by
  have hready : (readyForHello s fenceFirst).pace = s.pace := by
    unfold readyForHello
    split_ifs <;> rfl
  have hplan := onValidHelloCell_plan s requestId fenceFirst
  generalize onValidHelloCell s requestId fenceFirst = t at hplan
  cases hplan with
  | full => exact (pace_reject _).trans hready
  | busy | ok => exact hready

theorem pace_clears (s : LogicalSession) :
    (clearNotice (clearOrdinaryActions (dropAllInflight (clearActive s)))).pace = s.pace := rfl

theorem pace_accept (s : LogicalSession) (seq : UInt32) :
    (acceptRxSequence s seq).pace = s.pace := rfl

theorem pace_bootstrapRestart (s : LogicalSession) (seq : UInt32) (m : Message) :
    (bootstrapRestart s seq m).pace = s.pace := by
  unfold bootstrapRestart
  dsimp only
  rw [pace_onValidHelloCell, pace_accept, pace_cold, pace_clears]

/-- A timer is armed with the delay it was asked for; the jitter still fits. -/
theorem paced_armHelloTimer (h : Paced s) (hroom : Room s) {delayMs : UInt32}
    (hd : delayMs ≤ helloRetryMaxMs) : Paced (armHelloTimer s delayMs).2 := by
  have hjitter : (applyHelloJitter s delayMs).2.pace = s.pace := by
    obtain ⟨n, hn⟩ := applyHelloJitter_draws s delayMs
    rw [hn]
    rfl
  unfold armHelloTimer
  dsimp only
  rw [hroom.addU64 (applyHelloJitter_le s hd)]
  exact ⟨hd, (h.congr hjitter).fits⟩

theorem retryInitial_le : helloRetryInitialMs ≤ helloRetryMaxMs := by decide

theorem paced_armPlannedHello (h : Paced s) (hroom : Room s) (isRetry : Bool) :
    Paced (armPlannedHello s isRetry).2 := by
  have hfirst : Paced { s with helloRetryDelayMs := helloRetryInitialMs } :=
    ⟨retryInitial_le, h.fits⟩
  unfold armPlannedHello
  split_ifs
  · exact paced_armHelloTimer h hroom (nextRetryDelay_le _)
  · exact paced_armHelloTimer hfirst hroom retryInitial_le

theorem paced_planHello (h : Paced s) : Paced (planHello s) :=
  h.congr ((pace_removeKind _ _).trans rfl)

theorem paced_scheduleControllerHello (h : Paced s) (hroom : Room s) (isRetry : Bool) :
    Paced (scheduleControllerHello s isRetry).2 := by
  unfold scheduleControllerHello
  dsimp only
  split_ifs
  · exact h
  · exact h
  · split
    · exact paced_planHello h
    · rename_i planned hadd
      have hadded := (local_inflightAdd hadd).room ((local_planHello s).room hroom)
      obtain ⟨i, -, rfl⟩ := inflightAdd_eq_some hadd
      refine paced_armPlannedHello ?_ ?_ isRetry
      · exact (paced_planHello h).congr rfl
      · exact hadded

theorem paced_runRehelloTimer (h : Paced s) (hroom : Room s) : Paced (runRehelloTimer s) := by
  have hsched := paced_scheduleControllerHello h hroom false
  unfold runRehelloTimer
  split_ifs
  · split
    · rename_i heq
      rw [heq] at hsched
      exact hsched.congr rfl
    · rename_i heq
      rw [heq] at hsched
      exact hsched
  · exact h.congr rfl
  · exact h

/-- The delay of a `HELLO` that could not be planned. -/
theorem retryDelay_le (h : Paced s) :
    (if s.helloRetryDelayMs ≠ 0 then s.helloRetryDelayMs else helloRetryInitialMs) ≤
      helloRetryMaxMs := by
  split_ifs
  · exact h.retry
  · decide

theorem paced_runHelloTimer (h : Paced s) (hroom : Room s) : Paced (runHelloTimer s) := by
  have hsched := paced_scheduleControllerHello h hroom true
  have hroom' := (local_scheduleControllerHello s true).room hroom
  unfold runHelloTimer
  split_ifs
  · split
    · rename_i heq
      rw [heq] at hsched
      exact hsched
    · rename_i heq
      rw [heq] at hsched hroom'
      exact paced_armHelloTimer hsched hroom' (retryDelay_le hsched)
  · exact h

theorem pace_countMissedPong (hroom : Room s) : (countMissedPong s).pace = s.pace := by
  have hrem := pace_removeKind { s with pongMissStreak := s.pongMissStreak + 1 } .ping
  have hroom' := (local_removeKind { s with pongMissStreak := s.pongMissStreak + 1 } .ping).room hroom
  unfold countMissedPong
  dsimp only
  rw [hroom'.addU64 (by decide)]
  exact hrem

theorem pace_runPongTimeout (hroom : Room s) : (runPongTimeout s).pace = s.pace := by
  have hmiss := pace_countMissedPong hroom
  unfold runPongTimeout
  dsimp only
  split_ifs
  · exact (pace_arm _ _).trans ((pace_fence _).trans hmiss)
  · exact hmiss
  · rfl

theorem pace_planPing (s : LogicalSession) :
    (planPing s).pace = s.pace := by
  unfold planPing
  dsimp only
  generalize hplan : actionTryEnqueue (allocRequestId s).2 _ = q
  have hq : q.pace = s.pace := by
    rw [← hplan]
    exact pace_actionTryEnqueue _ _
  generalize pingToken (allocRequestId s).1 s.nowMs = token
  cases hadd : inflightAdd q .ping (allocRequestId s).1 token with
  | none => exact hq
  | some t =>
    obtain ⟨i, -, rfl⟩ := inflightAdd_eq_some hadd
    exact hq

/-- A `PING` is looked at once it is due, so its slack is counted from now at the latest. -/
theorem pace_dispatchPing (hroom : Room s) (hdue : s.pingEligibleAtMs ≤ s.nowMs) :
    (dispatchPing s).pace = s.pace := by
  have hfits : s.pingEligibleAtMs.toNat + pingDispatchSlackMs < 2 ^ 64 := by
    have hle := UInt64.le_iff_toNat_le.1 hdue
    unfold Room maxDeadlineAddMs at hroom
    unfold pingDispatchSlackMs
    omega
  unfold dispatchPing
  rw [addU64_of_fits hfits]
  dsimp only
  split_ifs
  · rfl
  · rfl
  · exact pace_planPing s
  · rfl

/-- The first `PING` of a session is due now; a later one when it was made eligible. -/
theorem pace_runPingDispatch (hroom : Room s) : (runPingDispatch s).pace = s.pace := by
  unfold runPingDispatch armFirstPing
  split_ifs with hping hfirst hdue
  · rfl
  · exact pace_dispatchPing hroom (UInt64.le_refl _)
  · exact pace_dispatchPing hroom (hfirst.resolve_left hdue)
  · rfl
  · rfl

theorem paced_runTimers (h : Paced s) (hroom : Room s) : Paced (runTimers s) := by
  have hre := (local_runRehelloTimer s).room hroom
  have hhello := paced_runHelloTimer (paced_runRehelloTimer h hroom) hre
  have hlive := (local_runHelloTimer _).room hre
  have hpong := (local_runPongTimeout _).room hlive
  unfold runTimers
  dsimp only
  split_ifs
  · exact h
  · exact hhello.congr ((pace_runPingDispatch hpong).trans (pace_runPongTimeout hlive))
  · exact hhello

/-! ### A step -/

/-- A received frame arms a refused `HELLO` with its first delay, and no other. -/
theorem Paced.reaction {fr : FrameFields} (h : Paced s) (hroom : Room s) (hr : Reaction s fr s') :
    Paced s' := by
  have hacc : Room (acceptRxSequence s fr.sequence) := hroom
  cases hr with
  | rejected => exact h.congr (pace_reject s)
  | lost => exact h.congr (pace_continuityLoss s)
  | ignored => exact h.congr (pace_reject _)
  | answered code => exact h.congr ((pace_ctrlError _ _ _).trans (pace_reject _))
  | hello | halfOpen => exact h.congr (pace_onValidHelloCell _ _ _)
  | restart => exact h.congr (pace_bootstrapRestart s _ _)
  | @acked m version flags result reserved i =>
    have hrem : Paced (inflightRemoveIndex (acceptRxSequence s fr.sequence) i) :=
      h.congr (pace_removeIndex _ _)
    have hroom' := (local_removeIndex _ i).room hacc
    unfold onMatchedHelloAck
    dsimp only
    split_ifs
    · exact hrem.congr rfl
    · refine paced_armHelloTimer (hrem.congr ?_) ?_ retryInitial_le
      · rfl
      · exact hroom'
  | pinged => exact h.congr (pace_actionTryEnqueue _ _)
  | ponged => exact h.congr (pace_onMatchedPong hacc _)
  | reset => exact h.congr (pace_reset hacc _)

/-- Every received frame finds the clock of the step. -/
theorem paced_drain (hrx : RxOk s.u3) (h : Paced s) (hroom : Room s) : Paced (drainRx s) := by
  have hrule : Room (drainRx s) ∧ Paced (drainRx s) := by
    refine @drainRx_rule (fun t => Room t ∧ Paced t) s ?_ ?_ ⟨hroom, h⟩ hrx
    · rintro t fr rest t' ⟨htroom, ht⟩ _ hreact
      have hpop : Room (popRx t rest) ∧ Paced (popRx t rest) := ⟨htroom, ht.congr rfl⟩
      exact ⟨hreact.isLocal.room hpop.1, hpop.2.reaction hpop.1 hreact⟩
    · rintro t ⟨htroom, ht⟩
      exact ⟨(local_continuityLoss t).room htroom, ht.congr (pace_continuityLoss t)⟩
  exact hrule.2

theorem pace_submission (hs : Submission s s') : s'.pace = s.pace := by
  cases hs with
  | exhausted =>
    unfold applyTxSeqTerminalExhaust
    dsimp only
    split_ifs <;> rfl
  | _ => rfl

theorem paced_prepare (h : Paced s) {now : UInt64} (hnow : now.toNat + maxDeadlineAddMs < 2 ^ 64) :
    Paced (prepareStep s now).2 := by
  have htimers : Paced (runTimers { s with nowMs := now, haveNow := true }) :=
    paced_runTimers (h.congr rfl) hnow
  exact htimers.congr (pace_submission (trySubmitTracked_submission _))

theorem pace_setInflightDeadline (s : LogicalSession) (kind : InflightKind) (deadline : UInt64) :
    (setInflightDeadline s kind deadline).pace = s.pace := by
  unfold setInflightDeadline
  split <;> rfl

/-- The deadlines of a raw accept. -/
theorem pace_onRawAccepted (h : Paced s) (hroom : Room s) : (onRawAccepted s).pace = s.pace := by
  have hheard : Room (harvestAccept s) := hroom
  unfold onRawAccepted
  dsimp only
  split_ifs
  · rfl
  · split
    · unfold onAckAccepted
      split_ifs <;> rfl
    · have hdelay : (harvestAccept s).helloRetryDelayMs.toNat ≤ maxDeadlineAddMs :=
        (UInt32.le_iff_toNat_le.1 h.retry).trans (by decide)
      unfold onHelloAccepted
      rw [hheard.addU64 hdelay]
      exact pace_setInflightDeadline _ _ _
    · unfold onPingAccepted
      dsimp only
      rw [hheard.addU64 (by decide)]
      exact pace_setInflightDeadline _ _ _
    · unfold onResetAccepted
      dsimp only
      split_ifs
      · exact pace_rehello hheard
      · rfl
      · rfl
      · rfl
    · rfl

theorem pace_settling (h : Paced s) (hroom : Room s) (hs : Settling s s') : s'.pace = s.pace := by
  have htold : Room (told s) := hroom
  cases hs with
  | accepted => exact (pace_clearTracked _).trans (pace_onRawAccepted (h.congr rfl) htold)
  | indeterminate => exact pace_fence _
  | _ => rfl

theorem pace_outcome (h : Paced s) (hroom : Room s) {io : PumpIo} {st : SessionStatus}
    (ho : Outcome s io st s') : s'.pace = s.pace := by
  cases ho with
  | @accepted st u _ _ _ _ _ tracked settled outcome =>
    have hfed : Room { s with u3 := u } := hroom
    exact @pace_settling { s with u3 := u } _ (h.congr rfl) hfed (.accepted tracked settled outcome)
  | @fenced st u r _ _ _ _ _ _ _ settling =>
    have hfed : Room { s with u3 := u } := hroom
    exact @pace_settling { s with u3 := u } _ (h.congr rfl) hfed settling
  | _ => rfl

theorem pace_apply (s : LogicalSession) (st : SessionStatus) :
    (applyU3PumpStatus s st).2.pace = s.pace := by
  have hepoch : (onEpochLost s).pace = s.pace :=
    (pace_fenceAndRehello _).trans rfl
  have hlink : (onLinkLost s).pace = s.pace := by
    by_cases hk : s.trackedKind = .none
    · rw [onLinkLost_untracked hk]
      rfl
    · rw [onLinkLost_tracked hk]
      exact (pace_fence _).trans rfl
  cases st with
  | rxOverflow => exact pace_continuityLoss s
  | continuityLost | generationMismatch => exact hepoch
  | errLinkDown | closed | ioError => exact hlink
  | _ => rfl

theorem paced_step (hcoupled : Coupled s) (h : Paced s) (io : StepIo) :
    Paced (step s io).2 := by
  have hstep := hcoupled.stepped io
  generalize (step s io).2 = s' at hstep
  cases hstep with
  | refused => exact h
  | @went r t st up runs outcome _ _ applied =>
    have hnow := now_of_stepRuns runs
    obtain ⟨hprep, hup'⟩ := hcoupled.prepare up io.now
    have hpaced := paced_prepare h hnow
    have hroom : Room (prepareStep s io.now).2 :=
      room_of_now hnow (congrArg Prod.snd (setting_prepare s io.now))
    have hlate : Room t :=
      room_of_now hnow (applied ▸ congrArg Prod.snd (setting_applied outcome))
    have ht : Paced t := by
      rw [applied]
      exact hpaced.congr ((pace_apply r st).trans (pace_outcome hpaced hroom outcome))
    split_ifs
    · exact ht
    · exact paced_drain (applied ▸ (hprep.apply hup' outcome).rx) ht hlate

theorem pace_startSession (s : LogicalSession) : (startSession s).pace = s.pace := by
  dsimp only [LogicalSession.pace, startSession, clearTracked, clearNotice, clearOrdinaryActions,
    dropAllInflight, clearActive]

theorem pace_endSession (s : LogicalSession) : (endSession s).pace = s.pace := by
  dsimp only [LogicalSession.pace, endSession, clearTracked, dropSession, clearActive, clearNotice,
    clearOrdinaryActions, dropAllInflight]

theorem paced_bind (hcoupled : Coupled s) (h : Paced s) (io : BindIo) :
    Paced (bindLogical s io).2 := by
  have hb := hcoupled.binding io
  generalize (bindLogical s io).2 = s' at hb
  cases hb with
  | refused => exact h
  | exhausted => exact ⟨h.retry, h.fits⟩
  | @bound u epoch =>
    have hfed : Paced
        (startSession { s with u3 := u, epoch := epoch, epochClaimed := true }) := by
      refine Paced.congr ?_ (pace_startSession _)
      exact ⟨h.retry, h.fits⟩
    generalize startSession { s with u3 := u, epoch := epoch, epochClaimed := true } = t at hfed
    dsimp only
    split
    · exact hfed.congr (pace_arm _ _)
    · exact hfed

theorem paced_unbind (hcoupled : Coupled s) (h : Paced s) : Paced (unbindLogical s).2 := by
  by_cases hup : s.state = .disconnected
  · rw [unbindLogical, if_pos hup]
    exact h
  · obtain ⟨u, -, -, -, -, -, heq⟩ := hcoupled.unbinding hup
    rw [heq]
    refine Paced.congr ?_ (pace_endSession _)
    exact ⟨h.retry, h.fits⟩

theorem paced_run (config : LogicalConfig) (calls : List LogicalCall) :
    Paced (.run config calls) := by
  induction calls using List.reverseRecOn with
  | nil => exact ⟨UInt32.zero_le, rfl⟩
  | append_singleton calls c ih =>
    have hcoupled := coupled_run config calls
    unfold LogicalSession.run at ih hcoupled ⊢
    rw [List.foldl_append]
    cases c with
    | bind io => exact paced_bind hcoupled ih io
    | unbind => exact paced_unbind hcoupled ih
    | step io => exact paced_step hcoupled ih io

end Pace

/-- **Every deadline of every step fits.** In a session with any history, no step takes a branch for
a deadline that does not fit, whatever the clock, the jitter, the peer and the stream answer. The sum
of a `PING` that is due and its slack, which `dispatchPing` makes once more without a check, is the
one it has checked, and does not wrap. -/
theorem deadlines_fit (config : LogicalConfig) (calls : List LogicalCall) (io : StepIo) :
    (step (.run config calls) io).2.overflows = 0 ∧
      ∀ eligible deadline, addU64 eligible pingDispatchSlackMs = some deadline →
        eligible + UInt64.ofNat pingDispatchSlackMs = deadline ∧
          deadline.toNat = eligible.toNat + pingDispatchSlackMs :=
  ⟨(paced_step (coupled_run config calls) (paced_run config calls) io).fits,
    fun _ _ => addU64_eq_some⟩

/-- The first step of a bound Controller arms its `HELLO` timer. -/
theorem deadlines_fit_hello :
    (step (.run (sampleConfig .controller) [.bind upIo])
        { now := 7, pump := quietIo blockedWrite }).2.overflows = 0 ∧
      (step (.run (sampleConfig .controller) [.bind upIo])
        { now := 7, pump := quietIo blockedWrite }).2.helloDeadlineMs = 207 ∧
      (1007 : UInt64).toNat = (7 : UInt64).toNat + pingDispatchSlackMs :=
  have h := deadlines_fit (sampleConfig .controller) [.bind upIo]
    { now := 7, pump := quietIo blockedWrite }
  ⟨h.1, by decide +kernel, (h.2 7 1007 (by decide)).2⟩

end Ninlil.Control
