import Ninlil.Control.Plans

/-!
# Saying `HELLO` again

A Controller that is bound without a session has a timer armed that its next steps act on, unless a
refused `HELLO` or a malformed read left it without one.

* `Alarm`, `Alarm.Ok`: the timers of the handshake, and that one of them is acted on;
* `Reaction.alarm`: what a received frame does to them;
* `losesAlarm`: a step leaves the Controller without a timer;
* `rehello_run`: without such a step a Controller can always say `HELLO` again;
* `refused_hello_strands`: with one it cannot.
-/

namespace Ninlil.Control

/-- What decides whether a Controller says `HELLO` again. -/
structure Alarm where
  state : LogicalState
  rehello : Bool
  hello : Bool

def LogicalSession.alarm (s : LogicalSession) : Alarm where
  state := s.state
  rehello := s.rehelloArmed
  hello := s.helloTimerArmed

/-- Without a session, a timer is armed that `run_timers` looks at in this state. -/
structure Alarm.Ok (a : Alarm) : Prop where
  state : a.state ≠ .helloReceived
  armed : a.state ≠ .disconnected → a.state ≠ .sessionActive →
    a.rehello = true ∨ a.state = .helloSent ∧ a.hello = true

section Changes

variable {s s' : LogicalSession}

theorem Alarm.Ok.waits (h : s.alarm.Ok) (hup : s.state ≠ .disconnected)
    (hactive : s.state ≠ .sessionActive) : s.state = .linkUpNoSession ∨ s.state = .helloSent := by
  have hne := h.state
  cases hs : s.state with
  | disconnected => exact absurd hs hup
  | linkUpNoSession => exact .inl rfl
  | helloSent => exact .inr rfl
  | helloReceived => exact absurd hs hne
  | sessionActive => exact absurd hs hactive

theorem Alarm.Ok.congr (h : s.alarm.Ok) (heq : s'.alarm = s.alarm) : s'.alarm.Ok := heq ▸ h

/-- The `HELLO` that a fence armed is enough. -/
theorem alarm_of_rehello (hs : s.state ≠ .helloReceived) (hr : s.rehelloArmed = true) :
    s.alarm.Ok := ⟨hs, fun _ _ => .inl hr⟩

theorem alarm_of_hello (hs : s.state = .helloSent) (hh : s.helloTimerArmed = true) : s.alarm.Ok where
  state := by
    show s.state ≠ _
    rw [hs]
    decide
  armed _ _ := .inr ⟨hs, hh⟩

theorem alarm_armFence (s : LogicalSession) (deadline : UInt64) :
    (armRehello (sessionToLinkUpNoSession s) deadline).alarm.Ok := alarm_of_rehello nofun rfl

theorem alarm_fenceAndRehello (hrole : s.role = .controller) : (fenceAndRehello s).alarm.Ok := by
  have hfence : fenceAndRehello s = armRehello (sessionToLinkUpNoSession s) s.nowMs := if_pos hrole
  rw [hfence]
  exact alarm_armFence s _

theorem alarm_reject (hrole : s.role = .controller) (h : s.alarm.Ok) :
    (noteLogicalReject s).alarm.Ok := by
  exact noteLogicalReject_cases (P := fun t => t.alarm.Ok) s (fun _ => h.congr rfl)
    (alarm_fenceAndRehello hrole)

theorem alarm_continuityLoss (hrole : s.role = .controller) : (continuityLoss s).alarm.Ok := by
  have hne : ¬ (s.role = .cell ∧ s.state = .sessionActive) := by
    rw [hrole]
    exact fun hcell => absurd hcell.1 (by decide)
  rw [continuityLoss, if_neg hne]
  exact alarm_fenceAndRehello hrole

theorem alarm_actionTryEnqueue (s : LogicalSession) (a : TxAction) :
    (actionTryEnqueue s a).alarm = s.alarm := by
  unfold actionTryEnqueue actionEnqueue
  split_ifs <;> rfl

theorem alarm_ctrlError (s : LogicalSession) (code : UInt16) (requestId : UInt32) :
    (maybeEnqueueCtrlError s code requestId).alarm = s.alarm := by
  refine maybeEnqueueCtrlError_cases (P := fun t => t.alarm = s.alarm) s code requestId
    (fun _ => rfl) ?_
  exact fun _ _ _ => alarm_actionTryEnqueue _ _

/-- Every accepted `RESET` arms the `HELLO`, as long as its deadline fits. -/
theorem alarm_reset (hrole : s.role = .controller) (h : s.alarm.Ok)
    (hnow : s.nowMs.toNat + maxDeadlineAddMs < 2 ^ 64) (code : UInt8) :
    (handleResetAccepted s code).alarm.Ok := by
  unfold handleResetAccepted
  dsimp only
  have hrole' : (sessionToLinkUpNoSession s).role = .controller := hrole
  split_ifs
  · have hfits : addU64 s.nowMs rehelloAfterResetMs =
        some (s.nowMs + UInt64.ofNat rehelloAfterResetMs) := by
      refine if_neg ?_
      unfold maxDeadlineAddMs at hnow
      unfold rehelloAfterResetMs
      omega
    rw [show (sessionToLinkUpNoSession s).nowMs = s.nowMs from rfl, hfits]
    exact alarm_armFence s _
  · exact alarm_fenceAndRehello hrole
  · exact alarm_fenceAndRehello hrole
  · exact h

theorem alarm_removeIndex (s : LogicalSession) (i : Fin inflightMax) :
    (inflightRemoveIndex s i).alarm = s.alarm := by
  unfold inflightRemoveIndex
  split_ifs <;> rfl

theorem alarm_removeKind (s : LogicalSession) (kind : InflightKind) :
    (inflightRemoveKind s kind).alarm = s.alarm := by
  unfold inflightRemoveKind
  split
  · exact alarm_removeIndex s _
  · rfl

theorem alarm_onMatchedPong (s : LogicalSession) (i : Fin inflightMax) :
    (onMatchedPong s i).alarm = s.alarm := by
  have hrem := alarm_removeIndex s i
  unfold onMatchedPong
  dsimp only
  split
  · exact hrem
  · exact hrem

/-! ### The timer of a `HELLO` -/

/-- The timer is armed or left alone. -/
theorem alarm_armHelloTimer (s : LogicalSession) (delayMs : UInt32) :
    (armHelloTimer s delayMs).2.alarm =
      { s.alarm with hello := (armHelloTimer s delayMs).1 || s.helloTimerArmed } := by
  have hjitter : (applyHelloJitter s delayMs).2.alarm = s.alarm := by
    obtain ⟨n, hn⟩ := applyHelloJitter_draws s delayMs
    rw [hn]
    rfl
  have hstate := congrArg Alarm.state hjitter
  have hre := congrArg Alarm.rehello hjitter
  unfold armHelloTimer
  dsimp only
  split
  · exact hjitter
  · show Alarm.mk _ _ _ = Alarm.mk _ _ _
    rw [Alarm.mk.injEq]
    exact ⟨hstate, hre, rfl⟩

theorem alarm_planHello (s : LogicalSession) : (planHello s).alarm = s.alarm :=
  (alarm_removeKind _ _).trans rfl

theorem alarm_armPlannedHello (s : LogicalSession) (isRetry : Bool) :
    (armPlannedHello s isRetry).2.alarm =
      { s.alarm with hello := (armPlannedHello s isRetry).1 || s.helloTimerArmed } := by
  unfold armPlannedHello
  split_ifs
  · exact alarm_armHelloTimer s _
  · exact alarm_armHelloTimer { s with helloRetryDelayMs := helloRetryInitialMs } _

/-- A scheduled `HELLO` arms its timer; one that failed leaves the timers alone. -/
inductive Scheduled (s : LogicalSession) : Bool → Alarm → Prop
  | armed :
      Scheduled s true { state := .helloSent, rehello := s.rehelloArmed, hello := true }
  | failed {state : LogicalState} (kept : state = s.state ∨ state = .helloSent) :
      Scheduled s false { state, rehello := s.rehelloArmed, hello := s.helloTimerArmed }

theorem scheduleControllerHello_scheduled (s : LogicalSession) (isRetry : Bool) :
    Scheduled s (scheduleControllerHello s isRetry).1
      (scheduleControllerHello s isRetry).2.alarm := by
  have hplan := alarm_planHello s
  unfold scheduleControllerHello
  dsimp only
  split_ifs
  · exact .failed (.inl rfl)
  · exact .failed (.inl rfl)
  · split
    · rw [hplan]
      exact .failed (.inl rfl)
    · rename_i planned hadd
      obtain ⟨i, -, rfl⟩ := inflightAdd_eq_some hadd
      have hre : (planHello s).rehelloArmed = s.rehelloArmed := congrArg Alarm.rehello hplan
      have hhello : (planHello s).helloTimerArmed = s.helloTimerArmed := congrArg Alarm.hello hplan
      rw [alarm_armPlannedHello]
      simp only [LogicalSession.alarm, hre, hhello]
      generalize (armPlannedHello _ isRetry).1 = done
      cases done
      · exact .failed (.inr rfl)
      · exact .armed

theorem alarm_runRehelloTimer (h : s.alarm.Ok) : (runRehelloTimer s).alarm.Ok := by
  have hsched := scheduleControllerHello_scheduled s false
  unfold runRehelloTimer
  split_ifs with hdue hstate
  · cases hr : scheduleControllerHello s false with
    | mk done t =>
      rw [hr] at hsched
      dsimp only at hsched ⊢
      generalize ha : t.alarm = a at hsched
      cases hsched with
      | armed => exact alarm_of_hello (congrArg Alarm.state ha) (congrArg Alarm.hello ha)
      | failed kept =>
        refine alarm_of_rehello ?_ ((congrArg Alarm.rehello ha).trans hdue.1)
        have hst : t.state = _ := congrArg Alarm.state ha
        rw [hst]
        rcases kept with rfl | rfl
        · exact h.state
        · exact nofun
  · -- the timer is let go in a state that needs none
    exact ⟨h.state, fun hup hactive => absurd (h.waits hup hactive) hstate⟩
  · exact h

theorem alarm_runHelloTimer (h : s.alarm.Ok) : (runHelloTimer s).alarm.Ok := by
  have hsched := scheduleControllerHello_scheduled s true
  unfold runHelloTimer
  split_ifs with hdue
  · cases hr : scheduleControllerHello s true with
    | mk done t =>
      rw [hr] at hsched
      dsimp only at hsched
      generalize ha : t.alarm = a at hsched
      cases hsched with
      | armed => exact alarm_of_hello (congrArg Alarm.state ha) (congrArg Alarm.hello ha)
      | failed kept =>
        have hst : t.state = .helloSent := by
          rw [show t.state = _ from congrArg Alarm.state ha]
          rcases kept with rfl | rfl
          · exact hdue.2.1
          · rfl
        have hhello : t.helloTimerArmed = true := (congrArg Alarm.hello ha).trans hdue.1
        have harm := alarm_armHelloTimer t
          (if t.helloRetryDelayMs ≠ 0 then t.helloRetryDelayMs else helloRetryInitialMs)
        refine alarm_of_hello ((congrArg Alarm.state harm).trans hst) ?_
        refine (congrArg Alarm.hello harm).trans ?_
        show (_ || t.helloTimerArmed) = true
        rw [hhello, Bool.or_true]
  · exact h

theorem alarm_countMissedPong (s : LogicalSession) : (countMissedPong s).alarm = s.alarm := by
  have hrem := alarm_removeKind { s with pongMissStreak := s.pongMissStreak + 1 } .ping
  unfold countMissedPong
  dsimp only
  split
  · exact hrem
  · exact hrem

theorem alarm_runPongTimeout (h : s.alarm.Ok) : (runPongTimeout s).alarm.Ok := by
  unfold runPongTimeout
  dsimp only
  split_ifs
  · exact alarm_armFence _ _
  · exact h.congr (alarm_countMissedPong s)
  · exact h

theorem alarm_planPing (s : LogicalSession) : (planPing s).alarm = s.alarm := by
  unfold planPing
  dsimp only
  generalize hplan : actionTryEnqueue (allocRequestId s).2 _ = q
  have hq : q.alarm = s.alarm := by
    rw [← hplan]
    exact alarm_actionTryEnqueue _ _
  cases hadd : inflightAdd q .ping (allocRequestId s).1 (pingToken (allocRequestId s).1 s.nowMs) with
  | none => exact hq
  | some t =>
    obtain ⟨i, -, rfl⟩ := inflightAdd_eq_some hadd
    exact hq

theorem alarm_runPingDispatch (h : s.alarm.Ok) : (runPingDispatch s).alarm.Ok := by
  have hfirst : (armFirstPing s).alarm = s.alarm := by
    unfold armFirstPing
    split_ifs <;> rfl
  have hdispatch : ∀ t : LogicalSession, t.alarm.Ok → (dispatchPing t).alarm.Ok := by
    intro t ht
    unfold dispatchPing
    split
    · exact ht
    · split_ifs
      · exact ht
      · exact alarm_armFence t _
      · exact ht.congr (alarm_planPing t)
      · exact ht
  unfold runPingDispatch
  split_ifs
  · exact h
  · exact hdispatch _ (h.congr hfirst)
  · exact h.congr hfirst

theorem alarm_runTimers (h : s.alarm.Ok) : (runTimers s).alarm.Ok := by
  unfold runTimers
  dsimp only
  have hhello := alarm_runHelloTimer (alarm_runRehelloTimer h)
  split_ifs
  · exact h
  · exact alarm_runPingDispatch (alarm_runPongTimeout hhello)
  · exact hhello

/-! ### Received frames -/

/-- The frame is a `HELLO_ACK` that refuses the `HELLO` in flight, and nothing else is armed. -/
def refusesHello (s : LogicalSession) (fr : FrameFields) : Bool :=
  !s.rehelloArmed && inSequence s fr &&
    match decodeMessage fr.payload fr.type, inflightFindKind s .hello with
    | .ok m, some i =>
      match m.body with
      | .helloAck version flags result reserved =>
        semanticHelloAck m version flags result && reserved == 0
          && (s.inflight i).requestId == m.requestId && result != helloOk
      | _ => false
    | _, _ => false

/-- An answer that is no refusal starts a session; after a refusal only a `HELLO` armed before is
looked at. -/
theorem alarm_onMatchedHelloAck (s : LogicalSession) (i : Fin inflightMax) (m : Message)
    {result : UInt16} (hok : result = helloOk ∨ s.rehelloArmed = true) :
    (onMatchedHelloAck s i m result).alarm.Ok := by
  have hre : (inflightRemoveIndex s i).rehelloArmed = s.rehelloArmed :=
    congrArg Alarm.rehello (alarm_removeIndex s i)
  unfold onMatchedHelloAck
  dsimp only
  split_ifs with hresult
  · exact ⟨nofun, fun _ hactive => absurd rfl hactive⟩
  · rw [alarm_armHelloTimer]
    exact ⟨nofun, fun _ _ => .inl (hre.trans (hok.resolve_left hresult))⟩

/-- A received frame that does not refuse the `HELLO` in flight. -/
theorem Reaction.alarm {fr : FrameFields} (hrole : s.role = .controller) (h : s.alarm.Ok)
    (hnow : s.nowMs.toNat + maxDeadlineAddMs < 2 ^ 64) (hgood : refusesHello s fr = false)
    (hr : Reaction s fr s') : s'.alarm.Ok := by
  have hacc : (acceptRxSequence s fr.sequence).alarm.Ok := h.congr rfl
  have hrole' : (acceptRxSequence s fr.sequence).role = .controller := hrole
  cases hr with
  | rejected => exact alarm_reject hrole h
  | lost => exact alarm_continuityLoss hrole
  | ignored => exact alarm_reject hrole' hacc
  | answered code => exact (alarm_reject hrole' hacc).congr (alarm_ctrlError _ _ _)
  | hello role => exact absurd (hrole.symm.trans role) (by decide)
  | halfOpen role => exact absurd (hrole.symm.trans role) (by decide)
  | restart role => exact absurd (hrole.symm.trans role) (by decide)
  | acked _ decoded body valid unreserved taken found id =>
    refine alarm_onMatchedHelloAck _ _ _ ?_
    by_contra hne
    obtain ⟨hresult, hre⟩ := not_or.1 hne
    have hre : s.rehelloArmed = false := Bool.eq_false_iff.2 hre
    simp [refusesHello, decoded, found, body, valid, unreserved, taken, id, hre, hresult] at hgood
  | pinged role => exact absurd (hrole.symm.trans role) (by decide)
  | ponged => exact hacc.congr (alarm_onMatchedPong _ _)
  | reset => exact alarm_reset hrole' hacc hnow _

/-! ### The stages of a step -/

theorem alarm_submission (hrole : s.role = .controller) (h : s.alarm.Ok) (hs : Submission s s') :
    s'.alarm.Ok := by
  cases hs with
  | exhausted =>
    refine alarm_of_rehello ?_ ?_
    · rw [state_applyTxSeqTerminalExhaust]
      decide
    · unfold applyTxSeqTerminalExhaust
      dsimp only
      split_ifs with hctl
      · rfl
      · exact absurd hrole hctl
  | unchanged => exact h
  | dropped | refused | notice | action => exact h.congr rfl

theorem alarm_prepare (hrole : s.role = .controller) (h : s.alarm.Ok) (now : UInt64) :
    (prepareStep s now).2.alarm.Ok := by
  have hclock : LogicalSession.alarm { s with nowMs := now, haveNow := true } = s.alarm := rfl
  have htimers := alarm_runTimers (h.congr hclock)
  have hctl : (runTimers { s with nowMs := now, haveNow := true }).role = .controller :=
    (local_runTimers _).role.trans hrole
  exact alarm_submission hctl htimers (trySubmitTracked_submission _)

/-- A raw accept of a Controller leaves the alarm alone: it has no ordinary `RESET`. -/
theorem alarm_onRawAccepted (hrole : s.role = .controller) (htracked : s.trackedKind ≠ .none)
    (hreset : s.trackedKind = .ordinary → s.trackedTxKind ≠ .reset) :
    (onRawAccepted s).alarm = s.alarm := by
  have hdeadline : ∀ (t : LogicalSession) (kind : InflightKind) (deadline : UInt64),
      (setInflightDeadline t kind deadline).alarm = t.alarm := by
    intro t kind deadline
    unfold setInflightDeadline
    split <;> rfl
  have hctl : (harvestAccept s).role ≠ .cell := by
    rw [show (harvestAccept s).role = s.role from rfl, hrole]
    decide
  unfold onRawAccepted
  dsimp only
  by_cases hk : (harvestAccept s).trackedKind = .notice
  · rw [if_pos hk]
    rfl
  rw [if_neg hk]
  split
  · rw [onAckAccepted, if_pos hctl]
    rfl
  · unfold onHelloAccepted
    split
    · rfl
    · exact hdeadline _ _ _
  · unfold onPingAccepted
    dsimp only
    split
    · rfl
    · exact hdeadline _ _ _
  · rename_i htx
    cases hkind : s.trackedKind with
    | none => exact absurd hkind htracked
    | ordinary => exact absurd htx (hreset hkind)
    | notice => exact absurd hkind hk
  · rfl

theorem alarm_mild (hrole : s.role = .controller) (h : s.alarm.Ok) {st : SessionStatus}
    (hst : st.mild = true) : (applyU3PumpStatus s st).2.alarm.Ok := by
  rcases apply_mild hst s with heq | heq
  · rw [heq]
    exact h
  · rw [heq]
    exact alarm_continuityLoss hrole

theorem alarm_onLinkLost (hk : s.trackedKind = .none ∨ s.rehelloArmed = true) :
    (onLinkLost s).alarm.Ok := by
  by_cases hnone : s.trackedKind = .none
  · rw [onLinkLost_untracked hnone]
    exact ⟨nofun, fun hup => absurd rfl hup⟩
  · rw [onLinkLost_tracked hnone]
    refine alarm_of_rehello nofun ?_
    dsimp only [sessionToLinkUpNoSession, clearActive, clearNotice, clearOrdinaryActions,
      dropAllInflight]
    exact hk.resolve_left hnone

theorem alarm_lost (hrole : s.role = .controller) (hk : s.trackedKind = .none) {st : SessionStatus}
    (hst : st.lost = true) : (applyU3PumpStatus s st).2.alarm.Ok := by
  rcases apply_lost hst s with heq | heq
  · rw [heq]
    exact alarm_fenceAndRehello hrole
  · rw [heq]
    exact alarm_onLinkLost (.inl hk)

/-- The middle of a step whose pump does not meet a malformed read at a bad time. -/
theorem alarm_outcome (hrole : s.role = .controller) (hplanned : Planned s) (h : s.alarm.Ok)
    {io : PumpIo} {st : SessionStatus} {r : LogicalSession} (ho : Outcome s io st r)
    (hread : pumpMeetsMalformedRead s.u3 io = true →
      s.trackedKind = .none ∨ s.rehelloArmed = true) :
    (applyU3PumpStatus r st).2.alarm.Ok := by
  have hrole' : r.role = .controller :=
    (congrArg (fun t : LogicalConfig × UInt64 => t.1.role) (setting_outcome ho)).trans hrole
  cases ho with
  | off => exact alarm_fenceAndRehello hrole
  | @malformed u _ meets => exact @alarm_onLinkLost { s with u3 := u } (hread meets)
  | kept _ _ _ status => exact alarm_mild hrole' (h.congr rfl) status
  | @accepted st u _ _ _ status _ tracked =>
    have hsame := @alarm_onRawAccepted (told { s with u3 := u }) hrole tracked hplanned.tracked
    have htold : (told { s with u3 := u }).alarm = s.alarm := rfl
    have hcleared : ∀ t : LogicalSession, (clearTracked t).alarm = t.alarm := fun _ => rfl
    exact alarm_mild hrole' (h.congr (((hcleared _).trans hsame).trans htold)) status
  | fenced _ _ _ _ _ status _ _ untracked => exact alarm_lost hrole' untracked status

/-- The received frames of a step, none of which refuses the `HELLO` in flight. -/
theorem alarm_drain (hrx : RxOk s.u3) (hrole : s.role = .controller) (h : s.alarm.Ok)
    (hnow : s.nowMs.toNat + maxDeadlineAddMs < 2 ^ 64)
    (hgood : drainMeets refusesHello (s.u3.ingress.length + 1) s = false) :
    (drainRx s).alarm.Ok := by
  have hkeeps : ∀ {t t' : LogicalSession}, Local t t' → t.setting = s.setting →
      t'.setting = s.setting := fun hl ht => hl.setting.trans ht
  have hrule : (drainRx s).setting = s.setting ∧ (drainRx s).alarm.Ok := by
    refine drainLoop_rule (P := fun t => t.setting = s.setting ∧ t.alarm.Ok) ?_ ?_ _ ⟨rfl, h⟩ hrx
      hgood
    · rintro t fr rest t' ⟨hset, ht⟩ _ hbad hreact
      have htrole : t.role = .controller :=
        (congrArg (fun p : LogicalConfig × UInt64 => p.1.role) hset).trans hrole
      have htnow : t.nowMs = s.nowMs := congrArg Prod.snd hset
      refine ⟨hkeeps hreact.isLocal hset, ?_⟩
      refine Reaction.alarm (s := popRx t rest) htrole (ht.congr rfl) ?_ hbad hreact
      rw [show (popRx t rest).nowMs = t.nowMs from rfl, htnow]
      exact hnow
    · rintro t ⟨hset, -⟩
      have htrole : t.role = .controller :=
        (congrArg (fun p : LogicalConfig × UInt64 => p.1.role) hset).trans hrole
      exact ⟨hkeeps (local_continuityLoss t) hset, alarm_continuityLoss htrole⟩
  exact hrule.2

end Changes

/-! ### Runs -/

/-- A step whose pump meets a malformed read while a frame is tracked and no `HELLO` is armed, or
whose received frames refuse the `HELLO` in flight. -/
def losesAlarm (s : LogicalSession) (io : StepIo) : Bool :=
  let prepared := (prepareStep s io.now).2
  let pumped := pumpStep prepared io.pump
  let applied := (applyU3PumpStatus (resolveTracked pumped.2).2 pumped.1).2
  stepRuns s io
    && (pumpMeetsMalformedRead prepared.u3 io.pump && prepared.trackedKind != .none
        && !prepared.rehelloArmed
      || applied.state != .disconnected
        && drainMeets refusesHello (applied.u3.ingress.length + 1) applied)

section Runs

variable {s : LogicalSession}

theorem now_of_stepRuns {io : StepIo} (h : stepRuns s io = true) :
    io.now.toNat + maxDeadlineAddMs < 2 ^ 64 := by
  simp only [stepRuns, deadlineOverflowPure, Bool.and_eq_true, Bool.not_eq_true',
    Bool.or_eq_false_iff, decide_eq_false_iff_not, not_le] at h
  exact h.2.1

theorem alarm_step (hcoupled : Coupled s) (hplanned : Planned s) (hrole : s.role = .controller)
    (h : s.alarm.Ok) (io : StepIo) (hok : losesAlarm s io = false) : (step s io).2.alarm.Ok := by
  have hstep := hcoupled.stepped io
  generalize (step s io).2 = s' at hstep
  cases hstep with
  | refused => exact h
  | @went r t st up runs outcome pumped resolved applied =>
    obtain ⟨hprep, hup'⟩ := hcoupled.prepare up io.now
    have hprole := (role_prepare s io.now).trans hrole
    rw [losesAlarm, runs, Bool.true_and, Bool.or_eq_false_iff] at hok
    obtain ⟨hread, hdrain⟩ := hok
    have ht : t.alarm.Ok := by
      rw [applied]
      refine alarm_outcome hprole (hplanned.prepare io.now) (alarm_prepare hrole h io.now) outcome ?_
      intro hmeets
      rw [hmeets, Bool.true_and, Bool.and_eq_false_iff] at hread
      exact hread.imp (by simp) (by simp)
    have hrx : RxOk t.u3 := applied ▸ (hprep.apply hup' outcome).rx
    have hset : t.setting = (s.config, io.now) := applied ▸ setting_applied outcome
    have htrole : t.role = .controller := applied ▸ (role_applied outcome).trans hrole
    have htnow : t.nowMs = io.now := congrArg Prod.snd hset
    split_ifs with hdown
    · exact ht
    · refine alarm_drain hrx htrole ht ?_ ?_
      · rw [htnow]
        exact now_of_stepRuns runs
      · rw [← resolved, ← pumped, ← applied, Bool.and_eq_false_iff] at hdrain
        exact hdrain.resolve_left (by simpa using hdown)

theorem alarm_bind (hcoupled : Coupled s) (hrole : s.role = .controller) (h : s.alarm.Ok)
    (io : BindIo) : (bindLogical s io).2.alarm.Ok := by
  have hb := hcoupled.binding io
  generalize (bindLogical s io).2 = s' at hb
  cases hb with
  | refused => exact h
  | exhausted => exact h.congr rfl
  | @bound u epoch =>
    dsimp only
    have hctl : (startSession { s with u3 := u, epoch := epoch, epochClaimed := true }).role =
        .controller := hrole
    rw [if_pos hctl]
    exact alarm_of_rehello nofun rfl

theorem alarm_unbind (hcoupled : Coupled s) (h : s.alarm.Ok) : (unbindLogical s).2.alarm.Ok := by
  by_cases hup : s.state = .disconnected
  · rw [unbindLogical, if_pos hup]
    exact h
  · obtain ⟨u, -, -, -, -, -, heq⟩ := hcoupled.unbinding hup
    rw [heq]
    exact ⟨by rintro ⟨⟩, fun hup => absurd rfl hup⟩

end Runs

/-- A session that is bound without an active session has a timer armed that `run_timers` acts on
in its state. -/
def CanRehello (s : LogicalSession) : Prop :=
  s.epochClaimed = true → s.state ≠ .disconnected → s.state ≠ .sessionActive →
    s.rehelloArmed = true ∧ (s.state = .linkUpNoSession ∨ s.state = .helloSent) ∨
      s.state = .helloSent ∧ s.helloTimerArmed = true

instance (s : LogicalSession) : Decidable (CanRehello s) :=
  inferInstanceAs (Decidable (_ → _ → _ → _))

theorem Alarm.Ok.canRehello {s : LogicalSession} (h : s.alarm.Ok) : CanRehello s := by
  intro _ hup hactive
  exact (h.armed hup hactive).imp (fun hre => ⟨hre, h.waits hup hactive⟩) id

/-- **A Controller can always say `HELLO` again**, in every run without a step that loses its
alarm. -/
theorem rehello_run (config : LogicalConfig) (hrole : config.role = .controller)
    (calls : List LogicalCall)
    (hcautious : Cautious (fun s io => !losesAlarm s io) (.init config) calls) :
    CanRehello (.run config calls) := by
  have hrun : (LogicalSession.run config calls).role = .controller ∧
      Planned (.run config calls) ∧ (LogicalSession.run config calls).alarm.Ok := by
    refine cautious_rule (P := fun s => s.role = .controller ∧ Planned s ∧ s.alarm.Ok) ?_ ?_ ?_
      ⟨hrole, planned_init config, nofun, fun hup => absurd rfl hup⟩ hcautious
    · rintro s io hcoupled ⟨hrole, hplanned, hs⟩
      exact ⟨(role_bind hcoupled io).trans hrole, hplanned.bind hcoupled io,
        alarm_bind hcoupled hrole hs io⟩
    · rintro s hcoupled ⟨hrole, hplanned, hs⟩
      exact ⟨(role_unbind hcoupled).trans hrole, hplanned.unbind hcoupled, alarm_unbind hcoupled hs⟩
    · rintro s io hcoupled ⟨hrole, hplanned, hs⟩ hok
      have hok : losesAlarm s io = false := by simpa using hok
      exact ⟨(role_step hcoupled io).trans hrole, hplanned.step hcoupled io,
        alarm_step hcoupled hplanned hrole hs io hok⟩
  exact hrun.2.2.canRehello

/-! ### A refused `HELLO` -/

/-- A Controller says `HELLO`, which the stream takes. -/
def askedRun : List LogicalCall :=
  [.bind upIo, .step { now := 0, pump := quietIo (fullWrite 60) }]

theorem asked_controller_rehello :
    CanRehello (.run (sampleConfig .controller) askedRun) ∧
      (LogicalSession.run (sampleConfig .controller) askedRun).state = .helloSent :=
  ⟨rehello_run (sampleConfig .controller) rfl askedRun ⟨by decide +kernel, trivial⟩,
    by decide +kernel⟩

/-- A Cell without a cookie or a generation answers the first `HELLO` so. -/
def busyAck : Message :=
  { requestId := 1, sessionGeneration := 0, sessionCookie := 0, body := .helloAck 0 0 helloBusy 0 }

/-- The `HELLO` is refused. -/
def refusedRun : List LogicalCall :=
  askedRun ++ [.step { now := 1, pump := deliverIo (messageFrame 0 busyAck) blockedWrite }]

/-- After the refusal the Controller is bound without a session, its timer is armed in a state that
`run_timers` does not look at it in, and a late step sends nothing. -/
theorem refused_hello_strands :
    ¬ CanRehello (.run (sampleConfig .controller) refusedRun) ∧
      (LogicalSession.run (sampleConfig .controller) refusedRun).helloTimerArmed = true ∧
      ¬ CanRehello (.run (sampleConfig .controller)
        (refusedRun ++ [.step { now := 1000000, pump := quietIo (fullWrite 60) }])) := by
  decide +kernel

end Ninlil.Control
