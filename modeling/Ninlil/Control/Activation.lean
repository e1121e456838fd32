import Ninlil.Control.Coupled

/-!
# Activation of a Cell

A Cell is active exactly when it holds a generation and a cookie, and becomes active only from
`HELLO_RECEIVED`, unless the raw accept of a `HELLO_ACK` comes after a fence. The `HELLO_ACK` that is
accepted then need not answer the `HELLO` that was heard last.

* `Standing`, `Standing.Ok`: the part of a Cell its activation lives in;
* `Reaction.cell`: what a received frame does to it;
* `misplacedAck`: a step harvests a `HELLO_ACK` from before a fence, or in a state it was not made
  for;
* `cell_activation`: without such a step the law holds in every run;
* `fenced_cell_activates`: with one it does not.
-/

namespace Ninlil.Control

/-- What the activation of a session is judged by. -/
structure Standing where
  state : LogicalState
  generation : UInt32
  cookie : UInt64
  haveRxSeq : Bool

def LogicalSession.standing (s : LogicalSession) : Standing where
  state := s.state
  generation := s.activeGeneration
  cookie := s.activeCookie
  haveRxSeq := s.haveRxSeq

/-- A Cell holds a generation and a cookie exactly while it is active, and then also knows the
sequence number it heard last. -/
structure Standing.Ok (t : Standing) : Prop where
  generation : t.generation ≠ 0 ↔ t.state = .sessionActive
  cookie : t.cookie ≠ 0 ↔ t.state = .sessionActive
  baseline : t.state = .sessionActive ∨ t.state = .helloReceived → t.haveRxSeq = true

theorem Standing.Ok.of_idle {t : Standing} (ha : t.state ≠ .sessionActive)
    (hr : t.state ≠ .helloReceived) (hg : t.generation = 0) (hc : t.cookie = 0) : t.Ok where
  generation := iff_of_false (not_not.2 hg) ha
  cookie := iff_of_false (not_not.2 hc) ha
  baseline h := absurd h (not_or.2 ⟨ha, hr⟩)

section Received

variable {s s' : LogicalSession}

/-- The session is consistent, and active only if it was before. -/
structure KeepsStanding (s s' : LogicalSession) : Prop where
  ok : s'.standing.Ok
  active : s'.state = .sessionActive → s.state = .sessionActive

theorem keepsStanding_of_eq (h : s.standing.Ok) (heq : s'.standing = s.standing) :
    KeepsStanding s s' where
  ok := heq ▸ h
  active ha := (congrArg Standing.state heq).symm.trans ha

theorem KeepsStanding.trans {s₁ s₂ s₃ : LogicalSession} (h : KeepsStanding s₁ s₂)
    (h' : KeepsStanding s₂ s₃) : KeepsStanding s₁ s₃ := ⟨h'.ok, fun ha => h.active (h'.active ha)⟩

/-- A session that was fenced, however it was before. -/
theorem keepsStanding_fenced (hs : s'.state = .linkUpNoSession) (hg : s'.activeGeneration = 0)
    (hc : s'.activeCookie = 0) : KeepsStanding s s' where
  ok := .of_idle (by show s'.state ≠ _; rw [hs]; decide) (by show s'.state ≠ _; rw [hs]; decide) hg hc
  active ha := absurd (hs.symm.trans ha) (by decide)

theorem keepsStanding_fenceAndRehello (s t : LogicalSession) :
    KeepsStanding s (fenceAndRehello t) := by
  unfold fenceAndRehello
  dsimp only
  split_ifs
  · exact keepsStanding_fenced rfl rfl rfl
  · exact keepsStanding_fenced rfl rfl rfl

theorem keepsStanding_reject (h : s.standing.Ok) : KeepsStanding s (noteLogicalReject s) := by
  exact noteLogicalReject_cases (P := KeepsStanding s) s (fun _ => keepsStanding_of_eq h rfl)
    (keepsStanding_fenceAndRehello s _)

theorem keepsStanding_accept (h : s.standing.Ok) (seq : UInt32) :
    KeepsStanding s (acceptRxSequence s seq) :=
  ⟨⟨h.generation, h.cookie, fun _ => rfl⟩, id⟩

theorem standing_actionTryEnqueue (s : LogicalSession) (a : TxAction) :
    (actionTryEnqueue s a).standing = s.standing := by
  unfold actionTryEnqueue actionEnqueue
  split_ifs <;> rfl

theorem standing_ctrlError (s : LogicalSession) (code : UInt16) (requestId : UInt32) :
    (maybeEnqueueCtrlError s code requestId).standing = s.standing := by
  refine maybeEnqueueCtrlError_cases (P := fun t => t.standing = s.standing) s code requestId
    (fun _ => rfl) ?_
  exact fun _ _ _ => standing_actionTryEnqueue _ _

theorem keepsStanding_continuityLoss (s t : LogicalSession) :
    KeepsStanding s (continuityLoss t) := by
  unfold continuityLoss
  split_ifs
  · unfold cellContinuityLoss
    dsimp only
    split
    · exact keepsStanding_fenced rfl rfl rfl
    · exact keepsStanding_fenced rfl rfl rfl
  · exact keepsStanding_fenceAndRehello s _

theorem keepsStanding_reset (h : s.standing.Ok) (code : UInt8) :
    KeepsStanding s (handleResetAccepted s code) := by
  unfold handleResetAccepted
  dsimp only
  split_ifs
  · split
    · exact keepsStanding_fenced rfl rfl rfl
    · exact keepsStanding_fenced rfl rfl rfl
  · exact keepsStanding_fenced rfl rfl rfl
  · exact keepsStanding_fenceAndRehello s _
  · exact keepsStanding_fenceAndRehello s _
  · exact keepsStanding_of_eq h rfl

/-- A `HELLO` is answered by a Cell that is not active. -/
theorem keepsStanding_plan (h : s.standing.Ok) (ha : s.state ≠ .sessionActive)
    (hr : s.haveRxSeq = true) {requestId : UInt32} (hp : HelloPlan s requestId s') :
    KeepsStanding s s' := by
  have hplanned : Standing.Ok
      { state := .helloReceived, generation := s.activeGeneration, cookie := s.activeCookie
        haveRxSeq := s.haveRxSeq } := by
    refine ⟨iff_of_false ?_ nofun, iff_of_false ?_ nofun, fun _ => hr⟩
    · exact fun hg => ha (h.generation.1 hg)
    · exact fun hc => ha (h.cookie.1 hc)
  cases hp with
  | full => exact keepsStanding_reject h
  | busy | ok => exact ⟨hplanned, nofun⟩

theorem keepsStanding_hello (h : s.standing.Ok) (requestId : UInt32)
    (ha : s.state ≠ .sessionActive) (hr : s.haveRxSeq = true) :
    KeepsStanding s (onValidHelloCell s requestId false) := by
  have hready : KeepsStanding s (readyForHello s false) := keepsStanding_of_eq h rfl
  exact hready.trans (keepsStanding_plan hready.ok ha hr (onValidHelloCell_plan s requestId false))

/-- A Cell fences itself before it answers. -/
theorem keepsStanding_fencedHello (s : LogicalSession) {t : LogicalSession} (requestId : UInt32)
    (hr : t.haveRxSeq = true) : KeepsStanding s (onValidHelloCell t requestId true) := by
  have hready : KeepsStanding s (readyForHello t true) := keepsStanding_fenced rfl rfl rfl
  exact hready.trans (keepsStanding_plan hready.ok nofun hr (onValidHelloCell_plan t requestId true))

/-- A received frame never activates a Cell. -/
theorem Reaction.cell {fr : FrameFields} (hrole : s.role = .cell) (h : s.standing.Ok)
    (hr : Reaction s fr s') : KeepsStanding s s' := by
  have hacc := keepsStanding_accept h fr.sequence
  cases hr with
  | rejected => exact keepsStanding_reject h
  | lost => exact keepsStanding_continuityLoss s s
  | ignored => exact hacc.trans (keepsStanding_reject hacc.ok)
  | answered code =>
    have hrej := hacc.trans (keepsStanding_reject hacc.ok)
    exact hrej.trans (keepsStanding_of_eq hrej.ok (standing_ctrlError _ _ _))
  | @hello m _ _ _ guard =>
    refine hacc.trans (keepsStanding_hello hacc.ok m.requestId (fun ha => ?_) rfl)
    exact absurd ((guard ha).symm.trans (h.baseline (.inl ha))) (by decide)
  | @halfOpen m => exact keepsStanding_fencedHello s m.requestId rfl
  | @restart m => exact keepsStanding_fencedHello s m.requestId rfl
  | acked role => exact absurd (hrole.symm.trans role) (by decide)
  | pinged => exact hacc.trans (keepsStanding_of_eq hacc.ok (standing_actionTryEnqueue _ _))
  | ponged role => exact absurd (hrole.symm.trans role) (by decide)
  | reset => exact hacc.trans (keepsStanding_reset hacc.ok _)

end Received

/-! ### Harvesting -/

section Harvested

variable {s s' : LogicalSession}

/-- The raw accept of a `HELLO_ACK` is about to be harvested. -/
def harvestsAck (s : LogicalSession) : Bool :=
  s.trackedKind == .ordinary && s.trackedTxKind == .helloAck && s.u3.trackedPhase == .terminal
    && s.u3.trackedResolution == .rawAcceptedCurrentEpoch

/-- The tracked `HELLO_ACK` offers a session. -/
def ackOffersSession (s : LogicalSession) : Bool :=
  s.trackedHelloResult == helloOk && s.trackedGeneration != 0 && s.trackedCookie != 0

/-- The session of a step whose tracked frame is about to be settled. -/
def settling (s : LogicalSession) (io : StepIo) : LogicalSession :=
  (pumpStep (prepareStep s io.now).2 io.pump).2

/-- A step harvests an offered session that was handed over before a fence, or in neither
`HELLO_RECEIVED` nor `SESSION_ACTIVE`, or it harvests a refusal in `SESSION_ACTIVE`. -/
def misplacedAck (s : LogicalSession) (io : StepIo) : Bool :=
  let t := settling s io
  stepRuns s io && harvestsAck t
    && (if ackOffersSession t then
        t.trackedFenced || (t.state != .helloReceived && t.state != .sessionActive)
      else t.state == .sessionActive)

/-- What a step of a Cell keeps: its standing, and that only `HELLO_RECEIVED` leads to an active
session, by an answer that is fresh. -/
structure CellStep (fresh : Prop) (s s' : LogicalSession) : Prop where
  ok : s'.standing.Ok
  entered : s'.state = .sessionActive → s.state = .helloReceived ∧ fresh ∨ s.state = .sessionActive

variable {fresh : Prop}

theorem CellStep.then {s₁ s₂ s₃ : LogicalSession} (h : CellStep fresh s₁ s₂)
    (h' : KeepsStanding s₂ s₃) : CellStep fresh s₁ s₃ := ⟨h'.ok, fun ha => h.entered (h'.active ha)⟩

theorem KeepsStanding.cellStep (h : KeepsStanding s s') : CellStep fresh s s' :=
  ⟨h.ok, fun ha => .inr (h.active ha)⟩

/-- A raw accept that is not misplaced. -/
theorem cellStep_onRawAccepted (hrole : s.role = .cell) (h : s.standing.Ok)
    (htracked : s.trackedKind ≠ .none)
    (hack : s.trackedKind = .ordinary → s.trackedTxKind = .helloAck →
      if ackOffersSession s then s.state = .helloReceived ∧ fresh ∨ s.state = .sessionActive
      else s.state ≠ .sessionActive) :
    CellStep fresh s (onRawAccepted s) := by
  have hsame : ∀ t : LogicalSession, t.standing = s.standing → CellStep fresh s t :=
    fun t ht => (keepsStanding_of_eq h ht).cellStep
  have hfenced : ∀ t : LogicalSession, KeepsStanding s t → CellStep fresh s t :=
    fun t ht => ht.cellStep
  have hdeadline : ∀ (t : LogicalSession) (kind : InflightKind) (deadline : UInt64),
      (setInflightDeadline t kind deadline).standing = t.standing := by
    intro t kind deadline
    unfold setInflightDeadline
    split <;> rfl
  unfold onRawAccepted
  dsimp only
  by_cases hk : (harvestAccept s).trackedKind = .notice
  · rw [if_pos hk]
    exact hsame _ rfl
  rw [if_neg hk]
  split
  · rename_i hkind
    unfold onAckAccepted
    have hordinary : s.trackedKind = .ordinary := by
      cases hkind : s.trackedKind with
      | none => exact absurd hkind htracked
      | ordinary => rfl
      | notice => exact absurd hkind hk
    have hstate := hack hordinary hkind
    have hoffer : ackOffersSession s = true ↔
        s.trackedHelloResult = helloOk ∧ s.trackedGeneration ≠ 0 ∧ s.trackedCookie ≠ 0 := by
      simp [ackOffersSession, and_assoc]
    rw [if_neg (by rw [show (harvestAccept s).role = _ from hrole]; decide)]
    split_ifs with hok
    · rw [if_pos (hoffer.2 hok)] at hstate
      have hbaseline := h.baseline (hstate.symm.imp_right And.left)
      exact ⟨⟨iff_of_true hok.2.1 rfl, iff_of_true hok.2.2 rfl, fun _ => hbaseline⟩, fun _ => hstate⟩
    · rw [if_neg (fun ho => hok (hoffer.1 ho))] at hstate
      refine ⟨.of_idle nofun nofun ?_ ?_, nofun⟩
      · exact not_not.1 fun hg => hstate (h.generation.1 hg)
      · exact not_not.1 fun hc => hstate (h.cookie.1 hc)
  · unfold onHelloAccepted
    split
    · exact hsame _ rfl
    · exact hsame _ (hdeadline _ _ _)
  · unfold onPingAccepted
    dsimp only
    split
    · exact hsame _ rfl
    · exact hsame _ (hdeadline _ _ _)
  · unfold onResetAccepted
    dsimp only
    split_ifs
    · split
      · exact hfenced _ (keepsStanding_fenced rfl rfl rfl)
      · exact hfenced _ (keepsStanding_fenced rfl rfl rfl)
    · exact hfenced _ (keepsStanding_fenced rfl rfl rfl)
    · exact hfenced _ (keepsStanding_fenced rfl rfl rfl)
    · exact hsame _ rfl
  · exact hsame _ rfl

theorem keepsStanding_lost {st : SessionStatus} (hst : st.lost = true) (s t : LogicalSession) :
    KeepsStanding s (applyU3PumpStatus t st).2 := by
  rcases apply_lost hst t with heq | heq
  · rw [heq]
    exact keepsStanding_fenceAndRehello s _
  · rw [heq]
    by_cases hk : t.trackedKind = .none
    · rw [onLinkLost_untracked hk]
      exact ⟨.of_idle nofun nofun rfl rfl, nofun⟩
    · rw [onLinkLost_tracked hk]
      exact keepsStanding_fenced rfl rfl rfl

theorem keepsStanding_mild {st : SessionStatus} (hst : st.mild = true) (h : s.standing.Ok) :
    KeepsStanding s (applyU3PumpStatus s st).2 := by
  rcases apply_mild hst s with heq | heq
  · rw [heq]
    exact keepsStanding_of_eq h rfl
  · rw [heq]
    exact keepsStanding_continuityLoss s s

/-- A submit leaves the standing alone, unless the exhausted sequence fences the session. -/
theorem standing_submission (hs : Submission s s') :
    s'.standing = s.standing ∨ KeepsStanding s s' ∧ s'.state = .linkUpNoSession := by
  cases hs with
  | exhausted =>
    right
    refine ⟨?_, state_applyTxSeqTerminalExhaust s⟩
    unfold applyTxSeqTerminalExhaust
    dsimp only
    split_ifs
    · exact keepsStanding_fenced rfl rfl rfl
    · exact keepsStanding_fenced rfl rfl rfl
  | unchanged | dropped | refused | notice | action => exact .inl rfl

/-- The session of a Cell after the timers and the submit of a step. -/
theorem prepare_cell (hrole : s.role = .cell) (h : s.standing.Ok) (now : UInt64) :
    (prepareStep s now).2.role = .cell ∧ KeepsStanding s (prepareStep s now).2 ∧
      ((prepareStep s now).2.state = .helloReceived → s.state = .helloReceived) := by
  have htimers : runTimers { s with nowMs := now, haveNow := true } =
      { s with nowMs := now, haveNow := true } := by
    have hne : s.role ≠ .controller := by
      rw [hrole]
      decide
    exact if_pos hne
  have hsub : Submission { s with nowMs := now, haveNow := true } (prepareStep s now).2 := by
    rw [prepareStep, htimers]
    exact trySubmitTracked_submission _
  refine ⟨(role_prepare s now).trans hrole, ?_⟩
  rcases standing_submission hsub with heq | ⟨hkeeps, hstate⟩
  · exact ⟨keepsStanding_of_eq h heq,
      fun hr => (congrArg Standing.state heq : (prepareStep s now).2.state = s.state).symm.trans hr⟩
  · exact ⟨⟨hkeeps.ok, hkeeps.active⟩, fun hr => absurd (hstate.symm.trans hr) (by decide)⟩

/-- The middle of a step, from the prepared session to the one that drains its frames. -/
theorem cellStep_outcome (hrole : s.role = .cell) (h : s.standing.Ok) {io : PumpIo}
    {st : SessionStatus} {r : LogicalSession} (ho : Outcome s io st r)
    (hack : harvestsAck (pumpStep s io).2 = true →
      if ackOffersSession s then s.state = .helloReceived ∧ fresh ∨ s.state = .sessionActive
      else s.state ≠ .sessionActive) :
    CellStep fresh s (applyU3PumpStatus r st).2 := by
  cases ho with
  | off => exact (keepsStanding_fenceAndRehello s _).cellStep
  | malformed => exact (keepsStanding_lost rfl s _).cellStep
  | @kept st u _ _ _ status =>
    have hsame : KeepsStanding s { s with u3 := u } := keepsStanding_of_eq h rfl
    exact (hsame.trans (keepsStanding_mild status hsame.ok)).cellStep
  | @accepted st u _ _ _ status _ tracked settled outcome pumped =>
    have hraw := @cellStep_onRawAccepted (told { s with u3 := u }) fresh hrole h tracked
      fun hordinary hkind => hack (by
        simp only [harvestsAck, pumpStep, ← pumped, settled, outcome]
        rw [show s.trackedKind = _ from hordinary, show s.trackedTxKind = _ from hkind]
        rfl)
    have hstep : CellStep fresh s (clearTracked (onRawAccepted (told { s with u3 := u }))) :=
      ⟨hraw.ok, hraw.entered⟩
    exact hstep.then (keepsStanding_mild status hraw.ok)
  | fenced _ _ _ _ _ status => exact (keepsStanding_lost status s r).cellStep

theorem cellStep_drain (hrx : RxOk s'.u3) (hrole : s'.role = .cell) (h : CellStep fresh s s') :
    CellStep fresh s (drainRx s') := by
  have hrule : (drainRx s').role = .cell ∧ CellStep fresh s (drainRx s') := by
    refine @drainRx_rule (fun t => t.role = .cell ∧ CellStep fresh s t) s' ?_ ?_ ⟨hrole, h⟩ hrx
    · rintro t fr rest t' ⟨htrole, ht⟩ hq hreact
      have hpop : CellStep fresh s (popRx t rest) := ⟨ht.ok, ht.entered⟩
      exact ⟨hreact.isLocal.role.trans htrole, hpop.then (hreact.cell htrole hpop.ok)⟩
    · rintro t ⟨htrole, ht⟩
      exact ⟨(local_continuityLoss t).role.trans htrole, ht.then (keepsStanding_continuityLoss t t)⟩
  exact hrule.2

end Harvested

/-! ### Runs -/

section Runs

variable {s : LogicalSession}

theorem cellStep_step (hcoupled : Coupled s) (hrole : s.role = .cell) (h : s.standing.Ok)
    (io : StepIo) (hok : misplacedAck s io = false) :
    CellStep ((settling s io).trackedFenced = false) s (step s io).2 := by
  have hstep := hcoupled.stepped io
  generalize (step s io).2 = s' at hstep
  cases hstep with
  | refused => exact ⟨h, .inr⟩
  | @went r t st up runs outcome _ _ applied =>
    obtain ⟨hprep, hup'⟩ := hcoupled.prepare up io.now
    obtain ⟨hprole, hkeeps, hreceived⟩ := prepare_cell hrole h io.now
    have hmiddle := @cellStep_outcome _ ((settling s io).trackedFenced = false) hprole hkeeps.ok _ _ _
      outcome fun hharvest => by
        have hset : harvestsAck (settling s io) = true := hharvest
        simp only [misplacedAck, runs, hset, Bool.true_and] at hok
        show if ackOffersSession (settling s io) then _ else _
        split_ifs at hok ⊢ with hoffers
        · rw [Bool.or_eq_false_iff, Bool.and_eq_false_iff, bne_eq_false_iff_eq,
            bne_eq_false_iff_eq] at hok
          exact hok.2.imp_left fun hr => ⟨hr, hok.1⟩
        · simpa [settling, pumpStep] using hok
    have ht : CellStep ((settling s io).trackedFenced = false) s t := by
      rw [applied]
      refine ⟨hmiddle.ok, fun ha => ?_⟩
      rcases hmiddle.entered ha with ⟨hr, hfresh⟩ | ha
      · exact .inl ⟨hreceived hr, hfresh⟩
      · exact .inr (hkeeps.active ha)
    have hrx : RxOk t.u3 := applied ▸ (hprep.apply hup' outcome).rx
    have htrole : t.role = .cell := by
      rw [applied]
      exact (role_applied outcome).trans hrole
    split_ifs
    · exact ht
    · exact cellStep_drain hrx htrole ht

theorem standing_bind (hcoupled : Coupled s) (h : s.standing.Ok) (io : BindIo) :
    KeepsStanding s (bindLogical s io).2 := by
  have hb := hcoupled.binding io
  generalize (bindLogical s io).2 = s' at hb
  cases hb with
  | refused | exhausted => exact keepsStanding_of_eq h rfl
  | bound =>
    dsimp only
    split
    · exact keepsStanding_fenced rfl rfl rfl
    · exact keepsStanding_fenced rfl rfl rfl

theorem standing_unbind (hcoupled : Coupled s) (h : s.standing.Ok) :
    KeepsStanding s (unbindLogical s).2 := by
  by_cases hup : s.state = .disconnected
  · rw [unbindLogical, if_pos hup]
    exact keepsStanding_of_eq h rfl
  · obtain ⟨u, -, -, -, -, -, heq⟩ := hcoupled.unbinding hup
    rw [heq]
    exact ⟨.of_idle (by rintro ⟨⟩) (by rintro ⟨⟩) rfl rfl, by rintro ⟨⟩⟩

end Runs

/-- The law of a Cell's activation: it holds a generation and a cookie exactly while it is active. -/
structure CellActivation (s : LogicalSession) : Prop where
  generation : s.activeGeneration ≠ 0 ↔ s.state = .sessionActive
  cookie : s.activeCookie ≠ 0 ↔ s.state = .sessionActive

/-- **Activation of a Cell**: in every run without a misplaced `HELLO_ACK`, the Cell holds a
generation and a cookie exactly while it is active, and each call that leaves it active found it
active or in `HELLO_RECEIVED`. A frame that was handed over before a fence does not make a session
active again when its raw accept is harvested. -/
theorem cell_activation (config : LogicalConfig) (hrole : config.role = .cell)
    (calls : List LogicalCall)
    (hcautious : Cautious (fun s io => !misplacedAck s io) (.init config) calls) :
    CellActivation (.run config calls) ∧
      (∀ before c after, calls = before ++ c :: after →
        (LogicalSession.run config (before ++ [c])).state = .sessionActive →
        (LogicalSession.run config before).state = .helloReceived ∨
          (LogicalSession.run config before).state = .sessionActive) ∧
      ∀ before io after, calls = before ++ .step io :: after →
        (settling (.run config before) io).trackedFenced = true →
        (LogicalSession.run config before).state ≠ .sessionActive →
        (LogicalSession.run config (before ++ [.step io])).state ≠ .sessionActive := by
  have hrun : ∀ calls, Cautious (fun s io => !misplacedAck s io) (.init config) calls →
      (LogicalSession.run config calls).role = .cell ∧
        (LogicalSession.run config calls).standing.Ok := by
    intro calls hcalls
    refine cautious_rule (P := fun s => s.role = .cell ∧ s.standing.Ok) ?_ ?_ ?_
      ⟨hrole, .of_idle nofun nofun rfl rfl⟩ hcalls
    · rintro s io hcoupled ⟨hrole, hs⟩
      exact ⟨(role_bind hcoupled io).trans hrole, (standing_bind hcoupled hs io).ok⟩
    · rintro s hcoupled ⟨hrole, hs⟩
      exact ⟨(role_unbind hcoupled).trans hrole, (standing_unbind hcoupled hs).ok⟩
    · rintro s io hcoupled ⟨hrole, hs⟩ hok
      have hok : misplacedAck s io = false := by simpa using hok
      exact ⟨(role_step hcoupled io).trans hrole, (cellStep_step hcoupled hrole hs io hok).ok⟩
  have hstep : ∀ before io after, calls = before ++ .step io :: after →
      CellStep ((settling (.run config before) io).trackedFenced = false) (.run config before)
        (.run config (before ++ [.step io])) := by
    rintro before io after rfl
    obtain ⟨hbefore, hrest⟩ := cautious_append.1 hcautious
    obtain ⟨hcell, hs⟩ := hrun before hbefore
    have hok : misplacedAck (LogicalSession.run config before) io = false := by
      simpa [LogicalSession.run] using hrest.1
    rw [show LogicalSession.run config (before ++ [.step io]) =
      (step (.run config before) io).2 from List.foldl_append]
    exact cellStep_step (coupled_run config before) hcell hs io hok
  obtain ⟨-, hok⟩ := hrun calls hcautious
  refine ⟨⟨hok.generation, hok.cookie⟩, ?_, fun before io after heq hfenced hidle hactive => ?_⟩
  · rintro before c after rfl hactive
    obtain ⟨hbefore, -⟩ := cautious_append.1 hcautious
    obtain ⟨-, hs⟩ := hrun before hbefore
    have hcoupled := coupled_run config before
    cases c with
    | bind io =>
      rw [LogicalSession.run, List.foldl_append] at hactive
      exact .inr ((standing_bind hcoupled hs io).active hactive)
    | unbind =>
      rw [LogicalSession.run, List.foldl_append] at hactive
      exact .inr ((standing_unbind hcoupled hs).active hactive)
    | step io => exact ((hstep before io after rfl).entered hactive).imp_left And.left
  · rcases (hstep before io after heq).entered hactive with ⟨-, hfresh⟩ | hactive
    · exact absurd (hfresh.symm.trans hfenced) (by decide)
    · exact hidle hactive

/-! ### An accept after a fence -/

/-- A `HELLO` of a Controller. -/
def sampleHello : Message :=
  { requestId := 7, sessionGeneration := 0, sessionCookie := 0, body := .hello 1 1 0 0 }

/-- A Cell hears a `HELLO`, and its answer is taken. -/
def answeredRun : List LogicalCall :=
  [.bind upIo, .step { now := 0, pump := deliverIo (messageFrame 0 sampleHello) blockedWrite },
    .step { now := 1, pump := quietIo (fullWrite 60) }]

/-- A Cell hears a `HELLO`; its answer is handed over, and an overflow fences the session before the
stream takes it. -/
def fencedRun : List LogicalCall :=
  [.bind upIo, .step { now := 0, pump := deliverIo (messageFrame 0 sampleHello) blockedWrite },
    .step { now := 1, pump := { quietIo blockedWrite with pollRxOverflow := true } }]

/-- A step in which the stream takes nothing. -/
def blockedStep : StepIo := { now := 2, pump := quietIo blockedWrite }

theorem answered_cell_activation :
    (CellActivation (.run (sampleConfig .cell) answeredRun) ∧
      (LogicalSession.run (sampleConfig .cell) answeredRun).state = .sessionActive) ∧
      (LogicalSession.run (sampleConfig .cell) (fencedRun ++ [.step blockedStep])).state ≠
        .sessionActive :=
  ⟨⟨(cell_activation (sampleConfig .cell) rfl answeredRun
    ⟨by decide +kernel, by decide +kernel, trivial⟩).1, by decide +kernel⟩,
    (cell_activation (sampleConfig .cell) rfl (fencedRun ++ [LogicalCall.step blockedStep])
      (cautious_append.2 ⟨⟨by decide +kernel, by decide +kernel, trivial⟩, by decide +kernel,
        trivial⟩)).2.2 fencedRun blockedStep [] rfl (by decide +kernel) (by decide +kernel)⟩

/-- A fenced Cell hears another `HELLO`, before the stream takes the answer to the first. -/
def renewedRun : List LogicalCall :=
  let hello := messageFrame 0 { sampleHello with requestId := 8 }
  fencedRun ++ [.step { now := 2, pump := deliverIo hello blockedWrite }]

/-- The fenced Cell becomes active when its answer is taken, also when it has heard another `HELLO`
by then: under the generation that it offered before the fence, and not under the last one. -/
theorem fenced_cell_activates :
    ((LogicalSession.run (sampleConfig .cell) fencedRun).state = .linkUpNoSession ∧
      (LogicalSession.run (sampleConfig .cell)
        (fencedRun ++ [.step { now := 2, pump := quietIo (fullWrite 60) }])).state =
        .sessionActive) ∧
    (LogicalSession.run (sampleConfig .cell) renewedRun).state = .helloReceived ∧
      (LogicalSession.run (sampleConfig .cell) renewedRun).lastIssuedGeneration = 2 ∧
      (LogicalSession.run (sampleConfig .cell)
        (renewedRun ++ [.step { now := 3, pump := quietIo (fullWrite 60) }])).state =
        .sessionActive ∧
      (LogicalSession.run (sampleConfig .cell)
        (renewedRun ++ [.step { now := 3, pump := quietIo (fullWrite 60) }])).activeGeneration =
        1 := by
  decide +kernel

end Ninlil.Control
