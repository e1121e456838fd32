import Ninlil.Control.Reaction

/-!
# The two sessions agree

A logical session and the control session embedded in it keep two copies of the tracked frame and
of the claimed epoch. Between calls they agree.

* `Coupled`: the invariant;
* `trackedSubmitTx_cases`, `resolveTracked_settling`: handing a frame over, and learning its outcome;
* `Pumped`: how the pump of a step ends;
* `Coupled.call`, `coupled_run`: the invariant holds in every reached state.
-/

namespace Ninlil.Control

/-- What the two sessions share. -/
structure Tie where
  trackedKind : TrackedKind
  trackedToken : UInt64
  epoch : LogicalEpoch
  epochClaimed : Bool
  core : Session

def LogicalSession.tie (s : LogicalSession) : Tie where
  trackedKind := s.trackedKind
  trackedToken := s.trackedToken
  epoch := s.epoch
  epochClaimed := s.epochClaimed
  core := rxOnlyColdApply s.u3

/-- The agreement of the two sessions. -/
structure Tie.Ok (t : Tie) : Prop where
  sound : Sound t.core
  tracked : t.trackedKind = .none ↔ t.core.trackedPhase = .none
  token : t.trackedToken = t.core.trackedToken
  claimed : t.epochClaimed = true → epochIsActiveMatch t.core t.epoch = true

/-- The invariant of a logical session between its calls. -/
structure Coupled (s : LogicalSession) : Prop where
  tie : s.tie.Ok
  rx : RxOk s.u3
  unsettled : s.u3.trackedPhase ≠ .terminal
  fenced : s.epochClaimed = false → s.state ≠ .disconnected → s.u3.state = .fenced
  down : s.state = .disconnected → s.trackedKind = .none ∧ s.epochClaimed = false

variable {u : Session}

theorem sound_of_core (h : Sound (rxOnlyColdApply u)) :
    Sound u :=
  h.rx u.parser u.ingress

section Stages

variable {s s' : LogicalSession}

theorem Coupled.sound (h : Coupled s) : Sound s.u3 := sound_of_core h.tie.sound

theorem Coupled.tracked (h : Coupled s) : s.trackedKind = .none ↔ s.u3.trackedPhase = .none :=
  h.tie.tracked

theorem Coupled.claimed (h : Coupled s) (hc : s.epochClaimed = true) :
    epochIsActiveMatch s.u3 s.epoch = true := h.tie.claimed hc

theorem Coupled.token (h : Coupled s) : s.trackedToken = s.u3.trackedToken := h.tie.token

/-- A change that keeps what the two sessions share. -/
theorem Coupled.of_tie (h : Coupled s) (ht : s'.tie = s.tie) (hrx : RxOk s'.u3)
    (hup : s.state ≠ .disconnected) (hup' : s'.state ≠ .disconnected) : Coupled s' where
  tie := by rw [ht]; exact h.tie
  rx := hrx
  unsettled := by
    have hphase : s'.u3.trackedPhase = s.u3.trackedPhase :=
      congrArg (fun t : Tie => t.core.trackedPhase) ht
    rw [hphase]
    exact h.unsettled
  fenced hc _ := by
    have hclaim : s'.epochClaimed = s.epochClaimed := congrArg Tie.epochClaimed ht
    have hstate : s'.u3.state = s.u3.state := congrArg (fun t : Tie => t.core.state) ht
    rw [hstate]
    exact h.fenced (hclaim.symm.trans hc) hup
  down hd := absurd hd hup'

theorem Local.tie (h : Local s s') : s'.tie = s.tie :=
  congrArg (fun t : TxSide =>
    Tie.mk t.trackedKind t.trackedToken t.epoch t.epochClaimed t.core) h.side

theorem Coupled.local (h : Coupled s) (hl : Local s s') (hup : s.state ≠ .disconnected) :
    Coupled s' := h.of_tie hl.tie (hl.rx h.rx) hup (hl.up hup)

/-- The control session of a claimed epoch. -/
theorem Coupled.claimedSession (h : Coupled s) (hc : s.epochClaimed = true) :
    ClaimedSession s.u3 :=
  ⟨h.sound, h.rx, epochIsActiveMatch_claimed (h.claimed hc), fun hp => absurd hp h.unsettled⟩

/-- Without a claimed epoch nothing is tracked. -/
theorem Coupled.untracked (h : Coupled s) (hc : s.epochClaimed = false) : s.trackedKind = .none := by
  by_cases hup : s.state = .disconnected
  · exact (h.down hup).1
  · have hfenced := h.fenced hc hup
    rcases h.sound.slot_detached (.inr (by rw [hfenced]; decide)) with ⟨hp, -⟩ | ⟨hp, -⟩
    · exact h.tracked.2 hp
    · exact absurd hp h.unsettled

/-! ### Submitting -/

/-- What the exhaustion of the transmit sequence leaves alone. -/
theorem tie_applyTxSeqTerminalExhaust (s : LogicalSession) :
    (applyTxSeqTerminalExhaust s).tie = s.tie := by
  have hcold := (local_rxOnlyCold { clearNotice (sessionToLinkUpNoSession s) with
    helloTimerArmed := false, nextTxSeq := 0 }).tie
  unfold applyTxSeqTerminalExhaust
  dsimp only
  split_ifs
  · exact hcold
  · exact hcold

theorem rx_applyTxSeqTerminalExhaust (h : RxOk s.u3) : RxOk (applyTxSeqTerminalExhaust s).u3 := by
  have hcold := (local_rxOnlyCold { clearNotice (sessionToLinkUpNoSession s) with
    helloTimerArmed := false, nextTxSeq := 0 }).rx h
  unfold applyTxSeqTerminalExhaust
  dsimp only
  split_ifs
  · exact hcold
  · exact hcold

theorem state_applyTxSeqTerminalExhaust (s : LogicalSession) :
    (applyTxSeqTerminalExhaust s).state = .linkUpNoSession := by
  unfold applyTxSeqTerminalExhaust
  dsimp only
  split_ifs <;> rfl

/-- The control session after it took a frame. -/
def submitted (u : Session) (fields : FrameFields) : Session :=
  { u with
    intent := u.intent ++ [{ fields, trackedToken := u.tokenNext }]
    tokenNext := nextId u.tokenNext
    trackedPhase := .intent
    trackedToken := u.tokenNext
    trackedResolution := .pendingUnaccepted
    log := .submitted u.tokenNext fields :: u.log }

/-- A frame is taken, or refused: then at most a token is lost. -/
theorem trackedSubmitTx_cases (u : Session) (epoch : LogicalEpoch) (fields : FrameFields) :
    (trackedSubmitTx u epoch fields = (.ok, u.tokenNext, submitted u fields) ∧
      u.trackedPhase = .none ∧ u.tokenNext ≠ 0) ∨
    ∃ st next, st ≠ .ok ∧ trackedSubmitTx u epoch fields = (st, 0, { u with tokenNext := next }) := by
  unfold trackedSubmitTx
  split_ifs with h1 h2 h3 h4
  · exact .inr ⟨.staleEpoch, u.tokenNext, nofun, rfl⟩
  · exact .inr ⟨.txBusy, u.tokenNext, nofun, rfl⟩
  · exact .inr ⟨.tokenExhausted, u.tokenNext, nofun, rfl⟩
  · exact .inr ⟨.invalidArgument, u.tokenNext, nofun, rfl⟩
  · dsimp only
    split
    · exact .inr ⟨.wouldBlock, nextId u.tokenNext, nofun, rfl⟩
    · rename_i queued henq
      rw [intentTryEnqueue_eq_some henq]
      exact .inl ⟨rfl, not_not.1 h2, h3⟩

/-- What `try_submit_tracked` can do. -/
inductive Submission (s : LogicalSession) : LogicalSession → Prop
  | unchanged : Submission s s
  /-- The transmit sequence is used up. -/
  | exhausted (untracked : s.trackedKind = .none) (claimed : s.epochClaimed = true)
      (seq : s.nextTxSeq = seqMax) : Submission s (applyTxSeqTerminalExhaust s)
  /-- An action that cannot be encoded is dropped. -/
  | dropped {a : TxAction} {rest : List TxAction} (queue : s.actions = a :: rest) :
      Submission s { s with actions := rest }
  /-- The control session refused the frame. -/
  | refused {next : UInt64} (sound : Sound s.u3 → Sound { s.u3 with tokenNext := next }) :
      Submission s { s with u3 := { s.u3 with tokenNext := next } }
  /-- The notice was handed over. -/
  | notice {n : Notice} {payload : List UInt8} (untracked : s.trackedKind = .none)
      (claimed : s.epochClaimed = true) (seq : s.nextTxSeq ≠ seqMax) (pending : s.notice = some n)
      (encoded : encodeMessage n.message = some payload) (fresh : s.u3.tokenNext ≠ 0)
      (sound : Sound s.u3 → Sound (submitted s.u3 (s.frame ncg1TypeReset payload))) :
      Submission s { s with
        u3 := submitted s.u3 (s.frame ncg1TypeReset payload)
        trackedKind := .notice
        trackedToken := s.u3.tokenNext
        trackedSequence := s.nextTxSeq
        trackedTxKind := .reset
        trackedFenced := false }
  /-- The first action was handed over. -/
  | action {a : TxAction} {rest : List TxAction} {payload : List UInt8}
      (untracked : s.trackedKind = .none) (claimed : s.epochClaimed = true)
      (seq : s.nextTxSeq ≠ seqMax) (queue : s.actions = a :: rest)
      (encoded : encodeActionPayload a = some payload) (fresh : s.u3.tokenNext ≠ 0)
      (sound : Sound s.u3 → Sound (submitted s.u3 (s.frame a.kind.ncg1Type payload))) :
      Submission s { s with
        u3 := submitted s.u3 (s.frame a.kind.ncg1Type payload)
        trackedKind := .ordinary
        trackedToken := s.u3.tokenNext
        trackedSequence := s.nextTxSeq
        trackedTxKind := a.kind
        trackedFenced := false
        trackedGeneration := a.sessionGeneration
        trackedCookie := a.sessionCookie
        trackedHelloResult := a.helloResult
        trackedResetCode := a.resetCode
        actions := rest }

theorem trySubmitTracked_submission (s : LogicalSession) : Submission s (trySubmitTracked s).2 := by
  unfold trySubmitTracked
  split_ifs with h1 h2 h3
  · exact .unchanged
  · exact .unchanged
  · exact .exhausted (not_not.1 h1) (Bool.not_eq_false _ ▸ h2) h3
  · have huntracked := not_not.1 h1
    have hclaimed : s.epochClaimed = true := Bool.not_eq_false _ ▸ h2
    split
    · rename_i n _ hn
      unfold submitNotice
      split
      · exact .unchanged
      · rename_i payload henc
        have hsound := fun h : Sound s.u3 => h.trackedSubmit s.epoch (s.frame ncg1TypeReset payload)
        rcases trackedSubmitTx_cases s.u3 s.epoch (s.frame ncg1TypeReset payload) with
          ⟨hok, -, hfresh⟩ | ⟨st, next, hne, hbad⟩
        · rw [hok] at hsound ⊢
          exact .notice huntracked hclaimed h3 hn henc hfresh hsound
        · rw [hbad] at hsound ⊢
          split
          · rename_i heq
            cases heq
            exact absurd rfl hne
          · rename_i heq
            cases heq
            exact .refused hsound
    · exact .unchanged
    · rename_i a rest _ hq
      unfold submitAction
      split
      · exact .dropped hq
      · rename_i payload henc
        have hsound := fun h : Sound s.u3 =>
          h.trackedSubmit s.epoch (s.frame a.kind.ncg1Type payload)
        rcases trackedSubmitTx_cases s.u3 s.epoch (s.frame a.kind.ncg1Type payload) with
          ⟨hok, -, hfresh⟩ | ⟨st, next, hne, hbad⟩
        · rw [hok] at hsound ⊢
          exact .action huntracked hclaimed h3 hq henc hfresh hsound
        · rw [hbad] at hsound ⊢
          split
          · rename_i heq
            cases heq
            exact absurd rfl hne
          · rename_i heq
            cases heq
            exact .refused hsound

/-- A frame is handed over. -/
theorem Coupled.submitted (h : Coupled s) (hup : s.state ≠ .disconnected)
    (hc : s.epochClaimed = true) {fields : FrameFields}
    (hsound : Sound (Control.submitted s.u3 fields))
    (hu3 : s'.u3 = Control.submitted s.u3 fields) (hkind : s'.trackedKind ≠ .none)
    (htoken : s'.trackedToken = s.u3.tokenNext) (hepoch : s'.epoch = s.epoch)
    (hclaimed : s'.epochClaimed = s.epochClaimed) (hstate : s'.state = s.state) : Coupled s' where
  tie := by
    have hcore : s'.tie.core = rxOnlyColdApply (Control.submitted s.u3 fields) :=
      congrArg rxOnlyColdApply hu3
    refine ⟨?_, ?_, ?_, fun _ => ?_⟩
    · rw [hcore]; exact hsound.cold
    · rw [hcore]; exact iff_of_false hkind nofun
    · rw [hcore]; exact htoken
    · rw [hcore, show s'.tie.epoch = s.epoch from hepoch]
      exact h.claimed hc
  rx := by rw [hu3]; exact h.rx.congr rfl rfl (List.subset_cons_self _ _)
  unsettled := by rw [hu3]; exact nofun
  fenced hf _ := absurd ((hclaimed.trans hc).symm.trans hf) (by decide)
  down hd := absurd (hstate.symm.trans hd) hup

theorem Coupled.submission (h : Coupled s) (hup : s.state ≠ .disconnected)
    (hs : Submission s s') : Coupled s' ∧ s'.state ≠ .disconnected := by
  cases hs with
  | unchanged => exact ⟨h, hup⟩
  | exhausted =>
    have hst : (applyTxSeqTerminalExhaust s).state ≠ .disconnected := by
      rw [state_applyTxSeqTerminalExhaust]
      decide
    exact ⟨h.of_tie (tie_applyTxSeqTerminalExhaust s) (rx_applyTxSeqTerminalExhaust h.rx)
      hup hst, hst⟩
  | dropped => exact ⟨h.of_tie rfl h.rx hup hup, hup⟩
  | refused sound =>
    refine ⟨⟨⟨(sound h.sound).cold, h.tie.tracked, h.tie.token, h.tie.claimed⟩,
      h.rx.congr rfl rfl (List.Subset.refl _),
      h.unsettled, h.fenced, h.down⟩, hup⟩
  | notice _ claimed _ _ _ _ sound =>
    exact ⟨h.submitted hup claimed (sound h.sound) rfl nofun rfl rfl rfl rfl, hup⟩
  | action _ claimed _ _ _ _ sound =>
    exact ⟨h.submitted hup claimed (sound h.sound) rfl nofun rfl rfl rfl rfl, hup⟩

theorem Coupled.prepare (h : Coupled s) (hup : s.state ≠ .disconnected) (now : UInt64) :
    Coupled (prepareStep s now).2 ∧ (prepareStep s now).2.state ≠ .disconnected := by
  have hclock : Coupled { s with nowMs := now, haveNow := true } := h.of_tie rfl h.rx hup hup
  have hlocal := local_runTimers { s with nowMs := now, haveNow := true }
  exact (hclock.local hlocal hup).submission (hlocal.up hup) (trySubmitTracked_submission _)

/-! ### Pumping -/

/-- How the pump of a step ends. -/
inductive Pumped (s : LogicalSession) (io : PumpIo) : SessionStatus × Session → Prop
  /-- The epoch was lost before. -/
  | off (claimed : s.epochClaimed = false) (state : s.u3.state = .fenced) :
      Pumped s io (.continuityLost, s.u3)
  /-- A malformed read, which does not fence. -/
  | malformed {r : SessionStatus × Session} (claimed : s.epochClaimed = true)
      (meets : pumpMeetsMalformedRead s.u3 io = true) (failed : ReadFailed s.u3 r) : Pumped s io r
  | ended {r : SessionStatus × Session} (claimed : s.epochClaimed = true)
      (meets : pumpMeetsMalformedRead s.u3 io = false) (ending : Ending s.u3 r) : Pumped s io r

theorem Coupled.pumped (h : Coupled s) (hup : s.state ≠ .disconnected) (io : PumpIo) :
    Pumped s io (pump s.u3 io) := by
  by_cases hc : s.epochClaimed = true
  · rcases pump_claimed (h.claimedSession hc) io with ⟨hm, hfail⟩ | ⟨hm, hend⟩
    · exact .malformed hc hm hfail
    · exact .ended hc hm hend
  · have hc : s.epochClaimed = false := Bool.eq_false_iff.2 hc
    have hf := h.fenced hc hup
    have hpump : pump s.u3 io = (.continuityLost, s.u3) := by
      rw [pump, if_pos (.inl (by rw [hf]; decide)), if_pos hf]
    rw [hpump]
    exact .off hc hf

/-! ### Resolving -/

/-- The outcome of the tracked frame was told. -/
def told (s : LogicalSession) : LogicalSession :=
  { s with u3 := consumeTracked s.u3 s.trackedToken s.u3.trackedResolution }

/-- What `resolve_tracked` can do. -/
inductive Settling (s : LogicalSession) : LogicalSession → Prop
  | idle (untracked : s.trackedKind = .none) : Settling s s
  | pending (tracked : s.trackedKind ≠ .none) (unsettled : s.u3.trackedPhase ≠ .terminal) :
      Settling s s
  | accepted (tracked : s.trackedKind ≠ .none) (settled : s.u3.trackedPhase = .terminal)
      (outcome : s.u3.trackedResolution = .rawAcceptedCurrentEpoch) :
      Settling s (clearTracked (onRawAccepted (told s)))
  | cancelled (tracked : s.trackedKind ≠ .none) (settled : s.u3.trackedPhase = .terminal)
      (outcome : s.u3.trackedResolution = .cancelledUnaccepted) :
      Settling s (clearTracked (told s))
  | fencedUnaccepted (tracked : s.trackedKind ≠ .none) (settled : s.u3.trackedPhase = .terminal)
      (outcome : s.u3.trackedResolution = .fencedUnaccepted) :
      Settling s { clearTracked (told s) with epochClaimed := false }
  | acceptedThenFenced (tracked : s.trackedKind ≠ .none) (settled : s.u3.trackedPhase = .terminal)
      (outcome : s.u3.trackedResolution = .rawAcceptedThenFenced) :
      Settling s { clearTracked (harvestAccept (told s)) with epochClaimed := false }
  | indeterminate (tracked : s.trackedKind ≠ .none) (settled : s.u3.trackedPhase = .terminal)
      (outcome : s.u3.trackedResolution = .indeterminatePartial) :
      Settling s (sessionToLinkUpNoSession { clearTracked (told s) with epochClaimed := false })

/-- The two sessions agree about the tracked frame, settled or not. -/
structure Tracked (s : LogicalSession) : Prop where
  sound : Sound s.u3
  tracked : s.trackedKind = .none ↔ s.u3.trackedPhase = .none
  token : s.trackedToken = s.u3.trackedToken

theorem Tracked.live (h : Tracked s) (ht : s.trackedKind ≠ .none) :
    s.u3.trackedPhase ≠ .none ∧ s.u3.trackedToken ≠ 0 := by
  have hp : s.u3.trackedPhase ≠ .none := fun hp => ht (h.tracked.2 hp)
  refine ⟨hp, ?_⟩
  cases h.sound.slot with
  | free phase => exact absurd phase hp
  | intent _ token => exact token
  | wire _ token => exact token
  | terminal _ token => exact token

theorem Tracked.settles (h : Tracked s) (hp : s.u3.trackedPhase = .terminal) :
    Settles (offersOf s.u3.log s.u3.trackedToken) s.u3.trackedResolution := by
  cases h.sound.slot with
  | free phase => exact absurd (phase.symm.trans hp) (by decide)
  | intent phase => exact absurd (phase.symm.trans hp) (by decide)
  | wire phase => exact absurd (phase.symm.trans hp) (by decide)
  | terminal _ _ _ settles => exact settles

theorem resolveTracked_settling (h : Tracked s) : Settling s (resolveTracked s).2 := by
  unfold resolveTracked
  split_ifs with h1
  · exact .idle h1
  · obtain ⟨hp, ht⟩ := h.live h1
    have hzero : s.trackedToken ≠ 0 := by rw [h.token]; exact ht
    have hstale : ¬ (s.u3.trackedPhase = .none ∨ s.u3.trackedToken ≠ s.trackedToken) := by
      rw [h.token]
      simpa using hp
    rw [txResolve, if_neg hzero, if_neg hstale]
    by_cases hterm : s.u3.trackedPhase = .terminal
    · have hset := h.settles hterm
      rw [if_pos hterm]
      dsimp only
      split
      · rename_i hr; exact absurd hr hset.terminal
      · rename_i hr; exact .accepted h1 hterm hr
      · rename_i hr; exact .cancelled h1 hterm hr
      · rename_i hr; exact .fencedUnaccepted h1 hterm hr
      · rename_i hr; exact .acceptedThenFenced h1 hterm hr
      · rename_i hr; exact .indeterminate h1 hterm hr
    · rw [if_neg hterm, if_neg (by decide)]
      exact .pending h1 hterm

/-- After the sequence number is consumed, a raw accept leaves the transmit side alone. -/
theorem local_onRawAccepted (s : LogicalSession) : Local (harvestAccept s) (onRawAccepted s) := by
  have hdeadline : ∀ (t : LogicalSession) (kind : InflightKind) (deadline : UInt64),
      Local t (setInflightDeadline t kind deadline) := by
    intro t kind deadline
    unfold setInflightDeadline
    split
    · exact .refl t
    · exact ⟨rfl, id, id⟩
  unfold onRawAccepted
  dsimp only
  generalize harvestAccept s = t
  split_ifs
  · exact ⟨rfl, id, id⟩
  · split
    · unfold onAckAccepted
      split_ifs
      · exact .refl t
      · exact ⟨rfl, id, fun _ => nofun⟩
      · exact ⟨rfl, id, fun _ => nofun⟩
    · unfold onHelloAccepted
      split
      · exact local_overflowed t
      · exact hdeadline t _ _
    · unfold onPingAccepted
      dsimp only
      split
      · exact ⟨rfl, id, id⟩
      · refine .trans ?_ (hdeadline _ .ping _)
        exact ⟨rfl, id, id⟩
    · unfold onResetAccepted
      split_ifs
      · dsimp only
        split_ifs
        · split
          · exact (local_fence t).trans (local_overflowed _)
          · exact (local_fence t).trans (local_arm _ _)
        · exact local_fence t
      · exact (local_rxOnlyCold t).trans (local_fence _)
      · exact .refl t
    · exact .refl t

/-- Where a prepared session stands after the pump and the resolve of a step, with the pump's
status. -/
inductive Outcome (s : LogicalSession) (io : PumpIo) : SessionStatus → LogicalSession → Prop
  | off (claimed : s.epochClaimed = false) (state : s.u3.state = .fenced)
      (untracked : s.trackedKind = .none) : Outcome s io .continuityLost s
  | malformed {u : Session} (claimed : s.epochClaimed = true)
      (meets : pumpMeetsMalformedRead s.u3 io = true) (session : ClaimedSession u)
      (same : SameButRx s.u3 u) (grown : Grown s.u3 u) :
      Outcome s io .ioError { s with u3 := u }
  | kept {st : SessionStatus} {u : Session} (claimed : s.epochClaimed = true)
      (session : ClaimedSession u) (stays : StaysClaimed s.u3 u) (status : st.mild = true)
      (grown : Grown s.u3 u) (unsettled : u.trackedPhase ≠ .terminal) :
      Outcome s io st { s with u3 := u }
  | accepted {st : SessionStatus} {u : Session} (claimed : s.epochClaimed = true)
      (session : ClaimedSession u) (stays : StaysClaimed s.u3 u) (status : st.mild = true)
      (grown : Grown s.u3 u) (tracked : s.trackedKind ≠ .none) (settled : u.trackedPhase = .terminal)
      (outcome : u.trackedResolution = .rawAcceptedCurrentEpoch) (pumped : u = (pump s.u3 io).2) :
      Outcome s io st (clearTracked (onRawAccepted (told { s with u3 := u })))
  | fenced {st : SessionStatus} {u : Session} {r : LogicalSession} (claimed : s.epochClaimed = true)
      (meets : pumpMeetsMalformedRead s.u3 io = false) (sound : Sound u) (state : u.state = .fenced)
      (rx : RxOk u) (status : st.lost = true) (grown : Grown s.u3 u)
      (settling : Settling { s with u3 := u } r) (untracked : r.trackedKind = .none) :
      Outcome s io st r

/-- The phase is free exactly when there is no token. -/
theorem Sound.free_iff (h : Sound u) : u.trackedPhase = .none ↔ u.trackedToken = 0 := by
  cases h.slot with
  | free phase token => exact iff_of_true phase token
  | intent phase token =>
    exact iff_of_false (by rw [show u.trackedPhase = _ from phase]; decide) token
  | wire phase token => exact iff_of_false (by rw [show u.trackedPhase = _ from phase]; decide) token
  | terminal phase token =>
    exact iff_of_false (by rw [show u.trackedPhase = _ from phase]; decide) token

/-- A pump keeps the agreement about the tracked frame. -/
theorem Coupled.tracked_pump (h : Coupled s) (hs : Sound u) (hg : Grown s.u3 u) :
    Tracked { s with u3 := u } where
  sound := hs
  tracked := by
    show s.trackedKind = .none ↔ u.trackedPhase = .none
    rw [hs.free_iff, hg.token, ← h.sound.free_iff]
    exact h.tracked
  token := by
    show s.trackedToken = u.trackedToken
    rw [hg.token]
    exact h.tie.token

theorem trackedKind_of_settling (hs : Settling s s') :
    s'.trackedKind = .none ∨ s'= s ∧ s.trackedKind ≠ .none ∧ s.u3.trackedPhase ≠ .terminal := by
  cases hs with
  | idle untracked => exact .inl untracked
  | pending tracked unsettled => exact .inr ⟨rfl, tracked, unsettled⟩
  | accepted | cancelled | fencedUnaccepted | acceptedThenFenced | indeterminate => exact .inl rfl

theorem Coupled.outcome (h : Coupled s) (hup : s.state ≠ .disconnected) (io : PumpIo) :
    Outcome s io (pumpStep s io).1 (resolveTracked (pumpStep s io).2).2 := by
  have hsound := h.sound.pump io
  have hpumped := h.pumped hup io
  unfold pumpStep
  cases hr : pump s.u3 io with
  | mk st u =>
    rw [hr] at hsound hpumped
    dsimp only at hsound ⊢
    have hset : Grown s.u3 u → Settling { s with u3 := u } (resolveTracked { s with u3 := u }).2 :=
      fun hg => resolveTracked_settling (h.tracked_pump hsound hg)
    cases hpumped with
    | off claimed state =>
      have huntracked := h.untracked claimed
      rw [resolveTracked, if_pos huntracked]
      exact .off claimed state huntracked
    | malformed claimed meets failed =>
      obtain rfl : st = .ioError := failed.status
      have hphase : u.trackedPhase ≠ .terminal := by
        rw [show u.trackedPhase = s.u3.trackedPhase from failed.same.phase]
        exact h.unsettled
      have hsame : (resolveTracked { s with u3 := u }).2 = { s with u3 := u } := by
        have hs := hset failed.grown
        generalize (resolveTracked { s with u3 := u }).2 = r at hs
        cases hs with
        | idle | pending => rfl
        | accepted _ settled => exact absurd settled hphase
        | cancelled _ settled => exact absurd settled hphase
        | fencedUnaccepted _ settled => exact absurd settled hphase
        | acceptedThenFenced _ settled => exact absurd settled hphase
        | indeterminate _ settled => exact absurd settled hphase
      rw [hsame]
      exact .malformed claimed meets failed.session failed.same failed.grown
    | ended claimed meets ending =>
      cases ending with
      | fenced state rx status grown =>
        have hs := hset grown
        refine .fenced claimed meets hsound state rx status grown hs ?_
        rcases trackedKind_of_settling hs with hnone | ⟨-, htracked, hterm⟩
        · exact hnone
        · exfalso
          rcases hsound.slot_detached (.inr (by rw [state]; decide)) with ⟨hp, -⟩ | ⟨hp, -⟩
          · exact htracked ((h.tracked_pump hsound grown).tracked.2 hp)
          · exact hterm hp
      | claimed session stays status grown =>
        have hs := hset grown
        generalize (resolveTracked { s with u3 := u }).2 = r at hs
        by_cases hterm : u.trackedPhase = .terminal
        · have hres := session.accepted hterm
          cases hs with
          | idle untracked =>
            have hp := (h.tracked_pump hsound grown).tracked.1 untracked
            exact absurd (hterm.symm.trans hp) (by decide)
          | pending _ unsettled => exact absurd hterm unsettled
          | accepted tracked _ outcome =>
            exact .accepted claimed session stays status grown tracked hterm outcome (by rw [hr])
          | cancelled _ _ outcome => exact absurd (hres.symm.trans outcome) (by decide)
          | fencedUnaccepted _ _ outcome => exact absurd (hres.symm.trans outcome) (by decide)
          | acceptedThenFenced _ _ outcome => exact absurd (hres.symm.trans outcome) (by decide)
          | indeterminate _ _ outcome => exact absurd (hres.symm.trans outcome) (by decide)
        · cases hs with
          | idle | pending => exact .kept claimed session stays status grown hterm
          | accepted _ settled => exact absurd settled hterm
          | cancelled _ settled => exact absurd settled hterm
          | fencedUnaccepted _ settled => exact absurd settled hterm
          | acceptedThenFenced _ settled => exact absurd settled hterm
          | indeterminate _ settled => exact absurd settled hterm

/-- The settled frame is given free on both sides. -/
theorem Tracked.clear (h : Tracked s) (hp : s.u3.trackedPhase = .terminal)
    (hcore : rxOnlyColdApply s'.u3 = rxOnlyColdApply (told s).u3) : Tracked (clearTracked s') := by
  have hne : s.trackedKind ≠ .none := fun hn => absurd (hp.symm.trans (h.tracked.1 hn)) (by decide)
  have htoken : s.trackedToken ≠ 0 := by
    rw [h.token]
    exact (h.live hne).2
  have hstale : ¬ (s.u3.trackedPhase = .none ∨ s.u3.trackedToken ≠ s.trackedToken) := by
    rintro (hn | hn)
    · exact absurd (hp.symm.trans hn) (by decide)
    · exact hn h.token.symm
  have hsound : Sound (told s).u3 := by
    have hres := h.sound.resolve s.trackedToken false
    rw [txResolve, if_neg htoken, if_neg hstale, if_pos hp] at hres
    exact hres
  have hphase : s'.u3.trackedPhase = .none :=
    (congrArg Session.trackedPhase hcore : _)
  have htok : s'.u3.trackedToken = 0 := (congrArg Session.trackedToken hcore : _)
  refine ⟨sound_of_core ?_, iff_of_true rfl hphase, htok.symm⟩
  show Sound (rxOnlyColdApply s'.u3)
  rw [hcore]
  exact hsound.cold

theorem core_onRawAccepted (s : LogicalSession) :
    rxOnlyColdApply (onRawAccepted s).u3 = rxOnlyColdApply s.u3 :=
  congrArg Tie.core (local_onRawAccepted s).tie

/-- What a settled session keeps. -/
theorem Tracked.settling (h : Tracked s) (hs : Settling s s') :
    Tracked s' ∧ (RxOk s.u3 → RxOk s'.u3) ∧ s'.u3.state = s.u3.state := by
  cases hs with
  | idle | pending => exact ⟨h, id, rfl⟩
  | accepted _ settled =>
    have hcore := core_onRawAccepted (told s)
    have hstate : (onRawAccepted (told s)).u3.state = s.u3.state :=
      (congrArg Session.state hcore : _)
    exact ⟨h.clear settled hcore,
      fun hrx => (local_onRawAccepted (told s)).rx (hrx.congr rfl rfl (List.subset_cons_self _ _)),
      hstate⟩
  | cancelled _ settled =>
    exact ⟨h.clear settled rfl, fun hrx => hrx.congr rfl rfl (List.subset_cons_self _ _), rfl⟩
  | fencedUnaccepted _ settled =>
    have hclear : Tracked (clearTracked (told s)) := h.clear settled rfl
    exact ⟨⟨hclear.sound, hclear.tracked, hclear.token⟩,
      fun hrx => hrx.congr rfl rfl (List.subset_cons_self _ _), rfl⟩
  | acceptedThenFenced _ settled =>
    have hclear : Tracked (clearTracked (harvestAccept (told s))) := h.clear settled rfl
    exact ⟨⟨hclear.sound, hclear.tracked, hclear.token⟩,
      fun hrx => hrx.congr rfl rfl (List.subset_cons_self _ _), rfl⟩
  | indeterminate _ settled =>
    have hclear : Tracked (clearTracked (told s)) := h.clear settled rfl
    exact ⟨⟨hclear.sound, hclear.tracked, hclear.token⟩,
      fun hrx => hrx.congr rfl rfl (List.subset_cons_self _ _), rfl⟩

/-! ### The pump's status -/

variable {st : SessionStatus}

theorem apply_mild (h : st.mild = true) (s : LogicalSession) :
    (applyU3PumpStatus s st).2 = s ∨ (applyU3PumpStatus s st).2 = continuityLoss s := by
  cases st with
  | ok | wouldBlock => exact .inl rfl
  | rxOverflow => exact .inr rfl
  | wrongOwner | invalidArgument => exact .inl rfl
  | _ => exact absurd h (by decide)

theorem apply_lost (h : st.lost = true) (s : LogicalSession) :
    (applyU3PumpStatus s st).2 = onEpochLost s ∨ (applyU3PumpStatus s st).2 = onLinkLost s := by
  cases st with
  | generationMismatch => exact .inl rfl
  | closed | errLinkDown | ioError => exact .inr rfl
  | _ => exact absurd h (by decide)

theorem local_clears (s : LogicalSession) :
    Local s (clearActive (clearNotice (clearOrdinaryActions (dropAllInflight s)))) :=
  ⟨rfl, id, id⟩

theorem onLinkLost_untracked (h : s.trackedKind = .none) :
    onLinkLost s = { clearActive (clearNotice (clearOrdinaryActions (dropAllInflight s))) with
      epochClaimed := false, state := .disconnected, haveRxSeq := false } := by
  unfold onLinkLost
  dsimp only
  rw [if_pos h]
  exact if_pos h

theorem onLinkLost_tracked (h : s.trackedKind ≠ .none) :
    onLinkLost s = sessionToLinkUpNoSession
      (clearActive (clearNotice (clearOrdinaryActions (dropAllInflight s)))) := by
  unfold onLinkLost
  dsimp only
  rw [if_neg h]
  exact if_neg h

theorem onEpochLost_untracked (h : s.trackedKind = .none) :
    onEpochLost s = fenceAndRehello { s with epochClaimed := false } := by
  unfold onEpochLost
  rw [if_pos h]

/-- The session whose control session was fenced, its frame settled. -/
theorem Tracked.coupled_off (h : Tracked s) (hrx : RxOk s.u3) (hk : s.trackedKind = .none)
    (hc : s.epochClaimed = false) (hf : s.u3.state = .fenced) : Coupled s where
  tie := ⟨h.sound.cold, h.tracked, h.token, fun hc' => absurd (hc.symm.trans hc') (by decide)⟩
  rx := hrx
  unsettled := by
    rw [h.tracked.1 hk]
    decide
  fenced _ _ := hf
  down _ := ⟨hk, hc⟩

theorem coupled_lost (h : Tracked s) (hrx : RxOk s.u3) (hk : s.trackedKind = .none)
    (hf : s.u3.state = .fenced) : Coupled (onEpochLost s) ∧ Coupled (onLinkLost s) := by
  have hoff : Coupled { s with epochClaimed := false, state := .linkUpNoSession } :=
    Tracked.coupled_off ⟨h.sound, h.tracked, h.token⟩ hrx hk rfl hf
  constructor
  · rw [onEpochLost_untracked hk]
    exact hoff.of_tie (local_fenceAndRehello _).tie ((local_fenceAndRehello _).rx hrx) nofun
      (by unfold fenceAndRehello; dsimp only; split_ifs <;> exact nofun)
  · rw [onLinkLost_untracked hk]
    exact Tracked.coupled_off ⟨h.sound, h.tracked, h.token⟩ hrx hk rfl hf

/-- The epoch of a session that stays claimed. -/
theorem Coupled.stays (h : Coupled s) (hc : s.epochClaimed = true)
    (stays : StaysClaimed s.u3 u) : epochIsActiveMatch u s.epoch = true := by
  have hmatch := h.claimed hc
  have hold := h.claimedSession hc
  unfold epochIsActiveMatch at hmatch ⊢
  rw [stays.claimed, stays.state, stays.active, stays.boundGen, stays.boundGeneration]
  rw [hold.claimed, hold.state] at hmatch
  exact hmatch

theorem Coupled.apply (h : Coupled s) (hup : s.state ≠ .disconnected) {io : PumpIo}
    (ho : Outcome s io st s') : Coupled (applyU3PumpStatus s' st).2 := by
  cases ho with
  | off claimed state untracked =>
    exact (coupled_lost ⟨h.sound, h.tracked, h.tie.token⟩ h.rx untracked state).1
  | @malformed u claimed meets session same grown =>
    have ht := h.tracked_pump session.sound grown
    have hphase : u.trackedPhase ≠ .terminal := by
      rw [same.phase]
      exact h.unsettled
    show Coupled (onLinkLost { s with u3 := u })
    by_cases hk : s.trackedKind = .none
    · rw [onLinkLost_untracked (s := { s with u3 := u }) hk]
      exact ⟨⟨session.sound.cold, ht.tracked, ht.token, nofun⟩, session.rx, hphase,
        fun _ hup => absurd rfl hup, fun _ => ⟨hk, rfl⟩⟩
    · have hmatch : epochIsActiveMatch u s.epoch = true := by
        have hmatch := h.claimed claimed
        unfold epochIsActiveMatch at hmatch ⊢
        rw [same.claimed, same.state, same.active, same.boundGen, same.boundGeneration]
        exact hmatch
      have hq : Coupled { s with u3 := u } :=
        ⟨⟨session.sound.cold, ht.tracked, ht.token, fun _ => hmatch⟩, session.rx, hphase,
          fun hc => absurd (claimed.symm.trans hc) (by decide), fun hd => absurd hd hup⟩
      rw [onLinkLost_tracked (s := { s with u3 := u }) hk]
      exact hq.local ((local_clears _).trans (local_fence _)) hup
  | @kept st u claimed session stays status grown unsettled =>
    have ht := h.tracked_pump session.sound grown
    have hmatch := h.stays claimed stays
    have hq : Coupled { s with u3 := u } :=
      ⟨⟨session.sound.cold, ht.tracked, ht.token, fun _ => hmatch⟩, session.rx, unsettled,
        fun hc => absurd (claimed.symm.trans hc) (by decide), fun hd => absurd hd hup⟩
    rcases apply_mild status { s with u3 := u } with heq | heq
    · rw [heq]; exact hq
    · rw [heq]; exact hq.local (local_continuityLoss _) hup
  | @accepted st u claimed session stays status grown tracked settled outcome =>
    have ht := h.tracked_pump session.sound grown
    have hlocal := local_onRawAccepted (told { s with u3 := u })
    have hmatch := h.stays claimed stays
    have hcore := core_onRawAccepted (told { s with u3 := u })
    have hclear := ht.clear settled hcore
    have hclaimed : (onRawAccepted (told { s with u3 := u })).epochClaimed = true :=
      (congrArg Tie.epochClaimed hlocal.tie).trans claimed
    have hepoch : (onRawAccepted (told { s with u3 := u })).epoch = s.epoch :=
      congrArg Tie.epoch hlocal.tie
    have hstate : (onRawAccepted (told { s with u3 := u })).state ≠ .disconnected := hlocal.up hup
    have hphase : (onRawAccepted (told { s with u3 := u })).u3.trackedPhase = .none :=
      (congrArg Session.trackedPhase hcore : _)
    have hq : Coupled (clearTracked (onRawAccepted (told { s with u3 := u }))) := by
      refine ⟨⟨hclear.sound.cold, hclear.tracked, hclear.token, fun _ => ?_⟩,
        hlocal.rx (session.rx.congr rfl rfl (List.subset_cons_self _ _)), ?_,
        fun hc => absurd (hclaimed.symm.trans hc) (by decide), fun hd => absurd hd hstate⟩
      · show epochIsActiveMatch (rxOnlyColdApply (onRawAccepted (told { s with u3 := u })).u3)
          (onRawAccepted (told { s with u3 := u })).epoch = true
        rw [hcore, hepoch]
        exact hmatch
      · show (onRawAccepted (told { s with u3 := u })).u3.trackedPhase ≠ .terminal
        rw [hphase]
        decide
    rcases apply_mild status (clearTracked (onRawAccepted (told { s with u3 := u }))) with heq | heq
    · rw [heq]; exact hq
    · rw [heq]; exact hq.local (local_continuityLoss _) hstate
  | @fenced st u r claimed meets sound state rx status grown settling untracked =>
    obtain ⟨ht, hrx, hstate⟩ := (h.tracked_pump sound grown).settling settling
    have hlost := coupled_lost ht (hrx rx) untracked (hstate.trans state)
    rcases apply_lost status s' with heq | heq
    · rw [heq]; exact hlost.1
    · rw [heq]; exact hlost.2

/-! ### Bind and unbind -/

/-- What a bind of a logical session can do. -/
inductive Binding (s : LogicalSession) : LogicalSession → Prop
  | refused : Binding s s
  /-- The stream was attached, but the epochs are used up. -/
  | exhausted {u : Session} (down : s.state = .disconnected) (sound : Sound u) (rx : RxOk u)
      (state : u.state = .fenced) (phase : u.trackedPhase = .none) (token : u.trackedToken = 0)
      (log : u.log = s.u3.log) : Binding s { s with u3 := u, epoch := {} }
  | bound {u : Session} {epoch : LogicalEpoch} (down : s.state = .disconnected) (sound : Sound u)
      (rx : RxOk u) (claimed : epochIsActiveMatch u epoch = true) (phase : u.trackedPhase = .none)
      (token : u.trackedToken = 0) (log : ∃ id, u.log = .claimed id :: s.u3.log) :
      Binding s
        (let t := startSession { s with u3 := u, epoch := epoch, epochClaimed := true }
        if t.role = .controller then armRehello t (if t.haveNow then t.nowMs else 0) else t)

/-- The control session after it was bound. -/
def attached (u : Session) (io : BindIo) : Session :=
  { discardQueues (invalidateEpochClaim
      { u with stream := true, boundGeneration := io.generation, state := .bound }) with
    parser := {} }

theorem bind_cases (u : Session) (io : BindIo) :
    (u.state ≠ .bound ∧ bind u io = (.ok, attached u io)) ∨
      ∃ st, st ≠ .ok ∧ bind u io = (st, u) := by
  unfold bind
  split_ifs with h1 h2 h3
  · exact .inr ⟨.invalidState, nofun, rfl⟩
  · exact .inr ⟨.wrongOwner, nofun, rfl⟩
  · refine .inr ⟨_, ?_, rfl⟩
    cases hp : io.pollStatus <;> simp_all [mapStreamStatus]
  · exact .inr ⟨.invalidState, nofun, rfl⟩
  · exact .inl ⟨h1, rfl⟩

/-- The control session after an epoch was claimed on it. -/
def claimedBy (u : Session) : Session :=
  { u with
    epochNext := nextId u.epochNext
    epochClaimed := true
    epochActive := u.epochNext
    epochBoundGen := u.boundGeneration
    log := .claimed u.epochNext :: u.log }

/-- An epoch is claimed on a bound control session without leftovers, while there are any. -/
theorem logicalEpochBegin_attached {io : BindIo} (hp : u.trackedPhase = .none)
    (ht : u.trackedToken = 0) :
    logicalEpochBegin (attached u io) =
      if u.epochNext = 0 then (.epochExhausted, {}, attached u io)
      else (.ok, { epochId := u.epochNext, boundStreamGeneration := io.generation },
        rxOnlyColdApply (claimedBy (attached u io))) := by
  have htracked : ¬ ((attached u io).trackedPhase ≠ .none ∨ (attached u io).trackedToken ≠ 0) := by
    rintro (h | h)
    · exact h hp
    · exact h ht
  have hdirty : ¬ ((attached u io).intent ≠ [] ∨ (attached u io).txWire ≠ []) := by
    rintro (h | h) <;> exact h rfl
  have hclaimed : ¬ (attached u io).epochClaimed = true := nofun
  have hbound : ¬ (attached u io).state ≠ .bound := not_not.2 rfl
  unfold logicalEpochBegin
  rw [if_neg hbound, if_neg hclaimed, if_neg hdirty, if_neg htracked]
  rfl

theorem Coupled.binding (h : Coupled s) (io : BindIo) : Binding s (bindLogical s io).2 := by
  unfold bindLogical
  split_ifs with hdown
  · exact .refused
  · have hdown := not_not.1 hdown
    have hphase := h.tracked.1 (h.down hdown).1
    have htoken := h.sound.free_iff.1 hphase
    have hsound := h.sound.bind io
    rcases bind_cases s.u3 io with ⟨-, hok⟩ | ⟨st, hne, hbad⟩
    · rw [hok] at hsound ⊢
      dsimp only at hsound ⊢
      have hbegin := hsound.epochBegin
      rw [logicalEpochBegin_attached hphase htoken] at hbegin ⊢
      by_cases hnext : s.u3.epochNext = 0
      · rw [if_pos hnext]
        have hunbind : unbind (attached s.u3 io) =
            (.ok, fenceSession (attached s.u3 io) .fencedUnaccepted) := rfl
        dsimp only
        rw [hunbind]
        refine .exhausted hdown hsound.fence (rxOk_fence _ _) (state_fenceSession _ _) ?_
          ((trackedToken_fenceSession _ _).trans htoken) (log_fenceSession _ _)
        rw [hsound.fence.free_iff, trackedToken_fenceSession]
        exact htoken
      · rw [if_neg hnext] at hbegin ⊢
        refine .bound hdown hbegin (rxOk_cold _) ?_ hphase htoken ⟨s.u3.epochNext, rfl⟩
        simp [epochIsActiveMatch, rxOnlyColdApply, claimedBy, attached, discardQueues,
          invalidateEpochClaim, hnext]
    · rw [hbad]
      cases st with
      | ok => exact absurd rfl hne
      | _ => exact .refused

theorem Coupled.bind (h : Coupled s) (hb : Binding s s') : Coupled s' := by
  cases hb with
  | refused => exact h
  | @exhausted u down sound rx state phase token log =>
    obtain ⟨hk, hc⟩ := h.down down
    have htoken : s.trackedToken = 0 := by
      rw [h.token]
      exact h.sound.free_iff.1 (h.tracked.1 hk)
    refine ⟨⟨sound.cold, iff_of_true hk phase, htoken.trans token.symm, ?_⟩, rx, ?_, ?_,
      fun _ => ⟨hk, hc⟩⟩
    · exact fun hc' => absurd (hc.symm.trans hc') (by decide)
    · show u.trackedPhase ≠ .terminal
      rw [phase]
      decide
    · exact fun _ _ => state
  | @bound u epoch down sound rx claimed phase token log =>
    have hstart :
        Coupled (startSession { s with u3 := u, epoch := epoch, epochClaimed := true }) := by
      refine ⟨⟨sound.cold, iff_of_true rfl phase, token.symm, fun _ => claimed⟩, rx, ?_, nofun, nofun⟩
      show u.trackedPhase ≠ .terminal
      rw [phase]
      decide
    dsimp only
    split
    · exact hstart.local (local_arm _ _) nofun
    · exact hstart

/-- The events an unbind can add: the tracked frame is cancelled. -/
def cancels (token : UInt64) (log log' : List TxEvent) : Prop :=
  log' = log ∨ log' = .reported token .cancelledUnaccepted :: log

/-- The tracked frame of a session that is unbound is cancelled. -/
theorem Coupled.resolveForUnbind (h : Coupled s) :
    ∃ u kind token, (resolveForUnbind s).2 = { s with
        u3 := u, trackedKind := kind, trackedToken := token } ∧
      Sound u ∧ RxOk u ∧ u.trackedPhase = .none ∧ cancels s.trackedToken s.u3.log u.log ∧
      (s.epochClaimed = true → epochIsActiveMatch u s.epoch = true) ∧ u.state = s.u3.state := by
  unfold Control.resolveForUnbind
  by_cases hk : s.trackedKind = .none
  · rw [if_pos hk]
    exact ⟨s.u3, s.trackedKind, s.trackedToken, rfl, h.sound, h.rx, h.tracked.1 hk, .inl rfl,
      h.claimed, rfl⟩
  · have ht : Tracked s := ⟨h.sound, h.tracked, h.token⟩
    obtain ⟨hp, htok⟩ := ht.live hk
    have hsound := h.sound.resolve s.trackedToken true
    have hzero : s.trackedToken ≠ 0 := by rw [h.token]; exact htok
    have hstale : ¬ (s.u3.trackedPhase = .none ∨ s.u3.trackedToken ≠ s.trackedToken) := by
      rintro (hn | hn)
      · exact hp hn
      · exact hn h.token.symm
    rw [if_neg hk]
    rw [txResolve, if_neg hzero, if_neg hstale, if_neg h.unsettled, if_pos rfl] at hsound ⊢
    rw [intentRemoveTrackedToken, if_neg hzero] at hsound ⊢
    refine ⟨_, .none, 0, rfl, hsound, ?_, rfl, .inr ?_, fun hc => ?_, ?_⟩
    · dsimp only
      split_ifs <;> exact h.rx.congr rfl rfl (List.subset_cons_self _ _)
    · dsimp only
      split_ifs <;> rfl
    · have hmatch := h.claimed hc
      dsimp only
      split_ifs <;> exact hmatch
    · dsimp only
      split_ifs <;> rfl

theorem bound_of_match {epoch : LogicalEpoch} (h : epochIsActiveMatch u epoch = true) :
    u.state = .bound := by
  unfold epochIsActiveMatch at h
  simp only [Bool.and_eq_true, beq_iff_eq] at h
  exact h.1.1.1.1.1.2

/-- An unbind cancels the tracked frame, lets the epoch go and ends the session. -/
theorem Coupled.unbinding (h : Coupled s) (hup : s.state ≠ .disconnected) :
    ∃ u, Sound u ∧ RxOk u ∧ u.state = .fenced ∧ u.trackedPhase = .none ∧
      cancels s.trackedToken s.u3.log u.log ∧
      (unbindLogical s).2 = endSession { s with u3 := u } := by
  obtain ⟨u, kind, token, hres, hsound, hrx, hphase, hlog, hclaim, hstate⟩ := h.resolveForUnbind
  have htoken := hsound.free_iff.1 hphase
  have hended : ∃ u' c, (endEpochForUnbind (Control.resolveForUnbind s).2).2 = { s with
        u3 := u', trackedKind := kind, trackedToken := token, epochClaimed := c } ∧
      Sound u' ∧ RxOk u' ∧ u'.trackedToken = 0 ∧ u'.log = u.log ∧
      (u'.state = .bound ∨ u'.state = .fenced) := by
    rw [hres]
    unfold endEpochForUnbind
    by_cases hc : s.epochClaimed = true
    · have hend := hsound.epochEnd s.epoch
      have hbound := bound_of_match (hclaim hc)
      rw [if_neg (by rw [hc]; decide)]
      rw [logicalEpochEnd, if_neg (by rw [hclaim hc]; decide),
        if_neg (by rw [hphase, htoken]; simp)] at hend ⊢
      exact ⟨_, false, rfl, hend, hrx.congr rfl rfl (List.Subset.refl _), htoken, rfl, .inl hbound⟩
    · have hc : s.epochClaimed = false := Bool.eq_false_iff.2 hc
      rw [if_pos hc]
      exact ⟨u, s.epochClaimed, rfl, hsound, hrx, htoken, rfl, .inr (hstate.trans (h.fenced hc hup))⟩
  obtain ⟨u', c, hended, hsound', hrx', htoken', hlog', hstate'⟩ := hended
  have hunbind : ∃ u'', unbind u' = (.ok, u'') ∧ RxOk u'' ∧ u''.state = .fenced ∧
      u''.trackedToken = 0 ∧ u''.log = u.log := by
    unfold Control.unbind
    rw [if_neg (by rcases hstate' with hs | hs <;> rw [hs] <;> decide)]
    split_ifs with hf
    · exact ⟨u', rfl, hrx', hf.1, htoken', hlog'⟩
    · exact ⟨_, rfl, rxOk_fence u' _, state_fenceSession u' _,
        (trackedToken_fenceSession u' _).trans htoken', (log_fenceSession u' _).trans hlog'⟩
  obtain ⟨u'', hunbind, hrx'', hstate'', htoken'', hlog''⟩ := hunbind
  have hsound'' := hsound'.unbind
  rw [hunbind] at hsound''
  refine ⟨u'', hsound'', hrx'', hstate'', hsound''.free_iff.2 htoken'', ?_, ?_⟩
  · unfold cancels
    rw [hlog'']
    exact hlog
  · unfold unbindLogical
    rw [if_neg hup]
    dsimp only
    rw [hended]
    dsimp only
    rw [hunbind, if_pos rfl]
    rfl

/-! ### Runs -/

theorem coupled_init (config : LogicalConfig) : Coupled (.init config) where
  tie := ⟨sound_init.cold, iff_of_true rfl rfl, rfl, nofun⟩
  rx := rxOk_init
  unsettled := nofun
  fenced _ hup := absurd rfl hup
  down _ := ⟨rfl, rfl⟩

theorem Coupled.unbind (h : Coupled s) : Coupled (unbindLogical s).2 := by
  by_cases hup : s.state = .disconnected
  · rw [unbindLogical, if_pos hup]
    exact h
  · obtain ⟨u, hsound, hrx, hstate, hphase, -, heq⟩ := h.unbinding hup
    rw [heq]
    refine ⟨⟨hsound.cold, iff_of_true rfl hphase, (hsound.free_iff.1 hphase).symm, nofun⟩, hrx, ?_,
      fun _ _ => hstate, fun _ => ⟨rfl, rfl⟩⟩
    show u.trackedPhase ≠ .terminal
    rw [hphase]
    decide

/-- A step is not refused. -/
def stepRuns (s : LogicalSession) (io : StepIo) : Bool :=
  s.state != .disconnected && !(s.haveNow && io.now < s.nowMs) && !deadlineOverflowPure s io.now

/-- A step that is not refused, stage by stage. -/
inductive Stepped (s : LogicalSession) (io : StepIo) : LogicalSession → Prop
  | refused : Stepped s io s
  | went {r t : LogicalSession} {st : SessionStatus} (up : s.state ≠ .disconnected)
      (runs : stepRuns s io = true)
      (outcome : Outcome (prepareStep s io.now).2 io.pump st r)
      (pumped : st = (pumpStep (prepareStep s io.now).2 io.pump).1)
      (resolved : r = (resolveTracked (pumpStep (prepareStep s io.now).2 io.pump).2).2)
      (applied : t = (applyU3PumpStatus r st).2) :
      Stepped s io (if t.state = .disconnected then t else drainRx t)

theorem Coupled.stepped (h : Coupled s) (io : StepIo) : Stepped s io (step s io).2 := by
  unfold step
  by_cases hup : s.state = .disconnected
  · rw [if_pos hup]; exact .refused
  rw [if_neg hup]
  by_cases hlate : s.haveNow = true ∧ io.now < s.nowMs
  · rw [if_pos hlate]; exact .refused
  rw [if_neg hlate]
  by_cases htimely : deadlineOverflowPure s io.now = true
  · rw [if_pos htimely]; exact .refused
  rw [if_neg htimely]
  obtain ⟨hprep, hup'⟩ := h.prepare hup io.now
  have hruns : stepRuns s io = true := by
    simp only [stepRuns, Bool.and_eq_true, bne_iff_ne, Bool.not_eq_true', Bool.eq_false_iff]
    refine ⟨⟨hup, fun hl => hlate ?_⟩, htimely⟩
    simpa using hl
  exact .went hup hruns (hprep.outcome hup' io.pump) rfl rfl rfl

theorem Coupled.step (h : Coupled s) (io : StepIo) : Coupled (Control.step s io).2 := by
  have hstep := h.stepped io
  generalize (Control.step s io).2 = s' at hstep
  cases hstep with
  | refused => exact h
  | @went r t st up _ outcome _ _ applied =>
    obtain ⟨hprep, hup'⟩ := h.prepare up io.now
    have hcoupled : Coupled t := applied ▸ hprep.apply hup' outcome
    split_ifs with hdown
    · exact hcoupled
    · exact hcoupled.local (local_drainRx hcoupled.rx) hdown

theorem Coupled.call (h : Coupled s) (c : LogicalCall) : Coupled (s.call c) := by
  cases c with
  | bind io => exact h.bind (h.binding io)
  | unbind => exact h.unbind
  | step io => exact h.step io

theorem coupled_run (config : LogicalConfig) (calls : List LogicalCall) :
    Coupled (.run config calls) := by
  unfold LogicalSession.run
  induction calls using List.reverseRecOn with
  | nil => exact coupled_init config
  | append_singleton calls c ih =>
    rw [List.foldl_append]
    exact ih.call c

/-! ### The role and the clock -/

/-- What the stages of a step after its timers leave alone. -/
def LogicalSession.setting (s : LogicalSession) : LogicalConfig × UInt64 := (s.config, s.nowMs)

theorem Local.setting (h : Local s s') : s'.setting = s.setting :=
  congrArg (fun t : TxSide => (t.config, t.nowMs)) h.side

theorem setting_submission (hs : Submission s s') : s'.setting = s.setting := by
  cases hs with
  | exhausted =>
    unfold applyTxSeqTerminalExhaust
    dsimp only
    split_ifs <;> rfl
  | _ => rfl

theorem setting_settling (hs : Settling s s') : s'.setting = s.setting := by
  cases hs with
  | accepted => exact (local_onRawAccepted (told s)).setting
  | _ =>
    dsimp only [LogicalSession.setting, told, clearTracked, harvestAccept, sessionToLinkUpNoSession,
      clearActive, clearOrdinaryActions, dropAllInflight]

theorem setting_apply (s : LogicalSession) (st : SessionStatus) :
    (applyU3PumpStatus s st).2.setting = s.setting := by
  have hepoch : (onEpochLost s).setting = s.setting :=
    (local_fenceAndRehello _).setting.trans rfl
  have hlink : (onLinkLost s).setting = s.setting := by
    by_cases hk : s.trackedKind = .none
    · rw [onLinkLost_untracked hk]
      exact (local_clears s).setting
    · rw [onLinkLost_tracked hk]
      exact ((local_clears s).trans (local_fence _)).setting
  cases st with
  | rxOverflow => exact (local_continuityLoss s).setting
  | continuityLost | generationMismatch => exact hepoch
  | errLinkDown | closed | ioError => exact hlink
  | _ => rfl

theorem setting_outcome {io : PumpIo} {r : LogicalSession}
    (ho : Outcome s io st r) : r.setting = s.setting := by
  cases ho with
  | @accepted st u _ _ _ _ _ tracked settled outcome =>
    exact (@setting_settling { s with u3 := u } _ (.accepted tracked settled outcome)).trans rfl
  | @fenced st u r _ _ _ _ _ _ _ settling =>
    exact (@setting_settling { s with u3 := u } _ settling).trans rfl
  | _ => rfl

theorem setting_prepare (s : LogicalSession) (now : UInt64) :
    (prepareStep s now).2.setting = (s.config, now) :=
  (setting_submission (trySubmitTracked_submission _)).trans
    (local_runTimers { s with nowMs := now, haveNow := true }).setting

/-- The role and the clock of a step, up to its received frames. -/
theorem setting_applied {io : StepIo} {r : LogicalSession}
    (ho : Outcome (prepareStep s io.now).2 io.pump st r) :
    (applyU3PumpStatus r st).2.setting = (s.config, io.now) :=
  (setting_apply r st).trans ((setting_outcome ho).trans (setting_prepare s io.now))

theorem role_prepare (s : LogicalSession) (now : UInt64) : (prepareStep s now).2.role = s.role :=
  congrArg (fun t : LogicalConfig × UInt64 => t.1.role) (setting_prepare s now)

theorem role_applied {io : StepIo} {r : LogicalSession}
    (ho : Outcome (prepareStep s io.now).2 io.pump st r) :
    (applyU3PumpStatus r st).2.role = s.role :=
  congrArg (fun t : LogicalConfig × UInt64 => t.1.role) (setting_applied ho)

theorem role_step (h : Coupled s) (io : StepIo) : (step s io).2.role = s.role := by
  have hstep := h.stepped io
  generalize (step s io).2 = s' at hstep
  cases hstep with
  | refused => rfl
  | @went r t st up _ outcome _ _ applied =>
    obtain ⟨hprep, hup'⟩ := h.prepare up io.now
    have hrx : RxOk t.u3 := applied ▸ (hprep.apply hup' outcome).rx
    have ht : t.role = s.role := by
      rw [applied]
      exact role_applied outcome
    split_ifs
    · exact ht
    · exact (local_drainRx hrx).role.trans ht

theorem role_bind (h : Coupled s) (io : BindIo) : (bindLogical s io).2.role = s.role := by
  have hb := h.binding io
  generalize (bindLogical s io).2 = s' at hb
  cases hb with
  | refused | exhausted => rfl
  | bound =>
    dsimp only
    split <;> dsimp only [LogicalSession.role, armRehello, startSession, clearTracked, clearNotice,
      clearOrdinaryActions, dropAllInflight, clearActive]

theorem role_unbind (h : Coupled s) : (unbindLogical s).2.role = s.role := by
  by_cases hup : s.state = .disconnected
  · rw [unbindLogical, if_pos hup]
  · obtain ⟨u, -, -, -, -, -, heq⟩ := h.unbinding hup
    rw [heq]
    dsimp only [LogicalSession.role, endSession, clearTracked, dropSession, clearActive, clearNotice,
      clearOrdinaryActions, dropAllInflight]

/-- Every step of a run is made in a state where it is allowed. -/
def Cautious (allowed : LogicalSession → StepIo → Bool) : LogicalSession → List LogicalCall → Prop
  | _, [] => True
  | s, .step io :: calls => allowed s io = true ∧ Cautious allowed (s.call (.step io)) calls
  | s, c :: calls => Cautious allowed (s.call c) calls

theorem cautious_append {allowed : LogicalSession → StepIo → Bool} {s : LogicalSession}
    {calls calls' : List LogicalCall} :
    Cautious allowed s (calls ++ calls') ↔
      Cautious allowed s calls ∧ Cautious allowed (calls.foldl LogicalSession.call s) calls' := by
  induction calls generalizing s with
  | nil => exact ⟨fun h => ⟨trivial, h⟩, fun h => h.2⟩
  | cons c calls ih =>
    cases c with
    | bind | unbind => exact ih
    | step io =>
      exact (and_congr_right fun _ => ih).trans and_assoc.symm

/-- The rule of runs whose steps are all allowed. -/
theorem cautious_rule {P : LogicalSession → Prop} {allowed : LogicalSession → StepIo → Bool}
    (hbind : ∀ s io, Coupled s → P s → P (bindLogical s io).2)
    (hunbind : ∀ s, Coupled s → P s → P (unbindLogical s).2)
    (hstep : ∀ s io, Coupled s → P s → allowed s io = true → P (step s io).2)
    {config : LogicalConfig} (hinit : P (.init config)) {calls : List LogicalCall}
    (hcautious : Cautious allowed (.init config) calls) : P (.run config calls) := by
  have hfold : ∀ (calls : List LogicalCall) (s : LogicalSession), Coupled s → P s →
      Cautious allowed s calls → P (calls.foldl LogicalSession.call s) := by
    intro calls
    induction calls with
    | nil => exact fun s _ hs _ => hs
    | cons c calls ih =>
      intro s hc hs hall
      cases c with
      | bind io => exact ih _ (hc.call (.bind io)) (hbind s io hc hs) hall
      | unbind => exact ih _ (hc.call .unbind) (hunbind s hc hs) hall
      | step io => exact ih _ (hc.call (.step io)) (hstep s io hc hs hall.1) hall.2
  exact hfold calls _ (coupled_init config) hinit hcautious

end Stages

/-! ### Sample streams -/

/-- A session whose callbacks always answer the same. -/
def sampleConfig (role : Role) : LogicalConfig where
  role := role
  cookieRng := fun _ => some 1
  jitter := fun _ _ => none

/-- A stream that is up. -/
def upIo : BindIo := { pollStatus := .ok, link := .up, generation := 1 }

def blockedWrite : WriteAnswer := { status := .wouldBlock, accepted := 0, ticket := steadyTicket }

/-- A write that takes a whole frame of so many bytes. -/
def fullWrite (length : ℕ) : WriteAnswer :=
  { status := .ok, accepted := length, ticket := steadyTicket }

/-- A stream that delivers one frame. -/
def deliverIo (fields : FrameFields) (write : WriteAnswer) : PumpIo :=
  { quietIo write with
    reads := fun i =>
      if i = 0 then
        { status := .ok, length := (frameBytes fields).length
          chunk := fun j => (frameBytes fields).getD j 0, ticket := steadyTicket }
      else { status := .wouldBlock, length := 0, chunk := fun _ => 0, ticket := steadyTicket } }

/-- The frame of a message. -/
def messageFrame (sequence : UInt32) (m : Message) : FrameFields where
  type := requiredNcg1Type m.body.messageType
  streamOrCellId := 0
  sequence := sequence
  payload := messageBytes m

end Ninlil.Control
