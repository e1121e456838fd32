import Ninlil.Submission.Types

/-!
# Desired targets

The snapshot of a desired-state target and the three reducers that move it:
`desired_target_snapshot_internal.c`, `desired_deadline_transition.c`,
`required_receipt_transition.c` and `deadline_projection.c`.

* `Snapshot`, `snapshotIsValid`: the snapshot and the predicate every reducer checks first;
* `projectRequiredReceiptDeadline`: what two clock samples prove about a deadline;
* `reduceDesiredEffectDeadline`, `reduceDesiredEvidenceClose`, `reduceDesiredRequiredReceipt`;
* `Moves`, `apply_cases`: everything a call can do to a snapshot;
* `desired_runs_agree`: validity, absorption, certainty and satisfaction over whole runs.
-/

namespace Ninlil.Desired

open Submission (Id128 Family idIsZero)

/-! ### Snapshots -/

/-- `ninlil_model_desired_target_state_t`; a zeroed snapshot has state `0`. -/
inductive State
  | ready
  | attemptPrepared
  | awaitingEvidence
  | retryWait
  | awaitingGrace
  | satisfied
  | expired
  | cancelledBeforeEffect
  | failedDefinitive
  | outcomeUnknown
  | unlisted (code : UInt32)
  deriving DecidableEq

/-- `ninlil_outcome_t`. -/
inductive Outcome
  | none
  | satisfied
  | expired
  | cancelledBeforeEffect
  | failedDefinitive
  | unknown
  | unlisted (code : UInt32)
  deriving DecidableEq

/-- `ninlil_deadline_verdict_t`. -/
inductive DeadlineVerdict
  | pending
  | met
  | missed
  | indeterminate
  | notApplicable
  | unlisted (code : UInt32)
  deriving DecidableEq

/-- `ninlil_effect_certainty_t`. -/
inductive EffectCertainty
  | none
  | noEffectProven
  | possible
  | unlisted (code : UInt32)
  deriving DecidableEq

/-- The reasons (`ninlil_reason_t`) that `reason_is_known` lists; any other code is `unlisted`. -/
inductive Reason
  | none
  | unsupportedFamily
  | unsupportedSelector
  | targetCountUnsupported
  | invalidSchema
  | invalidPayloadLength
  | invalidContentDigest
  | deadlineInvalid
  | eventfactDeadlineUnsupported
  | attemptReceiptTimeoutInvalid
  | evidenceUnsupported
  | capacityExhausted
  | modificationRequired
  | idempotencyConflict
  | grantInvalid
  | grantExpired
  | grantLimitExceeded
  | grantProviderUnavailable
  | storageIo
  | storageCommitUnknown
  | clockUncertain
  | rateExhausted
  | targetUnauthorized
  | callbackContract
  | unsupportedDirection
  | requiredEvidenceMet
  | requiredEvidenceLate
  | deadlineElapsedBeforeDispatch
  | effectPossibleEvidencePending
  | effectPossibleEvidenceMissing
  | retryBudgetExhaustedNoEffect
  | eventRetryCycleParked
  | eventReceiptTimeout
  | cycleExhaustedTransient
  | bearerUnavailable
  | capacityUnavailable
  | counterExhausted
  | staleAvailabilityEpoch
  | resumeConflict
  | staleSpoolRevision
  | operatorDiscardedWithoutRequiredReceipt
  | discardConflict
  | cancelFencedBeforeDispatch
  | cancelAfterEffectPossible
  | eventFactImmutable
  | transportRetry
  | cancelPendingRemoteFence
  | applicationFailed
  | outcomeUnknown
  | receiverUnavailable
  | applicationCompletionTimeout
  | reconcileRetryLater
  | unlisted (code : UInt32)
  deriving DecidableEq

def reasonIsKnown : Reason → Bool
  | .unlisted _ => false
  | _ => true

def deadlineVerdictIsValid : DeadlineVerdict → Bool
  | .pending | .met | .missed | .indeterminate => true
  | _ => false

def effectCertaintyIsValid : EffectCertainty → Bool
  | .unlisted _ => false
  | _ => true

/-- `ninlil_model_desired_target_snapshot_t`; the default is a zeroed one. -/
structure Snapshot where
  state : State := .unlisted 0
  outcome : Outcome := .none
  reason : Reason := .none
  deadlineVerdict : DeadlineVerdict := .pending
  effectCertainty : EffectCertainty := .none
  deriving DecidableEq

def State.isActive : State → Bool
  | .ready | .attemptPrepared | .awaitingEvidence | .retryWait | .awaitingGrace => true
  | _ => false

def State.isTerminal : State → Bool
  | .satisfied | .expired | .cancelledBeforeEffect | .failedDefinitive | .outcomeUnknown => true
  | _ => false

def terminalOutcomeForState : State → Outcome
  | .satisfied => .satisfied
  | .expired => .expired
  | .cancelledBeforeEffect => .cancelledBeforeEffect
  | .failedDefinitive => .failedDefinitive
  | .outcomeUnknown => .unknown
  | _ => .none

/-- The last switch of `ninlil_model_desired_target_snapshot_is_valid`: what a terminal state
allows for the other fields. -/
def terminalFieldsAreValid (current : Snapshot) : Bool :=
  match current.state with
  | .satisfied =>
    current.reason = .requiredEvidenceMet && current.deadlineVerdict = .met
      && current.effectCertainty = .possible
  | .expired =>
    if current.reason = .requiredEvidenceLate then
      current.deadlineVerdict = .missed && current.effectCertainty = .possible
    else if current.reason = .deadlineElapsedBeforeDispatch then
      current.deadlineVerdict = .missed && current.effectCertainty = .noEffectProven
    else
      current.reason = .clockUncertain && current.deadlineVerdict = .indeterminate
        && current.effectCertainty = .noEffectProven
  | .cancelledBeforeEffect =>
    current.reason = .cancelFencedBeforeDispatch && current.deadlineVerdict = .pending
      && current.effectCertainty = .noEffectProven
  | .failedDefinitive =>
    (current.reason = .applicationFailed || current.reason = .targetUnauthorized
        || current.reason = .retryBudgetExhaustedNoEffect)
      && current.deadlineVerdict = .pending && current.effectCertainty = .noEffectProven
  | .outcomeUnknown =>
    (current.reason = .effectPossibleEvidenceMissing || current.reason = .clockUncertain)
      && current.deadlineVerdict = .indeterminate && current.effectCertainty = .possible
  | _ => false

/-- `ninlil_model_desired_target_snapshot_is_valid`. -/
def snapshotIsValid (current : Snapshot) : Bool :=
  if (!current.state.isActive && !current.state.isTerminal) || !reasonIsKnown current.reason
      || !deadlineVerdictIsValid current.deadlineVerdict
      || !effectCertaintyIsValid current.effectCertainty then false
  else if current.state.isActive then current.outcome = .none
  else if current.outcome ≠ terminalOutcomeForState current.state then false
  else terminalFieldsAreValid current

/-! ### Deadline projection -/

/-- `ninlil_clock_trust_t`. -/
inductive ClockTrust
  | trusted
  | uncertain
  | unlisted (code : UInt32)
  deriving DecidableEq

/-- `ninlil_model_deadline_evidence_t`. -/
inductive DeadlineEvidence
  | none
  | provenInTime
  | provenLate
  | timeUnknown
  | unlisted (code : UInt32)
  deriving DecidableEq

/-- `ninlil_model_semantic_time_t`. -/
structure SemanticTime where
  clockEpochId : Id128
  nowMs : UInt64
  trust : ClockTrust

/-- `ninlil_model_required_receipt_deadline_input_t`. -/
structure ReceiptDeadlineInput where
  family : Family
  deadlineClockEpochId : Id128
  absoluteEffectDeadlineMs : UInt64
  issuerEvidenceTime : SemanticTime
  controllerIngressTime : SemanticTime

/-- `ninlil_model_required_receipt_deadline_result_t`; the default is a zeroed one. -/
structure ReceiptDeadlineResult where
  evidence : DeadlineEvidence := .none
  verdict : DeadlineVerdict := .pending

/-- `NINLIL_NO_DEADLINE`. -/
def noDeadline : UInt64 := 0xFFFFFFFFFFFFFFFF

def semanticTimeIsValid (time : SemanticTime) : Bool :=
  !idIsZero time.clockEpochId && (time.trust = .trusted || time.trust = .uncertain)

/-- `ninlil_model_project_required_receipt_deadline`: whether it returns OK, and the result it
leaves, zeroed when it does not. -/
def projectRequiredReceiptDeadline (input : ReceiptDeadlineInput) : Bool × ReceiptDeadlineResult :=
  if (input.family ≠ .desiredState ∧ input.family ≠ .eventFact)
      ∨ semanticTimeIsValid input.issuerEvidenceTime = false
      ∨ semanticTimeIsValid input.controllerIngressTime = false then (false, {})
  else if input.family = .eventFact then
    if idIsZero input.deadlineClockEpochId = false ∨ input.absoluteEffectDeadlineMs ≠ noDeadline then
      (false, {})
    else (true, { evidence := .none, verdict := .notApplicable })
  else if idIsZero input.deadlineClockEpochId = true ∨
      input.absoluteEffectDeadlineMs = noDeadline then
    (false, {})
  else if input.issuerEvidenceTime.trust = .trusted
      ∧ input.issuerEvidenceTime.clockEpochId = input.deadlineClockEpochId then
    if input.issuerEvidenceTime.nowMs ≤ input.absoluteEffectDeadlineMs then
      (true, { evidence := .provenInTime, verdict := .met })
    else (true, { evidence := .provenLate, verdict := .missed })
  else if input.controllerIngressTime.trust = .trusted
      ∧ input.controllerIngressTime.clockEpochId = input.deadlineClockEpochId
      ∧ input.controllerIngressTime.nowMs ≤ input.absoluteEffectDeadlineMs then
    (true, { evidence := .provenInTime, verdict := .met })
  else (true, { evidence := .timeUnknown, verdict := .indeterminate })

/-! ### The deadline reducers -/

/-- `ninlil_model_effect_basis_t`. -/
inductive EffectBasis
  | deadlineOnlyNoEffect
  | definitiveApplicationFailed
  | definitiveTargetUnauthorized
  | definitiveRetryBudgetExhausted
  | effectPossible
  | unlisted (code : UInt32)
  deriving DecidableEq

/-- `ninlil_model_deadline_transition_action_t`. -/
inductive DeadlineAction
  | transitionApplied
  | terminalAbsorbed
  | catchUpPriorReducer
  deriving DecidableEq

/-- `ninlil_model_desired_deadline_transition_input_t`. -/
structure DeadlineInput where
  current : Snapshot
  deadlineEvidence : DeadlineEvidence
  effectBasis : EffectBasis

/-- `ninlil_model_desired_deadline_transition_result_t`, of a call that returns OK. -/
structure DeadlineResult where
  next : Snapshot := {}
  action : DeadlineAction
  catchUpBasis : EffectBasis := .unlisted 0

def deadlineEvidenceIsKnown : DeadlineEvidence → Bool
  | .unlisted _ => false
  | _ => true

def effectBasisIsKnown : EffectBasis → Bool
  | .unlisted _ => false
  | _ => true

def effectBasisIsDefinitive : EffectBasis → Bool
  | .definitiveApplicationFailed | .definitiveTargetUnauthorized
  | .definitiveRetryBudgetExhausted => true
  | _ => false

def definitiveReasonForBasis : EffectBasis → Reason
  | .definitiveApplicationFailed => .applicationFailed
  | .definitiveTargetUnauthorized => .targetUnauthorized
  | .definitiveRetryBudgetExhausted => .retryBudgetExhaustedNoEffect
  | _ => .none

def activeBasisIsConsistent (input : DeadlineInput) : Bool :=
  if input.effectBasis = .deadlineOnlyNoEffect then
    input.deadlineEvidence = .none && input.current.effectCertainty ≠ .possible
  else if effectBasisIsDefinitive input.effectBasis then
    input.deadlineEvidence = .none && input.current.effectCertainty = .noEffectProven
  else if input.effectBasis ≠ .effectPossible ∨ input.current.effectCertainty = .noEffectProven
      ∨ input.deadlineEvidence = .provenInTime then false
  else input.deadlineEvidence = .none || input.current.effectCertainty = .possible

def prepareInput (input : DeadlineInput) : Bool :=
  snapshotIsValid input.current && deadlineEvidenceIsKnown input.deadlineEvidence
    && effectBasisIsKnown input.effectBasis

def setExpiredDeadlineOnly : DeadlineResult where
  next :=
    { state := .expired
      outcome := .expired
      reason := .deadlineElapsedBeforeDispatch
      deadlineVerdict := .missed
      effectCertainty := .noEffectProven }
  action := .transitionApplied

def setFailedDefinitive (basis : EffectBasis) : DeadlineResult where
  next :=
    { state := .failedDefinitive
      outcome := .failedDefinitive
      reason := definitiveReasonForBasis basis
      deadlineVerdict := .pending
      effectCertainty := .noEffectProven }
  action := .transitionApplied

def setAwaitingGrace : DeadlineResult where
  next :=
    { state := .awaitingGrace
      outcome := .none
      reason := .effectPossibleEvidencePending
      deadlineVerdict := .indeterminate
      effectCertainty := .possible }
  action := .transitionApplied

def setExpiredLate : DeadlineResult where
  next :=
    { state := .expired
      outcome := .expired
      reason := .requiredEvidenceLate
      deadlineVerdict := .missed
      effectCertainty := .possible }
  action := .transitionApplied

def setOutcomeUnknown : DeadlineResult where
  next :=
    { state := .outcomeUnknown
      outcome := .unknown
      reason := .effectPossibleEvidenceMissing
      deadlineVerdict := .indeterminate
      effectCertainty := .possible }
  action := .transitionApplied

def absorbTerminal (input : DeadlineInput) : DeadlineResult where
  next := input.current
  action := .terminalAbsorbed

/-- `ninlil_model_reduce_desired_effect_deadline`; no result is `NINLIL_E_INVALID_ARGUMENT`. -/
def reduceDesiredEffectDeadline (input : DeadlineInput) : Option DeadlineResult :=
  if prepareInput input = false then none
  else if input.current.state.isTerminal then some (absorbTerminal input)
  else if activeBasisIsConsistent input = false ∨ input.deadlineEvidence = .provenLate then none
  else if input.effectBasis = .deadlineOnlyNoEffect then some setExpiredDeadlineOnly
  else if effectBasisIsDefinitive input.effectBasis then
    some (setFailedDefinitive input.effectBasis)
  else some setAwaitingGrace

/-- `ninlil_model_reduce_desired_evidence_close`. -/
def reduceDesiredEvidenceClose (input : DeadlineInput) : Option DeadlineResult :=
  if prepareInput input = false then none
  else if input.current.state.isTerminal then some (absorbTerminal input)
  else if activeBasisIsConsistent input = false then none
  else if input.effectBasis ≠ .effectPossible then
    some { action := .catchUpPriorReducer, catchUpBasis := input.effectBasis }
  else if input.deadlineEvidence = .provenLate then some setExpiredLate
  else some setOutcomeUnknown

/-! ### The receipt reducer -/

/-- `ninlil_model_required_receipt_transition_input_t`. -/
structure ReceiptInput where
  current : Snapshot
  requiredStageReached : UInt32
  receiptIsNewMaterial : UInt32
  deadline : ReceiptDeadlineResult

/-- `ninlil_model_receipt_evidence_action_t`. -/
inductive ReceiptEvidenceAction
  | activeRequired
  | terminalLate
  deriving DecidableEq

/-- `ninlil_model_required_receipt_transition_result_t`, of a call that returns OK. -/
structure ReceiptResult where
  next : Snapshot
  evidenceAction : ReceiptEvidenceAction

def deadlineProjectionIsValid (deadline : ReceiptDeadlineResult) : Bool :=
  (deadline.evidence = .provenInTime && deadline.verdict = .met)
    || (deadline.evidence = .provenLate && deadline.verdict = .missed)
    || (deadline.evidence = .timeUnknown && deadline.verdict = .indeterminate)

/-- `ninlil_model_reduce_desired_required_receipt`. -/
def reduceDesiredRequiredReceipt (input : ReceiptInput) : Option ReceiptResult :=
  if input.requiredStageReached ≠ 1 ∨ input.receiptIsNewMaterial ≠ 1
      ∨ snapshotIsValid input.current = false
      ∨ deadlineProjectionIsValid input.deadline = false then none
  else if input.current.state.isTerminal then
    some { next := input.current, evidenceAction := .terminalLate }
  else
    match input.deadline.evidence with
    | .provenInTime =>
      some
        { next :=
            { state := .satisfied
              outcome := .satisfied
              reason := .requiredEvidenceMet
              deadlineVerdict := .met
              effectCertainty := .possible }
          evidenceAction := .activeRequired }
    | .provenLate =>
      some
        { next :=
            { state := .expired
              outcome := .expired
              reason := .requiredEvidenceLate
              deadlineVerdict := .missed
              effectCertainty := .possible }
          evidenceAction := .activeRequired }
    | .timeUnknown =>
      some
        { next :=
            { state := .awaitingGrace
              outcome := .none
              reason := .effectPossibleEvidencePending
              deadlineVerdict := .indeterminate
              effectCertainty := .possible }
          evidenceAction := .activeRequired }
    | _ => none

/-! ### Calls -/

/-- A call on the current snapshot; a receipt carries the projection of its clock samples. -/
inductive Call
  | effectDeadline (deadlineEvidence : DeadlineEvidence) (effectBasis : EffectBasis)
  | evidenceClose (deadlineEvidence : DeadlineEvidence) (effectBasis : EffectBasis)
  | requiredReceipt (requiredStageReached receiptIsNewMaterial : UInt32)
      (times : ReceiptDeadlineInput)

/-- The snapshot after a deadline reducer: the result of a call that is OK and no catch-up. -/
def DeadlineResult.adopt (current : Snapshot) : Option DeadlineResult → Snapshot
  | none => current
  | some r => if r.action = .catchUpPriorReducer then current else r.next

def apply (current : Snapshot) : Call → Snapshot
  | .effectDeadline evidence basis =>
    DeadlineResult.adopt current (reduceDesiredEffectDeadline ⟨current, evidence, basis⟩)
  | .evidenceClose evidence basis =>
    DeadlineResult.adopt current (reduceDesiredEvidenceClose ⟨current, evidence, basis⟩)
  | .requiredReceipt stage material times =>
    match reduceDesiredRequiredReceipt
        ⟨current, stage, material, (projectRequiredReceiptDeadline times).2⟩ with
    | none => current
    | some r => r.next

def run (current : Snapshot) (calls : List Call) : Snapshot := calls.foldl apply current

/-- A sample proves the deadline met: a trusted reading of the deadline's own clock epoch, at or
before the deadline. -/
def SemanticTime.ProvesMet (time : SemanticTime) (times : ReceiptDeadlineInput) : Prop :=
  time.trust = .trusted ∧ time.clockEpochId = times.deadlineClockEpochId
    ∧ time.nowMs ≤ times.absoluteEffectDeadlineMs

/-- A receipt one of whose samples proves the deadline met. -/
def Call.InTime : Call → Prop
  | .requiredReceipt _ _ times =>
    times.issuerEvidenceTime.ProvesMet times ∨ times.controllerIngressTime.ProvesMet times
  | _ => False

theorem inTime_of_provenInTime {times : ReceiptDeadlineInput}
    (h : (projectRequiredReceiptDeadline times).2.evidence = .provenInTime) :
    times.issuerEvidenceTime.ProvesMet times ∨ times.controllerIngressTime.ProvesMet times := by
  unfold projectRequiredReceiptDeadline at h
  split_ifs at h with _ _ _ _ hissuer hle hingress
  · exact .inl ⟨hissuer.1, hissuer.2, hle⟩
  · exact .inr hingress

/-! ### What a call can do -/

/-- A change of snapshot: from an active one to a valid one, certain effects kept. -/
structure Moves (call : Call) (current next : Snapshot) : Prop where
  active : current.state.isTerminal = false
  valid : snapshotIsValid next = true
  certainty : current.effectCertainty = .possible → next.effectCertainty = .possible
  satisfied : next.state = .satisfied → call.InTime

/-- A consistent basis without a possible effect carries no evidence, and the effect is not known
to be possible. -/
theorem no_effect_of_consistent {input : DeadlineInput} (h : activeBasisIsConsistent input = true)
    (hb : input.effectBasis ≠ .effectPossible) :
    input.deadlineEvidence = .none ∧ input.current.effectCertainty ≠ .possible
      ∧ (input.effectBasis = .deadlineOnlyNoEffect
        ∨ effectBasisIsDefinitive input.effectBasis = true) := by
  unfold activeBasisIsConsistent at h
  split_ifs at h with h1 h2 h3
  · simp only [Bool.and_eq_true, decide_eq_true_eq] at h
    exact ⟨h.1, h.2, .inl h1⟩
  · simp only [Bool.and_eq_true, decide_eq_true_eq] at h
    refine ⟨h.1, ?_, .inr h2⟩
    rw [h.2]
    decide
  · exact absurd (.inl hb) h3

theorem valid_setFailedDefinitive {basis : EffectBasis} (h : effectBasisIsDefinitive basis = true) :
    snapshotIsValid (setFailedDefinitive basis).next = true := by
  cases basis with
  | definitiveApplicationFailed => rfl
  | definitiveTargetUnauthorized => rfl
  | definitiveRetryBudgetExhausted => rfl
  | _ => cases h

theorem effectDeadline_cases (current : Snapshot) (evidence : DeadlineEvidence)
    (basis : EffectBasis) :
    apply current (.effectDeadline evidence basis) = current
      ∨ Moves (.effectDeadline evidence basis) current
        (apply current (.effectDeadline evidence basis)) := by
  simp only [apply, reduceDesiredEffectDeadline]
  split_ifs with hprep hterm hcons hbasis hdef
  · exact .inl rfl
  · exact .inl rfl
  · exact .inl rfl
  · have hc : activeBasisIsConsistent ⟨current, evidence, basis⟩ = true := by
      simpa using (not_or.1 hcons).1
    have hb : basis ≠ .effectPossible := by
      rw [show basis = .deadlineOnlyNoEffect from hbasis]
      decide
    exact .inr ⟨by simpa using hterm, rfl,
      fun hp => absurd hp (no_effect_of_consistent hc hb).2.1, nofun⟩
  · have hc : activeBasisIsConsistent ⟨current, evidence, basis⟩ = true := by
      simpa using (not_or.1 hcons).1
    have hb : basis ≠ .effectPossible := by
      rintro rfl
      cases hdef
    exact .inr ⟨by simpa using hterm, valid_setFailedDefinitive hdef,
      fun hp => absurd hp (no_effect_of_consistent hc hb).2.1, nofun⟩
  · exact .inr ⟨by simpa using hterm, rfl, fun _ => rfl, nofun⟩

theorem evidenceClose_cases (current : Snapshot) (evidence : DeadlineEvidence)
    (basis : EffectBasis) :
    apply current (.evidenceClose evidence basis) = current
      ∨ Moves (.evidenceClose evidence basis) current
        (apply current (.evidenceClose evidence basis)) := by
  simp only [apply, reduceDesiredEvidenceClose]
  split_ifs with hprep hterm hcons hbasis hlate
  · exact .inl rfl
  · exact .inl rfl
  · exact .inl rfl
  · exact .inl rfl
  · exact .inr ⟨by simpa using hterm, rfl, fun _ => rfl, nofun⟩
  · exact .inr ⟨by simpa using hterm, rfl, fun _ => rfl, nofun⟩

theorem requiredReceipt_cases (current : Snapshot) (stage material : UInt32)
    (times : ReceiptDeadlineInput) :
    apply current (.requiredReceipt stage material times) = current
      ∨ Moves (.requiredReceipt stage material times) current
        (apply current (.requiredReceipt stage material times)) := by
  simp only [apply, reduceDesiredRequiredReceipt]
  split_ifs with hbad hterm
  · exact .inl rfl
  · exact .inl rfl
  · have hactive : current.state.isTerminal = false := by simpa using hterm
    cases hev : (projectRequiredReceiptDeadline times).2.evidence with
    | provenInTime => exact .inr ⟨hactive, rfl, fun _ => rfl, fun _ => inTime_of_provenInTime hev⟩
    | provenLate | timeUnknown => exact .inr ⟨hactive, rfl, fun _ => rfl, nofun⟩
    | none | unlisted => exact .inl rfl

/-- A call keeps the snapshot or moves it. -/
theorem apply_cases (current : Snapshot) (call : Call) :
    apply current call = current ∨ Moves call current (apply current call) := by
  cases call with
  | effectDeadline evidence basis => exact effectDeadline_cases current evidence basis
  | evidenceClose evidence basis => exact evidenceClose_cases current evidence basis
  | requiredReceipt stage material times => exact requiredReceipt_cases current stage material times

/-! ### Runs -/

variable {current : Snapshot}

theorem valid_run (h : snapshotIsValid current = true) (calls : List Call) :
    snapshotIsValid (run current calls) = true := by
  induction calls generalizing current with
  | nil => exact h
  | cons call calls ih =>
    refine ih ?_
    rcases apply_cases current call with heq | hm
    · rw [heq]
      exact h
    · exact hm.valid

theorem run_of_terminal (h : current.state.isTerminal = true) (calls : List Call) :
    run current calls = current := by
  induction calls with
  | nil => rfl
  | cons call calls ih =>
    rcases apply_cases current call with heq | hm
    · rw [run, List.foldl_cons, heq]
      exact ih
    · rw [hm.active] at h
      cases h

theorem possible_run (h : current.effectCertainty = .possible) (calls : List Call) :
    (run current calls).effectCertainty = .possible := by
  induction calls generalizing current with
  | nil => exact h
  | cons call calls ih =>
    refine ih ?_
    rcases apply_cases current call with heq | hm
    · rw [heq]
      exact h
    · exact hm.certainty h

/-- A run from an active snapshot to a satisfied one contains a receipt in time, at which the
snapshot became satisfied. -/
theorem satisfied_run (h : current.state ≠ .satisfied) (calls : List Call)
    (hs : (run current calls).state = .satisfied) :
    ∃ pre call post, calls = pre ++ call :: post ∧ (run current pre).state ≠ .satisfied
      ∧ (run current (pre ++ [call])).state = .satisfied ∧ call.InTime := by
  induction calls generalizing current with
  | nil => exact absurd hs h
  | cons call calls ih =>
    by_cases hn : (apply current call).state = .satisfied
    · refine ⟨[], call, calls, rfl, h, hn, ?_⟩
      rcases apply_cases current call with heq | hm
      · rw [heq] at hn
        exact absurd hn h
      · exact hm.satisfied hn
    · obtain ⟨pre, c, post, rfl, hpre, hc, hin⟩ := ih hn hs
      exact ⟨call :: pre, c, post, rfl, hpre, hc, hin⟩

/-- A catch-up answer of the evidence close names a basis that the deadline reducer settles. -/
theorem effectDeadline_of_catchUp {input : DeadlineInput} {r : DeadlineResult}
    (h : reduceDesiredEvidenceClose input = some r) (hr : r.action = .catchUpPriorReducer) :
    ∃ r', reduceDesiredEffectDeadline input = some r' ∧ r'.next.state.isTerminal = true := by
  unfold reduceDesiredEvidenceClose at h
  split_ifs at h with hprep hterm hcons hbasis hlate
  · cases h
    cases hr
  · have hc : activeBasisIsConsistent input = true := by simpa using hcons
    obtain ⟨hev, -, hb⟩ := no_effect_of_consistent hc hbasis
    unfold reduceDesiredEffectDeadline
    rw [if_neg hprep, if_neg hterm, if_neg (by simp [hc, hev])]
    split_ifs with hd hdef
    · exact ⟨_, rfl, rfl⟩
    · exact ⟨_, rfl, rfl⟩
    · exact absurd hb (not_or.2 ⟨hd, hdef⟩)
  · cases h
    cases hr
  · cases h
    cases hr

/-- **The desired-target reducers agree.**  From a valid active snapshot, over every sequence of
calls: the snapshot stays valid, a terminal one is never changed, a possible effect stays possible,
a snapshot is satisfied only by a receipt in time, and a catch-up answer is settled by the deadline
reducer on the same input. -/
theorem desired_runs_agree (start : Snapshot) (hv : snapshotIsValid start = true)
    (ha : start.state.isActive = true) (calls : List Call) :
    snapshotIsValid (run start calls) = true
      ∧ ((run start calls).state.isTerminal = true →
        ∀ later, run start (calls ++ later) = run start calls)
      ∧ ((run start calls).effectCertainty = .possible →
        ∀ later, (run start (calls ++ later)).effectCertainty = .possible)
      ∧ ((run start calls).state = .satisfied →
        ∃ pre call post, calls = pre ++ call :: post ∧ (run start pre).state ≠ .satisfied
          ∧ (run start (pre ++ [call])).state = .satisfied ∧ call.InTime)
      ∧ ∀ evidence basis r,
        reduceDesiredEvidenceClose ⟨run start calls, evidence, basis⟩ = some r →
        r.action = .catchUpPriorReducer →
        ∃ r', reduceDesiredEffectDeadline ⟨run start calls, evidence, basis⟩ = some r'
          ∧ r'.next.state.isTerminal = true := by
  have happ : ∀ later, run start (calls ++ later) = run (run start calls) later :=
    fun later => List.foldl_append
  refine ⟨valid_run hv calls, fun ht later => ?_, fun hp later => ?_, fun hs => ?_,
    fun evidence basis r h hr => effectDeadline_of_catchUp h hr⟩
  · rw [happ]
    exact run_of_terminal ht later
  · rw [happ]
    exact possible_run hp later
  · refine satisfied_run (fun hst => ?_) calls hs
    rw [hst] at ha
    cases ha

/-- A target that is ready, and nothing known about it. -/
def readySnapshot : Snapshot where
  state := .ready

/-- A receipt, both of whose samples are of the deadline's clock, 10 ms before it. -/
def sampleReceipt (trust : ClockTrust) : Call :=
  .requiredReceipt 1 1
    { family := .desiredState
      deadlineClockEpochId := 1
      absoluteEffectDeadlineMs := 100
      issuerEvidenceTime := ⟨1, 90, trust⟩
      controllerIngressTime := ⟨1, 90, trust⟩ }

/-- A receipt of an uncertain clock leaves the effect possible, and one in time then settles it; the
close of the ready target answers that the deadline comes first. -/
theorem ready_runs_agree :
    (∀ later, (run readySnapshot ([sampleReceipt .uncertain] ++ later)).effectCertainty =
      .possible) ∧
    (let calls := [sampleReceipt .uncertain, sampleReceipt .trusted]
     snapshotIsValid (run readySnapshot calls) = true ∧
        (∀ later, run readySnapshot (calls ++ later) = run readySnapshot calls) ∧
        ∃ pre call post, calls = pre ++ call :: post ∧ (run readySnapshot pre).state ≠ .satisfied
          ∧ (run readySnapshot (pre ++ [call])).state = .satisfied ∧ call.InTime) ∧
    ∃ r, reduceDesiredEffectDeadline ⟨readySnapshot, .none, .deadlineOnlyNoEffect⟩ = some r
      ∧ r.next.state.isTerminal = true := by
  obtain ⟨-, -, hpossible, -⟩ := desired_runs_agree readySnapshot rfl rfl [sampleReceipt .uncertain]
  obtain ⟨hvalid, hterminal, -, hsatisfied, -⟩ :=
    desired_runs_agree readySnapshot rfl rfl [sampleReceipt .uncertain, sampleReceipt .trusted]
  obtain ⟨-, -, -, -, hcatchUp⟩ := desired_runs_agree readySnapshot rfl rfl []
  exact ⟨hpossible (by decide), ⟨hvalid, hterminal (by decide), hsatisfied (by decide)⟩,
    hcatchUp .none .deadlineOnlyNoEffect _ rfl rfl⟩

end Ninlil.Desired
