import Ninlil.Resource.Batch
import Ninlil.Submission.Preflight

/-!
# What a ready preflight has established

The inversion of `submissionPreflight`: one lemma per stage, each in the terms later proofs use
(natural numbers for the counters, the records of the plan for the rest), joined in `Ready`.

* `checkedIncrement_eq_some`, `checkedAdd_eq_some`: the checked operations, without wrap;
* `QuotaFacts`, `ResourceFacts`: what the quota and the resource stage leave in the plan;
* `Ready.of_preflight`: everything a ready result says.
-/

namespace Ninlil.Submission
namespace Preflight

open Resource Guard

variable {input : PreflightInput}

/-! ### Checked arithmetic -/

theorem checkedIncrement_eq_some {v w : UInt64} :
    checkedIncrement v = some w ↔ w.toNat = v.toNat + 1 := by
  have hv := v.toNat_lt
  have hw := w.toNat_lt
  unfold checkedIncrement
  split_ifs with h
  · have : v.toNat = 2 ^ 64 - 1 := by rw [h]; rfl
    simp only [false_iff]
    omega
  · rw [Option.some.injEq, ← UInt64.toNat_inj, UInt64.toNat_add, UInt64.toNat_one]
    have : v.toNat ≠ 2 ^ 64 - 1 := fun he => h (UInt64.toNat_inj.1 he)
    omega

theorem checkedAdd_eq_some {l r s : UInt64} :
    checkedAdd l r = some s ↔ s.toNat = l.toNat + r.toNat := by
  have hl := l.toNat_lt
  have hr := r.toNat_lt
  have hs := s.toNat_lt
  have hmax : uint64Max.toNat = 2 ^ 64 - 1 := rfl
  unfold checkedAdd
  split_ifs with h <;> rw [hmax] at h
  · simp only [false_iff]
    omega
  · rw [Option.some.injEq, ← UInt64.toNat_inj, UInt64.toNat_add]
    omega

/-! ### The guards and facts before the quota -/

/-- The semantic guards, as one statement about the service and the submission. -/
structure SemanticallyValid (input : PreflightInput) : Prop where
  supported : input.service.family.isAdmitSupported = true
  sender : input.service.localSide = .sender
  service_shape : serviceShapeIsValid input.service = true
  count_ne : input.submission.targetCount ≠ 0
  count_le : input.submission.targetCount ≤ maxExactTargets
  count_one : input.service.family = .desiredState ∨ input.submission.targetCount = 1
  schema : input.submission.schemaMajor = input.service.schemaMajor ∧
    input.service.schemaMinorMin ≤ input.submission.schemaMinor ∧
    input.submission.schemaMinor ≤ input.service.schemaMinorMax ∧
    input.service.identity.schemaMinor = input.submission.schemaMinor
  payload_le : input.submission.payloadLength ≤ input.service.logicalPayloadLimit
  digest_le : input.submission.contentDigestMatches ≤ 1
  digest_ne : input.submission.contentDigestMatches ≠ 0
  targets : targetsAreValid input.submission
  identity : submissionIdentityShapeIsValid input = true
  deadlines :
    if input.service.family.isDownlink = true then deadlinesFit input.service input.submission
    else input.submission.effectDeadlineMs = noDeadline ∧ input.submission.evidenceGraceMs = 0
  evidence : 1 ≤ input.submission.requiredEvidence ∧ input.submission.requiredEvidence ≤ 4 ∧
    input.service.supportedEvidenceMask &&& evidenceMask input.submission.requiredEvidence ≠ 0
  key : idempotencyKeyIsValid input.submission.idempotencyKey = true

theorem deadlineGuard_ok {service : Service} {submission : SemanticSubmission} {u : Unit} :
    deadlineGuard service submission = .ok u ↔
      if service.family.isDownlink = true then deadlinesFit service submission
      else submission.effectDeadlineMs = noDeadline ∧ submission.evidenceGraceMs = 0 := by
  unfold deadlineGuard
  split_ifs <;> simp

theorem semanticGuards_ok : semanticGuards input = .ok () ↔ SemanticallyValid input := by
  constructor
  · intro h
    simp only [semanticGuards, bind_eq_ok, require_eq_ok, exists_const, deadlineGuard_ok] at h
    obtain ⟨⟨h1, h2⟩, h3, h4, ⟨h5, h6⟩, h7, h8, h9, h10, h11, h12, h13, h14, h15, h16⟩ := h
    exact
      { supported := h1
        sender := h2.resolve_right h3
        service_shape := h4
        count_ne := h5
        count_le := h6
        count_one := h7
        schema := h8
        payload_le := h9
        digest_le := h10
        digest_ne := h11
        targets := h12
        identity := h13
        deadlines := h14
        evidence := h15
        key := h16 }
  · intro h
    simp only [semanticGuards, bind_eq_ok, require_eq_ok, exists_const, deadlineGuard_ok]
    exact ⟨⟨h.supported, .inl h.sender⟩, by rw [h.sender]; decide, h.service_shape,
      ⟨h.count_ne, h.count_le⟩, h.count_one, h.schema, h.payload_le, h.digest_le, h.digest_ne,
      h.targets, h.identity, h.deadlines, h.evidence, h.key⟩

theorem alreadyExit_ne_ok {family : Family} {existing : ExistingAdmission} {u : Unit} :
    alreadyExit family existing ≠ .ok u := by
  unfold alreadyExit
  split_ifs <;> simp

/-- A submission is new only if no mapping of its key, and for the families with an event
mapping no mapping of its event identifier, exists. -/
theorem reduceIdempotency_ok (h : reduceIdempotency input = .ok ()) :
    input.callerKeyMapping.state = .absent ∧ input.eventIdMapping.state = .absent := by
  simp only [reduceIdempotency, bind_eq_ok, require_eq_ok, exists_const] at h
  obtain ⟨-, -, -, h⟩ := h
  by_cases hdown : input.service.family.isDownlink = true
  · rw [if_pos hdown] at h
    simp only [bind_eq_ok, require_eq_ok, exists_const] at h
    obtain ⟨hevent, h⟩ := h
    by_cases habs : input.callerKeyMapping.state = .absent
    · exact ⟨habs, hevent⟩
    · rw [if_neg habs] at h
      split_ifs at h
      exact absurd h alreadyExit_ne_ok
  · rw [if_neg hdown] at h
    simp only [bind_eq_ok, require_eq_ok, exists_const] at h
    obtain ⟨-, -, -, h⟩ := h
    by_cases habs : input.callerKeyMapping.state = .absent ∧ input.eventIdMapping.state = .absent
    · exact habs
    · rw [if_neg habs] at h
      split_ifs at h
      exact absurd h alreadyExit_ne_ok

theorem checkClock_ok {clock : ClockFact} :
    checkClock clock = .ok () ↔ clock.state = .trusted ∧ idIsZero clock.clockEpochId = false := by
  unfold checkClock
  cases h : clock.state <;> simp

theorem absoluteDeadlines_ok {d : UInt64 × UInt64} (h : absoluteDeadlines input = .ok d) :
    (input.service.family.isDownlink = true ∧
        d.1.toNat = input.clock.nowMs.toNat + input.submission.effectDeadlineMs.toNat ∧
        d.2.toNat = d.1.toNat + input.submission.evidenceGraceMs.toNat) ∨
      (input.service.family.isDownlink = false ∧ d = (noDeadline, noDeadline)) := by
  unfold absoluteDeadlines at h
  split_ifs at h with hdown
  · simp only [bind_eq_ok, orExit_eq_ok, checkedAdd_eq_some] at h
    obtain ⟨effect, he, close, hc, h⟩ := h
    cases h
    exact .inl ⟨hdown, he, hc⟩
  · cases h
    exact .inr ⟨by simpa using hdown, rfl⟩

theorem reduceAuthority_ok (h : reduceAuthority input = .ok ()) :
    (input.service.family.isDownlink = true ∧ input.service.family.isUplink = false) ∨
      (input.service.family.isUplink = true ∧ input.service.family.isDownlink = false ∧
        grantIsValid input = true) := by
  unfold reduceAuthority at h
  by_cases hdown : input.service.family.isDownlink = true
  · refine .inl ⟨hdown, ?_⟩
    cases hf : input.service.family <;> simp_all [Family.isUplink, Family.isDownlink]
  · rw [if_neg hdown] at h
    by_cases hup : input.service.family.isUplink = true
    · refine .inr ⟨hup, by simpa using hdown, ?_⟩
      simp only [hup, Bool.not_true, Bool.false_eq_true, if_false] at h
      cases hfact : input.authority.fact with
      | allow =>
        simp only [hfact, require_eq_ok] at h
        exact h.2
      | deny | temporaryFailure =>
        simp only [hfact] at h
        split_ifs at h
      | permanentOrInvalid | notApplicable | unknown => simp [hfact] at h
    · simp [hup] at h

/-! ### Quota -/

/-- The counters of the current window: zero when the window of the snapshot has passed. -/
def windowAdmissions (input : PreflightInput) : ℕ :=
  if input.quota.windowIsCurrent ≠ 0 then input.quota.admissionsInWindow.toNat else 0

def windowBytes (input : PreflightInput) : ℕ :=
  if input.quota.windowIsCurrent ≠ 0 then input.quota.payloadBytesInWindow.toNat else 0

/-- What the quota stage leaves in the plan. -/
structure QuotaFacts (input : PreflightInput) (q : QuotaCommitPlan) : Prop where
  epoch : q.clockEpochId = input.clock.clockEpochId
  window : q.windowStartedAtMs =
    input.clock.nowMs - input.clock.nowMs % input.service.admissionWindowMs.toUInt64
  inflight : q.nextInflightCount.toNat = input.quota.inflightCount.toNat + 1
  inflight_le : q.nextInflightCount.toNat ≤ input.service.inflightLimit.toNat
  admissions : q.nextAdmissionsInWindow.toNat = windowAdmissions input + 1
  admissions_le : q.nextAdmissionsInWindow.toNat ≤ input.service.maxAdmissionsPerWindow.toNat
  bytes : q.nextPayloadBytesInWindow.toNat =
    windowBytes input + input.submission.payloadLength.toNat
  bytes_le : q.nextPayloadBytesInWindow.toNat ≤ input.service.maxPayloadBytesPerWindow.toNat
  spool : input.service.family.isUplink = true →
    input.submission.payloadLength.toNat ≤ input.authority.grant.maxPayloadBytes.toNat ∧
    q.nextEventActiveSpoolCount.toNat = input.eventGrantUsage.activeSpoolCount.toNat + 1 ∧
    q.nextEventActiveSpoolCount.toNat ≤ input.authority.grant.maxActiveSpoolCount.toNat ∧
    q.nextEventActiveSpoolBytes.toNat = input.eventGrantUsage.activeSpoolBytes.toNat +
      (input.submission.payloadLength.toNat + 2560) ∧
    q.nextEventActiveSpoolBytes.toNat ≤ input.authority.grant.maxActiveSpoolBytes.toNat ∧
    q.nextAdmissionsInWindow.toNat ≤ input.authority.grant.maxAdmissionsPerWindow.toNat
  no_spool : input.service.family.isUplink = false →
    q.nextEventActiveSpoolCount = 0 ∧ q.nextEventActiveSpoolBytes = 0

theorem evaluateGrant_ok {admissions remaining : UInt64} {s : UInt64 × UInt64}
    (h : evaluateGrant input admissions remaining = .ok s) :
    input.submission.payloadLength.toNat ≤ input.authority.grant.maxPayloadBytes.toNat ∧
    s.1.toNat = input.eventGrantUsage.activeSpoolCount.toNat + 1 ∧
    s.1.toNat ≤ input.authority.grant.maxActiveSpoolCount.toNat ∧
    s.2.toNat = input.eventGrantUsage.activeSpoolBytes.toNat +
      (input.submission.payloadLength.toNat + 2560) ∧
    s.2.toNat ≤ input.authority.grant.maxActiveSpoolBytes.toNat ∧
    admissions.toNat ≤ input.authority.grant.maxAdmissionsPerWindow.toNat := by
  simp only [evaluateGrant, bind_eq_ok, require_eq_ok, orExit_eq_ok, exists_const,
    checkedIncrement_eq_some, checkedAdd_eq_some, UInt32.le_iff_toNat_le, UInt64.le_iff_toNat_le,
    UInt32.toNat_toUInt64] at h
  obtain ⟨hpay, count, hcount, hcle, added, hadded, bytes, hbytes, hble, hadm, h⟩ := h
  cases h
  have hres : eventManagementReservationBytes.toNat = 2560 := rfl
  rw [hres] at hadded
  exact ⟨hpay, hcount, hcle, by rw [hbytes, hadded], hble, hadm⟩

theorem evaluateQuotaAndGrant_ok {q : QuotaCommitPlan} (h : evaluateQuotaAndGrant input = .ok q) :
    QuotaFacts input q := by
  simp only [evaluateQuotaAndGrant, bind_eq_ok, require_eq_ok, orExit_eq_ok, exists_const,
    checkedIncrement_eq_some, checkedAdd_eq_some, UInt64.le_iff_toNat_le,
    UInt32.toNat_toUInt64] at h
  obtain ⟨-, inflight, hin, hinle, adm, hadm, hadmle, bytes, hbytes, hbytesle, spool, hspool, h⟩ := h
  cases h
  refine ⟨rfl, rfl, hin, hinle, ?_, hadmle, ?_, hbytesle, fun hup => ?_, fun hup => ?_⟩
  · rw [hadm, windowAdmissions]
    split_ifs <;> rfl
  · rw [hbytes, windowBytes]
    split_ifs <;> rfl
  · rw [evaluateSpool, if_pos hup] at hspool
    exact evaluateGrant_ok hspool
  · rw [evaluateSpool, if_neg (by simp [hup])] at hspool
    cases hspool
    exact ⟨rfl, rfl⟩

/-! ### Resources -/

/-- A request of the admission batches. -/
def request (kind : UInt32) (amount : UInt64) : BatchRequest := { kind := kind, amount := amount }

/-- The request list of one amount, empty when the amount is zero. -/
def requestUnlessZero (kind : UInt32) (amount : UInt64) : List BatchRequest :=
  if amount = 0 then [] else [request kind amount]

theorem buildRequests_uplink {family : Family} (hup : family.isUplink = true)
    (hdown : family.isDownlink = false) {count spool outbox evidence : UInt64} (hc : count ≠ 0)
    (he : evidence ≠ 0) :
    buildRequests family count spool outbox evidence =
      some ([request kindTransaction 1, request kindTarget count, request kindEventSpoolCount 1]
        ++ requestUnlessZero kindEventSpoolBytes spool ++ [request kindEvidence evidence]) := by
  by_cases hs : spool = 0 <;>
    simp [buildRequests, addFamilyRequests, addRequest, requestUnlessZero, request, hup, hdown, hc,
      he, hs, kindTransaction, kindTarget, kindEventSpoolCount, kindEventSpoolBytes, kindEvidence,
      kindCount]

theorem buildRequests_downlink {family : Family} (hdown : family.isDownlink = true)
    {count spool outbox evidence : UInt64} (hc : count ≠ 0) (he : evidence ≠ 0) :
    buildRequests family count spool outbox evidence =
      some ([request kindTransaction 1, request kindTarget count]
        ++ requestUnlessZero kindOutboxBytes outbox ++ [request kindEvidence evidence]) := by
  by_cases ho : outbox = 0 <;>
    simp [buildRequests, addFamilyRequests, addRequest, requestUnlessZero, request, hdown, hc,
      he, ho, kindTransaction, kindTarget, kindOutboxBytes, kindEvidence, kindCount]

/-- What the resource stage leaves in the plan. -/
structure ResourceFacts (input : PreflightInput) (p : ReservationPlan) : Prop where
  requests : buildResourceRequests input = some (p.reserveRequests, p.commitRequests)
  reserved : ∃ r, capacityBatchTransition input.resourceLedger
      (batchOf .reserveOrBlock p.reserveRequests) = .ok r ∧
    r.action = .allReserved ∧ r.next = p.reservedLedger
  committed : ∃ r, capacityBatchTransition p.reservedLedger
      (batchOf .commitReserved p.commitRequests) = .ok r ∧
    r.action = .allCommitted ∧ r.next = p.committedLedger

theorem evaluateResources_ok {p : ReservationPlan} (h : evaluateResources input = .ok p) :
    ResourceFacts input p := by
  simp only [evaluateResources, bind_eq_ok, orExit_eq_ok] at h
  obtain ⟨⟨reserve, commit⟩, hreq, h⟩ := h
  cases hr : capacityBatchTransition input.resourceLedger (batchOf .reserveOrBlock reserve) with
  | error status => simp [hr] at h
  | ok reserved =>
    simp only [hr] at h
    cases hact : reserved.action <;> simp only [hact] at h
    case allReserved =>
      cases hc : capacityBatchTransition reserved.next (batchOf .commitReserved commit) with
      | error status => simp [hc] at h
      | ok committed =>
        simp only [hc] at h
        split_ifs at h with hca
        cases h
        exact ⟨hreq, ⟨reserved, hr, hact, rfl⟩, ⟨committed, hc, hca, rfl⟩⟩
    all_goals cases h

/-! ### The ready result -/

/-- Everything a ready preflight says about its input and its plan. -/
structure Ready (input : PreflightInput) (plan : AdmissionPlan) : Prop where
  semantic : SemanticallyValid input
  new : input.callerKeyMapping.state = .absent ∧ input.eventIdMapping.state = .absent
  clock : idIsZero input.clock.clockEpochId = false
  direction : (input.service.family.isDownlink = true ∧ input.service.family.isUplink = false) ∨
    (input.service.family.isUplink = true ∧ input.service.family.isDownlink = false ∧
      grantIsValid input = true)
  deadlines : (input.service.family.isDownlink = true ∧
      plan.absoluteEffectDeadlineMs.toNat =
        input.clock.nowMs.toNat + input.submission.effectDeadlineMs.toNat ∧
      plan.absoluteEvidenceCloseMs.toNat =
        plan.absoluteEffectDeadlineMs.toNat + input.submission.evidenceGraceMs.toNat) ∨
    (input.service.family.isDownlink = false ∧ plan.absoluteEffectDeadlineMs = noDeadline ∧
      plan.absoluteEvidenceCloseMs = noDeadline)
  transaction : plan.transactionSequence.toNat = input.lastTransactionSequence.toNat + 1
  owner : plan.schedulerOwnerSequence.toNat = input.lastSchedulerOwnerSequence.toNat + 1
  quota : QuotaFacts input plan.quota
  resources : ResourceFacts input plan.resources
  plan_eq : plan = fillAdmissionPlan input plan.transactionSequence plan.schedulerOwnerSequence
    (plan.absoluteEffectDeadlineMs, plan.absoluteEvidenceCloseMs) plan.quota plan.resources

section Fields

variable {plan : AdmissionPlan} (hr : Ready input plan)
include hr

theorem Ready.family_eq : plan.family = input.service.family := by rw [hr.plan_eq]; rfl
theorem Ready.service_eq : plan.registeredService = input.service := by rw [hr.plan_eq]; rfl
theorem Ready.source_eq : plan.source = input.service.source := by rw [hr.plan_eq]; rfl
theorem Ready.identity_eq : plan.service = input.service.identity := by rw [hr.plan_eq]; rfl
theorem Ready.target_eq : plan.target = input.submission.target := by rw [hr.plan_eq]; rfl
theorem Ready.key_eq : plan.idempotencyKey = input.submission.idempotencyKey := by
  rw [hr.plan_eq]; rfl
theorem Ready.content_eq : plan.contentDigest = input.submission.contentDigest := by
  rw [hr.plan_eq]; rfl
theorem Ready.digest_eq :
    plan.canonicalSubmissionDigest = input.submission.canonicalSubmissionDigest := by
  rw [hr.plan_eq]; rfl
theorem Ready.eventId_eq : plan.eventId = input.submission.eventId := by rw [hr.plan_eq]; rfl
theorem Ready.generation_eq : plan.generation = input.submission.generation := by
  rw [hr.plan_eq]; rfl
theorem Ready.evidence_eq : plan.requiredEvidence = input.submission.requiredEvidence := by
  rw [hr.plan_eq]; rfl
theorem Ready.payload_eq : plan.payloadLength = input.submission.payloadLength := by
  rw [hr.plan_eq]; rfl
theorem Ready.epoch_eq : plan.admissionClockEpochId = input.clock.clockEpochId := by
  rw [hr.plan_eq]; rfl

end Fields

theorem Ready.of_admissionPlan {plan : AdmissionPlan} (h : admissionPlan input = .ok plan) :
    Ready input plan := by
  simp only [admissionPlan, bind_eq_ok, orExit_eq_ok, checkedIncrement_eq_some] at h
  obtain ⟨_, hsem, _, hidem, _, hclock, d, hd, tx, htx, owner, howner, _, hauth, q, hq, res, hres,
    h⟩ := h
  cases h
  refine ⟨semanticGuards_ok.1 hsem, reduceIdempotency_ok hidem, (checkClock_ok.1 hclock).2,
    reduceAuthority_ok hauth, ?_, htx, howner, evaluateQuotaAndGrant_ok hq,
    evaluateResources_ok hres, rfl⟩
  rcases absoluteDeadlines_ok hd with h1 | ⟨h1, rfl⟩
  · exact .inl h1
  · exact .inr ⟨h1, rfl, rfl⟩

/-! ### Early exits -/

/-- An exit that is no admission: it is not ready, and its plan is the zeroed one. -/
def NoAdmission : Exit → Prop
  | .fail _ => True
  | .stop r => r.action ≠ .readyForIdAllocation ∧ r.admission = {}

theorem noAdmission_apiError (status : Status) : NoAdmission (.stop (setApiError status)) :=
  ⟨nofun, rfl⟩

theorem noAdmission_guidance (reason : Reason) (guidance : RetryGuidance) (delay : UInt64) :
    NoAdmission (.stop (setRejectedWithGuidance reason guidance delay)) :=
  ⟨nofun, rfl⟩

theorem noAdmission_rejected (reason : Reason) : NoAdmission (rejected reason) :=
  noAdmission_guidance _ _ _

theorem noAdmission_fail (status : Status) : NoAdmission (.fail status) := trivial

theorem semanticGuards_exits : Exits NoAdmission (semanticGuards input) := by
  unfold semanticGuards deadlineGuard
  repeat' first
    | exact exits_require (noAdmission_fail _)
    | exact exits_require (noAdmission_rejected _)
    | exact exits_require (noAdmission_apiError _)
    | apply Exits.ite
    | refine Exits.bind ?_ fun _ => ?_

theorem reduceIdempotency_exits : Exits NoAdmission (reduceIdempotency input) := by
  have halready : ∀ family existing, Exits NoAdmission (alreadyExit family existing) :=
    fun _ _ => (exits_error ⟨nofun, rfl⟩).ite (exits_error trivial)
  unfold reduceIdempotency
  repeat' first
    | exact halready _ _
    | exact exits_ok
    | exact exits_error ⟨nofun, rfl⟩
    | exact exits_require (noAdmission_fail _)
    | exact exits_require (noAdmission_apiError _)
    | apply Exits.ite
    | refine Exits.bind ?_ fun _ => ?_

theorem checkClock_exits {clock : ClockFact} : Exits NoAdmission (checkClock clock) := by
  unfold checkClock
  split
  · exact exits_require (noAdmission_apiError _)
  · exact exits_error (noAdmission_apiError _)
  · exact exits_error (noAdmission_apiError _)
  · exact exits_error (noAdmission_fail _)

theorem absoluteDeadlines_exits : Exits NoAdmission (absoluteDeadlines input) :=
  .ite
    (.bind (exits_orExit (noAdmission_rejected _)) fun _ =>
      .bind (exits_orExit (noAdmission_rejected _)) fun _ => exits_ok)
    exits_ok

theorem reduceAuthority_exits : Exits NoAdmission (reduceAuthority input) := by
  unfold reduceAuthority
  refine .ite (exits_require trivial) (.ite (exits_error trivial) ?_)
  split
  · exact exits_require (noAdmission_apiError _)
  · exact (exits_error (noAdmission_guidance _ _ _)).ite (exits_error (noAdmission_apiError _))
  · exact (exits_error (noAdmission_apiError _)).ite (exits_error (noAdmission_apiError _))
  · exact exits_error (noAdmission_apiError _)
  · exact exits_error trivial
  · exact exits_error trivial

theorem evaluateQuotaAndGrant_exits : Exits NoAdmission (evaluateQuotaAndGrant input) := by
  unfold evaluateQuotaAndGrant evaluateSpool evaluateGrant
  repeat' first
    | exact exits_ok
    | exact exits_require (noAdmission_fail _)
    | exact exits_require (noAdmission_guidance _ _ _)
    | exact exits_orExit (noAdmission_guidance _ _ _)
    | apply Exits.ite
    | refine Exits.bind ?_ fun _ => ?_

theorem evaluateResources_exits : Exits NoAdmission (evaluateResources input) := by
  refine .bind (exits_orExit trivial) fun requests => ?_
  split
  · exact exits_error trivial
  · split
    · exact exits_error ⟨nofun, rfl⟩
    · exact exits_error (noAdmission_rejected _)
    · exact exits_error (noAdmission_rejected _)
    · split
      · exact exits_error trivial
      · exact exits_ok.ite (exits_error trivial)
    · exact exits_error trivial

theorem admissionPlan_exits : Exits NoAdmission (admissionPlan input) :=
  semanticGuards_exits.bind fun _ => reduceIdempotency_exits.bind fun _ =>
    checkClock_exits.bind fun _ => absoluteDeadlines_exits.bind fun _ =>
    (exits_orExit (noAdmission_rejected _)).bind fun _ =>
    (exits_orExit (noAdmission_rejected _)).bind fun _ =>
    reduceAuthority_exits.bind fun _ => evaluateQuotaAndGrant_exits.bind fun _ =>
    evaluateResources_exits.bind fun _ => exits_ok

/-- **Inversion of preflight.**  Its result is ready with the plan of the stages, or it carries no
admission at all. -/
theorem preflight_cases {r : PreflightResult} (h : submissionPreflight input = .ok r) :
    (r.action = .readyForIdAllocation ∧ Ready input r.admission) ∨
      (r.action ≠ .readyForIdAllocation ∧ r.admission = {}) := by
  unfold submissionPreflight at h
  cases hp : admissionPlan input with
  | ok plan =>
    rw [hp] at h
    cases h
    exact .inl ⟨rfl, .of_admissionPlan hp⟩
  | error e =>
    rw [hp] at h
    cases e with
    | fail status => cases h
    | stop result =>
      cases h
      exact .inr (admissionPlan_exits _ hp)

theorem Ready.of_preflight {r : PreflightResult} (h : submissionPreflight input = .ok r)
    (hr : r.action = .readyForIdAllocation) : Ready input r.admission := by
  rcases preflight_cases h with ⟨-, h⟩ | ⟨hne, -⟩
  · exact h
  · exact absurd hr hne

end Preflight
end Ninlil.Submission
