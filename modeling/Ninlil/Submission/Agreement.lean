import Ninlil.Submission.Ready
import Ninlil.Submission.Admission

/-!
# Preflight and allocation on the same plan

Two separately written sets of checks look at an admission: preflight's before the plan is
filled, and the allocation's on the plan itself.  This module compares them.

* the shape checks of the two files are the same functions (`presence_agree`, `textId_agree`,
  `target_agree`, `service_agree`);
* `resources_agree`: the resource plan of a ready preflight passes the allocation's re-check;
* `quotaShape_iff`, `deadlines_iff`: the two places where the allocation asks for more;
* `planIsValid_iff`: the exact condition under which the plan of a ready preflight is valid.
-/

namespace Ninlil.Submission

open Resource Guard Preflight Admission

variable {input : PreflightInput}

/-! ### Shapes -/

theorem presence_agree (flags : UInt32) (device installation site : Id128) (b m : UInt64) :
    presenceShapeIsValid flags device installation site b m =
      presenceIsValid flags device installation site b m := by
  unfold presenceShapeIsValid presenceIsValid
  by_cases h : flags &&& ~~~allowedPresenceFlags = 0 <;> simp [h]

theorem textId_agree (text : TextId) (grammar : TextIdGrammar) :
    Preflight.textIdIsValid text grammar =
      Admission.textIdIsValid text (grammar == .namespaceId) := by
  unfold Preflight.textIdIsValid Admission.textIdIsValid
  cases grammar <;> rfl

theorem target_agree (target : ConcreteTarget) :
    concreteTargetIsValid target = targetIsValid target := by
  simp only [concreteTargetIsValid, targetIsValid, presence_agree]

theorem uint32_pos_iff {x : UInt32} : 0 < x ↔ x ≠ 0 := by
  rw [UInt32.lt_iff_toNat_lt, ne_eq, ← UInt32.toNat_inj, UInt32.toNat_zero]
  omega

theorem uint64_one_le_iff {x : UInt64} : 1 ≤ x ↔ 0 < x := by
  rw [UInt64.lt_iff_toNat_lt, UInt64.le_iff_toNat_le, UInt64.toNat_zero, UInt64.toNat_one]
  omega

/-- A service that passes preflight passes the three service checks of the allocation. -/
theorem service_agree {service : Service} (h : serviceShapeIsValid service = true)
    (hs : service.localSide = .sender) (hf : service.family.isAdmitSupported = true) :
    registeredServiceIsValid service = true ∧ partyIsValid service.source = true ∧
      serviceIdentityIsValid service.identity = true := by
  simp only [serviceShapeIsValid, localIdentityIsValid, presence_agree, textId_agree,
    Bool.and_eq_true] at h
  obtain ⟨⟨⟨⟨⟨⟨⟨⟨⟨⟨⟨⟨⟨⟨⟨⟨⟨⟨⟨⟨⟨⟨⟨⟨⟨⟨h1, h2⟩, h3⟩, h4⟩, ⟨h5, h6⟩, h7⟩, h8⟩, h9⟩, h10⟩, h11⟩, h12⟩,
    h13⟩, h14⟩, h15⟩, h16⟩, h17⟩, h18⟩, h19⟩, h20⟩, h21⟩, h22⟩, h23⟩, h24⟩, h25⟩, h26⟩, h27⟩, h28⟩,
    h29⟩ := h
  have hparty : partyIsValid service.source = true := by
    simp only [partyIsValid, h1, h3, h4, h5, h6, h7, Bool.and_true]
  have hident : serviceIdentityIsValid service.identity = true := by
    have hfam : service.identity.family.isAdmitSupported = true := by
      rw [beq_iff_eq.1 h13]; exact hf
    simp only [serviceIdentityIsValid, h2, h11, h12, hfam, Bool.and_true, Bool.true_and]
    exact Bool.and_eq_true _ _ ▸ ⟨Bool.and_eq_true _ _ ▸ ⟨h8, h9⟩, h10⟩
  refine ⟨?_, hparty, hident⟩
  simp only [bne_iff_ne, ← uint32_pos_iff] at h21 h22 h23 h25 h27
  have hdead : (if service.family.isDownlink = true then
      decide (service.minimumDeadlineMs ≥ 1) &&
        decide (service.minimumDeadlineMs ≤ service.maximumDeadlineMs) &&
        decide (service.maximumDeadlineMs < noDeadline)
    else service.minimumDeadlineMs == noDeadline && service.maximumDeadlineMs == noDeadline &&
      service.maximumEvidenceGraceMs == 0) = true := by
    simpa only [ge_iff_le, uint64_one_le_iff] using h29
  simp only [registeredServiceIsValid, hs, hparty, hident, h13, h14, h15, h16, h17, h18, h20,
    h24, h26, h28, hdead, gt_iff_lt, ge_iff_le, h19, h21, h22, h23, h25, h27, decide_true,
    Bool.and_true]
  rfl

/-! ### Resources -/

/-- What the allocation reads from a request list: its shape, its length and one amount per
kind. -/
structure RequestSummary (l : List BatchRequest) (len : ℕ)
    (target outbox spoolCount spoolBytes evidence : UInt64) : Prop where
  shape : requestsShapeIsValid l = true
  single : requestKinds.all (fun kind => (requestAmount l kind).2) = true
  length_eq : l.length = len
  transaction : (requestAmount l kindTransaction).1 = 1
  target : (requestAmount l kindTarget).1 = target
  outbox : (requestAmount l kindOutboxBytes).1 = outbox
  spoolCount : (requestAmount l kindEventSpoolCount).1 = spoolCount
  spoolBytes : (requestAmount l kindEventSpoolBytes).1 = spoolBytes
  evidence : (requestAmount l kindEvidence).1 = evidence

theorem uplink_summary {count spool evidence : UInt64} (hc : count ≠ 0) (he : evidence ≠ 0) :
    RequestSummary
      ([request kindTransaction 1, request kindTarget count, request kindEventSpoolCount 1]
        ++ requestUnlessZero kindEventSpoolBytes spool ++ [request kindEvidence evidence])
      (if spool = 0 then 4 else 5) count 0 1 spool evidence := by
  by_cases hs : spool = 0 <;> constructor <;>
    simp [requestUnlessZero, request, requestsShapeIsValid, requestAmount, requestKinds, hs, hc,
      he, kindTransaction, kindTarget, kindOutboxBytes, kindEventSpoolCount, kindEventSpoolBytes,
      kindEvidence]

theorem downlink_summary {count outbox evidence : UInt64} (hc : count ≠ 0) (he : evidence ≠ 0) :
    RequestSummary
      ([request kindTransaction 1, request kindTarget count]
        ++ requestUnlessZero kindOutboxBytes outbox ++ [request kindEvidence evidence])
      (if outbox = 0 then 3 else 4) count outbox 0 0 evidence := by
  by_cases ho : outbox = 0 <;> constructor <;>
    simp [requestUnlessZero, request, requestsShapeIsValid, requestAmount, requestKinds, ho, hc,
      he, kindTransaction, kindTarget, kindOutboxBytes, kindEventSpoolCount, kindEventSpoolBytes,
      kindEvidence]

section Plan

variable {plan : AdmissionPlan} {p : ReservationPlan} {q : QuotaCommitPlan}

theorem toUInt64_eq_zero {x : UInt32} : x.toUInt64 = 0 ↔ x = 0 := by
  rw [← UInt64.toNat_inj, ← UInt32.toNat_inj, UInt32.toNat_toUInt64, UInt64.toNat_zero,
    UInt32.toNat_zero]

theorem targetCount_bounds (h : SemanticallyValid input) :
    1 ≤ input.submission.targetCount.toNat ∧ input.submission.targetCount.toNat ≤ 4 := by
  have h1 := h.count_ne
  have h2 := h.count_le
  rw [ne_eq, ← UInt32.toNat_inj, UInt32.toNat_zero] at h1
  rw [UInt32.le_iff_toNat_le] at h2
  exact ⟨by omega, h2⟩

theorem maxEvidence_bounds (h : SemanticallyValid input) :
    1 ≤ input.service.maxEvidencePerTarget.toNat ∧
      input.service.maxEvidencePerTarget.toNat ≤ 8 := by
  have hs := h.service_shape
  simp only [serviceShapeIsValid, Bool.and_eq_true, bne_iff_ne, decide_eq_true_eq] at hs
  have h1 := hs.1.1.2
  have h2 := hs.1.2
  rw [ne_eq, ← UInt32.toNat_inj, UInt32.toNat_zero] at h1
  rw [UInt32.le_iff_toNat_le] at h2
  exact ⟨by omega, h2⟩

/-- The evidence amount is at most thirty-six, so its product does not wrap. -/
theorem evidenceAmount_toNat (h : SemanticallyValid input) :
    ((input.service.maxEvidencePerTarget.toUInt64 + 1) *
        input.submission.targetCount.toUInt64).toNat =
      (input.service.maxEvidencePerTarget.toNat + 1) * input.submission.targetCount.toNat := by
  obtain ⟨h1, h2⟩ := targetCount_bounds h
  obtain ⟨h3, h4⟩ := maxEvidence_bounds h
  rw [UInt64.toNat_mul, UInt64.toNat_add, UInt32.toNat_toUInt64, UInt32.toNat_toUInt64,
    UInt64.toNat_one, Nat.mod_eq_of_lt (a := _ + 1) (by omega), Nat.mod_eq_of_lt]
  calc (input.service.maxEvidencePerTarget.toNat + 1) * input.submission.targetCount.toNat
      ≤ 9 * 4 := Nat.mul_le_mul (by omega) h2
    _ < 2 ^ 64 := by norm_num

theorem evidenceAmount_ne_zero (h : SemanticallyValid input) :
    (input.service.maxEvidencePerTarget.toUInt64 + 1) *
      input.submission.targetCount.toUInt64 ≠ 0 := by
  intro h0
  have := congrArg UInt64.toNat h0
  rw [evidenceAmount_toNat h, UInt64.toNat_zero] at this
  have h1 := (targetCount_bounds h).1
  rcases Nat.mul_eq_zero.1 this with h2 | h2 <;> omega

theorem spoolBytes_toNat (x : UInt32) :
    (x.toUInt64 + eventManagementReservationBytes).toNat = x.toNat + 2560 := by
  have hx := x.toNat_lt
  have hres : eventManagementReservationBytes.toNat = 2560 := rfl
  rw [UInt64.toNat_add, UInt32.toNat_toUInt64, hres, Nat.mod_eq_of_lt (by omega)]

theorem spoolBytes_ne_zero (x : UInt32) : x.toUInt64 + eventManagementReservationBytes ≠ 0 := by
  intro h0
  have := congrArg UInt64.toNat h0
  rw [spoolBytes_toNat, UInt64.toNat_zero] at this
  omega

/-- The two request lists of a ready preflight. -/
theorem requests_cases (h : SemanticallyValid input) (hres : ResourceFacts input p) :
    (input.service.family.isDownlink = true →
      p.reserveRequests =
        [request kindTransaction 1, request kindTarget input.submission.targetCount.toUInt64]
          ++ requestUnlessZero kindOutboxBytes input.submission.payloadLength.toUInt64
          ++ [request kindEvidence ((input.service.maxEvidencePerTarget.toUInt64 + 1) *
            input.submission.targetCount.toUInt64)] ∧
      p.commitRequests =
        [request kindTransaction 1, request kindTarget input.submission.targetCount.toUInt64]
          ++ requestUnlessZero kindOutboxBytes input.submission.payloadLength.toUInt64
          ++ [request kindEvidence input.submission.targetCount.toUInt64]) ∧
    (input.service.family.isUplink = true → input.service.family.isDownlink = false →
      p.reserveRequests =
        [request kindTransaction 1, request kindTarget input.submission.targetCount.toUInt64,
            request kindEventSpoolCount 1]
          ++ requestUnlessZero kindEventSpoolBytes
            (input.submission.payloadLength.toUInt64 + eventManagementReservationBytes)
          ++ [request kindEvidence ((input.service.maxEvidencePerTarget.toUInt64 + 1) *
            input.submission.targetCount.toUInt64)] ∧
      p.commitRequests =
        [request kindTransaction 1, request kindTarget input.submission.targetCount.toUInt64,
            request kindEventSpoolCount 1]
          ++ requestUnlessZero kindEventSpoolBytes input.submission.payloadLength.toUInt64
          ++ [request kindEvidence input.submission.targetCount.toUInt64]) := by
  have hc : input.submission.targetCount.toUInt64 ≠ 0 := fun h0 =>
    h.count_ne (toUInt64_eq_zero.1 h0)
  have he := evidenceAmount_ne_zero h
  have hreq := hres.requests
  refine ⟨fun hdown => ?_, fun hup hdown => ?_⟩
  · simp only [buildResourceRequests, buildRequests_downlink hdown hc he,
      buildRequests_downlink hdown hc hc] at hreq
    have hpair := Prod.mk.inj (Option.some.inj hreq)
    exact ⟨hpair.1.symm, hpair.2.symm⟩
  · simp only [buildResourceRequests, buildRequests_uplink hup hdown hc he,
      buildRequests_uplink hup hdown hc hc] at hreq
    have hpair := Prod.mk.inj (Option.some.inj hreq)
    exact ⟨hpair.1.symm, hpair.2.symm⟩

/-- **The resource plan of a ready preflight passes the allocation's re-check.** -/
theorem resources_agree (hr : Ready input plan) : resourcePlanMatchesAdmission plan = true := by
  have h := hr.semantic
  obtain ⟨r, hcommit, hact, hnext⟩ := hr.resources.committed
  have hn : input.submission.targetCount ≠ 0 := h.count_ne
  have hc : input.submission.targetCount.toUInt64 ≠ 0 := fun h0 => hn (toUInt64_eq_zero.1 h0)
  have he := evidenceAmount_ne_zero h
  have hspool := spoolBytes_ne_zero input.submission.payloadLength
  obtain ⟨hdownReq, hupReq⟩ := requests_cases h hr.resources
  rw [hr.plan_eq]
  rcases hr.direction with ⟨hdown, hup⟩ | ⟨hup, hdown, -⟩
  · obtain ⟨hr', hc'⟩ := hdownReq hdown
    have sr := @downlink_summary _ input.submission.payloadLength.toUInt64 _ hc he
    have sc := @downlink_summary _ input.submission.payloadLength.toUInt64 _ hc hc
    rw [← hr'] at sr
    rw [← hc'] at sc
    simp only [toUInt64_eq_zero] at sr sc
    simp only [resourcePlanMatchesAdmission, fillAdmissionPlan, hcommit, hact, hnext, hup, hn,
      sr.shape, sr.single, sr.length_eq, sr.transaction, sr.target, sr.outbox, sr.spoolCount,
      sr.spoolBytes, sr.evidence, sc.shape, sc.single, sc.length_eq, sc.transaction, sc.target,
      sc.outbox, sc.spoolCount, sc.spoolBytes, sc.evidence, if_false, kindCount]
    by_cases h0 : input.submission.payloadLength = 0 <;> simp [h0]
  · obtain ⟨hr', hc'⟩ := hupReq hup hdown
    have sr := @uplink_summary _
      (input.submission.payloadLength.toUInt64 + eventManagementReservationBytes) _ hc he
    have sc := @uplink_summary _ input.submission.payloadLength.toUInt64 _ hc hc
    rw [← hr'] at sr
    rw [← hc'] at sc
    simp only [toUInt64_eq_zero, hspool] at sr sc
    simp only [resourcePlanMatchesAdmission, fillAdmissionPlan, hcommit, hact, hnext, hup, hn,
      sr.shape, sr.single, sr.length_eq, sr.transaction, sr.target, sr.outbox, sr.spoolCount,
      sr.spoolBytes, sr.evidence, sc.shape, sc.single, sc.length_eq, sc.transaction, sc.target,
      sc.outbox, sc.spoolCount, sc.spoolBytes, sc.evidence, if_false, kindCount]
    by_cases h0 : input.submission.payloadLength = 0 <;> simp [h0]

/-! ### Grant and quota -/

theorem grant_agree (hr : Ready input plan) : planGrantShapeIsValid plan = true := by
  rw [hr.plan_eq]
  rcases hr.direction with ⟨hdown, hup⟩ | ⟨hup, hdown, hgrant⟩
  · simp [planGrantShapeIsValid, fillAdmissionPlan, hdown, hup, grantDecisionIsZero]
  · have hpay := (hr.quota.spool hup).1
    rw [← UInt32.le_iff_toNat_le] at hpay
    simp only [grantIsValid, Bool.and_eq_true] at hgrant
    simp only [planGrantShapeIsValid, fillAdmissionPlan, hdown, hup, hgrant, hpay, decide_true,
      Bool.false_eq_true, if_false, if_true, Bool.and_true]

theorem admissionWindow_ne_zero (h : SemanticallyValid input) :
    input.service.admissionWindowMs ≠ 0 := by
  have hs := h.service_shape
  simp only [serviceShapeIsValid, Bool.and_eq_true, bne_iff_ne] at hs
  exact hs.1.1.1.1.1.1.2

/-- The counters of a ready plan are in range, whatever the family. -/
theorem quota_counters (hq : QuotaFacts input q) :
    (q.nextInflightCount != 0) = true ∧
      q.nextInflightCount ≤ input.service.inflightLimit.toUInt64 ∧
      (q.nextAdmissionsInWindow != 0) = true ∧
      q.nextAdmissionsInWindow ≤ input.service.maxAdmissionsPerWindow.toUInt64 ∧
      input.submission.payloadLength.toUInt64 ≤ q.nextPayloadBytesInWindow ∧
      q.nextPayloadBytesInWindow ≤ input.service.maxPayloadBytesPerWindow.toUInt64 := by
  have h1 := hq.inflight
  have h2 := hq.admissions
  have h3 := hq.bytes
  simp only [bne_iff_ne, ne_eq, ← UInt64.toNat_inj, UInt64.toNat_zero, UInt64.le_iff_toNat_le,
    UInt32.toNat_toUInt64]
  exact ⟨by omega, hq.inflight_le, by omega, hq.admissions_le, by omega, hq.bytes_le⟩

/-- The quota check of the allocation exempts only desired state from the grant rules, so it
fails for the two other downlink families, whose grant is empty. -/
theorem quotaShape_iff (hr : Ready input plan) :
    quotaShapeIsValid plan = true ↔
      input.service.family ≠ .transfer ∧ input.service.family ≠ .config := by
  have hq := hr.quota
  obtain ⟨c1, c2, c3, c4, c5, c6⟩ := quota_counters hq
  have hw := admissionWindow_ne_zero hr.semantic
  have hepoch : (plan.quota.clockEpochId == input.clock.clockEpochId) = true := by simp [hq.epoch]
  have hstart : (plan.quota.windowStartedAtMs == input.clock.nowMs -
      input.clock.nowMs % input.service.admissionWindowMs.toUInt64) = true := by simp [hq.window]
  rw [hr.plan_eq]
  simp only [quotaShapeIsValid, fillAdmissionPlan, hw, hepoch, hstart, c1, c2, c3, c4, c5, c6,
    if_false, decide_true, Bool.true_and]
  rcases hr.direction with ⟨hdown, hup⟩ | ⟨hup, hdown, hgrant⟩
  · obtain ⟨n1, n2⟩ := hq.no_spool hup
    by_cases hf : input.service.family = .desiredState
    · simp [hf, n1, n2]
    · have hw' : (0 : UInt32) ≠ input.service.admissionWindowMs := fun h0 => hw h0.symm
      simp only [hf, hup, if_false, Bool.false_eq_true, beq_false_of_ne hw', Bool.false_and,
        false_iff, not_and_or, ne_eq, not_not]
      cases hfam : input.service.family <;> simp_all [Family.isDownlink]
  · obtain ⟨-, s2, s3, s4, s5, s6⟩ := hq.spool hup
    have hf : input.service.family ≠ .desiredState ∧ input.service.family ≠ .transfer ∧
        input.service.family ≠ .config := by
      cases hfam : input.service.family <;> simp_all [Family.isDownlink]
    simp only [grantIsValid, Bool.and_eq_true, beq_iff_eq] at hgrant
    have hrate := hgrant.1.1.1.2
    have e1 : plan.quota.nextAdmissionsInWindow ≤
        input.authority.grant.maxAdmissionsPerWindow.toUInt64 := by
      rw [UInt64.le_iff_toNat_le, UInt32.toNat_toUInt64]; exact s6
    have e2 : 1 ≤ plan.quota.nextEventActiveSpoolCount := by
      rw [UInt64.le_iff_toNat_le, UInt64.toNat_one]; omega
    have e3 : plan.quota.nextEventActiveSpoolCount ≤
        input.authority.grant.maxActiveSpoolCount.toUInt64 := by
      rw [UInt64.le_iff_toNat_le, UInt32.toNat_toUInt64]; exact s3
    have e4 : input.submission.payloadLength.toUInt64 + eventManagementReservationBytes ≤
        plan.quota.nextEventActiveSpoolBytes := by
      rw [UInt64.le_iff_toNat_le, spoolBytes_toNat]; omega
    have e5 : plan.quota.nextEventActiveSpoolBytes ≤ input.authority.grant.maxActiveSpoolBytes := by
      rw [UInt64.le_iff_toNat_le]; exact s5
    simp [hf, hup, hrate, e1, e2, e3, e4, e5]

/-! ### Deadlines, targets and ledger -/

/-- The allocation refuses the one absolute deadline that reads as "no deadline". -/
theorem deadlines_iff (hr : Ready input plan) (hdown : input.service.family.isDownlink = true)
    (hd1 : plan.absoluteEffectDeadlineMs.toNat =
      input.clock.nowMs.toNat + input.submission.effectDeadlineMs.toNat)
    (hd2 : plan.absoluteEvidenceCloseMs.toNat =
      plan.absoluteEffectDeadlineMs.toNat + input.submission.evidenceGraceMs.toNat) :
    desiredDeadlinesAreValid plan = true ↔
      input.clock.nowMs.toNat + input.submission.effectDeadlineMs.toNat ≠ 2 ^ 64 - 1 := by
  have hfit := hr.semantic.deadlines
  rw [if_pos hdown] at hfit
  obtain ⟨-, hmin, hmax, hgrace⟩ := hfit
  have hno : plan.absoluteEffectDeadlineMs = noDeadline ↔
      input.clock.nowMs.toNat + input.submission.effectDeadlineMs.toNat = 2 ^ 64 - 1 := by
    rw [← UInt64.toNat_inj, hd1]
    rfl
  have hs1 : (plan.absoluteEffectDeadlineMs - input.clock.nowMs) =
      input.submission.effectDeadlineMs := by
    rw [← UInt64.toNat_inj, toNat_sub_of_toNat_le (by omega)]; omega
  have hs2 : (plan.absoluteEvidenceCloseMs - plan.absoluteEffectDeadlineMs) =
      input.submission.evidenceGraceMs := by
    rw [← UInt64.toNat_inj, toNat_sub_of_toNat_le (by omega)]; omega
  have hl1 : ¬ plan.absoluteEffectDeadlineMs < input.clock.nowMs := by
    rw [UInt64.lt_iff_toNat_lt]; omega
  have hl2 : ¬ plan.absoluteEvidenceCloseMs < plan.absoluteEffectDeadlineMs := by
    rw [UInt64.lt_iff_toNat_lt]; omega
  rw [hr.plan_eq]
  simp only [desiredDeadlinesAreValid, fillAdmissionPlan, hs1, hs2, hl1, hl2, hno, false_or,
    or_false, ge_iff_le, hmin, hmax, hgrace, decide_true, Bool.and_true]
  split_ifs with h0
  · exact iff_of_false (by decide) fun hne => hne h0
  · exact iff_of_true rfl h0

theorem targets_agree (hr : Ready input plan) :
    planTargetsAreValid plan input.submission.targetCount = true := by
  rw [hr.plan_eq]
  simp only [planTargetsAreValid, fillAdmissionPlan, decide_eq_true_eq, ← target_agree]
  intro i hi
  have ht := hr.semantic.targets i hi
  unfold effectiveTarget at ht
  by_cases h1 : input.submission.targetCount = 1
  · have hi0 : i = 0 := by
      rw [h1] at hi
      exact Fin.ext (by simpa using hi)
    subst hi0
    by_cases hv : concreteTargetIsValid (input.submission.targets 0) = false
    · simp only [h1, hv, and_self, if_true] at ht
      simp [planTargets, h1, hv, ht]
    · have hv' : concreteTargetIsValid (input.submission.targets 0) = true := by simpa using hv
      simp [planTargets, h1, hv']
  · simp only [h1, false_and, if_false] at ht
    simp [planTargets, h1, hi, ht]

theorem committedLedger_projects (hres : ResourceFacts input p) :
    (resourceLedgerProject p.committedLedger).isOk = true := by
  obtain ⟨r, hcommit, -, hnext⟩ := hres.committed
  obtain ⟨-, hL, hstep⟩ := BatchStep.of_transition hcommit
  have hL' : LedgerValid p.committedLedger := fun i => by
    have hev := hstep.evolves hL i
    rw [hnext] at hev
    exact ⟨hev.kind_eq.trans (hL i).1, hev.valid⟩
  obtain ⟨view, hview⟩ := project_ok_iff.2 hL'
  rw [hview]
  rfl

end Plan

/-! ### The plan -/

/-- What the allocation asks for beyond preflight. -/
structure Allocatable (input : PreflightInput) : Prop where
  not_transfer : input.service.family ≠ .transfer
  not_config : input.service.family ≠ .config
  deadline_ne : input.service.family = .desiredState →
    input.clock.nowMs.toNat + input.submission.effectDeadlineMs.toNat ≠ 2 ^ 64 - 1
  payload_le : input.submission.payloadLength ≤ maxLogicalPayload
  target_valid : targetIsValid input.submission.target = true

theorem planIdentity_iff {plan : AdmissionPlan} (hr : Ready input plan) :
    planIdentityIsValid plan = true ↔ (input.service.family.isDownlink = true →
      input.clock.nowMs.toNat + input.submission.effectDeadlineMs.toNat ≠ 2 ^ 64 - 1) := by
  have hshape := hr.semantic.identity
  simp only [submissionIdentityShapeIsValid, Bool.and_eq_true] at hshape
  rcases hr.deadlines with ⟨hdown, hd1, hd2⟩ | ⟨hdown, hd1, hd2⟩
  · have hdead := deadlines_iff hr hdown hd1 hd2
    have hids := hshape.2
    simp only [hdown, Bool.true_or, if_true, Bool.and_eq_true] at hids
    have hf : plan.family.isDownlink = true := by rw [hr.family_eq]; exact hdown
    have h1 : idIsZero plan.eventId = true := by rw [hr.eventId_eq]; exact hids.1
    have h2 : (plan.generation != 0) = true := by rw [hr.generation_eq]; exact hids.2
    have h3 : (plan.deadlineClockEpochId == plan.admissionClockEpochId) = true := by
      rw [hr.plan_eq]
      simp [fillAdmissionPlan, hdown]
    simp only [planIdentityIsValid, hf, h1, h2, h3, if_true, Bool.true_and, hdead, hdown,
      true_imp_iff]
  · refine iff_of_true ?_ fun h => by rw [hdown] at h; cases h
    have h3 : plan.deadlineClockEpochId = 0 := by
      rw [hr.plan_eq]
      simp [fillAdmissionPlan, hdown]
    have hids := hshape.2
    simp only [hdown, Bool.false_or, Bool.or_eq_true, beq_iff_eq] at hids
    simp only [planIdentityIsValid, planUplinkIdentityIsValid, hr.family_eq, hr.eventId_eq,
      hr.generation_eq, h3, hdown, hd1, hd2,
      hids, Bool.false_eq_true, if_false]
    rfl

/-- **The plan of a ready preflight passes `plan_is_valid` exactly when the submission is
allocatable.** -/
theorem planIsValid_iff {plan : AdmissionPlan} (hr : Ready input plan) :
    planIsValid plan = true ↔ Allocatable input := by
  have hsem := hr.semantic
  obtain ⟨hserv, hparty, hident⟩ :=
    service_agree hsem.service_shape hsem.sender hsem.supported
  have hfamily : input.service.identity.family = input.service.family := by
    have hs := hsem.service_shape
    simp only [serviceShapeIsValid, Bool.and_eq_true, beq_iff_eq] at hs
    exact hs.1.1.1.1.1.1.1.1.1.1.1.1.1.1.1.1.2
  have htx : plan.transactionSequence ≠ 0 := by
    have := hr.transaction
    rw [ne_eq, ← UInt64.toNat_inj, UInt64.toNat_zero]; omega
  have howner : plan.schedulerOwnerSequence ≠ 0 := by
    have := hr.owner
    rw [ne_eq, ← UInt64.toNat_inj, UInt64.toNat_zero]; omega
  have hids := planIdentity_iff hr
  have hshape := hsem.identity
  simp only [submissionIdentityShapeIsValid, Bool.and_eq_true] at hshape
  have hgrant := grant_agree hr
  have hquota := quotaShape_iff hr
  have hres := resources_agree hr
  have htargets := targets_agree hr
  have hledger := committedLedger_projects hr.resources
  have hcount : (if plan.targetCount = 0 then 1 else plan.targetCount) =
      input.submission.targetCount := by
    rw [hr.plan_eq]
    exact if_neg hsem.count_ne
  have hknown : (input.service.family == .desiredState || input.service.family == .eventFact ||
      input.service.family.isB5Lab) = true := by
    cases hf : input.service.family with
    | unknown code =>
      have := hsem.supported
      rw [hf] at this
      cases this
    | _ => rfl
  have hdesired : input.service.family.isDownlink = true →
      input.service.family ≠ .transfer → input.service.family ≠ .config →
      input.service.family = .desiredState := by
    intro h1 h2 h3
    cases hf : input.service.family <;> simp_all [Family.isDownlink]
  -- everything but four conjuncts is known of a ready plan
  have hrest : planIsValid plan = (targetIsValid input.submission.target
      && decide (input.submission.payloadLength ≤ maxLogicalPayload)
      && quotaShapeIsValid plan && planIdentityIsValid plan) := by
    simp only [planIsValid, hcount, hgrant, hres, htargets, hledger, hr.family_eq, hr.service_eq,
      hr.source_eq, hr.identity_eq, hr.target_eq, hr.key_eq, hr.content_eq, hr.digest_eq,
      hr.payload_eq, hr.evidence_eq, hr.epoch_eq, hfamily, hsem.sender, hserv, hparty, hident,
      hknown, hsem.count_le, hr.clock, hsem.payload_le, hsem.evidence, hshape.1,
      show keyIsValid input.submission.idempotencyKey = true from hsem.key, bne_iff_ne.2 htx,
      bne_iff_ne.2 howner, bne_iff_ne.2 hsem.evidence.2.2, beq_self_eq_true, decide_true,
      Bool.not_false, Bool.and_true, Bool.true_and]
  rw [hrest]
  simp only [Bool.and_eq_true, decide_eq_true_eq, hquota, hids]
  constructor
  · rintro ⟨⟨⟨h1, h2⟩, h3, h4⟩, h5⟩
    exact ⟨h3, h4, fun hf => h5 (by rw [hf]; rfl), h2, h1⟩
  · intro h
    exact ⟨⟨⟨h.target_valid, h.payload_le⟩, h.not_transfer, h.not_config⟩,
      fun hd => h.deadline_ne (hdesired hd h.not_transfer h.not_config)⟩

/-! ### Allocation on the plan -/

/-- A verified payload for the plan: its length, its digest, and a zeroed rest of the buffer. -/
structure MatchingPayload (payload : OwnedPayload) (plan : AdmissionPlan) : Prop where
  length_eq : payload.length = plan.payloadLength
  verified : payload.contentVerified = 1
  digest_eq : payload.verifiedContentDigest = plan.contentDigest
  tail_zero : bytesAreZero (payload.bytes.toList.drop
    (if payload.length.toNat ≤ 1024 then payload.length.toNat else 0)) = true

/-- A first draw that settles the allocation. -/
structure SettlingDraw (draw : Draw) : Prop where
  ordinal : draw.ordinal = 1
  full : draw.entropyState = .full
  nonzero : draw.candidate ≠ 0
  unique : draw.collisionState = .unique

theorem payloadIsValid_of_matching {plan : AdmissionPlan} (hr : Ready input plan)
    {payload : OwnedPayload} (hp : MatchingPayload payload plan)
    (hle : input.submission.payloadLength ≤ maxLogicalPayload) :
    payloadIsValid payload plan = true := by
  have hshape := hr.semantic.identity
  simp only [submissionIdentityShapeIsValid, Bool.and_eq_true] at hshape
  have hdigest : digestIsValid payload.verifiedContentDigest = true := by
    rw [hp.digest_eq, hr.content_eq]
    exact hshape.1.1
  have hle' : payload.length ≤ maxLogicalPayload := by
    rw [hp.length_eq, hr.payload_eq]
    exact hle
  simp only [payloadIsValid, hle', hp.verified, hdigest, hp.tail_zero, decide_true, Bool.and_true,
    Bool.and_eq_true, beq_iff_eq]
  exact ⟨⟨hp.length_eq, trivial⟩, hp.digest_eq⟩

theorem allocationLoop_single (a : AllocationInput) {draw : Draw} (hd : SettlingDraw draw) :
    allocationLoop a 0 [draw] = .ok
      { action := .readyForFullCommit
        apiStatus := .ok
        drawsConsumed := 1
        healthClearEntropyTransactionId := 1
        writeSet := buildWriteSet a draw.candidate } := by
  have hz : idIsZero draw.candidate = false := by simpa [idIsZero] using hd.nonzero
  have hshape : drawShapeIsValid draw (UInt32.ofNat (0 + 1)) = true := by
    simp [drawShapeIsValid, hd.ordinal, hd.full, hz, hd.unique]
  have hskip : drawIsSkipped draw = false := by
    simp [drawIsSkipped, hd.full, hz, hd.unique]
  simp only [allocationLoop, hshape, hskip, hd.unique, lookupFailureStatus, Bool.not_true,
    Bool.false_eq_true, if_false, ne_eq, not_true_eq_false, or_self]
  rfl

/-- **When preflight and allocation agree.**  The plan of a ready preflight passes
`plan_is_valid`, and a matching payload, a valid contract and one settling draw make it ready for
the commit, exactly when the submission is allocatable; otherwise the allocation refuses it as an
invalid argument. -/
theorem preflight_allocation_agree (input : PreflightInput) (r : PreflightResult)
    (h : submissionPreflight input = .ok r) (hr : r.action = .readyForIdAllocation) :
    (planIsValid r.admission = true ↔ Allocatable input) ∧
      ∀ (payload : OwnedPayload) (contract : DescriptorContract) (draw : Draw),
        MatchingPayload payload r.admission →
        descriptorContractIsValid contract r.admission.family = true →
        SettlingDraw draw →
        ((∃ a, reduceTransactionIdAllocation
            { preflightPlan := r.admission
              payload := payload
              descriptorContract := contract
              draws := [draw] } = .ok a ∧ a.apiStatus = .ok ∧ a.action = .readyForFullCommit) ↔
          Allocatable input) ∧
        (reduceTransactionIdAllocation
            { preflightPlan := r.admission
              payload := payload
              descriptorContract := contract
              draws := [draw] } = .error .invalidArgument ↔ ¬ Allocatable input) := by
  have hready := Ready.of_preflight h hr
  have hvalid := planIsValid_iff hready
  refine ⟨hvalid, fun payload contract draw hp hc hd => ?_⟩
  by_cases ha : Allocatable input
  · have hpay := payloadIsValid_of_matching hready hp ha.payload_le
    simp only [reduceTransactionIdAllocation, hvalid.2 ha, hpay, hc, allocationLoop_single _ hd,
      List.length_singleton, maxDraws, Bool.and_true, ha]
    simp
  · have hplan : planIsValid r.admission = false := by
      simpa using fun hp' => ha (hvalid.1 hp')
    simp only [reduceTransactionIdAllocation, hplan, Bool.false_and, Bool.false_eq_true, if_false,
      ha]
    simp

/-! ### A submission of each direction -/

/-- A minimal target. -/
def sampleTarget : ConcreteTarget :=
  { abiVersion := 1, structSize := 112, targetRuntimeId := 1, targetApplicationInstanceId := 2 }

/-- The one-letter text identifier `a`. -/
def sampleText : TextId := { length := 1, bytes := (Vector.replicate 63 0).set 0 97 }

/-- A digest with a valid header. -/
def sampleDigest (body : BitVec 256) : Digest := { algorithm := 1, bytes := body }

/-- A minimal downlink service of the given family. -/
def sampleService (family : Family) : Service where
  family := family
  localSide := .sender
  source :=
    { abiVersion := 1
      structSize := 120
      runtimeId := 3
      applicationInstanceId := 4
      localIdentity := { abiVersion := 1, structSize := 80 } }
  identity :=
    { abiVersion := 1
      structSize := 256
      namespaceId := sampleText
      serviceId := sampleText
      schemaId := sampleText
      descriptorRevision := 1
      descriptorDigest := sampleDigest 0
      schemaMajor := 1
      family := family }
  schemaMajor := 1
  supportedEvidenceMask := 2
  logicalPayloadLimit := 100
  inflightLimit := 10
  admissionWindowMs := 1000
  maxAdmissionsPerWindow := 10
  maxPayloadBytesPerWindow := 1000
  maxEvidencePerTarget := 1
  minimumDeadlineMs := 1
  maximumDeadlineMs := 1000

/-- A one-target submission with an empty payload. -/
def sampleSubmission : SemanticSubmission where
  schemaMajor := 1
  targetCount := 1
  target := sampleTarget
  targets _ := sampleTarget
  requiredEvidence := 1
  contentDigestMatches := 1
  effectDeadlineMs := 10
  idempotencyKey := { length := 1, bytes := (Vector.replicate 64 0).set 0 97 }
  contentDigest := sampleDigest 5
  canonicalSubmissionDigest := sampleDigest 6
  generation := 1

/-- The first submission to a fresh runtime. -/
def sampleInput (family : Family) : PreflightInput where
  service := sampleService family
  submission := sampleSubmission
  callerKeyMapping := { state := .absent }
  eventIdMapping := { state := .absent }
  clock := { state := .trusted, clockEpochId := 7, nowMs := 5000 }
  lastTransactionSequence := 0
  lastSchedulerOwnerSequence := 0
  authority := { fact := .notApplicable }
  quota := {}
  eventGrantUsage := {}
  resourceLedger := resourceLedgerInit fun _ => 1000

/-- Whether a preflight answer is ready. -/
def isReady : Except Status PreflightResult → Bool
  | .ok r => r.action == .readyForIdAllocation
  | .error _ => false

theorem exists_of_isReady {e : Except Status PreflightResult} (h : isReady e = true) :
    ∃ r, e = .ok r ∧ r.action = .readyForIdAllocation := by
  cases e with
  | error s => cases h
  | ok r => exact ⟨r, rfl, by simpa [isReady] using h⟩

theorem sample_desired_ready : isReady (submissionPreflight (sampleInput .desiredState)) = true := by
  decide +kernel

theorem sample_transfer_ready : isReady (submissionPreflight (sampleInput .transfer)) = true := by
  decide +kernel

/-- The payload of `sampleSubmission`. -/
def samplePayload : OwnedPayload :=
  { contentVerified := 1, verifiedContentDigest := sampleDigest 5 }

/-- A downlink contract. -/
def sampleContract : DescriptorContract where
  direction := .downlink
  admissionAuthority := .controllerOnly
  applyContract := .idempotent
  custodyPolicy := .untilRequiredEvidence
  targetLimit := 1
  maxAttemptsPerTargetPerCycle := 1
  attemptReceiptTimeoutMs := 1
  retryBackoffMs := 1
  applicationCompletionTimeoutMs := 1
  requiredDedupWindowMs := 1

/-- A full, unique draw. -/
def sampleDraw (ordinal : UInt32) : Draw :=
  { ordinal := ordinal, entropyState := .full, candidate := 9, collisionState := .unique }

theorem samplePayload_matches {plan : AdmissionPlan} {family : Family}
    (hr : Ready (sampleInput family) plan) : MatchingPayload samplePayload plan := by
  refine ⟨?_, rfl, ?_, by decide +kernel⟩
  · rw [hr.payload_eq]; rfl
  · rw [hr.content_eq]; rfl

theorem sampleDraw_settles : SettlingDraw (sampleDraw 1) := ⟨rfl, rfl, by decide, rfl⟩

/-- A desired-state submission goes through. -/
theorem desired_plan_allocates :
    ∃ r, submissionPreflight (sampleInput .desiredState) = .ok r ∧
      r.action = .readyForIdAllocation ∧ planIsValid r.admission = true := by
  obtain ⟨r, h, hr⟩ := exists_of_isReady sample_desired_ready
  refine ⟨r, h, hr, (preflight_allocation_agree _ r h hr).1.2 ?_⟩
  exact ⟨by decide, by decide, fun _ => by decide, by decide, by decide +kernel⟩

/-- A transfer submission that preflight admits: the allocation refuses its plan, with a matching
payload, a valid contract and a settling draw. -/
theorem transfer_plan_refused :
    ∃ r, submissionPreflight (sampleInput .transfer) = .ok r ∧
      r.action = .readyForIdAllocation ∧ MatchingPayload samplePayload r.admission ∧
      descriptorContractIsValid sampleContract r.admission.family = true ∧
      SettlingDraw (sampleDraw 1) ∧ planIsValid r.admission = false ∧
      reduceTransactionIdAllocation
        { preflightPlan := r.admission
          payload := samplePayload
          descriptorContract := sampleContract
          draws := [sampleDraw 1] } = .error .invalidArgument := by
  obtain ⟨r, h, hr⟩ := exists_of_isReady sample_transfer_ready
  have hready := Ready.of_preflight h hr
  have hplan : planIsValid r.admission = false := by
    by_contra hne
    exact ((planIsValid_iff hready).1 (by simpa using hne)).not_transfer rfl
  refine ⟨r, h, hr, samplePayload_matches hready, ?_, sampleDraw_settles, hplan, ?_⟩
  · rw [hready.family_eq]
    decide
  · simp only [reduceTransactionIdAllocation, hplan, Bool.false_and, Bool.false_eq_true, if_false]

end Ninlil.Submission
