import Ninlil.Submission.Agreement

/-!
# From the allocated identifier to the commit

The allocation reducer builds a write set and the commit reducer validates it again, field by
field.  Here the two are shown to agree.

* `AllocationReady`: what a plan that is ready for the commit looks like, with
  `AllocationReady.of_allocation` the inversion of the allocation reducer;
* `buildWriteSet_valid`: every write set it builds passes the validator.
-/

namespace Ninlil.Submission
namespace Admission

open Resource

variable {input : AllocationInput}

/-- The draws of a successful allocation: the last one is full, non-zero and unique, and all
before it were skipped. -/
structure AllocationReady (input : AllocationInput) (r : AllocationResult) : Prop where
  plan_valid : planIsValid input.preflightPlan = true
  payload_valid : payloadIsValid input.payload input.preflightPlan = true
  contract_valid :
    descriptorContractIsValid input.descriptorContract input.preflightPlan.family = true
  draws_eq : ∃ skipped draw, input.draws = skipped ++ [draw] ∧
    (∀ d ∈ skipped, drawIsSkipped d = true) ∧
    draw.entropyState = .full ∧ idIsZero draw.candidate = false ∧
    draw.collisionState = .unique ∧ r.writeSet = buildWriteSet input draw.candidate

/-- An allocation loop that ends ready has skipped all its draws but the last. -/
theorem allocationLoop_ready {index : ℕ} {draws : List Draw} {r : AllocationResult}
    (h : allocationLoop input index draws = .ok r) (hr : r.action = .readyForFullCommit) :
    ∃ skipped draw, draws = skipped ++ [draw] ∧ (∀ d ∈ skipped, drawIsSkipped d = true) ∧
      draw.entropyState = .full ∧ idIsZero draw.candidate = false ∧
      draw.collisionState = .unique ∧ r.writeSet = buildWriteSet input draw.candidate := by
  induction draws generalizing index with
  | nil =>
    simp only [allocationLoop] at h
    split_ifs at h <;> cases h <;> cases hr
  | cons draw rest ih =>
    simp only [allocationLoop] at h
    by_cases hshape : drawShapeIsValid draw (UInt32.ofNat (index + 1)) = true
    · by_cases hskip : drawIsSkipped draw = true
      · simp only [hshape, hskip, Bool.not_true, Bool.false_eq_true, if_false, if_true] at h
        obtain ⟨skipped, d, hd, hall, hrest⟩ := ih h
        refine ⟨draw :: skipped, d, by rw [hd]; rfl, ?_, hrest⟩
        intro e he
        rcases List.mem_cons.1 he with rfl | he
        · exact hskip
        · exact hall e he
      · simp only [hshape, hskip, Bool.not_true, Bool.false_eq_true, if_false] at h
        cases hl : lookupFailureStatus draw.collisionState with
        | some status =>
          simp only [hl] at h
          split_ifs at h <;> cases h <;> cases hr
        | none =>
          simp only [hl] at h
          split_ifs at h with hlast
          cases h
          simp only [drawIsSkipped, Bool.or_eq_true, bne_iff_ne, beq_iff_eq, not_or, not_not,
            Bool.not_eq_true] at hskip
          simp only [not_or, not_not] at hlast
          exact ⟨[], draw, by rw [hlast.2]; rfl, by simp, hskip.1.1, hskip.1.2, hlast.1, rfl⟩
    · simp only [hshape, Bool.not_false, if_true] at h
      cases h

theorem AllocationReady.of_allocation {r : AllocationResult}
    (h : reduceTransactionIdAllocation input = .ok r) (hr : r.action = .readyForFullCommit) :
    AllocationReady input r := by
  unfold reduceTransactionIdAllocation at h
  split_ifs at h with hvalid
  simp only [Bool.and_eq_true] at hvalid
  exact ⟨hvalid.1.1.1, hvalid.1.1.2, hvalid.1.2, allocationLoop_ready h hr⟩

theorem planIsValid_supported {plan : AdmissionPlan} (h : planIsValid plan = true) :
    plan.family.isUplink = true ∨ (plan.family.isUplink = false ∧ plan.family.isDownlink = true) := by
  simp only [planIsValid, Bool.and_eq_true, Bool.or_eq_true, beq_iff_eq] at h
  have hfam := h.1.1.1.1.1.1.1.1.1.1.1.1.1.1.1.1.1.1.1.1.1.1.1.1.1.1.1
  cases hf : plan.family <;> rw [hf] at hfam <;> simp_all [Family.isUplink, Family.isDownlink,
    Family.isB5Lab]

/-- A valid plan of an uplink family other than event fact carries no event identifier. -/
theorem planIsValid_eventId {plan : AdmissionPlan} (h : planIsValid plan = true)
    (hup : plan.family.isUplink = true) (hne : plan.family ≠ .eventFact) :
    idIsZero plan.eventId = true := by
  simp only [planIsValid, Bool.and_eq_true] at h
  have hid := h.2
  clear h
  simp only [planIdentityIsValid, planUplinkIdentityIsValid] at hid
  cases hf : plan.family <;> rw [hf] at hup hne hid <;>
    simp_all [Family.isUplink, Family.isDownlink]

/-- **Every write set the allocation builds passes the commit's validator.** -/
theorem buildWriteSet_valid {transactionId : Id128}
    (hplan : planIsValid input.preflightPlan = true)
    (hpayload : payloadIsValid input.payload input.preflightPlan = true)
    (hcontract : descriptorContractIsValid input.descriptorContract
      input.preflightPlan.family = true)
    (hid : idIsZero transactionId = false) :
    writeSetIsValid (buildWriteSet input transactionId) = true := by
  have hne : ¬ transactionId = 0#128 := by simpa [idIsZero] using hid
  rcases planIsValid_supported hplan with hup | ⟨hup, hdown⟩
  · have hevent : ∀ id, id = input.preflightPlan.eventId →
        eventIdMatches id input.preflightPlan = true := by
      rintro id rfl
      unfold eventIdMatches
      split_ifs with hf
      · simp
      · simp [planIsValid_eventId hplan hup hf]
    simp [writeSetIsValid, buildWriteSet, commonWriteSet, hup, hplan, hpayload, hcontract, hne,
      expectedRecordMask, mappingScopeMatchesPlan, makeMappingScope, assuranceIsValid,
      makeAssurance, initialSnapshotAndManifestAreValid, familyRecordsAreValid, hevent,
      idIsZero]
  · simp [writeSetIsValid, buildWriteSet, commonWriteSet, hup, hdown, hplan, hpayload, hcontract,
      hne, expectedRecordMask, mappingScopeMatchesPlan, makeMappingScope, assuranceIsValid,
      makeAssurance, initialSnapshotAndManifestAreValid, familyRecordsAreValid, idIsZero]

/-- The commit reducer on a valid write set answers every listed commit state. -/
theorem reduceAdmissionCommit_ok {w : WriteSet} (hw : writeSetIsValid w = true) {s : CommitState}
    (hs : ∀ code, s ≠ .unlisted code) : ∃ c, reduceAdmissionCommit w s = .ok c := by
  unfold reduceAdmissionCommit
  rw [hw]
  cases s with
  | unlisted code => exact absurd rfl (hs code)
  | _ => exact ⟨_, rfl⟩

/-- Where the write set of an accepted commit ends up. -/
theorem commit_outcome {w : WriteSet} {s : CommitState} {c : CommitResult}
    (h : reduceAdmissionCommit w s = .ok c) :
    (s = .ok → c.publicResult.kind = .admittedReady ∧
        c.publicResult.transactionId = w.transactionId ∧
        c.publicResult.canonicalSubmissionDigest = w.plan.canonicalSubmissionDigest ∧
        c.ownership = .established ∧ c.durableWriteSet = some w ∧
        c.stagedWriteSetForReconcile = none) ∧
      (s = .unknown → c.ownership = .unresolved ∧ c.durableWriteSet = none ∧
        c.stagedWriteSetForReconcile = some w ∧ c.recoveryProbe = some (makeRecoveryProbe w)) ∧
      (s ≠ .ok → s ≠ .unknown →
        c.durableWriteSet = none ∧ c.stagedWriteSetForReconcile = none ∧
          c.ownership = .notEstablished) := by
  unfold reduceAdmissionCommit at h
  by_cases hw : writeSetIsValid w = true
  · simp only [hw, Bool.not_true, Bool.false_eq_true, if_false] at h
    cases s with
    | ok =>
      cases h
      exact ⟨fun _ => ⟨rfl, rfl, rfl, rfl, rfl, rfl⟩, nofun,
        fun hn => absurd rfl hn⟩
    | unknown =>
      cases h
      exact ⟨nofun, fun _ => ⟨rfl, rfl, rfl, rfl⟩, fun _ hn => absurd rfl hn⟩
    | unlisted code => cases h
    | noSpace | busy | ioError | corrupt =>
      cases h
      exact ⟨nofun, nofun, fun _ _ => ⟨rfl, rfl, rfl⟩⟩
  · simp only [hw, Bool.not_false, if_true] at h
    cases h

@[simp] theorem buildWriteSet_transactionId (id : Id128) :
    (buildWriteSet input id).transactionId = id := by
  simp only [buildWriteSet]
  split_ifs <;> rfl

@[simp] theorem buildWriteSet_plan (id : Id128) :
    (buildWriteSet input id).plan = input.preflightPlan := by
  simp only [buildWriteSet]
  split_ifs <;> rfl

@[simp] theorem buildWriteSet_callerMapping (id : Id128) :
    (buildWriteSet input id).callerMapping =
      { scope := makeMappingScope input.preflightPlan
        callerKey := input.preflightPlan.idempotencyKey
        transactionId := id
        canonicalSubmissionDigest := input.preflightPlan.canonicalSubmissionDigest } := by
  simp only [buildWriteSet]
  split_ifs <;> rfl

/-- **Allocation and commit agree.**  The write set of a ready allocation passes the commit's
validator, so the commit answers every listed state: an accepted commit publishes the drawn
identifier and the plan's digest, an unknown one keeps exactly this write set staged with a probe
that names it, and any other leaves neither a durable nor a staged write set.  The identifier is
the candidate of the first draw that is full, non-zero and unique; the draws before it were not
full, zero, or collisions. -/
theorem allocation_commit_agree (input : AllocationInput) (r : AllocationResult)
    (h : reduceTransactionIdAllocation input = .ok r) (hr : r.action = .readyForFullCommit) :
    writeSetIsValid r.writeSet = true ∧
      (∃ skipped draw, input.draws = skipped ++ [draw] ∧
        draw.entropyState = .full ∧ draw.candidate ≠ 0 ∧ draw.collisionState = .unique ∧
        r.writeSet.transactionId = draw.candidate ∧
        ∀ d ∈ skipped,
          d.entropyState ≠ .full ∨ d.candidate = 0 ∨ d.collisionState = .collision) ∧
      (∀ s : CommitState, (∀ code, s ≠ .unlisted code) →
        ∃ c, reduceAdmissionCommit r.writeSet s = .ok c ∧
          (s = .ok →
            c.publicResult.kind = .admittedReady ∧
            c.publicResult.transactionId = r.writeSet.transactionId ∧
            c.publicResult.canonicalSubmissionDigest =
              input.preflightPlan.canonicalSubmissionDigest ∧
            c.ownership = .established ∧ c.durableWriteSet = some r.writeSet ∧
            c.stagedWriteSetForReconcile = none) ∧
          (s = .unknown →
            c.durableWriteSet = none ∧ c.stagedWriteSetForReconcile = some r.writeSet ∧
            ∃ probe, c.recoveryProbe = some probe ∧
              probe.transactionId = r.writeSet.transactionId ∧
              probe.mappingScope = makeMappingScope input.preflightPlan ∧
              probe.callerKey = input.preflightPlan.idempotencyKey ∧
              probe.canonicalSubmissionDigest =
                input.preflightPlan.canonicalSubmissionDigest) ∧
          (s ≠ .ok → s ≠ .unknown →
            c.durableWriteSet = none ∧ c.stagedWriteSetForReconcile = none)) := by
  obtain ⟨hplan, hpayload, hcontract, skipped, draw, hdraws, hskip, hfull, hid, hunique, hw⟩ :=
    AllocationReady.of_allocation h hr
  have hvalid : writeSetIsValid r.writeSet = true := by
    rw [hw]
    exact buildWriteSet_valid hplan hpayload hcontract hid
  refine ⟨hvalid, ⟨skipped, draw, hdraws, hfull, ?_, hunique, by simp [hw], ?_⟩, ?_⟩
  · simpa [idIsZero] using hid
  · intro d hd
    have := hskip d hd
    simpa [drawIsSkipped, idIsZero, or_assoc] using this
  · intro s hs
    obtain ⟨c, hc⟩ := reduceAdmissionCommit_ok hvalid hs
    obtain ⟨hok, hunknown, hother⟩ := commit_outcome hc
    refine ⟨c, hc, fun hs' => ?_, fun hs' => ?_, fun h1 h2 => ?_⟩
    · obtain ⟨h1, h2, h3, h4, h5, h6⟩ := hok hs'
      exact ⟨h1, h2, by rw [h3, hw, buildWriteSet_plan], h4, h5, h6⟩
    · obtain ⟨-, h2, h3, h4⟩ := hunknown hs'
      exact ⟨h2, h3, _, h4, rfl, by simp [makeRecoveryProbe, hw],
        by simp [makeRecoveryProbe, hw], by simp [makeRecoveryProbe, hw]⟩
    · exact ⟨(hother h1 h2).1, (hother h1 h2).2.1⟩

/-- The plan of the sample desired-state submission. -/
def samplePlan : AdmissionPlan :=
  match Preflight.submissionPreflight (sampleInput .desiredState) with
  | .ok r => r.admission
  | .error _ => {}

/-- An allocation on the sample plan. -/
def sampleAllocation (draws : List Draw) : AllocationInput where
  preflightPlan := samplePlan
  payload := samplePayload
  descriptorContract := sampleContract
  draws := draws

/-- Whether an allocation answer is ready. -/
def isCommitReady : Except Status AllocationResult → Bool
  | .ok r => r.action == .readyForFullCommit
  | .error _ => false

theorem exists_of_isCommitReady {e : Except Status AllocationResult}
    (h : isCommitReady e = true) : ∃ r, e = .ok r ∧ r.action = .readyForFullCommit := by
  cases e with
  | error s => cases h
  | ok r => exact ⟨r, rfl, by simpa [isCommitReady] using h⟩

/-- The sample allocation builds a valid write set from its only draw. -/
theorem sample_write_set_valid :
    ∃ r, reduceTransactionIdAllocation (sampleAllocation [sampleDraw 1]) = .ok r ∧
      writeSetIsValid r.writeSet = true := by
  obtain ⟨r, h, hr⟩ := exists_of_isCommitReady
    (e := reduceTransactionIdAllocation (sampleAllocation [sampleDraw 1])) (by decide +kernel)
  exact ⟨r, h, (allocation_commit_agree _ r h hr).1⟩

/-- A draw that failed for a temporary reason, before its candidate was checked. -/
def temporaryDraw : Draw :=
  { ordinal := 1, entropyState := .temporaryFailure, candidate := 8, collisionState := .notChecked }

/-- An allocation that ends ready after a draw that was neither partial nor zero nor a
collision. -/
theorem ready_after_temporary_failure :
    (∃ r, reduceTransactionIdAllocation (sampleAllocation [temporaryDraw, sampleDraw 2]) = .ok r ∧
      r.action = .readyForFullCommit) ∧
      temporaryDraw.entropyState ≠ .partialDraw ∧ temporaryDraw.candidate ≠ 0 ∧
      temporaryDraw.collisionState ≠ .collision :=
  ⟨exists_of_isCommitReady (by decide +kernel), by decide, by decide, by decide⟩

end Admission
end Ninlil.Submission
