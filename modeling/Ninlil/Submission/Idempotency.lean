import Ninlil.Submission.Commit

/-!
# Submissions are admitted at most once

A run takes submissions one after the other through preflight, identifier allocation and commit.
The mapping facts that preflight sees are exact lookups among the write sets committed so far;
the clock, the quota, the authority, the ledger, the draws and the outcome of each commit are
arbitrary.

* `Recorded`: what the write set of a committed admission says about its submission;
* `JournalInvariant`: everything committed is recorded, under pairwise distinct keys;
* `submission_at_most_once`: no key and no event identifier is committed twice, a resubmission is
  answered with the original admission, and a changed one is never ready.
-/

namespace Ninlil.Submission

open Resource Guard Preflight Admission

/-! ### Runs of submissions -/

/-- A committed admission: what was submitted and what was written for it. -/
structure CommittedAdmission where
  submission : SemanticSubmission
  writeSet : WriteSet

/-- The key of the caller mapping that was written. -/
def CommittedAdmission.callerKey (c : CommittedAdmission) : MappingScope × IdempotencyKey :=
  (c.writeSet.callerMapping.scope, c.writeSet.callerMapping.callerKey)

/-- The key of the event mapping that was written. -/
def CommittedAdmission.eventKey (c : CommittedAdmission) : MappingScope × Id128 :=
  (c.writeSet.eventMapping.scope, c.writeSet.eventMapping.eventId)

/-- Everything about one submission that is not decided by what was committed before it. -/
structure Attempt where
  submission : SemanticSubmission
  clock : ClockFact
  lastTransactionSequence : UInt64
  lastSchedulerOwnerSequence : UInt64
  authority : AuthorityResult
  quota : QuotaSnapshot
  eventGrantUsage : GrantUsage
  resourceLedger : Ledger
  payload : OwnedPayload
  descriptorContract : DescriptorContract
  draws : List Draw
  commitState : CommitState
  /-- Whether an unknown commit turns out durable when the journal is reopened. -/
  foundDurable : Bool

def serviceScope (service : Service) : MappingScope where
  sourceApplicationInstanceId := service.source.applicationInstanceId
  namespaceId := service.identity.namespaceId
  serviceId := service.identity.serviceId

/-- The fact of a mapping that was found. -/
def foundFact (submission : SemanticSubmission) (transactionId : Id128) (digest : Digest)
    (assurance : AdmissionAssurance) : MappingFact where
  state := if digest = submission.canonicalSubmissionDigest then .matched else .mismatch
  recordVerified := 1
  existing :=
    { transactionId := transactionId
      canonicalSubmissionDigest := digest
      assurance := assurance }

/-- The lookup by scope and caller key. -/
def callerKeyFact (service : Service) (committed : List CommittedAdmission)
    (submission : SemanticSubmission) : MappingFact :=
  match committed.find? (·.callerKey = (serviceScope service, submission.idempotencyKey)) with
  | none => { state := .absent }
  | some c =>
    foundFact submission c.writeSet.callerMapping.transactionId
      c.writeSet.callerMapping.canonicalSubmissionDigest c.writeSet.assurance

/-- The lookup by scope and event identifier; only event facts have one. -/
def eventIdFact (service : Service) (committed : List CommittedAdmission)
    (submission : SemanticSubmission) : MappingFact :=
  if service.family = .eventFact then
    match committed.find? (·.eventKey = (serviceScope service, submission.eventId)) with
    | none => { state := .absent }
    | some c =>
      foundFact submission c.writeSet.eventMapping.transactionId
        c.writeSet.eventMapping.canonicalSubmissionDigest c.writeSet.assurance
  else { state := .absent }

/-- The preflight input of an attempt. -/
def attemptInput (service : Service) (committed : List CommittedAdmission) (a : Attempt) :
    PreflightInput where
  service := service
  submission := a.submission
  callerKeyMapping := callerKeyFact service committed a.submission
  eventIdMapping := eventIdFact service committed a.submission
  clock := a.clock
  lastTransactionSequence := a.lastTransactionSequence
  lastSchedulerOwnerSequence := a.lastSchedulerOwnerSequence
  authority := a.authority
  quota := a.quota
  eventGrantUsage := a.eventGrantUsage
  resourceLedger := a.resourceLedger

/-- The write set that is durable after an attempt, if any. -/
def durableAfter (a : Attempt) (plan : AdmissionPlan) : Option WriteSet :=
  match reduceTransactionIdAllocation
      { preflightPlan := plan
        payload := a.payload
        descriptorContract := a.descriptorContract
        draws := a.draws } with
  | .error _ => none
  | .ok r =>
    if r.action = .readyForFullCommit then
      match reduceAdmissionCommit r.writeSet a.commitState with
      | .error _ => none
      | .ok c =>
        c.durableWriteSet <|> if a.foundDurable then c.stagedWriteSetForReconcile else none
    else none

/-- One submission: preflight, allocation, commit. -/
def attemptStep (service : Service) (committed : List CommittedAdmission) (a : Attempt) :
    List CommittedAdmission :=
  match submissionPreflight (attemptInput service committed a) with
  | .error _ => committed
  | .ok r =>
    if r.action = .readyForIdAllocation then
      match durableAfter a r.admission with
      | none => committed
      | some w => { submission := a.submission, writeSet := w } :: committed
    else committed

/-- The admissions committed by a list of attempts, the last one first. -/
def committedBy (service : Service) (attempts : List Attempt) : List CommittedAdmission :=
  attempts.foldl (attemptStep service) []

/-! ### What is recorded -/

variable {service : Service} {committed : List CommittedAdmission} {a : Attempt}

/-- What the write set of a committed admission says about its submission. -/
structure Recorded (service : Service) (c : CommittedAdmission) : Prop where
  semantic : ∀ input : PreflightInput, input.service = service → input.submission = c.submission →
    SemanticallyValid input
  caller : c.writeSet.callerMapping =
    { scope := serviceScope service
      callerKey := c.submission.idempotencyKey
      transactionId := c.writeSet.transactionId
      canonicalSubmissionDigest := c.submission.canonicalSubmissionDigest }
  event : service.family = .eventFact → c.writeSet.eventMapping =
    { scope := serviceScope service
      eventId := c.submission.eventId
      callerKey := c.submission.idempotencyKey
      transactionId := c.writeSet.transactionId
      canonicalSubmissionDigest := c.submission.canonicalSubmissionDigest }
  digest : c.writeSet.plan.canonicalSubmissionDigest = c.submission.canonicalSubmissionDigest
  id_ne : idIsZero c.writeSet.transactionId = false
  assurance : c.writeSet.assurance = makeAssurance service.family

variable {c : CommittedAdmission}

theorem Recorded.callerKey_eq (h : Recorded service c) :
    c.callerKey = (serviceScope service, c.submission.idempotencyKey) := by
  rw [CommittedAdmission.callerKey, h.caller]

theorem Recorded.eventKey_eq (h : Recorded service c)
    (hf : service.family = .eventFact) :
    c.eventKey = (serviceScope service, c.submission.eventId) := by
  rw [CommittedAdmission.eventKey, h.event hf]

/-- The guards look at the service and the submission only. -/
theorem Preflight.SemanticallyValid.congr {input input' : PreflightInput}
    (h : SemanticallyValid input)
    (hservice : input'.service = input.service)
    (hsubmission : input'.submission = input.submission) : SemanticallyValid input' := by
  cases input
  cases input'
  simp only at hservice hsubmission
  subst hservice hsubmission
  obtain ⟨h1, h2, h3, h4, h5, h6, h7, h8, h9, h10, h11, h12, h13, h14, h15⟩ := h
  exact ⟨h1, h2, h3, h4, h5, h6, h7, h8, h9, h10, h11, h12, h13, h14, h15⟩

/-- The records of a built write set. -/
theorem buildWriteSet_assurance {input : AllocationInput} (id : Id128) :
    (buildWriteSet input id).assurance = makeAssurance input.preflightPlan.family := by
  simp only [buildWriteSet]
  split_ifs <;> rfl

theorem buildWriteSet_eventMapping {input : AllocationInput} (id : Id128)
    (hup : input.preflightPlan.family.isUplink = true) :
    (buildWriteSet input id).eventMapping =
      { scope := makeMappingScope input.preflightPlan
        eventId := input.preflightPlan.eventId
        callerKey := input.preflightPlan.idempotencyKey
        transactionId := id
        canonicalSubmissionDigest := input.preflightPlan.canonicalSubmissionDigest } := by
  simp only [buildWriteSet, hup, if_true]

/-- Whatever a commit keeps is the write set it was given. -/
theorem committed_writeSet {w w' : WriteSet} {s : CommitState} {c : CommitResult} {found : Bool}
    (hc : reduceAdmissionCommit w s = .ok c)
    (h : (c.durableWriteSet <|> if found then c.stagedWriteSetForReconcile else none) = some w') :
    w' = w := by
  obtain ⟨hok, hunknown, hother⟩ := commit_outcome hc
  by_cases h1 : s = .ok
  · obtain ⟨-, -, -, -, hd, -⟩ := hok h1
    rw [hd] at h
    cases h
    rfl
  · by_cases h2 : s = .unknown
    · obtain ⟨-, hd, hst, -⟩ := hunknown h2
      rw [hd, hst] at h
      cases found <;> cases h
      rfl
    · obtain ⟨hd, hst, -⟩ := hother h1 h2
      rw [hd, hst] at h
      cases found <;> cases h

/-- A durable write set is one the allocation built, with a drawn identifier. -/
theorem durableAfter_eq_some {plan : AdmissionPlan} {w : WriteSet}
    (h : durableAfter a plan = some w) :
    ∃ id, idIsZero id = false ∧
      w = buildWriteSet
        { preflightPlan := plan
          payload := a.payload
          descriptorContract := a.descriptorContract
          draws := a.draws } id := by
  unfold durableAfter at h
  generalize hinput : AllocationInput.mk _ _ _ _ = input at h ⊢
  cases hr : reduceTransactionIdAllocation input with
  | error status =>
    simp only [hr] at h
    cases h
  | ok r =>
    simp only [hr] at h
    by_cases hready : r.action = .readyForFullCommit
    · rw [if_pos hready] at h
      obtain ⟨-, -, -, -, draw, -, -, -, hid, -, hw⟩ := AllocationReady.of_allocation hr hready
      refine ⟨draw.candidate, hid, ?_⟩
      cases hc : reduceAdmissionCommit r.writeSet a.commitState with
      | error status =>
        simp only [hc] at h
        cases h
      | ok c =>
        simp only [hc] at h
        rw [← hw]
        exact committed_writeSet hc h
    · rw [if_neg hready] at h
      cases h

/-- One submission commits nothing, or the write set of a plan that preflight found ready. -/
theorem attemptStep_cases (service : Service) (committed : List CommittedAdmission) (a : Attempt) :
    attemptStep service committed a = committed ∨
      ∃ plan id, Ready (attemptInput service committed a) plan ∧ idIsZero id = false ∧
        attemptStep service committed a =
          { submission := a.submission
            writeSet := buildWriteSet
              { preflightPlan := plan
                payload := a.payload
                descriptorContract := a.descriptorContract
                draws := a.draws } id } :: committed := by
  cases h : submissionPreflight (attemptInput service committed a) with
  | error status => exact .inl (by simp only [attemptStep, h])
  | ok r =>
    by_cases hact : r.action = .readyForIdAllocation
    · cases hd : durableAfter a r.admission with
      | none => exact .inl (by simp only [attemptStep, h, if_pos hact, hd])
      | some w =>
        obtain ⟨id, hid, rfl⟩ := durableAfter_eq_some hd
        exact .inr ⟨r.admission, id, .of_preflight h hact, hid,
          by simp only [attemptStep, h, if_pos hact, hd]⟩
    · exact .inl (by simp only [attemptStep, h, if_neg hact])

/-- The write set of a ready plan records its submission. -/
theorem Recorded.of_ready {plan : AdmissionPlan} {id : Id128}
    (hr : Ready (attemptInput service committed a) plan) (hid : idIsZero id = false) :
    Recorded service
      { submission := a.submission
        writeSet := buildWriteSet
          { preflightPlan := plan
            payload := a.payload
            descriptorContract := a.descriptorContract
            draws := a.draws } id } := by
  have hscope : makeMappingScope plan = serviceScope service := by
    rw [makeMappingScope, hr.source_eq, hr.identity_eq]
    rfl
  have hkey : plan.idempotencyKey = a.submission.idempotencyKey := hr.key_eq
  have hdigest : plan.canonicalSubmissionDigest = a.submission.canonicalSubmissionDigest :=
    hr.digest_eq
  have hevent : plan.eventId = a.submission.eventId := hr.eventId_eq
  have hfamily : plan.family = service.family := hr.family_eq
  constructor
  case semantic => exact fun input h1 h2 => hr.semantic.congr h1 h2
  case caller =>
    simp only [buildWriteSet_callerMapping, buildWriteSet_transactionId, hscope, hkey, hdigest]
  case event =>
    intro hf
    have hup : plan.family.isUplink = true := by rw [hfamily, hf]; rfl
    simp only [buildWriteSet_transactionId]
    rw [buildWriteSet_eventMapping id hup]
    simp only [hscope, hkey, hdigest, hevent]
  case digest => simpa using hdigest
  case id_ne => simpa using hid
  case assurance =>
    simp only [buildWriteSet_assurance, hfamily]

/-! ### The invariant -/

/-- What holds of everything committed by a run. -/
structure JournalInvariant (service : Service) (committed : List CommittedAdmission) : Prop where
  recorded : ∀ c ∈ committed, Recorded service c
  keys : (committed.map (·.callerKey)).Nodup
  events : service.family = .eventFact → (committed.map (·.eventKey)).Nodup

/-- The lookup of a key among distinct keys finds the element that has it. -/
theorem find?_key_eq {α κ : Type} [DecidableEq κ] {f : α → κ} {l : List α} {k : κ} {c : α}
    (hl : (l.map f).Nodup) (hc : c ∈ l) (hk : f c = k) : l.find? (f · = k) = some c := by
  cases h : l.find? (f · = k) with
  | none => exact absurd hk (by simpa using List.find?_eq_none.1 h c hc)
  | some d =>
    have hd : f d = k := by simpa using List.find?_some h
    rw [List.inj_on_of_nodup_map hl (List.mem_of_find?_eq_some h) hc (hd.trans hk.symm)]

variable {submission : SemanticSubmission}

theorem foundFact_ne_absent {id : Id128} {digest : Digest}
    {assurance : AdmissionAssurance} :
    (foundFact submission id digest assurance).state ≠ .absent := by
  unfold foundFact
  simp only
  split_ifs <;> nofun

/-- Only a key that was never written is looked up as absent. -/
theorem callerKeyFact_absent
    (h : (callerKeyFact service committed submission).state = .absent) :
    (serviceScope service, submission.idempotencyKey) ∉ committed.map (·.callerKey) := by
  unfold callerKeyFact at h
  split at h
  · rename_i hnone
    simpa using hnone
  · exact absurd h foundFact_ne_absent

theorem eventIdFact_absent (hf : service.family = .eventFact)
    (h : (eventIdFact service committed submission).state = .absent) :
    (serviceScope service, submission.eventId) ∉ committed.map (·.eventKey) := by
  rw [eventIdFact, if_pos hf] at h
  split at h
  · rename_i hnone
    simpa using hnone
  · exact absurd h foundFact_ne_absent

/-- **A submission keeps the invariant**: a plan is ready only if its keys are new. -/
theorem JournalInvariant.step (h : JournalInvariant service committed) (a : Attempt) :
    JournalInvariant service (attemptStep service committed a) := by
  rcases attemptStep_cases service committed a with heq | ⟨plan, id, hr, hid, heq⟩
  · rw [heq]
    exact h
  · rw [heq]
    have hrec := Recorded.of_ready hr hid
    refine ⟨?_, ?_, fun hf => ?_⟩
    · intro c hc
      rcases List.mem_cons.1 hc with rfl | hc
      · exact hrec
      · exact h.recorded c hc
    · rw [List.map_cons, List.nodup_cons, hrec.callerKey_eq]
      exact ⟨callerKeyFact_absent hr.new.1, h.keys⟩
    · rw [List.map_cons, List.nodup_cons, hrec.eventKey_eq hf]
      exact ⟨eventIdFact_absent hf hr.new.2, h.events hf⟩

theorem committedBy_invariant (service : Service) (attempts : List Attempt) :
    JournalInvariant service (committedBy service attempts) := by
  have hinit : JournalInvariant service [] := ⟨by simp, by simp, by simp⟩
  unfold committedBy
  generalize ([] : List CommittedAdmission) = committed at hinit ⊢
  induction attempts generalizing committed with
  | nil => exact hinit
  | cons a attempts ih => exact ih _ (hinit.step a)

/-! ### Resubmission -/

theorem callerKeyFact_eq
    (h : JournalInvariant service committed) (hc : c ∈ committed)
    (hkey : submission.idempotencyKey = c.submission.idempotencyKey) :
    callerKeyFact service committed submission =
      foundFact submission c.writeSet.transactionId c.submission.canonicalSubmissionDigest
        (makeAssurance service.family) := by
  have hrec := h.recorded c hc
  have hfind := find?_key_eq (k := (serviceScope service, submission.idempotencyKey)) h.keys hc
    (by rw [hrec.callerKey_eq, hkey])
  simp only [callerKeyFact, hfind, hrec.caller, hrec.assurance]

theorem eventIdFact_eq
    (h : JournalInvariant service committed) (hc : c ∈ committed)
    (hf : service.family = .eventFact) (hevent : submission.eventId = c.submission.eventId) :
    eventIdFact service committed submission =
      foundFact submission c.writeSet.transactionId c.submission.canonicalSubmissionDigest
        (makeAssurance service.family) := by
  have hrec := h.recorded c hc
  have hfind := find?_key_eq (k := (serviceScope service, submission.eventId)) (h.events hf) hc
    (by rw [hrec.eventKey_eq hf, hevent])
  simp only [eventIdFact, if_pos hf, hfind, hrec.event hf, hrec.assurance]

/-- The assurance record of an admission is the one preflight expects back. -/
theorem makeAssurance_valid (family : Family) :
    Preflight.assuranceIsValid (makeAssurance family) family = true := by
  have hheader : headerIsCurrent abiVersion admissionAssuranceSize admissionAssuranceSize.toNat =
      true := by decide
  simp [Preflight.assuranceIsValid, makeAssurance, hheader]

/-- What the journal says of a submission that it has. -/
def recordedFact (service : Service) (c : CommittedAdmission) : MappingFact where
  state := .matched
  recordVerified := 1
  existing :=
    { transactionId := c.writeSet.transactionId
      canonicalSubmissionDigest := c.submission.canonicalSubmissionDigest
      assurance := makeAssurance service.family }

/-- The idempotency stage answers an unchanged resubmission with the existing admission. -/
theorem reduceIdempotency_resubmit
    (h : JournalInvariant service committed)
    (hfam : service.family = .eventFact ∨ service.family.isDownlink = true) (hc : c ∈ committed)
    (ha : a.submission = c.submission) :
    reduceIdempotency (attemptInput service committed a) =
      .error (.stop (setAlready (recordedFact service c).existing)) := by
  have hrec := h.recorded c hc
  have hdigest : digestIsValid c.submission.canonicalSubmissionDigest = true := by
    have := (hrec.semantic (attemptInput service committed a) rfl ha).identity
    simp only [submissionIdentityShapeIsValid, Bool.and_eq_true] at this
    exact ha ▸ this.1.2
  have hkey : (attemptInput service committed a).callerKeyMapping = recordedFact service c := by
    refine (callerKeyFact_eq h hc (by rw [ha])).trans ?_
    simp only [foundFact, ha, if_true, recordedFact]
  have hshape : mappingFactShapeIsValid (recordedFact service c) = true := by
    simp [mappingFactShapeIsValid, existingPairIsValid, hdigest, hrec.id_ne, recordedFact]
  unfold recordedFact at hkey hshape
  have hsub : (attemptInput service committed a).submission = c.submission := ha
  have hservice : (attemptInput service committed a).service = service := rfl
  simp only [reduceIdempotency, hkey, hshape, hsub, hservice, matchAgrees, require]
  rcases hfam with hf | hdown
  · have hevent : (attemptInput service committed a).eventIdMapping = recordedFact service c := by
      refine (eventIdFact_eq h hc hf (by rw [ha])).trans ?_
      simp only [foundFact, ha, if_true, recordedFact]
    unfold recordedFact at hevent
    have hdown : service.family.isDownlink = false := by rw [hf]; rfl
    simp [hevent, hdown, hshape, alreadyExit, makeAssurance_valid, bind, Except.bind,
      recordedFact]
  · have hevent : (attemptInput service committed a).eventIdMapping = { state := .absent } := by
      have hf : service.family ≠ .eventFact := by
        intro hf
        rw [hf] at hdown
        cases hdown
      show eventIdFact service committed a.submission = _
      rw [eventIdFact, if_neg hf]
    simp [hevent, hdown, alreadyExit, makeAssurance_valid, bind, Except.bind, recordedFact]

/-- The answer to an unchanged resubmission. -/
theorem preflight_resubmit (h : JournalInvariant service committed)
    (hfam : service.family = .eventFact ∨ service.family.isDownlink = true) (hc : c ∈ committed)
    (ha : a.submission = c.submission) :
    submissionPreflight (attemptInput service committed a) =
      .ok (setAlready (recordedFact service c).existing) := by
  have hsem := semanticGuards_ok.2
    ((h.recorded c hc).semantic (attemptInput service committed a) rfl ha)
  have hidem := reduceIdempotency_resubmit h hfam hc ha
  have hplan : admissionPlan (attemptInput service committed a) =
      .error (.stop (setAlready (recordedFact service c).existing)) := by
    simp only [admissionPlan, hsem, hidem, bind, Except.bind]
  simp only [submissionPreflight, hplan]

/-- **Submissions are admitted at most once.**  After every run: no two committed admissions
share a scope and caller key, and no two committed event facts a scope and event identifier; a
committed submission that comes again unchanged is answered with its original identifier and
digest, whatever the other facts of the attempt are; and its key with another digest is never
ready. -/
theorem submission_at_most_once (service : Service)
    (hfam : service.family = .eventFact ∨ service.family.isDownlink = true)
    (attempts : List Attempt) :
    let committed := committedBy service attempts
    (committed.Pairwise fun c d => c.callerKey ≠ d.callerKey) ∧
      (service.family = .eventFact → committed.Pairwise fun c d => c.eventKey ≠ d.eventKey) ∧
      ∀ c ∈ committed, ∀ a : Attempt,
        (a.submission = c.submission →
          ∃ r, submissionPreflight (attemptInput service committed a) = .ok r ∧
            r.apiStatus = .ok ∧ r.publicResult.kind = .alreadyAdmitted ∧
            r.publicResult.transactionId = c.writeSet.transactionId ∧
            r.publicResult.canonicalSubmissionDigest =
              c.writeSet.plan.canonicalSubmissionDigest) ∧
        (a.submission.idempotencyKey = c.submission.idempotencyKey →
          a.submission.canonicalSubmissionDigest ≠ c.submission.canonicalSubmissionDigest →
          ∀ r, submissionPreflight (attemptInput service committed a) = .ok r →
            r.action ≠ .readyForIdAllocation) := by
  intro committed
  have h : JournalInvariant service committed := committedBy_invariant service attempts
  refine ⟨List.pairwise_map.1 h.keys, fun hf => List.pairwise_map.1 (h.events hf), ?_⟩
  intro c hc a
  refine ⟨fun ha => ?_, fun hkey hne r hr hready => ?_⟩
  · exact ⟨_, preflight_resubmit h hfam hc ha, rfl, rfl, rfl, (h.recorded c hc).digest.symm⟩
  · -- a ready plan needs an absent key, but the lookup finds `c`
    have habsent : (callerKeyFact service committed a.submission).state = .absent :=
      (Ready.of_preflight hr hready).new.1
    rw [callerKeyFact_eq h hc hkey] at habsent
    exact foundFact_ne_absent habsent

/-- The sample submission with everything it needs to be committed. -/
def sampleAttempt : Attempt where
  submission := (sampleInput .desiredState).submission
  clock := { state := .trusted, clockEpochId := 7, nowMs := 5000 }
  lastTransactionSequence := 0
  lastSchedulerOwnerSequence := 0
  authority := { fact := .notApplicable }
  quota := {}
  eventGrantUsage := {}
  resourceLedger := resourceLedgerInit fun _ => 1000
  payload := samplePayload
  descriptorContract := sampleContract
  draws := [sampleDraw 1]
  commitState := .ok
  foundDurable := false

theorem committedBy_singleton (service : Service) (a : Attempt) :
    committedBy service [a] = attemptStep service [] a := rfl

/-- The sample submission is committed, and coming again it is answered with the drawn
identifier. -/
theorem sample_resubmission :
    ∃ c, committedBy (sampleInput .desiredState).service [sampleAttempt] = [c] ∧
      ∃ r, submissionPreflight
          (attemptInput (sampleInput .desiredState).service [c] sampleAttempt) = .ok r ∧
        r.publicResult.kind = .alreadyAdmitted ∧ r.publicResult.transactionId = 9 := by
  have hids : (committedBy (sampleInput .desiredState).service [sampleAttempt]).map
      (·.writeSet.transactionId) = [9] := by decide +kernel
  have hmost := submission_at_most_once (sampleInput .desiredState).service (.inr rfl)
    [sampleAttempt]
  rw [committedBy_singleton] at hids hmost ⊢
  rcases attemptStep_cases (sampleInput .desiredState).service [] sampleAttempt with
    h | ⟨plan, id, -, -, h⟩
  · rw [h] at hids
    exact absurd hids (List.cons_ne_nil _ _).symm
  · rw [h] at hids hmost ⊢
    obtain ⟨r, hr, -, hkind, hid, -⟩ := (hmost.2.2 _ (List.mem_singleton_self _) sampleAttempt).1 rfl
    exact ⟨_, rfl, r, hr, hkind, hid.trans (List.cons.inj hids).1⟩

end Ninlil.Submission
