import Ninlil.Submission.Agreement

/-!
# Runs of preflight calls

A run is a list of preflight calls on one registered service, in which every ready plan is
committed: its quota, its spool usage, its sequences and its ledger are the facts of the next
call.  Everything else of a call is arbitrary.

* `ledger_change`: what a ready plan adds to each kind of the ledger;
* `Within`: the limits a ready plan respects;
* `RunInvariant`: the counters account for all plans admitted in the current window, and the
  sequences of the admitted plans increase;
* `admissions_within_limits`: the statement for all runs.
-/

namespace Ninlil.Submission

open Resource Guard Preflight Admission

variable {input : PreflightInput} {plan : AdmissionPlan}

/-! ### The ledger of a ready plan -/

variable {l : List BatchRequest}

theorem batchOf_active {op : BatchOperation} (hl : l.length ≤ kindCount) :
    (batchOf op l).active = l := by
  have hcount : (batchOf op l).requestCount.toNat = l.length := by
    show (UInt32.ofNat l.length).toNat = l.length
    have : l.length ≤ 11 := hl
    rw [UInt32.toNat_ofNat', Nat.mod_eq_of_lt (by omega)]
  apply List.ext_getElem
  · simp only [Batch.active, hcount, List.length_take, List.length_ofFn]
    exact min_eq_left hl
  · intro i h1 h2
    simp only [Batch.active, List.getElem_take, List.getElem_ofFn, batchOf]
    simp [List.getD_eq_getElem?_getD, h2]

/-- The amount a request list asks for at an index: that of its first request, or zero. -/
def amountAt : List BatchRequest → Fin kindCount → UInt64
  | [], _ => 0
  | q :: l, i => if q.index = i then q.amount else amountAt l i

theorem amountAt_cases (l : List BatchRequest) (i : Fin kindCount) :
    (∃ q ∈ l, q.index = i ∧ q.amount = amountAt l i) ∨
      (i ∉ l.map BatchRequest.index ∧ amountAt l i = 0) := by
  induction l with
  | nil => exact .inr ⟨by simp, rfl⟩
  | cons q l ih =>
    by_cases hq : q.index = i
    · exact .inl ⟨q, by simp, hq, by simp [amountAt, hq]⟩
    · rcases ih with ⟨q', hq', h1, h2⟩ | ⟨h1, h2⟩
      · exact .inl ⟨q', by simp [hq'], h1, by simp [amountAt, hq, h2]⟩
      · refine .inr ⟨?_, by simp [amountAt, hq, h2]⟩
        simp only [List.map_cons, List.mem_cons, not_or]
        exact ⟨fun h => hq h.symm, h1⟩

/-- An entry after reserving `a`: everything but the two amounts and the mark is kept. -/
theorem Applied.reserve_entry {L L' : Ledger} {i : Fin kindCount}
    {a : UInt64} (h : Applied .reserveOrBlock (· = .reserved) l L L') (hL : LedgerValid L)
    (ha : amountAt l i = a) :
    (L i).total + a.toNat ≤ (L i).limit.toNat ∧
      L' i =
        { L i with
          reserved := (L i).reserved + a
          highWater := UInt64.ofNat (max (L i).highWater.toNat ((L i).total + a.toNat)) } := by
  have hv := (hL i).2
  rcases ha ▸ amountAt_cases l i with ⟨q, hq, rfl, rfl⟩ | ⟨hi, rfl⟩
  · obtain ⟨er, her, hact, heq⟩ := h.hit q hq
    cases (EntryStep.of_transition her).2 with
    | reserved hop hm hfit hw hhw =>
      refine ⟨hfit, heq.trans ?_⟩
      have : hw = UInt64.ofNat (max (L q.index).highWater.toNat
          ((L q.index).total + q.amount.toNat)) := by
        rw [← UInt64.toNat_inj, UInt64.toNat_ofNat', Nat.mod_eq_of_lt]
        · exact hhw
        · exact lt_of_eq_of_lt hhw.symm hw.toNat_lt
      rw [← this]
      rfl
    | counterExhausted | blockSet | alreadyBlocked | committed | released | unblocked
    | epochExhausted => cases hact
  · refine ⟨by simpa using hv.total_le.trans hv.high_le, ?_⟩
    have hmax : UInt64.ofNat (max (L i).highWater.toNat ((L i).total + (0 : UInt64).toNat)) =
        (L i).highWater := by
      rw [UInt64.toNat_zero, Nat.add_zero, max_eq_left hv.total_le, UInt64.ofNat_toNat]
    rw [h.miss i hi, hmax, UInt64.add_zero]

/-- An entry after committing `a` of its reserved units. -/
theorem Applied.commit_entry {L L' : Ledger} {i : Fin kindCount}
    {P : CapacityAction → Prop} {a : UInt64} (h : Applied .commitReserved P l L L')
    (ha : amountAt l i = a) :
    a.toNat ≤ (L i).reserved.toNat ∧
      L' i = { L i with used := (L i).used + a, reserved := (L i).reserved - a } := by
  rcases ha ▸ amountAt_cases l i with ⟨q, hq, rfl, rfl⟩ | ⟨hi, rfl⟩
  · obtain ⟨er, her, -, heq⟩ := h.hit q hq
    cases (EntryStep.of_transition her).2 with
    | committed hop hle => exact ⟨hle, heq⟩
    | counterExhausted hop => cases hop
    | reserved hop => cases hop
    | blockSet hop => cases hop
    | alreadyBlocked hop => cases hop
    | released hop => cases hop
    | unblocked hop => cases hop
    | epochExhausted hop => cases hop
  · refine ⟨Nat.zero_le _, ?_⟩
    rw [h.miss i hi, UInt64.add_zero, UInt64.sub_zero]

/-- What a plan adds to the used amount of a kind. -/
def usedAdded (input : PreflightInput) (kind : UInt32) : ℕ :=
  if kind = kindTransaction then 1
  else if kind = kindTarget ∨ kind = kindEvidence then input.submission.targetCount.toNat
  else if kind = kindOutboxBytes ∧ input.service.family.isDownlink = true
      ∨ kind = kindEventSpoolBytes ∧ input.service.family.isUplink = true then
    input.submission.payloadLength.toNat
  else if kind = kindEventSpoolCount ∧ input.service.family.isUplink = true then 1
  else 0

/-- What a plan adds to the reserved amount of a kind. -/
def reservedAdded (input : PreflightInput) (kind : UInt32) : ℕ :=
  if kind = kindEvidence then
    input.submission.targetCount.toNat * input.service.maxEvidencePerTarget.toNat
  else if kind = kindEventSpoolBytes ∧ input.service.family.isUplink = true then 2560
  else 0

theorem amountAt_unlessZero {kind : UInt32} {a : UInt64}
    {i : Fin kindCount} :
    amountAt (requestUnlessZero kind a ++ l) i =
      if entryIndex kind = i ∧ a ≠ 0 then a else amountAt l i := by
  unfold requestUnlessZero
  by_cases ha : a = 0
  · simp [ha]
  · by_cases hi : entryIndex kind = i
    · simp [ha, hi, amountAt, request, BatchRequest.index]
    · simp [ha, hi, amountAt, request, BatchRequest.index]

/-- Both request lists ask for exactly these amounts. -/
theorem requests_amounts (hr : Ready input plan) (i : Fin kindCount) :
    (amountAt plan.resources.commitRequests i).toNat = usedAdded input (kindAt i) ∧
      (amountAt plan.resources.reserveRequests i).toNat =
        usedAdded input (kindAt i) + reservedAdded input (kindAt i) := by
  have hev := evidenceAmount_toNat hr.semantic
  have hsp := spoolBytes_toNat input.submission.payloadLength
  have hall : (requestKinds.all fun k => decide (∀ i, entryIndex k = i ↔ kindAt i = k)) = true := by
    decide
  have hidx : ∀ k ∈ requestKinds, ∀ i, (entryIndex k = i ↔ kindAt i = k) := fun k hk =>
    of_decide_eq_true (List.all_eq_true.1 hall k hk)
  have htx : kindTransaction ∈ requestKinds := by decide
  have htg : kindTarget ∈ requestKinds := by decide
  have hob : kindOutboxBytes ∈ requestKinds := by decide
  have hsc : kindEventSpoolCount ∈ requestKinds := by decide
  have hsb : kindEventSpoolBytes ∈ requestKinds := by decide
  have hevk : kindEvidence ∈ requestKinds := by decide
  obtain ⟨hdownReq, hupReq⟩ := requests_cases hr.semantic hr.resources
  rcases hr.direction with ⟨hdown, hup⟩ | ⟨hup, hdown, -⟩
  · obtain ⟨h1, h2⟩ := hdownReq hdown
    rw [h1, h2]
    simp only [List.cons_append, List.nil_append, amountAt, amountAt_unlessZero, usedAdded,
      reservedAdded, hup, hdown, request, BatchRequest.index, hidx _ htx, hidx _ htg, hidx _ hob,
      hidx _ hevk]
    generalize kindAt i = k
    simp only [kindTransaction, kindTarget, kindOutboxBytes, kindEventSpoolCount,
      kindEventSpoolBytes, kindEvidence]
    by_cases k1 : k = 2
    · subst k1; simp
    by_cases k2 : k = 3
    · subst k2; simp
    by_cases k3 : k = 4
    · subst k3
      by_cases hp : input.submission.payloadLength = 0 <;> simp [toUInt64_eq_zero, hp]
    by_cases k4 : k = 9
    · subst k4
      simp [hev]
      ring
    simp [k1, k2, k3, k4]
  · obtain ⟨h1, h2⟩ := hupReq hup hdown
    rw [h1, h2]
    simp only [List.cons_append, List.nil_append, amountAt, amountAt_unlessZero, usedAdded,
      reservedAdded, hup, hdown, request, BatchRequest.index, hidx _ htx, hidx _ htg, hidx _ hsc,
      hidx _ hsb, hidx _ hevk]
    generalize kindAt i = k
    simp only [kindTransaction, kindTarget, kindOutboxBytes, kindEventSpoolCount,
      kindEventSpoolBytes, kindEvidence]
    by_cases k1 : k = 2
    · subst k1; simp
    by_cases k2 : k = 3
    · subst k2; simp
    by_cases k3 : k = 6
    · subst k3; simp
    by_cases k5 : k = 7
    · subst k5
      have hne := spoolBytes_ne_zero input.submission.payloadLength
      by_cases hp : input.submission.payloadLength = 0
      · have hres : eventManagementReservationBytes = 2560 := rfl
        simp [hp, hres]
      · simp [toUInt64_eq_zero, hp, hne, hsp]
    by_cases k4 : k = 9
    · subst k4
      simp [hev]
      ring
    simp [k1, k2, k3, k4, k5]

theorem requests_length (hr : Ready input plan) :
    plan.resources.reserveRequests.length ≤ kindCount ∧
      plan.resources.commitRequests.length ≤ kindCount := by
  obtain ⟨hdownReq, hupReq⟩ := requests_cases hr.semantic hr.resources
  have hone : ∀ kind a, (requestUnlessZero kind a).length ≤ 1 := by
    intro kind a
    unfold requestUnlessZero
    split_ifs <;> simp
  have hbound : ∀ (l : List BatchRequest) kind a (q : BatchRequest), l.length ≤ 3 →
      (l ++ requestUnlessZero kind a ++ [q]).length ≤ kindCount := by
    intro l kind a q hl
    have := hone kind a
    simp only [List.length_append, List.length_singleton, kindCount]
    omega
  rcases hr.direction with ⟨hdown, -⟩ | ⟨hup, hdown, -⟩
  · obtain ⟨h1, h2⟩ := hdownReq hdown
    rw [h1, h2]
    exact ⟨hbound _ _ _ _ (by simp), hbound _ _ _ _ (by simp)⟩
  · obtain ⟨h1, h2⟩ := hupReq hup hdown
    rw [h1, h2]
    exact ⟨hbound _ _ _ _ (by simp), hbound _ _ _ _ (by simp)⟩

theorem reserved_applied (hr : Ready input plan) :
    LedgerValid input.resourceLedger ∧
      Applied .reserveOrBlock (· = .reserved) plan.resources.reserveRequests
        input.resourceLedger plan.resources.reservedLedger := by
  obtain ⟨r, h, hact, hnext⟩ := hr.resources.reserved
  obtain ⟨-, hL, hstep⟩ := BatchStep.of_transition h
  cases hstep with
  | reserved hop _ happ =>
    rw [batchOf_active (requests_length hr).1, hnext] at happ
    exact ⟨hL, happ⟩
  | refused hop hne => exact absurd hact hne
  | settled hop => rcases hop with hop | hop <;> cases hop

theorem committed_applied (hr : Ready input plan) :
    Applied .commitReserved (expectedAction .commitReserved · = true)
      plan.resources.commitRequests plan.resources.reservedLedger
      plan.resources.committedLedger := by
  obtain ⟨r, h, -, hnext⟩ := hr.resources.committed
  obtain ⟨-, -, hstep⟩ := BatchStep.of_transition h
  cases hstep with
  | reserved hop => cases hop
  | refused hop => cases hop
  | settled hop hact happ =>
    rw [batchOf_active (requests_length hr).2, hnext] at happ
    exact happ

/-- **What a ready plan adds to the ledger.**  The plan's amounts and nothing else; the
high-water mark follows the new total. -/
theorem ledger_change (hr : Ready input plan) (i : Fin kindCount) :
    plan.resources.committedLedger i =
        { input.resourceLedger i with
          used := (plan.resources.committedLedger i).used
          reserved := (plan.resources.committedLedger i).reserved
          highWater := (plan.resources.committedLedger i).highWater } ∧
      (plan.resources.committedLedger i).used.toNat =
        (input.resourceLedger i).used.toNat + usedAdded input (kindAt i) ∧
      (plan.resources.committedLedger i).reserved.toNat =
        (input.resourceLedger i).reserved.toNat + reservedAdded input (kindAt i) ∧
      (plan.resources.committedLedger i).highWater.toNat =
        max (input.resourceLedger i).highWater.toNat (plan.resources.committedLedger i).total ∧
      (plan.resources.committedLedger i).total ≤ (input.resourceLedger i).limit.toNat := by
  obtain ⟨hL, happ⟩ := reserved_applied hr
  obtain ⟨hcommit, hreserve⟩ := requests_amounts hr i
  obtain ⟨hfit, hres⟩ := Applied.reserve_entry happ hL (i := i) rfl
  obtain ⟨hle, hcom⟩ := Applied.commit_entry (committed_applied hr) (i := i) rfl
  have hlim := (input.resourceLedger i).limit.toNat_lt
  have hhw := (hL i).2.high_le
  have htot : (input.resourceLedger i).total =
    (input.resourceLedger i).used.toNat + (input.resourceLedger i).reserved.toNat := rfl
  -- the sums stay below the limit, so none of the machine operations wraps
  have hadd : ((input.resourceLedger i).reserved +
      amountAt plan.resources.reserveRequests i).toNat =
      (input.resourceLedger i).reserved.toNat +
        (amountAt plan.resources.reserveRequests i).toNat :=
    toNat_add_of_toNat_lt (by omega)
  rw [hres] at hcom hle
  have hused : ((input.resourceLedger i).used + amountAt plan.resources.commitRequests i).toNat =
      (input.resourceLedger i).used.toNat + (amountAt plan.resources.commitRequests i).toNat :=
    toNat_add_of_toNat_lt (by omega)
  have hsub := toNat_sub_of_toNat_le hle
  have hmax : (UInt64.ofNat (max (input.resourceLedger i).highWater.toNat
      ((input.resourceLedger i).total +
        (amountAt plan.resources.reserveRequests i).toNat))).toNat =
      max (input.resourceLedger i).highWater.toNat ((input.resourceLedger i).total +
        (amountAt plan.resources.reserveRequests i).toNat) := by
    rw [UInt64.toNat_ofNat', Nat.mod_eq_of_lt (by omega)]
  rw [hcom]
  simp only [CapacityEntry.total] at hmax htot hfit ⊢
  simp only at hsub hle
  refine ⟨trivial, ?_, ?_, ?_, ?_⟩
  · rw [hused, hcommit]
  · rw [hsub, hadd, hreserve, hcommit]; omega
  · rw [hmax, hused, hsub, hadd]; congr 1; omega
  · rw [hused, hsub, hadd]; omega

/-! ### Runs -/

/-- The durable facts that one call leaves to the next. -/
structure Facts where
  quota : QuotaCommitPlan
  lastTransactionSequence : UInt64
  lastSchedulerOwnerSequence : UInt64
  ledger : Ledger

/-- What the environment supplies for one call. -/
structure Call where
  submission : SemanticSubmission
  callerKeyMapping : MappingFact
  eventIdMapping : MappingFact
  clock : ClockFact
  authority : AuthorityResult

/-- The start of the admission window that contains a time. -/
def windowStart (service : Service) (now : UInt64) : UInt64 :=
  now - now % service.admissionWindowMs.toUInt64

/-- The preflight input of a call: the window is current exactly when the clock epoch and the
window start are those of the last admission. -/
def inputOf (service : Service) (facts : Facts) (call : Call) : PreflightInput where
  service := service
  submission := call.submission
  callerKeyMapping := call.callerKeyMapping
  eventIdMapping := call.eventIdMapping
  clock := call.clock
  lastTransactionSequence := facts.lastTransactionSequence
  lastSchedulerOwnerSequence := facts.lastSchedulerOwnerSequence
  authority := call.authority
  quota :=
    { inflightCount := facts.quota.nextInflightCount
      admissionsInWindow := facts.quota.nextAdmissionsInWindow
      payloadBytesInWindow := facts.quota.nextPayloadBytesInWindow
      windowIsCurrent :=
        if call.clock.clockEpochId = facts.quota.clockEpochId
            ∧ windowStart service call.clock.nowMs = facts.quota.windowStartedAtMs then 1
        else 0 }
  eventGrantUsage :=
    { activeSpoolCount := facts.quota.nextEventActiveSpoolCount
      activeSpoolBytes := facts.quota.nextEventActiveSpoolBytes }
  resourceLedger := facts.ledger

/-- The facts a committed plan leaves. -/
def factsOf (plan : AdmissionPlan) : Facts where
  quota := plan.quota
  lastTransactionSequence := plan.transactionSequence
  lastSchedulerOwnerSequence := plan.schedulerOwnerSequence
  ledger := plan.resources.committedLedger

/-- The facts so far and the plans admitted so far, the last one first. -/
structure RunState where
  facts : Facts
  admitted : List AdmissionPlan

/-- One call: a ready plan is committed, any other answer leaves the state alone. -/
def runStep (service : Service) (s : RunState) (call : Call) : RunState :=
  match submissionPreflight (inputOf service s.facts call) with
  | .ok r =>
    if r.action = .readyForIdAllocation then
      { facts := factsOf r.admission, admitted := r.admission :: s.admitted }
    else s
  | .error _ => s

/-- A run from some facts. -/
def run (service : Service) (facts : Facts) (calls : List Call) : RunState :=
  calls.foldl (runStep service) { facts := facts, admitted := [] }

/-- The plans of the last admission window, as far as it was not left in between. -/
def currentWindow (s : RunState) : List AdmissionPlan :=
  s.admitted.takeWhile fun plan =>
    plan.quota.clockEpochId = s.facts.quota.clockEpochId
      ∧ plan.quota.windowStartedAtMs = s.facts.quota.windowStartedAtMs

/-- What holds in every state of a run. -/
structure RunInvariant (s : RunState) : Prop where
  last : ∀ plan ∈ s.admitted.head?, s.facts = factsOf plan
  count : (currentWindow s).length ≤ s.facts.quota.nextAdmissionsInWindow.toNat
  bytes : ((currentWindow s).map (·.payloadLength.toNat)).sum ≤
    s.facts.quota.nextPayloadBytesInWindow.toNat
  transactions : s.admitted.Pairwise fun later earlier =>
    earlier.transactionSequence < later.transactionSequence
  owners : s.admitted.Pairwise fun later earlier =>
    earlier.schedulerOwnerSequence < later.schedulerOwnerSequence
  transactions_le : ∀ plan ∈ s.admitted,
    plan.transactionSequence ≤ s.facts.lastTransactionSequence
  owners_le : ∀ plan ∈ s.admitted,
    plan.schedulerOwnerSequence ≤ s.facts.lastSchedulerOwnerSequence

variable {service : Service} {s : RunState} {call : Call}

/-- The limits a ready plan respects after it is committed. -/
structure Within (input : PreflightInput) (f : Facts) : Prop where
  inflight : f.quota.nextInflightCount.toNat ≤ input.service.inflightLimit.toNat
  admissions : f.quota.nextAdmissionsInWindow.toNat ≤ input.service.maxAdmissionsPerWindow.toNat
  bytes : f.quota.nextPayloadBytesInWindow.toNat ≤ input.service.maxPayloadBytesPerWindow.toNat
  grant : input.service.family.isUplink = true →
    f.quota.nextAdmissionsInWindow.toNat ≤ input.authority.grant.maxAdmissionsPerWindow.toNat ∧
    input.submission.payloadLength.toNat ≤ input.authority.grant.maxPayloadBytes.toNat ∧
    f.quota.nextEventActiveSpoolCount.toNat ≤ input.authority.grant.maxActiveSpoolCount.toNat ∧
    f.quota.nextEventActiveSpoolBytes.toNat ≤ input.authority.grant.maxActiveSpoolBytes.toNat
  transaction : f.lastTransactionSequence.toNat = input.lastTransactionSequence.toNat + 1
  owner : f.lastSchedulerOwnerSequence.toNat = input.lastSchedulerOwnerSequence.toNat + 1
  ledger : ∀ i, (f.ledger i).used.toNat + (f.ledger i).reserved.toNat ≤ (f.ledger i).limit.toNat
  change : ∀ i, f.ledger i =
      { input.resourceLedger i with
        used := (f.ledger i).used
        reserved := (f.ledger i).reserved
        highWater := (f.ledger i).highWater } ∧
    (f.ledger i).used.toNat =
      (input.resourceLedger i).used.toNat + usedAdded input (kindAt i) ∧
    (f.ledger i).reserved.toNat =
      (input.resourceLedger i).reserved.toNat + reservedAdded input (kindAt i) ∧
    (f.ledger i).highWater.toNat =
      max (input.resourceLedger i).highWater.toNat
        ((f.ledger i).used.toNat + (f.ledger i).reserved.toNat)

theorem Within.of_ready (hr : Ready input plan) : Within input (factsOf plan) where
  inflight := hr.quota.inflight_le
  admissions := hr.quota.admissions_le
  bytes := hr.quota.bytes_le
  grant hup :=
    have ⟨h1, _, h3, _, h5, h6⟩ := hr.quota.spool hup
    ⟨h6, h1, h3, h5⟩
  transaction := hr.transaction
  owner := hr.owner
  ledger i := by
    obtain ⟨h1, -, -, -, h5⟩ := ledger_change hr i
    have hl : (plan.resources.committedLedger i).limit = (input.resourceLedger i).limit := by
      rw [h1]
    show (plan.resources.committedLedger i).total ≤ (plan.resources.committedLedger i).limit.toNat
    rw [hl]
    exact h5
  change i :=
    have ⟨h1, h2, h3, h4, _⟩ := ledger_change hr i
    ⟨h1, h2, h3, h4⟩

/-- The counters of a ready plan carry on those of the facts if the window is still current, and
start again otherwise. -/
theorem window_counters (hr : Ready (inputOf service s.facts call) plan) :
    (if plan.quota.clockEpochId = s.facts.quota.clockEpochId
        ∧ plan.quota.windowStartedAtMs = s.facts.quota.windowStartedAtMs then
      plan.quota.nextAdmissionsInWindow.toNat =
          s.facts.quota.nextAdmissionsInWindow.toNat + 1 ∧
        plan.quota.nextPayloadBytesInWindow.toNat =
          s.facts.quota.nextPayloadBytesInWindow.toNat + plan.payloadLength.toNat
    else plan.quota.nextAdmissionsInWindow.toNat = 1 ∧
      plan.quota.nextPayloadBytesInWindow.toNat = plan.payloadLength.toNat) := by
  have hq := hr.quota
  have h1 := hq.admissions
  have h2 := hq.bytes
  have hpay := hr.payload_eq
  have hepoch : plan.quota.clockEpochId = call.clock.clockEpochId := hq.epoch
  have hwin : plan.quota.windowStartedAtMs = windowStart service call.clock.nowMs := hq.window
  simp only [windowAdmissions, windowBytes, inputOf, ← hepoch, ← hwin] at h1 h2
  rw [hpay]
  split_ifs with hc
  · rw [if_pos hc] at h1 h2
    exact ⟨h1, h2⟩
  · rw [if_neg hc] at h1 h2
    simp only [ne_eq, not_true_eq_false, if_false, Nat.zero_add] at h1 h2
    exact ⟨h1, h2⟩

/-- The window of a new admission: it carries on the plans of the last window or starts anew. -/
theorem currentWindow_cons (hs : RunInvariant s) (plan : AdmissionPlan) :
    currentWindow { facts := factsOf plan, admitted := plan :: s.admitted } =
      if plan.quota.clockEpochId = s.facts.quota.clockEpochId
          ∧ plan.quota.windowStartedAtMs = s.facts.quota.windowStartedAtMs then
        plan :: currentWindow s
      else [plan] := by
  have hhead : (factsOf plan).quota = plan.quota := rfl
  simp only [currentWindow, hhead, List.takeWhile_cons, and_self, decide_true, if_true]
  split_ifs with hsame
  · rw [hsame.1, hsame.2]
  · -- the last admission, if any, belongs to the window that was left
    cases had : s.admitted with
    | nil => rfl
    | cons last earlier =>
      have hlast : s.facts = factsOf last := hs.last last (by simp [had])
      have hne : ¬(last.quota.clockEpochId = plan.quota.clockEpochId ∧
          last.quota.windowStartedAtMs = plan.quota.windowStartedAtMs) := by
        intro h
        rw [hlast] at hsame
        exact hsame ⟨h.1.symm, h.2.symm⟩
      rw [List.takeWhile_cons, if_neg (by simpa using hne)]

/-- **An admission keeps the invariant.** -/
theorem RunInvariant.admitted (hs : RunInvariant s)
    (hr : Ready (inputOf service s.facts call) plan) :
    RunInvariant { facts := factsOf plan, admitted := plan :: s.admitted } := by
  have hw := window_counters hr
  have hcur := currentWindow_cons hs plan
  have htx : plan.transactionSequence.toNat = s.facts.lastTransactionSequence.toNat + 1 :=
    hr.transaction
  have how : plan.schedulerOwnerSequence.toNat = s.facts.lastSchedulerOwnerSequence.toNat + 1 :=
    hr.owner
  have htxs : ∀ p ∈ s.admitted, p.transactionSequence < plan.transactionSequence := by
    intro p hp
    have := UInt64.le_iff_toNat_le.1 (hs.transactions_le p hp)
    rw [UInt64.lt_iff_toNat_lt]
    omega
  have hows : ∀ p ∈ s.admitted, p.schedulerOwnerSequence < plan.schedulerOwnerSequence := by
    intro p hp
    have := UInt64.le_iff_toNat_le.1 (hs.owners_le p hp)
    rw [UInt64.lt_iff_toNat_lt]
    omega
  have hcount := hs.count
  have hbytes := hs.bytes
  constructor
  case last => rintro p ⟨⟩; rfl
  case count =>
    rw [hcur]
    show _ ≤ plan.quota.nextAdmissionsInWindow.toNat
    split_ifs at hw ⊢ with hsame
    · rw [List.length_cons]; omega
    · rw [List.length_singleton]; omega
  case bytes =>
    rw [hcur]
    show _ ≤ plan.quota.nextPayloadBytesInWindow.toNat
    split_ifs at hw ⊢ with hsame
    · rw [List.map_cons, List.sum_cons]; omega
    · rw [List.map_singleton, List.sum_singleton]; omega
  case transactions => exact List.pairwise_cons.2 ⟨htxs, hs.transactions⟩
  case owners => exact List.pairwise_cons.2 ⟨hows, hs.owners⟩
  case transactions_le =>
    rintro p hp
    rcases List.mem_cons.1 hp with rfl | hp
    · exact UInt64.le_refl _
    · exact UInt64.le_of_lt (htxs p hp)
  case owners_le =>
    rintro p hp
    rcases List.mem_cons.1 hp with rfl | hp
    · exact UInt64.le_refl _
    · exact UInt64.le_of_lt (hows p hp)

/-- One call: an admission, or nothing at all. -/
theorem runStep_cases (service : Service) (s : RunState) (call : Call) :
    (∃ r, submissionPreflight (inputOf service s.facts call) = .ok r ∧
        r.action = .readyForIdAllocation ∧ Ready (inputOf service s.facts call) r.admission ∧
        runStep service s call =
          { facts := factsOf r.admission, admitted := r.admission :: s.admitted }) ∨
      ((∀ r, submissionPreflight (inputOf service s.facts call) = .ok r →
          r.action ≠ .readyForIdAllocation ∧ r.admission = {}) ∧
        runStep service s call = s) := by
  cases h : submissionPreflight (inputOf service s.facts call) with
  | error status =>
    refine .inr ⟨fun r hr => ?_, ?_⟩
    · cases hr
    · simp only [runStep, h]
  | ok r =>
    rcases preflight_cases h with ⟨hact, hr⟩ | ⟨hact, hzero⟩
    · refine .inl ⟨r, rfl, hact, hr, ?_⟩
      simp only [runStep, h, if_pos hact]
    · refine .inr ⟨fun r' hr' => ?_, ?_⟩
      · cases hr'
        exact ⟨hact, hzero⟩
      · simp only [runStep, h, if_neg hact]

/-- **A call keeps the invariant.** -/
theorem RunInvariant.step (hs : RunInvariant s) (call : Call) :
    RunInvariant (runStep service s call) := by
  rcases runStep_cases service s call with ⟨r, -, -, hr, hnext⟩ | ⟨-, hnext⟩
  · rw [hnext]
    exact hs.admitted hr
  · rw [hnext]
    exact hs

theorem run_invariant (service : Service) (facts : Facts) (calls : List Call) :
    RunInvariant (run service facts calls) := by
  unfold run
  have hinit : RunInvariant { facts := facts, admitted := [] } :=
    { last := by simp
      count := Nat.zero_le _
      bytes := Nat.zero_le _
      transactions := .nil
      owners := .nil
      transactions_le := by simp
      owners_le := by simp }
  generalize ({ facts := facts, admitted := [] } : RunState) = s at hinit ⊢
  induction calls generalizing s with
  | nil => exact hinit
  | cons call calls ih => exact ih _ (hinit.step call)

/-- **No admission exceeds a limit.**  In every run, and for every call that follows it: the
admitted sequences increase strictly; a ready result leaves all counters, the ledger and the
plans of its window within the limits, with the ledger changed by the plan's amounts only; any
other result carries no plan and changes no fact. -/
theorem admissions_within_limits (service : Service) (facts : Facts) (calls : List Call)
    (call : Call) :
    let s := run service facts calls
    let s' := run service facts (calls ++ [call])
    (s'.admitted.Pairwise fun later earlier =>
        earlier.transactionSequence < later.transactionSequence ∧
          earlier.schedulerOwnerSequence < later.schedulerOwnerSequence) ∧
      ((∃ r, submissionPreflight (inputOf service s.facts call) = .ok r ∧
          r.action = .readyForIdAllocation ∧
          s' = { facts := factsOf r.admission, admitted := r.admission :: s.admitted } ∧
          Within (inputOf service s.facts call) s'.facts ∧
          (currentWindow s').length ≤ service.maxAdmissionsPerWindow.toNat ∧
          ((currentWindow s').map (·.payloadLength.toNat)).sum ≤
            service.maxPayloadBytesPerWindow.toNat) ∨
        ((∀ r, submissionPreflight (inputOf service s.facts call) = .ok r →
            r.action ≠ .readyForIdAllocation ∧ r.admission = {}) ∧
          s' = s)) := by
  intro s s'
  have hinv : RunInvariant s' := run_invariant service facts (calls ++ [call])
  have hstep : s' = runStep service s call := by
    simp only [s', s, run, List.foldl_append, List.foldl_cons, List.foldl_nil]
  refine ⟨hinv.transactions.and hinv.owners, ?_⟩
  rcases runStep_cases service s call with ⟨r, hok, hact, hr, hnext⟩ | ⟨hno, hnext⟩
  · have hs' := hstep.trans hnext
    have hwithin : Within (inputOf service s.facts call) s'.facts := by
      rw [hs']
      exact .of_ready hr
    exact .inl ⟨r, hok, hact, hs', hwithin, hinv.count.trans hwithin.admissions,
      hinv.bytes.trans hwithin.bytes⟩
  · exact .inr ⟨hno, hstep.trans hnext⟩

/-- Facts with nothing admitted yet, and a desired-state call on them. -/
def emptyFacts : Facts where
  quota := {}
  lastTransactionSequence := 0
  lastSchedulerOwnerSequence := 0
  ledger := resourceLedgerInit fun _ => 1000

def sampleCall : Call where
  submission := (sampleInput .desiredState).submission
  callerKeyMapping := { state := .absent }
  eventIdMapping := { state := .absent }
  clock := { state := .trusted, clockEpochId := 7, nowMs := 5000 }
  authority := { fact := .notApplicable }

example :
    (run (sampleInput .desiredState).service emptyFacts
      [sampleCall, sampleCall]).admitted.map (·.transactionSequence) = [2, 1] := by
  decide +kernel

end Ninlil.Submission
