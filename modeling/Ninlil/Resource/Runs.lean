import Ninlil.Resource.Batch

/-!
# Whole runs of the resource ledger

The ledger after any list of batches, accepted or rejected, starting from
`resourceLedgerInit`.

* `ledgerAfter_valid`: every reached ledger passes the validation of the next call;
* `highWater_isGreatest`: the high-water mark is the maximum of the totals seen so far;
* `ledger_run_safe`: the safety statement for all runs;
* `exhaustingRun`: the run that drives a capacity epoch to its last value.
-/

namespace Ninlil.Resource

/-- The ledger a caller holds after a call: the returned one, or the old one on a rejection. -/
def applyBatch (ledger : Ledger) (batch : Batch) : Ledger :=
  match capacityBatchTransition ledger batch with
  | .ok r => r.next
  | .error _ => ledger

/-- The ledger after a list of batch calls on a fresh ledger. -/
def ledgerAfter (limits : CapacityLimits) (batches : List Batch) : Ledger :=
  batches.foldl applyBatch (resourceLedgerInit limits)

/-- The call is a release that opens the blocked entry `i`. -/
def Unblocks (ledger : Ledger) (batch : Batch) (i : Fin kindCount) : Prop :=
  batch.operation = .release ∧ (ledger i).blocked = 1 ∧ (applyBatch ledger batch i).blocked = 0

variable {L : Ledger} {b : Batch} {limits : CapacityLimits} {bs : List Batch} {i : Fin kindCount}

@[simp] theorem ledgerAfter_nil : ledgerAfter limits [] = resourceLedgerInit limits := rfl

@[simp] theorem ledgerAfter_snoc :
    ledgerAfter limits (bs ++ [b]) = applyBatch (ledgerAfter limits bs) b := by
  simp [ledgerAfter]

/-! ### One call -/

theorem applyBatch_evolves (hL : LedgerValid L) (b : Batch) (i : Fin kindCount) :
    Evolves (L i) (applyBatch L b i) := by
  unfold applyBatch
  cases h : capacityBatchTransition L b with
  | error s => exact .refl (hL i).2
  | ok r => exact (BatchStep.of_transition h).2.2.evolves hL i

theorem Evolves.epoch_le {e e' : CapacityEntry} (h : Evolves e e') :
    e.capacityEpoch ≤ e'.capacityEpoch := by
  by_cases hop : e.blocked = 1 ∧ e'.blocked = 0
  · by_cases he : e.capacityEpoch = uint64Max
    · exact UInt64.le_of_eq (h.epoch_exhausted hop.1 hop.2 he).1.symm
    · have := h.epoch_open hop.1 hop.2 he
      rw [UInt64.le_iff_toNat_le]
      omega
  · exact UInt64.le_of_eq (h.epoch_keep hop).1.symm

theorem applyBatch_valid (hL : LedgerValid L) (b : Batch) : LedgerValid (applyBatch L b) :=
  fun i => ⟨(applyBatch_evolves hL b i).kind_eq.trans (hL i).1, (applyBatch_evolves hL b i).valid⟩

/-- A transition that opens a blocked entry is a release. -/
theorem EntryStep.release_of_opens {input : TransitionInput} {r : TransitionResult}
    (h : EntryStep input r) (h1 : input.current.blocked = 1) (h0 : r.next.blocked = 0) :
    input.operation = .release := by
  have hne : input.current.blocked ≠ 0 := by rw [h1]; decide
  cases h with
  | counterExhausted | reserved => exact absurd h0 hne
  | blockSet => cases h0
  | alreadyBlocked | committed => exact absurd h0 hne
  | released hop => exact hop
  | unblocked hop => exact hop
  | epochExhausted hop => exact hop

theorem Applied.release_of_opens {op : BatchOperation} {P : CapacityAction → Prop}
    {qs : List BatchRequest} {L L' : Ledger} (h : Applied op P qs L L')
    (h1 : (L i).blocked = 1) (h0 : (L' i).blocked = 0) : op = .release := by
  by_cases hi : i ∈ qs.map BatchRequest.index
  · obtain ⟨q, hq, rfl⟩ := List.mem_map.1 hi
    obtain ⟨er, her, -, heq⟩ := h.hit q hq
    rw [heq] at h0
    have hop := (EntryStep.of_transition her).2.release_of_opens h1 h0
    cases op with
    | release => rfl
    | reserveOrBlock | commitReserved | unknown => cases hop
  · rw [h.miss i hi, h1] at h0
    cases h0

theorem unblocks_iff (L : Ledger) (b : Batch) :
    Unblocks L b i ↔ (L i).blocked = 1 ∧ (applyBatch L b i).blocked = 0 := by
  refine ⟨fun h => h.2, fun ⟨h1, h0⟩ => ⟨?_, h1, h0⟩⟩
  unfold applyBatch at h0
  cases h : capacityBatchTransition L b with
  | error s =>
    simp only [h, h1] at h0
    cases h0
  | ok r =>
    simp only [h] at h0
    cases (BatchStep.of_transition h).2.2 with
    | reserved hop hact happ => cases happ.release_of_opens h1 h0
    | settled hop hact happ => exact happ.release_of_opens h1 h0
    | refused hop hact q hq er her hne hnext =>
      rw [hnext] at h0
      by_cases hi : i = q.index
      · subst hi
        rw [Function.update_self] at h0
        cases (EntryStep.of_transition her).2.release_of_opens h1 h0
      · rw [Function.update_of_ne hi, h1] at h0
        cases h0

/-- A reservation that names an exhausted kind is refused. -/
theorem reserve_refused (hm : (L i).counterExhaustedMarker = 1)
    (hq : ∃ q ∈ b.active, q.kind = kindAt i) {r : BatchResult}
    (h : capacityBatchTransition L b = .ok r) : r.action ≠ .allReserved := by
  obtain ⟨q, hq, hk⟩ := hq
  have hi := index_kindAt q hk
  cases (BatchStep.of_transition h).2.2 with
  | refused hop hact => exact hact
  | settled hop hact happ =>
    rw [hact]
    split_ifs <;> decide
  | reserved hop hact happ =>
    exfalso
    obtain ⟨er, her, hres, -⟩ := happ.hit q hq
    cases (EntryStep.of_transition her).2 with
    | reserved hop hm0 =>
      have hm0' : (L q.index).counterExhaustedMarker = 0 := hm0
      rw [hi, hm] at hm0'
      cases hm0'
    | counterExhausted | blockSet | alreadyBlocked | committed | released | unblocked
    | epochExhausted => cases hres

/-! ### All calls -/

theorem init_valid (limits : CapacityLimits) : LedgerValid (resourceLedgerInit limits) := by
  intro i
  have hk : ∀ i, resourceKindIsKnown (kindAt i) = true := by decide
  refine ⟨rfl, hk i, .inl rfl, .inl rfl, ?_, ?_, ?_, ?_⟩
  · show (1 : UInt64) ≠ 0
    decide
  · exact le_refl 0
  · exact Nat.zero_le _
  · intro h
    cases h

theorem ledgerAfter_valid (limits : CapacityLimits) (bs : List Batch) :
    LedgerValid (ledgerAfter limits bs) := by
  induction bs using List.reverseRecOn with
  | nil => exact init_valid limits
  | append_singleton bs b ih =>
    rw [ledgerAfter_snoc]
    exact applyBatch_valid ih b

theorem ledgerAfter_limit (limits : CapacityLimits) (bs : List Batch) (i : Fin kindCount) :
    (ledgerAfter limits bs i).limit = limits i := by
  induction bs using List.reverseRecOn with
  | nil => rfl
  | append_singleton bs b ih =>
    rw [ledgerAfter_snoc, (applyBatch_evolves (ledgerAfter_valid limits bs) b i).limit_eq, ih]

/-- The totals of one kind seen along a run. -/
def totalsSeen (limits : CapacityLimits) (bs : List Batch) (i : Fin kindCount) : Set ℕ :=
  {t | ∃ p, p <+: bs ∧
    t = (ledgerAfter limits p i).used.toNat + (ledgerAfter limits p i).reserved.toNat}

theorem highWater_isGreatest (limits : CapacityLimits) (bs : List Batch) (i : Fin kindCount) :
    IsGreatest (totalsSeen limits bs i) (ledgerAfter limits bs i).highWater.toNat := by
  induction bs using List.reverseRecOn with
  | nil =>
    refine ⟨⟨[], List.prefix_refl _, rfl⟩, ?_⟩
    rintro t ⟨p, hp, rfl⟩
    rw [List.prefix_nil.1 hp]
    exact le_refl 0
  | append_singleton bs b ih =>
    have hev := applyBatch_evolves (ledgerAfter_valid limits bs) b i
    obtain ⟨⟨p, hp, heq⟩, hub⟩ := ih
    rw [ledgerAfter_snoc, hev.high_eq]
    constructor
    · -- the maximum is either the old mark or the total just reached
      rcases max_choice (ledgerAfter limits bs i).highWater.toNat
        (applyBatch (ledgerAfter limits bs) b i).total with h | h <;> rw [h]
      · exact ⟨p, List.prefix_concat_iff.2 (.inr hp), heq⟩
      · exact ⟨bs ++ [b], List.prefix_refl _, by rw [ledgerAfter_snoc]; rfl⟩
    · rintro t ⟨p', hp', rfl⟩
      rcases List.prefix_concat_iff.1 hp' with rfl | hp'
      · rw [ledgerAfter_snoc]
        exact le_max_right _ _
      · exact (hub ⟨p', hp', rfl⟩).trans (le_max_left _ _)

theorem marker_sticks (h : (ledgerAfter limits bs i).counterExhaustedMarker = 1)
    (cs : List Batch) : (ledgerAfter limits (bs ++ cs) i).counterExhaustedMarker = 1 := by
  induction cs using List.reverseRecOn with
  | nil => simpa using h
  | append_singleton cs b ih =>
    rw [← List.append_assoc, ledgerAfter_snoc]
    exact (applyBatch_evolves (ledgerAfter_valid limits _) b i).marker_keep ih

/-- **Safety of all runs.**  From a fresh ledger, after any batches: every kind stays within its
limit, its high-water mark is the maximum of the totals seen, its capacity epoch goes up by one
with each release that opens the kind and stays otherwise (an opening at the last epoch sets the
exhausted marker instead), the marker is never cleared and refuses every later reservation, and
storage corruption is only reported for requests that overdraw their entry. -/
theorem ledger_run_safe (limits : CapacityLimits) (bs : List Batch) (i : Fin kindCount) :
    (ledgerAfter limits bs i).used.toNat + (ledgerAfter limits bs i).reserved.toNat
        ≤ (limits i).toNat ∧
      IsGreatest (totalsSeen limits bs i) (ledgerAfter limits bs i).highWater.toNat ∧
      (∀ b, (ledgerAfter limits bs i).capacityEpoch
          ≤ (ledgerAfter limits (bs ++ [b]) i).capacityEpoch ∧
        (Unblocks (ledgerAfter limits bs) b i →
          (ledgerAfter limits bs i).capacityEpoch ≠ uint64Max →
          (ledgerAfter limits (bs ++ [b]) i).capacityEpoch.toNat =
            (ledgerAfter limits bs i).capacityEpoch.toNat + 1) ∧
        (Unblocks (ledgerAfter limits bs) b i →
          (ledgerAfter limits bs i).capacityEpoch = uint64Max →
          (ledgerAfter limits (bs ++ [b]) i).capacityEpoch = uint64Max ∧
            (ledgerAfter limits (bs ++ [b]) i).counterExhaustedMarker = 1) ∧
        (¬ Unblocks (ledgerAfter limits bs) b i →
          (ledgerAfter limits (bs ++ [b]) i).capacityEpoch =
              (ledgerAfter limits bs i).capacityEpoch ∧
            (ledgerAfter limits (bs ++ [b]) i).counterExhaustedMarker =
              (ledgerAfter limits bs i).counterExhaustedMarker)) ∧
      ((ledgerAfter limits bs i).counterExhaustedMarker = 1 → ∀ cs,
        (ledgerAfter limits (bs ++ cs) i).counterExhaustedMarker = 1 ∧
        ∀ b r, (∃ q ∈ b.active, q.kind = kindAt i) →
          capacityBatchTransition (ledgerAfter limits (bs ++ cs)) b = .ok r →
          r.action ≠ .allReserved) ∧
      (∀ b, capacityBatchTransition (ledgerAfter limits bs) b = .error .storageCorrupt →
        ∃ q ∈ b.active, Overdraws b.operation (ledgerAfter limits bs) q) := by
  have hL := ledgerAfter_valid limits bs
  refine ⟨?_, highWater_isGreatest limits bs i, fun b => ?_, fun hm cs => ?_, fun b hb => ?_⟩
  · rw [← ledgerAfter_limit limits bs i]
    exact (hL i).2.total_le.trans (hL i).2.high_le
  · have hev := applyBatch_evolves hL b i
    rw [ledgerAfter_snoc, unblocks_iff]
    refine ⟨hev.epoch_le, fun h he => hev.epoch_open h.1 h.2 he, fun h he => ?_, hev.epoch_keep⟩
    have := hev.epoch_exhausted h.1 h.2 he
    exact ⟨this.1.trans he, this.2⟩
  · have hm' := marker_sticks hm cs
    exact ⟨hm', fun b r hq h => reserve_refused hm' hq h⟩
  · rcases batch_error_cases hL hb with h | ⟨-, h⟩
    · cases h
    · exact h

/-! ### The last capacity epoch -/

/-- A batch with one request, about the first kind. -/
def serviceBatch (operation : BatchOperation) (request : BatchRequest) : Batch where
  operation := operation
  requestCount := 1
  requests i := if i = 0 then { request with kind := kindService } else {}

/-- Reserve one unit of the first kind. -/
def reserveOne : Batch := serviceBatch .reserveOrBlock { amount := 1 }

/-- Give the unit back and reopen the class. -/
def reopenOne : Batch := serviceBatch .release { reservedRelease := 1, reopensBlockedClass := 1 }

/-- Fill the kind, get blocked, reopen it: `n` times, and then fill and block it once more. -/
def exhaustingRun (n : ℕ) : List Batch :=
  (List.replicate n [reserveOne, reserveOne, reopenOne]).flatten ++ [reserveOne, reserveOne]

/-- A one-request batch that fits moves its entry by the transition of that request. -/
theorem applyBatch_single (hL : LedgerValid L) (hs : batchShapeIsValid b = true)
    {q : BatchRequest} (ha : b.active = [q]) {r : TransitionResult}
    (her : transitionAt b.operation L q = .ok r) : applyBatch L b q.index = r.next := by
  unfold applyBatch
  cases h : capacityBatchTransition L b with
  | error s =>
    obtain ⟨q', hq', herr⟩ := batch_error_request hL hs h
    rw [ha, List.mem_singleton] at hq'
    rw [hq', her] at herr
    cases herr
  | ok r =>
    have hmem : q ∈ b.active := by simp [ha]
    cases (BatchStep.of_transition h).2.2 with
    | reserved hop hact happ =>
      obtain ⟨r', her', -, heq⟩ := happ.hit q hmem
      rw [hop, her'] at her
      cases her
      exact heq
    | settled hop hact happ =>
      obtain ⟨r', her', -, heq⟩ := happ.hit q hmem
      rw [her'] at her
      cases her
      exact heq
    | refused hop hact q' hq' r' her' hne hnext =>
      rw [ha, List.mem_singleton] at hq'
      subst hq'
      rw [hop, her'] at her
      cases her
      exact (congrFun hnext _).trans (Function.update_self _ _ _)

/-- The entry of the first kind with limit one, empty and open. -/
def openEntry (hw epoch : UInt64) : CapacityEntry :=
  { kind := kindService, limit := 1, highWater := hw, capacityEpoch := epoch }

/-- The same entry, full. -/
def fullEntry (epoch : UInt64) (blocked : UInt32) : CapacityEntry :=
  { kind := kindService, limit := 1, reserved := 1, highWater := 1, capacityEpoch := epoch
    blocked := blocked }

theorem apply_reserveOne_open (hL : LedgerValid L) {hw e : UInt64} (h : L 0 = openEntry hw e)
    (hhw : hw = 0 ∨ hw = 1) : applyBatch L reserveOne 0 = fullEntry e 0 := by
  have hv := capacityEntryIsValid_iff.2 (hL 0).2
  have htot : checkedTotal (openEntry hw e) = some 0 :=
    checkedTotal_eq_some.2 ⟨by show 0 < 2 ^ 64; norm_num, rfl⟩
  refine applyBatch_single (q := { kind := kindService, amount := 1 }) hL (by decide) rfl
    (r := { next := fullEntry e 0, action := .reserved }) ?_
  show capacityEntryTransition (makeEntryInput .reserveOrBlock _ (L 0)) = _
  rw [h] at hv ⊢
  simp only [capacityEntryTransition, operationShapeIsValid, makeEntryInput,
    BatchOperation.entryOperation, hv, reserveOrBlock, htot]
  rcases hhw with rfl | rfl <;> simp [openEntry, fullEntry]

theorem apply_reserveOne_full (hL : LedgerValid L) {e : UInt64} (h : L 0 = fullEntry e 0) :
    applyBatch L reserveOne 0 = fullEntry e 1 := by
  have hv := capacityEntryIsValid_iff.2 (hL 0).2
  have htot : checkedTotal (fullEntry e 0) = some 1 :=
    checkedTotal_eq_some.2 ⟨by show 1 < 2 ^ 64; norm_num, rfl⟩
  refine applyBatch_single (q := { kind := kindService, amount := 1 }) hL (by decide) rfl
    (r := { next := fullEntry e 1, action := .blockSetRequired }) ?_
  show capacityEntryTransition (makeEntryInput .reserveOrBlock _ (L 0)) = _
  rw [h] at hv ⊢
  simp only [capacityEntryTransition, operationShapeIsValid, makeEntryInput,
    BatchOperation.entryOperation, hv, reserveOrBlock, htot]
  simp [fullEntry]

/-- The entry after a release that opens it. -/
def reopenedEntry (e : UInt64) : CapacityEntry :=
  if e = uint64Max then { openEntry 1 e with counterExhaustedMarker := 1 }
  else openEntry 1 (e + 1)

theorem apply_reopenOne (hL : LedgerValid L) {e : UInt64} (h : L 0 = fullEntry e 1) :
    applyBatch L reopenOne 0 = reopenedEntry e := by
  have hv := capacityEntryIsValid_iff.2 (hL 0).2
  have hsingle : ∀ er, capacityEntryTransition (makeEntryInput .release
      { kind := kindService, reservedRelease := 1, reopensBlockedClass := 1 } (L 0)) = .ok er →
      applyBatch L reopenOne 0 = er.next :=
    fun er her => applyBatch_single hL (by decide)
      (q := { kind := kindService, reservedRelease := 1, reopensBlockedClass := 1 }) rfl her
  rw [h] at hv hsingle
  by_cases he : e = uint64Max
  · subst he
    exact hsingle _ rfl
  · have hbeq : (e == uint64Max) = false := beq_false_of_ne he
    refine (hsingle { next := openEntry 1 (e + 1), action := .releasedAndUnblocked } ?_).trans
      (if_neg he).symm
    simp only [capacityEntryTransition, operationShapeIsValid, makeEntryInput,
      BatchOperation.entryOperation, hv, releaseCapacity]
    simp only [fullEntry, hbeq]
    rfl

theorem cycles_epoch (n : ℕ) (hn : n < 2 ^ 64 - 1) :
    ∃ hw : UInt64, (hw = 0 ∨ hw = 1) ∧
      ledgerAfter (fun _ => 1) (List.replicate n [reserveOne, reserveOne, reopenOne]).flatten 0 =
        openEntry hw (UInt64.ofNat (n + 1)) := by
  induction n with
  | zero => exact ⟨0, .inl rfl, rfl⟩
  | succ n ih =>
    obtain ⟨hw, hhw, h⟩ := ih (by omega)
    refine ⟨1, .inr rfl, ?_⟩
    rw [List.replicate_succ', List.flatten_append, List.flatten_singleton]
    have h0 := ledgerAfter_valid (fun _ => 1)
      (List.replicate n [reserveOne, reserveOne, reopenOne]).flatten
    have h1 := apply_reserveOne_open h0 h hhw
    have h2 := apply_reserveOne_full (applyBatch_valid h0 _) h1
    have h3 := apply_reopenOne (applyBatch_valid (applyBatch_valid h0 _) _) h2
    have hne : UInt64.ofNat (n + 1) ≠ uint64Max := by
      intro heq
      have := congrArg UInt64.toNat heq
      rw [UInt64.toNat_ofNat', uint64_toNat_max] at this
      omega
    rw [reopenedEntry, if_neg hne] at h3
    rw [ledgerAfter, List.foldl_append]
    exact h3.trans (by rw [UInt64.ofNat_add (n + 1) 1]; rfl)

theorem exhaustingRun_blocked (n : ℕ) (hn : n < 2 ^ 64 - 1) :
    ledgerAfter (fun _ => 1) (exhaustingRun n) 0 = fullEntry (UInt64.ofNat (n + 1)) 1 := by
  obtain ⟨hw, hhw, h⟩ := cycles_epoch n hn
  have h0 := ledgerAfter_valid (fun _ => 1)
    (List.replicate n [reserveOne, reserveOne, reopenOne]).flatten
  have h1 := apply_reserveOne_open h0 h hhw
  rw [exhaustingRun, ledgerAfter, List.foldl_append]
  exact apply_reserveOne_full (applyBatch_valid h0 _) h1

/-- After `2 ^ 64 - 2` cycles a release still opens the first kind, and the epoch, at its last
value, does not move. -/
theorem epoch_stays_at_last_value :
    Unblocks (ledgerAfter (fun _ => 1) (exhaustingRun (2 ^ 64 - 2))) reopenOne 0 ∧
      (ledgerAfter (fun _ => 1) (exhaustingRun (2 ^ 64 - 2) ++ [reopenOne]) 0).capacityEpoch.toNat ≠
        (ledgerAfter (fun _ => 1) (exhaustingRun (2 ^ 64 - 2)) 0).capacityEpoch.toNat + 1 := by
  have h := exhaustingRun_blocked (2 ^ 64 - 2) (by norm_num)
  generalize exhaustingRun (2 ^ 64 - 2) = bs at h ⊢
  have h' := apply_reopenOne (ledgerAfter_valid (fun _ => 1) bs) h
  rw [ledgerAfter_snoc, unblocks_iff, h, h']
  decide

end Ninlil.Resource
