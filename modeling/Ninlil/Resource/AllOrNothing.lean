import Ninlil.Resource.Runs

/-!
# A batch is applied as a whole or not at all

What a caller of `capacityBatchTransition` can rely on when a batch fails, and when it undoes a
batch that succeeded.

* `reserveLoop_outcome`: a reservation loop always answers, and says where it stopped;
* `MaskOf`: the changed-kind mask names the entries that differ from the input, and no others;
* `release_restores`: releasing what a batch has reserved brings the amounts back;
* `batch_all_or_nothing`: these together, for every valid ledger and every well-shaped batch.
-/

namespace Ninlil.Resource

/-- The zeroed result of a failed call. -/
def zeroBatchResult : BatchResult := { next := fun _ => {} }

/-- The call as the C function returns it: a status, and the result behind the pointer. -/
def capacityBatchCall (current : Ledger) (batch : Batch) : Status × BatchResult :=
  match capacityBatchTransition current batch with
  | .ok result => (.ok, result)
  | .error status => (status, zeroBatchResult)

variable {op : BatchOperation} {L L' : Ledger} {q : BatchRequest} {qs done : List BatchRequest}

/-! ### Well-shaped requests -/

theorem operationShape_of_request {e : CapacityEntry} (h : requestShapeIsValid q op = true) :
    operationShapeIsValid (makeEntryInput op q e) = true := by
  unfold requestShapeIsValid at h
  split_ifs at h with hk
  cases op with
  | reserveOrBlock | commitReserved =>
    simp only [Bool.and_eq_true, beq_iff_eq] at h
    simp [operationShapeIsValid, makeEntryInput, BatchOperation.entryOperation, h.1.1.1, h.1.1.2,
      h.1.2, h.2]
  | release =>
    simp only [Bool.and_eq_true, beq_iff_eq] at h
    simp only [operationShapeIsValid, makeEntryInput, BatchOperation.entryOperation, h.1.1,
      h.1.2, h.2, beq_self_eq_true, Bool.and_self]
  | unknown code => cases h

theorem transitionAt_shaped (hL : LedgerValid L) (h : requestShapeIsValid q op = true) :
    transitionAt op L q =
      match op with
      | .reserveOrBlock => reserveOrBlock (makeEntryInput .reserveOrBlock q (L q.index))
      | .commitReserved => commitReserved (makeEntryInput .commitReserved q (L q.index))
      | .release => releaseCapacity (makeEntryInput .release q (L q.index))
      | .unknown _ => .error .invalidArgument := by
  have hv : capacityEntryIsValid (makeEntryInput op q (L q.index)).current = true :=
    capacityEntryIsValid_iff.2 (hL q.index).2
  show capacityEntryTransition (makeEntryInput op q (L q.index)) = _
  rw [capacityEntryTransition, operationShape_of_request h, hv]
  cases op <;> rfl

/-- A well-shaped reservation is always answered. -/
theorem reserve_answered (hL : LedgerValid L) (h : requestShapeIsValid q .reserveOrBlock = true) :
    ∃ er, transitionAt .reserveOrBlock L q = .ok er := by
  cases her : transitionAt .reserveOrBlock L q with
  | ok er => exact ⟨er, rfl⟩
  | error s =>
    rw [transitionAt_shaped hL h] at her
    exact absurd her (reserveOrBlock_ne_error (hL q.index).2)

/-! ### The mask of changed kinds -/

/-- The mask has exactly the bits of the entries that differ between the two ledgers. -/
def MaskOf (mask : UInt32) (L L' : Ledger) : Prop :=
  ∀ k, mask.toNat.testBit k = true ↔ ∃ h : k < kindCount, L' ⟨k, h⟩ ≠ L ⟨k, h⟩

theorem kindMask_testBit (h1 : 1 ≤ q.kind.toNat) (h11 : q.kind.toNat ≤ 11) (k : ℕ) :
    (kindMask q.kind).toNat.testBit k = true ↔ k = q.index.val := by
  have hk : (q.kind - 1).toNat = q.kind.toNat - 1 :=
    UInt32.toNat_sub_of_le _ _ (by rw [UInt32.le_iff_toNat_le]; exact h1)
  have hlt : 2 ^ (q.kind.toNat - 1) < 2 ^ 32 := Nat.pow_lt_pow_right (by norm_num) (by omega)
  rw [kindMask, UInt32.toNat_shiftLeft, hk, Nat.mod_eq_of_lt (by omega : q.kind.toNat - 1 < 32),
    UInt32.toNat_one, Nat.one_shiftLeft, Nat.mod_eq_of_lt hlt, Nat.testBit_two_pow,
    decide_eq_true_eq, index_val h11 h1]
  exact eq_comm

theorem joinedMask_testBit {mask : UInt32}
    (hqs : ∀ q ∈ qs, 1 ≤ q.kind.toNat ∧ q.kind.toNat ≤ 11) (k : ℕ) :
    (qs.foldl (fun mask request => mask ||| kindMask request.kind) mask).toNat.testBit k = true ↔
      mask.toNat.testBit k = true ∨ ∃ q ∈ qs, k = q.index.val := by
  induction qs generalizing mask with
  | nil => simp
  | cons q qs ih =>
    have hq := hqs q (by simp)
    rw [List.foldl_cons, ih (fun q' hq' => hqs q' (by simp [hq'])), UInt32.toNat_or,
      Nat.testBit_or, Bool.or_eq_true, kindMask_testBit hq.1 hq.2, or_assoc]
    simp only [List.mem_cons, exists_eq_or_imp]

/-- Requests that each change their own entry are the ones in the joined mask. -/
theorem maskOf_applied {P : CapacityAction → Prop} (happ : Applied op P qs L L')
    (hqs : ∀ q ∈ qs, 1 ≤ q.kind.toNat ∧ q.kind.toNat ≤ 11)
    (hne : ∀ q ∈ qs, L' q.index ≠ L q.index) : MaskOf (changedMask qs) L L' := by
  intro k
  rw [changedMask, joinedMask_testBit hqs]
  simp only [UInt32.toNat_zero, Nat.zero_testBit, Bool.false_eq_true, false_or]
  constructor
  · rintro ⟨q, hq, rfl⟩
    exact ⟨q.index.isLt, hne q hq⟩
  · rintro ⟨h, hdiff⟩
    by_contra hnone
    refine hdiff (happ.miss ⟨k, h⟩ fun hmem => ?_)
    obtain ⟨q, hq, heq⟩ := List.mem_map.1 hmem
    exact hnone ⟨q, hq, (congrArg Fin.val heq).symm⟩

theorem maskOf_unchanged : MaskOf 0 L L := by
  intro k
  simp

theorem maskOf_update (h1 : 1 ≤ q.kind.toNat) (h11 : q.kind.toNat ≤ 11) {e : CapacityEntry}
    (hne : e ≠ L q.index) : MaskOf (kindMask q.kind) L (Function.update L q.index e) := by
  intro k
  rw [kindMask_testBit h1 h11]
  constructor
  · rintro rfl
    exact ⟨q.index.isLt, by simpa using hne⟩
  · rintro ⟨h, hdiff⟩
    by_contra hk
    exact hdiff (Function.update_of_ne (fun heq => hk (congrArg Fin.val heq)) _ _)

/-- A transition with a positive amount that is not refused moves its entry. -/
theorem EntryStep.next_ne {input : TransitionInput} {r : TransitionResult}
    (hv : input.current.Valid) (h : EntryStep input r)
    (hshape : operationShapeIsValid input = true) (ha : r.action ≠ .alreadyBlocked)
    (hc : r.action ≠ .counterExhausted) : r.next ≠ input.current := by
  have ht := hv.total_le
  have hh := hv.high_le
  have hlim := input.current.limit.toNat_lt
  have htot : input.current.total = input.current.used.toNat + input.current.reserved.toNat := rfl
  intro heq
  have hused := congrArg (fun e : CapacityEntry => e.used.toNat) heq
  have hres := congrArg (fun e : CapacityEntry => e.reserved.toNat) heq
  have hblk := congrArg (fun e : CapacityEntry => e.blocked) heq
  unfold operationShapeIsValid at hshape
  cases h with
  | counterExhausted => exact hc rfl
  | alreadyBlocked => exact ha rfl
  | blockSet hop hm hfull hb =>
    simp only [hb] at hblk
    cases hblk
  | reserved hop hm hfit hw hhw =>
    simp only [hop, Bool.and_eq_true, gt_iff_lt, decide_eq_true_eq, UInt64.lt_iff_toNat_lt,
      UInt64.toNat_zero] at hshape
    simp only at hres
    rw [toNat_add_of_toNat_lt (by omega)] at hres
    omega
  | committed hop hle =>
    simp only [hop, Bool.and_eq_true, gt_iff_lt, decide_eq_true_eq, UInt64.lt_iff_toNat_lt,
      UInt64.toNat_zero] at hshape
    simp only at hres
    rw [toNat_sub_of_toNat_le hle] at hres
    omega
  | released hop hu hr | unblocked hop hu hr | epochExhausted hop hu hr =>
    simp only [hop, Bool.and_eq_true, Bool.or_eq_true, gt_iff_lt, decide_eq_true_eq,
      UInt64.lt_iff_toNat_lt, UInt64.toNat_zero] at hshape
    simp only at hused hres
    rw [toNat_sub_of_toNat_le hu] at hused
    rw [toNat_sub_of_toNat_le hr] at hres
    omega

variable {er : TransitionResult}

theorem next_ne_of_transitionAt (hL : LedgerValid L) (hq : requestShapeIsValid q op = true)
    (her : transitionAt op L q = .ok er)
    (ha : er.action ≠ .alreadyBlocked) (hc : er.action ≠ .counterExhausted) :
    er.next ≠ L q.index :=
  (EntryStep.of_transition her).2.next_ne (hL q.index).2 (operationShape_of_request hq) ha hc

/-! ### Reservation loops -/

/-- The entry of `q` has room for it: its reservation on `L` succeeds. -/
def Fits (L : Ledger) (q : BatchRequest) : Prop :=
  ∃ er, transitionAt .reserveOrBlock L q = .ok er ∧ er.action = .reserved

/-- All requests have been reserved, each on its own entry of `L`. -/
structure AllReserved (L : Ledger) (qs : List BatchRequest) (r : BatchResult) : Prop where
  action_eq : r.action = .allReserved
  applied : Applied .reserveOrBlock (· = .reserved) qs L r.next
  mask_eq : r.changedKindMask = changedMask qs

/-- The request `q` behind `pre` did not fit, and only its blocked flag may have moved. -/
structure RefusedAt (L : Ledger) (pre : List BatchRequest) (q : BatchRequest)
    (r : BatchResult) : Prop where
  action_ne : r.action ≠ .allReserved
  fits_before : ∀ p ∈ pre, Fits L p
  not_fits : ¬ Fits L q
  kind_eq : r.failingKind = q.kind
  next_eq : r.next = L ∧ r.changedKindMask = 0 ∨
    (L q.index).blocked = 0 ∧ r.changedKindMask = kindMask q.kind ∧
      r.next = Function.update L q.index { L q.index with blocked := 1 }

theorem Applied.fits (h : Applied .reserveOrBlock (· = .reserved) qs L L') :
    ∀ q ∈ qs, Fits L q := by
  intro q hq
  obtain ⟨er, her, hact, -⟩ := h.hit q hq
  exact ⟨er, her, hact⟩

/-- The failure branch, after the requests `done` have been applied. -/
theorem reserveFailure_outcome
    (hdone : Applied .reserveOrBlock (· = .reserved) done L L')
    (her : transitionAt .reserveOrBlock L q = .ok er) (hact : er.action ≠ .reserved) :
    ∃ r, reserveFailure L L' done q er = .ok r ∧ RefusedAt L done.reverse q r := by
  have hpre : ∀ p ∈ done.reverse, Fits L p := fun p hp => hdone.fits p (List.mem_reverse.1 hp)
  have hnot : ¬ Fits L q := by
    rintro ⟨er', her', hact'⟩
    rw [her] at her'
    cases her'
    exact hact hact'
  have hroll := rollBack_applied hdone
  unfold reserveFailure
  cases (EntryStep.of_transition her).2 with
  | reserved => exact absurd rfl hact
  | blockSet hop hm hfull hb =>
    exact ⟨_, rfl, by simp, hpre, hnot, rfl, .inr ⟨hb, rfl, by simp only [hroll]; rfl⟩⟩
  | alreadyBlocked | counterExhausted =>
    exact ⟨_, rfl, by simp, hpre, hnot, rfl, .inl ⟨hroll, rfl⟩⟩
  | committed hop => cases hop
  | released hop | unblocked hop | epochExhausted hop => cases hop

/-- **A reservation loop always answers**: it has reserved everything, or it has stopped at the
first request that does not fit with the ledger rolled back. -/
theorem reserveLoop_outcome (hL : LedgerValid L)
    (hdone : Applied .reserveOrBlock (· = .reserved) done L L')
    (hnd : ((done.reverse ++ qs).map BatchRequest.index).Nodup)
    (hqs : ∀ q ∈ qs, requestShapeIsValid q .reserveOrBlock = true) :
    ∃ r, reserveLoop L L' done qs = .ok r ∧
      (AllReserved L (done.reverse ++ qs) r ∨
        ∃ pre q post, qs = pre ++ q :: post ∧ RefusedAt L (done.reverse ++ pre) q r) := by
  induction qs generalizing L' done with
  | nil => exact ⟨_, rfl, .inl ⟨rfl, hdone.perm (by simp), by simp⟩⟩
  | cons q qs ih =>
    have hq := index_not_mem_done hnd
    obtain ⟨er, her⟩ := reserve_answered hL (hqs q (by simp))
    have her' : transitionAt .reserveOrBlock L' q = .ok er := by
      rw [transitionAt_congr (hdone.miss _ hq)]
      exact her
    simp only [reserveLoop, her']
    split_ifs with hact
    · obtain ⟨r, hr, hout⟩ := ih (hdone.snoc hq her' hact) (nodup_snoc_done hnd)
        (fun q' hq' => hqs q' (by simp [hq']))
      refine ⟨r, hr, ?_⟩
      rcases hout with hall | ⟨pre, q', post, rfl, href⟩
      · exact .inl (by simpa using hall)
      · exact .inr ⟨q :: pre, q', post, rfl, by simpa using href⟩
    · obtain ⟨r, hr, href⟩ := reserveFailure_outcome hdone her hact
      exact ⟨r, hr, .inr ⟨[], q, qs, rfl, by simpa using href⟩⟩

/-! ### Commit and release loops -/

theorem commitOrReleaseLoop_mask {r result : BatchResult}
    (h : commitOrReleaseLoop op result qs = .ok r) :
    r.changedKindMask =
      qs.foldl (fun mask request => mask ||| kindMask request.kind) result.changedKindMask := by
  induction qs generalizing result with
  | nil =>
    cases h
    rfl
  | cons q qs ih =>
    simp only [commitOrReleaseLoop] at h
    cases her : transitionAt op result.next q with
    | error s =>
      rw [her] at h
      cases h
    | ok er =>
      simp only [her] at h
      by_cases hact : expectedAction op er.action = true
      · simp only [hact, Bool.not_true, Bool.false_eq_true, if_false] at h
        exact ih h
      · simp [hact] at h

theorem expectedAction_ne {action : CapacityAction} (hset : op = .commitReserved ∨ op = .release)
    (h : expectedAction op action = true) :
    action ≠ .alreadyBlocked ∧ action ≠ .counterExhausted := by
  rcases hset with rfl | rfl <;> cases action <;>
    first | exact absurd h (by decide) | exact ⟨by decide, by decide⟩

/-! ### Giving a reservation back -/

/-- The release request gives back what the reservation request took. -/
structure GivesBack (q q' : BatchRequest) : Prop where
  kind_eq : q'.kind = q.kind
  used_eq : q'.usedRelease = 0
  reserved_eq : q'.reservedRelease = q.amount

variable {qs' : List BatchRequest}

theorem GivesBack.index_eq {q' : BatchRequest} (h : GivesBack q q') : q'.index = q.index := by
  rw [BatchRequest.index, h.kind_eq, BatchRequest.index]

theorem givesBack_source (h : List.Forall₂ GivesBack qs qs') :
    ∀ q' ∈ qs', ∃ q ∈ qs, GivesBack q q' := by
  induction h with
  | nil => simp
  | cons hq _ ih =>
    intro q' hq'
    rcases List.mem_cons.1 hq' with rfl | hq'
    · exact ⟨_, by simp, hq⟩
    · obtain ⟨q, hmem, hg⟩ := ih q' hq'
      exact ⟨q, by simp [hmem], hg⟩

theorem givesBack_indices (h : List.Forall₂ GivesBack qs qs') :
    qs'.map BatchRequest.index = qs.map BatchRequest.index := by
  induction h with
  | nil => rfl
  | cons hq _ ih => rw [List.map_cons, List.map_cons, hq.index_eq, ih]

/-- What a reserved entry has gained. -/
theorem reserved_amounts (hL : LedgerValid L)
    (her : transitionAt .reserveOrBlock L q = .ok er) (hact : er.action = .reserved) :
    er.next.used = (L q.index).used ∧ er.next.reserved = (L q.index).reserved + q.amount ∧
      er.next.reserved.toNat = (L q.index).reserved.toNat + q.amount.toNat := by
  have ht := (hL q.index).2.total_le
  have hh := (hL q.index).2.high_le
  have hlim := (L q.index).limit.toNat_lt
  have htot : (L q.index).total = (L q.index).used.toNat + (L q.index).reserved.toNat := rfl
  cases (EntryStep.of_transition her).2 with
  | reserved hop hm hfit hw hhw =>
    have hfit' : (L q.index).total + q.amount.toNat ≤ (L q.index).limit.toNat := hfit
    have hadd : ((L q.index).reserved + q.amount).toNat =
        (L q.index).reserved.toNat + q.amount.toNat := toNat_add_of_toNat_lt (by omega)
    exact ⟨rfl, rfl, hadd⟩
  | counterExhausted | blockSet | alreadyBlocked | committed | released | unblocked
  | epochExhausted => cases hact

/-- What a release leaves of its entry. -/
theorem released_amounts (her : transitionAt .release L q = .ok er) :
    er.next.used = (L q.index).used - q.usedRelease ∧
      er.next.reserved = (L q.index).reserved - q.reservedRelease := by
  cases (EntryStep.of_transition her).2 with
  | released | unblocked | epochExhausted => exact ⟨rfl, rfl⟩
  | reserved hop | blockSet hop | alreadyBlocked hop | counterExhausted hop | committed hop =>
    cases hop

/-- A release that stays within its entry is accepted. -/
theorem release_accepted (hL : LedgerValid L) (hq : requestShapeIsValid q .release = true)
    (hu : q.usedRelease.toNat ≤ (L q.index).used.toNat)
    (hr : q.reservedRelease.toNat ≤ (L q.index).reserved.toNat) :
    ∃ er, transitionAt .release L q = .ok er := by
  cases her : transitionAt .release L q with
  | ok er => exact ⟨er, rfl⟩
  | error s =>
    rw [transitionAt_shaped hL hq] at her
    simp only [releaseCapacity, gt_iff_lt] at her
    split_ifs at her with hover
    simp only [makeEntryInput, Bool.or_eq_true, decide_eq_true_eq, UInt64.lt_iff_toNat_lt] at hover
    omega

/-- **Releasing what a batch has reserved brings every amount back.** -/
theorem release_restores {b : Batch} (hL : LedgerValid L) (hL' : LedgerValid L')
    (happ : Applied .reserveOrBlock (· = .reserved) qs L L') (hs : batchShapeIsValid b = true)
    (hop : b.operation = .release) (hback : List.Forall₂ GivesBack qs b.active) :
    ∃ r, capacityBatchTransition L' b = .ok r ∧
      ∀ i, (r.next i).used = (L i).used ∧ (r.next i).reserved = (L i).reserved := by
  have hshape := activeShape_forall (batchShape_active hs)
  -- the entry of each release request holds at least what the reservation added
  have hentry : ∀ q' ∈ b.active, (L' q'.index).used = (L q'.index).used ∧
      (L' q'.index).reserved = (L q'.index).reserved + q'.reservedRelease ∧
      q'.usedRelease = 0 ∧ q'.reservedRelease.toNat ≤ (L' q'.index).reserved.toNat := by
    intro q' hq'
    obtain ⟨q, hq, hg⟩ := givesBack_source hback q' hq'
    obtain ⟨er, her, hact, hnext⟩ := happ.hit q hq
    obtain ⟨hu, hr, hn⟩ := reserved_amounts hL her hact
    rw [hg.index_eq, hnext, hg.reserved_eq]
    exact ⟨hu, hr, hg.used_eq, by omega⟩
  cases hcall : capacityBatchTransition L' b with
  | error s =>
    exfalso
    obtain ⟨q', hq', herr⟩ := batch_error_request hL' hs hcall
    obtain ⟨-, -, hu, hr⟩ := hentry q' hq'
    have hq := (hshape q' hq').1
    rw [hop] at hq herr
    obtain ⟨er, her⟩ := release_accepted hL' hq (by rw [hu]; exact Nat.zero_le _) hr
    rw [her] at herr
    cases herr
  | ok r =>
    refine ⟨r, rfl, ?_⟩
    cases (BatchStep.of_transition hcall).2.2 with
    | reserved hop' => rw [hop] at hop'; cases hop'
    | refused hop' => rw [hop] at hop'; cases hop'
    | settled _ _ hset =>
      intro i
      by_cases hi : i ∈ b.active.map BatchRequest.index
      · obtain ⟨q', hq', rfl⟩ := List.mem_map.1 hi
        obtain ⟨er, her, -, hnext⟩ := hset.hit q' hq'
        rw [hop] at her
        obtain ⟨hu, hr⟩ := released_amounts her
        obtain ⟨hu', hr', h0, -⟩ := hentry q' hq'
        rw [hnext, hu, hr, hu', hr', h0]
        exact ⟨by simp, by simp⟩
      · rw [hset.miss i hi]
        rw [givesBack_indices hback] at hi
        rw [happ.miss i hi]
        exact ⟨rfl, rfl⟩

/-! ### The whole call -/

theorem call_ok_iff {b : Batch} {r : BatchResult} (hL : LedgerValid L) :
    capacityBatchCall L b = (.ok, r) ↔ capacityBatchTransition L b = .ok r := by
  unfold capacityBatchCall
  cases h : capacityBatchTransition L b with
  | ok r' => simp
  | error s =>
    have hne : s ≠ .ok := by
      rcases batch_error_cases hL h with h | ⟨h, -⟩ <;> simp [h]
    simp [hne]

/-- The mask of an accepted batch names the entries it has changed. -/
theorem maskOf_transition {b : Batch} {r : BatchResult}
    (h : capacityBatchTransition L b = .ok r) : MaskOf r.changedKindMask L r.next := by
  obtain ⟨hs, hL, -⟩ := BatchStep.of_transition h
  have hnd := activeShape_nodup (batchShape_active hs)
  have hshape := fun q hq => (activeShape_forall (batchShape_active hs) q hq).1
  have hkind := fun q hq => requestShape_kind (hshape q hq)
  obtain ⟨view, hp⟩ := project_ok_iff.2 hL
  simp only [capacityBatchTransition, hs, hp, Bool.not_true, Bool.false_eq_true, if_false] at h
  split_ifs at h with hop
  · rw [hop] at hshape
    obtain ⟨r', hr', hout⟩ := reserveLoop_outcome hL .nil (by simpa using hnd) hshape
    rw [h] at hr'
    cases hr'
    rcases hout with hall | ⟨pre, q, post, hsplit, href⟩
    · have happ := hall.applied
      rw [hall.mask_eq]
      refine maskOf_applied happ hkind fun q hq => ?_
      obtain ⟨er, her, hact, hnext⟩ := happ.hit q hq
      rw [hnext]
      exact next_ne_of_transitionAt hL (hshape q hq) her (by simp [hact]) (by simp [hact])
    · have hq := hkind q (by rw [hsplit]; simp)
      rcases href.next_eq with ⟨h1, h2⟩ | ⟨hb, h1, h2⟩
      · rw [h1, h2]
        exact maskOf_unchanged
      · rw [h1, h2]
        refine maskOf_update hq.1 hq.2 fun heq => ?_
        have hblk := congrArg CapacityEntry.blocked heq
        rw [hb] at hblk
        cases hblk
  · have hset := settling_of_ne_reserve (batchShape_operation hs) hop
    have happ := (commitOrReleaseLoop_spec .nil (by simpa using hnd) h).1
    rw [commitOrReleaseLoop_mask h]
    refine maskOf_applied (by simpa using happ) hkind fun q hq => ?_
    obtain ⟨er, her, hact, hnext⟩ := happ.hit q (by simpa using hq)
    obtain ⟨hne1, hne2⟩ := expectedAction_ne hset hact
    rw [hnext]
    exact next_ne_of_transitionAt hL (hshape q hq) her hne1 hne2

/-- **A batch is applied as a whole or not at all.**  On a valid ledger and a well-shaped batch:
a reservation batch is always answered, either with every request reserved on its own entry, or
with the ledger as it was but for the blocked flag of the first request that does not fit; a
commit or release batch is applied to every request or fails with a zeroed result; the mask of
changed kinds names exactly the entries that differ from the input; and after a reservation
batch that succeeded, a release of the same amounts brings every used and reserved amount back. -/
theorem batch_all_or_nothing {L : Ledger} {b : Batch} (hL : LedgerValid L)
    (hs : batchShapeIsValid b = true) :
    (b.operation = .reserveOrBlock → ∃ r, capacityBatchCall L b = (.ok, r) ∧
      ((r.action = .allReserved ∧
          Applied .reserveOrBlock (· = .reserved) b.active L r.next ∧
          ∀ q ∈ b.active, (r.next q.index).used = (L q.index).used ∧
            (r.next q.index).reserved.toNat = (L q.index).reserved.toNat + q.amount.toNat) ∨
        (r.action ≠ .allReserved ∧
          ∃ pre q post, b.active = pre ++ q :: post ∧ (∀ p ∈ pre, Fits L p) ∧ ¬ Fits L q ∧
            r.failingKind = q.kind ∧
            ∃ blocked, r.next = Function.update L q.index { L q.index with blocked := blocked }))) ∧
      (b.operation = .commitReserved ∨ b.operation = .release →
        (∃ r, capacityBatchCall L b = (.ok, r) ∧
          Applied b.operation (expectedAction b.operation · = true) b.active L r.next) ∨
        ∃ status, status ≠ .ok ∧ capacityBatchCall L b = (status, zeroBatchResult)) ∧
      (∀ r, capacityBatchCall L b = (.ok, r) → MaskOf r.changedKindMask L r.next) ∧
      (∀ r, capacityBatchCall L b = (.ok, r) → r.action = .allReserved →
        ∀ b' : Batch, batchShapeIsValid b' = true → b'.operation = .release →
          List.Forall₂ GivesBack b.active b'.active →
          ∃ r', capacityBatchCall r.next b' = (.ok, r') ∧
            ∀ i, (r'.next i).used = (L i).used ∧ (r'.next i).reserved = (L i).reserved) := by
  refine ⟨fun hop => ?_, fun hset => ?_, fun r hr => ?_, fun r hr hact b' hs' hop' hback => ?_⟩
  · have hnd := activeShape_nodup (batchShape_active hs)
    have hshape := fun q hq => (activeShape_forall (batchShape_active hs) q hq).1
    rw [hop] at hshape
    obtain ⟨r, hr, hout⟩ := reserveLoop_outcome hL .nil (by simpa using hnd) hshape
    obtain ⟨view, hp⟩ := project_ok_iff.2 hL
    have hcall : capacityBatchTransition L b = .ok r := by
      simpa only [capacityBatchTransition, hs, hp, hop, Bool.not_true, Bool.false_eq_true, if_false,
        if_true] using hr
    refine ⟨r, (call_ok_iff hL).2 hcall, ?_⟩
    rcases hout with hall | ⟨pre, q, post, hsplit, href⟩
    · refine .inl ⟨hall.action_eq, hall.applied, fun q hq => ?_⟩
      obtain ⟨er, her, hact, hnext⟩ := hall.applied.hit q hq
      obtain ⟨hu, -, hn⟩ := reserved_amounts hL her hact
      rw [hnext]
      exact ⟨hu, hn⟩
    · refine .inr ⟨href.action_ne, pre, q, post, hsplit, href.fits_before, href.not_fits,
        href.kind_eq, ?_⟩
      rcases href.next_eq with ⟨h1, -⟩ | ⟨-, -, h1⟩
      · exact ⟨(L q.index).blocked, by rw [h1]; exact (Function.update_eq_self _ _).symm⟩
      · exact ⟨1, h1⟩
  · cases h : capacityBatchTransition L b with
    | error s =>
      refine .inr ⟨s, ?_, by simp only [capacityBatchCall, h]⟩
      rcases batch_error_cases hL h with h | ⟨h, -⟩ <;> simp [h]
    | ok r =>
      refine .inl ⟨r, (call_ok_iff hL).2 h, ?_⟩
      cases (BatchStep.of_transition h).2.2 with
      | settled _ _ happ => exact happ
      | reserved hop | refused hop => rcases hset with h' | h' <;> rw [hop] at h' <;> cases h'
  · exact maskOf_transition ((call_ok_iff hL).1 hr)
  · have hcall := (call_ok_iff hL).1 hr
    have hstep := (BatchStep.of_transition hcall).2.2
    have hL' : LedgerValid r.next := fun i =>
      ⟨(hstep.evolves hL i).kind_eq.trans (hL i).1, (hstep.evolves hL i).valid⟩
    cases hstep with
    | reserved _ _ happ =>
      obtain ⟨r', hr', hback'⟩ := release_restores hL hL' happ hs' hop' hback
      exact ⟨r', (call_ok_iff hL').2 hr', hback'⟩
    | refused _ hne => exact absurd hact hne
    | settled _ hact' =>
      rw [hact] at hact'
      split_ifs at hact'

/-- Three units of two kinds, reserved on a ledger with room for four of each. -/
def reserveTwoKinds : Batch where
  operation := .reserveOrBlock
  requestCount := 2
  requests i :=
    if i = 0 then { kind := kindService, amount := 3 }
    else if i = 1 then { kind := kindTarget, amount := 3 } else {}

theorem batch_all_or_nothing_two_kinds :
    ∃ r, capacityBatchCall (resourceLedgerInit fun _ => 4) reserveTwoKinds = (.ok, r) ∧
      MaskOf r.changedKindMask (resourceLedgerInit fun _ => 4) r.next := by
  have h := batch_all_or_nothing (init_valid fun _ => 4)
    (show batchShapeIsValid reserveTwoKinds = true by decide)
  obtain ⟨r, hr, -⟩ := h.1 rfl
  exact ⟨r, hr, h.2.2.1 r hr⟩

end Ninlil.Resource
