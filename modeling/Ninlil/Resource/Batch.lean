import Ninlil.Resource.Entry

/-!
# What one batch can do

The requests of a well-shaped batch name distinct kinds, so each entry is moved at most once and
always from its value in the input ledger.

* `Applied`: all requests of a list have been applied, each to its own entry;
* `reserveLoop_spec`, `commitOrReleaseLoop_spec`: what an accepted loop has done;
* `BatchStep.of_transition`: the inversion of `capacityBatchTransition`;
* `batch_error_cases`: where a rejection comes from when the input ledger is valid.
-/

namespace Ninlil.Resource

open Function (update update_of_ne update_self update_eq_self)

/-- A ledger that passes the projection. -/
def LedgerValid (ledger : Ledger) : Prop := ∀ i, (ledger i).kind = kindAt i ∧ (ledger i).Valid

theorem project_ok_iff {ledger : Ledger} :
    (∃ view, resourceLedgerProject ledger = .ok view) ↔ LedgerValid ledger := by
  have hiff : (∀ i, (ledger i).kind = kindAt i ∧ capacityEntryIsValid (ledger i) = true) ↔
      LedgerValid ledger := by
    simp only [capacityEntryIsValid_iff, LedgerValid]
  unfold resourceLedgerProject
  split_ifs with h
  · exact ⟨fun _ => hiff.1 h, fun _ => ⟨_, rfl⟩⟩
  · exact ⟨fun ⟨_, hv⟩ => (by cases hv), fun hv => absurd (hiff.2 hv) h⟩

/-! ### The requests of a well-shaped batch -/

/-- The entry a request is about. -/
def BatchRequest.index (q : BatchRequest) : Fin kindCount := entryIndex q.kind

theorem requestShape_kind {q : BatchRequest} {op : BatchOperation}
    (h : requestShapeIsValid q op = true) : 1 ≤ q.kind.toNat ∧ q.kind.toNat ≤ 11 := by
  unfold requestShapeIsValid at h
  split_ifs at h with hk
  simp only [Bool.or_eq_true, decide_eq_true_eq, not_or, UInt32.not_lt, gt_iff_lt,
    UInt32.le_iff_toNat_le] at hk
  exact hk

theorem index_val {q : BatchRequest} (h : q.kind.toNat ≤ 11) (h1 : 1 ≤ q.kind.toNat) :
    q.index.val = q.kind.toNat - 1 := by
  show (q.kind.toNat - 1) % 11 = _
  omega

theorem activeShape_forall {op : BatchOperation} {qs : List BatchRequest} {k : UInt32}
    (h : activeShapeIsValid op k qs = true) :
    ∀ q ∈ qs, requestShapeIsValid q op = true ∧ k.toNat < q.kind.toNat := by
  induction qs generalizing k with
  | nil => simp
  | cons q qs ih =>
    simp only [activeShapeIsValid, Bool.and_eq_true, decide_eq_true_eq,
      UInt32.lt_iff_toNat_lt] at h
    intro q' hq'
    rcases List.mem_cons.1 hq' with rfl | hq'
    · exact h.1
    · have := ih h.2 q' hq'
      exact ⟨this.1, h.1.2.trans this.2⟩

theorem activeShape_nodup {op : BatchOperation} {qs : List BatchRequest} {k : UInt32}
    (h : activeShapeIsValid op k qs = true) : (qs.map BatchRequest.index).Nodup := by
  induction qs generalizing k with
  | nil => simp
  | cons q qs ih =>
    have hall := activeShape_forall h
    simp only [activeShapeIsValid, Bool.and_eq_true] at h
    rw [List.map_cons, List.nodup_cons]
    refine ⟨fun hmem => ?_, ih h.2⟩
    obtain ⟨q', hq', heq⟩ := List.mem_map.1 hmem
    have h1 := requestShape_kind (hall q (by simp)).1
    have h2 := requestShape_kind (hall q' (by simp [hq'])).1
    have h3 := (activeShape_forall h.2 q' hq').2
    have := congrArg Fin.val heq
    rw [index_val h2.2 h2.1, index_val h1.2 h1.1] at this
    omega

theorem index_kindAt (q : BatchRequest) {i : Fin kindCount} (h : q.kind = kindAt i) :
    q.index = i := by
  rw [BatchRequest.index, h]
  clear h
  revert i
  decide

/-! ### Applied requests -/

/-- Every request of `qs` has moved its own entry of `L` by an accepted transition whose action
satisfies `P`, and nothing else has changed. -/
structure Applied (op : BatchOperation) (P : CapacityAction → Prop) (qs : List BatchRequest)
    (L L' : Ledger) : Prop where
  hit : ∀ q ∈ qs, ∃ er, transitionAt op L q = .ok er ∧ P er.action ∧ L' q.index = er.next
  miss : ∀ i, i ∉ qs.map BatchRequest.index → L' i = L i

variable {op : BatchOperation} {P : CapacityAction → Prop} {L L' : Ledger}
variable {q : BatchRequest} {qs done : List BatchRequest}

theorem Applied.nil : Applied op P [] L L := ⟨by simp, by simp⟩

theorem transitionAt_congr (h : L q.index = L' q.index) :
    transitionAt op L q = transitionAt op L' q := by
  show capacityEntryTransition (makeEntryInput op q (L q.index)) =
    capacityEntryTransition (makeEntryInput op q (L' q.index))
  rw [h]

/-- A transition on an untouched entry extends what has been applied. -/
theorem Applied.snoc (h : Applied op P done L L') (hq : q.index ∉ done.map BatchRequest.index)
    {er : TransitionResult} (her : transitionAt op L' q = .ok er) (hP : P er.action) :
    Applied op P (q :: done) L (update L' q.index er.next) where
  hit := by
    intro q' hq'
    rcases List.mem_cons.1 hq' with rfl | hq'
    · exact ⟨er, by rw [← transitionAt_congr (h.miss _ hq)]; exact her, hP, by simp⟩
    · obtain ⟨er', h1, h2, h3⟩ := h.hit q' hq'
      have hne : q'.index ≠ q.index := fun he => hq (he ▸ List.mem_map_of_mem hq')
      exact ⟨er', h1, h2, by rw [update_of_ne hne, h3]⟩
  miss := by
    intro i hi
    simp only [List.map_cons, List.mem_cons, not_or] at hi
    rw [update_of_ne hi.1, h.miss i hi.2]

theorem Applied.perm (h : Applied op P qs L L') (hmem : ∀ q, q ∈ done ↔ q ∈ qs) :
    Applied op P done L L' where
  hit q hq := h.hit q ((hmem q).1 hq)
  miss i hi := h.miss i fun hmap => by
    obtain ⟨q, hq, rfl⟩ := List.mem_map.1 hmap
    exact hi (List.mem_map_of_mem ((hmem q).2 hq))

theorem Applied.evolves (h : Applied op P qs L L') (hL : LedgerValid L) (i : Fin kindCount) :
    Evolves (L i) (L' i) := by
  by_cases hi : i ∈ qs.map BatchRequest.index
  · obtain ⟨q, hq, rfl⟩ := List.mem_map.1 hi
    obtain ⟨er, her, -, heq⟩ := h.hit q hq
    rw [heq]
    exact Evolves.of_transition her
  · rw [h.miss i hi]
    exact .refl (hL i).2

/-- Rolling back what has been applied restores the input ledger. -/
theorem rollBack_applied (h : Applied op P done L L') : rollBack L L' done = L := by
  have key : ∀ i, rollBack L L' done i =
      if i ∈ done.map BatchRequest.index then L i else L' i := by
    intro i
    clear h
    induction done with
    | nil => rfl
    | cons q done ih =>
      show update (rollBack L L' done) q.index (L q.index) i = _
      by_cases hi : i = q.index
      · subst hi; simp
      · rw [update_of_ne hi, ih]
        simp [hi]
  funext i
  rw [key]
  split_ifs with hi
  · rfl
  · exact h.miss i hi

/-! ### The two loops -/

theorem index_not_mem_done (hnd : ((done.reverse ++ q :: qs).map BatchRequest.index).Nodup) :
    q.index ∉ done.map BatchRequest.index := by
  intro hmem
  rw [List.map_append, List.nodup_append] at hnd
  exact hnd.2.2 q.index (by simpa using hmem) q.index (by simp) rfl

theorem nodup_snoc_done (hnd : ((done.reverse ++ q :: qs).map BatchRequest.index).Nodup) :
    (((q :: done).reverse ++ qs).map BatchRequest.index).Nodup := by
  simpa using hnd

/-- An accepted reservation loop has either reserved everything, or it stopped at a request
whose entry is full or exhausted and changed at most that entry's blocked flag. -/
theorem reserveLoop_spec {r : BatchResult}
    (hdone : Applied .reserveOrBlock (· = .reserved) done L L')
    (hnd : ((done.reverse ++ qs).map BatchRequest.index).Nodup)
    (h : reserveLoop L L' done qs = .ok r) :
    (r.action = .allReserved ∧
        Applied .reserveOrBlock (· = .reserved) (done.reverse ++ qs) L r.next) ∨
      (∃ q ∈ qs, ∃ er, transitionAt .reserveOrBlock L q = .ok er ∧ er.action ≠ .reserved ∧
        r.action ≠ .allReserved ∧ r.next = update L q.index er.next) := by
  induction qs generalizing L' done with
  | nil =>
    cases h
    exact .inl ⟨rfl, hdone.perm (by simp)⟩
  | cons q qs ih =>
    have hq := index_not_mem_done hnd
    simp only [reserveLoop] at h
    cases her : transitionAt .reserveOrBlock L' q with
    | error s => rw [her] at h; cases h
    | ok er =>
      have her' : transitionAt .reserveOrBlock L q = .ok er := by
        rw [← transitionAt_congr (hdone.miss _ hq)]; exact her
      simp only [her] at h
      split_ifs at h with hact
      · rcases ih (hdone.snoc hq her hact) (nodup_snoc_done hnd) h with ⟨h1, h2⟩ | ⟨q', hq', h'⟩
        · exact .inl ⟨h1, by simpa using h2⟩
        · exact .inr ⟨q', by simp [hq'], h'⟩
      · refine .inr ⟨q, by simp, er, her', hact, ?_⟩
        obtain ⟨-, hstep⟩ := EntryStep.of_transition her'
        simp only [reserveFailure, rollBack_applied hdone] at h
        cases hstep with
        | reserved => exact absurd rfl hact
        | blockSet => cases h; exact ⟨by simp, rfl⟩
        | alreadyBlocked => cases h; exact ⟨by simp, (update_eq_self _ _).symm⟩
        | counterExhausted => cases h; exact ⟨by simp, (update_eq_self _ _).symm⟩
        | committed | released | unblocked | epochExhausted => cases h

/-- An accepted commit or release loop has applied every request. -/
theorem commitOrReleaseLoop_spec {r result : BatchResult}
    (hdone : Applied op (expectedAction op · = true) done L result.next)
    (hnd : ((done.reverse ++ qs).map BatchRequest.index).Nodup)
    (h : commitOrReleaseLoop op result qs = .ok r) :
    Applied op (expectedAction op · = true) (done.reverse ++ qs) L r.next ∧
      r.action = if op = .commitReserved then .allCommitted else .allReleased := by
  induction qs generalizing result done with
  | nil =>
    cases h
    exact ⟨hdone.perm (by simp), rfl⟩
  | cons q qs ih =>
    have hq := index_not_mem_done hnd
    simp only [commitOrReleaseLoop] at h
    cases her : transitionAt op result.next q with
    | error s => rw [her] at h; cases h
    | ok er =>
      simp only [her] at h
      by_cases hact : expectedAction op er.action = true
      · simp only [hact, Bool.not_true, Bool.false_eq_true, if_false] at h
        simpa using ih (hdone.snoc hq her hact) (nodup_snoc_done hnd) h
      · simp [hact] at h

/-! ### The batch transition -/

/-- Everything an accepted batch can have done to the ledger. -/
inductive BatchStep (current : Ledger) (batch : Batch) (r : BatchResult) : Prop
  | reserved (hop : batch.operation = .reserveOrBlock) (hact : r.action = .allReserved)
      (happ : Applied .reserveOrBlock (· = .reserved) batch.active current r.next)
  | refused (hop : batch.operation = .reserveOrBlock) (hact : r.action ≠ .allReserved)
      (q : BatchRequest) (hq : q ∈ batch.active) (er : TransitionResult)
      (her : transitionAt .reserveOrBlock current q = .ok er) (hne : er.action ≠ .reserved)
      (hnext : r.next = update current q.index er.next)
  | settled (hop : batch.operation = .commitReserved ∨ batch.operation = .release)
      (hact : r.action =
        if batch.operation = .commitReserved then .allCommitted else .allReleased)
      (happ : Applied batch.operation (expectedAction batch.operation · = true) batch.active
        current r.next)

variable {batch : Batch}

theorem batchShape_active (h : batchShapeIsValid batch = true) :
    activeShapeIsValid batch.operation 0 batch.active = true := by
  simp only [batchShapeIsValid, Bool.and_eq_true] at h
  exact h.1.2

theorem batchShape_operation (h : batchShapeIsValid batch = true) :
    batchOperationIsKnown batch.operation = true := by
  simp only [batchShapeIsValid, Bool.and_eq_true] at h
  exact h.1.1.1.1

theorem settling_of_ne_reserve (hk : batchOperationIsKnown op = true)
    (hop : op ≠ .reserveOrBlock) : op = .commitReserved ∨ op = .release := by
  cases op with
  | reserveOrBlock => exact absurd rfl hop
  | commitReserved => exact .inl rfl
  | release => exact .inr rfl
  | unknown code => cases hk

/-- **Inversion of the batch transition.** -/
theorem BatchStep.of_transition {current : Ledger} {r : BatchResult}
    (h : capacityBatchTransition current batch = .ok r) :
    batchShapeIsValid batch = true ∧ LedgerValid current ∧ BatchStep current batch r := by
  unfold capacityBatchTransition at h
  by_cases hs : batchShapeIsValid batch = true
  · rw [hs] at h
    have hnd := activeShape_nodup (batchShape_active hs)
    cases hp : resourceLedgerProject current with
    | error s => simp [hp] at h
    | ok view =>
      refine ⟨hs, project_ok_iff.1 ⟨view, hp⟩, ?_⟩
      simp only [hp, Bool.not_true, Bool.false_eq_true, if_false] at h
      split_ifs at h with hop
      · rcases reserveLoop_spec .nil (by simpa using hnd) h with
          ⟨hact, happ⟩ | ⟨q, hq, er, her, hne, hact, hnext⟩
        · exact .reserved hop hact (by simpa using happ)
        · exact .refused hop hact q hq er her hne hnext
      · have hset := settling_of_ne_reserve (batchShape_operation hs) hop
        obtain ⟨happ, hact⟩ := commitOrReleaseLoop_spec .nil (by simpa using hnd) h
        exact .settled hset hact (by simpa using happ)
  · simp [hs] at h

theorem BatchStep.evolves {current : Ledger} {r : BatchResult}
    (hL : LedgerValid current) (h : BatchStep current batch r) (i : Fin kindCount) :
    Evolves (current i) (r.next i) := by
  cases h with
  | reserved hop hact happ => exact happ.evolves hL i
  | settled hop hact happ => exact happ.evolves hL i
  | refused hop hact q hq er her hne hnext =>
    rw [hnext]
    by_cases hi : i = q.index
    · subst hi
      rw [update_self]
      exact Evolves.of_transition her
    · rw [update_of_ne hi]
      exact .refl (hL i).2

/-! ### Rejections -/

theorem reserveLoop_error {s : Status}
    (hdone : Applied .reserveOrBlock (· = .reserved) done L L')
    (hnd : ((done.reverse ++ qs).map BatchRequest.index).Nodup)
    (h : reserveLoop L L' done qs = .error s) :
    ∃ q ∈ qs, transitionAt .reserveOrBlock L q = .error s := by
  induction qs generalizing L' done with
  | nil => cases h
  | cons q qs ih =>
    have hq := index_not_mem_done hnd
    simp only [reserveLoop] at h
    cases her : transitionAt .reserveOrBlock L' q with
    | error s' =>
      simp only [her] at h
      cases h
      exact ⟨q, by simp, by rw [← transitionAt_congr (hdone.miss _ hq)]; exact her⟩
    | ok er =>
      simp only [her] at h
      split_ifs at h with hact
      · obtain ⟨q', hq', h'⟩ := ih (hdone.snoc hq her hact) (nodup_snoc_done hnd) h
        exact ⟨q', by simp [hq'], h'⟩
      · -- a reservation that fails is one of the three refusals, never another action
        obtain ⟨-, hstep⟩ := EntryStep.of_transition her
        unfold reserveFailure at h
        cases hstep with
        | reserved => exact absurd rfl hact
        | blockSet | alreadyBlocked | counterExhausted => cases h
        | committed hop => cases hop
        | released hop => cases hop
        | unblocked hop => cases hop
        | epochExhausted hop => cases hop

theorem expectedAction_of_step {input : TransitionInput} {r : TransitionResult}
    (hop : input.operation = op.entryOperation) (h : EntryStep input r)
    (hset : op = .commitReserved ∨ op = .release) : expectedAction op r.action = true := by
  rcases hset with rfl | rfl <;> cases h <;> first | rfl | simp_all [BatchOperation.entryOperation]

theorem commitOrReleaseLoop_error {s : Status} {result : BatchResult}
    (hset : op = .commitReserved ∨ op = .release)
    (hdone : Applied op (expectedAction op · = true) done L result.next)
    (hnd : ((done.reverse ++ qs).map BatchRequest.index).Nodup)
    (h : commitOrReleaseLoop op result qs = .error s) :
    ∃ q ∈ qs, transitionAt op L q = .error s := by
  induction qs generalizing result done with
  | nil => cases h
  | cons q qs ih =>
    have hq := index_not_mem_done hnd
    simp only [commitOrReleaseLoop] at h
    cases her : transitionAt op result.next q with
    | error s' =>
      simp only [her] at h
      cases h
      exact ⟨q, by simp, by rw [← transitionAt_congr (hdone.miss _ hq)]; exact her⟩
    | ok er =>
      have hact := expectedAction_of_step rfl (EntryStep.of_transition her).2 hset
      simp only [her, hact, Bool.not_true, Bool.false_eq_true, if_false] at h
      obtain ⟨q', hq', h'⟩ := ih (hdone.snoc hq her hact) (nodup_snoc_done hnd) h
      exact ⟨q', by simp [hq'], h'⟩

/-- The request asks to commit or release more than its entry holds. -/
def Overdraws (op : BatchOperation) (L : Ledger) (q : BatchRequest) : Prop :=
  (op = .commitReserved ∧ (L q.index).reserved < q.amount) ∨
    (op = .release ∧
      ((L q.index).used < q.usedRelease ∨ (L q.index).reserved < q.reservedRelease))

/-- A reservation against a valid entry is always answered: its total does not overflow. -/
theorem reserveOrBlock_ne_error {input : TransitionInput} (hv : input.current.Valid)
    {s : Status} : reserveOrBlock input ≠ .error s := by
  have hlim := input.current.limit.toNat_lt
  have ht := hv.total_le
  have hh := hv.high_le
  unfold reserveOrBlock
  dsimp only
  cases htot : checkedTotal input.current with
  | none =>
    have := checkedTotal_eq_none.1 htot
    omega
  | some t =>
    dsimp only
    by_cases hm : (input.current.counterExhaustedMarker != 0) = true
    · simp [hm]
    · by_cases hfit : input.amount ≤ input.current.limit - t
      · simp [hm, hfit]
      · by_cases hb : (input.current.blocked == 0) = true <;> simp [hm, hfit, hb]

theorem transitionAt_error (hL : LedgerValid L) {s : Status}
    (h : transitionAt op L q = .error s) :
    s = .invalidArgument ∨ (s = .storageCorrupt ∧ Overdraws op L q) := by
  have hv := (hL q.index).2
  have hval : capacityEntryIsValid (makeEntryInput op q (L q.index)).current = true :=
    capacityEntryIsValid_iff.2 hv
  have h' : capacityEntryTransition (makeEntryInput op q (L q.index)) = .error s := h
  unfold capacityEntryTransition at h'
  split_ifs at h' with hsh hv'
  · cases h'; exact .inl rfl
  · simp [hval] at hv'
  · cases op with
    | reserveOrBlock => exact absurd h' (reserveOrBlock_ne_error hv)
    | commitReserved =>
      have h'' : commitReserved (makeEntryInput .commitReserved q (L q.index)) = .error s := h'
      simp only [commitReserved] at h''
      split_ifs at h'' with hlt
      cases h''
      exact .inr ⟨rfl, .inl ⟨rfl, hlt⟩⟩
    | release =>
      have h'' : releaseCapacity (makeEntryInput .release q (L q.index)) = .error s := h'
      simp only [releaseCapacity] at h''
      split_ifs at h'' with hlt
      cases h''
      exact .inr ⟨rfl, .inr ⟨rfl, by simpa [makeEntryInput] using hlt⟩⟩
    | unknown code =>
      cases h'
      exact .inl rfl

/-- A well-shaped batch is only rejected through one of its requests. -/
theorem batch_error_request {s : Status} (hL : LedgerValid L)
    (hs : batchShapeIsValid batch = true) (h : capacityBatchTransition L batch = .error s) :
    ∃ q ∈ batch.active, transitionAt batch.operation L q = .error s := by
  obtain ⟨view, hp⟩ := project_ok_iff.2 hL
  have hnd := activeShape_nodup (batchShape_active hs)
  simp only [capacityBatchTransition, hs, hp, Bool.not_true, Bool.false_eq_true, if_false] at h
  split_ifs at h with hop
  · rw [hop]
    exact reserveLoop_error .nil (by simpa using hnd) h
  · have hset := settling_of_ne_reserve (batchShape_operation hs) hop
    exact commitOrReleaseLoop_error hset .nil (by simpa using hnd) h

/-- **Rejections from a valid ledger.**  Either the batch is malformed, or one of its requests
commits or releases more than its entry holds. -/
theorem batch_error_cases {s : Status} (hL : LedgerValid L)
    (h : capacityBatchTransition L batch = .error s) :
    s = .invalidArgument ∨
      (s = .storageCorrupt ∧ ∃ q ∈ batch.active, Overdraws batch.operation L q) := by
  by_cases hs : batchShapeIsValid batch = true
  · obtain ⟨q, hq, herr⟩ := batch_error_request hL hs h
    rcases transitionAt_error hL herr with h1 | ⟨h1, h2⟩
    · exact .inl h1
    · exact .inr ⟨h1, q, hq, h2⟩
  · simp only [capacityBatchTransition, hs, Bool.not_false, if_true] at h
    cases h
    exact .inl rfl

end Ninlil.Resource
