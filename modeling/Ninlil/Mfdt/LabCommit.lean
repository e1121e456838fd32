import Ninlil.Mfdt.LabRows

/-!
# A group is applied up to its first failure

* `Account.run`: a group of operations on an account;
* `applyOps_of_run`, `applyOps_of_full`: the loop of a commit by its account;
* `LabStore.Reached`: what every run keeps;
* `CommitAtomic`, `GroupFits`: a commit is all or nothing, and when it is;
* `commit_atomic_iff`: the store over every run.
-/

namespace Ninlil.Mfdt

open Memory

/-! ### Groups -/

section Groups

variable {pools : Pools} {s : LabStore} {a b : Account} {op : LabOp} {ops pre post : List LabOp}

/-- The key of an operation. -/
def LabOp.key : LabOp → Key
  | .put key _ => key
  | .del key => key

/-- What each key shows after a group. -/
def applyGroup (ops : List LabOp) (view : Key → Option (List UInt8)) : Key → Option (List UInt8) :=
  ops.foldl (fun view op => op.apply view) view

/-- A group on an account, while there is room. -/
def Account.run (pools : Pools) (a : Account) : List LabOp → Option Account
  | [] => some a
  | op :: ops =>
    match a.step pools op with
    | none => none
    | some a => a.run pools ops

theorem LabOp.apply_of_ne {key : Key} (h : key ≠ op.key) (view : Key → Option (List UInt8)) :
    op.apply view key = view key := by
  cases op with
  | put | del => exact Function.update_of_ne h _ _

/-- A key that no operation names shows what it did. -/
theorem applyGroup_of_not_mem {key : Key} (h : key ∉ ops.map LabOp.key)
    (view : Key → Option (List UInt8)) : applyGroup ops view key = view key := by
  induction ops generalizing view with
  | nil => rfl
  | cons op ops ih =>
    rw [List.map_cons, List.mem_cons, not_or] at h
    exact (ih h.2 (op.apply view)).trans (LabOp.apply_of_ne h.1 view)

theorem Account.step_view (h : a.step pools op = some b) : b.view = op.apply a.view := by
  cases op with
  | del key =>
    cases h
    rfl
  | put key value =>
    unfold Account.step at h
    cases hview : a.view key with
    | none =>
      simp only [hview] at h
      split_ifs at h with hroom
      cases h
      rfl
    | some old =>
      simp only [hview] at h
      split_ifs at h with hlonger hroom
      · cases h
        rfl
      · cases h
        rfl

theorem Account.run_view (h : a.run pools ops = some b) : b.view = applyGroup ops a.view := by
  induction ops generalizing a with
  | nil =>
    cases h
    rfl
  | cons op ops ih =>
    unfold Account.run at h
    cases hstep : a.step pools op with
    | none =>
      rw [hstep] at h
      cases h
    | some c =>
      rw [hstep] at h
      rw [ih h, Account.step_view hstep]
      rfl

/-- A group has room, or there is a first operation that has none. -/
theorem Account.run_cases (pools : Pools) (a : Account) (ops : List LabOp) :
    (∃ b, a.run pools ops = some b) ∨
      ∃ pre op post b, ops = pre ++ op :: post ∧ a.run pools pre = some b ∧
        b.step pools op = none := by
  induction ops generalizing a with
  | nil => exact .inl ⟨a, rfl⟩
  | cons op ops ih =>
    cases hstep : a.step pools op with
    | none => exact .inr ⟨[], op, ops, a, rfl, rfl, hstep⟩
    | some c =>
      rcases ih c with ⟨b, hb⟩ | ⟨pre, op', post, b, hops, hb, hfull⟩
      · refine .inl ⟨b, ?_⟩
        rw [Account.run, hstep]
        exact hb
      · refine .inr ⟨op :: pre, op', post, b, by rw [hops]; rfl, ?_, hfull⟩
        rw [Account.run, hstep]
        exact hb

/-! ### The loop of a commit -/

/-- With room for all of them, all operations are applied. -/
theorem applyOps_of_run (h : s.Sound pools) (hn : ∀ op ∈ ops, op.length ≤ pools.staging)
    (hrun : s.account.run pools ops = some b) :
    ∃ s', applyOps pools s ops = (.ok, s') ∧ s'.Sound pools ∧ s'.account = b := by
  induction ops generalizing s with
  | nil =>
    cases hrun
    exact ⟨s, rfl, h, rfl⟩
  | cons op ops ih =>
    unfold Account.run at hrun
    rcases applyOp_account h (hn op List.mem_cons_self) with
      ⟨hfull, -⟩ | ⟨a, s', hstep, happly, hsound, rfl⟩
    · rw [hfull] at hrun
      cases hrun
    · rw [hstep] at hrun
      obtain ⟨t, ht, hrest⟩ := ih hsound (fun op hop => hn op (List.mem_cons_of_mem _ hop)) hrun
      refine ⟨t, ?_, hrest⟩
      rw [applyOps, happly]
      exact ht

/-- The first operation without room ends the loop; those before it stay applied. -/
theorem applyOps_of_full (h : s.Sound pools)
    (hn : ∀ op' ∈ pre ++ op :: post, op'.length ≤ pools.staging)
    (hrun : s.account.run pools pre = some b) (hfull : b.step pools op = none) :
    ∃ s', applyOps pools s (pre ++ op :: post) = (.capacity, s') ∧ s'.Sound pools ∧
      s'.account = b := by
  induction pre generalizing s with
  | nil =>
    cases hrun
    have hop := hn op List.mem_cons_self
    rcases applyOp_account h hop with ⟨-, happly⟩ | ⟨a, s', hstep, -⟩
    · refine ⟨s, ?_, h, rfl⟩
      rw [List.nil_append, applyOps, happly]
    · rw [hfull] at hstep
      cases hstep
  | cons first pre ih =>
    unfold Account.run at hrun
    rcases applyOp_account h (hn first List.mem_cons_self) with
      ⟨hnone, -⟩ | ⟨a, s', hstep, happly, hsound, rfl⟩
    · rw [hnone] at hrun
      cases hrun
    · rw [hstep] at hrun
      obtain ⟨t, ht, hrest⟩ :=
        ih hsound (fun op' hop => hn op' (List.mem_cons_of_mem _ hop)) hrun
      refine ⟨t, ?_, hrest⟩
      rw [List.cons_append, applyOps, happly]
      exact ht

end Groups

/-! ### Commits -/

section Commits

variable {pools : Pools} {s : LabStore}

/-- A commit applies all of its group, or no key shows another value. -/
def CommitAtomic (pools : Pools) (s : LabStore) : Prop :=
  if (labFullCommit pools s).1 = .ok ∨ (labFullCommit pools s).1 = .cuNewNotPromoted then
    labView (labFullCommit pools s).2 = applyGroup s.ops (labView s)
  else labView (labFullCommit pools s).2 = labView s

/-- Unless the group is not applied at all, each operation of it has room in the rows and in the
pool, or those before the first one that has none change no key. -/
def GroupFits (pools : Pools) (s : LabStore) : Prop :=
  s.txnOpen = true → s.crashes = false → ∀ pre op post, s.ops = pre ++ op :: post →
    ∀ a, s.account.run pools pre = some a → a.step pools op = none →
      applyGroup pre (labView s) = labView s

/-- What every run keeps. -/
structure LabStore.Reached (pools : Pools) (s : LabStore) : Prop where
  sound : s.Sound pools
  staged : ∀ op ∈ s.ops, op.length ≤ pools.staging
  count : s.ops.length ≤ labMaxOps
  used : s.stagingPoolUsed.toNat ≤ pools.staging

/-- A commit without an open group, or with a crash, changes no key. -/
theorem labView_commit_idle (h : s.txnOpen = false ∨ s.crashes = true) :
    (labFullCommit pools s).1 ≠ .ok ∧ (labFullCommit pools s).1 ≠ .cuNewNotPromoted ∧
      labView (labFullCommit pools s).2 = labView s := by
  unfold labFullCommit
  by_cases hopen : s.txnOpen = false
  · simp only [hopen, if_true]
    exact ⟨(fun h => by cases h), (fun h => by cases h), trivial⟩
  · have hcrash : s.crashes = true := h.resolve_left hopen
    simp only [hopen, hcrash, if_true]
    exact ⟨(fun h => by cases h), (fun h => by cases h), rfl⟩

/-- A commit of a group that has room. -/
theorem labView_commit_of_run (h : s.Reached pools) (hopen : s.txnOpen = true)
    (hcrash : s.crashes = false) {b : Account} (hrun : s.account.run pools s.ops = some b) :
    ((labFullCommit pools s).1 = .ok ∨ (labFullCommit pools s).1 = .cuNewNotPromoted) ∧
      (labFullCommit pools s).2.Sound pools ∧
      labView (labFullCommit pools s).2 = applyGroup s.ops (labView s) := by
  obtain ⟨t, happly, hsound, rfl⟩ := applyOps_of_run h.sound h.staged hrun
  have hview : labView t = applyGroup s.ops (labView s) := Account.run_view hrun
  unfold labFullCommit
  simp only [hopen, hcrash, happly, Bool.true_eq_false, Bool.false_eq_true, if_false]
  by_cases hforce : t.forceCuNewNotPromoted
  · rw [if_pos (show (labFullRollback { t with fullCount := t.fullCount + 1 }).forceCuNewNotPromoted
      = true from hforce)]
    exact ⟨.inr rfl, ⟨hsound.keys, hsound.within, hsound.apart, hsound.used⟩, hview⟩
  · rw [if_neg (show ¬(labFullRollback { t with fullCount := t.fullCount + 1
      }).forceCuNewNotPromoted = true from hforce)]
    exact ⟨.inl rfl, ⟨hsound.keys, hsound.within, hsound.apart, hsound.used⟩, hview⟩

/-- A commit of a group that has not. -/
theorem labView_commit_of_full (h : s.Reached pools) (hopen : s.txnOpen = true)
    (hcrash : s.crashes = false) {pre post : List LabOp} {op : LabOp} {b : Account}
    (hops : s.ops = pre ++ op :: post) (hrun : s.account.run pools pre = some b)
    (hfull : b.step pools op = none) :
    (labFullCommit pools s).1 = .capacity ∧ (labFullCommit pools s).2.Sound pools ∧
      labView (labFullCommit pools s).2 = applyGroup pre (labView s) := by
  obtain ⟨t, happly, hsound, rfl⟩ := applyOps_of_full h.sound (hops ▸ h.staged) hrun hfull
  have hview : labView t = applyGroup pre (labView s) := Account.run_view hrun
  unfold labFullCommit
  simp only [hopen, hcrash, hops, happly, Bool.true_eq_false, Bool.false_eq_true, if_false]
  exact ⟨trivial, ⟨hsound.keys, hsound.within, hsound.apart, hsound.used⟩, hview⟩

theorem commitAtomic_iff (h : s.Reached pools) : CommitAtomic pools s ↔ GroupFits pools s := by
  unfold CommitAtomic
  by_cases hidle : s.txnOpen = false ∨ s.crashes = true
  · obtain ⟨hok, hnew, hview⟩ := @labView_commit_idle pools _ hidle
    rw [if_neg (not_or.2 ⟨hok, hnew⟩)]
    refine ⟨fun _ hopen hcrash => ?_, fun _ => hview⟩
    rcases hidle with hclosed | hcrashes
    · rw [hclosed] at hopen
      cases hopen
    · rw [hcrashes] at hcrash
      cases hcrash
  · rw [not_or, Bool.not_eq_false, Bool.not_eq_true] at hidle
    obtain ⟨hopen, hcrash⟩ := hidle
    rcases Account.run_cases pools s.account s.ops with
      ⟨b, hrun⟩ | ⟨pre, op, post, b, hops, hrun, hfull⟩
    · obtain ⟨hstatus, -, hview⟩ := labView_commit_of_run h hopen hcrash hrun
      rw [if_pos hstatus]
      refine ⟨fun _ _ _ pre op post hops a hpre hfull => ?_, fun _ => hview⟩
      obtain ⟨hcap, -, -⟩ := labView_commit_of_full h hopen hcrash hops hpre hfull
      rw [hcap] at hstatus
      rcases hstatus with hstatus | hstatus
      · cases hstatus
      · cases hstatus
    · obtain ⟨hcap, -, hview⟩ := labView_commit_of_full h hopen hcrash hops hrun hfull
      have hstatus : ¬((labFullCommit pools s).1 = .ok ∨
          (labFullCommit pools s).1 = .cuNewNotPromoted) := by
        rw [hcap]
        rintro (hok | hnew)
        · cases hok
        · cases hnew
      rw [if_neg hstatus]
      refine ⟨fun hkept _ _ pre' op' post' hops' a hpre' hfull' => ?_, fun hfits => ?_⟩
      · obtain ⟨-, -, hview'⟩ := labView_commit_of_full h hopen hcrash hops' hpre' hfull'
        rw [← hview', hkept]
      · rw [hview]
        exact hfits hopen hcrash pre op post hops b hrun hfull

end Commits

/-! ### Runs -/

section Runs

variable {pools : Pools} {s : LabStore} {key : Key} {value : List UInt8}

/-- The keys whose values a call may change. -/
def LabCall.keys (s : LabStore) : LabCall → List Key
  | .put key _ => [key]
  | .del key => [key]
  | .commit => s.ops.map LabOp.key
  | _ => []

/-- The value of a put is no longer than what 32 bits count behind the staging pool. -/
def LabCall.Counted (pools : Pools) : LabCall → Prop
  | .put _ value => value.length + pools.staging < 2 ^ 32
  | _ => True

theorem LabStore.Reached.init : LabStore.init.Reached pools where
  sound :=
    { keys := fun i _ hi => by cases hi
      within := fun i hi => by cases hi
      apart := fun i _ hi => by cases hi
      used := Nat.zero_le _ }
  staged := fun _ hop => by cases hop
  count := Nat.zero_le _
  used := Nat.zero_le _

/-- Rows, and the group that is staged. -/
theorem LabStore.Reached.closed (h : s.Sound pools) : (labFullRollback s).Reached pools where
  sound := ⟨h.keys, h.within, h.apart, h.used⟩
  staged := fun _ hop => by cases hop
  count := Nat.zero_le _
  used := Nat.zero_le _

theorem LabStore.Reached.stageOp (h : s.Reached pools) {op : LabOp}
    (hn : op.length + pools.staging < 2 ^ 32) : (stageOp pools s op op.length).2.Reached pools := by
  have hused := h.used
  have hstaging := pools.active
  unfold Mfdt.stageOp
  by_cases hcount : labMaxOps ≤ s.ops.length
  · rw [if_pos hcount]
    exact h
  have hlength : (UInt32.ofNat op.length).toNat = op.length :=
    UInt32.toNat_ofNat_of_lt' (by show op.length < 2 ^ 32; omega)
  have hsum : (s.stagingPoolUsed + UInt32.ofNat op.length).toNat =
      s.stagingPoolUsed.toNat + op.length := by
    rw [UInt32.toNat_add, hlength]
    exact Nat.mod_eq_of_lt (by omega)
  rw [if_neg hcount, hsum]
  by_cases hfull : 0 < op.length ∧ pools.staging < s.stagingPoolUsed.toNat + op.length
  · rw [if_pos hfull]
    exact h
  rw [if_neg hfull]
  have hroom : s.stagingPoolUsed.toNat + op.length ≤ pools.staging := by omega
  refine ⟨⟨h.sound.keys, h.sound.within, h.sound.apart, h.sound.used⟩, fun op' hop' => ?_, ?_, ?_⟩
  · rcases List.mem_append.1 hop' with hold | hnew
    · exact h.staged op' hold
    · rw [List.mem_singleton.1 hnew]
      omega
  · show (s.ops ++ [op]).length ≤ labMaxOps
    rw [List.length_append, List.length_singleton]
    omega
  · show (s.stagingPoolUsed + UInt32.ofNat op.length).toNat ≤ pools.staging
    rw [hsum]
    exact hroom

theorem labView_stageOp (op : LabOp) (n : ℕ) : labView (stageOp pools s op n).2 = labView s := by
  unfold stageOp
  split_ifs <;> rfl

/-- A row that is written or freed at once leaves the staged group alone. -/
theorem applyPut_frame : (applyPut pools s key value).2.ops = s.ops ∧
    (applyPut pools s key value).2.stagingPoolUsed = s.stagingPoolUsed := by
  unfold applyPut
  cases findRow s key with
  | none =>
    cases freeRow s with
    | none => exact ⟨rfl, rfl⟩
    | some i =>
      simp only
      split_ifs <;> exact ⟨rfl, rfl⟩
  | some i =>
    simp only
    split_ifs <;> exact ⟨rfl, rfl⟩

theorem dropKey_frame : (s.dropKey key).ops = s.ops ∧
    (s.dropKey key).stagingPoolUsed = s.stagingPoolUsed := by
  unfold LabStore.dropKey
  cases findRow s key with
  | none | some => exact ⟨rfl, rfl⟩

/-- A commit leaves no group behind. -/
theorem labFullCommit_frame (hopen : s.txnOpen = true) : (labFullCommit pools s).2.ops = [] ∧
    (labFullCommit pools s).2.stagingPoolUsed = 0 := by
  unfold labFullCommit
  rw [if_neg (by rw [hopen]; decide)]
  by_cases hcrash : s.crashes = true
  · rw [if_pos hcrash]
    exact ⟨rfl, rfl⟩
  · rw [if_neg hcrash]
    rcases applyOps pools s s.ops with ⟨e, t⟩
    cases e with
    | ok =>
      simp only
      split_ifs <;> exact ⟨rfl, rfl⟩
    | param | capacity | state | storage | cuNewNotPromoted => exact ⟨rfl, rfl⟩

theorem LabStore.Reached.commit (h : s.Reached pools) : (labFullCommit pools s).2.Reached pools ∧
    ∀ key ∉ s.ops.map LabOp.key, labView (labFullCommit pools s).2 key = labView s key := by
  cases hopen : s.txnOpen with
  | false =>
    have hsame : labFullCommit pools s = (.state, s) := if_pos hopen
    rw [hsame]
    exact ⟨h, fun _ _ => rfl⟩
  | true =>
    obtain ⟨hops, hused⟩ := @labFullCommit_frame pools _ hopen
    have hclosed (hsound : (labFullCommit pools s).2.Sound pools) :
        (labFullCommit pools s).2.Reached pools := by
      refine ⟨hsound, ?_, ?_, ?_⟩
      · rw [hops]
        exact fun _ hop => by cases hop
      · rw [hops]
        exact Nat.zero_le _
      · rw [hused]
        exact Nat.zero_le _
    cases hcrash : s.crashes with
    | true =>
      have hrolled : labFullCommit pools s =
          (.storage, labFullRollback { s with crashArmed := 1 }) := by
        unfold labFullCommit
        rw [if_neg (by rw [hopen]; decide), if_pos hcrash]
      have hsound := h.sound
      rw [hrolled] at hclosed ⊢
      exact ⟨hclosed ⟨hsound.keys, hsound.within, hsound.apart, hsound.used⟩, fun _ _ => rfl⟩
    | false =>
      rcases Account.run_cases pools s.account s.ops with
        ⟨b, hrun⟩ | ⟨pre, op, post, b, hgroup, hrun, hfull⟩
      · obtain ⟨-, hsound, hview⟩ := labView_commit_of_run h hopen hcrash hrun
        refine ⟨hclosed hsound, fun key hkey => ?_⟩
        rw [hview, applyGroup_of_not_mem hkey]
      · obtain ⟨-, hsound, hview⟩ := labView_commit_of_full h hopen hcrash hgroup hrun hfull
        refine ⟨hclosed hsound, fun key hkey => ?_⟩
        rw [hview]
        refine applyGroup_of_not_mem (fun hpre => hkey ?_) _
        rw [hgroup, List.map_append]
        exact List.mem_append_left _ hpre

/-- What one call keeps: the rows stay apart, and a key that the call does not name shows what it
did. -/
theorem LabStore.Reached.call (h : s.Reached pools) {c : LabCall} (hc : c.Counted pools) :
    (s.call pools c).Reached pools ∧
      ∀ key ∉ c.keys s, labView (s.call pools c) key = labView s key := by
  have hsound := h.sound
  cases c with
  | begin =>
    show (labFullBegin s).2.Reached pools ∧ ∀ key ∉ [], labView (labFullBegin s).2 key = _
    unfold labFullBegin
    split_ifs
    · exact ⟨h, fun _ _ => rfl⟩
    · have hopened : { labFullRollback s with txnOpen := true }.Reached pools :=
        ⟨⟨hsound.keys, hsound.within, hsound.apart, hsound.used⟩, (fun _ hop => by cases hop),
          Nat.zero_le _, Nat.zero_le _⟩
      exact ⟨hopened, fun _ _ => rfl⟩
  | put key value =>
    show (labPut pools s key value).2.Reached pools ∧
      ∀ key' ∉ [key], labView (labPut pools s key value).2 key' = _
    unfold labPut
    split_ifs with hopen hlong
    · exact ⟨h.stageOp hc, fun key' _ => by rw [labView_stageOp]⟩
    · exact ⟨h, fun _ _ => rfl⟩
    · have hn : value.length ≤ pools.staging := by
        have := pools.active
        omega
      obtain ⟨hops, hused⟩ := @applyPut_frame pools s key value
      rcases applyPut_account hsound hn with ⟨-, hput⟩ | ⟨a, t, hstep, hput, hkept, rfl⟩
      · rw [hput]
        exact ⟨h, fun _ _ => rfl⟩
      · rw [hput] at hops hused ⊢
        refine ⟨⟨hkept, ?_, ?_, ?_⟩, fun key' hkey => ?_⟩
        · rw [show t.ops = s.ops from hops]
          exact h.staged
        · rw [show t.ops = s.ops from hops]
          exact h.count
        · rw [show t.stagingPoolUsed = s.stagingPoolUsed from hused]
          exact h.used
        · have hview : labView t = _ := Account.step_view hstep
          rw [hview]
          exact LabOp.apply_of_ne (fun heq => hkey (List.mem_singleton.2 heq)) _
  | del key =>
    show (labDel pools s key).2.Reached pools ∧
      ∀ key' ∉ [key], labView (labDel pools s key).2 key' = _
    unfold labDel
    split_ifs with hopen
    · have hzero : LabOp.length (.del key) + pools.staging < 2 ^ 32 := by
        have := pools.bound
        show 0 + pools.staging < 2 ^ 32
        omega
      exact ⟨h.stageOp hzero, fun key' _ => by rw [labView_stageOp]⟩
    · obtain ⟨hops, hused⟩ := @dropKey_frame s key
      obtain ⟨hkept, hview, -, -⟩ := hsound.dropKey key
      refine ⟨⟨hkept, ?_, ?_, ?_⟩, fun key' hkey => ?_⟩
      · rw [hops]
        exact h.staged
      · rw [hops]
        exact h.count
      · rw [hused]
        exact h.used
      · rw [hview]
        exact Function.update_of_ne (fun heq => hkey (List.mem_singleton.2 heq)) _ _
  | commit => exact h.commit
  | rollback => exact ⟨LabStore.Reached.closed hsound, fun _ _ => rfl⟩
  | crashAfter | forceCuNew =>
    exact ⟨⟨⟨hsound.keys, hsound.within, hsound.apart, hsound.used⟩, h.staged, h.count, h.used⟩,
      fun _ _ => rfl⟩

theorem LabStore.Reached.run (calls : List LabCall) (hcalls : ∀ c ∈ calls, c.Counted pools) :
    (LabStore.run pools calls).Reached pools := by
  induction calls using List.reverseRecOn with
  | nil => exact LabStore.Reached.init
  | append_singleton calls c ih =>
    have hbefore := ih fun c hc => hcalls c (List.mem_append_left _ hc)
    have hc := hcalls c (List.mem_append_right _ List.mem_cons_self)
    have hstep : LabStore.run pools (calls ++ [c]) = (LabStore.run pools calls).call pools c :=
      List.foldl_concat ..
    rw [hstep]
    exact (hbefore.call hc).1

/-- What a get tells is what the key shows. -/
theorem labGet_eq_view (cap : ℕ) : labGet s key (some cap) =
    match labView s key with
    | none => (.state, none, none)
    | some value =>
      if cap < value.length then (.capacity, some value.length, none)
      else (.ok, some value.length, some value) := by
  unfold labGet labView
  cases findRow s key with
  | none => rfl
  | some i =>
    have hlength : (s.bytes i).length = (s.rows i).valueLen := Mem.length_read _ _ _
    simp only [Option.map_some, hlength]

/-- **After every run, the rows share no bytes, no call changes the value of a key that it does not
name, and a commit is all or nothing exactly if its group fits.** -/
theorem commit_atomic_iff (calls : List LabCall) (hcalls : ∀ c ∈ calls, c.Counted pools) :
    (LabStore.run pools calls).Sound pools ∧
      (∀ c, c.Counted pools → ∀ key ∉ c.keys (LabStore.run pools calls),
        labView (LabStore.run pools (calls ++ [c])) key = labView (LabStore.run pools calls) key) ∧
      (CommitAtomic pools (LabStore.run pools calls) ↔
        GroupFits pools (LabStore.run pools calls)) := by
  have hreached := LabStore.Reached.run calls hcalls
  refine ⟨hreached.sound, fun c hc key hkey => ?_, commitAtomic_iff hreached⟩
  have hstep : LabStore.run pools (calls ++ [c]) = (LabStore.run pools calls).call pools c :=
    List.foldl_concat ..
  rw [hstep]
  exact (hreached.call hc).2 key hkey

/-- Four groups of four new keys of one byte each. -/
def fullTable : List LabCall :=
  (List.range 4).flatMap fun group => .begin :: (List.range labMaxOps).map (fun n =>
    .put (Vector.replicate 20 (UInt8.ofNat (labMaxOps * group + n))) [0]) ++ [.commit]

/-- A group that changes the first key and then finds no row for a new one. -/
def halfVisible : List LabCall :=
  fullTable ++ [.begin, .put (Vector.replicate 20 0) [9], .put (Vector.replicate 20 16) [1]]

theorem halfVisible_counted : ∀ c ∈ halfVisible, c.Counted hostPools := by
  unfold halfVisible fullTable
  intro c hc
  rcases List.mem_append.1 hc with hbefore | hgroup
  · obtain ⟨group, -, hcall⟩ := List.mem_flatMap.1 hbefore
    rcases List.mem_append.1 hcall with hput | hcommit
    · rcases List.mem_cons.1 hput with rfl | hput
      · trivial
      · obtain ⟨n, -, rfl⟩ := List.mem_map.1 hput
        show _ < _
        decide
    · rw [List.mem_singleton.1 hcommit]
      trivial
  · fin_cases hgroup
    · trivial
    · show _ < _
      decide
    · show _ < _
      decide

/-- The commit of a group reports that there is no room, and one of its keys has changed. -/
theorem commit_half_visible : (∀ c ∈ halfVisible, c.Counted hostPools) ∧
    ¬CommitAtomic hostPools (LabStore.run hostPools halfVisible) := by
  refine ⟨halfVisible_counted, fun hatomic => ?_⟩
  have hstatus : (labFullCommit hostPools (LabStore.run hostPools halfVisible)).1 = .capacity := by
    decide +kernel
  have hview : labView (labFullCommit hostPools (LabStore.run hostPools halfVisible)).2
      (Vector.replicate 20 0) ≠ labView (LabStore.run hostPools halfVisible)
        (Vector.replicate 20 0) := by
    decide +kernel
  unfold CommitAtomic at hatomic
  rw [hstatus, if_neg (by decide)] at hatomic
  exact hview (congrFun hatomic _)

/-- **The rows and the commit after a run that fills the table.** -/
theorem commit_atomic_iff_full : (LabStore.run hostPools halfVisible).Sound hostPools ∧
    (∀ c, c.Counted hostPools → ∀ key ∉ c.keys (LabStore.run hostPools halfVisible),
      labView (LabStore.run hostPools (halfVisible ++ [c])) key =
        labView (LabStore.run hostPools halfVisible) key) ∧
    (CommitAtomic hostPools (LabStore.run hostPools halfVisible) ↔
      GroupFits hostPools (LabStore.run hostPools halfVisible)) :=
  commit_atomic_iff halfVisible halfVisible_counted

end Runs

end Ninlil.Mfdt
