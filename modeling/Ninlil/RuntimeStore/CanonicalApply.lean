import Ninlil.RuntimeStore.CanonicalPlan

/-!
# A plan ends in one of its two views

* `Transactional`: a provider whose transactions are atomic updates of a map;
* `viewMetrics_sorted`: a view that is accepted increases strictly;
* `stepRows`, `putRows_spec`, `eraseRows_spec`: the two loops on the map of the transaction;
* `canonical_apply_sound`: a plan that returns `ok` leaves the final view, and one that does not
  reach its commit leaves the first.
-/

namespace Ninlil.CanonicalPlan

open Bytes EspStorage SortedRows

/-- What a namespace holds. -/
abbrev Content := List UInt8 → Option (List UInt8)

/-- What a view holds. -/
def viewMap (rows : List Row) : Content := fun key => rows.lookup key

/-- The keys of a view increase. -/
def Increasing (rows : List Row) : Prop := Sorted (fun a b => bytesCompare a b = .lt) rows

variable {σ τ : Type}

/-- The transactions of a provider are atomic updates: `content` is what the namespace holds,
`staged` the open transaction with what it would leave. -/
structure Transactional (P : Provider σ τ) (content : σ → Content)
    (staged : σ → Option (τ × Content)) : Prop where
  capacity : ∀ s, content (P.capacity s).2.2 = content s ∧ staged (P.capacity s).2.2 = staged s
  begin : ∀ s, staged s = none → content (P.begin s).2.2 = content s ∧
    staged (P.begin s).2.2 = (P.begin s).2.1.map fun txn => (txn, content s)
  put : ∀ s txn m key value, staged s = some (txn, m) →
    content (P.put s txn key value).2 = content s ∧ staged (P.put s txn key value).2 = some (txn,
      if (P.put s txn key value).1 = .ok then Function.update m key (some value) else m)
  erase : ∀ s txn m key, staged s = some (txn, m) →
    content (P.erase s txn key).2 = content s ∧ staged (P.erase s txn key).2 = some (txn,
      if (P.erase s txn key).1 = .ok then Function.update m key none else m)
  commit : ∀ s txn m, staged s = some (txn, m) → staged (P.commit s txn).2 = none ∧
    ((P.commit s txn).1 = .ok → content (P.commit s txn).2 = m)
  rollback : ∀ s txn m, staged s = some (txn, m) → staged (P.rollback s txn).2 = none ∧
    content (P.rollback s txn).2 = content s

/-! ### Views -/

theorem viewBytes_sorted {previous : Option Row} {bytes total : ℕ} {rows : List Row}
    (h : viewBytes previous bytes rows = some total) :
    (∀ before ∈ previous, ∀ row ∈ rows, bytesCompare before.1 row.1 = .lt) ∧ Increasing rows := by
  induction rows generalizing previous bytes with
  | nil => exact ⟨(fun _ _ _ hrow => by cases hrow), List.Pairwise.nil⟩
  | cons row rows ih =>
    unfold viewBytes at h
    split_ifs at h with hbad hlong
    cases hsum : checkedAddU64 bytes (rowBytes row) with
    | none =>
      rw [hsum] at h
      cases h
    | some bytes' =>
      rw [hsum] at h
      obtain ⟨hbehind, hrows⟩ := ih h
      have hrow := hbehind row rfl
      refine ⟨fun before hbefore row' hrow' => ?_, List.pairwise_cons.2 ⟨hrow, hrows⟩⟩
      have hfirst : bytesCompare before.1 row.1 = .lt := by
        by_contra hne
        refine hbad (.inr (.inr (.inr ?_)))
        rw [Option.mem_def.1 hbefore, Option.any_some, bne_iff_ne]
        exact hne
      rcases List.mem_cons.1 hrow' with rfl | hrow'
      · exact hfirst
      · exact Std.TransCmp.lt_trans hfirst (hrow row' hrow')

/-- A view that is accepted increases strictly. -/
theorem viewMetrics_sorted {view : List Row} {m : ℕ × ℕ} (h : viewMetrics view = some m) :
    Increasing view := by
  obtain ⟨total, hbytes, -⟩ := Option.map_eq_some_iff.1 h
  exact (viewBytes_sorted hbytes).2

/-! ### The loops -/

section Loops

variable {P : Provider σ τ} {content : σ → Content} {staged : σ → Option (τ × Content)} {txn : τ}

/-- What a loop leaves: an open transaction over the same content, and, if it ends, the map and the
calls that it is there for. -/
def LoopResult (content : σ → Content) (staged : σ → Option (τ × Content)) (txn : τ) (s : σ)
    (result : EspStorage.Status × σ × List Call) (m : Content) (calls : List Call) : Prop :=
  content result.2.1 = content s ∧ ∃ m', staged result.2.1 = some (txn, m') ∧
    (∃ rest, result.2.2 ++ rest = calls) ∧ (result.1 = .ok → m' = m ∧ result.2.2 = calls)

/-- A call for each row, up to the first that fails. -/
def stepRows (step : σ → Row → EspStorage.Status × σ) (call : Row → Call) (s : σ) :
    List Row → EspStorage.Status × σ × List Call
  | [] => (.ok, s, [])
  | row :: rows =>
    match step s row with
    | (.ok, s) =>
      let (status, s, calls) := stepRows step call s rows
      (status, s, call row :: calls)
    | (e, s) => (e, s, [call row])

theorem putRows_eq (P : Provider σ τ) (txn : τ) (s : σ) (rows : List Row) : putRows P txn s rows =
    stepRows (fun s row => P.put s txn row.1 row.2) (fun row => .put row.1 row.2) s rows := by
  induction rows generalizing s with
  | nil => rfl
  | cons row rows ih =>
    unfold putRows stepRows
    rcases P.put s txn row.1 row.2 with ⟨status, s'⟩
    cases status with
    | ok => simp only [ih]
    | _ => rfl

/-- The merge erases the rows whose keys the other view has not. -/
theorem eraseRows_eq (P : Provider σ τ) (txn : τ) (s : σ) (rows others : List Row) :
    eraseRows P txn s rows others =
      stepRows (fun s row => P.erase s txn row.1) (fun row => .erase row.1) s
        (minus bytesCompare rows others) := by
  induction rows, others using minus.induct bytesCompare generalizing s with
  | case1 others => rw [eraseRows, minus, stepRows]
  | case2 row rows ih =>
    rw [eraseRows, minus, stepRows]
    rcases P.erase s txn row.1 with ⟨status, s'⟩
    cases status with
    | ok => simp only [ih]
    | _ => rfl
  | case3 row rows other others hcmp ih =>
    rw [eraseRows, minus, hcmp]
    dsimp only
    rw [stepRows]
    rcases P.erase s txn row.1 with ⟨status, s'⟩
    cases status with
    | ok => simp only [ih]
    | _ => rfl
  | case4 row rows other others hcmp ih | case5 row rows other others hcmp ih =>
    rw [eraseRows, minus, hcmp]
    exact ih s

/-- A loop of calls that each change the map of the transaction, or leave it. -/
theorem stepRows_spec {step : σ → Row → EspStorage.Status × σ} {call : Row → Call}
    {change : Content → Row → Content}
    (hstep : ∀ s m row, staged s = some (txn, m) → content (step s row).2 = content s ∧
      staged (step s row).2 = some (txn, if (step s row).1 = .ok then change m row else m))
    {s : σ} {m : Content} {rows : List Row} (hs : staged s = some (txn, m)) :
    LoopResult content staged txn s (stepRows step call s rows) (rows.foldl change m)
      (rows.map call) := by
  induction rows generalizing s m with
  | nil => exact ⟨rfl, m, hs, ⟨[], rfl⟩, fun _ => ⟨rfl, rfl⟩⟩
  | cons row rows ih =>
    obtain ⟨hcontent, hstaged⟩ := hstep s m row hs
    unfold stepRows
    rcases hcall : step s row with ⟨status, s'⟩
    rw [hcall] at hcontent hstaged
    cases status with
    | ok =>
      obtain ⟨hkept, m', hm', ⟨rest, hrest⟩, hend⟩ := ih hstaged
      refine ⟨hkept.trans hcontent, m', hm', ⟨rest, ?_⟩, fun hdone => ?_⟩
      · rw [List.map_cons, ← hrest]
        rfl
      · obtain ⟨hmap, hcalls⟩ := hend hdone
        refine ⟨hmap, ?_⟩
        rw [List.map_cons, ← hcalls]
    | _ =>
      exact ⟨hcontent, _, hstaged, ⟨rows.map call, rfl⟩, fun hdone => by cases hdone⟩

theorem putRows_spec (h : Transactional P content staged) {s : σ} {m : Content} {rows : List Row}
    (hs : staged s = some (txn, m)) :
    LoopResult content staged txn s (putRows P txn s rows) (putAll m rows)
      (rows.map fun row => .put row.1 row.2) := by
  rw [putRows_eq]
  exact stepRows_spec (fun s m row hs => h.put s txn m row.1 row.2 hs) hs

theorem eraseRows_spec (h : Transactional P content staged) {s : σ} {m : Content}
    {rows others : List Row} (hs : staged s = some (txn, m)) :
    LoopResult content staged txn s (eraseRows P txn s rows others)
      (eraseAll m (minus bytesCompare rows others))
      ((minus bytesCompare rows others).map fun row => .erase row.1) := by
  rw [eraseRows_eq]
  exact stepRows_spec (fun s m row hs => h.erase s txn m row.1 hs) hs

end Loops

/-! ### Plans -/

section Plans

variable {P : Provider σ τ} {content : σ → Content} {staged : σ → Option (τ × Content)}
  {beforeCommit : σ → σ} {beginView finalView : List Row} {s : σ}

/-- The calls of a plan that goes through: each final row is put once, and each key that only the
first view has is erased once. -/
def planCalls (beginView finalView : List Row) : List Call :=
  [.capacity, .begin] ++ finalView.map (fun row => .put row.1 row.2) ++
    (beginView.filter fun row => (finalView.lookup row.1).isNone).map (fun row => .erase row.1) ++
    [.commit]

/-- A call that changes nothing. -/
def Call.harmless : Call → Bool
  | .capacity | .begin | .rollback => true
  | .put _ _ | .erase _ | .commit => false

/-- How a plan ends. -/
structure PlanSound (P : Provider σ τ) (content : σ → Content) (staged : σ → Option (τ × Content))
    (beginView finalView : List Row) (o : Outcome σ) : Prop where
  closed : staged o.provider = none
  ok : o.status = .ok → content o.provider = viewMap finalView ∧
    o.calls = planCalls beginView finalView
  commit : o.result.commitAttempted = true → ∃ s txn, P.commit s txn = (o.status, o.provider)
  noCommit : o.result.commitAttempted = false → o.status ≠ .ok ∧
    content o.provider = viewMap beginView
  noStart : o.result.transactionStarted = false → ∀ c ∈ o.calls, c.harmless = true

/-- A plan that ends before its transaction. -/
theorem planSound_early {status : EspStorage.Status} {result : Result} {calls : List Call}
    (hstaged : staged s = none) (hcontent : content s = viewMap beginView) (hstatus : status ≠ .ok)
    (hcommit : result.commitAttempted = false) (hcalls : ∀ c ∈ calls, c.harmless = true) :
    PlanSound P content staged beginView finalView ⟨status, result, s, calls⟩ where
  closed := hstaged
  ok := fun hok => absurd hok hstatus
  commit := fun hdone => by
    rw [hcommit] at hdone
    cases hdone
  noCommit := fun _ => ⟨hstatus, hcontent⟩
  noStart := fun _ => hcalls

/-- A plan that gives its transaction back. -/
theorem planSound_rollback (h : Transactional P content staged) {status : EspStorage.Status}
    {txn : τ}
    {m : Content} {result : Result} {calls : List Call} (hstaged : staged s = some (txn, m))
    (hcontent : content s = viewMap beginView) (hstatus : status ≠ .ok)
    (hcommit : result.commitAttempted = false)
    (hcalls : result.transactionStarted = false → ∀ c ∈ calls, c.harmless = true) :
    PlanSound P content staged beginView finalView
      (rollbackFailure P txn status result s calls) := by
  obtain ⟨hnone, hkept⟩ := h.rollback s txn m hstaged
  unfold rollbackFailure
  refine ⟨hnone, fun hok => absurd hok hstatus, fun hdone => ?_, fun _ => ?_, fun hstart => ?_⟩
  · rw [show result.commitAttempted = true from hdone] at hcommit
    cases hcommit
  · exact ⟨hstatus, hkept.trans hcontent⟩
  · intro c hc
    rcases List.mem_append.1 hc with hc | hc
    · exact hcalls hstart c hc
    · rw [List.mem_singleton.1 hc]
      rfl

/-- The map of a transaction that puts the final view and erases the rest of the first. -/
theorem viewMap_of_plan (hbegin : Increasing beginView) (hfinal : Increasing finalView) :
    eraseAll (putAll (viewMap beginView) finalView) (minus bytesCompare beginView finalView) =
      viewMap finalView :=
  putAll_eraseAll_minus beginView finalView hbegin hfinal

theorem runTransaction_sound (h : Transactional P content staged)
    (hhook : ∀ s, content (beforeCommit s) = content s ∧ staged (beforeCommit s) = staged s)
    (hbegin : Increasing beginView) (hfinal : Increasing finalView) {txn : τ} {result : Result}
    (hstart : result.transactionStarted = true) (hcommit : result.commitAttempted = false)
    (hstaged : staged s = some (txn, content s)) (hcontent : content s = viewMap beginView) :
    PlanSound P content staged beginView finalView
      (runTransaction P beforeCommit beginView finalView txn result s [.capacity, .begin]) := by
  have hlate (calls : List Call) (hno : result.transactionStarted = false) :
      ∀ c ∈ calls, c.harmless = true := by
    rw [hstart] at hno
    cases hno
  rw [hcontent] at hstaged
  obtain ⟨hputKept, m₁, hput, -, hputEnd⟩ := @putRows_spec σ τ P content staged txn h s _ finalView
    hstaged
  unfold runTransaction
  rcases hputs : putRows P txn s finalView with ⟨status, s₁, puts⟩
  rw [hputs] at hputKept hput hputEnd
  have hcontent₁ : content s₁ = viewMap beginView := hputKept.trans hcontent
  cases status with
  | ok =>
    obtain ⟨rfl, rfl⟩ := hputEnd rfl
    obtain ⟨heraseKept, m₂, herase, -, heraseEnd⟩ :=
      @eraseRows_spec σ τ P content staged txn h s₁ _ beginView finalView hput
    dsimp only
    rcases herases : eraseRows P txn s₁ beginView finalView with ⟨status, s₂, erases⟩
    rw [herases] at heraseKept herase heraseEnd
    have hcontent₂ : content s₂ = viewMap beginView := heraseKept.trans hcontent₁
    cases status with
    | ok =>
      obtain ⟨rfl, rfl⟩ := heraseEnd rfl
      have hmap := viewMap_of_plan hbegin hfinal
      obtain ⟨hhookContent, hhookStaged⟩ := hhook s₂
      obtain ⟨hnone, hdone⟩ := h.commit (beforeCommit s₂) txn _ (hhookStaged.trans herase)
      refine ⟨hnone, fun hok => ⟨(hdone hok).trans hmap, ?_⟩, fun _ => ⟨_, txn, rfl⟩,
        (fun hno => by cases hno), hlate _⟩
      show _ = planCalls beginView finalView
      rw [planCalls, ← minus_eq_filter beginView finalView hbegin hfinal]
    | _ =>
      exact planSound_rollback h herase hcontent₂ (by decide) hcommit (hlate _)
  | _ =>
    exact planSound_rollback h hput hcontent₁ (by decide) hcommit (hlate _)

theorem startTransaction_sound (h : Transactional P content staged)
    (hhook : ∀ s, content (beforeCommit s) = content s ∧ staged (beforeCommit s) = staged s)
    (hbegin : Increasing beginView) (hfinal : Increasing finalView) {result : Result}
    (hcommit : result.commitAttempted = false) (hstaged : staged s = none)
    (hcontent : content s = viewMap beginView) :
    PlanSound P content staged beginView finalView
      (startTransaction P beforeCommit beginView finalView result s [.capacity]) := by
  obtain ⟨hkept, hopened⟩ := h.begin s hstaged
  have hharmless : ∀ c ∈ [Call.capacity] ++ [Call.begin], c.harmless = true := by decide
  unfold startTransaction
  rcases hstart : P.begin s with ⟨status, txn?, s'⟩
  rw [hstart] at hkept hopened
  have hcontent' : content s' = viewMap beginView := hkept.trans hcontent
  cases txn? with
  | none =>
    cases status with
    | ok | _ => exact planSound_early hopened hcontent' (by decide) hcommit hharmless
  | some txn =>
    cases status with
    | ok =>
      refine runTransaction_sound h hhook hbegin hfinal rfl hcommit ?_ hcontent'
      rw [show content s' = content s from hkept]
      exact hopened
    | _ =>
      exact planSound_rollback h hopened hcontent' (by decide) hcommit fun _ => hharmless

/-- **A plan over a provider that holds the first view: if it returns `ok`, the provider holds the
final view, and each final row was put once and each key that only the first view has was erased
once; if it returns without its commit, the provider holds the first view. No transaction stays
open, and without a transaction nothing was put or erased.** -/
theorem canonical_apply_sound (h : Transactional P content staged)
    (hhook : ∀ s, content (beforeCommit s) = content s ∧ staged (beforeCommit s) = staged s)
    (hstaged : staged s = none) (hcontent : content s = viewMap beginView) :
    PlanSound P content staged beginView finalView
      (canonicalApply P beforeCommit beginView finalView s) := by
  have hnone : ∀ c ∈ ([] : List Call), c.harmless = true := by decide
  have hone : ∀ c ∈ [Call.capacity], c.harmless = true := by decide
  unfold canonicalApply
  obtain ⟨hkept, hclosed⟩ := h.capacity s
  rcases hcapacity : P.capacity s with ⟨status, c, s'⟩
  rw [hcapacity] at hkept hclosed
  have hstaged' : staged s' = none := hclosed.trans hstaged
  have hcontent' : content s' = viewMap beginView := hkept.trans hcontent
  cases hbegin : viewMetrics beginView with
  | none => exact planSound_early hstaged hcontent (by decide) rfl hnone
  | some m =>
    obtain ⟨beginEntries, beginBytes⟩ := m
    dsimp only
    cases hfinal : viewMetrics finalView with
    | none => exact planSound_early hstaged hcontent (by decide) rfl hnone
    | some m' =>
      obtain ⟨finalEntries, finalBytes⟩ := m'
      dsimp only
      by_cases hempty : beginView.length = 0 ∧ finalView.length = 0
      · rw [if_pos hempty]
        exact planSound_early hstaged hcontent (by decide) rfl hnone
      rw [if_neg hempty]
      by_cases hstatus : status ≠ .ok
      · rw [if_pos hstatus]
        by_cases hshape : capacityNonOkShape c = true
        · rw [if_pos hshape]
          exact planSound_early hstaged' hcontent' hstatus rfl hone
        · rw [if_neg hshape]
          exact planSound_early hstaged' hcontent' (by decide) rfl hone
      rw [if_neg hstatus]
      by_cases hused : capacityOkShape c = false ∨ c.usedEntries ≠ beginEntries ∨
          c.usedBytes ≠ beginBytes
      · rw [if_pos hused]
        exact planSound_early hstaged' hcontent' (by decide) rfl hone
      rw [if_neg hused]
      cases checkedAddU64 beginEntries finalEntries with
      | none => exact planSound_early hstaged' hcontent' (by decide) rfl hone
      | some stagingEntries =>
        cases checkedAddU64 beginBytes finalBytes with
        | none => exact planSound_early hstaged' hcontent' (by decide) rfl hone
        | some stagingBytes =>
          dsimp only
          by_cases hspace : beginEntries > c.maxEntries ∨ finalEntries > c.maxEntries ∨
              beginBytes > c.maxBytes ∨ finalBytes > c.maxBytes
          · rw [if_pos hspace]
            exact planSound_early hstaged' hcontent' (by decide) rfl hone
          · rw [if_neg hspace]
            exact startTransaction_sound h hhook (viewMetrics_sorted hbegin)
              (viewMetrics_sorted hfinal) rfl hstaged' hcontent'

end Plans

/-! ### A provider in memory -/

/-- The rows of a namespace, and those of its open transaction. -/
structure MemoryStore where
  rows : List Row
  staged : Option (List Row) := none

/-- Eight entries of 4096 bytes together. -/
def memoryProvider : Provider MemoryStore Unit where
  capacity := fun s => (.ok, ⟨true, 8, s.rows.length, 4096, (s.rows.map rowBytes).sum⟩, s)
  begin := fun s => (.ok, some (), { s with staged := some s.rows })
  put := fun s _ key value => (.ok, ⟨s.rows, s.staged.map fun rows =>
    (key, value) :: rows.filter fun row => row.1 ≠ key⟩)
  erase := fun s _ key => (.ok, ⟨s.rows, s.staged.map fun rows =>
    rows.filter fun row => row.1 ≠ key⟩)
  commit := fun s _ => (.ok, { rows := s.staged.getD s.rows })
  rollback := fun s _ => (.ok, { s with staged := none })

/-- The open transaction of a store in memory. -/
def MemoryStore.open (s : MemoryStore) : Option (Unit × Content) :=
  s.staged.map fun rows => ((), viewMap rows)

theorem memoryProvider_transactional :
    Transactional memoryProvider (fun s => viewMap s.rows) MemoryStore.open where
  capacity := fun _ => ⟨rfl, rfl⟩
  begin := fun _ _ => ⟨rfl, rfl⟩
  put := fun s txn m key value hs => by
    obtain ⟨rows, hrows, heq⟩ := Option.map_eq_some_iff.1 hs
    obtain rfl : viewMap rows = m := congrArg Prod.snd heq
    refine ⟨rfl, ?_⟩
    have hmap : viewMap ((key, value) :: rows.filter fun row => row.1 ≠ key) =
        Function.update (viewMap rows) key (some value) := by
      funext k
      rw [viewMap, List.lookup_cons, lookup_filter_ne]
      by_cases hk : k = key
      · rw [hk, beq_self_eq_true, Function.update_self]
      · rw [beq_false_of_ne hk, if_neg hk, Function.update_of_ne hk]
        rfl
    show Option.map _ (s.staged.map _) = _
    rw [hrows, Option.map_some, Option.map_some, hmap]
    rfl
  erase := fun s txn m key hs => by
    obtain ⟨rows, hrows, heq⟩ := Option.map_eq_some_iff.1 hs
    obtain rfl : viewMap rows = m := congrArg Prod.snd heq
    refine ⟨rfl, ?_⟩
    have hmap : viewMap (rows.filter fun row => row.1 ≠ key) =
        Function.update (viewMap rows) key none := by
      funext k
      rw [viewMap, lookup_filter_ne]
      by_cases hk : k = key
      · rw [if_pos hk, hk, Function.update_self]
      · rw [if_neg hk, Function.update_of_ne hk]
        rfl
    show Option.map _ (s.staged.map _) = _
    rw [hrows, Option.map_some, Option.map_some, hmap]
    rfl
  commit := fun s txn m hs => by
    obtain ⟨rows, hrows, heq⟩ := Option.map_eq_some_iff.1 hs
    obtain rfl : viewMap rows = m := congrArg Prod.snd heq
    refine ⟨rfl, fun _ => ?_⟩
    show viewMap (s.staged.getD s.rows) = _
    rw [hrows, Option.getD_some]
  rollback := fun _ _ _ _ => ⟨rfl, rfl⟩

/-- **A plan over two rows: one is replaced, one erased and one added.** -/
theorem canonical_apply_sound_memory :
    PlanSound memoryProvider (fun s => viewMap s.rows) MemoryStore.open [([1], [7]), ([2], [8])]
      [([1], [9]), ([3], [])]
      (canonicalApply memoryProvider id [([1], [7]), ([2], [8])] [([1], [9]), ([3], [])]
        { rows := [([1], [7]), ([2], [8])] }) :=
  canonical_apply_sound memoryProvider_transactional (fun _ => ⟨rfl, rfl⟩) rfl rfl

end Ninlil.CanonicalPlan
