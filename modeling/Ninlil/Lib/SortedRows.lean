import Mathlib

/-!
# Association lists in key order

Rows of keys and values, the keys increasing in a strict order: such a list is a finite map, and
the map determines it.

* `Sorted`: the keys increase;
* `Sorted.lookup_eq_some_iff`: looking up is membership;
* `Sorted.eq_of_lookup`: two lists in order that answer alike are the same;
* `lookup_filter_ne`: dropping a key;
* `Boundary`: where the keys below a key end, as a binary search finds it;
* `putAll`, `eraseAll`: rows that are put into a map, or taken out of it;
* `minus`: the rows of one list whose keys the other has not, as a merge finds them.
-/

namespace Ninlil
namespace SortedRows

variable {κ υ : Type*} {lt : κ → κ → Prop} {rows rows' : List (κ × υ)} {k : κ} {v : υ}

/-- The keys of the rows increase. -/
def Sorted (lt : κ → κ → Prop) (rows : List (κ × υ)) : Prop :=
  rows.Pairwise fun left right => lt left.1 right.1

/-! ### Lookup -/

theorem lookup_filter_ne [BEq κ] [LawfulBEq κ] [DecidableEq κ] (key : κ) :
    (rows.filter fun row => row.1 ≠ key).lookup k = if k = key then none else rows.lookup k := by
  induction rows with
  | nil => simp
  | cons row rows ih =>
    by_cases hrow : row.1 = key
    · rw [List.filter_cons_of_neg (by simpa using hrow), ih, List.lookup_cons]
      by_cases hk : k = key
      · rw [if_pos hk, if_pos hk]
      · have hne : (k == row.1) = false := by simpa [hrow] using hk
        simp [hk, hne]
    · rw [List.filter_cons_of_pos (by simpa using hrow), List.lookup_cons, List.lookup_cons, ih]
      by_cases hk : k = key
      · have hne : (k == row.1) = false := by simpa [hk] using Ne.symm hrow
        simp [hk, hk ▸ hne]
      · simp [hk]

/-- A filter that looks at the keys only. -/
theorem lookup_filter_key [BEq κ] [LawfulBEq κ] (p : κ → Bool) :
    (rows.filter fun row => p row.1).lookup k = if p k then rows.lookup k else none := by
  induction rows with
  | nil => simp
  | cons row rows ih =>
    by_cases hk : k = row.1
    · cases hp : p row.1 with
      | true =>
        rw [List.filter_cons_of_pos (by simp [hp]), hk, hp, List.lookup_cons, List.lookup_cons,
          beq_self_eq_true, if_pos rfl]
      | false =>
        rw [List.filter_cons_of_neg (by simp [hp]), ih, hk, hp]
        rfl
    · have hne : (k == row.1) = false := by simpa using hk
      rw [List.lookup_cons, hne]
      cases hp : p row.1 with
      | true =>
        rw [List.filter_cons_of_pos (by simp [hp]), List.lookup_cons, hne]
        exact ih
      | false =>
        rw [List.filter_cons_of_neg (by simp [hp])]
        exact ih

variable [Std.Irrefl lt]

theorem Sorted.nodup (h : Sorted lt rows) : rows.Nodup := by
  have : Std.Irrefl fun left right : κ × υ => lt left.1 right.1 :=
    ⟨fun row => Std.Irrefl.irrefl row.1⟩
  exact List.Pairwise.nodup h

variable [BEq κ] [LawfulBEq κ]

theorem Sorted.lookup_eq_some_iff (h : Sorted lt rows) : rows.lookup k = some v ↔ (k, v) ∈ rows := by
  induction rows with
  | nil => simp
  | cons row rows ih =>
    obtain ⟨hrow, hrows⟩ := List.pairwise_cons.1 h
    rw [List.lookup_cons, List.mem_cons]
    by_cases hk : k = row.1
    · -- no later row has this key
      have hlater : (k, v) ∉ rows := fun hmem =>
        Std.Irrefl.irrefl k (hk ▸ hrow (k, v) hmem : lt k k)
      simp [hk, hk ▸ hlater, Prod.ext_iff, eq_comm]
    · have hne : (k == row.1) = false := by simpa using hk
      have hpair : (k, v) ≠ row := fun heq => hk (congrArg Prod.fst heq)
      simp [hne, hpair, ih hrows]

/-- Rows in order are determined by what they answer. -/
theorem Sorted.eq_of_lookup [IsTrans κ lt] (h : Sorted lt rows) (h' : Sorted lt rows')
    (heq : ∀ k, rows.lookup k = rows'.lookup k) : rows = rows' := by
  have hmem : ∀ row, row ∈ rows ↔ row ∈ rows' := by
    rintro ⟨k, v⟩
    rw [← h.lookup_eq_some_iff, ← h'.lookup_eq_some_iff, heq]
  refine List.Perm.eq_of_pairwise (fun a b _ _ hab hba => ?_) h h'
    ((List.perm_ext_iff_of_nodup h.nodup h'.nodup).2 hmem)
  exact absurd (IsTrans.trans _ _ _ hab hba) (Std.Irrefl.irrefl a.1)

/-! ### Binary search -/

/-- All rows before `low` are below the key, and none of the others is. -/
structure Boundary (lt : κ → κ → Prop) (rows : List (κ × υ)) (key : κ) (low : ℕ) : Prop where
  before : ∀ i row, i < low → rows[i]? = some row → lt row.1 key
  after : ∀ i row, low ≤ i → rows[i]? = some row → ¬ lt row.1 key

omit [BEq κ] [LawfulBEq κ] in
/-- A row with the key can only be the one at the boundary. -/
theorem Boundary.getElem? [IsTrans κ lt] {key : κ} {low : ℕ} (hb : Boundary lt rows key low)
    (h : Sorted lt rows) (hmem : (key, v) ∈ rows) : rows[low]? = some (key, v) := by
  obtain ⟨i, hi, hrow⟩ := List.getElem_of_mem hmem
  have hi? : rows[i]? = some (key, v) := by rw [List.getElem?_eq_getElem hi, hrow]
  have hle : low ≤ i := by
    by_contra hlt
    exact Std.Irrefl.irrefl key (hb.before i _ (by omega) hi?)
  rcases Nat.eq_or_lt_of_le hle with rfl | hlt
  · exact hi?
  · -- the row at the boundary would be below the key
    have hlow : low < rows.length := by omega
    have hrel := List.pairwise_iff_getElem.1 h low i hlow hi hlt
    rw [hrow] at hrel
    exact absurd hrel (hb.after low _ le_rfl (List.getElem?_eq_getElem hlow))

/-! ### Difference -/

/-- A merge of two lists in order that keeps the rows of the first whose keys the second has not. -/
def minus (cmp : κ → κ → Ordering) : List (κ × υ) → List (κ × υ) → List (κ × υ)
  | [], _ => []
  | row :: rows, [] => row :: minus cmp rows []
  | row :: rows, other :: others =>
    match cmp row.1 other.1 with
    | .lt => row :: minus cmp rows (other :: others)
    | .eq => minus cmp rows others
    | .gt => minus cmp (row :: rows) others
  termination_by rows others => rows.length + others.length

omit [Std.Irrefl lt] in
/-- A key that differs from all of the rows is not among them. -/
theorem lookup_eq_none_of_ne (h : ∀ row ∈ rows, k ≠ row.1) : rows.lookup k = none := by
  rw [List.lookup_eq_none_iff]
  intro row hrow
  rw [bne_iff_ne]
  exact h row hrow

omit [Std.Irrefl lt] in
theorem minus_eq_filter {cmp : κ → κ → Ordering} [Std.TransCmp cmp] [Std.LawfulEqCmp cmp]
    (rows others : List (κ × υ)) (h : Sorted (fun a b => cmp a b = .lt) rows)
    (h' : Sorted (fun a b => cmp a b = .lt) others) :
    minus cmp rows others = rows.filter fun row => (others.lookup row.1).isNone := by
  have hirrefl : Std.Irrefl fun a b : κ => cmp a b = .lt :=
    ⟨fun a ha => by rw [@Std.ReflCmp.compare_self κ cmp _ a] at ha; cases ha⟩
  induction rows, others using minus.induct cmp with
  | case1 others => rw [minus, List.filter_nil]
  | case2 row rows ih =>
    rw [minus, ih (List.pairwise_cons.1 h).2 h', List.filter_cons_of_pos rfl]
  | case3 row rows other others hcmp ih =>
    obtain ⟨hlater, hothers⟩ := List.pairwise_cons.1 h'
    have habsent : (other :: others).lookup row.1 = none := by
      have hbelow : ∀ row' ∈ other :: others, cmp row.1 row'.1 = .lt := by
        intro row' hrow'
        rcases List.mem_cons.1 hrow' with rfl | hrow'
        · exact hcmp
        · exact Std.TransCmp.lt_trans hcmp (hlater row' hrow')
      refine lookup_eq_none_of_ne fun row' hrow' heq => ?_
      exact hirrefl.irrefl _ (heq ▸ hbelow row' hrow')
    rw [minus, hcmp]
    dsimp only
    rw [ih (List.pairwise_cons.1 h).2 h', List.filter_cons_of_pos (by rw [habsent]; rfl)]
  | case4 row rows other others hcmp ih =>
    obtain ⟨hbehind, hrows⟩ := List.pairwise_cons.1 h
    have hkey : row.1 = other.1 := Std.LawfulEqCmp.compare_eq_iff_eq.1 hcmp
    have hfound : ((other :: others).lookup row.1).isNone = false := by
      rw [List.lookup_cons, hkey, beq_self_eq_true]
      rfl
    rw [minus, hcmp]
    dsimp only
    rw [ih hrows (List.pairwise_cons.1 h').2, List.filter_cons_of_neg (by rw [hfound]; decide)]
    refine List.filter_congr fun row' hrow' => ?_
    have hne : (row'.1 == other.1) = false := by
      rw [beq_eq_false_iff_ne, ← hkey]
      intro heq
      exact hirrefl.irrefl _ (heq ▸ hbehind row' hrow')
    rw [List.lookup_cons, hne]
  | case5 row rows other others hcmp ih =>
    rw [minus, hcmp]
    dsimp only
    rw [ih h (List.pairwise_cons.1 h').2]
    refine List.filter_congr fun row' hrow' => ?_
    have hbelow : cmp other.1 row.1 = .lt := Std.OrientedCmp.gt_iff_lt.1 hcmp
    have habove : cmp other.1 row'.1 = .lt := by
      rcases List.mem_cons.1 hrow' with rfl | hrow'
      · exact hbelow
      · exact Std.TransCmp.lt_trans hbelow ((List.pairwise_cons.1 h).1 row' hrow')
    have hne : (row'.1 == other.1) = false := by
      rw [beq_eq_false_iff_ne]
      intro heq
      exact hirrefl.irrefl _ (heq ▸ habove)
    rw [List.lookup_cons, hne]

end SortedRows

/-! ### Maps -/

namespace SortedRows

variable {κ υ : Type*} [DecidableEq κ] [BEq κ] [LawfulBEq κ] {lt : κ → κ → Prop}
  {rows : List (κ × υ)} {k : κ}

/-- The rows are put into a map, one after the other. -/
def putAll (m : κ → Option υ) (rows : List (κ × υ)) : κ → Option υ :=
  rows.foldl (fun m row => Function.update m row.1 (some row.2)) m

/-- The keys of the rows are taken out of a map. -/
def eraseAll (m : κ → Option υ) (rows : List (κ × υ)) : κ → Option υ :=
  rows.foldl (fun m row => Function.update m row.1 none) m

theorem eraseAll_apply (m : κ → Option υ) (rows : List (κ × υ)) (k : κ) :
    eraseAll m rows k = if (rows.lookup k).isSome then none else m k := by
  induction rows generalizing m with
  | nil => rfl
  | cons row rows ih =>
    have hstep : eraseAll m (row :: rows) = eraseAll (Function.update m row.1 none) rows := rfl
    rw [hstep, ih, List.lookup_cons]
    by_cases hk : k = row.1
    · rw [hk, beq_self_eq_true, Function.update_self, ite_self]
      rfl
    · have hne : (k == row.1) = false := by simpa using hk
      rw [hne, Function.update_of_ne hk]

theorem Sorted.putAll_apply [Std.Irrefl lt] (h : Sorted lt rows) (m : κ → Option υ) (k : κ) :
    putAll m rows k = (rows.lookup k).or (m k) := by
  induction rows generalizing m with
  | nil => rfl
  | cons row rows ih =>
    obtain ⟨hrow, hrows⟩ := List.pairwise_cons.1 h
    have hstep : putAll m (row :: rows) =
        putAll (Function.update m row.1 (some row.2)) rows := rfl
    rw [hstep, ih hrows, List.lookup_cons]
    by_cases hk : k = row.1
    · -- no later row has this key
      have hlater : rows.lookup k = none := by
        rw [List.lookup_eq_none_iff]
        intro row' hrow'
        rw [bne_iff_ne, hk]
        intro heq
        have hlt := hrow row' hrow'
        rw [← heq] at hlt
        exact Std.Irrefl.irrefl _ hlt
      rw [hlater, hk, beq_self_eq_true, Function.update_self]
      rfl
    · have hne : (k == row.1) = false := by simpa using hk
      rw [hne, Function.update_of_ne hk]

/-- The rows of the one list put over those of the other, and the keys that only the other has
taken out: the one list. -/
theorem putAll_eraseAll_minus {cmp : κ → κ → Ordering} [Std.TransCmp cmp]
    [Std.LawfulEqCmp cmp] (rows others : List (κ × υ))
    (h : Sorted (fun a b => cmp a b = .lt) rows) (h' : Sorted (fun a b => cmp a b = .lt) others) :
    eraseAll (putAll (fun k => rows.lookup k) others) (minus cmp rows others) =
      fun k => others.lookup k := by
  have hirrefl : Std.Irrefl fun a b : κ => cmp a b = .lt :=
    ⟨fun a ha => by rw [@Std.ReflCmp.compare_self κ cmp _ a] at ha; cases ha⟩
  funext k
  have hfilter : (rows.filter fun row => (others.lookup row.1).isNone).lookup k =
      if (others.lookup k).isNone then rows.lookup k else none :=
    lookup_filter_key fun key => (others.lookup key).isNone
  rw [eraseAll_apply, h'.putAll_apply, minus_eq_filter rows others h h',
    hfilter]
  cases others.lookup k with
  | some v => rfl
  | none =>
    cases rows.lookup k with
    | none | some => rfl

end SortedRows
end Ninlil
