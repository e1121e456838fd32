import Ninlil.EspStorage.SlotFormat

/-!
# Transaction views

The staged view of a transaction: lookup by binary search, and the rebuilds of `put` and `erase`,
which build a new view and replace the old one only on success.

* `findEntry`, `rebuildViewWithPut`, `rebuildViewWithoutKey`: the operations of the source;
* `insertRow`: the put on rows;
* `ViewOk`: what every view of a transaction satisfies, kept by both rebuilds.
-/

namespace Ninlil.EspStorage

open Bytes

/-! ### Lookup -/

/-- The loop of `find_entry`; `fuel` bounds its rounds. -/
def findEntryLoop (entries : List Entry) (key : List UInt8) : ℕ → ℕ → ℕ → ℕ
  | 0, low, _ => low
  | fuel + 1, low, high =>
    if low < high then
      let middle := low + (high - low) / 2
      match entries[middle]? with
      | some entry =>
        if bytesCompare entry.key key = .lt then findEntryLoop entries key fuel (middle + 1) high
        else findEntryLoop entries key fuel low middle
      | none => low
    else low

/-- `find_entry`: the entry with the key, if there is one. -/
def findEntry (view : View) (key : List UInt8) : Option Entry :=
  let low := findEntryLoop view.entries key view.entries.length 0 view.entries.length
  view.entries[low]?.filter fun entry => bytesCompare entry.key key == .eq

/-! ### Rebuilding -/

def appendEntryToView (view : View) (key value : List UInt8) : Option View :=
  let logical := 16 + key.length + value.length
  if view.entries.length ≥ hardMaxEntries ∨ view.usedLogicalBytes > hardMaxLogicalBytes
      ∨ view.valueBlob.length > hardMaxLogicalBytes
      ∨ logical > hardMaxLogicalBytes - view.usedLogicalBytes
      ∨ value.length > hardMaxLogicalBytes - view.valueBlob.length then none
  else
    some
      { entries := view.entries ++
          [{ key := key
             valueLength := value.length
             valueOffset := if value.length = 0 then 0 else view.valueBlob.length }]
        usedLogicalBytes := view.usedLogicalBytes + logical
        valueBlob := view.valueBlob ++ value }

def appendExistingEntry (dest source : View) (entry : Entry) : Option View :=
  if entry.valueOffset > source.valueBlob.length
      ∨ entry.valueLength > source.valueBlob.length - entry.valueOffset then none
  else appendEntryToView dest entry.key (source.value entry)

/-- The loop of `rebuild_view_with_put`, with its `inserted` flag. -/
def putLoop (source : View) (key value : List UInt8) :
    List Entry → Bool → View → Option (Bool × View)
  | [], inserted, dest => some (inserted, dest)
  | entry :: entries, inserted, dest =>
    let compared := bytesCompare entry.key key
    if !inserted && compared != .lt then
      match appendEntryToView dest key value with
      | none => none
      | some dest =>
        if compared = .eq then putLoop source key value entries true dest
        else
          match appendExistingEntry dest source entry with
          | none => none
          | some dest => putLoop source key value entries true dest
    else
      match appendExistingEntry dest source entry with
      | none => none
      | some dest => putLoop source key value entries inserted dest

def rebuildViewWithPut (view : View) (key value : List UInt8) : Option View :=
  if value.length > slotBytes then none
  else
    match putLoop view key value view.entries false {} with
    | none => none
    | some (true, dest) => some dest
    | some (false, dest) => appendEntryToView dest key value

/-- The loop of `rebuild_view_without_key`. -/
def eraseLoop (source : View) (key : List UInt8) : List Entry → View → Option View
  | [], dest => some dest
  | entry :: entries, dest =>
    if bytesCompare entry.key key = .eq then eraseLoop source key entries dest
    else
      match appendExistingEntry dest source entry with
      | none => none
      | some dest => eraseLoop source key entries dest

def rebuildViewWithoutKey (view : View) (key : List UInt8) : Option View :=
  eraseLoop view key view.entries {}

/-! ### Well-formed views -/

/-- What every view of a transaction satisfies. -/
structure ViewOk (view : View) : Prop where
  inBlob : view.InBlob
  row : ∀ row ∈ view.rows, RowOk row
  increase : RowsIncrease view.rows
  used : view.usedLogicalBytes = logicalBytes view.entries

/-- A view that is within the persisted capacity can be stored. -/
theorem ViewOk.storable {view : View} (h : ViewOk view)
    (hcount : view.entries.length ≤ persistedMaxEntries)
    (hbytes : view.usedLogicalBytes ≤ persistedMaxLogicalBytes) : Storable view.rows where
  row := h.row
  increase := h.increase
  count := by rw [View.length_rows]; exact hcount
  bytes := by rw [h.inBlob.rowBytes_rows, ← h.used]; exact hbytes

theorem viewOk_ofRows {rows : List (List UInt8 × List UInt8)} (h : Storable rows) :
    ViewOk (View.ofRows rows) where
  inBlob := View.inBlob_ofRows rows
  row := by rw [View.rows_ofRows]; exact h.row
  increase := by rw [View.rows_ofRows]; exact h.increase
  used := rfl

/-! ### The rows of a rebuilt view -/

variable {source dest view view' : View} {key value : List UInt8} {entry : Entry}
  {entries : List Entry} {rows : List (List UInt8 × List UInt8)}

/-- A view under construction, with the rows it has so far. -/
structure Built (view : View) (rows : List (List UInt8 × List UInt8)) : Prop where
  inBlob : view.InBlob
  rows_eq : view.rows = rows
  used : view.usedLogicalBytes = logicalBytes view.entries

/-- What holds of the empty view and is kept when a row is appended. -/
structure Appends (P : View → List (List UInt8 × List UInt8) → Prop) : Prop where
  empty : P {} []
  append : ∀ {dest rows key value view'}, P dest rows →
    appendEntryToView dest key value = some view' → P view' (rows ++ [(key, value)])

theorem appends_built : Appends Built where
  empty := ⟨View.inBlob_empty, rfl, rfl⟩
  append {dest rows key value view'} h ha := by
    unfold appendEntryToView at ha
    rw [Option.ite_none_left_eq_some, Option.some.injEq] at ha
    obtain ⟨-, rfl⟩ := ha
    refine ⟨?_, ?_, ?_⟩
    · intro e he hz
      simp only [List.mem_append, List.mem_singleton, List.length_append] at he ⊢
      rcases he with he | rfl
      · have := h.inBlob e he hz
        omega
      · simp only at hz ⊢
        rw [if_neg hz]
    · simp only [View.rows, List.map_append, List.map_cons, List.map_nil, View.value, ← h.rows_eq]
      congr 1
      · apply List.map_congr_left
        intro e he
        by_cases hz : e.valueLength = 0
        · simp [hz, slice]
        · rw [slice_append_left (h.inBlob e he hz)]
      · by_cases hz : value.length = 0
        · rw [List.length_eq_zero_iff.1 hz]
          simp [slice]
        · rw [if_neg hz, slice_append_right le_rfl, Nat.sub_self, slice_self rfl]
    · simp [h.used, logicalBytes, Entry.logicalBytes]

variable {P : View → List (List UInt8 × List UInt8) → Prop}

theorem Appends.existing (hP : Appends P) (h : P dest rows)
    (ha : appendExistingEntry dest source entry = some view') :
    P view' (rows ++ [(entry.key, source.value entry)]) := by
  simp only [appendExistingEntry] at ha
  split_ifs at ha
  exact hP.append h ha

/-- Rows with a key put among them: the first row with a key that is not smaller is replaced if
it has the same key, and pushed back otherwise. -/
def insertRow (key value : List UInt8) :
    List (List UInt8 × List UInt8) → List (List UInt8 × List UInt8)
  | [] => [(key, value)]
  | row :: rows =>
    match bytesCompare row.1 key with
    | .lt => row :: insertRow key value rows
    | .eq => (key, value) :: rows
    | .gt => (key, value) :: row :: rows

theorem Appends.putLoop_inserted (hP : Appends P) {inserted : Bool} (h : P dest rows)
    (hp : putLoop source key value entries true dest = some (inserted, view')) :
    inserted = true ∧
      P view' (rows ++ entries.map fun e => (e.key, source.value e)) := by
  induction entries generalizing dest rows with
  | nil =>
    simp only [putLoop, Option.some.injEq, Prod.mk.injEq] at hp
    obtain ⟨rfl, rfl⟩ := hp
    exact ⟨rfl, by simpa using h⟩
  | cons e entries ih =>
    simp only [putLoop, Bool.not_true, Bool.false_and, Bool.false_eq_true, if_false] at hp
    cases ha : appendExistingEntry dest source e with
    | none => simp [ha] at hp
    | some d =>
      simp only [ha] at hp
      simpa [List.append_assoc] using ih (hP.existing h ha) hp

/-- The put loop inserts, or it has passed smaller keys only. -/
theorem Appends.putLoop_rows (hP : Appends P) {inserted : Bool} (h : P dest rows)
    (hp : putLoop source key value entries false dest = some (inserted, view')) :
    (inserted = true ∧
        P view' (rows ++ insertRow key value (entries.map fun e => (e.key, source.value e)))) ∨
      (inserted = false ∧ P view' (rows ++ entries.map fun e => (e.key, source.value e)) ∧
        insertRow key value (entries.map fun e => (e.key, source.value e)) =
          (entries.map fun e => (e.key, source.value e)) ++ [(key, value)]) := by
  induction entries generalizing dest rows with
  | nil =>
    simp only [putLoop, Option.some.injEq, Prod.mk.injEq] at hp
    obtain ⟨rfl, rfl⟩ := hp
    exact .inr ⟨rfl, by simpa using h, rfl⟩
  | cons e entries ih =>
    cases hc : bytesCompare e.key key with
    | lt =>
      simp only [putLoop, hc, bne_self_eq_false, Bool.and_false, Bool.false_eq_true, if_false] at hp
      cases ha : appendExistingEntry dest source e with
      | none => simp [ha] at hp
      | some d =>
        simp only [ha] at hp
        rcases ih (hP.existing h ha) hp with ⟨rfl, hb⟩ | ⟨rfl, hb, hins⟩
        · exact .inl ⟨rfl, by simpa [insertRow, hc, List.append_assoc] using hb⟩
        · exact .inr ⟨rfl, by simpa [List.append_assoc] using hb, by simp [insertRow, hc, hins]⟩
    | eq =>
      have hne : (Ordering.eq != Ordering.lt) = true := rfl
      simp only [putLoop, hc, hne, Bool.not_false, Bool.and_self, if_true] at hp
      cases ha : appendEntryToView dest key value with
      | none => simp [ha] at hp
      | some d =>
        simp only [ha] at hp
        obtain ⟨rfl, hb⟩ := hP.putLoop_inserted (hP.append h ha) hp
        exact .inl ⟨rfl, by simpa [insertRow, hc, List.append_assoc] using hb⟩
    | gt =>
      have hne : (Ordering.gt != Ordering.lt) = true := rfl
      have hne' : ¬(Ordering.gt = Ordering.eq) := nofun
      simp only [putLoop, hc, hne, Bool.not_false, Bool.and_self, if_true, hne', if_false] at hp
      cases ha : appendEntryToView dest key value with
      | none => simp [ha] at hp
      | some d =>
        simp only [ha] at hp
        cases ha' : appendExistingEntry d source e with
        | none => simp [ha'] at hp
        | some d' =>
          simp only [ha'] at hp
          obtain ⟨rfl, hb⟩ := hP.putLoop_inserted (hP.existing (hP.append h ha) ha') hp
          exact .inl ⟨rfl, by simpa [insertRow, hc, List.append_assoc] using hb⟩

/-- **A put inserts its row.** -/
theorem Appends.put (hP : Appends P) (h : rebuildViewWithPut view key value = some view') :
    P view' (insertRow key value view.rows) := by
  simp only [rebuildViewWithPut] at h
  split_ifs at h
  cases hp : putLoop view key value view.entries false {} with
  | none => simp [hp] at h
  | some result =>
    obtain ⟨inserted, d⟩ := result
    rcases hP.putLoop_rows hP.empty hp with ⟨rfl, hb⟩ | ⟨rfl, hb, hins⟩
    · simp only [hp, Option.some.injEq] at h
      subst h
      exact hb
    · simp only [hp] at h
      have := hP.append hb h
      rw [View.rows, hins]
      exact this

theorem Appends.eraseLoop (hP : Appends P) (h : P dest rows)
    (he : eraseLoop source key entries dest = some view') :
    P view' (rows ++
      (entries.map fun e => (e.key, source.value e)).filter fun row => row.1 ≠ key) := by
  induction entries generalizing dest rows with
  | nil =>
    simp only [EspStorage.eraseLoop, Option.some.injEq] at he
    subst he
    simpa using h
  | cons e entries ih =>
    simp only [EspStorage.eraseLoop] at he
    by_cases hc : bytesCompare e.key key = .eq
    · rw [if_pos hc] at he
      simpa [bytesCompare_eq_iff.1 hc] using ih h he
    · rw [if_neg hc] at he
      have hk : e.key ≠ key := fun hk => hc (bytesCompare_eq_iff.2 hk)
      cases ha : appendExistingEntry dest source e with
      | none => simp [ha] at he
      | some d =>
        simp only [ha] at he
        simpa [hk, List.append_assoc] using ih (hP.existing h ha) he

/-- **An erase drops the row of its key.** -/
theorem Appends.erase (hP : Appends P) (h : rebuildViewWithoutKey view key = some view') :
    P view' (view.rows.filter fun row => row.1 ≠ key) :=
  hP.eraseLoop hP.empty h

/-! ### The order is kept -/

theorem rowsIncrease_iff_pairwise :
    RowsIncrease rows ↔ rows.Pairwise fun left right => bytesCompare left.1 right.1 = .lt := by
  have : IsTrans (List UInt8 × List UInt8) fun left right => bytesCompare left.1 right.1 = .lt :=
    ⟨fun _ _ _ h1 h2 => bytesCompare_trans h1 h2⟩
  exact List.isChain_iff_pairwise

theorem mem_insertRow {row : List UInt8 × List UInt8} (h : row ∈ insertRow key value rows) :
    row = (key, value) ∨ row ∈ rows := by
  induction rows with
  | nil => simpa [insertRow] using h
  | cons r rows ih =>
    rw [insertRow] at h
    split at h
    · rcases List.mem_cons.1 h with rfl | h
      · simp
      · rcases ih h with h | h
        · exact .inl h
        · simp [h]
    · rcases List.mem_cons.1 h with h | h
      · exact .inl h
      · simp [h]
    · rcases List.mem_cons.1 h with h | h
      · exact .inl h
      · exact .inr h

theorem RowsIncrease.insertRow (h : RowsIncrease rows) :
    RowsIncrease (insertRow key value rows) := by
  rw [rowsIncrease_iff_pairwise] at h ⊢
  induction rows with
  | nil => simp [EspStorage.insertRow]
  | cons r rows ih =>
    obtain ⟨hr, hrows⟩ := List.pairwise_cons.1 h
    rw [EspStorage.insertRow]
    split
    · rename_i hc
      refine List.pairwise_cons.2 ⟨fun row hrow => ?_, ih hrows⟩
      rcases mem_insertRow hrow with rfl | hrow
      · exact hc
      · exact hr row hrow
    · rename_i hc
      rw [bytesCompare_eq_iff] at hc
      exact List.pairwise_cons.2 ⟨fun row hrow => hc ▸ hr row hrow, hrows⟩
    · rename_i hc
      have hlt := bytesCompare_gt hc
      refine List.pairwise_cons.2 ⟨fun row hrow => ?_, h⟩
      rcases List.mem_cons.1 hrow with rfl | hrow
      · exact hlt
      · exact bytesCompare_trans hlt (hr row hrow)

/-- A put keeps the view well formed. -/
theorem ViewOk.put (h : ViewOk view) (hrow : RowOk (key, value))
    (hp : rebuildViewWithPut view key value = some view') : ViewOk view' := by
  have hb := appends_built.put hp
  refine ⟨hb.inBlob, ?_, ?_, hb.used⟩
  · rw [hb.rows_eq]
    intro row hmem
    rcases mem_insertRow hmem with rfl | hmem
    · exact hrow
    · exact h.row row hmem
  · rw [hb.rows_eq]
    exact h.increase.insertRow

/-- An erase keeps the view well formed. -/
theorem ViewOk.erase (h : ViewOk view) (he : rebuildViewWithoutKey view key = some view') :
    ViewOk view' := by
  have hb := appends_built.erase he
  refine ⟨hb.inBlob, ?_, ?_, hb.used⟩
  · rw [hb.rows_eq]
    exact fun row hmem => h.row row (List.mem_of_mem_filter hmem)
  · rw [hb.rows_eq, rowsIncrease_iff_pairwise]
    exact (rowsIncrease_iff_pairwise.1 h.increase).filter _

end Ninlil.EspStorage
