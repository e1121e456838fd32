import Ninlil.EspStorage.Model
import Ninlil.Lib.SortedRows

/-!
# The staged view is a sorted map

* `findEntry_map`: the binary search answers like the list of rows;
* `lookup_insertRow`: a put changes the answer for its key only;
* `View.build`, `View.shape`: the view that a rebuild makes of some rows, and a view with the
  offsets of empty values cleared;
* `Staged`: the invariant of a view under puts and erases;
* `Staged.erase_ne_none`: an erase never fails.
-/

namespace Ninlil.EspStorage

open Bytes SortedRows

/-- The order of keys. -/
def KeyLt (left right : List UInt8) : Prop := bytesCompare left right = .lt

instance : Std.Irrefl KeyLt where
  irrefl key h := by
    have heq : bytesCompare key key = .eq := bytesCompare_eq_iff.2 rfl
    rw [KeyLt, heq] at h
    cases h

instance : IsTrans (List UInt8) KeyLt where
  trans _ _ _ := bytesCompare_trans

variable {view view' : View} {key value : List UInt8} {rows : List (List UInt8 × List UInt8)}

theorem sorted_iff : Sorted KeyLt rows ↔ RowsIncrease rows := rowsIncrease_iff_pairwise.symm

/-! ### Lookup -/

/-- The binary search ends at the boundary of the keys below its own. -/
theorem findEntryLoop_boundary (h : Sorted KeyLt view.rows) (fuel low high : ℕ)
    (hlow : low ≤ high) (hhigh : high ≤ view.entries.length) (hfuel : high - low ≤ fuel)
    (hbefore : ∀ i row, i < low → view.rows[i]? = some row → KeyLt row.1 key)
    (hafter : ∀ i row, high ≤ i → view.rows[i]? = some row → ¬ KeyLt row.1 key) :
    Boundary KeyLt view.rows key (findEntryLoop view.entries key fuel low high) := by
  induction fuel generalizing low high with
  | zero =>
    have heq : high = low := by omega
    exact ⟨hbefore, heq ▸ hafter⟩
  | succ fuel ih =>
    rw [findEntryLoop]
    by_cases hlt : low < high
    swap
    · rw [if_neg hlt]
      have heq : high = low := by omega
      exact ⟨hbefore, heq ▸ hafter⟩
    rw [if_pos hlt]
    dsimp only
    have hm : low + (high - low) / 2 < view.entries.length := by omega
    generalize hmid : low + (high - low) / 2 = middle at hm ⊢
    have hrow : view.rows[middle]? =
        some (view.entries[middle].key, view.value view.entries[middle]) := by
      rw [View.rows, List.getElem?_map, List.getElem?_eq_getElem hm]
      rfl
    have hm' : middle < view.rows.length := by rw [View.length_rows]; exact hm
    rw [List.getElem?_eq_getElem hm]
    dsimp only
    by_cases hc : bytesCompare view.entries[middle].key key = .lt
    · -- everything up to the middle is below the key
      rw [if_pos hc]
      refine ih (middle + 1) high (by omega) hhigh (by omega) (fun i row hi hget => ?_) hafter
      rcases Nat.eq_or_lt_of_le (Nat.lt_succ_iff.1 hi) with rfl | hi
      · rw [hrow] at hget
        cases hget
        exact hc
      · obtain ⟨hi', rfl⟩ := List.getElem?_eq_some_iff.1 hget
        have hrel := List.pairwise_iff_getElem.1 h i middle hi' hm' hi
        rw [(List.getElem?_eq_some_iff.1 hrow).2] at hrel
        exact bytesCompare_trans hrel hc
    · -- nothing from the middle on is
      rw [if_neg hc]
      refine ih low middle (by omega) (by omega) (by omega) hbefore fun i row hi hget hrow' => ?_
      rcases Nat.eq_or_lt_of_le hi with rfl | hi
      · rw [hrow] at hget
        cases hget
        exact hc hrow'
      · obtain ⟨hi', rfl⟩ := List.getElem?_eq_some_iff.1 hget
        have hrel := List.pairwise_iff_getElem.1 h middle i hm' hi' hi
        rw [(List.getElem?_eq_some_iff.1 hrow).2] at hrel
        exact hc (bytesCompare_trans hrel hrow')

/-- **The binary search answers like the rows.** -/
theorem findEntry_map (h : RowsIncrease view.rows) :
    (findEntry view key).map view.value = view.rows.lookup key := by
  have hs := sorted_iff.2 h
  have hb := @findEntryLoop_boundary view key hs view.entries.length 0 view.entries.length
    (Nat.zero_le _) le_rfl (by omega) (fun _ _ hi => absurd hi (Nat.not_lt_zero _))
    fun i row hi hget => by
      rw [List.getElem?_eq_none (by rw [View.length_rows]; exact hi)] at hget
      cases hget
  unfold findEntry
  dsimp only
  generalize findEntryLoop view.entries key view.entries.length 0 view.entries.length = low at hb
  cases hl : view.rows.lookup key with
  | some v =>
    have hget := hb.getElem? hs (hs.lookup_eq_some_iff.1 hl)
    rw [View.rows, List.getElem?_map, Option.map_eq_some_iff] at hget
    obtain ⟨entry, hentry, heq⟩ := hget
    obtain ⟨hkey, hval⟩ := Prod.mk.inj heq
    have hc : (bytesCompare entry.key key == .eq) = true := by
      rw [bytesCompare_eq_iff.2 hkey]
      rfl
    simp only [hentry, Option.filter, hc, if_true, Option.map_some, hval]
  | none =>
    rw [Option.map_eq_none_iff, Option.filter_eq_none_iff]
    intro entry hentry
    rw [List.lookup_eq_none_iff] at hl
    have hne := hl (entry.key, view.value entry) (List.mem_map_of_mem (List.mem_of_getElem? hentry))
    rw [bne_iff_ne] at hne
    simpa using fun hc => hne (bytesCompare_eq_iff.1 hc).symm

theorem mem_insertRow_iff (h : RowsIncrease rows) {row : List UInt8 × List UInt8} :
    row ∈ insertRow key value rows ↔ row = (key, value) ∨ row ∈ rows ∧ row.1 ≠ key := by
  rw [← sorted_iff] at h
  induction rows with
  | nil => simp [insertRow]
  | cons r rows ih =>
    obtain ⟨hr, hrows⟩ := List.pairwise_cons.1 h
    rw [insertRow]
    split
    · rename_i hc
      have hne : r.1 ≠ key := fun heq => Std.Irrefl.irrefl (r := KeyLt) key (heq ▸ hc)
      rw [List.mem_cons, ih hrows, List.mem_cons]
      constructor
      · rintro (rfl | rfl | ⟨hmem, hk⟩)
        · exact .inr ⟨.inl rfl, hne⟩
        · exact .inl rfl
        · exact .inr ⟨.inr hmem, hk⟩
      · rintro (rfl | ⟨rfl | hmem, hk⟩)
        · exact .inr (.inl rfl)
        · exact .inl rfl
        · exact .inr (.inr ⟨hmem, hk⟩)
    · rename_i hc
      rw [bytesCompare_eq_iff] at hc
      rw [List.mem_cons, List.mem_cons]
      constructor
      · rintro (rfl | hmem)
        · exact .inl rfl
        · refine .inr ⟨.inr hmem, fun heq => ?_⟩
          exact Std.Irrefl.irrefl (r := KeyLt) key (by simpa [hc, heq] using hr row hmem)
      · rintro (rfl | ⟨rfl | hmem, hk⟩)
        · exact .inl rfl
        · exact absurd hc hk
        · exact .inr hmem
    · rename_i hc
      have hlt : KeyLt key r.1 := bytesCompare_gt hc
      have hne : ∀ row ∈ r :: rows, row.1 ≠ key := by
        intro row hmem heq
        rcases List.mem_cons.1 hmem with rfl | hmem
        · exact Std.Irrefl.irrefl (r := KeyLt) key (heq ▸ hlt)
        · have hgt : KeyLt key row.1 := IsTrans.trans _ _ _ hlt (hr row hmem)
          rw [heq] at hgt
          exact Std.Irrefl.irrefl (r := KeyLt) key hgt
      rw [List.mem_cons]
      constructor
      · rintro (rfl | hmem)
        · exact .inl rfl
        · exact .inr ⟨hmem, hne row hmem⟩
      · rintro (rfl | ⟨hmem, -⟩)
        · exact .inl rfl
        · exact .inr hmem

/-- A put changes the answer for its key only. -/
theorem lookup_insertRow (h : RowsIncrease rows) (k : List UInt8) :
    (insertRow key value rows).lookup k = if k = key then some value else rows.lookup k := by
  have hs := sorted_iff.2 h
  have hs' : Sorted KeyLt (insertRow key value rows) := sorted_iff.2 h.insertRow
  refine Option.ext fun v => ?_
  rw [hs'.lookup_eq_some_iff, mem_insertRow_iff h, Prod.mk.injEq]
  by_cases hk : k = key
  · simp [hk, eq_comm]
  · simp [hk, hs.lookup_eq_some_iff]

/-! ### What a view is made of -/

/-- An entry, the offset of an empty value cleared. -/
def Entry.shape (entry : Entry) : Entry :=
  if entry.valueLength = 0 then { entry with valueOffset := 0 } else entry

/-- A view, the offsets of empty values cleared. -/
def View.shape (view : View) : View := { view with entries := view.entries.map Entry.shape }

/-- A view with one more row, as a rebuild adds it. -/
def View.addRow (view : View) (row : List UInt8 × List UInt8) : View where
  entries := view.entries ++
    [{ key := row.1
       valueLength := row.2.length
       valueOffset := if row.2.length = 0 then 0 else view.valueBlob.length }]
  usedLogicalBytes := view.usedLogicalBytes + (16 + row.1.length + row.2.length)
  valueBlob := view.valueBlob ++ row.2

/-- The view that a rebuild makes of some rows. -/
def View.build (rows : List (List UInt8 × List UInt8)) : View := rows.foldl View.addRow {}

theorem View.build_append (rows : List (List UInt8 × List UInt8))
    (row : List UInt8 × List UInt8) :
    View.build (rows ++ [row]) = (View.build rows).addRow row := by
  rw [View.build, List.foldl_append]
  rfl

theorem View.shape_addRow (view : View) (row : List UInt8 × List UInt8) :
    (view.addRow row).shape = view.shape.addRow row := by
  simp only [View.shape, View.addRow, List.map_append, List.map_cons, List.map_nil, Entry.shape]
  by_cases hz : row.2.length = 0
  · rw [if_pos hz, if_pos hz]
  · rw [if_neg hz, if_neg hz]

theorem View.shape_build (rows : List (List UInt8 × List UInt8)) :
    (View.build rows).shape = View.build rows := by
  induction rows using List.reverseRecOn with
  | nil => rfl
  | append_singleton rows row ih => rw [View.build_append, View.shape_addRow, ih]

/-- A decoded view differs from a rebuilt one in the offsets of empty values only. -/
theorem View.shape_ofRows (rows : List (List UInt8 × List UInt8)) :
    (View.ofRows rows).shape = View.build rows := by
  have hfold : (rows.foldl View.appendRow {}).entries.map Entry.shape = (View.build rows).entries ∧
      (rows.foldl View.appendRow {}).valueBlob = (View.build rows).valueBlob ∧
      logicalBytes (rows.foldl View.appendRow {}).entries =
        (View.build rows).usedLogicalBytes := by
    induction rows using List.reverseRecOn with
    | nil => exact ⟨rfl, rfl, rfl⟩
    | append_singleton rows row ih =>
      obtain ⟨hentries, hblob, hused⟩ := ih
      rw [View.build_append, List.foldl_append, List.foldl_cons, List.foldl_nil]
      refine ⟨?_, ?_, ?_⟩
      · simp only [View.appendRow, View.addRow, List.map_append, hentries, List.map_cons,
          List.map_nil, Entry.shape, hblob]
        by_cases hz : row.2.length = 0
        · rw [if_pos hz, if_pos hz]
        · rw [if_neg hz, if_neg hz]
      · simp only [View.appendRow, View.addRow, hblob]
      · simp only [View.appendRow, View.addRow, ← hused, logicalBytes, List.map_append,
          List.map_cons, List.map_nil, List.sum_append, List.sum_cons, List.sum_nil,
          Entry.logicalBytes, Nat.add_zero]
  obtain ⟨hentries, hblob, hused⟩ := hfold
  simp only [View.shape, View.ofRows, hentries, hblob, hused]

theorem appendEntryToView_eq {dest : View} (h : appendEntryToView dest key value = some view') :
    view' = dest.addRow (key, value) ∧ view'.entries.length ≤ hardMaxEntries ∧
      view'.usedLogicalBytes ≤ hardMaxLogicalBytes := by
  unfold appendEntryToView at h
  rw [Option.ite_none_left_eq_some, Option.some.injEq] at h
  obtain ⟨hbad, rfl⟩ := h
  have hmax : hardMaxEntries = 64 := rfl
  have hbytes : hardMaxLogicalBytes = 139264 := rfl
  refine ⟨rfl, ?_, ?_⟩
  · simp only [List.length_append, List.length_singleton]
    omega
  · dsimp only
    omega

/-! ### The invariant -/

/-- A rebuilt view, within the hard limits. -/
structure Rebuilt (view : View) (rows : List (List UInt8 × List UInt8)) : Prop where
  eq_build : view = View.build rows
  count : view.entries.length ≤ hardMaxEntries
  bytes : view.usedLogicalBytes ≤ hardMaxLogicalBytes

theorem appends_rebuilt : Appends Rebuilt where
  empty := ⟨rfl, Nat.zero_le _, Nat.zero_le _⟩
  append {dest rows key value view'} h ha := by
    obtain ⟨heq, hcount, hbytes⟩ := appendEntryToView_eq ha
    refine ⟨?_, hcount, hbytes⟩
    rw [heq, View.build_append, h.eq_build]

/-- What puts and erases keep. -/
structure Staged (view : View) : Prop where
  ok : ViewOk view
  ranges : ∀ entry ∈ view.entries, entry.valueOffset + entry.valueLength ≤ view.valueBlob.length
  shape : view.shape = View.build view.rows
  count : view.entries.length ≤ hardMaxEntries
  bytes : view.usedLogicalBytes ≤ hardMaxLogicalBytes

theorem View.ranges_build (rows : List (List UInt8 × List UInt8)) :
    ∀ entry ∈ (View.build rows).entries,
      entry.valueOffset + entry.valueLength ≤ (View.build rows).valueBlob.length := by
  induction rows using List.reverseRecOn with
  | nil => simp [View.build]
  | append_singleton rows row ih =>
    rw [View.build_append]
    intro entry hmem
    simp only [View.addRow, List.mem_append, List.mem_singleton, List.length_append] at hmem ⊢
    rcases hmem with hmem | rfl
    · have hle := ih entry hmem
      omega
    · dsimp only
      split_ifs <;> omega

theorem View.ranges_ofRows (rows : List (List UInt8 × List UInt8)) :
    ∀ entry ∈ (View.ofRows rows).entries,
      entry.valueOffset + entry.valueLength ≤ (View.ofRows rows).valueBlob.length := by
  rw [View.ofRows]
  dsimp only
  induction rows using List.reverseRecOn with
  | nil => simp
  | append_singleton rows row ih =>
    rw [List.foldl_append, List.foldl_cons, List.foldl_nil]
    intro entry hmem
    simp only [View.appendRow, List.mem_append, List.mem_singleton, List.length_append] at hmem ⊢
    rcases hmem with hmem | rfl
    · have hle := ih entry hmem
      omega
    · exact le_rfl

/-- A decoded view. -/
theorem staged_ofRows (h : Storable rows) : Staged (View.ofRows rows) where
  ok := viewOk_ofRows h
  ranges := View.ranges_ofRows rows
  shape := by rw [View.shape_ofRows, View.rows_ofRows]
  count := by
    have hcount := h.count
    rw [← View.length_rows, View.rows_ofRows]
    simp only [persistedMaxEntries, hardMaxEntries] at hcount ⊢
    omega
  bytes := by
    have hbytes := h.bytes
    have hrows := (View.inBlob_ofRows rows).rowBytes_rows
    rw [View.rows_ofRows] at hrows
    have hused : (View.ofRows rows).usedLogicalBytes = rowBytes rows := hrows.symm
    rw [hused]
    simp only [persistedMaxLogicalBytes, hardMaxLogicalBytes] at hbytes ⊢
    omega

/-- A view that a rebuild returns. -/
theorem Rebuilt.staged (h : Rebuilt view rows) (hok : ViewOk view) (hrows : view.rows = rows) :
    Staged view where
  ok := hok
  ranges := by
    rw [h.eq_build]
    exact View.ranges_build rows
  shape := by rw [hrows, h.eq_build, View.shape_build]
  count := h.count
  bytes := h.bytes

theorem Staged.put (h : Staged view) (hrow : RowOk (key, value))
    (hp : rebuildViewWithPut view key value = some view') :
    Staged view' ∧ view'.rows = insertRow key value view.rows := by
  have hrows := (appends_built.put hp).rows_eq
  exact ⟨(appends_rebuilt.put hp).staged (h.ok.put hrow hp) hrows, hrows⟩

theorem Staged.erase (h : Staged view) (he : rebuildViewWithoutKey view key = some view') :
    Staged view' ∧ view'.rows = view.rows.filter fun row => row.1 ≠ key := by
  have hrows := (appends_built.erase he).rows_eq
  exact ⟨(appends_rebuilt.erase he).staged (h.ok.erase he) hrows, hrows⟩

/-! ### An erase never fails -/

theorem appendEntryToView_of_fits {dest : View} (hcount : dest.entries.length < hardMaxEntries)
    (hbytes : dest.usedLogicalBytes + (16 + key.length + value.length) ≤ hardMaxLogicalBytes)
    (hblob : dest.valueBlob.length ≤ dest.usedLogicalBytes) :
    appendEntryToView dest key value = some (dest.addRow (key, value)) := by
  unfold appendEntryToView
  dsimp only
  rw [if_neg (by omega)]
  rfl

theorem eraseLoop_ne_none {source dest : View} (hs : Staged source) {entries : List Entry}
    (hsub : entries ⊆ source.entries)
    (hcount : dest.entries.length + entries.length ≤ hardMaxEntries)
    (hbytes : dest.usedLogicalBytes + logicalBytes entries ≤ hardMaxLogicalBytes)
    (hblob : dest.valueBlob.length ≤ dest.usedLogicalBytes) :
    eraseLoop source key entries dest ≠ none := by
  induction entries generalizing dest with
  | nil => exact Option.some_ne_none _
  | cons entry entries ih =>
    have hmem : entry ∈ source.entries := hsub List.mem_cons_self
    have htail : entries ⊆ source.entries := fun e he => hsub (List.mem_cons_of_mem _ he)
    simp only [List.length_cons, logicalBytes, List.map_cons, List.sum_cons,
      Entry.logicalBytes] at hcount hbytes ih
    rw [eraseLoop]
    by_cases hc : bytesCompare entry.key key = .eq
    · rw [if_pos hc]
      exact ih htail (by omega) (by omega) hblob
    · rw [if_neg hc]
      have hrange := hs.ranges entry hmem
      have hlen := hs.ok.inBlob.length_value hmem
      have happ : appendExistingEntry dest source entry =
          some (dest.addRow (entry.key, source.value entry)) := by
        rw [appendExistingEntry, if_neg (by omega)]
        exact appendEntryToView_of_fits (by omega) (by omega) hblob
      rw [happ]
      refine ih htail ?_ ?_ ?_
      · simp only [View.addRow, List.length_append, List.length_singleton]
        omega
      · simp only [View.addRow, hlen]
        omega
      · simp only [View.addRow, List.length_append]
        omega

/-- **An erase never fails.** -/
theorem Staged.erase_ne_none (h : Staged view) (key : List UInt8) :
    rebuildViewWithoutKey view key ≠ none := by
  refine eraseLoop_ne_none h (List.Subset.refl _) ?_ ?_ le_rfl
  · simpa using h.count
  · have hused := h.ok.used
    have hbytes := h.bytes
    simp only [Nat.zero_add]
    omega

/-! ### Maps -/

/-- A staged view whose rows answer like a map. -/
structure Represents (view : View) (map : List UInt8 → Option (List UInt8)) : Prop where
  staged : Staged view
  lookup : ∀ key, view.rows.lookup key = map key

variable {map : List UInt8 → Option (List UInt8)}

theorem Represents.put (h : Represents view map) (hrow : RowOk (key, value))
    (hp : rebuildViewWithPut view key value = some view') :
    Represents view' (Function.update map key (some value)) := by
  obtain ⟨hs, hrows⟩ := h.staged.put hrow hp
  refine ⟨hs, fun k => ?_⟩
  rw [hrows, lookup_insertRow h.staged.ok.increase, h.lookup, Function.update_apply]

theorem Represents.erase (h : Represents view map)
    (he : rebuildViewWithoutKey view key = some view') :
    Represents view' (Function.update map key none) := by
  obtain ⟨hs, hrows⟩ := h.staged.erase he
  refine ⟨hs, fun k => ?_⟩
  rw [hrows, lookup_filter_ne, h.lookup, Function.update_apply]

/-- **A map has one view**, up to the offsets of empty values. -/
theorem Represents.shape_eq (h : Represents view map) (h' : Represents view' map) :
    view.shape = view'.shape := by
  have hrows : view.rows = view'.rows :=
    (sorted_iff.2 h.staged.ok.increase).eq_of_lookup (sorted_iff.2 h'.staged.ok.increase)
      fun k => by rw [h.lookup, h'.lookup]
  rw [h.staged.shape, h'.staged.shape, hrows]

end Ninlil.EspStorage
