import Ninlil.EspStorage.Codec

/-!
# The slot format round trip

* `packEntries_eq`, `unpackEntries_packRows`: the two payload loops, in terms of rows;
* `SlotFields`: what every field of an encoded image reads back as;
* `decodeSlot_valid`: what an accepted image contains;
* `slot_round_trip`: both directions.
-/

namespace Ninlil.EspStorage

open Bytes

variable {image image' payload : List UInt8} {offset n k : ℕ}

/-! ### Loads and stores -/

theorem slotBytes_eq : slotBytes = 73728 := rfl

theorem slotPayloadBytes_eq : slotPayloadBytes = 69824 := rfl

theorem slice_storeU32 {value : UInt32} {o : ℕ} (h : o + n ≤ offset ∨ offset + 4 ≤ o) :
    slice (storeU32 image offset value) o n = slice image o n :=
  slice_store_of_disjoint (by rwa [length_encodeLE])

theorem slice_storeU64 {value : UInt64} {o : ℕ} (h : o + n ≤ offset ∨ offset + 8 ≤ o) :
    slice (storeU64 image offset value) o n = slice image o n :=
  slice_store_of_disjoint (by rwa [length_encodeLE])

@[simp] theorem length_storeU32 {value : UInt32} :
    (storeU32 image offset value).length = image.length := length_store

@[simp] theorem length_storeU64 {value : UInt64} :
    (storeU64 image offset value).length = image.length := length_store

theorem slice_storeU32_self {value : UInt32} (h : offset + 4 ≤ image.length) :
    slice (storeU32 image offset value) offset 4 = encodeLE 4 value.toNat :=
  slice_store_self (length_encodeLE _ _) h

theorem slice_storeU64_self {value : UInt64} (h : offset + 8 ≤ image.length) :
    slice (storeU64 image offset value) offset 8 = encodeLE 8 value.toNat :=
  slice_store_self (length_encodeLE _ _) h

theorem loadU16_of_slice {value : ℕ} (hv : value < 2 ^ 16)
    (h : slice image offset 2 = encodeLE 2 value) : (loadU16 image offset).toNat = value := by
  rw [loadU16, h, decodeLE_encodeLE_of_lt (by omega), UInt16.toNat_ofNat', Nat.mod_eq_of_lt hv]

theorem loadU32_of_slice {value : ℕ} (hv : value < 2 ^ 32)
    (h : slice image offset 4 = encodeLE 4 value) : (loadU32 image offset).toNat = value := by
  rw [loadU32, h, decodeLE_encodeLE_of_lt (by omega), UInt32.toNat_ofNat', Nat.mod_eq_of_lt hv]

theorem loadU64_of_slice {value : ℕ} (hv : value < 2 ^ 64)
    (h : slice image offset 8 = encodeLE 8 value) : (loadU64 image offset).toNat = value := by
  rw [loadU64, h, decodeLE_encodeLE_of_lt (by omega), UInt64.toNat_ofNat', Nat.mod_eq_of_lt hv]

theorem loadU32_eq_of_slice {value : UInt32} (h : slice image offset 4 = encodeLE 4 value.toNat) :
    loadU32 image offset = value :=
  UInt32.toNat_inj.1 (loadU32_of_slice value.toNat_lt h)

theorem loadU64_eq_of_slice {value : UInt64} (h : slice image offset 8 = encodeLE 8 value.toNat) :
    loadU64 image offset = value :=
  UInt64.toNat_inj.1 (loadU64_of_slice value.toNat_lt h)

/-- A loaded number determines the bytes it was loaded from. -/
theorem slice_eq_loadU16 (h : offset + 2 ≤ image.length) :
    slice image offset 2 = encodeLE 2 (loadU16 image offset).toNat := by
  have hlen := length_slice_of_le h
  have hlt := decodeLE_lt (slice image offset 2)
  have henc := encodeLE_decodeLE (slice image offset 2)
  rw [hlen] at hlt henc
  rw [loadU16, UInt16.toNat_ofNat', Nat.mod_eq_of_lt (by omega), henc]

theorem slice_eq_loadU32 (h : offset + 4 ≤ image.length) :
    slice image offset 4 = encodeLE 4 (loadU32 image offset).toNat := by
  have hlen := length_slice_of_le h
  have hlt := decodeLE_lt (slice image offset 4)
  have henc := encodeLE_decodeLE (slice image offset 4)
  rw [hlen] at hlt henc
  rw [loadU32, UInt32.toNat_ofNat', Nat.mod_eq_of_lt (by omega), henc]

theorem slice_eq_loadU64 (h : offset + 8 ≤ image.length) :
    slice image offset 8 = encodeLE 8 (loadU64 image offset).toNat := by
  have hlen := length_slice_of_le h
  have hlt := decodeLE_lt (slice image offset 8)
  have henc := encodeLE_decodeLE (slice image offset 8)
  rw [hlen] at hlt henc
  rw [loadU64, UInt64.toNat_ofNat', Nat.mod_eq_of_lt (by omega), henc]

theorem bytesAllZero_zeros (n : ℕ) : bytesAllZero (zeros n) = true := by
  simp [bytesAllZero, zeros]

theorem slice_eq_zeros (h : bytesAllZero (slice image offset n) = true)
    (hn : offset + n ≤ image.length) : slice image offset n = zeros n := by
  rw [zeros, List.eq_replicate_iff]
  refine ⟨length_slice_of_le hn, fun b hb => ?_⟩
  simpa using List.all_eq_true.1 h b hb

/-! ### Packing -/

variable {view : View}

/-- The value range of every entry lies in the blob. -/
def View.InBlob (view : View) : Prop :=
  ∀ entry ∈ view.entries, entry.valueLength ≠ 0 →
    entry.valueOffset + entry.valueLength ≤ view.valueBlob.length

theorem View.InBlob.length_value (h : view.InBlob) {entry : Entry} (he : entry ∈ view.entries) :
    (view.value entry).length = entry.valueLength := by
  by_cases hz : entry.valueLength = 0
  · rw [View.value, hz]
    simp [slice]
  · exact length_slice_of_le (h entry he hz)

/-- The packed bytes of a row. -/
def packRow (row : List UInt8 × List UInt8) : List UInt8 :=
  encodeLE 2 row.1.length ++ encodeLE 4 row.2.length ++ row.1 ++ row.2

def packRows (rows : List (List UInt8 × List UInt8)) : List UInt8 := rows.flatMap packRow

@[simp] theorem packRows_nil : packRows [] = [] := rfl

@[simp] theorem packRows_cons (row : List UInt8 × List UInt8)
    (rows : List (List UInt8 × List UInt8)) :
    packRows (row :: rows) = packRow row ++ packRows rows := rfl

theorem length_packRow (row : List UInt8 × List UInt8) :
    (packRow row).length = 6 + row.1.length + row.2.length := by
  simp only [packRow, List.length_append, length_encodeLE]

theorem packEntry_eq (h : view.InBlob) {entry : Entry} (he : entry ∈ view.entries) :
    packEntry view entry = packRow (entry.key, view.value entry) := by
  rw [packEntry, packRow, h.length_value he]

/-- The packed size of some entries. -/
def packedBytes (entries : List Entry) : ℕ :=
  (entries.map fun entry => 6 + entry.key.length + entry.valueLength).sum

/-- An entry takes ten bytes less packed than it counts against the capacity. -/
theorem packedBytes_add (entries : List Entry) :
    packedBytes entries + 10 * entries.length = logicalBytes entries := by
  induction entries with
  | nil => rfl
  | cons entry entries ih =>
    simp only [packedBytes, logicalBytes, List.map_cons, List.sum_cons, List.length_cons,
      Entry.logicalBytes] at ih ⊢
    omega

/-- The packing loop succeeds within the capacity, and appends the packed rows. -/
theorem packEntries_eq (h : view.InBlob) {entries : List Entry} (hsub : entries ⊆ view.entries)
    {capacity : ℕ} {out : List UInt8} (hcap : out.length + packedBytes entries ≤ capacity) :
    packEntries view capacity entries out =
      some (out ++ packRows (entries.map fun entry => (entry.key, view.value entry))) := by
  induction entries generalizing out with
  | nil => simp [packEntries]
  | cons entry entries ih =>
    have he : entry ∈ view.entries := hsub (by simp)
    have hlen : (packEntry view entry).length = 6 + entry.key.length + entry.valueLength := by
      rw [packEntry_eq h he, length_packRow, h.length_value he]
    simp only [packedBytes, List.map_cons, List.sum_cons] at hcap
    have hfit : ¬6 + entry.key.length + entry.valueLength > capacity - out.length := by omega
    have hblob : ¬(entry.valueLength ≠ 0 ∧
        entry.valueOffset + entry.valueLength > view.valueBlob.length) :=
      fun hc => absurd (h entry he hc.1) (by omega)
    rw [packEntries, if_neg hfit, if_neg hblob, ih (fun e he => hsub (by simp [he]))]
    · rw [List.map_cons, packRows_cons, packEntry_eq h he, List.append_assoc]
    · rw [List.length_append, hlen]
      simp only [packedBytes]
      omega

theorem packPayload_eq (h : view.InBlob) {capacity : ℕ}
    (hcap : packedBytes view.entries ≤ capacity) :
    packPayload view capacity = some (packRows view.rows) := by
  rw [packPayload, packEntries_eq h (List.Subset.refl _) (by simpa using hcap), List.nil_append]
  rfl

/-! ### Unpacking -/

/-- A view with one more row, as the unpacking loop adds it. -/
def View.appendRow (view : View) (row : List UInt8 × List UInt8) : View :=
  { view with
    entries := view.entries ++
      [{ key := row.1, valueLength := row.2.length, valueOffset := view.valueBlob.length }]
    valueBlob := view.valueBlob ++ row.2 }

theorem View.InBlob.appendRow (h : view.InBlob) (row : List UInt8 × List UInt8) :
    (view.appendRow row).InBlob := by
  intro entry he hz
  simp only [View.appendRow, List.mem_append, List.mem_singleton, List.length_append] at he ⊢
  rcases he with he | rfl
  · have := h entry he hz
    omega
  · simp

theorem View.InBlob.rows_appendRow (h : view.InBlob) (row : List UInt8 × List UInt8) :
    (view.appendRow row).rows = view.rows ++ [row] := by
  simp only [View.rows, View.appendRow, List.map_append, List.map_cons, List.map_nil, View.value]
  congr 1
  · apply List.map_congr_left
    intro entry he
    by_cases hz : entry.valueLength = 0
    · simp [hz, slice]
    · rw [slice_append_left (h entry he hz)]
  · rw [slice_append_right le_rfl, Nat.sub_self, slice_self rfl]

theorem View.InBlob.foldl_appendRow (h : view.InBlob) (rows : List (List UInt8 × List UInt8)) :
    (rows.foldl View.appendRow view).InBlob ∧
      (rows.foldl View.appendRow view).rows = view.rows ++ rows := by
  induction rows generalizing view with
  | nil => simpa using h
  | cons row rows ih =>
    obtain ⟨h1, h2⟩ := ih (h.appendRow row)
    refine ⟨h1, ?_⟩
    rw [List.foldl_cons, h2, h.rows_appendRow, List.append_assoc, List.singleton_append]

/-- The rows the format can carry. -/
def RowOk (row : List UInt8 × List UInt8) : Prop :=
  1 ≤ row.1.length ∧ row.1.length ≤ 255 ∧ row.2.length ≤ maxStorageValueBytes

/-- One round of the unpacking loop, in front of a packed row. -/
theorem unpackEntries_step {row : List UInt8 × List UInt8} {rest : List UInt8} {count : ℕ}
    (hrow : RowOk row) (hp : payload.drop offset = packRow row ++ rest)
    (hblob : view.valueBlob.length + row.2.length ≤ hardMaxLogicalBytes) :
    unpackEntries payload payload.length (count + 1) offset view =
      unpackEntries payload payload.length count (offset + 6 + row.1.length + row.2.length)
        (view.appendRow row) := by
  obtain ⟨hk1, hk2, hv⟩ := hrow
  have hv' : row.2.length ≤ 65536 := hv
  have hlen : offset + 6 + row.1.length + row.2.length ≤ payload.length := by
    have := congrArg List.length hp
    rw [List.length_drop, List.length_append, length_packRow] at this
    omega
  have hslice : ∀ o m, slice payload (offset + o) m = slice (packRow row ++ rest) o m := by
    intro o m
    rw [← hp, slice, slice, List.drop_drop]
  have hkey : (loadU16 payload offset).toNat = row.1.length := by
    apply loadU16_of_slice (by omega)
    refine (hslice 0 2).trans ?_
    simp only [packRow, List.append_assoc]
    exact @slice_append_mid _ _ [] _ _ rfl (by simp)
  have hval : (loadU32 payload (offset + 2)).toNat = row.2.length := by
    apply loadU32_of_slice (by omega)
    rw [hslice, packRow]
    simp only [List.append_assoc]
    rw [← List.append_assoc]
    exact slice_append_mid (by simp) (by simp)
  have hkeyBytes : slice payload (offset + 6) row.1.length = row.1 := by
    rw [hslice, packRow, List.append_assoc _ row.2]
    exact slice_append_mid (by simp) rfl
  have hvalBytes : slice payload (offset + 6 + row.1.length) row.2.length = row.2 := by
    rw [Nat.add_assoc, hslice, packRow]
    exact slice_append_mid (by simp; omega) rfl
  have hmax : hardMaxLogicalBytes = 139264 := rfl
  rw [unpackEntries, if_neg (by omega)]
  simp only [hkey, hval, hkeyBytes, hvalBytes]
  rw [if_neg (by simp only [maxStorageValueBytes]; omega), if_neg (by omega)]
  rfl

/-- The bytes the values of some rows take in the blob. -/
def blobBytes (rows : List (List UInt8 × List UInt8)) : ℕ := (rows.map (·.2.length)).sum

/-- The unpacking loop reads packed rows back. -/
theorem unpackEntries_packRows {rows : List (List UInt8 × List UInt8)}
    (hrows : ∀ row ∈ rows, RowOk row)
    (hp : payload.drop offset = packRows rows) (ho : offset ≤ payload.length)
    (hblob : view.valueBlob.length + blobBytes rows ≤ hardMaxLogicalBytes) :
    unpackEntries payload payload.length rows.length offset view =
      some (payload.length, rows.foldl View.appendRow view) := by
  induction rows generalizing offset view with
  | nil =>
    have : payload.length ≤ offset := by simpa [packRows] using hp
    rw [List.length_nil, unpackEntries, List.foldl_nil, le_antisymm ho this]
  | cons row rows ih =>
    simp only [blobBytes, List.map_cons, List.sum_cons] at hblob ih
    rw [packRows_cons] at hp
    rw [List.length_cons, unpackEntries_step (hrows row (by simp)) hp (by omega), List.foldl_cons]
    have hlen := congrArg List.length hp
    rw [List.length_drop, List.length_append, length_packRow] at hlen
    apply ih (fun r hr => hrows r (by simp [hr]))
    · have hdrop : payload.drop (offset + (packRow row).length) = packRows rows := by
        rw [← List.drop_drop, hp, List.drop_left]
      rwa [length_packRow, show offset + (6 + row.1.length + row.2.length) =
        offset + 6 + row.1.length + row.2.length by omega] at hdrop
    · omega
    · simp only [View.appendRow, List.length_append]
      omega

/-- Whatever the unpacking loop accepts is a list of packed rows. -/
theorem unpackEntries_some {count offset' : ℕ} {view' : View}
    (h : unpackEntries payload payload.length count offset view = some (offset', view')) :
    ∃ rows : List (List UInt8 × List UInt8), rows.length = count ∧ (∀ row ∈ rows, RowOk row) ∧
      view' = rows.foldl View.appendRow view ∧
      slice payload offset (packRows rows).length = packRows rows ∧
      offset' = offset + (packRows rows).length := by
  induction count generalizing offset view with
  | zero =>
    rw [unpackEntries] at h
    cases h
    exact ⟨[], rfl, by simp, rfl, by simp [slice], rfl⟩
  | succ count ih =>
    rw [unpackEntries] at h
    by_cases h6 : offset + 6 > payload.length
    · rw [if_pos h6] at h
      cases h
    rw [if_neg h6] at h
    simp only at h
    -- the row that this round reads
    generalize hkl : (loadU16 payload offset).toNat = keyLength at h
    generalize hvl : (loadU32 payload (offset + 2)).toNat = valueLength at h
    by_cases hbad : keyLength < 1 ∨ keyLength > 255 ∨ valueLength > maxStorageValueBytes ∨
        offset + 6 + keyLength + valueLength > payload.length
    · rw [if_pos hbad] at h
      cases h
    rw [if_neg hbad] at h
    by_cases hblob : valueLength ≠ 0 ∧
        view.valueBlob.length > hardMaxLogicalBytes - valueLength
    · rw [if_pos hblob] at h
      cases h
    rw [if_neg hblob] at h
    simp only [not_or, not_lt] at hbad
    have hk : (slice payload (offset + 6) keyLength).length = keyLength :=
      length_slice_of_le (by omega)
    have hv : (slice payload (offset + 6 + keyLength) valueLength).length = valueLength :=
      length_slice_of_le (by omega)
    obtain ⟨rows, hcount, hok, hview, hbytes, hoff⟩ := ih h
    refine ⟨(slice payload (offset + 6) keyLength,
      slice payload (offset + 6 + keyLength) valueLength) :: rows, by simp [hcount], ?_, ?_, ?_, ?_⟩
    · intro row hrow
      rcases List.mem_cons.1 hrow with rfl | hrow
      · refine ⟨?_, ?_, ?_⟩
        · rw [hk]; omega
        · rw [hk]; omega
        · rw [hv]; omega
      · exact hok row hrow
    · rw [List.foldl_cons, hview, View.appendRow, hv]
    · have hpack : packRow (slice payload (offset + 6) keyLength,
          slice payload (offset + 6 + keyLength) valueLength) =
          slice payload offset (6 + keyLength + valueLength) := by
        rw [packRow, hk, hv, ← hkl, ← hvl, ← slice_eq_loadU16 (by omega),
          ← slice_eq_loadU32 (by omega), slice_append_slice, hkl, slice_append_slice,
          Nat.add_assoc offset, slice_append_slice]
      have hlen : (slice payload offset (6 + keyLength + valueLength)).length =
          6 + keyLength + valueLength := length_slice_of_le (by omega)
      rw [packRows_cons, hpack, List.length_append, hlen]
      rw [← slice_append_slice, ← hbytes]
      congr 2
      · omega
      · rw [hbytes]
    · rw [packRows_cons, List.length_append, length_packRow, hk, hv, hoff]
      omega

/-- The view that decoding builds from some rows. -/
def View.ofRows (rows : List (List UInt8 × List UInt8)) : View :=
  let view := rows.foldl View.appendRow {}
  { view with usedLogicalBytes := logicalBytes view.entries }

theorem View.inBlob_empty : ({} : View).InBlob := by
  intro entry he
  cases he

@[simp] theorem View.rows_ofRows (rows : List (List UInt8 × List UInt8)) :
    (View.ofRows rows).rows = rows :=
  (View.inBlob_empty.foldl_appendRow rows).2

theorem View.inBlob_ofRows (rows : List (List UInt8 × List UInt8)) : (View.ofRows rows).InBlob :=
  (View.inBlob_empty.foldl_appendRow rows).1

/-- The capacity a list of rows takes. -/
def rowBytes (rows : List (List UInt8 × List UInt8)) : ℕ :=
  (rows.map fun row => 16 + row.1.length + row.2.length).sum

/-- Neighbouring keys of a list of rows increase. -/
def RowsIncrease (rows : List (List UInt8 × List UInt8)) : Prop :=
  rows.IsChain fun left right => bytesCompare left.1 right.1 = .lt

theorem View.rowsIncrease_iff : RowsIncrease view.rows ↔ KeysIncrease view.entries := by
  rw [RowsIncrease, View.rows, List.isChain_map]
  rfl

theorem View.InBlob.rowBytes_rows (h : view.InBlob) :
    rowBytes view.rows = logicalBytes view.entries := by
  simp only [rowBytes, View.rows, List.map_map, logicalBytes]
  congr 1
  apply List.map_congr_left
  intro entry he
  simp only [Function.comp_apply, h.length_value he, Entry.logicalBytes]

theorem View.length_rows : view.rows.length = view.entries.length := by simp [View.rows]

theorem blobBytes_le (rows : List (List UInt8 × List UInt8)) : blobBytes rows ≤ rowBytes rows := by
  induction rows with
  | nil => exact le_rfl
  | cons row rows ih =>
    simp only [blobBytes, rowBytes, List.map_cons, List.sum_cons] at ih ⊢
    omega

/-- What a list of rows must satisfy to be stored in a slot. -/
structure Storable (rows : List (List UInt8 × List UInt8)) : Prop where
  row : ∀ row ∈ rows, RowOk row
  increase : RowsIncrease rows
  count : rows.length ≤ persistedMaxEntries
  bytes : rowBytes rows ≤ persistedMaxLogicalBytes

variable {rows : List (List UInt8 × List UInt8)}

theorem unpackPayload_packRows (h : Storable rows) :
    unpackPayload (packRows rows) (packRows rows).length rows.length = some (View.ofRows rows) := by
  have hblob : ({} : View).valueBlob.length + blobBytes rows ≤ hardMaxLogicalBytes := by
    have h1 := blobBytes_le rows
    have h2 := h.bytes
    simp only [persistedMaxLogicalBytes] at h2
    simp only [hardMaxLogicalBytes, List.length_nil]
    omega
  have hloop := @unpackEntries_packRows _ 0 _ _ h.row (by rw [List.drop_zero])
    (Nat.zero_le _) hblob
  have hinc : KeysIncrease (rows.foldl View.appendRow {}).entries := by
    rw [← View.rowsIncrease_iff, (View.inBlob_empty.foldl_appendRow rows).2]
    exact h.increase
  rw [unpackPayload, if_neg (not_lt.2 h.count), hloop]
  simp only [ne_eq, not_true_eq_false, if_false, hinc]
  rfl

theorem unpackPayload_some {count : ℕ}
    (h : unpackPayload payload payload.length count = some view) :
    ∃ rows, view = View.ofRows rows ∧ payload = packRows rows ∧ rows.length = count ∧
      (∀ row ∈ rows, RowOk row) ∧ RowsIncrease rows ∧ count ≤ persistedMaxEntries := by
  rw [unpackPayload] at h
  by_cases hcount : count > persistedMaxEntries
  · rw [if_pos hcount] at h
    cases h
  rw [if_neg hcount] at h
  cases hloop : unpackEntries payload payload.length count 0 {} with
  | none => simp [hloop] at h
  | some result =>
    obtain ⟨offset, loaded⟩ := result
    obtain ⟨rows, hlen, hok, rfl, hbytes, hoff⟩ := unpackEntries_some hloop
    simp only [hloop] at h
    split_ifs at h with hend hinc
    simp only [ne_eq, not_not] at hend hinc
    cases h
    refine ⟨rows, rfl, ?_, hlen, hok, ?_, not_lt.1 hcount⟩
    · have hall : (packRows rows).length = payload.length := by omega
      rw [← hbytes, hall, slice_self rfl]
    · rw [← View.rowsIncrease_iff, (View.inBlob_empty.foldl_appendRow rows).2] at hinc
      exact hinc

/-! ### The fields of an encoded slot -/

/-- The bytes of a slot image, field by field. -/
structure SlotFields (image : List UInt8) (schema : UInt32) (generation : UInt64)
    (namespaceBytes : List UInt8) (entryCount used : ℕ) (payload : List UInt8) : Prop where
  length : slotBytes ≤ image.length
  magic : slice image 0 4 = encodeLE 4 slotMagic.toNat
  version : slice image 4 4 = encodeLE 4 formatVersion.toNat
  schema : slice image 8 4 = encodeLE 4 schema.toNat
  nameLength : slice image 12 4 = encodeLE 4 namespaceBytes.length
  name : slice image 16 namespaceBytes.length = namespaceBytes
  namePad : slice image (16 + namespaceBytes.length) (255 - namespaceBytes.length) =
    zeros (255 - namespaceBytes.length)
  reserved : slice image 271 1 = zeros 1
  generation : slice image 272 8 = encodeLE 8 generation.toNat
  count : slice image 280 4 = encodeLE 4 entryCount
  used : slice image 284 8 = encodeLE 8 used
  payloadLen : slice image 292 4 = encodeLE 4 payload.length
  reserved2 : slice image 296 4 = zeros 4
  payloadCrc : slice image 300 4 = encodeLE 4 (crc32c payload).toNat
  headerCrc : slice image 304 4 = encodeLE 4 (crc32c (slice image 0 304)).toNat
  reserved3 : slice image 308 12 = zeros 12
  payload : slice image 320 payload.length = payload

theorem encodeLE_ofNat32 {m : ℕ} (h : m < 2 ^ 32) :
    encodeLE 4 (UInt32.ofNat m).toNat = encodeLE 4 m := by
  rw [UInt32.toNat_ofNat', Nat.mod_eq_of_lt h]

theorem encodeLE_ofNat64 {m : ℕ} (h : m < 2 ^ 64) :
    encodeLE 8 (UInt64.ofNat m).toNat = encodeLE 8 m := by
  rw [UInt64.toNat_ofNat', Nat.mod_eq_of_lt h]

variable {schema : UInt32} {generation : UInt64} {namespaceBytes : List UInt8} {entryCount used : ℕ}

/-- Every field of an image that `encode_slot` writes. -/
theorem slotImage_fields (hname : namespaceBytes.length ≤ 255) (hcount : entryCount < 2 ^ 32)
    (hused : used < 2 ^ 64) (hpayload : payload.length ≤ slotPayloadBytes) :
    SlotFields (slotImage schema generation namespaceBytes entryCount used payload) schema
      generation namespaceBytes entryCount used payload := by
  have hz : ∀ o m, o + m ≤ slotBytes → slice (zeros slotBytes) o m = zeros m :=
    fun o m h => slice_replicate 0 h
  have hlenz : (zeros slotBytes).length = slotBytes := List.length_replicate
  have hslot := slotBytes_eq
  rw [slotPayloadBytes_eq] at hpayload
  constructor
  case length =>
    simp only [slotImage, length_storeU32, length_storeU64, length_store, hlenz, le_refl]
  all_goals
    simp (disch := first
      | omega
      | (simp only [length_storeU32, length_storeU64, length_store, hlenz]; omega)) only
      [slotImage, slotHeaderBytes, slice_storeU32, slice_storeU64, slice_store_of_disjoint,
      slice_storeU32_self, slice_storeU64_self, slice_store_self, hz, encodeLE_ofNat32,
      encodeLE_ofNat64]

@[simp] theorem length_slotImage :
    (slotImage schema generation namespaceBytes entryCount used payload).length = slotBytes := by
  simp only [slotImage, length_storeU32, length_storeU64, length_store]
  exact List.length_replicate

/-- An image that is not erased at its start is not erased. -/
theorem bytesAllErased_eq_false (h : slice image 0 4 ≠ List.replicate 4 0xFF) (hn : 4 ≤ n)
    (hlen : n ≤ image.length) : bytesAllErased (slice image 0 n) = false := by
  by_contra hne
  apply h
  rw [List.eq_replicate_iff]
  refine ⟨length_slice_of_le (by omega), fun b hb => ?_⟩
  have hsub : slice image 0 4 = (slice image 0 n).take 4 := by
    rw [take_eq_slice, slice_slice (by omega)]
  rw [hsub] at hb
  simp only [Bool.not_eq_false] at hne
  simpa using List.all_eq_true.1 hne b (List.mem_of_mem_take hb)

/-- An image with the fields of a storable view is decoded to its rows. -/
theorem decodeSlot_of_fields {expected : Option (List UInt8)}
    (hf : SlotFields image schema generation namespaceBytes rows.length (rowBytes rows)
      (packRows rows))
    (hrows : Storable rows) (hgen : generation ≠ 0) (hname : 1 ≤ namespaceBytes.length)
    (hname' : namespaceBytes.length ≤ 255) (hexp : ∀ name ∈ expected, name = namespaceBytes)
    (hpay : (packRows rows).length ≤ slotPayloadBytes) :
    decodeSlot image schema expected = .valid (generation, View.ofRows rows) := by
  have hslot := slotBytes_eq
  have hpb := slotPayloadBytes_eq
  have hcount : rows.length ≤ 32 := hrows.count
  have hbytes : rowBytes rows ≤ 69632 := hrows.bytes
  have hmagic : loadU32 image 0 = slotMagic := loadU32_eq_of_slice hf.magic
  have hversion : loadU32 image 4 = formatVersion := loadU32_eq_of_slice hf.version
  have hschema : loadU32 image 8 = schema := loadU32_eq_of_slice hf.schema
  have hnl := loadU32_of_slice (by omega) hf.nameLength
  have hg : loadU64 image 272 = generation := loadU64_eq_of_slice hf.generation
  have hc := loadU32_of_slice (by omega) hf.count
  have hu := loadU64_of_slice (by omega) hf.used
  have hp := loadU32_of_slice (by omega) hf.payloadLen
  have hpc : loadU32 image 300 = crc32c (packRows rows) := loadU32_eq_of_slice hf.payloadCrc
  have hhc : loadU32 image 304 = crc32c (slice image 0 304) := loadU32_eq_of_slice hf.headerCrc
  have hpayload : slice image slotHeaderBytes (packRows rows).length = packRows rows := hf.payload
  have hheader : readSlotHeader image =
      { magic := slotMagic, version := formatVersion, schema := schema
        namespaceLength := namespaceBytes.length, generation := generation
        entryCount := rows.length, usedBytes := rowBytes rows
        payloadLen := (packRows rows).length, payloadCrc := crc32c (packRows rows)
        headerCrc := crc32c (slice image 0 304) } := by
    rw [readSlotHeader, hmagic, hversion, hschema, hnl, hg, hc, hu, hp, hpc, hhc]
  have herased : bytesAllErased (slice image 0 slotBytes) = false :=
    bytesAllErased_eq_false (by rw [hf.magic]; decide) (by omega) hf.length
  have hok : SlotHeaderOk image (readSlotHeader image) := by
    rw [hheader]
    refine ⟨rfl, rfl, hname, hname', ?_, ?_, ?_, hgen, hrows.count, hrows.bytes, hpay, ?_, rfl⟩
    · rw [hf.reserved]; exact bytesAllZero_zeros _
    · rw [hf.reserved2]; exact bytesAllZero_zeros _
    · rw [hf.reserved3]; exact bytesAllZero_zeros _
    · rw [hf.namePad]; exact bytesAllZero_zeros _
  have hpok : SlotPayloadOk image (readSlotHeader image) schema expected := by
    rw [hheader]
    exact ⟨by rw [hpayload], rfl, fun name hn => (hexp name hn).trans hf.name.symm⟩
  have hused : (View.ofRows rows).usedLogicalBytes = rowBytes rows := by
    have := (View.inBlob_ofRows rows).rowBytes_rows
    rw [View.rows_ofRows] at this
    exact this.symm
  rw [decodeSlot, if_neg (not_lt.2 hf.length), herased]
  simp only [Bool.false_eq_true, if_false, hok, hpok, not_true_eq_false]
  simp only [hheader, hpayload, unpackPayload_packRows hrows, hused, ne_eq, not_true_eq_false,
    if_false]

/-- What an accepted image contains: the fields of its own rows. -/
theorem decodeSlot_valid {expected : Option (List UInt8)}
    (h : decodeSlot image schema expected = .valid (generation, view)) :
    ∃ namespaceBytes rows,
      SlotFields image schema generation namespaceBytes rows.length (rowBytes rows)
        (packRows rows) ∧
      Storable rows ∧ generation ≠ 0 ∧ 1 ≤ namespaceBytes.length ∧ namespaceBytes.length ≤ 255 ∧
      (∀ name ∈ expected, name = namespaceBytes) ∧ (packRows rows).length ≤ slotPayloadBytes ∧
      view = View.ofRows rows := by
  have hslot := slotBytes_eq
  have hpb := slotPayloadBytes_eq
  rw [decodeSlot] at h
  by_cases hlen : image.length < slotBytes
  · rw [if_pos hlen] at h
    cases h
  rw [if_neg hlen] at h
  by_cases herased : bytesAllErased (slice image 0 slotBytes) = true
  · rw [if_pos herased] at h
    cases h
  rw [if_neg herased] at h
  simp only at h
  by_cases hok : SlotHeaderOk image (readSlotHeader image)
  swap
  · rw [if_pos hok] at h
    cases h
  rw [if_neg (not_not.2 hok)] at h
  by_cases hpok : SlotPayloadOk image (readSlotHeader image) schema expected
  swap
  · rw [if_pos hpok] at h
    cases h
  rw [if_neg (not_not.2 hpok)] at h
  obtain ⟨hmagic, hversion, hn1, hn2, hz1, hz2, hz3, hgen, hcount, hused, hpl, hpad, hcrc⟩ := hok
  obtain ⟨hpcrc, hschema, hexp⟩ := hpok
  simp only [readSlotHeader] at hmagic hversion hn1 hn2 hgen hcount hused hpl hpad hcrc
  simp only [readSlotHeader] at hpcrc hschema hexp
  have hpaylen : (slice image slotHeaderBytes (loadU32 image 292).toNat).length =
      (loadU32 image 292).toNat := length_slice_of_le (by simp only [slotHeaderBytes]; omega)
  cases hun : unpackPayload (slice image slotHeaderBytes (readSlotHeader image).payloadLen)
      (readSlotHeader image).payloadLen (readSlotHeader image).entryCount with
  | none =>
    simp only [hun] at h
    cases h
  | some loaded =>
    simp only [hun] at h
    split_ifs at h with hu
    simp only [ne_eq, not_not] at hu
    cases h
    simp only [readSlotHeader] at hun hu
    generalize hslice : slice image slotHeaderBytes (loadU32 image 292).toNat = payload at hun hpaylen
    rw [← hpaylen] at hun
    obtain ⟨rows, rfl, hpack, hrlen, hrok, hinc, hmax⟩ := unpackPayload_some hun
    have hbytes : rowBytes rows = (loadU64 image 284).toNat := by
      have := (View.inBlob_ofRows rows).rowBytes_rows
      rw [View.rows_ofRows] at this
      exact this.trans hu
    rw [hpack] at hpaylen hslice
    have hnl : (slice image 16 (loadU32 image 12).toNat).length = (loadU32 image 12).toNat :=
      length_slice_of_le (by omega)
    have hload4 : ∀ o, o + 4 ≤ slotBytes →
        slice image o 4 = encodeLE 4 (loadU32 image o).toNat :=
      fun o ho => slice_eq_loadU32 (by omega)
    have hload8 : ∀ o, o + 8 ≤ slotBytes →
        slice image o 8 = encodeLE 8 (loadU64 image o).toNat :=
      fun o ho => slice_eq_loadU64 (by omega)
    refine ⟨slice image 16 (loadU32 image 12).toNat, rows, ?_,
      ⟨hrok, hinc, hrlen ▸ hcount, hbytes ▸ hused⟩, hgen, by omega, by omega, hexp, by omega, rfl⟩
    constructor
    case length => omega
    case magic => rw [hload4 0 (by omega), hmagic]
    case version => rw [hload4 4 (by omega), hversion]
    case schema => rw [hload4 8 (by omega), hschema]
    case nameLength => rw [hload4 12 (by omega), hnl]
    case name => rw [hnl]
    case namePad => rw [hnl]; exact slice_eq_zeros hpad (by omega)
    case reserved => exact slice_eq_zeros hz1 (by omega)
    case generation => exact hload8 272 (by omega)
    case count => rw [hload4 280 (by omega), hrlen]
    case used => rw [hload8 284 (by omega), hbytes]
    case payloadLen => rw [hload4 292 (by omega), hpaylen]
    case reserved2 => exact slice_eq_zeros hz2 (by omega)
    case payloadCrc => rw [hload4 300 (by omega), hpcrc, hslice]
    case headerCrc => rw [hload4 304 (by omega), hcrc]
    case reserved3 => exact slice_eq_zeros hz3 (by omega)
    case payload => rw [hpaylen]; exact hslice

/-! ### Both directions -/

/-- Images with the same fields agree up to the end of the payload. -/
theorem SlotFields.agree
    (h : SlotFields image schema generation namespaceBytes entryCount used payload)
    (h' : SlotFields image' schema generation namespaceBytes entryCount used payload)
    (hname : namespaceBytes.length ≤ 255) :
    image.take (320 + payload.length) = image'.take (320 + payload.length) := by
  -- a longer range agrees if its two parts do
  have join : ∀ {o m l}, slice image o m = slice image' o m →
      slice image (o + m) l = slice image' (o + m) l →
      slice image o (m + l) = slice image' o (m + l) := by
    intro o m l h1 h2
    rw [← slice_append_slice, ← slice_append_slice, h1, h2]
  have hname : slice image 16 255 = slice image' 16 255 := by
    have := join (h.name.trans h'.name.symm) (h.namePad.trans h'.namePad.symm)
    rwa [Nat.add_sub_cancel' hname] at this
  have h304 : slice image 0 304 = slice image' 0 304 :=
    join (join (join (join (join (join (join (join (join (join (join
      (h.magic.trans h'.magic.symm)
      (h.version.trans h'.version.symm))
      (h.schema.trans h'.schema.symm))
      (h.nameLength.trans h'.nameLength.symm))
      hname)
      (h.reserved.trans h'.reserved.symm))
      (h.generation.trans h'.generation.symm))
      (h.count.trans h'.count.symm))
      (h.used.trans h'.used.symm))
      (h.payloadLen.trans h'.payloadLen.symm))
      (h.reserved2.trans h'.reserved2.symm))
      (h.payloadCrc.trans h'.payloadCrc.symm)
  have hcrc : slice image 304 4 = slice image' 304 4 := by
    rw [h.headerCrc, h'.headerCrc, h304]
  exact join (join (join h304 hcrc) (h.reserved3.trans h'.reserved3.symm))
    (h.payload.trans h'.payload.symm)

/-- The packed rows always fit the slot. -/
theorem Storable.packRows_le (h : Storable rows) : (packRows rows).length ≤ slotPayloadBytes := by
  have hlen : (packRows rows).length + 10 * rows.length = rowBytes rows := by
    have hb := h.count
    clear h hb
    induction rows with
    | nil => rfl
    | cons row rows ih =>
      simp only [packRows_cons, List.length_append, length_packRow, rowBytes, List.map_cons,
        List.sum_cons, List.length_cons] at ih ⊢
      omega
  have hbytes : rowBytes rows ≤ 69632 := h.bytes
  rw [slotPayloadBytes_eq]
  omega

/-- Encoding a view whose rows are storable. -/
theorem encodeSlot_eq (h : view.InBlob) (hrows : Storable view.rows)
    (hused : view.usedLogicalBytes = logicalBytes view.entries) (hgen : generation ≠ 0)
    (hname : 1 ≤ namespaceBytes.length) (hname' : namespaceBytes.length ≤ 255) :
    encodeSlot schema generation namespaceBytes view =
      some (slotImage schema generation namespaceBytes view.rows.length (rowBytes view.rows)
        (packRows view.rows)) := by
  have hcount := hrows.count
  have hbytes := hrows.bytes
  rw [View.length_rows] at hcount
  rw [h.rowBytes_rows] at hbytes
  have hpack : packPayload view slotPayloadBytes = some (packRows view.rows) := by
    apply packPayload_eq h
    have := packedBytes_add view.entries
    simp only [persistedMaxLogicalBytes] at hbytes
    rw [slotPayloadBytes_eq]
    omega
  have hguard : ¬(namespaceBytes.length < 1 ∨ namespaceBytes.length > 255 ∨ generation = 0 ∨
      view.entries.length > persistedMaxEntries ∨
      view.usedLogicalBytes > persistedMaxLogicalBytes) := by
    rw [hused]
    simp only [hgen, false_or]
    omega
  rw [encodeSlot, if_neg hguard, hpack, Option.map_some, hused, View.length_rows, h.rowBytes_rows]

theorem Storable.slotImage_fields (h : Storable rows) (hname : namespaceBytes.length ≤ 255) :
    SlotFields (slotImage schema generation namespaceBytes rows.length (rowBytes rows)
      (packRows rows)) schema generation namespaceBytes rows.length (rowBytes rows)
      (packRows rows) := by
  have hcount : rows.length ≤ 32 := h.count
  have hbytes : rowBytes rows ≤ 69632 := h.bytes
  exact EspStorage.slotImage_fields hname (by omega) (by omega) h.packRows_le

/-- The encoded image is decoded to the same generation and rows. -/
theorem decodeSlot_slotImage (h : Storable rows) (hgen : generation ≠ 0)
    (hname : 1 ≤ namespaceBytes.length) (hname' : namespaceBytes.length ≤ 255)
    {expected : Option (List UInt8)} (hexp : ∀ name ∈ expected, name = namespaceBytes) :
    decodeSlot (slotImage schema generation namespaceBytes rows.length (rowBytes rows)
      (packRows rows)) schema expected = .valid (generation, View.ofRows rows) :=
  decodeSlot_of_fields (h.slotImage_fields hname') h hgen hname hname' hexp h.packRows_le

/-- **The slot format round trip.**  Every storable view is encoded to an image that decodes to
the same generation and rows; and every image that decodes is reproduced, up to the end of its
payload, by encoding what it decoded to. -/
theorem slot_round_trip :
    (∀ (schema : UInt32) (generation : UInt64) (namespaceBytes : List UInt8) (view : View),
      view.InBlob → KeysIncrease view.entries →
      (∀ entry ∈ view.entries, 1 ≤ entry.key.length ∧ entry.key.length ≤ 255) →
      (∀ entry ∈ view.entries, entry.valueLength ≤ 65536) →
      view.entries.length ≤ 32 → view.usedLogicalBytes ≤ 69632 →
      view.usedLogicalBytes = logicalBytes view.entries →
      1 ≤ generation.toNat → 1 ≤ namespaceBytes.length → namespaceBytes.length ≤ 255 →
      ∃ image, encodeSlot schema generation namespaceBytes view = some image ∧
        ∃ view', decodeSlot image schema (some namespaceBytes) = .valid (generation, view') ∧
          view'.rows = view.rows) ∧
    ∀ (image : List UInt8) (schema : UInt32) (expected : Option (List UInt8))
      (generation : UInt64) (view : View),
      decodeSlot image schema expected = .valid (generation, view) →
      ∃ image', encodeSlot (loadU32 image 8) generation
          (slice image 16 (loadU32 image 12).toNat) view = some image' ∧
        image'.take (320 + (loadU32 image 292).toNat) =
          image.take (320 + (loadU32 image 292).toNat) := by
  refine ⟨?_, ?_⟩
  · intro schema generation name view hblob hinc hkeys hvalues hcount hbytes hused hgen hn1 hn2
    have hgen' : generation ≠ 0 := by
      rintro rfl
      exact absurd hgen (by decide)
    have hrows : Storable view.rows := by
      refine ⟨?_, View.rowsIncrease_iff.2 hinc, by rw [View.length_rows]; exact hcount, ?_⟩
      · intro row hrow
        obtain ⟨entry, he, rfl⟩ := List.mem_map.1 hrow
        refine ⟨(hkeys entry he).1, (hkeys entry he).2, ?_⟩
        rw [hblob.length_value he]
        exact hvalues entry he
      · rw [hblob.rowBytes_rows, ← hused]
        exact hbytes
    refine ⟨_, encodeSlot_eq hblob hrows hused hgen' hn1 hn2, View.ofRows view.rows, ?_,
      View.rows_ofRows _⟩
    exact decodeSlot_slotImage hrows hgen' hn1 hn2 (by simp)
  · intro image schema expected generation view h
    obtain ⟨name, rows, hf, hrows, hgen, hn1, hn2, -, hpay, rfl⟩ := decodeSlot_valid h
    have hschema : loadU32 image 8 = schema := loadU32_eq_of_slice hf.schema
    have hnl : (loadU32 image 12).toNat = name.length := loadU32_of_slice (by omega) hf.nameLength
    have hpl : (loadU32 image 292).toNat = (packRows rows).length := by
      rw [slotPayloadBytes_eq] at hpay
      exact loadU32_of_slice (by omega) hf.payloadLen
    have henc := @encodeSlot_eq _ schema generation name
      (View.inBlob_ofRows rows) (by rw [View.rows_ofRows]; exact hrows) rfl hgen hn1 hn2
    rw [View.rows_ofRows] at henc
    rw [hschema, hnl, hf.name, hpl]
    exact ⟨_, henc, (hrows.slotImage_fields hn2).agree hf hn2⟩

/-- A view with two rows, whose values stand the other way round. -/
def sampleView : View where
  entries := [{ key := [107], valueLength := 2, valueOffset := 1 },
    { key := [108], valueLength := 1, valueOffset := 0 }]
  usedLogicalBytes := 37
  valueBlob := [3, 1, 2]

/-- The sample view survives the round trip in a namespace called "A". -/
theorem sample_view_round_trip :
    ∃ image, encodeSlot 1 1 [65] sampleView = some image ∧
      ∃ view', decodeSlot image 1 (some [65]) = .valid (1, view') ∧
        view'.rows = [([107], [1, 2]), ([108], [3])] :=
  slot_round_trip.1 1 1 [65] sampleView (by simp [View.InBlob, sampleView]) (by decide)
    (by decide) (by decide) (by decide) (by decide) (by decide) (by decide) (by decide) (by decide)

end Ninlil.EspStorage
