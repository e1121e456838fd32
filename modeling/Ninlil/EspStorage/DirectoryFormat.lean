import Ninlil.EspStorage.SlotFormat

/-!
# The directory format

* `encodeEntry_ok`: a well-formed entry is read back from its image;
* `DirectoryFields`: the bytes of a directory image;
* `decodeDirectory_sealed`, `decodeDirectory_unsealed`: the image of a directory decodes to it
  once it is sealed, and counts as empty before.
-/

namespace Ninlil.EspStorage

open Bytes

/-! ### Entries -/

/-- The entries a directory cache can hold. -/
def DirectoryEntry.WellFormed (entry : DirectoryEntry) : Prop :=
  entry = {} ∨ (entry.occupied = true ∧ 1 ≤ entry.name.length ∧ entry.name.length ≤ 255 ∧
    entry.dataSeedGeneration ≠ 0)

/-- The bytes of an entry image. -/
structure EntryFields (image : List UInt8) (entry : DirectoryEntry) : Prop where
  state : slice image 0 1 = [if entry.occupied then 1 else 0]
  nameLength : slice image 1 1 = [UInt8.ofNat entry.name.length]
  reserved : slice image 2 2 = zeros 2
  schema : slice image 4 4 = encodeLE 4 entry.schema.toNat
  name : slice image 8 entry.name.length = entry.name
  namePad : slice image (8 + entry.name.length) (255 - entry.name.length) =
    zeros (255 - entry.name.length)
  seed : slice image 263 8 = encodeLE 8 entry.dataSeedGeneration.toNat
  reserved2 : slice image 271 1 = zeros 1

theorem encodeEntry_fields {entry : DirectoryEntry} (hname : entry.name.length ≤ 255) :
    EntryFields (encodeEntry entry) entry := by
  have hz : ∀ o m, o + m ≤ dirEntryBytes → slice (zeros dirEntryBytes) o m = zeros m :=
    fun o m h => slice_replicate 0 h
  have hlenz : (zeros dirEntryBytes).length = dirEntryBytes := List.length_replicate
  have hdir : dirEntryBytes = 272 := rfl
  have hsing : ∀ b : UInt8, [b].length = 1 := fun _ => rfl
  constructor
  all_goals
    simp (disch := first
      | omega
      | exact hsing _
      | (simp only [length_storeU32, length_storeU64, length_store, hlenz, hsing]; omega)) only
      [encodeEntry, slice_storeU32, slice_storeU64, slice_store_of_disjoint,
      slice_storeU32_self, slice_storeU64_self, slice_store_self, hz]
  rfl

@[simp] theorem length_encodeEntry {entry : DirectoryEntry} :
    (encodeEntry entry).length = dirEntryBytes := by
  simp only [encodeEntry, length_storeU32, length_storeU64, length_store]
  exact List.length_replicate

theorem decodeLE_singleton (b : UInt8) : decodeLE [b] = b.toNat := by simp [decodeLE]

/-- A well-formed entry is read back from its image. -/
theorem encodeEntry_ok {entry : DirectoryEntry} (h : entry.WellFormed) :
    EntryOk (encodeEntry entry) ∧ readEntry (encodeEntry entry) = entry := by
  rcases h with rfl | ⟨hocc, hname, hname', hseed⟩
  · have hf := @encodeEntry_fields {} (Nat.zero_le 255)
    have hstate : decodeLE (slice (encodeEntry {}) 0 1) = 0 := by rw [hf.state]; rfl
    have hlen : decodeLE (slice (encodeEntry {}) 1 1) = 0 := by rw [hf.nameLength]; rfl
    constructor
    · refine ⟨?_, ?_, .inl ⟨hstate, hlen, loadU64_eq_of_slice hf.seed, ?_, ?_⟩⟩
      · rw [hf.reserved]; exact bytesAllZero_zeros _
      · rw [hf.reserved2]; exact bytesAllZero_zeros _
      · rw [hf.schema]; decide
      · have hpad : slice (encodeEntry {}) 8 255 = zeros 255 := hf.namePad
        rw [hpad]; exact bytesAllZero_zeros _
    · rw [readEntry, if_pos hstate]
  · have hf := encodeEntry_fields hname'
    have hstate : decodeLE (slice (encodeEntry entry) 0 1) = 1 := by
      rw [hf.state, hocc]
      rfl
    have hlen : decodeLE (slice (encodeEntry entry) 1 1) = entry.name.length := by
      rw [hf.nameLength, decodeLE_singleton, UInt8.toNat_ofNat', Nat.mod_eq_of_lt (by omega)]
    have hseed' : loadU64 (encodeEntry entry) 263 = entry.dataSeedGeneration :=
      loadU64_eq_of_slice hf.seed
    have hschema : loadU32 (encodeEntry entry) 4 = entry.schema := loadU32_eq_of_slice hf.schema
    constructor
    · refine ⟨?_, ?_, .inr ⟨hstate, by rw [hlen]; exact hname, by rw [hseed']; exact hseed, ?_⟩⟩
      · rw [hf.reserved]; exact bytesAllZero_zeros _
      · rw [hf.reserved2]; exact bytesAllZero_zeros _
      · rw [hlen, hf.namePad]; exact bytesAllZero_zeros _
    · rw [readEntry, hstate, if_neg (by decide), hlen, hf.name, hschema, hseed', ← hocc]

/-! ### The whole sector -/

/-- The directories the port writes. -/
structure Directory.WellFormed (entries : Fin hardMaxNamespaces → DirectoryEntry) : Prop where
  entry : ∀ i, (entries i).WellFormed
  distinct : NamesDistinct entries

/-- The bytes of a directory image, its seal apart. -/
structure DirectoryFields (image : List UInt8) (generation : UInt64) (config : Config)
    (entries : Fin hardMaxNamespaces → DirectoryEntry) : Prop where
  length : dirBytes ≤ image.length
  magic : slice image 0 4 = encodeLE 4 dirMagic.toNat
  version : slice image 4 4 = encodeLE 4 formatVersion.toNat
  generation : slice image 8 8 = encodeLE 8 generation.toNat
  maxNamespaces : slice image 16 4 = encodeLE 4 config.maxNamespaces
  maxEntries : slice image 20 8 = encodeLE 8 config.maxEntriesPerNamespace.toNat
  maxBytes : slice image 28 8 = encodeLE 8 config.maxBytesPerNamespace.toNat
  capacity : slice image 36 4 = encodeLE 4 hardMaxNamespaces
  reserved : slice image 40 8 = zeros 8
  entry : ∀ i, entryImage image i = encodeEntry (entries i)
  pad : slice image dirPadOffset (dirProtectedBytes - dirPadOffset) =
    zeros (dirProtectedBytes - dirPadOffset)
  crc : slice image 4088 4 = encodeLE 4 (crc32c (slice image 0 4088)).toNat

variable {image : List UInt8} {generation : UInt64} {config : Config} {cache : Directory}

theorem length_directoryProtected :
    (directoryProtected generation config cache).length = dirBytes := by
  have hfold : ∀ (l : List (Fin hardMaxNamespaces)) (out : List UInt8),
      (l.foldl (fun out i => store out (dirEntryOffset i) (encodeEntry (cache.entries i)))
        out).length = out.length := by
    intro l
    induction l with
    | nil => exact fun _ => rfl
    | cons i l ih => exact fun out => (ih _).trans length_store
  simp only [directoryProtected, hfold, length_storeU32, length_storeU64]
  exact List.length_replicate

/-- The loop over the entries, unrolled. -/
theorem foldl_entries (out : List UInt8) (entries : Fin hardMaxNamespaces → DirectoryEntry) :
    (List.finRange hardMaxNamespaces).foldl
        (fun out i => store out (dirEntryOffset i) (encodeEntry (entries i))) out =
      store (store (store (store out 48 (encodeEntry (entries 0))) 320 (encodeEntry (entries 1)))
        592 (encodeEntry (entries 2))) 864 (encodeEntry (entries 3)) := by
  have hrange : List.finRange hardMaxNamespaces = [0, 1, 2, 3] := rfl
  rw [hrange]
  rfl

/-- A slice of the protected span is not touched by checksum and seal. -/
theorem slice_directoryBody {o m : ℕ} {value : UInt32} (h : o + m ≤ dirProtectedBytes) :
    slice (storeU32 (directoryBody generation config cache) dirSealOffset value) o m =
      slice (directoryProtected generation config cache) o m := by
  have h1 : dirProtectedBytes = 4088 := rfl
  have h2 : dirSealOffset = 4092 := rfl
  rw [slice_storeU32 (by omega), directoryBody, slice_storeU32 (by omega)]

theorem directoryBody_fields (hconfig : config.maxNamespaces ≤ hardMaxNamespaces) (value : UInt32) :
    DirectoryFields (storeU32 (directoryBody generation config cache) dirSealOffset value)
      generation config cache.entries := by
  have hz : ∀ o m, o + m ≤ dirBytes → slice (zeros dirBytes) o m = zeros m :=
    fun o m h => slice_replicate 0 h
  have hlenz : (zeros dirBytes).length = dirBytes := List.length_replicate
  have hdir : dirBytes = 4096 := rfl
  have hprot : dirProtectedBytes = 4088 := rfl
  have hseal : dirSealOffset = 4092 := rfl
  have hentry : ∀ e, (encodeEntry e).length = 272 := fun e => length_encodeEntry
  have hmax : config.maxNamespaces ≤ 4 := hconfig
  have hfold := fun out => foldl_entries out cache.entries
  have hoff : dirEntryOffset 0 = 48 ∧ dirEntryOffset 1 = 320 ∧ dirEntryOffset 2 = 592 ∧
      dirEntryOffset 3 = 864 := ⟨rfl, rfl, rfl, rfl⟩
  obtain ⟨h0, h1, h2, h3⟩ := hoff
  have hpad : dirPadOffset = 1136 := rfl
  have hbytes : dirEntryBytes = 272 := rfl
  have hlen := @length_directoryProtected generation config cache
  constructor
  case length => rw [length_storeU32, directoryBody, length_storeU32, hlen]
  case crc =>
    rw [slice_storeU32 (by omega), directoryBody]
    have := @slice_storeU32_self (directoryProtected generation config cache) dirProtectedBytes
      (crc32c (slice (directoryProtected generation config cache) 0 dirProtectedBytes))
      (by omega)
    rw [← directoryBody, slice_directoryBody le_rfl]
    exact this
  case entry =>
    intro i
    have hi : i = 0 ∨ i = 1 ∨ i = 2 ∨ i = 3 := by revert i; decide
    rw [entryImage]
    rcases hi with rfl | rfl | rfl | rfl
    all_goals
      rw [slice_directoryBody (by omega)]
      simp (disch := first
        | omega
        | exact hentry _
        | (simp only [length_storeU32, length_storeU64, length_store, hlenz, hentry]; omega)) only
        [directoryProtected, hfold, h0, h1, h2, h3, hbytes,
        slice_store_of_disjoint, slice_store_self]
  case capacity =>
    rw [slice_directoryBody (by omega), ← encodeLE_ofNat32 (m := hardMaxNamespaces) (by decide)]
    simp (disch := first
      | omega
      | (simp only [length_storeU32, length_storeU64, length_store, hlenz, hentry]; omega)) only
      [directoryProtected, hfold, slice_store_of_disjoint, slice_storeU32_self]
  all_goals
    rw [slice_directoryBody (by omega)]
    simp (disch := first
      | omega
      | (simp only [length_storeU32, length_storeU64, length_store, hlenz, hentry]; omega)) only
      [directoryProtected, hfold, slice_storeU32, slice_storeU64, slice_store_of_disjoint,
      slice_storeU32_self, slice_storeU64_self, hz, encodeLE_ofNat32]

variable {entries : Fin hardMaxNamespaces → DirectoryEntry}

theorem DirectoryFields.headerOk (hf : DirectoryFields image generation config entries)
    (hgen : generation ≠ 0) (hconfig : config.maxNamespaces ≤ hardMaxNamespaces) :
    DirectoryHeaderOk image config := by
  have hmax : config.maxNamespaces ≤ 4 := hconfig
  refine ⟨loadU32_eq_of_slice hf.magic, loadU32_eq_of_slice hf.version, ?_,
    loadU32_of_slice (by omega) hf.maxNamespaces, loadU64_eq_of_slice hf.maxEntries,
    loadU64_eq_of_slice hf.maxBytes, loadU32_of_slice (by decide) hf.capacity, ?_,
    loadU32_eq_of_slice hf.crc⟩
  · rw [loadU64_eq_of_slice hf.generation]
    exact hgen
  · rw [hf.reserved]
    exact bytesAllZero_zeros _

theorem DirectoryFields.not_erased (hf : DirectoryFields image generation config entries) :
    bytesAllErased (slice image 0 dirBytes) = false :=
  bytesAllErased_eq_false (by rw [hf.magic]; decide) (by decide) hf.length

/-- A sealed image decodes to its directory. -/
theorem decodeDirectory_sealed (hf : DirectoryFields image generation config entries)
    (hw : Directory.WellFormed entries) (hgen : generation ≠ 0)
    (hconfig : config.maxNamespaces ≤ hardMaxNamespaces)
    (hseal : loadU32 image dirSealOffset = dirSealCommitted) :
    decodeDirectory image config = .valid { generation := generation, entries := entries } := by
  have hpad :
      ¬bytesAllZero (slice image dirPadOffset (dirProtectedBytes - dirPadOffset)) = false := by
    rw [hf.pad, bytesAllZero_zeros]
    decide
  have hread : (fun i => readEntry (entryImage image i)) = entries := by
    funext i
    rw [hf.entry i, (encodeEntry_ok (hw.entry i)).2]
  have hentries : (∀ i, EntryOk (entryImage image i)) ∧
      NamesDistinct fun i => readEntry (entryImage image i) := by
    refine ⟨fun i => ?_, ?_⟩
    · rw [hf.entry i]
      exact (encodeEntry_ok (hw.entry i)).1
    · rw [hread]
      exact hw.distinct
  rw [decodeDirectory, if_neg (not_lt.2 hf.length), if_neg (by rw [hf.not_erased]; decide),
    if_neg (not_not.2 (hf.headerOk hgen hconfig)), if_neg (not_not.2 hseal), if_neg hpad,
    if_pos hentries, hread, loadU64_eq_of_slice hf.generation]

/-- Before it is sealed it counts as empty. -/
theorem decodeDirectory_unsealed (hf : DirectoryFields image generation config entries)
    (hgen : generation ≠ 0) (hconfig : config.maxNamespaces ≤ hardMaxNamespaces)
    (hseal : loadU32 image dirSealOffset ≠ dirSealCommitted) :
    decodeDirectory image config = .empty := by
  rw [decodeDirectory, if_neg (not_lt.2 hf.length), if_neg (by rw [hf.not_erased]; decide),
    if_neg (not_not.2 (hf.headerOk hgen hconfig)), if_pos hseal]

/-- An erased sector holds no directory. -/
theorem decodeDirectory_erased (config : Config) :
    decodeDirectory (List.replicate dirBytes 0xFF) config = .empty := by
  have herased : bytesAllErased (slice (List.replicate dirBytes 0xFF) 0 dirBytes) = true := by
    rw [slice_self List.length_replicate]
    simp [bytesAllErased]
  rw [decodeDirectory, if_neg (by simp), if_pos herased]

end Ninlil.EspStorage
