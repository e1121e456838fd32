import Ninlil.Lib.Bytes

/-!
# The persistent images of the ESP storage port

`esp_storage_codec.c`: a directory sector and the two data slots of every namespace.  All numbers
are little endian; every image is a zeroed buffer with fields stored at fixed offsets.

* `View`: the rows of a namespace, their values in one blob;
* `encodeSlot`, `decodeSlot`: a data slot with its header and payload checksums;
* `encodeDirectory`, `decodeDirectory`: a directory sector with its checksum and final seal.
-/

namespace Ninlil.EspStorage

open Bytes

/-! ### Constants -/

/-- `NINLIL_PORT_ESP_STORAGE_FORMAT_VERSION`. -/
def formatVersion : UInt32 := 4
/-- `NINLIL_PORT_ESP_STORAGE_DIR_MAGIC`, "NILD". -/
def dirMagic : UInt32 := 0x444C494E
/-- `NINLIL_PORT_ESP_STORAGE_SLOT_MAGIC`, "NILS". -/
def slotMagic : UInt32 := 0x534C494E
/-- `NINLIL_PORT_ESP_STORAGE_ERASE_ALIGN`. -/
def eraseAlign : ℕ := 4096
/-- `NINLIL_PORT_ESP_STORAGE_DIR_BYTES`. -/
def dirBytes : ℕ := 4096
/-- `NINLIL_PORT_ESP_STORAGE_HARD_MAX_NAMESPACES`. -/
abbrev hardMaxNamespaces : ℕ := 4
/-- `NINLIL_PORT_ESP_STORAGE_HARD_MAX_ENTRIES`. -/
def hardMaxEntries : ℕ := 64
/-- `NINLIL_PORT_ESP_STORAGE_HARD_MAX_LOGICAL_BYTES`. -/
def hardMaxLogicalBytes : ℕ := 139264
/-- `NINLIL_PORT_ESP_STORAGE_PERSISTED_MAX_ENTRIES`. -/
def persistedMaxEntries : ℕ := 32
/-- `NINLIL_PORT_ESP_STORAGE_PERSISTED_MAX_LOGICAL_BYTES`. -/
def persistedMaxLogicalBytes : ℕ := 69632
/-- `NINLIL_PORT_ESP_STORAGE_HARD_MAX_TXNS`. -/
abbrev hardMaxTxns : ℕ := 3
/-- `NINLIL_PORT_ESP_STORAGE_HARD_MAX_ITERS`. -/
abbrev hardMaxIters : ℕ := 2
/-- `NINLIL_M1A_MAX_STORAGE_VALUE_BYTES`. -/
def maxStorageValueBytes : ℕ := 65536
/-- `NINLIL_STORAGE_SCHEMA_M1A`. -/
def schemaM1a : UInt32 := 1

/-- `NINLIL_PORT_ESP_STORAGE_DIR_ENTRY_BYTES`. -/
def dirEntryBytes : ℕ := 272
/-- `NINLIL_PORT_ESP_STORAGE_DIR_ENTRY_BASE`. -/
def dirEntryBase : ℕ := 48
/-- `NINLIL_PORT_ESP_STORAGE_DIR_PAD_OFFSET`. -/
def dirPadOffset : ℕ := dirEntryBase + hardMaxNamespaces * dirEntryBytes
/-- `NINLIL_PORT_ESP_STORAGE_DIR_PROTECTED_BYTES`, also the offset of the checksum. -/
def dirProtectedBytes : ℕ := 4088
/-- `NINLIL_PORT_ESP_STORAGE_DIR_SEAL_OFFSET`. -/
def dirSealOffset : ℕ := 4092
/-- `NINLIL_PORT_ESP_STORAGE_DIR_SEAL_NONE`. -/
def dirSealNone : UInt32 := 0xFFFFFFFF
/-- `NINLIL_PORT_ESP_STORAGE_DIR_SEAL_COMMITTED`. -/
def dirSealCommitted : UInt32 := 0x4C414553

/-- `NINLIL_PORT_ESP_STORAGE_SLOT_HEADER_BYTES`. -/
def slotHeaderBytes : ℕ := 320
/-- `NINLIL_PORT_ESP_STORAGE_SLOT_PAYLOAD_BYTES`. -/
def slotPayloadBytes : ℕ := persistedMaxLogicalBytes + persistedMaxEntries * 6
/-- `NINLIL_PORT_ESP_STORAGE_SLOT_BYTES`: header and payload, rounded up to whole sectors. -/
def slotBytes : ℕ :=
  (slotHeaderBytes + slotPayloadBytes + (eraseAlign - 1)) / eraseAlign * eraseAlign

/-! ### Primitive codecs -/

/-- One bit of the checksum register. -/
def crcBit (crc : UInt32) : UInt32 :=
  let mask := 0 - (crc &&& 1)
  (crc >>> 1) ^^^ (0x82f63b78 &&& mask)

/-- `ninlil_port_esp_storage_crc32c`. -/
def crc32c (bytes : List UInt8) : UInt32 :=
  ~~~(bytes.foldl (fun crc b => crcBit^[8] (crc ^^^ b.toUInt32)) 0xFFFFFFFF)

def storeU32 (image : List UInt8) (offset : ℕ) (value : UInt32) : List UInt8 :=
  store image offset (encodeLE 4 value.toNat)

def storeU64 (image : List UInt8) (offset : ℕ) (value : UInt64) : List UInt8 :=
  store image offset (encodeLE 8 value.toNat)

def loadU16 (image : List UInt8) (offset : ℕ) : UInt16 :=
  UInt16.ofNat (decodeLE (slice image offset 2))

def loadU32 (image : List UInt8) (offset : ℕ) : UInt32 :=
  UInt32.ofNat (decodeLE (slice image offset 4))

def loadU64 (image : List UInt8) (offset : ℕ) : UInt64 :=
  UInt64.ofNat (decodeLE (slice image offset 8))

def bytesAllZero (bytes : List UInt8) : Bool := bytes.all (· == 0)

def bytesAllErased (bytes : List UInt8) : Bool := bytes.all (· == 0xFF)

/-- A zeroed buffer. -/
def zeros (n : ℕ) : List UInt8 := List.replicate n 0

/-- The answer of a decoder: `1` with its result, `0`, or `-1`. -/
inductive Decoded (α : Type)
  | valid (result : α)
  | empty
  | corrupt

/-! ### Views -/

/-- `ninlil_port_esp_storage_entry_t`. -/
structure Entry where
  key : List UInt8
  valueLength : ℕ
  valueOffset : ℕ
  deriving DecidableEq

/-- `ninlil_port_esp_storage_view_t`; `value_blob_used` is the length of the blob. -/
structure View where
  entries : List Entry := []
  usedLogicalBytes : ℕ := 0
  valueBlob : List UInt8 := []
  deriving DecidableEq

/-- The value of an entry. -/
def View.value (view : View) (entry : Entry) : List UInt8 :=
  slice view.valueBlob entry.valueOffset entry.valueLength

/-- The ordered key/value list of a view. -/
def View.rows (view : View) : List (List UInt8 × List UInt8) :=
  view.entries.map fun entry => (entry.key, view.value entry)

/-- What an entry counts against the capacity. -/
def Entry.logicalBytes (entry : Entry) : ℕ := 16 + entry.key.length + entry.valueLength

def logicalBytes (entries : List Entry) : ℕ := (entries.map Entry.logicalBytes).sum

/-- Neighbouring keys increase. -/
def KeysIncrease (entries : List Entry) : Prop :=
  entries.IsChain fun left right => bytesCompare left.key right.key = .lt

instance (entries : List Entry) : Decidable (KeysIncrease entries) :=
  inferInstanceAs (Decidable (List.IsChain _ _))

/-! ### The payload -/

/-- The bytes of one packed entry. -/
def packEntry (view : View) (entry : Entry) : List UInt8 :=
  encodeLE 2 entry.key.length ++ encodeLE 4 entry.valueLength ++ entry.key ++ view.value entry

/-- The loop of `pack_payload`, behind the bytes `out`. -/
def packEntries (view : View) (capacity : ℕ) : List Entry → List UInt8 → Option (List UInt8)
  | [], out => some out
  | entry :: entries, out =>
    if 6 + entry.key.length + entry.valueLength > capacity - out.length then none
    else if entry.valueLength ≠ 0
        ∧ entry.valueOffset + entry.valueLength > view.valueBlob.length then none
    else packEntries view capacity entries (out ++ packEntry view entry)

def packPayload (view : View) (capacity : ℕ) : Option (List UInt8) :=
  packEntries view capacity view.entries []

/-- The loop of `unpack_payload`: `count` entries are left, the next one starts at `offset`. -/
def unpackEntries (payload : List UInt8) (payloadLen : ℕ) : ℕ → ℕ → View → Option (ℕ × View)
  | 0, offset, view => some (offset, view)
  | count + 1, offset, view =>
    if offset + 6 > payloadLen then none
    else
      let keyLength := (loadU16 payload offset).toNat
      let valueLength := (loadU32 payload (offset + 2)).toNat
      if keyLength < 1 ∨ keyLength > 255 ∨ valueLength > maxStorageValueBytes
          ∨ offset + 6 + keyLength + valueLength > payloadLen then none
      else if valueLength ≠ 0
          ∧ view.valueBlob.length > hardMaxLogicalBytes - valueLength then none
      else
        unpackEntries payload payloadLen count (offset + 6 + keyLength + valueLength)
          { view with
            entries := view.entries ++
              [{ key := slice payload (offset + 6) keyLength
                 valueLength := valueLength
                 valueOffset := view.valueBlob.length }]
            valueBlob := view.valueBlob ++ slice payload (offset + 6 + keyLength) valueLength }

def unpackPayload (payload : List UInt8) (payloadLen entryCount : ℕ) : Option View :=
  if entryCount > persistedMaxEntries then none
  else
    match unpackEntries payload payloadLen entryCount 0 {} with
    | none => none
    | some (offset, view) =>
      if offset ≠ payloadLen then none
      else if ¬KeysIncrease view.entries then none
      else some { view with usedLogicalBytes := logicalBytes view.entries }

/-! ### Data slots -/

/-- The stores of `encode_slot`, around a packed payload. -/
def slotImage (schema : UInt32) (generation : UInt64) (namespaceBytes : List UInt8)
    (entryCount usedLogicalBytes : ℕ) (payload : List UInt8) : List UInt8 :=
  let out := zeros slotBytes
  let out := storeU32 out 0 slotMagic
  let out := storeU32 out 4 formatVersion
  let out := storeU32 out 8 schema
  let out := storeU32 out 12 (UInt32.ofNat namespaceBytes.length)
  let out := store out 16 namespaceBytes
  let out := storeU64 out 272 generation
  let out := storeU32 out 280 (UInt32.ofNat entryCount)
  let out := storeU64 out 284 (UInt64.ofNat usedLogicalBytes)
  let out := store out slotHeaderBytes payload
  let out := storeU32 out 292 (UInt32.ofNat payload.length)
  let out := storeU32 out 300 (crc32c (slice out slotHeaderBytes payload.length))
  storeU32 out 304 (crc32c (slice out 0 304))

/-- `ninlil_port_esp_storage_encode_slot`. -/
def encodeSlot (schema : UInt32) (generation : UInt64) (namespaceBytes : List UInt8)
    (view : View) : Option (List UInt8) :=
  if namespaceBytes.length < 1 ∨ namespaceBytes.length > 255 ∨ generation = 0
      ∨ view.entries.length > persistedMaxEntries
      ∨ view.usedLogicalBytes > persistedMaxLogicalBytes then none
  else
    (packPayload view slotPayloadBytes).map
      (slotImage schema generation namespaceBytes view.entries.length view.usedLogicalBytes)

/-- The header fields of a slot image. -/
structure SlotHeader where
  magic : UInt32
  version : UInt32
  schema : UInt32
  namespaceLength : ℕ
  generation : UInt64
  entryCount : ℕ
  usedBytes : ℕ
  payloadLen : ℕ
  payloadCrc : UInt32
  headerCrc : UInt32

def readSlotHeader (image : List UInt8) : SlotHeader where
  magic := loadU32 image 0
  version := loadU32 image 4
  schema := loadU32 image 8
  namespaceLength := (loadU32 image 12).toNat
  generation := loadU64 image 272
  entryCount := (loadU32 image 280).toNat
  usedBytes := (loadU64 image 284).toNat
  payloadLen := (loadU32 image 292).toNat
  payloadCrc := loadU32 image 300
  headerCrc := loadU32 image 304

/-- The header checks of `decode_slot`, its checksum included. -/
def SlotHeaderOk (image : List UInt8) (header : SlotHeader) : Prop :=
  header.magic = slotMagic ∧ header.version = formatVersion
    ∧ 1 ≤ header.namespaceLength ∧ header.namespaceLength ≤ 255
    ∧ bytesAllZero (slice image 271 1) = true
    ∧ bytesAllZero (slice image 296 4) = true
    ∧ bytesAllZero (slice image 308 12) = true
    ∧ header.generation ≠ 0
    ∧ header.entryCount ≤ persistedMaxEntries
    ∧ header.usedBytes ≤ persistedMaxLogicalBytes
    ∧ header.payloadLen ≤ slotPayloadBytes
    ∧ bytesAllZero (slice image (16 + header.namespaceLength) (255 - header.namespaceLength)) = true
    ∧ header.headerCrc = crc32c (slice image 0 304)

instance (image : List UInt8) (header : SlotHeader) : Decidable (SlotHeaderOk image header) :=
  inferInstanceAs (Decidable (_ ∧ _))

/-- The payload checks of `decode_slot`: checksum, schema and identity. -/
def SlotPayloadOk (image : List UInt8) (header : SlotHeader) (expectedSchema : UInt32)
    (expectedNamespace : Option (List UInt8)) : Prop :=
  header.payloadCrc = crc32c (slice image slotHeaderBytes header.payloadLen)
    ∧ header.schema = expectedSchema
    ∧ ∀ name ∈ expectedNamespace, name = slice image 16 header.namespaceLength

instance (image : List UInt8) (header : SlotHeader) (expectedSchema : UInt32)
    (expectedNamespace : Option (List UInt8)) :
    Decidable (SlotPayloadOk image header expectedSchema expectedNamespace) :=
  inferInstanceAs (Decidable (_ ∧ _ ∧ _))

/-- `ninlil_port_esp_storage_decode_slot`; no expected namespace stands for the null pointer. -/
def decodeSlot (image : List UInt8) (expectedSchema : UInt32)
    (expectedNamespace : Option (List UInt8)) : Decoded (UInt64 × View) :=
  if image.length < slotBytes then .empty
  else if bytesAllErased (slice image 0 slotBytes) then .empty
  else
    let header := readSlotHeader image
    if ¬SlotHeaderOk image header then .corrupt
    else if ¬SlotPayloadOk image header expectedSchema expectedNamespace then .corrupt
    else
      match unpackPayload (slice image slotHeaderBytes header.payloadLen) header.payloadLen
          header.entryCount with
      | none => .corrupt
      | some view =>
        if view.usedLogicalBytes ≠ header.usedBytes then .corrupt
        else .valid (header.generation, view)

/-! ### The directory -/

/-- `ninlil_port_esp_storage_config_t`. -/
structure Config where
  maxNamespaces : ℕ
  maxEntriesPerNamespace : UInt64
  maxBytesPerNamespace : UInt64
  maxLiveTxns : ℕ
  maxLiveIters : ℕ
  wlUsableSectorCount : ℕ
  assumedEraseEndurance : ℕ
  wearReservePercent : ℕ
  plannedFullCommitsPerDay : ℕ
  plannedServiceDays : ℕ
  deriving DecidableEq

/-- One entry of the directory cache; the default is a free one. -/
structure DirectoryEntry where
  occupied : Bool := false
  name : List UInt8 := []
  schema : UInt32 := 0
  dataSeedGeneration : UInt64 := 0
  deriving DecidableEq

/-- `ninlil_port_esp_storage_directory_cache_t`. -/
structure Directory where
  generation : UInt64 := 0
  activeDirSlot : Fin 2 := 0
  entries : Fin hardMaxNamespaces → DirectoryEntry := fun _ => {}

/-- The image of one directory entry. -/
def encodeEntry (entry : DirectoryEntry) : List UInt8 :=
  let out := zeros dirEntryBytes
  let out := store out 0 [if entry.occupied then 1 else 0]
  let out := store out 1 [UInt8.ofNat entry.name.length]
  let out := storeU32 out 4 entry.schema
  let out := store out 8 entry.name
  let out := storeU64 out 263 entry.dataSeedGeneration
  store out 271 [0]

def dirEntryOffset (i : Fin hardMaxNamespaces) : ℕ := dirEntryBase + i.val * dirEntryBytes

/-- The stores of `encode_directory` into the protected span. -/
def directoryProtected (generation : UInt64) (config : Config) (cache : Directory) : List UInt8 :=
  let out := zeros dirBytes
  let out := storeU32 out 0 dirMagic
  let out := storeU32 out 4 formatVersion
  let out := storeU64 out 8 generation
  let out := storeU32 out 16 (UInt32.ofNat config.maxNamespaces)
  let out := storeU64 out 20 config.maxEntriesPerNamespace
  let out := storeU64 out 28 config.maxBytesPerNamespace
  let out := storeU32 out 36 (UInt32.ofNat hardMaxNamespaces)
  (List.finRange hardMaxNamespaces).foldl
    (fun out i => store out (dirEntryOffset i) (encodeEntry (cache.entries i))) out

/-- The protected span with the image checksum behind it. -/
def directoryBody (generation : UInt64) (config : Config) (cache : Directory) : List UInt8 :=
  let out := directoryProtected generation config cache
  storeU32 out dirProtectedBytes (crc32c (slice out 0 dirProtectedBytes))

/-- `ninlil_port_esp_storage_encode_directory`. -/
def encodeDirectory (generation : UInt64) (config : Config) (cache : Directory)
    (sealCommitted : Bool) : Option (List UInt8) :=
  if generation = 0 ∨ config.maxNamespaces = 0 ∨ config.maxNamespaces > hardMaxNamespaces then none
  else
    some (storeU32 (directoryBody generation config cache) dirSealOffset
      (if sealCommitted then dirSealCommitted else dirSealNone))

/-- The header checks of `decode_directory`, its checksum included. -/
def DirectoryHeaderOk (image : List UInt8) (config : Config) : Prop :=
  loadU32 image 0 = dirMagic ∧ loadU32 image 4 = formatVersion
    ∧ loadU64 image 8 ≠ 0
    ∧ (loadU32 image 16).toNat = config.maxNamespaces
    ∧ loadU64 image 20 = config.maxEntriesPerNamespace
    ∧ loadU64 image 28 = config.maxBytesPerNamespace
    ∧ (loadU32 image 36).toNat = hardMaxNamespaces
    ∧ bytesAllZero (slice image 40 8) = true
    ∧ loadU32 image dirProtectedBytes = crc32c (slice image 0 dirProtectedBytes)

instance (image : List UInt8) (config : Config) : Decidable (DirectoryHeaderOk image config) :=
  inferInstanceAs (Decidable (_ ∧ _))

/-- The checks of one entry image. -/
def EntryOk (entry : List UInt8) : Prop :=
  let state := decodeLE (slice entry 0 1)
  let nameLength := decodeLE (slice entry 1 1)
  let seedGeneration := loadU64 entry 263
  bytesAllZero (slice entry 2 2) = true ∧ bytesAllZero (slice entry 271 1) = true
    ∧ ((state = 0 ∧ nameLength = 0 ∧ seedGeneration = 0 ∧ bytesAllZero (slice entry 4 4) = true
        ∧ bytesAllZero (slice entry 8 255) = true)
      ∨ (state = 1 ∧ 1 ≤ nameLength ∧ seedGeneration ≠ 0
        ∧ bytesAllZero (slice entry (8 + nameLength) (255 - nameLength)) = true))

instance (entry : List UInt8) : Decidable (EntryOk entry) :=
  inferInstanceAs (Decidable (_ ∧ _ ∧ _))

/-- The cache entry of an entry image. -/
def readEntry (entry : List UInt8) : DirectoryEntry :=
  if decodeLE (slice entry 0 1) = 0 then {}
  else
    { occupied := true
      name := slice entry 8 (decodeLE (slice entry 1 1))
      schema := loadU32 entry 4
      dataSeedGeneration := loadU64 entry 263 }

/-- No two occupied entries carry the same name. -/
def NamesDistinct (entries : Fin hardMaxNamespaces → DirectoryEntry) : Prop :=
  ∀ i j, j < i → (entries i).occupied = true → (entries j).occupied = true →
    (entries j).name ≠ (entries i).name

instance (entries : Fin hardMaxNamespaces → DirectoryEntry) : Decidable (NamesDistinct entries) :=
  inferInstanceAs (Decidable (∀ _ _, _))

def entryImage (image : List UInt8) (i : Fin hardMaxNamespaces) : List UInt8 :=
  slice image (dirEntryOffset i) dirEntryBytes

/-- `ninlil_port_esp_storage_decode_directory`; the loop over the entries fails for the same
images in every order. -/
def decodeDirectory (image : List UInt8) (config : Config) : Decoded Directory :=
  if image.length < dirBytes then .empty
  else if bytesAllErased (slice image 0 dirBytes) then .empty
  else if ¬DirectoryHeaderOk image config then .corrupt
  else if loadU32 image dirSealOffset ≠ dirSealCommitted then .empty
  else if bytesAllZero (slice image dirPadOffset (dirProtectedBytes - dirPadOffset)) = false then
    .corrupt
  else if (∀ i, EntryOk (entryImage image i)) ∧ NamesDistinct fun i => readEntry (entryImage image i)
    then
      .valid
        { generation := loadU64 image 8
          entries := fun i => readEntry (entryImage image i) }
  else .corrupt

end Ninlil.EspStorage
