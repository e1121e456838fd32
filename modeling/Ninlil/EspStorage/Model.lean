import Ninlil.EspStorage.View

/-!
# The storage port

`esp_storage_model.c`: the volatile state of the port and its operations, over arbitrary media.

* `Port`: the media calls, and the width of an opaque token;
* `Storage`: configuration, directory cache, namespace caches, handles, transactions, iterators;
* `packToken`, `unpackToken`, `resolveHandle`, …: tokens and what they name;
* `loadDirectory`, `commitDirectory`, `loadNamespaceContent`, `seedEmptyNamespaceData`: the media
  phases;
* `privateInit` and the operations `portOpen` … `portRollback`.
-/

namespace Ninlil.EspStorage

open Function (update)

/-! ### Media and state -/

/-- The answer of a media call. -/
inductive MediaStatus
  | ok
  | definiteFail
  | unknown
  deriving DecidableEq

/-- `ninlil_port_esp_storage_private_media_ops_t`, over the state of the medium; a read that
fails returns nothing. -/
structure MediaOps (μ : Type) where
  read : μ → ℕ → ℕ → Option (List UInt8) × μ
  write : μ → ℕ → List UInt8 → MediaStatus × μ
  erase : μ → ℕ → ℕ → MediaStatus × μ
  sync : μ → MediaStatus × μ

/-- The platform a storage object runs on. -/
structure Port (μ : Type) where
  media : MediaOps μ
  /-- `sizeof(uintptr_t) * 8`. -/
  uintptrBits : ℕ

/-- `ninlil_storage_status_t`. -/
inductive Status
  | ok
  | notFound
  | bufferTooSmall
  | noSpace
  | ioError
  | corrupt
  | commitUnknown
  | busy
  | unsupportedSchema
  deriving DecidableEq

/-- `ninlil_storage_mode_t`; a zeroed record has mode `0`. -/
inductive Mode
  | readOnly
  | readWrite
  | unlisted (code : ℕ)
  deriving DecidableEq

/-- `ninlil_durability_t`. -/
inductive Durability
  | full
  | unlisted (code : ℕ)
  deriving DecidableEq

/-- `ninlil_port_esp_storage_private_full_policy_t`. -/
inductive FullPolicy
  | hostModel
  | espUnproven
  deriving DecidableEq

/-- `ninlil_port_esp_storage_namespace_t`. -/
structure NamespaceCache where
  cached : Bool := false
  leased : Bool := false
  name : List UInt8 := []
  schema : UInt32 := 0
  activeGeneration : UInt64 := 0
  activeSlot : Fin 2 := 0
  usedEntries : ℕ := 0
  usedBytes : ℕ := 0

/-- `ninlil_port_esp_storage_handle_t`. -/
structure Handle where
  inUse : Bool := false
  generation : ℕ := 0
  namespaceIndex : Fin hardMaxNamespaces := 0
  hasWriter : Bool := false

/-- `ninlil_port_esp_storage_transaction_t`. -/
structure Transaction where
  inUse : Bool := false
  generation : ℕ := 0
  handleIndex : Fin hardMaxNamespaces := 0
  handleGeneration : ℕ := 0
  mode : Mode := .unlisted 0
  nsIndex : Fin hardMaxNamespaces := 0
  view : View := {}

/-- `ninlil_port_esp_storage_iterator_t`; `row_count` is the length of the index list. -/
structure Iterator where
  inUse : Bool := false
  generation : ℕ := 0
  transactionIndex : Fin hardMaxTxns := 0
  transactionGeneration : ℕ := 0
  position : ℕ := 0
  rowIndices : List ℕ := []
  snapshot : View := {}

/-- `ninlil_port_esp_storage_t`, once it is initialized. -/
structure Storage where
  config : Config
  fullPolicy : FullPolicy
  directoryCacheFenced : Bool := false
  directory : Directory := {}
  namespaces : Fin hardMaxNamespaces → NamespaceCache := fun _ => {}
  handles : Fin hardMaxNamespaces → Handle := fun _ => {}
  transactions : Fin hardMaxTxns → Transaction := fun _ => {}
  iterators : Fin hardMaxIters → Iterator := fun _ => {}

/-! ### Geometry and configuration -/

def mediaDirectoryOffset (slot : Fin 2) : ℕ := slot.val * dirBytes

def mediaDataOffset (i : Fin hardMaxNamespaces) (slot : Fin 2) : ℕ :=
  2 * dirBytes + (i.val * 2 + slot.val) * slotBytes

/-- `slot ^ 1`. -/
def sibling (slot : Fin 2) : Fin 2 := slot + 1

/-- `CHECKPOINT_SECTOR_ERASES`. -/
def checkpointSectorErases : ℕ := slotBytes / eraseAlign

/-- `ninlil_port_esp_storage_endurance_commit_budget`. -/
def enduranceCommitBudget (config : Config) : ℕ :=
  if config.wlUsableSectorCount = 0 ∨ config.assumedEraseEndurance = 0
      ∨ config.wearReservePercent ≥ 100 then 0
  else
    let usableSectors := config.wlUsableSectorCount * (100 - config.wearReservePercent) / 100
    let sectorEraseBudget := usableSectors * config.assumedEraseEndurance
    let setupSectorReserve := config.maxNamespaces * (2 * checkpointSectorErases + 2)
    if sectorEraseBudget ≤ setupSectorReserve then 0
    else (sectorEraseBudget - setupSectorReserve) / checkpointSectorErases

def ConfigValid (config : Config) : Prop :=
  0 < config.maxNamespaces ∧ config.maxNamespaces ≤ hardMaxNamespaces
    ∧ 0 < config.maxEntriesPerNamespace.toNat
    ∧ config.maxEntriesPerNamespace.toNat ≤ persistedMaxEntries
    ∧ 0 < config.maxBytesPerNamespace.toNat
    ∧ config.maxBytesPerNamespace.toNat ≤ persistedMaxLogicalBytes
    ∧ 16 + 1 + maxStorageValueBytes ≤ config.maxBytesPerNamespace.toNat
    ∧ 0 < config.maxLiveTxns ∧ config.maxLiveTxns ≤ hardMaxTxns
    ∧ 0 < config.maxLiveIters ∧ config.maxLiveIters ≤ hardMaxIters
    ∧ 2 + config.maxNamespaces * 2 * checkpointSectorErases ≤ config.wlUsableSectorCount
    ∧ 0 < config.assumedEraseEndurance
    ∧ 0 < config.wearReservePercent ∧ config.wearReservePercent < 100
    ∧ 0 < config.plannedFullCommitsPerDay ∧ 0 < config.plannedServiceDays
    ∧ 0 < enduranceCommitBudget config
    ∧ config.plannedFullCommitsPerDay * config.plannedServiceDays ≤ enduranceCommitBudget config

instance (config : Config) : Decidable (ConfigValid config) :=
  inferInstanceAs (Decidable (_ ∧ _))

/-! ### Tokens -/

/-- `token_index_bits`: the number of binary digits, at least one. -/
def tokenIndexBits (maxIndexExclusive : ℕ) : ℕ :=
  if maxIndexExclusive = 0 then 1 else Nat.log2 maxIndexExclusive + 1

def tokenGenerationMaxForBits (maxIndexExclusive uintptrBits : ℕ) : ℕ :=
  let indexBits := tokenIndexBits maxIndexExclusive
  if maxIndexExclusive = 0 ∨ uintptrBits ≤ indexBits then 0
  else if uintptrBits - indexBits ≥ 32 then 2 ^ 32 - 1
  else 2 ^ (uintptrBits - indexBits) - 1

def tokenNextGenerationForBits (current maxIndexExclusive uintptrBits : ℕ) : Option ℕ :=
  let maximum := tokenGenerationMaxForBits maxIndexExclusive uintptrBits
  if maximum = 0 ∨ current ≥ maximum then none else some (current + 1)

/-- `pack_token`, in `uintptr_t` arithmetic. -/
def packToken (uintptrBits index generation maxIndexExclusive : ℕ) : ℕ :=
  ((generation <<< tokenIndexBits maxIndexExclusive) ||| (index + 1)) % 2 ^ uintptrBits

/-- `unpack_token`; the zero token is the null pointer. -/
def unpackToken (uintptrBits token maxIndexExclusive : ℕ) : Option (Fin maxIndexExclusive × ℕ) :=
  if token = 0 then none
  else
    let bits := tokenIndexBits maxIndexExclusive
    let idx1 := (token &&& (2 ^ bits - 1)) % 2 ^ 32
    if h : 1 ≤ idx1 ∧ idx1 ≤ maxIndexExclusive then
      let generation := (token >>> bits) % 2 ^ 32
      if generation ≠ 0 ∧ generation ≤ tokenGenerationMaxForBits maxIndexExclusive uintptrBits then
        some (⟨idx1 - 1, by omega⟩, generation)
      else none
    else none

variable {μ : Type} (port : Port μ)

def resolveHandle (s : Storage) (token : ℕ) : Option (Fin hardMaxNamespaces) :=
  match unpackToken port.uintptrBits token hardMaxNamespaces with
  | none => none
  | some (index, generation) =>
    if (s.handles index).inUse = true ∧ (s.handles index).generation = generation then some index
    else none

def resolveTxn (s : Storage) (token : ℕ) : Option (Fin hardMaxTxns) :=
  match unpackToken port.uintptrBits token hardMaxTxns with
  | none => none
  | some (index, generation) =>
    if (s.transactions index).inUse = true ∧ (s.transactions index).generation = generation then
      some index
    else none

def resolveIter (s : Storage) (token : ℕ) : Option (Fin hardMaxIters) :=
  match unpackToken port.uintptrBits token hardMaxIters with
  | none => none
  | some (index, generation) =>
    if (s.iterators index).inUse = true ∧ (s.iterators index).generation = generation then
      some index
    else none

/-- The first free record of a pool whose generation is not exhausted, with its new
generation. -/
def freeRecord (n : ℕ) (inUse : Fin n → Bool) (generation : Fin n → ℕ) : Option (Fin n × ℕ) :=
  (List.finRange n).findSome? fun i =>
    if inUse i then none
    else (tokenNextGenerationForBits (generation i) n port.uintptrBits).map fun g => (i, g)

/-! ### Releasing -/

def consumeItersForTxn (s : Storage) (txnIndex : Fin hardMaxTxns) (txnGeneration : ℕ) : Storage :=
  { s with
    iterators := fun i =>
      let it := s.iterators i
      if it.inUse = true ∧ it.transactionIndex = txnIndex
          ∧ it.transactionGeneration = txnGeneration then { generation := it.generation }
      else it }

def consumeTxn (s : Storage) (txnIndex : Fin hardMaxTxns) : Storage :=
  let txn := s.transactions txnIndex
  let s := consumeItersForTxn s txnIndex txn.generation
  let handle := s.handles txn.handleIndex
  let s :=
    if txn.mode = .readWrite ∧ handle.inUse = true
        ∧ handle.generation = txn.handleGeneration then
      { s with
        handles := update s.handles txn.handleIndex { handle with hasWriter := false } }
    else s
  { s with
    transactions := update s.transactions txnIndex { generation := txn.generation } }

/-! ### The directory on media -/

/-- The choice of `load_directory` between its two decoded sectors. -/
def selectDirectory : Decoded Directory → Decoded Directory → Option Directory
  | .valid d0, .valid d1 =>
    if d0.generation = d1.generation then none
    else if d0.generation > d1.generation then some { d0 with activeDirSlot := 0 }
    else some { d1 with activeDirSlot := 1 }
  | .valid d0, _ => some { d0 with activeDirSlot := 0 }
  | _, .valid d1 => some { d1 with activeDirSlot := 1 }
  | .empty, .empty => some {}
  | _, _ => none

def loadDirectory (config : Config) (m : μ) : Option Directory × μ :=
  match port.media.read m (mediaDirectoryOffset 0) dirBytes with
  | (none, m) => (none, m)
  | (some image0, m) =>
    match port.media.read m (mediaDirectoryOffset 1) dirBytes with
    | (none, m) => (none, m)
    | (some image1, m) =>
      (selectDirectory (decodeDirectory image0 config) (decodeDirectory image1 config), m)

/-- The media phases of `commit_directory`, at the inactive sector. -/
def publishDirectory (m : μ) (base : ℕ) (image : List UInt8) : MediaStatus × μ :=
  match port.media.erase m base dirBytes with
  | (.unknown, m) => (.unknown, m)
  | (.definiteFail, m) => (.definiteFail, m)
  | (.ok, m) =>
    match port.media.write m base image with
    | (.ok, m) =>
      match port.media.sync m with
      | (.ok, m) =>
        match port.media.write m (base + dirSealOffset)
            (Bytes.encodeLE 4 dirSealCommitted.toNat) with
        | (.ok, m) =>
          match port.media.sync m with
          | (.ok, m) => (.ok, m)
          | (_, m) => (.unknown, m)
        | (.definiteFail, m) => (.definiteFail, m)
        | (.unknown, m) => (.unknown, m)
      | (_, m) => (.unknown, m)
    | (rc, m) => (rc, m)

def commitDirectory (s : Storage) (m : μ) : MediaStatus × Storage × μ :=
  let inactive := sibling s.directory.activeDirSlot
  if s.directory.generation.toNat = 2 ^ 64 - 1 then (.definiteFail, s, m)
  else
    let newGen := s.directory.generation + 1
    match encodeDirectory newGen s.config s.directory false with
    | none => (.definiteFail, s, m)
    | some image =>
      match publishDirectory port m (mediaDirectoryOffset inactive) image with
      | (.ok, m) =>
        (.ok, { s with directory := { s.directory with
          generation := newGen, activeDirSlot := inactive } }, m)
      | (rc, m) => (rc, s, m)

/-! ### Namespace content on media -/

/-- A slot below the seeded generation does not count. -/
def atLeastSeed (seed : UInt64) : Decoded (UInt64 × View) → Decoded (UInt64 × View)
  | .valid (generation, view) =>
    if generation < seed then .corrupt else .valid (generation, view)
  | r => r

/-- The choice of `load_namespace_content` between its two decoded slots. -/
def selectContent : Decoded (UInt64 × View) → Decoded (UInt64 × View) →
    Option (View × UInt64 × Fin 2)
  | .valid (gen0, view0), .valid (gen1, view1) =>
    if gen0 = gen1 then none
    else if gen0 > gen1 then some (view0, gen0, 0)
    else some (view1, gen1, 1)
  | .valid (gen0, view0), _ => some (view0, gen0, 0)
  | _, .valid (gen1, view1) => some (view1, gen1, 1)
  | _, _ => none

def loadNamespaceContent (s : Storage) (m : μ) (i : Fin hardMaxNamespaces) :
    Option (View × UInt64 × Fin 2) × μ :=
  let entry := s.directory.entries i
  let decode := fun image =>
    atLeastSeed entry.dataSeedGeneration (decodeSlot image entry.schema (some entry.name))
  match port.media.read m (mediaDataOffset i 0) slotBytes with
  | (none, m) => (none, m)
  | (some image0, m) =>
    match port.media.read m (mediaDataOffset i 1) slotBytes with
    | (none, m) => (none, m)
    | (some image1, m) => (selectContent (decode image0) (decode image1), m)

def refreshNsCacheFromDirectory (s : Storage) : Storage :=
  { s with
    namespaces := fun i =>
      if i.val < s.config.maxNamespaces then
        let entry := s.directory.entries i
        if entry.occupied then
          { cached := true
            leased := (s.namespaces i).leased
            name := entry.name
            schema := entry.schema }
        else { leased := (s.namespaces i).leased }
      else s.namespaces i }

def fenceDirectoryCache (s : Storage) : Storage :=
  { s with
    directory := {}
    namespaces := fun i => { leased := (s.namespaces i).leased }
    directoryCacheFenced := true }

def reloadDirectoryFromMedia (s : Storage) (m : μ) : Option Storage × μ :=
  match loadDirectory port s.config m with
  | (none, m) => (none, m)
  | (some directory, m) =>
    (some { refreshNsCacheFromDirectory { s with directory := directory } with
      directoryCacheFenced := false }, m)

def findDirectoryIndex (s : Storage) (name : List UInt8) : Option (Fin hardMaxNamespaces) :=
  (List.finRange hardMaxNamespaces).find? fun i =>
    i.val < s.config.maxNamespaces && (s.directory.entries i).occupied
      && (s.directory.entries i).name == name

def findFreeDirectoryIndex (s : Storage) : Option (Fin hardMaxNamespaces) :=
  (List.finRange hardMaxNamespaces).find? fun i =>
    i.val < s.config.maxNamespaces && !(s.directory.entries i).occupied

/-- `seed_empty_namespace_data`: an empty first slot, and an erased second one. -/
def seedEmptyNamespaceData (m : μ) (i : Fin hardMaxNamespaces) (schema : UInt32)
    (name : List UInt8) (seedGeneration : UInt64) : MediaStatus × μ :=
  match encodeSlot schema seedGeneration name {} with
  | none => (.definiteFail, m)
  | some image =>
    match port.media.erase m (mediaDataOffset i 0) slotBytes with
    | (.ok, m) =>
      match port.media.erase m (mediaDataOffset i 1) slotBytes with
      | (.ok, m) =>
        match port.media.write m (mediaDataOffset i 0) image with
        | (.ok, m) =>
          match port.media.sync m with
          | (.ok, m) => (.ok, m)
          | (_, m) => (.unknown, m)
        | (rc, m) => (rc, m)
      | (rc, m) => (rc, m)
    | (rc, m) => (rc, m)

/-! ### Initialization -/

def privateInit (config : Config) (fullPolicy : FullPolicy) (m : μ) : Option Storage × μ :=
  if ¬ConfigValid config then (none, m)
  else
    match loadDirectory port config m with
    | (none, m) => (none, m)
    | (some directory, m) =>
      (some (refreshNsCacheFromDirectory
        { config := config, fullPolicy := fullPolicy, directory := directory }), m)

/-! ### Operations -/

/-- What an operation leaves: its status, the token it hands out, and the new state. -/
structure Outcome (μ : Type) where
  status : Status
  token : Option ℕ := none
  storage : Storage
  media : μ

/-- The end of `port_open`: a handle on a namespace. -/
def openHandle (s : Storage) (m : μ) (i : Fin hardMaxNamespaces) : Outcome μ :=
  match freeRecord port hardMaxNamespaces (fun h => (s.handles h).inUse)
      (fun h => (s.handles h).generation) with
  | none => { status := .noSpace, storage := s, media := m }
  | some (h, generation) =>
    { status := .ok
      token := some (packToken port.uintptrBits h generation hardMaxNamespaces)
      storage :=
        { s with
          handles := update s.handles h
            { inUse := true, generation := generation, namespaceIndex := i, hasWriter := false }
          namespaces := update s.namespaces i
            { s.namespaces i with leased := true, cached := true } }
      media := m }

/-- The directory entry of a new namespace. -/
def newEntry (name : List UInt8) (schema : UInt32) : DirectoryEntry where
  occupied := true
  name := name
  schema := schema
  dataSeedGeneration := 1

def setEntry (s : Storage) (i : Fin hardMaxNamespaces) (entry : DirectoryEntry) : Storage :=
  { s with directory := { s.directory with entries := update s.directory.entries i entry } }

/-- The branch of `port_open` that creates the namespace at a free index. -/
def createNamespace (s : Storage) (m : μ) (i : Fin hardMaxNamespaces) (name : List UInt8)
    (schema : UInt32) : Outcome μ :=
  match seedEmptyNamespaceData port m i schema name 1 with
  | (.unknown, m) =>
    { status := .commitUnknown, storage := fenceDirectoryCache s, media := m }
  | (.definiteFail, m) => { status := .ioError, storage := fenceDirectoryCache s, media := m }
  | (.ok, m) =>
    let s := setEntry s i (newEntry name schema)
    if (s.namespaces i).leased then { status := .busy, storage := s, media := m }
    else
      match commitDirectory port s m with
      | (.unknown, s, m) =>
        { status := .commitUnknown, storage := fenceDirectoryCache s, media := m }
      | (.definiteFail, s, m) => { status := .ioError, storage := setEntry s i {}, media := m }
      | (.ok, s, m) => openHandle port (refreshNsCacheFromDirectory s) m i

/-- The reload at the head of `port_open`. -/
def ensureDirectory (s : Storage) (m : μ) : Option Storage × μ :=
  if s.directoryCacheFenced = true
      ∨ (s.directory.generation = 0 ∧ (s.directory.entries 0).occupied = false) then
    reloadDirectoryFromMedia port s m
  else (some s, m)

def portOpen (s : Storage) (m : μ) (name : List UInt8) (expectedSchema : UInt32) : Outcome μ :=
  if name.length < 1 ∨ name.length > 255 then { status := .corrupt, storage := s, media := m }
  else if expectedSchema ≠ schemaM1a then
    { status := .unsupportedSchema, storage := s, media := m }
  else
    match ensureDirectory port s m with
    | (none, m) => { status := .corrupt, storage := s, media := m }
    | (some s, m) =>
      match findDirectoryIndex s name with
      | some i =>
        if (s.directory.entries i).schema ≠ expectedSchema then
          { status := .unsupportedSchema, storage := s, media := m }
        else if (s.namespaces i).leased then { status := .busy, storage := s, media := m }
        else openHandle port s m i
      | none =>
        match findFreeDirectoryIndex s with
        | none => { status := .noSpace, storage := s, media := m }
        | some i => createNamespace port s m i name expectedSchema

/-- The transactions that `port_close` consumes, one after the other. -/
def closeTransactions (s : Storage) (h : Fin hardMaxNamespaces) (generation : ℕ) : Storage :=
  (List.finRange hardMaxTxns).foldl
    (fun s t =>
      if (s.transactions t).inUse = true ∧ (s.transactions t).handleIndex = h
          ∧ (s.transactions t).handleGeneration = generation then consumeTxn s t
      else s) s

def portClose (s : Storage) (token : ℕ) : Storage :=
  match resolveHandle port s token with
  | none => s
  | some h =>
    let handle := s.handles h
    let s := closeTransactions s h handle.generation
    { s with
      namespaces := update s.namespaces handle.namespaceIndex
        { s.namespaces handle.namespaceIndex with leased := false }
      handles := update s.handles h { generation := handle.generation } }

def liveTxns (s : Storage) : ℕ :=
  ((List.finRange hardMaxTxns).filter fun t => (s.transactions t).inUse).length

def liveIters (s : Storage) : ℕ :=
  ((List.finRange hardMaxIters).filter fun i => (s.iterators i).inUse).length

/-- The transaction record of `port_begin`, filled from the loaded content. -/
def startTransaction (s : Storage) (h : Fin hardMaxNamespaces) (mode : Mode)
    (t : Fin hardMaxTxns) (generation : ℕ) (view : View) (gen : UInt64) (slot : Fin 2) : Storage :=
  let handle := s.handles h
  let i := handle.namespaceIndex
  { s with
    namespaces := update s.namespaces i
      { s.namespaces i with
        activeGeneration := gen
        activeSlot := slot
        usedEntries := view.entries.length
        usedBytes := view.usedLogicalBytes }
    transactions := update s.transactions t
      { inUse := true
        generation := generation
        handleIndex := h
        handleGeneration := handle.generation
        mode := mode
        nsIndex := i
        view := view }
    handles :=
      if mode = .readWrite then update s.handles h { handle with hasWriter := true }
      else s.handles }

def portBegin (s : Storage) (m : μ) (token : ℕ) (mode : Mode) : Outcome μ :=
  match resolveHandle port s token with
  | none => { status := .corrupt, storage := s, media := m }
  | some h =>
    if mode ≠ .readOnly ∧ mode ≠ .readWrite then { status := .corrupt, storage := s, media := m }
    else if mode = .readWrite ∧ (s.handles h).hasWriter = true then
      { status := .busy, storage := s, media := m }
    else if liveTxns s ≥ s.config.maxLiveTxns then
      { status := .noSpace, storage := s, media := m }
    else
      match freeRecord port hardMaxTxns (fun t => (s.transactions t).inUse)
          (fun t => (s.transactions t).generation) with
      | none => { status := .noSpace, storage := s, media := m }
      | some (t, generation) =>
        match loadNamespaceContent port s m (s.handles h).namespaceIndex with
        | (none, m) => { status := .corrupt, storage := s, media := m }
        | (some (view, gen, slot), m) =>
          { status := .ok
            token := some (packToken port.uintptrBits t generation hardMaxTxns)
            storage := startTransaction s h mode t generation view gen slot
            media := m }

/-- `port_get`, with the capacity of the caller's buffer; the length it reports and the value it
copies. -/
def portGet (s : Storage) (token : ℕ) (key : List UInt8) (capacity : ℕ) :
    Status × ℕ × List UInt8 :=
  match resolveTxn port s token with
  | none => (.corrupt, 0, [])
  | some t =>
    if key.length < 1 ∨ key.length > 255 then (.corrupt, 0, [])
    else
      let view := (s.transactions t).view
      match findEntry view key with
      | none => (.notFound, 0, [])
      | some entry =>
        if entry.valueLength > capacity then (.bufferTooSmall, entry.valueLength, [])
        else (.ok, entry.valueLength, view.value entry)

def setView (s : Storage) (t : Fin hardMaxTxns) (view : View) : Storage :=
  { s with
    transactions := update s.transactions t { s.transactions t with view := view } }

def portPut (s : Storage) (token : ℕ) (key value : List UInt8) : Status × Storage :=
  match resolveTxn port s token with
  | none => (.corrupt, s)
  | some t =>
    if (s.transactions t).mode ≠ .readWrite ∨ key.length < 1 ∨ key.length > 255 then (.corrupt, s)
    else if value.length > maxStorageValueBytes then (.noSpace, s)
    else
      match rebuildViewWithPut (s.transactions t).view key value with
      | none => (.noSpace, s)
      | some view => (.ok, setView s t view)

def portErase (s : Storage) (token : ℕ) (key : List UInt8) : Status × Storage :=
  match resolveTxn port s token with
  | none => (.corrupt, s)
  | some t =>
    if (s.transactions t).mode ≠ .readWrite ∨ key.length < 1 ∨ key.length > 255 then (.corrupt, s)
    else
      match rebuildViewWithoutKey (s.transactions t).view key with
      | none => (.corrupt, s)
      | some view => (.ok, setView s t view)

def prefixMatches (keyPrefix : List UInt8) (entry : Entry) : Bool := keyPrefix.isPrefixOf entry.key

/-- The rows of a view whose keys have a prefix, as indices. -/
def matchingRows (view : View) (keyPrefix : List UInt8) : List ℕ :=
  (List.range view.entries.length).filter fun k =>
    (view.entries[k]?).any (prefixMatches keyPrefix)

def portIterOpen (s : Storage) (token : ℕ) (keyPrefix : List UInt8) :
    Status × Option ℕ × Storage :=
  match resolveTxn port s token with
  | none => (.corrupt, none, s)
  | some t =>
    if keyPrefix.length > 255 then (.corrupt, none, s)
    else if liveIters s ≥ s.config.maxLiveIters then (.noSpace, none, s)
    else
      match freeRecord port hardMaxIters (fun i => (s.iterators i).inUse)
          (fun i => (s.iterators i).generation) with
      | none => (.noSpace, none, s)
      | some (i, generation) =>
        let view := (s.transactions t).view
        (.ok, some (packToken port.uintptrBits i generation hardMaxIters),
          { s with
            iterators := update s.iterators i
              { inUse := true
                generation := generation
                transactionIndex := t
                transactionGeneration := (s.transactions t).generation
                position := 0
                rowIndices := matchingRows view keyPrefix
                snapshot := view } })

/-- `port_iter_next`, with the capacities of the caller's buffers; the lengths it reports and the
row it copies. -/
def portIterNext (s : Storage) (token : ℕ) (keyCapacity valueCapacity : ℕ) :
    Status × (ℕ × ℕ) × Option (List UInt8 × List UInt8) × Storage :=
  match resolveIter port s token with
  | none => (.corrupt, (0, 0), none, s)
  | some i =>
    let it := s.iterators i
    let txn := s.transactions it.transactionIndex
    if txn.inUse = false ∨ txn.generation ≠ it.transactionGeneration then
      (.corrupt, (0, 0), none, s)
    else
      match (it.rowIndices[it.position]?).bind fun k => it.snapshot.entries[k]? with
      | none => (.notFound, (0, 0), none, s)
      | some entry =>
        if entry.key.length > keyCapacity ∨ entry.valueLength > valueCapacity then
          (.bufferTooSmall, (entry.key.length, entry.valueLength), none, s)
        else
          (.ok, (entry.key.length, entry.valueLength),
            some (entry.key, it.snapshot.value entry),
            { s with
              iterators := update s.iterators i { it with position := it.position + 1 } })

def portIterClose (s : Storage) (token : ℕ) : Storage :=
  match resolveIter port s token with
  | none => s
  | some i =>
    { s with
      iterators := update s.iterators i { generation := (s.iterators i).generation } }

/-- `ninlil_storage_capacity_t`, its header apart. -/
structure Capacity where
  maxEntries : ℕ := 0
  usedEntries : ℕ := 0
  maxBytes : ℕ := 0
  usedBytes : ℕ := 0

def portCapacity (s : Storage) (m : μ) (token : ℕ) : Status × Capacity × μ :=
  match resolveHandle port s token with
  | none => (.corrupt, {}, m)
  | some h =>
    match loadNamespaceContent port s m (s.handles h).namespaceIndex with
    | (none, m) => (.corrupt, {}, m)
    | (some (view, _, _), m) =>
      (.ok,
        { maxEntries := s.config.maxEntriesPerNamespace.toNat
          usedEntries := view.entries.length
          maxBytes := s.config.maxBytesPerNamespace.toNat
          usedBytes := view.usedLogicalBytes }, m)

def viewRecompute (view : View) : View :=
  { view with usedLogicalBytes := logicalBytes view.entries }

def capacityOk (config : Config) (view : View) : Prop :=
  view.entries.length ≤ config.maxEntriesPerNamespace.toNat
    ∧ view.usedLogicalBytes ≤ config.maxBytesPerNamespace.toNat

instance (config : Config) (view : View) : Decidable (capacityOk config view) :=
  inferInstanceAs (Decidable (_ ∧ _))

/-- The media phases of `port_commit`: the status it returns when one of them fails. -/
def writeSlot (m : μ) (base : ℕ) (image : List UInt8) : Option Status × μ :=
  match port.media.erase m base slotBytes with
  | (.ok, m) =>
    match port.media.write m base image with
    | (.definiteFail, m) => (some .ioError, m)
    | (.unknown, m) => (some .commitUnknown, m)
    | (.ok, m) =>
      match port.media.sync m with
      | (.ok, m) => (none, m)
      | (_, m) => (some .commitUnknown, m)
  | (_, m) => (some .ioError, m)

def portCommit (s : Storage) (m : μ) (token : ℕ) (durability : Durability) : Outcome μ :=
  match resolveTxn port s token with
  | none => { status := .corrupt, storage := s, media := m }
  | some t =>
    let txn := s.transactions t
    if durability ≠ .full then { status := .corrupt, storage := consumeTxn s t, media := m }
    else if txn.mode = .readOnly then { status := .ok, storage := consumeTxn s t, media := m }
    else
      let view := viewRecompute txn.view
      if ¬capacityOk s.config view then
        { status := .noSpace, storage := consumeTxn s t, media := m }
      else
        let ns := s.namespaces txn.nsIndex
        let entry := s.directory.entries txn.nsIndex
        let inactive := sibling ns.activeSlot
        if ns.activeGeneration.toNat = 2 ^ 64 - 1 then
          { status := .noSpace, storage := consumeTxn s t, media := m }
        else
          let newGeneration := ns.activeGeneration + 1
          match encodeSlot entry.schema newGeneration entry.name view with
          | none => { status := .noSpace, storage := consumeTxn s t, media := m }
          | some image =>
            match writeSlot port m (mediaDataOffset txn.nsIndex inactive) image with
            | (some status, m) => { status := status, storage := consumeTxn s t, media := m }
            | (none, m) =>
              { status := if s.fullPolicy = .hostModel then .ok else .commitUnknown
                storage := consumeTxn
                  { s with
                    namespaces := update s.namespaces txn.nsIndex
                      { ns with
                        activeGeneration := newGeneration
                        activeSlot := inactive
                        usedEntries := view.entries.length
                        usedBytes := view.usedLogicalBytes } } t
                media := m }

def portRollback (s : Storage) (token : ℕ) : Status × Storage :=
  match resolveTxn port s token with
  | none => (.corrupt, s)
  | some t => (.ok, consumeTxn s t)

/-! ### Runs -/

/-- A call of the storage interface. -/
inductive Op
  | open (name : List UInt8) (schema : UInt32)
  | close (handle : ℕ)
  | begin (handle : ℕ) (mode : Mode)
  | get (txn : ℕ) (key : List UInt8) (capacity : ℕ)
  | put (txn : ℕ) (key value : List UInt8)
  | erase (txn : ℕ) (key : List UInt8)
  | iterOpen (txn : ℕ) (keyPrefix : List UInt8)
  | iterNext (iter keyCapacity valueCapacity : ℕ)
  | iterClose (iter : ℕ)
  | capacity (handle : ℕ)
  | commit (txn : ℕ) (durability : Durability)
  | rollback (txn : ℕ)

/-- One call, with the status and the token it returns; a call without a status returns `ok`. -/
def step (s : Storage) (m : μ) : Op → Outcome μ
  | .open name schema => portOpen port s m name schema
  | .close handle => { status := .ok, storage := portClose port s handle, media := m }
  | .begin handle mode => portBegin port s m handle mode
  | .get txn key capacity =>
    { status := (portGet port s txn key capacity).1, storage := s, media := m }
  | .put txn key value =>
    let r := portPut port s txn key value
    { status := r.1, storage := r.2, media := m }
  | .erase txn key =>
    let r := portErase port s txn key
    { status := r.1, storage := r.2, media := m }
  | .iterOpen txn keyPrefix =>
    let r := portIterOpen port s txn keyPrefix
    { status := r.1, token := r.2.1, storage := r.2.2, media := m }
  | .iterNext iter keyCapacity valueCapacity =>
    let r := portIterNext port s iter keyCapacity valueCapacity
    { status := r.1, storage := r.2.2.2, media := m }
  | .iterClose iter => { status := .ok, storage := portIterClose port s iter, media := m }
  | .capacity handle =>
    let r := portCapacity port s m handle
    { status := r.1, storage := s, media := r.2.2 }
  | .commit txn durability => portCommit port s m txn durability
  | .rollback txn =>
    let r := portRollback port s txn
    { status := r.1, storage := r.2, media := m }

end Ninlil.EspStorage
