import Ninlil.Lib.Blocks
import Ninlil.Lib.Memory
import Ninlil.Lib.Cursor

/-!
# The TLS arena

`wifi_tls_arena.c`: an allocator inside a fixed region, whose block headers and tail canaries stand
in the region itself.

* `Platform`: the sizes that the compiler fixes;
* `TlsArena`: the arena object and its region, offsets counted from `base`;
* `arenaInit`, `arenaCalloc`, `arenaFree`, `arenaSetFailAfter`;
* `ArenaCall`, `World`: the calls of the owner, who writes within what it was given.
-/

namespace Ninlil.Wifi

open Bytes Memory Arena

/-! ### The platform -/

/-- `sizeof(size_t)`, the alignment of `max_align_t` and `sizeof(wifi_tls_block_t)`. -/
structure Platform where
  wordBytes : ℕ
  alignment : ℕ
  headerBytes : ℕ
  word : 4 ≤ wordBytes
  power : ∃ k, alignment = 2 ^ k
  aligned : headerBytes % alignment = 0
  fields : 2 * wordBytes + 8 ≤ headerBytes

/-- `SIZE_MAX`. -/
def Platform.sizeMax (p : Platform) : ℕ := 256 ^ p.wordBytes - 1

/-- `sizeof(wifi_tls_block_fields_t)`. -/
def Platform.fieldBytes (p : Platform) : ℕ := 2 * p.wordBytes + 8

/-- `WIFI_TLS_TAIL_BYTES`. -/
def tailBytes : ℕ := 4
/-- `WIFI_TLS_ARENA_MAGIC`. -/
def arenaMagic : ℕ := 0x4e544152
/-- `WIFI_TLS_BLOCK_MAGIC`. -/
def blockMagic : ℕ := 0x4e54424c
/-- `WIFI_TLS_BLOCK_FREE`. -/
def blockFree : ℕ := 0xf4eef4ee
/-- `WIFI_TLS_BLOCK_USED`. -/
def blockUsed : ℕ := 0xa110ca7e
/-- `WIFI_TLS_TAIL_CANARY`. -/
def tailCanary : ℕ := 0x71e2c53d

/-- `add_overflow_size`. -/
def addSize (p : Platform) (a b : ℕ) : Option ℕ := if p.sizeMax - b < a then none else some (a + b)

/-- `mul_overflow_size`. -/
def mulSize (p : Platform) (a b : ℕ) : Option ℕ :=
  if a ≠ 0 ∧ p.sizeMax / a < b then none else some (a * b)

/-- `align_up_size`. -/
def alignUpSize (p : Platform) (value : ℕ) : Option ℕ :=
  (addSize p value (p.alignment - 1)).map fun sum => sum - (sum &&& (p.alignment - 1))

/-! ### The region -/

/-- `wifi_tls_block_fields_t`. -/
structure BlockFields where
  spanBytes : ℕ
  requestedBytes : ℕ
  magic : ℕ
  state : ℕ
  deriving DecidableEq

/-- The fields of the block header at an offset. -/
def readBlock (p : Platform) (m : Mem) (offset : ℕ) : BlockFields where
  spanBytes := decodeLE (m.read offset p.wordBytes)
  requestedBytes := decodeLE (m.read (offset + p.wordBytes) p.wordBytes)
  magic := decodeLE (m.read (offset + 2 * p.wordBytes) 4)
  state := decodeLE (m.read (offset + (2 * p.wordBytes + 4)) 4)

/-- The bytes of the fields of a block header. -/
def blockBytes (p : Platform) (f : BlockFields) : List UInt8 :=
  encodeLE p.wordBytes f.spanBytes ++ (encodeLE p.wordBytes f.requestedBytes ++
    (encodeLE 4 f.magic ++ encodeLE 4 f.state))

/-- The fields of the block header at an offset are written. -/
def writeBlock (p : Platform) (m : Mem) (offset : ℕ) (f : BlockFields) : Mem :=
  m.write offset (blockBytes p f)

/-- `write_tail`, the payload standing at an offset. -/
def writeTail (m : Mem) (payload requested value : ℕ) : Mem :=
  m.write (payload + requested) (encodeLE 4 value)

/-- `read_tail`. -/
def readTail (m : Mem) (payload requested : ℕ) : ℕ := decodeLE (m.read (payload + requested) 4)

/-! ### The arena -/

/-- `ninlil_wifi_tls_arena_t`, with the memory its `base` points to. -/
structure TlsArena where
  base : ℕ
  capacityBytes : ℕ
  currentBytes : ℕ := 0
  peakBytes : ℕ := 0
  allocationAttempts : ℕ := 0
  failAfterAttempt : ℕ
  outstandingAllocations : UInt32 := 0
  oomCount : UInt32 := 0
  corruptionCount : UInt32 := 0
  magic : ℕ := arenaMagic
  region : Mem

/-- `ninlil_wifi_tls_arena_status_t`, the values that a free returns. -/
inductive ArenaStatus
  | ok
  | corrupt
  | foreignPointer
  | doubleFree
  deriving DecidableEq

/-- `arena_header_valid`. -/
def arenaHeaderValid (p : Platform) (a : TlsArena) : Bool :=
  a.magic == arenaMagic && a.base != 0 && decide (p.headerBytes ≤ a.capacityBytes)
    && a.base % p.alignment == 0 && a.capacityBytes % p.alignment == 0

/-- `block_valid`, of the block at an offset. -/
def blockValid (p : Platform) (a : TlsArena) (offset : ℕ) : Bool :=
  let block := readBlock p a.region offset
  if arenaHeaderValid p a = false ∨ block.magic ≠ blockMagic
      ∨ (block.state ≠ blockFree ∧ block.state ≠ blockUsed)
      ∨ block.spanBytes < p.headerBytes ∨ block.spanBytes % p.alignment ≠ 0
      ∨ a.capacityBytes < offset ∨ a.capacityBytes - offset < block.spanBytes then false
  else if block.state = blockUsed then
    match (addSize p p.headerBytes block.requestedBytes).bind (addSize p · tailBytes) with
    | none => false
    | some minimum => decide (minimum ≤ block.spanBytes)
  else block.requestedBytes == 0

/-- `mark_corrupt`. -/
def markCorrupt (a : TlsArena) : TlsArena :=
  { a with corruptionCount := a.corruptionCount + 1, magic := 0 }

/-- `ninlil_wifi_tls_arena_init` on a region of so many bytes; a null `region` is `0`. -/
def arenaInit (p : Platform) (memory : Mem) (region regionBytes : ℕ) : Option TlsArena :=
  let usable := regionBytes - (regionBytes &&& (p.alignment - 1))
  if region = 0 ∨ region % p.alignment ≠ 0 then none
  else if usable < p.headerBytes + tailBytes + p.alignment ∨ 0xFFFFFFFF < usable then none
  else
    some
      { base := region
        capacityBytes := usable
        failAfterAttempt := p.sizeMax
        region := writeBlock p (memory.zero 0 usable) 0
          { spanBytes := usable, requestedBytes := 0, magic := blockMagic, state := blockFree } }

/-- `ninlil_wifi_tls_arena_set_fail_after`. -/
def arenaSetFailAfter (p : Platform) (a : TlsArena) (successfulAttempts : ℕ) : TlsArena :=
  if arenaHeaderValid p a then
    { a with allocationAttempts := 0, failAfterAttempt := successfulAttempts }
  else a

/-! ### Allocation -/

/-- The bytes a block needs for a payload, with its header and its tail. -/
def neededBytes (p : Platform) (requested : ℕ) : Option ℕ :=
  ((addSize p p.headerBytes requested).bind (addSize p · tailBytes)).bind (alignUpSize p)

/-- The bytes from which on the rest of a block becomes a block. -/
def Platform.leastRest (p : Platform) : ℕ := p.headerBytes + tailBytes + p.alignment

/-- The free block at an offset is used for a payload. -/
def usableBlock (p : Platform) (m : Mem) (offset requested needed : ℕ) : Mem × ℕ :=
  let block := readBlock p m offset
  let remainder := if block.spanBytes - needed < p.leastRest then 0 else block.spanBytes - needed
  let allocatedSpan := if remainder = 0 then block.spanBytes else needed
  let m := writeBlock p m offset
    { spanBytes := allocatedSpan, requestedBytes := requested, magic := blockMagic
      state := blockUsed }
  let m :=
    if remainder ≠ 0 then
      writeBlock p m (offset + allocatedSpan)
        { spanBytes := remainder, requestedBytes := 0, magic := blockMagic, state := blockFree }
    else m
  (writeTail (m.zero (offset + p.headerBytes) requested) (offset + p.headerBytes) requested
    tailCanary, allocatedSpan)

/-- The end of `ninlil_wifi_tls_arena_calloc`: the payload and the arena once the block at an offset
was chosen. -/
def allocateBlock (p : Platform) (a : TlsArena) (offset requested needed : ℕ) : ℕ × TlsArena :=
  let placed := usableBlock p a.region offset requested needed
  let current := a.currentBytes + placed.2
  (a.base + offset + p.headerBytes,
    { a with
      region := placed.1
      currentBytes := current
      outstandingAllocations := a.outstandingAllocations + 1
      peakBytes := if a.peakBytes < current then current else a.peakBytes })

/-- The loop of `ninlil_wifi_tls_arena_calloc`. A block has at least one byte, so that `left` never
runs out before the region does. -/
def callocLoop (p : Platform) (a : TlsArena) (requested needed : ℕ) : ℕ → ℕ → ℕ × TlsArena
  | 0, _ => (0, { a with oomCount := a.oomCount + 1 })
  | left + 1, offset =>
    if offset < a.capacityBytes then
      let block := readBlock p a.region offset
      if blockValid p a offset = false then (0, markCorrupt a)
      else if block.state ≠ blockFree ∨ block.spanBytes < needed then
        callocLoop p a requested needed left (offset + block.spanBytes)
      else allocateBlock p a offset requested needed
    else (0, { a with oomCount := a.oomCount + 1 })

/-- `ninlil_wifi_tls_arena_calloc`; `NULL` is `0`. -/
def arenaCalloc (p : Platform) (a : TlsArena) (count elementBytes : ℕ) : ℕ × TlsArena :=
  let requested := (mulSize p count elementBytes).getD 0
  if arenaHeaderValid p a = false ∨ requested = 0 ∨ neededBytes p requested = none then
    (0, if a.magic = arenaMagic then { a with oomCount := a.oomCount + 1 } else a)
  else
    let attempts := (a.allocationAttempts + 1) % (p.sizeMax + 1)
    if a.failAfterAttempt ≤ a.allocationAttempts then
      (0, { a with allocationAttempts := attempts, oomCount := a.oomCount + 1 })
    else
      callocLoop p { a with allocationAttempts := attempts } requested
        ((neededBytes p requested).getD 0) a.capacityBytes 0

/-! ### Release -/

/-- The inner loop of `coalesce_free_blocks`: the block at an offset takes the free ones behind it.
`false` when a header is not valid. -/
def absorbFree (p : Platform) (a : TlsArena) (offset : ℕ) : ℕ → Bool × TlsArena
  | 0 => (true, a)
  | left + 1 =>
    let block := readBlock p a.region offset
    let next := offset + block.spanBytes
    if block.state = blockFree ∧ next < a.capacityBytes then
      if blockValid p a next = false then (false, a)
      else if (readBlock p a.region next).state ≠ blockFree then (true, a)
      else
        let widened := { block with
          spanBytes := block.spanBytes + (readBlock p a.region next).spanBytes }
        absorbFree p
          { a with region := (writeBlock p a.region offset widened).zero next p.headerBytes }
          offset left
    else (true, a)

/-- `coalesce_free_blocks`. -/
def coalesceFreeBlocks (p : Platform) (a : TlsArena) : ℕ → ℕ → Bool × TlsArena
  | 0, offset => (offset == a.capacityBytes, a)
  | left + 1, offset =>
    if offset < a.capacityBytes then
      if blockValid p a offset = false then (false, a)
      else
        match absorbFree p a offset a.capacityBytes with
        | (false, a) => (false, a)
        | (true, a) =>
          coalesceFreeBlocks p a left (offset + (readBlock p a.region offset).spanBytes)
    else (offset == a.capacityBytes, a)

/-- The used block at an offset is freed, its payload and its tail zeroed. -/
def releasedBlock (p : Platform) (m : Mem) (offset : ℕ) : Mem :=
  let block := readBlock p m offset
  let payload := offset + p.headerBytes
  let m := writeTail (m.zero payload block.requestedBytes) payload block.requestedBytes 0
  writeBlock p m offset { block with requestedBytes := 0, state := blockFree }

/-- The end of `ninlil_wifi_tls_arena_free`, at the block whose payload the pointer is. -/
def freeBlock (p : Platform) (a : TlsArena) (offset : ℕ) : ArenaStatus × TlsArena :=
  let block := readBlock p a.region offset
  if block.state = blockFree then
    (.doubleFree, { a with corruptionCount := a.corruptionCount + 1 })
  else if readTail a.region (offset + p.headerBytes) block.requestedBytes ≠ tailCanary then
    (.corrupt, markCorrupt a)
  else if a.outstandingAllocations = 0 ∨ a.currentBytes < block.spanBytes then
    (.corrupt, markCorrupt a)
  else
    match coalesceFreeBlocks p
      { a with
        region := releasedBlock p a.region offset
        currentBytes := a.currentBytes - block.spanBytes
        outstandingAllocations := a.outstandingAllocations - 1 } a.capacityBytes 0 with
    | (true, a) => (.ok, a)
    | (false, a) => (.corrupt, markCorrupt a)

/-- The loop of `ninlil_wifi_tls_arena_free`. -/
def freeLoop (p : Platform) (a : TlsArena) (pointer : ℕ) : ℕ → ℕ → ArenaStatus × TlsArena
  | 0, _ => (.foreignPointer, { a with corruptionCount := a.corruptionCount + 1 })
  | left + 1, offset =>
    if offset < a.capacityBytes then
      if blockValid p a offset = false then (.corrupt, markCorrupt a)
      else if a.base + offset + p.headerBytes ≠ pointer then
        freeLoop p a pointer left (offset + (readBlock p a.region offset).spanBytes)
      else freeBlock p a offset
    else (.foreignPointer, { a with corruptionCount := a.corruptionCount + 1 })

/-- `ninlil_wifi_tls_arena_free`. -/
def arenaFree (p : Platform) (a : TlsArena) (pointer : ℕ) : ArenaStatus × TlsArena :=
  if pointer = 0 then (.ok, a)
  else if arenaHeaderValid p a = false then (.corrupt, a)
  else freeLoop p a pointer a.capacityBytes 0

/-! ### Runs -/

/-- A call of the owner, or a byte that it writes at an index of a payload. -/
inductive ArenaCall
  | calloc (count elementBytes : ℕ)
  | free (pointer : ℕ)
  | setFailAfter (successfulAttempts : ℕ)
  | write (pointer index : ℕ) (byte : UInt8)

/-- The arena, and the payloads that its owner holds: each with its length, newest first. -/
structure World where
  arena : TlsArena
  live : List (ℕ × ℕ) := []

/-- The world after a call; the owner writes nowhere but in the payloads it holds. -/
def World.call (p : Platform) (w : World) : ArenaCall → World
  | .calloc count elementBytes =>
    let r := arenaCalloc p w.arena count elementBytes
    { arena := r.2, live := if r.1 = 0 then w.live else (r.1, count * elementBytes) :: w.live }
  | .free pointer =>
    { arena := (arenaFree p w.arena pointer).2
      live := w.live.filter fun x => x.1 != pointer }
  | .setFailAfter successfulAttempts =>
    { w with arena := arenaSetFailAfter p w.arena successfulAttempts }
  | .write pointer index byte =>
    if w.live.any fun x => x.1 == pointer && decide (index < x.2) then
      { w with arena := { w.arena with
        region := w.arena.region.write (pointer + index - w.arena.base) [byte] } }
    else w

/-- A run over an arena that was initialized. -/
def World.run (p : Platform) (arena : TlsArena) (calls : List ArenaCall) : World :=
  calls.foldl (World.call p) { arena }

end Ninlil.Wifi
