import Ninlil.R7Frag.Wire

/-!
# The state of the fragment engine

`ninlil_r7_frag_engine`: the lanes with their counters, the slots of the transfers being
reassembled, the tombstones of those that ended, the link groups, and the one publication that may
be waiting.

* `Lane`, `ReasmSlot`, `Tombstone`, `LinkGroup`: one record of each table;
* `Engine`: the tables and the accounts over them;
* `Engine.init`: `memset` to zero.

The payload of a slot keeps its full length; the digest of a transfer and its fingerprint are whole
values, as `memcmp` compares them.  Fields that no function here reads are left out.
-/

namespace Ninlil.R7Frag

/-- `NINLIL_R7_FRAG_LANE_SLOTS`. -/
def laneSlots : ℕ := 8
/-- `NINLIL_R7_FRAG_TOMBSTONE_SLOTS`. -/
def tombstoneSlots : ℕ := 32
/-- `NINLIL_R7_FRAG_LINK_GROUP_SLOTS`. -/
def linkGroupSlots : ℕ := 64

/-- `ninlil_r7_frag_lane`. -/
structure Lane where
  inUse : Bool
  laneKind : UInt8
  contextId : UInt32
  keyGeneration : UInt64
  txReservedExclusive : UInt64
  txRamNext : UInt64
  txRamLimit : UInt64
  txFenced : Bool
  rxAcceptReservedThrough : UInt64
  rxBootFloor : UInt64
  rxRamHighest : UInt64
  rxBitmap : UInt64
  rxFenced : Bool
  deriving DecidableEq

/-- A zeroed lane. -/
def Lane.zero : Lane := ⟨false, 0, 0, 0, 0, 0, 0, false, 0, 0, 0, 0, false⟩

/-- `ninlil_r7_frag_tombstone`. -/
structure Tombstone where
  inUse : Bool
  e2eContextId : UInt32
  transferId : TransferId
  transferHandle : UInt64
  fragCount : ℕ
  status : UInt8
  reason : UInt8
  fingerprint : Digest
  expiryMono : UInt64
  deriving DecidableEq

/-- A zeroed tombstone. -/
def Tombstone.zero : Tombstone :=
  ⟨false, 0, Vector.replicate 16 0, 0, 0, 0, 0, Vector.replicate 32 0, 0⟩

/-- `ninlil_r7_frag_reasm_slot`. -/
structure ReasmSlot where
  inUse : Bool
  e2eContextId : UInt32
  transferId : TransferId
  transferHandle : UInt64
  totalLen : ℕ
  fragCount : ℕ
  firstChunkLen : ℕ
  contentDigest : Digest
  fingerprint : Digest
  bitmap : BitVec 16
  receiverStartMono : UInt64
  receiverAbsoluteDeadline : UInt64
  idleDeadline : UInt64
  partialAckDue : UInt64
  payload : List UInt8
  chunkSeen : ℕ → Bool
  chunkLen : ℕ → ℕ

/-- A zeroed slot. -/
def ReasmSlot.zero : ReasmSlot :=
  ⟨false, 0, Vector.replicate 16 0, 0, 0, 0, 0, Vector.replicate 32 0, Vector.replicate 32 0, 0, 0, 0,
    0, 0, List.replicate totalLenMax 0, fun _ => false, fun _ => 0⟩

/-- `ninlil_r7_frag_link_group`, as far as a snapshot reads it. -/
structure LinkGroup where
  inUse : Bool
  ackRequested : UInt8
  hopAttempts : UInt8
  completed : UInt8
  hopDataContextId : UInt32
  e2eCounterFixed : UInt64
  /-- The first `e2e_blob_len` bytes of `e2e_blob`. -/
  e2eBlob : List UInt8
  groupAbsoluteDeadline : UInt64
  enclosingOwnerDeadline : UInt64
  eligibleAt : UInt64
  pendingCount : UInt8

/-- A zeroed link group. -/
def LinkGroup.zero : LinkGroup := ⟨false, 0, 0, 0, 0, 0, [], 0, 0, 0, 0⟩

/-- `ninlil_r7_frag_engine`. -/
structure Engine (P : Profile) where
  lanes : Fin laneSlots → Lane
  reasm : Fin P.reasmSlots → ReasmSlot
  tombs : Fin tombstoneSlots → Tombstone
  links : Fin linkGroupSlots → LinkGroup
  payloadBytesInUse : ℕ
  globalFence : UInt8
  nowMono : UInt64
  pubValid : Bool
  pubE2eContextId : UInt32
  pubTransferHandle : UInt64
  pubTotalLen : ℕ
  pubPayload : List UInt8
  publishCount : UInt32

/-- `ninlil_r7_frag_engine_init`. -/
def Engine.init (P : Profile) : Engine P :=
  ⟨fun _ => .zero, fun _ => .zero, fun _ => .zero, fun _ => .zero, 0, 0, 0, false, 0, 0, 0,
    List.replicate totalLenMax 0, 0⟩

/-- `ninlil_r7_frag_engine_set_now`. -/
def Engine.setNow {P : Profile} (eng : Engine P) (nowMono : UInt64) : Engine P :=
  { eng with nowMono }

/-- The engine with one lane overwritten. -/
def Engine.setLane {P : Profile} (eng : Engine P) (slot : Fin laneSlots) (L : Lane) : Engine P :=
  { eng with lanes := Function.update eng.lanes slot L }

@[simp] theorem Engine.setLane_lanes {P : Profile} (eng : Engine P) (slot : Fin laneSlots)
    (L : Lane) : (eng.setLane slot L).lanes = Function.update eng.lanes slot L := rfl

/-- `ninlil_r7_frag_lane_fence`. -/
def laneFence {P : Profile} (eng : Engine P) (slot : Fin laneSlots) : Engine P :=
  eng.setLane slot { eng.lanes slot with txFenced := true, rxFenced := true }

end Ninlil.R7Frag
