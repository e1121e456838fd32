import Ninlil.Lib.Fill
import Ninlil.Lib.Sizes

/-!
# Codecs of the N6 records

The keys and values of the N6 store, as `src/radio/n6_record_codec.c` writes and reads them.  Every
record has a fixed layout.

* `Layout`: the bytes that an encoder writes, the record that a decoder reads, and the checks that
  each of them makes on its own;
* `encodeWith`, `decodeWith`: what all encoders and all decoders do with it;
* the eleven layouts, each with its encoder and its decoder.

The two N6TX and N6RX values have the same layout, and so have the N6RT and N6CF keys.  The sizes of
the records in memory, the width of a pointer and the places of the arguments are parameters.
-/

namespace Ninlil.N6

open Bytes

inductive CodecStatus where
  | ok
  | invalidArgument
  | reject
  deriving DecidableEq, Repr

/-! ### Closed domains -/

def layerHop : UInt8 := 1
def layerE2e : UInt8 := 2
def laneHopData : UInt8 := 1
def laneHopAck : UInt8 := 2
def laneE2e : UInt8 := 3
def dirIr : UInt8 := 0
def dirRi : UInt8 := 1
def allocInboundRx : UInt8 := 1
def allocOutboundTx : UInt8 := 2
def recKindHw : UInt8 := 1
def recKindAl : UInt8 := 2
def recKindRt : UInt8 := 3
def recKindCf : UInt8 := 4
def fenceReasonDigest : UInt8 := 1
def fenceReasonOperator : UInt8 := 5
def rtFlagsLaneErased : UInt16 := 1
def cfFlagsFenceActive : UInt16 := 1

def magicTx : UInt32 := 0x4E365458
def magicRx : UInt32 := 0x4E365258
def magicHw : UInt32 := 0x4E364857
def magicAl : UInt32 := 0x4E36414C
def magicRt : UInt32 := 0x4E365254
def magicCf : UInt32 := 0x4E364346
def schemaLane : UInt16 := 2
def schemaHw : UInt16 := 1
def schemaAl : UInt16 := 2
def schemaRt : UInt16 := 2
def schemaCf : UInt16 := 2

def layerOk (layer : UInt8) : Bool := layer == layerHop || layer == layerE2e

def dirOk (d : UInt8) : Bool := d == dirIr || d == dirRi

def allocOk (a : UInt8) : Bool := a == allocInboundRx || a == allocOutboundTx

def laneKindOk (layer kind : UInt8) : Bool :=
  if layer = layerHop then kind == laneHopData || kind == laneHopAck
  else if layer = layerE2e then kind == laneE2e
  else false

def fenceReasonOk (r : UInt8) : Bool := fenceReasonDigest ≤ r && r ≤ fenceReasonOperator

def contextIdOk (id : UInt32) : Bool := id != 0 && id != 0xffffffff

def kgenOk (k : UInt64) : Bool := k != 0

def epochOk (e : UInt64) : Bool := 1 ≤ e

def txReservedOk (reservedExclusive : UInt64) : Bool := reservedExclusive != 0

def allZero {n : ℕ} (p : Vector UInt8 n) : Bool := p.toList.all fun b => b == 0

/-- `ninlil_n6_crc32c` of the first `len` bytes. -/
def n6Crc32c (bytes : List UInt8) (len : ℕ) : UInt32 :=
  if 0xffffffff < len then 0 else crc32c (bytes.take len)

/-- The writes of a value into a cleared buffer, then the check of the `len` bytes before it. -/
def sealValue (len : ℕ) (writes : List Put) : List UInt8 :=
  let tmp := fill (len + 4) writes
  store tmp len (encodeBE 4 (n6Crc32c tmp len).toNat)

/-! ### Encoders and decoders -/

/-- The places of an encoder's arguments, and what `out` and `out_len` point to. -/
structure EncodeCall where
  uintptrMax : ℕ
  inObj : ℕ
  inObjSize : ℕ
  out : ℕ
  outCap : ℕ
  outLen : ℕ
  outLenSize : ℕ
  arena : List UInt8
  len : ℕ
  /-- The caller's buffer has the capacity that it states. -/
  room : out ≠ 0 → outCap ≤ arena.length

/-- The places of a decoder's arguments. -/
structure DecodeCall where
  uintptrMax : ℕ
  input : ℕ
  outObj : ℕ
  outObjSize : ℕ

/-- `*out` and `*out_len` after an encoder. -/
structure Encoded where
  arena : List UInt8
  len : ℕ
  deriving DecidableEq, Repr

/-- `n6_ranges_disjoint`; null is 0. -/
def rangesDisjoint (uintptrMax a alen b blen : ℕ) : Bool :=
  if alen = 0 ∨ blen = 0 then true
  else if a = 0 ∨ b = 0 then false
  else if uintptrMax - alen < a ∨ uintptrMax - blen < b then false
  else a + alen ≤ b || b + blen ≤ a

def needExact (input inLen exact : ℕ) : CodecStatus :=
  if input = 0 then .invalidArgument
  else if inLen ≠ exact then .reject
  else .ok

def encodePrep (c : EncodeCall) (exact : ℕ) : CodecStatus :=
  if c.outLen = 0 ∨ c.inObj = 0 ∨ c.out = 0 then .invalidArgument
  else if c.outCap < exact then .invalidArgument
  else if !rangesDisjoint c.uintptrMax c.outLen c.outLenSize c.out exact then .invalidArgument
  else if !rangesDisjoint c.uintptrMax c.outLen c.outLenSize c.inObj c.inObjSize then
    .invalidArgument
  else if !rangesDisjoint c.uintptrMax c.inObj c.inObjSize c.out exact then .invalidArgument
  else .ok

def decodePrep (c : DecodeCall) (inLen exact : ℕ) : CodecStatus :=
  if c.outObj = 0 then .invalidArgument
  else
    match needExact c.input inLen exact with
    | .ok =>
      if !rangesDisjoint c.uintptrMax c.input exact c.outObj c.outObjSize then .invalidArgument
      else .ok
    | st => st

/-- The hand-written part of a codec. -/
structure Layout (α : Type) where
  exact : ℕ
  /-- The encoder's checks of the record. -/
  encodable : α → Bool
  /-- The bytes that the encoder writes. -/
  wire : α → List UInt8
  /-- The record that the decoder reads. -/
  read : List UInt8 → α
  /-- The decoder's checks of what it read, and of the check of the input. -/
  decodable : List UInt8 → α → Bool

variable {α : Type}

/-- An encoder: prepare, check, build the bytes, publish. -/
def encodeWith (L : Layout α) (c : EncodeCall) (r : α) : CodecStatus × Encoded :=
  match encodePrep c L.exact with
  | .ok =>
    if L.encodable r then (.ok, ⟨store c.arena 0 (L.wire r), L.exact⟩)
    else (.reject, ⟨c.arena, c.len⟩)
  | st => (st, ⟨c.arena, c.len⟩)

/-- A decoder: prepare, read into a temporary, check, publish. -/
def decodeWith (L : Layout α) (c : DecodeCall) (bytes : List UInt8) (out : α) : CodecStatus × α :=
  match decodePrep c bytes.length L.exact with
  | .ok =>
    let tmp := L.read bytes
    if L.decodable bytes tmp then (.ok, tmp) else (.reject, out)
  | st => (st, out)

/-! ### Lane key -/

structure LaneKey where
  layerCode : UInt8
  kindOrLane : UInt8
  directionCode : UInt8
  reserved0 : UInt8
  contextId : UInt32
  bindingDigest32 : Vector UInt8 32
  keyGeneration : UInt64
  deriving DecidableEq

def laneKeyWrites (r : LaneKey) : List Put :=
  [putU8 0 r.layerCode, putU8 1 r.kindOrLane, putU8 2 r.directionCode, putU8 3 0,
    putU32Be 4 r.contextId, putVector 8 r.bindingDigest32, putU64Be 40 r.keyGeneration]

def laneKeyLayout : Layout LaneKey where
  exact := 48
  encodable r := r.reserved0 == 0 && layerOk r.layerCode && dirOk r.directionCode &&
    laneKindOk r.layerCode r.kindOrLane && contextIdOk r.contextId && kgenOk r.keyGeneration
  wire r := fill 48 (laneKeyWrites r)
  read bytes :=
    { layerCode := bytes.getD 0 0
      kindOrLane := bytes.getD 1 0
      directionCode := bytes.getD 2 0
      reserved0 := bytes.getD 3 0
      contextId := getU32Be bytes 4
      bindingDigest32 := getVector 32 bytes 8
      keyGeneration := getU64Be bytes 40 }
  decodable _ tmp := tmp.reserved0 == 0 && layerOk tmp.layerCode && dirOk tmp.directionCode &&
    laneKindOk tmp.layerCode tmp.kindOrLane && contextIdOk tmp.contextId &&
    kgenOk tmp.keyGeneration

def encodeLaneKey := encodeWith laneKeyLayout
def decodeLaneKey := decodeWith laneKeyLayout

/-! ### N6TX and N6RX values -/

/-- The value of a lane; its counter is `reserved_exclusive` or `accept_reserved_through`. -/
structure LaneValue where
  magic : UInt32
  schema : UInt16
  reserved0 : UInt16
  counter : UInt64
  keyGeneration : UInt64
  bindingDigestPrefix16 : Vector UInt8 16
  membershipEpoch : UInt64
  allocSide : UInt8
  reserved1 : Vector UInt8 3
  nsFingerprint12 : Vector UInt8 12
  valueCrc32c : UInt32
  deriving DecidableEq

/-- The bytes 49 to 51 are not written. -/
def laneValueWrites (magic : UInt32) (side : UInt8) (r : LaneValue) : List Put :=
  [putU32Be 0 magic, putU16Be 4 schemaLane, putU16Be 6 0, putU64Be 8 r.counter,
    putU64Be 16 r.keyGeneration, putVector 24 r.bindingDigestPrefix16,
    putU64Be 40 r.membershipEpoch, putU8 48 side, putVector 52 r.nsFingerprint12]

def laneValueLayout (magic : UInt32) (side : UInt8) (counterOk : UInt64 → Bool) :
    Layout LaneValue where
  exact := 68
  encodable r := r.magic == magic && r.schema == schemaLane && r.reserved0 == 0 &&
    r.allocSide == side && allZero r.reserved1 && kgenOk r.keyGeneration &&
    epochOk r.membershipEpoch && counterOk r.counter
  wire r := sealValue 64 (laneValueWrites magic side r)
  read bytes :=
    { magic := getU32Be bytes 0
      schema := getU16Be bytes 4
      reserved0 := getU16Be bytes 6
      counter := getU64Be bytes 8
      keyGeneration := getU64Be bytes 16
      bindingDigestPrefix16 := getVector 16 bytes 24
      membershipEpoch := getU64Be bytes 40
      allocSide := bytes.getD 48 0
      reserved1 := #v[bytes.getD 49 0, bytes.getD 50 0, bytes.getD 51 0]
      nsFingerprint12 := getVector 12 bytes 52
      valueCrc32c := getU32Be bytes 64 }
  decodable bytes tmp := tmp.magic == magic && tmp.schema == schemaLane && tmp.reserved0 == 0 &&
    tmp.allocSide == side && getElem tmp.reserved1 0 (Nat.zero_lt_succ _) == 0 &&
    getElem tmp.reserved1 1 (Nat.one_lt_succ_succ _) == 0 &&
    getElem tmp.reserved1 2 (Nat.lt_succ_self _) == 0 && kgenOk tmp.keyGeneration &&
    epochOk tmp.membershipEpoch &&
    counterOk tmp.counter && tmp.valueCrc32c == n6Crc32c bytes 64

abbrev TxValue := LaneValue
abbrev RxValue := LaneValue

def txValueLayout : Layout TxValue := laneValueLayout magicTx allocOutboundTx txReservedOk
def rxValueLayout : Layout RxValue := laneValueLayout magicRx allocInboundRx fun _ => true

def encodeN6txValue := encodeWith txValueLayout
def decodeN6txValue := decodeWith txValueLayout
def encodeN6rxValue := encodeWith rxValueLayout
def decodeN6rxValue := decodeWith rxValueLayout

/-! ### N6HW -/

structure HwKey where
  recKind : UInt8
  layerCode : UInt8
  directionCode : UInt8
  reserved0 : UInt8
  scopeDigest28 : Vector UInt8 28
  deriving DecidableEq

def hwKeyWrites (r : HwKey) : List Put :=
  [putU8 0 recKindHw, putU8 1 r.layerCode, putU8 2 r.directionCode, putU8 3 0,
    putVector 4 r.scopeDigest28]

def hwKeyLayout : Layout HwKey where
  exact := 32
  encodable r := r.recKind == recKindHw && r.reserved0 == 0 && layerOk r.layerCode &&
    dirOk r.directionCode
  wire r := fill 32 (hwKeyWrites r)
  read bytes :=
    { recKind := bytes.getD 0 0
      layerCode := bytes.getD 1 0
      directionCode := bytes.getD 2 0
      reserved0 := bytes.getD 3 0
      scopeDigest28 := getVector 28 bytes 4 }
  decodable _ tmp := tmp.recKind == recKindHw && tmp.reserved0 == 0 && layerOk tmp.layerCode &&
    dirOk tmp.directionCode

def encodeN6hwKey := encodeWith hwKeyLayout
def decodeN6hwKey := decodeWith hwKeyLayout

structure HwValue where
  magic : UInt32
  schema : UInt16
  reserved0 : UInt16
  highWaterKeyGeneration : UInt64
  lastUpdateAuthorityNowMs : UInt64
  valueCrc32c : UInt32
  deriving DecidableEq

def hwValueWrites (r : HwValue) : List Put :=
  [putU32Be 0 magicHw, putU16Be 4 schemaHw, putU16Be 6 0, putU64Be 8 r.highWaterKeyGeneration,
    putU64Be 16 r.lastUpdateAuthorityNowMs]

def hwValueLayout : Layout HwValue where
  exact := 28
  encodable r := r.magic == magicHw && r.schema == schemaHw && r.reserved0 == 0 &&
    kgenOk r.highWaterKeyGeneration
  wire r := sealValue 24 (hwValueWrites r)
  read bytes :=
    { magic := getU32Be bytes 0
      schema := getU16Be bytes 4
      reserved0 := getU16Be bytes 6
      highWaterKeyGeneration := getU64Be bytes 8
      lastUpdateAuthorityNowMs := getU64Be bytes 16
      valueCrc32c := getU32Be bytes 24 }
  decodable bytes tmp := tmp.magic == magicHw && tmp.schema == schemaHw && tmp.reserved0 == 0 &&
    kgenOk tmp.highWaterKeyGeneration && tmp.valueCrc32c == n6Crc32c bytes 24

def encodeN6hwValue := encodeWith hwValueLayout
def decodeN6hwValue := decodeWith hwValueLayout

/-! ### N6AL -/

structure AlKey where
  recKind : UInt8
  layerCode : UInt8
  allocSide : UInt8
  reserved0 : UInt8
  membershipEpoch : UInt64
  nsFingerprint12 : Vector UInt8 12
  deriving DecidableEq

def alKeyWrites (r : AlKey) : List Put :=
  [putU8 0 recKindAl, putU8 1 r.layerCode, putU8 2 r.allocSide, putU8 3 0,
    putU64Be 4 r.membershipEpoch, putVector 12 r.nsFingerprint12]

def alKeyLayout : Layout AlKey where
  exact := 24
  encodable r := r.recKind == recKindAl && r.reserved0 == 0 && layerOk r.layerCode &&
    allocOk r.allocSide && epochOk r.membershipEpoch
  wire r := fill 24 (alKeyWrites r)
  read bytes :=
    { recKind := bytes.getD 0 0
      layerCode := bytes.getD 1 0
      allocSide := bytes.getD 2 0
      reserved0 := bytes.getD 3 0
      membershipEpoch := getU64Be bytes 4
      nsFingerprint12 := getVector 12 bytes 12 }
  decodable _ tmp := tmp.recKind == recKindAl && tmp.reserved0 == 0 && layerOk tmp.layerCode &&
    allocOk tmp.allocSide && epochOk tmp.membershipEpoch

def encodeN6alKey := encodeWith alKeyLayout
def decodeN6alKey := decodeWith alKeyLayout

structure AlValue where
  magic : UInt32
  schema : UInt16
  reserved0 : UInt16
  nextFreeOrPeerFloor : UInt32
  activeCount : UInt16
  retiredTombstoneCount : UInt16
  reserved1 : UInt32
  membershipEpoch : UInt64
  lastAllocAuthorityNowMs : UInt64
  receiverNodeId : Vector UInt8 16
  valueCrc32c : UInt32
  deriving DecidableEq

def alValueWrites (r : AlValue) : List Put :=
  [putU32Be 0 magicAl, putU16Be 4 schemaAl, putU16Be 6 0, putU32Be 8 r.nextFreeOrPeerFloor,
    putU16Be 12 r.activeCount, putU16Be 14 r.retiredTombstoneCount, putU32Be 16 0,
    putU64Be 20 r.membershipEpoch, putU64Be 28 r.lastAllocAuthorityNowMs,
    putVector 36 r.receiverNodeId]

def alValueLayout : Layout AlValue where
  exact := 56
  encodable r := r.magic == magicAl && r.schema == schemaAl && r.reserved0 == 0 &&
    r.reserved1 == 0 && r.nextFreeOrPeerFloor != 0 && epochOk r.membershipEpoch
  wire r := sealValue 52 (alValueWrites r)
  read bytes :=
    { magic := getU32Be bytes 0
      schema := getU16Be bytes 4
      reserved0 := getU16Be bytes 6
      nextFreeOrPeerFloor := getU32Be bytes 8
      activeCount := getU16Be bytes 12
      retiredTombstoneCount := getU16Be bytes 14
      reserved1 := getU32Be bytes 16
      membershipEpoch := getU64Be bytes 20
      lastAllocAuthorityNowMs := getU64Be bytes 28
      receiverNodeId := getVector 16 bytes 36
      valueCrc32c := getU32Be bytes 52 }
  decodable bytes tmp := tmp.magic == magicAl && tmp.schema == schemaAl && tmp.reserved0 == 0 &&
    tmp.reserved1 == 0 && tmp.nextFreeOrPeerFloor != 0 && epochOk tmp.membershipEpoch &&
    tmp.valueCrc32c == n6Crc32c bytes 52

def encodeN6alValue := encodeWith alValueLayout
def decodeN6alValue := decodeWith alValueLayout

/-! ### N6RT and N6CF keys -/

/-- The key of a record about one context. -/
structure ContextKey where
  recKind : UInt8
  layerCode : UInt8
  directionCode : UInt8
  allocSide : UInt8
  contextId : UInt32
  membershipEpoch : UInt64
  nsFingerprint12 : Vector UInt8 12
  deriving DecidableEq

def contextKeyWrites (kind : UInt8) (r : ContextKey) : List Put :=
  [putU8 0 kind, putU8 1 r.layerCode, putU8 2 r.directionCode, putU8 3 r.allocSide,
    putU32Be 4 r.contextId, putU64Be 8 r.membershipEpoch, putVector 16 r.nsFingerprint12]

def contextKeyLayout (kind : UInt8) : Layout ContextKey where
  exact := 28
  encodable r := r.recKind == kind && layerOk r.layerCode && dirOk r.directionCode &&
    allocOk r.allocSide && contextIdOk r.contextId && epochOk r.membershipEpoch
  wire r := fill 28 (contextKeyWrites kind r)
  read bytes :=
    { recKind := bytes.getD 0 0
      layerCode := bytes.getD 1 0
      directionCode := bytes.getD 2 0
      allocSide := bytes.getD 3 0
      contextId := getU32Be bytes 4
      membershipEpoch := getU64Be bytes 8
      nsFingerprint12 := getVector 12 bytes 16 }
  decodable _ tmp := tmp.recKind == kind && layerOk tmp.layerCode && dirOk tmp.directionCode &&
    allocOk tmp.allocSide && contextIdOk tmp.contextId && epochOk tmp.membershipEpoch

abbrev RtKey := ContextKey
abbrev CfKey := ContextKey

def rtKeyLayout : Layout RtKey := contextKeyLayout recKindRt
def cfKeyLayout : Layout CfKey := contextKeyLayout recKindCf

def encodeN6rtKey := encodeWith rtKeyLayout
def decodeN6rtKey := decodeWith rtKeyLayout
def encodeN6cfKey := encodeWith cfKeyLayout
def decodeN6cfKey := decodeWith cfKeyLayout

/-! ### N6RT value -/

structure RtValue where
  magic : UInt32
  schema : UInt16
  flags : UInt16
  contextId : UInt32
  membershipEpoch : UInt64
  lastKeyGenerationHighWater : UInt64
  bindingDigest12 : Vector UInt8 12
  allocSide : UInt8
  directionCode : UInt8
  layerCode : UInt8
  reserved0 : UInt8
  valueCrc32c : UInt32
  deriving DecidableEq

def rtValueWrites (r : RtValue) : List Put :=
  [putU32Be 0 magicRt, putU16Be 4 schemaRt, putU16Be 6 rtFlagsLaneErased,
    putU32Be 8 r.contextId, putU64Be 12 r.membershipEpoch,
    putU64Be 20 r.lastKeyGenerationHighWater, putVector 28 r.bindingDigest12,
    putU8 40 r.allocSide, putU8 41 r.directionCode, putU8 42 r.layerCode, putU8 43 0]

def rtValueLayout : Layout RtValue where
  exact := 48
  encodable r := r.magic == magicRt && r.schema == schemaRt && r.flags == rtFlagsLaneErased &&
    r.reserved0 == 0 && layerOk r.layerCode && dirOk r.directionCode && allocOk r.allocSide &&
    contextIdOk r.contextId && epochOk r.membershipEpoch && kgenOk r.lastKeyGenerationHighWater
  wire r := sealValue 44 (rtValueWrites r)
  read bytes :=
    { magic := getU32Be bytes 0
      schema := getU16Be bytes 4
      flags := getU16Be bytes 6
      contextId := getU32Be bytes 8
      membershipEpoch := getU64Be bytes 12
      lastKeyGenerationHighWater := getU64Be bytes 20
      bindingDigest12 := getVector 12 bytes 28
      allocSide := bytes.getD 40 0
      directionCode := bytes.getD 41 0
      layerCode := bytes.getD 42 0
      reserved0 := bytes.getD 43 0
      valueCrc32c := getU32Be bytes 44 }
  decodable bytes tmp := tmp.magic == magicRt && tmp.schema == schemaRt &&
    tmp.flags == rtFlagsLaneErased && tmp.reserved0 == 0 && layerOk tmp.layerCode &&
    dirOk tmp.directionCode && allocOk tmp.allocSide && contextIdOk tmp.contextId &&
    epochOk tmp.membershipEpoch && kgenOk tmp.lastKeyGenerationHighWater &&
    tmp.valueCrc32c == n6Crc32c bytes 44

def encodeN6rtValue := encodeWith rtValueLayout
def decodeN6rtValue := decodeWith rtValueLayout

/-! ### N6CF value -/

structure CfValue where
  magic : UInt32
  schema : UInt16
  flags : UInt16
  contextId : UInt32
  membershipEpoch : UInt64
  fenceStampEpochId : Vector UInt8 16
  fenceStampNowMs : UInt64
  bindingDigest12 : Vector UInt8 12
  allocSide : UInt8
  directionCode : UInt8
  layerCode : UInt8
  reason : UInt8
  valueCrc32c : UInt32
  deriving DecidableEq

def cfValueWrites (r : CfValue) : List Put :=
  [putU32Be 0 magicCf, putU16Be 4 schemaCf, putU16Be 6 cfFlagsFenceActive,
    putU32Be 8 r.contextId, putU64Be 12 r.membershipEpoch, putVector 20 r.fenceStampEpochId,
    putU64Be 36 r.fenceStampNowMs, putVector 44 r.bindingDigest12, putU8 56 r.allocSide,
    putU8 57 r.directionCode, putU8 58 r.layerCode, putU8 59 r.reason]

def cfValueLayout : Layout CfValue where
  exact := 64
  encodable r := r.magic == magicCf && r.schema == schemaCf && r.flags == cfFlagsFenceActive &&
    fenceReasonOk r.reason && layerOk r.layerCode && dirOk r.directionCode &&
    allocOk r.allocSide && contextIdOk r.contextId && epochOk r.membershipEpoch
  wire r := sealValue 60 (cfValueWrites r)
  read bytes :=
    { magic := getU32Be bytes 0
      schema := getU16Be bytes 4
      flags := getU16Be bytes 6
      contextId := getU32Be bytes 8
      membershipEpoch := getU64Be bytes 12
      fenceStampEpochId := getVector 16 bytes 20
      fenceStampNowMs := getU64Be bytes 36
      bindingDigest12 := getVector 12 bytes 44
      allocSide := bytes.getD 56 0
      directionCode := bytes.getD 57 0
      layerCode := bytes.getD 58 0
      reason := bytes.getD 59 0
      valueCrc32c := getU32Be bytes 60 }
  decodable bytes tmp := tmp.magic == magicCf && tmp.schema == schemaCf &&
    tmp.flags == cfFlagsFenceActive && fenceReasonOk tmp.reason && layerOk tmp.layerCode &&
    dirOk tmp.directionCode && allocOk tmp.allocSide && contextIdOk tmp.contextId &&
    epochOk tmp.membershipEpoch && tmp.valueCrc32c == n6Crc32c bytes 60

def encodeN6cfValue := encodeWith cfValueLayout
def decodeN6cfValue := decodeWith cfValueLayout

end Ninlil.N6
