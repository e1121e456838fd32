import Mathlib.Data.Fintype.Card
import Mathlib.Data.Vector.Basic
import Ninlil.Lib.Memory

/-!
# The lab store

`mfdt_v1_store.c`: rows of a fixed table whose values stand in a pool that only grows, and a group
of operations that is staged before it is applied.

* `Row`, `LabOp`, `LabStore`;
* `labFullBegin`, `labPut`, `labDel`, `labFullRollback`, `labFullCommit`, `labGet`;
* `LabCall`, `LabStore.call`: the calls of an owner;
* `labView`: the value of each key.

The sizes of the two pools are parameters. A staged value stands in its operation.
-/

namespace Ninlil.Mfdt

open Memory

abbrev Key := Vector UInt8 20

/-- `NINLIL_MFDT_V1_ACTIVE_VALUE_MAX`. -/
def activeValueMax : ℕ := 35211

/-- The bytes of the two pools, which the target decides. -/
structure Pools where
  value : ℕ
  staging : ℕ
  bound : value + staging < 2 ^ 32
  active : activeValueMax ≤ staging

/-- `NINLIL_MFDT_V1_LAB_VALUE_POOL_BYTES` and `..._STAGING_POOL_BYTES` of a host. -/
def hostPools : Pools := ⟨65536, activeValueMax + 15020 + 180, by decide, by decide⟩

/-- `NINLIL_MFDT_V1_LAB_MAX_ROWS`. -/
def labMaxRows : ℕ := 16
/-- `NINLIL_MFDT_V1_LAB_MAX_OPS`. -/
def labMaxOps : ℕ := 4

/-- The statuses of the store. -/
inductive Status
  | ok
  | param
  | capacity
  | state
  | storage
  | cuNewNotPromoted
  deriving DecidableEq

/-- `ninlil_mfdt_v1_kv_row_t`: `value` is an offset in the pool. -/
structure Row where
  key : Key := Vector.replicate 20 0
  value : ℕ := 0
  valueLen : ℕ := 0
  occupied : Bool := false

/-- `ninlil_mfdt_v1_lab_op_t`. -/
inductive LabOp
  | put (key : Key) (value : List UInt8)
  | del (key : Key)
  deriving DecidableEq

/-- `ninlil_mfdt_v1_lab_store_t`. -/
structure LabStore where
  rows : Fin labMaxRows → Row := fun _ => {}
  valuePool : Mem := fun _ => 0
  poolUsed : UInt32 := 0
  fullCount : UInt32 := 0
  crashAfterFulls : UInt32 := 0
  crashArmed : UInt32 := 0
  forceCuNewNotPromoted : Bool := false
  txnOpen : Bool := false
  ops : List LabOp := []
  stagingPoolUsed : UInt32 := 0
  lastCuClass : ℤ := -1

/-- `ninlil_mfdt_v1_lab_store_init`. -/
def LabStore.init : LabStore := {}

/-! ### Rows -/

/-- `find_row`. -/
def findRow (s : LabStore) (key : Key) : Option (Fin labMaxRows) :=
  (List.finRange labMaxRows).find? fun i => (s.rows i).occupied && (s.rows i).key == key

/-- `free_row`. -/
def freeRow (s : LabStore) : Option (Fin labMaxRows) :=
  (List.finRange labMaxRows).find? fun i => !(s.rows i).occupied

/-- The bytes of a row. -/
def LabStore.bytes (s : LabStore) (i : Fin labMaxRows) : List UInt8 :=
  s.valuePool.read (s.rows i).value (s.rows i).valueLen

/-- The value of a key. -/
def labView (s : LabStore) (key : Key) : Option (List UInt8) := (findRow s key).map s.bytes

/-- A row is written, with its bytes in the pool. -/
def LabStore.fillRow (s : LabStore) (i : Fin labMaxRows) (key : Key) (offset : ℕ)
    (value : List UInt8) : LabStore :=
  { s with
    rows := Function.update s.rows i ⟨key, offset, value.length, true⟩
    valuePool := s.valuePool.write offset value }

/-- A row is freed. -/
def LabStore.clearRow (s : LabStore) (i : Fin labMaxRows) : LabStore :=
  { s with
    rows := Function.update s.rows i
      { s.rows i with value := 0, valueLen := 0, occupied := false } }

/-- The pool has room for so many bytes more. -/
def LabStore.hasRoom (pools : Pools) (s : LabStore) (n : ℕ) : Bool :=
  (s.poolUsed + UInt32.ofNat n).toNat ≤ pools.value

/-- A row of new bytes at the end of the pool. -/
def LabStore.appendRow (s : LabStore) (i : Fin labMaxRows) (key : Key) (value : List UInt8) :
    LabStore :=
  { s with poolUsed := s.poolUsed + UInt32.ofNat value.length }.fillRow i key s.poolUsed.toNat value

/-- `apply_put`. -/
def applyPut (pools : Pools) (s : LabStore) (key : Key) (value : List UInt8) : Status × LabStore :=
  match findRow s key with
  | none =>
    match freeRow s with
    | none => (.capacity, s)
    | some i =>
      if s.hasRoom pools value.length then (.ok, s.appendRow i key value) else (.capacity, s)
  | some i =>
    if (s.rows i).valueLen < value.length then
      if s.hasRoom pools value.length then (.ok, s.appendRow i key value) else (.capacity, s)
    else (.ok, s.fillRow i key (s.rows i).value value)

/-- `maybe_reclaim_pool`. -/
def maybeReclaimPool (s : LabStore) : LabStore :=
  if (List.finRange labMaxRows).any fun i => (s.rows i).occupied then s else { s with poolUsed := 0 }

/-- The row of a key is freed, if there is one. -/
def LabStore.dropKey (s : LabStore) (key : Key) : LabStore :=
  match findRow s key with
  | none => s
  | some i => s.clearRow i

/-! ### Calls -/

/-- `ninlil_mfdt_v1_lab_full_begin`. -/
def labFullBegin (s : LabStore) : Status × LabStore :=
  if s.txnOpen then (.state, s)
  else (.ok, { s with txnOpen := true, ops := [], stagingPoolUsed := 0 })

/-- `stage_op`. -/
def stageOp (pools : Pools) (s : LabStore) (op : LabOp) (valueLen : ℕ) : Status × LabStore :=
  if labMaxOps ≤ s.ops.length then (.capacity, s)
  else if 0 < valueLen ∧ pools.staging < (s.stagingPoolUsed + UInt32.ofNat valueLen).toNat then
    (.capacity, s)
  else
    (.ok, { s with
      ops := s.ops ++ [op]
      stagingPoolUsed := s.stagingPoolUsed + UInt32.ofNat valueLen })

/-- `ninlil_mfdt_v1_lab_put`. -/
def labPut (pools : Pools) (s : LabStore) (key : Key) (value : List UInt8) : Status × LabStore :=
  if s.txnOpen then stageOp pools s (.put key value) value.length
  else if activeValueMax < value.length then (.capacity, s)
  else applyPut pools s key value

/-- `ninlil_mfdt_v1_lab_del`. -/
def labDel (pools : Pools) (s : LabStore) (key : Key) : Status × LabStore :=
  if s.txnOpen then stageOp pools s (.del key) 0 else (.ok, s.dropKey key)

/-- `ninlil_mfdt_v1_lab_get` with a buffer of so many bytes, or none: the status, the length that is
told and the bytes that are copied. -/
def labGet (s : LabStore) (key : Key) (valueCap : Option ℕ) :
    Status × Option ℕ × Option (List UInt8) :=
  match findRow s key with
  | none => (.state, none, none)
  | some i =>
    match valueCap with
    | none => (.ok, some (s.rows i).valueLen, none)
    | some cap =>
      if cap < (s.rows i).valueLen then (.capacity, some (s.rows i).valueLen, none)
      else (.ok, some (s.rows i).valueLen, some (s.bytes i))

/-- `ninlil_mfdt_v1_lab_full_rollback`. -/
def labFullRollback (s : LabStore) : LabStore :=
  { s with txnOpen := false, ops := [], stagingPoolUsed := 0 }

/-- One operation of a group. -/
def applyOp (pools : Pools) (s : LabStore) : LabOp → Status × LabStore
  | .put key value => applyPut pools s key value
  | .del key => (.ok, maybeReclaimPool (s.dropKey key))

/-- The loop of `ninlil_mfdt_v1_lab_full_commit`, up to the first operation that fails. -/
def applyOps (pools : Pools) (s : LabStore) : List LabOp → Status × LabStore
  | [] => (.ok, s)
  | op :: ops =>
    match applyOp pools s op with
    | (.ok, s) => applyOps pools s ops
    | (e, s) => (e, s)

/-- The crash that was asked for comes with this commit. -/
def LabStore.crashes (s : LabStore) : Bool :=
  s.crashAfterFulls != 0 && decide (s.crashAfterFulls < s.fullCount + 1)

/-- `ninlil_mfdt_v1_lab_full_commit`. -/
def labFullCommit (pools : Pools) (s : LabStore) : Status × LabStore :=
  if s.txnOpen = false then (.state, s)
  else if s.crashes then (.storage, labFullRollback { s with crashArmed := 1 })
  else
    match applyOps pools s s.ops with
    | (.ok, s) =>
      let s := labFullRollback { s with fullCount := s.fullCount + 1 }
      if s.forceCuNewNotPromoted then
        (.cuNewNotPromoted, { s with forceCuNewNotPromoted := false, lastCuClass := 1 })
      else (.ok, s)
    | (e, s) => (e, labFullRollback s)

/-! ### Runs -/

/-- A call of the owner, or one of its faults. -/
inductive LabCall
  | begin
  | put (key : Key) (value : List UInt8)
  | del (key : Key)
  | commit
  | rollback
  | crashAfter (fulls : UInt32)
  | forceCuNew

/-- The store after a call. -/
def LabStore.call (pools : Pools) (s : LabStore) : LabCall → LabStore
  | .begin => (labFullBegin s).2
  | .put key value => (labPut pools s key value).2
  | .del key => (labDel pools s key).2
  | .commit => (labFullCommit pools s).2
  | .rollback => labFullRollback s
  | .crashAfter fulls => { s with crashAfterFulls := fulls }
  | .forceCuNew => { s with forceCuNewNotPromoted := true }

/-- The store after a run from the start. -/
def LabStore.run (pools : Pools) (calls : List LabCall) : LabStore :=
  calls.foldl (LabStore.call pools) .init

end Ninlil.Mfdt
