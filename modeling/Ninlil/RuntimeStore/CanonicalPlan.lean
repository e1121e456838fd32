import Ninlil.EspStorage.Model
import Ninlil.Lib.SortedRows

/-!
# The canonical plan

`storage_canonical_plan.c`: one transaction that takes the content of a namespace from one view to
another, over any provider of the storage operations.

* `Provider`: `ninlil_storage_ops_t`, as far as the plan calls it;
* `viewMetrics`, `capacityOkShape`, `capacityNonOkShape`: the checks in front of the transaction;
* `putRows`, `eraseRows`: the two loops;
* `canonicalApply`: `ninlil_storage_canonical_apply`, with the calls that it makes.
-/

namespace Ninlil.CanonicalPlan

open Bytes EspStorage

/-- A key and its value. -/
abbrev Row := List UInt8 × List UInt8

/-- `NINLIL_M1A_MAX_STORAGE_VALUE_BYTES`. -/
def maxStorageValueBytes : ℕ := 65536

/-- `UINT64_MAX`. -/
def uint64Max : ℕ := 2 ^ 64 - 1

/-- `ninlil_storage_capacity_t`; `headerKept` says that the header is the one the caller set. -/
structure Capacity where
  headerKept : Bool := true
  maxEntries : ℕ := 0
  usedEntries : ℕ := 0
  maxBytes : ℕ := 0
  usedBytes : ℕ := 0

/-- The operations of a provider, over its state and its transactions. -/
structure Provider (σ τ : Type) where
  capacity : σ → EspStorage.Status × Capacity × σ
  begin : σ → EspStorage.Status × Option τ × σ
  put : σ → τ → List UInt8 → List UInt8 → EspStorage.Status × σ
  erase : σ → τ → List UInt8 → EspStorage.Status × σ
  commit : σ → τ → EspStorage.Status × σ
  rollback : σ → τ → EspStorage.Status × σ

/-- A call of the provider. -/
inductive Call
  | capacity
  | begin
  | put (key value : List UInt8)
  | erase (key : List UInt8)
  | commit
  | rollback
  deriving DecidableEq

/-- `ninlil_storage_canonical_metrics_t`. -/
structure Metrics where
  beginEntries : ℕ := 0
  beginBytes : ℕ := 0
  finalEntries : ℕ := 0
  finalBytes : ℕ := 0
  stagingEntries : ℕ := 0
  stagingBytes : ℕ := 0

/-- `ninlil_storage_canonical_result_t`. -/
structure Result where
  cleanupStatus : EspStorage.Status := .ok
  transactionStarted : Bool := false
  commitAttempted : Bool := false
  fenceRequired : Bool := false
  metrics : Metrics := {}

/-- What a call of the plan leaves: its status and result, the provider, and the calls of it. -/
structure Outcome (σ : Type) where
  status : EspStorage.Status
  result : Result
  provider : σ
  calls : List Call

/-! ### Checks -/

/-- `checked_add_u64`. -/
def checkedAddU64 (left right : ℕ) : Option ℕ :=
  if left > uint64Max - right then none else some (left + right)

/-- What one row counts. -/
def rowBytes (row : Row) : ℕ := 16 + row.1.length + row.2.length

/-- The loop of `view_metrics` behind the row `previous`, if there is one. -/
def viewBytes : Option Row → ℕ → List Row → Option ℕ
  | _, bytes, [] => some bytes
  | previous, bytes, row :: rows =>
    if row.1.length = 0 ∨ row.1.length > 255 ∨ row.2.length > maxStorageValueBytes
        ∨ previous.any fun before => bytesCompare before.1 row.1 != .lt then none
    else if rowBytes row > 16 + 255 + maxStorageValueBytes then none
    else
      match checkedAddU64 bytes (rowBytes row) with
      | none => none
      | some bytes => viewBytes (some row) bytes rows

/-- `view_metrics`. -/
def viewMetrics (view : List Row) : Option (ℕ × ℕ) :=
  (viewBytes none 0 view).map fun bytes => (view.length, bytes)

/-- `capacity_non_ok_shape`. -/
def capacityNonOkShape (c : Capacity) : Bool :=
  c.headerKept && c.maxEntries == 0 && c.usedEntries == 0 && c.maxBytes == 0 && c.usedBytes == 0

/-- `capacity_ok_shape`. -/
def capacityOkShape (c : Capacity) : Bool :=
  c.headerKept && decide (0 < c.maxEntries) && decide (0 < c.maxBytes) &&
    decide (c.usedEntries ≤ c.maxEntries) && decide (c.usedBytes ≤ c.maxBytes)

/-! ### The transaction -/

variable {σ τ : Type}

/-- The loop over the final rows. -/
def putRows (P : Provider σ τ) (txn : τ) (s : σ) : List Row → EspStorage.Status × σ × List Call
  | [] => (.ok, s, [])
  | row :: rows =>
    match P.put s txn row.1 row.2 with
    | (.ok, s) =>
      let (status, s, calls) := putRows P txn s rows
      (status, s, .put row.1 row.2 :: calls)
    | (e, s) => (e, s, [.put row.1 row.2])

/-- The loop over both views, from two of their rows on. -/
def eraseRows (P : Provider σ τ) (txn : τ) (s : σ) : List Row → List Row →
    EspStorage.Status × σ × List Call
  | [], _ => (.ok, s, [])
  | row :: rows, [] =>
    match P.erase s txn row.1 with
    | (.ok, s) =>
      let (status, s, calls) := eraseRows P txn s rows []
      (status, s, .erase row.1 :: calls)
    | (e, s) => (e, s, [.erase row.1])
  | row :: rows, other :: others =>
    match bytesCompare row.1 other.1 with
    | .lt =>
      match P.erase s txn row.1 with
      | (.ok, s) =>
        let (status, s, calls) := eraseRows P txn s rows (other :: others)
        (status, s, .erase row.1 :: calls)
      | (e, s) => (e, s, [.erase row.1])
    | .eq => eraseRows P txn s rows others
    | .gt => eraseRows P txn s (row :: rows) others
  termination_by rows others => rows.length + others.length

/-- `rollback_failure`. -/
def rollbackFailure (P : Provider σ τ) (txn : τ) (primary : EspStorage.Status) (result : Result)
    (s : σ)
    (calls : List Call) : Outcome σ :=
  let (cleanup, s) := P.rollback s txn
  ⟨primary, { result with
      cleanupStatus := if cleanup = .ok then result.cleanupStatus else cleanup },
    s, calls ++ [.rollback]⟩

/-- The transaction of a plan, once it is open. -/
def runTransaction (P : Provider σ τ) (beforeCommit : σ → σ) (beginView finalView : List Row)
    (txn : τ) (result : Result) (s : σ) (calls : List Call) : Outcome σ :=
  match putRows P txn s finalView with
  | (.ok, s, puts) =>
    match eraseRows P txn s beginView finalView with
    | (.ok, s, erases) =>
      let (status, s) := P.commit (beforeCommit s) txn
      ⟨status, { result with commitAttempted := true }, s, calls ++ puts ++ erases ++ [.commit]⟩
    | (e, s, erases) => rollbackFailure P txn e result s (calls ++ puts ++ erases)
  | (e, s, puts) => rollbackFailure P txn e result s (calls ++ puts)

/-- `begin` and what follows it. -/
def startTransaction (P : Provider σ τ) (beforeCommit : σ → σ) (beginView finalView : List Row)
    (result : Result) (s : σ) (calls : List Call) : Outcome σ :=
  match P.begin s with
  | (.ok, some txn, s) =>
    runTransaction P beforeCommit beginView finalView txn { result with transactionStarted := true }
      s
      (calls ++ [.begin])
  | (.ok, none, s) => ⟨.corrupt, { result with fenceRequired := true }, s, calls ++ [.begin]⟩
  | (_, some txn, s) =>
    rollbackFailure P txn .corrupt { result with fenceRequired := true } s (calls ++ [.begin])
  | (e, none, s) => ⟨e, result, s, calls ++ [.begin]⟩

/-- `ninlil_storage_canonical_apply`; `beforeCommit` is the hook, which may be no change. -/
def canonicalApply (P : Provider σ τ) (beforeCommit : σ → σ) (beginView finalView : List Row)
    (s : σ) : Outcome σ :=
  match viewMetrics beginView with
  | none => ⟨.corrupt, {}, s, []⟩
  | some (beginEntries, beginBytes) =>
    let m : Metrics := { beginEntries, beginBytes }
    match viewMetrics finalView with
    | none => ⟨.corrupt, { metrics := m }, s, []⟩
    | some (finalEntries, finalBytes) =>
      let m := { m with finalEntries, finalBytes }
      if beginView.length = 0 ∧ finalView.length = 0 then ⟨.corrupt, { metrics := m }, s, []⟩
      else
        let (status, c, s) := P.capacity s
        if status ≠ .ok then
          if capacityNonOkShape c then ⟨status, { metrics := m }, s, [.capacity]⟩
          else ⟨.corrupt, { metrics := m, fenceRequired := true }, s, [.capacity]⟩
        else if capacityOkShape c = false ∨ c.usedEntries ≠ beginEntries ∨ c.usedBytes ≠ beginBytes
        then ⟨.corrupt, { metrics := m, fenceRequired := true }, s, [.capacity]⟩
        else
          match checkedAddU64 beginEntries finalEntries, checkedAddU64 beginBytes finalBytes with
          | some stagingEntries, some stagingBytes =>
            let m := { m with stagingEntries, stagingBytes }
            if beginEntries > c.maxEntries ∨ finalEntries > c.maxEntries ∨ beginBytes > c.maxBytes
                ∨ finalBytes > c.maxBytes then ⟨.noSpace, { metrics := m }, s, [.capacity]⟩
            else startTransaction P beforeCommit beginView finalView { metrics := m } s [.capacity]
          | _, _ => ⟨.corrupt, { metrics := m, fenceRequired := true }, s, [.capacity]⟩

end Ninlil.CanonicalPlan
