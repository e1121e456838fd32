import Ninlil.Lib.Tables

/-!
# The burn ledger of generated acknowledgements

A fragment acknowledgement is charged twice over before it is sent: to its own text, which may be
burned twice, and to its transfer, whose acknowledgements share one budget.

* `Identity`, `Row`, `Ledger`: what is charged, and the table of charges with the intent beside it;
* `expireRows`, `ledgerTick`: rows end with the owner they were charged under;
* `mayBurn`, `chargeBurn`: the two budgets;
* `armPending`, `intentTick`, `enterReserve`, `afterBurnOk`, `enterLink`, `markAcked`, `markDrop`,
  `retryOrDrop`: the intent, from the first due time to the last acknowledgement.
-/

namespace Ninlil.AckIntent

open Tables

/-! ### Data -/

/-- Rows of the table. -/
abbrev ledgerRows : ℕ := 16

/-- The largest number of fragments of a transfer. -/
abbrev fragCountMax : UInt16 := 13

/-- Burns of one identity. -/
abbrev semanticMax : ℕ := 2

/-- The ceiling on the burns of one transfer. -/
abbrev aggregateAbsMax : ℕ := 32

/-- Control reserves that may be held together. -/
abbrev controlAckReserve : ℕ := 8

/-- The idle time before a partial acknowledgement is due. -/
abbrev partialAckIdleMs : UInt64 := 2000

/-- The wait before another burn. -/
abbrev retryIntervalMs : UInt64 := 500

/-- The largest clock value. -/
abbrev clockMax : UInt64 := 0xFFFFFFFFFFFFFFFF

/-- The plaintext of a fragment acknowledgement. -/
structure Identity where
  transferHandle : UInt64
  fragCount : UInt16
  receivedBitmap : UInt16
  status : UInt8
  reason : UInt8
  deriving DecidableEq, Repr

/-- An identity of zeros. -/
def Identity.zero : Identity := ⟨0, 0, 0, 0, 0⟩

/-- A handle in range and a fragment count in range. -/
def idValid (id : Identity) : Bool :=
  id.transferHandle != 0 && id.transferHandle != clockMax && 2 ≤ id.fragCount &&
    id.fragCount ≤ fragCountMax

/-- A row in use. -/
structure Row where
  id : Identity
  burnsUsed : ℕ
  lastBurnMono : UInt64
  ownerExpiryMono : UInt64
  deriving DecidableEq, Repr

/-- The states of the intent. -/
inductive IntentState
  | idle
  | pending
  | due
  | reserve
  | burn
  | burnCu
  | sealing
  | link
  | retry
  | acked
  | drop
  deriving DecidableEq, Repr

/-- The ledger and the pending intent. -/
structure Ledger where
  rows : Fin ledgerRows → Option Row
  ownerTransferHandle : UInt64
  ownerFragCount : UInt16
  ownerExpiryMono : UInt64
  controlReserveHeld : ℕ
  intentState : IntentState
  intentId : Identity
  partialAckDue : UInt64
  ackIntentRetryAt : UInt64

/-- Return values. -/
inductive Status
  | ok
  | invalid
  | resource
  | expired
  deriving DecidableEq, Repr

/-- The ledger after `ninlil_r7_frag_ack_ledger_init`. -/
def init : Ledger :=
  { rows := fun _ => none, ownerTransferHandle := 0, ownerFragCount := 0, ownerExpiryMono := 0,
    controlReserveHeld := 0, intentState := .idle, intentId := .zero, partialAckDue := 0,
    ackIntentRetryAt := 0 }

/-! ### Rows -/

/-- What the acknowledgements of one transfer may burn together. -/
def aggregateLimit (fragCount : UInt16) : ℕ := min (fragCount.toNat * 2) aggregateAbsMax

/-- Binds the transfer new rows are charged under. -/
def bindOwner (led : Ledger) (transferHandle : UInt64) (fragCount : UInt16)
    (ownerExpiryMono : UInt64) : Ledger :=
  { led with
    ownerTransferHandle := transferHandle
    ownerFragCount := fragCount
    ownerExpiryMono := ownerExpiryMono }

/-- The owner the row was charged under is gone. -/
def Row.pastExpiry (now : UInt64) (r : Row) : Bool :=
  r.ownerExpiryMono != 0 && r.ownerExpiryMono ≤ now

/-- The owner bound to the ledger is gone. -/
def Ledger.ownerGone (led : Ledger) (now : UInt64) : Bool :=
  led.ownerExpiryMono != 0 && led.ownerExpiryMono ≤ now

/-- Clears the rows past their expiry. -/
def expireRows (led : Ledger) (now : UInt64) : Ledger :=
  { led with rows := fun i => (led.rows i).filter fun r => !r.pastExpiry now }

/-- Clears the rows past their expiry, and all rows of the owner once it is gone. -/
def ledgerTick (led : Ledger) (now : UInt64) : Ledger :=
  let led := expireRows led now
  if led.ownerGone now then
    { led with
      rows := fun i => (led.rows i).filter fun r =>
        r.id.transferHandle != led.ownerTransferHandle }
  else led

/-- Takes a control reserve. -/
def reserveAcquire (led : Ledger) : Status × Ledger :=
  if controlAckReserve ≤ led.controlReserveHeld then (.resource, led)
  else (.ok, { led with controlReserveHeld := led.controlReserveHeld + 1 })

/-- Gives a control reserve back. -/
def reserveRelease (led : Ledger) : Ledger :=
  if led.controlReserveHeld = 0 then led
  else { led with controlReserveHeld := led.controlReserveHeld - 1 }

/-- The burns a row adds to the total of a transfer. -/
def Row.burnsOf (transferHandle : UInt64) (r : Row) : ℕ :=
  if r.id.transferHandle = transferHandle then r.burnsUsed else 0

/-- The burns charged to a transfer. -/
def aggregateBurns (led : Ledger) (transferHandle : UInt64) : ℕ :=
  if transferHandle = 0 then 0 else weight (Row.burnsOf transferHandle) led.rows

/-- The row of an identity. -/
def findRow (led : Ledger) (id : Identity) : Option (Fin ledgerRows × Row) :=
  scan led.rows fun r => r.id == id

/-- The burns charged to an identity. -/
def burnsUsed (led : Ledger) (id : Identity) : ℕ :=
  if idValid id then (findRow led id).elim 0 fun r => r.2.burnsUsed else 0

/-! ### Burns -/

/-- Whether one more burn may be charged to an identity. -/
def mayBurn (led : Ledger) (id : Identity) (now : UInt64) : Status :=
  if !idValid id then .invalid
  else if led.ownerGone now && (led.ownerTransferHandle == 0 ||
      led.ownerTransferHandle == id.transferHandle) then .expired
  else
    let row := findRow led id
    if row.any fun r => r.2.pastExpiry now then .expired
    else if semanticMax ≤ row.elim 0 fun r => r.2.burnsUsed then .resource
    else if aggregateLimit id.fragCount ≤ aggregateBurns led id.transferHandle then .resource
    else .ok

/-- The row a burn is charged to: the row of the identity, or a fresh one in a free slot. -/
def rowToCharge (led : Ledger) (id : Identity) : Option (Fin ledgerRows × Row) :=
  match findRow led id with
  | some r => some r
  | none => (firstFree led.rows).map fun i => (i, ⟨id, 0, 0, led.ownerExpiryMono⟩)

/-- Charges one burn to an identity. -/
def chargeBurn (led : Ledger) (id : Identity) (now : UInt64) : Status × Ledger :=
  if !idValid id then (.invalid, led)
  else
    let led := expireRows led now
    match mayBurn led id now with
    | .ok =>
      match rowToCharge led id with
      | none => (.resource, led)
      | some (i, row) =>
        if semanticMax ≤ row.burnsUsed then
          (.resource, { led with rows := Function.update led.rows i (some row) })
        else
          (.ok, { led with
            rows := Function.update led.rows i
              (some { row with burnsUsed := row.burnsUsed + 1, lastBurnMono := now }) })
    | st => (st, led)

/-! ### The intent -/

/-- Forgets the intent. -/
def intentClearPending (led : Ledger) : Ledger :=
  { led with intentState := .idle, intentId := .zero, partialAckDue := 0, ackIntentRetryAt := 0 }

/-- Gives the intent up and forgets it. -/
def intentClearDrop (led : Ledger) : Ledger := { intentClearPending led with intentState := .drop }

/-- The states between taking the control reserve and giving it back. -/
def IntentState.holdsReserve : IntentState → Bool
  | .reserve | .burn | .burnCu | .sealing | .link => true
  | _ => false

/-- Gives the reserve back in the states that hold it. -/
def releaseHeld (led : Ledger) : Ledger :=
  if led.intentState.holdsReserve then reserveRelease led else led

/-- Arms an intent for an identity, due after the idle time. -/
def armPending (led : Ledger) (id : Identity) (now ownerDeadlineMono : UInt64) :
    Status × Ledger :=
  if !idValid id then (.invalid, led)
  else if clockMax - partialAckIdleMs < now then (.resource, intentClearDrop led)
  else
    let due := now + partialAckIdleMs
    let due := if ownerDeadlineMono != 0 && ownerDeadlineMono < due then ownerDeadlineMono else due
    (.ok, { led with
      intentId := id, partialAckDue := due, ackIntentRetryAt := 0, intentState := .pending })

/-- Lets time pass: PENDING and RETRY become DUE, and everything ends with the owner. -/
def intentTick (led : Ledger) (now : UInt64) : Status × Ledger :=
  let led := ledgerTick led now
  if led.intentState == .idle || led.intentState == .acked || led.intentState == .drop then
    (.ok, led)
  else if led.ownerGone now then
    let led := if 0 < led.controlReserveHeld && led.intentState.holdsReserve then
      reserveRelease led else led
    (.expired, intentClearDrop led)
  else
    let led := if led.intentState == .pending && led.partialAckDue ≤ now then
      { led with intentState := .due } else led
    let led := if led.intentState == .retry && led.ackIntentRetryAt ≤ now then
      { led with intentState := .due } else led
    (.ok, led)

/-- DUE takes a control reserve. -/
def enterReserve (led : Ledger) : Status × Ledger :=
  if led.intentState != .due then (.invalid, led)
  else
    match reserveAcquire led with
    | (.ok, led) => (.ok, { led with intentState := .reserve })
    | (st, led) => (st, intentClearDrop led)

/-- The burn is durable: it is charged. -/
def afterBurnOk (led : Ledger) (now : UInt64) : Status × Ledger :=
  if led.intentState != .reserve && led.intentState != .burn then (.invalid, led)
  else
    match chargeBurn led led.intentId now with
    | (.ok, led) => (.ok, { led with intentState := .sealing })
    | (st, led) => (st, intentClearDrop (reserveRelease led))

/-- The sealed acknowledgement goes to the link. -/
def enterLink (led : Ledger) : Status × Ledger :=
  if led.intentState != .sealing then (.invalid, led)
  else (.ok, { led with intentState := .link })

/-- The hop has acknowledged. -/
def markAcked (led : Ledger) : Status × Ledger :=
  (.ok, { releaseHeld led with intentState := .acked, partialAckDue := 0, ackIntentRetryAt := 0 })

/-- The intent is given up. -/
def markDrop (led : Ledger) : Status × Ledger :=
  (.ok, { releaseHeld led with intentState := .drop, partialAckDue := 0, ackIntentRetryAt := 0 })

/-- After a failed seal or link: waits for another burn, or gives up. -/
def retryOrDrop (led : Ledger) (now : UInt64) : Status × Ledger :=
  let led := if led.intentState == .reserve || led.intentState == .sealing ||
    led.intentState == .link then reserveRelease led else led
  if semanticMax ≤ burnsUsed led led.intentId || mayBurn led led.intentId now != .ok then
    (.resource, { led with intentState := .drop, partialAckDue := 0, ackIntentRetryAt := 0 })
  else if clockMax - retryIntervalMs < now then
    (.resource, { led with intentState := .drop })
  else
    (.ok, { led with ackIntentRetryAt := now + retryIntervalMs, intentState := .retry })

end Ninlil.AckIntent
