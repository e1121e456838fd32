import Ninlil.Lib.Guard

/-!
# The airtime of a LoRa packet

`airtime_calculator.c`: how long a packet is on the air, in whole microseconds.

* `int32`, `int64`, `uint64`: results that have to fit their type; a step that does not fit stops
  the calculation with `Stop.overflow`, which is no status of the code;
* `mulU64`, `addU64`, `ceilDivU64`: the checked steps of the code;
* `driverToaNumerator`, `airtimeUsFromNumerator`: the numerator and the airtime;
* `airtimeLoraUs`: the call, with its checks and what it leaves in the result.
-/

namespace Ninlil.Airtime

open Guard

/-- `ninlil_airtime_status_t`. -/
inductive AirtimeStatus
  | ok
  | invalidArgument
  | unsupported
  | overflow
  | struct
  deriving DecidableEq

/-- Why a calculation stops: with a status, or at a step whose result does not fit its type. -/
inductive Stop
  | status (status : AirtimeStatus)
  | overflow
  deriving DecidableEq

/-! ### Steps -/

/-- A step in `int32_t`. -/
def int32 (x : ℤ) : Except Stop ℤ :=
  if -2147483648 ≤ x ∧ x ≤ 2147483647 then .ok x else .error .overflow

/-- A step in `int64_t`. -/
def int64 (x : ℤ) : Except Stop ℤ :=
  if -9223372036854775808 ≤ x ∧ x ≤ 9223372036854775807 then .ok x else .error .overflow

/-- A step in `uint64_t`. -/
def uint64 (n : ℕ) : Except Stop ℕ := if n < 2 ^ 64 then .ok n else .error .overflow

/-- `mul_u64`, with the status that its callers leave with. -/
def mulU64 (a b : ℕ) : Except Stop ℕ :=
  if a = 0 ∨ b = 0 then .ok 0
  else if (2 ^ 64 - 1) / b < a then .error (.status .overflow)
  else uint64 (a * b)

/-- `add_u64`. -/
def addU64 (a b : ℕ) : Except Stop ℕ :=
  if 2 ^ 64 - 1 - b < a then .error (.status .overflow) else uint64 (a + b)

/-- `ceil_div_u64`. -/
def ceilDivU64 (a b : ℕ) : Except Stop ℕ :=
  if b = 0 then .error (.status .overflow) else uint64 (a / b + if a % b ≠ 0 then 1 else 0)

/-! ### The calculation -/

/-- `ldro_auto_de`. -/
def ldroAutoDe (sf bwHz : ℕ) : Except Stop ℕ := do
  let shift ← uint64 (2 ^ sf)
  let left ← uint64 (shift * 100000)
  let right ← uint64 (bwHz * 1638)
  return if right ≤ left then 1 else 0

/-- `resolve_de`. -/
def resolveDe (sf bwHz ldro : ℕ) : Except Stop ℕ :=
  if ldro = 0 then .ok 0
  else if ldro = 1 then .ok 1
  else if ldro = 2 then ldroAutoDe sf bwHz
  else .error (.status .invalidArgument)

/-- The numerator of the symbols of the payload. -/
def ceilNumerator (sf pl crcOn headerImplicit : ℕ) : Except Stop ℤ := do
  let bits ← int32 (pl * 8)
  let withCrc ← int32 (bits + if crcOn ≠ 0 then 16 else 0)
  let spread ← int32 (4 * sf)
  let less ← int32 (withCrc - spread)
  let withHeader ← int32 (less + if headerImplicit ≠ 0 then 0 else 20)
  if sf ≤ 6 then return withHeader else int32 (withHeader + 8)

/-- Its denominator; for the two lowest spreading factors the rate is not optimised. -/
def ceilDenominator (sf de : ℕ) : Except Stop ℤ := do
  if sf ≤ 6 then int32 (4 * sf)
  else if de ≠ 0 then
    let less ← int32 (sf - 2)
    int32 (4 * less)
  else int32 (4 * sf)

/-- `driver_toa_numerator_u64`: the numerator, and the symbols of the payload. -/
def driverToaNumerator (sf pl crcOn headerImplicit de cr preamble : ℕ) :
    Except Stop (ℕ × ℕ) := do
  let crDenom ← int32 (cr + 4)
  let numerator ← ceilNumerator sf pl crcOn headerImplicit
  let denominator ← ceilDenominator sf de
  require (0 < denominator) (.status .overflow)
  let numerator := if numerator < 0 then 0 else numerator
  let sum ← int32 (numerator + denominator)
  let less ← int32 (sum - 1)
  let term := less.tdiv denominator
  require (0 ≤ term) (.status .overflow)
  let coded ← int64 (term * crDenom)
  let pay ← int64 (8 + coded)
  require (0 ≤ pay ∧ pay ≤ 2 ^ 32 - 1) (.status .overflow)
  let symbols ← int32 (term * crDenom)
  let symbols ← int32 (symbols + preamble)
  let symbols ← int32 (symbols + 12)
  let symbols ← int32 (symbols + if sf ≤ 6 then 2 else 0)
  require (0 ≤ symbols) (.status .overflow)
  require (2 ≤ sf) (.status .invalidArgument)
  let fourI ← mulU64 symbols.toNat 4
  let fourI ← addU64 fourI 1
  let shift ← uint64 (2 ^ (sf - 2))
  let product ← mulU64 fourI shift
  return (product, pay.toNat)

/-- `airtime_us_from_numerator_u64`: the airtime, and the time of a symbol. -/
def airtimeUsFromNumerator (numerator sf bwHz : ℕ) : Except Stop (ℕ × ℕ) := do
  require (bwHz ≠ 0) (.status .invalidArgument)
  let scaled ← mulU64 numerator 1000000
  let q ← ceilDivU64 scaled bwHz
  require (q ≤ 2 ^ 32 - 1) (.status .overflow)
  let twoSf ← uint64 (2 ^ sf)
  let tsymNum ← mulU64 twoSf 1000000
  let tsym ← ceilDivU64 tsymNum bwHz
  require (tsym ≤ 2 ^ 32 - 1) (.status .overflow)
  return (q, tsym)

/-! ### The call -/

/-- `ninlil_airtime_lora_input_t`. -/
structure AirtimeInput where
  sf : UInt8
  cr : UInt8
  headerImplicit : UInt8
  crcOn : UInt8
  ldro : UInt8
  payloadLenBytes : UInt8
  preambleLenSymbols : UInt16
  bwHz : UInt32
  reservedZero : UInt32

/-- `ninlil_airtime_result_t`. -/
structure AirtimeResult where
  airtimeUs : UInt32
  nPayloadSymbols : UInt32
  tsymUsCeil : UInt32
  toaNumeratorLo : UInt32
  toaNumeratorHi : UInt32
  ldroEffective : UInt8
  deriving DecidableEq

/-- A result that was cleared. -/
def AirtimeResult.zero : AirtimeResult := ⟨0, 0, 0, 0, 0, 0⟩

/-- The closed set of bandwidths, `k_bw_hz`. -/
def bwHzTable : List UInt32 :=
  [7812, 10417, 15625, 20833, 31250, 41667, 62500, 125000, 250000, 500000]

def bwIsClosed (bwHz : UInt32) : Bool := bwHzTable.contains bwHz

/-- The body of `ninlil_airtime_lora_us`. -/
def airtimeLora (input : AirtimeInput) : Except Stop AirtimeResult := do
  require (input.reservedZero = 0) (.status .struct)
  require (5 ≤ input.sf ∧ input.sf ≤ 12) (.status .invalidArgument)
  require (1 ≤ input.cr ∧ input.cr ≤ 4) (.status .invalidArgument)
  require (input.headerImplicit = 0 ∨ input.headerImplicit = 1) (.status .invalidArgument)
  require (input.crcOn = 0 ∨ input.crcOn = 1) (.status .invalidArgument)
  require (6 ≤ input.preambleLenSymbols) (.status .invalidArgument)
  require (bwIsClosed input.bwHz) (.status .unsupported)
  let de ← resolveDe input.sf.toNat input.bwHz.toNat input.ldro.toNat
  let (num, nPay) ← driverToaNumerator input.sf.toNat input.payloadLenBytes.toNat
    input.crcOn.toNat input.headerImplicit.toNat de input.cr.toNat input.preambleLenSymbols.toNat
  let (airUs, tsymCeil) ← airtimeUsFromNumerator num input.sf.toNat input.bwHz.toNat
  return {
    airtimeUs := UInt32.ofNat airUs
    nPayloadSymbols := UInt32.ofNat nPay
    tsymUsCeil := UInt32.ofNat tsymCeil
    toaNumeratorLo := UInt32.ofNat (num % 2 ^ 32)
    toaNumeratorHi := UInt32.ofNat (num / 2 ^ 32)
    ldroEffective := UInt8.ofNat de }

/-- What a call ends with: a status and the result, or a step that did not fit. -/
inductive Outcome
  | returned (status : AirtimeStatus) (result : AirtimeResult)
  | overflowed
  deriving DecidableEq

/-- `ninlil_airtime_lora_us`; the result is cleared first, and filled in at the end only. -/
def airtimeLoraUs (input : AirtimeInput) : Outcome :=
  match airtimeLora input with
  | .ok result => .returned .ok result
  | .error (.status status) => .returned status .zero
  | .error .overflow => .overflowed

/-! ### Steps that fit -/

section Steps

variable {α β : Type} {x : ℤ} {a b : ℕ}

theorem ok_bind (v : α) (rest : α → Except Stop β) : (Except.ok v >>= rest) = rest v := rfl

theorem require_bind {c : Prop} [Decidable c] (h : c) (stop : Stop) (rest : Unit → Except Stop β) :
    (require c stop >>= rest) = rest () := by
  rw [require, if_pos h, ok_bind]

theorem require_bind_not {c : Prop} [Decidable c] (h : ¬ c) (stop : Stop)
    (rest : Unit → Except Stop β) : (require c stop >>= rest) = .error stop := by
  rw [require, if_neg h]
  rfl

theorem int32_eq (hlow : -2147483648 ≤ x) (hhigh : x ≤ 2147483647) : int32 x = .ok x :=
  if_pos ⟨hlow, hhigh⟩

/-- What fits the narrow type fits the wide one. -/
theorem int64_eq (hlow : -2147483648 ≤ x) (hhigh : x ≤ 2147483647) : int64 x = .ok x :=
  if_pos ⟨by omega, by omega⟩

theorem uint64_eq (h : a < 2 ^ 64) : uint64 a = .ok a := if_pos h

/-- A product that fits passes the check before it. -/
theorem mulU64_eq (h : a * b < 2 ^ 64) : mulU64 a b = .ok (a * b) := by
  unfold mulU64
  by_cases hzero : a = 0 ∨ b = 0
  · rw [if_pos hzero, mul_eq_zero.2 hzero]
  · obtain ⟨-, hb⟩ := not_or.1 hzero
    have hle : a ≤ (2 ^ 64 - 1) / b := by
      rw [Nat.le_div_iff_mul_le (Nat.pos_of_ne_zero hb)]
      omega
    rw [if_neg hzero, if_neg (Nat.not_lt.2 hle), uint64_eq h]

theorem addU64_eq (h : a + b < 2 ^ 64) : addU64 a b = .ok (a + b) := by
  unfold addU64
  rw [if_neg (by omega), uint64_eq h]

theorem ceilDivU64_eq (hb : 0 < b) (h : a < 2 ^ 64 - 1) :
    ceilDivU64 a b = .ok (a / b + if a % b ≠ 0 then 1 else 0) := by
  have hle := Nat.div_le_self a b
  unfold ceilDivU64
  rw [if_neg (Nat.pos_iff_ne_zero.1 hb), uint64_eq (by split_ifs <;> omega)]

end Steps

end Ninlil.Airtime
