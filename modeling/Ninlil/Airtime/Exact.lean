import Ninlil.Airtime.Calculator
import Ninlil.Lib.Ceiling

/-!
# The airtime is exact

The airtime of a packet, computed on rational numbers from its fields alone, against what the call
returns.

* `FieldsOk`: the fields that are accepted;
* `symbolCount`, `exactAirtime`: the airtime, with a rational ceiling in each;
* `airtimeLora_eq`: on accepted fields every step fits its type, and only the last bound can fail;
* `airtime_exact`: the call on every input.
-/

namespace Ninlil.Airtime

open Guard Ceiling

/-! ### The airtime on rational numbers -/

/-- The fields that are accepted. -/
structure FieldsOk (input : AirtimeInput) : Prop where
  reserved : input.reservedZero = 0
  sf : 5 ≤ input.sf ∧ input.sf ≤ 12
  cr : 1 ≤ input.cr ∧ input.cr ≤ 4
  header : input.headerImplicit = 0 ∨ input.headerImplicit = 1
  crc : input.crcOn = 0 ∨ input.crcOn = 1
  preamble : 6 ≤ input.preambleLenSymbols
  bandwidth : input.bwHz ∈ bwHzTable
  ldro : input.ldro = 0 ∨ input.ldro = 1 ∨ input.ldro = 2

/-- The time of a symbol, in milliseconds. -/
def symbolTime (input : AirtimeInput) : ℚ := 1000 * 2 ^ input.sf.toNat / input.bwHz.toNat

/-- The rate is optimised when asked for, or, left to the code, from `16.38` milliseconds on. -/
def Optimised (input : AirtimeInput) : Prop :=
  input.ldro = 1 ∨ input.ldro = 2 ∧ 1638 / 100 ≤ symbolTime input

instance (input : AirtimeInput) : Decidable (Optimised input) := by
  unfold Optimised
  infer_instance

/-- Bits of the payload over what the first symbols carry; it can be negative. -/
def exactNumerator (input : AirtimeInput) : ℤ :=
  8 * input.payloadLenBytes.toNat + (if input.crcOn = 0 then 0 else 16) - 4 * input.sf.toNat
    + (if input.headerImplicit = 0 then 20 else 0) + (if input.sf ≤ 6 then 0 else 8)

/-- Bits of a block of symbols. -/
def exactDenominator (input : AirtimeInput) : ℤ :=
  4 * (input.sf.toNat - if 7 ≤ input.sf ∧ Optimised input then 2 else 0)

/-- The blocks of symbols of the payload. -/
def blockCount (input : AirtimeInput) : ℕ :=
  ⌈(exactNumerator input : ℚ) / exactDenominator input⌉₊

/-- The symbols of the packet, all but the quarter symbol of the preamble. -/
def symbolCount (input : AirtimeInput) : ℕ :=
  blockCount input * (input.cr.toNat + 4) + input.preambleLenSymbols.toNat + 12
    + if input.sf ≤ 6 then 2 else 0

/-- The airtime in microseconds, rounded up. -/
def exactAirtime (input : AirtimeInput) : ℕ :=
  ⌈(10 ^ 6 * 2 ^ (input.sf.toNat - 2) * (4 * symbolCount input + 1) : ℚ) / input.bwHz.toNat⌉₊

/-- The numerator of the airtime, in quarter symbols of the base rate. -/
def exactToaNumerator (input : AirtimeInput) : ℕ :=
  (4 * symbolCount input + 1) * 2 ^ (input.sf.toNat - 2)

/-- The result of a packet whose airtime fits. -/
def exactResult (input : AirtimeInput) : AirtimeResult where
  airtimeUs := UInt32.ofNat (exactAirtime input)
  nPayloadSymbols := UInt32.ofNat (8 + blockCount input * (input.cr.toNat + 4))
  tsymUsCeil := UInt32.ofNat ⌈(10 ^ 6 * 2 ^ input.sf.toNat : ℚ) / input.bwHz.toNat⌉₊
  toaNumeratorLo := UInt32.ofNat (exactToaNumerator input % 2 ^ 32)
  toaNumeratorHi := UInt32.ofNat (exactToaNumerator input / 2 ^ 32)
  ldroEffective := if Optimised input then 1 else 0

/-- Two packets of one modulation, the second no shorter in any field that counts symbols. -/
structure NoShorter (input other : AirtimeInput) : Prop where
  sf : input.sf = other.sf
  header : input.headerImplicit = other.headerImplicit
  crc : input.crcOn = other.crcOn
  ldro : input.ldro = other.ldro
  bandwidth : input.bwHz = other.bwHz
  payload : input.payloadLenBytes ≤ other.payloadLenBytes
  preamble : input.preambleLenSymbols ≤ other.preambleLenSymbols
  cr : input.cr ≤ other.cr

theorem bwIsClosed_iff {bwHz : UInt32} : bwIsClosed bwHz ↔ bwHz ∈ bwHzTable :=
  List.contains_iff_mem

/-! ### What the fields bound -/

section Bounds

variable {input : AirtimeInput} (h : FieldsOk input)

include h

theorem FieldsOk.sf_toNat : 5 ≤ input.sf.toNat ∧ input.sf.toNat ≤ 12 :=
  ⟨UInt8.le_iff_toNat_le.1 h.sf.1, UInt8.le_iff_toNat_le.1 h.sf.2⟩

theorem FieldsOk.cr_toNat : 1 ≤ input.cr.toNat ∧ input.cr.toNat ≤ 4 :=
  ⟨UInt8.le_iff_toNat_le.1 h.cr.1, UInt8.le_iff_toNat_le.1 h.cr.2⟩

/-- The bandwidths are between `7812` and `500000` hertz. -/
theorem FieldsOk.bandwidth_toNat : 7812 ≤ input.bwHz.toNat ∧ input.bwHz.toNat ≤ 500000 := by
  have hall : ∀ bwHz ∈ bwHzTable, 7812 ≤ bwHz.toNat ∧ bwHz.toNat ≤ 500000 := by
    simp [bwHzTable]
  exact hall input.bwHz h.bandwidth

theorem FieldsOk.exactDenominator_bounds :
    12 ≤ exactDenominator input ∧ exactDenominator input ≤ 48 := by
  obtain ⟨hlow, hhigh⟩ := h.sf_toNat
  unfold exactDenominator
  split_ifs <;> omega

theorem FieldsOk.exactNumerator_bounds :
    -48 ≤ exactNumerator input ∧ exactNumerator input ≤ 2084 := by
  obtain ⟨hlow, hhigh⟩ := h.sf_toNat
  have hpl := input.payloadLenBytes.toNat_lt
  unfold exactNumerator
  split_ifs <;> omega

/-- At most as many blocks as bits. -/
theorem FieldsOk.blockCount_le : blockCount input ≤ 2084 := by
  obtain ⟨-, hnum⟩ := h.exactNumerator_bounds
  obtain ⟨hden, -⟩ := h.exactDenominator_bounds
  have hden' : (1 : ℚ) ≤ exactDenominator input := by exact_mod_cast (by omega)
  rw [blockCount, Nat.ceil_le]
  refine (div_le_iff₀ (by linarith)).2 ?_
  calc (exactNumerator input : ℚ) ≤ (2084 : ℕ) := by exact_mod_cast hnum
    _ ≤ (2084 : ℕ) * exactDenominator input := le_mul_of_one_le_right (by norm_num) hden'

theorem FieldsOk.symbolCount_le : symbolCount input ≤ 82223 := by
  have hblocks := h.blockCount_le
  obtain ⟨-, hcr⟩ := h.cr_toNat
  have hpre := input.preambleLenSymbols.toNat_lt
  have hcoded : blockCount input * (input.cr.toNat + 4) ≤ 2084 * 8 :=
    Nat.mul_le_mul hblocks (by omega)
  unfold symbolCount
  split_ifs <;> omega

theorem FieldsOk.exactToaNumerator_le : exactToaNumerator input ≤ 328893 * 2 ^ 10 := by
  obtain ⟨hlow, hhigh⟩ := h.sf_toNat
  have hsymbols := h.symbolCount_le
  exact Nat.mul_le_mul (by omega) (Nat.pow_le_pow_right (by omega) (by omega))

end Bounds

/-! ### The steps of the call -/

section Steps

variable {sf bw ldro : ℕ}

theorem resolveDe_eq (hsf : sf ≤ 12) (hbw : bw ≤ 500000) (hldro : ldro ≤ 2) :
    resolveDe sf bw ldro =
      .ok (if ldro = 1 ∨ ldro = 2 ∧ bw * 1638 ≤ 2 ^ sf * 100000 then 1 else 0) := by
  have hshift : 2 ^ sf ≤ 2 ^ 12 := Nat.pow_le_pow_right (by omega) hsf
  have hauto : ldroAutoDe sf bw = .ok (if bw * 1638 ≤ 2 ^ sf * 100000 then 1 else 0) := by
    unfold ldroAutoDe
    rw [uint64_eq (by omega), ok_bind, uint64_eq (by omega), ok_bind, uint64_eq (by omega), ok_bind]
    rfl
  unfold resolveDe
  rcases (by omega : ldro = 0 ∨ ldro = 1 ∨ ldro = 2) with rfl | rfl | rfl
  · simp
  · simp
  · simp [hauto]

theorem ceilNumerator_eq {pl crcOn headerImplicit : ℕ} (hsf : sf ≤ 12) (hpl : pl < 256) :
    ceilNumerator sf pl crcOn headerImplicit =
      .ok (8 * pl + (if crcOn = 0 then 0 else 16) - 4 * sf
        + (if headerImplicit = 0 then 20 else 0) + (if sf ≤ 6 then 0 else 8)) := by
  have hvalue : (pl * 8 : ℤ) + (if crcOn ≠ 0 then 16 else 0) - 4 * sf
      + (if headerImplicit ≠ 0 then 0 else 20) =
      8 * pl + (if crcOn = 0 then 0 else 16) - 4 * sf + (if headerImplicit = 0 then 20 else 0) := by
    split_ifs <;> omega
  unfold ceilNumerator
  rw [int32_eq (by omega) (by omega), ok_bind,
    int32_eq (by split_ifs <;> omega) (by split_ifs <;> omega), ok_bind,
    int32_eq (by omega) (by omega), ok_bind,
    int32_eq (by split_ifs <;> omega) (by split_ifs <;> omega), ok_bind,
    int32_eq (by split_ifs <;> omega) (by split_ifs <;> omega), ok_bind, hvalue]
  by_cases hlow : sf ≤ 6
  · simp only [if_pos hlow, add_zero]
    rfl
  · simp only [if_neg hlow]
    exact int32_eq (by split_ifs <;> omega) (by split_ifs <;> omega)

theorem ceilDenominator_eq {de : ℕ} (hsf : sf ≤ 12) (hlow : 5 ≤ sf) :
    ceilDenominator sf de = .ok (4 * (sf - if 7 ≤ sf ∧ de ≠ 0 then 2 else 0)) := by
  unfold ceilDenominator
  by_cases hsix : sf ≤ 6
  · rw [if_pos hsix, if_neg (by omega), int32_eq (by omega) (by omega), sub_zero]
  · by_cases hde : de = 0
    · simp only [if_neg hsix, hde, ne_eq, not_true, and_false, if_false, sub_zero]
      exact int32_eq (by omega) (by omega)
    · rw [if_neg hsix, if_pos hde, if_pos ⟨by omega, hde⟩, int32_eq (by omega) (by omega), ok_bind]
      exact int32_eq (by omega) (by omega)

theorem airtimeUsFromNumerator_eq {numerator : ℕ} (hsf : sf ≤ 12) (hbw : 7812 ≤ bw)
    (hnum : numerator ≤ 2 ^ 30) :
    airtimeUsFromNumerator numerator sf bw =
      if ⌈((numerator * 1000000 : ℕ) : ℚ) / bw⌉₊ ≤ 2 ^ 32 - 1 then
        .ok (⌈((numerator * 1000000 : ℕ) : ℚ) / bw⌉₊, ⌈((2 ^ sf * 1000000 : ℕ) : ℚ) / bw⌉₊)
      else .error (.status .overflow) := by
  have hpos : 0 < bw := by omega
  have hshift : 2 ^ sf ≤ 2 ^ 12 := Nat.pow_le_pow_right (by omega) hsf
  have htsym : 2 ^ sf * 1000000 / bw + (if 2 ^ sf * 1000000 % bw ≠ 0 then 1 else 0)
      ≤ 2 ^ 32 - 1 := by
    have hdiv := Nat.div_le_self (2 ^ sf * 1000000) bw
    split_ifs <;> omega
  rw [natCeil_div_eq_ite _ hpos, natCeil_div_eq_ite _ hpos]
  unfold airtimeUsFromNumerator
  rw [require_bind (by omega), mulU64_eq (by omega), ok_bind,
    ceilDivU64_eq hpos (by omega), ok_bind]
  by_cases hfits : numerator * 1000000 / bw + (if numerator * 1000000 % bw ≠ 0 then 1 else 0)
      ≤ 2 ^ 32 - 1
  · rw [require_bind hfits, uint64_eq (by omega), ok_bind, mulU64_eq (by omega), ok_bind,
      ceilDivU64_eq hpos (by omega), ok_bind, require_bind htsym, if_pos hfits]
    rfl
  · rw [require_bind_not hfits, if_neg hfits]

end Steps

/-! ### The call on accepted fields -/

section Accepted

variable {input : AirtimeInput} (h : FieldsOk input)

include h

/-- The check of the code, on integers. -/
theorem FieldsOk.optimised_iff :
    Optimised input ↔ input.ldro.toNat = 1 ∨
      input.ldro.toNat = 2 ∧ input.bwHz.toNat * 1638 ≤ 2 ^ input.sf.toNat * 100000 := by
  obtain ⟨hbw, -⟩ := h.bandwidth_toNat
  have hbw' : (0 : ℚ) < input.bwHz.toNat := by exact_mod_cast (by omega)
  have htime : 1638 / 100 ≤ symbolTime input ↔
      input.bwHz.toNat * 1638 ≤ 2 ^ input.sf.toNat * 100000 := by
    rw [symbolTime, le_div_iff₀ hbw', ← @Nat.cast_le ℚ]
    push_cast
    constructor
    · intro hle
      linarith
    · intro hle
      linarith
  rw [Optimised, htime, ← UInt8.toNat_inj, ← UInt8.toNat_inj]
  rfl

/-- The numerator and the symbols of the payload, without an overflow. -/
theorem FieldsOk.driverToaNumerator_eq {de : ℕ} (hde : de ≠ 0 ↔ Optimised input) :
    driverToaNumerator input.sf.toNat input.payloadLenBytes.toNat input.crcOn.toNat
        input.headerImplicit.toNat de input.cr.toNat input.preambleLenSymbols.toNat =
      .ok (exactToaNumerator input, 8 + blockCount input * (input.cr.toNat + 4)) := by
  obtain ⟨hlow, hhigh⟩ := h.sf_toNat
  obtain ⟨hcr, hcr'⟩ := h.cr_toNat
  obtain ⟨hden, hden'⟩ := h.exactDenominator_bounds
  obtain ⟨hnum, hnum'⟩ := h.exactNumerator_bounds
  have hblocks := h.blockCount_le
  have hsymbols := h.symbolCount_le
  have hpre := input.preambleLenSymbols.toNat_lt
  have hcoded : blockCount input * (input.cr.toNat + 4) ≤ 2084 * 8 :=
    Nat.mul_le_mul hblocks (by omega)
  have hterm : ((if exactNumerator input < 0 then 0 else exactNumerator input)
      + exactDenominator input - 1).tdiv (exactDenominator input) = blockCount input := by
    rw [blockCount, natCeil_div_eq_tdiv _ (by omega)]
  have hnumerator : ceilNumerator input.sf.toNat input.payloadLenBytes.toNat input.crcOn.toNat
      input.headerImplicit.toNat = .ok (exactNumerator input) := by
    rw [ceilNumerator_eq hhigh input.payloadLenBytes.toNat_lt, exactNumerator]
    simp only [← UInt8.toNat_inj, UInt8.le_iff_toNat_le]
    rfl
  have hdenominator : ceilDenominator input.sf.toNat de = .ok (exactDenominator input) := by
    rw [ceilDenominator_eq hhigh hlow, exactDenominator]
    simp only [hde, UInt8.le_iff_toNat_le]
    rfl
  unfold driverToaNumerator
  rw [int32_eq (by omega) (by omega), ok_bind, hnumerator, ok_bind, hdenominator, ok_bind,
    require_bind (by omega)]
  simp only
  rw [int32_eq (by split_ifs <;> omega) (by split_ifs <;> omega), ok_bind,
    int32_eq (by split_ifs <;> omega) (by split_ifs <;> omega), ok_bind]
  simp only [hterm]
  have hcast : (blockCount input : ℤ) * (input.cr.toNat + 4)
      = (blockCount input * (input.cr.toNat + 4) : ℕ) := by
    push_cast
    rfl
  have hsum : (blockCount input * (input.cr.toNat + 4) : ℕ) + (input.preambleLenSymbols.toNat : ℤ)
      + 12 + (if input.sf.toNat ≤ 6 then 2 else 0) = symbolCount input := by
    simp only [symbolCount, UInt8.le_iff_toNat_le]
    push_cast
    rfl
  have hshift : 2 ^ (input.sf.toNat - 2) ≤ 2 ^ 10 := Nat.pow_le_pow_right (by omega) (by omega)
  have hproduct : (symbolCount input * 4 + 1) * 2 ^ (input.sf.toNat - 2)
      = exactToaNumerator input := by
    rw [exactToaNumerator, Nat.mul_comm 4]
  have hproduct_le := h.exactToaNumerator_le
  rw [require_bind (by omega), hcast, int64_eq (by omega) (by omega), ok_bind,
    int64_eq (by omega) (by omega), ok_bind, require_bind (by omega),
    int32_eq (by omega) (by omega), ok_bind, int32_eq (by omega) (by omega), ok_bind,
    int32_eq (by omega) (by omega), ok_bind, hsum, int32_eq (by omega) (by omega), ok_bind,
    require_bind (by omega), require_bind (by omega), Int.toNat_natCast,
      mulU64_eq (by omega), ok_bind,
    addU64_eq (by omega), ok_bind, uint64_eq (by omega), ok_bind, mulU64_eq (by omega), ok_bind,
    hproduct]
  have hpay : (8 + ((blockCount input * (input.cr.toNat + 4) : ℕ) : ℤ)).toNat
      = 8 + blockCount input * (input.cr.toNat + 4) := by omega
  rw [hpay]
  rfl

/-- On accepted fields the call is the exact airtime, cut at the width of its result. -/
theorem FieldsOk.airtimeLora_eq :
    airtimeLora input = if exactAirtime input ≤ 2 ^ 32 - 1 then .ok (exactResult input)
      else .error (.status .overflow) := by
  obtain ⟨hlow, hhigh⟩ := h.sf_toNat
  obtain ⟨hbw, hbw'⟩ := h.bandwidth_toNat
  have hldro : input.ldro.toNat ≤ 2 := by
    rcases h.ldro with hldro | hldro | hldro <;> rw [hldro] <;> decide
  have hproduct := h.exactToaNumerator_le
  have hair : ⌈((exactToaNumerator input * 1000000 : ℕ) : ℚ) / input.bwHz.toNat⌉₊
      = exactAirtime input := by
    rw [exactAirtime, exactToaNumerator]
    congr 2
    push_cast
    ring
  have htsym : ⌈((2 ^ input.sf.toNat * 1000000 : ℕ) : ℚ) / input.bwHz.toNat⌉₊
      = ⌈(10 ^ 6 * 2 ^ input.sf.toNat : ℚ) / input.bwHz.toNat⌉₊ := by
    congr 2
    push_cast
    ring
  have hde : (if input.ldro.toNat = 1 ∨ input.ldro.toNat = 2 ∧
      input.bwHz.toNat * 1638 ≤ 2 ^ input.sf.toNat * 100000 then 1 else 0)
      = if Optimised input then 1 else 0 := if_congr h.optimised_iff.symm rfl rfl
  unfold airtimeLora
  rw [require_bind h.reserved, require_bind h.sf, require_bind h.cr, require_bind h.header,
    require_bind h.crc, require_bind h.preamble, require_bind (bwIsClosed_iff.2 h.bandwidth),
    resolveDe_eq hhigh hbw' hldro, ok_bind, hde, h.driverToaNumerator_eq (by simp), ok_bind]
  simp only
  rw [airtimeUsFromNumerator_eq hhigh hbw (by omega), hair, htsym]
  by_cases hfits : exactAirtime input ≤ 2 ^ 32 - 1
  · rw [if_pos hfits, if_pos hfits, ok_bind]
    simp only [exactResult, apply_ite UInt8.ofNat]
    rfl
  · rw [if_neg hfits, if_neg hfits]
    rfl

end Accepted

/-! ### The call on every input -/

section Call

variable {input : AirtimeInput}

/-- A field that is not accepted ends the call with its status. -/
theorem airtimeLora_of_not_fieldsOk (h : ¬ FieldsOk input) :
    ∃ status, status ≠ .ok ∧ airtimeLora input = .error (.status status) := by
  unfold airtimeLora
  by_cases hreserved : input.reservedZero = 0
  swap
  · exact ⟨.struct, by decide, require_bind_not hreserved _ _⟩
  rw [require_bind hreserved]
  by_cases hsf : 5 ≤ input.sf ∧ input.sf ≤ 12
  swap
  · exact ⟨.invalidArgument, by decide, require_bind_not hsf _ _⟩
  rw [require_bind hsf]
  by_cases hcr : 1 ≤ input.cr ∧ input.cr ≤ 4
  swap
  · exact ⟨.invalidArgument, by decide, require_bind_not hcr _ _⟩
  rw [require_bind hcr]
  by_cases hheader : input.headerImplicit = 0 ∨ input.headerImplicit = 1
  swap
  · exact ⟨.invalidArgument, by decide, require_bind_not hheader _ _⟩
  rw [require_bind hheader]
  by_cases hcrc : input.crcOn = 0 ∨ input.crcOn = 1
  swap
  · exact ⟨.invalidArgument, by decide, require_bind_not hcrc _ _⟩
  rw [require_bind hcrc]
  by_cases hpreamble : 6 ≤ input.preambleLenSymbols
  swap
  · exact ⟨.invalidArgument, by decide, require_bind_not hpreamble _ _⟩
  rw [require_bind hpreamble]
  by_cases hbw : bwIsClosed input.bwHz
  swap
  · exact ⟨.unsupported, by decide, require_bind_not hbw _ _⟩
  rw [require_bind hbw]
  have hldro : ¬ (input.ldro = 0 ∨ input.ldro = 1 ∨ input.ldro = 2) := fun hldro =>
    h ⟨hreserved, hsf, hcr, hheader, hcrc, hpreamble, bwIsClosed_iff.1 hbw, hldro⟩
  simp only [not_or, ← UInt8.toNat_inj] at hldro
  obtain ⟨hoff, hon, hauto⟩ := hldro
  change ¬ input.ldro.toNat = 0 at hoff
  change ¬ input.ldro.toNat = 1 at hon
  change ¬ input.ldro.toNat = 2 at hauto
  refine ⟨.invalidArgument, by decide, ?_⟩
  rw [resolveDe, if_neg hoff, if_neg hon, if_neg hauto]
  rfl

/-- **The four outcomes of a call.** -/
theorem airtimeLoraUs_cases (input : AirtimeInput) :
    (FieldsOk input ∧ exactAirtime input ≤ 2 ^ 32 - 1 ∧
      airtimeLoraUs input = .returned .ok (exactResult input)) ∨
    (FieldsOk input ∧ 2 ^ 32 - 1 < exactAirtime input ∧
      airtimeLoraUs input = .returned .overflow .zero) ∨
    (¬ FieldsOk input ∧ ∃ status, status ≠ .ok ∧
      airtimeLoraUs input = .returned status .zero) := by
  by_cases hfields : FieldsOk input
  · have heq := hfields.airtimeLora_eq
    by_cases hfits : exactAirtime input ≤ 2 ^ 32 - 1
    · refine .inl ⟨hfields, hfits, ?_⟩
      rw [airtimeLoraUs, heq, if_pos hfits]
    · refine .inr (.inl ⟨hfields, Nat.lt_of_not_le hfits, ?_⟩)
      rw [airtimeLoraUs, heq, if_neg hfits]
  · obtain ⟨status, hne, heq⟩ := airtimeLora_of_not_fieldsOk hfields
    refine .inr (.inr ⟨hfields, status, hne, ?_⟩)
    rw [airtimeLoraUs, heq]

/-! ### Longer packets -/

theorem NoShorter.optimised_iff {other : AirtimeInput} (h : NoShorter input other) :
    Optimised input ↔ Optimised other := by
  rw [Optimised, Optimised, symbolTime, symbolTime, h.ldro, h.sf, h.bandwidth]

/-- No field that counts symbols makes a packet shorter. -/
theorem NoShorter.exactAirtime_le {other : AirtimeInput} (h : NoShorter input other)
    (hfields : FieldsOk input) : exactAirtime input ≤ exactAirtime other := by
  have hpayload := UInt8.le_iff_toNat_le.1 h.payload
  have hpreamble := UInt16.le_iff_toNat_le.1 h.preamble
  have hcr := UInt8.le_iff_toNat_le.1 h.cr
  have hden : exactDenominator input = exactDenominator other := by
    rw [exactDenominator, exactDenominator, h.sf]
    simp only [h.optimised_iff]
  have hnum : exactNumerator input ≤ exactNumerator other := by
    rw [exactNumerator, exactNumerator, h.crc, h.sf, h.header]
    omega
  have hpos : (0 : ℚ) ≤ exactDenominator input := by
    have hbounds := hfields.exactDenominator_bounds
    exact_mod_cast (by omega)
  have hblocks : blockCount input ≤ blockCount other := by
    rw [blockCount, blockCount, ← hden]
    refine Nat.ceil_mono (div_le_div_of_nonneg_right ?_ hpos)
    exact_mod_cast hnum
  have hsymbols : symbolCount input ≤ symbolCount other := by
    have hcoded : blockCount input * (input.cr.toNat + 4) ≤
      blockCount other * (other.cr.toNat + 4) :=
      Nat.mul_le_mul hblocks (by omega)
    rw [symbolCount, symbolCount, h.sf]
    omega
  rw [exactAirtime, exactAirtime, h.sf, h.bandwidth]
  refine Nat.ceil_mono (div_le_div_of_nonneg_right ?_ (Nat.cast_nonneg _))
  refine mul_le_mul_of_nonneg_left ?_ (by positivity)
  exact_mod_cast (by omega)

/-! ### The airtime of every input -/

theorem airtimeUs_exactResult (hfits : exactAirtime input ≤ 2 ^ 32 - 1) :
    (exactResult input).airtimeUs.toNat = exactAirtime input :=
  UInt32.toNat_ofNat_of_lt' (by
    rw [UInt32.size]
    omega)

/-- A call that returns a packet's airtime returns the exact one. -/
theorem airtimeLoraUs_eq_ok_iff {result : AirtimeResult} :
    airtimeLoraUs input = .returned .ok result ↔
      FieldsOk input ∧ exactAirtime input ≤ 2 ^ 32 - 1 ∧ result = exactResult input := by
  rcases airtimeLoraUs_cases input with ⟨hfields, hfits, heq⟩ | ⟨hfields, hover, heq⟩ |
    ⟨hfields, status, hne, heq⟩
  · rw [heq, Outcome.returned.injEq]
    exact ⟨fun h => ⟨hfields, hfits, h.2.symm⟩, fun h => ⟨rfl, h.2.2.symm⟩⟩
  · rw [heq, Outcome.returned.injEq]
    exact ⟨fun h => absurd h.1 (by decide), fun h => absurd h.2.1 (Nat.not_le.2 hover)⟩
  · rw [heq, Outcome.returned.injEq]
    exact ⟨fun h => absurd h.1 hne, fun h => absurd h.1 hfields⟩

/-- **The airtime of a packet.** On every input no step overflows its type; the call returns an
airtime iff the fields are accepted and the exact airtime fits, and then it is the exact one; if
only the bound fails the status is `overflow` and the result is cleared; and a packet that is no
shorter in any field that counts symbols has no smaller airtime. -/
theorem airtime_exact (input : AirtimeInput) :
    airtimeLoraUs input ≠ .overflowed ∧
    ((∃ result, airtimeLoraUs input = .returned .ok result) ↔
      FieldsOk input ∧ exactAirtime input ≤ 2 ^ 32 - 1) ∧
    (∀ result, airtimeLoraUs input = .returned .ok result →
      result.airtimeUs.toNat = exactAirtime input) ∧
    (FieldsOk input → 2 ^ 32 - 1 < exactAirtime input →
      airtimeLoraUs input = .returned .overflow .zero) ∧
    ∀ other result result', NoShorter input other →
      airtimeLoraUs input = .returned .ok result → airtimeLoraUs other = .returned .ok result' →
        result.airtimeUs ≤ result'.airtimeUs := by
  refine ⟨?_, ?_, ?_, ?_, ?_⟩
  · intro h
    rcases airtimeLoraUs_cases input with ⟨-, -, heq⟩ | ⟨-, -, heq⟩ | ⟨-, status, -, heq⟩
    · exact absurd (heq.symm.trans h) nofun
    · exact absurd (heq.symm.trans h) nofun
    · exact absurd (heq.symm.trans h) nofun
  · constructor
    · rintro ⟨result, h⟩
      obtain ⟨hfields, hfits, -⟩ := airtimeLoraUs_eq_ok_iff.1 h
      exact ⟨hfields, hfits⟩
    · rintro ⟨hfields, hfits⟩
      exact ⟨exactResult input, airtimeLoraUs_eq_ok_iff.2 ⟨hfields, hfits, rfl⟩⟩
  · intro result h
    obtain ⟨-, hfits, rfl⟩ := airtimeLoraUs_eq_ok_iff.1 h
    exact airtimeUs_exactResult hfits
  · intro hfields hover
    rcases airtimeLoraUs_cases input with ⟨-, hfits, -⟩ | ⟨-, -, heq⟩ | ⟨hnot, -⟩
    · exact absurd hfits (Nat.not_le.2 hover)
    · exact heq
    · exact absurd hfields hnot
  · intro other result result' hlonger h h'
    obtain ⟨hfields, hfits, rfl⟩ := airtimeLoraUs_eq_ok_iff.1 h
    obtain ⟨-, hfits', rfl⟩ := airtimeLoraUs_eq_ok_iff.1 h'
    rw [UInt32.le_iff_toNat_le, airtimeUs_exactResult hfits, airtimeUs_exactResult hfits']
    exact hlonger.exactAirtime_le hfields

end Call

end Ninlil.Airtime
