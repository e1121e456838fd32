import Ninlil.Lib.Cursor

/-!
# The vocabulary of fragmented transfers

`r7_frag_profile.h`, `r7_frag.h` and `r7_frag_internal.h`: the constants of the wire profile, the
bodies of the three end-to-end messages, and the helpers every part of the engine shares.

* `Profile`: the two compile-time resource profiles;
* `Status`, `StartBody`, `ContBody`, `AckBody`;
* `checkedAddU64`, `contextOk`, `handleOk`, `fullBitmap`, `planValidate`;
* `Provider`, `startFingerprint`, `contentDigest`: what the engine asks of the hash;
* `storeU16Be` … `loadU64Be`: the big-endian fields of a snapshot.

Lengths, counts and fragment indices are numbers: every use of one is behind a check that keeps it
far below the width of its field.
-/

namespace Ninlil.R7Frag

open Bytes

/-! ### Constants -/

/-- `UINT64_MAX`. -/
def u64Max : UInt64 := 0xFFFFFFFFFFFFFFFF

/-- `NINLIL_R7_FRAG_CONT_UNIT`. -/
def contUnit : ℕ := 180
/-- `NINLIL_R7_FRAG_S_MAX`, with `NINLIL_R7_FRAG_S_MIN` equal to 1. -/
def sMax : ℕ := 126
/-- `NINLIL_R7_FRAG_C_MAX`, with `NINLIL_R7_FRAG_C_MIN` equal to 1. -/
def cMax : ℕ := 180
/-- `NINLIL_R7_FRAG_TOTAL_LEN_MAX`. -/
def totalLenMax : ℕ := 2048
/-- `NINLIL_R7_FRAG_COUNT_MIN`. -/
def countMin : ℕ := 2
/-- `NINLIL_R7_FRAG_COUNT_MAX`. -/
def countMax : ℕ := 13

/-- `NINLIL_R7_FRAG_STATUS_PARTIAL`. -/
def statusPartial : UInt8 := 0
/-- `NINLIL_R7_FRAG_STATUS_COMPLETE`. -/
def statusComplete : UInt8 := 1
/-- `NINLIL_R7_FRAG_STATUS_ABORT`. -/
def statusAbort : UInt8 := 2

/-- `NINLIL_R7_FRAG_REASON_NONE`. -/
def reasonNone : UInt8 := 0
/-- `NINLIL_R7_FRAG_REASON_CONFLICT`. -/
def reasonConflict : UInt8 := 1
/-- `NINLIL_R7_FRAG_REASON_DIGEST`. -/
def reasonDigest : UInt8 := 2
/-- `NINLIL_R7_FRAG_REASON_RESOURCE`. -/
def reasonResource : UInt8 := 3
/-- `NINLIL_R7_FRAG_REASON_TIMEOUT`. -/
def reasonTimeout : UInt8 := 4
/-- `NINLIL_R7_FRAG_REASON_FENCED`. -/
def reasonFenced : UInt8 := 5

/-- `NINLIL_R7_FRAG_RECEIVER_TTL_MS`. -/
def receiverTtlMs : UInt64 := 90000
/-- `NINLIL_R7_FRAG_IDLE_MS`. -/
def idleTimeoutMs : UInt64 := 20000
/-- `NINLIL_R7_FRAG_PARTIAL_ACK_IDLE_MS`. -/
def partialAckIdleMs : UInt64 := 2000
/-- `NINLIL_R7_FRAG_TOMBSTONE_TTL_MS`. -/
def tombstoneTtlMs : UInt64 := 90000

/-- The pins that differ between the two compile-time profiles. -/
structure Profile where
  /-- `NINLIL_R7_FRAG_REASM_SLOTS`. -/
  reasmSlots : ℕ
  /-- `NINLIL_R7_FRAG_PAYLOAD_BUDGET`. -/
  payloadBudget : ℕ
  /-- `NINLIL_R7_FRAG_MAX_PER_PEER`. -/
  maxPerPeer : ℕ

/-- The default profile. -/
def controllerProfile : Profile := ⟨16, 32768, 2⟩

/-- `NINLIL_R7_FRAG_PROFILE_ENDPOINT`. -/
def endpointProfile : Profile := ⟨2, 4096, 2⟩

/-! ### Statuses and messages -/

/-- `ninlil_r7_frag_status`. -/
inductive Status
  | ok
  | invalidArgument
  | structural
  | lengthClass
  | capacity
  | alias
  | authFailed
  | backendFailed
  | internalContract
  | replay
  | duplicate
  | conflict
  | resource
  | timeout
  | fenced
  | commitUnknown
  | noTransfer
  | exactRetry
  | published
  deriving DecidableEq

abbrev TransferId := Vector UInt8 16

abbrev Digest := Vector UInt8 32

/-- `ninlil_r7_frag_start_body`. -/
structure StartBody where
  transferId : TransferId
  transferHandle : UInt64
  totalLen : ℕ
  fragCount : ℕ
  continuationUnit : ℕ
  contentDigest : Digest

/-- `ninlil_r7_frag_cont_body`. -/
structure ContBody where
  transferHandle : UInt64
  fragIndex : ℕ

/-- `ninlil_r7_frag_ack_body`. -/
structure AckBody where
  transferHandle : UInt64
  fragCount : ℕ
  receivedBitmap : BitVec 16
  status : UInt8
  reason : UInt8
  deriving DecidableEq

/-- A zeroed body: no acknowledgement. -/
def AckBody.zero : AckBody := ⟨0, 0, 0, 0, 0⟩

/-! ### Shared helpers -/

/-- `ninlil_r7_frag_checked_add_u64`. -/
def checkedAddU64 (a b : UInt64) : Option UInt64 :=
  if a > u64Max - b then none else some (a + b)

/-- `ninlil_r7_frag_context_ok`. -/
def contextOk (id : UInt32) : Bool := id != 0 && id != 0xFFFFFFFF

/-- `ninlil_r7_frag_handle_ok`. -/
def handleOk (h : UInt64) : Bool := h != 0 && h != u64Max

/-- `ninlil_r7_frag_full_bitmap`. -/
def fullBitmap (fragCount : ℕ) : BitVec 16 :=
  if fragCount = 0 ∨ fragCount > 16 then 0 else BitVec.ofNat 16 (2 ^ fragCount - 1)

/-- `ninlil_r7_frag_plan_validate`. -/
def planValidate (totalLen firstChunkLen fragCount continuationUnit : ℕ) : Status :=
  if continuationUnit ≠ contUnit then .structural
  else if firstChunkLen < 1 ∨ firstChunkLen > sMax then .lengthClass
  else if totalLen ≤ firstChunkLen ∨ totalLen > totalLenMax then .lengthClass
  else if fragCount < countMin ∨ fragCount > countMax then .lengthClass
  else if fragCount ≠ 1 + (totalLen - firstChunkLen + contUnit - 1) / contUnit then .structural
  else .ok

/-- A sum that does not wrap is computed. -/
theorem checkedAddU64_eq_some {a b c : UInt64} :
    checkedAddU64 a b = some c ↔ a.toNat + b.toNat < 2 ^ 64 ∧ c.toNat = a.toNat + b.toNat := by
  have hb := b.toNat_lt
  have ha := a.toNat_lt
  have hmax : (u64Max - b).toNat = 2 ^ 64 - 1 - b.toNat := by
    rw [UInt64.toNat_sub_of_le]
    · rfl
    · rw [UInt64.le_iff_toNat_le]
      exact Nat.le_of_lt_succ hb
  have hgt : a > u64Max - b ↔ ¬ a.toNat + b.toNat < 2 ^ 64 := by
    rw [gt_iff_lt, UInt64.lt_iff_toNat_lt, hmax]
    omega
  unfold checkedAddU64
  by_cases h : a > u64Max - b
  · rw [if_pos h]
    constructor
    · rintro ⟨⟩
    · exact fun hc => absurd hc.1 (hgt.1 h)
  · have hlt : a.toNat + b.toNat < 2 ^ 64 := not_not.1 fun hn => h (hgt.2 hn)
    have hsum : (a + b).toNat = a.toNat + b.toNat := by
      rw [UInt64.toNat_add, Nat.mod_eq_of_lt hlt]
    rw [if_neg h, Option.some.injEq, ← UInt64.toNat_inj, hsum]
    exact ⟨fun hc => ⟨hlt, hc.symm⟩, fun hc => hc.2.symm⟩

/-! ### The hash -/

/-- What the engine uses of a crypto provider: whether it is well formed, and its SHA-256, which
may fail with the status the engine maps the failure to. -/
structure Provider where
  valid : Bool
  sha256 : List UInt8 → Except Status Digest

def storeU16Be (v : ℕ) : List UInt8 := encodeBE 2 v
def storeU32Be (v : UInt32) : List UInt8 := encodeBE 4 v.toNat
def storeU64Be (v : UInt64) : List UInt8 := encodeBE 8 v.toNat

/-- `ninlil_r7_frag_start_fingerprint`. -/
def startFingerprint (provider : Provider) (body : StartBody) (firstChunk : List UInt8) :
    Except Status Digest :=
  if provider.valid = false then .error .invalidArgument
  else if firstChunk.length < 1 ∨ firstChunk.length > sMax then .error .lengthClass
  else provider.sha256 (body.transferId.toList ++ storeU64Be body.transferHandle
    ++ encodeBE 4 body.totalLen ++ storeU16Be body.fragCount ++ storeU16Be body.continuationUnit
    ++ body.contentDigest.toList ++ firstChunk)

/-- `ninlil_r7_frag_content_digest` of the first `totalLen` bytes of a payload. -/
def contentDigest (provider : Provider) (payload : List UInt8) (totalLen : ℕ) :
    Except Status Digest :=
  if provider.valid = false then .error .invalidArgument
  else if totalLen = 0 ∨ totalLen > totalLenMax then .error .lengthClass
  else provider.sha256 (payload.take totalLen)

/-! ### Fields read in order -/

def loadU16Be (rest : List UInt8) : ℕ × List UInt8 := getBE 2 rest

def loadU32Be (rest : List UInt8) : UInt32 × List UInt8 :=
  ((UInt32.ofNat (getBE 4 rest).1), (getBE 4 rest).2)

def loadU64Be (rest : List UInt8) : UInt64 × List UInt8 :=
  ((UInt64.ofNat (getBE 8 rest).1), (getBE 8 rest).2)

/-- `in[off++]`. -/
def loadU8 (rest : List UInt8) : UInt8 × List UInt8 := (rest.headD 0, rest.tail)

variable {rest : List UInt8}

@[simp] theorem loadU8_cons (b : UInt8) : loadU8 (b :: rest) = (b, rest) := rfl

theorem loadU16Be_append {v : ℕ} (h : v < 2 ^ 16) : loadU16Be (storeU16Be v ++ rest) = (v, rest) :=
  getBE_append (by simpa using h) rest

@[simp] theorem loadU32Be_append (v : UInt32) :
    loadU32Be (storeU32Be v ++ rest) = (v, rest) := by
  have hlt : v.toNat < 256 ^ 4 := v.toNat_lt
  simp [loadU32Be, storeU32Be, getBE_append hlt]

@[simp] theorem loadU64Be_append (v : UInt64) :
    loadU64Be (storeU64Be v ++ rest) = (v, rest) := by
  have hlt : v.toNat < 256 ^ 8 := v.toNat_lt
  simp [loadU64Be, storeU64Be, getBE_append hlt]

@[simp] theorem length_storeU16Be (v : ℕ) : (storeU16Be v).length = 2 := length_encodeBE 2 _
@[simp] theorem length_storeU32Be (v : UInt32) : (storeU32Be v).length = 4 := length_encodeBE 4 _
@[simp] theorem length_storeU64Be (v : UInt64) : (storeU64Be v).length = 8 := length_encodeBE 8 _

end Ninlil.R7Frag
