import Ninlil.Lib.Cursor
import Ninlil.RuntimeStore.Config

/-!
# The records of the runtime store

`runtime_store_codec.c`: seventeen keys, the checksummed envelope of a value, and the four kinds of
payload it carries.

* `buildKey`, `parseKey`, `recordTypeForKey`: a key identifier, its bytes and its record type;
* `encodeEnvelope`, `decodeEnvelopeExpected`, `decodeTypedEnvelope`: the envelope;
* `Binding`, `StoreIdentity`, `Counter`, `Capacity`: the payloads, with an encoder and a decoder
  for each;
* a `*_round_trip` theorem for the keys, the envelope and each payload.

A bytes view is the list of its bytes, `NULL` being the empty one; an output buffer is its
capacity.  The checks that ranges do not overlap are about addresses and are left out.
-/

namespace Ninlil.RuntimeStore

open Bytes Resource

/-! ### Constants -/

/-- `KEY_ROOT`: `NINLIL`, 0, 1. -/
def keyRoot : List UInt8 := [0x4e, 0x49, 0x4e, 0x4c, 0x49, 0x4c, 0x00, 0x01]
/-- `NINLIL_MODEL_RUNTIME_STORE_ENVELOPE_OVERHEAD`. -/
def envelopeOverhead : ℕ := 16
/-- `NINLIL_MODEL_RUNTIME_STORE_MAX_PAYLOAD_BYTES`. -/
def maxPayloadBytes : ℕ := 65520
/-- `NINLIL_MODEL_RUNTIME_STORE_BINDING_PAYLOAD_BYTES`. -/
def bindingPayloadBytes : ℕ := 167
/-- `NINLIL_MODEL_RUNTIME_STORE_IDENTITY_PAYLOAD_BYTES`. -/
def identityPayloadBytes : ℕ := 68
/-- `NINLIL_MODEL_RUNTIME_STORE_COUNTER_PAYLOAD_BYTES`. -/
def counterPayloadBytes : ℕ := 16
/-- `NINLIL_MODEL_RUNTIME_STORE_CAPACITY_PAYLOAD_BYTES`. -/
def capacityPayloadBytes : ℕ := 52

/-- `NINLIL_MODEL_RUNTIME_STORE_KEY_BINDING`, the first key identifier. -/
def keyBinding : ℕ := 1
/-- `NINLIL_MODEL_RUNTIME_STORE_KEY_IDENTITY`. -/
def keyIdentity : ℕ := 2
/-- `NINLIL_MODEL_RUNTIME_STORE_KEY_COUNTER_TRANSACTION`. -/
def keyCounterTransaction : ℕ := 3
/-- `NINLIL_MODEL_RUNTIME_STORE_KEY_COUNTER_VISITED_OWNER`. -/
def keyCounterVisitedOwner : ℕ := 6
/-- `NINLIL_MODEL_RUNTIME_STORE_KEY_CAPACITY_SERVICE`. -/
def keyCapacityService : ℕ := 7
/-- `NINLIL_MODEL_RUNTIME_STORE_KEY_CAPACITY_DEFERRED_TOKEN`, the last key identifier. -/
def keyCapacityDeferredToken : ℕ := 17

/-! ### Numbers and checksums -/

def encodeU16Be (value : UInt16) : List UInt8 := encodeBE 2 value.toNat

def encodeU32Be (value : UInt32) : List UInt8 := encodeBE 4 value.toNat

def encodeU64Be (value : UInt64) : List UInt8 := encodeBE 8 value.toNat

def decodeU16Be (source : List UInt8) (offset : ℕ) : UInt16 :=
  UInt16.ofNat (decodeBE (slice source offset 2))

def decodeU32Be (source : List UInt8) (offset : ℕ) : UInt32 :=
  UInt32.ofNat (decodeBE (slice source offset 4))

def decodeU64Be (source : List UInt8) (offset : ℕ) : UInt64 :=
  UInt64.ofNat (decodeBE (slice source offset 8))

/-- One bit of the checksum register. -/
def crcBit (crc : UInt32) : UInt32 :=
  let mask := 0 - (crc &&& 1)
  (crc >>> 1) ^^^ (0x82f63b78 &&& mask)

/-- `ninlil_model_runtime_store_crc32c`. -/
def crc32c (bytes : List UInt8) : UInt32 :=
  ~~~(bytes.foldl (fun crc b => crcBit^[8] (crc ^^^ b.toUInt32)) 0xFFFFFFFF)

/-- The identifier in sixteen bytes, as `memcpy` copies it. -/
def idOfBytes (bytes : List UInt8) : Id128 := Vector.ofFn fun i => bytes.getD i 0

variable {offset : ℕ} {pre post : List UInt8}

@[simp] theorem length_encodeU16Be (value : UInt16) : (encodeU16Be value).length = 2 :=
  length_encodeBE 2 _

@[simp] theorem length_encodeU32Be (value : UInt32) : (encodeU32Be value).length = 4 :=
  length_encodeBE 4 _

@[simp] theorem length_encodeU64Be (value : UInt64) : (encodeU64Be value).length = 8 :=
  length_encodeBE 8 _

theorem decodeU16Be_field (value : UInt16) (h : pre.length = offset) :
    decodeU16Be (pre ++ (encodeU16Be value ++ post)) offset = value := by
  have hlt : value.toNat < 256 ^ 2 := value.toNat_lt
  rw [decodeU16Be, slice_field h (length_encodeU16Be value), encodeU16Be,
    decodeBE_encodeBE_of_lt hlt, UInt16.ofNat_toNat]

theorem decodeU32Be_field (value : UInt32) (h : pre.length = offset) :
    decodeU32Be (pre ++ (encodeU32Be value ++ post)) offset = value := by
  have hlt : value.toNat < 256 ^ 4 := value.toNat_lt
  rw [decodeU32Be, slice_field h (length_encodeU32Be value), encodeU32Be,
    decodeBE_encodeBE_of_lt hlt, UInt32.ofNat_toNat]

theorem decodeU64Be_field (value : UInt64) (h : pre.length = offset) :
    decodeU64Be (pre ++ (encodeU64Be value ++ post)) offset = value := by
  have hlt : value.toNat < 256 ^ 8 := value.toNat_lt
  rw [decodeU64Be, slice_field h (length_encodeU64Be value), encodeU64Be,
    decodeBE_encodeBE_of_lt hlt, UInt64.ofNat_toNat]

theorem decodeU32Be_first (value : UInt32) (rest : List UInt8) :
    decodeU32Be (encodeU32Be value ++ rest) 0 = value :=
  have hread : decodeU32Be ([] ++ (encodeU32Be value ++ rest)) 0 = value :=
    decodeU32Be_field value rfl
  hread

theorem decodeU32Be_last (value : UInt32) (h : pre.length = offset) :
    decodeU32Be (pre ++ encodeU32Be value) offset = value := by
  rw [← List.append_nil (encodeU32Be value)]
  exact decodeU32Be_field value h

theorem decodeU64Be_last (value : UInt64) (h : pre.length = offset) :
    decodeU64Be (pre ++ encodeU64Be value) offset = value := by
  rw [← List.append_nil (encodeU64Be value)]
  exact decodeU64Be_field value h

theorem idOfBytes_toList (id : Id128) : idOfBytes id.toList = id := by
  apply Vector.ext
  intro i hi
  simp [idOfBytes]

/-! ### Keys -/

/-- `ninlil_model_runtime_store_build_key`: the first `length` bytes of the key. -/
def buildKey (keyId : ℕ) : Except Status (List UInt8) :=
  if keyId < keyBinding ∨ keyId > keyCapacityDeferredToken then .error .invalidArgument
  else if keyId = keyBinding then .ok (keyRoot ++ [0x01])
  else if keyId = keyIdentity then .ok (keyRoot ++ [0x02])
  else if keyId ≤ keyCounterVisitedOwner then
    .ok (keyRoot ++ [0x03, UInt8.ofNat (keyId - keyCounterTransaction + 1)])
  else .ok (keyRoot ++ [0x04, UInt8.ofNat (keyId - keyCapacityService + 1)])

/-- `ninlil_model_runtime_store_parse_key`. -/
def parseKey (encodedKey : List UInt8) : Except Status ℕ :=
  let family := encodedKey.getD 8 0
  let suffix := encodedKey.getD 9 0
  if encodedKey.length < 8 ∨ encodedKey.take 7 ≠ keyRoot.take 7 then .error .storageCorrupt
  else if encodedKey.getD 7 0 ≠ keyRoot.getD 7 0 then .error .unsupported
  else if 9 ≤ encodedKey.length ∧ (family = 0x05 ∨ family = 0x06) then .error .unsupported
  else if (encodedKey.length ≠ 9 ∧ encodedKey.length ≠ 10) ∨ encodedKey.take 8 ≠ keyRoot then
    .error .storageCorrupt
  else if encodedKey.length = 9 ∧ family = 0x01 then .ok keyBinding
  else if encodedKey.length = 9 ∧ family = 0x02 then .ok keyIdentity
  else if encodedKey.length ≠ 10 then .error .storageCorrupt
  else if family = 0x03 ∧ 1 ≤ suffix ∧ suffix ≤ 4 then
    .ok (keyCounterTransaction + suffix.toNat - 1)
  else if family = 0x04 ∧ 1 ≤ suffix ∧ suffix ≤ 11 then
    .ok (keyCapacityService + suffix.toNat - 1)
  else .error .storageCorrupt

/-- `ninlil_model_runtime_store_record_type_t`. -/
inductive RecordType
  | binding
  | identity
  | counter
  | capacity
  deriving DecidableEq

def RecordType.code : RecordType → UInt16
  | .binding => 1
  | .identity => 2
  | .counter => 3
  | .capacity => 4

/-- The type with a given code; `none` where `record_type_is_known` fails. -/
def RecordType.ofCode? (code : UInt16) : Option RecordType :=
  if code = 1 then some .binding
  else if code = 2 then some .identity
  else if code = 3 then some .counter
  else if code = 4 then some .capacity
  else none

@[simp] theorem RecordType.ofCode?_code (type : RecordType) : ofCode? type.code = some type := by
  cases type <;> rfl

/-- `ninlil_model_runtime_store_record_type_for_key`. -/
def recordTypeForKey (keyId : ℕ) : Except Status RecordType :=
  if keyId = keyBinding then .ok .binding
  else if keyId = keyIdentity then .ok .identity
  else if keyCounterTransaction ≤ keyId ∧ keyId ≤ keyCounterVisitedOwner then .ok .counter
  else if keyCapacityService ≤ keyId ∧ keyId ≤ keyCapacityDeferredToken then .ok .capacity
  else .error .invalidArgument

theorem recordTypeForKey_binding : recordTypeForKey keyBinding = .ok .binding := rfl

theorem recordTypeForKey_identity : recordTypeForKey keyIdentity = .ok .identity := rfl

/-- Every key is built, has nine or ten bytes and is parsed back. -/
theorem key_round_trip {keyId : ℕ} (h : keyBinding ≤ keyId ∧ keyId ≤ keyCapacityDeferredToken) :
    ∃ key, buildKey keyId = .ok key ∧ parseKey key = .ok keyId ∧
      key.length = if keyId ≤ keyIdentity then 9 else 10 := by
  obtain ⟨hlow, hhigh⟩ := h
  simp only [keyBinding, keyCapacityDeferredToken] at hlow hhigh
  interval_cases keyId <;> exact ⟨_, rfl, by decide, rfl⟩

/-! ### The envelope -/

/-- `ninlil_model_runtime_store_envelope_t`. -/
structure Envelope where
  type : RecordType
  version : UInt16
  payload : List UInt8
  crc32c : UInt32
  deriving DecidableEq

/-- `NLR1`. -/
def envelopeMagic : List UInt8 := [78, 76, 82, 49]

/-- The twelve bytes before a payload. -/
def envelopeHeader (type : RecordType) (payloadLength : ℕ) : List UInt8 :=
  envelopeMagic ++ encodeU16Be type.code ++ encodeU16Be 1
    ++ encodeU32Be (UInt32.ofNat payloadLength)

/-- `ninlil_model_runtime_store_encode_envelope` into a buffer of a given capacity. -/
def encodeEnvelope (type : RecordType) (payload : List UInt8) (capacity : ℕ) :
    Except Status (List UInt8) :=
  if payload.length > maxPayloadBytes then .error .invalidArgument
  else if capacity < envelopeOverhead + payload.length then .error .bufferTooSmall
  else
    let body := envelopeHeader type payload.length ++ payload
    .ok (body ++ encodeU32Be (crc32c body))

/-- `decode_envelope_expected`; an expected type `none` is the 0 that accepts every type. -/
def decodeEnvelopeExpected (encoded : List UInt8) (expectedType : Option RecordType) :
    Except Status Envelope :=
  if encoded.length < envelopeOverhead ∨ encoded.take 4 ≠ envelopeMagic then .error .storageCorrupt
  else
    let rawType := decodeU16Be encoded 4
    let version := decodeU16Be encoded 6
    let payloadLength := (decodeU32Be encoded 8).toNat
    if payloadLength > maxPayloadBytes ∨ payloadLength ≠ encoded.length - envelopeOverhead then
      .error .storageCorrupt
    else
      let storedCrc := decodeU32Be encoded (12 + payloadLength)
      let computedCrc := crc32c (encoded.take (12 + payloadLength))
      if storedCrc ≠ computedCrc then .error .storageCorrupt
      else match RecordType.ofCode? rawType with
        | none => .error .storageCorrupt
        | some type =>
          if expectedType.any (type ≠ ·) then .error .storageCorrupt
          else if version ≠ 1 then .error .unsupported
          else .ok
            { type := type
              version := version
              payload := slice encoded 12 payloadLength
              crc32c := storedCrc }

/-- `decode_typed_envelope`: the payload of the record a key must hold. -/
def decodeTypedEnvelope (keyId : ℕ) (expectedType : RecordType) (expectedPayloadLength : ℕ)
    (encoded : List UInt8) : Except Status Envelope :=
  match recordTypeForKey keyId with
  | .error _ => .error .invalidArgument
  | .ok keyType =>
    if keyType ≠ expectedType then .error .storageCorrupt
    else match decodeEnvelopeExpected encoded (some expectedType) with
      | .error status => .error status
      | .ok envelope =>
        if envelope.type ≠ expectedType ∨ envelope.payload.length ≠ expectedPayloadLength then
          .error .storageCorrupt
        else .ok envelope

variable {type : RecordType} {payload encoded : List UInt8} {capacity : ℕ}

@[simp] theorem length_envelopeHeader (n : ℕ) : (envelopeHeader type n).length = 12 := by
  simp [envelopeHeader, envelopeMagic]

/-- What an encoder has written: the header, the payload and their checksum. -/
theorem encodeEnvelope_ok (h : encodeEnvelope type payload capacity = .ok encoded) :
    payload.length ≤ maxPayloadBytes ∧
      encoded = envelopeHeader type payload.length ++ (payload ++
        encodeU32Be (crc32c (envelopeHeader type payload.length ++ payload))) := by
  unfold encodeEnvelope at h
  split_ifs at h with hmax hcap
  cases h
  exact ⟨by omega, List.append_assoc _ _ _⟩

theorem encodeEnvelope_eq_ok (type : RecordType) (payload : List UInt8) (capacity : ℕ)
    (hmax : payload.length ≤ maxPayloadBytes) (hcap : envelopeOverhead + payload.length ≤ capacity) :
    ∃ encoded, encodeEnvelope type payload capacity = .ok encoded ∧
      encoded.length = envelopeOverhead + payload.length := by
  refine ⟨_, by rw [encodeEnvelope, if_neg (by omega), if_neg (by omega)], ?_⟩
  simp only [List.length_append, length_envelopeHeader, length_encodeU32Be, envelopeOverhead]
  omega

/-- The header fields stand at their offsets. -/
theorem header_fields (type : RecordType) {n : ℕ} (hn : n < 2 ^ 32) (rest : List UInt8) :
    (envelopeHeader type n ++ rest).take 4 = envelopeMagic ∧
      decodeU16Be (envelopeHeader type n ++ rest) 4 = type.code ∧
      decodeU16Be (envelopeHeader type n ++ rest) 6 = 1 ∧
      (decodeU32Be (envelopeHeader type n ++ rest) 8).toNat = n := by
  have hlen : envelopeMagic.length = 4 := rfl
  have hn' : (UInt32.ofNat n).toNat = n := UInt32.toNat_ofNat_of_lt' hn
  simp only [envelopeHeader, List.append_assoc]
  refine ⟨List.take_left' hlen, decodeU16Be_field _ hlen, ?_, ?_⟩
  · rw [← List.append_assoc]
    exact decodeU16Be_field _ (by simp [hlen])
  · rw [← List.append_assoc, ← List.append_assoc, decodeU32Be_field _ (by simp [hlen]), hn']

/-- **An envelope that was encoded is decoded, under its own type or under none.** -/
theorem envelope_round_trip (expectedType : Option RecordType)
    (h : encodeEnvelope type payload capacity = .ok encoded)
    (htype : ∀ expected ∈ expectedType, type = expected) :
    ∃ envelope, decodeEnvelopeExpected encoded expectedType = .ok envelope ∧
      envelope.type = type ∧ envelope.payload = payload := by
  obtain ⟨hmax, rfl⟩ := encodeEnvelope_ok h
  set header := envelopeHeader type payload.length with hheader
  set crc := encodeU32Be (crc32c (header ++ payload)) with hcrc
  have hheaderLen : header.length = 12 := length_envelopeHeader _
  have hcrcLen : crc.length = 4 := length_encodeU32Be _
  have hlt : payload.length < 2 ^ 32 := lt_of_le_of_lt hmax (by decide)
  obtain ⟨hmagic, hcode, hversion, hlength⟩ := header_fields type hlt (payload ++ crc)
  rw [← hheader] at hmagic hcode hversion hlength
  have hbody : (header ++ (payload ++ crc)).take (12 + payload.length) = header ++ payload := by
    rw [← List.append_assoc]
    exact List.take_left' (by simp [hheaderLen])
  have hstored : decodeU32Be (header ++ (payload ++ crc)) (12 + payload.length) =
      crc32c (header ++ payload) := by
    have hread : decodeU32Be ((header ++ payload) ++ (crc ++ [])) (12 + payload.length) = _ :=
      decodeU32Be_field _ (by simp [hheaderLen])
    rwa [List.append_nil, List.append_assoc] at hread
  have hpayload : slice (header ++ (payload ++ crc)) 12 payload.length = payload :=
    slice_field hheaderLen rfl
  have hsize : (header ++ (payload ++ crc)).length = envelopeOverhead + payload.length := by
    simp only [List.length_append, hheaderLen, hcrcLen, envelopeOverhead]
    omega
  have hexpected : expectedType.any (fun expected => decide (type ≠ expected)) = false := by
    cases expectedType with
    | none => rfl
    | some expected => simpa using htype expected rfl
  refine ⟨⟨type, 1, payload, crc32c (header ++ payload)⟩, ?_, rfl, rfl⟩
  unfold decodeEnvelopeExpected
  rw [if_neg (by rw [hsize, hmagic]; simp [envelopeOverhead])]
  dsimp only
  rw [hlength, if_neg (by rw [hsize]; omega), hstored, hbody, if_neg (by simp), hcode,
    RecordType.ofCode?_code]
  dsimp only
  rw [hexpected, hversion, hpayload]
  rfl

/-- The payload of a record comes back through its own key. -/
theorem typed_round_trip {keyId n : ℕ}
    (hkey : recordTypeForKey keyId = .ok type)
    (h : encodeEnvelope type payload capacity = .ok encoded) (hn : payload.length = n) :
    ∃ envelope, decodeTypedEnvelope keyId type n encoded = .ok envelope ∧
      envelope.payload = payload := by
  obtain ⟨envelope, hdecode, htype, hpayload⟩ :=
    envelope_round_trip (some type) h (by simp)
  refine ⟨envelope, ?_, hpayload⟩
  simp [decodeTypedEnvelope, hkey, hdecode, htype, hpayload, hn]

end Ninlil.RuntimeStore
