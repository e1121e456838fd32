import Ninlil.Lib.Layout
import Ninlil.Resource.Runs
import Ninlil.RuntimeStore.Records

/-!
# The records are canonical, and cover the ledger

The other direction of the round trips of the runtime store, and the two rules for capacity
entries.

* `encode_of_decodeTyped`: an envelope that is decoded is the envelope of its payload;
* `*_reencode`: bytes that a decoder accepts are the encoding of what it returns;
* `accepted_for_one_key`: bytes are accepted under one key at most;
* `capacityIsValid_project`: an entry that the ledger holds valid is one the codec encodes;
* `records_canonical`: these together, with every ledger reached by capacity transitions.
-/

namespace Ninlil.RuntimeStore

open Bytes Resource

variable {p bytes encoded payload : List UInt8} {o n keyId keyId' : ℕ} {type : RecordType}

/-! ### Fields that were read -/

theorem encode_decodeU16Be (h : o + 2 ≤ p.length) :
    encodeU16Be (decodeU16Be p o) = slice p o 2 := encode_getU16Be h

theorem encode_decodeU32Be (h : o + 4 ≤ p.length) :
    encodeU32Be (decodeU32Be p o) = slice p o 4 := encode_getU32Be h

theorem encode_decodeU64Be (h : o + 8 ≤ p.length) :
    encodeU64Be (decodeU64Be p o) = slice p o 8 := encode_getU64Be h

theorem toList_idOfBytes (h : p.length = 16) : (idOfBytes p).toList = p := by
  refine List.ext_getElem (by simp [h]) fun i hi hi' => ?_
  simp [idOfBytes, hi']

/-- A record is the concatenation of its slices. -/
theorem chop_all {ws : List ℕ} (h : p.length = ws.sum) : (chop 0 ws p).flatten = p := by
  rw [flatten_chop, slice_self h]

/-! ### The envelope -/

theorem code_of_ofCode? {code : UInt16} (h : RecordType.ofCode? code = some type) :
    code = type.code := by
  unfold RecordType.ofCode? at h
  split_ifs at h with h1 h2 h3 h4 <;> cases h <;> assumption

variable {capacity : ℕ}

/-- An envelope that is decoded is the envelope of its payload. -/
theorem encode_of_decodeEnvelope {envelope : Envelope}
    (h : decodeEnvelopeExpected encoded (some type) = .ok envelope)
    (hcap : encoded.length ≤ capacity) :
    envelope.type = type ∧ encodeEnvelope type envelope.payload capacity = .ok encoded := by
  unfold decodeEnvelopeExpected at h
  by_cases hmagic : encoded.length < envelopeOverhead ∨ encoded.take 4 ≠ envelopeMagic
  · rw [if_pos hmagic] at h
    cases h
  rw [if_neg hmagic] at h
  rw [not_or, not_lt, not_not] at hmagic
  dsimp only at h
  by_cases hlength : (decodeU32Be encoded 8).toNat > maxPayloadBytes ∨
      (decodeU32Be encoded 8).toNat ≠ encoded.length - envelopeOverhead
  · rw [if_pos hlength] at h
    cases h
  rw [if_neg hlength] at h
  rw [not_or, not_lt, not_not] at hlength
  by_cases hcrc : decodeU32Be encoded (12 + (decodeU32Be encoded 8).toNat) ≠
      crc32c (encoded.take (12 + (decodeU32Be encoded 8).toNat))
  · rw [if_pos hcrc] at h
    cases h
  rw [if_neg hcrc] at h
  rw [not_not] at hcrc
  cases hcode : RecordType.ofCode? (decodeU16Be encoded 4) with
  | none => rw [hcode] at h; cases h
  | some type' =>
    simp only [hcode] at h
    split_ifs at h with hany hversion
    cases h
    have htype : type' = type := by simpa using hany
    subst htype
    refine ⟨rfl, ?_⟩
    rw [not_not] at hversion
    set len := (decodeU32Be encoded 8).toNat with hlen
    have htotal : encoded.length = 12 + len + 4 := by
      have := hmagic.1
      simp only [envelopeOverhead] at this hlength
      omega
    have hsize : (slice encoded 12 len).length = len := length_slice_of_le (by omega)
    have hheader : envelopeHeader type' len = slice encoded 0 12 := by
      rw [envelopeHeader, ← hmagic.2, ← code_of_ofCode? hcode, ← hversion, hlen,
        UInt32.ofNat_toNat, encode_decodeU16Be (by omega), encode_decodeU16Be (by omega),
        encode_decodeU32Be (by omega), take_eq_slice]
      have h1 : slice encoded 0 4 ++ slice encoded 4 2 = slice encoded 0 6 := slice_append_slice
      have h2 : slice encoded 0 6 ++ slice encoded 6 2 = slice encoded 0 8 := slice_append_slice
      have h3 : slice encoded 0 8 ++ slice encoded 8 4 = slice encoded 0 12 := slice_append_slice
      rw [h1, h2, h3]
    have hbody : envelopeHeader type' len ++ slice encoded 12 len =
        encoded.take (12 + len) := by
      rw [hheader, take_eq_slice]
      exact slice_append_slice
    simp only [encodeEnvelope, hsize]
    rw [if_neg (by omega), if_neg (by simp only [envelopeOverhead]; omega), hbody, ← hcrc,
      encode_decodeU32Be (by omega), take_eq_slice]
    have hall : slice encoded 0 (12 + len) ++ slice encoded (12 + len) 4 =
        slice encoded 0 (12 + len + 4) := by
      have := @slice_append_slice encoded 0 (12 + len) 4
      rwa [Nat.zero_add] at this
    rw [hall, slice_self htotal]

theorem encode_of_decodeTyped {envelope : Envelope}
    (h : decodeTypedEnvelope keyId type n encoded = .ok envelope) :
    recordTypeForKey keyId = .ok type ∧ envelope.payload.length = n ∧
      ∀ capacity, encoded.length ≤ capacity →
        encodeEnvelope type envelope.payload capacity = .ok encoded := by
  unfold decodeTypedEnvelope at h
  cases hkey : recordTypeForKey keyId with
  | error s => rw [hkey] at h; cases h
  | ok keyType =>
    simp only [hkey] at h
    split_ifs at h with htype
    rw [not_not] at htype
    subst htype
    cases henv : decodeEnvelopeExpected encoded (some keyType) with
    | error s => simp only [henv] at h; cases h
    | ok envelope' =>
      simp only [henv] at h
      split_ifs at h with hfields
      cases h
      rw [not_or, not_not, not_not] at hfields
      exact ⟨rfl, hfields.2, fun capacity hcap => (encode_of_decodeEnvelope henv hcap).2⟩

/-! ### The payloads -/

theorem identityPayload_read (h : p.length = identityPayloadBytes) :
    identityPayload (readIdentity p) = p := by
  have hlen : p.length = 68 := h
  have hid : ∀ o, o + 16 ≤ 68 → (idOfBytes (slice p o 16)).toList = slice p o 16 :=
    fun o ho => toList_idOfBytes (length_slice_of_le (by omega))
  have hchop := @chop_all p [4, 16, 16, 16, 8, 8] h
  simp only [chop, List.flatten_cons, List.flatten_nil, List.append_nil, Nat.reduceAdd] at hchop
  simp only [identityPayload, readIdentity, List.append_assoc]
  rw [encode_decodeU32Be (by omega), hid 4 (by decide), hid 20 (by decide), hid 36 (by decide),
    encode_decodeU64Be (by omega), encode_decodeU64Be (by omega)]
  exact hchop

theorem counterPayload_read (h : p.length = counterPayloadBytes) :
    counterPayload (readCounter p) = p := by
  have hlen : p.length = 16 := h
  have hchop := @chop_all p [4, 8, 4] h
  simp only [chop, List.flatten_cons, List.flatten_nil, List.append_nil, Nat.reduceAdd] at hchop
  simp only [counterPayload, readCounter, List.append_assoc]
  rw [encode_decodeU32Be (by omega), encode_decodeU64Be (by omega), encode_decodeU32Be (by omega)]
  exact hchop

theorem capacityPayload_read (h : p.length = capacityPayloadBytes) :
    capacityPayload (readCapacity p) = p := by
  have hlen : p.length = 52 := h
  have hchop := @chop_all p [4, 8, 8, 8, 8, 8, 4, 4] h
  simp only [chop, List.flatten_cons, List.flatten_nil, List.append_nil, Nat.reduceAdd] at hchop
  simp only [capacityPayload, readCapacity, List.append_assoc]
  simp only [encode_decodeU32Be (show 0 + 4 ≤ p.length by omega),
    encode_decodeU64Be (show 4 + 8 ≤ p.length by omega),
    encode_decodeU64Be (show 12 + 8 ≤ p.length by omega),
    encode_decodeU64Be (show 20 + 8 ≤ p.length by omega),
    encode_decodeU64Be (show 28 + 8 ≤ p.length by omega),
    encode_decodeU64Be (show 36 + 8 ≤ p.length by omega),
    encode_decodeU32Be (show 44 + 4 ≤ p.length by omega),
    encode_decodeU32Be (show 48 + 4 ≤ p.length by omega)]
  exact hchop

/-! A binding is read field after field; each step gives back what it has taken. -/

theorem getU32_put (h : 4 ≤ p.length) : encodeU32Be (getU32 p).1 ++ (getU32 p).2 = p := by
  have hread : encodeU32Be (getU32 p).1 = p.take 4 := encode_decodeU32Be (o := 0) (by omega)
  rw [hread]
  exact List.take_append_drop 4 p

theorem getU64_put (h : 8 ≤ p.length) : encodeU64Be (getU64 p).1 ++ (getU64 p).2 = p := by
  have hread : encodeU64Be (getU64 p).1 = p.take 8 := encode_decodeU64Be (o := 0) (by omega)
  rw [hread]
  exact List.take_append_drop 8 p

theorem getId_put (h : 16 ≤ p.length) :
    (idOfBytes (getBytes 16 p).1).toList ++ (getBytes 16 p).2 = p := by
  have hread : (idOfBytes (getBytes 16 p).1).toList = p.take 16 :=
    toList_idOfBytes (by simp [getBytes, h])
  rw [hread]
  exact List.take_append_drop 16 p

theorem length_getU32 : (getU32 p).2.length = p.length - 4 := List.length_drop

theorem length_getU64 : (getU64 p).2.length = p.length - 8 := List.length_drop

theorem length_getId : (getBytes 16 p).2.length = p.length - 16 := List.length_drop

theorem getLimits_put (h : 84 ≤ p.length) : limitsBytes (getLimits p).1 ++ (getLimits p).2 = p := by
  simp only [limitsBytes, getLimits, List.append_assoc]
  simp (disch := first | omega | (simp only [length_getU32, length_getU64]; omega)) only
    [getU32_put, getU64_put]

theorem length_getLimits : (getLimits p).2.length = p.length - 84 := by
  simp only [getLimits, length_getU32, length_getU64, Nat.sub_sub, Nat.reduceAdd]

/-- The fields of a binding, written one after the other. -/
def bindingFields (binding : Binding) : List UInt8 :=
  encodeU32Be binding.storageSchema
    ++ encodeU32Be binding.role
    ++ encodeU32Be binding.environment
    ++ binding.runtimeId.toList
    ++ limitsBytes binding.limits
    ++ encodeU64Be binding.terminalRetentionMs
    ++ encodeU64Be binding.resultCacheRetentionMs
    ++ encodeU64Be binding.observationRetentionMs

theorem bindingPayload_eq (binding : Binding) :
    bindingPayload binding = bindingPrefix ++ bindingFields binding := rfl

theorem getBinding_put (h : p.length = 136) :
    bindingFields (getBinding p).1 ++ (getBinding p).2 = p := by
  simp only [bindingFields, getBinding, List.append_assoc]
  simp (disch := first
    | omega
    | (simp only [length_getU32, length_getU64, length_getId, length_getLimits]; omega)) only
    [getU32_put, getU64_put, getId_put, getLimits_put]

theorem bindingPrefix_of_read (h : 31 ≤ p.length) (hschema : decodeU32Be p 0 = 1)
    (hlength : decodeU16Be p 4 = 25) (hprofile : slice p 6 25 = profile) :
    bindingPrefix = p.take 31 := by
  have h1 : encodeU32Be 1 = slice p 0 4 := by
    rw [← hschema]
    exact encode_decodeU32Be (by omega)
  have h2 : encodeU16Be 25 = slice p 4 2 := by
    rw [← hlength]
    exact encode_decodeU16Be (by omega)
  have h3 : slice p 0 4 ++ slice p 4 2 = slice p 0 6 := slice_append_slice
  rw [bindingPrefix, h1, h2, h3, ← hprofile]
  exact slice_append_slice

/-! ### Bytes that are accepted -/

theorem binding_reencode {binding : Binding} (h : decodeBinding keyId encoded = .ok binding)
    (hcap : encoded.length ≤ capacity) :
    encodeBinding binding capacity = .ok encoded := by
  unfold decodeBinding at h
  cases htyped : decodeTypedEnvelope keyId .binding bindingPayloadBytes encoded with
  | error s => simp only [htyped] at h; cases h
  | ok envelope =>
    obtain ⟨-, hlen, henc⟩ := encode_of_decodeTyped htyped
    have hlen' : envelope.payload.length = 167 := hlen
    simp only [htyped] at h
    split_ifs at h with hprefix hrest
    cases h
    simp only [not_or, not_not] at hprefix hrest
    have hput := getBinding_put (p := envelope.payload.drop 31) (by simp [hlen'])
    rw [hrest.1, List.append_nil] at hput
    have hpayload : bindingPayload (getBinding (envelope.payload.drop 31)).1 =
        envelope.payload := by
      rw [bindingPayload_eq, hput,
        bindingPrefix_of_read (by omega) hprefix.1 hprefix.2.1 hprefix.2.2]
      exact List.take_append_drop 31 _
    rw [encodeBinding, if_neg hrest.2, hpayload]
    exact henc capacity hcap

theorem identity_reencode {identity : StoreIdentity}
    (h : decodeIdentity keyId encoded = .ok identity)
    (hcap : encoded.length ≤ capacity) : encodeIdentity identity capacity = .ok encoded := by
  unfold decodeIdentity at h
  cases htyped : decodeTypedEnvelope keyId .identity identityPayloadBytes encoded with
  | error s => simp only [htyped] at h; cases h
  | ok envelope =>
    obtain ⟨-, hlen, henc⟩ := encode_of_decodeTyped htyped
    simp only [htyped] at h
    split_ifs at h with hvalid
    cases h
    rw [encodeIdentity, if_neg hvalid, identityPayload_read hlen]
    exact henc capacity hcap

theorem counter_reencode {counter : Counter} (h : decodeCounter keyId encoded = .ok counter)
    (hcap : encoded.length ≤ capacity) :
    encodeCounter keyId counter capacity = .ok encoded := by
  unfold decodeCounter at h
  cases htyped : decodeTypedEnvelope keyId .counter counterPayloadBytes encoded with
  | error s => simp only [htyped] at h; cases h
  | ok envelope =>
    obtain ⟨-, hlen, henc⟩ := encode_of_decodeTyped htyped
    simp only [htyped] at h
    split_ifs at h with hkind hvalid
    cases h
    rw [encodeCounter, if_neg hvalid, counterPayload_read hlen]
    exact henc capacity hcap

theorem capacity_reencode {entry : Capacity} (h : decodeCapacity keyId encoded = .ok entry)
    (hcap : encoded.length ≤ capacity) :
    encodeCapacity keyId entry capacity = .ok encoded := by
  unfold decodeCapacity at h
  cases htyped : decodeTypedEnvelope keyId .capacity capacityPayloadBytes encoded with
  | error s => simp only [htyped] at h; cases h
  | ok envelope =>
    obtain ⟨-, hlen, henc⟩ := encode_of_decodeTyped htyped
    simp only [htyped] at h
    split_ifs at h with hkind hvalid
    cases h
    rw [encodeCapacity, if_neg hvalid, capacityPayload_read hlen]
    exact henc capacity hcap

/-! ### One key for accepted bytes -/

/-- One of the decoders accepts the bytes under the key. -/
def AcceptedFor (keyId : ℕ) (encoded : List UInt8) : Prop :=
  (∃ binding, decodeBinding keyId encoded = .ok binding) ∨
    (∃ identity, decodeIdentity keyId encoded = .ok identity) ∨
    (∃ counter, decodeCounter keyId encoded = .ok counter) ∨
    ∃ entry, decodeCapacity keyId encoded = .ok entry

/-- What accepted bytes say about their key. -/
structure KeyOf (keyId : ℕ) (type : RecordType) (payload encoded : List UInt8) : Prop where
  type_eq : recordTypeForKey keyId = .ok type
  envelope_eq : encodeEnvelope type payload encoded.length = .ok encoded
  counter_kind : type = .counter →
    (decodeU32Be payload 0).toNat = keyId - keyCounterTransaction + 1
  capacity_kind : type = .capacity →
    (decodeU32Be payload 0).toNat = keyId - keyCapacityService + 1

theorem keyOf_accepted (h : AcceptedFor keyId encoded) :
    ∃ type payload, KeyOf keyId type payload encoded := by
  rcases h with ⟨r, h⟩ | ⟨r, h⟩ | ⟨r, h⟩ | ⟨r, h⟩
  · unfold decodeBinding at h
    cases htyped : decodeTypedEnvelope keyId .binding bindingPayloadBytes encoded with
    | error s => simp only [htyped] at h; cases h
    | ok envelope =>
      obtain ⟨hkey, -, henc⟩ := encode_of_decodeTyped htyped
      exact ⟨_, _, hkey, henc _ le_rfl, nofun, nofun⟩
  · unfold decodeIdentity at h
    cases htyped : decodeTypedEnvelope keyId .identity identityPayloadBytes encoded with
    | error s => simp only [htyped] at h; cases h
    | ok envelope =>
      obtain ⟨hkey, -, henc⟩ := encode_of_decodeTyped htyped
      exact ⟨_, _, hkey, henc _ le_rfl, nofun, nofun⟩
  · unfold decodeCounter at h
    cases htyped : decodeTypedEnvelope keyId .counter counterPayloadBytes encoded with
    | error s => simp only [htyped] at h; cases h
    | ok envelope =>
      obtain ⟨hkey, -, henc⟩ := encode_of_decodeTyped htyped
      simp only [htyped] at h
      split_ifs at h with hkind hvalid
      simp only [not_or, not_not] at hkind
      exact ⟨_, _, hkey, henc _ le_rfl, fun _ => hkind.2.2, nofun⟩
  · unfold decodeCapacity at h
    cases htyped : decodeTypedEnvelope keyId .capacity capacityPayloadBytes encoded with
    | error s => simp only [htyped] at h; cases h
    | ok envelope =>
      obtain ⟨hkey, -, henc⟩ := encode_of_decodeTyped htyped
      simp only [htyped] at h
      split_ifs at h with hkind hvalid
      simp only [not_or, not_not] at hkind
      exact ⟨_, _, hkey, henc _ le_rfl, nofun, fun _ => hkind.2.2⟩

/-- The keys of a record type. -/
theorem key_of_type (h : recordTypeForKey keyId = .ok type) :
    (type = .binding ∧ keyId = 1) ∨ (type = .identity ∧ keyId = 2) ∨
      (type = .counter ∧ 3 ≤ keyId ∧ keyId ≤ 6) ∨ (type = .capacity ∧ 7 ≤ keyId ∧ keyId ≤ 17) := by
  unfold recordTypeForKey at h
  split_ifs at h with h1 h2 h3 h4 <;> cases h
  · exact .inl ⟨rfl, h1⟩
  · exact .inr (.inl ⟨rfl, h2⟩)
  · exact .inr (.inr (.inl ⟨rfl, h3⟩))
  · exact .inr (.inr (.inr ⟨rfl, h4⟩))

/-- An envelope has one type and one payload. -/
theorem encodeEnvelope_inj {type' : RecordType} {payload' : List UInt8} {c c' : ℕ}
    (h : encodeEnvelope type payload c = .ok encoded)
    (h' : encodeEnvelope type' payload' c' = .ok encoded) : type = type' ∧ payload = payload' := by
  obtain ⟨e, he, ht, hp⟩ := envelope_round_trip none h (by simp)
  obtain ⟨e', he', ht', hp'⟩ := envelope_round_trip none h' (by simp)
  rw [he] at he'
  cases he'
  exact ⟨ht.symm.trans ht', hp.symm.trans hp'⟩

/-- **Bytes are accepted under one key at most.** -/
theorem accepted_for_one_key (h : AcceptedFor keyId encoded) (h' : AcceptedFor keyId' encoded) :
    keyId = keyId' := by
  obtain ⟨type, payload, hk⟩ := keyOf_accepted h
  obtain ⟨type', payload', hk'⟩ := keyOf_accepted h'
  obtain ⟨rfl, rfl⟩ := encodeEnvelope_inj hk.envelope_eq hk'.envelope_eq
  rcases key_of_type hk.type_eq with ⟨ht, hkey⟩ | ⟨ht, hkey⟩ | ⟨ht, hkey⟩ | ⟨ht, hkey⟩ <;>
    rcases key_of_type hk'.type_eq with ⟨ht', hkey'⟩ | ⟨ht', hkey'⟩ | ⟨ht', hkey'⟩ | ⟨ht', hkey'⟩ <;>
    first
    | exact absurd (ht.symm.trans ht') (by decide)
    | omega
    | skip
  · have h1 := hk.counter_kind ht
    rw [hk'.counter_kind ht] at h1
    simp only [keyCounterTransaction] at h1
    omega
  · have h1 := hk.capacity_kind ht
    rw [hk'.capacity_kind ht] at h1
    simp only [keyCapacityService] at h1
    omega

/-! ### The entries of the ledger -/

/-- `capacity_key_id_for_index`. -/
def capacityKeyIdForIndex (index : ℕ) : ℕ := keyCapacityService + index

/-- `project_capacity_entry`. -/
def projectCapacityEntry (entry : CapacityEntry) : Capacity where
  kind := entry.kind
  limit := entry.limit
  used := entry.used
  reserved := entry.reserved
  highWater := entry.highWater
  capacityEpoch := entry.capacityEpoch
  blocked := entry.blocked
  counterExhausted := entry.counterExhaustedMarker

theorem kind_eq_kindAt {e : CapacityEntry} (i : Fin kindCount) :
    e.kind.toNat = i.val + 1 ↔ e.kind = kindAt i := by
  have hi : (kindAt i).toNat = i.val + 1 := by
    revert i
    decide
  rw [← UInt32.toNat_inj, hi]

/-- The sum of the amounts overflows in the one rule exactly when it does in the other. -/
theorem total_guard {e : CapacityEntry} :
    (e.used > uint64Max - e.reserved) ↔ ¬ e.total < 2 ^ 64 := by
  have hu := e.used.toNat_lt
  have hr := e.reserved.toNat_lt
  have hsub : (uint64Max - e.reserved).toNat = 2 ^ 64 - 1 - e.reserved.toNat := by
    rw [UInt64.toNat_sub_of_le _ _ (by rw [UInt64.le_iff_toNat_le, uint64_toNat_max]; omega),
      uint64_toNat_max]
  rw [gt_iff_lt, UInt64.lt_iff_toNat_lt, hsub, CapacityEntry.total]
  omega

/-- **The two rules for capacity entries describe the same set.** -/
theorem capacityIsValid_project {e : CapacityEntry} (i : Fin kindCount) :
    capacityIsValid (capacityKeyIdForIndex i) (projectCapacityEntry e) = true ↔
      e.kind = kindAt i ∧ capacityEntryIsValid e = true := by
  have hi : i.val < 11 := i.isLt
  have hkind := kind_eq_kindAt (e := e) i
  have hexp : capacityKeyIdForIndex i - keyCapacityService + 1 = i.val + 1 := by
    simp only [capacityKeyIdForIndex, keyCapacityService]
    omega
  have hlim := e.limit.toNat_lt
  rw [capacityEntryIsValid_iff, capacityIsValid, if_neg (by
    simp only [capacityKeyIdForIndex, keyCapacityService, keyCapacityDeferredToken]
    omega)]
  dsimp only
  rw [hexp]
  simp only [projectCapacityEntry, total_guard]
  have hle1 : ∀ x : UInt32, ¬ x > 1 ↔ x = 0 ∨ x = 1 := fun x => by
    rw [gt_iff_lt, UInt32.not_lt, uint32_le_one_iff]
  constructor
  · intro h
    split_ifs at h with hbad
    simp only [not_or, not_not, hle1] at hbad
    obtain ⟨hk, hb, hm, he, ht⟩ := hbad
    have htot : (e.used + e.reserved).toNat = e.total := toNat_add_of_toNat_lt ht
    simp only [Bool.and_eq_true, Bool.or_eq_true, decide_eq_true_eq, beq_iff_eq,
      UInt64.le_iff_toNat_le, htot] at h
    obtain ⟨⟨h1, h2⟩, h3⟩ := h
    refine ⟨hkind.1 hk, ?_, hb, hm, he, h1, h2, fun h1 => ?_⟩
    · rw [hkind.1 hk]
      clear hkind hexp hi hk
      revert i
      decide
    · rcases h3 with h3 | h3
      · rw [h1] at h3
        cases h3
      · exact h3
  · rintro ⟨hk, hv⟩
    have ht := hv.total_le
    have hh := hv.high_le
    have hlt : e.total < 2 ^ 64 := by omega
    have htot : (e.used + e.reserved).toNat = e.total := toNat_add_of_toNat_lt hlt
    rw [if_neg (by
      simp only [not_or, not_not, hle1]
      exact ⟨hkind.2 hk, hv.blocked_le, hv.marker_le, hv.epoch_ne, hlt⟩)]
    simp only [Bool.and_eq_true, Bool.or_eq_true, decide_eq_true_eq, beq_iff_eq,
      UInt64.le_iff_toNat_le, htot]
    refine ⟨⟨ht, hh⟩, ?_⟩
    rcases hv.marker_le with h0 | h1
    · exact .inl h0
    · exact .inr (hv.marker_epoch h1)

/-- Every ledger reached from the initial one by capacity transitions, entry by entry or in
batches. -/
inductive LedgerReachable (limits : CapacityLimits) : Ledger → Prop
  | init : LedgerReachable limits (resourceLedgerInit limits)
  | entry {L : Ledger} (h : LedgerReachable limits L) (i : Fin kindCount)
      {input : TransitionInput} (hcurrent : input.current = L i) {r : TransitionResult}
      (hr : capacityEntryTransition input = .ok r) :
      LedgerReachable limits (Function.update L i r.next)
  | batch {L : Ledger} (h : LedgerReachable limits L) {b : Batch} {r : BatchResult}
      (hr : capacityBatchTransition L b = .ok r) : LedgerReachable limits r.next

theorem ledgerReachable_valid {limits : CapacityLimits} {L : Ledger}
    (h : LedgerReachable limits L) : LedgerValid L := by
  induction h with
  | init => exact init_valid limits
  | entry h i hcurrent hr ih =>
    have hev := Evolves.of_transition hr
    rw [hcurrent] at hev
    intro j
    by_cases hj : j = i
    · subst hj
      rw [Function.update_self]
      exact ⟨hev.kind_eq.trans (ih j).1, hev.valid⟩
    · rw [Function.update_of_ne hj]
      exact ih j
  | batch h hr ih =>
    have hev := (BatchStep.of_transition hr).2.2.evolves ih
    exact fun i => ⟨(hev i).kind_eq.trans (ih i).1, (hev i).valid⟩

/-- The value bytes of a capacity record (`NINLIL_MODEL_RUNTIME_STORE_CAPACITY_VALUE_BYTES`). -/
def capacityValueBytes : ℕ := 68

theorem encodeCapacity_of_valid {L : Ledger} (hL : LedgerValid L) (i : Fin kindCount)
    (hcap : capacityValueBytes ≤ capacity) :
    ∃ bytes, encodeCapacity (capacityKeyIdForIndex i) (projectCapacityEntry (L i)) capacity =
      .ok bytes := by
  have hvalid := (capacityIsValid_project i).2 ⟨(hL i).1, capacityEntryIsValid_iff.2 (hL i).2⟩
  obtain ⟨bytes, hbytes, -⟩ := encodeEnvelope_eq_ok .capacity
    (capacityPayload (projectCapacityEntry (L i))) capacity
    (by rw [length_capacityPayload]; decide)
    (by rw [length_capacityPayload]; exact hcap)
  exact ⟨bytes, by rw [encodeCapacity, if_neg (by rw [hvalid]; decide)]; exact hbytes⟩

/-- **The records of the runtime store are canonical, and cover the ledger.**  For each of the four
record types a value that is encoded is decoded, and bytes that are accepted are the encoding of
what they decode to; bytes are accepted under one key at most; and every entry of every ledger
reached by capacity transitions is encoded under the key of its kind. -/
theorem records_canonical :
    ((∀ binding capacity encoded, encodeBinding binding capacity = .ok encoded →
        decodeBinding keyBinding encoded = .ok binding) ∧
      (∀ identity capacity encoded, encodeIdentity identity capacity = .ok encoded →
        decodeIdentity keyIdentity encoded = .ok identity) ∧
      (∀ keyId counter capacity encoded, encodeCounter keyId counter capacity = .ok encoded →
        decodeCounter keyId encoded = .ok counter) ∧
      ∀ keyId entry capacity encoded, encodeCapacity keyId entry capacity = .ok encoded →
        decodeCapacity keyId encoded = .ok entry) ∧
    (∀ keyId encoded capacity, encoded.length ≤ capacity →
      (∀ binding, decodeBinding keyId encoded = .ok binding →
        encodeBinding binding capacity = .ok encoded) ∧
      (∀ identity, decodeIdentity keyId encoded = .ok identity →
        encodeIdentity identity capacity = .ok encoded) ∧
      (∀ counter, decodeCounter keyId encoded = .ok counter →
        encodeCounter keyId counter capacity = .ok encoded) ∧
      ∀ entry, decodeCapacity keyId encoded = .ok entry →
        encodeCapacity keyId entry capacity = .ok encoded) ∧
    (∀ keyId keyId' encoded, AcceptedFor keyId encoded → AcceptedFor keyId' encoded →
      keyId = keyId') ∧
    ∀ limits L, LedgerReachable limits L → ∀ i capacity, capacityValueBytes ≤ capacity →
      ∃ bytes, encodeCapacity (capacityKeyIdForIndex i.val) (projectCapacityEntry (L i)) capacity =
        .ok bytes :=
  ⟨⟨fun _ _ _ => binding_round_trip, fun _ _ _ => identity_round_trip,
      fun _ _ _ _ => counter_round_trip, fun _ _ _ _ => capacity_round_trip⟩,
    fun _ _ _ hcap => ⟨fun _ h => binding_reencode h hcap, fun _ h => identity_reencode h hcap,
      fun _ h => counter_reencode h hcap, fun _ h => capacity_reencode h hcap⟩,
    fun _ _ _ => accepted_for_one_key,
    fun _ _ h i _ hcap => encodeCapacity_of_valid (ledgerReachable_valid h) i hcap⟩

end Ninlil.RuntimeStore
