import Ninlil.N6.RecordCodec

/-!
# Round trips of the N6 records

* `Exact`: what a layout has to satisfy.  Its wire bytes are a given byte string exactly if that
  string is read as the record, with the check filled in, and the checks of both sides agree;
* `Faithful`: what encoder and decoder then do for each other, on every call;
* `record_codecs_faithful`: all eleven codecs, and no byte string is a key of two kinds.
-/

namespace Ninlil.N6

open Bytes

variable {α : Type} {bytes : List UInt8} {o n k : ℕ}

/-! ### What a layout has to satisfy -/

/-- A layout with the record that its decoder gives back; `withCrc` fills in the check of the
bytes. -/
structure Exact (L : Layout α) (withCrc : α → List UInt8 → α) : Prop where
  length_wire : ∀ r, (L.wire r).length = L.exact
  wire_eq_iff : ∀ r bytes, L.encodable r = true → bytes.length = L.exact →
    (L.wire r = bytes ↔ L.read bytes = withCrc r bytes)
  decodable_iff : ∀ bytes r, L.decodable bytes r = true ↔
    L.encodable r = true ∧ withCrc r bytes = r
  encodable_withCrc : ∀ r bytes, L.encodable (withCrc r bytes) = L.encodable r
  withCrc_withCrc : ∀ r bytes, withCrc (withCrc r bytes) bytes = withCrc r bytes

section Layouts

variable {L : Layout α} {writes : α → List Put} {spans gaps : List (ℕ × ℕ)}

/-- A layout without a check. -/
theorem exact_fill (hwire : ∀ r, L.wire r = fill L.exact (writes r))
    (hspans : ∀ r, (writes r).map span = spans) (laid : Laid L.exact spans)
    (hcov : Covers L.exact spans) (hchecks : ∀ bytes r, L.decodable bytes r = L.encodable r)
    (hread : ∀ r bytes, L.encodable r = true → bytes.length = L.exact →
      (Holds bytes (writes r) ↔ L.read bytes = r)) : Exact L fun r _ => r where
  length_wire r := by rw [hwire, length_fill]
  wire_eq_iff r bytes hr hlen := by
    have hnil : (writes r).map span ++ [] = spans := by rw [List.append_nil, hspans]
    have hfill := @fill_eq_iff bytes (writes r) [] L.exact hlen (hnil ▸ laid) (hnil ▸ hcov)
    rw [hwire, hfill, ← hread r bytes hr hlen]
    exact Iff.of_eq (congrArg (Holds bytes) (List.append_nil (writes r)))
  decodable_iff bytes r := by
    rw [hchecks]
    exact (and_iff_left rfl).symm
  encodable_withCrc _ _ := rfl
  withCrc_withCrc _ _ := rfl

/-- A value with its check. -/
theorem sealValue_eq_iff {ws : List Put} (hk : k ≤ 0xffffffff)
    (hlen : bytes.length = k + 4) (laid : Laid k (ws.map span ++ gaps))
    (hcov : Covers k (ws.map span ++ gaps)) :
    sealValue k ws = bytes ↔
      Holds bytes (ws ++ zeros gaps) ∧ getU32Be bytes k = n6Crc32c bytes k := by
  have hcrc : ∀ image : List UInt8, n6Crc32c image k = crc32c (image.take k) := fun image =>
    if_neg (by omega)
  have hseal : sealValue k ws = sealAt (fill (k + 4) ws) k := by
    unfold sealAt
    rw [← hcrc]
    rfl
  rw [hseal, sealAt_fill_eq_iff hlen laid hcov, hcrc]
  refine and_congr_right' ⟨getU32Be_of_slice, fun h => ?_⟩
  rw [← h, encode_getU32Be hlen.ge]

/-- The check field of a record. -/
structure CrcField (α : Type) where
  get : α → UInt32
  set : α → UInt32 → α
  get_eq_iff : ∀ r c, get r = c ↔ set r c = r
  set_set : ∀ r c, set (set r c) c = set r c

/-- A layout that ends with the check of the bytes before it. -/
theorem exact_seal (F : CrcField α) (hk : k ≤ 0xffffffff) (hexact : L.exact = k + 4)
    (hwire : ∀ r, L.wire r = sealValue k (writes r))
    (hspans : ∀ r, (writes r).map span ++ gaps = spans) (laid : Laid k spans)
    (hcov : Covers k spans) (hsame : ∀ r c, L.encodable (F.set r c) = L.encodable r)
    (hchecks : ∀ bytes r, L.decodable bytes r = true ↔
      L.encodable r = true ∧ F.get r = n6Crc32c bytes k)
    (hread : ∀ r bytes c, L.encodable r = true → bytes.length = k + 4 →
      (Holds bytes (writes r ++ zeros gaps) ∧ getU32Be bytes k = c ↔ L.read bytes = F.set r c)) :
    Exact L fun r bytes => F.set r (n6Crc32c bytes k) where
  length_wire r := by
    rw [hwire, hexact]
    exact length_store.trans length_fill
  wire_eq_iff r bytes hr hlen := by
    have hlen' := hlen.trans hexact
    rw [hwire, sealValue_eq_iff hk hlen' ((hspans r).symm ▸ laid) ((hspans r).symm ▸ hcov),
      hread r bytes _ hr hlen']
  decodable_iff bytes r := by rw [hchecks, F.get_eq_iff]
  encodable_withCrc r _ := hsame r _
  withCrc_withCrc r _ := F.set_set r _

end Layouts

/-! ### The layouts of the keys -/

theorem laneKey_exact : Exact laneKeyLayout fun r _ => r := by
  refine @exact_fill _ laneKeyLayout laneKeyWrites
    [(0, 1), (1, 1), (2, 1), (3, 1), (4, 4), (8, 32), (40, 8)]
    (fun _ => by simp only [laneKeyLayout]) (fun r => by simp [laneKeyWrites]) (by decide)
    (by decide) (fun _ _ => by simp only [laneKeyLayout]) fun r bytes hr hlen => ?_
  obtain ⟨layer, kind, dir, reserved0, id, digest, kgen⟩ := r
  change bytes.length = 48 at hlen
  simp only [laneKeyLayout, Bool.and_eq_true, beq_iff_eq] at hr ⊢
  obtain ⟨⟨⟨⟨⟨rfl, -⟩, -⟩, -⟩, -⟩, -⟩ := hr
  simp (disch := omega) only [laneKeyWrites, holds_cons, holds_nil, and_true, LaneKey.mk.injEq,
    holdsAt_putU8, holdsAt_putU32Be, holdsAt_putU64Be, holdsAt_putVector]

theorem hwKey_exact : Exact hwKeyLayout fun r _ => r := by
  refine @exact_fill _ hwKeyLayout hwKeyWrites [(0, 1), (1, 1), (2, 1), (3, 1), (4, 28)]
    (fun _ => by simp only [hwKeyLayout]) (fun r => by simp [hwKeyWrites]) (by decide)
    (by decide) (fun _ _ => by simp only [hwKeyLayout]) fun r bytes hr hlen => ?_
  obtain ⟨kind, layer, dir, reserved0, digest⟩ := r
  change bytes.length = 32 at hlen
  simp only [hwKeyLayout, Bool.and_eq_true, beq_iff_eq] at hr ⊢
  obtain ⟨⟨⟨rfl, rfl⟩, -⟩, -⟩ := hr
  simp (disch := omega) only [hwKeyWrites, holds_cons, holds_nil, and_true, HwKey.mk.injEq,
    holdsAt_putU8, holdsAt_putVector]

theorem alKey_exact : Exact alKeyLayout fun r _ => r := by
  refine @exact_fill _ alKeyLayout alKeyWrites [(0, 1), (1, 1), (2, 1), (3, 1), (4, 8), (12, 12)]
    (fun _ => by simp only [alKeyLayout]) (fun r => by simp [alKeyWrites]) (by decide)
    (by decide) (fun _ _ => by simp only [alKeyLayout]) fun r bytes hr hlen => ?_
  obtain ⟨kind, layer, side, reserved0, epoch, fingerprint⟩ := r
  change bytes.length = 24 at hlen
  simp only [alKeyLayout, Bool.and_eq_true, beq_iff_eq] at hr ⊢
  obtain ⟨⟨⟨⟨rfl, rfl⟩, -⟩, -⟩, -⟩ := hr
  simp (disch := omega) only [alKeyWrites, holds_cons, holds_nil, and_true, AlKey.mk.injEq,
    holdsAt_putU8, holdsAt_putU64Be, holdsAt_putVector]

theorem contextKey_exact (kind : UInt8) : Exact (contextKeyLayout kind) fun r _ => r := by
  refine @exact_fill _ (contextKeyLayout kind) (contextKeyWrites kind)
    [(0, 1), (1, 1), (2, 1), (3, 1), (4, 4), (8, 8), (16, 12)]
    (fun _ => by simp only [contextKeyLayout]) (fun r => by simp [contextKeyWrites])
    (show Laid 28 _ by decide) (show Covers 28 _ by decide)
    (fun _ _ => by simp only [contextKeyLayout]) fun r bytes hr hlen => ?_
  obtain ⟨recKind, layer, dir, side, id, epoch, fingerprint⟩ := r
  change bytes.length = 28 at hlen
  simp only [contextKeyLayout, Bool.and_eq_true, beq_iff_eq] at hr ⊢
  obtain ⟨⟨⟨⟨⟨rfl, -⟩, -⟩, -⟩, -⟩, -⟩ := hr
  simp (disch := omega) only [contextKeyWrites, holds_cons, holds_nil, and_true,
    ContextKey.mk.injEq, holdsAt_putU8, holdsAt_putU32Be, holdsAt_putU64Be, holdsAt_putVector]

/-! ### The layouts of the values -/

def LaneValue.crcField : CrcField LaneValue where
  get r := r.valueCrc32c
  set r c := { r with valueCrc32c := c }
  get_eq_iff _ _ := ⟨fun h => h ▸ rfl, fun h => (congrArg LaneValue.valueCrc32c h).symm⟩
  set_set _ _ := rfl

def HwValue.crcField : CrcField HwValue where
  get r := r.valueCrc32c
  set r c := { r with valueCrc32c := c }
  get_eq_iff _ _ := ⟨fun h => h ▸ rfl, fun h => (congrArg HwValue.valueCrc32c h).symm⟩
  set_set _ _ := rfl

def AlValue.crcField : CrcField AlValue where
  get r := r.valueCrc32c
  set r c := { r with valueCrc32c := c }
  get_eq_iff _ _ := ⟨fun h => h ▸ rfl, fun h => (congrArg AlValue.valueCrc32c h).symm⟩
  set_set _ _ := rfl

def RtValue.crcField : CrcField RtValue where
  get r := r.valueCrc32c
  set r c := { r with valueCrc32c := c }
  get_eq_iff _ _ := ⟨fun h => h ▸ rfl, fun h => (congrArg RtValue.valueCrc32c h).symm⟩
  set_set _ _ := rfl

def CfValue.crcField : CrcField CfValue where
  get r := r.valueCrc32c
  set r c := { r with valueCrc32c := c }
  get_eq_iff _ _ := ⟨fun h => h ▸ rfl, fun h => (congrArg CfValue.valueCrc32c h).symm⟩
  set_set _ _ := rfl

/-- Three bytes that no write reaches. -/
theorem holdsAt_gap (h : o + 3 ≤ bytes.length) :
    HoldsAt bytes (o, List.replicate 3 0) ↔
      (#v[bytes.getD o 0, bytes.getD (o + 1) 0, bytes.getD (o + 2) 0] : Vector UInt8 3) =
        #v[0, 0, 0] :=
  @holdsAt_putVector bytes o 3 #v[0, 0, 0] h

theorem three_zeros (v : Vector UInt8 3) : v = #v[0, 0, 0] ↔
    getElem v 0 (Nat.zero_lt_succ _) = 0 ∧ getElem v 1 (Nat.one_lt_succ_succ _) = 0 ∧
      getElem v 2 (Nat.lt_succ_self _) = 0 := by
  obtain ⟨⟨l⟩, hl⟩ := v
  match l, hl with
  | [a, b, c], _ => simp

theorem allZero_three (v : Vector UInt8 3) : allZero v = true ↔ v = #v[0, 0, 0] := by
  rw [← Vector.toList_inj]
  unfold allZero
  obtain ⟨⟨l⟩, hl⟩ := v
  match l, hl with
  | [a, b, c], _ => simp

theorem laneValue_exact (magic : UInt32) (side : UInt8) (counterOk : UInt64 → Bool) :
    Exact (laneValueLayout magic side counterOk) fun r bytes =>
      { r with valueCrc32c := n6Crc32c bytes 64 } := by
  refine @exact_seal _ 64 (laneValueLayout magic side counterOk) (laneValueWrites magic side)
    [(0, 4), (4, 2), (6, 2), (8, 8), (16, 8), (24, 16), (40, 8), (48, 1), (52, 12), (49, 3)]
    [(49, 3)] LaneValue.crcField (by decide) rfl (fun _ => by simp only [laneValueLayout])
    (fun r => by simp [laneValueWrites]) (by decide) (by decide)
    (fun _ _ => by simp only [laneValueLayout, LaneValue.crcField]) (fun bytes r => ?_)
    fun r bytes c hr hlen => ?_
  · simp only [laneValueLayout, LaneValue.crcField, Bool.and_eq_true, beq_iff_eq, allZero_three,
      three_zeros, and_assoc]
  · obtain ⟨magic', schema, reserved0, counter, kgen, prefix16, epoch, side', reserved1,
      fingerprint, crc⟩ := r
    simp only [laneValueLayout, Bool.and_eq_true, beq_iff_eq, allZero_three] at hr ⊢
    obtain ⟨⟨⟨⟨⟨⟨⟨rfl, rfl⟩, rfl⟩, rfl⟩, rfl⟩, -⟩, -⟩, -⟩ := hr
    simp (disch := omega) only [laneValueWrites, LaneValue.crcField, zeros, List.map_cons,
      List.map_nil, holds_append, holds_cons, holds_nil, and_true, LaneValue.mk.injEq,
      holdsAt_putU8, holdsAt_putU16Be, holdsAt_putU32Be, holdsAt_putU64Be, holdsAt_putVector,
      holdsAt_gap, and_assoc]
    -- the gap stands last among the writes and in the middle of the record
    rw [and_left_comm (a := getVector 12 bytes 52 = _)]

theorem hwValue_exact :
    Exact hwValueLayout fun r bytes => { r with valueCrc32c := n6Crc32c bytes 24 } := by
  refine @exact_seal _ 24 hwValueLayout hwValueWrites
    [(0, 4), (4, 2), (6, 2), (8, 8), (16, 8)] [] HwValue.crcField (by decide) rfl
    (fun _ => by simp only [hwValueLayout]) (fun r => by simp [hwValueWrites]) (by decide)
    (by decide) (fun _ _ => by simp only [hwValueLayout, HwValue.crcField])
    (fun bytes r => ?_) fun r bytes c hr hlen => ?_
  · simp only [hwValueLayout, HwValue.crcField, Bool.and_eq_true, beq_iff_eq]
  · obtain ⟨magic, schema, reserved0, water, now, crc⟩ := r
    simp only [hwValueLayout, Bool.and_eq_true, beq_iff_eq] at hr ⊢
    obtain ⟨⟨⟨rfl, rfl⟩, rfl⟩, -⟩ := hr
    simp (disch := omega) only [hwValueWrites, HwValue.crcField, zeros, List.map_nil,
      List.append_nil, holds_cons, holds_nil, and_true, HwValue.mk.injEq, holdsAt_putU16Be,
      holdsAt_putU32Be, holdsAt_putU64Be, and_assoc]

theorem alValue_exact :
    Exact alValueLayout fun r bytes => { r with valueCrc32c := n6Crc32c bytes 52 } := by
  refine @exact_seal _ 52 alValueLayout alValueWrites
    [(0, 4), (4, 2), (6, 2), (8, 4), (12, 2), (14, 2), (16, 4), (20, 8), (28, 8), (36, 16)] []
    AlValue.crcField (by decide) rfl (fun _ => by simp only [alValueLayout])
    (fun r => by simp [alValueWrites]) (by decide) (by decide)
    (fun _ _ => by simp only [alValueLayout, AlValue.crcField]) (fun bytes r => ?_)
    fun r bytes c hr hlen => ?_
  · simp only [alValueLayout, AlValue.crcField, Bool.and_eq_true, beq_iff_eq]
  · obtain ⟨magic, schema, reserved0, floor, active, retired, reserved1, epoch, now, node, crc⟩ := r
    simp only [alValueLayout, Bool.and_eq_true, beq_iff_eq] at hr ⊢
    obtain ⟨⟨⟨⟨⟨rfl, rfl⟩, rfl⟩, rfl⟩, -⟩, -⟩ := hr
    simp (disch := omega) only [alValueWrites, AlValue.crcField, zeros, List.map_nil,
      List.append_nil, holds_cons, holds_nil, and_true, AlValue.mk.injEq, holdsAt_putU16Be,
      holdsAt_putU32Be, holdsAt_putU64Be, holdsAt_putVector, and_assoc]

theorem rtValue_exact :
    Exact rtValueLayout fun r bytes => { r with valueCrc32c := n6Crc32c bytes 44 } := by
  refine @exact_seal _ 44 rtValueLayout rtValueWrites
    [(0, 4), (4, 2), (6, 2), (8, 4), (12, 8), (20, 8), (28, 12), (40, 1), (41, 1), (42, 1), (43, 1)]
    [] RtValue.crcField (by decide) rfl (fun _ => by simp only [rtValueLayout])
    (fun r => by simp [rtValueWrites]) (by decide) (by decide)
    (fun _ _ => by simp only [rtValueLayout, RtValue.crcField]) (fun bytes r => ?_)
    fun r bytes c hr hlen => ?_
  · simp only [rtValueLayout, RtValue.crcField, Bool.and_eq_true, beq_iff_eq]
  · obtain ⟨magic, schema, flags, id, epoch, water, digest, side, dir, layer, reserved0, crc⟩ := r
    simp only [rtValueLayout, Bool.and_eq_true, beq_iff_eq] at hr ⊢
    obtain ⟨⟨⟨⟨⟨⟨⟨⟨⟨rfl, rfl⟩, rfl⟩, rfl⟩, -⟩, -⟩, -⟩, -⟩, -⟩, -⟩ := hr
    simp (disch := omega) only [rtValueWrites, RtValue.crcField, zeros, List.map_nil,
      List.append_nil, holds_cons, holds_nil, and_true, RtValue.mk.injEq, holdsAt_putU8,
      holdsAt_putU16Be, holdsAt_putU32Be, holdsAt_putU64Be, holdsAt_putVector, and_assoc]

theorem cfValue_exact :
    Exact cfValueLayout fun r bytes => { r with valueCrc32c := n6Crc32c bytes 60 } := by
  refine @exact_seal _ 60 cfValueLayout cfValueWrites
    [(0, 4), (4, 2), (6, 2), (8, 4), (12, 8), (20, 16), (36, 8), (44, 12), (56, 1), (57, 1), (58, 1),
      (59, 1)] [] CfValue.crcField (by decide) rfl (fun _ => by simp only [cfValueLayout])
    (fun r => by simp [cfValueWrites]) (by decide) (by decide)
    (fun _ _ => by simp only [cfValueLayout, CfValue.crcField]) (fun bytes r => ?_)
    fun r bytes c hr hlen => ?_
  · simp only [cfValueLayout, CfValue.crcField, Bool.and_eq_true, beq_iff_eq]
  · obtain ⟨magic, schema, flags, id, epoch, stamp, now, digest, side, dir, layer, reason, crc⟩ := r
    simp only [cfValueLayout, Bool.and_eq_true, beq_iff_eq] at hr ⊢
    obtain ⟨⟨⟨⟨⟨⟨⟨⟨rfl, rfl⟩, rfl⟩, -⟩, -⟩, -⟩, -⟩, -⟩, -⟩ := hr
    simp (disch := omega) only [cfValueWrites, CfValue.crcField, zeros, List.map_nil,
      List.append_nil, holds_cons, holds_nil, and_true, CfValue.mk.injEq, holdsAt_putU8,
      holdsAt_putU16Be, holdsAt_putU32Be, holdsAt_putU64Be, holdsAt_putVector, and_assoc]

/-! ### Calls -/

section Calls

variable {L : Layout α} {withCrc : α → List UInt8 → α}

/-- What an encoder and a decoder are for each other, for all places of their arguments: `withCrc`
fills in the check. -/
structure Faithful (exact : ℕ) (encode : EncodeCall → α → CodecStatus × Encoded)
    (decode : DecodeCall → List UInt8 → α → CodecStatus × α) (withCrc : α → List UInt8 → α) :
    Prop where
  /-- What was encoded is read back. -/
  decode_encode : ∀ c r, (encode c r).1 = .ok →
    ∀ d out, decodePrep d exact exact = .ok →
      let wire := (encode c r).2.arena.take (encode c r).2.len
      decode d wire out = (.ok, withCrc r wire)
  /-- What was read is encoded to the same bytes. -/
  encode_decode : ∀ d bytes out, (decode d bytes out).1 = .ok →
    ∀ c, encodePrep c exact = .ok →
      encode c (decode d bytes out).2 =
        (.ok, ⟨bytes ++ c.arena.drop bytes.length, bytes.length⟩)
  encode_rejected : ∀ c r, (encode c r).1 ≠ .ok → (encode c r).2 = ⟨c.arena, c.len⟩
  decode_rejected : ∀ d bytes out, (decode d bytes out).1 ≠ .ok → (decode d bytes out).2 = out

theorem encodeWith_of_ok {c : EncodeCall} {r : α} (h : (encodeWith L c r).1 = .ok) :
    encodePrep c L.exact = .ok ∧ L.encodable r = true ∧
      encodeWith L c r = (.ok, ⟨store c.arena 0 (L.wire r), L.exact⟩) := by
  unfold encodeWith at h ⊢
  split at h
  · next hprep =>
    split_ifs at h with hr
    exact ⟨hprep, hr, if_pos hr⟩
  · next hprep => exact absurd h hprep

theorem decodeWith_of_ok {d : DecodeCall} {out : α} (h : (decodeWith L d bytes out).1 = .ok) :
    decodePrep d bytes.length L.exact = .ok ∧ L.decodable bytes (L.read bytes) = true ∧
      decodeWith L d bytes out = (.ok, L.read bytes) := by
  unfold decodeWith at h ⊢
  split at h
  · next hprep =>
    dsimp only at h
    split_ifs at h with hr
    exact ⟨hprep, hr, if_pos hr⟩
  · next hprep => exact absurd h hprep

theorem room_of_encodePrep {c : EncodeCall} (h : encodePrep c n = .ok) : n ≤ c.arena.length := by
  unfold encodePrep at h
  split_ifs at h with hnull hcap
  exact (not_lt.1 hcap).trans (c.room fun hout => hnull (.inr (.inr hout)))

theorem length_of_decodePrep {d : DecodeCall} (h : decodePrep d k n = .ok) : k = n := by
  unfold decodePrep needExact at h
  by_contra hne
  split_ifs at h

theorem store_zero {arena wire : List UInt8} (h : wire.length ≤ arena.length) :
    store arena 0 wire = wire ++ arena.drop wire.length := by
  rw [store_eq_append ((Nat.zero_add _).trans_le h), List.take_zero, List.nil_append, Nat.zero_add]

/-- **An exact layout has a faithful codec.** -/
theorem faithful_of_exact (h : Exact L withCrc) :
    Faithful L.exact (encodeWith L) (decodeWith L) withCrc where
  decode_encode c r henc d out hprep := by
    obtain ⟨hroom, hr, heq⟩ := encodeWith_of_ok henc
    have hlen := h.length_wire r
    have hfits : (L.wire r).length ≤ c.arena.length := hlen.trans_le (room_of_encodePrep hroom)
    have hwire : (store c.arena 0 (L.wire r)).take L.exact = L.wire r := by
      rw [store_zero hfits, ← hlen, List.take_left]
    have hread : L.read (L.wire r) = withCrc r (L.wire r) :=
      (h.wire_eq_iff r (L.wire r) hr hlen).1 rfl
    have hdecodable : L.decodable (L.wire r) (withCrc r (L.wire r)) = true :=
      (h.decodable_iff _ _).2 ⟨(h.encodable_withCrc _ _).trans hr, h.withCrc_withCrc _ _⟩
    rw [heq]
    dsimp only
    rw [hwire]
    unfold decodeWith
    rw [hlen, hprep]
    dsimp only
    rw [hread, if_pos hdecodable]
  encode_decode d bytes out hdec c hprep := by
    obtain ⟨hinput, hdecodable, heq⟩ := decodeWith_of_ok hdec
    have hlen := length_of_decodePrep hinput
    obtain ⟨hr, hcrc⟩ := (h.decodable_iff _ _).1 hdecodable
    have hwire : L.wire (L.read bytes) = bytes := (h.wire_eq_iff _ _ hr hlen).2 hcrc.symm
    have hfits : bytes.length ≤ c.arena.length := hlen.trans_le (room_of_encodePrep hprep)
    rw [heq]
    unfold encodeWith
    rw [hprep]
    dsimp only
    rw [if_pos hr, hwire, store_zero hfits, hlen]
  encode_rejected c r hne := by
    unfold encodeWith at hne ⊢
    split
    · next hprep =>
      rw [hprep] at hne
      dsimp only at hne
      split_ifs at hne ⊢
      · exact absurd rfl hne
      · rfl
    · rfl
  decode_rejected d bytes out hne := by
    unfold decodeWith at hne ⊢
    split
    · next hprep =>
      rw [hprep] at hne
      dsimp only at hne ⊢
      split_ifs at hne ⊢
      · exact absurd rfl hne
      · rfl
    · rfl

end Calls

example :
    (encodeLaneKey ⟨0xffffffff, 0x1000, 56, 0x2000, 48, 0x3000, 4, List.replicate 48 0, 0,
      fun _ => by decide⟩ ⟨layerHop, laneHopAck, dirRi, 0, 7, Vector.replicate 32 9, 1⟩).1 = .ok := by
  decide

/-! ### Keys -/

inductive KeyKind where
  | lane
  | hw
  | al
  | rt
  | cf
  deriving DecidableEq, Repr

/-- Some call of the decoder of the kind accepts the bytes. -/
def KeyAccepts (bytes : List UInt8) : KeyKind → Prop
  | .lane => ∃ d out, (decodeLaneKey d bytes out).1 = .ok
  | .hw => ∃ d out, (decodeN6hwKey d bytes out).1 = .ok
  | .al => ∃ d out, (decodeN6alKey d bytes out).1 = .ok
  | .rt => ∃ d out, (decodeN6rtKey d bytes out).1 = .ok
  | .cf => ∃ d out, (decodeN6cfKey d bytes out).1 = .ok

/-- No byte string is a key of two kinds. -/
def KeysUnambiguous : Prop := ∀ bytes k k', KeyAccepts bytes k → KeyAccepts bytes k' → k = k'

/-- Length and record kind, that an accepted key has. -/
def KeyKind.shape : KeyKind → ℕ × Option UInt8
  | .lane => (48, none)
  | .hw => (32, none)
  | .al => (24, none)
  | .rt => (28, some recKindRt)
  | .cf => (28, some recKindCf)

theorem length_of_decodeWith {L : Layout α} {d : DecodeCall} {out : α}
    (h : (decodeWith L d bytes out).1 = .ok) : bytes.length = L.exact :=
  length_of_decodePrep (decodeWith_of_ok h).1

theorem contextKey_kind {kind : UInt8} {d : DecodeCall} {out : ContextKey}
    (h : (decodeWith (contextKeyLayout kind) d bytes out).1 = .ok) : bytes.getD 0 0 = kind := by
  obtain ⟨-, hdecodable, -⟩ := decodeWith_of_ok h
  simp only [contextKeyLayout, Bool.and_eq_true, beq_iff_eq] at hdecodable
  exact hdecodable.1.1.1.1.1

theorem shape_of_keyAccepts {kind : KeyKind} (h : KeyAccepts bytes kind) :
    bytes.length = kind.shape.1 ∧ ∀ b ∈ kind.shape.2, bytes.getD 0 0 = b := by
  cases kind with
  | lane | hw | al =>
    obtain ⟨d, out, h⟩ := h
    exact ⟨length_of_decodeWith h, fun b hb => by cases hb⟩
  | rt | cf =>
    obtain ⟨d, out, h⟩ := h
    exact ⟨length_of_decodeWith h, fun b hb => Option.some.inj hb ▸ contextKey_kind h⟩

theorem keysUnambiguous : KeysUnambiguous := by
  intro bytes k k' h h'
  obtain ⟨hlen, hkind⟩ := shape_of_keyAccepts h
  obtain ⟨hlen', hkind'⟩ := shape_of_keyAccepts h'
  have hsame := hlen.symm.trans hlen'
  cases k <;> cases k' <;> first | rfl | exact absurd hsame (by decide) | skip
  -- the two kinds of 28 bytes differ in the first one
  · exact absurd ((hkind _ rfl).symm.trans (hkind' _ rfl)) (by decide)
  · exact absurd ((hkind _ rfl).symm.trans (hkind' _ rfl)) (by decide)

/-- **Every N6 record codec is exact in both directions and leaves its outputs alone when it
rejects, and the keys are unambiguous.** -/
theorem record_codecs_faithful :
    Faithful 48 encodeLaneKey decodeLaneKey (fun r _ => r) ∧
    Faithful 68 encodeN6txValue decodeN6txValue
      (fun r wire => { r with valueCrc32c := n6Crc32c wire 64 }) ∧
    Faithful 68 encodeN6rxValue decodeN6rxValue
      (fun r wire => { r with valueCrc32c := n6Crc32c wire 64 }) ∧
    Faithful 32 encodeN6hwKey decodeN6hwKey (fun r _ => r) ∧
    Faithful 28 encodeN6hwValue decodeN6hwValue
      (fun r wire => { r with valueCrc32c := n6Crc32c wire 24 }) ∧
    Faithful 24 encodeN6alKey decodeN6alKey (fun r _ => r) ∧
    Faithful 56 encodeN6alValue decodeN6alValue
      (fun r wire => { r with valueCrc32c := n6Crc32c wire 52 }) ∧
    Faithful 28 encodeN6rtKey decodeN6rtKey (fun r _ => r) ∧
    Faithful 48 encodeN6rtValue decodeN6rtValue
      (fun r wire => { r with valueCrc32c := n6Crc32c wire 44 }) ∧
    Faithful 28 encodeN6cfKey decodeN6cfKey (fun r _ => r) ∧
    Faithful 64 encodeN6cfValue decodeN6cfValue
      (fun r wire => { r with valueCrc32c := n6Crc32c wire 60 }) ∧
    KeysUnambiguous :=
  ⟨faithful_of_exact laneKey_exact, faithful_of_exact (laneValue_exact _ _ _),
    faithful_of_exact (laneValue_exact _ _ _), faithful_of_exact hwKey_exact,
    faithful_of_exact hwValue_exact, faithful_of_exact alKey_exact,
    faithful_of_exact alValue_exact, faithful_of_exact (contextKey_exact _),
    faithful_of_exact rtValue_exact, faithful_of_exact (contextKey_exact _),
    faithful_of_exact cfValue_exact, keysUnambiguous⟩

end Ninlil.N6
