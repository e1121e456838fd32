import Ninlil.Fabric.Envelope

/-!
# The fabric envelope: what is sent is what is received

* `Envelope.wire`: what of an envelope is sent;
* `decode_packetOf`: the packet of an envelope decodes to the same fields and regions;
* `nfl1_codec`: both, and that a packet refused leaves nothing behind.
-/

namespace Ninlil.Fabric
namespace Nfl1

open Bytes Guard

/-! ### The check -/

section Check

variable {pre field field' post : List UInt8}

theorem mapIdx_eq_self {l : List UInt8} {f : ℕ → UInt8 → UInt8}
    (h : ∀ i b, i < l.length → f i b = b) : l.mapIdx f = l := by
  refine List.ext_getElem (List.length_mapIdx ..) fun i hi hi' => ?_
  rw [List.getElem_mapIdx]
  exact h i _ hi'

/-- The check reads its own four bytes as zeros. -/
theorem unchecked_append (hpre : pre.length = 12) (hfield : field.length = 4) :
    unchecked (pre ++ (field ++ post)) = pre ++ ([0, 0, 0, 0] ++ post) := by
  unfold unchecked
  rw [List.mapIdx_append, List.mapIdx_append, hpre, hfield]
  congr 1
  · exact mapIdx_eq_self fun i b hi => if_neg (by omega)
  · congr 1
    · obtain ⟨a, b, c, d, rfl⟩ := List.length_eq_four.1 hfield
      rfl
    · exact mapIdx_eq_self fun i b _ => if_neg (by omega)

/-- So packets that differ in them have the same check. -/
theorem nfl1Crc32c_congr (hpre : pre.length = 12) (hfield : field.length = 4)
    (hfield' : field'.length = 4) :
    nfl1Crc32c (pre ++ (field ++ post)) = nfl1Crc32c (pre ++ (field' ++ post)) := by
  unfold nfl1Crc32c
  rw [unchecked_append hpre hfield, unchecked_append hpre hfield']

/-- The check does not depend on the check. -/
theorem nfl1Crc32c_packetWith (e : Envelope) (crc crc' : UInt32) :
    nfl1Crc32c (packetWith e crc) = nfl1Crc32c (packetWith e crc') := by
  obtain ⟨post, hpost⟩ : ∃ post, ∀ crc, packetWith e crc =
      (nfl1Magic ++ encodeBE 2 1 ++ encodeBE 2 headerBytes ++ encodeBE 4 (structuralLength e)) ++
        (encodeBE 4 crc.toNat ++ post) := by
    refine ⟨((headerFields e (structuralLength e) 0).drop 5).flatten ++ e.regions.flatten,
      fun crc => ?_⟩
    unfold packetWith headerFields
    simp only [List.flatten_cons, List.drop_succ_cons, List.drop_zero, List.append_assoc]
  rw [hpost crc, hpost crc']
  refine nfl1Crc32c_congr ?_ (length_encodeBE 4 _) (length_encodeBE 4 _)
  simp [nfl1Magic]

end Check

/-! ### Fields -/

/-- The widths of the fields of a header. -/
def widths : List ℕ :=
  [4, 2, 2, 4, 4, 4, 4,
    16, 16, 16, 16, 16, 16, 16, 16, 8, 8, 4,
    16, 16, 16, 16, 16, 8, 8, 4,
    16, 8, 4, 8, 2, 32, 2, 2, 4, 2, 32,
    8, 16, 8, 8, 4, 4, 4, 4, 4, 4, 8, 16, 8, 4,
    16, 8, 2, 32, 16, 8, 4,
    2, 2, 2, 4, 4]

theorem length_headerFields (e : Envelope) (total : ℕ) (crc : UInt32) :
    (headerFields e total crc).map List.length = widths := by
  simp [headerFields, widths, nfl1Magic]

theorem length_header (e : Envelope) (total : ℕ) (crc : UInt32) :
    (headerFields e total crc).flatten.length = headerBytes := by
  rw [List.length_flatten, length_headerFields]
  rfl

theorem chop_packetWith (e : Envelope) (crc : UInt32) :
    chop 0 widths (packetWith e crc) = headerFields e (structuralLength e) crc := by
  rw [← length_headerFields e (structuralLength e) crc]
  exact @chop_flatten [] _ _

/-- The fields of a header, as the decoder reads them, are those that were written. -/
theorem readHeader_packetWith (e : Envelope) (crc : UInt32) (structSize : UInt16)
    (regions : List (List UInt8)) (hdescriptor : e.descriptorDigest.reservedZero = 0)
    (hcontent : e.contentDigest.reservedZero = 0)
    (hroute : e.routePolicyDigest.reservedZero = 0) :
    readHeader (packetWith e crc) structSize regions =
      { e with
        apiVersion := 1
        structSize := structSize
        namespaceId := .region (regions.getD 0 [])
        serviceId := .region (regions.getD 1 [])
        schemaId := .region (regions.getD 2 [])
        payload := .ofBytes (regions.getD 3 [])
        evidence := .ofBytes (regions.getD 4 []) } := by
  have h := chop_packetWith e crc
  simp only [widths, chop, headerFields, List.cons.injEq, Nat.reduceAdd, Nat.zero_add] at h
  obtain ⟨-, -, -, -, -, hkind, hflags,
    htransaction, hattempt, hevent, hsrcRuntime, hsrcApplication, hsrcDevice, hsrcInstallation,
    hsrcSite, hsrcBinding, hsrcMembership, hsrcFlags,
    hdstRuntime, hdstApplication, hdstDevice, hdstInstallation, hdstSite, hdstBinding,
    hdstMembership, hdstFlags,
    hauthority, hterm, hassignment, hrevision, hdescAlgorithm, hdescBytes, hmajor, hminor, hfamily,
    hcontAlgorithm, hcontBytes,
    hgeneration, hdeadlineEpoch, hdeadline, hgrace, hrequired, hreceipt, hdisposition, hcertainty,
    hguidance, hcancel, hdelay, htimeEpoch, htimeNow, htimeTrust,
    hpolicy, hpolicyRevision, hpolicyAlgorithm, hpolicyBytes, hpath, hpathEpoch, hrouteFlags, -⟩ := h
  have hdigest : ∀ {d : Digest256} {algorithm bytes : ℕ}, d.reservedZero = 0 →
      slice (packetWith e crc) algorithm 2 = encodeBE 2 d.algorithm.toNat →
      slice (packetWith e crc) bytes 32 = d.bytes.toList →
      getDigest (packetWith e crc) algorithm bytes = d := by
    intro d algorithm bytes hzero halgorithm hbytes
    unfold getDigest
    rw [getU16Be_of_slice halgorithm, getVector_of_slice hbytes, ← hzero]
  refine Envelope.ext rfl rfl (getU32Be_of_slice hkind) (getU32Be_of_slice hflags)
    (getVector_of_slice htransaction) (getVector_of_slice hattempt) (getVector_of_slice hevent)
    (getVector_of_slice hsrcRuntime) (getVector_of_slice hsrcApplication)
    (getVector_of_slice hsrcDevice) (getVector_of_slice hsrcInstallation)
    (getVector_of_slice hsrcSite) (getU64Be_of_slice hsrcBinding) (getU64Be_of_slice hsrcMembership)
    (getU32Be_of_slice hsrcFlags)
    (getVector_of_slice hdstRuntime) (getVector_of_slice hdstApplication)
    (getVector_of_slice hdstDevice) (getVector_of_slice hdstInstallation)
    (getVector_of_slice hdstSite) (getU64Be_of_slice hdstBinding) (getU64Be_of_slice hdstMembership)
    (getU32Be_of_slice hdstFlags)
    (getVector_of_slice hauthority) (getU64Be_of_slice hterm) (getU32Be_of_slice hassignment)
    (getU64Be_of_slice hrevision) (hdigest hdescriptor hdescAlgorithm hdescBytes)
    (getU16Be_of_slice hmajor) (getU16Be_of_slice hminor) (getU32Be_of_slice hfamily)
    (hdigest hcontent hcontAlgorithm hcontBytes)
    (getU64Be_of_slice hgeneration) (getVector_of_slice hdeadlineEpoch)
    (getU64Be_of_slice hdeadline) (getU64Be_of_slice hgrace) (getU32Be_of_slice hrequired)
    (getU32Be_of_slice hreceipt) (getU32Be_of_slice hdisposition) (getU32Be_of_slice hcertainty)
    (getU32Be_of_slice hguidance) (getU32Be_of_slice hcancel) (getU64Be_of_slice hdelay)
    (getVector_of_slice htimeEpoch) (getU64Be_of_slice htimeNow) (getU32Be_of_slice htimeTrust)
    (getVector_of_slice hpolicy) (getU64Be_of_slice hpolicyRevision)
    (hdigest hroute hpolicyAlgorithm hpolicyBytes) (getVector_of_slice hpath)
    (getU64Be_of_slice hpathEpoch) (getU32Be_of_slice hrouteFlags) rfl rfl rfl rfl rfl

/-! ### Regions -/

/-- A region whose length is that of its memory. -/
def View.Readable (v : View) : Prop := v.length = v.contents.length

theorem View.readable_of_not_null {v : View} (h : v.isNull = false) : v.Readable := by
  cases v with
  | null length => cases h
  | region bytes => rfl

/-- A region that may be absent when it is empty. -/
theorem View.readable_of_some {v : View} (h : 0 < v.length → v.isNull = false) : v.Readable := by
  cases v with
  | null length =>
    cases length with
    | zero => rfl
    | succ n => cases h (Nat.succ_pos n)
  | region bytes => rfl

@[simp] theorem View.contents_ofBytes (bytes : List UInt8) :
    (View.ofBytes bytes).contents = bytes := by
  cases bytes with
  | nil | cons => rfl

@[simp] theorem View.length_ofBytes (bytes : List UInt8) :
    (View.ofBytes bytes).length = bytes.length := by
  cases bytes with
  | nil | cons => rfl

/-- Copying leaves what is before alone, and then has the regions one after the other. -/
theorem slice_copyRegions_of_le {packet memory : List UInt8} {off o n : ℕ} (ns : List ℕ)
    (h : o + n ≤ off) : slice (copyRegions packet off ns memory) o n = slice memory o n := by
  induction ns generalizing off memory with
  | nil => rfl
  | cons m ns ih =>
    rw [copyRegions, ih (Nat.le_add_right_of_le h)]
    exact slice_store_of_disjoint (.inl h)

theorem chop_copyRegions {packet memory : List UInt8} {off : ℕ} {ns : List ℕ}
    (hpacket : headerBytes + off + ns.sum ≤ packet.length) (hmemory : off + ns.sum ≤ memory.length) :
    chop off ns (copyRegions packet off ns memory) = chop (headerBytes + off) ns packet := by
  induction ns generalizing off memory with
  | nil => rfl
  | cons n ns ih =>
    rw [List.sum_cons] at hpacket hmemory
    have hlen : (slice packet (headerBytes + off) n).length = n := length_slice_of_le (by omega)
    have hself : slice (store memory off (slice packet (headerBytes + off) n)) off n =
        slice packet (headerBytes + off) n := slice_store_self hlen (by omega)
    rw [copyRegions, chop, chop, slice_copyRegions_of_le ns (Nat.le_refl _), hself,
      ih (by omega) (by
        rw [length_store]
        omega), Nat.add_assoc]

/-- The regions that a packet ends with. -/
theorem chop_regions (e : Envelope) (crc : UInt32) :
    chop headerBytes (e.regions.map List.length) (packetWith e crc) = e.regions := by
  have h := @chop_flatten (headerFields e (structuralLength e) crc).flatten e.regions []
  rwa [length_header, List.append_nil] at h

/-! ### Accepted envelopes -/

/-- What the encoder asks of an envelope. -/
structure Accepted (e : Envelope) : Prop where
  texts : e.namespaceId.isNull = false ∧ e.serviceId.isNull = false ∧ e.schemaId.isNull = false
  payload : e.payload.Readable
  evidence : e.evidence.Readable
  algorithms : enumAlgorithmsKnown e = true
  catalog : closedCatalogDecodeOk e = true
  matrix : kindMatrixOk e = true
  structural : structuralMin ≤ structuralLength e ∧ structuralLength e ≤ structuralMax

section Acceptance

variable {e : Envelope} {capacity : ℕ} {packet : List UInt8}

theorem encode_of_accepted (h : Accepted e) (hcapacity : structuralLength e ≤ capacity) :
    encode e capacity = .ok (packetOf e) := by
  have hnull : ∀ v : View, v.Readable → 0 < v.length → v.isNull = false := by
    intro v hv hpos
    cases v with
    | null length =>
      have hzero : length = 0 := hv
      subst hzero
      exact absurd hpos (Nat.lt_irrefl 0)
    | region bytes => rfl
  unfold encode
  simp only [bind_eq_ok, require_eq_ok, exists_const]
  exact ⟨h.texts, hnull _ h.payload, hnull _ h.evidence, ⟨h.algorithms, h.catalog⟩, h.matrix,
    h.structural, hcapacity, rfl⟩

theorem accepted_of_encode (h : encode e capacity = .ok packet) :
    Accepted e ∧ packet = packetOf e := by
  unfold encode at h
  simp only [bind_eq_ok, require_eq_ok, exists_const] at h
  obtain ⟨htexts, hpayload, hevidence, ⟨halgorithms, hcatalog⟩, hmatrix, hstructural, -, hpacket⟩ := h
  cases hpacket
  exact ⟨⟨htexts, View.readable_of_some hpayload, View.readable_of_some hevidence, halgorithms,
    hcatalog, hmatrix, hstructural⟩, rfl⟩

/-- The bounds of the regions. -/
theorem Accepted.bounds (h : Accepted e) :
    (e.namespaceId.length ≤ textIdMax ∧ e.serviceId.length ≤ textIdMax ∧
      e.schemaId.length ≤ textIdMax) ∧
    e.payload.length ≤ payloadMax ∧ e.evidence.length ≤ evidenceMax := by
  have hcommon := h.matrix
  unfold kindMatrixOk at hcommon
  rw [Bool.and_eq_true, Bool.and_eq_true] at hcommon
  have hall := hcommon.1.1
  simp only [commonOk, textLenOk, Bool.and_eq_true, decide_eq_true_eq] at hall
  obtain ⟨⟨⟨⟨⟨-, htexts⟩, hdata⟩, -⟩, -⟩, -⟩ := hall
  exact ⟨⟨htexts.1.1.2, htexts.1.2.2, htexts.2.2⟩, hdata⟩

/-- The digests have nothing but their algorithm and their bytes. -/
theorem Accepted.digests (h : Accepted e) : e.descriptorDigest.reservedZero = 0 ∧
    e.contentDigest.reservedZero = 0 ∧ e.routePolicyDigest.reservedZero = 0 := by
  have hcommon := h.matrix
  unfold kindMatrixOk at hcommon
  rw [Bool.and_eq_true, Bool.and_eq_true] at hcommon
  have hall := hcommon.1.1
  simp only [commonOk, Digest256.ok, Bool.and_eq_true, beq_iff_eq] at hall
  obtain ⟨⟨⟨⟨⟨⟨⟨-, hdigests⟩, -⟩, -⟩, -⟩, -⟩, -⟩, -⟩ := hall
  exact ⟨hdigests.1.1.1.2, hdigests.1.2.1.2, hdigests.2.1.2⟩

/-- The lengths announced are those of the regions. -/
theorem Accepted.lengths (h : Accepted e) : e.regions.map List.length =
    [e.namespaceId.length, e.serviceId.length, e.schemaId.length, e.payload.length,
      e.evidence.length] := by
  have hns : e.namespaceId.Readable := View.readable_of_not_null h.texts.1
  have hsvc : e.serviceId.Readable := View.readable_of_not_null h.texts.2.1
  have hsch : e.schemaId.Readable := View.readable_of_not_null h.texts.2.2
  unfold Envelope.regions
  rw [hns, hsvc, hsch, h.payload, h.evidence]
  rfl

theorem Accepted.length_packetWith (h : Accepted e) (crc : UInt32) :
    (packetWith e crc).length = structuralLength e := by
  unfold packetWith structuralLength
  rw [List.length_append, length_header, List.length_flatten, h.lengths]
  simp only [List.sum_cons, List.sum_nil]
  omega

/-- The lengths that the header of a packet announces. -/
theorem Accepted.regionLengths (h : Accepted e) (crc : UInt32) :
    regionLengths (packetWith e crc) = e.regions.map List.length := by
  have hchop := chop_packetWith e crc
  simp only [widths, chop, headerFields, List.cons.injEq, Nat.reduceAdd, Nat.zero_add] at hchop
  obtain ⟨-, -, -, -, -, -, -, -, -, -, -, -, -, -, -, -, -, -, -, -, -, -, -, -, -, -, -, -, -, -, -,
    -, -, -, -, -, -, -, -, -, -, -, -, -, -, -, -, -, -, -, -, -, -, -, -, -, -, -, hns, hsvc, hsch,
    hpayload, hevidence, -⟩ := hchop
  obtain ⟨⟨hns', hsvc', hsch'⟩, hpayload', hevidence'⟩ := h.bounds
  unfold textIdMax at hns' hsvc' hsch'
  unfold payloadMax at hpayload'
  unfold evidenceMax at hevidence'
  have h16 : ∀ {offset n : ℕ}, slice (packetWith e crc) offset 2 = encodeBE 2 n → n ≤ 63 →
      (getU16Be (packetWith e crc) offset).toNat = n := by
    intro offset n hslice hn
    unfold getU16Be
    rw [hslice, decodeBE_encodeBE_of_lt (by omega)]
    exact UInt16.toNat_ofNat_of_lt' (Nat.lt_of_le_of_lt hn (by decide))
  have h32 : ∀ {offset n : ℕ}, slice (packetWith e crc) offset 4 = encodeBE 4 n → n ≤ 1024 →
      (getU32Be (packetWith e crc) offset).toNat = n := by
    intro offset n hslice hn
    unfold getU32Be
    rw [hslice, decodeBE_encodeBE_of_lt (by omega)]
    exact UInt32.toNat_ofNat_of_lt' (Nat.lt_of_le_of_lt hn (by decide))
  rw [h.lengths]
  unfold Nfl1.regionLengths
  rw [h16 hns hns', h16 hsvc hsvc', h16 hsch hsch', h32 hpayload hpayload',
    h32 hevidence (by omega)]

end Acceptance

/-! ### Decoding what was encoded -/

/-- What of an envelope is sent: its fields, and what its regions hold. -/
def Envelope.wire (e : Envelope) : Envelope :=
  { e with
    apiVersion := 0
    structSize := 0
    namespaceId := .region e.namespaceId.contents
    serviceId := .region e.serviceId.contents
    schemaId := .region e.schemaId.contents
    payload := .region e.payload.contents
    evidence := .region e.evidence.contents }

section Sending

variable {e : Envelope} {packet : List UInt8} {structSize : UInt16} {workspace : Workspace}

/-- An envelope as it is received. -/
def Envelope.received (e : Envelope) (structSize : UInt16) : Envelope :=
  { e with
    apiVersion := 1
    structSize := structSize
    namespaceId := .region e.namespaceId.contents
    serviceId := .region e.serviceId.contents
    schemaId := .region e.schemaId.contents
    payload := .ofBytes e.payload.contents
    evidence := .ofBytes e.evidence.contents }

theorem wire_received (e : Envelope) (structSize : UInt16) :
    (e.received structSize).wire = e.wire := by
  unfold Envelope.received Envelope.wire
  dsimp only
  rw [View.contents_ofBytes, View.contents_ofBytes]
  rfl

theorem Accepted.readHeader_eq (h : Accepted e) (crc : UInt32) :
    readHeader (packetWith e crc) structSize e.regions = e.received structSize := by
  obtain ⟨hdescriptor, hcontent, hroute⟩ := h.digests
  exact readHeader_packetWith e crc structSize _ hdescriptor hcontent hroute

/-- The tests of an envelope received are those of the envelope sent. -/
theorem Accepted.kindMatrixOk_received (h : Accepted e) :
    kindMatrixOk (e.received structSize) = kindMatrixOk e := by
  have hns : e.namespaceId.Readable := View.readable_of_not_null h.texts.1
  have hsvc : e.serviceId.Readable := View.readable_of_not_null h.texts.2.1
  have hsch : e.schemaId.Readable := View.readable_of_not_null h.texts.2.2
  unfold kindMatrixOk commonOk Envelope.received
  dsimp only
  rw [View.length_ofBytes, View.length_ofBytes, ← h.payload, ← h.evidence]
  unfold View.Readable at hns hsvc hsch
  rw [hns, hsvc, hsch]
  rfl

/-- **The packet of an envelope decodes to it.** -/
theorem decode_packetOf (h : Accepted e) (structSize : UInt16) (workspace : Workspace) :
    (decode (packetOf e) structSize workspace).status = .ok ∧
      (decode (packetOf e) structSize workspace).out.wire = e.wire := by
  have hcrc : nfl1Crc32c (packetWith e (nfl1Crc32c (packetWith e 0))) =
      nfl1Crc32c (packetWith e 0) := nfl1Crc32c_packetWith e _ 0
  unfold packetOf
  generalize nfl1Crc32c (packetWith e 0) = crc at hcrc ⊢
  have hlen := h.length_packetWith crc
  obtain ⟨hmin, hmax⟩ := h.structural
  have hregions := h.regionLengths crc
  have hsum : headerBytes + (e.regions.map List.length).sum = (packetWith e crc).length := by
    rw [hlen, h.lengths]
    unfold structuralLength
    simp only [List.sum_cons, List.sum_nil]
    omega
  have hchop := chop_packetWith e crc
  simp only [widths, chop, headerFields, List.cons.injEq, Nat.reduceAdd, Nat.zero_add] at hchop
  obtain ⟨hmagic, hversion, hheader, htotal, hstored, -⟩ := hchop
  have hversion' : getU16Be (packetWith e crc) 4 = 1 := getU16Be_of_slice hversion
  have hheader' : (getU16Be (packetWith e crc) 6).toNat = headerBytes := by
    rw [getU16Be_of_slice (v := 584) hheader]
    rfl
  have htotal' : (getU32Be (packetWith e crc) 8).toNat = (packetWith e crc).length := by
    have hlt : structuralLength e < 2 ^ 32 := Nat.lt_of_le_of_lt hmax (by decide)
    unfold getU32Be
    rw [htotal, decodeBE_encodeBE_of_lt (by omega), hlen]
    exact UInt32.toNat_ofNat_of_lt' hlt
  have hstored' : getU32Be (packetWith e crc) 12 = crc := getU32Be_of_slice hstored
  have hlengths : lengthsOk (packetWith e crc) = true := by
    obtain ⟨⟨hns, hsvc, hsch⟩, hpayload, hevidence⟩ := h.bounds
    unfold lengthsOk
    rw [hregions, h.lengths]
    simp only [List.zip_cons_cons, List.zip_nil_right, List.all_cons, List.all_nil,
      Bool.and_eq_true, decide_eq_true_eq]
    exact ⟨hns, hsvc, hsch, hpayload, hevidence, trivial⟩
  have hborrowed : borrowed (packetWith e crc) structSize = e.received structSize := by
    unfold borrowed
    rw [hregions, chop_regions]
    exact h.readHeader_eq crc
  have hsize := workspace.size
  have hcopied : chop 0 (e.regions.map List.length)
      (copyRegions (packetWith e crc) 0 (e.regions.map List.length) workspace.bytes) =
      e.regions := by
    unfold structuralMax at hmax
    unfold headerBytes at hsum
    unfold codecCeiling at hsize
    rw [chop_copyRegions (by
      unfold headerBytes
      omega) (by omega)]
    exact chop_regions e crc
  unfold structuralMin at hmin
  unfold structuralMax at hmax
  have hceiling : ¬codecCeiling < (packetWith e crc).length := by
    unfold codecCeiling
    omega
  unfold decode
  dsimp only
  rw [if_neg hceiling, if_neg (by
      unfold headerBytes
      omega), if_neg (not_not.2 hmagic), if_neg (not_not.2 hversion'), if_neg (not_not.2 hheader'),
    if_neg (not_not.2 htotal'), if_neg (by
      unfold structuralMin structuralMax
      omega), hstored', hcrc, if_neg (not_not.2 rfl), if_neg (by
      rw [hlengths]
      exact Bool.noConfusion), if_neg (by
      rw [hregions]
      exact not_not.2 hsum), hborrowed, if_neg (by
      show ¬enumAlgorithmsKnown e = false
      rw [h.algorithms]
      exact Bool.noConfusion), if_neg (by
      show ¬closedCatalogDecodeOk e = false
      rw [h.catalog]
      exact Bool.noConfusion), if_neg (by
      rw [h.kindMatrixOk_received, h.matrix]
      exact Bool.noConfusion), if_neg (by
      rw [hregions]
      omega)]
  refine ⟨rfl, ?_⟩
  dsimp only
  rw [hregions, hcopied, h.readHeader_eq crc]
  exact wire_received e structSize

end Sending

/-! ### Encoding what was decoded -/

/-- What the decoder asks of a packet. -/
structure Decodes (packet : List UInt8) (structSize : UInt16) : Prop where
  magic : slice packet 0 4 = nfl1Magic
  version : getU16Be packet 4 = 1
  header : (getU16Be packet 6).toNat = headerBytes
  total : (getU32Be packet 8).toNat = packet.length
  structural : structuralMin ≤ packet.length ∧ packet.length ≤ structuralMax
  crc : getU32Be packet 12 = nfl1Crc32c packet
  need : headerBytes + (regionLengths packet).sum = packet.length
  algorithms : enumAlgorithmsKnown (borrowed packet structSize) = true
  catalog : closedCatalogDecodeOk (borrowed packet structSize) = true
  matrix : kindMatrixOk (borrowed packet structSize) = true

section Receiving

variable {packet : List UInt8} {structSize : UInt16} {workspace : Workspace}

/-- Nothing but the last branch of a list of tests succeeds. -/
theorem status_ite {c : Prop} [Decidable c] {a b : Decoded} (ha : a.status ≠ .ok)
    (h : (if c then a else b).status = .ok) : ¬c ∧ b.status = .ok := by
  by_cases hc : c
  · rw [if_pos hc] at h
    exact absurd h ha
  · rw [if_neg hc] at h
    exact ⟨hc, h⟩

/-- A packet that decodes, to its own fields and regions. -/
theorem decodes_of_ok (h : (decode packet structSize workspace).status = .ok) :
    Decodes packet structSize ∧
      (decode packet structSize workspace).out = borrowed packet structSize := by
  unfold decode at h ⊢
  obtain ⟨hceiling, h⟩ := status_ite (by nofun) h
  obtain ⟨hheader, h⟩ := status_ite (by nofun) h
  obtain ⟨hmagic, h⟩ := status_ite (by nofun) h
  obtain ⟨hversion, h⟩ := status_ite (by nofun) h
  obtain ⟨hlength, h⟩ := status_ite (by nofun) h
  obtain ⟨htotal, h⟩ := status_ite (by nofun) h
  obtain ⟨hstructural, h⟩ := status_ite (by nofun) h
  obtain ⟨hcrc, h⟩ := status_ite (by nofun) h
  obtain ⟨hlengths, h⟩ := status_ite (by nofun) h
  obtain ⟨hneed, h⟩ := status_ite (by nofun) h
  obtain ⟨halgorithms, h⟩ := status_ite (by nofun) h
  obtain ⟨hcatalog, h⟩ := status_ite (by nofun) h
  obtain ⟨hmatrix, h⟩ := status_ite (by nofun) h
  obtain ⟨hroom, -⟩ := status_ite (by nofun) h
  dsimp only
  rw [if_neg hceiling, if_neg hheader, if_neg hmagic, if_neg hversion, if_neg hlength,
    if_neg htotal, if_neg hstructural, if_neg hcrc, if_neg hlengths, if_neg hneed,
    if_neg halgorithms, if_neg hcatalog, if_neg hmatrix, if_neg hroom]
  have hneed' := not_not.1 hneed
  have hsize := workspace.size
  refine ⟨⟨not_not.1 hmagic, not_not.1 hversion, not_not.1 hlength, not_not.1 htotal, by omega,
    not_not.1 hcrc, hneed', Bool.eq_true_of_not_eq_false halgorithms,
    Bool.eq_true_of_not_eq_false hcatalog, Bool.eq_true_of_not_eq_false hmatrix⟩, ?_⟩
  dsimp only
  rw [chop_copyRegions (by omega) (by omega)]
  rfl

/-- What was refused left nothing behind. -/
def Clean (workspace : Workspace) (d : Decoded) : Prop :=
  d.status ≠ .ok → d.out = .zero ∧ d.workspace = workspace

theorem clean_ite {c : Prop} [Decidable c] {a b : Decoded} (ha : Clean workspace a)
    (hb : Clean workspace b) : Clean workspace (if c then a else b) := by
  by_cases hc : c
  · rw [if_pos hc]
    exact ha
  · rw [if_neg hc]
    exact hb

/-- A packet that is refused leaves nothing behind. -/
theorem clean_decode : Clean workspace (decode packet structSize workspace) := by
  have hfail : ∀ status required, Clean workspace ⟨status, .zero, workspace, required⟩ :=
    fun _ _ _ => ⟨rfl, rfl⟩
  unfold decode
  refine clean_ite (hfail _ _) <| clean_ite (hfail _ _) <| clean_ite (hfail _ _) <|
    clean_ite (hfail _ _) <| clean_ite (hfail _ _) <| clean_ite (hfail _ _) <|
    clean_ite (hfail _ _) <| clean_ite (hfail _ _) <| clean_ite (hfail _ _) <|
    clean_ite (hfail _ _) <| clean_ite (hfail _ _) <| clean_ite (hfail _ _) <|
    clean_ite (hfail _ _) <| clean_ite (hfail _ _) fun h => absurd rfl h

/-- The regions of a packet, one after the other. -/
theorem regions_borrowed (packet : List UInt8) (structSize : UInt16) :
    (borrowed packet structSize).regions =
      chop headerBytes (regionLengths packet) packet := by
  unfold borrowed regionLengths Envelope.regions readHeader chop
  dsimp only
  rw [View.contents_ofBytes, View.contents_ofBytes]
  rfl

theorem Decodes.lengths (h : Decodes packet structSize) :
    (borrowed packet structSize).namespaceId.length = (getU16Be packet 570).toNat ∧
      (borrowed packet structSize).serviceId.length = (getU16Be packet 572).toNat ∧
      (borrowed packet structSize).schemaId.length = (getU16Be packet 574).toNat ∧
      (borrowed packet structSize).payload.length = (getU32Be packet 576).toNat ∧
      (borrowed packet structSize).evidence.length = (getU32Be packet 580).toNat := by
  have hneed := h.need
  unfold regionLengths at hneed
  simp only [List.sum_cons, List.sum_nil] at hneed
  unfold borrowed readHeader regionLengths
  dsimp only
  rw [View.length_ofBytes, View.length_ofBytes]
  exact ⟨length_slice_of_le (by omega), length_slice_of_le (by omega),
    length_slice_of_le (by omega), length_slice_of_le (by omega), length_slice_of_le (by omega)⟩

theorem Decodes.structuralLength (h : Decodes packet structSize) :
    structuralLength (borrowed packet structSize) = packet.length := by
  obtain ⟨hns, hsvc, hsch, hpayload, hevidence⟩ := h.lengths
  have hneed := h.need
  unfold regionLengths at hneed
  simp only [List.sum_cons, List.sum_nil] at hneed
  unfold Nfl1.structuralLength
  rw [hns, hsvc, hsch, hpayload, hevidence]
  omega

/-- What a packet decodes to is accepted by the encoder. -/
theorem Decodes.accepted (h : Decodes packet structSize) : Accepted (borrowed packet structSize) := by
  have hbytes : ∀ bytes, (View.ofBytes bytes).Readable := by
    intro bytes
    unfold View.Readable
    rw [View.length_ofBytes, View.contents_ofBytes]
  refine ⟨⟨rfl, rfl, rfl⟩, hbytes _, hbytes _, h.algorithms, h.catalog, h.matrix, ?_⟩
  rw [h.structuralLength]
  exact h.structural

/-- The fields of the header are written as they were read. -/
theorem Decodes.headerFields (h : Decodes packet structSize) :
    headerFields (borrowed packet structSize) packet.length (getU32Be packet 12) =
      chop 0 widths packet := by
  have hlen : 584 ≤ packet.length := by
    have hmin := h.structural.1
    unfold structuralMin at hmin
    omega
  obtain ⟨hns, hsvc, hsch, hpayload, hevidence⟩ := h.lengths
  have hversion : encodeBE 2 1 = slice packet 4 2 := by
    rw [← encode_getU16Be (by omega), h.version]
    rfl
  have hheader : encodeBE 2 headerBytes = slice packet 6 2 := by
    rw [← encode_getU16Be (by omega), h.header]
  have htotal : encodeBE 4 packet.length = slice packet 8 4 := by
    rw [← encode_getU32Be (by omega), h.total]
  unfold Nfl1.headerFields
  rw [hns, hsvc, hsch, hpayload, hevidence, hversion, hheader, htotal, ← h.magic]
  simp (disch := omega) only [borrowed, readHeader, getDigest, encode_getU16Be, encode_getU32Be,
    encode_getU64Be, toList_getVector, widths, chop, Nat.reduceAdd, Nat.zero_add]

/-- **A packet that decodes is the packet of what it decodes to.** -/
theorem Decodes.packetOf (h : Decodes packet structSize) :
    packetOf (borrowed packet structSize) = packet := by
  have hwith : packetWith (borrowed packet structSize) (getU32Be packet 12) = packet := by
    have hsum : widths.sum = headerBytes := by decide
    unfold packetWith
    rw [h.structuralLength, h.headerFields, flatten_chop, regions_borrowed, flatten_chop, hsum]
    have happend := @slice_append_slice packet 0 headerBytes (regionLengths packet).sum
    rw [Nat.zero_add, h.need, slice_self rfl] at happend
    exact happend
  have hcrc : nfl1Crc32c (packetWith (borrowed packet structSize) 0) = getU32Be packet 12 := by
    rw [nfl1Crc32c_packetWith _ 0 (getU32Be packet 12), hwith, h.crc]
  unfold Nfl1.packetOf
  rw [hcrc, hwith]

end Receiving

/-! ### The codec -/

/-- **The codec.** An envelope that is sent is received with the same fields and regions; a packet
that is received is what its envelope is sent as; and a packet that is refused leaves an envelope of
zeros and the workspace as it was. -/
theorem nfl1_codec (structSize : UInt16) :
    (∀ e capacity packet, encode e capacity = .ok packet → ∀ workspace,
      (decode packet structSize workspace).status = .ok ∧
        (decode packet structSize workspace).out.wire = e.wire) ∧
    (∀ packet workspace, (decode packet structSize workspace).status = .ok →
      ∀ capacity, packet.length ≤ capacity →
        encode (decode packet structSize workspace).out capacity = .ok packet) ∧
    ∀ packet workspace, (decode packet structSize workspace).status ≠ .ok →
      (decode packet structSize workspace).out = .zero ∧
        (decode packet structSize workspace).workspace = workspace := by
  refine ⟨fun e capacity packet h workspace => ?_, fun packet workspace h capacity hcapacity => ?_,
    fun packet workspace => clean_decode⟩
  · obtain ⟨haccepted, rfl⟩ := accepted_of_encode h
    exact decode_packetOf haccepted structSize workspace
  · obtain ⟨hdecodes, hout⟩ := decodes_of_ok h
    rw [hout, encode_of_accepted hdecodes.accepted (by
      rw [hdecodes.structuralLength]
      exact hcapacity), hdecodes.packetOf]

/-- A request to cancel, with texts of one byte. -/
def sampleEnvelope : Envelope :=
  { Envelope.zero with
    messageKind := 4
    transactionId := Vector.replicate 16 1
    attemptId := Vector.replicate 16 2
    sourceRuntimeId := Vector.replicate 16 3
    sourceApplicationId := Vector.replicate 16 4
    targetRuntimeId := Vector.replicate 16 5
    targetApplicationId := Vector.replicate 16 6
    descriptorDigest := ⟨1, 0, Vector.replicate 32 7⟩
    family := 1
    contentDigest := ⟨1, 0, Vector.replicate 32 8⟩
    routePolicyId := Vector.replicate 16 9
    routePolicyRevision := 1
    routePolicyDigest := ⟨1, 0, Vector.replicate 32 10⟩
    selectedPathId := Vector.replicate 16 11
    pathSelectionEpoch := 1
    namespaceId := .region [97]
    serviceId := .region [98]
    schemaId := .region [99] }

theorem accepted_sampleEnvelope : Accepted sampleEnvelope :=
  ⟨⟨rfl, rfl, rfl⟩, rfl, rfl, by decide +kernel, by decide +kernel, by decide +kernel,
    by decide +kernel⟩

/-- It is sent, received, and sent again. -/
theorem nfl1_codec_cancel : ∃ packet, encode sampleEnvelope 587 = .ok packet ∧
    ∀ workspace, (decode packet 0 workspace).status = .ok ∧
      encode (decode packet 0 workspace).out packet.length = .ok packet := by
  have hsent := @encode_of_accepted _ 587 accepted_sampleEnvelope (by decide +kernel)
  obtain ⟨hreceived, hresent, -⟩ := nfl1_codec 0
  refine ⟨_, hsent, fun workspace => ?_⟩
  obtain ⟨hok, -⟩ := hreceived _ _ _ hsent workspace
  exact ⟨hok, hresent _ _ hok _ (Nat.le_refl _)⟩

end Nfl1
end Ninlil.Fabric
