import Ninlil.Mfdt.SenderFailures

/-!
# The record of a live transfer, written and read back

* `Xfer.semanticOk`: what `active_record_semantic_ok` asks of a record, asked of its transfer;
* `recordUnpack_activeRecord`: the record that is packed is unpacked exactly if the transfer has it;
* `project_packed`: then it is projected to the transfer again, on a slot of the same role, transfer
  and session, and is refused on any other.
-/

namespace Ninlil
namespace Bytes

variable {image rest : List UInt8} {w : Put} {o : ℕ}

/-- A field before the check is where it was. -/
theorem HoldsAt.sealed (h : HoldsAt image w) (hw : w.1 + w.2.length ≤ o) :
    HoldsAt (sealAt image o) w := by
  unfold HoldsAt at h ⊢
  rwa [← slice_take hw, take_sealAt, slice_take hw]

/-- A field of the first part of a record is a field of the record. -/
theorem HoldsAt.append (h : HoldsAt image w) (hw : w.1 + w.2.length ≤ image.length) :
    HoldsAt (image ++ rest) w := by
  unfold HoldsAt at h ⊢
  rwa [slice_append_left hw]

theorem holdsAt_vector {n : ℕ} {v : Vector UInt8 n} :
    HoldsAt image (putVector o v) ↔ slice image o n = v.toList := by
  unfold HoldsAt putVector
  rw [Vector.length_toList]

theorem getU32Be_sealAt (h : o + 4 ≤ image.length) :
    getU32Be (sealAt image o) o = crc32c ((sealAt image o).take o) := by
  rw [take_sealAt]
  exact getU32Be_of_slice (slice_store_self (length_encodeBE 4 _) h)

end Bytes

namespace Mfdt

open Bytes Outcomes

/-- The entries and the content of a transfer are as long as its counts say, and its OPEN names the
same counts. -/
structure Xfer.Recordable (x : Xfer) : Prop where
  entryLength : x.entries.length = (x.chunkCount * entryBytes).toNat
  contentLength : x.content.length = x.totalLength.toNat
  whole : x.wholeDigest = getVector 32 x.openBody 32
  total : x.totalLength = getU32Be x.openBody 20
  chunks : x.chunkCount = getU16Be x.openBody 26
  pages : x.pageCount = getU16Be x.openBody 28

/-- `recordChunkOk`, of the transfer. -/
def Xfer.chunkOk (sha256 : Hash) (x : Xfer) (geo : Geometry) (i : ℕ) : Bool :=
  let entry := slice x.entries (i * 40) 40
  let chunk := slice x.content (i * chunkSize.toNat) (geo.chunkLength i).toNat
  if x.role == 1 || x.pageBitmap.toNat.testBit (i / entriesPerPage.toNat) then
    entryOk geo x.entries i &&
      (if x.role == 1 || x.chunkBitmap.toNat.testBit i then
        (sha256 chunk).toList == slice entry 8 32
      else bytesZero chunk)
  else bytesZero entry

/-- The counts of a transfer, its OPEN, its manifest and its chunks. -/
def Xfer.contentOk (sha256 : Hash) (x : Xfer) : Bool :=
  match geometry x.totalLength with
  | .error _ => false
  | .ok geo =>
    geo.chunkCount == x.chunkCount && geo.pageCount == x.pageCount &&
      slice x.openBody 0 16 == x.transferId.toList && getU32Be x.openBody 16 == x.revision &&
      getU16Be x.openBody 24 == chunkSize && getU16Be x.openBody 30 == entriesPerPage &&
      (validateOpen sha256 x.openBody none (x.chunkCount * entryBytes) none x.totalLength
        false).isOk &&
      slice x.openBody 202 32 == x.manifestDigest.toList &&
      x.chunkBitmap &&& ~~~chunkMask x.chunkCount == 0 &&
      x.pageBitmap &&& ~~~pageMask x.pageCount == 0 &&
      (List.range x.chunkCount.toNat).all (x.chunkOk sha256 geo)

/-- What `active_record_semantic_ok` asks of a record, of the transfer that was packed: the reason
and the actor of an abort are never written, so there is none. -/
def Xfer.semanticOk (sha256 : Hash) (x : Xfer) (sessionGeneration : UInt32) : Bool :=
  let unreserved := isZero x.reservationId
  let noEvidence := isZero x.evidenceId
  let noToken := x.publicationState == 0 || isZero x.publicationToken
  let unpublished := isZero x.publicationEvidenceDigest
  activeStateOk x.role x.stateCode && !isZero x.transferId && x.revision != 0 &&
    !isZero x.manifestDigest && x.recordGeneration != 0 && x.retryBudget ≤ retryBudgetMax &&
    x.publicationState ≤ 2 && x.handoffState ≤ 1 && x.acceptNotified ≤ 1 &&
    !isZero x.durableLocalEpoch && x.lastResumeGen ≤ 8 && sessionGeneration != 0 &&
    x.contentOk sha256 &&
    (!(x.role == 1 || x.pageBitmap == pageMask x.pageCount) ||
      (Mfdt.manifestDigest sha256 x.openBody x.entries x.chunkCount).toList ==
        x.manifestDigest.toList) &&
    (!(x.role == 1 || x.chunkBitmap == chunkMask x.chunkCount) ||
      (sha256 x.content).toList == slice x.openBody 32 32) &&
    unreserved == isZero x.resEpoch && unreserved == (x.notAfterMs == 0) &&
    (unreserved || x.role != 2 || x.resEpoch.toList == x.durableLocalEpoch.toList) &&
    noEvidence == isZero x.acceptanceRecordDigest &&
    noEvidence == (x.acceptanceRecordGeneration == 0) &&
    (x.publicationState != 0 || (noToken && unpublished && x.handoffState == 0)) &&
    (x.publicationState != 1 || (!noToken && unpublished && x.handoffState == 0)) &&
    (x.publicationState != 2 || (!noToken && !unpublished && x.handoffState == 1)) &&
    x.abortGeneration == 0 && !(x.role == 2 && unreserved) &&
    !(x.role == 1 && x.stateCode != sOpenPending && unreserved) &&
    !(x.stateCode == sAcceptRx && noEvidence) &&
    !(x.role == 2 && rContentVerified ≤ x.stateCode &&
      (noEvidence || x.publicationState == 0)) &&
    !(x.stateCode == rHandedOff && (x.publicationState != 2 || x.handoffState != 1))

section ActiveRecord

variable {x : Xfer} {generation : UInt32}

/-- The fields of the header that are never written. -/
def reservedSpans : List (ℕ × ℕ) := [(14, 2), (110, 2), (228, 2), (230, 2), (232, 16)]

theorem laid_activeHeader (x : Xfer) (generation : UInt32) (total : ℕ) :
    Laid 304 ((activeHeaderPuts x generation total).map span ++ reservedSpans) := by
  simp only [activeHeaderPuts, List.map_cons, List.map_nil, span_putU8, span_putU16Be,
    span_putU32Be, span_putU64Be, span_putVector]
  decide

/-- The bytes of a record after its header. -/
def Xfer.recordTail (x : Xfer) (crc : List UInt8) : List UInt8 :=
  x.openBody ++ (x.entries ++ (x.content ++ crc))

/-- The header of a record. -/
def activeHeader (x : Xfer) (generation : UInt32) : List UInt8 :=
  sealAt (fill headerBytes (activeHeaderPuts x generation
    (headerBytes + x.openBody.length + x.entries.length + x.content.length + 4))) 304

@[simp] theorem length_activeHeader : (activeHeader x generation).length = headerBytes := by
  unfold activeHeader
  rw [length_sealAt, length_fill]

theorem activeRecord_eq (x : Xfer) (generation : UInt32) : ∃ crc, crc.length = 4 ∧
    activeRecord x generation = activeHeader x generation ++ x.recordTail crc := by
  refine ⟨_, length_encodeBE 4 (crc32c (activeHeader x generation ++ x.openBody ++ x.entries ++
    x.content)).toNat, ?_⟩
  unfold Xfer.recordTail
  rw [← List.append_assoc, ← List.append_assoc, ← List.append_assoc]
  rfl

theorem length_activeRecord (x : Xfer) (generation : UInt32) :
    (activeRecord x generation).length =
      headerBytes + x.openBody.length + x.entries.length + x.content.length + 4 := by
  obtain ⟨crc, hcrc, hrec⟩ := activeRecord_eq x generation
  rw [hrec, Xfer.recordTail, List.length_append, List.length_append, List.length_append,
    List.length_append, length_activeHeader, hcrc]
  omega

/-- Every field of the header is in the record, with zeros where nothing is written. -/
theorem holds_activeRecord (x : Xfer) (generation : UInt32) :
    Holds (activeRecord x generation)
      (activeHeaderPuts x generation x.recordBytes ++ zeros reservedSpans) := by
  obtain ⟨crc, -, hrec⟩ := activeRecord_eq x generation
  have hlaid := laid_activeHeader x generation x.recordBytes
  intro w hw
  have hin : w.1 + w.2.length ≤ 304 := by
    refine hlaid.2 (span w) ?_
    have hmem := List.mem_map_of_mem (f := span) hw
    rwa [List.map_append, map_span_zeros] at hmem
  have hfill := holds_fill (n := headerBytes)
    ⟨hlaid.1, fun s hs => (hlaid.2 s hs).trans (by decide)⟩ w hw
  rw [hrec]
  refine HoldsAt.append (hfill.sealed hin) ?_
  rw [length_activeHeader]
  exact hin.trans (by decide)

/-- What is read of the header of a record that was packed. -/
structure HeaderOf (x : Xfer) (generation : UInt32) (rec : List UInt8) : Prop where
  magic : rec.take 4 = (if x.role = 1 then magicNm3s else magicNm3r).toList
  schema : getU16Be rec 4 = 2
  header : getU16Be rec 6 = 308
  total : getU32Be rec 8 = UInt32.ofNat x.recordBytes
  role : rec.getD 12 0 = x.role
  state : rec.getD 13 0 = x.stateCode
  transferId : slice rec 16 16 = x.transferId.toList
  revision : getU32Be rec 32 = x.revision
  manifest : slice rec 36 32 = x.manifestDigest.toList
  record : getU64Be rec 68 = x.recordGeneration
  acceptance : getU64Be rec 76 = x.acceptanceRecordGeneration
  openLength : getU16Be rec 84 = UInt16.ofNat x.openBody.length
  entryLength : getU16Be rec 86 = x.chunkCount * entryBytes
  contentLength : getU32Be rec 88 = x.totalLength
  chunkCount : getU16Be rec 92 = x.chunkCount
  pageCount : getU16Be rec 94 = x.pageCount
  chunks : getU64Be rec 96 = x.chunkBitmap
  pages : rec.getD 104 0 = x.pageBitmap
  retry : rec.getD 105 0 = x.retryBudget
  unused : rec.getD 106 0 = 0
  publication : rec.getD 107 0 = x.publicationState
  handoff : rec.getD 108 0 = x.handoffState
  notified : rec.getD 109 0 = x.acceptNotified
  reservation : slice rec 112 16 = x.reservationId.toList
  resEpoch : slice rec 128 16 = x.resEpoch.toList
  notAfter : getU64Be rec 144 = x.notAfterMs
  evidence : slice rec 152 16 = x.evidenceId.toList
  acceptanceDigest : slice rec 168 32 = x.acceptanceRecordDigest.toList
  epoch : slice rec 200 16 = x.durableLocalEpoch.toList
  mono : getU64Be rec 216 = x.durableLocalMonoMs
  abort : getU32Be rec 224 = x.abortGeneration
  token : slice rec 248 16 =
    (if x.publicationState = 0 then zeroId else x.publicationToken).toList
  published : slice rec 264 32 = x.publicationEvidenceDigest.toList
  resume : getU32Be rec 296 = x.lastResumeGen
  session : getU32Be rec 300 = generation
  reserved : getU16Be rec 14 = 0 ∧ getU16Be rec 110 = 0 ∧ getU16Be rec 228 = 0 ∧
    getU16Be rec 230 = 0 ∧ slice rec 232 16 = List.replicate 16 0

theorem headerOf_activeRecord (x : Xfer) (generation : UInt32) :
    HeaderOf x generation (activeRecord x generation) := by
  have hholds := holds_activeRecord x generation
  have hlen : 304 ≤ (activeRecord x generation).length := by
    rw [length_activeRecord]
    unfold headerBytes
    omega
  have hzero : zeros reservedSpans = [putU16Be 14 0, putU16Be 110 0, putU16Be 228 0,
      putU16Be 230 0, (232, List.replicate 16 0)] := by decide
  rw [hzero] at hholds
  simp only [activeHeaderPuts, List.cons_append, List.nil_append, holds_cons] at hholds
  simp (disch := omega) only [holdsAt_putU8, holdsAt_putU16Be, holdsAt_putU32Be,
    holdsAt_putU64Be, holdsAt_vector] at hholds
  obtain ⟨hmagic, hschema, hheader, htotal, hrole, hstate, hid, hrevision, hmanifest, hgeneration,
    hacceptance, hopen, hentries, hcontent, hchunkCount, hpageCount, hchunks, hpages, hretry,
    hunused, hpublication, hhandoff, hnotified, hreservation, hresEpoch, hnotAfter, hevidence,
    hdigest, hepoch, hmono, habort, htoken, hpublished, hresume, hsession, h14, h110, h228, h230,
    h232, -⟩ := hholds
  exact ⟨hmagic, hschema, hheader, htotal, hrole, hstate, hid, hrevision, hmanifest, hgeneration,
    hacceptance, hopen, hentries, hcontent, hchunkCount, hpageCount, hchunks, hpages, hretry,
    hunused, hpublication, hhandoff, hnotified, hreservation, hresEpoch, hnotAfter, hevidence,
    hdigest, hepoch, hmono, habort, htoken, hpublished, hresume, hsession, h14, h110, h228, h230,
    h232⟩

/-! ### The parts after the header -/

theorem record_lengths (h : x.Recordable) (hopen : x.openBody.length < 2 ^ 16)
    (generation : UInt32) :
    (getU16Be (activeRecord x generation) 84).toNat = x.openBody.length ∧
      (getU16Be (activeRecord x generation) 86).toNat = x.entries.length ∧
      (getU32Be (activeRecord x generation) 88).toNat = x.content.length := by
  have hread := headerOf_activeRecord x generation
  rw [hread.openLength, hread.entryLength, hread.contentLength]
  exact ⟨UInt16.toNat_ofNat_of_lt' hopen, h.entryLength.symm, h.contentLength.symm⟩

theorem record_parts (h : x.Recordable) (hopen : x.openBody.length < 2 ^ 16)
    (generation : UInt32) :
    recordOpen (activeRecord x generation) = x.openBody ∧
      recordEntries (activeRecord x generation) = x.entries ∧
      recordContent (activeRecord x generation) = x.content := by
  obtain ⟨hopen, hentries, hcontent⟩ := record_lengths h hopen generation
  obtain ⟨crc, -, hrec⟩ := activeRecord_eq x generation
  have hhead : (activeHeader x generation).length = headerBytes := length_activeHeader
  refine ⟨?_, ?_, ?_⟩
  · unfold recordOpen
    rw [hopen, hrec]
    exact slice_field hhead rfl
  · unfold recordEntries
    rw [hopen, hentries, hrec, Xfer.recordTail, ← List.append_assoc]
    exact slice_field (by rw [List.length_append, hhead]) rfl
  · unfold recordContent
    rw [hopen, hentries, hcontent, hrec, Xfer.recordTail, ← List.append_assoc, ← List.append_assoc]
    exact slice_field (by rw [List.length_append, List.length_append, hhead]) rfl

/-! ### The checks -/

theorem recordChunkOk_activeRecord (sha256 : Hash) (h : x.Recordable)
    (hopen : x.openBody.length < 2 ^ 16) :
    recordChunkOk sha256 (activeRecord x generation) = x.chunkOk sha256 := by
  obtain ⟨-, hentries, hcontent⟩ := record_parts h hopen generation
  have hread := headerOf_activeRecord x generation
  funext geo i
  unfold recordChunkOk Xfer.chunkOk
  rw [hentries, hcontent, hread.role, hread.pages, hread.chunks]

/-- `record_unpack` asks of the record what `semanticOk` asks of its transfer. -/
theorem semanticOk_activeRecord (sha256 : Hash) (h : x.Recordable)
    (hopen : openBodyMin ≤ x.openBody.length ∧ x.openBody.length ≤ openBodyMax) :
    activeRecordSemanticOk sha256 (activeRecord x generation) = x.semanticOk sha256 generation := by
  have hshort : x.openBody.length < 2 ^ 16 := hopen.2.trans_lt (by decide)
  have hread := headerOf_activeRecord x generation
  obtain ⟨hrecOpen, hrecEntries, hrecContent⟩ := record_parts h hshort generation
  obtain ⟨hopenLen, -, -⟩ := record_lengths h hshort generation
  obtain ⟨h14, h110, h228, h230, h232⟩ := hread.reserved
  have hlength : ((activeRecord x generation).length ==
      headerBytes + x.openBody.length + (x.chunkCount * entryBytes).toNat + x.totalLength.toNat +
        4) = true := by
    rw [← h.entryLength, ← h.contentLength]
    exact beq_iff_eq.2 (length_activeRecord x generation)
  have hmagic : (if x.role = 1 then (activeRecord x generation).take 4 == magicNm3s.toList
      else (activeRecord x generation).take 4 == magicNm3r.toList) = true := by
    rw [hread.magic]
    split <;> exact beq_self_eq_true _
  have htoken : bytesZero (if x.publicationState = 0 then zeroId else x.publicationToken).toList =
      (x.publicationState == 0 || isZero x.publicationToken) := by
    by_cases hpub : x.publicationState = 0
    · rw [if_pos hpub, hpub]
      rfl
    · rw [if_neg hpub, beq_eq_false_iff_ne.2 hpub, Bool.false_or]
      rfl
  have hreserved : bytesZero (List.replicate 16 0) = true := rfl
  have hunused : decide ((0 : UInt8) ≤ 2) = true := rfl
  -- neither a reason nor an actor is written, so an abort has no generation
  have habort (before : Bool) : (before && x.abortGeneration == 0 &&
      decide (x.abortGeneration ≤ 8)) = (before && x.abortGeneration == 0) := by
    by_cases hzero : x.abortGeneration = 0
    · rw [hzero]
      exact Bool.and_true _
    · rw [beq_eq_false_iff_ne.2 hzero, Bool.and_false, Bool.false_and]
  unfold activeRecordSemanticOk Xfer.semanticOk Xfer.contentOk
  cases hgeo : geometry x.totalLength
  all_goals simp only [hgeo, hread.role, hread.state, hread.entryLength, hread.contentLength,
    hread.chunkCount, hread.pageCount, hread.chunks, hread.pages, hread.publication, hread.handoff,
    hrecOpen, hrecEntries, hrecContent, hread.reservation, hread.resEpoch, hread.notAfter,
    hread.evidence, hread.acceptance, hread.acceptanceDigest, hread.token, hread.published, hmagic,
    h14, h110, h228, h230, h232, hread.transferId, hread.revision, hread.manifest, hread.record,
    hread.retry, hread.unused, hread.notified, hread.epoch, hread.resume, hread.session,
    hread.abort, hopenLen, hlength, htoken, hreserved, hunused, decide_eq_true hopen.1,
    decide_eq_true hopen.2, recordChunkOk_activeRecord sha256 h hshort, ← h.total, ← h.chunks,
    ← h.pages, ← isZero.eq_1, beq_self_eq_true, Bool.and_true, beq_true, habort]

/-- Both checksums of a record are those of the bytes before them. -/
theorem sealed_activeRecord (x : Xfer) (generation : UInt32) :
    getU32Be (activeRecord x generation) 304 = crc32c ((activeRecord x generation).take 304) ∧
      getU32Be (activeRecord x generation) ((activeRecord x generation).length - 4) =
        crc32c ((activeRecord x generation).take ((activeRecord x generation).length - 4)) := by
  refine ⟨?_, ?_⟩
  · obtain ⟨crc, -, hrec⟩ := activeRecord_eq x generation
    have hin : 304 ≤ (activeHeader x generation).length := by
      rw [length_activeHeader]
      decide
    have hsealed : getU32Be (activeHeader x generation) 304 =
        crc32c ((activeHeader x generation).take 304) :=
      getU32Be_sealAt (by rw [length_fill]; decide)
    rw [hrec, List.take_append_of_le_length hin, ← hsealed]
    exact getU32Be_of_slice ((slice_append_left (by rw [length_activeHeader]; decide)).trans
      (encode_getU32Be (by rw [length_activeHeader]; decide)).symm)
  · generalize hbody : activeHeader x generation ++ x.openBody ++ x.entries ++ x.content = body
    have hrec : activeRecord x generation = body ++ (encodeBE 4 (crc32c body).toNat ++ []) := by
      rw [List.append_nil, ← hbody]
      rfl
    have hlast : (body ++ (encodeBE 4 (crc32c body).toNat ++ [])).length - 4 = body.length := by
      rw [List.append_nil, List.length_append, length_encodeBE, Nat.add_sub_cancel]
    rw [hrec, hlast, List.take_left]
    exact getU32Be_field _ rfl

/-- The record that is packed is unpacked exactly if its transfer has what is asked. -/
theorem recordUnpack_activeRecord (sha256 : Hash) (h : x.Recordable)
    (hopen : openBodyMin ≤ x.openBody.length ∧ x.openBody.length ≤ openBodyMax)
    (hbytes : x.recordBytes ≤ activeValueMax) :
    recordUnpack sha256 (activeRecord x generation) = x.semanticOk sha256 generation := by
  have hread := headerOf_activeRecord x generation
  have hlen : (activeRecord x generation).length = x.recordBytes := length_activeRecord x generation
  obtain ⟨hopenLen, hentryLen, hcontentLen⟩ :=
    record_lengths h (hopen.2.trans_lt (by decide)) generation
  obtain ⟨hheader, hcrc⟩ := sealed_activeRecord x generation
  have hsum : (activeRecord x generation).length =
      308 + x.openBody.length + x.entries.length + x.content.length + 4 := hlen
  have htotal : (UInt32.ofNat x.recordBytes).toNat = (activeRecord x generation).length := by
    rw [hlen, UInt32.toNat_ofNat_of_lt' (hbytes.trans_lt (by decide))]
  have hmagic : ((activeRecord x generation).take 4 == magicNm3s.toList ||
      (activeRecord x generation).take 4 == magicNm3r.toList) = true := by
    rw [hread.magic]
    split
    · rw [beq_self_eq_true, Bool.true_or]
    · rw [beq_self_eq_true, Bool.or_true]
  have hcontent : (getU32Be (activeRecord x generation) 88).toNat =
      (activeRecord x generation).length - 312 - x.openBody.length - x.entries.length := by
    rw [hcontentLen]
    omega
  unfold recordUnpack
  simp only [hopenLen, hentryLen, hcontent, hmagic, hread.schema, hread.header, hread.total, htotal,
    hheader, hcrc, semanticOk_activeRecord sha256 h hopen, beq_self_eq_true, Bool.and_true,
    decide_eq_true hopen.1, decide_eq_true hopen.2, decide_eq_true (hlen.trans_le hbytes),
    decide_eq_true (show 312 ≤ (activeRecord x generation).length by omega),
    decide_eq_true (show x.openBody.length ≤ (activeRecord x generation).length - 312 by omega),
    decide_eq_true (show x.entries.length ≤
      (activeRecord x generation).length - 312 - x.openBody.length by omega)]
  rw [hread.contentLength, hread.entryLength]
  cases hok : x.contentOk sha256 with
  | false =>
    have hbad : x.semanticOk sha256 generation = false := by
      unfold Xfer.semanticOk
      simp only [hok, Bool.and_false, Bool.false_and]
    rw [hbad, Bool.and_false]
  | true =>
    unfold Xfer.contentOk at hok
    cases hgeo : geometry x.totalLength with
    | error _ =>
      rw [hgeo] at hok
      cases hok
    | ok geo =>
      rw [hgeo] at hok
      simp only [Bool.and_eq_true, beq_iff_eq] at hok
      obtain ⟨⟨⟨⟨⟨⟨⟨⟨⟨⟨hcount, -⟩, -⟩, -⟩, -⟩, -⟩, -⟩, -⟩, -⟩, -⟩, -⟩ := hok
      simp only [hcount, beq_self_eq_true, Bool.true_and]

/-! ### The round trip -/

/-- What a slot takes over from the record of a transfer: the transfer, but for a token that is not
written before there is a publication. -/
theorem project_activeRecord (h : x.Recordable) (hopen : x.openBody.length < 2 ^ 16) (y : Xfer)
    (generation : UInt32) :
    y.project (activeRecord x generation) =
      { x with
        transferId := y.transferId
        occupied := y.occupied
        role := y.role
        terminal := y.terminal
        unpaidChunk := y.unpaidChunk
        publicationToken := if x.publicationState = 0 then zeroId else x.publicationToken } := by
  obtain ⟨hrecOpen, hentries, hcontent⟩ := record_parts h hopen generation
  have hread := headerOf_activeRecord x generation
  unfold Xfer.project
  rw [hrecOpen, hentries, hcontent, hread.state, hread.revision, hread.record, hread.acceptance,
    hread.chunks, hread.pages, hread.retry, hread.publication, hread.handoff, hread.notified,
    hread.notAfter, hread.mono, hread.abort, hread.resume, getVector_of_slice hread.manifest,
    getVector_of_slice hread.reservation, getVector_of_slice hread.resEpoch,
    getVector_of_slice hread.evidence, getVector_of_slice hread.acceptanceDigest,
    getVector_of_slice hread.epoch, getVector_of_slice hread.token,
    getVector_of_slice hread.published, h.whole, h.total, h.chunks, h.pages]

variable {σ τ : Type} {w w' : World σ} {rec : List UInt8}

/-- The transfer that `pack_active` records: with the local clock, and a sample of it. -/
def Xfer.stamped (x : Xfer) (cfg : Config) : Xfer :=
  { x with durableLocalEpoch := cfg.localClockEpoch, durableLocalMonoMs := cfg.nowMs }

/-- The local clock is known, and the transfer has no other. -/
def Engine.clocked (e : Engine) : Bool :=
  if isZero e.x.durableLocalEpoch then !isZero e.cfg.localClockEpoch
  else e.x.durableLocalEpoch == e.cfg.localClockEpoch

/-- What `pack_active` asks of an engine. -/
structure Engine.Packs (e : Engine) : Prop where
  clocked : e.clocked = true
  fits : (e.x.openBody.length ≤ 656 && e.x.entries.length ≤ 1480 &&
    e.x.recordBytes ≤ activeValueMax) = true
  param : ((e.x.role == 1 || e.x.role == 2) && openBodyMin ≤ e.x.openBody.length &&
    e.x.openBody.length ≤ openBodyMax) = true

theorem bindLocalEpoch_ends (w : World σ) :
    Ends bindLocalEpoch w
      (fun _ s => w.eng.clocked = true ∧
        s = w.withSlot { w.eng.x with durableLocalEpoch := w.eng.cfg.localClockEpoch })
      fun _ _ => w.eng.clocked = false := by
  unfold Engine.clocked
  refine ends_engine_bind ?_
  split
  · exact ends_require_bind id fun hclocked => ends_modify ⟨hclocked, rfl⟩
  · refine Ends.mono (ends_require fun hbad => hbad) ?_ fun _ _ hbad => hbad
    rintro _ _ ⟨rfl, hclocked⟩
    refine ⟨hclocked, ?_⟩
    rw [← beq_iff_eq.1 hclocked]
    rfl

/-- `pack_active` answers exactly if the engine has what it asks, and does no more than to stamp
the transfer. -/
theorem packActive_ends (w : World σ) :
    Ends packActive w
      (fun rec s => w.eng.Packs ∧ s = w.withSlot (w.eng.x.stamped w.eng.cfg) ∧
        rec = activeRecord (w.eng.x.stamped w.eng.cfg) w.eng.cfg.sessionGeneration)
      fun _ _ => ¬ w.eng.Packs := by
  refine (bindLocalEpoch_ends w).andThen ?_ ?_
  · exact fun _ _ hclocked hpacks => Bool.false_ne_true (hclocked.symm.trans hpacks.clocked)
  rintro _ _ ⟨hclocked, rfl⟩
  refine ends_engine_bind ?_
  refine Ends.bind (Q := fun _ s => s = w.withSlot (w.eng.x.stamped w.eng.cfg))
    (ends_modify rfl) ?_
  rintro _ _ rfl
  refine ends_engine_bind ?_
  refine ends_require_bind (fun hbad hpacks => ?_) fun hfits => ?_
  · exact Bool.false_ne_true (hbad.symm.trans hpacks.fits)
  refine ends_require_bind (fun hbad hpacks => ?_) fun hparam => ?_
  · exact Bool.false_ne_true (hbad.symm.trans hpacks.param)
  exact ends_pure ⟨⟨hclocked, hfits, hparam⟩, rfl, rfl⟩

theorem Engine.Packs.answers (hpacks : w.eng.Packs) :
    ∃ rec w', packActive.outcome w = (.ok rec, w') := by
  rcases hpack : packActive.outcome w with ⟨e | rec, w'⟩
  · exact absurd hpacks ((packActive_ends w).error hpack)
  · exact ⟨rec, w', rfl⟩

/-- A slot is of the role, the transfer and the session of a record. -/
def Engine.takes (e : Engine) (x : Xfer) (generation : UInt32) : Bool :=
  x.role == e.x.role && x.transferId.toList == e.x.transferId.toList &&
    generation == e.cfg.sessionGeneration

/-- **A transfer that is packed is projected to itself.** When `pack_active` answers, it has stamped
the transfer and done nothing else. `project_active_record` takes the record on a slot of any engine
exactly if the transfer has what `active_record_semantic_ok` asks and the slot is of the same role,
transfer and session, and refuses it without an effect otherwise. The slot then holds the transfer,
but for what is of the slot, and for a token that is not written before there is a publication. -/
theorem project_packed (sha256 : Hash) (st : Storage τ)
    (hpack : packActive.outcome w = (.ok rec, w')) (h : w.eng.x.Recordable) (v : World τ) :
    let x := w.eng.x.stamped w.eng.cfg
    w' = w.withSlot x ∧
      (projectActiveRecord sha256 st rec).outcome v =
        (if x.semanticOk sha256 w.eng.cfg.sessionGeneration ∧
            v.eng.takes x w.eng.cfg.sessionGeneration then
          (.ok ⟨⟩, { v with eng := v.eng.project st.port rec })
        else (.error .corrupt, v)) ∧
      (v.eng.takes x w.eng.cfg.sessionGeneration → (v.eng.project st.port rec).x =
        { x with
          occupied := v.eng.x.occupied
          terminal := v.eng.x.terminal
          unpaidChunk := v.eng.x.unpaidChunk
          publicationToken := if x.publicationState = 0 then zeroId else x.publicationToken }) := by
  intro x
  obtain ⟨hpacks, hw', hrec⟩ := (packActive_ends w).ok hpack
  have hopen : openBodyMin ≤ x.openBody.length ∧ x.openBody.length ≤ openBodyMax := by
    have hparam := hpacks.param
    simp only [Bool.and_eq_true, decide_eq_true_eq] at hparam
    exact ⟨hparam.1.2, hparam.2⟩
  have hbytes : x.recordBytes ≤ activeValueMax := by
    have hfits := hpacks.fits
    simp only [Bool.and_eq_true, decide_eq_true_eq] at hfits
    exact hfits.2
  have hx : x.Recordable := ⟨h.entryLength, h.contentLength, h.whole, h.total, h.chunks, h.pages⟩
  have hread := headerOf_activeRecord x w.eng.cfg.sessionGeneration
  have htakes : (rec.getD 12 0 == v.eng.x.role && slice rec 16 16 == v.eng.x.transferId.toList &&
      getU32Be rec 300 == v.eng.cfg.sessionGeneration) =
        v.eng.takes x w.eng.cfg.sessionGeneration := by
    rw [hrec, hread.role, hread.transferId, hread.session]
    rfl
  have hunpack : recordUnpack sha256 rec = x.semanticOk sha256 w.eng.cfg.sessionGeneration := by
    rw [hrec]
    exact recordUnpack_activeRecord sha256 hx hopen hbytes
  refine ⟨hw', ?_, fun hsame => ?_⟩
  · have hengine : (engine : Prog τ Engine).outcome v = (.ok v.eng, v) := rfl
    unfold projectActiveRecord
    rw [outcome_bind_ok hengine, hunpack, htakes]
    cases x.semanticOk sha256 w.eng.cfg.sessionGeneration with
    | false => rfl
    | true =>
      cases v.eng.takes x w.eng.cfg.sessionGeneration with
      | false | true => rfl
  · have hproject := project_activeRecord hx (hopen.2.trans_lt (by decide)) v.eng.x
      w.eng.cfg.sessionGeneration
    simp only [Engine.takes, Bool.and_eq_true, beq_iff_eq, Vector.toList_inj] at hsame
    obtain ⟨⟨hrole, hid⟩, -⟩ := hsame
    rw [hrec]
    refine hproject.trans ?_
    rw [← hrole, ← hid]

/-- A hash that adds the bytes up. -/
def sumHash : Hash := fun message =>
  zeroDigest.set 0 (1 + message.sum) (Nat.zero_lt_succ _)

/-- The OPEN of three bytes that a sender makes of the default metadata. -/
def openOfThree : List UInt8 :=
  let id (b : UInt8) := b :: List.replicate 15 0
  let digest (b : UInt8) := b :: List.replicate 31 0
  id 1 ++ [0, 0, 0, 1, 0, 0, 0, 3, 3, 128, 0, 1, 0, 1, 0, 22] ++ digest 7 ++ id 0x20 ++ id 0x30 ++
    id 0x40 ++ id 0x50 ++ [0, 0, 0, 0, 0, 0, 0, 1, 0, 1] ++ digest 54 ++ [0, 1, 0, 1, 0, 1, 0, 0] ++
    List.replicate 16 0 ++ List.replicate 8 255 ++ digest 119 ++ id 0x60 ++ List.replicate 4 0 ++
    id 0x70 ++ List.replicate 72 0 ++ id 0x80 ++ List.replicate 72 0 ++ [0, 1, 0, 0, 0, 0, 0, 1] ++
    List.replicate 16 0 ++ [0, 0, 0, 1, 0, 0, 0, 0] ++ ascii "nsx"

/-- The slot of a sender that offers them. -/
def sentThree : Xfer :=
  { Xfer.opening firstId [1, 2, 3] ⟨3, 1, 1, 3⟩
      ([0, 0, 0, 3, 0, 0, 0, 0, 7] ++ List.replicate 31 0) with
    manifestDigest := sumHash [118]
    wholeDigest := sumHash [1, 2, 3]
    openBody := openOfThree }

def sendingThree : World Unit := freeEngine.withSlot sentThree

/-- The slot as a restart prepares it, on an engine of the same session. -/
def restartedThree : World Unit :=
  freeEngine.withSlot { transferId := firstId, occupied := true, role := 1 }

/-- The three bytes that were being sent are there again after a restart. -/
theorem project_packed_three :
    ∃ rec w, packActive.outcome sendingThree = (.ok rec, w) ∧
      (projectActiveRecord sumHash noStore rec).outcome restartedThree =
        (.ok ⟨⟩, { restartedThree with eng := restartedThree.eng.project false rec }) ∧
      (restartedThree.eng.project false rec).x = sentThree.stamped freeEngine.eng.cfg ∧
      (projectActiveRecord sumHash noStore rec).outcome freeEngine =
        (.error .corrupt, freeEngine) := by
  have hpacks : sendingThree.eng.Packs := ⟨by decide, by decide +kernel, by decide +kernel⟩
  have hrecordable : sentThree.Recordable := by constructor <;> decide +kernel
  have hok : (sentThree.stamped freeEngine.eng.cfg).semanticOk sumHash 1 = true := by
    decide +kernel
  have htakes : restartedThree.eng.takes (sentThree.stamped freeEngine.eng.cfg) 1 = true := rfl
  have hrefuses : ¬ freeEngine.eng.takes (sentThree.stamped freeEngine.eng.cfg) 1 = true := by
    decide
  obtain ⟨rec, w, hpack⟩ := hpacks.answers
  obtain ⟨-, hsame, hx⟩ := project_packed sumHash noStore hpack hrecordable restartedThree
  obtain ⟨-, hother, -⟩ := project_packed sumHash noStore hpack hrecordable freeEngine
  exact ⟨rec, w, hpack, hsame.trans (if_pos ⟨hok, htakes⟩), hx htakes,
    hother.trans (if_neg fun hboth => hrefuses hboth.2)⟩

end ActiveRecord

end Mfdt
end Ninlil
