import Ninlil.Lib.Fill
import Ninlil.Mfdt.LabStore

/-!
# Bodies of a multi-frame transfer

`mfdt_v1_wire.c`, with the geometry and the digests of `mfdt_v1_crypto.c`.

* `geometry`: chunks and pages of a content;
* `encodeOpen`, `validateOpen`: the body that opens a transfer, with its entries and digests;
* `encodePage`, `encodeChunkOffer`, `encodeFinalize`: the other bodies;
* `ncl1Encode`, `ncl1Decode`: the frame around a body.

`sha256` is a parameter.  A text that a caller gives by a null pointer is an empty one.
-/

namespace Ninlil.Mfdt

open Bytes

/-- The failures of `mfdt_v1.h`. -/
inductive Err
  | param
  | policyOff
  | version
  | capacity
  | state
  | digest
  | layout
  | storage
  | expired
  | abortDenied
  | busy
  | corrupt
  | commitUnknown
  | cuNewNotPromoted
  deriving DecidableEq, Repr

abbrev Id := Vector UInt8 16
abbrev Digest := Vector UInt8 32
abbrev Hash := List UInt8 → Digest

def maxContent : UInt32 := 32768
def chunkSize : UInt16 := 896
def maxChunks : UInt16 := 37
def entriesPerPage : UInt16 := 22
def maxPages : UInt16 := 2
def entryBytes : UInt16 := 40
def openTextOffset : ℕ := 462
def openBodyMin : ℕ := 465
def openBodyMax : ℕ := 651

def msgOpen : UInt8 := 0x36
def msgOpenAccept : UInt8 := 0x37
def msgManifestPage : UInt8 := 0x38
def msgPageAccept : UInt8 := 0x39
def msgReject : UInt8 := 0x3A
def msgBusy : UInt8 := 0x3B
def msgChunkOffer : UInt8 := 0x3C
def msgChunkAccept : UInt8 := 0x3D
def msgResumeQuery : UInt8 := 0x3E
def msgResumeState : UInt8 := 0x3F
def msgFinalize : UInt8 := 0x40
def msgTransferAccept : UInt8 := 0x41
def msgAbort : UInt8 := 0x42
def msgAbortAck : UInt8 := 0x43

def ascii (s : String) : List UInt8 := s.toList.map fun c => UInt8.ofNat c.toNat

/-- `bytes_zero`. -/
def bytesZero (bytes : List UInt8) : Bool := bytes.all fun b => b == 0

/-! ### Geometry -/

structure Geometry where
  totalLength : UInt32
  chunkCount : UInt16
  pageCount : UInt16
  finalChunkLength : UInt16
  deriving DecidableEq, Repr

def geometry (totalLength : UInt32) : Except Err Geometry :=
  if maxContent < totalLength then .error .param
  else if totalLength = 0 then .ok ⟨totalLength, 0, 0, 0⟩
  else
    let chunks := (totalLength + chunkSize.toUInt32 - 1) / chunkSize.toUInt32
    if maxChunks.toUInt32 < chunks then .error .layout
    else
      let pages := (chunks + entriesPerPage.toUInt32 - 1) / entriesPerPage.toUInt32
      if maxPages.toUInt32 < pages then .error .layout
      else .ok ⟨totalLength, chunks.toUInt16, pages.toUInt16,
        (totalLength - chunkSize.toUInt32 * (chunks - 1)).toUInt16⟩

/-- The length of a chunk, the last one being shorter. -/
def Geometry.chunkLength (geo : Geometry) (i : ℕ) : UInt16 :=
  if i + 1 = geo.chunkCount.toNat then geo.finalChunkLength else chunkSize

/-! ### Digests -/

/-- `ninlil_mfdt_v1_chunk_entry`. -/
def chunkEntry (sha256 : Hash) (chunk : List UInt8) (offset : UInt32) (chunkIndex : UInt16) :
    List UInt8 :=
  if maxChunks ≤ chunkIndex then List.replicate 40 0
  else encodeBE 2 chunkIndex.toNat ++ encodeBE 2 chunk.length ++ encodeBE 4 offset.toNat ++
    (sha256 chunk).toList

/-- `ninlil_mfdt_v1_manifest_digest` of an OPEN body and the entries. -/
def manifestDigest (sha256 : Hash) (openBody : List UInt8) (entries : List UInt8)
    (chunkCount : UInt16) : Digest :=
  let text := openBody.drop openTextOffset
  if maxChunks < chunkCount ∨ 189 < text.length then
    sha256 ((ascii "MFDT-MANIFEST-OVERFLOW").take 21)
  else sha256 (ascii "NM3-MANIFEST-V1" ++ slice openBody 0 202 ++ slice openBody 234 228 ++ text ++
    entries.take (chunkCount.toNat * 40))

def bind52 (transferId : Id) (revision : UInt32) (manifestDigest : Digest) : List UInt8 :=
  transferId.toList ++ encodeBE 4 revision.toNat ++ manifestDigest.toList

/-! ### OPEN -/

/-- `ninlil_mfdt_v1_open_metadata_t`. -/
structure OpenMetadata where
  originTransactionId : Id
  originEventId : Id
  sourceRuntimeId : Id
  targetRuntimeId : Id
  serviceDescriptorRevision : UInt64
  serviceDescriptorDigest : Digest
  deadlineClockEpochId : Id
  absoluteEffectDeadlineMs : UInt64
  originalAttemptId : Id
  targetOrdinal : UInt32
  sourceApplicationInstanceId : Id
  sourceDeviceId : Id
  sourceInstallationId : Id
  sourceSiteId : Id
  sourceBindingEpoch : UInt64
  sourceMembershipEpoch : UInt64
  sourceIdentityFlags : UInt32
  sourceReserved : UInt32
  targetApplicationInstanceId : Id
  targetDeviceId : Id
  targetInstallationId : Id
  targetSiteId : Id
  targetBindingEpoch : UInt64
  targetMembershipEpoch : UInt64
  targetIdentityFlags : UInt32
  targetReserved : UInt32
  serviceSchemaMajor : UInt16
  serviceSchemaMinor : UInt16
  serviceFamily : UInt32
  applicationGeneration : UInt64
  evidenceGraceMs : UInt64
  requiredEvidence : UInt32
  applicationBindingFlags : UInt32
  namespaceBytes : List UInt8
  serviceBytes : List UInt8
  schemaBytes : List UInt8

/-- `text_id_ok` and `manifest_text_id_ok`. -/
def textIdOk (bytes : List UInt8) (namespaceId : Bool) : Bool :=
  let alnum (c : UInt8) : Bool := (97 ≤ c && c ≤ 122) || (48 ≤ c && c ≤ 57)
  match bytes with
  | [] => false
  | first :: _ =>
    bytes.length ≤ 63 && alnum first &&
      bytes.all fun c => alnum c || c == 46 || c == 45 || (!namespaceId && c == 95)

/-- `identity_shape_ok`. -/
def identityShapeOk (device installation site : List UInt8)
    (bindingEpoch membershipEpoch : UInt64) (flags reserved : UInt32) : Bool :=
  let hasDevice := flags &&& 1 != 0
  let hasInstallation := flags &&& 2 != 0
  let hasSite := flags &&& 4 != 0
  reserved == 0 && flags &&& ~~~7 == 0 && bytesZero device == !hasDevice &&
    bytesZero installation == !hasInstallation && bytesZero site == !hasSite &&
    (bindingEpoch != 0) == (hasDevice || hasInstallation) && (membershipEpoch != 0) == hasSite

/-- `family_shape_ok`. -/
def familyShapeOk (originEvent : List UInt8) (family : UInt32) (generation : UInt64)
    (deadlineEpoch : List UInt8) (deadlineMs evidenceGraceMs : UInt64) : Bool :=
  let downlink := family == 2 || family == 5 || family == 6
  let uplink := family == 1 || family == 3 || family == 4
  (downlink || uplink) &&
    (if family = 1 then !bytesZero originEvent && generation == 0
      else bytesZero originEvent && generation != 0) &&
    (if downlink then !bytesZero deadlineEpoch && deadlineMs != 0 &&
        deadlineMs != UInt64.ofNat (2 ^ 64 - 1)
      else bytesZero deadlineEpoch && deadlineMs == UInt64.ofNat (2 ^ 64 - 1) &&
        evidenceGraceMs == 0)

/-- The stores into an OPEN body, before its manifest digest. -/
def openPuts (transferId : Id) (totalLength : UInt32) (geo : Geometry) (whole : Digest)
    (m : OpenMetadata) : List Put :=
  [putVector 0 transferId, putU32Be 16 1, putU32Be 20 totalLength, putU16Be 24 chunkSize,
    putU16Be 26 geo.chunkCount, putU16Be 28 geo.pageCount, putU16Be 30 entriesPerPage,
    putVector 32 whole, putVector 64 m.originTransactionId, putVector 80 m.originEventId,
    putVector 96 m.sourceRuntimeId, putVector 112 m.targetRuntimeId,
    putU64Be 128 m.serviceDescriptorRevision, putU16Be 136 1,
    putVector 138 m.serviceDescriptorDigest,
    putU16Be 170 (UInt16.ofNat m.namespaceBytes.length),
    putU16Be 172 (UInt16.ofNat m.serviceBytes.length),
    putU16Be 174 (UInt16.ofNat m.schemaBytes.length), putU16Be 176 0,
    putVector 178 m.deadlineClockEpochId, putU64Be 194 m.absoluteEffectDeadlineMs,
    putVector 234 m.originalAttemptId, putU32Be 250 m.targetOrdinal,
    putVector 254 m.sourceApplicationInstanceId, putVector 270 m.sourceDeviceId,
    putVector 286 m.sourceInstallationId, putVector 302 m.sourceSiteId,
    putU64Be 318 m.sourceBindingEpoch, putU64Be 326 m.sourceMembershipEpoch,
    putU32Be 334 m.sourceIdentityFlags, putU32Be 338 m.sourceReserved,
    putVector 342 m.targetApplicationInstanceId, putVector 358 m.targetDeviceId,
    putVector 374 m.targetInstallationId, putVector 390 m.targetSiteId,
    putU64Be 406 m.targetBindingEpoch, putU64Be 414 m.targetMembershipEpoch,
    putU32Be 422 m.targetIdentityFlags, putU32Be 426 m.targetReserved,
    putU16Be 430 m.serviceSchemaMajor, putU16Be 432 m.serviceSchemaMinor,
    putU32Be 434 m.serviceFamily, putU64Be 438 m.applicationGeneration,
    putU64Be 446 m.evidenceGraceMs, putU32Be 454 m.requiredEvidence,
    putU32Be 458 m.applicationBindingFlags, (462, m.namespaceBytes),
    (462 + m.namespaceBytes.length, m.serviceBytes),
    (462 + m.namespaceBytes.length + m.serviceBytes.length, m.schemaBytes)]

/-- The fields of an OPEN body that `validate_open` checks one by one. -/
def openFieldsOk (body : List UInt8) (contentLen : UInt32) : Bool :=
  let nsLen := (getU16Be body 170).toNat
  let serviceLen := (getU16Be body 172).toNat
  let schemaLen := (getU16Be body 174).toNat
  openTextOffset + nsLen + serviceLen + schemaLen == body.length &&
    !bytesZero (slice body 0 16) && 1 ≤ getU32Be body 16 && getU32Be body 20 == contentLen &&
    getU16Be body 24 == chunkSize && !bytesZero (slice body 32 32) &&
    !bytesZero (slice body 64 16) && !bytesZero (slice body 96 16) &&
    !bytesZero (slice body 112 16) && getU64Be body 128 != 0 && getU16Be body 136 == 1 &&
    !bytesZero (slice body 138 32) && getU16Be body 176 == 0 && !bytesZero (slice body 202 32) &&
    !bytesZero (slice body 234 16) && getU32Be body 250 < 4 && !bytesZero (slice body 254 16) &&
    !bytesZero (slice body 342 16) &&
    identityShapeOk (slice body 270 16) (slice body 286 16) (slice body 302 16)
      (getU64Be body 318) (getU64Be body 326) (getU32Be body 334) (getU32Be body 338) &&
    identityShapeOk (slice body 358 16) (slice body 374 16) (slice body 390 16)
      (getU64Be body 406) (getU64Be body 414) (getU32Be body 422) (getU32Be body 426) &&
    getU16Be body 430 != 0 &&
    familyShapeOk (slice body 80 16) (getU32Be body 434) (getU64Be body 438) (slice body 178 16)
      (getU64Be body 194) (getU64Be body 446) &&
    1 ≤ getU32Be body 454 && getU32Be body 454 ≤ 4 && getU32Be body 458 == 0 &&
    textIdOk (slice body 462 nsLen) true && textIdOk (slice body (462 + nsLen) serviceLen) false &&
    textIdOk (slice body (462 + nsLen + serviceLen) schemaLen) false

/-- An entry of the manifest is the one of its chunk, with some digest. -/
def entryOk (geo : Geometry) (entries : List UInt8) (i : ℕ) : Bool :=
  let entry := slice entries (i * 40) 40
  (getU16Be entry 0).toNat == i && getU16Be entry 2 == geo.chunkLength i &&
    (getU32Be entry 4).toNat == i * chunkSize.toNat && !bytesZero (slice entry 8 32)

def validateOpen (sha256 : Hash) (body : List UInt8) (entries : Option (List UInt8))
    (entryLen : UInt16) (content : Option (List UInt8)) (contentLen : UInt32)
    (requireManifest : Bool) : Except Err Unit :=
  if body.length < openBodyMin ∨ openBodyMax < body.length then .error .layout
  else if !openFieldsOk body contentLen then .error .layout
  else match geometry contentLen with
    | .error _ => .error .layout
    | .ok geo =>
      if getU16Be body 26 ≠ geo.chunkCount ∨ getU16Be body 28 ≠ geo.pageCount ∨
          getU16Be body 30 ≠ entriesPerPage ∨ entryLen ≠ geo.chunkCount * entryBytes then
        .error .layout
      else if 0 < geo.chunkCount ∧ entries = none ∧ requireManifest = true then .error .param
      else if (entries.any fun es => !(List.range geo.chunkCount.toNat).all (entryOk geo es)) then
        .error .layout
      else if requireManifest = true ∧
          (manifestDigest sha256 body (entries.getD []) geo.chunkCount).toList ≠
            slice body 202 32 then
        .error .digest
      else if (content.isSome || contentLen == 0) = true ∧
          (sha256 (content.getD [])).toList ≠ slice body 32 32 then
        .error .digest
      else .ok ()

/-- The entries of a content, one a chunk. -/
def openEntries (sha256 : Hash) (content : List UInt8) (geo : Geometry) : List UInt8 :=
  ((List.range geo.chunkCount.toNat).map fun i =>
    chunkEntry sha256 (slice content (i * chunkSize.toNat) (geo.chunkLength i).toNat)
      (UInt32.ofNat (i * chunkSize.toNat)) (UInt16.ofNat i)).flatten

/-- What `encode_open` writes. -/
structure OpenParts where
  body : List UInt8
  entries : List UInt8
  manifest : Digest
  whole : Digest

/-- `ninlil_mfdt_v1_encode_open`; there is no content pointer exactly if the content is empty. -/
def encodeOpen (sha256 : Hash) (transferId : Id) (content : List UInt8) (m : OpenMetadata) :
    Except Err OpenParts :=
  if !(textIdOk m.namespaceBytes true && textIdOk m.serviceBytes false &&
      textIdOk m.schemaBytes false) then
    .error .layout
  else
    let totalLength := UInt32.ofNat content.length
    match geometry totalLength with
    | .error e => .error e
    | .ok geo =>
      if bytesZero transferId.toList then .error .param
      else
        let whole := sha256 content
        let entries := openEntries sha256 content geo
        let textLen := m.namespaceBytes.length + m.serviceBytes.length + m.schemaBytes.length
        let head := fill (openTextOffset + textLen) (openPuts transferId totalLength geo whole m)
        let manifest := manifestDigest sha256 head entries geo.chunkCount
        let body := store head 202 manifest.toList
        match validateOpen sha256 body (some entries) (geo.chunkCount * entryBytes)
            (if content.isEmpty then none else some content) totalLength true with
        | .error e => .error e
        | .ok () => .ok ⟨body, entries, manifest, whole⟩

/-! ### The other bodies -/

/-- The arguments of `encode_page` that it accepts, but for the places of its buffers. -/
def pageArgsOk (pageIndex pageCount firstChunkIndex entryCount : UInt16)
    (entries : List UInt8) : Bool :=
  pageCount != 0 && pageCount ≤ maxPages && pageIndex < pageCount && entryCount != 0 &&
    entryCount ≤ entriesPerPage && firstChunkIndex == pageIndex * entriesPerPage &&
    !(pageIndex + 1 < pageCount && entryCount != entriesPerPage) &&
    firstChunkIndex.toNat + entryCount.toNat ≤ maxChunks.toNat &&
    (List.range entryCount.toNat).all fun i =>
      let entry := slice entries (i * 40) 40
      let chunkIndex := firstChunkIndex + UInt16.ofNat i
      let chunkLength := getU16Be entry 2
      let final := pageIndex + 1 == pageCount && i + 1 == entryCount.toNat
      getU16Be entry 0 == chunkIndex &&
        getU32Be entry 4 == chunkIndex.toUInt32 * chunkSize.toUInt32 &&
        (if final then chunkLength != 0 && chunkLength ≤ chunkSize else chunkLength == chunkSize) &&
        !bytesZero (slice entry 8 32)

/-- The four numbers of a page. -/
def pageNumbers (pageIndex pageCount firstChunkIndex entryCount : UInt16) : List UInt8 :=
  encodeBE 2 pageIndex.toNat ++ encodeBE 2 pageCount.toNat ++ encodeBE 2 firstChunkIndex.toNat ++
    encodeBE 2 entryCount.toNat

/-- A page body. -/
def pageBody (sha256 : Hash) (transferId : Id) (revision : UInt32) (manifestDigest : Digest)
    (pageIndex pageCount firstChunkIndex entryCount : UInt16) (entries : List UInt8) :
    List UInt8 :=
  let head := bind52 transferId revision manifestDigest ++
    pageNumbers pageIndex pageCount firstChunkIndex entryCount
  head ++ (sha256 (ascii "NM3-PAGE-V1" ++ head ++ entries)).toList ++ entries

/-- `ninlil_mfdt_v1_encode_page` with buffers of its own. -/
def encodePage (sha256 : Hash) (transferId : Id) (revision : UInt32) (manifestDigest : Digest)
    (pageIndex pageCount firstChunkIndex entryCount : UInt16) (entries : List UInt8) :
    Except Err (List UInt8) :=
  if pageArgsOk pageIndex pageCount firstChunkIndex entryCount entries then
    .ok (pageBody sha256 transferId revision manifestDigest pageIndex pageCount firstChunkIndex
      entryCount (entries.take (entryCount.toNat * 40)))
  else .error .param

def encodeChunkOffer (sha256 : Hash) (transferId : Id) (revision : UInt32)
    (manifestDigest : Digest) (chunkIndex chunkCount : UInt16) (chunkOffset : UInt32)
    (chunk : List UInt8) : List UInt8 :=
  bind52 transferId revision manifestDigest ++ encodeBE 2 chunkIndex.toNat ++
    encodeBE 2 chunkCount.toNat ++ encodeBE 4 chunkOffset.toNat ++ encodeBE 2 chunk.length ++
    encodeBE 2 0 ++ (sha256 chunk).toList ++ chunk

def encodeFinalize (transferId : Id) (revision : UInt32) (manifestDigest whole : Digest)
    (totalLen : UInt32) : List UInt8 :=
  bind52 transferId revision manifestDigest ++ whole.toList ++ encodeBE 4 totalLen.toNat ++
    encodeBE 4 0

/-! ### Frames -/

def ncl1MaxBody : ℕ := 998

/-- `ninlil_mfdt_v1_ncl1_is_mfdt_type`. -/
def ncl1IsMfdtType (t : UInt8) : Bool :=
  t == 0x34 || t == 0x35 || (0x36 ≤ t && t ≤ 0x43)

def ncl1Encode (mfdtType : UInt8) (requestId sessionGeneration : UInt32) (sessionCookie : UInt64)
    (body : List UInt8) : Except Err (List UInt8) :=
  if !ncl1IsMfdtType mfdtType then .error .layout
  else if body.length = 0 ∨ ncl1MaxBody < body.length then .error .layout
  else if requestId = 0 then .error .param
  else .ok (ascii "NCL1" ++ [1, mfdtType] ++ encodeBE 2 0 ++ encodeBE 4 requestId.toNat ++
    encodeBE 4 sessionGeneration.toNat ++ encodeBE 8 sessionCookie.toNat ++
    encodeBE 2 body.length ++ body)

/-- What `ninlil_mfdt_v1_ncl1_decode` gives back. -/
structure Frame where
  mfdtType : UInt8
  requestId : UInt32
  sessionGeneration : UInt32
  sessionCookie : UInt64
  body : List UInt8

/-- `ninlil_mfdt_v1_ncl1_decode` of a payload that came as NCG1 data. -/
def ncl1Decode (payload : List UInt8) : Except Err Frame :=
  if payload.length < 26 then .error .layout
  else if payload.take 4 ≠ ascii "NCL1" then .error .layout
  else if payload.getD 4 0 ≠ 1 then .error .version
  else if !ncl1IsMfdtType (payload.getD 5 0) then .error .layout
  else if getU16Be payload 6 ≠ 0 then .error .layout
  else
    let len := (getU16Be payload 24).toNat
    if len = 0 ∨ ncl1MaxBody < len then .error .layout
    else if payload.length ≠ 26 + len then .error .layout
    else if getU32Be payload 8 = 0 then .error .param
    else .ok ⟨payload.getD 5 0, getU32Be payload 8, getU32Be payload 12, getU64Be payload 16,
      payload.drop 26⟩

end Ninlil.Mfdt
