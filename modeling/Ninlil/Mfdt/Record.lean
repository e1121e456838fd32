import Ninlil.Mfdt.Wire

/-!
# Durable records of a transfer

The three records that an engine keeps for a transfer, from `mfdt_v1_record.c` and
`mfdt_v1_engine.c`.

* `Xfer`: what an engine holds of its transfer;
* `activeRecord`, `recordUnpack`, `Xfer.project`: the NM3S or NM3R record of a live transfer;
* `nrc1InitEmpty`, `nrc1Validate`: the NRC1 record of answers given;
* `buildNm30`: the NM30 record of a transfer that has ended.

The OPEN body, the entries and the content, which the source keeps in the record memory, are
fields of `Xfer`.
-/

namespace Ninlil.Mfdt

open Bytes

def headerBytes : ℕ := 308
def nrc1ValueBytes : ℕ := 15020
def nm30Bytes : ℕ := 180
def nm30Schema1Bytes : ℕ := 164
def retryBudgetMax : UInt8 := 8

def magicNm3s : Vector UInt8 4 := #v[0x4E, 0x4D, 0x33, 0x53]
def magicNm3r : Vector UInt8 4 := #v[0x4E, 0x4D, 0x33, 0x52]
def magicNrc1 : Vector UInt8 4 := #v[0x4E, 0x52, 0x43, 0x31]
def magicNm30 : Vector UInt8 4 := #v[0x4E, 0x4D, 0x33, 0x30]

/-- `make_key`. -/
def makeKey (magic : Vector UInt8 4) (transferId : Id) : Key := magic ++ transferId

def zeroId : Id := Vector.replicate 16 0
def zeroDigest : Digest := Vector.replicate 32 0

def isZero {n : ℕ} (v : Vector UInt8 n) : Bool := bytesZero v.toList

/-! ### The state codes -/

def sOpenPending : UInt8 := 1
def sOpenAccepted : UInt8 := 2
def sManifestAccepted : UInt8 := 3
def sChunksPartial : UInt8 := 4
def sFinalWait : UInt8 := 5
def sAcceptRx : UInt8 := 6
def sAbortPending : UInt8 := 8
def sCommitUnknown : UInt8 := 10
def rReservedOpen : UInt8 := 32
def rManifestPartial : UInt8 := 33
def rManifestAccepted : UInt8 := 34
def rChunksPartial : UInt8 := 35
def rContentVerified : UInt8 := 36
def rAcceptNotified : UInt8 := 37
def rHandedOff : UInt8 := 38
def rCommitUnknown : UInt8 := 40
def rAbortPending : UInt8 := 41

/-- `mfdt_xfer_t`, with the OPEN body, the entries and the content of the transfer. -/
structure Xfer where
  transferId : Id := zeroId
  occupied : Bool := false
  role : UInt8 := 0
  stateCode : UInt8 := 0
  retryBudget : UInt8 := 0
  terminal : Bool := false
  chunkCount : UInt16 := 0
  pageCount : UInt16 := 0
  totalLength : UInt32 := 0
  chunkBitmap : UInt64 := 0
  pageBitmap : UInt8 := 0
  manifestDigest : Digest := zeroDigest
  wholeDigest : Digest := zeroDigest
  reservationId : Id := zeroId
  resEpoch : Id := zeroId
  notAfterMs : UInt64 := 0
  durableLocalEpoch : Id := zeroId
  durableLocalMonoMs : UInt64 := 0
  recordGeneration : UInt64 := 0
  acceptanceRecordGeneration : UInt64 := 0
  lastResumeGen : UInt32 := 0
  abortGeneration : UInt32 := 0
  revision : UInt32 := 0
  publicationState : UInt8 := 0
  handoffState : UInt8 := 0
  acceptNotified : UInt8 := 0
  publicationToken : Id := zeroId
  evidenceId : Id := zeroId
  acceptanceRecordDigest : Digest := zeroDigest
  publicationEvidenceDigest : Digest := zeroDigest
  unpaidChunk : Bool := false
  openBody : List UInt8 := []
  entries : List UInt8 := []
  content : List UInt8 := []

/-- The transfer of the slot is live. -/
def Xfer.busy (x : Xfer) : Bool := x.occupied && !x.terminal

/-! ### The record of a live transfer -/

/-- `slot_pack_active_base` and the fields that `pack_active` adds. -/
def activeHeaderPuts (x : Xfer) (sessionGeneration : UInt32) (total : ℕ) : List Put :=
  [putVector 0 (if x.role = 1 then magicNm3s else magicNm3r), putU16Be 4 2, putU16Be 6 308,
    putU32Be 8 (UInt32.ofNat total), putU8 12 x.role, putU8 13 x.stateCode,
    putVector 16 x.transferId, putU32Be 32 x.revision, putVector 36 x.manifestDigest,
    putU64Be 68 x.recordGeneration, putU64Be 76 x.acceptanceRecordGeneration,
    putU16Be 84 (UInt16.ofNat x.openBody.length), putU16Be 86 (x.chunkCount * entryBytes),
    putU32Be 88 x.totalLength, putU16Be 92 x.chunkCount, putU16Be 94 x.pageCount,
    putU64Be 96 x.chunkBitmap, putU8 104 x.pageBitmap, putU8 105 x.retryBudget, putU8 106 0,
    putU8 107 x.publicationState, putU8 108 x.handoffState, putU8 109 x.acceptNotified,
    putVector 112 x.reservationId, putVector 128 x.resEpoch, putU64Be 144 x.notAfterMs,
    putVector 152 x.evidenceId, putVector 168 x.acceptanceRecordDigest,
    putVector 200 x.durableLocalEpoch, putU64Be 216 x.durableLocalMonoMs,
    putU32Be 224 x.abortGeneration,
    putVector 248 (if x.publicationState = 0 then zeroId else x.publicationToken),
    putVector 264 x.publicationEvidenceDigest, putU32Be 296 x.lastResumeGen,
    putU32Be 300 sessionGeneration]

/-- The bytes that `pack_active` makes. -/
def activeRecord (x : Xfer) (sessionGeneration : UInt32) : List UInt8 :=
  let total := headerBytes + x.openBody.length + x.entries.length + x.content.length + 4
  let header := sealAt (fill headerBytes (activeHeaderPuts x sessionGeneration total)) 304
  let body := header ++ x.openBody ++ x.entries ++ x.content
  body ++ encodeBE 4 (crc32c body).toNat

/-- `active_state_ok`. -/
def activeStateOk (owner state : UInt8) : Bool :=
  (owner == 1 && [sOpenPending, sOpenAccepted, sManifestAccepted, sChunksPartial, sFinalWait,
    sAcceptRx, sAbortPending, sCommitUnknown].contains state) ||
  (owner == 2 && [rReservedOpen, rManifestPartial, rManifestAccepted, rChunksPartial,
    rContentVerified, rAcceptNotified, rHandedOff, rCommitUnknown, rAbortPending].contains state)

/-- `(1 << n) - 1`. -/
def chunkMask (n : UInt16) : UInt64 := UInt64.ofNat (2 ^ n.toNat - 1)
def pageMask (n : UInt16) : UInt8 := UInt8.ofNat (2 ^ n.toNat - 1)

/-- `open`, `entries` and `content` of `active_record_semantic_ok`. -/
def recordOpen (rec : List UInt8) : List UInt8 :=
  slice rec headerBytes (getU16Be rec 84).toNat

def recordEntries (rec : List UInt8) : List UInt8 :=
  slice rec (headerBytes + (getU16Be rec 84).toNat) (getU16Be rec 86).toNat

def recordContent (rec : List UInt8) : List UInt8 :=
  slice rec (headerBytes + (getU16Be rec 84).toNat + (getU16Be rec 86).toNat)
    (getU32Be rec 88).toNat

/-- The entries of a record, and the chunks it says it has. -/
def recordChunkOk (sha256 : Hash) (rec : List UInt8) (geo : Geometry) (i : ℕ) : Bool :=
  let owner := rec.getD 12 0
  let entry := slice (recordEntries rec) (i * 40) 40
  let chunk := slice (recordContent rec) (i * chunkSize.toNat) (geo.chunkLength i).toNat
  if owner == 1 || (rec.getD 104 0).toNat.testBit (i / entriesPerPage.toNat) then
    entryOk geo (recordEntries rec) i &&
      (if owner == 1 || (getU64Be rec 96).toNat.testBit i then
        (sha256 chunk).toList == slice entry 8 32
      else bytesZero chunk)
  else bytesZero entry

/-- `active_record_semantic_ok`. -/
def activeRecordSemanticOk (sha256 : Hash) (rec : List UInt8) : Bool :=
  let owner := rec.getD 12 0
  let state := rec.getD 13 0
  let openLen := (getU16Be rec 84).toNat
  let entryLen := getU16Be rec 86
  let contentLen := getU32Be rec 88
  let chunkCount := getU16Be rec 92
  let pageCount := getU16Be rec 94
  let chunkBitmap := getU64Be rec 96
  let pageBitmap := rec.getD 104 0
  let publicationState := rec.getD 107 0
  let handoffState := rec.getD 108 0
  let openBody := recordOpen rec
  let reservationZero := bytesZero (slice rec 112 16)
  let evidenceZero := bytesZero (slice rec 152 16)
  let tokenZero := bytesZero (slice rec 248 16)
  let publicationEvidenceZero := bytesZero (slice rec 264 32)
  activeStateOk owner state &&
    (if owner = 1 then rec.take 4 == magicNm3s.toList else rec.take 4 == magicNm3r.toList) &&
    getU16Be rec 14 == 0 && !bytesZero (slice rec 16 16) && getU32Be rec 32 != 0 &&
    !bytesZero (slice rec 36 32) && getU64Be rec 68 != 0 && rec.getD 105 0 ≤ retryBudgetMax &&
    rec.getD 106 0 ≤ 2 && publicationState ≤ 2 && handoffState ≤ 1 && rec.getD 109 0 ≤ 1 &&
    getU16Be rec 110 == 0 && !bytesZero (slice rec 200 16) && getU16Be rec 230 == 0 &&
    getU32Be rec 296 ≤ 8 && getU32Be rec 300 != 0 && openBodyMin ≤ openLen &&
    openLen ≤ openBodyMax &&
    rec.length == headerBytes + openLen + entryLen.toNat + contentLen.toNat + 4 &&
    (match geometry contentLen with
    | .error _ => false
    | .ok geo =>
      geo.chunkCount == chunkCount && geo.pageCount == pageCount &&
        entryLen == chunkCount * entryBytes && slice openBody 0 16 == slice rec 16 16 &&
        getU32Be openBody 16 == getU32Be rec 32 && getU32Be openBody 20 == contentLen &&
        getU16Be openBody 24 == chunkSize && getU16Be openBody 26 == chunkCount &&
        getU16Be openBody 28 == pageCount && getU16Be openBody 30 == entriesPerPage &&
        (validateOpen sha256 openBody none entryLen none contentLen false).isOk &&
        slice openBody 202 32 == slice rec 36 32 &&
        chunkBitmap &&& ~~~chunkMask chunkCount == 0 &&
        pageBitmap &&& ~~~pageMask pageCount == 0 &&
        (List.range chunkCount.toNat).all (recordChunkOk sha256 rec geo)) &&
    (!(owner == 1 || pageBitmap == pageMask pageCount) ||
      (manifestDigest sha256 openBody (recordEntries rec) chunkCount).toList ==
        slice rec 36 32) &&
    (!(owner == 1 || chunkBitmap == chunkMask chunkCount) ||
      (sha256 (recordContent rec)).toList == slice openBody 32 32) &&
    reservationZero == bytesZero (slice rec 128 16) &&
    reservationZero == (getU64Be rec 144 == 0) &&
    -- a receiver makes the reservation by its own clock
    (reservationZero || owner != 2 || slice rec 128 16 == slice rec 200 16) &&
    evidenceZero == bytesZero (slice rec 168 32) && evidenceZero == (getU64Be rec 76 == 0) &&
    (publicationState != 0 || (tokenZero && publicationEvidenceZero && handoffState == 0)) &&
    (publicationState != 1 || (!tokenZero && publicationEvidenceZero && handoffState == 0)) &&
    (publicationState != 2 || (!tokenZero && !publicationEvidenceZero && handoffState == 1)) &&
    (getU32Be rec 224 == 0) == (getU16Be rec 228 == 0 && bytesZero (slice rec 232 16)) &&
    getU32Be rec 224 ≤ 8 && !(owner == 2 && reservationZero) &&
    !(owner == 1 && state != sOpenPending && reservationZero) &&
    !(state == sAcceptRx && evidenceZero) &&
    !(owner == 2 && rContentVerified ≤ state && (evidenceZero || publicationState == 0)) &&
    !(state == rHandedOff && (publicationState != 2 || handoffState != 1))

/-- `ninlil_mfdt_v1_record_unpack` accepts. -/
def recordUnpack (sha256 : Hash) (rec : List UInt8) : Bool :=
  let openLen := (getU16Be rec 84).toNat
  let entryLen := getU16Be rec 86
  let bodyBytes := rec.length - 312
  312 ≤ rec.length && (rec.take 4 == magicNm3s.toList || rec.take 4 == magicNm3r.toList) &&
    getU16Be rec 4 == 2 && getU16Be rec 6 == 308 && (getU32Be rec 8).toNat == rec.length &&
    rec.length ≤ activeValueMax && getU32Be rec 304 == crc32c (rec.take 304) &&
    openBodyMin ≤ openLen && openLen ≤ openBodyMax && openLen ≤ bodyBytes &&
    entryLen.toNat ≤ bodyBytes - openLen &&
    (getU32Be rec 88).toNat == bodyBytes - openLen - entryLen.toNat &&
    (match geometry (getU32Be rec 88) with
    | .error _ => false
    | .ok geo => entryLen == geo.chunkCount * entryBytes) &&
    getU32Be rec (rec.length - 4) == crc32c (rec.take (rec.length - 4)) &&
    activeRecordSemanticOk sha256 rec

/-- `project_active_record`, once the record is found to be one of this transfer. -/
def Xfer.project (x : Xfer) (rec : List UInt8) : Xfer :=
  let openBody := recordOpen rec
  { x with
    stateCode := rec.getD 13 0
    revision := getU32Be rec 32
    recordGeneration := getU64Be rec 68
    acceptanceRecordGeneration := getU64Be rec 76
    pageBitmap := rec.getD 104 0
    chunkBitmap := getU64Be rec 96
    retryBudget := rec.getD 105 0
    publicationState := rec.getD 107 0
    handoffState := rec.getD 108 0
    manifestDigest := getVector 32 rec 36
    wholeDigest := getVector 32 openBody 32
    totalLength := getU32Be openBody 20
    chunkCount := getU16Be openBody 26
    pageCount := getU16Be openBody 28
    reservationId := getVector 16 rec 112
    resEpoch := getVector 16 rec 128
    notAfterMs := getU64Be rec 144
    durableLocalEpoch := getVector 16 rec 200
    durableLocalMonoMs := getU64Be rec 216
    evidenceId := getVector 16 rec 152
    acceptanceRecordDigest := getVector 32 rec 168
    publicationToken := getVector 16 rec 248
    publicationEvidenceDigest := getVector 32 rec 264
    lastResumeGen := getU32Be rec 296
    abortGeneration := getU32Be rec 224
    acceptNotified := rec.getD 109 0
    openBody := openBody
    entries := recordEntries rec
    content := recordContent rec }

/-! ### The record of the answers given -/

def nrc1SlotCount : ℕ := 72
def nrc1SlotBytes : ℕ := 208

/-- `nrc1_recompute_crc`. -/
def nrc1RecomputeCrc (blob : List UInt8) : List UInt8 := sealAt (sealAt blob 36) 15016

def nrc1InitEmpty (transferId : Id) (sessionGeneration : UInt32) : List UInt8 :=
  nrc1RecomputeCrc (fill nrc1ValueBytes
    [putVector 0 magicNrc1, putU16Be 4 1, putU16Be 6 15020, putVector 8 transferId,
      putU32Be 24 sessionGeneration, putU16Be 28 72, putU16Be 30 0, putU32Be 32 0])

/-- `nrc1_slot_at`. -/
def nrc1Slot (blob : List UInt8) (i : ℕ) : List UInt8 :=
  slice blob (40 + i * nrc1SlotBytes) nrc1SlotBytes

/-- `nrc1_response_body_length_ok`. -/
def nrc1ResponseBodyLengthOk (t : UInt16) (len : ℕ) : Bool :=
  (t == msgOpenAccept.toUInt16 && len == 100) || (t == msgPageAccept.toUInt16 && len == 108) ||
    ((t == msgReject.toUInt16 || t == msgBusy.toUInt16) && len == 60) ||
    (t == msgChunkAccept.toUInt16 && len == 88) || (t == msgResumeState.toUInt16 && len == 108) ||
    (t == msgTransferAccept.toUInt16 && len == 160) || (t == msgAbortAck.toUInt16 && len == 92)

/-- What `nrc1_validate` asks of an occupied slot. -/
def nrc1SlotOk (blob : List UInt8) (i : ℕ) : Bool :=
  let current := getU32Be blob 24
  let slot := nrc1Slot blob i
  let rid := getU64Be slot 0
  let generation := getU32Be slot 8
  let bodyLen := (getU16Be slot 46).toNat
  if rid = 0 then bytesZero slot
  else
    generation != 0 && (generation == current || (current != 1 && generation == current - 1)) &&
      !bytesZero (slice slot 12 32) && nrc1ResponseBodyLengthOk (getU16Be slot 44) bodyLen &&
      (generation == current || getU16Be slot 44 != msgResumeState.toUInt16) &&
      bytesZero (slice slot (48 + bodyLen) (160 - bodyLen)) &&
      (List.range nrc1SlotCount).all fun j =>
        j ≤ i || getU64Be (nrc1Slot blob j) 0 != rid || getU32Be (nrc1Slot blob j) 8 != generation

def nrc1Validate (blob : List UInt8) (transferId : Id) : Bool :=
  let current := getU32Be blob 24
  let occupied := (List.range nrc1SlotCount).filter fun i => getU64Be (nrc1Slot blob i) 0 != 0
  let prior := occupied.filter fun i => getU32Be (nrc1Slot blob i) 8 != current
  let anchors := (occupied.filter fun i =>
    getU16Be (nrc1Slot blob i) 44 == msgOpenAccept.toUInt16).map
      fun i => getU32Be (nrc1Slot blob i) 8
  blob.length == nrc1ValueBytes && blob.take 4 == magicNrc1.toList && getU16Be blob 4 == 1 &&
    getU16Be blob 6 == 15020 && getU16Be blob 28 == 72 && getU16Be blob 30 ≤ 72 &&
    current != 0 && (getU16Be blob 30).toNat ≤ (getU32Be blob 32).toNat &&
    slice blob 8 16 == transferId.toList && getU32Be blob 36 == crc32c (blob.take 36) &&
    getU32Be blob 15016 == crc32c (blob.take 15016) &&
    (List.range nrc1SlotCount).all (nrc1SlotOk blob) &&
    occupied.length == (getU16Be blob 30).toNat &&
    -- the oldest OPEN_ACCEPT is of the generation before, if any slot is
    (prior.isEmpty || anchors.min? == some (current - 1))

/-! ### The record of an ended transfer -/

def termComplete : UInt16 := 1
def termAborted : UInt16 := 2
def termCorruptFenced : UInt16 := 3
def termReasonNone : UInt16 := 0
def termReasonExpired : UInt16 := 5
def termReasonCorrupt : UInt16 := 0x8001
def termReasonEpoch : UInt16 := 0x8002

/-- `nm30_terminal_semantics_validate`. -/
def nm30TerminalSemanticsOk (nm30 : List UInt8) : Bool :=
  let state := getU16Be nm30 60
  let reason := getU16Be nm30 62
  let abortGeneration := getU32Be nm30 64
  let evidenceZero := bytesZero (slice nm30 68 16)
  let acceptanceZero := bytesZero (slice nm30 84 32)
  let actorZero := bytesZero (slice nm30 116 16)
  if state = termComplete then
    reason == termReasonNone && abortGeneration == 0 && actorZero && !evidenceZero &&
      !acceptanceZero
  else if state = termAborted then
    if 1 ≤ reason ∧ reason ≤ 4 then
      abortGeneration != 0 && abortGeneration ≤ 8 && !actorZero && evidenceZero && acceptanceZero
    else reason == termReasonExpired && abortGeneration == 0 && actorZero && evidenceZero &&
      acceptanceZero
  else state == termCorruptFenced && (reason == termReasonCorrupt || reason == termReasonEpoch) &&
    abortGeneration == 0 && actorZero && evidenceZero == acceptanceZero

/-- What `nm30_schema1_validate` and `nm30_schema2_validate` both ask. -/
def nm30CommonOk (nm30 : List UInt8) (transferId : Id) (schema len : UInt16) : Bool :=
  nm30.length == len.toNat && nm30.take 4 == magicNm30.toList && getU16Be nm30 4 == schema &&
    getU16Be nm30 6 == len && !bytesZero (slice nm30 8 16) &&
    slice nm30 8 16 == transferId.toList && getU32Be nm30 24 != 0 &&
    !bytesZero (slice nm30 28 32) && !bytesZero (slice nm30 132 16) && getU64Be nm30 148 != 0 &&
    nm30TerminalSemanticsOk nm30

/-- `nm30_schema2_validate`. -/
def nm30Schema2Validate (nm30 : List UInt8) (transferId : Id) : Bool :=
  nm30CommonOk nm30 transferId 2 180 && !bytesZero (slice nm30 156 16) &&
    (nm30.getD 172 0 == 1 || nm30.getD 172 0 == 2) && bytesZero (slice nm30 173 3) &&
    getU32Be nm30 176 == crc32c (nm30.take 176)

/-- `nm30_schema1_validate`. -/
def nm30Schema1Validate (nm30 : List UInt8) (transferId : Id) : Bool :=
  nm30CommonOk nm30 transferId 1 164 && getU32Be nm30 156 == 0 &&
    getU32Be nm30 160 == crc32c (nm30.take 160)

/-- `ninlil_mfdt_v1_validate_nm30_recovery_record` accepts. -/
def nm30RecoveryOk (nm30 : List UInt8) (transferId : Id) : Bool :=
  if nm30.length = nm30Bytes ∧ getU16Be nm30 4 = 2 then nm30Schema2Validate nm30 transferId
  else if nm30.length = nm30Schema1Bytes ∧ getU16Be nm30 4 = 1 then
    nm30Schema1Validate nm30 transferId
  else false

/-- How a transfer ended: the terminal arguments of `build_nm30`. -/
structure Ending where
  state : UInt16
  reason : UInt16
  abortGeneration : UInt32 := 0
  evidence : Option Id := none
  acceptance : Option Digest := none
  actor : Option Id := none
  anchorEpoch : Id
  anchorMs : UInt64

/-- The peer of a transfer, as its OPEN body names it. -/
def Xfer.peer (x : Xfer) : Id := getVector 16 x.openBody (if x.role = 1 then 112 else 96)

def buildNm30 (x : Xfer) (ending : Ending) : Except Err (List UInt8) :=
  if isZero ending.anchorEpoch ∨ ending.anchorMs = 0 ∨ (x.role ≠ 1 ∧ x.role ≠ 2) ∨
      x.openBody.length < 128 ∨ isZero x.peer then
    .error .state
  else
    let nm30 := sealAt (fill nm30Bytes
      [putVector 0 magicNm30, putU16Be 4 2, putU16Be 6 180, putVector 8 x.transferId,
        putU32Be 24 x.revision, putVector 28 x.manifestDigest, putU16Be 60 ending.state,
        putU16Be 62 ending.reason, putU32Be 64 ending.abortGeneration,
        putVector 68 (ending.evidence.getD zeroId),
        putVector 84 (ending.acceptance.getD zeroDigest),
        putVector 116 (ending.actor.getD zeroId), putVector 132 ending.anchorEpoch,
        putU64Be 148 ending.anchorMs, putVector 156 x.peer, putU8 172 x.role]) 176
    if nm30Schema2Validate nm30 x.transferId then .ok nm30 else .error .corrupt

end Ninlil.Mfdt
