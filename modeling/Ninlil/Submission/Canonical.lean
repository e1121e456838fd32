import Ninlil.Lib.SelectionSort
import Ninlil.Lib.Writer
import Ninlil.Submission.Preflight

/-!
# The canonical encoding of a submission

`submission_canonical_v1.c`: the bytes whose digest decides whether a resubmission is a duplicate
or a conflict.

* `encodeTargetRoster`: the records of the targets, sorted, refused if two are equal;
* `encodeFamilyMetadata`: the event of a fact, or the generation of anything else;
* `canonicalSubmissionBytes`: what is hashed; `canonicalSubmissionDigestV1`: the call;
* `canonicalSubmissionBytes_eq_ok_iff`: what is hashed, when anything is.

Views of text are lists of the bytes they point to, and an array of targets is a list, `none` for
a null pointer.
-/

namespace Ninlil.Submission
namespace Canonical

open Bytes Guard Writer

/-! ### Descriptors and submissions -/

/-- `ninlil_bytes_view_t`; its length is a word. -/
structure BytesView where
  bytes : List UInt8
  fits : bytes.length < 2 ^ 32

/-- What the encoding reads of a `ninlil_service_descriptor_t`. -/
structure ServiceDescriptor where
  namespaceId : BytesView
  serviceId : BytesView
  schemaId : BytesView
  descriptorRevision : UInt64
  descriptorDigest : Digest
  localApplicationInstanceId : Id128
  schemaMajor : UInt16
  family : UInt32

/-- What the encoding reads of a `ninlil_submission_t`. -/
structure SubmissionInput where
  schemaMinor : UInt16
  targets : Option (List ConcreteTarget)
  requiredEvidence : UInt32
  effectDeadlineMs : UInt64
  evidenceGraceMs : UInt64
  contentDigest : Digest
  eventId : Id128
  generation : UInt64
  payloadLength : UInt32

/-- The family with a code. -/
def familyOfCode (code : UInt32) : Family :=
  if code = 1 then .eventFact
  else if code = 2 then .desiredState
  else if code = 3 then .latestState
  else if code = 4 then .measurement
  else if code = 5 then .transfer
  else if code = 6 then .config
  else .unknown code

/-- `NINLIL_RT_CANONICAL_V1_MAX_BYTES`. -/
def maxBytes : ℕ := 1024

/-! ### Targets -/

/-- What the encoding reads of a target. -/
structure TargetRecord where
  targetRuntimeId : Id128
  targetApplicationInstanceId : Id128
  flags : UInt32
  deviceId : Id128
  installationId : Id128
  siteDomainId : Id128
  bindingEpoch : UInt64
  membershipEpoch : UInt64
  deriving DecidableEq

/-- The record of a target. -/
def record (target : ConcreteTarget) : TargetRecord where
  targetRuntimeId := target.targetRuntimeId
  targetApplicationInstanceId := target.targetApplicationInstanceId
  flags := target.flags
  deviceId := target.deviceId
  installationId := target.installationId
  siteDomainId := target.siteDomainId
  bindingEpoch := target.bindingEpoch
  membershipEpoch := target.membershipEpoch

/-- `target_presence_is_valid`. -/
def targetPresenceIsValid (target : ConcreteTarget) : Bool :=
  Preflight.presenceShapeIsValid target.flags target.deviceId target.installationId
    target.siteDomainId target.bindingEpoch target.membershipEpoch

/-- The hundred bytes of a record. -/
def recordBytes (r : TargetRecord) : List UInt8 :=
  encodeBE 16 r.targetRuntimeId.toNat ++ encodeBE 16 r.targetApplicationInstanceId.toNat
    ++ encodeBE 4 r.flags.toNat ++ encodeBE 16 r.deviceId.toNat
    ++ encodeBE 16 r.installationId.toNat ++ encodeBE 16 r.siteDomainId.toNat
    ++ encodeBE 8 r.bindingEpoch.toNat ++ encodeBE 8 r.membershipEpoch.toNat

/-- The targets that have a record. -/
def targetIsEncodable (target : ConcreteTarget) : Bool :=
  !(target.reservedZero != 0 || idIsZero target.targetRuntimeId
    || idIsZero target.targetApplicationInstanceId || !targetPresenceIsValid target)

/-- `encode_target_record_fixed`. -/
def encodeTargetRecordFixed (target : ConcreteTarget) : Option (List UInt8) :=
  if targetIsEncodable target then some (recordBytes (record target)) else none

/-- `encode_target_roster`. -/
def encodeTargetRoster (submission : SubmissionInput) : Option (List UInt8) := do
  let targets ← submission.targets
  if targets.length = 0 ∨ 8 < targets.length then none
  else
    let records ← targets.mapM encodeTargetRecordFixed
    let sorted ← SelectionSort.selectionSort bytesCompare records
    return encodeBE 4 targets.length ++ sorted.flatten

/-! ### Other values -/

/-- `encode_digest_value`. -/
def encodeDigestValue (digest : Digest) : Option (List UInt8) :=
  if digestIsValid digest then
    some (encodeBE 2 digest.algorithm.toNat ++ encodeBE 32 digest.bytes.toNat)
  else none

/-- The generation, of a submission that has one. -/
def encodeGeneration (submission : SubmissionInput) : Option (List UInt8) :=
  if submission.generation = 0 then none else some (encodeBE 8 submission.generation.toNat)

/-- `encode_family_metadata`. -/
def encodeFamilyMetadata (family : UInt32) (submission : SubmissionInput) : Option (List UInt8) :=
  match familyOfCode family with
  | .desiredState | .transfer | .config => encodeGeneration submission
  | .latestState => encodeGeneration submission
  | .measurement => encodeGeneration submission
  | .eventFact =>
    if idIsZero submission.eventId || submission.effectDeadlineMs != noDeadline
        || submission.evidenceGraceMs != 0 then none
    else some (encodeBE 16 submission.eventId.toNat)
  | .unknown _ => none

/-! ### The encoding -/

def writerAppend (data : List UInt8) : Write Unit := append maxBytes data
def writerAppendU8 (value : UInt8) : Write Unit := writerAppend [value]
def writerAppendU16Be (value : UInt16) : Write Unit := writerAppend (encodeBE 2 value.toNat)
def writerAppendU32Be (value : UInt32) : Write Unit := writerAppend (encodeBE 4 value.toNat)
def writerAppendU64Be (value : UInt64) : Write Unit := writerAppend (encodeBE 8 value.toNat)

/-- `writer_append_field`. -/
def writerAppendField (tag : UInt8) (value : List UInt8) : Write Unit := do
  writerAppendU8 tag
  writerAppendU32Be (UInt32.ofNat value.length)
  writerAppend value

/-- The sixteen fields behind the magic bytes. -/
def writeSubmission (descriptor : ServiceDescriptor) (submission : SubmissionInput)
    (descriptorDigestValue contentDigestValue targetRoster familyMetadata : List UInt8) :
    Write Unit := do
  writerAppend [78, 67, 83, 49]
  writerAppendField 0x01 descriptor.namespaceId.bytes
  writerAppendField 0x02 descriptor.serviceId.bytes
  writerAppendU8 0x03
  writerAppendU32Be 8
  writerAppendU64Be descriptor.descriptorRevision
  writerAppendField 0x04 descriptorDigestValue
  writerAppendField 0x05 (encodeBE 16 descriptor.localApplicationInstanceId.toNat)
  writerAppendU8 0x06
  writerAppendU32Be 4
  writerAppendU32Be descriptor.family
  writerAppendField 0x07 descriptor.schemaId.bytes
  writerAppendU8 0x08
  writerAppendU32Be 2
  writerAppendU16Be descriptor.schemaMajor
  writerAppendU8 0x09
  writerAppendU32Be 2
  writerAppendU16Be submission.schemaMinor
  writerAppendField 0x0a targetRoster
  writerAppendU8 0x0b
  writerAppendU32Be 8
  writerAppendU64Be submission.effectDeadlineMs
  writerAppendU8 0x0c
  writerAppendU32Be 8
  writerAppendU64Be submission.evidenceGraceMs
  writerAppendU8 0x0d
  writerAppendU32Be 4
  writerAppendU32Be submission.requiredEvidence
  writerAppendField 0x0e familyMetadata
  writerAppendField 0x0f contentDigestValue
  writerAppendU8 0x10
  writerAppendU32Be 4
  writerAppendU32Be submission.payloadLength

/-- What the call hashes. -/
def canonicalSubmissionBytes (descriptor : ServiceDescriptor) (submission : SubmissionInput) :
    Except Status (List UInt8) := do
  require (descriptor.descriptorRevision ≠ 0 ∧ descriptor.namespaceId.bytes.length ≠ 0
    ∧ descriptor.serviceId.bytes.length ≠ 0 ∧ descriptor.schemaId.bytes.length ≠ 0
    ∧ digestIsValid descriptor.descriptorDigest ∧ digestIsValid submission.contentDigest
    ∧ (submission.targets.getD []).length ≠ 0 ∧ submission.payloadLength.toNat ≤ 2 ^ 32 - 1)
      .invalidArgument
  let descriptorDigestValue ← orExit (encodeDigestValue descriptor.descriptorDigest)
    .invalidArgument
  let contentDigestValue ← orExit (encodeDigestValue submission.contentDigest) .invalidArgument
  let targetRoster ← orExit (encodeTargetRoster submission) .invalidArgument
  let familyMetadata ← orExit (encodeFamilyMetadata descriptor.family submission) .invalidArgument
  let written ← orExit (writeSubmission descriptor submission descriptorDigestValue
    contentDigestValue targetRoster familyMetadata []) .invalidArgument
  return written.2

/-- `ninlil_model_domain_sha256` on a buffer of the caller, over the digest function. -/
def domainSha256 (sha256 : List UInt8 → BitVec 256) (data : List UInt8) :
    Except Status (BitVec 256) :=
  if data.length = 0 then .error .invalidArgument
  else if 2 ^ 64 - 1 < data.length * 8 then .error .invalidArgument
  else .ok (sha256 data)

/-- `ninlil_rt_canonical_submission_digest_v1`. -/
def canonicalSubmissionDigestV1 (sha256 : List UInt8 → BitVec 256)
    (descriptor : ServiceDescriptor) (submission : SubmissionInput) : Except Status Digest := do
  let buffer ← canonicalSubmissionBytes descriptor submission
  let digest ← domainSha256 sha256 buffer
  return { algorithm := digestSha256, reservedZero := 0, bytes := digest }

/-! ### What each part encodes to -/

section Parts

variable {descriptor : ServiceDescriptor} {submission : SubmissionInput}

@[simp] theorem length_recordBytes (r : TargetRecord) : (recordBytes r).length = 100 := by
  simp only [recordBytes, List.length_append, length_encodeBE]

theorem mapM_encodeTargetRecordFixed {targets : List ConcreteTarget}
    {records : List (List UInt8)} :
    targets.mapM encodeTargetRecordFixed = some records ↔
      (∀ target ∈ targets, targetIsEncodable target) ∧
        records = targets.map fun target => recordBytes (record target) := by
  induction targets generalizing records with
  | nil =>
    rw [List.mapM_nil]
    exact ⟨fun h => ⟨nofun, (Option.some.inj h).symm⟩, fun h => congrArg some h.2.symm⟩
  | cons target targets ih =>
    rw [List.mapM_cons, encodeTargetRecordFixed]
    by_cases h : targetIsEncodable target
    · rw [if_pos h]
      simp only [Option.bind_eq_bind, Option.bind_some, Option.bind_eq_some_iff, ih, h,
        List.forall_mem_cons, true_and, List.map_cons, Option.pure_def, Option.some.injEq]
      constructor
      · rintro ⟨rest, ⟨hall, rfl⟩, rfl⟩
        exact ⟨hall, rfl⟩
      · rintro ⟨hall, rfl⟩
        exact ⟨_, ⟨hall, rfl⟩, rfl⟩
    · simp [h]

/-- A roster: its count, and the records in increasing order. -/
theorem encodeTargetRoster_eq_some_iff {roster : List UInt8} :
    encodeTargetRoster submission = some roster ↔
      ∃ targets sorted, submission.targets = some targets ∧
        1 ≤ targets.length ∧ targets.length ≤ 8 ∧
        (∀ target ∈ targets, targetIsEncodable target) ∧
        SelectionSort.selectionSort bytesCompare
          (targets.map fun target => recordBytes (record target)) = some sorted ∧
        roster = encodeBE 4 targets.length ++ sorted.flatten := by
  unfold encodeTargetRoster
  cases submission.targets with
  | none => simp
  | some targets =>
    by_cases hcount : targets.length = 0 ∨ 8 < targets.length
    · simp only [Option.bind_eq_bind, Option.bind_some, if_pos hcount]
      constructor
      · exact nofun
      · rintro ⟨_, _, heq, hpos, hle, -⟩
        obtain rfl := Option.some.inj heq
        omega
    · simp only [Option.bind_eq_bind, Option.bind_some, if_neg hcount, Option.bind_eq_some_iff,
        mapM_encodeTargetRecordFixed, Option.pure_def, Option.some.injEq]
      constructor
      · rintro ⟨_, ⟨hall, rfl⟩, sorted, hsort, rfl⟩
        exact ⟨targets, sorted, rfl, by omega, by omega, hall, hsort, rfl⟩
      · rintro ⟨_, sorted, rfl, -, -, hall, hsort, rfl⟩
        exact ⟨_, ⟨hall, rfl⟩, sorted, hsort, rfl⟩

/-- The records of a roster take a hundred bytes each. -/
theorem length_flatten_sorted {targets : List ConcreteTarget} {sorted : List (List UInt8)}
    (h : SelectionSort.selectionSort bytesCompare
      (targets.map fun target => recordBytes (record target)) = some sorted) :
    sorted.flatten.length = 100 * targets.length := by
  have hperm := (SelectionSort.selectionSort_eq_some_iff.1 h).1
  rw [hperm.flatten.length_eq]
  clear h hperm
  induction targets with
  | nil => rfl
  | cons target targets ih =>
    rw [List.map_cons, List.flatten_cons, List.length_append, ih, length_recordBytes,
      List.length_cons]
    omega

/-! ### The whole encoding -/

/-- The magic bytes and the sixteen fields. -/
def encodedFields (descriptor : ServiceDescriptor) (submission : SubmissionInput)
    (roster metadata : List UInt8) : List (List UInt8) :=
  [[78, 67, 83, 49],
    field 0x01 descriptor.namespaceId.bytes,
    field 0x02 descriptor.serviceId.bytes,
    field 0x03 (encodeBE 8 descriptor.descriptorRevision.toNat),
    field 0x04 (encodeBE 2 descriptor.descriptorDigest.algorithm.toNat
      ++ encodeBE 32 descriptor.descriptorDigest.bytes.toNat),
    field 0x05 (encodeBE 16 descriptor.localApplicationInstanceId.toNat),
    field 0x06 (encodeBE 4 descriptor.family.toNat),
    field 0x07 descriptor.schemaId.bytes,
    field 0x08 (encodeBE 2 descriptor.schemaMajor.toNat),
    field 0x09 (encodeBE 2 submission.schemaMinor.toNat),
    field 0x0a roster,
    field 0x0b (encodeBE 8 submission.effectDeadlineMs.toNat),
    field 0x0c (encodeBE 8 submission.evidenceGraceMs.toNat),
    field 0x0d (encodeBE 4 submission.requiredEvidence.toNat),
    field 0x0e metadata,
    field 0x0f (encodeBE 2 submission.contentDigest.algorithm.toNat
      ++ encodeBE 32 submission.contentDigest.bytes.toNat),
    field 0x10 (encodeBE 4 submission.payloadLength.toNat)]

theorem writes_writerAppendField {tag : UInt8} {value : List UInt8}
    (h : value.length < 2 ^ 32) :
      Writes maxBytes (writerAppendField tag value) (field tag value) := by
  have hlen : (UInt32.ofNat value.length).toNat = value.length := UInt32.toNat_ofNat_of_lt' h
  unfold writerAppendField writerAppendU32Be
  rw [hlen]
  exact writes_append.bind (writes_append.bind writes_append)

/-- A field written in three steps, and what comes after it. -/
theorem Writes.scalar {tag : UInt8} {n : UInt32} {value more : List UInt8} {rest : Write Unit}
    (hn : n.toNat = value.length) (hrest : Writes maxBytes rest more) :
    Writes maxBytes (writerAppendU8 tag >>= fun _ => writerAppendU32Be n >>= fun _ =>
      writerAppend value >>= fun _ => rest) (field tag value ++ more) := by
  unfold writerAppendU32Be field
  rw [hn, List.append_assoc, List.append_assoc]
  exact writes_append.bind (writes_append.bind (writes_append.bind hrest))

theorem encodeDigestValue_eq_some_iff {digest : Digest} {value : List UInt8} :
    encodeDigestValue digest = some value ↔ digestIsValid digest ∧
      value = encodeBE 2 digest.algorithm.toNat ++ encodeBE 32 digest.bytes.toNat := by
  unfold encodeDigestValue
  split_ifs with h
  · simp [h, eq_comm]
  · simp [h]

/-- The program writes the fields, if they fit. -/
theorem writes_writeSubmission {descriptorDigestValue contentDigestValue roster
    metadata : List UInt8}
    (hdescriptor : encodeDigestValue descriptor.descriptorDigest = some descriptorDigestValue)
    (hcontent : encodeDigestValue submission.contentDigest = some contentDigestValue)
    (hroster : roster.length < 2 ^ 32) (hmetadata : metadata.length < 2 ^ 32) :
    Writes maxBytes (writeSubmission descriptor submission descriptorDigestValue contentDigestValue
      roster metadata) (encodedFields descriptor submission roster metadata).flatten := by
  obtain ⟨-, rfl⟩ := encodeDigestValue_eq_some_iff.1 hdescriptor
  obtain ⟨-, rfl⟩ := encodeDigestValue_eq_some_iff.1 hcontent
  simp only [encodedFields, List.flatten_cons, List.flatten_nil, List.append_nil]
  unfold writeSubmission
  refine writes_append.bind ?_
  refine (writes_writerAppendField descriptor.namespaceId.fits).bind ?_
  refine (writes_writerAppendField descriptor.serviceId.fits).bind ?_
  refine Writes.scalar (by simp) ?_
  refine (writes_writerAppendField (by simp)).bind ?_
  refine (writes_writerAppendField (by simp)).bind ?_
  refine Writes.scalar (by simp) ?_
  refine (writes_writerAppendField descriptor.schemaId.fits).bind ?_
  refine Writes.scalar (by simp) ?_
  refine Writes.scalar (by simp) ?_
  refine (writes_writerAppendField hroster).bind ?_
  refine Writes.scalar (by simp) ?_
  refine Writes.scalar (by simp) ?_
  refine Writes.scalar (by simp) ?_
  refine (writes_writerAppendField hmetadata).bind ?_
  refine (writes_writerAppendField (by simp)).bind ?_
  exact writes_append.bind (writes_append.bind writes_append)

theorem length_encodedFields {roster metadata : List UInt8} :
    (encodedFields descriptor submission roster metadata).flatten.length =
      208 + descriptor.namespaceId.bytes.length + descriptor.serviceId.bytes.length
        + descriptor.schemaId.bytes.length + roster.length + metadata.length := by
  simp only [encodedFields, List.flatten_cons, List.flatten_nil, List.append_nil,
    List.length_append, length_field, length_encodeBE, List.length_cons, List.length_nil]
  omega

/-- The metadata of a family: what they are made of. -/
theorem encodeFamilyMetadata_eq_some_iff {family : UInt32} {metadata : List UInt8} :
    encodeFamilyMetadata family submission = some metadata ↔
      (familyOfCode family = .eventFact ∧ submission.eventId ≠ 0 ∧
        submission.effectDeadlineMs = noDeadline ∧ submission.evidenceGraceMs = 0 ∧
        metadata = encodeBE 16 submission.eventId.toNat) ∨
      (familyOfCode family ≠ .eventFact ∧ (∀ code, familyOfCode family ≠ .unknown code) ∧
        submission.generation ≠ 0 ∧ metadata = encodeBE 8 submission.generation.toNat) := by
  unfold encodeFamilyMetadata encodeGeneration
  cases familyOfCode family with
  | eventFact =>
    simp only [idIsZero, Bool.or_eq_true, beq_iff_eq, bne_iff_ne, ne_eq, not_true, false_and,
      or_false, true_and]
    split_ifs with h
    · simp only [false_iff]
      tauto
    · simp only [Option.some.injEq]
      tauto
  | unknown code => simp
  | desiredState | transfer | config | latestState | measurement => simp [@eq_comm _ metadata]

theorem length_roster_lt {roster : List UInt8}
    (h : encodeTargetRoster submission = some roster) : roster.length < 2 ^ 32 := by
  obtain ⟨targets, sorted, -, -, hcount, -, hsort, rfl⟩ := encodeTargetRoster_eq_some_iff.1 h
  rw [List.length_append, length_encodeBE, length_flatten_sorted hsort]
  omega

theorem length_metadata_lt {family : UInt32} {metadata : List UInt8}
    (h : encodeFamilyMetadata family submission = some metadata) : metadata.length < 2 ^ 32 := by
  rcases encodeFamilyMetadata_eq_some_iff.1 h with ⟨-, -, -, -, rfl⟩ | ⟨-, -, -, rfl⟩
  · rw [length_encodeBE]
    norm_num
  · rw [length_encodeBE]
    norm_num

/-- What the call checks before it encodes anything of variable shape. -/
structure Checked (descriptor : ServiceDescriptor) (submission : SubmissionInput) : Prop where
  revision : descriptor.descriptorRevision ≠ 0
  namespaceId : descriptor.namespaceId.bytes ≠ []
  serviceId : descriptor.serviceId.bytes ≠ []
  schemaId : descriptor.schemaId.bytes ≠ []
  descriptorDigest : digestIsValid descriptor.descriptorDigest
  contentDigest : digestIsValid submission.contentDigest

/-- **What is hashed**, when anything is. -/
theorem canonicalSubmissionBytes_eq_ok_iff {bytes : List UInt8} :
    canonicalSubmissionBytes descriptor submission = .ok bytes ↔
      Checked descriptor submission ∧ ∃ roster metadata,
        encodeTargetRoster submission = some roster ∧
        encodeFamilyMetadata descriptor.family submission = some metadata ∧
        (encodedFields descriptor submission roster metadata).flatten.length ≤ maxBytes ∧
        bytes = (encodedFields descriptor submission roster metadata).flatten := by
  have hwords : submission.payloadLength.toNat ≤ 2 ^ 32 - 1 :=
    Nat.le_sub_one_of_lt submission.payloadLength.toNat_lt
  have hwrites : ∀ {descriptorValue contentValue roster metadata written : List UInt8},
      encodeDigestValue descriptor.descriptorDigest = some descriptorValue →
      encodeDigestValue submission.contentDigest = some contentValue →
      encodeTargetRoster submission = some roster →
      encodeFamilyMetadata descriptor.family submission = some metadata →
      (writeSubmission descriptor submission descriptorValue contentValue roster metadata []
          = some ((), written) ↔
        (encodedFields descriptor submission roster metadata).flatten.length ≤ maxBytes ∧
          written = (encodedFields descriptor submission roster metadata).flatten) := by
    intro _ _ roster metadata written hdescriptor hcontent hroster hmetadata
    have hrun := (writes_writeSubmission hdescriptor hcontent (length_roster_lt hroster)
      (length_metadata_lt hmetadata)).run
    rw [hrun]
    split_ifs with hfits
    · simp only [hfits, true_and, Option.some.injEq, Prod.mk.injEq]
      exact eq_comm
    · simp only [hfits, false_and]
  unfold canonicalSubmissionBytes
  simp only [bind_eq_ok, require_eq_ok, orExit_eq_ok]
  constructor
  · rintro ⟨-, ⟨hrevision, hnamespace, hservice, hschema, hdigest, hcontent, -, -⟩, _, hdv, _, hcv,
      roster, hroster, metadata, hmetadata, ⟨_, written⟩, hwritten, heq⟩
    obtain rfl : written = bytes := Except.ok.inj heq
    obtain ⟨hfits, hbytes⟩ := (hwrites hdv hcv hroster hmetadata).1 hwritten
    exact ⟨⟨hrevision, by simpa using hnamespace, by simpa using hservice, by simpa using hschema,
      hdigest, hcontent⟩, roster, metadata, hroster, hmetadata, hfits, hbytes⟩
  · rintro ⟨⟨hrevision, hnamespace, hservice, hschema, hdigest, hcontent⟩,
      roster, metadata, hroster,
      hmetadata, hfits, rfl⟩
    have hdv := encodeDigestValue_eq_some_iff.2 ⟨hdigest, rfl⟩
    have hcv := encodeDigestValue_eq_some_iff.2 ⟨hcontent, rfl⟩
    have hcount : (submission.targets.getD []).length ≠ 0 := by
      obtain ⟨targets, _, heq, hpos, -⟩ := encodeTargetRoster_eq_some_iff.1 hroster
      rw [heq]
      exact Nat.pos_iff_ne_zero.1 hpos
    exact ⟨(), ⟨hrevision, by simpa using hnamespace, by simpa using hservice,
      by simpa using hschema,
      hdigest, hcontent, hcount, hwords⟩, _, hdv, _, hcv, roster, hroster, metadata, hmetadata,
      ((), _), (hwrites hdv hcv hroster hmetadata).2 ⟨hfits, rfl⟩, rfl⟩

/-- Whatever is refused is refused as an invalid argument. -/
theorem canonicalSubmissionBytes_error {status : Status}
    (h : canonicalSubmissionBytes descriptor submission = .error status) :
    status = .invalidArgument := by
  have hexits : Exits (· = Status.invalidArgument)
      (canonicalSubmissionBytes descriptor submission) := by
    unfold canonicalSubmissionBytes
    refine Exits.bind (exits_require rfl) fun _ => ?_
    refine Exits.bind (exits_orExit rfl) fun _ => ?_
    refine Exits.bind (exits_orExit rfl) fun _ => ?_
    refine Exits.bind (exits_orExit rfl) fun _ => ?_
    refine Exits.bind (exits_orExit rfl) fun _ => ?_
    exact Exits.bind (exits_orExit rfl) fun _ => exits_ok
  exact hexits status h

/-- The call returns a digest exactly if it hashes something. -/
theorem canonicalSubmissionDigestV1_ok {sha256 : List UInt8 → BitVec 256} {digest : Digest} :
    canonicalSubmissionDigestV1 sha256 descriptor submission = .ok digest ↔
      ∃ bytes, canonicalSubmissionBytes descriptor submission = .ok bytes ∧
        digest = ⟨digestSha256, 0, sha256 bytes⟩ := by
  unfold canonicalSubmissionDigestV1
  simp only [bind_eq_ok]
  constructor
  · rintro ⟨bytes, hbytes, value, hvalue, heq⟩
    refine ⟨bytes, hbytes, ?_⟩
    unfold domainSha256 at hvalue
    split_ifs at hvalue
    obtain rfl := Except.ok.inj hvalue
    exact (Except.ok.inj heq).symm
  · rintro ⟨bytes, hbytes, rfl⟩
    obtain ⟨-, roster, metadata, -, -, hfits, rfl⟩ := canonicalSubmissionBytes_eq_ok_iff.1 hbytes
    refine ⟨_, hbytes, sha256 _, ?_, rfl⟩
    have hlen := @length_encodedFields descriptor submission roster metadata
    unfold maxBytes at hfits
    unfold domainSha256
    rw [if_neg (by omega), if_neg (by omega)]

end Parts

end Canonical
end Ninlil.Submission
