import Ninlil.Submission.CanonicalIdentity

/-!
# Submissions that fit the canonical buffer

The roster takes up to eight targets, and the buffer holds `1024` bytes: which submissions with
valid parts are too long for it.

* `ValidParts`: every part of the encoding is accepted on its own;
* `encodedLength`: the length of the whole;
* `canonical_fit`: the call returns a digest exactly if that is no more than the buffer holds, as
  it is with up to six targets;
* `canonical_too_long`: eight targets, and identifiers of five bytes in all.
-/

namespace Ninlil.Submission
namespace Canonical

open Bytes

/-- Every part of the encoding is accepted on its own. -/
structure ValidParts (d : ServiceDescriptor) (s : SubmissionInput) : Prop where
  namespaceId : 1 ≤ d.namespaceId.bytes.length ∧ d.namespaceId.bytes.length ≤ 63
  serviceId : 1 ≤ d.serviceId.bytes.length ∧ d.serviceId.bytes.length ≤ 63
  schemaId : 1 ≤ d.schemaId.bytes.length ∧ d.schemaId.bytes.length ≤ 63
  revision : d.descriptorRevision ≠ 0
  descriptorDigest : (encodeDigestValue d.descriptorDigest).isSome
  contentDigest : (encodeDigestValue s.contentDigest).isSome
  roster : (encodeTargetRoster s).isSome
  metadata : (encodeFamilyMetadata d.family s).isSome

/-- The length of the whole encoding. -/
def encodedLength (d : ServiceDescriptor) (s : SubmissionInput) : ℕ :=
  212 + d.namespaceId.bytes.length + d.serviceId.bytes.length + d.schemaId.bytes.length
    + 100 * (s.targets.getD []).length
    + if familyOfCode d.family = .eventFact then 16 else 8

section Fit

variable {d : ServiceDescriptor} {s : SubmissionInput}

theorem length_roster {roster : List UInt8} (h : encodeTargetRoster s = some roster) :
    roster.length = 4 + 100 * (s.targets.getD []).length := by
  obtain ⟨targets, sorted, htargets, -, -, -, hsort, rfl⟩ := encodeTargetRoster_eq_some_iff.1 h
  rw [List.length_append, length_encodeBE, length_flatten_sorted hsort, htargets]
  rfl

theorem length_metadata {family : UInt32} {metadata : List UInt8}
    (h : encodeFamilyMetadata family s = some metadata) :
    metadata.length = if familyOfCode family = .eventFact then 16 else 8 := by
  rcases encodeFamilyMetadata_eq_some_iff.1 h with ⟨heq, -, -, -, rfl⟩ | ⟨hne, -, -, rfl⟩
  · rw [if_pos heq, length_encodeBE]
  · rw [if_neg hne, length_encodeBE]

/-- The encoding of valid parts has its length. -/
theorem length_encodedFields_eq {roster metadata : List UInt8}
    (hroster : encodeTargetRoster s = some roster)
    (hmetadata : encodeFamilyMetadata d.family s = some metadata) :
    (encodedFields d s roster metadata).flatten.length = encodedLength d s := by
  rw [length_encodedFields, length_roster hroster, length_metadata hmetadata, encodedLength]
  omega

theorem ValidParts.checked (h : ValidParts d s) : Checked d s := by
  have hne : ∀ {bytes : List UInt8}, 1 ≤ bytes.length → bytes ≠ [] := fun hlen =>
    List.ne_nil_of_length_pos hlen
  obtain ⟨_, hdescriptor⟩ := Option.isSome_iff_exists.1 h.descriptorDigest
  obtain ⟨_, hcontent⟩ := Option.isSome_iff_exists.1 h.contentDigest
  exact ⟨h.revision, hne h.namespaceId.1, hne h.serviceId.1, hne h.schemaId.1,
    (encodeDigestValue_eq_some_iff.1 hdescriptor).1, (encodeDigestValue_eq_some_iff.1 hcontent).1⟩

/-- Valid parts are hashed exactly if they fit. -/
theorem ValidParts.hashed_iff (h : ValidParts d s) :
    (∃ bytes, canonicalSubmissionBytes d s = .ok bytes) ↔ encodedLength d s ≤ maxBytes := by
  obtain ⟨roster, hroster⟩ := Option.isSome_iff_exists.1 h.roster
  obtain ⟨metadata, hmetadata⟩ := Option.isSome_iff_exists.1 h.metadata
  constructor
  · rintro ⟨bytes, hbytes⟩
    obtain ⟨-, roster', metadata', hroster', hmetadata', hfits, -⟩ :=
      canonicalSubmissionBytes_eq_ok_iff.1 hbytes
    rwa [length_encodedFields_eq hroster' hmetadata'] at hfits
  · intro hfits
    rw [← length_encodedFields_eq hroster hmetadata] at hfits
    exact ⟨_, canonicalSubmissionBytes_eq_ok_iff.2
      ⟨h.checked, roster, metadata, hroster, hmetadata, hfits, rfl⟩⟩

/-- Up to six targets always fit. -/
theorem ValidParts.encodedLength_le (h : ValidParts d s) (hsix : (s.targets.getD []).length ≤ 6) :
    encodedLength d s ≤ maxBytes := by
  have hnamespace := h.namespaceId.2
  have hservice := h.serviceId.2
  have hschema := h.schemaId.2
  unfold encodedLength maxBytes
  split_ifs <;> omega

/-- **Which submissions fit.** The encoding of valid parts has the length of the formula; the call
returns a digest exactly if that is no more than the buffer, refuses it as an invalid argument
otherwise, and always returns one for up to six targets. -/
theorem canonical_fit (sha256 : List UInt8 → BitVec 256) (d : ServiceDescriptor)
    (s : SubmissionInput) (h : ValidParts d s) :
    (∀ roster metadata, encodeTargetRoster s = some roster →
      encodeFamilyMetadata d.family s = some metadata →
      (encodedFields d s roster metadata).flatten.length = encodedLength d s) ∧
    ((∃ digest, canonicalSubmissionDigestV1 sha256 d s = .ok digest) ↔
      encodedLength d s ≤ maxBytes) ∧
    (maxBytes < encodedLength d s →
      canonicalSubmissionDigestV1 sha256 d s = .error .invalidArgument) ∧
    ((s.targets.getD []).length ≤ 6 →
      ∃ digest, canonicalSubmissionDigestV1 sha256 d s = .ok digest) := by
  have hdigest : (∃ digest, canonicalSubmissionDigestV1 sha256 d s = .ok digest) ↔
      encodedLength d s ≤ maxBytes := by
    rw [← h.hashed_iff]
    constructor
    · rintro ⟨digest, hok⟩
      obtain ⟨bytes, hbytes, -⟩ := canonicalSubmissionDigestV1_ok.1 hok
      exact ⟨bytes, hbytes⟩
    · rintro ⟨bytes, hbytes⟩
      exact ⟨_, canonicalSubmissionDigestV1_ok.2 ⟨bytes, hbytes, rfl⟩⟩
  refine ⟨fun _ _ => length_encodedFields_eq, hdigest, fun hlong => ?_,
    fun hsix => hdigest.2 (h.encodedLength_le hsix)⟩
  cases hbytes : canonicalSubmissionBytes d s with
  | ok bytes => exact absurd (h.hashed_iff.1 ⟨bytes, hbytes⟩) (Nat.not_le.2 hlong)
  | error status =>
    rw [canonicalSubmissionDigestV1, hbytes, canonicalSubmissionBytes_error hbytes]
    rfl

end Fit

/-! ### The two limits -/

/-- A target that names nothing but its runtime and its application. -/
def plainTarget (runtime : Id128) : ConcreteTarget :=
  { targetRuntimeId := runtime, targetApplicationInstanceId := 1 }

/-- A descriptor with identifiers of two, two and one bytes. -/
def shortDescriptor : ServiceDescriptor where
  namespaceId := ⟨[97, 98], by decide⟩
  serviceId := ⟨[97, 98], by decide⟩
  schemaId := ⟨[97], by decide⟩
  descriptorRevision := 1
  descriptorDigest := { algorithm := digestSha256 }
  localApplicationInstanceId := 1
  schemaMajor := 1
  family := 2

/-- A command to the targets `1, …, n`. -/
def plainCommand (n : ℕ) : SubmissionInput where
  schemaMinor := 0
  targets := some ((List.range n).map fun i => plainTarget (BitVec.ofNat 128 (i + 1)))
  requiredEvidence := 1
  effectDeadlineMs := 1000
  evidenceGraceMs := 0
  contentDigest := { algorithm := digestSha256 }
  eventId := 0
  generation := 1
  payloadLength := 0

theorem validParts_plainCommand {n : ℕ} (hpos : 1 ≤ n) (hle : n ≤ 8) :
    ValidParts shortDescriptor (plainCommand n) := by
  refine ⟨by decide, by decide, by decide, by decide, rfl, rfl, ?_, rfl⟩
  rw [isSome_encodeTargetRoster (show (plainCommand n).targets = some _ from rfl)]
  have hall : ∀ n ≤ 8, (∀ target ∈ (List.range n).map fun i =>
      plainTarget (BitVec.ofNat 128 (i + 1)), targetIsEncodable target) ∧
      (((List.range n).map fun i => plainTarget (BitVec.ofNat 128 (i + 1))).map record).Nodup := by
    decide
  refine ⟨?_, ?_, hall n hle⟩
  · rwa [List.length_map, List.length_range]
  · rwa [List.length_map, List.length_range]

/-- One target fits. -/
theorem canonical_fit_one : ∃ digest,
    canonicalSubmissionDigestV1 (fun _ => 0) shortDescriptor (plainCommand 1) = .ok digest :=
  (canonical_fit (fun _ => 0) shortDescriptor (plainCommand 1)
    (validParts_plainCommand (by decide) (by decide))).2.2.2 (by decide)

/-- **Eight targets do not**, already with identifiers of five bytes in all. -/
theorem canonical_too_long : ¬ ∀ (sha256 : List UInt8 → BitVec 256) (d : ServiceDescriptor)
    (s : SubmissionInput), ValidParts d s →
      ∃ digest, canonicalSubmissionDigestV1 sha256 d s = .ok digest := by
  intro hall
  have hvalid := validParts_plainCommand (n := 8) (by decide) (by decide)
  obtain ⟨digest, hdigest⟩ := hall (fun _ => 0) shortDescriptor (plainCommand 8) hvalid
  obtain ⟨bytes, hbytes, -⟩ := canonicalSubmissionDigestV1_ok.1 hdigest
  exact absurd (hvalid.hashed_iff.1 ⟨bytes, hbytes⟩) (by decide)

end Canonical
end Ninlil.Submission
