import Ninlil.Submission.Canonical

/-!
# The canonical identity of a submission

When two submissions are hashed from the same bytes, and so count as one.

* `recordBytes_inj`: a record is read off its bytes;
* `roster_eq_iff`: two rosters are equal exactly if they hold the same records;
* `SameSubmission`: what two submissions that count as one agree on;
* `canonical_identity`: equal bytes, order of the targets, and repeated targets.
-/

namespace Ninlil.Submission
namespace Canonical

open Bytes Writer SelectionSort

/-! ### Values of fixed width -/

section Values

variable {a b : UInt16} {c d : UInt32} {e f : UInt64} {i j : Id128}

@[simp] theorem encodeBE_word16 : encodeBE 2 a.toNat = encodeBE 2 b.toNat ↔ a = b :=
  (encodeBE_inj a.toNat_lt b.toNat_lt).trans UInt16.toNat_inj

@[simp] theorem encodeBE_word32 : encodeBE 4 c.toNat = encodeBE 4 d.toNat ↔ c = d :=
  (encodeBE_inj c.toNat_lt d.toNat_lt).trans UInt32.toNat_inj

@[simp] theorem encodeBE_word64 : encodeBE 8 e.toNat = encodeBE 8 f.toNat ↔ e = f :=
  (encodeBE_inj e.toNat_lt f.toNat_lt).trans UInt64.toNat_inj

@[simp] theorem encodeBE_id : encodeBE 16 i.toNat = encodeBE 16 j.toNat ↔ i = j :=
  (encodeBE_inj i.isLt j.isLt).trans BitVec.toNat_inj

@[simp] theorem encodeBE_digest {x y : BitVec 256} :
    encodeBE 32 x.toNat = encodeBE 32 y.toNat ↔ x = y :=
  (encodeBE_inj x.isLt y.isLt).trans BitVec.toNat_inj

end Values

/-- A record is read off its bytes. -/
theorem recordBytes_inj {r r' : TargetRecord} : recordBytes r = recordBytes r' ↔ r = r' := by
  constructor
  · intro h
    unfold recordBytes at h
    obtain ⟨h, hmembership⟩ := List.append_inj' h (by simp)
    obtain ⟨h, hbinding⟩ := List.append_inj' h (by simp)
    obtain ⟨h, hsite⟩ := List.append_inj' h (by simp)
    obtain ⟨h, hinstallation⟩ := List.append_inj' h (by simp)
    obtain ⟨h, hdevice⟩ := List.append_inj' h (by simp)
    obtain ⟨h, hflags⟩ := List.append_inj' h (by simp)
    obtain ⟨hruntime, hinstance⟩ := List.append_inj' h (by simp)
    rw [encodeBE_id] at hruntime hinstance hdevice hinstallation hsite
    rw [encodeBE_word32] at hflags
    rw [encodeBE_word64] at hbinding hmembership
    cases r
    cases r'
    simp_all
  · rintro rfl
    rfl

/-! ### Rosters -/

/-- The records of the targets of a submission. -/
def targetRecords (submission : SubmissionInput) : List TargetRecord :=
  (submission.targets.getD []).map record

section Rosters

variable {s s' : SubmissionInput} {roster roster' : List UInt8}

/-- A roster that is encoded: what it is made of. -/
theorem roster_parts (h : encodeTargetRoster s = some roster) :
    (targetRecords s).Nodup ∧ (targetRecords s).length < 2 ^ 32 ∧
      ∃ sorted, selectionSort bytesCompare ((targetRecords s).map recordBytes) = some sorted ∧
        sorted.map List.length = List.replicate (targetRecords s).length 100 ∧
        roster = encodeBE 4 (targetRecords s).length ++ sorted.flatten := by
  obtain ⟨targets, sorted, htargets, -, hcount, -, hsort, rfl⟩ := encodeTargetRoster_eq_some_iff.1 h
  have hrecords : targetRecords s = targets.map record := by rw [targetRecords, htargets]; rfl
  have hmap : targets.map (fun target => recordBytes (record target))
      = (targetRecords s).map recordBytes := by rw [hrecords, List.map_map]; rfl
  rw [hmap] at hsort
  obtain ⟨hperm, -⟩ := selectionSort_eq_some_iff.1 hsort
  have hlen : (targetRecords s).length = targets.length := by rw [hrecords, List.length_map]
  refine ⟨?_, by omega, sorted, hsort, ?_, by rw [hlen]⟩
  · have hnodup := isSome_selectionSort.1 (Option.isSome_of_eq_some hsort)
    exact List.Nodup.of_map recordBytes hnodup
  · rw [List.eq_replicate_iff]
    refine ⟨by rw [List.length_map, hperm.length_eq, List.length_map], fun n hn => ?_⟩
    obtain ⟨bytes, hbytes, rfl⟩ := List.mem_map.1 hn
    obtain ⟨r, -, rfl⟩ := List.mem_map.1 (hperm.mem_iff.1 hbytes)
    exact length_recordBytes r

/-- Two rosters are equal exactly if they hold the same records. -/
theorem roster_eq_iff (h : encodeTargetRoster s = some roster)
    (h' : encodeTargetRoster s' = some roster') :
    roster = roster' ↔ ∀ r, r ∈ targetRecords s ↔ r ∈ targetRecords s' := by
  obtain ⟨hnodup, hcount, sorted, hsort, hlengths, rfl⟩ := roster_parts h
  obtain ⟨hnodup', hcount', sorted', hsort', hlengths', rfl⟩ := roster_parts h'
  constructor
  · intro heq r
    obtain ⟨hlen, hflatten⟩ := List.append_inj heq (by simp)
    rw [encodeBE_inj hcount hcount'] at hlen
    have hsorted : sorted = sorted' :=
      List.eq_iff_flatten_eq.2 ⟨hflatten, by rw [hlengths, hlengths', hlen]⟩
    have hperm := (selectionSort_eq_some_iff.1 hsort).1
    have hperm' := (selectionSort_eq_some_iff.1 hsort').1
    have hbytes := (hperm.symm.trans (hsorted ▸ hperm')).mem_iff (a := recordBytes r)
    simpa only [List.mem_map, recordBytes_inj, exists_eq_right] using hbytes
  · intro hmem
    have hperm := (List.perm_ext_iff_of_nodup hnodup hnodup').2 hmem
    have hsorted : some sorted = some sorted' :=
      hsort.symm.trans ((selectionSort_congr (hperm.map recordBytes)).trans hsort')
    rw [hperm.length_eq, Option.some.inj hsorted]

/-- When a roster is encoded: one to eight targets with records of their own. -/
theorem isSome_encodeTargetRoster {targets : List ConcreteTarget} (h : s.targets = some targets) :
    (encodeTargetRoster s).isSome ↔ 1 ≤ targets.length ∧ targets.length ≤ 8 ∧
      (∀ target ∈ targets, targetIsEncodable target) ∧ (targets.map record).Nodup := by
  have hmap : targets.map (fun target => recordBytes (record target))
      = (targets.map record).map recordBytes := by
    rw [List.map_map]
    rfl
  have hsort : (∃ sorted, selectionSort bytesCompare
      (targets.map fun target => recordBytes (record target)) = some sorted) ↔
      (targets.map record).Nodup := by
    rw [← Option.isSome_iff_exists, isSome_selectionSort, hmap]
    exact List.nodup_map_iff fun _ _ => recordBytes_inj.1
  constructor
  · intro hsome
    obtain ⟨roster, hroster⟩ := Option.isSome_iff_exists.1 hsome
    obtain ⟨_, sorted, heq, hpos, hle, hall, hsorted, -⟩ := encodeTargetRoster_eq_some_iff.1 hroster
    obtain rfl := Option.some.inj (h.symm.trans heq)
    exact ⟨hpos, hle, hall, hsort.1 ⟨sorted, hsorted⟩⟩
  · rintro ⟨hpos, hle, hall, hnodup⟩
    obtain ⟨sorted, hsorted⟩ := hsort.2 hnodup
    exact Option.isSome_of_eq_some (encodeTargetRoster_eq_some_iff.2
      ⟨targets, sorted, h, hpos, hle, hall, hsorted, rfl⟩)

/-- The order of the targets makes no difference to a roster, encoded or refused. -/
theorem encodeTargetRoster_congr {targets targets' : List ConcreteTarget}
    (hperm : targets.Perm targets') :
    encodeTargetRoster { s with targets := some targets }
      = encodeTargetRoster { s with targets := some targets' } := by
  refine Option.ext fun roster => ?_
  rw [encodeTargetRoster_eq_some_iff, encodeTargetRoster_eq_some_iff]
  have hsort := @selectionSort_congr _ bytesCompare _ _ _ _
    (hperm.map fun target => recordBytes (record target))
  constructor
  · rintro ⟨_, sorted, heq, hpos, hle, hall, hsorted, hroster⟩
    obtain rfl := Option.some.inj heq
    rw [hperm.length_eq] at hpos hle hroster
    exact ⟨targets', sorted, rfl, hpos, hle, fun t ht => hall t (hperm.mem_iff.2 ht),
      hsort.symm.trans hsorted, hroster⟩
  · rintro ⟨_, sorted, heq, hpos, hle, hall, hsorted, hroster⟩
    obtain rfl := Option.some.inj heq
    rw [← hperm.length_eq] at hpos hle hroster
    exact ⟨targets, sorted, rfl, hpos, hle, fun t ht => hall t (hperm.mem_iff.1 ht),
      hsort.trans hsorted, hroster⟩

end Rosters

/-! ### Submissions that count as one -/

/-- What two submissions agree on if they are hashed from the same bytes. -/
structure SameSubmission (d d' : ServiceDescriptor) (s s' : SubmissionInput) : Prop where
  namespaceId : d.namespaceId.bytes = d'.namespaceId.bytes
  serviceId : d.serviceId.bytes = d'.serviceId.bytes
  schemaId : d.schemaId.bytes = d'.schemaId.bytes
  descriptorRevision : d.descriptorRevision = d'.descriptorRevision
  descriptorDigest : d.descriptorDigest = d'.descriptorDigest
  localApplicationInstanceId : d.localApplicationInstanceId = d'.localApplicationInstanceId
  family : d.family = d'.family
  schemaMajor : d.schemaMajor = d'.schemaMajor
  schemaMinor : s.schemaMinor = s'.schemaMinor
  targets : ∀ r, r ∈ targetRecords s ↔ r ∈ targetRecords s'
  effectDeadlineMs : s.effectDeadlineMs = s'.effectDeadlineMs
  evidenceGraceMs : s.evidenceGraceMs = s'.evidenceGraceMs
  requiredEvidence : s.requiredEvidence = s'.requiredEvidence
  metadata : if familyOfCode d.family = .eventFact then s.eventId = s'.eventId
    else s.generation = s'.generation
  contentDigest : s.contentDigest = s'.contentDigest
  payloadLength : s.payloadLength = s'.payloadLength

section Identity

variable {d d' : ServiceDescriptor} {s s' : SubmissionInput}

/-- A valid digest is its body. -/
theorem digest_eq_iff {x y : Digest} (hx : digestIsValid x) (hy : digestIsValid y) :
    encodeBE 2 x.algorithm.toNat ++ encodeBE 32 x.bytes.toNat
      = encodeBE 2 y.algorithm.toNat ++ encodeBE 32 y.bytes.toNat ↔ x = y := by
  constructor
  · intro h
    obtain ⟨halgorithm, hbytes⟩ := List.append_inj h (by simp)
    rw [encodeBE_word16] at halgorithm
    rw [encodeBE_digest] at hbytes
    simp only [digestIsValid, Bool.and_eq_true, beq_iff_eq] at hx hy
    cases x
    cases y
    simp_all
  · rintro rfl
    rfl

/-- The metadata of one family are equal exactly if what they are made of is. -/
theorem metadata_eq_iff {family : UInt32} {metadata metadata' : List UInt8}
    (h : encodeFamilyMetadata family s = some metadata)
    (h' : encodeFamilyMetadata family s' = some metadata') :
    metadata = metadata' ↔ if familyOfCode family = .eventFact then s.eventId = s'.eventId
      else s.generation = s'.generation := by
  by_cases hfamily : familyOfCode family = .eventFact
  · rw [if_pos hfamily]
    rcases encodeFamilyMetadata_eq_some_iff.1 h with ⟨-, -, -, -, rfl⟩ | ⟨hne, -⟩
    · rcases encodeFamilyMetadata_eq_some_iff.1 h' with ⟨-, -, -, -, rfl⟩ | ⟨hne, -⟩
      · exact encodeBE_id
      · exact absurd hfamily hne
    · exact absurd hfamily hne
  · rw [if_neg hfamily]
    rcases encodeFamilyMetadata_eq_some_iff.1 h with ⟨heq, -⟩ | ⟨-, -, -, rfl⟩
    · exact absurd heq hfamily
    · rcases encodeFamilyMetadata_eq_some_iff.1 h' with ⟨heq, -⟩ | ⟨-, -, -, rfl⟩
      · exact absurd heq hfamily
      · exact encodeBE_word64

/-- Two encodings are equal exactly if the submissions agree. -/
theorem encodedFields_eq_iff {roster roster' metadata metadata' : List UInt8}
    (h : Checked d s) (h' : Checked d' s') (hroster : encodeTargetRoster s = some roster)
    (hroster' : encodeTargetRoster s' = some roster')
    (hmetadata : encodeFamilyMetadata d.family s = some metadata)
    (hmetadata' : encodeFamilyMetadata d'.family s' = some metadata') :
    (encodedFields d s roster metadata).flatten = (encodedFields d' s' roster' metadata').flatten ↔
      SameSubmission d d' s s' := by
  simp only [encodedFields, List.flatten_cons, List.flatten_nil]
  rw [List.append_cancel_left_eq, field_append_inj d.namespaceId.fits d'.namespaceId.fits,
    field_append_inj d.serviceId.fits d'.serviceId.fits, field_append_inj (by simp) (by simp),
    field_append_inj (by simp) (by simp), field_append_inj (by simp) (by simp),
    field_append_inj (by simp) (by simp), field_append_inj d.schemaId.fits d'.schemaId.fits,
    field_append_inj (by simp) (by simp), field_append_inj (by simp) (by simp),
    field_append_inj (length_roster_lt hroster) (length_roster_lt hroster'),
    field_append_inj (by simp) (by simp), field_append_inj (by simp) (by simp),
    field_append_inj (by simp) (by simp),
    field_append_inj (length_metadata_lt hmetadata) (length_metadata_lt hmetadata'),
    field_append_inj (by simp) (by simp), field_append_inj (by simp) (by simp), encodeBE_word64,
    digest_eq_iff h.descriptorDigest h'.descriptorDigest, encodeBE_id, encodeBE_word32,
    encodeBE_word16, encodeBE_word16, roster_eq_iff hroster hroster', encodeBE_word64,
    encodeBE_word64, encodeBE_word32, digest_eq_iff h.contentDigest h'.contentDigest,
    encodeBE_word32]
  constructor
  · rintro ⟨hnamespace, hservice, hrevision, hdigest, hinstance, hfamily, hschema, hmajor, hminor,
      htargets, hdeadline, hgrace, hevidence, hmeta, hcontent, hpayload, -⟩
    rw [← hfamily] at hmetadata'
    exact ⟨hnamespace, hservice, hschema, hrevision, hdigest, hinstance, hfamily, hmajor, hminor,
      htargets, hdeadline, hgrace, hevidence, (metadata_eq_iff hmetadata hmetadata').1 hmeta,
      hcontent, hpayload⟩
  · rintro ⟨hnamespace, hservice, hschema, hrevision, hdigest, hinstance, hfamily, hmajor, hminor,
      htargets, hdeadline, hgrace, hevidence, hmeta, hcontent, hpayload⟩
    rw [← hfamily] at hmetadata'
    exact ⟨hnamespace, hservice, hrevision, hdigest, hinstance, hfamily, hschema, hmajor, hminor,
      htargets, hdeadline, hgrace, hevidence, (metadata_eq_iff hmetadata hmetadata').2 hmeta,
      hcontent, hpayload, rfl⟩

/-- The order of the targets makes no difference to what is hashed, nor to a refusal. -/
theorem canonicalSubmissionBytes_congr {targets targets' : List ConcreteTarget}
    (hperm : targets.Perm targets') :
    canonicalSubmissionBytes d { s with targets := some targets }
      = canonicalSubmissionBytes d { s with targets := some targets' } := by
  have hroster := encodeTargetRoster_congr (s := s) hperm
  have hcount : (({ s with targets := some targets } : SubmissionInput).targets.getD []).length
      = (({ s with targets := some targets' } : SubmissionInput).targets.getD []).length :=
    hperm.length_eq
  unfold canonicalSubmissionBytes
  rw [hroster, hcount]
  rfl

/-- Two targets with one record are refused. -/
theorem canonicalSubmissionBytes_repeated {bytes : List UInt8} {targets : List ConcreteTarget}
    {i j : ℕ} {t t' : ConcreteTarget} (htargets : s.targets = some targets) (hij : i ≠ j)
    (hi : targets[i]? = some t) (hj : targets[j]? = some t') (heq : record t = record t') :
    canonicalSubmissionBytes d s ≠ .ok bytes := by
  intro h
  obtain ⟨-, roster, metadata, hroster, -⟩ := canonicalSubmissionBytes_eq_ok_iff.1 h
  obtain ⟨hnodup, -⟩ := roster_parts hroster
  have hrecords : targetRecords s = targets.map record := by
    rw [targetRecords, htargets]
    rfl
  have hi' : (targetRecords s)[i]? = some (record t) := by
    rw [hrecords, List.getElem?_map, hi]
    rfl
  have hj' : (targetRecords s)[j]? = some (record t) := by
    rw [hrecords, List.getElem?_map, hj, heq]
    rfl
  have hlt := (List.getElem?_eq_some_iff.1 hi').1
  exact hij ((List.getElem?_inj hlt hnodup).1 (hi'.trans hj'.symm))

/-- **The canonical identity of a submission.** When the call returns a digest for each of two
submissions, the bytes it hashes are equal exactly if the two agree on everything but the order of
their targets; permuting the targets changes neither the bytes nor a refusal; and two targets that
encode to one record, at whatever places, are refused. -/
theorem canonical_identity (sha256 : List UInt8 → BitVec 256) (d d' : ServiceDescriptor)
    (s s' : SubmissionInput) :
    (∀ digest digest', canonicalSubmissionDigestV1 sha256 d s = .ok digest →
      canonicalSubmissionDigestV1 sha256 d' s' = .ok digest' →
      ∃ bytes bytes', canonicalSubmissionBytes d s = .ok bytes ∧
        canonicalSubmissionBytes d' s' = .ok bytes' ∧
        digest = ⟨digestSha256, 0, sha256 bytes⟩ ∧ digest' = ⟨digestSha256, 0, sha256 bytes'⟩ ∧
        (bytes = bytes' ↔ SameSubmission d d' s s')) ∧
    (∀ targets targets', List.Perm targets targets' →
      canonicalSubmissionBytes d { s with targets := some targets }
        = canonicalSubmissionBytes d { s with targets := some targets' }) ∧
    ∀ (targets : List ConcreteTarget) (i j : ℕ) t t' bytes, s.targets = some targets → i ≠ j →
      targets[i]? = some t →
      targets[j]? = some t' → encodeTargetRecordFixed t = some bytes →
      encodeTargetRecordFixed t' = some bytes →
      ∀ digest, canonicalSubmissionDigestV1 sha256 d s ≠ .ok digest := by
  refine ⟨?_, fun targets targets' hperm => canonicalSubmissionBytes_congr hperm, ?_⟩
  · intro digest digest' h h'
    obtain ⟨bytes, hbytes, rfl⟩ := canonicalSubmissionDigestV1_ok.1 h
    obtain ⟨bytes', hbytes', rfl⟩ := canonicalSubmissionDigestV1_ok.1 h'
    refine ⟨bytes, bytes', hbytes, hbytes', rfl, rfl, ?_⟩
    obtain ⟨hchecked, roster, metadata, hroster, hmetadata, -, rfl⟩ :=
      canonicalSubmissionBytes_eq_ok_iff.1 hbytes
    obtain ⟨hchecked', roster', metadata', hroster', hmetadata', -, rfl⟩ :=
      canonicalSubmissionBytes_eq_ok_iff.1 hbytes'
    exact encodedFields_eq_iff hchecked hchecked' hroster hroster' hmetadata hmetadata'
  · intro targets i j t t' bytes htargets hij hi hj ht ht' digest h
    obtain ⟨hashed, hhashed, -⟩ := canonicalSubmissionDigestV1_ok.1 h
    refine canonicalSubmissionBytes_repeated htargets hij hi hj ?_ hhashed
    rw [encodeTargetRecordFixed] at ht ht'
    split_ifs at ht ht'
    exact recordBytes_inj.1 (Option.some.inj (ht.trans ht'.symm))

end Identity

end Canonical
end Ninlil.Submission
