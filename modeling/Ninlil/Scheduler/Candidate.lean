import Ninlil.Lib.Guard
import Ninlil.Lib.KeyOrder

/-!
# Candidates of the scheduler

`scheduler_candidate.c`: what may be scheduled next, and in which order.

* `workContract`, `inputPriority`, `inputIsDurableRingCandidate`: the closed tables;
* `tieIsValid`: what a work may be told apart by;
* `buildCandidate`: the key of a candidate, packed;
* `candidateKeyCompare`, `optionalCandidateCompare`: the order.
-/

namespace Ninlil.Scheduler

open Bytes Guard

/-! ### Tables -/

/-- `ninlil_model_tie_contract_t`. -/
inductive TieContract
  | zeroZero
  | zeroNonzeroGeneration
  | optionalIdAttemptIndex
  | requiredIdZeroGeneration
  | requiredIdNonzeroGeneration
  | requiredIdEvidenceStage
  | requiredIdDisposition
  | requiredIdCancelResult
  | zeroRetentionKind
  | zeroAttemptIndex
  deriving DecidableEq

/-- `ninlil_model_target_policy_t`. -/
inductive TargetPolicy
  | required
  | orRuntimeLocalNone
  deriving DecidableEq

/-- `work_row_t`, the contract of a kind of work. -/
structure WorkRow where
  semanticPriority : UInt8
  workClass : UInt8
  priorityIsDynamic : UInt8
  tieContract : TieContract
  targetPolicy : TargetPolicy
  deriving DecidableEq

/-- `INPUT_PRIORITIES`. -/
def inputPriorities : List UInt8 :=
  [0, 0, 0, 0, 1, 1, 1, 1, 1, 2, 2, 3, 3, 3, 4, 5, 6, 7, 7, 8, 8, 8, 9, 9, 10, 10]

/-- `DURABLE_RING_INPUTS`. -/
def durableRingInputs : List UInt8 :=
  [0, 0, 0, 0, 0, 0, 0, 1, 1, 1, 1, 1, 1, 1, 0, 0, 0, 0, 0, 1, 0, 0, 0, 0, 0, 1]

/-- `WORK_ROWS`. -/
def workRows : List WorkRow :=
  [⟨0, 0, 0, .zeroZero, .required⟩,
    ⟨0, 1, 1, .zeroZero, .required⟩,
    ⟨8, 1, 0, .zeroNonzeroGeneration, .required⟩,
    ⟨5, 2, 0, .zeroZero, .required⟩,
    ⟨6, 2, 0, .zeroZero, .required⟩,
    ⟨7, 2, 0, .requiredIdZeroGeneration, .required⟩,
    ⟨9, 2, 0, .optionalIdAttemptIndex, .required⟩,
    ⟨4, 2, 0, .requiredIdNonzeroGeneration, .required⟩,
    ⟨8, 2, 0, .requiredIdNonzeroGeneration, .required⟩,
    ⟨9, 3, 0, .requiredIdNonzeroGeneration, .required⟩,
    ⟨8, 3, 0, .requiredIdNonzeroGeneration, .required⟩,
    ⟨9, 4, 0, .zeroAttemptIndex, .required⟩,
    ⟨9, 4, 0, .requiredIdZeroGeneration, .required⟩,
    ⟨3, 4, 0, .zeroZero, .required⟩,
    ⟨3, 4, 0, .requiredIdZeroGeneration, .required⟩,
    ⟨10, 5, 0, .requiredIdEvidenceStage, .required⟩,
    ⟨10, 5, 0, .requiredIdDisposition, .required⟩,
    ⟨10, 5, 0, .requiredIdZeroGeneration, .required⟩,
    ⟨10, 5, 0, .requiredIdCancelResult, .required⟩,
    ⟨10, 6, 0, .zeroRetentionKind, .orRuntimeLocalNone⟩,
    ⟨10, 6, 0, .zeroZero, .orRuntimeLocalNone⟩,
    ⟨10, 6, 0, .zeroZero, .orRuntimeLocalNone⟩,
    ⟨10, 6, 0, .zeroZero, .orRuntimeLocalNone⟩]

/-- The first and the last kind of input, `NINLIL_MODEL_INPUT_RECOVERY_FENCE` and
`NINLIL_MODEL_INPUT_CUSTODY_ACCEPTED`. -/
def inputKnown (kind : UInt32) : Bool := 1 ≤ kind && kind ≤ 25

/-- `ninlil_model_input_priority`. -/
def inputPriority (kind : UInt32) : Option UInt8 :=
  if inputKnown kind then inputPriorities[kind.toNat]? else none

/-- `ninlil_model_input_is_durable_ring_candidate`. -/
def inputIsDurableRingCandidate (kind : UInt32) : Option UInt8 :=
  if inputKnown kind then durableRingInputs[kind.toNat]? else none

/-- `ninlil_model_work_contract`. -/
def workContract (kind : UInt32) : Option WorkRow :=
  if kind < 1 ∨ 22 < kind then none else workRows[kind.toNat]?

/-! ### Candidates -/

/-- `NINLIL_MODEL_INTERNAL_SEQUENCE`. -/
def internalSequence : UInt64 := 0xFFFFFFFFFFFFFFFF

/-- `NINLIL_MODEL_WORK_DURABLE_REDUCER_INPUT`. -/
def durableReducerInput : UInt32 := 1

/-- `ninlil_model_candidate_spec_t`; a kind or a presence may be any number. -/
structure CandidateSpec where
  workKind : UInt32
  inputKind : UInt32
  semanticPriority : UInt8
  workClass : UInt8
  targetPresence : UInt32
  currentEpoch : Vector UInt8 16
  candidateEpoch : Vector UInt8 16
  logicalTimeMs : UInt64
  durableInputSequence : UInt64
  targetIdentityRecord : Vector UInt8 100
  tieIdentity : Vector UInt8 16
  tieGeneration : UInt64
  deriving DecidableEq

def bytesAreZero (bytes : List UInt8) : Bool := bytes.all (· == 0)

def epochIsValid (epoch : Vector UInt8 16) : Bool := !bytesAreZero epoch.toList

def tieIdIsZero (id : Vector UInt8 16) : Bool := bytesAreZero id.toList

/-- `tie_is_valid`. -/
def tieIsValid (contract : TieContract) (id : Vector UInt8 16) (generation : UInt64) : Bool :=
  match contract with
  | .zeroZero => tieIdIsZero id && generation == 0
  | .zeroNonzeroGeneration => tieIdIsZero id && generation != 0
  | .optionalIdAttemptIndex => 1 ≤ generation && generation ≤ 8
  | .requiredIdZeroGeneration => !tieIdIsZero id && generation == 0
  | .requiredIdNonzeroGeneration => !tieIdIsZero id && generation != 0
  | .requiredIdEvidenceStage => !tieIdIsZero id && 1 ≤ generation && generation ≤ 4
  | .requiredIdDisposition => !tieIdIsZero id && 1 ≤ generation && generation ≤ 10
  | .requiredIdCancelResult => !tieIdIsZero id && 1 ≤ generation && generation ≤ 4
  | .zeroRetentionKind => tieIdIsZero id && 1 ≤ generation && generation ≤ 3
  | .zeroAttemptIndex => tieIdIsZero id && 1 ≤ generation && generation ≤ 8

/-- `ninlil_model_candidate_disposition_t`, besides `INVALID`. -/
inductive CandidateDisposition
  | currentReady
  | recoveryFence
  | suppressedOldEpoch
  deriving DecidableEq

/-- `NINLIL_MODEL_CANDIDATE_KEY_BYTES`. -/
def candidateKeyBytes : ℕ := 146

/-- The fields of a key, each at its offset. -/
def keyPuts (spec : CandidateSpec) : List Put :=
  [putU64Be 0 spec.logicalTimeMs, putU8 8 spec.semanticPriority, putU8 9 spec.workClass,
    putU64Be 10 spec.durableInputSequence, putVector 18 spec.targetIdentityRecord,
    putU32Be 118 spec.workKind, putVector 122 spec.tieIdentity, putU64Be 138 spec.tieGeneration]

/-- The target is announced as it is given. -/
def targetOk (spec : CandidateSpec) (policy : TargetPolicy) : Bool :=
  (spec.targetPresence == 0 || spec.targetPresence == 1) &&
  !(spec.targetPresence == 0 && !bytesAreZero spec.targetIdentityRecord.toList) &&
  !(spec.targetPresence == 1 && bytesAreZero spec.targetIdentityRecord.toList) &&
  !(policy == .required && spec.targetPresence != 1)

/-- An input comes with its sequence number and the priority of its kind, other work with none. -/
def originOk (spec : CandidateSpec) (contract : WorkRow) : Bool :=
  if spec.workKind = durableReducerInput then
    spec.durableInputSequence != 0 && spec.durableInputSequence != internalSequence &&
      (inputIsDurableRingCandidate spec.inputKind).any (· != 0) &&
      inputPriority spec.inputKind == some spec.semanticPriority
  else
    spec.inputKind == 0 && spec.durableInputSequence == internalSequence &&
      spec.semanticPriority == contract.semanticPriority

/-- `ninlil_model_build_candidate`: the disposition and the key, or `INVALID_ARGUMENT`. -/
def buildCandidate (spec : CandidateSpec) : Option (CandidateDisposition × List UInt8) := do
  let contract ← workContract spec.workKind
  guard (epochIsValid spec.currentEpoch ∧ epochIsValid spec.candidateEpoch)
  guard (targetOk spec contract.targetPolicy)
  guard (spec.workClass = contract.workClass)
  guard (tieIsValid contract.tieContract spec.tieIdentity spec.tieGeneration)
  guard (originOk spec contract)
  let cleared := List.replicate candidateKeyBytes 0
  if spec.currentEpoch ≠ spec.candidateEpoch then
    if spec.workKind = durableReducerInput then some (.recoveryFence, cleared)
    else some (.suppressedOldEpoch, cleared)
  else some (.currentReady, putAll cleared (keyPuts spec))

/-! ### The order -/

/-- `ninlil_model_candidate_key_compare`. -/
def candidateKeyCompare (left right : List UInt8) : ℤ := sign (compare left right)

/-- `ninlil_model_optional_candidate_t`. -/
structure OptionalCandidate where
  presence : UInt32
  key : Vector UInt8 146
  deriving DecidableEq

/-- A candidate is absent or present, and one that is absent has no key. -/
def OptionalCandidate.ok (c : OptionalCandidate) : Bool :=
  (c.presence == 0 || c.presence == 1) && !(c.presence == 0 && !bytesAreZero c.key.toList)

/-- `ninlil_model_optional_candidate_compare`: the comparison, or `INVALID_ARGUMENT`. -/
def optionalCandidateCompare (left right : OptionalCandidate) : Option ℤ := do
  guard (left.ok ∧ right.ok)
  if left.presence ≠ right.presence then
    some (if left.presence = 1 then -1 else 1)
  else if left.presence = 1 then some (candidateKeyCompare left.key.toList right.key.toList)
  else some 0

/-! ### What the key says -/

section Keys

variable {spec spec' : CandidateSpec} {key key' : List UInt8}

/-- The order that candidates are meant to have: time, priority, class, sequence number, target,
work, tie. -/
def CandidateSpec.order (a b : CandidateSpec) : Ordering :=
  (compare a.logicalTimeMs.toNat b.logicalTimeMs.toNat).then <|
  (compare a.semanticPriority.toNat b.semanticPriority.toNat).then <|
  (compare a.workClass.toNat b.workClass.toNat).then <|
  (compare a.durableInputSequence.toNat b.durableInputSequence.toNat).then <|
  (compare a.targetIdentityRecord.toList b.targetIdentityRecord.toList).then <|
  (compare a.workKind.toNat b.workKind.toNat).then <|
  (compare a.tieIdentity.toList b.tieIdentity.toList).then <|
  compare a.tieGeneration.toNat b.tieGeneration.toNat

/-- The candidates agree on all that the order looks at. -/
structure CandidateSpec.SameWork (a b : CandidateSpec) : Prop where
  logicalTimeMs : a.logicalTimeMs = b.logicalTimeMs
  semanticPriority : a.semanticPriority = b.semanticPriority
  workClass : a.workClass = b.workClass
  durableInputSequence : a.durableInputSequence = b.durableInputSequence
  targetIdentityRecord : a.targetIdentityRecord = b.targetIdentityRecord
  workKind : a.workKind = b.workKind
  tieIdentity : a.tieIdentity = b.tieIdentity
  tieGeneration : a.tieGeneration = b.tieGeneration

/-- The fields of a key, one behind the other. -/
def keyFields (spec : CandidateSpec) : List (List UInt8) := (keyPuts spec).map Prod.snd

/-- How wide they are. -/
def keyWidths : List ℕ := [8, 1, 1, 8, 100, 4, 16, 8]

theorem tiles_keyPuts (spec : CandidateSpec) : Tiles 0 keyWidths (keyPuts spec) := by
  simp [keyWidths, keyPuts, Tiles, putU8, putU32Be, putU64Be, putVector]

/-- **A key is its fields**: they leave no gap. -/
theorem putAll_keyPuts (spec : CandidateSpec) {image : List UInt8}
    (himage : image.length = candidateKeyBytes) :
    putAll image (keyPuts spec) = (keyFields spec).flatten := by
  have hlength : image.length = 0 + keyWidths.sum := himage
  rw [putAll_tiles (tiles_keyPuts spec) (Nat.le_of_eq hlength.symm),
    List.drop_of_length_le (Nat.le_of_eq hlength), List.take_zero, List.append_nil,
    List.nil_append]
  rfl

theorem buildCandidate_ready (h : buildCandidate spec = some (.currentReady, key)) :
    key = (keyFields spec).flatten := by
  unfold buildCandidate at h
  simp only [Option.bind_eq_bind, Option.bind_eq_some_iff] at h
  obtain ⟨-, -, -, -, -, -, -, -, -, -, -, -, h⟩ := h
  split_ifs at h with hepoch hinput
  · exact absurd (Prod.mk.inj (Option.some.inj h)).1 (by decide)
  · exact absurd (Prod.mk.inj (Option.some.inj h)).1 (by decide)
  · rw [← (Prod.mk.inj (Option.some.inj h)).2]
    exact putAll_keyPuts spec List.length_replicate

/-- **Keys are compared like candidates.** -/
theorem compare_keyFields (a b : CandidateSpec) :
    compare (keyFields a).flatten (keyFields b).flatten = a.order b := by
  unfold keyFields keyPuts CandidateSpec.order
  simp only [List.map_cons, List.map_nil, List.flatten_cons, List.flatten_nil, List.append_nil,
    putU8, putU32Be, putU64Be, putVector]
  rw [compare_append (by simp), compare_append (by simp), compare_append (by simp),
    compare_append (by simp), compare_append (by simp), compare_append (by simp),
    compare_append (by simp), compare_encodeBE (UInt64.toNat_lt _) (UInt64.toNat_lt _),
    compare_encodeBE (UInt64.toNat_lt _) (UInt64.toNat_lt _),
    compare_encodeBE (UInt32.toNat_lt _) (UInt32.toNat_lt _),
    compare_encodeBE (UInt64.toNat_lt _) (UInt64.toNat_lt _), compare_singleton, compare_singleton]

/-- Fields that are written alike are alike. -/
theorem flatten_keyFields_inj (a b : CandidateSpec) :
    (keyFields a).flatten = (keyFields b).flatten ↔ a.SameWork b := by
  have hwidths : ∀ c, (keyFields c).map List.length = keyWidths := fun c =>
    widths_of_tiles (tiles_keyPuts c)
  constructor
  · intro h
    have hlength : (keyFields b).flatten.length = keyWidths.sum := by
      rw [List.length_flatten, hwidths]
    have hfields : keyFields a = keyFields b :=
      ((flatten_eq_iff (hwidths a) hlength).1 h).trans
        ((flatten_eq_iff (hwidths b) hlength).1 rfl).symm
    simp only [keyFields, keyPuts, List.map_cons, List.map_nil, List.cons.injEq, and_true,
      putU8_inj, putU32Be_inj, putU64Be_inj, putVector_inj] at hfields
    obtain ⟨h1, h2, h3, h4, h5, h6, h7, h8⟩ := hfields
    exact ⟨h1, h2, h3, h4, h5, h6, h7, h8⟩
  · rintro ⟨h1, h2, h3, h4, h5, h6, h7, h8⟩
    unfold keyFields keyPuts
    rw [h1, h2, h3, h4, h5, h6, h7, h8]

end Keys

/-! ### Candidates that may be absent -/

section Optional

/-- A key with its presence in front: present candidates come first. -/
def OptionalCandidate.rank (c : OptionalCandidate) : List UInt8 :=
  (if c.presence = 1 then 0 else 1) :: c.key.toList

variable {a b c : OptionalCandidate}

theorem eq_of_bytesAreZero {n : ℕ} {v w : Vector UInt8 n} (hv : bytesAreZero v.toList)
    (hw : bytesAreZero w.toList) : v = w := by
  have hzero : ∀ {l : List UInt8}, bytesAreZero l → l = List.replicate l.length 0 := by
    intro l hl
    refine List.eq_replicate_length.2 fun x hx => ?_
    exact beq_iff_eq.1 (List.all_eq_true.1 hl x hx)
  refine Vector.toList_inj.1 ?_
  rw [hzero hv, hzero hw, Vector.length_toList, Vector.length_toList]

theorem OptionalCandidate.ok_cases (a : OptionalCandidate) (h : a.ok) :
    a.presence = 1 ∨ a.presence = 0 ∧ bytesAreZero a.key.toList = true := by
  unfold OptionalCandidate.ok at h
  simp only [Bool.and_eq_true, Bool.or_eq_true, beq_iff_eq, Bool.not_eq_true',
    Bool.and_eq_false_iff, Bool.not_eq_false'] at h
  obtain ⟨habsent | hpresent, hkey⟩ := h
  · refine .inr ⟨habsent, hkey.resolve_left ?_⟩
    simp [habsent]
  · exact .inl hpresent

/-- A candidate is known by its rank. -/
theorem OptionalCandidate.rank_inj (ha : a.ok) (hb : b.ok) : a.rank = b.rank ↔ a = b := by
  refine ⟨fun h => ?_, congrArg _⟩
  unfold OptionalCandidate.rank at h
  rw [List.cons.injEq, Vector.toList_inj] at h
  obtain ⟨hfront, hkey⟩ := h
  have hpresence : a.presence = b.presence := by
    rcases a.ok_cases ha with h1 | ⟨h1, -⟩ <;> rcases b.ok_cases hb with h2 | ⟨h2, -⟩
    · rw [h1, h2]
    · simp [h1, h2] at hfront
    · simp [h1, h2] at hfront
    · rw [h1, h2]
  cases a
  cases b
  cases hpresence
  cases hkey
  rfl

/-- **The comparison is that of the ranks.** -/
theorem optionalCandidateCompare_eq (ha : a.ok) (hb : b.ok) :
    optionalCandidateCompare a b = some (sign (compare a.rank b.rank)) := by
  have hguard : optionalCandidateCompare a b =
      if a.presence ≠ b.presence then some (if a.presence = 1 then -1 else 1)
      else if a.presence = 1 then some (candidateKeyCompare a.key.toList b.key.toList)
      else some 0 := by
    unfold optionalCandidateCompare
    rw [guard, if_pos ⟨ha, hb⟩]
    rfl
  have hone : compare (0 : UInt8) 1 = .lt := rfl
  have hone' : compare (1 : UInt8) 0 = .gt := rfl
  unfold OptionalCandidate.rank
  rw [hguard, List.compare_cons_cons]
  rcases a.ok_cases ha with h1 | ⟨h1, hzero⟩ <;> rcases b.ok_cases hb with h2 | ⟨h2, hzero'⟩
  · simp [h1, h2, candidateKeyCompare]
  · simp [h1, h2, hone, sign]
  · simp [h1, h2, hone', sign]
  · simp [h1, h2, eq_of_bytesAreZero hzero hzero', sign]

end Optional

/-! ### The schedule -/

/-- A candidate that comes no later than another. -/
def NoLater (a b : OptionalCandidate) : Prop := ∃ r ≤ 0, optionalCandidateCompare a b = some r

theorem noLater_iff {a b : OptionalCandidate} (ha : a.ok) (hb : b.ok) :
    NoLater a b ↔ (compare a.rank b.rank).isLE := by
  unfold NoLater
  rw [optionalCandidateCompare_eq ha hb, ← sign_nonpos]
  constructor
  · rintro ⟨r, hr, h⟩
    rwa [Option.some_inj.1 h]
  · intro h
    exact ⟨_, h, rfl⟩

/-- **The order of candidates.** Keys that are built for candidates are compared as the candidates
are, field by field, and are equal only for the same work; with the absent candidate last, the
comparison is a total order. -/
theorem candidate_order :
    (∀ a b keyA keyB, buildCandidate a = some (.currentReady, keyA) →
      buildCandidate b = some (.currentReady, keyB) →
        candidateKeyCompare keyA keyB = sign (a.order b) ∧ (keyA = keyB ↔ a.SameWork b)) ∧
    (∀ a b c : OptionalCandidate, a.ok → b.ok → c.ok →
      NoLater a a ∧ (NoLater a b ∨ NoLater b a) ∧ (NoLater a b → NoLater b a → a = b) ∧
        (NoLater a b → NoLater b c → NoLater a c)) ∧
    ∀ a b : OptionalCandidate, a.ok → b.ok → a.presence = 1 → b.presence = 0 →
      optionalCandidateCompare a b = some (-1) := by
  refine ⟨?_, ?_, ?_⟩
  · intro a b keyA keyB ha hb
    rw [buildCandidate_ready ha, buildCandidate_ready hb]
    exact ⟨congrArg sign (compare_keyFields a b), flatten_keyFields_inj a b⟩
  · intro a b c ha hb hc
    rw [noLater_iff ha ha, noLater_iff ha hb, noLater_iff hb ha, noLater_iff hb hc,
      noLater_iff ha hc, ← OptionalCandidate.rank_inj ha hb]
    refine ⟨Std.ReflOrd.isLE_rfl, ?_, fun h h' => ?_, Std.TransOrd.isLE_trans⟩
    · rw [Std.OrientedOrd.eq_swap (b := a.rank)]
      cases compare a.rank b.rank <;> simp
    · exact Std.LawfulEqOrd.compare_eq_iff_eq.1 (Std.OrientedCmp.isLE_antisymm h h')
  · intro a b ha hb hpresent habsent
    rw [optionalCandidateCompare_eq ha hb]
    unfold OptionalCandidate.rank
    rw [List.compare_cons_cons, hpresent, habsent]
    rfl

/-- A callback of the runtime, due at an instant, for a target of which all bytes are one. -/
def sampleSpec (time : UInt64) (generation : UInt64) : CandidateSpec where
  workKind := 9
  inputKind := 0
  semanticPriority := 9
  workClass := 3
  targetPresence := 1
  currentEpoch := Vector.replicate 16 1
  candidateEpoch := Vector.replicate 16 1
  logicalTimeMs := time
  durableInputSequence := internalSequence
  targetIdentityRecord := Vector.replicate 100 1
  tieIdentity := Vector.replicate 16 2
  tieGeneration := generation

/-- Of two callbacks the earlier one is first, and it comes before no candidate at all. -/
theorem candidate_order_callbacks : ∃ key key',
    buildCandidate (sampleSpec 255 2) = some (.currentReady, key) ∧
    buildCandidate (sampleSpec 256 1) = some (.currentReady, key') ∧
    candidateKeyCompare key key' = -1 ∧
    optionalCandidateCompare ⟨1, Vector.replicate 146 7⟩ ⟨0, Vector.replicate 146 0⟩ =
      some (-1) ∧
    NoLater ⟨1, Vector.replicate 146 7⟩ ⟨1, Vector.replicate 146 7⟩ := by
  have hbuilt : buildCandidate (sampleSpec 255 2) =
      some (.currentReady, putAll (List.replicate 146 0) (keyPuts (sampleSpec 255 2))) := by
    rfl
  have hbuilt' : buildCandidate (sampleSpec 256 1) =
      some (.currentReady, putAll (List.replicate 146 0) (keyPuts (sampleSpec 256 1))) := by
    rfl
  obtain ⟨hkeys, htotal, habsent⟩ := candidate_order
  obtain ⟨hcompare, -⟩ := hkeys _ _ _ _ hbuilt hbuilt'
  have hok : OptionalCandidate.ok ⟨1, Vector.replicate 146 7⟩ := by decide +kernel
  have hok' : OptionalCandidate.ok ⟨0, Vector.replicate 146 0⟩ := by decide +kernel
  exact ⟨_, _, hbuilt, hbuilt', hcompare, habsent _ _ hok hok' rfl rfl,
    (htotal _ _ _ hok hok hok).1⟩

end Ninlil.Scheduler
