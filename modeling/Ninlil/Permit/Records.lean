import Mathlib

/-!
# The permit authority: records

What the authority keeps in its namespace, and what its callers hand in.

* `Core`, `Issued`, `Meta`, `Rows`, `Namespace`: the permit records, one row for each sequence
  number, and the one meta record beside them;
* `IssueRequest`, `Snapshot`, `LiveProfile`: a request for a permit, the permit as it is handed out
  and presented again, and the profile permits are bound to;
* `TimeSample`, `ClockReply`, `Sampled`, `classify`: what the clock says and what is made of it.

The constants of the encoding (magic, schema, flags, reserved words, checksum) are the same in every
record, and the scan of the namespace accepts no others.
-/

namespace Ninlil.Permit

/-- A profile, assignment, transmitter, instance or clock epoch. -/
abbrev Id := BitVec 128

/-- A frame digest. -/
abbrev Digest := BitVec 256

/-- Permits that may be outstanding. -/
abbrev maxOutstanding : ℕ := 8

/-- The longest life of a permit. -/
abbrev maxPermitTtlMs : UInt64 := 600000

/-- Rows the scan of the namespace can hold. -/
abbrev scanMaxIss : ℕ := 256

/-- The largest sequence number, which no permit has. -/
abbrev seqMax : UInt64 := 0xFFFFFFFFFFFFFFFF

/-! ### Permits -/

/-- The physical layer. -/
structure Phy where
  bandwidthHz : UInt32
  spreadingFactor : UInt8
  codingRateDenom : UInt8
  preambleSymbols : UInt16
  txPowerMdb : Int32
  phyFlags : UInt32
  deriving DecidableEq

/-- What a permit is bound to, its length in time and on the air apart. -/
structure Core where
  hardwareProfileId : Id
  hardwareProfileRev : UInt32
  regulatoryProfileId : Id
  regulatoryProfileRev : UInt32
  siteAssignmentId : Id
  siteAssignmentRev : UInt32
  siteAssignmentEpoch : UInt64
  transmitterId : Id
  channelId : UInt32
  phy : Phy
  deriving DecidableEq

/-- The frame a permit is for. -/
structure Frame where
  digest : Digest
  digestAlgorithm : UInt32
  byteLength : UInt32
  deriving DecidableEq

/-- The states of a row. -/
inductive RowState
  | issued
  | consumed
  | revoked
  deriving DecidableEq

/-- A row of the namespace. -/
structure Issued where
  state : RowState
  permitSequence : UInt64
  clockEpochId : Id
  notBeforeMs : UInt64
  expiryMs : UInt64
  core : Core
  frame : Frame
  maxAirtimeUs : UInt32
  authorityInstanceId : Id
  issueGeneration : UInt64
  deriving DecidableEq

/-- A permit as it is handed out and presented. -/
structure Snapshot where
  core : Core
  frame : Frame
  maxAirtimeUs : UInt32
  notBeforeMs : UInt64
  expiryMs : UInt64
  permitSequence : UInt64
  reservedZero : UInt32
  deriving DecidableEq

/-- A request for a permit. -/
structure IssueRequest where
  core : Core
  maxAirtimeUs : UInt32
  frame : Frame
  notBeforeMs : UInt64
  expiryMs : UInt64
  reservedZero : UInt32
  deriving DecidableEq

/-- The profile of the transmitter. -/
structure LiveProfile where
  core : Core
  maxAirtimeUs : UInt32
  reservedZero : UInt32
  deriving DecidableEq

/-- The permit of a row. -/
def fillSnapshotFromIss (iss : Issued) : Snapshot where
  core := iss.core
  frame := iss.frame
  maxAirtimeUs := iss.maxAirtimeUs
  notBeforeMs := iss.notBeforeMs
  expiryMs := iss.expiryMs
  permitSequence := iss.permitSequence
  reservedZero := 0

/-- The permit agrees with the row in every field. -/
def snapshotMatchesIss (p : Snapshot) (iss : Issued) : Bool :=
  p.permitSequence == iss.permitSequence && p.core == iss.core && p.frame == iss.frame &&
    p.maxAirtimeUs == iss.maxAirtimeUs && p.notBeforeMs == iss.notBeforeMs &&
    p.expiryMs == iss.expiryMs && p.reservedZero == 0

theorem snapshotMatchesIss_iff {p : Snapshot} {iss : Issued} :
    snapshotMatchesIss p iss = true ↔ p = fillSnapshotFromIss iss := by
  obtain ⟨core, frame, air, nb, ex, seq, res⟩ := p
  simp only [snapshotMatchesIss, fillSnapshotFromIss, Bool.and_eq_true, beq_iff_eq,
    Snapshot.mk.injEq]
  tauto

/-! ### The namespace -/

/-- The fences, in RAM and in the meta record. -/
structure Fences where
  storage : Bool
  clock : Bool
  corrupt : Bool
  deriving DecidableEq

/-- No fence. -/
def Fences.none : Fences := ⟨false, false, false⟩

/-- Some fence. -/
def Fences.any (f : Fences) : Bool := f.storage || f.clock || f.corrupt

/-- The meta record. -/
structure Meta where
  fences : Fences
  authorityInstanceId : Id
  nextIssueSeq : UInt64
  lastConsumedSeq : UInt64
  outstandingCount : ℕ
  boundCore : Core
  boundMaxAirtimeCeilingUs : UInt32
  assignmentGeneration : UInt64
  lastTrustedEpochId : Id
  lastTrustedNowMs : UInt64
  deriving DecidableEq

/-- The rows, each under its sequence number. -/
abbrev Rows := AList fun _ : UInt64 => Issued

/-- What the authority has stored. -/
structure Namespace where
  info : Option Meta
  rows : Rows

/-- A namespace nothing was ever stored in. -/
def Namespace.empty : Namespace := ⟨none, ∅⟩

/-! ### Time -/

/-- `NINLIL_CLOCK_TRUSTED`. -/
abbrev clockTrusted : UInt32 := 1

/-- `NINLIL_CLOCK_UNCERTAIN`. -/
abbrev clockUncertain : UInt32 := 2

/-- What the clock writes. -/
structure TimeSample where
  abiVersion : UInt16
  structSize : UInt16
  clockEpochId : Id
  nowMs : UInt64
  trust : UInt32
  reservedZero : UInt32
  deriving DecidableEq

/-- The size of a sample. -/
abbrev timeSampleBytes : UInt16 := 40

/-- The version of the interface. -/
abbrev ninlilAbiVersion : UInt16 := 1

/-- What the clock returns. -/
inductive PortStatus
  | ok
  | temporaryFailure
  | permanentFailure
  | other
  deriving DecidableEq

/-- One reading of the clock. -/
structure ClockReply where
  status : PortStatus
  sample : TimeSample

/-- A moment of a clock epoch. -/
structure Trust where
  epochId : Id
  nowMs : UInt64
  deriving DecidableEq

/-- What a reading of the clock is worth. -/
inductive ClkClass
  | okTrusted
  | okUncertain
  | temp
  | faultPerm
  | faultIllformed
  | faultUnknown
  | faultRegression
  deriving DecidableEq

/-- The moment a sample names. -/
def TimeSample.moment (s : TimeSample) : Trust := ⟨s.clockEpochId, s.nowMs⟩

/-- Every field of a sample is as the interface has it. -/
def TimeSample.wellFormed (s : TimeSample) : Bool :=
  s.abiVersion == ninlilAbiVersion && timeSampleBytes ≤ s.structSize && s.reservedZero == 0 &&
    (s.trust == clockTrusted || s.trust == clockUncertain) && s.clockEpochId != 0

/-- The sample is earlier than a moment of its own epoch. -/
def Trust.ahead (t : Trust) (s : TimeSample) : Bool :=
  s.clockEpochId == t.epochId && s.nowMs < t.nowMs

/-- The class of a reading, against the moment trusted last. -/
def classify (ramTrust : Option Trust) (r : ClockReply) : ClkClass :=
  match r.status with
  | .temporaryFailure => .temp
  | .permanentFailure => .faultPerm
  | .other => .faultUnknown
  | .ok =>
    if !r.sample.wellFormed then .faultIllformed
    else if r.sample.trust == clockUncertain then .okUncertain
    else if ramTrust.any fun t => t.ahead r.sample then .faultRegression
    else .okTrusted

/-- The sample lies in the life of the row. -/
def validTime (s : TimeSample) (iss : Issued) : Bool :=
  s.trust == clockTrusted && s.clockEpochId == iss.clockEpochId &&
    iss.notBeforeMs ≤ s.nowMs && s.nowMs < iss.expiryMs

/-- The sample lies past the life of the row. -/
def expiredTime (s : TimeSample) (iss : Issued) : Bool :=
  s.trust == clockTrusted && s.clockEpochId == iss.clockEpochId && iss.expiryMs ≤ s.nowMs

end Ninlil.Permit
