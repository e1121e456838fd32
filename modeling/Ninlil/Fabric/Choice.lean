import Mathlib.Data.Prod.Lex
import Mathlib.Data.List.Lex
import Mathlib.Data.List.Forall2
import Ninlil.Fabric.Select

/-!
# The path that is chosen

* `Eligible`: what a candidate and its path have to be, in numbers;
* `Chosen`: the path of the only current policy that comes first by rank, latency, cost and
  identifier.
-/

namespace Ninlil.Fabric

open ExchangeSort Guard

/-! ### Eligible candidates -/

section Conditions

variable (q : Query) (p : Policy) (reg : RegistryRow)

structure PathOk : Prop where
  lifecycle : reg.lifecycle = 1
  direction : reg.directionMask &&& 1 ≠ 0
  structural : 587 ≤ q.packetBytes.toNat ∧ q.packetBytes.toNat ≤ 1925
  minimum : p.minimumPacketBytes.toNat ≤ q.packetBytes.toNat
  packet : q.packetBytes.toNat ≤ reg.maximumPacketBytes.toNat
  transfer : q.transferBytes.toNat ≤ reg.maximumTransferBytes.toNat
  latency : reg.latencyClass.toNat ≤ p.maximumLatencyClass.toNat
  cost : reg.costClass.toNat ≤ p.maximumCostClass.toNat
  deadline : q.nowMs.toNat + p.deadlineGuardMs.toNat ≤ q.deadlineMs.toNat
  epochs : q.deadlineClockEpochId = q.admissionClockEpochId ∧
    q.deadlineClockEpochId = q.availabilityClockEpochId

structure CapabilitiesOk : Prop where
  capabilities : covers reg.capabilityFlags (p.requiredCapabilityFlags ||| q.requiredCapabilityFlags)
  sleep : q.requiresSleepCompatible ≠ 0 → reg.capabilityFlags &&& 1 ≠ 0
  security :
    covers reg.securityCapabilityFlags (p.requiredSecurityFlags ||| q.requiredSecurityFlags)
  custody : q.requiresCustody ≠ 0 → reg.linkKind ≠ 2 ∧ reg.capabilityFlags &&& 0x20 ≠ 0
  evidence : q.requiresEvidence ≠ 0 → reg.capabilityFlags &&& 0x40 ≠ 0

structure PeerOk : Prop where
  version : reg.peerNfl1Version = 1 ∧ reg.peerFabricCapabilityFlags &&& 1 ≠ 0
  authenticated : reg.authenticatedPeerRuntimeId ≠ .zero
  peer : q.authenticatedPeerRuntimeId ≠ .zero →
    reg.authenticatedPeerRuntimeId = q.authenticatedPeerRuntimeId
  attached : reg.attachmentAuthorityId ≠ .zero ∧
    reg.attachmentBindingDigest ≠ Vector.replicate 32 0
  authority : q.attachmentAuthorityId ≠ .zero → reg.attachmentAuthorityId = q.attachmentAuthorityId
  binding : q.attachmentBindingDigest ≠ Vector.replicate 32 0 →
    reg.attachmentBindingDigest = q.attachmentBindingDigest

structure AvailabilityOk : Prop where
  attestationEpoch : reg.attestationClockEpochId = q.attestationClockEpochId
  attestation : q.nowMs.toNat < reg.attestationExpiresAtMs.toNat
  availabilityEpoch : reg.availabilityClockEpochId = q.availabilityClockEpochId
  state : reg.availabilityState = 1
  availability : q.nowMs.toNat < reg.availabilityExpiresAtMs.toNat

structure AuthorityOk (auth : AuthorityRow) : Prop where
  bound : p.authorityMode = 1 → auth.authorityState = 1
  epoch : auth.authorityState = 1 → auth.authorityClockEpochId = q.authorityClockEpochId
  lease : auth.authorityState = 1 → q.nowMs.toNat < auth.leaseExpiresAtMs.toNat

structure RadioOk : Prop where
  permit : reg.linkKind = 4 → q.rfPermitValid ≠ 0
  mapping : reg.linkKind = 4 → q.rfMappingAccepted ≠ 0
  approved : reg.linkKind = 4 → reg.rfMappingApproved ≠ 0

end Conditions

/-- The units that attempts hold on a path. -/
def heldUnits (attempts : List ActiveAttempt) (id : Id) : ℕ :=
  ((attempts.filter fun t => t.holds id).map fun t => t.reservationUnits.toNat).sum

/-- A candidate with the only row of its path, and the only authority of its policy, that passes
all tests. -/
structure Eligible (s : Snapshot) (p : Policy) (endpoint : Id) (c : Candidate) (reg : RegistryRow)
    (auth : AuthorityRow) : Prop where
  registryRow : s.registryRows c = [reg]
  authorityRow : s.authorityRows p endpoint = [auth]
  path : PathOk s.query p reg
  reservation : heldUnits s.activeAttempts c.instanceId + c.reservationUnits.toNat ≤
    reg.reservationCapacity.toNat
  capabilities : CapabilitiesOk s.query p reg
  peer : PeerOk s.query reg
  availability : AvailabilityOk s.query reg
  authority : AuthorityOk s.query p auth
  radio : RadioOk s.query reg

section Tests

variable {q : Query} {p : Policy} {reg : RegistryRow} {auth : AuthorityRow} {u : Unit}

/-- The guard, without underflow. -/
theorem deadline_iff {now deadline guard : UInt64} :
    ¬(deadline < now ∨ deadline - now < guard) ↔
      now.toNat + guard.toNat ≤ deadline.toNat := by
  rw [not_or, UInt64.not_lt, UInt64.not_lt, UInt64.le_iff_toNat_le, UInt64.le_iff_toNat_le]
  constructor
  · rintro ⟨hle, hguard⟩
    rw [UInt64.toNat_sub_of_le _ _ (UInt64.le_iff_toNat_le.2 hle)] at hguard
    omega
  · intro h
    have hle : now.toNat ≤ deadline.toNat := by omega
    refine ⟨hle, ?_⟩
    rw [UInt64.toNat_sub_of_le _ _ (UInt64.le_iff_toNat_le.2 hle)]
    omega

theorem checkPath_eq_ok : checkPath q p reg = .ok u ↔ PathOk q p reg := by
  unfold checkPath
  simp only [bind_eq_ok, require_eq_ok, exists_const, deadline_iff, UInt32.le_iff_toNat_le,
    UInt16.le_iff_toNat_le]
  constructor
  · rintro ⟨h₁, h₂, h₃, h₄, h₅, h₆, h₇, h₈, h₉, h₁₀, h₁₁⟩
    exact ⟨h₁, h₂, ⟨h₃, h₄⟩, h₅, h₆, h₇, h₈, h₉, h₁₀, h₁₁⟩
  · intro h
    exact ⟨h.lifecycle, h.direction, h.structural.1, h.structural.2, h.minimum, h.packet, h.transfer,
      h.latency, h.cost, h.deadline, h.epochs⟩

theorem checkCapabilities_eq_ok : checkCapabilities q p reg = .ok u ↔ CapabilitiesOk q p reg := by
  unfold checkCapabilities
  simp only [bind_eq_ok, require_eq_ok, exists_const]
  constructor
  · rintro ⟨h₁, h₂, h₃, h₄, h₅⟩
    exact ⟨h₁, h₂, h₃, h₄, h₅⟩
  · intro h
    exact ⟨h.capabilities, h.sleep, h.security, h.custody, h.evidence⟩

theorem checkPeer_eq_ok : checkPeer q reg = .ok u ↔ PeerOk q reg := by
  unfold checkPeer
  simp only [bind_eq_ok, require_eq_ok, exists_const]
  constructor
  · rintro ⟨h₁, h₂, h₃, h₄, h₅, h₆⟩
    exact ⟨h₁, h₂, h₃, h₄, h₅, h₆⟩
  · intro h
    exact ⟨h.version, h.authenticated, h.peer, h.attached, h.authority, h.binding⟩

theorem checkAvailability_eq_ok : checkAvailability q reg = .ok u ↔ AvailabilityOk q reg := by
  unfold checkAvailability
  simp only [bind_eq_ok, require_eq_ok, exists_const, UInt64.lt_iff_toNat_lt]
  constructor
  · rintro ⟨h₁, h₂, h₃, h₄, h₅⟩
    exact ⟨h₁, h₂, h₃, h₄, h₅⟩
  · intro h
    exact ⟨h.attestationEpoch, h.attestation, h.availabilityEpoch, h.state, h.availability⟩

theorem checkAuthority_eq_ok : checkAuthority q p auth = .ok u ↔ AuthorityOk q p auth := by
  unfold checkAuthority
  simp only [bind_eq_ok, require_eq_ok, exists_const, UInt64.lt_iff_toNat_lt]
  constructor
  · rintro ⟨h₁, h₂, h₃⟩
    exact ⟨h₁, h₂, h₃⟩
  · intro h
    exact ⟨h.bound, h.epoch, h.lease⟩

theorem checkRadio_eq_ok : checkRadio q reg = .ok u ↔ RadioOk q reg := by
  unfold checkRadio
  simp only [bind_eq_ok, require_eq_ok, exists_const]
  constructor
  · rintro ⟨h₁, h₂, h₃⟩
    exact ⟨h₁, h₂, h₃⟩
  · intro h
    exact ⟨h.permit, h.mapping, h.approved⟩

end Tests

/-! ### Reservations -/

section Reservations

variable {attempts : List ActiveAttempt} {id : Id} {reg : RegistryRow} {c : Candidate} {u : Unit}

/-- As many 16-bit units as there are attempts do not overflow a 32-bit word. -/
theorem toNat_usedUnits (h : attempts.length ≤ 64) :
    (usedUnits attempts id).toNat = heldUnits attempts id ∧ heldUnits attempts id ≤ 64 * 65535 := by
  have hfold : ∀ (l : List ActiveAttempt) (used : UInt32), used.toNat + l.length * 65535 < 2 ^ 32 →
      (l.foldl (fun used t => if t.holds id then used + t.reservationUnits.toUInt32 else used)
        used).toNat = used.toNat + heldUnits l id ∧ heldUnits l id ≤ l.length * 65535 := by
    intro l
    induction l with
    | nil => exact fun used _ => ⟨rfl, Nat.le_refl 0⟩
    | cons t l ih =>
      intro used hlt
      have hunits := t.reservationUnits.toNat_lt
      rw [List.length_cons] at hlt ⊢
      rw [List.foldl_cons]
      by_cases ht : t.holds id = true
      · have hadd : (used + t.reservationUnits.toUInt32).toNat =
            used.toNat + t.reservationUnits.toNat := by
          rw [UInt32.toNat_add, UInt16.toNat_toUInt32, Nat.mod_eq_of_lt (by omega)]
        have hheld : heldUnits (t :: l) id = t.reservationUnits.toNat + heldUnits l id := by
          unfold heldUnits
          rw [List.filter_cons, if_pos ht, List.map_cons, List.sum_cons]
        obtain ⟨hsum, hle⟩ := ih (used + t.reservationUnits.toUInt32) (by omega)
        rw [if_pos ht, hsum, hadd, hheld]
        omega
      · have hheld : heldUnits (t :: l) id = heldUnits l id := by
          unfold heldUnits
          rw [List.filter_cons, if_neg ht]
        have hsucc : l.length * 65535 ≤ (l.length + 1) * 65535 :=
          Nat.mul_le_mul_right _ (Nat.le_succ _)
        obtain ⟨hsum, hle⟩ := ih used (Nat.lt_of_le_of_lt (Nat.add_le_add_left hsucc _) hlt)
        rw [if_neg ht, hsum, hheld]
        exact ⟨rfl, hle.trans hsucc⟩
  have hzero : (0 : UInt32).toNat = 0 := rfl
  have hmax : attempts.length * 65535 ≤ 64 * 65535 := Nat.mul_le_mul_right _ h
  obtain ⟨hsum, hle⟩ := hfold attempts 0 (by
    rw [hzero]
    omega)
  unfold usedUnits
  rw [hsum, hzero, Nat.zero_add]
  exact ⟨rfl, hle.trans hmax⟩

theorem checkReservation_eq_ok (h : attempts.length ≤ 64) :
    checkReservation reg attempts c = .ok u ↔
      heldUnits attempts c.instanceId + c.reservationUnits.toNat ≤
        reg.reservationCapacity.toNat := by
  obtain ⟨hused, hle⟩ := @toNat_usedUnits _ c.instanceId h
  have hunits := c.reservationUnits.toNat_lt
  unfold checkReservation
  rw [require_eq_ok, UInt32.le_iff_toNat_le, UInt32.toNat_add, UInt16.toNat_toUInt32,
    UInt16.toNat_toUInt32, hused, Nat.mod_eq_of_lt (by omega)]

end Reservations

/-! ### Admitted candidates -/

section Admission

variable {s : Snapshot} {p : Policy} {endpoint : Id} {c : Candidate} {reg : RegistryRow}

theorem joined_eq_ok {α : Type} {rows : List α} {missing ambiguous : Rejection} {row : α} :
    joined rows missing ambiguous = .ok row ↔ rows = [row] := by
  unfold joined
  split
  · simp
  · simp
  next hne =>
    refine ⟨fun h => (by cases h), fun h => absurd h (hne row)⟩

theorem admit_eq_ok : s.admit p endpoint c = .ok reg ↔ ∃ auth, Eligible s p endpoint c reg auth := by
  unfold Snapshot.admit
  simp only [bind_eq_ok, joined_eq_ok, checkPath_eq_ok, checkReservation_eq_ok s.activeAttempts_le,
    checkCapabilities_eq_ok, checkPeer_eq_ok, checkAvailability_eq_ok, checkAuthority_eq_ok,
    checkRadio_eq_ok, exists_const]
  constructor
  · rintro ⟨reg', hreg, auth, hauth, h₁, h₂, h₃, h₄, h₅, h₆, h₇, h⟩
    cases h
    exact ⟨auth, hreg, hauth, h₁, h₂, h₃, h₄, h₅, h₆, h₇⟩
  · rintro ⟨auth, h⟩
    exact ⟨reg, h.registryRow, auth, h.authorityRow, h.path, h.reservation, h.capabilities, h.peer,
      h.availability, h.authority, h.radio, rfl⟩

end Admission

/-! ### The order of candidates -/

/-- What candidates are compared by: rank, latency, cost and identifier. -/
def sortKey (rank latency cost : UInt16) (id : Id) : ℕ ×ₗ ℕ ×ₗ ℕ ×ₗ List ℕ :=
  toLex (rank.toNat, toLex (latency.toNat, toLex (cost.toNat, id.toList.map UInt8.toNat)))

section Order

/-- Identifiers are compared as byte strings are. -/
theorem idCmp_eq_lt {a b : List UInt8} (h : a.length = b.length) :
    idCmp a b = .lt ↔ a.map UInt8.toNat < b.map UInt8.toNat := by
  induction a generalizing b with
  | nil =>
    cases b with
    | nil => simp [idCmp]
    | cons y b => cases h
  | cons x a ih =>
    cases b with
    | nil => cases h
    | cons y b =>
      have htail := ih (Nat.succ.inj h)
      rw [List.map_cons, List.map_cons, List.cons_lt_cons_iff, ← UInt8.lt_iff_toNat_lt, ← htail,
        UInt8.toNat_inj, idCmp]
      split
      next hlt => simp [hlt]
      next hnot =>
      split
      next hgt =>
        have hne : x ≠ y := fun heq => hnot (heq ▸ hgt)
        simp [hnot, hne]
      next hngt =>
        have heq : x = y := UInt8.le_antisymm (UInt8.not_lt.1 hngt) (UInt8.not_lt.1 hnot)
        simp [heq]

/-- One level of the comparison. -/
theorem compareStep_eq_lt {β : Type} [LT β] {a b : UInt16} {o : Ordering} {x y : β}
    (h : o = .lt ↔ x < y) :
    (if a ≠ b then if a < b then Ordering.lt else .gt else o) = .lt ↔
      toLex (a.toNat, x) < toLex (b.toNat, y) := by
  rw [Prod.Lex.toLex_lt_toLex, ← UInt16.lt_iff_toNat_lt, UInt16.toNat_inj]
  by_cases heq : a = b
  · subst heq
    rw [if_neg (not_not.2 rfl), h]
    simp
  · rw [if_pos heq]
    split
    next hlt => simp [hlt]
    next hnot => simp [hnot, heq]

/-- What is found about a candidate is compared by its key. -/
theorem compareSort_eq_lt {a b : Eval} : (compareSort a b == .lt) = true ↔
    sortKey a.sortRank a.sortLatency a.sortCost a.instanceId <
      sortKey b.sortRank b.sortLatency b.sortCost b.instanceId := by
  rw [beq_iff_eq]
  exact compareStep_eq_lt (compareStep_eq_lt (compareStep_eq_lt (idCmp_eq_lt
    (a.instanceId.length_toList.trans b.instanceId.length_toList.symm))))

/-- Nothing but the same identifier has the same key. -/
theorem id_of_sortKey {rank latency cost rank' latency' cost' : UInt16} {id id' : Id}
    (h : sortKey rank latency cost id = sortKey rank' latency' cost' id') : id = id' := by
  have hids : id.toList.map UInt8.toNat = id'.toList.map UInt8.toNat :=
    (Prod.mk.inj (Prod.mk.inj (Prod.mk.inj h).2).2).2
  exact Vector.toList_inj.1 ((List.map_injective_iff.2 fun a b => UInt8.toNat_inj.1) hids)

end Order

/-! ### The choice among candidates -/

/-- The candidate, on its path, that comes first among those that are eligible. -/
structure Best (s : Snapshot) (p : Policy) (endpoint : Id) (c : Candidate) (reg : RegistryRow) :
    Prop where
  mem : c ∈ p.candidates
  eligible : ∃ auth, Eligible s p endpoint c reg auth
  first : ∀ c' ∈ p.candidates, ∀ reg' auth, Eligible s p endpoint c' reg' auth →
    sortKey c.rank reg.latencyClass reg.costClass c.instanceId ≤
      sortKey c'.rank reg'.latencyClass reg'.costClass c'.instanceId

section Choosing

variable {s : Snapshot} {p : Policy} {endpoint : Id} {c c' : Candidate} {reg reg' : RegistryRow}

theorem evaluate_of_eligible {auth : AuthorityRow} (h : Eligible s p endpoint c reg auth) :
    s.evaluate p endpoint c =
      ⟨c.instanceId, true, none, c.rank, reg.latencyClass, reg.costClass⟩ := by
  unfold Snapshot.evaluate
  rw [admit_eq_ok.2 ⟨auth, h⟩]

theorem eligible_of_evaluate (h : (s.evaluate p endpoint c).eligible = true) :
    ∃ reg auth, Eligible s p endpoint c reg auth := by
  unfold Snapshot.evaluate at h
  rcases hc : s.admit p endpoint c with reason | reg
  · rw [hc] at h
    cases h
  · exact ⟨reg, admit_eq_ok.1 hc⟩

/-- Two candidates that come first have the same identifier. -/
theorem Best.unique (h : Best s p endpoint c reg) (h' : Best s p endpoint c' reg') :
    c.instanceId = c'.instanceId := by
  obtain ⟨auth, helig⟩ := h.eligible
  obtain ⟨auth', helig'⟩ := h'.eligible
  exact id_of_sortKey (le_antisymm (h.first c' h'.mem reg' auth' helig')
    (h'.first c h.mem reg auth helig))

/-- The choice when there is an eligible candidate. -/
theorem choose_of_eligible
    (h : ∃ c ∈ p.candidates, ∃ reg auth, Eligible s p endpoint c reg auth) :
    ∃ c reg, Best s p endpoint c reg ∧ (s.choose p endpoint).resolution = .selected ∧
      (s.choose p endpoint).hasSelection = true ∧
      (s.choose p endpoint).selectedInstanceId = c.instanceId := by
  obtain ⟨c₀, hmem₀, reg₀, auth₀, helig₀⟩ := h
  have hin : s.evaluate p endpoint c₀ ∈
      (p.candidates.map (s.evaluate p endpoint)).filter Eval.eligible :=
    List.mem_filter.2 ⟨List.mem_map_of_mem hmem₀, by rw [evaluate_of_eligible helig₀]⟩
  rcases hl : (p.candidates.map (s.evaluate p endpoint)).filter Eval.eligible with - | ⟨e, es⟩
  · rw [hl] at hin
    cases hin
  obtain ⟨m, rest, hsort, hm, hleast⟩ := @exchangeSort_cons _ _ _ _
    (fun e : Eval => sortKey e.sortRank e.sortLatency e.sortCost e.instanceId)
    (fun a b => compareSort_eq_lt (a := a) (b := b)) e es
  rw [← hl] at hsort hm hleast
  obtain ⟨hm, hok⟩ := List.mem_filter.1 hm
  obtain ⟨c, hmem, rfl⟩ := List.mem_map.1 hm
  obtain ⟨reg, auth, helig⟩ := eligible_of_evaluate hok
  refine ⟨c, reg, ⟨hmem, ⟨auth, helig⟩, fun c' hmem' reg' auth' helig' => ?_⟩, ?_⟩
  · have hle := hleast (s.evaluate p endpoint c') (List.mem_filter.2
      ⟨List.mem_map_of_mem hmem', by rw [evaluate_of_eligible helig']⟩)
    rwa [evaluate_of_eligible helig, evaluate_of_eligible helig'] at hle
  · unfold Snapshot.choose
    dsimp only
    rw [hsort, evaluate_of_eligible helig]
    exact ⟨rfl, rfl, rfl⟩

/-- The choice when there is none. -/
theorem choose_of_none
    (h : ¬∃ c ∈ p.candidates, ∃ reg auth, Eligible s p endpoint c reg auth) :
    (s.choose p endpoint).resolution = .noEligible ∧
      (s.choose p endpoint).hasSelection = false ∧
      (s.choose p endpoint).selectedInstanceId = .zero := by
  have hnil : (p.candidates.map (s.evaluate p endpoint)).filter Eval.eligible = [] := by
    rw [List.filter_eq_nil_iff]
    intro e he hok
    obtain ⟨c, hmem, rfl⟩ := List.mem_map.1 he
    exact h ⟨c, hmem, eligible_of_evaluate hok⟩
  unfold Snapshot.choose
  dsimp only
  rw [hnil]
  exact ⟨rfl, rfl, rfl⟩

end Choosing

/-! ### The path chosen -/

/-- A chain of revisions without a gap, that ends at the revision. -/
structure ChainOk (p : Policy) : Prop where
  last : p.revisionChain.getLast? = some p.revision
  contiguous : p.revisionChain.IsChain fun a b => b = a + 1

/-- The policy matches the query, and there is no later revision of it. -/
def IsCurrent (s : Snapshot) (p : Policy) : Prop :=
  p.matches s.query = true ∧ ∀ o ∈ s.policies, o.policyId = p.policyId → o.revision ≤ p.revision

instance (s : Snapshot) (p : Policy) : Decidable (IsCurrent s p) :=
  inferInstanceAs (Decidable (_ ∧ _))

/-- The path of the only current policy that comes first. -/
structure Chosen (s : Snapshot) (x : Id) : Prop where
  outer : s.outerAvailable = 1
  chains : ∀ p ∈ s.policies, ChainOk p
  best : ∃ p endpoint c reg, (s.policies.filter fun p => IsCurrent s p) = [p] ∧
    p.endpoint s.query = some endpoint ∧ Best s p endpoint c reg ∧ c.instanceId = x

section Policies

variable {s : Snapshot} {p : Policy}

theorem contiguous_iff {chain : List UInt64} :
    contiguous chain = true ↔ chain.IsChain fun a b => b = a + 1 := by
  induction chain with
  | nil => exact ⟨fun _ => List.isChain_nil, fun _ => rfl⟩
  | cons a chain ih =>
    cases chain with
    | nil => exact ⟨fun _ => List.isChain_singleton a, fun _ => rfl⟩
    | cons b chain =>
      rw [List.isChain_cons_cons, ← ih, contiguous, Bool.and_eq_true, beq_iff_eq]

theorem gap_eq_false : p.gap = false ↔ ChainOk p := by
  unfold Policy.gap
  rw [Bool.or_eq_false_iff, bne_eq_false_iff_eq, Bool.not_eq_false', contiguous_iff]
  exact ⟨fun h => ⟨h.1, h.2⟩, fun h => ⟨h.last, h.contiguous⟩⟩

theorem any_gap_eq_false : s.policies.any Policy.gap = false ↔ ∀ p ∈ s.policies, ChainOk p := by
  rw [List.any_eq_false]
  refine forall₂_congr fun p _ => ?_
  rw [Bool.not_eq_true, gap_eq_false]

theorem current_eq : s.current = s.policies.filter fun p => IsCurrent s p := by
  unfold Snapshot.current
  refine List.filter_congr fun p _ => ?_
  rw [Bool.eq_iff_iff, decide_eq_true_iff, Bool.and_eq_true, Bool.not_eq_true', List.any_eq_false]
  refine and_congr_right fun _ => forall₂_congr fun o _ => ?_
  rw [Bool.and_eq_true, beq_iff_eq, decide_eq_true_iff, not_and, UInt64.not_lt]

end Policies

section Resolving

variable {s : Snapshot} {p : Policy} {endpoint : Id}

/-- The choice of a path, once the policy is found. -/
theorem select_eq_choose (houter : s.outerAvailable = 1)
    (hchains : s.policies.any Policy.gap = false) (hp : s.current = [p])
    (hendpoint : p.endpoint s.query = some endpoint) : select (some s) = s.choose p endpoint := by
  unfold select
  dsimp only
  rw [if_neg (not_not.2 houter), if_neg (by rw [hchains]; exact Bool.false_ne_true), hp]
  dsimp only
  rw [hendpoint]

/-- What is not refused comes from the only current policy. -/
theorem select_cases (s : Snapshot) :
    (∃ resolution reason, resolution ≠ .selected ∧
      select (some s) = .refused resolution reason) ∨
    ∃ p endpoint, s.outerAvailable = 1 ∧ s.policies.any Policy.gap = false ∧ s.current = [p] ∧
      p.endpoint s.query = some endpoint := by
  by_cases houter : s.outerAvailable = 1
  · rcases hchains : s.policies.any Policy.gap with - | -
    · rcases hcurrent : s.current with - | ⟨p, - | ⟨p', rest⟩⟩
      · refine .inl ⟨.noPolicy, .policyNoMatch, by decide, ?_⟩
        simp [select, houter, hchains, hcurrent]
      · rcases hendpoint : p.endpoint s.query with - | endpoint
        · refine .inl ⟨.corrupt, .scopeSelectorUnknown, by decide, ?_⟩
          simp [select, houter, hchains, hcurrent, hendpoint]
        · exact .inr ⟨p, endpoint, houter, rfl, rfl, hendpoint⟩
      · refine .inl ⟨.corrupt, .policyAmbiguous, by decide, ?_⟩
        simp [select, houter, hchains, hcurrent]
    · refine .inl ⟨.corrupt, .policyRevisionGap, by decide, ?_⟩
      simp [select, houter, hchains]
  · refine .inl ⟨.noEligible, .metaOuterUnavailable, by decide, ?_⟩
    simp [select, houter]

/-- The choice is the path that comes first. -/
theorem select_eq_selected {x : Id} : (select (some s)).resolution = .selected ∧
    (select (some s)).selectedInstanceId = x ↔ Chosen s x := by
  constructor
  · rintro ⟨hselected, rfl⟩
    obtain ⟨resolution, reason, hne, heq⟩ | ⟨p, endpoint, houter, hchains, hp, hendpoint⟩ :=
      select_cases s
    · rw [heq] at hselected
      exact absurd hselected hne
    · rw [select_eq_choose houter hchains hp hendpoint] at hselected ⊢
      by_cases hsome : ∃ c ∈ p.candidates, ∃ reg auth, Eligible s p endpoint c reg auth
      · obtain ⟨c, reg, hbest, -, -, hid⟩ := choose_of_eligible hsome
        rw [current_eq] at hp
        exact ⟨houter, any_gap_eq_false.1 hchains, p, endpoint, c, reg, hp, hendpoint, hbest,
          hid.symm⟩
      · rw [(choose_of_none hsome).1] at hselected
        cases hselected
  · rintro ⟨houter, hchains, p, endpoint, c, reg, hp, hendpoint, hbest, rfl⟩
    rw [select_eq_choose houter (any_gap_eq_false.2 hchains) (current_eq.trans hp) hendpoint]
    obtain ⟨auth, helig⟩ := hbest.eligible
    obtain ⟨c', reg', hbest', hselected, -, hid⟩ :=
      choose_of_eligible ⟨c, hbest.mem, reg, auth, helig⟩
    exact ⟨hselected, hid.trans (hbest'.unique hbest)⟩

end Resolving

end Ninlil.Fabric
