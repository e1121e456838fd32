import Ninlil.Fabric.Choice

/-!
# The order of rows does not matter

* `Policy.Reordered`: the candidates of a policy, in another order;
* `Reordered`: the rows of a snapshot in another order, with its policies so changed;
* `Reordered.select`: the resolution and the path chosen are the same;
* `path_selection`: both what is chosen and that the order does not matter.
-/

namespace Ninlil.Fabric

/-- The same policy, its candidates in another order. -/
def Policy.Reordered (p p' : Policy) : Prop :=
  ∃ cs h, p.candidates.Perm cs ∧ p' = { p with candidates := cs, candidates_le := h }

/-- The same query, and the rows that candidates are joined with in another order. -/
structure SameRows (s s' : Snapshot) : Prop where
  query : s'.query = s.query
  registry : s.registry.Perm s'.registry
  authorities : s.authorities.Perm s'.authorities
  activeAttempts : s.activeAttempts.Perm s'.activeAttempts

/-- The same snapshot, its rows and the candidates of its policies in another order. -/
structure Reordered (s s' : Snapshot) : Prop extends SameRows s s' where
  outer : s'.outerAvailable = s.outerAvailable
  policies : ∃ ps, s.policies.Perm ps ∧ List.Forall₂ Policy.Reordered ps s'.policies

/-! ### Candidates -/

section Candidates

variable {s s' : Snapshot} {p p' : Policy} {endpoint : Id} {c : Candidate} {reg : RegistryRow}
  {auth : AuthorityRow}

theorem SameRows.symm (h : SameRows s s') : SameRows s' s :=
  ⟨h.query.symm, h.registry.symm, h.authorities.symm, h.activeAttempts.symm⟩

theorem heldUnits_perm {l l' : List ActiveAttempt} (h : l.Perm l') (id : Id) :
    heldUnits l id = heldUnits l' id :=
  ((h.filter _).map _).sum_eq

theorem SameRows.eligible (h : SameRows s s') (helig : Eligible s p endpoint c reg auth) :
    Eligible s' p endpoint c reg auth := by
  have hregistry : s'.registryRows c = [reg] :=
    ((h.registry.filter _).symm.trans (List.Perm.of_eq helig.registryRow)).eq_singleton
  have hauthority : s'.authorityRows p endpoint = [auth] := by
    unfold Snapshot.authorityRows
    rw [h.query]
    exact ((h.authorities.filter _).symm.trans (List.Perm.of_eq helig.authorityRow)).eq_singleton
  refine ⟨hregistry, hauthority, ?_, ?_, ?_, ?_, ?_, ?_, ?_⟩
  · rw [h.query]
    exact helig.path
  · rw [← heldUnits_perm h.activeAttempts]
    exact helig.reservation
  · rw [h.query]
    exact helig.capabilities
  · rw [h.query]
    exact helig.peer
  · rw [h.query]
    exact helig.availability
  · rw [h.query]
    exact helig.authority
  · rw [h.query]
    exact helig.radio

/-- The candidates of a policy are no part of the tests. -/
theorem Policy.Reordered.eligible (hp : p.Reordered p') :
    (∃ auth, Eligible s p' endpoint c reg auth) ↔ ∃ auth, Eligible s p endpoint c reg auth := by
  obtain ⟨cs, hcs, -, rfl⟩ := hp
  rw [← admit_eq_ok, ← admit_eq_ok]
  exact Iff.rfl

theorem Policy.Reordered.mem (hp : p.Reordered p') : c ∈ p'.candidates ↔ c ∈ p.candidates := by
  obtain ⟨cs, hcs, hperm, rfl⟩ := hp
  exact hperm.mem_iff.symm

theorem eligible_iff (h : SameRows s s') (hp : p.Reordered p') :
    (∃ auth, Eligible s' p' endpoint c reg auth) ↔ ∃ auth, Eligible s p endpoint c reg auth := by
  rw [hp.eligible]
  constructor
  · rintro ⟨auth, helig⟩
    exact ⟨auth, h.symm.eligible helig⟩
  · rintro ⟨auth, helig⟩
    exact ⟨auth, h.eligible helig⟩

theorem Best.reordered (h : SameRows s s') (hp : p.Reordered p') (hbest : Best s p endpoint c reg) :
    Best s' p' endpoint c reg := by
  refine ⟨hp.mem.2 hbest.mem, (eligible_iff h hp).2 hbest.eligible, fun c' hc' reg' auth' h' => ?_⟩
  obtain ⟨auth, helig⟩ := (eligible_iff h hp).1 ⟨auth', h'⟩
  exact hbest.first c' (hp.mem.1 hc') reg' auth helig

/-- The choice among the candidates of a policy. -/
theorem choose_reordered (h : SameRows s s') (hp : p.Reordered p') :
    (s'.choose p' endpoint).resolution = (s.choose p endpoint).resolution ∧
      (s'.choose p' endpoint).hasSelection = (s.choose p endpoint).hasSelection ∧
      (s'.choose p' endpoint).selectedInstanceId = (s.choose p endpoint).selectedInstanceId := by
  by_cases hsome : ∃ c ∈ p.candidates, ∃ reg auth, Eligible s p endpoint c reg auth
  · have hsome' : ∃ c ∈ p'.candidates, ∃ reg auth, Eligible s' p' endpoint c reg auth := by
      obtain ⟨c, hc, reg, helig⟩ := hsome
      exact ⟨c, hp.mem.2 hc, reg, (eligible_iff h hp).2 helig⟩
    obtain ⟨c, reg, hbest, hresolution, hhas, hid⟩ := choose_of_eligible hsome
    obtain ⟨c', reg', hbest', hresolution', hhas', hid'⟩ := choose_of_eligible hsome'
    refine ⟨hresolution'.trans hresolution.symm, hhas'.trans hhas.symm, ?_⟩
    rw [hid, hid']
    exact hbest'.unique (hbest.reordered h hp)
  · have hnone : ¬∃ c ∈ p'.candidates, ∃ reg auth, Eligible s' p' endpoint c reg auth := by
      rintro ⟨c, hc, reg, helig⟩
      exact hsome ⟨c, hp.mem.1 hc, reg, (eligible_iff h hp).1 helig⟩
    obtain ⟨hresolution, hhas, hid⟩ := choose_of_none hsome
    obtain ⟨hresolution', hhas', hid'⟩ := choose_of_none hnone
    exact ⟨hresolution'.trans hresolution.symm, hhas'.trans hhas.symm, hid'.trans hid.symm⟩

end Candidates

/-! ### Policies -/

section Policies

variable {s s' : Snapshot}

/-- What does not read the candidates of policies is the same of both snapshots. -/
theorem Reordered.map {α : Type} (h : Reordered s s') {g : Policy → α}
    (hg : ∀ p p', p.Reordered p' → g p = g p') :
    (s.policies.map g).Perm (s'.policies.map g) := by
  obtain ⟨ps, hperm, hall⟩ := h.policies
  have heq : List.Forall₂ Eq (ps.map g) (s'.policies.map g) :=
    List.rel_map (R := Policy.Reordered) (P := Eq) (fun _ _ hp => hg _ _ hp) hall
  rw [List.forall₂_eq_eq_eq] at heq
  rw [← heq]
  exact hperm.map g

theorem Reordered.any_gap (h : Reordered s s') :
    s'.policies.any Policy.gap = s.policies.any Policy.gap := by
  have hmap := h.map (g := Policy.gap) fun p p' hp => by
    obtain ⟨cs, hcs, -, rfl⟩ := hp
    rfl
  have hany : ∀ l : List Policy, l.any Policy.gap = (l.map Policy.gap).any id := fun l => by
    rw [List.any_map]
    rfl
  rw [hany, hany, Bool.eq_iff_iff, List.any_eq_true, List.any_eq_true]
  exact exists_congr fun b => and_congr_left fun _ => hmap.mem_iff.symm

/-- The current policies, in another order. -/
theorem Reordered.current (h : Reordered s s') :
    ∃ ps, s.current.Perm ps ∧ List.Forall₂ Policy.Reordered ps s'.current := by
  have hlater := h.map (g := fun o => (o.policyId, o.revision)) fun p p' hp => by
    obtain ⟨cs, hcs, -, rfl⟩ := hp
    rfl
  have hcurrent : ∀ p p', p.Reordered p' → (IsCurrent s p ↔ IsCurrent s' p') := by
    rintro p p' ⟨cs, hcs, -, rfl⟩
    have hall : ∀ l : List Policy, (∀ o ∈ l, o.policyId = p.policyId → o.revision ≤ p.revision) ↔
        ∀ k ∈ l.map fun o => (o.policyId, o.revision), k.1 = p.policyId → k.2 ≤ p.revision :=
      fun l => by
        rw [List.forall_mem_map]
    unfold IsCurrent
    rw [h.query, hall s.policies]
    refine and_congr_right fun _ => Iff.trans ?_ (hall s'.policies).symm
    exact forall_congr' fun k => imp_congr_left hlater.mem_iff
  obtain ⟨ps, hperm, hall⟩ := h.policies
  rw [current_eq, current_eq]
  refine ⟨_, hperm.filter _, List.rel_filter (fun p p' hp => ?_) hall⟩
  dsimp only
  rw [decide_eq_true_iff, decide_eq_true_iff]
  exact hcurrent p p' hp

/-- The order of rows and candidates does not matter. -/
theorem Reordered.select (h : Reordered s s') :
    (select (some s')).resolution = (select (some s)).resolution ∧
      (select (some s')).hasSelection = (select (some s)).hasSelection ∧
      (select (some s')).selectedInstanceId = (select (some s)).selectedInstanceId := by
  obtain ⟨ps, hperm, hall⟩ := h.current
  by_cases houter : s.outerAvailable = 1
  · rcases hchains : s.policies.any Policy.gap with - | -
    · rcases hcurrent : s.current with - | ⟨p, - | ⟨q, rest⟩⟩
      · rw [hcurrent] at hperm
        obtain rfl := hperm.nil_eq
        cases hcurrent' : s'.current with
        | nil => simp [Fabric.select, h.outer, houter, h.any_gap, hchains, hcurrent, hcurrent']
        | cons p' rest' =>
          rw [hcurrent'] at hall
          cases hall
      · rw [hcurrent] at hperm
        obtain rfl := hperm.singleton_eq
        obtain ⟨p', hp, hcurrent'⟩ : ∃ p', p.Reordered p' ∧ s'.current = [p'] := by
          cases hcurrent' : s'.current with
          | nil =>
            rw [hcurrent'] at hall
            cases hall
          | cons p' rest' =>
            rw [hcurrent'] at hall
            obtain ⟨hp, hnil⟩ := List.forall₂_cons.1 hall
            obtain rfl := List.forall₂_nil_left_iff.1 hnil
            exact ⟨p', hp, rfl⟩
        have hendpoint : p'.endpoint s'.query = p.endpoint s.query := by
          obtain ⟨cs, hcs, -, rfl⟩ := hp
          rw [h.query]
          rfl
        rcases he : p.endpoint s.query with - | endpoint
        · rw [he] at hendpoint
          simp [Fabric.select, h.outer, houter, h.any_gap, hchains, hcurrent, hcurrent', he,
            hendpoint]
        · rw [select_eq_choose houter hchains hcurrent he,
            select_eq_choose (h.outer.trans houter) (h.any_gap.trans hchains) hcurrent'
              (hendpoint.trans he)]
          exact choose_reordered h.toSameRows hp
      · have hlen : s'.current.length = rest.length + 2 := by
          rw [← hall.length_eq, ← hperm.length_eq, hcurrent]
          rfl
        cases hcurrent' : s'.current with
        | nil =>
          rw [hcurrent'] at hlen
          cases hlen
        | cons p' tail =>
          cases tail with
          | nil =>
            rw [hcurrent'] at hlen
            cases hlen
          | cons q' rest' =>
            simp [Fabric.select, h.outer, houter, h.any_gap, hchains, hcurrent, hcurrent']
    · simp [Fabric.select, h.outer, houter, h.any_gap, hchains]
  · simp [Fabric.select, h.outer, houter]

end Policies

/-! ### The choice of a path -/

/-- **Path selection.** What is chosen is the path that comes first among the eligible candidates of
the only current policy, and it is chosen whenever there is one; the order of the policies, of their
candidates, of the registered paths, of the authorities and of the attempts does not matter. -/
theorem path_selection (s : Snapshot) :
    (∀ x, (select (some s)).resolution = .selected ∧ (select (some s)).selectedInstanceId = x ↔
      Chosen s x) ∧
    ∀ s', Reordered s s' →
      (select (some s')).resolution = (select (some s)).resolution ∧
      (select (some s')).hasSelection = (select (some s)).hasSelection ∧
      (select (some s')).selectedInstanceId = (select (some s)).selectedInstanceId :=
  ⟨fun _ => select_eq_selected, fun _ h => h.select⟩

section Sample

/-- An identifier of one byte, repeated. -/
def sampleId (b : UInt8) : Id := Vector.replicate 16 b

def sampleQuery : Query where
  serviceIdentityDigest := Vector.replicate 32 1
  family := 1
  direction := 1
  trafficClass := 1
  sourceRuntimeId := sampleId 2
  targetRuntimeId := sampleId 3
  targetApplicationId := sampleId 4
  packetBytes := 600
  transferBytes := 600
  nowMs := 1000
  deadlineMs := 2000
  deadlineClockEpochId := sampleId 5
  admissionClockEpochId := sampleId 5
  availabilityClockEpochId := sampleId 5
  attestationClockEpochId := sampleId 5
  authorityClockEpochId := sampleId 5
  requiredCapabilityFlags := 0
  requiredSecurityFlags := 0
  requiresSleepCompatible := 0
  requiresCustody := 0
  requiresEvidence := 0
  authenticatedPeerRuntimeId := .zero
  attachmentAuthorityId := .zero
  attachmentBindingDigest := Vector.replicate 32 0
  rfPermitValid := 0
  rfMappingAccepted := 0

def sampleRow (b : UInt8) : RegistryRow where
  instanceId := sampleId b
  linkKind := 1
  directionMask := 1
  capabilityFlags := 0
  securityCapabilityFlags := 0
  maximumPacketBytes := 1925
  maximumTransferBytes := 65536
  latencyClass := 1
  costClass := 1
  reservationCapacity := 4
  lifecycle := 1
  peerNfl1Version := 1
  peerFabricCapabilityFlags := 1
  authenticatedPeerRuntimeId := sampleId 6
  attachmentAuthorityId := sampleId 7
  attachmentBindingDigest := Vector.replicate 32 8
  attestationClockEpochId := sampleId 5
  attestationExpiresAtMs := 5000
  availabilityClockEpochId := sampleId 5
  availabilityState := 1
  availabilityExpiresAtMs := 5000
  rfMappingApproved := 0

/-- A policy with the candidates given. -/
def samplePolicy (candidates : List Candidate) (h : candidates.length ≤ 8) : Policy where
  policyId := sampleId 9
  revision := 2
  canonicalDigest := Vector.replicate 32 9
  serviceIdentityDigest := Vector.replicate 32 1
  family := 1
  direction := 1
  trafficClass := 1
  scopeSelector := 1
  requiredCapabilityFlags := 0
  requiredSecurityFlags := 0
  maximumLatencyClass := 3
  maximumCostClass := 3
  minimumPacketBytes := 0
  authorityMode := 0
  deadlineGuardMs := 100
  candidates := candidates
  candidates_le := h
  revisionChain := [1, 2]
  revisionChain_le := by decide

def sampleAuthority : AuthorityRow where
  serviceIdentityDigest := Vector.replicate 32 1
  family := 1
  direction := 1
  trafficClass := 1
  scopeSelector := 1
  endpointRuntimeId := sampleId 2
  targetRuntimeId := sampleId 3
  targetApplicationId := sampleId 4
  policyId := sampleId 9
  policyRevision := 2
  policyDigest := Vector.replicate 32 9
  authorityState := 0
  authorityClockEpochId := .zero
  leaseExpiresAtMs := 0

/-- A snapshot of one policy and two paths. -/
def sampleSnapshot (policy : Policy) (first second : UInt8) : Snapshot where
  outerAvailable := 1
  query := sampleQuery
  policies := [policy]
  policies_le := Nat.le_add_left 1 3
  registry := [sampleRow first, sampleRow second]
  registry_le := Nat.le_add_left 2 14
  authorities := [sampleAuthority]
  authorities_le := by decide
  activeAttempts := []
  activeAttempts_le := by decide

/-- The path of the lower rank is chosen, wherever it stands. -/
theorem path_selection_swapped :
    (select (some (sampleSnapshot
      (samplePolicy [⟨sampleId 21, 1, 1⟩, ⟨sampleId 20, 2, 1⟩] (by decide)) 21 20))).resolution =
        .selected ∧
    (select (some (sampleSnapshot
      (samplePolicy [⟨sampleId 21, 1, 1⟩, ⟨sampleId 20, 2, 1⟩] (by decide))
        21 20))).selectedInstanceId =
        sampleId 21 := by
  have hswapped : Reordered
      (sampleSnapshot (samplePolicy [⟨sampleId 20, 2, 1⟩, ⟨sampleId 21, 1, 1⟩] (by decide)) 20 21)
      (sampleSnapshot (samplePolicy [⟨sampleId 21, 1, 1⟩, ⟨sampleId 20, 2, 1⟩] (by decide)) 21 20) :=
    ⟨⟨rfl, List.Perm.swap .., List.Perm.refl _, List.Perm.refl _⟩, rfl, _, List.Perm.refl _,
      .cons ⟨_, _, List.Perm.swap .., rfl⟩ .nil⟩
  obtain ⟨hresolution, -, hid⟩ := (path_selection _).2 _ hswapped
  rw [hresolution, hid]
  decide +kernel

end Sample

end Ninlil.Fabric
