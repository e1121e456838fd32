import Ninlil.Resource.Ledger

/-!
# What one capacity transition can do

The validity check of an entry, read as arithmetic on natural numbers (`CapacityEntry.Valid`),
and the inversion of `capacityEntryTransition` (`EntryStep.of_transition`): every accepted
transition is one of eight updates, with the guard it was taken under.  `Evolves` is what all
eight have in common; the batch and run results only use these two.
-/

namespace Ninlil.Resource

/-- Used plus reserved, as a natural number. -/
def CapacityEntry.total (e : CapacityEntry) : ℕ := e.used.toNat + e.reserved.toNat

/-- The invariant that every call re-checks, without machine arithmetic. -/
structure CapacityEntry.Valid (e : CapacityEntry) : Prop where
  kind_known : resourceKindIsKnown e.kind = true
  blocked_le : e.blocked = 0 ∨ e.blocked = 1
  marker_le : e.counterExhaustedMarker = 0 ∨ e.counterExhaustedMarker = 1
  epoch_ne : e.capacityEpoch ≠ 0
  total_le : e.total ≤ e.highWater.toNat
  high_le : e.highWater.toNat ≤ e.limit.toNat
  marker_epoch : e.counterExhaustedMarker = 1 → e.capacityEpoch = uint64Max ∧ e.blocked = 0

theorem uint64_toNat_max : uint64Max.toNat = 2 ^ 64 - 1 := rfl

theorem uint32_le_one_iff {x : UInt32} : x ≤ 1 ↔ x = 0 ∨ x = 1 := by
  simp only [UInt32.le_iff_toNat_le, ← UInt32.toNat_inj, UInt32.toNat_ofNat]
  omega

variable {e : CapacityEntry}

theorem checkedTotal_eq_some {t : UInt64} :
    checkedTotal e = some t ↔ e.total < 2 ^ 64 ∧ t.toNat = e.total := by
  have hu := e.used.toNat_lt
  have hr := e.reserved.toNat_lt
  unfold checkedTotal CapacityEntry.total
  split_ifs with h <;> rw [uint64_toNat_max] at h
  · simp only [false_iff]
    omega
  · simp only [Option.some.injEq, ← UInt64.toNat_inj, UInt64.toNat_add]
    omega

theorem checkedTotal_eq_none : checkedTotal e = none ↔ 2 ^ 64 ≤ e.total := by
  cases h : checkedTotal e with
  | none =>
    simp only [true_iff]
    by_contra hlt
    have := (checkedTotal_eq_some (e := e) (t := UInt64.ofNat e.total)).2
      ⟨by omega, by rw [UInt64.toNat_ofNat']; exact Nat.mod_eq_of_lt (by omega)⟩
    rw [h] at this
    cases this
  | some t =>
    have := (checkedTotal_eq_some.1 h).1
    simp only [reduceCtorEq, false_iff]
    omega

theorem capacityEntryIsValid_iff :
    capacityEntryIsValid e = true ↔ e.Valid := by
  unfold capacityEntryIsValid
  cases ht : checkedTotal e with
  | none =>
    have h1 := checkedTotal_eq_none.1 ht
    have h2 := e.limit.toNat_lt
    simp only [Bool.false_eq_true, false_iff]
    intro hv
    have := hv.total_le
    have := hv.high_le
    omega
  | some t =>
    obtain ⟨hlt, hte⟩ := checkedTotal_eq_some.1 ht
    simp only [decide_eq_true_eq, uint32_le_one_iff, UInt64.le_iff_toNat_le, hte]
    constructor
    · rintro ⟨h1, h2, h3, h4, h5, h6, h7, h8⟩
      refine ⟨h1, h2, h3, h4, h6, h7, fun h => ?_⟩
      rcases h8 with h8 | h8
      · rw [h8] at h; exact absurd h (by decide)
      · exact h8
    · intro hv
      refine ⟨hv.kind_known, hv.blocked_le, hv.marker_le, hv.epoch_ne,
        hv.total_le.trans hv.high_le, hv.total_le, hv.high_le, ?_⟩
      rcases hv.marker_le with h | h
      · exact .inl h
      · exact .inr (hv.marker_epoch h)

/-- Everything an accepted transition can be, with the guard it was taken under. -/
inductive EntryStep (input : TransitionInput) : TransitionResult → Prop
  | counterExhausted (hop : input.operation = .reserveOrBlock)
      (hm : input.current.counterExhaustedMarker = 1) :
      EntryStep input { next := input.current, action := .counterExhausted }
  | reserved (hop : input.operation = .reserveOrBlock)
      (hm : input.current.counterExhaustedMarker = 0)
      (hfit : input.current.total + input.amount.toNat ≤ input.current.limit.toNat)
      (hw : UInt64)
      (hhw : hw.toNat =
        max input.current.highWater.toNat (input.current.total + input.amount.toNat)) :
      EntryStep input
        { next :=
            { input.current with
              reserved := input.current.reserved + input.amount
              highWater := hw }
          action := .reserved }
  | blockSet (hop : input.operation = .reserveOrBlock)
      (hm : input.current.counterExhaustedMarker = 0)
      (hfull : input.current.limit.toNat < input.current.total + input.amount.toNat)
      (hb : input.current.blocked = 0) :
      EntryStep input { next := { input.current with blocked := 1 }, action := .blockSetRequired }
  | alreadyBlocked (hop : input.operation = .reserveOrBlock)
      (hm : input.current.counterExhaustedMarker = 0)
      (hfull : input.current.limit.toNat < input.current.total + input.amount.toNat)
      (hb : input.current.blocked = 1) :
      EntryStep input { next := input.current, action := .alreadyBlocked }
  | committed (hop : input.operation = .commitReserved)
      (hle : input.amount.toNat ≤ input.current.reserved.toNat) :
      EntryStep input
        { next :=
            { input.current with
              reserved := input.current.reserved - input.amount
              used := input.current.used + input.amount }
          action := .committed }
  | released (hop : input.operation = .release)
      (hu : input.usedRelease.toNat ≤ input.current.used.toNat)
      (hr : input.reservedRelease.toNat ≤ input.current.reserved.toNat) :
      EntryStep input
        { next :=
            { input.current with
              used := input.current.used - input.usedRelease
              reserved := input.current.reserved - input.reservedRelease }
          action := .released }
  | unblocked (hop : input.operation = .release)
      (hu : input.usedRelease.toNat ≤ input.current.used.toNat)
      (hr : input.reservedRelease.toNat ≤ input.current.reserved.toNat)
      (hb : input.current.blocked = 1) (he : input.current.capacityEpoch ≠ uint64Max) :
      EntryStep input
        { next :=
            { input.current with
              used := input.current.used - input.usedRelease
              reserved := input.current.reserved - input.reservedRelease
              blocked := 0
              capacityEpoch := input.current.capacityEpoch + 1 }
          action := .releasedAndUnblocked }
  | epochExhausted (hop : input.operation = .release)
      (hu : input.usedRelease.toNat ≤ input.current.used.toNat)
      (hr : input.reservedRelease.toNat ≤ input.current.reserved.toNat)
      (hb : input.current.blocked = 1) (he : input.current.capacityEpoch = uint64Max) :
      EntryStep input
        { next :=
            { input.current with
              used := input.current.used - input.usedRelease
              reserved := input.current.reserved - input.reservedRelease
              blocked := 0
              counterExhaustedMarker := 1 }
          action := .releasedEpochExhausted
          counterExhaustedMarkerNewlySet := 1 }

theorem eq_one_of_bne {x : UInt32} (hx : x = 0 ∨ x = 1) (h : (x != 0) = true) : x = 1 := by
  rcases hx with h0 | h1
  · simp [h0] at h
  · exact h1

variable {input : TransitionInput} {r : TransitionResult}

theorem EntryStep.of_reserveOrBlock
    (hv : input.current.Valid) (hop : input.operation = .reserveOrBlock)
    (h : reserveOrBlock input = .ok r) : EntryStep input r := by
  have hlim := input.current.limit.toNat_lt
  have ht := hv.total_le
  have hh := hv.high_le
  unfold reserveOrBlock at h
  dsimp only at h
  by_cases hm : (input.current.counterExhaustedMarker != 0) = true
  · rw [if_pos hm] at h
    cases h
    exact .counterExhausted hop (eq_one_of_bne hv.marker_le hm)
  · rw [if_neg hm] at h
    have hm0 : input.current.counterExhaustedMarker = 0 := by simpa using hm
    cases htot : checkedTotal input.current with
    | none =>
      have := checkedTotal_eq_none.1 htot
      omega
    | some t =>
      obtain ⟨-, hte⟩ := checkedTotal_eq_some.1 htot
      have hsub : (input.current.limit - t).toNat = input.current.limit.toNat - t.toNat :=
        UInt64.toNat_sub_of_le _ _ (by rw [UInt64.le_iff_toNat_le]; omega)
      simp only [htot, UInt64.le_iff_toNat_le, hsub] at h
      by_cases hfit : input.amount.toNat ≤ input.current.limit.toNat - t.toNat
      · rw [if_pos hfit] at h
        have hadd : (t + input.amount).toNat = t.toNat + input.amount.toNat := by
          rw [UInt64.toNat_add, Nat.mod_eq_of_lt]; omega
        cases h
        refine .reserved hop hm0 (by omega) _ ?_
        split_ifs with hhw <;> rw [UInt64.lt_iff_toNat_lt, hadd] at hhw <;> omega
      · rw [if_neg hfit] at h
        by_cases hb : (input.current.blocked == 0) = true
        · rw [if_pos hb] at h
          cases h
          exact .blockSet hop hm0 (by omega) (by simpa using hb)
        · rw [if_neg hb] at h
          cases h
          exact .alreadyBlocked hop hm0 (by omega)
            (eq_one_of_bne hv.blocked_le (by simpa using hb))

theorem EntryStep.of_commitReserved
    (hop : input.operation = .commitReserved) (h : commitReserved input = .ok r) :
    EntryStep input r := by
  simp only [commitReserved, gt_iff_lt, UInt64.lt_iff_toNat_lt] at h
  split_ifs at h with hr
  cases h
  exact .committed hop (by omega)

theorem EntryStep.of_releaseCapacity
    (hv : input.current.Valid) (hop : input.operation = .release)
    (h : releaseCapacity input = .ok r) : EntryStep input r := by
  simp only [releaseCapacity, gt_iff_lt, UInt64.lt_iff_toNat_lt, Bool.or_eq_true,
    decide_eq_true_eq, Bool.and_eq_true, beq_iff_eq] at h
  split_ifs at h with hr hb he
  · cases h
    exact .epochExhausted hop (by omega) (by omega) (eq_one_of_bne hv.blocked_le hb.1) he
  · cases h
    exact .unblocked hop (by omega) (by omega) (eq_one_of_bne hv.blocked_le hb.1) he
  · cases h
    exact .released hop (by omega) (by omega)

/-- **Inversion of the entry transition.** -/
theorem EntryStep.of_transition
    (h : capacityEntryTransition input = .ok r) : input.current.Valid ∧ EntryStep input r := by
  unfold capacityEntryTransition at h
  split_ifs at h with hshape hvalid
  have hv : input.current.Valid := capacityEntryIsValid_iff.1 (by simpa using hvalid)
  refine ⟨hv, ?_⟩
  cases hop : input.operation with
  | reserveOrBlock => exact .of_reserveOrBlock hv hop (by simpa only [hop] using h)
  | commitReserved => exact .of_commitReserved hop (by simpa only [hop] using h)
  | release => exact .of_releaseCapacity hv hop (by simpa only [hop] using h)
  | unknown code => simp [hop] at h

/-! ### What every transition keeps -/

/-- What every accepted transition keeps: the entry stays valid, its kind and limit are fixed,
the high-water mark absorbs the new total, the epoch moves only when a blocked entry opens, and
the exhausted marker is never cleared. -/
structure Evolves (e e' : CapacityEntry) : Prop where
  valid : e'.Valid
  kind_eq : e'.kind = e.kind
  limit_eq : e'.limit = e.limit
  high_eq : e'.highWater.toNat = max e.highWater.toNat e'.total
  epoch_open : e.blocked = 1 → e'.blocked = 0 → e.capacityEpoch ≠ uint64Max →
    e'.capacityEpoch.toNat = e.capacityEpoch.toNat + 1
  epoch_exhausted : e.blocked = 1 → e'.blocked = 0 → e.capacityEpoch = uint64Max →
    e'.capacityEpoch = e.capacityEpoch ∧ e'.counterExhaustedMarker = 1
  epoch_keep : ¬ (e.blocked = 1 ∧ e'.blocked = 0) →
    e'.capacityEpoch = e.capacityEpoch ∧ e'.counterExhaustedMarker = e.counterExhaustedMarker
  marker_keep : e.counterExhaustedMarker = 1 → e'.counterExhaustedMarker = 1

/-- A step that leaves the flags alone only has to account for the amounts. -/
theorem Evolves.of_amounts (hv : e.Valid) {used reserved hw : UInt64}
    (hhw : hw.toNat = max e.highWater.toNat (used.toNat + reserved.toNat))
    (hle : used.toNat + reserved.toNat ≤ e.limit.toNat) :
    Evolves e { e with used := used, reserved := reserved, highWater := hw } where
  valid :=
    { hv with
      total_le := by rw [hhw]; exact le_max_right _ _
      high_le := by rw [hhw]; exact max_le hv.high_le hle }
  kind_eq := rfl
  limit_eq := rfl
  high_eq := hhw
  epoch_open h1 h0 := by rw [show e.blocked = 0 from h0] at h1; cases h1
  epoch_exhausted h1 h0 := by rw [show e.blocked = 0 from h0] at h1; cases h1
  epoch_keep _ := ⟨rfl, rfl⟩
  marker_keep h := h

theorem Evolves.refl (hv : e.Valid) : Evolves e e :=
  .of_amounts hv (max_eq_left hv.total_le).symm (hv.total_le.trans hv.high_le)

theorem toNat_sub_of_toNat_le {a b : UInt64} (h : b.toNat ≤ a.toNat) :
    (a - b).toNat = a.toNat - b.toNat :=
  UInt64.toNat_sub_of_le _ _ (UInt64.le_iff_toNat_le.2 h)

theorem toNat_add_of_toNat_lt {a b : UInt64} (h : a.toNat + b.toNat < 2 ^ 64) :
    (a + b).toNat = a.toNat + b.toNat := by
  rw [UInt64.toNat_add, Nat.mod_eq_of_lt h]

theorem toNat_succ_of_ne_max {a : UInt64} (h : a ≠ uint64Max) :
    (a + 1).toNat = a.toNat + 1 := by
  have hlt := a.toNat_lt
  have hne : a.toNat ≠ 2 ^ 64 - 1 := fun hm => h (UInt64.toNat_inj.1 hm)
  exact toNat_add_of_toNat_lt (by rw [UInt64.toNat_one]; omega)

theorem Evolves.of_step
    (hv : input.current.Valid) (h : EntryStep input r) : Evolves input.current r.next := by
  have ht := hv.total_le
  have hh := hv.high_le
  have hlim := input.current.limit.toNat_lt
  have htot : input.current.total = input.current.used.toNat + input.current.reserved.toNat := rfl
  cases h with
  | counterExhausted | alreadyBlocked => exact .refl hv
  | reserved hop hm hfit hw hhw =>
    have hadd : (input.current.reserved + input.amount).toNat =
        input.current.reserved.toNat + input.amount.toNat :=
      toNat_add_of_toNat_lt (by omega)
    exact .of_amounts hv (by rw [hhw, hadd, htot, Nat.add_assoc]) (by omega)
  | committed hop hle =>
    -- a commit moves reserved units to used: the total does not change
    have hadd : (input.current.used + input.amount).toNat =
        input.current.used.toNat + input.amount.toNat :=
      toNat_add_of_toNat_lt (by omega)
    have hsub := toNat_sub_of_toNat_le hle
    exact .of_amounts hv (by rw [hadd, hsub]; omega) (by omega)
  | released hop hu hr =>
    have hsu := toNat_sub_of_toNat_le hu
    have hsr := toNat_sub_of_toNat_le hr
    exact .of_amounts hv (by rw [hsu, hsr]; omega) (by omega)
  | blockSet hop hm hfull hb =>
    exact
      { valid :=
          { hv with
            blocked_le := .inr rfl
            marker_epoch := fun h1 => by rw [show _ = _ from h1] at hm; cases hm }
        kind_eq := rfl
        limit_eq := rfl
        high_eq := (max_eq_left ht).symm
        epoch_open := fun _ h0 => by cases h0
        epoch_exhausted := fun _ h0 => by cases h0
        epoch_keep := fun _ => ⟨rfl, rfl⟩
        marker_keep := fun h => h }
  | unblocked hop hu hr hb he =>
    have hle : (input.current.used - input.usedRelease).toNat +
        (input.current.reserved - input.reservedRelease).toNat ≤
          input.current.highWater.toNat := by
      rw [toNat_sub_of_toNat_le hu, toNat_sub_of_toNat_le hr]; omega
    have hsucc := toNat_succ_of_ne_max he
    exact
      { valid :=
          { kind_known := hv.kind_known
            blocked_le := .inl rfl
            marker_le := hv.marker_le
            epoch_ne := fun h0 => by
              have h0' := congrArg UInt64.toNat h0
              simp only [hsucc, UInt64.toNat_zero] at h0'
              omega
            total_le := hle
            high_le := hh
            marker_epoch := fun h1 => absurd (hv.marker_epoch h1).1 he }
        kind_eq := rfl
        limit_eq := rfl
        high_eq := (max_eq_left hle).symm
        epoch_open := fun _ _ _ => hsucc
        epoch_exhausted := fun _ _ h => absurd h he
        epoch_keep := fun hn => absurd ⟨hb, rfl⟩ hn
        marker_keep := fun h => h }
  | epochExhausted hop hu hr hb he =>
    have hle : (input.current.used - input.usedRelease).toNat +
        (input.current.reserved - input.reservedRelease).toNat ≤
          input.current.highWater.toNat := by
      rw [toNat_sub_of_toNat_le hu, toNat_sub_of_toNat_le hr]; omega
    exact
      { valid := ⟨hv.kind_known, .inl rfl, .inr rfl, hv.epoch_ne, hle, hh, fun _ => ⟨he, rfl⟩⟩
        kind_eq := rfl
        limit_eq := rfl
        high_eq := (max_eq_left hle).symm
        epoch_open := fun _ _ hne => absurd he hne
        epoch_exhausted := fun _ _ _ => ⟨rfl, rfl⟩
        epoch_keep := fun hn => absurd ⟨hb, rfl⟩ hn
        marker_keep := fun _ => rfl }

theorem Evolves.of_transition
    (h : capacityEntryTransition input = .ok r) : Evolves input.current r.next :=
  have ⟨hv, hstep⟩ := EntryStep.of_transition h
  .of_step hv hstep

end Ninlil.Resource
