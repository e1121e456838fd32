import Ninlil.Lib.Epochs
import Ninlil.RuntimeStore.SecondBoot

/-!
# Identity rotation

The order behind `decideIdentity`.  The device is fixed; the installation and the site each carry
an epoch of their own, and each may stay as it is or move to a later epoch.

* `installationPart`, `sitePart`: the two parts that rotate;
* `Follows`: the product order, and `follows_antisymm`;
* `decideIdentity_eq`: the decision is read off this order;
* `identity_rotation`: the order of the decisions, and what holds over any restarts.
-/

namespace Ninlil.RuntimeStore

open Resource Epochs

/-- What rotates with the binding epoch. -/
def installationPart (identity : StoreIdentity) : Id128 × ℕ :=
  (identity.installationId, identity.bindingEpoch.toNat)

/-- What rotates with the membership epoch. -/
def sitePart (identity : StoreIdentity) : Id128 × ℕ :=
  (identity.siteDomainId, identity.membershipEpoch.toNat)

variable {a b c : StoreIdentity}

/-! ### Valid identities -/

theorem flags_lt_eight {flags : UInt32} (h : flags &&& ~~~knownIdentityFlags = 0) :
    flags.toNat < 8 := by
  have hall : (7 : ℕ) ||| (~~~knownIdentityFlags).toNat = 2 ^ 32 - 1 := by decide
  have hzero : flags.toNat &&& (~~~knownIdentityFlags).toNat = 0 := by
    rw [← UInt32.toNat_and, h, UInt32.toNat_zero]
  have heq : flags.toNat &&& 7 = flags.toNat := by
    calc flags.toNat &&& 7
        = flags.toNat &&& 7 ||| flags.toNat &&& (~~~knownIdentityFlags).toNat := by
          rw [hzero, Nat.or_zero]
      _ = flags.toNat &&& (2 ^ 32 - 1) := by rw [← Nat.and_or_distrib_left, hall]
      _ = flags.toNat := by rw [Nat.and_two_pow_sub_one_eq_mod, Nat.mod_eq_of_lt flags.toNat_lt]
  rw [← heq]
  exact lt_of_le_of_lt Nat.and_le_right (by decide)

theorem flags_cases : ∀ n : Fin 8, (UInt32.ofNat n.val &&& hasDevice != 0) = true →
    (UInt32.ofNat n.val &&& hasSite != 0) = true →
    UInt32.ofNat n.val = if (UInt32.ofNat n.val &&& hasInstallation != 0) = true then 7 else 5 := by
  decide

/-- The flags of a valid identity say only whether it names an installation. -/
theorem flags_of_valid (h : identityIsValid a = true) :
    a.flags = if idIsNonzero a.installationId = true then 7 else 5 := by
  simp only [identityIsValid, Bool.and_eq_true, beq_iff_eq] at h
  obtain ⟨⟨⟨⟨⟨⟨⟨hknown, hdevice⟩, hsite⟩, -⟩, hinst⟩, -⟩, -⟩, -⟩ := h
  have hcases := flags_cases ⟨a.flags.toNat, flags_lt_eight hknown⟩
  simp only [UInt32.ofNat_toNat] at hcases
  rw [← hinst]
  exact hcases hdevice hsite

/-- Valid identities with the same device and the same parts are the same. -/
theorem identity_ext (ha : identityIsValid a = true) (hb : identityIsValid b = true)
    (hd : a.deviceId = b.deviceId) (hi : installationPart a = installationPart b)
    (hs : sitePart a = sitePart b) : a = b := by
  have hfa := flags_of_valid ha
  have hfb := flags_of_valid hb
  simp only [installationPart, sitePart, Prod.mk.injEq, UInt64.toNat_inj] at hi hs
  rw [hi.1, ← hfb] at hfa
  cases a
  cases b
  simp only at hfa hd hi hs
  simp only [hfa, hd, hi, hs]

/-! ### The product order -/

/-- `b` may be stored over `a`: the same device, and each part is kept or moved to a later
epoch. -/
structure Follows (a b : StoreIdentity) : Prop where
  valid_left : identityIsValid a = true
  valid_right : identityIsValid b = true
  device_eq : a.deviceId = b.deviceId
  installation : Supersedes Prod.snd (installationPart a) (installationPart b)
  site : Supersedes Prod.snd (sitePart a) (sitePart b)

theorem follows_refl (h : identityIsValid a = true) : Follows a a :=
  ⟨h, h, rfl, supersedes_refl _ _, supersedes_refl _ _⟩

theorem follows_trans (hab : Follows a b) (hbc : Follows b c) : Follows a c where
  valid_left := hab.valid_left
  valid_right := hbc.valid_right
  device_eq := hab.device_eq.trans hbc.device_eq
  installation := supersedes_trans _ hab.installation hbc.installation
  site := supersedes_trans _ hab.site hbc.site

theorem follows_antisymm (hab : Follows a b) (hba : Follows b a) : a = b :=
  identity_ext hab.valid_left hab.valid_right hab.device_eq
    (supersedes_antisymm _ hab.installation hba.installation)
    (supersedes_antisymm _ hab.site hba.site)

/-! ### The decision -/

variable {stored : ValidatedSnapshot}

/-- Two valid identities both have the device and the site flag. -/
theorem flags_device_site (ha : identityIsValid a = true) (hb : identityIsValid b = true) :
    a.flags &&& hasDevice = b.flags &&& hasDevice ∧
      a.flags &&& hasSite = b.flags &&& hasSite := by
  rw [flags_of_valid ha, flags_of_valid hb]
  split_ifs <;> decide

theorem installationExact_iff (ha : identityIsValid a = true) (hb : identityIsValid b = true) :
    (a.flags &&& hasInstallation == b.flags &&& hasInstallation
      && idIsEqual a.installationId b.installationId && a.bindingEpoch == b.bindingEpoch) = true ↔
      installationPart a = installationPart b := by
  simp only [Bool.and_eq_true, beq_iff_eq, idIsEqual_iff, installationPart, Prod.mk.injEq,
    UInt64.toNat_inj]
  constructor
  · rintro ⟨⟨-, h1⟩, h2⟩
    exact ⟨h1, h2⟩
  · rintro ⟨h1, h2⟩
    exact ⟨⟨by rw [flags_of_valid ha, flags_of_valid hb, h1], h1⟩, h2⟩

theorem siteExact_iff (ha : identityIsValid a = true) (hb : identityIsValid b = true) :
    (a.flags &&& hasSite == b.flags &&& hasSite && idIsEqual a.siteDomainId b.siteDomainId
      && a.membershipEpoch == b.membershipEpoch) = true ↔ sitePart a = sitePart b := by
  simp only [(flags_device_site ha hb).2, beq_self_eq_true, Bool.true_and, Bool.and_eq_true,
    beq_iff_eq, idIsEqual_iff, sitePart, Prod.mk.injEq, UInt64.toNat_inj]

/-- A part that is not kept moves forward exactly when its epoch does. -/
theorem supersedes_iff_not {x y : Id128 × ℕ} :
    Supersedes Prod.snd x y ↔ ¬ (x ≠ y ∧ y.2 ≤ x.2) := by
  unfold Supersedes
  by_cases h : x = y
  · simp [h]
  · simp [h]

open Classical in
/-- **The decision, read off the order.** -/
theorem decideIdentity_eq (ha : identityIsValid stored.identity = true)
    (hb : identityIsValid b = true) :
    decideIdentity stored b =
      if stored.identity = b then .ok .exact
      else if Follows stored.identity b then .ok .forwardRotation else .ok .conflict := by
  have hI := installationExact_iff ha hb
  have hS := siteExact_iff ha hb
  simp only [decideIdentity, ha, hb, (flags_device_site ha hb).1, ne_eq, not_true_eq_false,
    false_or, Bool.true_eq_false, or_self, if_false]
  by_cases hd : stored.identity.deviceId = b.deviceId
  · rw [if_neg (by rw [idIsEqual_iff.2 hd]; decide)]
    by_cases hboth : installationPart stored.identity = installationPart b ∧
        sitePart stored.identity = sitePart b
    · rw [if_pos ⟨hI.2 hboth.1, hS.2 hboth.2⟩, if_pos (identity_ext ha hb hd hboth.1 hboth.2)]
    · have hne : stored.identity ≠ b := fun h => hboth (by rw [h]; exact ⟨rfl, rfl⟩)
      have hfollows : ¬ Follows stored.identity b ↔
          (installationPart stored.identity ≠ installationPart b ∧
              b.bindingEpoch ≤ stored.identity.bindingEpoch) ∨
            (sitePart stored.identity ≠ sitePart b ∧
              b.membershipEpoch ≤ stored.identity.membershipEpoch) := by
        rw [UInt64.le_iff_toNat_le, UInt64.le_iff_toNat_le, ← not_iff_not, not_not, not_or]
        exact ⟨fun h => ⟨supersedes_iff_not.1 h.installation, supersedes_iff_not.1 h.site⟩,
          fun h => ⟨ha, hb, hd, supersedes_iff_not.2 h.1, supersedes_iff_not.2 h.2⟩⟩
      rw [if_neg (fun h => hboth ⟨hI.1 h.1, hS.1 h.2⟩), if_neg hne]
      simp only [← Bool.not_eq_true, hI, hS, ← ne_eq, ← hfollows, ite_not]
  · have hne : stored.identity ≠ b := fun h => hd (by rw [h])
    rw [if_pos (by rw [← Bool.not_eq_true, idIsEqual_iff]; exact hd), if_neg hne,
      if_neg (fun h => hd h.device_eq)]

/-! ### Accepted requests -/

/-- The request is answered with EXACT or with FORWARD_ROTATION. -/
def IdentityAccepted (stored : ValidatedSnapshot) (requested : StoreIdentity) : Prop :=
  decideIdentity stored requested = .ok .exact ∨
    decideIdentity stored requested = .ok .forwardRotation

theorem valid_of_decided {d : IdentityDecision} (h : decideIdentity stored b = .ok d) :
    identityIsValid stored.identity = true ∧ identityIsValid b = true := by
  unfold decideIdentity at h
  simp only at h
  by_cases hv : identityIsValid stored.identity = false ∨ identityIsValid b = false
  · rw [if_pos hv] at h
    cases h
  · simpa using hv

theorem accepted_iff : IdentityAccepted stored b ↔ Follows stored.identity b := by
  constructor
  · intro h
    obtain ⟨ha, hb⟩ : identityIsValid stored.identity = true ∧ identityIsValid b = true := by
      rcases h with h | h <;> exact valid_of_decided h
    rw [IdentityAccepted, decideIdentity_eq ha hb] at h
    split_ifs at h with heq hfol
    · rw [← heq]
      exact follows_refl ha
    · exact hfol
    · simp at h
  · intro h
    rw [IdentityAccepted, decideIdentity_eq h.valid_left h.valid_right]
    split_ifs with heq
    · exact .inl rfl
    · exact .inr rfl

theorem rotates_iff : decideIdentity stored b = .ok .forwardRotation ↔
    Follows stored.identity b ∧ stored.identity ≠ b := by
  constructor
  · intro h
    refine ⟨accepted_iff.1 (.inr h), fun heq => ?_⟩
    obtain ⟨ha, hb⟩ := valid_of_decided h
    rw [decideIdentity_eq ha hb, if_pos heq] at h
    simp at h
  · rintro ⟨h, hne⟩
    rw [decideIdentity_eq h.valid_left h.valid_right, if_neg hne, if_pos h]

/-! ### Restarts -/

/-- One restart: an accepted request becomes the stored identity, any other leaves it.  The rest
of the snapshot may be anything. -/
def Restart (s : ValidatedSnapshot) (requested : StoreIdentity) (s' : ValidatedSnapshot) : Prop :=
  (IdentityAccepted s requested → s'.identity = requested) ∧
    (¬ IdentityAccepted s requested → s'.identity = s.identity)

/-- Kept, or followed. -/
def Succeeds (a b : StoreIdentity) : Prop := a = b ∨ Follows a b

theorem succeeds_trans (a b c : StoreIdentity) (hab : Succeeds a b) (hbc : Succeeds b c) :
    Succeeds a c := by
  rcases hab with rfl | hab
  · exact hbc
  · rcases hbc with rfl | hbc
    · exact .inr hab
    · exact .inr (follows_trans hab hbc)

theorem succeeds_antisymm (a b : StoreIdentity) (hab : Succeeds a b) (hba : Succeeds b a) :
    a = b := by
  rcases hab with h | hab
  · exact h
  · rcases hba with h | hba
    · exact h.symm
    · exact follows_antisymm hab hba

theorem succeeds_of_restart {s s' : ValidatedSnapshot} {requested : StoreIdentity}
    (h : Restart s requested s') : Succeeds s.identity s'.identity := by
  by_cases hacc : IdentityAccepted s requested
  · rw [h.1 hacc]
    exact .inr (accepted_iff.1 hacc)
  · exact .inl (h.2 hacc).symm

/-- What a succeeding identity keeps of the earlier one. -/
theorem Succeeds.keeps (h : Succeeds a b) :
    b.deviceId = a.deviceId ∧ a.bindingEpoch ≤ b.bindingEpoch ∧
      a.membershipEpoch ≤ b.membershipEpoch := by
  simp only [UInt64.le_iff_toNat_le]
  rcases h with rfl | h
  · exact ⟨rfl, le_rfl, le_rfl⟩
  · exact ⟨h.device_eq.symm, epoch_le Prod.snd h.installation, epoch_le Prod.snd h.site⟩

/-- **Identity rotation cannot be rolled back.**  Read as a relation from the stored identity to
the requested one, acceptance is a partial order on valid identities, and forward rotation its
strict part.  Over any restarts the device is fixed and neither epoch goes back, and from the
moment an identity has been replaced, that identity and all before it are refused. -/
theorem identity_rotation :
    (∀ s : ValidatedSnapshot, identityIsValid s.identity = true → IdentityAccepted s s.identity) ∧
      (∀ s t : ValidatedSnapshot, ∀ c, IdentityAccepted s t.identity → IdentityAccepted t c →
        IdentityAccepted s c) ∧
      (∀ s t : ValidatedSnapshot, IdentityAccepted s t.identity → IdentityAccepted t s.identity →
        s.identity = t.identity) ∧
      (∀ s : ValidatedSnapshot, decideIdentity s s.identity ≠ .ok .forwardRotation) ∧
      (∀ s t : ValidatedSnapshot, ∀ c, decideIdentity s t.identity = .ok .forwardRotation →
        decideIdentity t c = .ok .forwardRotation → decideIdentity s c = .ok .forwardRotation) ∧
      ∀ (N : ℕ) (s : ℕ → ValidatedSnapshot) (requested : ℕ → StoreIdentity),
        (∀ k < N, Restart (s k) (requested k) (s (k + 1))) →
        (∀ m n, m ≤ n → n ≤ N → (s n).identity.deviceId = (s m).identity.deviceId ∧
          (s m).identity.bindingEpoch ≤ (s n).identity.bindingEpoch ∧
          (s m).identity.membershipEpoch ≤ (s n).identity.membershipEpoch) ∧
        ∀ l m n, l ≤ m → m ≤ n → n ≤ N → (s m).identity ≠ (s n).identity →
          ¬ IdentityAccepted (s N) (s l).identity := by
  refine ⟨fun s hs => .inl (decideIdentity_self hs), fun s t c hst htc => ?_,
    fun s t hst hts => ?_, fun s h => ?_, fun s t c hst htc => ?_, fun N s requested hrun => ?_⟩
  · exact accepted_iff.2 (follows_trans (accepted_iff.1 hst) (accepted_iff.1 htc))
  · exact follows_antisymm (accepted_iff.1 hst) (accepted_iff.1 hts)
  · exact (rotates_iff.1 h).2 rfl
  · obtain ⟨h1, hne⟩ := rotates_iff.1 hst
    obtain ⟨h2, -⟩ := rotates_iff.1 htc
    refine rotates_iff.2 ⟨follows_trans h1 h2, fun heq => ?_⟩
    -- a rotation back to `s` would have to follow it
    rw [← heq] at h2
    exact hne (follows_antisymm h1 h2)
  · have hchain : ∀ m n, m ≤ n → n ≤ N → Succeeds (s m).identity (s n).identity :=
      fun m n hmn hn => chain_le (x := fun k => (s k).identity) (fun k _ => .inl rfl)
        succeeds_trans (fun k hk => succeeds_of_restart (hrun k hk)) hmn hn
    refine ⟨fun m n hmn hn => (hchain m n hmn hn).keeps, fun l m n hlm hmn hn hne hacc => ?_⟩
    exact no_return (x := fun k => (s k).identity) succeeds_trans succeeds_antisymm hchain hlm hmn
      hn hne (.inr (accepted_iff.1 hacc))

end Ninlil.RuntimeStore
