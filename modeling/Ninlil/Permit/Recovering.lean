import Ninlil.Permit.Presenting

/-!
# The permit authority: the effect of publishing and of recovering

* `ends_publishInitialMeta`: the first meta record is stored, and RAM takes its fences;
* `ends_recoverStorage`: RAM takes the fences of the meta record, those of the clock with them;
* `ends_recoverClock`: the clock fence goes under an epoch that neither RAM nor disk knows;
* `ends_recover`: one after the other.
-/

namespace Ninlil.Permit

open Outcomes

section Recovering

variable {s s' s1 s2 : St} {t : TimeSample}

/-! ### Publishing -/

theorem ends_scanned {β : Type} {tx : Namespace} {k : Scan → Op β} {R : β → St → Prop}
    {E : Status → St → Prop} (h : InTxn s tx s') (hfail : ∀ st s'', Quiet s s'' → E st s'')
    (hk : ∀ s'', InTxn s tx s'' → Ends (k (scanOf tx.info tx.rows)) s'' R E) :
    Ends (orRollback scanNamespace >>= k) s' R E := by
  refine Ends.andThen (ends_orRollback (h.reads reads_scanNamespace))
    (fun st s'' hq => hfail st s'' hq.1) ?_
  rintro scan s2 ⟨h2, rfl, -⟩
  exact hk s2 h2

theorem InTxn.checked {tx : Namespace} (h : InTxn s tx s') (c : Bool) (st : Status) :
    Ends (orRollback (Outcomes.require c st)) s' (fun _ s'' => InTxn s tx s'' ∧ c = true)
      fun _ s'' => Quiet s s'' :=
  (ends_orRollback (h.require c st)).mono (fun _ _ h => h) fun _ _ h => h.1

theorem ends_publishScan : Ends publishScan s (fun _ s' => Same s s') fun _ s' => Quiet s s' := by
  refine Ends.andThen ends_begin (fun _ _ h => h.1) ?_
  rintro - s1 ⟨hs1, htxn1⟩
  refine ends_scanned ⟨hs1, htxn1⟩ (fun _ _ hq => hq) ?_
  intro s2 h2
  refine Ends.bind (h2.checked _ _) ?_
  rintro - s3 ⟨h3, -⟩
  refine Ends.andThen (ends_orRollback (h3.reads (reads_requireSound _))) (fun _ _ hq => hq.1) ?_
  rintro - s4 ⟨h4, -⟩
  exact h4.rollback.mono (fun _ _ h => h) fun _ _ h => h.1

/-- The first meta record is stored in an empty namespace. -/
theorem ends_publishPut {m : Meta} (hm : FirstMeta m) (h : Moves s s') :
    Ends (publishPut m) s'
      (fun _ s'' => ∃ tx, Committed s'.disk (.publish m) tx ∧ tx.info = some m ∧ Stored s' tx s'')
      fun _ s'' => Moves s s'' := by
  refine Ends.andThen ends_begin (fun _ _ hq => h.quiet hq.1) ?_
  rintro - s1 ⟨hs1, htxn1⟩
  refine ends_scanned ⟨hs1, htxn1⟩ (fun _ _ hq => h.quiet hq) ?_
  intro s2 h2
  refine Ends.andThen (h2.checked _ _) (fun _ _ hq => h.quiet hq) ?_
  rintro - s3 ⟨h3, hempty⟩
  rw [Bool.and_eq_true, Option.isNone_iff_eq_none, List.isEmpty_iff] at hempty
  have hinfo : s'.disk.info = none := hempty.1
  have hrows : s'.disk.rows.entries = [] := List.map_eq_nil_iff.1 hempty.2
  refine Ends.andThen (ends_orRollback (h3.put _)) (fun _ _ hq => h.quiet hq.1) ?_
  intro _ s4 h4
  have hx : Committed s'.disk (.publish m) ⟨some m, s'.disk.rows⟩ := by
    have hdisk : s'.disk = ⟨none, s'.disk.rows⟩ := by rw [← hinfo]
    rw [hdisk]
    exact .publish hrows hm
  refine h4.commit.mono (fun _ s5 h5 => ⟨_, hx, rfl, h5⟩) ?_
  intro st s5 h5
  exact h.mayStore hx rfl (fun u hu => absurd hu List.not_mem_nil) h5.1

/-- The seed, or what the entropy source gives, is not 0. -/
theorem ends_instanceId (seed : Id) (h : Moves s s') :
    Ends (instanceId seed) s' (fun id s'' => Moves s s'' ∧ id ≠ 0) fun _ s'' => Moves s s'' := by
  unfold instanceId
  split
  · rename_i hseed
    exact ends_pure ⟨h, bne_iff_ne.1 hseed⟩
  · refine ends_getSt (ends_required h fun _ => ?_)
    have h1 : Moves s { s' with entropy := s'.entropy.tail } := h.ramOnly ⟨rfl, rfl, rfl, id⟩
    refine Ends.bind (Q := fun _ s1 => s1 = { s' with entropy := s'.entropy.tail })
      (ends_modify rfl) ?_
    rintro - s1 hs1
    subst s1
    refine ends_required h1 fun hc => ?_
    rw [Bool.and_eq_true, bne_iff_ne] at hc
    exact ends_pure ⟨h1, hc.2⟩

/-- What publishing has done when it succeeds. -/
structure Published (s s' : St) : Prop where
  info : s.disk.info = none
  path : ∃ xs m, Path s.disk (xs ++ [.publish m]) s'.disk ∧ ∀ x ∈ xs, x.plain = true
  inSync : InSync s'

/-- **What publishing does.** -/
theorem ends_publishInitialMeta (seed : Id) :
    Ends (publishInitialMeta seed) s (fun _ s' => Published s s') fun _ s' => Moves s.blind s' := by
  have hrefl := moves_blind s
  refine ends_guarded (fun _ => hrefl) fun _ => ends_getSt ?_
  refine ends_required hrefl fun _ => ends_required hrefl fun _ => ?_
  refine Ends.bind (ends_requireSome fun _ => hrefl) ?_
  rintro live s0 ⟨hs0, -⟩
  subst s0
  refine ends_required hrefl fun _ => ?_
  refine ends_opened (fun _ _ hq => hrefl.quiet hq) ?_
  intro s1 h1 _
  refine Ends.andThen ends_publishScan (fun _ _ hq => hrefl.quiet (h1.quiet.trans hq)) ?_
  intro _ s2 h2
  refine ends_sampled (hrefl.quiet (h1.trans h2).quiet) ends_setFenceClock' ?_
  intro t s3 h3 _ _
  refine Ends.bind (ends_instanceId seed h3) ?_
  rintro authority s4 ⟨h4, hne⟩
  refine Ends.bind (ends_publishPut ⟨rfl, hne, rfl, rfl, rfl⟩ h4) ?_
  rintro - s5 ⟨tx, hx, hinfo, h5⟩
  refine Ends.bind (Q := fun _ s6 => s6.disk = s5.disk) (ends_modifyPcp rfl) ?_
  intro _ s6 hs6
  refine Ends.bind (Q := fun _ s7 => s7.disk = s5.disk ∧ s7.pcp.ramTrust = some t.moment)
    (ends_modifyPcp ⟨hs6, rfl⟩) ?_
  rintro - s7 ⟨hdisk, htrust⟩
  obtain ⟨xs, hxs, hplain⟩ := h4
  refine ends_modifyPcp ⟨?_,
    ⟨xs, firstMeta live authority t, hxs.path.append (.single ?_), hplain⟩, ?_⟩
  · refine Option.eq_none_iff_forall_ne_some.2 fun m hm => ?_
    obtain ⟨m', hm', -⟩ := hxs.path.notBefore hm
    rw [hx.info_none] at hm'
    cases hm'
  · show Committed s4.disk _ s7.disk
    rw [hdisk, h5.disk]
    exact hx
  · rintro - -
    refine ⟨firstMeta live authority t, ?_, htrust⟩
    show s7.disk.info = _
    rw [hdisk, h5.disk, hinfo]

/-! ### Storage -/

/-- What recovering the storage has done when it succeeds: RAM is as the meta record has it. -/
structure Reloaded (s : St) (m : Meta) (s' : St) : Prop where
  info : s.disk.info = some m
  path : ∃ xs, Path s.disk xs s'.disk ∧ (xs = [] ∨ ∃ f, xs = [.fence f])
  inSync : InSync s'
  fence : s'.pcp.fence.clock = m.fences.clock
  ramTrust : s'.pcp.ramTrust = some m.trust
  disk : ∃ m', s'.disk.info = some m' ∧ m'.trust = m.trust ∧ m'.fences.clock = m.fences.clock
  clock : s'.clock = s.clock

/-- What recovering the storage may have committed when it fails. -/
def MayFence (s s' : St) : Prop := ∃ xs, Effect s xs s' ∧ (xs = [] ∨ ∃ f, xs = [.fence f])

theorem Effect.mayFence (h : Effect s [] s') : MayFence s s' := ⟨[], h, .inl rfl⟩

/-- The storage fence of the meta record is lifted, and nothing else changes. -/
theorem ends_clearStorageFence {m : Meta} (h : Effect s [] s') (hinfo : s'.disk.info = some m) :
    Ends clearStorageFence s'
      (fun m' s'' => m' = { m with fences := { m.fences with storage := false } } ∧
        s''.disk = ⟨some m', s'.disk.rows⟩ ∧ Committed s'.disk (.fence m'.fences) s''.disk ∧
        s''.clock = s'.clock)
      fun _ s'' => MayFence s s'' := by
  refine Ends.andThen ends_begin (fun _ _ hq => (h.quiet hq.1).mayFence) ?_
  rintro - s1 ⟨hs1, htxn1⟩
  have hin : InTxn s' s'.disk s1 := ⟨hs1, htxn1⟩
  refine Ends.bind (ends_mapFailure (F := fun _ s2 => MayFence s s2)
    ((ends_orRollback (hin.reads reads_rwScanCheck)).mono (fun _ _ hs => hs)
      fun _ _ hq => (h.quiet hq.1).mayFence)) ?_
  rintro m₁ s2 ⟨h2, hinfo₁, hacc⟩
  have hm : m₁ = m := Option.some.inj (hinfo₁.symm.trans hinfo)
  subst m₁
  have hdisk : s'.disk = ⟨some m, s'.disk.rows⟩ := by rw [← hinfo]
  generalize s'.disk.rows = rows at hdisk hacc ⊢
  rw [hdisk] at h2
  refine Ends.andThen (ends_orRollback (h2.put _)) (fun _ _ hq => (h.quiet hq.1).mayFence) ?_
  intro _ s3 h3
  have hx : Committed s'.disk (.fence { m.fences with storage := false })
      ⟨some { m with fences := { m.fences with storage := false } }, rows⟩ := by
    rw [hdisk]
    exact .fence hacc _
  have hcommit : Ends (mapFailure (fun _ => .recoverFail) commitFull : Op Unit) s3
      (fun _ s4 => Stored s'
        ⟨some { m with fences := { m.fences with storage := false } }, rows⟩ s4)
      fun _ s4 => MayFence s s4 := by
    refine ends_mapFailure (h3.commit.mono (fun _ _ hs => hs) ?_)
    rintro st s4 ⟨hc, -⟩
    obtain ⟨ys, hys, rfl | ⟨rfl, -⟩⟩ := h.mayStore hx (fun u hu => absurd hu List.not_mem_nil) hc
    · exact ⟨[], hys, .inl rfl⟩
    · exact ⟨_, hys, .inr ⟨_, rfl⟩⟩
  refine Ends.bind hcommit ?_
  intro _ s4 h4
  refine Ends.bind (Q := fun _ s5 => s5.disk = s4.disk ∧ s5.clock = s4.clock)
    (ends_modifyPcp ⟨rfl, rfl⟩) ?_
  rintro - s5 ⟨hd, hc⟩
  refine ends_pure ⟨rfl, ?_, ?_, ?_⟩
  · rw [hd, h4.disk]
  · rw [hd, h4.disk]
    exact hx
  · rw [hc, h4.clock]

theorem ends_recoverVerify {m : Meta} {scan : Scan} {tx : Namespace} (h : InTxn s tx s') :
    Ends (recoverVerify m scan) s' (fun _ s'' => Same s s'') fun _ s'' => Quiet s s'' := by
  refine Ends.bind (ends_mapFailure ((ends_orRollback (h.reads (reads_requireSound _))).mono
    (fun _ _ hs => hs) fun _ _ hq => hq.1)) ?_
  rintro - s1 ⟨h1, -⟩
  refine Ends.bind (ends_mapFailure ((ends_orRollback (h1.reads (reads_verifyIssBodies _ _))).mono
    (fun _ _ hs => hs) fun _ _ hq => hq.1)) ?_
  rintro - s2 ⟨h2, -⟩
  exact h2.rollback.mono (fun _ _ hs => hs) fun _ _ hq => hq.1

theorem Path.of_nil {ns ns' : Namespace} (h : Path ns [] ns') : ns' = ns := by
  cases h
  rfl

theorem Effect.unpublish (h : Effect s [] s') :
    Effect s [] { s' with pcp := { s'.pcp with published := false } } :=
  h.ramOnly ⟨rfl, rfl, rfl, fun hp => by cases hp⟩

/-- An empty namespace has nothing published. -/
theorem ends_recoverNothing {tx : Namespace} {scan : Scan} (h : Effect s [] s')
    (h2 : InTxn s' tx s2) :
    Ends (if scan.iss.isEmpty then do
        recoverEmpty
        pure false
      else mapFailure recoverStatus (orRollback failCorrupt) : Op Bool) s2
      (fun _ s'' => Effect s [] s'') fun _ s'' => MayFence s s'' := by
  split
  · have hroll : Ends (onFailure rollbackMap fun _ =>
        (modifyPcp fun p => { p with published := false } : Op Unit)) s2
        (fun _ s3 => Effect s [] s3) fun _ s3 => MayFence s s3 := by
      refine ends_onFailure (E := fun _ s3 => Effect s [] s3)
        (h2.rollback.mono (fun _ _ hs => h.quiet hs.quiet) fun _ _ hq => h.quiet hq.1) ?_
      exact fun _ s3 h3 => ends_modifyPcp h3.unpublish.mayFence
    refine Ends.bind (Q := fun _ s3 => Effect s [] s3) (Ends.bind hroll fun _ s3 h3 => ?_)
      fun _ _ h3 => ends_pure h3
    exact ends_modifyPcp h3.unpublish
  · have hfail : Reads (failCorrupt : Op Bool) (fun _ _ => False) fun _ => True :=
      reads_failCorrupt fun _ => trivial
    refine ends_mapFailure ((ends_orRollback (h2.reads hfail)).mono ?_ fun _ _ hq =>
      (h.quiet hq.1).mayFence)
    exact fun _ _ hs => hs.2.elim

/-- The meta record that is loaded has the trusted moment and the clock fence it had. -/
theorem ends_unfenceStorage {m : Meta} (h : Effect s [] s') (hclock : s'.clock = s.clock)
    (hinfo : s'.disk.info = some m) :
    Ends (unfenceStorage m) s'
      (fun m' s'' => (m'.trust = m.trust ∧ m'.fences.clock = m.fences.clock) ∧
        s''.disk.info = some m' ∧ (∃ xs, Path s.disk xs s''.disk ∧ (xs = [] ∨ ∃ f, xs = [.fence f]))
        ∧ s''.clock = s.clock)
      fun _ s'' => MayFence s s'' := by
  unfold unfenceStorage
  split
  · refine (ends_clearStorageFence h hinfo).mono ?_ fun _ _ hm => hm
    rintro m' s'' ⟨rfl, hdisk, hx, hc⟩
    refine ⟨⟨rfl, rfl⟩, by rw [hdisk], ⟨_, h.path.append (.single hx), .inr ⟨_, rfl⟩⟩,
      hc.trans hclock⟩
  · exact ends_pure ⟨⟨rfl, rfl⟩, hinfo, ⟨[], h.path, .inl rfl⟩, hclock⟩

/-- The meta record is loaded. -/
theorem ends_recoverLoaded {m : Meta} (h : Effect s [] s') (hclock : s'.clock = s.clock)
    (hinfo : s'.disk.info = some m) :
    Ends (do
        let m ← unfenceStorage m
        modifyPcp (loadMetaToRam m)
        clearRamValidate
        pure true : Op Bool) s'
      (fun _ s'' => Reloaded s m s'') fun _ s'' => MayFence s s'' := by
  refine Ends.bind (ends_unfenceStorage h hclock hinfo) ?_
  rintro m' s1 ⟨⟨htrust, hfence⟩, hinfo1, hpath, hclock1⟩
  have hold : s.disk.info = some m := by
    rw [← h.path.of_nil, hinfo]
  refine Ends.bind (Q := fun _ s2 => Reloaded s m s2) (ends_modifyPcp
    ⟨hold, hpath, fun _ _ => ⟨m', hinfo1, rfl⟩, hfence, congrArg some htrust,
      ⟨m', hinfo1, htrust, hfence⟩, hclock1⟩) ?_
  intro _ s2 h2
  refine Ends.bind (Q := fun _ s3 => Reloaded s m s3) (ends_modifyPcp
    ⟨h2.info, h2.path, h2.inSync, h2.fence, h2.ramTrust, h2.disk, h2.clock⟩) ?_
  exact fun _ _ h3 => ends_pure h3

/-- **What recovering the storage does.** -/
theorem ends_recoverStorage :
    Ends recoverStorage s (fun _ s' => (s.disk.info = none ∧ Effect s [] s') ∨ ∃ m, Reloaded s m s')
      fun _ s' => MayFence s s' := by
  have hrefl := Effect.refl s
  refine ends_guarded (fun _ => hrefl.mayFence) fun _ => ?_
  refine Ends.bind (Q := fun _ s1 => Effect s [] s1 ∧ s1.clock = s.clock)
    (ends_modifyPcp ⟨hrefl.ramOnly ⟨rfl, rfl, rfl, id⟩, rfl⟩) ?_
  rintro - s1 ⟨h1, hclock1⟩
  refine ends_opened (fun _ _ hq => (h1.quiet hq).mayFence) ?_
  intro s2 h2 _
  have h2' := h1.quiet h2.quiet
  refine Ends.andThen ends_begin (fun _ _ hq => (h2'.quiet hq.1).mayFence) ?_
  rintro - s3 ⟨hs3, htxn3⟩
  have hin : InTxn s2 s2.disk s3 := ⟨hs3, htxn3⟩
  refine Ends.bind (ends_mapFailure ((ends_orRollback (hin.reads reads_scanNamespace)).mono
    (fun _ _ hs => hs) fun _ _ hq => (h2'.quiet hq.1).mayFence)) ?_
  rintro scan s4 ⟨h4, rfl, -⟩
  have hdisk2 : s2.disk = s.disk := by
    rw [h2.disk]
    exact h1.path.of_nil
  have hclock2 : s2.clock = s.clock := h2.clock.trans hclock1
  obtain hinfo | ⟨m, hinfo⟩ : s2.disk.info = none ∨ ∃ m, s2.disk.info = some m :=
    Option.eq_none_or_eq_some _
  · rw [hinfo]
    refine (ends_recoverNothing h2' h4).mono ?_ fun _ _ hm => hm
    intro _ s5 h5
    exact .inl ⟨by rw [← hdisk2, hinfo], h5⟩
  · rw [hinfo]
    refine Ends.andThen (ends_recoverVerify h4) (fun _ _ hq => (h2'.quiet hq).mayFence) ?_
    intro _ s5 h5
    refine (ends_recoverLoaded (h2'.quiet h5.quiet) (h5.clock.trans hclock2) ?_).mono
      (fun _ _ hr => .inr ⟨m, hr⟩) fun _ _ hm => hm
    rw [h5.disk, hinfo]

/-! ### Clock -/

/-- What lifting the clock fence has done when it succeeds. -/
structure Reclocked (s s' : St) : Prop where
  fenced : s.pcp.fence.clock = true
  reading : classify s.pcp.ramTrust s.clock.head = .okTrusted
  ram : ∀ x, s.pcp.ramTrust = some x → x.epochId ≠ s.clock.head.sample.clockEpochId
  durable : ∀ m, s.disk.info = some m → m.lastTrustedEpochId ≠ s.clock.head.sample.clockEpochId
  path : Path s.disk [.reClock s.clock.head.sample] s'.disk
  inSync : InSync s'

/-- What lifting the clock fence may have committed when it fails. -/
def MayReclock (s s' : St) : Prop := ∃ xs, Effect s xs s' ∧ (xs = [] ∨ ∃ t, xs = [.reClock t])

theorem Effect.mayReclock (h : Effect s [] s') : MayReclock s s' := ⟨[], h, .inl rfl⟩

/-- The heads are of the epoch of the sample. -/
theorem ends_sameEpochHeads {tx : Namespace} {n : ℕ} {seq : UInt64} (h : InTxn s tx s') :
    Ends (sameEpochHeads t n seq) s'
      (fun _ s'' => InTxn s tx s'' ∧ ∀ k < n, ∃ r,
        tx.rows.lookup (seq + UInt64.ofNat k) = some r ∧ r.clockEpochId = t.clockEpochId)
      fun _ s'' => Quiet s s'' ∧ True := by
  induction n generalizing s' seq with
  | zero => exact ends_pure ⟨h, fun k hk => absurd hk (Nat.not_lt_zero k)⟩
  | succ n ih =>
    refine Ends.andThen (h.reads (reads_getHead seq)) (fun _ _ hq => ⟨hq.1, trivial⟩) ?_
    rintro r s1 ⟨h1, hlookup, -⟩
    refine Ends.andThen (h1.require _ _) (fun _ _ hq => ⟨hq.1, trivial⟩) ?_
    rintro - s2 ⟨h2, hepoch⟩
    refine (ih h2).mono ?_ fun _ _ hq => hq
    rintro - s3 ⟨h3, hall⟩
    refine ⟨h3, fun k hk => ?_⟩
    cases k with
    | zero =>
      refine ⟨r, ?_, beq_iff_eq.1 hepoch⟩
      rw [show seq + UInt64.ofNat 0 = seq from UInt64.add_zero seq]
      exact hlookup
    | succ k =>
      obtain ⟨r', hr', he⟩ := hall k (Nat.lt_of_succ_lt_succ hk)
      refine ⟨r', ?_, he⟩
      rw [← hr', UInt64.ofNat_add, UInt64.add_assoc, UInt64.add_comm (UInt64.ofNat k)]
      rfl

/-- Every outstanding permit is a head. -/
theorem Consistent.issued_head {m : Meta} {rows : Rows} (h : Consistent m rows) {seq : UInt64}
    {r : Issued} (hr : rows.lookup seq = some r) (hissued : r.state = .issued) :
    ∃ k < m.outstandingCount, seq = m.lastConsumedSeq + 1 + UInt64.ofNat k := by
  have hafter := UInt64.lt_iff_toNat_lt.1 ((h.issued_iff seq r hr).1 hissued)
  have hbefore := UInt64.lt_iff_toNat_lt.1 (h.below seq r hr)
  have hcount := h.count
  have hhead := h.toNat_head (by omega)
  refine ⟨seq.toNat - (m.lastConsumedSeq.toNat + 1), by omega, Words.eq_add_ofNat ?_⟩
  omega

/-- The transaction that lifts the clock fence. -/
theorem ends_recoverClockPut (hfresh : Fresh s t) (h : Effect s [] s') :
    Ends (recoverClockPut t) s'
      (fun _ s'' => ∃ m tx, s'.disk.info = some m ∧ t.clockEpochId ≠ m.lastTrustedEpochId ∧
        Committed s'.disk (.reClock t) tx ∧ tx.info = some (m.reclocked t) ∧ s''.disk = tx)
      fun _ s'' => MayReclock s s'' := by
  refine ends_checked (fun _ _ hq => (h.quiet hq).mayReclock) ?_
  intro m rows s2 hdisk hacc h2
  refine Ends.andThen (h2.checked _ _) (fun _ _ hq => (h.quiet hq).mayReclock) ?_
  rintro - s3 ⟨h3, hepoch⟩
  refine Ends.andThen (ends_orRollback (ends_sameEpochHeads h3))
    (fun _ _ hq => (h.quiet hq.1).mayReclock) ?_
  rintro - s4 ⟨h4, hheads⟩
  refine Ends.andThen (ends_orRollback (h4.put _)) (fun _ _ hq => (h.quiet hq.1).mayReclock) ?_
  intro _ s5 h5
  have hx : Committed s'.disk (.reClock t) ⟨some (m.reclocked t), rows⟩ := by
    rw [hdisk]
    refine .reClock hacc (bne_iff_ne.1 hepoch) fun seq r hr hissued => ?_
    obtain ⟨k, hk, rfl⟩ := (consistent_of_accepts hacc).issued_head hr hissued
    obtain ⟨r', hr', he⟩ := hheads k hk
    rw [show rows.lookup _ = some r from hr] at hr'
    cases hr'
    exact he
  refine h5.commit.mono ?_ ?_
  · intro _ s6 h6
    exact ⟨m, _, by rw [hdisk], bne_iff_ne.1 hepoch, hx, rfl, h6.disk⟩
  · rintro st s6 ⟨hc, -⟩
    have hsample : ∀ u ∈ (Txn.reClock t).samples, Fresh s u := by
      intro u hu
      rw [List.mem_singleton.1 hu]
      exact hfresh
    obtain ⟨ys, hys, rfl | ⟨rfl, -⟩⟩ := h.mayStore hx hsample hc
    · exact ⟨[], hys, .inl rfl⟩
    · exact ⟨_, hys, .inr ⟨t, rfl⟩⟩

theorem ends_recoverClockFenced (hfenced : s.pcp.fence.clock = true) :
    Ends recoverClockFenced s (fun _ s' => Reclocked s s') fun _ s' => MayReclock s s' := by
  refine ends_opened (fun _ _ hq => hq.effect.mayReclock) ?_
  intro s1 h1 _
  refine Ends.bind ends_sampleClock ?_
  rintro r s2 ⟨rfl, hs2⟩
  have h2 : Effect s [] s2 := by
    rw [hs2]
    exact h1.quiet.effect.ramOnly (ramOnly_clock s1 _)
  refine Ends.bind (ends_acceptSample (fun _ => h2.mayReclock)
    (ends_pure fun _ => h2.mayReclock)) ?_
  rintro t s3 ⟨hs3, hclass, ht⟩
  subst s3
  have hreading : classify s.pcp.ramTrust s.clock.head = .okTrusted := by
    rw [← h1.ramTrust, ← h1.clock]
    exact hclass
  have ht' : t = s.clock.head.sample := by
    rw [ht, ← h1.clock]
  have htrust2 : s2.pcp.ramTrust = s.pcp.ramTrust := by
    rw [hs2]
    exact h1.ramTrust
  have hdisk2 : s2.disk = s.disk := h2.path.of_nil
  refine ends_getSt (ends_required h2.mayReclock fun hram => ?_)
  refine Ends.bind (ends_recoverClockPut (.inl ⟨hreading, ht'⟩) h2) ?_
  rintro - s4 ⟨m, tx, hinfo, hepoch, hx, htx, hdisk⟩
  refine Ends.bind (Q := fun _ s5 => s5.disk = tx) (ends_modifyPcp hdisk) ?_
  intro _ s5 hs5
  refine Ends.bind (Q := fun _ s6 => s6.disk = tx ∧ s6.pcp.ramTrust = some t.moment)
    (ends_modifyPcp ⟨hs5, rfl⟩) ?_
  rintro - s6 ⟨hdisk6, htrust6⟩
  rw [hdisk2] at hinfo hx
  refine ends_modifyPcp ⟨hfenced, hreading, ?_, ?_, ?_, ?_⟩
  · intro x hx
    rw [htrust2, hx] at hram
    rw [← ht']
    simpa using hram
  · intro m' hm'
    rw [hinfo] at hm'
    cases hm'
    rw [← ht']
    exact hepoch.symm
  · rw [← ht']
    show Path s.disk [.reClock t] s6.disk
    rw [hdisk6]
    exact .single hx
  · rintro - -
    refine ⟨m.reclocked t, ?_, htrust6⟩
    show s6.disk.info = _
    rw [hdisk6, htx]

/-- **What recovering the clock does.** -/
theorem ends_recoverClock :
    Ends recoverClock s
      (fun _ s' => (s.pcp.fence.clock = false ∧ s' = s) ∨ Reclocked s s')
      fun _ s' => MayReclock s s' := by
  have hrefl := (Effect.refl s).mayReclock
  refine ends_guarded (fun _ => hrefl) fun _ => ends_getSt (ends_required hrefl fun _ => ?_)
  split
  · rename_i hfenced
    exact (ends_recoverClockFenced hfenced).mono (fun _ _ h => .inr h) fun _ _ h => h
  · rename_i hopen
    exact ends_pure (.inl ⟨Bool.eq_false_of_not_eq_true hopen, rfl⟩)

/-! ### Both -/

/-- What recovering the storage has done, when it succeeds. -/
def Recovered (s s' : St) : Prop :=
  (s.disk.info = none ∧ Effect s [] s') ∨ ∃ m, Reloaded s m s'

/-- **What recovering does**: the storage, then the clock if it is fenced. -/
theorem ends_recover :
    Ends recover s
      (fun _ s' => ∃ s1, Recovered s s1 ∧
        (s1.pcp.fence.clock = false ∨ s1.pcp.clockBound = false) ∧ s' = s1 ∨ Recovered s s1 ∧
        Reclocked s1 s')
      fun _ s' => MayFence s s' ∨ ∃ s1, Recovered s s1 ∧ MayReclock s1 s' := by
  refine Ends.andThen ends_recoverStorage (fun _ _ h => .inl h) ?_
  intro loaded s1 h1
  refine ends_getSt ?_
  split
  · rename_i hc
    rw [Bool.and_eq_true] at hc
    refine Ends.andThen ends_recoverClock (fun _ s2 h2 => .inr ⟨s1, h1, h2⟩) ?_
    rintro - s2 (⟨hopen, -⟩ | h2)
    · rw [hc.2] at hopen
      cases hopen
    · exact ends_pure ⟨s1, .inr ⟨h1, h2⟩⟩
  · rename_i hc
    refine ends_pure ⟨s1, .inl ⟨h1, ?_, rfl⟩⟩
    rw [Bool.and_eq_true, not_and_or, Bool.not_eq_true, Bool.not_eq_true] at hc
    exact hc.symm

end Recovering

end Ninlil.Permit
