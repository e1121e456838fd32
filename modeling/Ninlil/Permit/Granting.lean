import Ninlil.Permit.Upkeep

/-!
# The permit authority: the effect of handing out and presenting a permit

* `ends_issue`: an issue that succeeds stores the row of the permit it returns, last;
* what pinning a sample and validating a permit do.
-/

namespace Ninlil.Permit

open Outcomes

section Granting

variable {s s' : St} {t : TimeSample}

/-! ### Pinned samples -/

theorem ends_issueSampleClear {ε : Type} (h : Moves s s') :
    EndsMoving (issueSampleClear : Prog St ε Unit) s s' :=
  ends_ramOnly h ⟨rfl, rfl, rfl, id⟩

variable {β : Type} {R : β → St → Prop}

theorem ends_guarded_moves {k : Unit → Op β} (h : Moves s s')
    (hk : Ends (k ()) s' R fun _ s'' => Moves s s'') :
    Ends (guardActive >>= k) s' R fun _ s'' => Moves s s'' :=
  ends_guarded (fun _ => h) fun _ => hk

theorem ends_unfenced {k : Unit → Op β} {f : Fences}
    (h : Moves s s') (hk : f.any = false → Ends (k ()) s' R fun _ s'' => Moves s s'') :
    Ends (requireUnfenced f >>= k) s' R fun _ s'' => Moves s s'' := by
  refine Ends.andThen (ends_requireUnfenced f) (fun _ _ heq => heq ▸ h) ?_
  rintro - s1 ⟨rfl, hf⟩
  exact hk hf

theorem ends_commitClockFaultFence' {ε : Type} (s2 : St) (h : Moves s s2) :
    EndsMoving (commitClockFaultFence : Prog St ε Unit) s s2 :=
  (ends_commitClockFaultFence (E := fun _ s' => Moves s s') h).mono (fun _ _ h => h) fun _ _ h => h

theorem ends_issueSamplePin (h : Moves s s') : EndsMoving issueSamplePin s s' := by
  refine Ends.bind (ends_issueSampleClear h) ?_
  intro _ s1 h1
  refine ends_guarded_moves h1 (ends_getSt (ends_required h1 fun _ => ends_unfenced h1 fun _ => ?_))
  refine Ends.bind ends_sampleClock ?_
  rintro r s2 ⟨-, rfl⟩
  have h2 := h1.ramOnly (ramOnly_clock s1 s1.clock.tail)
  refine Ends.bind (ends_acceptSample (fun _ => h2) ?_) ?_
  · exact (ends_commitClockFaultFence' _ h2).mono (fun _ _ hm _ => hm) fun _ _ hm => hm
  rintro t s3 ⟨rfl, -, -⟩
  refine Ends.bind (ends_ramOnly h2 ⟨rfl, rfl, rfl, id⟩) ?_
  intro _ s4 h4
  exact ends_pure h4

theorem ends_issueSamplePinAccepted (t : TimeSample) (h : Moves s s') :
    EndsMoving (issueSamplePinAccepted t) s s' := by
  refine Ends.bind (ends_issueSampleClear h) ?_
  intro _ s1 h1
  refine ends_guarded_moves h1 (ends_required h1 fun _ => ends_required h1 fun _ => ?_)
  exact ends_getSt (ends_unfenced h1 fun _ => ends_ramOnly h1 ⟨rfl, rfl, rfl, id⟩)

/-! ### A new epoch -/

theorem ends_revokeHeads {i : Option Meta} {n : ℕ} {m : Meta} {rows : Rows} {s1 : St}
    (h : InTxn s ⟨i, rows⟩ s1) (hn : n ≤ m.outstandingCount) :
    Ends (revokeHeads n m) s1
      (fun m' s2 => ∃ rows', InTxn s ⟨i, rows'⟩ s2 ∧ Revokes m rows m' rows' ∧
        m'.outstandingCount = m.outstandingCount - n)
      fun _ s2 => Quiet s s2 ∧ True := by
  induction n generalizing m rows s1 with
  | zero => exact ends_pure ⟨rows, h, .refl m rows, rfl⟩
  | succ n ih =>
    refine Ends.andThen (h.reads (reads_getHead _)) (fun _ _ hq => ⟨hq.1, trivial⟩) ?_
    rintro iss s2 ⟨h2, hlookup, hseq, hissued⟩
    refine Ends.andThen (h2.put _) (fun _ _ hq => ⟨hq.1, trivial⟩) ?_
    intro _ s3 h3
    have hclosed : HeadClosed m rows iss .revoked m.dropHead
        (rows.insert iss.permitSequence { iss with state := .revoked }) := by
      refine ⟨by omega, hlookup, hissued, rfl, ?_⟩
      rw [hseq]
    have hle : n ≤ m.dropHead.outstandingCount := by
      show n ≤ m.outstandingCount - 1
      omega
    refine (ih h3 hle).mono ?_ fun _ _ h => h
    rintro m' s4 ⟨rows', h4, hrev, hcount⟩
    refine ⟨rows', h4, .head hclosed hrev, ?_⟩
    rw [hcount]
    show m.outstandingCount - 1 - n = m.outstandingCount - (n + 1)
    omega

theorem ends_algorithmESticky (h : Moves s s') (hany : s'.pcp.fence.any = true) :
    EndsMoving algorithmESticky s s' := by
  refine Ends.bind (Q := fun _ s1 => Moves s s1 ∧ s1.pcp.fence.any = true)
    (ends_modifyPcp ⟨h.ramOnly ⟨rfl, rfl, rfl, id⟩, hany⟩) ?_
  rintro - s1 ⟨h1, hany1⟩
  refine (ends_ignore (P := fun s2 => Fenced s1 s2) ?_).mono (fun _ _ hf => h1.fenced hany1 hf)
    fun _ _ hf => hf
  exact ends_stickyTxn _ fun s2 => ends_commitFull.mono (fun _ _ hc => hc.tried)
    fun _ _ hc => hc.1.tried

/-- Algorithm E: the namespace trusts the new epoch, and no permit is outstanding. -/
theorem ends_algorithmE {snap : Meta} (hfresh : Fresh s t) (h : Moves s s')
    (hepoch : t.clockEpochId ≠ snap.lastTrustedEpochId) :
    Ends (algorithmE t snap) s'
      (fun _ s'' => Moves s s'' ∧ (∃ m, s''.disk.info = some m ∧
        m.lastTrustedEpochId = t.clockEpochId) ∧ Committed s'.disk (.reEpoch t) s''.disk)
      fun _ s'' => Moves s s'' := by
  have hput : Ends (algorithmEPut t snap) s'
      (fun _ s6 => ∃ (m' : Meta) (rows' : Rows),
        Committed s'.disk (.reEpoch t) ⟨some (m'.trusting t), rows'⟩ ∧
          Stored s' ⟨some (m'.trusting t), rows'⟩ s6)
      fun _ s6 => Moves s s6 := by
    refine ends_checked (fun _ _ hq => h.quiet hq) ?_
    intro m rows s2 hdisk hacc h2
    have hsound : Ends (requireSound (m.sameAs snap)) s2
        (fun _ s3 => InTxn s' ⟨some m, rows⟩ s3 ∧ m.sameAs snap = true)
        fun _ s3 => Quiet s' s3 ∧ True :=
      (h2.reads (reads_requireSound _)).mono (fun _ _ hq => hq) fun _ _ hq => ⟨hq.1, trivial⟩
    refine Ends.andThen (ends_orRollback hsound) (fun _ _ hq => h.quiet hq.1) ?_
    rintro - s3 ⟨h3, hsame⟩
    refine Ends.andThen (ends_orRollback (ends_revokeHeads h3 le_rfl))
      (fun _ _ hq => h.quiet hq.1) ?_
    rintro m' s4 ⟨rows', h4, hrev, hzero⟩
    refine Ends.andThen (ends_orRollback (h4.put _)) (fun _ _ hq => h.quiet hq.1) ?_
    intro _ s5 h5
    have hx : Committed s'.disk (.reEpoch t) ⟨some (m'.trusting t), rows'⟩ := by
      rw [hdisk]
      refine .reEpoch hacc hrev (by omega) ?_
      unfold Meta.sameAs at hsame
      simp only [Bool.and_eq_true, beq_iff_eq] at hsame
      rw [hsame.2]
      exact hepoch
    have hsample : ∀ u ∈ (Txn.reEpoch t).samples, Fresh s u := by
      intro u hu
      rw [List.mem_singleton.1 hu]
      exact hfresh
    refine (ends_onFailure (F := fun _ s6 => Moves s s6) h5.commit ?_).mono
      (fun _ s6 h6 => ⟨m', rows', hx, h6⟩) fun _ _ hm => hm
    rintro st s6 ⟨hc, -, -, hopen⟩
    have hmoves := h.mayStore hx rfl hsample hc
    split
    · rename_i hst
      refine ends_algorithmESticky hmoves ?_
      unfold Fences.any
      rw [hopen hst]
      rfl
    · exact ends_pure hmoves
  refine Ends.bind hput ?_
  rintro - s6 ⟨m', rows', hx, h6⟩
  refine Ends.bind (Q := fun _ s7 => s7 = { s6 with pcp := { s6.pcp with
    outstandingCountCache := 0 } }) (ends_modifyPcp rfl) ?_
  rintro - s7 rfl
  refine Ends.bind (Q := fun _ s8 => s8 = { s6 with pcp := { s6.pcp with
    outstandingCountCache := 0
    ramTrust := some t.moment } }) (ends_modifyPcp rfl) ?_
  rintro - s8 rfl
  refine ends_modifyPcp ⟨h.stored hx rfl ?_ h6.disk ?_ ?_, ⟨m'.trusting t, ?_, rfl⟩, ?_⟩
  · intro u hu
    rw [List.mem_singleton.1 hu]
    exact hfresh
  · show s6.pcp.fence = s'.pcp.fence
    rw [h6.pcp]
  · rintro - m₁ hm₁ - -
    cases hm₁
    rfl
  · show s6.disk.info = _
    rw [h6.disk]
  · show Committed s'.disk (.reEpoch t) s6.disk
    rw [h6.disk]
    exact hx

theorem ends_reEpoch {snap : Meta} (hfresh : Fresh s t) (h : Moves s s')
    (hsnap : s'.disk.info = some snap) :
    Ends (reEpoch t snap) s'
      (fun _ s'' => Moves s s'' ∧ (∃ m, s''.disk.info = some m ∧
        m.lastTrustedEpochId = t.clockEpochId) ∧
        (s''.disk = s'.disk ∨ Committed s'.disk (.reEpoch t) s''.disk))
      fun _ s'' => Moves s s'' := by
  unfold reEpoch
  split
  · rename_i hne
    exact (ends_algorithmE hfresh h (bne_iff_ne.1 hne)).mono
      (fun _ _ hr => ⟨hr.1, hr.2.1, .inr hr.2.2⟩) fun _ _ hm => hm
  · rename_i heq
    refine ends_pure ⟨h, ⟨snap, hsnap, ?_⟩, .inl rfl⟩
    have hbne : (t.clockEpochId != snap.lastTrustedEpochId) = false :=
      Bool.eq_false_of_not_eq_true heq
    exact (by simpa using hbne : t.clockEpochId = snap.lastTrustedEpochId).symm

/-! ### Issue -/

/-- What an issue may commit. -/
def Issues (s : St) (req : IssueRequest) (s' : St) : Prop :=
  ∃ xs, Effect s xs s' ∧ ∃ ys, (∀ y ∈ ys, y.plain = true) ∧
    (xs = ys ∨ ∃ r t, xs = ys ++ [.issue req r t])

theorem Moves.issues {req : IssueRequest} (h : Moves s s') : Issues s req s' := by
  obtain ⟨xs, hxs, hplain⟩ := h
  exact ⟨xs, hxs, xs, hplain, .inl rfl⟩

theorem ends_issueChecks (m : Meta) (req : IssueRequest) {s1 : St} {ns : Namespace}
    (h : InTxn s ns s1) :
    Ends (issueChecks m req) s1 (fun _ s2 => InTxn s ns s2 ∧ m.fences.any = false ∧
        req.core = m.boundCore ∧ req.maxAirtimeUs ≤ m.boundMaxAirtimeCeilingUs ∧
        m.outstandingCount < maxOutstanding ∧ m.nextIssueSeq < seqMax)
      fun _ s2 => Quiet s s2 ∧ ¬(m.fences.any = false ∧
        req.core = m.boundCore ∧ req.maxAirtimeUs ≤ m.boundMaxAirtimeCeilingUs ∧
        m.outstandingCount < maxOutstanding ∧ m.nextIssueSeq < seqMax) := by
  refine Ends.andThen (h.require _ _) (fun _ _ hq => ⟨hq.1, fun hall => ?_⟩) ?_
  · rw [hall.1] at hq
    exact absurd hq.2 (by decide)
  rintro - s2 ⟨h2, hfence⟩
  refine Ends.andThen (h2.require _ _) (fun _ _ hq => ⟨hq.1, fun hall => ?_⟩) ?_
  · exact beq_eq_false_iff_ne.1 hq.2 hall.2.1
  rintro - s3 ⟨h3, hcore⟩
  refine Ends.andThen (h3.require _ _) (fun _ _ hq => ⟨hq.1, fun hall => ?_⟩) ?_
  · exact of_decide_eq_false hq.2 hall.2.2.1
  rintro - s4 ⟨h4, hceil⟩
  refine Ends.andThen (h4.require _ _) (fun _ _ hq => ⟨hq.1, fun hall => ?_⟩) ?_
  · exact of_decide_eq_false hq.2 hall.2.2.2.1
  rintro - s5 ⟨h5, hroom⟩
  refine (h5.require _ _).mono ?_ (fun _ _ hq => ⟨hq.1, fun hall => ?_⟩)
  · rintro - s6 ⟨h6, hnext⟩
    exact ⟨h6, by simpa using hfence, beq_iff_eq.1 hcore, of_decide_eq_true hceil,
      of_decide_eq_true hroom, of_decide_eq_true hnext⟩
  · exact of_decide_eq_false hq.2 hall.2.2.2.2

/-- The row of an issue is stored, last. -/
theorem ends_issuePut {req : IssueRequest} (hstruct : req.structOk = true) (hfresh : Fresh s t)
    (h : Moves s s') (hepoch : ∃ m, s'.disk.info = some m ∧
      m.lastTrustedEpochId = t.clockEpochId) :
    Ends (issuePut req t) s'
      (fun r s'' => ∃ (m : Meta) (rows : Rows), r = issuedRow m req t ∧
        Committed s'.disk (.issue req r t)
          ⟨some (m.addIssued.trusting t), rows.insert m.nextIssueSeq r⟩ ∧
        s''.disk = ⟨some (m.addIssued.trusting t), rows.insert m.nextIssueSeq r⟩ ∧
        s''.pcp.fence = s'.pcp.fence)
      fun _ s'' => Issues s req s'' := by
  refine ends_checked (fun _ _ hq => (h.quiet hq).issues) ?_
  intro m rows s2 hdisk hacc h2
  refine Ends.andThen (ends_orRollback (ends_issueChecks m req h2))
    (fun _ _ hq => (h.quiet hq.1).issues) ?_
  rintro - s3 ⟨h3, hfence, hcore, hceil, hroom, hnext⟩
  refine Ends.andThen (ends_orRollback (h3.put _)) (fun _ _ hq => (h.quiet hq.1).issues) ?_
  intro _ s4 h4
  refine Ends.andThen (ends_orRollback (h4.put _)) (fun _ _ hq => (h.quiet hq.1).issues) ?_
  intro _ s5 h5
  have hgrant : Grantable m req t := by
    obtain ⟨m₁, hm₁, he⟩ := hepoch
    rw [hdisk] at hm₁
    cases hm₁
    unfold IssueRequest.structOk at hstruct
    simp only [Bool.and_eq_true, bne_iff_ne, decide_eq_true_eq] at hstruct
    exact ⟨hfence, hcore, hstruct.2, hceil, hstruct.1.1.2, hroom, hnext, he.symm⟩
  have hx : Committed s'.disk (.issue req (issuedRow m req t) t)
      ⟨some (m.addIssued.trusting t), rows.insert m.nextIssueSeq (issuedRow m req t)⟩ := by
    rw [hdisk]
    exact .issue hacc hgrant
  refine Ends.andThen h5.commit ?_ ?_
  · rintro st s6 ⟨hc, -⟩
    obtain ⟨xs, hxs, hplain⟩ := h
    have hsample : ∀ u ∈ (Txn.issue req (issuedRow m req t) t).samples, Fresh s u := by
      intro u hu
      rw [List.mem_singleton.1 hu]
      exact hfresh
    obtain ⟨ys, hys, rfl | ⟨rfl, -⟩⟩ := hxs.mayStore hx hsample hc
    · exact ⟨ys, hys, ys, hplain, .inl rfl⟩
    · exact ⟨_, hys, xs, hplain, .inr ⟨_, _, rfl⟩⟩
  intro _ s6 h6
  refine Ends.bind (Q := fun _ s7 => s7 = { s6 with pcp := { s6.pcp with
    outstandingCountCache := m.addIssued.outstandingCount } }) (ends_modifyPcp rfl) ?_
  rintro - s7 rfl
  refine ends_pure ⟨m, rows, rfl, hx, h6.disk, ?_⟩
  show s6.pcp.fence = s'.pcp.fence
  rw [h6.pcp]

/-- The sample of an issue is trusted, or the clock is fenced. -/
theorem ends_issueSampled {s1 : St} {k : TimeSample → Op β}
    {req : IssueRequest} (h : Moves s s1) (hclock : s1.clock = s.clock)
    (htrust : s1.pcp.ramTrust = s.pcp.ramTrust)
    (hsticky : s1.pcp.issueSampleSticky = s.pcp.issueSampleSticky)
    (hk : ∀ t s2, Moves s s2 → s2.disk = s1.disk → Fresh s t →
      Ends (k t) s2 R fun _ s' => Issues s req s') :
    Ends (issueSample >>= fun r => acceptSample setFenceClock r >>= k) s1 R
      fun _ s' => Issues s req s' := by
  have hread : Ends issueSample s1
      (fun r s2 => Moves s s2 ∧ s2.disk = s1.disk ∧ (r.klass = .okTrusted → Fresh s r.sample))
      fun _ s' => Issues s req s' := by
    refine ends_getSt ?_
    cases hpin : s1.pcp.issueSampleSticky with
    | none =>
      refine ends_sampleClock.mono ?_ fun _ _ h => h
      rintro r s2 ⟨rfl, rfl⟩
      exact ⟨h.ramOnly (ramOnly_clock s1 _), rfl, fresh_of_reading hclock htrust⟩
    | some r =>
      refine Ends.bind (Q := fun _ s2 => Moves s s2 ∧ s2.disk = s1.disk)
        (ends_modifyPcp ⟨h.ramOnly ⟨rfl, rfl, rfl, id⟩, rfl⟩) ?_
      rintro - s2 ⟨h2, hdisk⟩
      rw [hsticky] at hpin
      exact ends_pure ⟨h2, hdisk, fun _ => .inr ⟨r, hpin, rfl⟩⟩
  refine Ends.bind hread ?_
  rintro r s2 ⟨h2, hdisk, hfresh⟩
  refine Ends.bind (ends_acceptSample (fun _ => h2.issues) ?_) ?_
  · exact (ends_setFenceClock' s2 h2).mono (fun _ _ hm _ => hm.issues) fun _ _ hm => hm.issues
  · rintro t s3 ⟨rfl, hclass, rfl⟩
    exact hk _ _ h2 hdisk (hfresh hclass)

theorem ends_orClear {α : Type} {m : Op α} {Q : α → St → Prop}
    (hm : Ends m s' Q fun _ s'' => Moves s s'') :
    Ends (orClear m) s' Q fun _ s'' => Moves s s'' :=
  ends_onFailure hm fun _ _ h => ends_issueSampleClear h

theorem ends_issueGuard : Ends issueGuard s (fun _ s' => s' = s) fun _ s' => Moves s s' := by
  refine ends_getSt ?_
  split
  · exact ends_orClear ((ends_require (E := fun _ s' => Moves s s') fun _ => Moves.refl s).mono
      (fun _ _ h => h.1) fun _ _ h => h)
  · exact ends_guardActive.mono (fun _ _ h => h.1) fun _ _ h => h ▸ Moves.refl s

theorem ends_issueBound : Ends issueBound s (fun _ s' => s' = s ∧ s.pcp.published = true ∧
      s.pcp.fence.any = false) fun _ s' => Moves s s' := by
  have hrefl := Moves.refl s
  refine ends_getSt (ends_required hrefl fun _ => ends_required hrefl fun _ => ?_)
  refine ends_required hrefl fun hpub => ?_
  rw [Bool.and_eq_true] at hpub
  exact (ends_requireUnfenced _).mono (fun _ _ h => ⟨h.1, hpub.2, h.2⟩) fun _ _ h => h ▸ hrefl

/-- What an issue that succeeds has done. -/
structure Granted (s : St) (req : IssueRequest) (p : Snapshot) (s' : St) : Prop where
  published : s.pcp.published = true
  unfenced : s.pcp.fence.any = false
  effect : ∃ xs r t, Effect s (xs ++ [.issue req r t]) s' ∧ (∀ x ∈ xs, x.plain = true) ∧
    p = fillSnapshotFromIss r
  epoch : ∃ ns r t, (ns = s.disk ∨ Committed s.disk (.reEpoch t) ns) ∧
    Committed ns (.issue req r t) s'.disk ∧ p = fillSnapshotFromIss r

/-- **What an issue does.** -/
theorem ends_issue (req : IssueRequest) :
    Ends (issue req) s (fun p s' => Granted s req p s') fun _ s' => Issues s req s' := by
  refine Ends.andThen ends_issueGuard (fun _ _ h => h.issues) ?_
  intro _ s1 hs1
  subst s1
  refine Ends.andThen (ends_orClear ends_issueBound) (fun _ _ h => h.issues) ?_
  rintro - s1 ⟨hs1, hpub, hunfenced⟩
  subst s1
  refine Ends.bind (Q := fun _ s1 => s1 = { s with pcp := { s.pcp with issueCsHeld := false } })
    (ends_modifyPcp rfl) ?_
  rintro - s1 hs1
  have h1 : Moves s s1 := by
    rw [hs1]
    exact (Moves.refl s).ramOnly ⟨rfl, rfl, rfl, id⟩
  refine ends_opened (fun _ _ hq => (h1.quiet hq).issues) ?_
  intro s2 h2 _
  refine ends_issueSampled (h1.quiet h2.quiet) ?_ ?_ ?_ ?_
  · rw [h2.clock, hs1]
  · rw [h2.ramTrust, hs1]
  · rw [h2.pcp, hs1]
  intro t s3 h3 hdisk3 hfresh
  refine Ends.andThen ends_readMeta (fun _ _ hq => (h3.quiet hq.1).issues) ?_
  rintro snap s4 ⟨h34, hsnap⟩
  have h4 := h3.quiet h34.quiet
  have hdisk4 : s4.disk = s.disk := by rw [h34.disk, hdisk3, h2.disk, hs1]
  refine ends_required h4.issues fun _ => ?_
  refine Ends.andThen (ends_reEpoch hfresh h4 (by rw [h34.disk, hsnap])) (fun _ _ h => h.issues) ?_
  rintro - s5 ⟨h5, hepoch, hpath⟩
  rw [hdisk4] at hpath
  refine ends_required h5.issues fun hstruct => ends_required h5.issues fun _ => ?_
  refine Ends.bind (ends_issuePut hstruct hfresh h5 hepoch) ?_
  rintro r s6 ⟨m, rows, hr, hx, hdisk, hfence⟩
  obtain ⟨xs, hxs, hplain⟩ := h5
  refine Ends.bind (Q := fun _ s7 => Granted s req (fillSnapshotFromIss r) s7)
    (ends_modifyPcp ⟨hpub, hunfenced, ⟨xs, r, t, ?_, hplain, rfl⟩, s5.disk, r, t, hpath, ?_, rfl⟩)
    fun _ _ h => ends_pure h
  · refine hxs.stored hx ?_ hdisk hfence ?_
    · intro u hu
      rw [List.mem_singleton.1 hu]
      exact hfresh
    · rintro - m₁ hm₁ - -
      cases hm₁
      rfl
  · show Committed s5.disk (.issue req r t) s6.disk
    rw [hdisk]
    exact hx

/-- A fence, or nothing published, and no issue changes the disk. -/
theorem ends_issue_unready (req : IssueRequest)
    (h : ¬(s.pcp.published = true ∧ s.pcp.fence.any = false)) :
    Ends (issue req) s (fun _ _ => False) fun _ s' => s'.disk = s.disk := by
  have hclear : ∀ s', s'.disk = s.disk → Ends (issueSampleClear : Op Unit) s'
      (fun _ s'' => s''.disk = s.disk) fun _ s'' => s''.disk = s.disk := fun _ hd =>
    ends_modifyPcp hd
  have hguard : Ends issueGuard s (fun _ s' => s' = s) fun _ s' => s'.disk = s.disk := by
    refine ends_getSt ?_
    split
    · refine ends_onFailure (E := fun _ s' => s'.disk = s.disk)
        ((ends_require (E := fun _ s' => s'.disk = s.disk) fun _ => rfl).mono
          (fun _ _ hs => hs.1) fun _ _ hs => hs) ?_
      exact fun _ s' hd => hclear s' hd
    · exact ends_guardActive.mono (fun _ _ hs => hs.1) fun _ _ hs => by rw [hs]
  refine Ends.bind hguard ?_
  intro _ s1 hs1
  subst s1
  have hbound : Ends (orClear issueBound) s (fun _ _ => False) fun _ s' => s'.disk = s.disk := by
    refine ends_onFailure (E := fun _ s' => s'.disk = s.disk) ?_ fun _ s' hd => hclear s' hd
    refine ends_getSt (ends_required rfl fun _ => ends_required rfl fun _ => ?_)
    refine ends_required rfl fun hpub => ?_
    rw [Bool.and_eq_true] at hpub
    refine (ends_requireUnfenced _).mono ?_ fun _ _ hs => by rw [hs]
    exact fun _ _ hs => h ⟨hpub.2, hs.2⟩
  exact Ends.bind hbound fun _ _ hf => hf.elim

/-! ### Validate -/

theorem ends_hal {α : Type} {st : HalStatus} {m : Op α} {Q : α → St → Prop} {P : St → Prop}
    (hm : Ends m s' Q fun _ s'' => P s'') :
    Ends (hal st m) s' Q fun _ s'' => P s'' :=
  ends_mapFailure hm

theorem ends_halSampled {s1 : St} {k : TimeSample → HalOp β} {onFault : HalOp Unit}
    {u f : HalStatus} (h : Moves s s1)
    (hfault : ∀ s2, Moves s s2 → EndsMoving onFault s s2)
    (hk : ∀ t s2, s2 = { s1 with clock := s1.clock.tail } → Moves s s2 →
      classify s1.pcp.ramTrust s1.clock.head = .okTrusted → t = s1.clock.head.sample →
      Ends (k t) s2 R fun _ s' => Moves s s') :
    Ends (sampleClock >>= fun r => halSample onFault u f r >>= k) s1 R fun _ s' => Moves s s' := by
  refine Ends.bind ends_sampleClock ?_
  rintro r s2 ⟨rfl, rfl⟩
  have hmoves : Moves s { s1 with clock := s1.clock.tail } :=
    h.ramOnly (ramOnly_clock s1 _)
  have hthrow : Ends (do onFault; throw f : HalOp TimeSample) { s1 with clock := s1.clock.tail }
      (fun t s2 => s2 = { s1 with clock := s1.clock.tail } ∧
        classify s1.pcp.ramTrust s1.clock.head = .okTrusted ∧ t = s1.clock.head.sample)
      fun _ s' => Moves s s' :=
    Ends.bind (hfault _ hmoves) fun _ _ hm => ends_throw hm
  refine Ends.bind (Q := fun t s2 => s2 = { s1 with clock := s1.clock.tail } ∧
    classify s1.pcp.ramTrust s1.clock.head = .okTrusted ∧ t = s1.clock.head.sample) ?_ ?_
  · revert hthrow
    unfold halSample
    generalize classify s1.pcp.ramTrust s1.clock.head = k
    intro hthrow
    cases k with
    | okTrusted => exact ends_pure ⟨rfl, rfl, rfl⟩
    | okUncertain | temp => exact ends_throw hmoves
    | faultPerm | faultIllformed | faultUnknown | faultRegression => exact hthrow
  · rintro t s3 ⟨rfl, hclass, rfl⟩
    exact hk _ _ rfl hmoves hclass rfl

theorem ends_rawRollback (h : Quiet s s') :
    Ends rawRollback s' (fun _ s'' => Quiet s s'') fun _ s'' => Quiet s s'' := by
  refine Ends.bind ends_nextReply ?_
  rintro r s1 ⟨-, rfl⟩
  exact ends_pure (h.trans (same_answered s').quiet)

/-- A check inside the transaction of `validate`. -/
theorem ends_rawChecked {α : Type} {m : HalOp α} {Q : α → St → Prop}
    (hm : Ends m s' Q fun _ s'' => Quiet s s'') :
    Ends (onFailure m fun _ => rawRollback) s' Q fun _ s'' => Quiet s s'' :=
  ends_onFailure hm fun _ _ hq => ends_rawRollback hq

theorem ends_rawRequire (h : Quiet s s') (c : Bool) (st : HalStatus) :
    Ends (onFailure (require c st) fun _ => rawRollback) s' (fun _ s'' => Quiet s s'')
      fun _ s'' => Quiet s s'' :=
  ends_rawChecked ((ends_require (E := fun _ s'' => Quiet s s'') fun _ => h).mono
    (fun _ _ h' => h'.1 ▸ h) fun _ _ h' => h')

theorem ends_validateRow (p : Snapshot) (t : TimeSample) :
    Ends (validateRow p t) s (fun _ s' => Quiet s s') fun _ s' => Quiet s s' := by
  refine Ends.bind (ends_hal (ends_begin.mono (fun _ _ h => h) fun _ _ h => h.1)) ?_
  rintro - s1 ⟨h1, htxn1⟩
  have hin : InTxn s s.disk s1 := ⟨h1, htxn1⟩
  have hread : Reads (do requireSome (← txnGetMeta) .invalidState : Op Meta)
      (fun _ _ => True) fun _ => True := by
    refine ((reads_getValue Namespace.info).mono (fun _ _ h => h) fun _ h => h.elim).bind ?_
    rintro (- | m)
    · exact reads_throw fun _ _ => trivial
    · exact reads_pure fun _ _ => trivial
  refine Ends.bind (ends_rawChecked (ends_hal ((hin.reads hread).mono (fun _ _ h => h)
    fun _ _ h => h.1))) ?_
  rintro m s2 ⟨h2, -⟩
  refine Ends.bind (ends_rawChecked (ends_hal ((h2.reads (reads_txnGetIss _)).mono
    (fun _ _ h => h) fun _ _ h => h.1))) ?_
  rintro o s3 ⟨h3, -⟩
  refine Ends.bind (Q := fun _ s4 => Quiet s s4) (ends_rawChecked
    ((ends_requireSome (E := fun _ s'' => Quiet s s'') fun _ => h3.same.quiet).mono
      (fun _ _ h => h.1 ▸ h3.same.quiet) fun _ _ h => h)) ?_
  intro iss s4 h4
  refine Ends.bind (ends_rawRequire h4 _ _) fun _ s5 h5 => ?_
  refine Ends.bind (ends_rawRequire h5 _ _) fun _ s6 h6 => ?_
  refine Ends.bind (ends_rawRequire h6 _ _) fun _ s7 h7 => ?_
  refine Ends.bind (ends_rawRequire h7 _ _) fun _ s8 h8 => ?_
  refine Ends.bind (ends_rawRequire h8 _ _) fun _ s9 h9 => ?_
  refine Ends.bind ends_nextReply ?_
  rintro r s10 ⟨-, rfl⟩
  have h10 := h9.trans (same_answered s9).quiet
  refine Ends.bind (Q := fun _ s11 => Quiet s s11) (ends_onFailure
    (E := fun _ s11 => Quiet s s11)
    ((ends_require (E := fun _ s11 => Quiet s s11) fun _ => h10).mono
      (fun _ _ h => h.1 ▸ h10) fun _ _ h => h) ?_) fun _ _ h => ends_pure h
  intro _ s11 h11
  exact ends_modifyPcp (h11.trans ⟨rfl, rfl, ⟨fun _ => rfl, id, id⟩, rfl, rfl, id⟩)

theorem ends_validateBody (p : Snapshot) (h : Moves s s') : EndsMoving (validateBody p) s s' := by
  refine ends_getSt (ends_required h fun _ => ?_)
  refine Ends.bind (ends_hal (ends_ensureOpen.mono (fun _ _ h => h) fun _ _ hq => h.quiet hq.1)) ?_
  rintro - s1 ⟨h1, -⟩
  refine ends_halSampled (h.quiet h1.quiet) ?_ ?_
  · intro s2 h2
    exact (ends_setFenceClock (E := fun _ s' => Moves s s') h2).mono (fun _ _ h => h.1)
      fun _ _ h => h
  intro t s2 _ h2 _ _
  refine ends_required h2 fun _ => ?_
  refine Ends.andThen (ends_validateRow p t) (fun _ _ hq => h2.quiet hq) ?_
  intro iss s3 h3
  exact ends_ramOnly (h2.quiet h3) ⟨rfl, rfl, rfl, id⟩

theorem ends_validate (p : Snapshot) (h : Moves s s') : EndsMoving (validate p) s s' := by
  refine ends_getSt (ends_required h fun _ => ends_required h fun _ => ?_)
  exact ends_onFailure (ends_validateBody p h) fun _ _ h => ends_clearRamValidate h

end Granting

end Ninlil.Permit
