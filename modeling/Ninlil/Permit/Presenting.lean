import Ninlil.Permit.Granting

/-!
# The permit authority: the effect of consuming a permit

`ends_consume`: a consume that succeeds closes the head, which is the row of the permit, at a
reading of the clock that is trusted and lies in the life of the row. A consume that fails may have
done so all the same, when the store did not say how the commit ended, and leaves a fence then.
-/

namespace Ninlil.Permit

open Outcomes

section Presenting

variable {s s' s1 s2 : St} {tx : Namespace}

/-! ### Failures -/

/-- The fence in RAM is set. -/
def St.storageFenced (s : St) : St :=
  { s with pcp := { s.pcp with fence := { s.pcp.fence with storage := true } } }

theorem quiet_storageFenced (s : St) : Quiet s s.storageFenced :=
  ⟨rfl, rfl, ⟨fun _ => rfl, id, id⟩, rfl, rfl, id⟩

theorem quiet_setCorrupt (s : St) :
    Quiet s { s with pcp := { s.pcp with fence := { s.pcp.fence with corrupt := true } } } :=
  ⟨rfl, rfl, ⟨id, id, fun _ => rfl⟩, rfl, rfl, id⟩

section Failing

variable {α : Type} {Q : α → St → Prop}

/-- A commit of unknown outcome, from here on fenced. -/
theorem ends_consumeUnknown (h : Moves s s'.storageFenced) :
    Ends (do
      setFenceStorage
      stickyStorageFenceBestEffort
      clearRamValidate
      throw .consumeFenced : HalOp α) s' Q fun _ s'' => Moves s s'' := by
  refine Ends.bind (Q := fun _ s1 => Moves s s1) (ends_modifyPcp h) ?_
  intro _ s1 h1
  refine Ends.bind (ends_stickyStorage h1) fun _ s2 h2 => ?_
  exact Ends.bind (ends_clearRamValidate h2) fun _ _ h3 => ends_throw h3

theorem ends_consumeFail (live : Bool) (st : Status) (h : Moves s s') :
    Ends (consumeFailAfterPutIntent live st : HalOp α) s' Q fun _ s'' => Moves s s'' := by
  have hroll : Ends (rollbackLive live) s' (fun _ s1 => Moves s s1) fun _ s1 => Moves s s1 := by
    cases live with
    | false => exact ends_pure h
    | true =>
      exact ends_ignore (ends_rollbackMap.mono (fun _ _ hs => h.quiet hs.quiet)
        fun _ _ hs => h.quiet hs.1)
  refine Ends.bind hroll ?_
  intro _ s1 h1
  split
  · exact ends_consumeUnknown (h1.quiet (quiet_storageFenced s1))
  · split
    · exact ends_throw h1
    · exact Ends.bind (ends_clearRamValidate h1) fun _ _ h2 => ends_throw h2

/-- Rolled back and failed. -/
theorem ends_halReject (st : HalStatus) (h : Moves s s1) (hin : InTxn s1 tx s2) :
    Ends (halReject st : HalOp α) s2 Q fun _ s'' => Moves s s'' := by
  refine Ends.bind (Q := fun _ s3 => Moves s s3) (ends_ignore ?_) fun _ _ h3 => ends_throw h3
  exact hin.rollback.mono (fun _ _ hs => h.quiet hs.quiet) fun _ _ hs => h.quiet hs.1

end Failing

theorem ends_halRequire (c : Bool) (st : HalStatus) (h : Moves s s1) (hin : InTxn s1 tx s2) :
    Ends (halRequire c st) s2 (fun _ s3 => s3 = s2 ∧ c = true) fun _ s3 => Moves s s3 := by
  cases c with
  | true => exact ends_pure ⟨rfl, rfl⟩
  | false => exact ends_halReject st h hin

/-! ### Steps of the transaction -/

theorem ends_consumePut (f : Namespace → Namespace) (h : Moves s s1) (hin : InTxn s1 tx s2) :
    Ends (consumePut (putValue f)) s2 (fun _ s3 => InTxn s1 (f tx) s3) fun _ s3 => Moves s s3 := by
  refine Ends.bind (ends_attempt (hin.put f)) ?_
  rintro (st | a) s3 h3
  · exact ends_consumeFail true st (h.quiet h3.1)
  · exact ends_pure h3

theorem ends_consumeCommit {x : Txn} (h : Moves s s1) (hin : InTxn s1 tx s2)
    (hx : Committed s1.disk x tx) (hplain : x.plain = true) (hfresh : ∀ u ∈ x.samples, Fresh s u) :
    Ends consumeCommit s2 (fun _ s3 => Stored s1 tx s3) fun _ s3 => Moves s s3 := by
  refine Ends.bind ends_storageCommit ?_
  rintro st s3 ⟨hs3, hst⟩
  have hsame := hin.same.trans (same_answered s2)
  -- the outcome may be unknown, and the fence tells so
  have hopen : Moves s s3.storageFenced := by
    have hq : Quiet s1 s2.answered.storageFenced :=
      hsame.quiet.trans (quiet_storageFenced s2.answered)
    subst s3
    refine h.mayStore hx hplain hfresh ⟨?_, hq.pcp, hq.fence, hq.clockFence, hq.clock, hq.faultless⟩
    cases heff : (s2.replies 0).takesEffect with
    | false => exact .inl hin.same.disk
    | true => exact .inr ⟨hin.txn, rfl⟩
  have hclosed : (s2.replies 0).takesEffect = false → Moves s s3 := by
    intro heff
    rw [heff] at hs3
    subst s3
    exact h.quiet hsame.quiet
  have hfault : ∀ f : Fault, (s2.replies 0).takesEffect = false →
      Ends (do applyMapFence f.fence; consumeFailAfterPutIntent false f.status : HalOp Unit) s3
        (fun _ s4 => Stored s1 tx s4) fun _ s4 => Moves s s4 := by
    intro f heff
    refine Ends.bind (ends_applyMapFence f.fence _) ?_
    rintro - s4 ⟨hq, -⟩
    exact ends_consumeFail false _ ((hclosed heff).quiet hq)
  have heff : (s2.replies 0).takesEffect =
    (st == .ok || ((st == .commitUnknown || st == .busy) && (s2.replies 0).applied)) := by
    rw [hst]
    rfl
  clear hst
  cases st with
  | ok =>
    refine ends_pure ?_
    rw [heff] at hs3
    subst s3
    exact ⟨hin.txn, hsame.pcp, hsame.live, hsame.clock, hsame.faultless⟩
  | commitUnknown => exact Ends.bind (ends_pure (Q := fun _ s4 => s4 = s3) rfl) (by
      rintro - s4 rfl
      exact ends_consumeUnknown hopen)
  | busy =>
    refine Ends.bind (Q := fun _ s4 => Moves s s4) (ends_modifyPcp hopen) fun _ s4 h4 => ?_
    exact Ends.bind (ends_clearRamValidate h4) fun _ _ h5 => ends_throw h5
  | noSpace => exact hfault _ heff
  | ioError => exact hfault _ heff
  | notFound => exact hfault _ heff
  | bufferTooSmall => exact hfault _ heff
  | corrupt => exact hfault _ heff
  | unsupportedSchema => exact hfault _ heff
  | other => exact hfault _ heff

theorem Moves.raise (h : Moves s s') {f : Fences} (hle : s'.pcp.fence.Le f) :
    Moves s { s' with pcp := { s'.pcp with fence := f } } := by
  obtain ⟨xs, h, hall⟩ := h
  refine ⟨xs, ⟨h.path, h.samples, fun hc => hle.clock (h.clockFence hc), ?_⟩, hall⟩
  exact fun hs hpub hany => h.inSync hs hpub (hle.any hany)

/-- A durable fence rejects the permit. -/
theorem ends_consumeDurableFence (m : Meta) (h : Moves s s1) (hin : InTxn s1 tx s2) :
    Ends (consumeDurableFence m) s2 (fun _ s3 => s3 = s2 ∧ consumeFenceReject m.fences = none)
      fun _ s3 => Moves s s3 := by
  unfold consumeDurableFence
  cases hreject : consumeFenceReject m.fences with
  | none => exact ends_pure ⟨rfl, rfl⟩
  | some st =>
    refine Ends.bind (Q := fun _ s3 => Moves s s3) (ends_modifyPcp ((h.quiet hin.same.quiet).raise
      ⟨fun hf => by rw [hf, Bool.true_or], fun hf => by rw [hf, Bool.true_or],
        fun hf => by rw [hf, Bool.true_or]⟩)) ?_
    intro _ s3 h3
    refine Ends.bind (Q := fun _ s4 => Moves s s4) (ends_ignore ?_) fun _ _ h4 => ends_throw h4
    exact ends_rollbackMap.mono (fun _ _ hs => h3.quiet hs.quiet) fun _ _ hs => h3.quiet hs.1

theorem any_of_consumeFenceReject {f : Fences} (h : consumeFenceReject f = none) :
    f.any = false := by
  obtain ⟨storage, clock, corrupt⟩ := f
  revert h
  cases storage <;> cases clock <;> cases corrupt <;> decide

/-- Only the number after `lastConsumedSeq` gets through. -/
theorem ends_consumeSequence (m : Meta) (seq : UInt64) (h : Moves s s1) (hin : InTxn s1 tx s2) :
    Ends (consumeSequence m seq) s2 (fun _ s3 => s3 = s2 ∧ seq = m.lastConsumedSeq + 1)
      fun _ s3 => Moves s s3 := by
  have hread : Ends (onFailure (hal .consumeError (txnGetIss seq)) fun _ => rollbackMap) s2
      (fun _ s3 => InTxn s1 tx s3) fun _ s3 => Moves s s3 := by
    refine ends_onFailure (E := fun _ s3 => Moves s s3) (ends_hal
      ((hin.reads (reads_txnGetIss seq)).mono (fun _ _ h3 => h3.1) fun _ _ h3 => h.quiet h3.1)) ?_
    intro st s3 h3
    exact ends_rollbackMap.mono (fun _ _ hs => h3.quiet hs.quiet) fun _ _ hs => h3.quiet hs.1
  unfold consumeSequence
  split
  · exact Ends.bind hread fun _ _ h3 => ends_halReject _ h h3
  · split
    · refine Ends.bind hread fun o s3 h3 => ?_
      split
      · exact ends_halReject _ h h3
      · exact ends_halReject _ h h3
    · rename_i heq
      exact ends_pure ⟨rfl, Decidable.of_not_not heq⟩

/-- The row of the head is the one of the permit. -/
theorem ends_consumeHead (p : Snapshot) (h : Moves s s1) (hin : InTxn s1 tx s2) :
    Ends (consumeHead p) s2 (fun iss s3 => InTxn s1 tx s3 ∧
        tx.rows.lookup p.permitSequence = some iss ∧ iss.permitSequence = p.permitSequence ∧
        iss.state = .issued ∧ p = fillSnapshotFromIss iss)
      fun _ s3 => Moves s s3 := by
  have hreject : ∀ (Q : Issued → St → Prop) s3, Quiet s1 s3 → Ends (do
      ignore rollbackMap
      setFenceCorrupt
      throw .consumeError : HalOp Issued) s3 Q fun _ s4 => Moves s s4 := by
    intro Q s3 h3
    refine Ends.bind (Q := fun _ s4 => Moves s s4) (ends_ignore ?_) fun _ s4 h4 => ?_
    · exact ends_rollbackMap.mono (fun _ _ hs => h.quiet (h3.trans hs.quiet))
        fun _ _ hs => h.quiet (h3.trans hs.1)
    · exact Ends.bind (Q := fun _ s5 => Moves s s5)
        (ends_modifyPcp (h4.quiet (quiet_setCorrupt s4))) fun _ _ h5 => ends_throw h5
  refine Ends.bind (ends_attempt (hin.reads (reads_txnGetIss p.permitSequence))) ?_
  rintro (st | (- | iss)) s3 h3
  · exact hreject _ s3 h3.1
  · exact hreject _ s3 h3.1.same.quiet
  · obtain ⟨h3, hlookup, hseq⟩ := h3
    dsimp only
    split
    · rename_i hc
      rw [Bool.and_eq_true, beq_iff_eq, snapshotMatchesIss_iff] at hc
      exact ends_pure ⟨h3, hlookup, hseq iss rfl, hc.1, hc.2⟩
    · exact hreject _ s3 h3.same.quiet

theorem ends_consumeTime (t : TimeSample) (iss : Issued) (h : Moves s s1) (hin : InTxn s1 tx s2) :
    Ends (consumeTime t iss) s2 (fun _ s3 => s3 = s2 ∧ validTime t iss = true)
      fun _ s3 => Moves s s3 := by
  refine Ends.bind (ends_halRequire _ _ h hin) ?_
  rintro - s3 ⟨hs3, -⟩
  subst s3
  refine Ends.bind (ends_halRequire _ _ h hin) ?_
  rintro - s3 ⟨hs3, -⟩
  subst s3
  exact ends_halRequire _ _ h hin

/-! ### Consume -/

/-- The transaction of a consume closes the head. -/
theorem ends_consumeTxn (p : Snapshot) {t : TimeSample} (hfresh : Fresh s t) (h : Moves s s1) :
    Ends (consumeTxn p t) s1
      (fun _ s2 => ∃ r tx, p = fillSnapshotFromIss r ∧ Committed s1.disk (.consume r t) tx ∧
        s2.disk = tx ∧ s2.pcp.fence = s1.pcp.fence ∧ ∀ m, tx.info = some m → m.trust = t.moment)
      fun _ s2 => Moves s s2 := by
  refine Ends.bind (ends_mapFailure (ends_begin.mono (fun _ _ hs => hs) fun _ _ hs =>
    h.quiet hs.1)) ?_
  rintro - s2 ⟨hs2, htxn2⟩
  have hin : InTxn s1 s1.disk s2 := ⟨hs2, htxn2⟩
  refine Ends.bind (ends_hal (ends_onFailure (E := fun _ s3 => Moves s s3)
    ((hin.reads reads_rwScanCheck).mono (fun _ _ h3 => h3) fun _ _ h3 => h.quiet h3.1) ?_)) ?_
  · intro st s3 h3
    exact ends_rollbackMap.mono (fun _ _ hs => h3.quiet hs.quiet) fun _ _ hs => h3.quiet hs.1
  rintro m s3 ⟨h3, hinfo, hacc⟩
  have hdisk : s1.disk = ⟨some m, s1.disk.rows⟩ := by rw [← hinfo]
  rw [hdisk] at h3
  refine Ends.bind (ends_consumeDurableFence m h h3) ?_
  rintro - s4 ⟨hs4, hfence⟩
  subst s4
  refine Ends.bind (ends_consumeSequence m p.permitSequence h h3) ?_
  rintro - s4 ⟨hs4, hhead⟩
  subst s4
  refine Ends.bind (ends_consumeHead p h h3) ?_
  rintro r s4 ⟨h4, hlookup, hseq, hissued, hp⟩
  refine Ends.bind (ends_consumeTime t r h h4) ?_
  rintro - s5 ⟨hs5, hvalid⟩
  subst s5
  refine Ends.bind (ends_consumePut _ h h4) fun _ s5 h5 => ?_
  refine Ends.bind (ends_consumePut _ h h5) fun _ s6 h6 => ?_
  have hx : Committed s1.disk (.consume r t) ⟨some (m.dropHead.trusting t),
      s1.disk.rows.insert r.permitSequence { r with state := .consumed }⟩ := by
    rw [hdisk]
    refine .consume hacc ⟨?_, ?_, hissued, rfl, ?_⟩ (any_of_consumeFenceReject hfence) hvalid
    · have hc := consistent_of_accepts hacc
      have hafter := UInt64.lt_iff_toNat_lt.1 ((hc.issued_iff _ r hlookup).1 hissued)
      have hbefore := UInt64.lt_iff_toNat_lt.1 (hc.below _ r hlookup)
      have hcount := hc.count
      omega
    · rw [← hhead]
      exact hlookup
    · rw [hseq, hhead]
  have hsample : ∀ u ∈ (Txn.consume r t).samples, Fresh s u := by
    intro u hu
    rw [List.mem_singleton.1 hu]
    exact hfresh
  refine Ends.bind (ends_consumeCommit h h6 hx rfl hsample) ?_
  intro _ s7 h7
  refine ends_modifyPcp ⟨r, _, hp, hx, h7.disk, ?_, ?_⟩
  · show s7.pcp.fence = s1.pcp.fence
    rw [h7.pcp]
  · intro m' hm'
    cases hm'
    rfl

/-- What a consume that succeeds has done. -/
structure Consumed (s : St) (p : Snapshot) (s' : St) : Prop where
  published : s.pcp.published = true
  unfenced : s.pcp.fence.any = false
  reading : classify s.pcp.ramTrust s.clock.head = .okTrusted
  effect : ∃ r, Effect s [.consume r s.clock.head.sample] s' ∧ p = fillSnapshotFromIss r

theorem ends_consume_ready (p : Snapshot) (hpub : s.pcp.published = true) :
    Ends (consume p) s (fun _ s' => Consumed s p s') fun _ s' => Moves s.unpinned s' := by
  have hbase := moves_unpinned s
  refine ends_getSt (ends_required hbase fun _ => ends_required hbase fun _ => ?_)
  refine ends_required hbase fun _ => ?_
  have hunfenced : Ends (consumeUnfenced s.pcp.fence) s
      (fun _ s1 => s1 = s ∧ s.pcp.fence.any = false) fun _ s1 => Moves s.unpinned s1 := by
    unfold consumeUnfenced
    cases hreject : consumeFenceReject s.pcp.fence with
    | none => exact ends_pure ⟨rfl, any_of_consumeFenceReject hreject⟩
    | some st => exact ends_throw hbase
  refine Ends.bind hunfenced ?_
  rintro - s1 ⟨hs1, hany⟩
  subst s1
  refine Ends.bind
    (ends_hal (ends_ensureOpen.mono (fun _ _ hs => hs) fun _ _ hs => hbase.quiet hs.1)) ?_
  rintro - s1 ⟨h1, -⟩
  refine ends_halSampled (hbase.quiet h1.quiet) ?_ ?_
  · intro s2 h2
    exact (ends_commitClockFaultFence (E := fun _ s' => Moves s.unpinned s') h2).mono
      (fun _ _ hm => hm)
      fun _ _ hm => hm
  intro t s2 hs2 h2 hclass ht
  rw [h1.ramTrust, h1.clock] at hclass
  rw [h1.clock] at ht
  have hregress :
      Ends (consumeNoRegression p t) s2 (fun _ s3 => s3 = s2) fun _ s3 => Moves s.unpinned s3 := by
    refine ends_getSt ?_
    split
    · refine Ends.bind (ends_setFenceClock (E := fun _ s3 => Moves s.unpinned s3) h2) fun _ _ h3 => ?_
      exact ends_throw h3.1
    · exact ends_pure rfl
  refine Ends.bind hregress ?_
  intro _ s3 hs3
  subst s3
  have hfresh : Fresh s.unpinned t := by
    rw [ht]
    exact .inl ⟨hclass, rfl⟩
  refine Ends.bind (ends_consumeTxn p hfresh h2) ?_
  rintro - s3 ⟨r, tx, hp, hx, hdisk, hfence, htrust⟩
  refine Ends.bind (Q := fun _ s4 => s4 = { s3 with pcp := { s3.pcp with
    ramTrust := some t.moment } }) (ends_modifyPcp rfl) ?_
  rintro - s4 rfl
  have heffect : Effect s [] s2 := by
    rw [hs2]
    exact h1.quiet.effect.ramOnly (ramOnly_clock s1 _)
  refine ends_modifyPcp ⟨hpub, hany, hclass, r, ?_, hp⟩
  rw [← ht]
  refine heffect.stored hx ?_ hdisk hfence ?_
  · intro u hu
    rw [List.mem_singleton.1 hu]
    exact .inl hfresh.reading
  · intro _ m hm _ _
    show some t.moment = some m.trust
    rw [htrust m hm]

/-- A fence, or nothing published, and the consume changes nothing. -/
theorem ends_consume_unready (p : Snapshot)
    (h : ¬(s.pcp.published = true ∧ s.pcp.fence.any = false)) :
    Ends (consume p) s (fun _ _ => False) fun _ s' => s' = s := by
  refine ends_getSt (ends_required rfl fun _ => ends_required rfl fun _ => ?_)
  refine ends_required rfl fun hbound => ?_
  simp only [Bool.and_eq_true] at hbound
  unfold consumeUnfenced
  cases hreject : consumeFenceReject s.pcp.fence with
  | none => exact absurd ⟨hbound.2, any_of_consumeFenceReject hreject⟩ h
  | some st => exact Ends.bind (Q := fun _ _ => False) (ends_throw rfl) fun _ _ hf => hf.elim

/-- **What a consume does.** -/
theorem ends_consume (p : Snapshot) :
    Ends (consume p) s (fun _ s' => Consumed s p s') fun _ s' => Moves s.unpinned s' ∧
      (s'.disk = s.disk ∨ s.pcp.published = true ∧ s.pcp.fence.any = false) := by
  by_cases hready : s.pcp.published = true ∧ s.pcp.fence.any = false
  · exact (ends_consume_ready p hready.1).mono (fun _ _ h => h) fun _ _ h => ⟨h, .inr hready⟩
  · exact (ends_consume_unready p hready).mono (fun _ _ h => h.elim) fun _ _ h =>
      ⟨h ▸ moves_unpinned s, .inl (by rw [h])⟩

end Presenting

end Ninlil.Permit
