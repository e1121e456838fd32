import Ninlil.Permit.Effects

/-!
# The permit authority: the effect of its upkeep

What the calls that bind, revoke, advance, erase, pin and validate do: a lemma for each, over the
transactions that it may commit.
-/

namespace Ninlil.Permit

open Outcomes

section Upkeep

variable {s s' : St}

/-- What a call may do, whether it succeeds or fails. -/
abbrev EndsMoving {ε α : Type} (m : Prog St ε α) (s s' : St) : Prop :=
  Ends m s' (fun _ s'' => Moves s s'') fun _ s'' => Moves s s''

variable {β : Type} {R : β → St → Prop}

theorem ends_getSt {ε : Type} {k : St → Prog St ε β} {E : ε → St → Prop}
    (h : Ends (k s) s R E) : Ends (get >>= k) s R E := by
  refine Ends.bind (Q := fun a s' => a = s ∧ s' = s) (ends_get ⟨rfl, rfl⟩) ?_
  rintro _ _ ⟨rfl, rfl⟩
  exact h

theorem ends_guarded {k : Unit → Op β} {E : Status → St → Prop}
    (hE : ∀ st, E st s) (hk : s.pcp.issueCsHeld = false → Ends (k ()) s R E) :
    Ends (guardActive >>= k) s R E := by
  refine Ends.andThen ends_guardActive (fun st s' h => h ▸ hE st) ?_
  rintro - s1 ⟨rfl, hheld⟩
  exact hk hheld

theorem ends_required {ε : Type} {c : Bool} {e : ε} {k : PUnit → Prog St ε β}
    {E : ε → St → Prop} (hE : E e s) (hk : c = true → Ends (k ⟨⟩) s R E) :
    Ends (require c e >>= k) s R E := by
  refine Ends.bind (ends_require fun _ => hE) ?_
  rintro - s1 ⟨rfl, hc⟩
  exact hk hc

theorem ends_opened {k : Unit → Op β} {E : Status → St → Prop}
    (hE : ∀ st s', Quiet s s' → E st s')
    (hk : ∀ s', Same s s' → s'.pcp.handleLive = true → Ends (k ()) s' R E) :
    Ends (ensureOpen >>= k) s R E := by
  refine Ends.andThen ends_ensureOpen (fun st s' h => hE st s' h.1) ?_
  rintro - s1 ⟨hs, hlive⟩
  exact hk s1 hs hlive

/-- A change of RAM that ends a call. -/
theorem ends_ramOnly {ε : Type} {f : Pcp → Pcp} (h : Moves s s')
    (hr : RamOnly s' { s' with pcp := f s'.pcp }) :
    EndsMoving (modifyPcp f : Prog St ε Unit) s s' :=
  ends_modifyPcp (h.ramOnly hr)

theorem ends_clearRamValidate {ε : Type} (h : Moves s s') :
    EndsMoving (clearRamValidate : Prog St ε Unit) s s' :=
  ends_ramOnly h ⟨rfl, rfl, rfl, id⟩

/-! ### Revocation -/

theorem ends_revokeRound (h : Moves s s') : EndsMoving revokeRound s s' := by
  refine ends_checked (fun _ _ hq => h.quiet hq) ?_
  intro m rows s2 hdisk hacc h2
  split
  · refine Ends.bind (Q := fun _ s3 => Moves s s3) (ends_ignore ?_) ?_
    · exact h2.rollback.mono (fun _ _ hs => h.quiet hs.quiet) fun _ _ hs => h.quiet hs.1
    intro _ s3 h3
    exact Ends.bind (Q := fun _ s4 => Moves s s4)
      (ends_modifyPcp (h3.ramOnly ⟨rfl, rfl, rfl, id⟩)) fun _ _ h4 => ends_pure h4
  · rename_i hpos
    refine Ends.andThen (ends_orRollback (h2.reads (reads_getHead _)))
      (fun _ _ hq => h.quiet hq.1) ?_
    rintro iss s3 ⟨h3, hlookup, hseq, hissued⟩
    refine Ends.andThen (ends_orRollback (h3.put _)) (fun _ _ hq => h.quiet hq.1) ?_
    intro _ s4 h4
    refine Ends.andThen (ends_orRollback (h4.put _)) (fun _ _ hq => h.quiet hq.1) ?_
    intro _ s5 h5
    have hx : Committed s'.disk (.revoke iss) ⟨some m.dropHead,
        rows.insert iss.permitSequence { iss with state := .revoked }⟩ := by
      rw [hdisk]
      refine .revoke hacc ⟨Nat.pos_of_ne_zero hpos, hlookup, hissued, rfl, ?_⟩
      rw [hseq]
    refine Ends.andThen h5.commit (fun _ _ hc => ?_) ?_
    · exact h.mayStore hx rfl (fun u hu => absurd hu List.not_mem_nil) hc.1
    intro _ s6 h6
    have hmoves : Moves s s6 := by
      refine h.stored_keeping hx rfl rfl h6 ?_
      intro m₁ m₂ hm₁ hm₂
      rw [hdisk] at hm₁
      cases hm₁
      cases hm₂
      rfl
    exact Ends.bind (Q := fun _ s7 => Moves s s7)
      (ends_modifyPcp (hmoves.ramOnly ⟨rfl, rfl, rfl, id⟩)) fun _ _ h7 => ends_pure h7

theorem ends_rounds {round : Op Bool} (hround : ∀ s', Moves s s' → EndsMoving round s s') (n : ℕ)
    (h : Moves s s') : EndsMoving (rounds round n) s s' := by
  induction n generalizing s' with
  | zero => exact ends_throw h
  | succ n ih =>
    refine Ends.bind (hround s' h) ?_
    intro done s1 h1
    split
    · exact ends_pure h1
    · exact ih h1

theorem ends_revokeAllOutstanding (h : Moves s s') : EndsMoving revokeAllOutstanding s s' := by
  refine ends_guarded (fun _ => h) fun _ => ?_
  refine ends_opened (fun _ _ hq => h.quiet hq) ?_
  intro s1 h1 _
  exact ends_getSt (ends_rounds (fun _ => ends_revokeRound) _ (h.quiet h1.quiet))

/-! ### Binding -/

theorem ends_bindStorage (h : Moves s s') : EndsMoving bindStorage s s' := by
  refine ends_guarded (fun _ => h) fun _ => ends_getSt ?_
  exact ends_required h fun _ => ends_ramOnly h ⟨rfl, rfl, rfl, id⟩

theorem ends_bindClock (h : Moves s s') : EndsMoving bindClock s s' :=
  ends_guarded (fun _ => h) fun _ => ends_ramOnly h ⟨rfl, rfl, rfl, id⟩

theorem ends_bindEntropy (h : Moves s s') : EndsMoving bindEntropy s s' :=
  ends_guarded (fun _ => h) fun _ => ends_ramOnly h ⟨rfl, rfl, rfl, id⟩

theorem ends_bindLiveProfile (live : LiveProfile) (h : Moves s s') :
    EndsMoving (bindLiveProfile live) s s' := by
  refine ends_guarded (fun _ => h) fun _ => ends_required h fun _ => ?_
  refine ends_getSt (ends_required h fun _ => ?_)
  exact Ends.bind (ends_ramOnly h ⟨rfl, rfl, rfl, id⟩) fun _ _ h =>
    ends_clearRamValidate h

theorem ends_rejectUnless {t : Namespace} {s1 s2 : St} (h : Moves s s1) (h2 : InTxn s1 t s2)
    (c : Bool) (st : Status) :
    Ends (rejectUnless c st) s2 (fun _ s3 => s3 = s2 ∧ c = true) fun _ s3 => Moves s s3 := by
  unfold rejectUnless
  cases c with
  | true => exact ends_pure ⟨rfl, rfl⟩
  | false =>
    refine Ends.andThen h2.rollback (fun _ _ hq => h.quiet hq.1) ?_
    intro _ s3 hs
    exact ends_throw (h.quiet hs.quiet)

theorem ends_orSticky {m other : Op Unit} {Q : Unit → St → Prop}
    (hm : Ends m s' Q fun _ s'' => Moves s s'')
    (hother : ∀ s'', Moves s s'' → EndsMoving other s s'') :
    Ends (orSticky m other) s' Q fun _ s'' => Moves s s'' := by
  refine ends_onFailure hm ?_
  intro st s'' h
  split
  · exact (ends_stickyStorage (E := fun _ s'' => Moves s s'') h).mono (fun _ _ h => h)
      fun _ _ h => h
  · exact hother s'' h

theorem ends_commitLiveBindingPut (live : LiveProfile) (generation : UInt64) (h : Moves s s') :
    EndsMoving (commitLiveBindingPut live generation) s s' := by
  refine ends_checked (fun _ _ hq => h.quiet hq) ?_
  intro m rows s2 hdisk hacc h2
  refine Ends.andThen (ends_rejectUnless h h2 _ _) (fun _ _ hm => hm) ?_
  rintro - s3 ⟨rfl, hzero⟩
  refine Ends.andThen (ends_rejectUnless h h2 _ _) (fun _ _ hm => hm) ?_
  rintro - s4 ⟨rfl, -⟩
  split
  · exact h2.rollback.mono (fun _ _ hs => h.quiet hs.quiet) fun _ _ hs => h.quiet hs.1
  · refine Ends.andThen (ends_rejectUnless h h2 _ _) (fun _ _ hm => hm) ?_
    rintro - s5 ⟨rfl, -⟩
    refine Ends.andThen (ends_orSticky ((h2.put _).mono (fun _ _ hin => hin) fun _ _ hq =>
      h.quiet hq.1) ?_) (fun _ _ hm => hm) ?_
    · intro s6 h6
      exact ends_rollbackMap.mono (fun _ _ hs => h6.quiet hs.quiet) fun _ _ hs => h6.quiet hs.1
    intro _ s6 h6
    have hx : Committed s'.disk (.bind live generation)
        ⟨some (m.bound live generation), rows⟩ := by
      rw [hdisk]
      exact .bind hacc (beq_iff_eq.1 hzero)
    refine ends_orSticky (h6.commit.mono ?_ ?_) ?_
    · intro _ s7 h7
      refine h.stored_keeping hx rfl rfl h7 ?_
      intro m₁ m₂ hm₁ hm₂
      rw [hdisk] at hm₁
      cases hm₁
      cases hm₂
      rfl
    · intro st s7 h7
      exact h.mayStore hx rfl (fun u hu => absurd hu List.not_mem_nil) h7.1
    · intro s7 h7
      exact ends_pure h7

theorem ends_commitLiveBinding (live : LiveProfile) (generation : UInt64) (h : Moves s s') :
    EndsMoving (commitLiveBinding live generation) s s' := by
  refine ends_guarded (fun _ => h) fun _ => ends_required h fun _ => ?_
  refine ends_getSt (ends_required h fun _ => ends_required h fun _ => ?_)
  refine ends_opened (fun _ _ hq => h.quiet hq) ?_
  intro s1 h1 _
  refine Ends.bind (ends_commitLiveBindingPut live generation (h.quiet h1.quiet)) ?_
  intro _ s2 h2
  exact Ends.bind (ends_ramOnly h2 ⟨rfl, rfl, rfl, id⟩) fun _ _ h3 => ends_clearRamValidate h3

/-- The meta record that was read is the one on the disk. -/
theorem ends_readMeta : Ends readMeta s (fun m s' => Same s s' ∧ s.disk.info = some m)
    fun _ s' => Quiet s s' ∧ (Faultless s → s.disk.info = none) := by
  refine Ends.andThen ends_begin (fun st s' h => ⟨h.1, fun hfl => absurd hfl h.2⟩) ?_
  rintro - s1 ⟨hs1, htxn1⟩
  have hin : InTxn s s.disk s1 := ⟨hs1, htxn1⟩
  have hread : Reads (do requireSome (← txnGetMeta) .invalidState : Op Meta)
      (fun t m => t.info = some m) fun t => t.info = none := by
    refine ((reads_getValue Namespace.info).mono (fun _ _ h => h) fun _ h => h.elim).bind ?_
    rintro (- | m)
    · exact reads_throw fun t h => h.symm
    · exact reads_pure fun t h => h.symm
  refine Ends.andThen (ends_orRollback (hin.reads hread)) (fun _ _ h => h) ?_
  rintro m s2 ⟨h2, hinfo⟩
  refine Ends.andThen h2.rollback (fun _ _ h => ⟨h.1, fun hfl => absurd hfl h.2⟩) ?_
  intro _ s3 h3
  exact ends_pure ⟨h3, hinfo⟩

theorem ends_setAssignmentGeneration (generation : UInt64) (h : Moves s s') :
    EndsMoving (setAssignmentGeneration generation) s s' := by
  refine ends_guarded (fun _ => h) fun _ => ends_required h fun _ => ?_
  refine ends_getSt (ends_required h fun _ => ?_)
  refine ends_opened (fun _ _ hq => h.quiet hq) ?_
  intro s1 h1 _
  refine Ends.andThen ends_readMeta (fun _ _ hq => (h.quiet h1.quiet).quiet hq.1) ?_
  rintro m s2 ⟨h2, -⟩
  exact ends_commitLiveBinding _ generation (h.quiet (h1.trans h2).quiet)

/-! ### Expiry -/

theorem fresh_of_reading {s1 : St} (hclock : s1.clock = s.clock)
    (htrust : s1.pcp.ramTrust = s.pcp.ramTrust)
    (hclass : classify s1.pcp.ramTrust s1.clock.head = .okTrusted) :
    Fresh s s1.clock.head.sample := by
  rw [hclock, htrust] at hclass
  rw [hclock]
  exact .inl ⟨hclass, rfl⟩

/-- A trusted reading, or the clock is fenced. -/
theorem ends_sampled {s1 : St} {k : TimeSample → Op β} {onFault : Op Unit}
    (h : Moves s s1)
    (hfault : ∀ s2, Moves s s2 → EndsMoving onFault s s2)
    (hk : ∀ t s2, Moves s s2 → classify s1.pcp.ramTrust s1.clock.head = .okTrusted →
      t = s1.clock.head.sample → Ends (k t) s2 R fun _ s' => Moves s s') :
    Ends (sampleClock >>= fun r => acceptSample onFault r >>= k) s1 R fun _ s' => Moves s s' := by
  refine Ends.bind ends_sampleClock ?_
  rintro r s2 ⟨rfl, rfl⟩
  have hmoves : Moves s { s1 with clock := s1.clock.tail } :=
    h.ramOnly (ramOnly_clock s1 _)
  refine Ends.bind (ends_acceptSample (fun _ => hmoves) ?_) ?_
  · exact (hfault _ hmoves).mono (fun _ _ hm _ => hm) fun _ _ hm => hm
  · rintro t s3 ⟨rfl, hclass, rfl⟩
    exact hk _ _ hmoves hclass rfl

theorem ends_setFenceClock' (s2 : St) (h : Moves s s2) :
    EndsMoving (setFenceClock : Op Unit) s s2 :=
  (ends_setFenceClock (E := fun _ s' => Moves s s') h).mono (fun _ _ h => h.1) fun _ _ h => h

/-- Between the rounds: once one has advanced, RAM and disk trust the sample. -/
structure Advancing (s : St) (t : TimeSample) (advanced : Bool) (s' : St) : Prop where
  moves : Moves s s'
  ram : advanced = true → s'.pcp.ramTrust = some t.moment
  disk : advanced = true → ∀ m, s'.disk.info = some m → m.trust = t.moment

variable {t : TimeSample} {advanced : Bool}

theorem Advancing.keep (h : Advancing s t advanced s') {s'' : St} (hq : Quiet s' s'') :
    EndsMoving (if advanced then (do setRamTrust t.moment; clearRamValidate : Op Unit)
      else pure ()) s s'' := by
  cases advanced with
  | false => exact ends_pure (h.moves.quiet hq)
  | true =>
    have hram : s''.pcp.ramTrust = some t.moment := by
      rw [hq.ramTrust]
      exact h.ram rfl
    exact Ends.bind (ends_ramOnly (h.moves.quiet hq) ⟨rfl, rfl, hram.symm, id⟩) fun _ _ h1 =>
      ends_clearRamValidate h1

theorem ends_orKeep {α : Type} {m : Op α} {Q : α → St → Prop} {B : Prop} {s2 : St}
    (h : Advancing s t advanced s') (hm : Ends m s2 Q fun _ s3 => Quiet s' s3 ∧ B) :
    Ends (orKeep advanced t m) s2 Q fun _ s3 => Moves s s3 :=
  ends_onFailure hm fun _ _ h3 => h.keep h3.1

theorem ends_advanceFinish (h : Advancing s t advanced s') {m : Meta} {s2 : St}
    {tx : Namespace} (hinfo : s'.disk.info = some m) (h2 : InTxn s' tx s2) :
    Ends (advanceFinish advanced m) s2 (fun done s'' => done = true ∧ Moves s s'')
      fun _ s'' => Moves s s'' := by
  refine Ends.bind (Q := fun _ s3 => Quiet s' s3) (ends_ignore ?_) ?_
  · exact h2.rollback.mono (fun _ _ hs => hs.quiet) fun _ _ hs => hs.1
  intro _ s3 h3
  cases advanced with
  | false => exact ends_pure ⟨rfl, h.moves.quiet h3⟩
  | true =>
    have hram : s3.pcp.ramTrust = some m.trust := by
      rw [h3.ramTrust, h.ram rfl, h.disk rfl m hinfo]
    refine Ends.bind (ends_ramOnly (h.moves.quiet h3) ⟨rfl, rfl, hram.symm, id⟩) ?_
    intro _ s4 h4
    exact Ends.bind (ends_clearRamValidate h4) fun _ _ h5 => ends_pure ⟨rfl, h5⟩

theorem ends_advanceHead (hfresh : Fresh s t) (h : Advancing s t advanced s') {m : Meta}
    {rows : Rows} {iss : Issued} {s2 : St} (h2 : InTxn s' ⟨some m, rows⟩ s2)
    (hx : Committed s'.disk (.expire iss t) ⟨some (m.dropHead.trusting t),
      rows.insert iss.permitSequence { iss with state := .revoked }⟩) :
    Ends (advanceHead advanced t m iss) s2
      (fun done s'' => done = false ∧ Advancing s t true s'') fun _ s'' => Moves s s'' := by
  have hsample : ∀ u ∈ (Txn.expire iss t).samples, Fresh s u := by
    intro u hu
    rw [List.mem_singleton.1 hu]
    exact hfresh
  refine Ends.bind (ends_orKeep h (ends_orRollback (h2.put _))) ?_
  intro _ s3 h3
  refine Ends.bind (ends_orKeep h (ends_orRollback (h3.put _))) ?_
  intro _ s4 h4
  have hcommit : Ends (advanceCommit advanced t) s4
      (fun _ s5 => Stored s' ⟨some (m.dropHead.trusting t),
        rows.insert iss.permitSequence { iss with state := .revoked }⟩ s5)
      fun _ s5 => Moves s s5 := by
    refine ends_onFailure h4.commit ?_
    rintro st s5 ⟨hc, -, hclosed, -⟩
    split
    · exact ends_clearRamValidate (h.moves.mayStore hx rfl hsample hc)
    · rename_i hst
      have hq : Quiet s' s5 :=
        ⟨hclosed hst, hc.pcp, hc.fence, hc.clockFence, hc.clock, hc.faultless⟩
      exact h.keep hq
  refine Ends.bind hcommit ?_
  intro _ s5 h5
  refine Ends.bind (Q := fun _ s6 => s6 = { s5 with pcp := { s5.pcp with
    outstandingCountCache := m.dropHead.outstandingCount } }) (ends_modifyPcp rfl) ?_
  rintro - s6 rfl
  refine Ends.bind (Q := fun _ s7 => s7 = { s5 with pcp := { s5.pcp with
    outstandingCountCache := m.dropHead.outstandingCount
    ramTrust := some t.moment } }) (ends_modifyPcp rfl) ?_
  rintro - s7 rfl
  refine Ends.bind (Q := fun _ s8 => s8 = { s5 with pcp := { s5.pcp with
    outstandingCountCache := m.dropHead.outstandingCount
    ramTrust := some t.moment
    ramValidate := none } }) (ends_modifyPcp rfl) ?_
  rintro - s8 rfl
  have hfence : s5.pcp.fence = s'.pcp.fence := by rw [h5.pcp]
  refine ends_pure ⟨rfl, h.moves.stored hx rfl hsample h5.disk hfence ?_, fun _ => rfl, ?_⟩
  · rintro - m' hm' - -
    cases hm'
    rfl
  · intro _ m' hm'
    have hm : s5.disk.info = some m' := hm'
    rw [h5.disk] at hm
    cases hm
    rfl

theorem ends_advanceRound (hfresh : Fresh s t) (h : Advancing s t advanced s') :
    Ends (advanceRound t advanced) s'
      (fun done s'' => Moves s s'' ∧ (done = false → Advancing s t true s''))
      fun _ s'' => Moves s s'' := by
  refine Ends.bind (ends_orKeep h ends_begin) ?_
  rintro - s1 ⟨hs1, htxn1⟩
  have hin : InTxn s' s'.disk s1 := ⟨hs1, htxn1⟩
  refine Ends.bind (ends_orKeep h (ends_orRollback (hin.reads reads_rwScanCheck))) ?_
  rintro m s2 ⟨h2, hinfo, hacc⟩
  have hdisk : s'.disk = ⟨some m, s'.disk.rows⟩ := by rw [← hinfo]
  rw [hdisk] at h2
  refine Ends.andThen (ends_orRollback (B := True) ((ends_requireUnfenced _).mono
    (fun _ _ h => h) ?_)) (fun _ _ hq => h.moves.quiet hq.1) ?_
  · rintro _ s3 rfl
    exact ⟨h2.same.quiet, trivial⟩
  rintro - _ ⟨rfl, hfence⟩
  rename_i s3
  have hfinish : Ends (advanceFinish advanced m) s3
      (fun done s'' => Moves s s'' ∧ (done = false → Advancing s t true s''))
      fun _ s'' => Moves s s'' := by
    refine (ends_advanceFinish h hinfo h2).mono ?_ fun _ _ h => h
    rintro done s'' ⟨rfl, hm⟩
    exact ⟨hm, fun h => by cases h⟩
  split
  · exact hfinish
  · rename_i hpos
    refine Ends.andThen (ends_orRollback (h2.reads (reads_getHead _)))
      (fun _ _ hq => h.moves.quiet hq.1) ?_
    rintro iss s3 ⟨h3, hlookup, hseq, hissued⟩
    split
    · rename_i hexpired
      refine (ends_advanceHead hfresh h h3 ?_).mono ?_ fun _ _ h => h
      · rw [hdisk]
        refine .expire hacc ⟨Nat.pos_of_ne_zero hpos, hlookup, hissued, rfl, ?_⟩ hfence hexpired
        rw [hseq]
      · rintro done s4 ⟨-, h4⟩
        exact ⟨h4.moves, fun _ => h4⟩
    · refine (ends_advanceFinish h hinfo h3).mono ?_ fun _ _ h => h
      rintro done s'' ⟨rfl, hm⟩
      exact ⟨hm, fun h => by cases h⟩

theorem ends_advanceRounds (hfresh : Fresh s t) (n : ℕ) (h : Advancing s t advanced s') :
    EndsMoving (advanceRounds t advanced n) s s' := by
  induction n generalizing s' advanced with
  | zero => exact ends_throw h.moves
  | succ n ih =>
    refine Ends.bind (ends_advanceRound hfresh h) ?_
    rintro done s1 ⟨h1, hnext⟩
    cases done with
    | true => exact ends_pure h1
    | false => exact ih (hnext rfl)

theorem ends_advanceExpiredHeads : EndsMoving advanceExpiredHeads s.unpinned s := by
  have hbase := moves_unpinned s
  refine ends_guarded (fun _ => hbase) fun _ => ends_getSt ?_
  refine ends_required hbase fun _ => ends_required hbase fun _ => ?_
  refine ends_opened (fun _ _ hq => hbase.quiet hq) ?_
  intro s1 h1 _
  refine ends_sampled (hbase.quiet h1.quiet) ends_setFenceClock' ?_
  rintro t s2 h2 hclass rfl
  have hfresh := fresh_of_reading (s := s.unpinned) h1.clock h1.ramTrust hclass
  have hstart : Advancing s.unpinned s1.clock.head.sample false s2 :=
    ⟨h2, fun h => absurd h (by decide), fun h => absurd h (by decide)⟩
  exact ends_getSt (ends_advanceRounds hfresh _ hstart)

/-! ### Erasing -/

theorem erase_of_none {rows : Rows} {q : UInt64} (h : rows.lookup q = none) :
    rows.erase q = rows := by
  refine AList.ext ?_
  exact List.kerase_of_notMem_keys (AList.lookup_eq_none.1 h)

/-- A row is erased; without faults this does not fail. -/
theorem InTxn.erase {s1 : St} {ns : Namespace} (h : InTxn s ns s1) (q : UInt64) :
    Ends (txnErase q) s1 (fun _ s2 => InTxn s { ns with rows := ns.rows.erase q } s2)
      fun _ s2 => Quiet s s2 ∧ ¬Faultless s := by
  refine Ends.bind ends_nextReply ?_
  rintro r s2 ⟨rfl, rfl⟩
  refine Ends.andThen (ends_checkAnswer rfl)
    (fun _ _ hf => ⟨h.same.quiet.trans hf.1, fun hfl => hf.2 (h.same.faultless hfl)⟩) ?_
  rintro - _ rfl
  have hs := h.same.trans (same_answered s1)
  refine ends_modify ⟨⟨hs.disk, hs.pcp, hs.live, hs.clock, hs.entropy, hs.faultless⟩, ?_⟩
  show { s1.txn with rows := s1.txn.rows.erase q } = _
  rw [h.txn]

theorem ends_gcErase {m : Meta} {seqs : List UInt64} {s1 : St} {ns : Namespace}
    (h : InTxn s ns s1) :
    Ends (gcErase m seqs) s1 (fun _ s2 => InTxn s { ns with rows := eraseAll ns.rows seqs } s2 ∧
        ∀ q ∈ seqs, q ≤ m.lastConsumedSeq)
      fun _ s2 => Quiet s s2 ∧ True := by
  induction seqs generalizing ns s1 with
  | nil => exact ends_pure ⟨h, fun _ hq => absurd hq List.not_mem_nil⟩
  | cons q seqs ih =>
    refine Ends.andThen (h.require _ _) (fun _ _ hq => ⟨hq.1, trivial⟩) ?_
    rintro - s2 ⟨h2, hc⟩
    have hle : q ≤ m.lastConsumedSeq := by
      simp only [Bool.and_eq_true, decide_eq_true_eq] at hc
      exact hc.2
    refine Ends.andThen (h2.reads (reads_txnGetIss q)) (fun _ _ hq => ⟨hq.1, trivial⟩) ?_
    have hall : (∀ p ∈ seqs, p ≤ m.lastConsumedSeq) →
        ∀ p ∈ q :: seqs, p ≤ m.lastConsumedSeq := by
      intro hseqs p hp
      rcases List.mem_cons.1 hp with rfl | hp
      · exact hle
      · exact hseqs p hp
    rintro (- | iss) s3 ⟨h3, hlookup, -⟩
    · refine (ih h3).mono ?_ fun _ _ h => h
      rintro - s4 ⟨h4, hseqs⟩
      refine ⟨?_, hall hseqs⟩
      show InTxn s { ns with rows := eraseAll (ns.rows.erase q) seqs } s4
      rw [erase_of_none hlookup]
      exact h4
    · refine Ends.andThen (h3.require _ _) (fun _ _ hq => ⟨hq.1, trivial⟩) ?_
      rintro - s4 ⟨h4, -⟩
      refine Ends.andThen (h4.erase q) (fun _ _ hq => ⟨hq.1, trivial⟩) ?_
      intro _ s5 h5
      refine (ih h5).mono ?_ fun _ _ h => h
      rintro - s6 ⟨h6, hseqs⟩
      exact ⟨h6, hall hseqs⟩

/-- What erasing rows may commit. -/
theorem ends_gcTerminalRecords (seqs : List UInt64) :
    Ends (gcTerminalRecords seqs) s (fun _ s' => Effect s [.gc seqs] s')
      fun _ s' => ∃ xs, Effect s xs s' ∧ (xs = [] ∨ xs = [.gc seqs]) := by
  have hquiet : ∀ s', Quiet s s' → ∃ xs, Effect s xs s' ∧ (xs = [] ∨ xs = [.gc seqs]) :=
    fun s' hq => ⟨[], hq.effect, .inl rfl⟩
  refine ends_guarded (fun _ => hquiet s (Quiet.refl s)) fun _ => ?_
  refine ends_required (hquiet s (Quiet.refl s)) fun _ => ?_
  refine ends_opened (fun _ s' hq => hquiet s' hq) ?_
  intro s1 h1 _
  refine ends_checked (fun _ s' hq => hquiet s' (h1.quiet.trans hq)) ?_
  intro m rows s2 hdisk hacc h2
  refine Ends.andThen (ends_orRollback (ends_gcErase h2))
    (fun _ s' hq => hquiet s' (h1.quiet.trans hq.1)) ?_
  rintro - s3 ⟨h3, hseqs⟩
  refine Ends.andThen (ends_orRollback (h3.put _))
    (fun _ s' hq => hquiet s' (h1.quiet.trans hq.1)) ?_
  intro _ s4 h4
  have hx : Committed s1.disk (.gc seqs) ⟨some m, eraseAll rows seqs⟩ := by
    rw [hdisk]
    exact .gc hacc hseqs
  refine h4.commit.mono ?_ ?_
  · intro _ s5 h5
    refine h1.quiet.effect.stored_keeping hx rfl h5 ?_
    intro m₁ m₂ hm₁ hm₂
    rw [hdisk] at hm₁
    cases hm₁
    cases hm₂
    rfl
  · rintro st s5 ⟨hc, -⟩
    obtain ⟨xs, hxs, rfl | ⟨rfl, -⟩⟩ :=
      h1.quiet.effect.mayStore hx (fun u hu => absurd hu List.not_mem_nil) hc
    · exact ⟨[], hxs, .inl rfl⟩
    · exact ⟨[.gc seqs], hxs, .inr rfl⟩

end Upkeep

end Ninlil.Permit
