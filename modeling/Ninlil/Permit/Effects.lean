import Ninlil.Permit.Authority

/-!
# The permit authority: the effect of a call

* `Effect`: the transactions of a call, where its samples come from, and what happens to the clock
  fence and to the moment trusted in RAM;
* a lemma for each step that the calls share;
* the effect of each call, whether it succeeds or fails.
-/

namespace Ninlil.Permit

open Outcomes

/-! ### Effects -/

/-- The samples of transactions. -/
def Txn.samples : Txn → List TimeSample
  | .expire _ t | .consume _ t | .reEpoch t | .issue _ _ t | .reClock t => [t]
  | _ => []

/-- A sample is the next reading of the clock, trusted, or the pinned one. -/
def Fresh (s : St) (t : TimeSample) : Prop :=
  (classify s.pcp.ramTrust s.clock.head = .okTrusted ∧ t = s.clock.head.sample) ∨
    ∃ r, s.pcp.issueSampleSticky = some r ∧ t = r.sample

/-- RAM and disk trust the same moment, unless there is a fence. -/
def InSync (s : St) : Prop :=
  s.pcp.published = true → s.pcp.fence.any = false →
    ∃ m, s.disk.info = some m ∧ s.pcp.ramTrust = some m.trust

/-- The transactions of a call and what it does in RAM. -/
structure Effect (s : St) (xs : List Txn) (s' : St) : Prop where
  path : Path s.disk xs s'.disk
  samples : ∀ x ∈ xs, ∀ t ∈ x.samples, Fresh s t
  clockFence : s.pcp.fence.clock = true → s'.pcp.fence.clock = true
  inSync : InSync s → InSync s'

/-- A transaction that neither adds a row nor erases one. -/
def Txn.plain : Txn → Bool
  | .issue .. | .gc _ => false
  | _ => true

/-- Some plain transactions. -/
def Moves (s s' : St) : Prop := ∃ xs, Effect s xs s' ∧ ∀ x ∈ xs, x.plain = true

section Effects

variable {s s' s'' : St} {xs : List Txn} {x : Txn}

theorem Effect.refl (s : St) : Effect s [] s where
  path := .nil s.disk
  samples _ hx := absurd hx List.not_mem_nil
  clockFence := id
  inSync := id

theorem plain_nil : ∀ x ∈ ([] : List Txn), x.plain = true := fun _ hx =>
  absurd hx List.not_mem_nil

theorem plain_append (h : ∀ y ∈ xs, y.plain = true) (hx : x.plain = true) :
    ∀ y ∈ xs ++ [x], y.plain = true := by
  intro y hy
  rcases List.mem_append.1 hy with hy | hy
  · exact h y hy
  · rw [List.mem_singleton.1 hy]
    exact hx

theorem Moves.refl (s : St) : Moves s s := ⟨[], Effect.refl s, plain_nil⟩

theorem InSync.quiet (h : InSync s) (hq : Quiet s s') : InSync s' := by
  intro hpub hany
  rw [hq.published] at hpub
  obtain ⟨m, hm, ht⟩ := h hpub (hq.fence.any hany)
  exact ⟨m, by rw [hq.disk, hm], by rw [hq.ramTrust, ht]⟩

theorem Effect.quiet (h : Effect s xs s') (hq : Quiet s' s'') : Effect s xs s'' where
  path := by
    rw [hq.disk]
    exact h.path
  samples := h.samples
  clockFence hf := by
    rw [hq.clockFence]
    exact h.clockFence hf
  inSync hs := (h.inSync hs).quiet hq

theorem Quiet.effect (h : Quiet s s') : Effect s [] s' := (Effect.refl s).quiet h

theorem Moves.quiet (h : Moves s s') (hq : Quiet s' s'') : Moves s s'' := by
  obtain ⟨xs, hx, hplain⟩ := h
  exact ⟨xs, hx.quiet hq, hplain⟩

/-- A change of RAM that touches neither the fence nor the moment trusted. -/
structure RamOnly (s s' : St) : Prop where
  disk : s'.disk = s.disk
  fence : s'.pcp.fence = s.pcp.fence
  ramTrust : s'.pcp.ramTrust = s.pcp.ramTrust
  published : s'.pcp.published = true → s.pcp.published = true

theorem Effect.ramOnly (h : Effect s xs s') (hr : RamOnly s' s'') : Effect s xs s'' where
  path := by
    rw [hr.disk]
    exact h.path
  samples := h.samples
  clockFence hf := by
    rw [hr.fence]
    exact h.clockFence hf
  inSync hs hpub hany := by
    rw [hr.fence] at hany
    rw [hr.disk, hr.ramTrust]
    exact h.inSync hs (hr.published hpub) hany

theorem Moves.ramOnly (h : Moves s s') (hr : RamOnly s' s'') : Moves s s'' := by
  obtain ⟨xs, hx, hplain⟩ := h
  exact ⟨xs, hx.ramOnly hr, hplain⟩

variable {t : Namespace}

/-- A commit that fails. -/
theorem Effect.mayStore (h : Effect s xs s') (hx : Committed s'.disk x t)
    (hfresh : ∀ u ∈ x.samples, Fresh s u) (hc : MayStore s' t s'') :
    ∃ ys, Effect s ys s'' ∧ (ys = xs ∨ ys = xs ++ [x] ∧ s''.pcp.fence.any = true) := by
  have hkeep : s.pcp.fence.clock = true → s''.pcp.fence.clock = true := fun hf => by
    rw [hc.clockFence]
    exact h.clockFence hf
  rcases hc.disk with hdisk | ⟨hdisk, hst⟩
  · refine ⟨xs, ⟨?_, h.samples, hkeep, ?_⟩, .inl rfl⟩
    · rw [hdisk]
      exact h.path
    · intro hs hpub hany
      have hpub' : s'.pcp.published = true := by
        rw [hc.pcp] at hpub
        exact hpub
      have htrust : s''.pcp.ramTrust = s'.pcp.ramTrust := by rw [hc.pcp]
      rw [hdisk, htrust]
      exact h.inSync hs hpub' (hc.fence.any hany)
  · have hany : s''.pcp.fence.any = true := by
      unfold Fences.any
      rw [hst]
      rfl
    refine ⟨xs ++ [x], ⟨?_, ?_, hkeep, ?_⟩, .inr ⟨rfl, hany⟩⟩
    · rw [hdisk]
      exact h.path.append (.single hx)
    · intro y hy u hu
      rcases List.mem_append.1 hy with hy | hy
      · exact h.samples y hy u hu
      · rw [List.mem_singleton.1 hy] at hu
        exact hfresh u hu
    · intro _ _ hnone
      rw [hany] at hnone
      cases hnone

/-- A commit that succeeds: what RAM has to look like afterwards. -/
theorem Effect.stored (h : Effect s xs s') (hx : Committed s'.disk x t)
    (hfresh : ∀ u ∈ x.samples, Fresh s u) (hdisk : s''.disk = t)
    (hclock : s''.pcp.fence = s'.pcp.fence)
    (hsync : InSync s → ∀ m, t.info = some m → s''.pcp.published = true →
      s''.pcp.fence.any = false → s''.pcp.ramTrust = some m.trust) : Effect s (xs ++ [x]) s'' where
  path := by
    rw [hdisk]
    exact h.path.append (.single hx)
  samples y hy u hu := by
    rcases List.mem_append.1 hy with hy | hy
    · exact h.samples y hy u hu
    · rw [List.mem_singleton.1 hy] at hu
      exact hfresh u hu
  clockFence hf := by
    rw [hclock]
    exact h.clockFence hf
  inSync hs hpub hany := by
    obtain ⟨m, hm⟩ := hx.info
    exact ⟨m, by rw [hdisk, hm], hsync hs m hm hpub hany⟩

/-- A commit that succeeds and leaves the moment trusted alone. -/
theorem Effect.stored_keeping (h : Effect s xs s') (hx : Committed s'.disk x t)
    (hnone : x.samples = []) (hc : Stored s' t s'')
    (htrust : ∀ m m', s'.disk.info = some m → t.info = some m' → m'.trust = m.trust) :
    Effect s (xs ++ [x]) s'' := by
  refine h.stored hx ?_ hc.disk ?_ ?_
  · intro u hu
    rw [hnone] at hu
    exact absurd hu List.not_mem_nil
  · rw [hc.pcp]
  · intro hs m' hm' hpub hany
    rw [hc.pcp] at hpub hany ⊢
    obtain ⟨m, hm, ht⟩ := h.inSync hs hpub hany
    rw [ht, htrust m m' hm hm']

/-- A commit of a plain transaction that fails. -/
theorem Moves.mayStore (h : Moves s s') (hx : Committed s'.disk x t)
    (hplain : x.plain = true) (hfresh : ∀ u ∈ x.samples, Fresh s u) (hc : MayStore s' t s'') :
    Moves s s'' := by
  obtain ⟨xs, hxs, hall⟩ := h
  obtain ⟨ys, hys, rfl | ⟨rfl, -⟩⟩ := hxs.mayStore hx hfresh hc
  · exact ⟨ys, hys, hall⟩
  · exact ⟨xs ++ [x], hys, plain_append hall hplain⟩

/-- A commit of a plain transaction that succeeds. -/
theorem Moves.stored (h : Moves s s') (hx : Committed s'.disk x t)
    (hplain : x.plain = true) (hfresh : ∀ u ∈ x.samples, Fresh s u) (hdisk : s''.disk = t)
    (hclock : s''.pcp.fence = s'.pcp.fence)
    (hsync : InSync s → ∀ m, t.info = some m → s''.pcp.published = true →
      s''.pcp.fence.any = false → s''.pcp.ramTrust = some m.trust) : Moves s s'' := by
  obtain ⟨xs, hxs, hall⟩ := h
  exact ⟨xs ++ [x], hxs.stored hx hfresh hdisk hclock hsync, plain_append hall hplain⟩

theorem Moves.stored_keeping (h : Moves s s') (hx : Committed s'.disk x t)
    (hplain : x.plain = true) (hnone : x.samples = []) (hc : Stored s' t s'')
    (htrust : ∀ m m', s'.disk.info = some m → t.info = some m' → m'.trust = m.trust) :
    Moves s s'' := by
  obtain ⟨xs, hxs, hall⟩ := h
  exact ⟨xs ++ [x], hxs.stored_keeping hx hnone hc htrust, plain_append hall hplain⟩

end Effects

/-! ### Pins -/

/-- The state without its pinned sample. -/
def St.unpinned (s : St) : St := { s with pcp := { s.pcp with issueSampleSticky := none } }

section Pins

variable {s s' : St} {t : TimeSample}

theorem moves_unpinned (s : St) : Moves s.unpinned s :=
  (Moves.refl s.unpinned).ramOnly ⟨rfl, rfl, rfl, id⟩

/-- Without a pin a sample is a reading. -/
theorem Fresh.reading (h : Fresh s.unpinned t) :
    classify s.pcp.ramTrust s.clock.head = .okTrusted ∧ t = s.clock.head.sample := by
  obtain h | ⟨r, hr, -⟩ := h
  · exact h
  · cases hr

theorem Moves.pinned (h : Moves s.unpinned s') : Moves s s' := by
  obtain ⟨xs, h, hall⟩ := h
  exact ⟨xs, ⟨h.path, fun x hx t ht => .inl (h.samples x hx t ht).reading, h.clockFence,
    h.inSync⟩, hall⟩

/-- The state without its pinned sample, and with a clock that gives none. -/
def St.blind (s : St) : St :=
  { s.unpinned with clock := Stream'.const ⟨.permanentFailure, s.clock.head.sample⟩ }

theorem moves_blind (s : St) : Moves s.blind s :=
  (Moves.refl s.blind).ramOnly ⟨rfl, rfl, rfl, id⟩

/-- From such a state there is no sample. -/
theorem not_fresh_blind : ¬Fresh s.blind t := by
  rintro (⟨hclass, -⟩ | ⟨r, hr, -⟩)
  · cases hclass
  · cases hr

theorem Moves.sighted (h : Moves s.blind s') : Moves s s' := by
  obtain ⟨xs, h, hall⟩ := h
  exact ⟨xs, ⟨h.path, fun x hx t ht => absurd (h.samples x hx t ht) not_fresh_blind,
    h.clockFence, h.inSync⟩, hall⟩

end Pins

/-! ### Shared steps -/

section Steps

variable {s : St} {E : Status → St → Prop}

theorem ends_guardActive : Ends guardActive s (fun _ s' => s' = s ∧ s.pcp.issueCsHeld = false)
    fun _ s' => s' = s := by
  refine Ends.bind (Q := fun a s' => a = s ∧ s' = s) (ends_get ⟨rfl, rfl⟩) ?_
  rintro _ _ ⟨rfl, rfl⟩
  refine Ends.bind (ends_require fun _ => rfl) ?_
  rintro - s1 ⟨rfl, -⟩
  refine (ends_require (E := fun _ s' => s' = s1) fun _ => rfl).mono ?_ fun _ _ h => h
  rintro - s2 ⟨rfl, hheld⟩
  exact ⟨rfl, by simpa using hheld⟩

theorem ends_requireUnfenced (f : Fences) :
    Ends (requireUnfenced f) s (fun _ s' => s' = s ∧ f.any = false) fun _ s' => s' = s := by
  unfold requireUnfenced Fences.any
  split
  · exact ends_throw rfl
  · rename_i hcorrupt
    split
    · exact ends_throw rfl
    · rename_i hclock
      split
      · exact ends_throw rfl
      · rename_i hstorage
        refine ends_pure ⟨rfl, ?_⟩
        simp [hcorrupt, hclock, hstorage]

theorem ends_acceptSample {onFault : Op Unit} {r : Sampled} (hrefl : ∀ st, E st s)
    (hfault : Ends onFault s (fun _ s' => ∀ st, E st s') E) :
    Ends (acceptSample onFault r) s
      (fun t s' => s' = s ∧ r.klass = .okTrusted ∧ t = r.sample) E := by
  obtain ⟨k, t⟩ := r
  have hthrow : Ends (do onFault; throw .clockFault : Op TimeSample) s
      (fun t' s' => s' = s ∧ k = .okTrusted ∧ t' = t) E :=
    Ends.bind hfault fun _ _ h => ends_throw (h _)
  cases k with
  | okTrusted => exact ends_pure ⟨rfl, rfl, rfl⟩
  | okUncertain | temp => exact ends_throw (hrefl _)
  | faultPerm | faultIllformed | faultUnknown | faultRegression => exact hthrow

theorem reads_headOf (seq : UInt64) :
    Reads (headOf seq) (fun t r => t.rows.lookup seq = some r ∧ r.permitSequence = seq ∧
        r.state = .issued)
      fun t => ¬∃ r, t.rows.lookup seq = some r ∧ r.permitSequence = seq ∧ r.state = .issued := by
  refine ((reads_txnGetIss seq).mono (fun _ _ h => h) ?_).bind ?_
  · rintro t ⟨r, hr, hseq⟩ ⟨r', hr', hseq', -⟩
    rw [hr] at hr'
    cases hr'
    exact hseq hseq'
  rintro (- | iss)
  · refine reads_failCorrupt ?_
    rintro t ⟨hnone, -⟩ ⟨r, hr, -⟩
    rw [hnone] at hr
    cases hr
  · refine ((reads_requireSound _).mono (D := fun _ _ => iss.state = .issued)
      (fun _ _ h => beq_iff_eq.1 h) ?_).bind ?_
    · rintro t hst ⟨hsome, -⟩ ⟨r, hr, -, hissued⟩
      rw [hsome] at hr
      cases hr
      rw [hissued] at hst
      cases hst
    · intro _
      refine reads_pure ?_
      rintro t hst ⟨hsome, hseq⟩
      exact ⟨hsome, hseq iss rfl, hst⟩

theorem reads_getHead (seq : UInt64) :
    Reads (getHead seq) (fun t r => t.rows.lookup seq = some r ∧ r.permitSequence = seq ∧
        r.state = .issued)
      fun t => ¬∃ r, t.rows.lookup seq = some r ∧ r.permitSequence = seq ∧ r.state = .issued := by
  intro s
  refine ends_mapFailure (ends_onFailure (reads_headOf seq s) ?_)
  rintro st s' ⟨hq, hb⟩
  exact ends_modifyPcp ⟨hq.trans ⟨rfl, rfl, ⟨id, id, fun _ => rfl⟩, rfl, rfl, id⟩, hb⟩

theorem ends_sampleClock {ε : Type} {E : ε → St → Prop} :
    Ends (sampleClock : Prog St ε Sampled) s (fun r s' =>
      r = ⟨classify s.pcp.ramTrust s.clock.head, s.clock.head.sample⟩ ∧
        s' = { s with clock := s.clock.tail }) E :=
  ⟨rfl, rfl⟩

/-- A reading of the clock leaves everything else alone. -/
theorem ramOnly_clock (s : St) (c : Stream' ClockReply) : RamOnly s { s with clock := c } :=
  ⟨rfl, rfl, rfl, id⟩

end Steps

/-! ### Fences -/

/-- A commit that may or may not have taken effect. -/
structure Tried (s s' : St) : Prop where
  disk : s'.disk = s.disk ∨ s'.disk = s.txn
  pcp : s'.pcp = { s.pcp with handleLive := s'.pcp.handleLive, fence := s'.pcp.fence }
  fence : s.pcp.fence.Le s'.pcp.fence
  clockFence : s'.pcp.fence.clock = s.pcp.fence.clock

/-- Nothing is stored but perhaps a fence. -/
structure Fenced (s s' : St) : Prop where
  disk : s'.disk = s.disk ∨ ∃ f, Committed s.disk (.fence f) s'.disk
  pcp : s'.pcp = { s.pcp with handleLive := s'.pcp.handleLive, fence := s'.pcp.fence }
  fence : s.pcp.fence.Le s'.pcp.fence
  clockFence : s'.pcp.fence.clock = s.pcp.fence.clock

section Fencing

variable {s s' s'' : St}

theorem Quiet.fenced (h : Quiet s s') : Fenced s s' :=
  ⟨.inl h.disk, h.pcp, h.fence, h.clockFence⟩

theorem MayCommit.tried (h : MayCommit s s') : Tried s s' :=
  ⟨h.disk.imp id And.left, h.pcp, h.fence, h.clockFence⟩

theorem Commits.tried (h : Commits s s') : Tried s s' where
  disk := .inr h.disk
  pcp := by rw [h.pcp]
  fence := by
    rw [h.pcp]
    exact Fences.Le.refl _
  clockFence := by rw [h.pcp]

theorem Namespace.eq_of_info {ns : Namespace} {m : Meta} (h : ns.info = some m) :
    ns = ⟨some m, ns.rows⟩ := by
  rw [← h]

theorem ends_commitRaw {E : Status → St → Prop} : Ends commitRaw s (fun _ s' => Tried s s') E := by
  refine ends_storageCommit.mono ?_ fun _ _ h => h
  rintro st s' ⟨rfl, -⟩
  refine ⟨?_, rfl, Fences.Le.refl _, rfl⟩
  cases h : (s.replies 0).takesEffect with
  | false => exact .inl rfl
  | true => exact .inr rfl

theorem ends_stickyTxn {α : Type} {commit : Op α} (f : Fences → Fences)
    (hcommit : ∀ s, Ends commit s (fun _ s' => Tried s s') fun _ s' => Tried s s') :
    Ends (stickyTxn f commit) s (fun _ s' => Fenced s s') fun _ s' => Fenced s s' := by
  refine Ends.andThen ends_begin (fun _ _ h => h.1.fenced) ?_
  rintro - s1 ⟨hs1, htxn1⟩
  refine Ends.andThen (reads_rwScanCheck.orRollback s1)
    (fun _ _ h => (hs1.quiet.trans h.1).fenced) ?_
  rintro m s2 ⟨hs2, htxn2, hinfo, hacc⟩
  refine Ends.andThen (ends_onFailure (ends_putValue _) ?_) (fun _ _ h => h) ?_
  · rintro st s' ⟨hq, -⟩
    have hall : Quiet s s' := (hs1.trans hs2).quiet.trans hq
    exact ends_rollbackMap.mono (fun _ _ h => (hall.trans h.quiet).fenced)
      fun _ _ h => (hall.trans h.1).fenced
  rintro - s3 ⟨hs3, htxn3⟩
  have hall : Same s s3 := (hs1.trans hs2).trans hs3
  have hfenced : ∀ s4, Tried s3 s4 → Fenced s s4 := by
    intro s4 h4
    refine ⟨?_, ?_, ?_, ?_⟩
    · rcases h4.disk with hdisk | hdisk
      · exact .inl (hdisk.trans hall.disk)
      · refine .inr ⟨f m.fences, ?_⟩
        rw [htxn1] at hinfo hacc
        rw [hdisk, htxn3, htxn2, htxn1, Namespace.eq_of_info hinfo]
        exact .fence hacc _
    · rw [h4.pcp, hall.pcp]
    · have hle := h4.fence
      rwa [hall.fence] at hle
    · rw [h4.clockFence, hall.fence]
  exact Ends.andThen (hcommit s3) (fun _ s4 h => hfenced s4 h) fun _ s4 h =>
    ends_pure (hfenced s4 h)

theorem Moves.fenced (h : Moves s s') (hany : s'.pcp.fence.any = true) (hf : Fenced s' s'') :
    Moves s s'' := by
  obtain ⟨xs, h, hall⟩ := h
  have hstill : s''.pcp.fence.any = true := by
    refine Bool.eq_true_of_not_eq_false fun hnone => ?_
    rw [hf.fence.any hnone] at hany
    cases hany
  have hkeep : s.pcp.fence.clock = true → s''.pcp.fence.clock = true := fun hc =>
    hf.fence.clock (h.clockFence hc)
  have hsync : InSync s → InSync s'' := fun _ _ hnone => by
    rw [hstill] at hnone
    cases hnone
  rcases hf.disk with hdisk | ⟨f, hx⟩
  · refine ⟨xs, ⟨?_, h.samples, hkeep, hsync⟩, hall⟩
    rw [hdisk]
    exact h.path
  · refine ⟨xs ++ [.fence f], ⟨h.path.append (.single hx), ?_, hkeep, hsync⟩,
      plain_append hall rfl⟩
    intro y hy t ht
    rcases List.mem_append.1 hy with hy | hy
    · exact h.samples y hy t ht
    · rw [List.mem_singleton.1 hy] at ht
      exact absurd ht List.not_mem_nil

/-- The fence in RAM is set, and perhaps stored. -/
theorem ends_stickyFence {ε : Type} {E : ε → St → Prop} {f : Fences → Fences}
    (hle : ∀ g : Fences, g.Le (f g)) (hany : ∀ g, (f g).any = true) (h : Moves s s') :
    Ends (stickyFence f : Prog St ε Unit) s'
      (fun _ s'' => Moves s s'' ∧ (f s'.pcp.fence).Le s''.pcp.fence) E := by
  refine Ends.bind (Q := fun _ s1 =>
    s1 = { s' with pcp := { s'.pcp with fence := f s'.pcp.fence, ramValidate := none } })
    (ends_modifyPcp rfl) ?_
  rintro - s1 hs1
  have h1 : Moves s s1 := by
    obtain ⟨xs, h, hall⟩ := h
    subst hs1
    refine ⟨xs, ⟨h.path, h.samples, fun hc => (hle _).clock (h.clockFence hc), ?_⟩, hall⟩
    intro _ _ hnone
    have hnone' : (f s'.pcp.fence).any = false := hnone
    rw [hany] at hnone'
    cases hnone'
  have hfence : s1.pcp.fence = f s'.pcp.fence := by rw [hs1]
  refine Ends.bind (Q := fun a s2 => a = s1 ∧ s2 = s1) (ends_get ⟨rfl, rfl⟩) ?_
  rintro _ _ ⟨rfl, rfl⟩
  rename_i s2
  have hdone : ∀ s3, Fenced s2 s3 → Moves s s3 ∧ (f s'.pcp.fence).Le s3.pcp.fence := by
    intro s3 h3
    refine ⟨h1.fenced ?_ h3, ?_⟩
    · rw [hfence]
      exact hany _
    · rw [← hfence]
      exact h3.fence
  split
  · refine (ends_ignore (P := fun s3 => Fenced s2 s3) ?_).mono (fun _ s3 h3 => hdone s3 h3)
      fun _ _ h => h
    exact ends_stickyTxn f fun _ => ends_commitRaw
  · exact ends_pure (hdone s2 (Quiet.refl s2).fenced)

/-- Setting a bit of the fence in RAM. -/
theorem Moves.setClock (h : Moves s s') :
    Moves s { s' with pcp := { s'.pcp with fence := { s'.pcp.fence with clock := true } } } := by
  obtain ⟨xs, h, hall⟩ := h
  refine ⟨xs, ⟨h.path, h.samples, fun _ => rfl, ?_⟩, hall⟩
  intro _ _ hnone
  have hnone' : (s'.pcp.fence.storage || true || s'.pcp.fence.corrupt) = false := hnone
  rw [Bool.or_true, Bool.true_or] at hnone'
  cases hnone'

theorem ends_stickyClock {ε : Type} {E : ε → St → Prop} (h : Moves s s') :
    Ends (stickyClockFenceBestEffort : Prog St ε Unit) s'
      (fun _ s'' => Moves s s'' ∧ s''.pcp.fence.clock = true) E := by
  refine Ends.bind (Q := fun a s1 => a = s' ∧ s1 = s') (ends_get ⟨rfl, rfl⟩) ?_
  rintro _ _ ⟨rfl, rfl⟩
  rename_i s1
  split
  · refine (ends_stickyFence (E := E) (f := fun f => { f with clock := true })
      (fun g => ⟨id, fun _ => rfl, id⟩) ?_ h).mono ?_ fun _ _ h => h
    · intro g
      show (g.storage || true || g.corrupt) = true
      rw [Bool.or_true, Bool.true_or]
    · rintro - s2 ⟨hmoves, hle⟩
      exact ⟨hmoves, hle.clock rfl⟩
  · exact ends_modifyPcp ⟨h.setClock, rfl⟩

theorem ends_setFenceClock {ε : Type} {E : ε → St → Prop} (h : Moves s s') :
    Ends (setFenceClock : Prog St ε Unit) s'
      (fun _ s'' => Moves s s'' ∧ s''.pcp.fence.clock = true) E := by
  refine Ends.bind (Q := fun _ s1 => Moves s s1) (ends_modifyPcp h.setClock) ?_
  intro _ s1 h1
  exact ends_stickyClock h1

theorem ends_commitClockFaultFence {ε : Type} {E : ε → St → Prop} (h : Moves s s') :
    Ends (commitClockFaultFence : Prog St ε Unit) s' (fun _ s'' => Moves s s'') E := by
  refine Ends.bind (Q := fun a s1 => a = s' ∧ s1 = s') (ends_get ⟨rfl, rfl⟩) ?_
  rintro _ _ ⟨rfl, rfl⟩
  split
  · exact (ends_stickyClock h).mono (fun _ _ h => h.1) fun _ _ h => h
  · exact ends_pure h

theorem ends_stickyStorage {ε : Type} {E : ε → St → Prop} (h : Moves s s') :
    Ends (stickyStorageFenceBestEffort : Prog St ε Unit) s' (fun _ s'' => Moves s s'') E := by
  refine Ends.bind (Q := fun a s1 => a = s' ∧ s1 = s') (ends_get ⟨rfl, rfl⟩) ?_
  rintro _ _ ⟨rfl, rfl⟩
  split
  · refine (ends_stickyFence (E := E) (f := fun f => { f with storage := true })
      (fun g => ⟨fun _ => rfl, id, id⟩) ?_ h).mono (fun _ _ h => h.1) fun _ _ h => h
    intro g
    show (true || g.clock || g.corrupt) = true
    rw [Bool.true_or, Bool.true_or]
  · exact ends_pure h

end Fencing

end Ninlil.Permit
