import Ninlil.Permit.Filling

/-!
# The permit authority: the clock fence and the moment trusted last

* `Careful`: the calls that neither reload RAM over a fence that only RAM has, nor store a sample
  that is behind the moment trusted last;
* `ClockLaw`, `clock_law`: in a process whose calls are careful, the clock fence stays until a
  recovery of the clock under a new epoch, no permit is issued or consumed meanwhile, and the moment
  trusted last never moves back within an epoch;
* `reloaded_over_fence`: what a reload over such a fence does.
-/

namespace Ninlil.Permit

open Outcomes

/-! ### The moment trusted last -/

section Trusting

variable {ns ns' : Namespace} {x : Txn} {xs : List Txn} {m : Meta}

/-- The moment is not earlier in the same epoch. -/
def Trust.NotBefore (x y : Trust) : Prop := y.epochId = x.epochId → x.nowMs ≤ y.nowMs

theorem Trust.NotBefore.refl (x : Trust) : x.NotBefore x := fun _ => UInt64.le_refl _

/-- A sample that the moment is not ahead of. -/
theorem Trust.notBefore_moment {x : Trust} {t : TimeSample} (h : x.ahead t = false) :
    x.NotBefore t.moment := by
  intro heq
  unfold Trust.ahead at h
  rw [Bool.and_eq_false_iff] at h
  obtain h | h := h
  · exact absurd heq (beq_eq_false_iff_ne.1 h)
  · exact UInt64.not_lt.1 (of_decide_eq_false h)

theorem not_ahead_of_classify {x : Trust} {r : ClockReply} (h : classify (some x) r = .okTrusted) :
    x.ahead r.sample = false := by
  refine Bool.eq_false_of_not_eq_true fun hahead => ?_
  unfold classify at h
  rw [Option.any_some, if_pos hahead] at h
  revert h
  cases r.status <;> try exact fun h => by cases h
  dsimp only
  split
  · exact fun h => by cases h
  · split
    · exact fun h => by cases h
    · exact fun h => by cases h

/-- The moment trusted last stays, or becomes that of a sample. -/
theorem Committed.trust (h : Committed ns x ns') (hm : ns.info = some m) :
    ∃ m', ns'.info = some m' ∧ (m'.trust = m.trust ∨ ∃ t ∈ x.samples, m'.trust = t.moment) := by
  cases h with
  | publish hrows hfirst => cases hm
  | fence hacc f =>
    cases hm
    exact ⟨_, rfl, .inl rfl⟩
  | revoke hacc h =>
    cases hm
    refine ⟨_, rfl, .inl ?_⟩
    rw [h.info]
    rfl
  | expire | consume | reEpoch | issue => exact ⟨_, rfl, .inr ⟨_, List.mem_singleton.2 rfl, rfl⟩⟩
  | bind | gc =>
    cases hm
    exact ⟨_, rfl, .inl rfl⟩
  | reClock hacc hepoch hrows => exact ⟨_, rfl, .inr ⟨_, List.mem_singleton.2 rfl, rfl⟩⟩

theorem Path.trust (h : Path ns xs ns') (hm : ns.info = some m) :
    ∃ m', ns'.info = some m' ∧
      (m'.trust = m.trust ∨ ∃ x ∈ xs, ∃ t ∈ x.samples, m'.trust = t.moment) := by
  induction h generalizing m with
  | nil ns => exact ⟨m, hm, .inl rfl⟩
  | cons hx _ ih =>
    obtain ⟨m₁, hm₁, htrust⟩ := hx.trust hm
    obtain ⟨m₂, hm₂, htrust₂⟩ := ih hm₁
    refine ⟨m₂, hm₂, ?_⟩
    obtain heq | ⟨y, hy, t, ht, heq⟩ := htrust₂
    · obtain hold | ⟨t, ht, hold⟩ := htrust
      · exact .inl (heq.trans hold)
      · exact .inr ⟨_, List.mem_cons_self, t, ht, heq.trans hold⟩
    · exact .inr ⟨y, List.mem_cons_of_mem _ hy, t, ht, heq⟩

/-- The moment trusted last does not move back within its epoch. -/
def Forward (ns ns' : Namespace) : Prop :=
  ∀ m m', ns.info = some m → ns'.info = some m' → m.trust.NotBefore m'.trust

theorem Forward.of_eq (h : ns' = ns) : Forward ns ns' := by
  rintro m m' hm hm'
  rw [h, hm] at hm'
  cases hm'
  exact Trust.NotBefore.refl _

/-- Transactions whose samples are not behind. -/
theorem Path.forward (h : Path ns xs ns')
    (hxs : ∀ m, ns.info = some m → ∀ x ∈ xs, ∀ t ∈ x.samples, m.trust.ahead t = false) :
    Forward ns ns' := by
  intro m m' hm hm'
  obtain ⟨m₁, hm₁, htrust⟩ := h.trust hm
  rw [hm₁] at hm'
  cases hm'
  obtain heq | ⟨x, hx, t, ht, heq⟩ := htrust
  · rw [heq]
    exact Trust.NotBefore.refl _
  · rw [heq]
    exact Trust.notBefore_moment (hxs m hm x hx t ht)

end Trusting

/-! ### Careful calls -/

/-- A call that neither reloads RAM over a clock fence that only RAM has, nor brings a sample behind
the moment trusted last. -/
def Careful (s : St) : Call → Prop
  | .publishInitialMeta _ => s.pcp.fence.clock = false
  | .recoverStorage | .recover =>
    s.pcp.fence.clock = true → ∀ m, s.disk.info = some m → m.fences.clock = true
  | .advanceExpiredHeads => classify s.pcp.ramTrust s.clock.head = .okTrusted →
      ∀ m, s.disk.info = some m → m.trust.ahead s.clock.head.sample = false
  | .issue _ => ∀ r, s.pcp.issueSampleSticky = some r →
      ∀ m, s.disk.info = some m → m.trust.ahead r.sample = false
  | _ => True

/-- A recovery of the clock that succeeds, under an epoch that neither RAM nor the meta record
knows. `recover` has just reloaded RAM from the meta record. -/
def Lifts (s : St) : Call → Result → Prop
  | .recoverClock, .done => classify s.pcp.ramTrust s.clock.head = .okTrusted ∧
      (∀ x, s.pcp.ramTrust = some x → x.epochId ≠ s.clock.head.sample.clockEpochId) ∧
      ∀ m, s.disk.info = some m → m.lastTrustedEpochId ≠ s.clock.head.sample.clockEpochId
  | .recover, .done => ∃ m, s.disk.info = some m ∧
      classify (some m.trust) s.clock.head = .okTrusted ∧
      m.lastTrustedEpochId ≠ s.clock.head.sample.clockEpochId
  | _, _ => False

/-- What a call does to the clock fence and to the moment trusted last. -/
structure ClockLaw (s : St) (c : Call) (r : Result) (s' : St) : Prop where
  fenced : s.pcp.fence.clock = true → s'.pcp.fence.clock = true ∨ Lifts s c r
  refused : s.pcp.fence.clock = true →
    (∀ req p, c = .issue req → r ≠ .permit p) ∧ ∀ p, c = .consume p → r ≠ .done
  forward : Forward s.disk s'.disk

section Law

variable {s s' : St} {c : Call} {r : Result} {t : TimeSample}

theorem Fences.any_of_clock {f : Fences} (h : f.clock = true) : f.any = true := by
  unfold Fences.any
  rw [h, Bool.or_true, Bool.true_or]

theorem Moves.forward_blind (h : Moves s.blind s') : Forward s.disk s'.disk := by
  obtain ⟨xs, h, -⟩ := h
  exact h.path.forward fun m _ x hx t ht => absurd (h.samples x hx t ht) not_fresh_blind

theorem Moves.keepsClock (h : Moves s s') (hf : s.pcp.fence.clock = true) :
    s'.pcp.fence.clock = true := by
  obtain ⟨xs, h, -⟩ := h
  exact h.clockFence hf

/-- In a published authority without a fence, a trusted reading is not behind. -/
theorem InSync.not_ahead (h : InSync s) (hpub : s.pcp.published = true)
    (hany : s.pcp.fence.any = false) (hclass : classify s.pcp.ramTrust s.clock.head = .okTrusted)
    {m : Meta} (hm : s.disk.info = some m) : m.trust.ahead s.clock.head.sample = false := by
  obtain ⟨m', hm', htrust⟩ := h hpub hany
  rw [hm] at hm'
  cases hm'
  rw [htrust] at hclass
  exact not_ahead_of_classify hclass

theorem Fresh.not_ahead (h : Fresh s t) (hsync : InSync s) (hpub : s.pcp.published = true)
    (hany : s.pcp.fence.any = false)
    (hpin : ∀ r, s.pcp.issueSampleSticky = some r → ∀ m, s.disk.info = some m →
      m.trust.ahead r.sample = false) {m : Meta} (hm : s.disk.info = some m) :
    m.trust.ahead t = false := by
  obtain ⟨hclass, rfl⟩ | ⟨r, hr, rfl⟩ := h
  · exact hsync.not_ahead hpub hany hclass hm
  · exact hpin r hr m hm

theorem MayFence.forward (h : MayFence s s') : Forward s.disk s'.disk := by
  obtain ⟨xs, h, rfl | ⟨f, rfl⟩⟩ := h
  · exact .of_eq h.path.of_nil
  · refine h.path.forward fun m _ x hx t ht => ?_
    rw [List.mem_singleton.1 hx] at ht
    exact absurd ht List.not_mem_nil

/-- Under another epoch nothing moves back. -/
theorem forward_reClock {ns ns' : Namespace} (h : Path ns [.reClock t] ns') : Forward ns ns' := by
  intro m m' hm hm' heq
  obtain ⟨m₁, m₂, hm₁, hepoch, hm₂, htrust⟩ := h.of_single.reClocked
  rw [hm] at hm₁
  cases hm₁
  rw [hm'] at hm₂
  cases hm₂
  rw [htrust] at heq
  exact absurd heq hepoch

theorem MayFence.keepsClock (h : MayFence s s') (hf : s.pcp.fence.clock = true) :
    s'.pcp.fence.clock = true := by
  obtain ⟨xs, h, -⟩ := h
  exact h.clockFence hf

theorem MayReclock.keepsClock (h : MayReclock s s') (hf : s.pcp.fence.clock = true) :
    s'.pcp.fence.clock = true := by
  obtain ⟨xs, h, -⟩ := h
  exact h.clockFence hf

theorem MayReclock.forward (h : MayReclock s s') : Forward s.disk s'.disk := by
  obtain ⟨xs, h, rfl | ⟨t, rfl⟩⟩ := h
  · exact .of_eq h.path.of_nil
  · exact forward_reClock h.path

/-- Reloading keeps the moment trusted last. -/
theorem Recovered.trust (h : Recovered s s') {m : Meta} (hm : s.disk.info = some m) :
    ∃ m', s'.disk.info = some m' ∧ m'.trust = m.trust := by
  obtain ⟨hnone, -⟩ | ⟨m₁, h⟩ := h
  · rw [hm] at hnone
    cases hnone
  · have hm₁ := h.info
    rw [hm] at hm₁
    cases hm₁
    obtain ⟨m', hm', htrust, -⟩ := h.disk
    exact ⟨m', hm', htrust⟩

theorem Recovered.forward (h : Recovered s s') {ns : Namespace} (hnext : Forward s'.disk ns) :
    Forward s.disk ns := by
  intro m m' hm hm'
  obtain ⟨m₁, hm₁, htrust⟩ := h.trust hm
  rw [← htrust]
  exact hnext m₁ m' hm₁ hm'

theorem Recovered.fenced (h : Recovered s s') (hf : s.pcp.fence.clock = true)
    (hcareful : ∀ m, s.disk.info = some m → m.fences.clock = true) :
    s'.pcp.fence.clock = true := by
  obtain ⟨-, h⟩ | ⟨m, h⟩ := h
  · exact h.clockFence hf
  · rw [h.fence]
    exact hcareful m h.info

/-- A recovery of the clock right after one of the storage. -/
theorem Recovered.lifts {s1 : St} (h : Recovered s s1) (h' : Reclocked s1 s') :
    Lifts s .recover .done := by
  obtain ⟨hnone, h⟩ | ⟨m, h⟩ := h
  · obtain ⟨m, -, hm, -⟩ := h'.path.of_single.reClocked
    rw [h.path.of_nil, hnone] at hm
    cases hm
  · refine ⟨m, h.info, ?_, ?_⟩
    · rw [← h.ramTrust, ← h.clock]
      exact h'.reading
    · rw [← h.clock]
      exact h'.ram m.trust h.ramTrust

/-- RAM and disk stay in step. -/
theorem Does.inSync (h : Does s s' c r) (hs : InSync s) : InSync s' := by
  have hmoves : Moves s s' → InSync s' := by
    rintro ⟨xs, hx, -⟩
    exact hx.inSync hs
  have hblind : Moves s.blind s' → InSync s' := fun h => hmoves h.sighted
  have hrec : ∀ s1, Recovered s s1 → InSync s1 := by
    rintro s1 (⟨-, h⟩ | ⟨m, h⟩)
    · exact h.inSync hs
    · exact h.inSync
  cases c with
  | publishInitialMeta seed =>
    cases r with
    | done => exact Published.inSync h
    | _ => exact hblind h
  | restart =>
    have hs' : s' = { s with pcp := .init } := h
    rw [hs']
    exact fun hpub => by cases hpub
  | advanceExpiredHeads => exact hmoves (Moves.pinned h)
  | recoverStorage =>
    cases r with
    | done => exact hrec s' h
    | failed st =>
      obtain ⟨xs, hx, -⟩ := h
      exact hx.inSync hs
    | permit | rejected => exact hblind h
  | recoverClock =>
    cases r with
    | done =>
      obtain ⟨-, rfl⟩ | h := h
      · exact hs
      · exact h.inSync
    | failed st =>
      obtain ⟨xs, hx, -⟩ := h
      exact hx.inSync hs
    | permit | rejected => exact hblind h
  | recover =>
    cases r with
    | done =>
      obtain ⟨s1, ⟨h1, -, rfl⟩ | ⟨-, h2⟩⟩ := h
      · exact hrec _ h1
      · exact h2.inSync
    | failed st =>
      obtain ⟨xs, hx, -⟩ | ⟨s1, h1, xs, hx, -⟩ := h
      · exact hx.inSync hs
      · exact hx.inSync (hrec s1 h1)
    | permit | rejected => exact hblind h
  | gcTerminalRecords seqs =>
    have hmay : (∃ xs, Effect s xs s' ∧ (xs = [] ∨ xs = [.gc seqs])) → InSync s' := by
      rintro ⟨xs, hx, -⟩
      exact hx.inSync hs
    cases r with
    | done => exact hmay ⟨_, h, .inr rfl⟩
    | _ => exact hmay h
  | issue req =>
    have hmay : Issues s req s' → InSync s' := by
      rintro ⟨xs, hx, -⟩
      exact hx.inSync hs
    cases r with
    | permit p =>
      obtain ⟨xs, row, t, hx, -⟩ := Granted.effect h
      exact hx.inSync hs
    | _ => exact hmay h.1
  | consume p =>
    cases r with
    | done =>
      obtain ⟨row, hx, -⟩ := Consumed.effect h
      exact hx.inSync hs
    | _ => exact hmoves h.1.pinned
  | _ => exact hblind h

/-- **What a careful call does to the clock fence and to the moment trusted last.** -/
theorem Does.clockLaw (h : Does s s' c r) (hs : InSync s) (hcareful : Careful s c)
    (hprocess : c ≠ .restart) : ClockLaw s c r s' := by
  have hrefused : s.pcp.fence.clock = true →
      (∀ req p, c = .issue req → r ≠ .permit p) ∧ ∀ p, c = .consume p → r ≠ .done := by
    intro hf
    refine ⟨?_, ?_⟩
    · rintro req p rfl rfl
      have hany := Granted.unfenced h
      rw [Fences.any_of_clock hf] at hany
      cases hany
    · rintro p rfl rfl
      have hany := Consumed.unfenced h
      rw [Fences.any_of_clock hf] at hany
      cases hany
  have hblind : Moves s.blind s' → ClockLaw s c r s' := fun h =>
    ⟨fun hf => .inl (h.sighted.keepsClock hf), hrefused, h.forward_blind⟩
  cases c with
  | bindStorage | bindClock | bindEntropy | bindLiveProfile => exact hblind h
  | publishInitialMeta seed =>
    cases r with
    | done =>
      refine ⟨fun hf => ?_, hrefused, fun m m' hm hm' => ?_⟩
      · rw [show s.pcp.fence.clock = false from hcareful] at hf
        cases hf
      · rw [Published.info h] at hm
        cases hm
    | permit | failed | rejected => exact hblind h
  | revokeAllOutstanding | commitLiveBinding | setAssignmentGeneration | issueSamplePin
  | issueSamplePinAccepted | issueSampleClear | validate => exact hblind h
  | restart => exact absurd rfl hprocess
  | advanceExpiredHeads =>
    obtain ⟨xs, hx, hall⟩ := h
    refine ⟨fun hf => .inl (hx.clockFence hf), hrefused, ?_⟩
    refine hx.path.forward fun m hm x hmem t ht => ?_
    obtain ⟨hclass, rfl⟩ := (hx.samples x hmem t ht).reading
    exact hcareful hclass m hm
  | recoverStorage =>
    cases r with
    | done =>
      have hrec : Recovered s s' := h
      exact ⟨fun hf => .inl (hrec.fenced hf (hcareful hf)), hrefused,
        hrec.forward (.of_eq rfl)⟩
    | failed st =>
      have hmay : MayFence s s' := h
      exact ⟨fun hf => .inl (hmay.keepsClock hf), hrefused, hmay.forward⟩
    | permit | rejected => exact hblind h
  | recoverClock =>
    cases r with
    | done =>
      obtain ⟨hopen, rfl⟩ | h := h
      · exact ⟨fun hf => .inl hf, hrefused, .of_eq rfl⟩
      · exact ⟨fun _ => .inr ⟨h.reading, h.ram, h.durable⟩, hrefused, forward_reClock h.path⟩
    | failed st =>
      have hmay : MayReclock s s' := h
      exact ⟨fun hf => .inl (hmay.keepsClock hf), hrefused, hmay.forward⟩
    | permit | rejected => exact hblind h
  | recover =>
    cases r with
    | done =>
      obtain ⟨s1, ⟨h1, -, rfl⟩ | ⟨h1, h2⟩⟩ := h
      · exact ⟨fun hf => .inl (h1.fenced hf (hcareful hf)), hrefused, h1.forward (.of_eq rfl)⟩
      · exact ⟨fun _ => .inr (h1.lifts h2), hrefused, h1.forward (forward_reClock h2.path)⟩
    | failed st =>
      obtain hmay | ⟨s1, h1, h2⟩ := h
      · exact ⟨fun hf => .inl (hmay.keepsClock hf), hrefused, hmay.forward⟩
      · exact ⟨fun hf => .inl (h2.keepsClock (h1.fenced hf (hcareful hf))), hrefused,
          h1.forward h2.forward⟩
    | permit | rejected => exact hblind h
  | gcTerminalRecords seqs =>
    have hlaw : (∃ xs, Effect s xs s' ∧ (xs = [] ∨ xs = [.gc seqs])) →
        ClockLaw s (.gcTerminalRecords seqs) r s' := by
      rintro ⟨xs, hx, hxs⟩
      refine ⟨fun hf => .inl (hx.clockFence hf), hrefused, hx.path.forward ?_⟩
      intro m _ x hmem t ht
      obtain rfl | rfl := hxs
      · exact absurd hmem List.not_mem_nil
      · rw [List.mem_singleton.1 hmem] at ht
        exact absurd ht List.not_mem_nil
    cases r with
    | done => exact hlaw ⟨_, h, .inr rfl⟩
    | permit | failed | rejected => exact hlaw h
  | issue req =>
    have hlaw : (∃ xs, Effect s xs s') → (s'.disk = s.disk ∨ s.pcp.published = true ∧
        s.pcp.fence.any = false) → ClockLaw s (.issue req) r s' := by
      rintro ⟨xs, hx⟩ hready
      refine ⟨fun hf => .inl (hx.clockFence hf), hrefused, ?_⟩
      obtain heq | ⟨hpub, hany⟩ := hready
      · exact .of_eq heq
      · exact hx.path.forward fun m hm x hmem t ht =>
          (hx.samples x hmem t ht).not_ahead hs hpub hany hcareful hm
    cases r with
    | permit p =>
      have hgrant : Granted s req p s' := h
      obtain ⟨xs, row, t, hx, -⟩ := hgrant.effect
      exact hlaw ⟨_, hx⟩ (.inr ⟨hgrant.published, hgrant.unfenced⟩)
    | done | failed | rejected =>
      obtain ⟨⟨xs, hx, -⟩, hready⟩ := h
      exact hlaw ⟨xs, hx⟩ hready
  | consume p =>
    have hlaw : (Moves s.unpinned s' ∧ (s'.disk = s.disk ∨ s.pcp.published = true ∧
        s.pcp.fence.any = false)) → ClockLaw s (.consume p) r s' := by
      rintro ⟨⟨xs, hx, -⟩, hready⟩
      refine ⟨fun hf => .inl (hx.clockFence hf), hrefused, ?_⟩
      obtain heq | ⟨hpub, hany⟩ := hready
      · exact .of_eq heq
      · refine hx.path.forward fun m hm x hmem t ht => ?_
        obtain ⟨hclass, rfl⟩ := (hx.samples x hmem t ht).reading
        exact hs.not_ahead hpub hany hclass hm
    cases r with
    | done =>
      have hcons : Consumed s p s' := h
      obtain ⟨row, hx, -⟩ := hcons.effect
      refine ⟨fun hf => .inl (hx.clockFence hf), hrefused, ?_⟩
      refine hx.path.forward fun m hm x hmem t ht => ?_
      rw [List.mem_singleton.1 hmem] at ht
      rw [List.mem_singleton.1 ht]
      exact hs.not_ahead hcons.published hcons.unfenced hcons.reading hm
    | permit | failed | rejected => exact hlaw h

end Law

/-! ### Runs -/

/-- A process that has just started, over any namespace. -/
def St.boot (disk : Namespace) (replies : Stream' Reply) (clock : Stream' ClockReply)
    (entropy : Stream' (PortStatus × Id)) : St :=
  { St.start replies clock entropy with disk := disk }

/-- Calls of one process, each careful in the state it finds. -/
def CarefulRun (s : St) : List Call → Prop
  | [] => True
  | c :: cs => (Careful s c ∧ c ≠ .restart) ∧ CarefulRun (perform s c).2 cs

/-- One of the calls lifts the clock fence. -/
def LiftsIn (s : St) : List Call → Prop
  | [] => False
  | c :: cs => Lifts s c (perform s c).1 ∨ LiftsIn (perform s c).2 cs

/-- The calls that returned a permit, or that consumed one. -/
def granted : Call × Result → Bool
  | (.issue _, .permit _) => true
  | (.consume _, .done) => true
  | _ => false

section Runs

variable {s : St} {c : Call} {cs cs' : List Call}

theorem CarefulRun.of_append (h : CarefulRun s (cs ++ cs')) :
    CarefulRun s cs ∧ CarefulRun (s.performAll cs).2 cs' := by
  induction cs generalizing s with
  | nil => exact ⟨trivial, h⟩
  | cons c cs ih =>
    obtain ⟨hcs, hcs'⟩ := ih h.2
    exact ⟨⟨h.1, hcs⟩, hcs'⟩

theorem performAll_inSync (cs : List Call) (h : InSync s) : InSync (s.performAll cs).2 :=
  performAll_induct (P := fun _ s => InSync s) h (fun _ s c hs => (perform_does s c).inSync hs) cs

theorem ClockLaw.not_granted {r : Result} {s' : St} (h : ClockLaw s c r s')
    (hf : s.pcp.fence.clock = true) : granted (c, r) = false := by
  obtain ⟨hissue, hconsume⟩ := h.refused hf
  cases c <;> try rfl
  · cases r <;> try rfl
    exact absurd rfl (hissue _ _ rfl)
  · cases r <;> try rfl
    exact absurd rfl (hconsume _ rfl)

/-- While no call lifts it, the clock fence stays, and nothing is granted. -/
theorem CarefulRun.fenced (h : CarefulRun s cs) (hs : InSync s)
    (hf : s.pcp.fence.clock = true) (hlift : ¬LiftsIn s cs) :
    (s.performAll cs).2.pcp.fence.clock = true ∧
      ∀ e ∈ (s.performAll cs).1, granted e = false := by
  induction cs generalizing s with
  | nil => exact ⟨hf, fun e he => absurd he List.not_mem_nil⟩
  | cons c cs ih =>
    obtain ⟨⟨hcareful, hprocess⟩, hcs⟩ := h
    have hdoes := perform_does s c
    have hlaw := hdoes.clockLaw hs hcareful hprocess
    have hstays := (hlaw.fenced hf).resolve_right fun hl => hlift (.inl hl)
    obtain ⟨hlast, hall⟩ := ih hcs (hdoes.inSync hs) hstays fun hl => hlift (.inr hl)
    refine ⟨hlast, fun e he => ?_⟩
    rcases List.mem_cons.1 he with rfl | he
    · exact hlaw.not_granted hf
    · exact hall e he

end Runs

/-- **The clock fence and the moment trusted last.** In a process whose calls are careful, over any
namespace and with any replies of the store and of the clock: once the clock fence is set, it stays
and nothing is issued or consumed, until a recovery of the clock succeeds under an epoch that
neither RAM nor the meta record knows; and no call moves the moment trusted last back within its
epoch. -/
theorem clock_law (disk : Namespace) (replies : Stream' Reply) (clock : Stream' ClockReply)
    (entropy : Stream' (PortStatus × Id)) (before after : List Call)
    (h : CarefulRun (St.boot disk replies clock entropy) (before ++ after)) :
    (((St.boot disk replies clock entropy).performAll before).2.pcp.fence.clock = true →
      ¬LiftsIn ((St.boot disk replies clock entropy).performAll before).2 after →
      (((St.boot disk replies clock entropy).performAll before).2.performAll
        after).2.pcp.fence.clock = true ∧
      ∀ e ∈ (((St.boot disk replies clock entropy).performAll before).2.performAll after).1,
        granted e = false) ∧
    ∀ c cs, after = c :: cs →
      Forward ((St.boot disk replies clock entropy).performAll before).2.disk
        (perform ((St.boot disk replies clock entropy).performAll before).2 c).2.disk := by
  have hboot : InSync (St.boot disk replies clock entropy) := fun hpub => by cases hpub
  have hs := performAll_inSync before hboot
  obtain ⟨-, hafter⟩ := h.of_append
  generalize ((St.boot disk replies clock entropy).performAll before).2 = s at hs hafter ⊢
  refine ⟨fun hf hlift => hafter.fenced hs hf hlift, ?_⟩
  rintro c cs rfl
  obtain ⟨⟨hcareful, hprocess⟩, -⟩ := hafter
  exact ((perform_does s c).clockLaw hs hcareful hprocess).forward

/-- An issue without a pinned sample is careful. -/
theorem careful_unpinned {s : St} (req : IssueRequest) (h : s.pcp.issueSampleSticky.isSome = false) :
    Careful s (.issue req) := by
  intro r hr
  rw [hr] at h
  cases h

theorem not_liftsIn_issue {s : St} (req : IssueRequest) : ¬LiftsIn s [.issue req] := by
  rintro (h | h)
  · unfold Lifts at h
    exact h
  · exact h

/-- The second reading of the clock fails. -/
def oneFault : Stream' ClockReply :=
  fun n => if n = 1 then ⟨.permanentFailure, sampleAt 1 1⟩ else newEpochs n

def St.faultOnce : St :=
  .boot .empty (Stream'.const ⟨.ok, false, true⟩) oneFault (Stream'.const (.ok, 0))

theorem careful_faultOnce :
    CarefulRun St.faultOnce ((setUp ++ [.issueSamplePin]) ++ [.issue sampleRequest]) := by
  unfold setUp
  refine ⟨⟨trivial, fun h => ?_⟩, ⟨trivial, fun h => ?_⟩, ⟨trivial, fun h => ?_⟩,
    ⟨?_, fun h => ?_⟩, ⟨trivial, fun h => ?_⟩, ⟨careful_unpinned _ ?_, fun h => ?_⟩, trivial⟩
  case refine_4 =>
    show _ = false
    decide +kernel
  case refine_7 => decide +kernel
  all_goals cases h

/-- A fault of the clock, then an issue: nothing is granted. -/
theorem clock_law_fault :
    (St.faultOnce.performAll (setUp ++ [.issueSamplePin])).2.pcp.fence.clock = true ∧
    ∀ e ∈ ((St.faultOnce.performAll (setUp ++ [.issueSamplePin])).2.performAll
      [.issue sampleRequest]).1, granted e = false := by
  have hfence : (St.faultOnce.performAll (setUp ++ [.issueSamplePin])).2.pcp.fence.clock = true := by
    decide +kernel
  have hcareful := careful_faultOnce
  unfold St.faultOnce at hcareful hfence ⊢
  exact ⟨hfence, ((clock_law .empty (Stream'.const ⟨.ok, false, true⟩) oneFault
    (Stream'.const (.ok, 0)) (setUp ++ [Call.issueSamplePin]) [Call.issue sampleRequest]
    hcareful).1 hfence (not_liftsIn_issue sampleRequest)).2⟩

/-- The tenth reply of the store is that it is busy, and the second reading of the clock fails. -/
def St.busyOnce : St :=
  .start (fun n => if n = 10 then ⟨.busy, false, false⟩ else ⟨.ok, false, true⟩)
    oneFault (Stream'.const (.ok, 0))

/-- A fault of the clock sets a fence that only RAM has, as the store is busy; a reload from the
meta record lifts it without any recovery of the clock, and the next issue is granted. -/
theorem reloaded_over_fence :
    (St.busyOnce.performAll (setUp ++ [.issueSamplePin])).2.pcp.fence.clock = true ∧
    (St.busyOnce.performAll (setUp ++ [.issueSamplePin, .recoverStorage])).2.pcp.fence.clock =
      false ∧
    ((St.busyOnce.performAll
      (setUp ++ [.issueSamplePin, .recoverStorage, .issue sampleRequest])).1.map fun e => e.2.ok) =
        [true, true, true, true, false, true, true] := by
  decide +kernel

end Ninlil.Permit
