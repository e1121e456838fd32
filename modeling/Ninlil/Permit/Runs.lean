import Ninlil.Permit.Recovering

/-!
# The permit authority: runs

* `Does`, `perform_does`: what each call may have done, by its result;
* `St.performAll`: one call after another, with what each returned;
* `one_epoch_outstanding`: the permits outstanding are a window of one epoch;
* `permits_at_most_once`: a permit is handed out once and consumed once, in order.
-/

namespace Ninlil.Permit

open Outcomes

/-! ### Calls -/

/-- What a call may have done, by its result. -/
def Does (s s' : St) : Call → Result → Prop
  | .publishInitialMeta _, .done => Published s s'
  | .publishInitialMeta _, _ => Moves s.blind s'
  | .recoverStorage, .done => Recovered s s'
  | .recoverStorage, .failed _ => MayFence s s'
  | .recoverClock, .done => (s.pcp.fence.clock = false ∧ s' = s) ∨ Reclocked s s'
  | .recoverClock, .failed _ => MayReclock s s'
  | .recover, .done => ∃ s1, Recovered s s1 ∧
      (s1.pcp.fence.clock = false ∨ s1.pcp.clockBound = false) ∧ s' = s1 ∨
      Recovered s s1 ∧ Reclocked s1 s'
  | .recover, .failed _ => MayFence s s' ∨ ∃ s1, Recovered s s1 ∧ MayReclock s1 s'
  | .advanceExpiredHeads, _ => Moves s.unpinned s'
  | .gcTerminalRecords seqs, .done => Effect s [.gc seqs] s'
  | .gcTerminalRecords seqs, _ => ∃ xs, Effect s xs s' ∧ (xs = [] ∨ xs = [.gc seqs])
  | .issue req, .permit p => Granted s req p s'
  | .issue req, _ => Issues s req s' ∧
      (s'.disk = s.disk ∨ s.pcp.published = true ∧ s.pcp.fence.any = false)
  | .consume p, .done => Consumed s p s'
  | .consume _, _ => Moves s.unpinned s' ∧
      (s'.disk = s.disk ∨ s.pcp.published = true ∧ s.pcp.fence.any = false)
  | .restart, _ => s' = { s with pcp := .init }
  | _, _ => Moves s.blind s'

section Performing

variable {s s' : St} {α : Type}

theorem run_does {m : Op α} {f : α → Result} {c : Call} {Q : α → St → Prop}
    {E : Status → St → Prop} (h : Ends m s Q E) (hok : ∀ a s', Q a s' → Does s s' c (f a))
    (herr : ∀ st s', E st s' → Does s s' c (.failed st)) :
    Does s (s.run m f).2 c (s.run m f).1 := by
  unfold St.run
  rcases hm : m.outcome s with ⟨st | a, s'⟩
  · exact herr st s' (h.error hm)
  · exact hok a s' (h.ok hm)

theorem runHal_does {m : HalOp Unit} {c : Call} {Q : Unit → St → Prop}
    {E : HalStatus → St → Prop} (h : Ends m s Q E) (hok : ∀ s', Q () s' → Does s s' c .done)
    (herr : ∀ st s', E st s' → Does s s' c (.rejected st)) :
    Does s (s.runHal m).2 c (s.runHal m).1 := by
  unfold St.runHal
  rcases hm : m.outcome s with ⟨st | a, s'⟩
  · exact herr st s' (h.error hm)
  · exact hok s' (h.ok hm)

theorem ends_issue_full (req : IssueRequest) :
    Ends (issue req) s (fun p s' => Granted s req p s') fun _ s' => Issues s req s' ∧
      (s'.disk = s.disk ∨ s.pcp.published = true ∧ s.pcp.fence.any = false) := by
  by_cases hready : s.pcp.published = true ∧ s.pcp.fence.any = false
  · exact (ends_issue req).mono (fun _ _ h => h) fun _ _ h => ⟨h, .inr hready⟩
  · refine ((ends_issue req).and (ends_issue_unready req hready)).mono (fun _ _ h => h.1) ?_
    exact fun _ _ h => ⟨h.1, .inl h.2⟩

/-- **Every call does what `Does` says.** -/
theorem perform_does (s : St) (c : Call) : Does s (perform s c).2 c (perform s c).1 := by
  cases c with
  | bindStorage => exact run_does (ends_bindStorage (moves_blind s)) (fun _ _ h => h) fun _ _ h => h
  | bindClock => exact run_does (ends_bindClock (moves_blind s)) (fun _ _ h => h) fun _ _ h => h
  | bindEntropy => exact run_does (ends_bindEntropy (moves_blind s)) (fun _ _ h => h) fun _ _ h => h
  | bindLiveProfile live =>
    exact run_does (ends_bindLiveProfile live (moves_blind s)) (fun _ _ h => h) fun _ _ h => h
  | publishInitialMeta seed =>
    exact run_does (ends_publishInitialMeta seed) (fun _ _ h => h) fun _ _ h => h
  | recoverStorage => exact run_does ends_recoverStorage (fun _ _ h => h) fun _ _ h => h
  | recoverClock => exact run_does ends_recoverClock (fun _ _ h => h) fun _ _ h => h
  | recover => exact run_does ends_recover (fun _ _ h => h) fun _ _ h => h
  | revokeAllOutstanding =>
    exact run_does (ends_revokeAllOutstanding (moves_blind s)) (fun _ _ h => h) fun _ _ h => h
  | commitLiveBinding live generation =>
    exact run_does (ends_commitLiveBinding live generation (moves_blind s)) (fun _ _ h => h)
      fun _ _ h => h
  | setAssignmentGeneration generation =>
    exact run_does (ends_setAssignmentGeneration generation (moves_blind s)) (fun _ _ h => h)
      fun _ _ h => h
  | advanceExpiredHeads => exact run_does ends_advanceExpiredHeads (fun _ _ h => h) fun _ _ h => h
  | gcTerminalRecords seqs =>
    exact run_does (ends_gcTerminalRecords seqs) (fun _ _ h => h) fun _ _ h => h
  | issueSamplePin =>
    exact run_does (ends_issueSamplePin (moves_blind s)) (fun _ _ h => h) fun _ _ h => h
  | issueSamplePinAccepted t =>
    exact run_does (ends_issueSamplePinAccepted t (moves_blind s)) (fun _ _ h => h) fun _ _ h => h
  | issueSampleClear =>
    exact run_does (ends_issueSampleClear (moves_blind s)) (fun _ _ h => h) fun _ _ h => h
  | issue req => exact run_does (ends_issue_full req) (fun _ _ h => h) fun _ _ h => h
  | validate p => exact runHal_does (ends_validate p (moves_blind s)) (fun _ h => h) fun _ _ h => h
  | consume p => exact runHal_does (ends_consume p) (fun _ h => h) fun _ _ h => h
  | restart => exact rfl

/-- The transactions of a call: plain ones; then, for an issue, perhaps its row; or an erasure. -/
def Call.Commits (c : Call) (xs : List Txn) : Prop :=
  (∀ x ∈ xs, x.plain = true) ∨
    (∃ req r t ys, c = .issue req ∧ xs = ys ++ [.issue req r t] ∧ ∀ y ∈ ys, y.plain = true) ∨
    ∃ seqs, c = .gcTerminalRecords seqs ∧ xs = [.gc seqs]

variable {c : Call} {r : Result}

theorem Moves.commits (h : Moves s s') : ∃ xs, Path s.disk xs s'.disk ∧ c.Commits xs := by
  obtain ⟨xs, h, hall⟩ := h
  exact ⟨xs, h.path, .inl hall⟩

theorem MayFence.commits (h : MayFence s s') : ∃ xs, Path s.disk xs s'.disk ∧
    ∀ x ∈ xs, x.plain = true := by
  obtain ⟨xs, h, rfl | ⟨f, rfl⟩⟩ := h
  · exact ⟨[], h.path, plain_nil⟩
  · refine ⟨_, h.path, fun x hx => ?_⟩
    rw [List.mem_singleton.1 hx]
    rfl

theorem Recovered.commits (h : Recovered s s') : ∃ xs, Path s.disk xs s'.disk ∧
    ∀ x ∈ xs, x.plain = true := by
  obtain ⟨-, h⟩ | ⟨m, h⟩ := h
  · exact ⟨[], h.path, plain_nil⟩
  · obtain ⟨xs, hpath, rfl | ⟨f, rfl⟩⟩ := h.path
    · exact ⟨[], hpath, plain_nil⟩
    · refine ⟨_, hpath, fun x hx => ?_⟩
      rw [List.mem_singleton.1 hx]
      rfl

theorem MayReclock.commits (h : MayReclock s s') : ∃ xs, Path s.disk xs s'.disk ∧
    ∀ x ∈ xs, x.plain = true := by
  obtain ⟨xs, h, rfl | ⟨t, rfl⟩⟩ := h
  · exact ⟨[], h.path, plain_nil⟩
  · refine ⟨_, h.path, fun x hx => ?_⟩
    rw [List.mem_singleton.1 hx]
    rfl

theorem Reclocked.commits (h : Reclocked s s') : ∃ xs, Path s.disk xs s'.disk ∧
    ∀ x ∈ xs, x.plain = true := by
  refine ⟨_, h.path, fun x hx => ?_⟩
  rw [List.mem_singleton.1 hx]
  rfl

/-- One after the other. -/
theorem commits_append {s1 : St} {xs ys : List Txn} (h : Path s.disk xs s1.disk)
    (hxs : ∀ x ∈ xs, x.plain = true) (h' : Path s1.disk ys s'.disk)
    (hys : ∀ y ∈ ys, y.plain = true) : ∃ xs, Path s.disk xs s'.disk ∧ c.Commits xs := by
  refine ⟨xs ++ ys, h.append h', .inl fun x hx => ?_⟩
  exact (List.mem_append.1 hx).elim (hxs x) (hys x)

/-- **The transactions of a call.** -/
theorem Does.commits (h : Does s s' c r) : ∃ xs, Path s.disk xs s'.disk ∧ c.Commits xs := by
  cases c with
  | bindStorage | bindClock | bindEntropy | bindLiveProfile => exact (Moves.sighted h).commits
  | publishInitialMeta seed =>
    cases r with
    | done =>
      obtain ⟨-, ⟨xs, m, hpath, hall⟩, -⟩ := h
      exact ⟨_, hpath, .inl (plain_append hall rfl)⟩
    | permit | failed | rejected => exact (Moves.sighted h).commits
  | revokeAllOutstanding => exact (Moves.sighted h).commits
  | commitLiveBinding live generation => exact (Moves.sighted h).commits
  | setAssignmentGeneration generation => exact (Moves.sighted h).commits
  | advanceExpiredHeads => exact Moves.commits (Moves.pinned h)
  | issueSamplePin => exact (Moves.sighted h).commits
  | issueSamplePinAccepted t => exact (Moves.sighted h).commits
  | issueSampleClear => exact (Moves.sighted h).commits
  | validate p => exact (Moves.sighted h).commits
  | restart =>
    cases h
    exact ⟨[], .nil _, .inl plain_nil⟩
  | recoverStorage =>
    cases r with
    | done =>
      obtain ⟨xs, hpath, hall⟩ := Recovered.commits h
      exact ⟨xs, hpath, .inl hall⟩
    | failed st =>
      obtain ⟨xs, hpath, hall⟩ := MayFence.commits h
      exact ⟨xs, hpath, .inl hall⟩
    | permit | rejected => exact (Moves.sighted h).commits
  | recoverClock =>
    cases r with
    | done =>
      obtain ⟨-, rfl⟩ | h := h
      · exact ⟨[], .nil _, .inl plain_nil⟩
      · obtain ⟨xs, hpath, hall⟩ := Reclocked.commits h
        exact ⟨xs, hpath, .inl hall⟩
    | failed st =>
      obtain ⟨xs, hpath, hall⟩ := MayReclock.commits h
      exact ⟨xs, hpath, .inl hall⟩
    | permit | rejected => exact (Moves.sighted h).commits
  | recover =>
    cases r with
    | done =>
      obtain ⟨s1, ⟨h1, -, rfl⟩ | ⟨h1, h2⟩⟩ := h
      · obtain ⟨xs, hpath, hall⟩ := h1.commits
        exact ⟨xs, hpath, .inl hall⟩
      · obtain ⟨xs, hpath, hall⟩ := h1.commits
        obtain ⟨ys, hpath', hall'⟩ := h2.commits
        exact commits_append hpath hall hpath' hall'
    | failed st =>
      obtain h | ⟨s1, h1, h2⟩ := h
      · obtain ⟨xs, hpath, hall⟩ := h.commits
        exact ⟨xs, hpath, .inl hall⟩
      · obtain ⟨xs, hpath, hall⟩ := h1.commits
        obtain ⟨ys, hpath', hall'⟩ := h2.commits
        exact commits_append hpath hall hpath' hall'
    | permit | rejected => exact (Moves.sighted h).commits
  | gcTerminalRecords seqs =>
    have hmay : (∃ xs, Effect s xs s' ∧ (xs = [] ∨ xs = [.gc seqs])) →
        ∃ xs, Path s.disk xs s'.disk ∧ (Call.gcTerminalRecords seqs).Commits xs := by
      rintro ⟨xs, h, rfl | rfl⟩
      · exact ⟨[], h.path, .inl plain_nil⟩
      · exact ⟨_, h.path, .inr (.inr ⟨seqs, rfl, rfl⟩)⟩
    cases r with
    | done => exact hmay ⟨_, h, .inr rfl⟩
    | failed | permit | rejected => exact hmay h
  | issue req =>
    have hmay : Issues s req s' →
        ∃ xs, Path s.disk xs s'.disk ∧ (Call.issue req).Commits xs := by
      rintro ⟨xs, h, ys, hall, rfl | ⟨r, t, rfl⟩⟩
      · exact ⟨xs, h.path, .inl hall⟩
      · exact ⟨_, h.path, .inr (.inl ⟨req, r, t, ys, rfl, rfl, hall⟩)⟩
    cases r with
    | permit p =>
      obtain ⟨xs, r, t, h, hall, -⟩ := Granted.effect h
      exact ⟨_, h.path, .inr (.inl ⟨req, r, t, xs, rfl, rfl, hall⟩)⟩
    | done | failed | rejected => exact hmay h.1
  | consume p =>
    cases r with
    | done =>
      obtain ⟨r, h, -⟩ := Consumed.effect h
      refine ⟨_, h.path, .inl fun x hx => ?_⟩
      rw [List.mem_singleton.1 hx]
      rfl
    | permit | failed | rejected => exact h.1.pinned.commits

end Performing

/-! ### Runs -/

/-- One call after another, with what each returned. -/
def St.performAll (s : St) : List Call → List (Call × Result) × St
  | [] => ([], s)
  | c :: cs =>
    ((c, (perform s c).1) :: ((perform s c).2.performAll cs).1, ((perform s c).2.performAll cs).2)

/-- A process that has just started, over a namespace nothing was ever stored in. -/
def St.start (replies : Stream' Reply) (clock : Stream' ClockReply)
    (entropy : Stream' (PortStatus × Id)) : St where
  pcp := .init
  disk := .empty
  txn := .empty
  replies := replies
  clock := clock
  entropy := entropy

section Runs

variable {s s' : St} {c : Call} {cs : List Call}

theorem performAll_append (cs cs' : List Call) :
    (s.performAll (cs ++ cs')).2 = ((s.performAll cs).2.performAll cs').2 := by
  induction cs generalizing s with
  | nil => rfl
  | cons c cs ih => exact ih

/-- What every call keeps, a run keeps. -/
theorem performAll_induct {P : List Call → St → Prop} (h₀ : P [] s)
    (hstep : ∀ cs s c, P cs s → P (cs ++ [c]) (perform s c).2) (cs : List Call) :
    P cs (s.performAll cs).2 := by
  induction cs using List.reverseRecOn with
  | nil => exact h₀
  | append_singleton cs c ih =>
    rw [performAll_append]
    exact hstep cs _ c ih

theorem SoundNamespace.empty : SoundNamespace .empty :=
  ⟨fun _ => rfl, fun _ h => by cases h⟩

/-- A path of one transaction. -/
theorem Path.of_single {ns ns' : Namespace} {x : Txn} (h : Path ns [x] ns') : Committed ns x ns' := by
  obtain - | ⟨hx, hnil⟩ := h
  rw [hnil.of_nil]
  exact hx

theorem perform_sound (c : Call) (h : SoundNamespace s.disk) :
    SoundNamespace (perform s c).2.disk := by
  obtain ⟨xs, hpath, -⟩ := (perform_does s c).commits
  exact hpath.soundNamespace h

theorem performAll_sound (cs : List Call) (h : SoundNamespace s.disk) :
    SoundNamespace (s.performAll cs).2.disk :=
  performAll_induct (P := fun _ s => SoundNamespace s.disk) h (fun _ _ c hs => perform_sound c hs) cs

theorem perform_notBefore (c : Call) {m : Meta} (hm : s.disk.info = some m) :
    ∃ m', (perform s c).2.disk.info = some m' ∧ m.NotBefore m' := by
  obtain ⟨xs, hpath, -⟩ := (perform_does s c).commits
  exact hpath.notBefore hm

/-- The permits outstanding, as the durable state has them: few, in one range, of one epoch. -/
structure OneWindow (m : Meta) (rows : Rows) : Prop where
  epoch : ∀ seq r, rows.lookup seq = some r → r.state = .issued →
    r.clockEpochId = m.lastTrustedEpochId
  range : ∀ seq, (∃ r, rows.lookup seq = some r ∧ r.state = .issued) ↔
    m.lastConsumedSeq < seq ∧ seq < m.nextIssueSeq
  count : (rows.entries.filter fun e => e.2.state == .issued).length = m.outstandingCount
  room : m.outstandingCount ≤ maxOutstanding

theorem Sound.oneWindow {m : Meta} {rows : Rows} (h : Sound m rows) : OneWindow m rows := by
  refine ⟨h.epoch, fun seq => ⟨?_, ?_⟩, h.toConsistent.length_issued, h.room⟩
  · rintro ⟨r, hr, hissued⟩
    exact ⟨(h.issued_iff seq r hr).1 hissued, h.below seq r hr⟩
  · rintro ⟨hlo, hhi⟩
    obtain ⟨r, hr⟩ := h.dense seq hlo hhi
    exact ⟨r, hr, (h.issued_iff seq r hr).2 hlo⟩

/-- An issue leaves no permit of another epoch outstanding. -/
theorem Granted.revokes {req : IssueRequest} {p : Snapshot} (h : Granted s req p s')
    (hs : SoundNamespace s.disk) :
    ∃ r', s'.disk.rows.lookup p.permitSequence = some r' ∧ r'.state = .issued ∧
      p = fillSnapshotFromIss r' ∧
      ∀ seq r, s.disk.rows.lookup seq = some r → r.state = .issued →
        r.clockEpochId ≠ r'.clockEpochId →
        s'.disk.rows.lookup seq = some { r with state := .revoked } := by
  obtain ⟨ns, r', t, hns, hx, rfl⟩ := h.epoch
  have hsound : SoundNamespace ns := by
    obtain rfl | hre := hns
    · exact hs
    · exact hre.soundNamespace hs
  generalize hdisk : s'.disk = ns' at hx ⊢
  generalize hold : s.disk = ns₀ at hns hs ⊢
  cases hx with
  | @issue m rows req t hacc hgrant =>
  have hrows := hsound.some m rfl
  refine ⟨_, AList.lookup_insert rows, rfl, rfl, fun seq r hr hissued hne => ?_⟩
  have hfinal : ∀ r₁, rows.lookup seq = some r₁ →
      (rows.insert m.nextIssueSeq (issuedRow m req t)).lookup seq = some r₁ := by
    intro r₁ hr₁
    rw [AList.lookup_insert_ne, hr₁]
    rintro rfl
    exact UInt64.lt_irrefl _ (hrows.below _ r₁ hr₁)
  obtain rfl | hre := hns
  · refine absurd ?_ hne
    rw [hrows.epoch seq r hr hissued]
    exact hgrant.epoch.symm
  · cases hre with
    | @reEpoch m₀ m₁ rows₀ rows t' hacc₀ hrev hzero hepoch =>
    refine hfinal _ ((hrev.row hr).resolve_left fun hsame => ?_)
    exact hrows.toConsistent.not_issued hzero hsame hissued

/-- **One epoch outstanding.** After every run, the permits outstanding are the range between the two
counters, all of the epoch trusted last and no more than `maxOutstanding`; and an issue that succeeds
has first revoked every permit of another epoch. -/
theorem one_epoch_outstanding (replies : Stream' Reply) (clock : Stream' ClockReply)
    (entropy : Stream' (PortStatus × Id)) (cs : List Call) :
    (∀ m, ((St.start replies clock entropy).performAll cs).2.disk.info = some m →
      OneWindow m ((St.start replies clock entropy).performAll cs).2.disk.rows) ∧
    (((St.start replies clock entropy).performAll cs).2.disk.info = none →
      ((St.start replies clock entropy).performAll cs).2.disk.rows.entries = []) ∧
    ∀ req p,
      (perform ((St.start replies clock entropy).performAll cs).2 (.issue req)).1 = .permit p →
      ∃ r', (perform ((St.start replies clock entropy).performAll cs).2
          (.issue req)).2.disk.rows.lookup p.permitSequence = some r' ∧ r'.state = .issued ∧
        p = fillSnapshotFromIss r' ∧
        ∀ seq r, ((St.start replies clock entropy).performAll cs).2.disk.rows.lookup seq = some r →
          r.state = .issued → r.clockEpochId ≠ r'.clockEpochId →
          (perform ((St.start replies clock entropy).performAll cs).2
            (.issue req)).2.disk.rows.lookup seq = some { r with state := .revoked } := by
  have hs : SoundNamespace ((St.start replies clock entropy).performAll cs).2.disk :=
    performAll_sound cs SoundNamespace.empty
  generalize ((St.start replies clock entropy).performAll cs).2 = s at hs ⊢
  refine ⟨fun m hm => (hs.some m hm).oneWindow, hs.none, fun req p hp => ?_⟩
  have hdoes := perform_does s (.issue req)
  rw [hp] at hdoes
  exact Granted.revokes hdoes hs

/-! ### Numbers -/

/-- The number of a permit handed out. -/
def issuedSeq : Call × Result → Option UInt64
  | (.issue _, .permit p) => some p.permitSequence
  | _ => none

/-- The number of a permit consumed. -/
def consumedSeq : Call × Result → Option UInt64
  | (.consume p, .done) => some p.permitSequence
  | _ => none

/-- A number that calls give out, each at or after a mark that never moves back, which then moves
past it. -/
structure Numbering (f : Call × Result → Option UInt64) (mark : Meta → ℕ) : Prop where
  step : ∀ s c q, f (c, (perform s c).1) = some q →
    (∀ m, s.disk.info = some m → mark m ≤ q.toNat) ∧
      ∃ m', (perform s c).2.disk.info = some m' ∧ q.toNat < mark m'
  mono : ∀ m m' : Meta, m.NotBefore m' → mark m ≤ mark m'

variable {f : Call × Result → Option UInt64} {mark : Meta → ℕ}

/-- A run gives out numbers at or after the mark. -/
theorem Numbering.after (h : Numbering f mark) {m : Meta} (hm : s.disk.info = some m) :
    ∀ q ∈ (s.performAll cs).1.filterMap f, mark m ≤ q.toNat := by
  induction cs generalizing s m with
  | nil => exact fun q hq => absurd hq List.not_mem_nil
  | cons c cs ih =>
    intro q hq
    obtain ⟨e, he, hf⟩ := List.mem_filterMap.1 hq
    rcases List.mem_cons.1 he with rfl | he
    · exact (h.step s c q hf).1 m hm
    · obtain ⟨m', hm', hle⟩ := perform_notBefore c hm
      exact (h.mono m m' hle).trans (ih hm' q (List.mem_filterMap.2 ⟨e, he, hf⟩))

/-- The numbers of a run increase. -/
theorem Numbering.increasing (h : Numbering f mark) (s : St) (cs : List Call) :
    ((s.performAll cs).1.filterMap f).Pairwise (· < ·) := by
  induction cs generalizing s with
  | nil => exact List.Pairwise.nil
  | cons c cs ih =>
    have hcons : (s.performAll (c :: cs)).1 =
      (c, (perform s c).1) :: ((perform s c).2.performAll cs).1 := rfl
    rw [hcons, List.filterMap_cons]
    split
    · exact ih _
    · rename_i q hq
      obtain ⟨-, m', hm', hlt⟩ := h.step s c q hq
      refine List.pairwise_cons.2 ⟨fun q' hq' => ?_, ih _⟩
      exact UInt64.lt_iff_toNat_lt.2 (hlt.trans_le (h.after hm' q' hq'))

theorem numbering_issued : Numbering issuedSeq fun m => m.nextIssueSeq.toNat where
  step s c q hq := by
    have hdoes := perform_does s c
    revert hdoes hq
    generalize (perform s c).1 = res
    generalize (perform s c).2 = s'
    intro hq hdoes
    cases c <;> cases res <;> cases hq
    obtain ⟨ns, r, t, hns, hx, rfl⟩ := Granted.epoch hdoes
    obtain ⟨m₁, m', hm₁, rfl, hm', hnext⟩ := hx.issued_number
    refine ⟨fun m hm => ?_, m', hm', ?_⟩
    · obtain rfl | hre := hns
      · rw [hm₁] at hm
        cases hm
        exact le_rfl
      · obtain ⟨m₂, hm₂, hle⟩ := hre.notBefore hm
        rw [hm₁] at hm₂
        cases hm₂
        exact hle.next
    · rw [hnext]
      exact Nat.lt_succ_self _
  mono _ _ h := h.next

theorem numbering_consumed : Numbering consumedSeq fun m => m.lastConsumedSeq.toNat + 1 where
  step s c q hq := by
    have hdoes := perform_does s c
    revert hdoes hq
    generalize (perform s c).1 = res
    generalize (perform s c).2 = s'
    intro hq hdoes
    cases c <;> cases res <;> cases hq
    obtain ⟨r, heffect, rfl⟩ := Consumed.effect hdoes
    obtain ⟨m₁, m', hm₁, -, -, -, hseq, hm', hlast⟩ := heffect.path.of_single.consumed_head
    refine ⟨fun m hm => ?_, m', hm', ?_⟩
    · rw [hm₁] at hm
      cases hm
      exact hseq.ge
    · rw [hlast]
      exact Nat.lt_succ_self _
  mono _ _ h := Nat.succ_le_succ h.last

/-! ### Permits -/

/-- Every row is of a permit that some request of a list asked for. -/
def Sourced (cs : List Call) (ns : Namespace) : Prop :=
  ∀ seq r, ns.rows.lookup seq = some r → ∃ req m t, Call.issue req ∈ cs ∧
    fillSnapshotFromIss r = fillSnapshotFromIss (issuedRow m req t)

theorem Sourced.mono {ns : Namespace} {cs' : List Call} (h : Sourced cs ns)
    (hsub : ∀ c ∈ cs, c ∈ cs') : Sourced cs' ns := by
  intro seq r hr
  obtain ⟨req, m, t, hmem, hfill⟩ := h seq r hr
  exact ⟨req, m, t, hsub _ hmem, hfill⟩

theorem Sourced.committed {ns ns' : Namespace} {x : Txn} (h : Sourced cs ns)
    (hx : Committed ns x ns') (hreq : ∀ req r t, x = .issue req r t → Call.issue req ∈ cs) :
    Sourced cs ns' := by
  intro seq r' hr'
  obtain ⟨r₀, hr₀, hfill⟩ | ⟨m, req, t, rfl, rfl⟩ := hx.row_of hr'
  · obtain ⟨req, m, t, hmem, hfill'⟩ := h seq r₀ hr₀
    exact ⟨req, m, t, hmem, hfill.trans hfill'⟩
  · exact ⟨req, m, t, hreq req _ t rfl, rfl⟩

theorem Sourced.path {ns ns' : Namespace} {xs : List Txn} (h : Sourced cs ns)
    (hpath : Path ns xs ns') (hreq : ∀ req r t, .issue req r t ∈ xs → Call.issue req ∈ cs) :
    Sourced cs ns' := by
  induction hpath with
  | nil ns => exact h
  | cons hx _ ih =>
    refine ih (h.committed hx fun req r t heq => hreq req r t ?_) fun req r t hmem =>
      hreq req r t (List.mem_cons_of_mem _ hmem)
    rw [heq]
    exact List.mem_cons_self

/-- A call issues only what it was asked for. -/
theorem Call.Commits.issue {xs : List Txn} (h : c.Commits xs) {req : IssueRequest} {r : Issued}
    {t : TimeSample} (hmem : .issue req r t ∈ xs) : c = .issue req := by
  obtain h | ⟨req', r', t', ys, rfl, rfl, h⟩ | ⟨seqs, rfl, rfl⟩ := h
  · exact absurd (h _ hmem) Bool.false_ne_true
  · rcases List.mem_append.1 hmem with hmem | hmem
    · exact absurd (h _ hmem) Bool.false_ne_true
    · cases List.mem_singleton.1 hmem
      rfl
  · cases List.mem_singleton.1 hmem

theorem performAll_sourced (h : Sourced [] s.disk) (cs : List Call) :
    Sourced cs (s.performAll cs).2.disk := by
  refine performAll_induct (P := fun cs s => Sourced cs s.disk) h ?_ cs
  intro cs s c hs
  obtain ⟨xs, hpath, hc⟩ := (perform_does s c).commits
  refine (hs.mono fun c hc => List.mem_append_left _ hc).path hpath fun req r t hmem => ?_
  rw [hc.issue hmem]
  exact List.mem_append_right _ (List.mem_singleton.2 rfl)

/-- A permit that is consumed: the row of the head, handed out for some request, at a trusted
reading in its life. -/
structure ConsumedRow (cs : List Call) (s : St) (p : Snapshot) (r : Issued) : Prop where
  row : s.disk.rows.lookup p.permitSequence = some r
  issued : r.state = .issued
  fields : p = fillSnapshotFromIss r
  request : ∃ req m t, Call.issue req ∈ cs ∧ p = fillSnapshotFromIss (issuedRow m req t)
  reading : classify s.pcp.ramTrust s.clock.head = .okTrusted
  trusted : s.clock.head.sample.trust = clockTrusted
  epoch : s.clock.head.sample.clockEpochId = r.clockEpochId
  notBefore : r.notBeforeMs ≤ s.clock.head.sample.nowMs
  notExpired : s.clock.head.sample.nowMs < r.expiryMs

theorem Consumed.row {p : Snapshot} (h : Consumed s p s') (hs : Sourced cs s.disk) :
    ∃ r, ConsumedRow cs s p r := by
  obtain ⟨r, heffect, rfl⟩ := h.effect
  obtain ⟨m, m', -, hrow, hissued, hvalid, -⟩ := heffect.path.of_single.consumed_head
  unfold validTime at hvalid
  simp only [Bool.and_eq_true, beq_iff_eq, decide_eq_true_eq] at hvalid
  obtain ⟨⟨⟨htrust, hepoch⟩, hbefore⟩, hexpiry⟩ := hvalid
  obtain ⟨req, m₁, t, hmem, hfill⟩ := hs _ r hrow
  exact ⟨r, hrow, hissued, rfl, ⟨req, m₁, t, hmem, hfill⟩, h.reading, htrust, hepoch,
    hbefore, hexpiry⟩

/-- A permit revoked is not consumed any more. -/
theorem revoked_not_consumed (hs : SoundNamespace s.disk) {q : UInt64} {r : Issued}
    (hr : s.disk.rows.lookup q = some r) (hrevoked : r.state = .revoked) (cs : List Call) :
    q ∉ (s.performAll cs).1.filterMap consumedSeq := by
  intro hq
  cases hinfo : s.disk.info with
  | none =>
    have hmem := mem_entries.2 hr
    rw [hs.none hinfo] at hmem
    exact absurd hmem List.not_mem_nil
  | some m =>
    have hafter := numbering_consumed.after hinfo q hq
    have hbefore := (hs.some m hinfo).toConsistent.le_of_not_issued hr (by
      rw [hrevoked]
      decide)
    exact absurd (UInt64.le_iff_toNat_le.1 hbefore) (Nat.not_le.2 hafter)

/-- **At most once, and in order.** In every run, the numbers of the permits handed out increase, and
so do those of the permits consumed; a permit that is consumed is the row of the head, field by
field, which some request asked for, at a trusted reading of the row's own epoch in its life; a
permit once revoked is never consumed; and no counter moves back. -/
theorem permits_at_most_once (replies : Stream' Reply) (clock : Stream' ClockReply)
    (entropy : Stream' (PortStatus × Id)) (cs : List Call) :
    ((((St.start replies clock entropy).performAll cs).1.filterMap issuedSeq).Pairwise (· < ·) ∧
      (((St.start replies clock entropy).performAll cs).1.filterMap consumedSeq).Pairwise (· < ·)) ∧
    (∀ p, (perform ((St.start replies clock entropy).performAll cs).2 (.consume p)).1 = .done →
      ∃ r, ConsumedRow cs ((St.start replies clock entropy).performAll cs).2 p r) ∧
    (∀ q r, ((St.start replies clock entropy).performAll cs).2.disk.rows.lookup q = some r →
      r.state = .revoked → ∀ cs',
        q ∉ (((St.start replies clock entropy).performAll cs).2.performAll cs').1.filterMap
          consumedSeq) ∧
    ∀ c m, ((St.start replies clock entropy).performAll cs).2.disk.info = some m →
      ∃ m', (perform ((St.start replies clock entropy).performAll cs).2 c).2.disk.info = some m' ∧
        m.NotBefore m' := by
  have hs : SoundNamespace ((St.start replies clock entropy).performAll cs).2.disk :=
    performAll_sound cs SoundNamespace.empty
  have hsource : Sourced cs ((St.start replies clock entropy).performAll cs).2.disk :=
    performAll_sourced (fun seq r hr => by cases hr) cs
  refine ⟨⟨numbering_issued.increasing _ cs, numbering_consumed.increasing _ cs⟩, ?_⟩
  generalize ((St.start replies clock entropy).performAll cs).2 = s at hs hsource ⊢
  refine ⟨fun p hp => ?_, fun q r hr hrevoked cs' => revoked_not_consumed hs hr hrevoked cs',
    fun c m hm => perform_notBefore c hm⟩
  have hdoes := perform_does s (.consume p)
  rw [hp] at hdoes
  exact Consumed.row hdoes hsource

end Runs

end Ninlil.Permit
