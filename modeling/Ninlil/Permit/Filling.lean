import Ninlil.Permit.Growth

/-!
# The permit authority: filling its namespace

* `Sweeping`, `succeeds_gc`: on a store without faults, an erasure of rows below the outstanding
  ones succeeds, as long as the scan accepts the namespace;
* `RoomToIssue`, `Keeping`, `rows_bounded`: a run that never issues at the limit keeps to what the
  scan can read, and one that keeps the last row, too, can always be swept;
* `Issuable`, `succeeds_issue`: on a store without faults, an issue under a new epoch succeeds when
  its request fits, whatever the number of rows;
* `overfilled`: so a run of issues goes past the limit.
-/

namespace Ninlil.Permit

open Outcomes

/-! ### Keeping to the limit -/

/-- No issue of the run is called at the limit. -/
def RoomToIssue (s : St) : List Call → Prop
  | [] => True
  | c :: cs => (∀ req, c = .issue req → s.disk.rows.entries.length < scanMaxIss) ∧
      RoomToIssue (perform s c).2 cs

/-- Every call of the run keeps the namespace as the scan wants it. -/
def Keeping (s : St) : List Call → Prop
  | [] => True
  | c :: cs => c.keeps s.disk ∧ Keeping (perform s c).2 cs

section Keeping

variable {s s' : St} {c : Call} {r : Result}

/-- A call adds a row only if it is an issue. -/
theorem Does.length_le (h : Does s s' c r) (hlen : s.disk.rows.entries.length ≤ scanMaxIss)
    (hroom : ∀ req, c = .issue req → s.disk.rows.entries.length < scanMaxIss) :
    s'.disk.rows.entries.length ≤ scanMaxIss := by
  obtain ⟨xs, hpath, hplain | ⟨req, row, t, ys, rfl, rfl, hplain⟩ | ⟨seqs, rfl, rfl⟩⟩ := h.commits
  · rw [(hpath.plain hplain).2]
    exact hlen
  · obtain ⟨ns, hys, hx⟩ := hpath.split
    rw [hx.length_issue, (hys.plain hplain).2]
    exact hroom req rfl
  · exact hpath.of_single.length_gc.trans hlen

theorem walkAccepts_of_sound {ns : Namespace} (h : SoundNamespace ns)
    (hlen : ns.rows.entries.length ≤ scanMaxIss) : walkAccepts ns.rows = true := by
  unfold walkAccepts
  rw [Bool.and_eq_true, decide_eq_true_eq, List.all_eq_true]
  refine ⟨fun e he => ?_, hlen⟩
  cases hinfo : ns.info with
  | none =>
    rw [h.none hinfo] at he
    exact absurd he List.not_mem_nil
  | some m => exact ((h.some m hinfo).row e.1 e.2 (mem_entries.1 he)).accepted.1

theorem performAll_length (cs : List Call) (hlen : s.disk.rows.entries.length ≤ scanMaxIss)
    (hroom : RoomToIssue s cs) : (s.performAll cs).2.disk.rows.entries.length ≤ scanMaxIss := by
  induction cs generalizing s with
  | nil => exact hlen
  | cons c cs ih => exact ih ((perform_does s c).length_le hlen hroom.1) hroom.2

theorem performAll_accepted (cs : List Call) (hacc : s.disk.accepted = true)
    (hkeep : Keeping s cs) : (s.performAll cs).2.disk.accepted = true := by
  induction cs generalizing s with
  | nil => exact hacc
  | cons c cs ih => exact ih ((perform_does s c).accepted hacc hkeep.1) hkeep.2

end Keeping

/-! ### Calls that succeed -/

/-- The program does not fail. -/
def Succeeds {ε α : Type} (m : Prog St ε α) (s : St) (Q : α → St → Prop) : Prop :=
  Ends m s Q fun _ _ => False

section Succeeding

variable {ε α β : Type} {s s' : St} {m : Prog St ε α} {Q : α → St → Prop} {R : β → St → Prop}

theorem Succeeds.of_ends {E : ε → St → Prop} (h : Ends m s Q E) (hE : ∀ e s', ¬E e s') :
    Succeeds m s Q := h.mono (fun _ _ hq => hq) hE

theorem Succeeds.bind {f : α → Prog St ε β} (h : Succeeds m s Q)
    (hf : ∀ a s', Q a s' → Succeeds (f a) s' R) : Succeeds (m >>= f) s R := Ends.bind h hf

theorem succeeds_required {c : Bool} {e : ε} {k : PUnit → Prog St ε β} (hc : c = true)
    (hk : Succeeds (k ⟨⟩) s R) : Succeeds (require c e >>= k) s R := by
  refine Ends.bind (ends_require fun hf => ?_) ?_
  · rw [hc] at hf
    cases hf
  · rintro - s1 ⟨rfl, -⟩
    exact hk

theorem succeeds_orRollback {m : Op α} (h : Succeeds m s Q) : Succeeds (orRollback m) s Q :=
  ends_onFailure h fun _ _ hf => hf.elim

theorem succeeds_checked {m : Meta} {rows : Rows} {k : Meta → Op β} (hfl : Faultless s)
    (hdisk : s.disk = ⟨some m, rows⟩) (hacc : scanAccepts m rows = true)
    (hk : ∀ s'', InTxn s ⟨some m, rows⟩ s'' → Succeeds (k m) s'' R) :
    Succeeds (begin >>= fun _ => orRollback rwScanCheck >>= k) s R := by
  refine Succeeds.bind (Succeeds.of_ends ends_begin fun _ _ h => h.2 hfl) ?_
  rintro - s1 ⟨hs1, htxn1⟩
  have hin : InTxn s ⟨some m, rows⟩ s1 := ⟨hs1, htxn1.trans hdisk⟩
  refine Succeeds.bind (succeeds_orRollback (Succeeds.of_ends (hin.reads reads_rwScanCheck) ?_)) ?_
  · intro st s2 h2
    have hbad := h2.2 hfl m rfl
    rw [hacc] at hbad
    cases hbad
  · rintro m' s2 ⟨h2, hinfo, -⟩
    cases hinfo
    exact hk s2 h2

theorem succeeds_put {t : Namespace} (hfl : Faultless s) (h : InTxn s t s')
    (f : Namespace → Namespace) : Succeeds (putValue f) s' fun _ s'' => InTxn s (f t) s'' :=
  Succeeds.of_ends (h.put f) fun _ _ hq => hq.2 hfl

theorem succeeds_commit {t : Namespace} (hfl : Faultless s) (h : InTxn s t s') :
    Succeeds commitFull s' fun _ s'' => Stored s t s'' :=
  Succeeds.of_ends h.commit fun _ _ hq => hq.2.1 hfl

end Succeeding

/-! ### An erasure that succeeds -/

/-- An erasure that is asked for as it has to be: some rows, and none of those outstanding. -/
structure Erasable (m : Meta) (seqs : List UInt64) : Prop where
  nonempty : 0 < seqs.length
  few : seqs.length ≤ maxOutstanding
  below : ∀ q ∈ seqs, q ≠ 0 ∧ q ≠ seqMax ∧ q ≤ m.lastConsumedSeq

/-- An authority that may erase rows, on a store without faults. -/
structure Sweeping (s : St) : Prop where
  faultless : Faultless s
  active : s.pcp.active = true
  held : s.pcp.issueCsHeld = false
  storageBound : s.pcp.storageBound = true

section Erasing

variable {s s' : St} {m : Meta} {rows : Rows} {seqs : List UInt64}

theorem succeeds_gcErase {i : Option Meta} (hfl : Faultless s) (h : InTxn s ⟨i, rows⟩ s')
    (hc : Consistent m rows)
    (hbelow : ∀ q ∈ seqs, q ≠ 0 ∧ q ≠ seqMax ∧ q ≤ m.lastConsumedSeq) :
    Succeeds (gcErase m seqs) s' fun _ s'' => InTxn s ⟨i, eraseAll rows seqs⟩ s'' := by
  induction seqs generalizing rows s' with
  | nil => exact ends_pure h
  | cons q seqs ih =>
    obtain ⟨hzero, hmax, hle⟩ := hbelow q List.mem_cons_self
    have hrest := fun p hp => hbelow p (List.mem_cons_of_mem q hp)
    have hone : Consistent m (rows.erase q) :=
      have hlast : ∀ p ∈ [q], p ≤ m.lastConsumedSeq := List.forall_mem_singleton.2 hle
      hc.eraseAll hlast
    refine succeeds_required ?_ ?_
    · simp only [bne_iff_ne.2 hzero, bne_iff_ne.2 hmax, decide_eq_true hle, Bool.and_self]
    refine Succeeds.bind (Succeeds.of_ends (h.reads (reads_txnGetIss q)) ?_) ?_
    · rintro st s2 ⟨-, hbad⟩
      obtain ⟨r, hr, hne⟩ := hbad hfl
      exact hne (hc.row q r hr).permitSequence
    rintro (- | iss) s2 ⟨h2, hlookup, -⟩
    · have hsame : rows.erase q = rows := erase_of_none hlookup
      rw [hsame] at hone
      show Succeeds _ _ fun _ s'' => InTxn s ⟨i, eraseAll (rows.erase q) seqs⟩ s''
      rw [hsame]
      exact ih h2 hone hrest
    · refine succeeds_required ?_ ?_
      · rw [bne_iff_ne]
        intro hissued
        exact UInt64.not_le.2 ((hc.issued_iff q iss hlookup).1 hissued) hle
      · refine Succeeds.bind (Succeeds.of_ends (h2.erase q) fun _ _ hq => hq.2 hfl) ?_
        intro _ s3 h3
        exact ih h3 hone hrest

theorem succeeds_guardActive (hactive : s.pcp.active = true) (hheld : s.pcp.issueCsHeld = false) :
    Succeeds guardActive s fun _ s' => s' = s := by
  refine ends_getSt (succeeds_required hactive ?_)
  refine (ends_require (E := fun _ _ => False) fun hf => ?_).mono (fun _ _ hs => hs.1)
    fun _ _ hf => hf
  rw [hheld] at hf
  cases hf

/-- **An erasure succeeds** if the scan accepts the namespace, however many rows there are below the
limit. -/
theorem succeeds_gc (h : Sweeping s) (hdisk : s.disk = ⟨some m, rows⟩)
    (hacc : scanAccepts m rows = true) (hseqs : Erasable m seqs) :
    Succeeds (gcTerminalRecords seqs) s fun _ s' => s'.disk = ⟨some m, eraseAll rows seqs⟩ := by
  refine Succeeds.bind (succeeds_guardActive h.active h.held) ?_
  rintro - s1 rfl
  refine succeeds_required ?_ ?_
  · rw [decide_eq_true hseqs.nonempty, decide_eq_true hseqs.few, Bool.and_self]
  refine Succeeds.bind (Succeeds.of_ends ends_ensureOpen fun _ _ hq => ?_) ?_
  · have hbad := hq.2 h.faultless
    rw [h.storageBound] at hbad
    cases hbad
  rintro - s2 ⟨h2, -⟩
  have hfl := h2.faultless h.faultless
  refine succeeds_checked hfl (h2.disk.trans hdisk) hacc ?_
  intro s3 h3
  refine Succeeds.bind (succeeds_orRollback
    (succeeds_gcErase hfl h3 (consistent_of_accepts hacc) hseqs.below)) fun _ s4 h4 => ?_
  refine Succeeds.bind (succeeds_orRollback (succeeds_put hfl h4 _)) fun _ s5 h5 => ?_
  exact (succeeds_commit hfl h5).mono (fun _ _ hs => hs.disk) fun _ _ hf => hf

theorem perform_gc (h : Sweeping s) (hinfo : s.disk.info = some m)
    (hacc : s.disk.accepted = true) (hseqs : Erasable m seqs) :
    (perform s (.gcTerminalRecords seqs)).1.ok = true ∧
      (perform s (.gcTerminalRecords seqs)).2.disk = ⟨some m, eraseAll s.disk.rows seqs⟩ := by
  have hdisk : s.disk = ⟨some m, s.disk.rows⟩ := by rw [← hinfo]
  have hscan : scanAccepts m s.disk.rows = true := by
    rw [hdisk] at hacc
    exact hacc
  have hrun : perform s (.gcTerminalRecords seqs) =
      (Result.of (fun _ => .done) ((gcTerminalRecords seqs).outcome s).1,
        ((gcTerminalRecords seqs).outcome s).2) := rfl
  rw [hrun]
  rcases hout : (gcTerminalRecords seqs).outcome s with ⟨st | u, s'⟩
  · exact ((succeeds_gc h hdisk hscan hseqs).error hout).elim
  · exact ⟨rfl, (succeeds_gc h hdisk hscan hseqs).ok hout⟩

/-- An erasure that succeeds began on a namespace that the scan accepts. -/
theorem accepted_of_gc (hok : (perform s (.gcTerminalRecords seqs)).1.ok = true) :
    s.disk.accepted = true := by
  have hdoes := perform_does s (.gcTerminalRecords seqs)
  rw [gc_ok seqs hok] at hdoes
  have heffect : Effect s [.gc seqs] (perform s (.gcTerminalRecords seqs)).2 := hdoes
  have hx := heffect.path.of_single
  generalize s.disk = ns, (perform s (.gcTerminalRecords seqs)).2.disk = ns' at hx
  cases hx with
  | gc hacc _ => exact hacc

/-- **The rows keep to what the scan can read** in every run that never issues at the limit, and the
walk over the namespace finds nothing wrong. If every call of the run keeps the namespace, an authority
that runs on it without faults can always erase rows. And every issue that succeeds adds a row, at the
limit as elsewhere. -/
theorem rows_bounded (replies : Stream' Reply) (clock : Stream' ClockReply)
    (entropy : Stream' (PortStatus × Id)) (cs : List Call) :
    (RoomToIssue (St.start replies clock entropy) cs →
      ((St.start replies clock entropy).performAll cs).2.disk.rows.entries.length ≤ scanMaxIss ∧
        walkAccepts ((St.start replies clock entropy).performAll cs).2.disk.rows = true) ∧
    (Keeping (St.start replies clock entropy) cs → ∀ s m seqs,
      s.disk = ((St.start replies clock entropy).performAll cs).2.disk → s.disk.info = some m →
      Sweeping s → Erasable m seqs →
      (perform s (.gcTerminalRecords seqs)).1.ok = true ∧
        (perform s (.gcTerminalRecords seqs)).2.disk = ⟨some m, eraseAll s.disk.rows seqs⟩) ∧
    ∀ s req p, (perform s (.issue req)).1 = .permit p →
      (perform s (.issue req)).2.disk.rows.entries.length = s.disk.rows.entries.length + 1 := by
  refine ⟨fun hroom => ?_, fun hkeep s m seqs hdisk hinfo hsweep hseqs => ?_, fun s req p hp => ?_⟩
  · have hlen := performAll_length cs (s := St.start replies clock entropy) (Nat.zero_le _) hroom
    exact ⟨hlen, walkAccepts_of_sound (performAll_sound cs SoundNamespace.empty) hlen⟩
  · refine perform_gc hsweep hinfo ?_ hseqs
    rw [hdisk]
    exact performAll_accepted cs (s := St.start replies clock entropy) rfl hkeep
  · have hdoes := perform_does s (.issue req)
    rw [hp] at hdoes
    obtain ⟨xs, row, t, heffect, hplain, -⟩ := Granted.effect hdoes
    obtain ⟨ns, hxs, hx⟩ := heffect.path.split
    rw [hx.length_issue, (hxs.plain hplain).2]

end Erasing

/-! ### A run that keeps to it -/

/-- Readings that are all trusted, each of an epoch of its own. -/
def newEpochs : Stream' ClockReply := fun n => ⟨.ok, sampleAt (BitVec.ofNat 128 (n + 1)) 0⟩

/-- A request that fits the profile. -/
def sampleRequest : IssueRequest where
  core := sampleCore
  maxAirtimeUs := 1
  frame := ⟨1, 1, 1⟩
  notBeforeMs := 0
  expiryMs := 1000
  reservedZero := 0

/-- The calls that bind an authority and publish its first meta record. -/
def setUp : List Call :=
  [.bindStorage, .bindClock, .bindLiveProfile ⟨sampleCore, 1, 0⟩, .publishInitialMeta 1]

/-- A process that has just started, over a store without faults and readings of new epochs. -/
def St.fresh : St := .start (Stream'.const ⟨.ok, false, true⟩) newEpochs (Stream'.const (.ok, 0))

/-- After two issues, each under an epoch of its own. -/
def twoIssues : List Call := setUp ++ [.issue sampleRequest, .issue sampleRequest]

/-- Another process on a namespace, over a store without faults. -/
def St.reopened (ns : Namespace) : St :=
  { St.fresh with
    pcp := { Pcp.init with storageBound := true }
    disk := ns }

theorem sweeping_reopened (ns : Namespace) : Sweeping (.reopened ns) :=
  ⟨fun _ => ⟨rfl, rfl⟩, rfl, rfl, rfl⟩

theorem room_twoIssues : RoomToIssue St.fresh twoIssues := by
  refine ⟨?_, ?_, ?_, ?_, fun _ _ => ?_, fun _ _ => ?_, trivial⟩
  iterate 4 exact fun req h => by cases h
  iterate 2 decide +kernel

/-- The two issues succeed and leave two rows, and the first, revoked by the second, is erased. -/
theorem rows_bounded_two :
    (St.fresh.performAll twoIssues).1.all (·.2.ok) = true ∧
      (St.fresh.performAll twoIssues).2.disk.rows.entries.length = 2 ∧
      walkAccepts (St.fresh.performAll twoIssues).2.disk.rows = true ∧
      (perform (.reopened (St.fresh.performAll twoIssues).2.disk)
        (.gcTerminalRecords [1])).1.ok = true ∧
      (perform (.reopened (St.fresh.performAll twoIssues).2.disk)
        (.gcTerminalRecords [1])).2.disk.rows.entries.length = 1 := by
  have hroom := room_twoIssues
  have hkeep : Keeping St.fresh twoIssues :=
    ⟨trivial, trivial, trivial, trivial, hroom.2.2.2.2.1 _ rfl, hroom.2.2.2.2.2.1 _ rfl, trivial⟩
  have hbound := rows_bounded (Stream'.const ⟨.ok, false, true⟩) newEpochs (Stream'.const (.ok, 0))
    twoIssues
  rw [← St.fresh] at hbound
  have hlast : (St.fresh.performAll twoIssues).2.disk.info.map Meta.lastConsumedSeq = some 1 := by
    decide +kernel
  have hlen : (eraseAll (St.fresh.performAll twoIssues).2.disk.rows [1]).entries.length = 1 := by
    decide +kernel
  refine ⟨by decide +kernel, by decide +kernel, (hbound.1 hroom).2, ?_⟩
  have hsweeps := hbound.2.1 hkeep
  generalize (St.fresh.performAll twoIssues).2.disk = ns at hlast hlen hsweeps ⊢
  obtain ⟨m, hinfo, hm⟩ := Option.map_eq_some_iff.1 hlast
  have hseqs : Erasable m [1] := by
    refine ⟨by decide, by decide, fun q hq => ?_⟩
    rw [List.mem_singleton.1 hq, hm]
    decide
  obtain ⟨hok, hdisk⟩ := hsweeps (.reopened ns) m [1] rfl hinfo (sweeping_reopened ns) hseqs
  refine ⟨hok, ?_⟩
  rw [hdisk]
  exact hlen

/-! ### An issue that succeeds -/

/-- RAM is as before, but for what an issue uses. -/
structure Kept (s s' : St) : Prop where
  faultless : Faultless s → Faultless s'
  pcp : s'.pcp = { s.pcp with
    handleLive := s'.pcp.handleLive
    outstandingCountCache := s'.pcp.outstandingCountCache
    ramTrust := s'.pcp.ramTrust
    ramValidate := s'.pcp.ramValidate }
  clock : s'.clock = s.clock

/-- An issue that has to succeed on a store without faults: the authority is bound and not fenced,
the clock has come under a new epoch, and the request fits. -/
structure Issuable (s : St) (m : Meta) (rows : Rows) (req : IssueRequest) : Prop where
  faultless : Faultless s
  active : s.pcp.active = true
  held : s.pcp.issueCsHeld = false
  pin : s.pcp.issueSampleSticky = none
  storageBound : s.pcp.storageBound = true
  clockBound : s.pcp.clockBound = true
  live : s.pcp.boundLive.isSome = true
  published : s.pcp.published = true
  fence : s.pcp.fence = .none
  disk : s.disk = ⟨some m, rows⟩
  accepted : scanAccepts m rows = true
  fences : m.fences = .none
  reading : classify s.pcp.ramTrust s.clock.head = .okTrusted
  epoch : s.clock.head.sample.clockEpochId ≠ m.lastTrustedEpochId
  struct : req.structOk = true
  time : s.clock.head.sample.nowMs < req.expiryMs
  core : req.core = m.boundCore
  ceiling : req.maxAirtimeUs ≤ m.boundMaxAirtimeCeilingUs
  next : m.nextIssueSeq < seqMax

section Issuing

variable {s s' : St} {m m' : Meta} {rows rows' : Rows} {t : TimeSample} {req : IssueRequest}

/-- Revoking changes only two counters. -/
theorem Revokes.info (h : Revokes m rows m' rows') :
    m' = { m with
      outstandingCount := m'.outstandingCount
      lastConsumedSeq := m'.lastConsumedSeq } := by
  induction h with
  | refl m rows => rfl
  | head h _ ih =>
    rw [ih, h.info]
    rfl

theorem Consistent.head (h : Consistent m rows) (hpos : 0 < m.outstandingCount) :
    ∃ r, rows.lookup (m.lastConsumedSeq + 1) = some r ∧ r.permitSequence = m.lastConsumedSeq + 1 ∧
      r.state = .issued := by
  have hnat := h.toNat_head hpos
  have hcount := h.count
  have hlast : m.lastConsumedSeq < m.lastConsumedSeq + 1 := by
    rw [UInt64.lt_iff_toNat_lt, hnat]
    exact Nat.lt_succ_self _
  obtain ⟨r, hr⟩ := h.dense (m.lastConsumedSeq + 1) hlast (by
    rw [UInt64.lt_iff_toNat_lt, hnat]
    omega)
  exact ⟨r, hr, (h.row _ r hr).permitSequence, (h.issued_iff _ r hr).2 hlast⟩

theorem succeeds_revokeHeads {n : ℕ} {i : Option Meta} {s1 : St} (hfl : Faultless s)
    (h : InTxn s ⟨i, rows⟩ s1) (hc : Consistent m rows) (hn : n ≤ m.outstandingCount) :
    Succeeds (revokeHeads n m) s1 fun _ _ => True := by
  induction n generalizing m rows s1 with
  | zero => exact ends_pure trivial
  | succ n ih =>
    obtain ⟨r, hr, hseq, hissued⟩ := hc.head (by omega)
    refine Succeeds.bind (Succeeds.of_ends (h.reads (reads_getHead _)) ?_) ?_
    · exact fun _ _ hq => hq.2 hfl ⟨r, hr, hseq, hissued⟩
    rintro iss s2 ⟨h2, hlookup, hseq', hissued'⟩
    refine Succeeds.bind (succeeds_put hfl h2 _) fun _ s3 h3 => ?_
    have hclosed : HeadClosed m rows iss .revoked m.dropHead
        (rows.insert iss.permitSequence { iss with state := .revoked }) := by
      refine ⟨by omega, hlookup, hissued', rfl, ?_⟩
      rw [hseq']
    refine ih h3 (hclosed.consistent (by decide) hc) ?_
    show n ≤ m.outstandingCount - 1
    omega

/-- Algorithm E succeeds, and leaves no permit outstanding. -/
theorem succeeds_algorithmE (hfl : Faultless s) (hdisk : s.disk = ⟨some m, rows⟩)
    (hacc : scanAccepts m rows = true) (hepoch : t.clockEpochId ≠ m.lastTrustedEpochId) :
    Succeeds (algorithmE t m) s fun _ s' => Kept s s' ∧ ∃ m' rows',
      s'.disk = ⟨some (m'.trusting t), rows'⟩ ∧ Revokes m rows m' rows' ∧
        m'.outstandingCount = 0 ∧ Committed s.disk (.reEpoch t) s'.disk := by
  have hput : Succeeds (algorithmEPut t m) s fun _ s5 => ∃ m' rows',
      Stored s ⟨some (m'.trusting t), rows'⟩ s5 ∧ Revokes m rows m' rows' ∧
        m'.outstandingCount = 0 := by
    refine succeeds_checked hfl hdisk hacc ?_
    intro s1 h1
    have hsame : m.sameAs m = true := by
      unfold Meta.sameAs
      simp only [beq_self_eq_true, Bool.and_self]
    refine Succeeds.bind (succeeds_orRollback (Succeeds.of_ends
      (h1.reads (reads_requireSound _)) ?_)) ?_
    · intro st s2 h2
      have hbad := h2.2 hfl
      rw [hsame] at hbad
      cases hbad
    rintro - s2 ⟨h2, -⟩
    refine Succeeds.bind (succeeds_orRollback (((ends_revokeHeads h2 le_rfl).and
      (succeeds_revokeHeads hfl h2 (consistent_of_accepts hacc) le_rfl)).mono
        (fun _ _ h => h.1) fun _ _ h => h.2)) ?_
    rintro m' s3 ⟨rows', h3, hrev, hzero⟩
    refine Succeeds.bind (succeeds_orRollback (succeeds_put hfl h3 _)) fun _ s4 h4 => ?_
    have hcommit := succeeds_commit hfl h4
    refine (ends_onFailure hcommit fun _ _ hf => hf.elim).mono ?_ fun _ _ hf => hf
    intro _ s5 h5
    exact ⟨m', rows', h5, hrev, hzero.trans (Nat.sub_self _)⟩
  refine Succeeds.bind hput ?_
  rintro - s5 ⟨m', rows', h5, hrev, hzero⟩
  refine Succeeds.bind (Q := fun _ s6 => s6 = { s5 with pcp := { s5.pcp with
    outstandingCountCache := 0 } }) (ends_modifyPcp rfl) ?_
  rintro - s6 rfl
  refine Succeeds.bind (Q := fun _ s7 => s7 = { s5 with pcp := { s5.pcp with
    outstandingCountCache := 0
    ramTrust := some t.moment } }) (ends_modifyPcp rfl) ?_
  rintro - s7 rfl
  refine ends_modifyPcp ⟨⟨h5.faultless, ?_, h5.clock⟩, m', rows', h5.disk, hrev, hzero, ?_⟩
  · show ({ s5.pcp with
      outstandingCountCache := 0
      ramTrust := some t.moment
      ramValidate := none } : Pcp) = _
    rw [h5.pcp]
  · show Committed s.disk (.reEpoch t) s5.disk
    rw [h5.disk, hdisk]
    exact .reEpoch hacc hrev hzero hepoch

/-- The row is stored. -/
theorem succeeds_issuePut (hfl : Faultless s) (hdisk : s.disk = ⟨some m, rows⟩)
    (hacc : scanAccepts m rows = true) (hfences : m.fences.any = false)
    (hcore : req.core = m.boundCore) (hceiling : req.maxAirtimeUs ≤ m.boundMaxAirtimeCeilingUs)
    (hroom : m.outstandingCount < maxOutstanding) (hnext : m.nextIssueSeq < seqMax) :
    Succeeds (issuePut req t) s fun r s' => Kept s s' ∧ r = issuedRow m req t ∧
      s'.disk = ⟨some (m.addIssued.trusting t), rows.insert m.nextIssueSeq (issuedRow m req t)⟩ := by
  refine succeeds_checked hfl hdisk hacc ?_
  intro s1 h1
  refine Succeeds.bind (succeeds_orRollback (Succeeds.of_ends (ends_issueChecks m req h1) ?_)) ?_
  · exact fun _ _ hq => hq.2 ⟨hfences, hcore, hceiling, hroom, hnext⟩
  rintro - s2 ⟨h2, -⟩
  refine Succeeds.bind (succeeds_orRollback (succeeds_put hfl h2 _)) fun _ s3 h3 => ?_
  refine Succeeds.bind (succeeds_orRollback (succeeds_put hfl h3 _)) fun _ s4 h4 => ?_
  refine Succeeds.bind (succeeds_commit hfl h4) fun _ s5 h5 => ?_
  refine Succeeds.bind (Q := fun _ s6 => s6 = { s5 with pcp := { s5.pcp with
    outstandingCountCache := m.addIssued.outstandingCount } }) (ends_modifyPcp rfl) ?_
  rintro - s6 rfl
  refine ends_pure ⟨⟨h5.faultless, ?_, h5.clock⟩, rfl, h5.disk⟩
  show ({ s5.pcp with outstandingCountCache := m.addIssued.outstandingCount } : Pcp) = _
  rw [h5.pcp]

/-- What an issue leaves behind that succeeds so. -/
structure IssuedNext (s : St) (m : Meta) (rows : Rows) (t : TimeSample) (s' : St) : Prop where
  faultless : Faultless s'
  pcp : s'.pcp = { s.pcp with
    handleLive := s'.pcp.handleLive
    outstandingCountCache := s'.pcp.outstandingCountCache
    ramTrust := some t.moment
    ramValidate := s'.pcp.ramValidate }
  clock : s'.clock = s.clock.tail
  disk : ∃ m' rows', s'.disk = ⟨some m', rows'⟩ ∧
    m' = { m with
      nextIssueSeq := m.nextIssueSeq + 1
      lastConsumedSeq := m'.lastConsumedSeq
      outstandingCount := m'.outstandingCount
      lastTrustedEpochId := t.clockEpochId
      lastTrustedNowMs := t.nowMs } ∧
    rows'.entries.length = rows.entries.length + 1 ∧
    (rows.entries.length < scanMaxIss → scanAccepts m' rows' = true)

/-- **An issue succeeds** under a new epoch, if it fits, however many rows there are. -/
theorem succeeds_issue (h : Issuable s m rows req) :
    Succeeds (issue req) s fun _ s' => IssuedNext s m rows s.clock.head.sample s' := by
  have hunfenced : requireUnfenced Fences.none = (pure () : Op Unit) := rfl
  have hguard : Succeeds issueGuard s fun _ s' => s' = s := by
    refine ends_getSt ?_
    rw [h.held]
    exact succeeds_guardActive h.active h.held
  refine Succeeds.bind hguard ?_
  intro _ s1 hs1
  subst s1
  have hbound : Succeeds (orClear issueBound) s fun _ s' => s' = s := by
    refine ends_onFailure (E := fun _ _ => False) ?_ fun _ _ hf => hf.elim
    refine ends_getSt (succeeds_required h.storageBound (succeeds_required h.clockBound
      (succeeds_required ?_ ?_)))
    · rw [h.live, h.published]
      rfl
    · rw [h.fence, hunfenced]
      exact ends_pure rfl
  refine Succeeds.bind hbound ?_
  intro _ s1 hs1
  subst s1
  refine Succeeds.bind (Q := fun _ s1 => s1 = { s with pcp := { s.pcp with issueCsHeld := false } })
    (ends_modifyPcp rfl) ?_
  rintro - s1 hs1
  have hsame1 : s1 = s := by
    rw [hs1, ← h.held]
  clear hs1
  subst s1
  refine Succeeds.bind (Succeeds.of_ends ends_ensureOpen fun _ _ hq => ?_) ?_
  · have hbad := hq.2 h.faultless
    rw [h.storageBound] at hbad
    cases hbad
  rintro - s2 ⟨h2, -⟩
  have hread : Succeeds issueSample s2 fun r s3 =>
      r = ⟨classify s.pcp.ramTrust s.clock.head, s.clock.head.sample⟩ ∧
        s3 = { s2 with clock := s2.clock.tail } := by
    have hpin : s2.pcp.issueSampleSticky = none := by
      rw [h2.pcp]
      exact h.pin
    refine ends_getSt ?_
    rw [hpin]
    refine (ends_sampleClock (E := fun _ _ => False)).mono ?_ fun _ _ hf => hf
    rintro r s3 ⟨hr, hs3⟩
    rw [h2.ramTrust, h2.clock] at hr
    exact ⟨hr, hs3⟩
  refine Succeeds.bind hread ?_
  rintro r s3 ⟨rfl, hs3⟩
  rw [h.reading]
  refine Succeeds.bind (Q := fun t s4 => t = s.clock.head.sample ∧ s4 = s3) (ends_pure ⟨rfl, rfl⟩) ?_
  rintro t s4 ⟨rfl, hs4⟩
  subst s4
  have hfl3 : Faultless s3 := by
    rw [hs3]
    exact h2.faultless h.faultless
  have hdisk3 : s3.disk = ⟨some m, rows⟩ := by
    rw [hs3, ← h.disk]
    exact h2.disk
  refine Succeeds.bind (Succeeds.of_ends ends_readMeta fun _ _ hq => ?_) ?_
  · have hbad := hq.2 hfl3
    rw [hdisk3] at hbad
    cases hbad
  rintro snap s4 ⟨h4, hsnap⟩
  have hm : snap = m := by
    rw [hdisk3] at hsnap
    exact (Option.some.inj hsnap).symm
  subst snap
  have hdisk4 := h4.disk.trans hdisk3
  refine succeeds_required (by rw [h.fences]; rfl) ?_
  have hepoch : Succeeds (reEpoch s.clock.head.sample m) s4 fun _ s5 => Kept s4 s5 ∧ ∃ m' rows',
      s5.disk = ⟨some (m'.trusting s.clock.head.sample), rows'⟩ ∧ Revokes m rows m' rows' ∧
        m'.outstandingCount = 0 ∧ Committed s4.disk (.reEpoch s.clock.head.sample) s5.disk := by
    unfold reEpoch
    rw [if_pos (bne_iff_ne.2 h.epoch)]
    exact succeeds_algorithmE (h4.faultless hfl3) hdisk4 h.accepted h.epoch
  refine Succeeds.bind hepoch ?_
  rintro - s5 ⟨h5, m', rows', hdisk5, hrev, hzero, hx⟩
  have hinfo := hrev.info
  have hacc : scanAccepts (m'.trusting s.clock.head.sample) rows' = true := by
    have hall := hx.accepted_iff.2 trivial
    rwa [hdisk5] at hall
  refine succeeds_required h.struct (succeeds_required (decide_eq_true h.time) ?_)
  have hgrant : Grantable (m'.trusting s.clock.head.sample) req s.clock.head.sample := by
    have hstruct := h.struct
    unfold IssueRequest.structOk at hstruct
    simp only [Bool.and_eq_true, bne_iff_ne, decide_eq_true_eq] at hstruct
    refine ⟨?_, ?_, hstruct.2, ?_, hstruct.1.1.2, ?_, ?_, rfl⟩
    · show m'.fences.any = false
      rw [hinfo, h.fences]
      rfl
    · show req.core = m'.boundCore
      rw [hinfo, h.core]
    · show req.maxAirtimeUs ≤ m'.boundMaxAirtimeCeilingUs
      rw [hinfo]
      exact h.ceiling
    · show m'.outstandingCount < maxOutstanding
      rw [hzero]
      decide
    · show m'.nextIssueSeq < seqMax
      rw [hinfo]
      exact h.next
  have hx' := Committed.issue hacc hgrant
  refine Succeeds.bind (succeeds_issuePut (h5.faultless (h4.faultless hfl3)) hdisk5 hacc
    hgrant.fences hgrant.core hgrant.ceiling hgrant.room hgrant.next) ?_
  rintro r s6 ⟨h6, rfl, hdisk6⟩
  have hpcp2 := h2.pcp
  have hclock2 := h2.clock
  refine Succeeds.bind (Q := fun _ s7 =>
    IssuedNext s m rows s.clock.head.sample s7) (ends_modifyPcp ⟨?_, ?_, ?_, ?_⟩)
    fun _ _ hn => ends_pure hn
  · exact h6.faultless (h5.faultless (h4.faultless hfl3))
  · show ({ s6.pcp with ramTrust := some s.clock.head.sample.moment } : Pcp) = _
    rw [h6.pcp, h5.pcp, h4.pcp, hs3]
    show ({ s2.pcp with
      handleLive := _
      outstandingCountCache := _
      ramTrust := _
      ramValidate := _ } : Pcp) = _
    rw [hpcp2]
  · show s6.clock = _
    rw [h6.clock, h5.clock, h4.clock, hs3]
    show s2.clock.tail = _
    rw [hclock2]
  · refine ⟨_, _, hdisk6, ?_, ?_, ?_⟩
    · show ({ m' with
        nextIssueSeq := m'.nextIssueSeq + 1
        outstandingCount := m'.outstandingCount + 1
        lastTrustedEpochId := s.clock.head.sample.clockEpochId
        lastTrustedNowMs := s.clock.head.sample.nowMs } : Meta) = _
      rw [hinfo]
      rfl
    · exact hx'.length_issue.trans (congrArg (· + 1) hrev.reshaped.length)
    · intro hroom
      refine hx'.accepted_iff.2 ?_
      show rows'.entries.length < scanMaxIss
      rw [hrev.reshaped.length]
      exact hroom

end Issuing

/-! ### Past the limit -/

/-- The first meta record has just been published, under the first reading. -/
def St.published : St :=
  { (St.fresh.performAll setUp).2 with
    replies := Stream'.const ⟨.ok, false, true⟩
    clock := newEpochs.drop 1 }

/-- After some number of issues, each under an epoch of its own. -/
structure Filling (n : ℕ) (s : St) : Prop where
  faultless : Faultless s
  active : s.pcp.active = true
  held : s.pcp.issueCsHeld = false
  pin : s.pcp.issueSampleSticky.isSome = false
  storageBound : s.pcp.storageBound = true
  clockBound : s.pcp.clockBound = true
  live : s.pcp.boundLive.isSome = true
  published : s.pcp.published = true
  fence : s.pcp.fence = .none
  clock : s.clock = newEpochs.drop (n + 1)
  trust : s.pcp.ramTrust = some ⟨BitVec.ofNat 128 (n + 1), 0⟩
  disk : ∃ m, s.disk.info = some m ∧ m.fences = .none ∧ m.boundCore = sampleCore ∧
    m.boundMaxAirtimeCeilingUs = 1 ∧ m.nextIssueSeq.toNat = n + 1 ∧
    m.lastTrustedEpochId = BitVec.ofNat 128 (n + 1) ∧ s.disk.rows.entries.length = n ∧
    (n ≤ scanMaxIss → scanAccepts m s.disk.rows = true)

theorem filling_published : Filling 0 St.published := by
  refine ⟨fun n => ⟨rfl, rfl⟩, ?_, ?_, ?_, ?_, ?_, ?_, ?_, ?_, rfl, ?_,
    firstMeta ⟨sampleCore, 1, 0⟩ 1 (sampleAt 1 0), ?_, rfl, rfl, rfl, rfl, rfl, ?_, fun _ => ?_⟩ <;>
  decide +kernel

section Overfilling

variable {s : St} {n : ℕ}

theorem ofNat_ne {a b : ℕ} (ha : a < 1000) (hb : b < 1000) (hne : a ≠ b) :
    BitVec.ofNat 128 a ≠ BitVec.ofNat 128 b := by
  intro h
  have h' := congrArg BitVec.toNat h
  rw [BitVec.toNat_ofNat, BitVec.toNat_ofNat, Nat.mod_eq_of_lt (by omega),
    Nat.mod_eq_of_lt (by omega)] at h'
  exact hne h'

/-- A sample of a new epoch is trusted. -/
theorem classify_newEpoch {e : Id} {x : Trust} (hzero : e ≠ BitVec.ofNat 128 0)
    (hne : e ≠ x.epochId) : classify (some x) ⟨.ok, sampleAt e 0⟩ = .okTrusted := by
  have hwell : (sampleAt e 0).wellFormed = true := by
    have hform : (sampleAt e 0).wellFormed = (true && (e != 0)) := rfl
    rw [hform, Bool.true_and, bne_iff_ne]
    exact hzero
  have hahead : x.ahead (sampleAt e 0) = false := by
    unfold Trust.ahead
    rw [Bool.and_eq_false_iff]
    exact .inl (beq_eq_false_iff_ne.2 hne)
  unfold classify
  simp only [hwell, Option.any_some, hahead]
  rfl

/-- One more issue succeeds. -/
theorem Filling.step (h : Filling n s) (hn : n ≤ scanMaxIss) :
    (perform s (.issue sampleRequest)).1.ok = true ∧
      Filling (n + 1) (perform s (.issue sampleRequest)).2 := by
  obtain ⟨m, hinfo, hfences, hcore, hceiling, hnext, hepoch, hlen, hacc⟩ := h.disk
  have hnle : n ≤ 256 := hn
  have hhead : s.clock.head = ⟨.ok, sampleAt (BitVec.ofNat 128 (n + 2)) 0⟩ := by
    rw [h.clock]
    show newEpochs (0 + (n + 1)) = _
    rw [Nat.zero_add]
    rfl
  have hnew : BitVec.ofNat 128 (n + 2) ≠ BitVec.ofNat 128 (n + 1) :=
    ofNat_ne (by omega) (by omega) (by omega)
  have hissue : Issuable s m s.disk.rows sampleRequest := by
    refine ⟨h.faultless, h.active, h.held, ?_, h.storageBound, h.clockBound, h.live, h.published,
      h.fence, by rw [← hinfo], hacc hn, hfences, ?_, ?_, by decide, ?_, hcore.symm, ?_, ?_⟩
    · exact Option.isSome_eq_false_iff.1 h.pin |> Option.isNone_iff_eq_none.1
    · rw [hhead, h.trust]
      exact classify_newEpoch (ofNat_ne (by omega) (by omega) (by omega)) hnew
    · rw [hhead, hepoch]
      exact hnew
    · rw [hhead]
      exact (by decide : (0 : UInt64) < 1000)
    · rw [hceiling]
      exact UInt32.le_refl _
    · rw [UInt64.lt_iff_toNat_lt, hnext]
      have hmax : seqMax.toNat = 2 ^ 64 - 1 := rfl
      omega
  have hperform : ∀ p s', (issue sampleRequest).outcome s = (.ok p, s') →
      perform s (.issue sampleRequest) = (.permit p, s') := by
    intro p s' hrun
    show (Result.of .permit ((issue sampleRequest).outcome s).1, _) = _
    rw [hrun]
    rfl
  rcases hrun : (issue sampleRequest).outcome s with ⟨st | p, s'⟩
  · exact ((succeeds_issue hissue).error hrun).elim
  obtain ⟨hfl, hpcp, hclock, m', rows', hdisk, hm', hlen', hacc'⟩ := (succeeds_issue hissue).ok hrun
  rw [hperform p s' hrun]
  refine ⟨rfl, hfl, ?_, ?_, ?_, ?_, ?_, ?_, ?_, ?_, ?_, ?_, m', by rw [hdisk], ?_, ?_, ?_, ?_, ?_,
    ?_, ?_⟩
  · rw [hpcp, ← h.active]
  · rw [hpcp, ← h.held]
  · rw [hpcp, ← h.pin]
  · rw [hpcp, ← h.storageBound]
  · rw [hpcp, ← h.clockBound]
  · rw [hpcp, ← h.live]
  · rw [hpcp, ← h.published]
  · rw [hpcp, ← h.fence]
  · rw [hclock, h.clock, Stream'.tail_drop']
  · rw [hpcp, hhead]
    rfl
  · rw [hm', ← hfences]
  · rw [hm', ← hcore]
  · rw [hm', ← hceiling]
  · rw [hm']
    show (m.nextIssueSeq + 1).toNat = _
    rw [Words.toNat_succ (by omega), hnext]
  · rw [hm', hhead]
    rfl
  · rw [hdisk, ← hlen]
    exact hlen'
  · intro hle
    rw [hdisk]
    exact hacc' (by rw [hlen]; exact hle)

/-- Issues, one after another, all succeed. -/
theorem Filling.run (h : Filling n s) (k : ℕ) (hk : n + k ≤ scanMaxIss + 1) :
    (∀ e ∈ (s.performAll (List.replicate k (.issue sampleRequest))).1, e.2.ok = true) ∧
      Filling (n + k) (s.performAll (List.replicate k (.issue sampleRequest))).2 := by
  induction k generalizing n s with
  | zero => exact ⟨fun e he => absurd he List.not_mem_nil, h⟩
  | succ k ih =>
    obtain ⟨hok, hnext⟩ := h.step (by omega)
    obtain ⟨hall, hfilling⟩ := ih hnext (by omega)
    refine ⟨fun e he => ?_, ?_⟩
    · rcases List.mem_cons.1 he with rfl | he
      · exact hok
      · exact hall e he
    · rw [show n + (k + 1) = n + 1 + k from by omega]
      exact hfilling

/-- Past the limit, the walk over the namespace fails. -/
theorem Filling.walk (h : Filling n s) (hn : scanMaxIss < n) : walkAccepts s.disk.rows = false := by
  obtain ⟨m, -, -, -, -, -, -, hlen, -⟩ := h.disk
  unfold walkAccepts
  rw [hlen, Bool.and_eq_false_iff]
  exact .inr (decide_eq_false (Nat.not_le.2 hn))

/-- Past the limit, no row can be erased. -/
theorem Filling.stuck (h : Filling n s) (hn : scanMaxIss < n) (seqs : List UInt64) :
    (perform s (.gcTerminalRecords seqs)).1.ok = false := by
  rw [Bool.eq_false_iff]
  intro hok
  obtain ⟨m, hinfo, -, -, -, -, -, hlen, -⟩ := h.disk
  have hacc := accepted_of_gc hok
  have hdisk : s.disk = ⟨some m, s.disk.rows⟩ := by rw [← hinfo]
  rw [hdisk] at hacc
  have hcap := (scanAccepts_iff.1 hacc).cap
  rw [hlen] at hcap
  exact Nat.not_le.2 hn hcap

end Overfilling

/-- From the first meta record on, 257 issues succeed one after another, and then the scan cannot
read the namespace any more, and no row can be erased. -/
theorem overfilled :
    (∀ e ∈ (St.published.performAll (List.replicate (scanMaxIss + 1) (.issue sampleRequest))).1,
      e.2.ok = true) ∧
    (St.published.performAll
      (List.replicate (scanMaxIss + 1) (.issue sampleRequest))).2.disk.rows.entries.length =
        scanMaxIss + 1 ∧
    walkAccepts (St.published.performAll
      (List.replicate (scanMaxIss + 1) (.issue sampleRequest))).2.disk.rows = false ∧
    ∀ seqs, (perform (St.published.performAll
      (List.replicate (scanMaxIss + 1) (.issue sampleRequest))).2
        (.gcTerminalRecords seqs)).1.ok = false := by
  obtain ⟨hall, hfilling⟩ := filling_published.run (scanMaxIss + 1) (Nat.zero_add _).le
  have hlt : scanMaxIss < 0 + (scanMaxIss + 1) := by
    rw [Nat.zero_add]
    exact Nat.lt_succ_self _
  obtain ⟨m, -, -, -, -, -, -, hlen, -⟩ := hfilling.disk
  exact ⟨hall, hlen.trans (Nat.zero_add _), hfilling.walk hlt, hfilling.stuck hlt⟩

end Ninlil.Permit
