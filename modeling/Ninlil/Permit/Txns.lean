import Ninlil.Permit.Scan

/-!
# The permit authority: committed transactions

* `Txn`, `Committed`: the transactions of the authority, and what each does to a namespace that the
  scan accepts;
* `Sound`: the counters and the rows belong together, the outstanding permits are of the epoch
  trusted last and no more than `maxOutstanding`;
* `Path`: the transactions of a run, one after another.
-/

namespace Ninlil.Permit

open Words

/-! ### Transactions -/

/-- The moment of a sample becomes the one trusted last. -/
def Meta.trusting (m : Meta) (t : TimeSample) : Meta :=
  { m with lastTrustedEpochId := t.clockEpochId, lastTrustedNowMs := t.nowMs }

/-- The moment trusted last. -/
def Meta.trust (m : Meta) : Trust := ⟨m.lastTrustedEpochId, m.lastTrustedNowMs⟩

/-- The head is no longer outstanding. -/
def Meta.dropHead (m : Meta) : Meta :=
  { m with
    outstandingCount := m.outstandingCount - 1
    lastConsumedSeq := m.lastConsumedSeq + 1 }

/-- One more permit is outstanding. -/
def Meta.addIssued (m : Meta) : Meta :=
  { m with
    nextIssueSeq := m.nextIssueSeq + 1
    outstandingCount := m.outstandingCount + 1 }

/-- `pcp_apply_live_to_meta`. -/
def Meta.bound (m : Meta) (live : LiveProfile) (generation : UInt64) : Meta :=
  { m with
    boundCore := live.core
    boundMaxAirtimeCeilingUs := live.maxAirtimeUs
    assignmentGeneration := generation }

/-- The row of a permit that is issued now. -/
def issuedRow (m : Meta) (req : IssueRequest) (t : TimeSample) : Issued where
  state := .issued
  permitSequence := m.nextIssueSeq
  clockEpochId := t.clockEpochId
  notBeforeMs := req.notBeforeMs
  expiryMs := req.expiryMs
  core := req.core
  frame := req.frame
  maxAirtimeUs := req.maxAirtimeUs
  authorityInstanceId := m.authorityInstanceId
  issueGeneration := m.nextIssueSeq

/-- The rows without some of them. -/
def eraseAll (rows : Rows) (seqs : List UInt64) : Rows :=
  seqs.foldl (fun rs q => rs.erase q) rows

/-- The head, a permit that is outstanding, becomes terminal. -/
structure HeadClosed (m : Meta) (rows : Rows) (r : Issued) (st : RowState) (m' : Meta)
    (rows' : Rows) : Prop where
  outstanding : 0 < m.outstandingCount
  head : rows.lookup (m.lastConsumedSeq + 1) = some r
  issued : r.state = .issued
  info : m' = m.dropHead
  rows : rows' = rows.insert (m.lastConsumedSeq + 1) { r with state := st }

/-- Heads are revoked, one after another. -/
inductive Revokes : Meta → Rows → Meta → Rows → Prop
  | refl (m : Meta) (rows : Rows) : Revokes m rows m rows
  | head {m m' m'' : Meta} {rows rows' rows'' : Rows} {r : Issued}
      (h : HeadClosed m rows r .revoked m' rows') (h' : Revokes m' rows' m'' rows'') :
      Revokes m rows m'' rows''

/-- The first meta record. -/
structure FirstMeta (m : Meta) : Prop where
  fences : m.fences = .none
  authority : m.authorityInstanceId ≠ 0
  next : m.nextIssueSeq = 1
  last : m.lastConsumedSeq = 0
  outstanding : m.outstandingCount = 0

/-- A request that can be granted. -/
structure Grantable (m : Meta) (req : IssueRequest) (t : TimeSample) : Prop where
  fences : m.fences.any = false
  core : req.core = m.boundCore
  airtime : req.maxAirtimeUs ≠ 0
  ceiling : req.maxAirtimeUs ≤ m.boundMaxAirtimeCeilingUs
  life : req.notBeforeMs < req.expiryMs
  room : m.outstandingCount < maxOutstanding
  next : m.nextIssueSeq < seqMax
  epoch : t.clockEpochId = m.lastTrustedEpochId

/-- The transactions of the authority. -/
inductive Txn
  | publish (m : Meta)
  | fence (f : Fences)
  | revoke (r : Issued)
  | expire (r : Issued) (t : TimeSample)
  | consume (r : Issued) (t : TimeSample)
  | reEpoch (t : TimeSample)
  | issue (req : IssueRequest) (r : Issued) (t : TimeSample)
  | bind (live : LiveProfile) (generation : UInt64)
  | gc (seqs : List UInt64)
  | reClock (t : TimeSample)

/-- What a transaction does to the namespace. -/
inductive Committed : Namespace → Txn → Namespace → Prop
  | publish {m : Meta} {rows : Rows} (hrows : rows.entries = []) (hm : FirstMeta m) :
      Committed ⟨none, rows⟩ (.publish m) ⟨some m, rows⟩
  | fence {m : Meta} {rows : Rows} (hacc : scanAccepts m rows = true) (f : Fences) :
      Committed ⟨some m, rows⟩ (.fence f) ⟨some { m with fences := f }, rows⟩
  | revoke {m m' : Meta} {rows rows' : Rows} {r : Issued} (hacc : scanAccepts m rows = true)
      (h : HeadClosed m rows r .revoked m' rows') :
      Committed ⟨some m, rows⟩ (.revoke r) ⟨some m', rows'⟩
  | expire {m m' : Meta} {rows rows' : Rows} {r : Issued} {t : TimeSample}
      (hacc : scanAccepts m rows = true) (h : HeadClosed m rows r .revoked m' rows')
      (hfence : m.fences.any = false) (ht : expiredTime t r = true) :
      Committed ⟨some m, rows⟩ (.expire r t) ⟨some (m'.trusting t), rows'⟩
  | consume {m m' : Meta} {rows rows' : Rows} {r : Issued} {t : TimeSample}
      (hacc : scanAccepts m rows = true) (h : HeadClosed m rows r .consumed m' rows')
      (hfence : m.fences.any = false) (ht : validTime t r = true) :
      Committed ⟨some m, rows⟩ (.consume r t) ⟨some (m'.trusting t), rows'⟩
  | reEpoch {m m' : Meta} {rows rows' : Rows} {t : TimeSample} (hacc : scanAccepts m rows = true)
      (h : Revokes m rows m' rows') (hzero : m'.outstandingCount = 0)
      (hepoch : t.clockEpochId ≠ m.lastTrustedEpochId) :
      Committed ⟨some m, rows⟩ (.reEpoch t) ⟨some (m'.trusting t), rows'⟩
  | issue {m : Meta} {rows : Rows} {req : IssueRequest} {t : TimeSample}
      (hacc : scanAccepts m rows = true) (h : Grantable m req t) :
      Committed ⟨some m, rows⟩ (.issue req (issuedRow m req t) t)
        ⟨some (m.addIssued.trusting t), rows.insert m.nextIssueSeq (issuedRow m req t)⟩
  | bind {m : Meta} {rows : Rows} {live : LiveProfile} {generation : UInt64}
      (hacc : scanAccepts m rows = true) (hzero : m.outstandingCount = 0) :
      Committed ⟨some m, rows⟩ (.bind live generation) ⟨some (m.bound live generation), rows⟩
  | gc {m : Meta} {rows : Rows} {seqs : List UInt64} (hacc : scanAccepts m rows = true)
      (hseqs : ∀ q ∈ seqs, q ≤ m.lastConsumedSeq) :
      Committed ⟨some m, rows⟩ (.gc seqs) ⟨some m, eraseAll rows seqs⟩
  | reClock {m : Meta} {rows : Rows} {t : TimeSample} (hacc : scanAccepts m rows = true)
      (hepoch : t.clockEpochId ≠ m.lastTrustedEpochId)
      (hrows : ∀ seq r, rows.lookup seq = some r → r.state = .issued →
        r.clockEpochId = t.clockEpochId) :
      Committed ⟨some m, rows⟩ (.reClock t)
        ⟨some { m.trusting t with fences := { m.fences with clock := false } }, rows⟩

variable {ns ns' : Namespace}

/-- After a transaction there is a meta record. -/
theorem Committed.info {x : Txn} (h : Committed ns x ns') :
    ∃ m, ns'.info = some m := by
  cases h <;> exact ⟨_, rfl⟩

/-- Before the first meta record there is none. -/
theorem Committed.info_none {m : Meta} (h : Committed ns (.publish m) ns') :
    ns.info = none := by
  cases h
  rfl

/-! ### Soundness -/

/-- The counters and the rows belong together, and the outstanding permits are few and of one
epoch. -/
structure Sound (m : Meta) (rows : Rows) : Prop extends Consistent m rows where
  epoch : ∀ seq r, rows.lookup seq = some r → r.state = .issued →
    r.clockEpochId = m.lastTrustedEpochId
  room : m.outstandingCount ≤ maxOutstanding

/-- A namespace is empty or sound. -/
structure SoundNamespace (ns : Namespace) : Prop where
  none : ns.info = none → ns.rows.entries = []
  some : ∀ m, ns.info = some m → Sound m ns.rows

section Sound

variable {m m' : Meta} {rows rows' : Rows} {r : Issued} {st : RowState} {t : TimeSample}

/-- Two meta records with the same counters and the same bounds. -/
structure Meta.Alike (m m' : Meta) : Prop where
  authority : m'.authorityInstanceId = m.authorityInstanceId
  next : m'.nextIssueSeq = m.nextIssueSeq
  last : m'.lastConsumedSeq = m.lastConsumedSeq
  outstanding : m'.outstandingCount = m.outstandingCount
  core : m'.boundCore = m.boundCore
  ceiling : m'.boundMaxAirtimeCeilingUs = m.boundMaxAirtimeCeilingUs

theorem Meta.Alike.trusting (m : Meta) (t : TimeSample) : m.Alike (m.trusting t) :=
  ⟨rfl, rfl, rfl, rfl, rfl, rfl⟩

theorem Meta.Alike.fences (m : Meta) (f : Fences) : m.Alike { m with fences := f } :=
  ⟨rfl, rfl, rfl, rfl, rfl, rfl⟩

/-- Two meta records of one authority with the same bounds. -/
structure Meta.AlikeRows (m m' : Meta) : Prop where
  authority : m'.authorityInstanceId = m.authorityInstanceId
  core : m'.boundCore = m.boundCore
  ceiling : m'.boundMaxAirtimeCeilingUs = m.boundMaxAirtimeCeilingUs

theorem RowFits.alike {seq : UInt64} (h : RowFits m seq r) (ha : m.AlikeRows m') :
    RowFits m' seq r where
  permitSequence := h.permitSequence
  issueGeneration := h.issueGeneration
  ne_zero := h.ne_zero
  ne_max := h.ne_max
  life := h.life
  authority := h.authority.trans ha.authority.symm
  bound hst := by
    rw [ha.core, ha.ceiling]
    exact h.bound hst

theorem Consistent.alike (h : Consistent m rows) (ha : m.Alike m') : Consistent m' rows where
  row seq r hr := (h.row seq r hr).alike ⟨ha.authority, ha.core, ha.ceiling⟩
  issued_iff seq r hr := by
    rw [ha.last]
    exact h.issued_iff seq r hr
  below seq r hr := by
    rw [ha.next]
    exact h.below seq r hr
  dense seq := by
    rw [ha.last, ha.next]
    exact h.dense seq
  count := by
    rw [ha.last, ha.next, ha.outstanding]
    exact h.count
  authority := by
    rw [ha.authority]
    exact h.authority

theorem consistent_of_accepts (h : scanAccepts m rows = true) : Consistent m rows :=
  (scanAccepts_iff.1 h).toConsistent

/-- The word after `lastConsumedSeq`, when permits are outstanding. -/
theorem Consistent.toNat_head (h : Consistent m rows) (hpos : 0 < m.outstandingCount) :
    (m.lastConsumedSeq + 1).toNat = m.lastConsumedSeq.toNat + 1 := by
  have hcount := h.count
  have hbound := m.nextIssueSeq.toNat_lt
  exact toNat_succ (by omega)

/-- The counters and rows still belong together once the head is terminal. -/
theorem HeadClosed.consistent (h : HeadClosed m rows r st m' rows') (hst : st ≠ .issued)
    (hc : Consistent m rows) : Consistent m' rows' := by
  obtain ⟨hpos, hhead, hissued, rfl, rfl⟩ := h
  have hfits := hc.row _ r hhead
  have hnat := hc.toNat_head hpos
  have hcount := hc.count
  have hlookup : ∀ seq, seq ≠ m.lastConsumedSeq + 1 →
      (rows.insert (m.lastConsumedSeq + 1) { r with state := st }).lookup seq =
        rows.lookup seq := fun seq hne => AList.lookup_insert_ne hne
  have hself : (rows.insert (m.lastConsumedSeq + 1) { r with state := st }).lookup
      (m.lastConsumedSeq + 1) = some { r with state := st } := AList.lookup_insert rows
  have hfields : ∀ seq r', rows.lookup seq = some r' → seq ≠ m.lastConsumedSeq + 1 →
      (r'.state = .issued ↔ m.lastConsumedSeq + 1 < seq) := by
    intro seq r' hr' hne
    rw [hc.issued_iff seq r' hr', UInt64.lt_iff_toNat_lt, UInt64.lt_iff_toNat_lt, hnat]
    have hne' : seq.toNat ≠ m.lastConsumedSeq.toNat + 1 := fun heq =>
      hne (UInt64.toNat_inj.1 (heq.trans hnat.symm))
    omega
  refine ⟨?_, ?_, ?_, ?_, ?_, hc.authority⟩
  · intro seq r' hr'
    by_cases heq : seq = m.lastConsumedSeq + 1
    · subst heq
      rw [hself] at hr'
      cases hr'
      exact ⟨hfits.permitSequence, hfits.issueGeneration, hfits.ne_zero, hfits.ne_max, hfits.life,
        hfits.authority, fun h => absurd h hst⟩
    · rw [hlookup seq heq] at hr'
      have hf := hc.row seq r' hr'
      exact ⟨hf.permitSequence, hf.issueGeneration, hf.ne_zero, hf.ne_max, hf.life, hf.authority,
        hf.bound⟩
  · intro seq r' hr'
    by_cases heq : seq = m.lastConsumedSeq + 1
    · subst heq
      rw [hself] at hr'
      cases hr'
      exact ⟨fun h => absurd h hst, fun h => absurd h (UInt64.lt_irrefl _)⟩
    · rw [hlookup seq heq] at hr'
      exact hfields seq r' hr' heq
  · intro seq r' hr'
    by_cases heq : seq = m.lastConsumedSeq + 1
    · subst heq
      exact hc.below _ r hhead
    · rw [hlookup seq heq] at hr'
      exact hc.below seq r' hr'
  · intro seq hlo hhi
    have hlo' : m.lastConsumedSeq + 1 < seq := hlo
    have hne : seq ≠ m.lastConsumedSeq + 1 := fun heq => by
      rw [heq] at hlo'
      exact UInt64.lt_irrefl _ hlo'
    rw [hlookup seq hne]
    refine hc.dense seq ?_ hhi
    rw [UInt64.lt_iff_toNat_lt, hnat] at hlo'
    rw [UInt64.lt_iff_toNat_lt]
    omega
  · show (m.lastConsumedSeq + 1).toNat + (m.outstandingCount - 1) + 1 = m.nextIssueSeq.toNat
    omega

theorem Revokes.consistent (h : Revokes m rows m' rows') (hc : Consistent m rows) :
    Consistent m' rows' := by
  induction h with
  | refl m rows => exact hc
  | head h _ ih => exact ih (h.consistent (by decide) hc)

/-- A row that is outstanding was so before the head was closed. -/
theorem HeadClosed.lookup_issued (h : HeadClosed m rows r st m' rows') (hst : st ≠ .issued)
    {seq : UInt64} {r' : Issued} (hr : rows'.lookup seq = some r') (hissued : r'.state = .issued) :
    rows.lookup seq = some r' := by
  obtain ⟨-, -, -, -, rfl⟩ := h
  by_cases heq : seq = m.lastConsumedSeq + 1
  · rw [heq, AList.lookup_insert] at hr
    cases hr
    exact absurd hissued hst
  · rwa [AList.lookup_insert_ne heq] at hr

theorem HeadClosed.sound (h : HeadClosed m rows r st m' rows') (hst : st ≠ .issued)
    (hs : Sound m rows) : Sound m' rows' where
  toConsistent := h.consistent hst hs.toConsistent
  epoch seq r' hr' hissued := by
    have hold := hs.epoch seq r' (h.lookup_issued hst hr' hissued) hissued
    rw [h.info]
    exact hold
  room := by
    rw [h.info]
    exact (Nat.sub_le _ _).trans hs.room

/-- When no permit is outstanding, no row is. -/
theorem Consistent.not_issued (h : Consistent m rows) (hzero : m.outstandingCount = 0)
    {seq : UInt64} (hr : rows.lookup seq = some r) : r.state ≠ .issued := by
  intro hst
  have hafter := UInt64.lt_iff_toNat_lt.1 ((h.issued_iff seq r hr).1 hst)
  have hbefore := UInt64.lt_iff_toNat_lt.1 (h.below seq r hr)
  have hcount := h.count
  omega

/-- The head that expires is of the epoch of the sample. -/
theorem HeadClosed.sound_trusting (h : HeadClosed m rows r st m' rows') (hst : st ≠ .issued)
    (hs : Sound m rows) (hepoch : t.clockEpochId = r.clockEpochId) :
    Sound (m'.trusting t) rows' where
  toConsistent := (h.sound hst hs).toConsistent.alike (Meta.Alike.trusting m' t)
  epoch seq r' hr' hissued := by
    have hold := hs.epoch seq r' (h.lookup_issued hst hr' hissued) hissued
    have hhead := hs.epoch _ r h.head h.issued
    show r'.clockEpochId = t.clockEpochId
    rw [hold, hepoch, hhead]
  room := (h.sound hst hs).room

/-- The rows with one more, at `nextIssueSeq`. -/
theorem Consistent.addIssued (hc : Consistent m rows) (hmax : m.nextIssueSeq < seqMax)
    (hfits : RowFits m m.nextIssueSeq r) (hissued : r.state = .issued) :
    Consistent m.addIssued (rows.insert m.nextIssueSeq r) := by
  have hnext : (m.nextIssueSeq + 1).toNat = m.nextIssueSeq.toNat + 1 := toNat_succ_of_lt hmax
  have hcount := hc.count
  refine ⟨?_, ?_, ?_, ?_, ?_, hc.authority⟩
  · intro seq r' hr'
    by_cases heq : seq = m.nextIssueSeq
    · rw [heq, AList.lookup_insert] at hr'
      cases hr'
      rw [heq]
      exact hfits.alike ⟨rfl, rfl, rfl⟩
    · rw [AList.lookup_insert_ne heq] at hr'
      exact (hc.row seq r' hr').alike ⟨rfl, rfl, rfl⟩
  · intro seq r' hr'
    by_cases heq : seq = m.nextIssueSeq
    · rw [heq, AList.lookup_insert] at hr'
      cases hr'
      rw [heq]
      exact ⟨fun _ => hc.last_lt_next, fun _ => hissued⟩
    · rw [AList.lookup_insert_ne heq] at hr'
      exact hc.issued_iff seq r' hr'
  · intro seq r' hr'
    show seq < m.nextIssueSeq + 1
    rw [UInt64.lt_iff_toNat_lt, hnext]
    by_cases heq : seq = m.nextIssueSeq
    · rw [heq]
      exact Nat.lt_succ_self _
    · rw [AList.lookup_insert_ne heq] at hr'
      have hbelow := UInt64.lt_iff_toNat_lt.1 (hc.below seq r' hr')
      omega
  · intro seq hlo hhi
    by_cases heq : seq = m.nextIssueSeq
    · rw [heq]
      exact ⟨r, AList.lookup_insert rows⟩
    · rw [AList.lookup_insert_ne heq]
      refine hc.dense seq hlo ?_
      have hhi' : seq < m.nextIssueSeq + 1 := hhi
      have hne : seq.toNat ≠ m.nextIssueSeq.toNat := fun h => heq (UInt64.toNat_inj.1 h)
      rw [UInt64.lt_iff_toNat_lt, hnext] at hhi'
      rw [UInt64.lt_iff_toNat_lt]
      omega
  · show m.lastConsumedSeq.toNat + (m.outstandingCount + 1) + 1 = (m.nextIssueSeq + 1).toNat
    omega

theorem lookup_eraseAll (seqs : List UInt64) (rows : Rows) (seq : UInt64) :
    (eraseAll rows seqs).lookup seq = if seq ∈ seqs then none else rows.lookup seq := by
  induction seqs generalizing rows with
  | nil => rfl
  | cons q seqs ih =>
    have hcons : eraseAll rows (q :: seqs) = eraseAll (rows.erase q) seqs := rfl
    rw [hcons, ih]
    by_cases hq : seq = q
    · subst hq
      rw [AList.lookup_erase, ite_self, if_pos List.mem_cons_self]
    · rw [AList.lookup_erase_ne hq]
      have hmem : seq ∈ q :: seqs ↔ seq ∈ seqs := by
        rw [List.mem_cons]
        exact ⟨fun h => h.resolve_left hq, .inr⟩
      simp only [hmem]

theorem lookup_of_eraseAll {seqs : List UInt64} {seq : UInt64}
    (h : (eraseAll rows seqs).lookup seq = some r) : rows.lookup seq = some r := by
  rw [lookup_eraseAll] at h
  split at h
  · cases h
  · exact h

/-- Terminal rows can go. -/
theorem Consistent.eraseAll (hc : Consistent m rows) {seqs : List UInt64}
    (hseqs : ∀ q ∈ seqs, q ≤ m.lastConsumedSeq) : Consistent m (eraseAll rows seqs) where
  row seq r hr := hc.row seq r (lookup_of_eraseAll hr)
  issued_iff seq r hr := hc.issued_iff seq r (lookup_of_eraseAll hr)
  below seq r hr := hc.below seq r (lookup_of_eraseAll hr)
  dense seq hlo hhi := by
    have hnot : seq ∉ seqs := fun hmem => UInt64.not_le.2 hlo (hseqs seq hmem)
    rw [lookup_eraseAll, if_neg hnot]
    exact hc.dense seq hlo hhi
  count := hc.count
  authority := hc.authority

/-- With no permit outstanding, the authority may be bound to another profile. -/
theorem Consistent.bound (hc : Consistent m rows) (hzero : m.outstandingCount = 0)
    (live : LiveProfile) (generation : UInt64) : Consistent (m.bound live generation) rows where
  row seq r hr := by
    obtain ⟨hseq, hgen, hne, hmax, hlife, hauth, -⟩ := hc.row seq r hr
    exact ⟨hseq, hgen, hne, hmax, hlife, hauth, fun h => absurd h (hc.not_issued hzero hr)⟩
  issued_iff := hc.issued_iff
  below := hc.below
  dense := hc.dense
  count := hc.count
  authority := hc.authority

theorem FirstMeta.sound (h : FirstMeta m) (hrows : rows.entries = []) : Sound m rows := by
  have hnone : ∀ seq r, rows.lookup seq ≠ some r := by
    intro seq r hr
    have hmem := mem_entries.2 hr
    rw [hrows] at hmem
    exact absurd hmem List.not_mem_nil
  have hlast : m.lastConsumedSeq.toNat = 0 := by
    rw [h.last]
    rfl
  have hnext : m.nextIssueSeq.toNat = 1 := by
    rw [h.next]
    rfl
  refine ⟨⟨?_, ?_, ?_, ?_, ?_, h.authority⟩, ?_, ?_⟩
  · exact fun seq r hr => absurd hr (hnone seq r)
  · exact fun seq r hr => absurd hr (hnone seq r)
  · exact fun seq r hr => absurd hr (hnone seq r)
  · intro seq hlo hhi
    rw [UInt64.lt_iff_toNat_lt] at hlo hhi
    omega
  · rw [hlast, hnext, h.outstanding]
  · exact fun seq r hr => absurd hr (hnone seq r)
  · rw [h.outstanding]
    exact Nat.zero_le _

theorem Grantable.rowFits {req : IssueRequest} (h : Grantable m req t) (hc : Consistent m rows) :
    RowFits m m.nextIssueSeq (issuedRow m req t) where
  permitSequence := rfl
  issueGeneration := rfl
  ne_zero := hc.next_ne_zero
  ne_max := fun heq => by
    have hlt := h.next
    rw [heq] at hlt
    exact UInt64.lt_irrefl _ hlt
  life := h.life
  authority := rfl
  bound _ := ⟨h.core, h.airtime, h.ceiling⟩

theorem Grantable.sound {req : IssueRequest} (h : Grantable m req t) (hs : Sound m rows) :
    Sound (m.addIssued.trusting t) (rows.insert m.nextIssueSeq (issuedRow m req t)) where
  toConsistent := (hs.toConsistent.addIssued h.next (h.rowFits hs.toConsistent) rfl).alike
    (Meta.Alike.trusting _ t)
  epoch seq r hr hissued := by
    show r.clockEpochId = t.clockEpochId
    by_cases heq : seq = m.nextIssueSeq
    · rw [heq, AList.lookup_insert] at hr
      cases hr
      rfl
    · rw [AList.lookup_insert_ne heq] at hr
      rw [hs.epoch seq r hr hissued, h.epoch]
  room := h.room

theorem Revokes.sound (h : Revokes m rows m' rows') (hs : Sound m rows) : Sound m' rows' := by
  induction h with
  | refl m rows => exact hs
  | head h _ ih => exact ih (h.sound (by decide) hs)

/-- **Every transaction of the authority keeps a namespace sound.** -/
theorem Committed.soundNamespace {x : Txn} (h : Committed ns x ns')
    (hs : SoundNamespace ns) : SoundNamespace ns' := by
  refine ⟨?_, ?_⟩
  · intro hnone
    cases h <;> cases hnone
  intro m' hm'
  cases h with
  | publish hrows hm =>
    cases hm'
    exact hm.sound hrows
  | @fence m rows hacc f =>
    cases hm'
    have hold := hs.some m rfl
    exact ⟨hold.toConsistent.alike (Meta.Alike.fences m f), hold.epoch, hold.room⟩
  | @revoke m m₁ rows rows' r hacc h =>
    cases hm'
    exact h.sound (by decide) (hs.some m rfl)
  | @expire m m₁ rows rows' r t hacc h hfence ht =>
    cases hm'
    refine h.sound_trusting (by decide) (hs.some m rfl) ?_
    unfold expiredTime at ht
    simp only [Bool.and_eq_true, beq_iff_eq] at ht
    exact ht.1.2
  | @consume m m₁ rows rows' r t hacc h hfence ht =>
    cases hm'
    refine h.sound_trusting (by decide) (hs.some m rfl) ?_
    unfold validTime at ht
    simp only [Bool.and_eq_true, beq_iff_eq] at ht
    exact ht.1.1.2
  | @reEpoch m m₁ rows rows' t hacc h hzero hepoch =>
    cases hm'
    have hnew := h.sound (hs.some m rfl)
    exact ⟨hnew.toConsistent.alike (Meta.Alike.trusting m₁ t),
      fun seq r hr hst => absurd hst (hnew.toConsistent.not_issued hzero hr), hnew.room⟩
  | @issue m rows req t hacc h =>
    cases hm'
    exact h.sound (hs.some m rfl)
  | @bind m rows live generation hacc hzero =>
    cases hm'
    have hold := hs.some m rfl
    exact ⟨hold.toConsistent.bound hzero live generation, hold.epoch, hold.room⟩
  | gc hacc hseqs =>
    cases hm'
    have hold := hs.some m' rfl
    exact ⟨hold.toConsistent.eraseAll hseqs,
      fun seq r hr => hold.epoch seq r (lookup_of_eraseAll hr), hold.room⟩
  | @reClock m rows t hacc hepoch hrows =>
    cases hm'
    have hold := hs.some m rfl
    exact ⟨hold.toConsistent.alike ⟨rfl, rfl, rfl, rfl, rfl, rfl⟩, hrows, hold.room⟩

end Sound

/-! ### Rows -/

section Rows

variable {m m' : Meta} {rows rows' : Rows} {r r' : Issued} {st : RowState} {seq : UInt64}

/-- A row is of the permit it was of before the head was closed. -/
theorem HeadClosed.row_of (h : HeadClosed m rows r st m' rows') (hr : rows'.lookup seq = some r') :
    ∃ r₀, rows.lookup seq = some r₀ ∧ fillSnapshotFromIss r' = fillSnapshotFromIss r₀ := by
  obtain ⟨-, hhead, -, -, rfl⟩ := h
  by_cases heq : seq = m.lastConsumedSeq + 1
  · rw [heq, AList.lookup_insert] at hr
    cases hr
    exact ⟨r, by rw [heq, hhead], rfl⟩
  · rw [AList.lookup_insert_ne heq] at hr
    exact ⟨r', hr, rfl⟩

theorem Revokes.row_of (h : Revokes m rows m' rows') (hr : rows'.lookup seq = some r') :
    ∃ r₀, rows.lookup seq = some r₀ ∧ fillSnapshotFromIss r' = fillSnapshotFromIss r₀ := by
  induction h with
  | refl m rows => exact ⟨r', hr, rfl⟩
  | head h _ ih =>
    obtain ⟨r₁, hr₁, hfill⟩ := ih hr
    obtain ⟨r₀, hr₀, hfill'⟩ := h.row_of hr₁
    exact ⟨r₀, hr₀, hfill.trans hfill'⟩

/-- A row that was there is there still, as it was or revoked. -/
theorem Revokes.row (h : Revokes m rows m' rows') (hr : rows.lookup seq = some r) :
    rows'.lookup seq = some r ∨ rows'.lookup seq = some { r with state := .revoked } := by
  induction h generalizing r with
  | refl m rows => exact .inl hr
  | @head m m₁ m₂ rows rows₁ rows₂ r₁ h _ ih =>
    obtain ⟨-, hhead, -, -, rfl⟩ := h
    by_cases heq : seq = m.lastConsumedSeq + 1
    · rw [heq, hhead] at hr
      cases hr
      have hnew : (rows.insert (m.lastConsumedSeq + 1) { r₁ with state := .revoked }).lookup seq =
          some { r₁ with state := .revoked } := by
        rw [heq, AList.lookup_insert]
      exact .inr ((ih hnew).elim id id)
    · exact ih (by rw [AList.lookup_insert_ne heq, hr])

/-- A row was there before, or it is the one that is issued. -/
theorem Committed.row_of {x : Txn} (h : Committed ns x ns')
    (hr : ns'.rows.lookup seq = some r') :
    (∃ r₀, ns.rows.lookup seq = some r₀ ∧ fillSnapshotFromIss r' = fillSnapshotFromIss r₀) ∨
      ∃ m req t, x = .issue req (issuedRow m req t) t ∧ r' = issuedRow m req t := by
  cases h with
  | publish | fence => exact .inl ⟨r', hr, rfl⟩
  | revoke hacc h => exact .inl (h.row_of hr)
  | expire hacc h hfence ht => exact .inl (h.row_of hr)
  | consume hacc h hfence ht => exact .inl (h.row_of hr)
  | reEpoch hacc h hzero hepoch => exact .inl (h.row_of hr)
  | @issue m rows req t hacc h =>
    by_cases heq : seq = m.nextIssueSeq
    · refine .inr ⟨m, req, t, rfl, ?_⟩
      have hnew : (rows.insert m.nextIssueSeq (issuedRow m req t)).lookup seq = some r' := hr
      rw [heq, AList.lookup_insert] at hnew
      exact (Option.some.inj hnew).symm
    · refine .inl ⟨r', ?_, rfl⟩
      have hnew : (rows.insert m.nextIssueSeq (issuedRow m req t)).lookup seq = some r' := hr
      rwa [AList.lookup_insert_ne heq] at hnew
  | bind hacc hzero => exact .inl ⟨r', hr, rfl⟩
  | gc hacc hseqs => exact .inl ⟨r', lookup_of_eraseAll hr, rfl⟩
  | reClock hacc hepoch hrows => exact .inl ⟨r', hr, rfl⟩

end Rows

/-! ### Counters -/

section Counters

variable {m m' : Meta} {rows rows' : Rows} {r : Issued} {st : RowState}

/-- The counters never go back. -/
structure Meta.NotBefore (m m' : Meta) : Prop where
  next : m.nextIssueSeq.toNat ≤ m'.nextIssueSeq.toNat
  last : m.lastConsumedSeq.toNat ≤ m'.lastConsumedSeq.toNat

theorem Meta.NotBefore.refl (m : Meta) : m.NotBefore m := ⟨le_rfl, le_rfl⟩

theorem Meta.NotBefore.trans {m'' : Meta} (h : m.NotBefore m') (h' : m'.NotBefore m'') :
    m.NotBefore m'' := ⟨h.next.trans h'.next, h.last.trans h'.last⟩

/-- A closed head is the number after `lastConsumedSeq`, and `lastConsumedSeq` moves to it. -/
theorem HeadClosed.last_eq (h : HeadClosed m rows r st m' rows') (hc : Consistent m rows) :
    r.permitSequence.toNat = m.lastConsumedSeq.toNat + 1 ∧
      m'.lastConsumedSeq = r.permitSequence ∧ m'.nextIssueSeq = m.nextIssueSeq := by
  have hseq : r.permitSequence = m.lastConsumedSeq + 1 := (hc.row _ r h.head).permitSequence
  rw [h.info, hseq]
  exact ⟨hc.toNat_head h.outstanding, rfl, rfl⟩

theorem HeadClosed.notBefore (h : HeadClosed m rows r st m' rows') (hc : Consistent m rows) :
    m.NotBefore m' := by
  obtain ⟨hseq, hlast, hnext⟩ := h.last_eq hc
  refine ⟨?_, ?_⟩
  · rw [hnext]
  · rw [hlast, hseq]
    exact Nat.le_succ _

theorem Revokes.notBefore (h : Revokes m rows m' rows') (hc : Consistent m rows) :
    m.NotBefore m' := by
  induction h with
  | refl m rows => exact Meta.NotBefore.refl m
  | head h _ ih => exact (h.notBefore hc).trans (ih (h.consistent (by decide) hc))

/-- **No transaction moves a counter back**, and none removes the meta record. -/
theorem Committed.notBefore {x : Txn} (h : Committed ns x ns') {m : Meta}
    (hm : ns.info = some m) : ∃ m', ns'.info = some m' ∧ m.NotBefore m' := by
  cases h with
  | publish hrows hfirst => cases hm
  | fence hacc f =>
    cases hm
    exact ⟨_, rfl, le_rfl, le_rfl⟩
  | revoke hacc h =>
    cases hm
    exact ⟨_, rfl, h.notBefore (consistent_of_accepts hacc)⟩
  | expire hacc h | consume hacc h | reEpoch hacc h =>
    cases hm
    have hle := h.notBefore (consistent_of_accepts hacc)
    exact ⟨_, rfl, hle.next, hle.last⟩
  | issue hacc h =>
    cases hm
    refine ⟨_, rfl, ?_, le_rfl⟩
    show m.nextIssueSeq.toNat ≤ (m.nextIssueSeq + 1).toNat
    rw [toNat_succ_of_lt h.next]
    exact Nat.le_succ _
  | bind hacc hzero =>
    cases hm
    exact ⟨_, rfl, le_rfl, le_rfl⟩
  | gc hacc hseqs =>
    cases hm
    exact ⟨_, rfl, Meta.NotBefore.refl m⟩
  | reClock hacc hepoch hrows =>
    cases hm
    exact ⟨_, rfl, le_rfl, le_rfl⟩

/-- An issue takes the next number. -/
theorem Committed.issued_number {req : IssueRequest} {t : TimeSample}
    (h : Committed ns (.issue req r t) ns') :
    ∃ m m', ns.info = some m ∧ r = issuedRow m req t ∧ ns'.info = some m' ∧
      m'.nextIssueSeq.toNat = r.permitSequence.toNat + 1 := by
  cases h with
  | @issue m rows _ _ hacc h => exact ⟨m, _, rfl, rfl, rfl, toNat_succ_of_lt h.next⟩

/-- A consume takes the head. -/
theorem Committed.consumed_head {t : TimeSample}
    (h : Committed ns (.consume r t) ns') :
    ∃ m m', ns.info = some m ∧ ns.rows.lookup r.permitSequence = some r ∧ r.state = .issued ∧
      validTime t r = true ∧ r.permitSequence.toNat = m.lastConsumedSeq.toNat + 1 ∧
      ns'.info = some m' ∧ m'.lastConsumedSeq = r.permitSequence := by
  cases h with
  | @consume m m' rows rows' _ _ hacc h hfence ht =>
    have hc := consistent_of_accepts hacc
    obtain ⟨hseq, hlast, -⟩ := h.last_eq hc
    refine ⟨m, _, rfl, ?_, h.issued, ht, hseq, rfl, hlast⟩
    rw [(hc.row _ r h.head).permitSequence]
    exact h.head

/-- Lifting the clock fence takes a new epoch. -/
theorem Committed.reClocked {t : TimeSample}
    (h : Committed ns (.reClock t) ns') :
    ∃ m m', ns.info = some m ∧ t.clockEpochId ≠ m.lastTrustedEpochId ∧ ns'.info = some m' ∧
      m'.trust = t.moment := by
  cases h with
  | reClock hacc hepoch hrows => exact ⟨_, _, rfl, hepoch, rfl, rfl⟩

end Counters

/-! ### Paths -/

/-- The transactions of a run, one after another. -/
inductive Path : Namespace → List Txn → Namespace → Prop
  | nil (ns : Namespace) : Path ns [] ns
  | cons {ns ns' ns'' : Namespace} {x : Txn} {xs : List Txn} (h : Committed ns x ns')
      (h' : Path ns' xs ns'') : Path ns (x :: xs) ns''

section Paths

variable {ns ns' ns'' : Namespace} {xs ys : List Txn} {x : Txn}

theorem Path.single (h : Committed ns x ns') : Path ns [x] ns' := .cons h (.nil ns')

theorem Path.append (h : Path ns xs ns') (h' : Path ns' ys ns'') : Path ns (xs ++ ys) ns'' := by
  induction h with
  | nil ns => exact h'
  | cons hx _ ih => exact .cons hx (ih h')

theorem Path.soundNamespace (h : Path ns xs ns') (hs : SoundNamespace ns) : SoundNamespace ns' := by
  induction h with
  | nil ns => exact hs
  | cons hx _ ih => exact ih (hx.soundNamespace hs)

theorem Path.notBefore (h : Path ns xs ns') {m : Meta} (hm : ns.info = some m) :
    ∃ m', ns'.info = some m' ∧ m.NotBefore m' := by
  induction h generalizing m with
  | nil ns => exact ⟨m, hm, Meta.NotBefore.refl m⟩
  | cons hx _ ih =>
    obtain ⟨m₁, hm₁, hle⟩ := hx.notBefore hm
    obtain ⟨m₂, hm₂, hle'⟩ := ih hm₁
    exact ⟨m₂, hm₂, hle.trans hle'⟩

end Paths

end Ninlil.Permit
