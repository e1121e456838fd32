import Ninlil.Lib.Words
import Ninlil.Permit.Records

/-!
# The permit authority: what the scan accepts

* `ScanIss`, `Scan`, `rowAccepted`, `verifyInvariants`, `bodyAccepted`: the index that the scan
  builds, its check of each row, the invariants I1 to I14 over the index, and the second look at
  each row;
* `Consistent`: what the invariants mean for sequence numbers and rows, but for I5 and the number
  of rows;
* `Valid`: the whole of it.
-/

namespace Ninlil.Permit

/-! ### The checks -/

/-- An entry of the index. -/
structure ScanIss where
  seq : UInt64
  state : RowState
  deriving DecidableEq

/-- What the scan has seen. -/
structure Scan where
  info : Option Meta
  iss : List ScanIss

/-- The check of a row while the namespace is walked. The rows come before the meta record, so
nothing of the meta record is known yet. -/
def rowAccepted (key : UInt64) (body : Issued) : Bool :=
  body.permitSequence == key && body.issueGeneration == body.permitSequence &&
    body.permitSequence != 0 && body.permitSequence != seqMax &&
    body.notBeforeMs < body.expiryMs && !(body.state == .issued && body.maxAirtimeUs == 0)

/-- The state of a sequence number in the index. -/
def scanState (scan : Scan) (seq : UInt64) : Option RowState :=
  (scan.iss.find? fun x => x.seq == seq).map ScanIss.state

/-- The invariants I1 to I14 over the index. -/
def verifyInvariants (scan : Scan) : Bool :=
  match scan.info with
  | none => scan.iss.isEmpty
  | some m =>
    let issued := (scan.iss.filter fun x => x.state == .issued).length
    let maxSeq := scan.iss.foldl (fun a x => if a < x.seq then x.seq else a) 0
    let lo := m.lastConsumedSeq + 1
    let hi := m.nextIssueSeq - 1
    -- I1
    m.outstandingCount == issued &&
    -- I2
    (if 0 < m.outstandingCount then
      !(m.nextIssueSeq == 0 || m.nextIssueSeq ≤ lo) &&
      (hi - lo + 1).toNat == m.outstandingCount &&
      ((List.range m.outstandingCount).all fun k =>
        scanState scan (lo + UInt64.ofNat k) == some .issued) &&
      scan.iss.all fun x => x.state != .issued || (lo ≤ x.seq && x.seq ≤ hi)
    else scan.iss.all fun x => x.state != .issued) &&
    -- I3, I4
    (scan.iss.all fun x => x.state != .issued || m.lastConsumedSeq < x.seq) &&
    (scan.iss.all fun x => x.state == .issued || x.seq ≤ m.lastConsumedSeq) &&
    -- I5
    m.nextIssueSeq != 0 &&
    (if scan.iss.isEmpty then m.nextIssueSeq == m.lastConsumedSeq + 1
      else m.nextIssueSeq == maxSeq + 1) &&
    -- I6
    m.authorityInstanceId != 0 &&
    -- I13, I14
    (scan.iss.all fun x =>
      !(1 ≤ x.seq && x.seq ≤ m.lastConsumedSeq) || x.state != .issued) &&
    (m.outstandingCount != 0 || m.nextIssueSeq == m.lastConsumedSeq + 1)

/-- The check of a row read again, against its entry and the meta record. -/
def bodyAccepted (m : Meta) (x : ScanIss) (body : Issued) : Bool :=
  body.permitSequence == x.seq && body.state == x.state &&
    body.issueGeneration == body.permitSequence && body.notBeforeMs < body.expiryMs &&
    body.authorityInstanceId == m.authorityInstanceId &&
    (body.state != .issued || (body.core == m.boundCore && body.maxAirtimeUs != 0 &&
      body.maxAirtimeUs ≤ m.boundMaxAirtimeCeilingUs))

/-- The entry of a row. -/
def indexOf (e : Sigma fun _ : UInt64 => Issued) : ScanIss := ⟨e.1, e.2.state⟩

/-! ### What they mean -/

/-- A row that fits its sequence number and the meta record. -/
structure RowFits (m : Meta) (seq : UInt64) (r : Issued) : Prop where
  permitSequence : r.permitSequence = seq
  issueGeneration : r.issueGeneration = seq
  ne_zero : seq ≠ 0
  ne_max : seq ≠ seqMax
  life : r.notBeforeMs < r.expiryMs
  authority : r.authorityInstanceId = m.authorityInstanceId
  bound : r.state = .issued → r.core = m.boundCore ∧ r.maxAirtimeUs ≠ 0 ∧
    r.maxAirtimeUs ≤ m.boundMaxAirtimeCeilingUs

/-- The counters of the meta record and the rows belong together: the outstanding permits are those
after `lastConsumedSeq` and before `nextIssueSeq`, all of them, and no row is at or after
`nextIssueSeq`. -/
structure Consistent (m : Meta) (rows : Rows) : Prop where
  row : ∀ seq r, rows.lookup seq = some r → RowFits m seq r
  issued_iff : ∀ seq r, rows.lookup seq = some r →
    (r.state = .issued ↔ m.lastConsumedSeq < seq)
  below : ∀ seq r, rows.lookup seq = some r → seq < m.nextIssueSeq
  dense : ∀ seq, m.lastConsumedSeq < seq → seq < m.nextIssueSeq → ∃ r, rows.lookup seq = some r
  count : m.lastConsumedSeq.toNat + m.outstandingCount + 1 = m.nextIssueSeq.toNat
  authority : m.authorityInstanceId ≠ 0

/-- A namespace that the scan accepts. -/
structure Valid (m : Meta) (rows : Rows) : Prop extends Consistent m rows where
  top : rows.entries ≠ [] → ∃ r, rows.lookup (m.nextIssueSeq - 1) = some r
  cap : rows.entries.length ≤ scanMaxIss

/-! ### The checks decide it -/

section Decides

open Words

variable {m : Meta} {rows : Rows} {seq : UInt64} {r : Issued}

theorem mem_entries : (⟨seq, r⟩ : Sigma fun _ : UInt64 => Issued) ∈ rows.entries ↔
    rows.lookup seq = some r :=
  AList.mem_lookup_iff.symm

/-- The scan of a namespace without faults. -/
def scanOf (info : Option Meta) (rows : Rows) : Scan := ⟨info, rows.entries.map indexOf⟩

theorem scanState_scanOf (info : Option Meta) :
    scanState (scanOf info rows) seq = (rows.lookup seq).map Issued.state := by
  unfold scanState scanOf AList.lookup
  generalize rows.entries = l
  induction l with
  | nil => rfl
  | cons e l ih =>
    obtain ⟨k, b⟩ := e
    rw [List.map_cons, List.find?_cons]
    by_cases hk : k = seq
    · subst hk
      simp [indexOf]
    · rw [List.dlookup_cons_ne l ⟨k, b⟩ (Ne.symm hk), ← ih]
      have hbeq : ((indexOf ⟨k, b⟩).seq == seq) = false := by simpa [indexOf] using hk
      rw [hbeq]

theorem scanOf_all {info : Option Meta} {p : ScanIss → Bool} :
    (scanOf info rows).iss.all p = true ↔
      ∀ seq r, rows.lookup seq = some r → p ⟨seq, r.state⟩ = true := by
  unfold scanOf
  rw [List.all_map, List.all_eq_true]
  constructor
  · intro h seq r hr
    exact h ⟨seq, r⟩ (mem_entries.2 hr)
  · rintro h ⟨seq, r⟩ hr
    exact h seq r (mem_entries.1 hr)

theorem entries_all {p : (Sigma fun _ : UInt64 => Issued) → Bool} :
    rows.entries.all p = true ↔ ∀ seq r, rows.lookup seq = some r → p ⟨seq, r⟩ = true := by
  rw [List.all_eq_true]
  constructor
  · intro h seq r hr
    exact h ⟨seq, r⟩ (mem_entries.2 hr)
  · rintro h ⟨seq, r⟩ hr
    exact h seq r (mem_entries.1 hr)

/-- The largest sequence number, as the scan computes it. -/
def maxSeq (l : List ScanIss) (a : UInt64) : UInt64 :=
  l.foldl (fun a x => if a < x.seq then x.seq else a) a

theorem maxSeq_spec (l : List ScanIss) (a : UInt64) :
    a ≤ maxSeq l a ∧ (∀ x ∈ l, x.seq ≤ maxSeq l a) ∧
      (maxSeq l a = a ∨ ∃ x ∈ l, maxSeq l a = x.seq) := by
  induction l generalizing a with
  | nil => exact ⟨UInt64.le_refl a, fun x hx => absurd hx List.not_mem_nil, .inl rfl⟩
  | cons y l ih =>
    have hstep : maxSeq (y :: l) a = maxSeq l (if a < y.seq then y.seq else a) := rfl
    rw [hstep]
    split
    · rename_i hlt
      obtain ⟨hle, hall, hmem⟩ := ih y.seq
      refine ⟨UInt64.le_trans (UInt64.le_of_lt hlt) hle, ?_, ?_⟩
      · intro x hx
        rcases List.mem_cons.1 hx with rfl | hx
        · exact hle
        · exact hall x hx
      · rcases hmem with heq | ⟨x, hx, heq⟩
        · exact .inr ⟨y, List.mem_cons_self, heq⟩
        · exact .inr ⟨x, List.mem_cons_of_mem y hx, heq⟩
    · rename_i hlt
      obtain ⟨hle, hall, hmem⟩ := ih a
      refine ⟨hle, ?_, ?_⟩
      · intro x hx
        rcases List.mem_cons.1 hx with rfl | hx
        · exact UInt64.le_trans (UInt64.not_lt.1 hlt) hle
        · exact hall x hx
      · rcases hmem with heq | ⟨x, hx, heq⟩
        · exact .inl heq
        · exact .inr ⟨x, List.mem_cons_of_mem y hx, heq⟩

/-- The sequence numbers of the rows in a state. -/
def seqsIn (rows : Rows) (st : RowState) : List ℕ :=
  (rows.entries.filter fun e => e.2.state == st).map fun e => e.1.toNat

theorem mem_seqsIn {st : RowState} {n : ℕ} :
    n ∈ seqsIn rows st ↔ ∃ seq r, rows.lookup seq = some r ∧ r.state = st ∧ seq.toNat = n := by
  unfold seqsIn
  simp only [List.mem_map, List.mem_filter, beq_iff_eq]
  constructor
  · rintro ⟨⟨seq, r⟩, ⟨hmem, hst⟩, hn⟩
    exact ⟨seq, r, mem_entries.1 hmem, hst, hn⟩
  · rintro ⟨seq, r, hr, hst, hn⟩
    exact ⟨⟨seq, r⟩, ⟨mem_entries.2 hr, hst⟩, hn⟩

theorem nodup_seqsIn (st : RowState) : (seqsIn rows st).Nodup := by
  have hkeys : (rows.entries.map Sigma.fst).Nodup := rows.keys_nodup
  have hfst : ((rows.entries.filter fun e => e.2.state == st).map Sigma.fst).Nodup :=
    hkeys.sublist (List.filter_sublist.map Sigma.fst)
  have hmap := hfst.map (f := UInt64.toNat) fun a b h => UInt64.toNat_inj.1 h
  rwa [List.map_map] at hmap

/-- As many rows are outstanding as there are numbers between the counters. -/
theorem Consistent.length_issued (h : Consistent m rows) :
    (rows.entries.filter fun e => e.2.state == .issued).length = m.outstandingCount := by
  have hset : (seqsIn rows .issued).toFinset =
      Finset.Ioo m.lastConsumedSeq.toNat m.nextIssueSeq.toNat := by
    ext n
    rw [List.mem_toFinset, mem_seqsIn, Finset.mem_Ioo]
    constructor
    · rintro ⟨seq, r, hr, hst, rfl⟩
      exact ⟨UInt64.lt_iff_toNat_lt.1 ((h.issued_iff seq r hr).1 hst),
        UInt64.lt_iff_toNat_lt.1 (h.below seq r hr)⟩
    · rintro ⟨hlo, hhi⟩
      have hn : (UInt64.ofNat n).toNat = n := by
        refine toNat_ofNat_of_lt ?_
        have := m.nextIssueSeq.toNat_lt
        omega
      have hlast : m.lastConsumedSeq < UInt64.ofNat n := by
        rw [UInt64.lt_iff_toNat_lt, hn]
        exact hlo
      obtain ⟨r, hr⟩ := h.dense (UInt64.ofNat n) hlast (by
        rw [UInt64.lt_iff_toNat_lt, hn]
        exact hhi)
      exact ⟨_, r, hr, (h.issued_iff _ r hr).2 hlast, hn⟩
  have hnodup : (seqsIn rows .issued).Nodup := nodup_seqsIn .issued
  have hcard := List.toFinset_card_of_nodup hnodup
  rw [hset, Nat.card_Ioo] at hcard
  have hlen : (seqsIn rows .issued).length =
      (rows.entries.filter fun e => e.2.state == .issued).length := List.length_map _
  have hcount := h.count
  omega

theorem length_filter_scanOf (info : Option Meta) :
    ((scanOf info rows).iss.filter fun x => x.state == .issued).length =
      (rows.entries.filter fun e => e.2.state == .issued).length := by
  unfold scanOf
  rw [List.filter_map, List.length_map]
  rfl

/-- The counters of a namespace whose rows are between them. -/
theorem Consistent.next_ne_zero (h : Consistent m rows) : m.nextIssueSeq ≠ 0 := by
  have hcount := h.count
  exact ne_zero_iff.2 (by omega)

theorem Consistent.last_lt_next (h : Consistent m rows) : m.lastConsumedSeq < m.nextIssueSeq := by
  have hcount := h.count
  exact UInt64.lt_iff_toNat_lt.2 (by omega)

theorem Consistent.next_of_count (h : Consistent m rows) (hzero : m.outstandingCount = 0) :
    m.nextIssueSeq = m.lastConsumedSeq + 1 := by
  have hcount := h.count
  have hbound := m.nextIssueSeq.toNat_lt
  rw [← UInt64.toNat_inj, toNat_succ (by omega)]
  omega

theorem Consistent.next_of_empty (h : Consistent m rows) (hempty : rows.entries = []) :
    m.nextIssueSeq = m.lastConsumedSeq + 1 := by
  refine h.next_of_count ?_
  rw [← h.length_issued, hempty]
  rfl

/-- A row after `lastConsumedSeq` is outstanding, and the others are not. -/
theorem Consistent.le_of_not_issued (h : Consistent m rows) (hr : rows.lookup seq = some r)
    (hst : r.state ≠ .issued) : seq ≤ m.lastConsumedSeq :=
  UInt64.not_lt.1 fun hlt => hst ((h.issued_iff seq r hr).2 hlt)

theorem Valid.next_eq_maxSeq (h : Valid m rows) (hne : rows.entries ≠ []) :
    m.nextIssueSeq = maxSeq (rows.entries.map indexOf) 0 + 1 := by
  obtain ⟨r, hr⟩ := h.top hne
  obtain ⟨-, hall, hmem⟩ := maxSeq_spec (rows.entries.map indexOf) 0
  have hnext : 1 ≤ m.nextIssueSeq.toNat := ne_zero_iff.1 h.next_ne_zero
  have hpred : (m.nextIssueSeq - 1).toNat = m.nextIssueSeq.toNat - 1 := toNat_pred hnext
  have hle : m.nextIssueSeq - 1 ≤ maxSeq (rows.entries.map indexOf) 0 :=
    hall (indexOf ⟨_, r⟩) (List.mem_map_of_mem (mem_entries.2 hr))
  have hge : maxSeq (rows.entries.map indexOf) 0 ≤ m.nextIssueSeq - 1 := by
    rw [UInt64.le_iff_toNat_le, hpred]
    rcases hmem with heq | ⟨x, hx, heq⟩
    · rw [heq]
      exact Nat.zero_le _
    · obtain ⟨⟨s, r'⟩, he, rfl⟩ := List.mem_map.1 hx
      have hlt := UInt64.lt_iff_toNat_lt.1 (h.below s r' (mem_entries.1 he))
      rw [heq]
      exact Nat.le_sub_one_of_lt hlt
  rw [← UInt64.le_antisymm hle hge, UInt64.sub_add_cancel]

/-- The outstanding permits, as I2 has them. -/
theorem Consistent.window (h : Consistent m rows) (hpos : 0 < m.outstandingCount) :
    m.lastConsumedSeq + 1 < m.nextIssueSeq ∧
    (m.nextIssueSeq - 1 - (m.lastConsumedSeq + 1) + 1).toNat = m.outstandingCount ∧
    (∀ k < m.outstandingCount, ∃ r,
      rows.lookup (m.lastConsumedSeq + 1 + UInt64.ofNat k) = some r ∧ r.state = .issued) ∧
    ∀ seq r, rows.lookup seq = some r → r.state = .issued →
      m.lastConsumedSeq + 1 ≤ seq ∧ seq ≤ m.nextIssueSeq - 1 := by
  have hcount := h.count
  have hbound := m.nextIssueSeq.toNat_lt
  have hlo : (m.lastConsumedSeq + 1).toNat = m.lastConsumedSeq.toNat + 1 := toNat_succ (by omega)
  have hhi : (m.nextIssueSeq - 1).toNat = m.nextIssueSeq.toNat - 1 := toNat_pred (by omega)
  have hdiff : (m.nextIssueSeq - 1 - (m.lastConsumedSeq + 1)).toNat = m.outstandingCount - 1 := by
    rw [toNat_sub_of_le (by omega), hhi, hlo]
    omega
  refine ⟨?_, ?_, ?_, ?_⟩
  · rw [UInt64.lt_iff_toNat_lt, hlo]
    omega
  · rw [toNat_succ (by omega), hdiff]
    omega
  · intro k hk
    have hkn : (UInt64.ofNat k).toNat = k := toNat_ofNat_of_lt (by omega)
    have hseq : (m.lastConsumedSeq + 1 + UInt64.ofNat k).toNat = m.lastConsumedSeq.toNat + 1 + k := by
      rw [toNat_add_of_lt (by omega), hlo, hkn]
    have hlast : m.lastConsumedSeq < m.lastConsumedSeq + 1 + UInt64.ofNat k := by
      rw [UInt64.lt_iff_toNat_lt, hseq]
      omega
    obtain ⟨r, hr⟩ := h.dense _ hlast (by
      rw [UInt64.lt_iff_toNat_lt, hseq]
      omega)
    exact ⟨r, hr, (h.issued_iff _ r hr).2 hlast⟩
  · intro seq r hr hst
    have hafter := UInt64.lt_iff_toNat_lt.1 ((h.issued_iff seq r hr).1 hst)
    have hbefore := UInt64.lt_iff_toNat_lt.1 (h.below seq r hr)
    rw [UInt64.le_iff_toNat_le, UInt64.le_iff_toNat_le, hlo, hhi]
    omega

theorem Valid.verifyInvariants (h : Valid m rows) :
    verifyInvariants (scanOf (some m) rows) = true := by
  have hinfo : (scanOf (some m) rows).info = some m := rfl
  unfold Permit.verifyInvariants
  rw [hinfo]
  simp only [Bool.and_eq_true, length_filter_scanOf, h.length_issued, beq_self_eq_true, bne_iff_ne,
    scanOf_all, Bool.or_eq_true, decide_eq_true_eq, beq_iff_eq, Bool.not_eq_true',
    Bool.and_eq_false_iff, decide_eq_false_iff_not]
  refine ⟨⟨⟨⟨⟨⟨⟨⟨trivial, ?_⟩, ?_⟩, ?_⟩, h.next_ne_zero⟩, ?_⟩, h.authority⟩, ?_⟩, ?_⟩
  · split
    · rename_i hpos
      obtain ⟨hlt, hlen, hall, hrange⟩ := h.window hpos
      simp only [Bool.and_eq_true, scanOf_all]
      simp only [List.all_eq_true, List.mem_range, beq_iff_eq,
        scanState_scanOf, Option.map_eq_some_iff, Bool.not_eq_true', Bool.or_eq_false_iff,
        beq_eq_false_iff_ne, decide_eq_false_iff_not, UInt64.not_le, Bool.or_eq_true, bne_iff_ne]
      refine ⟨⟨⟨⟨h.next_ne_zero, hlt⟩, hlen⟩, hall⟩, ?_⟩
      intro seq r hr
      by_cases hst : r.state = .issued
      · rw [Bool.and_eq_true, decide_eq_true_eq, decide_eq_true_eq]
        exact .inr (hrange seq r hr hst)
      · exact .inl hst
    · rename_i hpos
      rw [scanOf_all]
      intro seq r hr
      rw [bne_iff_ne]
      intro hst
      have hafter := UInt64.lt_iff_toNat_lt.1 ((h.issued_iff seq r hr).1 hst)
      have hbefore := UInt64.lt_iff_toNat_lt.1 (h.below seq r hr)
      have hcount := h.count
      omega
  · intro seq r hr
    by_cases hst : r.state = .issued
    · exact .inr ((h.issued_iff seq r hr).1 hst)
    · exact .inl hst
  · intro seq r hr
    by_cases hst : r.state = .issued
    · exact .inl hst
    · exact .inr (h.le_of_not_issued hr hst)
  · split
    · rename_i hnil
      have hempty : rows.entries = [] := List.map_eq_nil_iff.1 (List.isEmpty_iff.1 hnil)
      exact beq_iff_eq.2 (h.next_of_empty hempty)
    · rename_i hnil
      refine beq_iff_eq.2 (h.next_eq_maxSeq fun hempty => hnil ?_)
      rw [List.isEmpty_iff]
      exact List.map_eq_nil_iff.2 hempty
  · intro seq r hr
    by_cases hst : r.state = .issued
    · have hlast : ¬seq ≤ m.lastConsumedSeq := UInt64.not_le.2 ((h.issued_iff seq r hr).1 hst)
      exact .inl (.inr hlast)
    · exact .inr hst
  · by_cases hzero : m.outstandingCount = 0
    · exact .inr (h.next_of_count hzero)
    · exact .inl hzero

/-- The counters, as I2 and I14 have them, once no row has number 0. -/
theorem count_of_window {n l : UInt64} {c : ℕ} (hn : n ≠ 0) (hzero : c = 0 → n = l + 1)
    (hpos : 0 < c → l + 1 < n ∧ (n - 1 - (l + 1) + 1).toNat = c ∧ l + 1 ≠ 0) :
    l.toNat + c + 1 = n.toNat := by
  have hl := l.toNat_lt
  have hnb := n.toNat_lt
  have hsucc : l + 1 ≠ 0 → (l + 1).toNat = l.toNat + 1 := by
    intro hne
    by_cases hmax : l.toNat + 1 < 2 ^ 64
    · exact toNat_succ hmax
    · refine absurd ?_ hne
      rw [← UInt64.toNat_inj, UInt64.toNat_add]
      have hone : (1 : UInt64).toNat = 1 := rfl
      have hz : (0 : UInt64).toNat = 0 := rfl
      rw [hone, hz]
      omega
  by_cases hc : c = 0
  · have heq := hzero hc
    subst heq
    rw [hsucc hn]
    omega
  · obtain ⟨hlt, hlen, hne⟩ := hpos (by omega)
    have hlo := hsucc hne
    rw [UInt64.lt_iff_toNat_lt, hlo] at hlt
    have hhi : (n - 1).toNat = n.toNat - 1 := toNat_pred (by omega)
    have hdiff : (n - 1 - (l + 1)).toNat = n.toNat - 1 - (l.toNat + 1) := by
      rw [toNat_sub_of_le (by omega), hhi, hlo]
    rw [toNat_succ (by omega), hdiff] at hlen
    omega

/-- The checks of the scan, on a namespace without faults. -/
def scanAccepts (m : Meta) (rows : Rows) : Bool :=
  (rows.entries.all fun e => rowAccepted e.1 e.2) && rows.entries.length ≤ scanMaxIss &&
    verifyInvariants (scanOf (some m) rows) &&
    rows.entries.all fun e => bodyAccepted m (indexOf e) e.2

theorem RowFits.accepted (h : RowFits m seq r) :
    rowAccepted seq r = true ∧ bodyAccepted m (indexOf ⟨seq, r⟩) r = true := by
  obtain ⟨hseq, hgen, hzero, hmax, hlife, hauth, hbound⟩ := h
  unfold rowAccepted bodyAccepted indexOf
  simp only [Bool.and_eq_true, beq_iff_eq, bne_iff_ne, decide_eq_true_eq, Bool.or_eq_true,
    Bool.not_eq_true', Bool.and_eq_false_iff, beq_eq_false_iff_ne]
  subst hseq
  by_cases hst : r.state = .issued
  · obtain ⟨hcore, hair, hceil⟩ := hbound hst
    exact ⟨⟨⟨⟨⟨⟨rfl, hgen⟩, hzero⟩, hmax⟩, hlife⟩, .inr hair⟩,
      ⟨⟨⟨⟨⟨rfl, trivial⟩, hgen⟩, hlife⟩, hauth⟩, .inr ⟨⟨hcore, hair⟩, hceil⟩⟩⟩
  · exact ⟨⟨⟨⟨⟨⟨rfl, hgen⟩, hzero⟩, hmax⟩, hlife⟩, .inl hst⟩,
      ⟨⟨⟨⟨⟨rfl, trivial⟩, hgen⟩, hlife⟩, hauth⟩, .inl hst⟩⟩

theorem RowFits.of_accepted (hrow : rowAccepted seq r = true)
    (hbody : bodyAccepted m (indexOf ⟨seq, r⟩) r = true) : RowFits m seq r := by
  unfold rowAccepted at hrow
  unfold bodyAccepted indexOf at hbody
  simp only [Bool.and_eq_true, beq_iff_eq, bne_iff_ne, decide_eq_true_eq, Bool.or_eq_true,
    Bool.not_eq_true', Bool.and_eq_false_iff, beq_eq_false_iff_ne] at hrow hbody
  obtain ⟨⟨⟨⟨⟨hseq, hgen⟩, hzero⟩, hmax⟩, hlife⟩, -⟩ := hrow
  obtain ⟨⟨-, hauth⟩, hbound⟩ := hbody
  subst hseq
  refine ⟨rfl, hgen, hzero, hmax, hlife, hauth, ?_⟩
  intro hst
  obtain ⟨⟨hcore, hair⟩, hceil⟩ := hbound.resolve_left fun h => h hst
  exact ⟨hcore, hair, hceil⟩

/-- The largest number of the rows belongs to one of them. -/
theorem lookup_of_maxSeq (hne : rows.entries ≠ [])
    (hzero : ∀ seq r, rows.lookup seq = some r → seq ≠ 0) :
    ∃ r, rows.lookup (maxSeq (rows.entries.map indexOf) 0) = some r := by
  obtain ⟨-, hall, hmem⟩ := maxSeq_spec (rows.entries.map indexOf) 0
  obtain ⟨⟨s, r⟩, he⟩ := List.exists_mem_of_ne_nil _ hne
  rcases hmem with heq | ⟨x, hx, heq⟩
  · have hle : s ≤ maxSeq (rows.entries.map indexOf) 0 :=
      hall (indexOf ⟨s, r⟩) (List.mem_map_of_mem he)
    rw [heq, UInt64.le_zero_iff] at hle
    exact absurd hle (hzero s r (mem_entries.1 he))
  · obtain ⟨⟨s', r'⟩, he', rfl⟩ := List.mem_map.1 hx
    rw [heq]
    exact ⟨r', mem_entries.1 he'⟩

/-- What I2 says of the rows between the counters. -/
theorem window_of_checks (hpos : 0 < m.outstandingCount)
    (h : (if 0 < m.outstandingCount then
      !(m.nextIssueSeq == 0 || m.nextIssueSeq ≤ m.lastConsumedSeq + 1) &&
      (m.nextIssueSeq - 1 - (m.lastConsumedSeq + 1) + 1).toNat == m.outstandingCount &&
      ((List.range m.outstandingCount).all fun k => scanState (scanOf (some m) rows)
        (m.lastConsumedSeq + 1 + UInt64.ofNat k) == some .issued) &&
      (scanOf (some m) rows).iss.all fun x => x.state != .issued ||
        (m.lastConsumedSeq + 1 ≤ x.seq && x.seq ≤ m.nextIssueSeq - 1)
      else (scanOf (some m) rows).iss.all fun x => x.state != .issued) = true) :
    m.lastConsumedSeq + 1 < m.nextIssueSeq ∧
    (m.nextIssueSeq - 1 - (m.lastConsumedSeq + 1) + 1).toNat = m.outstandingCount ∧
    ∀ k < m.outstandingCount, ∃ r,
      rows.lookup (m.lastConsumedSeq + 1 + UInt64.ofNat k) = some r := by
  rw [if_pos hpos] at h
  simp only [Bool.and_eq_true, List.all_eq_true, List.mem_range, beq_iff_eq, scanState_scanOf,
    Option.map_eq_some_iff, Bool.not_eq_true', Bool.or_eq_false_iff, decide_eq_false_iff_not,
    UInt64.not_le] at h
  obtain ⟨⟨⟨⟨-, hlt⟩, hlen⟩, hwin⟩, -⟩ := h
  refine ⟨hlt, hlen, ?_⟩
  intro k hk
  obtain ⟨r, hr, -⟩ := hwin k hk
  exact ⟨r, hr⟩

/-- **The scan accepts a namespace exactly when it is valid.** -/
theorem scanAccepts_iff : scanAccepts m rows = true ↔ Valid m rows := by
  unfold scanAccepts
  simp only [Bool.and_eq_true, decide_eq_true_eq, entries_all, and_assoc]
  constructor
  · rintro ⟨hrows, hcap, hinv, hbodies⟩
    have hfits : ∀ seq r, rows.lookup seq = some r → RowFits m seq r := fun seq r hr =>
      RowFits.of_accepted (hrows seq r hr) (hbodies seq r hr)
    unfold Permit.verifyInvariants at hinv
    have hinfo : (scanOf (some m) rows).info = some m := rfl
    rw [hinfo] at hinv
    simp only [Bool.and_eq_true, beq_iff_eq, bne_iff_ne, scanOf_all, Bool.or_eq_true,
      decide_eq_true_eq] at hinv
    obtain ⟨⟨⟨⟨⟨⟨⟨⟨-, hi2⟩, hi3⟩, hi4⟩, hnz⟩, hi5⟩, hauth⟩, -⟩, hi14⟩ := hinv
    have hissued : ∀ seq r, rows.lookup seq = some r →
        (r.state = .issued ↔ m.lastConsumedSeq < seq) := by
      intro seq r hr
      constructor
      · intro hst
        exact (hi3 seq r hr).resolve_left fun h => h hst
      · intro hlt
        exact (hi4 seq r hr).resolve_right (UInt64.not_le.2 hlt)
    have hcount : m.lastConsumedSeq.toNat + m.outstandingCount + 1 = m.nextIssueSeq.toNat := by
      refine count_of_window hnz (fun hz => hi14.resolve_left fun h => h hz) ?_
      intro hpos
      obtain ⟨hlt, hlen, hwin⟩ := window_of_checks hpos hi2
      refine ⟨hlt, hlen, ?_⟩
      obtain ⟨r, hr⟩ := hwin 0 hpos
      have hsame : m.lastConsumedSeq + 1 + UInt64.ofNat 0 = m.lastConsumedSeq + 1 := UInt64.add_zero _
      rw [hsame] at hr
      exact (hfits _ r hr).ne_zero
    have hlargest : rows.entries ≠ [] →
        m.nextIssueSeq = maxSeq (rows.entries.map indexOf) 0 + 1 := by
      intro hne
      have hiss : ¬(scanOf (some m) rows).iss.isEmpty = true := by
        rw [List.isEmpty_iff]
        exact fun hnil => hne (List.map_eq_nil_iff.1 hnil)
      rw [if_neg hiss] at hi5
      exact beq_iff_eq.1 hi5
    refine ⟨⟨hfits, hissued, ?_, ?_, hcount, hauth⟩, ?_, hcap⟩
    · intro seq r hr
      have hmem := mem_entries.2 hr
      have hle : seq ≤ maxSeq (rows.entries.map indexOf) 0 :=
        (maxSeq_spec _ 0).2.1 (indexOf ⟨seq, r⟩) (List.mem_map_of_mem hmem)
      have hnext := hlargest (List.ne_nil_of_mem hmem)
      have hadd : maxSeq (rows.entries.map indexOf) 0 = m.nextIssueSeq - 1 := by
        rw [hnext, UInt64.add_sub_cancel]
      have hpred : (m.nextIssueSeq - 1).toNat = m.nextIssueSeq.toNat - 1 := toNat_pred (by omega)
      rw [hadd, UInt64.le_iff_toNat_le, hpred] at hle
      rw [UInt64.lt_iff_toNat_lt]
      omega
    · intro seq hlo hhi
      rw [UInt64.lt_iff_toNat_lt] at hlo hhi
      have hpos : 0 < m.outstandingCount := by omega
      obtain ⟨-, -, hwin⟩ := window_of_checks hpos hi2
      obtain ⟨r, hr⟩ := hwin (seq.toNat - m.lastConsumedSeq.toNat - 1) (by omega)
      have hbound := m.nextIssueSeq.toNat_lt
      have hsucc : (m.lastConsumedSeq + 1).toNat = m.lastConsumedSeq.toNat + 1 :=
        toNat_succ (by omega)
      have hseq : seq = m.lastConsumedSeq + 1 +
          UInt64.ofNat (seq.toNat - m.lastConsumedSeq.toNat - 1) := eq_add_ofNat (by omega)
      rw [← hseq] at hr
      exact ⟨r, hr⟩
    · intro hne
      have hadd : m.nextIssueSeq - 1 = maxSeq (rows.entries.map indexOf) 0 := by
        rw [hlargest hne, UInt64.add_sub_cancel]
      rw [hadd]
      exact lookup_of_maxSeq hne fun seq r hr => (hfits seq r hr).ne_zero
  · intro h
    exact ⟨fun seq r hr => (h.row seq r hr).accepted.1, h.cap, h.verifyInvariants,
      fun seq r hr => (h.row seq r hr).accepted.2⟩

end Decides

end Ninlil.Permit
