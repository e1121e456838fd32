import Ninlil.Permit.Runs

/-!
# The permit authority: how its namespace grows

* `Namespace.accepted`, `Txn.keeps`, `Committed.accepted_iff`: a transaction leaves a namespace that
  the scan accepts, but for the erasure of the last row and the row too many;
* `namespace_accepted`: the same for every call.
-/

namespace Ninlil.Permit

open Words

/-! ### Rows -/

section Growing

variable {m m' : Meta} {rows rows' : Rows} {r : Issued} {st : RowState} {seq : UInt64}

theorem length_keys (rows : Rows) : rows.keys.length = rows.entries.length := List.length_map _

theorem length_insert_of_mem (h : rows.lookup seq = some r) (r' : Issued) :
    (rows.insert seq r').entries.length = rows.entries.length := by
  have hmem : seq ∈ rows.keys := AList.mem_keys.1 (AList.lookup_isSome.1 (by rw [h]; rfl))
  have hpos := List.length_pos_of_mem hmem
  rw [← length_keys, AList.keys_insert, List.length_cons, List.length_erase_of_mem hmem,
    ← length_keys]
  omega

theorem length_insert_of_notMem (h : rows.lookup seq = none) (r' : Issued) :
    (rows.insert seq r').entries.length = rows.entries.length + 1 := by
  have hnot : seq ∉ rows.keys := fun hmem => AList.lookup_eq_none.1 h (AList.mem_keys.2 hmem)
  rw [← length_keys, AList.keys_insert, List.length_cons, List.erase_of_not_mem hnot, length_keys]

/-- The same rows, some of them in another state. -/
structure Reshaped (rows rows' : Rows) : Prop where
  length : rows'.entries.length = rows.entries.length
  lookup : ∀ seq, (∃ r, rows.lookup seq = some r) → ∃ r, rows'.lookup seq = some r

theorem Reshaped.refl (rows : Rows) : Reshaped rows rows := ⟨rfl, fun _ h => h⟩

theorem HeadClosed.reshaped (h : HeadClosed m rows r st m' rows') : Reshaped rows rows' := by
  obtain ⟨-, hhead, -, -, rfl⟩ := h
  refine ⟨length_insert_of_mem hhead _, fun seq hseq => ?_⟩
  by_cases heq : seq = m.lastConsumedSeq + 1
  · exact ⟨_, by rw [heq, AList.lookup_insert]⟩
  · rwa [AList.lookup_insert_ne heq]

theorem Revokes.reshaped (h : Revokes m rows m' rows') : Reshaped rows rows' := by
  induction h with
  | refl m rows => exact Reshaped.refl rows
  | head h _ ih =>
    exact ⟨ih.length.trans h.reshaped.length, fun seq hs => ih.lookup seq (h.reshaped.lookup seq hs)⟩

theorem Revokes.next_eq (h : Revokes m rows m' rows') : m'.nextIssueSeq = m.nextIssueSeq := by
  induction h with
  | refl m rows => rfl
  | head h _ ih =>
    rw [ih, h.info]
    rfl

/-- What the scan accepts it accepts with the rows in other states. -/
theorem Valid.reshaped (h : Valid m rows) (hr : Reshaped rows rows') (hc : Consistent m' rows')
    (hnext : m'.nextIssueSeq = m.nextIssueSeq) : Valid m' rows' where
  toConsistent := hc
  top hne := by
    rw [hnext]
    refine hr.lookup _ (h.top fun hnil => hne ?_)
    rw [← List.length_eq_zero_iff, hr.length, hnil]
    rfl
  cap := hr.length ▸ h.cap

theorem length_eraseAll (seqs : List UInt64) (rows : Rows) :
    (eraseAll rows seqs).entries.length ≤ rows.entries.length := by
  induction seqs generalizing rows with
  | nil => exact le_rfl
  | cons q seqs ih =>
    refine (ih (rows.erase q)).trans ?_
    rw [← length_keys, ← length_keys, AList.keys_erase]
    exact List.length_erase_le

/-- An erasure leaves the last row, if it leaves any. -/
def KeepsLast (m : Meta) (rows : Rows) (seqs : List UInt64) : Prop :=
  0 < m.outstandingCount ∨ m.lastConsumedSeq ∉ seqs ∨
    ∀ seq r, rows.lookup seq = some r → seq ∈ seqs

theorem Consistent.pred_next (h : Consistent m rows) (hzero : m.outstandingCount = 0) :
    m.nextIssueSeq - 1 = m.lastConsumedSeq := by
  rw [h.next_of_count hzero, UInt64.add_sub_cancel]

theorem exists_row (hne : rows.entries ≠ []) : ∃ seq r, rows.lookup seq = some r := by
  obtain ⟨⟨seq, r⟩, hmem⟩ := List.exists_mem_of_ne_nil _ hne
  exact ⟨seq, r, mem_entries.1 hmem⟩

/-- After an erasure, the scan accepts exactly what still has the last row. -/
theorem Valid.eraseAll_iff (h : Valid m rows) {seqs : List UInt64}
    (hseqs : ∀ q ∈ seqs, q ≤ m.lastConsumedSeq) :
    Valid m (eraseAll rows seqs) ↔ KeepsLast m rows seqs := by
  have hlookup := lookup_eraseAll seqs rows
  constructor
  · intro h'
    by_cases hpos : 0 < m.outstandingCount
    · exact .inl hpos
    · have hzero : m.outstandingCount = 0 := by omega
      by_cases hnil : (eraseAll rows seqs).entries = []
      · refine .inr (.inr fun seq r hr => Decidable.of_not_not fun hnot => ?_)
        rw [← hlookup seq |>.trans (if_neg hnot)] at hr
        have hmem := mem_entries.2 hr
        rw [hnil] at hmem
        exact absurd hmem List.not_mem_nil
      · obtain ⟨r, hr⟩ := h'.top hnil
        rw [h.toConsistent.pred_next hzero, hlookup] at hr
        refine .inr (.inl fun hmem => ?_)
        rw [if_pos hmem] at hr
        cases hr
  · intro hkeep
    refine ⟨h.toConsistent.eraseAll hseqs, fun hne => ?_, (length_eraseAll seqs rows).trans h.cap⟩
    obtain ⟨seq, r, hr⟩ := exists_row hne
    have hold := lookup_of_eraseAll hr
    obtain ⟨r', hr'⟩ := h.top (List.ne_nil_of_mem (mem_entries.2 hold))
    suffices hnot : m.nextIssueSeq - 1 ∉ seqs from ⟨r', by rw [hlookup, if_neg hnot, hr']⟩
    intro hmem
    have hle := hseqs _ hmem
    by_cases hpos : 0 < m.outstandingCount
    · have hcount := h.count
      have hpred : (m.nextIssueSeq - 1).toNat = m.nextIssueSeq.toNat - 1 := toNat_pred (by omega)
      rw [UInt64.le_iff_toNat_le, hpred] at hle
      omega
    · rw [h.toConsistent.pred_next (by omega)] at hmem
      obtain hpos' | hnot | hall := hkeep
      · exact hpos hpos'
      · exact hnot hmem
      · have hin := hall seq r hold
        rw [hlookup, if_pos hin] at hr
        cases hr

end Growing

/-! ### Transactions -/

/-- What the scan says of a namespace. -/
def Namespace.accepted (ns : Namespace) : Bool :=
  match ns.info with
  | none => ns.rows.entries.isEmpty
  | some m => scanAccepts m ns.rows

/-- A transaction that keeps a namespace as the scan wants it. -/
def Txn.keeps (ns : Namespace) : Txn → Prop
  | .issue .. => ns.rows.entries.length < scanMaxIss
  | .gc seqs => ∀ m, ns.info = some m → KeepsLast m ns.rows seqs
  | _ => True

section Accepting

variable {ns ns' : Namespace} {x : Txn} {xs : List Txn}

/-- **A transaction leaves a namespace that the scan accepts**, exactly when there is room for the
row that it adds, and the last row stays of those that it erases. -/
theorem Committed.accepted_iff (h : Committed ns x ns') : ns'.accepted = true ↔ x.keeps ns := by
  cases h with
  | @publish m rows hrows hm =>
    refine iff_of_true (scanAccepts_iff.2 ⟨(hm.sound hrows).toConsistent, ?_, ?_⟩) trivial
    · exact fun hne => absurd hrows hne
    · rw [hrows]
      exact Nat.zero_le _
  | @fence m rows hacc f =>
    have hv := scanAccepts_iff.1 hacc
    exact iff_of_true (scanAccepts_iff.2 (hv.reshaped (Reshaped.refl rows)
      (hv.toConsistent.alike (Meta.Alike.fences m f)) rfl)) trivial
  | @revoke m m' rows rows' r hacc h =>
    have hv := scanAccepts_iff.1 hacc
    refine iff_of_true (scanAccepts_iff.2 (hv.reshaped h.reshaped
      (h.consistent (by decide) hv.toConsistent) ?_)) trivial
    rw [h.info]
    rfl
  | @expire m m' rows rows' r t hacc h hfence ht =>
    have hv := scanAccepts_iff.1 hacc
    refine iff_of_true (scanAccepts_iff.2 (hv.reshaped h.reshaped
      ((h.consistent (by decide) hv.toConsistent).alike (Meta.Alike.trusting m' t)) ?_)) trivial
    rw [h.info]
    rfl
  | @consume m m' rows rows' r t hacc h hfence ht =>
    have hv := scanAccepts_iff.1 hacc
    refine iff_of_true (scanAccepts_iff.2 (hv.reshaped h.reshaped
      ((h.consistent (by decide) hv.toConsistent).alike (Meta.Alike.trusting m' t)) ?_)) trivial
    rw [h.info]
    rfl
  | @reEpoch m m' rows rows' t hacc h hzero hepoch =>
    have hv := scanAccepts_iff.1 hacc
    exact iff_of_true (scanAccepts_iff.2 (hv.reshaped h.reshaped
      ((h.consistent hv.toConsistent).alike (Meta.Alike.trusting m' t)) h.next_eq)) trivial
  | @issue m rows req t hacc h =>
    have hv := scanAccepts_iff.1 hacc
    have hnone : rows.lookup m.nextIssueSeq = none := by
      refine Option.eq_none_iff_forall_ne_some.2 fun r hr => ?_
      exact UInt64.lt_irrefl _ (hv.below _ r hr)
    have hlen := length_insert_of_notMem hnone (issuedRow m req t)
    have hpred : m.addIssued.nextIssueSeq - 1 = m.nextIssueSeq := UInt64.add_sub_cancel ..
    constructor
    · intro hacc'
      have hcap := (scanAccepts_iff.1 hacc').cap
      rw [hlen] at hcap
      exact hcap
    · intro hroom
      refine scanAccepts_iff.2 ⟨(hv.toConsistent.addIssued h.next (h.rowFits hv.toConsistent)
        rfl).alike (Meta.Alike.trusting _ t), fun _ => ⟨issuedRow m req t, ?_⟩, ?_⟩
      · show (rows.insert m.nextIssueSeq (issuedRow m req t)).lookup
          (m.addIssued.nextIssueSeq - 1) = _
        rw [hpred, AList.lookup_insert]
      · rw [hlen]
        exact hroom
  | @bind m rows live generation hacc hzero =>
    have hv := scanAccepts_iff.1 hacc
    exact iff_of_true (scanAccepts_iff.2 (hv.reshaped (Reshaped.refl rows)
      (hv.toConsistent.bound hzero live generation) rfl)) trivial
  | @gc m rows seqs hacc hseqs =>
    have hv := scanAccepts_iff.1 hacc
    refine scanAccepts_iff.trans ((hv.eraseAll_iff hseqs).trans ⟨?_, fun hk => hk m rfl⟩)
    rintro hk m' ⟨⟩
    exact hk
  | @reClock m rows t hacc hepoch hrows =>
    have hv := scanAccepts_iff.1 hacc
    exact iff_of_true (scanAccepts_iff.2 (hv.reshaped (Reshaped.refl rows)
      (hv.toConsistent.alike ⟨rfl, rfl, rfl, rfl, rfl, rfl⟩) rfl)) trivial

/-- A plain transaction keeps the number of rows. -/
theorem Committed.length_plain (h : Committed ns x ns') (hplain : x.plain = true) :
    ns'.rows.entries.length = ns.rows.entries.length := by
  cases h with
  | publish | fence => rfl
  | revoke hacc h => exact h.reshaped.length
  | expire hacc h hfence ht => exact h.reshaped.length
  | consume hacc h hfence ht => exact h.reshaped.length
  | reEpoch hacc h hzero hepoch => exact h.reshaped.length
  | issue hacc h => cases hplain
  | bind hacc hzero => rfl
  | gc hacc hseqs => cases hplain
  | reClock hacc hepoch hrows => rfl

theorem Txn.keeps_plain (hplain : x.plain = true) : x.keeps ns := by
  cases x with
  | issue | gc => cases hplain
  | _ => trivial

theorem Path.plain (h : Path ns xs ns') (hall : ∀ x ∈ xs, x.plain = true) :
    (ns.accepted = true → ns'.accepted = true) ∧
      ns'.rows.entries.length = ns.rows.entries.length := by
  induction h with
  | nil ns => exact ⟨id, rfl⟩
  | cons hx _ ih =>
    have hplain := hall _ List.mem_cons_self
    obtain ⟨hacc, hlen⟩ := ih fun x hx => hall x (List.mem_cons_of_mem _ hx)
    exact ⟨fun _ => hacc (hx.accepted_iff.2 (Txn.keeps_plain hplain)),
      hlen.trans (hx.length_plain hplain)⟩

/-- An issue adds a row. -/
theorem Committed.length_issue {req : IssueRequest} {r : Issued} {t : TimeSample}
    (h : Committed ns (.issue req r t) ns') :
    ns'.rows.entries.length = ns.rows.entries.length + 1 := by
  cases h with
  | @issue m rows _ _ hacc h =>
    refine length_insert_of_notMem ?_ _
    refine Option.eq_none_iff_forall_ne_some.2 fun r hr => ?_
    exact UInt64.lt_irrefl _ ((consistent_of_accepts hacc).below _ r hr)

theorem Committed.length_gc {seqs : List UInt64} (h : Committed ns (.gc seqs) ns') :
    ns'.rows.entries.length ≤ ns.rows.entries.length := by
  cases h
  exact length_eraseAll seqs _

theorem Path.split (h : Path ns (xs ++ [x]) ns') :
    ∃ ns₁, Path ns xs ns₁ ∧ Committed ns₁ x ns' := by
  induction xs generalizing ns with
  | nil => exact ⟨ns, .nil ns, h.of_single⟩
  | cons y xs ih =>
    obtain - | ⟨hy, hrest⟩ := h
    obtain ⟨ns₁, hpath, hx⟩ := ih hrest
    exact ⟨ns₁, .cons hy hpath, hx⟩

end Accepting

/-! ### Calls -/

/-- The call succeeds. -/
def Result.ok : Result → Bool
  | .done | .permit _ => true
  | .failed _ | .rejected _ => false

/-- A call that keeps a namespace as the scan wants it: there is room for the row of an issue, and an
erasure leaves the last row, if it leaves any. -/
def Call.keeps (ns : Namespace) : Call → Prop
  | .issue _ => ns.rows.entries.length < scanMaxIss
  | .gcTerminalRecords seqs => ∀ m, ns.info = some m → KeepsLast m ns.rows seqs
  | _ => True

section Calls

variable {s s' : St} {c : Call} {r : Result}

theorem Call.keeps_plain (hissue : ∀ req, c ≠ .issue req) (hgc : ∀ seqs, c ≠ .gcTerminalRecords seqs)
    (ns : Namespace) : c.keeps ns := by
  cases c with
  | issue req => exact absurd rfl (hissue req)
  | gcTerminalRecords seqs => exact absurd rfl (hgc seqs)
  | _ => trivial

/-- What a call that keeps the namespace commits, the scan accepts. -/
theorem Does.accepted (h : Does s s' c r) (hacc : s.disk.accepted = true)
    (hkeep : c.keeps s.disk) : s'.disk.accepted = true := by
  obtain ⟨xs, hpath, hplain | ⟨req, row, t, ys, rfl, rfl, hplain⟩ | ⟨seqs, rfl, rfl⟩⟩ := h.commits
  · exact (hpath.plain hplain).1 hacc
  · obtain ⟨ns, hys, hx⟩ := hpath.split
    refine hx.accepted_iff.2 ?_
    show ns.rows.entries.length < scanMaxIss
    rw [(hys.plain hplain).2]
    exact hkeep
  · exact hpath.of_single.accepted_iff.2 hkeep

/-- An issue has no result but a permit. -/
theorem issue_ok (req : IssueRequest) (hok : (perform s (.issue req)).1.ok = true) :
    ∃ p, (perform s (.issue req)).1 = .permit p := by
  have hrun : (perform s (.issue req)).1 = Result.of .permit ((issue req).outcome s).1 := rfl
  rw [hrun] at hok ⊢
  cases h : ((issue req).outcome s).1 with
  | ok p => exact ⟨p, rfl⟩
  | error st =>
    rw [h] at hok
    cases hok

theorem gc_ok (seqs : List UInt64) (hok : (perform s (.gcTerminalRecords seqs)).1.ok = true) :
    (perform s (.gcTerminalRecords seqs)).1 = .done := by
  have hrun : (perform s (.gcTerminalRecords seqs)).1 =
      Result.of (fun _ => .done) ((gcTerminalRecords seqs).outcome s).1 := rfl
  rw [hrun] at hok ⊢
  cases h : ((gcTerminalRecords seqs).outcome s).1 with
  | ok _ => rfl
  | error st =>
    rw [h] at hok
    cases hok

/-- **What the scan accepts stays so.** From every namespace that the scan accepts, a call that keeps
it, whether it succeeds, fails or leaves its outcome open, leads to one that the scan accepts; and a
call that succeeds does so only if it keeps it. -/
theorem namespace_accepted (s : St) (c : Call) (hacc : s.disk.accepted = true) :
    (c.keeps s.disk → (perform s c).2.disk.accepted = true) ∧
      ((perform s c).1.ok = true →
        ((perform s c).2.disk.accepted = true ↔ c.keeps s.disk)) := by
  have hdoes := perform_does s c
  refine ⟨hdoes.accepted hacc, fun hok => ⟨fun hacc' => ?_, hdoes.accepted hacc⟩⟩
  by_cases hissue : ∃ req, c = .issue req
  · obtain ⟨req, rfl⟩ := hissue
    obtain ⟨p, hp⟩ := issue_ok req hok
    rw [hp] at hdoes
    obtain ⟨xs, row, t, heffect, hplain, -⟩ := Granted.effect hdoes
    obtain ⟨ns, hxs, hx⟩ := heffect.path.split
    have hroom : ns.rows.entries.length < scanMaxIss := hx.accepted_iff.1 hacc'
    rwa [(hxs.plain hplain).2] at hroom
  · by_cases hgc : ∃ seqs, c = .gcTerminalRecords seqs
    · obtain ⟨seqs, rfl⟩ := hgc
      rw [gc_ok seqs hok] at hdoes
      have heffect : Effect s [.gc seqs] (perform s (.gcTerminalRecords seqs)).2 := hdoes
      exact heffect.path.of_single.accepted_iff.1 hacc'
    · exact Call.keeps_plain (fun req h => hissue ⟨req, h⟩) (fun seqs h => hgc ⟨seqs, h⟩) _

end Calls

/-! ### An erasure that goes too far -/

/-- A profile. -/
def sampleCore : Core where
  hardwareProfileId := 1
  hardwareProfileRev := 1
  regulatoryProfileId := 1
  regulatoryProfileRev := 1
  siteAssignmentId := 1
  siteAssignmentRev := 1
  siteAssignmentEpoch := 1
  transmitterId := 1
  channelId := 1
  phy := ⟨125000, 7, 5, 8, 14000, 0⟩

/-- A trusted sample. -/
def sampleAt (epoch : Id) (now : UInt64) : TimeSample where
  abiVersion := ninlilAbiVersion
  structSize := timeSampleBytes
  clockEpochId := epoch
  nowMs := now
  trust := clockTrusted
  reservedZero := 0

/-- A permit that was consumed. -/
def consumedRow (seq : UInt64) : Issued where
  state := .consumed
  permitSequence := seq
  clockEpochId := 1
  notBeforeMs := 0
  expiryMs := 1000
  core := sampleCore
  frame := ⟨1, 1, 1⟩
  maxAirtimeUs := 1
  authorityInstanceId := 1
  issueGeneration := seq

/-- Two permits were consumed, and the store has no faults. -/
def St.twoConsumed : St where
  pcp := { Pcp.init with storageBound := true }
  disk := ⟨some {
      fences := .none
      authorityInstanceId := 1
      nextIssueSeq := 3
      lastConsumedSeq := 2
      outstandingCount := 0
      boundCore := sampleCore
      boundMaxAirtimeCeilingUs := 1
      assignmentGeneration := 1
      lastTrustedEpochId := 1
      lastTrustedNowMs := 1 },
    AList.insert 2 (consumedRow 2) (AList.insert 1 (consumedRow 1) ∅)⟩
  txn := .empty
  replies := Stream'.const ⟨.ok, false, true⟩
  clock := Stream'.const ⟨.ok, sampleAt 1 1⟩
  entropy := Stream'.const (.ok, 0)

/-- Erasing the first row leaves what the scan accepts. -/
theorem gc_keeps_last :
    (perform St.twoConsumed (.gcTerminalRecords [1])).2.disk.accepted = true := by
  refine (namespace_accepted St.twoConsumed (.gcTerminalRecords [1]) (by decide +kernel)).1 ?_
  rintro m ⟨⟩
  exact .inr (.inl (by decide))

/-- Erasing the last row of the two succeeds, and the scan accepts the namespace no longer. -/
theorem gc_drops_last :
    St.twoConsumed.disk.accepted = true ∧
      (perform St.twoConsumed (.gcTerminalRecords [2])).1.ok = true ∧
      (perform St.twoConsumed (.gcTerminalRecords [2])).2.disk.accepted = false := by
  decide +kernel

end Ninlil.Permit
