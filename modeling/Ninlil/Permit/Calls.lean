import Ninlil.Permit.Store

/-!
# The permit authority: what the calls of the storage leave alone

* `Same`, `Quiet`: what a call that succeeds, and one that fails, does to the state;
* `Reads`: a program that only reads its transaction, with what it returns and why it can fail on a
  storage without faults;
* a lemma for each call of `Store`, up to `reads_rwScanCheck`: the check passes only what
  `scanAccepts` does, and on a storage without faults everything it does.
-/

namespace Ninlil.Permit

open Outcomes

/-- Every bit of one is a bit of the other. -/
structure Fences.Le (f g : Fences) : Prop where
  storage : f.storage = true → g.storage = true
  clock : f.clock = true → g.clock = true
  corrupt : f.corrupt = true → g.corrupt = true

theorem Fences.Le.refl (f : Fences) : f.Le f := ⟨id, id, id⟩

theorem Fences.Le.trans {f g h : Fences} (hfg : f.Le g) (hgh : g.Le h) : f.Le h :=
  ⟨hgh.storage ∘ hfg.storage, hgh.clock ∘ hfg.clock, hgh.corrupt ∘ hfg.corrupt⟩

theorem Fences.Le.any {f g : Fences} (h : f.Le g) (hg : g.any = false) : f.any = false := by
  unfold Fences.any at hg ⊢
  simp only [Bool.or_eq_false_iff] at hg ⊢
  obtain ⟨⟨hs, hc⟩, hk⟩ := hg
  refine ⟨⟨?_, ?_⟩, ?_⟩
  · exact Bool.eq_false_of_not_eq_true fun hf => by simp [h.storage hf] at hs
  · exact Bool.eq_false_of_not_eq_true fun hf => by simp [h.clock hf] at hc
  · exact Bool.eq_false_of_not_eq_true fun hf => by simp [h.corrupt hf] at hk

/-- The storage answers every call, and never with a fault. -/
def Faultless (s : St) : Prop :=
  ∀ n, (s.replies n).status = .ok ∧ (s.replies n).null = false

/-- A call that succeeds. -/
structure Same (s s' : St) : Prop where
  disk : s'.disk = s.disk
  pcp : s'.pcp = { s.pcp with handleLive := s'.pcp.handleLive }
  live : s.pcp.handleLive = true → s'.pcp.handleLive = true
  clock : s'.clock = s.clock
  entropy : s'.entropy = s.entropy
  faultless : Faultless s → Faultless s'

/-- A call that fails: the fence it sets is never that of the clock. -/
structure Quiet (s s' : St) : Prop where
  disk : s'.disk = s.disk
  pcp : s'.pcp = { s.pcp with handleLive := s'.pcp.handleLive, fence := s'.pcp.fence }
  fence : s.pcp.fence.Le s'.pcp.fence
  clockFence : s'.pcp.fence.clock = s.pcp.fence.clock
  clock : s'.clock = s.clock
  faultless : Faultless s → Faultless s'

section Relations

variable {s s' s'' : St}

theorem Same.refl (s : St) : Same s s := ⟨rfl, rfl, id, rfl, rfl, id⟩

theorem Same.trans (h : Same s s') (h' : Same s' s'') : Same s s'' where
  disk := h'.disk.trans h.disk
  pcp := by rw [h'.pcp, h.pcp]
  live := h'.live ∘ h.live
  clock := h'.clock.trans h.clock
  entropy := h'.entropy.trans h.entropy
  faultless := h'.faultless ∘ h.faultless

theorem Same.fence (h : Same s s') : s'.pcp.fence = s.pcp.fence := by rw [h.pcp]

theorem Same.ramTrust (h : Same s s') : s'.pcp.ramTrust = s.pcp.ramTrust := by rw [h.pcp]

theorem Same.quiet (h : Same s s') : Quiet s s' where
  disk := h.disk
  pcp := by
    have hpcp := h.pcp
    rw [hpcp]
  fence := by
    rw [h.fence]
    exact Fences.Le.refl _
  clockFence := by rw [h.fence]
  clock := h.clock
  faultless := h.faultless

theorem Quiet.refl (s : St) : Quiet s s := (Same.refl s).quiet

theorem Quiet.trans (h : Quiet s s') (h' : Quiet s' s'') : Quiet s s'' where
  disk := h'.disk.trans h.disk
  pcp := by rw [h'.pcp, h.pcp]
  fence := h.fence.trans h'.fence
  clockFence := h'.clockFence.trans h.clockFence
  clock := h'.clock.trans h.clock
  faultless := h'.faultless ∘ h.faultless

theorem Quiet.ramTrust (h : Quiet s s') : s'.pcp.ramTrust = s.pcp.ramTrust := by rw [h.pcp]

theorem Quiet.published (h : Quiet s s') : s'.pcp.published = s.pcp.published := by rw [h.pcp]

end Relations

/-! ### Single calls -/

section Single

variable {ε α : Type} {s : St}

/-- The state after one answer of the storage. -/
def St.answered (s : St) : St := { s with replies := s.replies.tail }

theorem same_answered (s : St) : Same s s.answered :=
  ⟨rfl, rfl, id, rfl, rfl, fun h n => h (n + 1)⟩

theorem ends_nextReply {E : ε → St → Prop} :
    Ends (nextReply : Prog St ε Reply) s (fun r s' => r = s.replies 0 ∧ s' = s.answered) E :=
  ⟨rfl, rfl⟩

theorem ends_modifyPcp {f : Pcp → Pcp} {Q : Unit → St → Prop} {E : ε → St → Prop}
    (h : Q () { s with pcp := f s.pcp }) : Ends (modifyPcp f : Prog St ε Unit) s Q E := h

theorem ends_applyMapFence (k : FenceKind) (E : ε → St → Prop) :
    Ends (applyMapFence k) s (fun _ s' => Quiet s s' ∧ s'.txn = s.txn ∧
      (k = .storage → s'.pcp.fence.storage = true)) E := by
  cases k with
  | none => exact ⟨Quiet.refl s, rfl, fun h => by cases h⟩
  | storage =>
    exact ⟨⟨rfl, rfl, ⟨fun _ => rfl, id, id⟩, rfl, rfl, id⟩, rfl, fun _ => rfl⟩
  | corrupt =>
    exact ⟨⟨rfl, rfl, ⟨id, id, fun _ => rfl⟩, rfl, rfl, id⟩, rfl, fun h => by cases h⟩

theorem ends_fail (f : Fault) (Q : α → St → Prop) :
    Ends (fail f : Op α) s Q fun st s' => Quiet s s' ∧ st = f.status ∧
      (f.fence = .storage → s'.pcp.fence.storage = true) := by
  refine Ends.bind (ends_applyMapFence f.fence _) ?_
  rintro - s' ⟨hq, -, hst⟩
  exact ends_throw ⟨hq, rfl, hst⟩

theorem ends_check (o : Option Fault) :
    Ends (check o) s (fun _ s' => s' = s ∧ o = none) fun st s' => Quiet s s' ∧
      ∃ f, o = some f ∧ st = f.status ∧ (f.fence = .storage → s'.pcp.fence.storage = true) := by
  cases o with
  | none => exact ends_pure ⟨rfl, rfl⟩
  | some f =>
    refine (ends_fail f _).mono (fun _ _ h => h) ?_
    rintro st s' ⟨hq, hst, hfence⟩
    exact ⟨hq, f, rfl, hst, hfence⟩

theorem ends_requireSound (c : Bool) :
    Ends (requireSound c) s (fun _ s' => s' = s ∧ c = true) fun _ s' => Quiet s s' ∧ c = false := by
  unfold requireSound
  cases c with
  | false => exact (ends_fail _ _).mono (fun _ _ h => h) fun _ _ h => ⟨h.1, rfl⟩
  | true => exact ends_pure ⟨rfl, rfl⟩

/-- A look at the answer that was taken fails only at a fault. -/
theorem ends_checkAnswer {f : StorageStatus → Option Fault} (hok : f .ok = none) :
    Ends (check (f (s.replies 0).status)) s.answered (fun _ s' => s' = s.answered)
      fun _ s' => Quiet s s' ∧ ¬Faultless s := by
  refine (ends_check _).mono (fun _ _ h => h.1) ?_
  rintro st s' ⟨hq, f', hf, -⟩
  refine ⟨(same_answered s).quiet.trans hq, fun hfl => ?_⟩
  rw [(hfl 0).1, hok] at hf
  cases hf

theorem ends_soundAnswer : Ends (requireSound (!(s.replies 0).null)) s.answered
    (fun _ s' => s' = s.answered) fun _ s' => Quiet s s' ∧ ¬Faultless s := by
  refine (ends_requireSound _).mono (fun _ _ h => h.1) ?_
  rintro st s' ⟨hq, hnull⟩
  refine ⟨(same_answered s).quiet.trans hq, fun hfl => ?_⟩
  rw [(hfl 0).2] at hnull
  cases hnull

/-- The outcome of one call whose failures are those of a map. -/
theorem ends_call {f : StorageStatus → Option Fault} (hok : f .ok = none) :
    Ends (do let r ← nextReply; check (f r.status)) s (fun _ s' => s' = s.answered)
      fun _ s' => Quiet s s' ∧ ¬Faultless s := by
  refine Ends.bind ends_nextReply ?_
  rintro r s' ⟨rfl, rfl⟩
  exact ends_checkAnswer hok

end Single

/-! ### Handles and transactions -/

section Transactions

variable {s : St}

theorem ends_ensureOpen : Ends ensureOpen s (fun _ s' => Same s s' ∧ s'.pcp.handleLive = true)
    fun _ s' => Quiet s s' ∧ (Faultless s → s.pcp.storageBound = false) := by
  unfold ensureOpen
  refine Ends.bind (Q := fun a s' => a = s ∧ s' = s) (ends_get ⟨rfl, rfl⟩) ?_
  rintro _ _ ⟨rfl, rfl⟩
  refine Ends.bind (ends_require fun h => ⟨Quiet.refl _, fun _ => h⟩) ?_
  rintro - s1 ⟨rfl, hbound⟩
  split
  · rename_i hlive
    exact ends_pure ⟨Same.refl s1, hlive⟩
  · refine Ends.bind ends_nextReply ?_
    rintro r s2 ⟨rfl, rfl⟩
    have hfault : ∀ s', Quiet s1 s' ∧ ¬Faultless s1 →
        Quiet s1 s' ∧ (Faultless s1 → s1.pcp.storageBound = false) :=
      fun _ h => ⟨h.1, fun hfl => absurd hfl h.2⟩
    refine Ends.andThen (ends_checkAnswer rfl) (fun _ => hfault) ?_
    rintro - _ rfl
    refine Ends.andThen ends_soundAnswer (fun _ => hfault) ?_
    rintro - _ rfl
    exact ends_modifyPcp ⟨⟨rfl, rfl, fun _ => rfl, rfl, rfl, fun h n => h (n + 1)⟩, rfl⟩

theorem ends_beginReply : Ends beginReply s (fun _ s' => Same s s')
    fun _ s' => Quiet s s' ∧ ¬Faultless s := by
  unfold beginReply
  refine Ends.bind ends_nextReply ?_
  rintro r s1 ⟨rfl, rfl⟩
  have hsame := same_answered s
  split
  · refine ends_soundAnswer.mono ?_ fun _ _ h => h
    rintro - s' rfl
    exact hsame
  · rename_i hst
    have hfault : ¬Faultless s := fun hfl => hst (hfl 0).1
    split
    · refine (ends_check _).mono ?_ ?_
      · rintro - s' ⟨rfl, -⟩
        exact hsame
      · rintro st s' ⟨hq, -⟩
        exact ⟨hsame.quiet.trans hq, hfault⟩
    · refine Ends.bind ends_nextReply ?_
      rintro r' s2 ⟨-, rfl⟩
      have hsame2 := hsame.trans (same_answered s.answered)
      refine (ends_check _).mono ?_ ?_
      · rintro - s' ⟨rfl, -⟩
        exact hsame2
      · rintro st s' ⟨hq, -⟩
        exact ⟨hsame2.quiet.trans hq, hfault⟩

theorem ends_begin : Ends begin s (fun _ s' => Same s s' ∧ s'.txn = s.disk)
    fun _ s' => Quiet s s' ∧ ¬Faultless s := by
  unfold begin
  refine Ends.bind ends_beginReply ?_
  intro _ s1 h
  exact ends_modify ⟨⟨h.disk, h.pcp, h.live, h.clock, h.entropy, h.faultless⟩, h.disk⟩

theorem ends_rollbackMap : Ends rollbackMap s (fun _ s' => Same s s')
    fun _ s' => Quiet s s' ∧ ¬Faultless s :=
  (ends_call rfl).mono (fun _ _ h => h ▸ same_answered s) fun _ _ h => h

/-- A commit: the disk has the transaction, or, when the outcome is unknown, perhaps. -/
theorem ends_storageCommit {ε : Type} {E : ε → St → Prop} :
    Ends (storageCommit : Prog St ε StorageStatus) s (fun st s' =>
      s' = { s.answered with disk := if (s.replies 0).takesEffect then s.txn else s.disk } ∧
        st = (s.replies 0).status) E := by
  refine Ends.bind ends_nextReply ?_
  rintro r s1 ⟨rfl, rfl⟩
  refine Ends.bind (Q := fun _ s' => s' =
    { s.answered with disk := if (s.replies 0).takesEffect then s.txn else s.disk })
    (ends_modify rfl) ?_
  rintro - s2 rfl
  exact ends_pure ⟨rfl, rfl⟩

/-- What a commit has done to the state when it succeeds. -/
structure Commits (s s' : St) : Prop where
  disk : s'.disk = s.txn
  pcp : s'.pcp = s.pcp
  clock : s'.clock = s.clock
  faultless : Faultless s → Faultless s'

/-- What a commit that fails has done to the state: nothing to the disk, or everything and the fence
is set. -/
structure MayCommit (s s' : St) : Prop where
  disk : s'.disk = s.disk ∨ s'.disk = s.txn ∧ s'.pcp.fence.storage = true
  pcp : s'.pcp = { s.pcp with handleLive := s'.pcp.handleLive, fence := s'.pcp.fence }
  fence : s.pcp.fence.Le s'.pcp.fence
  clockFence : s'.pcp.fence.clock = s.pcp.fence.clock
  clock : s'.clock = s.clock
  faultless : Faultless s → Faultless s'

theorem ends_commitFull : Ends commitFull s (fun _ s' => Commits s s')
    fun st s' => MayCommit s s' ∧ ¬Faultless s ∧ (st ≠ .commitUnknown → s'.disk = s.disk) ∧
      (st = .commitUnknown → s'.pcp.fence.storage = true) := by
  unfold commitFull
  refine Ends.bind ends_storageCommit ?_
  rintro st s1 ⟨rfl, rfl⟩
  refine (ends_check _).mono ?_ ?_
  · rintro - s' ⟨rfl, hnone⟩
    have hst : (s.replies 0).status = .ok := by
      generalize (s.replies 0).status = st at hnone
      cases st <;> first | rfl | cases hnone
    have heff : (s.replies 0).takesEffect = true := by
      unfold Reply.takesEffect
      rw [hst]
      rfl
    exact ⟨if_pos heff, rfl, rfl, fun h n => h (n + 1)⟩
  · rintro st' s' ⟨hq, f, hf, rfl, hfence⟩
    have hne : (s.replies 0).status ≠ .ok := fun hst => by
      rw [hst] at hf
      cases hf
    have hclosed : f.status ≠ .commitUnknown → (s.replies 0).takesEffect = false := by
      intro hst
      unfold Reply.takesEffect
      revert hf hne
      generalize (s.replies 0).status = st
      intro hf hne
      cases st <;> first | rfl | (cases hf; exact absurd rfl hst) | exact absurd rfl hne
    have hopen : f.status = .commitUnknown → f.fence = .storage := by
      intro hst
      revert hf
      generalize (s.replies 0).status = st
      intro hf
      cases st <;> first | (cases hf; rfl) | (cases hf; cases hst) | cases hf
    have hdisk : s'.disk = if (s.replies 0).takesEffect then s.txn else s.disk := hq.disk
    refine ⟨⟨?_, hq.pcp, hq.fence, hq.clockFence, hq.clock,
      fun hfl => hq.faultless fun n => hfl (n + 1)⟩, fun hfl => hne (hfl 0).1, ?_,
      fun hst => hfence (hopen hst)⟩
    · by_cases hst : f.status = .commitUnknown
      · cases heff : (s.replies 0).takesEffect with
        | false =>
          rw [heff] at hdisk
          exact .inl hdisk
        | true =>
          rw [heff] at hdisk
          exact .inr ⟨hdisk, hfence (hopen hst)⟩
      · rw [hclosed hst] at hdisk
        exact .inl hdisk
    · intro hst
      rw [hclosed hst] at hdisk
      exact hdisk

theorem ends_putValue (f : Namespace → Namespace) :
    Ends (putValue f) s (fun _ s' => Same s s' ∧ s'.txn = f s.txn)
      fun _ s' => Quiet s s' ∧ ¬Faultless s := by
  unfold putValue
  refine Ends.bind ends_nextReply ?_
  rintro r s1 ⟨rfl, rfl⟩
  refine Ends.andThen (ends_checkAnswer rfl) (fun _ _ h => h) ?_
  rintro - _ rfl
  exact ends_modify ⟨⟨rfl, rfl, id, rfl, rfl, fun h n => h (n + 1)⟩, rfl⟩

end Transactions

/-! ### Reading -/

/-- A program that reads its transaction: what it returns is `P`, and without faults it fails only
if `B`. -/
def Reads {α : Type} (m : Op α) (P : Namespace → α → Prop) (B : Namespace → Prop) : Prop :=
  ∀ s, Ends m s (fun a s' => Same s s' ∧ s'.txn = s.txn ∧ P s.txn a)
    fun _ s' => Quiet s s' ∧ (Faultless s → B s.txn)

section Reading

variable {α β : Type} {m : Op α} {f : α → Op β}
variable {P : Namespace → α → Prop} {R : Namespace → β → Prop} {B B' : Namespace → Prop}

theorem Reads.mono {D : Namespace → α → Prop} (h : Reads m P B) (hP : ∀ t a, P t a → D t a)
    (hB : ∀ t, B t → B' t) : Reads m D B' := by
  intro s
  refine (h s).mono ?_ ?_
  · rintro a s' ⟨hs, htxn, hp⟩
    exact ⟨hs, htxn, hP _ a hp⟩
  · rintro st s' ⟨hq, hb⟩
    exact ⟨hq, fun hfl => hB _ (hb hfl)⟩

theorem reads_pure {a : α} (h : ∀ t, P t a) : Reads (pure a) P B := fun s =>
  ends_pure ⟨Same.refl s, rfl, h s.txn⟩

theorem reads_throw {st : Status} (h : ∀ t, B t) : Reads (throw st : Op α) P B := fun s =>
  ends_throw ⟨Quiet.refl s, fun _ => h s.txn⟩

theorem reads_failCorrupt (h : ∀ t, B t) : Reads (failCorrupt : Op α) P B := fun s =>
  (ends_fail _ _).mono (fun _ _ h => h) fun _ _ h' => ⟨h'.1, fun _ => h s.txn⟩

theorem reads_requireSound (c : Bool) :
    Reads (requireSound c) (fun _ _ => c = true) fun _ => c = false := by
  intro s
  refine (ends_requireSound c).mono ?_ ?_
  · rintro - s' ⟨rfl, hc⟩
    exact ⟨Same.refl s', rfl, hc⟩
  · rintro st s' ⟨hq, hc⟩
    exact ⟨hq, fun _ => hc⟩

theorem Reads.bind (hm : Reads m P B)
    (hf : ∀ a, Reads (f a) (fun t b => P t a → R t b) fun t => P t a → B t) :
    Reads (m >>= f) R B := by
  intro s
  refine Ends.bind (hm s) ?_
  rintro a s1 ⟨hs1, htxn, hp⟩
  refine (hf a s1).mono ?_ ?_
  · rintro b s2 ⟨hs2, htxn2, hr⟩
    rw [htxn] at hr
    exact ⟨hs1.trans hs2, htxn2.trans htxn, hr hp⟩
  · rintro st s2 ⟨hq, hb⟩
    rw [htxn] at hb
    exact ⟨hs1.quiet.trans hq, fun hfl => hb (hs1.faultless hfl) hp⟩

theorem reads_call {g : StorageStatus → Option Fault} (hok : g .ok = none) :
    Reads (do let r ← nextReply; check (g r.status)) (fun _ _ => True) fun _ => False := by
  intro s
  refine (ends_call hok).mono ?_ ?_
  · rintro - s' rfl
    exact ⟨same_answered s, rfl, trivial⟩
  · rintro st s' ⟨hq, hfl⟩
    exact ⟨hq, fun h => absurd h hfl⟩

theorem reads_iterNext : Reads iterNext (fun _ _ => True) fun _ => False := reads_call rfl

theorem reads_getValue (g : Namespace → Option α) :
    Reads (getValue g) (fun t o => o = g t) fun _ => False := by
  intro s
  refine Ends.bind ends_nextReply ?_
  rintro r s1 ⟨rfl, rfl⟩
  refine Ends.andThen (ends_checkAnswer rfl)
    (fun _ _ h => ⟨h.1, fun hfl => absurd hfl h.2⟩) ?_
  rintro - _ rfl
  exact ⟨same_answered s, rfl, rfl⟩

theorem reads_txnGetIss (seq : UInt64) :
    Reads (txnGetIss seq)
      (fun t o => t.rows.lookup seq = o ∧ ∀ r, o = some r → r.permitSequence = seq)
      fun t => ∃ r, t.rows.lookup seq = some r ∧ r.permitSequence ≠ seq := by
  refine Reads.bind (P := fun t o => o = t.rows.lookup seq)
    ((reads_getValue _).mono (fun _ _ h => h) fun _ h => h.elim) ?_
  rintro (- | iss)
  · exact reads_pure fun t h => ⟨h.symm, fun r hr => by cases hr⟩
  · refine ((reads_requireSound _).mono (fun _ _ h => h) fun t hc ht =>
      ⟨iss, ht.symm, by simpa using hc⟩).bind ?_
    intro _
    refine reads_pure fun t hseq ht => ⟨ht.symm, ?_⟩
    rintro r ⟨⟩
    exact beq_iff_eq.1 hseq

theorem Reads.orRollback (h : Reads m P B) : Reads (orRollback m) P B := by
  intro s
  refine ends_onFailure (h s) ?_
  rintro st s' ⟨hq, hb⟩
  refine ends_rollbackMap.mono ?_ ?_
  · intro _ s'' hs
    exact ⟨hq.trans hs.quiet, hb⟩
  · intro _ s'' hs
    exact ⟨hq.trans hs.1, hb⟩

/-! ### The scan -/

theorem reads_scanRows (l : List (Sigma fun _ : UInt64 => Issued)) (acc : List ScanIss) :
    Reads (scanRows l acc) (fun _ iss => iss = acc ++ l.map indexOf ∧
      (l.all fun e => rowAccepted e.1 e.2) = true ∧
        (acc.length ≤ scanMaxIss → iss.length ≤ scanMaxIss))
      fun _ => ¬((l.all fun e => rowAccepted e.1 e.2) = true ∧
        acc.length + l.length ≤ scanMaxIss) := by
  induction l generalizing acc with
  | nil => exact reads_pure fun _ => ⟨(List.append_nil _).symm, rfl, id⟩
  | cons e l ih =>
    refine (reads_iterNext.mono (fun _ _ h => h) fun _ h => h.elim).bind ?_
    intro _
    refine ((reads_requireSound _).mono (D := fun _ _ => rowAccepted e.1 e.2 = true)
      (fun _ _ h => h) ?_).bind ?_
    · rintro t hrow - ⟨hall, -⟩
      rw [List.all_cons, hrow] at hall
      cases hall
    intro _
    refine ((reads_requireSound _).mono (D := fun _ _ => acc.length < scanMaxIss)
      (fun _ _ h => of_decide_eq_true h) ?_).bind ?_
    · rintro t hlen - - ⟨-, hle⟩
      have hge := of_decide_eq_false hlen
      rw [List.length_cons] at hle
      omega
    intro _
    refine (ih (acc ++ [indexOf e])).mono ?_ ?_
    · rintro t iss ⟨hiss, hall, hlen⟩ hlt hrow -
      refine ⟨?_, ?_, fun _ => hlen ?_⟩
      · rw [hiss, List.append_assoc]
        rfl
      · rw [List.all_cons, hrow, hall]
        rfl
      · rw [List.length_append]
        exact hlt
    · rintro t hbad hlt hrow - ⟨hall, hle⟩
      refine hbad ⟨?_, ?_⟩
      · rw [List.all_cons, hrow] at hall
        exact hall
      · rw [List.length_append, List.length_singleton]
        rw [List.length_cons] at hle
        omega

/-- The rows pass the walk. -/
def walkAccepts (rows : Rows) : Bool :=
  (rows.entries.all fun e => rowAccepted e.1 e.2) && rows.entries.length ≤ scanMaxIss

theorem reads_scanMeta (o : Option Meta) : Reads (scanMeta o) (fun _ _ => True) fun _ => False := by
  cases o with
  | none => exact reads_pure fun _ => trivial
  | some m => exact reads_iterNext

theorem reads_scanNamespace :
    Reads scanNamespace (fun t scan => scan = scanOf t.info t.rows ∧ walkAccepts t.rows = true)
      fun t => walkAccepts t.rows = false := by
  intro s
  unfold scanNamespace
  refine Ends.bind ends_nextReply ?_
  rintro r s1 ⟨rfl, rfl⟩
  have hfault : ∀ s', Quiet s s' ∧ ¬Faultless s →
      Quiet s s' ∧ (Faultless s → walkAccepts s.txn.rows = false) :=
    fun _ h => ⟨h.1, fun hfl => absurd hfl h.2⟩
  refine Ends.andThen (ends_checkAnswer rfl) (fun _ => hfault) ?_
  rintro - _ rfl
  refine Ends.andThen ends_soundAnswer (fun _ => hfault) ?_
  rintro - _ rfl
  refine Ends.bind (Q := fun a s' => a = s.answered ∧ s' = s.answered) (ends_get ⟨rfl, rfl⟩) ?_
  rintro _ s1 ⟨rfl, rfl⟩
  have hwalk : Reads (do
      let iss ← scanRows s.txn.rows.entries []
      scanMeta s.txn.info
      iterNext
      pure ⟨s.txn.info, iss⟩ : Op Scan)
      (fun _ scan => scan = scanOf s.txn.info s.txn.rows ∧ walkAccepts s.txn.rows = true)
      fun _ => walkAccepts s.txn.rows = false := by
    refine ((reads_scanRows s.txn.rows.entries []).mono (fun _ _ h => h) ?_).bind ?_
    · intro _ hbad
      refine Bool.eq_false_of_not_eq_true fun hacc => hbad ?_
      unfold walkAccepts at hacc
      rw [Bool.and_eq_true, decide_eq_true_eq] at hacc
      rw [List.length_nil, Nat.zero_add]
      exact hacc
    intro iss
    refine ((reads_scanMeta _).mono (fun _ _ h => h) fun _ h => h.elim).bind ?_
    intro _
    refine (reads_iterNext.mono (fun _ _ h => h) fun _ h => h.elim).bind ?_
    intro _
    refine reads_pure ?_
    rintro _ - - ⟨hiss, hall, hlen⟩
    refine ⟨?_, ?_⟩
    · unfold scanOf
      rw [hiss, List.nil_append]
    · have hcap := hlen (Nat.zero_le _)
      rw [hiss, List.nil_append, List.length_map] at hcap
      unfold walkAccepts
      rw [hall, decide_eq_true hcap]
      rfl
  refine (hwalk s.answered).mono ?_ ?_
  · rintro scan s' ⟨hs, htxn, h⟩
    exact ⟨(same_answered s).trans hs, htxn, h⟩
  · rintro st s' ⟨hq, hb⟩
    exact ⟨(same_answered s).quiet.trans hq, fun hfl => hb ((same_answered s).faultless hfl)⟩

theorem reads_verifyIssBodies (m : Meta) (l : List ScanIss) :
    Reads (verifyIssBodies m l)
      (fun t _ => ∀ x ∈ l, ∃ r, t.rows.lookup x.seq = some r ∧ bodyAccepted m x r = true)
      fun t => ¬∀ x ∈ l, ∃ r, t.rows.lookup x.seq = some r ∧ bodyAccepted m x r = true := by
  induction l with
  | nil => exact reads_pure fun _ x hx => absurd hx List.not_mem_nil
  | cons x l ih =>
    refine ((reads_txnGetIss x.seq).mono (fun _ _ h => h) ?_).bind ?_
    · rintro t ⟨r, hr, hseq⟩ hall
      obtain ⟨r', hr', hbody⟩ := hall x List.mem_cons_self
      rw [hr] at hr'
      cases hr'
      unfold bodyAccepted at hbody
      simp only [Bool.and_eq_true, beq_iff_eq] at hbody
      exact hseq hbody.1.1.1.1.1
    rintro (- | body)
    · refine reads_failCorrupt ?_
      rintro t ⟨hnone, -⟩ hall
      obtain ⟨r, hr, -⟩ := hall x List.mem_cons_self
      rw [hnone] at hr
      cases hr
    · refine ((reads_requireSound _).mono (D := fun _ _ => bodyAccepted m x body = true)
        (fun _ _ h => h) ?_).bind ?_
      · rintro t hbody ⟨hsome, -⟩ hall
        obtain ⟨r, hr, hacc⟩ := hall x List.mem_cons_self
        rw [hsome] at hr
        cases hr
        rw [hbody] at hacc
        cases hacc
      intro _
      refine ih.mono ?_ ?_
      · rintro t - hall hbody ⟨hsome, -⟩ y hy
        rcases List.mem_cons.1 hy with rfl | hy
        · exact ⟨body, hsome, hbody⟩
        · exact hall y hy
      · rintro t hbad - - hall
        exact hbad fun y hy => hall y (List.mem_cons_of_mem x hy)

/-- The bodies of a scan are the rows. -/
theorem bodies_scanOf {t : Namespace} {m : Meta} :
    (∀ x ∈ (scanOf t.info t.rows).iss, ∃ r, t.rows.lookup x.seq = some r ∧
      bodyAccepted m x r = true) ↔
    (t.rows.entries.all fun e => bodyAccepted m (indexOf e) e.2) = true := by
  rw [List.all_eq_true]
  constructor
  · rintro h ⟨seq, r⟩ he
    obtain ⟨r', hr', hbody⟩ := h (indexOf ⟨seq, r⟩) (List.mem_map_of_mem he)
    have hrow : t.rows.lookup seq = some r' := hr'
    rw [mem_entries.1 he] at hrow
    cases hrow
    exact hbody
  · rintro h x hx
    obtain ⟨⟨seq, r⟩, he, rfl⟩ := List.mem_map.1 hx
    exact ⟨r, mem_entries.1 he, h _ he⟩

/-- The scan passes a namespace that `scanAccepts`, and without faults no other. -/
theorem reads_rwScanCheck :
    Reads rwScanCheck (fun t m => t.info = some m ∧ scanAccepts m t.rows = true)
      fun t => ∀ m, t.info = some m → scanAccepts m t.rows = false := by
  have hsplit : ∀ m (rows : Rows), scanAccepts m rows = (walkAccepts rows &&
      verifyInvariants (scanOf (some m) rows) &&
        rows.entries.all fun e => bodyAccepted m (indexOf e) e.2) := fun _ _ => rfl
  refine (reads_scanNamespace.mono (fun _ _ h => h) ?_).bind ?_
  · intro t hwalk m _
    rw [hsplit, hwalk]
    rfl
  rintro ⟨- | m, iss⟩
  · refine reads_throw ?_
    rintro t ⟨hscan, -⟩ m hm
    have hinfo : none = t.info := congrArg Scan.info hscan
    rw [hm] at hinfo
    cases hinfo
  · refine ((reads_requireSound _).mono (D := fun _ _ => verifyInvariants ⟨some m, iss⟩ = true)
      (fun _ _ h => h) ?_).bind ?_
    · rintro t hinv ⟨hscan, -⟩ m' hm
      rw [hscan, hm] at hinv
      rw [hsplit, hinv, Bool.and_false, Bool.false_and]
    intro _
    refine ((reads_verifyIssBodies m iss).mono (fun _ _ h => h) ?_).bind ?_
    · rintro t hbad - ⟨hscan, -⟩ m' hm
      have hinfo : some m = t.info := congrArg Scan.info hscan
      have hiss : iss = (scanOf t.info t.rows).iss := congrArg Scan.iss hscan
      rw [hm] at hinfo
      cases hinfo
      rw [hiss, bodies_scanOf] at hbad
      rw [hsplit, Bool.eq_false_of_not_eq_true hbad, Bool.and_false]
    intro _
    refine reads_pure ?_
    rintro t hbodies hinv ⟨hscan, hwalk⟩
    have hinfo : some m = t.info := congrArg Scan.info hscan
    have hiss : iss = (scanOf t.info t.rows).iss := congrArg Scan.iss hscan
    refine ⟨hinfo.symm, ?_⟩
    rw [hiss, bodies_scanOf] at hbodies
    rw [hscan, ← hinfo] at hinv
    rw [hsplit, hwalk, hinv, hbodies]
    rfl

end Reading

/-! ### Inside a transaction -/

/-- In a transaction begun at `s`, with the view `t`. -/
structure InTxn (s : St) (t : Namespace) (s' : St) : Prop where
  same : Same s s'
  txn : s'.txn = t

/-- A commit of the view `t` that succeeds. -/
structure Stored (s : St) (t : Namespace) (s' : St) : Prop where
  disk : s'.disk = t
  pcp : s'.pcp = { s.pcp with handleLive := s'.pcp.handleLive }
  live : s.pcp.handleLive = true → s'.pcp.handleLive = true
  clock : s'.clock = s.clock
  faultless : Faultless s → Faultless s'

/-- A commit of the view `t` that fails: nothing is stored, or everything and the fence is set. -/
structure MayStore (s : St) (t : Namespace) (s' : St) : Prop where
  disk : s'.disk = s.disk ∨ s'.disk = t ∧ s'.pcp.fence.storage = true
  pcp : s'.pcp = { s.pcp with handleLive := s'.pcp.handleLive, fence := s'.pcp.fence }
  fence : s.pcp.fence.Le s'.pcp.fence
  clockFence : s'.pcp.fence.clock = s.pcp.fence.clock
  clock : s'.clock = s.clock
  faultless : Faultless s → Faultless s'

section Inside

variable {α β : Type} {s s' : St} {t : Namespace}

theorem InTxn.reads {m : Op α} {P : Namespace → α → Prop} {B : Namespace → Prop}
    (h : InTxn s t s') (hm : Reads m P B) :
    Ends m s' (fun a s'' => InTxn s t s'' ∧ P t a)
      fun _ s'' => Quiet s s'' ∧ (Faultless s → B t) := by
  refine (hm s').mono ?_ ?_
  · rintro a s'' ⟨hs, htxn, hp⟩
    rw [h.txn] at htxn hp
    exact ⟨⟨h.same.trans hs, htxn⟩, hp⟩
  · rintro st s'' ⟨hq, hb⟩
    rw [h.txn] at hb
    exact ⟨h.same.quiet.trans hq, fun hfl => hb (h.same.faultless hfl)⟩

theorem ends_orRollback {m : Op α} {Q : α → St → Prop} {B : Prop}
    (h : Ends m s' Q fun _ s'' => Quiet s s'' ∧ B) :
    Ends (orRollback m) s' Q fun _ s'' => Quiet s s'' ∧ B := by
  refine ends_onFailure h ?_
  rintro st s1 ⟨hq, hb⟩
  exact ends_rollbackMap.mono (fun _ _ hs => ⟨hq.trans hs.quiet, hb⟩)
    fun _ _ hs => ⟨hq.trans hs.1, hb⟩

theorem InTxn.put (h : InTxn s t s') (f : Namespace → Namespace) :
    Ends (putValue f) s' (fun _ s'' => InTxn s (f t) s'')
      fun _ s'' => Quiet s s'' ∧ ¬Faultless s := by
  refine (ends_putValue f).mono ?_ ?_
  · rintro - s'' ⟨hs, htxn⟩
    rw [h.txn] at htxn
    exact ⟨h.same.trans hs, htxn⟩
  · rintro st s'' ⟨hq, hfl⟩
    exact ⟨h.same.quiet.trans hq, fun hf => hfl (h.same.faultless hf)⟩

theorem InTxn.require (h : InTxn s t s') (c : Bool) (st : Status) :
    Ends (require c st) s' (fun _ s'' => InTxn s t s'' ∧ c = true)
      fun _ s'' => Quiet s s'' ∧ c = false := by
  refine (ends_require (E := fun _ s'' => Quiet s s'' ∧ c = false) fun hc =>
    ⟨h.same.quiet, hc⟩).mono ?_ fun _ _ h => h
  rintro - s'' ⟨rfl, hc⟩
  exact ⟨h, hc⟩

theorem InTxn.rollback (h : InTxn s t s') : Ends rollbackMap s' (fun _ s'' => Same s s'')
    fun _ s'' => Quiet s s'' ∧ ¬Faultless s :=
  ends_rollbackMap.mono (fun _ _ hs => h.same.trans hs) fun _ _ hs =>
    ⟨h.same.quiet.trans hs.1, fun hf => hs.2 (h.same.faultless hf)⟩

theorem InTxn.commit (h : InTxn s t s') : Ends commitFull s' (fun _ s'' => Stored s t s'')
    fun st s'' => MayStore s t s'' ∧ ¬Faultless s ∧ (st ≠ .commitUnknown → s''.disk = s.disk) ∧
      (st = .commitUnknown → s''.pcp.fence.storage = true) := by
  refine ends_commitFull.mono ?_ ?_
  · intro _ s'' hc
    refine ⟨hc.disk.trans h.txn, ?_, ?_, hc.clock.trans h.same.clock,
      fun hf => hc.faultless (h.same.faultless hf)⟩
    · rw [hc.pcp]
      exact h.same.pcp
    · rw [hc.pcp]
      exact h.same.live
  · rintro st s'' ⟨hc, hfl, hdisk, hopen⟩
    refine ⟨⟨?_, ?_, ?_, ?_, ?_, ?_⟩, fun hf => hfl (h.same.faultless hf), fun hst =>
      (hdisk hst).trans h.same.disk, hopen⟩
    · rcases hc.disk with hd | ⟨hd, hst⟩
      · exact .inl (hd.trans h.same.disk)
      · exact .inr ⟨hd.trans h.txn, hst⟩
    · rw [hc.pcp, h.same.pcp]
    · rw [← h.same.fence]
      exact hc.fence
    · rw [hc.clockFence, h.same.fence]
    · exact hc.clock.trans h.same.clock
    · exact fun hf => hc.faultless (h.same.faultless hf)

/-- A transaction that begins and passes the check: there is a meta record, and the scan accepts the
namespace. -/
theorem ends_checked {k : Meta → Op β} {R : β → St → Prop} {E : Status → St → Prop}
    (hfail : ∀ st s'', Quiet s s'' → E st s'')
    (hk : ∀ m rows s'', s.disk = ⟨some m, rows⟩ → scanAccepts m rows = true →
      InTxn s ⟨some m, rows⟩ s'' → Ends (k m) s'' R E) :
    Ends (begin >>= fun _ => orRollback rwScanCheck >>= k) s R E := by
  refine Ends.andThen ends_begin (fun st s'' h => hfail st s'' h.1) ?_
  rintro - s1 ⟨hs1, htxn1⟩
  have hin : InTxn s s.disk s1 := ⟨hs1, htxn1⟩
  refine Ends.andThen (ends_orRollback (hin.reads reads_rwScanCheck))
    (fun st s'' h => hfail st s'' h.1) ?_
  rintro m s2 ⟨h2, hinfo, hacc⟩
  have hdisk : s.disk = ⟨some m, s.disk.rows⟩ := by rw [← hinfo]
  refine hk m s.disk.rows s2 hdisk hacc ⟨h2.same, ?_⟩
  rw [← hdisk]
  exact h2.txn

end Inside

end Ninlil.Permit
