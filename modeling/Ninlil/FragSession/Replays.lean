import Ninlil.FragSession.Retries

/-!
# Replayed messages

A message whose end-to-end counter was seen before may still be a START, and the session hands that
to the engine again, to repeat its acknowledgement.

* `Admissible`: when the engine opens a slot for a START;
* `Reopens`: a replayed START that the engine takes for a new transfer;
* `OneSlot`, `Touches.oneSlot`: a message changes one slot, and publishes only by ending it;
* `Tracked`, `Run.tracked`: the counters of slots and publications are distinct, and each is taken;
* `replays_harmless`: replays leave the engine alone exactly as long as none reopens a transfer, and
  then no counter is behind two publications.
-/

namespace Ninlil.FragSession

open R7Frag hiding Tombstone
open FragState (Accounted Unchanged StartIn ContIn Slot)

variable {P : Profile} {env : Env} {s s' : Sess P} {l : Ledger P} {eng eng' : FragState.Engine P}

/-! ### When a START opens a slot -/

/-- Everything that `ninlil_r7_frag_state_admit_start` asks for before it opens a slot. -/
structure Admissible (eng : FragState.Engine P) (inp : StartIn) : Prop where
  unfenced : eng.fenced = false
  context : contextOk inp.e2eContextId = true
  generation : inp.keyGeneration ≠ 0
  handle : handleOk inp.transferHandle = true
  plan : FragState.planValidate inp.totalLen inp.firstChunk.length inp.fragCount
    inp.continuationUnit = .ok
  noSlot : FragState.findReasmHandle eng inp.e2eContextId inp.transferHandle = none ∧
    FragState.findReasmTid eng inp.e2eContextId inp.transferId = none
  noTomb : FragState.findTombHandle eng inp.e2eContextId inp.transferHandle = none ∧
    FragState.findTombTid eng inp.e2eContextId inp.transferId = none
  tombFree : (FragState.tombReserve eng).isSome = true
  budget : eng.payloadBytesInUse + inp.totalLen ≤ P.payloadBudget
  peer : FragState.peerCount eng inp.e2eContextId < P.maxPerPeer
  slotFree : (Tables.firstFree eng.reasm).isSome = true
  timers : (checkedAddU64 eng.nowMono receiverTtlMs).isSome = true ∧
    (checkedAddU64 eng.nowMono idleTimeoutMs).isSome = true ∧
    (checkedAddU64 eng.nowMono partialAckIdleMs).isSome = true

theorem Admissible.admitStart {inp : StartIn} (h : Admissible eng inp) :
    (FragState.admitStart eng inp).1 = .ok := by
  obtain ⟨tombSlot, htomb⟩ := Option.isSome_iff_exists.1 h.tombFree
  obtain ⟨freeSlot, hfree⟩ := Option.isSome_iff_exists.1 h.slotFree
  obtain ⟨habs, hidle, hdue⟩ := h.timers
  obtain ⟨a, ha⟩ := Option.isSome_iff_exists.1 habs
  obtain ⟨b, hb⟩ := Option.isSome_iff_exists.1 hidle
  obtain ⟨c, hc⟩ := Option.isSome_iff_exists.1 hdue
  unfold FragState.admitStart
  rw [if_neg (by simp [h.unfenced]), if_neg (by simp [h.context, h.generation, h.handle])]
  dsimp only
  rw [h.plan, if_neg (by simp), h.noSlot.1, h.noSlot.2, h.noTomb.1, h.noTomb.2]
  have hpeer : ¬ FragState.peerCount eng inp.e2eContextId ≥ P.maxPerPeer := not_le.2 h.peer
  simp only [Option.or_none, FragState.tombAnswer, FragState.startFresh, htomb, hfree, ha, hb, hc,
    if_neg (not_lt.2 h.budget), if_neg hpeer]

theorem admissible_of_ok (hacc : Accounted eng) {inp : StartIn}
    (h : (FragState.admitStart eng inp).1 = .ok) : Admissible eng inp := by
  unfold FragState.admitStart at h
  by_cases hfenced : eng.fenced = true
  · rw [if_pos hfenced] at h
    cases h
  rw [if_neg hfenced] at h
  by_cases hclass : contextOk inp.e2eContextId = false ∨ inp.keyGeneration = 0
      ∨ handleOk inp.transferHandle = false
  · rw [if_pos hclass] at h
    cases h
  rw [if_neg hclass] at h
  dsimp only at h
  by_cases hplan : FragState.planValidate inp.totalLen inp.firstChunk.length inp.fragCount
      inp.continuationUnit ≠ .ok
  · rw [if_pos hplan] at h
    exact absurd h hplan
  rw [if_neg hplan] at h
  split at h
  · split_ifs at h
  · rename_i hslots
    obtain ⟨hslotH, hslotT⟩ := Option.or_eq_none_iff.1 hslots
    split at h
    · rename_i st intent hanswer
      unfold FragState.tombAnswer at hanswer
      split at hanswer
      · cases hanswer
      · split_ifs at hanswer
        all_goals
          cases hanswer
          cases h
    · rename_i hanswer
      unfold FragState.startFresh at h
      split at h
      · cases h
      · rename_i tombSlot htomb
        dsimp only at h
        split_ifs at h with hbudget hpeer
        split at h
        · cases h
        · rename_i freeSlot hfree
          split at h
          · rename_i a b c ha hb hc
            simp only [not_or, Bool.not_eq_false] at hclass
            exact ⟨by simpa using hfenced, hclass.1, hclass.2.1, hclass.2.2, not_not.1 hplan,
              ⟨hslotH, hslotT⟩, hacc.clear_of_no_answer hslotH hslotT hanswer, by simp [htomb],
              not_lt.1 hbudget, not_le.1 hpeer, by simp [hfree], by simp [ha, hb, hc]⟩
          · cases h

/-- **A START opens a slot** exactly when it is admissible; else the tables stay. -/
theorem admitStart_unchanged_iff (hacc : Accounted eng) (inp : StartIn) :
    Unchanged eng (FragState.admitStart eng inp).2.1 ↔ ¬ Admissible eng inp := by
  rcases FragState.admitStart_cases hacc inp with ⟨hsame, hok⟩ | ⟨hok, i, j, hopen⟩
  · exact ⟨fun _ hadm => hok hadm.admitStart, fun _ => hsame⟩
  · refine ⟨fun hsame _ => ?_, fun hnot => absurd (admissible_of_ok hacc hok) hnot⟩
    obtain ⟨absDl, idleDl, due, -, hreasm⟩ := hopen.slot
    have hi := hopen.slotFree
    rw [← hsame.reasm, hreasm, Function.update_self] at hi
    cases hi

/-- A replayed START that the engine takes for a new transfer. -/
def Reopens (env : Env) (s : Sess P) (hdr : E2eFields) (blob : List UInt8) : Prop :=
  ∃ inp, replayedStart env s hdr blob = some inp ∧ Admissible s.reasm inp

/-- **A replay leaves the engine alone** exactly when it does not reopen a transfer. -/
theorem replay_unchanged_iff (hacc : Accounted s.reasm) {frame blob : List UInt8} {d : Storage}
    {cap : Option ℕ} {f : OuterDataFields} {hdr : E2eFields} {i : ℕ} {Le : Lane}
    (hreach : Reaches env s frame d f blob s' hdr i Le)
    (hreplay : laneRxPrecheck Le hdr.e2eCounter = .replay) :
    Unchanged s.reasm (rxData env s frame cap d).sess.reasm ↔ ¬ Reopens env s hdr blob := by
  have hhop := rxHop_ok hreach.hop
  rw [hreach.rxData_replay hreplay, rxReplay_reasm, replayedStart_same hhop, hhop.reasm]
  unfold Reopens
  cases replayedStart env s hdr blob with
  | none =>
    refine iff_of_true (.refl s.reasm) ?_
    rintro ⟨_, ⟨⟩, _⟩
  | some inp =>
    dsimp only
    rw [admitStart_unchanged_iff hacc]
    simp

/-! ### One message, one slot -/

/-- Only slot `i` changes, and a publication ends its transfer. -/
structure At (i : Fin P.reasmSlots) (eng eng' : FragState.Engine P) : Prop where
  others : ∀ j, j ≠ i → eng'.reasm j = eng.reasm j
  ended : eng'.publishCount ≠ eng.publishCount → eng'.reasm i = none

/-- Only slot `i` changes, and nothing is published. -/
structure Still (i : Fin P.reasmSlots) (eng eng' : FragState.Engine P) : Prop where
  others : ∀ j, j ≠ i → eng'.reasm j = eng.reasm j
  count : eng'.publishCount = eng.publishCount

/-- At most one slot changes. -/
def OneSlot (eng eng' : FragState.Engine P) : Prop :=
  (eng'.reasm = eng.reasm ∧ eng'.publishCount = eng.publishCount) ∨ ∃ i, At i eng eng'

variable {i : Fin P.reasmSlots} {S S' : Slot}

theorem at_update {r : Option Slot} (hreasm : eng'.reasm = Function.update eng.reasm i r)
    (hended : eng'.publishCount ≠ eng.publishCount → r = none) : At i eng eng' := by
  refine ⟨fun j hj => ?_, fun hne => ?_⟩
  · rw [hreasm, Function.update_of_ne hj]
  · rw [hreasm, Function.update_self, hended hne]

theorem still_refl (i : Fin P.reasmSlots) (eng : FragState.Engine P) : Still i eng eng :=
  ⟨fun _ _ => rfl, rfl⟩

theorem still_fence (i : Fin P.reasmSlots) (eng : FragState.Engine P) : Still i eng eng.fence :=
  ⟨fun _ _ => rfl, rfl⟩

theorem still_update {r : Option Slot} (hreasm : eng'.reasm = Function.update eng.reasm i r)
    (hcount : eng'.publishCount = eng.publishCount) : Still i eng eng' := by
  refine ⟨fun j hj => ?_, hcount⟩
  rw [hreasm, Function.update_of_ne hj]

theorem tryComplete_at (eng : FragState.Engine P) (i : Fin P.reasmSlots) (S S' : Slot)
    (digest : Digest) :
    At i eng (FragState.tryComplete (eng.setReasm i (some S')) i S digest).2.1 := by
  have hset : At i eng (eng.setReasm i (some S')) :=
    at_update rfl fun hne => absurd rfl hne
  unfold FragState.tryComplete
  by_cases hfull : S.bitmap ≠ fullBitmap S.fragCount
  · rw [if_pos hfull]
    exact hset
  rw [if_neg hfull]
  cases checkedAddU64 (eng.setReasm i (some S')).nowMono tombstoneTtlMs with
  | none => exact at_update rfl fun hne => absurd rfl hne
  | some expiry =>
    cases FragState.endSlot (eng.setReasm i (some S')) S with
    | none => exact hset
    | some slot =>
      dsimp only
      have hended : ∀ mid : FragState.Engine P, mid.reasm = Function.update eng.reasm i (some S') →
          ∀ st reason, At i eng (FragState.terminate mid i S slot st reason expiry) := by
        intro mid hmid st reason
        refine at_update (r := none) ?_ fun _ => rfl
        show Function.update mid.reasm i none = _
        rw [hmid, Function.update_idem]
      split_ifs
      · exact hended _ rfl _ _
      · exact hended _ rfl _ _
      · exact hended _ rfl _ _

theorem contNew_still (eng : FragState.Engine P) (i : Fin P.reasmSlots) (S : Slot) (inp : ContIn)
    (offset : ℕ) (hnone : inp.reassembledDigest32 = none) :
    Still i eng (FragState.contNew eng i S inp offset).2.1 := by
  unfold FragState.contNew
  dsimp only
  cases checkedAddU64 eng.nowMono idleTimeoutMs with
  | none => exact still_fence i eng
  | some idle =>
    dsimp only
    by_cases hfull : S.bitmap ||| 1#16 <<< inp.fragIndex = fullBitmap S.fragCount
    · rw [if_pos hfull, hnone]
      exact still_update rfl rfl
    · rw [if_neg hfull]
      cases checkedAddU64 eng.nowMono partialAckIdleMs with
      | none => exact still_fence i eng
      | some due => exact still_update rfl rfl

theorem contSeen_still (eng : FragState.Engine P) (i : Fin P.reasmSlots) (S : Slot) (inp : ContIn)
    (offset : ℕ) (hnone : inp.reassembledDigest32 = none) :
    Still i eng (FragState.contSeen eng i S inp offset).2.1 := by
  unfold FragState.contSeen
  rw [hnone]
  dsimp only
  by_cases hsame : S.chunkLen inp.fragIndex = inp.chunk.length
      ∧ Bytes.slice S.payload offset inp.chunk.length = inp.chunk
  · rw [if_pos hsame]
    split_ifs
    · exact still_refl i eng
    · exact still_refl i eng
  · rw [if_neg hsame]
    cases checkedAddU64 eng.nowMono tombstoneTtlMs with
    | none => exact still_fence i eng
    | some expiry =>
      cases FragState.endSlot eng S with
      | none => exact still_refl i eng
      | some slot => exact still_update rfl rfl

/-- A CONT without a digest changes nothing, or the slot of its handle. -/
theorem admitCont_still (eng : FragState.Engine P) (inp : ContIn)
    (hnone : inp.reassembledDigest32 = none) : (FragState.admitCont eng inp).2.1 = eng ∨
      ∃ i S, FragState.findReasmHandle eng inp.e2eContextId inp.transferHandle = some (i, S) ∧
        Still i eng (FragState.admitCont eng inp).2.1 := by
  unfold FragState.admitCont
  by_cases hfenced : eng.fenced = true
  · rw [if_pos hfenced]
    exact .inl rfl
  rw [if_neg hfenced]
  by_cases hclass : contextOk inp.e2eContextId = false ∨ inp.keyGeneration = 0
      ∨ handleOk inp.transferHandle = false
  · rw [if_pos hclass]
    exact .inl rfl
  rw [if_neg hclass]
  cases hfind : FragState.findReasmHandle eng inp.e2eContextId inp.transferHandle with
  | none =>
    left
    cases FragState.findTombHandle eng inp.e2eContextId inp.transferHandle with
    | none => rfl
    | some r =>
      dsimp only
      split_ifs
      all_goals rfl
  | some r =>
    obtain ⟨i, S⟩ := r
    refine .inr ⟨i, S, rfl, ?_⟩
    dsimp only
    by_cases hgen : S.keyGeneration ≠ inp.keyGeneration
    · rw [if_pos hgen]
      exact still_refl i eng
    rw [if_neg hgen]
    cases FragState.contGeometry S.totalLen S.firstChunkLen S.fragCount inp.fragIndex with
    | error st => exact still_refl i eng
    | ok place =>
      dsimp only
      split_ifs
      · exact still_refl i eng
      · exact contSeen_still eng i S inp _ hnone
      · exact contNew_still eng i S inp _ hnone

/-- The finalisation changes nothing, or the slot of its handle. -/
theorem finalize_at (eng : FragState.Engine P) (ctx : UInt32) (handle : UInt64) (digest : Digest) :
    (FragState.finalize eng ctx handle digest).2.1 = eng ∨
      ∃ i S, FragState.findReasmHandle eng ctx handle = some (i, S) ∧
        At i eng (FragState.finalize eng ctx handle digest).2.1 := by
  unfold FragState.finalize
  cases FragState.findReasmHandle eng ctx handle with
  | none => exact .inl rfl
  | some r =>
    obtain ⟨i, S⟩ := r
    dsimp only
    by_cases hfull : S.bitmap ≠ fullBitmap S.fragCount
    · rw [if_pos hfull]
      exact .inl rfl
    · rw [if_neg hfull]
      exact .inr ⟨i, S, rfl, tryComplete_at eng i _ _ digest⟩

theorem Still.at (h : Still i eng eng') : At i eng eng' :=
  ⟨h.others, fun hne => absurd h.count hne⟩

theorem Still.trans {eng'' : FragState.Engine P} (h : Still i eng eng') (h' : At i eng' eng'') :
    At i eng eng'' :=
  ⟨fun j hj => (h'.others j hj).trans (h.others j hj), fun hne => h'.ended (h.count ▸ hne)⟩

/-- **A message changes at most one slot**, and publishes only by ending its transfer. -/
theorem Touches.oneSlot {keyGeneration : UInt64} {blob : List UInt8}
    (h : Touches env keyGeneration blob eng eng') (hacc : Accounted eng) : OneSlot eng eng' := by
  cases h with
  | same => exact .inl ⟨rfl, rfl⟩
  | start ef body first fp hopen =>
    rcases FragState.admitStart_cases hacc (startIn ef.e2eContextId keyGeneration body first fp) with
      ⟨hsame, -⟩ | ⟨-, i, j, hopens⟩
    · exact .inl ⟨hsame.reasm, hsame.count⟩
    · obtain ⟨absDl, idleDl, due, -, hreasm⟩ := hopens.slot
      exact .inr ⟨i, at_update hreasm fun hne => absurd hopens.count hne⟩
  | cont inp hnone =>
    rcases admitCont_still eng inp hnone with hsame | ⟨i, S, -, hat⟩
    · exact .inl ⟨by rw [hsame], by rw [hsame]⟩
    · exact .inr ⟨i, hat.at⟩
  | final inp dig hnone hneed =>
    rcases finalize_at (FragState.admitCont eng inp).2.1 inp.e2eContextId inp.transferHandle dig with
      hsame' | ⟨k, S', hfind', hat'⟩
    · rw [hsame']
      rcases admitCont_still eng inp hnone with hsame | ⟨i, S, -, hat⟩
      · exact .inl ⟨by rw [hsame], by rw [hsame]⟩
      · exact .inr ⟨i, hat.at⟩
    · rcases admitCont_still eng inp hnone with hsame | ⟨i, S, hfind, hat⟩
      · rw [hsame] at hat' ⊢
        exact .inr ⟨k, hat'⟩
      · -- both calls look the handle up, and no other slot can carry it
        have hki : k = i := by
          by_contra hne
          obtain ⟨hk, hctx, hh⟩ := FragState.findReasmHandle_some hfind'
          rw [hat.others k hne] at hk
          have hsame := hacc.findReasmHandle_eq hk
          rw [hctx, hh, hfind] at hsame
          cases hsame
          exact hne rfl
        subst hki
        exact .inr ⟨k, hat.trans hat'⟩

/-! ### Ledgers -/

theorem slotCounters_same (c : Counter) (held : Multiset Counter) (r : Option Slot) :
    slotCounters c held r r ≤ held := by
  cases r with
  | none => exact Multiset.zero_le held
  | some S =>
    show (if S.bitmap = S.bitmap then held else c ::ₘ held) ≤ held
    rw [if_pos rfl]

theorem slotCounters_le (c : Counter) (held : Multiset Counter) (r r' : Option Slot) :
    slotCounters c held r r' ≤ held + {c} := by
  cases r' with
  | none => exact Multiset.zero_le _
  | some S' =>
    cases r with
    | none => exact Multiset.le_add_left _ _
    | some S =>
      show (if S.bitmap = S'.bitmap then held else c ::ₘ held) ≤ held + {c}
      split_ifs
      · exact Multiset.le_add_right _ _
      · rw [add_comm, Multiset.singleton_add]

/-- What a slot holds and what it gives back is what it held. -/
theorem slotCounters_given (c : Counter) (held : Multiset Counter) {r r' : Option Slot}
    (h : r' = r ∨ r' = none) :
    slotCounters c held r r' + (if r'.isNone then held else 0) ≤ held := by
  cases r' with
  | none =>
    show (0 : Multiset Counter) + held ≤ held
    rw [zero_add]
  | some S' =>
    rcases h with rfl | h
    · show slotCounters c held (some S') (some S') + 0 ≤ held
      rw [add_zero]
      exact slotCounters_same c held (some S')
    · cases h

/-- **A message adds its counter** at most once. -/
theorem message_total_le (h : OneSlot eng eng') (l : Ledger P) (c : Counter) :
    (l.message c eng eng').total ≤ l.total + {c} := by
  have htotal : l.total + {c} = (∑ j, l.slots j + {c}) + l.published.sum := by
    unfold Ledger.total
    abel
  rw [htotal]
  rcases h with ⟨hreasm, hcount⟩ | ⟨i, hat⟩
  · have hslots : ∑ j, (l.message c eng eng').slots j ≤ ∑ j, l.slots j := by
      refine Finset.sum_le_sum fun j _ => ?_
      show slotCounters c (l.slots j) (eng.reasm j) (eng'.reasm j) ≤ l.slots j
      rw [hreasm]
      exact slotCounters_same c _ _
    have hpub : (l.message c eng eng').published = l.published := if_pos hcount
    unfold Ledger.total
    rw [hpub]
    exact add_le_add_left (hslots.trans (Multiset.le_add_right _ _)) _
  · by_cases hcount : eng'.publishCount = eng.publishCount
    · have hpub : (l.message c eng eng').published = l.published := if_pos hcount
      have hslots : ∑ j, (l.message c eng eng').slots j ≤ ∑ j, l.slots j + {c} := by
        have hone : ∑ j, (l.slots j + if j = i then ({c} : Multiset Counter) else 0) =
            ∑ j, l.slots j + {c} := by
          rw [Finset.sum_add_distrib, Finset.sum_ite_eq' Finset.univ i, if_pos (Finset.mem_univ i)]
        rw [← hone]
        refine Finset.sum_le_sum fun j _ => ?_
        show slotCounters c (l.slots j) (eng.reasm j) (eng'.reasm j) ≤ _
        split_ifs with hj
        · exact slotCounters_le c _ _ _
        · rw [hat.others j hj, add_zero]
          exact slotCounters_same c _ _
      unfold Ledger.total
      rw [hpub]
      exact add_le_add_left hslots _
    · -- the transfer that ended hands its counters over to the publication
      have hpub : (l.message c eng eng').published = (c ::ₘ l.given eng') :: l.published :=
        if_neg hcount
      have hnone := hat.ended hcount
      have hslots : ∑ j, (l.message c eng eng').slots j + l.given eng' ≤ ∑ j, l.slots j := by
        unfold Ledger.given
        rw [← Finset.sum_add_distrib]
        refine Finset.sum_le_sum fun j _ => slotCounters_given c _ ?_
        by_cases hj : j = i
        · exact .inr (hj ▸ hnone)
        · exact .inl (hat.others j hj)
      unfold Ledger.total
      rw [hpub, List.sum_cons, ← Multiset.singleton_add]
      calc ∑ j, (l.message c eng eng').slots j + ({c} + l.given eng' + l.published.sum)
          = (∑ j, (l.message c eng eng').slots j + l.given eng') + {c} + l.published.sum := by abel
        _ ≤ ∑ j, l.slots j + {c} + l.published.sum :=
          add_le_add_left (add_le_add_left hslots _) _

/-- A message that leaves the tables alone adds nothing. -/
theorem message_unchanged (h : Unchanged eng eng') (l : Ledger P) (c : Counter) :
    (l.message c eng eng').total ≤ l.total := by
  have hpub : (l.message c eng eng').published = l.published := if_pos h.count
  unfold Ledger.total
  rw [hpub]
  refine add_le_add_left (Finset.sum_le_sum fun j _ => ?_) _
  show slotCounters c (l.slots j) (eng.reasm j) (eng'.reasm j) ≤ l.slots j
  rw [h.reasm]
  exact slotCounters_same c _ _

/-- Any other call adds nothing. -/
theorem settle_total_le (l : Ledger P) (eng' : FragState.Engine P) :
    (l.settle eng').total ≤ l.total := by
  refine add_le_add_left (Finset.sum_le_sum fun j _ => ?_) _
  show (if (eng'.reasm j).isNone then 0 else l.slots j) ≤ l.slots j
  split_ifs
  · exact Multiset.zero_le _
  · exact le_rfl

/-! ### Runs without a reopened transfer -/

/-- The call replays no START that the engine takes for a new transfer. -/
def NoReopen (env : Env) (s : Sess P) : Call → Prop
  | .rxData frame _ d => ∀ f blob s' hdr i Le, Reaches env s frame d f blob s' hdr i Le →
    laneRxPrecheck Le hdr.e2eCounter = .replay → ¬ Reopens env s hdr blob
  | _ => True

/-- A counter was taken by its lane. -/
def Held (lanes : List Lane) (c : Counter) : Prop :=
  ∃ i L, laneFind lanes laneE2e c.1 = some (i, L) ∧ L.rxReplay c.2 = true

theorem Held.keeps {lanes lanes' : List Lane} {c : Counter} (h : Held lanes c)
    (hkeep : List.Forall₂ Lane.Keeps lanes lanes') : Held lanes' c := by
  obtain ⟨i, L, hfind, hreplay⟩ := h
  obtain ⟨L', hfind', hL⟩ := laneFind_of_forall₂ (fun _ _ hR => ⟨hR.kind, hR.contextId⟩) hkeep hfind
  exact ⟨i, L', hfind', hL.replay (laneFind_eq_some hfind).2.1 _ hreplay⟩

/-- The counters of the ledger are distinct and taken, and no lane took more than it accepts. -/
structure Tracked (s : Sess P) (l : Ledger P) : Prop where
  nodup : l.total.Nodup
  held : ∀ c ∈ l.total, Held s.lanes c
  covered : ∀ L ∈ s.lanes, L.kind = laneE2e → L.Covered

theorem keeps_covered {lanes lanes' : List Lane} (h : List.Forall₂ Lane.Keeps lanes lanes')
    (hcov : ∀ L ∈ lanes, L.kind = laneE2e → L.Covered) :
    ∀ L ∈ lanes', L.kind = laneE2e → L.Covered := by
  induction h with
  | nil => exact hcov
  | @cons a b _ _ hab _ ih =>
    intro L hL hkind
    rcases List.mem_cons.1 hL with rfl | hL
    · have hkind' : a.kind = laneE2e := hab.kind ▸ hkind
      exact hab.covered hkind' (hcov a List.mem_cons_self hkind')
    · exact ih (fun x hx => hcov x (List.mem_cons_of_mem _ hx)) L hL hkind

/-- A call that adds no counter. -/
theorem Tracked.le {l' : Ledger P} (h : Tracked s l) (htotal : l'.total ≤ l.total)
    (hkeep : List.Forall₂ Lane.Keeps s.lanes s'.lanes) : Tracked s' l' :=
  ⟨Multiset.nodup_of_le htotal h.nodup,
    fun c hc => (h.held c (Multiset.mem_of_le htotal hc)).keeps hkeep, keeps_covered hkeep h.covered⟩

/-- A call that adds one counter, which its lane has just taken. -/
theorem Tracked.add {l' : Ledger P} {c : Counter} (h : Tracked s l)
    (htotal : l'.total ≤ l.total + {c}) (hkeep : List.Forall₂ Lane.Keeps s.lanes s'.lanes)
    (hfresh : ¬ Held s.lanes c) (hheld : Held s'.lanes c) : Tracked s' l' := by
  have hnot : c ∉ l.total := fun hc => hfresh (h.held c hc)
  refine ⟨Multiset.nodup_of_le htotal ?_, fun a ha => ?_, keeps_covered hkeep h.covered⟩
  · rw [add_comm, Multiset.singleton_add]
    exact Multiset.nodup_cons.2 ⟨hnot, h.nodup⟩
  · rcases Multiset.mem_add.1 (Multiset.mem_of_le htotal ha) with ha | ha
    · exact (h.held a ha).keeps hkeep
    · exact Multiset.mem_singleton.1 ha ▸ hheld

theorem Reaches.rxHeader {frame blob : List UInt8} {d : Storage} {f : OuterDataFields}
    {hdr : E2eFields} {i : ℕ} {Le : Lane} (h : Reaches env s frame d f blob s' hdr i Le) :
    rxHeader env s frame d = some hdr := by
  unfold FragSession.rxHeader
  simp only [h.hop, h.header]
  rfl

theorem Tracked.rxData (h : Tracked s l) (hsound : Sound s) {frame : List UInt8} {cap : Option ℕ}
    {d : Storage} (hquiet : NoReopen env s (.rxData frame cap d)) :
    Tracked (FragSession.rxData env s frame cap d).sess (l.next env s (.rxData frame cap d)) := by
  rcases rxData_cases env s frame cap d with hsame | ⟨f, blob, s', hdr, i, Le, hreach, hcheck⟩
  · have hsame' : Unchanged s.reasm (FragSession.rxData env s frame cap d).sess.reasm := by
      rw [hsame.reasm]
      exact .refl s.reasm
    refine h.le ?_ hsame.lanes
    cases hhdr : FragSession.rxHeader env s frame d with
    | none =>
      rw [next_rxData_none hhdr]
      exact settle_total_le l _
    | some hdr =>
      rw [next_rxData_some hhdr]
      exact message_unchanged hsame' l _
  · have hnext : l.next env s (.rxData frame cap d) = l.message (hdr.e2eContextId, hdr.e2eCounter)
        s.reasm (FragSession.rxData env s frame cap d).sess.reasm :=
      next_rxData_some hreach.rxHeader
    have hhop := rxHop_ok hreach.hop
    obtain ⟨hi, hkind, -⟩ := laneFind_eq_some hreach.lane
    rw [hnext]
    rcases hcheck with hreplay | hfresh
    · have hsame : Unchanged s.reasm (FragSession.rxData env s frame cap d).sess.reasm :=
        (replay_unchanged_iff hsound.accounted hreach hreplay).2
          (hquiet f blob s' hdr i Le hreach hreplay)
      refine h.le (message_unchanged hsame l _) ?_
      rw [hreach.rxData_replay hreplay]
      exact keeps_trans hhop.lanes (rxReplay_lanes s' f hdr blob cap d).1
    · have hacc : Accounted s'.reasm := hhop.reasm ▸ hsound.accounted
      rw [hreach.rxData_fresh hfresh]
      have hadmits : Admits s' i hdr.e2eCounter (rxFresh env s' f hdr i Le blob cap d).sess :=
        rxFresh_admits hi hkind hreach.header f cap d
      have hkeep := keeps_trans hhop.lanes hadmits.lanes
      rcases hadmits.taken with heng | htaken
      · refine h.le (message_unchanged ?_ l _) hkeep
        rw [heng, hhop.reasm]
        exact .refl s.reasm
      · have htouch : Touches env s'.keyGeneration blob s'.reasm
            (rxFresh env s' f hdr i Le blob cap d).sess.reasm := rxFresh_touches hi f hdr blob cap d
        have hone := htouch.oneSlot hacc
        rw [hhop.reasm] at hone
        refine h.add (message_total_le hone l _) hkeep ?_ ?_
        · -- the lane passed the check, so it has not taken the counter
          intro hheld
          obtain ⟨k, L, hfind, hreplay⟩ := hheld.keeps hhop.lanes
          rw [hreach.lane] at hfind
          cases hfind
          rw [(laneRxPrecheck_ok hfresh).2] at hreplay
          cases hreplay
        · obtain ⟨L', hfind', -⟩ := laneFind_of_forall₂
            (fun _ _ hR => ⟨hR.kind, hR.contextId⟩) hadmits.lanes hreach.lane
          obtain ⟨L, hget, -, hreplay⟩ := htaken
          rw [(laneFind_eq_some hfind').1] at hget
          cases hget
          exact ⟨i, L', hfind', hreplay⟩

theorem Tracked.restart (h : Tracked s l) : Tracked (restart s) (l.settle (restart s).reasm) := by
  refine ⟨Multiset.nodup_of_le (settle_total_le l _) h.nodup, fun c hc => ?_, fun L hL _ => ?_⟩
  · obtain ⟨i, L, hfind, hreplay⟩ := h.held c (Multiset.mem_of_le (settle_total_le l _) hc)
    have hmap : List.Forall₂ (fun L L' => L' = Lane.restarted L) s.lanes
        (s.lanes.map Lane.restarted) :=
      List.forall₂_map_right_iff.2 (List.forall₂_same.2 fun _ _ => rfl)
    obtain ⟨L', hfind', rfl⟩ := laneFind_of_forall₂ (fun L L' (hR : L' = L.restarted) => by
      rw [hR]
      exact ⟨rfl, rfl⟩) hmap hfind
    obtain ⟨hi, hkind, -⟩ := laneFind_eq_some hfind
    have hmem : L ∈ s.lanes := List.mem_of_getElem? hi
    exact ⟨i, _, hfind', Lane.replay_restarted (h.covered L hmem hkind) hreplay⟩
  · obtain ⟨K, -, rfl⟩ := List.mem_map.1 hL
    exact covered_restarted K

theorem Tracked.next (h : Tracked s l) (hsound : Sound s) {c : Call} (hallowed : c.Allowed s)
    (hquiet : NoReopen env s c) : Tracked (c.apply env s) (l.next env s c) := by
  have hlanes := (SameBut.refl s).lanes
  cases c with
  | setNow | tick => exact h.le (settle_total_le l _) hlanes
  | installLane kind contextId keyGeneration w =>
    refine ⟨Multiset.nodup_of_le (settle_total_le l _) h.nodup, ?_, ?_⟩
    all_goals
      show ∀ x, _ → _
      have happly : (Call.installLane kind contextId keyGeneration w).apply env s =
        (FragSession.installLane s kind contextId keyGeneration w).2 := rfl
      rw [happly]
      unfold FragSession.installLane
      split_ifs
    · exact fun c hc => h.held c (Multiset.mem_of_le (settle_total_le l _) hc)
    · exact fun c hc => h.held c (Multiset.mem_of_le (settle_total_le l _) hc)
    · exact fun c hc => h.held c (Multiset.mem_of_le (settle_total_le l _) hc)
    · exact fun c hc => h.held c (Multiset.mem_of_le (settle_total_le l _) hc)
    · intro c hc
      obtain ⟨i, L, hfind, hreplay⟩ := h.held c (Multiset.mem_of_le (settle_total_le l _) hc)
      exact ⟨i, L, laneFind_append _ hfind, hreplay⟩
    · exact h.covered
    · exact h.covered
    · exact h.covered
    · exact h.covered
    · intro L hL hkind
      rcases List.mem_append.1 hL with hL | hL
      · exact h.covered L hL hkind
      · rw [List.mem_singleton.1 hL]
        exact covered_installed kind contextId keyGeneration
  | rxData frame cap d => exact h.rxData hsound hquiet
  | takePublication outCap => exact h.le (settle_total_le l _) hlanes
  | restart => exact h.restart
  | transmit lanes tx =>
    exact h.le (settle_total_le l _) (hallowed.imp fun _ _ hs => hs.keeps)

theorem tracked_init : Tracked (Sess.init P) (Ledger.init P) := by
  have htotal : (Ledger.init P).total = 0 := by
    simp [Ledger.total, Ledger.init]
  refine ⟨?_, fun c hc => ?_, fun L hL => absurd hL List.not_mem_nil⟩
  · rw [htotal]
    exact Multiset.nodup_zero
  · rw [htotal] at hc
    exact absurd hc (Multiset.notMem_zero c)

theorem Run.tracked (h : Run env (NoReopen env) s l) : Tracked s l := by
  induction h with
  | init => exact tracked_init
  | next c hrun hallowed hquiet ih => exact ih.next hrun.sound hallowed hquiet

/-- Every publication has counters behind it. -/
theorem Run.published_ne_zero {ok : Sess P → Call → Prop} (h : Run env ok s l) :
    ∀ k ∈ l.published, k ≠ 0 := by
  induction h with
  | init => exact fun k hk => absurd hk List.not_mem_nil
  | @next s l c _ _ _ ih =>
    intro k hk
    cases c with
    | rxData frame cap d =>
      revert hk
      cases hhdr : rxHeader env s frame d with
      | none =>
        rw [next_rxData_none hhdr]
        exact ih k
      | some hdr =>
        rw [next_rxData_some hhdr]
        unfold Ledger.message
        dsimp only
        split_ifs
        · exact ih k
        · intro hk
          rcases List.mem_cons.1 hk with rfl | hk
          · exact Multiset.cons_ne_zero
          · exact ih k hk
    | _ => exact ih k hk

/-- **Replays are harmless as long as none reopens a transfer.**  In every state that calls can
reach, a frame with a fresh hop and a replayed message leaves slots, tombstones, payload account and
publication alone exactly when the message is not a START that the engine takes for a new transfer;
and in a run without such a START, each end-to-end counter is behind one publication at most. -/
theorem replays_harmless (env : Env) :
    (∀ (s : Sess P) (l : Ledger P), AnyRun env s l → ∀ (frame : List UInt8) (cap : Option ℕ)
      (d : Storage) (f : OuterDataFields) (blob : List UInt8) (s' : Sess P) (hdr : E2eFields)
      (i : ℕ) (Le : Lane), Reaches env s frame d f blob s' hdr i Le →
      laneRxPrecheck Le hdr.e2eCounter = .replay →
      (Unchanged s.reasm (rxData env s frame cap d).sess.reasm ↔ ¬ Reopens env s hdr blob)) ∧
    ∀ (s : Sess P) (l : Ledger P), Run env (NoReopen env) s l → l.Distinct := by
  refine ⟨fun s l hrun frame cap d f blob s' hdr i Le hreach hreplay => ?_, fun s l hrun => ?_⟩
  · exact replay_unchanged_iff hrun.sound.accounted hreach hreplay
  · have hle : l.published.sum ≤ l.total := Multiset.le_add_left _ _
    exact ⟨Multiset.nodup_of_le hle hrun.tracked.nodup, hrun.published_ne_zero⟩

/-! ### A transfer that is reopened -/

/-- The session with its lanes. -/
def sampleLanes : Sess endpointProfile × Ledger endpointProfile :=
  after sampleEnv (sampleCalls.take 2) (.init _) (.init _)

/-- The session while its transfer is being received. -/
def sampleOpen : Sess endpointProfile × Ledger endpointProfile :=
  after sampleEnv [.rxData (sampleFrame 1 (sampleBlob e2eTypeStart 1 sampleStartPt)) none .sound]
    sampleLanes.1 sampleLanes.2

/-- The session when the tombstone of its transfer has expired. -/
def sampleForgotten : Sess endpointProfile × Ledger endpointProfile :=
  after sampleEnv [.tick 110000] sampleEnded.1 sampleEnded.2

theorem run_sampleForgotten : AnyRun sampleEnv sampleForgotten.1 sampleForgotten.2 := by
  refine run_after run_sampleEnded fun c hc lanes tx => ?_
  rintro rfl
  simp at hc

/-- The START once more: the hop counter is fresh, the message the same. -/
def sampleReplay : List UInt8 := sampleFrame 2 (sampleBlob e2eTypeStart 1 sampleStartPt)

theorem reached_sampleOpen : reached sampleEnv sampleOpen.1 sampleReplay .sound =
    some (⟨e2eTypeStart, 5, 1⟩, sampleBlob e2eTypeStart 1 sampleStartPt, sampleLane) := by
  decide +kernel

theorem reached_sampleForgotten : reached sampleEnv sampleForgotten.1 sampleReplay .sound =
    some (⟨e2eTypeStart, 5, 1⟩, sampleBlob e2eTypeStart 1 sampleStartPt, sampleLane) := by
  decide +kernel

/-- The run up to the open transfer replays nothing. -/
theorem run_sampleOpen : Run sampleEnv (NoReopen sampleEnv) sampleOpen.1 sampleOpen.2 := by
  have hlanes : Run sampleEnv (NoReopen sampleEnv) sampleLanes.1 sampleLanes.2 :=
    .next (.installLane laneE2e 5 1 .stored)
      (.next (.installLane laneHopData 3 1 .stored) .init trivial trivial) trivial trivial
  refine hlanes.after_one _ trivial ?_
  intro f blob s' hdr i Le hreach hreplay
  have hreached : reached sampleEnv sampleLanes.1
      (sampleFrame 1 (sampleBlob e2eTypeStart 1 sampleStartPt)) .sound =
        some (⟨e2eTypeStart, 5, 1⟩, sampleBlob e2eTypeStart 1 sampleStartPt,
          .installed laneE2e 5 1) := by
    decide +kernel
  have hsome := hreach.reached.symm.trans hreached
  cases hsome
  exact absurd hreplay (by decide +kernel)

/-- While the transfer is active, its replayed START changes nothing. -/
theorem replays_harmless_open : Unchanged sampleOpen.1.reasm
    (rxData sampleEnv sampleOpen.1 sampleReplay none .sound).sess.reasm ∧
      sampleOpen.2.Distinct := by
  obtain ⟨f, s', i, hreach⟩ := reaches_of_reached reached_sampleOpen
  have hrun : AnyRun sampleEnv sampleOpen.1 sampleOpen.2 := by
    have hlanes : AnyRun sampleEnv sampleLanes.1 sampleLanes.2 :=
      .next (.installLane laneE2e 5 1 .stored)
        (.next (.installLane laneHopData 3 1 .stored) .init trivial trivial) trivial trivial
    exact hlanes.after_one _ trivial trivial
  obtain ⟨hreplays, hruns⟩ := replays_harmless (P := endpointProfile) sampleEnv
  have hiff := hreplays sampleOpen.1 sampleOpen.2 hrun sampleReplay none .sound f _ s' _ i _ hreach
    (by decide +kernel)
  refine ⟨hiff.2 ?_, hruns sampleOpen.1 sampleOpen.2 run_sampleOpen⟩
  rintro ⟨inp, hinp, hadm⟩
  have hfree := hadm.noSlot.1
  have hctx : (replayedStart sampleEnv sampleOpen.1 ⟨e2eTypeStart, 5, 1⟩
      (sampleBlob e2eTypeStart 1 sampleStartPt)).map (fun r => (r.e2eContextId, r.transferHandle)) =
        some (5, 7) := by
    decide +kernel
  rw [hinp] at hctx
  have hpair := Option.some.inj hctx
  have hc : inp.e2eContextId = 5 := congrArg Prod.fst hpair
  have hh : inp.transferHandle = 7 := congrArg Prod.snd hpair
  have hfound : (FragState.findReasmHandle sampleOpen.1.reasm 5 7).isSome = true := by
    decide +kernel
  rw [hc, hh] at hfree
  rw [hfree] at hfound
  cases hfound

/-- After its tombstone has expired, the same START opens the transfer again. -/
theorem replay_reopens : ¬ ∀ (env : Env) (s : Sess endpointProfile) (l : Ledger endpointProfile),
    AnyRun env s l → ∀ (frame : List UInt8) (cap : Option ℕ) (d : Storage) (f : OuterDataFields)
    (blob : List UInt8) (s' : Sess endpointProfile) (hdr : E2eFields) (i : ℕ) (Le : Lane),
    Reaches env s frame d f blob s' hdr i Le → laneRxPrecheck Le hdr.e2eCounter = .replay →
    Unchanged s.reasm (rxData env s frame cap d).sess.reasm := by
  intro hall
  obtain ⟨f, s', i, hreach⟩ := reaches_of_reached reached_sampleForgotten
  have hsame := hall sampleEnv sampleForgotten.1 sampleForgotten.2 run_sampleForgotten sampleReplay
    none .sound f _ s' _ i _ hreach (by decide +kernel)
  have hempty : (sampleForgotten.1.reasm.reasm ⟨0, by decide⟩).isSome = false := by decide +kernel
  have hopened : ((rxData sampleEnv sampleForgotten.1 sampleReplay none .sound).sess.reasm.reasm
      ⟨0, by decide⟩).isSome = true := by
    decide +kernel
  rw [hsame.reasm, hempty] at hopened
  cases hopened

end Ninlil.FragSession
