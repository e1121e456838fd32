import Ninlil.FragState.Tables

/-!
# The effects of the calls

* `tryComplete_effect`, `contNew_effect`, `contSeen_effect`: the endings and the two halves of a CONT;
* `admitStart_effect`, `admitCont_effect`, `finalize_effect`, `takePublication_effect`: what each
  call does to the tables, and how it may fail and yet change something;
* `tick_effect`: a tick drops terminal tombstones and then ends transfers.
-/

namespace Ninlil.FragState

open Bytes R7Frag Reservations Tables

variable {P : Profile} {eng eng' : Engine P} {S S' : Slot} {i : Fin P.reasmSlots}
  {j : Fin tombstoneSlots} {op : Op}

/-- The failures that may change something: a conflict, a digest that does not match, a completion
that finds the publication taken, and a fence that is raised. -/
def Excused (op : Op) (eng : Engine P) (st : Status) (eng' : Engine P) : Prop :=
  st = .conflict ∨ st = .digest ∨ (st = .resource ∧ eng.pub.isSome = true ∧ op.Completing) ∨
    (st = .fenced ∧ eng.fenced = false ∧ eng'.fenced = true)

/-- The statuses that are no errors. -/
def Status.Success (st : Status) : Prop :=
  st = .ok ∨ st = .duplicate ∨ st = .exactRetry ∨ st = .needDigest ∨ st = .published

/-- What a call does: an effect on the tables, and nothing at all when it fails, unless it is
excused. -/
structure Acts (op : Op) (eng : Engine P) (st : Status) (eng' : Engine P) : Prop where
  effect : Effect op eng eng'
  failure : Unchanged eng eng' ∨ st.Success ∨ Excused op eng st eng'

theorem Acts.same {st : Status} (h : Unchanged eng eng') : Acts op eng st eng' :=
  ⟨h.effect, .inl h⟩

/-! ### Endings -/

/-- The end of a transfer that was read as `S` and may have been written as `S'` in between. -/
theorem terminate_ends {mid : Engine P} (hi : eng.reasm i = some S)
    (hmark : eng.marks j = .reserved S.identity) (hid : S'.identity = S.identity)
    (htotal : S'.totalLen = S.totalLen)
    (hreasm : Function.update mid.reasm i none = Function.update eng.reasm i none)
    (htombs : mid.tombs = eng.tombs) (hbytes : mid.payloadBytesInUse = eng.payloadBytesInUse)
    {status reason : UInt8} {expiry : UInt64} :
    Ends eng (terminate mid i S' j status reason expiry) i j S
      (terminalTomb S' status reason expiry) where
  slotWas := hi
  reserved := hmark
  terminal := rfl
  identity := by
    obtain ⟨T, -, -, hT⟩ := marks_eq_reserved.1 hmark
    have hslot : S.tombReserveSlot = j.val := (congrArg Identity.tombSlot hT).symm
    have hslot' : S'.tombReserveSlot = j.val := (congrArg Identity.tombSlot hid).trans hslot
    rw [← hid, Slot.identity, hslot']
    rfl
  reasm := hreasm
  tombs := by
    rw [← htombs]
    rfl
  bytes := by
    have hrel : (terminate mid i S' j status reason expiry).payloadBytesInUse =
        if mid.payloadBytesInUse ≥ S'.totalLen then mid.payloadBytesInUse - S'.totalLen else 0 :=
      rfl
    rw [hrel, hbytes, htotal]
    split_ifs
    · rfl
    · omega

/-- An attempt to complete the transfer in slot `i`, written as `S'` first. -/
theorem tryComplete_effect (h : Accounted eng) (hi : eng.reasm i = some S) (hw : Writes op S S')
    (hop : op.Completing)
    (hopen : eng.fenced = false ∨ ∃ ctx handle d, op = .finalize ctx handle d) (d : Digest) :
    Effect op eng (tryComplete (eng.setReasm i (some S')) i S' d).2.1 ∧
      ((tryComplete (eng.setReasm i (some S')) i S' d).1.Success ∨
        Excused op eng (tryComplete (eng.setReasm i (some S')) i S' d).1
          (tryComplete (eng.setReasm i (some S')) i S' d).2.1 ∨
        (tryComplete (eng.setReasm i (some S')) i S' d).1 = .fenced ∧ eng.fenced = true ∧
          ∃ ctx handle d, op = .finalize ctx handle d) := by
  obtain ⟨j, hj, hmark⟩ := h.endSlot hi
  have hend : endSlot (eng.setReasm i (some S')) S' = some j := by
    have hslot : S'.tombReserveSlot = S.tombReserveSlot := congrArg Identity.tombSlot hw.identity
    rw [← hj, endSlot, hslot]
    rfl
  have hstay : Effect op eng (eng.setReasm i (some S')) := .writes i S S' hi hw rfl rfl rfl
  have hends : ∀ (mid : Engine P) (status reason : UInt8) (expiry : UInt64),
      mid.reasm = (eng.setReasm i (some S')).reasm → mid.tombs = eng.tombs →
      mid.payloadBytesInUse = eng.payloadBytesInUse →
      Effect op eng (terminate mid i S' j status reason expiry) := by
    intro mid status reason expiry hreasm htombs hbytes
    refine .ends i j S _ (terminate_ends hi hmark hw.identity hw.totalLen ?_ htombs hbytes)
    rw [hreasm]
    exact Function.update_idem ..
  unfold tryComplete
  by_cases hfull : S'.bitmap ≠ fullBitmap S'.fragCount
  · rw [if_pos hfull]
    exact ⟨hstay, .inl (.inl rfl)⟩
  rw [if_neg hfull]
  cases hexp : checkedAddU64 (eng.setReasm i (some S')).nowMono tombstoneTtlMs with
  | none =>
    refine ⟨.writes i S S' hi hw rfl rfl rfl, ?_⟩
    rcases hopen with hopen | hfin
    · exact .inr (.inl (.inr (.inr (.inr ⟨rfl, hopen, rfl⟩))))
    · cases hfence : eng.fenced with
      | false => exact .inr (.inl (.inr (.inr (.inr ⟨rfl, hfence, rfl⟩))))
      | true => exact .inr (.inr ⟨rfl, rfl, hfin⟩)
  | some expiry =>
    dsimp only
    rw [hend]
    dsimp only
    by_cases hdigest : d ≠ S'.contentDigest
    · rw [if_pos hdigest]
      exact ⟨hends _ _ _ _ rfl rfl rfl, .inr (.inl (.inr (.inl rfl)))⟩
    rw [if_neg hdigest]
    by_cases hpub : (eng.setReasm i (some S')).pub.isSome = true
    · rw [if_pos hpub]
      exact ⟨hends _ _ _ _ rfl rfl rfl, .inr (.inl (.inr (.inr (.inl ⟨rfl, hpub, hop⟩))))⟩
    · rw [if_neg hpub]
      exact ⟨hends (stagePublication (eng.setReasm i (some S')) S') _ _ _ rfl rfl rfl,
        .inl (.inl rfl)⟩

/-- A slot whose digest is awaited no longer. -/
theorem sameCore_needDigest (S : Slot) (b : Bool) : SameCore S { S with needDigest := b } :=
  ⟨rfl, rfl, rfl, rfl, rfl, rfl, rfl, rfl, rfl, rfl⟩

/-! ### START -/

/-- A reservation that is given up leaves no trace. -/
theorem dropped_eq {T : Tombstone} (hj : eng.tombs j = none) :
    (eng.setTomb j (some T)).setTomb j none = eng := by
  have htombs : Function.update (Function.update eng.tombs j (some T)) j none = eng.tombs := by
    rw [Function.update_idem, update_none_of_free hj]
  unfold Engine.setTomb
  rw [htombs]

/-- With no active slot of its handle or identifier, a START that no tombstone answers is new. -/
theorem Accounted.clear_of_no_answer (h : Accounted eng) {inp : StartIn}
    (hactiveH : findReasmHandle eng inp.e2eContextId inp.transferHandle = none)
    (hactiveT : findReasmTid eng inp.e2eContextId inp.transferId = none)
    (hanswer : tombAnswer (findTombHandle eng inp.e2eContextId inp.transferHandle)
      (findTombTid eng inp.e2eContextId inp.transferId) inp = none) :
    findTombHandle eng inp.e2eContextId inp.transferHandle = none ∧
      findTombTid eng inp.e2eContextId inp.transferId = none := by
  rw [← Option.or_eq_none_iff]
  cases hor : (findTombHandle eng inp.e2eContextId inp.transferHandle).or
      (findTombTid eng inp.e2eContextId inp.transferId) with
  | none => rfl
  | some r =>
    obtain ⟨j, T⟩ := r
    exfalso
    have hT : eng.tombs j = some T ∧ T.e2eContextId = inp.e2eContextId ∧
        (T.transferHandle = inp.transferHandle ∨ T.transferId = inp.transferId) := by
      rcases Option.or_eq_some_iff.1 hor with hth | ⟨-, htt⟩
      · obtain ⟨hj, hctx, hh⟩ := findTombHandle_some hth
        exact ⟨hj, hctx, .inl hh⟩
      · obtain ⟨hj, hctx, ht⟩ := findTombTid_some htt
        exact ⟨hj, hctx, .inr ht⟩
    obtain ⟨hj, hctx, hsame⟩ := hT
    have hres : T.isReservation = true := by
      unfold tombAnswer at hanswer
      rw [hor] at hanswer
      dsimp only at hanswer
      by_contra hterm
      rw [Bool.not_eq_true] at hterm
      rw [if_pos hterm] at hanswer
      split_ifs at hanswer
    obtain ⟨i, hi⟩ := h.owned j _ (marks_eq_reserved.2 ⟨T, hj, hres, rfl⟩)
    obtain ⟨S, hS, hid⟩ := of_active hi
    have hSctx : S.e2eContextId = inp.e2eContextId :=
      (congrArg Identity.e2eContextId hid).trans hctx
    rcases hsame with hh | ht
    · exact findReasmHandle_none hactiveH hS
        ⟨hSctx, (congrArg Identity.transferHandle hid).trans hh⟩
    · exact findReasmTid_none hactiveT hS
        ⟨hSctx, (congrArg Identity.transferId hid).trans ht⟩

/-- A START that nothing answers opens its slot or fails and changes nothing. -/
theorem startFresh_cases {inp : StartIn}
    (hvalid : Valid inp.totalLen inp.firstChunk.length inp.fragCount)
    (hcontext : contextOk inp.e2eContextId = true) (hgeneration : inp.keyGeneration ≠ 0)
    (hhandle : handleOk inp.transferHandle = true)
    (hclear : findReasmHandle eng inp.e2eContextId inp.transferHandle = none ∧
      findReasmTid eng inp.e2eContextId inp.transferId = none ∧
      findTombHandle eng inp.e2eContextId inp.transferHandle = none ∧
      findTombTid eng inp.e2eContextId inp.transferId = none) :
    (Unchanged eng (startFresh eng inp).2.1 ∧ (startFresh eng inp).1 ≠ .ok) ∨
      ((startFresh eng inp).1 = .ok ∧ ∃ i j, Opens inp eng (startFresh eng inp).2.1 i j) := by
  unfold startFresh
  cases hres : tombReserve eng with
  | none => exact .inl ⟨.refl eng, by simp⟩
  | some j =>
    have hj : eng.tombs j = none := firstFree_eq_some hres
    dsimp only
    rw [dropped_eq hj]
    by_cases hbudget : eng.payloadBytesInUse + inp.totalLen > P.payloadBudget
    · rw [if_pos hbudget]
      exact .inl ⟨.refl eng, by simp⟩
    rw [if_neg hbudget]
    by_cases hpeer : peerCount eng inp.e2eContextId ≥ P.maxPerPeer
    · rw [if_pos hpeer]
      exact .inl ⟨.refl eng, by simp⟩
    rw [if_neg hpeer]
    cases hfree : firstFree eng.reasm with
    | none => exact .inl ⟨.refl eng, by simp⟩
    | some i =>
      dsimp only
      split
      · rename_i absDl idleDl due habs hidle hdue
        have hle : idleDl ≤ absDl := by
          obtain ⟨-, ha⟩ := checkedAddU64_eq_some.1 habs
          obtain ⟨-, hb⟩ := checkedAddU64_eq_some.1 hidle
          rw [UInt64.le_iff_toNat_le, ha, hb]
          exact Nat.add_le_add_left (by decide) _
        refine .inr ⟨rfl, i, j, firstFree_eq_some hfree, hj, hvalid, hcontext, hgeneration, hhandle,
          hclear, by omega, ⟨absDl, idleDl, due, hle, rfl⟩, rfl, rfl, rfl, rfl, rfl, rfl⟩
      · exact .inl ⟨.fence eng, by simp⟩

/-- **START** opens a slot or changes nothing. -/
theorem admitStart_cases (h : Accounted eng) (inp : StartIn) :
    (Unchanged eng (admitStart eng inp).2.1 ∧ (admitStart eng inp).1 ≠ .ok) ∨
      ((admitStart eng inp).1 = .ok ∧ ∃ i j, Opens inp eng (admitStart eng inp).2.1 i j) := by
  unfold admitStart
  by_cases hfenced : eng.fenced = true
  · rw [if_pos hfenced]
    exact .inl ⟨.refl eng, by simp⟩
  rw [if_neg hfenced]
  by_cases hclass : contextOk inp.e2eContextId = false ∨ inp.keyGeneration = 0
      ∨ handleOk inp.transferHandle = false
  · rw [if_pos hclass]
    exact .inl ⟨.refl eng, by simp⟩
  rw [if_neg hclass]
  dsimp only
  by_cases hplan : planValidate inp.totalLen inp.firstChunk.length inp.fragCount
      inp.continuationUnit ≠ .ok
  · rw [if_pos hplan]
    exact .inl ⟨.refl eng, hplan⟩
  rw [if_neg hplan]
  have hvalid := (planValidate_eq_ok.1 (not_not.1 hplan)).2
  simp only [not_or, Bool.not_eq_false] at hclass
  split
  · split_ifs
    · exact .inl ⟨.refl eng, by simp⟩
    · exact .inl ⟨.refl eng, by simp⟩
    · exact .inl ⟨.refl eng, by simp⟩
    · exact .inl ⟨.refl eng, by simp⟩
  · rename_i hactive
    obtain ⟨hactiveH, hactiveT⟩ := Option.or_eq_none_iff.1 hactive
    split
    · rename_i st intent hanswer
      refine .inl ⟨.refl eng, ?_⟩
      unfold tombAnswer at hanswer
      split at hanswer
      · cases hanswer
      · split_ifs at hanswer
        all_goals cases hanswer
        all_goals simp
    · rename_i hanswer
      obtain ⟨htombH, htombT⟩ := h.clear_of_no_answer hactiveH hactiveT hanswer
      exact startFresh_cases hvalid hclass.1 hclass.2.1 hclass.2.2
        ⟨hactiveH, hactiveT, htombH, htombT⟩

theorem admitStart_effect (h : Accounted eng) (inp : StartIn) :
    Acts (.start inp) eng (admitStart eng inp).1 (admitStart eng inp).2.1 := by
  rcases admitStart_cases h inp with ⟨hsame, -⟩ | ⟨hok, i, j, hopen⟩
  · exact .same hsame
  · exact ⟨.opens inp i j rfl hopen, .inr (.inl (.inl hok))⟩

/-! ### CONT -/

/-- The slot after a chunk is stored, whatever else is noted in it. -/
theorem stores_storedSlot {inp : ContIn} (hfresh : S.chunkSeen inp.fragIndex = false)
    (hplace : contGeometry S.totalLen S.firstChunkLen S.fragCount inp.fragIndex =
      .ok (chunkOffset S.firstChunkLen inp.fragIndex, inp.chunk.length)) {newIdle : UInt64}
    (hidle : newIdle ≤ S.receiverAbsoluteDeadline)
    (hcore : SameCore (storedSlot S inp.fragIndex (chunkOffset S.firstChunkLen inp.fragIndex)
      inp.chunk (S.bitmap ||| (1#16 <<< inp.fragIndex)) newIdle) S') : Stores inp S S' where
  identity := hcore.identity
  totalLen := hcore.totalLen
  firstChunkLen := hcore.firstChunkLen
  contentDigest := hcore.contentDigest
  fresh := hfresh
  place := hplace
  bitmap := hcore.bitmap
  payload := hcore.payload
  chunkSeen := hcore.chunkSeen
  chunkLen := hcore.chunkLen
  idle := by
    rw [hcore.idle, hcore.absolute]
    exact hidle
  absolute := hcore.absolute

/-- A deadline is capped by the absolute one. -/
theorem capped_le (a b : UInt64) : (if a > b then b else a) ≤ b := by
  split_ifs with h
  · exact UInt64.le_refl b
  · exact UInt64.not_lt.1 h

theorem contNew_effect (h : Accounted eng) (hi : eng.reasm i = some S) (hopen : eng.fenced = false)
    {inp : ContIn} (hfresh : S.chunkSeen inp.fragIndex = false)
    (hplace : contGeometry S.totalLen S.firstChunkLen S.fragCount inp.fragIndex =
      .ok (chunkOffset S.firstChunkLen inp.fragIndex, inp.chunk.length)) :
    Acts (.cont inp) eng
      (contNew eng i S inp (chunkOffset S.firstChunkLen inp.fragIndex)).1
      (contNew eng i S inp (chunkOffset S.firstChunkLen inp.fragIndex)).2.1 := by
  have hfence : Acts (.cont inp) eng .fenced eng.fence := .same (.fence eng)
  have hwrite : ∀ (newIdle : UInt64) (S' : Slot), newIdle ≤ S.receiverAbsoluteDeadline →
      SameCore (storedSlot S inp.fragIndex (chunkOffset S.firstChunkLen inp.fragIndex) inp.chunk
        (S.bitmap ||| (1#16 <<< inp.fragIndex)) newIdle) S' → Writes (.cont inp) S S' :=
    fun newIdle S' hidle hcore => .inr ⟨inp, rfl, stores_storedSlot hfresh hplace hidle hcore⟩
  unfold contNew
  dsimp only
  cases hidle : checkedAddU64 eng.nowMono idleTimeoutMs with
  | none => exact hfence
  | some idle =>
    dsimp only
    have hcap := capped_le idle S.receiverAbsoluteDeadline
    generalize (if idle > S.receiverAbsoluteDeadline then S.receiverAbsoluteDeadline else idle) =
      newIdle at hcap ⊢
    by_cases hfull : S.bitmap ||| (1#16 <<< inp.fragIndex) = fullBitmap S.fragCount
    · rw [if_pos hfull]
      cases hdigest : inp.reassembledDigest32 with
      | none =>
        exact ⟨.writes i S _ hi (hwrite newIdle _ hcap (sameCore_needDigest _ true)) rfl rfl rfl,
          .inr (.inl (.inr (.inr (.inr (.inl rfl)))))⟩
      | some d =>
        dsimp only
        obtain ⟨heff, hfail⟩ := tryComplete_effect h hi
          (hwrite newIdle _ hcap (sameCore_needDigest _ false)) (.inl ⟨inp, rfl⟩) (.inl hopen) d
        refine ⟨heff, .inr ?_⟩
        rcases hfail with hok | hex | ⟨-, hf, -⟩
        · exact .inl hok
        · exact .inr hex
        · rw [hopen] at hf
          cases hf
    · rw [if_neg hfull]
      cases hdue : checkedAddU64 eng.nowMono partialAckIdleMs with
      | none => exact hfence
      | some due =>
        dsimp only
        refine ⟨.writes i S _ hi (hwrite newIdle _ hcap ?_) rfl rfl rfl, .inr (.inl (.inl rfl))⟩
        split_ifs
        all_goals exact ⟨rfl, rfl, rfl, rfl, rfl, rfl, rfl, rfl, rfl, rfl⟩

theorem contSeen_effect (h : Accounted eng) (hi : eng.reasm i = some S) (hopen : eng.fenced = false)
    (inp : ContIn) (offset : ℕ) :
    Acts (.cont inp) eng (contSeen eng i S inp offset).1 (contSeen eng i S inp offset).2.1 := by
  unfold contSeen
  by_cases hsame : S.chunkLen inp.fragIndex = inp.chunk.length
      ∧ slice S.payload offset inp.chunk.length = inp.chunk
  · rw [if_pos hsame]
    cases hdigest : inp.reassembledDigest32 with
    | none =>
      dsimp only
      split_ifs
      · exact .same (.refl eng)
      · exact .same (.refl eng)
    | some d =>
      dsimp only
      by_cases hneed : S.needDigest = true ∧ S.bitmap = fullBitmap S.fragCount
      · rw [if_pos hneed]
        have hw : Writes (.cont inp) S { S with needDigest := false } :=
          .inl (sameCore_needDigest S false)
        obtain ⟨heff, hfail⟩ := tryComplete_effect h hi hw (.inl ⟨inp, rfl⟩) (.inl hopen) d
        refine ⟨heff, .inr ?_⟩
        rcases hfail with hok | hex | ⟨-, hf, -⟩
        · exact .inl hok
        · exact .inr hex
        · rw [hopen] at hf
          cases hf
      · rw [if_neg hneed]
        exact .same (.refl eng)
  · rw [if_neg hsame]
    obtain ⟨j, hj, hmark⟩ := h.endSlot hi
    cases hexp : checkedAddU64 eng.nowMono tombstoneTtlMs with
    | none => exact .same (.fence eng)
    | some expiry =>
      dsimp only
      rw [hj]
      exact ⟨.ends i j S _ (terminate_ends hi hmark rfl rfl rfl rfl rfl),
        .inr (.inr (.inl rfl))⟩

/-- **CONT** writes a slot, ends its transfer, or changes nothing. -/
theorem admitCont_effect (h : Accounted eng) (inp : ContIn) :
    Acts (.cont inp) eng (admitCont eng inp).1 (admitCont eng inp).2.1 := by
  unfold admitCont
  by_cases hfenced : eng.fenced = true
  · rw [if_pos hfenced]
    exact .same (.refl eng)
  rw [if_neg hfenced]
  split
  · exact .same (.refl eng)
  split
  · split
    · split_ifs
      all_goals exact .same (.refl eng)
    · exact .same (.refl eng)
  · rename_i i S hfind
    have hi := (findReasmHandle_some hfind).1
    have hopen : eng.fenced = false := by simpa using hfenced
    by_cases hgen : S.keyGeneration ≠ inp.keyGeneration
    · rw [if_pos hgen]
      exact .same (.refl eng)
    rw [if_neg hgen]
    cases hplace : contGeometry S.totalLen S.firstChunkLen S.fragCount inp.fragIndex with
    | error st => exact .same (.refl eng)
    | ok place =>
      obtain ⟨-, -, -, rfl⟩ := contGeometry_ok_iff.1 hplace
      dsimp only
      by_cases hlen : inp.chunk.length ≠ chunkLength S.totalLen S.firstChunkLen inp.fragIndex
      · rw [if_pos hlen]
        exact .same (.refl eng)
      rw [if_neg hlen]
      cases hseen : S.chunkSeen inp.fragIndex with
      | true => exact contSeen_effect h hi hopen inp _
      | false =>
        rw [← not_not.1 hlen] at hplace
        exact contNew_effect h hi hopen hseen hplace

/-! ### Digest and publication -/

/-- **finalize** on an engine that is not fenced; on a fenced one it may also fail with `FENCED`. -/
theorem finalize_effect (h : Accounted eng) (ctx : UInt32) (handle : UInt64) (d : Digest) :
    Effect (.finalize ctx handle d) eng (finalize eng ctx handle d).2.1 ∧
      (Unchanged eng (finalize eng ctx handle d).2.1 ∨ (finalize eng ctx handle d).1.Success ∨
        Excused (.finalize ctx handle d) eng (finalize eng ctx handle d).1
          (finalize eng ctx handle d).2.1 ∨
        (finalize eng ctx handle d).1 = .fenced ∧ eng.fenced = true) := by
  unfold finalize
  cases hfind : findReasmHandle eng ctx handle with
  | none => exact ⟨(Unchanged.refl eng).effect, .inl (.refl eng)⟩
  | some r =>
    obtain ⟨i, S⟩ := r
    have hi := (findReasmHandle_some hfind).1
    dsimp only
    by_cases hfull : S.bitmap ≠ fullBitmap S.fragCount
    · rw [if_pos hfull]
      exact ⟨(Unchanged.refl eng).effect, .inl (.refl eng)⟩
    · rw [if_neg hfull]
      have hw : Writes (.finalize ctx handle d) S { S with needDigest := false } :=
        .inl (sameCore_needDigest S false)
      obtain ⟨heff, hfail⟩ := tryComplete_effect h hi hw (.inr ⟨ctx, handle, d, rfl⟩)
        (.inr ⟨ctx, handle, d, rfl⟩) d
      refine ⟨heff, .inr ?_⟩
      rcases hfail with hok | hex | ⟨hst, hf, -⟩
      · exact .inl hok
      · exact .inr (.inl hex)
      · exact .inr (.inr ⟨hst, hf⟩)

theorem takePublication_effect (eng : Engine P) (outCapacity : ℕ) :
    Acts (.takePublication outCapacity) eng (takePublication eng outCapacity).1
      (takePublication eng outCapacity).2.1 := by
  unfold takePublication
  cases eng.pub with
  | none => exact .same (.refl eng)
  | some p =>
    dsimp only
    split_ifs
    · exact .same (.refl eng)
    · exact ⟨.same rfl rfl rfl, .inr (.inl (.inr (.inr (.inr (.inr rfl)))))⟩

/-! ### Time -/

/-- The first loop of a tick drops terminal tombstones whose time has come. -/
theorem expireTombs_expires (eng : Engine P) (now : UInt64) :
    Expires eng.marks (expireTombs eng now).marks := by
  intro j
  have htomb : (expireTombs eng now).tombs j = (eng.tombs j).filter fun T => !T.expired now := rfl
  cases hj : eng.tombs j with
  | none =>
    left
    rw [marks_eq_free.2 hj, marks_eq_free]
    rw [htomb, hj]
    rfl
  | some T =>
    rw [hj] at htomb
    cases hexp : T.expired now with
    | false =>
      left
      rw [Option.filter_some, hexp] at htomb
      unfold Engine.marks
      rw [htomb, hj]
      rfl
    | true =>
      right
      rw [Option.filter_some, hexp] at htomb
      have hterm : T.isReservation = false := by
        unfold Tombstone.expired at hexp
        simp only [Bool.and_eq_true, Bool.not_eq_true'] at hexp
        exact hexp.1.1
      exact ⟨marks_eq_free.2 htomb, T.identity j.val, _,
        marks_eq_ended.2 ⟨T, hj, hterm, rfl, rfl⟩⟩

/-- What a run of ended transfers keeps. -/
structure EndedFrom (eng eng' : Engine P) : Prop where
  accounted : Accounted eng'
  evolves : Evolves eng eng'
  budgeted : Budgeted eng → Budgeted eng'
  slots : ∀ i, eng'.reasm i = eng.reasm i ∨ eng'.reasm i = none

/-- The second loop of a tick ends transfers; it fails only by raising the fence. -/
theorem timeoutSlots_ends (now : UInt64) (slots : List (Fin P.reasmSlots)) :
    ∀ {eng : Engine P}, Accounted eng → EndedFrom eng (timeoutSlots now slots eng).2 ∧
      ((timeoutSlots now slots eng).1 = .ok ∨ (timeoutSlots now slots eng).1 = .fenced ∧
        (timeoutSlots now slots eng).2.fenced = true) := by
  induction slots with
  | nil => exact fun {eng} h => ⟨⟨h, .refl, id, fun i => .inl rfl⟩, .inl rfl⟩
  | cons i rest ih =>
    intro eng h
    unfold timeoutSlots
    cases hi : eng.reasm i with
    | none => exact ih h
    | some S =>
      dsimp only
      by_cases hearly : now < S.idleDeadline ∧ now < S.receiverAbsoluteDeadline
      · rw [if_pos hearly]
        exact ih h
      rw [if_neg hearly]
      cases hexp : checkedAddU64 now tombstoneTtlMs with
      | none => exact ⟨⟨h, evolves_same rfl rfl, fun hb => ⟨hb.sum, hb.budget⟩, fun i => .inl rfl⟩,
          .inr ⟨rfl, rfl⟩⟩
      | some expiry =>
        obtain ⟨j, hj, hmark⟩ := h.endSlot hi
        dsimp only
        rw [hj]
        have hend : Ends eng (terminate eng i S j statusAbort reasonTimeout expiry) i j S
            (terminalTomb S statusAbort reasonTimeout expiry) :=
          terminate_ends hi hmark rfl rfl rfl rfl rfl
        obtain ⟨hrest, hst⟩ := ih (h.changes Clash.refl hend.evolves)
        refine ⟨⟨hrest.accounted, hend.evolves.trans hrest.evolves,
          fun hb => hrest.budgeted (hend.budgeted hb), fun x => ?_⟩, hst⟩
        rcases hrest.slots x with hx | hx
        · by_cases hxi : x = i
          · right
            rw [hx, hend.reasm, hxi, Function.update_self]
          · left
            rw [hx, hend.reasm, Function.update_of_ne hxi]
        · exact .inr hx

/-- **A tick** drops terminal tombstones and ends transfers. -/
theorem tick_effect (h : Accounted eng) (now : UInt64) :
    Accounted (tick eng now).2 ∧ (Budgeted eng → Budgeted (tick eng now).2) ∧
      (∀ i, (tick eng now).2.reasm i = eng.reasm i ∨ (tick eng now).2.reasm i = none) ∧
      ((tick eng now).1 = .ok ∨ (tick eng now).1 = .fenced ∧ (tick eng now).2.fenced = true) := by
  have hmid : Accounted (expireTombs (setNow eng now) now) := by
    have hnow : Accounted (setNow eng now) := h
    exact hnow.expires (expireTombs_expires _ now)
  obtain ⟨hend, hst⟩ := timeoutSlots_ends now (List.finRange P.reasmSlots) hmid
  exact ⟨hend.accounted, fun hb => hend.budgeted ⟨hb.sum, hb.budget⟩, hend.slots, hst⟩

end Ninlil.FragState
