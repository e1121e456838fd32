import Ninlil.FragState.Effects

/-!
# The state engine over whole runs

Every sequence of calls with a clock that never goes back.

* `Trace`: the engine, and for each slot the chunks that were admitted to it;
* `SlotOk`, `Stored`: a slot in order, and its payload holding the admitted chunks;
* `Consistent`: the invariant of the engine;
* `state_engine_consistent`: it holds in every run, and a call that fails leaves everything as it
  was, unless it is excused or runs into the fence again.
-/

namespace Ninlil.FragState

open Bytes R7Frag Reservations Tables
open Function (update_of_ne update_self)

variable {P : Profile} {eng eng' : Engine P} {S S' : Slot} {i : Fin P.reasmSlots} {op : Op}

/-! ### Calls and runs -/

/-- A call: its status and the engine it leaves. -/
def Op.apply (eng : Engine P) : Op → Status × Engine P
  | .start inp => ((admitStart eng inp).1, (admitStart eng inp).2.1)
  | .cont inp => ((admitCont eng inp).1, (admitCont eng inp).2.1)
  | .finalize ctx handle digest =>
    ((FragState.finalize eng ctx handle digest).1, (FragState.finalize eng ctx handle digest).2.1)
  | .tick now => FragState.tick eng now
  | .setNow now => (.ok, FragState.setNow eng now)
  | .takePublication outCapacity =>
    ((FragState.takePublication eng outCapacity).1, (FragState.takePublication eng outCapacity).2.1)

/-- The chunk that a call brings. -/
def Op.chunk : Op → Option (List UInt8)
  | .start inp => some inp.firstChunk
  | .cont inp => some inp.chunk
  | _ => none

/-- The clock does not go back. -/
def Op.Monotone (eng : Engine P) (op : Op) : Prop :=
  ∀ now, op = .tick now ∨ op = .setNow now → eng.nowMono ≤ now

/-- Slot `i` has seen the chunk `k`. -/
def seen (eng : Engine P) (i : Fin P.reasmSlots) (k : ℕ) : Bool :=
  (eng.reasm i).any fun S => S.chunkSeen k

/-- An engine with the chunks that were admitted to its slots. -/
structure Trace (P : Profile) where
  eng : Engine P
  admitted : Fin P.reasmSlots → ℕ → Option (List UInt8)

/-- The trace after a call.  A chunk is admitted by the call after which it is seen. -/
def Trace.next (t : Trace P) (op : Op) : Trace P where
  eng := (op.apply t.eng).2
  admitted := fun i k =>
    if seen (op.apply t.eng).2 i k then if seen t.eng i k then t.admitted i k else op.chunk
    else none

/-- The runs from a fresh engine. -/
def Run (t : Trace P) : Prop :=
  Relation.ReflTransGen (fun t t' => ∃ op : Op, op.Monotone t.eng ∧ t' = t.next op)
    ⟨.init P, fun _ _ => none⟩ t

/-! ### One slot -/

/-- The place of a chunk of a slot. -/
def Slot.place (S : Slot) (k : ℕ) : Except Status (ℕ × ℕ) :=
  if k = 0 then .ok (0, S.firstChunkLen)
  else contGeometry S.totalLen S.firstChunkLen S.fragCount k

/-- A slot in order. -/
structure SlotOk (S : Slot) : Prop where
  valid : Valid S.totalLen S.firstChunkLen S.fragCount
  payload : S.payload.length = totalLenMax
  bits : ∀ k, S.bitmap.getLsbD k = S.chunkSeen k
  inRange : ∀ k, S.chunkSeen k = true → k < S.fragCount
  lengths : ∀ k, S.chunkSeen k = true →
    S.chunkLen k = chunkLength S.totalLen S.firstChunkLen k
  idle : S.idleDeadline ≤ S.receiverAbsoluteDeadline

/-- The payload of a slot holds the chunks `content`. -/
def Stored (S : Slot) (content : ℕ → Option (List UInt8)) : Prop :=
  ∀ k, S.chunkSeen k = true → ∃ c, content k = some c ∧
    c.length = chunkLength S.totalLen S.firstChunkLen k ∧
    slice S.payload (chunkOffset S.firstChunkLen k) c.length = c

theorem SlotOk.place (h : SlotOk S) {k : ℕ} (hk : k < S.fragCount) :
    S.place k = .ok (chunkOffset S.firstChunkLen k, chunkLength S.totalLen S.firstChunkLen k) := by
  unfold Slot.place
  by_cases hzero : k = 0
  · simp [hzero, chunkOffset, chunkLength]
  · rw [if_neg hzero]
    exact contGeometry_eq_ok h.valid (by omega) hk

/-- Bookkeeping leaves a slot in order. -/
theorem SlotOk.sameCore (h : SlotOk S) (hcore : SameCore S S') : SlotOk S' := by
  have hcount : S'.fragCount = S.fragCount := congrArg Identity.fragCount hcore.identity
  constructor
  · rw [hcore.totalLen, hcore.firstChunkLen, hcount]
    exact h.valid
  · rw [hcore.payload]
    exact h.payload
  · rw [hcore.bitmap, hcore.chunkSeen]
    exact h.bits
  · rw [hcore.chunkSeen, hcount]
    exact h.inRange
  · rw [hcore.chunkSeen, hcore.chunkLen, hcore.totalLen, hcore.firstChunkLen]
    exact h.lengths
  · rw [hcore.idle, hcore.absolute]
    exact h.idle

theorem Stored.sameCore {content : ℕ → Option (List UInt8)} (h : Stored S content)
    (hcore : SameCore S S') : Stored S' content := by
  intro k hk
  rw [hcore.chunkSeen] at hk
  rw [hcore.totalLen, hcore.firstChunkLen, hcore.payload]
  exact h k hk

/-- One more bit of a bitmap. -/
theorem getLsbD_or_one (b : BitVec 16) {n : ℕ} (hn : n < 16) (k : ℕ) :
    (b ||| (1#16 <<< n)).getLsbD k = (decide (k = n) || b.getLsbD k) := by
  by_cases hk : k = n
  · subst hk
    simp [hn]
  · have hshift : (1#16 <<< n).getLsbD k = false := by
      rw [BitVec.getLsbD_shiftLeft]
      by_cases hlt : k < n
      · simp [hlt]
      · have hpos : ¬ k - n = 0 := by omega
        simp [BitVec.getLsbD_one, hpos]
    rw [BitVec.getLsbD_or, hshift]
    simp [hk]

/-- A stored chunk leaves a slot in order. -/
theorem SlotOk.stores (h : SlotOk S) {inp : ContIn} (hst : Stores inp S S') : SlotOk S' := by
  have hcount : S'.fragCount = S.fragCount := congrArg Identity.fragCount hst.identity
  obtain ⟨-, -, hlt, hplace⟩ := contGeometry_ok_iff.1 hst.place
  have hlen : inp.chunk.length = chunkLength S.totalLen S.firstChunkLen inp.fragIndex :=
    congrArg Prod.snd hplace
  have hmax := h.valid.countMax
  constructor
  · rw [hst.totalLen, hst.firstChunkLen, hcount]
    exact h.valid
  · rw [hst.payload, length_store]
    exact h.payload
  · intro k
    rw [hst.bitmap, hst.chunkSeen, getLsbD_or_one S.bitmap (by omega), h.bits]
    by_cases hk : k = inp.fragIndex
    · simp [hk]
    · simp [hk]
  · intro k hk
    rw [hcount]
    rw [hst.chunkSeen] at hk
    by_cases hki : k = inp.fragIndex
    · rw [hki]
      exact hlt
    · rw [update_of_ne hki] at hk
      exact h.inRange k hk
  · intro k hk
    rw [hst.chunkSeen] at hk
    rw [hst.chunkLen, hst.totalLen, hst.firstChunkLen]
    by_cases hki : k = inp.fragIndex
    · rw [hki, update_self, hlen]
    · rw [update_of_ne hki] at hk
      rw [update_of_ne hki]
      exact h.lengths k hk
  · exact hst.idle

/-- The payload then holds one more chunk. -/
theorem Stored.stores {content content' : ℕ → Option (List UInt8)} (h : Stored S content)
    (hok : SlotOk S) {inp : ContIn} (hst : Stores inp S S')
    (hself : content' inp.fragIndex = some inp.chunk)
    (hother : ∀ k, k ≠ inp.fragIndex → S.chunkSeen k = true → content' k = content k) :
    Stored S' content' := by
  obtain ⟨hvalid, -, hlt, hplace⟩ := contGeometry_ok_iff.1 hst.place
  have hlen : inp.chunk.length = chunkLength S.totalLen S.firstChunkLen inp.fragIndex :=
    congrArg Prod.snd hplace
  have hinside := hvalid.chunk_inside hlt
  have htotal := hvalid.totalMax
  have hpay : S.payload.length = 2048 := hok.payload
  intro k hk
  rw [hst.totalLen, hst.firstChunkLen, hst.payload]
  by_cases hki : k = inp.fragIndex
  · subst hki
    refine ⟨inp.chunk, hself, hlen, slice_store_self rfl ?_⟩
    omega
  · rw [hst.chunkSeen, update_of_ne hki] at hk
    obtain ⟨c, hc, hclen, hslice⟩ := h k hk
    refine ⟨c, (hother k hki hk).trans hc, hclen, ?_⟩
    rw [slice_store_of_disjoint, hslice]
    rcases Nat.lt_or_gt_of_ne hki with hkl | hkl
    · left
      rw [hclen]
      exact chunk_disjoint hkl
    · right
      rw [hlen]
      exact chunk_disjoint hkl

/-- A slot that was just opened is in order. -/
theorem slotOk_openedSlot {inp : StartIn} {absDl idleDl due : UInt64} {slot : ℕ}
    (hvalid : Valid inp.totalLen inp.firstChunk.length inp.fragCount) (hidle : idleDl ≤ absDl) :
    SlotOk (openedSlot inp absDl idleDl due slot) := by
  have hmin := hvalid.countMin
  have hseen : ∀ k, (openedSlot inp absDl idleDl due slot).chunkSeen k = true → k = 0 := by
    intro k hk
    by_contra hzero
    simp [openedSlot, hzero] at hk
  constructor
  · exact hvalid
  · simp [openedSlot]
  · intro k
    by_cases hk : k = 0
    · simp [openedSlot, hk]
    · simp [openedSlot, hk]
  · intro k hk
    rw [hseen k hk]
    exact Nat.lt_of_lt_of_le Nat.zero_lt_two hmin
  · intro k hk
    rw [hseen k hk]
    simp [openedSlot, chunkLength]
  · exact hidle

/-- Its payload holds the first chunk. -/
theorem stored_openedSlot {inp : StartIn} {absDl idleDl due : UInt64} {slot : ℕ}
    (hvalid : Valid inp.totalLen inp.firstChunk.length inp.fragCount)
    {content : ℕ → Option (List UInt8)} (hzero : content 0 = some inp.firstChunk) :
    Stored (openedSlot inp absDl idleDl due slot) content := by
  have hmax := hvalid.firstMax
  intro k hk
  have hk0 : k = 0 := by
    by_contra hne
    simp [openedSlot, hne] at hk
  subst hk0
  refine ⟨inp.firstChunk, hzero, by simp [openedSlot, chunkLength], ?_⟩
  have hpay : (openedSlot inp absDl idleDl due slot).payload =
      store (List.replicate totalLenMax 0) 0 inp.firstChunk := by simp only [openedSlot]
  have hoff : ∀ n, chunkOffset n 0 = 0 := fun n => by simp [chunkOffset]
  rw [hpay, hoff]
  refine slice_store_self rfl ?_
  rw [List.length_replicate, totalLenMax]
  omega

/-! ### One call -/

/-- All that a call can do to one slot. -/
inductive SlotStep (op : Op) : Option Slot → Option Slot → Prop
  | stays (s : Option Slot) : SlotStep op s s
  | freed (s : Option Slot) : SlotStep op s none
  | written (S S' : Slot) (h : Writes op S S') : SlotStep op (some S) (some S')
  | opened (inp : StartIn) (absDl idleDl due : UInt64) (slot : ℕ) (hop : op = .start inp)
      (hvalid : Valid inp.totalLen inp.firstChunk.length inp.fragCount) (hidle : idleDl ≤ absDl) :
      SlotStep op none (some (openedSlot inp absDl idleDl due slot))

/-- An effect on the tables, seen from one slot. -/
theorem Effect.slotStep (h : Effect op eng eng') (x : Fin P.reasmSlots) :
    SlotStep op (eng.reasm x) (eng'.reasm x) := by
  cases h with
  | same hreasm htombs hbytes =>
    rw [hreasm]
    exact .stays _
  | opens inp i j hop h =>
    obtain ⟨absDl, idleDl, due, hle, hreasm⟩ := h.slot
    rw [hreasm]
    by_cases hx : x = i
    · subst hx
      rw [update_self, h.slotFree]
      exact .opened inp absDl idleDl due j.val hop h.valid hle
    · rw [update_of_ne hx]
      exact .stays _
  | writes i S S' hi hw hreasm htombs hbytes =>
    rw [hreasm]
    by_cases hx : x = i
    · subst hx
      rw [update_self, hi]
      exact .written S S' hw
    · rw [update_of_ne hx]
      exact .stays _
  | ends i j S T h =>
    rw [h.reasm]
    by_cases hx : x = i
    · rw [hx, update_self]
      exact .freed _
    · rw [update_of_ne hx]
      exact .stays _

/-- What a call keeps, what it does to each slot, and how it fails. -/
structure Steps (op : Op) (eng : Engine P) : Prop where
  accounted : Accounted (op.apply eng).2
  budgeted : Budgeted eng → Budgeted (op.apply eng).2
  slots : ∀ x, SlotStep op (eng.reasm x) ((op.apply eng).2.reasm x)
  failure : Unchanged eng (op.apply eng).2 ∨ (op.apply eng).1.Success ∨
    Excused op eng (op.apply eng).1 (op.apply eng).2 ∨
    (op.apply eng).1 = .fenced ∧ eng.fenced = true ∧
      ((∃ now, op = .tick now) ∨ ∃ ctx handle digest, op = .finalize ctx handle digest)

theorem Effect.steps (h : Accounted eng) (heff : Effect op eng (op.apply eng).2)
    (hfail : Unchanged eng (op.apply eng).2 ∨ (op.apply eng).1.Success ∨
      Excused op eng (op.apply eng).1 (op.apply eng).2 ∨
      (op.apply eng).1 = .fenced ∧ eng.fenced = true ∧
        ((∃ now, op = .tick now) ∨ ∃ ctx handle digest, op = .finalize ctx handle digest)) :
    Steps op eng :=
  ⟨h.effect heff, fun hb => hb.effect heff, heff.slotStep, hfail⟩

theorem Acts.steps (h : Accounted eng) (hacts : Acts op eng (op.apply eng).1 (op.apply eng).2) :
    Steps op eng := by
  refine Effect.steps h hacts.effect ?_
  rcases hacts.failure with hsame | hok | hex
  · exact .inl hsame
  · exact .inr (.inl hok)
  · exact .inr (.inr (.inl hex))

/-- **One call**, whatever it is. -/
theorem Op.steps (h : Accounted eng) (op : Op) : Steps op eng := by
  cases op with
  | start inp => exact Acts.steps h (admitStart_effect h inp)
  | cont inp => exact Acts.steps h (admitCont_effect h inp)
  | finalize ctx handle digest =>
    obtain ⟨heff, hfail⟩ := finalize_effect h ctx handle digest
    refine Effect.steps h heff ?_
    rcases hfail with hsame | hok | hex | ⟨hst, hf⟩
    · exact .inl hsame
    · exact .inr (.inl hok)
    · exact .inr (.inr (.inl hex))
    · exact .inr (.inr (.inr ⟨hst, hf, .inr ⟨ctx, handle, digest, rfl⟩⟩))
  | tick now =>
    obtain ⟨hacc, hb, hslots, hst⟩ := tick_effect h now
    refine ⟨hacc, hb, fun x => ?_, ?_⟩
    · have hx : ((Op.tick now).apply eng).2.reasm x = (FragState.tick eng now).2.reasm x := rfl
      rcases hslots x with hs | hs
      · rw [hx, hs]
        exact .stays _
      · rw [hx, hs]
        exact .freed _
    · rcases hst with hok | ⟨hf, hraised⟩
      · exact .inr (.inl (.inl hok))
      · cases hfence : eng.fenced with
        | false => exact .inr (.inr (.inl (.inr (.inr (.inr ⟨hf, hfence, hraised⟩)))))
        | true => exact .inr (.inr (.inr ⟨hf, rfl, .inl ⟨now, rfl⟩⟩))
  | setNow now =>
    exact Effect.steps h (.same rfl rfl rfl) (.inr (.inl (.inl rfl)))
  | takePublication outCapacity => exact Acts.steps h (takePublication_effect eng outCapacity)

/-! ### Runs -/

/-- The invariant of the engine. -/
structure Consistent (t : Trace P) : Prop where
  slotHandle : ∀ i j S S', t.eng.reasm i = some S → t.eng.reasm j = some S' →
    S.e2eContextId = S'.e2eContextId → S.transferHandle = S'.transferHandle → i = j
  slotTid : ∀ i j S S', t.eng.reasm i = some S → t.eng.reasm j = some S' →
    S.e2eContextId = S'.e2eContextId → S.transferId = S'.transferId → i = j
  tombHandle : ∀ i j T T', t.eng.tombs i = some T → t.eng.tombs j = some T' →
    T.e2eContextId = T'.e2eContextId → T.transferHandle = T'.transferHandle → i = j
  tombTid : ∀ i j T T', t.eng.tombs i = some T → t.eng.tombs j = some T' →
    T.e2eContextId = T'.e2eContextId → T.transferId = T'.transferId → i = j
  reservationOwned : ∀ j T, t.eng.tombs j = some T → T.isReservation = true →
    ∃! i, ∃ S, t.eng.reasm i = some S ∧ S.tombReserveSlot = j.val ∧
      T.identity j.val = S.identity
  slotBacked : ∀ i S, t.eng.reasm i = some S →
    ∃! j, ∃ T, S.tombReserveSlot = Fin.val j ∧ t.eng.tombs j = some T ∧ T.isReservation = true ∧
      T.identity (Fin.val j) = S.identity
  bytes : t.eng.payloadBytesInUse = weight Slot.totalLen t.eng.reasm
  budget : t.eng.payloadBytesInUse ≤ P.payloadBudget
  bitmap : ∀ i S k, t.eng.reasm i = some S →
    (S.bitmap.getLsbD k = true ↔ S.chunkSeen k = true ∧ ∃ c offset, t.admitted i k = some c ∧
      S.place k = .ok (offset, c.length) ∧ slice S.payload offset c.length = c)
  idle : ∀ i S, t.eng.reasm i = some S → S.idleDeadline ≤ S.receiverAbsoluteDeadline

/-- What carries the invariant from call to call. -/
structure Inv (t : Trace P) : Prop where
  accounted : Accounted t.eng
  budgeted : Budgeted t.eng
  slots : ∀ i S, t.eng.reasm i = some S → SlotOk S ∧ Stored S (t.admitted i)

variable {t : Trace P}

theorem Inv.consistent (h : Inv t) : Consistent t where
  slotHandle := fun i j S S' hi hj hctx hh =>
    h.accounted.activeUnique i j _ _ (active_eq_some hi) (active_eq_some hj) ⟨hctx, .inl hh⟩
  slotTid := fun i j S S' hi hj hctx ht =>
    h.accounted.activeUnique i j _ _ (active_eq_some hi) (active_eq_some hj) ⟨hctx, .inr ht⟩
  tombHandle := fun i j T T' hi hj hctx hh =>
    h.accounted.markUnique i j _ _ (marks_id? hi) (marks_id? hj) ⟨hctx, .inl hh⟩
  tombTid := fun i j T T' hi hj hctx ht =>
    h.accounted.markUnique i j _ _ (marks_id? hi) (marks_id? hj) ⟨hctx, .inr ht⟩
  reservationOwned := by
    intro j T hj hres
    have hmark : t.eng.marks j = .reserved (T.identity j.val) :=
      marks_eq_reserved.2 ⟨T, hj, hres, rfl⟩
    obtain ⟨i, hi, hunique⟩ := h.accounted.owner_unique Clash.refl hmark
    obtain ⟨S, hS, hid⟩ := of_active hi
    refine ⟨i, ⟨S, hS, congrArg Identity.tombSlot hid, hid.symm⟩, ?_⟩
    rintro i' ⟨S', hS', -, hid'⟩
    refine hunique i' ?_
    dsimp only
    rw [active_eq_some hS', hid']
  slotBacked := by
    intro i S hi
    obtain ⟨j, hj, hunique⟩ := h.accounted.reserved_unique Clash.refl (active_eq_some hi)
    obtain ⟨T, hT, hres, hid⟩ := marks_eq_reserved.1 hj
    refine ⟨j, ⟨T, (congrArg Identity.tombSlot hid).symm, hT, hres, hid⟩, ?_⟩
    rintro j' ⟨T', -, hT', hres', hid'⟩
    exact hunique j' (marks_eq_reserved.2 ⟨T', hT', hres', hid'⟩)
  bytes := h.budgeted.sum
  budget := h.budgeted.budget
  bitmap := by
    intro i S k hi
    obtain ⟨hok, hstored⟩ := h.slots i S hi
    rw [hok.bits]
    constructor
    · intro hk
      obtain ⟨c, hc, hlen, hslice⟩ := hstored k hk
      refine ⟨hk, c, _, hc, ?_, hslice⟩
      rw [hlen]
      exact hok.place (hok.inRange k hk)
    · exact fun hk => hk.1
  idle := fun i S hi => (h.slots i S hi).1.idle

theorem inv_init : Inv (⟨.init P, fun _ _ => none⟩ : Trace P) where
  accounted := by
    have hactive : (Engine.init P).active = fun _ => none := rfl
    have hmarks : (Engine.init P).marks = fun _ => .free := rfl
    rw [Accounted, hactive, hmarks]
    exact balanced_empty
  budgeted := ⟨(weight_empty (w := Slot.totalLen)).symm, Nat.zero_le _⟩
  slots := by
    rintro i S ⟨⟩

/-- The admitted chunks of a slot that stays the same. -/
theorem next_admitted_of_seen {k : ℕ} (hold : seen t.eng i k = true)
    (hnew : seen (op.apply t.eng).2 i k = true) : (t.next op).admitted i k = t.admitted i k := by
  unfold Trace.next
  dsimp only
  rw [if_pos hnew, if_pos hold]

/-- The chunk that a call admits. -/
theorem next_admitted_new {k : ℕ} (hold : seen t.eng i k = false)
    (hnew : seen (op.apply t.eng).2 i k = true) : (t.next op).admitted i k = op.chunk := by
  unfold Trace.next
  dsimp only
  rw [if_pos hnew, if_neg (by simp [hold])]

theorem seen_eq (hi : eng.reasm i = some S) (k : ℕ) : seen eng i k = S.chunkSeen k := by
  rw [seen, hi]
  rfl

/-- **One call** keeps the invariant. -/
theorem Inv.next (h : Inv t) (op : Op) : Inv (t.next op) := by
  have hsteps := op.steps h.accounted
  refine ⟨hsteps.accounted, hsteps.budgeted h.budgeted, fun i S' hi => ?_⟩
  have hnew : (op.apply t.eng).2.reasm i = some S' := hi
  have hstep := hsteps.slots i
  rw [hnew] at hstep
  generalize hs : t.eng.reasm i = s at hstep
  cases hstep with
  | stays =>
    obtain ⟨hok, hstored⟩ := h.slots i S' hs
    refine ⟨hok, fun k hk => ?_⟩
    rw [next_admitted_of_seen (by rw [seen_eq hs, hk]) (by rw [seen_eq hnew, hk])]
    exact hstored k hk
  | written S _ hw =>
    obtain ⟨hok, hstored⟩ := h.slots i S hs
    rcases hw with hcore | ⟨inp, hop, hst⟩
    · refine ⟨hok.sameCore hcore, ?_⟩
      refine Stored.sameCore (fun k hk => ?_) hcore
      have hk' : S'.chunkSeen k = true := by rw [hcore.chunkSeen, hk]
      rw [next_admitted_of_seen (by rw [seen_eq hs, hk]) (by rw [seen_eq hnew, hk'])]
      exact hstored k hk
    · refine ⟨hok.stores hst, hstored.stores hok hst ?_ ?_⟩
      · have hself : S'.chunkSeen inp.fragIndex = true := by rw [hst.chunkSeen]; simp
        rw [next_admitted_new (by rw [seen_eq hs, hst.fresh]) (by rw [seen_eq hnew, hself]), hop]
        rfl
      · intro k hne hk
        have hk' : S'.chunkSeen k = true := by
          rw [hst.chunkSeen, update_of_ne hne, hk]
        exact next_admitted_of_seen (by rw [seen_eq hs, hk]) (by rw [seen_eq hnew, hk'])
  | opened inp absDl idleDl due slot hop hvalid hidle =>
    refine ⟨slotOk_openedSlot hvalid hidle, stored_openedSlot hvalid ?_⟩
    have hold : seen t.eng i 0 = false := by
      rw [seen, hs]
      rfl
    have hself : (openedSlot inp absDl idleDl due slot).chunkSeen 0 = true := by simp [openedSlot]
    rw [next_admitted_new hold (by rw [seen_eq hnew, hself]), hop]
    rfl

theorem Run.inv (hrun : Run t) : Inv t := by
  induction hrun with
  | refl => exact inv_init
  | tail _ hstep ih =>
    obtain ⟨op, -, rfl⟩ := hstep
    exact ih.next op

/-- **The state engine over every run.**  A call that fails changes no slot, no tombstone, no payload
account and no publication, unless it is excused, or is a tick or a finalisation that runs into the
fence of an engine that was fenced before. -/
theorem state_engine_consistent (hrun : Run t) :
    Consistent t ∧ ∀ op : Op, ¬ (op.apply t.eng).1.Success →
      ¬ Excused op t.eng (op.apply t.eng).1 (op.apply t.eng).2 →
      ¬ ((op.apply t.eng).1 = .fenced ∧ t.eng.fenced = true ∧
        ((∃ now, op = .tick now) ∨ ∃ ctx handle digest, op = .finalize ctx handle digest)) →
      Unchanged t.eng (op.apply t.eng).2 := by
  refine ⟨hrun.inv.consistent, fun op herr hexc hfence => ?_⟩
  rcases (op.steps hrun.inv.accounted).failure with hsame | hok | hex | hf
  · exact hsame
  · exact absurd hok herr
  · exact absurd hex hexc
  · exact absurd hf hfence

/-! ### A fenced engine -/

/-- A START for a transfer of two bytes. -/
def sampleStart (handle : UInt64) (transferId : UInt8) : StartIn where
  e2eContextId := 5
  keyGeneration := 1
  transferId := Vector.replicate 16 transferId
  transferHandle := handle
  totalLen := 2
  fragCount := 2
  continuationUnit := 180
  contentDigest := Vector.replicate 32 0
  fingerprint := Vector.replicate 32 transferId
  firstChunk := [97]

/-- Its last chunk, without a digest. -/
def sampleCont (handle : UInt64) : ContIn := ⟨5, 1, handle, 1, [98], none⟩

/-- A transfer that awaits its digest. -/
def awaiting : Trace controllerProfile :=
  (Trace.next ⟨.init _, fun _ _ => none⟩ (.start (sampleStart 7 1))).next (.cont (sampleCont 7))

/-- The clock at its end, and another START, which raises the fence. -/
def awaitingFenced : Trace controllerProfile :=
  (awaiting.next (.setNow u64Max)).next (.start (sampleStart 8 2))

theorem run_awaiting : Run awaiting := by
  refine .tail (.tail .refl ⟨.start (sampleStart 7 1), ?_, rfl⟩) ⟨.cont (sampleCont 7), ?_, rfl⟩
  · rintro now (⟨⟨⟩⟩ | ⟨⟨⟩⟩)
  · rintro now (⟨⟨⟩⟩ | ⟨⟨⟩⟩)

theorem run_awaitingFenced : Run awaitingFenced := by
  refine .tail (.tail run_awaiting ⟨.setNow u64Max, ?_, rfl⟩) ⟨.start (sampleStart 8 2), ?_, rfl⟩
  · rintro now (⟨⟨⟩⟩ | ⟨⟨⟩⟩)
    exact UInt64.le_iff_toNat_le.2 (Nat.le_of_lt_succ (UInt64.toNat_lt _))
  · rintro now (⟨⟨⟩⟩ | ⟨⟨⟩⟩)

/-- The transfer whose last chunk has just been stored, and a CONT for a handle that nothing has. -/
theorem state_engine_consistent_awaiting :
    (awaiting.eng.reasm ⟨0, by decide⟩).map Slot.bitmap = some 3 ∧ Consistent awaiting ∧
      ((Op.cont (sampleCont 9)).apply awaiting.eng).1 = .noTransfer ∧
      Unchanged awaiting.eng ((Op.cont (sampleCont 9)).apply awaiting.eng).2 := by
  have hst : ((Op.cont (sampleCont 9)).apply awaiting.eng).1 = .noTransfer := by decide +kernel
  obtain ⟨hconsistent, hunchanged⟩ := state_engine_consistent run_awaiting
  refine ⟨by decide +kernel, hconsistent, hst, hunchanged (.cont (sampleCont 9)) ?_ ?_ ?_⟩
  · rw [hst]
    rintro (h | h | h | h | h) <;> cases h
  · rw [hst]
    rintro (h | h | h | h)
    · cases h
    · cases h
    · cases h.1
    · cases h.1
  · rw [hst]
    rintro ⟨h, -⟩
    cases h

/-- The finalisation of that transfer fails with `FENCED` once more, and still notes that the digest
is awaited no longer. -/
theorem fenced_finalize_changes : ¬ ∀ t : Trace controllerProfile, Run t → ∀ op : Op,
    op.Monotone t.eng → ¬ (op.apply t.eng).1.Success →
    ¬ Excused op t.eng (op.apply t.eng).1 (op.apply t.eng).2 →
    Unchanged t.eng (op.apply t.eng).2 := by
  intro hall
  have hst : ((Op.finalize 5 7 (Vector.replicate 32 0)).apply awaitingFenced.eng).1 = .fenced := by
    decide +kernel
  have hfenced : awaitingFenced.eng.fenced = true := by decide +kernel
  have hsame := hall awaitingFenced run_awaitingFenced (.finalize 5 7 (Vector.replicate 32 0))
    (by rintro now (⟨⟨⟩⟩ | ⟨⟨⟩⟩)) (by rw [hst]; rintro (h | h | h | h | h) <;> cases h)
    (by
      rw [hst]
      rintro (h | h | h | h)
      · cases h
      · cases h
      · cases h.1
      · rw [hfenced] at h
        cases h.2.1)
  have hflag : ((awaitingFenced.eng.reasm ⟨0, by decide⟩).map Slot.needDigest) = some true := by
    decide +kernel
  have hcleared : ((((Op.finalize 5 7 (Vector.replicate 32 0)).apply
      awaitingFenced.eng).2.reasm ⟨0, by decide⟩).map Slot.needDigest) = some false := by
    decide +kernel
  rw [hsame.reasm, hflag] at hcleared
  cases hcleared

end Ninlil.FragState
