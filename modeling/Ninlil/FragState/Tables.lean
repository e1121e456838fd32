import Ninlil.Lib.Reservations
import Ninlil.FragState.Engine

/-!
# The two tables of the state engine

What each call does to the slots and the tombstones.

* `Accounted`: the slots and the reserved tombstones match, one to one, by identity and by
  `tomb_reserve_slot`, and nothing in either table clashes;
* `Effect`: all that a call other than a tick can do to the tables: nothing, open a slot with its
  reservation, write a slot, or end a transfer in its reservation.
-/

namespace Ninlil.FragState

open Bytes R7Frag Reservations Tables
open Function (update update_eq_self)

variable {P : Profile} {eng eng' : Engine P} {S S' : Slot} {T : Tombstone}
  {i : Fin P.reasmSlots} {j : Fin tombstoneSlots}

/-! ### Identities -/

/-- What a slot and its tombstone have in common, and where the tombstone is. -/
structure Identity where
  e2eContextId : UInt32
  keyGeneration : UInt64
  transferHandle : UInt64
  transferId : TransferId
  fragCount : ℕ
  fingerprint : Digest
  tombSlot : ℕ

/-- Two transfers of one context with the same handle or the same identifier. -/
def Clash (a b : Identity) : Prop :=
  a.e2eContextId = b.e2eContextId ∧
    (a.transferHandle = b.transferHandle ∨ a.transferId = b.transferId)

theorem Clash.refl (a : Identity) : Clash a a := ⟨rfl, .inl rfl⟩

theorem Clash.symm {a b : Identity} (h : Clash a b) : Clash b a :=
  ⟨h.1.symm, h.2.imp Eq.symm Eq.symm⟩

def Slot.identity (S : Slot) : Identity :=
  ⟨S.e2eContextId, S.keyGeneration, S.transferHandle, S.transferId, S.fragCount, S.fingerprint,
    S.tombReserveSlot⟩

def Tombstone.identity (T : Tombstone) (slot : ℕ) : Identity :=
  ⟨T.e2eContextId, T.keyGeneration, T.transferHandle, T.transferId, T.fragCount, T.fingerprint,
    slot⟩

/-- The slots as jobs. -/
def Engine.active (eng : Engine P) : Fin P.reasmSlots → Option Identity :=
  fun i => (eng.reasm i).map Slot.identity

/-- A tombstone as an end record, with its status, reason and expiry. -/
def Tombstone.mark (T : Tombstone) (slot : ℕ) : Mark Identity (UInt8 × UInt8 × UInt64) :=
  if T.isReservation then .reserved (T.identity slot)
  else .ended (T.identity slot) (T.status, T.reason, T.expiryMono)

def Engine.marks (eng : Engine P) : Fin tombstoneSlots → Mark Identity (UInt8 × UInt8 × UInt64) :=
  fun j => (eng.tombs j).elim .free fun T => T.mark j.val

/-- The two tables agree. -/
def Accounted (eng : Engine P) : Prop := Balanced Clash eng.active eng.marks

/-- The tables change as jobs are opened and ended. -/
def Evolves (eng eng' : Engine P) : Prop :=
  Changes Clash eng.active eng.marks eng'.active eng'.marks

theorem active_eq_some (hi : eng.reasm i = some S) : eng.active i = some S.identity := by
  rw [Engine.active, hi]
  rfl

theorem of_active {a : Identity} (h : eng.active i = some a) :
    ∃ S, eng.reasm i = some S ∧ S.identity = a := Option.map_eq_some_iff.1 h

theorem marks_eq_reserved {a : Identity} :
    eng.marks j = .reserved a ↔
      ∃ T, eng.tombs j = some T ∧ T.isReservation = true ∧ T.identity j.val = a := by
  unfold Engine.marks
  cases eng.tombs j with
  | none => simp
  | some T =>
    cases hres : T.isReservation with
    | true | false => simp [Tombstone.mark, hres]

theorem marks_eq_ended {a : Identity} {r : UInt8 × UInt8 × UInt64} :
    eng.marks j = .ended a r ↔
      ∃ T, eng.tombs j = some T ∧ T.isReservation = false ∧ T.identity j.val = a ∧
        (T.status, T.reason, T.expiryMono) = r := by
  unfold Engine.marks
  cases eng.tombs j with
  | none => simp
  | some T =>
    cases hres : T.isReservation with
    | true | false => simp [Tombstone.mark, hres]

theorem marks_eq_free : eng.marks j = .free ↔ eng.tombs j = none := by
  unfold Engine.marks
  cases eng.tombs j with
  | none => simp
  | some T =>
    cases hres : T.isReservation with
    | true | false => simp [Tombstone.mark, hres]

theorem Tombstone.mark_id? (T : Tombstone) (slot : ℕ) :
    (T.mark slot).id? = some (T.identity slot) := by
  unfold Tombstone.mark
  split_ifs
  · rfl
  · rfl

theorem marks_id? (hj : eng.tombs j = some T) : (eng.marks j).id? = some (T.identity j.val) := by
  rw [Engine.marks, hj]
  exact T.mark_id? j.val

theorem of_marks_id? {a : Identity} (h : (eng.marks j).id? = some a) :
    ∃ T, eng.tombs j = some T ∧ T.identity j.val = a := by
  cases hj : eng.tombs j with
  | none =>
    rw [marks_eq_free.2 hj] at h
    cases h
  | some T =>
    rw [marks_id? hj] at h
    exact ⟨T, rfl, Option.some.inj h⟩

/-- The tables after one slot is written. -/
theorem active_update {r : Option Slot} (h : eng'.reasm = update eng.reasm i r) :
    eng'.active = update eng.active i (r.map Slot.identity) := by
  funext x
  rw [Engine.active, h]
  by_cases hx : x = i
  · subst hx
    simp
  · simp [Engine.active, hx]

/-- The tables after one tombstone is written. -/
theorem marks_update (h : eng'.tombs = update eng.tombs j (some T)) :
    eng'.marks = update eng.marks j (T.mark j.val) := by
  funext x
  rw [Engine.marks, h]
  by_cases hx : x = j
  · subst hx
    simp
  · simp [Engine.marks, hx]

theorem active_congr (h : eng'.reasm = eng.reasm) : eng'.active = eng.active := by
  unfold Engine.active
  rw [h]

theorem marks_congr (h : eng'.tombs = eng.tombs) : eng'.marks = eng.marks := by
  unfold Engine.marks
  rw [h]

/-- A step that leaves both tables. -/
theorem evolves_same (hreasm : eng'.reasm = eng.reasm) (htombs : eng'.tombs = eng.tombs) :
    Evolves eng eng' := by
  rw [Evolves, active_congr hreasm, marks_congr htombs]
  exact .refl

/-! ### The reservation of a slot -/

/-- The tombstone of an active slot. -/
theorem Accounted.reservation (h : Accounted eng) (hi : eng.reasm i = some S) :
    ∃ j T, eng.tombs j = some T ∧ T.isReservation = true ∧ T.identity j.val = S.identity ∧
      S.tombReserveSlot = j.val := by
  obtain ⟨j, hj⟩ := h.backed i _ (active_eq_some hi)
  obtain ⟨T, hT, hres, hid⟩ := marks_eq_reserved.1 hj
  exact ⟨j, T, hT, hres, hid, (congrArg Identity.tombSlot hid).symm⟩

/-- A transfer always ends in the tombstone that its START reserved. -/
theorem Accounted.endSlot (h : Accounted eng) (hi : eng.reasm i = some S) :
    ∃ j, endSlot eng S = some j ∧ eng.marks j = .reserved S.identity := by
  obtain ⟨j, T, hT, hres, hid, hslot⟩ := h.reservation hi
  refine ⟨j, ?_, marks_eq_reserved.2 ⟨T, hT, hres, hid⟩⟩
  have hlt : S.tombReserveSlot < tombstoneSlots := by
    rw [hslot]
    exact j.isLt
  have hfin : (⟨S.tombReserveSlot, hlt⟩ : Fin tombstoneSlots) = j := Fin.ext hslot
  unfold FragState.endSlot
  rw [dif_pos hlt, hfin, if_pos (by rw [hT]; rfl)]

/-! ### Effects -/

/-- The calls. -/
inductive Op
  | start (inp : StartIn)
  | cont (inp : ContIn)
  | finalize (ctx : UInt32) (handle : UInt64) (digest : Digest)
  | tick (now : UInt64)
  | setNow (now : UInt64)
  | takePublication (outCapacity : ℕ)

/-- The calls that may complete a transfer. -/
def Op.Completing (op : Op) : Prop :=
  (∃ inp, op = .cont inp) ∨ ∃ ctx handle digest, op = .finalize ctx handle digest

/-- Only bookkeeping of the slot differs. -/
structure SameCore (S S' : Slot) : Prop where
  identity : S'.identity = S.identity
  totalLen : S'.totalLen = S.totalLen
  firstChunkLen : S'.firstChunkLen = S.firstChunkLen
  contentDigest : S'.contentDigest = S.contentDigest
  bitmap : S'.bitmap = S.bitmap
  payload : S'.payload = S.payload
  chunkSeen : S'.chunkSeen = S.chunkSeen
  chunkLen : S'.chunkLen = S.chunkLen
  idle : S'.idleDeadline = S.idleDeadline
  absolute : S'.receiverAbsoluteDeadline = S.receiverAbsoluteDeadline

/-- A new chunk is stored in the slot. -/
structure Stores (inp : ContIn) (S S' : Slot) : Prop where
  identity : S'.identity = S.identity
  totalLen : S'.totalLen = S.totalLen
  firstChunkLen : S'.firstChunkLen = S.firstChunkLen
  contentDigest : S'.contentDigest = S.contentDigest
  fresh : S.chunkSeen inp.fragIndex = false
  place : contGeometry S.totalLen S.firstChunkLen S.fragCount inp.fragIndex =
    .ok (chunkOffset S.firstChunkLen inp.fragIndex, inp.chunk.length)
  bitmap : S'.bitmap = S.bitmap ||| (1#16 <<< inp.fragIndex)
  payload : S'.payload = store S.payload (chunkOffset S.firstChunkLen inp.fragIndex) inp.chunk
  chunkSeen : S'.chunkSeen = update S.chunkSeen inp.fragIndex true
  chunkLen : S'.chunkLen = update S.chunkLen inp.fragIndex inp.chunk.length
  idle : S'.idleDeadline ≤ S'.receiverAbsoluteDeadline
  absolute : S'.receiverAbsoluteDeadline = S.receiverAbsoluteDeadline

/-- What a call may write to a slot. -/
def Writes (op : Op) (S S' : Slot) : Prop :=
  SameCore S S' ∨ ∃ inp, op = .cont inp ∧ Stores inp S S'

theorem Writes.identity {op : Op} (h : Writes op S S') : S'.identity = S.identity := by
  rcases h with h | ⟨inp, -, h⟩
  · exact h.identity
  · exact h.identity

theorem Writes.totalLen {op : Op} (h : Writes op S S') : S'.totalLen = S.totalLen := by
  rcases h with h | ⟨inp, -, h⟩
  · exact h.totalLen
  · exact h.totalLen

/-- Slots, tombstones, payload account and publication stay. -/
structure Unchanged (eng eng' : Engine P) : Prop where
  reasm : eng'.reasm = eng.reasm
  tombs : eng'.tombs = eng.tombs
  bytes : eng'.payloadBytesInUse = eng.payloadBytesInUse
  pub : eng'.pub = eng.pub
  count : eng'.publishCount = eng.publishCount

theorem Unchanged.refl (eng : Engine P) : Unchanged eng eng := ⟨rfl, rfl, rfl, rfl, rfl⟩

theorem Unchanged.fence (eng : Engine P) : Unchanged eng eng.fence := ⟨rfl, rfl, rfl, rfl, rfl⟩

/-- A START opened slot `i` with its reservation in `j`. -/
structure Opens (inp : StartIn) (eng eng' : Engine P) (i : Fin P.reasmSlots)
    (j : Fin tombstoneSlots) : Prop where
  slotFree : eng.reasm i = none
  tombFree : eng.tombs j = none
  valid : Valid inp.totalLen inp.firstChunk.length inp.fragCount
  context : contextOk inp.e2eContextId = true
  generation : inp.keyGeneration ≠ 0
  handle : handleOk inp.transferHandle = true
  clear : findReasmHandle eng inp.e2eContextId inp.transferHandle = none ∧
    findReasmTid eng inp.e2eContextId inp.transferId = none ∧
    findTombHandle eng inp.e2eContextId inp.transferHandle = none ∧
    findTombTid eng inp.e2eContextId inp.transferId = none
  budget : eng.payloadBytesInUse + inp.totalLen ≤ P.payloadBudget
  slot : ∃ absDl idleDl due, idleDl ≤ absDl ∧
    eng'.reasm = update eng.reasm i (some (openedSlot inp absDl idleDl due j.val))
  tombs : eng'.tombs = update eng.tombs j (some (reservationTomb inp))
  bytes : eng'.payloadBytesInUse = eng.payloadBytesInUse + inp.totalLen
  pub : eng'.pub = eng.pub
  count : eng'.publishCount = eng.publishCount
  fenced : eng'.fenced = eng.fenced
  now : eng'.nowMono = eng.nowMono

/-- The transfer in slot `i` ended in tombstone `j`. -/
structure Ends (eng eng' : Engine P) (i : Fin P.reasmSlots) (j : Fin tombstoneSlots) (S : Slot)
    (T : Tombstone) : Prop where
  slotWas : eng.reasm i = some S
  reserved : eng.marks j = .reserved S.identity
  terminal : T.isReservation = false
  identity : T.identity j.val = S.identity
  reasm : eng'.reasm = update eng.reasm i none
  tombs : eng'.tombs = update eng.tombs j (some T)
  bytes : eng'.payloadBytesInUse = eng.payloadBytesInUse - S.totalLen

/-- What a call other than a tick does to the tables. -/
inductive Effect (op : Op) (eng eng' : Engine P) : Prop
  | same (hreasm : eng'.reasm = eng.reasm) (htombs : eng'.tombs = eng.tombs)
      (hbytes : eng'.payloadBytesInUse = eng.payloadBytesInUse)
  | opens (inp : StartIn) (i : Fin P.reasmSlots) (j : Fin tombstoneSlots) (hop : op = .start inp)
      (h : Opens inp eng eng' i j)
  | writes (i : Fin P.reasmSlots) (S S' : Slot) (hi : eng.reasm i = some S) (h : Writes op S S')
      (hreasm : eng'.reasm = update eng.reasm i (some S')) (htombs : eng'.tombs = eng.tombs)
      (hbytes : eng'.payloadBytesInUse = eng.payloadBytesInUse)
  | ends (i : Fin P.reasmSlots) (j : Fin tombstoneSlots) (S : Slot) (T : Tombstone)
      (h : Ends eng eng' i j S T)

theorem Unchanged.effect {op : Op} (h : Unchanged eng eng') : Effect op eng eng' :=
  .same h.reasm h.tombs h.bytes

/-! ### Effects on the accounts -/

variable {ctx : UInt32}

theorem findReasmHandle_none {handle : UInt64}
    (h : findReasmHandle eng ctx handle = none) (hi : eng.reasm i = some S) :
    ¬(S.e2eContextId = ctx ∧ S.transferHandle = handle) := by
  simpa using scan_eq_none h hi

theorem findReasmTid_none {tid : TransferId}
    (h : findReasmTid eng ctx tid = none) (hi : eng.reasm i = some S) :
    ¬(S.e2eContextId = ctx ∧ S.transferId = tid) := by
  simpa using scan_eq_none h hi

theorem findTombHandle_none {handle : UInt64}
    (h : findTombHandle eng ctx handle = none) (hj : eng.tombs j = some T) :
    ¬(T.e2eContextId = ctx ∧ T.transferHandle = handle) := by
  simpa using scan_eq_none h hj

theorem findTombTid_none {tid : TransferId}
    (h : findTombTid eng ctx tid = none) (hj : eng.tombs j = some T) :
    ¬(T.e2eContextId = ctx ∧ T.transferId = tid) := by
  simpa using scan_eq_none h hj

theorem findReasmHandle_some {handle : UInt64}
    (h : findReasmHandle eng ctx handle = some (i, S)) :
    eng.reasm i = some S ∧ S.e2eContextId = ctx ∧ S.transferHandle = handle := by
  obtain ⟨hi, hp⟩ := scan_eq_some h
  simp only [Bool.and_eq_true, beq_iff_eq] at hp
  exact ⟨hi, hp⟩

theorem findReasmTid_some {tid : TransferId}
    (h : findReasmTid eng ctx tid = some (i, S)) :
    eng.reasm i = some S ∧ S.e2eContextId = ctx ∧ S.transferId = tid := by
  obtain ⟨hi, hp⟩ := scan_eq_some h
  simp only [Bool.and_eq_true, beq_iff_eq] at hp
  exact ⟨hi, hp⟩

theorem findTombHandle_some {handle : UInt64}
    (h : findTombHandle eng ctx handle = some (j, T)) :
    eng.tombs j = some T ∧ T.e2eContextId = ctx ∧ T.transferHandle = handle := by
  obtain ⟨hj, hp⟩ := scan_eq_some h
  simp only [Bool.and_eq_true, beq_iff_eq] at hp
  exact ⟨hj, hp⟩

theorem findTombTid_some {tid : TransferId}
    (h : findTombTid eng ctx tid = some (j, T)) :
    eng.tombs j = some T ∧ T.e2eContextId = ctx ∧ T.transferId = tid := by
  obtain ⟨hj, hp⟩ := scan_eq_some h
  simp only [Bool.and_eq_true, beq_iff_eq] at hp
  exact ⟨hj, hp⟩

/-- An opened slot and its reservation. -/
theorem Opens.evolves {inp : StartIn} (h : Opens inp eng eng' i j) : Evolves eng eng' := by
  obtain ⟨absDl, idleDl, due, -, hreasm⟩ := h.slot
  obtain ⟨hactiveH, hactiveT, htombH, htombT⟩ := h.clear
  let a : Identity := ⟨inp.e2eContextId, inp.keyGeneration, inp.transferHandle, inp.transferId,
    inp.fragCount, inp.fingerprint, j.val⟩
  have hactive : eng'.active = update eng.active i (some a) := active_update hreasm
  have hmarks : eng'.marks = update eng.marks j (.reserved a) := marks_update h.tombs
  have hboth : ∀ b, ¬ Clash b a → ¬ Clash a b ∧ ¬ Clash b a :=
    fun b hb => ⟨fun hc => hb hc.symm, hb⟩
  have hclearA : ∀ x b, eng.active x = some b → ¬ Clash a b ∧ ¬ Clash b a := by
    intro x b hb
    obtain ⟨S, hS, rfl⟩ := of_active hb
    refine hboth _ ?_
    rintro ⟨hc, hh | ht⟩
    · exact findReasmHandle_none hactiveH hS ⟨hc, hh⟩
    · exact findReasmTid_none hactiveT hS ⟨hc, ht⟩
  have hclearM : ∀ y b, (eng.marks y).id? = some b → ¬ Clash a b ∧ ¬ Clash b a := by
    intro y b hb
    obtain ⟨T, hT, rfl⟩ := of_marks_id? hb
    refine hboth _ ?_
    rintro ⟨hc, hh | ht⟩
    · exact findTombHandle_none htombH hT ⟨hc, hh⟩
    · exact findTombTid_none htombT hT ⟨hc, ht⟩
  have hi : eng.active i = none := by rw [Engine.active, h.slotFree]; rfl
  rw [Evolves, hactive, hmarks]
  exact (Change.opens i j a hi (marks_eq_free.2 h.tombFree) hclearA hclearM).changes

/-- An ended transfer. -/
theorem Ends.evolves (h : Ends eng eng' i j S T) : Evolves eng eng' := by
  have hactive : eng'.active = update eng.active i none := active_update h.reasm
  have hmark : T.mark j.val = .ended S.identity (T.status, T.reason, T.expiryMono) := by
    rw [Tombstone.mark, h.terminal, h.identity]
    rfl
  have hmarks : eng'.marks = update eng.marks j
      (.ended S.identity (T.status, T.reason, T.expiryMono)) := by
    rw [← hmark]
    exact marks_update h.tombs
  rw [Evolves, hactive, hmarks]
  exact (Change.ends i j _ _ (active_eq_some h.slotWas) h.reserved).changes

/-- Every effect opens and ends jobs. -/
theorem Effect.evolves {op : Op} (h : Effect op eng eng') : Evolves eng eng' := by
  cases h with
  | same hreasm htombs hbytes => exact evolves_same hreasm htombs
  | opens inp i j hop h => exact h.evolves
  | writes i S S' hi h hreasm htombs hbytes =>
    rw [Evolves, marks_congr htombs, active_update hreasm, Option.map_some, h.identity,
      ← active_eq_some hi, update_eq_self]
    exact .refl
  | ends i j S T h => exact h.evolves

theorem Accounted.effect {op : Op} (h : Accounted eng) (heff : Effect op eng eng') :
    Accounted eng' := h.changes Clash.refl heff.evolves

/-! ### The payload account -/

/-- The payload account is the sum over the active slots, and within the budget. -/
structure Budgeted (eng : Engine P) : Prop where
  sum : eng.payloadBytesInUse = weight Slot.totalLen eng.reasm
  budget : eng.payloadBytesInUse ≤ P.payloadBudget

theorem Ends.budgeted (h : Budgeted eng) (hend : Ends eng eng' i j S T) : Budgeted eng' := by
  have hfree := weight_free (w := Slot.totalLen) hend.slotWas
  have hsum := h.sum
  have hbudget := h.budget
  have hbytes := hend.bytes
  constructor
  · rw [hend.reasm]
    omega
  · omega

theorem Budgeted.effect {op : Op} (h : Budgeted eng) (heff : Effect op eng eng') :
    Budgeted eng' := by
  have hsum := h.sum
  have hbudget := h.budget
  cases heff with
  | same hreasm htombs hbytes => exact ⟨by rw [hbytes, hreasm, hsum], by rw [hbytes]; exact hbudget⟩
  | opens inp i j hop heff =>
    obtain ⟨absDl, idleDl, due, -, hreasm⟩ := heff.slot
    constructor
    · rw [heff.bytes, hreasm, weight_take heff.slotFree, hsum]
      rfl
    · rw [heff.bytes]
      exact heff.budget
  | writes i S S' hi hw hreasm htombs hbytes =>
    constructor
    · rw [hbytes, hreasm, weight_same hi hw.totalLen, hsum]
    · rw [hbytes]
      exact hbudget
  | ends i j S T heff => exact heff.budgeted h

end Ninlil.FragState
