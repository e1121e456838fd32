import Ninlil.Lib.Reservations
import Ninlil.R7Frag.Reassembly

/-!
# Tombstone accounting in the fragment engine

A START reserves the tombstone in which its transfer will end.  Ending a transfer by a conflict or
a timeout converts the reservation; completing it takes a new tombstone and leaves the reservation
behind.

* `Engine.active`, `Engine.marks`: the two tables of the engine as jobs and their end records;
* `Accounted`, `Evolves`: the tables agree; they change as jobs are opened and ended;
* `Completes`: the CONTs that end a transfer by completing it;
* `reasmAdmitStart_evolves`, `reasmAdmitCont_evolves`, `timeoutSlots_evolves`,
  `expireTombs_expires`: what each call does to the two tables;
* `completion_leaks_reservation`: a completing CONT leaves its reservation behind.
-/

namespace Ninlil.R7Frag

open Bytes Reservations
open Function (update update_of_ne update_self update_eq_self)

variable {P : Profile}

/-! ### The two tables -/

/-- What a slot and its tombstone have in common. -/
structure Identity where
  e2eContextId : UInt32
  transferHandle : UInt64
  transferId : TransferId
  fragCount : ℕ
  fingerprint : Digest

/-- Two transfers of one context with the same handle or the same identifier. -/
def Clash (a b : Identity) : Prop :=
  a.e2eContextId = b.e2eContextId ∧
    (a.transferHandle = b.transferHandle ∨ a.transferId = b.transferId)

theorem Clash.refl (a : Identity) : Clash a a := ⟨rfl, .inl rfl⟩

theorem Clash.symm {a b : Identity} (h : Clash a b) : Clash b a :=
  ⟨h.1.symm, h.2.imp Eq.symm Eq.symm⟩

def ReasmSlot.identity (S : ReasmSlot) : Identity :=
  ⟨S.e2eContextId, S.transferHandle, S.transferId, S.fragCount, S.fingerprint⟩

def Tombstone.identity (T : Tombstone) : Identity :=
  ⟨T.e2eContextId, T.transferHandle, T.transferId, T.fragCount, T.fingerprint⟩

/-- A tombstone as an end record, with its status, reason and expiry. -/
def Tombstone.mark (T : Tombstone) : Mark Identity (UInt8 × UInt8 × UInt64) :=
  if T.inUse = false then .free
  else if T.status = reservationMarker then .reserved T.identity
  else .ended T.identity (T.status, T.reason, T.expiryMono)

/-- A slot as a job. -/
def ReasmSlot.job (S : ReasmSlot) : Option Identity := if S.inUse then some S.identity else none

def Engine.active (eng : Engine P) : Fin P.reasmSlots → Option Identity := fun i => (eng.reasm i).job

def Engine.marks (eng : Engine P) : Fin tombstoneSlots → Mark Identity (UInt8 × UInt8 × UInt64) :=
  fun j => (eng.tombs j).mark

/-- The two tables agree. -/
def Accounted (eng : Engine P) : Prop := Balanced Clash eng.active eng.marks

/-- The tables change as jobs are opened and ended. -/
def Evolves (eng eng' : Engine P) : Prop :=
  Changes Clash eng.active eng.marks eng'.active eng'.marks

variable {eng eng' : Engine P} {S : ReasmSlot} {T : Tombstone} {a : Identity}

@[simp] theorem ReasmSlot.job_eq_some : S.job = some a ↔ S.inUse = true ∧ S.identity = a := by
  unfold ReasmSlot.job
  split_ifs with h
  · simp [h]
  · simp [h]

theorem ReasmSlot.job_eq_none : S.job = none ↔ S.inUse = false := by
  unfold ReasmSlot.job
  split_ifs with h
  · simp [h]
  · simpa using h

theorem Tombstone.mark_eq_reserved :
    T.mark = .reserved a ↔ T.inUse = true ∧ T.status = reservationMarker ∧ T.identity = a := by
  unfold Tombstone.mark
  split_ifs with huse hstatus
  · simp [huse]
  · simp [huse, hstatus]
  · simp [hstatus]

theorem Tombstone.mark_eq_ended {r : UInt8 × UInt8 × UInt64} :
    T.mark = .ended a r ↔ T.inUse = true ∧ T.status ≠ reservationMarker ∧ T.identity = a ∧
      (T.status, T.reason, T.expiryMono) = r := by
  unfold Tombstone.mark
  split_ifs with huse hstatus
  · simp [huse]
  · simp [hstatus]
  · simp [huse, hstatus]

theorem Tombstone.mark_eq_free : T.mark = .free ↔ T.inUse = false := by
  unfold Tombstone.mark
  split_ifs with huse hstatus
  · simp [huse]
  · simp [huse]
  · simp [huse]

theorem Tombstone.mark_id? (h : T.inUse = true) : T.mark.id? = some T.identity := by
  unfold Tombstone.mark
  split_ifs with huse
  · rw [h] at huse
    exact absurd huse (by decide)
  · rfl
  · rfl

theorem Tombstone.of_mark_id? (h : T.mark.id? = some a) : T.inUse = true ∧ T.identity = a := by
  unfold Tombstone.mark at h
  split_ifs at h with huse
  · cases h
  · exact ⟨by simpa using huse, Option.some.inj h⟩
  · exact ⟨by simpa using huse, Option.some.inj h⟩

@[simp] theorem marks_setReasm (i : Fin P.reasmSlots) : (eng.setReasm i S).marks = eng.marks := rfl

theorem active_setReasm (i : Fin P.reasmSlots) :
    (eng.setReasm i S).active = update eng.active i S.job := by
  funext x
  by_cases hx : x = i
  · subst hx
    simp [Engine.active, Engine.setReasm]
  · simp [Engine.active, Engine.setReasm, hx]

theorem marks_setTomb (j : Fin tombstoneSlots) :
    (eng.setTomb j T).marks = update eng.marks j T.mark := by
  funext x
  by_cases hx : x = j
  · subst hx
    simp [Engine.marks, Engine.setTomb]
  · simp [Engine.marks, Engine.setTomb, hx]

variable {i : Fin P.reasmSlots} {j : Fin tombstoneSlots}

/-- An ended transfer on the two tables. -/
theorem evolves_terminate
    {status reason : UInt8} {expiry : UInt64} (huse : (eng.reasm i).inUse = true)
    (hj : eng.marks j = .reserved (eng.reasm i).identity) (hstatus : status ≠ reservationMarker) :
    Evolves eng (terminate eng i j status reason expiry) := by
  have hactive : (terminate eng i j status reason expiry).active =
      update eng.active i none := by
    funext x
    by_cases hx : x = i
    · subst hx
      simp [Engine.active, terminate, releaseSlot, ReasmSlot.zero, ReasmSlot.job]
    · simp [Engine.active, terminate, releaseSlot, Engine.setTomb, hx]
  have hmark : (terminalTomb (eng.reasm i) status reason expiry).mark =
      .ended (eng.reasm i).identity (status, reason, expiry) :=
    Tombstone.mark_eq_ended.2 ⟨rfl, hstatus, rfl, rfl⟩
  have hmarks : (terminate eng i j status reason expiry).marks =
      update eng.marks j (.ended (eng.reasm i).identity (status, reason, expiry)) := by
    rw [← hmark]
    exact marks_setTomb j
  rw [Evolves, hactive, hmarks]
  exact (Change.ends i j _ _ (ReasmSlot.job_eq_some.2 ⟨huse, rfl⟩) hj).changes

/-- A step that leaves both tables. -/
theorem evolves_same (ha : eng'.active = eng.active) (hm : eng'.marks = eng.marks) :
    Evolves eng eng' := by
  rw [Evolves, ha, hm]
  exact .refl

theorem Evolves.refl (eng : Engine P) : Evolves eng eng := Changes.refl

/-! ### Scans -/

section Scan

variable {n : ℕ} {α : Type} [BEq α] [LawfulBEq α] {used : Fin n → Bool} {ctx : Fin n → UInt32}
  {name : Fin n → α} {c : UInt32} {x : α} {i : Fin n}

theorem scan_some
    (h : ((List.finRange n).find? fun i => used i && ctx i == c && name i == x) = some i) :
    used i = true ∧ ctx i = c ∧ name i = x := by
  have hp := List.find?_some h
  simp only [Bool.and_eq_true, beq_iff_eq] at hp
  exact ⟨hp.1.1, hp.1.2, hp.2⟩

theorem scan_none
    (h : ((List.finRange n).find? fun i => used i && ctx i == c && name i == x) = none) (i : Fin n)
    (huse : used i = true) : ¬(ctx i = c ∧ name i = x) := by
  have hp := List.find?_eq_none.1 h i (List.mem_finRange i)
  rintro ⟨hctx, hname⟩
  simp [huse, hctx, hname] at hp

end Scan

variable {ctx : UInt32}

variable {tid : TransferId}

theorem tombReserve_some (h : tombReserve eng = some j) :
    (eng.tombs j).inUse = false := by simpa using List.find?_some h

/-- The tombstone that ends a transfer by conflict or timeout is the one its START reserved. -/
theorem Accounted.reservation_found (h : Accounted eng)
    (huse : (eng.reasm i).inUse = true) :
    ∃ j, tombFindHandle eng (eng.reasm i).e2eContextId (eng.reasm i).transferHandle = some j ∧
      eng.marks j = .reserved (eng.reasm i).identity := by
  obtain ⟨j, hj⟩ := h.backed i _ (ReasmSlot.job_eq_some.2 ⟨huse, rfl⟩)
  obtain ⟨hju, -, hjid⟩ := Tombstone.mark_eq_reserved.1 hj
  cases hfind : tombFindHandle eng (eng.reasm i).e2eContextId (eng.reasm i).transferHandle with
  | none =>
    have hctx : (eng.tombs j).e2eContextId = (eng.reasm i).e2eContextId :=
      congrArg Identity.e2eContextId hjid
    have hh : (eng.tombs j).transferHandle = (eng.reasm i).transferHandle :=
      congrArg Identity.transferHandle hjid
    exact absurd ⟨hctx, hh⟩ (scan_none hfind j hju)
  | some j' =>
    obtain ⟨hju', hctx', hh'⟩ := scan_some hfind
    have hsame : j' = j := by
      refine h.markUnique j' j _ _ (Tombstone.mark_id? hju') (by rw [hj]; rfl) ⟨?_, .inl ?_⟩
      · exact hctx'
      · exact hh'
    exact ⟨j', rfl, hsame ▸ hj⟩

/-! ### START -/

/-- A reservation that is given up leaves no trace. -/
theorem evolves_dropped (hj : (eng.tombs j).inUse = false)
    (T : Tombstone) : Evolves eng (eng.setTomb j { T with inUse := false }) := by
  refine evolves_same rfl ?_
  have hold : eng.marks j = Mark.free := Tombstone.mark_eq_free.2 hj
  have hnew : ({ T with inUse := false } : Tombstone).mark = Mark.free :=
    Tombstone.mark_eq_free.2 rfl
  rw [marks_setTomb, hnew, ← hold, update_eq_self]

/-- The scans of a START find nothing exactly when nothing clashes with it. -/
theorem no_clash_of_scans {handle : UInt64} {a : Identity}
    (hactx : a.e2eContextId = ctx) (hahandle : a.transferHandle = handle)
    (hatid : a.transferId = tid) (hactiveH : reasmFindHandle eng ctx handle = none)
    (hactiveT : reasmFindTid eng ctx tid = none) (htombH : tombFindHandle eng ctx handle = none)
    (htombT : tombFindTid eng ctx tid = none) :
    (∀ i b, eng.active i = some b → ¬ Clash a b ∧ ¬ Clash b a) ∧
      ∀ j b, (eng.marks j).id? = some b → ¬ Clash a b ∧ ¬ Clash b a := by
  subst hactx hahandle hatid
  have hboth : ∀ b, ¬ Clash b a → ¬ Clash a b ∧ ¬ Clash b a := fun b hb => ⟨fun h => hb h.symm, hb⟩
  constructor
  · intro i b hb
    obtain ⟨hu, rfl⟩ := ReasmSlot.job_eq_some.1 hb
    refine hboth _ ?_
    rintro ⟨hc, hh | ht⟩
    · exact scan_none hactiveH i hu ⟨hc, hh⟩
    · exact scan_none hactiveT i hu ⟨hc, ht⟩
  · intro j b hb
    obtain ⟨hu, rfl⟩ := Tombstone.of_mark_id? hb
    refine hboth _ ?_
    rintro ⟨hc, hh | ht⟩
    · exact scan_none htombH j hu ⟨hc, hh⟩
    · exact scan_none htombT j hu ⟨hc, ht⟩

/-- A slot opened with its reservation. -/
theorem evolves_opens
    (hreasm : eng'.reasm = update eng.reasm i S)
    (htombs : eng'.tombs = update eng.tombs j T) (hi : (eng.reasm i).inUse = false)
    (hj : (eng.tombs j).inUse = false) (hS : S.job = some a) (hT : T.mark = .reserved a)
    (hclear : (∀ i b, eng.active i = some b → ¬ Clash a b ∧ ¬ Clash b a) ∧
      ∀ j b, (eng.marks j).id? = some b → ¬ Clash a b ∧ ¬ Clash b a) : Evolves eng eng' := by
  have hactive : eng'.active = update eng.active i (some a) := by
    rw [← hS, ← active_setReasm]
    funext x
    rw [Engine.active, hreasm]
    rfl
  have hmarks : eng'.marks = update eng.marks j (.reserved a) := by
    rw [← hT, ← marks_setTomb]
    funext x
    rw [Engine.marks, htombs]
    rfl
  rw [Evolves, hactive, hmarks]
  exact (Change.opens i j a (ReasmSlot.job_eq_none.2 hi) (Tombstone.mark_eq_free.2 hj) hclear.1
    hclear.2).changes

/-- A START that clashes with nothing opens a slot and reserves its tombstone, or changes
nothing. -/
theorem startFresh_evolves {body : StartBody} {firstChunk : List UInt8}
    {fp : Digest} (hactiveH : reasmFindHandle eng ctx body.transferHandle = none)
    (hactiveT : reasmFindTid eng ctx body.transferId = none)
    (htombH : tombFindHandle eng ctx body.transferHandle = none)
    (htombT : tombFindTid eng ctx body.transferId = none) :
    Evolves eng (startFresh eng ctx body firstChunk fp).2.1 := by
  unfold startFresh
  cases hres : tombReserve eng with
  | none => exact .refl eng
  | some j =>
    have hj := tombReserve_some hres
    dsimp only
    split_ifs with hbudget
    · exact evolves_dropped hj _
    · split
      · exact evolves_dropped hj _
      · rename_i i hfree
        have hi : (eng.reasm i).inUse = false := by simpa using List.find?_some hfree
        split
        · exact evolves_opens
            (a := ⟨ctx, body.transferHandle, body.transferId, body.fragCount, fp⟩) rfl rfl hi hj
            (ReasmSlot.job_eq_some.2 ⟨rfl, rfl⟩) (Tombstone.mark_eq_reserved.2 ⟨rfl, rfl, rfl⟩)
            (no_clash_of_scans rfl rfl rfl hactiveH hactiveT htombH htombT)
        · exact evolves_dropped hj _

/-- **START** opens a slot and reserves its tombstone, or changes nothing. -/
theorem reasmAdmitStart_evolves (eng : Engine P) (provider : Provider) (ctx : UInt32)
    (body : StartBody) (firstChunk : List UInt8) :
    Evolves eng (reasmAdmitStart eng provider ctx body firstChunk).2.1 := by
  unfold reasmAdmitStart
  by_cases hctx : contextOk ctx = false
  · rw [if_pos hctx]
    exact .refl eng
  rw [if_neg hctx]
  dsimp only
  by_cases hplan : planValidate body.totalLen (firstChunk.length % 65536) body.fragCount
      body.continuationUnit ≠ .ok
  · rw [if_pos hplan]
    exact .refl eng
  rw [if_neg hplan]
  by_cases hhandle : handleOk body.transferHandle = false
  · rw [if_pos hhandle]
    exact .refl eng
  rw [if_neg hhandle]
  split
  · exact .refl eng
  · split
    · split_ifs
      all_goals exact .refl eng
    · rename_i hactive
      obtain ⟨hactiveH, hactiveT⟩ := Option.or_eq_none_iff.1 hactive
      split
      · split_ifs
        all_goals exact .refl eng
      · rename_i htomb
        obtain ⟨htombH, htombT⟩ := Option.or_eq_none_iff.1 htomb
        exact startFresh_evolves hactiveH hactiveT htombH htombT

/-! ### CONT -/

/-- A slot overwritten by one for the same transfer. -/
theorem evolves_setReasm (huse : S.inUse = (eng.reasm i).inUse)
    (hid : S.identity = (eng.reasm i).identity) : Evolves eng (eng.setReasm i S) := by
  refine evolves_same ?_ rfl
  have hjob : S.job = eng.active i := by
    rw [ReasmSlot.job, huse, hid]
    rfl
  rw [active_setReasm, hjob, update_eq_self]

@[simp] theorem setReasm_reasm_self (i : Fin P.reasmSlots) : (eng.setReasm i S).reasm i = S :=
  update_self ..

/-- A stored chunk leaves the two tables. -/
theorem evolves_storedSlot (i : Fin P.reasmSlots) (fragIndex offset : ℕ) (chunk : List UInt8)
    (nextBitmap : BitVec 16) (newIdle : UInt64) :
    Evolves eng (eng.setReasm i
      (storedSlot (eng.reasm i) fragIndex offset chunk nextBitmap newIdle)) :=
  evolves_setReasm rfl rfl

/-- The CONT that ends its transfer by completing it: it is the last missing chunk of an active
transfer, the hash does not fail, the clock is not at its end, and a tombstone slot is free. -/
structure Completes (eng : Engine P) (provider : Provider) (ctx : UInt32) (body : ContBody)
    (chunk : List UInt8) (i : Fin P.reasmSlots) : Prop where
  context : contextOk ctx = true
  handle : handleOk body.transferHandle = true
  active : reasmFindHandle eng ctx body.transferHandle = some i
  index : 0 < body.fragIndex ∧ body.fragIndex < (eng.reasm i).fragCount
  inside : (eng.reasm i).firstChunkLen + (body.fragIndex - 1) * contUnit < (eng.reasm i).totalLen
  length : chunk.length =
    min ((eng.reasm i).totalLen - ((eng.reasm i).firstChunkLen + (body.fragIndex - 1) * contUnit))
      contUnit
  nonlast : body.fragIndex + 1 < (eng.reasm i).fragCount → chunk.length = contUnit
  missing : (eng.reasm i).chunkSeen body.fragIndex = false
  last : (eng.reasm i).bitmap ||| (1#16 <<< body.fragIndex) = fullBitmap (eng.reasm i).fragCount
  digest : ∃ d, contentDigest provider (store (eng.reasm i).payload
    ((eng.reasm i).firstChunkLen + (body.fragIndex - 1) * contUnit) chunk)
      (eng.reasm i).totalLen = .ok d
  idle : (checkedAddU64 eng.nowMono idleTimeoutMs).isSome = true
  expiry : (checkedAddU64 eng.nowMono tombstoneTtlMs).isSome = true
  room : (tombReserve eng).isSome = true

/-- An attempt to complete that gets as far as a tombstone slot. -/
structure Finishes (eng : Engine P) (provider : Provider) (i : Fin P.reasmSlots) : Prop where
  full : (eng.reasm i).bitmap = fullBitmap (eng.reasm i).fragCount
  digest : ∃ d, contentDigest provider (eng.reasm i).payload (eng.reasm i).totalLen = .ok d
  expiry : (checkedAddU64 eng.nowMono tombstoneTtlMs).isSome = true
  room : (tombReserve eng).isSome = true

variable {provider : Provider}

/-- Any other attempt leaves the tables. -/
theorem tryComplete_same
    (h : ¬ Finishes eng provider i) : Evolves eng (tryComplete eng provider i).2.1 := by
  unfold tryComplete
  dsimp only
  by_cases hfull : (eng.reasm i).bitmap ≠ fullBitmap (eng.reasm i).fragCount
  · rw [if_pos hfull]
    exact .refl eng
  rw [if_neg hfull]
  cases hdigest : contentDigest provider (eng.reasm i).payload (eng.reasm i).totalLen with
  | error st => exact .refl eng
  | ok digest =>
    cases hexp : checkedAddU64 eng.nowMono tombstoneTtlMs with
    | none => exact evolves_same rfl rfl
    | some expiry =>
      cases hres : tombReserve eng with
      | none => exact .refl eng
      | some slot =>
        exact absurd ⟨not_not.1 hfull, ⟨digest, hdigest⟩, by rw [hexp]; rfl, by rw [hres]; rfl⟩ h

theorem Evolves.trans {eng'' : Engine P} (h : Evolves eng eng') (h' : Evolves eng' eng'') :
    Evolves eng eng'' := Changes.trans h h'

variable {chunk : List UInt8}

/-- A CONT with a new chunk that does not complete its transfer. -/
theorem contNew_evolves {fragIndex offset : ℕ}
    (h : (eng.reasm i).bitmap ||| (1#16 <<< fragIndex) = fullBitmap (eng.reasm i).fragCount →
      (∃ d, contentDigest provider (store (eng.reasm i).payload offset chunk)
        (eng.reasm i).totalLen = .ok d) → (checkedAddU64 eng.nowMono idleTimeoutMs).isSome = true →
      (checkedAddU64 eng.nowMono tombstoneTtlMs).isSome = true →
      (tombReserve eng).isSome = true → False) :
    Evolves eng (contNew eng provider i fragIndex offset chunk).2.1 := by
  unfold contNew
  dsimp only
  cases hidle : checkedAddU64 eng.nowMono idleTimeoutMs with
  | none => exact evolves_same rfl rfl
  | some idle =>
    dsimp only
    generalize (if idle > (eng.reasm i).receiverAbsoluteDeadline then
      (eng.reasm i).receiverAbsoluteDeadline else idle) = newIdle
    have hstore : Evolves eng _ := evolves_storedSlot i fragIndex offset chunk
      ((eng.reasm i).bitmap ||| (1#16 <<< fragIndex)) newIdle
    by_cases hfull : (eng.reasm i).bitmap ||| (1#16 <<< fragIndex) =
        fullBitmap (eng.reasm i).fragCount
    · rw [if_pos hfull]
      refine hstore.trans (tryComplete_same ?_)
      rintro ⟨-, hdigest, hexp, hroom⟩
      rw [setReasm_reasm_self] at hdigest
      exact h hfull hdigest (by rw [hidle]; rfl) hexp hroom
    · rw [if_neg hfull]
      cases hdue : checkedAddU64 eng.nowMono partialAckIdleMs with
      | none => exact evolves_same rfl rfl
      | some due =>
        dsimp only
        by_cases hearlier : (eng.reasm i).partialAckDue = 0 ∨
            (if due > (eng.reasm i).receiverAbsoluteDeadline then
              (eng.reasm i).receiverAbsoluteDeadline else due) < (eng.reasm i).partialAckDue
        · rw [if_pos hearlier]
          exact evolves_setReasm rfl rfl
        · rw [if_neg hearlier]
          exact hstore

/-- A CONT for an index that was seen before ends its transfer in the reserved tombstone, or changes
nothing. -/
theorem contSeen_evolves (h : Accounted eng)
    {body : ContBody} {offset : ℕ}
    (hfind : reasmFindHandle eng ctx body.transferHandle = some i) :
    Evolves eng (contSeen eng i ctx body offset chunk).2.1 := by
  obtain ⟨huse, hctx, hhandle⟩ := scan_some hfind
  obtain ⟨j, hj, hmark⟩ := h.reservation_found huse
  rw [hctx, hhandle] at hj
  unfold contSeen
  dsimp only
  split_ifs
  · exact .refl eng
  · cases hexp : checkedAddU64 eng.nowMono tombstoneTtlMs with
    | none => exact evolves_same rfl rfl
    | some expiry =>
      rw [hj]
      exact evolves_terminate huse hmark (by decide)

/-- **CONT**, unless it completes its transfer. -/
theorem reasmAdmitCont_evolves (h : Accounted eng)
    {body : ContBody}
    (hcomplete : ∀ i, ¬ Completes eng provider ctx body chunk i) :
    Evolves eng (reasmAdmitCont eng provider ctx body chunk).2.1 := by
  unfold reasmAdmitCont
  by_cases hclass : contextOk ctx = false ∨ handleOk body.transferHandle = false
  · rw [if_pos hclass]
    exact .refl eng
  rw [if_neg hclass]
  by_cases hlen : chunk.length < 1 ∨ chunk.length > cMax
  · rw [if_pos hlen]
    exact .refl eng
  rw [if_neg hlen]
  cases hfind : reasmFindHandle eng ctx body.transferHandle with
  | none =>
    dsimp only
    split
    · split_ifs
      all_goals exact .refl eng
    · exact .refl eng
  | some i =>
    dsimp only
    split_ifs with hindex hinside hlength hnonlast hseen
    · exact .refl eng
    · exact .refl eng
    · exact .refl eng
    · exact .refl eng
    · exact contSeen_evolves h hfind
    · refine contNew_evolves fun hfull hdigest hidle hexp hroom => hcomplete i ?_
      rw [not_or] at hclass hindex
      exact ⟨by simpa using hclass.1, by simpa using hclass.2, hfind, ⟨by omega, by omega⟩,
        by omega, not_not.1 hlength, fun hlt => by_contra fun hne => hnonlast ⟨hlt, hne⟩,
        by simpa using hseen, hfull, hdigest, hidle, hexp, hroom⟩

/-! ### Time -/

/-- The second loop of a tick ends transfers in their reserved tombstones. -/
theorem timeoutSlots_evolves (now : UInt64) (slots : List (Fin P.reasmSlots)) :
    ∀ {eng : Engine P}, Accounted eng → Evolves eng (timeoutSlots now slots eng).2 := by
  induction slots with
  | nil => exact fun {eng} _ => .refl eng
  | cons i rest ih =>
    intro eng h
    unfold timeoutSlots
    dsimp only
    by_cases huse : (eng.reasm i).inUse = false
    · rw [if_pos huse]
      exact ih h
    rw [if_neg huse]
    by_cases hdue : now ≥ (eng.reasm i).idleDeadline ∨ now ≥ (eng.reasm i).receiverAbsoluteDeadline
    · rw [if_pos hdue]
      cases hexp : checkedAddU64 now tombstoneTtlMs with
      | none => exact evolves_same rfl rfl
      | some expiry =>
        have huse' : (eng.reasm i).inUse = true := by simpa using huse
        obtain ⟨j, hj, hmark⟩ := h.reservation_found huse'
        rw [hj]
        have hstep : Evolves eng (terminate eng i j statusAbort reasonTimeout expiry) :=
          evolves_terminate huse' hmark (by decide)
        exact hstep.trans (ih (h.changes Clash.refl hstep))
    · rw [if_neg hdue]
      exact ih h

/-- The first loop drops terminal tombstones whose time has come. -/
theorem expireTombs_expires (eng : Engine P) (now : UInt64) :
    Expires eng.marks (expireTombs eng now).marks := by
  intro j
  by_cases hexp : (eng.tombs j).inUse ∧ (eng.tombs j).status ≠ reservationMarker
      ∧ (eng.tombs j).expiryMono ≠ 0 ∧ now ≥ (eng.tombs j).expiryMono
  · right
    have hzero : (expireTombs eng now).tombs j = .zero := if_pos hexp
    refine ⟨?_, (eng.tombs j).identity, _, Tombstone.mark_eq_ended.2
      ⟨hexp.1, hexp.2.1, rfl, rfl⟩⟩
    rw [Engine.marks, hzero]
    rfl
  · left
    have hsame : (expireTombs eng now).tombs j = eng.tombs j := if_neg hexp
    rw [Engine.marks, hsame]
    rfl

/-- Handing a publication over leaves both tables. -/
theorem takePublication_evolves (eng : Engine P) (outCapacity : ℕ) :
    Evolves eng (takePublication eng outCapacity).2.1 := by
  unfold takePublication
  split_ifs
  · exact .refl eng
  · exact .refl eng
  · exact evolves_same rfl rfl

/-! ### Completion -/

/-- The three endings of a completion fill the first free tombstone and leave the others. -/
theorem tryComplete_tombs
    (h : Finishes eng provider i) :
    ∃ j status reason expiry, tombReserve eng = some j ∧
      (tryComplete eng provider i).2.1.tombs =
        update eng.tombs j (terminalTomb (eng.reasm i) status reason expiry) := by
  obtain ⟨digest, hdigest⟩ := h.digest
  obtain ⟨expiry, hexp⟩ := Option.isSome_iff_exists.1 h.expiry
  obtain ⟨j, hres⟩ := Option.isSome_iff_exists.1 h.room
  unfold tryComplete
  dsimp only
  rw [if_neg (not_not.2 h.full), hdigest]
  dsimp only
  rw [hexp]
  dsimp only
  rw [hres]
  dsimp only
  by_cases hbad : digest ≠ (eng.reasm i).contentDigest
  · rw [if_pos hbad]
    exact ⟨j, statusAbort, reasonDigest, expiry, rfl, rfl⟩
  rw [if_neg hbad]
  by_cases hpub : eng.pubValid = true
  · rw [if_pos hpub]
    exact ⟨j, statusAbort, reasonResource, expiry, rfl, rfl⟩
  · rw [if_neg hpub]
    exact ⟨j, statusComplete, reasonNone, expiry, rfl, rfl⟩

/-- The tables after a completing CONT: a second tombstone for the same transfer. -/
theorem completes_tombs {body : ContBody}
    (h : Completes eng provider ctx body chunk i) :
    ∃ j T, (eng.tombs j).inUse = false ∧ T.inUse = true ∧
      T.identity = (eng.reasm i).identity ∧
      (reasmAdmitCont eng provider ctx body chunk).2.1.tombs =
        update eng.tombs j T := by
  obtain ⟨idle, hidle⟩ := Option.isSome_iff_exists.1 h.idle
  have hpos : 1 ≤ chunk.length := by
    have hinside := h.inside
    rw [h.length]
    exact Nat.le_min.2 ⟨by omega, by decide⟩
  have hmax : chunk.length ≤ cMax := by
    rw [h.length]
    exact Nat.min_le_right ..
  unfold reasmAdmitCont
  rw [if_neg (by simp [h.context, h.handle]), if_neg (by omega), h.active]
  dsimp only
  rw [if_neg (not_or.2 ⟨Nat.ne_of_gt h.index.1, Nat.not_le.2 h.index.2⟩),
    if_neg (Nat.not_le.2 h.inside), if_neg (not_not.2 h.length),
    if_neg (fun hn => hn.2 (h.nonlast hn.1)), if_neg (by simp [h.missing])]
  unfold contNew
  dsimp only
  rw [hidle]
  dsimp only
  rw [if_pos h.last]
  generalize (if idle > (eng.reasm i).receiverAbsoluteDeadline then
    (eng.reasm i).receiverAbsoluteDeadline else idle) = newIdle
  generalize hS : storedSlot (eng.reasm i) body.fragIndex
    ((eng.reasm i).firstChunkLen + (body.fragIndex - 1) * contUnit) chunk
    ((eng.reasm i).bitmap ||| (1#16 <<< body.fragIndex)) newIdle = S
  have hfin : Finishes (eng.setReasm i S) provider i := by
    refine ⟨?_, ?_, h.expiry, h.room⟩
    · rw [setReasm_reasm_self, ← hS]
      exact h.last
    · rw [setReasm_reasm_self, ← hS]
      exact h.digest
  obtain ⟨j, status, reason, expiry, hj, htombs⟩ := tryComplete_tombs hfin
  rw [setReasm_reasm_self] at htombs
  have hfree : tombReserve eng = some j := hj
  refine ⟨j, terminalTomb S status reason expiry, tombReserve_some hfree, rfl, ?_, htombs⟩
  rw [← hS]
  rfl

/-- **A completing CONT leaves its reservation behind**: afterwards two tombstones in use carry the
context and handle of its transfer. -/
theorem completion_leaks_reservation (h : Accounted eng)
    {body : ContBody}
    (hc : Completes eng provider ctx body chunk i) :
    ∃ j j', j ≠ j' ∧ ∀ x ∈ [j, j'],
      ((reasmAdmitCont eng provider ctx body chunk).2.1.tombs x).inUse = true ∧
      ((reasmAdmitCont eng provider ctx body chunk).2.1.tombs x).identity =
        (eng.reasm i).identity := by
  obtain ⟨huse, -, -⟩ := scan_some hc.active
  obtain ⟨j, hj⟩ := h.backed i _ (ReasmSlot.job_eq_some.2 ⟨huse, rfl⟩)
  obtain ⟨hju, -, hjid⟩ := Tombstone.mark_eq_reserved.1 hj
  obtain ⟨j', T, hfree, hT, hTid, htombs⟩ := completes_tombs hc
  have hne : j ≠ j' := by
    rintro rfl
    rw [hju] at hfree
    cases hfree
  refine ⟨j, j', hne, fun x hx => ?_⟩
  rw [htombs]
  rcases List.mem_pair.1 hx with rfl | rfl
  · rw [update_of_ne hne]
    exact ⟨hju, hjid⟩
  · rw [update_self]
    exact ⟨hT, hTid⟩

end Ninlil.R7Frag
