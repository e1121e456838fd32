import Ninlil.Lib.ReplayWindow
import Ninlil.R7Frag.Engine

/-!
# Lanes

`tx_exclusive_tranche.h` and the lanes of `r7_frag_core.c`: the counters a sender may use, in
blocks it reserves before it uses them, and the window of the counters a receiver has taken.

* `txExclusiveGrow`, `txCounterAssignable`: the next block;
* `laneInstall`, `laneTxAllocate`, `laneRxPrecheck`, `laneRxAdmit`;
* `Lane.window`: the receiving half of a lane as a replay window, with `rxMark_window`.
-/

namespace Ninlil.R7Frag

open Replay

variable {P : Profile}

/-! ### Blocks of counters -/

/-- `NINLIL_R7_FRAG_TX_BLOCK`. -/
def txBlock : UInt64 := 64

/-- `ninlil_tx_exclusive_grow`. -/
def txExclusiveGrow (ramLimit block : UInt64) : Option UInt64 :=
  if block = 0 then none
  else if ramLimit ≥ u64Max then none
  else
    let room := u64Max - ramLimit
    if room = 0 then none
    else some (ramLimit + if room < block then room else block)

/-- `ninlil_tx_counter_assignable`. -/
def txCounterAssignable (c : UInt64) : Bool := c != 0 && decide (c < u64Max)

/-! ### The functions -/

/-- `NINLIL_R7_FRAG_LANE_HOP_DATA` to `NINLIL_R7_FRAG_LANE_E2E`. -/
def laneKindOk (laneKind : UInt8) : Bool := decide (1 ≤ laneKind) && decide (laneKind ≤ 3)

/-- The lane that `ninlil_r7_frag_lane_install` writes. -/
def Lane.installed (laneKind : UInt8) (contextId : UInt32) (keyGeneration : UInt64) : Lane :=
  { Lane.zero with
    inUse := true
    laneKind
    contextId
    keyGeneration
    txReservedExclusive := 1
    txRamNext := 1
    txRamLimit := 1 }

/-- `ninlil_r7_frag_lane_install`. -/
def laneInstall (eng : Engine P) (laneKind : UInt8) (contextId : UInt32) (keyGeneration : UInt64) :
    Status × Engine P × Option (Fin laneSlots) :=
  if laneKindOk laneKind = false then (.structural, eng, none)
  else if contextOk contextId = false ∨ keyGeneration = 0 then (.structural, eng, none)
  else if (List.finRange laneSlots).any fun i =>
      (eng.lanes i).inUse && (eng.lanes i).laneKind == laneKind
        && (eng.lanes i).contextId == contextId then (.conflict, eng, none)
  else
    match (List.finRange laneSlots).find? fun i => !(eng.lanes i).inUse with
    | some i =>
      (.ok, eng.setLane i (.installed laneKind contextId keyGeneration), some i)
    | none => (.resource, eng, none)

/-- The lane when the next counter is about to be drawn: with a new block if the last is used up. -/
def Lane.txReserve (L : Lane) : Option Lane :=
  if L.txRamNext = L.txRamLimit then
    (txExclusiveGrow L.txRamLimit txBlock).map fun U =>
      { L with txRamLimit := U, txReservedExclusive := U }
  else some L

/-- `ninlil_r7_frag_lane_tx_allocate`. -/
def laneTxAllocate (eng : Engine P) (slot : ℕ) : Status × Engine P × Option UInt64 :=
  if h : slot < laneSlots then
    let L := eng.lanes ⟨slot, h⟩
    if L.inUse = false then (.invalidArgument, eng, none)
    else if L.txFenced = true ∨ eng.globalFence ≠ 0 then (.fenced, eng, none)
    else if L.txRamNext ≥ u64Max then (.resource, eng, none)
    else
      match L.txReserve with
      | none => (.resource, eng, none)
      | some L' =>
        if txCounterAssignable L'.txRamNext = false then
          (.resource, eng.setLane ⟨slot, h⟩ L', none)
        else
          (.ok, eng.setLane ⟨slot, h⟩ { L' with txRamNext := L'.txRamNext + 1 },
            some L'.txRamNext)
  else (.invalidArgument, eng, none)

/-- The part of `ninlil_r7_frag_lane_rx_precheck` that looks at the window. -/
def Lane.rxReplay (L : Lane) (counter : UInt64) : Bool :=
  if counter ≤ L.rxBootFloor then true
  else if counter ≤ L.rxRamHighest then
    let delta := L.rxRamHighest - counter
    if delta ≥ 64 then true else (L.rxBitmap >>> delta) &&& 1 != 0
  else false

/-- `ninlil_r7_frag_lane_rx_precheck`. -/
def laneRxPrecheck (eng : Engine P) (slot : ℕ) (counter : UInt64) : Status :=
  if h : slot < laneSlots then
    let L := eng.lanes ⟨slot, h⟩
    if L.inUse = false then .invalidArgument
    else if L.rxFenced = true ∨ eng.globalFence ≠ 0 then .fenced
    else if counter = 0 ∨ counter = u64Max then .structural
    else if L.rxReplay counter then .replay
    else .ok
  else .invalidArgument

/-- What `ninlil_r7_frag_lane_rx_admit` writes for a counter that passed the check. -/
def Lane.rxMark (L : Lane) (counter : UInt64) : Lane :=
  let through :=
    if counter > L.rxAcceptReservedThrough then
      if counter > (u64Max - 1) - (txBlock - 1) then u64Max - 1 else counter + txBlock - 1
    else L.rxAcceptReservedThrough
  if counter > L.rxRamHighest then
    let delta := counter - L.rxRamHighest
    { L with
      rxAcceptReservedThrough := through
      rxBitmap := if delta ≥ 64 then 1 else (L.rxBitmap <<< delta) ||| 1
      rxRamHighest := counter }
  else
    { L with
      rxAcceptReservedThrough := through
      rxBitmap := L.rxBitmap ||| (1 <<< (L.rxRamHighest - counter)) }

/-- `ninlil_r7_frag_lane_rx_admit`. -/
def laneRxAdmit (eng : Engine P) (slot : ℕ) (counter : UInt64) : Status × Engine P :=
  if h : slot < laneSlots then
    if (eng.lanes ⟨slot, h⟩).inUse = false then (.invalidArgument, eng)
    else
      match laneRxPrecheck eng slot counter with
      | .ok =>
        (.ok, eng.setLane ⟨slot, h⟩ ((eng.lanes ⟨slot, h⟩).rxMark counter))
      | st => (st, eng)
  else (.invalidArgument, eng)

/-! ### The receiving half as a window -/

/-- The window of a lane. -/
def Lane.window (L : Lane) : Window 64 :=
  ⟨L.rxBootFloor.toNat, L.rxRamHighest.toNat, L.rxBitmap.toBitVec⟩

/-- Testing one bit of the bitmap. -/
theorem shiftRight_and_one {b d : UInt64} (hd : d.toNat < 64) :
    ((b >>> d) &&& 1 != 0) = b.toBitVec.getLsbD d.toNat := by
  have hmod : (d.toBitVec % 64#64).toNat = d.toNat := by
    rw [BitVec.toNat_umod]
    exact Nat.mod_eq_of_lt hd
  have hbit : ((b >>> d) &&& 1).toBitVec = BitVec.ofNat 64 (b.toBitVec.getLsbD d.toNat).toNat := by
    apply BitVec.eq_of_getLsbD_eq
    intro i hi
    rw [UInt64.toBitVec_and, UInt64.toBitVec_shiftRight, BitVec.getLsbD_and]
    rcases Nat.eq_zero_or_pos i with rfl | hpos
    · cases hb : b.toBitVec.getLsbD d.toNat
      · simp [hmod, hb]
      · simp [hmod, hb]
    · have hone : (1 : UInt64).toBitVec.getLsbD i = false := by
        simp [hpos.ne']
      rw [hone, Bool.and_false]
      cases b.toBitVec.getLsbD d.toNat
      · simp
      · simp [hpos.ne']
  cases hb : b.toBitVec.getLsbD d.toNat
  · rw [hb] at hbit
    have hzero : (b >>> d) &&& 1 = 0 := UInt64.toBitVec_inj.1 (by simpa using hbit)
    simp [hzero]
  · rw [hb] at hbit
    have hset : (b >>> d) &&& 1 = 1 := UInt64.toBitVec_inj.1 (by simpa using hbit)
    simp [hset]

/-- A shift by less than the width. -/
theorem toBitVec_shiftLeft_of_lt {b d : UInt64} (hd : d.toNat < 64) :
    (b <<< d).toBitVec = b.toBitVec <<< d.toNat := by
  have hmod : (d.toBitVec % 64).toNat = d.toNat := by
    rw [BitVec.toNat_umod]
    exact Nat.mod_eq_of_lt hd
  rw [UInt64.toBitVec_shiftLeft, BitVec.shiftLeft_eq', hmod]

/-- A difference that does not wrap. -/
theorem toNat_sub_of_le {a b : UInt64} (h : b ≤ a) : (a - b).toNat = a.toNat - b.toNat :=
  UInt64.toNat_sub_of_le a b h

/-- A sum that does not wrap. -/
theorem toNat_add_of_lt {a b : UInt64} (h : a.toNat + b.toNat < 2 ^ 64) :
    (a + b).toNat = a.toNat + b.toNat := by
  rw [UInt64.toNat_add, Nat.mod_eq_of_lt h]

/-- The two ways to compare a difference with the width of the window. -/
theorem le_sub_iff {a b : UInt64} (h : b ≤ a) : a - b ≥ 64 ↔ 64 ≤ a.toNat - b.toNat := by
  rw [ge_iff_le, UInt64.le_iff_toNat_le, toNat_sub_of_le h]
  exact Iff.rfl

variable {L L' : Lane} {counter : UInt64}

/-- **The check of the source is the check of the window.** -/
theorem Lane.rxReplay_eq_false : L.rxReplay counter = false ↔ L.window.Fresh counter.toNat := by
  have hfresh : L.window.Fresh counter.toNat ↔ L.rxBootFloor.toNat < counter.toNat ∧
      (counter.toNat ≤ L.rxRamHighest.toNat → L.rxRamHighest.toNat - counter.toNat < 64 ∧
        L.rxBitmap.toBitVec.getLsbD (L.rxRamHighest.toNat - counter.toNat) = false) := Iff.rfl
  rw [hfresh]
  unfold Lane.rxReplay
  by_cases hfloor : counter ≤ L.rxBootFloor
  · have hnot : ¬ L.rxBootFloor.toNat < counter.toNat :=
      not_lt.2 (UInt64.le_iff_toNat_le.1 hfloor)
    simp [hfloor, hnot]
  · have habove : L.rxBootFloor.toNat < counter.toNat :=
      UInt64.lt_iff_toNat_lt.1 (UInt64.not_le.1 hfloor)
    rw [if_neg hfloor]
    by_cases hhigh : counter ≤ L.rxRamHighest
    · have hdelta := toNat_sub_of_le hhigh
      have hle : counter.toNat ≤ L.rxRamHighest.toNat := UInt64.le_iff_toNat_le.1 hhigh
      rw [if_pos hhigh]
      by_cases hwide : L.rxRamHighest - counter ≥ 64
      · have hfar : ¬ L.rxRamHighest.toNat - counter.toNat < 64 :=
          not_lt.2 ((le_sub_iff hhigh).1 hwide)
        simp [hwide, hle, hfar]
      · have hnear : L.rxRamHighest.toNat - counter.toNat < 64 :=
          not_le.1 fun hn => hwide ((le_sub_iff hhigh).2 hn)
        rw [if_neg hwide, shiftRight_and_one (by rwa [hdelta]), hdelta]
        simp [hnear, habove, hle]
    · have hgt : ¬ counter.toNat ≤ L.rxRamHighest.toNat := fun hn =>
        hhigh (UInt64.le_iff_toNat_le.2 hn)
      simp [hhigh, hgt, habove]

/-- **The update of the source is the update of the window.** -/
theorem Lane.rxMark_window (h : L.window.Fresh counter.toNat) :
    (L.rxMark counter).window = L.window.mark counter.toNat := by
  unfold Lane.rxMark
  by_cases hhigh : counter > L.rxRamHighest
  · have hlt : L.window.highest < counter.toNat := UInt64.lt_iff_toNat_lt.1 hhigh
    have hle : L.rxRamHighest ≤ counter := UInt64.le_of_lt hhigh
    have hbits : (if counter - L.rxRamHighest ≥ 64 then (1 : UInt64)
          else (L.rxBitmap <<< (counter - L.rxRamHighest)) ||| 1).toBitVec =
        if 64 ≤ counter.toNat - L.window.highest then 1#64
          else L.window.bitmap <<< (counter.toNat - L.window.highest) ||| 1#64 := by
      by_cases hwide : counter - L.rxRamHighest ≥ 64
      · have hfar : 64 ≤ counter.toNat - L.window.highest := (le_sub_iff hle).1 hwide
        rw [if_pos hwide, if_pos hfar]
        rfl
      · have hnear : ¬ 64 ≤ counter.toNat - L.window.highest := fun hn =>
          hwide ((le_sub_iff hle).2 hn)
        have hd : (counter - L.rxRamHighest).toNat = counter.toNat - L.window.highest :=
          toNat_sub_of_le hle
        rw [if_neg hwide, if_neg hnear, UInt64.toBitVec_or,
          toBitVec_shiftLeft_of_lt (by rw [hd]; omega), hd]
        rfl
    rw [if_pos hhigh, mark_of_lt hlt, ← hbits]
    rfl
  · have hle : counter ≤ L.rxRamHighest := UInt64.not_lt.1 hhigh
    have hle' : counter.toNat ≤ L.window.highest := UInt64.le_iff_toNat_le.1 hle
    have hd : (L.rxRamHighest - counter).toNat = L.window.highest - counter.toNat :=
      toNat_sub_of_le hle
    have hnear : L.window.highest - counter.toNat < 64 := (h.2 hle').1
    have hbits : (L.rxBitmap ||| (1 <<< (L.rxRamHighest - counter))).toBitVec =
        L.window.bitmap ||| 1#64 <<< (L.window.highest - counter.toNat) := by
      rw [UInt64.toBitVec_or, toBitVec_shiftLeft_of_lt (by rwa [hd]), hd]
      rfl
    rw [if_neg hhigh, mark_of_le hle', ← hbits]
    rfl

theorem toNat_lt_of_ne_max (h : counter ≠ u64Max) : counter.toNat < 2 ^ 64 - 1 := by
  have hlt := counter.toNat_lt
  have hne : counter.toNat ≠ u64Max.toNat := fun he => h (UInt64.toNat_inj.1 he)
  have hval : u64Max.toNat = 2 ^ 64 - 1 := rfl
  omega

/-- The durable limit a counter asks for: a block further on, or the last counter there is. -/
theorem toNat_throughFor (h : counter ≠ u64Max) : counter.toNat ≤
    (if counter > (u64Max - 1) - (txBlock - 1) then u64Max - 1
      else counter + txBlock - 1).toNat := by
  have hmax := toNat_lt_of_ne_max h
  have htop : (u64Max - 1 - (txBlock - 1)).toNat = 2 ^ 64 - 65 := by decide
  have hlast : (u64Max - 1).toNat = 2 ^ 64 - 2 := by decide
  by_cases hcap : counter > (u64Max - 1) - (txBlock - 1)
  · rw [if_pos hcap, hlast]
    omega
  · have hroom : counter.toNat ≤ 2 ^ 64 - 65 := by
      rw [← htop, ← UInt64.le_iff_toNat_le]
      exact UInt64.not_lt.1 hcap
    have hsum : (counter + txBlock).toNat = counter.toNat + 64 := by
      exact toNat_add_of_lt (by rw [show txBlock.toNat = 64 from rfl]; omega)
    have hone : (1 : UInt64) ≤ counter + txBlock := by
      rw [UInt64.le_iff_toNat_le, hsum, show (1 : UInt64).toNat = 1 from rfl]
      omega
    rw [if_neg hcap, toNat_sub_of_le hone, hsum, show (1 : UInt64).toNat = 1 from rfl]
    omega

/-- The durable limit after a counter is taken covers it, and did not go down. -/
theorem Lane.rxMark_through (h : counter ≠ u64Max) :
    counter.toNat ≤ (L.rxMark counter).rxAcceptReservedThrough.toNat ∧
      L.rxAcceptReservedThrough.toNat ≤ (L.rxMark counter).rxAcceptReservedThrough.toNat := by
  have hthrough : (L.rxMark counter).rxAcceptReservedThrough =
      if counter > L.rxAcceptReservedThrough then
        if counter > (u64Max - 1) - (txBlock - 1) then u64Max - 1 else counter + txBlock - 1
      else L.rxAcceptReservedThrough := by
    unfold Lane.rxMark
    dsimp only
    by_cases hhigh : counter > L.rxRamHighest
    · rw [if_pos hhigh]
    · rw [if_neg hhigh]
  rw [hthrough]
  by_cases habove : counter > L.rxAcceptReservedThrough
  · have hcovers := toNat_throughFor h
    have hlt := UInt64.lt_iff_toNat_lt.1 habove
    rw [if_pos habove]
    omega
  · have hle := UInt64.le_iff_toNat_le.1 (UInt64.not_lt.1 habove)
    rw [if_neg habove]
    omega

/-- Taking a counter leaves the rest of the lane. -/
theorem Lane.rxMark_frame (L : Lane) (counter : UInt64) :
    (L.rxMark counter).inUse = L.inUse ∧ (L.rxMark counter).laneKind = L.laneKind ∧
      (L.rxMark counter).contextId = L.contextId ∧
      (L.rxMark counter).keyGeneration = L.keyGeneration ∧
      (L.rxMark counter).txReservedExclusive = L.txReservedExclusive ∧
      (L.rxMark counter).txRamNext = L.txRamNext ∧
      (L.rxMark counter).txRamLimit = L.txRamLimit := by
  unfold Lane.rxMark
  dsimp only
  split_ifs
  all_goals simp

end Ninlil.R7Frag
