import Ninlil.R7Frag.LaneRuns

/-!
# Counters are taken once

The receiving half of a lane over a whole run: the window, the durable limit above everything taken,
and the floor a restart sets.

* `ThroughCurrent`: a restart from a snapshot whose durable limit is up to date;
* `RxSafe`: each counter of a lane was taken at most once, is at most the durable limit, and the
  next counter is taken exactly when it is above the floor, new, and at most 63 below all others;
* `rx_counters_taken_once`: every run is safe, and the durable limit never goes down.
-/

namespace Ninlil.R7Frag

open Replay

variable {P : Profile} {k : LaneKey}

/-- The snapshot has the durable limit that the lane has at the crash. -/
def ThroughCurrent (k : LaneKey) (crash snap : Engine P) : Prop :=
  ∀ i, Holds crash k i → ∃ j, Holds snap k j ∧
    (snap.lanes j).rxAcceptReservedThrough = (crash.lanes i).rxAcceptReservedThrough

/-- The counters taken on lane `k`. -/
def Trace.takenOn (t : Trace P) (k : LaneKey) : Set ℕ :=
  {v | ∃ s ∈ t.taken, s.1 = k ∧ s.2.toNat = v}

/-- What the counters taken on lane `k` so far satisfy. -/
structure RxSafe (k : LaneKey) (t : Trace P) : Prop where
  once : (t.taken.filter fun s => s.1 = k).Nodup
  through : ∀ s ∈ t.taken, s.1 = k →
    ∃ i, Holds t.eng k i ∧ s.2 ≤ (t.eng.lanes i).rxAcceptReservedThrough
  next : ∀ i, Holds t.eng k i → (t.eng.lanes i).rxFenced = false → t.eng.globalFence = 0 →
    ∀ c : UInt64, c ≠ 0 → c ≠ u64Max →
      ((laneRxAdmit t.eng i.val c).1 = .ok ↔
        (t.eng.lanes i).rxBootFloor < c ∧ (k, c) ∉ t.taken ∧
          ∀ s ∈ t.taken, s.1 = k → s.2.toNat ≤ c.toNat + 63)

/-- The lane is still there, and its durable limit did not go down. -/
def KeepsThrough (k : LaneKey) (eng eng' : Engine P) : Prop :=
  ∀ i, Holds eng k i → ∃ j, Holds eng' k j ∧
    (eng.lanes i).rxAcceptReservedThrough ≤ (eng'.lanes j).rxAcceptReservedThrough

/-! ### The invariant -/

/-- The window of the lane stands for the counters taken, which the durable limit covers. -/
structure Lane.Covers (L : Lane) (S : Set ℕ) : Prop where
  represents : Represents L.window S
  through : ∀ v ∈ S, v ≤ L.rxAcceptReservedThrough.toNat

structure RxInv (k : LaneKey) (t : Trace P) : Prop where
  once : (t.taken.filter fun s => s.1 = k).Nodup
  present : (t.takenOn k).Nonempty → ∃ i, Holds t.eng k i
  covers : ∀ i, Holds t.eng k i → (t.eng.lanes i).Covers (t.takenOn k)

variable {eng eng' : Engine P} {t t' : Trace P} {S : Set ℕ}

/-- A lane that was just installed. -/
theorem covers_installed {laneKind : UInt8} {contextId : UInt32} {keyGeneration : UInt64} :
    (Lane.installed laneKind contextId keyGeneration).Covers ∅ :=
  ⟨represents_restart (by simp), by simp⟩

/-- A lane that was just restarted. -/
theorem covers_restarted {L : Lane} (h : ∀ v ∈ S, v ≤ L.rxAcceptReservedThrough.toNat) :
    L.restarted.Covers S :=
  ⟨represents_restart h, h⟩

/-- A lane whose receiving half is the same. -/
theorem Lane.Covers.congr {L L' : Lane} (h : L.Covers S) (hw : L'.window = L.window)
    (ht : L'.rxAcceptReservedThrough = L.rxAcceptReservedThrough) : L'.Covers S :=
  ⟨hw ▸ h.represents, ht ▸ h.through⟩

/-- A lane that takes a fresh counter. -/
theorem Lane.Covers.mark {L : Lane} {c : UInt64} (h : L.Covers S) (hmax : c ≠ u64Max)
    (hfresh : L.window.Fresh c.toNat) : (L.rxMark c).Covers (insert c.toNat S) := by
  obtain ⟨hc, hle⟩ := Lane.rxMark_through (L := L) hmax
  constructor
  · rw [Lane.rxMark_window hfresh]
    exact h.represents.mark
  · rintro v (rfl | hv)
    · exact hc
    · exact (h.through v hv).trans hle

/-- A step that takes nothing, and after which every slot of the lane covers what was taken. -/
theorem RxInv.move (h : RxInv k t) (hkeep : KeepsThrough k t.eng eng')
    (hcover : ∀ j, Holds eng' k j → (eng'.lanes j).Covers (t.takenOn k)) :
    RxInv k (t.move eng') where
  once := h.once
  present := by
    intro hne
    obtain ⟨i, hi⟩ := h.present hne
    obtain ⟨j, hj, -⟩ := hkeep i hi
    exact ⟨j, hj⟩
  covers := hcover

/-- One slot overwritten by a lane of the same name and the same receiving half. -/
theorem RxInv.setLane (h : RxInv k t) {i : Fin laneSlots} {L : Lane}
    (huse : L.inUse = (t.eng.lanes i).inUse) (hkey : L.key = (t.eng.lanes i).key)
    (hw : L.window = (t.eng.lanes i).window)
    (ht : L.rxAcceptReservedThrough = (t.eng.lanes i).rxAcceptReservedThrough) :
    KeepsThrough k t.eng (t.eng.setLane i L) ∧ RxInv k (t.move (t.eng.setLane i L)) := by
  have hholds : ∀ j, Holds (t.eng.setLane i L) k j ↔ Holds t.eng k j := by
    intro j
    by_cases hj : j = i
    · subst hj
      simp [Holds, huse, hkey]
    · simp [Holds, hj]
  have hsame : ∀ j, ((t.eng.setLane i L).lanes j).window = (t.eng.lanes j).window ∧
      ((t.eng.setLane i L).lanes j).rxAcceptReservedThrough =
        (t.eng.lanes j).rxAcceptReservedThrough := by
    intro j
    by_cases hj : j = i
    · subst hj
      simp [hw, ht]
    · simp [hj]
  have hkeep : KeepsThrough k t.eng (t.eng.setLane i L) := fun j hj =>
    ⟨j, (hholds j).2 hj, UInt64.le_iff_toNat_le.2 (by rw [(hsame j).2])⟩
  exact ⟨hkeep, h.move hkeep fun j hj =>
    (h.covers j ((hholds j).1 hj)).congr (hsame j).1 (hsame j).2⟩

/-- A free slot that gets a lane of a new name. -/
theorem RxInv.install (h : RxInv k t) {i : Fin laneSlots} {laneKind : UInt8} {contextId : UInt32}
    {keyGeneration : UInt64} (hfree : (t.eng.lanes i).inUse = false)
    (hnew : ∀ j, (t.eng.lanes j).inUse = true →
      ¬((t.eng.lanes j).laneKind = laneKind ∧ (t.eng.lanes j).contextId = contextId)) :
    KeepsThrough k t.eng (t.eng.setLane i (.installed laneKind contextId keyGeneration)) ∧
      RxInv k (t.move (t.eng.setLane i (.installed laneKind contextId keyGeneration))) := by
  have hother : ∀ j, j ≠ i →
      (t.eng.setLane i (.installed laneKind contextId keyGeneration)).lanes j = t.eng.lanes j := by
    intro j hj
    simp [hj]
  have hkeep : KeepsThrough k t.eng
      (t.eng.setLane i (.installed laneKind contextId keyGeneration)) := by
    intro j hj
    have hji : j ≠ i := by
      rintro rfl
      rw [hj.1] at hfree
      exact absurd hfree (by decide)
    refine ⟨j, ?_⟩
    rw [Holds, hother j hji]
    exact ⟨hj, UInt64.le_refl _⟩
  refine ⟨hkeep, h.move hkeep fun j hj => ?_⟩
  by_cases hji : j = i
  · -- the new lane is `k`, so `k` was nowhere and nothing was taken on it
    subst hji
    have hnamed : (Lane.installed laneKind contextId keyGeneration).key = k := by
      have := hj.2
      simpa using this
    have hnone : t.takenOn k = ∅ := by
      rw [← Set.not_nonempty_iff_eq_empty]
      intro hne
      obtain ⟨a, ha, hakey⟩ := h.present hne
      have hboth := hakey.trans hnamed.symm
      exact hnew a ha ⟨congrArg LaneKey.laneKind hboth, congrArg LaneKey.contextId hboth⟩
    rw [hnone, Engine.setLane_lanes, Function.update_self]
    exact covers_installed
  · rw [Holds, hother j hji] at hj
    rw [hother j hji]
    exact h.covers j hj

/-- A counter is taken. -/
theorem RxInv.rxAdmit (h : RxInv k t) (hwf : WellFormed t.eng) (slot : ℕ) (c : UInt64) :
    KeepsThrough k t.eng (t.rxAdmit slot c).eng ∧ RxInv k (t.rxAdmit slot c) := by
  rcases laneRxAdmit_cases t.eng slot c with ⟨hno, hst⟩ | ⟨hslot, huse, -, hmax, hfresh, hdone⟩
  · have hsame : t.rxAdmit slot c = t.move t.eng := by
      unfold Trace.rxAdmit Trace.move
      rw [if_neg hst, hno]
    have hkeep : KeepsThrough k t.eng t.eng := fun i hi => ⟨i, hi, UInt64.le_refl _⟩
    rw [hsame]
    exact ⟨hkeep, h.move hkeep h.covers⟩
  · obtain ⟨hu, hk, hc, hg, -⟩ := Lane.rxMark_frame (t.eng.lanes ⟨slot, hslot⟩) c
    have hkey : ((t.eng.lanes ⟨slot, hslot⟩).rxMark c).key = (t.eng.lanes ⟨slot, hslot⟩).key := by
      rw [Lane.key, Lane.key, hk, hc, hg]
    have htrace : t.rxAdmit slot c = { t.move (t.eng.setLane ⟨slot, hslot⟩
          ((t.eng.lanes ⟨slot, hslot⟩).rxMark c)) with
        taken := ((t.eng.lanes ⟨slot, hslot⟩).key, c) :: t.taken } := by
      unfold Trace.rxAdmit keyAt
      rw [hdone, if_pos rfl, dif_pos hslot]
    have hholds : ∀ j, Holds (t.rxAdmit slot c).eng k j ↔ Holds t.eng k j := by
      intro j
      rw [htrace]
      by_cases hj : j = ⟨slot, hslot⟩
      · subst hj
        simp [Holds, Trace.move, hu, hkey]
      · simp [Holds, Trace.move, hj]
    have hkeep : KeepsThrough k t.eng (t.rxAdmit slot c).eng := by
      intro j hj
      refine ⟨j, (hholds j).2 hj, ?_⟩
      rw [htrace, UInt64.le_iff_toNat_le]
      by_cases hji : j = ⟨slot, hslot⟩
      · subst hji
        simpa [Trace.move] using (Lane.rxMark_through hmax).2
      · simp [Trace.move, hji]
    refine ⟨hkeep, ?_⟩
    by_cases hkk : (t.eng.lanes ⟨slot, hslot⟩).key = k
    · have hset : (t.rxAdmit slot c).takenOn k = insert c.toNat (t.takenOn k) := by
        ext v
        rw [htrace]
        simp [Trace.takenOn, hkk, eq_comm]
      have hcov := h.covers ⟨slot, hslot⟩ ⟨huse, hkk⟩
      refine ⟨?_, fun _ => ⟨⟨slot, hslot⟩, (hholds _).2 ⟨huse, hkk⟩⟩, fun j hj => ?_⟩
      · have hnot : (k, c) ∉ t.taken := fun hmem =>
          (hcov.represents.fresh_iff.1 hfresh).2.1 ⟨(k, c), hmem, rfl, rfl⟩
        rw [htrace]
        simpa [List.filter_cons, hkk, hnot] using h.once
      · have hj' : j = ⟨slot, hslot⟩ := hwf.holds_unique ((hholds j).1 hj) ⟨huse, hkk⟩
        rw [hset, hj', htrace]
        simpa [Trace.move] using hcov.mark hmax hfresh
    · have hset : (t.rxAdmit slot c).takenOn k = t.takenOn k := by
        ext v
        rw [htrace]
        simp [Trace.takenOn, hkk]
      refine ⟨?_, ?_, fun j hj => ?_⟩
      · rw [htrace]
        simpa [List.filter_cons, hkk] using h.once
      · rw [hset]
        intro hne
        obtain ⟨i, hi⟩ := h.present hne
        exact ⟨i, (hholds i).2 hi⟩
      · have hj' := (hholds j).1 hj
        have hji : j ≠ ⟨slot, hslot⟩ := by
          rintro rfl
          exact hkk hj'.2
        rw [hset, htrace]
        simpa [Trace.move, hji] using h.covers j hj'

/-- A restart whose durable limit is up to date. -/
theorem RxInv.restart (h : RxInv k t) (hwf : WellFormed eng') {snap fresh : Engine P}
    {outCapacity : ℕ} {bytes : List UInt8} (hok : ThroughCurrent k t.eng snap)
    (henc : restartEncode snap outCapacity = .ok bytes)
    (hdec : restartDecode fresh bytes = (.ok, eng')) :
    KeepsThrough k t.eng eng' ∧ RxInv k (t.move eng') := by
  have hplace : ∀ i, Holds t.eng k i → ∃ j, ∃ L : Lane, Holds eng' k j ∧ eng'.lanes j = L.restarted ∧
      L.rxAcceptReservedThrough = (t.eng.lanes i).rxAcceptReservedThrough := by
    intro i hi
    obtain ⟨j, hj, hthr⟩ := hok i hi
    obtain ⟨i', hi'⟩ := (restart_cases henc hdec).2 j hj.1
    refine ⟨i', snap.lanes j, ?_, hi', hthr⟩
    rw [Holds, hi']
    exact hj
  have hkeep : KeepsThrough k t.eng eng' := by
    intro i hi
    obtain ⟨j, L, hj, hL, hthr⟩ := hplace i hi
    refine ⟨j, hj, ?_⟩
    rw [hL, ← hthr]
    exact UInt64.le_refl _
  refine ⟨hkeep, h.move hkeep fun j hj => ?_⟩
  by_cases hne : (t.takenOn k).Nonempty
  · obtain ⟨i, hi⟩ := h.present hne
    obtain ⟨j', L, hj', hL, hthr⟩ := hplace i hi
    have hjj : j = j' := hwf.holds_unique hj hj'
    rw [hjj, hL]
    refine covers_restarted fun v hv => ?_
    rw [hthr]
    exact (h.covers i hi).through v hv
  · obtain ⟨i, hi, hL⟩ := (restart_cases henc hdec).1 j hj.1
    rw [hL, Set.not_nonempty_iff_eq_empty.1 hne]
    exact covers_restarted (by simp)

/-- **What one step keeps.** -/
theorem RxInv.step (h : RxInv k t) (hall : ∀ e ∈ t.past, WellFormed e) (hmem : t.eng ∈ t.past)
    (hstep : Step (ThroughCurrent k) t t') : KeepsThrough k t.eng t'.eng ∧ RxInv k t' := by
  have hwf := hall _ hmem
  have hstay : KeepsThrough k t.eng t.eng := fun i hi => ⟨i, hi, UInt64.le_refl _⟩
  cases hstep with
  | install laneKind contextId keyGeneration =>
    rcases laneInstall_cases t.eng laneKind contextId keyGeneration with
      hsame | ⟨i, hfree, hnew, hset⟩
    · rw [hsame]
      exact ⟨hstay, h.move hstay h.covers⟩
    · rw [hset]
      exact h.install hfree hnew
  | allocate slot =>
    have hmove : ∀ e, KeepsThrough k t.eng e ∧ RxInv k (t.move e) →
        (laneTxAllocate t.eng slot).2.1 = e →
          KeepsThrough k t.eng (t.allocate slot).eng ∧ RxInv k (t.allocate slot) := by
      rintro _ ⟨hkeep, honce, hpresent, hcovers⟩ rfl
      exact ⟨hkeep, honce, hpresent, hcovers⟩
    rcases laneTxAllocate_cases t.eng slot with ⟨hno, -⟩ | ⟨hslot, L', huse, -, hres, hcase⟩
    · exact hmove _ ⟨hstay, h.move hstay h.covers⟩ (by rw [hno])
    · have hsame : L'.window = (t.eng.lanes ⟨slot, hslot⟩).window ∧
          L'.rxAcceptReservedThrough = (t.eng.lanes ⟨slot, hslot⟩).rxAcceptReservedThrough := by
        unfold Lane.txReserve at hres
        split_ifs at hres
        · obtain ⟨U, -, rfl⟩ := Option.map_eq_some_iff.1 hres
          exact ⟨rfl, rfl⟩
        · rw [Option.some.inj hres]
          exact ⟨rfl, rfl⟩
      obtain ⟨-, -, -, huse', hkey⟩ := Lane.txReserve_spec (hwf.txOk _ huse) hres
      rcases hcase with ⟨-, hdone⟩ | hdone
      · exact hmove _ (h.setLane huse' hkey hsame.1 hsame.2) (by rw [hdone])
      · refine hmove _ (h.setLane (L := { L' with txRamNext := L'.txRamNext + 1 }) huse' hkey
          hsame.1 hsame.2) (by rw [hdone])
  | rxAdmit slot counter => exact h.rxAdmit hwf slot counter
  | fence slot => exact h.setLane rfl rfl rfl rfl
  | other eng hlanes =>
    have hkeep : KeepsThrough k t.eng eng := by
      intro i hi
      refine ⟨i, ?_⟩
      rw [Holds, hlanes]
      exact ⟨hi, UInt64.le_refl _⟩
    refine ⟨hkeep, h.move hkeep fun j hj => ?_⟩
    rw [Holds, hlanes] at hj
    rw [hlanes]
    exact h.covers j hj
  | restart snap fresh eng outCapacity bytes hsnap hok henc hdec =>
    exact h.restart ((hall snap hsnap).restart henc hdec) hok henc hdec

/-- **The invariant of a run.** -/
theorem Run.rxInv (h : Run (ThroughCurrent k) t) : RxInv k t := by
  induction h with
  | refl =>
    exact ⟨by simp [Trace.start], by simp [Trace.start, Trace.takenOn],
      fun i hi => by simp [Holds, Trace.start, Engine.init, Lane.zero] at hi⟩
  | tail hrun hstep ih =>
    obtain ⟨hmem, hall⟩ := Run.wellFormed hrun
    exact (ih.step hall hmem hstep).2

/-- **Counters are taken once**: every state of a run is safe, and from it on the durable limit
never goes down. -/
theorem rx_counters_taken_once (h : Run (ThroughCurrent k) t) :
    RxSafe k t ∧
      ∀ t', Relation.ReflTransGen (Step (ThroughCurrent k)) t t' → KeepsThrough k t.eng t'.eng := by
  have hinv := h.rxInv
  refine ⟨⟨hinv.once, fun s hs hsk => ?_, fun i hi hfence hglobal c h0 hmax => ?_⟩,
    fun t' hsteps => ?_⟩
  · obtain ⟨i, hi⟩ := hinv.present ⟨s.2.toNat, s, hs, hsk, rfl⟩
    refine ⟨i, hi, UInt64.le_iff_toNat_le.2 ?_⟩
    exact (hinv.covers i hi).through _ ⟨s, hs, hsk, rfl⟩
  · have hfresh := (hinv.covers i hi).represents.fresh_iff (v := c.toNat)
    rw [laneRxAdmit_eq_ok hi.1 hfence hglobal h0 hmax, hfresh]
    refine and_congr UInt64.lt_iff_toNat_lt.symm (and_congr (not_congr ?_) ?_)
    · constructor
      · rintro ⟨s, hs, hsk, hval⟩
        rw [← hsk, ← UInt64.toNat_inj.1 hval]
        exact hs
      · exact fun hs => ⟨(k, c), hs, rfl, rfl⟩
    · constructor
      · intro hnear s hs hsk
        rcases hnear _ ⟨s, hs, hsk, rfl⟩ with hlt | hle
        · omega
        · omega
      · rintro hnear v ⟨s, hs, hsk, rfl⟩
        have := hnear s hs hsk
        omega
  · induction hsteps with
    | refl => exact fun i hi => ⟨i, hi, UInt64.le_refl _⟩
    | tail hsteps hstep ih =>
      have hmid : Run (ThroughCurrent k) _ := Relation.ReflTransGen.trans h hsteps
      obtain ⟨hmem, hall⟩ := Run.wellFormed hmid
      intro i hi
      obtain ⟨j, hj, hle⟩ := ih i hi
      obtain ⟨j', hj', hle'⟩ := (hmid.rxInv.step hall hmem hstep).1 j hj
      exact ⟨j', hj', UInt64.le_trans hle hle'⟩

/-! ### A run -/

/-- The lane of the run below. -/
def windowKey : LaneKey := ⟨3, 7, 2⟩

/-- A lane is installed and takes two counters, one far above the other. -/
def windowBefore : Trace controllerProfile :=
  (((Trace.start _).move (laneInstall (Engine.init _) 3 7 2).2.1).rxAdmit 0 5).rxAdmit 0 300

/-- The snapshot that is made now. -/
def windowSnapshot : List UInt8 := ((restartEncode windowBefore.eng 4096).toOption).getD []

/-- The engine restarts, refuses a counter below its floor and takes one above it. -/
def windowAfter : Trace controllerProfile :=
  ((windowBefore.move (restartDecode (Engine.init _) windowSnapshot).2).rxAdmit 0 363).rxAdmit 0 364

instance (k : LaneKey) (crash snap : Engine P) : Decidable (ThroughCurrent k crash snap) :=
  inferInstanceAs (Decidable (∀ _ : Fin laneSlots, _ → ∃ _ : Fin laneSlots, _ ∧ _))

theorem window_run_safe :
    windowAfter.taken.map (·.2) = [364, 300, 5] ∧ RxSafe windowKey windowAfter := by
  have henc : restartEncode windowBefore.eng 4096 = .ok windowSnapshot := by decide +kernel
  have hdec : (restartDecode (Engine.init controllerProfile) windowSnapshot).1 = .ok := by
    decide +kernel
  have hok : ThroughCurrent windowKey windowBefore.eng windowBefore.eng := by decide +kernel
  have hbefore : Run (ThroughCurrent windowKey) windowBefore :=
    ((Relation.ReflTransGen.single (.install _ 3 7 2)).tail (.rxAdmit _ 0 5)).tail (.rxAdmit _ 0 300)
  have hafter : Run (ThroughCurrent windowKey) windowAfter :=
    ((hbefore.tail (.restart _ _ _ _ _ _ (List.mem_cons_self ..) hok henc
      (Prod.ext hdec rfl))).tail (.rxAdmit _ 0 363)).tail (.rxAdmit _ 0 364)
  exact ⟨by decide +kernel, (rx_counters_taken_once hafter).1⟩

end Ninlil.R7Frag
