import Ninlil.R7Frag.LaneRuns

/-!
# Counters are sent once

A counter of a lane is the nonce of an encryption, so it must never be returned twice.

* `TxSafe`: each counter of a lane was returned at most once, lies between 1 and the last counter
  and below the reserved limit, and the lane refuses at the top of the range;
* `ReservationCurrent`: a restart from a snapshot whose durable reservation is up to date;
* `NextCurrent`: the snapshot also has a next counter that is up to date;
* `tx_counters_sent_once`: every run whose restarts are of the second kind is safe;
* `stale_restart_sends_twice`: a run with one restart of the first kind that is not.

The decoder restores the next counter from the snapshot, where the specification of the lanes
restarts it at the reserved limit.
-/

namespace Ninlil.R7Frag

variable {P : Profile} {k : LaneKey}

/-- The snapshot has the reservation that the lane has at the crash. -/
def ReservationCurrent (k : LaneKey) (crash snap : Engine P) : Prop :=
  ∀ i, Holds crash k i → ∃ j, Holds snap k j ∧
    (snap.lanes j).txReservedExclusive = (crash.lanes i).txReservedExclusive

/-- The snapshot has that reservation and does not have an older next counter. -/
def NextCurrent (k : LaneKey) (crash snap : Engine P) : Prop :=
  ∀ i, Holds crash k i → ∃ j, Holds snap k j ∧
    (snap.lanes j).txReservedExclusive = (crash.lanes i).txReservedExclusive ∧
    (crash.lanes i).txRamNext ≤ (snap.lanes j).txRamNext

/-- What the counters returned on lane `k` so far satisfy. -/
structure TxSafe (k : LaneKey) (t : Trace P) : Prop where
  once : (t.sent.filter fun s => s.1 = k).Nodup
  range : ∀ s ∈ t.sent, s.1 = k → 1 ≤ s.2.toNat ∧ s.2.toNat ≤ 2 ^ 64 - 2
  reserved : ∀ s ∈ t.sent, s.1 = k →
    ∃ i, Holds t.eng k i ∧ s.2.toNat < (t.eng.lanes i).txReservedExclusive.toNat
  refuses : ∀ i, Holds t.eng k i → (t.eng.lanes i).txRamNext = u64Max →
    (laneTxAllocate t.eng i.val).2 = (t.eng, none)

/-! ### The invariant -/

/-- Every counter returned so far is below the next one. -/
structure TxInv (k : LaneKey) (t : Trace P) : Prop where
  once : (t.sent.filter fun s => s.1 = k).Nodup
  range : ∀ s ∈ t.sent, s.1 = k → 1 ≤ s.2.toNat ∧ s.2.toNat ≤ 2 ^ 64 - 2
  below : ∀ s ∈ t.sent, s.1 = k →
    ∃ i, Holds t.eng k i ∧ s.2.toNat < (t.eng.lanes i).txRamNext.toNat

/-- The lane is still there, and its next counter did not go down. -/
def KeepsNext (k : LaneKey) (eng eng' : Engine P) : Prop :=
  ∀ i, Holds eng k i → ∃ j, Holds eng' k j ∧
    (eng.lanes i).txRamNext.toNat ≤ (eng'.lanes j).txRamNext.toNat

variable {eng eng' : Engine P} {t : Trace P}

theorem KeepsNext.refl : KeepsNext k eng eng := fun i hi => ⟨i, hi, le_rfl⟩

/-- A slot overwritten by a lane of the same name whose next counter did not go down. -/
theorem keepsNext_setLane {i : Fin laneSlots} {L : Lane} (huse : L.inUse = (eng.lanes i).inUse)
    (hkey : L.key = (eng.lanes i).key)
    (hnext : (eng.lanes i).txRamNext.toNat ≤ L.txRamNext.toNat) :
    KeepsNext k eng (eng.setLane i L) := by
  intro j hj
  refine ⟨j, ?_⟩
  by_cases hji : j = i
  · subst hji
    simp only [Holds, Engine.setLane_lanes, Function.update_self]
    exact ⟨⟨huse.trans hj.1, hkey.trans hj.2⟩, hnext⟩
  · simp only [Holds, Engine.setLane_lanes, Function.update_of_ne hji]
    exact ⟨hj, le_rfl⟩

/-- A free slot that is taken. -/
theorem keepsNext_free {i : Fin laneSlots} {L : Lane} (hfree : (eng.lanes i).inUse = false) :
    KeepsNext k eng (eng.setLane i L) := by
  intro j hj
  have hji : j ≠ i := by
    rintro rfl
    rw [hj.1] at hfree
    exact absurd hfree (by decide)
  refine ⟨j, ?_⟩
  simp only [Holds, Engine.setLane_lanes, Function.update_of_ne hji]
  exact ⟨hj, le_rfl⟩

/-- A step that returns no counter. -/
theorem TxInv.move (h : TxInv k t) (hkeep : KeepsNext k t.eng eng') : TxInv k (t.move eng') where
  once := h.once
  range := h.range
  below := by
    intro s hs hsk
    obtain ⟨i, hi, hlt⟩ := h.below s hs hsk
    obtain ⟨j, hj, hle⟩ := hkeep i hi
    exact ⟨j, hj, hlt.trans_le hle⟩

/-- A step that returns the counter `c` of lane `k'`. -/
theorem TxInv.send (h : TxInv k t) (hkeep : KeepsNext k t.eng eng') {k' : LaneKey} {c : UInt64}
    (hnew : k' = k → (1 ≤ c.toNat ∧ c.toNat ≤ 2 ^ 64 - 2) ∧
      (∀ s ∈ t.sent, s.1 = k → s.2.toNat < c.toNat) ∧
      ∃ j, Holds eng' k j ∧ c.toNat < (eng'.lanes j).txRamNext.toNat) :
    TxInv k { t.move eng' with sent := (k', c) :: t.sent } where
  once := by
    have hold := h.once
    by_cases hk : k' = k
    · have hfresh := (hnew hk).2.1
      have hnot : (k', c) ∉ t.sent.filter fun s => s.1 = k := by
        intro hmem
        obtain ⟨hs, hsk⟩ := List.mem_filter.1 hmem
        exact lt_irrefl _ (hfresh (k', c) hs (by simpa using hsk))
      simpa [List.filter_cons, hk] using ⟨by simpa [hk] using hnot, hold⟩
    · simpa [List.filter_cons, hk] using hold
  range := by
    intro s hs hsk
    rcases List.mem_cons.1 hs with rfl | hs
    · exact (hnew hsk).1
    · exact h.range s hs hsk
  below := by
    intro s hs hsk
    rcases List.mem_cons.1 hs with rfl | hs
    · exact (hnew hsk).2.2
    · obtain ⟨i, hi, hlt⟩ := h.below s hs hsk
      obtain ⟨j, hj, hle⟩ := hkeep i hi
      exact ⟨j, hj, hlt.trans_le hle⟩

/-- An allocation. -/
theorem TxInv.allocate (h : TxInv k t) (hwf : WellFormed t.eng) (slot : ℕ) :
    TxInv k (t.allocate slot) := by
  rcases laneTxAllocate_cases t.eng slot with ⟨hno, -⟩ | ⟨hslot, L', huse, htop, hres, hcase⟩
  · have hsame : t.allocate slot = t.move t.eng := by
      unfold Trace.allocate Trace.move
      simp [hno]
    rw [hsame]
    exact h.move .refl
  · have hok := hwf.txOk ⟨slot, hslot⟩ huse
    obtain ⟨hnext, hlt, -, huse', hkey⟩ := Lane.txReserve_spec hok hres
    rcases hcase with ⟨hzero, -⟩ | hdone
    · have hpos := hok.1
      rw [← hnext, hzero] at hpos
      exact absurd hpos (by decide)
    · have hsucc := toNat_succ_of_lt hlt
      have htrace : t.allocate slot = { t.move (t.eng.setLane ⟨slot, hslot⟩
            { L' with txRamNext := L'.txRamNext + 1 }) with
          sent := ((t.eng.lanes ⟨slot, hslot⟩).key, L'.txRamNext) :: t.sent } := by
        unfold Trace.allocate keyAt
        rw [hdone, dif_pos hslot]
        rfl
      have hkeep : KeepsNext k t.eng (t.eng.setLane ⟨slot, hslot⟩
          { L' with txRamNext := L'.txRamNext + 1 }) := by
        refine keepsNext_setLane huse' hkey ?_
        have hle : (t.eng.lanes ⟨slot, hslot⟩).txRamNext.toNat ≤ (L'.txRamNext + 1).toNat := by
          rw [hsucc, hnext]
          exact Nat.le_succ _
        exact hle
      rw [htrace]
      refine h.send hkeep fun hk => ⟨⟨?_, ?_⟩, fun s hs hsk => ?_, ⟨slot, hslot⟩, ?_, ?_⟩
      · rw [hnext]
        exact hok.1
      · have hmax := UInt64.lt_iff_toNat_lt.1 htop
        have hval : u64Max.toNat = 2 ^ 64 - 1 := rfl
        rw [hnext]
        omega
      · obtain ⟨i, hi, hbelow⟩ := h.below s hs hsk
        have hi' : i = ⟨slot, hslot⟩ := hwf.holds_unique hi ⟨huse, hk⟩
        rw [hnext, ← hi']
        exact hbelow
      · simp only [Holds, Engine.setLane_lanes, Function.update_self]
        exact ⟨huse'.trans huse, hkey.trans hk⟩
      · simp only [Engine.setLane_lanes, Function.update_self, hsucc]
        omega

/-- Taking a counter. -/
theorem TxInv.rxAdmit (h : TxInv k t) (slot : ℕ) (counter : UInt64) :
    TxInv k (t.rxAdmit slot counter) := by
  have hkeep : KeepsNext k t.eng (laneRxAdmit t.eng slot counter).2 := by
    rcases laneRxAdmit_cases t.eng slot counter with hno | ⟨hslot, -, -, -, -, hdone⟩
    · rw [hno.1]
      exact .refl
    · obtain ⟨hu, hk, hc, hg, -, hn, -⟩ :=
        Lane.rxMark_frame (t.eng.lanes ⟨slot, hslot⟩) counter
      have hkey : ((t.eng.lanes ⟨slot, hslot⟩).rxMark counter).key =
          (t.eng.lanes ⟨slot, hslot⟩).key := by
        rw [Lane.key, Lane.key, hk, hc, hg]
      rw [hdone]
      exact keepsNext_setLane hu hkey (by rw [hn])
  obtain ⟨honce, hrange, hbelow⟩ := h.move hkeep
  exact ⟨honce, hrange, hbelow⟩

/-- A restart whose next counter is up to date. -/
theorem NextCurrent.keepsNext {snap fresh : Engine P} {outCapacity : ℕ} {bytes : List UInt8}
    (h : NextCurrent k eng snap) (henc : restartEncode snap outCapacity = .ok bytes)
    (hdec : restartDecode fresh bytes = (.ok, eng')) : KeepsNext k eng eng' := by
  intro i hi
  obtain ⟨j, hj, -, hle⟩ := h i hi
  obtain ⟨i', hi'⟩ := (restart_cases henc hdec).2 j hj.1
  refine ⟨i', ?_⟩
  rw [Holds, hi']
  exact ⟨hj, UInt64.le_iff_toNat_le.1 hle⟩

/-- **The invariant of a run**, by what each step does to the next counter. -/
theorem Run.txInv (h : Run (NextCurrent k) t) : TxInv k t := by
  induction h with
  | refl => exact ⟨by simp [Trace.start], by simp [Trace.start], by simp [Trace.start]⟩
  | tail hrun hstep ih =>
    obtain ⟨hmem, hall⟩ := Run.wellFormed hrun
    have hwf := hall _ hmem
    cases hstep with
    | install laneKind contextId keyGeneration =>
      refine ih.move ?_
      rcases laneInstall_cases _ laneKind contextId keyGeneration with hsame | ⟨i, hfree, -, hset⟩
      · rw [hsame]
        exact .refl
      · rw [hset]
        exact keepsNext_free hfree
    | allocate slot => exact ih.allocate hwf slot
    | rxAdmit slot counter => exact ih.rxAdmit slot counter
    | fence slot => exact ih.move (keepsNext_setLane rfl rfl le_rfl)
    | other eng hlanes =>
      refine ih.move fun i hi => ⟨i, ?_⟩
      rw [Holds, hlanes]
      exact ⟨hi, le_rfl⟩
    | restart snap fresh eng outCapacity bytes hsnap hok henc hdec =>
      exact ih.move (hok.keepsNext henc hdec)

/-! ### The result -/

/-- **Counters are sent once**, in every run whose restarts have an up-to-date next counter. -/
theorem tx_counters_sent_once (h : Run (NextCurrent k) t) : TxSafe k t := by
  obtain ⟨hmem, hall⟩ := Run.wellFormed h
  have hwf := hall _ hmem
  have hinv := h.txInv
  refine ⟨hinv.once, hinv.range, fun s hs hsk => ?_, fun i hi htop => ?_⟩
  · obtain ⟨i, hi, hlt⟩ := hinv.below s hs hsk
    obtain ⟨-, hle, hres⟩ := hwf.txOk i hi.1
    rw [← hres] at hle
    exact ⟨i, hi, hlt.trans_le hle⟩
  · rcases laneTxAllocate_cases t.eng i.val with ⟨hno, -⟩ | ⟨hslot, -, -, hlt, -⟩
    · exact hno
    · have hsame : (⟨i.val, hslot⟩ : Fin laneSlots) = i := rfl
      rw [hsame, htop] at hlt
      exact absurd hlt (by decide)

/-! ### Two restarts -/

/-- The lane of the run below. -/
def staleKey : LaneKey := ⟨1, 3, 1⟩

/-- A lane is installed and one counter is drawn, which reserves the first block. -/
def staleBefore : Trace controllerProfile :=
  ((Trace.start _).move (laneInstall (Engine.init _) 1 3 1).2.1).allocate 0

/-- The snapshot that is made now. -/
def staleSnapshot : List UInt8 := ((restartEncode staleBefore.eng 4096).toOption).getD []

/-- Another counter is drawn from the same block, the engine restarts from the snapshot, and one
more counter is drawn. -/
def staleAfter : Trace controllerProfile :=
  ((staleBefore.allocate 0).move
    (restartDecode (Engine.init _) staleSnapshot).2).allocate 0

instance (k : LaneKey) (crash snap : Engine P) : Decidable (ReservationCurrent k crash snap) :=
  inferInstanceAs (Decidable (∀ _ : Fin laneSlots, _ → ∃ _ : Fin laneSlots, _ ∧ _))

/-- The same run with a snapshot that is made just before the restart. -/
def freshAfter : Trace controllerProfile :=
  ((staleBefore.allocate 0).move (restartDecode (Engine.init _)
    (((restartEncode (staleBefore.allocate 0).eng 4096).toOption).getD [])).2).allocate 0

instance (k : LaneKey) (crash snap : Engine P) : Decidable (NextCurrent k crash snap) :=
  inferInstanceAs (Decidable (∀ _ : Fin laneSlots, _ → ∃ _ : Fin laneSlots, _ ∧ _ ∧ _))

theorem fresh_restart_sends_once :
    freshAfter.sent.map (·.2) = [3, 2, 1] ∧ TxSafe staleKey freshAfter := by
  refine ⟨by decide +kernel, tx_counters_sent_once ?_⟩
  have henc : restartEncode (staleBefore.allocate 0).eng 4096 =
      .ok (((restartEncode (staleBefore.allocate 0).eng 4096).toOption).getD []) := by
    decide +kernel
  have hdec : (restartDecode (Engine.init controllerProfile)
      (((restartEncode (staleBefore.allocate 0).eng 4096).toOption).getD [])).1 = .ok := by
    decide +kernel
  have hok : NextCurrent staleKey (staleBefore.allocate 0).eng (staleBefore.allocate 0).eng := by
    decide +kernel
  have hbefore : Run (NextCurrent staleKey) (staleBefore.allocate 0) :=
    ((Relation.ReflTransGen.single (.install _ 1 3 1)).tail (.allocate _ 0)).tail (.allocate _ 0)
  exact (hbefore.tail (.restart _ _ _ _ _ _ (List.mem_cons_self ..) hok henc
    (Prod.ext hdec rfl))).tail (.allocate _ 0)

/-- **The counter 2 is sent twice.** -/
theorem stale_restart_sends_twice :
    ¬ ∀ (k : LaneKey) (t : Trace controllerProfile), Run (ReservationCurrent k) t → TxSafe k t := by
  intro h
  have henc : restartEncode staleBefore.eng 4096 = .ok staleSnapshot := by decide +kernel
  have hdec : (restartDecode (Engine.init controllerProfile) staleSnapshot).1 = .ok := by
    decide +kernel
  have hok : ReservationCurrent staleKey (staleBefore.allocate 0).eng staleBefore.eng := by
    decide +kernel
  have hbefore : Run (ReservationCurrent staleKey) staleBefore :=
    (Relation.ReflTransGen.single (.install _ 1 3 1)).tail (.allocate _ 0)
  have hpast : staleBefore.eng ∈ (staleBefore.allocate 0).past :=
    List.mem_cons_of_mem _ (List.mem_cons_self ..)
  have hafter : Run (ReservationCurrent staleKey) staleAfter :=
    ((hbefore.tail (.allocate _ 0)).tail
      (.restart _ _ _ _ _ _ hpast hok henc (Prod.ext hdec rfl))).tail (.allocate _ 0)
  have honce := (h staleKey staleAfter hafter).once
  have htwice : ¬ (staleAfter.sent.filter fun s => s.1 = staleKey).Nodup := by decide +kernel
  exact htwice honce

end Ninlil.R7Frag
