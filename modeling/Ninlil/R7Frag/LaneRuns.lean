import Ninlil.R7Frag.Snapshot

/-!
# Runs over the lanes

What can happen to the lanes of an engine between its first start and any later moment, restarts
included.

* `LaneKey`, `Holds`: a lane by kind, context and key generation, and the slot it lives in;
* `Trace`: the engine, every engine there was so far, and the counters sent and taken on each lane;
* `Step`: one call of a lane function, any change of the engine outside the lanes, or a restart from
  a snapshot of an engine there was, when `ok` allows it;
* `laneInstall_cases`, `laneTxAllocate_cases`, `laneRxAdmit_cases`, `restart_cases`: all that each of
  them can do;
* `WellFormed`: no two lanes of one kind and context, and every sending half in order.
-/

namespace Ninlil.R7Frag

variable {P : Profile}

/-! ### Traces -/

/-- What names a lane. -/
structure LaneKey where
  laneKind : UInt8
  contextId : UInt32
  keyGeneration : UInt64
  deriving DecidableEq

def Lane.key (L : Lane) : LaneKey := ⟨L.laneKind, L.contextId, L.keyGeneration⟩

/-- The lane `k` lives in slot `i`. -/
def Holds (eng : Engine P) (k : LaneKey) (i : Fin laneSlots) : Prop :=
  (eng.lanes i).inUse = true ∧ (eng.lanes i).key = k

instance (eng : Engine P) (k : LaneKey) (i : Fin laneSlots) : Decidable (Holds eng k i) :=
  inferInstanceAs (Decidable (_ ∧ _))

/-- An engine with its past. -/
structure Trace (P : Profile) where
  eng : Engine P
  /-- Every engine so far, the current one first. -/
  past : List (Engine P)
  /-- The counters that `ninlil_r7_frag_lane_tx_allocate` returned. -/
  sent : List (LaneKey × UInt64)
  /-- The counters that `ninlil_r7_frag_lane_rx_admit` took. -/
  taken : List (LaneKey × UInt64)

/-- A fresh engine. -/
def Trace.start (P : Profile) : Trace P := ⟨.init P, [.init P], [], []⟩

/-- The engine moves on. -/
def Trace.move (t : Trace P) (eng : Engine P) : Trace P := { t with eng, past := eng :: t.past }

/-- The key of the lane in a slot. -/
def keyAt (eng : Engine P) (slot : ℕ) : LaneKey :=
  if h : slot < laneSlots then (eng.lanes ⟨slot, h⟩).key else ⟨0, 0, 0⟩

/-- A call of `ninlil_r7_frag_lane_tx_allocate`. -/
def Trace.allocate (t : Trace P) (slot : ℕ) : Trace P :=
  { t.move (laneTxAllocate t.eng slot).2.1 with
    sent := ((laneTxAllocate t.eng slot).2.2.map fun c => (keyAt t.eng slot, c)).toList ++ t.sent }

/-- A call of `ninlil_r7_frag_lane_rx_admit`. -/
def Trace.rxAdmit (t : Trace P) (slot : ℕ) (counter : UInt64) : Trace P :=
  { t.move (laneRxAdmit t.eng slot counter).2 with
    taken := if (laneRxAdmit t.eng slot counter).1 = .ok then (keyAt t.eng slot, counter) :: t.taken
      else t.taken }

/-- One step.  `ok crash snap` says which engines `snap` a restart may come from when the engine is
`crash`. -/
inductive Step (ok : Engine P → Engine P → Prop) : Trace P → Trace P → Prop
  | install (t : Trace P) (laneKind : UInt8) (contextId : UInt32) (keyGeneration : UInt64) :
      Step ok t (t.move (laneInstall t.eng laneKind contextId keyGeneration).2.1)
  | allocate (t : Trace P) (slot : ℕ) : Step ok t (t.allocate slot)
  | rxAdmit (t : Trace P) (slot : ℕ) (counter : UInt64) : Step ok t (t.rxAdmit slot counter)
  | fence (t : Trace P) (slot : Fin laneSlots) : Step ok t (t.move (laneFence t.eng slot))
  | other (t : Trace P) (eng : Engine P) (h : eng.lanes = t.eng.lanes) : Step ok t (t.move eng)
  | restart (t : Trace P) (snap fresh eng : Engine P) (outCapacity : ℕ) (bytes : List UInt8)
      (hsnap : snap ∈ t.past) (hok : ok t.eng snap)
      (henc : restartEncode snap outCapacity = .ok bytes)
      (hdec : restartDecode fresh bytes = (.ok, eng)) : Step ok t (t.move eng)

/-- A run from a fresh engine. -/
def Run (ok : Engine P → Engine P → Prop) (t : Trace P) : Prop :=
  Relation.ReflTransGen (Step ok) (.start P) t

/-! ### All that a call can do -/

variable {eng : Engine P}

/-- An installation writes a free slot, and only for a kind and context that no lane has. -/
theorem laneInstall_cases (eng : Engine P) (laneKind : UInt8) (contextId : UInt32)
    (keyGeneration : UInt64) :
    (laneInstall eng laneKind contextId keyGeneration).2.1 = eng ∨
      ∃ i, (eng.lanes i).inUse = false ∧
        (∀ j, (eng.lanes j).inUse = true →
          ¬((eng.lanes j).laneKind = laneKind ∧ (eng.lanes j).contextId = contextId)) ∧
        (laneInstall eng laneKind contextId keyGeneration).2.1 =
          eng.setLane i (.installed laneKind contextId keyGeneration) := by
  unfold laneInstall
  split_ifs with hkind hctx hdup
  · exact .inl rfl
  · exact .inl rfl
  · exact .inl rfl
  · split
    · rename_i i hfind
      refine .inr ⟨i, by simpa using List.find?_some hfind, fun j hj hsame => ?_, rfl⟩
      refine hdup (List.any_eq_true.2 ⟨j, List.mem_finRange j, ?_⟩)
      simp [hj, hsame.1, hsame.2]
    · exact .inl rfl

/-- An allocation returns the next counter of a lane in use, with a block for it reserved. -/
theorem laneTxAllocate_cases (eng : Engine P) (slot : ℕ) :
    ((laneTxAllocate eng slot).2 = (eng, none) ∧ (laneTxAllocate eng slot).1 ≠ .ok) ∨
      ∃ h : slot < laneSlots, ∃ L', (eng.lanes ⟨slot, h⟩).inUse = true ∧
        (eng.lanes ⟨slot, h⟩).txRamNext < u64Max ∧
        (eng.lanes ⟨slot, h⟩).txReserve = some L' ∧
        ((L'.txRamNext = 0 ∧ laneTxAllocate eng slot =
            (.resource, eng.setLane ⟨slot, h⟩ L', none)) ∨
          laneTxAllocate eng slot =
            (.ok, eng.setLane ⟨slot, h⟩ { L' with txRamNext := L'.txRamNext + 1 },
              some L'.txRamNext)) := by
  unfold laneTxAllocate
  by_cases h : slot < laneSlots
  · rw [dif_pos h]
    dsimp only
    by_cases huse : (eng.lanes ⟨slot, h⟩).inUse = false
    · rw [if_pos huse]
      exact .inl ⟨rfl, by simp⟩
    rw [if_neg huse]
    by_cases hfence : (eng.lanes ⟨slot, h⟩).txFenced = true ∨ eng.globalFence ≠ 0
    · rw [if_pos hfence]
      exact .inl ⟨rfl, by simp⟩
    rw [if_neg hfence]
    by_cases htop : (eng.lanes ⟨slot, h⟩).txRamNext ≥ u64Max
    · rw [if_pos htop]
      exact .inl ⟨rfl, by simp⟩
    rw [if_neg htop]
    cases hres : (eng.lanes ⟨slot, h⟩).txReserve with
    | none => exact .inl ⟨rfl, by simp⟩
    | some L' =>
      have hnext : L'.txRamNext = (eng.lanes ⟨slot, h⟩).txRamNext := by
        unfold Lane.txReserve at hres
        split_ifs at hres
        · obtain ⟨U, -, rfl⟩ := Option.map_eq_some_iff.1 hres
          rfl
        · rw [Option.some.inj hres]
      have hlt : (eng.lanes ⟨slot, h⟩).txRamNext < u64Max := UInt64.not_le.1 htop
      refine .inr ⟨h, L', by simpa using huse, hlt, hres, ?_⟩
      dsimp only
      by_cases hzero : L'.txRamNext = 0
      · left
        rw [if_pos (by simp [txCounterAssignable, hzero])]
        exact ⟨hzero, rfl⟩
      · right
        have hset : ¬ txCounterAssignable L'.txRamNext = false := by
          rw [txCounterAssignable, hnext]
          rw [hnext] at hzero
          simp [hzero, hlt]
        rw [if_neg hset]
  · rw [dif_neg h]
    exact .inl ⟨rfl, by simp⟩

/-- A counter is taken exactly when its lane is in use and not fenced, and its window finds it
fresh. -/
theorem laneRxAdmit_cases (eng : Engine P) (slot : ℕ) (counter : UInt64) :
    ((laneRxAdmit eng slot counter).2 = eng ∧ (laneRxAdmit eng slot counter).1 ≠ .ok) ∨
      ∃ h : slot < laneSlots, (eng.lanes ⟨slot, h⟩).inUse = true ∧ counter ≠ 0 ∧
        counter ≠ u64Max ∧ (eng.lanes ⟨slot, h⟩).window.Fresh counter.toNat ∧
        laneRxAdmit eng slot counter =
          (.ok, eng.setLane ⟨slot, h⟩ ((eng.lanes ⟨slot, h⟩).rxMark counter)) := by
  unfold laneRxAdmit
  by_cases h : slot < laneSlots
  · rw [dif_pos h]
    by_cases huse : (eng.lanes ⟨slot, h⟩).inUse = false
    · rw [if_pos huse]
      exact .inl ⟨rfl, by simp⟩
    rw [if_neg huse]
    cases hpre : laneRxPrecheck eng slot counter with
    | ok =>
      unfold laneRxPrecheck at hpre
      rw [dif_pos h] at hpre
      dsimp only at hpre
      split_ifs at hpre with hfence hdomain hreplay
      refine .inr ⟨h, by simpa using huse, fun h0 => hdomain (.inl h0), fun h1 => hdomain (.inr h1),
        ?_, rfl⟩
      exact Lane.rxReplay_eq_false.1 (by simpa using hreplay)
    | _ => exact .inl ⟨rfl, by simp⟩
  · rw [dif_neg h]
    exact .inl ⟨rfl, by simp⟩

/-- What an unfenced lane takes. -/
theorem laneRxAdmit_eq_ok {i : Fin laneSlots} {counter : UInt64}
    (huse : (eng.lanes i).inUse = true) (hfence : (eng.lanes i).rxFenced = false)
    (hglobal : eng.globalFence = 0) (h0 : counter ≠ 0) (hmax : counter ≠ u64Max) :
    (laneRxAdmit eng i.val counter).1 = .ok ↔ (eng.lanes i).window.Fresh counter.toNat := by
  have hslot : i.val < laneSlots := i.isLt
  have hpre : laneRxPrecheck eng i.val counter =
      if (eng.lanes i).rxReplay counter then .replay else .ok := by
    unfold laneRxPrecheck
    rw [dif_pos hslot]
    simp [huse, hfence, hglobal, h0, hmax]
  unfold laneRxAdmit
  rw [dif_pos hslot, if_neg (by simp [huse]), hpre, ← Lane.rxReplay_eq_false]
  cases (eng.lanes i).rxReplay counter
  · simp
  · simp

/-! ### Well-formed lanes -/

/-- The sending half of a lane in order. -/
def Lane.TxOk (L : Lane) : Prop :=
  L.inUse = true → 1 ≤ L.txRamNext.toNat ∧ L.txRamNext.toNat ≤ L.txRamLimit.toNat ∧
    L.txReservedExclusive = L.txRamLimit

/-- No two lanes of one kind and context, and every sending half in order. -/
structure WellFormed (eng : Engine P) : Prop where
  unique : ∀ i j, (eng.lanes i).inUse = true → (eng.lanes j).inUse = true →
    (eng.lanes i).laneKind = (eng.lanes j).laneKind →
    (eng.lanes i).contextId = (eng.lanes j).contextId → i = j
  txOk : ∀ i, (eng.lanes i).TxOk

variable {k : LaneKey}

/-- A lane lives in one slot. -/
theorem WellFormed.holds_unique (h : WellFormed eng) {i j : Fin laneSlots} (hi : Holds eng k i)
    (hj : Holds eng k j) : i = j := by
  have hkey := hi.2.trans hj.2.symm
  exact h.unique i j hi.1 hj.1 (congrArg LaneKey.laneKind hkey) (congrArg LaneKey.contextId hkey)

theorem wellFormed_init : WellFormed (Engine.init P) where
  unique := fun i _ hi => by simp [Engine.init, Lane.zero] at hi
  txOk := fun i hi => by simp [Engine.init, Lane.zero] at hi

/-- A lane overwritten by one of the same name. -/
theorem WellFormed.setLane (h : WellFormed eng) {i : Fin laneSlots} {L : Lane}
    (huse : L.inUse = (eng.lanes i).inUse) (hkind : L.laneKind = (eng.lanes i).laneKind)
    (hctx : L.contextId = (eng.lanes i).contextId) (htx : L.TxOk) :
    WellFormed (eng.setLane i L) := by
  have hsame : ∀ j, ((eng.setLane i L).lanes j).inUse = (eng.lanes j).inUse ∧
      ((eng.setLane i L).lanes j).laneKind = (eng.lanes j).laneKind ∧
      ((eng.setLane i L).lanes j).contextId = (eng.lanes j).contextId := by
    intro j
    by_cases hj : j = i
    · subst hj
      simp [huse, hkind, hctx]
    · simp [hj]
  constructor
  · intro a b ha hb hk hc
    rw [(hsame a).1] at ha
    rw [(hsame b).1] at hb
    rw [(hsame a).2.1, (hsame b).2.1] at hk
    rw [(hsame a).2.2, (hsame b).2.2] at hc
    exact h.unique a b ha hb hk hc
  · intro j
    by_cases hj : j = i
    · subst hj
      simpa using htx
    · simpa [hj] using h.txOk j

/-- A free slot that gets a lane of a new name. -/
theorem WellFormed.install (h : WellFormed eng) {i : Fin laneSlots} {laneKind : UInt8}
    {contextId : UInt32} {keyGeneration : UInt64}
    (hnew : ∀ j, (eng.lanes j).inUse = true →
      ¬((eng.lanes j).laneKind = laneKind ∧ (eng.lanes j).contextId = contextId)) :
    WellFormed (eng.setLane i (.installed laneKind contextId keyGeneration)) := by
  have hat : ∀ j, j ≠ i →
      (eng.setLane i (.installed laneKind contextId keyGeneration)).lanes j = eng.lanes j := by
    intro j hj
    simp [hj]
  have hnewlane : (eng.setLane i (.installed laneKind contextId keyGeneration)).lanes i =
      .installed laneKind contextId keyGeneration := by simp
  constructor
  · intro a b ha hb hk hc
    by_cases hai : a = i
    · by_cases hbi : b = i
      · exact hai.trans hbi.symm
      · rw [hai, hnewlane, hat b hbi] at hk hc
        rw [hat b hbi] at hb
        exact absurd ⟨hk.symm, hc.symm⟩ (hnew b hb)
    · by_cases hbi : b = i
      · rw [hbi, hnewlane, hat a hai] at hk hc
        rw [hat a hai] at ha
        exact absurd ⟨hk, hc⟩ (hnew a ha)
      · rw [hat a hai] at ha hk hc
        rw [hat b hbi] at hb hk hc
        exact h.unique a b ha hb hk hc
  · intro j
    by_cases hj : j = i
    · rw [hj, hnewlane]
      exact fun _ => ⟨le_rfl, le_rfl, rfl⟩
    · rw [hat j hj]
      exact h.txOk j

/-! ### Restarts -/

/-- A lane in use is listed, and a listed lane is in use. -/
theorem mem_usedLanes {L : Lane} :
    L ∈ eng.usedLanes ↔ ∃ i, (eng.lanes i).inUse = true ∧ eng.lanes i = L := by
  simp only [Engine.usedLanes, List.mem_filter, List.mem_map, List.mem_finRange, true_and]
  constructor
  · rintro ⟨⟨i, rfl⟩, hu⟩
    exact ⟨i, hu, rfl⟩
  · rintro ⟨i, hu, rfl⟩
    exact ⟨⟨i, rfl⟩, hu⟩

/-- The list names each lane once. -/
theorem WellFormed.usedLanes_nodup (h : WellFormed eng) :
    (eng.usedLanes.map fun L => (L.laneKind, L.contextId)).Nodup := by
  have hpair : (List.finRange laneSlots).Pairwise fun i j => (eng.lanes i).inUse = true →
      (eng.lanes j).inUse = true → ((eng.lanes i).laneKind, (eng.lanes i).contextId) ≠
        ((eng.lanes j).laneKind, (eng.lanes j).contextId) := by
    refine (List.nodup_finRange laneSlots).imp fun {i j} hij hi hj heq => ?_
    exact hij (h.unique i j hi hj (congrArg Prod.fst heq) (congrArg Prod.snd heq))
  rw [List.Nodup, List.pairwise_map, Engine.usedLanes, List.pairwise_filter, List.pairwise_map]
  exact hpair

section Restart

variable {snap fresh : Engine P} {outCapacity : ℕ} {bytes : List UInt8}

/-- After a restart, a lane in use is a restarted lane of the snapshot, and each of those is
there. -/
theorem restart_cases (henc : restartEncode snap outCapacity = .ok bytes)
    (hdec : restartDecode fresh bytes = (.ok, eng)) :
    (∀ i, (eng.lanes i).inUse = true → ∃ j, (snap.lanes j).inUse = true ∧
      eng.lanes i = (snap.lanes j).restarted) ∧
    (∀ j, (snap.lanes j).inUse = true → ∃ i, eng.lanes i = (snap.lanes j).restarted) := by
  have hat := restart_lanes henc hdec
  constructor
  · intro i hi
    rw [hat i] at hi
    cases hget : snap.usedLanes[i.val]? with
    | none =>
      rw [hget] at hi
      simp [Lane.zero] at hi
    | some L =>
      obtain ⟨j, hj, rfl⟩ := mem_usedLanes.1 (List.mem_of_getElem? hget)
      refine ⟨j, hj, ?_⟩
      rw [hat i, hget]
      rfl
  · intro j hj
    obtain ⟨n, hn⟩ := List.getElem?_of_mem (mem_usedLanes.2 ⟨j, hj, rfl⟩)
    have hlt : n < laneSlots := by
      obtain ⟨hlen, -⟩ := List.getElem?_eq_some_iff.1 hn
      exact hlen.trans_le (length_usedLanes_le snap)
    refine ⟨⟨n, hlt⟩, ?_⟩
    rw [hat ⟨n, hlt⟩, hn]
    rfl

/-- A restart keeps the lanes well formed. -/
theorem WellFormed.restart (h : WellFormed snap)
    (henc : restartEncode snap outCapacity = .ok bytes)
    (hdec : restartDecode fresh bytes = (.ok, eng)) : WellFormed eng := by
  have hat := restart_lanes henc hdec
  have hget : ∀ i, (eng.lanes i).inUse = true →
      ∃ L, snap.usedLanes[i.val]? = some L ∧ eng.lanes i = L.restarted := by
    intro i hi
    rw [hat i] at hi
    cases hL : snap.usedLanes[i.val]? with
    | none =>
      rw [hL] at hi
      simp [Lane.zero] at hi
    | some L =>
      refine ⟨L, rfl, ?_⟩
      rw [hat i, hL]
      rfl
  constructor
  · intro i j hi hj hk hc
    obtain ⟨L, hL, hiL⟩ := hget i hi
    obtain ⟨M, hM, hjM⟩ := hget j hj
    rw [hiL, hjM] at hk hc
    have hname : (snap.usedLanes.map fun N => (N.laneKind, N.contextId))[i.val]? =
        (snap.usedLanes.map fun N => (N.laneKind, N.contextId))[j.val]? := by
      have hk' : L.laneKind = M.laneKind := hk
      have hc' : L.contextId = M.contextId := hc
      simp [hL, hM, hk', hc']
    have hlen : i.val < (snap.usedLanes.map fun N => (N.laneKind, N.contextId)).length := by
      rw [List.length_map]
      exact (List.getElem?_eq_some_iff.1 hL).1
    exact Fin.ext ((List.getElem?_inj hlen h.usedLanes_nodup).1 hname)
  · intro i hi
    obtain ⟨j, hj, hlane⟩ := (restart_cases henc hdec).1 i hi
    rw [hlane]
    exact h.txOk j hj

end Restart

/-! ### What every run keeps -/

/-- A new block is not empty and does not wrap. -/
theorem txExclusiveGrow_gt {limit U : UInt64} (h : txExclusiveGrow limit txBlock = some U) :
    limit.toNat < U.toNat := by
  have h64 : txBlock.toNat = 64 := rfl
  have hmax : u64Max.toNat = 2 ^ 64 - 1 := rfl
  unfold txExclusiveGrow at h
  by_cases hge : limit ≥ u64Max
  · simp [hge] at h
  · have hlt : limit.toNat < 2 ^ 64 - 1 := by
      rw [← hmax]
      exact UInt64.lt_iff_toNat_lt.1 (UInt64.not_le.1 hge)
    have hroom : (u64Max - limit).toNat = 2 ^ 64 - 1 - limit.toNat :=
      toNat_sub_of_le (UInt64.le_iff_toNat_le.2 (by omega))
    rw [if_neg (by decide), if_neg hge] at h
    by_cases hzero : u64Max - limit = 0
    · simp [hzero] at h
    · rw [if_neg hzero] at h
      by_cases hshort : u64Max - limit < txBlock
      · rw [if_pos hshort] at h
        have hsum : (limit + (u64Max - limit)).toNat = limit.toNat + (u64Max - limit).toNat :=
          toNat_add_of_lt (by omega)
        rw [← Option.some.inj h, hsum]
        omega
      · have hwide := UInt64.le_iff_toNat_le.1 (UInt64.not_lt.1 hshort)
        rw [if_neg hshort] at h
        have hsum : (limit + txBlock).toNat = limit.toNat + txBlock.toNat :=
          toNat_add_of_lt (by omega)
        rw [← Option.some.inj h, hsum]
        omega

/-- A block reserved before a counter is drawn. -/
theorem Lane.txReserve_spec {L L' : Lane} (hok : 1 ≤ L.txRamNext.toNat ∧
      L.txRamNext.toNat ≤ L.txRamLimit.toNat ∧ L.txReservedExclusive = L.txRamLimit)
    (h : L.txReserve = some L') :
    L'.txRamNext = L.txRamNext ∧ L'.txRamNext.toNat < L'.txRamLimit.toNat ∧
      L'.txReservedExclusive = L'.txRamLimit ∧ L'.inUse = L.inUse ∧ L'.key = L.key := by
  unfold Lane.txReserve at h
  by_cases hdry : L.txRamNext = L.txRamLimit
  · rw [if_pos hdry] at h
    obtain ⟨U, hU, rfl⟩ := Option.map_eq_some_iff.1 h
    refine ⟨rfl, ?_, rfl, rfl, rfl⟩
    rw [hdry]
    exact txExclusiveGrow_gt hU
  · rw [if_neg hdry] at h
    obtain rfl := Option.some.inj h
    have hne : L.txRamNext.toNat ≠ L.txRamLimit.toNat := fun he => hdry (UInt64.toNat_inj.1 he)
    exact ⟨rfl, by omega, hok.2.2, rfl, rfl⟩

/-- The next counter does not wrap. -/
theorem toNat_succ_of_lt {a b : UInt64} (h : a.toNat < b.toNat) : (a + 1).toNat = a.toNat + 1 := by
  have hb := b.toNat_lt
  exact toNat_add_of_lt (by rw [show (1 : UInt64).toNat = 1 from rfl]; omega)

/-- An allocation keeps the lanes well formed. -/
theorem WellFormed.allocate (h : WellFormed eng) (slot : ℕ) :
    WellFormed (laneTxAllocate eng slot).2.1 := by
  rcases laneTxAllocate_cases eng slot with hno | ⟨hslot, L', huse, -, hres, hcase⟩
  · rw [hno.1]
    exact h
  · have hok := h.txOk ⟨slot, hslot⟩ huse
    obtain ⟨hnext, hlt, hreserved, huse', hkey⟩ := Lane.txReserve_spec hok hres
    have hkind := congrArg LaneKey.laneKind hkey
    have hctx := congrArg LaneKey.contextId hkey
    rcases hcase with ⟨hzero, -⟩ | hdone
    · have hpos := hok.1
      rw [← hnext, hzero] at hpos
      exact absurd hpos (by decide)
    · rw [hdone]
      refine h.setLane huse' hkind hctx fun _ => ⟨?_, ?_, hreserved⟩
      · simp only [toNat_succ_of_lt hlt]
        omega
      · simp only [toNat_succ_of_lt hlt]
        omega

/-- Taking a counter keeps the lanes well formed. -/
theorem WellFormed.rxAdmit (h : WellFormed eng) (slot : ℕ) (counter : UInt64) :
    WellFormed (laneRxAdmit eng slot counter).2 := by
  rcases laneRxAdmit_cases eng slot counter with hno | ⟨hslot, huse, -, -, -, hdone⟩
  · rw [hno.1]
    exact h
  · obtain ⟨hu, hk, hc, -, hr, hn, hl⟩ := Lane.rxMark_frame (eng.lanes ⟨slot, hslot⟩) counter
    rw [hdone]
    refine h.setLane hu hk hc fun _ => ?_
    rw [hr, hn, hl]
    exact h.txOk _ huse

variable {ok : Engine P → Engine P → Prop} {t t' : Trace P}

/-- **Every engine of a run is well formed**, and the current one is among them. -/
theorem Run.wellFormed (h : Run ok t) : t.eng ∈ t.past ∧ ∀ e ∈ t.past, WellFormed e := by
  induction h with
  | refl => exact ⟨by simp [Trace.start], by simpa [Trace.start] using wellFormed_init⟩
  | tail _ hstep ih =>
    obtain ⟨hmem, hall⟩ := ih
    have hmove : ∀ {t : Trace P} {eng : Engine P}, (∀ e ∈ t.past, WellFormed e) →
        WellFormed eng → eng ∈ eng :: t.past ∧ ∀ e ∈ eng :: t.past, WellFormed e := by
      intro t eng ht heng
      refine ⟨by simp, fun e he => ?_⟩
      rcases List.mem_cons.1 he with rfl | he
      · exact heng
      · exact ht e he
    cases hstep with
    | install laneKind contextId keyGeneration =>
      refine hmove hall ?_
      rcases laneInstall_cases _ laneKind contextId keyGeneration with hsame | ⟨i, -, hnew, hset⟩
      · rw [hsame]
        exact hall _ hmem
      · rw [hset]
        exact (hall _ hmem).install hnew
    | allocate slot => exact hmove hall ((hall _ hmem).allocate slot)
    | rxAdmit slot counter => exact hmove hall ((hall _ hmem).rxAdmit slot counter)
    | fence slot => exact hmove hall ((hall _ hmem).setLane rfl rfl rfl ((hall _ hmem).txOk slot))
    | other eng hlanes =>
      refine hmove hall ⟨?_, ?_⟩
      · rw [hlanes]
        exact (hall _ hmem).unique
      · rw [hlanes]
        exact (hall _ hmem).txOk
    | restart snap fresh eng outCapacity bytes hsnap hok henc hdec =>
      exact hmove hall ((hall snap hsnap).restart henc hdec)

end Ninlil.R7Frag
