import Ninlil.R7Frag.Lane

/-!
# The restart snapshot

`ninlil_r7_frag_restart_encode` and `ninlil_r7_frag_restart_decode`: the lanes and the link groups,
one after the other, behind a header that counts them.  Reassembly slots, tombstones and the
publication are left out on purpose.

* `laneBytes`, `linkBytes`, `restartEncode`;
* `restoreLanes`, `restoreLinks`, `restartDecode`: the decoder, with its exits;
* `Lane.restarted`: what the decoder makes of a lane;
* `restart_lanes`: after a successful restart from a snapshot of `p`, the lanes are those of `p`
  that were in use, in order, each restarted.
-/

namespace Ninlil.R7Frag

open Bytes

/-! ### Encoding -/

/-- `NINLIL_R7_FRAG_SNAP_MAGIC`. -/
def snapMagic : UInt32 := 0x52374653
/-- `NINLIL_R7_FRAG_SNAP_VERSION`. -/
def snapVersion : ℕ := 1
/-- `SNAP_HDR_LEN`. -/
def snapHdrLen : ℕ := 24
/-- `SNAP_LANE_LEN`. -/
def snapLaneLen : ℕ := 70

/-- The two fence bits of a lane. -/
def laneFlags (L : Lane) : UInt8 := (if L.txFenced then 1 else 0) ||| (if L.rxFenced then 2 else 0)

/-- The bytes of one lane. -/
def laneBytes (L : Lane) : List UInt8 :=
  L.laneKind :: laneFlags L :: (storeU32Be L.contextId ++ (storeU64Be L.keyGeneration
    ++ (storeU64Be L.txReservedExclusive ++ (storeU64Be L.txRamNext ++ (storeU64Be L.txRamLimit
    ++ (storeU64Be L.rxAcceptReservedThrough ++ (storeU64Be L.rxBootFloor
    ++ (storeU64Be L.rxRamHighest ++ storeU64Be L.rxBitmap))))))))

/-- The bytes of one link group. -/
def linkBytes (G : LinkGroup) : List UInt8 :=
  G.ackRequested :: G.completed :: (storeU32Be G.hopDataContextId ++ (storeU64Be G.e2eCounterFixed
    ++ (storeU16Be G.e2eBlob.length ++ (storeU64Be G.groupAbsoluteDeadline
    ++ (storeU64Be G.enclosingOwnerDeadline ++ (storeU64Be G.eligibleAt
    ++ (G.hopAttempts :: G.pendingCount :: G.e2eBlob)))))))

variable {P : Profile}

/-- The lanes in use, in slot order. -/
def Engine.usedLanes (eng : Engine P) : List Lane :=
  ((List.finRange laneSlots).map eng.lanes).filter (·.inUse)

/-- The link groups in use, in slot order. -/
def Engine.usedLinks (eng : Engine P) : List LinkGroup :=
  ((List.finRange linkGroupSlots).map eng.links).filter (·.inUse)

/-- The bytes in front of the lanes. -/
def headerBytes (eng : Engine P) : List UInt8 :=
  storeU32Be snapMagic ++ (storeU16Be snapVersion ++ (storeU16Be eng.usedLanes.length
    ++ (storeU16Be 0 ++ (storeU16Be eng.usedLinks.length ++ (storeU64Be eng.nowMono
    ++ (eng.globalFence :: 0 :: storeU16Be 0))))))

/-- `ninlil_r7_frag_restart_encode` into a buffer of `outCapacity` bytes. -/
def restartEncode (eng : Engine P) (outCapacity : ℕ) : Except Status (List UInt8) :=
  let need := snapHdrLen + eng.usedLanes.length * snapLaneLen
    + (eng.usedLinks.map fun G => 1 + 1 + 4 + 8 + 2 + 8 + 8 + 8 + 1 + 1 + G.e2eBlob.length).sum
  if outCapacity < need then .error .capacity
  else
    let out := headerBytes eng ++ (eng.usedLanes.flatMap laneBytes
      ++ eng.usedLinks.flatMap linkBytes)
    if out.length ≠ need then .error .internalContract else .ok out

/-! ### Decoding -/

/-- One lane, as its fields stand in the snapshot. -/
def loadLane (rest : List UInt8) : Lane × List UInt8 :=
  let (laneKind, rest) := loadU8 rest
  let (flags, rest) := loadU8 rest
  let (contextId, rest) := loadU32Be rest
  let (keyGeneration, rest) := loadU64Be rest
  let (txReservedExclusive, rest) := loadU64Be rest
  let (txRamNext, rest) := loadU64Be rest
  let (txRamLimit, rest) := loadU64Be rest
  let (rxAcceptReservedThrough, rest) := loadU64Be rest
  let (rxBootFloor, rest) := loadU64Be rest
  let (rxRamHighest, rest) := loadU64Be rest
  let (rxBitmap, rest) := loadU64Be rest
  (⟨true, laneKind, contextId, keyGeneration, txReservedExclusive, txRamNext, txRamLimit,
    flags &&& 1 != 0, rxAcceptReservedThrough, rxBootFloor, rxRamHighest, rxBitmap,
    (flags >>> 1) &&& 1 != 0⟩, rest)

/-- The floor of the receiver starts at the durable limit, and its window is empty. -/
def Lane.restarted (L : Lane) : Lane :=
  { L with
    rxBootFloor := L.rxAcceptReservedThrough
    rxRamHighest := L.rxAcceptReservedThrough
    rxBitmap := 0 }

/-- The check of a lane that was read. -/
def Lane.snapOk (L : Lane) : Bool :=
  contextOk L.contextId && L.keyGeneration != 0 && laneKindOk L.laneKind

/-- The loop over the lanes, from slot `slot` on.  An exit carries the engine it leaves behind. -/
def restoreLanes : ℕ → ℕ → List UInt8 → Engine P → Except (Engine P) (List UInt8 × Engine P)
  | 0, _, rest, eng => .ok (rest, eng)
  | count + 1, slot, rest, eng =>
    if h : slot < laneSlots then
      if rest.length < snapLaneLen then .error eng
      else if (loadLane rest).1.snapOk = false then .error (Engine.init P)
      else restoreLanes count (slot + 1) (loadLane rest).2
        (eng.setLane ⟨slot, h⟩ (loadLane rest).1.restarted)
    else .error eng

/-- One link group and the length of its blob, which is still unread. -/
def loadLink (rest : List UInt8) : LinkGroup × ℕ × List UInt8 :=
  let (ackRequested, rest) := loadU8 rest
  let (completed, rest) := loadU8 rest
  let (hopDataContextId, rest) := loadU32Be rest
  let (e2eCounterFixed, rest) := loadU64Be rest
  let (blen, rest) := loadU16Be rest
  let (groupAbsoluteDeadline, rest) := loadU64Be rest
  let (enclosingOwnerDeadline, rest) := loadU64Be rest
  let (eligibleAt, rest) := loadU64Be rest
  let (hopAttempts, rest) := loadU8 rest
  let (pendingCount, rest) := loadU8 rest
  (⟨true, ackRequested, hopAttempts, completed, hopDataContextId, e2eCounterFixed, [],
    groupAbsoluteDeadline, enclosingOwnerDeadline, eligibleAt, pendingCount⟩, blen, rest)

/-- The loop over the link groups.  The source checks for 36 bytes where a group has 42 in front of
its blob; a snapshot that ends in between is refused by the check of the blob. -/
def restoreLinks : ℕ → ℕ → List UInt8 → Engine P → Except (Engine P) (List UInt8 × Engine P)
  | 0, _, rest, eng => .ok (rest, eng)
  | count + 1, slot, rest, eng =>
    if h : slot < linkGroupSlots then
      if rest.length < 36 then .error (Engine.init P)
      else
        let (G, blen, blob) := loadLink rest
        if blen < 31 ∨ blen > 220 ∨ 42 + blen > rest.length then .error (Engine.init P)
        else
          let G' := { G with e2eBlob := blob.take blen, completed := 1, pendingCount := 0 }
          restoreLinks count (slot + 1) (blob.drop blen)
            { eng with links := Function.update eng.links ⟨slot, h⟩ G' }
    else .error (Engine.init P)

/-- `ninlil_r7_frag_restart_decode`. -/
def restartDecode (eng : Engine P) (input : List UInt8) : Status × Engine P :=
  if input.length < snapHdrLen then (.structural, eng)
  else
    let (magic, rest) := loadU32Be input
    let (version, rest) := loadU16Be rest
    let (laneCount, rest) := loadU16Be rest
    let (reasmCount, rest) := loadU16Be rest
    let (linkCount, rest) := loadU16Be rest
    if magic ≠ snapMagic then (.structural, eng)
    else if version ≠ snapVersion then (.structural, eng)
    else if reasmCount ≠ 0 then (.structural, eng)
    else if laneCount > laneSlots ∨ linkCount > linkGroupSlots then (.structural, eng)
    else if input.length < snapHdrLen + laneCount * snapLaneLen then (.structural, eng)
    else
      let (nowMono, rest) := loadU64Be rest
      let (globalFence, rest) := loadU8 rest
      let rest := rest.drop 3
      match restoreLanes laneCount 0 rest { Engine.init P with nowMono, globalFence } with
      | .error e => (.structural, e)
      | .ok (rest, e) =>
        match restoreLinks linkCount 0 rest e with
        | .error e => (.structural, e)
        | .ok (rest, e) => if rest ≠ [] then (.structural, Engine.init P) else (.ok, e)

/-! ### A restart -/

theorem length_laneBytes (L : Lane) : (laneBytes L).length = snapLaneLen := by
  simp [laneBytes, snapLaneLen]

/-- The fence bits are read back. -/
theorem laneFlags_bits (L : Lane) :
    (laneFlags L &&& 1 != 0) = L.txFenced ∧ ((laneFlags L >>> 1) &&& 1 != 0) = L.rxFenced := by
  unfold laneFlags
  cases L.txFenced
  · cases L.rxFenced
    · decide
    · decide
  · cases L.rxFenced
    · decide
    · decide

/-- A lane in use is read back. -/
theorem loadLane_append {L : Lane} (h : L.inUse = true) (rest : List UInt8) :
    loadLane (laneBytes L ++ rest) = (L, rest) := by
  obtain ⟨htx, hrx⟩ := laneFlags_bits L
  have hread : loadLane (laneBytes L ++ rest) = ({ L with inUse := true }, rest) := by
    simp only [loadLane, laneBytes, List.cons_append, List.append_assoc, loadU8_cons,
      loadU32Be_append, loadU64Be_append, htx, hrx]
  rw [hread, ← h]

/-- A table after one more entry was written, from slot `slot` on. -/
theorem table_cons {α : Type} {n slot : ℕ} {table table' : Fin n → α} {x : α} {xs : List α}
    (hslot : slot < n) (h : ∀ i : Fin n, table' i =
      if slot + 1 ≤ i.val then
        (xs[i.val - (slot + 1)]?).getD (Function.update table ⟨slot, hslot⟩ x i)
      else Function.update table ⟨slot, hslot⟩ x i) (i : Fin n) :
    table' i = if slot ≤ i.val then ((x :: xs)[i.val - slot]?).getD (table i) else table i := by
  rw [h i]
  by_cases hi : i.val = slot
  · have hat : i = ⟨slot, hslot⟩ := Fin.ext hi
    simp [hat]
  · have hne : i ≠ ⟨slot, hslot⟩ := fun he => hi (congrArg Fin.val he)
    rw [Function.update_of_ne hne]
    by_cases hlt : slot + 1 ≤ i.val
    · have hpos : i.val - slot = (i.val - (slot + 1)) + 1 := by omega
      rw [if_pos hlt, if_pos (by omega), hpos, List.getElem?_cons_succ]
    · rw [if_neg hlt, if_neg (by omega)]

/-- **The loop over the lanes of a snapshot.** -/
theorem restoreLanes_append (Ls : List Lane) (hused : ∀ L ∈ Ls, L.inUse = true) :
    ∀ {slot : ℕ} {rest rest' : List UInt8} {eng eng' : Engine P},
      restoreLanes Ls.length slot (Ls.flatMap laneBytes ++ rest) eng = .ok (rest', eng') →
        rest' = rest ∧ slot + Ls.length ≤ max slot laneSlots ∧
          ∀ i : Fin laneSlots, eng'.lanes i =
            if slot ≤ i.val then (Ls[i.val - slot]?.map Lane.restarted).getD (eng.lanes i)
            else eng.lanes i := by
  induction Ls with
  | nil =>
    intro slot rest rest' eng eng' h
    simp only [List.length_nil, restoreLanes, List.flatMap_nil, List.nil_append, Except.ok.injEq,
      Prod.mk.injEq] at h
    obtain ⟨rfl, rfl⟩ := h
    simp
  | cons L Ls ih =>
    intro slot rest rest' eng eng' h
    have hL : L.inUse = true := hused L (by simp)
    have hload := loadLane_append hL (Ls.flatMap laneBytes ++ rest)
    rw [List.length_cons, List.flatMap_cons, List.append_assoc, restoreLanes, hload] at h
    split_ifs at h with hslot hlen hok
    obtain ⟨hrest, hle, hlanes⟩ := ih (fun M hM => hused M (List.mem_cons_of_mem L hM)) h
    refine ⟨hrest, ?_, fun i => ?_⟩
    · rw [List.length_cons]
      omega
    · simp only [← List.getElem?_map, List.map_cons] at hlanes ⊢
      exact table_cons hslot hlanes i

/-- The loop over the link groups leaves the lanes. -/
theorem restoreLinks_lanes : ∀ (count : ℕ) {slot : ℕ} {rest rest' : List UInt8}
    {eng eng' : Engine P},
    restoreLinks count slot rest eng = .ok (rest', eng') → eng'.lanes = eng.lanes := by
  intro count
  induction count with
  | zero =>
    intro slot rest rest' eng eng' h
    simp only [restoreLinks, Except.ok.injEq, Prod.mk.injEq] at h
    rw [h.2]
  | succ count ih =>
    intro slot rest rest' eng eng' h
    rw [restoreLinks] at h
    split_ifs at h with hslot hlen
    dsimp only at h
    split_ifs at h with hblob
    have hlanes := ih h
    exact hlanes

theorem length_usedLanes_le (eng : Engine P) : eng.usedLanes.length ≤ laneSlots := by
  refine (List.length_filter_le _ _).trans ?_
  simp

theorem length_usedLinks_le (eng : Engine P) : eng.usedLinks.length ≤ linkGroupSlots := by
  refine (List.length_filter_le _ _).trans ?_
  simp

/-- **A restart.**  The lanes in use are restored in order, each with an empty window above its
durable limit; everything else about them is as it was in the snapshot. -/
theorem restart_lanes {p eng eng' : Engine P} {outCapacity : ℕ} {bytes : List UInt8}
    (henc : restartEncode p outCapacity = .ok bytes)
    (hdec : restartDecode eng bytes = (.ok, eng')) (i : Fin laneSlots) :
    eng'.lanes i = (p.usedLanes[i.val]?.map Lane.restarted).getD Lane.zero := by
  have hbytes : bytes = headerBytes p ++ (p.usedLanes.flatMap laneBytes
      ++ p.usedLinks.flatMap linkBytes) := by
    unfold restartEncode at henc
    dsimp only at henc
    split_ifs at henc with hcap hlen
    exact (Except.ok.inj henc).symm
  have hlanes16 : p.usedLanes.length < 2 ^ 16 :=
    (length_usedLanes_le p).trans_lt (by decide)
  have hlinks16 : p.usedLinks.length < 2 ^ 16 :=
    (length_usedLinks_le p).trans_lt (by decide)
  have hrefused : ∀ {e : Engine P}, ¬ (Status.structural, e) = (Status.ok, eng') := by simp
  subst hbytes
  unfold restartDecode at hdec
  simp only [headerBytes, List.append_assoc, List.cons_append, loadU32Be_append,
    loadU64Be_append, loadU8_cons, loadU16Be_append (show snapVersion < 2 ^ 16 by decide),
    loadU16Be_append (show 0 < 2 ^ 16 by decide), loadU16Be_append hlanes16,
    loadU16Be_append hlinks16] at hdec
  have hdrop : (0 :: (storeU16Be 0 ++ (p.usedLanes.flatMap laneBytes
      ++ p.usedLinks.flatMap linkBytes))).drop 3 =
        p.usedLanes.flatMap laneBytes ++ p.usedLinks.flatMap linkBytes := rfl
  rw [hdrop] at hdec
  split_ifs at hdec with h1 h2 h3 h4 h5 h6
  · exact (hrefused hdec).elim
  · exact (hrefused hdec).elim
  · exact (hrefused hdec).elim
  · exact (hrefused hdec).elim
  · exact (hrefused hdec).elim
  · exact (hrefused hdec).elim
  split at hdec
  · simp at hdec
  · rename_i rest e hrestore
    obtain ⟨-, -, hat⟩ := restoreLanes_append p.usedLanes
      (fun L hL => (List.mem_filter.1 hL).2) hrestore
    split at hdec
    · simp at hdec
    · rename_i rest' e' hlinks
      split_ifs at hdec with hnil
      · exact (hrefused hdec).elim
      have he : e' = eng' := (Prod.mk.inj hdec).2
      rw [← he, restoreLinks_lanes _ hlinks, hat i, if_pos (Nat.zero_le _)]
      rfl

end Ninlil.R7Frag
