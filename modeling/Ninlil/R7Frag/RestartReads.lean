import Ninlil.Lib.Reads
import Ninlil.R7Frag.Snapshot

/-!
# The reads of a restart

`ninlil_r7_frag_restart_decode` with each read of its input: a read behind the last byte has no
result.

* `loadLane?`, `loadLink?`, `restoreLanes?`, `restoreLinks?`, `restartDecode?`;
* `cutLink`: a snapshot that ends inside the fixed part of a link group, behind the 36 bytes that
  the source looks for;
* `restartDecode?_eq`: the decoder reads outside its input exactly for those;
* `restartDecode_spec`: what it accepts, and what it leaves behind when it refuses.
-/

namespace Ninlil.R7Frag

open Bytes

variable {P : Profile}

/-! ### Fields -/

def loadU8? : Reader UInt8 := inBounds 1 loadU8
def loadU16Be? : Reader ℕ := inBounds 2 loadU16Be
def loadU32Be? : Reader UInt32 := inBounds 4 loadU32Be
def loadU64Be? : Reader UInt64 := inBounds 8 loadU64Be

theorem reads_u8 : ReadsExactly 1 loadU8? loadU8 := .field fun _ => List.drop_one.symm
theorem reads_u16 : ReadsExactly 2 loadU16Be? loadU16Be := .field fun _ => rfl
theorem reads_u32 : ReadsExactly 4 loadU32Be? loadU32Be := .field fun _ => rfl
theorem reads_u64 : ReadsExactly 8 loadU64Be? loadU64Be := .field fun _ => rfl

/-- One lane, field by field. -/
def loadLane? : Reader Lane := do
  let laneKind ← loadU8?
  let flags ← loadU8?
  let contextId ← loadU32Be?
  let keyGeneration ← loadU64Be?
  let txReservedExclusive ← loadU64Be?
  let txRamNext ← loadU64Be?
  let txRamLimit ← loadU64Be?
  let rxAcceptReservedThrough ← loadU64Be?
  let rxBootFloor ← loadU64Be?
  let rxRamHighest ← loadU64Be?
  let rxBitmap ← loadU64Be?
  return ⟨true, laneKind, contextId, keyGeneration, txReservedExclusive, txRamNext, txRamLimit,
    flags &&& 1 != 0, rxAcceptReservedThrough, rxBootFloor, rxRamHighest, rxBitmap,
    (flags >>> 1) &&& 1 != 0⟩

/-- The fixed part of one link group, and the length of its blob. -/
def loadLink? : Reader (LinkGroup × ℕ) := do
  let ackRequested ← loadU8?
  let completed ← loadU8?
  let hopDataContextId ← loadU32Be?
  let e2eCounterFixed ← loadU64Be?
  let blen ← loadU16Be?
  let groupAbsoluteDeadline ← loadU64Be?
  let enclosingOwnerDeadline ← loadU64Be?
  let eligibleAt ← loadU64Be?
  let hopAttempts ← loadU8?
  let pendingCount ← loadU8?
  return (⟨true, ackRequested, hopAttempts, completed, hopDataContextId, e2eCounterFixed, [],
    groupAbsoluteDeadline, enclosingOwnerDeadline, eligibleAt, pendingCount⟩, blen)

/-- `SNAP_LANE_LEN` counts the fields of a lane. -/
theorem reads_lane : ReadsExactly snapLaneLen loadLane? loadLane := by
  have h := reads_u8.bind fun laneKind => reads_u8.bind fun flags => reads_u32.bind fun contextId =>
    reads_u64.bind fun keyGeneration => reads_u64.bind fun txReservedExclusive =>
    reads_u64.bind fun txRamNext => reads_u64.bind fun txRamLimit => reads_u64.bind fun through =>
    reads_u64.bind fun rxBootFloor => reads_u64.bind fun rxRamHighest =>
    reads_u64.bind fun rxBitmap => ReadsExactly.pure (⟨true, laneKind, contextId, keyGeneration,
      txReservedExclusive, txRamNext, txRamLimit, flags &&& 1 != 0, through, rxBootFloor,
      rxRamHighest, rxBitmap, (flags >>> 1) &&& 1 != 0⟩ : Lane)
  exact h

/-- The fields in front of a blob take 42 bytes. -/
theorem reads_link : ReadsExactly 42 loadLink?
    fun rest => (((loadLink rest).1, (loadLink rest).2.1), (loadLink rest).2.2) := by
  have h := reads_u8.bind fun ackRequested => reads_u8.bind fun completed =>
    reads_u32.bind fun hopDataContextId => reads_u64.bind fun e2eCounterFixed =>
    reads_u16.bind fun blen => reads_u64.bind fun groupAbsoluteDeadline =>
    reads_u64.bind fun enclosingOwnerDeadline => reads_u64.bind fun eligibleAt =>
    reads_u8.bind fun hopAttempts => reads_u8.bind fun pendingCount =>
    ReadsExactly.pure ((⟨true, ackRequested, hopAttempts, completed, hopDataContextId,
      e2eCounterFixed, [], groupAbsoluteDeadline, enclosingOwnerDeadline, eligibleAt,
      pendingCount⟩ : LinkGroup), blen)
  exact h

/-! ### The decoder -/

/-- The loop over the lanes. -/
def restoreLanes? : ℕ → ℕ → List UInt8 → Engine P →
    Option (Except (Engine P) (List UInt8 × Engine P))
  | 0, _, rest, eng => some (.ok (rest, eng))
  | count + 1, slot, rest, eng =>
    if h : slot < laneSlots then
      if rest.length < snapLaneLen then some (.error eng)
      else
        match loadLane? rest with
        | none => none
        | some (L, rest) =>
          if L.snapOk = false then some (.error (Engine.init P))
          else restoreLanes? count (slot + 1) rest (eng.setLane ⟨slot, h⟩ L.restarted)
    else some (.error eng)

/-- The loop over the link groups. -/
def restoreLinks? : ℕ → ℕ → List UInt8 → Engine P →
    Option (Except (Engine P) (List UInt8 × Engine P))
  | 0, _, rest, eng => some (.ok (rest, eng))
  | count + 1, slot, rest, eng =>
    if h : slot < linkGroupSlots then
      if rest.length < 36 then some (.error (Engine.init P))
      else
        match loadLink? rest with
        | none => none
        | some ((G, blen), blob) =>
          if blen < 31 ∨ blen > 220 ∨ 42 + blen > rest.length then some (.error (Engine.init P))
          else
            let G' := { G with e2eBlob := blob.take blen, completed := 1, pendingCount := 0 }
            restoreLinks? count (slot + 1) (blob.drop blen)
              { eng with links := Function.update eng.links ⟨slot, h⟩ G' }
    else some (.error (Engine.init P))

/-- The counts in front of a snapshot. -/
structure SnapHeader where
  magic : UInt32
  version : ℕ
  laneCount : ℕ
  reasmCount : ℕ
  linkCount : ℕ

/-- The first twelve bytes. -/
def loadHeader (input : List UInt8) : SnapHeader × List UInt8 :=
  let (magic, rest) := loadU32Be input
  let (version, rest) := loadU16Be rest
  let (laneCount, rest) := loadU16Be rest
  let (reasmCount, rest) := loadU16Be rest
  let (linkCount, rest) := loadU16Be rest
  (⟨magic, version, laneCount, reasmCount, linkCount⟩, rest)

def loadHeader? : Reader SnapHeader := do
  let magic ← loadU32Be?
  let version ← loadU16Be?
  let laneCount ← loadU16Be?
  let reasmCount ← loadU16Be?
  let linkCount ← loadU16Be?
  return ⟨magic, version, laneCount, reasmCount, linkCount⟩

/-- The clock and the fence, with the reserved bytes behind them, which are not read. -/
def loadClock (rest : List UInt8) : (UInt64 × UInt8) × List UInt8 :=
  let (nowMono, rest) := loadU64Be rest
  let (globalFence, rest) := loadU8 rest
  ((nowMono, globalFence), rest)

def loadClock? : Reader (UInt64 × UInt8) := do
  let nowMono ← loadU64Be?
  let globalFence ← loadU8?
  return (nowMono, globalFence)

/-- The checks of the header. -/
def SnapHeader.ok (H : SnapHeader) (inLen : ℕ) : Bool :=
  H.magic == snapMagic && H.version == snapVersion && H.reasmCount == 0 &&
    decide (H.laneCount ≤ laneSlots ∧ H.linkCount ≤ linkGroupSlots) &&
    decide (snapHdrLen + H.laneCount * snapLaneLen ≤ inLen)

/-- `ninlil_r7_frag_restart_decode`, with its reads. -/
def restartDecode? (eng : Engine P) (input : List UInt8) : Option (Status × Engine P) :=
  if input.length < snapHdrLen then some (.structural, eng)
  else
    match loadHeader? input with
    | none => none
    | some (H, rest) =>
      if H.ok input.length = false then some (.structural, eng)
      else
        match loadClock? rest with
        | none => none
        | some ((nowMono, globalFence), rest) =>
          match restoreLanes? H.laneCount 0 (rest.drop 3)
            { Engine.init P with nowMono, globalFence } with
          | none => none
          | some (.error e) => some (.structural, e)
          | some (.ok (rest, e)) =>
            match restoreLinks? H.linkCount 0 rest e with
            | none => none
            | some (.error e) => some (.structural, e)
            | some (.ok (rest, e)) =>
              if rest ≠ [] then some (.structural, Engine.init P) else some (.ok, e)

/-! ### Snapshots that are cut -/

/-- All of so many lanes pass their check. -/
def lanesPass : ℕ → List UInt8 → Bool
  | 0, _ => true
  | count + 1, rest => (loadLane rest).1.snapOk && lanesPass count (loadLane rest).2

/-- Among so many link groups, the first that is not whole ends between 36 and 42 bytes. -/
def linksCut : ℕ → List UInt8 → Bool
  | 0, _ => false
  | count + 1, rest =>
    if rest.length < 36 then false
    else if rest.length < 42 then true
    else
      let (_, blen, blob) := loadLink rest
      if blen < 31 ∨ blen > 220 ∨ 42 + blen > rest.length then false
      else linksCut count (blob.drop blen)

/-- The header and the lanes pass their checks, and the link groups are cut. -/
def cutLink (input : List UInt8) : Bool :=
  decide (snapHdrLen ≤ input.length) && (loadHeader input).1.ok input.length &&
    lanesPass (loadHeader input).1.laneCount (input.drop snapHdrLen) &&
    linksCut (loadHeader input).1.linkCount
      (input.drop (snapHdrLen + (loadHeader input).1.laneCount * snapLaneLen))

theorem reads_header : ReadsExactly 12 loadHeader? loadHeader := by
  have h := reads_u32.bind fun magic => reads_u16.bind fun version =>
    reads_u16.bind fun laneCount => reads_u16.bind fun reasmCount => reads_u16.bind fun linkCount =>
    ReadsExactly.pure (⟨magic, version, laneCount, reasmCount, linkCount⟩ : SnapHeader)
  exact h

theorem reads_clock : ReadsExactly 9 loadClock? loadClock := by
  have h := reads_u64.bind fun nowMono => reads_u8.bind fun globalFence =>
    ReadsExactly.pure (nowMono, globalFence)
  exact h

/-- The lanes are read inside the input. -/
theorem restoreLanes?_eq (count : ℕ) : ∀ (slot : ℕ) (rest : List UInt8) (eng : Engine P),
    restoreLanes? count slot rest eng = some (restoreLanes count slot rest eng) := by
  induction count with
  | zero => exact fun _ _ _ => rfl
  | succ count ih =>
    intro slot rest eng
    rw [restoreLanes?, restoreLanes]
    by_cases hslot : slot < laneSlots
    · rw [dif_pos hslot, dif_pos hslot]
      by_cases hlen : rest.length < snapLaneLen
      · rw [if_pos hlen, if_pos hlen]
      · rw [if_neg hlen, if_neg hlen, reads_lane.enough rest (Nat.not_lt.1 hlen)]
        by_cases hok : (loadLane rest).1.snapOk = false
        · rw [if_pos hok]
          exact if_pos hok
        · rw [if_neg hok, ← ih]
          exact if_neg hok
    · rw [dif_neg hslot, dif_neg hslot]

/-- So are the link groups, unless they are cut. -/
theorem restoreLinks?_eq (count : ℕ) : ∀ (slot : ℕ) (rest : List UInt8) (eng : Engine P),
    slot + count ≤ linkGroupSlots → restoreLinks? count slot rest eng =
      if linksCut count rest then none else some (restoreLinks count slot rest eng) := by
  induction count with
  | zero => exact fun _ _ _ _ => rfl
  | succ count ih =>
    intro slot rest eng hle
    have hslot : slot < linkGroupSlots := by omega
    rw [restoreLinks?, restoreLinks, linksCut, dif_pos hslot, dif_pos hslot]
    by_cases hshort : rest.length < 36
    · rw [if_pos hshort, if_pos hshort, if_pos hshort, if_neg Bool.false_ne_true]
    rw [if_neg hshort, if_neg hshort, if_neg hshort]
    by_cases hcut : rest.length < 42
    · rw [if_pos hcut, reads_link.short rest hcut, if_pos rfl]
    rw [if_neg hcut, reads_link.enough rest (Nat.not_lt.1 hcut)]
    dsimp only
    by_cases hblob : (loadLink rest).2.1 < 31 ∨ (loadLink rest).2.1 > 220 ∨
        42 + (loadLink rest).2.1 > rest.length
    · simp only [hblob, if_true, Bool.false_eq_true, if_false]
    · simp only [hblob, if_false]
      exact ih _ _ _ (by omega)

/-- The lanes start behind the reserved bytes. -/
theorem drop_loadClock (input : List UInt8) :
    (loadClock (loadHeader input).2).2.drop 3 = input.drop snapHdrLen := by
  show (((((((input.drop 4).drop 2).drop 2).drop 2).drop 2).drop 8).tail).drop 3 = _
  rw [← List.drop_one]
  simp only [List.drop_drop]
  rfl

/-- What the header says is checked as one condition. -/
theorem restartDecode_eq (eng : Engine P) (input : List UInt8) : restartDecode eng input =
    if input.length < snapHdrLen then (.structural, eng)
    else if (loadHeader input).1.ok input.length = false then (.structural, eng)
    else
      match restoreLanes (loadHeader input).1.laneCount 0 (input.drop snapHdrLen)
        { Engine.init P with
          nowMono := (loadClock (loadHeader input).2).1.1
          globalFence := (loadClock (loadHeader input).2).1.2 } with
      | .error e => (.structural, e)
      | .ok (rest, e) =>
        match restoreLinks (loadHeader input).1.linkCount 0 rest e with
        | .error e => (.structural, e)
        | .ok (rest, e) => if rest ≠ [] then (.structural, Engine.init P) else (.ok, e) := by
  rw [← drop_loadClock]
  unfold restartDecode SnapHeader.ok
  by_cases hlen : input.length < snapHdrLen
  · rw [if_pos hlen, if_pos hlen]
  rw [if_neg hlen, if_neg hlen]
  show (if (loadHeader input).1.magic ≠ snapMagic then _ else
    if (loadHeader input).1.version ≠ snapVersion then _ else
    if (loadHeader input).1.reasmCount ≠ 0 then _ else
    if (loadHeader input).1.laneCount > laneSlots ∨ (loadHeader input).1.linkCount > linkGroupSlots
      then _ else
    if input.length < snapHdrLen + (loadHeader input).1.laneCount * snapLaneLen then _ else _) = _
  set H := (loadHeader input).1
  by_cases hmagic : H.magic = snapMagic
  swap
  · rw [if_pos hmagic, if_pos (by simp [hmagic])]
  by_cases hversion : H.version = snapVersion
  swap
  · rw [if_neg (not_not.2 hmagic), if_pos hversion, if_pos (by simp [hversion])]
  by_cases hreasm : H.reasmCount = 0
  swap
  · rw [if_neg (not_not.2 hmagic), if_neg (not_not.2 hversion), if_pos hreasm,
      if_pos (by simp [hreasm])]
  rw [if_neg (not_not.2 hmagic), if_neg (not_not.2 hversion), if_neg (not_not.2 hreasm)]
  by_cases hcounts : H.laneCount > laneSlots ∨ H.linkCount > linkGroupSlots
  · have hbad : ¬(H.laneCount ≤ laneSlots ∧ H.linkCount ≤ linkGroupSlots) := by omega
    rw [if_pos hcounts, if_pos (by simp [hbad])]
  have hgood : H.laneCount ≤ laneSlots ∧ H.linkCount ≤ linkGroupSlots := by omega
  rw [if_neg hcounts]
  by_cases hlanes : input.length < snapHdrLen + H.laneCount * snapLaneLen
  · have hbad : ¬snapHdrLen + H.laneCount * snapLaneLen ≤ input.length := by omega
    rw [if_pos hlanes, if_pos (by simp [hbad])]
  · have hfits : snapHdrLen + H.laneCount * snapLaneLen ≤ input.length := by omega
    rw [if_neg hlanes, if_neg (by simp [hmagic, hversion, hreasm, hgood, hfits])]
    rfl

/-! ### What the loops leave -/

/-- A lane that a snapshot may carry. -/
def Lane.Ready (L : Lane) : Prop := L.inUse = true ∧ L.snapOk = true

/-- A link group that a snapshot may carry. -/
def LinkGroup.Ready (G : LinkGroup) : Prop :=
  G.inUse = true ∧ 31 ≤ G.e2eBlob.length ∧ G.e2eBlob.length ≤ 220

/-- The bytes of a link group. -/
def linkLen (G : LinkGroup) : ℕ := 1 + 1 + 4 + 8 + 2 + 8 + 8 + 8 + 1 + 1 + G.e2eBlob.length

/-- The loop over the lanes restores all of them or starts again. -/
theorem restoreLanes_spec (count : ℕ) : ∀ (slot : ℕ) (rest : List UInt8) (eng : Engine P),
    slot + count ≤ laneSlots → count * snapLaneLen ≤ rest.length →
      (lanesPass count rest = false ∧ restoreLanes count slot rest eng = .error (Engine.init P)) ∨
      (lanesPass count rest = true ∧ ∃ (Ls : List Lane) (eng' : Engine P), Ls.length = count ∧
        (∀ L ∈ Ls, L.Ready) ∧
        restoreLanes count slot rest eng = .ok (rest.drop (count * snapLaneLen), eng') ∧
        eng'.links = eng.links ∧ ∀ i : Fin laneSlots, eng'.lanes i =
          if slot ≤ i.val then (Ls[i.val - slot]?).getD (eng.lanes i) else eng.lanes i) := by
  induction count with
  | zero =>
    intro slot rest eng _ _
    refine .inr ⟨rfl, [], eng, rfl, (fun L hL => by cases hL), ?_, rfl, fun i => ?_⟩
    · rw [Nat.zero_mul, List.drop_zero]
      rfl
    · rw [List.getElem?_nil, Option.getD_none, ite_self]
  | succ count ih =>
    intro slot rest eng hle hlen
    have hslot : slot < laneSlots := by omega
    rw [Nat.add_mul, Nat.one_mul] at hlen
    have hfits : ¬rest.length < snapLaneLen := by omega
    have hleft := reads_lane.left rest (by omega)
    have hdrop : (loadLane rest).2 = rest.drop snapLaneLen := by
      simp only [loadLane, loadU32Be, loadU64Be, loadU8, getBE, ← List.drop_one, List.drop_drop]
      rfl
    rw [restoreLanes, lanesPass, dif_pos hslot, if_neg hfits]
    cases hok : (loadLane rest).1.snapOk with
    | false => exact .inl ⟨Bool.false_and _, if_pos rfl⟩
    | true =>
      rw [Bool.true_and, if_neg (by decide)]
      rcases ih (slot + 1) (loadLane rest).2 (eng.setLane ⟨slot, hslot⟩ (loadLane rest).1.restarted)
        (by omega) (by omega) with hbad | ⟨hpass, Ls, eng', hcount, hready, hrun, hlinks, hlanes⟩
      · exact .inl hbad
      · refine .inr ⟨hpass, (loadLane rest).1.restarted :: Ls, eng', ?_, ?_, ?_, hlinks, ?_⟩
        · rw [List.length_cons, hcount]
        · rintro L (_ | ⟨_, hL⟩)
          · exact ⟨rfl, hok⟩
          · exact hready L hL
        · rw [hrun, hdrop, List.drop_drop, Nat.add_mul, Nat.one_mul, Nat.add_comm snapLaneLen]
        · exact table_cons hslot hlanes

/-- So does the loop over the link groups. -/
theorem restoreLinks_spec (count : ℕ) : ∀ (slot : ℕ) (rest : List UInt8) (eng : Engine P),
    slot + count ≤ linkGroupSlots →
      restoreLinks count slot rest eng = .error (Engine.init P) ∨
      ∃ (Gs : List LinkGroup) (rest' : List UInt8) (eng' : Engine P), Gs.length = count ∧
        (∀ G ∈ Gs, G.Ready) ∧
        restoreLinks count slot rest eng = .ok (rest', eng') ∧
        rest.length = rest'.length + (Gs.map linkLen).sum ∧ eng'.lanes = eng.lanes ∧
        ∀ i : Fin linkGroupSlots, eng'.links i =
          if slot ≤ i.val then (Gs[i.val - slot]?).getD (eng.links i) else eng.links i := by
  induction count with
  | zero =>
    intro slot rest eng _
    refine .inr ⟨[], rest, eng, rfl, (fun G hG => by cases hG), rfl, rfl, rfl, fun i => ?_⟩
    rw [List.getElem?_nil, Option.getD_none, ite_self]
  | succ count ih =>
    intro slot rest eng hle
    have hslot : slot < linkGroupSlots := by omega
    rw [restoreLinks, dif_pos hslot]
    by_cases hshort : rest.length < 36
    · exact .inl (if_pos hshort)
    rw [if_neg hshort]
    dsimp only
    by_cases hblob : (loadLink rest).2.1 < 31 ∨ (loadLink rest).2.1 > 220 ∨
        42 + (loadLink rest).2.1 > rest.length
    · exact .inl (if_pos hblob)
    rw [if_neg hblob]
    obtain ⟨hmin, hmax, hin⟩ : 31 ≤ (loadLink rest).2.1 ∧ (loadLink rest).2.1 ≤ 220 ∧
        42 + (loadLink rest).2.1 ≤ rest.length := by omega
    have hleft : (loadLink rest).2.2.length + 42 = rest.length := reads_link.left rest (by omega)
    have htake : ((loadLink rest).2.2.take (loadLink rest).2.1).length = (loadLink rest).2.1 :=
      List.length_take_of_le (by omega)
    rcases ih (slot + 1) ((loadLink rest).2.2.drop (loadLink rest).2.1) _ (by omega) with
      hbad | ⟨Gs, rest', eng', hcount, hready, hrun, hlength, hlanes, hlinks⟩
    · exact .inl hbad
    · refine .inr ⟨_ :: Gs, rest', eng', ?_, ?_, hrun, ?_, hlanes, table_cons hslot hlinks⟩
      · rw [List.length_cons, hcount]
      · rintro G (_ | ⟨_, hG⟩)
        · exact ⟨rfl, by rw [htake]; exact hmin, by rw [htake]; exact hmax⟩
        · exact hready G hG
      · rw [List.length_drop] at hlength
        rw [List.map_cons, List.sum_cons, linkLen, htake]
        omega

/-! ### The decoder as a whole -/

/-- What a header that passed its checks says of the input. -/
theorem SnapHeader.of_ok {H : SnapHeader} {inLen : ℕ} (h : H.ok inLen = true) :
    H.laneCount ≤ laneSlots ∧ H.linkCount ≤ linkGroupSlots ∧
      snapHdrLen + H.laneCount * snapLaneLen ≤ inLen := by
  unfold SnapHeader.ok at h
  simp only [Bool.and_eq_true, decide_eq_true_eq] at h
  exact ⟨h.1.2.1, h.1.2.2, h.2⟩

/-- **The decoder reads outside its input exactly if a link group is cut.** -/
theorem restartDecode?_eq (eng : Engine P) (input : List UInt8) : restartDecode? eng input =
    if cutLink input then none else some (restartDecode eng input) := by
  rw [restartDecode_eq]
  unfold restartDecode? cutLink
  by_cases hlen : input.length < snapHdrLen
  · have hshort : ¬snapHdrLen ≤ input.length := Nat.not_le.2 hlen
    rw [if_pos hlen, if_pos hlen]
    simp only [hshort, decide_false, Bool.false_and, Bool.false_eq_true, if_false]
  rw [if_neg hlen, if_neg hlen]
  have h24 : 24 ≤ input.length := Nat.not_lt.1 hlen
  have hleft := reads_header.left input (by omega)
  rw [reads_header.enough input (by omega)]
  dsimp only
  cases hok : (loadHeader input).1.ok input.length with
  | false =>
    simp only [Bool.and_false, Bool.false_and, Bool.false_eq_true, if_false, if_true]
  | true =>
    obtain ⟨hlanes, hlinks, hfits⟩ := SnapHeader.of_ok hok
    have hno : ¬true = false := by decide
    have hroom : (loadHeader input).1.laneCount * snapLaneLen ≤
        (input.drop snapHdrLen).length := by
      rw [List.length_drop]
      omega
    rw [if_neg hno, if_neg hno,
      reads_clock.enough _ (by omega)]
    dsimp only
    rw [drop_loadClock, restoreLanes?_eq]
    rcases restoreLanes_spec _ 0 (input.drop snapHdrLen)
      { Engine.init P with
        nowMono := (loadClock (loadHeader input).2).1.1
        globalFence := (loadClock (loadHeader input).2).1.2 } (by omega) hroom with
      ⟨hpass, hrun⟩ | ⟨hpass, Ls, eng', -, -, hrun, -, -⟩
    · rw [hrun, hpass, Bool.and_false, Bool.false_and, if_neg Bool.false_ne_true]
    · rw [hrun, hpass]
      dsimp only
      rw [restoreLinks?_eq _ 0 _ eng' (by omega), List.drop_drop]
      have h24' : snapHdrLen ≤ input.length := h24
      simp only [h24', decide_true, Bool.and_true, Bool.true_and]
      cases linksCut (loadHeader input).1.linkCount
        (input.drop (snapHdrLen + (loadHeader input).1.laneCount * snapLaneLen)) with
      | true => rfl
      | false =>
        rw [if_neg Bool.false_ne_true, if_neg Bool.false_ne_true]
        cases restoreLinks (loadHeader input).1.linkCount 0
          (input.drop (snapHdrLen + (loadHeader input).1.laneCount * snapLaneLen)) eng' with
        | error e => rfl
        | ok r =>
          obtain ⟨rest, e⟩ := r
          dsimp only
          split_ifs <;> rfl

/-- The length of a snapshot of the engine. -/
def snapNeed (eng : Engine P) : ℕ :=
  snapHdrLen + eng.usedLanes.length * snapLaneLen + (eng.usedLinks.map linkLen).sum

/-- What a snapshot may carry is all that is in use. -/
structure SnapReady (eng : Engine P) : Prop where
  lanes : ∀ i, (eng.lanes i).inUse = true → (eng.lanes i).Ready
  links : ∀ i, (eng.links i).inUse = true → (eng.links i).Ready

theorem snapReady_init : SnapReady (Engine.init P) :=
  ⟨(fun _ h => by cases h), (fun _ h => by cases h)⟩

/-- The decoder refuses, and leaves the engine as it was or as after its start; or it accepts, and
every byte of the input is accounted for. -/
theorem restartDecode_spec (eng : Engine P) (input : List UInt8) :
    (∃ eng', restartDecode eng input = (.structural, eng') ∧ (eng' = eng ∨ eng' = Engine.init P)) ∨
    ∃ eng', restartDecode eng input = (.ok, eng') ∧ SnapReady eng' ∧
      eng'.usedLanes.length = (loadHeader input).1.laneCount ∧
      eng'.usedLinks.length = (loadHeader input).1.linkCount ∧ input.length = snapNeed eng' := by
  rw [restartDecode_eq]
  by_cases hlen : input.length < snapHdrLen
  · exact .inl ⟨eng, if_pos hlen, .inl rfl⟩
  rw [if_neg hlen]
  cases hok : (loadHeader input).1.ok input.length with
  | false => exact .inl ⟨eng, if_pos rfl, .inl rfl⟩
  | true =>
    obtain ⟨hlanes, hlinks, hfits⟩ := SnapHeader.of_ok hok
    have hroom : (loadHeader input).1.laneCount * snapLaneLen ≤
        (input.drop snapHdrLen).length := by
      rw [List.length_drop]
      omega
    rw [if_neg (by decide)]
    rcases restoreLanes_spec _ 0 (input.drop snapHdrLen)
      { Engine.init P with
        nowMono := (loadClock (loadHeader input).2).1.1
        globalFence := (loadClock (loadHeader input).2).1.2 } (by omega) hroom with
      ⟨-, hrun⟩ | ⟨-, Ls, eng₁, hcount, hready, hrun, hsame, hat⟩
    · rw [hrun]
      exact .inl ⟨_, rfl, .inr rfl⟩
    rw [hrun]
    dsimp only
    rcases restoreLinks_spec (loadHeader input).1.linkCount 0 ((input.drop snapHdrLen).drop
      ((loadHeader input).1.laneCount * snapLaneLen)) eng₁ (by omega) with
      hbad | ⟨Gs, rest, eng₂, hcount', hready', hrun', hlength, hkept, hat'⟩
    · rw [hbad]
      exact .inl ⟨_, rfl, .inr rfl⟩
    rw [hrun']
    dsimp only
    by_cases hrest : rest ≠ []
    · exact .inl ⟨_, if_pos hrest, .inr rfl⟩
    have hlaneAt (i : Fin laneSlots) : eng₂.lanes i = (Ls[i.val]?).getD Lane.zero := by
      rw [hkept, hat i, if_pos (Nat.zero_le _)]
      rfl
    have hlinkAt (i : Fin linkGroupSlots) : eng₂.links i = (Gs[i.val]?).getD LinkGroup.zero := by
      rw [hat' i, if_pos (Nat.zero_le _), hsame]
      rfl
    have husedLanes : eng₂.usedLanes = Ls :=
      filter_finRange (by omega) hlaneAt (fun L hL => (hready L hL).1) rfl
    have husedLinks : eng₂.usedLinks = Gs :=
      filter_finRange (by omega) hlinkAt (fun G hG => (hready' G hG).1) rfl
    refine .inr ⟨eng₂, if_neg hrest, ⟨fun i hi => ?_, fun i hi => ?_⟩, ?_, ?_, ?_⟩
    · rw [hlaneAt i] at hi ⊢
      cases hget : Ls[i.val]? with
      | none =>
        rw [hget] at hi
        cases hi
      | some L => exact hready L (List.mem_of_getElem? hget)
    · rw [hlinkAt i] at hi ⊢
      cases hget : Gs[i.val]? with
      | none =>
        rw [hget] at hi
        cases hi
      | some G => exact hready' G (List.mem_of_getElem? hget)
    · rw [husedLanes, hcount]
    · rw [husedLinks, hcount']
    · rw [not_not.1 hrest, List.length_nil, List.length_drop, List.length_drop] at hlength
      rw [snapNeed, husedLanes, husedLinks, hcount]
      omega

end Ninlil.R7Frag
