import Ninlil.R7Frag.Wire

/-!
# Fragmentation plans

The planner of `r7_frag_state.c`: how a payload is cut into one START chunk and several CONT chunks.

* `Status`: the closed status set of the state engine;
* `planValidate`, `planBuild`, `contGeometry`: the validator of a START, the sender's plan, and the
  place of one CONT chunk;
* `planValidate_eq_ok`, `contGeometry_eq_ok`, `planBuild_eq_ok`: all that they compute.

The timers and maxima of `r7_frag_state.h` are those of the wire profile.
-/

namespace Ninlil.FragState

open R7Frag

/-- `ninlil_r7_frag_state_status`. -/
inductive Status
  | ok
  | invalidArgument
  | structural
  | length
  | capacity
  | resource
  | conflict
  | duplicate
  | exactRetry
  | noTransfer
  | timeout
  | fenced
  | published
  | digest
  | internal
  | needDigest
  deriving DecidableEq

/-- `ninlil_r7_frag_state_chunk`. -/
structure Chunk where
  fragIndex : ℕ
  offset : ℕ
  length : ℕ
  deriving DecidableEq

/-- `ninlil_r7_frag_state_plan`. -/
structure Plan where
  totalLen : ℕ
  fragCount : ℕ
  firstChunkLen : ℕ
  contUnit : ℕ
  chunks : List Chunk

/-- `ninlil_r7_frag_state_plan_validate`. -/
def planValidate (totalLen firstChunkLen fragCount continuationUnit : ℕ) : Status :=
  if continuationUnit ≠ contUnit then .structural
  else if firstChunkLen < 1 ∨ firstChunkLen > sMax then .length
  else if totalLen ≤ firstChunkLen ∨ totalLen > totalLenMax then .length
  else if fragCount < countMin ∨ fragCount > countMax then .length
  else if fragCount ≠ 1 + (totalLen - firstChunkLen + contUnit - 1) / contUnit then .structural
  else .ok

/-- The loop of `ninlil_r7_frag_state_plan_build` with `n` chunks to go: the chunks, and the offset
after the last. -/
def buildChunks (totalLen fragCount : ℕ) : ℕ → ℕ → ℕ → Except Status (List Chunk × ℕ)
  | 0, _, off => .ok ([], off)
  | n + 1, i, off =>
    let left := totalLen - off
    let clen := if left > contUnit then contUnit else left
    if i + 1 < fragCount ∧ clen ≠ contUnit then .error .internal
    else if clen < 1 ∨ clen > cMax then .error .length
    else
      match buildChunks totalLen fragCount n (i + 1) (off + clen) with
      | .error st => .error st
      | .ok (rest, last) => .ok (⟨i, off, clen⟩ :: rest, last)

/-- `ninlil_r7_frag_state_plan_build`. -/
def planBuild (totalLen : ℕ) : Except Status Plan :=
  if totalLen < 2 ∨ totalLen > totalLenMax then .error .length
  else
    let s := if totalLen - 1 < sMax then totalLen - 1 else sMax
    let fc := 1 + (totalLen - s + contUnit - 1) / contUnit
    if planValidate totalLen s fc contUnit ≠ .ok then
      .error (planValidate totalLen s fc contUnit)
    else
      match buildChunks totalLen fc (fc - 1) 1 s with
      | .error st => .error st
      | .ok (rest, off) =>
        if off ≠ totalLen then .error .internal
        else .ok ⟨totalLen, fc, s, contUnit, ⟨0, 0, s⟩ :: rest⟩

/-- `ninlil_r7_frag_state_cont_geometry`: the offset and the length of a CONT chunk. -/
def contGeometry (totalLen firstChunkLen fragCount fragIndex : ℕ) : Except Status (ℕ × ℕ) :=
  if planValidate totalLen firstChunkLen fragCount contUnit ≠ .ok then
    .error (planValidate totalLen firstChunkLen fragCount contUnit)
  else if fragIndex < 1 ∨ fragIndex ≥ fragCount then .error .structural
  else
    let offset := firstChunkLen + (fragIndex - 1) * contUnit
    if offset ≥ totalLen then .error .structural
    else
      let remaining := totalLen - offset
      let clen := if remaining > contUnit then contUnit else remaining
      if fragIndex + 1 < fragCount ∧ clen ≠ contUnit then .error .structural
      else .ok (offset, clen)

/-! ### The validator -/

variable {totalLen firstChunkLen fragCount fragIndex : ℕ}

/-- What a validated plan satisfies. -/
structure Valid (totalLen firstChunkLen fragCount : ℕ) : Prop where
  firstPos : 1 ≤ firstChunkLen
  firstMax : firstChunkLen ≤ 126
  firstLt : firstChunkLen < totalLen
  totalMax : totalLen ≤ 2048
  countMin : 2 ≤ fragCount
  countMax : fragCount ≤ 13
  /-- The last chunk is not empty. -/
  reach : firstChunkLen + (fragCount - 2) * 180 < totalLen
  /-- The chunks reach the end. -/
  cover : totalLen ≤ firstChunkLen + (fragCount - 1) * 180

theorem planValidate_eq_ok {continuationUnit : ℕ} :
    planValidate totalLen firstChunkLen fragCount continuationUnit = .ok ↔
      continuationUnit = contUnit ∧ Valid totalLen firstChunkLen fragCount := by
  unfold planValidate contUnit sMax totalLenMax R7Frag.countMin R7Frag.countMax
  split_ifs with h1 h2 h3 h4 h5
  · simp [h1]
  · simp only [false_iff]
    rintro ⟨-, hv⟩
    have hpos := hv.firstPos
    have hmax := hv.firstMax
    omega
  · simp only [false_iff]
    rintro ⟨-, hv⟩
    have hlt := hv.firstLt
    have hmax := hv.totalMax
    omega
  · simp only [false_iff]
    rintro ⟨-, hv⟩
    have hmin := hv.countMin
    have hmax := hv.countMax
    omega
  · simp only [false_iff]
    rintro ⟨-, hv⟩
    have hreach := hv.reach
    have hcover := hv.cover
    have hmin := hv.countMin
    omega
  · simp only [true_iff]
    exact ⟨by omega, ⟨by omega, by omega, by omega, by omega, by omega, by omega, by omega,
      by omega⟩⟩

theorem Valid.planValidate (h : Valid totalLen firstChunkLen fragCount) :
    planValidate totalLen firstChunkLen fragCount contUnit = .ok := planValidate_eq_ok.2 ⟨rfl, h⟩

/-- The count of a valid plan is determined by its lengths. -/
theorem Valid.count_unique (h : Valid totalLen firstChunkLen fragCount) {fragCount' : ℕ}
    (h' : Valid totalLen firstChunkLen fragCount') : fragCount' = fragCount := by
  have hreach := h.reach
  have hcover := h.cover
  have hmin := h.countMin
  have hreach' := h'.reach
  have hcover' := h'.cover
  have hmin' := h'.countMin
  omega

/-! ### The place of a chunk -/

/-- Where the chunk `k` of a payload begins. -/
def chunkOffset (firstChunkLen k : ℕ) : ℕ :=
  if k = 0 then 0 else firstChunkLen + (k - 1) * 180

/-- How long it is. -/
def chunkLength (totalLen firstChunkLen k : ℕ) : ℕ :=
  if k = 0 then firstChunkLen else min (totalLen - chunkOffset firstChunkLen k) 180

/-- The place of a CONT chunk. -/
theorem contGeometry_eq_ok (h : Valid totalLen firstChunkLen fragCount) (hpos : 1 ≤ fragIndex)
    (hlt : fragIndex < fragCount) :
    contGeometry totalLen firstChunkLen fragCount fragIndex =
      .ok (chunkOffset firstChunkLen fragIndex,
        chunkLength totalLen firstChunkLen fragIndex) := by
  have hreach := h.reach
  have hcover := h.cover
  have hk : fragIndex ≠ 0 := by omega
  unfold contGeometry
  rw [if_neg (not_not.2 h.planValidate), if_neg (by omega)]
  unfold chunkLength chunkOffset contUnit
  dsimp only
  rw [if_neg (by omega)]
  rw [if_neg hk, if_neg hk]
  by_cases hlast : totalLen - (firstChunkLen + (fragIndex - 1) * 180) > 180
  · rw [if_pos hlast, if_neg (by omega), Nat.min_eq_right (by omega)]
  · rw [if_neg hlast, if_neg (by omega), Nat.min_eq_left (by omega)]

/-- Every place that is given out is that of a CONT chunk of a valid plan. -/
theorem contGeometry_ok_iff {place : ℕ × ℕ} :
    contGeometry totalLen firstChunkLen fragCount fragIndex = .ok place ↔
      Valid totalLen firstChunkLen fragCount ∧ 1 ≤ fragIndex ∧ fragIndex < fragCount ∧
        place = (chunkOffset firstChunkLen fragIndex,
          chunkLength totalLen firstChunkLen fragIndex) := by
  constructor
  · intro h
    by_cases hvalid : planValidate totalLen firstChunkLen fragCount contUnit = .ok
    · by_cases hindex : fragIndex < 1 ∨ fragIndex ≥ fragCount
      · unfold contGeometry at h
        rw [if_neg (not_not.2 hvalid), if_pos hindex] at h
        cases h
      · have hv := (planValidate_eq_ok.1 hvalid).2
        rw [contGeometry_eq_ok hv (by omega) (by omega)] at h
        cases h
        exact ⟨hv, by omega, by omega, rfl⟩
    · unfold contGeometry at h
      rw [if_pos hvalid] at h
      cases h
  · rintro ⟨hv, hpos, hlt, rfl⟩
    exact contGeometry_eq_ok hv hpos hlt

section Places

variable (h : Valid totalLen firstChunkLen fragCount) {k l : ℕ}

include h

theorem Valid.chunk_inside (hk : k < fragCount) :
    chunkOffset firstChunkLen k + chunkLength totalLen firstChunkLen k ≤ totalLen := by
  have hlt := h.firstLt
  have hreach := h.reach
  unfold chunkLength chunkOffset
  split_ifs
  · omega
  · omega

theorem Valid.chunk_pos (hk : k < fragCount) : 1 ≤ chunkLength totalLen firstChunkLen k := by
  have hpos := h.firstPos
  have hreach := h.reach
  unfold chunkLength chunkOffset
  split_ifs
  · omega
  · omega

/-- Each chunk begins where the one before it ends. -/
theorem Valid.chunk_next (hk : k + 1 < fragCount) :
    chunkOffset firstChunkLen (k + 1) =
      chunkOffset firstChunkLen k + chunkLength totalLen firstChunkLen k := by
  have hreach := h.reach
  have hk1 : k + 1 ≠ 0 := Nat.succ_ne_zero k
  unfold chunkLength chunkOffset
  rw [if_neg hk1]
  by_cases hk0 : k = 0
  · rw [if_pos hk0, if_pos hk0]
    omega
  · rw [if_neg hk0, if_neg hk0]
    omega

/-- The last chunk ends where the payload does. -/
theorem Valid.chunk_last (hk : k + 1 = fragCount) :
    chunkOffset firstChunkLen k + chunkLength totalLen firstChunkLen k = totalLen := by
  have hcover := h.cover
  have hmin := h.countMin
  have hreach := h.reach
  unfold chunkLength chunkOffset
  split_ifs
  · omega
  · omega

end Places

/-- Two chunks do not overlap. -/
theorem chunk_disjoint {k l : ℕ} (hkl : k < l) :
    chunkOffset firstChunkLen k + chunkLength totalLen firstChunkLen k ≤
      chunkOffset firstChunkLen l := by
  have hl0 : l ≠ 0 := by omega
  unfold chunkLength chunkOffset
  rw [if_neg hl0]
  by_cases hk0 : k = 0
  · rw [if_pos hk0, if_pos hk0]
    omega
  · rw [if_neg hk0, if_neg hk0]
    omega

/-! ### The sender's plan -/

/-- The chunks `i`, …, `i + n - 1`. -/
def chunksFrom (totalLen firstChunkLen : ℕ) (i n : ℕ) : List Chunk :=
  (List.range' i n).map fun k =>
    ⟨k, chunkOffset firstChunkLen k, chunkLength totalLen firstChunkLen k⟩

/-- The loop of the planner computes the remaining chunks. -/
theorem buildChunks_eq (h : Valid totalLen firstChunkLen fragCount) :
    ∀ (n i : ℕ), 1 ≤ i → i + n = fragCount →
      buildChunks totalLen fragCount n i (min (chunkOffset firstChunkLen i) totalLen) =
        .ok (chunksFrom totalLen firstChunkLen i n, totalLen) := by
  intro n
  induction n with
  | zero =>
    intro i hi hn
    have hcover := h.cover
    have hoff : min (chunkOffset firstChunkLen i) totalLen = totalLen := by
      unfold chunkOffset
      rw [if_neg (by omega)]
      omega
    rw [hoff]
    rfl
  | succ n ih =>
    intro i hi hn
    have hreach := h.reach
    have hi0 : i ≠ 0 := by omega
    have hoff : min (chunkOffset firstChunkLen i) totalLen = chunkOffset firstChunkLen i := by
      unfold chunkOffset
      rw [if_neg hi0]
      omega
    have hlen : (if totalLen - chunkOffset firstChunkLen i > contUnit then contUnit
        else totalLen - chunkOffset firstChunkLen i) = chunkLength totalLen firstChunkLen i := by
      unfold chunkLength contUnit
      rw [if_neg hi0]
      split_ifs
      · omega
      · omega
    have hpos := h.chunk_pos (k := i) (by omega)
    have hmax : chunkLength totalLen firstChunkLen i ≤ 180 := by
      unfold chunkLength
      rw [if_neg hi0]
      omega
    have hfull : i + 1 < fragCount → chunkLength totalLen firstChunkLen i = 180 := by
      intro hlt
      unfold chunkLength chunkOffset
      rw [if_neg hi0, if_neg hi0]
      omega
    have hnext : chunkOffset firstChunkLen i + chunkLength totalLen firstChunkLen i =
        min (chunkOffset firstChunkLen (i + 1)) totalLen := by
      by_cases hlast : i + 1 < fragCount
      · have hstep := h.chunk_next hlast
        have hinside := h.chunk_inside (k := i) (by omega)
        omega
      · have hend := h.chunk_last (k := i) (by omega)
        have hcover := h.cover
        have hoff1 : chunkOffset firstChunkLen (i + 1) = firstChunkLen + i * 180 := by
          simp [chunkOffset]
        have hi1 : i = fragCount - 1 := by omega
        rw [hoff1, hi1]
        rw [hi1] at hend
        omega
    unfold buildChunks
    dsimp only
    rw [hoff, hlen, if_neg (fun hc => hc.2 (hfull hc.1)), if_neg (by rw [cMax]; omega), hnext,
      ih (i + 1) (by omega) (by omega)]
    simp [chunksFrom, List.range'_succ]

/-- The plan of a payload of `totalLen` bytes. -/
def planOf (totalLen : ℕ) : Plan :=
  let s := min 126 (totalLen - 1)
  let fc := 1 + (totalLen - s + 179) / 180
  ⟨totalLen, fc, s, contUnit, chunksFrom totalLen s 0 fc⟩

theorem planOf_valid (hmin : 2 ≤ totalLen) (hmax : totalLen ≤ 2048) :
    Valid totalLen (planOf totalLen).firstChunkLen (planOf totalLen).fragCount := by
  unfold planOf
  dsimp only
  exact ⟨by omega, by omega, by omega, by omega, by omega, by omega, by omega, by omega⟩

/-- **The planner accepts exactly the lengths from 2 to 2048.** -/
theorem planBuild_eq_ok {plan : Plan} :
    planBuild totalLen = .ok plan ↔ 2 ≤ totalLen ∧ totalLen ≤ 2048 ∧ plan = planOf totalLen := by
  by_cases hdom : totalLen < 2 ∨ totalLen > totalLenMax
  · unfold planBuild
    rw [if_pos hdom]
    unfold totalLenMax at hdom
    simp only [reduceCtorEq, false_iff]
    omega
  · have hdom' := hdom
    unfold totalLenMax at hdom'
    have hvalid := @planOf_valid totalLen (by omega) (by omega)
    have hs : (if totalLen - 1 < sMax then totalLen - 1 else sMax) =
        (planOf totalLen).firstChunkLen := by
      unfold planOf sMax
      dsimp only
      split_ifs
      · omega
      · omega
    have hfc : 1 + (totalLen - (planOf totalLen).firstChunkLen + contUnit - 1) / contUnit =
        (planOf totalLen).fragCount := rfl
    have hmin := hvalid.countMin
    have hloop := buildChunks_eq hvalid ((planOf totalLen).fragCount - 1) 1 le_rfl (by omega)
    have hone : min (chunkOffset (planOf totalLen).firstChunkLen 1) totalLen =
        (planOf totalLen).firstChunkLen := by
      have hlt := hvalid.firstLt
      have hoff : chunkOffset (planOf totalLen).firstChunkLen 1 =
          (planOf totalLen).firstChunkLen := by simp [chunkOffset]
      rw [hoff]
      omega
    have hchunks : ⟨0, 0, (planOf totalLen).firstChunkLen⟩ ::
        chunksFrom totalLen (planOf totalLen).firstChunkLen 1 ((planOf totalLen).fragCount - 1) =
          (planOf totalLen).chunks := by
      obtain ⟨n, hn⟩ : ∃ n, (planOf totalLen).fragCount = n + 1 :=
        ⟨(planOf totalLen).fragCount - 1, by omega⟩
      have hc : (planOf totalLen).chunks =
          chunksFrom totalLen (planOf totalLen).firstChunkLen 0 (planOf totalLen).fragCount := rfl
      rw [hc, hn]
      simp [chunksFrom, List.range'_succ, chunkOffset, chunkLength]
    rw [hone] at hloop
    unfold planBuild
    rw [if_neg hdom]
    dsimp only
    rw [hs, hfc, if_neg (not_not.2 hvalid.planValidate), hloop]
    dsimp only
    rw [if_neg (not_not.2 rfl), hchunks]
    simp only [Except.ok.injEq]
    constructor
    · intro h
      exact ⟨by omega, by omega, h.symm⟩
    · rintro ⟨-, -, rfl⟩
      rfl

end Ninlil.FragState
