import Ninlil.FragState.StateRuns

/-!
# Fragments in any order

A payload cut by the sender's plan and fed to a fresh engine, the START first and then fragments in
any order and any number, as long as nothing times out.

* `Valid.flatten_slices`: the chunks of a plan, one after the other, are the payload;
* `Transfer`: a payload with its plan, and the fragments that carry it;
* `Quiet`, `Feeds`: the calls that bring its fragments, or move the clock and time nothing out;
* `Receiving`, `Done`: the engine before and after the payload is published;
* `fragments_in_any_order`: the plan tiles the payload, and once every fragment has arrived and the
  digest is supplied the payload has been published, once.
-/

namespace Ninlil.FragState

open Bytes R7Frag Reservations Tables
open Function (update update_of_ne update_self)

variable {P : Profile} {eng eng' : Engine P} {S S' : Slot} {i : Fin P.reasmSlots} {op : Op}
  {totalLen firstChunkLen fragCount : ℕ}

/-! ### Tiles -/

/-- The chunks before `n`, one after the other. -/
theorem Valid.flatten_slices_lt (h : Valid totalLen firstChunkLen fragCount) (image : List UInt8) :
    ∀ n, n < fragCount → ((List.range n).map fun k => slice image (chunkOffset firstChunkLen k)
      (chunkLength totalLen firstChunkLen k)).flatten =
        image.take (chunkOffset firstChunkLen n) := by
  intro n
  induction n with
  | zero => simp [chunkOffset]
  | succ n ih =>
    intro hn
    rw [List.range_succ, List.map_append, List.flatten_append, ih (by omega), h.chunk_next hn,
      List.take_add]
    simp [slice]

/-- **The chunks of a plan tile the payload.** -/
theorem Valid.flatten_slices (h : Valid totalLen firstChunkLen fragCount) (image : List UInt8) :
    ((List.range fragCount).map fun k => slice image (chunkOffset firstChunkLen k)
      (chunkLength totalLen firstChunkLen k)).flatten = image.take totalLen := by
  have hmin := h.countMin
  obtain ⟨n, rfl⟩ : ∃ n, fragCount = n + 1 := ⟨fragCount - 1, by omega⟩
  rw [List.range_succ, List.map_append, List.flatten_append,
    h.flatten_slices_lt image n (by omega)]
  conv_rhs => rw [← h.chunk_last (k := n) rfl, List.take_add]
  simp [slice]

/-- What the sender's plan has to satisfy. -/
structure Plan.Tiles (plan : Plan) : Prop where
  count : plan.chunks.length = plan.fragCount
  index : ∀ (k : ℕ) (c : Chunk), plan.chunks[k]? = some c → c.fragIndex = k
  first : ∀ c : Chunk, plan.chunks[0]? = some c →
    c.offset = 0 ∧ c.length = plan.firstChunkLen ∧ 1 ≤ c.length ∧ c.length ≤ sMax
  next : ∀ (k : ℕ) (c d : Chunk), plan.chunks[k]? = some c → plan.chunks[k + 1]? = some d →
    d.offset = c.offset + c.length ∧ 1 ≤ d.length ∧ d.length ≤ cMax ∧
      (k + 2 < plan.fragCount → d.length = R7Frag.contUnit)
  last : ∀ (k : ℕ) (c : Chunk), plan.chunks[k]? = some c → k + 1 = plan.fragCount →
    c.offset + c.length = plan.totalLen

theorem getElem?_planOf_chunks {k : ℕ} {c : Chunk} (h : (planOf totalLen).chunks[k]? = some c) :
    k < (planOf totalLen).fragCount ∧ c = ⟨k, chunkOffset (planOf totalLen).firstChunkLen k,
      chunkLength totalLen (planOf totalLen).firstChunkLen k⟩ := by
  have hchunks : (planOf totalLen).chunks =
      chunksFrom totalLen (planOf totalLen).firstChunkLen 0 (planOf totalLen).fragCount := rfl
  have hlen : k < (planOf totalLen).fragCount := by
    obtain ⟨hlt, -⟩ := List.getElem?_eq_some_iff.1 h
    rw [hchunks, chunksFrom] at hlt
    simpa using hlt
  rw [hchunks, chunksFrom, List.getElem?_map, List.getElem?_range' hlen] at h
  refine ⟨hlen, ?_⟩
  simpa using h.symm

/-- **The plan of a payload tiles it.** -/
theorem planOf_tiles (hmin : 2 ≤ totalLen) (hmax : totalLen ≤ 2048) :
    (planOf totalLen).Tiles := by
  have hvalid := planOf_valid hmin hmax
  have hcont : ∀ k, chunkLength totalLen (planOf totalLen).firstChunkLen (k + 1) ≤ 180 := by
    intro k
    simp only [chunkLength, Nat.succ_ne_zero, if_false]
    exact Nat.min_le_right ..
  constructor
  · have hchunks : (planOf totalLen).chunks =
        chunksFrom totalLen (planOf totalLen).firstChunkLen 0 (planOf totalLen).fragCount := rfl
    rw [hchunks]
    simp [chunksFrom]
  · intro k c hc
    obtain ⟨-, rfl⟩ := getElem?_planOf_chunks hc
    rfl
  · intro c hc
    obtain ⟨-, rfl⟩ := getElem?_planOf_chunks hc
    have hpos := hvalid.firstPos
    have hlen := hvalid.firstMax
    simp only [chunkOffset, chunkLength, sMax, if_true]
    exact ⟨trivial, trivial, hpos, hlen⟩
  · intro k c d hc hd
    obtain ⟨-, rfl⟩ := getElem?_planOf_chunks hc
    obtain ⟨hk, rfl⟩ := getElem?_planOf_chunks hd
    refine ⟨hvalid.chunk_next hk, hvalid.chunk_pos hk, hcont k, fun hlt => ?_⟩
    have hnext := hvalid.chunk_next (k := k + 1) hlt
    simp only [chunkOffset, Nat.succ_ne_zero, if_false] at hnext
    dsimp only
    rw [R7Frag.contUnit]
    omega
  · intro k c hc hk
    obtain ⟨-, rfl⟩ := getElem?_planOf_chunks hc
    exact hvalid.chunk_last hk

/-! ### Transfers -/

/-- A payload with its plan, and what its fragments are addressed by. -/
structure Transfer where
  e2eContextId : UInt32
  keyGeneration : UInt64
  transferId : TransferId
  transferHandle : UInt64
  fingerprint : Digest
  payload : List UInt8
  /-- The digest of the payload. -/
  digest : Digest
  plan : Plan
  context : contextOk e2eContextId = true
  generation : keyGeneration ≠ 0
  handle : handleOk transferHandle = true
  built : planBuild payload.length = .ok plan

namespace Transfer

variable (tr : Transfer)

/-- The bytes of chunk `k`. -/
def chunk (k : ℕ) : List UInt8 :=
  slice tr.payload (chunkOffset tr.plan.firstChunkLen k)
    (chunkLength tr.payload.length tr.plan.firstChunkLen k)

/-- The START of the transfer. -/
def start : StartIn where
  e2eContextId := tr.e2eContextId
  keyGeneration := tr.keyGeneration
  transferId := tr.transferId
  transferHandle := tr.transferHandle
  totalLen := tr.payload.length
  fragCount := tr.plan.fragCount
  continuationUnit := tr.plan.contUnit
  contentDigest := tr.digest
  fingerprint := tr.fingerprint
  firstChunk := tr.chunk 0

/-- Its CONT `k`, with the digest or without. -/
def cont (k : ℕ) (withDigest : Bool) : ContIn :=
  ⟨tr.e2eContextId, tr.keyGeneration, tr.transferHandle, k, tr.chunk k,
    if withDigest then some tr.digest else none⟩

theorem plan_eq : 2 ≤ tr.payload.length ∧ tr.payload.length ≤ 2048 ∧
    tr.plan = planOf tr.payload.length := planBuild_eq_ok.1 tr.built

theorem valid : Valid tr.payload.length tr.plan.firstChunkLen tr.plan.fragCount := by
  obtain ⟨hmin, hmax, hplan⟩ := tr.plan_eq
  rw [hplan]
  exact planOf_valid hmin hmax

theorem contUnit_eq : tr.plan.contUnit = R7Frag.contUnit := by
  rw [tr.plan_eq.2.2]
  rfl

theorem length_chunk {k : ℕ} (hk : k < tr.plan.fragCount) :
    (tr.chunk k).length = chunkLength tr.payload.length tr.plan.firstChunkLen k :=
  length_slice_of_le (tr.valid.chunk_inside hk)

theorem length_chunk_zero : (tr.chunk 0).length = tr.plan.firstChunkLen := by
  have hmin := tr.valid.countMin
  rw [tr.length_chunk (by omega)]
  simp [chunkLength]

theorem planValidate_start : planValidate tr.start.totalLen tr.start.firstChunk.length
    tr.start.fragCount tr.start.continuationUnit = .ok := by
  refine planValidate_eq_ok.2 ⟨tr.contUnit_eq, ?_⟩
  rw [show tr.start.firstChunk.length = _ from tr.length_chunk_zero]
  exact tr.valid

end Transfer

variable {tr : Transfer}

/-- The moment leaves room for every timer. -/
def Early (now : UInt64) : Prop := now.toNat + 90000 < 2 ^ 64

/-- The calls that bring a fragment of the transfer, or move the clock and time nothing out. -/
inductive Quiet (tr : Transfer) (eng : Engine P) : Op → Prop
  | start : Quiet tr eng (.start tr.start)
  | cont (k : ℕ) (withDigest : Bool) (hpos : 1 ≤ k) (hlt : k < tr.plan.fragCount) :
      Quiet tr eng (.cont (tr.cont k withDigest))
  | setNow (now : UInt64) (hearly : Early now) : Quiet tr eng (.setNow now)
  | tick (now : UInt64) (hearly : Early now)
      (hslots : ∀ i S, eng.reasm i = some S →
        now < S.idleDeadline ∧ now < S.receiverAbsoluteDeadline)
      (htombs : ∀ j T, eng.tombs j = some T → T.expired now = false) : Quiet tr eng (.tick now)

/-- A sequence of such calls. -/
inductive Feeds (tr : Transfer) : Engine P → List Op → Engine P → Prop
  | nil (eng : Engine P) : Feeds tr eng [] eng
  | cons {eng eng' : Engine P} {op : Op} {ops : List Op} (hop : Quiet tr eng op)
      (hrest : Feeds tr (op.apply eng).2 ops eng') : Feeds tr eng (op :: ops) eng'

/-- The engine while the transfer is in slot `i`. -/
structure Receiving (tr : Transfer) (eng : Engine P) (i : Fin P.reasmSlots) (S : Slot) : Prop where
  accounted : Accounted eng
  slot : eng.reasm i = some S
  ok : SlotOk S
  stored : Stored S fun k => some (tr.chunk k)
  context : S.e2eContextId = tr.e2eContextId
  generation : S.keyGeneration = tr.keyGeneration
  tid : S.transferId = tr.transferId
  handle : S.transferHandle = tr.transferHandle
  total : S.totalLen = tr.payload.length
  count : S.fragCount = tr.plan.fragCount
  first : S.firstChunkLen = tr.plan.firstChunkLen
  contentDigest : S.contentDigest = tr.digest
  fingerprint : S.fingerprint = tr.fingerprint
  zero : S.chunkSeen 0 = true
  pub : eng.pub = none
  published : eng.publishCount = 0
  fenced : eng.fenced = false
  early : Early eng.nowMono

/-- The engine after the payload was published. -/
structure Done (tr : Transfer) (eng : Engine P) : Prop where
  accounted : Accounted eng
  tomb : ∃ j T, eng.tombs j = some T ∧ T.isReservation = false ∧
    T.e2eContextId = tr.e2eContextId ∧ T.keyGeneration = tr.keyGeneration ∧
    T.transferHandle = tr.transferHandle ∧ T.transferId = tr.transferId ∧
    T.fragCount = tr.plan.fragCount ∧ T.fingerprint = tr.fingerprint
  pub : eng.pub = some ⟨tr.e2eContextId, tr.keyGeneration, tr.transferHandle, tr.payload.length,
    tr.payload⟩
  published : eng.publishCount = 1
  fenced : eng.fenced = false
  early : Early eng.nowMono

/-! ### Lookups -/

/-- A slot is found by its handle. -/
theorem Accounted.findReasmHandle_eq (h : Accounted eng) (hi : eng.reasm i = some S) :
    findReasmHandle eng S.e2eContextId S.transferHandle = some (i, S) := by
  refine scan_of_unique hi (by simp) fun j S' hj hp => ?_
  simp only [Bool.and_eq_true, beq_iff_eq] at hp
  exact h.activeUnique j i _ _ (active_eq_some hj) (active_eq_some hi) ⟨hp.1, .inl hp.2⟩

/-- A slot is found by its transfer identifier. -/
theorem Accounted.findReasmTid_eq (h : Accounted eng) (hi : eng.reasm i = some S) :
    findReasmTid eng S.e2eContextId S.transferId = some (i, S) := by
  refine scan_of_unique hi (by simp) fun j S' hj hp => ?_
  simp only [Bool.and_eq_true, beq_iff_eq] at hp
  exact h.activeUnique j i _ _ (active_eq_some hj) (active_eq_some hi) ⟨hp.1, .inr hp.2⟩

section Terminal

variable {j : Fin tombstoneSlots} {T : Tombstone} (h : Accounted eng) (hj : eng.tombs j = some T)

include h hj

/-- A tombstone is found by its handle. -/
theorem Accounted.findTombHandle_eq :
    findTombHandle eng T.e2eContextId T.transferHandle = some (j, T) := by
  refine scan_of_unique hj (by simp) fun l T' hl hp => ?_
  simp only [Bool.and_eq_true, beq_iff_eq] at hp
  exact h.markUnique l j _ _ (marks_id? hl) (marks_id? hj) ⟨hp.1, .inl hp.2⟩

/-- A tombstone is found by its transfer identifier. -/
theorem Accounted.findTombTid_eq :
    findTombTid eng T.e2eContextId T.transferId = some (j, T) := by
  refine scan_of_unique hj (by simp) fun l T' hl hp => ?_
  simp only [Bool.and_eq_true, beq_iff_eq] at hp
  exact h.markUnique l j _ _ (marks_id? hl) (marks_id? hj) ⟨hp.1, .inr hp.2⟩

variable (hterm : T.isReservation = false)

include hterm

theorem Accounted.no_slot_of_terminal (hi : eng.reasm i = some S) :
    ¬ Clash S.identity (T.identity j.val) :=
  h.no_active_of_ended (marks_eq_ended.2 ⟨T, hj, hterm, rfl, rfl⟩) (active_eq_some hi)

/-- A transfer that ended has no slot. -/
theorem Accounted.findReasmHandle_eq_none :
    findReasmHandle eng T.e2eContextId T.transferHandle = none := by
  cases hfind : findReasmHandle eng T.e2eContextId T.transferHandle with
  | none => rfl
  | some r =>
    obtain ⟨i, S⟩ := r
    obtain ⟨hi, hctx, hh⟩ := findReasmHandle_some hfind
    exact absurd ⟨hctx, .inl hh⟩ (h.no_slot_of_terminal hj hterm hi)

theorem Accounted.findReasmTid_eq_none :
    findReasmTid eng T.e2eContextId T.transferId = none := by
  cases hfind : findReasmTid eng T.e2eContextId T.transferId with
  | none => rfl
  | some r =>
    obtain ⟨i, S⟩ := r
    obtain ⟨hi, hctx, ht⟩ := findReasmTid_some hfind
    exact absurd ⟨hctx, .inr ht⟩ (h.no_slot_of_terminal hj hterm hi)

end Terminal

/-! ### After the payload was published -/

/-- A tick that times nothing out only moves the clock. -/
theorem tick_quiet {now : UInt64} (hslots : ∀ i S, eng.reasm i = some S →
    now < S.idleDeadline ∧ now < S.receiverAbsoluteDeadline)
    (htombs : ∀ j T, eng.tombs j = some T → T.expired now = false) :
    (tick eng now).2 = setNow eng now := by
  have hexpire : expireTombs (setNow eng now) now = setNow eng now := by
    have hsame : (fun j => (eng.tombs j).filter fun T => !T.expired now) = eng.tombs := by
      funext j
      cases hj : eng.tombs j with
      | none => rfl
      | some T => rw [Option.filter_some, htombs j T hj]; rfl
    unfold expireTombs setNow
    dsimp only
    rw [hsame]
  have hloop : ∀ slots : List (Fin P.reasmSlots),
      (timeoutSlots now slots (setNow eng now)).2 = setNow eng now := by
    intro slots
    induction slots with
    | nil => rfl
    | cons i rest ih =>
      unfold timeoutSlots
      cases hi : (setNow eng now).reasm i with
      | none => exact ih
      | some S =>
        dsimp only
        rw [if_pos (hslots i S hi)]
        exact ih
  unfold tick
  rw [hexpire]
  exact hloop _

/-- A START again. -/
theorem Done.admitStart (h : Done tr eng) : (admitStart eng tr.start).2.1 = eng := by
  obtain ⟨j, T, hj, hterm, hctx, hgen, hh, ht, hcount, hfp⟩ := h.tomb
  have hah : findReasmHandle eng tr.e2eContextId tr.transferHandle = none := by
    rw [← hctx, ← hh]
    exact h.accounted.findReasmHandle_eq_none hj hterm
  have hat : findReasmTid eng tr.e2eContextId tr.transferId = none := by
    rw [← hctx, ← ht]
    exact h.accounted.findReasmTid_eq_none hj hterm
  have hth : findTombHandle eng tr.e2eContextId tr.transferHandle = some (j, T) := by
    rw [← hctx, ← hh]
    exact h.accounted.findTombHandle_eq hj
  have htt : findTombTid eng tr.e2eContextId tr.transferId = some (j, T) := by
    rw [← hctx, ← ht]
    exact h.accounted.findTombTid_eq hj
  have hanswer : tombAnswer (some (j, T)) (some (j, T)) tr.start =
      some (.exactRetry, tombIntent T) := by
    simp [tombAnswer, hterm, hfp, Transfer.start]
  unfold FragState.admitStart
  rw [if_neg (by simp [h.fenced]),
    if_neg (by simp [Transfer.start, tr.context, tr.generation, tr.handle])]
  dsimp only
  rw [tr.planValidate_start, if_neg (by simp)]
  have hctx' : tr.start.e2eContextId = tr.e2eContextId := rfl
  have hh' : tr.start.transferHandle = tr.transferHandle := rfl
  have ht' : tr.start.transferId = tr.transferId := rfl
  rw [hctx', hh', ht', hah, hat, hth, htt, hanswer]
  rfl

/-- A CONT again. -/
theorem Done.admitCont (h : Done tr eng) (k : ℕ) (withDigest : Bool) :
    (admitCont eng (tr.cont k withDigest)).2.1 = eng := by
  obtain ⟨j, T, hj, hterm, hctx, hgen, hh, -, hcount, -⟩ := h.tomb
  have hfind : findReasmHandle eng (tr.cont k withDigest).e2eContextId
      (tr.cont k withDigest).transferHandle = none := by
    have hnone := h.accounted.findReasmHandle_eq_none hj hterm
    rwa [hctx, hh] at hnone
  have htomb : findTombHandle eng (tr.cont k withDigest).e2eContextId
      (tr.cont k withDigest).transferHandle = some (j, T) := by
    have hsome := h.accounted.findTombHandle_eq hj
    rwa [hctx, hh] at hsome
  unfold FragState.admitCont
  rw [if_neg (by simp [h.fenced]),
    if_neg (by simp [Transfer.cont, tr.context, tr.generation, tr.handle]), hfind, htomb]
  dsimp only
  split_ifs
  all_goals rfl

/-- The clock. -/
theorem Done.setNow (h : Done tr eng) {now : UInt64} (hearly : Early now) :
    Done tr (setNow eng now) := ⟨h.accounted, h.tomb, h.pub, h.published, h.fenced, hearly⟩

/-- **After the payload was published** its fragments change nothing. -/
theorem Done.step (h : Done tr eng) (hop : Quiet tr eng op) : Done tr (op.apply eng).2 := by
  cases hop with
  | start =>
    have hsame : ((Op.start tr.start).apply eng).2 = eng := h.admitStart
    rwa [hsame]
  | cont k withDigest hpos hlt =>
    have hsame : ((Op.cont (tr.cont k withDigest)).apply eng).2 = eng :=
      h.admitCont k withDigest
    rwa [hsame]
  | setNow now hearly => exact h.setNow hearly
  | tick now hearly hslots htombs =>
    have hsame : ((Op.tick now).apply eng).2 = FragState.setNow eng now :=
      tick_quiet hslots htombs
    rw [hsame]
    exact h.setNow hearly

/-- So does another finalisation. -/
theorem Done.finalize (h : Done tr eng) (d : Digest) :
    Done tr (finalize eng tr.e2eContextId tr.transferHandle d).2.1 := by
  obtain ⟨j, T, hj, hterm, hctx, -, hh, -⟩ := h.tomb
  have hfind := h.accounted.findReasmHandle_eq_none hj hterm
  rw [hctx, hh] at hfind
  have hsame : (FragState.finalize eng tr.e2eContextId tr.transferHandle d).2.1 = eng := by
    unfold FragState.finalize
    rw [hfind]
  rwa [hsame]

/-! ### While the transfer is received -/

theorem getLsbD_fullBitmap {n : ℕ} (hpos : 1 ≤ n) (hmax : n ≤ 16) (k : ℕ) :
    (fullBitmap n).getLsbD k = decide (k < n) := by
  unfold fullBitmap
  rw [if_neg (by omega), BitVec.getLsbD_ofNat, Nat.testBit_two_pow_sub_one]
  by_cases hk : k < n
  · have hk16 : k < 16 := by omega
    simp [hk, hk16]
  · simp [hk]

/-- The bitmap is full once every chunk has been seen. -/
theorem SlotOk.full_iff (h : SlotOk S) :
    S.bitmap = fullBitmap S.fragCount ↔ ∀ k, k < S.fragCount → S.chunkSeen k = true := by
  have hmin := h.valid.countMin
  have hmax := h.valid.countMax
  constructor
  · intro hfull k hk
    rw [← h.bits, hfull, getLsbD_fullBitmap (by omega) (by omega)]
    simpa using hk
  · intro hall
    refine BitVec.eq_of_getLsbD_eq fun k _ => ?_
    rw [getLsbD_fullBitmap (by omega) (by omega), h.bits]
    by_cases hk : k < S.fragCount
    · simp [hk, hall k hk]
    · have hnot : S.chunkSeen k = false := by
        by_contra hseen
        exact hk (h.inRange k (by simpa using hseen))
      simp [hk, hnot]

/-- Once every chunk has been seen, the payload is there. -/
theorem Receiving.payload_eq (h : Receiving tr eng i S)
    (hall : ∀ k, k < S.fragCount → S.chunkSeen k = true) :
    S.payload.take S.totalLen = tr.payload := by
  have hmap : (List.range S.fragCount).map (fun k => slice S.payload
      (chunkOffset S.firstChunkLen k) (chunkLength S.totalLen S.firstChunkLen k)) =
        (List.range S.fragCount).map fun k => slice tr.payload
          (chunkOffset S.firstChunkLen k) (chunkLength S.totalLen S.firstChunkLen k) := by
    refine List.map_congr_left fun k hk => ?_
    obtain ⟨c, hc, hlen, hslice⟩ := h.stored k (hall k (List.mem_range.1 hk))
    rw [hlen] at hslice
    rw [hslice, ← Option.some.inj hc, Transfer.chunk, h.total, h.first]
  have hleft := h.ok.valid.flatten_slices S.payload
  have hright := h.ok.valid.flatten_slices tr.payload
  rw [← hleft, hmap, hright, h.total, List.take_length]

/-- The slot with other bookkeeping. -/
theorem Receiving.sameCore (h : Receiving tr eng i S) (hcore : SameCore S S') :
    Receiving tr (eng.setReasm i (some S')) i S' where
  accounted := by
    have heff : Effect (.setNow 0) eng (eng.setReasm i (some S')) :=
      .writes i S S' h.slot (.inl hcore) rfl rfl rfl
    exact h.accounted.effect heff
  slot := update_self ..
  ok := h.ok.sameCore hcore
  stored := h.stored.sameCore hcore
  context := (congrArg Identity.e2eContextId hcore.identity).trans h.context
  generation := (congrArg Identity.keyGeneration hcore.identity).trans h.generation
  tid := (congrArg Identity.transferId hcore.identity).trans h.tid
  handle := (congrArg Identity.transferHandle hcore.identity).trans h.handle
  total := hcore.totalLen.trans h.total
  count := (congrArg Identity.fragCount hcore.identity).trans h.count
  first := hcore.firstChunkLen.trans h.first
  contentDigest := hcore.contentDigest.trans h.contentDigest
  fingerprint := (congrArg Identity.fingerprint hcore.identity).trans h.fingerprint
  zero := by
    rw [hcore.chunkSeen]
    exact h.zero
  pub := h.pub
  published := h.published
  fenced := h.fenced
  early := h.early

/-- The slot with one more chunk of the transfer. -/
theorem Receiving.stores (h : Receiving tr eng i S) {inp : ContIn} (hst : Stores inp S S')
    (hchunk : inp.chunk = tr.chunk inp.fragIndex) :
    Receiving tr (eng.setReasm i (some S')) i S' where
  accounted := by
    have heff : Effect (.cont inp) eng (eng.setReasm i (some S')) :=
      .writes i S S' h.slot (.inr ⟨inp, rfl, hst⟩) rfl rfl rfl
    exact h.accounted.effect heff
  slot := update_self ..
  ok := h.ok.stores hst
  stored := h.stored.stores h.ok hst (by rw [hchunk]) fun _ _ _ => rfl
  context := (congrArg Identity.e2eContextId hst.identity).trans h.context
  generation := (congrArg Identity.keyGeneration hst.identity).trans h.generation
  tid := (congrArg Identity.transferId hst.identity).trans h.tid
  handle := (congrArg Identity.transferHandle hst.identity).trans h.handle
  total := hst.totalLen.trans h.total
  count := (congrArg Identity.fragCount hst.identity).trans h.count
  first := hst.firstChunkLen.trans h.first
  contentDigest := hst.contentDigest.trans h.contentDigest
  fingerprint := (congrArg Identity.fingerprint hst.identity).trans h.fingerprint
  zero := by
    rw [hst.chunkSeen]
    by_cases hzero : 0 = inp.fragIndex
    · rw [hzero, update_self]
    · rw [update_of_ne hzero]
      exact h.zero
  pub := h.pub
  published := h.published
  fenced := h.fenced
  early := h.early

/-- An early moment leaves room for a timer. -/
theorem Early.checkedAdd {now : UInt64} (h : Early now) {timer : UInt64}
    (htimer : timer.toNat ≤ 90000) : ∃ at', checkedAddU64 now timer = some at' := by
  unfold Early at h
  refine ⟨now + timer, checkedAddU64_eq_some.2 ⟨by omega, ?_⟩⟩
  rw [UInt64.toNat_add, Nat.mod_eq_of_lt (by omega)]

/-- **The digest of a full slot publishes the payload.** -/
theorem Receiving.complete (h : Receiving tr eng i S)
    (hall : ∀ k, k < S.fragCount → S.chunkSeen k = true) :
    Done tr (tryComplete eng i S tr.digest).2.1 := by
  obtain ⟨j, hj, hmark⟩ := h.accounted.endSlot h.slot
  obtain ⟨expiry, hexp⟩ := h.early.checkedAdd (by decide : tombstoneTtlMs.toNat ≤ 90000)
  have hreasm : update (stagePublication eng S).reasm i none =
      update eng.reasm i none := rfl
  have hend : Ends eng (terminate (stagePublication eng S) i S j statusComplete reasonNone expiry)
      i j S (terminalTomb S statusComplete reasonNone expiry) :=
    terminate_ends h.slot hmark rfl rfl hreasm rfl rfl
  have hres : (tryComplete eng i S tr.digest).2.1 =
      terminate (stagePublication eng S) i S j statusComplete reasonNone expiry := by
    unfold tryComplete
    rw [if_neg (not_not.2 (h.ok.full_iff.2 hall)), hexp]
    dsimp only
    rw [hj]
    dsimp only
    rw [if_neg (not_not.2 h.contentDigest.symm), if_neg (by simp [h.pub])]
  rw [hres]
  refine ⟨h.accounted.changes Clash.refl hend.evolves, ?_, ?_, ?_, h.fenced, h.early⟩
  · refine ⟨j, terminalTomb S statusComplete reasonNone expiry, ?_, rfl, h.context, h.generation,
      h.handle, h.tid, h.count, h.fingerprint⟩
    rw [hend.tombs, update_self]
  · have hpub : (terminate (stagePublication eng S) i S j statusComplete reasonNone expiry).pub =
        some ⟨S.e2eContextId, S.keyGeneration, S.transferHandle, S.totalLen,
          S.payload.take S.totalLen⟩ := rfl
    rw [hpub, h.payload_eq hall, h.context, h.generation, h.handle, h.total]
  · have hcount : (terminate (stagePublication eng S) i S j statusComplete reasonNone
        expiry).publishCount = eng.publishCount + 1 := rfl
    rw [hcount, h.published]
    rfl

/-! ### One call while the transfer is received -/

/-- What a call brings about: the payload is published, or one more chunk is there. -/
def Progress (tr : Transfer) (eng : Engine P) (op : Op) (i : Fin P.reasmSlots) (S : Slot) : Prop :=
  Done tr (op.apply eng).2 ∨ ∃ S', Receiving tr (op.apply eng).2 i S' ∧
    (∀ k, S.chunkSeen k = true → S'.chunkSeen k = true) ∧
    ∀ k d, op = .cont (tr.cont k d) → S'.chunkSeen k = true

/-- A call after which the slot is as before. -/
theorem Receiving.unmoved (h : Receiving tr eng i S) (hsame : (op.apply eng).2 = eng)
    (hseen : ∀ k d, op = .cont (tr.cont k d) → S.chunkSeen k = true) : Progress tr eng op i S :=
  .inr ⟨S, by rwa [hsame], fun _ hk => hk, hseen⟩

/-- A START again. -/
theorem Receiving.admitStart (h : Receiving tr eng i S) : (admitStart eng tr.start).2.1 = eng := by
  have hah : findReasmHandle eng tr.start.e2eContextId tr.start.transferHandle = some (i, S) := by
    have hfind := h.accounted.findReasmHandle_eq h.slot
    rwa [h.context, h.handle] at hfind
  have hat : findReasmTid eng tr.start.e2eContextId tr.start.transferId = some (i, S) := by
    have hfind := h.accounted.findReasmTid_eq h.slot
    rwa [h.context, h.tid] at hfind
  have hfirst : slice S.payload 0 tr.start.firstChunk.length = tr.start.firstChunk := by
    obtain ⟨c, hc, -, hslice⟩ := h.stored 0 h.zero
    rw [← Option.some.inj hc] at hslice
    have hoff : chunkOffset S.firstChunkLen 0 = 0 := by simp [chunkOffset]
    rwa [hoff] at hslice
  have hexact : exactStart S tr.start = true := by
    have hfl : S.firstChunkLen = tr.start.firstChunk.length :=
      h.first.trans tr.length_chunk_zero.symm
    simp only [exactStart, Bool.and_eq_true, beq_iff_eq]
    exact ⟨⟨⟨⟨⟨h.fingerprint, h.total⟩, h.count⟩, hfl⟩, h.contentDigest⟩, hfirst⟩
  have hgen : S.keyGeneration = tr.start.keyGeneration := h.generation
  unfold FragState.admitStart
  rw [if_neg (by simp [h.fenced]),
    if_neg (by simp [Transfer.start, tr.context, tr.generation, tr.handle])]
  dsimp only
  rw [tr.planValidate_start, if_neg (by simp), hah, hat]
  dsimp only [Option.some_or]
  rw [if_neg (by simp), if_neg (not_not.2 hgen), if_pos hexact]

/-- A CONT reaches its slot. -/
theorem Receiving.admitCont (h : Receiving tr eng i S) {k : ℕ} (hpos : 1 ≤ k)
    (hlt : k < tr.plan.fragCount) (withDigest : Bool) :
    admitCont eng (tr.cont k withDigest) =
      if S.chunkSeen k then contSeen eng i S (tr.cont k withDigest) (chunkOffset S.firstChunkLen k)
      else contNew eng i S (tr.cont k withDigest) (chunkOffset S.firstChunkLen k) := by
  have hfind : findReasmHandle eng (tr.cont k withDigest).e2eContextId
      (tr.cont k withDigest).transferHandle = some (i, S) := by
    have hsome := h.accounted.findReasmHandle_eq h.slot
    rwa [h.context, h.handle] at hsome
  have hplace := contGeometry_eq_ok h.ok.valid hpos (h.count ▸ hlt)
  have hlen : (tr.cont k withDigest).chunk.length =
      chunkLength S.totalLen S.firstChunkLen k := by
    rw [h.total, h.first]
    exact tr.length_chunk hlt
  have hindex : (tr.cont k withDigest).fragIndex = k := rfl
  have hgen : S.keyGeneration = (tr.cont k withDigest).keyGeneration := h.generation
  unfold FragState.admitCont
  rw [if_neg (by simp [h.fenced]),
    if_neg (by simp [Transfer.cont, tr.context, tr.generation, tr.handle]), hfind]
  dsimp only
  rw [if_neg (not_not.2 hgen), hindex, hplace]
  dsimp only
  rw [if_neg (not_not.2 hlen)]

/-- A CONT whose chunk has been seen. -/
theorem Receiving.contSeen (h : Receiving tr eng i S) {k : ℕ} (hpos : 1 ≤ k)
    (hlt : k < tr.plan.fragCount) (hseen : S.chunkSeen k = true) (withDigest : Bool) :
    Progress tr eng (.cont (tr.cont k withDigest)) i S := by
  have hcall : ((Op.cont (tr.cont k withDigest)).apply eng).2 =
      (FragState.contSeen eng i S (tr.cont k withDigest)
        (chunkOffset S.firstChunkLen k)).2.1 := by
    have hadmit := h.admitCont hpos hlt withDigest
    rw [if_pos hseen] at hadmit
    exact congrArg (fun r => r.2.1) hadmit
  have hsame : S.chunkLen (tr.cont k withDigest).fragIndex = (tr.cont k withDigest).chunk.length
      ∧ slice S.payload (chunkOffset S.firstChunkLen k) (tr.cont k withDigest).chunk.length =
        (tr.cont k withDigest).chunk := by
    obtain ⟨c, hc, hlen, hslice⟩ := h.stored k hseen
    have hchunk : (tr.cont k withDigest).chunk = c := Option.some.inj hc
    rw [hchunk]
    exact ⟨(h.ok.lengths k hseen).trans hlen.symm, hslice⟩
  have hall : ∀ l d, Op.cont (tr.cont k withDigest) = .cont (tr.cont l d) →
      S.chunkSeen l = true := by
    intro l d hop
    have hkl : k = l := congrArg ContIn.fragIndex (Op.cont.inj hop)
    rwa [← hkl]
  unfold FragState.contSeen at hcall
  rw [if_pos hsame] at hcall
  cases withDigest with
  | false =>
    refine h.unmoved (hcall.trans ?_) hall
    have hnone : (tr.cont k false).reassembledDigest32 = none := rfl
    rw [hnone]
    dsimp only
    split_ifs
    · rfl
    · rfl
  | true =>
    have hsome : (tr.cont k true).reassembledDigest32 = some tr.digest := rfl
    rw [hsome] at hcall
    dsimp only at hcall
    by_cases hneed : S.needDigest = true ∧ S.bitmap = fullBitmap S.fragCount
    · rw [if_pos hneed] at hcall
      left
      rw [hcall]
      exact (h.sameCore (sameCore_needDigest S false)).complete (h.ok.full_iff.1 hneed.2)
    · rw [if_neg hneed] at hcall
      exact h.unmoved hcall hall

/-- A CONT whose chunk is new. -/
theorem Receiving.contNew (h : Receiving tr eng i S) {k : ℕ} (hpos : 1 ≤ k)
    (hlt : k < tr.plan.fragCount) (hseen : S.chunkSeen k = false) (withDigest : Bool) :
    Progress tr eng (.cont (tr.cont k withDigest)) i S := by
  have hcall : ((Op.cont (tr.cont k withDigest)).apply eng).2 =
      (FragState.contNew eng i S (tr.cont k withDigest)
        (chunkOffset S.firstChunkLen k)).2.1 := by
    have hadmit := h.admitCont hpos hlt withDigest
    rw [if_neg (by simp [hseen])] at hadmit
    exact congrArg (fun r => r.2.1) hadmit
  have hlen : (tr.cont k withDigest).chunk.length =
      chunkLength S.totalLen S.firstChunkLen k := by
    rw [h.total, h.first]
    exact tr.length_chunk hlt
  have hplace : contGeometry S.totalLen S.firstChunkLen S.fragCount
      (tr.cont k withDigest).fragIndex = .ok (chunkOffset S.firstChunkLen
        (tr.cont k withDigest).fragIndex, (tr.cont k withDigest).chunk.length) := by
    rw [hlen]
    exact contGeometry_eq_ok h.ok.valid hpos (h.count ▸ hlt)
  obtain ⟨idle, hidle⟩ := h.early.checkedAdd (by decide : idleTimeoutMs.toNat ≤ 90000)
  obtain ⟨due, hdue⟩ := h.early.checkedAdd (by decide : partialAckIdleMs.toNat ≤ 90000)
  have hcap := capped_le idle S.receiverAbsoluteDeadline
  unfold FragState.contNew at hcall
  dsimp only at hcall
  rw [hidle] at hcall
  dsimp only at hcall
  generalize (if idle > S.receiverAbsoluteDeadline then S.receiverAbsoluteDeadline else idle) =
    newIdle at hcap hcall
  -- Whatever is noted in the slot besides, it now holds chunk `k`.
  have hwrite : ∀ S', SameCore (storedSlot S k (chunkOffset S.firstChunkLen k) (tr.chunk k)
      (S.bitmap ||| (1#16 <<< k)) newIdle) S' → Receiving tr (eng.setReasm i (some S')) i S' ∧
        S'.chunkSeen = update S.chunkSeen k true ∧
        S'.bitmap = S.bitmap ||| (1#16 <<< k) ∧ S'.fragCount = S.fragCount := by
    intro S' hcore
    have hst : Stores (tr.cont k withDigest) S S' := stores_storedSlot hseen hplace hcap hcore
    exact ⟨h.stores hst rfl, hst.chunkSeen, hst.bitmap, congrArg Identity.fragCount hst.identity⟩
  have hgrows : ∀ S' : Slot, S'.chunkSeen = update S.chunkSeen k true →
      (∀ l, S.chunkSeen l = true → S'.chunkSeen l = true) ∧
        ∀ l d, Op.cont (tr.cont k withDigest) = .cont (tr.cont l d) → S'.chunkSeen l = true := by
    intro S' hS'
    rw [hS']
    constructor
    · intro l hl
      by_cases hlk : l = k
      · rw [hlk, update_self]
      · rw [update_of_ne hlk, hl]
    · intro l d hop
      have hkl : k = l := congrArg ContIn.fragIndex (Op.cont.inj hop)
      rw [← hkl, update_self]
  have hstored : ∀ S' : Slot,
      eng.setReasm i (some S') = ((Op.cont (tr.cont k withDigest)).apply eng).2 →
      SameCore (storedSlot S k (chunkOffset S.firstChunkLen k) (tr.chunk k)
        (S.bitmap ||| (1#16 <<< k)) newIdle) S' →
      Progress tr eng (.cont (tr.cont k withDigest)) i S := by
    intro S' heq hcore
    obtain ⟨hrec, hS', -⟩ := hwrite S' hcore
    rw [heq] at hrec
    exact .inr ⟨S', hrec, hgrows S' hS'⟩
  have hindex : (tr.cont k withDigest).fragIndex = k := rfl
  have hchunk : (tr.cont k withDigest).chunk = tr.chunk k := rfl
  rw [hindex, hchunk] at hcall
  by_cases hfull : S.bitmap ||| (1#16 <<< k) = fullBitmap S.fragCount
  · rw [if_pos hfull] at hcall
    cases withDigest with
    | false => exact hstored _ hcall.symm (sameCore_needDigest _ true)
    | true =>
      left
      have hsome : (tr.cont k true).reassembledDigest32 = some tr.digest := rfl
      rw [hsome] at hcall
      dsimp only at hcall
      rw [hcall]
      obtain ⟨hrec, -, hbits, hcount⟩ := hwrite _ (sameCore_needDigest _ false)
      refine hrec.complete (hrec.ok.full_iff.1 ?_)
      rw [hbits, hcount]
      exact hfull
  · rw [if_neg hfull, hdue] at hcall
    dsimp only at hcall
    refine hstored _ hcall.symm ?_
    split_ifs
    all_goals exact ⟨rfl, rfl, rfl, rfl, rfl, rfl, rfl, rfl, rfl, rfl⟩

/-- **While the transfer is received**, each call publishes the payload or adds its chunk. -/
theorem Receiving.step (h : Receiving tr eng i S) (hop : Quiet tr eng op) :
    Progress tr eng op i S := by
  have hclock : ∀ now, Early now → Receiving tr (setNow eng now) i S := fun now hearly =>
    { h with early := hearly, accounted := h.accounted }
  cases hop with
  | start => exact h.unmoved h.admitStart fun k d hop => by cases hop
  | cont k withDigest hpos hlt =>
    cases hseen : S.chunkSeen k with
    | true => exact h.contSeen hpos hlt hseen withDigest
    | false => exact h.contNew hpos hlt hseen withDigest
  | setNow now hearly =>
    exact .inr ⟨S, hclock now hearly, fun _ hk => hk, fun k d hop => by cases hop⟩
  | tick now hearly hslots htombs =>
    have hsame : ((Op.tick now).apply eng).2 = setNow eng now := tick_quiet hslots htombs
    refine .inr ⟨S, ?_, fun _ hk => hk, fun k d hop => by cases hop⟩
    rw [hsame]
    exact hclock now hearly

/-! ### The START on a fresh engine -/

/-- A profile with room for one transfer of any length. -/
structure Roomy (P : Profile) : Prop where
  slots : 0 < P.reasmSlots
  budget : 2048 ≤ P.payloadBudget
  perPeer : 0 < P.maxPerPeer

theorem roomy_of_profile (h : P = controllerProfile ∨ P = endpointProfile) : Roomy P := by
  rcases h with rfl | rfl
  · exact ⟨by decide, by decide, by decide⟩
  · exact ⟨by decide, by decide, by decide⟩

theorem accounted_init : Accounted (Engine.init P) := inv_init.accounted

/-- A fresh engine takes the START. -/
theorem fresh_start_ok (hP : Roomy P) {now : UInt64} (hearly : Early now) :
    (admitStart (setNow (Engine.init P) now) tr.start).1 = .ok := by
  have hah : ∀ ctx handle, findReasmHandle (setNow (Engine.init P) now) ctx handle = none :=
    fun _ _ => scan_empty
  have hat : ∀ ctx tid, findReasmTid (setNow (Engine.init P) now) ctx tid = none :=
    fun _ _ => scan_empty
  have hth : ∀ ctx handle, findTombHandle (setNow (Engine.init P) now) ctx handle = none :=
    fun _ _ => scan_empty
  have htt : ∀ ctx tid, findTombTid (setNow (Engine.init P) now) ctx tid = none :=
    fun _ _ => scan_empty
  have htomb : (setNow (Engine.init P) now).tombs ⟨0, by decide⟩ = none := rfl
  have hslot : (setNow (Engine.init P) now).reasm ⟨0, hP.slots⟩ = none := rfl
  obtain ⟨j, hj⟩ := firstFree_of_free htomb
  obtain ⟨i, hi⟩ := firstFree_of_free hslot
  obtain ⟨absDl, habs⟩ := hearly.checkedAdd (by decide : receiverTtlMs.toNat ≤ 90000)
  obtain ⟨idleDl, hidle⟩ := hearly.checkedAdd (by decide : idleTimeoutMs.toNat ≤ 90000)
  obtain ⟨due, hdue⟩ := hearly.checkedAdd (by decide : partialAckIdleMs.toNat ≤ 90000)
  have hbudget : ¬ (setNow (Engine.init P) now).payloadBytesInUse + tr.start.totalLen >
      P.payloadBudget := by
    have htotal := tr.valid.totalMax
    have hroom := hP.budget
    have hzero : (setNow (Engine.init P) now).payloadBytesInUse = 0 := rfl
    have hstart : tr.start.totalLen = tr.payload.length := rfl
    omega
  have hpeer : ¬ peerCount (setNow (Engine.init P) now) tr.start.e2eContextId ≥ P.maxPerPeer := by
    have hcount : peerCount (setNow (Engine.init P) now) tr.start.e2eContextId = 0 := by
      unfold peerCount
      rw [List.countP_eq_zero]
      intro x _
      simp [setNow, Engine.init]
    have hroom := hP.perPeer
    omega
  have hnow : (setNow (Engine.init P) now).nowMono = now := rfl
  unfold FragState.admitStart
  rw [if_neg (by simp [setNow, Engine.init]),
    if_neg (by simp [Transfer.start, tr.context, tr.generation, tr.handle])]
  dsimp only
  rw [tr.planValidate_start, if_neg (by simp), hah, hat, hth, htt]
  unfold startFresh tombReserve
  dsimp only [Option.or_none, tombAnswer]
  rw [hj]
  dsimp only
  rw [if_neg hbudget, if_neg hpeer, hi, hnow, habs, hidle, hdue]
  rfl

/-- The transfer is then in a slot. -/
theorem Opens.receiving {j : Fin tombstoneSlots} (h : Opens tr.start eng eng' i j)
    (hacc : Accounted eng) (hpub : eng.pub = none) (hcount : eng.publishCount = 0)
    (hfenced : eng.fenced = false) (hearly : Early eng.nowMono) :
    ∃ S, Receiving tr eng' i S := by
  obtain ⟨absDl, idleDl, due, hle, hreasm⟩ := h.slot
  have hslot : eng'.reasm i = some (openedSlot tr.start absDl idleDl due j.val) := by
    rw [hreasm, update_self]
  refine ⟨_, hacc.changes Clash.refl h.evolves, hslot, slotOk_openedSlot h.valid hle,
    stored_openedSlot h.valid rfl, rfl, rfl, rfl, rfl, rfl, rfl, tr.length_chunk_zero, rfl, rfl,
    ?_, h.pub.trans hpub, h.count.trans hcount, h.fenced.trans hfenced, ?_⟩
  · simp [openedSlot]
  · rw [h.now]
    exact hearly

/-- **The START on a fresh engine.** -/
theorem fresh_start (hP : Roomy P) {now : UInt64} (hearly : Early now) :
    ∃ i S, Receiving tr (admitStart (setNow (Engine.init P) now) tr.start).2.1 i S := by
  have hacc : Accounted (setNow (Engine.init P) now) := accounted_init
  rcases admitStart_cases hacc tr.start with ⟨-, hno⟩ | ⟨-, i, j, hopen⟩
  · exact absurd (fresh_start_ok hP hearly) hno
  · obtain ⟨S, hS⟩ := hopen.receiving hacc rfl rfl rfl hearly
    exact ⟨i, S, hS⟩

/-! ### Whole deliveries -/

/-- What a sequence of calls brings about: the payload is published, or every chunk that was brought
is there. -/
theorem Receiving.feeds {ops : List Op} (hfeeds : Feeds tr eng ops eng') :
    ∀ {i : Fin P.reasmSlots} {S : Slot}, Receiving tr eng i S →
      Done tr eng' ∨ ∃ S', Receiving tr eng' i S' ∧
        (∀ k, S.chunkSeen k = true → S'.chunkSeen k = true) ∧
        ∀ k d, Op.cont (tr.cont k d) ∈ ops → S'.chunkSeen k = true := by
  have hdone : ∀ {e e' : Engine P} {ops : List Op}, Feeds tr e ops e' → Done tr e → Done tr e' := by
    intro e e' ops hf
    induction hf with
    | nil => exact id
    | cons hop _ ih => exact fun hd => ih (hd.step hop)
  induction hfeeds with
  | nil eng => exact fun {i S} h => .inr ⟨S, h, fun _ hk => hk, fun k d hmem => by cases hmem⟩
  | cons hop hrest ih =>
    intro i S h
    rcases h.step hop with hd | ⟨S', hS', hmono, hnew⟩
    · exact .inl (hdone hrest hd)
    · rcases ih hS' with hd | ⟨S'', hS'', hmono', hnew'⟩
      · exact .inl hd
      · refine .inr ⟨S'', hS'', fun k hk => hmono' k (hmono k hk), fun k d hmem => ?_⟩
        rcases List.mem_cons.1 hmem with heq | hmem
        · exact hmono' k (hnew k d heq.symm)
        · exact hnew' k d hmem

/-- A slot with every chunk is finalised. -/
theorem Receiving.finalize (h : Receiving tr eng i S)
    (hall : ∀ k, k < S.fragCount → S.chunkSeen k = true) :
    Done tr (finalize eng tr.e2eContextId tr.transferHandle tr.digest).2.1 := by
  have hfind := h.accounted.findReasmHandle_eq h.slot
  rw [h.context, h.handle] at hfind
  unfold FragState.finalize
  rw [hfind]
  dsimp only
  rw [if_neg (not_not.2 (h.ok.full_iff.2 hall))]
  exact (h.sameCore (sameCore_needDigest S false)).complete hall

/-- Its payload can be read before that. -/
theorem Receiving.peek (h : Receiving tr eng i S)
    (hall : ∀ k, k < S.fragCount → S.chunkSeen k = true) :
    peekReassembled eng tr.e2eContextId tr.transferHandle = .ok tr.payload := by
  have hfind := h.accounted.findReasmHandle_eq h.slot
  rw [h.context, h.handle] at hfind
  unfold peekReassembled
  rw [hfind]
  dsimp only
  rw [if_neg (not_not.2 (h.ok.full_iff.2 hall)), h.payload_eq hall]

/-- **Fragmentation and reassembly are inverse, in any order.** -/
theorem fragments_in_any_order (hP : P = controllerProfile ∨ P = endpointProfile) (tr : Transfer) :
    (tr.plan.Tiles ∧
      (tr.plan.chunks.map fun c => slice tr.payload c.offset c.length).flatten = tr.payload ∧
      planValidate tr.payload.length tr.plan.firstChunkLen tr.plan.fragCount
        tr.plan.contUnit = .ok ∧
      (∀ fragCount', planValidate tr.payload.length tr.plan.firstChunkLen fragCount'
        tr.plan.contUnit = .ok → fragCount' = tr.plan.fragCount) ∧
      ∀ c ∈ tr.plan.chunks, 1 ≤ c.fragIndex →
        contGeometry tr.payload.length tr.plan.firstChunkLen tr.plan.fragCount c.fragIndex =
          .ok (c.offset, c.length)) ∧
    ∀ (now : UInt64) (ops : List Op) (eng : Engine P), Early now →
      Feeds tr (setNow (Engine.init P) now) (.start tr.start :: ops) eng →
      (∀ k, 1 ≤ k → k < tr.plan.fragCount → ∃ d, Op.cont (tr.cont k d) ∈ ops) →
      (eng.pub.isSome = true ∨
        peekReassembled eng tr.e2eContextId tr.transferHandle = .ok tr.payload) ∧
      (finalize eng tr.e2eContextId tr.transferHandle tr.digest).2.1.pub =
        some ⟨tr.e2eContextId, tr.keyGeneration, tr.transferHandle, tr.payload.length,
          tr.payload⟩ ∧
      (finalize eng tr.e2eContextId tr.transferHandle tr.digest).2.1.publishCount = 1 := by
  have hroom := roomy_of_profile hP
  obtain ⟨hmin, hmax, hplan⟩ := tr.plan_eq
  have hvalid := tr.valid
  refine ⟨⟨?_, ?_, ?_, ?_, ?_⟩, ?_⟩
  · rw [hplan]
    exact planOf_tiles hmin hmax
  · have hchunks : tr.plan.chunks =
        chunksFrom tr.payload.length tr.plan.firstChunkLen 0 tr.plan.fragCount := by
      rw [hplan]
      rfl
    have hflat := hvalid.flatten_slices tr.payload
    rw [List.take_length] at hflat
    rw [hchunks, chunksFrom, List.map_map, ← List.range_eq_range']
    exact hflat
  · exact planValidate_eq_ok.2 ⟨tr.contUnit_eq, hvalid⟩
  · exact fun fragCount' h => hvalid.count_unique (planValidate_eq_ok.1 h).2
  · intro c hc hpos
    obtain ⟨k, hk⟩ := List.mem_iff_getElem?.1 hc
    rw [hplan] at hk
    obtain ⟨hlt, rfl⟩ := getElem?_planOf_chunks hk
    rw [hplan]
    exact contGeometry_eq_ok (planOf_valid hmin hmax) hpos hlt
  · intro now ops eng hearly hfeeds hall
    cases hfeeds with
    | cons _ hrest =>
      obtain ⟨i, S, hS⟩ := (fresh_start hroom hearly : ∃ i S, Receiving tr
        (admitStart (setNow (Engine.init P) now) tr.start).2.1 i S)
      rcases hS.feeds hrest with hd | ⟨S', hS', hmono, hnew⟩
      · have hfin := hd.finalize tr.digest
        exact ⟨.inl (by rw [hd.pub]; rfl), hfin.pub, hfin.published⟩
      · have hseen : ∀ k, k < S'.fragCount → S'.chunkSeen k = true := by
          intro k hk
          rw [hS'.count] at hk
          by_cases hzero : k = 0
          · rw [hzero]
            exact hS'.zero
          · obtain ⟨d, hd⟩ := hall k (by omega) hk
            exact hnew k d hd
        have hfin := hS'.finalize hseen
        exact ⟨.inr (hS'.peek hseen), hfin.pub, hfin.published⟩

/-- Calls that are quiet on every engine. -/
theorem feeds_of_quiet (ops : List Op) (hquiet : ∀ op ∈ ops, ∀ eng : Engine P, Quiet tr eng op) :
    ∀ eng : Engine P, Feeds tr eng ops (ops.foldl (fun e op => (op.apply e).2) eng) := by
  induction ops with
  | nil => exact fun eng => .nil eng
  | cons op ops ih =>
    intro eng
    exact .cons (hquiet op (List.mem_cons_self ..) eng)
      (ih (fun o ho => hquiet o (List.mem_cons_of_mem _ ho)) _)

/-- A payload of 400 bytes, in three fragments. -/
def sampleTransfer : Transfer where
  e2eContextId := 5
  keyGeneration := 1
  transferId := Vector.replicate 16 1
  transferHandle := 7
  fingerprint := Vector.replicate 32 1
  payload := (List.range 400).map UInt8.ofNat
  digest := Vector.replicate 32 2
  plan := planOf 400
  context := by decide
  generation := by decide
  handle := by decide
  built := by
    rw [List.length_map, List.length_range]
    exact planBuild_eq_ok.2 ⟨by decide, by decide, rfl⟩

/-- Its last CONT twice with the START again in between, and then the other one. -/
def sampleOps : List Op :=
  [.cont (sampleTransfer.cont 2 false), .start sampleTransfer.start,
    .cont (sampleTransfer.cont 2 false), .cont (sampleTransfer.cont 1 false)]

/-- The engine after the START and these calls. -/
def sampleEngine : Engine endpointProfile :=
  sampleOps.foldl (fun e op => (op.apply e).2)
    ((Op.start sampleTransfer.start).apply (setNow (Engine.init endpointProfile) 1000)).2

theorem sample_feeds : Feeds sampleTransfer (setNow (Engine.init endpointProfile) 1000)
    (.start sampleTransfer.start :: sampleOps) sampleEngine := by
  have hfirst : ∀ eng : Engine endpointProfile,
      Quiet sampleTransfer eng (.cont (sampleTransfer.cont 1 false)) :=
    fun eng => .cont 1 false (by decide) (by decide)
  have hlast : ∀ eng : Engine endpointProfile,
      Quiet sampleTransfer eng (.cont (sampleTransfer.cont 2 false)) :=
    fun eng => .cont 2 false (by decide) (by decide)
  refine .cons .start (feeds_of_quiet sampleOps (fun op hop eng => ?_) _)
  simp only [sampleOps, List.mem_cons, List.not_mem_nil, or_false] at hop
  rcases hop with rfl | rfl | rfl | rfl
  · exact hlast eng
  · exact .start
  · exact hlast eng
  · exact hfirst eng

theorem sample_in_any_order :
    ((finalize sampleEngine sampleTransfer.e2eContextId sampleTransfer.transferHandle
      sampleTransfer.digest).2.1.pub).map Publication.payload =
        some ((List.range 400).map UInt8.ofNat) ∧
    (finalize sampleEngine sampleTransfer.e2eContextId sampleTransfer.transferHandle
      sampleTransfer.digest).2.1.publishCount = 1 := by
  have hearly : Early 1000 := by
    unfold Early
    decide
  have hall : ∀ k, 0 < k → k < sampleTransfer.plan.fragCount →
      ∃ d, .cont (sampleTransfer.cont k d) ∈ sampleOps := by
    intro k hpos hlt
    have hcount : sampleTransfer.plan.fragCount = 3 := by decide
    obtain rfl | rfl : k = 1 ∨ k = 2 := by omega
    · exact ⟨false, by simp [sampleOps]⟩
    · exact ⟨false, List.mem_cons_self ..⟩
  obtain ⟨-, hpub, hcount⟩ := (fragments_in_any_order (.inr rfl) sampleTransfer).2 1000 sampleOps
    sampleEngine hearly sample_feeds hall
  rw [hpub]
  exact ⟨rfl, hcount⟩

end Ninlil.FragState
