import Ninlil.R7Frag.Accounting

/-!
# Tombstones over whole runs

Every sequence of the four calls of the fragment engine's reassembly, with the clock set in between.

* `CoreOp`, `CoreRun`: the calls, and the engines they reach;
* `TombSafe`: one tombstone for each transfer, one reservation for each active slot and conversely,
  and terminal tombstones are what retries are answered with;
* `KeepsTombs`: terminal tombstones stay until a tick at or after their expiry, and a transfer whose
  slot is given back leaves one;
* `tombstones_accounted`: both hold in every run as long as no CONT completes its transfer, and a
  CONT that does breaks the first.
-/

namespace Ninlil.R7Frag

open Bytes Reservations

variable {P : Profile} {eng eng' : Engine P}

/-! ### Calls -/

/-- A call of the reassembly half of the engine. -/
inductive CoreOp
  | start (provider : Provider) (e2eContextId : UInt32) (body : StartBody)
      (firstChunk : List UInt8)
  | cont (provider : Provider) (e2eContextId : UInt32) (body : ContBody) (chunk : List UInt8)
  | tick (now : UInt64)
  | setNow (now : UInt64)
  | takePublication (outCapacity : ℕ)

/-- The engine a call leaves. -/
def CoreOp.apply (eng : Engine P) : CoreOp → Engine P
  | .start provider ctx body firstChunk => (reasmAdmitStart eng provider ctx body firstChunk).2.1
  | .cont provider ctx body chunk => (reasmAdmitCont eng provider ctx body chunk).2.1
  | .tick now => (reasmTick eng now).2
  | .setNow now => eng.setNow now
  | .takePublication outCapacity => (R7Frag.takePublication eng outCapacity).2.1

/-- The call is a CONT that completes its transfer. -/
def CoreOp.CompletesAt (eng : Engine P) : CoreOp → Prop
  | .cont provider ctx body chunk => ∃ i, Completes eng provider ctx body chunk i
  | _ => False

/-- The engines that calls allowed by `ok` reach from a fresh one. -/
def CoreRun (ok : Engine P → CoreOp → Prop) (eng : Engine P) : Prop :=
  Relation.ReflTransGen (fun e e' => ∃ op, ok e op ∧ e' = CoreOp.apply e op) (.init P) eng

/-! ### The two properties -/

/-- What the tombstones of an engine promise. -/
structure TombSafe (eng : Engine P) : Prop where
  handleUnique : ∀ j j', (eng.tombs j).inUse = true → (eng.tombs j').inUse = true →
    (eng.tombs j).e2eContextId = (eng.tombs j').e2eContextId →
    (eng.tombs j).transferHandle = (eng.tombs j').transferHandle → j = j'
  tidUnique : ∀ j j', (eng.tombs j).inUse = true → (eng.tombs j').inUse = true →
    (eng.tombs j).e2eContextId = (eng.tombs j').e2eContextId →
    (eng.tombs j).transferId = (eng.tombs j').transferId → j = j'
  reservationOwned : ∀ j, (eng.tombs j).inUse = true → (eng.tombs j).status = reservationMarker →
    ∃! i, (eng.reasm i).inUse = true ∧ (eng.reasm i).identity = (eng.tombs j).identity
  slotBacked : ∀ i, (eng.reasm i).inUse = true →
    ∃! j, (eng.tombs j).inUse = true ∧ (eng.tombs j).status = reservationMarker ∧
      (eng.tombs j).identity = (eng.reasm i).identity
  startRetry : ∀ j provider body firstChunk, (eng.tombs j).inUse = true →
    (eng.tombs j).status ≠ reservationMarker → contextOk (eng.tombs j).e2eContextId = true →
    handleOk body.transferHandle = true →
    planValidate body.totalLen (firstChunk.length % 65536) body.fragCount
      body.continuationUnit = .ok →
    body.transferHandle = (eng.tombs j).transferHandle →
    body.transferId = (eng.tombs j).transferId →
    startFingerprint provider body firstChunk = .ok (eng.tombs j).fingerprint →
    reasmAdmitStart eng provider (eng.tombs j).e2eContextId body firstChunk =
      (.exactRetry, eng, some (tombIntent (eng.tombs j)))
  contRetry : ∀ j provider body chunk, (eng.tombs j).inUse = true →
    (eng.tombs j).status ≠ reservationMarker → contextOk (eng.tombs j).e2eContextId = true →
    handleOk body.transferHandle = true → 1 ≤ chunk.length → chunk.length ≤ cMax →
    body.transferHandle = (eng.tombs j).transferHandle →
    reasmAdmitCont eng provider (eng.tombs j).e2eContextId body chunk =
      (.exactRetry, eng, some (tombIntent (eng.tombs j)))

/-- What a call does to terminal tombstones and to slots that are given back. -/
structure KeepsTombs (eng : Engine P) (op : CoreOp) : Prop where
  stays : ∀ j, (eng.tombs j).inUse = true → (eng.tombs j).status ≠ reservationMarker →
    ((op.apply eng).tombs j).mark = (eng.tombs j).mark ∨
      ∃ now, op = .tick now ∧ (eng.tombs j).expiryMono ≤ now
  leaves : ∀ i, (eng.reasm i).inUse = true →
    ((op.apply eng).reasm i).inUse = true ∧
        ((op.apply eng).reasm i).identity = (eng.reasm i).identity ∨
      ∃ j, ((op.apply eng).tombs j).inUse = true ∧
        ((op.apply eng).tombs j).status ≠ reservationMarker ∧
        ((op.apply eng).tombs j).identity = (eng.reasm i).identity

/-! ### From the accounts -/

/-- A terminal tombstone is the only record of its transfer. -/
theorem Accounted.no_slot_of_terminal (h : Accounted eng) {j : Fin tombstoneSlots}
    (hj : (eng.tombs j).inUse = true) (hstatus : (eng.tombs j).status ≠ reservationMarker)
    {i : Fin P.reasmSlots} (hi : (eng.reasm i).inUse = true) :
    ¬ Clash (eng.reasm i).identity (eng.tombs j).identity :=
  h.no_active_of_ended (Tombstone.mark_eq_ended.2 ⟨hj, hstatus, rfl, rfl⟩)
    (ReasmSlot.job_eq_some.2 ⟨hi, rfl⟩)

/-- Two tombstones that clash are one. -/
theorem Accounted.tomb_unique (h : Accounted eng) {j j' : Fin tombstoneSlots}
    (hj : (eng.tombs j).inUse = true) (hj' : (eng.tombs j').inUse = true)
    (hc : Clash (eng.tombs j).identity (eng.tombs j').identity) : j = j' :=
  h.markUnique j j' _ _ (Tombstone.mark_id? hj) (Tombstone.mark_id? hj') hc

section Lookups

variable {j : Fin tombstoneSlots} (h : Accounted eng) (hj : (eng.tombs j).inUse = true)

include h hj

/-- The first tombstone of a handle is the only one. -/
theorem Accounted.tombFindHandle_eq :
    tombFindHandle eng (eng.tombs j).e2eContextId (eng.tombs j).transferHandle = some j := by
  cases hfind : tombFindHandle eng (eng.tombs j).e2eContextId (eng.tombs j).transferHandle with
  | none => exact absurd ⟨rfl, rfl⟩ (scan_none hfind j hj)
  | some j' =>
    obtain ⟨hj', hctx, hhandle⟩ := scan_some hfind
    rw [h.tomb_unique hj' hj ⟨hctx, .inl hhandle⟩]

/-- So is the first tombstone of a transfer identifier. -/
theorem Accounted.tombFindTid_eq :
    tombFindTid eng (eng.tombs j).e2eContextId (eng.tombs j).transferId = some j := by
  cases hfind : tombFindTid eng (eng.tombs j).e2eContextId (eng.tombs j).transferId with
  | none => exact absurd ⟨rfl, rfl⟩ (scan_none hfind j hj)
  | some j' =>
    obtain ⟨hj', hctx, htid⟩ := scan_some hfind
    rw [h.tomb_unique hj' hj ⟨hctx, .inr htid⟩]

variable (hstatus : (eng.tombs j).status ≠ reservationMarker)

include hstatus

theorem Accounted.reasmFindHandle_eq_none :
    reasmFindHandle eng (eng.tombs j).e2eContextId (eng.tombs j).transferHandle = none := by
  cases hfind : reasmFindHandle eng (eng.tombs j).e2eContextId (eng.tombs j).transferHandle with
  | none => rfl
  | some i =>
    obtain ⟨hi, hctx, hhandle⟩ := scan_some hfind
    exact absurd ⟨hctx, .inl hhandle⟩ (h.no_slot_of_terminal hj hstatus hi)

theorem Accounted.reasmFindTid_eq_none :
    reasmFindTid eng (eng.tombs j).e2eContextId (eng.tombs j).transferId = none := by
  cases hfind : reasmFindTid eng (eng.tombs j).e2eContextId (eng.tombs j).transferId with
  | none => rfl
  | some i =>
    obtain ⟨hi, hctx, htid⟩ := scan_some hfind
    exact absurd ⟨hctx, .inr htid⟩ (h.no_slot_of_terminal hj hstatus hi)

/-- A START again, after its transfer ended. -/
theorem Accounted.start_retry {provider : Provider} {body : StartBody} {firstChunk : List UInt8}
    (hctx : contextOk (eng.tombs j).e2eContextId = true)
    (hhandle : handleOk body.transferHandle = true)
    (hplan : planValidate body.totalLen (firstChunk.length % 65536) body.fragCount
      body.continuationUnit = .ok)
    (hsame : body.transferHandle = (eng.tombs j).transferHandle)
    (htid : body.transferId = (eng.tombs j).transferId)
    (hfp : startFingerprint provider body firstChunk = .ok (eng.tombs j).fingerprint) :
    reasmAdmitStart eng provider (eng.tombs j).e2eContextId body firstChunk =
      (.exactRetry, eng, some (tombIntent (eng.tombs j))) := by
  unfold reasmAdmitStart
  rw [if_neg (by simp [hctx])]
  dsimp only
  rw [hplan, if_neg (by simp), if_neg (by simp [hhandle]), hfp]
  dsimp only
  rw [hsame, htid, h.reasmFindHandle_eq_none hj hstatus, h.reasmFindTid_eq_none hj hstatus,
    h.tombFindHandle_eq hj, h.tombFindTid_eq hj]
  simp

/-- A CONT again, after its transfer ended. -/
theorem Accounted.cont_retry {provider : Provider} {body : ContBody} {chunk : List UInt8}
    (hctx : contextOk (eng.tombs j).e2eContextId = true)
    (hhandle : handleOk body.transferHandle = true) (hpos : 1 ≤ chunk.length)
    (hmax : chunk.length ≤ cMax) (hsame : body.transferHandle = (eng.tombs j).transferHandle) :
    reasmAdmitCont eng provider (eng.tombs j).e2eContextId body chunk =
      (.exactRetry, eng, some (tombIntent (eng.tombs j))) := by
  unfold reasmAdmitCont
  rw [if_neg (by simp [hctx, hhandle]), if_neg (by omega), hsame,
    h.reasmFindHandle_eq_none hj hstatus, h.tombFindHandle_eq hj]
  dsimp only
  rw [if_pos hstatus]

end Lookups

/-- **Accounts that agree make the tombstones safe.** -/
theorem Accounted.tombSafe (h : Accounted eng) : TombSafe eng where
  handleUnique := fun _ _ hj hj' hctx hh => h.tomb_unique hj hj' ⟨hctx, .inl hh⟩
  tidUnique := fun _ _ hj hj' hctx ht => h.tomb_unique hj hj' ⟨hctx, .inr ht⟩
  reservationOwned := by
    intro j hj hstatus
    have hmark : eng.marks j = .reserved (eng.tombs j).identity :=
      Tombstone.mark_eq_reserved.2 ⟨hj, hstatus, rfl⟩
    obtain ⟨i, hi, hunique⟩ := h.owner_unique Clash.refl hmark
    refine ⟨i, ReasmSlot.job_eq_some.1 hi, fun i' hi' => ?_⟩
    exact hunique i' (ReasmSlot.job_eq_some.2 hi')
  slotBacked := by
    intro i hi
    have hjob : eng.active i = some (eng.reasm i).identity := ReasmSlot.job_eq_some.2 ⟨hi, rfl⟩
    obtain ⟨j, hj, hunique⟩ := h.reserved_unique Clash.refl hjob
    refine ⟨j, Tombstone.mark_eq_reserved.1 hj, fun j' hj' => ?_⟩
    exact hunique j' (Tombstone.mark_eq_reserved.2 hj')
  startRetry := fun _ _ _ _ hj hs hctx hh hplan hsame htid hfp =>
    h.start_retry hj hs hctx hh hplan hsame htid hfp
  contRetry := fun _ _ _ _ hj hs hctx hh hpos hmax hsame =>
    h.cont_retry hj hs hctx hh hpos hmax hsame

/-! ### One call -/

/-- A call other than a tick opens and ends transfers. -/
theorem CoreOp.evolves (h : Accounted eng) {op : CoreOp} (htick : ∀ now, op ≠ .tick now)
    (hop : ¬ op.CompletesAt eng) : Evolves eng (op.apply eng) := by
  cases op with
  | start provider ctx body firstChunk => exact reasmAdmitStart_evolves ..
  | cont provider ctx body chunk => exact reasmAdmitCont_evolves h fun i hi => hop ⟨i, hi⟩
  | tick now => exact absurd rfl (htick now)
  | setNow now => exact evolves_same rfl rfl
  | takePublication outCapacity => exact takePublication_evolves eng outCapacity

/-- The engine between the two loops of a tick. -/
theorem Accounted.expireTombs (h : Accounted eng) (now : UInt64) :
    Accounted (expireTombs (eng.setNow now) now) := by
  have hnow : Accounted (eng.setNow now) := h
  exact hnow.expires (expireTombs_expires _ now)

theorem Evolves.keeps (hev : Evolves eng eng') :
    (∀ j, (eng.tombs j).inUse = true → (eng.tombs j).status ≠ reservationMarker →
      (eng'.tombs j).mark = (eng.tombs j).mark) ∧
    ∀ i, (eng.reasm i).inUse = true →
      (eng'.reasm i).inUse = true ∧ (eng'.reasm i).identity = (eng.reasm i).identity ∨
        ∃ j, (eng'.tombs j).inUse = true ∧ (eng'.tombs j).status ≠ reservationMarker ∧
          (eng'.tombs j).identity = (eng.reasm i).identity := by
  constructor
  · intro j hj hstatus
    have hmark : eng.marks j = .ended (eng.tombs j).identity
        ((eng.tombs j).status, (eng.tombs j).reason, (eng.tombs j).expiryMono) :=
      Tombstone.mark_eq_ended.2 ⟨hj, hstatus, rfl, rfl⟩
    exact (changes_ended hev hmark).trans hmark.symm
  · intro i hi
    have hjob : eng.active i = some (eng.reasm i).identity := ReasmSlot.job_eq_some.2 ⟨hi, rfl⟩
    rcases changes_active hev hjob with hstay | ⟨j, r, hend⟩
    · exact .inl (ReasmSlot.job_eq_some.1 hstay)
    · obtain ⟨hj, hstatus, hid, -⟩ := Tombstone.mark_eq_ended.1 hend
      exact .inr ⟨j, hj, hstatus, hid⟩

/-- What one call that completes nothing does. -/
theorem CoreOp.step (h : Accounted eng) {op : CoreOp} (hop : ¬ op.CompletesAt eng) :
    Accounted (op.apply eng) ∧ KeepsTombs eng op := by
  by_cases htick : ∃ now, op = .tick now
  · obtain ⟨now, rfl⟩ := htick
    have hmid := h.expireTombs now
    have hev : Evolves (R7Frag.expireTombs (eng.setNow now) now)
        (CoreOp.apply eng (.tick now)) := timeoutSlots_evolves now _ hmid
    obtain ⟨hstays, hleaves⟩ := hev.keeps
    refine ⟨hmid.changes Clash.refl hev, ?_, hleaves⟩
    intro j hj hstatus
    by_cases hexp : (eng.tombs j).expiryMono ≤ now
    · exact .inr ⟨now, rfl, hexp⟩
    · have hsame : (R7Frag.expireTombs (eng.setNow now) now).tombs j = eng.tombs j :=
        if_neg fun hdue => hexp hdue.2.2.2
      have hmark := hstays j (by rwa [hsame]) (by rwa [hsame])
      rw [hsame] at hmark
      exact .inl hmark
  · have hev := CoreOp.evolves h (fun now hnow => htick ⟨now, hnow⟩) hop
    obtain ⟨hstays, hleaves⟩ := hev.keeps
    exact ⟨h.changes Clash.refl hev, fun j hj hstatus => .inl (hstays j hj hstatus), hleaves⟩

/-- A completing CONT breaks the safety of the tombstones. -/
theorem CoreOp.not_tombSafe (h : Accounted eng) {op : CoreOp} (hop : op.CompletesAt eng) :
    ¬ TombSafe (op.apply eng) := by
  intro hsafe
  cases op with
  | cont provider ctx body chunk =>
    obtain ⟨i, hi⟩ := hop
    obtain ⟨j, j', hne, hboth⟩ := completion_leaks_reservation h hi
    obtain ⟨hj, hjid⟩ := hboth j (by simp)
    obtain ⟨hj', hjid'⟩ := hboth j' (by simp)
    have hid := hjid.trans hjid'.symm
    exact hne (hsafe.handleUnique j j' hj hj' (congrArg Identity.e2eContextId hid)
      (congrArg Identity.transferHandle hid))
  | _ => exact hop

/-! ### Runs -/

theorem accounted_init : Accounted (Engine.init P) := by
  have hactive : (Engine.init P).active = fun _ => none := rfl
  have hmarks : (Engine.init P).marks = fun _ => .free := rfl
  rw [Accounted, hactive, hmarks]
  exact balanced_empty

/-- The accounts agree in every run without a completing CONT. -/
theorem CoreRun.accounted (hrun : CoreRun (fun e op => ¬ CoreOp.CompletesAt e op) eng) :
    Accounted eng := by
  induction hrun with
  | refl => exact accounted_init
  | tail _ hstep ih =>
    obtain ⟨op, hop, rfl⟩ := hstep
    exact (CoreOp.step ih hop).1

/-- **Tombstone accounting.**  In every run without a completing CONT the tombstones are safe and
every further call that completes nothing keeps them; one that completes a transfer does not. -/
theorem tombstones_accounted (eng : Engine P)
    (hrun : CoreRun (fun e op => ¬ CoreOp.CompletesAt e op) eng) :
    TombSafe eng ∧
      ∀ op : CoreOp, (TombSafe (op.apply eng) ↔ ¬ op.CompletesAt eng) ∧
        (¬ op.CompletesAt eng → KeepsTombs eng op) := by
  have hacc := hrun.accounted
  refine ⟨hacc.tombSafe, fun op => ⟨⟨fun hsafe hop => ?_, fun hop => ?_⟩, fun hop => ?_⟩⟩
  · exact CoreOp.not_tombSafe hacc hop hsafe
  · exact (CoreOp.step hacc hop).1.tombSafe
  · exact (CoreOp.step hacc hop).2

/-! ### A transfer of two bytes -/

/-- The SHA-256 of `ab`. -/
def sampleContentDigest : Digest :=
  #v[0xfb, 0x8e, 0x20, 0xfc, 0x2e, 0x4c, 0x3f, 0x24, 0x8c, 0x60, 0xc3, 0x9b,
    0xd6, 0x52, 0xf3, 0xc1, 0x34, 0x72, 0x98, 0xbb, 0x97, 0x7b, 0x8b, 0x4d,
    0x59, 0x03, 0xb8, 0x50, 0x55, 0x62, 0x06, 0x03]

/-- A START for `ab` with one byte in front. -/
def sampleStart : StartBody := ⟨Vector.replicate 16 1, 7, 2, 2, 180, sampleContentDigest⟩

/-- The SHA-256 of that START. -/
def sampleFingerprint : Digest :=
  #v[0xa0, 0x47, 0x11, 0x4d, 0x22, 0x7f, 0x81, 0xd4, 0xe1, 0xaa, 0x3d, 0x0e,
    0xbe, 0x0a, 0xfc, 0xe0, 0x6f, 0xa8, 0x07, 0x27, 0x12, 0x0b, 0x9b, 0x20,
    0x69, 0x58, 0x8c, 0x53, 0x75, 0x34, 0x2a, 0x79]

/-- A hash that knows the content and the START, and fails on any other input. -/
def sampleProvider : Provider where
  valid := true
  sha256 := fun bytes =>
    if bytes = [97, 98] then .ok sampleContentDigest
    else if bytes = sampleStart.transferId.toList ++ storeU64Be 7 ++ encodeBE 4 2 ++ storeU16Be 2
        ++ storeU16Be 180 ++ sampleContentDigest.toList ++ [97] then .ok sampleFingerprint
    else .error .backendFailed

/-- The engine after the START. -/
def sampleStarted : Engine controllerProfile :=
  CoreOp.apply (.init controllerProfile) (.start sampleProvider 5 sampleStart [97])

/-- A START, and then a tick when its transfer has been idle for too long. -/
theorem tombstones_accounted_timeout :
    (((CoreOp.apply sampleStarted (.tick 20000)).tombs ⟨0, by decide⟩).inUse = true ∧
      ((CoreOp.apply sampleStarted (.tick 20000)).tombs ⟨0, by decide⟩).reason = reasonTimeout) ∧
    TombSafe (CoreOp.apply sampleStarted (.tick 20000)) := by
  have hrun : CoreRun (fun e op => ¬ CoreOp.CompletesAt e op)
      (CoreOp.apply sampleStarted (.tick 20000)) := by
    refine .tail (.tail .refl ⟨.start sampleProvider 5 sampleStart [97], ?_, rfl⟩)
      ⟨.tick 20000, ?_, rfl⟩
    · exact id
    · exact id
  exact ⟨by decide +kernel, (tombstones_accounted _ hrun).1⟩

/-- The payload of the sample transfer once its second byte is stored. -/
theorem take_sample_payload (rest : List UInt8) :
    (store (store (0 :: 0 :: rest) 0 [97]) 1 [98]).take 2 = [97, 98] := by
  refine List.ext_getElem? fun n => ?_
  rw [List.getElem?_take, getElem?_store, getElem?_store]
  rcases n with _ | _ | n
  · rfl
  · rfl
  · simp

set_option maxRecDepth 20000 in
/-- The second byte completes the sample transfer. -/
theorem sample_completes :
    Completes sampleStarted sampleProvider 5 ⟨7, 1⟩ [98] ⟨0, by decide⟩ where
  context := by decide
  handle := by decide
  active := by decide +kernel
  index := by decide +kernel
  inside := by decide +kernel
  length := by decide +kernel
  nonlast := by decide +kernel
  missing := by decide +kernel
  last := by decide +kernel
  digest := by
    have htotal : (sampleStarted.reasm ⟨0, by decide⟩).totalLen = 2 := by decide +kernel
    have hpayload : (sampleStarted.reasm ⟨0, by decide⟩).payload =
        store (List.replicate totalLenMax 0) 0 [97] := rfl
    have hzeros : List.replicate totalLenMax (0 : UInt8) = 0 :: 0 :: List.replicate 2046 0 := rfl
    have hfirst : (sampleStarted.reasm ⟨0, by decide⟩).firstChunkLen = 1 := by decide +kernel
    refine ⟨sampleContentDigest, ?_⟩
    rw [htotal, hpayload, hzeros, hfirst, contentDigest, if_neg (by decide), if_neg (by decide)]
    have hoffset : 1 + ((⟨7, 1⟩ : ContBody).fragIndex - 1) * contUnit = 1 := by decide
    rw [hoffset, take_sample_payload]
    rfl
  idle := by decide
  expiry := by decide
  room := by decide +kernel

/-- A START and the CONT that completes its transfer: two tombstones for one handle. -/
theorem completed_transfer_leaks : ¬ ∀ eng : Engine controllerProfile,
    CoreRun (fun _ _ => True) eng → TombSafe eng := by
  intro hall
  have hstarted : CoreRun (fun e op => ¬ CoreOp.CompletesAt e op) sampleStarted :=
    .tail .refl ⟨.start sampleProvider 5 sampleStart [97], id, rfl⟩
  have hsafe := hall (CoreOp.apply sampleStarted (.cont sampleProvider 5 ⟨7, 1⟩ [98]))
    (.tail (.tail .refl ⟨.start sampleProvider 5 sampleStart [97], trivial, rfl⟩)
      ⟨.cont sampleProvider 5 ⟨7, 1⟩ [98], trivial, rfl⟩)
  have hop : CoreOp.CompletesAt sampleStarted (.cont sampleProvider 5 ⟨7, 1⟩ [98]) :=
    ⟨_, sample_completes⟩
  exact CoreOp.not_tombSafe hstarted.accounted hop hsafe

end Ninlil.R7Frag
