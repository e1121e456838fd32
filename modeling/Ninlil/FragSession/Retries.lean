import Ninlil.FragSession.Runs
import Ninlil.FragState.AnyOrder

/-!
# Retries of a transfer that ended

A sender that missed the final acknowledgement repeats its fragments.  The engine answers each of
them with the terminal acknowledgement of the tombstone; the session passes the answer on for a
START and drops it for a CONT.

* `TakenIn`: the frame is authentic and both of its counters are fresh;
* `Retry`: what it carries is a fragment of the transfer of a tombstone;
* `admitStart_exactRetry`: the answer of the engine;
* `terminal_retries`: the acknowledgement comes back exactly for a START on an engine that is not
  fenced;
* `cont_retry_dropped`: a CONT that is not answered.
-/

namespace Ninlil.FragSession

open R7Frag hiding Tombstone
open FragState (Tombstone Accounted tombIntent)

variable {P : Profile} {env : Env} {s : Sess P} {frame : List UInt8} {cap : Option ℕ} {d : Storage}
  {T : Tombstone} {j : Fin tombstoneSlots}

/-! ### Retries -/

/-- The frame is authentic, its counters are fresh, and the lanes take them. -/
structure TakenIn (env : Env) (s : Sess P) (frame : List UInt8) (d : Storage) (f : OuterDataFields)
    (blob : List UInt8) (s' : Sess P) (hdr : E2eFields) (i : ℕ) (Le : Lane) : Prop where
  reaches : Reaches env s frame d f blob s' hdr i Le
  fresh : laneRxPrecheck Le hdr.e2eCounter = .ok
  taken : (laneRxAdmit Le d.e2e hdr.e2eCounter).1 = .ok

/-- A message carries a fragment of the transfer that ended in `T`: its START, with the fingerprint
of `T`, or a CONT whose index is in range. -/
inductive Retry (env : Env) (blob : List UInt8) (hdr : E2eFields) (T : Tombstone) : Prop
  | start (ef : E2eFields) (body : StartBody) (first : List UInt8)
      (htype : hdr.e2eType = e2eTypeStart)
      (hopen : openE2eStart env.provider env.keys.e2eKey env.keys.e2eIv blob =
        .ok (ef, body, first))
      (hctx : hdr.e2eContextId = T.e2eContextId) (hhandle : body.transferHandle = T.transferHandle)
      (htid : body.transferId = T.transferId)
      (hfp : startFingerprint env.provider.toProvider body first = .ok T.fingerprint)
  | cont (ef : E2eFields) (body : ContBody) (chunk : List UInt8)
      (htype : hdr.e2eType = e2eTypeCont)
      (hopen : openE2eCont env.provider env.keys.e2eKey env.keys.e2eIv blob =
        .ok (ef, body, chunk))
      (hctx : hdr.e2eContextId = T.e2eContextId) (hhandle : body.transferHandle = T.transferHandle)
      (hpos : 1 ≤ body.fragIndex) (hlt : body.fragIndex < T.fragCount)

/-! ### The answers of the engine -/

theorem tombIntent_ne_zero (T : Tombstone) : tombIntent T ≠ .zero :=
  fun h => Bool.noConfusion (congrArg FragState.AckIntent.valid h)

/-- The engine answers a START of a transfer that ended with its terminal acknowledgement. -/
theorem admitStart_exactRetry {eng : FragState.Engine P} (h : Accounted eng)
    (hj : eng.tombs j = some T) (hterm : T.isReservation = false) {inp : FragState.StartIn}
    (hopen : eng.fenced = false) (hctxOk : contextOk inp.e2eContextId = true)
    (hgen : inp.keyGeneration ≠ 0) (hhandleOk : handleOk inp.transferHandle = true)
    (hplan : FragState.planValidate inp.totalLen inp.firstChunk.length inp.fragCount
      inp.continuationUnit = .ok)
    (hctx : inp.e2eContextId = T.e2eContextId) (hhandle : inp.transferHandle = T.transferHandle)
    (htid : inp.transferId = T.transferId) (hfp : T.fingerprint = inp.fingerprint) :
    FragState.admitStart eng inp = (.exactRetry, eng, tombIntent T) := by
  have hanswer : FragState.tombAnswer (some (j, T)) (some (j, T)) inp =
      some (.exactRetry, tombIntent T) := by
    simp [FragState.tombAnswer, hterm, hfp]
  unfold FragState.admitStart
  rw [if_neg (by simp [hopen]), if_neg (by simp [hctxOk, hgen, hhandleOk])]
  dsimp only
  rw [hplan, if_neg (by simp), hctx, hhandle, htid, h.findReasmHandle_eq_none hj hterm,
    h.findReasmTid_eq_none hj hterm, h.findTombHandle_eq hj, h.findTombTid_eq hj, hanswer]
  rfl

/-- The statuses with which the session keeps the acknowledgement of a CONT. -/
def Kept (st : FragState.Status) : Prop := st = .ok ∨ st = .duplicate ∨ st = .needDigest

/-- The engine answers no CONT of a transfer that ended with a status that the session keeps. -/
theorem admitCont_not_kept {eng : FragState.Engine P} (h : Accounted eng)
    (hj : eng.tombs j = some T) (hterm : T.isReservation = false) {inp : FragState.ContIn}
    (hctx : inp.e2eContextId = T.e2eContextId) (hhandle : inp.transferHandle = T.transferHandle) :
    ¬ Kept (FragState.admitCont eng inp).1 := by
  unfold FragState.admitCont Kept
  rw [hctx, hhandle, h.findReasmHandle_eq_none hj hterm, h.findTombHandle_eq hj]
  split_ifs
  · simp
  · simp
  · dsimp only
    split_ifs
    all_goals simp

/-- The two validators of a plan accept the same. -/
theorem planValidate_agree {totalLen firstChunkLen fragCount continuationUnit : ℕ}
    (h : planValidate totalLen firstChunkLen fragCount continuationUnit = .ok) :
    FragState.planValidate totalLen firstChunkLen fragCount continuationUnit = .ok := by
  unfold planValidate at h
  unfold FragState.planValidate
  split_ifs at h ⊢
  rfl

/-! ### The answers of the session -/

/-- The acknowledgement that a START brings back. -/
theorem rxStart_intent {f : OuterDataFields} {blob : List UInt8} {i : ℕ} {Le : Lane}
    {ef : E2eFields} {body : StartBody} {first : List UInt8} {fp : Digest}
    (hopen : openE2eStart env.provider env.keys.e2eKey env.keys.e2eIv blob = .ok (ef, body, first))
    (htaken : (laneRxAdmit Le d.e2e ef.e2eCounter).1 = .ok)
    (hfp : startFingerprint env.provider.toProvider body first = .ok fp) {st : FragState.Status}
    {eng : FragState.Engine P} {intent : FragState.AckIntent}
    (hres : FragState.admitStart s.reasm (startIn ef.e2eContextId s.keyGeneration body first fp) =
      (st, eng, intent)) :
    (rxStart env s f i Le blob cap d).intent =
      if st = .ok ∨ st = .exactRetry then intent else .zero := by
  unfold rxStart
  rw [hopen]
  dsimp only
  rcases hadm : laneRxAdmit Le d.e2e ef.e2eCounter with ⟨st', L'⟩
  rw [hadm] at htaken
  obtain rfl : st' = .ok := htaken
  dsimp only
  rw [hfp]
  have hres' : FragState.admitStart (s.setLane i L').reasm
      (startIn ef.e2eContextId (s.setLane i L').keyGeneration body first fp) =
        (st, eng, intent) := hres
  dsimp only
  rw [hres']
  cases st
  all_goals rfl

/-- A CONT whose status is not kept brings nothing back. -/
theorem rxCont_intent {f : OuterDataFields} {blob : List UInt8} {i : ℕ} {Le : Lane}
    {ef : E2eFields} {body : ContBody} {chunk : List UInt8}
    (hopen : openE2eCont env.provider env.keys.e2eKey env.keys.e2eIv blob = .ok (ef, body, chunk))
    (hnot : ¬ Kept (FragState.admitCont s.reasm
      (contIn ef.e2eContextId s.keyGeneration body chunk)).1) :
    (rxCont env s f i Le blob cap d).intent = .zero := by
  unfold rxCont
  rw [hopen]
  dsimp only
  rcases laneRxAdmit Le d.e2e ef.e2eCounter with ⟨st', L'⟩
  cases st'
  case ok =>
    have hnot' : ¬ Kept (FragState.admitCont (s.setLane i L').reasm
      (contIn ef.e2eContextId (s.setLane i L').keyGeneration body chunk)).1 := hnot
    dsimp only
    split_ifs with hnone hkept
    · rfl
    · exact absurd hkept hnot'
    · rfl
  all_goals rfl

/-- **The terminal acknowledgement of a transfer comes back** for a fragment of it exactly when the
fragment is the START and the engine is not fenced: the answer to a CONT is dropped. -/
theorem terminal_retries {l : Ledger P} (hrun : AnyRun env s l) (hj : s.reasm.tombs j = some T)
    (hterm : T.isReservation = false) {f : OuterDataFields} {blob : List UInt8} {s' : Sess P}
    {hdr : E2eFields} {i : ℕ} {Le : Lane} (htaken : TakenIn env s frame d f blob s' hdr i Le)
    (hretry : Retry env blob hdr T) :
    (rxData env s frame cap d).intent = tombIntent T ↔
      hdr.e2eType = e2eTypeStart ∧ s.reasm.fenced = false := by
  have hsound := hrun.sound
  have hhop := rxHop_ok htaken.reaches.hop
  have hheader := structuralE2eHeader_ok htaken.reaches.header
  have hacc : Accounted s'.reasm := hhop.reasm ▸ hsound.accounted
  have hj' : s'.reasm.tombs j = some T := by rw [hhop.reasm]; exact hj
  rw [htaken.reaches.rxData_fresh htaken.fresh]
  unfold rxFresh
  cases hretry with
  | start ef body first htype hopen hctx hhandle htid hfp =>
    obtain ⟨hef, -, hctxOk, hhandleOk, hplan⟩ := openE2eStart_ok hopen
    have hcounter : ef.e2eCounter = hdr.e2eCounter := by rw [hef, hheader]
    have hctx' : ef.e2eContextId = T.e2eContextId := by rw [← hctx, hef, hheader]
    rw [if_pos htype]
    rcases hres : FragState.admitStart s'.reasm
      (startIn ef.e2eContextId s'.keyGeneration body first T.fingerprint) with ⟨st, eng, intent⟩
    rw [rxStart_intent hopen (hcounter ▸ htaken.taken) hfp hres]
    cases hfenced : s.reasm.fenced with
    | true =>
      have hfenced' : s'.reasm.fenced = true := by rw [hhop.reasm]; exact hfenced
      have hst : st = .fenced := by
        have hstatus := congrArg Prod.fst hres
        unfold FragState.admitStart at hstatus
        rw [if_pos hfenced'] at hstatus
        exact hstatus.symm
      rw [if_neg (by simp [hst])]
      simp [(tombIntent_ne_zero T).symm]
    | false =>
      have hopen' : s'.reasm.fenced = false := by rw [hhop.reasm]; exact hfenced
      have hgen : s'.keyGeneration ≠ 0 := by
        rw [hhop.keyGeneration]
        refine hsound.generation fun hnil => ?_
        have hlanes := hhop.lanes
        rw [hnil] at hlanes
        have hi := (laneFind_eq_some htaken.reaches.lane).1
        rw [List.forall₂_nil_left_iff.1 hlanes] at hi
        cases hi
      rw [admitStart_exactRetry hacc hj' hterm hopen' hctxOk hgen hhandleOk
        (planValidate_agree hplan) hctx' hhandle htid rfl] at hres
      cases hres
      simp [htype]
  | cont ef body chunk htype hopen hctx hhandle hpos hlt =>
    obtain ⟨hef, -, -, -⟩ := openE2eCont_ok hopen
    have hctx' : ef.e2eContextId = T.e2eContextId := by rw [← hctx, hef, hheader]
    have hnot : ¬ hdr.e2eType = e2eTypeStart := by
      rw [htype]
      decide
    rw [if_neg hnot, if_pos htype, rxCont_intent hopen (admitCont_not_kept hacc hj' hterm hctx'
      hhandle)]
    simp [(tombIntent_ne_zero T).symm, hnot]

/-! ### A CONT that is not answered -/

/-- A provider for examples: a tag is sixteen zeros, and a digest is the first bytes. -/
def sampleProvider : Provider where
  valid := true
  sha256 := fun bs => .ok (.ofFn fun i => bs.getD i.val 0)
  aes128GcmOpen := fun _ _ _ sealed =>
    if sealed.drop (sealed.length - 16) = List.replicate 16 0 then
      .ok (sealed.take (sealed.length - 16))
    else .error .authFailed
  aes128GcmSeal := fun _ _ _ pt => .ok (pt ++ List.replicate 16 0)

def sampleEnv : Env where
  provider := sampleProvider
  keys := ⟨.replicate 16 1, .replicate 12 1, .replicate 16 2, .replicate 12 2, .replicate 16 3,
    .replicate 12 3⟩

/-- A sealed message with this counter in context 5. -/
def sampleBlob (type : UInt8) (counter : UInt64) (pt : List UInt8) : List UInt8 :=
  [profileId, type <<< 4] ++ storeU32Be 5 ++ storeU64Be counter ++ pt ++ List.replicate 16 0

/-- The outer frame around it with this counter in hop context 3. -/
def sampleFrame (counter : UInt64) (blob : List UInt8) : List UInt8 :=
  [profileId, outerKindData <<< 4, 0] ++ storeU32Be 3 ++ storeU64Be counter ++ [0, 0, 0, 0] ++ blob
    ++ List.replicate 16 0

/-- The START of a transfer of two bytes with handle 7. -/
def sampleStartPt : List UInt8 :=
  List.replicate 16 9 ++ storeU64Be 7 ++ storeU32Be 2 ++ [0, 2, 0, 180] ++ List.replicate 32 8
    ++ [97]

/-- Its CONT. -/
def sampleContPt : List UInt8 := storeU64Be 7 ++ [0, 1, 98]

/-- The calls of a receiver whose transfer times out. -/
def sampleCalls : List Call :=
  [.installLane laneHopData 3 1 .stored, .installLane laneE2e 5 1 .stored,
    .rxData (sampleFrame 1 (sampleBlob e2eTypeStart 1 sampleStartPt)) none .sound, .tick 20000]

/-- The session and its ledger after calls. -/
def after (env : Env) (calls : List Call) (s : Sess P) (l : Ledger P) : Sess P × Ledger P :=
  calls.foldl (fun r c => (c.apply env r.1, r.2.next env r.1 c)) (s, l)

theorem run_after {calls : List Call} {l : Ledger P} (h : AnyRun env s l)
    (hcalls : ∀ c ∈ calls, ∀ lanes tx, c ≠ .transmit lanes tx) :
    AnyRun env (after env calls s l).1 (after env calls s l).2 := by
  induction calls generalizing s l with
  | nil => exact h
  | cons c rest ih =>
    refine ih (.next c h ?_ trivial) fun c' hc' => hcalls c' (List.mem_cons_of_mem _ hc')
    cases c with
    | transmit lanes tx => exact absurd rfl (hcalls _ List.mem_cons_self lanes tx)
    | _ => exact trivial

theorem Run.after_one {ok : Sess P → Call → Prop} {l : Ledger P} (h : Run env ok s l) (c : Call)
    (hallowed : c.Allowed s) (hok : ok s c) :
    Run env ok (after env [c] s l).1 (after env [c] s l).2 := .next c h hallowed hok

/-- The session whose transfer has timed out. -/
def sampleEnded : Sess endpointProfile × Ledger endpointProfile :=
  after sampleEnv sampleCalls (.init _) (.init _)

theorem run_sampleEnded : AnyRun sampleEnv sampleEnded.1 sampleEnded.2 := by
  refine run_after .init fun c hc lanes tx => ?_
  rintro rfl
  simp [sampleCalls] at hc

/-- Its tombstone. -/
def sampleTomb : Tombstone :=
  ⟨false, 5, 1, .replicate 16 9, 7, 2, statusAbort, reasonTimeout,
    .ofFn fun i => (List.replicate 16 9 ++ storeU64Be 7 ++ storeU32Be 2 ++ [0, 2, 0, 180]).getD
      i.val 0, 110000⟩

/-- The lane of its messages when the first of them was taken. -/
def sampleLane : Lane := ⟨laneE2e, 5, 1, 1, 1, 0, 1, 1, 64, false⟩

theorem sampleEnded_tomb : sampleEnded.1.reasm.tombs ⟨0, by decide⟩ = some sampleTomb := by
  decide +kernel

/-- The body of its START. -/
def sampleBody : StartBody := ⟨.replicate 16 9, 7, 2, 2, 180, .replicate 32 8⟩

theorem openE2eStart_sample : openE2eStart sampleEnv.provider sampleEnv.keys.e2eKey
    sampleEnv.keys.e2eIv (sampleBlob e2eTypeStart 2 sampleStartPt) =
      .ok (⟨e2eTypeStart, 5, 2⟩, sampleBody, [97]) := rfl

theorem openE2eCont_sample : openE2eCont sampleEnv.provider sampleEnv.keys.e2eKey
    sampleEnv.keys.e2eIv (sampleBlob e2eTypeCont 2 sampleContPt) =
      .ok (⟨e2eTypeCont, 5, 2⟩, ⟨7, 1⟩, [98]) := rfl

/-- A later message of that transfer, which is taken. -/
theorem takenIn_sample (blob : List UInt8) (hdr : E2eFields)
    (hreached : reached sampleEnv sampleEnded.1 (sampleFrame 2 blob) .sound =
      some (hdr, blob, sampleLane))
    (hfresh : laneRxPrecheck sampleLane hdr.e2eCounter = .ok)
    (htaken : (laneRxAdmit sampleLane .stored hdr.e2eCounter).1 = .ok) :
    ∃ f s' i, TakenIn sampleEnv sampleEnded.1 (sampleFrame 2 blob) .sound f blob s' hdr i
      sampleLane := by
  obtain ⟨f, s', i, hreaches⟩ := reaches_of_reached hreached
  exact ⟨f, s', i, hreaches, hfresh, htaken⟩

/-- The second START brings the terminal acknowledgement back. -/
theorem terminal_retries_start : (rxData sampleEnv sampleEnded.1
    (sampleFrame 2 (sampleBlob e2eTypeStart 2 sampleStartPt)) none .sound).intent =
      tombIntent sampleTomb := by
  obtain ⟨f, s', i, htaken⟩ := takenIn_sample (sampleBlob e2eTypeStart 2 sampleStartPt)
    ⟨e2eTypeStart, 5, 2⟩ (by decide +kernel) (by decide +kernel) (by decide +kernel)
  have hfenced : sampleEnded.1.reasm.fenced = false := by decide +kernel
  exact (terminal_retries run_sampleEnded sampleEnded_tomb rfl htaken
    (.start _ sampleBody [97] rfl openE2eStart_sample rfl rfl rfl rfl)).2 ⟨rfl, hfenced⟩

/-- Its CONT, with fresh counters and the index in range, brings nothing back. -/
theorem cont_retry_dropped : ¬ ∀ (env : Env) (s : Sess endpointProfile)
    (l : Ledger endpointProfile), AnyRun env s l → ∀ (T : Tombstone) (j : Fin tombstoneSlots),
    s.reasm.tombs j = some T → T.isReservation = false → ∀ (frame : List UInt8) (cap : Option ℕ)
    (d : Storage) (f : OuterDataFields) (blob : List UInt8) (s' : Sess endpointProfile)
    (hdr : E2eFields) (i : ℕ) (Le : Lane), TakenIn env s frame d f blob s' hdr i Le →
    Retry env blob hdr T → (rxData env s frame cap d).intent = tombIntent T := by
  intro hall
  obtain ⟨f, s', i, htaken⟩ := takenIn_sample (sampleBlob e2eTypeCont 2 sampleContPt)
    ⟨e2eTypeCont, 5, 2⟩ (by decide +kernel) (by decide +kernel) (by decide +kernel)
  have hback := hall sampleEnv sampleEnded.1 sampleEnded.2 run_sampleEnded sampleTomb _
    sampleEnded_tomb rfl _ none .sound f _ s' _ i _ htaken
    (.cont _ ⟨7, 1⟩ [98] rfl openE2eCont_sample rfl rfl (by decide) (by decide))
  have hzero : (rxData sampleEnv sampleEnded.1
      (sampleFrame 2 (sampleBlob e2eTypeCont 2 sampleContPt)) none .sound).intent = .zero := by
    decide +kernel
  exact tombIntent_ne_zero sampleTomb (hback.symm.trans hzero)

end Ninlil.FragSession
