import Ninlil.Lib.Guard
import Ninlil.Lib.Sha256
import Ninlil.Mfdt.FenceRuns

/-!
# Sender steps that fail

What a sender is left with when it refuses a transfer, or cannot send a frame.

* `StillOpens`: another transfer can be opened exactly as before;
* `open_rejected_iff`: after metadata that `encode_open` rejects, this holds exactly if they were
  refused before the slot was touched;
* `pump_failed_iff`: after a frame that could not be sent, the fence is down exactly if it was, and
  the frame was not the one of a chunk;
* `sender_failures`: both, with what holds in every run; `open_leaves_slot`, `chunk_leaves_fence`:
  a rejected OPEN, and a refused chunk.
-/

namespace Ninlil.Mfdt

open Bytes Outcomes
open Guard (Exits exits_ok exits_error)

section Open

variable {σ : Type} {sha256 : Hash} {st : Storage σ} {w : World σ} {transferId : Id}
  {content : List UInt8} {m : OpenMetadata}

/-- Another transfer can be opened exactly as before. -/
structure StillOpens (w w' : World σ) : Prop where
  activeCount : w'.eng.activeCount = w.eng.activeCount
  slot : w'.eng.x.busy = w.eng.x.busy
  rows : w'.store = w.store
  opens : ∀ transferId content m,
    openRefusal w'.eng transferId content m = openRefusal w.eng transferId content m

/-! ### What `encode_open` fails with -/

theorem geometry_exits {n : UInt32} : Exits (· ≠ Err.commitUnknown) (geometry n) := by
  unfold geometry
  refine Guard.Exits.ite (exits_error (by decide)) (Guard.Exits.ite exits_ok ?_)
  exact Guard.Exits.ite (exits_error (by decide)) (Guard.Exits.ite (exits_error (by decide))
    exits_ok)

theorem validateOpen_exits {body : List UInt8} {entries : Option (List UInt8)} {entryLen : UInt16}
    {content : Option (List UInt8)} {contentLen : UInt32} {requireManifest : Bool} :
    Exits (· ≠ Err.commitUnknown)
      (validateOpen sha256 body entries entryLen content contentLen requireManifest) := by
  unfold validateOpen
  refine Guard.Exits.ite (exits_error (by decide)) (Guard.Exits.ite (exits_error (by decide)) ?_)
  split
  · exact exits_error (by decide)
  refine Guard.Exits.ite (exits_error (by decide)) (Guard.Exits.ite (exits_error (by decide)) ?_)
  refine Guard.Exits.ite (exits_error (by decide)) (Guard.Exits.ite (exits_error (by decide)) ?_)
  exact Guard.Exits.ite (exits_error (by decide)) exits_ok

theorem encodeOpen_exits :
    Exits (· ≠ Err.commitUnknown) (encodeOpen sha256 transferId content m) := by
  unfold encodeOpen
  refine Guard.Exits.ite (exits_error (by decide)) ?_
  dsimp only
  split
  next e hgeo => exact exits_error (geometry_exits e hgeo)
  refine Guard.Exits.ite (exits_error (by decide)) ?_
  split
  next e hvalid => exact exits_error (validateOpen_exits e hvalid)
  next => exact exits_ok

/-! ### A rejected OPEN -/

/-- A call refused before the slot is touched changes nothing. -/
theorem senderOpen_refused {err : Err} (h : openRefusal w.eng transferId content m = some err) :
    (senderOpenWithMetadata sha256 st transferId content m).outcome w = (.error err, w) := by
  have hengine : (engine : Prog σ Engine).outcome w = (.ok w.eng, w) := rfl
  unfold senderOpenWithMetadata
  rw [outcome_bind_ok hengine, h]
  rfl

/-- The engine with another slot. -/
def World.withSlot (w : World σ) (x : Xfer) : World σ := { w with eng := { w.eng with x := x } }

/-- What is not refused has a geometry and finds the slot free. -/
theorem openRefusal_none {e : Engine} (h : openRefusal e transferId content m = none) :
    (∃ geo, geometry (UInt32.ofNat content.length) = .ok geo) ∧ e.x.busy = false := by
  unfold openRefusal at h
  split at h
  · cases h
  split at h
  · cases h
  split at h
  · cases h
  split at h
  · cases h
  next geo hgeo =>
    split at h
    · cases h
    split at h
    · cases h
    next hbusy => exact ⟨⟨geo, hgeo⟩, by simpa using hbusy⟩

/-- A call that is rejected later leaves the slot as it was prepared. -/
theorem senderOpen_rejected {err : Err} (h : openRefusal w.eng transferId content m = none)
    (hreject : encodeOpen sha256 transferId content m = .error err) :
    ∃ geo, (senderOpenWithMetadata sha256 st transferId content m).outcome w =
      (.error err,
        w.withSlot (Xfer.opening transferId content geo (openEntries sha256 content geo))) := by
  obtain ⟨⟨geo, hgeo⟩, -⟩ := openRefusal_none h
  have hengine : (engine : Prog σ Engine).outcome w = (.ok w.eng, w) := rfl
  have hset : ∀ x : Xfer, (setXfer fun _ => x : Prog σ PUnit).outcome w = (.ok ⟨⟩, w.withSlot x) :=
    fun _ => rfl
  refine ⟨geo, ?_⟩
  unfold senderOpenWithMetadata
  rw [outcome_bind_ok hengine, h]
  simp only [hgeo]
  rw [outcome_bind_ok (hset _), hreject]
  rfl

/-- **Rejected metadata.** Another transfer can be opened exactly as before if and only if the call
was refused before the slot was touched. -/
theorem open_rejected_iff {err : Err}
    (hreject : encodeOpen sha256 transferId content m = .error err) :
    (∀ e, ((senderOpenWithMetadata sha256 st transferId content m).outcome w).1 = .error e →
      e ≠ .commitUnknown →
      StillOpens w ((senderOpenWithMetadata sha256 st transferId content m).outcome w).2) ↔
    (openRefusal w.eng transferId content m).isSome := by
  cases h : openRefusal w.eng transferId content m with
  | some e =>
    rw [senderOpen_refused h]
    exact ⟨fun _ => rfl, fun _ _ _ _ => ⟨rfl, rfl, rfl, fun _ _ _ => rfl⟩⟩
  | none =>
    obtain ⟨geo, hout⟩ := @senderOpen_rejected _ _ st _ _ _ _ _ h hreject
    rw [hout]
    refine ⟨fun hall => ?_, nofun⟩
    have hslot := (hall err rfl (encodeOpen_exits err hreject)).slot
    have hfree := (openRefusal_none h).2
    exact absurd (hslot.trans hfree) nofun

end Open

section Send

variable {σ : Type} {sha256 : Hash} {st : Storage σ} {s s₁ s₂ : Pipe σ} {allowChunk : Bool}
  {answer : Answer.{0}} {r : Request} {err : Err}

/-- **A frame that could not be sent.** The fence is down after it if and only if it was down
before, and the frame was not the one of a chunk. -/
theorem pump_failed_iff (hready : (pumpRequest sha256 st allowChunk).outcome s = (.ok (some r), s₁))
    (hsend : (sendRequest r answer).outcome s₁ = (.error err, s₂)) :
    (pump sha256 st allowChunk answer).outcome s = (.error err, s₂) ∧
      (fence s₂.tx = false ↔ fence s.tx = false ∧ s.sendsChunk allowChunk = false) := by
  constructor
  · unfold pump
    rw [outcome_bind_ok hready]
    exact outcome_bind_error hsend
  · have hreq : s.Ready sha256 allowChunk r s₁ := pumpRequest_ends.ok hready
    obtain ⟨⟨htx, -⟩, -⟩ := sendRequest_ends.error hsend
    rw [htx]
    unfold Pipe.Ready at hreq
    split_ifs at hreq with hsends
    · obtain ⟨⟨-, hup⟩, -⟩ := hreq
      rw [hup, hsends]
      simp
    · rw [hreq.1]
      simp [hsends]

end Send

/-- **Sender steps that fail.** After metadata that `encode_open` rejects, another transfer can be
opened as before exactly if the call was refused before the slot was touched; after a frame that
could not be sent, the fence is down exactly if it was down before and the frame was not the one of
a chunk; and in every run in which no chunk's frame is refused, a pipeline in SEND_CHUNKS has no
unpaid chunk. -/
theorem sender_failures {σ : Type} (sha256 : Hash) (st : Storage σ) :
    (∀ (w : World σ) (transferId : Id) (content : List UInt8) (m : OpenMetadata) (err : Err),
      encodeOpen sha256 transferId content m = .error err →
      ((∀ e, ((senderOpenWithMetadata sha256 st transferId content m).outcome w).1 = .error e →
          e ≠ .commitUnknown →
          StillOpens w ((senderOpenWithMetadata sha256 st transferId content m).outcome w).2) ↔
        (openRefusal w.eng transferId content m).isSome)) ∧
    (∀ (s s₁ s₂ : Pipe σ) (allowChunk : Bool) (answer : Answer.{0}) (r : Request) (err : Err),
      (pumpRequest sha256 st allowChunk).outcome s = (.ok (some r), s₁) →
      (sendRequest r answer).outcome s₁ = (.error err, s₂) →
      (pump sha256 st allowChunk answer).outcome s = (.error err, s₂) ∧
        (fence s₂.tx = false ↔ fence s.tx = false ∧ s.sendsChunk allowChunk = false)) ∧
    ∀ s : Pipe σ, Reached sha256 st s → s.p.phase = .sendChunks → fence s.tx = false :=
  ⟨fun _ _ _ _ _ hreject => open_rejected_iff hreject,
    fun _ _ _ _ _ _ _ hready hsend => pump_failed_iff hready hsend,
    fun _ hs hphase => (fenceKept_of_reached hs).down (by rw [hphase]; rfl)⟩

/-! ### A rejected transfer that keeps the slot -/

/-- A field that no later store touches is read back. -/
theorem slice_fill {n : ℕ} {before after : List Put} {put : Put}
    (hafter : ∀ v ∈ after, Apart (put.1, put.2.length) (span v)) (hin : put.1 + put.2.length ≤ n) :
    slice (fill n (before ++ put :: after)) put.1 put.2.length = put.2 := by
  have hlen : (fill n before).length = n := length_fill
  have hsplit : fill n (before ++ put :: after)
      = putAll (store (fill n before) put.1 put.2) after := by
    simp only [fill, putAll, List.foldl_append, List.foldl_cons]
  rw [hsplit, slice_putAll hafter]
  exact slice_store_self rfl (by rw [hlen]; exact hin)

/-- An OPEN without an attempt is rejected, whatever the hash. -/
theorem encodeOpen_of_attempt_zero {sha256 : Hash} {transferId : Id} {content : List UInt8}
    {m : OpenMetadata} {geo : Geometry} (htexts : metadataOk m = true)
    (hgeo : geometry (UInt32.ofNat content.length) = .ok geo) (hid : isZero transferId = false)
    (hattempt : m.originalAttemptId = zeroId) :
    encodeOpen sha256 transferId content m = .error .layout := by
  have htexts' : (textIdOk m.namespaceBytes true && textIdOk m.serviceBytes false &&
      textIdOk m.schemaBytes false) = true := by
    simp only [metadataOk, Bool.and_eq_true] at htexts
    simp only [Bool.and_eq_true]
    exact ⟨⟨htexts.1.1.1.2, htexts.1.1.2⟩, htexts.1.2⟩
  have hslice : ∀ (n : ℕ) (manifest : List UInt8), manifest.length = 32 → 462 ≤ n →
      bytesZero (slice (store (fill n (openPuts transferId (UInt32.ofNat content.length) geo
        (sha256 content) m)) 202 manifest) 234 16) = true := by
    intro n manifest hmanifest hn
    let puts := openPuts transferId (UInt32.ofNat content.length) geo (sha256 content) m
    have hputs : puts = puts.take 21 ++ putVector 234 m.originalAttemptId :: puts.drop 22 := rfl
    have hstart : ∀ v ∈ puts.drop 22, 250 ≤ v.1 := by
      simp only [puts, openPuts, List.drop_succ_cons, List.drop_zero, List.forall_mem_cons,
        putU16Be, putU32Be, putU64Be, putVector]
      simp [Nat.add_assoc]
      omega
    have hafter : ∀ v ∈ puts.drop 22, Apart (234, 16) (span v) := fun v hv => .inl (hstart v hv)
    have hspan : (putVector 234 m.originalAttemptId).2.length = 16 := Vector.length_toList
    have hin : 234 + 16 ≤ n := Nat.le_trans (by decide) hn
    have hread : slice (fill n puts) 234 16 = m.originalAttemptId.toList := by
      have hslice := @slice_fill n (puts.take 21) (puts.drop 22) (putVector 234 m.originalAttemptId)
        (by rwa [hspan]) (by rwa [hspan])
      rwa [← hputs, hspan] at hslice
    rw [slice_store_of_disjoint (.inr (by rw [hmanifest]))]
    change bytesZero (slice (fill n puts) 234 16) = true
    rw [hread, hattempt]
    rfl
  unfold encodeOpen
  rw [htexts']
  simp only [Bool.not_true, Bool.false_eq_true, if_false, hgeo]
  rw [if_neg (by simpa [isZero] using hid)]
  have hfields : ∀ (n : ℕ) (manifest : Digest) (contentLen : UInt32), 462 ≤ n →
      openFieldsOk (store (fill n (openPuts transferId (UInt32.ofNat content.length) geo
        (sha256 content) m)) 202 manifest.toList) contentLen = false := by
    intro n manifest contentLen hn
    unfold openFieldsOk
    simp only [hslice n manifest.toList Vector.length_toList hn, Bool.not_true, Bool.and_false,
      Bool.false_and]
  unfold validateOpen
  simp only [hfields _ _ _ (Nat.le_add_right 462 _), openTextOffset, Bool.not_false,
    if_true, ite_self]

/-- The hash of the standard. -/
def standardHash : Hash := fun message => getVector 32 (Sha256.hash message) 0

/-- A store without a port that takes everything and keeps nothing. -/
def noStore : Storage Unit where
  port := false
  full _ _ _ s := (.ok ⟨⟩, s)
  has _ s := (.error .storage, s)
  get _ _ s := (.error .storage, s)

def firstId : Id := zeroId.set 0 1 (Nat.zero_lt_succ _)

/-- An engine that may open a transfer. -/
def freeEngine : World Unit where
  eng := { cfg := ⟨true, 2, false, 1, 1, 0, firstId⟩ }
  store := ()

/-- The metadata of `sender_open`, of another service and without an attempt. -/
def noAttempt : OpenMetadata :=
  { defaultMetadata standardHash with
    serviceDescriptorDigest := zeroDigest.set 0 1
    originalAttemptId := zeroId }

/-- **A rejected OPEN keeps the slot**: metadata without an attempt pass the checks before the slot
is prepared, and are rejected after it. -/
theorem open_leaves_slot : ¬ ∀ (w : World Unit) (transferId : Id) (content : List UInt8)
    (m : OpenMetadata) (err : Err), encodeOpen standardHash transferId content m = .error err →
      ∀ e, ((senderOpenWithMetadata standardHash noStore transferId content m).outcome w).1
          = .error e → e ≠ .commitUnknown →
        StillOpens w
          ((senderOpenWithMetadata standardHash noStore transferId content m).outcome w).2 := by
  intro hall
  have hid : isZero firstId = false := by decide
  have htexts : metadataOk noAttempt = true := by decide
  have hreject : encodeOpen standardHash firstId [] noAttempt = .error .layout :=
    encodeOpen_of_attempt_zero htexts rfl hid rfl
  have hnone : openRefusal freeEngine.eng firstId [] noAttempt = none := by
    unfold openRefusal
    rw [hid, htexts]
    rfl
  have hopens := (open_rejected_iff hreject).1 (hall freeEngine _ _ _ _ hreject)
  rw [hnone] at hopens
  exact Bool.false_ne_true hopens

/-! ### A refused chunk that keeps the fence -/

/-- A pipeline that is to send the only chunk of its transfer. -/
def chunkPipe : Pipe Unit where
  p := { hasSendFn := true, sessionGeneration := 1, sessionCookie := 1, phase := .sendChunks,
         geo := ⟨1, 1, 1, 1⟩ }
  tx := { freeEngine with eng := { freeEngine.eng with x :=
    { occupied := true, role := 1, retryBudget := 1, chunkCount := 1, totalLength := 1,
      content := [7] } } }

/-- **A refused chunk keeps the fence up**, in SEND_CHUNKS. -/
theorem chunk_leaves_fence : ∃ s, (pump (fun _ => zeroDigest) noStore true
    (.error .storage : Answer.{0})).outcome chunkPipe = (.error .storage, s) ∧
    fence chunkPipe.tx = false ∧ s.p.phase = .sendChunks ∧ fence s.tx = true := by
  obtain ⟨r, s₁, hready, s₂, hsend, hphase⟩ : ∃ r s₁, (pumpRequest (fun _ => zeroDigest) noStore
      true).outcome chunkPipe = (.ok (some r), s₁) ∧ ∃ s₂, (sendRequest r
        (.error .storage)).outcome s₁ = (.error .storage, s₂) ∧ s₂.p.phase = .sendChunks :=
    ⟨_, _, rfl, _, rfl, rfl⟩
  obtain ⟨hpump, hfence⟩ := pump_failed_iff hready hsend
  exact ⟨s₂, hpump, rfl, hphase, Bool.eq_true_of_not_eq_false fun hdown =>
    absurd (hfence.1 hdown).2 (by decide)⟩

end Ninlil.Mfdt
