import Ninlil.Lib.Frames
import Ninlil.Mfdt.Pipeline

/-!
# The fence of a sender

A sender has offered at most one chunk whose answer has not come.

* `fence`: a chunk has been offered, and its answer has not come;
* `lowers_packActive` to `lowers_restartScan`: no call of the engine but the offer of a chunk
  raises the fence;
* `drops_senderOpenWithMetadata`, `drops_senderOnChunkAccept`, `drops_restartScanTransfer`: the
  calls that take it down;
* `senderOfferChunk_ends`: the offer of a chunk.
-/

namespace Ninlil.Mfdt

open Bytes Outcomes

/-! ### Only the offer of a chunk raises the fence -/

section Engine

variable {σ α : Type} {sha256 : Hash} {st : Storage σ} {w : World σ}

/-- The fence of a sender: its chunk offer has not been answered. -/
def fence (w : World σ) : Bool := w.eng.x.unpaidChunk

theorem lowers_engine {g : World σ → Bool} : Lowers g (engine : Prog σ Engine) :=
  fun _ => le_rfl

theorem lowers_storage {call : σ → Except Err α × σ} : Lowers fence (storage call) :=
  fun _ => le_rfl

theorem lowers_setEngine {k : Engine → Engine}
    (h : ∀ e, (k e).x.unpaidChunk ≤ e.x.unpaidChunk) :
    Lowers fence (setEngine k : Prog σ PUnit) := fun w => h w.eng

theorem lowers_setXfer {k : Xfer → Xfer} (h : ∀ x, (k x).unpaidChunk ≤ x.unpaidChunk) :
    Lowers fence (setXfer k : Prog σ PUnit) := fun w => h w.eng.x

theorem lowers_senderEngine : Lowers fence (senderEngine : Prog σ Engine) :=
  lowers_engine.bind fun _ => lowers_require.bind fun _ => lowers_pure

/-- The fence is neither raised nor lowered: `g` is any function of it. -/
theorem lowers_packActive_of (g : Bool → Bool) :
    Lowers (fun w : World σ => g (fence w)) packActive := by
  refine Lowers.bind ?_ fun _ => lowers_engine.bind fun e => ?_
  · refine lowers_engine.bind fun e => Lowers.ite ?_ lowers_require
    exact lowers_require.bind fun _ => fun _ => le_rfl
  · refine Lowers.bind (fun _ => le_rfl) fun _ => lowers_engine.bind fun _ => ?_
    exact lowers_require.bind fun _ => lowers_require.bind fun _ => lowers_pure

theorem lowers_packActive : Lowers fence (packActive : Prog σ (List UInt8)) :=
  lowers_packActive_of id

theorem lowers_fullPutActiveAndNrc1 {activeKey nrc1Key : Key} {active nrc1 : List UInt8} :
    Lowers fence (fullPutActiveAndNrc1 st activeKey active nrc1Key nrc1) := by
  refine lowers_engine.bind fun e => lowers_storage.bind fun _ => Lowers.ite ?_ lowers_pure
  exact lowers_setEngine fun _ => le_rfl

theorem lowers_projectActiveRecord {rec : List UInt8} :
    Lowers fence (projectActiveRecord sha256 st rec) := by
  refine lowers_engine.bind fun e => lowers_require.bind fun _ => lowers_require.bind fun _ => ?_
  exact lowers_setEngine fun _ => le_rfl

theorem lowers_loadActiveFromStore : Lowers fence (loadActiveFromStore sha256 st) := by
  refine lowers_engine.bind fun e => lowers_storage.bind fun rec => ?_
  refine Lowers.bind lowers_storage.mapFailure fun nrc1 => lowers_require.bind fun _ => ?_
  exact lowers_projectActiveRecord

theorem lowers_restoreActiveFromDurable :
    Lowers fence (restoreActiveFromDurable sha256 st) := by
  refine Lowers.bind (lowers_setEngine fun _ => Bool.false_le _) fun _ => ?_
  refine lowers_loadActiveFromStore.attempt.bind ?_
  rintro (e | _)
  · exact lowers_setEngine fun _ => Bool.false_le _
  · exact lowers_setEngine fun _ => le_rfl

theorem lowers_putActive : Lowers fence (putActive sha256 st) := by
  refine Lowers.onFailure ?_ fun _ => lowers_restoreActiveFromDurable
  exact lowers_packActive.bind fun _ => lowers_engine.bind fun _ => lowers_storage

theorem lowers_senderOnOpenAccept {body : List UInt8} :
    Lowers fence (senderOnOpenAccept sha256 st body) := by
  refine lowers_require.bind fun _ => lowers_senderEngine.bind fun e => ?_
  refine lowers_require.bind fun _ => lowers_require.bind fun _ => ?_
  exact Lowers.bind (lowers_setXfer fun _ => le_rfl) fun _ => lowers_putActive

theorem lowers_senderOnPageAccept {body : List UInt8} :
    Lowers fence (senderOnPageAccept sha256 st body) := by
  refine lowers_require.bind fun _ => lowers_senderEngine.bind fun e => ?_
  refine lowers_require.bind fun _ => lowers_require.bind fun _ => ?_
  split
  · exact lowers_throw
  refine lowers_require.bind fun _ => lowers_require.bind fun _ => ?_
  refine Lowers.bind (lowers_setXfer fun _ => le_rfl) fun _ => Lowers.ite lowers_putActive ?_
  exact lowers_packActive.bind fun _ => lowers_pure

theorem lowers_senderOnTransferAccept {body : List UInt8} :
    Lowers fence (senderOnTransferAccept sha256 st body) := by
  refine lowers_require.bind fun _ => lowers_senderEngine.bind fun e => ?_
  refine lowers_require.bind fun _ => lowers_require.bind fun _ => lowers_require.bind fun _ => ?_
  refine lowers_require.bind fun _ => ?_
  exact Lowers.bind (lowers_setXfer fun _ => le_rfl) fun _ => lowers_putActive

theorem lowers_ownerTimeoutRetryCharge : Lowers fence (ownerTimeoutRetryCharge sha256 st) := by
  refine lowers_engine.bind fun e => lowers_require.bind fun _ => lowers_require.bind fun _ => ?_
  exact Lowers.bind (lowers_setXfer fun _ => le_rfl) fun _ => lowers_putActive

theorem lowers_fullTerminal {activeKey terminalKey : Key} {nm30 : List UInt8}
    {answers : List StoreOp} :
    Lowers fence (fullTerminal st activeKey terminalKey nm30 answers) := by
  refine lowers_engine.bind fun e => lowers_require.bind fun _ => lowers_storage.bind fun _ => ?_
  exact Lowers.ite (lowers_setEngine fun _ => le_rfl) lowers_pure

theorem lowers_endTransfer {ending : Ending} : Lowers fence (endTransfer st ending) := by
  refine lowers_engine.bind fun e => ?_
  split
  · exact lowers_throw
  · exact lowers_fullTerminal.bind fun _ => lowers_setEngine fun _ => le_rfl

theorem lowers_terminalComplete : Lowers fence (terminalComplete st) :=
  lowers_engine.bind fun _ => lowers_require.bind fun _ => lowers_require.bind fun _ =>
    lowers_endTransfer

theorem lowers_fenceIfLocalEpochChanged : Lowers fence (fenceIfLocalEpochChanged st) := by
  refine lowers_engine.bind fun e => lowers_require.bind fun _ => Lowers.ite lowers_pure ?_
  refine lowers_endTransfer.bind fun _ => ?_
  exact Lowers.bind (lowers_setEngine fun _ => le_rfl) fun _ => lowers_throw

theorem lowers_restartScan : Lowers fence (restartScan sha256 st) := by
  refine Lowers.bind (lowers_setEngine fun _ => le_rfl) fun _ => lowers_engine.bind fun e => ?_
  refine Lowers.ite (lowers_setEngine fun _ => le_rfl) ?_
  refine lowers_storage.attempt.bind fun hasActive => lowers_storage.attempt.bind fun _ => ?_
  refine lowers_storage.attempt.bind fun nm30 => lowers_storage.attempt.bind fun nrc1 => ?_
  refine lowers_require.bind fun _ => lowers_require.bind fun _ => Lowers.ite ?_ ?_
  · refine lowers_loadActiveFromStore.mapFailure.bind fun _ => ?_
    refine Lowers.bind (lowers_setEngine fun _ => le_rfl) fun _ => ?_
    refine lowers_fenceIfLocalEpochChanged.attempt.bind ?_
    rintro (err | _)
    · exact lowers_engine.bind fun _ => lowers_require
    · exact lowers_pure
  · exact lowers_require.bind fun _ => lowers_setEngine fun _ => le_rfl

/-! ### Calls after which the fence is known -/

theorem drops_setEngine {k : Engine → Engine} (h : ∀ e, (k e).x.unpaidChunk = false) :
    Drops fence (setEngine k : Prog σ PUnit) := fun w => h w.eng

theorem drops_setXfer {k : Xfer → Xfer} (h : ∀ x, (k x).unpaidChunk = false) :
    Drops fence (setXfer k : Prog σ PUnit) := fun w => h w.eng.x

/-- An OPEN that succeeds leaves the fence down. -/
theorem drops_senderOpenWithMetadata {transferId : Id} {content : List UInt8}
    {m : OpenMetadata} :
    Drops fence (senderOpenWithMetadata sha256 st transferId content m) := by
  refine lowers_engine.bind_drops fun e => ?_
  split
  · exact drops_throw
  split
  · exact drops_throw
  refine Drops.bind (drops_setXfer fun _ => rfl) fun _ => ?_
  split
  · exact lowers_throw
  refine Lowers.bind (lowers_setXfer fun _ => le_rfl) fun _ => ?_
  refine Lowers.bind ?_ fun _ =>
    Lowers.bind (lowers_setEngine fun _ => le_rfl) fun _ => lowers_pure
  refine Lowers.onFailure ?_ fun _ => lowers_restoreActiveFromDurable
  exact lowers_packActive.bind fun _ => lowers_engine.bind fun _ => lowers_fullPutActiveAndNrc1

/-- An answer to a chunk that is taken leaves the fence down. -/
theorem drops_senderOnChunkAccept {body : List UInt8} :
    Drops fence (senderOnChunkAccept sha256 st body) := by
  refine lowers_require.bind_drops fun _ => lowers_senderEngine.bind_drops fun e => ?_
  refine lowers_require.bind_drops fun _ => lowers_require.bind_drops fun _ => ?_
  refine lowers_require.bind_drops fun _ => Drops.bind (drops_setEngine fun _ => rfl) fun _ => ?_
  refine Lowers.ite lowers_putActive ?_
  exact lowers_packActive.bind fun _ => lowers_pure

/-- A cold start leaves the fence down. -/
theorem drops_restartScanTransfer {transferId : Id} {role : UInt8} :
    Drops fence (restartScanTransfer sha256 st transferId role) := by
  refine lowers_require.bind_drops fun _ => ?_
  exact Drops.bind (drops_setXfer fun _ => rfl) fun _ => lowers_restartScan

theorem packActive_fence :
    Ends packActive w (fun _ w' => fence w' = fence w) fun _ w' => fence w' = fence w := by
  have heq : ∀ a b : Bool, a ≤ b → (!a) ≤ (!b) → a = b := by decide
  exact (((lowers_packActive_of id).ends w).and ((lowers_packActive_of not).ends w)).mono
    (fun _ _ h => heq _ _ h.1 h.2) fun _ _ h => heq _ _ h.1 h.2

theorem storage_fence {call : σ → Except Err α × σ} :
    Ends (storage call) w (fun _ w' => fence w' = fence w) fun _ w' => fence w' = fence w := by
  refine Ends.of_outcome ?_ ?_
  · intro _ w' h
    exact congrArg (fun r => fence r.2) h.symm
  · intro _ w' h
    exact congrArg (fun r => fence r.2) h.symm

theorem putActive_fence :
    Ends (putActive sha256 st) w (fun _ w' => fence w' = fence w)
      fun _ w' => fence w' ≤ fence w := by
  refine ends_onFailure (E := fun _ w' => fence w' = fence w) ?_ fun _ w' hw' => ?_
  · refine packActive_fence.bind fun record w' hw' => ?_
    exact storage_fence.mono (fun _ _ h => h.trans hw') fun _ _ h => h.trans hw'
  · exact (lowers_restoreActiveFromDurable.ends w').mono (fun _ _ h => hw' ▸ h)
      fun _ _ h => hw' ▸ h

theorem ends_engine_bind {β : Type} {k : Engine → Prog σ β} {Q : β → World σ → Prop}
    {E : Err → World σ → Prop} (h : Ends (k w.eng) w Q E) : Ends (engine >>= k) w Q E :=
  Ends.bind (Q := fun e w' => e = w.eng ∧ w' = w) ⟨rfl, rfl⟩ fun _ _ ⟨he, hw⟩ => he ▸ hw ▸ h

/-- A retry that is charged leaves the fence as it was. -/
theorem ownerTimeoutRetryCharge_fence :
    Ends (ownerTimeoutRetryCharge sha256 st) w (fun _ w' => fence w' = fence w)
      fun _ w' => fence w' ≤ fence w := by
  refine ends_engine_bind ?_
  refine ends_require_bind (fun _ => le_refl (fence w)) fun _ => ?_
  refine ends_require_bind (fun _ => le_refl (fence w)) fun _ => ?_
  refine Ends.bind (Q := fun _ w' => fence w' = fence w) rfl fun _ w' hw' => ?_
  exact putActive_fence.mono (fun _ _ h => h.trans hw') fun _ _ h => hw' ▸ h

theorem ends_senderEngine_bind {β : Type} {k : Engine → Prog σ β} {Q : β → World σ → Prop}
    {E : Err → World σ → Prop} (hE : E .state w) (h : Ends (k w.eng) w Q E) :
    Ends (senderEngine >>= k) w Q E := by
  refine Ends.bind (Q := fun e w' => e = w.eng ∧ w' = w) ?_ fun _ _ ⟨he, hw⟩ => he ▸ hw ▸ h
  exact ends_engine_bind (ends_require_bind (fun _ => hE) fun _ => ends_pure ⟨rfl, rfl⟩)

/-- What the offer of a chunk does. -/
theorem senderOfferChunk_ends {chunkIndex : UInt16} :
    Ends (senderOfferChunk sha256 chunkIndex) w
      (fun body w' => fence w = false ∧ fence w' = true ∧
        body = w.eng.x.chunkOffer sha256 chunkIndex)
      fun _ w' => w' = w := by
  refine ends_senderEngine_bind rfl ?_
  refine ends_require_bind (fun _ => rfl) fun _ => ?_
  refine ends_require_bind (fun _ => rfl) fun hfence => ?_
  refine ends_require_bind (fun _ => rfl) fun _ => ?_
  refine Ends.bind (Q := fun _ w' => fence w' = true) rfl fun _ w' hw' => ends_pure ?_
  exact ⟨by simpa [fence] using hfence, hw', rfl⟩

/-- The other requests leave the engine alone. -/
theorem senderOfferPage_ends {pageIndex : UInt16} :
    Ends (senderOfferPage sha256 pageIndex) w (fun _ w' => w' = w) fun _ w' => w' = w := by
  refine ends_senderEngine_bind rfl ?_
  refine ends_require_bind (fun _ => rfl) fun _ => ends_require_bind (fun _ => rfl) fun _ => ?_
  split
  · exact ends_throw rfl
  · exact ends_pure rfl

theorem senderFinalize_ends :
    Ends senderFinalize w (fun _ w' => w' = w) fun _ w' => w' = w :=
  ends_senderEngine_bind rfl (ends_pure rfl)

theorem senderReissueOpen_ends :
    Ends senderReissueOpen w (fun _ w' => w' = w) fun _ w' => w' = w :=
  ends_engine_bind (ends_require_bind (fun _ => rfl) fun _ => ends_pure rfl)

end Engine

end Ninlil.Mfdt
