import Ninlil.Mfdt.SenderFence

/-!
# The fence over the runs of a pipeline

* `Pipe.sendsChunk`, `Pipe.chunkRefused`: a pump sends a chunk, and its frame is refused;
* `pumpRequest_ends`, `sendRequest_ends`: what a pump does before its frame, and with it;
* `Call`, `Pipe.after`, `Reached`: the calls of a pipeline, and the states they reach;
* `fenceKept_after`, `fenceKept_of_reached`: the fence is up only in the phases that may owe an
  answer to a chunk.
-/

namespace Ninlil.Mfdt

open Bytes Outcomes

variable {σ α β : Type} {sha256 : Hash} {st : Storage σ} {s : Pipe σ}

/-! ### Rules for the programs of a pipeline -/

variable {E : Err → Pipe σ → Prop}

theorem ends_pipeline_bind {k : Pipeline → PipeProg σ β} {Q : β → Pipe σ → Prop}
    (h : Ends (k s.p) s Q E) : Ends (pipeline >>= k) s Q E :=
  Ends.bind (Q := fun p s' => p = s.p ∧ s' = s) ⟨rfl, rfl⟩ fun _ _ ⟨hp, hs⟩ => hp ▸ hs ▸ h

theorem ends_setPipeline_bind {f : Pipeline → Pipeline} {k : PUnit → PipeProg σ β}
    {Q : β → Pipe σ → Prop}
    (h : Ends (k ⟨⟩) { s with p := f s.p } Q E) : Ends (setPipeline f >>= k) s Q E := by
  refine Ends.bind (Q := fun _ s' => s' = { s with p := f s.p }) ?_ ?_
  · exact ends_modify rfl
  · rintro _ _ rfl
    exact h

theorem ends_setPipeline {f : Pipeline → Pipeline} {Q : PUnit → Pipe σ → Prop}
    (h : Q ⟨⟩ { s with p := f s.p }) : Ends (setPipeline f) s Q E := h

theorem ends_onTx {m : Prog σ α} {Q : α → World σ → Prop} {E : Err → World σ → Prop}
    (h : Ends m s.tx Q E) :
    Ends (onTx m) s (fun a s' => s'.p = s.p ∧ Q a s'.tx) fun e s' => s'.p = s.p ∧ E e s'.tx := by
  rcases hm : m.outcome s.tx with ⟨e | a, w⟩
  · have hout : (onTx m).outcome s = (.error e, { s with tx := w }) := by
      change ((m.outcome s.tx).1, _) = _
      rw [hm]
    unfold Ends
    rw [hout]
    exact ⟨rfl, h.error hm⟩
  · have hout : (onTx m).outcome s = (.ok a, { s with tx := w }) := by
      change ((m.outcome s.tx).1, _) = _
      rw [hm]
    unfold Ends
    rw [hout]
    exact ⟨rfl, h.ok hm⟩

/-- The next request identifier is taken. -/
theorem ends_nextRid_bind {k : UInt64 → PipeProg σ β} {Q : β → Pipe σ → Prop}
    (h : ∀ next, Ends (k s.p.nextRequestId) { s with p := { s.p with nextRequestId := next } }
      Q E) : Ends (nextRid >>= k) s Q E := by
  refine Ends.bind (Q := fun rid s' => rid = s.p.nextRequestId ∧
    ∃ next, s' = { s with p := { s.p with nextRequestId := next } }) ?_ ?_
  · exact ends_pipeline_bind (ends_setPipeline_bind (ends_pure ⟨rfl, _, rfl⟩))
  · rintro _ _ ⟨rfl, next, rfl⟩
    exact h next

/-! ### The frame of a chunk -/

/-- The frame cannot be made, or `send_fn` refuses it other than by being busy. -/
def Pipeline.sendRefused (p : Pipeline) (t : UInt8) (rid : UInt64) (body : List UInt8)
    (answer : Answer) : Bool :=
  !p.outboxValid && match p.frame t rid body with
    | .error err => err != .busy
    | .ok _ => p.hasSendFn && match answer with
      | .ok _ => false
      | .error err => err != .busy

/-- A pump sends a chunk: it is in SEND_CHUNKS, or has sent its last page, and chunks are left. -/
def Pipe.sendsChunk (s : Pipe σ) (allowChunk : Bool) : Bool :=
  allowChunk && !s.p.outboxValid && !s.p.complete &&
    ((s.p.phase == .sendChunks && s.p.nextChunk < s.p.geo.chunkCount) ||
      (s.p.phase == .sendPages && s.p.geo.pageCount ≤ s.p.nextPage && 0 < s.p.geo.chunkCount))

/-- The chunk that a pump sends. -/
def Pipe.nextOffer (s : Pipe σ) : UInt16 := if s.p.phase = .sendChunks then s.p.nextChunk else 0

/-- A pump sends a chunk, and its frame is refused. -/
def Pipe.chunkRefused (sha256 : Hash) (s : Pipe σ) (allowChunk : Bool) (answer : Answer) : Bool :=
  s.sendsChunk allowChunk &&
    s.p.sendRefused msgChunkOffer s.p.nextRequestId (s.tx.eng.x.chunkOffer sha256 s.nextOffer)
      answer

/-- A frame is owned or sent, or it is refused. -/
theorem emitOutbound_ends {t : UInt8} {rid : UInt64} {body : List UInt8} {answer : Answer} :
    Ends (emitOutbound t rid body answer) s (fun _ s' => s'.tx = s.tx ∧ s'.p.phase = s.p.phase)
      fun e s' => (s'.tx = s.tx ∧ s'.p.phase = s.p.phase) ∧
        (e ≠ .busy → s.p.sendRefused t rid body answer = true) := by
  refine ends_pipeline_bind (ends_require_bind (fun _ => ⟨⟨rfl, rfl⟩, fun h => absurd rfl h⟩) ?_)
  intro hbox
  have hbox' : s.p.outboxValid = false := by simpa using hbox
  cases hframe : s.p.frame t rid body with
  | error err => exact ends_throw ⟨⟨rfl, rfl⟩, fun h => by simp [Pipeline.sendRefused, *]⟩
  | ok frame =>
    refine ends_setPipeline_bind ?_
    by_cases hsend : s.p.hasSendFn = true
    · rw [if_pos hsend]
      split
      · exact ends_pure ⟨rfl, rfl⟩
      · exact ends_setPipeline_bind (ends_throw ⟨⟨rfl, rfl⟩, fun h => absurd rfl h⟩)
      · exact ends_throw ⟨⟨rfl, rfl⟩, fun h => by simp [Pipeline.sendRefused, *]⟩
    · rw [if_neg hsend]
      exact ends_setPipeline ⟨rfl, rfl⟩

/-- A request is awaited, or its frame was refused. -/
theorem sendRequest_ends {r : Request} {answer : Answer} :
    Ends (sendRequest r answer) s (fun _ s' => s'.tx = s.tx ∧ s'.p.phase = s.p.phase)
      fun _ s' => (s'.tx = s.tx ∧ s'.p.phase = s.p.phase) ∧
        s.p.sendRefused r.type r.rid r.body answer = true := by
  refine Ends.bind (ends_attempt emitOutbound_ends) ?_
  rintro (err | _) s' hs'
  · refine ends_require_bind ?_ fun _ => ends_setPipeline hs'.1
    intro hbusy
    exact ⟨hs'.1, hs'.2 (by simpa using hbusy)⟩
  · exact ends_setPipeline hs'

/-! ### What a pump does before its frame -/

/-- The phases in which an answer to a chunk may still be owed: while it is awaited, and once the
transfer was given up. -/
def Phase.mayOwe : Phase → Bool
  | .waitChunkAcc | .complete | .idle => true
  | _ => false

/-- The engine and the phase are as they were, but for a phase in which nothing is owed. -/
def Pipe.Steps (s s' : Pipe σ) : Prop :=
  fence s'.tx ≤ fence s.tx ∧ (s'.p.phase = s.p.phase ∨ s.p.phase.mayOwe = false)

theorem Pipe.steps_refl (s : Pipe σ) : s.Steps s := ⟨le_rfl, .inl rfl⟩

/-- A request that offers a chunk: the fence goes up, and its frame is refused just as it would
have been before. -/
def Pipe.Offers (sha256 : Hash) (s : Pipe σ) (chunk : UInt16) (r : Request) (s' : Pipe σ) : Prop :=
  (fence s.tx = false ∧ fence s'.tx = true) ∧ r.waits = .waitChunkAcc ∧
    ∀ answer : Answer.{0}, s'.p.sendRefused r.type r.rid r.body answer =
      s.p.sendRefused msgChunkOffer s.p.nextRequestId (s.tx.eng.x.chunkOffer sha256 chunk) answer

/-- A request that is ready for its frame: it offers the next chunk, or leaves the fence alone in a
phase in which nothing is owed. -/
def Pipe.Ready (sha256 : Hash) (s : Pipe σ) (allowChunk : Bool) (r : Request)
    (s' : Pipe σ) : Prop :=
  if s.sendsChunk allowChunk then s.Offers sha256 s.nextOffer r s'
  else fence s'.tx = fence s.tx ∧ s.p.phase.mayOwe = false

theorem finRequest_ends :
    Ends finRequest s (fun r s' => r.isSome ∧ s'.tx = s.tx) fun _ s' => s'.tx = s.tx := by
  refine ends_nextRid_bind fun next => ?_
  refine Ends.andThen (ends_onTx senderFinalize_ends) (fun _ _ h => h.2) fun body s' h => ?_
  exact ends_pure ⟨rfl, h.2⟩

/-- A chunk is offered, if one is left and it is its turn. -/
theorem chunkRequest_ends {allowChunk : Bool} :
    Ends (chunkRequest sha256 allowChunk) s
      (fun r s' => match r with
        | none => s' = s
        | some r =>
          if allowChunk && decide (s.p.nextChunk < s.p.geo.chunkCount) then
            s.Offers sha256 s.p.nextChunk r s'
          else s'.tx = s.tx)
      fun _ s' => s'.tx = s.tx := by
  refine ends_pipeline_bind ?_
  by_cases hleft : s.p.geo.chunkCount ≤ s.p.nextChunk
  · rw [if_pos hleft]
    refine ends_setPipeline_bind (finRequest_ends.mono ?_ fun _ _ h => h)
    rintro (_ | r) s' ⟨hsome, htx⟩
    · exact absurd hsome (by decide)
    · dsimp only
      rw [if_neg (by simpa using fun _ => hleft)]
      exact htx
  · rw [if_neg hleft]
    cases allowChunk with
    | false => exact ends_pure rfl
    | true =>
      refine ends_nextRid_bind fun next => ?_
      refine Ends.andThen (ends_onTx senderOfferChunk_ends) (fun _ _ h => h.2) fun body s' h => ?_
      obtain ⟨hp, hdown, hup, rfl⟩ := h
      refine ends_pure ?_
      dsimp only
      rw [if_pos (by simpa using hleft)]
      refine ⟨⟨hdown, hup⟩, rfl, fun answer => ?_⟩
      simp only [Pipeline.sendRefused, Pipeline.frame, hp]

theorem pageRequest_ends {allowChunk : Bool} :
    Ends (pageRequest sha256 allowChunk) s
      (fun r s' => match r with
        | none => s'.tx = s.tx
        | some r =>
          if allowChunk && decide (s.p.geo.pageCount ≤ s.p.nextPage) &&
              decide (0 < s.p.geo.chunkCount) then
            s.Offers sha256 0 r s'
          else s'.tx = s.tx)
      fun _ s' => s'.tx = s.tx := by
  refine ends_pipeline_bind ?_
  by_cases hleft : s.p.geo.pageCount ≤ s.p.nextPage
  · rw [if_pos hleft]
    refine ends_setPipeline_bind (chunkRequest_ends.mono ?_ fun _ _ h => h)
    rintro (_ | r) s' h
    · dsimp only at h
      rw [h]
    · simp only [hleft, decide_true, Bool.and_true]
      exact h
  · rw [if_neg hleft]
    refine ends_nextRid_bind fun next => ?_
    refine Ends.andThen (ends_onTx senderOfferPage_ends) (fun _ _ h => h.2) fun body s' h => ?_
    refine ends_pure ?_
    dsimp only
    rw [if_neg (by simp [hleft])]
    exact h.2

/-- A transfer that is opened again is charged first. -/
theorem reissueRequest_ends :
    Ends (reissueRequest sha256 st) s (fun r s' => r.isSome ∧ fence s'.tx = fence s.tx)
      fun _ s' => fence s'.tx ≤ fence s.tx := by
  refine Ends.andThen (ends_onTx ownerTimeoutRetryCharge_fence) (fun _ _ h => h.2) fun _ s' h => ?_
  refine ends_nextRid_bind fun next => ?_
  have hle : fence s'.tx ≤ fence s.tx := h.2.le
  refine Ends.andThen (ends_onTx senderReissueOpen_ends) (fun _ _ hs => ?_) fun _ _ hs => ?_
  · rwa [hs.2]
  · exact ends_pure ⟨rfl, (congrArg fence hs.2).trans h.2⟩

/-- What a pump does before its frame. -/
theorem pumpRequest_ends {allowChunk : Bool} :
    Ends (pumpRequest sha256 st allowChunk) s
      (fun r s' => match r with
        | none => s.Steps s'
        | some r => s.Ready sha256 allowChunk r s')
      fun _ s' => s.Steps s' := by
  refine ends_pipeline_bind (ends_require_bind (fun _ => s.steps_refl) fun hbox => ?_)
  have hbox' : s.p.outboxValid = false := by simpa using hbox
  by_cases hcomplete : s.p.complete = true
  · rw [if_pos hcomplete]
    exact ends_pure s.steps_refl
  rw [if_neg hcomplete]
  have hcomplete' : s.p.complete = false := by simpa using hcomplete
  have hother : s.p.phase ≠ .sendChunks → s.p.phase ≠ .sendPages →
      s.sendsChunk allowChunk = false := by
    intro hchunks hpages
    simp [Pipe.sendsChunk, hchunks, hpages]
  cases hphase : s.p.phase with
  | complete | waitOpenAcc | waitPageAcc | waitChunkAcc | waitXferAcc =>
    exact ends_pure s.steps_refl
  | idle => exact ends_throw s.steps_refl
  | reissueOpen =>
    have howe : s.p.phase.mayOwe = false := by rw [hphase]; rfl
    refine reissueRequest_ends.mono ?_ fun _ s' h => ⟨h, .inr howe⟩
    rintro (_ | r) s' ⟨hsome, hfence⟩
    · exact absurd hsome (by decide)
    · dsimp only
      rw [Pipe.Ready, hother (by simp [hphase]) (by simp [hphase])]
      exact ⟨hfence, howe⟩
  | sendFin =>
    have howe : s.p.phase.mayOwe = false := by rw [hphase]; rfl
    refine finRequest_ends.mono ?_ fun _ s' h => ⟨(congrArg fence h).le, .inr howe⟩
    rintro (_ | r) s' ⟨hsome, htx⟩
    · exact absurd hsome (by decide)
    · dsimp only
      rw [Pipe.Ready, hother (by simp [hphase]) (by simp [hphase])]
      exact ⟨congrArg fence htx, howe⟩
  | sendPages =>
    have howe : s.p.phase.mayOwe = false := by rw [hphase]; rfl
    have hsends : s.sendsChunk allowChunk = (allowChunk && decide (s.p.geo.pageCount ≤ s.p.nextPage)
        && decide (0 < s.p.geo.chunkCount)) := by
      have hne : (Phase.sendPages == Phase.sendChunks) = false := rfl
      simp only [Pipe.sendsChunk, hbox', hcomplete', hphase, hne, beq_self_eq_true, Bool.not_false,
        Bool.and_true, Bool.false_and, Bool.false_or, Bool.true_and, Bool.and_assoc]
    have hoffer : s.nextOffer = 0 := by
      rw [Pipe.nextOffer, if_neg (by simp [hphase])]
    refine pageRequest_ends.mono ?_ fun _ s' h => ⟨(congrArg fence h).le, .inr howe⟩
    rintro (_ | r) s' h
    · exact ⟨(congrArg fence h).le, .inr howe⟩
    · dsimp only at h ⊢
      rw [Pipe.Ready, hsends, hoffer]
      split_ifs at h ⊢
      · exact h
      · exact ⟨congrArg fence h, howe⟩
  | sendChunks =>
    have howe : s.p.phase.mayOwe = false := by rw [hphase]; rfl
    have hsends : s.sendsChunk allowChunk
        = (allowChunk && decide (s.p.nextChunk < s.p.geo.chunkCount)) := by
      have hne : (Phase.sendChunks == Phase.sendPages) = false := rfl
      simp only [Pipe.sendsChunk, hbox', hcomplete', hphase, hne, beq_self_eq_true, Bool.not_false,
        Bool.and_true, Bool.false_and, Bool.or_false, Bool.true_and]
    have hoffer : s.nextOffer = s.p.nextChunk := by rw [Pipe.nextOffer, if_pos hphase]
    refine chunkRequest_ends.mono ?_ fun _ s' h => ⟨(congrArg fence h).le, .inr howe⟩
    rintro (_ | r) s' h
    · exact ⟨(congrArg (fun t : Pipe σ => fence t.tx) h).le, .inr howe⟩
    · dsimp only at h ⊢
      rw [Pipe.Ready, hsends, hoffer]
      split_ifs at h ⊢
      · exact h
      · exact ⟨congrArg fence h, howe⟩

/-! ### The fence is kept -/

/-- A chunk is unanswered only in the phases that may owe its answer. -/
def FenceKept (s : Pipe σ) : Prop := fence s.tx = true → s.p.phase.mayOwe = true

/-- The phase stays, and the fence is not raised. -/
def Pipe.Quiet (s s' : Pipe σ) : Prop := fence s'.tx ≤ fence s.tx ∧ s'.p.phase = s.p.phase

section Kept

variable {s' : Pipe σ}

theorem Pipe.Steps.fenceKept (h : s.Steps s') (hs : FenceKept s) : FenceKept s' := by
  intro hup
  have hup' : fence s.tx = true := Bool.eq_true_of_true_le (hup ▸ h.1)
  rcases h.2 with hphase | howe
  · rw [hphase]
    exact hs hup'
  · exact absurd (howe.symm.trans (hs hup')) nofun

theorem Pipe.Quiet.fenceKept (h : s.Quiet s') (hs : FenceKept s) : FenceKept s' :=
  Pipe.Steps.fenceKept ⟨h.1, .inl h.2⟩ hs

theorem Pipe.Quiet.trans {s'' : Pipe σ} (h : s.Quiet s') (h' : s'.Quiet s'') : s.Quiet s'' :=
  ⟨h'.1.trans h.1, h'.2.trans h.2⟩

theorem fenceKept_of_down (h : fence s.tx = false) : FenceKept s := fun hup =>
  absurd (h.symm.trans hup) nofun

/-- In a phase in which nothing is owed the fence is down. -/
theorem FenceKept.down (h : FenceKept s) (howe : s.p.phase.mayOwe = false) :
    fence s.tx = false := by
  cases hup : fence s.tx with
  | false => rfl
  | true => exact absurd (howe.symm.trans (h hup)) nofun

end Kept

theorem emitOutbound_quiet {t : UInt8} {rid : UInt64} {body : List UInt8} {answer : Answer} :
    Ends (emitOutbound t rid body answer) s (fun _ s' => s.Quiet s') fun _ s' => s.Quiet s' :=
  emitOutbound_ends.mono (fun _ _ h => ⟨(congrArg fence h.1).le, h.2⟩)
    fun _ _ h => ⟨(congrArg fence h.1.1).le, h.1.2⟩

theorem sendRequest_quiet {r : Request} {answer : Answer} :
    Ends (sendRequest r answer) s (fun _ s' => s.Quiet s') fun _ s' => s.Quiet s' :=
  sendRequest_ends.mono (fun _ _ h => ⟨(congrArg fence h.1).le, h.2⟩)
    fun _ _ h => ⟨(congrArg fence h.1.1).le, h.1.2⟩

/-- A call of the engine that does not raise the fence. -/
theorem onTx_quiet {m : Prog σ α} (h : Lowers fence m) :
    Ends (onTx m) s (fun _ s' => s.Quiet s') fun _ s' => s.Quiet s' :=
  (ends_onTx (h.ends s.tx)).mono (fun _ _ hs => ⟨hs.2, congrArg Pipeline.phase hs.1⟩)
    fun _ _ hs => ⟨hs.2, congrArg Pipeline.phase hs.1⟩

/-- One of the calls of the engine that takes the fence down. -/
theorem onTx_drops {m : Prog σ α} (h : Drops fence m) :
    Ends (onTx m) s (fun _ s' => fence s'.tx = false) fun _ s' => s.Quiet s' :=
  (ends_onTx (h s.tx)).mono (fun _ _ hs => hs.2)
    fun _ _ hs => ⟨hs.2, congrArg Pipeline.phase hs.1⟩

theorem ends_ite {c : Prop} [Decidable c] {m n : PipeProg σ α} {Q : α → Pipe σ → Prop}
    (hm : c → Ends m s Q E) (hn : ¬ c → Ends n s Q E) :
    Ends (if c then m else n) s Q E := by
  split
  · exact hm ‹c›
  · exact hn ‹¬ c›

theorem tick_quiet {nowMs : UInt64} {answer : Answer.{0}} :
    Ends (tick sha256 st nowMs answer) s (fun _ s' => s.Quiet s') fun _ s' => s.Quiet s' := by
  refine ends_setPipeline_bind ?_
  have hclock : Lowers fence (setEngine fun e =>
      { e with cfg := { e.cfg with nowMs := nowMs } } : Prog σ PUnit) :=
    lowers_setEngine fun _ => le_rfl
  refine Ends.andThen (onTx_quiet hclock) (fun _ s' h => ⟨h.1, h.2⟩) fun _ s' h => ?_
  have hclocked : s.Quiet s' := ⟨h.1, h.2⟩
  refine ends_pipeline_bind (ends_ite (fun _ => ends_pure hclocked) fun _ => ?_)
  refine ends_require_bind (fun _ => hclocked) fun _ => ?_
  refine ends_require_bind (fun _ => hclocked) fun _ => ?_
  split
  · exact ends_throw hclocked
  refine ends_require_bind (fun _ => hclocked) fun _ => ?_
  refine Ends.andThen (onTx_quiet lowers_ownerTimeoutRetryCharge) (fun _ _ h' => hclocked.trans h')
    fun _ s'' h' => ?_
  refine ends_nextRid_bind fun next => ?_
  exact sendRequest_quiet.mono (fun _ _ hsent => (hclocked.trans h').trans hsent)
    fun _ _ hsent => (hclocked.trans h').trans hsent

theorem emitResponse_quiet {rid : UInt64} {answer : Answer.{0}}
    {message : Option (UInt8 × List UInt8)} :
    Ends (emitResponse rid answer message) s (fun _ s' => s.Quiet s') fun _ s' => s.Quiet s' := by
  rcases message with _ | ⟨t, body⟩
  · exact ends_pure ⟨le_rfl, rfl⟩
  refine Ends.bind (ends_attempt emitOutbound_quiet) ?_
  rintro (err | _) s' h
  · have hquiet : s.Quiet s' := h
    refine Ends.mono (Q := fun _ t => t = s' ∧ (err == Err.busy) = true) ?_ (fun _ _ h' => ?_)
      fun _ _ h' => h'
    · exact ends_require fun _ => hquiet
    · rw [h'.1]
      exact hquiet
  · exact ends_pure h

theorem takeOutbound_quiet {cap : ℕ} :
    Ends (takeOutbound cap) s (fun _ s' => s.Quiet s') fun _ s' => s.Quiet s' := by
  refine ends_pipeline_bind (ends_ite (fun _ => ends_pure ⟨le_rfl, rfl⟩) fun _ => ?_)
  refine ends_require_bind (fun _ => ⟨le_rfl, rfl⟩) fun _ => ?_
  exact ends_setPipeline_bind (ends_pure ⟨le_rfl, rfl⟩)

theorem setResponseTimeout_quiet {timeoutMs : UInt64} :
    Ends (setResponseTimeout timeoutMs) s (fun _ s' => s.Quiet s') fun _ s' => s.Quiet s' :=
  ends_setPipeline_bind (ends_setPipeline ⟨le_rfl, rfl⟩)

theorem finishTerminal_quiet {receiver : Except Err PUnit} :
    Ends (finishTerminal st receiver) s (fun _ s' => s.Quiet s') fun _ s' => s.Quiet s' := by
  unfold finishTerminal
  split
  · exact ends_throw ⟨le_rfl, rfl⟩
  refine ends_pipeline_bind (ends_ite (fun _ => ?_) fun _ => ends_pure ⟨le_rfl, rfl⟩)
  exact onTx_quiet lowers_terminalComplete

/-- A pipeline that goes on from a record leaves the engine alone. -/
theorem senderRehydrate_tx {transferId : Id} {sessionGeneration : UInt32} {sessionCookie : UInt64} :
    Ends (senderRehydrate transferId sessionGeneration sessionCookie) s (fun _ s' => s'.tx = s.tx)
      fun _ s' => s'.tx = s.tx := by
  refine ends_setPipeline_bind ?_
  refine Ends.andThen (ends_onTx (Q := fun _ w => w = s.tx) (E := fun _ w => w = s.tx) rfl)
    (fun _ _ h => h.2) fun e s' h => ?_
  have htx : s'.tx = s.tx := h.2
  refine ends_require_bind (fun _ => htx) fun _ => ends_require_bind (fun _ => htx) fun _ => ?_
  refine ends_setPipeline_bind ?_
  split
  · exact ends_throw htx
  refine ends_setPipeline_bind ?_
  split
  · exact ends_throw htx
  · exact ends_setPipeline htx

/-- With the fence down, a frame and the phase after it keep it. -/
theorem sendPhase_kept {r : Request} {answer : Answer.{0}} {phase : Phase}
    (hdown : fence s.tx = false) :
    Ends (sendRequest r answer >>= fun _ => setPhase phase) s (fun _ s' => FenceKept s')
      fun _ s' => FenceKept s' := by
  refine Ends.andThen sendRequest_ends (fun _ s' h => ?_) fun _ s' h => ?_
  · exact fenceKept_of_down ((congrArg fence h.1.1).trans hdown)
  · exact ends_setPipeline (fenceKept_of_down ((congrArg fence h.1).trans hdown))

/-- An answer that was not waited for in a phase that may owe a chunk leaves the fence down. -/
theorem answered_kept {body : Prog σ PUnit} {waits : Phase} {f : Pipeline → Pipeline}
    (hs : FenceKept s) (hwaits : waits.mayOwe = false) (hbody : Lowers fence body) :
    Ends (onTx body >>= fun _ => if s.p.phase = waits then
        clearOutstanding >>= fun _ => setPipeline f
      else pure ⟨⟩) s (fun _ s' => FenceKept s') fun _ s' => FenceKept s' := by
  refine Ends.andThen (onTx_quiet hbody) (fun _ _ h => h.fenceKept hs) fun _ s' h => ?_
  refine ends_ite (fun hwait => ?_) fun _ => ends_pure (h.fenceKept hs)
  have hdown : fence s.tx = false := hs.down (by rw [hwait]; exact hwaits)
  have hdown' : fence s'.tx = false := Bool.eq_false_of_le_false (hdown ▸ h.1)
  exact ends_setPipeline_bind (ends_setPipeline (fenceKept_of_down hdown'))

section Calls

variable (hs : FenceKept s)

include hs

/-- A pump keeps the fence, unless the frame of its chunk is refused. -/
theorem pump_kept {allowChunk : Bool} {answer : Answer.{0}}
    (hsent : s.chunkRefused sha256 allowChunk answer = false) :
    Ends (pump sha256 st allowChunk answer) s (fun _ s' => FenceKept s')
      fun _ s' => FenceKept s' := by
  refine Ends.andThen pumpRequest_ends (fun _ _ h => h.fenceKept hs) ?_
  rintro (_ | r) s' h
  · exact ends_pure (Pipe.Steps.fenceKept h hs)
  dsimp only at h
  unfold Pipe.Ready at h
  split_ifs at h with hsends
  · obtain ⟨-, hwaits, hrefused⟩ := h
    refine Ends.andThen sendRequest_ends (fun _ s'' h' => ?_) fun _ s'' h' => ?_
    · rw [hrefused answer] at h'
      rw [Pipe.chunkRefused, hsends, h'.2] at hsent
      exact absurd hsent nofun
    · exact ends_setPipeline fun _ => by rw [hwaits]; rfl
  · exact sendPhase_kept (h.1.trans (hs.down h.2))

theorem emitSelectedChunk_kept {answer : Answer.{0}}
    (hsent : s.chunkRefused sha256 true answer = false) :
    Ends (emitSelectedChunk sha256 st answer) s (fun _ s' => FenceKept s')
      fun _ s' => FenceKept s' :=
  ends_pipeline_bind (ends_require_bind (fun _ => hs) fun _ => pump_kept hs hsent)

/-- A transfer begins in a phase that may owe an answer, and its OPEN takes the fence down. -/
theorem senderBegin_kept {transferId : Id} {data : List UInt8} {metadata : Option OpenMetadata}
    {answer : Answer.{0}} :
    Ends (senderBegin sha256 st transferId data metadata answer) s (fun _ s' => FenceKept s')
      fun _ s' => FenceKept s' := by
  refine ends_require_bind (fun _ => hs) fun _ => ends_pipeline_bind ?_
  refine ends_require_bind (fun _ => hs) fun hphase => ?_
  have howe : s.p.phase.mayOwe = true := by
    rw [Bool.or_eq_true, beq_iff_eq, beq_iff_eq] at hphase
    rcases hphase with h | h
    · rw [h]
      rfl
    · rw [h]
      rfl
  split
  · exact ends_throw hs
  refine ends_setPipeline_bind (ends_nextRid_bind fun next => ?_)
  refine Ends.andThen (onTx_drops ?_) (fun _ s' h _ => ?_) fun _ _ hdown => sendPhase_kept hdown
  · cases metadata with
    | none | some => exact drops_senderOpenWithMetadata
  · rw [h.2]
    exact howe

/-- An answer keeps the fence: those that end a wait for a chunk take it down. -/
theorem ingressResponse_kept {frame : Frame} :
    Ends (ingressResponse sha256 st frame) s (fun _ s' => FenceKept s')
      fun _ s' => FenceKept s' := by
  have hquiet : ∀ s' : Pipe σ, s.Quiet s' → FenceKept s' := fun _ h => h.fenceKept hs
  refine ends_pipeline_bind ?_
  refine ends_ite (fun _ => ?_) fun _ => ?_
  · refine ends_require_bind (fun _ => hs) fun _ => ?_
    exact answered_kept hs rfl lowers_senderOnOpenAccept
  refine ends_ite (fun _ => ?_) fun _ => ?_
  · refine ends_require_bind (fun _ => hs) fun _ => ?_
    exact answered_kept hs rfl lowers_senderOnPageAccept
  refine ends_ite (fun _ => ?_) fun _ => ?_
  · refine ends_require_bind (fun _ => hs) fun _ => ?_
    refine Ends.andThen (onTx_drops drops_senderOnChunkAccept) (fun _ s' => hquiet s')
      fun _ s' hdown => ?_
    refine ends_ite (fun _ => ?_) fun _ => ends_pure (fenceKept_of_down hdown)
    exact ends_setPipeline_bind (ends_setPipeline (fenceKept_of_down hdown))
  refine ends_ite (fun _ => ?_) fun _ => ?_
  · refine ends_require_bind (fun _ => hs) fun _ => ?_
    refine Ends.andThen (onTx_quiet lowers_senderOnTransferAccept) (fun _ s' => hquiet s')
      fun _ s' _ => ?_
    exact ends_setPipeline_bind (ends_setPipeline fun _ => rfl)
  refine ends_ite (fun _ => ?_) fun _ => ?_
  · refine ends_require_bind (fun _ => hs) fun _ => ?_
    exact ends_setPipeline_bind (ends_setPipeline fun _ => rfl)
  refine ends_ite (fun _ => ?_) fun _ => ?_
  · exact (ends_require (fun _ => hs)).mono (fun _ _ h => h.1 ▸ hs) fun _ _ h => h
  · refine ends_require_bind (fun _ => hs) fun _ => ?_
    exact ends_setPipeline_bind (ends_setPipeline fun _ => rfl)

theorem ingress_kept {payload : List UInt8} {receiver : Option Received} {answer : Answer.{0}} :
    Ends (ingress sha256 st payload receiver answer) s (fun _ s' => FenceKept s')
      fun _ s' => FenceKept s' := by
  have hquiet : ∀ s' : Pipe σ, s.Quiet s' → FenceKept s' := fun _ h => h.fenceKept hs
  unfold ingress
  split
  · exact ends_throw hs
  refine ends_pipeline_bind (ends_require_bind (fun _ => hs) fun _ => ?_)
  refine ends_require_bind (fun _ => hs) fun _ => ends_ite (fun _ => ingressResponse_kept hs)
    fun _ => ?_
  unfold ingressRequest
  split
  · exact ends_throw hs
  refine ends_require_bind (fun _ => hs) fun _ => ?_
  refine Ends.andThen emitResponse_quiet (fun _ s' => hquiet s') fun _ s' h => ?_
  split
  · exact ends_throw (hquiet s' h)
  · exact ends_pure (hquiet s' h)

/-- A cold start takes the fence down, or fails before the pipeline is touched. -/
theorem restart_kept {transferId : Id} {sessionGeneration : UInt32} {sessionCookie : UInt64} :
    Ends (restart sha256 st transferId sessionGeneration sessionCookie) s (fun _ s' => FenceKept s')
      fun _ s' => FenceKept s' := by
  refine Ends.andThen (onTx_drops drops_restartScanTransfer) (fun _ s' h => h.fenceKept hs)
    fun _ s' hdown => ?_
  exact senderRehydrate_tx.mono (fun _ _ h => fenceKept_of_down ((congrArg fence h).trans hdown))
    fun _ _ h => fenceKept_of_down ((congrArg fence h).trans hdown)

end Calls

/-! ### The calls of a pipeline and the states they reach -/

/-- A call of a pipeline, with what `send_fn` and the receiver engine answer. -/
inductive Call
  | begin (transferId : Id) (data : List UInt8) (metadata : Option OpenMetadata)
      (answer : Answer.{0})
  | pump (allowChunk : Bool) (answer : Answer.{0})
  | emitSelectedChunk (answer : Answer.{0})
  | tick (nowMs : UInt64) (answer : Answer.{0})
  | ingress (payload : List UInt8) (receiver : Option Received) (answer : Answer.{0})
  | takeOutbound (cap : ℕ)
  | setResponseTimeout (timeoutMs : UInt64)
  | finishTerminal (receiver : Except Err PUnit)
  | restart (transferId : Id) (sessionGeneration : UInt32) (sessionCookie : UInt64)

/-- The program of a call. -/
def Call.run (sha256 : Hash) (st : Storage σ) : Call → PipeProg σ PUnit
  | .begin transferId data metadata answer => senderBegin sha256 st transferId data metadata answer
  | .pump allowChunk answer => Mfdt.pump sha256 st allowChunk answer
  | .emitSelectedChunk answer => Mfdt.emitSelectedChunk sha256 st answer
  | .tick nowMs answer => Mfdt.tick sha256 st nowMs answer
  | .ingress payload receiver answer => Mfdt.ingress sha256 st payload receiver answer
  | .takeOutbound cap => ignore (Mfdt.takeOutbound cap)
  | .setResponseTimeout timeoutMs => Mfdt.setResponseTimeout timeoutMs
  | .finishTerminal receiver => Mfdt.finishTerminal st receiver
  | .restart transferId sessionGeneration sessionCookie =>
    Mfdt.restart sha256 st transferId sessionGeneration sessionCookie

/-- The pipeline after a call, however it ends. -/
def Pipe.after (sha256 : Hash) (st : Storage σ) (s : Pipe σ) (call : Call) : Pipe σ :=
  ((call.run sha256 st).outcome s).2

/-- A call does not send a chunk whose frame is refused. -/
def Call.sent (sha256 : Hash) (s : Pipe σ) : Call → Prop
  | .pump allowChunk answer => s.chunkRefused sha256 allowChunk answer = false
  | .emitSelectedChunk answer => s.chunkRefused sha256 true answer = false
  | _ => True

/-- The pipeline as `pipeline_init` leaves it, over any engine. -/
def Pipe.init (hasSendFn : Bool) (sessionGeneration : UInt32) (sessionCookie : UInt64)
    (tx : World σ) : Pipe σ :=
  ⟨{ hasSendFn := hasSendFn
     sessionGeneration := sessionGeneration
     sessionCookie := sessionCookie }, tx⟩

/-- The states of the runs in which no chunk's frame is refused. Between two calls the owner may do
anything with the engine but offer a chunk, and may set any field of the pipeline, but the phase
only to IDLE; and it may take up the transfer that an engine was loaded with. -/
inductive Reached (sha256 : Hash) (st : Storage σ) : Pipe σ → Prop
  | init (hasSendFn : Bool) (sessionGeneration : UInt32) (sessionCookie : UInt64) (tx : World σ) :
      Reached sha256 st (Pipe.init hasSendFn sessionGeneration sessionCookie tx)
  | call {s : Pipe σ} (call : Call) (h : Reached sha256 st s) (hsent : call.sent sha256 s) :
      Reached sha256 st (s.after sha256 st call)
  | outside {s s' : Pipe σ} (h : Reached sha256 st s) (hfence : fence s'.tx ≤ fence s.tx)
      (hphase : s'.p.phase = s.p.phase ∨ s'.p.phase = .idle) : Reached sha256 st s'
  | rehydrated (s : Pipe σ) (hdown : fence s.tx = false) (transferId : Id)
      (sessionGeneration : UInt32) (sessionCookie : UInt64) : Reached sha256 st
        ((senderRehydrate transferId sessionGeneration sessionCookie).outcome s).2

/-- What holds however a call ends holds after it. -/
theorem ends_after {P : Pipe σ → Prop} {m : PipeProg σ α}
    (h : Ends m s (fun _ s' => P s') fun _ s' => P s') : P (m.outcome s).2 := by
  rcases hm : m.outcome s with ⟨e | a, s'⟩
  · exact h.error hm
  · exact h.ok hm

/-- **The step lemma**: a call keeps the fence, unless the frame of its chunk is refused. -/
theorem fenceKept_after {call : Call} (hs : FenceKept s) (hsent : call.sent sha256 s) :
    FenceKept (s.after sha256 st call) := by
  have hquiet : ∀ {m : PipeProg σ PUnit},
      Ends m s (fun _ s' => s.Quiet s') (fun _ s' => s.Quiet s') → FenceKept (m.outcome s).2 :=
    fun h => (ends_after h).fenceKept hs
  cases call with
  | begin transferId data metadata answer => exact ends_after (senderBegin_kept hs)
  | pump allowChunk answer => exact ends_after (pump_kept hs hsent)
  | emitSelectedChunk answer => exact ends_after (emitSelectedChunk_kept hs hsent)
  | tick nowMs answer => exact hquiet tick_quiet
  | ingress payload receiver answer => exact ends_after (ingress_kept hs)
  | takeOutbound cap => exact hquiet (ends_ignore takeOutbound_quiet |>.mono (fun _ _ h => h)
      fun _ _ h => h)
  | setResponseTimeout timeoutMs => exact hquiet setResponseTimeout_quiet
  | finishTerminal receiver => exact hquiet finishTerminal_quiet
  | restart transferId sessionGeneration sessionCookie => exact ends_after (restart_kept hs)

/-- **The run lemma.** -/
theorem fenceKept_of_reached (h : Reached sha256 st s) : FenceKept s := by
  induction h with
  | init hasSendFn sessionGeneration sessionCookie tx => exact fun _ => rfl
  | call call _ hsent ih => exact fenceKept_after ih hsent
  | outside _ hfence hphase ih =>
    rcases hphase with hphase | hidle
    · exact Pipe.Quiet.fenceKept ⟨hfence, hphase⟩ ih
    · exact fun _ => by rw [hidle]; rfl
  | rehydrated s hdown transferId sessionGeneration sessionCookie =>
    have htx := ends_after (P := fun s' => s'.tx = s.tx)
      (@senderRehydrate_tx _ s transferId sessionGeneration sessionCookie)
    exact fenceKept_of_down ((congrArg fence htx).trans hdown)

end Ninlil.Mfdt
