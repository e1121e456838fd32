import Ninlil.Control.Coupled

/-!
# Transmit sequence numbers

The frames whose raw accept a logical session harvests are numbered `0, 1, 2, …` without a gap.

* `harvestedSince`: the tokens harvested since the last bind or restart, read off the history;
* `TxBook`: the sequence counter, the tracked frame and the two histories;
* `TxBook.Ok`: what the book satisfies, with a rule for each change of it;
* `sequence_continuity`: the numbering of every run.
-/

namespace Ninlil.Control

/-! ### Reading the history -/

/-- The tokens harvested since the last bind or restart, oldest first. -/
def harvestedSince : List SessionEvent → List UInt64
  | [] => []
  | .bound :: _ => []
  | .restarted :: _ => []
  | .harvested token :: trace => harvestedSince trace ++ [token]
  | _ :: trace => harvestedSince trace

/-- The sequence numbers that can be used, all but the reserved one. -/
def usableSequences : ℕ := 2 ^ 32 - 1

/-- Every restart came after all usable numbers were used. -/
def RestartsExhausted : List SessionEvent → Prop
  | [] => True
  | .restarted :: trace => (harvestedSince trace).length = usableSequences ∧ RestartsExhausted trace
  | _ :: trace => RestartsExhausted trace

/-- A raw accept. -/
def TxResolution.isAccept : TxResolution → Bool
  | .rawAcceptedCurrentEpoch | .rawAcceptedThenFenced => true
  | _ => false

theorem harvestedSince_filter (trace : List SessionEvent) :
    harvestedSince (trace.filter SessionEvent.numbers) = harvestedSince trace := by
  induction trace with
  | nil => rfl
  | cons e trace ih =>
    cases e with
    | bound | restarted => rfl
    | harvested token =>
      show harvestedSince (trace.filter SessionEvent.numbers) ++ [token] =
        harvestedSince trace ++ [token]
      rw [ih]
    | _ => exact ih

theorem restartsExhausted_filter (trace : List SessionEvent) :
    RestartsExhausted (trace.filter SessionEvent.numbers) ↔ RestartsExhausted trace := by
  induction trace with
  | nil => exact Iff.rfl
  | cons e trace ih =>
    cases e with
    | restarted =>
      show (harvestedSince (trace.filter SessionEvent.numbers)).length = usableSequences ∧ _ ↔ _ ∧ _
      rw [harvestedSince_filter, ih]
    | bound | harvested | _ => exact ih

theorem harvested_mem_filter {trace : List SessionEvent} {token : UInt64} :
    .harvested token ∈ trace.filter SessionEvent.numbers ↔ .harvested token ∈ trace := by
  rw [List.mem_filter]
  exact and_iff_left rfl

/-! ### The book -/

/-- The sequence counter, the tracked frame, and the histories they are judged by. -/
structure TxBook where
  nextTxSeq : UInt32
  trackedKind : TrackedKind
  trackedToken : UInt64
  log : List TxEvent
  marks : List SessionEvent

def LogicalSession.book (s : LogicalSession) : TxBook where
  nextTxSeq := s.nextTxSeq
  trackedKind := s.trackedKind
  trackedToken := s.trackedToken
  log := s.u3.log
  marks := s.trace.filter SessionEvent.numbers

/-- What the book of a session satisfies. -/
structure TxBook.Ok (b : TxBook) : Prop where
  /-- The harvested frames are numbered from `0` on. -/
  numbered : ∀ i token, (harvestedSince b.marks)[i]? = some token →
    ∃ fields, .submitted token fields ∈ b.log ∧ fields.sequence.toNat = i
  restarts : RestartsExhausted b.marks
  /-- The tracked frame carries the next number. -/
  pending : b.trackedKind ≠ .none → b.nextTxSeq ≠ seqMax ∧
    ∃ fields, .submitted b.trackedToken fields ∈ b.log ∧ fields.sequence = b.nextTxSeq
  unreserved : ∀ token fields, .submitted token fields ∈ b.log → fields.sequence ≠ seqMax
  offered : ∀ token bytes status accepted,
    .offered token bytes status accepted ∈ b.log → token ≠ 0
  /-- A number is consumed exactly by a reported raw accept. -/
  harvested : ∀ token, .harvested token ∈ b.marks ↔
    ∃ resolution, .reported token resolution ∈ b.log ∧ resolution.isAccept = true

/-- The counter stands at the number of harvested frames. -/
def TxBook.Counted (b : TxBook) : Prop := b.nextTxSeq.toNat = (harvestedSince b.marks).length

section Rules

variable {b : TxBook}

/-- A pump adds received frames and offers of the tracked one. -/
theorem TxBook.Ok.pump (h : b.Ok) {added : List TxEvent} {token : UInt64}
    (hadded : ∀ e ∈ added, PumpEvent token e) :
    TxBook.Ok { b with log := added ++ b.log } := by
  have hsub : ∀ t f, TxEvent.submitted t f ∈ added ++ b.log → .submitted t f ∈ b.log := by
    intro t f hmem
    rcases List.mem_append.1 hmem with hmem | hmem
    · exact absurd (hadded _ hmem) id
    · exact hmem
  have hrep : ∀ t r, TxEvent.reported t r ∈ added ++ b.log ↔ .reported t r ∈ b.log := by
    intro t r
    constructor
    · intro hmem
      rcases List.mem_append.1 hmem with hmem | hmem
      · exact absurd (hadded _ hmem) id
      · exact hmem
    · exact fun hmem => List.mem_append_right _ hmem
  refine ⟨?_, h.restarts, ?_, ?_, ?_, ?_⟩
  · intro i t ht
    obtain ⟨f, hf, hseq⟩ := h.numbered i t ht
    exact ⟨f, List.mem_append_right _ hf, hseq⟩
  · intro hk
    obtain ⟨hne, f, hf, hseq⟩ := h.pending hk
    exact ⟨hne, f, List.mem_append_right _ hf, hseq⟩
  · exact fun t f hmem => h.unreserved t f (hsub t f hmem)
  · intro t bytes status accepted hmem
    rcases List.mem_append.1 hmem with hmem | hmem
    · exact (hadded _ hmem).2
    · exact h.offered t bytes status accepted hmem
  · intro t
    simp only [hrep]
    exact h.harvested t

/-- A frame under the next number is handed over. -/
theorem TxBook.Ok.submit (h : b.Ok) {fields : FrameFields} {token : UInt64} {kind : TrackedKind}
    (hseq : fields.sequence = b.nextTxSeq) (hne : b.nextTxSeq ≠ seqMax) :
    TxBook.Ok { b with
      trackedKind := kind, trackedToken := token, log := .submitted token fields :: b.log } := by
  refine ⟨?_, h.restarts, fun _ => ⟨hne, fields, List.mem_cons_self, hseq⟩, ?_, ?_, ?_⟩
  · intro i t ht
    obtain ⟨f, hf, hseq⟩ := h.numbered i t ht
    exact ⟨f, List.mem_cons_of_mem _ hf, hseq⟩
  · intro t f hmem
    rcases List.mem_cons.1 hmem with heq | hmem
    · cases heq
      rw [hseq]
      exact hne
    · exact h.unreserved t f hmem
  · intro t bytes status accepted hmem
    exact h.offered t bytes status accepted (List.mem_of_ne_of_mem (by simp) hmem)
  · intro t
    rw [h.harvested t]
    simp

/-- The tracked frame is told of without having been accepted. -/
theorem TxBook.Ok.tell (h : b.Ok) {token : UInt64} {r : TxResolution} (hr : r.isAccept = false) :
    TxBook.Ok { b with
      trackedKind := .none, trackedToken := 0, log := .reported token r :: b.log } := by
  refine ⟨?_, h.restarts, fun hk => absurd rfl hk, ?_, ?_, ?_⟩
  · intro i t ht
    obtain ⟨f, hf, hseq⟩ := h.numbered i t ht
    exact ⟨f, List.mem_cons_of_mem _ hf, hseq⟩
  · exact fun t f hmem => h.unreserved t f (List.mem_of_ne_of_mem (by simp) hmem)
  · intro t bytes status accepted hmem
    exact h.offered t bytes status accepted (List.mem_of_ne_of_mem (by simp) hmem)
  · intro t
    rw [h.harvested t]
    constructor
    · rintro ⟨r', hmem, hacc⟩
      exact ⟨r', List.mem_cons_of_mem _ hmem, hacc⟩
    · rintro ⟨r', hmem, hacc⟩
      rcases List.mem_cons.1 hmem with heq | hmem
      · cases heq
        exact absurd (hr.symm.trans hacc) (by decide)
      · exact ⟨r', hmem, hacc⟩

/-- The counter after a raw accept. -/
theorem toNat_next {seq : UInt32} (hne : seq ≠ seqMax) :
    (if seq < seqMax then seq + 1 else seq).toNat = seq.toNat + 1 := by
  have hmax : seqMax.toNat = 4294967295 := rfl
  have hlt : seq.toNat < seqMax.toNat := by
    have := seq.toNat_lt
    have hne' : seq.toNat ≠ seqMax.toNat := fun heq => hne (UInt32.toNat_inj.1 heq)
    omega
  rw [if_pos (UInt32.lt_iff_toNat_lt.2 hlt), UInt32.toNat_add]
  exact Nat.mod_eq_of_lt (by simp; omega)

/-- The raw accept of the tracked frame is harvested. -/
theorem TxBook.Ok.harvest (h : b.Ok) (hc : b.Counted) (hk : b.trackedKind ≠ .none)
    {r : TxResolution} (hr : r.isAccept = true) :
    TxBook.Ok { b with
      nextTxSeq := if b.nextTxSeq < seqMax then b.nextTxSeq + 1 else b.nextTxSeq
      trackedKind := .none
      trackedToken := 0
      log := .reported b.trackedToken r :: b.log
      marks := .harvested b.trackedToken :: b.marks } ∧
    TxBook.Counted { b with
      nextTxSeq := if b.nextTxSeq < seqMax then b.nextTxSeq + 1 else b.nextTxSeq
      trackedKind := .none
      trackedToken := 0
      log := .reported b.trackedToken r :: b.log
      marks := .harvested b.trackedToken :: b.marks } := by
  obtain ⟨hne, f, hf, hseq⟩ := h.pending hk
  constructor
  · refine ⟨?_, h.restarts, fun hk => absurd rfl hk, ?_, ?_, ?_⟩
    · intro i t ht
      -- the newest harvest stands at the end, under the number of those before it
      show ∃ fields, _ ∈ _ :: b.log ∧ _
      have ht : (harvestedSince b.marks ++ [b.trackedToken])[i]? = some t := ht
      by_cases hi : i < (harvestedSince b.marks).length
      · rw [List.getElem?_append_left hi] at ht
        obtain ⟨f, hf, hseq⟩ := h.numbered i t ht
        exact ⟨f, List.mem_cons_of_mem _ hf, hseq⟩
      · rw [List.getElem?_append_right (by omega), List.getElem?_singleton] at ht
        split_ifs at ht with h0
        cases ht
        refine ⟨f, List.mem_cons_of_mem _ hf, ?_⟩
        rw [hseq, show b.nextTxSeq.toNat = _ from hc]
        omega
    · exact fun t f hmem => h.unreserved t f (List.mem_of_ne_of_mem (by simp) hmem)
    · intro t bytes status accepted hmem
      exact h.offered t bytes status accepted (List.mem_of_ne_of_mem (by simp) hmem)
    · intro t
      have hold := h.harvested t
      constructor
      · intro hmem
        rcases List.mem_cons.1 hmem with heq | hmem
        · cases heq
          exact ⟨r, List.mem_cons_self, hr⟩
        · obtain ⟨r', hmem, hacc⟩ := hold.1 hmem
          exact ⟨r', List.mem_cons_of_mem _ hmem, hacc⟩
      · rintro ⟨r', hmem, hacc⟩
        rcases List.mem_cons.1 hmem with heq | hmem
        · cases heq
          exact List.mem_cons_self
        · exact List.mem_cons_of_mem _ (hold.2 ⟨r', hmem, hacc⟩)
  · show _ = (harvestedSince b.marks ++ [b.trackedToken]).length
    rw [toNat_next hne, List.length_append, show b.nextTxSeq.toNat = _ from hc]
    rfl

/-- The numbers are used up, and start over. -/
theorem TxBook.Ok.restart (h : b.Ok) (hc : b.Counted) (hk : b.trackedKind = .none)
    (hmax : b.nextTxSeq = seqMax) :
    TxBook.Ok { b with nextTxSeq := 0, marks := .restarted :: b.marks } := by
  refine ⟨?_, ⟨?_, h.restarts⟩, fun hk' => absurd hk hk', h.unreserved, h.offered, ?_⟩
  · intro i t ht
    simp [harvestedSince] at ht
  · rw [← show b.nextTxSeq.toNat = _ from hc, hmax]
    rfl
  · intro t
    rw [← h.harvested t]
    simp

/-- A bind starts over. -/
theorem TxBook.Ok.rebind (h : b.Ok) {log : List TxEvent}
    (hlog : log = b.log ∨ ∃ id, log = .claimed id :: b.log) :
    TxBook.Ok
      { nextTxSeq := 0, trackedKind := .none, trackedToken := 0, log := log
        marks := .bound :: b.marks } := by
  have hmem : ∀ e, (∀ id, e ≠ .claimed id) → (e ∈ log ↔ e ∈ b.log) := by
    intro e hne
    rcases hlog with rfl | ⟨id, rfl⟩
    · exact Iff.rfl
    · rw [List.mem_cons]
      exact or_iff_right (hne id)
  refine ⟨?_, h.restarts, fun hk => absurd rfl hk, ?_, ?_, ?_⟩
  · intro i t ht
    simp [harvestedSince] at ht
  · exact fun t f hf => h.unreserved t f ((hmem _ (by simp)).1 hf)
  · exact fun t bytes status accepted ho => h.offered t bytes status accepted
      ((hmem _ (by simp)).1 ho)
  · intro t
    show _ ∈ _ :: b.marks ↔ _
    rw [List.mem_cons, or_iff_right (by simp), h.harvested t]
    constructor
    · rintro ⟨r, hr, hacc⟩
      exact ⟨r, (hmem _ (by simp)).2 hr, hacc⟩
    · rintro ⟨r, hr, hacc⟩
      exact ⟨r, (hmem _ (by simp)).1 hr, hacc⟩

end Rules

/-! ### Sessions -/

/-- The invariant of a session's numbering. -/
structure Sequenced (s : LogicalSession) : Prop where
  book : s.book.Ok
  counted : s.state ≠ .disconnected → s.book.Counted

section Stages

variable {s s' : LogicalSession}

theorem Sequenced.of_book (h : Sequenced s) (hup : s.state ≠ .disconnected)
    (hb : s'.book = s.book) : Sequenced s' :=
  ⟨hb ▸ h.book, fun _ => hb ▸ h.counted hup⟩

theorem Local.book (h : Local s s') : s'.book = s.book :=
  congrArg (fun t : TxSide =>
    TxBook.mk t.nextTxSeq t.trackedKind t.trackedToken t.core.log t.numbering) h.side

theorem book_applyTxSeqTerminalExhaust (s : LogicalSession) :
    (applyTxSeqTerminalExhaust s).book =
      { s.book with nextTxSeq := 0, marks := .restarted :: s.book.marks } := by
  have hcold := (local_rxOnlyCold { clearNotice (sessionToLinkUpNoSession s) with
    helloTimerArmed := false, nextTxSeq := 0 }).book
  have hmarks := congrArg TxBook.marks hcold
  unfold applyTxSeqTerminalExhaust
  dsimp only
  split_ifs
  all_goals
    have hlog := congrArg TxBook.log hcold
    simp only [LogicalSession.book, armRehello] at hcold hmarks hlog ⊢
    rw [List.filter_cons_of_pos (by rfl)]
    simp only [hlog, hmarks]
    rfl

theorem Sequenced.submission (h : Sequenced s) (hup : s.state ≠ .disconnected)
    (hs : Submission s s') : Sequenced s' := by
  have hc := h.counted hup
  cases hs with
  | unchanged => exact h
  | exhausted untracked _ seq =>
    have hb := book_applyTxSeqTerminalExhaust s
    refine ⟨?_, fun _ => ?_⟩
    · rw [hb]
      exact h.book.restart hc untracked seq
    · rw [hb]
      rfl
  | dropped | refused => exact h.of_book hup rfl
  | notice _ _ seq => exact ⟨h.book.submit rfl seq, fun _ => hc⟩
  | action _ _ seq => exact ⟨h.book.submit rfl seq, fun _ => hc⟩

/-- The book after a pump. -/
theorem Sequenced.pump (h : Sequenced s) {u : Session} (hg : Grown s.u3 u) :
    TxBook.Ok { s.book with log := u.log } := by
  obtain ⟨added, hlog, hadded⟩ := hg.log
  rw [hlog]
  exact h.book.pump hadded

theorem book_onRawAccepted (s : LogicalSession) :
    (onRawAccepted s).book = { s.book with
      nextTxSeq := if s.nextTxSeq < seqMax then s.nextTxSeq + 1 else s.nextTxSeq
      marks := .harvested s.trackedToken :: s.book.marks } :=
  (local_onRawAccepted s).book

theorem book_thenFenced (s : LogicalSession) :
    ({ clearTracked (harvestAccept (told s)) with epochClaimed := false } : LogicalSession).book = {
      nextTxSeq := if s.nextTxSeq < seqMax then s.nextTxSeq + 1 else s.nextTxSeq
      trackedKind := .none
      trackedToken := 0
      log := .reported s.trackedToken s.u3.trackedResolution :: s.u3.log
      marks := .harvested s.trackedToken :: s.book.marks } := by
  dsimp only [LogicalSession.book, clearTracked, harvestAccept, told, consumeTracked]
  rw [List.filter_cons_of_pos rfl]

/-- The book after a frame was told of that consumed no number. -/
def TxBook.told (b : TxBook) (r : TxResolution) : TxBook :=
  { b with trackedKind := .none, trackedToken := 0, log := .reported b.trackedToken r :: b.log }

theorem book_clearTracked_told (s : LogicalSession) :
    (clearTracked (told s)).book = s.book.told s.u3.trackedResolution := by
  dsimp only [LogicalSession.book, TxBook.told, clearTracked, told, consumeTracked]

theorem book_fenced_told (s : LogicalSession) :
    ({ clearTracked (told s) with epochClaimed := false } : LogicalSession).book =
      s.book.told s.u3.trackedResolution := by
  dsimp only [LogicalSession.book, TxBook.told, clearTracked, told, consumeTracked]

theorem book_endSession (s : LogicalSession) :
    (endSession s).book =
      { s.book with nextTxSeq := 0, trackedKind := .none, trackedToken := 0 } := by
  dsimp only [LogicalSession.book, endSession, clearTracked, dropSession, clearActive, clearNotice,
    clearOrdinaryActions, dropAllInflight]

/-- A settled frame consumes a number exactly when it was accepted. -/
theorem Sequenced.settling (h : Sequenced s) (hup : s.state ≠ .disconnected) {u : Session}
    {r : LogicalSession} (hg : Grown s.u3 u) (hs : Settling { s with u3 := u } r) :
    r.book.Ok ∧ r.book.Counted := by
  have hc : TxBook.Counted { s.book with log := u.log } := h.counted hup
  have hbook := h.pump hg
  cases hs with
  | idle | pending => exact ⟨hbook, hc⟩
  | accepted tracked _ outcome =>
    have hbooks := book_onRawAccepted (told { s with u3 := u })
    have hharvest := hbook.harvest hc tracked (r := u.trackedResolution) (by
      rw [show u.trackedResolution = _ from outcome]; rfl)
    have heq : (clearTracked (onRawAccepted (told { s with u3 := u }))).book = {
        nextTxSeq := if s.nextTxSeq < seqMax then s.nextTxSeq + 1 else s.nextTxSeq
        trackedKind := .none
        trackedToken := 0
        log := .reported s.trackedToken u.trackedResolution :: u.log
        marks := .harvested s.trackedToken :: s.book.marks } := by
      have hseq := congrArg TxBook.nextTxSeq hbooks
      have hlog := congrArg TxBook.log hbooks
      have hmarks := congrArg TxBook.marks hbooks
      exact congr (congr (congrArg (fun n l m => TxBook.mk n .none 0 l m) hseq) hlog) hmarks
    rw [heq]
    exact hharvest
  | cancelled _ _ outcome =>
    rw [book_clearTracked_told]
    exact ⟨hbook.tell (by rw [show u.trackedResolution = _ from outcome]; rfl), hc⟩
  | fencedUnaccepted _ _ outcome =>
    rw [book_fenced_told]
    exact ⟨hbook.tell (by rw [show u.trackedResolution = _ from outcome]; rfl), hc⟩
  | acceptedThenFenced tracked _ outcome =>
    have hharvest := hbook.harvest hc tracked (r := u.trackedResolution) (by
      rw [show u.trackedResolution = _ from outcome]; rfl)
    rw [book_thenFenced]
    exact hharvest
  | indeterminate _ _ outcome =>
    rw [(local_fence _).book, book_fenced_told]
    exact ⟨hbook.tell (by rw [show u.trackedResolution = _ from outcome]; rfl), hc⟩

theorem book_onEpochLost (s : LogicalSession) : (onEpochLost s).book = s.book :=
  (local_fenceAndRehello _).book

theorem book_onLinkLost (s : LogicalSession) : (onLinkLost s).book = s.book := by
  by_cases hk : s.trackedKind = .none
  · rw [onLinkLost_untracked hk]
    rfl
  · rw [onLinkLost_tracked hk]
    exact ((local_clears s).trans (local_fence _)).book

theorem book_apply (s : LogicalSession) (st : SessionStatus) :
    (applyU3PumpStatus s st).2.book = s.book := by
  cases st with
  | rxOverflow => exact (local_continuityLoss s).book
  | continuityLost | generationMismatch => exact book_onEpochLost s
  | errLinkDown | closed | ioError => exact book_onLinkLost s
  | _ => rfl

theorem Sequenced.outcome (h : Sequenced s) (hup : s.state ≠ .disconnected) {io : PumpIo}
    {st : SessionStatus} {r : LogicalSession} (ho : Outcome s io st r) :
    r.book.Ok ∧ r.book.Counted := by
  have hc := h.counted hup
  cases ho with
  | off => exact ⟨h.book, hc⟩
  | malformed _ _ _ _ grown => exact ⟨h.pump grown, hc⟩
  | kept _ _ _ _ grown => exact ⟨h.pump grown, hc⟩
  | accepted _ _ _ _ grown tracked settled outcome =>
    exact h.settling hup grown (.accepted tracked settled outcome)
  | fenced _ _ _ _ _ _ grown settling => exact h.settling hup grown settling

theorem Sequenced.step (hcoupled : Coupled s) (h : Sequenced s) (io : StepIo) :
    Sequenced (Control.step s io).2 := by
  have hstep := hcoupled.stepped io
  generalize (Control.step s io).2 = s' at hstep
  cases hstep with
  | refused => exact h
  | @went r t st up _ outcome _ _ applied =>
    have hclock : Sequenced { s with nowMs := io.now, haveNow := true } := h.of_book up rfl
    have hlocal := local_runTimers { s with nowMs := io.now, haveNow := true }
    have htimers : Sequenced (runTimers { s with nowMs := io.now, haveNow := true }) :=
      hclock.of_book up hlocal.book
    obtain ⟨hprep, hup'⟩ := hcoupled.prepare up io.now
    have hsub : Sequenced (prepareStep s io.now).2 :=
      htimers.submission (hlocal.up up) (trySubmitTracked_submission _)
    obtain ⟨hok, hcount⟩ := hsub.outcome hup' outcome
    have hrx : RxOk t.u3 := applied ▸ (hprep.apply hup' outcome).rx
    have ht : Sequenced t := by
      have hb : t.book = r.book := by rw [applied]; exact book_apply r st
      exact ⟨hb ▸ hok, fun _ => hb ▸ hcount⟩
    split_ifs with hdown
    · exact ht
    · exact ht.of_book hdown (local_drainRx hrx).book

theorem Sequenced.bind (hcoupled : Coupled s) (h : Sequenced s) (io : BindIo) :
    Sequenced (bindLogical s io).2 := by
  have hb := hcoupled.binding io
  generalize (bindLogical s io).2 = s' at hb
  cases hb with
  | refused => exact h
  | exhausted down _ _ _ _ _ log =>
    refine ⟨?_, fun hup => absurd down hup⟩
    show TxBook.Ok { s.book with log := _ }
    rw [log]
    exact h.book
  | @bound u epoch _ _ _ _ _ _ log =>
    have hstart : Sequenced (startSession { s with u3 := u, epoch := epoch, epochClaimed := true }) :=
      ⟨h.book.rebind (.inr log), fun _ => rfl⟩
    dsimp only
    split
    · exact hstart.of_book nofun (local_arm _ _).book
    · exact hstart

theorem Sequenced.unbind (hcoupled : Coupled s) (h : Sequenced s) :
    Sequenced (unbindLogical s).2 := by
  by_cases hup : s.state = .disconnected
  · rw [unbindLogical, if_pos hup]
    exact h
  · obtain ⟨u, -, -, -, -, hlog, heq⟩ := hcoupled.unbinding hup
    rw [heq]
    refine ⟨?_, fun hup => absurd rfl hup⟩
    rw [book_endSession]
    have hbook : TxBook.Ok { s.book with
        trackedKind := .none, trackedToken := 0, log := u.log } := by
      rcases hlog with hlog | hlog
      · rw [hlog]
        exact ⟨h.book.numbered, h.book.restarts, fun hk => absurd rfl hk, h.book.unreserved,
          h.book.offered, h.book.harvested⟩
      · rw [hlog]
        exact h.book.tell rfl
    exact ⟨hbook.numbered, hbook.restarts, fun hk => absurd rfl hk, hbook.unreserved,
      hbook.offered, hbook.harvested⟩

theorem sequenced_run (config : LogicalConfig) (calls : List LogicalCall) :
    Sequenced (.run config calls) := by
  have hinit : Sequenced (.init config) := by
    refine ⟨⟨?_, trivial, fun hk => absurd rfl hk, nofun, nofun, ?_⟩, fun hup => absurd rfl hup⟩
    · intro i t ht
      simp [LogicalSession.book, LogicalSession.init, harvestedSince] at ht
    · intro t
      simp [LogicalSession.book, LogicalSession.init]
  unfold LogicalSession.run
  induction calls using List.reverseRecOn with
  | nil => exact hinit
  | append_singleton calls c ih =>
    have hcoupled := coupled_run config calls
    rw [List.foldl_append]
    cases c with
    | bind io => exact ih.bind hcoupled io
    | unbind => exact ih.unbind hcoupled
    | step io => exact ih.step hcoupled io

end Stages

/-! ### Every run -/

/-- How the transmitted frames of a session are numbered. -/
structure SequenceContinuity (s : LogicalSession) : Prop where
  /-- The frames harvested since the last bind or restart carry `0, 1, 2, …`. -/
  numbered : ∀ i token, (harvestedSince s.trace)[i]? = some token →
    token ∈ submittedTokens s.u3.log ∧
      ∀ fields, .submitted token fields ∈ s.u3.log → fields.sequence.toNat = i
  /-- The numbers start over only once all usable ones were used. -/
  restarts : RestartsExhausted s.trace
  /-- A number is consumed by a reported raw accept, and by nothing else. -/
  consumed : ∀ token, .harvested token ∈ s.trace ↔
    ∃ resolution, .reported token resolution ∈ s.u3.log ∧ resolution.isAccept = true
  /-- The counter stands at the number of harvested frames. -/
  counter : s.state ≠ .disconnected → s.nextTxSeq.toNat = (harvestedSince s.trace).length
  /-- The frame not yet settled carries the number of the counter. -/
  pending : s.trackedKind ≠ .none →
    ∃ fields, .submitted s.trackedToken fields ∈ s.u3.log ∧ fields.sequence = s.nextTxSeq
  /-- The reserved number never reaches the stream. -/
  unreserved : ∀ token bytes status accepted, .offered token bytes status accepted ∈ s.u3.log →
    ∃ fields, .submitted token fields ∈ s.u3.log ∧ bytes = frameBytes fields ∧
      fields.sequence ≠ seqMax

/-- What is offered under a token is the frame handed over under it. -/
theorem Sound.offered_submitted {u : Session} (h : Sound u) {token : UInt64} {bytes : List UInt8}
    {status : StreamStatus} {accepted : ℕ} (hmem : .offered token bytes status accepted ∈ u.log)
    (h0 : token ≠ 0) : ∃ fields, .submitted token fields ∈ u.log ∧ bytes = frameBytes fields := by
  have hoffer : (⟨bytes, status, accepted⟩ : Offer) ∈ offersOf u.log token := by
    rw [offersOf, List.mem_filterMap]
    exact ⟨_, hmem, by simp⟩
  have hsub : token ∈ submittedTokens u.log := by
    by_contra hnot
    rw [h.history.unoffered token h0 hnot] at hoffer
    cases hoffer
  obtain ⟨fields, hf⟩ := mem_submittedTokens.1 hsub
  exact ⟨fields, hf, h.history.carries token fields hf _ hoffer⟩

/-- **Transmit sequence numbers are continuous**, in every run. -/
theorem sequence_continuity (config : LogicalConfig) (calls : List LogicalCall) :
    SequenceContinuity (.run config calls) := by
  have hseq := sequenced_run config calls
  have hsound := (coupled_run config calls).sound
  generalize LogicalSession.run config calls = s at hseq hsound
  have hbook := hseq.book
  constructor
  · intro i token hget
    rw [← harvestedSince_filter] at hget
    obtain ⟨fields, hf, hi⟩ := hbook.numbered i token hget
    refine ⟨mem_submittedTokens.2 ⟨fields, hf⟩, fun fields' hf' => ?_⟩
    rw [submitted_unique hsound.history.submitted_nodup hf' hf]
    exact hi
  · exact (restartsExhausted_filter s.trace).1 hbook.restarts
  · intro token
    rw [← harvested_mem_filter]
    exact hbook.harvested token
  · intro hup
    rw [← harvestedSince_filter]
    exact hseq.counted hup
  · exact fun hk => (hbook.pending hk).2
  · intro token bytes status accepted hmem
    obtain ⟨fields, hf, hbytes⟩ :=
      hsound.offered_submitted hmem (hbook.offered token bytes status accepted hmem)
    exact ⟨fields, hf, hbytes, hbook.unreserved token fields hf⟩

end Ninlil.Control
