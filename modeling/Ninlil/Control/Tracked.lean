import Ninlil.Control.Session

/-!
# Tracked transmits

What a control session tells its owner about a frame is what the stream did with it.

* `offersOf`, `Offer.full`: the writes that offered a token's frame, read off the history;
* `Settles`: an outcome agrees with those writes;
* `History`: what the history of a session satisfies, with a rule for each event;
* `Sound`: the invariant of a session, kept by each of its calls;
* `tracked_outcomes`: the outcomes of every run.
-/

namespace Ninlil.Control

/-! ### The history of a token -/

/-- One write of a frame: what was offered, and what the stream reported. -/
structure Offer where
  bytes : List UInt8
  status : StreamStatus
  accepted : ℕ
  deriving DecidableEq

/-- The write was answered `OK`, with the whole frame accepted. -/
def Offer.full (o : Offer) : Prop := o.status = .ok ∧ o.accepted = o.bytes.length

/-- The write took bytes, but was not answered as a whole frame. -/
def Offer.shaky (o : Offer) : Prop := 0 < o.accepted ∧ ¬ o.full

/-- The writes of a token's frame, newest first. -/
def offersOf (log : List TxEvent) (token : UInt64) : List Offer :=
  log.filterMap fun
    | .offered t bytes status accepted =>
      if t = token then some { bytes, status, accepted } else none
    | _ => none

/-- The tokens handed out, newest first. -/
def submittedTokens (log : List TxEvent) : List UInt64 :=
  log.filterMap fun
    | .submitted token _ => some token
    | _ => none

/-- The tokens whose outcome was told, newest first. -/
def reportedTokens (log : List TxEvent) : List UInt64 :=
  log.filterMap fun
    | .reported token _ => some token
    | _ => none

/-- The epochs handed out, newest first. -/
def claimedEpochs (log : List TxEvent) : List UInt64 :=
  log.filterMap fun
    | .claimed epochId => some epochId
    | _ => none

/-- An outcome agrees with the writes of a frame. -/
structure Settles (offers : List Offer) (resolution : TxResolution) : Prop where
  accepted : resolution = .rawAcceptedCurrentEpoch ∨ resolution = .rawAcceptedThenFenced ↔
    ∃ o ∈ offers, o.full
  untouched : resolution = .cancelledUnaccepted ∨ resolution = .fencedUnaccepted →
    ∀ o ∈ offers, o.accepted = 0
  shaky : resolution = .indeterminatePartial ↔ ∃ o ∈ offers, o.shaky
  terminal : resolution ≠ .pendingUnaccepted

/-- No offer of the frame took anything. -/
def Untaken (offers : List Offer) : Prop := ∀ o ∈ offers, o.accepted = 0

/-- The offered bytes are those of a frame. -/
def Carries (offers : List Offer) (fields : FrameFields) : Prop :=
  ∀ o ∈ offers, o.bytes = frameBytes fields

theorem frameBytes_ne_nil (fields : FrameFields) : frameBytes fields ≠ [] := by
  simp [frameBytes, headerPrefix, magicBytes]

section Settling

variable {offers : List Offer} {fields : FrameFields} {o : Offer} {r : TxResolution}

theorem Untaken.not_full (h : Untaken offers) (hc : Carries offers fields) :
    ¬ ∃ o ∈ offers, o.full := by
  rintro ⟨o, ho, -, hlen⟩
  rw [h o ho, hc o ho] at hlen
  exact frameBytes_ne_nil fields (List.length_eq_zero_iff.1 hlen.symm)

theorem Untaken.not_shaky (h : Untaken offers) : ¬ ∃ o ∈ offers, o.shaky := by
  rintro ⟨o, ho, hpos, -⟩
  rw [h o ho] at hpos
  exact absurd hpos (lt_irrefl 0)

/-- A frame of which nothing was taken may be cancelled or fenced. -/
theorem Untaken.settles (h : Untaken offers) (hc : Carries offers fields)
    (hr : r = .cancelledUnaccepted ∨ r = .fencedUnaccepted) : Settles offers r where
  accepted := iff_of_false (by rcases hr with rfl | rfl <;> decide) (h.not_full hc)
  untouched _ := h
  shaky := iff_of_false (by rcases hr with rfl | rfl <;> decide) h.not_shaky
  terminal := by rcases hr with rfl | rfl <;> decide

/-- A whole frame taken after refused offers. -/
theorem Untaken.settles_full (h : Untaken offers) (ho : o.full)
    (hr : r = .rawAcceptedCurrentEpoch ∨ r = .rawAcceptedThenFenced) :
    Settles (o :: offers) r where
  accepted := iff_of_true hr ⟨o, List.mem_cons_self, ho⟩
  untouched hr' := by rcases hr with rfl | rfl <;> simp at hr'
  shaky := by
    refine iff_of_false (by rcases hr with rfl | rfl <;> decide) ?_
    rintro ⟨o', hmem, hs⟩
    rcases List.mem_cons.1 hmem with rfl | hmem
    · exact hs.2 ho
    · exact h.not_shaky ⟨o', hmem, hs⟩
  terminal := by rcases hr with rfl | rfl <;> decide

/-- Bytes taken without a whole accepted frame, after refused offers. -/
theorem Untaken.settles_shaky (h : Untaken offers) (hc : Carries offers fields) (ho : o.shaky) :
    Settles (o :: offers) .indeterminatePartial where
  accepted := by
    refine iff_of_false (by decide) ?_
    rintro ⟨o', hmem, hf⟩
    rcases List.mem_cons.1 hmem with rfl | hmem
    · exact ho.2 hf
    · exact h.not_full hc ⟨o', hmem, hf⟩
  untouched hr := by simp at hr
  shaky := iff_of_true rfl ⟨o, List.mem_cons_self, ho⟩
  terminal := by decide

end Settling

/-! ### Histories -/

/-- What the history of a session satisfies. `current` is the token not yet told of, or `0`. -/
structure History (log : List TxEvent) (current tokenNext : UInt64) : Prop where
  /-- Tokens are below the next one. -/
  fresh : ∀ token ∈ submittedTokens log,
    token ≠ 0 ∧ (tokenNext = 0 ∨ token.toNat < tokenNext.toNat)
  submitted_nodup : (submittedTokens log).Nodup
  reported_nodup : (reportedTokens log).Nodup
  /-- A token is either the current one or has been told of. -/
  outstanding : ∀ token,
    token ∈ submittedTokens log ↔ token ≠ 0 ∧ token = current ∨ token ∈ reportedTokens log
  current_unreported : current ∉ reportedTokens log
  truthful : ∀ token resolution, .reported token resolution ∈ log →
    Settles (offersOf log token) resolution
  carries : ∀ token fields, .submitted token fields ∈ log → Carries (offersOf log token) fields
  /-- Only the newest offer of a frame can have taken anything. -/
  offered_once : ∀ token, token ≠ 0 → Untaken (offersOf log token).tail
  /-- Nothing is offered under a token before it is handed out. -/
  unoffered : ∀ token, token ≠ 0 → token ∉ submittedTokens log → offersOf log token = []

variable {log : List TxEvent}

theorem mem_submittedTokens {token : UInt64} :
    token ∈ submittedTokens log ↔ ∃ fields, .submitted token fields ∈ log := by
  rw [submittedTokens, List.mem_filterMap]
  constructor
  · rintro ⟨e, he, heq⟩
    cases e <;> simp_all
    exact ⟨_, he⟩
  · rintro ⟨fields, h⟩
    exact ⟨_, h, rfl⟩

theorem mem_reportedTokens {token : UInt64} :
    token ∈ reportedTokens log ↔ ∃ resolution, .reported token resolution ∈ log := by
  rw [reportedTokens, List.mem_filterMap]
  constructor
  · rintro ⟨e, he, heq⟩
    cases e <;> simp_all
    exact ⟨_, he⟩
  · rintro ⟨resolution, h⟩
    exact ⟨_, h, rfl⟩

theorem submitted_unique {token : UInt64} {fields fields' : FrameFields}
    (h : (submittedTokens log).Nodup) (hf : .submitted token fields ∈ log)
    (hf' : .submitted token fields' ∈ log) : fields = fields' := by
  induction log with
  | nil => simp at hf
  | cons e log ih =>
    have hmem := @mem_submittedTokens log token
    cases e with
    | submitted t f =>
      obtain ⟨hnot, hnd⟩ := List.nodup_cons.1 h
      rcases List.mem_cons.1 hf with heq | hm
      · rcases List.mem_cons.1 hf' with heq' | hm'
        · cases heq; cases heq'; rfl
        · cases heq; exact absurd (hmem.2 ⟨_, hm'⟩) hnot
      · rcases List.mem_cons.1 hf' with heq' | hm'
        · cases heq'; exact absurd (hmem.2 ⟨_, hm⟩) hnot
        · exact ih hnd hm hm'
    | _ =>
      exact ih h (List.mem_of_ne_of_mem (by simp) hf) (List.mem_of_ne_of_mem (by simp) hf')

section Rules

variable {log : List TxEvent} {current tokenNext token : UInt64} {fields : FrameFields}
  {resolution : TxResolution} {o : Offer}

/-- An event of another kind changes nothing. -/
theorem History.skip (h : History log current tokenNext) {e : TxEvent}
    (hs : submittedTokens [e] = []) (hr : reportedTokens [e] = [])
    (ho : ∀ token, offersOf [e] token = []) : History (e :: log) current tokenNext := by
  have hs' : submittedTokens (e :: log) = submittedTokens log := by
    rw [← List.singleton_append, submittedTokens, List.filterMap_append]
    exact congrArg (· ++ _) hs
  have hr' : reportedTokens (e :: log) = reportedTokens log := by
    rw [← List.singleton_append, reportedTokens, List.filterMap_append]
    exact congrArg (· ++ _) hr
  have ho' : ∀ token, offersOf (e :: log) token = offersOf log token := by
    intro token
    rw [← List.singleton_append, offersOf, List.filterMap_append]
    exact congrArg (· ++ _) (ho token)
  refine ⟨?_, ?_, ?_, ?_, ?_, ?_, ?_, ?_, ?_⟩
  · rw [hs']; exact h.fresh
  · rw [hs']; exact h.submitted_nodup
  · rw [hr']; exact h.reported_nodup
  · rw [hs', hr']; exact h.outstanding
  · rw [hr']; exact h.current_unreported
  · intro token resolution hmem
    rw [ho']
    rcases List.mem_cons.1 hmem with rfl | hmem
    · simp [reportedTokens] at hr
    · exact h.truthful token resolution hmem
  · intro token fields hmem
    rw [ho']
    rcases List.mem_cons.1 hmem with rfl | hmem
    · simp [submittedTokens] at hs
    · exact h.carries token fields hmem
  · intro token; rw [ho']; exact h.offered_once token
  · intro token; rw [ho', hs']; exact h.unoffered token

theorem nextId_cases (id : UInt64) : nextId id = 0 ∨ (nextId id).toNat = id.toNat + 1 := by
  unfold nextId
  split
  · exact .inl rfl
  · rename_i hne
    have := id.toNat_lt
    right
    rw [UInt64.toNat_add]
    exact Nat.mod_eq_of_lt (by simp; omega)

/-- A fresh token is handed out while none is outstanding. -/
theorem History.submitted (h : History log 0 tokenNext) (hn : tokenNext ≠ 0) :
    History (.submitted tokenNext fields :: log) tokenNext (nextId tokenNext) := by
  have hfresh : tokenNext ∉ submittedTokens log := by
    intro hmem
    rcases (h.fresh _ hmem).2 with h0 | hlt
    · exact hn h0
    · exact lt_irrefl _ hlt
  have hnew : ∀ token, (token ≠ 0 ∧ token = (0 : UInt64)) ↔ False := by
    intro token
    constructor
    · rintro ⟨h0, rfl⟩
      exact h0 rfl
    · exact False.elim
  refine ⟨?_, ?_, h.reported_nodup, ?_, ?_, ?_, ?_, h.offered_once, ?_⟩
  · intro token hmem
    rcases List.mem_cons.1 hmem with rfl | hmem
    · refine ⟨hn, (nextId_cases token).imp id fun heq => ?_⟩
      omega
    · obtain ⟨h0, hlt⟩ := h.fresh token hmem
      refine ⟨h0, (nextId_cases tokenNext).imp id fun heq => ?_⟩
      rcases hlt with hz | hlt
      · exact absurd hz hn
      · omega
  · exact List.nodup_cons.2 ⟨hfresh, h.submitted_nodup⟩
  · intro token
    have hout := h.outstanding token
    rw [hnew, false_or] at hout
    show token ∈ tokenNext :: submittedTokens log ↔
      token ≠ 0 ∧ token = tokenNext ∨ token ∈ reportedTokens log
    rw [List.mem_cons, hout]
    constructor
    · rintro (rfl | hmem)
      · exact .inl ⟨hn, rfl⟩
      · exact .inr hmem
    · rintro (⟨-, rfl⟩ | hmem)
      · exact .inl rfl
      · exact .inr hmem
  · intro hmem
    exact hfresh ((h.outstanding _).2 (.inr hmem))
  · intro token resolution hmem
    rcases List.mem_cons.1 hmem with heq | hmem
    · cases heq
    · exact h.truthful token resolution hmem
  · intro token fields' hmem
    rcases List.mem_cons.1 hmem with heq | hm
    · obtain ⟨rfl, -⟩ := TxEvent.submitted.inj heq
      show Carries (offersOf log token) _
      rw [h.unoffered token hn hfresh]
      simp [Carries]
    · exact h.carries token fields' hm
  · intro token h0 hmem
    exact h.unoffered token h0 fun hmem' => hmem (List.mem_cons_of_mem _ hmem')

theorem offersOf_offered_self (token : UInt64) (o : Offer) (log : List TxEvent) :
    offersOf (.offered token o.bytes o.status o.accepted :: log) token =
      o :: offersOf log token := by
  simp [offersOf]

theorem offersOf_offered_ne {token token' : UInt64} (h : token' ≠ token) (o : Offer)
    (log : List TxEvent) :
    offersOf (.offered token o.bytes o.status o.accepted :: log) token' = offersOf log token' := by
  simp [offersOf, h.symm]

/-- An untracked frame is offered. -/
theorem History.offered_untracked (h : History log current tokenNext) :
    History (.offered 0 o.bytes o.status o.accepted :: log) current tokenNext := by
  have hz : ∀ {token}, token ∈ submittedTokens log → token ≠ 0 := fun hmem => (h.fresh _ hmem).1
  refine ⟨h.fresh, h.submitted_nodup, h.reported_nodup, h.outstanding, h.current_unreported,
    ?_, ?_, ?_, ?_⟩
  · intro token resolution hmem
    have hmem := List.mem_of_ne_of_mem (by simp) hmem
    have hsub := (h.outstanding token).2 (.inr (mem_reportedTokens.2 ⟨_, hmem⟩))
    rw [offersOf_offered_ne (hz hsub)]
    exact h.truthful token resolution hmem
  · intro token fields hmem
    have hmem := List.mem_of_ne_of_mem (by simp) hmem
    rw [offersOf_offered_ne (hz (mem_submittedTokens.2 ⟨_, hmem⟩))]
    exact h.carries token fields hmem
  · intro token h0
    rw [offersOf_offered_ne h0]
    exact h.offered_once token h0
  · intro token h0 hmem
    rw [offersOf_offered_ne h0]
    exact h.unoffered token h0 hmem

/-- The current frame is offered, nothing of it having been taken before. -/
theorem History.offered (h : History log current tokenNext) (hc : current ≠ 0)
    (hf : .submitted current fields ∈ log) (ho : o.bytes = frameBytes fields)
    (hu : Untaken (offersOf log current)) :
    History (.offered current o.bytes o.status o.accepted :: log) current tokenNext := by
  refine ⟨h.fresh, h.submitted_nodup, h.reported_nodup, h.outstanding, h.current_unreported,
    ?_, ?_, ?_, ?_⟩
  · intro token resolution hmem
    have hm := List.mem_of_ne_of_mem (by simp) hmem
    have hne : token ≠ current := by
      rintro rfl
      exact h.current_unreported (mem_reportedTokens.2 ⟨_, hm⟩)
    rw [offersOf_offered_ne hne]
    exact h.truthful token resolution hm
  · intro token fields' hmem
    have hm := List.mem_of_ne_of_mem (by simp) hmem
    by_cases hne : token = current
    · subst hne
      rw [offersOf_offered_self]
      have hsame : fields' = fields := submitted_unique h.submitted_nodup hm hf
      subst hsame
      intro o' ho'
      rcases List.mem_cons.1 ho' with rfl | ho'
      · exact ho
      · exact h.carries _ _ hm o' ho'
    · rw [offersOf_offered_ne hne]
      exact h.carries token fields' hm
  · intro token h0
    by_cases hne : token = current
    · subst hne
      rw [offersOf_offered_self]
      exact hu
    · rw [offersOf_offered_ne hne]
      exact h.offered_once token h0
  · intro token h0 hmem
    have hne : token ≠ current := by
      intro heq
      rw [heq] at hmem
      exact hmem (mem_submittedTokens.2 ⟨fields, List.mem_cons_of_mem _ hf⟩)
    rw [offersOf_offered_ne hne]
    exact h.unoffered token h0 hmem

/-- The outcome of the current frame is told. -/
theorem History.reported (h : History log current tokenNext) (hc : current ≠ 0)
    (hs : Settles (offersOf log current) resolution) :
    History (.reported current resolution :: log) 0 tokenNext := by
  refine ⟨h.fresh, h.submitted_nodup, ?_, ?_, ?_, ?_, ?_, h.offered_once, h.unoffered⟩
  · exact List.nodup_cons.2 ⟨h.current_unreported, h.reported_nodup⟩
  · intro token
    show token ∈ submittedTokens log ↔
      token ≠ 0 ∧ token = 0 ∨ token ∈ current :: reportedTokens log
    rw [h.outstanding token, List.mem_cons]
    constructor
    · rintro (⟨-, rfl⟩ | hmem)
      · exact .inr (.inl rfl)
      · exact .inr (.inr hmem)
    · rintro (⟨h0, rfl⟩ | rfl | hmem)
      · exact absurd rfl h0
      · exact .inl ⟨hc, rfl⟩
      · exact .inr hmem
  · intro hmem
    rcases List.mem_cons.1 hmem with heq | hmem
    · exact hc heq.symm
    · exact (h.fresh 0 ((h.outstanding 0).2 (.inr hmem))).1 rfl
  · intro token resolution' hmem
    rcases List.mem_cons.1 hmem with heq | hmem
    · cases heq
      exact hs
    · exact h.truthful token resolution' hmem
  · intro token fields hmem
    exact h.carries token fields (List.mem_of_ne_of_mem (by simp) hmem)

end Rules

/-- A token is minted and not handed out. -/
theorem History.mint {current tokenNext : UInt64}
    (h : History log current tokenNext) (hn : tokenNext ≠ 0) :
    History log current (nextId tokenNext) := by
  refine { h with fresh := fun token hmem => ?_ }
  obtain ⟨h0, hlt⟩ := h.fresh token hmem
  refine ⟨h0, (nextId_cases tokenNext).imp id fun heq => ?_⟩
  have := hlt.resolve_left hn
  omega

/-! ### The invariant -/

/-- The part of a session that its tracked frame lives in. -/
structure Tracking where
  phase : TrackedPhase
  token : UInt64
  resolution : TxResolution
  intent : List IntentEntry
  txWire : List UInt8
  wireToken : UInt64
  claimed : Bool
  /-- The frames handed over under the token. -/
  frames : List FrameFields
  offers : List Offer

/-- The frames handed over under a token. -/
def framesOf (log : List TxEvent) (token : UInt64) : List FrameFields :=
  log.filterMap fun
    | .submitted t fields => if t = token then some fields else none
    | _ => none

def Session.tracking (s : Session) : Tracking where
  phase := s.trackedPhase
  token := s.trackedToken
  resolution := s.trackedResolution
  intent := s.intent
  txWire := s.txWire
  wireToken := s.txWireTrackedToken
  claimed := s.epochClaimed
  frames := framesOf s.log s.trackedToken
  offers := offersOf s.log s.trackedToken

/-- Nothing tracked is queued. -/
structure Tracking.Clear (t : Tracking) : Prop where
  wireToken : t.wireToken = 0
  intent : ∀ e ∈ t.intent, e.trackedToken = 0
  claimed : t.claimed = true → t.intent = [] ∧ t.txWire = []

/-- Where the tracked frame is, by phase. -/
inductive Tracking.Ok (t : Tracking) : Prop
  | free (phase : t.phase = .none) (token : t.token = 0) (clear : t.Clear)
  | intent {fields : FrameFields} (phase : t.phase = .intent) (token : t.token ≠ 0)
      (claimed : t.claimed = true) (frame : fields ∈ t.frames)
      (queue : t.intent = [{ fields, trackedToken := t.token }]) (wire : t.txWire = [])
      (wireToken : t.wireToken = 0) (untaken : Untaken t.offers)
  | wire {fields : FrameFields} (phase : t.phase = .wire) (token : t.token ≠ 0)
      (claimed : t.claimed = true) (frame : fields ∈ t.frames) (queue : t.intent = [])
      (wire : t.txWire = frameBytes fields) (wireToken : t.wireToken = t.token)
      (untaken : Untaken t.offers)
  | terminal (phase : t.phase = .terminal) (token : t.token ≠ 0) (clear : t.Clear)
      (settles : Settles t.offers t.resolution)

/-- Epochs are below the next one and never handed out twice. -/
structure EpochsOk (log : List TxEvent) (epochNext : UInt64) : Prop where
  nodup : (claimedEpochs log).Nodup
  fresh : ∀ id ∈ claimedEpochs log, id ≠ 0 ∧ (epochNext = 0 ∨ id.toNat < epochNext.toNat)

/-- The invariant of a control session. -/
structure Sound (s : Session) : Prop where
  attached : s.stream = true ↔ s.state = .bound
  claim : s.epochClaimed = true →
    s.state = .bound ∧ s.epochActive ≠ 0 ∧ s.epochBoundGen = s.boundGeneration
  slot : s.tracking.Ok
  history : History s.log s.trackedToken s.tokenNext
  epochs : EpochsOk s.log s.epochNext

theorem mem_framesOf {token : UInt64} {fields : FrameFields} :
    fields ∈ framesOf log token ↔ .submitted token fields ∈ log := by
  rw [framesOf, List.mem_filterMap]
  constructor
  · rintro ⟨e, he, heq⟩
    cases e <;> simp_all
  · intro h
    exact ⟨_, h, by simp⟩

section Calls

variable {s : Session}

theorem sound_init : Sound {} where
  attached := by decide
  claim h := by simp at h
  slot := .free rfl rfl ⟨rfl, by simp [Session.tracking], fun _ => ⟨rfl, rfl⟩⟩
  history := by
    constructor <;> simp [submittedTokens, reportedTokens, offersOf, Untaken]
  epochs := ⟨by simp [claimedEpochs], by simp [claimedEpochs]⟩

/-! ### Receive -/

theorem Sound.rx (h : Sound s) (parser : Parser) (ingress : List FrameFields) :
    Sound { s with parser, ingress } :=
  ⟨h.attached, h.claim, h.slot, h.history, h.epochs⟩

theorem Sound.cold (h : Sound s) : Sound (rxOnlyColdApply s) := h.rx {} []

theorem Sound.ingress (h : Sound s) (view : FrameView) : Sound (ingressTryEnqueue s view) := by
  unfold ingressTryEnqueue
  split_ifs
  · exact h
  · exact h
  · exact ⟨h.attached, h.claim, h.slot, h.history.skip rfl rfl fun _ => rfl,
      ⟨h.epochs.nodup, h.epochs.fresh⟩⟩

/-! ### Fences -/

theorem Sound.carries (h : Sound s) {fields : FrameFields} (hf : fields ∈ s.tracking.frames) :
    Carries s.tracking.offers fields := h.history.carries _ _ (mem_framesOf.1 hf)

/-- A fence leaves nothing queued; the open frame, if there is one, takes the given outcome. -/
theorem fence_sound {r : TxResolution} (hist : History s.log s.trackedToken s.tokenNext)
    (hepochs : EpochsOk s.log s.epochNext)
    (hslot : s.trackedPhase = .none ∧ s.trackedToken = 0 ∨
      s.trackedPhase = .terminal ∧ s.trackedToken ≠ 0 ∧
        Settles s.tracking.offers s.trackedResolution ∨
      (s.trackedPhase = .intent ∨ s.trackedPhase = .wire) ∧ s.trackedToken ≠ 0 ∧
        Settles s.tracking.offers r) : Sound (fenceSession s r) := by
  unfold fenceSession trackedTerminalIfPending
  split_ifs with hopen
  · refine ⟨by simp [invalidateEpochClaim, discardQueues], by simp [invalidateEpochClaim,
      discardQueues], ?_, hist, hepochs⟩
    rcases hslot with ⟨hp, -⟩ | ⟨hp, -⟩ | ⟨-, htok, hset⟩
    · rw [hp] at hopen; simp at hopen
    · rw [hp] at hopen; simp at hopen
    · exact .terminal rfl htok ⟨rfl, by simp [Session.tracking, discardQueues], fun _ => ⟨rfl, rfl⟩⟩
        hset
  · refine ⟨by simp [invalidateEpochClaim, discardQueues], by simp [invalidateEpochClaim,
      discardQueues], ?_, hist, hepochs⟩
    rcases hslot with ⟨hp, htok⟩ | ⟨hp, htok, hset⟩ | ⟨hp, -⟩
    · exact .free hp htok ⟨rfl, by simp [Session.tracking, discardQueues], fun _ => ⟨rfl, rfl⟩⟩
    · exact .terminal hp htok ⟨rfl, by simp [Session.tracking, discardQueues],
        fun _ => ⟨rfl, rfl⟩⟩ hset
    · exact absurd hp hopen

theorem Sound.fence (h : Sound s) : Sound (fenceSession s .fencedUnaccepted) := by
  refine fence_sound h.history h.epochs ?_
  cases h.slot with
  | free phase token => exact .inl ⟨phase, token⟩
  | terminal phase token _ settles => exact .inr (.inl ⟨phase, token, settles⟩)
  | intent phase token _ frame _ _ _ untaken =>
    exact .inr (.inr ⟨.inl phase, token, untaken.settles (h.carries frame) (.inr rfl)⟩)
  | wire phase token _ frame _ _ _ untaken =>
    exact .inr (.inr ⟨.inr phase, token, untaken.settles (h.carries frame) (.inr rfl)⟩)

/-- A ticket that does not hold fences the session. -/
theorem validateLinkGenerationTicket_cases (s : Session) (ticket : Ticket) (r : TxResolution) :
    (validateLinkGenerationTicket s ticket r).2 = s ∨
      (validateLinkGenerationTicket s ticket r).1 ≠ .ok ∧
        (validateLinkGenerationTicket s ticket r).2 = fenceSession s r := by
  unfold validateLinkGenerationTicket
  split_ifs
  · exact .inl rfl
  · exact .inr ⟨nofun, rfl⟩
  · exact .inr ⟨nofun, rfl⟩
  · exact .inr ⟨nofun, rfl⟩
  · exact .inl rfl

theorem validateLinkGenerationTicket_ok {ticket : Ticket} {r : TxResolution} {s' : Session}
    (h : validateLinkGenerationTicket s ticket r = (.ok, s')) : s' = s := by
  rcases validateLinkGenerationTicket_cases s ticket r with heq | ⟨hne, -⟩
  · rw [h] at heq
    exact heq
  · rw [h] at hne
    exact absurd rfl hne

theorem Sound.ticket (h : Sound s) (ticket : Ticket) :
    Sound (validateLinkGenerationTicket s ticket .fencedUnaccepted).2 := by
  rcases validateLinkGenerationTicket_cases s ticket .fencedUnaccepted with heq | ⟨-, heq⟩
  · rw [heq]; exact h
  · rw [heq]; exact h.fence

theorem Sound.overflow (h : Sound s) : Sound (handleRxOverflow s).2 := by
  unfold handleRxOverflow
  split_ifs
  · exact h.cold
  · exact h.fence

theorem Sound.feed (h : Sound s) (data : List UInt8) : Sound (feedAndEnqueue s data).2 := by
  have hfold : ∀ (views : List FrameView) (s : Session), Sound s →
      Sound (views.foldl ingressTryEnqueue s) := by
    intro views
    induction views with
    | nil => exact fun s hs => hs
    | cons view views ih => exact fun s hs => ih _ (hs.ingress view)
  unfold feedAndEnqueue
  dsimp only
  split_ifs
  · exact hfold _ _ (h.rx _ _)
  · exact (hfold _ _ (h.rx _ _)).cold
  · exact (hfold _ _ (h.rx _ _)).fence

theorem Sound.pumpRx (h : Sound s) (spins : ℕ) (reads : ℕ → ReadAnswer) :
    Sound (pumpRx spins s reads).2 := by
  induction spins generalizing s reads with
  | zero => exact h
  | succ spins ih =>
    rw [Control.pumpRx]
    split
    · exact h
    · have ht := h.ticket (reads 0).ticket
      split
      · rename_i s' heq
        rw [heq] at ht
        have hfeed := ht.feed (reads 0).data
        split_ifs
        · exact ht.cold
        · exact ht.fence
        · exact ht.overflow
        · exact ht.fence
        · exact ht
        · exact ht.fence
        · exact ht
        · split
          · rename_i s'' heq'
            rw [heq'] at hfeed
            split_ifs
            · exact hfeed
            · exact ih hfeed _
          · rename_i s'' _ heq'
            rw [heq'] at hfeed
            split_ifs <;> exact hfeed
      · rename_i heq
        rw [heq] at ht
        exact ht

/-! ### Transmit -/

theorem encodeFrame_eq_some {fields : FrameFields} {capacity : ℕ} {bytes : List UInt8}
    (h : encodeFrame fields capacity = some bytes) : bytes = frameBytes fields := by
  unfold encodeFrame at h
  split_ifs at h
  exact (Option.some.inj h).symm

theorem Sound.encode (h : Sound s) : Sound (encodeIntentHeadToWire s).2 := by
  unfold encodeIntentHeadToWire
  split_ifs with hwire
  · exact h
  · have hwire : s.txWire = [] := not_not.1 hwire
    split
    · exact h
    · rename_i e rest hq
      split
      · exact h
      · rename_i bytes henc
        have hb := encodeFrame_eq_some henc
        have hq' : s.tracking.intent = e :: rest := hq
        refine ⟨h.attached, h.claim, ?_, h.history, h.epochs⟩
        cases h.slot with
        | free phase token clear =>
          have he : e.trackedToken = 0 := clear.intent e (by rw [hq']; exact List.mem_cons_self)
          refine .free ?_ token ⟨he, fun e' he' => ?_, fun hc => ?_⟩
          · show (if _ then _ else _) = _
            rw [if_neg fun hne => hne.1 he]
            exact phase
          · exact clear.intent e' (by rw [hq']; exact List.mem_cons_of_mem _ he')
          · exact absurd (hq'.symm.trans (clear.claimed hc).1) (by simp)
        | terminal phase token clear settles =>
          have he : e.trackedToken = 0 := clear.intent e (by rw [hq']; exact List.mem_cons_self)
          refine .terminal ?_ token ⟨he, fun e' he' => ?_, fun hc => ?_⟩ settles
          · show (if _ then _ else _) = _
            rw [if_neg fun hne => hne.1 he]
            exact phase
          · exact clear.intent e' (by rw [hq']; exact List.mem_cons_of_mem _ he')
          · exact absurd (hq'.symm.trans (clear.claimed hc).1) (by simp)
        | intent phase token claimed frame queue wire wireToken untaken =>
          rw [hq'] at queue
          obtain ⟨rfl, rfl⟩ := List.cons.inj queue
          refine .wire ?_ token claimed frame rfl hb rfl untaken
          show (if _ then _ else _) = _
          exact if_pos ⟨token, rfl, phase⟩
        | wire _ _ _ _ _ wire =>
          exact absurd (wire.symm.trans hwire) (frameBytes_ne_nil _)

theorem tracking_offerWire_offers (s : Session) (w : WriteAnswer) :
    (offerWire s w).tracking.offers =
      if s.txWireTrackedToken = s.trackedToken then
        { bytes := s.txWire, status := w.status, accepted := w.taken } :: s.tracking.offers
      else s.tracking.offers := by
  show offersOf (.offered s.txWireTrackedToken s.txWire w.status w.taken :: s.log) s.trackedToken =
    if _ then _ :: offersOf s.log s.trackedToken else offersOf s.log s.trackedToken
  split_ifs with heq
  · rw [heq]
    exact offersOf_offered_self _ ⟨s.txWire, w.status, w.taken⟩ _
  · exact offersOf_offered_ne (Ne.symm heq) ⟨s.txWire, w.status, w.taken⟩ _

/-- The history and epochs of a session that offers the tracked frame. -/
theorem Sound.history_offer (h : Sound s) (w : WriteAnswer) (hne : s.txWire ≠ []) :
    History (offerWire s w).log s.trackedToken s.tokenNext := by
  have huntracked : s.txWireTrackedToken = 0 →
      History (offerWire s w).log s.trackedToken s.tokenNext := by
    intro hz
    show History (.offered s.txWireTrackedToken s.txWire w.status w.taken :: s.log) _ _
    rw [hz]
    exact @History.offered_untracked _ _ _ ⟨s.txWire, w.status, w.taken⟩ h.history
  cases h.slot with
  | free _ _ clear => exact huntracked clear.wireToken
  | terminal _ _ clear _ => exact huntracked clear.wireToken
  | intent _ _ _ _ _ wire => exact absurd wire hne
  | wire _ token _ frame _ wire wireToken untaken =>
    have hwt : s.txWireTrackedToken = s.trackedToken := wireToken
    show History (.offered s.txWireTrackedToken s.txWire w.status w.taken :: s.log) _ _
    rw [hwt]
    exact @History.offered _ _ _ _ ⟨s.txWire, w.status, w.taken⟩ h.history token
      (mem_framesOf.1 frame) wire untaken

theorem Sound.epochs_offer (h : Sound s) (w : WriteAnswer) :
    EpochsOk (offerWire s w).log s.epochNext := ⟨h.epochs.nodup, h.epochs.fresh⟩

/-- An offer that is not the tracked frame's, or that takes nothing, changes nothing else. -/
theorem Sound.offer (h : Sound s) {w : WriteAnswer} (hne : s.txWire ≠ [])
    (hw : s.trackedPhase = .wire → w.taken = 0) : Sound (offerWire s w) := by
  refine ⟨h.attached, h.claim, ?_, h.history_offer w hne, h.epochs_offer w⟩
  have hoffers := tracking_offerWire_offers s w
  cases h.slot with
  | free phase token clear => exact .free phase token ⟨clear.wireToken, clear.intent, clear.claimed⟩
  | terminal phase token clear settles =>
    have hwt : s.txWireTrackedToken = 0 := clear.wireToken
    refine .terminal phase token ⟨clear.wireToken, clear.intent, clear.claimed⟩ ?_
    rw [hoffers, if_neg (by rw [hwt]; exact Ne.symm token)]
    exact settles
  | intent _ _ _ _ _ wire => exact absurd wire hne
  | wire phase token claimed frame queue wire wireToken untaken =>
    refine .wire phase token claimed frame queue wire wireToken ?_
    rw [hoffers, if_pos (show s.txWireTrackedToken = s.trackedToken from wireToken)]
    intro o ho
    rcases List.mem_cons.1 ho with rfl | ho
    · exact hw phase
    · exact untaken o ho

theorem Settles.current {offers : List Offer} (h : Settles offers .rawAcceptedThenFenced) :
    Settles offers .rawAcceptedCurrentEpoch where
  accepted := iff_of_true (.inl rfl) (h.accepted.1 (.inr rfl))
  untouched hr := by simp at hr
  shaky := iff_of_false (by decide) fun hs => absurd (h.shaky.2 hs) (by decide)
  terminal := by decide

/-- A whole frame that is not the tracked one was taken. -/
theorem Sound.flushAccepted_other (h : Sound s) (hp : s.trackedPhase ≠ .wire)
    (hne : s.txWire ≠ []) (w : WriteAnswer) : Sound (flushAccepted s w).2 := by
  have hclear : s.txWireTrackedToken = 0 ∧ s.tracking.Clear ∧
      (s.trackedPhase = .none ∨ s.trackedPhase = .terminal) := by
    cases h.slot with
    | free phase _ clear => exact ⟨clear.wireToken, clear, .inl phase⟩
    | terminal phase _ clear => exact ⟨clear.wireToken, clear, .inr phase⟩
    | intent _ _ _ _ _ wire => exact absurd wire hne
    | wire phase => exact absurd phase hp
  obtain ⟨hwt, clear, hphase⟩ := hclear
  have htracked : wireIsTracked s = false := by simp [wireIsTracked, hwt]
  have hclear' : ∀ resolution, ({ s with
      txWire := [], txWireTrackedToken := 0, trackedResolution := resolution } :
      Session).tracking.Clear := fun _ =>
    ⟨rfl, clear.intent, fun hc => ⟨(clear.claimed hc).1, rfl⟩⟩
  unfold flushAccepted
  rw [htracked, if_neg (by decide)]
  dsimp only
  have hfence := fence_sound (s := s) (r := .rawAcceptedThenFenced) h.history h.epochs (by
    cases h.slot with
    | free phase token => exact .inl ⟨phase, token⟩
    | terminal phase token _ settles => exact .inr (.inl ⟨phase, token, settles⟩)
    | intent _ _ _ _ _ wire => exact absurd wire hne
    | wire phase => exact absurd phase hp)
  split
  · rename_i s' heq
    obtain rfl := validateLinkGenerationTicket_ok heq
    split_ifs with hup
    · refine ⟨h.attached, h.claim, ?_, h.history, h.epochs⟩
      cases h.slot with
      | free phase => exact absurd (phase.symm.trans hup.1) (by decide)
      | terminal phase token _ settles =>
        have hres : s'.tracking.resolution = .rawAcceptedThenFenced := hup.2
        rw [hres] at settles
        exact .terminal phase token (hclear' _) settles.current
      | intent _ _ _ _ _ wire => exact absurd wire hne
      | wire phase => exact absurd phase hp
    · have hmark : markTrackedRawAcceptedCurrent { s' with txWire := [] } =
          { s' with txWire := [], txWireTrackedToken := 0 } := by
        unfold markTrackedRawAcceptedCurrent
        rw [show wireIsTracked { s' with txWire := [] } = wireIsTracked s' from rfl, htracked,
          if_neg (by decide)]
      rw [hmark]
      refine ⟨h.attached, h.claim, ?_, h.history, h.epochs⟩
      cases h.slot with
      | free phase token => exact .free phase token (hclear' _)
      | terminal phase token _ settles => exact .terminal phase token (hclear' _) settles
      | intent _ _ _ _ _ wire => exact absurd wire hne
      | wire phase => exact absurd phase hp
  · rename_i hnok heq
    rcases validateLinkGenerationTicket_cases s w.ticket .rawAcceptedThenFenced with hs | ⟨-, hs⟩
    · rw [heq] at hs
      exact hs ▸ h
    · rw [heq] at hs
      exact hs ▸ hfence

/-- The tracked frame was taken whole: from here on it is accepted, whatever the link does. -/
theorem Sound.flushAccepted_tracked (h : Sound s) (hp : s.trackedPhase = .wire) {w : WriteAnswer}
    (hok : w.status = .ok) (hlen : w.accepted = s.txWire.length) :
    Sound (flushAccepted (offerWire s w) w).2 := by
  cases h.slot with
  | free phase => exact absurd (phase.symm.trans hp) (by decide)
  | terminal phase => exact absurd (phase.symm.trans hp) (by decide)
  | intent phase => exact absurd (phase.symm.trans hp) (by decide)
  | wire phase token claimed frame queue wire wireToken untaken =>
    have hwt : s.txWireTrackedToken = s.trackedToken := wireToken
    have htok : s.trackedToken ≠ 0 := token
    have hne : s.txWire ≠ [] := by
      rw [show s.txWire = frameBytes _ from wire]
      exact frameBytes_ne_nil _
    have htaken : w.taken = s.txWire.length := by
      rw [WriteAnswer.taken, if_neg (by rw [hok]; decide), hlen]
    have hset : ∀ r, r = .rawAcceptedCurrentEpoch ∨ r = .rawAcceptedThenFenced →
        Settles (offerWire s w).tracking.offers r := by
      intro r hr
      rw [tracking_offerWire_offers, if_pos hwt]
      exact untaken.settles_full ⟨hok, htaken⟩ hr
    have htracked : wireIsTracked (offerWire s w) = true := by
      show (s.txWireTrackedToken != 0 && s.trackedToken == s.txWireTrackedToken
        && (s.trackedPhase == .wire || s.trackedPhase == .intent)) = true
      simp [hwt, htok, hp]
    have hhist := h.history_offer w hne
    have hepochs := h.epochs_offer w
    obtain ⟨hbound, -⟩ := h.claim claimed
    have hstream := h.attached.2 hbound
    unfold flushAccepted
    rw [htracked, if_pos rfl]
    dsimp only
    split
    · rename_i s' heq
      obtain rfl := validateLinkGenerationTicket_ok heq
      rw [if_pos ⟨rfl, rfl⟩]
      refine ⟨h.attached, h.claim, ?_, hhist, hepochs⟩
      refine .terminal rfl htok ⟨rfl, ?_, fun _ => ⟨queue, rfl⟩⟩ (hset _ (.inl rfl))
      show ∀ e ∈ s.intent, _
      rw [show s.intent = [] from queue]
      simp
    · rename_i hnok heq
      rcases validateLinkGenerationTicket_cases { offerWire s w with
        trackedPhase := .terminal, trackedResolution := .rawAcceptedThenFenced } w.ticket
        .rawAcceptedThenFenced with hs | ⟨-, hs⟩
      · -- the session is bound, so a ticket that changes nothing holds
        exfalso
        unfold validateLinkGenerationTicket at heq hs
        split_ifs at heq hs with h1
        · rcases h1 with h1 | h1
          · exact absurd (hstream.symm.trans h1) (by decide)
          · exact h1 hbound
        all_goals first
          | (have hstate := congrArg Session.state hs
             simp [fenceSession, discardQueues] at hstate
             exact absurd (hstate.trans hbound) (by decide))
          | exact hnok (congrArg Prod.fst heq).symm
      · rw [heq] at hs
        rw [hs]
        exact fence_sound hhist hepochs (.inr (.inl ⟨rfl, htok, hset _ (.inr rfl)⟩))

/-- Bytes of a frame were taken without the whole frame being answered `OK`. -/
theorem Sound.fence_shaky (h : Sound s) {w : WriteAnswer} (hne : s.txWire ≠ [])
    (howner : w.status ≠ .wrongOwner) (hfull : ¬ (w.status = .ok ∧ w.accepted = s.txWire.length))
    (hpos : w.accepted > 0) : Sound (fenceSession (offerWire s w) .indeterminatePartial) := by
  refine fence_sound (h.history_offer w hne) (h.epochs_offer w) ?_
  have hoffers := tracking_offerWire_offers s w
  cases h.slot with
  | free phase token => exact .inl ⟨phase, token⟩
  | terminal phase token clear settles =>
    have hwt : s.txWireTrackedToken = 0 := clear.wireToken
    refine .inr (.inl ⟨phase, token, ?_⟩)
    rw [hoffers, if_neg (by rw [hwt]; exact Ne.symm token)]
    exact settles
  | intent _ _ _ _ _ wire => exact absurd wire hne
  | wire phase token _ frame _ wire wireToken untaken =>
    refine .inr (.inr ⟨.inr phase, token, ?_⟩)
    rw [hoffers, if_pos (show s.txWireTrackedToken = s.trackedToken from wireToken)]
    have htaken : w.taken = w.accepted := if_neg howner
    refine untaken.settles_shaky (h.carries frame) ⟨?_, ?_⟩
    · show 0 < w.taken
      omega
    · rintro ⟨hok, hlen⟩
      exact hfull ⟨hok, htaken.symm.trans hlen⟩

theorem Sound.flush (h : Sound s) (w : WriteAnswer) : Sound (flushTxWire s w).2 := by
  unfold flushTxWire
  split
  · rename_i hnil
    refine ⟨h.attached, h.claim, ?_, h.history, h.epochs⟩
    cases h.slot with
    | free phase token clear => exact .free phase token ⟨rfl, clear.intent, clear.claimed⟩
    | terminal phase token clear settles =>
      exact .terminal phase token ⟨rfl, clear.intent, clear.claimed⟩ settles
    | intent phase token claimed frame queue wire wireToken untaken =>
      exact .intent phase token claimed frame queue wire rfl untaken
    | wire _ _ _ _ _ wire => exact absurd (wire.symm.trans hnil) (frameBytes_ne_nil _)
  · rename_i hne
    dsimp only
    split
    · rename_i howner
      exact h.offer hne fun _ => by rw [WriteAnswer.taken, if_pos howner]
    · rename_i howner
      split
      · rename_i hfull
        by_cases hp : s.trackedPhase = .wire
        · exact h.flushAccepted_tracked hp hfull.1 hfull.2
        · exact (h.offer hne fun hp' => absurd hp' hp).flushAccepted_other hp hne w
      · rename_i hfull
        split
        · rename_i hpos
          exact h.fence_shaky hne howner hfull hpos
        · rename_i hzero
          have hoff : Sound (offerWire s w) := h.offer hne fun _ => by
            rw [WriteAnswer.taken, if_neg howner]
            omega
          have ht := hoff.ticket w.ticket
          split
          · rename_i heq
            rw [heq] at ht
            split_ifs
            · exact ht
            · exact ht.fence
            · exact ht.fence
          · rename_i heq
            rw [heq] at ht
            exact ht

theorem Sound.pumpTx (h : Sound s) (io : PumpIo) : Sound (pumpTx s io).2 := by
  have henc := h.encode
  unfold Control.pumpTx
  split
  · rename_i s₁ heq
    rw [heq] at henc
    have hflush := henc.flush io.write
    split_ifs
    · split
      · rename_i heq₂
        rw [heq₂] at hflush
        exact hflush
      · rename_i s₂ heq₂
        rw [heq₂] at hflush
        have henc₂ := hflush.encode
        split_ifs
        · split
          · rename_i s₃ heq₃
            rw [heq₃] at henc₂
            split_ifs
            · exact henc₂.flush io.secondWrite
            · exact henc₂
          · rename_i heq₃
            rw [heq₃] at henc₂
            exact henc₂
        · exact hflush
      · rename_i heq₂
        rw [heq₂] at hflush
        exact hflush
    · exact henc
  · rename_i heq
    rw [heq] at henc
    exact henc

theorem Sound.pump (h : Sound s) (io : PumpIo) : Sound (pump s io).2 := by
  have ht := h.ticket io.pollTicket
  unfold Control.pump
  split
  · exact h
  · split
    · exact h
    · split
      · rename_i s' heq
        rw [heq] at ht
        have hrx := ht.pumpRx rxSpins io.reads
        split
        · exact ht.overflow
        · split
          · exact ht.fence
          · split
            · exact ht.fence
            · split
              · rename_i s₂ heq₂
                rw [heq₂] at hrx
                split
                · exact hrx
                · exact hrx.pumpTx io
              · rename_i heq₂
                rw [heq₂] at hrx
                exact hrx
      · rename_i heq
        rw [heq] at ht
        exact ht

/-! ### The other calls -/

/-- The slot of a session whose claim and queues are gone. -/
theorem Sound.slot_detached (h : Sound s) (hc : s.epochClaimed = false ∨ s.state ≠ .bound) :
    s.trackedPhase = .none ∧ s.trackedToken = 0 ∨
      s.trackedPhase = .terminal ∧ s.trackedToken ≠ 0 ∧
        Settles s.tracking.offers s.trackedResolution := by
  have hc : s.tracking.claimed ≠ true := by
    intro hclaim
    rcases hc with hc | hc
    · exact absurd (hclaim.symm.trans hc) (by decide)
    · exact hc (h.claim hclaim).1
  cases h.slot with
  | free phase token => exact .inl ⟨phase, token⟩
  | terminal phase token _ settles => exact .inr ⟨phase, token, settles⟩
  | intent _ _ claimed => exact absurd claimed hc
  | wire _ _ claimed => exact absurd claimed hc

theorem Sound.bind (h : Sound s) (io : BindIo) : Sound (bind s io).2 := by
  unfold Control.bind
  split_ifs with hbound
  · exact h
  · exact h
  · exact h
  · exact h
  · refine ⟨iff_of_true rfl rfl, nofun, ?_, h.history, h.epochs⟩
    rcases h.slot_detached (.inr hbound) with ⟨phase, token⟩ | ⟨phase, token, settles⟩
    · exact .free phase token ⟨rfl, by simp [Session.tracking, discardQueues], nofun⟩
    · exact .terminal phase token ⟨rfl, by simp [Session.tracking, discardQueues], nofun⟩ settles

theorem Sound.unbind (h : Sound s) : Sound (unbind s).2 := by
  unfold Control.unbind
  split_ifs
  · exact h
  · exact h
  · exact h.fence

theorem intentTryEnqueue_eq_some {fields : FrameFields} {token : UInt64} {s' : Session}
    (h : intentTryEnqueue s fields token = some s') :
    s' = { s with intent := s.intent ++ [{ fields, trackedToken := token }] } := by
  unfold intentTryEnqueue at h
  split_ifs at h
  exact (Option.some.inj h).symm

theorem Sound.submitTx (h : Sound s) (fields : FrameFields) : Sound (submitTx s fields).2 := by
  unfold Control.submitTx
  split_ifs with h1 h2 hclaim
  · exact h
  · exact h
  · exact h
  · exact h
  · split
    · exact h
    · rename_i s' henq
      rw [intentTryEnqueue_eq_some henq]
      have hclaim : s.epochClaimed = false := Bool.eq_false_iff.2 hclaim
      have hclear : s.tracking.Clear → ({ s with
          intent := s.intent ++ [{ fields, trackedToken := 0 }] } : Session).tracking.Clear := by
        intro clear
        refine ⟨clear.wireToken, fun e he => ?_, fun hc => ?_⟩
        · rcases List.mem_append.1 he with he | he
          · exact clear.intent e he
          · rw [List.mem_singleton.1 he]
        · exact absurd (hclaim.symm.trans hc) (by decide)
      refine ⟨h.attached, h.claim, ?_, h.history, h.epochs⟩
      cases h.slot with
      | free phase token clear => exact .free phase token (hclear clear)
      | terminal phase token clear settles => exact .terminal phase token (hclear clear) settles
      | intent _ _ claimed => exact absurd (hclaim.symm.trans claimed) (by decide)
      | wire _ _ claimed => exact absurd (hclaim.symm.trans claimed) (by decide)

theorem EpochsOk.claimed {epochNext : UInt64} (h : EpochsOk log epochNext)
    (hn : epochNext ≠ 0) : EpochsOk (.claimed epochNext :: log) (nextId epochNext) := by
  have hcases := nextId_cases epochNext
  constructor
  · refine List.nodup_cons.2 ⟨fun hmem => ?_, h.nodup⟩
    exact (h.fresh _ hmem).2.elim hn (lt_irrefl _)
  · intro id hmem
    rcases List.mem_cons.1 hmem with rfl | hmem
    · exact ⟨hn, hcases.imp_right fun heq => by omega⟩
    · obtain ⟨h0, hlt⟩ := h.fresh id hmem
      have := hlt.resolve_left hn
      exact ⟨h0, hcases.imp_right fun heq => by omega⟩

theorem Sound.epochBegin (h : Sound s) : Sound (logicalEpochBegin s).2.2 := by
  unfold logicalEpochBegin
  split_ifs with h1 h2 h3 hdirty htracked hnext
  · exact h
  · exact h
  · exact h
  · exact h
  · exact h
  · exact h
  · obtain ⟨hintent, hwire⟩ := not_or.1 hdirty
    obtain ⟨hphase, htoken⟩ := not_or.1 htracked
    have hphase := not_not.1 hphase
    have hintent := not_not.1 hintent
    refine Sound.cold ⟨h.attached, fun _ => ⟨not_not.1 h1, hnext, rfl⟩, ?_,
      h.history.skip rfl rfl fun _ => rfl, ?_⟩
    · exact .free hphase (not_not.1 htoken)
        ⟨by cases h.slot with
          | free _ _ clear => exact clear.wireToken
          | terminal _ _ clear => exact clear.wireToken
          | intent phase => exact absurd (phase.symm.trans hphase) (by decide)
          | wire phase => exact absurd (phase.symm.trans hphase) (by decide),
          by
            show ∀ e ∈ s.intent, _
            rw [hintent]
            simp, fun _ => ⟨hintent, not_not.1 hwire⟩⟩
    · exact h.epochs.claimed hnext

theorem Sound.epochEnd (h : Sound s) (epoch : LogicalEpoch) :
    Sound (logicalEpochEnd s epoch).2 := by
  unfold logicalEpochEnd
  split_ifs with h1 htracked
  · exact h
  · exact h
  · have hphase : s.trackedPhase = .none := not_not.1 (not_or.1 htracked).1
    refine ⟨h.attached, nofun, ?_, h.history, h.epochs⟩
    cases h.slot with
    | free phase token clear => exact .free phase token ⟨clear.wireToken, clear.intent, nofun⟩
    | terminal phase => exact absurd (phase.symm.trans hphase) (by decide)
    | intent phase => exact absurd (phase.symm.trans hphase) (by decide)
    | wire phase => exact absurd (phase.symm.trans hphase) (by decide)

theorem epochIsActiveMatch_claimed {epoch : LogicalEpoch} (h : epochIsActiveMatch s epoch = true) :
    s.epochClaimed = true := by
  unfold epochIsActiveMatch at h
  simp only [Bool.and_eq_true] at h
  exact h.1.1.1.1.1.1

theorem Sound.trackedSubmit (h : Sound s) (epoch : LogicalEpoch) (fields : FrameFields) :
    Sound (trackedSubmitTx s epoch fields).2.2 := by
  unfold trackedSubmitTx
  split_ifs with hepoch hphase hnext hgood
  · exact h
  · exact h
  · exact h
  · exact h
  · have hclaim := epochIsActiveMatch_claimed (Bool.not_eq_false _ ▸ hepoch)
    have hphase : s.trackedPhase = .none := not_not.1 hphase
    have hslot : s.trackedToken = 0 ∧ s.tracking.Clear := by
      cases h.slot with
      | free _ token clear => exact ⟨token, clear⟩
      | terminal phase => exact absurd (phase.symm.trans hphase) (by decide)
      | intent phase => exact absurd (phase.symm.trans hphase) (by decide)
      | wire phase => exact absurd (phase.symm.trans hphase) (by decide)
    obtain ⟨htoken, clear⟩ := hslot
    have hhist := h.history
    rw [htoken] at hhist
    dsimp only
    split
    · exact ⟨h.attached, h.claim, h.slot, h.history.mint hnext, h.epochs⟩
    · rename_i s' henq
      rw [intentTryEnqueue_eq_some henq]
      refine ⟨h.attached, h.claim, ?_, hhist.submitted hnext, ⟨h.epochs.nodup, h.epochs.fresh⟩⟩
      refine .intent rfl hnext hclaim (mem_framesOf.2 List.mem_cons_self) ?_
        (clear.claimed hclaim).2 clear.wireToken ?_
      · show s.intent ++ _ = _
        rw [show s.intent = [] from (clear.claimed hclaim).1]
        rfl
      · have hnew : s.tokenNext ∉ submittedTokens s.log := fun hmem =>
          (hhist.fresh _ hmem).2.elim hnext (lt_irrefl _)
        show Untaken (offersOf s.log s.tokenNext)
        rw [hhist.unoffered _ hnext hnew]
        simp [Untaken]

/-- The outcome of the tracked frame is told, and its slot given free. -/
theorem consume_sound {r : TxResolution} (hatt : s.stream = true ↔ s.state = .bound)
    (hclaim : s.epochClaimed = true →
      s.state = .bound ∧ s.epochActive ≠ 0 ∧ s.epochBoundGen = s.boundGeneration)
    (hclear : s.tracking.Clear) (hhist : History s.log s.trackedToken s.tokenNext)
    (hepochs : EpochsOk s.log s.epochNext) (htoken : s.trackedToken ≠ 0)
    (hset : Settles s.tracking.offers r) : Sound (consumeTracked s s.trackedToken r) :=
  ⟨hatt, hclaim, .free rfl rfl ⟨hclear.wireToken, hclear.intent, hclear.claimed⟩,
    hhist.reported htoken hset, ⟨hepochs.nodup, hepochs.fresh⟩⟩

theorem Sound.resolve (h : Sound s) (token : UInt64) (cancel : Bool) :
    Sound (txResolve s token cancel).2.2 := by
  unfold txResolve
  split_ifs with h0 hstale hterm hcancel hintent
  · exact h
  · exact h
  · -- a terminal frame is consumed
    have htok : s.trackedToken = token := not_not.1 (not_or.1 hstale).2
    cases h.slot with
    | terminal phase htoken clear settles =>
      rw [← htok]
      exact consume_sound h.attached h.claim clear h.history h.epochs htoken settles
    | free phase => exact absurd (phase.symm.trans hterm) (by decide)
    | intent phase => exact absurd (phase.symm.trans hterm) (by decide)
    | wire phase => exact absurd (phase.symm.trans hterm) (by decide)
  · have htok : s.trackedToken = token := not_not.1 (not_or.1 hstale).2
    cases h.slot with
    | free phase => exact absurd (phase.symm.trans hintent) (by decide)
    | terminal phase => exact absurd phase hterm
    | wire phase => exact absurd (phase.symm.trans hintent) (by decide)
    | intent phase htoken claimed frame queue wire wireToken untaken =>
      have hnil : (intentRemoveTrackedToken s token).intent = [] := by
        rw [intentRemoveTrackedToken, if_neg h0]
        show s.intent.filter _ = []
        rw [show s.intent = _ from queue, ← htok]
        simp [Session.tracking]
      have hsame : intentRemoveTrackedToken s token = { s with intent := [] } := by
        rw [← hnil, intentRemoveTrackedToken, if_neg h0]
      rw [hsame, ← htok]
      exact consume_sound (s := { s with intent := [] }) h.attached h.claim
        ⟨wireToken, by simp [Session.tracking], fun _ => ⟨rfl, wire⟩⟩ h.history h.epochs htoken
        (untaken.settles (h.carries frame) (.inl rfl))
  · have htok : s.trackedToken = token := not_not.1 (not_or.1 hstale).2
    cases h.slot with
    | free phase => exact absurd phase (not_or.1 hstale).1
    | terminal phase => exact absurd phase hterm
    | intent phase => exact absurd phase hintent
    | wire phase htoken claimed frame queue wire wireToken untaken =>
      rw [← htok]
      refine consume_sound (s := { s with txWire := [], txWireTrackedToken := 0 }) h.attached
        h.claim ⟨rfl, ?_, fun _ => ⟨queue, rfl⟩⟩ h.history h.epochs htoken
        (untaken.settles (h.carries frame) (.inl rfl))
      show ∀ e ∈ s.intent, _
      rw [show s.intent = [] from queue]
      simp
  · exact h

theorem Sound.rxCold (h : Sound s) (epoch : LogicalEpoch) : Sound (logicalRxCold s epoch).2 := by
  unfold logicalRxCold
  split_ifs
  · exact h
  · exact h.cold

theorem Sound.takeRx (h : Sound s) (capacity : ℕ) : Sound (takeRx s capacity).2.2 := by
  unfold Control.takeRx
  split_ifs
  · exact h
  · exact h
  · split
    · exact h
    · split_ifs
      · exact h
      · exact h.rx _ _

theorem Sound.call (h : Sound s) (c : Call) : Sound (s.call c) := by
  cases c with
  | bind io => exact h.bind io
  | unbind => exact h.unbind
  | epochBegin => exact h.epochBegin
  | epochEnd epoch => exact h.epochEnd epoch
  | submit fields => exact h.submitTx fields
  | trackedSubmit epoch fields => exact h.trackedSubmit epoch fields
  | pump io => exact h.pump io
  | resolve token cancel => exact h.resolve token cancel
  | rxCold epoch => exact h.rxCold epoch
  | takeRx capacity => exact h.takeRx capacity

end Calls

/-! ### Outcomes of runs -/

/-- A link that stays up. -/
def steadyTicket : Ticket := { g1 := 1, link := .up, g2 := 1 }

/-- A stream with nothing to read. -/
def quietIo (write : WriteAnswer) : PumpIo where
  pollStatus := .ok
  pollRxOverflow := false
  pollLinkDown := false
  pollTicket := steadyTicket
  reads := fun _ =>
    { status := .wouldBlock, length := 0, chunk := fun _ => 0, ticket := steadyTicket }
  write := write
  secondWrite := { status := .wouldBlock, accepted := 0, ticket := steadyTicket }

end Ninlil.Control
