import Ninlil.Control.Scan
import Ninlil.Control.Tracked

/-!
# What a pump leaves

The receive side of a control session, and how a pump ends for a session whose epoch is claimed.

* `RxOk`: the parser window is settled, and every queued frame was received and is of a known type;
* `feedAndEnqueue_ok`: a read of at most one chunk is always consumed;
* `meetsMalformedRead`: the pump reads a report that contradicts itself;
* `pump_claimed`: a claimed session is fenced, or stays claimed; an I/O error without a fence comes
  from a malformed read only.
-/

namespace Ninlil.Control

/-! ### Frames taken off the stream -/

theorem validateHeaderFields_known {header : List UInt8} {n : ℕ}
    (h : validateHeaderFields header = .ok n) : frameTypeIsKnown (header.getD 5 0) = true := by
  unfold validateHeaderFields at h
  split_ifs at h with h1 h2 h3 h4 h5 h6
  exact Bool.not_eq_false _ ▸ h3

/-- Every frame the scan finds is of a known type. -/
theorem scan_known (bytes : List UInt8) : ∀ view ∈ scan bytes, frameTypeIsKnown view.type = true := by
  induction bytes using scan.induct with
  | case1 bytes h => rw [scan_short h]; simp
  | case2 bytes h r hv ih =>
    rw [scan, dif_neg h, hv]
    exact ih
  | case3 bytes h n hv hn =>
    rw [scan, dif_neg h, hv]
    simp [hn]
  | case4 bytes h n hv hn hcrc ih =>
    rw [scan, dif_neg h, hv]
    simp only [hn, hcrc, if_false, if_true]
    intro view hmem
    rcases List.mem_cons.1 hmem with rfl | hmem
    · have hknown := validateHeaderFields_known hv
      have hget : (bytes.take headerBytes).getD 5 0 = bytes.getD 5 0 := by
        rw [List.getD_eq_getElem?_getD, List.getD_eq_getElem?_getD,
          List.getElem?_take_of_lt (by decide)]
      rw [hget] at hknown
      exact hknown
    · exact ih view hmem
  | case5 bytes h n hv hn hcrc ih =>
    rw [scan, dif_neg h, hv]
    simp only [hn, hcrc, if_false]
    exact ih

/-- The receive side of a session. -/
structure RxOk (s : Session) : Prop where
  settled : Settled s.parser.window
  known : ∀ fields ∈ s.ingress, frameTypeIsKnown fields.type = true
  logged : ∀ fields ∈ s.ingress, .received fields ∈ s.log

variable {s : Session}

variable {s' : Session}

theorem RxOk.reset (hp : s'.parser = {}) (hi : s'.ingress = []) : RxOk s' := by
  refine ⟨?_, ?_, ?_⟩
  · rw [hp]; exact settled_nil
  · rw [hi]; exact nofun
  · rw [hi]; exact nofun

theorem rxOk_init : RxOk {} := .reset rfl rfl

theorem rxOk_cold (s : Session) : RxOk (rxOnlyColdApply s) := .reset rfl rfl

theorem rxOk_fence (s : Session) (r : TxResolution) : RxOk (fenceSession s r) := .reset rfl rfl

theorem RxOk.congr (h : RxOk s) (hp : s'.parser = s.parser)
    (hi : s'.ingress = s.ingress) (hl : s.log ⊆ s'.log) : RxOk s' := by
  refine ⟨?_, ?_, ?_⟩
  · rw [hp]; exact h.settled
  · rw [hi]; exact h.known
  · rw [hi]; exact fun fields hmem => hl (h.logged fields hmem)

/-- What feeding changes of a session: only its receive side. -/
structure SameButRx (s s' : Session) : Prop where
  state : s'.state = s.state
  stream : s'.stream = s.stream
  boundGeneration : s'.boundGeneration = s.boundGeneration
  intent : s'.intent = s.intent
  txWire : s'.txWire = s.txWire
  wireToken : s'.txWireTrackedToken = s.txWireTrackedToken
  claimed : s'.epochClaimed = s.epochClaimed
  active : s'.epochActive = s.epochActive
  boundGen : s'.epochBoundGen = s.epochBoundGen
  phase : s'.trackedPhase = s.trackedPhase
  resolution : s'.trackedResolution = s.trackedResolution
  token : s'.trackedToken = s.trackedToken

theorem SameButRx.refl (s : Session) : SameButRx s s :=
  ⟨rfl, rfl, rfl, rfl, rfl, rfl, rfl, rfl, rfl, rfl, rfl, rfl⟩

theorem SameButRx.trans {s₁ s₂ s₃ : Session} (h : SameButRx s₁ s₂) (h' : SameButRx s₂ s₃) :
    SameButRx s₁ s₃ :=
  ⟨h'.state.trans h.state, h'.stream.trans h.stream, h'.boundGeneration.trans h.boundGeneration,
    h'.intent.trans h.intent, h'.txWire.trans h.txWire, h'.wireToken.trans h.wireToken,
    h'.claimed.trans h.claimed, h'.active.trans h.active, h'.boundGen.trans h.boundGen,
    h'.phase.trans h.phase, h'.resolution.trans h.resolution, h'.token.trans h.token⟩

theorem sameButRx_cold (s : Session) : SameButRx s (rxOnlyColdApply s) :=
  ⟨rfl, rfl, rfl, rfl, rfl, rfl, rfl, rfl, rfl, rfl, rfl, rfl⟩

theorem ingressTryEnqueue_rx (h : RxOk s) {view : FrameView}
    (hv : frameTypeIsKnown view.type = true) :
    RxOk (ingressTryEnqueue s view) ∧ SameButRx s (ingressTryEnqueue s view) := by
  unfold ingressTryEnqueue
  split_ifs
  · exact ⟨h, .refl s⟩
  · exact ⟨h, .refl s⟩
  · refine ⟨⟨h.settled, fun fields hmem => ?_, fun fields hmem => ?_⟩, ?_⟩
    · rcases List.mem_append.1 hmem with hmem | hmem
      · exact h.known fields hmem
      · rw [List.mem_singleton.1 hmem]
        exact hv
    · rcases List.mem_append.1 hmem with hmem | hmem
      · exact List.mem_cons_of_mem _ (h.logged fields hmem)
      · rw [List.mem_singleton.1 hmem]
        exact List.mem_cons_self
    · exact ⟨rfl, rfl, rfl, rfl, rfl, rfl, rfl, rfl, rfl, rfl, rfl, rfl⟩

/-- A chunk is consumed, and only the receive side changes. -/
theorem feedAndEnqueue_ok (h : RxOk s) {data : List UInt8} (hlen : data.length ≤ rxChunkBytes) :
    (feedAndEnqueue s data).1 = .ok ∧ RxOk (feedAndEnqueue s data).2 ∧
      SameButRx s (feedAndEnqueue s data).2 := by
  have hrest : (feedAll feedCalls s.parser data).2.2 = [] := feedAll_read h.settled hlen
  obtain ⟨hsettled, used, -, hscan⟩ := feedAll_scan feedCalls h.settled data
  have hknown : ∀ view ∈ (feedAll feedCalls s.parser data).1,
      frameTypeIsKnown view.type = true := by
    intro view hmem
    refine scan_known (s.parser.window ++ used ++ []) view ?_
    rw [hscan []]
    exact List.mem_append_left _ hmem
  have hfold : ∀ (views : List FrameView) (t : Session), RxOk t →
      (∀ view ∈ views, frameTypeIsKnown view.type = true) →
      RxOk (views.foldl ingressTryEnqueue t) ∧ SameButRx t (views.foldl ingressTryEnqueue t) := by
    intro views
    induction views with
    | nil => exact fun t ht _ => ⟨ht, .refl t⟩
    | cons view views ih =>
      intro t ht hviews
      obtain ⟨hrx, hsame⟩ := ingressTryEnqueue_rx ht (hviews view List.mem_cons_self)
      obtain ⟨hrx', hsame'⟩ := ih _ hrx fun v hv => hviews v (List.mem_cons_of_mem _ hv)
      exact ⟨hrx', hsame.trans hsame'⟩
  obtain ⟨hrx, hsame⟩ := hfold (feedAll feedCalls s.parser data).1
    { s with parser := (feedAll feedCalls s.parser data).2.1 } ⟨hsettled, h.known, h.logged⟩ hknown
  have heq : feedAndEnqueue s data = (.ok, (feedAll feedCalls s.parser data).1.foldl
      ingressTryEnqueue { s with parser := (feedAll feedCalls s.parser data).2.1 }) := by
    unfold feedAndEnqueue
    exact if_pos hrest
  rw [heq]
  exact ⟨rfl, hrx, hsame.state, hsame.stream, hsame.boundGeneration, hsame.intent, hsame.txWire,
    hsame.wireToken, hsame.claimed, hsame.active, hsame.boundGen, hsame.phase, hsame.resolution,
    hsame.token⟩

/-! ### How a pump ends -/

/-- The link still is the one the session was bound to. -/
def ticketHolds (s : Session) (ticket : Ticket) : Bool :=
  (validateLinkGenerationTicket s ticket .fencedUnaccepted).1 == .ok

/-- One of the reads of a pump contradicts itself. -/
def meetsMalformedRead (s : Session) : ℕ → (ℕ → ReadAnswer) → Bool
  | 0, _ => false
  | spins + 1, reads =>
    if (reads 0).status = .wrongOwner ∨ ticketHolds s (reads 0).ticket = false then false
    else if (reads 0).malformed then true
    else if (reads 0).status ≠ .ok ∨ (reads 0).length = 0 then false
    else meetsMalformedRead s spins fun i => reads (i + 1)

/-- A pump gets past its poll and meets a malformed read. -/
def pumpMeetsMalformedRead (s : Session) (io : PumpIo) : Bool :=
  s.state == .bound && s.stream && (io.pollStatus == .ok || io.pollStatus == .wouldBlock)
    && !io.pollRxOverflow && !io.pollLinkDown && ticketHolds s io.pollTicket
    && meetsMalformedRead s rxSpins io.reads

/-- The events a pump can add: received frames, and offers of the tracked frame. -/
def PumpEvent (token : UInt64) : TxEvent → Prop
  | .received _ => True
  | .offered t _ _ _ => t = token ∧ t ≠ 0
  | _ => False

/-- What every pump of a claimed session keeps. -/
structure Grown (s s' : Session) : Prop where
  token : s'.trackedToken = s.trackedToken
  log : ∃ added, s'.log = added ++ s.log ∧ ∀ e ∈ added, PumpEvent s.trackedToken e

theorem Grown.of_eq {s s' : Session} (ht : s'.trackedToken = s.trackedToken)
    (hl : s'.log = s.log) : Grown s s' := ⟨ht, [], by rw [hl]; rfl, by simp⟩

theorem Grown.trans {s₁ s₂ s₃ : Session} (h : Grown s₁ s₂) (h' : Grown s₂ s₃) : Grown s₁ s₃ := by
  obtain ⟨added, hl, he⟩ := h.log
  obtain ⟨added', hl', he'⟩ := h'.log
  refine ⟨h'.token.trans h.token, added' ++ added, by rw [hl', hl, List.append_assoc], ?_⟩
  intro e hmem
  rcases List.mem_append.1 hmem with hmem | hmem
  · rw [← h.token]
    exact he' e hmem
  · exact he e hmem

/-- The claim survived the pump. -/
structure StaysClaimed (s s' : Session) : Prop where
  state : s'.state = .bound
  claimed : s'.epochClaimed = true
  boundGeneration : s'.boundGeneration = s.boundGeneration
  active : s'.epochActive = s.epochActive
  boundGen : s'.epochBoundGen = s.epochBoundGen

theorem StaysClaimed.trans {s₁ s₂ s₃ : Session} (h : StaysClaimed s₁ s₂)
    (h' : StaysClaimed s₂ s₃) : StaysClaimed s₁ s₃ :=
  ⟨h'.state, h'.claimed, h'.boundGeneration.trans h.boundGeneration, h'.active.trans h.active,
    h'.boundGen.trans h.boundGen⟩

/-- The statuses of a pump that fenced its session. -/
def SessionStatus.lost : SessionStatus → Bool
  | .generationMismatch | .closed | .errLinkDown | .ioError => true
  | _ => false

/-- The statuses of a pump that kept its session. -/
def SessionStatus.mild : SessionStatus → Bool
  | .ok | .wouldBlock | .rxOverflow | .wrongOwner | .invalidArgument => true
  | _ => false

/-- A session with a claimed epoch: a frame settled under it was accepted under it. -/
structure ClaimedSession (s : Session) : Prop where
  sound : Sound s
  rx : RxOk s
  claimed : s.epochClaimed = true
  accepted : s.trackedPhase = .terminal → s.trackedResolution = .rawAcceptedCurrentEpoch

/-- How a part of a pump ends. -/
inductive Ending (s : Session) : SessionStatus × Session → Prop
  | fenced {st : SessionStatus} {s' : Session} (state : s'.state = .fenced) (rx : RxOk s')
      (status : st.lost = true) (grown : Grown s s') : Ending s (st, s')
  | claimed {st : SessionStatus} {s' : Session} (session : ClaimedSession s')
      (stays : StaysClaimed s s') (status : st.mild = true) (grown : Grown s s') :
      Ending s (st, s')

/-- A part of a pump that went on, followed by another. -/
theorem Ending.trans {s s₁ : Session} (hs : StaysClaimed s s₁) (hg : Grown s s₁)
    {r : SessionStatus × Session} (h : Ending s₁ r) : Ending s r := by
  cases h with
  | fenced state rx status grown => exact .fenced state rx status (hg.trans grown)
  | claimed session stays status grown =>
    exact .claimed session (hs.trans stays) status (hg.trans grown)

theorem trackedToken_fenceSession (s : Session) (r : TxResolution) :
    (fenceSession s r).trackedToken = s.trackedToken := by
  unfold fenceSession trackedTerminalIfPending
  split_ifs <;> rfl

theorem log_fenceSession (s : Session) (r : TxResolution) : (fenceSession s r).log = s.log := by
  unfold fenceSession trackedTerminalIfPending
  split_ifs <;> rfl

theorem state_fenceSession (s : Session) (r : TxResolution) :
    (fenceSession s r).state = .fenced := by
  unfold fenceSession trackedTerminalIfPending
  split_ifs <;> rfl

theorem ending_fence {s₀ s : Session} (hg : Grown s₀ s) {st : SessionStatus}
    (hst : st.lost = true) (r : TxResolution) : Ending s₀ (st, fenceSession s r) :=
  .fenced (state_fenceSession s r) (rxOk_fence s r) hst
    (hg.trans (.of_eq (trackedToken_fenceSession s r) (log_fenceSession s r)))

theorem ClaimedSession.state (h : ClaimedSession s) : s.state = .bound := (h.sound.claim h.claimed).1

theorem ClaimedSession.stream (h : ClaimedSession s) : s.stream = true :=
  h.sound.attached.2 h.state

theorem ClaimedSession.refl (h : ClaimedSession s) : StaysClaimed s s :=
  ⟨h.state, h.claimed, rfl, rfl, rfl⟩

/-- The ticket of a bound session holds or fences it. -/
theorem ticket_of_bound (hstream : s.stream = true) (hstate : s.state = .bound) (ticket : Ticket)
    (r : TxResolution) :
    validateLinkGenerationTicket s ticket r = (.ok, s) ∨
      ∃ st, st.lost = true ∧ st ≠ .ok ∧
        validateLinkGenerationTicket s ticket r = (st, fenceSession s r) := by
  have hnot : ¬ (s.stream = false ∨ s.state ≠ .bound) := by
    rw [hstream, hstate]
    decide
  unfold validateLinkGenerationTicket
  rw [if_neg hnot]
  split_ifs
  · exact .inr ⟨.generationMismatch, rfl, nofun, rfl⟩
  · exact .inr ⟨.closed, rfl, nofun, rfl⟩
  · exact .inr ⟨.errLinkDown, rfl, nofun, rfl⟩
  · exact .inl rfl

theorem ClaimedSession.ticket (h : ClaimedSession s) (ticket : Ticket) (r : TxResolution) :
    validateLinkGenerationTicket s ticket r = (.ok, s) ∨
      ∃ st, st.lost = true ∧ st ≠ .ok ∧
        validateLinkGenerationTicket s ticket r = (st, fenceSession s r) :=
  ticket_of_bound h.stream h.state ticket r

theorem ClaimedSession.stay (h : ClaimedSession s) {st : SessionStatus} (hst : st.mild = true) :
    Ending s (st, s) := .claimed h h.refl hst (.of_eq rfl rfl)

theorem ClaimedSession.feed (h : ClaimedSession s) (hs : SameButRx s s')
    (sound : Sound s') (rx : RxOk s') : ClaimedSession s' where
  sound := sound
  rx := rx
  claimed := hs.claimed.trans h.claimed
  accepted hp := hs.resolution.trans (h.accepted (hs.phase.symm.trans hp))

theorem ClaimedSession.cold (h : ClaimedSession s) : ClaimedSession (rxOnlyColdApply s) :=
  h.feed (sameButRx_cold s) h.sound.cold (rxOk_cold s)

theorem SameButRx.staysClaimed (h : ClaimedSession s) (hs : SameButRx s s') :
    StaysClaimed s s' :=
  ⟨hs.state.trans h.state, hs.claimed.trans h.claimed, hs.boundGeneration, hs.active, hs.boundGen⟩

theorem ticketHolds_congr (hs : SameButRx s s') (ticket : Ticket) :
    ticketHolds s' ticket = ticketHolds s ticket := by
  unfold ticketHolds validateLinkGenerationTicket
  rw [hs.stream, hs.state, hs.boundGeneration]
  split_ifs <;> rfl

theorem meetsMalformedRead_congr (hs : SameButRx s s') (spins : ℕ)
    (reads : ℕ → ReadAnswer) :
    meetsMalformedRead s' spins reads = meetsMalformedRead s spins reads := by
  induction spins generalizing reads with
  | zero => rfl
  | succ spins ih => simp only [meetsMalformedRead, ticketHolds_congr hs, ih]

theorem grown_feed (s : Session) (data : List UInt8) : Grown s (feedAndEnqueue s data).2 := by
  have henq : ∀ (t : Session) (view : FrameView), Grown t (ingressTryEnqueue t view) := by
    intro t view
    unfold ingressTryEnqueue
    split_ifs
    · exact .of_eq rfl rfl
    · exact .of_eq rfl rfl
    · refine ⟨rfl, [_], rfl, ?_⟩
      intro e he
      rw [List.mem_singleton.1 he]
      trivial
  have hfold : ∀ (views : List FrameView) (t : Session),
      Grown t (views.foldl ingressTryEnqueue t) := by
    intro views
    induction views with
    | nil => exact fun t => .of_eq rfl rfl
    | cons view views ih => exact fun t => (henq t view).trans (ih _)
  have hbase : Grown s { s with parser := (feedAll feedCalls s.parser data).2.1 } := .of_eq rfl rfl
  unfold feedAndEnqueue
  dsimp only
  split_ifs
  · exact hbase.trans (hfold _ _)
  · exact (hbase.trans (hfold _ _)).trans (.of_eq rfl rfl)
  · exact (hbase.trans (hfold _ _)).trans
      (.of_eq (trackedToken_fenceSession _ _) (log_fenceSession _ _))

theorem length_data (r : ReadAnswer) : r.data.length = r.length := by simp [ReadAnswer.data]

/-- A malformed read ended the pump: an I/O error, but no fence. -/
structure ReadFailed (s : Session) (r : SessionStatus × Session) : Prop where
  status : r.1 = .ioError
  session : ClaimedSession r.2
  same : SameButRx s r.2
  grown : Grown s r.2

/-- The receive half of a pump: a malformed read, or an ending with the session still bound. -/
theorem pumpRx_claimed (h : ClaimedSession s) (spins : ℕ) (reads : ℕ → ReadAnswer) :
    (meetsMalformedRead s spins reads = true ∧ ReadFailed s (pumpRx spins s reads)) ∨
    (meetsMalformedRead s spins reads = false ∧ Ending s (pumpRx spins s reads)) := by
  induction spins generalizing s reads with
  | zero => exact .inr ⟨rfl, h.stay rfl⟩
  | succ spins ih =>
    by_cases howner : (reads 0).status = .wrongOwner
    · right
      rw [pumpRx, if_pos howner, meetsMalformedRead, if_pos (.inl howner)]
      exact ⟨rfl, h.stay rfl⟩
    rcases h.ticket (reads 0).ticket .fencedUnaccepted with hok | ⟨st, hlost, hne, hbad⟩
    · have hholds : ticketHolds s (reads 0).ticket = true := by
        rw [ticketHolds, hok]
        rfl
      have hnot : ¬ ((reads 0).status = .wrongOwner ∨ ticketHolds s (reads 0).ticket = false) := by
        rw [hholds]
        simpa using howner
      rw [pumpRx, if_neg howner, hok, meetsMalformedRead, if_neg hnot]
      dsimp only
      by_cases hmal : (reads 0).malformed = true
      · left
        rw [if_pos hmal, if_pos hmal, if_pos h.claimed]
        exact ⟨rfl, rfl, h.cold, sameButRx_cold s, .of_eq rfl rfl⟩
      · rw [if_neg hmal, if_neg hmal]
        by_cases hread : (reads 0).status ≠ .ok ∨ (reads 0).length = 0
        · right
          rw [if_pos hread]
          refine ⟨rfl, ?_⟩
          split_ifs with h1 h2 h3 h4 h5
          · rw [handleRxOverflow, if_pos ⟨h.claimed, h.state⟩]
            exact .claimed h.cold ((sameButRx_cold s).staysClaimed h) rfl (.of_eq rfl rfl)
          · refine ending_fence (.of_eq rfl rfl) ?_ _
            rcases h2 with h2 | h2 <;> rw [h2] <;> rfl
          · exact h.stay rfl
          · exact ending_fence (.of_eq rfl rfl) rfl _
          · exact h.stay rfl
          · exact absurd (hread.resolve_right h5) h4
        · obtain ⟨hst, hlen⟩ := not_or.1 hread
          have hst : (reads 0).status = .ok := not_not.1 hst
          have hbound : (reads 0).data.length ≤ rxChunkBytes := by
            rw [length_data]
            by_contra hgt
            refine hmal ?_
            simp only [ReadAnswer.malformed, hst]
            simp
            omega
          obtain ⟨hfok, hfrx, hfsame⟩ := feedAndEnqueue_ok h.rx hbound
          have hgrown := grown_feed s (reads 0).data
          have hsound := h.sound.feed (reads 0).data
          rw [if_neg hread, if_neg (by rw [hst]; decide), if_neg (by rw [hst]; decide),
            if_neg (by rw [hst]; decide), if_neg (not_not.2 hst), if_neg hlen]
          cases hf : feedAndEnqueue s (reads 0).data with
          | mk st s' =>
            rw [hf] at hfok hfrx hfsame hgrown hsound
            dsimp only at hfok hfrx hfsame hgrown hsound
            subst hfok
            have hclaimed : ClaimedSession s' := h.feed hfsame hsound hfrx
            dsimp only
            rw [if_neg (not_not.2 hclaimed.state), ← meetsMalformedRead_congr hfsame]
            rcases ih hclaimed fun i => reads (i + 1) with ⟨hm, hfail⟩ | ⟨hm, hend⟩
            · exact .inl ⟨hm, hfail.status, hfail.session, hfsame.trans hfail.same,
                hgrown.trans hfail.grown⟩
            · exact .inr ⟨hm, hend.trans (hfsame.staysClaimed h) hgrown⟩
    · have hholds : ticketHolds s (reads 0).ticket = false := by
        rw [ticketHolds, hbad]
        simpa using hne
      right
      rw [meetsMalformedRead, if_pos (.inr hholds), pumpRx, if_neg howner, hbad]
      refine ⟨rfl, ?_⟩
      cases st with
      | ok => exact absurd rfl hne
      | _ => exact ending_fence (.of_eq rfl rfl) hlost _

/-- A frame on the wire of a claimed session is the tracked one. -/
theorem ClaimedSession.wire (h : ClaimedSession s) (hne : s.txWire ≠ []) :
    s.trackedPhase = .wire ∧ s.txWireTrackedToken = s.trackedToken ∧ s.trackedToken ≠ 0 := by
  cases h.sound.slot with
  | free _ _ clear => exact absurd (clear.claimed h.claimed).2 hne
  | terminal _ _ clear => exact absurd (clear.claimed h.claimed).2 hne
  | intent _ _ _ _ _ wire => exact absurd wire hne
  | wire phase token _ _ _ _ wireToken => exact ⟨phase, wireToken, token⟩

theorem ClaimedSession.encode (h : ClaimedSession s) :
    ClaimedSession (encodeIntentHeadToWire s).2 ∧ StaysClaimed s (encodeIntentHeadToWire s).2 ∧
      Grown s (encodeIntentHeadToWire s).2 ∧ (encodeIntentHeadToWire s).1.mild = true := by
  have hsound := h.sound.encode
  unfold encodeIntentHeadToWire at hsound ⊢
  split_ifs with hwire
  · exact ⟨h, h.refl, .of_eq rfl rfl, rfl⟩
  · rw [if_neg hwire] at hsound
    cases hq : s.intent with
    | nil => exact ⟨h, h.refl, .of_eq rfl rfl, rfl⟩
    | cons e rest =>
      rw [hq] at hsound
      dsimp only at hsound ⊢
      cases henc : encodeFrame e.fields maxBytes with
      | none => exact ⟨h, h.refl, .of_eq rfl rfl, rfl⟩
      | some bytes =>
        rw [henc] at hsound
        refine ⟨⟨hsound, h.rx.congr rfl rfl (List.Subset.refl _), h.claimed, ?_⟩,
          ⟨h.state, h.claimed, rfl, rfl, rfl⟩, .of_eq rfl rfl, rfl⟩
        dsimp only
        split_ifs
        · exact nofun
        · exact h.accepted

theorem grown_offer (h : ClaimedSession s) (hne : s.txWire ≠ []) (w : WriteAnswer) :
    Grown s (offerWire s w) := by
  obtain ⟨-, hwire, htoken⟩ := h.wire hne
  refine ⟨rfl, [_], rfl, ?_⟩
  intro e he
  rw [List.mem_singleton.1 he]
  exact ⟨hwire, hwire ▸ htoken⟩

/-- A write that took nothing leaves the claim, with its offer in the history. -/
theorem ClaimedSession.offer (h : ClaimedSession s) (hne : s.txWire ≠ []) {w : WriteAnswer}
    (hw : w.taken = 0) : ClaimedSession (offerWire s w) ∧ StaysClaimed s (offerWire s w) :=
  ⟨⟨h.sound.offer hne fun _ => hw, h.rx.congr rfl rfl (List.subset_cons_self _ _), h.claimed,
    h.accepted⟩,
    ⟨h.state, h.claimed, rfl, rfl, rfl⟩⟩

/-- A write that took the whole frame settles it as accepted, or fences the session. -/
theorem ClaimedSession.flushAccepted (h : ClaimedSession s) (hne : s.txWire ≠ []) {w : WriteAnswer}
    (hok : w.status = .ok) (hlen : w.accepted = s.txWire.length) :
    Ending s (Control.flushAccepted (offerWire s w) w) := by
  obtain ⟨hphase, hwire, htoken⟩ := h.wire hne
  have hsound := h.sound.flushAccepted_tracked hphase hok hlen
  have htracked : wireIsTracked (offerWire s w) = true := by
    simp [wireIsTracked, offerWire, hphase, hwire, htoken]
  have hgrown : Grown s { offerWire s w with
      trackedPhase := .terminal, trackedResolution := .rawAcceptedThenFenced } :=
    (grown_offer h hne w).trans (.of_eq rfl rfl)
  unfold Control.flushAccepted at hsound ⊢
  rw [if_pos htracked] at hsound ⊢
  dsimp only at hsound ⊢
  rcases @ticket_of_bound { offerWire s w with
      trackedPhase := .terminal, trackedResolution := .rawAcceptedThenFenced }
      h.stream h.state w.ticket .rawAcceptedThenFenced with hok | ⟨st, hlost, hne', hbad⟩
  · rw [hok] at hsound ⊢
    dsimp only at hsound ⊢
    rw [if_pos ⟨rfl, rfl⟩] at hsound ⊢
    exact .claimed ⟨hsound, h.rx.congr rfl rfl (List.subset_cons_self _ _), h.claimed, fun _ => rfl⟩
      ⟨h.state, h.claimed, rfl, rfl, rfl⟩ rfl (hgrown.trans (.of_eq rfl rfl))
  · rw [hbad]
    split
    · rename_i heq
      cases heq
      exact absurd rfl hne'
    · rename_i heq
      cases heq
      exact ending_fence hgrown hlost _

theorem ClaimedSession.flush (h : ClaimedSession s) (w : WriteAnswer) :
    Ending s (flushTxWire s w) := by
  have hsound := h.sound.flush w
  unfold flushTxWire at hsound ⊢
  by_cases hne : s.txWire = []
  · rw [if_pos hne] at hsound ⊢
    exact .claimed ⟨hsound, h.rx.congr rfl rfl (List.Subset.refl _), h.claimed, h.accepted⟩
      ⟨h.state, h.claimed, rfl, rfl, rfl⟩ rfl (.of_eq rfl rfl)
  rw [if_neg hne]
  dsimp only
  have hgrown := grown_offer h hne w
  by_cases howner : w.status = .wrongOwner
  · rw [if_pos howner]
    obtain ⟨hc, hs⟩ := h.offer hne (w := w) (if_pos howner)
    exact .claimed hc hs rfl hgrown
  rw [if_neg howner]
  by_cases hfull : w.status = .ok ∧ w.accepted = s.txWire.length
  · rw [if_pos hfull]
    exact h.flushAccepted hne hfull.1 hfull.2
  rw [if_neg hfull]
  by_cases hpos : w.accepted > 0
  · rw [if_pos hpos]
    exact ending_fence hgrown rfl _
  rw [if_neg hpos]
  have htaken : w.taken = 0 := by
    rw [WriteAnswer.taken, if_neg howner]
    omega
  obtain ⟨hc, hs⟩ := h.offer hne htaken
  rcases hc.ticket w.ticket .fencedUnaccepted with hok | ⟨st, hlost, hne', hbad⟩
  · rw [hok]
    dsimp only
    split_ifs with h1 h2
    · exact .claimed hc hs rfl hgrown
    · refine ending_fence hgrown ?_ _
      rcases h2 with h2 | h2 <;> rw [h2] <;> rfl
    · exact ending_fence hgrown rfl _
  · rw [hbad]
    cases st with
    | ok => exact absurd rfl hne'
    | _ => exact ending_fence hgrown hlost _

/-- The second half of the transmit pump: the head intent encoded, and the wire flushed. -/
def encodeThenFlush (t : Session) (io : PumpIo) : SessionStatus × Session :=
  match encodeIntentHeadToWire t with
  | (.ok, s) => if s.txWire ≠ [] then flushTxWire s io.secondWrite else (.ok, s)
  | (status, s) => (status, s)

theorem ClaimedSession.pumpTx (h : ClaimedSession s) (io : PumpIo) :
    Ending s (Control.pumpTx s io) := by
  have hsecond : ∀ t : Session, ClaimedSession t → Ending t (encodeThenFlush t io) := by
    intro t ht
    unfold encodeThenFlush
    obtain ⟨hc, hs, hg, hmild⟩ := ht.encode
    cases henc : encodeIntentHeadToWire t with
    | mk st t' =>
      rw [henc] at hc hs hg hmild
      dsimp only at hc hs hg hmild
      split
      · rename_i heq
        cases heq
        split_ifs
        · exact (hc.flush _).trans hs hg
        · exact .claimed hc hs rfl hg
      · rename_i heq
        cases heq
        exact .claimed hc hs hmild hg
  obtain ⟨hc, hs, hg, hmild⟩ := h.encode
  unfold Control.pumpTx
  cases henc : encodeIntentHeadToWire s with
  | mk st t =>
    rw [henc] at hc hs hg hmild
    dsimp only at hc hs hg hmild
    split
    · rename_i heq
      cases heq
      split_ifs with hwork
      · have hflush := hc.flush io.write
        cases hf : flushTxWire t io.write with
        | mk st' t' =>
          rw [hf] at hflush
          have hend := hflush.trans hs hg
          split
          · rename_i heq
            cases heq
            exact hend
          · rename_i heq
            cases heq
            split_ifs with hmore
            · cases hflush with
              | fenced state => exact absurd (state.symm.trans hmore.1) (by decide)
              | claimed session stays _ grown =>
                exact (hsecond _ session).trans (hs.trans stays) (hg.trans grown)
            · exact hend
          · rename_i heq
            cases heq
            exact hend
      · exact .claimed hc hs rfl hg
    · rename_i heq
      cases heq
      exact .claimed hc hs hmild hg

/-- **How a pump of a claimed session ends**: with a malformed read, with a fence, or with the
claim unharmed. -/
theorem pump_claimed (h : ClaimedSession s) (io : PumpIo) :
    (pumpMeetsMalformedRead s io = true ∧ ReadFailed s (pump s io)) ∨
    (pumpMeetsMalformedRead s io = false ∧ Ending s (pump s io)) := by
  have hgo : ¬ (s.state ≠ .bound ∨ s.stream = false) := by
    rw [h.stream, h.state]
    decide
  unfold pump pumpMeetsMalformedRead
  rw [if_neg hgo, h.state, h.stream]
  by_cases howner : io.pollStatus = .wrongOwner
  · right
    rw [if_pos howner, howner]
    exact ⟨rfl, h.stay rfl⟩
  rw [if_neg howner]
  rcases h.ticket io.pollTicket .fencedUnaccepted with hok | ⟨st, hlost, hne, hbad⟩
  · have hholds : ticketHolds s io.pollTicket = true := by
      rw [ticketHolds, hok]
      rfl
    rw [hok, hholds]
    dsimp only
    by_cases hover : io.pollStatus = .rxOverflow ∨ io.pollRxOverflow = true
    · right
      rw [if_pos hover, handleRxOverflow, if_pos ⟨h.claimed, h.state⟩]
      refine ⟨?_, .claimed h.cold ((sameButRx_cold s).staysClaimed h) rfl (.of_eq rfl rfl)⟩
      rcases hover with hover | hover <;> simp [hover]
    rw [if_neg hover]
    by_cases hdown : io.pollStatus = .errLinkDown ∨ io.pollLinkDown = true
    · right
      rw [if_pos hdown]
      refine ⟨?_, ending_fence (.of_eq rfl rfl) rfl _⟩
      rcases hdown with hdown | hdown <;> simp [hdown]
    rw [if_neg hdown]
    by_cases hpoll : io.pollStatus ≠ .ok ∧ io.pollStatus ≠ .wouldBlock
    · right
      rw [if_pos hpoll]
      refine ⟨by simp [hpoll.1, hpoll.2], ending_fence (.of_eq rfl rfl) ?_ _⟩
      split_ifs <;> rfl
    rw [if_neg hpoll]
    have hcond : (io.pollStatus == .ok || io.pollStatus == .wouldBlock) = true := by
      by_contra hc
      simp only [Bool.or_eq_true, beq_iff_eq, not_or] at hc
      exact hpoll hc
    rw [hcond, Bool.eq_false_iff.2 (not_or.1 hover).2, Bool.eq_false_iff.2 (not_or.1 hdown).2]
    rcases pumpRx_claimed h rxSpins io.reads with ⟨hm, hfail⟩ | ⟨hm, hend⟩
    · left
      cases hrx : pumpRx rxSpins s io.reads with
      | mk st s' =>
        rw [hrx] at hfail
        have hst : st = .ioError := hfail.status
        subst hst
        exact ⟨by rw [hm]; rfl, hfail⟩
    · right
      rw [hm]
      refine ⟨rfl, ?_⟩
      cases hrx : pumpRx rxSpins s io.reads with
      | mk st s' =>
        rw [hrx] at hend
        split
        · rename_i heq
          cases heq
          cases hend with
          | fenced _ _ status => exact absurd status (by decide)
          | claimed session stays _ grown =>
            rw [if_neg (not_not.2 session.state)]
            exact (session.pumpTx io).trans stays grown
        · rename_i heq
          cases heq
          exact hend
  · have hholds : ticketHolds s io.pollTicket = false := by
      rw [ticketHolds, hbad]
      simpa using hne
    right
    rw [hbad, hholds]
    refine ⟨by simp, ?_⟩
    cases st with
    | ok => exact absurd rfl hne
    | _ => exact ending_fence (.of_eq rfl rfl) hlost _

end Ninlil.Control
