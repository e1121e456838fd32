import Ninlil.Control.Coupled

/-!
# Planned messages

What a session queues and hands over is accounted for in its history: a `HELLO` by the request it
was planned for, a `HELLO_ACK` with result `OK` by the acknowledged pair.

* `Accounted`: a message agrees with the history of its sender;
* `Plans`: what one change does to the queue of actions;
* `Planned`: the invariant of the queue and of the frames handed over;
* `planned_run`: it holds in every run.
-/

namespace Ninlil.Control

/-- A handshake message agrees with the role and the history of its sender. -/
def Accounted (role : Role) (trace : List SessionEvent) (m : Message) : Prop :=
  match m.body with
  | .hello .. => role = .controller ∧ .requested m.requestId ∈ trace
  | .helloAck _ _ result _ => role = .cell ∧ (result = helloOk →
      .acknowledged m.requestId m.sessionGeneration m.sessionCookie ∈ trace)
  | _ => True

theorem Accounted.mono {role : Role} {trace trace' : List SessionEvent} {m : Message}
    (h : Accounted role trace m) (hsub : trace ⊆ trace') : Accounted role trace' m := by
  unfold Accounted at h ⊢
  split at h
  · exact ⟨h.1, hsub h.2⟩
  · exact ⟨h.1, fun hr => hsub (h.2 hr)⟩
  · exact h

/-- A queued action: its message is accounted for, and it is no `RESET`. -/
structure TxAction.Ok (role : Role) (trace : List SessionEvent) (a : TxAction) : Prop where
  kind : a.kind ≠ .reset
  message : ∀ m, a.message = some m → Accounted role trace m

theorem TxAction.Ok.mono {role : Role} {trace trace' : List SessionEvent} {a : TxAction}
    (h : a.Ok role trace) (hsub : trace ⊆ trace') : a.Ok role trace' :=
  ⟨h.kind, fun m hm => (h.message m hm).mono hsub⟩

/-- What a change does to the queue: it keeps actions, and adds accounted ones. -/
structure Plans (s s' : LogicalSession) : Prop where
  role : s'.role = s.role
  trace : s.trace ⊆ s'.trace
  actions : ∀ a ∈ s'.actions, a ∈ s.actions ∨ a.Ok s'.role s'.trace
  room : s.actions.length ≤ txActionMax → s'.actions.length ≤ txActionMax

section Changes

variable {s s' : LogicalSession}

theorem Plans.refl (s : LogicalSession) : Plans s s :=
  ⟨rfl, fun _ h => h, fun _ h => .inl h, id⟩

theorem Plans.trans {s₁ s₂ s₃ : LogicalSession} (h : Plans s₁ s₂) (h' : Plans s₂ s₃) :
    Plans s₁ s₃ := by
  refine ⟨h'.role.trans h.role, fun e he => h'.trace (h.trace he), fun a ha => ?_,
    fun hroom => h'.room (h.room hroom)⟩
  rcases h'.actions a ha with ha | hok
  · rcases h.actions a ha with ha | hok
    · exact .inl ha
    · right
      rw [h'.role]
      exact hok.mono h'.trace
  · exact .inr hok

/-- A change that leaves queue, role and history alone. -/
theorem Plans.of_same (hr : s'.role = s.role) (ht : s'.trace = s.trace)
    (ha : s'.actions = s.actions) : Plans s s' :=
  ⟨hr, by rw [ht]; exact fun _ h => h, by rw [ha]; exact fun _ h => .inl h, by rw [ha]; exact id⟩

/-- A change that empties the queue. -/
theorem Plans.of_empty (hr : s'.role = s.role) (ht : s'.trace = s.trace) (ha : s'.actions = []) :
    Plans s s' :=
  ⟨hr, by rw [ht]; exact fun _ h => h, by rw [ha]; exact nofun, by
    rw [ha]; exact fun _ => Nat.zero_le _⟩

/-- A change that only filters the queue. -/
theorem Plans.of_filter {p : TxAction → Bool} (hr : s'.role = s.role) (ht : s'.trace = s.trace)
    (ha : s'.actions = s.actions.filter p) : Plans s s' := by
  refine ⟨hr, by rw [ht]; exact fun _ h => h, fun a hmem => ?_, fun hroom => ?_⟩
  · rw [ha] at hmem
    exact .inl (List.mem_of_mem_filter hmem)
  · rw [ha]
    exact (List.length_filter_le _ _).trans hroom

theorem plans_fence (s : LogicalSession) : Plans s (sessionToLinkUpNoSession s) :=
  .of_empty rfl rfl rfl

theorem plans_arm (s : LogicalSession) (deadline : UInt64) : Plans s (armRehello s deadline) :=
  .of_same rfl rfl rfl

theorem plans_overflowed (s : LogicalSession) : Plans s (overflowed s) := .of_same rfl rfl rfl

theorem plans_fenceAndRehello (s : LogicalSession) : Plans s (fenceAndRehello s) := by
  unfold fenceAndRehello
  dsimp only
  split_ifs
  · exact (plans_fence s).trans (plans_arm _ _)
  · exact plans_fence s

theorem plans_rxOnlyCold (s : LogicalSession) : Plans s (rxOnlyCold s) := .of_same rfl rfl rfl

theorem plans_alloc (s : LogicalSession) : Plans s (allocRequestId s).2 :=
  ⟨rfl, fun _ h => List.mem_cons_of_mem _ h, fun _ h => .inl h, id⟩

theorem plans_actionTryEnqueue {a : TxAction} (ha : a.Ok s.role s.trace) :
    Plans s (actionTryEnqueue s a) := by
  unfold actionTryEnqueue actionEnqueue
  split_ifs with hfull
  · exact .refl s
  · refine ⟨rfl, fun _ h => h, fun b hb => ?_, fun _ => ?_⟩
    · rcases List.mem_append.1 hb with hb | hb
      · exact .inl hb
      · rw [List.mem_singleton.1 hb]
        exact .inr ha
    · show (s.actions ++ [a]).length ≤ _
      rw [List.length_append, List.length_singleton]
      omega

theorem plans_reject (s : LogicalSession) : Plans s (noteLogicalReject s) := by
  refine noteLogicalReject_cases (P := Plans s) s (fun _ => .of_same rfl rfl rfl) ?_
  have hreset : Plans s { s with logicalRejectStreak := 0 } := .of_same rfl rfl rfl
  exact hreset.trans (plans_fenceAndRehello _)

theorem plans_ctrlError (s : LogicalSession) (code : UInt16) (requestId : UInt32) :
    Plans s (maybeEnqueueCtrlError s code requestId) := by
  refine maybeEnqueueCtrlError_cases (P := Plans s) s code requestId
    (fun _ => .of_same rfl rfl rfl) fun times _ _ => ?_
  have hrate : Plans s { s with ctrlErrorTimes := times } := .of_same rfl rfl rfl
  refine hrate.trans (plans_actionTryEnqueue ⟨nofun, ?_⟩)
  rintro m hm
  cases hm
  trivial

theorem plans_removeIndex (s : LogicalSession) (i : Fin inflightMax) :
    Plans s (inflightRemoveIndex s i) := by
  unfold inflightRemoveIndex
  split_ifs
  · exact .refl s
  · exact .of_same rfl rfl rfl

theorem plans_inflightAdd {kind : InflightKind} {requestId : UInt32} {echoToken : UInt64}
    (h : inflightAdd s kind requestId echoToken = some s') : Plans s s' := by
  obtain ⟨i, -, rfl⟩ := inflightAdd_eq_some h
  exact .of_same rfl rfl rfl

theorem plans_armHelloTimer (s : LogicalSession) (delayMs : UInt32) :
    Plans s (armHelloTimer s delayMs).2 := by
  have hjitter : Plans s (applyHelloJitter s delayMs).2 := by
    obtain ⟨n, hn⟩ := applyHelloJitter_draws s delayMs
    rw [hn]
    exact .of_same rfl rfl rfl
  unfold armHelloTimer
  dsimp only
  split
  · exact hjitter.trans (plans_overflowed _)
  · exact hjitter.trans (.of_same rfl rfl rfl)

theorem plans_continuityLoss (s : LogicalSession) : Plans s (continuityLoss s) := by
  unfold continuityLoss
  split_ifs
  · have hfenced := (plans_rxOnlyCold s).trans (plans_fence (rxOnlyCold s))
    unfold cellContinuityLoss
    dsimp only
    split
    · exact hfenced
    · exact (hfenced.trans (plans_alloc _)).trans (.of_same rfl rfl rfl)
  · exact (plans_rxOnlyCold s).trans (plans_fenceAndRehello _)

theorem plans_reset (s : LogicalSession) (code : UInt8) : Plans s (handleResetAccepted s code) := by
  unfold handleResetAccepted
  dsimp only
  split_ifs
  · split
    · exact (plans_fence s).trans (plans_overflowed _)
    · exact (plans_fence s).trans (plans_arm _ _)
  · exact plans_fence s
  · exact (plans_rxOnlyCold s).trans (plans_fenceAndRehello _)
  · exact plans_fenceAndRehello s
  · exact .refl s

theorem plans_onMatchedHelloAck (s : LogicalSession) (i : Fin inflightMax) (m : Message)
    (result : UInt16) : Plans s (onMatchedHelloAck s i m result) := by
  have hrem := plans_removeIndex s i
  unfold onMatchedHelloAck
  dsimp only
  split_ifs
  · refine hrem.trans ⟨rfl, fun _ h => List.mem_cons_of_mem _ h, fun _ h => .inl h, id⟩
  · refine .trans ?_ (plans_armHelloTimer _ _)
    exact hrem.trans (.of_same rfl rfl rfl)

theorem plans_onMatchedPong (s : LogicalSession) (i : Fin inflightMax) :
    Plans s (onMatchedPong s i) := by
  have hrem := plans_removeIndex s i
  unfold onMatchedPong
  dsimp only
  split
  · exact hrem.trans (.of_same rfl rfl rfl)
  · exact hrem.trans (.of_same rfl rfl rfl)

/-- A `HELLO` is answered by an acknowledgement that the history accounts for. -/
theorem plans_plan (hrole : s.role = .cell) {requestId : UInt32} (hp : HelloPlan s requestId s') :
    Plans s s' := by
  cases hp with
  | full => exact plans_reject s
  | busy room =>
    refine ⟨rfl, fun _ h => h, fun a ha => ?_, fun _ => ?_⟩
    · rcases List.mem_append.1 ha with ha | ha
      · exact .inl ha
      · rw [List.mem_singleton.1 ha]
        refine .inr ⟨nofun, ?_⟩
        rintro m hm
        cases hm
        exact ⟨hrole, nofun⟩
    · show (s.actions ++ [_]).length ≤ _
      rw [List.length_append, List.length_singleton]
      omega
  | ok room =>
    refine ⟨rfl, fun _ h => List.mem_cons_of_mem _ h, fun a ha => ?_, fun _ => ?_⟩
    · rcases List.mem_append.1 ha with ha | ha
      · exact .inl ha
      · rw [List.mem_singleton.1 ha]
        refine .inr ⟨nofun, ?_⟩
        rintro m hm
        cases hm
        exact ⟨hrole, fun _ => List.mem_cons_self⟩
    · show (s.actions ++ [_]).length ≤ _
      rw [List.length_append, List.length_singleton]
      omega

theorem plans_cancel (s : LogicalSession) : Plans s (cancelPendingHelloAckActions s) :=
  .of_filter rfl rfl rfl

theorem plans_readyForHello (s : LogicalSession) (fenceFirst : Bool) :
    Plans s (readyForHello s fenceFirst) := by
  unfold readyForHello
  refine .trans ?_ (plans_cancel _)
  split_ifs
  · exact .of_empty rfl rfl rfl
  · exact .of_same rfl rfl rfl

theorem plans_onValidHelloCell (hrole : s.role = .cell) (requestId : UInt32) (fenceFirst : Bool) :
    Plans s (onValidHelloCell s requestId fenceFirst) := by
  have hready := plans_readyForHello s fenceFirst
  exact hready.trans (plans_plan (hready.role.trans hrole) (onValidHelloCell_plan s _ _))

theorem plans_accept (s : LogicalSession) (seq : UInt32) : Plans s (acceptRxSequence s seq) :=
  .of_same rfl rfl rfl

theorem plans_bootstrapRestart (hrole : s.role = .cell) (seq : UInt32) (m : Message) :
    Plans s (bootstrapRestart s seq m) := by
  unfold bootstrapRestart
  dsimp only
  have hcleared : Plans s (clearNotice (clearOrdinaryActions (dropAllInflight (clearActive s)))) :=
    .of_empty rfl rfl rfl
  have hbase := (hcleared.trans (plans_rxOnlyCold _)).trans (plans_accept _ seq)
  exact hbase.trans (plans_onValidHelloCell (hbase.role.trans hrole) _ _)

theorem Reaction.plans {fr : FrameFields} (h : Reaction s fr s') : Plans s s' := by
  have hacc := plans_accept s fr.sequence
  cases h with
  | rejected => exact plans_reject s
  | lost => exact plans_continuityLoss s
  | ignored => exact hacc.trans (plans_reject _)
  | answered code => exact (hacc.trans (plans_reject _)).trans (plans_ctrlError _ _ _)
  | hello role => exact hacc.trans (plans_onValidHelloCell (hacc.role.trans role) _ _)
  | halfOpen role => exact hacc.trans (plans_onValidHelloCell (hacc.role.trans role) _ _)
  | restart role => exact plans_bootstrapRestart role _ _
  | acked => exact hacc.trans (plans_onMatchedHelloAck _ _ _ _)
  | pinged =>
    refine hacc.trans (plans_actionTryEnqueue ⟨nofun, ?_⟩)
    rintro m hm
    cases hm
    trivial
  | ponged => exact hacc.trans (plans_onMatchedPong _ _)
  | reset => exact hacc.trans (plans_reset _ _)

end Changes

/-! ### Timers -/

section Timers

variable {s s' : LogicalSession}

theorem plans_removeKind (s : LogicalSession) (kind : InflightKind) :
    Plans s (inflightRemoveKind s kind) := by
  unfold inflightRemoveKind
  split
  · exact plans_removeIndex s _
  · exact .refl s

/-- The planned `HELLO` takes the place of the one before it; room for it was checked before. -/
theorem plans_planHello (hrole : s.role = .controller)
    (hroom : (s.actions.filter fun a => a.kind != .hello).length + 1 ≤ txActionMax) :
    Plans s (planHello s) := by
  refine .trans ?_ (plans_removeKind _ .hello)
  refine ⟨rfl, fun _ h => ?_, fun a ha => ?_, fun _ => ?_⟩
  · exact List.mem_cons_of_mem _ (List.mem_cons_of_mem _ h)
  · rcases List.mem_append.1 ha with ha | ha
    · exact .inl (List.mem_of_mem_filter ha)
    · rw [List.mem_singleton.1 ha]
      refine .inr ⟨nofun, ?_⟩
      rintro m hm
      cases hm
      exact ⟨hrole, List.mem_cons_self⟩
  · show (_ ++ [_]).length ≤ _
    rw [List.length_append, List.length_singleton]
    exact hroom

theorem plans_armPlannedHello (s : LogicalSession) (isRetry : Bool) :
    Plans s (armPlannedHello s isRetry).2 := by
  unfold armPlannedHello
  split_ifs
  · exact plans_armHelloTimer s _
  · refine .trans ?_ (plans_armHelloTimer _ _)
    exact .of_same rfl rfl rfl

theorem plans_scheduleControllerHello (hrole : s.role = .controller) (isRetry : Bool) :
    Plans s (scheduleControllerHello s isRetry).2 := by
  unfold scheduleControllerHello
  dsimp only
  split_ifs with hroom
  · exact .refl s
  · exact .refl s
  · have hplan := plans_planHello hrole (not_lt.1 hroom)
    split
    · exact hplan
    · rename_i planned hadd
      refine .trans (hplan.trans (plans_inflightAdd hadd)) ?_
      refine .trans ?_ (plans_armPlannedHello _ isRetry)
      exact .of_same rfl rfl rfl

theorem plans_runRehelloTimer (hrole : s.role = .controller) : Plans s (runRehelloTimer s) := by
  have hsched := plans_scheduleControllerHello hrole false
  unfold runRehelloTimer
  split_ifs
  · split
    · rename_i heq
      rw [heq] at hsched
      exact hsched.trans (.of_same rfl rfl rfl)
    · rename_i heq
      rw [heq] at hsched
      exact hsched
  · exact .of_same rfl rfl rfl
  · exact .refl s

theorem plans_runHelloTimer (hrole : s.role = .controller) : Plans s (runHelloTimer s) := by
  have hsched := plans_scheduleControllerHello hrole true
  unfold runHelloTimer
  split_ifs
  · split
    · rename_i heq
      rw [heq] at hsched
      exact hsched
    · rename_i heq
      rw [heq] at hsched
      exact hsched.trans (plans_armHelloTimer _ _)
  · exact .refl s

theorem plans_countMissedPong (s : LogicalSession) : Plans s (countMissedPong s) := by
  have hrem :
      Plans s (inflightRemoveKind { s with pongMissStreak := s.pongMissStreak + 1 } .ping) := by
    refine .trans ?_ (plans_removeKind _ .ping)
    exact .of_same rfl rfl rfl
  unfold countMissedPong
  dsimp only
  split
  · exact hrem.trans (.of_same rfl rfl rfl)
  · exact hrem.trans (.of_same rfl rfl rfl)

theorem plans_runPongTimeout (s : LogicalSession) : Plans s (runPongTimeout s) := by
  unfold runPongTimeout
  dsimp only
  split_ifs
  · exact ((plans_countMissedPong s).trans (plans_fence _)).trans (plans_arm _ _)
  · exact plans_countMissedPong s
  · exact .refl s

theorem plans_planPing (s : LogicalSession) : Plans s (planPing s) := by
  have hq := (plans_alloc s).trans (plans_actionTryEnqueue (s := (allocRequestId s).2)
    (a := { kind := .ping, requestId := (allocRequestId s).1, sessionGeneration := s.activeGeneration
            sessionCookie := s.activeCookie, echoToken := pingToken (allocRequestId s).1 s.nowMs })
    ⟨nofun, by rintro m hm; cases hm; trivial⟩)
  unfold planPing
  dsimp only
  generalize actionTryEnqueue (allocRequestId s).2 _ = q at hq
  cases hadd : inflightAdd q .ping (allocRequestId s).1 (pingToken (allocRequestId s).1 s.nowMs) with
  | none => exact hq
  | some t => exact hq.trans (plans_inflightAdd hadd)

theorem plans_runPingDispatch (s : LogicalSession) : Plans s (runPingDispatch s) := by
  have hfirst : Plans s (armFirstPing s) := by
    unfold armFirstPing
    split_ifs
    · exact .of_same rfl rfl rfl
    · exact .refl s
  have hdispatch : ∀ t : LogicalSession, Plans t (dispatchPing t) := by
    intro t
    unfold dispatchPing
    split
    · exact plans_overflowed t
    · split_ifs
      · exact .refl t
      · exact (plans_fence t).trans (plans_arm _ _)
      · exact plans_planPing t
      · exact .refl t
  unfold runPingDispatch
  split_ifs
  · exact .refl s
  · exact hfirst.trans (hdispatch _)
  · exact hfirst

theorem plans_runTimers (s : LogicalSession) : Plans s (runTimers s) := by
  unfold runTimers
  dsimp only
  by_cases hrole : s.role = .controller
  · have hre := plans_runRehelloTimer hrole
    have hhello := hre.trans (plans_runHelloTimer (hre.role.trans hrole))
    rw [if_neg (not_not.2 hrole)]
    split_ifs
    · exact (hhello.trans (plans_runPongTimeout _)).trans (plans_runPingDispatch _)
    · exact hhello
  · rw [if_pos hrole]
    exact .refl s

end Timers

/-! ### The invariant -/

/-- The queue is accounted for and fits, no ordinary `RESET` is tracked, and every frame handed over
is accounted for. -/
structure Planned (s : LogicalSession) : Prop where
  actions : ∀ a ∈ s.actions, a.Ok s.role s.trace
  room : s.actions.length ≤ txActionMax
  tracked : s.trackedKind = .ordinary → s.trackedTxKind ≠ .reset
  frames : ∀ token fields, .submitted token fields ∈ s.u3.log →
    ∃ m, decodeMessage fields.payload fields.type = .ok m ∧ Accounted s.role s.trace m

section Stages

variable {s s' : LogicalSession}

theorem Planned.of_plans (h : Planned s) (hp : Plans s s')
    (hk : s'.trackedKind = .ordinary → s.trackedKind = .ordinary ∧ s'.trackedTxKind = s.trackedTxKind)
    (hl : ∀ token fields, .submitted token fields ∈ s'.u3.log → .submitted token fields ∈ s.u3.log) :
    Planned s' where
  actions a ha := by
    rcases hp.actions a ha with ha | hok
    · rw [hp.role]
      exact (h.actions a ha).mono hp.trace
    · exact hok
  room := hp.room h.room
  tracked ho := by
    obtain ⟨ho', heq⟩ := hk ho
    rw [heq]
    exact h.tracked ho'
  frames token fields hmem := by
    obtain ⟨m, hd, hm⟩ := h.frames token fields (hl token fields hmem)
    rw [hp.role]
    exact ⟨m, hd, hm.mono hp.trace⟩

theorem Planned.local (h : Planned s) (hp : Plans s s') (hl : Local s s') : Planned s' := by
  have hkind : s'.trackedKind = s.trackedKind := congrArg TxSide.trackedKind hl.side
  have htx : s'.trackedTxKind = s.trackedTxKind := congrArg TxSide.trackedTxKind hl.side
  have hlog : s'.u3.log = s.u3.log := congrArg (fun t : TxSide => t.core.log) hl.side
  exact h.of_plans hp (fun ho => ⟨hkind.symm.trans ho, htx⟩) fun _ _ hmem => hlog ▸ hmem

/-- The message of an action is read back from its frame. -/
theorem decode_action {a : TxAction} {payload : List UInt8}
    (henc : encodeActionPayload a = some payload) :
    ∃ m, a.message = some m ∧ decodeMessage payload a.kind.ncg1Type = .ok m := by
  unfold encodeActionPayload at henc
  obtain ⟨m, hm, henc⟩ := Option.bind_eq_some_iff.1 henc
  have htype : requiredNcg1Type m.body.messageType = a.kind.ncg1Type := by
    unfold TxAction.message at hm
    dsimp only at hm
    split at hm
    · cases hm
    all_goals
      rename_i hk
      cases hm
      rw [hk]
      rfl
  exact ⟨m, hm, htype ▸ decodeMessage_encodeMessage henc⟩

theorem plans_exhaust (s : LogicalSession) : Plans s (applyTxSeqTerminalExhaust s) := by
  have hfence : Plans s (clearNotice (sessionToLinkUpNoSession s)) :=
    (plans_fence s).trans (.of_same rfl rfl rfl)
  have hcold : Plans s (rxOnlyCold { clearNotice (sessionToLinkUpNoSession s) with
      helloTimerArmed := false, nextTxSeq := 0 }) := by
    refine .trans ?_ (plans_rxOnlyCold _)
    exact hfence.trans (.of_same rfl rfl rfl)
  unfold applyTxSeqTerminalExhaust
  dsimp only
  split_ifs
  · exact hcold.trans ⟨rfl, fun _ h => List.mem_cons_of_mem _ h, fun _ h => .inl h, id⟩
  · exact hcold.trans ⟨rfl, fun _ h => List.mem_cons_of_mem _ h, fun _ h => .inl h, id⟩

theorem Planned.submission (h : Planned s) (hs : Submission s s') : Planned s' := by
  cases hs with
  | unchanged => exact h
  | exhausted untracked =>
    have htie := tie_applyTxSeqTerminalExhaust s
    have hkind : (applyTxSeqTerminalExhaust s).trackedKind = .none :=
      (congrArg Tie.trackedKind htie).trans untracked
    have hlog : (applyTxSeqTerminalExhaust s).u3.log = s.u3.log :=
      congrArg (fun t : Tie => t.core.log) htie
    refine h.of_plans (plans_exhaust s) (fun ho => ?_) fun _ _ hmem => hlog ▸ hmem
    exact absurd (hkind.symm.trans ho) (by decide)
  | @dropped a rest queue =>
    refine h.of_plans ⟨rfl, fun _ h => h, fun b hb => .inl ?_, fun hroom => ?_⟩
      (fun ho => ⟨ho, rfl⟩) fun _ _ h => h
    · rw [queue]; exact List.mem_cons_of_mem _ hb
    · rw [queue] at hroom
      exact (Nat.le_succ _).trans hroom
  | refused => exact h.of_plans (.of_same rfl rfl rfl) (fun ho => ⟨ho, rfl⟩) fun _ _ h => h
  | @notice n payload _ _ _ _ encoded =>
    refine ⟨h.actions, h.room, nofun, fun token fields hmem => ?_⟩
    rcases List.mem_cons.1 hmem with heq | hmem
    · cases heq
      exact ⟨n.message, decodeMessage_encodeMessage encoded, trivial⟩
    · exact h.frames token fields hmem
  | @action a rest payload _ _ _ queue encoded =>
    have hok := h.actions a (by rw [queue]; exact List.mem_cons_self)
    refine ⟨fun b hb => h.actions b (by rw [queue]; exact List.mem_cons_of_mem _ hb), ?_,
      fun _ => hok.kind, fun token fields hmem => ?_⟩
    · have hroom := h.room
      rw [queue] at hroom
      exact (Nat.le_succ _).trans hroom
    · rcases List.mem_cons.1 hmem with heq | hmem
      · cases heq
        obtain ⟨m, hm, hd⟩ := decode_action encoded
        exact ⟨m, hd, hok.message m hm⟩
      · exact h.frames token fields hmem

theorem plans_onRawAccepted (s : LogicalSession) : Plans s (onRawAccepted s) := by
  have hdeadline : ∀ (t : LogicalSession) (kind : InflightKind) (deadline : UInt64),
      Plans t (setInflightDeadline t kind deadline) := by
    intro t kind deadline
    unfold setInflightDeadline
    split
    · exact .refl t
    · exact .of_same rfl rfl rfl
  have hharvest : Plans s (harvestAccept s) :=
    ⟨rfl, fun _ h => List.mem_cons_of_mem _ h, fun _ h => .inl h, id⟩
  refine hharvest.trans ?_
  unfold onRawAccepted
  dsimp only
  generalize harvestAccept s = t
  split_ifs
  · exact .of_same rfl rfl rfl
  · split
    · unfold onAckAccepted
      split_ifs
      · exact .refl t
      · exact .of_same rfl rfl rfl
      · exact .of_same rfl rfl rfl
    · unfold onHelloAccepted
      split
      · exact plans_overflowed t
      · exact hdeadline t _ _
    · unfold onPingAccepted
      dsimp only
      split
      · exact .of_same rfl rfl rfl
      · refine .trans ?_ (hdeadline _ .ping _)
        exact .of_same rfl rfl rfl
    · unfold onResetAccepted
      dsimp only
      split_ifs
      · split
        · exact (plans_fence t).trans (plans_overflowed _)
        · exact (plans_fence t).trans (plans_arm _ _)
      · exact plans_fence t
      · exact (plans_rxOnlyCold t).trans (plans_fence _)
      · exact .refl t
    · exact .refl t

/-- A pump hands no frame over. -/
theorem Grown.submitted {u u' : Session} (h : Grown u u') {token : UInt64} {fields : FrameFields}
    (hmem : .submitted token fields ∈ u'.log) : .submitted token fields ∈ u.log := by
  obtain ⟨added, hlog, hadded⟩ := h.log
  rw [hlog] at hmem
  rcases List.mem_append.1 hmem with hmem | hmem
  · exact absurd (hadded _ hmem) id
  · exact hmem

theorem Planned.settling (h : Planned s) (hs : Settling s s') : Planned s' := by
  have htold : ∀ token fields, TxEvent.submitted token fields ∈ (told s).u3.log →
      .submitted token fields ∈ s.u3.log :=
    fun _ _ hmem => List.mem_of_ne_of_mem (by simp) hmem
  cases hs with
  | idle | pending => exact h
  | accepted =>
    have hplans : Plans s (clearTracked (onRawAccepted (told s))) := by
      have hfirst : Plans s (told s) := .of_same rfl rfl rfl
      refine .trans (hfirst.trans (plans_onRawAccepted _)) ?_
      exact .of_same rfl rfl rfl
    refine h.of_plans hplans nofun fun token fields hmem => htold token fields ?_
    have hlog : (onRawAccepted (told s)).u3.log = (told s).u3.log :=
      (congrArg Session.log (core_onRawAccepted (told s)) : _)
    rw [← hlog]
    exact hmem
  | cancelled | fencedUnaccepted => exact h.of_plans (.of_same rfl rfl rfl) nofun htold
  | acceptedThenFenced =>
    exact h.of_plans ⟨rfl, fun _ h => List.mem_cons_of_mem _ h, fun _ h => .inl h, id⟩ nofun htold
  | indeterminate =>
    refine Planned.local (s := { clearTracked (told s) with epochClaimed := false }) ?_
      (plans_fence _) (local_fence _)
    exact h.of_plans (.of_same rfl rfl rfl) nofun htold

theorem Planned.pump (h : Planned s) {u : Session} (hg : Grown s.u3 u) :
    Planned { s with u3 := u } :=
  h.of_plans (.of_same rfl rfl rfl) (fun ho => ⟨ho, rfl⟩) fun _ _ hmem => hg.submitted hmem

theorem Planned.outcome (h : Planned s) {io : PumpIo} {st : SessionStatus} {r : LogicalSession}
    (ho : Outcome s io st r) : Planned r := by
  cases ho with
  | off => exact h
  | malformed _ _ _ _ grown => exact h.pump grown
  | kept _ _ _ _ grown => exact h.pump grown
  | accepted _ _ _ _ grown tracked settled outcome =>
    exact (h.pump grown).settling (.accepted tracked settled outcome)
  | fenced _ _ _ _ _ _ grown settling => exact (h.pump grown).settling settling

theorem Planned.apply (h : Planned s) (st : SessionStatus) :
    Planned (applyU3PumpStatus s st).2 := by
  have hepoch : Planned (onEpochLost s) := by
    refine Planned.local ?_ (plans_fenceAndRehello _) (local_fenceAndRehello _)
    exact h.of_plans (.of_same rfl rfl rfl) (fun ho => ⟨ho, rfl⟩) fun _ _ h => h
  have hlink : Planned (onLinkLost s) := by
    by_cases hk : s.trackedKind = .none
    · rw [onLinkLost_untracked hk]
      refine h.of_plans (.of_empty rfl rfl rfl) (fun ho => ?_) fun _ _ h => h
      exact absurd (hk.symm.trans ho) (by decide)
    · rw [onLinkLost_tracked hk]
      have hclears : Plans s (clearActive (clearNotice (clearOrdinaryActions (dropAllInflight s)))) :=
        .of_empty rfl rfl rfl
      exact h.local (hclears.trans (plans_fence _)) ((local_clears s).trans (local_fence _))
  cases st with
  | rxOverflow => exact h.local (plans_continuityLoss s) (local_continuityLoss s)
  | continuityLost | generationMismatch => exact hepoch
  | errLinkDown | closed | ioError => exact hlink
  | _ => exact h

theorem Planned.drain (h : Planned s) (hrx : RxOk s.u3) : Planned (drainRx s) := by
  refine @drainRx_rule Planned s ?_ ?_ h hrx
  · intro t fr rest t' ht hq hreact
    have hpop : Planned (popRx t rest) :=
      ht.of_plans (.of_same rfl rfl rfl) (fun ho => ⟨ho, rfl⟩) fun _ _ h => h
    exact hpop.local hreact.plans hreact.isLocal
  · exact fun t ht => ht.local (plans_continuityLoss t) (local_continuityLoss t)

theorem Planned.prepare (h : Planned s) (now : UInt64) : Planned (prepareStep s now).2 := by
  have hclock : Planned { s with nowMs := now, haveNow := true } :=
    h.of_plans (.of_same rfl rfl rfl) (fun ho => ⟨ho, rfl⟩) fun _ _ h => h
  exact (hclock.local (plans_runTimers _) (local_runTimers _)).submission
    (trySubmitTracked_submission _)

theorem Planned.step (hcoupled : Coupled s) (h : Planned s) (io : StepIo) :
    Planned (Control.step s io).2 := by
  have hstep := hcoupled.stepped io
  generalize (Control.step s io).2 = s' at hstep
  cases hstep with
  | refused => exact h
  | @went r t st up _ outcome _ _ applied =>
    obtain ⟨hprep, hup'⟩ := hcoupled.prepare up io.now
    have ht : Planned t := applied ▸ ((h.prepare io.now).outcome outcome).apply st
    have hrx : RxOk t.u3 := applied ▸ (hprep.apply hup' outcome).rx
    split_ifs
    · exact ht
    · exact ht.drain hrx

theorem plans_startSession (s : LogicalSession) : Plans s (startSession s) :=
  ⟨rfl, fun _ h => List.mem_cons_of_mem _ h, nofun, fun _ => Nat.zero_le _⟩

theorem Planned.bind (hcoupled : Coupled s) (h : Planned s) (io : BindIo) :
    Planned (bindLogical s io).2 := by
  have hb := hcoupled.binding io
  generalize (bindLogical s io).2 = s' at hb
  cases hb with
  | refused => exact h
  | exhausted _ _ _ _ _ _ log =>
    exact h.of_plans (.of_same rfl rfl rfl) (fun ho => ⟨ho, rfl⟩) fun _ _ hmem => log ▸ hmem
  | @bound u epoch _ _ _ _ _ _ log =>
    obtain ⟨id, hlog⟩ := log
    have hclaims : Plans s { s with u3 := u, epoch := epoch, epochClaimed := true } :=
      .of_same rfl rfl rfl
    have hstart :
        Planned (startSession { s with u3 := u, epoch := epoch, epochClaimed := true }) := by
      refine h.of_plans (hclaims.trans (plans_startSession _)) nofun fun token fields hmem => ?_
      have hmem : TxEvent.submitted token fields ∈ u.log := hmem
      rw [hlog] at hmem
      exact List.mem_of_ne_of_mem (by simp) hmem
    dsimp only
    split
    · exact hstart.local (plans_arm _ _) (local_arm _ _)
    · exact hstart

theorem plans_endSession (s : LogicalSession) : Plans s (endSession s) := by
  refine .of_empty ?_ ?_ ?_
  all_goals dsimp only [LogicalSession.role, endSession, clearTracked, dropSession, clearActive,
    clearNotice, clearOrdinaryActions, dropAllInflight]

theorem Planned.unbind (hcoupled : Coupled s) (h : Planned s) : Planned (unbindLogical s).2 := by
  by_cases hup : s.state = .disconnected
  · rw [unbindLogical, if_pos hup]
    exact h
  · obtain ⟨u, -, -, -, -, hlog, heq⟩ := hcoupled.unbinding hup
    rw [heq]
    have hu : Plans s { s with u3 := u } := .of_same rfl rfl rfl
    refine h.of_plans (hu.trans (plans_endSession _)) (by rintro ⟨⟩) fun token fields hmem => ?_
    have hmem : TxEvent.submitted token fields ∈ u.log := hmem
    rcases hlog with hlog | hlog
    · rw [hlog] at hmem
      exact hmem
    · rw [hlog] at hmem
      exact List.mem_of_ne_of_mem (by simp) hmem

theorem planned_init (config : LogicalConfig) : Planned (.init config) :=
  ⟨nofun, Nat.zero_le _, nofun, nofun⟩

theorem planned_run (config : LogicalConfig) (calls : List LogicalCall) :
    Planned (.run config calls) := by
  unfold LogicalSession.run
  induction calls using List.reverseRecOn with
  | nil => exact planned_init config
  | append_singleton calls c ih =>
    have hcoupled := coupled_run config calls
    rw [List.foldl_append]
    cases c with
    | bind io => exact ih.bind hcoupled io
    | unbind => exact ih.unbind hcoupled
    | step io => exact ih.step hcoupled io

end Stages

end Ninlil.Control
