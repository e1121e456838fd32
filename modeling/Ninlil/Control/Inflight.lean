import Ninlil.Lib.Slots
import Ninlil.Control.Plans

/-!
# Requests in flight

The table of requests in flight, its count and the flag of a `PING` that waits for its `PONG` agree,
unless the raw accept of a `PING` comes after its slot was given free.

* `Flight`, `Flight.Ok`: the table with what goes with it;
* `Calm`, `Reaction.flight`: what the timers and a received frame do to it;
* `strayPing`: a step harvests a `PING` that is no longer in flight;
* `inflight_run`: without such a step the agreement holds in every run;
* `fenced_ping_waits`: with one it does not.
-/

namespace Ninlil.Control

open Slots
open Function (update update_of_ne update_self update_eq_self)

/-- What the requests in flight are judged by. -/
structure Flight where
  role : Role
  state : LogicalState
  kinds : Fin inflightMax → InflightKind
  count : ℕ
  pinging : Bool

def LogicalSession.flight (s : LogicalSession) : Flight where
  role := s.role
  state := s.state
  kinds := fun i => (s.inflight i).kind
  count := s.inflightCount
  pinging := s.pingInflight

/-- The invariant of the requests in flight. A Cell has none, and an active session has no `HELLO`
in flight. The part about the waiting `PING` is the `strict` one. -/
structure Flight.Ok (strict : Prop) (f : Flight) : Prop where
  count : f.count = occupied .none f.kinds
  hello : AtMostOne .hello f.kinds
  ping : AtMostOne .ping f.kinds
  cell : f.role = .cell → ∀ i, f.kinds i = .none
  active : f.state = .sessionActive → ∀ i, f.kinds i ≠ .hello
  pinging : strict → f.pinging = true → f.state = .sessionActive ∧ ∃ i, f.kinds i = .ping

variable {strict : Prop}

variable {f : Flight}

/-- A table without requests. -/
theorem Flight.Ok.of_empty (hk : ∀ i, f.kinds i = .none) (hc : f.count = 0)
    (hp : f.pinging = false) : f.Ok strict where
  count := by
    rw [show f.kinds = fun _ => .none from funext hk, occupied_empty]
    exact hc
  hello := atMostOne_of_absent fun i => by rw [hk i]; decide
  ping := atMostOne_of_absent fun i => by rw [hk i]; decide
  cell _ := hk
  active _ i := by rw [hk i]; decide
  pinging _ h := absurd (hp.symm.trans h) (by decide)

/-- A slot is given free; a `PING` waits on only if another slot was meant. -/
theorem Flight.Ok.remove (h : f.Ok strict) (i : Fin inflightMax) {p : Bool}
    (hp : p = true → f.pinging = true ∧ f.kinds i ≠ .ping) :
    Flight.Ok strict { f with
      kinds := update f.kinds i .none
      count := if f.kinds i = .none then f.count else f.count - 1
      pinging := p } where
  count := by
    dsimp only
    split_ifs with hi
    · rw [← hi, update_eq_self, hi]
      exact h.count
    · rw [occupied_free hi, ← h.count]
  hello := h.hello.update (by decide) i
  ping := h.ping.update (by decide) i
  cell hc j := by
    by_cases hj : j = i
    · exact hj ▸ update_self ..
    · exact (update_of_ne hj ..).trans (h.cell hc j)
  active ha := absent_update (h.active ha) (by decide) i
  pinging hstrict hpin := by
    obtain ⟨hwas, hi⟩ := hp hpin
    obtain ⟨ha, j, hj⟩ := h.pinging hstrict hwas
    have hne : j ≠ i := fun heq => hi (heq ▸ hj)
    exact ⟨ha, j, (update_of_ne hne ..).trans hj⟩

/-- A Controller takes a free slot for a request of a kind that is not in flight. -/
theorem Flight.Ok.add (h : f.Ok strict) (hrole : f.role ≠ .cell) {i : Fin inflightMax}
    (hi : f.kinds i = .none) {kind : InflightKind} (hk : kind ≠ .none)
    (habsent : ∀ j, f.kinds j ≠ kind) (hactive : f.state = .sessionActive → kind ≠ .hello) :
    Flight.Ok strict { f with kinds := update f.kinds i kind, count := f.count + 1 } where
  count := by
    show f.count + 1 = _
    rw [occupied_take hi hk, h.count]
  hello := by
    by_cases hkind : kind = .hello
    · subst hkind
      exact atMostOne_put habsent i
    · exact h.hello.update hkind i
  ping := by
    by_cases hkind : kind = .ping
    · subst hkind
      exact atMostOne_put habsent i
    · exact h.ping.update hkind i
  cell hc := absurd hc hrole
  active ha := absent_update (h.active ha) (hactive ha) i
  pinging hstrict hp := by
    obtain ⟨ha, j, hj⟩ := h.pinging hstrict hp
    have hne : j ≠ i := by
      rintro rfl
      exact absurd (hi.symm.trans hj) (by decide)
    exact ⟨ha, j, (update_of_ne hne ..).trans hj⟩

/-- A session that is not active waits for no `PONG`. -/
theorem Flight.Ok.quiet (h : f.Ok strict) (hs : f.state ≠ .sessionActive)
    (hstrict : strict) : f.pinging = false :=
  Bool.eq_false_iff.2 fun hp => hs (h.pinging hstrict hp).1

/-- A Cell waits for no `PONG`. -/
theorem Flight.Ok.quiet_cell (h : f.Ok strict) (hrole : f.role = .cell)
    (hstrict : strict) : f.pinging = false := by
  refine Bool.eq_false_iff.2 fun hp => ?_
  obtain ⟨-, i, hi⟩ := h.pinging hstrict hp
  exact absurd ((h.cell hrole i).symm.trans hi) (by decide)

/-- A session that waits for no `PONG` enters a state without a session. -/
theorem Flight.Ok.enter (h : f.Ok strict) (hp : strict → f.pinging = false)
    {st : LogicalState} (hst : st ≠ .sessionActive) : Flight.Ok strict { f with state := st } where
  count := h.count
  hello := h.hello
  ping := h.ping
  cell := h.cell
  active ha := absurd ha hst
  pinging hstrict hpin := absurd ((hp hstrict).symm.trans hpin) (by decide)

/-- The table is consistent, and no `PING` began to wait. -/
structure KeepsFlight (strict : Prop) (s s' : LogicalSession) : Prop where
  ok : s'.flight.Ok strict
  pinging : s'.pingInflight = true → s.pingInflight = true

/-- The session did not become active either. -/
structure Calm (strict : Prop) (s s' : LogicalSession) : Prop extends KeepsFlight strict s s' where
  active : s'.state = .sessionActive → s.state = .sessionActive

section Changes

variable {s s' : LogicalSession}

theorem KeepsFlight.trans {s₁ s₂ s₃ : LogicalSession} (h : KeepsFlight strict s₁ s₂)
    (h' : KeepsFlight strict s₂ s₃) : KeepsFlight strict s₁ s₃ :=
  ⟨h'.ok, fun hp => h.pinging (h'.pinging hp)⟩

theorem Calm.trans {s₁ s₂ s₃ : LogicalSession} (h : Calm strict s₁ s₂) (h' : Calm strict s₂ s₃) :
    Calm strict s₁ s₃ :=
  ⟨h.toKeepsFlight.trans h'.toKeepsFlight, fun ha => h.active (h'.active ha)⟩

theorem KeepsFlight.of_flight (h : f.Ok strict) (heq : s'.flight = f)
    (hp : f.pinging = true → s.pingInflight = true) : KeepsFlight strict s s' where
  ok := heq ▸ h
  pinging hpin := hp (by rw [← heq]; exact hpin)

theorem Calm.of_flight (h : f.Ok strict) (heq : s'.flight = f)
    (hp : f.pinging = true → s.pingInflight = true)
    (hs : f.state = .sessionActive → s.state = .sessionActive) : Calm strict s s' where
  toKeepsFlight := .of_flight h heq hp
  active ha := hs (by rw [← heq]; exact ha)

theorem Calm.of_eq (h : s.flight.Ok strict) (heq : s'.flight = s.flight) : Calm strict s s' :=
  .of_flight h heq id id

theorem Calm.refl (h : s.flight.Ok strict) : Calm strict s s := .of_eq h rfl

/-- Every fence empties the table. -/
theorem calm_fenced (hs : s'.state = .linkUpNoSession) (hk : ∀ i, (s'.inflight i).kind = .none)
    (hc : s'.inflightCount = 0) (hp : s'.pingInflight = false) : Calm strict s s' where
  ok := .of_empty hk hc hp
  pinging h := absurd (hp.symm.trans h) (by decide)
  active ha := absurd (hs.symm.trans ha) (by decide)

theorem calm_fence (s t : LogicalSession) : Calm strict s (sessionToLinkUpNoSession t) :=
  calm_fenced rfl (fun _ => rfl) rfl rfl

theorem calm_armFence (s t : LogicalSession) (deadline : UInt64) :
    Calm strict s (armRehello (sessionToLinkUpNoSession t) deadline) :=
  calm_fenced rfl (fun _ => rfl) rfl rfl

theorem calm_fenceAndRehello (s t : LogicalSession) : Calm strict s (fenceAndRehello t) := by
  unfold fenceAndRehello
  dsimp only
  split_ifs
  · exact calm_armFence s t _
  · exact calm_fence s t

theorem calm_reject (h : s.flight.Ok strict) : Calm strict s (noteLogicalReject s) := by
  exact noteLogicalReject_cases (P := Calm strict s) s (fun _ => .of_eq h rfl)
    (calm_fenceAndRehello s _)

theorem calm_continuityLoss (s t : LogicalSession) : Calm strict s (continuityLoss t) := by
  unfold continuityLoss
  split_ifs
  · unfold cellContinuityLoss
    dsimp only
    split
    · exact calm_fence s _
    · exact calm_fenced rfl (fun _ => rfl) rfl rfl
  · exact calm_fenceAndRehello s _

theorem flight_actionTryEnqueue (s : LogicalSession) (a : TxAction) :
    (actionTryEnqueue s a).flight = s.flight := by
  unfold actionTryEnqueue actionEnqueue
  split_ifs <;> rfl

theorem flight_ctrlError (s : LogicalSession) (code : UInt16) (requestId : UInt32) :
    (maybeEnqueueCtrlError s code requestId).flight = s.flight := by
  refine maybeEnqueueCtrlError_cases (P := fun t => t.flight = s.flight) s code requestId
    (fun _ => rfl) ?_
  exact fun _ _ _ => flight_actionTryEnqueue _ _

theorem calm_reset (h : s.flight.Ok strict) (code : UInt8) :
    Calm strict s (handleResetAccepted s code) := by
  unfold handleResetAccepted
  dsimp only
  split_ifs
  · split
    · exact calm_fenced rfl (fun _ => rfl) rfl rfl
    · exact calm_armFence s s _
  · exact calm_fence s s
  · exact calm_fenceAndRehello s _
  · exact calm_fenceAndRehello s _
  · exact .refl h

/-! ### Single slots -/

/-- The table after a slot is given free. -/
theorem flight_removeIndex (s : LogicalSession) (i : Fin inflightMax) :
    (inflightRemoveIndex s i).flight = { s.flight with
      kinds := update s.flight.kinds i .none
      count := if s.flight.kinds i = .none then s.inflightCount else s.inflightCount - 1 } := by
  unfold inflightRemoveIndex
  split_ifs with hnone hkind hkind
  · show Flight.mk _ _ _ _ _ = Flight.mk _ _ _ _ _
    rw [← (show s.flight.kinds i = .none from hnone), update_eq_self]
    rfl
  · exact absurd hnone hkind
  · exact absurd hkind hnone
  · have hkinds : (fun j => (update s.inflight i {} j).kind) =
        update s.flight.kinds i .none := Function.comp_update InflightSlot.kind _ i _
    show Flight.mk _ _ _ _ _ = Flight.mk _ _ _ _ _
    rw [Flight.mk.injEq]
    exact ⟨rfl, rfl, hkinds, rfl, rfl⟩

/-- The table after a free slot is taken. -/
theorem flight_inflightAdd {kind : InflightKind} {requestId : UInt32} {echoToken : UInt64}
    (h : inflightAdd s kind requestId echoToken = some s') :
    ∃ i, s.flight.kinds i = .none ∧ s'.flight = { s.flight with
      kinds := update s.flight.kinds i kind
      count := s.flight.count + 1 } := by
  obtain ⟨i, hfind, rfl⟩ := inflightAdd_eq_some h
  refine ⟨i, findTag_eq_some hfind, ?_⟩
  have hkinds : (fun j => (update s.inflight i
      { kind, requestId, deadlineMs := 0, echoToken } j).kind) =
        update s.flight.kinds i kind := Function.comp_update InflightSlot.kind _ i _
  show Flight.mk _ _ _ _ _ = Flight.mk _ _ _ _ _
  rw [Flight.mk.injEq]
  exact ⟨rfl, rfl, hkinds, rfl, rfl⟩

/-- The slot of a kind is given free. -/
theorem flight_removeKind (h : s.flight.Ok strict) {kind : InflightKind} (hk : kind ≠ .none)
    (hone : AtMostOne kind s.flight.kinds) {p : Bool}
    (hp : p = true → s.pingInflight = true ∧ kind ≠ .ping) :
    ∃ kinds count, (inflightRemoveKind s kind).flight = { s.flight with kinds, count } ∧
      (∀ i, kinds i ≠ kind) ∧ Flight.Ok strict { s.flight with kinds, count, pinging := p } := by
  unfold inflightRemoveKind
  cases hfind : inflightFindKind s kind with
  | none =>
    refine ⟨s.flight.kinds, s.inflightCount, rfl, findTag_eq_none.1 hfind,
      ⟨h.count, h.hello, h.ping, h.cell, h.active, fun hstrict hpin =>
        h.pinging hstrict (hp hpin).1⟩⟩
  | some i =>
    have hi : s.flight.kinds i = kind := findTag_eq_some hfind
    refine ⟨_, _, flight_removeIndex s i, hone.absent_update hi hk.symm, h.remove i fun hpin => ?_⟩
    obtain ⟨hwas, hne⟩ := hp hpin
    exact ⟨hwas, hi ▸ hne⟩

end Changes

/-! ### Timers -/

section Timers

variable {s : LogicalSession}

theorem flight_armHelloTimer (s : LogicalSession) (delayMs : UInt32) :
    (armHelloTimer s delayMs).2.flight = s.flight := by
  have hjitter : (applyHelloJitter s delayMs).2.flight = s.flight := by
    obtain ⟨n, hn⟩ := applyHelloJitter_draws s delayMs
    rw [hn]
    rfl
  unfold armHelloTimer
  dsimp only
  split
  · exact hjitter
  · exact hjitter

theorem flight_armPlannedHello (s : LogicalSession) (isRetry : Bool) :
    (armPlannedHello s isRetry).2.flight = s.flight := by
  unfold armPlannedHello
  split_ifs
  · exact flight_armHelloTimer s _
  · exact flight_armHelloTimer { s with helloRetryDelayMs := helloRetryInitialMs } _

/-- A `HELLO` is only scheduled without a session: the one before it leaves the table first. -/
theorem calm_scheduleControllerHello (hrole : s.role = .controller) (h : s.flight.Ok strict)
    (hs : s.state ≠ .sessionActive) (isRetry : Bool) :
    Calm strict s (scheduleControllerHello s isRetry).2 := by
  obtain ⟨kinds, count, hplan, habsent, hok⟩ : ∃ kinds count, (planHello s).flight =
      { s.flight with kinds, count } ∧ (∀ i, kinds i ≠ .hello) ∧
        Flight.Ok strict { s.flight with kinds, count, pinging := s.pingInflight } := by
    unfold planHello
    refine flight_removeKind ?_ (by decide) ?_ fun hp => ⟨hp, by decide⟩
    · exact h
    · exact h.hello
  have hcalm : ∀ {t : LogicalSession}, t.flight.Ok strict → t.pingInflight = s.pingInflight →
      t.state ≠ .sessionActive → Calm strict s t :=
    fun ht hp hst => ⟨⟨ht, fun hpin => hp ▸ hpin⟩, fun ha => absurd ha hst⟩
  unfold scheduleControllerHello
  dsimp only
  split_ifs
  · exact .refl h
  · exact .refl h
  · split
    · refine hcalm (hplan ▸ hok) (congrArg Flight.pinging hplan) ?_
      rw [show (planHello s).state = s.state from congrArg Flight.state hplan]
      exact hs
    · rename_i planned hadd
      obtain ⟨i, hi, hflight⟩ := flight_inflightAdd hadd
      rw [hplan] at hi hflight
      have hadded : Flight.Ok strict { s.flight with
          kinds := update kinds i .hello, count := count + 1 } := by
        refine hok.add ?_ hi nofun habsent fun ha => absurd ha hs
        show s.role ≠ .cell
        rw [hrole]
        decide
      have hsent : LogicalSession.flight { planned with state := .helloSent } =
          { s.flight with
            state := .helloSent, kinds := update kinds i .hello, count := count + 1 } :=
        congrArg (fun f : Flight => { f with state := .helloSent }) hflight
      have harmed := flight_armPlannedHello { planned with state := .helloSent } isRetry
      rw [hsent] at harmed
      refine hcalm (harmed ▸ hadded.enter (h.quiet hs) nofun) (congrArg Flight.pinging harmed) ?_
      rw [show (armPlannedHello _ isRetry).2.state = _ from congrArg Flight.state harmed]
      exact nofun

theorem calm_runRehelloTimer (hrole : s.role = .controller) (h : s.flight.Ok strict) :
    Calm strict s (runRehelloTimer s) := by
  unfold runRehelloTimer
  split_ifs with hdue hstate
  · have hs : s.state ≠ .sessionActive := by rcases hstate with hs | hs <;> rw [hs] <;> decide
    have hsched := calm_scheduleControllerHello hrole h hs false
    split
    · rename_i heq
      rw [heq] at hsched
      exact hsched.trans (.of_eq hsched.ok rfl)
    · rename_i heq
      rw [heq] at hsched
      exact hsched
  · exact .of_eq h rfl
  · exact .refl h

theorem calm_runHelloTimer (hrole : s.role = .controller) (h : s.flight.Ok strict) :
    Calm strict s (runHelloTimer s) := by
  unfold runHelloTimer
  split_ifs with hdue
  · have hs : s.state ≠ .sessionActive := by rw [hdue.2.1]; decide
    have hsched := calm_scheduleControllerHello hrole h hs true
    split
    · rename_i heq
      rw [heq] at hsched
      exact hsched
    · rename_i heq
      rw [heq] at hsched
      exact hsched.trans (.of_eq hsched.ok (flight_armHelloTimer _ _))
  · exact .refl h

/-- The `PING` whose `PONG` did not come leaves the table. -/
theorem calm_countMissedPong (h : s.flight.Ok strict) : Calm strict s (countMissedPong s) := by
  obtain ⟨kinds, count, hrem, -, hok⟩ :=
    flight_removeKind (s := { s with pongMissStreak := s.pongMissStreak + 1 }) h
      (by decide : InflightKind.ping ≠ .none) h.ping (p := false) nofun
  have hmissed : (countMissedPong s).flight = { s.flight with kinds, count, pinging := false } := by
    have hcleared := congrArg (fun f : Flight => { f with pinging := false }) hrem
    unfold countMissedPong
    dsimp only
    split
    · exact hcleared
    · exact hcleared
  exact .of_flight hok hmissed nofun id

theorem calm_runPongTimeout (h : s.flight.Ok strict) : Calm strict s (runPongTimeout s) := by
  unfold runPongTimeout
  dsimp only
  split_ifs
  · exact calm_armFence s _ _
  · exact calm_countMissedPong h
  · exact .refl h

/-- A `PING` is planned while none is in flight. -/
theorem calm_planPing (hrole : s.role = .controller) (h : s.flight.Ok strict)
    (hnone : inflightFindKind s .ping = none) : Calm strict s (planPing s) := by
  unfold planPing
  dsimp only
  generalize hplan : actionTryEnqueue (allocRequestId s).2 _ = q
  have hq : q.flight = s.flight := by
    rw [← hplan]
    exact flight_actionTryEnqueue _ _
  cases hadd : inflightAdd q .ping (allocRequestId s).1 (pingToken (allocRequestId s).1 s.nowMs) with
  | none => exact .of_eq h hq
  | some t =>
    obtain ⟨i, hi, hflight⟩ := flight_inflightAdd hadd
    rw [hq] at hi hflight
    have hcell : s.flight.role ≠ .cell := by
      rw [show s.flight.role = s.role from rfl, hrole]
      decide
    have hadded := h.add hcell hi (by decide : InflightKind.ping ≠ .none)
      (findTag_eq_none.1 hnone) fun _ => by decide
    exact .of_flight hadded hflight id id

theorem calm_runPingDispatch (hrole : s.role = .controller) (h : s.flight.Ok strict) :
    Calm strict s (runPingDispatch s) := by
  have hfirst : (armFirstPing s).flight = s.flight := by
    unfold armFirstPing
    split_ifs <;> rfl
  have hdispatch : ∀ t : LogicalSession, t.role = .controller → t.flight.Ok strict →
      Calm strict t (dispatchPing t) := by
    intro t htrole ht
    unfold dispatchPing
    split
    · exact .of_eq ht rfl
    · split_ifs with hlate hqueued hnone
      · exact .refl ht
      · exact calm_armFence t t _
      · exact calm_planPing htrole ht hnone.1
      · exact .refl ht
  have hready : Calm strict s (armFirstPing s) := .of_eq h hfirst
  unfold runPingDispatch
  split_ifs
  · exact .refl h
  · exact hready.trans (hdispatch _ ((congrArg Flight.role hfirst).trans hrole) hready.ok)
  · exact hready

theorem calm_runTimers (h : s.flight.Ok strict) : Calm strict s (runTimers s) := by
  unfold runTimers
  dsimp only
  by_cases hrole : s.role = .controller
  · rw [if_neg (not_not.2 hrole)]
    have hre := calm_runRehelloTimer hrole h
    have hrole₁ := (local_runRehelloTimer s).role.trans hrole
    have hhello := hre.trans (calm_runHelloTimer hrole₁ hre.ok)
    have hrole₂ := (local_runHelloTimer (runRehelloTimer s)).role.trans hrole₁
    split_ifs
    · have hpong := hhello.trans (calm_runPongTimeout hhello.ok)
      exact hpong.trans (calm_runPingDispatch ((local_runPongTimeout _).role.trans hrole₂) hpong.ok)
    · exact hhello
  · rw [if_pos hrole]
    exact .refl h

end Timers

/-! ### Received frames -/

section Received

variable {s s' : LogicalSession}

/-- The `HELLO` in flight is answered: the session was not active, so no `PING` waits. -/
theorem keepsFlight_onMatchedHelloAck (h : s.flight.Ok strict) {i : Fin inflightMax}
    (hi : s.flight.kinds i = .hello) (m : Message) (result : UInt16) :
    KeepsFlight strict s (onMatchedHelloAck s i m result) := by
  have hs : s.state ≠ .sessionActive := fun ha => h.active ha i hi
  have hrem := flight_removeIndex s i
  have hok := h.remove i (p := s.pingInflight) fun hp => ⟨hp, by rw [hi]; decide⟩
  have habsent := h.hello.absent_update hi (by decide : InflightKind.none ≠ .hello)
  have hkeeps : ∀ {t : LogicalSession} {st : LogicalState},
      t.flight = { (inflightRemoveIndex s i).flight with state := st } → KeepsFlight strict s t := by
    intro t st ht
    rw [hrem] at ht
    refine .of_flight ?_ ht id
    exact ⟨hok.count, hok.hello, hok.ping, hok.cell, fun _ => habsent, fun hstrict hp =>
      absurd ((h.quiet hs hstrict).symm.trans hp) (by decide)⟩
  unfold onMatchedHelloAck
  dsimp only
  split_ifs
  · exact hkeeps rfl
  · exact hkeeps ((flight_armHelloTimer _ _).trans rfl)

/-- The `PING` in flight is answered. -/
theorem calm_onMatchedPong (h : s.flight.Ok strict) (i : Fin inflightMax) :
    Calm strict s (onMatchedPong s i) := by
  have hrem := flight_removeIndex s i
  have hok := h.remove i (p := false) nofun
  have hcalm : ∀ {t : LogicalSession},
      t.flight = { (inflightRemoveIndex s i).flight with pinging := false } → Calm strict s t := by
    intro t ht
    rw [hrem] at ht
    exact .of_flight hok ht nofun id
  unfold onMatchedPong
  dsimp only
  split
  · exact hcalm rfl
  · exact hcalm rfl

/-- A Cell answers a `HELLO`. -/
theorem calm_plan (hrole : s.role = .cell) (h : s.flight.Ok strict) {requestId : UInt32}
    (hp : HelloPlan s requestId s') : Calm strict s s' := by
  have hreceived :=
    h.enter (h.quiet_cell hrole) (by decide : LogicalState.helloReceived ≠ .sessionActive)
  cases hp with
  | full => exact calm_reject h
  | busy | ok => exact ⟨⟨hreceived, id⟩, nofun⟩

theorem calm_onValidHelloCell (hrole : s.role = .cell) (h : s.flight.Ok strict) (requestId : UInt32)
    (fenceFirst : Bool) : Calm strict s (onValidHelloCell s requestId fenceFirst) := by
  have hready : Calm strict s (readyForHello s fenceFirst) := by
    cases fenceFirst
    · exact .of_eq h rfl
    · exact calm_fenced rfl (fun _ => rfl) rfl rfl
  have hcell : (readyForHello s fenceFirst).role = .cell := by
    cases fenceFirst <;> exact hrole
  exact hready.trans (calm_plan hcell hready.ok (onValidHelloCell_plan s _ _))

theorem calm_bootstrapRestart (hrole : s.role = .cell) (seq : UInt32) (m : Message) :
    Calm strict s (bootstrapRestart s seq m) := by
  unfold bootstrapRestart
  dsimp only
  have hcleared : (clearNotice (clearOrdinaryActions (dropAllInflight (clearActive s)))).flight =
      { s.flight with kinds := fun _ => .none, count := 0, pinging := false } := rfl
  generalize clearNotice (clearOrdinaryActions (dropAllInflight (clearActive s))) = t at hcleared ⊢
  have ht : Calm strict s t := .of_flight (.of_empty (fun _ => rfl) rfl rfl) hcleared nofun id
  have htrole : (acceptRxSequence (rxOnlyCold t) seq).role = .cell :=
    (congrArg Flight.role hcleared).trans hrole
  have hbase : Calm strict s (acceptRxSequence (rxOnlyCold t) seq) := ht.trans (.of_eq ht.ok rfl)
  exact hbase.trans (calm_onValidHelloCell htrole hbase.ok _ _)

theorem Reaction.flight {fr : FrameFields} (h : s.flight.Ok strict) (hr : Reaction s fr s') :
    KeepsFlight strict s s' := by
  have hacc : Calm strict s (acceptRxSequence s fr.sequence) := .of_eq h rfl
  have haccept : (acceptRxSequence s fr.sequence).role = s.role := rfl
  cases hr with
  | rejected => exact (calm_reject h).toKeepsFlight
  | lost => exact (calm_continuityLoss s s).toKeepsFlight
  | ignored => exact (hacc.trans (calm_reject hacc.ok)).toKeepsFlight
  | answered code =>
    have hrej := hacc.trans (calm_reject hacc.ok)
    exact (hrej.trans (.of_eq hrej.ok (flight_ctrlError _ _ _))).toKeepsFlight
  | hello role =>
    exact (hacc.trans (calm_onValidHelloCell (haccept.trans role) hacc.ok _ _)).toKeepsFlight
  | halfOpen role =>
    exact (hacc.trans (calm_onValidHelloCell (haccept.trans role) hacc.ok _ _)).toKeepsFlight
  | restart role => exact (calm_bootstrapRestart role _ _).toKeepsFlight
  | acked _ _ _ _ _ _ found =>
    exact hacc.toKeepsFlight.trans
      (keepsFlight_onMatchedHelloAck hacc.ok (findTag_eq_some found) _ _)
  | pinged => exact (hacc.trans (.of_eq hacc.ok (flight_actionTryEnqueue _ _))).toKeepsFlight
  | ponged => exact (hacc.trans (calm_onMatchedPong hacc.ok _)).toKeepsFlight
  | reset => exact (hacc.trans (calm_reset hacc.ok _)).toKeepsFlight

theorem keepsFlight_drain (hrx : RxOk s.u3) (h : s.flight.Ok strict) :
    KeepsFlight strict s (drainRx s) := by
  refine @drainRx_rule (KeepsFlight strict s) s ?_ ?_ (Calm.refl h).toKeepsFlight hrx
  · intro t fr rest t' ht _ hreact
    have hpop : KeepsFlight strict t (popRx t rest) := .of_flight ht.ok rfl id
    exact ht.trans (hpop.trans (hreact.flight hpop.ok))
  · exact fun t ht => ht.trans (calm_continuityLoss t t).toKeepsFlight

end Received

/-! ### The stages of a step -/

section Stages

variable {s s' : LogicalSession}

theorem calm_submission (h : s.flight.Ok strict) (hs : Submission s s') : Calm strict s s' := by
  cases hs with
  | exhausted =>
    unfold applyTxSeqTerminalExhaust
    dsimp only
    split_ifs
    · exact calm_fenced rfl (fun _ => rfl) rfl rfl
    · exact calm_fenced rfl (fun _ => rfl) rfl rfl
  | unchanged => exact .refl h
  | dropped | refused | notice | action => exact .of_eq h rfl

theorem calm_prepare (h : s.flight.Ok strict) (now : UInt64) :
    Calm strict s (prepareStep s now).2 := by
  have hclock : Calm strict s { s with nowMs := now, haveNow := true } := .of_eq h rfl
  have htimers := hclock.trans (calm_runTimers hclock.ok)
  exact htimers.trans (calm_submission htimers.ok (trySubmitTracked_submission _))

theorem flight_setInflightDeadline (s : LogicalSession) (kind : InflightKind)
    (deadlineMs : UInt64) : (setInflightDeadline s kind deadlineMs).flight = s.flight := by
  unfold setInflightDeadline
  split
  · rfl
  · rename_i i _
    have hkinds : (fun j => (update s.inflight i
        { s.inflight i with deadlineMs } j).kind) = s.flight.kinds :=
      (Function.comp_update InflightSlot.kind _ i _).trans (update_eq_self i _)
    show Flight.mk _ _ _ _ _ = Flight.mk _ _ _ _ _
    rw [Flight.mk.injEq]
    exact ⟨rfl, rfl, hkinds, rfl, rfl⟩

/-- What a step keeps: the table, and that only an active session waits for a `PONG` after it. -/
structure FlightStep (strict : Prop) (s s' : LogicalSession) : Prop where
  ok : s'.flight.Ok strict
  pinging : strict → s'.pingInflight = true → s.state = .sessionActive

theorem FlightStep.then {s₁ s₂ s₃ : LogicalSession} (h : FlightStep strict s₁ s₂)
    (h' : KeepsFlight strict s₂ s₃) : FlightStep strict s₁ s₃ :=
  ⟨h'.ok, fun hstrict hp => h.pinging hstrict (h'.pinging hp)⟩

theorem KeepsFlight.flightStep (h : s.flight.Ok strict) (hk : KeepsFlight strict s s') :
    FlightStep strict s s' :=
  ⟨hk.ok, fun hstrict hp => (h.pinging hstrict (hk.pinging hp)).1⟩

/-- A raw accept; the one of a `PING` needs its slot in flight. -/
theorem flight_onRawAccepted (h : s.flight.Ok strict) (htracked : s.trackedKind ≠ .none)
    (hping : strict → s.trackedKind = .ordinary → s.trackedTxKind = .ping →
      s.state = .sessionActive ∧ ∃ i, s.flight.kinds i = .ping) :
    FlightStep strict s (onRawAccepted s) := by
  have hcalm : ∀ {t : LogicalSession}, Calm strict s t → FlightStep strict s t :=
    fun ht => ht.toKeepsFlight.flightStep h
  unfold onRawAccepted
  dsimp only
  by_cases hk : (harvestAccept s).trackedKind = .notice
  · rw [if_pos hk]
    exact hcalm (.of_eq h rfl)
  rw [if_neg hk]
  split
  · unfold onAckAccepted
    split_ifs with hrole hoffers
    · exact hcalm (.of_eq h rfl)
    all_goals
      have hcell : s.role = .cell := not_not.1 hrole
      have hnone := h.cell hcell
      refine ⟨⟨h.count, h.hello, h.ping, h.cell, fun _ i hi => ?_, fun hstrict hp => ?_⟩,
        fun hstrict hp => ?_⟩
      · exact absurd ((hnone i).symm.trans hi) (by decide)
      · exact absurd ((h.quiet_cell hcell hstrict).symm.trans hp) (by decide)
      · exact absurd ((h.quiet_cell hcell hstrict).symm.trans hp) (by decide)
  · unfold onHelloAccepted
    split
    · exact hcalm (.of_eq h rfl)
    · exact hcalm (.of_eq h (flight_setInflightDeadline _ _ _))
  · rename_i htx
    have hordinary : s.trackedKind = .ordinary := by
      cases hkind : s.trackedKind with
      | none => exact absurd hkind htracked
      | ordinary => rfl
      | notice => exact absurd hkind hk
    have hwaits : Flight.Ok strict { s.flight with pinging := true } :=
      ⟨h.count, h.hello, h.ping, h.cell, h.active, fun hstrict _ => hping hstrict hordinary htx⟩
    refine ⟨?_, fun hstrict _ => (hping hstrict hordinary htx).1⟩
    have hflight : (onPingAccepted (harvestAccept s)).flight = { s.flight with pinging := true } := by
      unfold onPingAccepted
      dsimp only
      split
      · rfl
      · exact (flight_setInflightDeadline _ _ _).trans rfl
    rw [hflight]
    exact hwaits
  · unfold onResetAccepted
    dsimp only
    split_ifs
    · split
      · exact hcalm (calm_fenced rfl (fun _ => rfl) rfl rfl)
      · exact hcalm (calm_armFence s _ _)
    · exact hcalm (calm_fence s _)
    · exact hcalm (calm_fence s _)
    · exact hcalm (.of_eq h rfl)
  · exact hcalm (.of_eq h rfl)

theorem calm_mild (h : s.flight.Ok strict) {st : SessionStatus} (hst : st.mild = true) :
    Calm strict s (applyU3PumpStatus s st).2 := by
  rcases apply_mild hst s with heq | heq
  · rw [heq]
    exact .refl h
  · rw [heq]
    exact calm_continuityLoss s s

theorem calm_lost {st : SessionStatus} (hst : st.lost = true) (s t : LogicalSession) :
    Calm strict s (applyU3PumpStatus t st).2 := by
  rcases apply_lost hst t with heq | heq
  · rw [heq]
    exact calm_fenceAndRehello s _
  · rw [heq]
    by_cases hk : t.trackedKind = .none
    · rw [onLinkLost_untracked hk]
      exact ⟨⟨.of_empty (fun _ => rfl) rfl rfl, nofun⟩, nofun⟩
    · rw [onLinkLost_tracked hk]
      exact calm_fence s _

/-- The raw accept of a `PING` is about to be harvested. -/
def harvestsPing (s : LogicalSession) : Bool :=
  s.trackedKind == .ordinary && s.trackedTxKind == .ping && s.u3.trackedPhase == .terminal
    && s.u3.trackedResolution == .rawAcceptedCurrentEpoch

/-- The session is active with a `PING` in flight. -/
def awaitsPing (s : LogicalSession) : Bool :=
  s.state == .sessionActive && (inflightFindKind s .ping).isSome

/-- The middle of a step, from the prepared session to the one that drains its frames. -/
theorem flightStep_outcome (h : s.flight.Ok strict) {io : PumpIo} {st : SessionStatus}
    {r : LogicalSession} (ho : Outcome s io st r)
    (hping : strict → harvestsPing (pumpStep s io).2 = true → awaitsPing s = true) :
    FlightStep strict s (applyU3PumpStatus r st).2 := by
  cases ho with
  | off => exact (calm_fenceAndRehello s _).toKeepsFlight.flightStep h
  | malformed => exact (calm_lost rfl s _).toKeepsFlight.flightStep h
  | @kept st u _ _ _ status =>
    have hsame : Calm strict s { s with u3 := u } := .of_eq h rfl
    exact (hsame.trans (calm_mild hsame.ok status)).toKeepsFlight.flightStep h
  | @accepted st u _ _ _ status _ tracked settled outcome pumped =>
    have hraw := @flight_onRawAccepted strict (told { s with u3 := u }) h tracked
      fun hstrict hordinary hkind => by
        have hawaits : awaitsPing s = true := hping hstrict (by
          simp only [harvestsPing, pumpStep, ← pumped, settled, outcome]
          rw [show s.trackedKind = _ from hordinary, show s.trackedTxKind = _ from hkind]
          rfl)
        simp only [awaitsPing, Bool.and_eq_true, beq_iff_eq] at hawaits
        obtain ⟨i, hi⟩ := Option.isSome_iff_exists.1 hawaits.2
        exact ⟨hawaits.1, i, findTag_eq_some hi⟩
    have hstep : FlightStep strict s (clearTracked (onRawAccepted (told { s with u3 := u }))) :=
      ⟨hraw.ok, hraw.pinging⟩
    exact hstep.then (calm_mild hstep.ok status).toKeepsFlight
  | fenced _ _ _ _ _ status => exact (calm_lost status s r).toKeepsFlight.flightStep h

end Stages

/-! ### Runs -/

/-- A step harvests the raw accept of a `PING` in a session that is not active, or has none in
flight. -/
def strayPing (s : LogicalSession) (io : StepIo) : Bool :=
  let pumped := (pumpStep (prepareStep s io.now).2 io.pump).2
  stepRuns s io && harvestsPing pumped && !awaitsPing pumped

section Runs

variable {s : LogicalSession}

theorem flightStep_step (hcoupled : Coupled s) (h : s.flight.Ok strict) (io : StepIo)
    (hok : strict → strayPing s io = false) : FlightStep strict s (step s io).2 := by
  have hstep := hcoupled.stepped io
  generalize (step s io).2 = s' at hstep
  cases hstep with
  | refused => exact (Calm.refl h).toKeepsFlight.flightStep h
  | @went r t st up runs outcome _ _ applied =>
    obtain ⟨hprep, hup'⟩ := hcoupled.prepare up io.now
    have hcalm := calm_prepare h io.now
    have hmiddle := flightStep_outcome hcalm.ok outcome fun hstrict hharvest => by
      have hok := hok hstrict
      rw [strayPing, runs, hharvest] at hok
      have hawaits : awaitsPing (pumpStep (prepareStep s io.now).2 io.pump).2 = true := by
        simpa using hok
      exact hawaits
    have ht : FlightStep strict s t := by
      rw [applied]
      exact ⟨hmiddle.ok, fun hstrict hp => hcalm.active (hmiddle.pinging hstrict hp)⟩
    have hrx : RxOk t.u3 := applied ▸ (hprep.apply hup' outcome).rx
    split_ifs
    · exact ht
    · exact ht.then (keepsFlight_drain hrx ht.ok)

theorem calm_bind (hcoupled : Coupled s) (h : s.flight.Ok strict) (io : BindIo) :
    Calm strict s (bindLogical s io).2 := by
  have hb := hcoupled.binding io
  generalize (bindLogical s io).2 = s' at hb
  cases hb with
  | refused => exact .refl h
  | exhausted => exact .of_eq h rfl
  | bound =>
    dsimp only
    split
    · exact calm_fenced rfl (fun _ => rfl) rfl rfl
    · exact calm_fenced rfl (fun _ => rfl) rfl rfl

theorem calm_unbind (hcoupled : Coupled s) (h : s.flight.Ok strict) :
    Calm strict s (unbindLogical s).2 := by
  by_cases hup : s.state = .disconnected
  · rw [unbindLogical, if_pos hup]
    exact .refl h
  · obtain ⟨u, -, -, -, -, -, heq⟩ := hcoupled.unbinding hup
    rw [heq]
    exact ⟨⟨.of_empty (fun _ => rfl) rfl rfl, by rintro ⟨⟩⟩, by rintro ⟨⟩⟩

end Runs

/-- A `PONG` of the active session that names the request and the token in slot `i` is taken as the
answer of the `PING` there, and clears it. -/
structure PongClears (s : LogicalSession) (i : Fin inflightMax) : Prop where
  taken : ∀ m : Message, m.requestId = (s.inflight i).requestId → namesActiveSession s m = true →
    onPong s m (s.inflight i).echoToken = onMatchedPong s i
  freed : ((onMatchedPong s i).inflight i).kind = .none
  stopped : (onMatchedPong s i).pingInflight = false

/-- The bookkeeping of the requests in flight. -/
structure InflightAgrees (s : LogicalSession) : Prop where
  count : s.inflightCount = (Finset.univ.filter fun i => (s.inflight i).kind ≠ .none).card
  hello : ∀ i j, (s.inflight i).kind = .hello → (s.inflight j).kind = .hello → i = j
  ping : ∀ i j, (s.inflight i).kind = .ping → (s.inflight j).kind = .ping → i = j
  actions : s.actions.length ≤ txActionMax
  pinging : s.pingInflight = true → s.state = .sessionActive ∧
    ∃ i, (s.inflight i).kind = .ping ∧ PongClears s i

theorem pongClears {s : LogicalSession} (hrole : s.role = .controller)
    (hs : s.state = .sessionActive) {i : Fin inflightMax}
    (hfind : inflightFindKind s .ping = some i) :
    PongClears s i where
  taken m hid hnames := by
    have hstate : ¬ (s.role ≠ .controller ∨ s.state ≠ .sessionActive) :=
      not_or.2 ⟨not_not.2 hrole, not_not.2 hs⟩
    have hmatch : ¬ ((s.inflight i).requestId ≠ m.requestId ∨
        (s.inflight i).echoToken ≠ (s.inflight i).echoToken) :=
      not_or.2 ⟨not_not.2 hid.symm, not_not.2 rfl⟩
    rw [onPong, if_neg hstate, if_neg (by rw [hnames]; decide), hfind]
    exact if_neg hmatch
  freed := by
    have hrem : ((inflightRemoveIndex s i).inflight i).kind = .none :=
      (congrFun (congrArg Flight.kinds (flight_removeIndex s i)) i).trans (update_self ..)
    unfold onMatchedPong
    dsimp only
    split
    · exact hrem
    · exact hrem
  stopped := by
    unfold onMatchedPong
    dsimp only
    split <;> rfl

theorem Flight.Ok.agrees {s : LogicalSession} (h : s.flight.Ok True) (hplanned : Planned s) :
    InflightAgrees s where
  count := h.count
  hello := h.hello
  ping := h.ping
  actions := hplanned.room
  pinging hp := by
    obtain ⟨hactive, i, hi⟩ := h.pinging trivial hp
    have hrole : s.role = .controller := by
      cases hrole : s.role with
      | controller => rfl
      | cell => exact absurd ((h.cell hrole i).symm.trans hi) (by decide)
    cases hfind : inflightFindKind s .ping with
    | none => exact absurd hi (findTag_eq_none.1 hfind i)
    | some j => exact ⟨hactive, j, findTag_eq_some hfind, pongClears hrole hactive hfind⟩

/-- The part of the invariant that needs no condition. -/
theorem flight_run (config : LogicalConfig) (calls : List LogicalCall) :
    (LogicalSession.run config calls).flight.Ok False := by
  unfold LogicalSession.run
  induction calls using List.reverseRecOn with
  | nil => exact .of_empty (fun _ => rfl) rfl rfl
  | append_singleton calls c ih =>
    have hcoupled := coupled_run config calls
    rw [List.foldl_append]
    cases c with
    | bind io => exact (calm_bind hcoupled ih io).ok
    | unbind => exact (calm_unbind hcoupled ih).ok
    | step io => exact (flightStep_step hcoupled ih io nofun).ok

/-- **The requests in flight**: in every run without a stray `PING`, of either role, the count, the
table and the flag of the waiting `PING` agree, and a call that finds the session not active leaves
it without a deadline for a `PONG`. -/
theorem inflight_run (config : LogicalConfig) (calls : List LogicalCall)
    (hcautious : Cautious (fun s io => !strayPing s io) (.init config) calls) :
    InflightAgrees (.run config calls) ∧
      ∀ before c after, calls = before ++ c :: after →
        (LogicalSession.run config before).state ≠ .sessionActive →
        (LogicalSession.run config (before ++ [c])).pingInflight = false := by
  have hrun : ∀ calls, Cautious (fun s io => !strayPing s io) (.init config) calls →
      (LogicalSession.run config calls).flight.Ok True := by
    intro calls hcalls
    refine cautious_rule (P := fun s => s.flight.Ok True) ?_ ?_ ?_
      (.of_empty (fun _ => rfl) rfl rfl) hcalls
    · exact fun s io hcoupled hs => (calm_bind hcoupled hs io).ok
    · exact fun s hcoupled hs => (calm_unbind hcoupled hs).ok
    · exact fun s io hcoupled hs hok =>
        (flightStep_step hcoupled hs io fun _ => by simpa using hok).ok
  refine ⟨(hrun calls hcautious).agrees (planned_run config calls), ?_⟩
  rintro before c after rfl hinactive
  obtain ⟨hbefore, hrest⟩ := cautious_append.1 hcautious
  have hs := hrun before hbefore
  have hcoupled := coupled_run config before
  have hcall : FlightStep True (.run config before) (LogicalSession.call (.run config before) c) := by
    cases c with
    | bind io => exact (calm_bind hcoupled hs io).toKeepsFlight.flightStep hs
    | unbind => exact (calm_unbind hcoupled hs).toKeepsFlight.flightStep hs
    | step io =>
      have hok : strayPing (LogicalSession.run config before) io = false := by
        simpa [LogicalSession.run] using hrest.1
      exact flightStep_step hcoupled hs io fun _ => hok
  rw [LogicalSession.run, List.foldl_append]
  exact Bool.eq_false_iff.2 fun hp => hinactive (hcall.pinging trivial hp)

/-! ### A `PING` after a fence -/

/-- A Cell's answer to a `HELLO`. -/
def sampleAck (requestId generation : UInt32) : Message :=
  { requestId, sessionGeneration := generation, sessionCookie := 1, body := .helloAck 1 0 helloOk 0 }

/-- A Controller says `HELLO` and is answered; its first `PING` is handed over, but not taken. -/
def pingingRun : List LogicalCall :=
  [.bind upIo, .step { now := 0, pump := quietIo (fullWrite 60) },
    .step { now := 1, pump := deliverIo (messageFrame 0 (sampleAck 1 1)) blockedWrite },
    .step { now := 2, pump := quietIo blockedWrite }]

/-- The `PING` is taken. -/
def takenPingRun : List LogicalCall :=
  pingingRun ++ [.step { now := 3, pump := quietIo (fullWrite 60) }]

theorem taken_ping_agrees :
    InflightAgrees (.run (sampleConfig .controller) takenPingRun) ∧
      (LogicalSession.run (sampleConfig .controller) takenPingRun).pingInflight = true :=
  ⟨(inflight_run (sampleConfig .controller) takenPingRun ⟨by decide +kernel, by decide +kernel,
    by decide +kernel, by decide +kernel, trivial⟩).1, by decide +kernel⟩

/-- An overflow fences the session before the `PING` is taken. -/
def fencedPingRun : List LogicalCall :=
  pingingRun ++ [.step { now := 3, pump := { quietIo blockedWrite with pollRxOverflow := true } },
    .step { now := 3, pump := quietIo (fullWrite 60) }]

/-- The Controller says `HELLO` again and is answered. -/
def reopenedRun : List LogicalCall :=
  fencedPingRun ++ [.step { now := 4, pump := quietIo (fullWrite 60) },
    .step { now := 5, pump := deliverIo (messageFrame 0 (sampleAck 3 2)) blockedWrite }]

/-- The fenced session waits for a `PONG` without a `PING` in flight, and the session that is opened
after it inherits the deadline. -/
theorem fenced_ping_waits :
    (LogicalSession.run (sampleConfig .controller) fencedPingRun).pingInflight = true ∧
      (LogicalSession.run (sampleConfig .controller) fencedPingRun).state ≠ .sessionActive ∧
      inflightFindKind (.run (sampleConfig .controller) fencedPingRun) .ping = none ∧
      (LogicalSession.run (sampleConfig .controller) reopenedRun).state = .sessionActive ∧
      (LogicalSession.run (sampleConfig .controller) reopenedRun).pingInflight = true := by
  decide +kernel

end Ninlil.Control
