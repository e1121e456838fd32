import Ninlil.Control.Handshake

/-!
# A Controller and a Cell

Two logical sessions whose streams deliver to each what was accepted from the other.

* `Pair`, `Pair.run`: the two sessions, and their joint runs in any order of calls;
* `Joined`: each stream delivers, any number of times or not at all, frames it accepted;
* `HandshakeAgrees`: what the two agree about;
* `handshake_agreement`: it holds in every joint run.
-/

namespace Ninlil.Control

/-! ### Joint runs -/

/-- A Controller and a Cell, each with its history. -/
structure Pair where
  controller : LogicalSession
  cell : LogicalSession

/-- A call by the owner of one of the two. -/
def Pair.call (p : Pair) : Role × LogicalCall → Pair
  | (.controller, c) => { p with controller := p.controller.call c }
  | (.cell, c) => { p with cell := p.cell.call c }

/-- A joint run of two sessions from their initialization. -/
def Pair.run (controller cell : LogicalConfig) (calls : List (Role × LogicalCall)) : Pair :=
  calls.foldl Pair.call { controller := .init controller, cell := .init cell }

/-- The calls of one party. -/
def callsOf (role : Role) (calls : List (Role × LogicalCall)) : List LogicalCall :=
  calls.filterMap fun c => if c.1 = role then some c.2 else none

/-- The frames a session parsed off its stream. -/
def receivedFrames (log : List TxEvent) : List FrameFields :=
  log.filterMap fun
    | .received fields => some fields
    | _ => none

/-- The frames of a session that its stream accepted whole. -/
def acceptedFrames (log : List TxEvent) : List FrameFields :=
  log.filterMap fun
    | .submitted token fields =>
      if (offersOf log token).any fun o => o.status == .ok && o.accepted == o.bytes.length then
        some fields
      else none
    | _ => none

/-- A stream delivers only frames that it accepted. -/
def Delivers (sender receiver : LogicalSession) : Prop :=
  receivedFrames receiver.u3.log ⊆ acceptedFrames sender.u3.log

/-- At every moment of a joint run, both streams deliver only what they accepted before. -/
def Joined (controller cell : LogicalConfig) (calls : List (Role × LogicalCall)) : Prop :=
  ∀ before ∈ calls.inits,
    Delivers (Pair.run controller cell before).controller (Pair.run controller cell before).cell ∧
      Delivers (Pair.run controller cell before).cell (Pair.run controller cell before).controller

instance (sender receiver : LogicalSession) : Decidable (Delivers sender receiver) :=
  inferInstanceAs (Decidable (receivedFrames receiver.u3.log ⊆ acceptedFrames sender.u3.log))

instance (controller cell : LogicalConfig) (calls : List (Role × LogicalCall)) :
    Decidable (Joined controller cell calls) :=
  inferInstanceAs (Decidable (∀ before ∈ calls.inits, _))

section Joint

variable {controller cell : LogicalConfig} {calls : List (Role × LogicalCall)}

/-- In a joint run each session makes a run of its own. -/
theorem pair_run (controller cell : LogicalConfig) (calls : List (Role × LogicalCall)) :
    Pair.run controller cell calls =
      { controller := .run controller (callsOf .controller calls)
        cell := .run cell (callsOf .cell calls) } := by
  unfold Pair.run LogicalSession.run
  induction calls using List.reverseRecOn with
  | nil => rfl
  | append_singleton calls c ih =>
    rw [List.foldl_append, ih]
    obtain ⟨role, c⟩ := c
    cases role <;> simp [callsOf, Pair.call]

theorem mem_receivedFrames {log : List TxEvent} {fields : FrameFields} :
    fields ∈ receivedFrames log ↔ .received fields ∈ log := by
  unfold receivedFrames
  rw [List.mem_filterMap]
  constructor
  · rintro ⟨e, he, heq⟩
    cases e <;> cases heq
    exact he
  · exact fun h => ⟨_, h, rfl⟩

theorem submitted_of_accepted {log : List TxEvent} {fields : FrameFields}
    (h : fields ∈ acceptedFrames log) : ∃ token, .submitted token fields ∈ log := by
  unfold acceptedFrames at h
  obtain ⟨e, he, heq⟩ := List.mem_filterMap.1 h
  cases e with
  | submitted token sent =>
    dsimp only at heq
    split_ifs at heq
    cases heq
    exact ⟨token, he⟩
  | _ => cases heq

variable {sender receiver : LogicalSession}

/-- A message that one session heard was accounted for by the other. -/
theorem accounted_of_received (hplanned : Planned sender)
    (hdelivers : Delivers sender receiver) {fields : FrameFields}
    (hrec : .received fields ∈ receiver.u3.log) {m : Message}
    (hd : decodeMessage fields.payload fields.type = .ok m) :
    Accounted sender.role sender.trace m := by
  obtain ⟨token, hsub⟩ := submitted_of_accepted (hdelivers (mem_receivedFrames.2 hrec))
  obtain ⟨m', hd', hm'⟩ := hplanned.frames token fields hsub
  rw [hd] at hd'
  cases hd'
  exact hm'

/-- An acknowledgement that the Controller heard is one that the Cell planned. -/
theorem acknowledged_of_heard (hplanned : Planned sender)
    (hdelivers : Delivers sender receiver) {r g : UInt32} {c : UInt64}
    (h : (heardIn receiver.u3.log).ack r g c) : .acknowledged r g c ∈ sender.trace := by
  obtain ⟨fields, m, version, flags, reserved, hrec, hd, hbody, rfl, rfl, rfl⟩ := h
  have haccounted := accounted_of_received hplanned hdelivers hrec hd
  unfold Accounted at haccounted
  rw [hbody] at haccounted
  exact haccounted.2 rfl

/-- A `HELLO` that the Cell heard is one that the Controller planned. -/
theorem requested_of_heard (hplanned : Planned sender)
    (hdelivers : Delivers sender receiver) {r : UInt32} (h : (heardIn receiver.u3.log).hello r) :
    .requested r ∈ sender.trace := by
  obtain ⟨fields, m, low, high, flags, reserved, hrec, hd, hbody, rfl⟩ := h
  have haccounted := accounted_of_received hplanned hdelivers hrec hd
  unfold Accounted at haccounted
  rw [hbody] at haccounted
  exact haccounted.2

theorem role_run (config : LogicalConfig) (calls : List LogicalCall) :
    (LogicalSession.run config calls).role = config.role := by
  unfold LogicalSession.run
  induction calls using List.reverseRecOn with
  | nil => rfl
  | append_singleton calls c ih =>
    have hcoupled := coupled_run config calls
    rw [List.foldl_append]
    cases c with
    | bind io => exact (role_bind hcoupled io).trans ih
    | unbind => exact (role_unbind hcoupled).trans ih
    | step io => exact (role_step hcoupled io).trans ih

end Joint

/-! ### Exhaustion -/

/-- A `HELLO` to a Cell that used up its generations: no acknowledgement is planned, and the answer,
if there is room for one, is `HELLO_BUSY`. -/
structure AnswersBusy (s : LogicalSession) (requestId : UInt32) (fenceFirst : Bool) : Prop where
  trace : (onValidHelloCell s requestId fenceFirst).trace = s.trace
  stays : (onValidHelloCell s requestId fenceFirst).lastIssuedGeneration = seqMax
  answer : (readyForHello s fenceFirst).actions.length < txActionMax →
    (onValidHelloCell s requestId fenceFirst).actions = (readyForHello s fenceFirst).actions ++
      [{ kind := .helloAck, requestId, helloResult := helloBusy }]

theorem noteLogicalReject_counters (s : LogicalSession) :
    (noteLogicalReject s).counters = s.counters := by
  unfold noteLogicalReject fenceAndRehello
  dsimp only
  split_ifs <;> rfl

theorem answersBusy_of_exhausted {s : LogicalSession} (h : s.lastIssuedGeneration = seqMax)
    (requestId : UInt32) (fenceFirst : Bool) : AnswersBusy s requestId fenceFirst := by
  have hready : (readyForHello s fenceFirst).counters = s.counters := by
    cases fenceFirst <;> rfl
  have htrace : (readyForHello s fenceFirst).trace = s.trace := congrArg (·.2.2.2) hready
  have hlast : (readyForHello s fenceFirst).lastIssuedGeneration = seqMax :=
    (congrArg (·.2.2.1) hready).trans h
  have hplan := onValidHelloCell_plan s requestId fenceFirst
  generalize hs' : onValidHelloCell s requestId fenceFirst = s' at hplan
  have hgoal : s'.trace = s.trace ∧ s'.lastIssuedGeneration = seqMax ∧
      ((readyForHello s fenceFirst).actions.length < txActionMax →
        s'.actions = (readyForHello s fenceFirst).actions ++
          [{ kind := .helloAck, requestId, helloResult := helloBusy }]) := by
    cases hplan with
    | full full =>
      have hkept := noteLogicalReject_counters (readyForHello s fenceFirst)
      exact ⟨(congrArg (·.2.2.2) hkept).trans htrace, (congrArg (·.2.2.1) hkept).trans hlast,
        fun hroom => absurd hroom (not_lt.2 full)⟩
    | busy => exact ⟨htrace, hlast, fun _ => rfl⟩
    | ok _ _ left => exact absurd hlast left
  subst hs'
  exact ⟨hgoal.1, hgoal.2.1, hgoal.2.2⟩

/-! ### Agreement -/

/-- The Controller takes the pair of an acknowledgement that the Cell planned, and that answers the
`HELLO` which it planned last and had in flight. -/
structure Agreed (p : Pair) (r g : UInt32) (c : UInt64) (older : List SessionEvent) : Prop where
  acknowledged : .acknowledged r g c ∈ p.cell.trace
  answers : pending older = some r
  generation : g ≠ 0
  cookie : c ≠ 0

/-- What a Controller and a Cell agree about after a joint run. -/
structure HandshakeAgrees (controller cell : LogicalConfig) (calls : List (Role × LogicalCall)) :
    Prop where
  /-- A call that makes the Controller active makes it take the pair it then holds. -/
  becomes : ∀ before c after, calls = before ++ c :: after →
    (Pair.run controller cell before).controller.state ≠ .sessionActive →
    (Pair.run controller cell (before ++ [c])).controller.state = .sessionActive →
    ∃ r g cookie older,
      (Pair.run controller cell (before ++ [c])).controller.activeGeneration = g ∧
      (Pair.run controller cell (before ++ [c])).controller.activeCookie = cookie ∧
      (.activated r g cookie :: older) <:+
        (Pair.run controller cell (before ++ [c])).controller.trace ∧
      (Pair.run controller cell before).controller.trace <:+ older ∧
      Agreed (Pair.run controller cell (before ++ [c])) r g cookie older
  /-- So does every activation of its history, also one that did not last to the end of a call. -/
  taken : ∀ r g c older,
    (.activated r g c :: older) <:+ (Pair.run controller cell calls).controller.trace →
    Agreed (Pair.run controller cell calls) r g c older
  /-- The Cell acknowledges only what was requested, and a request id names one `HELLO`. -/
  answered : ∀ r g c, .acknowledged r g c ∈ (Pair.run controller cell calls).cell.trace →
    .requested r ∈ (Pair.run controller cell calls).controller.trace
  distinct : (requests (Pair.run controller cell calls).controller.trace).Nodup
  /-- The generations of the acknowledgements grow, newest first in the history. -/
  increasing : (generations (Pair.run controller cell calls).cell.trace).Pairwise (· > ·)
  issued : ∀ g ∈ generations (Pair.run controller cell calls).cell.trace,
    g ≤ (Pair.run controller cell calls).cell.lastIssuedGeneration
  /-- Once they are used up, every `HELLO` is answered by `HELLO_BUSY`. -/
  exhausted : ∀ s : LogicalSession, s.lastIssuedGeneration = seqMax →
    ∀ requestId fenceFirst, AnswersBusy s requestId fenceFirst

section Agreement

variable {controller cell : LogicalConfig} {calls : List (Role × LogicalCall)}

theorem agreed_of_taken
    (hdelivers : Delivers (Pair.run controller cell calls).cell
      (Pair.run controller cell calls).controller) {r g : UInt32} {c : UInt64}
    {older : List SessionEvent}
    (hsuf : (.activated r g c :: older) <:+ (Pair.run controller cell calls).controller.trace) :
    Agreed (Pair.run controller cell calls) r g c older := by
  rw [pair_run] at hdelivers hsuf ⊢
  obtain ⟨hack, hpending⟩ := (handshake_run controller (callsOf .controller calls)).activated
    r g c older hsuf
  have hmem := acknowledged_of_heard (planned_run cell (callsOf .cell calls)) hdelivers hack
  obtain ⟨-, hg, hc⟩ := (handshake_run cell (callsOf .cell calls)).acknowledged r g c hmem
  exact ⟨hmem, hpending, hg, hc⟩

/-- A Controller that becomes active takes a pair in that very call. -/
theorem taken_of_becomes {s : LogicalSession} {c : LogicalCall} (hcall : HandshakeCall s (s.call c))
    (hrole : (s.call c).role = .controller) (hs : s.state ≠ .sessionActive)
    (hs' : (s.call c).state = .sessionActive) : ∃ r older,
      (.activated r (s.call c).activeGeneration (s.call c).activeCookie :: older) <:+
        (s.call c).trace ∧ s.trace <:+ older := by
  obtain ⟨-, htaken⟩ := Handshake.taken (session_none (.inl hs)) hcall.steps
  exact htaken ((s.call c).activeGeneration, (s.call c).activeCookie) (if_pos ⟨hrole, hs'⟩)

/-- **Agreement of the handshake**: in every joint run of a Controller and a Cell over streams that
deliver only what they accepted, as long as the request ids last. -/
theorem handshake_agreement (controller cell : LogicalConfig)
    (hroles : controller.role = .controller ∧ cell.role = .cell)
    (calls : List (Role × LogicalCall))
    (hjoined : Joined controller cell calls)
    (hids : (allocations (Pair.run controller cell calls).controller.trace).length < 2 ^ 32 - 1) :
    HandshakeAgrees controller cell calls where
  becomes := by
    rintro before c after rfl hs hs'
    have hprefix : before ++ [c] ∈ (before ++ c :: after).inits :=
      (List.mem_inits _ _).2 ⟨after, by simp⟩
    obtain ⟨-, hdelivers⟩ := hjoined (before ++ [c]) hprefix
    have hagreed := fun r g c older => @agreed_of_taken controller cell _ hdelivers r g c older
    have hstep : Pair.run controller cell (before ++ [c]) =
        (Pair.run controller cell before).call c := by
      rw [Pair.run, List.foldl_append]
      rfl
    obtain ⟨role, c⟩ := c
    cases role with
    | cell =>
      rw [hstep] at hs'
      exact absurd hs' hs
    | controller =>
      have hrun : (Pair.run controller cell before).controller =
          .run controller (callsOf .controller before) := by rw [pair_run]
      have hrole : (Pair.run controller cell (before ++ [(.controller, c)])).controller.role =
          .controller := by
        rw [pair_run]
        exact (role_run _ _).trans hroles.1
      rw [hstep] at hs' hrole hagreed ⊢
      have hcall : HandshakeCall (Pair.run controller cell before).controller
          ((Pair.run controller cell before).controller.call c) := by
        rw [hrun]
        exact handshake_call (coupled_run _ _) (flight_run _ _) c
      obtain ⟨r, older, hsuf, hold⟩ := taken_of_becomes hcall hrole hs hs'
      exact ⟨r, _, _, older, rfl, rfl, hsuf, hold, hagreed r _ _ older hsuf⟩
  taken r g c older hsuf :=
    agreed_of_taken (hjoined calls ((List.mem_inits _ _).2 (List.prefix_refl calls))).2 hsuf
  answered r g c hmem := by
    obtain ⟨hdelivers, -⟩ := hjoined calls ((List.mem_inits _ _).2 (List.prefix_refl calls))
    rw [pair_run] at hdelivers hmem ⊢
    obtain ⟨hhello, -, -⟩ := (handshake_run cell (callsOf .cell calls)).acknowledged r g c hmem
    exact requested_of_heard (planned_run controller (callsOf .controller calls)) hdelivers hhello
  distinct := by
    rw [pair_run] at hids ⊢
    have hok := handshake_run controller (callsOf .controller calls)
    exact hok.requests.nodup (hok.ids hids).nodup
  increasing := by
    rw [pair_run]
    exact (handshake_run cell (callsOf .cell calls)).generations.sorted
  issued := by
    rw [pair_run]
    exact (handshake_run cell (callsOf .cell calls)).generations.below
  exhausted _ hs requestId fenceFirst := answersBusy_of_exhausted hs requestId fenceFirst

end Agreement

/-! ### A handshake -/

/-- The first `HELLO` of a Controller. -/
def firstHello : Message :=
  { requestId := 1, sessionGeneration := 0, sessionCookie := 0, body := .hello 1 1 0 0 }

/-- Both are bound, the Controller says `HELLO`, the Cell hears it and answers, and the Controller
hears the answer. -/
def greetingRun : List (Role × LogicalCall) :=
  [(.controller, .bind upIo), (.cell, .bind upIo),
    (.controller, .step { now := 0, pump := quietIo (fullWrite 60) }),
    (.cell, .step { now := 0, pump := deliverIo (messageFrame 0 firstHello) blockedWrite }),
    (.cell, .step { now := 1, pump := quietIo (fullWrite 60) }),
    (.controller,
      .step { now := 1, pump := deliverIo (messageFrame 0 (sampleAck 1 1)) blockedWrite })]

theorem greeting_agrees :
    HandshakeAgrees (sampleConfig .controller) (sampleConfig .cell) greetingRun ∧
      (Pair.run (sampleConfig .controller) (sampleConfig .cell) greetingRun).controller.state =
        .sessionActive :=
  ⟨handshake_agreement (sampleConfig .controller) (sampleConfig .cell) ⟨rfl, rfl⟩ greetingRun
    (by decide +kernel) (by decide +kernel), by decide +kernel⟩

end Ninlil.Control
